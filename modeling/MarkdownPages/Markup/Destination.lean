import MarkdownPages.Markup.Source
import MarkdownPages.Text.CaseFold
import MarkdownPages.Text.Entity
import MarkdownPages.Text.Punctuation

/-!
# Destinations, titles and labels

The parts of a link: the destination, which may stand between `<` and `>`, the title in quotes or
parentheses, and the label that refers to a definition elsewhere. A definition gives a destination
and a title to a label.

## Main definitions

* `unescape` — a text with its escapes and character references resolved
* `Source.destination?`, `Source.title?`, `Source.label?` — the parts of a link
* `Definition`, `Source.definition?` — a definition of a label
* `labelKey` — what two labels have in common that are the same label
-/

namespace MarkdownPages

namespace Markup

/-! ### Escapes -/

/-- The text with backslash escapes and character references resolved, and without carriage
returns. In a table, two backslashes before a bar stand for nothing. -/
def unescape (inTable : Bool) : Nat → List Char → List Char
  | 0, s => s
  | _, [] => []
  | fuel + 1, '\\' :: '\\' :: '|' :: rest =>
    if inTable then '|' :: unescape inTable fuel rest
    else '\\' :: unescape inTable fuel ('|' :: rest)
  | fuel + 1, '\\' :: c :: rest =>
    if Text.isAsciiPunctuation c then c :: unescape inTable fuel rest
    else '\\' :: unescape inTable fuel (c :: rest)
  | fuel + 1, '\r' :: rest => unescape inTable fuel rest
  | fuel + 1, c :: rest =>
    match Text.reference? (c :: rest) with
    | some (image, rest) => image ++ unescape inTable fuel rest
    | none => c :: unescape inTable fuel rest

/-- The string with its escapes and character references resolved. -/
def unescaped (inTable : Bool) (s : List Char) : String :=
  String.ofList (unescape inTable (s.length + 1) s)

/-- The length of an escape: a backslash escapes an ASCII punctuation character. -/
def isEscape (source : Source) (i : Nat) : Bool :=
  source.at? i == some '\\' && ((source.at? (i + 1)).map Text.isAsciiPunctuation).getD false

namespace Source

/-! ### Destinations -/

/-- The place of the `>` that ends a destination whose contents start at `i`. -/
def pointyEnd? (source : Source) (i : Nat) : Option Nat :=
  if h : i < source.chars.size then
    let c := source.chars[i]
    if c == '>' then some i
    else if c == '\n' || c == '\r' || c == '<' then none
    else if isEscape source i then source.pointyEnd? (i + 2)
    else source.pointyEnd? (i + 1)
  else none
termination_by source.chars.size - i

/-- The end of a destination without pointed brackets, with `open` parentheses to be closed and at
most `limit + 1` open at a time. -/
def bareEnd? (source : Source) (limit : Nat) (depth i : Nat) : Option Nat :=
  if h : i < source.chars.size then
    let c := source.chars[i]
    if c.toNat ≤ 0x20 then if depth = 0 then some i else none
    else if c == '(' then
      if limit < depth then none else source.bareEnd? limit (depth + 1) (i + 1)
    else if c == ')' then
      if depth = 0 then some i else source.bareEnd? limit (depth - 1) (i + 1)
    else if isEscape source i then source.bareEnd? limit depth (i + 2)
    else source.bareEnd? limit depth (i + 1)
  else if depth = 0 then some i else none
termination_by source.chars.size - i

/-- The destination at `i`, as written, and its end. -/
def destination? (source : Source) (limit i : Nat) : Option (List Char × Nat) :=
  if source.at? i == some '<' then
    (source.pointyEnd? (i + 1)).map fun stop => (source.slice (i + 1) stop, stop + 1)
  else (source.bareEnd? limit 0 i).map fun stop => (source.slice i stop, stop)

/-! ### Titles -/

/-- The character that ends a title that starts with the given one. -/
def titleClose? : Char → Option Char
  | '"' => some '"'
  | '\'' => some '\''
  | '(' => some ')'
  | _ => none

/-- The place where the text of the next line starts, if the line ends at `i`. -/
def nextLineStart? (source : Source) (i : Nat) : Option Nat :=
  match source.spans.find? (·.next == i + 1) with
  | some _ => (source.spans.find? (·.first == i + 1)).map (·.start)
  | none => none

/-- The rest of a title from `i` on, with its escapes resolved, and its end. A line goes on at the
text of the next one. -/
def titleFrom? (source : Source) (opening closing : Char) : Nat → Nat → Option (List Char × Nat)
  | 0, _ => none
  | fuel + 1, i =>
    let more := fun (text : List Char) (next : Nat) =>
      (source.titleFrom? opening closing fuel next).map fun (rest, stop) => (text ++ rest, stop)
    match source.at? i with
    | none => none
    | some c =>
      if c == closing then some ([], i + 1)
      else if c == opening then none
      else if c == '\n' || c == '\r' then
        match source.nextLineStart? i with
        | some next => more ['\n'] next
        | none => more [c] (i + 1)
      else if c == '&' then
        match Text.reference? (source.slice i (i + 40)) with
        | some (image, rest) => more image (i + ((source.slice i (i + 40)).length - rest.length))
        | none => more [c] (i + 1)
      else if source.inTable && source.hasAt ['\\', '\\', '|'] i then more ['|'] (i + 3)
      else if isEscape source i then more (source.slice (i + 1) (i + 2)) (i + 2)
      else more [c] (i + 1)

/-- The title at `i`, with its escapes resolved, and its end. -/
def title? (source : Source) (i : Nat) : Option (List Char × Nat) := do
  let opening ← source.at? i
  let closing ← titleClose? opening
  source.titleFrom? opening closing (source.chars.size + 1) (i + 1)

/-- The rest of the title of a definition from `i` on, as written but for the ends of lines, and
its end. -/
def rawTitleFrom? (source : Source) (closing : Char) : Nat → Nat → Option (List Char × Nat)
  | 0, _ => none
  | fuel + 1, i =>
    let more := fun (text : List Char) (next : Nat) =>
      (source.rawTitleFrom? closing fuel next).map fun (rest, stop) => (text ++ rest, stop)
    match source.at? i with
    | none => none
    | some c =>
      if c == closing then some ([], i + 1)
      else if c == '(' && closing == ')' then none
      else
        match source.endLength? i with
        | some length =>
          more ['\n'] (source.skipWhile (fun c => c == ' ' || c == '\t')
            (source.afterMarkers (i + length)))
        | none =>
          if c == '\\' && (source.endLength? (i + 1)).isNone then
            more (source.slice i (i + 2)) (i + 2)
          else more [c] (i + 1)

/-- The title of a definition at `i`, as written, and its end. -/
def rawTitle? (source : Source) (i : Nat) : Option (List Char × Nat) := do
  let opening ← source.at? i
  let closing ← titleClose? opening
  source.rawTitleFrom? closing (source.chars.size + 1) (i + 1)

/-! ### Labels -/

/-- Passes over white space in a label, and tells how wide it counts: a single space counts one,
anything else more. It fails where lines must not be left. -/
def labelSpace? (source : Source) (manyLines : Bool) : Nat → Nat → Option (Nat × Nat)
  | 0, _ => none
  | fuel + 1, i =>
    match source.at? i with
    | none => some (0, i)
    | some c =>
      if isSpace c then
        match source.endLength? i with
        | some length =>
          if manyLines then
            (source.labelSpace? manyLines fuel (source.afterMarkers (i + length))).map
              fun (width, stop) => (width + 2, stop)
          else none
        | none =>
          (source.labelSpace? manyLines fuel (i + 1)).map fun (width, stop) =>
            (width + (if c == ' ' then 1 else 2), stop)
      else some (0, i)

/-- The rest of a label from `i` on, with each stretch of white space collapsed, and the place
after its bracket. A label has fewer than a thousand characters and no bracket inside. -/
def labelFrom? (source : Source) (manyLines : Bool) :
    Nat → Nat → Nat → Option (List Char × Nat)
  | 0, _, _ => none
  | fuel + 1, count, i =>
    let more := fun (text : List Char) (width next : Nat) =>
      (source.labelFrom? manyLines fuel (count + width) next).map
        fun (rest, stop) => (text ++ rest, stop)
    if 1000 ≤ count then none
    else
      match source.at? i with
      | none => none
      | some '[' => none
      | some ']' => some ([], i + 1)
      | some '\\' =>
        if source.inTable && source.at? (i + 1) == some '|' then more ['|'] 2 (i + 2)
        else more (source.slice i (i + 2)) 2 (i + 2)
      | some c =>
        if isSpace c then
          match source.labelSpace? manyLines (source.chars.size + 1) i with
          | some (width, stop) =>
            if width > 1 then more [' '] (stop - i) stop else more [c] 1 stop
          | none => none
        else more [c] 1 (i + 1)

/-- The label whose text starts at `i`, without white space at its ends, and the place after its
bracket. A label is not blank. -/
def label? (source : Source) (manyLines : Bool) (i : Nat) : Option (List Char × Nat) :=
  match source.labelFrom? manyLines (source.chars.size + 1) 0 i with
  | some (text, stop) =>
    let text := ((text.dropWhile isSpace).reverse.dropWhile isSpace).reverse
    if text.isEmpty then none else some (text, stop)
  | none => none

end Source

/-- Labels are the same when they agree up to case. -/
def labelKey (label : List Char) : List Char := Text.folded label

/-! ### Definitions -/

/-- What a label stands for. -/
structure Definition where
  destination : String
  title : String
deriving Inhabited, Repr

namespace Source

/-- Passes over white space with at most one end of a line, and tells how many there were. It
fails where the block ends. -/
def definitionSpace? (source : Source) (i : Nat) : Option (Nat × Nat) :=
  let i := source.skipWhile isLineSpace i
  match source.endLength? i with
  | none => some (0, i)
  | some length =>
    let next := source.skipWhile isLineSpace (source.afterMarkers (i + length))
    if length = 0 || (source.endLength? next).isSome then none else some (1, next)

/-- Whether nothing but white space is left of the line at `i`. -/
def isBlankFrom (source : Source) (i : Nat) : Bool :=
  (source.endLength? (source.skipWhile isLineSpace i)).isSome

/-- The definition at the start of a block, with its label, and its end. A title that is not
followed by the end of its line is no title, and only a line of its own may then be left. -/
def definition? (source : Source) : Option (List Char × Definition × Nat) := do
  if source.at? 0 != some '[' then none
  let (label, i) ← source.label? true 1
  if source.at? i != some ':' then none
  let (_, i) ← source.definitionSpace? (i + 1)
  let (written, stop) ← source.destination? 1 i
  if stop = i then none
  let destination := unescaped source.inTable written
  let untitled : List Char × Definition × Nat := (label, ⟨destination, ""⟩, stop)
  match source.definitionSpace? stop with
  | none => some untitled
  | some (lines, i) =>
    if i = stop && lines = 0 then none
    else
      match source.rawTitle? i with
      | some (title, stop) =>
        if source.isBlankFrom stop then
          some (label, ⟨destination, unescaped source.inTable title⟩, stop)
        else if lines = 0 then none
        else some untitled
      | none => if lines = 0 then none else some untitled

end Source

end Markup

end MarkdownPages
