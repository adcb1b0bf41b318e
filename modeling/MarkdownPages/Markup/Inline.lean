import MarkdownPages.Markup.Tag
import MarkdownPages.Markup.Token

/-!
# Inline markup

Code, raw HTML, formulas, links, images and footnote references are found in the tokens of a block
from left to right: the first that can start does, and takes the tokens up to its end. Brackets
are kept until the matching one shows whether they make a link. Runs of emphasis marks stay as
they are until all links are known.

## Main definitions

* `Inline` — a piece of inline markup
* `References` — what labels stand for
* `Source.inlines` — the inline markup of a source, with unresolved emphasis marks
-/

namespace MarkdownPages

namespace Markup

/-- Ways in which text stands out. -/
inductive Style where
  | emphasis
  | strong
  | strikethrough
  | superscript
  | subscript
deriving Inhabited, Repr, DecidableEq

/-- A piece of inline markup. -/
inductive Inline where
  | text (chars : List Char)
  /-- A run of emphasis marks that starts at a place of the source. -/
  | run (mark : Char) (start length : Nat) (opens closes : Bool)
  | code (literal : String)
  | html (literal : String)
  | math (display : Bool) (literal : String)
  | footnote (label : String)
  | softBreak
  | hardBreak (backslash : Bool)
  | link (isImage : Bool) (destination title : String) (children : List Inline)
  | styled (style : Style) (children : List Inline)
deriving Inhabited, Repr

/-- What labels stand for. -/
structure References where
  definitions : List (List Char × Definition)
  /-- The keys of the labels of footnotes. -/
  footnotes : List (List Char)

/-- What an open bracket may become. -/
inductive BracketKind where
  | link
  | image
  /-- Nothing any more: a link has been found after it. -/
  | disabled
deriving Inhabited, DecidableEq

/-- An open bracket. -/
structure Bracket where
  kind : BracketKind
  start : Nat
  stop : Nat
  /-- What stands before the bracket, back to the bracket around it, in reverse. -/
  before : List Inline
deriving Inhabited

/-- The pieces found so far. -/
structure InlineScan where
  /-- The pieces since the innermost open bracket, in reverse. -/
  pieces : List Inline := []
  /-- The open brackets, innermost first. -/
  brackets : List Bracket := []
deriving Inhabited

namespace InlineScan

/-- One more piece. -/
def push (scan : InlineScan) (piece : Inline) : InlineScan :=
  { scan with pieces := piece :: scan.pieces }

/-- One more open bracket. -/
def openBracket (scan : InlineScan) (kind : BracketKind) (start stop : Nat) : InlineScan :=
  { pieces := [], brackets := ⟨kind, start, stop, scan.pieces⟩ :: scan.brackets }

/-- The characters of a bracket that has become text. -/
def bracketText (bracket : Bracket) : Inline :=
  .text (if bracket.stop - bracket.start = 2 then ['!', '['] else ['['])

/-- The pieces with a bracket as text. -/
def asText (pieces : List Inline) (bracket : Bracket) : List Inline :=
  pieces ++ bracketText bracket :: bracket.before

/-- All pieces in order, where open brackets are text. -/
def finish (scan : InlineScan) : List Inline :=
  (scan.brackets.foldl asText scan.pieces).reverse

/-- No bracket that is open now can become a link. -/
def disableLinks (brackets : List Bracket) : List Bracket :=
  brackets.map fun bracket =>
    if bracket.kind = .link then { bracket with kind := .disabled } else bracket

end InlineScan

namespace Source

/-! ### Tokens -/

/-- The tokens from a place on. -/
def dropTo (place : Nat) : List Token → List Token
  | [] => []
  | token :: rest =>
    if token.stop ≤ place then dropTo place rest
    else { token with start := max token.start place } :: rest

/-- The characters of a token that stands for itself. -/
def tokenText (source : Source) (token : Token) : Inline :=
  .text (source.slice token.start token.stop)

/-! ### Code and formulas -/

/-- The characters from `i` up to `stop`, where the end of a line is `newline` of its character
and markers of containers are left out. In a table, an escaped bar is a bar. -/
def spanText (source : Source) (newline : Char → Char) (stop : Nat) : Nat → Nat → List Char
  | 0, _ => []
  | fuel + 1, i =>
    if stop ≤ i then []
    else
      match source.at? i with
      | none => []
      | some c =>
        if c == '\n' || c == '\r' then
          let next := if c == '\r' && source.at? (i + 1) == some '\n' then i + 2 else i + 1
          newline c :: source.spanText newline stop fuel (source.afterMarkers next)
        else if source.inTable && c == '\\' && source.at? (i + 1) == some '|' then
          '|' :: source.spanText newline stop fuel (i + 2)
        else c :: source.spanText newline stop fuel (i + 1)

/-- The literal of a code span: ends of lines are spaces, and one space at each end is dropped
unless there are only spaces. -/
def codeLiteral (source : Source) (start stop : Nat) : String :=
  let text := source.spanText (fun _ => ' ') stop (stop - start) start
  let padded := text.head? == some ' ' && text.getLast? == some ' ' && !text.all (· == ' ')
  String.ofList (if padded then (text.drop 1).dropLast else text)

/-- The first run of exactly `length` grave accents, and the tokens after it. -/
def closingTicks? (length : Nat) : List Token → Option (Token × List Token)
  | [] => none
  | token :: rest =>
    match token.kind with
    | .ticks found _ => if found = length then some (token, rest) else closingTicks? length rest
    | _ => closingTicks? length rest

/-- Whether the tokens start with a dollar sign. -/
def startsDollar : List Token → Bool
  | ⟨_, _, .dollar _ _ _⟩ :: _ => true
  | _ => false

/-- The next dollar sign inside the given braces, and the tokens after it. -/
def nextDollar? (braces : Nat) : List Token → Option (Token × List Token)
  | [] => none
  | token :: rest =>
    match token.kind with
    | .dollar _ _ found => if found = braces then some (token, rest) else nextDollar? braces rest
    | _ => nextDollar? braces rest

/-- The formula that starts with a dollar sign, and the tokens after it. Two signs start a
displayed formula, which two signs have to end; no other sign may stand in a formula. -/
def formula? (source : Source) (open_ : Token) (braces : Nat) (tokens : List Token) :
    Option (Inline × List Token) :=
  let literal := fun start stop =>
    String.ofList (source.spanText (fun _ => '\n') stop (stop - start) start)
  if startsDollar tokens then
    match nextDollar? braces (tokens.drop 1) with
    | some (close, rest) =>
      if startsDollar rest then
        some (.math true (literal (open_.stop + 1) close.start), rest.drop 1)
      else none
    | none => none
  else
    match nextDollar? braces tokens with
    | some (close, rest) =>
      match close.kind with
      | .dollar _ true _ => some (.math false (literal open_.stop close.start), rest)
      | _ => none
    | none => none

/-! ### Links -/

/-- Passes over white space with at most one end of a line. -/
def linkSpace (source : Source) (i : Nat) : Nat :=
  let i := source.skipWhile isLineSpace i
  match source.endLength? i with
  | some length => source.skipWhile isLineSpace (source.afterMarkers (i + length))
  | none => i

/-- The destination and the title in parentheses at `i`, and the place after them. -/
def inlineLink? (source : Source) (i : Nat) : Option (String × String × Nat) := do
  if source.at? i != some '(' then none
  let (written, stop) ← source.destination? 5 (source.linkSpace (i + 1))
  let destination := unescaped source.inTable written
  let i := source.linkSpace stop
  if source.at? i == some ')' then some (destination, "", i + 1)
  else
    let (title, stop) ← source.title? i
    let i := source.linkSpace stop
    if source.at? i == some ')' then some (destination, String.ofList title, i + 1) else none

/-- A label in brackets. -/
inductive Label where
  | link (label : List Char)
  | footnote (label : List Char)

/-- The label whose bracket stands at `i`, and the place after it. -/
def bracketLabel? (source : Source) (features : Features) (i : Nat) : Option (Label × Nat) :=
  if source.at? i != some '[' then none
  else
    let footnote :=
      if features.footnotes && source.at? (i + 1) == some '^' && source.at? (i + 2) != some ']' then
        source.label? false (i + 2)
      else none
    match footnote with
    | some (label, stop) => some (.footnote label, stop)
    | none => (source.label? true (i + 1)).map fun (label, stop) => (.link label, stop)

/-- The tokens where the one at a place cannot end a reference by itself, and those after it. -/
def markTried (place : Nat) : List Token → List Token × List Token
  | [] => ([], [])
  | token :: rest =>
    if token.stop ≤ place then
      let (tokens, after) := markTried place rest
      (token :: tokens, after)
    else ({ token with kind := .bracketClose false } :: rest, rest)

/-- What a closing bracket makes of the pieces since the bracket that it closes. -/
inductive Closing where
  /-- Both brackets are text; the tokens that follow are given. -/
  | text (rest : List Token)
  | link (destination title : String) (rest : List Token)
  | footnote (label : String) (rest : List Token)

/-- What a closing bracket makes of the text since `bracket`, with the tokens that follow it: an
inline link, a reference with a label after it or by itself, a footnote reference, or nothing. -/
def closeBracket (source : Source) (features : Features) (references : References)
    (bracket : Bracket) (close : Token) (mayRefer : Bool) (rest : List Token) : Closing :=
  match source.inlineLink? close.stop with
  | some (destination, title, stop) => .link destination title (dropTo stop rest)
  | none =>
    let byLabel := fun (label : List Char) (rest after : List Token) =>
      match references.definitions.lookup (labelKey label) with
      | some definition => Closing.link definition.destination definition.title after
      | none => .text rest
    let byItself := fun (after : List Token) =>
      if mayRefer then
        match source.bracketLabel? features (bracket.stop - 1) with
        | some (label, stop) =>
          if stop ≠ close.stop then .text rest
          else
            match label with
            | .link label => byLabel label rest after
            | .footnote label =>
              if references.footnotes.contains (labelKey label) then
                .footnote (String.ofList label) rest
              else .text rest
        | none => .text rest
      else .text rest
    match rest with
    | [] => byItself []
    | next :: _ =>
      if source.hasAt ['[', ']'] next.start then byItself (rest.drop 2)
      else
        match source.bracketLabel? features next.start with
        | some (.link label, stop) =>
          let (tried, after) := markTried (stop - 1) rest
          byLabel label tried after
        | _ => byItself rest

/-! ### All inline markup -/

/-- Adds the pieces of the tokens to those found so far. -/
def scanInlines (source : Source) (features : Features) (references : References) :
    Nat → List Token → InlineScan → InlineScan
  | 0, _, scan => scan
  | _, [], scan => scan
  | fuel + 1, token :: rest, scan =>
    let go := source.scanInlines features references fuel
    match token.kind with
    | .text => go rest (scan.push (source.tokenText token))
    | .literal chars => go rest (scan.push (.text chars))
    | .run mark opens closes =>
      go rest (scan.push (.run mark token.start (token.stop - token.start) opens closes))
    | .softBreak => go rest (scan.push .softBreak)
    | .hardBreak backslash => go rest (scan.push (.hardBreak backslash))
    | .ticks length escaped =>
      let length := if escaped then length - 1 else length
      match if length = 0 then none else closingTicks? length rest with
      | some (close, rest) =>
        let scan := if escaped then scan.push (.text ['\x60']) else scan
        go rest (scan.push (.code (source.codeLiteral token.stop close.start)))
      | none => go rest (scan.push (source.tokenText token))
    | .dollar opens _ braces =>
      match if opens then source.formula? token braces rest else none with
      | some (piece, rest) => go rest (scan.push piece)
      | none => go rest (scan.push (source.tokenText token))
    | .angle =>
      if rest.isEmpty then go rest (scan.push (source.tokenText token))
      else
        match source.autolink? token.start with
        | some stop =>
          let address := source.slice (token.start + 1) stop
          go (dropTo (stop + 1) rest)
            (scan.push (.link false (String.ofList address) "" [.text address]))
        | none =>
          match source.inlineHtml? token.start with
          | some (stop, text) => go (dropTo stop rest) (scan.push (.html (String.ofList text)))
          | none => go rest (scan.push (source.tokenText token))
    | .bracketOpen => go rest (scan.openBracket .link token.start token.stop)
    | .imageOpen => go rest (scan.openBracket .image token.start token.stop)
    | .bracketClose mayRefer =>
      match scan.brackets with
      | [] => go rest (scan.push (source.tokenText token))
      | bracket :: brackets =>
        let closing := if bracket.kind = .disabled then Closing.text rest
          else source.closeBracket features references bracket token mayRefer rest
        match closing with
        | .text rest =>
          let pieces := InlineScan.asText scan.pieces bracket
          go rest { pieces := source.tokenText token :: pieces, brackets := brackets }
        | .link destination title rest =>
          let isImage := bracket.kind = .image
          let piece := Inline.link isImage destination title scan.pieces.reverse
          let brackets := if isImage then brackets else InlineScan.disableLinks brackets
          go rest { pieces := piece :: bracket.before, brackets := brackets }
        | .footnote label rest =>
          let mark := if bracket.kind = .image then [Inline.text ['!']] else []
          let pieces := brackets.foldl InlineScan.asText (mark ++ bracket.before)
          go rest { pieces := .footnote label :: pieces, brackets := [] }

/-- The inline markup of a source. -/
def inlines (source : Source) (features : Features) (references : References) : List Inline :=
  let tokens := source.tokens features
  (source.scanInlines features references (tokens.length + 1) tokens {}).finish

end Source

end Markup

end MarkdownPages
