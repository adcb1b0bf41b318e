import MarkdownPages.Markup.Source
import MarkdownPages.Text.Alphanumeric

/-!
# HTML tags, declarations and autolinks

What may follow a `<` in a text: a tag, a comment, a processing instruction, a declaration, a
section of character data, an address of a page or of a person.

## Main definitions

* `Source.tag?` — a complete tag, with its text
* `Source.inlineHtml?` — anything of HTML that stands in a line of text
* `Source.autolink?` — an address between `<` and `>`

## Implementation notes

Places are those of the `<`. A tag that goes on over several lines is reported without the markers
of the containers around it, and so comes with its text; other constructs are reported with the
place of their end, and stand for all characters up to there.
-/

namespace MarkdownPages

namespace Markup

/-- What has been read of a tag: the place reached, and the pieces of text so far, latest first,
where the last piece starts at `mark`. -/
structure TagScan where
  place : Nat
  mark : Nat
  pieces : List (List Char) := []
deriving Inhabited

/-- A character that an unquoted attribute value may hold. -/
def isValueChar (c : Char) : Bool :=
  !(c == '\'' || c == '"' || c == ' ' || c == '=' || c == '>' || c == '<' || c.toNat == 0x60 ||
    c == '\n' || c == '\r')

/-- A character that may start the name of an attribute. -/
def isAttributeStart (c : Char) : Bool := Text.isAsciiLetter c || c == '_' || c == ':'

/-- A character that the name of an attribute may go on with. -/
def isAttributePart (c : Char) : Bool :=
  Text.isAsciiAlphanumeric c || c == '_' || c == '.' || c == ':' || c == '-'

namespace TagScan

/-- Passes over the end of a line of the given length, and over the markers of the next line,
which are left out of the text. -/
def newline (source : Source) (length : Nat) (scan : TagScan) : TagScan :=
  let next := scan.place + length
  let markers := source.markersAt next
  if markers = 0 then { scan with place := next }
  else { place := next + markers
         mark := next + markers
         pieces := source.slice scan.mark next :: scan.pieces }

/-- The text of the tag, which ends here. -/
def text (source : Source) (scan : TagScan) : List Char :=
  (source.slice scan.mark scan.place :: scan.pieces).reverse.flatten

end TagScan

namespace Source

/-- Passes over white space, over at most `lines` ends of lines. It fails at the end of the
source. -/
def tagSpace? (source : Source) : Nat → TagScan → Option TagScan
  | lines, scan =>
    let scan := { scan with place := source.skipWhile isLineSpace scan.place }
    match source.endLength? scan.place with
    | none => some scan
    | some 0 => none
    | some length =>
      match lines with
      | 0 => none
      | lines + 1 => source.tagSpace? lines (scan.newline source length)

/-- Passes over the rest of a quoted attribute value. -/
def quotedValue? (source : Source) (quote : Char) (fuel : Nat) (scan : TagScan) : Option TagScan :=
  match fuel, source.at? scan.place with
  | _, none => none
  | 0, _ => none
  | fuel + 1, some c =>
    if c == quote then some { scan with place := scan.place + 1 }
    else
      match source.endLength? scan.place with
      | some length => source.quotedValue? quote fuel (scan.newline source length)
      | none => source.quotedValue? quote fuel { scan with place := scan.place + 1 }

/-- Passes over an attribute value. -/
def attributeValue? (source : Source) (scan : TagScan) : Option TagScan :=
  match source.at? scan.place with
  | none => none
  | some c =>
    if c == '"' || c == '\'' then
      source.quotedValue? c source.chars.size { scan with place := scan.place + 1 }
    else if isValueChar c then
      some { scan with place := source.skipWhile isValueChar scan.place }
    else none

/-- Passes over an attribute: a name, and a value if an equals sign follows. -/
def attribute? (source : Source) (scan : TagScan) : Option TagScan :=
  match source.at? scan.place with
  | none => none
  | some c =>
    if isAttributeStart c then
      let named := { scan with place := source.skipWhile isAttributePart (scan.place + 1) }
      let lines := source.spans.length
      match source.tagSpace? lines named with
      | none => none
      | some spaced =>
        if source.at? spaced.place == some '=' then
          (source.tagSpace? lines { spaced with place := spaced.place + 1 }).bind
            source.attributeValue?
        else some named
    else none

/-- Passes over the attributes of a tag, each after white space. -/
def attributes? (source : Source) : Nat → TagScan → Option TagScan
  | 0, _ => none
  | fuel + 1, scan =>
    match source.tagSpace? source.spans.length scan with
    | none => none
    | some spaced =>
      match source.at? spaced.place with
      | some '/' => some spaced
      | some '>' => some spaced
      | _ =>
        if spaced.place = scan.place then none
        else (source.attribute? spaced).bind (source.attributes? fuel)

/-- The end of the tag whose `<` stands at `i`, and its text. -/
def tag? (source : Source) (i : Nat) : Option (Nat × List Char) :=
  let closing := source.at? (i + 1) == some '/'
  let name := if closing then i + 2 else i + 1
  match source.at? name with
  | none => none
  | some c =>
    if Text.isAsciiLetter c then
      let start : TagScan :=
        { place := source.skipWhile (fun c => Text.isAsciiAlphanumeric c || c == '-') name
          mark := i }
      let scanned :=
        if closing then some start else source.attributes? (source.chars.size + 1) start
      match scanned with
      | none => none
      | some scan =>
        let place := source.skipWhile isLineSpace scan.place
        let place :=
          if !closing && source.at? place == some '/' then place + 1 else place
        if source.at? place == some '>' then
          some (place + 1, { scan with place := place + 1 }.text source)
        else none
    else none

/-! ### Other HTML -/

/-- The first place from `i` on where a text stands. -/
def find? (source : Source) (text : List Char) (i : Nat) : Option Nat :=
  if source.chars.size < i + text.length then none
  else if source.hasAt text i then some i
  else source.find? text (i + 1)
termination_by source.chars.size + 1 - i

/-- The end of the comment that starts with `<!-` before `i`. -/
def commentEnd? (source : Source) (i : Nat) : Option Nat :=
  if source.at? i != some '-' then none
  else if source.at? (i + 1) == some '>' then some (i + 2)
  else if source.hasAt ['-', '>'] (i + 1) then some (i + 3)
  else (source.find? ['-', '-', '>'] (i + 1)).map (· + 3)

/-- The end of the section of character data whose contents start at `i`: the first run of
closing brackets has to end it. -/
def characterDataEnd? (source : Source) (i : Nat) : Option Nat :=
  let brackets := source.skipWhile (· != ']') i
  let stop := source.skipWhile (· == ']') brackets
  if brackets < stop && source.at? stop == some '>' then some (stop + 1) else none

/-- The end of the markup that starts with `<!` at `i`. -/
def declarationEnd? (source : Source) (i : Nat) : Option Nat :=
  match source.at? (i + 2) with
  | some '-' => source.commentEnd? (i + 3)
  | some '[' =>
    if source.hasAt "CDATA[".toList (i + 3) then source.characterDataEnd? (i + 9) else none
  | some c =>
    if Text.isAsciiLetter c then
      let stop := source.skipWhile (· != '>') (i + 3)
      if source.at? stop == some '>' then some (stop + 1) else none
    else none
  | none => none

/-- The end of the HTML whose `<` stands at `i` in a line of text, and its text. -/
def inlineHtml? (source : Source) (i : Nat) : Option (Nat × List Char) :=
  let whole := fun stop => (stop, source.slice i stop)
  match source.at? (i + 1) with
  | some '!' => (source.declarationEnd? i).map whole
  | some '?' => (source.find? ['?', '>'] (i + 2)).map fun stop => whole (stop + 2)
  | _ => source.tag? i

/-! ### Autolinks -/

/-- A character of the scheme of an address. -/
def isSchemeChar (c : Char) : Bool :=
  Text.isAsciiAlphanumeric c || c == '.' || c == '-' || c == '+'

/-- A character of the name in an address of a person. -/
def isMailboxChar (c : Char) : Bool :=
  Text.isAsciiAlphanumeric c || ".!#$%&'*+/=?^_\x60\x7b|\x7d~-".toList.contains c

/-- The end of the address of a page that starts at `i`: a scheme of two to 32 characters, a
colon, and anything up to the next `>` but spaces, controls and `<`. -/
def uriEnd? (source : Source) (i : Nat) : Option Nat :=
  match source.at? i with
  | none => none
  | some c =>
    let colon := source.skipWhile isSchemeChar (i + 1)
    if Text.isAsciiLetter c && source.at? colon == some ':' && i + 2 ≤ colon && colon ≤ i + 32
    then
      let stop := source.skipWhile (fun c => c.toNat > 0x20 && c != '<' && c != '>') (colon + 1)
      if source.at? stop == some '>' then some stop else none
    else none

/-- The end of the host name that starts at `i`: labels of letters, digits and inner dashes, of at
most 63 characters, with dots between them. -/
def hostEnd? (source : Source) : Nat → Nat → Option Nat
  | 0, _ => none
  | fuel + 1, i =>
    let stop := source.skipWhile (fun c => Text.isAsciiAlphanumeric c || c == '-') i
    if stop = i || i + 63 < stop || source.at? i == some '-' || source.at? (stop - 1) == some '-'
    then none
    else if source.at? stop == some '.' then source.hostEnd? fuel (stop + 1)
    else some stop

/-- The end of the address of a person that starts at `i`. -/
def mailEnd? (source : Source) (i : Nat) : Option Nat :=
  let sign := source.skipWhile isMailboxChar i
  if i < sign && source.at? sign == some '@' then
    match source.hostEnd? source.chars.size (sign + 1) with
    | some stop => if source.at? stop == some '>' then some stop else none
    | none => none
  else none

/-- The end of the address whose `<` stands at `i`, which is the place of its `>`. -/
def autolink? (source : Source) (i : Nat) : Option Nat :=
  (source.uriEnd? (i + 1)).or (source.mailEnd? (i + 1))

end Source

end Markup

end MarkdownPages
