import MarkdownPages.Markup.Cursor
import MarkdownPages.Markup.Tag
import MarkdownPages.Text.Entity
import MarkdownPages.Text.Punctuation

/-!
# Marks at the start of a line

What tells the kind of a block: the marks of headings, rules, fences, lists, tables, HTML blocks
and data blocks. All functions look at a text that starts after the indentation of its line.

## Main definitions

* `rule?`, `headingLevel?`, `underline?`, `fence?`, `closesFence?` — leaf blocks
* `Cursor.listMarker?`, `Cursor.definitionMarker?`, `Cursor.taskMarker?`, `Cursor.quoteMarker?`,
  `Cursor.alert?` — containers and what follows their marks
* `htmlEnd?`, `startsBlockTag`, `isLoneTag` — HTML blocks
* `delimiterColumns?`, `headerColumns` — tables
* `metadataFence?`, `closesMetadata?` — data blocks
-/

namespace MarkdownPages

namespace Markup

/-! ### Leaf blocks -/

/-- What follows a line that is a rule: three or more of one mark, and blanks. -/
def rule? (s : List Char) : Option (List Char) :=
  match s with
  | [] => none
  | mark :: _ =>
    if mark == '*' || mark == '-' || mark == '_' then
      let (line, _, rest) := cutLine s
      if line.all (fun c => c == mark || c == ' ' || c == '\t') && 3 ≤ line.count mark then
        some rest
      else none
    else none

/-- The level of a heading: one to six number signs, and white space. -/
def headingLevel? (s : List Char) : Option Nat :=
  let (level, rest) := countStart '#' s
  if 1 ≤ level && level ≤ 6 && ((rest.head?.map isSpace).getD true) then some level else none

/-- The level that a line gives to the paragraph above it, and what follows the line. -/
def underline? (s : List Char) : Option (Nat × List Char) :=
  match s with
  | '=' :: _ => (afterBlank? (countStart '=' s).2).map fun rest => (1, rest)
  | '-' :: _ => (afterBlank? (countStart '-' s).2).map fun rest => (2, rest)
  | _ => none

/-- The mark of a code fence, its length, and what follows it. No mark may follow a fence of
grave accents on its line. -/
def fence? (s : List Char) : Option (Char × Nat × List Char) :=
  match s with
  | [] => none
  | mark :: _ =>
    let (length, rest) := countStart mark s
    if mark == '~' then if 3 ≤ length then some (mark, length, rest) else none
    else if mark.toNat == 0x60 then
      if 3 ≤ length && !(cutPhysicalLine rest).1.contains mark then some (mark, length, rest)
      else none
    else none

/-- What follows a closing fence at least as long as the opening one. The end of the text closes
every fence. -/
def closesFence? (mark : Char) (length : Nat) (s : List Char) : Option (List Char) :=
  if s.isEmpty then some []
  else
    let (found, rest) := countStart mark s
    let rest := rest.dropWhile (· == ' ')
    if length ≤ found && atEnd rest then some rest else none

/-! ### Containers -/

/-- The mark of a list item: its character, the number if it has one, and the indentation of what
belongs to the item. -/
structure ListMarker where
  mark : Char
  number : Option Nat
  indent : Nat
deriving Inhabited, Repr

/-- A mark of an item without a number. -/
def isBullet (c : Char) : Bool := c == '-' || c == '+' || c == '*'

namespace Cursor

/-- The cursor after a mark that white space or the end of the line has to follow, and the
indentation of what follows it, where the mark itself ends in the column `width`. More than four
columns of white space are part of what follows. -/
def afterMark? (cursor : Cursor) (width : Nat) : Option (Nat × Cursor) :=
  let (missing, after) := cursor.skip 1
  if missing = 0 || after.isAtEnd then
    if isBlankLine after.rest then some (width + 1, after)
    else
      let (missing, spaced) := after.skip 4
      if missing = 0 then some (width + 1, after) else some (width + 1 + (4 - missing), spaced)
  else none

/-- The mark of a list item at the cursor, which stands in the column `outer`. -/
def listMarker? (cursor : Cursor) (outer : Nat) : Option (ListMarker × Cursor) :=
  match cursor.rest with
  | [] => none
  | c :: _ =>
    if isBullet c then
      if (rule? cursor.rest).isSome then none
      else
        (cursor.step.afterMark? (outer + 1)).map fun (indent, after) => (⟨c, none, indent⟩, after)
    else
      match Text.spanAtMost Text.isAsciiDigit 9 cursor.rest with
      | ([], _) => none
      | (digits, mark :: _) =>
        if mark == '.' || mark == ')' then
          let length := digits.length + 1
          ((cursor.advance length).afterMark? (outer + length)).map fun (indent, after) =>
            (⟨mark, some (Text.numeral 10 digits), indent⟩, after)
        else none
      | _ => none

/-- The mark of a definition at the cursor. -/
def definitionMarker? (cursor : Cursor) (outer : Nat) : Option (Nat × Cursor) :=
  if cursor.rest.head? == some ':' then cursor.step.afterMark? (outer + 1) else none

/-- The cursor after the mark of a quotation. -/
def quoteMarker? (cursor : Cursor) : Option Cursor :=
  if cursor.rest.head? == some '>' then some (cursor.step.skip 1).2 else none

/-- Whether the box of a task is checked, and the cursor after it. White space has to follow. -/
def taskMarker? (cursor : Cursor) : Option (Bool × Cursor) :=
  let cursor := (cursor.skip 3).2
  match cursor.rest with
  | '[' :: c :: ']' :: after :: _ =>
    if isSpace after then
      if isLineSpace c then some (false, cursor.advance 3)
      else if c == 'x' || c == 'X' then some (true, cursor.advance 3)
      else none
    else none
  | _ => none

/-- The kinds of alerts. -/
def alertNames : List (List Char) :=
  ["note", "tip", "important", "warning", "caution"].map String.toList

/-- What follows the line of an alert mark, which stands alone at the start of a quotation. -/
def alert? (cursor : Cursor) : Option (List Char) :=
  match cursor.rest with
  | '[' :: '!' :: rest =>
    match rest.span Text.isAsciiLetter with
    | (name, ']' :: rest) =>
      if alertNames.contains (name.map Char.toLower) then afterBlank? rest else none
    | _ => none
  | _ => none

end Cursor

/-- Whether two blank lines follow. -/
def isBlankTwice (s : List Char) : Bool := ((afterBlank? s).map isBlankLine).getD false

/-! ### HTML blocks -/

/-- The tags whose blocks go on to their closing tag. -/
def verbatimTags : List (List Char) :=
  ["pre", "style", "script", "textarea"].map String.toList

/-- The tags that start a block which goes on to the next blank line. -/
def blockTags : List (List Char) :=
  ["address", "article", "aside", "base", "basefont", "blockquote", "body", "caption", "center",
    "col", "colgroup", "dd", "details", "dialog", "dir", "div", "dl", "dt", "fieldset",
    "figcaption", "figure", "footer", "form", "frame", "frameset", "h1", "h2", "h3", "h4", "h5",
    "h6", "head", "header", "hr", "html", "iframe", "legend", "li", "link", "main", "menu",
    "menuitem", "nav", "noframes", "ol", "optgroup", "option", "p", "param", "search", "section",
    "summary", "table", "tbody", "td", "tfoot", "th", "thead", "title", "tr", "track",
    "ul"].map String.toList

/-- Whether `word` starts the text, in either case, and what follows it. -/
def afterWord? (word s : List Char) : Option (List Char) :=
  if (s.take word.length).map Char.toLower == word then some (s.drop word.length) else none

/-- The text that ends the HTML block whose `<` the text `s` follows, if a text ends it. -/
def htmlEnd? (s : List Char) : Option (List Char) :=
  let closes := fun (tag : List Char) =>
    match afterWord? tag s with
    | some rest => ((rest.head?.map fun c => isSpace c || c == '>').getD true)
    | none => false
  match verbatimTags.find? closes with
  | some tag => some (['<', '/'] ++ tag ++ ['>'])
  | none =>
    match s with
    | '!' :: '-' :: '-' :: _ => some "-->".toList
    | '?' :: _ => some "?>".toList
    | '!' :: c :: _ =>
      if (Text.dropStart? "![CDATA[".toList s).isSome then some "]]>".toList
      else if Text.isAsciiLetter c then some ">".toList
      else none
    | _ => none

/-- Whether one of the block tags follows a `<`. -/
def startsBlockTag (s : List Char) : Bool :=
  let s := match s with
    | '/' :: rest => rest
    | s => s
  let (name, rest) := s.span Text.isAsciiAlphanumeric
  blockTags.contains (name.map Char.toLower) &&
    match rest with
    | [] => true
    | '/' :: '>' :: _ => true
    | c :: _ => c == ' ' || c == '\t' || c == '\r' || c == '\n' || c == '>'

/-- Whether the line consists of one complete tag. -/
def isLoneTag (s : List Char) : Bool :=
  let (line, _, _) := cutLine s
  let source := Source.ofText line line.length
  match source.tag? 0 with
  | some (stop, _) => (line.drop stop).all isLineSpace
  | none => false

/-! ### Tables -/

/-- What has been seen of the line below the header of a table. -/
structure DelimiterScan where
  columns : Nat := 0
  /-- Nothing but blanks so far in this column. -/
  fresh : Bool := true
  bar : Bool := false
  dash : Bool := false
  dashHere : Bool := false

/-- The scan after one more character, unless that may not stand on the line. -/
def DelimiterScan.next (scan : DelimiterScan) (c : Char) : Option DelimiterScan :=
  match c with
  | ' ' => some scan
  | ':' => some { scan with fresh := false }
  | '-' => some { scan with fresh := false, dash := true, dashHere := true }
  | '|' =>
    if scan.dashHere then
      some { scan with columns := scan.columns + 1, fresh := true, bar := true, dashHere := false }
    else none
  | _ => none

/-- The number of columns that the line below a header gives to its table, and what follows the
line. The line consists of dashes, colons and bars, and has at least one dash and one bar. -/
def delimiterColumns? (s : List Char) : Option (Nat × List Char) :=
  let (missing, cursor) := (Cursor.start s).skip 4
  if missing = 0 then none
  else
    let (line, _, rest) := cutLine cursor.rest
    let (start, line) : DelimiterScan × List Char := match line with
      | '|' :: line => ({ bar := true }, line)
      | line => ({}, line)
    match line.foldlM DelimiterScan.next start with
    | some scan =>
      if scan.bar && scan.dash then
        some (if scan.fresh then scan.columns else scan.columns + 1, rest)
      else none
    | none => none

/-- The places of the bars of a text that starts at a place, where a backslash keeps the next
character from counting and `escaped` tells that one stands before the text. If `strict` is not
set, a backslash does not keep another backslash from counting. -/
def barsFrom (strict : Bool) : Bool → Nat → List Char → List Nat
  | _, _, [] => []
  | escaped, i, c :: rest =>
    if escaped && (strict || c != '\\') then barsFrom strict false (i + 1) rest
    else if c == '\\' then barsFrom strict true (i + 1) rest
    else if c == '|' then i :: barsFrom strict false (i + 1) rest
    else barsFrom strict false (i + 1) rest

/-- The places of the bars of a line. -/
def bars (strict : Bool) (line : List Char) : List Nat := barsFrom strict false 0 line

/-- The number of columns of a header line with bars at the given places. -/
def headerColumns (line : List Char) (places : List Nat) : Nat :=
  match places.getLast? with
  | none => 1
  | some last =>
    let inner := if (line.dropWhile isLineSpace).head? == some '|' then places.length - 1
      else places.length
    if (line.drop (last + 1)).all isLineSpace then inner else inner + 1

/-! ### Data blocks -/

/-- What follows a line that closes a data block. -/
def closesMetadata? (s : List Char) : Option (List Char) :=
  let close := fun (mark : Char) =>
    let (length, rest) := countStart mark s
    let rest := rest.dropWhile (· == ' ')
    if length = 3 && atEnd rest then some rest else none
  (close '-').or (close '.')

/-- Whether a line of a text closes a data block. -/
def hasClose : Nat → List Char → Bool
  | 0, _ => false
  | fuel + 1, s =>
    (closesMetadata? s).isSome || (!s.isEmpty && hasClose fuel (cutPhysicalLine s).2)

/-- What follows the line that opens a data block: three dashes alone. The next line is neither
blank nor the end of the block, and some later line closes it. -/
def metadataFence? (s : List Char) : Option (List Char) :=
  let (length, rest) := countStart '-' s
  let (line, body) := cutPhysicalLine rest
  if length = 3 && line.all isSpace && !isBlankLine body && (closesMetadata? body).isNone &&
      hasClose (body.length + 1) (cutPhysicalLine body).2 then
    some body
  else none

end Markup

end MarkdownPages
