import MarkdownPages.Markup.Continuation

/-!
# Reading blocks

A document is read block by block. Each step looks at the start of a line: it ends the containers
that the line does not belong to, opens those whose marks it bears, and reads one leaf block, which
may take several lines.

## Main definitions

* `Outline.openContainers` — the containers that a line opens
* `Outline.readLeaf` — the leaf block at a cursor
* `Outline.readBlock` — one step
* `Outline.ofText` — all blocks of a document

## Implementation notes

Every step takes at least one character, so the length of the document bounds the number of steps.
Inner loops take at least one character per round, and are bounded by the same number.
-/

namespace MarkdownPages

namespace Markup

namespace Outline

/-! ### Literal lines -/

/-- A line of literal text, with the columns of a tab that a container has cut in two. -/
def literalLine (spare : Nat) (line : List Char) : List Char :=
  List.replicate spare ' ' ++ withoutReturn line

/-- The setting of a line in the innermost container. -/
def setting (o : Outline) (features : Features) (inParagraph : Bool) : Setting :=
  { features := features, containers := o.containers, inParagraph := inParagraph }

/-- The rest of a text after a line, if nothing but white space is left of it. -/
def restOfLine (s : List Char) : List Char := (afterBlank? s).getD s

/-- The lines of indented code from the middle of a line on: its text without blank lines at the
end, whether the last line was blank, and what follows. Blank lines are kept back in `pending`
until text follows. -/
def indentedLines (setting : Setting) :
    Nat → Nat → List Char → List Char × Bool × List Char
  | 0, _, s => ([], false, s)
  | fuel + 1, spare, s =>
    let blank := isBlankLine s
    let (line, rest) := cutPhysicalLine s
    let text := literalLine spare line
    let (count, cursor) := setting.enter rest
    let (missing, after) := cursor.skip 4
    let goesOn := count == setting.containers.length && (missing = 0 || after.isAtEnd) &&
      !after.rest.isEmpty
    if goesOn then
      let (more, blankAfter, rest) := indentedLines setting fuel after.spare after.rest
      (if more.isEmpty && blank then [] else text ++ more, blankAfter, rest)
    else (if blank then [] else text, blank, rest)

/-- The lines of fenced code and what follows the closing fence. -/
def fencedLines (setting : Setting) (mark : Char) (length indent : Nat) :
    Nat → List Char → List Char × List Char
  | 0, s => ([], s)
  | fuel + 1, s =>
    let (count, cursor) := setting.enter s
    if count != setting.containers.length then ([], s)
    else
      let inner := (cursor.skip indent).2
      let (missing, close) := inner.skip (4 - indent)
      match if missing = 0 then none else closesFence? mark length close.rest with
      | some rest => ([], restOfLine rest)
      | none =>
        if inner.rest.isEmpty then ([], [])
        else
          let (line, rest) := cutPhysicalLine inner.rest
          let (more, rest) := fencedLines setting mark length indent fuel rest
          (literalLine inner.spare line ++ more, rest)

/-- The lines of an HTML block from the middle of a line on, and what follows. The block goes on
to the line that holds `closing`, or to a blank line if there is no such text. -/
def htmlLines (setting : Setting) (closing : Option (List Char)) :
    Nat → Nat → List Char → List Char × List Char
  | 0, _, s => ([], s)
  | fuel + 1, spare, s =>
    let (line, rest) := cutPhysicalLine s
    let text := literalLine spare line
    let (count, cursor) := setting.enter rest
    let ended := match closing with
      | some closing => Text.hasInfix closing line
      | none => isBlankLine cursor.rest
    if count != setting.containers.length || ended || cursor.rest.isEmpty then (text, rest)
    else
      let (more, rest) := htmlLines setting closing fuel cursor.spare cursor.rest
      (text ++ more, rest)

/-- The lines of a data block and what follows its end. -/
def metadataLines (setting : Setting) : Nat → List Char → List Char × List Char
  | 0, s => ([], s)
  | fuel + 1, s =>
    let (count, _) := setting.enter s
    if count != setting.containers.length || s.isEmpty then ([], s)
    else
      match closesMetadata? s with
      | some rest => ([], restOfLine rest)
      | none =>
        let (line, rest) := cutPhysicalLine s
        let (more, rest) := metadataLines setting fuel rest
        (withoutReturn line ++ more, rest)

/-! ### Headings -/

/-- The text before an attribute block at the end of a heading, and the id that the block gives.
The block may not hold braces, angle brackets, backslashes or ends of lines. -/
def attributeBlock? (text : List Char) : Option (List Char × Option String) :=
  let trimmed := (text.reverse.dropWhile fun c => c == '\n' || c == '\r' || c == ' ' || c == '\t')
  match trimmed with
  | '\x7d' :: before =>
    let (inside, before) := before.span fun c =>
      !(c == '\x7b' || c == '\x7d' || c == '<' || c == '>' || c == '\\' || c == '\n' || c == '\r')
    match before with
    | '\x7b' :: before =>
      let words := (Text.splitOn (fun c => isSpace c && c != '\x0b') inside.reverse)
      let ids := words.filterMap fun word =>
        match word with
        | '#' :: c :: rest => some (String.ofList (c :: rest))
        | _ => none
      some (before.reverse, ids.getLast?)
    | _ => none
  | _ => none

/-- The text of a heading without closing number signs, which follow a space. -/
def withoutClosing (text : List Char) : List Char :=
  let trimmed := text.reverse.dropWhile fun c => c == '\n' || c == '\r' || c == ' '
  let closer := trimmed.dropWhile (· == '#')
  if closer.isEmpty then []
  else if closer.head? == some ' ' then (closer.dropWhile (· == ' ')).reverse
  else trimmed.reverse

/-- The heading whose text follows the number signs, and what follows the heading. -/
def readHeading (o : Outline) (level : Nat) (s : List Char) : Outline × List Char :=
  match afterEnd? s with
  | some rest => (o.append (.heading level none (Source.ofText [] 0)), rest)
  | none =>
    let (line, rest) := cutPhysicalLine (s.dropWhile isLineSpace)
    let (content, id) := (attributeBlock? line).getD (line, none)
    let text := withoutClosing content
    let source := { Source.ofText line text.length with trimsEnd := false }
    (o.append (.heading level id source), rest)

/-- The heading that the lines of a paragraph become. -/
def underlinedHeading (level : Nat) (lines : List Line) : Block :=
  match lines.getLast? with
  | none => .heading level none (Source.ofLines [])
  | some last =>
    match attributeBlock? (last.raw.drop (last.markers + last.indent)) with
    | some (content, id) =>
      let raw := last.raw.take (last.markers + last.indent) ++ content
      .heading level id (Source.ofLines (lines.dropLast ++ [{ last with raw := raw, ending := [] }]))
    | none => .heading level none (Source.ofLines lines)

/-! ### Tables -/

/-- The text of a table cell, and what follows it on its row: the bar or the end of the line. -/
def cellText : List Char → List Char × List Char
  | [] => ([], [])
  | '|' :: rest => ([], '|' :: rest)
  | '\\' :: '\\' :: '|' :: rest =>
    let (text, rest) := cellText rest
    ('\\' :: '\\' :: '|' :: text, rest)
  | '\\' :: c :: rest =>
    if Text.isAsciiPunctuation c then
      let (text, rest) := cellText rest
      ('\\' :: c :: text, rest)
    else
      let (text, rest) := cellText (c :: rest)
      ('\\' :: text, rest)
  | c :: rest =>
    let (text, rest) := cellText rest
    (c :: text, rest)

/-- The source of a table cell, whose white space at the end does not count. -/
def cellSource (text : List Char) : Source :=
  let trimmed := text.reverse.dropWhile isLineSpace
  { Source.ofText text trimmed.length with inTable := true }

/-- The cells of a row. -/
def rowCells : Nat → List Char → List Source
  | 0, _ => []
  | fuel + 1, s =>
    let s := match s with
      | '|' :: rest => rest
      | s => s
    match s.dropWhile isLineSpace with
    | [] => []
    | start =>
      let (text, rest) := cellText start
      cellSource text :: rowCells fuel rest

/-- A row with a number of cells: more are dropped, missing ones are empty. -/
def fitted (columns : Nat) (cells : List Source) : List Source :=
  cells.take columns ++ List.replicate (columns - cells.length) (cellSource [])

/-- The rows of a table and what follows the table. -/
def tableRows (setting : Setting) (columns : Nat) :
    Nat → List Char → List (List Source) × List Char
  | 0, s => ([], s)
  | fuel + 1, s =>
    let (count, cursor) := setting.enter s
    let start := cursor.skipAll.rest
    if count != setting.containers.length || setting.interruptsRow true start then ([], s)
    else
      let (line, _, rest) := cutLine start
      match rowCells (line.length + 1) line with
      | [] => ([], s)
      | cells =>
        let (rows, rest) := tableRows setting columns fuel rest
        (fitted columns cells :: rows, rest)

/-- The number of columns of the table whose header is the first line of a text, and what follows
the two lines that start the table. -/
def tableStart? (setting : Setting) (s : List Char) : Option (Nat × List Char) :=
  if setting.features.gfm then
    let (line, ending, rest) := cutLine s
    let places := bars true line
    let (count, cursor) := setting.enter rest
    if places.isEmpty || ending.isEmpty || count != setting.containers.length then none
    else
      match delimiterColumns? cursor.rest with
      | some (columns, rest) =>
        if headerColumns line places == columns then some (columns, rest) else none
      | none => none
  else none

/-! ### Paragraphs -/

/-- Whether a paragraph in the innermost container may be the term of the next definition. -/
def mayBeTitle (o : Outline) : Bool :=
  match o.top.kind, o.top.reversed with
  | .definitionList _, [] => true
  | .definitionList _, .container (.definition _) _ :: _ => true
  | _, _ => false

/-- The paragraph, table or heading that starts with a line of text, and what follows it. -/
def readParagraph (features : Features) (fuel : Nat) (o : Outline) (s : List Char) :
    Outline × List Char :=
  let isTitle := o.mayBeTitle
  let o := if isTitle then { o with afterBlank := false } else o.finishList
  let setting := o.setting features true
  match tableStart? setting s with
  | some (columns, rest) =>
    let (line, _, _) := cutLine s
    let head := fitted columns (rowCells (line.length + 1) line)
    let inTable := { setting with inParagraph := false, inTable := true }
    let (rows, rest) := tableRows inTable columns fuel rest
    (o.append (.table head rows), rest)
  | none =>
    let (line, ending, rest) := cutLine s
    let (lines, level, rest) := setting.paragraphLines fuel rest
    let lines := { raw := line, ending := ending } :: lines
    let block := match level with
      | some level => underlinedHeading level lines
      | none =>
        if isTitle then .possibleTitle (Source.ofLines lines)
        else .paragraph false (Source.ofLines lines)
    (o.append block, rest)

/-- The definition of a label at the start of a text, and what follows it. -/
def definition? (features : Features) (fuel : Nat) (o : Outline) (s : List Char) :
    Option (Outline × List Char) :=
  if s.head? == some '[' then
    let (line, ending, rest) := cutLine s
    let (lines, _, _) := (o.setting features false).paragraphLines fuel rest
    match (Source.ofLines ({ raw := line, ending := ending } :: lines)).definition? with
    | some (label, definition, stop) =>
      some (o.define label definition, restOfLine (s.drop stop))
    | none => none
  else none

/-! ### Steps -/

/-- The leaf block at a cursor that stands before the indentation of the block, and what follows
it. -/
def readLeaf (features : Features) (fuel : Nat) (o : Outline) (cursor : Cursor) :
    Outline × List Char :=
  match afterBlank? cursor.rest with
  | some rest => (o.blankLine, rest)
  | none =>
    let (missing, start) := cursor.skip 4
    let s := start.rest
    let closed := o.finishList
    let setting := closed.setting features false
    if missing = 0 then
      let (text, blank, rest) := indentedLines setting fuel start.spare s
      ({ closed.append (.code none (String.ofList text)) with afterBlank := blank }, rest)
    else
      let indent := 4 - missing
      let html := fun closing =>
        let (text, rest) := htmlLines setting closing fuel (max cursor.spare indent) s
        (closed.append (.html (String.ofList text)), rest)
      match if indent = 0 && features.frontMatter then metadataFence? s else none with
      | some body =>
        let (text, rest) := metadataLines setting fuel body
        (closed.append (.metadata (String.ofList text)), rest)
      | none =>
        match if s.head? == some '<' then htmlEnd? s.tail else none with
        | some closing => html (some closing)
        | none =>
          if s.head? == some '<' && (startsBlockTag s.tail || isLoneTag s) then html none
          else
            match rule? s with
            | some rest => (closed.append .rule, rest)
            | none =>
              match headingLevel? s with
              | some level => closed.readHeading level (s.drop level)
              | none =>
                match fence? s with
                | some (mark, length, rest) =>
                  let (info, rest) := cutPhysicalLine (rest.dropWhile isLineSpace)
                  let info := (info.reverse.dropWhile isSpace).reverse
                  let (text, rest) := fencedLines setting mark length indent fuel rest
                  (closed.append (.code (some (unescaped false info)) (String.ofList text)), rest)
                | none =>
                  (o.definition? features fuel s).getD (o.readParagraph features fuel s)

/-- Whether the last block may have a definition: a paragraph, which becomes its term, or another
definition. It gives the outline whose innermost container is the list of the definition. -/
def definitionList? (o : Outline) : Option Outline :=
  match o.top.reversed with
  | .paragraph _ text :: before =>
    let outside := { o with top := { o.top with reversed := before } }
    some ((outside.openContainer (.definitionList true)).append (.title text))
  | .possibleTitle text :: before =>
    some { o with top := { o.top with reversed := .title text :: before } }
  | .container (.definition _) _ :: _ => some o
  | _ => none

/-- The outline whose innermost list is loose if a blank line came before. -/
def loosenAfterBlank (o : Outline) : Outline :=
  match o.top.kind with
  | .definitionList _ =>
    if o.afterBlank then { o with top := loosen o.top, afterBlank := false } else o
  | _ => o

/-- What the marks at the start of a line lead to. -/
inductive Opened where
  /-- The line holds nothing more. -/
  | line (outline : Outline) (rest : List Char)
  /-- A leaf block follows at the cursor. -/
  | leaf (outline : Outline) (cursor : Cursor)

/-- The containers that the marks at a cursor open. -/
def openContainers (features : Features) : Nat → Outline → Cursor → Opened
  | 0, o, cursor => .leaf o cursor
  | fuel + 1, o, cursor =>
    let (missing, start) := cursor.skip 4
    let outer := 4 - missing
    if missing = 0 then .leaf o cursor
    else
      match if features.footnotes then footnoteLabel? false start.rest else none with
      | some (label, rest) =>
        let o := o.finishList
        let o := match o.top.kind with
          | .footnote _ => o.close
          | _ => o
        let o := { o with footnotes := labelKey label.toList :: o.footnotes }
        openContainers features fuel (o.openContainer (.footnote label))
          (Cursor.start (rest.dropWhile isLineSpace))
      | none =>
        match start.listMarker? outer with
        | some (marker, after) =>
          let o := (o.continueList marker.mark marker.number).openContainer (.item marker.indent)
          match afterBlank? after.rest with
          | some rest => .line { o with emptyItem := true } rest
          | none =>
            match if features.gfm then after.taskMarker? else none with
            | some (checked, after) =>
              let o := o.append (.task checked)
              match afterBlank? after.rest with
              | some rest => .line { o with emptyItem := true } rest
              | none => openContainers features fuel o after
            | none => openContainers features fuel o after
        | none =>
          let definition := if features.definitionLists then do
              let inList ← o.definitionList?
              let (indent, after) ← start.definitionMarker? outer
              return (inList, indent, after)
            else none
          match definition with
          | some (inList, indent, after) =>
            let o := inList.loosenAfterBlank.openContainer (.definition indent)
            match afterBlank? after.rest with
            | some rest => .line { o with emptyItem := true } rest
            | none => openContainers features fuel o after
          | none =>
            match start.quoteMarker? with
            | none => .leaf o cursor
            | some after =>
              let o := o.finishList.openContainer .quote
              match if features.gfm then after.alert? else none with
              | none => openContainers features fuel o after
              | some rest =>
                let setting := o.setting features false
                let (count, lazy) := setting.enter rest
                let current := count == setting.containers.length
                let (missing, spaced) := lazy.skip 4
                if missing ≠ 0 && setting.interrupts current spaced.rest then .line o rest
                else .leaf o (Cursor.start spaced.skipAll.rest)

/-- Reads the block at the start of a line, with the containers around it. -/
def readBlock (features : Features) (fuel : Nat) (o : Outline) (s : List Char) :
    Outline × List Char :=
  let (count, cursor) :=
    matchContainers features.footnotes o.containers (Cursor.start s)
  let o := o.closeMany (o.depth - count)
  match openContainers features fuel o cursor with
  | .line o rest => (o, rest)
  | .leaf o cursor => o.readLeaf features fuel cursor

/-- Reads blocks up to the end of the text. -/
def readBlocks (features : Features) : Nat → Outline → List Char → Outline
  | 0, o, _ => o
  | _, o, [] => o
  | fuel + 1, o, s =>
    let (o, rest) := o.readBlock features (fuel + 1) s
    readBlocks features fuel o rest

/-- The blocks of a document, with what its labels stand for. -/
def ofText (features : Features) (s : List Char) : Outline :=
  let o := readBlocks features (s.length + 1) empty s
  o.closeMany o.depth

end Outline

end Markup

end MarkdownPages
