import MarkdownPages.Toml.Scalar
import MarkdownPages.Toml.Table
import MarkdownPages.Toml.Text

/-!
# Reading settings

## Main definitions

* `Toml.value` — a value
* `Toml.ofText?` — the top table of a text
-/

namespace MarkdownPages

namespace Toml

/-! ### Values -/

/-- A character of a word that writes a number, a moment or a truth value. -/
def isWordChar (c : Char) : Bool :=
  Text.isAsciiAlphanumeric c || c == '_' || c == '-' || c == '+' || c == '.' || c == ':'

/-- A word. A space may stand between a date and a time. -/
def word : Reader (List Char) := do
  let first ← takeWhile isWordChar
  if isDate first then
    match (← get) with
    | ' ' :: c :: _ =>
      if Text.isAsciiDigit c then
        let _ ← next
        return first ++ ' ' :: (← takeWhile isWordChar)
      else return first
    | _ => return first
  else return first

/-- The value that a word writes. -/
def ofWord? (s : List Char) : Option Value :=
  if s == "true".toList then some (.bool true)
  else if s == "false".toList then some (.bool false)
  else if isNumber s then some .number
  else if isMoment s then some .moment
  else none

mutual

/-- A value. -/
def value : Nat → Reader Value
  | 0 => failure
  | fuel + 1 => do
    match (← peek?) with
    | some '"' | some '\'' => return .string (String.ofList (← string true))
    | some '[' =>
      let _ ← next
      return .array (← items fuel)
    | some '\x7b' =>
      let _ ← next
      return .table .inline (← inlineEntries fuel [])
    | _ =>
      match ofWord? (← word) with
      | some v => return v
      | none => failure

/-- The values of an array whose bracket was read. A comma may follow the last one. -/
def items : Nat → Reader (List Value)
  | 0 => failure
  | fuel + 1 => do
    skipLines (← get).length
    if (← accept "]") then return []
    let item ← value fuel
    skipLines (← get).length
    if (← accept ",") then return item :: (← items fuel)
    else
      expect "]"
      return [item]

/-- The entries of a table whose curly bracket was read. A comma may follow the last one. -/
def inlineEntries : Nat → Table → Reader Table
  | 0, _ => failure
  | fuel + 1, table => do
    skipLines (← get).length
    if (← accept "\x7d") then return table
    let (path, name) ← key
    skipSpace
    expect "="
    skipSpace
    let v ← value fuel
    match define? path name v .inline table with
    | none => failure
    | some (_, table) =>
      skipLines (← get).length
      if (← accept ",") then inlineEntries fuel table
      else
        expect "\x7d"
        return table

end

/-! ### Documents -/

/-- The rest of a text, given the path of the latest header and the top table. -/
def lines : Nat → List String → Table → Reader Table
  | 0, _, _ => failure
  | fuel + 1, header, top => do
    skipLines (← get).length
    if (← get).isEmpty then return top
    if (← accept "[[") then
      skipSpace
      let (path, name) ← key
      skipSpace
      expect "]]"
      endLine
      match openElement? path name top with
      | some top => lines fuel (path ++ [name]) top
      | none => failure
    else if (← accept "[") then
      skipSpace
      let (path, name) ← key
      skipSpace
      expect "]"
      endLine
      match openTable? path name top with
      | some top => lines fuel (path ++ [name]) top
      | none => failure
    else
      let (path, name) ← key
      skipSpace
      expect "="
      skipSpace
      let v ← value ((← get).length + 1)
      endLine
      match defineUnder? header path name v top with
      | some top => lines fuel header top
      | none => failure

/-- A text without a mark of byte order at its start. -/
def withoutMark (s : List Char) : List Char :=
  match s with
  | c :: rest => if c.toNat = 0xFEFF then rest else s
  | [] => []

/-- The top table that a text writes. -/
def ofText? (s : String) : Option Table := do
  let text := withoutMark s.toList
  let (top, _) ← (lines (text.length + 1) [] []).run text
  return top

end Toml

end MarkdownPages
