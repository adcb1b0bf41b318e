import MarkdownPages.Numeral.Decimal
import MarkdownPages.Text.Split

/-!
# White space, keys and strings of the settings notation

## Main definitions

* `Toml.Reader` — a reader of characters that may find none it can read
* `Toml.skipSpace`, `Toml.skipLines`, `Toml.endLine` — what stands between the parts of a text
* `Toml.string` — a string between quotes, on one line or several
* `Toml.key` — the parts of a key with dots
-/

namespace MarkdownPages

namespace Toml

/-- A reader of characters that may find none it can read. -/
abbrev Reader := StateT (List Char) Option

/-! ### Small readers -/

/-- The next character, which stays. -/
def peek? : Reader (Option Char) := return (← get).head?

/-- The next character. -/
def next : Reader Char := do
  match (← get) with
  | c :: rest =>
    set rest
    return c
  | [] => failure

/-- Passes some characters if they come next, and says whether they did. -/
def accept (s : String) : Reader Bool := do
  match Text.dropStart? s.toList (← get) with
  | some rest =>
    set rest
    return true
  | none => return false

/-- Passes some characters, which have to come next. -/
def expect (s : String) : Reader Unit := do
  if (← accept s) then return else failure

/-- The characters in a row that are in a class. -/
def takeWhile (inClass : Char → Bool) : Reader (List Char) := do
  let (taken, rest) := (← get).span inClass
  set rest
  return taken

/-! ### Space -/

/-- A space or a tab. -/
def isSpace (c : Char) : Bool := c == ' ' || c == '\t'

/-- A control character that may stand nowhere: any but tab. -/
def isControl (c : Char) : Bool :=
  let n := c.toNat
  n ≤ 8 || (10 ≤ n && n ≤ 31) || n == 127

/-- Passes spaces and tabs. -/
def skipSpace : Reader Unit := do
  let _ ← takeWhile isSpace

/-- Passes a line break, if one comes next, and says whether it did. -/
def acceptBreak : Reader Bool := do
  if (← accept "\n") then return true else accept "\r\n"

/-- Passes a comment, if one comes next. -/
def skipComment : Reader Unit := do
  if (← accept "#") then
    let _ ← takeWhile fun c => !isControl c

/-- Passes spaces and a comment up to the end of the line, and the line break. -/
def endLine : Reader Unit := do
  skipSpace
  skipComment
  if (← get).isEmpty || (← acceptBreak) then return else failure

/-- Passes spaces, comments and line breaks. -/
def skipLines : Nat → Reader Unit
  | 0 => return
  | fuel + 1 => do
    skipSpace
    skipComment
    if (← acceptBreak) then skipLines fuel

/-! ### Strings -/

/-- The character with a code that hexadecimal digits state. -/
def codedChar (count : Nat) : Reader Char := do
  let (digits, rest) := (← get).splitAt count
  set rest
  match Numeral.natural? 16 digits with
  | some code => if digits.length = count && code.isValidChar then return Char.ofNat code else failure
  | none => failure

/-- The character that an escape behind a backslash stands for. -/
def escape : Reader Char := do
  match (← next) with
  | 'b' => return '\x08'
  | 't' => return '\t'
  | 'n' => return '\n'
  | 'f' => return '\x0c'
  | 'r' => return '\r'
  | 'e' => return '\x1b'
  | '"' => return '"'
  | '\\' => return '\\'
  | 'x' => codedChar 2
  | 'u' => codedChar 4
  | 'U' => codedChar 8
  | _ => failure

/-- The rest of a string on one line that ends with the given quote. -/
def lineString (quote : Char) (escapes : Bool) : Nat → List Char → Reader (List Char)
  | 0, _ => failure
  | fuel + 1, done => do
    let c ← next
    if c == quote then return done.reverse
    else if escapes && c == '\\' then lineString quote escapes fuel ((← escape) :: done)
    else if isControl c then failure
    else lineString quote escapes fuel (c :: done)

/-- Passes the blank rest of a line behind a backslash with the blank lines and blanks that
follow, and says whether there was a line break. -/
def skipContinuation : Nat → Reader Bool
  | 0 => return false
  | fuel + 1 => do
    skipSpace
    if (← acceptBreak) then
      let _ ← skipContinuation fuel
      return true
    else return false

/-- The rest of a string on several lines that ends with three of the given quote. One or two
quotes before those belong to the string. -/
def longString (quote : Char) (escapes : Bool) : Nat → List Char → Reader (List Char)
  | 0, _ => failure
  | fuel + 1, done => do
    let quotes := ((← get).takeWhile (· == quote)).length
    if 3 ≤ quotes then
      let kept := min quotes 5 - 3
      modify (·.drop (min quotes 5))
      return (List.replicate kept quote ++ done).reverse
    else if (← accept "\r\n") then longString quote escapes fuel ('\n' :: '\r' :: done)
    else
      let c ← next
      if escapes && c == '\\' then
        let before ← get
        if (← skipContinuation fuel) then longString quote escapes fuel done
        else
          set before
          longString quote escapes fuel ((← escape) :: done)
      else if isControl c && c != '\n' then failure
      else longString quote escapes fuel (c :: done)

/-- The string that starts with a quote and whose other quotes are given too. -/
def stringOf (quote : Char) (escapes : Bool) (long : Bool) : Reader (List Char) := do
  let text ← get
  let fuel := text.length + 1
  if long && [quote, quote, quote].isPrefixOf text then
    set (text.drop 3)
    let _ ← acceptBreak
    longString quote escapes fuel []
  else
    let _ ← next
    lineString quote escapes fuel []

/-- A string, where `long` says whether it may stand on several lines. -/
def string (long : Bool) : Reader (List Char) := do
  match (← peek?) with
  | some '"' => stringOf '"' true long
  | some '\'' => stringOf '\'' false long
  | _ => failure

/-! ### Keys -/

/-- A character of a key without quotes. -/
def isKeyChar (c : Char) : Bool := Text.isAsciiAlphanumeric c || c == '_' || c == '-'

/-- One part of a key. -/
def keyPart : Reader String := do
  let bare ← takeWhile isKeyChar
  if bare.isEmpty then return String.ofList (← string false) else return String.ofList bare

/-- The parts of a key behind the first one. -/
def moreKeyParts : Nat → Reader (List String)
  | 0 => failure
  | fuel + 1 => do
    skipSpace
    if (← accept ".") then
      skipSpace
      let part ← keyPart
      return part :: (← moreKeyParts fuel)
    else return []

/-- The parts of a key: the parts before the last, and the last. -/
def key : Reader (List String × String) := do
  let first ← keyPart
  let parts := first :: (← moreKeyParts ((← get).length + 1))
  return (parts.dropLast, parts.getLast?.getD first)

end Toml

end MarkdownPages
