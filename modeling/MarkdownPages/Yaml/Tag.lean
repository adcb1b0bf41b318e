import MarkdownPages.Numeral.Decimal
import MarkdownPages.Yaml.Character

/-!
# Tags and directives

A tag is a handle, which stands for some text, and a suffix. Directives at the start of a document
state the version of the notation or give a handle its meaning.

## Main definitions

* `Yaml.TagText`, `Yaml.tag?` — a tag as it is written
* `Yaml.Directive`, `Yaml.directive?` — a directive
-/

namespace MarkdownPages

namespace Yaml

/-! ### Names of resources -/

/-- A character of a tag, between angle brackets or not. -/
def isTagChar (verbatim : Bool) (c : Char) : Bool :=
  isWord c || [';', '/', '?', ':', '@', '&', '=', '+', '$', '.', '%', '!', '~', '*', '\'', '(',
    ')'].contains c || (verbatim && [',', '[', ']'].contains c)

/-- The octet that a percent sign and two digits write. -/
def octet? : List Char → Option (Nat × List Char)
  | '%' :: a :: b :: rest =>
    if Text.isHexDigit a && Text.isHexDigit b then
      some (Text.digitValue a * 16 + Text.digitValue b, rest)
    else none
  | _ => none

/-- Some more octets of a character, which carry six bits each. -/
def moreOctets? : Nat → Nat → List Char → Option (Nat × List Char)
  | 0, code, s => some (code, s)
  | n + 1, code, s => do
    let (octet, rest) ← octet? s
    guard (octet / 64 = 2)
    moreOctets? n (code * 64 + octet % 64) rest

/-- The character that escaped octets write. -/
def escapedChar? (s : List Char) : Option (Char × List Char) := do
  let (octet, rest) ← octet? s
  let (count, start) ←
    if octet < 0x80 then some (0, octet)
    else if octet / 32 = 6 then some (1, octet % 32)
    else if octet / 16 = 14 then some (2, octet % 16)
    else if octet / 8 = 30 then some (3, octet % 8)
    else none
  let (code, rest) ← moreOctets? count start rest
  return (if code.isValidChar then Char.ofNat code else Char.ofNat 0xFFFD, rest)

/-- The characters of a tag in a row, with escapes read, and what follows them. -/
def tagCharsFrom? (verbatim : Bool) : Nat → List Char → List Char →
    Option (List Char × List Char)
  | 0, _, _ => none
  | fuel + 1, done, s =>
    match s with
    | '%' :: _ =>
      match escapedChar? s with
      | none => none
      | some (c, rest) => tagCharsFrom? verbatim fuel (c :: done) rest
    | c :: rest =>
      if isTagChar verbatim c then tagCharsFrom? verbatim fuel (c :: done) rest
      else some (done.reverse, s)
    | [] => some (done.reverse, [])

/-- The characters of a tag that stand here, and the place behind them. -/
def tagChars? (verbatim : Bool) (p : Place) : Option (List Char × Place) := do
  let (chars, rest) ← tagCharsFrom? verbatim (p.rest.length + 1) [] p.rest
  return (chars, p.skipMany (p.rest.length - rest.length))

/-! ### Tags -/

/-- A tag as it is written. The handle is empty if the suffix is the whole tag. -/
structure TagText where
  handle : List Char
  suffix : List Char
deriving DecidableEq, Inhabited, Repr

/-- A tag that stands here, and the place behind it: `!<suffix>`, `!name!suffix`, `!!suffix`,
`!suffix`, or a mark of exclamation alone. -/
def tagText? (p : Place) : Option (TagText × Place) := do
  let inside := p.skip
  if inside.rest.head? = some '<' then
    let (suffix, p) ← tagChars? true inside.skip
    guard (!suffix.isEmpty && p.rest.head? = some '>')
    return (⟨[], suffix⟩, p.skip)
  else
    let (name, after) := inside.skipWhile isWord
    if after.rest.head? = some '!' then
      let (suffix, p) ← tagChars? false after.skip
      guard (!suffix.isEmpty)
      return (⟨'!' :: name ++ ['!'], suffix⟩, p)
    else
      let (more, p) ← tagChars? false after
      let suffix := name ++ more
      return (if suffix.isEmpty then ⟨[], ['!']⟩ else ⟨['!'], suffix⟩, p)

/-- A tag that stands here, which a blank has to follow, or a comma between brackets. -/
def tag? (inFlow : Bool) (p : Place) : Option (TagText × Place) := do
  let (tag, p) ← tagText? p
  guard (startsBlank p.rest || (inFlow && p.rest.head? = some ','))
  return (tag, p)

/-! ### Directives -/

/-- A directive. -/
inductive Directive where
  | version (major minor : Nat)
  | tag (handle meaning : List Char)
deriving DecidableEq, Inhabited, Repr

/-- A number of at most nine digits in a version. -/
def versionNumber? (p : Place) : Option (Nat × Place) := do
  let (digits, p) := p.skipWhile Text.isAsciiDigit
  guard (!digits.isEmpty && digits.length ≤ 9)
  return (Numeral.ofDigits 10 digits, p)

/-- The two numbers of a version. -/
def versionDirective? (p : Place) : Option (Directive × Place) := do
  let (major, p) ← versionNumber? (p.skipWhile isBlank).2
  guard (p.rest.head? = some '.')
  let (minor, p) ← versionNumber? p.skip
  return (.version major minor, p)

/-- A handle, between marks of exclamation unless it is a single one, and its meaning. -/
def tagDirective? (p : Place) : Option (Directive × Place) := do
  let p := (p.skipWhile isBlank).2
  guard (p.rest.head? = some '!')
  let (name, p) := p.skip.skipWhile isWord
  let (handle, p) ←
    if p.rest.head? = some '!' then some ('!' :: name ++ ['!'], p.skip)
    else if name.isEmpty then some (['!'], p)
    else none
  guard (startsWithAny [' ', '\t'] p.rest)
  let (meaning, p) ← tagChars? true (p.skipWhile isBlank).2
  guard (!meaning.isEmpty && startsBlank p.rest)
  return (.tag handle meaning, p)

/-- A directive that stands here, and the place at the end of its line. -/
def directive? (p : Place) : Option (Directive × Place) := do
  let (name, p) := p.skip.skipWhile isWord
  guard (!name.isEmpty && startsBlank p.rest)
  let (directive, p) ←
    if name = "YAML".toList then versionDirective? p
    else if name = "TAG".toList then tagDirective? p
    else none
  let p := p.skipComment
  guard (startsBreak p.rest)
  return (directive, p.skip)

end Yaml

end MarkdownPages
