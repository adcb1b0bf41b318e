import MarkdownPages.Yaml.Scalar
import MarkdownPages.Yaml.Tag

/-!
# Tokens of the data notation

Indentation becomes tokens too: where a block collection starts, and where the indentation falls
back. That a scalar is a key shows only at the colon behind it, so the start of every node that
might be a key is remembered, and the mark of a key is put in there afterwards.

## Main definitions

* `Yaml.Token` — a token
* `Yaml.Lexing` — the tokens read so far, and what decides how to read on
* `Yaml.Token.ofText?` — the tokens of a text

## Implementation notes

The tokens read are kept in reverse together with their number, so that the place of a key is a
number of tokens too. Reading stops with `none` where no token can be read.
-/

namespace MarkdownPages

namespace Yaml

/-- A token. -/
inductive Token where
  | directive (directive : Directive)
  | documentStart
  | documentEnd
  | blockSequenceStart
  | blockMappingStart
  | blockEnd
  | flowSequenceStart
  | flowSequenceEnd
  | flowMappingStart
  | flowMappingEnd
  | blockEntry
  | flowEntry
  | key
  | value
  | aliasOf (name : List Char)
  | anchor (name : List Char)
  | tag (tag : TagText)
  | scalar (plain : Bool) (text : List Char)
deriving DecidableEq, Inhabited, Repr

/-- The start of a node that may turn out to be a key. -/
structure PossibleKey where
  /-- Whether no other reading of the text is left. -/
  required : Bool
  /-- The number of tokens before it. -/
  tokens : Nat
  line : Nat
  column : Nat
deriving Inhabited, Repr

/-- The tokens read so far, and what decides how to read on. -/
structure Lexing where
  place : Place
  /-- The tokens, in reverse. -/
  reversed : List Token := []
  count : Nat := 0
  /-- The column of the block collection that is open; none outside of all of them. -/
  indent : Option Nat := none
  /-- The columns of the block collections around it. -/
  outer : List (Option Nat) := []
  /-- Whether a key may start here. -/
  keyAllowed : Bool := true
  /-- The possible key on the outermost level. -/
  possible : Option PossibleKey := none
  /-- The possible keys before the brackets that are open, innermost first. The key of the
  innermost level is in `possible`. -/
  saved : List (Option PossibleKey) := []
deriving Inhabited, Repr

namespace Lexing

/-- Whether brackets are open. -/
def inFlow (l : Lexing) : Bool := !l.saved.isEmpty

/-- One more token. -/
def push (l : Lexing) (token : Token) : Lexing :=
  { l with reversed := token :: l.reversed, count := l.count + 1 }

/-- A token put in behind the first `position` tokens. -/
def insert (l : Lexing) (position : Nat) (token : Token) : Lexing :=
  let behind := l.count - position
  { l with
    reversed := l.reversed.take behind ++ token :: l.reversed.drop behind
    count := l.count + 1 }

/-! ### Indentation -/

/-- Ends the block collections that are indented further than a column; all of them, if there is
no column. -/
def endBlocks (column : Option Nat) : Nat → Lexing → Lexing
  | 0, l => l
  | fuel + 1, l =>
    match l.indent, column with
    | none, _ => l
    | some indent, column =>
      if column.all (· < indent) then
        endBlocks column fuel
          { l.push .blockEnd with indent := l.outer.head?.join, outer := l.outer.tail }
      else l

/-- Ends the block collections that are indented further than a column, unless brackets are
open. -/
def dedent (column : Option Nat) (l : Lexing) : Lexing :=
  if l.inFlow then l else endBlocks column (l.outer.length + 1) l

/-- Starts a block collection behind the first `position` tokens, if the column is indented
further than the open one and no brackets are open. -/
def indentAt (column position : Nat) (token : Token) (l : Lexing) : Lexing :=
  if l.inFlow || !l.indent.all (· < column) then l
  else { l.insert position token with indent := some column, outer := l.indent :: l.outer }

/-! ### Possible keys -/

/-- Whether a possible key can no longer be one: keys end on their line, within a thousand
columns or so. -/
def isStale (p : Place) (key : PossibleKey) : Bool :=
  key.line < p.line || key.column + 1024 < p.column

/-- A level without a possible key that is stale, unless the key is required. -/
def freshKey? (p : Place) : Option PossibleKey → Option (Option PossibleKey)
  | none => some none
  | some key =>
    if isStale p key then if key.required then none else some none
    else some (some key)

/-- Forgets the possible keys that are stale. -/
def dropStale? (l : Lexing) : Option Lexing := do
  let possible ← freshKey? l.place l.possible
  let saved ← l.saved.mapM (freshKey? l.place)
  return { l with possible := possible, saved := saved }

/-- Forgets the possible key on this level, unless it is required. -/
def dropKey? (l : Lexing) : Option Lexing :=
  match l.possible with
  | some key => if key.required then none else some { l with possible := none }
  | none => some l

/-- Remembers that a key may start here, if one is allowed. -/
def saveKey? (l : Lexing) : Option Lexing :=
  if l.keyAllowed then do
    let key : PossibleKey :=
      { required := !l.inFlow && l.indent == some l.place.column
        tokens := l.count
        line := l.place.line
        column := l.place.column }
    let l ← l.dropKey?
    return { l with possible := some key }
  else some l

/-! ### Single tokens -/

/-- A token of some characters. -/
def take (l : Lexing) (length : Nat) (token : Token) : Lexing :=
  { l.push token with place := l.place.skipMany length }

/-- A marker that bounds a document. -/
def documentMarker? (l : Lexing) (token : Token) : Option Lexing := do
  let l ← (l.dedent none).dropKey?
  return { l.take 3 token with keyAllowed := false }

/-- A directive. -/
def readDirective? (l : Lexing) : Option Lexing := do
  let l ← (l.dedent none).dropKey?
  let (directive, place) ← directive? l.place
  return { l.push (.directive directive) with place := place, keyAllowed := false }

/-- An opening bracket. -/
def openFlow? (l : Lexing) (token : Token) : Option Lexing := do
  let l ← l.saveKey?
  let l := { l with saved := l.possible :: l.saved, possible := none, keyAllowed := true }
  return l.take 1 token

/-- A closing bracket. -/
def closeFlow? (l : Lexing) (token : Token) : Option Lexing := do
  let l ← l.dropKey?
  let l := match l.saved with
    | possible :: saved => { l with possible := possible, saved := saved }
    | [] => l
  return { l.take 1 token with keyAllowed := false }

/-- A comma between brackets. -/
def comma? (l : Lexing) : Option Lexing := do
  let l ← l.dropKey?
  return { l.take 1 .flowEntry with keyAllowed := true }

/-- The start of a block collection at this column, where one may start. -/
def startBlock? (l : Lexing) (token : Token) : Option Lexing :=
  if l.inFlow then some l
  else if l.keyAllowed then some (l.indentAt l.place.column l.count token)
  else none

/-- A dash before an item. -/
def dash? (l : Lexing) : Option Lexing := do
  let l ← (← l.startBlock? .blockSequenceStart).dropKey?
  return { l.take 1 .blockEntry with keyAllowed := true }

/-- A question mark before a key. -/
def explicitKey? (l : Lexing) : Option Lexing := do
  let l ← (← l.startBlock? .blockMappingStart).dropKey?
  return { l.take 1 .key with keyAllowed := !l.inFlow }

/-- A colon before a value. The possible key on this level, if there is one, is a key. -/
def readValue? (l : Lexing) : Option Lexing :=
  match l.possible with
  | some key =>
    let l := (l.insert key.tokens .key).indentAt key.column key.tokens .blockMappingStart
    some { l.take 1 .value with possible := none, keyAllowed := false }
  | none => do
    let l ← l.startBlock? .blockMappingStart
    return { l.take 1 .value with keyAllowed := !l.inFlow }

/-- An anchor or alias: a name, which a blank or an indicator has to follow. -/
def name? (l : Lexing) (token : List Char → Token) : Option Lexing := do
  let l ← l.saveKey?
  let (name, place) := l.place.skip.skipWhile isWord
  guard (!name.isEmpty && (startsBlank place.rest ||
    startsWithAny ['?', ':', ',', ']', '\x7d', '%', '@', '\x60'] place.rest))
  return { l.push (token name) with place := place, keyAllowed := false }

/-- A tag. -/
def readTag? (l : Lexing) : Option Lexing := do
  let l ← l.saveKey?
  let (tag, place) ← tag? l.inFlow l.place
  return { l.push (.tag tag) with place := place, keyAllowed := false }

/-- A block scalar. -/
def blockScalar? (l : Lexing) (literal : Bool) : Option Lexing := do
  let l ← l.dropKey?
  let (text, place) ← block? literal l.indent l.place
  return { l.push (.scalar false text) with place := place, keyAllowed := true }

/-- A scalar between quotes. -/
def quotedScalar? (l : Lexing) (single : Bool) : Option Lexing := do
  let l ← l.saveKey?
  let (text, place) ← quoted? single l.place
  return { l.push (.scalar false text) with place := place, keyAllowed := false }

/-- A plain scalar. A key may follow it if its line has ended. -/
def plainScalar? (l : Lexing) : Option Lexing := do
  let l ← l.saveKey?
  let indent := match l.indent with
    | some indent => indent + 1
    | none => 0
  let (text, place, ended) ← plain? l.inFlow indent l.place
  return { l.push (.scalar true text) with place := place, keyAllowed := ended }

/-! ### All tokens -/

/-- Passes over blanks, comments and breaks. A tab may not stand where a key may start in a block.
Outside of brackets a new line may start a key. -/
def skipBlanks : Nat → Lexing → Lexing
  | 0, l => l
  | fuel + 1, l =>
    let tabs := l.inFlow || !l.keyAllowed
    let place := (l.place.skipWhile fun c => c == ' ' || (tabs && c == '\t')).2
    let place := if place.rest.head? = some '#' then place.skipLine else place
    if place.rest.isEmpty then { l with place := place }
    else if startsBreak place.rest then
      skipBlanks fuel { l with place := place.skip, keyAllowed := !l.inFlow || l.keyAllowed }
    else { l with place := place }

/-- The characters that no token starts with, or that start a token of their own. -/
def indicators : List Char :=
  ['\t', '-', '?', ':', ',', '[', ']', '\x7b', '\x7d', '#', '&', '*', '!', '|', '>', '\'', '"', '%',
    '@', '\x60']

/-- Whether a plain scalar may start with a text. -/
def startsPlain (inFlow : Bool) : List Char → Bool
  | [] => false
  | c :: rest =>
    !indicators.contains c || (c == '-' && !startsWithAny [' ', '\t'] rest) ||
      (!inFlow && (c == '?' || c == ':') && !startsBlank rest)

/-- One more token, which starts with the character `c` before `rest`. -/
def token? (l : Lexing) (c : Char) (rest : List Char) : Option Lexing :=
  let flow := l.inFlow
  if l.place.column == 0 && c == '%' then l.readDirective?
  else if l.place.atMarker '-' then l.documentMarker? .documentStart
  else if l.place.atMarker '.' then l.documentMarker? .documentEnd
  else if c == '[' then l.openFlow? .flowSequenceStart
  else if c == '\x7b' then l.openFlow? .flowMappingStart
  else if c == ']' then l.closeFlow? .flowSequenceEnd
  else if c == '\x7d' then l.closeFlow? .flowMappingEnd
  else if c == ',' then l.comma?
  else if c == '-' && startsBlank rest then l.dash?
  else if c == '?' && (flow || startsBlank rest) then l.explicitKey?
  else if c == ':' && (flow || startsBlank rest) then l.readValue?
  else if c == '*' then l.name? .aliasOf
  else if c == '&' then l.name? .anchor
  else if c == '!' then l.readTag?
  else if c == '|' && !flow then l.blockScalar? true
  else if c == '>' && !flow then l.blockScalar? false
  else if c == '\'' then l.quotedScalar? true
  else if c == '"' then l.quotedScalar? false
  else if startsPlain flow l.place.rest then l.plainScalar?
  else none

/-- The end of the text, which is also the end of its last line. -/
def finish? (l : Lexing) : Option Lexing := (l.dedent none).dropKey?

/-- All tokens that are left. -/
def run? : Nat → Lexing → Option Lexing
  | 0, _ => none
  | fuel + 1, l => do
    let l ← (skipBlanks (l.place.rest.length + 1) l).dropStale?
    let l := l.dedent (some l.place.column)
    match l.place.rest with
    | [] => l.finish?
    | c :: rest => run? fuel (← l.token? c rest)

end Lexing

/-- The text without a mark of byte order at its start. A second one counts as a blank column. -/
def startPlace (s : List Char) : Place :=
  let s := match s with
    | c :: rest => if isByteOrderMark c then rest else s
    | [] => []
  match s with
  | c :: rest => if isByteOrderMark c then { rest := rest, column := 1 } else { rest := s }
  | [] => { rest := [] }

/-- The tokens of a text. -/
def Token.ofText? (s : List Char) : Option (List Token) := do
  guard (s.all isAllowed)
  let start : Lexing := { place := startPlace (withPlainBreaks s) }
  let l ← start.run? (s.length + 2)
  return l.reversed.reverse

end Yaml

end MarkdownPages
