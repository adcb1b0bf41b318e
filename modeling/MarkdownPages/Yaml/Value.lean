import MarkdownPages.Numeral.Shortest
import MarkdownPages.Yaml.Node

/-!
# Values of a document

A plain scalar is empty, a truth value, a number or a text, depending on how it is spelled; a tag
of the common vocabulary settles what a scalar is, and any other tag is kept with the value.

## Main definitions

* `Yaml.Number`, `Yaml.Value` — what nodes stand for
* `Yaml.Value.ofPlain?` — the value of a plain scalar
* `Yaml.topEntries?` — a document that is a mapping with scalars for keys

## Implementation notes

Collections may be nested up to a fixed depth. Following an alias is counted, and a document in
which aliases are followed far more often than it has parts is refused, so aliases of aliases
cannot blow up. Keys of nested mappings have to differ as values.
-/

namespace MarkdownPages

namespace Yaml

/-! ### Numbers -/

/-- A number. -/
inductive Number where
  | whole (n : Int)
  | float (x : Binary64)
  | infinity (negative : Bool)
  | notANumber
deriving DecidableEq, Inhabited, Repr

namespace Number

/-- The text of a number. -/
def text : Number → String
  | whole n => toString n
  | float x => x.text
  | infinity negative => if negative then "-.inf" else ".inf"
  | notANumber => ".nan"

/-- Equality as numbers. -/
def same : Number → Number → Bool
  | float x, float y => x.same y
  | x, y => x = y

end Number

/-- Digits in decimal notation with a zero too many at the start, which are no number. -/
def isZeroLed (s : List Char) : Bool :=
  let body := if Numeral.isSigned s then s.tail else s
  1 < body.length && body.head? = some '0' && body.all Text.isAsciiDigit

/-- A natural number in one of four bases. -/
def naturalIn? : List Char → Option Nat
  | '0' :: 'x' :: digits => Numeral.natural? 16 digits
  | '0' :: 'o' :: digits => Numeral.natural? 8 digits
  | '0' :: 'b' :: digits => Numeral.natural? 2 digits
  | digits => if isZeroLed digits then none else Numeral.natural? 10 digits

/-- A whole number that a text writes. -/
def wholeNumber? (s : List Char) : Option Int :=
  let (negative, body) := Numeral.cutSign s
  (naturalIn? body).map fun n => if negative then -(n : Int) else n

/-- Whether a whole number fits into a word of the given number of bits, without a sign or
negative. -/
def fitsWord (bits : Nat) : Int → Bool
  | .ofNat n => n < Nat.pow 2 bits
  | .negSucc n => n < Nat.pow 2 (bits - 1)

/-- A number with a point or exponent that a text writes, or a word for one that is not finite.
Numbers that are too large are none. -/
def float? (s : List Char) : Option Number :=
  let unsigned := if s.head? = some '+' then s.tail else s
  if [".inf", ".Inf", ".INF"].any (·.toList = unsigned) then some (.infinity false)
  else if ["-.inf", "-.Inf", "-.INF"].any (·.toList = s) then some (.infinity true)
  else if [".nan", ".NaN", ".NAN"].any (·.toList = s) then some .notANumber
  else ((Decimal.ofChars? s).bind Binary64.ofDecimal?).map .float

/-- The truth value that a word stands for. -/
def truth? (s : List Char) : Option Bool :=
  if ["true", "True", "TRUE"].any (·.toList = s) then some true
  else if ["false", "False", "FALSE"].any (·.toList = s) then some false
  else none

/-- Whether a word stands for nothing. -/
def isNullWord (s : List Char) : Bool := ["null", "Null", "NULL", "~"].any (·.toList = s)

/-! ### Values -/

/-- What a node stands for. -/
inductive Value where
  | null
  | bool (b : Bool)
  | number (n : Number)
  | string (s : String)
  | sequence (items : List Value)
  | mapping (entries : List (Value × Value))
  | tagged (tag : List Char) (value : Value)
deriving Inhabited, Repr

namespace Value

mutual

/-- Equality of keys. The order of the entries of a mapping does not matter. -/
def same : Value → Value → Bool
  | null, null => true
  | bool a, bool b => a == b
  | number a, number b => a.same b
  | string a, string b => a == b
  | sequence a, sequence b => sameItems a b
  | mapping a, mapping b => a.length == b.length && allIn a b
  | tagged s a, tagged t b => s == t && same a b
  | _, _ => false

/-- Equality of items, in order. -/
def sameItems : List Value → List Value → Bool
  | [], [] => true
  | a :: as, b :: bs => same a b && sameItems as bs
  | _, _ => false

/-- Whether every entry of one mapping is one of another. -/
def allIn : List (Value × Value) → List (Value × Value) → Bool
  | [], _ => true
  | (key, value) :: rest, entries =>
    entries.any (fun entry => same key entry.1 && same value entry.2) && allIn rest entries

end

/-- The value of a whole number. One that fits into a double word only is refused, and a wider one
is not taken for a whole number. -/
def ofWhole? (s : List Char) : Option (Option Value) :=
  match wholeNumber? s with
  | some n =>
    if fitsWord 64 n then some (some (.number (.whole n)))
    else if fitsWord 128 n then none
    else some none
  | none => some none

/-- The value of a plain scalar. -/
def ofPlain? (s : List Char) : Option Value :=
  if s.isEmpty || isNullWord s then some .null
  else
    match truth? s with
    | some b => some (.bool b)
    | none =>
      match ofWhole? s with
      | none => none
      | some (some value) => some value
      | some none =>
        match if isZeroLed s then none else float? s with
        | some x => some (.number x)
        | none => some (.string (String.ofList s))

/-- The name of a type in the common vocabulary. -/
def coreTag (name : String) : List Char := ("tag:yaml.org,2002:" ++ name).toList

/-- The value of a scalar with a tag that is not its own. -/
def ofTagged? (tag s : List Char) : Option Value :=
  if tag = coreTag "bool" then (truth? s).map .bool
  else if tag = coreTag "int" then (ofWhole? s).join
  else if tag = coreTag "float" then (float? s).map .number
  else if tag = coreTag "null" then if isNullWord s then some .null else none
  else some (.string (String.ofList s))

/-- The value of a scalar. -/
def ofScalar? (tag : Option (List Char)) (plain : Bool) (s : List Char) : Option Value :=
  match tag with
  | some tag => ofTagged? tag s
  | none => if plain then ofPlain? s else some (.string (String.ofList s))

/-- The tag of a value that has one of its own, without the mark of exclamation at its start. -/
def ownTag? : Option (List Char) → Option (List Char)
  | some ('!' :: rest) => some (if rest.isEmpty then ['!'] else rest)
  | _ => none

end Value

/-! ### Reading nodes -/

namespace Node

/-- The tag of a node. -/
def tag? : Node → Option (List Char)
  | scalar _ tag _ _ | sequence _ tag _ | mapping _ tag _ => tag
  | aliasOf _ => none

mutual

/-- The anchored nodes in a node, in the order in which they start. -/
def anchored : Node → List (Nat × Node)
  | scalar anchor tag plain text =>
    (anchor.map fun n => (n, scalar anchor tag plain text)).toList
  | sequence anchor tag items =>
    (anchor.map fun n => (n, sequence anchor tag items)).toList ++ anchoredItems items
  | mapping anchor tag entries =>
    (anchor.map fun n => (n, mapping anchor tag entries)).toList ++ anchoredEntries entries
  | aliasOf _ => []

/-- The anchored nodes in several nodes. -/
def anchoredItems : List Node → List (Nat × Node)
  | [] => []
  | node :: rest => anchored node ++ anchoredItems rest

/-- The anchored nodes in several entries. -/
def anchoredEntries : List (Node × Node) → List (Nat × Node)
  | [] => []
  | (key, value) :: rest => anchored key ++ anchored value ++ anchoredEntries rest

end

mutual

/-- The number of parts of a node: each scalar and alias, and each start and end of a
collection. -/
def parts : Node → Nat
  | scalar _ _ _ _ | aliasOf _ => 1
  | sequence _ _ items => partsOfItems items + 2
  | mapping _ _ entries => partsOfEntries entries + 2

/-- The number of parts of several nodes. -/
def partsOfItems : List Node → Nat
  | [] => 0
  | node :: rest => parts node + partsOfItems rest

/-- The number of parts of several entries. -/
def partsOfEntries : List (Node × Node) → Nat
  | [] => 0
  | (key, value) :: rest => parts key + parts value + partsOfEntries rest

end

end Node

/-- A reader that counts down how many more aliases may be followed. -/
abbrev Following := StateT Nat Option

/-- The node itself, or the node that an alias stands for. -/
def follow (targets : List (Nat × Node)) : Node → Following Node
  | .aliasOf number => do
    let left ← get
    guard (0 < left)
    set (left - 1)
    (targets.reverse.lookup number : Option Node)
  | node => return node

/-- Adds an entry to a mapping whose keys have to differ. -/
def insertNew? (entries : List (Value × Value)) (key value : Value) :
    Option (List (Value × Value)) :=
  if entries.any fun entry => key.same entry.1 then none else some (entries ++ [(key, value)])

/-- How deep collections may be nested. -/
def maxDepth : Nat := 128

namespace Value

/-- The value of a node in which collections are nested up to the given depth. -/
def ofNode (targets : List (Nat × Node)) : Nat → Node → Following Value
  | depth, node => do
    let node ← follow targets node
    let content ← match depth, node with
      | _, .scalar _ tag plain text =>
        (ofScalar? (if (ownTag? tag).isSome then none else tag) plain text : Option Value)
      | depth + 1, .sequence _ _ items => do
        let read ← items.mapM (ofNode targets depth)
        pure (.sequence read)
      | depth + 1, .mapping _ _ entries => do
        let read ← entries.foldlM (fun done entry => do
          let key ← ofNode targets depth entry.1
          let value ← ofNode targets depth entry.2
          (insertNew? done key value : Option (List (Value × Value)))) []
        pure (.mapping read)
      | _, _ => failure
    match ownTag? node.tag? with
    | some tag => return .tagged tag content
    | none => return content

end Value

/-- The text of a node that is a scalar. -/
def scalarText (targets : List (Nat × Node)) (node : Node) : Following String := do
  match (← follow targets node) with
  | .scalar _ _ _ text => return String.ofList text
  | _ => failure

/-- The entries of a mapping with scalars for keys, in order. An empty document has none. -/
def entriesOf (targets : List (Nat × Node)) : Node → Following (List (String × Value))
  | .mapping _ _ entries =>
    entries.mapM fun (key, value) => do
      let key ← scalarText targets key
      return (key, ← Value.ofNode targets (maxDepth - 1) value)
  | .scalar _ _ plain text => if plain && text.isEmpty then return [] else failure
  | _ => failure

/-- The entries of the mapping that a text writes, in order. -/
def topEntries? (s : List Char) : Option (List (String × Value)) := do
  let node ← Node.ofTokens? (← Token.ofText? s)
  let targets := node.anchored
  let (entries, _) ← (entriesOf targets node).run (100 * node.parts)
  return entries

end Yaml

end MarkdownPages
