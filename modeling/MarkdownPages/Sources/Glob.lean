import MarkdownPages.Text.Split

/-!
# Patterns for paths

In a pattern `?` stands for any character, `*` for any characters, `[…]` for a character of a class
and `[!…]` for any other character. All of them match slashes too. `**` has to be a whole component
and stands for any number of components.

## Main definitions

* `Glob` — a pattern, as a list of parts
* `Glob.ofText?` — the pattern that a text writes
* `Glob.covers` — whether a pattern matches a whole text
-/

namespace MarkdownPages

/-- A part of a pattern. -/
inductive GlobPart where
  | literal (c : Char)
  | anyChar
  | anyChars
  /-- Any number of whole components, with their slashes. -/
  | anyComponents
  | oneOf (ranges : List (Char × Char))
  | noneOf (ranges : List (Char × Char))
deriving DecidableEq, Repr

/-- A pattern. -/
structure Glob where
  parts : List GlobPart
deriving DecidableEq, Repr

namespace Glob

/-! ### Reading -/

/-- The ranges of a class: `a-c`, or a single character. -/
def ranges : List Char → List (Char × Char)
  | a :: '-' :: b :: rest => (a, b) :: ranges rest
  | c :: rest => (c, c) :: ranges rest
  | [] => []

/-- The text before and behind the first closing bracket. -/
def cutClass (s : List Char) : Option (List Char × List Char) := Text.cutFirst ']' s

/-- The class whose opening bracket was read, and what follows it. A closing bracket that comes
first is a member. -/
def class? : List Char → Option (GlobPart × List Char)
  | '!' :: first :: rest =>
    (cutClass rest).map fun (members, rest) => (.noneOf (ranges (first :: members)), rest)
  | ['!'] => none
  | first :: rest =>
    (cutClass rest).map fun (members, rest) => (.oneOf (ranges (first :: members)), rest)
  | [] => none

/-- The part for two stars, given what precedes and follows them, and what is left behind it. -/
def components? (previous : Option Char) (rest : List Char) : Option (List Char) :=
  if previous.all (· == '/') then
    match rest with
    | [] => some []
    | '/' :: rest => some rest
    | _ => none
  else none

/-- The parts of a pattern, given the character before the text that is left. -/
def partsFrom? : Nat → Option Char → List Char → Option (List GlobPart)
  | 0, _, _ => none
  | fuel + 1, previous, s =>
    match s with
    | [] => some []
    | '?' :: rest => (partsFrom? fuel (some '?') rest).map (.anyChar :: ·)
    | '*' :: _ =>
      let (stars, rest) := s.span (· == '*')
      match stars.length with
      | 1 => (partsFrom? fuel (some '*') rest).map (.anyChars :: ·)
      | 2 => do
        let after ← components? previous rest
        let parts ← partsFrom? fuel (some (if rest.isEmpty then '*' else '/')) after
        return .anyComponents :: parts
      | _ => none
    | '[' :: rest => do
      let (part, rest) ← class? rest
      return part :: (← partsFrom? fuel (some ']') rest)
    | c :: rest => (partsFrom? fuel (some c) rest).map (.literal c :: ·)

/-- The pattern that a text writes. -/
def ofText? (s : String) : Option Glob := (partsFrom? (s.length + 1) none s.toList).map Glob.mk

/-! ### Matching -/

/-- Whether a character lies in one of some ranges. -/
def inRanges (c : Char) (ranges : List (Char × Char)) : Bool :=
  ranges.any fun (low, high) => low ≤ c && c ≤ high

/-- Whether a part that stands for one character stands for a given one. -/
def accepts (c : Char) : GlobPart → Bool
  | .literal x => c == x
  | .anyChar => true
  | .oneOf ranges => inRanges c ranges
  | .noneOf ranges => !inRanges c ranges
  | .anyChars | .anyComponents => false

/-- Whether a test holds for some rest of a text. -/
def anyRest (test : List Char → Bool) : List Char → Bool
  | [] => test []
  | c :: rest => test (c :: rest) || anyRest test rest

/-- Whether a test holds for what follows a slash of a text, or for the end of the text. -/
def anyAfterSlash (test : List Char → Bool) : List Char → Bool
  | [] => test []
  | c :: rest => (c == '/' && test rest) || anyAfterSlash test rest

/-- Whether a test holds for a text less some of its first components. -/
def anyComponent (test : List Char → Bool) (s : List Char) : Bool := test s || anyAfterSlash test s

/-- Whether parts match a whole text. -/
def matchParts : List GlobPart → List Char → Bool
  | [], s => s.isEmpty
  | .anyChars :: parts, s => anyRest (matchParts parts) s
  | .anyComponents :: parts, s => anyComponent (matchParts parts) s
  | _ :: _, [] => false
  | part :: parts, c :: rest => accepts c part && matchParts parts rest

/-- Whether the pattern matches a whole text. -/
def covers (glob : Glob) (s : String) : Bool := matchParts glob.parts s.toList

end Glob

end MarkdownPages
