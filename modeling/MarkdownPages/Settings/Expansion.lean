import MarkdownPages.Text.Alphanumeric
import MarkdownPages.Text.Split

/-!
# Variables in settings

In a setting, `$` and a name between curly brackets stands for the value of a variable of the
environment, and a default may follow the name behind `:-`. Names in generated code may hold
dollar signs, so any other dollar sign stands for itself.

Variables are replaced by rules that know more than that: a bare name behind a dollar sign is a
variable too, and two dollar signs stand for one. So the dollar signs that are to stand for
themselves are doubled first.

There is one exception. Behind an opening that is never closed no dollar sign is doubled, since all
of it looks like the inside of a reference. There bare names are variables, and two dollar signs
stand for one.

## Main definitions

* `Environment` — the values of variables
* `Settings.protect` — a text with its bare dollar signs doubled
* `Settings.substitute` — a text with all its variables replaced
* `Settings.expand` — a setting with its variables replaced, or the first variable without a value

## Implementation notes

A bracket that closes a reference is the first one behind its opening, so references do not nest,
and a value that was put in is not read again.
-/

namespace MarkdownPages

/-- The values of variables. -/
abbrev Environment := List (String × String)

namespace Settings

/-- A character of the bare name of a variable. -/
def isNameChar (c : Char) : Bool := Text.isAlphanumeric c || c == '_'

/-- The text before and behind the first `:-`. -/
def cutDefault : List Char → Option (List Char × List Char)
  | ':' :: '-' :: rest => some ([], rest)
  | c :: rest => (cutDefault rest).map fun (name, value) => (c :: name, value)
  | [] => none

/-- The name and the default of a reference, from the text between its brackets. Without a name
there is no default. -/
def nameAndDefault (inside : List Char) : List Char × Option (List Char) :=
  match cutDefault inside with
  | some (c :: name, value) => (c :: name, some value)
  | _ => (inside, none)

/-- The value of a variable, or the variable itself if it has none. -/
def valueOf (environment : Environment) (name : List Char) : Except String (List Char) :=
  match environment.lookup (String.ofList name) with
  | some value => .ok value.toList
  | none => .error (String.ofList name)

/-- The value of a reference, from the text between its brackets. -/
def reference (environment : Environment) (inside : List Char) : Except String (List Char) :=
  let (name, fallback) := nameAndDefault inside
  match valueOf environment name, fallback with
  | .ok value, _ => .ok value
  | .error _, some value => .ok value
  | .error name, none => .error name

/-- The text with every dollar sign doubled that opens no reference. Inside a reference, which goes
on to the first closing bracket, nothing is doubled. -/
def protect (inside : Bool) : List Char → List Char
  | [] => []
  | c :: rest =>
    if inside then c :: protect (c != '\x7d') rest
    else if c = '$' then
      if rest.head? = some '\x7b' then '$' :: protect true rest
      else '$' :: '$' :: protect false rest
    else c :: protect false rest

/-- A text with all its variables replaced, with a name between brackets or with a bare one. Two
dollar signs stand for one, and any other dollar sign for itself. -/
def substitute (environment : Environment) : List Char → Except String (List Char)
  | [] => .ok []
  | '$' :: '\x7b' :: rest =>
    match _hcut : Text.cutFirst '\x7d' rest with
    | some (inside, behind) => do
      let value ← reference environment inside
      return value ++ (← substitute environment behind)
    | none => (substitute environment rest).map ('$' :: '\x7b' :: ·)
  | '$' :: '$' :: rest => (substitute environment rest).map ('$' :: ·)
  | '$' :: rest =>
    match rest.takeWhile isNameChar with
    | [] => (substitute environment rest).map ('$' :: ·)
    | name => do
      let value ← valueOf environment name
      return value ++ (← substitute environment (rest.dropWhile isNameChar))
  | c :: rest => (substitute environment rest).map (c :: ·)
termination_by s => s.length
decreasing_by
  all_goals simp only [List.length_cons]
  · have hbehind := Text.length_lt_of_cutFirst _hcut
    omega
  · omega
  · omega
  · omega
  · have hbehind := (List.dropWhile_sublist isNameChar (l := rest)).length_le
    omega
  · omega

/-- A setting with its variables replaced, or the first variable that has neither a value nor a
default. -/
def expand (environment : Environment) (s : String) : Except String String :=
  if Text.hasInfix ['$', '\x7b'] s.toList then
    (substitute environment (protect false s.toList)).map String.ofList
  else .ok s

end Settings

end MarkdownPages
