/-!
# String literals of the generated code

A text is written between double quotes with a backslash before every character that would end
the literal, start a template, or break the line. Every other character stands for itself.

## Main definitions

* `Kotlin.escape` — the characters between the quotes
* `Kotlin.quoted` — the literal, quotes included
-/

namespace MarkdownPages

namespace Kotlin

/-- How one character of a text is written inside a literal. -/
def escapeChar (c : Char) : List Char :=
  match c with
  | '\\' => ['\\', '\\']
  | '"' => ['\\', '"']
  | '$' => ['\\', '$']
  | '\n' => ['\\', 'n']
  | '\r' => ['\\', 'r']
  | '\t' => ['\\', 't']
  | c => [c]

/-- The characters that stand for the text `s` inside a literal. -/
def escape (s : List Char) : List Char := s.flatMap escapeChar

@[simp] theorem escape_nil : escape [] = [] := rfl

@[simp] theorem escape_cons (c : Char) (s : List Char) :
    escape (c :: s) = escapeChar c ++ escape s := rfl

theorem escape_append (s t : List Char) : escape (s ++ t) = escape s ++ escape t := by
  simp [escape]

/-- The text of a string between the quotes of a literal. -/
def escaped (s : String) : String := String.ofList (escape s.toList)

/-- The literal for a text. -/
def quoted (s : String) : String := "\"" ++ escaped s ++ "\""

end Kotlin

end MarkdownPages
