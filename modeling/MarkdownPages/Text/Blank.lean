/-!
# Blank characters

Blank characters are those with the property White_Space: the ASCII controls from tab to carriage
return, space, next line, no-break space and the spaces and separators beyond.

## Main definitions

* `Text.isBlank` — a single character
* `Text.trim`, `Text.trimStart`, `Text.trimEnd` — a text without blank ends
* `Text.allBlank` — a text of blank characters only
* `Text.firstWord` — the first piece between blank characters
-/

namespace MarkdownPages

namespace Text

/-- The property White_Space. -/
def isBlank (c : Char) : Bool :=
  let n := c.toNat
  (9 ≤ n && n ≤ 13) || n == 0x20 || n == 0x85 || n == 0xA0 || n == 0x1680 ||
    (0x2000 ≤ n && n ≤ 0x200A) || n == 0x2028 || n == 0x2029 || n == 0x202F || n == 0x205F ||
    n == 0x3000

/-- The text without the blank characters at its start. -/
def trimStart (s : List Char) : List Char := s.dropWhile isBlank

/-- The text without the blank characters at its end. -/
def trimEnd (s : List Char) : List Char := (s.reverse.dropWhile isBlank).reverse

/-- The text without blank characters at either end. -/
def trim (s : List Char) : List Char := trimEnd (trimStart s)

/-- Whether a text holds nothing but blank characters. -/
def allBlank (s : List Char) : Bool := s.all isBlank

/-- The first maximal piece without blank characters, if there is one. -/
def firstWord (s : List Char) : Option (List Char) :=
  match (trimStart s).takeWhile (fun c => !isBlank c) with
  | [] => none
  | word => some word

theorem isBlank_of_isWhitespace {c : Char} (h : c.isWhitespace = true) : isBlank c = true := by
  simp only [Char.isWhitespace, Bool.or_eq_true, decide_eq_true_eq] at h
  rcases h with ((rfl | rfl) | rfl) | rfl <;> rfl

/-! ### On strings -/

/-- A text without blank characters at either end. -/
def trimmed (s : String) : String := String.ofList (trim s.toList)

/-- A text without blank characters at its end. -/
def trimmedEnd (s : String) : String := String.ofList (trimEnd s.toList)

/-- Whether a text holds nothing but blank characters. -/
def isBlankText (s : String) : Bool := allBlank s.toList

end Text

end MarkdownPages
