import MarkdownPages.Kotlin.Literal

/-!
# Reading string literals

The compiler reads a literal character by character up to the closing quote. A backslash and the
letter after it stand for one character; a dollar sign would start a template, and a line break
would end the line inside the literal, so neither may stand there as it is.

What an escaped text adds to a literal does not depend on what stands before or behind it: wherever
the reader is inside a literal, it goes on behind the escaped text as if it had not been there, with
the text read. That is more than what holds of a whole literal, and it is what the induction needs.

## Main definitions

* `Kotlin.unescapeChar?` — the character behind a backslash
* `Kotlin.isRaw` — a character that stands for itself
* `Kotlin.Lexed`, `Kotlin.lexInside`, `Kotlin.lexLiteral` — how the reading of a literal ends
* `Kotlin.readLiteral` — the text of a literal, and what follows it

## Main results

* `Kotlin.escapeChar_cases` — the two ways a character is written
* `Kotlin.lexInside_escape` — an escaped text inside a literal is read as that text
* `Kotlin.lexLiteral_escaped` — an escaped text in quotes is a literal for that text
* `Kotlin.readLiteral_escape` — the same for literals without templates, whatever follows
-/

namespace MarkdownPages

namespace Kotlin

/-- The character that a backslash and the character after it stand for. -/
def unescapeChar? : Char → Option Char
  | '\\' => some '\\'
  | '"' => some '"'
  | '$' => some '$'
  | 'n' => some '\n'
  | 'r' => some '\r'
  | 't' => some '\t'
  | _ => none

/-- A character that stands for itself inside a literal. -/
def isRaw (c : Char) : Bool := !(['"', '\\', '$', '\n', '\r'].contains c)

/-- Reads a literal whose opening quote has been read: its text, and what follows the closing
quote. A template, a line break, an unknown escape or a missing quote is an error. -/
def readLiteral : List Char → Option (List Char × List Char)
  | [] => none
  | '"' :: rest => some ([], rest)
  | '\\' :: c :: rest => do
    let d ← unescapeChar? c
    let (text, after) ← readLiteral rest
    return (d :: text, after)
  | c :: rest =>
    if isRaw c then (readLiteral rest).map fun (text, after) => (c :: text, after) else none

theorem isRaw_iff {c : Char} :
    isRaw c = true ↔ c ≠ '"' ∧ c ≠ '\\' ∧ c ≠ '$' ∧ c ≠ '\n' ∧ c ≠ '\r' := by
  simp [isRaw]

/-- A character is written as itself, or as a backslash and a letter that stands for it. -/
theorem escapeChar_cases (c : Char) :
    (∃ d, escapeChar c = ['\\', d] ∧ unescapeChar? d = some c) ∨
      (escapeChar c = [c] ∧ isRaw c = true) := by
  unfold escapeChar
  split
  case h_7 _ h₁ h₂ h₃ h₄ h₅ _ => exact .inr ⟨rfl, isRaw_iff.mpr ⟨h₂, h₁, h₃, h₄, h₅⟩⟩
  all_goals exact .inl ⟨_, rfl, rfl⟩

/-! ### How reading ends -/

/-- How the reading of a literal ends, with the text up to there. -/
inductive Lexed where
  /-- The closing quote is read. -/
  | closed (text rest : List Char)
  /-- A dollar sign starts a template. -/
  | template (text rest : List Char)
  /-- A line break or an unknown escape stands in the literal, or the closing quote is missing. -/
  | broken (text : List Char)
deriving DecidableEq, Repr

/-- The same end with more text in front. -/
def Lexed.behind (text : List Char) : Lexed → Lexed
  | closed more rest => .closed (text ++ more) rest
  | template more rest => .template (text ++ more) rest
  | broken more => .broken (text ++ more)

theorem Lexed.behind_behind (text more : List Char) (lexed : Lexed) :
    (lexed.behind more).behind text = lexed.behind (text ++ more) := by
  cases lexed <;> simp [behind]

theorem Lexed.behind_eq_closed {c : Char} {text rest : List Char} {lexed : Lexed} :
    lexed.behind [c] = .closed text rest ↔
      ∃ more, lexed = .closed more rest ∧ c :: more = text := by
  cases lexed with
  | closed more after =>
    constructor
    · rintro ⟨rfl⟩
      exact ⟨more, rfl, rfl⟩
    · rintro ⟨_, ⟨rfl⟩, rfl⟩
      rfl
  | template | broken => simp [behind]

/-- Reads on inside a literal. -/
def lexInside : List Char → Lexed
  | [] => .broken []
  | '"' :: rest => .closed [] rest
  | '$' :: rest => .template [] rest
  | '\\' :: c :: rest =>
    match unescapeChar? c with
    | some d => (lexInside rest).behind [d]
    | none => .broken []
  | c :: rest => if isRaw c then (lexInside rest).behind [c] else .broken []

/-- Reads a literal from its opening quote on. -/
def lexLiteral : List Char → Lexed
  | '"' :: rest => lexInside rest
  | _ => .broken []

theorem lexInside_cons_of_isRaw {c : Char} (h : isRaw c = true) (rest : List Char) :
    lexInside (c :: rest) = (lexInside rest).behind [c] := by
  have hc := isRaw_iff.mp h
  rw [lexInside, if_pos h]
  · exact hc.1
  · exact hc.2.2.1
  · exact fun _ _ hd _ => hc.2.1 hd

/-- **One character.** Written inside a literal it is read as itself, whatever follows. -/
theorem lexInside_escapeChar (c : Char) (rest : List Char) :
    lexInside (escapeChar c ++ rest) = (lexInside rest).behind [c] := by
  rcases escapeChar_cases c with ⟨d, hd, hc⟩ | ⟨hd, hc⟩
  · rw [hd, List.cons_append, List.cons_append, List.nil_append, lexInside, hc]
  · rw [hd, List.cons_append, List.nil_append, lexInside_cons_of_isRaw hc]

/-- **A text.** Written inside a literal it is read as itself, whatever follows. -/
theorem lexInside_escape (s rest : List Char) :
    lexInside (escape s ++ rest) = (lexInside rest).behind s := by
  induction s with
  | nil => rw [escape_nil, List.nil_append]; cases lexInside rest <;> rfl
  | cons c s ih =>
    rw [escape_cons, List.append_assoc, lexInside_escapeChar, ih, Lexed.behind_behind,
      List.singleton_append]

/-- **Reading back.** An escaped text in quotes is a literal for that text, without a template, and
what follows is left. -/
theorem lexLiteral_escaped (s rest : String) :
    lexLiteral ("\"" ++ escaped s ++ "\"" ++ rest).toList = .closed s.toList rest.toList := by
  have hcode : ("\"" ++ escaped s ++ "\"" ++ rest).toList =
      '"' :: (escape s.toList ++ '"' :: rest.toList) := by
    simp [escaped]
  rw [hcode, lexLiteral, lexInside_escape, lexInside, Lexed.behind, List.append_nil]

/-! ### Literals without templates -/

theorem readLiteral_cons_of_isRaw {c : Char} (h : isRaw c = true) (rest : List Char) :
    readLiteral (c :: rest) =
      (readLiteral rest).map fun (text, after) => (c :: text, after) := by
  have hc := isRaw_iff.mp h
  rw [readLiteral, if_pos h]
  · exact hc.1
  · exact fun _ _ hd _ => hc.2.1 hd

private theorem readLiteral_cons_eq_some {c : Char} {input text rest : List Char}
    {read : Option (List Char × List Char)}
    (h : readLiteral input = read.map fun (text, after) => (c :: text, after)) :
    readLiteral input = some (text, rest) ↔
      ∃ more, read = some (more, rest) ∧ c :: more = text := by
  rw [h, Option.map_eq_some_iff]
  constructor
  · rintro ⟨⟨more, after⟩, hread, ⟨rfl⟩⟩
    exact ⟨more, hread, rfl⟩
  · rintro ⟨more, hread, rfl⟩
    exact ⟨(more, rest), hread, rfl⟩

/-- A literal is read if its reading ends at the closing quote. -/
theorem readLiteral_eq_some {input text rest : List Char} :
    readLiteral input = some (text, rest) ↔ lexInside input = .closed text rest := by
  fun_induction lexInside input generalizing text rest with
  | case1 => simp [readLiteral]
  | case2 after => simp [readLiteral]
  | case3 after => simp [readLiteral, isRaw]
  | case4 c after d hc ih =>
    have hread : readLiteral ('\\' :: c :: after) =
        (readLiteral after).map fun (text, rest) => (d :: text, rest) := by
      rw [readLiteral, hc]
      cases readLiteral after <;> rfl
    simp only [readLiteral_cons_eq_some hread, Lexed.behind_eq_closed, ih]
  | case5 c after hc => simp [readLiteral, hc]
  | case6 c after _ _ _ hraw ih =>
    have hread := readLiteral_cons_of_isRaw hraw after
    simp only [readLiteral_cons_eq_some hread, Lexed.behind_eq_closed, ih]
  | case7 c after hquote _ hbackslash hraw =>
    rw [readLiteral, if_neg hraw]
    · simp
    · exact hquote
    · exact hbackslash

/-- An escaped text in quotes is read as the text, and what follows is left. -/
theorem readLiteral_escape (s rest : List Char) :
    readLiteral (escape s ++ '"' :: rest) = some (s, rest) := by
  rw [readLiteral_eq_some, lexInside_escape, lexInside, Lexed.behind, List.append_nil]

end Kotlin

end MarkdownPages
