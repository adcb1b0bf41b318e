/-!
# Cutting sequences at separators

A text is cut as the list of its characters, a path as the list of its bytes.

## Main definitions

* `Text.splitOn` — all pieces between separators, empty ones included
* `Text.cutFirst`, `Text.cutLast` — the two parts around the first or last separator
* `Text.dropSuffix?` — a text without a given ending
* `Text.hasInfix` — whether a text occurs inside another
* `Text.joined` — pieces with a separator between them
-/

namespace MarkdownPages

namespace Text

variable {α : Type}

/-- The pieces between the elements that satisfy `isSeparator`: one more than there are
separators. -/
def splitOn (isSeparator : α → Bool) : List α → List (List α)
  | [] => [[]]
  | c :: rest =>
    match splitOn isSeparator rest with
    | [] => [[c]]
    | piece :: pieces =>
      if isSeparator c then [] :: piece :: pieces else (c :: piece) :: pieces

/-- What stands before and after the first `separator`. -/
def cutFirst [DecidableEq α] (separator : α) : List α → Option (List α × List α)
  | [] => none
  | c :: rest =>
    if c == separator then some ([], rest)
    else (cutFirst separator rest).map fun (before, after) => (c :: before, after)

/-- What stands before and after the last `separator`. -/
def cutLast [DecidableEq α] (separator : α) : List α → Option (List α × List α)
  | [] => none
  | c :: rest =>
    match cutLast separator rest with
    | some (before, after) => some (c :: before, after)
    | none => if c == separator then some ([], rest) else none

/-- The text without the ending `suffix`, if it has that ending. -/
def dropSuffix? (suffix s : List Char) : Option (List Char) :=
  if suffix.isSuffixOf s then some (s.take (s.length - suffix.length)) else none

/-- The text after the beginning `start`, if it has that beginning. -/
def dropStart? (start s : List Char) : Option (List Char) :=
  if start.isPrefixOf s then some (s.drop start.length) else none

/-- Whether `pattern` occurs somewhere in the text. -/
def hasInfix (pattern : List Char) : List Char → Bool
  | [] => pattern.isEmpty
  | c :: rest => pattern.isPrefixOf (c :: rest) || hasInfix pattern rest

/-- The pieces with `separator` between each two. -/
def joined (separator : List α) (pieces : List (List α)) : List α :=
  separator.intercalate pieces

theorem splitOn_ne_nil (isSeparator : α → Bool) (s : List α) : splitOn isSeparator s ≠ [] := by
  cases s with
  | nil => simp [splitOn]
  | cons c rest =>
    rw [splitOn]
    split
    · simp
    · split <;> simp

theorem splitOn_cons_of_separator {isSeparator : α → Bool} {c : α} {rest : List α}
    (h : isSeparator c = true) : splitOn isSeparator (c :: rest) = [] :: splitOn isSeparator rest := by
  rw [splitOn]
  split
  · rename_i h'
    exact absurd h' (splitOn_ne_nil _ _)
  · rename_i piece pieces h'
    simp [h, h']

theorem cutFirst_eq_some [DecidableEq α] {separator : α} {s before after : List α}
    (h : cutFirst separator s = some (before, after)) : s = before ++ separator :: after := by
  induction s generalizing before after with
  | nil => simp [cutFirst] at h
  | cons c rest ih =>
    rw [cutFirst] at h
    split at h
    · simp_all
    · simp only [Option.map_eq_some_iff] at h
      obtain ⟨⟨b, a⟩, hb, heq⟩ := h
      simp only [Prod.mk.injEq] at heq
      obtain ⟨rfl, rfl⟩ := heq
      simp [ih hb]

/-- What stands behind a separator is shorter than the text. -/
theorem length_lt_of_cutFirst [DecidableEq α] {separator : α} {s before after : List α}
    (h : cutFirst separator s = some (before, after)) : after.length < s.length := by
  rw [cutFirst_eq_some h, List.length_append, List.length_cons]
  omega

theorem cutLast_eq_some [DecidableEq α] {separator : α} {s before after : List α}
    (h : cutLast separator s = some (before, after)) : s = before ++ separator :: after := by
  induction s generalizing before after with
  | nil => simp [cutLast] at h
  | cons c rest ih =>
    rw [cutLast] at h
    split at h
    · rename_i b a hb
      simp only [Option.some.injEq, Prod.mk.injEq] at h
      obtain ⟨rfl, rfl⟩ := h
      simp [ih hb]
    · split at h
      · simp_all
      · simp at h

end Text

end MarkdownPages
