import MarkdownPages.Render.Rendering

/-!
# Lines of text

Generated code is written line by line and read line by line. Every line ends in a line feed, so
that the lines of two texts one after the other are the lines of the first followed by those of
the second.

## Main definitions

* `Text.unlines` — the text of some lines
* `Text.lines` — the lines of a text

## Main results

* `Text.lines_unlines` — the lines that were written are the lines that are read
-/

namespace MarkdownPages

namespace Text

/-- The text of lines, each of which ends in a line feed. -/
def unlines (ls : List String) : String := String.join (ls.map (· ++ "\n"))

/-- The lines of a text. What follows the last line feed is a line unless it is empty. -/
def lines : List Char → List (List Char)
  | [] => []
  | c :: rest =>
    if c = '\n' then [] :: lines rest
    else
      match lines rest with
      | [] => [[c]]
      | line :: more => (c :: line) :: more

@[simp] theorem unlines_nil : unlines [] = "" := rfl

@[simp] theorem unlines_cons (l : String) (ls : List String) :
    unlines (l :: ls) = l ++ "\n" ++ unlines ls := by
  rw [unlines, List.map_cons, String.join_cons, unlines]

@[simp] theorem unlines_append (ls ms : List String) :
    unlines (ls ++ ms) = unlines ls ++ unlines ms := by
  rw [unlines, List.map_append, String.join_append, unlines, unlines]

/-- A text of lines is empty only if there are no lines. -/
theorem unlines_eq_empty_iff {ls : List String} : unlines ls = "" ↔ ls = [] := by
  constructor
  · intro h
    cases ls with
    | nil => rfl
    | cons l ls =>
      have : (unlines (l :: ls)).toList = [] := by rw [h, String.toList_empty]
      simp at this
  · rintro rfl
    rfl

theorem lines_append_newline {line : List Char} (h : '\n' ∉ line) (rest : List Char) :
    lines (line ++ '\n' :: rest) = line :: lines rest := by
  induction line with
  | nil => simp [lines]
  | cons c line ih =>
    have hc : c ≠ '\n' := fun hc => h (hc ▸ List.mem_cons_self ..)
    rw [List.cons_append, lines, if_neg hc, ih fun hl => h (List.mem_cons_of_mem _ hl)]

/-- **Reading back.** Lines without line feeds are read as they were written. -/
theorem lines_unlines {ls : List String} (h : ∀ l ∈ ls, '\n' ∉ l.toList) :
    lines (unlines ls).toList = ls.map String.toList := by
  induction ls with
  | nil => rfl
  | cons l ls ih =>
    have hl : '\n' ∉ l.toList := h l (List.mem_cons_self ..)
    rw [unlines_cons, String.toList_append, String.toList_append, List.append_assoc]
    change lines (l.toList ++ '\n' :: (unlines ls).toList) = _
    rw [lines_append_newline hl, ih fun m hm => h m (List.mem_cons_of_mem _ hm), List.map_cons]

/-- One line of code is the text of a single line. -/
theorem lineAt_eq_unlines (depth : Nat) (text : String) :
    lineAt depth text = unlines [indentation depth ++ text] := by
  simp [lineAt]

end Text

end MarkdownPages
