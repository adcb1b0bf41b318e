import MarkdownPages.Proofs.Render.Denotation
import MarkdownPages.Proofs.Text.Ascending

/-!
# Gathering imports

Imports are gathered one at a time into an ascending list. An import loses the blank characters at
its ends, and one that is blank altogether is no import. So what has been gathered is a set: the
order in which imports are gathered does not matter, and neither does gathering one twice.

## Main definitions

* `normalised` — what is gathered from some targets

## Main results

* `mem_foldl_gather` — what has been gathered, as a set
* `pairwise_foldl_gather` — imports stay strictly ascending
-/

namespace MarkdownPages

/-! ### Blank ends -/

namespace Text

theorem trimStart_eq_self {s : List Char} (h : ∀ c ∈ s.head?, isBlank c = false) :
    trimStart s = s := by
  cases s with
  | nil => rfl
  | cons c rest =>
    have hc : isBlank c = false := h c rfl
    rw [trimStart, List.dropWhile_cons_of_neg (by simp [hc])]

/-- A text without blank ends is not changed. -/
theorem trim_eq_self {s : List Char} (hstart : ∀ c ∈ s.head?, isBlank c = false)
    (hend : ∀ c ∈ s.getLast?, isBlank c = false) : trim s = s := by
  have hreverse : s.reverse.dropWhile isBlank = s.reverse :=
    trimStart_eq_self (by rwa [List.head?_reverse])
  rw [trim, trimStart_eq_self hstart, trimEnd, hreverse, List.reverse_reverse]

theorem mem_of_mem_trim {s : List Char} {c : Char} (h : c ∈ trim s) : c ∈ s := by
  rw [trim, trimEnd, List.mem_reverse] at h
  have hstart := (List.dropWhile_suffix _).subset h
  rw [List.mem_reverse] at hstart
  exact (List.dropWhile_suffix _).subset hstart

end Text

/-! ### What is gathered -/

/-- What is gathered from some targets. -/
def normalised (targets : List String) : List String :=
  (targets.map Text.trimmed).filter (!·.isEmpty)

theorem mem_normalised {targets : List String} {x : String} :
    x ∈ normalised targets ↔ x ≠ "" ∧ ∃ target ∈ targets, Text.trimmed target = x := by
  rw [normalised, List.mem_filter, List.mem_map, Bool.not_eq_true', ← Bool.not_eq_true,
    String.isEmpty_iff, and_comm]

theorem normalised_append (targets more : List String) :
    normalised (targets ++ more) = normalised targets ++ normalised more := by
  rw [normalised, List.map_append, List.filter_append, normalised, normalised]

/-- Targets without blank ends are gathered as they are. -/
theorem normalised_eq_self {targets : List String}
    (h : ∀ target ∈ targets, Text.trimmed target = target ∧ target ≠ "") :
    normalised targets = targets := by
  have hmap : targets.map Text.trimmed = targets.map id :=
    List.map_congr_left fun target htarget => (h target htarget).1
  rw [List.map_id] at hmap
  rw [normalised, hmap, List.filter_eq_self]
  intro target htarget
  rw [Bool.not_eq_true', ← Bool.not_eq_true, String.isEmpty_iff]
  exact (h target htarget).2

theorem Context.addImports_eq (context : Context) (targets : List String) :
    context.addImports targets =
      { context with imports := targets.foldl gather context.imports } := by
  induction targets generalizing context with
  | nil => rfl
  | cons target targets ih =>
    rw [addImports, List.foldl_cons, List.foldl_cons, addImport_eq, ← addImports, ih]

theorem mem_gather {imports : List String} {target x : String} :
    x ∈ gather imports target ↔ x ∈ imports ∨ x ∈ normalised [target] := by
  rw [gather, normalised, List.map_singleton]
  by_cases hempty : (Text.trimmed target).isEmpty = true
  · rw [if_pos hempty, List.filter_cons_of_neg (by simp [hempty])]
    simp
  · rw [if_neg hempty, List.filter_cons_of_pos (by simp [hempty]), Ascending.mem_insert]
    simp [or_comm]

/-- **Membership.** What has been gathered is what was there before and what the targets name. -/
theorem mem_foldl_gather {imports targets : List String} {x : String} :
    x ∈ targets.foldl gather imports ↔ x ∈ imports ∨ x ∈ normalised targets := by
  induction targets generalizing imports with
  | nil => simp [normalised]
  | cons target targets ih =>
    have happend : normalised (target :: targets) = normalised [target] ++ normalised targets :=
      normalised_append [target] targets
    rw [List.foldl_cons, ih, mem_gather, happend, List.mem_append, or_assoc]

/-- **Order.** What has been gathered is strictly ascending. -/
theorem pairwise_foldl_gather (targets : List String) {imports : List String}
    (h : imports.Pairwise (· < ·)) : (targets.foldl gather imports).Pairwise (· < ·) := by
  induction targets generalizing imports with
  | nil => exact h
  | cons target targets ih =>
    rw [List.foldl_cons]
    apply ih
    rw [gather]
    split
    · exact h
    · exact Ascending.pairwise_insert _ h

/-! ### The imports of elements -/

theorem Kotlin.isBlank_of_isIdentifierPart {c : Char} (h : isIdentifierPart c = true) :
    Text.isBlank c = false := by
  have hz : 'z'.val.toNat = 122 := rfl
  have hZ : 'Z'.val.toNat = 90 := rfl
  have hnine : '9'.val.toNat = 57 := rfl
  have ha : 'a'.val.toNat = 97 := rfl
  have hA : 'A'.val.toNat = 65 := rfl
  have hzero : '0'.val.toNat = 48 := rfl
  have hrange : c.toNat = 95 ∨ (97 ≤ c.toNat ∧ c.toNat ≤ 122) ∨ (65 ≤ c.toNat ∧ c.toNat ≤ 90) ∨
      (48 ≤ c.toNat ∧ c.toNat ≤ 57) := by
    simp only [isIdentifierPart, Text.isAsciiAlphanumeric, Text.isAsciiLetter, Text.isAsciiDigit,
      Bool.or_eq_true, Bool.and_eq_true, decide_eq_true_eq, beq_iff_eq, Char.le_def,
      UInt32.le_iff_toNat_le] at h
    simp only [Char.toNat]
    rcases h with h | rfl
    · omega
    · exact .inl rfl
  rw [← Bool.not_eq_true, Text.isBlank]
  simp only [Bool.or_eq_true, Bool.and_eq_true, decide_eq_true_eq, beq_iff_eq]
  omega

theorem importOf_ne_empty (name : String) : importOf name ≠ "" := by
  rw [importOf]
  split
  · decide
  · intro hempty
    have hlist := congrArg String.toList hempty
    rw [domImport, String.toList_append, String.toList_append] at hlist
    simp at hlist

/-- The import of an element is gathered as it is. -/
theorem trimmed_importOf {name : String}
    (h : ∀ c ∈ name.toList, Kotlin.isIdentifierPart c = true) (hne : name ≠ "") :
    Text.trimmed (importOf name) = importOf name := by
  have hend : ∀ c ∈ name.toList.getLast?, Text.isBlank c = false := fun c hc =>
    Kotlin.isBlank_of_isIdentifierPart (h c (List.mem_of_getLast? hc))
  by_cases hlink : name = "Link"
  · rw [importOf, if_pos hlink]
    rfl
  · rw [importOf_of_ne hlink, Text.trimmed, ← String.toList_inj, String.toList_ofList, domImport,
      String.toList_append]
    refine Text.trim_eq_self ?_ ?_
    · intro c hc
      obtain rfl : 'o' = c := Option.some.inj hc
      rfl
    · intro c hc
      have hnil : name.toList ≠ [] := fun hnil => hne (String.toList_eq_nil_iff.mp hnil)
      rw [List.getLast?_append, List.getLast?_eq_some_getLast hnil, Option.some_or] at hc
      exact hend c (by rwa [List.getLast?_eq_some_getLast hnil])

end MarkdownPages
