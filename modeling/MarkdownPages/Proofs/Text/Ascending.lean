import MarkdownPages.Text.Ascending

/-!
# Ascending lists stay ascending

Sets and tables are kept as lists in strictly ascending order. The operations on them keep that
order, and a table is read as a function: setting a key changes what that key gives and nothing
else, and so does taking a key away.

## Main results

* `Ascending.pairwise_insert`, `Ascending.pairwise_put` — the order is kept
* `Ascending.put_of_forall_lt` — a key greater than all others goes to the end
* `Ascending.get?_put_of_ne`, `Ascending.get?_erase_of_ne` — other keys give what they gave
* `Ascending.get?_erase_self` — a key that was taken away gives nothing
-/

namespace MarkdownPages

namespace Ascending

variable {κ : Type} [DecidableEq κ] {α : Type}

/-! ### Reading a table -/

theorem mem_of_get? {key : κ} {value : α} {table : List (κ × α)}
    (h : get? key table = some value) : (key, value) ∈ table := by
  induction table with
  | nil => simp [get?] at h
  | cons entry rest ih =>
    obtain ⟨k, v⟩ := entry
    rw [get?] at h
    by_cases hk : key = k
    · rw [if_pos hk, Option.some.injEq] at h
      simp [hk, h]
    · rw [if_neg hk] at h
      exact List.mem_cons_of_mem _ (ih h)

theorem get?_eq_none {key : κ} {table : List (κ × α)}
    (h : ∀ entry ∈ table, key ≠ entry.1) : get? key table = none := by
  induction table with
  | nil => rfl
  | cons entry rest ih =>
    obtain ⟨k, v⟩ := entry
    rw [get?, if_neg (h _ (List.mem_cons_self ..))]
    exact ih fun e he => h e (List.mem_cons_of_mem _ he)

theorem get?_erase_of_ne {key k : κ} (hne : k ≠ key) (table : List (κ × α)) :
    get? k (erase key table) = get? k table := by
  induction table with
  | nil => rfl
  | cons entry rest ih =>
    obtain ⟨k', v⟩ := entry
    rw [erase]
    by_cases heq : key = k'
    · rw [if_pos heq, get?, if_neg (heq ▸ hne)]
    · rw [if_neg heq, get?, get?, ih]

theorem erase_sublist (key : κ) (table : List (κ × α)) :
    (erase key table).Sublist table := by
  induction table with
  | nil => exact .slnil
  | cons entry rest ih =>
    obtain ⟨k, v⟩ := entry
    rw [erase]
    by_cases heq : key = k
    · rw [if_pos heq]
      exact List.sublist_cons_self ..
    · rw [if_neg heq]
      exact ih.cons_cons _

section Setting

variable [LT κ] [DecidableLT κ]

theorem get?_put_of_ne {key k : κ} (hne : k ≠ key) (value : α) (table : List (κ × α)) :
    get? k (put key value table) = get? k table := by
  induction table with
  | nil => simp [put, get?, hne]
  | cons entry rest ih =>
    obtain ⟨k', v⟩ := entry
    rw [put]
    by_cases hlt : key < k'
    · rw [if_pos hlt, get?, if_neg hne]
    · rw [if_neg hlt]
      by_cases heq : key = k'
      · rw [if_pos heq, get?, get?, if_neg hne, if_neg (heq ▸ hne)]
      · rw [if_neg heq, get?, get?, ih]

theorem mem_put {key : κ} {value : α} {table : List (κ × α)} {entry : κ × α}
    (h : entry ∈ put key value table) : entry = (key, value) ∨ entry ∈ table := by
  induction table with
  | nil => exact .inl (List.mem_singleton.mp h)
  | cons head rest ih =>
    obtain ⟨k, v⟩ := head
    rw [put] at h
    by_cases hlt : key < k
    · rw [if_pos hlt] at h
      exact List.mem_cons.mp h
    · rw [if_neg hlt] at h
      by_cases heq : key = k
      · rw [if_pos heq] at h
        exact (List.mem_cons.mp h).imp_right (List.mem_cons_of_mem _)
      · rw [if_neg heq] at h
        rcases List.mem_cons.mp h with rfl | h
        · exact .inr (List.mem_cons_self ..)
        · exact (ih h).imp_right (List.mem_cons_of_mem _)

end Setting

/-! ### The order of a table -/

variable [LT κ]

/-- The keys of a table are in strictly ascending order. -/
abbrev IsTable (table : List (κ × α)) : Prop :=
  table.Pairwise fun entry later => entry.1 < later.1

variable [LE κ] [Std.LawfulOrderLT κ]

theorem get?_of_mem {key : κ} {value : α} {table : List (κ × α)} (htable : IsTable table)
    (h : (key, value) ∈ table) : get? key table = some value := by
  induction table with
  | nil => cases h
  | cons entry rest ih =>
    obtain ⟨hfirst, hrest⟩ := List.pairwise_cons.mp htable
    rw [get?]
    rcases List.mem_cons.mp h with rfl | hmem
    · exact if_pos rfl
    · have hne : key ≠ entry.1 := by
        rintro rfl
        exact Std.lt_irrefl (hfirst (entry.1, value) hmem)
      rw [if_neg hne]
      exact ih hrest hmem

theorem get?_erase_self {key : κ} {table : List (κ × α)} (h : IsTable table) :
    get? key (erase key table) = none := by
  induction table with
  | nil => rfl
  | cons entry rest ih =>
    obtain ⟨k, v⟩ := entry
    obtain ⟨hk, hrest⟩ := List.pairwise_cons.mp h
    rw [erase]
    by_cases heq : key = k
    · rw [if_pos heq]
      refine get?_eq_none fun e he hsame => ?_
      exact Std.lt_irrefl (by simpa [← heq, hsame] using hk e he)
    · rw [if_neg heq, get?, if_neg heq, ih hrest]

/-! ### The order is kept -/

variable [DecidableLT κ]

/-- A key that is greater than all others is put behind them. -/
theorem put_of_forall_lt {key : κ} (value : α) {table : List (κ × α)}
    (h : ∀ entry ∈ table, entry.1 < key) : put key value table = table ++ [(key, value)] := by
  induction table with
  | nil => rfl
  | cons entry rest ih =>
    obtain ⟨k, v⟩ := entry
    obtain ⟨hk, hrest⟩ := List.forall_mem_cons.mp h
    have hne : key ≠ k := by
      rintro rfl
      exact Std.lt_irrefl hk
    rw [put, if_neg (Std.not_gt_of_lt hk), if_neg hne, ih hrest, List.cons_append]

variable [Std.IsLinearOrder κ]

/-- A set with one more member is a set. -/
theorem pairwise_insert (x : κ) {names : List κ} (h : names.Pairwise (· < ·)) :
    (insert x names).Pairwise (· < ·) := by
  induction names with
  | nil => exact List.pairwise_singleton _ x
  | cons y ys ih =>
    obtain ⟨hy, hys⟩ := List.pairwise_cons.mp h
    rw [insert]
    by_cases hxy : x < y
    · rw [if_pos hxy, List.pairwise_cons]
      refine ⟨fun z hz => ?_, h⟩
      rcases List.mem_cons.mp hz with rfl | hz
      · exact hxy
      · exact Std.lt_trans hxy (hy z hz)
    · rw [if_neg hxy]
      by_cases heq : x = y
      · rwa [if_pos heq]
      · rw [if_neg heq, List.pairwise_cons]
        refine ⟨fun z hz => ?_, ih hys⟩
        rcases mem_insert.mp hz with rfl | hz
        · exact ((Std.lt_trichotomy z y).resolve_left hxy).resolve_left heq
        · exact hy z hz

theorem pairwise_put (key : κ) (value : α) {table : List (κ × α)} (h : IsTable table) :
    IsTable (put key value table) := by
  induction table with
  | nil => exact List.pairwise_singleton _ _
  | cons entry rest ih =>
    obtain ⟨k, v⟩ := entry
    obtain ⟨hk, hrest⟩ := List.pairwise_cons.mp h
    rw [put]
    by_cases hlt : key < k
    · rw [if_pos hlt, IsTable, List.pairwise_cons]
      refine ⟨fun e he => ?_, h⟩
      rcases List.mem_cons.mp he with rfl | he
      · exact hlt
      · exact Std.lt_trans hlt (hk e he)
    · rw [if_neg hlt]
      by_cases heq : key = k
      · rw [if_pos heq, IsTable, List.pairwise_cons]
        exact ⟨fun e he => heq ▸ hk e he, hrest⟩
      · rw [if_neg heq, IsTable, List.pairwise_cons]
        refine ⟨fun e he => ?_, ih hrest⟩
        rcases mem_put he with rfl | he
        · exact ((Std.lt_trichotomy key k).resolve_left hlt).resolve_left heq
        · exact hk e he

theorem pairwise_ofEntries (entries : List (κ × α)) : IsTable (ofEntries entries) := by
  have hfold : ∀ table : List (κ × α), IsTable table →
      IsTable (entries.foldl (fun table entry => put entry.1 entry.2 table) table) := by
    induction entries with
    | nil => exact fun table htable => htable
    | cons entry rest ih => exact fun table htable => ih _ (pairwise_put entry.1 entry.2 htable)
  exact hfold [] .nil

end Ascending

end MarkdownPages
