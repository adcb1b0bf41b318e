import Mathlib.Data.List.Sort
import MarkdownPages.Proofs.Text.Raw
import MarkdownPages.Sources.Discovery

/-!
# Documents in ascending order

Paths are ordered by their components, first difference first. The order is total, and two paths are
equal in it if they have the same components. So a list of documents that is sorted by path, and in
which documents with the path of the one before are dropped, is strictly ascending.

## Main results

* `Path.compare_eq_eq` — which paths are equal in the order
* `Discovery.pairwise_ascending` — the list of documents is strictly ascending
* `Discovery.exists_mem_ascending` — every path is still there
* `Discovery.eq_of_ascending` — an ascending list is told by its elements
-/

namespace MarkdownPages

open Std

namespace Path

/-! ### The order of paths -/

/-- The name in a component, which has to be compared if the components are of one kind. -/
def Component.name : Component → RawText
  | .normal name => name
  | _ => default

theorem Component.compare_eq :
    Component.compare = compareLex (compareOn Component.rank) (compareOn Component.name) := by
  funext a b
  cases a <;> cases b <;> rfl

instance : TransCmp Component.compare := by
  rw [Component.compare_eq]
  infer_instance

instance : LawfulEqCmp Component.compare where
  compare_self := ReflCmp.compare_self
  eq_of_compare {a b} h := by
    rw [Component.compare_eq, compareLex, Ordering.then_eq_eq, compareOn, compareOn,
      LawfulEqCmp.compare_eq_iff_eq, LawfulEqCmp.compare_eq_iff_eq] at h
    obtain ⟨hrank, hname⟩ := h
    cases a <;> cases b <;> simp [Component.rank, Component.name] at hrank hname ⊢
    exact hname

theorem compareComponents_eq : compareComponents = List.compareLex Component.compare := by
  funext as bs
  induction as generalizing bs with
  | nil => cases bs <;> rfl
  | cons a as ih =>
    cases bs with
    | nil => rfl
    | cons b bs => rw [compareComponents, ih, List.compareLex_cons_cons]

theorem compare_eq_compareLex : Path.compare =
    fun p q => List.compareLex Component.compare p.components q.components := by
  funext p q
  rw [Path.compare, compareComponents_eq]

instance : TransCmp Path.compare where
  eq_swap := by
    rw [compare_eq_compareLex]
    exact OrientedCmp.eq_swap
  isLE_trans := by
    rw [compare_eq_compareLex]
    exact TransCmp.isLE_trans

theorem compare_eq_eq {p q : Path} : p.compare q = .eq ↔ p.same q = true := by
  rw [compare_eq_compareLex, same, beq_iff_eq]
  exact LawfulEqCmp.compare_eq_iff_eq

theorem le_eq_isLE (p q : Path) : p.le q = (p.compare q).isLE := by
  rw [le]
  cases p.compare q <;> rfl

theorem same_symm {p q : Path} (h : p.same q = true) : q.same p = true := by
  rw [same, beq_iff_eq] at h ⊢
  exact h.symm

/-- Of two paths in order, which are not the same, one comes before the other. -/
theorem compare_eq_lt {p q : Path} (hle : p.le q = true) (hne : q.same p = false) :
    p.compare q = .lt := by
  rw [le_eq_isLE, Ordering.isLE_iff_eq_lt_or_eq_eq] at hle
  refine hle.resolve_right fun heq => ?_
  rw [same_symm (compare_eq_eq.mp heq)] at hne
  cases hne

end Path

namespace Discovery

variable {α : Type} {path : α → Path} {previous : Path} {xs : List α}

/-! ### Dropping repetitions -/

theorem dropSame_sublist (path : α → Path) (previous : Path) (xs : List α) :
    (dropSame path previous xs).Sublist xs := by
  induction xs generalizing previous with
  | nil => exact .slnil
  | cons x rest ih =>
    rw [dropSame]
    split
    · exact (ih previous).cons x
    · exact (ih (path x)).cons_cons x

/-- What is dropped has the path of the element before, or of one that stays. -/
theorem exists_mem_dropSame (path : α → Path) (previous : Path) {x : α} (hx : x ∈ xs) :
    (path x).same previous = true ∨
      ∃ y ∈ dropSame path previous xs, (path y).same (path x) = true := by
  induction xs generalizing previous with
  | nil => cases hx
  | cons first rest ih =>
    rw [dropSame]
    by_cases hsame : (path first).same previous = true
    · rw [if_pos hsame]
      rcases List.mem_cons.mp hx with rfl | hrest
      · exact .inl hsame
      · exact ih previous hrest
    · rw [if_neg hsame]
      refine .inr ?_
      rcases List.mem_cons.mp hx with rfl | hrest
      · exact ⟨x, List.mem_cons_self, by simp [Path.same]⟩
      · rcases ih (path first) hrest with hfirst | ⟨y, hy, hyx⟩
        · exact ⟨first, List.mem_cons_self, Path.same_symm hfirst⟩
        · exact ⟨y, List.mem_cons_of_mem _ hy, hyx⟩

/-- Nothing that stays has the path of the element before, if the list goes on in order. -/
theorem pairwise_dropSame (hprevious : ∀ x ∈ xs, previous.le (path x) = true)
    (hsorted : xs.Pairwise fun x y => (path x).le (path y) = true) :
    (∀ x ∈ dropSame path previous xs, previous.compare (path x) = .lt) ∧
      (dropSame path previous xs).Pairwise fun x y => (path x).compare (path y) = .lt := by
  induction xs generalizing previous with
  | nil => exact ⟨by simp [dropSame], .nil⟩
  | cons first rest ih =>
    obtain ⟨hfirst, hrest⟩ := List.pairwise_cons.mp hsorted
    obtain ⟨hhead, htail⟩ := List.forall_mem_cons.mp hprevious
    rw [dropSame]
    by_cases hsame : (path first).same previous = true
    · rw [if_pos hsame]
      exact ih htail hrest
    · rw [if_neg hsame]
      obtain ⟨hlater, hpairwise⟩ := ih hfirst hrest
      have hlt := Path.compare_eq_lt hhead (Bool.eq_false_iff.mpr hsame)
      exact ⟨List.forall_mem_cons.mpr ⟨hlt, fun x hx => TransCmp.lt_trans hlt (hlater x hx)⟩,
        List.pairwise_cons.mpr ⟨hlater, hpairwise⟩⟩

/-! ### Sorting -/

theorem mem_of_mem_ascending {x : α} (hx : x ∈ ascending path xs) : x ∈ xs := by
  rw [ascending] at hx
  refine (List.mergeSort_perm xs fun x y => (path x).le (path y)).mem_iff.mp ?_
  generalize xs.mergeSort _ = sorted at hx ⊢
  cases sorted with
  | nil => exact hx
  | cons first rest => exact ((dropSame_sublist path _ rest).cons_cons first).mem hx

/-- Every path is still there. -/
theorem exists_mem_ascending (path : α → Path) {x : α} (hx : x ∈ xs) :
    ∃ y ∈ ascending path xs, (path y).same (path x) = true := by
  rw [ascending]
  replace hx := (List.mergeSort_perm xs fun x y => (path x).le (path y)).mem_iff.mpr hx
  generalize xs.mergeSort _ = sorted at hx ⊢
  cases sorted with
  | nil => cases hx
  | cons first rest =>
    rcases List.mem_cons.mp hx with rfl | hrest
    · exact ⟨x, List.mem_cons_self, by simp [Path.same]⟩
    · rcases exists_mem_dropSame path (path first) hrest with hfirst | ⟨y, hy, hyx⟩
      · exact ⟨first, List.mem_cons_self, Path.same_symm hfirst⟩
      · exact ⟨y, List.mem_cons_of_mem _ hy, hyx⟩

/-- **Ascending order.** Every element comes before all that follow it. -/
theorem pairwise_ascending (path : α → Path) (xs : List α) :
    (ascending path xs).Pairwise fun x y => (path x).compare (path y) = .lt := by
  have htrans : ∀ x y z, (path x).le (path y) = true → (path y).le (path z) = true →
      (path x).le (path z) = true := by
    intro x y z hxy hyz
    rw [Path.le_eq_isLE] at hxy hyz ⊢
    exact TransCmp.isLE_trans hxy hyz
  have htotal : ∀ x y, ((path x).le (path y) || (path y).le (path x)) = true := by
    intro x y
    have hswap : (path x).compare (path y) = ((path y).compare (path x)).swap :=
      OrientedCmp.eq_swap
    rw [Path.le_eq_isLE, Path.le_eq_isLE, hswap]
    cases (path y).compare (path x) <;> rfl
  have hsorted := List.pairwise_mergeSort htrans htotal xs
  rw [ascending]
  generalize xs.mergeSort _ = sorted at hsorted ⊢
  cases sorted with
  | nil => exact .nil
  | cons first rest =>
    obtain ⟨hfirst, hrest⟩ := List.pairwise_cons.mp hsorted
    exact List.pairwise_cons.mpr (pairwise_dropSame hfirst hrest)

/-- Two lists in ascending order that have the same elements are equal. -/
theorem eq_of_ascending (path : α → Path) {ys : List α}
    (hxs : xs.Pairwise fun x y => (path x).compare (path y) = .lt)
    (hys : ys.Pairwise fun x y => (path x).compare (path y) = .lt) (h : ∀ x, x ∈ xs ↔ x ∈ ys) :
    xs = ys := by
  have hirrefl : Std.Irrefl fun x y : α => (path x).compare (path y) = .lt := ⟨fun x hlt => by
    rw [Path.compare_eq_eq.mpr (by simp [Path.same])] at hlt
    cases hlt⟩
  have hantisymm : Std.Antisymm fun x y : α => (path x).compare (path y) = .lt :=
    ⟨fun x y hlt hlt' => absurd (TransCmp.lt_trans hlt hlt') (hirrefl.irrefl x)⟩
  exact hxs.eq_of_mem_iff hys h

end Discovery

end MarkdownPages
