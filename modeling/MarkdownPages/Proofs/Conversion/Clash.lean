import MarkdownPages.Conversion.Plan
import MarkdownPages.Proofs.Sources.Ascending

/-!
# Which pages clash

Two pages clash if they go to one file or declare one function. Pages are looked at one after the
other, each beside those before it, and the first one that clashes with an earlier one is refused.
Until then the pages are apart, so there is one earlier page at most with which it can share its
file, and one at most with which it can share its function.

## Main definitions

* `PlannedPage.Apart` — pages that do not clash
* `IsOnly` — the one member of a list of which something holds
* `Clash` — what is told of a page that clashes with one before it

## Main results

* `checkFrom_eq_ok_iff`, `checkFrom_eq_error_iff` — what the check of some pages finds behind pages
  that are apart
* `checkCollisions_iff` — which pages are accepted, and what is told of the others
-/

namespace MarkdownPages

/-! ### Pages that are apart -/

/-- Two pages that go to different files and declare different functions. -/
def PlannedPage.Apart (page other : PlannedPage) : Prop :=
  page.sharesOutput other = false ∧ page.sharesFunction other = false

namespace PlannedPage

variable {page other third : PlannedPage}

theorem sharesOutput_symm (h : page.sharesOutput other = true) :
    other.sharesOutput page = true :=
  Path.same_symm h

/-- Pages that go to the file of a third one go to one file. -/
theorem sharesOutput_of_common (h : third.sharesOutput page = true)
    (h' : third.sharesOutput other = true) : page.sharesOutput other = true := by
  rw [sharesOutput, Path.same, beq_iff_eq] at h h' ⊢
  exact h.symm.trans h'

theorem sharesFunction_iff : page.sharesFunction other = true ↔
    (page.placement.package, page.placement.functionName) =
      (other.placement.package, other.placement.functionName) := by
  simp [sharesFunction]

theorem sharesFunction_symm (h : page.sharesFunction other = true) :
    other.sharesFunction page = true :=
  sharesFunction_iff.mpr (sharesFunction_iff.mp h).symm

/-- Pages that declare the function of a third one declare one function. -/
theorem sharesFunction_of_common (h : third.sharesFunction page = true)
    (h' : third.sharesFunction other = true) : page.sharesFunction other = true :=
  sharesFunction_iff.mpr ((sharesFunction_iff.mp h).symm.trans (sharesFunction_iff.mp h'))

theorem Apart.symm (h : page.Apart other) : other.Apart page :=
  ⟨Bool.eq_false_iff.mpr fun hshares => Bool.eq_false_iff.mp h.1 (sharesOutput_symm hshares),
    Bool.eq_false_iff.mpr fun hshares => Bool.eq_false_iff.mp h.2 (sharesFunction_symm hshares)⟩

end PlannedPage

open PlannedPage

/-- Pages are apart if their files are different and their functions are. -/
theorem pairwise_apart_iff {pages : List PlannedPage} : pages.Pairwise Apart ↔
    (pages.map fun page => page.placement.output).Pairwise
        (fun output later => output.same later = false) ∧
      (pages.map fun page => (page.placement.package, page.placement.functionName)).Nodup := by
  rw [List.Nodup, List.pairwise_map, List.pairwise_map, ← List.pairwise_and_iff]
  refine List.Pairwise.iff fun page other => and_congr_right fun _ => ?_
  rw [Bool.eq_false_iff, ne_eq, ne_eq, sharesFunction_iff]

/-! ### The only one -/

/-- One place in the list holds `x`, for which `p` holds; it does not hold at the other places. -/
def IsOnly {α : Type} (p : α → Bool) (x : α) (xs : List α) : Prop :=
  ∃ before after, xs = before ++ x :: after ∧ p x = true ∧ ∀ y ∈ before ++ after, p y = false

theorem IsOnly.mem {α : Type} {p : α → Bool} {x : α} {xs : List α} (h : IsOnly p x xs) :
    x ∈ xs := by
  obtain ⟨before, after, rfl, -⟩ := h
  simp

/-- A search finds the only one, if there cannot be two. -/
theorem find?_eq_some_iff_isOnly {α : Type} {p : α → Bool} {x : α} {xs : List α}
    (h : xs.Pairwise fun y later => ¬ (p y = true ∧ p later = true)) :
    xs.find? p = some x ↔ IsOnly p x xs := by
  rw [List.find?_eq_some_iff_append]
  constructor
  · rintro ⟨hx, before, after, rfl, hbefore⟩
    refine ⟨before, after, rfl, hx, List.forall_mem_append.mpr ⟨fun y hy => ?_, fun y hy => ?_⟩⟩
    · simpa using hbefore y hy
    · have hlater := (List.pairwise_cons.mp (List.pairwise_append.mp h).2.1).1 y hy
      exact Bool.eq_false_iff.mpr fun hy => hlater ⟨hx, hy⟩
  · rintro ⟨before, after, rfl, hx, hothers⟩
    refine ⟨hx, before, after, rfl, fun y hy => ?_⟩
    simp [hothers y (List.mem_append_left _ hy)]

/-! ### One page beside the earlier ones -/

/-- What is told of a page that clashes with an earlier one: the only one that goes to its file or,
if there is none, the only one that declares its function. -/
inductive Clash (earlier : List PlannedPage) (page : PlannedPage) : ConversionError → Prop
  | output (first : PlannedPage) (only : IsOnly page.sharesOutput first earlier) :
      Clash earlier page (.outputCollision first.path page.path page.placement.output)
  | function (first : PlannedPage) (free : ∀ other ∈ earlier, page.sharesOutput other = false)
      (only : IsOnly page.sharesFunction first earlier) :
      Clash earlier page (.functionCollision first.path page.path page.function)

variable {earlier pages : List PlannedPage} {page : PlannedPage} {error : ConversionError}

theorem checkPage_eq_ok_iff :
    checkPage earlier page = .ok () ↔ ∀ first ∈ earlier, page.Apart first := by
  have hnone : (∀ first ∈ earlier, page.Apart first) ↔
      earlier.find? page.sharesOutput = none ∧ earlier.find? page.sharesFunction = none := by
    simp only [List.find?_eq_none, Bool.not_eq_true, Apart, forall_and]
  rw [hnone, checkPage]
  cases earlier.find? page.sharesOutput with
  | some first => simp
  | none =>
    cases earlier.find? page.sharesFunction with
    | some first => simp
    | none => simp

/-- A page is refused for the only earlier page with which it clashes. -/
theorem checkPage_eq_error_iff (h : earlier.Pairwise Apart) :
    checkPage earlier page = .error error ↔ Clash earlier page error := by
  have houtput : ∀ first, earlier.find? page.sharesOutput = some first ↔
      IsOnly page.sharesOutput first earlier := fun first =>
    find?_eq_some_iff_isOnly <| h.imp fun hapart ⟨hfirst, hlater⟩ =>
      Bool.eq_false_iff.mp hapart.1 (sharesOutput_of_common hfirst hlater)
  have hfunction : ∀ first, earlier.find? page.sharesFunction = some first ↔
      IsOnly page.sharesFunction first earlier := fun first =>
    find?_eq_some_iff_isOnly <| h.imp fun hapart ⟨hfirst, hlater⟩ =>
      Bool.eq_false_iff.mp hapart.2 (sharesFunction_of_common hfirst hlater)
  have hfree : earlier.find? page.sharesOutput = none ↔
      ∀ other ∈ earlier, page.sharesOutput other = false := by
    simp only [List.find?_eq_none, Bool.not_eq_true]
  rw [checkPage]
  constructor
  · intro heq
    cases hfile : earlier.find? page.sharesOutput with
    | some first =>
      rw [hfile] at heq
      obtain rfl := Except.error.inj heq
      exact .output first ((houtput first).mp hfile)
    | none =>
      rw [hfile] at heq
      dsimp only at heq
      cases hname : earlier.find? page.sharesFunction with
      | some first =>
        rw [hname] at heq
        obtain rfl := Except.error.inj heq
        exact .function first (hfree.mp hfile) ((hfunction first).mp hname)
      | none =>
        rw [hname] at heq
        cases heq
  · rintro (⟨first, honly⟩ | ⟨first, hother, honly⟩)
    · rw [(houtput first).mpr honly]
    · rw [hfree.mpr hother, (hfunction first).mpr honly]

/-! ### One page after the other -/

theorem checkFrom_cons_of_ok (h : checkPage earlier page = .ok ()) :
    checkFrom earlier (page :: pages) = checkFrom (earlier ++ [page]) pages := by
  rw [checkFrom, h]
  rfl

theorem checkFrom_cons_of_error (h : checkPage earlier page = .error error) :
    checkFrom earlier (page :: pages) = .error error := by
  rw [checkFrom, h]
  rfl

/-- A list of pages that are apart goes on with a page that is apart from them. -/
private theorem pairwise_apart_concat : (earlier ++ [page]).Pairwise Apart ↔
    earlier.Pairwise Apart ∧ ∀ first ∈ earlier, page.Apart first := by
  rw [List.pairwise_append]
  constructor
  · rintro ⟨hearlier, -, hpage⟩
    exact ⟨hearlier, fun first hfirst => (hpage first hfirst page (by simp)).symm⟩
  · rintro ⟨hearlier, hpage⟩
    refine ⟨hearlier, by simp, fun first hfirst other hother => ?_⟩
    rw [List.mem_singleton.mp hother]
    exact (hpage first hfirst).symm

/-- Behind pages that are apart, no page is refused if they all are apart together. -/
theorem checkFrom_eq_ok_iff (h : earlier.Pairwise Apart) :
    checkFrom earlier pages = .ok () ↔ (earlier ++ pages).Pairwise Apart := by
  induction pages generalizing earlier with
  | nil => simpa [checkFrom] using h
  | cons page rest ih =>
    cases hpage : checkPage earlier page with
    | ok _ =>
      have happend := pairwise_apart_concat.mpr ⟨h, checkPage_eq_ok_iff.mp hpage⟩
      rw [checkFrom_cons_of_ok hpage, ih happend, List.append_assoc, List.singleton_append]
    | error error =>
      rw [checkFrom_cons_of_error hpage]
      refine ⟨(nomatch ·), fun hpairwise => ?_⟩
      rw [List.append_cons] at hpairwise
      have hapart := (pairwise_apart_concat.mp (List.pairwise_append.mp hpairwise).1).2
      rw [checkPage_eq_ok_iff.mpr hapart] at hpage
      cases hpage

/-- Behind pages that are apart, the first page that clashes with one before it is refused. -/
theorem checkFrom_eq_error_iff (h : earlier.Pairwise Apart) :
    checkFrom earlier pages = .error error ↔ ∃ before page after,
      pages = before ++ page :: after ∧ (earlier ++ before).Pairwise Apart ∧
        Clash (earlier ++ before) page error := by
  constructor
  · intro heq
    induction pages generalizing earlier with
    | nil => cases heq
    | cons page rest ih =>
      cases hpage : checkPage earlier page with
      | ok _ =>
        have happend := pairwise_apart_concat.mpr ⟨h, checkPage_eq_ok_iff.mp hpage⟩
        rw [checkFrom_cons_of_ok hpage] at heq
        obtain ⟨before, found, after, rfl, hbefore, hclash⟩ := ih happend heq
        rw [List.append_assoc, List.singleton_append] at hbefore hclash
        exact ⟨page :: before, found, after, rfl, hbefore, hclash⟩
      | error reason =>
        rw [checkFrom_cons_of_error hpage] at heq
        obtain rfl := Except.error.inj heq
        exact ⟨[], page, rest, rfl, by simpa using h,
          by simpa using (checkPage_eq_error_iff h).mp hpage⟩
  · rintro ⟨before, page, after, rfl, hbefore, hclash⟩
    induction before generalizing earlier with
    | nil =>
      rw [List.append_nil] at hclash
      exact checkFrom_cons_of_error ((checkPage_eq_error_iff h).mpr hclash)
    | cons first before ih =>
      rw [List.append_cons] at hbefore hclash
      have hfirst := (List.pairwise_append.mp hbefore).1
      have hpage := checkPage_eq_ok_iff.mpr (pairwise_apart_concat.mp hfirst).2
      rw [List.cons_append, checkFrom_cons_of_ok hpage]
      exact ih hfirst hbefore hclash

theorem checkCollisions_eq_ok_iff : checkCollisions pages = .ok () ↔ pages.Pairwise Apart := by
  rw [checkCollisions, checkFrom_eq_ok_iff .nil, List.nil_append]

theorem checkCollisions_eq_error_iff : checkCollisions pages = .error error ↔
    ∃ earlier page later, pages = earlier ++ page :: later ∧ earlier.Pairwise Apart ∧
      Clash earlier page error :=
  checkFrom_eq_error_iff .nil

/-- **Collisions.** Pages are accepted if and only if their files are pairwise different and their
functions are. Of other pages the first one is refused that clashes with one before it, where the
pages before it are apart; what is told of it is the only earlier page that goes to its file and,
if there is none, the only one that declares its function. -/
theorem checkCollisions_iff (pages : List PlannedPage) :
    (checkCollisions pages = .ok () ↔
      (pages.map fun page => page.placement.output).Pairwise
          (fun output later => output.same later = false) ∧
        (pages.map fun page => (page.placement.package, page.placement.functionName)).Nodup) ∧
    ∀ error, checkCollisions pages = .error error ↔ ∃ earlier page later,
      pages = earlier ++ page :: later ∧ earlier.Pairwise Apart ∧ Clash earlier page error :=
  ⟨checkCollisions_eq_ok_iff.trans pairwise_apart_iff, fun _ => checkCollisions_eq_error_iff⟩

end MarkdownPages
