/-!
# Steps that may fail

Steps one after the other end at the first that fails. If none fails, the results stand in the order
of the steps.

## Main results

* `except_bind_eq_ok`, `except_forM_eq_ok` — when all steps succeed
* `mapM_eq_ok` — the results of the members of a list
* `mapM_eq_error_iff`, `foldlM_eq_error_iff` — the first member of a list that fails
-/

namespace MarkdownPages

section Sequences

variable {ε α β : Type}

/-! ### One step after another -/

/-- A sequence succeeds if both parts do. -/
theorem except_bind_eq_ok {first : Except ε α} {next : α → Except ε β} {b : β} :
    (first >>= next) = .ok b ↔ ∃ a, first = .ok a ∧ next a = .ok b := by
  constructor
  · intro h
    cases first with
    | ok a => exact ⟨a, rfl, h⟩
    | error e => cases h
  · rintro ⟨a, rfl, h⟩
    exact h

/-- A sequence whose last part does not fail fails as its first. -/
theorem except_bind_eq_error {first : Except ε α} {next : α → Except ε β} {e : ε}
    (hnext : ∀ a, next a ≠ .error e) : (first >>= next) = .error e ↔ first = .error e := by
  cases first with
  | ok a => exact ⟨fun h => absurd h (hnext a), nofun⟩
  | error e' =>
    exact ⟨fun h => congrArg _ (Except.error.inj h), fun h => congrArg _ (Except.error.inj h)⟩

theorem except_toOption_eq_some {result : Except ε α} {a : α} :
    result.toOption = some a ↔ result = .ok a := by
  cases result with
  | ok b => exact ⟨fun h => congrArg _ (Option.some.inj h), fun h => congrArg _ (Except.ok.inj h)⟩
  | error e => exact ⟨nofun, nofun⟩

theorem except_mapError_eq_ok {ε' : Type} {f : ε → ε'} {result : Except ε α} {a : α} :
    result.mapError f = .ok a ↔ result = .ok a := by
  constructor
  · intro h
    cases result with
    | ok b => exact congrArg _ (Except.ok.inj h)
    | error e => cases h
  · rintro rfl
    rfl

theorem except_mapError_eq_error {ε' : Type} {f : ε → ε'} {result : Except ε α} {e : ε'} :
    result.mapError f = .error e ↔ ∃ cause, result = .error cause ∧ e = f cause := by
  cases result with
  | ok a => exact ⟨nofun, nofun⟩
  | error cause =>
    constructor
    · exact fun h => ⟨cause, rfl, (Except.error.inj h).symm⟩
    · rintro ⟨cause', h, rfl⟩
      obtain rfl := Except.error.inj h
      rfl

theorem except_map_eq_error {f : α → β} {result : Except ε α} {e : ε} :
    result.map f = .error e ↔ result = .error e := by
  cases result with
  | ok a => exact ⟨nofun, nofun⟩
  | error e' =>
    exact ⟨fun h => congrArg _ (Except.error.inj h), fun h => congrArg _ (Except.error.inj h)⟩

theorem except_refuse_eq_ok {c : Prop} [Decidable c] {e : ε} :
    (if c then .error e else .ok () : Except ε Unit) = .ok () ↔ ¬ c := by
  by_cases h : c
  · rw [if_pos h]
    exact ⟨nofun, fun hc => absurd h hc⟩
  · rw [if_neg h]
    exact ⟨fun _ => h, fun _ => rfl⟩

theorem except_when_eq_ok {c : Prop} [Decidable c] {result : Except ε Unit} :
    (if c then result else .ok ()) = .ok () ↔ (c → result = .ok ()) := by
  by_cases h : c
  · rw [if_pos h]
    exact ⟨fun hresult _ => hresult, fun hresult => hresult h⟩
  · rw [if_neg h]
    exact ⟨fun _ hc => absurd hc h, fun _ => rfl⟩

/-! ### The members of a list -/

theorem except_forM_eq_ok {f : α → Except ε Unit} {items : List α} :
    items.forM f = .ok () ↔ ∀ item ∈ items, f item = .ok () := by
  induction items with
  | nil => exact ⟨fun _ => List.forall_mem_nil _, fun _ => rfl⟩
  | cons item rest ih =>
    have hcons : (item :: rest).forM f = f item >>= fun _ => rest.forM f := rfl
    rw [hcons, except_bind_eq_ok, List.forall_mem_cons, ← ih]
    constructor
    · rintro ⟨⟨⟩, hitem, hrest⟩
      exact ⟨hitem, hrest⟩
    · rintro ⟨hitem, hrest⟩
      exact ⟨(), hitem, hrest⟩

theorem mapM_eq_ok {f : α → Except ε β} {xs : List α} {ys : List β} (h : xs.mapM f = .ok ys) :
    (∀ y ∈ ys, ∃ x ∈ xs, f x = .ok y) ∧ ∀ x ∈ xs, ∃ y ∈ ys, f x = .ok y := by
  induction xs generalizing ys with
  | nil =>
    obtain rfl := Except.ok.inj h
    exact ⟨by simp, by simp⟩
  | cons x rest ih =>
    rw [List.mapM_cons] at h
    obtain ⟨y, hx, h⟩ := except_bind_eq_ok.mp h
    obtain ⟨others, hrest, h⟩ := except_bind_eq_ok.mp h
    obtain rfl := Except.ok.inj h
    obtain ⟨hfrom, hinto⟩ := ih hrest
    refine ⟨List.forall_mem_cons.mpr ⟨⟨x, List.mem_cons_self, hx⟩, fun z hz => ?_⟩,
      List.forall_mem_cons.mpr ⟨⟨y, List.mem_cons_self, hx⟩, fun z hz => ?_⟩⟩
    · obtain ⟨w, hw, hz⟩ := hfrom z hz
      exact ⟨w, List.mem_cons_of_mem _ hw, hz⟩
    · obtain ⟨w, hw, hz⟩ := hinto z hz
      exact ⟨w, List.mem_cons_of_mem _ hw, hz⟩

/-- A list fails as its first member that fails. -/
theorem mapM_eq_error_iff {f : α → Except ε β} {e : ε} {xs : List α} :
    xs.mapM f = .error e ↔ ∃ before x after, xs = before ++ x :: after ∧
      (∀ y ∈ before, ∃ b, f y = .ok b) ∧ f x = .error e := by
  induction xs with
  | nil => exact ⟨nofun, by simp⟩
  | cons first rest ih =>
    rw [List.mapM_cons]
    cases hfirst : f first with
    | error e' =>
      constructor
      · intro h
        exact ⟨[], first, rest, rfl, by simp, hfirst.trans (congrArg _ (Except.error.inj h))⟩
      · rintro ⟨before, x, after, heq, hbefore, hx⟩
        cases before with
        | nil =>
          obtain ⟨rfl, -⟩ := List.cons.inj heq
          exact congrArg _ (Except.error.inj (hfirst.symm.trans hx))
        | cons y before =>
          obtain ⟨rfl, -⟩ := List.cons.inj heq
          obtain ⟨b, hb⟩ := hbefore first (List.mem_cons_self ..)
          cases hfirst.symm.trans hb
    | ok b =>
      have hrest : (rest.mapM f >>= fun others => pure (b :: others)) = .error e ↔
          rest.mapM f = .error e := except_bind_eq_error fun _ => nofun
      refine hrest.trans (ih.trans ?_)
      constructor
      · rintro ⟨before, x, after, rfl, hbefore, hx⟩
        exact ⟨first :: before, x, after, rfl,
          List.forall_mem_cons.mpr ⟨⟨b, hfirst⟩, hbefore⟩, hx⟩
      · rintro ⟨before, x, after, heq, hbefore, hx⟩
        cases before with
        | nil =>
          obtain ⟨rfl, -⟩ := List.cons.inj heq
          cases hfirst.symm.trans hx
        | cons y before =>
          obtain ⟨rfl, rfl⟩ := List.cons.inj heq
          exact ⟨before, x, after, rfl, fun z hz => hbefore z (List.mem_cons_of_mem _ hz), hx⟩

/-- What no member of a list fails for, the whole list does not fail for. -/
theorem mapM_ne_error {f : α → Except ε β} {e : ε} {xs : List α} (h : ∀ x ∈ xs, f x ≠ .error e) :
    xs.mapM f ≠ .error e := by
  intro herror
  obtain ⟨before, x, after, rfl, -, hx⟩ := mapM_eq_error_iff.mp herror
  exact h x (List.mem_append_right _ (List.mem_cons_self ..)) hx

/-- A run of steps fails as its first step that fails. -/
theorem foldlM_eq_error_iff {f : β → α → Except ε β} {e : ε} {xs : List α} {b : β} :
    xs.foldlM f b = .error e ↔ ∃ before x after, xs = before ++ x :: after ∧
      ∃ reached, before.foldlM f b = .ok reached ∧ f reached x = .error e := by
  induction xs generalizing b with
  | nil => exact ⟨nofun, by simp⟩
  | cons first rest ih =>
    rw [List.foldlM_cons]
    constructor
    · intro h
      cases hfirst : f b first with
      | error e' =>
        rw [hfirst] at h
        exact ⟨[], first, rest, rfl, b, rfl, hfirst.trans (congrArg _ (Except.error.inj h))⟩
      | ok next =>
        rw [hfirst] at h
        obtain ⟨before, x, after, rfl, reached, hbefore, hx⟩ := ih.mp h
        refine ⟨first :: before, x, after, rfl, reached, ?_, hx⟩
        rw [List.foldlM_cons, hfirst]
        exact hbefore
    · rintro ⟨before, x, after, heq, reached, hbefore, hx⟩
      cases before with
      | nil =>
        obtain ⟨rfl, -⟩ := List.cons.inj heq
        obtain rfl := Except.ok.inj hbefore
        rw [hx]
        rfl
      | cons y before =>
        obtain ⟨rfl, rfl⟩ := List.cons.inj heq
        rw [List.foldlM_cons] at hbefore
        obtain ⟨next, hnext, hbefore⟩ := except_bind_eq_ok.mp hbefore
        rw [hnext]
        exact ih.mpr ⟨before, x, after, rfl, reached, hbefore, hx⟩

theorem mapM_congr {f g : α → Except ε β} {xs : List α} (h : ∀ x ∈ xs, f x = g x) :
    xs.mapM f = xs.mapM g := by
  induction xs with
  | nil => rfl
  | cons x rest ih =>
    obtain ⟨hx, hrest⟩ := List.forall_mem_cons.mp h
    rw [List.mapM_cons, List.mapM_cons, hx, ih hrest]

end Sequences

end MarkdownPages
