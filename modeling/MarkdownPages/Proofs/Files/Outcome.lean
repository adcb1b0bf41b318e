import MarkdownPages.Files.Change

/-!
# What an action leaves behind

An action that may fail has a result and a file system after it, whether it fails or not. What is
done before a failure is not undone: the file system after a sequence is the one after the action
that failed.

## Main definitions

* `outcome` — the result of an action, and the file system after it
* `Avoids` — an action never fails for a given reason

## Main results

* `outcome_bind`, `outcome_tryCatch` — sequences and failures that are caught
* `outcome_bind_eq_ok` — sequences that succeed
-/

namespace MarkdownPages

instance decidableEqExcept {ε α : Type} [DecidableEq ε] [DecidableEq α] :
    DecidableEq (Except ε α)
  | .ok a, .ok b => decidable_of_iff (a = b) ⟨congrArg _, Except.ok.inj⟩
  | .error e, .error f => decidable_of_iff (e = f) ⟨congrArg _, Except.error.inj⟩
  | .ok _, .error _ => .isFalse nofun
  | .error _, .ok _ => .isFalse nofun

variable {ε α β : Type}

/-- The result of an action, and the file system after it. -/
def outcome (action : ExceptT ε (StateM FileSystem) α) (fs : FileSystem) :
    Except ε α × FileSystem := action.run.run fs

@[simp] theorem outcome_pure (a : α) (fs : FileSystem) :
    outcome (pure a : ExceptT ε (StateM FileSystem) α) fs = (.ok a, fs) := rfl

@[simp] theorem outcome_throw (e : ε) (fs : FileSystem) :
    outcome (throw e : ExceptT ε (StateM FileSystem) α) fs = (.error e, fs) := rfl

@[simp] theorem outcome_get (fs : FileSystem) :
    outcome (get : ExceptT ε (StateM FileSystem) FileSystem) fs = (.ok fs, fs) := rfl

@[simp] theorem outcome_modify (change : FileSystem → FileSystem) (fs : FileSystem) :
    outcome (modify change : ExceptT ε (StateM FileSystem) PUnit) fs = (.ok ⟨⟩, change fs) := rfl

/-- A sequence goes on where the first action succeeds. -/
theorem outcome_bind (first : ExceptT ε (StateM FileSystem) α)
    (next : α → ExceptT ε (StateM FileSystem) β) (fs : FileSystem) :
    outcome (first >>= next) fs =
      match outcome first fs with
      | (.ok a, after) => outcome (next a) after
      | (.error e, after) => (.error e, after) := by
  change (match first.run.run fs with
    | (result, after) => (ExceptT.bindCont next result).run after) = _
  rw [outcome]
  obtain ⟨result, after⟩ := first.run.run fs
  cases result <;> rfl

/-- A failure that is caught is handled in the file system that it left behind. -/
theorem outcome_tryCatch (first : ExceptT ε (StateM FileSystem) α)
    (handle : ε → ExceptT ε (StateM FileSystem) α) (fs : FileSystem) :
    outcome (tryCatch first handle) fs =
      match outcome first fs with
      | (.ok a, after) => (.ok a, after)
      | (.error e, after) => outcome (handle e) after := by
  change (match first.run.run fs with
    | (result, after) => (match result with
        | .ok a => (pure (.ok a) : StateM FileSystem (Except ε α))
        | .error e => (handle e).run).run after) = _
  rw [outcome]
  obtain ⟨result, after⟩ := first.run.run fs
  cases result <;> rfl

theorem outcome_bind_of_ok {first : ExceptT ε (StateM FileSystem) α} {fs after : FileSystem}
    {a : α} (h : outcome first fs = (.ok a, after)) (next : α → ExceptT ε (StateM FileSystem) β) :
    outcome (first >>= next) fs = outcome (next a) after := by
  rw [outcome_bind, h]

theorem outcome_bind_of_error {first : ExceptT ε (StateM FileSystem) α} {fs after : FileSystem}
    {e : ε} (h : outcome first fs = (.error e, after))
    (next : α → ExceptT ε (StateM FileSystem) β) :
    outcome (first >>= next) fs = (.error e, after) := by
  rw [outcome_bind, h]

/-- A sequence succeeds where both actions do, one after the other. -/
theorem outcome_bind_eq_ok {first : ExceptT ε (StateM FileSystem) α}
    {next : α → ExceptT ε (StateM FileSystem) β} {fs after : FileSystem} {b : β} :
    outcome (first >>= next) fs = (.ok b, after) ↔
      ∃ a middle, outcome first fs = (.ok a, middle) ∧
        outcome (next a) middle = (.ok b, after) := by
  rw [outcome_bind]
  cases hfirst : outcome first fs with
  | mk result middle =>
    cases result with
    | ok a =>
      refine ⟨fun h => ⟨a, middle, rfl, h⟩, ?_⟩
      rintro ⟨a', middle', heq, h⟩
      cases heq
      exact h
    | error e =>
      refine ⟨(by cases ·), ?_⟩
      rintro ⟨a', middle', heq, -⟩
      cases heq

@[simp] theorem outcome_ask (question : FileSystem → Except Fault α) (fs : FileSystem) :
    outcome (FileAction.ask question) fs = (question fs, fs) := by
  rw [FileAction.ask, outcome_bind, outcome_get]
  dsimp only
  cases question fs <;> rfl

/-! ### Failures that do not occur -/

/-- The action never fails for the given reason. -/
def Avoids (e : ε) (action : ExceptT ε (StateM FileSystem) α) : Prop :=
  ∀ fs, (outcome action fs).1 ≠ .error e

variable {e : ε}

theorem avoids_pure (a : α) : Avoids e (pure a : ExceptT ε (StateM FileSystem) α) := fun fs => by
  simp

theorem avoids_throw {e' : ε} (h : e' ≠ e) :
    Avoids e (throw e' : ExceptT ε (StateM FileSystem) α) := fun fs => by
  rw [outcome_throw]
  exact fun heq => h (Except.error.inj heq)

theorem avoids_get : Avoids e (get : ExceptT ε (StateM FileSystem) FileSystem) := fun fs => by
  simp

theorem avoids_modify (change : FileSystem → FileSystem) :
    Avoids e (modify change : ExceptT ε (StateM FileSystem) PUnit) := fun fs => by simp

theorem avoids_bind {first : ExceptT ε (StateM FileSystem) α}
    {next : α → ExceptT ε (StateM FileSystem) β} (h : Avoids e first)
    (hnext : ∀ a, Avoids e (next a)) : Avoids e (first >>= next) := fun fs => by
  have hfirst := h fs
  rw [outcome_bind]
  cases hresult : outcome first fs with
  | mk result after =>
    rw [hresult] at hfirst
    cases result with
    | ok a => exact hnext a after
    | error e' => exact fun heq => hfirst (congrArg _ (Except.error.inj heq))

theorem avoids_tryCatch {first : ExceptT ε (StateM FileSystem) α}
    {handle : ε → ExceptT ε (StateM FileSystem) α} (h : Avoids e first)
    (hhandle : ∀ e', e' ≠ e → Avoids e (handle e')) :
    Avoids e (tryCatch first handle) := fun fs => by
  have hfirst := h fs
  rw [outcome_tryCatch]
  cases hresult : outcome first fs with
  | mk result after =>
    rw [hresult] at hfirst
    cases result with
    | ok a => simp
    | error e' => exact hhandle e' (fun heq => hfirst (congrArg _ heq)) after

theorem avoids_ask {e : Fault} {question : FileSystem → Except Fault α}
    (h : ∀ fs, question fs ≠ .error e) : Avoids e (FileAction.ask question) := fun fs => by
  rw [outcome_ask]
  exact h fs

end MarkdownPages
