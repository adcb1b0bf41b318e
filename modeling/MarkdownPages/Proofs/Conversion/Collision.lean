import MarkdownPages.Proofs.Conversion.Clash
import MarkdownPages.Proofs.Conversion.Intact
import MarkdownPages.Proofs.Conversion.Planning

/-!
# Collisions that are told of

The pages of a plan are compared in ascending order of the paths of their documents, each with those
before it. So of two documents in each other's way, the one with the smaller path is told of first.
No other part of a conversion finds a collision.

## Main definitions

* `ConversionError.collision?` — the two documents of a collision

## Main results

* `Conversion.checkCollisions_of_collision` — where a collision comes from
* `Conversion.lt_of_collision` — in which order the documents are told of
-/

namespace MarkdownPages

/-- The two documents of a collision, in the order in which they are told of. -/
def ConversionError.collision? : ConversionError → Option (Path × Path)
  | .outputCollision first second _ | .functionCollision first second _ => some (first, second)
  | _ => none

variable {error : ConversionError} {first second : Path}

/-! ### The check -/

/-- What is told of a page is that an earlier one collides with it. -/
theorem Clash.collision?_eq {earlier : List PlannedPage} {page : PlannedPage}
    (h : Clash earlier page error) :
    ∃ other ∈ earlier, error.collision? = some (other.path, page.path) := by
  cases h with
  | output other only => exact ⟨other, only.mem, rfl⟩
  | function other free only => exact ⟨other, only.mem, rfl⟩

/-- Pages in ascending order collide in ascending order. -/
private theorem lt_of_checkCollisions {pages : List PlannedPage}
    (hascending : pages.Pairwise fun page later => page.path.compare later.path = .lt)
    (h : checkCollisions pages = .error error)
    (hcollision : error.collision? = some (first, second)) : first.compare second = .lt := by
  obtain ⟨earlier, page, later, rfl, -, hclash⟩ := checkCollisions_eq_error_iff.mp h
  obtain ⟨other, hother, hpaths⟩ := hclash.collision?_eq
  obtain ⟨rfl, rfl⟩ := Prod.mk.inj (Option.some.inj (hpaths.symm.trans hcollision))
  exact (List.pairwise_append.mp hascending).2.2 other hother page List.mem_cons_self

/-! ### The other parts of a conversion -/

namespace Conversion

variable (c : Conversion) {g : Grammar}

private theorem avoids_attempt {α : Type} {reason : Fault → ConversionError}
    (h : ∀ fault, reason fault ≠ error) (action : FileAction α) :
    Avoids error (attempt reason action) := fun fs => by
  rw [outcome_attempt]
  cases outcome action fs with
  | mk result after =>
    cases result with
    | ok a => simp
    | error fault => exact fun heq => h fault (Except.error.inj heq)

private theorem avoids_conversionAsk {α : Type} {question : FileSystem → Except ConversionError α}
    (h : ∀ fs, question fs ≠ .error error) : Avoids error (ask question) := fun fs => by
  rw [outcome_conversionAsk]
  exact h fs

section Collision

variable (hcollision : error.collision? = some (first, second))

include hcollision

private theorem plan_ne_error (fs : FileSystem) (roots : Roots) (basePackage : String)
    (inputs : List Path) : plan fs roots basePackage inputs ≠ .error error := by
  have hinput : ∀ input reason, ConversionError.input input reason ≠ error := by
    rintro input reason rfl
    cases hcollision
  have hpage : ∀ input, planPage fs roots basePackage input ≠ .error error := by
    intro input
    rw [planPage]
    split
    · exact fun heq => hinput _ _ (Except.error.inj heq)
    · split
      · exact fun heq => hinput _ _ (Except.error.inj heq)
      · simp
  rw [plan]
  cases hresult : inputs.mapM (planPage fs roots basePackage) with
  | error reason =>
    exact fun heq => mapM_ne_error (fun input _ => hpage input)
      (hresult.trans (congrArg _ (Except.error.inj heq)))
  | ok pages => simp [Except.map]

private theorem readAll_ne_error (fs : FileSystem) (cache : Cache) (pages : List PlannedPage) :
    readAll fs cache pages ≠ .error error := by
  induction pages generalizing cache with
  | nil => simp [readAll]
  | cons page rest ih =>
    rw [readAll]
    split
    · intro heq
      obtain rfl := Except.error.inj heq
      cases hcollision
    · rename_i document after _
      cases hrest : readAll fs after rest with
      | error reason => exact fun heq => ih after (hrest.trans (congrArg _ (Except.error.inj heq)))
      | ok others => simp

private theorem prepareOutput_avoids (roots : Roots) : Avoids error (c.prepareOutput roots) := by
  have hrefused : ∀ fault, ConversionError.outputDirectory c.outputDirectory fault ≠ error := by
    rintro fault rfl
    cases hcollision
  intro fs
  rcases c.outcome_prepareOutput roots fs with ⟨fault, hfault⟩ | ⟨output, -, -, hrenew⟩
  · rw [hfault]
    exact fun heq => hrefused fault (Except.error.inj heq)
  · rw [hrenew]
    exact avoids_attempt hrefused _ fs

private theorem writeAll_avoids (cache : Cache) (summary : Summary)
    (trees : List (PlannedPage × Node)) : Avoids error (c.writeAll cache summary trees) := by
  intro fs heq
  have hfailed : outcome (c.writeAll cache summary trees) fs =
      (.error error, (outcome (c.writeAll cache summary trees) fs).2) := Prod.ext heq rfl
  have hlate := c.writeAll_isEarly hfailed
  cases error <;> cases hcollision <;> cases hlate

/-- **Where collisions come from.** They are found among the pages of the plan. -/
theorem checkCollisions_of_collision {roots : Roots} {inputs : List Path} {fs : FileSystem}
    (h : (outcome (c.convert g roots inputs) fs).1 = .error error) :
    ∃ pages, plan fs roots c.pagesPackage inputs = .ok pages ∧
      checkCollisions pages = .error error := by
  rw [convert, outcome_bind, outcome_conversionAsk] at h
  cases hpages : plan fs roots c.pagesPackage inputs with
  | error reason =>
    rw [hpages] at h
    exact absurd (hpages.trans (congrArg _ (Except.error.inj h)))
      (plan_ne_error hcollision _ _ _ _)
  | ok pages =>
    rw [hpages] at h
    dsimp only at h
    rw [outcome_bind, outcome_conversionAsk] at h
    cases hapart : checkCollisions pages with
    | error reason =>
      rw [hapart] at h
      exact ⟨pages, rfl, hapart.trans (congrArg _ (Except.error.inj h))⟩
    | ok _ =>
      rw [hapart] at h
      refine absurd h (avoids_bind (avoids_conversionAsk fun fs => ?_) (fun result => ?_) fs)
      · exact readAll_ne_error hcollision _ _ _
      · exact avoids_bind (c.prepareOutput_avoids hcollision roots) fun _ =>
          c.writeAll_avoids hcollision _ _ _

/-- **Collisions.** Of two documents in each other's way, the one with the smaller path is told of
first. -/
theorem lt_of_collision {fs after : FileSystem} (hfs : fs.isProper = true) {files : List Path}
    (h : outcome (c.runFiles g files) fs = (.error error, after)) : first.compare second = .lt := by
  rw [runFiles] at h
  rcases c.outcome_rootSet fs with ⟨reason, hreason⟩ | ⟨roots, hok, -⟩
  · rw [outcome_bind_of_error hreason] at h
    obtain rfl := Except.error.inj (Prod.mk.inj h).1
    cases hcollision
  · rw [outcome_bind_of_ok hok] at h
    obtain ⟨pages, hpages, hapart⟩ :=
      c.checkCollisions_of_collision hcollision (congrArg Prod.fst h)
    have hplanned := planned_of_plan ((c.grows_opened hfs).proper hfs) hpages
    exact lt_of_checkCollisions hplanned.ascending hapart hcollision

end Collision

end Conversion

end MarkdownPages
