import MarkdownPages.Conversion.Run
import MarkdownPages.Proofs.Files.Renewing
import MarkdownPages.Proofs.Files.Storing

/-!
# The phases of a conversion

A conversion has three phases. First the directory for generated documents is made. Then everything
that can be wrong with the roots, the inputs and the output directory is looked for, and no file
changes. At last the output directory is renewed and the pages are written.

## Main definitions

* `Conversion.perform` — a conversion of all documents or of some
* `Conversion.opened` — the file system after the first phase
* `Conversion.Checked` — what the second phase has found out if nothing is wrong
* `Conversion.rebuild` — the third phase

## Main results

* `Conversion.outcome_perform` — a conversion is given up before the third phase, or its outcome is
  that of the third phase
-/

namespace MarkdownPages

open FileAction

/-! ### Parts of a conversion -/

theorem outcome_attempt {α : Type} (reason : Fault → ConversionError) (action : FileAction α)
    (fs : FileSystem) : outcome (Conversion.attempt reason action) fs =
      match outcome action fs with
      | (.ok a, after) => (.ok a, after)
      | (.error fault, after) => (.error (reason fault), after) := by
  have hrun : outcome (liftM (action.run : StateM FileSystem (Except Fault α)) :
      ConversionAction (Except Fault α)) fs =
        (.ok (outcome action fs).1, (outcome action fs).2) := rfl
  rw [Conversion.attempt, outcome_bind_of_ok hrun]
  obtain ⟨result, after⟩ := outcome action fs
  cases result <;> rfl

theorem outcome_attempt_eq_ok {α : Type} {reason : Fault → ConversionError}
    {action : FileAction α} {fs after : FileSystem} {a : α} :
    outcome (Conversion.attempt reason action) fs = (.ok a, after) ↔
      outcome action fs = (.ok a, after) := by
  rw [outcome_attempt]
  obtain ⟨result, middle⟩ := outcome action fs
  cases result <;> simp

theorem outcome_conversionAsk {α : Type}
    (question : FileSystem → Except ConversionError α) (fs : FileSystem) :
    outcome (Conversion.ask question) fs = (question fs, fs) := by
  rw [Conversion.ask, outcome_bind, outcome_get]
  dsimp only
  cases question fs <;> rfl

namespace Conversion

variable (c : Conversion) (g : Grammar)

/-! ### The first phase -/

/-- A conversion of all documents, or of some files. -/
def perform : Option (List Path) → ConversionAction Summary
  | none => c.run g
  | some files => c.runFiles g files

/-- What a conversion starts from: the files that are asked for, or all that are discovered. -/
def inputs (fs : FileSystem) (roots : Roots) : Option (List Path) → List Path
  | none => (discover fs roots c.exclude).map SourceFile.path
  | some files => files

/-- The file system once the directory for generated documents is made. -/
def opened (fs : FileSystem) : FileSystem :=
  match c.generatedDirectory with
  | none => fs
  | some directory => (outcome (makeDirectories directory) fs).2

/-- The paths of all roots, that of generated documents last. -/
def rootPaths : List Path := c.roots ++ c.generatedDirectory.toList

/-- If the directory for generated documents can be made, the roots are looked for. -/
theorem outcome_rootSet_of_made {fs : FileSystem}
    (h : ∀ directory ∈ c.generatedDirectory, (outcome (makeDirectories directory) fs).1 = .ok ()) :
    outcome c.rootSet fs =
      ((Roots.ofPaths (c.opened fs) c.rootPaths).mapError .roots, c.opened fs) := by
  have hask := outcome_conversionAsk
    (fun fs => (Roots.ofPaths fs c.rootPaths).mapError ConversionError.roots) (c.opened fs)
  rw [← hask, rootSet, opened, rootPaths]
  cases hgenerated : c.generatedDirectory with
  | none => rfl
  | some directory =>
    dsimp only
    have hmade := h directory hgenerated
    rw [outcome_bind, outcome_attempt]
    cases hresult : outcome (makeDirectories directory) fs with
    | mk result after =>
      rw [hresult] at hmade
      cases result with
      | error fault => cases hmade
      | ok _ => rfl

theorem outcome_rootSet (fs : FileSystem) :
    (∃ error, outcome c.rootSet fs = (.error (.roots error), c.opened fs)) ∨
      ∃ roots, outcome c.rootSet fs = (.ok roots, c.opened fs) ∧
        Roots.ofPaths (c.opened fs) c.rootPaths = .ok roots := by
  by_cases hmade : ∀ directory ∈ c.generatedDirectory,
      (outcome (makeDirectories directory) fs).1 = .ok ()
  · rw [c.outcome_rootSet_of_made hmade]
    cases Roots.ofPaths (c.opened fs) c.rootPaths with
    | error error => exact .inl ⟨_, rfl⟩
    | ok roots => exact .inr ⟨roots, rfl, rfl⟩
  · obtain ⟨directory, hdirectory⟩ := Classical.not_forall.mp hmade
    obtain ⟨hgenerated, hfailed⟩ := Classical.not_imp.mp hdirectory
    rw [Option.mem_def] at hgenerated
    rw [rootSet, opened, hgenerated]
    dsimp only
    rw [outcome_bind, outcome_attempt]
    cases hresult : outcome (makeDirectories directory) fs with
    | mk result after =>
      rw [hresult] at hfailed
      cases result with
      | error fault => exact .inl ⟨_, rfl⟩
      | ok _ => exact absurd rfl hfailed

/-- The directory for generated documents, and those on the way to it. -/
def generatedLineage : List Path :=
  c.generatedDirectory.toList.flatMap fun directory =>
    lineage (directory.text.bytes.length + 1) directory

theorem grows_opened {fs : FileSystem} (hfs : fs.isProper = true) :
    fs.Grows c.generatedLineage (c.opened fs) := by
  rw [opened, generatedLineage]
  cases c.generatedDirectory with
  | none => exact .refl
  | some directory => simpa using (grows_makeDirectories directory hfs).1

/-- A directory for generated documents is made, or one on the way to it, where nothing was. -/
structure Opens (fs : FileSystem) (place : List RawText) (after : FileSystem) : Prop where
  free : fs.top.item? place = none
  made : after.top.item? place = some .directory
  lineage : ∃ p ∈ c.generatedLineage, (c.opened fs).canonical p = .ok place

/-- **The first phase.** What it changes are directories for generated documents. -/
theorem item?_opened {fs : FileSystem} (hfs : fs.isProper = true) (place : List RawText) :
    (c.opened fs).top.item? place = fs.top.item? place ∨ c.Opens fs place (c.opened fs) :=
  ((c.grows_opened hfs).settles hfs place).imp_right fun ⟨hfree, hmade, hlineage⟩ =>
    ⟨hfree, hmade, hlineage⟩

/-! ### The second phase -/

/-- What is settled before the output directory is touched. -/
structure Findings where
  roots : Roots
  pages : List PlannedPage
  trees : List (PlannedPage × Node)
  cache : Cache
  /-- The canonical path of the output directory. -/
  output : Path

/-- Nothing is wrong with the roots, the inputs and the output directory. -/
structure Checked (fs : FileSystem) (inputs : List Path) (found : Findings) : Prop where
  roots : Roots.ofPaths fs c.rootPaths = .ok found.roots
  pages : plan fs found.roots c.pagesPackage inputs = .ok found.pages
  apart : checkCollisions found.pages = .ok ()
  trees : readAll fs { parse := g.parse c.features, roots := found.roots } found.pages =
    .ok (found.trees, found.cache)
  output : canonicalLenient fs c.outputDirectory = .ok found.output
  disjoint : overlaps found.roots found.output = false

/-- The third phase: the output directory is renewed, and the pages are written. -/
def rebuild (found : Findings) : ConversionAction Summary := do
  attempt (.outputDirectory c.outputDirectory) (renew c.outputDirectory)
  c.writeAll found.cache {} found.trees

/-- The third phase succeeds if the output directory can be renewed and the pages written. -/
theorem outcome_rebuild_eq_ok {found : Findings} {fs after : FileSystem} {summary : Summary} :
    outcome (c.rebuild found) fs = (.ok summary, after) ↔
      ∃ cleared, outcome (renew c.outputDirectory) fs = (.ok (), cleared) ∧
        outcome (c.writeAll found.cache {} found.trees) cleared = (.ok summary, after) := by
  simp only [rebuild, outcome_bind_eq_ok, outcome_attempt_eq_ok]
  constructor
  · rintro ⟨_, cleared, hrenew, hwrite⟩
    exact ⟨cleared, hrenew, hwrite⟩
  · rintro ⟨cleared, hrenew, hwrite⟩
    exact ⟨(), cleared, hrenew, hwrite⟩

theorem outcome_attempt_renew (fs : FileSystem) :
    outcome (attempt (.outputDirectory c.outputDirectory) (renew c.outputDirectory)) fs =
      outcome (do
        if (← get).present c.outputDirectory then
          attempt (.outputDirectory c.outputDirectory) (removeTree c.outputDirectory)
        attempt (.outputDirectory c.outputDirectory) (makeDirectories c.outputDirectory)) fs := by
  rw [outcome_attempt, renew, outcome_bind, outcome_get, outcome_bind, outcome_get]
  dsimp only
  by_cases hpresent : fs.present c.outputDirectory = true
  · rw [if_pos hpresent, if_pos hpresent, outcome_bind, outcome_bind, outcome_attempt]
    cases outcome (removeTree c.outputDirectory) fs with
    | mk result after =>
      cases result with
      | error fault => rfl
      | ok _ => exact (outcome_attempt _ _ _).symm
  · rw [if_neg hpresent, if_neg hpresent, outcome_attempt]

/-- An output directory that is apart from the roots is renewed. -/
theorem outcome_prepareOutput_of_disjoint {roots : Roots} {fs : FileSystem} {output : Path}
    (houtput : canonicalLenient fs c.outputDirectory = .ok output)
    (hdisjoint : overlaps roots output = false) : outcome (c.prepareOutput roots) fs =
      outcome (attempt (.outputDirectory c.outputDirectory) (renew c.outputDirectory)) fs := by
  rw [prepareOutput, outcome_bind, outcome_conversionAsk, houtput]
  dsimp only [Except.mapError]
  rw [if_neg (by simp [hdisjoint]), outcome_attempt_renew]

/-- An output directory that overlaps a root is refused. -/
theorem outcome_prepareOutput_of_overlap {roots : Roots} {fs : FileSystem} {output : Path}
    (houtput : canonicalLenient fs c.outputDirectory = .ok output)
    (hoverlap : overlaps roots output = true) : outcome (c.prepareOutput roots) fs =
      (.error (.outputDirectory c.outputDirectory .overlapsRoot), fs) := by
  rw [prepareOutput, outcome_bind, outcome_conversionAsk, houtput]
  dsimp only [Except.mapError]
  rw [if_pos hoverlap]
  rfl

theorem outcome_prepareOutput (roots : Roots) (fs : FileSystem) :
    (∃ fault, outcome (c.prepareOutput roots) fs =
      (.error (.outputDirectory c.outputDirectory fault), fs)) ∨
      ∃ output, canonicalLenient fs c.outputDirectory = .ok output ∧
        overlaps roots output = false ∧ outcome (c.prepareOutput roots) fs =
          outcome (attempt (.outputDirectory c.outputDirectory) (renew c.outputDirectory)) fs := by
  cases houtput : canonicalLenient fs c.outputDirectory with
  | error fault =>
    rw [prepareOutput, outcome_bind, outcome_conversionAsk, houtput]
    exact .inl ⟨_, rfl⟩
  | ok output =>
    cases hoverlap : overlaps roots output with
    | true => exact .inl ⟨_, c.outcome_prepareOutput_of_overlap houtput hoverlap⟩
    | false =>
      exact .inr ⟨output, rfl, hoverlap, c.outcome_prepareOutput_of_disjoint houtput hoverlap⟩

/-- If nothing is wrong, the outcome is that of the third phase. -/
theorem Checked.outcome_convert {c : Conversion} {fs : FileSystem} {inputs : List Path}
    {found : Findings} (h : c.Checked g fs inputs found) :
    outcome (c.convert g found.roots inputs) fs = outcome (c.rebuild found) fs := by
  rw [convert, outcome_bind, outcome_conversionAsk, h.pages]
  dsimp only
  rw [outcome_bind, outcome_conversionAsk, h.apart]
  dsimp only
  rw [outcome_bind, outcome_conversionAsk, h.trees]
  dsimp only
  rw [outcome_bind, c.outcome_prepareOutput_of_disjoint h.output h.disjoint, rebuild, outcome_bind]

/-- **The second phase.** A conversion is given up while nothing has changed, or nothing is wrong,
and its outcome is that of the third phase. -/
theorem outcome_convert {roots : Roots} (inputs : List Path) {fs : FileSystem}
    (hroots : Roots.ofPaths fs c.rootPaths = .ok roots) :
    (∃ error, outcome (c.convert g roots inputs) fs = (.error error, fs)) ∨
      ∃ found, found.roots = roots ∧ c.Checked g fs inputs found ∧
        outcome (c.convert g roots inputs) fs = outcome (c.rebuild found) fs := by
  rw [convert, outcome_bind, outcome_conversionAsk]
  cases hpages : plan fs roots c.pagesPackage inputs with
  | error error => exact .inl ⟨error, rfl⟩
  | ok pages =>
    dsimp only
    rw [outcome_bind, outcome_conversionAsk]
    cases hapart : checkCollisions pages with
    | error error => exact .inl ⟨error, rfl⟩
    | ok _ =>
      dsimp only
      rw [outcome_bind, outcome_conversionAsk]
      cases htrees : readAll fs { parse := g.parse c.features, roots := roots } pages with
      | error error => exact .inl ⟨error, rfl⟩
      | ok result =>
        obtain ⟨trees, cache⟩ := result
        dsimp only
        rw [outcome_bind]
        rcases c.outcome_prepareOutput roots fs with ⟨fault, hfault⟩ |
          ⟨output, houtput, hdisjoint, hrenew⟩
        · rw [hfault]
          exact .inl ⟨_, rfl⟩
        · refine .inr ⟨⟨roots, pages, trees, cache, output⟩, rfl,
            ⟨hroots, hpages, hapart, htrees, houtput, hdisjoint⟩, ?_⟩
          rw [hrenew, rebuild, outcome_bind]

/-- Once there are roots, the inputs are converted. -/
theorem outcome_perform_of_rootSet (request : Option (List Path)) {fs : FileSystem} {roots : Roots}
    (h : outcome c.rootSet fs = (.ok roots, c.opened fs)) :
    outcome (c.perform g request) fs =
      outcome (c.convert g roots (c.inputs (c.opened fs) roots request)) (c.opened fs) := by
  cases request with
  | none =>
    rw [perform, run, outcome_bind_of_ok h, outcome_bind, outcome_get]
    rfl
  | some files =>
    rw [perform, runFiles, outcome_bind_of_ok h]
    rfl

/-- **The phases of a conversion.** It is given up before the third phase, or its outcome is that of
the third phase. -/
theorem outcome_perform (request : Option (List Path)) (fs : FileSystem) :
    (∃ error, outcome (c.perform g request) fs = (.error error, c.opened fs)) ∨
      ∃ found, c.Checked g (c.opened fs) (c.inputs (c.opened fs) found.roots request) found ∧
        outcome (c.perform g request) fs = outcome (c.rebuild found) (c.opened fs) := by
  rcases c.outcome_rootSet fs with ⟨error, herror⟩ | ⟨roots, hok, hroots⟩
  · refine .inl ⟨.roots error, ?_⟩
    cases request <;> exact outcome_bind_of_error herror _
  · rw [c.outcome_perform_of_rootSet g request hok]
    rcases c.outcome_convert g (c.inputs (c.opened fs) roots request) hroots with herror |
      ⟨found, rfl, hchecked, houtcome⟩
    · exact .inl herror
    · exact .inr ⟨found, hchecked, houtcome⟩

end Conversion

end MarkdownPages
