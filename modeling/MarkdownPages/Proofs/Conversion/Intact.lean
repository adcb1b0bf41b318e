import MarkdownPages.Markup.Parse
import MarkdownPages.Proofs.Conversion.Phases

/-!
# Failures that leave everything intact

A conversion that is given up because of its roots, its inputs, a collision or an output directory
that overlaps a root has not touched the output directory. All it may have done is to make the
directory for generated documents.

## Main definitions

* `ConversionError.isEarly` — reasons that are found before the output directory is touched

## Main results

* `Conversion.perform_keeps_all` — everything that was there is still there
-/

namespace MarkdownPages

/-- Whether a reason to give up is found before the output directory is touched. -/
def ConversionError.isEarly : ConversionError → Bool
  | .roots _ | .input _ _ | .outputCollision _ _ _ | .functionCollision _ _ _ => true
  | .outputDirectory _ fault => fault = .overlapsRoot
  | .write _ _ => false

namespace Conversion

open FileAction

variable (c : Conversion) {g : Grammar}

/-- Once pages are written, nothing but writing is a reason to give up. -/
theorem writeAll_isEarly {cache : Cache} {summary : Summary} {trees : List (PlannedPage × Node)}
    {fs after : FileSystem} {error : ConversionError}
    (h : outcome (c.writeAll cache summary trees) fs = (.error error, after)) :
    error.isEarly = false := by
  induction trees generalizing cache summary fs with
  | nil => cases h
  | cons head rest ih =>
    obtain ⟨page, tree⟩ := head
    rw [writeAll, outcome_bind, outcome_get] at h
    dsimp only at h
    rw [outcome_bind, writePage, outcome_attempt] at h
    generalize outcome _ fs = written at h
    obtain ⟨result, middle⟩ := written
    cases result with
    | error fault =>
      rw [← Except.error.inj (Prod.mk.inj h).1]
      rfl
    | ok _ => exact ih h

/-- **Early failures.** A conversion that is given up before the output directory is touched leaves
everything as it is, apart from making the directory for generated documents. -/
theorem perform_keeps_all {fs : FileSystem} (hfs : fs.isProper = true)
    (request : Option (List Path)) {error : ConversionError} {after : FileSystem}
    (h : outcome (c.perform g request) fs = (.error error, after)) (hearly : error.isEarly = true) :
    after.working = fs.working ∧
      (∀ place, after.top.item? place = fs.top.item? place ∨ c.Opens fs place after) ∧
      ∀ place item, fs.top.item? place = some item → after.top.item? place = some item := by
  have hgrows := c.grows_opened hfs
  have hopened : after = c.opened fs := by
    rcases c.outcome_perform g request fs with ⟨error', herror⟩ | ⟨found, -, houtcome⟩
    · exact (Prod.mk.inj (h.symm.trans herror)).2
    · rw [houtcome, rebuild, outcome_bind, outcome_attempt] at h
      cases hrenew : outcome (renew c.outputDirectory) (c.opened fs) with
      | mk result middle =>
        rw [hrenew] at h
        cases result with
        | error fault =>
          obtain ⟨herror, rfl⟩ := Prod.mk.inj h
          obtain rfl := Except.error.inj herror
          have hfault : fault = .overlapsRoot := by simpa [ConversionError.isEarly] using hearly
          exact renew_overlapsRoot (hgrows.proper hfs) (hfault ▸ hrenew)
        | ok _ =>
          rw [c.writeAll_isEarly h] at hearly
          cases hearly
  subst hopened
  exact ⟨hgrows.working, c.item?_opened hfs, fun place item => hgrows.mono⟩

/-- A site with a page from an earlier conversion. -/
private def builtSite : FileSystem where
  top := .directory [
    ("docs", .directory [("index.md", .file (.text "Hi"))]),
    ("elsewhere.md", .file (.text "Ho")),
    ("out", .directory [("Index.kt", .file (.text "fun IndexPage() \x7b\x7d"))])]

private def docsConversion : Conversion where
  roots := [⟨"docs"⟩]
  generatedDirectory := some ⟨"build/generated"⟩
  outputDirectory := ⟨"out"⟩

/-- An input outside of the roots is found after the directory for generated documents is made. The
page from the earlier conversion is still there. -/
theorem perform_keeps_all_of_stray_input :
    let request := some [⟨"docs/index.md"⟩, ⟨"elsewhere.md"⟩]
    let error := ConversionError.input ⟨"elsewhere.md"⟩ (.outsideRoots ⟨"/elsewhere.md"⟩)
    let after := (outcome (docsConversion.perform .commonMark request) builtSite).2
    builtSite.isProper = true ∧
      outcome (docsConversion.perform .commonMark request) builtSite = (.error error, after) ∧
      error.isEarly = true ∧
      after.working = builtSite.working ∧
      (∀ place, after.top.item? place = builtSite.top.item? place ∨
        docsConversion.Opens builtSite place after) ∧
      ∀ place item, builtSite.top.item? place = some item → after.top.item? place = some item := by
  intro request error after
  have hproper : builtSite.isProper = true := by decide +kernel
  have houtcome : outcome (docsConversion.perform .commonMark request) builtSite =
      (.error error, after) := Prod.ext (by decide +kernel) rfl
  exact ⟨hproper, houtcome, rfl, docsConversion.perform_keeps_all hproper _ houtcome rfl⟩

end Conversion

end MarkdownPages
