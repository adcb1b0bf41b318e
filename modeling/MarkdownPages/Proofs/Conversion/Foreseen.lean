import MarkdownPages.Proofs.Conversion.Lenient
import MarkdownPages.Proofs.Conversion.Phases

/-!
# The output directory that is foreseen

Whether the output directory overlaps a root is decided before there is such a directory. What is
compared with the roots is the canonical path that it will have: a path that leads nowhere leads,
once its directories are made, to the place that was foreseen. Links on the way, the ones that hang
and those that go round in circles make no difference, as a directory is made behind none of the
latter.

## Main results

* `leadsToEmpty_of_canonicalLenient` — the directory that is made stands where it was foreseen
* `canonicalLenient_foresees` — so the output directory is compared with the roots as it will be
-/

namespace MarkdownPages

open FileSystem FileAction

variable {fs after : FileSystem}

/-- A path that leads nowhere leads to a new directory at the place that was foreseen, once its
directories are made. -/
theorem leadsToEmpty_of_canonicalLenient (hfs : fs.isProper = true) {p canonical : Path}
    (habsent : fs.present p = false) (hcanonical : canonicalLenient fs p = .ok canonical)
    (hmade : outcome (makeDirectories p) fs = (.ok (), after)) :
    ∃ place, canonical = .ofNames place ∧ after.LeadsToEmpty p place := by
  obtain ⟨place, rfl, -, ⟨init, found, missing, hroute, hreach, rfl⟩, htop⟩ :=
    canonicalLenient_eq_ok hfs hcanonical
  -- a path with an empty route leads to where it starts
  have hne : p.route ≠ [] := fun hnil => by
    rw [htop hnil] at habsent
    cases habsent
  have hnowhere : ∀ q, fs.canonical p ≠ .ok q := fun q hq => by
    rw [present_iff.mpr ⟨q, hq⟩] at habsent
    cases habsent
  obtain ⟨made, -, -, hok⟩ := leadsToEmpty_makeDirectories hfs hreach hroute hne hnowhere
  rw [hmade] at hok
  exact ⟨_, rfl, (hok rfl).2.2⟩

/-- An output directory that does not exist is refused or made. -/
theorem Conversion.outcome_prepareOutput_of_absent (c : Conversion) {roots : Roots} {output : Path}
    (habsent : fs.present c.outputDirectory = false)
    (houtput : canonicalLenient fs c.outputDirectory = .ok output) :
    outcome (c.prepareOutput roots) fs =
      if overlaps roots output then
        (.error (.outputDirectory c.outputDirectory .overlapsRoot), fs)
      else
        outcome (attempt (.outputDirectory c.outputDirectory)
          (makeDirectories c.outputDirectory)) fs := by
  cases hoverlap : overlaps roots output with
  | true => rw [c.outcome_prepareOutput_of_overlap houtput hoverlap, if_pos rfl]
  | false =>
    have hrenew : outcome (renew c.outputDirectory) fs =
        outcome (makeDirectories c.outputDirectory) fs := by
      rw [renew, outcome_bind, outcome_get]
      dsimp only
      rw [if_neg (by simp [habsent])]
    rw [c.outcome_prepareOutput_of_disjoint houtput hoverlap, if_neg (by simp), outcome_attempt,
      outcome_attempt, hrenew]

/-- **The output directory is foreseen.** The search for its canonical path ends, and what exists is
found. If there is nothing yet and the directory is made, its canonical path is the one that was
found before, and this path alone decides whether the directory is refused for the sake of a
root. -/
theorem canonicalLenient_foresees (hfs : fs.isProper = true) (p : Path) :
    (∀ fault, fs.absolute p = .error fault → canonicalLenient fs p = .error fault) ∧
    (∀ absolute result, fs.absolute p = .ok absolute →
      (Searches fs absolute [] result ↔ canonicalLenient fs p = result)) ∧
    (fs.present p = true → ∃ canonical, fs.canonicalPath p = .ok canonical ∧
      canonicalLenient fs p = .ok canonical) ∧
    (fs.present p = false → ∀ canonical after, canonicalLenient fs p = .ok canonical →
      outcome (makeDirectories p) fs = (.ok (), after) →
        after.canonicalPath p = .ok canonical ∧
        ∀ (c : Conversion) (roots : Roots), c.outputDirectory = p →
          outcome (c.prepareOutput roots) fs =
            if Conversion.overlaps roots canonical then
              (.error (.outputDirectory p .overlapsRoot), fs)
            else (.ok (), after)) := by
  refine ⟨fun fault hfault => ?_, fun absolute result habsolute => searches_iff habsolute,
    fun hpresent => ?_, fun habsent canonical after hcanonical hmade => ⟨?_, ?_⟩⟩
  · rw [canonicalLenient, hfault]
    rfl
  · obtain ⟨place, hplace⟩ := present_iff.mp hpresent
    have hcanonical : fs.canonicalPath p = .ok (.ofNames place) :=
      canonicalPath_eq_ok.mpr ⟨place, hplace, rfl⟩
    exact ⟨_, hcanonical, canonicalLenient_of_canonicalPath hfs hcanonical⟩
  · obtain ⟨place, rfl, hempty⟩ :=
      leadsToEmpty_of_canonicalLenient hfs habsent hcanonical hmade
    exact canonicalPath_eq_ok.mpr ⟨place, hempty.canonical, rfl⟩
  · rintro c roots rfl
    rw [c.outcome_prepareOutput_of_absent habsent hcanonical, outcome_attempt, hmade]

/-- A site with a link to the directory of its documents, one that hangs and one that leads to
itself. -/
private def windingSite : FileSystem where
  top := .directory [
    ("circle", .link ⟨"circle"⟩),
    ("docs", .directory [("posts", .directory [])]),
    ("loose", .link ⟨"nowhere"⟩),
    ("site", .link ⟨"docs/posts/"⟩)]

private def windingConversion : Conversion where
  roots := [⟨"docs"⟩]
  outputDirectory := ⟨"site/../out/./pages/"⟩

/-- By way of a link the output directory would come to stand below a root, so it is refused. No
directory is made where a link hangs or goes round in circles. -/
theorem canonicalLenient_foresees_of_winding :
    let p : Path := ⟨"site/../out/./pages/"⟩
    let after := (outcome (makeDirectories p) windingSite).2
    windingSite.isProper = true ∧ windingSite.present p = false ∧
      canonicalLenient windingSite p = .ok ⟨"/docs/out/pages"⟩ ∧
      after.canonicalPath p = .ok ⟨"/docs/out/pages"⟩ ∧
      outcome (windingConversion.prepareOutput ⟨[⟨"/docs"⟩]⟩) windingSite =
        (.error (.outputDirectory p .overlapsRoot), windingSite) ∧
      (∀ link ∈ [⟨"circle"⟩, ⟨"loose"⟩, ⟨"loose/out"⟩],
        (outcome (makeDirectories link) windingSite).1 ≠ .ok ()) := by
  intro p after
  have hproper : windingSite.isProper = true := by decide +kernel
  have habsent : windingSite.present p = false := by decide +kernel
  have hcanonical : canonicalLenient windingSite p = .ok ⟨"/docs/out/pages"⟩ := by decide +kernel
  have hmade : (outcome (makeDirectories p) windingSite).1 = .ok () := by decide +kernel
  obtain ⟨-, -, -, hforeseen⟩ := canonicalLenient_foresees hproper p
  obtain ⟨hafter, hprepared⟩ := hforeseen habsent _ after hcanonical (Prod.ext hmade rfl)
  refine ⟨hproper, habsent, hcanonical, hafter, ?_, by decide +kernel⟩
  rw [hprepared windingConversion ⟨[⟨"/docs"⟩]⟩ rfl, if_pos (by decide +kernel)]

end MarkdownPages
