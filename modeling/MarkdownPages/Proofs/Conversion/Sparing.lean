import MarkdownPages.Markup.Parse
import MarkdownPages.Proofs.Conversion.Lenient
import MarkdownPages.Proofs.Conversion.Planning
import MarkdownPages.Proofs.Conversion.Writing
import MarkdownPages.Proofs.Sources.Roots

/-!
# A conversion spares its sources

The output directory neither holds a root nor lies inside of one, going by its canonical path. All
that a conversion changes after that check is within one zone, and as a rule the zone is apart from
all roots, so nothing below a root is made, written or removed.

The check and the removal do not look at the same thing, though. Where the output directory is a
link, the check follows the link and the removal takes away the link itself, so a link that lies
below a root is lost and pages are written in its place. And where the output path leads over a link
that is removed, it may lead somewhere else afterwards. Both are excluded here, and the first is
shown to happen.

## Main definitions

* `Conversion.KeepsPath` — the removal takes no link away over which the output path leads

## Main results

* `Conversion.perform_spares_roots` — nothing below a root changes
* `Conversion.perform_of_linked_output` — a link below a root that is lost
-/

namespace MarkdownPages

open FileSystem FileAction

namespace Conversion

variable (c : Conversion) {g : Grammar}

/-- When what the output path leads to is removed, no link on the way goes with it, or the path
makes sense without the link. -/
def KeepsPath (fs : FileSystem) : Prop :=
  fs.present c.outputDirectory = true → ∀ cleared,
    outcome (removeTree c.outputDirectory) fs = (.ok (), cleared) →
      fs.KeepsLinks c.outputDirectory cleared ∨
        ∃ canonical, canonicalLenient cleared c.outputDirectory = .ok canonical

variable {c} in
/-- A path that can be told after a removal leads somewhere, if only over directories that are
missing. -/
theorem KeepsPath.keepsLinks_or_aims {fs : FileSystem} (hkeeps : c.KeepsPath fs)
    (hfs : fs.isProper = true) (hpresent : fs.present c.outputDirectory = true)
    {cleared : FileSystem}
    (hcleared : outcome (removeTree c.outputDirectory) fs = (.ok (), cleared)) :
    fs.KeepsLinks c.outputDirectory cleared ∨ ∃ place, cleared.Aims c.outputDirectory place := by
  refine (hkeeps hpresent cleared hcleared).imp_right fun ⟨canonical, hcanonical⟩ => ?_
  have hproper : cleared.isProper = true := by
    rcases outcome_removeTree c.outputDirectory hfs with ⟨zone, after, hok, hremoves⟩ |
      ⟨fault, after, hfault, -⟩
    · obtain rfl := (Prod.mk.inj (hcleared.symm.trans hok)).2
      exact hremoves.proper hfs
    · cases (Prod.mk.inj (hcleared.symm.trans hfault)).1
  obtain ⟨place, -, -, haims, -⟩ := canonicalLenient_eq_ok hproper hcanonical
  exact ⟨place, haims⟩

section Checked

variable {c} {fs : FileSystem} (hfs : fs.isProper = true) {inputs : List Path} {found : Findings}
  (hchecked : c.Checked g fs inputs found)

include hfs hchecked

/-- The place of a root neither holds the output directory nor lies inside of it. -/
theorem Checked.separate {place : List RawText} (hplace : found.output = .ofNames place)
    (hnames : ∀ name ∈ place, Path.IsName name) {root : Path} (hroot : root ∈ c.rootPaths)
    {r : List RawText} (hr : fs.canonical root = .ok r) :
    fs.top.item? r = some .directory ∧ ¬ place <+: r ∧ ¬ r <+: place := by
  obtain ⟨hkept, -⟩ := Roots.ofPaths_eq_ok hchecked.roots
  obtain ⟨r', hr', hdirectory, kept, hmem, hsame⟩ := hkept root hroot
  obtain rfl := Except.ok.inj (hr.symm.trans hr')
  have hrnames := isName_of_item? hfs hdirectory
  have hnone := List.any_eq_false.mp hchecked.disjoint kept hmem
  rw [Path.same, beq_iff_eq] at hsame
  have hstart : ∀ p : Path, p.startsWith kept = p.startsWith (.ofNames r) := fun p => by
    rw [Path.startsWith, Path.startsWith, hsame]
  have hbase : ∀ p : Path, kept.startsWith p = (Path.ofNames r).startsWith p := fun p => by
    rw [Path.startsWith, Path.startsWith, hsame]
  rw [hplace, hstart, hbase, Bool.or_eq_true, not_or, Path.startsWith_ofNames hrnames hnames,
    Path.startsWith_ofNames hnames hrnames] at hnone
  exact ⟨hdirectory, hnone⟩

/-- The generated files of all pages have paths that descend. -/
theorem Checked.descends (hpackage : '/' ∉ c.pagesPackage.toList) :
    ∀ entry ∈ found.trees, Descends entry.1 := by
  intro entry hentry
  have hplanned := planned_of_plan hfs hchecked.pages
  obtain ⟨hpages, -⟩ := readAll_eq_ok (by simp [Cache.Faithful])
    (fun page hpage => hplanned.canonicalPath hfs hpage) hchecked.trees
  have hpage : entry.1 ∈ found.pages := hpages ▸ List.mem_map_of_mem hentry
  obtain ⟨relativePath, hplaced⟩ := hplanned.placed entry.1 hpage
  rw [Descends, hplaced]
  exact Site.descends_place relativePath hpackage

variable (hkeeps : c.KeepsPath fs)

include hkeeps

/-- The zone of the changes when the output directory is renewed. -/
theorem Checked.renew : ∃ place zone, found.output = .ofNames place ∧
    (∀ name ∈ place, Path.IsName name) ∧
    (zone = place ∨ fs.link? c.outputDirectory = some zone ∨
      zone <+: place ∧ fs.top.item? zone = none) ∧
    fs.DiffersWithin zone (outcome (renew c.outputDirectory) fs).2 ∧
    ((outcome (renew c.outputDirectory) fs).1 = .ok () → ∃ q, zone <+: q ∧
      (outcome (renew c.outputDirectory) fs).2.LeadsToBare c.outputDirectory q) := by
  obtain ⟨place, hplace, hnames, haims, htop⟩ := canonicalLenient_eq_ok hfs hchecked.output
  obtain ⟨zone, hwithin, hzone, hok⟩ := outcome_renew hfs haims htop
    fun hpresent cleared hcleared => hkeeps.keepsLinks_or_aims hfs hpresent hcleared
  exact ⟨place, zone, hplace, hnames, hzone, hwithin, hok⟩

/-- **The third phase.** All its changes are within one zone. -/
theorem Checked.differsWithin_rebuild (hpackage : '/' ∉ c.pagesPackage.toList) :
    ∃ place zone, found.output = .ofNames place ∧ (∀ name ∈ place, Path.IsName name) ∧
      (zone = place ∨ fs.link? c.outputDirectory = some zone ∨
        zone <+: place ∧ fs.top.item? zone = none) ∧
      fs.DiffersWithin zone (outcome (c.rebuild found) fs).2 := by
  obtain ⟨place, zone, hplace, hnames, hzone, hwithin, hok⟩ := hchecked.renew hfs hkeeps
  refine ⟨place, zone, hplace, hnames, hzone, ?_⟩
  rw [rebuild, outcome_bind, outcome_attempt]
  generalize outcome (FileAction.renew c.outputDirectory) fs = renewed at hwithin hok
  obtain ⟨result, middle⟩ := renewed
  cases result with
  | error fault => exact hwithin
  | ok _ =>
    obtain ⟨q, hq, hbare⟩ := hok rfl
    have hbuilds := c.builds_writeAll (hwithin.proper hfs) hbare.leadsToPlain found.cache {}
      (hchecked.descends hfs hpackage)
    exact hwithin.trans (hbuilds.toDiffersWithin.weaken hq)

end Checked

/-- **Sparing the sources.** Whatever a conversion comes to, nothing is made, written or removed
below a root, apart from the directory for generated documents and those on the way to it. The
output directory must not be a link that lies below a root, and its path must not lead over a link
that is removed, unless it makes sense without the link. -/
theorem perform_spares_roots {fs : FileSystem} (hfs : fs.isProper = true)
    (hpackage : '/' ∉ c.pagesPackage.toList)
    (hlink : ∀ link, (c.opened fs).link? c.outputDirectory = some link →
      ∀ root ∈ c.rootPaths, ∀ place, (c.opened fs).canonical root = .ok place → ¬ place <+: link)
    (hkeeps : c.KeepsPath (c.opened fs)) (request : Option (List Path)) :
    let after := (outcome (c.perform g request) fs).2
    ∀ root ∈ c.rootPaths, ∀ place,
      fs.canonical root = .ok place ∨ (c.opened fs).canonical root = .ok place →
      ∀ q, place <+: q → after.top.item? q = fs.top.item? q ∨ c.Opens fs q after := by
  dsimp only
  intro root hroot place hplace q hq
  have hgrows := c.grows_opened hfs
  have hopened := hgrows.proper hfs
  replace hplace : (c.opened fs).canonical root = .ok place :=
    hplace.elim (hgrows.canonical_mono ·) id
  rcases c.outcome_perform g request fs with ⟨error, herror⟩ | ⟨found, hchecked, houtcome⟩
  · rw [herror]
    exact c.item?_opened hfs q
  · rw [houtcome]
    obtain ⟨output, zone, houtput, hnames, hzone, hwithin⟩ :=
      hchecked.differsWithin_rebuild hopened hkeeps hpackage
    obtain ⟨hdirectory, hinside, hholds⟩ := hchecked.separate hopened houtput hnames hroot hplace
    -- a place in the zone and below the root would put one of the two into the other
    have hout : ¬ zone <+: q := by
      intro hzq
      have hnested := List.prefix_or_prefix_of_prefix hzq hq
      rcases hzone with rfl | hzone | ⟨hzone, hfree⟩
      · exact hnested.elim hinside hholds
      · refine hnested.elim (fun hle => ?_) (hlink zone hzone root hroot place hplace)
        obtain ⟨target, htarget⟩ := item?_of_link? hzone
        rw [Entry.item?_directory_of_isPrefix hle hdirectory] at htarget
        cases htarget
      · refine hnested.elim (fun hle => ?_) fun hle => hholds (hle.trans hzone)
        rw [Entry.item?_directory_of_isPrefix hle hdirectory] at hfree
        cases hfree
    have hsame := hwithin.item q hout
    rcases c.item?_opened hfs q with hold | hmade
    · exact .inl (hsame.trans hold)
    · exact .inr ⟨hmade.free, hsame.trans hmade.made, hmade.lineage⟩

/-- A site with a page from an earlier conversion. -/
private def oldSite : FileSystem where
  top := .directory [
    ("docs", .directory [("index.md", .file (.text "Hi"))]),
    ("out", .directory [("Old.kt", .file (.text ""))])]

private def oldConversion : Conversion where
  roots := [⟨"docs"⟩]
  generatedDirectory := some ⟨"docs/generated"⟩
  outputDirectory := ⟨"out/../out"⟩

/-- The output directory of an earlier conversion is renewed, though its path goes through it and
back, and a directory for generated documents is made below a root. -/
theorem perform_spares_roots_of_rebuild :
    let after := (outcome (oldConversion.perform .commonMark none) oldSite).2
    oldSite.isProper = true ∧ '/' ∉ oldConversion.pagesPackage.toList ∧
      (oldConversion.opened oldSite).link? oldConversion.outputDirectory = none ∧
      oldConversion.KeepsPath (oldConversion.opened oldSite) ∧
      oldSite.canonical ⟨"docs"⟩ = .ok ["docs"] ∧
      ∀ q, [RawText.ofText "docs"] <+: q → after.top.item? q = oldSite.top.item? q ∨
        oldConversion.Opens oldSite q after := by
  have hproper : oldSite.isProper = true := by decide +kernel
  have hpackage : '/' ∉ oldConversion.pagesPackage.toList :=
    Site.slash_notMem_of_isQualifiedName (by decide +kernel)
  have hlink : (oldConversion.opened oldSite).link? oldConversion.outputDirectory = none := by
    decide +kernel
  have hkeeps : oldConversion.KeepsPath (oldConversion.opened oldSite) :=
    fun _ _ _ => .inl (keepsLinks_of_none (by decide +kernel))
  have hroot : oldSite.canonical ⟨"docs"⟩ = .ok ["docs"] := by decide +kernel
  exact ⟨hproper, hpackage, hlink, hkeeps, hroot, oldConversion.perform_spares_roots hproper
    hpackage (by simp [hlink]) hkeeps none ⟨"docs"⟩ (by simp [rootPaths, oldConversion])
    ["docs"] (.inl hroot)⟩

/-- A site whose output directory is a link from below the root to a place outside. -/
private def linkedSite : FileSystem where
  top := .directory [
    ("docs", .directory [("out", .link ⟨"../elsewhere"⟩)]),
    ("elsewhere", .directory [])]

private def linkedConversion : Conversion where
  roots := [⟨"docs"⟩]
  outputDirectory := ⟨"docs/out"⟩

/-- A link below a root that is lost: going by its canonical path, the output directory is apart
from the root, but it is the link that is removed, and a directory is made in its place. -/
theorem perform_of_linked_output :
    let after := (outcome (linkedConversion.perform .commonMark (some [])) linkedSite).2
    linkedSite.isProper = true ∧ linkedSite.canonical ⟨"docs"⟩ = .ok ["docs"] ∧
      linkedSite.top.item? ["docs", "out"] = some (.link ⟨"../elsewhere"⟩) ∧
      after.top.item? ["docs", "out"] = some .directory ∧
      ¬ ∀ q, [RawText.ofText "docs"] <+: q → after.top.item? q = linkedSite.top.item? q ∨
        linkedConversion.Opens linkedSite q after := by
  intro after
  have hlink : linkedSite.top.item? ["docs", "out"] = some (.link ⟨"../elsewhere"⟩) := by rfl
  have hdirectory : after.top.item? ["docs", "out"] = some .directory :=
    Entry.item?_eq_directory_iff_any.mp (by decide +kernel)
  refine ⟨by decide +kernel, by decide +kernel, hlink, hdirectory, fun hspared => ?_⟩
  rcases hspared ["docs", "out"] ⟨["out"], rfl⟩ with hsame | hopens
  · rw [hdirectory, hlink] at hsame
    cases hsame
  · have hfree := hopens.free
    rw [hlink] at hfree
    cases hfree

end Conversion

end MarkdownPages
