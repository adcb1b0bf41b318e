import MarkdownPages.Markup.Parse
import MarkdownPages.Proofs.Conversion.Agreement
import MarkdownPages.Proofs.Conversion.Sparing

/-!
# A conversion that is repeated

A conversion that succeeded can be repeated, and the second run changes nothing. It starts with the
output directory of the first, but the roots are apart from it, so everything that is found out
before the output directory is touched is found out again. Renewing the output directory leads back
to the file system in which the first run began to write, and from there on both runs are the same,
whatever is looked up while the pages are written.

## Main results

* `FileSystem.Renews.eq` — renewed file systems are equal if they agree apart from the place
* `Conversion.run_again` — the second run has the same outcome, and changes nothing
-/

namespace MarkdownPages

open FileSystem FileAction

/-- Renewing a place leads to the same file system if nothing else differs. -/
theorem FileSystem.Renews.eq {fs other after after' : FileSystem} {place : List RawText}
    (h : fs.Renews place after) (h' : other.Renews place after')
    (hitem : ∀ q, ¬ q <+: place → ¬ place <+: q → other.top.item? q = fs.top.item? q)
    (hworking : other.working = fs.working) : after' = after := by
  have htop : after'.top = after.top := by
    refine Entry.eq_of_item? (isProper_iff.mp h'.proper).2 (isProper_iff.mp h.proper).2 fun q => ?_
    rw [h'.item, h.item]
    split
    · rfl
    · rename_i hbefore
      split
      · rfl
      · rename_i hbehind
        exact hitem q hbefore hbehind
  obtain ⟨top, working⟩ := after
  obtain ⟨top', working'⟩ := after'
  cases htop
  cases h'.working.trans (hworking.trans h.working.symm)
  rfl

namespace Conversion

variable {c : Conversion} {g : Grammar} {fs other after : FileSystem} {found : Findings}

/-! ### The second phase -/

/-- What is found out about all documents is found out again if the same stands below the roots. -/
theorem Checked.of_agreeBelow (hchecked : c.Checked g fs (c.inputs fs found.roots none) found)
    (hagree : AgreeBelow c.rootPaths fs other)
    (houtput : canonicalLenient other c.outputDirectory = .ok found.output) :
    c.Checked g other (c.inputs other found.roots none) found := by
  have hbelow := hagree.mono (hagree.mem_of_ofPaths hchecked.roots)
  have hinputs : c.inputs other found.roots none = c.inputs fs found.roots none :=
    hbelow.paths_discover_eq c.exclude
  have hdiscovered : ∀ input ∈ c.inputs fs found.roots none,
      IsDiscovered fs found.roots c.exclude input := fun input hinput =>
    (mem_discover hagree.proper.1
      (Roots.isCanonical_of_ofPaths hagree.proper.1 hchecked.roots)).mp hinput
  have hpages : ∀ page ∈ found.pages, IsDiscovered fs found.roots c.exclude page.path := by
    intro page hpage
    obtain ⟨input, hinput, hcanonical⟩ := ((planned_of_plan hagree.proper.1
      hchecked.pages).sources page.path).mp (List.mem_map_of_mem hpage)
    have hself := ((hdiscovered input hinput).canonicalPath hagree.proper.1).2.1
    exact Except.ok.inj (hself.symm.trans hcanonical) ▸ hdiscovered input hinput
  refine ⟨?_, ?_, hchecked.apart, ?_, houtput, hchecked.disjoint⟩
  · rw [hagree.ofPaths_eq, hchecked.roots]
  · rw [hinputs, hbelow.plan_eq c.pagesPackage hdiscovered, hchecked.pages]
  · rw [hbelow.readAll_eq hpages, hchecked.trees]

/-- The roots are apart from the output directory, so they stay as they are. -/
theorem Checked.agreeBelow {inputs : List Path} (hchecked : c.Checked g fs inputs found)
    (hfs : fs.isProper = true) (hplain : fs.LinkFree [])
    (hroots : ∀ root ∈ c.rootPaths, root.IsCanonical) {place : List RawText}
    (hnames : ∀ name ∈ place, Path.IsName name) (hplace : found.output = .ofNames place)
    (hafter : after.isProper = true) (hplain' : after.LinkFree [])
    (hsame : ∀ q, ¬ q <+: place → ¬ place <+: q → after.top.item? q = fs.top.item? q) :
    AgreeBelow c.rootPaths fs after := by
  refine ⟨⟨hfs, hafter⟩, ⟨hplain, hplain'⟩, fun root hroot => ?_⟩
  obtain ⟨base, hbase, hdirectory, -⟩ := (Roots.ofPaths_eq_ok hchecked.roots).1 root hroot
  obtain ⟨hdirectory, hholds, hinside⟩ := hchecked.separate hfs hplace hnames hroot hbase
  obtain ⟨names, rfl, hrootNames⟩ := hroots root hroot
  obtain ⟨rfl, -⟩ := (hplain.canonical_ofNames_eq_ok hfs hrootNames).mp hbase
  refine ⟨base, rfl, hdirectory, fun rest => hsame _ (fun hpre => ?_) fun hpre => ?_⟩
  · exact hinside ((List.prefix_append ..).trans hpre)
  · exact (List.prefix_or_prefix_of_prefix hpre (List.prefix_append base rest)).elim hholds hinside

/-! ### Both runs -/

/-- Nothing is made for roots that are there. -/
theorem outcome_rootSet_of_agreeBelow (hagree : AgreeBelow c.rootPaths fs other) {roots : Roots}
    (hroots : Roots.ofPaths other c.rootPaths = .ok roots) :
    c.opened other = other ∧ outcome c.rootSet other = (.ok roots, other) := by
  have hmade : ∀ directory ∈ c.generatedDirectory,
      outcome (makeDirectories directory) other = (.ok (), other) := by
    intro directory hgenerated
    obtain ⟨base, rfl, hbase, -⟩ := hagree.symm.same directory (by simp_all [rootPaths])
    exact outcome_makeDirectories_of_directory hagree.proper.2 hbase
  have hopened : c.opened other = other := by
    rw [opened]
    cases hgenerated : c.generatedDirectory with
    | none => rfl
    | some directory => exact (Prod.ext_iff.mp (hmade directory hgenerated)).2
  refine ⟨hopened, ?_⟩
  rw [c.outcome_rootSet_of_made fun directory h => by rw [hmade directory h], hopened, hroots]
  rfl

/-- Where the pages are written, there are no links, and nothing changes apart from it. -/
private theorem written (hplain : fs.LinkFree []) {place : List RawText}
    (hplace : c.outputDirectory = .ofNames place) {cleared : FileSystem}
    (hrenews : fs.Renews place cleared) (hdescends : ∀ entry ∈ found.trees, Descends entry.1)
    {summary : Summary}
    (h : outcome (c.writeAll found.cache {} found.trees) cleared = (.ok summary, after)) :
    after.isProper = true ∧ after.LinkFree [] ∧ after.top.item? place = some .directory ∧
      (∀ q, ¬ q <+: place → ¬ place <+: q → after.top.item? q = fs.top.item? q) ∧
      after.working = fs.working := by
  have hdirectory := hrenews.item_of_isPrefix (List.prefix_refl place)
  have hclearedPlain := hrenews.linkFree hplain
  have hout : cleared.LeadsToPlain c.outputDirectory place := by
    refine ⟨⟨hdirectory, fun rest target => hclearedPlain.plain _ target⟩, ?_⟩
    rw [hplace]
    exact canonical_ofNames hrenews.proper (Entry.stands_of_directory hdirectory)
  have hbuilds := c.builds_writeAll hrenews.proper hout found.cache {} hdescends
  rw [h] at hbuilds
  have hafter := hbuilds.proper hrenews.proper
  refine ⟨hafter, ⟨(isProper_iff.mp hafter).1, fun q target hq => ?_⟩,
    (hbuilds.linkFree hout.toLinkFree).directory, fun q hbefore hbehind => ?_,
    hbuilds.working.trans hrenews.working⟩
  · exact hclearedPlain.plain q target (hbuilds.noLink _ target hq)
  · exact (hbuilds.item q hbehind).trans (hrenews.item_of_apart hbefore hbehind)

/-- **The third phase.** It changes nothing apart from the output directory, and when it is repeated
it changes nothing at all. -/
theorem rebuild_again (hfs : fs.isProper = true) (hplain : fs.LinkFree []) {place : List RawText}
    (hplace : c.outputDirectory = .ofNames place) (hnames : ∀ name ∈ place, Path.IsName name)
    (hdescends : ∀ entry ∈ found.trees, Descends entry.1) {summary : Summary}
    (h : outcome (c.rebuild found) fs = (.ok summary, after)) :
    after.isProper = true ∧ after.LinkFree [] ∧ after.top.item? place = some .directory ∧
      (∀ q, ¬ q <+: place → ¬ place <+: q → after.top.item? q = fs.top.item? q) ∧
      outcome (c.rebuild found) after = (.ok summary, after) := by
  obtain ⟨cleared, hrenew, hwrite⟩ := c.outcome_rebuild_eq_ok.mp h
  obtain ⟨hne, hrenews⟩ := hplain.renews hfs hnames (hplace ▸ hrenew)
  obtain ⟨hafter, hplainAfter, hdirectory, hsame, hworking⟩ :=
    written hplain hplace hrenews hdescends hwrite
  -- the second run starts to write where the first one did
  obtain ⟨cleared', hrenew', hrenews'⟩ := outcome_renew_of_directory hafter hdirectory hne
  obtain rfl : cleared' = cleared := hrenews.eq hrenews' hsame hworking
  exact ⟨hafter, hplainAfter, hdirectory, hsame,
    c.outcome_rebuild_eq_ok.mpr ⟨cleared', hplace ▸ hrenew', hwrite⟩⟩

/-- **Repetition.** If a conversion of all documents succeeds, where there are no links and all
directories are given by canonical paths, a second run succeeds, is told of in the same way, and
leaves the file system as it was left by the first one. -/
theorem run_again (hfs : fs.isProper = true) (hplain : fs.LinkFree [])
    (hroots : ∀ root ∈ c.rootPaths, root.IsCanonical) (houtput : c.outputDirectory.IsCanonical)
    (hpackage : '/' ∉ c.pagesPackage.toList) {summary : Summary}
    (h : outcome (c.run g) fs = (.ok summary, after)) :
    outcome (c.run g) after = (.ok summary, after) := by
  obtain ⟨place, hplace, hnames⟩ := houtput
  have hgrows := c.grows_opened hfs
  have hopened := hgrows.proper hfs
  have hplainOpened := hgrows.linkFree hfs hplain
  rcases c.outcome_perform g none fs with ⟨error, herror⟩ | ⟨found, hchecked, houtcome⟩
  · cases (Prod.mk.inj (h.symm.trans herror)).1
  · obtain ⟨hafter, hplainAfter, hdirectory, hsame, hagain⟩ := rebuild_again hopened hplainOpened
      hplace hnames (hchecked.descends hopened hpackage) (houtcome.symm.trans h)
    have hfound : found.output = .ofNames place := by
      obtain ⟨place', hplace', -, haims, -⟩ := canonicalLenient_eq_ok hopened hchecked.output
      rw [hplace] at haims
      rw [hplace', hplainOpened.eq_of_aims hnames haims]
    have hagree := hchecked.agreeBelow hopened hplainOpened hroots hnames hfound hafter hplainAfter
      hsame
    have hchecked' := hchecked.of_agreeBelow hagree (by
      rw [hplace, hfound]
      exact canonicalLenient_ofNames hafter (Entry.stands_of_directory hdirectory))
    obtain ⟨hopenedAfter, hrootSet⟩ := outcome_rootSet_of_agreeBelow hagree hchecked'.roots
    have hperform : outcome (c.run g) after =
        outcome (c.convert g found.roots (c.inputs after found.roots none)) after := by
      have hstart : outcome c.rootSet after = (.ok found.roots, c.opened after) := by
        rw [hopenedAfter, hrootSet]
      have hconvert := c.outcome_perform_of_rootSet g none hstart
      rwa [hopenedAfter] at hconvert
    rw [hperform, hchecked'.outcome_convert, hagain]

/-- A site with nothing but a document and a part, which refer to one another. -/
private def freshSite : FileSystem where
  top := .directory [("docs", .directory [
    ("index.md", .file (.text "# Hi\n\nSee [here](parts/guide.md#a).\n\n![](parts/guide.md)")),
    ("parts", .directory [
      ("guide.md", .file (.text "Back [home](../index.md), or [away](lost.md)."))])])]

private def freshConversion : Conversion where
  roots := [⟨"/docs"⟩]
  generatedDirectory := some ⟨"/generated"⟩
  outputDirectory := ⟨"/build/out"⟩
  exclude := ["parts"]

/-- The directory for generated documents and the output directory are made in the first run. The
page embeds the part, and the reference that is lost is told of as one of the part. -/
theorem run_again_of_fresh :
    let summary : Summary :=
      { files := [⟨⟨"/docs/index.md"⟩, ⟨"/build/out/pages/Index.kt"⟩⟩]
        warnings := ["Unresolved markdown reference 'lost.md' in parts/guide.md"] }
    let after := (outcome (freshConversion.run .commonMark) freshSite).2
    freshSite.isProper = true ∧ freshSite.LinkFree [] ∧
      (∀ root ∈ freshConversion.rootPaths, root.IsCanonical) ∧
      freshConversion.outputDirectory.IsCanonical ∧
      '/' ∉ freshConversion.pagesPackage.toList ∧
      outcome (freshConversion.run .commonMark) freshSite = (.ok summary, after) ∧
      outcome (freshConversion.run .commonMark) after = (.ok summary, after) := by
  intro summary after
  have hproper : freshSite.isProper = true := by decide +kernel
  have hname : ∀ name ∈ ["docs", "generated", "build", "out"], Path.IsName name := by
    simp only [Path.IsName]
    decide +kernel
  have hplain : freshSite.LinkFree [] := linkFree_of_isPlain hproper (by decide +kernel)
  have hroots : ∀ root ∈ freshConversion.rootPaths, root.IsCanonical := by
    simp only [rootPaths, freshConversion, Option.toList_some, List.singleton_append,
      List.forall_mem_cons]
    exact ⟨⟨["docs"], by decide +kernel, by simp [hname]⟩,
      ⟨["generated"], by decide +kernel, by simp [hname]⟩, by simp⟩
  have houtput : freshConversion.outputDirectory.IsCanonical :=
    ⟨["build", "out"], by decide +kernel, by simp [hname]⟩
  have hpackage : '/' ∉ freshConversion.pagesPackage.toList :=
    Site.slash_notMem_of_isQualifiedName (by decide +kernel)
  have hrun : outcome (freshConversion.run .commonMark) freshSite = (.ok summary, after) :=
    Prod.ext (by decide +kernel) rfl
  exact ⟨hproper, hplain, hroots, houtput, hpackage, hrun,
    run_again hproper hplain hroots houtput hpackage hrun⟩

end Conversion

end MarkdownPages
