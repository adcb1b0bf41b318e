import MarkdownPages.Conversion.Run
import MarkdownPages.Proofs.Sequences
import MarkdownPages.Proofs.Site.Output
import MarkdownPages.Proofs.Sources.Cache

/-!
# What is planned

A plan has one page for every canonical path to which an input leads, in ascending order. The
documents are read before anything is written, so their trees are those of the file system before.

## Main definitions

* `Planned` — the pages of some inputs

## Main results

* `planned_of_plan` — what a plan holds
* `Conversion.readAll_eq_ok` — the trees of planned pages
-/

namespace MarkdownPages

/-! ### Plans -/

/-- The pages of some inputs. -/
structure Planned (fs : FileSystem) (basePackage : String) (inputs : List Path)
    (pages : List PlannedPage) : Prop where
  ascending : pages.Pairwise fun page later => page.path.compare later.path = .lt
  sources : ∀ p, p ∈ pages.map PlannedPage.path ↔ ∃ input ∈ inputs, fs.canonicalPath input = .ok p
  placed : ∀ page ∈ pages, ∃ relativePath, page.placement = Site.place relativePath basePackage

/-- The page of an input depends on its canonical path only. -/
theorem planPage_eq_ok_iff {fs : FileSystem} {roots : Roots} {basePackage : String} {input : Path}
    {page : PlannedPage} : planPage fs roots basePackage input = .ok page ↔
      fs.canonicalPath input = .ok page.path ∧
      roots.relativePath? page.path = some page.file.relativePath ∧
      page.placement = Site.place page.file.relativePath basePackage := by
  obtain ⟨⟨path, relativePath⟩, placement⟩ := page
  rw [planPage]
  cases hcanonical : fs.canonicalPath input with
  | error fault => simp
  | ok canonical =>
    dsimp only [PlannedPage.path]
    cases hrelative : roots.relativePath? canonical with
    | none =>
      refine ⟨(by cases ·), ?_⟩
      rintro ⟨hpath, hsome, -⟩
      rw [← Except.ok.inj hpath, hrelative] at hsome
      cases hsome
    | some found =>
      constructor
      · intro h
        obtain ⟨hfile, rfl⟩ := PlannedPage.mk.inj (Except.ok.inj h)
        obtain ⟨rfl, rfl⟩ := SourceFile.mk.inj hfile
        exact ⟨rfl, hrelative, rfl⟩
      · rintro ⟨hpath, hsome, rfl⟩
        obtain rfl := Except.ok.inj hpath
        obtain rfl := Option.some.inj (hrelative.symm.trans hsome)
        rfl

/-- A plan holds the pages of all inputs, in order. -/
theorem plan_eq_ok {fs : FileSystem} {roots : Roots} {basePackage : String} {inputs : List Path}
    {pages : List PlannedPage} (h : plan fs roots basePackage inputs = .ok pages) :
    ∃ all, inputs.mapM (planPage fs roots basePackage) = .ok all ∧
      pages = Discovery.ascending PlannedPage.path all := by
  rw [plan] at h
  cases hall : inputs.mapM (planPage fs roots basePackage) with
  | error error =>
    rw [hall] at h
    cases h
  | ok all =>
    rw [hall] at h
    exact ⟨all, rfl, (Except.ok.inj h).symm⟩

/-- Every page of a plan is the page of an input. -/
theorem exists_input_of_mem_plan {fs : FileSystem} {roots : Roots} {basePackage : String}
    {inputs : List Path} {pages : List PlannedPage}
    (h : plan fs roots basePackage inputs = .ok pages) {page : PlannedPage} (hpage : page ∈ pages) :
    ∃ input ∈ inputs, planPage fs roots basePackage input = .ok page := by
  obtain ⟨all, hall, rfl⟩ := plan_eq_ok h
  exact (mapM_eq_ok hall).1 page (Discovery.mem_of_mem_ascending hpage)

/-- **Plans.** Every canonical path to which an input leads has one page, in ascending order. -/
theorem planned_of_plan {fs : FileSystem} (hfs : fs.isProper = true) {roots : Roots}
    {basePackage : String} {inputs : List Path} {pages : List PlannedPage}
    (h : plan fs roots basePackage inputs = .ok pages) : Planned fs basePackage inputs pages := by
  obtain ⟨all, hall, rfl⟩ := plan_eq_ok h
  obtain ⟨hfrom, hinto⟩ := mapM_eq_ok hall
  have hcanonical : ∀ page ∈ all, page.path.IsCanonical := by
    intro page hpage
    obtain ⟨input, -, hinput⟩ := hfrom page hpage
    exact (FileSystem.canonical_of_canonicalPath hfs (planPage_eq_ok_iff.mp hinput).1).1
  refine ⟨Discovery.pairwise_ascending _ all, fun p => ⟨fun hp => ?_, ?_⟩, fun page hpage => ?_⟩
  · obtain ⟨page, hpage, rfl⟩ := List.mem_map.mp hp
    obtain ⟨input, hinput, hplan⟩ := hfrom page (Discovery.mem_of_mem_ascending hpage)
    exact ⟨input, hinput, (planPage_eq_ok_iff.mp hplan).1⟩
  · rintro ⟨input, hinput, hp⟩
    obtain ⟨page, hpage, hplan⟩ := hinto input hinput
    obtain rfl := Except.ok.inj (hp.symm.trans (planPage_eq_ok_iff.mp hplan).1)
    obtain ⟨first, hfirst, hsame⟩ := Discovery.exists_mem_ascending PlannedPage.path hpage
    have heq := (hcanonical first (Discovery.mem_of_mem_ascending hfirst)).eq_of_same
      (hcanonical page hpage) hsame
    exact List.mem_map.mpr ⟨first, hfirst, heq⟩
  · obtain ⟨input, -, hplan⟩ := hfrom page (Discovery.mem_of_mem_ascending hpage)
    exact ⟨page.file.relativePath, (planPage_eq_ok_iff.mp hplan).2.2⟩

theorem Planned.canonicalPath {fs : FileSystem} {basePackage : String} {inputs : List Path}
    {pages : List PlannedPage} (h : Planned fs basePackage inputs pages)
    (hfs : fs.isProper = true) {page : PlannedPage} (hpage : page ∈ pages) :
    page.path.IsCanonical ∧ fs.canonicalPath page.path = .ok page.path := by
  obtain ⟨input, -, hinput⟩ := (h.sources page.path).mp (List.mem_map_of_mem hpage)
  exact FileSystem.canonical_of_canonicalPath hfs hinput

/-! ### Reading -/

namespace Conversion

/-- **Reading.** The trees of planned pages are what the parser makes of their documents, and so is
all that the cache keeps afterwards. -/
theorem readAll_eq_ok {fs : FileSystem} {cache after : Cache} {pages : List PlannedPage}
    {trees : List (PlannedPage × Node)} (hcache : cache.Faithful fs)
    (hpages : ∀ page ∈ pages,
      page.path.IsCanonical ∧ fs.canonicalPath page.path = .ok page.path)
    (h : readAll fs cache pages = .ok (trees, after)) :
    trees.map Prod.fst = pages ∧
      (∀ entry ∈ trees, ∃ text, fs.read entry.1.path = .ok text ∧
        cache.parse text = .ok entry.2) ∧
      after.parse = cache.parse ∧ after.roots = cache.roots ∧ after.Faithful fs := by
  induction pages generalizing cache trees with
  | nil =>
    obtain ⟨rfl, rfl⟩ := Prod.mk.inj (Except.ok.inj h)
    exact ⟨rfl, by simp, rfl, rfl, hcache⟩
  | cons page rest ih =>
    obtain ⟨⟨hcanonical, hself⟩, hrest⟩ := List.forall_mem_cons.mp hpages
    rw [readAll] at h
    rcases cache.get_cases fs page.path with ⟨canonical, hfound, -, hget⟩ | ⟨error, hget⟩
    · obtain rfl := Except.ok.inj (hself.symm.trans hfound)
      obtain ⟨hloads, hkept⟩ := cache.loads_load fs page.path
      rw [hget] at h
      generalize cache.load fs page.path = loaded at h hloads hkept
      obtain ⟨result, middle⟩ := loaded
      cases result with
      | error error => cases h
      | ok document =>
        dsimp only at h hloads hkept
        have hmiddle := hloads.faithful hcanonical hcache
        cases hothers : readAll fs middle rest with
        | error error =>
          rw [hothers] at h
          cases h
        | ok others =>
          rw [hothers] at h
          obtain ⟨others, after'⟩ := others
          obtain ⟨rfl, rfl⟩ := Prod.mk.inj (Except.ok.inj h)
          obtain ⟨hmap, htrees, hparse, hroots, hafter⟩ := ih hmiddle hrest hothers
          refine ⟨congrArg (page :: ·) hmap, List.forall_mem_cons.mpr ⟨?_, ?_⟩,
            hparse.trans hloads.parse, hroots.trans hloads.roots, hafter⟩
          · obtain ⟨key, hsame, hmem⟩ := hkept document rfl
            obtain ⟨hkey, text, hread, hparse⟩ := hmiddle _ hmem
            obtain rfl := hcanonical.eq_of_same hkey hsame
            exact ⟨text, hread, hloads.parse ▸ hparse⟩
          · rwa [hloads.parse] at htrees
    · rw [hget] at h
      cases h

end Conversion

end MarkdownPages
