import MarkdownPages.Markup.Parse
import MarkdownPages.Proofs.Conversion.Collision
import MarkdownPages.Proofs.Sources.History

/-!
# The order of the inputs

The inputs of a conversion are paths in any order, several of which may lead to one document. The
page of an input depends on its canonical path only, and the plan holds the pages in ascending order
of their canonical paths, each of them once. So a plan depends on the set of canonical paths only,
and so does all that comes after it, since nothing but the plan is looked at from then on.

The page of a document is placed by its relative path, which is a text. A document without one has
no place in a plan: a name on the way from the root has no text. The conversion is given up before
anything is written, but what it tells is the path of the input, so inputs that lead to one such
document are not refused alike.

## Main definitions

* `LeadAlike` — two lists of inputs that lead to the same documents below the roots
* `HaveText` — inputs that lead to documents with relative paths

## Main results

* `exists_plan_iff` — which inputs below the roots have a plan
* `plan_eq_of_leadAlike` — inputs that lead to the same documents have the same plan
* `Conversion.runFiles_eq_of_leadAlike` — and they are converted to the same end
* `Conversion.runFiles_ne_of_latin1Name` — two inputs that are refused in different ways
-/

namespace MarkdownPages

/-- Two lists of inputs lead to the same documents, all of which are below the roots. -/
structure LeadAlike (fs : FileSystem) (roots : Roots) (files others : List Path) : Prop where
  below : ∀ file ∈ files ++ others, ∃ p, fs.canonicalPath file = .ok p ∧ roots.Holds p
  same : ∀ p, (∃ file ∈ files, fs.canonicalPath file = .ok p) ↔
    ∃ file ∈ others, fs.canonicalPath file = .ok p

/-- Inputs lead to documents such that the names on the way there from a root have texts. -/
def HaveText (fs : FileSystem) (roots : Roots) (files : List Path) : Prop :=
  ∀ file ∈ files, ∀ p, fs.canonicalPath file = .ok p → roots.HasText p

theorem LeadAlike.haveText_iff {fs : FileSystem} {roots : Roots} {files others : List Path}
    (h : LeadAlike fs roots files others) :
    HaveText fs roots files ↔ HaveText fs roots others := by
  have hdocuments : ∀ inputs, HaveText fs roots inputs ↔
      ∀ p, (∃ input ∈ inputs, fs.canonicalPath input = .ok p) → roots.HasText p := fun inputs =>
    ⟨fun htext p ⟨input, hinput, hp⟩ => htext input hinput p hp,
      fun htext input hinput p hp => htext p ⟨input, hinput, hp⟩⟩
  simp only [hdocuments, h.same]

/-! ### Plans -/

section Plan

variable {fs : FileSystem} {roots : Roots} {basePackage : String} {inputs : List Path}
  {pages : List PlannedPage} (hfs : fs.isProper = true)

include hfs

/-- The pages of a plan are those of its inputs. -/
theorem mem_plan (h : plan fs roots basePackage inputs = .ok pages) {page : PlannedPage} :
    page ∈ pages ↔ ∃ input ∈ inputs, planPage fs roots basePackage input = .ok page := by
  refine ⟨exists_input_of_mem_plan h, ?_⟩
  rintro ⟨input, hinput, hplan⟩
  obtain ⟨hpath, hrelative, hplaced⟩ := planPage_eq_ok_iff.mp hplan
  -- one page with that path is kept, and there is only one such page
  obtain ⟨kept, hkept, heq⟩ := List.mem_map.mp
    (((planned_of_plan hfs h).sources page.path).mpr ⟨input, hinput, hpath⟩)
  obtain ⟨other, -, hother⟩ := exists_input_of_mem_plan h hkept
  obtain ⟨-, hrelative', hplaced'⟩ := planPage_eq_ok_iff.mp hother
  rw [heq, hrelative] at hrelative'
  rw [← Option.some.inj hrelative', ← hplaced] at hplaced'
  obtain ⟨⟨path, relativePath⟩, placement⟩ := page
  obtain ⟨⟨path', relativePath'⟩, placement'⟩ := kept
  cases heq
  cases Option.some.inj hrelative'
  cases hplaced'
  exact hkept

/-- Inputs that lead below the roots have a plan if the names on the way there have texts, and then
only. -/
theorem exists_plan_iff (hroots : ∀ root ∈ roots.paths, root.IsCanonical) (basePackage : String)
    (hbelow : ∀ input ∈ inputs, ∃ p, fs.canonicalPath input = .ok p ∧ roots.Holds p) :
    (∃ pages, plan fs roots basePackage inputs = .ok pages) ↔ HaveText fs roots inputs := by
  constructor
  · rintro ⟨pages, hpages⟩ input hinput p hp
    obtain ⟨all, hall, -⟩ := plan_eq_ok hpages
    obtain ⟨page, -, hpage⟩ := (mapM_eq_ok hall).2 input hinput
    obtain ⟨hpath, hrelative, -⟩ := planPage_eq_ok_iff.mp hpage
    obtain rfl := Except.ok.inj (hp.symm.trans hpath)
    have hcanonical := (FileSystem.canonical_of_canonicalPath hfs hp).1
    exact ((Roots.isSome_relativePath?_iff hroots hcanonical).mp (by rw [hrelative]; rfl)).2
  · intro htext
    have hall : ∃ all, inputs.mapM (planPage fs roots basePackage) = .ok all := by
      induction inputs with
      | nil => exact ⟨[], rfl⟩
      | cons input rest ih =>
        obtain ⟨⟨p, hp, hholds⟩, hrest⟩ := List.forall_mem_cons.mp hbelow
        obtain ⟨hfirst, htextRest⟩ := List.forall_mem_cons.mp htext
        have hcanonical := (FileSystem.canonical_of_canonicalPath hfs hp).1
        obtain ⟨relativePath, hrelative⟩ := Option.isSome_iff_exists.mp <|
          (Roots.isSome_relativePath?_iff hroots hcanonical).mpr ⟨hholds, hfirst p hp⟩
        obtain ⟨all, hall⟩ := ih hrest htextRest
        have hpage : planPage fs roots basePackage input =
            .ok ⟨⟨p, relativePath⟩, Site.place relativePath basePackage⟩ :=
          planPage_eq_ok_iff.mpr ⟨hp, hrelative, rfl⟩
        exact ⟨_ :: all, by rw [List.mapM_cons, hpage, hall]; rfl⟩
    obtain ⟨all, hall⟩ := hall
    exact ⟨_, by rw [plan, hall]; rfl⟩

/-- **Plans.** Inputs that lead to the same documents have the same plan, or both have none. -/
theorem plan_eq_of_leadAlike (hroots : ∀ root ∈ roots.paths, root.IsCanonical)
    {files others : List Path} (halike : LeadAlike fs roots files others) (basePackage : String) :
    (HaveText fs roots files ∧ ∃ pages, plan fs roots basePackage files = .ok pages ∧
      plan fs roots basePackage others = .ok pages) ∨
    (¬ HaveText fs roots files ∧ (¬ ∃ pages, plan fs roots basePackage files = .ok pages) ∧
      ¬ ∃ pages, plan fs roots basePackage others = .ok pages) := by
  obtain ⟨hfiles, hothers⟩ := List.forall_mem_append.mp halike.below
  have hplanFiles := exists_plan_iff hfs hroots basePackage hfiles
  have hplanOthers := exists_plan_iff hfs hroots basePackage hothers
  rw [hplanFiles, hplanOthers, ← halike.haveText_iff]
  by_cases htext : HaveText fs roots files
  · obtain ⟨pages, hpages⟩ := hplanFiles.mpr htext
    obtain ⟨pages', hpages'⟩ := hplanOthers.mpr (halike.haveText_iff.mp htext)
    have heq : pages = pages' := by
      refine Discovery.eq_of_ascending _ (planned_of_plan hfs hpages).ascending
        (planned_of_plan hfs hpages').ascending fun page => ?_
      rw [mem_plan hfs hpages, mem_plan hfs hpages']
      simp only [planPage_eq_ok_iff, ← and_assoc, exists_and_right, halike.same]
    exact .inl ⟨htext, pages, hpages, heq ▸ hpages'⟩
  · exact .inr ⟨htext, htext, htext⟩

end Plan

/-! ### Conversions -/

namespace LeadAlike

variable {fs after : FileSystem} {roots : Roots} {files others : List Path}

/-- Inputs still lead to the same documents when directories are made. -/
theorem of_grows {paths : List Path} (h : LeadAlike fs roots files others)
    (hgrows : fs.Grows paths after) : LeadAlike after roots files others := by
  have hmono : ∀ {file p}, fs.canonicalPath file = .ok p → after.canonicalPath file = .ok p := by
    intro file p hp
    obtain ⟨place, hplace, rfl⟩ := FileSystem.canonicalPath_eq_ok.mp hp
    exact FileSystem.canonicalPath_eq_ok.mpr ⟨place, hgrows.canonical_mono hplace, rfl⟩
  have hback : ∀ file ∈ files ++ others, ∀ p, after.canonicalPath file = .ok p →
      fs.canonicalPath file = .ok p := by
    intro file hfile p hp
    obtain ⟨p', hp', -⟩ := h.below file hfile
    rwa [← Except.ok.inj ((hmono hp').symm.trans hp)]
  obtain ⟨hfiles, hothers⟩ := List.forall_mem_append.mp hback
  refine ⟨fun file hfile => ?_, fun p => ⟨?_, ?_⟩⟩
  · obtain ⟨p, hp, hholds⟩ := h.below file hfile
    exact ⟨p, hmono hp, hholds⟩
  · rintro ⟨file, hfile, hp⟩
    obtain ⟨other, hother, hp'⟩ := (h.same p).mp ⟨file, hfile, hfiles file hfile p hp⟩
    exact ⟨other, hother, hmono hp'⟩
  · rintro ⟨other, hother, hp⟩
    obtain ⟨file, hfile, hp'⟩ := (h.same p).mpr ⟨other, hother, hothers other hother p hp⟩
    exact ⟨file, hfile, hmono hp'⟩

end LeadAlike

namespace Conversion

variable (c : Conversion) {g : Grammar}

/-- All that comes after the plan depends on the plan only. -/
private theorem outcome_convert_congr {fs : FileSystem} {roots : Roots} {files others : List Path}
    (h : plan fs roots c.pagesPackage files = plan fs roots c.pagesPackage others) :
    outcome (c.convert g roots files) fs = outcome (c.convert g roots others) fs := by
  rw [convert, convert, outcome_bind, outcome_bind, outcome_conversionAsk, outcome_conversionAsk, h]

/-- Without a plan nothing is changed. -/
private theorem outcome_convert_of_unplanned {fs : FileSystem} {roots : Roots} {files : List Path}
    (h : ¬ ∃ pages, plan fs roots c.pagesPackage files = .ok pages) :
    (outcome (c.convert g roots files) fs).2 = fs := by
  rw [convert, outcome_bind, outcome_conversionAsk]
  cases hplan : plan fs roots c.pagesPackage files with
  | error error => rfl
  | ok pages => exact absurd ⟨pages, hplan⟩ h

/-- Inputs that lead to the same documents are converted to the same end, if they have a plan, and
to the same files in any case. -/
private theorem outcome_convert_of_leadAlike {fs : FileSystem} (hfs : fs.isProper = true)
    {roots : Roots} (hroots : ∀ root ∈ roots.paths, root.IsCanonical) {files others : List Path}
    (halike : LeadAlike fs roots files others) :
    (HaveText fs roots files →
        outcome (c.convert g roots files) fs = outcome (c.convert g roots others) fs) ∧
      (outcome (c.convert g roots files) fs).2 = (outcome (c.convert g roots others) fs).2 := by
  rcases plan_eq_of_leadAlike hfs hroots halike c.pagesPackage with
    ⟨-, pages, hfiles, hothers⟩ | ⟨hnone, hfiles, hothers⟩
  · have hsame := c.outcome_convert_congr (g := g) (hfiles.trans hothers.symm)
    exact ⟨fun _ => hsame, congrArg Prod.snd hsame⟩
  · rw [c.outcome_convert_of_unplanned hfiles, c.outcome_convert_of_unplanned hothers]
    exact ⟨fun htext => absurd htext hnone, rfl⟩

/-- **The order of the inputs.** Inputs that lead to the same documents below the roots have the
same plan, in which every document has one page, in ascending order, if the names on the way there
have texts, and then only. Then they are converted with the same result, to the same files. Of two
documents in each other's way the one with the smaller path is told of first, and even where there
is no plan the files stay the same. It is all the same whether the inputs lead to the documents from
the start or only once the directory for generated documents is made. -/
theorem runFiles_eq_of_leadAlike {fs : FileSystem} (hfs : fs.isProper = true)
    {files others : List Path}
    (halike : ∀ roots, Roots.ofPaths (c.opened fs) c.rootPaths = .ok roots →
      LeadAlike fs roots files others ∨ LeadAlike (c.opened fs) roots files others) :
    (∀ roots basePackage, (∀ root ∈ roots.paths, root.IsCanonical) →
      LeadAlike fs roots files others → (HaveText fs roots files ↔ ∃ pages,
        plan fs roots basePackage files = .ok pages ∧
        plan fs roots basePackage others = .ok pages ∧
        (pages.Pairwise fun page later => page.path.compare later.path = .lt) ∧
        ∀ p, p ∈ pages.map PlannedPage.path ↔
          ∃ file ∈ files, fs.canonicalPath file = .ok p)) ∧
      ((∀ roots, Roots.ofPaths (c.opened fs) c.rootPaths = .ok roots →
          HaveText (c.opened fs) roots files) →
        outcome (c.runFiles g files) fs = outcome (c.runFiles g others) fs) ∧
      (outcome (c.runFiles g files) fs).2 = (outcome (c.runFiles g others) fs).2 ∧
      ∀ error first second after,
        outcome (c.runFiles g files) fs = (.error error, after) →
        error.collision? = some (first, second) → first.compare second = .lt := by
  refine ⟨fun roots basePackage hroots hsame => ?_, ?_⟩
  · constructor
    · intro htext
      rcases plan_eq_of_leadAlike hfs hroots hsame basePackage with
        ⟨-, pages, hfiles, hothers⟩ | ⟨hnone, -⟩
      · have hplanned := planned_of_plan hfs hfiles
        exact ⟨pages, hfiles, hothers, hplanned.ascending, hplanned.sources⟩
      · exact absurd htext hnone
    · rintro ⟨pages, hfiles, -⟩
      exact (exists_plan_iff hfs hroots basePackage
        (List.forall_mem_append.mp hsame.below).1).mp ⟨pages, hfiles⟩
  rw [← and_assoc]
  refine ⟨?_, fun error first second after h hcollision => c.lt_of_collision hcollision hfs h⟩
  have hgrows := c.grows_opened hfs
  have hopened := hgrows.proper hfs
  rw [runFiles, runFiles]
  rcases c.outcome_rootSet fs with ⟨error, herror⟩ | ⟨roots, hok, hroots⟩
  · rw [outcome_bind_of_error herror, outcome_bind_of_error herror]
    exact ⟨fun _ => rfl, rfl⟩
  · rw [outcome_bind_of_ok hok, outcome_bind_of_ok hok]
    have hsame : LeadAlike (c.opened fs) roots files others :=
      (halike roots hroots).elim (·.of_grows hgrows) id
    obtain ⟨hequal, hfiles⟩ := c.outcome_convert_of_leadAlike hopened
      (Roots.isCanonical_of_ofPaths hopened hroots) hsame
    exact ⟨fun htext => hequal (htext roots hroots), hfiles⟩

/-- A site with a document that has two names. -/
private def aliasSite : FileSystem where
  top := .directory [("docs", .directory [
    ("guide.md", .file (.text "")), ("index.md", .file (.text "")),
    ("same.md", .link ⟨"guide.md"⟩)])]

private def aliasConversion : Conversion where
  roots := [⟨"docs"⟩]
  generatedDirectory := some ⟨"generated"⟩
  outputDirectory := ⟨"out"⟩

private def aliasFiles : List Path := [⟨"docs/index.md"⟩, ⟨"docs/same.md"⟩, ⟨"docs/guide.md"⟩]

private def aliasOthers : List Path := [⟨"docs/../docs/guide.md"⟩, ⟨"/docs/index.md"⟩]

/-- What the files of the site lead to, from the start and later. -/
private theorem canonicalPath_alias {fs : FileSystem}
    (hfs : fs = aliasSite ∨ fs = aliasConversion.opened aliasSite) :
    aliasFiles.map fs.canonicalPath =
        [.ok ⟨"/docs/index.md"⟩, .ok ⟨"/docs/guide.md"⟩, .ok ⟨"/docs/guide.md"⟩] ∧
      aliasOthers.map fs.canonicalPath = [.ok ⟨"/docs/guide.md"⟩, .ok ⟨"/docs/index.md"⟩] := by
  rcases hfs with rfl | rfl <;> decide +kernel

private theorem leadAlike_alias {roots : Roots}
    (h : Roots.ofPaths (aliasConversion.opened aliasSite) aliasConversion.rootPaths = .ok roots) :
    LeadAlike aliasSite roots aliasFiles aliasOthers := by
  have hroots : Roots.ofPaths (aliasConversion.opened aliasSite) aliasConversion.rootPaths =
      .ok ⟨[⟨"/docs"⟩, ⟨"/generated"⟩]⟩ := by decide +kernel
  obtain rfl := Except.ok.inj (hroots.symm.trans h)
  obtain ⟨hfiles, hothers⟩ := canonicalPath_alias (.inl rfl)
  have hbelow : ∀ p : Path, p = ⟨"/docs/index.md"⟩ ∨ p = ⟨"/docs/guide.md"⟩ →
      Roots.Holds ⟨[⟨"/docs"⟩, ⟨"/generated"⟩]⟩ p := by
    rintro p (rfl | rfl) <;> exact Roots.contains_iff.mp (by decide +kernel)
  refine ⟨fun file hfile => ?_, fun p => ?_⟩
  · have hmem : aliasSite.canonicalPath file ∈
        (aliasFiles ++ aliasOthers).map aliasSite.canonicalPath := List.mem_map_of_mem hfile
    rw [List.map_append, hfiles, hothers] at hmem
    obtain ⟨p, hp, hcases⟩ : ∃ p, aliasSite.canonicalPath file = .ok p ∧
        (p = ⟨"/docs/index.md"⟩ ∨ p = ⟨"/docs/guide.md"⟩) := by
      simp only [List.cons_append, List.nil_append, List.mem_cons, List.not_mem_nil] at hmem
      grind
    exact ⟨p, hp, hbelow p hcases⟩
  · rw [← List.mem_map, ← List.mem_map, hfiles, hothers]
    simp only [List.mem_cons, List.not_mem_nil]
    grind

private theorem haveText_alias {roots : Roots} :
    HaveText (aliasConversion.opened aliasSite) roots aliasFiles := by
  have hnames : ∀ name ∈ ["docs", "index.md", "guide.md"].map RawText.ofText, Path.IsName name := by
    simp only [Path.IsName]
    decide +kernel
  have hbelow : ∀ names : List String, names ⊆ ["docs", "index.md", "guide.md"] →
      roots.HasText (.ofNames (names.map .ofText)) := fun names hsub =>
    Roots.hasText_ofNames fun name hmem => hnames name (List.map_subset _ hsub hmem)
  have hindex : (⟨"/docs/index.md"⟩ : Path) = .ofNames (["docs", "index.md"].map .ofText) := by
    decide +kernel
  have hguide : (⟨"/docs/guide.md"⟩ : Path) = .ofNames (["docs", "guide.md"].map .ofText) := by
    decide +kernel
  intro file hfile p hp
  have hmem := List.mem_map_of_mem
    (f := (aliasConversion.opened aliasSite).canonicalPath) hfile
  rw [(canonicalPath_alias (.inr rfl)).1, hp] at hmem
  obtain rfl | rfl : p = ⟨"/docs/index.md"⟩ ∨ p = ⟨"/docs/guide.md"⟩ := by
    simp only [List.mem_cons, List.not_mem_nil] at hmem
    grind
  · exact hindex ▸ hbelow _ (by decide)
  · exact hguide ▸ hbelow _ (by decide)

/-- A document under two names, and the same document and another one in another order. -/
theorem runFiles_eq_of_alias :
    let fs := aliasSite
    let c := aliasConversion
    fs.isProper = true ∧
      (∀ roots, Roots.ofPaths (c.opened fs) c.rootPaths = .ok roots →
        LeadAlike fs roots aliasFiles aliasOthers ∨
          LeadAlike (c.opened fs) roots aliasFiles aliasOthers) ∧
      (∀ roots, Roots.ofPaths (c.opened fs) c.rootPaths = .ok roots →
        HaveText (c.opened fs) roots aliasFiles) ∧
      outcome (c.runFiles .commonMark aliasFiles) fs =
        outcome (c.runFiles .commonMark aliasOthers) fs := by
  have hproper : aliasSite.isProper = true := by decide +kernel
  have halike : ∀ roots,
      Roots.ofPaths (aliasConversion.opened aliasSite) aliasConversion.rootPaths = .ok roots →
        LeadAlike aliasSite roots aliasFiles aliasOthers ∨
          LeadAlike (aliasConversion.opened aliasSite) roots aliasFiles aliasOthers :=
    fun roots h => .inl (leadAlike_alias h)
  exact ⟨hproper, halike, fun _ _ => haveText_alias,
    (aliasConversion.runFiles_eq_of_leadAlike hproper halike).2.1 fun _ _ => haveText_alias⟩

/-- A site with a document whose name has no text, and a link to it. -/
private def latin1Site : FileSystem where
  top := .directory [("docs", .directory [
    ("alias.md", .link ⟨RawText.latin1Name⟩), (RawText.latin1Name, .file (.text ""))])]

private def latin1Conversion : Conversion where
  roots := [⟨"docs"⟩]
  outputDirectory := ⟨"out"⟩

/-- A document whose name has no text is refused under its path and over a link, but the error tells
of the input. -/
theorem runFiles_ne_of_latin1Name :
    let fs := latin1Site
    let c := latin1Conversion
    let roots : Roots := ⟨[⟨"/docs"⟩]⟩
    let file := Path.child ⟨"docs"⟩ RawText.latin1Name
    let link : Path := ⟨"docs/alias.md"⟩
    fs.isProper = true ∧ Roots.ofPaths (c.opened fs) c.rootPaths = .ok roots ∧
      LeadAlike fs roots [file] [link] ∧
      (∃ p, roots.Holds p ∧
        plan fs roots c.pagesPackage [file] = .error (.input file (.outsideRoots p)) ∧
        plan fs roots c.pagesPackage [link] = .error (.input link (.outsideRoots p))) ∧
      outcome (c.runFiles .commonMark [file]) fs ≠ outcome (c.runFiles .commonMark [link]) fs := by
  intro fs c roots file link
  have hfile : fs.canonicalPath file = .ok (.ofNames ["docs", RawText.latin1Name]) := by
    decide +kernel
  have hlink : fs.canonicalPath link = .ok (.ofNames ["docs", RawText.latin1Name]) := by
    decide +kernel
  have hholds : roots.Holds (.ofNames ["docs", RawText.latin1Name]) :=
    Roots.contains_iff.mp (by decide +kernel)
  refine ⟨by decide +kernel, by decide +kernel, ⟨?_, fun p => ?_⟩,
    ⟨_, hholds, by decide +kernel, by decide +kernel⟩, fun hsame => ?_⟩
  · simp [hfile, hlink, hholds]
  · simp [hfile, hlink]
  · exact absurd (congrArg Prod.fst hsame) (by decide +kernel)

end Conversion

end MarkdownPages
