import MarkdownPages.Proofs.Conversion.InputOrder
import MarkdownPages.Proofs.Sources.Discovery

/-!
# The documents that are discovered

The documents of a site are the files below the roots to which the ways down from the roots lead,
some of them over a link at the end. They are found under their canonical paths, each of them once,
however many ways there are, and however the roots lie in each other. What is found is refused as
the input of a conversion only if a name on the way from the root has no text, but then it is: it
counts as outside of all roots, although it was found below one.

## Main definitions

* `IsDiscovered` — the documents that a search has to find

## Main results

* `mem_discover` — the documents that are found are those that a search has to find
* `discover_spec` — they are found once, in ascending order, and which of them have a plan
* `plan_discover_of_latin1Name` — a document that is found and then refused
-/

namespace MarkdownPages

/-- A way down from a root leads to a file with the canonical path, which is below some root. -/
def IsDiscovered (fs : FileSystem) (roots : Roots) (exclude : List String) (p : Path) : Prop :=
  ∃ root ∈ roots.paths, ∃ names, Discovery.LeadsDown fs exclude root names ∧
    Roots.LeadsToFile fs (names.foldl Path.child root) p ∧ roots.Holds p

section Discover

variable {fs : FileSystem} (hfs : fs.isProper = true) {roots : Roots}
  (hroots : ∀ root ∈ roots.paths, root.IsCanonical) {exclude : List String} {p : Path}

include hfs hroots

/-- What is found below the roots and settled are the documents that a search has to find. -/
private theorem exists_settled :
    (∃ file ∈ roots.paths.flatMap fun root =>
      (Discovery.inRoot fs (Discovery.patterns exclude) root).filterMap
        (Discovery.settle? fs roots), file.path = p) ↔ IsDiscovered fs roots exclude p := by
  have habsolute : ∀ root ∈ roots.paths, ∀ names : List RawText,
      (names.foldl Path.child root).isAbsolute = true := by
    intro root hroot names
    obtain ⟨base, rfl, -⟩ := hroots root hroot
    exact Path.isAbsolute_foldl_child (Path.isAbsolute_ofNames base) names
  constructor
  · rintro ⟨file, hfile, rfl⟩
    obtain ⟨root, hroot, hbelow⟩ := List.mem_flatMap.mp hfile
    obtain ⟨found, hfound, hsettled⟩ := List.mem_filterMap.mp hbelow
    obtain ⟨names, hdown, rfl⟩ := (Discovery.mem_inRoot hfs).mp hfound
    obtain ⟨canonical, hresolve, rfl⟩ := Option.map_eq_some_iff.mp hsettled
    exact ⟨root, hroot, names, hdown,
      (Roots.resolve?_of_isAbsolute (habsolute root hroot names)).mp hresolve⟩
  · rintro ⟨root, hroot, names, hdown, hleads, hholds⟩
    have hfound := (Discovery.mem_inRoot hfs).mpr ⟨names, hdown, rfl⟩
    have hresolve := (Roots.resolve?_of_isAbsolute (habsolute root hroot names)).mpr
      ⟨hleads, hholds⟩
    exact ⟨_, List.mem_flatMap.mpr ⟨root, hroot, List.mem_filterMap.mpr ⟨_, hfound,
      Option.map_eq_some_iff.mpr ⟨p, hresolve, rfl⟩⟩⟩, rfl⟩

omit hroots in
/-- A document that a search has to find has a canonical path below a root. -/
theorem IsDiscovered.canonicalPath (h : IsDiscovered fs roots exclude p) :
    p.IsCanonical ∧ fs.canonicalPath p = .ok p ∧ roots.Holds p := by
  obtain ⟨root, -, names, -, hleads, hholds⟩ := h
  obtain ⟨hcanonical, hsame⟩ := FileSystem.canonical_of_canonicalPath hfs hleads.canonicalPath
  exact ⟨hcanonical, hsame, hholds⟩

/-- **Soundness and completeness.** The documents that are found are those that a search has to
find. -/
theorem mem_discover : p ∈ (discover fs roots exclude).map SourceFile.path ↔
    IsDiscovered fs roots exclude p := by
  rw [← exists_settled hfs hroots, List.mem_map, discover]
  constructor
  · rintro ⟨file, hfile, hp⟩
    exact ⟨file, Discovery.mem_of_mem_ascending hfile, hp⟩
  · rintro ⟨file, hfile, rfl⟩
    -- of the ways to one document one stays
    obtain ⟨kept, hkept, hsame⟩ := Discovery.exists_mem_ascending SourceFile.path hfile
    have hcanonical := ((exists_settled hfs hroots).mp ⟨file, hfile, rfl⟩).canonicalPath hfs
    have hcanonical' := ((exists_settled hfs hroots).mp
      ⟨kept, Discovery.mem_of_mem_ascending hkept, rfl⟩).canonicalPath hfs
    exact ⟨kept, hkept, hcanonical'.1.eq_of_same hcanonical.1 hsame⟩

/-- **Discovery.** The documents are found in ascending order of their canonical paths, each of them
once. They are those that a search has to find. Each of them has its own canonical path, and a path
from the roots if the names on the way there have texts. If that is so for all of them, they have a
plan with a page for each, and otherwise none. -/
theorem discover_spec (basePackage : String) :
    let files := discover fs roots exclude
    (files.Pairwise fun file later => file.path.compare later.path = .lt) ∧
      (∀ p, p ∈ files.map SourceFile.path ↔ IsDiscovered fs roots exclude p) ∧
      (∀ file ∈ files, fs.canonicalPath file.path = .ok file.path ∧
        ((roots.relativePath? file.path).isSome = true ↔ roots.HasText file.path)) ∧
      ((∃ pages, plan fs roots basePackage (files.map SourceFile.path) = .ok pages ∧
          pages.map PlannedPage.path = files.map SourceFile.path) ↔
        ∀ file ∈ files, roots.HasText file.path) := by
  intro files
  have hascending : files.Pairwise fun file later => file.path.compare later.path = .lt :=
    Discovery.pairwise_ascending SourceFile.path _
  have hfound : ∀ p ∈ files.map SourceFile.path,
      p.IsCanonical ∧ fs.canonicalPath p = .ok p ∧ roots.Holds p :=
    fun p hp => ((mem_discover hfs hroots).mp hp).canonicalPath hfs
  have hplan := exists_plan_iff hfs hroots basePackage fun p hp => ⟨p, (hfound p hp).2⟩
  have htext : HaveText fs roots (files.map SourceFile.path) ↔
      ∀ file ∈ files, roots.HasText file.path := by
    rw [HaveText, List.forall_mem_map]
    refine forall₂_congr fun file hfile => ?_
    have hsame := (hfound file.path (List.mem_map_of_mem hfile)).2.1
    exact ⟨fun h => h _ hsame, fun h p hp => Except.ok.inj (hsame.symm.trans hp) ▸ h⟩
  refine ⟨hascending, fun p => mem_discover hfs hroots, fun file hfile => ?_, ?_⟩
  · obtain ⟨hcanonical, hsame, hholds⟩ := hfound file.path (List.mem_map_of_mem hfile)
    exact ⟨hsame, by rw [Roots.isSome_relativePath?_iff hroots hcanonical, and_iff_right hholds]⟩
  · rw [← htext, ← hplan]
    refine ⟨fun ⟨pages, hpages, _⟩ => ⟨pages, hpages⟩, fun ⟨pages, hpages⟩ => ⟨pages, hpages, ?_⟩⟩
    have hplanned := planned_of_plan hfs hpages
    refine Discovery.eq_of_ascending id (List.pairwise_map.mpr hplanned.ascending)
      (List.pairwise_map.mpr hascending) fun p => ?_
    rw [hplanned.sources]
    constructor
    · rintro ⟨input, hinput, hp⟩
      rwa [← Except.ok.inj ((hfound input hinput).2.1.symm.trans hp)]
    · exact fun hp => ⟨p, hp, (hfound p hp).2.1⟩

end Discover

/-- A site with a hidden directory, an excluded one, and links to documents inside and outside. -/
private def nestedSite : FileSystem where
  top := .directory [
    ("docs", .directory [
      (".git", .directory [("head.md", .file (.text ""))]),
      ("alias.md", .link ⟨"guide/intro.md"⟩),
      ("drafts", .directory [("later.md", .file (.text ""))]),
      ("escape.md", .link ⟨"../secret.md"⟩),
      ("guide", .directory [("intro.md", .file (.text "")), ("intro.txt", .file (.text ""))]),
      ("index.md", .file (.text "")),
      ("more", .link ⟨"guide"⟩)]),
    ("secret.md", .file (.text ""))]

/-- A root in another one, an exclusion, and one that is no pattern. -/
theorem discover_spec_of_nested :
    let roots : Roots := ⟨[⟨"/docs/guide"⟩, ⟨"/docs"⟩]⟩
    let files := discover nestedSite roots ["draft*", "[g"]
    nestedSite.isProper = true ∧ (∀ root ∈ roots.paths, root.IsCanonical) ∧
      files = [⟨⟨"/docs/guide/intro.md"⟩, "intro.md"⟩, ⟨⟨"/docs/index.md"⟩, "index.md"⟩] ∧
      ∀ p, p ∈ files.map SourceFile.path ↔ IsDiscovered nestedSite roots ["draft*", "[g"] p := by
  intro roots files
  have hproper : nestedSite.isProper = true := by decide +kernel
  have hname : Path.IsName "docs" ∧ Path.IsName "guide" := by
    simp only [Path.IsName]
    decide +kernel
  have hroots : ∀ root ∈ roots.paths, root.IsCanonical := by
    simp only [roots, List.forall_mem_cons]
    exact ⟨⟨["docs", "guide"], by decide +kernel, by simpa using hname⟩,
      ⟨["docs"], by decide +kernel, by simpa using hname.1⟩, by simp⟩
  have hfiles : files =
      [⟨⟨"/docs/guide/intro.md"⟩, "intro.md"⟩, ⟨⟨"/docs/index.md"⟩, "index.md"⟩] := by
    -- the ways down are in order already
    have hfound : (roots.paths.flatMap fun root =>
        (Discovery.inRoot nestedSite (Discovery.patterns ["draft*", "[g"]) root).filterMap
          (Discovery.settle? nestedSite roots)).Pairwise
        fun file later => file.path.le later.path = true := by decide +kernel
    change Discovery.dropRepeated _ (List.mergeSort _ _) = _
    rw [List.mergeSort_of_pairwise hfound]
    decide +kernel
  exact ⟨hproper, hroots, hfiles, (discover_spec hproper hroots "").2.1⟩

/-- A site with a document whose name has no text. -/
private def refusedSite : FileSystem where
  top := .directory [("docs", .directory [(RawText.latin1Name, .file (.text "Hi"))])]

/-- A document whose name has no text is found below a root, and then refused as if it were outside
of all roots. -/
theorem plan_discover_of_latin1Name :
    let roots : Roots := ⟨[⟨"/docs"⟩]⟩
    let p := Path.ofNames ["docs", RawText.latin1Name]
    let inputs := (discover refusedSite roots []).map SourceFile.path
    refusedSite.isProper = true ∧ Roots.ofPaths refusedSite [⟨"docs"⟩] = .ok roots ∧
      p ∈ inputs ∧ roots.Holds p ∧
      plan refusedSite roots "pages" inputs = .error (.input p (.outsideRoots p)) := by
  intro roots p inputs
  have hinputs : inputs = [p] := by
    have hfound : (roots.paths.flatMap fun root =>
        (Discovery.inRoot refusedSite (Discovery.patterns []) root).filterMap
          (Discovery.settle? refusedSite roots)).Pairwise
        fun file later => file.path.le later.path = true := by decide +kernel
    change (Discovery.dropRepeated _ (List.mergeSort _ _)).map _ = _
    rw [List.mergeSort_of_pairwise hfound]
    decide +kernel
  have hplan : plan refusedSite roots "pages" [p] = .error (.input p (.outsideRoots p)) := by
    decide +kernel
  rw [hinputs]
  exact ⟨by decide +kernel, by decide +kernel, List.mem_singleton_self p,
    Roots.contains_iff.mp (by decide +kernel), hplan⟩

end MarkdownPages
