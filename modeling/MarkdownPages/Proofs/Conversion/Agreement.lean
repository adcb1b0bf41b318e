import MarkdownPages.Proofs.Conversion.Discovered
import MarkdownPages.Proofs.Files.Plain

/-!
# File systems that agree below the roots

Whether anything is wrong with the roots and the inputs of a conversion, which documents there are
and what they hold, all this is found out below the roots. So two file systems without links in
which the same stands below the roots come to the same plan and the same trees, whatever there is
elsewhere.

## Main definitions

* `AgreeBelow` — file systems without links in which the same stands below canonical directories

## Main results

* `AgreeBelow.ofPaths_eq` — they have the same roots
* `AgreeBelow.paths_discover_eq` — they have the same documents
* `AgreeBelow.plan_eq`, `AgreeBelow.readAll_eq` — which have the same plan and the same trees
-/

namespace MarkdownPages

open FileSystem

/-- File systems without links in which the same stands below some directories, which are given by
their canonical paths. -/
structure AgreeBelow (roots : List Path) (fs other : FileSystem) : Prop where
  proper : fs.isProper = true ∧ other.isProper = true
  plain : fs.LinkFree [] ∧ other.LinkFree []
  same : ∀ root ∈ roots, ∃ base, root = .ofNames base ∧
    fs.top.item? base = some .directory ∧
    ∀ rest, other.top.item? (base ++ rest) = fs.top.item? (base ++ rest)

namespace AgreeBelow

variable {fs other : FileSystem} {paths : List Path} {roots : Roots} {exclude : List String}
  {p : Path}

/-- The place of a directory that is given, where the same stands in both file systems. -/
private theorem exists_base (h : AgreeBelow paths fs other) {root : Path} (hroot : root ∈ paths) :
    ∃ base, root = .ofNames base ∧ fs.top.item? base = some .directory ∧
      other.top.item? base = some .directory ∧
      ∀ rest, other.top.item? (base ++ rest) = fs.top.item? (base ++ rest) := by
  obtain ⟨base, hbase, hdirectory, hsame⟩ := h.same root hroot
  have hitem := hsame []
  rw [List.append_nil] at hitem
  exact ⟨base, hbase, hdirectory, hitem.trans hdirectory, hsame⟩

theorem symm (h : AgreeBelow paths fs other) : AgreeBelow paths other fs := by
  refine ⟨h.proper.symm, h.plain.symm, fun root hroot => ?_⟩
  obtain ⟨base, hbase, -, hdirectory, hsame⟩ := h.exists_base hroot
  exact ⟨base, hbase, hdirectory, fun rest => (hsame rest).symm⟩

theorem mono {more : List Path} (h : AgreeBelow more fs other) (hsub : ∀ p ∈ paths, p ∈ more) :
    AgreeBelow paths fs other :=
  ⟨h.proper, h.plain, fun root hroot => h.same root (hsub root hroot)⟩

/-! ### Roots -/

/-- The canonical path of a directory stays as it is. -/
private theorem directory_eq {base : List RawText} (hfs : fs.isProper = true)
    (h : fs.top.item? base = some .directory) :
    Roots.directory fs (.ofNames base) = .ok (.ofNames base) :=
  Roots.directory_eq_ok.mpr
    ⟨base, canonical_ofNames hfs (Entry.stands_of_directory h), h, rfl⟩

theorem ofPaths_eq (h : AgreeBelow paths fs other) :
    Roots.ofPaths other paths = Roots.ofPaths fs paths := by
  have hdirectory : ∀ p ∈ paths, Roots.directory other p = Roots.directory fs p := by
    intro p hp
    obtain ⟨base, rfl, hbase, hbaseOther, -⟩ := h.exists_base hp
    rw [directory_eq h.proper.1 hbase, directory_eq h.proper.2 hbaseOther]
  rw [Roots.ofPaths, Roots.ofPaths]
  generalize ({} : Roots) = start
  clear h
  induction paths generalizing start with
  | nil => rfl
  | cons p rest ih =>
    obtain ⟨hp, hrest⟩ := List.forall_mem_cons.mp hdirectory
    rw [List.foldlM_cons, List.foldlM_cons, hp]
    cases Roots.directory fs p with
    | error error => rfl
    | ok root => exact ih hrest _

/-- The roots are among the paths that lead to them. -/
theorem mem_of_ofPaths (h : AgreeBelow paths fs other)
    (hroots : Roots.ofPaths fs paths = .ok roots) : ∀ root ∈ roots.paths, root ∈ paths := by
  intro root hroot
  obtain ⟨path, hpath, place, hplace, -, rfl⟩ := (Roots.ofPaths_eq_ok hroots).2 root hroot
  obtain ⟨base, rfl, hbase, -⟩ := h.same path hpath
  have hcanonical := canonical_ofNames h.proper.1 (Entry.stands_of_directory hbase)
  rwa [Except.ok.inj (hplace.symm.trans hcanonical)]

/-! ### Documents -/

/-- A canonical path leads to the file at its own place. -/
private theorem leadsToFile_ofNames {names : List RawText} (hplain : fs.LinkFree [])
    (hfs : fs.isProper = true) (hnames : ∀ name ∈ names, Path.IsName name) :
    Roots.LeadsToFile fs (.ofNames names) p ↔
      ∃ content, fs.top.item? names = some (.file content) ∧ p = .ofNames names := by
  simp only [Roots.LeadsToFile, hplain.canonical_ofNames_eq_ok hfs hnames]
  constructor
  · rintro ⟨place, content, ⟨rfl, -⟩, hfile, rfl⟩
    exact ⟨content, hfile, rfl⟩
  · rintro ⟨content, hfile, rfl⟩
    exact ⟨names, content, ⟨rfl, by rw [hfile]; simp⟩, hfile, rfl⟩

/-- A way down in one of the file systems is one in the other, and leads to the same. -/
private theorem leadsDown (h : AgreeBelow paths fs other) {root : Path} (hroot : root ∈ paths)
    {names : List RawText} (hdown : Discovery.LeadsDown fs exclude root names) :
    Discovery.LeadsDown other exclude root names ∧
      ∃ place, names.foldl Path.child root = .ofNames place ∧
        (∀ name ∈ place, Path.IsName name) ∧ other.top.item? place = fs.top.item? place := by
  obtain ⟨base, rfl, hbase, hbaseOther, hsame⟩ := h.exists_base hroot
  obtain ⟨place, item, hplace, hway, hitem, hleaf⟩ := hdown.entry
  have hcanonical := canonical_ofNames h.proper.1 (Entry.stands_of_directory hbase)
  obtain rfl := Except.ok.inj (hcanonical.symm.trans hplace)
  have hnames := isName_of_item? h.proper.1 hitem
  obtain ⟨hbaseNames, hrest⟩ := List.forall_mem_append.mp hnames
  refine ⟨⟨hdown.ne_nil, hdown.visible, hdown.extension, base, item,
    canonical_ofNames h.proper.2 (Entry.stands_of_directory hbaseOther), fun start hpre hne => ?_,
    by rw [hsame, hitem], hleaf⟩, base ++ names, Path.foldl_child_ofNames hbaseNames hrest, hnames,
    hsame names⟩
  rw [hsame, hway start hpre hne]

/-- A document lies where the names say, and it is the same in both file systems. -/
theorem exists_place (h : AgreeBelow roots.paths fs other)
    (hp : IsDiscovered fs roots exclude p) : ∃ place content, p = .ofNames place ∧
      fs.top.item? place = some (.file content) ∧
      other.top.item? place = some (.file content) := by
  obtain ⟨root, hroot, names, hdown, hfile, -⟩ := hp
  obtain ⟨-, place, hplace, hnames, hsame⟩ := h.leadsDown hroot hdown
  rw [hplace, leadsToFile_ofNames h.plain.1 h.proper.1 hnames] at hfile
  obtain ⟨content, hcontent, rfl⟩ := hfile
  exact ⟨place, content, rfl, hcontent, by rw [hsame, hcontent]⟩

/-- What has to be found in one of the file systems has to be found in the other. -/
theorem isDiscovered (h : AgreeBelow roots.paths fs other)
    (hp : IsDiscovered fs roots exclude p) : IsDiscovered other roots exclude p := by
  obtain ⟨root, hroot, names, hdown, hfile, hholds⟩ := hp
  obtain ⟨hother, place, hplace, hnames, hsame⟩ := h.leadsDown hroot hdown
  refine ⟨root, hroot, names, hother, ?_, hholds⟩
  rw [hplace, leadsToFile_ofNames h.plain.1 h.proper.1 hnames] at hfile
  rwa [hplace, leadsToFile_ofNames h.plain.2 h.proper.2 hnames, hsame]

/-- **Documents.** The documents are the same. -/
theorem paths_discover_eq (h : AgreeBelow roots.paths fs other) (exclude : List String) :
    (discover other roots exclude).map SourceFile.path =
      (discover fs roots exclude).map SourceFile.path := by
  have hcanonical : ∀ root ∈ roots.paths, root.IsCanonical := by
    intro root hroot
    obtain ⟨base, rfl, hbase, -⟩ := h.same root hroot
    exact ⟨base, rfl, isName_of_item? h.proper.1 hbase⟩
  refine Discovery.eq_of_ascending id (List.pairwise_map.mpr (Discovery.pairwise_ascending _ _))
    (List.pairwise_map.mpr (Discovery.pairwise_ascending _ _)) fun p => ?_
  rw [mem_discover h.proper.2 hcanonical, mem_discover h.proper.1 hcanonical]
  exact ⟨h.symm.isDiscovered, h.isDiscovered⟩

/-! ### Pages and trees -/

/-- A document has its own canonical path, and the same text. -/
private theorem canonicalPath_and_read (h : AgreeBelow roots.paths fs other)
    (hp : IsDiscovered fs roots exclude p) :
    other.canonicalPath p = fs.canonicalPath p ∧ other.read p = fs.read p := by
  obtain ⟨place, content, rfl, hfile, hother⟩ := h.exists_place hp
  have hcanonical := canonical_ofNames h.proper.1 (h.plain.1.stands (by rw [hfile]; simp))
  have hcanonical' := canonical_ofNames h.proper.2 (h.plain.2.stands (by rw [hother]; simp))
  refine ⟨?_, read_congr hcanonical hcanonical' (hother.trans hfile.symm)⟩
  rw [canonicalPath, canonicalPath, hcanonical, hcanonical']

theorem plan_eq (h : AgreeBelow roots.paths fs other) (basePackage : String)
    {inputs : List Path} (hinputs : ∀ input ∈ inputs, IsDiscovered fs roots exclude input) :
    plan other roots basePackage inputs = plan fs roots basePackage inputs := by
  have hpage : ∀ input ∈ inputs, planPage other roots basePackage input =
      planPage fs roots basePackage input := by
    intro input hinput
    rw [planPage, planPage, (h.canonicalPath_and_read (hinputs input hinput)).1]
  rw [plan, plan, mapM_congr hpage]

theorem readAll_eq (h : AgreeBelow roots.paths fs other) {pages : List PlannedPage}
    (hpages : ∀ page ∈ pages, IsDiscovered fs roots exclude page.path) (cache : Cache) :
    Conversion.readAll other cache pages = Conversion.readAll fs cache pages := by
  induction pages generalizing cache with
  | nil => rfl
  | cons page rest ih =>
    obtain ⟨hpage, hrest⟩ := List.forall_mem_cons.mp hpages
    obtain ⟨hcanonical, hread⟩ := h.canonicalPath_and_read hpage
    have hself : fs.canonicalPath page.path = .ok page.path :=
      (hpage.canonicalPath h.proper.1).2.1
    have hget : cache.get other page.path = cache.get fs page.path := by
      rw [Cache.get, Cache.get, hcanonical, hself]
      dsimp only
      rw [Cache.load, Cache.load, hread]
    rw [Conversion.readAll, Conversion.readAll, hget]
    simp only [ih hrest]

end AgreeBelow

end MarkdownPages
