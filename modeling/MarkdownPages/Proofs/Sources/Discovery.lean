import MarkdownPages.Proofs.Files.Trees
import MarkdownPages.Proofs.Sources.Containment
import MarkdownPages.Sources.Discovery

/-!
# What a search below a root finds

A search goes down from a root through directories, which are no links, by names that are not passed
over. What it finds are the entries other than directories to which such names lead and whose
extension is `md`. This does not depend on the order of the entries, nor on how deep they lie.

The names are told apart from the search: whether names lead to an entry is a question about the
places of the file system, and whether one of them is passed over is a question about names only.

## Main definitions

* `Discovery.IsExcluded`, `Discovery.IsVisible` — the names that are not passed over
* `Discovery.LeadsDown` — the ways down from a root that a search has to find

## Main results

* `Discovery.mem_inEntry` — a search goes down all the ways there are, and no others
* `Discovery.mem_inRoot` — what is found below a root
-/

namespace MarkdownPages

namespace Discovery

/-! ### Names that are passed over -/

/-- One of the exclusions is a pattern that covers a path below a root. -/
def IsExcluded (exclude : List String) (relativePath : String) : Prop :=
  ∃ text ∈ exclude, ∃ glob, Glob.ofText? text = some glob ∧ glob.covers relativePath = true

/-- Names as they are shown, with slashes between them. -/
def shownNames (names : List RawText) : String := "/".intercalate (names.map RawText.shown)

/-- None of the names starts with a dot, and no beginning of them is excluded. -/
structure IsVisible (exclude : List String) (names : List RawText) : Prop where
  plain : ∀ name ∈ names, name.shown.toList.head? ≠ some '.'
  admitted : ∀ start, start ≠ [] → start <+: names → ¬ IsExcluded exclude (shownNames start)

theorem isPassed_eq_false_iff {exclude : List String} {name relativePath : String} :
    isPassed (patterns exclude) name relativePath = false ↔
      name.toList.head? ≠ some '.' ∧ ¬ IsExcluded exclude relativePath := by
  have hdot : ['.'].isPrefixOf name.toList = true ↔ name.toList.head? = some '.' := by
    rw [List.isPrefixOf_iff_prefix, List.head?_eq_some_iff]
    exact exists_congr fun rest => eq_comm
  have hany : (patterns exclude).any (·.covers relativePath) = true ↔
      IsExcluded exclude relativePath := by
    rw [List.any_eq_true, patterns, IsExcluded]
    constructor
    · rintro ⟨glob, hglob, hcovers⟩
      obtain ⟨text, htext, hread⟩ := List.mem_filterMap.mp hglob
      exact ⟨text, htext, glob, hread, hcovers⟩
    · rintro ⟨text, htext, glob, hread, hcovers⟩
      exact ⟨glob, List.mem_filterMap.mpr ⟨text, htext, hread⟩, hcovers⟩
  rw [isPassed, Bool.or_eq_false_iff, ← Bool.not_eq_true, ← Bool.not_eq_true, hdot, hany]

/-- None of the names that follow those in front is passed over. -/
private def AllKept (globs : List Glob) (front names : List RawText) : Prop :=
  ∀ start name, start ++ [name] <+: names →
    isPassed globs name.shown (shownNames (front ++ start ++ [name])) = false

private theorem allKept_cons {globs : List Glob} {front names : List RawText} {name : RawText} :
    AllKept globs front (name :: names) ↔
      isPassed globs name.shown (shownNames (front ++ [name])) = false ∧
        AllKept globs (front ++ [name]) names := by
  constructor
  · intro h
    refine ⟨by simpa using h [] name ⟨names, rfl⟩, fun start last hpre => ?_⟩
    simpa using h (name :: start) last (List.cons_prefix_cons.mpr ⟨rfl, hpre⟩)
  · rintro ⟨hfirst, hrest⟩ start last hpre
    cases start with
    | nil =>
      obtain ⟨rfl, -⟩ := List.cons_prefix_cons.mp hpre
      simpa using hfirst
    | cons k start =>
      obtain ⟨rfl, hstart⟩ := List.cons_prefix_cons.mp hpre
      simpa using hrest start last hstart

private theorem allKept_iff_isVisible {exclude : List String} {names : List RawText} :
    AllKept (patterns exclude) [] names ↔ IsVisible exclude names := by
  simp only [AllKept, List.nil_append, isPassed_eq_false_iff]
  constructor
  · refine fun h => ⟨fun name hname => ?_, fun start hne hpre => ?_⟩
    · obtain ⟨before, after, rfl⟩ := List.append_of_mem hname
      exact (h before name ⟨after, by simp⟩).1
    · have hsplit := List.dropLast_append_getLast hne
      have hlast := (h start.dropLast (start.getLast hne) (hsplit.symm ▸ hpre)).2
      rwa [hsplit] at hlast
  · rintro ⟨hplain, hadmitted⟩ start name hpre
    exact ⟨hplain name (hpre.subset (by simp)), hadmitted _ (by simp) hpre⟩

/-! ### Going down -/

/-- An entry that was found by some names from a root. -/
private def fileAt (root : Path) (names : List RawText) : SourceFile :=
  ⟨names.foldl Path.child root, shownNames names⟩

private theorem below_shownNames {front : List RawText} (hfront : ∀ name ∈ front, name.bytes ≠ [])
    (name : RawText) : below (shownNames front) name.shown = shownNames (front ++ [name]) := by
  rw [below, shownNames, shownNames, List.map_append, List.map_singleton]
  by_cases hnil : front = []
  · subst hnil
    simp
  · obtain ⟨first, rest, rfl⟩ := List.exists_cons_of_ne_nil hnil
    have hne : ("/".intercalate ((first :: rest).map RawText.shown)).isEmpty = false := by
      have hfirst := RawText.shown_ne_empty (hfront first List.mem_cons_self)
      cases rest with
      | nil => simpa using hfirst
      | cons second rest => simp [String.intercalate_cons_cons, hfirst]
    rw [if_neg (by rw [hne]; simp), String.intercalate_append_of_ne_nil (by simp) (by simp),
      String.intercalate_singleton]

section Search

variable {globs : List Glob} {root : Path} {file : SourceFile}

/-- What is found in the entries of a directory is found in one of them. -/
private theorem mem_inEntries {directory : Path} {relativePath : String}
    {entries : List (RawText × Entry)} :
    file ∈ inEntries globs directory relativePath entries ↔ ∃ entry ∈ entries,
      isPassed globs entry.1.shown (below relativePath entry.1.shown) = false ∧
      file ∈ inEntry globs (directory.child entry.1) (below relativePath entry.1.shown)
        entry.2 := by
  induction entries with
  | nil => simp [inEntries]
  | cons head rest ih =>
    rw [inEntries, List.mem_append, ih, List.exists_mem_cons_iff]
    refine or_congr_left ?_
    cases isPassed globs head.1.shown (below relativePath head.1.shown) <;> simp

/-- The names of a proper tree lead from an entry, which was found by those in front, to a document,
and none of them is passed over. -/
private def Finds (globs : List Glob) (root : Path) (front : List RawText) (entry : Entry)
    (file : SourceFile) : Prop :=
  ∃ names item, entry.item? names = some item ∧ item ≠ .directory ∧ AllKept globs front names ∧
    file = fileAt root (front ++ names) ∧ file.path.extension? = some (.ofText "md")

/-- A file and a link are found under the names that lead there. -/
private theorem finds_of_leaf {leaf : Entry} (h : leaf.isDirectory = false) {front : List RawText} :
    Finds globs root front leaf file ↔
      file ∈ if (fileAt root front).path.extension? = some (.ofText "md") then [fileAt root front]
        else [] := by
  constructor
  · rintro ⟨names, item, hitem, -, -, rfl, hextension⟩
    cases names with
    | nil =>
      rw [List.append_nil] at hextension ⊢
      rw [if_pos hextension]
      exact List.mem_singleton_self _
    | cons name names =>
      cases leaf with
      | directory => cases h
      | file | link => cases hitem
  · intro hfile
    split at hfile
    · rename_i hextension
      obtain rfl := List.mem_singleton.mp hfile
      refine ⟨[], leaf.item, rfl, ?_, by simp [AllKept], by rw [List.append_nil], hextension⟩
      cases leaf with
      | directory => cases h
      | file | link => simp [Entry.item]
    · cases hfile

/-- A directory finds what its entries find. -/
private theorem finds_directory {entries : List (RawText × Entry)}
    (h : (Entry.directory entries).isProper = true) {front : List RawText} :
    Finds globs root front (.directory entries) file ↔ ∃ entry ∈ entries,
      isPassed globs entry.1.shown (shownNames (front ++ [entry.1])) = false ∧
      Finds globs root (front ++ [entry.1]) entry.2 file := by
  constructor
  · rintro ⟨names, item, hitem, hleaf, hall, hsame, hextension⟩
    cases names with
    | nil => exact absurd (Option.some.inj hitem).symm hleaf
    | cons name names =>
      obtain ⟨hkept, hall⟩ := allKept_cons.mp hall
      cases hchild : (Entry.directory entries).child? name with
      | none =>
        rw [Entry.item?_cons_of_none hchild] at hitem
        cases hitem
      | some child =>
        rw [Entry.item?_cons hchild] at hitem
        refine ⟨(name, child), (Entry.mem_entries_iff h).mpr hchild, hkept, names, item, hitem,
          hleaf, hall, ?_, hextension⟩
        rw [hsame, List.append_assoc, List.singleton_append]
  · rintro ⟨⟨name, child⟩, hmem, hkept, names, item, hitem, hleaf, hall, hsame, hextension⟩
    refine ⟨name :: names, item, ?_, hleaf, allKept_cons.mpr ⟨hkept, hall⟩, ?_, hextension⟩
    · rw [Entry.item?_cons ((Entry.mem_entries_iff h).mp hmem), hitem]
    · rw [hsame, List.append_assoc, List.singleton_append]

/-- **One entry.** A search finds what all names lead to that are not passed over. -/
private theorem mem_inEntry {entry : Entry} (hentry : entry.isProper = true) {front : List RawText}
    (hfront : ∀ name ∈ front, name.bytes ≠ []) :
    file ∈ inEntry globs (fileAt root front).path (fileAt root front).relativePath entry ↔
      Finds globs root front entry file := by
  induction entry using Entry.induction generalizing front with
  | file content => exact (finds_of_leaf rfl).symm
  | link target => exact (finds_of_leaf rfl).symm
  | directory entries ih =>
    rw [inEntry, mem_inEntries, finds_directory hentry]
    refine exists_congr fun entry => and_congr_right fun hmem => ?_
    obtain ⟨name, child⟩ := entry
    obtain ⟨hname, hchild⟩ := (Entry.isProper_directory.mp hentry).2 _ hmem
    have hnext : ∀ k ∈ front ++ [name], k.bytes ≠ [] := List.forall_mem_append.mpr
      ⟨hfront, by simpa using (Entry.isFileName_iff.mp hname).1.bytes_ne_nil⟩
    have hpath : (fileAt root front).path.child name = (fileAt root (front ++ [name])).path := by
      simp [fileAt]
    have hbelow : below (fileAt root front).relativePath name.shown =
        (fileAt root (front ++ [name])).relativePath := below_shownNames hfront name
    rw [hpath, hbelow, ih _ hmem hchild hnext]
    rfl

end Search

/-! ### Below a root -/

/-- The way down from a root to an entry that is no directory, through directories that are no
links, by names that are not passed over. -/
structure LeadsDown (fs : FileSystem) (exclude : List String) (root : Path) (names : List RawText) :
    Prop where
  ne_nil : names ≠ []
  visible : IsVisible exclude names
  extension : (names.foldl Path.child root).extension? = some (.ofText "md")
  entry : ∃ base item, fs.canonical root = .ok base ∧
    (∀ start, start <+: names → start ≠ names →
      fs.top.item? (base ++ start) = some .directory) ∧
    fs.top.item? (base ++ names) = some item ∧ item ≠ .directory

/-- There is no way down but from a directory. -/
private theorem LeadsDown.exists_entries {fs : FileSystem} {exclude : List String} {root : Path}
    {names : List RawText} (h : LeadsDown fs exclude root names) : ∃ base entries,
      fs.canonical root = .ok base ∧ fs.top.at? base = some (.directory entries) := by
  obtain ⟨base, item, hbase, hway, -⟩ := h.entry
  have hstart := hway [] List.nil_prefix h.ne_nil.symm
  rw [List.append_nil] at hstart
  obtain ⟨entries, hentries⟩ := Entry.item?_eq_directory.mp hstart
  exact ⟨base, entries, hbase, hentries⟩

/-- A search looks at the entries of the directory to which a root leads. -/
private theorem inRoot_of_directory {fs : FileSystem} {exclude : List Glob} {root : Path}
    {base : List RawText} {entries : List (RawText × Entry)} (hbase : fs.canonical root = .ok base)
    (hentry : fs.top.at? base = some (.directory entries)) :
    inRoot fs exclude root = inEntry exclude root "" (.directory entries) := by
  rw [inRoot, FileSystem.entry?, hbase, inEntry]
  dsimp only
  rw [hentry]
  rfl

/-- Nothing but a directory has entries. -/
private theorem inRoot_eq_nil {fs : FileSystem} {exclude : List Glob} {root : Path}
    (h : ¬ ∃ base entries,
      fs.canonical root = .ok base ∧ fs.top.at? base = some (.directory entries)) :
    inRoot fs exclude root = [] := by
  rw [inRoot, FileSystem.entry?]
  cases hbase : fs.canonical root with
  | error fault => rfl
  | ok base =>
    dsimp only
    cases hentry : fs.top.at? base with
    | none => rfl
    | some entry =>
      cases entry with
      | directory entries => exact absurd ⟨base, entries, hbase, hentry⟩ h
      | file | link => rfl

/-- **Below a root.** A search finds the ends of all ways down. -/
theorem mem_inRoot {fs : FileSystem} (hfs : fs.isProper = true) {exclude : List String}
    {root : Path} {file : SourceFile} : file ∈ inRoot fs (patterns exclude) root ↔
      ∃ names, LeadsDown fs exclude root names ∧
        file = ⟨names.foldl Path.child root, shownNames names⟩ := by
  by_cases hroot : ∃ base entries,
      fs.canonical root = .ok base ∧ fs.top.at? base = some (.directory entries)
  · obtain ⟨base, entries, hbase, hentry⟩ := hroot
    have hproper := (Entry.isProper_at? (FileSystem.isProper_iff.mp hfs).2 hentry).2
    have hfinds : file ∈ inEntry (patterns exclude) (fileAt root []).path
        (fileAt root []).relativePath (.directory entries) ↔
          Finds (patterns exclude) root [] (.directory entries) file :=
      mem_inEntry hproper (by simp)
    rw [inRoot_of_directory hbase hentry]
    refine hfinds.trans ⟨?_, ?_⟩
    · rintro ⟨names, item, hitem, hleaf, hall, rfl, hextension⟩
      have hend : fs.top.item? (base ++ names) = some item := by
        rw [Entry.item?_append hentry, hitem]
      refine ⟨names, ⟨?_, allKept_iff_isVisible.mp hall, hextension, base, item, hbase,
        fun start hpre hne => ?_, hend, hleaf⟩, rfl⟩
      · rintro rfl
        exact hleaf (Option.some.inj hitem).symm
      · exact Entry.item?_of_isPrefix ((List.prefix_append_right_inj base).mpr hpre)
          (fun heq => hne (List.append_cancel_left heq)) (by rw [hend]; simp)
    · rintro ⟨names, h, rfl⟩
      obtain ⟨base', item, hbase', -, hend, hleaf⟩ := h.entry
      obtain rfl := Except.ok.inj (hbase.symm.trans hbase')
      rw [Entry.item?_append hentry] at hend
      exact ⟨names, item, hend, hleaf, allKept_iff_isVisible.mpr h.visible, rfl, h.extension⟩
  · rw [inRoot_eq_nil hroot]
    refine ⟨(by cases ·), ?_⟩
    rintro ⟨names, h, -⟩
    exact absurd h.exists_entries hroot

end Discovery

end MarkdownPages
