import MarkdownPages.Proofs.Files.Renewing

/-!
# Operations at canonical paths

A canonical path names its place, so it takes no search to tell what an operation does there. The
last step of the path goes to the entry of the last name, in the directory of the names before.
Making a directory that is there does nothing, and renewing one leaves it empty.

## Main definitions

* `FileSystem.Renews` — a place is an empty directory, and so are those on the way

## Main results

* `FileSystem.lastStep_ofNames` — the last step of a canonical path
* `outcome_makeDirectories_of_directory` — a directory that is there is made without a change
* `outcome_renew_of_directory` — a directory that is there can be renewed
-/

namespace MarkdownPages

namespace FileSystem

variable {fs after : FileSystem} {place directory : List RawText} {name : RawText}

/-- A directory and the name of an entry make up a canonical path. -/
theorem isName_concat (hfs : fs.isProper = true)
    (hdirectory : fs.top.item? directory = some .directory)
    (hname : Entry.isFileName name = true) : ∀ k ∈ directory ++ [name], Path.IsName k :=
  List.forall_mem_append.mpr ⟨isName_of_item? hfs hdirectory,
    List.forall_mem_singleton.mpr (Entry.isFileName_iff.mp hname).1⟩

/-- A directory other than the top is an entry of a directory. -/
theorem exists_holder (hfs : fs.isProper = true) (hplace : fs.top.item? place = some .directory)
    (hne : place ≠ []) : ∃ directory name, place = directory ++ [name] ∧
      fs.top.item? directory = some .directory ∧ Entry.isFileName name = true := by
  obtain ⟨directory, name, rfl⟩ := (List.eq_nil_or_concat place).resolve_left hne
  rw [List.concat_eq_append] at hplace ⊢
  exact ⟨directory, name, rfl,
    Entry.item?_directory_of_isPrefix (List.prefix_append directory [name]) hplace,
    Entry.isFileName_of_item? (isProper_iff.mp hfs).2 (by rw [hplace]; simp) name (by simp)⟩

/-- **The last step of a canonical path.** It goes to the entry of the last name. -/
theorem lastStep_ofNames (hfs : fs.isProper = true)
    (hdirectory : fs.top.item? directory = some .directory)
    (hname : Entry.isFileName name = true) :
    fs.lastStep (.ofNames (directory ++ [name])) = .ok ⟨directory, .into name, false⟩ := by
  have hdirectories := isName_of_stands hfs (Entry.stands_of_directory hdirectory).ne_none
  have hnames := isName_concat hfs hdirectory hname
  have hne : directory ++ [name] ≠ [] := by simp
  have hadmits : admits (.ofNames (directory ++ [name])) = .ok () := by
    refine admits_eq_ok.mpr ⟨by simp [Path.bytes_ofNames], fun k hk => ?_⟩
    rw [Path.route_ofNames hnames, List.map_append, List.mem_append] at hk
    rcases hk with hk | hk
    · obtain ⟨k, hk, heq⟩ := List.mem_map.mp hk
      exact Step.into.inj heq ▸ (hdirectories k hk).2.1
    · obtain rfl := Step.into.inj (List.mem_singleton.mp hk)
      exact (Entry.isFileName_iff.mp hname).2.1
  -- no slash stands at the end
  have hbare : ((Path.ofNames (directory ++ [name])).text.bytes.reverse.dropWhile
      (· == RawText.slash)).reverse = (Path.ofNames (directory ++ [name])).text.bytes := by
    have hend := Path.getLast?_ofNames hnames hne
    rw [← List.head?_reverse] at hend
    cases hreverse : (Path.ofNames (directory ++ [name])).text.bytes.reverse with
    | nil => rw [List.dropWhile_nil, ← hreverse, List.reverse_reverse]
    | cons c rest =>
      rw [hreverse, List.head?_cons] at hend
      rw [List.dropWhile_cons_of_neg (by simpa using hend), ← hreverse, List.reverse_reverse]
  have hleads : fs.top.Leads [] (.here :: (directory.map .into ++ [.here])) 0
      (.found directory) := by
    refine .here (isProper_iff.mp hfs).1 (Entry.leads_concat_here.mpr ⟨?_, hdirectory⟩)
    exact Entry.leads_names [] (short_of_item? hfs hdirectory)
      (Entry.stands_of_directory hdirectory)
  rw [lastStep, hadmits, hbare]
  dsimp only [bind, Except.bind]
  have hstart : fs.start (.ofNames (directory ++ [name])) = [] := by rw [start, if_pos (by simp)]
  rw [Path.steps_ofNames hnames hne, List.map_append, List.map_singleton, ← List.cons_append,
    List.dropLast_concat, List.cons_append, List.getLast?_concat, Option.getD_some, hstart,
    Entry.follow_eq_ok.mpr ⟨0, Nat.zero_le _, hleads⟩]
  simp [pure, Except.pure]

theorem childAt?_of_item? {item : Item} (h : fs.top.item? (directory ++ [name]) = some item) :
    ∃ entry, fs.childAt? directory name = some entry ∧ entry.item = item := by
  rw [Entry.item?, Entry.at?_snoc, ← childAt?] at h
  exact Option.map_eq_some_iff.mp h

/-- One file system is another with an empty directory at a place, and directories on the way. -/
structure Renews (fs : FileSystem) (place : List RawText) (after : FileSystem) : Prop where
  item : ∀ q, after.top.item? q =
    if q <+: place then some .directory else if place <+: q then none else fs.top.item? q
  working : after.working = fs.working
  proper : after.isProper = true

namespace Renews

theorem item_of_isPrefix (h : fs.Renews place after) {q : List RawText} (hq : q <+: place) :
    after.top.item? q = some .directory := by rw [h.item, if_pos hq]

theorem item_of_apart (h : fs.Renews place after) {q : List RawText} (hq : ¬ q <+: place)
    (hplace : ¬ place <+: q) : after.top.item? q = fs.top.item? q := by
  rw [h.item, if_neg hq, if_neg hplace]

end Renews

end FileSystem

open FileSystem FileAction

/-- Directories are made by making the innermost one, if that can be done at once. -/
private theorem outcome_makeDirectories_of_ensure {fs after : FileSystem} {p : Path}
    (hroute : p.route ≠ []) (h : outcome (ensureDirectory p) fs = (.ok (), after)) :
    outcome (makeDirectories p) fs = (.ok (), after) := by
  cases hparent : p.parent? with
  | none => exact absurd (Path.route_eq_nil_of_parent? hparent) hroute
  | some parent =>
    rw [makeDirectories, lineage, hparent]
    dsimp only
    rw [makeFirst, outcome_tryCatch, h]

section Entry

variable {fs : FileSystem} (hfs : fs.isProper = true) {directory : List RawText} {name : RawText}
  (hdirectory : fs.top.item? directory = some .directory) (hname : Entry.isFileName name = true)

include hfs hdirectory hname

private theorem route_ne_nil : (Path.ofNames (directory ++ [name])).route ≠ [] := by
  rw [Path.route_ofNames (isName_concat hfs hdirectory hname)]
  simp

/-- An entry that is there cannot be made. -/
private theorem outcome_makeDirectory_of_entry {entry : Entry}
    (hchild : fs.childAt? directory name = some entry) :
    outcome (makeDirectory (.ofNames (directory ++ [name]))) fs = (.error .alreadyExists, fs) := by
  rw [makeDirectory, outcome_bind, outcome_ask, lastStep_ofNames hfs hdirectory hname]
  dsimp only
  rw [if_neg (Nat.not_lt.mpr (Entry.isFileName_iff.mp hname).2.2), outcome_bind, outcome_get]
  dsimp only
  rw [if_pos (by simp [hchild])]
  rfl

/-- A directory is made where there is nothing. -/
private theorem outcome_makeDirectories_of_free
    (hfree : fs.top.item? (directory ++ [name]) = none) :
    outcome (makeDirectories (.ofNames (directory ++ [name]))) fs =
      (.ok (), fs.change directory (·.withChild name .emptyDirectory)) := by
  refine outcome_makeDirectories_of_ensure (route_ne_nil hfs hdirectory hname) ?_
  rw [ensureDirectory, outcome_tryCatch, makeDirectory, outcome_bind, outcome_ask,
    lastStep_ofNames hfs hdirectory hname]
  dsimp only
  rw [if_neg (Nat.not_lt.mpr (Entry.isFileName_iff.mp hname).2.2), outcome_bind, outcome_get]
  dsimp only
  rw [if_neg (by simp [childAt?_eq_none.mpr hfree]), outcome_modify]

/-- What stands at a canonical path is removed if it is a directory. -/
private theorem outcome_removeTree_of_directory
    (hplace : fs.top.item? (directory ++ [name]) = some .directory) :
    outcome (removeTree (.ofNames (directory ++ [name]))) fs =
      (.ok (), fs.change directory (·.withoutChild name)) := by
  obtain ⟨entry, hchild, hitem⟩ := childAt?_of_item? hplace
  rw [removeTree, outcome_bind, outcome_ask, lastStep_ofNames hfs hdirectory hname]
  dsimp only
  rw [outcome_bind, outcome_get]
  dsimp only
  rw [hchild]
  cases entry with
  | directory => rfl
  | file | link => cases hitem

end Entry

section Place

variable {fs : FileSystem} (hfs : fs.isProper = true) {place : List RawText}
  (hplace : fs.top.item? place = some .directory)

include hfs hplace

/-- A directory that is there is made without a change. -/
theorem outcome_makeDirectories_of_directory :
    outcome (makeDirectories (.ofNames place)) fs = (.ok (), fs) := by
  by_cases hne : place = []
  · subst hne
    rfl
  · obtain ⟨directory, name, rfl, hdirectory, hname⟩ := exists_holder hfs hplace hne
    obtain ⟨entry, hchild, -⟩ := childAt?_of_item? hplace
    have hthere : fs.isDirectory (.ofNames (directory ++ [name])) = true :=
      isDirectory_iff.mpr ⟨_, canonical_ofNames hfs (Entry.stands_of_directory hplace), hplace⟩
    refine outcome_makeDirectories_of_ensure (route_ne_nil hfs hdirectory hname) ?_
    rw [ensureDirectory, outcome_tryCatch,
      outcome_makeDirectory_of_entry hfs hdirectory hname hchild]
    dsimp only
    rw [outcome_bind, outcome_get]
    dsimp only
    rw [hthere]
    rfl

/-- **Renewing a directory.** One that is there can be renewed, unless it is the top. -/
theorem outcome_renew_of_directory (hne : place ≠ []) :
    ∃ after, outcome (renew (.ofNames place)) fs = (.ok (), after) ∧ fs.Renews place after := by
  obtain ⟨directory, name, rfl, hdirectory, hname⟩ := exists_holder hfs hplace hne
  have hpresent : fs.present (.ofNames (directory ++ [name])) = true :=
    present_iff.mpr ⟨_, canonical_ofNames hfs (Entry.stands_of_directory hplace)⟩
  -- first the directory is gone
  obtain ⟨entries, hentries⟩ := Entry.item?_eq_directory.mp hdirectory
  have hwithin := differsWithin_dropChild name hdirectory
  have hcleared := hwithin.proper hfs
  have hgone : ∀ rest, (fs.change directory (·.withoutChild name)).top.item?
      (directory ++ name :: rest) = none :=
    Entry.item?_dropChild hentries name (Entry.isTable_of_at? (isProper_iff.mp hfs).2 hentries)
  have hholder : (fs.change directory (·.withoutChild name)).top.item? directory =
      some .directory := by
    have hlonger : ¬ directory ++ [name] <+: directory := fun h => absurd h.length_le (by simp)
    rw [hwithin.item directory hlonger, hdirectory]
  -- and then it is made again
  have hgains := gains_putChild .emptyDirectory hholder (hgone []) hname rfl fun _ => rfl
  refine ⟨_, ?_, fun q => ?_, hgains.working.trans hwithin.working, hgains.proper hcleared⟩
  · rw [renew, outcome_bind, outcome_get]
    dsimp only
    rw [if_pos hpresent, outcome_bind_of_ok
      (outcome_removeTree_of_directory hfs hdirectory hname hplace)]
    exact outcome_makeDirectories_of_free hcleared hholder hname (hgone [])
  · rw [hgains.item]
    by_cases hq : q = directory ++ [name]
    · rw [if_pos hq, if_pos (hq ▸ List.prefix_rfl)]
      rfl
    · rw [if_neg hq]
      split
      · rename_i hpre
        have hwithout : ¬ directory ++ [name] <+: q := fun h =>
          hq (hpre.eq_of_length (Nat.le_antisymm hpre.length_le h.length_le))
        rw [hwithin.item q hwithout, Entry.item?_directory_of_isPrefix hpre hplace]
      · split
        · rename_i hpre
          obtain ⟨rest, rfl⟩ := hpre
          rw [List.append_assoc]
          exact hgone rest
        · rename_i hpre
          exact hwithin.item q hpre

end Place

end MarkdownPages
