import MarkdownPages.Proofs.Files.Writing

/-!
# Storing files below a directory

A file is stored with the directories on the way to it. Where no link stands below a directory, a
path that goes down from there by names ends where the names say, so nothing changes elsewhere.

## Main definitions

* `FileAction.store` — writes a file and makes the directories on the way to it
* `FileSystem.LinkFree` — a directory without links below
* `FileSystem.Builds` — directories are added below a place, files are added or written

## Main results

* `outcome_store` — what storing a file changes, and that the file is there if nothing fails
-/

namespace MarkdownPages

/-- Writes a file and makes the directories on the way to it. -/
def FileAction.store (p : Path) (text : String) : FileAction Unit := do
  if let some directory := p.parent? then makeDirectories directory
  write p text

namespace FileSystem

/-- A directory without links below. -/
structure LinkFree (fs : FileSystem) (place : List RawText) : Prop where
  directory : fs.top.item? place = some .directory
  plain : ∀ rest target, fs.top.item? (place ++ rest) ≠ some (.link target)

/-- One file system is another with more directories and files below a place, and with other
content in files there. -/
structure Builds (fs : FileSystem) (place : List RawText) (after : FileSystem) : Prop
    extends DiffersWithin fs place after where
  keeps : ∀ q item, fs.top.item? q = some item →
    ∃ item', after.top.item? q = some item' ∧ item'.shape = item.shape
  noLink : ∀ q target, after.top.item? q = some (.link target) →
    fs.top.item? q = some (.link target)

variable {fs middle after : FileSystem} {p : Path} {place q : List RawText}

namespace Builds

theorem refl (fs : FileSystem) (place : List RawText) : fs.Builds place fs :=
  ⟨.refl fs place, fun _ item h => ⟨item, h, rfl⟩, fun _ _ h => h⟩

theorem trans (h : fs.Builds place middle) (h' : middle.Builds place after) :
    fs.Builds place after := by
  refine ⟨h.toDiffersWithin.trans h'.toDiffersWithin, fun q item hq => ?_,
    fun q target hq => h.noLink q target (h'.noLink q target hq)⟩
  obtain ⟨item', hitem', hshape⟩ := h.keeps q item hq
  obtain ⟨item'', hitem'', hshape'⟩ := h'.keeps q item' hitem'
  exact ⟨item'', hitem'', hshape'.trans hshape⟩

theorem linkFree (h : fs.Builds place after) (hplain : fs.LinkFree place) :
    after.LinkFree place := by
  obtain ⟨item, hitem, hshape⟩ := h.keeps place _ hplain.directory
  rw [Item.shape_eq_directory.mp hshape] at hitem
  exact ⟨hitem, fun rest target hlink => hplain.plain rest target (h.noLink _ target hlink)⟩

/-- Whatever a path led to, it still leads there. -/
theorem canonical_mono (h : fs.Builds place after) (hq : fs.canonical p = .ok q) :
    after.canonical p = .ok q := by
  obtain ⟨hadmits, n, hn, hleads⟩ := canonical_eq_ok.mp hq
  exact canonical_eq_ok.mpr ⟨hadmits, n, hn, h.start p ▸ hleads.mono_shape h.keeps⟩

/-- Names go on down from a place to which a path led before, as far as there are directories. -/
theorem leads_names (h : fs.Builds place after) (hfs : fs.isProper = true)
    {init : List Step} {n : Nat} (hleads : fs.top.Leads (fs.start p) init n (.found place))
    {names : List RawText} (hnames : after.top.item? (place ++ names) = some .directory) :
    after.top.Leads (after.start p) (init ++ names.map .into ++ [.here]) n
      (.found (place ++ names)) := by
  have hshort := fun name hname =>
    short_of_item? (h.proper hfs) hnames name (List.mem_append_right _ hname)
  refine Entry.leads_concat_here.mpr ⟨?_, hnames⟩
  rw [h.start]
  exact (hleads.mono_shape h.keeps).append
    (Entry.leads_names _ hshort (Entry.stands_of_directory hnames))

end Builds

/-- What is no directory stood there before directories were made. -/
theorem Lengthens.item_of_ne_directory {names base : List RawText} {item : Item}
    (h : fs.Lengthens base names after) (hq : after.top.item? q = some item)
    (hitem : item ≠ .directory) : fs.top.item? q = some item := by
  rw [← h.old q, hq]
  rintro made hne hmade rfl
  exact hitem (Option.some.inj (hq.symm.trans (h.new made hne hmade)))

theorem Lengthens.builds {names base : List RawText} (h : fs.Lengthens base names after)
    (hwithin : fs.DiffersWithin place after) : fs.Builds place after :=
  ⟨hwithin, fun q item hq => ⟨item, h.mono hq, rfl⟩,
    fun q target hq => h.item_of_ne_directory hq (by simp)⟩

/-- Making directories makes no file and takes none away. -/
theorem Lengthens.item_eq_file_iff {names base : List RawText} {content : Content}
    (h : fs.Lengthens base names after) :
    after.top.item? q = some (.file content) ↔ fs.top.item? q = some (.file content) :=
  ⟨fun hq => h.item_of_ne_directory hq (by simp), h.mono⟩

theorem Stores.builds {base : List RawText} {content : Content} (h : fs.Stores base content after)
    (hwithin : fs.DiffersWithin place after) : fs.Builds place after := by
  refine ⟨hwithin, fun q item => h.keeps, fun q target hq => ?_⟩
  rw [← h.item_of_ne, hq]
  rintro rfl
  rw [h.item_self] at hq
  cases hq

theorem DiffersWithin.weaken {inner : List RawText} (h : fs.DiffersWithin inner after)
    (hpre : place <+: inner) : fs.DiffersWithin place after :=
  ⟨fun q hq => h.item q fun hinner => hq (hpre.trans hinner), h.working, h.proper⟩

/-! ### How far names lead -/

/-- Names of directories lead as far as there are directories. -/
private theorem exists_split (hplace : fs.top.item? place = some .directory)
    (names : List RawText) : ∃ there missing, names = there ++ missing ∧
      fs.top.item? (place ++ there) = some .directory ∧
      ∀ name rest, missing = name :: rest →
        fs.top.item? (place ++ there ++ [name]) ≠ some .directory := by
  induction names generalizing place with
  | nil => exact ⟨[], [], rfl, by simpa using hplace, by simp⟩
  | cons name rest ih =>
    by_cases hname : fs.top.item? (place ++ [name]) = some .directory
    · obtain ⟨there, missing, rfl, hthere, hstop⟩ := ih hname
      rw [List.append_assoc, List.singleton_append] at hthere hstop
      exact ⟨name :: there, missing, rfl, hthere, hstop⟩
    · refine ⟨[], name :: rest, rfl, by simpa using hplace, fun k more heq => ?_⟩
      obtain ⟨rfl, -⟩ := List.cons.inj heq
      simpa using hname

theorem LinkFree.reaches (h : fs.LinkFree place) (hfs : fs.isProper = true)
    {start : List RawText} {init : List Step} {n : Nat} (hn : n ≤ maxLinks)
    (hleads : fs.top.Leads start init n (.found place)) (names : List RawText) :
    ∃ there missing, names = there ++ missing ∧
      fs.Reaches start (init ++ there.map .into) (place ++ there) missing := by
  obtain ⟨there, missing, rfl, hthere, hstop⟩ := exists_split h.directory names
  have hshort := fun name hname =>
    short_of_item? hfs hthere name (List.mem_append_right _ hname)
  have hwalk : fs.top.Leads start (init ++ there.map .into) (n + 0) (.found (place ++ there)) :=
    hleads.append (Entry.leads_names _ hshort (Entry.stands_of_directory hthere))
  refine ⟨there, missing, rfl, ⟨n, hn, hwalk⟩, fun name rest heq m hm q hnext => ?_⟩
  obtain ⟨a, b, middle, rfl, hfirst, hsecond⟩ := hnext.split (by simp)
  obtain rfl := Halt.found.inj (hwalk.unique hfirst)
  generalize hsteps : [Step.into name, Step.here] = steps at hsecond
  cases hsecond with
  | into _ _ _ _ hend =>
    obtain ⟨hk, rfl⟩ := List.cons.inj hsteps
    obtain rfl := Step.into.inj hk
    exact hstop name rest heq hend.directory
  | link _ _ hentry _ =>
    obtain ⟨hk, rfl⟩ := List.cons.inj hsteps
    obtain rfl := Step.into.inj hk
    rw [List.append_assoc] at hentry
    exact h.plain _ _ hentry
  | _ => simp at hsteps

end FileSystem

open FileSystem FileAction

section Storing

variable {fs : FileSystem} (hfs : fs.isProper = true) {p : Path} {init : List Step}
  {place directories : List RawText} {file : RawText} {n : Nat}
  (hroute : p.route = init ++ (directories ++ [file]).map .into) (hn : n ≤ maxLinks)
  (hleads : fs.top.Leads (fs.start p) init n (.found place)) (hplain : fs.LinkFree place)

include hfs hroute hn hleads hplain

/-- The directories on the way to a file. -/
private theorem outcome_makeParent {parent : Path} (hparent : p.parent? = some parent) :
    fs.Builds place (outcome (makeDirectories parent) fs).2 ∧
      (∀ q content, (outcome (makeDirectories parent) fs).2.top.item? q = some (.file content) ↔
        fs.top.item? q = some (.file content)) ∧
      ((outcome (makeDirectories parent) fs).1 = .ok () →
        (outcome (makeDirectories parent) fs).2.top.item? (place ++ directories) =
          some .directory) := by
  obtain ⟨habsolute, hdrop, -⟩ := Path.parent?_eq_some hparent
  rw [hroute, List.map_append, List.map_singleton, ← List.append_assoc,
    List.dropLast_concat] at hdrop
  have hstart : fs.start parent = fs.start p := by rw [start, start, habsolute]
  obtain ⟨there, missing, rfl, hreach⟩ := hplain.reaches hfs hn hleads directories
  rw [← hstart] at hreach
  obtain ⟨made, hmade, hlengthens, hok⟩ := lengthens_makeDirectories hfs hreach
    (by rw [hdrop, List.map_append, List.append_assoc])
  have hgrows := (grows_makeDirectories parent hfs).1
  have hbuilds : fs.Builds place (outcome (makeDirectories parent) fs).2 :=
    hlengthens.builds (hlengthens.differsWithin hgrows.working
    hgrows.proper fun name rest _ => ⟨there ++ [name], by simp⟩)
  refine ⟨hbuilds, fun q content => hlengthens.item_eq_file_iff, fun hsuccess => ?_⟩
  cases hupper : parent.parent? with
  | some upper =>
    rw [← List.append_assoc]
    exact (hok hsuccess (by simp [hupper])).2.2
  | none =>
    -- there is nothing to make, and the file goes right into the directory
    have hnil := (hdrop.symm.trans (Path.route_eq_nil_of_parent? hupper))
    have hnone : there ++ missing = [] := List.map_eq_nil_iff.mp (List.append_eq_nil_iff.mp hnil).2
    rw [hnone, List.append_nil]
    exact (hbuilds.linkFree hplain).directory

/-- **Storing a file.** All changes are below the place from which the names of the path go down. If
nothing fails, the file is there, and no other file is new or holds something else. -/
theorem outcome_store (hlast : p.steps.getLast? ≠ some .here) (text : String) :
    fs.Builds place (outcome (store p text) fs).2 ∧
      ((outcome (store p text) fs).1 = .ok () →
        (outcome (store p text) fs).2.canonical p = .ok (place ++ directories ++ [file]) ∧
        ∀ q content, (outcome (store p text) fs).2.top.item? q = some (.file content) ↔
          if q = place ++ directories ++ [file] then content = .text text
          else fs.top.item? q = some (.file content)) := by
  obtain ⟨parent, hparent⟩ : ∃ parent, p.parent? = some parent := by
    refine Option.ne_none_iff_exists'.mp fun hnone => ?_
    rw [Path.route_eq_nil_of_parent? hnone] at hroute
    exact absurd hroute (by simp)
  obtain ⟨hbuilds, hfiles, hdirectories⟩ :=
    outcome_makeParent hfs hroute hn hleads hplain hparent
  have hstore : outcome (store p text) fs =
      outcome (makeDirectories parent >>= fun _ => write p text) fs := by
    rw [store, hparent]
  rw [hstore, outcome_bind]
  cases hmake : outcome (makeDirectories parent) fs with
  | mk result middle =>
    rw [hmake] at hbuilds hfiles hdirectories
    cases result with
    | error fault => exact ⟨hbuilds, fun h => by cases h⟩
    | ok _ =>
      have hmiddle := hbuilds.proper hfs
      have hwalk := hbuilds.leads_names hfs hleads (hdirectories rfl)
      have hlink : ∀ target, middle.top.item? (place ++ directories ++ [file]) ≠
          some (.link target) := by
        rw [List.append_assoc]
        exact (hbuilds.linkFree hplain).plain _
      have hsplit : p.route = (init ++ directories.map .into) ++ [.into file] := by
        rw [hroute, List.map_append, List.append_assoc]
        rfl
      dsimp only
      rw [write]
      rcases outcome_writeContent (.text text) hsplit hlast hwalk hlink with
        ⟨fault, hfault⟩ | ⟨after, hok, hadmits, hstores⟩
      · rw [hfault]
        exact ⟨hbuilds, fun h => by cases h⟩
      · rw [hok]
        have hwithin : middle.DiffersWithin place after :=
          hstores.differsWithin.weaken ⟨directories ++ [file], by simp⟩
        refine ⟨hbuilds.trans (hstores.builds hwithin), fun _ => ⟨?_, fun q content => ?_⟩⟩
        · exact hstores.canonical (hstores.proper hmiddle) hadmits hlast hsplit hn hwalk
        · rw [hstores.item]
          split
          · simp [eq_comm]
          · exact hfiles q content

end Storing

end MarkdownPages
