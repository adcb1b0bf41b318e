import MarkdownPages.Proofs.Files.Lengthening

/-!
# Removing directories

Removing a tree takes away an entry with all that is below it. It is the entry that the last step
of the path names: if that is a link, the link is removed, and where it leads nothing changes. Where
the path ends in a step that names no entry, or in a slash behind a link, the directory is emptied
and the removal fails.

## Main definitions

* `FileSystem.DiffersWithin` — one file system is another up to what is at a place or below
* `FileSystem.Removes` — the entry that a path names is taken away
* `FileSystem.link?` — the place of the link that a path names

## Main results

* `outcome_removeTree` — what removing a tree changes, whether it succeeds or not
-/

namespace MarkdownPages

namespace FileSystem

/-- One file system is another up to what is at a place or below. -/
structure DiffersWithin (fs : FileSystem) (place : List RawText) (after : FileSystem) : Prop where
  item : ∀ q, ¬ place <+: q → after.top.item? q = fs.top.item? q
  working : after.working = fs.working
  proper : fs.isProper = true → after.isProper = true

variable {fs middle after : FileSystem} {p : Path} {place : List RawText}

namespace DiffersWithin

theorem refl (fs : FileSystem) (place : List RawText) : fs.DiffersWithin place fs :=
  ⟨fun _ _ => rfl, rfl, id⟩

theorem trans (h : fs.DiffersWithin place middle) (h' : middle.DiffersWithin place after) :
    fs.DiffersWithin place after :=
  ⟨fun q hq => (h'.item q hq).trans (h.item q hq), h'.working.trans h.working, h'.proper ∘ h.proper⟩

theorem start (h : fs.DiffersWithin place after) (p : Path) : after.start p = fs.start p := by
  rw [FileSystem.start, FileSystem.start, h.working]

end DiffersWithin

theorem Lengthens.differsWithin {names zone : List RawText} (h : fs.Lengthens place names after)
    (hworking : after.working = fs.working) (hproper : fs.isProper = true → after.isProper = true)
    (hzone : ∀ name rest, names = name :: rest → zone <+: place ++ [name]) :
    fs.DiffersWithin zone after :=
  ⟨fun _ hq => h.item_of_not_isPrefix fun name rest heq hpre =>
    hq ((hzone name rest heq).trans hpre), hworking, hproper⟩

/-- The place of the link that a path names by its last step. A slash behind it leads on. -/
def link? (fs : FileSystem) (p : Path) : Option (List RawText) :=
  match fs.lastStep p with
  | .ok ⟨directory, .into name, false⟩ =>
    match fs.childAt? directory name with
    | some (.link _) => some (directory ++ [name])
    | _ => none
  | _ => none

theorem item?_of_link? (h : fs.link? p = some place) :
    ∃ target, fs.top.item? place = some (.link target) := by
  unfold link? at h
  split at h
  · rename_i directory name _
    split at h
    · rename_i target hchild
      obtain rfl := Option.some.inj h
      refine ⟨target, ?_⟩
      rw [Entry.item?, Entry.at?_snoc, ← childAt?, hchild]
      rfl
    · cases h
  · cases h

/-- A path names a link that it finds at its end. -/
theorem link?_of_leads {directory : List RawText} {name : RawText} {init : List Step} {n : Nat}
    {target : Path} (hadmits : admits p = .ok ()) (hlast : p.steps.getLast? ≠ some .here)
    (hroute : p.route = init ++ [.into name]) (hn : n ≤ maxLinks)
    (hleads : fs.top.Leads (fs.start p) (init ++ [.here]) n (.found directory))
    (hlink : fs.top.item? (directory ++ [name]) = some (.link target)) :
    fs.link? p = some (directory ++ [name]) := by
  obtain ⟨entry, hentry, hitem⟩ := Option.map_eq_some_iff.mp hlink
  have hchild : fs.childAt? directory name = some entry := by rwa [childAt?, ← Entry.at?_snoc]
  cases entry with
  | file | directory => cases hitem
  | link => rw [link?, lastStep_of_leads hadmits hlast hroute hn hleads]; simp [hchild]

/-- The entry that the last step of a path names is taken away with all that is below. -/
structure Removes (fs : FileSystem) (p : Path) (place : List RawText) (after : FileSystem) : Prop
    extends DiffersWithin fs place after where
  gone : ∀ q, place <+: q → after.top.item? q = none
  leads : ∃ init directory name n, p.route = init ++ [.into name] ∧ place = directory ++ [name] ∧
    n ≤ maxLinks ∧ fs.top.Leads (fs.start p) (init ++ [.here]) n (.found directory)
  entry : fs.top.item? place = some .directory ∨ fs.link? p = some place

/-- What is left was there before. -/
theorem Removes.mono (h : fs.Removes p place after) {q : List RawText} {item : Item}
    (hq : after.top.item? q = some item) : fs.top.item? q = some item := by
  rw [← h.item q, hq]
  intro hpre
  rw [h.gone q hpre] at hq
  cases hq

/-- The path of a tree that is removed leads to the tree. -/
theorem Removes.leads_route (h : fs.Removes p place after) (hfs : fs.isProper = true)
    (hdirectory : fs.top.item? place = some .directory) :
    ∃ n ≤ maxLinks, fs.top.Leads (fs.start p) p.route n (.found place) := by
  obtain ⟨init, directory, name, n, hroute, rfl, hn, hleads⟩ := h.leads
  obtain ⟨hleads, hholder⟩ := Entry.leads_concat_here.mp hleads
  have hshort := short_of_item? hfs hdirectory name (by simp)
  exact ⟨n, hn, hroute ▸ hleads.append (.into hholder hshort hdirectory (by simp) (.done _))⟩

theorem differsWithin_dropChild {directory : List RawText} (name : RawText)
    (hdirectory : fs.top.item? directory = some .directory) :
    fs.DiffersWithin (directory ++ [name]) (fs.change directory (·.withoutChild name)) := by
  obtain ⟨entries, hentries⟩ := Entry.item?_eq_directory.mp hdirectory
  have hitem := fun q hq => Entry.item?_dropChild_of_not_isPrefix hentries name (q := q) hq
  refine ⟨hitem, rfl, fun h => ?_⟩
  refine isProper_change h (fun entry hentry => Entry.isProper_withoutChild hentry name) ?_
  exact (hitem [] (by simp)).trans (isProper_iff.mp h).1

/-- Taking the entry away that the last step of a path names. -/
private theorem removes_dropChild (hfs : fs.isProper = true) {directory : List RawText}
    {name : RawText} {init : List Step} {n : Nat} (hroute : p.route = init ++ [.into name])
    (hn : n ≤ maxLinks) (hleads : fs.top.Leads (fs.start p) (init ++ [.here]) n (.found directory))
    (hentry : fs.top.item? (directory ++ [name]) = some .directory ∨
      fs.link? p = some (directory ++ [name])) :
    fs.Removes p (directory ++ [name]) (fs.change directory (·.withoutChild name)) := by
  have hdirectory := (Entry.leads_concat_here.mp hleads).2
  obtain ⟨entries, hentries⟩ := Entry.item?_eq_directory.mp hdirectory
  refine ⟨differsWithin_dropChild name hdirectory, ?_,
    ⟨init, directory, name, n, hroute, rfl, hn, hleads⟩, hentry⟩
  rintro q ⟨rest, rfl⟩
  rw [List.append_assoc]
  have htable := Entry.isTable_of_at? (isProper_iff.mp hfs).2 hentries
  exact Entry.item?_dropChild hentries name htable rest

theorem differsWithin_empty (hplace : fs.top.item? place = some .directory) :
    fs.DiffersWithin place (fs.change place fun _ => .emptyDirectory) := by
  have hitem : ∀ q, ¬ place <+: q →
      (fs.top.update (fun _ => .emptyDirectory) place).item? q = fs.top.item? q :=
    fun q hq => Entry.item?_update_of_not_isPrefix hq _ _
  refine ⟨hitem, rfl, fun h => isProper_change h (fun _ _ => rfl) ?_⟩
  by_cases hpre : place <+: []
  · obtain rfl := List.prefix_nil.mp hpre
    rfl
  · exact (hitem [] hpre).trans (isProper_iff.mp h).1

end FileSystem

open FileSystem FileAction

theorem outcome_emptyDirectory (p : Path) (fs : FileSystem) :
    (∃ fault, outcome (emptyDirectory p) fs = (.error fault, fs)) ∨
      ∃ place after, outcome (emptyDirectory p) fs = (.ok (), after) ∧
        fs.canonical p = .ok place ∧ fs.top.item? place = some .directory ∧
        fs.DiffersWithin place after := by
  rw [emptyDirectory, outcome_bind, outcome_ask]
  cases hcanonical : fs.canonical p with
  | error fault => exact .inl ⟨fault, rfl⟩
  | ok place =>
    dsimp only
    rw [outcome_bind, outcome_get]
    dsimp only
    cases hentry : fs.top.at? place with
    | none => exact .inl ⟨_, rfl⟩
    | some entry =>
      cases entry with
      | file | link => exact .inl ⟨_, rfl⟩
      | directory entries =>
        have hplace := Entry.item?_eq_directory.mpr ⟨entries, hentry⟩
        exact .inr ⟨place, _, rfl, rfl, hplace, differsWithin_empty hplace⟩

/-- Where a directory is emptied only, the removal fails. -/
private theorem outcome_emptyDirectory_throw (p : Path) (fs : FileSystem) {fault : Fault}
    (hfault : fault ≠ .overlapsRoot) : ∃ fault' after,
      outcome (emptyDirectory p >>= fun _ => (throw fault : FileAction Unit)) fs =
        (.error fault', after) ∧
      (after = fs ∨ fault' ≠ .overlapsRoot ∧ ∃ place, fs.canonical p = .ok place ∧
        fs.top.item? place = some .directory ∧ fs.DiffersWithin place after) := by
  rcases outcome_emptyDirectory p fs with ⟨fault', hsame⟩ | ⟨place, after, hok, hplace⟩
  · exact ⟨fault', fs, outcome_bind_of_error hsame _, .inl rfl⟩
  · exact ⟨fault, after, outcome_bind_of_ok hok _, .inr ⟨hfault, place, hplace⟩⟩

/-- **Removing a tree.** What the path names is removed. If the removal fails, nothing has happened,
or the directory to which the path leads was emptied. -/
theorem outcome_removeTree (p : Path) {fs : FileSystem} (hfs : fs.isProper = true) :
    (∃ place after, outcome (removeTree p) fs = (.ok (), after) ∧ fs.Removes p place after) ∨
      ∃ fault after, outcome (removeTree p) fs = (.error fault, after) ∧
        (after = fs ∨ fault ≠ .overlapsRoot ∧ ∃ place, fs.canonical p = .ok place ∧
          fs.top.item? place = some .directory ∧ fs.DiffersWithin place after) := by
  rw [removeTree, outcome_bind, outcome_ask]
  cases hlast : fs.lastStep p with
  | error fault => exact .inr ⟨fault, fs, rfl, .inl rfl⟩
  | ok last =>
    obtain ⟨directory, step, slash⟩ := last
    dsimp only
    cases step with
    | here => exact .inr (outcome_emptyDirectory_throw p fs (by simp))
    | up => exact .inr (outcome_emptyDirectory_throw p fs (by simp))
    | into name =>
      dsimp only
      rw [outcome_bind, outcome_get]
      dsimp only
      obtain ⟨hadmits, init, n, hn, hroute, hleads⟩ := lastStep_into hlast
      have hremoves := removes_dropChild hfs hroute hn hleads
      cases hchild : fs.childAt? directory name with
      | none => exact .inr ⟨_, fs, rfl, .inl rfl⟩
      | some entry =>
        have hitem : fs.top.item? (directory ++ [name]) = some entry.item := by
          rw [Entry.item?, Entry.at?_snoc, ← childAt?, hchild]
          rfl
        cases entry with
        | file => exact .inr ⟨_, fs, rfl, .inl rfl⟩
        | directory => exact .inl ⟨_, _, rfl, hremoves (.inl hitem)⟩
        | link target =>
          cases slash with
          | true => exact .inr (outcome_emptyDirectory_throw p fs (by simp))
          | false => exact .inl ⟨_, _, rfl, hremoves (.inr (by rw [link?, hlast]; simp [hchild]))⟩

end MarkdownPages
