import MarkdownPages.Proofs.Files.Finding
import MarkdownPages.Proofs.Files.Outcome

/-!
# Making directories

Making a directory adds one entry to the file system and changes nothing else; when it fails it
changes nothing at all. Making a directory and the missing ones on the way to it is a sequence of
such steps, whether it succeeds or not.

## Main definitions

* `FileSystem.Gains` — one file system is another with one more entry
* `FileSystem.Makes` — a directory is made where a path leads
* `FileSystem.Grows` — directories are made one after the other, where some paths lead

## Main results

* `outcome_makeDirectory` — one step: a directory is made, or nothing happens
* `grows_makeDirectories` — a whole run, which ends with the directory, or fails
* `FileSystem.Grows.settles` — all that a run changes are directories where its paths lead
-/

namespace MarkdownPages

/-! ### One more entry -/

/-- One file system is another with one more entry at a place, which has nothing below it. -/
structure FileSystem.Gains (fs : FileSystem) (place : List RawText) (item : Item)
    (after : FileSystem) : Prop where
  free : fs.top.item? place = none
  item : ∀ q, after.top.item? q = if q = place then some item else fs.top.item? q
  working : after.working = fs.working
  proper : fs.isProper = true → after.isProper = true

namespace FileSystem

variable {fs middle after : FileSystem} {p : Path} {place q : List RawText} {item : Item}

namespace Gains

theorem item_self (h : fs.Gains place item after) : after.top.item? place = some item := by
  rw [h.item, if_pos rfl]

theorem item_of_ne (h : fs.Gains place item after) (hq : q ≠ place) :
    after.top.item? q = fs.top.item? q := by rw [h.item, if_neg hq]

theorem mono (h : fs.Gains place item after) {other : Item} (hq : fs.top.item? q = some other) :
    after.top.item? q = some other := by
  rw [h.item_of_ne, hq]
  rintro rfl
  rw [h.free] at hq
  cases hq

theorem start (h : fs.Gains place item after) (p : Path) : after.start p = fs.start p := by
  rw [FileSystem.start, FileSystem.start, h.working]

end Gains

theorem childAt?_eq_none {directory : List RawText} {name : RawText} :
    fs.childAt? directory name = none ↔ fs.top.item? (directory ++ [name]) = none := by
  rw [childAt?, Entry.item?_eq_none, Entry.at?_snoc]

/-- A new entry under a proper name. -/
theorem gains_putChild {directory : List RawText} {name : RawText} (child : Entry)
    (hdirectory : fs.top.item? directory = some .directory)
    (hfree : fs.top.item? (directory ++ [name]) = none) (hname : Entry.isFileName name = true)
    (hproper : child.isProper = true) (hleaf : ∀ k, child.child? k = none) :
    fs.Gains (directory ++ [name]) child.item (fs.change directory (·.withChild name child)) := by
  obtain ⟨entries, hentries⟩ := Entry.item?_eq_directory.mp hdirectory
  have hitem : ∀ q, (fs.top.update (·.withChild name child) directory).item? q =
      if q = directory ++ [name] then some child.item else fs.top.item? q := by
    intro q
    by_cases hpre : directory ++ [name] <+: q
    · obtain ⟨rest, rfl⟩ := hpre
      rw [List.append_assoc, List.singleton_append, Entry.item?_putChild hentries]
      cases rest with
      | nil => rw [if_pos rfl, Entry.item?_nil]
      | cons k rest =>
        rw [if_neg (by simp), Entry.item?, Entry.at?, hleaf k]
        refine (Entry.item?_none_of_isPrefix ⟨k :: rest, ?_⟩ hfree).symm
        rw [List.append_assoc, List.singleton_append]
    · rw [if_neg fun heq : q = directory ++ [name] => hpre (heq ▸ List.prefix_rfl),
        Entry.item?_putChild_of_not_isPrefix hentries name hpre]
  refine ⟨hfree, hitem, rfl, fun h => ?_⟩
  refine isProper_change h (fun entry hentry => Entry.isProper_withChild hentry hname hproper) ?_
  rw [change, hitem, if_neg (by simp), (isProper_iff.mp h).1]

/-! ### One directory -/

/-- A directory is made where a path leads: the directory that should hold it is there, and it is
not. -/
structure Makes (fs : FileSystem) (p : Path) (place : List RawText) (after : FileSystem) : Prop
    extends Gains fs place .directory after where
  admits : admits p = .ok ()
  leads : ∃ init directory name n, p.route = init ++ [.into name] ∧ place = directory ++ [name] ∧
    n ≤ maxLinks ∧ fs.top.Leads (fs.start p) (init ++ [.here]) n (.found directory)

/-- The path leads to the directory that was made. -/
theorem Makes.canonical (h : fs.Makes p place after) (hproper : fs.isProper = true) :
    after.canonical p = .ok place := by
  obtain ⟨init, directory, name, n, hroute, rfl, hn, hleads⟩ := h.leads
  have hmade := h.item_self
  obtain ⟨hleads, hdirectory⟩ := Entry.leads_concat_here.mp hleads
  have hshort := short_of_item? (h.proper hproper) hmade name (by simp)
  refine canonical_of_leads_here h.admits hn (Entry.leads_concat_here.mpr ⟨?_, hmade⟩)
  rw [hroute, h.start]
  exact (hleads.mono fun q item => h.mono).append
    (.into (h.mono hdirectory) hshort hmade (by simp) (.done _))

end FileSystem

open FileSystem FileAction

variable {fs after : FileSystem} {p : Path}

/-- **Making a directory.** It is made, or nothing happens. -/
theorem outcome_makeDirectory (p : Path) (fs : FileSystem) :
    (∃ fault, outcome (makeDirectory p) fs = (.error fault, fs)) ∨
      ∃ place after, outcome (makeDirectory p) fs = (.ok (), after) ∧ fs.Makes p place after := by
  rw [makeDirectory, outcome_bind, outcome_ask]
  cases hlast : fs.lastStep p with
  | error fault => exact .inl ⟨fault, rfl⟩
  | ok last =>
    obtain ⟨directory, step, slash⟩ := last
    dsimp only
    cases step with
    | here | up => exact .inl ⟨_, rfl⟩
    | into name =>
      dsimp only
      by_cases hlong : maxNameLength < name.bytes.length
      · rw [if_pos hlong]
        exact .inl ⟨_, rfl⟩
      · rw [if_neg hlong, outcome_bind, outcome_get]
        dsimp only
        by_cases htaken : (fs.childAt? directory name).isSome = true
        · rw [if_pos htaken]
          exact .inl ⟨_, rfl⟩
        · rw [if_neg htaken]
          obtain ⟨hadmits, init, n, hn, hroute, hleads⟩ := lastStep_into hlast
          have hdirectory := (Entry.leads_concat_here.mp hleads).2
          have hmem : .into name ∈ p.route := by simp [hroute]
          have hname : Entry.isFileName name = true := Entry.isFileName_iff.mpr
            ⟨(Path.isName_of_mem_route hmem).1, (admits_eq_ok.mp hadmits).2 name hmem,
              Nat.le_of_not_lt hlong⟩
          have hfree := childAt?_eq_none.mp (by simpa using htaken)
          have hgains := gains_putChild .emptyDirectory hdirectory hfree hname rfl
            fun _ => rfl
          exact .inr ⟨_, _, rfl, hgains, hadmits, init, directory, name, n, hroute, rfl, hn,
            hleads⟩

theorem outcome_ensureDirectory (p : Path) (fs : FileSystem) :
    (∃ fault, outcome (ensureDirectory p) fs = (.error fault, fs)) ∨
      (outcome (ensureDirectory p) fs = (.ok (), fs) ∧ fs.isDirectory p = true) ∨
        ∃ place after, outcome (ensureDirectory p) fs = (.ok (), after) ∧
          fs.Makes p place after := by
  rw [ensureDirectory, outcome_tryCatch]
  rcases outcome_makeDirectory p fs with ⟨fault, hfault⟩ | ⟨place, after, hmade, hmakes⟩
  · rw [hfault]
    dsimp only
    rw [outcome_bind, outcome_get]
    dsimp only
    by_cases hthere : (fault = .alreadyExists && fs.isDirectory p) = true
    · rw [if_pos hthere]
      exact .inr (.inl ⟨rfl, (Bool.and_eq_true_iff.mp hthere).2⟩)
    · rw [if_neg hthere]
      exact .inl ⟨fault, rfl⟩
  · rw [hmade]
    exact .inr (.inr ⟨place, after, rfl, hmakes⟩)

/-! ### Directories one after the other -/

namespace FileSystem

/-- Directories are made one after the other, each where one of some paths leads. -/
inductive Grows (paths : List Path) (fs : FileSystem) : FileSystem → Prop where
  | refl : Grows paths fs fs
  | step {middle after : FileSystem} {p : Path} {place : List RawText}
      (before : Grows paths fs middle) (mem : p ∈ paths) (makes : middle.Makes p place after) :
      Grows paths fs after

namespace Grows

variable {paths : List Path} {fs middle after : FileSystem}

theorem trans (h : Grows paths fs middle) (h' : Grows paths middle after) :
    Grows paths fs after := by
  induction h' with
  | refl => exact h
  | step _ hmem hmakes ih => exact .step ih hmem hmakes

theorem weaken {more : List Path} (hmore : ∀ p ∈ paths, p ∈ more) (h : Grows paths fs after) :
    Grows more fs after := by
  induction h with
  | refl => exact .refl
  | step _ hmem hmakes ih => exact .step ih (hmore _ hmem) hmakes

theorem working (h : Grows paths fs after) : after.working = fs.working := by
  induction h with
  | refl => rfl
  | step _ _ hmakes ih => rw [hmakes.working, ih]

theorem start (h : Grows paths fs after) (p : Path) : after.start p = fs.start p := by
  rw [FileSystem.start, FileSystem.start, h.working]

theorem proper (h : Grows paths fs after) (hfs : fs.isProper = true) : after.isProper = true := by
  induction h with
  | refl => exact hfs
  | step _ _ hmakes ih => exact hmakes.proper ih

theorem mono (h : Grows paths fs after) {q : List RawText} {item : Item}
    (hq : fs.top.item? q = some item) : after.top.item? q = some item := by
  induction h with
  | refl => exact hq
  | step _ _ hmakes ih => exact hmakes.mono ih

/-- Whatever a path led to, it still leads there. -/
theorem canonical_mono (h : Grows paths fs after) {p : Path} {q : List RawText}
    (hq : fs.canonical p = .ok q) : after.canonical p = .ok q := by
  obtain ⟨hadmits, n, hn, hleads⟩ := canonical_eq_ok.mp hq
  exact canonical_eq_ok.mpr ⟨hadmits, n, hn, h.start p ▸ hleads.mono fun q item => h.mono⟩

/-- **What making directories changes.** A place that looks different afterwards was free, and it
is now a directory to which one of the paths leads. -/
theorem settles (h : Grows paths fs after) (hfs : fs.isProper = true) (q : List RawText) :
    after.top.item? q = fs.top.item? q ∨ fs.top.item? q = none ∧
      after.top.item? q = some .directory ∧ ∃ p ∈ paths, after.canonical p = .ok q := by
  induction h with
  | refl => exact .inl rfl
  | @step middle after p place hbefore hmem hmakes ih =>
    have hlater : Grows paths middle after := .step .refl hmem hmakes
    by_cases hq : q = place
    · subst hq
      rcases ih with hsame | ⟨-, hmade, -⟩
      · exact .inr ⟨hsame ▸ hmakes.free, hmakes.item_self, p, hmem,
          hmakes.canonical (hbefore.proper hfs)⟩
      · rw [hmakes.free] at hmade
        cases hmade
    · rw [hmakes.item_of_ne hq]
      refine ih.imp_right fun ⟨hfree, hmade, p', hp', hcanonical⟩ => ?_
      exact ⟨hfree, hmade, p', hp', hlater.canonical_mono hcanonical⟩

end Grows

end FileSystem

theorem grows_ensureDirectory (p : Path) {fs : FileSystem} (hfs : fs.isProper = true) :
    fs.Grows [p] (outcome (ensureDirectory p) fs).2 ∧
      ((outcome (ensureDirectory p) fs).1 = .ok () →
        (outcome (ensureDirectory p) fs).2.isDirectory p = true) := by
  rcases outcome_ensureDirectory p fs with ⟨fault, hfault⟩ | ⟨hok, hthere⟩ |
    ⟨place, after, hok, hmakes⟩
  · rw [hfault]
    exact ⟨.refl, fun h => by cases h⟩
  · rw [hok]
    exact ⟨.refl, fun _ => hthere⟩
  · rw [hok]
    exact ⟨.step .refl (List.mem_singleton_self p) hmakes,
      fun _ => isDirectory_iff.mpr ⟨place, hmakes.canonical hfs, hmakes.item_self⟩⟩

/-- Making the first of some directories makes directories one after the other; if it succeeds,
the first path leads to one. -/
theorem grows_makeFirst (paths : List Path) {fs : FileSystem} (hfs : fs.isProper = true) :
    fs.Grows paths (outcome (makeFirst paths) fs).2 ∧
      ((outcome (makeFirst paths) fs).1 = .ok () →
        ∀ p ∈ paths.head?, (outcome (makeFirst paths) fs).2.isDirectory p = true) := by
  induction paths generalizing fs with
  | nil => exact ⟨.refl, by simp⟩
  | cons p outer ih =>
    rw [makeFirst, outcome_tryCatch]
    obtain ⟨hgrows, hdirectory⟩ := grows_ensureDirectory p hfs
    replace hgrows : fs.Grows (p :: outer) (outcome (ensureDirectory p) fs).2 :=
      hgrows.weaken (by simp)
    cases hfirst : outcome (ensureDirectory p) fs with
    | mk result middle =>
      rw [hfirst] at hgrows hdirectory
      have hmiddle := hgrows.proper hfs
      cases result with
      | ok _ => exact ⟨hgrows, fun _ q hq => Option.some.inj hq ▸ hdirectory rfl⟩
      | error fault =>
        dsimp only
        by_cases hmissing : fault = .notFound
        · rw [if_pos hmissing, outcome_bind]
          have houter : middle.Grows (p :: outer) (outcome (makeFirst outer) middle).2 :=
            (ih hmiddle).1.weaken (by simp +contextual)
          cases hrest : outcome (makeFirst outer) middle with
          | mk result' middle' =>
            rw [hrest] at houter
            replace houter := hgrows.trans houter
            cases result' with
            | error fault' => exact ⟨houter, fun h => by cases h⟩
            | ok _ =>
              obtain ⟨hlast, hdirectory'⟩ := grows_ensureDirectory p (houter.proper hfs)
              exact ⟨houter.trans (hlast.weaken (by simp)),
                fun hok q hq => Option.some.inj hq ▸ hdirectory' hok⟩
        · rw [if_neg hmissing]
          exact ⟨hgrows, fun h => by cases h⟩

/-- The paths that hold a path have a beginning of its route. -/
theorem route_of_mem_lineage {fuel : Nat} {p q : Path} (h : q ∈ lineage fuel p) :
    q.isAbsolute = p.isAbsolute ∧ q.route <+: p.route := by
  induction fuel generalizing p with
  | zero => cases h
  | succ fuel ih =>
    rw [lineage] at h
    cases hparent : p.parent? with
    | none => rw [hparent] at h; cases h
    | some parent =>
      rw [hparent] at h
      obtain ⟨habsolute, hroute, -⟩ := Path.parent?_eq_some hparent
      rcases List.mem_cons.mp h with rfl | h
      · exact ⟨rfl, List.prefix_rfl⟩
      · obtain ⟨hsame, hpre⟩ := ih h
        exact ⟨hsame.trans habsolute, hpre.trans (hroute ▸ List.dropLast_prefix _)⟩

theorem mem_tail_lineage {fuel : Nat} {p q : Path} (h : q ∈ lineage fuel p) (hne : q ≠ p) :
    q ∈ (lineage fuel p).tail := by
  cases fuel with
  | zero => cases h
  | succ fuel =>
    rw [lineage] at h ⊢
    cases hparent : p.parent? with
    | none => rw [hparent] at h; cases h
    | some parent =>
      rw [hparent] at h
      exact (List.mem_cons.mp h).resolve_left hne

/-- The paths that hold a path end in steps that go somewhere, if they have any. -/
theorem route_of_mem_tail_lineage {fuel : Nat} {p q : Path} (h : q ∈ (lineage fuel p).tail) :
    q.route <+: p.route.dropLast ∧ (q.route ≠ [] → q.steps.getLast? ≠ some .here) := by
  induction fuel generalizing p with
  | zero => cases h
  | succ fuel ih =>
    rw [lineage] at h
    cases hparent : p.parent? with
    | none => rw [hparent] at h; cases h
    | some parent =>
      rw [hparent, List.tail_cons] at h
      obtain ⟨-, hroute, hlast⟩ := Path.parent?_eq_some hparent
      refine ⟨hroute ▸ (route_of_mem_lineage h).2, ?_⟩
      by_cases hq : q = parent
      · exact hq ▸ hlast
      · exact (ih (mem_tail_lineage h hq)).2

/-- **Making directories.** Directories are made one after the other on the way; if nothing fails,
the path leads to one, unless it has no parent. -/
theorem grows_makeDirectories (p : Path) {fs : FileSystem} (hfs : fs.isProper = true) :
    fs.Grows (lineage (p.text.bytes.length + 1) p) (outcome (makeDirectories p) fs).2 ∧
      ((outcome (makeDirectories p) fs).1 = .ok () → p.parent?.isSome = true →
        (outcome (makeDirectories p) fs).2.isDirectory p = true) := by
  obtain ⟨hgrows, hdirectory⟩ := grows_makeFirst (lineage (p.text.bytes.length + 1) p) hfs
  refine ⟨hgrows, fun hok hparent => hdirectory hok p ?_⟩
  obtain ⟨parent, hparent⟩ := Option.isSome_iff_exists.mp hparent
  rw [lineage, hparent]
  rfl

/-! ### Faults -/

private theorem makeDirectory_avoids (p : Path) : Avoids .overlapsRoot (makeDirectory p) := by
  refine avoids_bind (avoids_ask fun _ => lastStep_ne_overlapsRoot) fun last => ?_
  cases last.step with
  | here | up => exact avoids_throw (by simp)
  | into name =>
    dsimp only
    split
    · exact avoids_bind (avoids_throw (by simp)) fun _ => avoids_bind avoids_get fun fs => by
        split
        · exact avoids_bind (avoids_throw (by simp)) fun _ => avoids_modify _
        · exact avoids_modify _
    · refine avoids_bind avoids_get fun fs => ?_
      split
      · exact avoids_bind (avoids_throw (by simp)) fun _ => avoids_modify _
      · exact avoids_modify _

private theorem ensureDirectory_avoids (p : Path) : Avoids .overlapsRoot (ensureDirectory p) := by
  refine avoids_tryCatch (makeDirectory_avoids p) fun fault hfault => avoids_bind avoids_get ?_
  intro fs
  split
  · exact avoids_pure _
  · exact avoids_throw hfault

/-- Making directories is no comparison with the roots. -/
theorem makeDirectories_avoids (p : Path) : Avoids .overlapsRoot (makeDirectories p) := by
  rw [makeDirectories]
  induction lineage (p.text.bytes.length + 1) p with
  | nil => exact avoids_pure _
  | cons p outer ih =>
    refine avoids_tryCatch (ensureDirectory_avoids p) fun fault hfault => ?_
    split
    · exact avoids_bind ih fun _ => ensureDirectory_avoids p
    · exact avoids_throw hfault

end MarkdownPages
