import MarkdownPages.Proofs.Files.Making

/-!
# The missing end of a way

A route leads as far as it leads; behind that there are names of directories that do not exist.
Making the directory at its end makes these directories, the first in the place where the route
ends so far and each other one in the one before it. It makes no others: where the way passes a
place twice, or crosses itself by a step `..`, there is no name that is missing twice.

## Main definitions

* `FileSystem.Reaches` — how far a route leads, and the names that are missing
* `FileSystem.Lengthens` — one file system is another with directories in each other

## Main results

* `FileSystem.Reaches.makes` — one step: the directory that is made is the next one
* `FileSystem.Grows.lengthens` — a whole run makes the first of the missing directories
* `lengthens_makeDirectories` — if it succeeds, it has made them all
-/

namespace MarkdownPages

namespace FileSystem

/-- The first steps of a route lead to a place, and the names that follow lead to no directory,
not even the first. -/
structure Reaches (fs : FileSystem) (start : List RawText) (init : List Step)
    (place missing : List RawText) : Prop where
  leads : ∃ n ≤ maxLinks, fs.top.Leads start init n (.found place)
  stuck : ∀ name rest, missing = name :: rest → ∀ n ≤ maxLinks, ∀ q,
    ¬ fs.top.Leads start (init ++ [.into name, .here]) n (.found q)

/-- One file system is another with directories in each other, the outermost at a place where it
is the first of some names. -/
structure Lengthens (fs : FileSystem) (place names : List RawText) (after : FileSystem) :
    Prop where
  free : ∀ name rest, names = name :: rest → fs.top.item? (place ++ [name]) = none
  new : ∀ made, made ≠ [] → made <+: names → after.top.item? (place ++ made) = some .directory
  old : ∀ q, (∀ made, made ≠ [] → made <+: names → q ≠ place ++ made) →
    after.top.item? q = fs.top.item? q

variable {fs middle after : FileSystem} {p : Path} {start place made missing names : List RawText}
  {init : List Step}

namespace Lengthens

theorem refl (fs : FileSystem) (place : List RawText) : fs.Lengthens place [] fs :=
  ⟨by simp, fun _ hne hpre => absurd (List.prefix_nil.mp hpre) hne, fun _ _ => rfl⟩

/-- The places at which directories were made were free. -/
theorem free_of_isPrefix (h : fs.Lengthens place names after) (hne : made ≠ [])
    (hmade : made <+: names) (rest : List RawText) :
    fs.top.item? (place ++ made ++ rest) = none := by
  obtain ⟨name, made, rfl⟩ := List.exists_cons_of_ne_nil hne
  obtain ⟨more, rfl⟩ := hmade
  refine Entry.item?_none_of_isPrefix ?_ (h.free name (made ++ more) rfl)
  exact ⟨made ++ rest, by simp⟩

theorem mono (h : fs.Lengthens place names after) {q : List RawText} {item : Item}
    (hq : fs.top.item? q = some item) : after.top.item? q = some item := by
  rw [h.old q, hq]
  rintro made hne hmade rfl
  rw [← List.append_nil (place ++ made), h.free_of_isPrefix hne hmade] at hq
  cases hq

/-- The innermost directory that was made is empty. -/
theorem below (h : fs.Lengthens place names after) (hne : names ≠ []) (name : RawText)
    (rest : List RawText) : after.top.item? (place ++ names ++ name :: rest) = none := by
  rw [h.old, h.free_of_isPrefix hne List.prefix_rfl]
  rintro made _ hmade heq
  rw [List.append_assoc, List.append_cancel_left_eq] at heq
  have hlength := hmade.length_le
  rw [← heq, List.length_append, List.length_cons] at hlength
  omega

/-- Outside of the first directory that was made, nothing changed. -/
theorem item_of_not_isPrefix (h : fs.Lengthens place names after) {q : List RawText}
    (hq : ∀ name rest, names = name :: rest → ¬ place ++ [name] <+: q) :
    after.top.item? q = fs.top.item? q := by
  refine h.old q fun made hne hmade heq => ?_
  obtain ⟨name, made, rfl⟩ := List.exists_cons_of_ne_nil hne
  obtain ⟨more, rfl⟩ := hmade
  exact hq name (made ++ more) rfl ⟨made, by simp [heq]⟩

/-- One more directory in the innermost one. -/
theorem snoc (h : fs.Lengthens place names middle) {name : RawText}
    (hgains : middle.Gains (place ++ names ++ [name]) .directory after) :
    fs.Lengthens place (names ++ [name]) after := by
  refine ⟨fun first rest heq => ?_, fun made hne hmade => ?_, fun q hq => ?_⟩
  · cases names with
    | nil =>
      obtain ⟨rfl, -⟩ := List.cons.inj heq
      have hfree := hgains.free
      rwa [List.append_nil, h.item_of_not_isPrefix (by simp)] at hfree
    | cons k names =>
      obtain ⟨rfl, -⟩ := List.cons.inj heq
      exact h.free k names rfl
  · rcases List.prefix_concat_iff.mp hmade with rfl | hmade
    · rw [← List.append_assoc]
      exact hgains.item_self
    · exact hgains.mono (h.new made hne hmade)
  · rw [hgains.item_of_ne, h.old]
    · exact fun made hne hmade => hq made hne (hmade.trans (List.prefix_append ..))
    · rw [List.append_assoc]
      exact hq _ (by simp) List.prefix_rfl

end Lengthens

/-! ### One step -/

/-- How far the route leads once some of the missing directories are made. -/
theorem Reaches.of_leads (hreach : fs.Reaches start init place missing)
    (hmiddle : fs.Lengthens place made middle) (hmade : made <+: missing) {taken : List RawText}
    (htaken : taken <+: missing) {n : Nat} (hn : n ≤ maxLinks) {q : List RawText}
    (h : middle.top.Leads start (init ++ taken.map .into ++ [.here]) n (.found q)) :
    taken <+: made ∧ q = place ++ taken := by
  obtain ⟨k, -, hinit⟩ := hreach.leads
  rw [List.append_assoc] at h
  obtain ⟨a, b, x, rfl, hfirst, hsecond⟩ := h.split (by simp)
  obtain rfl := Halt.found.inj ((hinit.mono fun q item => hmiddle.mono).unique hfirst)
  by_cases hle : taken <+: made
  · have hend := hsecond.along fun names hne hnames => hmiddle.new names hne (hnames.trans hle)
    cases hend with
    | here _ hdone =>
      cases hdone
      exact ⟨hle, rfl⟩
  · exfalso
    obtain ⟨rest, rfl⟩ := (List.prefix_or_prefix_of_prefix htaken hmade).resolve_left hle
    cases rest with
    | nil => exact hle (by simp)
    | cons name rest =>
      rw [List.map_append, List.append_assoc] at hsecond
      have hnext := hsecond.along hmiddle.new
      cases made with
      | cons k made =>
        exact hnext.entry (hmiddle.below (by simp) name [])
      | nil =>
        -- nothing is made yet, so the next step goes where it went at first
        rw [List.append_nil] at hnext
        obtain ⟨c, d, y, rfl, hstep, hrest⟩ :=
          Entry.Leads.split (show middle.top.Leads place
            ([.into name] ++ (rest.map .into ++ [.here])) b (.found q) from hnext) (by simp)
        have hdirectory : middle.top.item? y = some .directory := by
          cases rest with
          | nil => exact hrest.directory
          | cons => exact hrest.directory
        have hwalk : middle.top.Leads start (init ++ [.into name, .here]) (a + c) (.found y) :=
          hfirst.append (Entry.leads_concat_here.mpr ⟨hstep, hdirectory⟩)
        obtain ⟨more, rfl⟩ := htaken
        refine hreach.stuck name (rest ++ more) rfl (a + c) (by omega) y
          (hwalk.mono fun q item hq => ?_)
        rwa [hmiddle.item_of_not_isPrefix (by simp)] at hq

/-- The beginnings of a route that ends in names. -/
private theorem prefix_cases {before : List Step} {name : RawText}
    (h : before ++ [.into name] <+: init ++ missing.map .into) :
    before ++ [.into name] <+: init ∨
      ∃ taken, taken ++ [name] <+: missing ∧ before = init ++ taken.map .into := by
  rcases List.prefix_or_prefix_of_prefix h (List.prefix_append ..) with hinit | hinit
  · exact .inl hinit
  · rcases List.prefix_concat_iff.mp hinit with rfl | hbefore
    · exact .inl List.prefix_rfl
    · obtain ⟨steps, rfl⟩ := hbefore
      rw [List.append_assoc, List.prefix_append_right_inj] at h
      obtain ⟨names, hnames, heq⟩ := List.prefix_map_iff.mp h
      obtain ⟨taken, last, rfl, rfl, hlast⟩ := List.append_eq_map_iff.mp heq
      obtain ⟨k, rfl, hk⟩ := List.map_eq_singleton_iff.mp hlast
      obtain rfl := Step.into.inj hk
      exact .inr ⟨taken, hnames, rfl⟩

/-- **One step.** A directory that is made on the route is the next one that is missing. -/
theorem Reaches.makes (hreach : fs.Reaches start init place missing)
    (hmiddle : fs.Lengthens place made middle) (hmade : made <+: missing) {new : List RawText}
    (hmakes : middle.Makes p new after) (hstart : middle.start p = start)
    (hroute : p.route <+: init ++ missing.map .into) :
    ∃ name, made ++ [name] <+: missing ∧ fs.Lengthens place (made ++ [name]) after := by
  obtain ⟨before, directory, name, n, hp, rfl, hn, hleads⟩ := hmakes.leads
  obtain ⟨k, -, hinit⟩ := hreach.leads
  rw [hstart] at hleads
  rcases prefix_cases (hp ▸ hroute) with ⟨rest, rfl⟩ | ⟨taken, htaken, rfl⟩
  · -- the route leads on behind the new directory, so it was there before
    exfalso
    have hwalk : middle.top.Leads start (before ++ [.into name] ++ rest) k (.found place) :=
      hinit.mono fun q item => hmiddle.mono
    rw [List.append_assoc] at hwalk
    obtain ⟨a, b, x, rfl, hfirst, hsecond⟩ := hwalk.split (by simp)
    obtain rfl := Halt.found.inj (hfirst.unique (Entry.leads_concat_here.mp hleads).1)
    exact hsecond.entry hmakes.free
  · obtain ⟨hle, rfl⟩ := hreach.of_leads hmiddle hmade ((List.prefix_append ..).trans htaken) hn
      hleads
    have hnew : ¬ taken ++ [name] <+: made := by
      intro hpre
      have hthere := hmiddle.new _ (by simp) hpre
      rw [← List.append_assoc, hmakes.free] at hthere
      cases hthere
    have hge : made <+: taken := by
      have hcases := (List.prefix_or_prefix_of_prefix hmade htaken).resolve_right hnew
      refine (List.prefix_concat_iff.mp hcases).resolve_left ?_
      rintro rfl
      exact hnew List.prefix_rfl
    obtain rfl := hle.eq_of_length (Nat.le_antisymm hle.length_le hge.length_le)
    exact ⟨name, htaken, hmiddle.snoc hmakes.toGains⟩

/-! ### Whole runs -/

/-- **A whole run.** Directories that are made on a route are the first of those that are
missing. -/
theorem Grows.lengthens {paths : List Path} (h : fs.Grows paths after)
    (hreach : fs.Reaches start init place missing)
    (hpaths : ∀ p ∈ paths, fs.start p = start ∧ p.route <+: init ++ missing.map .into) :
    ∃ made, made <+: missing ∧ fs.Lengthens place made after := by
  induction h with
  | refl => exact ⟨[], List.nil_prefix, .refl fs place⟩
  | step hbefore hmem hmakes ih =>
    obtain ⟨made, hmade, hmiddle⟩ := ih
    obtain ⟨hstart, hroute⟩ := hpaths _ hmem
    obtain ⟨name, hnext, hafter⟩ :=
      hreach.makes hmiddle hmade hmakes ((hbefore.start _).trans hstart) hroute
    exact ⟨_, hnext, hafter⟩

/-- Where the route leads to a directory, none of the directories is missing any more. -/
theorem Reaches.canonical (hreach : fs.Reaches start init place missing)
    (hafter : fs.Lengthens place made after) (hmade : made <+: missing)
    (hstart : after.start p = start) (hroute : p.route = init ++ missing.map .into)
    (hdirectory : after.isDirectory p = true) :
    made = missing ∧ after.canonical p = .ok (place ++ missing) ∧
      after.top.item? (place ++ missing) = some .directory := by
  obtain ⟨q, hcanonical, hq⟩ := isDirectory_iff.mp hdirectory
  obtain ⟨⟨n, hn, hleads⟩, -⟩ := leads_route_of_canonical hcanonical
  rw [hstart, hroute] at hleads
  obtain ⟨hle, rfl⟩ := hreach.of_leads hafter hmade List.prefix_rfl hn
    (Entry.leads_concat_here.mpr ⟨hleads, hq⟩)
  exact ⟨hmade.eq_of_length (Nat.le_antisymm hmade.length_le hle.length_le), hcanonical, hq⟩

end FileSystem

open FileSystem FileAction

/-- **Making directories on a way.** The first of those that are missing are made. If nothing
fails they are all made, and the path leads to the last one. -/
theorem lengthens_makeDirectories {fs : FileSystem} (hfs : fs.isProper = true) {p : Path}
    {init : List Step} {place missing : List RawText}
    (hreach : fs.Reaches (fs.start p) init place missing)
    (hroute : p.route = init ++ missing.map .into) :
    ∃ made, made <+: missing ∧ fs.Lengthens place made (outcome (makeDirectories p) fs).2 ∧
      ((outcome (makeDirectories p) fs).1 = .ok () → p.parent?.isSome = true →
        made = missing ∧ (outcome (makeDirectories p) fs).2.canonical p = .ok (place ++ missing) ∧
          (outcome (makeDirectories p) fs).2.top.item? (place ++ missing) = some .directory) := by
  obtain ⟨hgrows, hdirectory⟩ := grows_makeDirectories p hfs
  obtain ⟨made, hmade, hafter⟩ := hgrows.lengthens hreach fun q hq => by
    obtain ⟨habsolute, hpre⟩ := route_of_mem_lineage hq
    exact ⟨by rw [start, start, habsolute], hroute ▸ hpre⟩
  refine ⟨made, hmade, hafter, fun hok hparent => ?_⟩
  exact hreach.canonical hafter hmade (hgrows.start p) hroute (hdirectory hok hparent)

end MarkdownPages
