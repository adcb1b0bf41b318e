import MarkdownPages.Proofs.Files.Remaking

/-!
# Renewing a directory

A directory is renewed by removing what its path leads to and making it again, with the missing ones
on the way. All this happens within one zone: the place to which the path leads once everything is
made, or the link that the path names, or a free place on the way.

That no file is left in the directory afterwards is a different matter. Where the path leads over a
link that is removed, a directory is made in place of the link, and from there the path may lead
anywhere. So it is asked for that no link on the way is removed, or that the path still makes sense
when the removal is done.

## Main definitions

* `FileAction.renew` — makes an empty directory
* `FileSystem.Aims` — the place to which a path leads once all that is missing is made
* `FileSystem.LeadsToEmpty` — a path leads to an empty directory

## Main results

* `outcome_renew` — the zone of the changes, and the directory without files at the end
-/

namespace MarkdownPages

/-- Makes an empty directory in place of what a path leads to. -/
def FileAction.renew (p : Path) : FileAction Unit := do
  if (← get).present p then removeTree p
  makeDirectories p

namespace FileSystem

/-- The place to which a path leads once all that is missing is made. -/
def Aims (fs : FileSystem) (p : Path) (place : List RawText) : Prop :=
  ∃ init found missing, p.route = init ++ missing.map .into ∧
    fs.Reaches (fs.start p) init found missing ∧ place = found ++ missing

/-- A path leads to an empty directory. -/
structure LeadsToEmpty (fs : FileSystem) (p : Path) (place : List RawText) : Prop where
  canonical : fs.canonical p = .ok place
  directory : fs.top.item? place = some .directory
  empty : ∀ name rest, fs.top.item? (place ++ name :: rest) = none

theorem LeadsToEmpty.leadsToBare {fs : FileSystem} {p : Path} {place : List RawText}
    (h : fs.LeadsToEmpty p place) : fs.LeadsToBare p place := by
  refine ⟨h.canonical, h.directory, fun rest item hitem => ?_⟩
  cases rest with
  | nil =>
    rw [List.append_nil, h.directory] at hitem
    exact (Option.some.inj hitem).symm
  | cons name rest =>
    rw [h.empty] at hitem
    cases hitem

variable {fs after cleared : FileSystem} {p : Path} {place zone q : List RawText}

/-- Where a path leads to a directory, nothing is missing. -/
theorem Aims.eq_of_directory (h : fs.Aims p place) {n : Nat} (hn : n ≤ maxLinks)
    (hleads : fs.top.Leads (fs.start p) p.route n (.found q))
    (hdirectory : fs.top.item? q = some .directory) : place = q := by
  obtain ⟨init, found, missing, hroute, hreaches, rfl⟩ := h
  rw [hroute] at hleads
  exact (hreaches.of_leads (.refl fs found) List.nil_prefix List.prefix_rfl hn
    (Entry.leads_concat_here.mpr ⟨hleads, hdirectory⟩)).2.symm

/-- Where a path leads does not change if nothing does. -/
theorem Lengthens.canonical_of_nil (h : fs.Lengthens place [] after)
    (hworking : after.working = fs.working) (hq : after.canonical p = .ok q) :
    fs.canonical p = .ok q := by
  obtain ⟨hadmits, n, hn, hleads⟩ := canonical_eq_ok.mp hq
  rw [start, hworking, ← start] at hleads
  refine canonical_eq_ok.mpr ⟨hadmits, n, hn, hleads.mono fun q item hitem => ?_⟩
  rwa [h.item_of_not_isPrefix (by simp)] at hitem

/-- A tree cannot be removed and be there afterwards. -/
theorem Removes.canonical_ne (h : fs.Removes p place after) (q : List RawText) :
    after.canonical p ≠ .ok q := by
  intro hq
  obtain ⟨init, directory, name, n, hroute, rfl, hn, hleads⟩ := h.leads
  obtain ⟨⟨m, -, hwalk⟩, -⟩ := leads_route_of_canonical hq
  rw [hroute, h.start] at hwalk
  obtain ⟨a, b, middle, rfl, hfirst, hsecond⟩ := hwalk.split (by simp)
  have hbefore := hfirst.mono fun q item => h.mono
  obtain rfl := Halt.found.inj ((Entry.leads_concat_here.mp hleads).1.unique hbefore)
  exact hsecond.entry (h.gone _ List.prefix_rfl)

end FileSystem

open FileSystem FileAction

section Making

variable {fs : FileSystem} (hfs : fs.isProper = true) {p : Path} {init : List Step}
  {found missing : List RawText} (hreach : fs.Reaches (fs.start p) init found missing)
  (hroute : p.route = init ++ missing.map .into) (hne : p.route ≠ [])
  (habsent : ∀ q, fs.canonical p ≠ .ok q)

include hfs hreach hroute hne habsent

/-- Where a path leads nowhere, it leads to an empty directory once that is made. -/
theorem leadsToEmpty_makeDirectories :
    ∃ made, made <+: missing ∧ fs.Lengthens found made (outcome (makeDirectories p) fs).2 ∧
      ((outcome (makeDirectories p) fs).1 = .ok () → made = missing ∧ missing ≠ [] ∧
        (outcome (makeDirectories p) fs).2.LeadsToEmpty p (found ++ missing)) := by
  obtain ⟨made, hmade, hlengthens, hok⟩ := lengthens_makeDirectories hfs hreach hroute
  have hworking := (grows_makeDirectories p hfs).1.working
  refine ⟨made, hmade, hlengthens, fun hsuccess => ?_⟩
  have hparent : p.parent?.isSome = true := by
    rw [Option.isSome_iff_ne_none]
    exact fun hnone => hne (Path.route_eq_nil_of_parent? hnone)
  obtain ⟨rfl, hcanonical, hdirectory⟩ := hok hsuccess hparent
  have hmissing : made ≠ [] := by
    rintro rfl
    exact habsent _ (hlengthens.canonical_of_nil hworking hcanonical)
  exact ⟨rfl, hmissing, hcanonical, hdirectory, hlengthens.below hmissing⟩

end Making

/-- What is missing on the way is made, if the path leads nowhere so far. -/
private theorem outcome_makeDirectories_of_absent {fs : FileSystem} (hfs : fs.isProper = true)
    {p : Path} {place : List RawText} (haims : fs.Aims p place) (hne : p.route ≠ [])
    (habsent : ∀ q, fs.canonical p ≠ .ok q) :
    ∃ zone, fs.DiffersWithin zone (outcome (makeDirectories p) fs).2 ∧
      (zone = place ∨ zone <+: place ∧ fs.top.item? zone = none) ∧
      ((outcome (makeDirectories p) fs).1 = .ok () → ∃ q, zone <+: q ∧
        (outcome (makeDirectories p) fs).2.LeadsToBare p q) := by
  obtain ⟨init, found, missing, hroute, hreach, rfl⟩ := haims
  obtain ⟨made, hmade, hlengthens, hok⟩ :=
    leadsToEmpty_makeDirectories hfs hreach hroute hne habsent
  have hgrows := (grows_makeDirectories p hfs).1
  cases made with
  | nil =>
    refine ⟨found ++ missing, hlengthens.differsWithin hgrows.working hgrows.proper (by simp),
      .inl rfl, fun hsuccess => ?_⟩
    exact ⟨_, List.prefix_rfl, (hok hsuccess).2.2.leadsToBare⟩
  | cons name made =>
    have hzone : found ++ [name] <+: found ++ missing :=
      (List.prefix_append_right_inj found).mpr
        ((List.cons_prefix_cons.mpr ⟨rfl, List.nil_prefix⟩).trans hmade)
    refine ⟨found ++ [name], hlengthens.differsWithin hgrows.working hgrows.proper ?_,
      .inr ⟨hzone, hlengthens.free name made rfl⟩, fun hsuccess => ?_⟩
    · intro k rest heq
      obtain ⟨rfl, -⟩ := List.cons.inj heq
      exact List.prefix_rfl
    · exact ⟨_, hzone, (hok hsuccess).2.2.leadsToBare⟩

/-- The first directory that is made stands where the removed tree stood. -/
private theorem zone_eq_of_removes {fs cleared after : FileSystem} {p : Path}
    {zone q found made missing : List RawText} {init : List Step} {name : RawText}
    (hcanonical : fs.canonical p = .ok q) (hremoves : fs.Removes p zone cleared)
    (hroute : p.route = init ++ missing.map .into)
    (hreach : cleared.Reaches (cleared.start p) init found missing)
    (hmade : name :: made <+: missing) (hlengthens : cleared.Lengthens found (name :: made) after) :
    zone = found ++ [name] := by
  obtain ⟨more, rfl⟩ := hmade
  -- the path led to the removed tree by way of the first directory that is missing now
  obtain ⟨⟨n, -, hwalk⟩, -⟩ := leads_route_of_canonical hcanonical
  obtain ⟨m, -, hinit⟩ := hreach.leads
  rw [hremoves.start] at hinit
  rw [hroute] at hwalk
  obtain ⟨a, b, middle, rfl, hfirst, hsecond⟩ := hwalk.split (by simp)
  obtain rfl := Halt.found.inj ((hinit.mono fun q item => hremoves.mono).unique hfirst)
  have hthere : fs.top.item? (found ++ [name]) ≠ none := by
    rw [List.cons_append, List.map_cons] at hsecond
    exact hsecond.entry
  have hpre : zone <+: found ++ [name] := by
    refine Classical.byContradiction fun hout => hthere ?_
    rw [← hremoves.item _ hout, hlengthens.free name made rfl]
  -- what holds it is still there, so it was not removed
  refine (List.prefix_concat_iff.mp hpre).resolve_right fun hfound => ?_
  have hdirectory : cleared.top.item? found = some .directory := by
    have hnew := hlengthens.new [name] (by simp) ⟨made, rfl⟩
    rw [← hlengthens.old found, Entry.item?_directory_of_isPrefix (List.prefix_append ..) hnew]
    intro made hne _ heq
    exact hne (by simpa using heq)
  rw [hremoves.gone found hfound] at hdirectory
  cases hdirectory

/-- What was removed is made again, at the same place, if the path still makes sense. -/
private theorem outcome_makeDirectories_of_aims {fs cleared : FileSystem}
    (hfs : fs.isProper = true) {p : Path} {zone place q : List RawText}
    (hcanonical : fs.canonical p = .ok q) (hremoves : fs.Removes p zone cleared)
    (haims : cleared.Aims p place) :
    cleared.DiffersWithin zone (outcome (makeDirectories p) cleared).2 ∧
      ((outcome (makeDirectories p) cleared).1 = .ok () → ∃ q, zone <+: q ∧
        (outcome (makeDirectories p) cleared).2.LeadsToBare p q) := by
  obtain ⟨init, found, missing, hroute, hreach, rfl⟩ := haims
  have hne : p.route ≠ [] := by
    obtain ⟨before, directory, name, n, hsplit, -⟩ := hremoves.leads
    simp [hsplit]
  have hcleared := hremoves.proper hfs
  obtain ⟨made, hmade, hlengthens, hok⟩ :=
    leadsToEmpty_makeDirectories hcleared hreach hroute hne hremoves.canonical_ne
  have hgrows := (grows_makeDirectories p hcleared).1
  have hzone : ∀ name rest, made = name :: rest → zone = found ++ [name] := by
    rintro name rest rfl
    exact zone_eq_of_removes hcanonical hremoves hroute hreach hmade hlengthens
  refine ⟨hlengthens.differsWithin hgrows.working hgrows.proper fun name rest heq => ?_,
    fun hsuccess => ?_⟩
  · exact hzone name rest heq ▸ List.prefix_rfl
  · obtain ⟨rfl, hmissing, hempty⟩ := hok hsuccess
    obtain ⟨name, rest, rfl⟩ := List.exists_cons_of_ne_nil hmissing
    refine ⟨_, ?_, hempty.leadsToBare⟩
    rw [hzone name rest rfl]
    exact ⟨rest, by simp⟩

/-- What was removed is made again, if no link on the way is gone or the path makes sense without
it. -/
private theorem outcome_makeDirectories_of_removes {fs cleared : FileSystem}
    (hfs : fs.isProper = true) {p : Path} {zone q : List RawText}
    (hcanonical : fs.canonical p = .ok q) (hremoves : fs.Removes p zone cleared)
    (hback : fs.KeepsLinks p cleared ∨ ∃ place, cleared.Aims p place) :
    cleared.DiffersWithin zone (outcome (makeDirectories p) cleared).2 ∧
      ((outcome (makeDirectories p) cleared).1 = .ok () → ∃ q, zone <+: q ∧
        (outcome (makeDirectories p) cleared).2.LeadsToBare p q) := by
  rcases hback with hkeeps | ⟨place, haims⟩
  · obtain ⟨hwithin, hok⟩ := outcome_makeDirectories_of_keepsLinks hfs hremoves hkeeps
    exact ⟨hwithin, fun hsuccess => ⟨zone, List.prefix_rfl, hok hsuccess⟩⟩
  · exact outcome_makeDirectories_of_aims hfs hcanonical hremoves haims

/-- **Renewing a directory.** Whether it succeeds or not, all changes are within one zone. If it
succeeds, the path leads to a directory without files in that zone. -/
theorem outcome_renew {fs : FileSystem} (hfs : fs.isProper = true) {p : Path}
    {place : List RawText} (haims : fs.Aims p place) (htop : p.route = [] → fs.present p = true)
    (hback : fs.present p = true → ∀ cleared, outcome (removeTree p) fs = (.ok (), cleared) →
      fs.KeepsLinks p cleared ∨ ∃ place, cleared.Aims p place) :
    ∃ zone, fs.DiffersWithin zone (outcome (renew p) fs).2 ∧
      (zone = place ∨ fs.link? p = some zone ∨ zone <+: place ∧ fs.top.item? zone = none) ∧
      ((outcome (renew p) fs).1 = .ok () → ∃ q, zone <+: q ∧
        (outcome (renew p) fs).2.LeadsToBare p q) := by
  rw [renew, outcome_bind, outcome_get]
  dsimp only
  by_cases hpresent : fs.present p = true
  · rw [if_pos hpresent, outcome_bind]
    obtain ⟨q, hq⟩ := present_iff.mp hpresent
    rcases outcome_removeTree p hfs with ⟨zone, cleared, hok, hremoves⟩ |
      ⟨fault, after, hfault, rfl | ⟨-, place', hcanonical, hdirectory, hwithin⟩⟩
    · rw [hok]
      obtain ⟨hwithin, hsuccess⟩ :=
        outcome_makeDirectories_of_removes hfs hq hremoves (hback hpresent cleared hok)
      refine ⟨zone, hremoves.toDiffersWithin.trans hwithin, ?_, hsuccess⟩
      refine hremoves.entry.imp (fun hdirectory => ?_) .inl
      obtain ⟨n, hn, hleads⟩ := hremoves.leads_route hfs hdirectory
      exact (haims.eq_of_directory hn hleads hdirectory).symm
    · rw [hfault]
      exact ⟨place, .refl .., .inl rfl, fun h => by cases h⟩
    · rw [hfault]
      obtain ⟨⟨n, hn, hleads⟩, -⟩ := leads_route_of_canonical hcanonical
      exact ⟨place', hwithin, .inl (haims.eq_of_directory hn hleads hdirectory).symm,
        fun h => by cases h⟩
  · rw [if_neg hpresent]
    obtain ⟨zone, hwithin, hzone, hsuccess⟩ := outcome_makeDirectories_of_absent hfs haims
      (fun hroute => hpresent (htop hroute)) fun q hq => hpresent (present_iff.mpr ⟨q, hq⟩)
    exact ⟨zone, hwithin, hzone.imp_right .inr, hsuccess⟩

/-- Renewing a directory is no comparison with the roots. -/
theorem renew_overlapsRoot {fs : FileSystem} (hfs : fs.isProper = true) {p : Path}
    {after : FileSystem} (h : outcome (renew p) fs = (.error .overlapsRoot, after)) :
    after = fs := by
  rw [renew, outcome_bind, outcome_get] at h
  dsimp only at h
  by_cases hpresent : fs.present p = true
  · rw [if_pos hpresent, outcome_bind] at h
    rcases outcome_removeTree p hfs with ⟨zone, cleared, hok, -⟩ |
      ⟨fault, after', hfault, hsame | ⟨hne, -⟩⟩
    · rw [hok] at h
      exact absurd (congrArg Prod.fst h) (makeDirectories_avoids p cleared)
    · rw [hfault] at h
      exact (Prod.mk.inj h).2 ▸ hsame
    · rw [hfault] at h
      exact absurd (Except.error.inj (Prod.mk.inj h).1) hne
  · rw [if_neg hpresent] at h
    exact absurd (congrArg Prod.fst h) (makeDirectories_avoids p fs)

end MarkdownPages
