import MarkdownPages.Proofs.Files.Clearing

/-!
# Making what was removed

Once the tree to which a path leads is removed, the directories on the path are made again, one by
one. The removal may have taken away directories on the way, since a path can go through the tree
and leave it by a step `..`. Such a directory is made at the place where it was, so the path goes
the same way as before. A link that was taken away is another matter: a directory is made in its
place, and from there the path goes elsewhere.

## Main definitions

* `FileSystem.KeepsLinks` — no link on the way is gone
* `FileSystem.Restores` — what is made was there before
* `FileSystem.LeadsToBare` — a path leads to a directory with nothing but directories below

## Main results

* `outcome_makeDirectories_of_keepsLinks` — what is removed is made again at the same place
-/

namespace MarkdownPages

open FileAction

namespace FileSystem

/-- No link to which the paths that hold a path lead is gone. -/
def KeepsLinks (fs : FileSystem) (p : Path) (after : FileSystem) : Prop :=
  ∀ q ∈ (lineage (p.text.bytes.length + 1) p).tail, ∀ link, fs.link? q = some link →
    after.top.item? link ≠ none

/-- A path leads to a directory with nothing but directories below. -/
structure LeadsToBare (fs : FileSystem) (p : Path) (place : List RawText) : Prop where
  canonical : fs.canonical p = .ok place
  directory : fs.top.item? place = some .directory
  bare : ∀ rest item, fs.top.item? (place ++ rest) = some item → item = .directory

/-- What there is after a removal was there before, and is new only where something was removed. -/
structure Restores (fs cleared : FileSystem) (zone : List RawText) (after : FileSystem) : Prop where
  mono : ∀ q item, after.top.item? q = some item → fs.top.item? q = some item
  within : cleared.DiffersWithin zone after

variable {fs cleared middle after : FileSystem} {p q : Path} {zone place : List RawText}

/-- If no path that holds the given one leads to a link, none can be gone. -/
theorem keepsLinks_of_none
    (h : ∀ q ∈ (lineage (p.text.bytes.length + 1) p).tail, fs.link? q = none) :
    fs.KeepsLinks p after := by
  intro q hq link hlink
  rw [h q hq] at hlink
  cases hlink

theorem Gains.differsWithin {item : Item} (h : middle.Gains place item after)
    (hplace : zone <+: place) : middle.DiffersWithin zone after := by
  refine ⟨fun q hq => h.item_of_ne ?_, h.working, h.proper⟩
  rintro rfl
  exact hq hplace

/-- No directory is made on the way of a path that leads somewhere: every step finds an entry. -/
theorem not_makes_of_canonical {reached : List RawText} (hcanonical : fs.canonical p = .ok reached)
    (hq : q ∈ lineage (p.text.bytes.length + 1) p) : ¬ fs.Makes q place after := by
  intro hmakes
  obtain ⟨⟨n, -, hwalk⟩, -⟩ := leads_route_of_canonical hcanonical
  obtain ⟨habsolute, rest, hrest⟩ := route_of_mem_lineage hq
  obtain ⟨init, directory, name, m, hroute, rfl, -, hleads⟩ := hmakes.leads
  have hstart : fs.start q = fs.start p := by rw [start, start, habsolute]
  rw [← hrest, hroute, List.append_assoc] at hwalk
  obtain ⟨a, b, between, -, hfirst, hsecond⟩ := hwalk.split (by simp)
  rw [hstart] at hleads
  obtain rfl := Halt.found.inj ((Entry.leads_concat_here.mp hleads).1.unique hfirst)
  exact hsecond.entry hmakes.free

section Removed

variable (hfs : fs.isProper = true) (hremoves : fs.Removes p zone cleared)

include hremoves

/-- Where something was and nothing is, it was removed. -/
theorem Removes.isPrefix_of_gone (hthere : fs.top.item? place ≠ none)
    (hgone : cleared.top.item? place = none) : zone <+: place :=
  Classical.byContradiction fun hout => hthere (hremoves.item place hout ▸ hgone)

/-- What is made under the path itself is made where the removed tree stood. -/
theorem Restores.eq_of_makes (h : fs.Restores cleared zone middle)
    (hmakes : middle.Makes p place after) : place = zone := by
  obtain ⟨init, directory, name, n, hroute, rfl, -, hleads⟩ := hmakes.leads
  obtain ⟨init', directory', name', n', hroute', rfl, -, hleads'⟩ := hremoves.leads
  obtain ⟨rfl, hname⟩ := List.append_inj' (hroute.symm.trans hroute') rfl
  obtain rfl := Step.into.inj (List.singleton_inj.mp hname)
  rw [h.within.start, hremoves.start] at hleads
  obtain rfl := Halt.found.inj ((hleads.mono h.mono).unique hleads')
  rfl

/-- What is made on the way was a directory before. -/
theorem Restores.item?_of_makes (h : fs.Restores cleared zone middle)
    (hfree : cleared.top.item? place = none) (hkeeps : fs.KeepsLinks p cleared)
    (hq : q ∈ (lineage (p.text.bytes.length + 1) p).tail) (hmakes : middle.Makes q place after) :
    fs.top.item? place = some .directory := by
  obtain ⟨init, directory, name, n, hroute, rfl, hn, hleads⟩ := hmakes.leads
  obtain ⟨init', directory', name', n', hroute', rfl, -, hleads'⟩ := hremoves.leads
  obtain ⟨hpre, hlast⟩ := route_of_mem_tail_lineage hq
  have habsolute := (route_of_mem_lineage (List.mem_of_mem_tail hq)).1
  have hstart : middle.start q = fs.start p := by
    rw [h.within.start, hremoves.start, start, start, habsolute]
  -- the way to the removed tree led over the place
  obtain ⟨rest, hrest⟩ := hpre
  rw [hroute', List.dropLast_concat, hroute] at hrest
  rw [hstart] at hleads
  have hbefore := hleads.mono h.mono
  rw [← hrest, List.append_assoc, List.append_assoc] at hleads'
  obtain ⟨a, b, reached, -, hfirst, hsecond⟩ := hleads'.split (by simp)
  obtain rfl := Halt.found.inj ((Entry.leads_concat_here.mp hbefore).1.unique hfirst)
  generalize hmore : rest ++ [Step.here] = more at hsecond
  obtain ⟨step, more, rfl⟩ : ∃ step others, more = step :: others :=
    List.exists_cons_of_ne_nil (by simp [← hmore])
  cases hsecond with
  | into _ _ _ _ hnext => exact hnext.directory
  | link _ _ hlink _ =>
    have hstart' : fs.start q = fs.start p := by rw [start, start, habsolute]
    have hnamed := link?_of_leads hmakes.admits (hlast (by simp [hroute])) hroute hn
      (hstart' ▸ hbefore) hlink
    exact absurd hfree (hkeeps q hq _ hnamed)

include hfs

/-- **Making what was removed.** As long as the path leads nowhere, what is made was there before.
The last step makes a directory where the removed tree stood, and then nothing is missing any
more. -/
theorem Removes.restores_of_grows (hkeeps : fs.KeepsLinks p cleared)
    (hgrows : Grows (lineage (p.text.bytes.length + 1) p) cleared after) :
    fs.Restores cleared zone after ∨
      ∃ middle, fs.Restores cleared zone middle ∧ middle.Makes p zone after := by
  induction hgrows with
  | refl => exact .inl ⟨fun _ _ => hremoves.mono, .refl cleared zone⟩
  | @step middle after q place hbefore hmem hmakes ih =>
    rcases ih with hrestores | ⟨earlier, hearlier, hmade⟩
    · by_cases hq : q = p
      · subst hq
        exact .inr ⟨middle, hrestores, hrestores.eq_of_makes hremoves hmakes ▸ hmakes⟩
      · have htail := mem_tail_lineage hmem hq
        have hfree : cleared.top.item? place = none := by
          cases hitem : cleared.top.item? place with
          | none => rfl
          | some item => cases hmakes.free.symm.trans (hbefore.mono hitem)
        have hdirectory := hrestores.item?_of_makes hremoves hfree hkeeps htail hmakes
        have hzone := hremoves.isPrefix_of_gone (by rw [hdirectory]; simp) hfree
        refine .inl ⟨fun x item hx => ?_, hrestores.within.trans (hmakes.differsWithin hzone)⟩
        rw [hmakes.item] at hx
        split at hx
        · rename_i hsame
          rw [hsame, hdirectory, hx]
        · exact hrestores.mono x item hx
    · have hproper := hearlier.within.proper (hremoves.proper hfs)
      exact absurd hmakes (not_makes_of_canonical (hmade.canonical hproper) hmem)

/-- The path leads to the place of the removed tree again. -/
theorem Removes.canonical_eq (hkeeps : fs.KeepsLinks p cleared)
    (hgrows : Grows (lineage (p.text.bytes.length + 1) p) cleared after)
    (hafter : after.canonical p = .ok place) : place = zone := by
  rcases hremoves.restores_of_grows hfs hkeeps hgrows with hrestores | ⟨middle, hmiddle, hmade⟩
  · obtain ⟨⟨n, -, hwalk⟩, -⟩ := leads_route_of_canonical hafter
    rw [hrestores.within.start, hremoves.start] at hwalk
    obtain ⟨init, directory, name, m, hroute, rfl, -, hleads⟩ := hremoves.leads
    have hbefore := hwalk.mono hrestores.mono
    -- a directory was made in place of the tree, so the tree was no link
    rw [hroute] at hwalk
    obtain ⟨a, b, reached, -, hfirst, hsecond⟩ := hwalk.split (by simp)
    obtain rfl := Halt.found.inj
      ((Entry.leads_concat_here.mp hleads).1.unique (hfirst.mono hrestores.mono))
    obtain ⟨item, hitem⟩ := Option.ne_none_iff_exists'.mp hsecond.entry
    rcases hgrows.settles (hremoves.proper hfs) (directory ++ [name]) with hsame | ⟨-, hnew, -⟩
    · rw [hremoves.gone _ List.prefix_rfl, hitem] at hsame
      cases hsame
    · obtain ⟨k, -, hthere⟩ := hremoves.leads_route hfs (hrestores.mono _ _ hnew)
      exact Halt.found.inj (hbefore.unique hthere)
  · have hproper := hmiddle.within.proper (hremoves.proper hfs)
    exact Except.ok.inj (hafter.symm.trans (hmade.canonical hproper))

end Removed

end FileSystem

open FileSystem

/-- **Making what was removed.** If no link on the way is gone, nothing changes but where something
was removed, and in the end the path leads to a directory there. -/
theorem outcome_makeDirectories_of_keepsLinks {fs cleared : FileSystem} (hfs : fs.isProper = true)
    {p : Path} {zone : List RawText} (hremoves : fs.Removes p zone cleared)
    (hkeeps : fs.KeepsLinks p cleared) :
    cleared.DiffersWithin zone (outcome (makeDirectories p) cleared).2 ∧
      ((outcome (makeDirectories p) cleared).1 = .ok () →
        (outcome (makeDirectories p) cleared).2.LeadsToBare p zone) := by
  have hcleared := hremoves.proper hfs
  obtain ⟨hgrows, hok⟩ := grows_makeDirectories p hcleared
  refine ⟨?_, fun hsuccess => ?_⟩
  · rcases hremoves.restores_of_grows hfs hkeeps hgrows with hrestores | ⟨middle, hmiddle, hmade⟩
    · exact hrestores.within
    · exact hmiddle.within.trans (hmade.differsWithin List.prefix_rfl)
  · have hne : p.route ≠ [] := by
      obtain ⟨init, directory, name, n, hroute, -⟩ := hremoves.leads
      simp [hroute]
    have hparent : p.parent?.isSome = true := by
      rw [Option.isSome_iff_ne_none]
      exact fun hnone => hne (Path.route_eq_nil_of_parent? hnone)
    obtain ⟨place, hcanonical, hdirectory⟩ := isDirectory_iff.mp (hok hsuccess hparent)
    obtain rfl := hremoves.canonical_eq hfs hkeeps hgrows hcanonical
    refine ⟨hcanonical, hdirectory, fun rest item hitem => ?_⟩
    rcases hgrows.settles hcleared (place ++ rest) with hsame | ⟨-, hnew, -⟩
    · rw [hremoves.gone _ (List.prefix_append ..), hitem] at hsame
      cases hsame
    · exact Option.some.inj (hitem.symm.trans hnew)

end MarkdownPages
