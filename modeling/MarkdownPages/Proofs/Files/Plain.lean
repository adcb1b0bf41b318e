import MarkdownPages.Proofs.Files.Canonical
import MarkdownPages.Proofs.Files.Storing

/-!
# File systems without links

Where there are no links, names lead nowhere but to the place that they make up. So a canonical path
leads to its own place as soon as something stands there, and renewing it makes an empty directory
there and the missing ones on the way, whatever else there is.

## Main definitions

* `Entry.isPlain` — whether a tree holds no link

## Main results

* `FileSystem.LinkFree.canonical_ofNames_eq_ok` — where canonical paths lead
* `FileSystem.LinkFree.eq_of_aims` — where they lead once all that is missing is made
* `FileSystem.LinkFree.renews` — what has happened if a place was renewed
-/

namespace MarkdownPages

/-! ### Trees without links -/

namespace Entry

mutual

/-- Whether a tree holds no link. -/
def isPlain : Entry → Bool
  | file _ => true
  | link _ => false
  | directory entries => isPlainAll entries

/-- Whether there is no link below several names. -/
def isPlainAll : List (RawText × Entry) → Bool
  | [] => true
  | (_, entry) :: rest => entry.isPlain && isPlainAll rest

end

theorem isPlainAll_iff {entries : List (RawText × Entry)} :
    isPlainAll entries = true ↔ ∀ entry ∈ entries, entry.2.isPlain = true := by
  induction entries with
  | nil => simp [isPlainAll]
  | cons head rest ih => simp [isPlainAll, ih]

/-- Where a tree holds no link, none stands at any place. -/
theorem item?_ne_link_of_isPlain {top : Entry} (h : top.isPlain = true) (place : List RawText)
    (target : Path) : top.item? place ≠ some (.link target) := by
  induction place generalizing top with
  | nil =>
    intro hitem
    cases top with
    | link => cases h
    | file | directory => cases hitem
  | cons name rest ih =>
    intro hitem
    obtain ⟨entry, hentry, hlink⟩ := Option.map_eq_some_iff.mp hitem
    obtain ⟨child, hchild, hrest⟩ := Option.bind_eq_some_iff.mp hentry
    cases top with
    | file | link => cases hchild
    | directory entries =>
      rw [isPlain, isPlainAll_iff] at h
      refine ih (h _ (Ascending.mem_of_get? hchild)) ?_
      rw [item?, hrest, ← hlink]
      rfl

end Entry

/-! ### Canonical paths -/

/-- Without links, names lead to the place that they make up. -/
private theorem Entry.eq_of_leads_names {top : Entry}
    (hplain : ∀ q target, top.item? q ≠ some (.link target)) {base names q : List RawText} {n : Nat}
    (h : top.Leads base (names.map .into) n (.found q)) : q = base ++ names := by
  induction names generalizing base n with
  | nil =>
    cases h
    rw [List.append_nil]
  | cons name rest ih =>
    rw [List.map_cons] at h
    generalize hsteps : rest.map Step.into = steps at h
    cases h with
    | into _ _ _ _ hnext =>
      rw [ih (hsteps ▸ hnext), List.append_assoc, List.singleton_append]
    | link _ _ hentry _ => exact absurd hentry (hplain _ _)

namespace FileSystem

open FileAction

variable {fs after : FileSystem} {place q names : List RawText}

/-- A file system whose tree holds no link. -/
theorem linkFree_of_isPlain (hfs : fs.isProper = true) (h : fs.top.isPlain = true) :
    fs.LinkFree [] :=
  ⟨(isProper_iff.mp hfs).1, fun rest => Entry.item?_ne_link_of_isPlain h rest⟩

namespace LinkFree

/-- What stands anywhere is no link. -/
theorem stands (h : fs.LinkFree []) (hplace : fs.top.item? place ≠ none) :
    fs.top.Stands place := by
  obtain ⟨item, hitem⟩ := Option.ne_none_iff_exists'.mp hplace
  exact ⟨item, hitem, fun target heq => h.plain place target (hitem.trans (by rw [heq]))⟩

/-- **Canonical paths.** One leads to its own place if anything stands there, and else nowhere. -/
theorem canonical_ofNames_eq_ok (h : fs.LinkFree []) (hfs : fs.isProper = true)
    (hnames : ∀ name ∈ names, Path.IsName name) :
    fs.canonical (.ofNames names) = .ok place ↔ place = names ∧ fs.top.item? names ≠ none := by
  constructor
  · intro hcanonical
    obtain ⟨⟨n, -, hleads⟩, hstands⟩ := leads_route_of_canonical hcanonical
    rw [Path.route_ofNames hnames, start, if_pos (by simp)] at hleads
    obtain rfl := Entry.eq_of_leads_names h.plain hleads
    exact ⟨rfl, hstands.ne_none⟩
  · rintro ⟨rfl, hne⟩
    exact canonical_ofNames hfs (h.stands hne)

/-- A canonical path leads as far as there are directories. -/
private theorem reaches_ofNames (h : fs.LinkFree []) (hfs : fs.isProper = true)
    (hnames : ∀ name ∈ names, Path.IsName name) : ∃ there missing, names = there ++ missing ∧
      (Path.ofNames names).route = there.map .into ++ missing.map .into ∧
      fs.Reaches (fs.start (.ofNames names)) (there.map .into) there missing := by
  obtain ⟨there, missing, rfl, hreaches⟩ := h.reaches hfs (Nat.zero_le _) (.done []) names
  refine ⟨there, missing, rfl, by rw [Path.route_ofNames hnames, List.map_append], ?_⟩
  rw [start, if_pos (by simp)]
  simpa using hreaches

theorem eq_of_aims (h : fs.LinkFree []) (hnames : ∀ name ∈ names, Path.IsName name)
    (haims : fs.Aims (.ofNames names) place) : place = names := by
  obtain ⟨init, found, missing, hroute, hreaches, rfl⟩ := haims
  obtain ⟨n, -, hleads⟩ := hreaches.leads
  rw [Path.route_ofNames hnames, List.map_eq_append_iff] at hroute
  obtain ⟨there, rest, rfl, rfl, hrest⟩ := hroute
  rw [start, if_pos (by simp)] at hleads
  obtain rfl := Entry.eq_of_leads_names h.plain hleads
  rw [(List.map_inj_right fun _ _ => Step.into.inj).mp hrest]

/-! ### Renewing a place -/

/-- Where nothing was, the missing directories are made. -/
private theorem renews_of_lengthens {there missing : List RawText}
    (hnone : fs.top.item? (there ++ missing) = none)
    (hlengthens : fs.Lengthens there missing after)
    (hplace : after.top.item? (there ++ missing) = some .directory)
    (hworking : after.working = fs.working) (hproper : after.isProper = true) :
    fs.Renews (there ++ missing) after := by
  have hthere : fs.top.item? there = some .directory := by
    rw [← hlengthens.old there fun made hne _ heq => hne (by simpa using heq)]
    exact Entry.item?_directory_of_isPrefix (List.prefix_append ..) hplace
  have hne : missing ≠ [] := by
    rintro rfl
    rw [List.append_nil, hthere] at hnone
    cases hnone
  refine ⟨fun q => ?_, hworking, hproper⟩
  split
  · rename_i hpre
    rcases List.prefix_or_prefix_of_prefix hpre (List.prefix_append there missing) with
      hold | ⟨made, rfl⟩
    · exact hlengthens.mono (Entry.item?_directory_of_isPrefix hold hthere)
    · have hmade := (List.prefix_append_right_inj there).mp hpre
      by_cases hnil : made = []
      · rw [hnil, List.append_nil]
        exact hlengthens.mono hthere
      · exact hlengthens.new made hnil hmade
  · rename_i hbefore
    split
    · rename_i hpre
      obtain ⟨rest, rfl⟩ := hpre
      cases rest with
      | nil => exact absurd (by simp) hbefore
      | cons name rest => exact hlengthens.below hne name rest
    · refine hlengthens.old q fun made _ hmade heq => hbefore ?_
      rw [heq]
      exact (List.prefix_append_right_inj there).mpr hmade

/-- What is removed at a canonical path is a directory. -/
private theorem directory_of_removes (h : fs.LinkFree [])
    (hnames : ∀ name ∈ names, Path.IsName name)
    (hremoves : fs.Removes (.ofNames names) place after) :
    names ≠ [] ∧ fs.top.item? names = some .directory := by
  obtain ⟨init, directory, name, n, hroute, rfl, -, hleads⟩ := hremoves.leads
  rw [Path.route_ofNames hnames, List.map_eq_append_iff] at hroute
  obtain ⟨before, last, rfl, rfl, hlast⟩ := hroute
  obtain ⟨k, rfl, hk⟩ := List.map_eq_singleton_iff.mp hlast
  obtain rfl := Step.into.inj hk
  rw [start, if_pos (by simp)] at hleads
  obtain rfl := Entry.eq_of_leads_names h.plain (Entry.leads_concat_here.mp hleads).1
  refine ⟨by simp, hremoves.entry.resolve_right fun hlink => ?_⟩
  obtain ⟨target, htarget⟩ := item?_of_link? hlink
  exact h.plain _ _ htarget

/-- **Renewing a place.** If it succeeds, there is an empty directory, whatever was there before. -/
theorem renews (h : fs.LinkFree []) (hfs : fs.isProper = true)
    (hnames : ∀ name ∈ names, Path.IsName name)
    (hok : outcome (renew (.ofNames names)) fs = (.ok (), after)) :
    names ≠ [] ∧ fs.Renews names after := by
  have hrenew := hok
  rw [renew, outcome_bind, outcome_get] at hok
  dsimp only at hok
  by_cases hpresent : fs.present (.ofNames names) = true
  · rw [if_pos hpresent, outcome_bind] at hok
    rcases outcome_removeTree (.ofNames names) hfs with ⟨zone, cleared, -, hremoves⟩ |
      ⟨fault, failed, hfault, -⟩
    · obtain ⟨hne, hdirectory⟩ := h.directory_of_removes hnames hremoves
      obtain ⟨other, hother, hrenews⟩ := outcome_renew_of_directory hfs hdirectory hne
      obtain ⟨-, rfl⟩ := Prod.mk.inj (hother.symm.trans hrenew)
      exact ⟨hne, hrenews⟩
    · rw [hfault] at hok
      cases hok
  · rw [if_neg hpresent] at hok
    have hnone : fs.top.item? names = none := Classical.byContradiction fun hne =>
      hpresent (present_iff.mpr ⟨_, (h.canonical_ofNames_eq_ok hfs hnames).mpr ⟨rfl, hne⟩⟩)
    have hne : names ≠ [] := by
      rintro rfl
      rw [(isProper_iff.mp hfs).1] at hnone
      cases hnone
    have hparent : (Path.ofNames names).parent?.isSome = true := by
      rw [Option.isSome_iff_ne_none]
      intro hnil
      have hroute := Path.route_eq_nil_of_parent? hnil
      rw [Path.route_ofNames hnames] at hroute
      exact hne (List.map_eq_nil_iff.mp hroute)
    obtain ⟨there, missing, rfl, hroute, hreaches⟩ := h.reaches_ofNames hfs hnames
    obtain ⟨hgrows, -⟩ := grows_makeDirectories (.ofNames (there ++ missing)) hfs
    obtain ⟨made, -, hlengthens, hall⟩ := lengthens_makeDirectories hfs hreaches hroute
    rw [hok] at hgrows hlengthens hall
    obtain ⟨rfl, -, hplace⟩ := hall rfl hparent
    exact ⟨hne, renews_of_lengthens hnone hlengthens hplace hgrows.working (hgrows.proper hfs)⟩

end LinkFree

/-- Renewing a place makes no links. -/
theorem Renews.linkFree (h : fs.Renews place after) (hplain : fs.LinkFree []) :
    after.LinkFree [] := by
  refine ⟨h.item_of_isPrefix List.nil_prefix, fun q target hq => ?_⟩
  rw [h.item] at hq
  split at hq
  · cases hq
  · split at hq
    · cases hq
    · exact hplain.plain q target hq

/-- Making directories makes no links. -/
theorem Grows.linkFree {paths : List Path} (h : fs.Grows paths after) (hfs : fs.isProper = true)
    (hplain : fs.LinkFree []) : after.LinkFree [] := by
  refine ⟨h.mono hplain.directory, fun q target hq => ?_⟩
  rcases h.settles hfs q with hsame | ⟨-, hmade, -⟩
  · exact hplain.plain q target (hsame ▸ hq)
  · rw [List.nil_append, hmade] at hq
    cases hq

end FileSystem

end MarkdownPages
