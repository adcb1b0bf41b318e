import MarkdownPages.Proofs.Files.Clearing

/-!
# Writing files

Writing a file in a directory puts an entry there or replaces what the file held. It does nothing
else, as long as no link stands under its name.

## Main definitions

* `FileSystem.Stores` — one file system is another with a file that holds something

## Main results

* `outcome_writeContent` — a file is written, or nothing happens
-/

namespace MarkdownPages

namespace FileSystem

/-- One file system is another with a file at a place, where there was one before or nothing. -/
structure Stores (fs : FileSystem) (place : List RawText) (content : Content)
    (after : FileSystem) : Prop where
  before : fs.top.item? place = none ∨ ∃ old, fs.top.item? place = some (.file old)
  item : ∀ q, after.top.item? q = if q = place then some (.file content) else fs.top.item? q
  working : after.working = fs.working
  proper : fs.isProper = true → after.isProper = true

variable {fs after : FileSystem} {place q : List RawText} {content : Content}

namespace Stores

theorem item_self (h : fs.Stores place content after) :
    after.top.item? place = some (.file content) := by rw [h.item, if_pos rfl]

theorem item_of_ne (h : fs.Stores place content after) (hq : q ≠ place) :
    after.top.item? q = fs.top.item? q := by rw [h.item, if_neg hq]

theorem differsWithin (h : fs.Stores place content after) : fs.DiffersWithin place after :=
  ⟨fun _ hq => h.item_of_ne fun heq => hq (heq ▸ List.prefix_rfl), h.working, h.proper⟩

theorem start (h : fs.Stores place content after) (p : Path) : after.start p = fs.start p :=
  h.differsWithin.start p

/-- Whatever was there is still there, apart from what a file holds. -/
theorem keeps (h : fs.Stores place content after) {item : Item} (hq : fs.top.item? q = some item) :
    ∃ item', after.top.item? q = some item' ∧ item'.shape = item.shape := by
  by_cases hplace : q = place
  · subst hplace
    refine ⟨_, h.item_self, ?_⟩
    rcases h.before with hfree | ⟨old, hold⟩
    · rw [hfree] at hq
      cases hq
    · rw [hold] at hq
      rw [← Option.some.inj hq]
      rfl
  · exact ⟨item, (h.item_of_ne hplace).trans hq, rfl⟩

/-- The path of a file that is written leads to the file. -/
theorem canonical {directory : List RawText} {name : RawText}
    (h : fs.Stores (directory ++ [name]) content after) (hafter : after.isProper = true) {p : Path}
    (hadmits : admits p = .ok ()) (hlast : p.steps.getLast? ≠ some .here) {init : List Step}
    (hroute : p.route = init ++ [.into name]) {n : Nat} (hn : n ≤ maxLinks)
    (hleads : fs.top.Leads (fs.start p) (init ++ [.here]) n (.found directory)) :
    after.canonical p = .ok (directory ++ [name]) := by
  have hshort := short_of_item? hafter h.item_self name (by simp)
  obtain ⟨hinit, hdirectory⟩ :=
    Entry.leads_concat_here.mp (hleads.mono_shape fun q item => h.keeps)
  refine canonical_of_leads hadmits hlast hn ?_
  rw [hroute, h.start]
  exact hinit.append (.into hdirectory hshort h.item_self (by simp) (.done _))

end Stores

theorem stores_change {old : Content} (h : fs.top.item? place = some (.file old)) :
    fs.Stores place content (fs.change place fun _ => .file content) := by
  obtain ⟨entry, hentry⟩ : ∃ entry, fs.top.at? place = some entry := by
    refine Option.ne_none_iff_exists'.mp fun hnone => ?_
    rw [Entry.item?_eq_none.mpr hnone] at h
    cases h
  have hitem : ∀ q, (fs.top.update (fun _ => .file content) place).item? q =
      if q = place then some (.file content) else fs.top.item? q := by
    intro q
    by_cases hpre : place <+: q
    · obtain ⟨rest, rfl⟩ := hpre
      rw [Entry.item?_append (Entry.at?_update hentry _)]
      cases rest with
      | nil => rw [if_pos (List.append_nil place), Entry.item?_nil, Entry.item]
      | cons k rest =>
        rw [if_neg (by simp), Entry.item?, Entry.at?]
        cases hbelow : fs.top.item? (place ++ k :: rest) with
        | none => rfl
        | some item =>
          have hne : fs.top.item? (place ++ k :: rest) ≠ none := by simp [hbelow]
          have hdirectory := Entry.item?_of_cons hne
          rw [h] at hdirectory
          cases hdirectory
    · rw [if_neg fun heq : q = place => hpre (heq ▸ List.prefix_rfl),
        Entry.item?_update_of_not_isPrefix hpre]
  refine ⟨.inr ⟨old, h⟩, hitem, rfl, fun hproper => isProper_change hproper (fun _ _ => rfl) ?_⟩
  have htop := (isProper_iff.mp hproper).1
  rw [change, hitem, if_neg, htop]
  rintro rfl
  rw [htop] at h
  cases h

theorem Gains.stores (h : fs.Gains place (.file content) after) :
    fs.Stores place content after :=
  ⟨.inl h.free, h.item, h.working, h.proper⟩

end FileSystem

open FileSystem FileAction

/-- **Writing a file.** The file under the last name of the path is written, if that is no link, or
nothing happens. -/
theorem outcome_writeContent {fs : FileSystem} {p : Path} (content : Content) {init : List Step}
    {directory : List RawText} {name : RawText} {n : Nat}
    (hroute : p.route = init ++ [.into name]) (hlast : p.steps.getLast? ≠ some .here)
    (hleads : fs.top.Leads (fs.start p) (init ++ [.here]) n (.found directory))
    (hlink : ∀ target, fs.top.item? (directory ++ [name]) ≠ some (.link target)) :
    (∃ fault, outcome (writeContent p content) fs = (.error fault, fs)) ∨
      ∃ after, outcome (writeContent p content) fs = (.ok (), after) ∧
        admits p = .ok () ∧ fs.Stores (directory ++ [name]) content after := by
  obtain ⟨hinit, hdirectory⟩ := Entry.leads_concat_here.mp hleads
  rw [writeContent, outcome_bind, outcome_ask]
  cases hfind : fs.find p with
  | error fault => exact .inl ⟨fault, rfl⟩
  | ok halt =>
    obtain ⟨hadmits, m, hm, hwalk⟩ := find_eq_ok.mp hfind
    rw [Path.leads_steps hlast, hroute] at hwalk
    obtain ⟨a, b, middle, rfl, hfirst, hsecond⟩ := hwalk.split (by simp)
    obtain rfl := Halt.found.inj (hinit.unique hfirst)
    cases hsecond with
    | @into _ _ item _ _ _ _ _ hentry hnoLink hdone =>
      cases hdone
      dsimp only
      rw [outcome_bind, outcome_get]
      dsimp only
      cases hplace : fs.top.at? (directory ++ [name]) with
      | none =>
        rw [Entry.item?_eq_none.mpr hplace] at hentry
        cases hentry
      | some entry =>
        rw [Entry.item?, hplace] at hentry
        cases entry with
        | directory => exact .inl ⟨_, rfl⟩
        | link target => exact absurd (Option.some.inj hentry).symm (hnoLink target)
        | file old =>
          have hold : fs.top.item? (directory ++ [name]) = some (.file old) := by
            rw [Entry.item?, hplace]
            rfl
          exact .inr ⟨_, rfl, hadmits, stores_change hold⟩
    | missing _ hshort hfree =>
      have hmem : .into name ∈ p.route := by simp [hroute]
      have hname : Entry.isFileName name = true := Entry.isFileName_iff.mpr
        ⟨(Path.isName_of_mem_route hmem).1, (admits_eq_ok.mp hadmits).2 name hmem, hshort⟩
      exact .inr ⟨_, rfl, hadmits, (gains_putChild (.file content) hdirectory hfree hname rfl
        fun _ => rfl).stores⟩
    | link _ _ hentry _ => exact absurd hentry (hlink _)

end MarkdownPages
