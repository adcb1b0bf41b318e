import MarkdownPages.Files.FileSystem
import MarkdownPages.Proofs.Text.Ascending
import MarkdownPages.Proofs.Text.Raw

/-!
# What stands at a place

A file tree is a nested structure, but a change is best told place by place: what stands there is a
file with its content, a link with its target, or a directory, whatever is below it. Two trees in
which the same stands at every place hold the same files, links and directories.

A change at a place is a change of what stands there or below. Nowhere else does anything change:
the directories on the way are rebuilt, but what stands at their places stays a directory.

## Main definitions

* `Item`, `Entry.item?` — what stands at a place
* `Item.shape` — the same without the content of a file
* `Entry.isFileName`, `Entry.isProper` — trees with proper names in ascending order

## Main results

* `Entry.item?_putChild_of_not_isPrefix`, `Entry.item?_dropChild_of_not_isPrefix` — the rest of the
  tree
  stays as it is
* `Entry.isProper_withChild`, `Entry.isProper_update` — a new entry of a proper name keeps a tree
  proper
-/

namespace MarkdownPages

open RawText (slash dot)

/-- What stands at a place, apart from what is below it. -/
inductive Item where
  | file (content : Content)
  | link (target : Path)
  | directory

namespace Item

/-- An item, apart from what a file holds. -/
def shape : Item → Item
  | file _ => file default
  | item => item

theorem shape_eq_directory {item : Item} : item.shape = .directory ↔ item = .directory := by
  cases item <;> simp [shape]

theorem shape_eq_link {item : Item} {target : Path} :
    item.shape = .link target ↔ item = .link target := by
  cases item <;> simp [shape]

end Item

namespace Entry

/-- An entry, apart from what is below it. -/
def item : Entry → Item
  | file content => .file content
  | link target => .link target
  | directory _ => .directory

/-- What stands at a place. Links are not followed. -/
def item? (top : Entry) (place : List RawText) : Option Item := (top.at? place).map item

/-! ### Directories on the way -/

theorem item?_nil (top : Entry) : top.item? [] = some top.item := rfl

theorem at?_snoc (top : Entry) (place : List RawText) (name : RawText) :
    top.at? (place ++ [name]) = (top.at? place).bind (child? name) := by
  rw [at?_append]
  congr 1
  funext entry
  rw [at?]
  cases entry.child? name <;> rfl

theorem item?_append {top entry : Entry} {place : List RawText} (h : top.at? place = some entry)
    (rest : List RawText) : top.item? (place ++ rest) = entry.item? rest := by
  rw [item?, at?_append, h, Option.bind_some, item?]

theorem item?_eq_directory {top : Entry} {place : List RawText} :
    top.item? place = some .directory ↔ ∃ entries, top.at? place = some (.directory entries) := by
  rw [item?]
  cases top.at? place with
  | none => simp
  | some entry => cases entry <;> simp [item]

theorem item?_eq_directory_iff_any {top : Entry} {place : List RawText} :
    (top.at? place).any isDirectory = true ↔ top.item? place = some .directory := by
  rw [item?]
  cases top.at? place with
  | none => simp
  | some entry => cases entry <;> simp [item, isDirectory]

theorem exists_item?_eq_file_iff_any {top : Entry} {place : List RawText} :
    (top.at? place).any isFile = true ↔ ∃ content, top.item? place = some (.file content) := by
  rw [item?]
  cases top.at? place with
  | none => simp
  | some entry => cases entry <;> simp [item, isFile]

theorem item?_eq_none {top : Entry} {place : List RawText} :
    top.item? place = none ↔ top.at? place = none := Option.map_eq_none_iff

/-- Only a directory has something below it. -/
theorem item?_of_cons {top : Entry} {place : List RawText} {name : RawText} {rest : List RawText}
    (h : top.item? (place ++ name :: rest) ≠ none) : top.item? place = some .directory := by
  cases hplace : top.at? place with
  | none =>
    refine absurd ?_ h
    rw [item?, at?_append, hplace]
    rfl
  | some entry =>
    rw [item?_append hplace] at h
    cases entry with
    | directory entries => rw [item?, hplace]; rfl
    | file | link => exact absurd rfl h

theorem item?_of_isPrefix {top : Entry} {place q : List RawText} (hpre : place <+: q)
    (hne : place ≠ q) (h : top.item? q ≠ none) : top.item? place = some .directory := by
  obtain ⟨rest, rfl⟩ := hpre
  cases rest with
  | nil => exact absurd (List.append_nil place).symm hne
  | cons name rest => exact item?_of_cons h

theorem item?_directory_of_isPrefix {top : Entry} {place q : List RawText} (hpre : place <+: q)
    (h : top.item? q = some .directory) : top.item? place = some .directory := by
  by_cases heq : place = q
  · rwa [heq]
  · exact item?_of_isPrefix hpre heq (by simp [h])

/-- Nothing stands below a place where nothing stands. -/
theorem item?_none_of_isPrefix {top : Entry} {place q : List RawText} (hpre : place <+: q)
    (h : top.item? place = none) : top.item? q = none := by
  obtain ⟨rest, rfl⟩ := hpre
  rw [item?, at?_append, item?_eq_none.mp h]
  rfl

/-! ### Changes -/

theorem child?_withChild_self {entry : Entry} (h : entry.isDirectory = true) (name : RawText)
    (child : Entry) : (entry.withChild name child).child? name = some child := by
  cases entry with
  | directory entries => exact Ascending.get?_put_self name child entries
  | file | link => cases h

theorem child?_withChild_of_ne {name k : RawText} (hne : k ≠ name) (entry child : Entry) :
    (entry.withChild name child).child? k = entry.child? k := by
  cases entry with
  | directory entries => exact Ascending.get?_put_of_ne hne child entries
  | file | link => rfl

theorem child?_withoutChild_of_ne {name k : RawText} (hne : k ≠ name) (entry : Entry) :
    (entry.withoutChild name).child? k = entry.child? k := by
  cases entry with
  | directory entries => exact Ascending.get?_erase_of_ne hne entries
  | file | link => rfl

theorem item_withChild (entry : Entry) (name : RawText) (child : Entry) :
    (entry.withChild name child).item = entry.item := by cases entry <;> rfl

theorem item_withoutChild (entry : Entry) (name : RawText) :
    (entry.withoutChild name).item = entry.item := by cases entry <;> rfl

theorem isDirectory_of_child? {entry child : Entry} {name : RawText}
    (h : entry.child? name = some child) : entry.isDirectory = true := by
  cases entry with
  | directory => rfl
  | file | link => cases h

theorem at?_update {top entry : Entry} {place : List RawText} (h : top.at? place = some entry)
    (change : Entry → Entry) : (top.update change place).at? place = some (change entry) := by
  induction place generalizing top with
  | nil => rw [← Option.some.inj h]; rfl
  | cons name rest ih =>
    obtain ⟨child, hchild, hrest⟩ := Option.bind_eq_some_iff.mp h
    rw [update, hchild, at?, child?_withChild_self (isDirectory_of_child? hchild),
      Option.bind_some, ih hrest]

/-- A change at a place changes nothing that is neither there nor below. -/
theorem item?_update_of_not_isPrefix {place q : List RawText} (h : ¬ place <+: q)
    (change : Entry → Entry) (top : Entry) : (top.update change place).item? q = top.item? q := by
  induction place generalizing top q with
  | nil => exact absurd List.nil_prefix h
  | cons name rest ih =>
    rw [update]
    cases hchild : top.child? name with
    | none => rfl
    | some child =>
      dsimp only
      cases q with
      | nil => rw [item?_nil, item?_nil, item_withChild]
      | cons k qs =>
        by_cases hk : k = name
        · subst hk
          have hrest : ¬ rest <+: qs := fun hp => h (List.cons_prefix_cons.mpr ⟨rfl, hp⟩)
          have hinner := ih hrest child
          rw [item?, item?] at hinner ⊢
          rw [at?, child?_withChild_self (isDirectory_of_child? hchild), at?, hchild]
          exact hinner
        · rw [item?, item?, at?, child?_withChild_of_ne hk, at?]

/-! ### Entries of a directory -/

section Children

variable {top : Entry} {directory : List RawText} {entries : List (RawText × Entry)}
  (h : top.at? directory = some (.directory entries)) (name : RawText)

include h

theorem item?_putChild (child : Entry) (rest : List RawText) :
    (top.update (·.withChild name child) directory).item? (directory ++ name :: rest) =
      child.item? rest := by
  rw [item?_append (at?_update h _), item?, at?, child?_withChild_self rfl]
  rfl

theorem item?_dropChild (htable : Ascending.IsTable entries) (rest : List RawText) :
    (top.update (·.withoutChild name) directory).item? (directory ++ name :: rest) = none := by
  have hnone : (Entry.withoutChild (.directory entries) name).child? name = none :=
    Ascending.get?_erase_self htable
  rw [item?_append (at?_update h _), item?, at?, hnone]
  rfl

/-- A change to one entry of a directory changes nothing that is neither there nor below. -/
private theorem item?_update_of_name {change : Entry → Entry} {name : RawText}
    (hitem : ∀ entry, (change entry).item = entry.item)
    (hchild : ∀ entry k, k ≠ name → (change entry).child? k = entry.child? k)
    {q : List RawText} (hq : ¬ directory ++ [name] <+: q) :
    (top.update change directory).item? q = top.item? q := by
  by_cases hpre : directory <+: q
  · obtain ⟨rest, rfl⟩ := hpre
    rw [item?_append (at?_update h change), item?_append h]
    cases rest with
    | nil => rw [item?_nil, item?_nil, hitem]
    | cons k rest =>
      have hk : k ≠ name := by
        rintro rfl
        exact hq ⟨rest, by simp⟩
      rw [item?, item?, at?, at?, hchild _ k hk]
  · exact item?_update_of_not_isPrefix hpre change top

theorem item?_putChild_of_not_isPrefix {q : List RawText} (hq : ¬ directory ++ [name] <+: q)
    (child : Entry) : (top.update (·.withChild name child) directory).item? q = top.item? q :=
  item?_update_of_name h (item_withChild · name child)
    (fun entry _ hk => child?_withChild_of_ne hk entry child) hq

theorem item?_dropChild_of_not_isPrefix {q : List RawText} (hq : ¬ directory ++ [name] <+: q) :
    (top.update (·.withoutChild name) directory).item? q = top.item? q :=
  item?_update_of_name h (item_withoutChild · name)
    (fun entry _ hk => child?_withoutChild_of_ne hk entry) hq

end Children

/-! ### Proper trees -/

/-- Whether a raw text may be the name of an entry. -/
def isFileName (name : RawText) : Bool :=
  name.bytes ≠ [] && name.bytes ≠ [dot] && name.bytes ≠ [dot, dot] &&
    !name.bytes.contains slash && !name.bytes.contains 0 &&
    decide (name.bytes.length ≤ maxNameLength)

mutual

/-- Whether the entries of every directory have proper names, in ascending order. -/
def isProper : Entry → Bool
  | file _ | link _ => true
  | directory entries => decide (Ascending.IsTable entries) && isProperAll entries

/-- Whether entries have proper names and are proper themselves. -/
def isProperAll : List (RawText × Entry) → Bool
  | [] => true
  | (name, entry) :: rest => isFileName name && entry.isProper && isProperAll rest

end

theorem isProperAll_iff {entries : List (RawText × Entry)} :
    isProperAll entries = true ↔
      ∀ entry ∈ entries, isFileName entry.1 = true ∧ entry.2.isProper = true := by
  induction entries with
  | nil => simp [isProperAll]
  | cons head rest ih => simp [isProperAll, ih]

theorem isProper_directory {entries : List (RawText × Entry)} :
    (directory entries).isProper = true ↔ Ascending.IsTable entries ∧
      ∀ entry ∈ entries, isFileName entry.1 = true ∧ entry.2.isProper = true := by
  rw [isProper, Bool.and_eq_true, decide_eq_true_eq, isProperAll_iff]

theorem isProper_child? {entry child : Entry} {name : RawText} (h : entry.isProper = true)
    (hchild : entry.child? name = some child) :
    isFileName name = true ∧ child.isProper = true := by
  cases entry with
  | directory entries => exact (isProper_directory.mp h).2 _ (Ascending.mem_of_get? hchild)
  | file | link => cases hchild

theorem isProper_at? {top entry : Entry} {place : List RawText} (h : top.isProper = true)
    (hentry : top.at? place = some entry) :
    (∀ name ∈ place, isFileName name = true) ∧ entry.isProper = true := by
  induction place generalizing top with
  | nil =>
    obtain rfl := Option.some.inj hentry
    exact ⟨by simp, h⟩
  | cons name rest ih =>
    obtain ⟨child, hchild, hrest⟩ := Option.bind_eq_some_iff.mp hentry
    obtain ⟨hname, hproper⟩ := isProper_child? h hchild
    obtain ⟨hnames, hend⟩ := ih hproper hrest
    exact ⟨fun k hk => (List.mem_cons.mp hk).elim (fun heq => heq ▸ hname) (hnames k), hend⟩

/-- The names that lead to anything in a proper tree are proper. -/
theorem isFileName_of_item? {top : Entry} {place : List RawText} (h : top.isProper = true)
    (hitem : top.item? place ≠ none) : ∀ name ∈ place, isFileName name = true := by
  cases hentry : top.at? place with
  | none => exact absurd (item?_eq_none.mpr hentry) hitem
  | some entry => exact (isProper_at? h hentry).1

theorem isTable_of_at? {top : Entry} {place : List RawText} {entries : List (RawText × Entry)}
    (h : top.isProper = true) (hentry : top.at? place = some (.directory entries)) :
    Ascending.IsTable entries :=
  (isProper_directory.mp (isProper_at? h hentry).2).1

theorem isProper_withChild {entry child : Entry} {name : RawText} (h : entry.isProper = true)
    (hname : isFileName name = true) (hchild : child.isProper = true) :
    (entry.withChild name child).isProper = true := by
  cases entry with
  | directory entries =>
    obtain ⟨htable, hentries⟩ := isProper_directory.mp h
    refine isProper_directory.mpr ⟨Ascending.pairwise_put name child htable, fun e he => ?_⟩
    rcases Ascending.mem_put he with rfl | he
    · exact ⟨hname, hchild⟩
    · exact hentries e he
  | file | link => rfl

theorem isProper_withoutChild {entry : Entry} (h : entry.isProper = true) (name : RawText) :
    (entry.withoutChild name).isProper = true := by
  cases entry with
  | directory entries =>
    obtain ⟨htable, hentries⟩ := isProper_directory.mp h
    have hless := Ascending.erase_sublist name entries
    exact isProper_directory.mpr ⟨htable.sublist hless, fun e he => hentries e (hless.mem he)⟩
  | file | link => rfl

theorem isProper_update {top : Entry} {change : Entry → Entry} (h : top.isProper = true)
    (hchange : ∀ entry, entry.isProper = true → (change entry).isProper = true)
    (place : List RawText) : (top.update change place).isProper = true := by
  induction place generalizing top with
  | nil => exact hchange top h
  | cons name rest ih =>
    rw [update]
    cases hchild : top.child? name with
    | none => exact h
    | some child =>
      obtain ⟨hname, hproper⟩ := isProper_child? h hchild
      exact isProper_withChild h hname (ih hproper)

end Entry

end MarkdownPages
