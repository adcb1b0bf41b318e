import Mathlib.Data.List.Sort
import MarkdownPages.Proofs.Files.Place

/-!
# Trees that look the same

A directory keeps its entries in ascending order of their names, so a tree holds nothing but what
can be seen by names: two trees in which the same stands at every place are equal.

## Main results

* `Entry.induction` — what holds of a directory if it holds of its entries holds of all trees
* `Entry.eq_of_item?` — trees in which the same stands at every place are equal
-/

namespace MarkdownPages

namespace Entry

/-- What holds of files and links, and of a directory if it holds of its entries, holds of all
trees. -/
@[elab_as_elim]
theorem induction {motive : Entry → Prop} (file : ∀ content, motive (.file content))
    (link : ∀ target, motive (.link target))
    (directory : ∀ entries : List (RawText × Entry),
      (∀ child ∈ entries, motive child.2) → motive (.directory entries)) (entry : Entry) :
    motive entry :=
  @Entry.rec motive (fun entries => ∀ child ∈ entries, motive child.2)
    (fun child => motive child.2) file link directory (by simp)
    (fun _ _ hhead htail => List.forall_mem_cons.mpr ⟨hhead, htail⟩) (fun _ _ h => h) entry

/-- The entries of a proper directory are those that are found by their names. -/
theorem mem_entries_iff {entries : List (RawText × Entry)}
    (h : (directory entries).isProper = true) {name : RawText} {child : Entry} :
    (name, child) ∈ entries ↔ (directory entries).child? name = some child :=
  ⟨Ascending.get?_of_mem (isProper_directory.mp h).1, Ascending.mem_of_get?⟩

theorem item?_cons {entry child : Entry} {name : RawText} (h : entry.child? name = some child)
    (rest : List RawText) : entry.item? (name :: rest) = child.item? rest := by
  rw [item?, at?, h, Option.bind_some, item?]

theorem item?_cons_of_none {entry : Entry} {name : RawText} (h : entry.child? name = none)
    (rest : List RawText) : entry.item? (name :: rest) = none := by
  rw [item?, at?, h]
  rfl

/-- Directories with equal entries under every name are equal. -/
private theorem directory_eq_of_child? {entries others : List (RawText × Entry)}
    (h : (directory entries).isProper = true) (hother : (directory others).isProper = true)
    (hchild : ∀ name, (directory entries).child? name = (directory others).child? name) :
    directory entries = directory others := by
  have hirrefl : Std.Irrefl fun entry later : RawText × Entry => entry.1 < later.1 :=
    ⟨fun _ => Std.lt_irrefl⟩
  have hantisymm : Std.Antisymm fun entry later : RawText × Entry => entry.1 < later.1 :=
    ⟨fun _ _ hlt hlt' => absurd (Std.lt_trans hlt hlt') Std.lt_irrefl⟩
  congr 1
  refine List.Pairwise.eq_of_mem_iff (isProper_directory.mp h).1 (isProper_directory.mp hother).1
    fun entry => ?_
  obtain ⟨name, child⟩ := entry
  rw [mem_entries_iff h, mem_entries_iff hother, hchild]

/-- **Extensionality.** Proper trees in which the same stands at every place are equal. -/
theorem eq_of_item? {entry other : Entry} (h : entry.isProper = true)
    (hother : other.isProper = true) (hitem : ∀ place, entry.item? place = other.item? place) :
    entry = other := by
  induction entry using Entry.induction generalizing other with
  | file content =>
    have htop := Option.some.inj (hitem [])
    cases other <;> cases htop
    rfl
  | link target =>
    have htop := Option.some.inj (hitem [])
    cases other <;> cases htop
    rfl
  | directory entries ih =>
    have htop := Option.some.inj (hitem [])
    cases other with
    | file | link => cases htop
    | directory others =>
      refine directory_eq_of_child? h hother fun name => ?_
      cases hchild : (directory entries).child? name with
      | none =>
        cases hchild' : (directory others).child? name with
        | none => rfl
        | some child' =>
          have hname := hitem [name]
          rw [item?_cons_of_none hchild, item?_cons hchild', item?_nil] at hname
          cases hname
      | some child =>
        cases hchild' : (directory others).child? name with
        | none =>
          have hname := hitem [name]
          rw [item?_cons hchild, item?_cons_of_none hchild', item?_nil] at hname
          cases hname
        | some child' =>
          have hbelow : ∀ rest, child.item? rest = child'.item? rest := fun rest => by
            rw [← item?_cons hchild, ← item?_cons hchild', hitem]
          exact congrArg some (ih _ ((mem_entries_iff h).mpr hchild) (isProper_child? h hchild).2
            (isProper_child? hother hchild').2 hbelow)

end Entry

end MarkdownPages
