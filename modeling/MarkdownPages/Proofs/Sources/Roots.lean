import MarkdownPages.Proofs.Files.Finding
import MarkdownPages.Proofs.Sources.Ascending

/-!
# The places of roots

The roots of a conversion are the canonical paths of directories. Every path that is given as a root
leads to one of them, and every one of them is given by a path.

## Main results

* `Roots.ofPaths_eq_ok` — the roots that paths lead to
-/

namespace MarkdownPages

namespace Roots

variable {fs : FileSystem}

/-- A path leads to a directory that is kept as a root. -/
def IsKept (fs : FileSystem) (roots : Roots) (path : Path) : Prop :=
  ∃ place, fs.canonical path = .ok place ∧ fs.top.item? place = some .directory ∧
    ∃ root ∈ roots.paths, root.same (.ofNames place) = true

/-- A root is the canonical path of a directory to which a path leads. -/
def IsGiven (fs : FileSystem) (paths : List Path) (root : Path) : Prop :=
  ∃ path ∈ paths, ∃ place, fs.canonical path = .ok place ∧
    fs.top.item? place = some .directory ∧ root = .ofNames place

theorem directory_eq_ok {path root : Path} : directory fs path = .ok root ↔
    ∃ place, fs.canonical path = .ok place ∧ fs.top.item? place = some .directory ∧
      root = .ofNames place := by
  rw [directory]
  cases fs.canonical path with
  | error fault => simp
  | ok place =>
    have hany : (fs.top.at? place).any Entry.isDirectory = true ↔
        fs.top.item? place = some .directory := Entry.item?_eq_directory_iff_any
    by_cases hdirectory : fs.top.item? place = some .directory
    · dsimp only
      rw [if_pos (hany.mpr hdirectory)]
      refine ⟨fun h => ⟨place, rfl, hdirectory, (Except.ok.inj h).symm⟩, ?_⟩
      rintro ⟨place', hplace, -, rfl⟩
      rw [Except.ok.inj hplace]
    · dsimp only
      rw [if_neg (hdirectory <| hany.mp ·)]
      refine ⟨(by cases ·), ?_⟩
      rintro ⟨place', hplace, hdirectory', -⟩
      obtain rfl := Except.ok.inj hplace
      exact absurd hdirectory' hdirectory

theorem subset_add (roots : Roots) (path : Path) :
    ∀ root ∈ roots.paths, root ∈ (roots.add path).paths := by
  intro root hroot
  rw [add]
  split
  · exact hroot
  · exact List.mem_append_left _ hroot

theorem exists_same_add (roots : Roots) (path : Path) :
    ∃ root ∈ (roots.add path).paths, root.same path = true := by
  rw [add]
  split
  · rename_i h
    obtain ⟨root, hroot, hsame⟩ := List.any_eq_true.mp h
    exact ⟨root, hroot, Path.same_symm hsame⟩
  · exact ⟨path, by simp, by simp [Path.same]⟩

theorem mem_add {roots : Roots} {path root : Path} (h : root ∈ (roots.add path).paths) :
    root ∈ roots.paths ∨ root = path := by
  rw [add] at h
  split at h
  · exact .inl h
  · simpa using h

private theorem foldlM_add_eq_ok {paths : List Path} {start roots : Roots}
    (h : paths.foldlM (fun roots path => (directory fs path).map roots.add) start = .ok roots) :
    (∀ root ∈ start.paths, root ∈ roots.paths) ∧ (∀ path ∈ paths, IsKept fs roots path) ∧
      ∀ root ∈ roots.paths, root ∈ start.paths ∨ IsGiven fs paths root := by
  induction paths generalizing start with
  | nil =>
    obtain rfl := Except.ok.inj h
    exact ⟨fun _ h => h, by simp, fun _ h => .inl h⟩
  | cons path rest ih =>
    rw [List.foldlM_cons] at h
    cases hdirectory : directory fs path with
    | error error =>
      rw [hdirectory] at h
      cases h
    | ok root =>
      rw [hdirectory] at h
      obtain ⟨hstays, hkept, hgiven⟩ := ih h
      obtain ⟨place, hplace, hstands, rfl⟩ := directory_eq_ok.mp hdirectory
      refine ⟨fun root hroot => hstays root (start.subset_add _ root hroot),
        List.forall_mem_cons.mpr ⟨?_, hkept⟩, fun root hroot => ?_⟩
      · obtain ⟨root, hroot, hsame⟩ := start.exists_same_add (.ofNames place)
        exact ⟨place, hplace, hstands, root, hstays root hroot, hsame⟩
      · rcases hgiven root hroot with hadded | ⟨path', hpath', hleads⟩
        · rcases mem_add hadded with hold | rfl
          · exact .inl hold
          · exact .inr ⟨path, List.mem_cons_self, place, hplace, hstands, rfl⟩
        · exact .inr ⟨path', List.mem_cons_of_mem _ hpath', hleads⟩

/-- **Roots.** Every path leads to a directory that is kept, and nothing else is. -/
theorem ofPaths_eq_ok {paths : List Path} {roots : Roots} (h : ofPaths fs paths = .ok roots) :
    (∀ path ∈ paths, IsKept fs roots path) ∧ ∀ root ∈ roots.paths, IsGiven fs paths root := by
  obtain ⟨-, hkept, hgiven⟩ := foldlM_add_eq_ok h
  exact ⟨hkept, fun root hroot => (hgiven root hroot).resolve_left (by simp)⟩

end Roots

end MarkdownPages
