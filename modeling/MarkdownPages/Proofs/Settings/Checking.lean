import MarkdownPages.Proofs.Files.Spelling
import MarkdownPages.Proofs.Sequences
import MarkdownPages.Settings.Settings

/-!
# Which settings are acceptable

A check goes through the settings one after another and ends at the first one that it refuses. What
it accepts can be said without an order: names are names, there is a root, and the output goes
nowhere that is read.

The standard settings are never checked, because nothing in them can be wrong, wherever the project
is: the directories in them differ below the directory of the project.

## Main definitions

* `Settings.Acceptable` — what settings have to be like

## Main results

* `Settings.check_eq_ok_iff` — a check accepts the acceptable settings
* `Settings.acceptable_standard` — the standard settings are acceptable in every directory
-/

namespace MarkdownPages

/-! ### Checks -/

namespace Settings

/-- Settings that a conversion can rely on. -/
structure Acceptable (s : Settings) : Prop where
  group : Kotlin.isQualifiedName s.group.toList = true
  roots : s.roots ≠ []
  pagesPackage : s.pagesPackage = "." ∨ Kotlin.isShortcutName s.pagesPackage.toList = true
  defaultRoot : ∀ root, s.defaultRoot = some root →
    root = "" ∨ Kotlin.isShortcutName root.toList = true
  imports : ∀ target ∈ s.imports, Text.trimmed target ≠ ""
  /-- The directory that every run clears is none that documents are read from. -/
  outputDirectory : ∀ root ∈ s.allRoots, s.outputDirectory.same root = false

theorem requireNonEmpty_eq_ok {field value : String} :
    requireNonEmpty field value = .ok () ↔ value ≠ "" := by
  rw [requireNonEmpty, except_refuse_eq_ok, String.isEmpty_iff]

theorem requireName_eq_ok {isName : List Char → Bool} {field value : String} :
    requireName isName field value = .ok () ↔ isName value.toList = true := by
  rw [requireName]
  by_cases h : isName value.toList = true
  · rw [if_pos h]
    exact ⟨fun _ => h, fun _ => rfl⟩
  · rw [if_neg h]
    exact ⟨nofun, fun hname => absurd hname h⟩

/-- The checks that settings go through, in order. -/
def checks (s : Settings) : List (Except SettingsProblem Unit) :=
  [requireNonEmpty "project.group" s.group,
    requireName Kotlin.isQualifiedName "project.group" s.group,
    if s.roots.isEmpty then .error .noRoots else .ok (),
    requireNonEmpty "markdown.pages_package" s.pagesPackage,
    if s.pagesPackage ≠ "." then
      requireName Kotlin.isShortcutName "markdown.pages_package" s.pagesPackage
    else .ok (),
    match s.defaultRoot with
    | some root =>
      if !root.isEmpty then requireName Kotlin.isShortcutName "markdown.default_root" root
      else .ok ()
    | none => .ok (),
    s.imports.forM fun target => requireNonEmpty "markdown.imports entry" (Text.trimmed target),
    if s.roots.any s.outputDirectory.same || s.outputDirectory.same s.generatedDirectory then
      .error .outputIsRoot
    else .ok ()]

/-- Settings are refused for the first check that refuses them. -/
theorem checkAll_eq (s : Settings) : s.checkAll = s.checks.forM id := by
  have hlast : (if s.roots.any s.outputDirectory.same ||
        s.outputDirectory.same s.generatedDirectory then throw .outputIsRoot else pure ()) =
      (if s.roots.any s.outputDirectory.same || s.outputDirectory.same s.generatedDirectory then
        .error .outputIsRoot else .ok () : Except SettingsProblem Unit) >>= pure :=
    (bind_pure _).symm
  rw [checkAll]
  dsimp only
  rw [hlast]
  -- what comes after the layout is written once for each way to get there
  refine bind_congr fun _ => bind_congr fun _ => ?_
  by_cases hroots : s.roots.isEmpty = true
  · rw [if_pos hroots, if_pos hroots]
    rfl
  rw [if_neg hroots, if_neg hroots]
  refine bind_congr fun _ => ?_
  by_cases hdot : s.pagesPackage ≠ "."
  · rw [if_pos hdot, if_pos hdot]
    refine bind_congr fun _ => ?_
    cases s.defaultRoot with
    | none => rfl
    | some root =>
      dsimp only
      cases root.isEmpty <;> rfl
  · rw [if_neg hdot, if_neg hdot]
    cases s.defaultRoot with
    | none => rfl
    | some root =>
      dsimp only
      cases root.isEmpty <;> rfl

/-- The output directory is no root exactly if neither of the two tests for it succeeds. -/
theorem not_outputIsRoot_iff (s : Settings) :
    ¬ (s.roots.any s.outputDirectory.same || s.outputDirectory.same s.generatedDirectory) = true ↔
      ∀ root ∈ s.allRoots, s.outputDirectory.same root = false := by
  rw [Bool.not_eq_true, Bool.or_eq_false_iff, List.any_eq_false, allRoots, List.forall_mem_append,
    List.forall_mem_singleton]
  simp only [Bool.not_eq_true]

/-- **Checks.** A check accepts the acceptable settings and no others. -/
theorem check_eq_ok_iff (s : Settings) : s.check = .ok () ↔ s.Acceptable := by
  have hlayout : (match s.defaultRoot with
      | some root =>
        if !root.isEmpty then requireName Kotlin.isShortcutName "markdown.default_root" root
        else .ok ()
      | none => .ok ()) = .ok () ↔ ∀ root, s.defaultRoot = some root →
        root = "" ∨ Kotlin.isShortcutName root.toList = true := by
    cases s.defaultRoot with
    | none => exact ⟨fun _ => nofun, fun _ => rfl⟩
    | some root =>
      dsimp only
      rw [except_when_eq_ok, requireName_eq_ok, Bool.not_eq_true', ← Bool.not_eq_true,
        String.isEmpty_iff, ← Decidable.or_iff_not_imp_left]
      exact ⟨fun h _ hroot => Option.some.inj hroot ▸ h, fun h => h root rfl⟩
  rw [check, except_mapError_eq_ok, checkAll_eq, except_forM_eq_ok, checks]
  simp only [List.forall_mem_cons, id_eq, hlayout, requireNonEmpty_eq_ok, requireName_eq_ok,
    except_refuse_eq_ok, except_forM_eq_ok, not_outputIsRoot_iff, List.isEmpty_iff]
  rw [except_when_eq_ok, requireName_eq_ok]
  constructor
  · rintro ⟨-, hgroup, hroots, -, hpackage, hdefault, himports, houtput, -⟩
    exact ⟨hgroup, hroots, Decidable.or_iff_not_imp_left.mpr hpackage, hdefault, himports, houtput⟩
  · intro h
    refine ⟨?_, h.group, h.roots, ?_, Decidable.or_iff_not_imp_left.mp h.pagesPackage,
      h.defaultRoot, h.imports, h.outputDirectory, nofun⟩
    · intro hempty
      exact absurd (hempty ▸ h.group) (by decide)
    · intro hempty
      exact absurd (hempty ▸ h.pagesPackage) (by decide)

/-! ### The standard settings -/

/-- Paths below one directory are told apart by how they go on. -/
theorem not_same_child {directory : Path} {name other : String}
    (hname : (⟨name⟩ : Path).isAbsolute = false) (hother : (⟨other⟩ : Path).isAbsolute = false)
    (h : (⟨name⟩ : Path).route ≠ (⟨other⟩ : Path).route) :
    (directory.child name).same (directory.child other) = false := by
  rw [Path.same, beq_eq_false_iff_ne]
  intro hcomponents
  have hroute : (directory.child name).route = (directory.child other).route := by
    rw [← Path.filterMap_components, hcomponents, Path.filterMap_components]
  rw [Path.child, Path.child, Path.route_join hname, Path.route_join hother] at hroute
  exact h (List.append_cancel_left hroute)

/-- **Standard settings.** The settings of a project that states none are acceptable, wherever the
project is. -/
theorem acceptable_standard (directory : Path) : (standard directory).Acceptable where
  group := show Kotlin.isQualifiedName "app".toList = true by decide
  roots := List.cons_ne_nil _ _
  pagesPackage := .inr (show Kotlin.isShortcutName ".pages".toList = true by decide)
  defaultRoot := nofun
  imports := nofun
  outputDirectory := by
    have hauthored : (directory.child ".mdkt/generated/kotlin").same
        (directory.child "src/markdown") = false :=
      not_same_child (by decide) (by decide) (by decide)
    have hgenerated : (directory.child ".mdkt/generated/kotlin").same
        (directory.child ".mdkt/generated/markdown") = false :=
      not_same_child (by decide) (by decide) (by decide)
    intro root hroot
    rcases List.mem_cons.mp hroot with rfl | hroot
    · exact hauthored
    · obtain rfl := List.mem_singleton.mp hroot
      exact hgenerated

end Settings

end MarkdownPages
