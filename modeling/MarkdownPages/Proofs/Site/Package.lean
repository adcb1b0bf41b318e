import MarkdownPages.Proofs.Site.Output

/-!
# Packages that are qualified names

A package is spelled as a text and used as a list of names, one for each directory that its pages
are put into. The two go together where the text is a qualified name: its segments are the
identifiers between the dots, and there is at least one. A name that is given relative to a group
stays a qualified name when it is put under the group.

## Main results

* `Kotlin.isQualifiedName_resolveShortcut` — a shortcut under a group is a qualified name
* `Site.intercalate_packageSegments` — the segments of a qualified name spell it
* `Site.descends_place_of_isQualifiedName` — its segments are directories of every page
-/

namespace MarkdownPages

namespace Kotlin

/-- A name under another one is a qualified name if both are. -/
theorem isQualifiedName_append (s t : List Char) :
    isQualifiedName (s ++ '.' :: t) = (isQualifiedName s && isQualifiedName t) := by
  have hsplit := @Text.splitOn_append _ (· == '.') '.' (beq_self_eq_true '.') s t
  rw [isQualifiedName, hsplit, List.all_append]
  rfl

/-- A qualified name, a name relative to the group, or the group itself is a qualified name. -/
theorem isQualifiedName_resolveShortcut {group name : String}
    (hgroup : isQualifiedName group.toList = true)
    (hname : name = "." ∨ isShortcutName name.toList = true) :
    isQualifiedName (resolveShortcut group name).toList = true := by
  have hnonempty : ¬ group.isEmpty = true := by
    rw [String.isEmpty_iff]
    rintro rfl
    exact absurd hgroup (by decide)
  rw [resolveShortcut]
  split
  case h_1 => exact hgroup
  case h_2 rest hrest hname' =>
    rw [if_neg hnonempty]
    rcases hname with rfl | hname
    · obtain rfl : [] = rest := (List.cons.inj hname').2
      exact absurd rfl (hrest ·)
    · rw [hname', isShortcutName] at hname
      have htext : (group ++ "." ++ String.ofList rest).toList = group.toList ++ '.' :: rest := by
        simp
      rw [htext, isQualifiedName_append, hgroup, hname, Bool.and_true]
  case h_3 hdot hshortcut =>
    rcases hname with rfl | hname
    · exact absurd rfl hdot
    · rwa [isShortcutName] at hname
      exact hshortcut

end Kotlin

namespace Site

variable {package : String} (h : Kotlin.isQualifiedName package.toList = true)

include h

theorem isIdentifier_of_mem_splitOn :
    ∀ piece ∈ Text.splitOn (· == '.') package.toList, Kotlin.isIdentifier piece = true :=
  List.all_eq_true.mp h

/-- No piece of a qualified name is passed over. -/
theorem packageSegments_eq :
    packageSegments package = (Text.splitOn (· == '.') package.toList).map String.ofList := by
  rw [packageSegments, List.filter_eq_self.mpr]
  intro piece hpiece
  cases piece with
  | nil => exact absurd (isIdentifier_of_mem_splitOn h [] hpiece) (by decide)
  | cons c rest => rfl

theorem packageSegments_ne_nil : packageSegments package ≠ [] := by
  rw [packageSegments_eq h]
  simpa using Text.splitOn_ne_nil _ _

/-- The segments of a qualified name are identifiers. -/
theorem isIdentifier_of_mem_packageSegments {segment : String}
    (hsegment : segment ∈ packageSegments package) :
    Kotlin.isIdentifier segment.toList = true := by
  rw [packageSegments_eq h] at hsegment
  obtain ⟨piece, hpiece, rfl⟩ := List.mem_map.mp hsegment
  rw [String.toList_ofList]
  exact isIdentifier_of_mem_splitOn h piece hpiece

/-- The segments of a qualified name spell it. -/
theorem intercalate_packageSegments : ".".intercalate (packageSegments package) = package := by
  have hpieces : ((Text.splitOn (· == '.') package.toList).map String.ofList).map String.toList =
      Text.splitOn (· == '.') package.toList := by
    rw [List.map_map]
    exact List.map_id'' (fun piece => String.toList_ofList) _
  refine String.toList_injective ?_
  rw [packageSegments_eq h, String.toList_intercalate, hpieces]
  exact Text.joined_splitOn '.' package.toList

/-- The segments of a qualified name are directories on the way to every page. -/
theorem descends_place_of_isQualifiedName (path : String) :
    ∃ (directories : List String) (file : String), Descends (place path package).output
      ((packageSegments package ++ directories).map .ofText) (.ofText file) :=
  ⟨_, _, descends_place_through path (slash_notMem_of_isQualifiedName h)⟩

end Site

end MarkdownPages
