import MarkdownPages.Proofs.Text.Pieces
import MarkdownPages.Render.Reference

/-!
# Destinations with a fragment

Whether a destination leaves the site is asked of the whole destination, fragment included. So a
path that names a document may stop naming it once a fragment stands behind: a fragment with `://`
is taken for the start of a host, and if there is no slash before it, a fragment with a colon makes
the whole of what stands before the colon a scheme. Any other fragment changes nothing.

## Main definitions

* `KeepsInside` — a fragment that changes nothing behind a path

## Main results

* `hasScheme_append_hash` — the scheme of a path with a fragment
* `isOutward_append_hash` — when a fragment makes a destination leave the site
* `reference_with_fragment_iff` — when a path with a fragment names the document of the path
-/

namespace MarkdownPages

/-- A fragment behind a path in which nothing can be taken for a host or a scheme. -/
structure KeepsInside (path fragment : List Char) : Prop where
  /-- There is no `://` in the fragment. -/
  host : ¬ [':', '/', '/'] <:+: fragment
  /-- A slash stands before the first colon, if not in the path then in the fragment. -/
  scheme : '/' ∈ path ∨ hasScheme fragment = false

instance (path fragment : List Char) : Decidable (KeepsInside path fragment) :=
  decidable_of_iff (Text.hasInfix [':', '/', '/'] fragment = false ∧
      (path.contains '/' = true ∨ hasScheme fragment = false)) <| by
    rw [List.contains_iff_mem, ← Bool.not_eq_true, Text.hasInfix_iff]
    exact ⟨fun h => ⟨h.1, h.2⟩, fun h => ⟨h.host, h.scheme⟩⟩

/-! ### Schemes -/

theorem hasScheme_append_colon {before : List Char} (h : ':' ∉ before) (after : List Char) :
    hasScheme (before ++ ':' :: after) = !before.contains '/' := by
  rw [hasScheme, Text.cutFirst_append h]

theorem hasScheme_of_notMem {s : List Char} (h : ':' ∉ s) : hasScheme s = false := by
  rw [hasScheme, Text.cutFirst_eq_none_iff.mpr h]

/-- The scheme of a path with a fragment is the one of the path, if it has a colon. Otherwise the
path is a part of the scheme, and must have no slash either. -/
theorem hasScheme_append_hash (path fragment : List Char) :
    hasScheme (path ++ '#' :: fragment) =
      (hasScheme path || (!path.contains '/' && hasScheme fragment)) := by
  cases hpath : Text.cutFirst ':' path with
  | some parts =>
    obtain ⟨before, after⟩ := parts
    obtain rfl := Text.cutFirst_eq_some hpath
    have hbefore := Text.notMem_of_cutFirst_eq_some hpath
    rw [List.append_assoc, List.cons_append, hasScheme_append_colon hbefore,
      hasScheme_append_colon hbefore, List.contains_append]
    cases before.contains '/' <;> rfl
  | none =>
    have hcolon : ':' ∉ path := Text.cutFirst_eq_none_iff.mp hpath
    rw [hasScheme_of_notMem hcolon, Bool.false_or]
    cases hfragment : Text.cutFirst ':' fragment with
    | some parts =>
      obtain ⟨before, after⟩ := parts
      obtain rfl := Text.cutFirst_eq_some hfragment
      have hbefore := Text.notMem_of_cutFirst_eq_some hfragment
      have hboth : ':' ∉ path ++ '#' :: before := by simp [hcolon, hbefore]
      rw [← List.cons_append, ← List.append_assoc, hasScheme_append_colon hboth,
        hasScheme_append_colon hbefore, List.contains_append, List.contains_cons, Bool.not_or]
      rfl
    | none =>
      have hbefore := Text.cutFirst_eq_none_iff.mp hfragment
      rw [hasScheme_of_notMem hbefore, hasScheme_of_notMem (by simp [hcolon, hbefore]),
        Bool.and_false]

/-! ### Leaving the site -/

theorem isOutward_eq_false_iff {destination : List Char} : isOutward destination = false ↔
    ¬ ['#'] <+: destination ∧ ¬ ['/', '/'] <+: destination ∧
      ¬ [':', '/', '/'] <:+: destination ∧ hasScheme destination = false := by
  simp only [isOutward, Bool.or_eq_false_iff, and_assoc]
  simp only [Bool.eq_false_iff, ne_eq, List.isPrefixOf_iff_prefix, Text.hasInfix_iff]

/-- A path without `//` in front has none there with a fragment behind it. -/
theorem slashes_prefix_append_hash {path fragment : List Char} :
    ['/', '/'] <+: path ++ '#' :: fragment ↔ ['/', '/'] <+: path := by
  match path with
  | [] => simp
  | [c] => simp
  | c :: d :: rest => simp

/-- A fragment makes a destination leave the site only if something in it can be taken for a host
or a scheme. -/
theorem isOutward_append_hash {path : List Char} (hpath : path ≠ []) (fragment : List Char) :
    isOutward (path ++ '#' :: fragment) = false ↔
      isOutward path = false ∧ KeepsInside path fragment := by
  have hhash : ['#'] <+: path ++ '#' :: fragment ↔ ['#'] <+: path := by
    obtain ⟨c, rest, rfl⟩ := List.exists_cons_of_ne_nil hpath
    simp
  rw [isOutward_eq_false_iff, isOutward_eq_false_iff, hhash, slashes_prefix_append_hash,
    Text.infix_append_cons_iff (by simp) (by simp), hasScheme_append_hash, Bool.or_eq_false_iff,
    Bool.and_eq_false_iff]
  constructor
  · rintro ⟨hhash, hslashes, hhost, hscheme, hfragment⟩
    obtain ⟨hpath, hhost⟩ := not_or.mp hhost
    exact ⟨⟨hhash, hslashes, hpath, hscheme⟩, hhost, by simpa using hfragment⟩
  · rintro ⟨⟨hhash, hslashes, hpath, hscheme⟩, hhost, hfragment⟩
    exact ⟨hhash, hslashes, not_or.mpr ⟨hpath, hhost⟩, hscheme, by simpa using hfragment⟩

/-! ### Naming a document -/

theorem markdownReference?_of_notMem {path : List Char} (h : '#' ∉ path) :
    markdownReference? path = some (path, none) ↔
      isOutward path = false ∧ ['.', 'm', 'd'] <:+ path := by
  rw [markdownReference?, Text.cutFirst_eq_none_iff.mpr h, ← List.isSuffixOf_iff_suffix]
  cases isOutward path <;> simp

theorem markdownReference?_append_hash {path : List Char} (h : '#' ∉ path) (fragment : List Char) :
    markdownReference? (path ++ '#' :: fragment) = some (path, some ('#' :: fragment)) ↔
      isOutward (path ++ '#' :: fragment) = false ∧ ['.', 'm', 'd'] <:+ path := by
  rw [markdownReference?, Text.cutFirst_append h, ← List.isSuffixOf_iff_suffix]
  cases isOutward (path ++ '#' :: fragment) <;> simp

/-- **Fragments.** A path with a fragment names the document that the path names without it, as
long as nothing in the fragment can be taken for a host or a scheme, and then only. -/
theorem reference_with_fragment_iff (path fragment : List Char) (h : '#' ∉ path) :
    markdownReference? (path ++ '#' :: fragment) = some (path, some ('#' :: fragment)) ↔
      markdownReference? path = some (path, none) ∧ KeepsInside path fragment := by
  rw [markdownReference?_append_hash h, markdownReference?_of_notMem h]
  constructor
  · rintro ⟨houtward, hsuffix⟩
    have hpath : path ≠ [] := by
      rintro rfl
      exact absurd (List.suffix_nil.mp hsuffix) (by simp)
    obtain ⟨hinside, hkeeps⟩ := (isOutward_append_hash hpath fragment).mp houtward
    exact ⟨⟨hinside, hsuffix⟩, hkeeps⟩
  · rintro ⟨⟨hinside, hsuffix⟩, hkeeps⟩
    have hpath : path ≠ [] := by
      rintro rfl
      exact absurd (List.suffix_nil.mp hsuffix) (by simp)
    exact ⟨(isOutward_append_hash hpath fragment).mpr ⟨hinside, hkeeps⟩, hsuffix⟩

/-- Behind a path with a slash, a fragment may hold a colon. -/
theorem reference_with_fragment_of_colon :
    '#' ∉ "docs/guide.md".toList ∧
      markdownReference? ("docs/guide.md".toList ++ '#' :: "note:1".toList) =
        some ("docs/guide.md".toList, some ('#' :: "note:1".toList)) :=
  ⟨by decide, (reference_with_fragment_iff _ _ (by decide)).mpr (by decide)⟩

/-- A document in the same directory cannot be referred to by a fragment with a colon, and no
document by a fragment with a host. -/
theorem not_reference_with_fragment_of_colon :
    markdownReference? "guide.md".toList = some ("guide.md".toList, none) ∧
      markdownReference? "guide.md#note:1".toList = none ∧
      markdownReference? "docs/guide.md".toList = some ("docs/guide.md".toList, none) ∧
      markdownReference? "docs/guide.md#see-http://a".toList = none := by
  decide

end MarkdownPages
