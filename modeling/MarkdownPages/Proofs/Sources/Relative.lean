import MarkdownPages.Proofs.Sources.Containment

/-!
# Paths as seen from the roots

A canonical path that starts with a root has a relative path: the names that follow those of the
first such root, with a slash between each two. As names hold no slash, nothing is lost, and the
relative path leads from the root back to the canonical one.

Roots may lie inside of each other, and the text of one may start that of another without one lying
inside of the other. Which root a path is seen from is settled by whole components and by the order
of the roots.

## Main definitions

* `Roots.HoldsFirst` — the first root that a path starts with

## Main results

* `Roots.relativePath?_of_holdsFirst` — the relative path consists of the names behind the root
* `Roots.isSome_relativePath?_iff` — which paths have a relative path
* `Roots.relativePath?_inverts_join` — the relative path leads from the root to the path
-/

namespace MarkdownPages

open RawText (slash dot)

namespace Path

/-- The components of an absolute path are the top and its route. -/
theorem components_of_isAbsolute {p : Path} (h : p.isAbsolute = true) :
    p.components = .root :: p.route.map Step.component := by
  rw [components_eq, isAbsolute_iff.mp h]
  rfl

/-! ### Names with slashes between them -/

section Names

variable {names : List RawText} (hnames : ∀ name ∈ names, IsName name)

include hnames

theorem relativeOfNames_eq_empty_iff : relativeOfNames names = ⟨""⟩ ↔ names = [] := by
  refine ⟨fun h => ?_, fun h => h ▸ rfl⟩
  by_contra hne
  have hsteps := steps_relativeOfNames hnames hne
  rw [h] at hsteps
  have hhere : .here ∈ names.map Step.into := hsteps ▸ by decide
  simp at hhere

theorem isAbsolute_relativeOfNames : (relativeOfNames names).isAbsolute = false := by
  by_cases hne : names = []
  · subst hne
    rfl
  · refine isAbsolute_of_steps ?_
    rw [steps_relativeOfNames hnames hne]
    obtain ⟨name, rest, rfl⟩ := List.exists_cons_of_ne_nil hne
    simp

/-- The pieces of a path are its names, and none of them is idle or goes up. -/
theorem mem_pieces_relativeOfNames (hne : names ≠ []) {piece : List UInt8}
    (hpiece : piece ∈ Text.splitOn (· == slash) (relativeOfNames names).text.bytes) :
    piece ≠ [] ∧ piece ≠ [dot] ∧ piece ≠ [dot, dot] := by
  have hstep : Step.ofPiece piece ∈ (relativeOfNames names).steps := List.mem_map_of_mem hpiece
  rw [steps_relativeOfNames hnames hne] at hstep
  obtain ⟨name, -, hname⟩ := List.mem_map.mp hstep
  have hkept : ∀ other, Step.ofPiece other ≠ .into name → piece ≠ other := by
    rintro other hother rfl
    exact hother hname.symm
  exact ⟨hkept _ (by simp [Step.ofPiece]), hkept _ (by simp [Step.ofPiece]),
    hkept _ (by simp [Step.ofPiece])⟩

/-- Joined to a place, names lead to the place below. -/
theorem same_join_relativeOfNames {base : List RawText} (hbase : ∀ name ∈ base, IsName name) :
    ((ofNames base).join (relativeOfNames names)).same (ofNames (base ++ names)) = true := by
  have hrelative := isAbsolute_relativeOfNames hnames
  have hroute : (relativeOfNames names).route = names.map .into := by
    by_cases hne : names = []
    · subst hne
      rfl
    · rw [route, steps_relativeOfNames hnames hne, filter_map_into]
  rw [same, beq_iff_eq, components_of_isAbsolute ((isAbsolute_join hrelative).trans (by simp)),
    components_ofNames (List.forall_mem_append.mpr ⟨hbase, hnames⟩), route_join hrelative, hroute,
    route_ofNames hbase, ← List.map_append, List.map_map]
  rfl

end Names

/-- Names that have texts, with slashes between them, have the text of the same form. -/
theorem relativeOfNames_map_ofText (texts : List String) :
    relativeOfNames (texts.map .ofText) = ⟨"/".intercalate texts⟩ :=
  ext_bytes (RawText.bytes_intercalate texts).symm

end Path

namespace Roots

variable {roots : Roots} {root p : Path}

/-! ### The first root -/

/-- A root is the first, in order, whose components start those of a path. -/
def HoldsFirst (roots : Roots) (root p : Path) : Prop :=
  ∃ before after, roots.paths = before ++ root :: after ∧ root.components <+: p.components ∧
    ∀ earlier ∈ before, ¬ earlier.components <+: p.components

theorem find?_eq_some_iff : roots.paths.find? p.startsWith = some root ↔
    roots.HoldsFirst root p := by
  have hstarts : ∀ root, (!p.startsWith root) = true ↔ ¬ root.components <+: p.components := by
    intro root
    rw [Bool.not_eq_true', ← Bool.not_eq_true, Path.startsWith, List.isPrefixOf_iff_prefix]
  simp only [List.find?_eq_some_iff_append, HoldsFirst, hstarts]
  rw [Path.startsWith, List.isPrefixOf_iff_prefix]
  constructor
  · rintro ⟨hroot, before, after, hsplit, hbefore⟩
    exact ⟨before, after, hsplit, hroot, hbefore⟩
  · rintro ⟨before, after, hsplit, hroot, hbefore⟩
    exact ⟨hroot, before, after, hsplit, hbefore⟩

theorem HoldsFirst.unique {other : Path} (h : roots.HoldsFirst root p)
    (h' : roots.HoldsFirst other p) : root = other :=
  Option.some.inj ((find?_eq_some_iff.mpr h).symm.trans (find?_eq_some_iff.mpr h'))

theorem holds_iff : roots.Holds p ↔ ∃ root, roots.HoldsFirst root p := by
  simp only [← find?_eq_some_iff, ← Option.isSome_iff_exists, List.find?_isSome, Holds,
    Path.startsWith, List.isPrefixOf_iff_prefix]

/-! ### Names with texts -/

/-- The names on the way from the first root that holds a path have texts. -/
def HasText (roots : Roots) (p : Path) : Prop :=
  ∀ root, roots.HoldsFirst root p →
    ∀ name, .normal name ∈ p.components.drop root.components.length → ∃ text, name = .ofText text

/-- All names in a path may have texts. -/
theorem hasText_ofNames {texts : List String}
    (h : ∀ name ∈ texts.map RawText.ofText, Path.IsName name) :
    roots.HasText (.ofNames (texts.map .ofText)) := by
  intro root hroot name hname
  have hmem := List.mem_of_mem_drop hname
  rw [Path.components_ofNames h] at hmem
  obtain ⟨text, -, hsame⟩ : ∃ text ∈ texts, RawText.ofText text = name := by simpa using hmem
  exact ⟨text, hsame.symm⟩

/-! ### Relative paths -/

theorem mapM_componentName? (names : List RawText) :
    (names.map Path.Component.normal).mapM componentName? = names.mapM RawText.text? := by
  induction names with
  | nil => rfl
  | cons name rest ih =>
    rw [List.map_cons, List.mapM_cons, List.mapM_cons, ih]
    rfl

section Canonical

variable (hroots : ∀ root ∈ roots.paths, root.IsCanonical)

include hroots

/-- **Relative paths.** The relative path of a canonical path consists of the texts of the names
that follow those of the first root that the path starts with. -/
theorem relativePath?_of_holdsFirst {names : List RawText}
    (hnames : ∀ name ∈ names, Path.IsName name) (h : roots.HoldsFirst root (.ofNames names)) :
    ∃ base rest, root = .ofNames base ∧ (∀ name ∈ base, Path.IsName name) ∧
      names = base ++ rest ∧
      (Path.ofNames names).components.drop root.components.length = rest.map .normal ∧
      roots.relativePath? (.ofNames names) =
        (rest.mapM RawText.text?).map ("/".intercalate ·) := by
  have hfind := find?_eq_some_iff.mpr h
  obtain ⟨base, rfl, hbase⟩ := hroots root (List.mem_of_find?_eq_some hfind)
  obtain ⟨rest, rfl⟩ := (Path.startsWith_ofNames hnames hbase).mp (List.find?_some hfind)
  have hrest : (Path.ofNames (base ++ rest)).components.drop (Path.ofNames base).components.length =
      rest.map .normal := by
    rw [Path.components_ofNames hnames, Path.components_ofNames hbase, List.length_cons,
      List.drop_succ_cons, List.map_append, List.drop_left]
  refine ⟨base, rest, rfl, hbase, rfl, hrest, ?_⟩
  rw [relativePath?, hfind, Option.bind_eq_bind, Option.bind_some, hrest, mapM_componentName?]
  exact bind_pure_comp ..

omit hroots in
theorem exists_holdsFirst (h : (roots.relativePath? p).isSome = true) :
    ∃ root, roots.HoldsFirst root p := by
  cases hfind : roots.paths.find? p.startsWith with
  | none =>
    rw [relativePath?, hfind] at h
    cases h
  | some root => exact ⟨root, find?_eq_some_iff.mp hfind⟩

/-- A canonical path has a relative path if it starts with a root and the names that follow have
texts, and then only. -/
theorem isSome_relativePath?_iff (hp : p.IsCanonical) :
    (roots.relativePath? p).isSome = true ↔ roots.Holds p ∧ roots.HasText p := by
  obtain ⟨names, rfl, hnames⟩ := hp
  rw [holds_iff]
  constructor
  · intro h
    obtain ⟨root, hroot⟩ := exists_holdsFirst h
    obtain ⟨base, rest, -, -, -, hdrop, hrelative⟩ :=
      relativePath?_of_holdsFirst hroots hnames hroot
    rw [hrelative, Option.isSome_map, RawText.isSome_mapM_text?_iff] at h
    refine ⟨⟨root, hroot⟩, fun other hother name hname => ?_⟩
    rw [hother.unique hroot, hdrop] at hname
    exact h name (by simpa using hname)
  · rintro ⟨⟨root, hroot⟩, htext⟩
    obtain ⟨base, rest, -, -, -, hdrop, hrelative⟩ :=
      relativePath?_of_holdsFirst hroots hnames hroot
    rw [hrelative, Option.isSome_map, RawText.isSome_mapM_text?_iff]
    exact fun name hname => htext root hroot name (hdrop ▸ List.mem_map_of_mem hname)

/-- A canonical path with a relative path is put together from a root and names that have texts. -/
theorem exists_names_of_relativePath? (hp : p.IsCanonical) {relative : String}
    (h : roots.relativePath? p = some relative) : ∃ (base : List RawText) (texts : List String),
      roots.HoldsFirst (.ofNames base) p ∧ (∀ name ∈ base, Path.IsName name) ∧
      (∀ name ∈ texts.map RawText.ofText, Path.IsName name) ∧
      p = .ofNames (base ++ texts.map .ofText) ∧
      ⟨relative⟩ = Path.relativeOfNames (texts.map .ofText) := by
  obtain ⟨names, rfl, hnames⟩ := hp
  obtain ⟨root, hroot⟩ := exists_holdsFirst (Option.isSome_iff_exists.mpr ⟨_, h⟩)
  obtain ⟨base, rest, rfl, hbase, rfl, -, hrelative⟩ :=
    relativePath?_of_holdsFirst hroots hnames hroot
  rw [h, eq_comm, Option.map_eq_some_iff] at hrelative
  obtain ⟨texts, htexts, rfl⟩ := hrelative
  obtain rfl := RawText.mapM_text?_eq_some_iff.mp htexts
  exact ⟨base, texts, hroot, hbase, fun name hname => hnames name (List.mem_append_right _ hname),
    rfl, (Path.relativeOfNames_map_ofText texts).symm⟩

/-- Joined to the first root that holds a path, the relative path leads to the path. -/
theorem same_join_of_relativePath? (hp : p.IsCanonical) {relative : String}
    (h : roots.relativePath? p = some relative) (hroot : roots.HoldsFirst root p) :
    (root.join ⟨relative⟩).same p = true := by
  obtain ⟨base, texts, hfirst, hbase, hrest, rfl, hrelative⟩ :=
    exists_names_of_relativePath? hroots hp h
  rw [hroot.unique hfirst, hrelative]
  exact Path.same_join_relativeOfNames hrest hbase

/-- **Relative paths and joining.** A canonical path whose names below the roots have texts has a
relative path if and only if it starts with all components of a root. The relative path is empty for
the root itself. Otherwise it consists of names with slashes between them. Joined to the first root
that holds the path it leads back to the path, so no other path below that root has the same
relative path. -/
theorem relativePath?_inverts_join (hp : p.IsCanonical) (htext : roots.HasText p) :
    ((roots.relativePath? p).isSome = true ↔ isContained p roots.paths = true) ∧
      (isContained p roots.paths = true ↔ roots.Holds p) ∧
      ∀ relative, roots.relativePath? p = some relative → ∃ root, roots.HoldsFirst root p ∧
        (relative = "" ↔ p.same root = true) ∧
        (relative ≠ "" → relative.toList.head? ≠ some '/' ∧
          ∀ piece ∈ Text.splitOn (· == '/') relative.toList,
            piece ≠ [] ∧ piece ≠ ['.'] ∧ piece ≠ ['.', '.']) ∧
        (root.join ⟨relative⟩).same p = true ∧
        ∀ q, q.IsCanonical → roots.HoldsFirst root q → roots.relativePath? q = some relative →
          q = p := by
  refine ⟨?_, contains_iff, fun relative hrelative => ?_⟩
  · rw [isSome_relativePath?_iff hroots hp, and_iff_left htext]
    exact contains_iff.symm
  obtain ⟨base, texts, hfirst, hbase, hrest, hjoined, hrelativePath⟩ :=
    exists_names_of_relativePath? hroots hp hrelative
  have hempty : relative = "" ↔ texts.map RawText.ofText = [] := by
    rw [← Path.relativeOfNames_eq_empty_iff hrest, ← hrelativePath, Path.mk.injEq]
    exact ⟨congrArg _, RawText.ofText_injective⟩
  have hjoin := same_join_of_relativePath? hroots hp hrelative hfirst
  refine ⟨.ofNames base, hfirst, hempty.trans ?_, fun hne => ?_, hjoin, fun q hq hroot hsame => ?_⟩
  · rw [hjoined, Path.same_ofNames_iff (List.forall_mem_append.mpr ⟨hbase, hrest⟩) hbase,
      List.append_right_eq_self]
  · have habsolute := Path.isAbsolute_relativeOfNames hrest
    rw [← hrelativePath, ← Bool.not_eq_true, Path.isAbsolute_ofText] at habsolute
    refine ⟨habsolute, fun piece hpiece => ?_⟩
    -- the pieces of the text and those of its bytes are the same pieces
    have hbytes :
        RawText.encode piece ∈ Text.splitOn (· == slash) (RawText.ofText relative).bytes := by
      rw [RawText.bytes_ofText, RawText.splitOn_encode]
      exact List.mem_map_of_mem hpiece
    rw [show RawText.ofText relative = (⟨relative⟩ : Path).text from rfl, hrelativePath] at hbytes
    obtain ⟨hnil, hdot, hdots⟩ := Path.mem_pieces_relativeOfNames hrest (mt hempty.mpr hne) hbytes
    refine ⟨?_, ?_, ?_⟩
    · rintro rfl
      exact hnil rfl
    · rintro rfl
      exact hdot (by decide)
    · rintro rfl
      exact hdots (by decide)
  · have hback := same_join_of_relativePath? hroots hq hsame hroot
    rw [Path.same, beq_iff_eq] at hjoin hback
    exact hq.eq_of_same hp (by rw [Path.same, ← hback, hjoin, beq_self_eq_true])

end Canonical

/-- A directory whose name starts with that of a root does not lie inside of the root. What lies in
the directory is seen from the next root, which holds both. -/
theorem relativePath?_inverts_join_of_sibling :
    let roots : Roots := ⟨[⟨"/srv/docs"⟩, ⟨"/srv"⟩]⟩
    let p : Path := ⟨"/srv/docs-old/a.md"⟩
    (∀ root ∈ roots.paths, root.IsCanonical) ∧ p.IsCanonical ∧ roots.HasText p ∧
      roots.relativePath? p = some "docs-old/a.md" ∧
      ∃ root, roots.HoldsFirst root p ∧ (root.join ⟨"docs-old/a.md"⟩).same p = true := by
  intro roots p
  have hname : ∀ name ∈ ["srv", "docs", "docs-old", "a.md"].map RawText.ofText,
      Path.IsName name := by
    simp only [Path.IsName]
    decide +kernel
  have hbelow : ∀ names : List String, names ⊆ ["srv", "docs", "docs-old", "a.md"] →
      ∀ name ∈ names.map RawText.ofText, Path.IsName name :=
    fun names hsub name hmem => hname name (List.map_subset _ hsub hmem)
  have hroots : ∀ root ∈ roots.paths, root.IsCanonical := by
    simp only [roots, List.forall_mem_cons]
    exact ⟨⟨["srv", "docs"].map .ofText, by decide +kernel, hbelow _ (by decide)⟩,
      ⟨["srv"].map .ofText, by decide +kernel, hbelow _ (by decide)⟩, by simp⟩
  have hplace : p = .ofNames (["srv", "docs-old", "a.md"].map .ofText) := by decide +kernel
  have hp : p.IsCanonical := ⟨_, hplace, hbelow _ (by decide)⟩
  have htext : roots.HasText p := hplace ▸ hasText_ofNames (hbelow _ (by decide))
  have hrelative : roots.relativePath? p = some "docs-old/a.md" := by decide +kernel
  obtain ⟨root, hfirst, -, -, hjoin, -⟩ :=
    (relativePath?_inverts_join hroots hp htext).2.2 _ hrelative
  exact ⟨hroots, hp, htext, hrelative, root, hfirst, hjoin⟩

end Roots

end MarkdownPages
