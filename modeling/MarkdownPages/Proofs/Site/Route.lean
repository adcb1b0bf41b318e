import MarkdownPages.Proofs.Site.Output

/-!
# Which documents share a route

A route forgets more of a path than the file and the function of the page do: the stem is read in
lower case, and the index of a directory has the route of the directory. So it can be told exactly
which paths have one route. Either both are the index of one directory, or they differ in the case
of the stem, or one is the index of a directory beside which the other one stands, named like it.

## Main definitions

* `Site.segmentsOf`, `Site.stemOf` — what a route is made from
* `Site.DifferInCase`, `Site.IsNamedLikeIndex` — the two ways in which a route is shared by pages
  that go to different files

## Main results

* `Site.route_eq_iff` — which documents share a route
-/

namespace MarkdownPages

namespace Site

/-! ### Parts of a route -/

/-- The package segments of the directories in a path. -/
def segmentsOf (path : String) : List String := directorySegments (splitPath path.toList).1

/-- The stem of the file to which a path leads. -/
def stemOf (path : String) : List Char := (splitPath path.toList).2

/-- A document is the index of its directory. -/
def IsIndex (path : String) : Prop := stemOf path = "index".toList

instance decidableIsIndex (path : String) : Decidable (IsIndex path) :=
  inferInstanceAs (Decidable (stemOf path = "index".toList))

/-- The stem of a path in lower case. -/
def loweredStem (path : String) : String := String.ofList (Text.lowered (stemOf path))

/-- What stands between the slashes of a route. -/
def routeParts (path : String) : List String :=
  segmentsOf path ++ if IsIndex path then [] else [loweredStem path]

/-- A slash in front of a path changes neither its directories nor its stem. -/
private theorem splitPath_cons_slash (path : List Char) :
    splitPath ('/' :: path) = splitPath path := by
  rw [splitPath, splitPath, Text.cutLast]
  cases hcut : Text.cutLast '/' path with
  | none => rfl
  | some parts =>
    obtain ⟨directories, file⟩ := parts
    have hsplit : Text.splitOn (· == '/') ('/' :: directories) =
        [] :: Text.splitOn (· == '/') directories :=
      Text.splitOn_cons_of_separator rfl
    simp only [Option.getD_some, hsplit]
    rfl

private theorem splitPath_dropWhile (path : List Char) :
    splitPath (path.dropWhile (· == '/')) = splitPath path := by
  induction path with
  | nil => rfl
  | cons c rest ih =>
    by_cases hc : c = '/'
    · subst hc
      rw [List.dropWhile_cons_of_pos rfl, ih, splitPath_cons_slash]
    · rw [List.dropWhile_cons_of_neg (by simpa using hc)]

theorem route_eq_intercalate (path : String) :
    route path = "/" ++ "/".intercalate (routeParts path) := by
  have hroute : route path = "/" ++ "/".intercalate (segmentsOf path ++
      if stemOf path == "index".toList then [] else [loweredStem path]) := by
    rw [route, splitPath_dropWhile]
    rfl
  rw [hroute, routeParts]
  by_cases hindex : IsIndex path
  · rw [if_pos hindex, if_pos (beq_iff_eq.mpr hindex)]
  · rw [if_neg hindex, if_neg fun h => hindex (beq_iff_eq.mp h)]

/-- Where a page goes depends on the segments and on the stem, and on nothing else of the path. -/
theorem place_congr {path other : String} (hsegments : segmentsOf path = segmentsOf other)
    (hstem : stemOf path = stemOf other) (basePackage : String) :
    place path basePackage = place other basePackage := by
  rw [segmentsOf, segmentsOf] at hsegments
  rw [stemOf, stemOf] at hstem
  rw [place, place]
  dsimp only
  rw [hsegments, hstem]

/-! ### Texts between slashes -/

/-- Texts without slashes are told apart when slashes are put between them, apart from no text and
the empty one. -/
theorem intercalate_slash_inj {xs ys : List String} (hxs : ∀ x ∈ xs, '/' ∉ x.toList)
    (hys : ∀ y ∈ ys, '/' ∉ y.toList) : "/".intercalate xs = "/".intercalate ys ↔
      xs = ys ∨ (xs = [] ∧ ys = [""]) ∨ (xs = [""] ∧ ys = []) := by
  have hsplit : ∀ zs : List String, zs ≠ [] → (∀ z ∈ zs, '/' ∉ z.toList) →
      Text.splitOn (· == '/') ("/".intercalate zs).toList = zs.map String.toList := by
    intro zs hne hzs
    rw [String.toList_intercalate]
    exact Text.splitOn_joined (by simpa using hne) (by simpa using hzs)
  have hempty : ∀ zs : List String, (∀ z ∈ zs, '/' ∉ z.toList) → "/".intercalate zs = "" →
      zs = [] ∨ zs = [""] := by
    intro zs hzs hjoined
    refine Decidable.or_iff_not_imp_left.mpr fun hne => ?_
    have hmap := (hsplit zs hne hzs).symm
    rw [hjoined] at hmap
    obtain ⟨z, rfl, hz⟩ := List.map_eq_singleton_iff.mp hmap
    rw [String.toList_eq_nil_iff.mp hz]
  constructor
  · intro heq
    by_cases hx : xs = []
    · subst hx
      exact (hempty ys hys heq.symm).imp Eq.symm fun h => .inl ⟨rfl, h⟩
    · by_cases hy : ys = []
      · subst hy
        exact .inr (.inr ⟨(hempty xs hxs heq).resolve_left hx, rfl⟩)
      · refine .inl ((List.map_inj_right fun _ _ => String.toList_inj.mp).mp ?_)
        rw [← hsplit xs hx hxs, ← hsplit ys hy hys, heq]
  · rintro (rfl | ⟨rfl, rfl⟩ | ⟨rfl, rfl⟩) <;> rfl

theorem plain_segmentsOf (path : String) :
    ∀ segment ∈ segmentsOf path, segment ≠ "" ∧ '/' ∉ segment.toList := by
  intro segment hsegment
  obtain ⟨directory, -, rfl⟩ := List.mem_map.mp hsegment
  obtain ⟨hne, hslash, -⟩ := isPlain_packageSegment (String.ofList directory)
  exact ⟨hne, hslash⟩

theorem slash_notMem_routeParts (path : String) : ∀ part ∈ routeParts path, '/' ∉ part.toList := by
  rw [routeParts]
  refine List.forall_mem_append.mpr ⟨fun part hpart => (plain_segmentsOf path part hpart).2, ?_⟩
  split
  · simp
  · rw [List.forall_mem_singleton, loweredStem, String.toList_ofList]
    exact fun h => slash_notMem_stem _ (Text.mem_of_mem_lowered h (by decide) (by decide))

/-! ### Shared routes -/

/-- Two documents in one directory, neither of them its index, that differ at most in the case of
the stem. -/
structure DifferInCase (path other : String) : Prop where
  segments : segmentsOf path = segmentsOf other
  stems : loweredStem path = loweredStem other
  notIndex : ¬ IsIndex path
  otherNotIndex : ¬ IsIndex other

/-- A document stands beside the directory of an index and is named like it: the stem in lower case
is the package segment of the directory. The top directory has no name, like a document without a
stem. -/
structure IsNamedLikeIndex (path index : String) : Prop where
  isIndex : IsIndex index
  notIndex : ¬ IsIndex path
  segments : segmentsOf index = segmentsOf path ++ [loweredStem path] ∨
    segmentsOf index = [] ∧ segmentsOf path = [] ∧ stemOf path = []

theorem loweredStem_eq_empty {path : String} : loweredStem path = "" ↔ stemOf path = [] := by
  rw [loweredStem, ← Text.lowered_eq_nil]
  simp

/-- The parts of the route of a document and of an index. -/
private theorem intercalate_routeParts_of_isIndex {path index : String} (hindex : IsIndex index)
    (hpath : ¬ IsIndex path) : "/".intercalate (routeParts path) =
      "/".intercalate (routeParts index) ↔ IsNamedLikeIndex path index := by
  rw [intercalate_slash_inj (slash_notMem_routeParts path) (slash_notMem_routeParts index),
    routeParts, routeParts, if_neg hpath, if_pos hindex, List.append_nil]
  constructor
  · rintro (heq | ⟨heq, -⟩ | ⟨heq, hnil⟩)
    · exact ⟨hindex, hpath, .inl heq.symm⟩
    · simp at heq
    · obtain ⟨hsegments, hstem⟩ := List.append_eq_singleton_iff.mp heq |>.resolve_right (by simp)
      exact ⟨hindex, hpath,
        .inr ⟨hnil, hsegments, loweredStem_eq_empty.mp (List.singleton_inj.mp hstem)⟩⟩
  · rintro ⟨-, -, heq | ⟨hnil, hsegments, hstem⟩⟩
    · exact .inl heq.symm
    · refine .inr (.inr ⟨?_, hnil⟩)
      rw [hsegments, loweredStem_eq_empty.mpr hstem]
      rfl

/-- **Shared routes.** Two documents have one route if both are the index of one directory, if they
differ in case, or if one stands beside the directory of the other and is named like it. -/
theorem route_eq_iff (path other : String) : route path = route other ↔
    (segmentsOf path = segmentsOf other ∧ IsIndex path ∧ IsIndex other) ∨
      DifferInCase path other ∨ IsNamedLikeIndex path other ∨ IsNamedLikeIndex other path := by
  rw [route_eq_intercalate, route_eq_intercalate, String.append_right_inj]
  by_cases hpath : IsIndex path
  · by_cases hother : IsIndex other
    · rw [intercalate_slash_inj (slash_notMem_routeParts path) (slash_notMem_routeParts other),
        routeParts, routeParts, if_pos hpath, if_pos hother, List.append_nil, List.append_nil]
      constructor
      · rintro (heq | ⟨-, heq⟩ | ⟨heq, -⟩)
        · exact .inl ⟨heq, hpath, hother⟩
        · exact absurd rfl (plain_segmentsOf other "" (by simp [heq])).1
        · exact absurd rfl (plain_segmentsOf path "" (by simp [heq])).1
      · rintro (⟨heq, -, -⟩ | h | h | h)
        · exact .inl heq
        · exact absurd hpath h.notIndex
        · exact absurd hpath h.notIndex
        · exact absurd hother h.notIndex
    · rw [eq_comm, intercalate_routeParts_of_isIndex hpath hother]
      refine ⟨fun h => .inr (.inr (.inr h)), ?_⟩
      rintro (⟨-, -, h⟩ | h | h | h)
      · exact absurd h hother
      · exact absurd hpath h.notIndex
      · exact absurd hpath h.notIndex
      · exact h
  · by_cases hother : IsIndex other
    · rw [intercalate_routeParts_of_isIndex hother hpath]
      refine ⟨fun h => .inr (.inr (.inl h)), ?_⟩
      rintro (⟨-, h, -⟩ | h | h | h)
      · exact absurd h hpath
      · exact absurd hother h.otherNotIndex
      · exact h
      · exact absurd hother h.notIndex
    · rw [intercalate_slash_inj (slash_notMem_routeParts path) (slash_notMem_routeParts other),
        routeParts, routeParts, if_neg hpath, if_neg hother]
      constructor
      · rintro (heq | ⟨heq, -⟩ | ⟨-, heq⟩)
        · obtain ⟨hsegments, hstems⟩ := List.append_singleton_inj.mp heq
          exact .inr (.inl ⟨hsegments, hstems, hpath, hother⟩)
        · simp at heq
        · simp at heq
      · rintro (⟨-, h, -⟩ | h | h | h)
        · exact absurd h hpath
        · exact .inl (by rw [h.segments, h.stems])
        · exact absurd h.isIndex hother
        · exact absurd h.isIndex hpath

end Site

end MarkdownPages
