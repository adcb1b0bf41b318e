import MarkdownPages.Proofs.Site.Package
import MarkdownPages.Proofs.Site.Route

/-!
# Package, file and route go together

The directories in front of the last slash of a path each give a package segment, and no other part
of the path does, however many slashes there are between them. The package that is declared, the
directories of the generated file and the route are spelled from these segments, with dots or with
slashes between them. A segment holds neither, so it can be read back from each of the three.

## Main definitions

* `Site.directoriesOf`, `Site.fileOf` — the directories in a path, and what is behind its last slash
* `Site.IsSegment` — what a directory leaves of its name
* `Site.GoesThrough` — where a document is generated and under which route

## Main results

* `Site.splitPath_eq` — the directories and the stem of a path
* `Site.packageSegments_intercalate` — the segments are read back from the package
* `Site.goesThrough_directories` — package, file and route go through the same segments
-/

namespace MarkdownPages

namespace Site

/-! ### The parts of a path -/

/-- The names of the directories in a path: what stands between slashes, unless it is empty. -/
def directoriesOf (path : String) : List String :=
  ((Text.splitOn (· == '/') path.toList).dropLast.filter (!·.isEmpty)).map String.ofList

/-- What stands behind the last slash of a path. -/
def fileOf (path : String) : List Char :=
  (Text.splitOn (· == '/') path.toList).getLast (Text.splitOn_ne_nil _ _)

/-- The name of a file without its ending. -/
def stemOfFile (file : List Char) : List Char := (Text.dropSuffix? ['.', 'm', 'd'] file).getD file

/-- The pieces of a text are those in front of the last separator and what is behind it. -/
theorem splitOn_of_cutLast {separator : Char} {s before after : List Char}
    (h : Text.cutLast separator s = some (before, after)) :
    Text.splitOn (· == separator) s = Text.splitOn (· == separator) before ++ [after] := by
  have hafter : Text.splitOn (· == separator) after = [after] := by
    refine Text.splitOn_of_forall fun c hc => beq_eq_false_iff_ne.mpr ?_
    rintro rfl
    exact Text.notMem_of_cutLast_eq_some h hc
  rw [Text.cutLast_eq_some h, ← hafter]
  exact @Text.splitOn_append _ (· == separator) separator (beq_self_eq_true separator) before after

theorem splitPath_eq (path : String) :
    (splitPath path.toList).1.map String.ofList = directoriesOf path ∧
      (splitPath path.toList).2 = stemOfFile (fileOf path) := by
  rw [splitPath, directoriesOf, fileOf]
  cases hcut : Text.cutLast '/' path.toList with
  | none =>
    have hsplit : Text.splitOn (· == '/') path.toList = [path.toList] := by
      refine Text.splitOn_of_forall fun c hc => beq_eq_false_iff_ne.mpr ?_
      rintro rfl
      exact Text.cutLast_eq_none_iff.mp hcut hc
    simp only [hsplit]
    exact ⟨rfl, rfl⟩
  | some parts =>
    obtain ⟨before, after⟩ := parts
    simp only [splitOn_of_cutLast hcut, List.dropLast_concat, List.getLast_concat]
    exact ⟨rfl, rfl⟩

theorem segmentsOf_eq (path : String) :
    segmentsOf path = (directoriesOf path).map packageSegment := by
  rw [← (splitPath_eq path).1, List.map_map]
  rfl

theorem stemOf_eq (path : String) : stemOf path = stemOfFile (fileOf path) := (splitPath_eq path).2

/-! ### Segments -/

/-- A text that can stand between the dots of a package and between the slashes of a path or a
route, and that may be a name in a program as far as digits and keywords are concerned. -/
structure IsSegment (segment : String) : Prop where
  ne_empty : segment ≠ ""
  dot : '.' ∉ segment.toList
  slash : '/' ∉ segment.toList
  start : ∀ c, segment.toList.head? = some c → Text.isAsciiDigit c = false
  keyword : segment ∉ Kotlin.keywords

theorem isSegment_packageSegment (directory : String) : IsSegment (packageSegment directory) := by
  obtain ⟨hne, hslash, hdot⟩ := isPlain_packageSegment directory
  refine ⟨hne, hdot, hslash, fun c hc => ?_, packageSegment_notMem_keywords directory⟩
  rw [head?_packageSegment] at hc
  exact isAsciiDigit_head?_segmentBody hc

/-- Segments without dots are read back from the package that they spell. -/
theorem packageSegments_intercalate {segments : List String}
    (h : ∀ segment ∈ segments, IsPlain segment) :
    packageSegments (".".intercalate segments) = segments := by
  by_cases hnil : segments = []
  · subst hnil
    rfl
  · have hsplit : Text.splitOn (· == '.') (".".intercalate segments).toList =
        segments.map String.toList := by
      rw [String.toList_intercalate]
      refine Text.splitOn_joined (by simpa using hnil) fun piece hpiece => ?_
      obtain ⟨segment, hsegment, rfl⟩ := List.mem_map.mp hpiece
      exact (h segment hsegment).2.2
    have hkept : (segments.map String.toList).filter (!·.isEmpty) = segments.map String.toList := by
      refine List.filter_eq_self.mpr fun piece hpiece => ?_
      obtain ⟨segment, hsegment, rfl⟩ := List.mem_map.mp hpiece
      simpa using (h segment hsegment).1
    rw [packageSegments, hsplit, hkept, List.map_map]
    exact List.map_id'' (fun _ => String.ofList_toList) segments

/-! ### Package, file and route -/

/-- The document at `path` is generated in a package of the base package, in a file of the output
directory and under a route, which all go through the given segments. -/
structure GoesThrough (path basePackage : String) (segments : List String) : Prop where
  isSegment : ∀ segment ∈ segments, IsSegment segment
  /-- The package is the base package, followed by the segments. -/
  package : packageSegments (place path basePackage).package =
    packageSegments basePackage ++ segments
  /-- The file is named by a relative path of names, with a directory for every segment of the
  package. -/
  relative : (place path basePackage).output.isAbsolute = false
  output : ∃ name, (place path basePackage).output.components =
    (packageSegments (place path basePackage).package ++ [name ++ ".kt"]).map (.normal ·)
  /-- The route is made of the segments and the stem of the document, unless it is an index. -/
  route : Site.route path = "/" ++ "/".intercalate (segments ++
    if stemOfFile (fileOf path) = "index".toList then []
    else [String.ofList (Text.lowered (stemOfFile (fileOf path)))])

/-- **Package, file and route.** In a base package that is empty or a qualified name, they go
through one segment for every directory that a path names. -/
theorem goesThrough_directories (path : String) {basePackage : String}
    (h : basePackage = "" ∨ Kotlin.isQualifiedName basePackage.toList = true) :
    GoesThrough path basePackage ((directoriesOf path).map packageSegment) := by
  have hslash : '/' ∉ basePackage.toList := by
    rcases h with rfl | h
    · simp
    · exact slash_notMem_of_isQualifiedName h
  have hplain : ∀ segment ∈ packageSegments basePackage ++ segmentsOf path, IsPlain segment := by
    refine List.forall_mem_append.mpr ⟨isPlain_packageSegments hslash, fun segment hsegment => ?_⟩
    obtain ⟨directory, -, rfl⟩ := List.mem_map.mp hsegment
    exact isPlain_packageSegment _
  have hpackage : packageSegments (place path basePackage).package =
      packageSegments basePackage ++ segmentsOf path :=
    packageSegments_intercalate hplain
  have hdescends := descends_place_through path hslash
  rw [← segmentsOf_eq]
  refine ⟨fun segment hsegment => ?_, hpackage, hdescends.isAbsolute,
    ⟨String.ofList (Text.capitalized (splitPath path.toList).2), ?_⟩, ?_⟩
  · obtain ⟨directory, -, rfl⟩ := List.mem_map.mp hsegment
    exact isSegment_packageSegment _
  · rw [hpackage, hdescends.components, ← List.map_singleton, ← List.map_append, List.map_map]
    rfl
  · have hindex : IsIndex path ↔ stemOfFile (fileOf path) = "index".toList := by
      rw [IsIndex, stemOf_eq]
    simp only [route_eq_intercalate, routeParts, hindex, loweredStem, stemOf_eq]

/-- Doubled slashes, dots, a digit, a keyword and a capital. -/
theorem goesThrough_of_post :
    Kotlin.isQualifiedName "com.example.pages".toList = true ∧
      GoesThrough "/Blog//v1.2/2024/in/My-Post.md" "com.example.pages"
        ["blog", "v1_2", "_2024", "in_"] := by
  have hname : Kotlin.isQualifiedName "com.example.pages".toList = true := by decide
  have hsegments : (directoriesOf "/Blog//v1.2/2024/in/My-Post.md").map packageSegment =
      ["blog", "v1_2", "_2024", "in_"] := by decide +kernel
  exact ⟨hname, hsegments ▸ goesThrough_directories _ (.inr hname)⟩

end Site

end MarkdownPages
