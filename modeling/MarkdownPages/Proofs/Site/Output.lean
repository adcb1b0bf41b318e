import MarkdownPages.Proofs.Files.Spelling
import MarkdownPages.Proofs.Kotlin.Grammar
import MarkdownPages.Proofs.Site.Names
import MarkdownPages.Site.Placement

/-!
# Generated files lie below the output directory

The generated file of a page is named by a relative path: segments of the package, which hold no
dots, and a file name, which holds one. So the path never leads up or out, whatever the document is
called, and no generated file is a directory on the way to another one.

## Main definitions

* `Site.Descends` — a path of names, of which only the last holds a dot

## Main results

* `Site.descends_place` — the generated file of a page has such a path
-/

namespace MarkdownPages

namespace Site

/-- A relative path that goes through directories without a dot in their names to a file with a dot
in its name. -/
structure Descends (output : Path) (directories : List RawText) (file : RawText) : Prop where
  spelled : output = .relativeOfNames (directories ++ [file])
  names : ∀ name ∈ directories ++ [file], Path.IsName name
  plain : ∀ name ∈ directories, RawText.dot ∉ name.bytes
  dotted : RawText.dot ∈ file.bytes

namespace Descends

variable {output other : Path} {directories otherDirectories : List RawText}
  {file otherFile : RawText}

theorem steps (h : Descends output directories file) :
    output.steps = (directories ++ [file]).map .into := by
  rw [h.spelled]
  exact Path.steps_relativeOfNames h.names (by simp)

theorem route (h : Descends output directories file) :
    output.route = (directories ++ [file]).map .into := by
  rw [Path.route, h.steps, Path.filter_map_into]

/-- Such a path consists of names. -/
theorem components (h : Descends output directories file) :
    output.components = (directories ++ [file]).map .normal :=
  Path.components_of_steps h.steps (by simp)

theorem isAbsolute (h : Descends output directories file) : output.isAbsolute = false := by
  refine Path.isAbsolute_of_steps ?_
  rw [h.steps]
  cases directories <;> simp

theorem getLast?_steps (h : Descends output directories file) :
    output.steps.getLast? ≠ some .here := by
  rw [h.steps]
  exact Path.getLast?_map_into

/-- No file is on the way to another one. -/
theorem eq_of_isPrefix (h : Descends output directories file)
    (h' : Descends other otherDirectories otherFile)
    (hpre : directories ++ [file] <+: otherDirectories ++ [otherFile]) : output = other := by
  rcases List.prefix_concat_iff.mp hpre with heq | hbelow
  · rw [h.spelled, h'.spelled, heq]
  · exact absurd h.dotted (h'.plain file (hbelow.mem (by simp)))

end Descends

/-! ### Segments -/

/-- Whether a text is a name without dots. -/
def IsPlain (name : String) : Prop := name ≠ "" ∧ '/' ∉ name.toList ∧ '.' ∉ name.toList

theorem IsPlain.dot_notMem {name : String} (h : IsPlain name) :
    RawText.dot ∉ (RawText.ofText name).bytes := fun hdot => h.2.2 (RawText.dot_mem_ofText.mp hdot)

theorem IsPlain.isName {name : String} (h : IsPlain name) : Path.IsName name := by
  obtain ⟨hempty, hslash, -⟩ := id h
  obtain ⟨b, rest, hcons⟩ :=
    List.exists_cons_of_ne_nil fun hnil => hempty (RawText.bytes_ofText_eq_nil.mp hnil)
  have hb : b ∈ (RawText.ofText name).bytes := by simp [hcons]
  refine Path.isName_of_mem (fun hmem => hslash (RawText.slash_mem_ofText.mp hmem)) hb ?_
  rintro rfl
  exact h.dot_notMem hb

/-- A character of a segment is no slash and no dot. -/
private theorem mem_segmentChar {c d : Char} (h : d ∈ segmentChar c) : d ≠ '/' ∧ d ≠ '.' := by
  have hlow : ∀ e, e = '/' ∨ e = '.' → d ≠ e := by
    rintro e he rfl
    rw [segmentChar] at h
    split at h
    · rename_i hc
      obtain rfl := Text.eq_of_mem_toLower h (by rcases he with rfl | rfl <;> decide)
        (by rcases he with rfl | rfl <;> decide)
      rcases he with rfl | rfl <;> exact absurd hc (by decide)
    · split at h
      · obtain rfl := List.mem_singleton.mp h
        rcases he with he | he <;> cases he
      · cases h
  exact ⟨hlow _ (.inl rfl), hlow _ (.inr rfl)⟩

private theorem isPlain_ofList {cs : List Char} (hne : cs ≠ [])
    (h : ∀ d ∈ cs, d ≠ '/' ∧ d ≠ '.') : IsPlain (String.ofList cs) := by
  refine ⟨by simpa using hne, ?_, ?_⟩
  · rw [String.toList_ofList]
    exact fun hd => (h _ hd).1 rfl
  · rw [String.toList_ofList]
    exact fun hd => (h _ hd).2 rfl

/-- The segment of a directory is a name, whatever the directory is called. -/
theorem isPlain_packageSegment (directory : String) : IsPlain (packageSegment directory) := by
  have hchars : ∀ d ∈ (packageSegment directory).toList, d ≠ '/' ∧ d ≠ '.' := by
    intro d hd
    rcases mem_packageSegment hd with rfl | hbody
    · decide
    · rcases mem_segmentBody hbody with rfl | ⟨c, -, hc⟩
      · decide
      · exact mem_segmentChar hc
  exact ⟨packageSegment_ne_empty directory, fun hd => (hchars _ hd).1 rfl,
    fun hd => (hchars _ hd).2 rfl⟩

theorem isPlain_packageSegments {package : String} (h : '/' ∉ package.toList) :
    ∀ segment ∈ packageSegments package, IsPlain segment := by
  intro segment hsegment
  obtain ⟨piece, hpiece, rfl⟩ := List.mem_map.mp hsegment
  obtain ⟨hpiece, hne⟩ := List.mem_filter.mp hpiece
  have hmem := fun c hc => Text.not_separator_of_mem_splitOn hpiece (c := c) hc
  refine isPlain_ofList (by simpa using hne) fun d hd => ⟨?_, ?_⟩
  · rintro rfl
    exact h (hmem _ hd).2
  · simpa using (hmem _ hd).1

/-! ### Files -/

/-- The stem of a path holds no slash. -/
theorem slash_notMem_stem (path : List Char) : '/' ∉ (splitPath path).2 := by
  have hfile : '/' ∉ ((Text.cutLast '/' path).getD ([], path)).2 := by
    cases hcut : Text.cutLast '/' path with
    | none => exact Text.cutLast_eq_none_iff.mp hcut
    | some parts => exact Text.notMem_of_cutLast_eq_some hcut
  rw [splitPath]
  generalize (Text.cutLast '/' path).getD ([], path) = parts at hfile ⊢
  obtain ⟨directories, file⟩ := parts
  dsimp only at hfile ⊢
  rw [Text.dropSuffix?]
  split
  · exact fun h => hfile (List.mem_of_mem_take h)
  · exact hfile

private theorem output_place (path package : String) : (place path package).output =
    (((packageSegments package ++ directorySegments (splitPath path.toList).1).map .ofText).foldl
      Path.child ⟨""⟩).child
        (.ofText (String.ofList (Text.capitalized (splitPath path.toList).2) ++ ".kt")) := by
  rw [place]

/-- The path of a generated file descends through the segments of its package. -/
theorem descends_place_through (path : String) {package : String} (h : '/' ∉ package.toList) :
    Descends (place path package).output
      ((packageSegments package ++ directorySegments (splitPath path.toList).1).map .ofText)
      (.ofText (String.ofList (Text.capitalized (splitPath path.toList).2) ++ ".kt")) := by
  have hslash : '/' ∉ Text.capitalized (splitPath path.toList).2 := fun hd =>
    slash_notMem_stem _ (Text.mem_of_mem_capitalized hd (by decide) (by decide))
  have hdirectories : ∀ segment ∈ packageSegments package ++
      directorySegments (splitPath path.toList).1, IsPlain segment := by
    refine List.forall_mem_append.mpr ⟨isPlain_packageSegments h, fun segment hsegment => ?_⟩
    obtain ⟨directory, -, rfl⟩ := List.mem_map.mp hsegment
    exact isPlain_packageSegment _
  have houtput := output_place path package
  generalize Text.capitalized (splitPath path.toList).2 = stem at hslash houtput ⊢
  generalize packageSegments package ++ directorySegments (splitPath path.toList).1 =
    directories at hdirectories houtput ⊢
  have hnames : ∀ name ∈ directories.map RawText.ofText, Path.IsName name :=
    List.forall_mem_map.mpr fun name hname => (hdirectories name hname).isName
  have hfile : Path.IsName (.ofText (String.ofList stem ++ ".kt")) :=
    Path.isName_of_mem (c := 'k'.toUInt8)
      (fun hmem => hslash (by simpa using RawText.slash_mem_ofText.mp hmem))
      ((RawText.toUInt8_mem_ofText (a := 'k') (by decide)).mpr (by simp)) (by decide)
  refine ⟨?_, List.forall_mem_append.mpr ⟨hnames, by simpa using hfile⟩,
    List.forall_mem_map.mpr fun name hname => (hdirectories name hname).dot_notMem,
    RawText.dot_mem_ofText.mpr (by simp)⟩
  have hempty : (⟨""⟩ : Path) = Path.relativeOfNames [] := rfl
  rw [houtput, hempty, Path.foldl_child_relativeOfNames (by simp) hnames, List.nil_append,
    Path.child_relativeOfNames hnames hfile]

/-- **Generated files.** The path of a generated file descends, below the output directory. -/
theorem descends_place (path : String) {package : String} (h : '/' ∉ package.toList) :
    ∃ directories file, Descends (place path package).output directories file :=
  ⟨_, _, descends_place_through path h⟩

/-- A qualified name holds no slash. -/
theorem slash_notMem_of_isQualifiedName {s : List Char} (h : Kotlin.isQualifiedName s = true) :
    '/' ∉ s :=
  fun hslash => absurd (Kotlin.isIdentifierPart_of_mem h hslash (by decide)) (by decide)

end Site

end MarkdownPages
