import MarkdownPages.Proofs.Files.Place
import MarkdownPages.Proofs.Text.Pieces

/-!
# How paths are spelled

One place can be written in many ways: slashes may be repeated, a `.` may stand between any two of
them, a path may start at the working directory. What a path does is told by its route, the steps
that go somewhere, by whether it starts at the top, and by whether it ends in a step that stays. The
operations on paths are operations on routes.

## Main definitions

* `Path.route` — the steps of a path that go somewhere
* `Path.IsName` — the raw texts that are names in a path

## Main results

* `Path.components_eq` — the components of a path are its start and its route
* `Path.parent?_eq_some`, `Path.route_join`, `Path.route_ofNames` — the routes of parents, of
  joined paths and of places
* `Path.startsWith_ofNames` — a place lies below another one if its names start with the names of
  the other one
-/

namespace MarkdownPages

open RawText (slash dot)

/-! ### Pieces and steps -/

/-- The component of a path that a step is. -/
def Step.component : Step → Path.Component
  | .here => .current
  | .up => .parent
  | .into name => .normal name

theorem Step.ofPiece_eq_here {piece : List UInt8} :
    Step.ofPiece piece = .here ↔ Path.isIdle piece = true := by
  rw [ofPiece, Path.isIdle]
  by_cases hidle : (piece.isEmpty || piece == [dot]) = true
  · simp [hidle]
  · rw [if_neg hidle]
    by_cases hup : (piece == [dot, dot]) = true
    · rw [if_pos hup]
      simp [hidle]
    · rw [if_neg hup]
      simp [hidle]

theorem Step.component_ofPiece {piece : List UInt8} (h : Path.isIdle piece = false) :
    (Step.ofPiece piece).component = Path.ofPiece piece := by
  rw [Path.isIdle] at h
  rw [ofPiece, if_neg (by simp [h]), Path.ofPiece]
  by_cases hup : (piece == [dot, dot]) = true
  · rw [if_pos hup, if_pos hup]
    rfl
  · rw [if_neg hup, if_neg hup]
    rfl

namespace Path

theorem ext_bytes {p q : Path} (h : p.text.bytes = q.text.bytes) : p = q :=
  congrArg Path.mk (RawText.ext_bytes h)

/-- The steps of a path that go somewhere. -/
def route (p : Path) : List Step := p.steps.filter (· ≠ .here)

/-- A raw text that names an entry when it stands between slashes. -/
def IsName (name : RawText) : Prop := Step.ofPiece name.bytes = .into name ∧ slash ∉ name.bytes

/-- The components that a path starts with. -/
def Start.components : Start → List Component
  | .absolute => [.root]
  | .here => [.current]
  | .relative => []

/-- The step that a component stands for, unless it starts a path. -/
def Component.step? : Component → Option Step
  | .root | .current => none
  | .parent => some .up
  | .normal name => some (.into name)

/-- A slash ends the first piece, which is empty. -/
theorem splitOn_cons_slash (rest : List UInt8) : Text.splitOn (· == slash) (slash :: rest) =
    [] :: Text.splitOn (· == slash) rest :=
  Text.splitOn_cons_of_separator (beq_self_eq_true slash)

/-- A slash parts the pieces. -/
theorem splitOn_append_slash (s t : List UInt8) : Text.splitOn (· == slash) (s ++ slash :: t) =
    Text.splitOn (· == slash) s ++ Text.splitOn (· == slash) t :=
  @Text.splitOn_append _ (· == slash) slash (beq_self_eq_true slash) s t

private theorem filter_map_ofPiece (body : List (List UInt8)) :
    (body.map Step.ofPiece).filter (· ≠ .here) = (body.filter (!isIdle ·)).map Step.ofPiece := by
  rw [List.filter_map]
  congr 1
  refine List.filter_congr fun piece _ => ?_
  cases hidle : isIdle piece with
  | true => simp [Step.ofPiece_eq_here.mpr hidle]
  | false => simp [Step.ofPiece_eq_here, hidle]

/-- How a path can start, and the pieces behind the start. -/
theorem pieces_cases (p : Path) :
    (∃ body, p.pieces = (.absolute, body) ∧ p.isAbsolute = true ∧
      Text.splitOn (· == slash) p.text.bytes = [] :: body) ∨
    (∃ body, p.pieces = (.here, body) ∧ p.isAbsolute = false ∧
      Text.splitOn (· == slash) p.text.bytes = [dot] :: body) ∨
    (p.text.bytes = [] ∧ p.pieces = (.relative, [])) ∨
    ∃ first body, p.pieces = (.relative, first :: body) ∧ p.isAbsolute = false ∧ first ≠ [] ∧
      first ≠ [dot] ∧ Text.splitOn (· == slash) p.text.bytes = first :: body := by
  cases htext : p.text.bytes with
  | nil =>
    refine .inr (.inr (.inl ⟨rfl, ?_⟩))
    rw [pieces, htext]
  | cons c rest =>
    by_cases hc : c = slash
    · subst hc
      refine .inl ⟨Text.splitOn (· == slash) rest, ?_, ?_, ?_⟩
      · rw [pieces, htext]
        exact if_pos rfl
      · rw [isAbsolute, htext]
        exact beq_self_eq_true (some slash)
      · exact splitOn_cons_slash rest
    · obtain ⟨piece, body, -, hsplit⟩ :=
        @Text.splitOn_cons_of_not _ (· == slash) c (beq_eq_false_iff_ne.mpr hc) rest
      have habsolute : p.isAbsolute = false := by
        rw [isAbsolute, htext]
        simpa using hc
      have hpieces : p.pieces = if c :: piece = [dot] then (.here, body)
          else (.relative, (c :: piece) :: body) := by
        rw [pieces, htext]
        dsimp only
        rw [if_neg hc, hsplit]
      by_cases hdot : c :: piece = [dot]
      · rw [if_pos hdot] at hpieces
        exact .inr (.inl ⟨body, hpieces, habsolute, hdot ▸ hsplit⟩)
      · rw [if_neg hdot] at hpieces
        exact .inr (.inr (.inr ⟨c :: piece, body, hpieces, habsolute, by simp, hdot, hsplit⟩))

theorem route_eq (p : Path) : p.route = (p.pieces.2.filter (!isIdle ·)).map Step.ofPiece := by
  rw [route, steps, filter_map_ofPiece]
  rcases p.pieces_cases with ⟨body, hpieces, -, hsplit⟩ | ⟨body, hpieces, -, hsplit⟩ |
    ⟨htext, hpieces⟩ | ⟨first, body, hpieces, -, -, -, hsplit⟩
  · rw [hpieces, hsplit]
    rfl
  · rw [hpieces, hsplit]
    rfl
  · rw [hpieces, htext]
    rfl
  · rw [hpieces, hsplit]

/-- A route has no more steps than the path has bytes. -/
theorem length_route_le (p : Path) : p.route.length ≤ p.text.bytes.length := by
  rw [route, steps, ← List.countP_eq_length_filter, List.countP_map]
  calc (Text.splitOn (· == slash) p.text.bytes).countP (_ ∘ Step.ofPiece)
      ≤ (Text.splitOn (· == slash) p.text.bytes).countP (!·.isEmpty) := by
        refine List.countP_mono_left fun piece _ hstep => ?_
        rw [Bool.not_eq_true', List.isEmpty_eq_false_iff]
        rintro rfl
        exact absurd hstep (by decide)
    _ ≤ p.text.bytes.length := Text.countP_splitOn_le ..

/-- The components of a path are its start and its route. -/
theorem components_eq (p : Path) :
    p.components = p.pieces.1.components ++ p.route.map Step.component := by
  have hbody : (p.pieces.2.filter (!isIdle ·)).map ofPiece = p.route.map Step.component := by
    rw [route_eq, List.map_map]
    refine List.map_congr_left fun piece hpiece => ?_
    have hidle : isIdle piece = false := by simpa using (List.mem_filter.mp hpiece).2
    exact (Step.component_ofPiece hidle).symm
  rw [components, ← hbody]
  obtain ⟨start, body⟩ := p.pieces
  cases start <;> rfl

theorem isAbsolute_ofText (s : String) :
    (⟨s⟩ : Path).isAbsolute = true ↔ s.toList.head? = some '/' := by
  rw [isAbsolute, beq_iff_eq, RawText.head?_ofText]

theorem isAbsolute_iff {p : Path} : p.isAbsolute = true ↔ p.pieces.1 = .absolute := by
  rcases p.pieces_cases with ⟨body, hpieces, habsolute, -⟩ | ⟨body, hpieces, habsolute, -⟩ |
    ⟨htext, hpieces⟩ | ⟨first, body, hpieces, habsolute, -⟩
  · rw [hpieces, habsolute]
    simp
  · rw [hpieces, habsolute]
    simp
  · rw [hpieces, isAbsolute, htext]
    simp
  · rw [hpieces, habsolute]
    simp

/-- The names on a route are names, made of bytes of the path. -/
theorem isName_of_mem_route {p : Path} {name : RawText} (h : .into name ∈ p.route) :
    IsName name ∧ ∀ c ∈ name.bytes, c ∈ p.text.bytes := by
  obtain ⟨piece, hpiece, hstep⟩ := List.mem_map.mp (List.mem_filter.mp h).1
  have hplain := fun c hc => Text.not_separator_of_mem_splitOn hpiece (c := c) hc
  have hname : name.bytes = piece := by
    rw [Step.ofPiece] at hstep
    split at hstep
    · cases hstep
    · split at hstep
      · cases hstep
      · rw [← Step.into.inj hstep]
  rw [IsName, hname]
  exact ⟨⟨hstep, fun hslash => by simpa using (hplain _ hslash).1⟩, fun c hc => (hplain c hc).2⟩

/-! ### Routes of paths that are put together -/

theorem bytes_ofNames (names : List RawText) :
    (ofNames names).text.bytes = slash :: Text.joined [slash] (names.map RawText.bytes) := rfl

theorem bytes_relativeOfNames (names : List RawText) :
    (relativeOfNames names).text.bytes = Text.joined [slash] (names.map RawText.bytes) := rfl

theorem steps_ofNames {names : List RawText} (h : ∀ name ∈ names, IsName name)
    (hne : names ≠ []) : (ofNames names).steps = .here :: names.map .into := by
  have hjoined : Text.splitOn (· == slash) (Text.joined [slash] (names.map RawText.bytes)) =
      names.map RawText.bytes := by
    refine Text.splitOn_joined (by simpa using hne) fun piece hpiece => ?_
    obtain ⟨name, hname, rfl⟩ := List.mem_map.mp hpiece
    exact (h name hname).2
  rw [steps, bytes_ofNames, splitOn_cons_slash, hjoined, List.map_cons, List.map_map]
  exact congrArg _ (List.map_congr_left fun name hname => (h name hname).1)

theorem filter_map_into (names : List RawText) :
    (names.map Step.into).filter (· ≠ .here) = names.map .into := by
  rw [List.filter_eq_self]
  intro step hstep
  obtain ⟨name, -, rfl⟩ := List.mem_map.mp hstep
  simp

@[simp] theorem route_ofNames {names : List RawText} (h : ∀ name ∈ names, IsName name) :
    (ofNames names).route = names.map .into := by
  by_cases hne : names = []
  · subst hne
    rfl
  · rw [route, steps_ofNames h hne, List.filter_cons_of_neg (by simp), filter_map_into]

@[simp] theorem isAbsolute_ofNames (names : List RawText) : (ofNames names).isAbsolute = true := by
  simp [isAbsolute, ofNames, ofPieces]

/-- A path whose steps are names has names for its components. -/
theorem components_of_steps {p : Path} {names : List RawText} (h : p.steps = names.map .into)
    (hne : names ≠ []) : p.components = names.map .normal := by
  obtain ⟨name, rest, rfl⟩ := List.exists_cons_of_ne_nil hne
  have hrelative : p.pieces.1 = .relative := by
    have hnames : p.steps.head? ≠ some .here := by simp [h]
    rcases p.pieces_cases with ⟨body, -, -, hsplit⟩ | ⟨body, -, -, hsplit⟩ | ⟨-, hpieces⟩ |
      ⟨first, body, hpieces, -⟩
    · rw [steps, hsplit] at hnames
      exact absurd rfl hnames
    · rw [steps, hsplit] at hnames
      exact absurd rfl hnames
    · rw [hpieces]
    · rw [hpieces]
  rw [components_eq, hrelative, route, h, filter_map_into, List.map_map]
  rfl

/-- An absolute path starts with an idle step. -/
theorem isAbsolute_of_steps {p : Path} (h : p.steps.head? ≠ some .here) :
    p.isAbsolute = false := by
  refine Bool.eq_false_iff.mpr fun habsolute => h ?_
  obtain ⟨rest, hrest⟩ := List.head?_eq_some_iff.mp (beq_iff_eq.mp habsolute)
  rw [steps, hrest, splitOn_cons_slash]
  rfl

/-- Behind a path and a slash come the steps of the path that is joined to it. -/
theorem steps_join {p q : Path} (hq : q.isAbsolute = false) :
    ∃ before, (p.join q).steps = before ++ q.steps ∧ before.filter (· ≠ .here) = p.route := by
  rw [join, if_neg (by simp [hq])]
  by_cases hempty : p.text.bytes = []
  · obtain rfl : p = ⟨⟨[]⟩⟩ := ext_bytes hempty
    exact ⟨[], rfl, rfl⟩
  · by_cases hlast : p.text.bytes.getLast? = some slash
    · rw [if_pos (by simp [hlast])]
      obtain ⟨before, hbefore⟩ := List.getLast?_eq_some_iff.mp hlast
      refine ⟨(Text.splitOn (· == slash) before).map Step.ofPiece, ?_, ?_⟩
      · rw [steps, steps, RawText.bytes_append, hbefore, List.append_assoc,
          List.singleton_append, splitOn_append_slash, List.map_append]
      · rw [route, steps, hbefore, splitOn_append_slash, List.map_append, List.filter_append]
        exact (List.append_nil _).symm
    · rw [if_neg (by simp [RawText.isEmpty, hempty, hlast])]
      refine ⟨p.steps, ?_, rfl⟩
      rw [steps, steps, steps, RawText.bytes_append, RawText.bytes_append, List.append_assoc,
        ← List.map_append]
      exact congrArg _ (splitOn_append_slash ..)

theorem route_join {p q : Path} (hq : q.isAbsolute = false) :
    (p.join q).route = p.route ++ q.route := by
  obtain ⟨before, hsteps, hbefore⟩ := steps_join (p := p) hq
  rw [route, hsteps, List.filter_append, hbefore]
  rfl

theorem getLast?_steps_join {p q : Path} (hq : q.isAbsolute = false) :
    (p.join q).steps.getLast? = q.steps.getLast? := by
  obtain ⟨before, hsteps, -⟩ := steps_join (p := p) hq
  have hne : q.steps ≠ [] := by simpa [steps] using Text.splitOn_ne_nil _ _
  obtain ⟨last, hlast⟩ := Option.isSome_iff_exists.mp (List.getLast?_isSome.mpr hne)
  rw [hsteps, List.getLast?_append, hlast]
  rfl

theorem isAbsolute_join {p q : Path} (hq : q.isAbsolute = false) :
    (p.join q).isAbsolute = p.isAbsolute := by
  rw [join, if_neg (by simp [hq])]
  by_cases hempty : p.text.bytes = []
  · obtain rfl : p = ⟨⟨[]⟩⟩ := ext_bytes hempty
    exact hq
  · obtain ⟨c, rest, hcons⟩ := List.exists_cons_of_ne_nil hempty
    split <;> simp [isAbsolute, RawText.bytes_append, hcons]

/-- Names put behind an absolute path do not make it a relative one. -/
theorem isAbsolute_foldl_child {p : Path} (h : p.isAbsolute = true) (names : List RawText) :
    (names.foldl child p).isAbsolute = true := by
  induction names generalizing p with
  | nil => exact h
  | cons name rest ih =>
    refine ih ?_
    cases hname : (⟨name⟩ : Path).isAbsolute with
    | true => rw [child, join, if_pos hname, hname]
    | false => rw [child, isAbsolute_join hname, h]

theorem here_notMem_route (p : Path) : .here ∉ p.route := fun h => by
  simpa using (List.mem_filter.mp h).2

/-- A raw text without slashes is a name if it holds anything but dots. -/
theorem isName_of_mem {name : RawText} (hslash : slash ∉ name.bytes) {c : UInt8}
    (hc : c ∈ name.bytes) (hdot : c ≠ dot) : IsName name := by
  have hne : name.bytes ≠ [] := List.ne_nil_of_mem hc
  have hidle : name.bytes ≠ [dot] := fun h => hdot (by simpa [h] using hc)
  have hup : name.bytes ≠ [dot, dot] := fun h => hdot (by simpa [h] using hc)
  refine ⟨?_, hslash⟩
  rw [Step.ofPiece, if_neg (by simp [hne, hidle]), if_neg (by simpa using hup)]

theorem IsName.bytes_ne_nil {name : RawText} (h : IsName name) : name.bytes ≠ [] := by
  intro hnil
  have hstep := h.1
  rw [hnil] at hstep
  cases hstep

/-- A name as a path of its own. -/
theorem IsName.steps {name : RawText} (h : IsName name) : (⟨name⟩ : Path).steps = [.into name] := by
  have hsplit : Text.splitOn (· == slash) name.bytes = [name.bytes] := by
    refine Text.splitOn_of_forall fun c hc => beq_eq_false_iff_ne.mpr ?_
    rintro rfl
    exact h.2 hc
  rw [Path.steps, hsplit, List.map_singleton, h.1]

theorem IsName.route {name : RawText} (h : IsName name) : (⟨name⟩ : Path).route = [.into name] := by
  rw [Path.route, h.steps]
  rfl

theorem IsName.isAbsolute {name : RawText} (h : IsName name) :
    (⟨name⟩ : Path).isAbsolute = false := by
  rw [Path.isAbsolute, beq_eq_false_iff_ne]
  intro hhead
  obtain ⟨rest, (hrest : name.bytes = slash :: rest)⟩ := List.head?_eq_some_iff.mp hhead
  exact h.2 (by simp [hrest])

theorem getLast?_text_ne_slash {p : Path} (h : p.steps.getLast? ≠ some .here) :
    p.text.bytes.getLast? ≠ some slash := by
  intro hlast
  obtain ⟨before, hbefore⟩ := List.getLast?_eq_some_iff.mp hlast
  refine h ?_
  rw [steps, hbefore, splitOn_append_slash, List.map_append, List.getLast?_append]
  rfl

theorem getLast?_map_into {names : List RawText} : (names.map Step.into).getLast? ≠ some .here := by
  intro hlast
  obtain ⟨name, -, hname⟩ := List.mem_map.mp (List.mem_of_getLast? hlast)
  cases hname

theorem getLast?_ofNames {names : List RawText} (h : ∀ name ∈ names, IsName name)
    (hne : names ≠ []) : (ofNames names).text.bytes.getLast? ≠ some slash := by
  refine getLast?_text_ne_slash ?_
  rw [steps_ofNames h hne, List.getLast?_cons]
  cases hlast : (names.map Step.into).getLast? with
  | none => simp [hne] at hlast
  | some step => exact fun heq => getLast?_map_into (hlast.trans heq)

theorem child_ofNames {names : List RawText} (h : ∀ name ∈ names, IsName name) {name : RawText}
    (hname : IsName name) : (ofNames names).child name = ofNames (names ++ [name]) := by
  rw [child, join, if_neg (by simp [hname.isAbsolute])]
  by_cases hne : names = []
  · subst hne
    have hslash : (ofNames []).text.bytes.getLast? = some slash := rfl
    rw [hslash, beq_self_eq_true, Bool.or_true, if_pos rfl]
    exact ext_bytes (congrArg (List.cons slash) (Text.joined_singleton _ name.bytes).symm)
  · have hempty : (ofNames names).text.isEmpty = false := rfl
    have hmap : names.map RawText.bytes ≠ [] := by simpa using hne
    rw [hempty, Bool.false_or, if_neg (by simpa using getLast?_ofNames h hne)]
    refine ext_bytes ?_
    rw [bytes_ofNames, List.map_append, List.map_singleton, Text.joined_concat _ hmap,
      RawText.bytes_append, RawText.bytes_append, bytes_ofNames, List.append_assoc,
      List.cons_append]

/-- Names put behind a place, one by one. -/
theorem foldl_child_ofNames {names more : List RawText} (h : ∀ name ∈ names, IsName name)
    (hmore : ∀ name ∈ more, IsName name) :
    more.foldl child (ofNames names) = ofNames (names ++ more) := by
  induction more generalizing names with
  | nil => rw [List.append_nil]; rfl
  | cons name rest ih =>
    have hname := hmore name (List.mem_cons_self ..)
    rw [List.foldl_cons, child_ofNames h hname, ih, List.append_assoc, List.singleton_append]
    · exact List.forall_mem_append.mpr ⟨h, by simpa using hname⟩
    · exact fun k hk => hmore k (List.mem_cons_of_mem _ hk)

theorem steps_relativeOfNames {names : List RawText} (h : ∀ name ∈ names, IsName name)
    (hne : names ≠ []) : (relativeOfNames names).steps = names.map .into := by
  rw [steps, bytes_relativeOfNames,
    Text.splitOn_joined (by simpa using hne) (by simpa using fun k hk => (h k hk).2),
    List.map_map]
  exact List.map_congr_left fun name hname => (h name hname).1

theorem child_relativeOfNames {names : List RawText} (h : ∀ name ∈ names, IsName name)
    {name : RawText} (hname : IsName name) :
    (relativeOfNames names).child name = relativeOfNames (names ++ [name]) := by
  rw [child, join, if_neg (by simp [hname.isAbsolute])]
  by_cases hne : names = []
  · subst hne
    rw [if_pos (by rfl), relativeOfNames, relativeOfNames, List.nil_append, List.map_singleton,
      List.map_nil]
    exact ext_bytes (Text.joined_singleton [slash] name.bytes).symm
  · have hsteps := steps_relativeOfNames h hne
    have hlast := getLast?_text_ne_slash (p := relativeOfNames names) (by
      rw [hsteps]
      exact getLast?_map_into)
    have hempty : (relativeOfNames names).text.bytes ≠ [] := by
      intro heq
      rw [steps, heq] at hsteps
      have hhere : .here ∈ names.map Step.into := hsteps ▸ by decide
      simp at hhere
    have hmap : names.map RawText.bytes ≠ [] := by simpa using hne
    rw [if_neg (by simp [RawText.isEmpty, hempty, hlast])]
    refine ext_bytes ?_
    rw [bytes_relativeOfNames, List.map_append, List.map_singleton, Text.joined_concat _ hmap,
      RawText.bytes_append, RawText.bytes_append, bytes_relativeOfNames, List.append_assoc]

/-- Names put behind each other, one by one. -/
theorem foldl_child_relativeOfNames {names more : List RawText} (h : ∀ name ∈ names, IsName name)
    (hmore : ∀ name ∈ more, IsName name) :
    more.foldl child (relativeOfNames names) = relativeOfNames (names ++ more) := by
  induction more generalizing names with
  | nil => rw [List.append_nil]; rfl
  | cons name rest ih =>
    have hname := hmore name (List.mem_cons_self ..)
    rw [List.foldl_cons, child_relativeOfNames h hname, ih, List.append_assoc,
      List.singleton_append]
    · exact List.forall_mem_append.mpr ⟨h, by simpa using hname⟩
    · exact fun k hk => hmore k (List.mem_cons_of_mem _ hk)

/-! ### Places below places -/

theorem components_ofNames {names : List RawText} (h : ∀ name ∈ names, IsName name) :
    (ofNames names).components = .root :: names.map .normal := by
  rw [components_eq, isAbsolute_iff.mp (isAbsolute_ofNames names), route_ofNames h, List.map_map]
  rfl

/-- The paths of places are the same if the places are. -/
theorem same_ofNames_iff {names others : List RawText} (h : ∀ name ∈ names, IsName name)
    (hothers : ∀ name ∈ others, IsName name) :
    (ofNames names).same (ofNames others) = true ↔ names = others := by
  rw [same, beq_iff_eq, components_ofNames h, components_ofNames hothers, List.cons_inj_right,
    List.map_inj_right fun _ _ => Component.normal.inj]

/-- One place lies below another if its names start with the names of the other. -/
theorem startsWith_ofNames {names base : List RawText} (h : ∀ name ∈ names, IsName name)
    (hbase : ∀ name ∈ base, IsName name) :
    (ofNames names).startsWith (ofNames base) = true ↔ base <+: names := by
  rw [startsWith, List.isPrefixOf_iff_prefix, components_ofNames h, components_ofNames hbase,
    List.cons_prefix_cons]
  refine ⟨fun ⟨_, hpre⟩ => ?_, fun hpre => ⟨rfl, hpre.map _⟩⟩
  rw [List.prefix_iff_eq_take, ← List.map_take] at hpre
  rw [List.prefix_iff_eq_take]
  rw [List.length_map] at hpre
  exact (List.map_inj_right fun _ _ => Component.normal.inj).mp hpre

private theorem filterMap_component {steps : List Step} (h : .here ∉ steps) :
    (steps.map Step.component).filterMap Component.step? = steps := by
  induction steps with
  | nil => rfl
  | cons step rest ih =>
    rw [List.map_cons, List.filterMap_cons, ih fun hrest => h (List.mem_cons_of_mem _ hrest)]
    cases step with
    | here => exact absurd List.mem_cons_self h
    | up | into => rfl

theorem filterMap_components (p : Path) : p.components.filterMap Component.step? = p.route := by
  have hstart : p.pieces.1.components.filterMap Component.step? = [] := by
    cases p.pieces.1 <;> rfl
  rw [components_eq, List.filterMap_append, hstart, List.nil_append,
    filterMap_component p.here_notMem_route]

/-- A path that starts with another one starts with its route. -/
theorem route_prefix_of_startsWith {p base : Path} (h : p.startsWith base = true) :
    base.route <+: p.route := by
  rw [startsWith, List.isPrefixOf_iff_prefix] at h
  rw [← filterMap_components, ← filterMap_components]
  exact h.filterMap _

/-! ### Parents -/

/-- What is dropped at the end of a path is idle, and what comes before it is not. -/
theorem dropIdleEnd_spec (body : List (List UInt8)) :
    dropIdleEnd body <+: body ∧
      (dropIdleEnd body).filter (!isIdle ·) = body.filter (!isIdle ·) ∧
      ∀ last ∈ (dropIdleEnd body).getLast?, isIdle last = false := by
  have hbody : body = dropIdleEnd body ++ (body.reverse.takeWhile isIdle).reverse := by
    rw [dropIdleEnd, ← List.reverse_append, List.takeWhile_append_dropWhile, List.reverse_reverse]
  have hidle : (body.reverse.takeWhile isIdle).reverse.filter (!isIdle ·) = [] := by
    rw [List.filter_eq_nil_iff]
    intro piece hpiece
    have := List.all_eq_true.mp List.all_takeWhile piece (List.mem_reverse.mp hpiece)
    simp [this]
  refine ⟨⟨_, hbody.symm⟩, ?_, fun last hlast => ?_⟩
  · calc (dropIdleEnd body).filter (!isIdle ·)
        = (dropIdleEnd body).filter (!isIdle ·) ++
            (body.reverse.takeWhile isIdle).reverse.filter (!isIdle ·) := by
          rw [hidle, List.append_nil]
      _ = body.filter (!isIdle ·) := by rw [← List.filter_append, ← hbody]
  · rw [dropIdleEnd, List.getLast?_reverse] at hlast
    have hne : body.reverse.dropWhile isIdle ≠ [] := by
      intro hnil
      rw [hnil] at hlast
      cases hlast
    rw [List.head?_eq_some_head hne, Option.mem_some] at hlast
    exact hlast ▸ List.head_dropWhile_not isIdle hne

/-- The steps of a path that is put together from pieces are those of the pieces. -/
theorem steps_ofPieces {start : Start} {body : List (List UInt8)}
    (hbody : ∀ piece ∈ body, slash ∉ piece)
    (hstart : start = .relative → ∀ first ∈ body.head?, first ≠ []) :
    ((ofPieces start body).isAbsolute = true ↔ start = .absolute) ∧
      ∃ before, (ofPieces start body).steps = before ++ body.map Step.ofPiece ∧
        ∀ step ∈ before, step = .here := by
  have hhere : ∀ step ∈ [Step.here], step = .here := by simp
  by_cases hnil : body = []
  · subst hnil
    cases start with
    | absolute => exact ⟨by decide, [.here, .here], by decide, by simp⟩
    | here => exact ⟨by decide, [.here], by decide, hhere⟩
    | relative => exact ⟨by decide, [.here], by decide, hhere⟩
  · have hsplit := Text.splitOn_joined hnil hbody
    cases start with
    | absolute =>
      refine ⟨by simp [isAbsolute, ofPieces], [.here], ?_, hhere⟩
      rw [steps, ofPieces, splitOn_cons_slash, hsplit]
      rfl
    | here =>
      refine ⟨by simp [isAbsolute, ofPieces, hnil, RawText.dot_ne_slash], [.here], ?_, hhere⟩
      have happend := splitOn_append_slash [dot] (Text.joined [slash] body)
      rw [hsplit] at happend
      rw [steps, ofPieces, if_neg (by simpa using hnil)]
      exact congrArg (List.map Step.ofPiece) happend
    | relative =>
      refine ⟨?_, [], ?_, by simp⟩
      · obtain ⟨first, rest, rfl⟩ := List.exists_cons_of_ne_nil hnil
        obtain ⟨c, cs, rfl⟩ := List.exists_cons_of_ne_nil (hstart rfl first rfl)
        have hc : c ≠ slash := by
          rintro rfl
          exact hbody _ (List.mem_cons_self ..) (List.mem_cons_self ..)
        cases rest <;> simp [isAbsolute, ofPieces, Text.joined, hc]
      · rw [steps, ofPieces, hsplit]
        rfl

theorem slash_notMem_of_mem_pieces {p : Path} {piece : List UInt8} (h : piece ∈ p.pieces.2) :
    slash ∉ piece := by
  have hmem : piece ∈ Text.splitOn (· == slash) p.text.bytes := by
    rcases p.pieces_cases with ⟨body, hpieces, -, hsplit⟩ | ⟨body, hpieces, -, hsplit⟩ |
      ⟨-, hpieces⟩ | ⟨first, body, hpieces, -, -, -, hsplit⟩
    all_goals rw [hpieces] at h
    · exact hsplit ▸ List.mem_cons_of_mem _ h
    · exact hsplit ▸ List.mem_cons_of_mem _ h
    · cases h
    · exact hsplit ▸ h
  intro hslash
  simpa using (Text.not_separator_of_mem_splitOn hmem hslash).1

/-- The first piece of a relative path is not empty. -/
theorem head?_pieces_ne_nil {p : Path} (h : p.pieces.1 = .relative) :
    ∀ first ∈ p.pieces.2.head?, first ≠ [] := by
  rcases p.pieces_cases with ⟨body, hpieces, -⟩ | ⟨body, hpieces, -⟩ | ⟨-, hpieces⟩ |
    ⟨first, body, hpieces, -, hne, -⟩
  all_goals rw [hpieces] at h ⊢
  · cases h
  · cases h
  · simp
  · intro piece hpiece
    exact Option.some.inj hpiece ▸ hne

theorem parent?_eq (p : Path) : p.parent? =
    if dropIdleEnd p.pieces.2 = [] then if p.pieces.1 = .here then some ⟨""⟩ else none
    else some (ofPieces p.pieces.1 (dropIdleEnd (dropIdleEnd p.pieces.2).dropLast)) := by
  rw [parent?]
  generalize p.pieces = pieces
  obtain ⟨start, body⟩ := pieces
  dsimp only
  cases dropIdleEnd body with
  | nil => cases start <;> rfl
  | cons first rest => cases start <;> rfl

/-- A path that is put together from the first pieces of a path starts as that path does and has the
steps of these pieces. -/
private theorem ofPieces_of_isPrefix {p : Path} {body : List (List UInt8)}
    (h : body <+: p.pieces.2) : (ofPieces p.pieces.1 body).isAbsolute = p.isAbsolute ∧
      (ofPieces p.pieces.1 body).route = (body.filter (!isIdle ·)).map Step.ofPiece ∧
      ∀ last, body.getLast? = some last → isIdle last = false →
        (ofPieces p.pieces.1 body).steps.getLast? ≠ some .here := by
  obtain ⟨habsolute, here, hsteps, hhere⟩ := @steps_ofPieces p.pieces.1 body
    (fun piece hpiece => slash_notMem_of_mem_pieces (h.mem hpiece)) (by
      obtain ⟨rest, hrest⟩ := h
      intro hstart first hfirst
      refine head?_pieces_ne_nil hstart first ?_
      rw [← hrest, List.head?_append, hfirst]
      rfl)
  refine ⟨?_, ?_, fun last hlast hidle hend => ?_⟩
  · rw [Bool.eq_iff_iff, habsolute, isAbsolute_iff]
  · rw [route, hsteps, List.filter_append, filter_map_ofPiece,
      List.filter_eq_nil_iff.mpr fun step hstep => by simp [hhere step hstep], List.nil_append]
  · rw [hsteps, List.getLast?_append, List.getLast?_map, hlast] at hend
    have hidle' := Step.ofPiece_eq_here.mp (Option.some.inj hend)
    rw [hidle] at hidle'
    cases hidle'

/-- The parent of a path does without the last step of its route, and ends in a step that goes
somewhere, if it has any. -/
theorem parent?_eq_some {p q : Path} (h : p.parent? = some q) :
    q.isAbsolute = p.isAbsolute ∧ q.route = p.route.dropLast ∧
      (q.route ≠ [] → q.steps.getLast? ≠ some .here) := by
  obtain ⟨hbody, hfilter, hlast⟩ := dropIdleEnd_spec p.pieces.2
  have hroute := p.route_eq
  rw [← hfilter] at hroute
  rw [parent?_eq] at h
  by_cases hends : dropIdleEnd p.pieces.2 = []
  · rw [if_pos hends] at h
    by_cases hstart : p.pieces.1 = .here
    · rw [if_pos hstart] at h
      obtain rfl := Option.some.inj h
      have hp : p.isAbsolute = false := by
        rw [← Bool.not_eq_true, isAbsolute_iff, hstart]
        simp
      rw [hroute, hends, hp]
      exact ⟨rfl, rfl, fun hne => absurd rfl hne⟩
    · rw [if_neg hstart] at h
      cases h
  · rw [if_neg hends] at h
    obtain rfl := Option.some.inj h
    -- the last piece names the last step; what is idle before it is dropped as well
    obtain ⟨before, last, hbefore⟩ : ∃ before last, dropIdleEnd p.pieces.2 = before ++ [last] :=
      ⟨_, _, (List.dropLast_concat_getLast hends).symm⟩
    rw [hbefore] at hbody hroute hlast ⊢
    rw [List.dropLast_concat]
    obtain ⟨hbody', hfilter', hlast'⟩ := dropIdleEnd_spec before
    obtain ⟨habsolute, hinner, hgoes⟩ :=
      ofPieces_of_isPrefix (hbody'.trans ((List.prefix_append ..).trans hbody))
    have hlastIdle : isIdle last = false := hlast last (by simp)
    refine ⟨habsolute, ?_, fun hne => ?_⟩
    · rw [hinner, hfilter', hroute, List.filter_append,
        List.filter_cons_of_pos (by simp [hlastIdle]), List.filter_nil, List.map_append,
        List.map_singleton, List.dropLast_concat]
    · cases hgetLast : (dropIdleEnd before).getLast? with
      | none =>
        rw [List.getLast?_eq_none_iff] at hgetLast
        rw [hinner, hgetLast] at hne
        exact absurd rfl hne
      | some piece => exact hgoes piece hgetLast (hlast' piece hgetLast)

theorem route_eq_nil_of_parent? {p : Path} (h : p.parent? = none) : p.route = [] := by
  rw [parent?_eq] at h
  split at h
  · rename_i hends
    rw [route_eq, ← (dropIdleEnd_spec p.pieces.2).2.1, hends]
    rfl
  · cases h

/-- The file name of a path is the last step of its route. -/
theorem getLast?_route_of_fileName? {p : Path} {name : RawText} (h : p.fileName? = some name) :
    p.route.getLast? = some (.into name) := by
  have hlast : p.components.getLast? = some (.normal name) := by
    rw [fileName?] at h
    split at h
    · rename_i k hk
      rw [hk, Option.some.inj h]
    · cases h
  rw [components_eq, List.getLast?_append, List.getLast?_map] at hlast
  cases hroute : p.route.getLast? with
  | none =>
    rw [hroute] at hlast
    cases hstart : p.pieces.1 <;> rw [hstart] at hlast <;> cases hlast
  | some step =>
    rw [hroute] at hlast
    cases step with
    | here | up => cases hlast
    | into k => rw [← Component.normal.inj (Option.some.inj hlast)]

/-- The route of a path leads by way of its parent to its file name. -/
theorem route_eq_concat {p parent : Path} {name : RawText} (hparent : p.parent? = some parent)
    (hname : p.fileName? = some name) : p.route = parent.route ++ [.into name] := by
  obtain ⟨before, hbefore⟩ := List.getLast?_eq_some_iff.mp (getLast?_route_of_fileName? hname)
  rw [(parent?_eq_some hparent).2.1, hbefore, List.dropLast_concat]

end Path

end MarkdownPages
