import MarkdownPages.Files.Change
import MarkdownPages.Proofs.Files.Spelling
import MarkdownPages.Proofs.Files.Walk

/-!
# Where paths lead

A path leads where its route leads from the place where it starts. Two things besides the route
matter: a step that stays, if it comes last, asks for a directory, and a path with a NUL character
leads nowhere. A name with such a character is on the route, so the second is a matter of the route
as well.

The place that a path leads to is written as a path without links on the way, and that path leads to
the same place.

## Main definitions

* `FileSystem.isProper` — a file system with proper names, whose top is a directory

## Main results

* `FileSystem.canonical_eq_ok` — where a path leads
* `FileSystem.canonical_ofNames` — the canonical path of a place leads there
* `FileSystem.lastStep_into`, `FileSystem.lastStep_of_leads` — the directory in which the last step
  of a path is taken
-/

namespace MarkdownPages

open RawText (slash dot)

/-! ### Steps that stay -/

/-- Before another step, steps that stay count for nothing. -/
theorem Entry.leads_filter {top : Entry} {place : List RawText} (steps : List Step) (last : Step)
    {n : Nat} {halt : Halt} :
    top.Leads place (steps ++ [last]) n halt ↔
      top.Leads place (steps.filter (· ≠ .here) ++ [last]) n halt := by
  induction steps generalizing place n with
  | nil => rfl
  | cons step rest ih =>
    obtain ⟨next, after, hnext⟩ : ∃ next after, rest ++ [last] = next :: after :=
      List.exists_cons_of_ne_nil (by simp)
    by_cases hstep : step = .here
    · subst hstep
      rw [List.filter_cons_of_neg (by simp), ← ih, List.cons_append, hnext]
      exact leads_here_cons
    · rw [List.filter_cons_of_pos (by simpa using hstep), List.cons_append, List.cons_append]
      -- the walk is taken apart behind the step that both have in common
      constructor
      · intro h
        obtain ⟨a, b, middle, rfl, hfirst, hsecond⟩ :=
          Leads.split (show top.Leads place ([step] ++ (rest ++ [last])) n halt from h) (by simp)
        exact hfirst.append (ih.mp hsecond)
      · intro h
        obtain ⟨a, b, middle, rfl, hfirst, hsecond⟩ :=
          Leads.split (show top.Leads place ([step] ++ (rest.filter (· ≠ .here) ++ [last])) n halt
            from h) (by simp)
        exact hfirst.append (ih.mpr hsecond)

namespace Path

theorem exists_steps_eq (p : Path) : ∃ steps last, p.steps = steps ++ [last] := by
  have hne : p.steps ≠ [] := by simpa [steps] using Text.splitOn_ne_nil _ _
  exact ⟨_, _, (List.dropLast_concat_getLast hne).symm⟩

section Steps

variable {p : Path} {top : Entry} {place : List RawText} {n : Nat} {halt : Halt}

/-- A path whose last step goes somewhere is walked along its route. -/
theorem leads_steps (hlast : p.steps.getLast? ≠ some .here) :
    top.Leads place p.steps n halt ↔ top.Leads place p.route n halt := by
  obtain ⟨steps, last, hsteps⟩ := p.exists_steps_eq
  rw [hsteps, List.getLast?_concat] at hlast
  rw [route, hsteps, List.filter_append, List.filter_cons_of_pos (by simpa using hlast),
    List.filter_nil]
  exact Entry.leads_filter steps last

/-- A path whose last step stays is walked along its route, and asks for a directory at the end. -/
theorem leads_steps_here (hlast : p.steps.getLast? = some .here) :
    top.Leads place p.steps n halt ↔ top.Leads place (p.route ++ [.here]) n halt := by
  obtain ⟨steps, last, hsteps⟩ := p.exists_steps_eq
  rw [hsteps, List.getLast?_concat] at hlast
  obtain rfl := Option.some.inj hlast
  rw [route, hsteps, List.filter_append, List.filter_cons_of_neg (by simp), List.filter_nil,
    List.append_nil]
  exact Entry.leads_filter steps .here

end Steps

/-- A byte that is neither a slash nor a dot stands in a name on the route. -/
theorem mem_route_of_mem_text {p : Path} {c : UInt8} (h : c ∈ p.text.bytes) (hslash : c ≠ slash)
    (hdot : c ≠ dot) : ∃ name, .into name ∈ p.route ∧ c ∈ name.bytes := by
  rcases Text.mem_splitOn (· == slash) h with hsame | ⟨piece, hpiece, hc⟩
  · exact absurd (by simpa using hsame) hslash
  · have hidle : isIdle piece = false := by
      rw [isIdle, Bool.or_eq_false_iff, List.isEmpty_eq_false_iff, beq_eq_false_iff_ne]
      constructor
      · rintro rfl
        cases hc
      · rintro rfl
        exact hdot (List.mem_singleton.mp hc)
    have hup : (piece == [dot, dot]) = false := by
      rw [beq_eq_false_iff_ne]
      rintro rfl
      simp [hdot] at hc
    have hstep : Step.ofPiece piece = .into ⟨piece⟩ := by
      rw [isIdle] at hidle
      rw [Step.ofPiece, if_neg (by simp [hidle]), if_neg (by simp [hup])]
    refine ⟨⟨piece⟩, List.mem_filter.mpr ⟨?_, by simp⟩, hc⟩
    exact hstep ▸ List.mem_map_of_mem hpiece

end Path

namespace FileSystem

variable {fs : FileSystem} {p : Path}

/-! ### Paths that can be handed over -/

theorem admits_eq_ok : admits p = .ok () ↔
    p.text.bytes ≠ [] ∧ ∀ name, .into name ∈ p.route → 0 ∉ name.bytes := by
  have hnul : 0 ∈ p.text.bytes ↔
      ∃ name, .into name ∈ p.route ∧ 0 ∈ name.bytes :=
    ⟨fun h => Path.mem_route_of_mem_text h (by decide) (by decide),
      fun ⟨name, hname, hc⟩ => (Path.isName_of_mem_route hname).2 _ hc⟩
  rw [admits]
  by_cases hmem : 0 ∈ p.text.bytes
  · rw [if_pos (by simpa using hmem)]
    obtain ⟨name, hname, hc⟩ := hnul.mp hmem
    simp only [reduceCtorEq, false_iff, not_and]
    exact fun _ h => h name hname hc
  · rw [if_neg (by simpa using hmem)]
    by_cases hempty : p.text.bytes = []
    · simp [hempty]
    · rw [if_neg (by simpa using hempty)]
      simp only [true_iff]
      exact ⟨hempty, fun name hname hc => hmem (hnul.mpr ⟨name, hname, hc⟩)⟩

/-! ### Canonical places -/

/-- Where a path leads. -/
theorem find_eq_ok {halt : Halt} : fs.find p = .ok halt ↔
    admits p = .ok () ∧ ∃ n ≤ maxLinks, fs.top.Leads (fs.start p) p.steps n halt := by
  rw [← Entry.follow_eq_ok, find]
  cases admits p <;> simp [bind, Except.bind]

/-- The place that a path leads to. -/
theorem canonical_eq_ok {q : List RawText} : fs.canonical p = .ok q ↔
    admits p = .ok () ∧ ∃ n ≤ maxLinks, fs.top.Leads (fs.start p) p.steps n (.found q) := by
  rw [← find_eq_ok, canonical]
  cases fs.find p with
  | error fault => simp [bind, Except.bind]
  | ok halt =>
    cases halt <;> simp [bind, Except.bind, pure, Except.pure, throw, throwThe, MonadExceptOf.throw]

theorem canonicalPath_eq_ok {canonical : Path} : fs.canonicalPath p = .ok canonical ↔
    ∃ place, fs.canonical p = .ok place ∧ canonical = .ofNames place := by
  rw [canonicalPath]
  cases fs.canonical p <;> simp [Except.map, eq_comm]

theorem leads_route_of_canonical {q : List RawText} (h : fs.canonical p = .ok q) :
    (∃ n ≤ maxLinks, fs.top.Leads (fs.start p) p.route n (.found q)) ∧ fs.top.Stands q := by
  obtain ⟨-, n, hn, hleads⟩ := canonical_eq_ok.mp h
  obtain ⟨steps, last, hsteps⟩ := p.exists_steps_eq
  refine ⟨⟨n, hn, ?_⟩, hleads.stands_of_ne_nil (by simp [hsteps])⟩
  by_cases hlast : p.steps.getLast? = some .here
  · exact (Entry.leads_concat_here.mp ((Path.leads_steps_here hlast).mp hleads)).1
  · exact (Path.leads_steps hlast).mp hleads

/-- A path whose route leads to a directory leads there, however it ends. -/
theorem canonical_of_leads_here {q : List RawText} {n : Nat} (hadmits : admits p = .ok ())
    (hn : n ≤ maxLinks) (h : fs.top.Leads (fs.start p) (p.route ++ [.here]) n (.found q)) :
    fs.canonical p = .ok q := by
  refine canonical_eq_ok.mpr ⟨hadmits, n, hn, ?_⟩
  by_cases hlast : p.steps.getLast? = some .here
  · exact (Path.leads_steps_here hlast).mpr h
  · exact (Path.leads_steps hlast).mpr (Entry.leads_concat_here.mp h).1

/-- A path that ends in a step that goes somewhere leads where its route leads. -/
theorem canonical_of_leads {q : List RawText} {n : Nat} (hadmits : admits p = .ok ())
    (hlast : p.steps.getLast? ≠ some .here) (hn : n ≤ maxLinks)
    (h : fs.top.Leads (fs.start p) p.route n (.found q)) : fs.canonical p = .ok q :=
  canonical_eq_ok.mpr ⟨hadmits, n, hn, (Path.leads_steps hlast).mpr h⟩

/-! ### What paths lead to -/

theorem present_iff : fs.present p = true ↔ ∃ q, fs.canonical p = .ok q := by
  rw [present, entry?]
  cases hcanonical : fs.canonical p with
  | error fault => simp
  | ok q =>
    have hstands := (leads_route_of_canonical hcanonical).2.ne_none
    rw [Ne, Entry.item?_eq_none] at hstands
    simpa [Option.isSome_iff_ne_none] using hstands

/-- What is checked of the entry that a path leads to is checked at its place. -/
theorem any_entry_iff {keep : Entry → Bool} : (fs.entry? p).any keep = true ↔
    ∃ q, fs.canonical p = .ok q ∧ (fs.top.at? q).any keep = true := by
  cases hcanonical : fs.canonical p <;> simp [hcanonical, entry?]

theorem isDirectory_iff : fs.isDirectory p = true ↔
    ∃ q, fs.canonical p = .ok q ∧ fs.top.item? q = some .directory := by
  simp only [isDirectory, any_entry_iff, Entry.item?_eq_directory_iff_any]

theorem isFile_iff : fs.isFile p = true ↔
    ∃ q content, fs.canonical p = .ok q ∧ fs.top.item? q = some (.file content) := by
  simp only [isFile, any_entry_iff, Entry.exists_item?_eq_file_iff_any, exists_and_left]

/-! ### Proper file systems -/

/-- Whether all names are proper and the top is a directory. -/
def isProper (fs : FileSystem) : Bool := fs.top.isDirectory && fs.top.isProper

end FileSystem

/-- What makes a text the name of an entry. -/
theorem Entry.isFileName_iff {name : RawText} : Entry.isFileName name = true ↔
    Path.IsName name ∧ 0 ∉ name.bytes ∧ name.bytes.length ≤ maxNameLength := by
  have hstep : Step.ofPiece name.bytes = .into name ↔
      name.bytes ≠ [] ∧ name.bytes ≠ [dot] ∧ name.bytes ≠ [dot, dot] := by
    rw [Step.ofPiece]
    by_cases hempty : name.bytes = []
    · simp [hempty]
    · by_cases hdot : name.bytes = [dot]
      · simp [hdot]
      · by_cases hup : name.bytes = [dot, dot]
        · simp [hup]
        · simp [hempty, hdot, hup]
  rw [Path.IsName, hstep]
  simp [isFileName, and_assoc]

namespace FileSystem

variable {fs : FileSystem} {p : Path}

theorem isProper_iff :
    fs.isProper = true ↔ fs.top.item? [] = some .directory ∧ fs.top.isProper = true := by
  rw [isProper, Bool.and_eq_true, Entry.item?_nil]
  cases fs.top <;> simp [Entry.isDirectory, Entry.item]

/-- A change that leaves a directory at the top leaves the file system proper. -/
theorem isProper_change (h : fs.isProper = true) {place : List RawText} {change : Entry → Entry}
    (hchange : ∀ entry, entry.isProper = true → (change entry).isProper = true)
    (htop : (fs.change place change).top.item? [] = some .directory) :
    (fs.change place change).isProper = true :=
  isProper_iff.mpr ⟨htop, Entry.isProper_update (isProper_iff.mp h).2 hchange place⟩

theorem isName_of_stands (h : fs.isProper = true) {place : List RawText}
    (hplace : fs.top.item? place ≠ none) : ∀ name ∈ place,
      Path.IsName name ∧ 0 ∉ name.bytes ∧ name.bytes.length ≤ maxNameLength :=
  fun name hname => Entry.isFileName_iff.mp
    (Entry.isFileName_of_item? (isProper_iff.mp h).2 hplace name hname)

theorem isName_of_item? (h : fs.isProper = true) {place : List RawText} {item : Item}
    (hplace : fs.top.item? place = some item) : ∀ name ∈ place, Path.IsName name :=
  fun name hname => (isName_of_stands h (by rw [hplace]; simp) name hname).1

theorem short_of_item? (h : fs.isProper = true) {place : List RawText} {item : Item}
    (hplace : fs.top.item? place = some item) :
    ∀ name ∈ place, name.bytes.length ≤ maxNameLength := fun name hname =>
  (isName_of_stands h (by rw [hplace]; simp) name hname).2.2

/-- Where all names are proper, only proper names lead anywhere. -/
theorem isFileName_of_leads (h : fs.isProper = true) {place q : List RawText} {steps : List Step}
    {n : Nat} (hleads : fs.top.Leads place steps n (.found q)) {name : RawText}
    (hname : .into name ∈ steps) : Entry.isFileName name = true := by
  have hentry : ∀ {place : List RawText} {k : RawText} {item : Item},
      fs.top.item? (place ++ [k]) = some item → Entry.isFileName k = true :=
    fun hitem => Entry.isFileName_of_item? (isProper_iff.mp h).2 (by rw [hitem]; simp) _ (by simp)
  generalize hhalt : Halt.found q = halt at hleads
  induction hleads with
  | done => cases hname
  | here _ _ ih | up _ _ ih => exact ih ((List.mem_cons.mp hname).resolve_left (by simp)) hhalt
  | into _ _ hitem _ _ ih =>
    rcases List.mem_cons.mp hname with heq | hrest
    · exact Step.into.inj heq ▸ hentry hitem
    · exact ih hrest hhalt
  | missing => cases hhalt
  | link _ _ hitem _ ih =>
    rcases List.mem_cons.mp hname with heq | hrest
    · exact Step.into.inj heq ▸ hentry hitem
    · exact ih (List.mem_append_right _ hrest) hhalt

/-- A path can be handed over if its route leads somewhere. -/
theorem admits_of_leads (h : fs.isProper = true) (htext : p.text.bytes ≠ [])
    {place q : List RawText} {n : Nat} (hleads : fs.top.Leads place p.route n (.found q)) :
    admits p = .ok () :=
  admits_eq_ok.mpr ⟨htext, fun _ hname =>
    (Entry.isFileName_iff.mp (isFileName_of_leads h hleads hname)).2.1⟩

/-- **Canonical paths.** The canonical path of a place leads to that place. -/
theorem canonical_ofNames (h : fs.isProper = true) {place : List RawText}
    (hplace : fs.top.Stands place) : fs.canonical (.ofNames place) = .ok place := by
  have hnames := isName_of_stands h hplace.ne_none
  have hname := fun name hname => (hnames name hname).1
  have hroute := Path.route_ofNames hname
  have hstart : fs.start (.ofNames place) = [] := by rw [start, if_pos (by simp)]
  have hadmits : admits (.ofNames place) = .ok () := by
    refine admits_eq_ok.mpr ⟨by simp [Path.bytes_ofNames], fun name hmem => ?_⟩
    rw [hroute] at hmem
    obtain ⟨k, hk, heq⟩ := List.mem_map.mp hmem
    exact Step.into.inj heq ▸ (hnames k hk).2.1
  have hleads : fs.top.Leads [] (place.map .into) 0 (.found place) := by
    simpa using Entry.leads_names [] (fun k hk => (hnames k hk).2.2) hplace
  by_cases hne : place = []
  · subst hne
    refine canonical_of_leads_here hadmits (Nat.zero_le _) ?_
    rw [hstart, hroute]
    exact .here (isProper_iff.mp h).1 (.done [])
  · refine canonical_of_leads hadmits ?_ (Nat.zero_le _) (by rw [hstart, hroute]; exact hleads)
    rw [Path.steps_ofNames hname hne, List.getLast?_cons, List.getLast?_map]
    obtain ⟨last, hlast⟩ := Option.isSome_iff_exists.mp (List.getLast?_isSome.mpr hne)
    rw [hlast]
    simp

theorem canonicalPath_ofNames (h : fs.isProper = true) {place : List RawText}
    (hplace : fs.top.Stands place) : fs.canonicalPath (.ofNames place) = .ok (.ofNames place) := by
  rw [canonicalPath, canonical_ofNames h hplace]
  rfl

/-! ### The last step -/

/-- Slashes at the end of a path make steps that stay. -/
private theorem splitOn_slashes (bare : List UInt8) (slashes : Nat) :
    Text.splitOn (· == slash) (bare ++ List.replicate slashes slash) =
      Text.splitOn (· == slash) bare ++ List.replicate slashes [] := by
  induction slashes with
  | zero => simp
  | succ slashes ih =>
    rw [List.replicate_succ', ← List.append_assoc,
      Path.splitOn_append_slash, ih, List.append_assoc,
      List.replicate_succ']
    rfl

/-- The steps of a path are those of the path without slashes at its end, and steps that stay. -/
private theorem filter_steps_bare (p : Path) :
    (Path.mk ⟨(p.text.bytes.reverse.dropWhile (· == slash)).reverse⟩).route =
      p.route := by
  have htext : p.text.bytes = (p.text.bytes.reverse.dropWhile (· == slash)).reverse ++
      List.replicate (p.text.bytes.reverse.takeWhile (· == slash)).length slash := by
    have hslashes : p.text.bytes.reverse.takeWhile (· == slash) =
        List.replicate (p.text.bytes.reverse.takeWhile (· == slash)).length slash := by
      refine List.eq_replicate_iff.mpr ⟨rfl, fun c hc => ?_⟩
      simpa using List.all_eq_true.mp List.all_takeWhile c hc
    rw [← List.reverse_replicate, ← hslashes, ← List.reverse_append,
      List.takeWhile_append_dropWhile, List.reverse_reverse]
  have hidle : ((List.replicate (p.text.bytes.reverse.takeWhile (· == slash)).length []).map
      Step.ofPiece).filter (· ≠ .here) = [] := by
    rw [List.map_replicate, List.filter_eq_nil_iff]
    intro step hstep
    simp [List.eq_of_mem_replicate hstep, Step.ofPiece]
  rw [Path.route, Path.route, Path.steps, Path.steps]
  conv => rhs; rw [htext]
  rw [splitOn_slashes, List.map_append, List.filter_append, hidle, List.append_nil]

theorem lastStep_ne_overlapsRoot : fs.lastStep p ≠ .error .overlapsRoot := by
  rw [lastStep, admits]
  split
  · simp [bind, Except.bind]
  · split
    · simp [bind, Except.bind]
    · dsimp only [bind, Except.bind]
      split
      · rename_i fault hfault
        intro h
        exact Entry.follow_ne_overlapsRoot _ _ _ (hfault.trans (by rw [Except.error.inj h]))
      · split
        · simp [pure, Except.pure]
        · simp [throw, throwThe, MonadExceptOf.throw]

/-- Where the last step of a path goes to an entry, its route does so, and the rest of the route
leads to the directory in which the step is taken. -/
theorem lastStep_into {directory : List RawText} {name : RawText} {slash : Bool}
    (h : fs.lastStep p = .ok ⟨directory, .into name, slash⟩) : admits p = .ok () ∧
      ∃ init n, n ≤ maxLinks ∧ p.route = init ++ [.into name] ∧
        fs.top.Leads (fs.start p) (init ++ [.here]) n (.found directory) := by
  have hbare := filter_steps_bare p
  rw [lastStep] at h
  cases hadmits : admits p with
  | error fault =>
    rw [hadmits] at h
    cases h
  | ok _ =>
    rw [hadmits] at h
    dsimp only [bind, Except.bind] at h
    generalize (p.text.bytes.reverse.dropWhile (· == RawText.slash)).reverse = bare at h hbare
    obtain ⟨steps, last, hsteps⟩ := (Path.mk ⟨bare⟩).exists_steps_eq
    rw [hsteps, List.dropLast_concat, List.getLast?_concat, Option.getD_some] at h
    cases hfollow : fs.top.follow maxLinks (fs.start p) (steps ++ [.here]) with
    | error fault =>
      rw [hfollow] at h
      cases h
    | ok halt =>
      rw [hfollow] at h
      cases halt with
      | missing | link => cases h
      | found place =>
        obtain ⟨rfl, rfl, -⟩ := LastStep.mk.inj (Except.ok.inj h)
        obtain ⟨n, hn, hleads⟩ := Entry.leads_of_follow hfollow
        refine ⟨rfl, steps.filter (· ≠ .here), n, hn, ?_, (Entry.leads_filter _ _).mp hleads⟩
        rw [← hbare, Path.route, hsteps, List.filter_append, List.filter_cons_of_pos (by simp),
          List.filter_nil]

/-- Where a path ends in a name, its last step goes to an entry of the directory to which the rest
of its route leads. -/
theorem lastStep_of_leads {directory : List RawText} {name : RawText} {init : List Step} {n : Nat}
    (hadmits : admits p = .ok ()) (hlast : p.steps.getLast? ≠ some .here)
    (hroute : p.route = init ++ [.into name]) (hn : n ≤ maxLinks)
    (hleads : fs.top.Leads (fs.start p) (init ++ [.here]) n (.found directory)) :
    fs.lastStep p = .ok ⟨directory, .into name, false⟩ := by
  have hbare : (p.text.bytes.reverse.dropWhile (· == slash)).reverse = p.text.bytes := by
    have hslash := Path.getLast?_text_ne_slash hlast
    rw [← List.head?_reverse] at hslash
    cases hbytes : p.text.bytes.reverse with
    | nil => rw [List.dropWhile_nil, ← hbytes, List.reverse_reverse]
    | cons c rest =>
      rw [hbytes, List.head?_cons, Ne, Option.some.injEq] at hslash
      rw [List.dropWhile_cons_of_neg (by simpa using hslash), ← hbytes, List.reverse_reverse]
  obtain ⟨steps, last, hsteps⟩ := p.exists_steps_eq
  rw [hsteps, List.getLast?_concat, Ne, Option.some.injEq] at hlast
  rw [Path.route, hsteps, List.filter_append, List.filter_cons_of_pos (by simpa using hlast),
    List.filter_nil] at hroute
  obtain ⟨rfl, hname⟩ := List.append_inj' hroute rfl
  obtain rfl := List.singleton_inj.mp hname
  have hfollow := Entry.follow_eq_ok.mpr ⟨n, hn, (Entry.leads_filter steps .here).mpr hleads⟩
  have hpath : (Path.mk ⟨p.text.bytes⟩).steps = steps ++ [.into name] := hsteps
  rw [lastStep, hadmits]
  dsimp only [bind, Except.bind]
  rw [hbare, hpath, List.dropLast_concat, List.getLast?_concat, hfollow]
  simp [pure, Except.pure]

end FileSystem

end MarkdownPages
