import MarkdownPages.Conversion.Run
import MarkdownPages.Proofs.Files.Renewing

/-!
# Canonical paths of what need not exist

The canonical path of something that need not exist is the place to which the longest possible part
of the path leads, and the names of the missing rest behind it. This is also where directories are
made, if the missing ones on the way are made one after the other.

A relative path is made absolute first, by the place of the working directory. As that directory
exists, the part that leads somewhere reaches beyond it.

## Main definitions

* `Searches` — the search outward for something that exists

## Main results

* `absolute_eq_ok` — the route of an absolute path
* `searches_iff` — the search ends
* `canonicalLenient_eq_ok` — how far the path leads, and what is missing
* `canonicalLenient_of_canonicalPath` — what exists is found at once
-/

namespace MarkdownPages

open FileSystem

/-! ### Absolute paths -/

/-- Texts of steps put behind a path make the route longer by these steps, the last of which goes
somewhere. -/
private theorem route_foldl_child (base : Path) (steps : List Step)
    (hsteps : ∀ step ∈ steps, step ≠ .here ∧ ∀ name, step = .into name → Path.IsName name) :
    let path := ((steps.map Step.component).filterMap stepText?).foldl Path.child base
    path.isAbsolute = base.isAbsolute ∧ path.route = base.route ++ steps ∧
      (steps ≠ [] → path.steps.getLast? ≠ some .here) := by
  induction steps generalizing base with
  | nil => exact ⟨rfl, (List.append_nil _).symm, fun hne => absurd rfl hne⟩
  | cons step rest ih =>
    have hhere := (hsteps step (List.mem_cons_self ..)).1
    obtain ⟨text, hstep, habsolute, htext⟩ : ∃ text, stepText? step.component = some text ∧
        (⟨text⟩ : Path).isAbsolute = false ∧ (⟨text⟩ : Path).steps = [step] := by
      have hname := (hsteps step (List.mem_cons_self ..)).2
      cases step with
      | here => exact absurd rfl hhere
      | up => exact ⟨"..", rfl, by decide, by decide⟩
      | into name => exact ⟨name, rfl, (hname name rfl).isAbsolute, (hname name rfl).steps⟩
    have hroute : (⟨text⟩ : Path).route = [step] := by
      rw [Path.route, htext, List.filter_cons_of_pos (by simpa using hhere), List.filter_nil]
    obtain ⟨hsame, hlast, hends⟩ := ih (base.child text) fun s hs =>
      hsteps s (List.mem_cons_of_mem _ hs)
    rw [List.map_cons, List.filterMap_cons_some hstep, List.foldl_cons]
    refine ⟨hsame.trans (Path.isAbsolute_join habsolute), hlast.trans ?_, fun _ => ?_⟩
    · rw [Path.child, Path.route_join habsolute, hroute, List.append_assoc,
        List.singleton_append]
    · by_cases hrest : rest = []
      · subst hrest
        have hend : (base.child text).steps.getLast? = some step := by
          rw [Path.child, Path.getLast?_steps_join habsolute, htext]
          rfl
        exact fun heq => hhere (Option.some.inj (hend.symm.trans heq))
      · exact hends hrest

/-- The texts of the components are those of the steps of the route. -/
private theorem components_texts (p : Path) : p.components.filterMap stepText? =
    (p.route.map Step.component).filterMap stepText? := by
  rw [Path.components_eq, List.filterMap_append]
  cases p.pieces.1 <;> rfl

/-- The directory in front of a path that is made absolute. -/
private theorem absolute_base {fs : FileSystem} (hfs : fs.isProper = true) {p absolute : Path}
    (h : fs.absolute p = .ok absolute) : ∃ base : Path,
      base.isAbsolute = true ∧ base.route = (fs.start p).map .into ∧
      fs.top.item? (fs.start p) = some .directory ∧
      absolute = if p.text.bytes.getLast? = some RawText.slash then
        Path.child ((p.components.filterMap stepText?).foldl Path.child base) "" else
        (p.components.filterMap stepText?).foldl Path.child base := by
  rw [FileSystem.absolute] at h
  by_cases hempty : p.text.isEmpty = true
  · rw [if_pos hempty] at h
    cases h
  · rw [if_neg hempty] at h
    rw [start]
    by_cases hp : p.isAbsolute = true
    · rw [if_pos hp] at h
      rw [if_pos hp]
      exact ⟨⟨"/"⟩, by decide, by decide, (isProper_iff.mp hfs).1,
        (Except.ok.inj h).symm⟩
    · rw [if_neg hp, workingPath?] at h
      rw [if_neg hp]
      by_cases hworking : (fs.top.at? fs.working).any Entry.isDirectory = true
      · rw [if_pos hworking] at h
        have hitem := Entry.item?_eq_directory_iff_any.mp hworking
        refine ⟨.ofNames fs.working, by simp, ?_, hitem,
          (Except.ok.inj h).symm⟩
        exact Path.route_ofNames (isName_of_item? hfs hitem)
      · rw [if_neg hworking] at h
        cases h

/-- The path that leads to the same entry from anywhere goes by way of the working directory, unless
it was absolute before. It does not end in a step that stays if the path did not. -/
theorem absolute_eq_ok {fs : FileSystem} (hfs : fs.isProper = true) {p absolute : Path}
    (h : fs.absolute p = .ok absolute) : absolute.isAbsolute = true ∧
      absolute.route = (fs.start p).map .into ++ p.route ∧
      fs.top.item? (fs.start p) = some .directory ∧
      (p.steps.getLast? ≠ some .here → absolute.steps.getLast? ≠ some .here) := by
  obtain ⟨base, habsolute, hroute, hdirectory, rfl⟩ := absolute_base hfs h
  obtain ⟨hsame, hlast, hends⟩ := route_foldl_child base p.route fun step hstep =>
    ⟨fun heq => p.here_notMem_route (heq ▸ hstep),
      fun name heq => (Path.isName_of_mem_route (heq ▸ hstep)).1⟩
  rw [← components_texts] at hsame hlast hends
  rw [hroute] at hlast
  by_cases hslash : p.text.bytes.getLast? = some RawText.slash
  · rw [if_pos hslash, Path.child]
    refine ⟨(Path.isAbsolute_join (by decide)).trans (hsame.trans habsolute), ?_, hdirectory,
      fun hstays => absurd hslash (Path.getLast?_text_ne_slash hstays)⟩
    rw [Path.route_join (by decide), hlast]
    exact List.append_nil _
  · rw [if_neg hslash]
    refine ⟨hsame.trans habsolute, hlast, hdirectory, fun hgoes => hends ?_⟩
    obtain ⟨steps, last, hsteps⟩ := p.exists_steps_eq
    rw [hsteps, List.getLast?_concat] at hgoes
    rw [Path.route, hsteps, List.filter_append, List.filter_cons_of_pos (by simpa using hgoes)]
    simp

/-- A path that leads somewhere can be made absolute. -/
theorem exists_absolute {fs : FileSystem} {p : Path} {place : List RawText}
    (h : fs.canonical p = .ok place) : ∃ absolute, fs.absolute p = .ok absolute := by
  obtain ⟨hadmits, n, -, hleads⟩ := canonical_eq_ok.mp h
  obtain ⟨hempty, -⟩ := admits_eq_ok.mp hadmits
  have hstart : fs.top.item? (fs.start p) = some .directory := by
    obtain ⟨steps, last, hsteps⟩ := p.exists_steps_eq
    obtain ⟨first, rest, hcons⟩ := List.exists_cons_of_ne_nil (l := p.steps) (by simp [hsteps])
    rw [hcons] at hleads
    exact hleads.directory
  rw [FileSystem.absolute, if_neg (by simpa using hempty)]
  by_cases hp : p.isAbsolute = true
  · rw [if_pos hp]
    exact ⟨_, rfl⟩
  · rw [start, if_neg hp] at hstart
    rw [if_neg hp, workingPath?, if_pos (Entry.item?_eq_directory_iff_any.mpr hstart)]
    exact ⟨_, rfl⟩

/-- The absolute path leads where the path leads. -/
theorem canonical_absolute {fs : FileSystem} (hfs : fs.isProper = true) {p absolute : Path}
    (habsolute : fs.absolute p = .ok absolute) {place : List RawText}
    (h : fs.canonical p = .ok place) : fs.canonical absolute = .ok place := by
  obtain ⟨hroot, hroute, hstart, hends⟩ := absolute_eq_ok hfs habsolute
  obtain ⟨⟨n, hn, hleads⟩, -⟩ := leads_route_of_canonical h
  -- the way from the top to where the path starts goes along no link
  have hwalk : fs.top.Leads [] absolute.route (0 + n) (.found place) := by
    rw [hroute]
    exact (Entry.leads_names [] (short_of_item? hfs hstart)
      (Entry.stands_of_directory hstart)).append hleads
  rw [Nat.zero_add] at hwalk
  have htop : fs.start absolute = [] := by rw [start, if_pos hroot]
  have hadmits : admits absolute = .ok () := by
    refine admits_of_leads hfs (fun hempty => ?_) hwalk
    rw [Path.isAbsolute, hempty] at hroot
    cases hroot
  by_cases hplace : fs.top.item? place = some .directory
  · refine canonical_of_leads_here hadmits hn ?_
    rw [htop]
    exact Entry.leads_concat_here.mpr ⟨hwalk, hplace⟩
  · refine canonical_of_leads hadmits (hends fun hstays => hplace ?_) hn (by rwa [htop])
    obtain ⟨-, m, -, hsteps⟩ := canonical_eq_ok.mp h
    exact (Entry.leads_concat_here.mp ((Path.leads_steps_here hstays).mp hsteps)).2

/-! ### Searching outward -/

/-- The search for the canonical path of what need not exist, however long it takes: outward from a
path until one has a canonical path, with the names on the way kept. -/
inductive Searches (fs : FileSystem) : Path → List RawText → Except Fault Path → Prop where
  | found {path canonical : Path} {missing : List RawText}
      (h : fs.canonicalPath path = .ok canonical) :
      Searches fs path missing (.ok (missing.foldl Path.child canonical))
  | outward {path parent : Path} {name : RawText} {missing : List RawText} {fault : Fault}
      {result : Except Fault Path} (h : fs.canonicalPath path = .error fault)
      (hparent : path.parent? = some parent) (hname : path.fileName? = some name)
      (hrest : Searches fs parent (name :: missing) result) : Searches fs path missing result
  | stuck {path : Path} {missing : List RawText} {fault : Fault}
      (h : fs.canonicalPath path = .error fault)
      (hend : path.parent? = none ∨ path.fileName? = none) : Searches fs path missing (.error fault)

namespace Searches

variable {fs : FileSystem} {path : Path} {missing : List RawText}

/-- A search comes to one end only. -/
theorem unique {result other : Except Fault Path} (h : Searches fs path missing result)
    (h' : Searches fs path missing other) : result = other := by
  induction h with
  | found hfound =>
    cases h' with
    | found hfound' => rw [Except.ok.inj (hfound.symm.trans hfound')]
    | outward hfault => cases hfound.symm.trans hfault
    | stuck hfault => cases hfound.symm.trans hfault
  | outward hfault hparent hname _ ih =>
    cases h' with
    | found hfound => cases hfound.symm.trans hfault
    | outward _ hparent' hname' hrest =>
      obtain rfl := Option.some.inj (hparent.symm.trans hparent')
      obtain rfl := Option.some.inj (hname.symm.trans hname')
      exact ih hrest
    | stuck _ hend => simp [hparent, hname] at hend
  | stuck hfault hend =>
    cases h' with
    | found hfound => cases hfound.symm.trans hfault
    | outward _ hparent hname => simp [hparent, hname] at hend
    | stuck hfault' => exact hfault.symm.trans hfault'

/-- Every path that is passed has one step less, so the search ends. -/
theorem of_fuel {fuel : Nat} (hfuel : path.route.length ≤ fuel) :
    Searches fs path missing (canonicalLenientFrom fs fuel path missing) := by
  induction fuel generalizing path missing with
  | zero =>
    rw [canonicalLenientFrom]
    cases hpath : fs.canonicalPath path with
    | ok canonical => exact .found hpath
    | error fault =>
      refine .stuck hpath (.inr (Option.eq_none_iff_forall_ne_some.mpr fun name hname => ?_))
      have hlast := Path.getLast?_route_of_fileName? hname
      rw [List.eq_nil_of_length_eq_zero (Nat.le_zero.mp hfuel)] at hlast
      cases hlast
  | succ fuel ih =>
    rw [canonicalLenientFrom]
    cases hpath : fs.canonicalPath path with
    | ok canonical => exact .found hpath
    | error fault =>
      dsimp only
      cases hparent : path.parent? with
      | none => exact .stuck hpath (.inl hparent)
      | some parent =>
        cases hname : path.fileName? with
        | none => exact .stuck hpath (.inr hname)
        | some name =>
          rw [Path.route_eq_concat hparent hname, List.length_append] at hfuel
          exact .outward hpath hparent hname (ih (Nat.le_of_succ_le_succ hfuel))

end Searches

/-- **The search ends.** What it finds is the canonical path of what need not exist. -/
theorem searches_iff {fs : FileSystem} {p absolute : Path} (h : fs.absolute p = .ok absolute)
    {result : Except Fault Path} :
    Searches fs absolute [] result ↔ canonicalLenient fs p = result := by
  have hends : Searches fs absolute [] (canonicalLenient fs p) := by
    rw [canonicalLenient, h]
    exact .of_fuel absolute.length_route_le
  constructor
  · intro hresult
    exact hends.unique hresult
  · rintro rfl
    exact hends

/-! ### How far a path leads -/

section Reaching

variable {fs : FileSystem} {path canonical : Path} {missing : List RawText}
  (hfs : fs.isProper = true) (habsolute : path.isAbsolute = true)

include hfs habsolute

/-- A path that has no canonical path does not lead to a directory. -/
private theorem not_leads_of_canonicalPath {fault : Fault}
    (h : fs.canonicalPath path = .error fault) {n : Nat} (hn : n ≤ maxLinks)
    (q : List RawText) : ¬ fs.top.Leads [] (path.route ++ [.here]) n (.found q) := by
  intro hleads
  have htext : path.text.bytes ≠ [] := by
    intro hempty
    rw [Path.isAbsolute, hempty] at habsolute
    cases habsolute
  have hadmits := admits_of_leads hfs htext (Entry.leads_concat_here.mp hleads).1
  rw [canonicalPath, canonical_of_leads_here hadmits hn (by rwa [start, if_pos habsolute])] at h
  cases h

/-- Where no longer part of a path exists, the search finds the longest one. -/
private theorem Searches.reaches (h : Searches fs path missing (.ok canonical))
    (hnames : ∀ name ∈ missing, Path.IsName name)
    (hstuck : ∀ name rest, missing = name :: rest → ∀ n ≤ maxLinks, ∀ q,
      ¬ fs.top.Leads [] (path.route ++ [.into name, .here]) n (.found q)) :
    ∃ init place names, path.route ++ missing.map .into = init ++ names.map .into ∧
      fs.Reaches [] init place names ∧ fs.top.Stands place ∧
        canonical = .ofNames (place ++ names) := by
  generalize hresult : Except.ok canonical = result at h
  induction h with
  | @found path found missing hfound =>
    obtain rfl := Except.ok.inj hresult
    obtain ⟨place, hplace, rfl⟩ := canonicalPath_eq_ok.mp hfound
    obtain ⟨hleads, hstands⟩ := leads_route_of_canonical hplace
    rw [start, if_pos habsolute] at hleads
    refine ⟨_, place, missing, rfl, ⟨hleads, hstuck⟩, hstands,
      Path.foldl_child_ofNames (fun name hname => ?_) hnames⟩
    exact (isName_of_stands hfs hstands.ne_none name hname).1
  | @outward path parent name missing fault result hfault hparent hname _ ih =>
    have hroute := Path.route_eq_concat hparent hname
    have hisName : Path.IsName name :=
      (Path.isName_of_mem_route (p := path) (by simp [hroute])).1
    obtain ⟨init, place, names, hsplit, hfound⟩ :=
      ih ((Path.parent?_eq_some hparent).1.trans habsolute)
        (List.forall_mem_cons.mpr ⟨hisName, hnames⟩) (fun k rest heq n hn q => by
          obtain ⟨rfl, -⟩ := List.cons.inj heq
          have hstops := not_leads_of_canonicalPath hfs habsolute hfault hn q
          rwa [hroute, List.append_assoc] at hstops) hresult
    refine ⟨init, place, names, ?_, hfound⟩
    rw [← hsplit, hroute, List.append_assoc]
    rfl
  | stuck => cases hresult

end Reaching

/-- A part of an absolute path that reaches as far as possible takes in the directory where the path
starts, which is not missing. -/
private theorem isPrefix_of_reaches {fs : FileSystem} {start place names : List RawText}
    {init route : List Step} (hstart : fs.top.item? start = some .directory)
    (hshort : ∀ name ∈ start, name.bytes.length ≤ maxNameLength)
    (hroute : start.map .into ++ route = init ++ names.map .into)
    (h : fs.Reaches [] init place names) : start.map .into <+: init := by
  refine Classical.byContradiction fun hle => ?_
  have hinit : init <+: start.map .into ++ route := hroute ▸ List.prefix_append ..
  obtain ⟨steps, hsteps⟩ :=
    (List.prefix_or_prefix_of_prefix (List.prefix_append ..) hinit).resolve_left hle
  obtain ⟨before, after, rfl, rfl, rfl⟩ := List.append_eq_map_iff.mp hsteps
  cases after with
  | nil => exact hle (by simp)
  | cons name after =>
    rw [List.map_append, List.append_assoc, List.append_cancel_left_eq, List.map_cons,
      List.cons_append] at hroute
    cases names with
    | nil => cases hroute
    | cons k names =>
      obtain rfl := Step.into.inj (List.cons.inj hroute).1
      -- the walk gets stuck before a name on the way to that directory
      have hpre : before ++ [name] <+: before ++ name :: after := ⟨after, by simp⟩
      have hdirectory := Entry.item?_directory_of_isPrefix hpre hstart
      have hwalk : fs.top.Leads [] ((before ++ [name]).map .into) 0 (.found (before ++ [name])) :=
        Entry.leads_names [] (fun k hk => hshort k (hpre.mem hk))
          (Entry.stands_of_directory hdirectory)
      refine h.stuck name names rfl 0 (Nat.zero_le _) (before ++ [name]) ?_
      have hhere := Entry.leads_concat_here.mpr ⟨hwalk, hdirectory⟩
      rwa [List.map_append, List.append_assoc] at hhere

/-- A part of an absolute path that reaches as far as possible goes beyond the directory where the
path starts. -/
private theorem reaches_of_absolute {fs : FileSystem} {start place names : List RawText}
    {init route : List Step} (hstart : fs.top.item? start = some .directory)
    (hshort : ∀ name ∈ start, name.bytes.length ≤ maxNameLength)
    (hroute : start.map .into ++ route = init ++ names.map .into)
    (h : fs.Reaches [] init place names) : ∃ rest, route = rest ++ names.map .into ∧
      fs.Reaches start rest place names := by
  obtain ⟨rest, rfl⟩ := isPrefix_of_reaches hstart hshort hroute h
  rw [List.append_assoc, List.append_cancel_left_eq] at hroute
  obtain ⟨n, hn, hleads⟩ := h.leads
  have hnames : fs.top.Leads [] (start.map .into) 0 (.found start) :=
    Entry.leads_names [] hshort (Entry.stands_of_directory hstart)
  refine ⟨rest, hroute, ?_, fun name more heq m hm q hwalk => ?_⟩
  · by_cases hrest : rest = []
    · subst hrest
      rw [List.append_nil] at hleads
      obtain rfl := Halt.found.inj (hnames.unique hleads)
      exact ⟨0, Nat.zero_le _, .done start⟩
    · obtain ⟨a, b, middle, rfl, hfirst, hsecond⟩ := hleads.split hrest
      obtain rfl := Halt.found.inj (hnames.unique hfirst)
      exact ⟨b, by omega, hsecond⟩
  · refine h.stuck name more heq m hm q ?_
    rw [List.append_assoc, ← Nat.zero_add m]
    exact hnames.append hwalk

/-- **Canonical paths of what need not exist.** They are where a path leads once all that is missing
is made. -/
theorem canonicalLenient_eq_ok {fs : FileSystem} (hfs : fs.isProper = true) {p canonical : Path}
    (h : canonicalLenient fs p = .ok canonical) : ∃ place, canonical = .ofNames place ∧
      (∀ name ∈ place, Path.IsName name) ∧ fs.Aims p place ∧
      (p.route = [] → fs.present p = true) := by
  cases habsolute : fs.absolute p with
  | error fault =>
    rw [canonicalLenient, habsolute] at h
    cases h
  | ok absolute =>
    obtain ⟨hroot, hroute, hstart, -⟩ := absolute_eq_ok hfs habsolute
    obtain ⟨init, place, missing, hsplit, hreaches, hstands, rfl⟩ :=
      Searches.reaches hfs hroot ((searches_iff habsolute).mpr h) (by simp) (by simp)
    rw [List.map_nil, List.append_nil, hroute] at hsplit
    obtain ⟨rest, hrest, hreaches⟩ :=
      reaches_of_absolute hstart (short_of_item? hfs hstart) hsplit hreaches
    refine ⟨_, rfl, List.forall_mem_append.mpr ⟨fun name hname => ?_, fun name hname => ?_⟩,
      ⟨rest, place, missing, hrest, hreaches, rfl⟩, fun hnil => ?_⟩
    · exact (isName_of_stands hfs hstands.ne_none name hname).1
    · exact (Path.isName_of_mem_route (p := p) (by simp [hrest, hname])).1
    · have hadmits : admits p = .ok () := by
        refine admits_eq_ok.mpr ⟨fun hempty => ?_, by simp [hnil]⟩
        rw [FileSystem.absolute, if_pos (by simp [hempty])] at habsolute
        cases habsolute
      refine present_iff.mpr ⟨fs.start p, canonical_of_leads_here hadmits (Nat.zero_le _) ?_⟩
      rw [hnil]
      exact .here hstart (.done _)

/-- The canonical path of something that exists is found at once. -/
theorem canonicalLenient_of_canonicalPath {fs : FileSystem} (hfs : fs.isProper = true)
    {p canonical : Path} (h : fs.canonicalPath p = .ok canonical) :
    canonicalLenient fs p = .ok canonical := by
  obtain ⟨place, hplace, rfl⟩ := canonicalPath_eq_ok.mp h
  obtain ⟨absolute, habsolute⟩ := exists_absolute hplace
  have hfound : fs.canonicalPath absolute = .ok (.ofNames place) :=
    canonicalPath_eq_ok.mpr ⟨place, canonical_absolute hfs habsolute hplace, rfl⟩
  exact (searches_iff habsolute).mp (.found hfound)

/-- The canonical path of something that exists stays as it is. -/
theorem canonicalLenient_ofNames {fs : FileSystem} (hfs : fs.isProper = true)
    {place : List RawText} (h : fs.top.Stands place) :
    canonicalLenient fs (.ofNames place) = .ok (.ofNames place) :=
  canonicalLenient_of_canonicalPath hfs (canonicalPath_ofNames hfs h)

end MarkdownPages
