import MarkdownPages.Proofs.Files.Place

/-!
# Where steps lead

Walking a path and following the links on the way is one big step from a place to the place where
the walk ends. As a relation it can be put together and taken apart at any step, which the function
does not show: that one starts over at each link and counts the links down.

What steps lead to depends on what stands where, and on nothing else of the tree. So a walk that
ends at an entry ends there in every tree that has more entries.

## Main definitions

* `Entry.Leads` — how steps lead from a place, with the number of links on the way

## Main results

* `Entry.follow_eq_ok` — the relation is what following links computes
* `Entry.Leads.append`, `Entry.Leads.split` — walks one after the other
* `Entry.Leads.transfer` — a walk in a tree with the same directories and links
* `Entry.Leads.mono` — a walk to an entry in a tree that has more entries
* `Entry.follow_congr` — a walk does not read files
-/

namespace MarkdownPages

namespace Entry

variable {top : Entry}

/-! ### One step -/

/-- What one step does is settled by what stands at the place and at the place it goes to. -/
theorem walk_cons (top : Entry) (place : List RawText) (step : Step) (rest : List Step) :
    top.walk place (step :: rest) =
      match top.item? place with
      | none => .error .notFound
      | some .directory =>
        match step with
        | .here => top.walk place rest
        | .up => top.walk place.dropLast rest
        | .into name =>
          if maxNameLength < name.bytes.length then .error .nameTooLong
          else
            match top.item? (place ++ [name]) with
            | none => if rest.isEmpty then .ok (.missing place name) else .error .notFound
            | some (.link target) => .ok (.link place target rest)
            | some _ => top.walk (place ++ [name]) rest
      | some _ => .error .notADirectory := by
  rw [walk, item?]
  cases hentry : top.at? place with
  | none => rfl
  | some entry =>
    cases entry with
    | file | link => rfl
    | directory entries =>
      cases step with
      | here | up => rfl
      | into name =>
        have hnext : top.item? (place ++ [name]) = (Ascending.get? name entries).map item := by
          rw [item?, at?_snoc, hentry, Option.bind_some, child?]
        simp only [Option.map_some, item, hnext]
        cases Ascending.get? name entries with
        | none => rfl
        | some next => cases next <;> rfl

/-- Where a link leads on from. -/
def jump (holder : List RawText) (target : Path) : List RawText :=
  if target.isAbsolute then [] else holder

theorem follow_of_walk {links : Nat} {place place' : List RawText} {steps steps' : List Step}
    (h : top.walk place steps = top.walk place' steps') :
    top.follow links place steps = top.follow links place' steps' := by
  cases links <;> rw [follow, follow, h]

theorem follow_of_link {links : Nat} {place holder : List RawText} {steps rest : List Step}
    {target : Path} (h : top.walk place steps = .ok (.link holder target rest)) :
    top.follow (links + 1) place steps =
      top.follow links (jump holder target) (target.steps ++ rest) := by
  rw [follow, h]
  rfl

/-! ### Faults -/

/-- Walking is no comparison with the roots. -/
private theorem walk_ne_overlapsRoot (place : List RawText) (steps : List Step) :
    top.walk place steps ≠ .error .overlapsRoot := by
  induction steps generalizing place with
  | nil => simp [walk]
  | cons step rest ih =>
    rw [walk_cons]
    cases top.item? place with
    | none => simp
    | some item =>
      cases item with
      | file | link => simp
      | directory =>
        cases step with
        | here | up => exact ih _
        | into name =>
          dsimp only
          split
          · simp
          · split
            · split <;> simp
            · simp
            · exact ih _

theorem follow_ne_overlapsRoot (links : Nat) (place : List RawText) (steps : List Step) :
    top.follow links place steps ≠ .error .overlapsRoot := by
  induction links generalizing place steps with
  | zero =>
    rw [follow]
    split
    · simp
    · exact walk_ne_overlapsRoot place steps
  | succ links ih =>
    rw [follow]
    split
    · exact ih _ _
    · exact walk_ne_overlapsRoot place steps

/-! ### Walks as a relation -/

/-- The steps lead from a place to where the walk halts, along so many links. -/
inductive Leads (top : Entry) : List RawText → List Step → Nat → Halt → Prop where
  | done (place : List RawText) : Leads top place [] 0 (.found place)
  | here {place : List RawText} {rest : List Step} {links : Nat} {halt : Halt}
      (directory : top.item? place = some .directory) (next : Leads top place rest links halt) :
      Leads top place (.here :: rest) links halt
  | up {place : List RawText} {rest : List Step} {links : Nat} {halt : Halt}
      (directory : top.item? place = some .directory)
      (next : Leads top place.dropLast rest links halt) :
      Leads top place (.up :: rest) links halt
  | into {place : List RawText} {name : RawText} {item : Item} {rest : List Step} {links : Nat}
      {halt : Halt} (directory : top.item? place = some .directory)
      (short : name.bytes.length ≤ maxNameLength) (entry : top.item? (place ++ [name]) = some item)
      (noLink : ∀ target, item ≠ .link target)
      (next : Leads top (place ++ [name]) rest links halt) :
      Leads top place (.into name :: rest) links halt
  | missing {place : List RawText} {name : RawText} (directory : top.item? place = some .directory)
      (short : name.bytes.length ≤ maxNameLength) (free : top.item? (place ++ [name]) = none) :
      Leads top place [.into name] 0 (.missing place name)
  | link {place : List RawText} {name : RawText} {target : Path} {rest : List Step} {links : Nat}
      {halt : Halt} (directory : top.item? place = some .directory)
      (short : name.bytes.length ≤ maxNameLength)
      (entry : top.item? (place ++ [name]) = some (.link target))
      (next : Leads top (jump place target) (target.steps ++ rest) links halt) :
      Leads top place (.into name :: rest) (links + 1) halt

/-- What a walk up to the first link says about the walk along all links. -/
private def Resumes (top : Entry) : Halt → Nat → Halt → Prop
  | .link holder target rest, links, halt =>
    ∃ fewer, links = fewer + 1 ∧ top.Leads (jump holder target) (target.steps ++ rest) fewer halt
  | stopped, links, halt => links = 0 ∧ halt = stopped

private theorem leads_of_walk {place : List RawText} {steps : List Step} {stop : Halt}
    (h : top.walk place steps = .ok stop) {links : Nat} {halt : Halt}
    (hresumes : top.Resumes stop links halt) : top.Leads place steps links halt := by
  induction steps generalizing place with
  | nil =>
    obtain rfl := Except.ok.inj h
    obtain ⟨rfl, rfl⟩ := hresumes
    exact .done place
  | cons step rest ih =>
    rw [walk_cons] at h
    cases hplace : top.item? place with
    | none => simp [hplace] at h
    | some item =>
      rw [hplace] at h
      cases item with
      | file | link => cases h
      | directory =>
        cases step with
        | here => exact .here hplace (ih h)
        | up => exact .up hplace (ih h)
        | into name =>
          dsimp only at h
          by_cases hlong : maxNameLength < name.bytes.length
          · rw [if_pos hlong] at h
            cases h
          · rw [if_neg hlong] at h
            have hshort := Nat.le_of_not_lt hlong
            cases hentry : top.item? (place ++ [name]) with
            | none =>
              rw [hentry] at h
              cases rest with
              | cons => cases h
              | nil =>
                obtain rfl := Except.ok.inj h
                obtain ⟨rfl, rfl⟩ := hresumes
                exact .missing hplace hshort hentry
            | some next =>
              rw [hentry] at h
              cases next with
              | file | directory => exact .into hplace hshort hentry (by simp) (ih h)
              | link target =>
                obtain rfl := Except.ok.inj h
                obtain ⟨fewer, rfl, hnext⟩ := hresumes
                exact .link hplace hshort hentry hnext

theorem leads_of_follow {links : Nat} {place : List RawText} {steps : List Step} {halt : Halt}
    (h : top.follow links place steps = .ok halt) :
    ∃ n ≤ links, top.Leads place steps n halt := by
  induction links generalizing place steps with
  | zero =>
    rw [follow] at h
    cases hwalk : top.walk place steps with
    | error => rw [hwalk] at h; cases h
    | ok stop =>
      rw [hwalk] at h
      cases stop with
      | link => cases h
      | found | missing =>
        obtain rfl := Except.ok.inj h
        exact ⟨0, Nat.le_refl 0, leads_of_walk hwalk ⟨rfl, rfl⟩⟩
  | succ links ih =>
    cases hwalk : top.walk place steps with
    | error => rw [follow, hwalk] at h; cases h
    | ok stop =>
      cases stop with
      | link holder target rest =>
        rw [follow_of_link hwalk] at h
        obtain ⟨n, hn, hleads⟩ := ih h
        exact ⟨n + 1, Nat.succ_le_succ hn, leads_of_walk hwalk ⟨n, rfl, hleads⟩⟩
      | found | missing =>
        rw [follow, hwalk] at h
        obtain rfl := Except.ok.inj h
        exact ⟨0, Nat.zero_le _, leads_of_walk hwalk ⟨rfl, rfl⟩⟩

theorem Leads.follow {place : List RawText} {steps : List Step} {n : Nat} {halt : Halt}
    (h : top.Leads place steps n halt) {links : Nat} (hn : n ≤ links) :
    top.follow links place steps = .ok halt := by
  induction h generalizing links with
  | done place => cases links <;> rfl
  | here hplace _ ih =>
    rw [← ih hn]
    exact follow_of_walk (by rw [walk_cons, hplace])
  | up hplace _ ih =>
    rw [← ih hn]
    exact follow_of_walk (by rw [walk_cons, hplace])
  | @into place name item rest _ _ hplace hshort hentry hlink _ ih =>
    rw [← ih hn]
    refine follow_of_walk ?_
    rw [walk_cons, hplace]
    dsimp only
    rw [if_neg (Nat.not_lt.mpr hshort), hentry]
    cases item with
    | file | directory => rfl
    | link target => exact absurd rfl (hlink target)
  | missing hplace hshort hfree =>
    rw [Entry.follow, walk_cons, hplace]
    dsimp only
    rw [if_neg (Nat.not_lt.mpr hshort), hfree]
    rfl
  | @link place name target rest _ _ hplace hshort hentry _ ih =>
    obtain ⟨fewer, rfl⟩ := Nat.exists_eq_add_of_lt hn
    have hwalk : top.walk place (.into name :: rest) = .ok (.link place target rest) := by
      rw [walk_cons, hplace]
      dsimp only
      rw [if_neg (Nat.not_lt.mpr hshort), hentry]
    rw [follow_of_link hwalk]
    exact ih (by omega)

/-- **Walks.** Following links halts where the steps lead, if the links on the way are few. -/
theorem follow_eq_ok {links : Nat} {place : List RawText} {steps : List Step} {halt : Halt} :
    top.follow links place steps = .ok halt ↔ ∃ n ≤ links, top.Leads place steps n halt :=
  ⟨leads_of_follow, fun ⟨_, hn, h⟩ => h.follow hn⟩

/-- A walk ends at one place. -/
theorem Leads.unique {place : List RawText} {steps : List Step} {n m : Nat} {halt halt' : Halt}
    (h : top.Leads place steps n halt) (h' : top.Leads place steps m halt') : halt = halt' :=
  Except.ok.inj ((h.follow (Nat.le_max_left n m)).symm.trans (h'.follow (Nat.le_max_right n m)))

/-! ### Where walks end -/

/-- An entry that is no link stands at a place. -/
def Stands (top : Entry) (place : List RawText) : Prop :=
  ∃ item, top.item? place = some item ∧ ∀ target, item ≠ .link target

theorem stands_of_directory {place : List RawText} (h : top.item? place = some .directory) :
    top.Stands place :=
  ⟨.directory, h, by simp⟩

theorem Stands.ne_none {place : List RawText} (h : top.Stands place) : top.item? place ≠ none := by
  obtain ⟨item, hitem, -⟩ := h
  simp [hitem]

theorem Leads.directory {place : List RawText} {step : Step} {rest : List Step} {n : Nat}
    {halt : Halt} (h : top.Leads place (step :: rest) n halt) :
    top.item? place = some .directory := by
  cases h <;> assumption

/-- A walk to an entry ends at an entry that is no link. -/
theorem Leads.stands {place q : List RawText} {steps : List Step} {n : Nat}
    (h : top.Leads place steps n (.found q)) (hplace : top.Stands place) : top.Stands q := by
  generalize hhalt : Halt.found q = halt at h
  induction h with
  | done => exact (Halt.found.inj hhalt) ▸ hplace
  | here _ _ ih => exact ih hplace hhalt
  | up hdirectory _ ih =>
    have hholder := item?_directory_of_isPrefix ( List.dropLast_prefix _) hdirectory
    exact ih (stands_of_directory hholder) hhalt
  | into _ _ hentry hlink _ ih => exact ih ⟨_, hentry, hlink⟩ hhalt
  | missing => cases hhalt
  | @link place name target rest _ _ hdirectory _ _ hnext ih =>
    refine ih ?_ hhalt
    rw [jump]
    by_cases habsolute : target.isAbsolute = true
    · rw [if_pos habsolute]
      exact stands_of_directory (item?_directory_of_isPrefix List.nil_prefix hdirectory)
    · rw [if_neg habsolute]
      exact stands_of_directory hdirectory

theorem Leads.stands_of_ne_nil {place q : List RawText} {steps : List Step} {n : Nat}
    (h : top.Leads place steps n (.found q)) (hsteps : steps ≠ []) : top.Stands q := by
  obtain ⟨step, rest, rfl⟩ := List.exists_cons_of_ne_nil hsteps
  exact h.stands (stands_of_directory h.directory)

/-! ### Walks one after the other -/

theorem Leads.append {place middle : List RawText} {steps more : List Step} {n m : Nat}
    {halt : Halt} (h : top.Leads place steps n (.found middle))
    (hmore : top.Leads middle more m halt) : top.Leads place (steps ++ more) (n + m) halt := by
  generalize hhalt : Halt.found middle = stop at h
  induction h with
  | done =>
    obtain rfl := Halt.found.inj hhalt
    rwa [List.nil_append, Nat.zero_add]
  | here hdirectory _ ih => exact .here hdirectory (ih hhalt)
  | up hdirectory _ ih => exact .up hdirectory (ih hhalt)
  | into hdirectory hshort hentry hlink _ ih =>
    exact .into hdirectory hshort hentry hlink (ih hhalt)
  | missing => cases hhalt
  | @link place name target rest links _ hdirectory hshort hentry _ ih =>
    have hnext := ih hhalt
    rw [List.append_assoc] at hnext
    rw [List.cons_append, Nat.add_right_comm]
    exact .link hdirectory hshort hentry hnext

/-- A walk is a walk along its first steps and then along the others. -/
theorem Leads.split {place : List RawText} {steps more : List Step} {k : Nat} {halt : Halt}
    (h : top.Leads place (steps ++ more) k halt) (hmore : more ≠ []) :
    ∃ n m middle, k = n + m ∧ top.Leads place steps n (.found middle) ∧
      top.Leads middle more m halt := by
  have hnil : ∀ {place : List RawText} {all : List Step} {k : Nat} {halt : Halt},
      top.Leads place all k halt → [] ++ more = all →
        ∃ n m middle, k = n + m ∧ top.Leads place [] n (.found middle) ∧
          top.Leads middle more m halt := by
    rintro place _ k halt h rfl
    exact ⟨0, k, place, (Nat.zero_add k).symm, .done place, h⟩
  generalize hall : steps ++ more = all at h
  induction h generalizing steps with
  | done place => exact absurd (List.append_eq_nil_iff.mp hall).2 hmore
  | here hdirectory hnext ih =>
    cases steps with
    | nil => exact hnil (.here hdirectory hnext) hall
    | cons step steps =>
      obtain ⟨rfl, hrest⟩ := List.cons.inj hall
      obtain ⟨n, m, middle, hk, hfirst, hsecond⟩ := ih hrest
      exact ⟨n, m, middle, hk, .here hdirectory hfirst, hsecond⟩
  | up hdirectory hnext ih =>
    cases steps with
    | nil => exact hnil (.up hdirectory hnext) hall
    | cons step steps =>
      obtain ⟨rfl, hrest⟩ := List.cons.inj hall
      obtain ⟨n, m, middle, hk, hfirst, hsecond⟩ := ih hrest
      exact ⟨n, m, middle, hk, .up hdirectory hfirst, hsecond⟩
  | into hdirectory hshort hentry hlink hnext ih =>
    cases steps with
    | nil => exact hnil (.into hdirectory hshort hentry hlink hnext) hall
    | cons step steps =>
      obtain ⟨rfl, hrest⟩ := List.cons.inj hall
      obtain ⟨n, m, middle, hk, hfirst, hsecond⟩ := ih hrest
      exact ⟨n, m, middle, hk, .into hdirectory hshort hentry hlink hfirst, hsecond⟩
  | missing hdirectory hshort hfree =>
    cases steps with
    | nil => exact hnil (.missing hdirectory hshort hfree) hall
    | cons step steps => exact absurd (List.append_eq_nil_iff.mp (List.cons.inj hall).2).2 hmore
  | link hdirectory hshort hentry hnext ih =>
    cases steps with
    | nil => exact hnil (.link hdirectory hshort hentry hnext) hall
    | cons step steps =>
      obtain ⟨rfl, rfl⟩ := List.cons.inj hall
      obtain ⟨n, m, middle, rfl, hfirst, hsecond⟩ := ih (List.append_assoc ..)
      exact ⟨n + 1, m, middle, by omega, .link hdirectory hshort hentry hfirst, hsecond⟩

/-- A step that stays counts for nothing if another step follows. -/
theorem leads_here_cons {place : List RawText} {step : Step} {rest : List Step} {n : Nat}
    {halt : Halt} :
    top.Leads place (.here :: step :: rest) n halt ↔ top.Leads place (step :: rest) n halt := by
  constructor
  · intro h
    cases h
    assumption
  · intro h
    exact .here h.directory h

/-- A step that stays asks for a directory. -/
theorem leads_concat_here {place q : List RawText} {steps : List Step} {n : Nat} :
    top.Leads place (steps ++ [.here]) n (.found q) ↔
      top.Leads place steps n (.found q) ∧ top.item? q = some .directory := by
  constructor
  · intro h
    obtain ⟨a, b, middle, rfl, hfirst, hsecond⟩ := h.split (by simp)
    cases hsecond with
    | here hdirectory hend =>
      cases hend
      exact ⟨hfirst, hdirectory⟩
  · intro ⟨h, hdirectory⟩
    exact h.append (.here hdirectory (.done q))

/-- A walk that goes on behind a name finds something under that name. -/
theorem Leads.entry {place q : List RawText} {name : RawText} {rest : List Step} {n : Nat}
    (h : top.Leads place (.into name :: rest) n (.found q)) :
    top.item? (place ++ [name]) ≠ none := by
  cases h <;> simp_all

/-- Names of directories that lie in each other lead from one to the next. -/
theorem Leads.along {base names : List RawText} {rest : List Step} {n : Nat} {halt : Halt}
    (hnames : ∀ made, made ≠ [] → made <+: names → top.item? (base ++ made) = some .directory)
    (h : top.Leads base (names.map .into ++ rest) n halt) :
    top.Leads (base ++ names) rest n halt := by
  induction names generalizing base with
  | nil => rwa [List.append_nil]
  | cons name names ih =>
    have hname : top.item? (base ++ [name]) = some .directory :=
      hnames [name] (by simp) ⟨names, rfl⟩
    have hnext : top.Leads (base ++ [name]) (names.map .into ++ rest) n halt := by
      rw [List.map_cons, List.cons_append] at h
      generalize names.map Step.into ++ rest = more at h ⊢
      cases h with
      | into _ _ _ _ hnext => exact hnext
      | missing _ _ hfree => rw [hname] at hfree; cases hfree
      | link _ _ hentry _ => rw [hname] at hentry; cases hentry
    have hrest : top.Leads (base ++ [name] ++ names) rest n halt := ih (fun made _ hmade => by
      rw [List.append_assoc]
      exact hnames (name :: made) (by simp) (List.cons_prefix_cons.mpr ⟨rfl, hmade⟩)) hnext
    rwa [List.append_assoc] at hrest

/-! ### Other trees -/

/-- A walk to an entry goes the same way in every tree that has the same directories and links and
a file where the walk ends at one. Other files are on no walk: nothing leads on from a file. -/
theorem Leads.transfer {other : Entry} (hways : ∀ q item, top.item? q = some item →
      (∀ content, item ≠ .file content) → other.item? q = some item)
    {place q : List RawText} {steps : List Step} {n : Nat}
    (hend : ∀ content, top.item? q = some (.file content) →
      ∃ content', other.item? q = some (.file content'))
    (h : top.Leads place steps n (.found q)) : other.Leads place steps n (.found q) := by
  have hdirectory : ∀ {q}, top.item? q = some .directory → other.item? q = some .directory :=
    fun hq => hways _ _ hq (by simp)
  generalize hhalt : Halt.found q = halt at h
  induction h with
  | done place => exact .done place
  | here hplace _ ih => exact .here (hdirectory hplace) (ih hhalt)
  | up hplace _ ih => exact .up (hdirectory hplace) (ih hhalt)
  | @into place name item rest _ _ hplace hshort hentry hlink hnext ih =>
    cases item with
    | directory => exact .into (hdirectory hplace) hshort (hdirectory hentry) hlink (ih hhalt)
    | link target => exact absurd rfl (hlink target)
    | file content =>
      cases rest with
      | cons step rest =>
        have hfile := hnext.directory
        rw [hentry] at hfile
        cases hfile
      | nil =>
        have hq : q = place ++ [name] := by
          subst hhalt
          cases hnext
          rfl
        obtain ⟨content', hcontent'⟩ := hend content (by rw [hq]; exact hentry)
        rw [hq] at hcontent'
        exact .into (hdirectory hplace) hshort hcontent' (by simp) (ih hhalt)
  | missing => cases hhalt
  | link hplace hshort hentry _ ih =>
    exact .link (hdirectory hplace) hshort (hways _ _ hentry (by simp)) (ih hhalt)

/-- Where a walk to an entry goes in a tree that has more entries, whatever the files hold. -/
theorem Leads.mono_shape {more : Entry} (hmore : ∀ q item, top.item? q = some item →
    ∃ item', more.item? q = some item' ∧ item'.shape = item.shape) {place q : List RawText}
    {steps : List Step} {n : Nat} (h : top.Leads place steps n (.found q)) :
    more.Leads place steps n (.found q) := by
  refine h.transfer (fun p item hitem hfile => ?_) fun content hcontent => ?_
  · obtain ⟨item', hitem', hshape⟩ := hmore p item hitem
    cases item with
    | file content => exact absurd rfl (hfile content)
    | directory => rw [hitem', Item.shape_eq_directory.mp hshape]
    | link target => rw [hitem', Item.shape_eq_link.mp hshape]
  · obtain ⟨item', hitem', hshape⟩ := hmore q _ hcontent
    cases item' with
    | file content' => exact ⟨content', hitem'⟩
    | directory | link => cases hshape

theorem Leads.mono {more : Entry} (hmore : ∀ q item, top.item? q = some item →
    more.item? q = some item) {place q : List RawText} {steps : List Step} {n : Nat}
    (h : top.Leads place steps n (.found q)) : more.Leads place steps n (.found q) :=
  h.mono_shape fun q item hitem => ⟨item, hmore q item hitem, rfl⟩

private theorem walk_congr {other : Entry}
    (h : ∀ q, (other.item? q).map Item.shape = (top.item? q).map Item.shape)
    (place : List RawText) (steps : List Step) : other.walk place steps = top.walk place steps := by
  induction steps generalizing place with
  | nil => rfl
  | cons step rest ih =>
    have hplace := h place
    rw [walk_cons, walk_cons]
    cases htop : top.item? place with
    | none =>
      rw [htop] at hplace
      rw [Option.map_eq_none_iff.mp hplace]
    | some item =>
      rw [htop] at hplace
      obtain ⟨item', hitem', hshape⟩ := Option.map_eq_some_iff.mp hplace
      rw [hitem']
      cases item with
      | file | link => cases item' <;> first | rfl | cases hshape
      | directory =>
        obtain rfl := Item.shape_eq_directory.mp hshape
        cases step with
        | here | up => exact ih _
        | into name =>
          have hname := h (place ++ [name])
          dsimp only
          cases hnext : top.item? (place ++ [name]) with
          | none =>
            rw [hnext] at hname
            rw [Option.map_eq_none_iff.mp hname]
          | some next =>
            rw [hnext] at hname
            obtain ⟨next', hnext', hshape'⟩ := Option.map_eq_some_iff.mp hname
            rw [hnext']
            cases next with
            | directory =>
              obtain rfl := Item.shape_eq_directory.mp hshape'
              simp only [ih]
            | link target =>
              obtain rfl := Item.shape_eq_link.mp hshape'
              rfl
            | file content =>
              cases next' with
              | file => simp only [ih]
              | directory | link => cases hshape'

/-- **Walks do not read files.** Two trees that are alike up to the content of files have the same
walks, failures included. -/
theorem follow_congr {other : Entry}
    (h : ∀ q, (other.item? q).map Item.shape = (top.item? q).map Item.shape) (links : Nat)
    (place : List RawText) (steps : List Step) :
    other.follow links place steps = top.follow links place steps := by
  induction links generalizing place steps with
  | zero => rw [follow, follow, walk_congr h]
  | succ links ih =>
    rw [follow, follow, walk_congr h]
    simp only [ih]

/-- Names lead to the place that they make up. -/
theorem leads_names (base : List RawText) {names : List RawText}
    (hshort : ∀ name ∈ names, name.bytes.length ≤ maxNameLength)
    (h : top.Stands (base ++ names)) :
    top.Leads base (names.map .into) 0 (.found (base ++ names)) := by
  induction names generalizing base with
  | nil =>
    rw [List.append_nil]
    exact .done base
  | cons name rest ih =>
    have hbase : top.item? base = some .directory := item?_of_cons h.ne_none
    obtain ⟨item, hitem, hlink⟩ : top.Stands (base ++ [name]) := by
      cases rest with
      | nil => exact h
      | cons k rest =>
        have hne : top.item? (base ++ [name] ++ k :: rest) ≠ none := by
          rw [List.append_assoc]
          exact h.ne_none
        exact stands_of_directory (item?_of_cons hne)
    have hrest := ih (base ++ [name]) (fun k hk => hshort k (List.mem_cons_of_mem _ hk))
      (by rwa [List.append_assoc])
    rw [List.append_assoc] at hrest
    exact .into hbase (hshort name (List.mem_cons_self ..)) hitem hlink hrest

end Entry

end MarkdownPages
