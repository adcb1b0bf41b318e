import MarkdownPages.Document.FrontMatter
import MarkdownPages.Proofs.Kotlin.Grammar
import MarkdownPages.Proofs.Sequences
import MarkdownPages.Proofs.Text.Ascending

/-!
# Which front matter is accepted

Front matter is read entry by entry in ascending order of the keys. Whether an entry is accepted is
decided by the entry alone, so front matter is accepted if all of its entries are, and otherwise
refused for the entry with the smallest key that is not. What is accepted is kept whole: every key
with its texts, and the layout and the imports are the texts under their keys.

## Main definitions

* `FrontMatter.Spells`, `FrontMatter.Flattens` — the texts that a value stands for
* `FrontMatter.Acceptable` — what may stand under a key
* `FrontMatter.Offends` — why an entry is refused

## Main results

* `FrontMatter.withEntry_eq_ok`, `FrontMatter.withEntry_eq_error` — one more entry
* `FrontMatter.Consistent.enter` — layout and imports stay those of the entries
* `FrontMatter.read_acceptable` — which front matter is read, what it keeps, and why not
-/

namespace MarkdownPages

namespace FrontMatter

/-! ### Texts of values -/

/-- A scalar other than null, and its text. -/
inductive Spells : Yaml.Value → String → Prop
  | string (s : String) : Spells (.string s) s
  | bool (b : Bool) : Spells (.bool b) (toString b)
  | number (n : Yaml.Number) : Spells (.number n) n.text

/-- A value that is null, a scalar or a list of scalars, and its texts in order. -/
inductive Flattens : Yaml.Value → List String → Prop
  | null : Flattens .null []
  | scalar {value : Yaml.Value} {text : String} (h : Spells value text) : Flattens value [text]
  | list {items : List Yaml.Value} {texts : List String} (h : List.Forall₂ Spells items texts) :
      Flattens (.sequence items) texts

theorem scalarText?_eq_some {value : Yaml.Value} {text : String} :
    scalarText? value = some text ↔ Spells value text := by
  constructor
  · intro h
    cases value with
    | string s => exact Option.some.inj h ▸ .string s
    | bool b =>
      obtain rfl := Option.some.inj h
      cases b
      · exact .bool false
      · exact .bool true
    | number n => exact Option.some.inj h ▸ .number n
    | null | sequence _ | mapping _ | tagged _ _ => cases h
  · intro h
    cases h with
    | string s => rfl
    | bool b => cases b <;> rfl
    | number n => rfl

theorem scalarText?_eq_none {value : Yaml.Value} :
    scalarText? value = none ↔ ∀ text, ¬ Spells value text := by
  simp only [← scalarText?_eq_some, Option.eq_none_iff_forall_ne_some, ne_eq]

theorem mapM_scalarText?_eq_some {items : List Yaml.Value} {texts : List String} :
    items.mapM scalarText? = some texts ↔ List.Forall₂ Spells items texts := by
  induction items generalizing texts with
  | nil => simp [eq_comm]
  | cons item rest ih =>
    rw [List.mapM_cons, List.forall₂_cons_left_iff]
    simp only [Option.bind_eq_bind, Option.bind_eq_some_iff, Option.pure_def, Option.some.injEq,
      scalarText?_eq_some, ih]
    constructor
    · rintro ⟨text, htext, others, hothers, rfl⟩
      exact ⟨text, others, htext, hothers, rfl⟩
    · rintro ⟨text, others, htext, hothers, rfl⟩
      exact ⟨text, htext, others, hothers, rfl⟩

theorem mapM_scalarText?_eq_none {items : List Yaml.Value} :
    items.mapM scalarText? = none ↔ ∃ item ∈ items, ∀ text, ¬ Spells item text := by
  induction items with
  | nil => simp
  | cons item rest ih =>
    rw [List.mapM_cons, List.exists_mem_cons_iff, ← scalarText?_eq_none, ← ih]
    cases scalarText? item <;> cases rest.mapM scalarText? <;> simp

theorem flatten_eq_ok {key : String} {value : Yaml.Value} {texts : List String} :
    flatten key value = .ok texts ↔ Flattens value texts := by
  constructor
  · intro h
    unfold flatten at h
    split at h
    · exact Except.ok.inj h ▸ .null
    · split at h
      · rename_i hall
        exact Except.ok.inj h ▸ .list (mapM_scalarText?_eq_some.mp hall)
      · cases h
    · split at h
      · rename_i htext
        exact Except.ok.inj h ▸ .scalar (scalarText?_eq_some.mp htext)
      · cases h
  · intro h
    cases h with
    | null => rfl
    | scalar h =>
      cases h with
      | string s => rfl
      | bool b => cases b <;> rfl
      | number n => rfl
    | list h => rw [flatten, mapM_scalarText?_eq_some.mpr h]

/-! ### Entries -/

/-- The texts that may stand under a key. -/
structure Accepts (key : String) (texts : List String) : Prop where
  /-- There is at most one layout, whose name is blank or may be written in code. -/
  root : key = "root" → texts.length ≤ 1 ∧ ∀ text ∈ texts,
    Text.trim text.toList = [] ∨ Text.trim text.toList ∈ Kotlin.shortcutNames
  imports : key = "imports" → ∀ text ∈ texts, text.toList ∈ Kotlin.importTargets

/-- An entry that front matter may have. -/
def Acceptable (entry : String × Yaml.Value) : Prop :=
  ∃ texts, Flattens entry.2 texts ∧ Accepts entry.1 texts

/-- Why an entry is refused. -/
inductive Offends : String → Yaml.Value → FrontMatterProblem → Prop
  | nestedItem {key : String} {items : List Yaml.Value}
      (h : ∃ item ∈ items, ∀ text, ¬ Spells item text) :
      Offends key (.sequence items) (.nestedItem key)
  | notFlat {key : String} {value : Yaml.Value} (hlist : ∀ items, value ≠ .sequence items)
      (h : ∀ texts, ¬ Flattens value texts) : Offends key value (.notFlat key)
  | severalRoots {value : Yaml.Value} {texts : List String} (h : Flattens value texts)
      (hseveral : 1 < texts.length) : Offends "root" value .severalRoots
  | badRoot {value : Yaml.Value} {root : String} (h : Flattens value [root])
      (hblank : Text.trim root.toList ≠ [])
      (hname : Text.trim root.toList ∉ Kotlin.shortcutNames) : Offends "root" value (.badRoot root)
  /-- The first import that cannot be written in code is the one that is told. -/
  | badImport {value : Yaml.Value} {before after : List String} {target : String}
      (h : Flattens value (before ++ target :: after))
      (hbefore : ∀ text ∈ before, text.toList ∈ Kotlin.importTargets)
      (hname : target.toList ∉ Kotlin.importTargets) : Offends "imports" value (.badImport target)

theorem flatten_eq_error {key : String} {value : Yaml.Value} {problem : FrontMatterProblem} :
    flatten key value = .error problem ↔ (∃ items, value = .sequence items ∧
      (∃ item ∈ items, ∀ text, ¬ Spells item text) ∧ problem = .nestedItem key) ∨
      ((∀ items, value ≠ .sequence items) ∧ (∀ texts, ¬ Flattens value texts) ∧
        problem = .notFlat key) := by
  constructor
  · intro h
    have hnone : ∀ texts, ¬ Flattens value texts := fun texts htexts => by
      cases h.symm.trans (flatten_eq_ok.mpr htexts)
    unfold flatten at h
    split at h
    · cases h
    · rename_i items
      split at h
      · cases h
      · rename_i hitems
        exact .inl ⟨items, rfl, mapM_scalarText?_eq_none.mp hitems, (Except.error.inj h).symm⟩
    · rename_i hlist
      split at h
      · cases h
      · exact .inr ⟨hlist, hnone, (Except.error.inj h).symm⟩
  · rintro (⟨items, rfl, hitem, rfl⟩ | ⟨hlist, hnone, rfl⟩)
    · rw [flatten, mapM_scalarText?_eq_none.mpr hitem]
    · have hscalar : scalarText? value = none :=
        scalarText?_eq_none.mpr fun text htext => hnone _ (.scalar htext)
      unfold flatten
      split
      · exact absurd .null (hnone [])
      · exact absurd rfl (hlist _)
      · rw [hscalar]

theorem isRoot_iff {name : String} : isRoot name = true ↔
    Text.trim name.toList = [] ∨ Text.trim name.toList ∈ Kotlin.shortcutNames := by
  rw [isRoot, Bool.or_eq_true, List.isEmpty_iff, Kotlin.isShortcutName_iff]

theorem checkRoot_eq_ok {texts : List String} {root : String} : checkRoot texts = .ok root ↔
    (texts.length ≤ 1 ∧ ∀ text ∈ texts, isRoot text = true) ∧ root = texts.headD "" := by
  match texts with
  | [] =>
    refine ⟨fun h => ⟨⟨Nat.zero_le 1, List.forall_mem_nil _⟩, (Except.ok.inj h).symm⟩, ?_⟩
    exact fun h => congrArg _ h.2.symm
  | [name] =>
    rw [checkRoot, List.forall_mem_singleton]
    by_cases hname : isRoot name = true
    · rw [if_pos hname]
      exact ⟨fun h => ⟨⟨Nat.le_refl 1, hname⟩, (Except.ok.inj h).symm⟩,
        fun h => congrArg _ h.2.symm⟩
    · rw [if_neg hname]
      exact ⟨nofun, fun h => absurd h.1.2 hname⟩
  | _ :: _ :: _ => exact ⟨nofun, fun h => absurd h.1.1 (by simp)⟩

theorem checkRoot_eq_error {texts : List String} {problem : FrontMatterProblem} :
    checkRoot texts = .error problem ↔ (1 < texts.length ∧ problem = .severalRoots) ∨
      ∃ name, texts = [name] ∧ isRoot name = false ∧ problem = .badRoot name := by
  match texts with
  | [] => exact ⟨nofun, by simp⟩
  | [name] =>
    rw [checkRoot]
    by_cases hname : isRoot name = true
    · rw [if_pos hname]
      refine ⟨nofun, ?_⟩
      rintro (⟨hseveral, -⟩ | ⟨other, heq, hbad, -⟩)
      · exact absurd hseveral (by simp)
      · obtain rfl := List.singleton_inj.mp heq
        cases hbad.symm.trans hname
    · rw [if_neg hname]
      refine ⟨fun h => .inr ⟨name, rfl, Bool.eq_false_iff.mpr hname, (Except.error.inj h).symm⟩, ?_⟩
      rintro (⟨hseveral, -⟩ | ⟨other, heq, -, rfl⟩)
      · exact absurd hseveral (by simp)
      · obtain rfl := List.singleton_inj.mp heq
        rfl
  | _ :: _ :: _ =>
    refine ⟨fun h => .inl ⟨by simp, (Except.error.inj h).symm⟩, ?_⟩
    rintro (⟨-, rfl⟩ | ⟨other, heq, -, -⟩)
    · rfl
    · cases heq

theorem checkImports_eq_ok {texts imports : List String} : checkImports texts = .ok imports ↔
    (∀ text ∈ texts, Kotlin.isImportTarget text.toList = true) ∧ imports = texts := by
  rw [checkImports]
  split
  · rename_i target hfind
    have hbad : ¬ ∀ text ∈ texts, Kotlin.isImportTarget text.toList = true := fun h => by
      simpa [h target (List.mem_of_find?_eq_some hfind)] using List.find?_some hfind
    exact ⟨nofun, fun h => absurd h.1 hbad⟩
  · rename_i hfind
    have hgood := List.find?_eq_none.mp hfind
    simp only [Bool.not_eq_true, Bool.not_eq_false'] at hgood
    exact ⟨fun h => ⟨hgood, (Except.ok.inj h).symm⟩, fun h => congrArg _ h.2.symm⟩

theorem checkImports_eq_error {texts : List String} {problem : FrontMatterProblem} :
    checkImports texts = .error problem ↔ ∃ before target after, texts = before ++ target :: after ∧
      (∀ text ∈ before, Kotlin.isImportTarget text.toList = true) ∧
      Kotlin.isImportTarget target.toList = false ∧ problem = .badImport target := by
  have hfind : checkImports texts = .error problem ↔ ∃ target,
      texts.find? (fun text => !Kotlin.isImportTarget text.toList) = some target ∧
        problem = .badImport target := by
    rw [checkImports]
    cases texts.find? fun text => !Kotlin.isImportTarget text.toList with
    | none => exact ⟨nofun, nofun⟩
    | some target =>
      refine ⟨fun h => ⟨target, rfl, (Except.error.inj h).symm⟩, ?_⟩
      rintro ⟨other, heq, rfl⟩
      obtain rfl := Option.some.inj heq
      rfl
  rw [hfind]
  simp only [List.find?_eq_some_iff_append, Bool.not_eq_true', Bool.not_not]
  constructor
  · rintro ⟨target, ⟨hbad, before, after, rfl, hbefore⟩, rfl⟩
    exact ⟨before, target, after, rfl, hbefore, hbad, rfl⟩
  · rintro ⟨before, target, after, rfl, hbefore, hbad, rfl⟩
    exact ⟨target, ⟨hbad, before, after, rfl, hbefore⟩, rfl⟩

theorem accepts_root_iff {texts : List String} :
    Accepts "root" texts ↔ texts.length ≤ 1 ∧ ∀ text ∈ texts, isRoot text = true := by
  simp only [isRoot_iff]
  exact ⟨fun h => h.root rfl, fun h => ⟨fun _ => h, fun hkey => absurd hkey (by decide)⟩⟩

theorem accepts_imports_iff {texts : List String} :
    Accepts "imports" texts ↔ ∀ text ∈ texts, Kotlin.isImportTarget text.toList = true := by
  simp only [Kotlin.isImportTarget_iff]
  exact ⟨fun h => h.imports rfl, fun h => ⟨fun hkey => absurd hkey (by decide), fun _ => h⟩⟩

/-- Front matter with the texts of one more key. -/
def enter (m : FrontMatter) (key : String) (texts : List String) : FrontMatter where
  root := if key = "root" then some (texts.headD "") else m.root
  imports := if key = "imports" then texts else m.imports
  data := Ascending.put key texts m.data

/-- **One entry.** It is kept if it is acceptable. -/
theorem withEntry_eq_ok {m m' : FrontMatter} {key : String} {value : Yaml.Value} :
    m.withEntry key value = .ok m' ↔
      ∃ texts, Flattens value texts ∧ Accepts key texts ∧ m' = m.enter key texts := by
  rw [withEntry, except_bind_eq_ok]
  simp only [flatten_eq_ok]
  refine exists_congr fun texts => and_congr_right fun _ => ?_
  by_cases hroot : key = "root"
  · subst hroot
    rw [if_pos rfl, except_bind_eq_ok, accepts_root_iff]
    constructor
    · rintro ⟨root, hcheck, h⟩
      obtain ⟨htexts, rfl⟩ := checkRoot_eq_ok.mp hcheck
      exact ⟨htexts, (Except.ok.inj h).symm⟩
    · rintro ⟨htexts, rfl⟩
      exact ⟨_, checkRoot_eq_ok.mpr ⟨htexts, rfl⟩, rfl⟩
  · rw [if_neg hroot]
    by_cases himports : key = "imports"
    · subst himports
      rw [if_pos rfl, except_bind_eq_ok, accepts_imports_iff]
      constructor
      · rintro ⟨imports, hcheck, h⟩
        obtain ⟨htexts, rfl⟩ := checkImports_eq_ok.mp hcheck
        exact ⟨htexts, (Except.ok.inj h).symm⟩
      · rintro ⟨htexts, rfl⟩
        exact ⟨_, checkImports_eq_ok.mpr ⟨htexts, rfl⟩, rfl⟩
    · rw [if_neg himports, enter, if_neg hroot, if_neg himports]
      constructor
      · intro h
        exact ⟨⟨fun hkey => absurd hkey hroot, fun hkey => absurd hkey himports⟩,
          (Except.ok.inj h).symm⟩
      · rintro ⟨-, rfl⟩
        rfl

theorem Flattens.unique {value : Yaml.Value} {texts others : List String}
    (h : Flattens value texts) (hothers : Flattens value others) : texts = others := by
  have hflatten : flatten "" value = .ok texts := flatten_eq_ok.mpr h
  exact Except.ok.inj (hflatten.symm.trans (flatten_eq_ok.mpr hothers))

/-- What has no texts is refused for that. -/
theorem offends_iff_of_flatten_eq_error {key : String} {value : Yaml.Value}
    {problem refused : FrontMatterProblem} (hflatten : flatten key value = .error refused) :
    Offends key value problem ↔ refused = problem := by
  have hnone : ∀ texts, ¬ Flattens value texts := fun texts htexts => by
    cases hflatten.symm.trans (flatten_eq_ok.mpr htexts)
  constructor
  · intro h
    refine Except.error.inj (hflatten.symm.trans (flatten_eq_error.mpr ?_))
    cases h with
    | nestedItem h => exact .inl ⟨_, rfl, h, rfl⟩
    | notFlat hlist h => exact .inr ⟨hlist, h, rfl⟩
    | severalRoots h | badRoot h | badImport h => exact absurd h (hnone _)
  · rintro rfl
    rcases flatten_eq_error.mp hflatten with ⟨items, rfl, hitem, rfl⟩ | ⟨hlist, hnone, rfl⟩
    · exact .nestedItem hitem
    · exact .notFlat hlist hnone

/-- What has texts is refused for the texts. -/
theorem offends_iff_of_flattens {key : String} {value : Yaml.Value} {texts : List String}
    {problem : FrontMatterProblem} (htexts : Flattens value texts) :
    Offends key value problem ↔ (key = "root" ∧ checkRoot texts = .error problem) ∨
      (key = "imports" ∧ checkImports texts = .error problem) := by
  constructor
  · intro h
    cases h with
    | nestedItem h =>
      cases htexts with
      | scalar hscalar => cases hscalar
      | list hlist =>
        obtain ⟨item, hitem, hnone⟩ := h
        cases (mapM_scalarText?_eq_none.mpr ⟨item, hitem, hnone⟩).symm.trans
          (mapM_scalarText?_eq_some.mpr hlist)
    | notFlat hlist h => exact absurd htexts (h texts)
    | severalRoots h hseveral =>
      obtain rfl := h.unique htexts
      exact .inl ⟨rfl, checkRoot_eq_error.mpr (.inl ⟨hseveral, rfl⟩)⟩
    | badRoot h hblank hname =>
      obtain rfl := h.unique htexts
      have hbad := Bool.eq_false_iff.mpr (mt isRoot_iff.mp (not_or.mpr ⟨hblank, hname⟩))
      exact .inl ⟨rfl, checkRoot_eq_error.mpr (.inr ⟨_, rfl, hbad, rfl⟩)⟩
    | badImport h hbefore hname =>
      obtain rfl := h.unique htexts
      exact .inr ⟨rfl, checkImports_eq_error.mpr ⟨_, _, _, rfl,
        fun text htext => Kotlin.isImportTarget_iff.mpr (hbefore text htext),
        Bool.eq_false_iff.mpr (mt Kotlin.isImportTarget_iff.mp hname), rfl⟩⟩
  · rintro (⟨rfl, h⟩ | ⟨rfl, h⟩)
    · rcases checkRoot_eq_error.mp h with ⟨hseveral, rfl⟩ | ⟨name, rfl, hbad, rfl⟩
      · exact .severalRoots htexts hseveral
      · obtain ⟨hblank, hname⟩ := not_or.mp (mt isRoot_iff.mpr (Bool.eq_false_iff.mp hbad))
        exact .badRoot htexts hblank hname
    · obtain ⟨before, target, after, rfl, hbefore, hbad, rfl⟩ := checkImports_eq_error.mp h
      exact .badImport htexts (fun text htext => Kotlin.isImportTarget_iff.mp (hbefore text htext))
        (mt Kotlin.isImportTarget_iff.mpr (Bool.eq_false_iff.mp hbad))

/-- An entry is refused for what is wrong with it. -/
theorem withEntry_eq_error {m : FrontMatter} {key : String} {value : Yaml.Value}
    {problem : FrontMatterProblem} :
    m.withEntry key value = .error problem ↔ Offends key value problem := by
  rw [withEntry]
  cases hflatten : flatten key value with
  | error refused =>
    rw [offends_iff_of_flatten_eq_error hflatten]
    exact ⟨Except.error.inj, congrArg _⟩
  | ok texts =>
    rw [offends_iff_of_flattens (flatten_eq_ok.mp hflatten)]
    change (if key = "root" then _ else _) = _ ↔ _
    by_cases hroot : key = "root"
    · subst hroot
      rw [if_pos rfl, except_bind_eq_error]
      · exact ⟨fun h => .inl ⟨rfl, h⟩, fun h => (h.resolve_right fun h => absurd h.1 (by decide)).2⟩
      · exact fun _ => nofun
    · rw [if_neg hroot]
      by_cases himports : key = "imports"
      · subst himports
        rw [if_pos rfl, except_bind_eq_error]
        · exact ⟨fun h => .inr ⟨rfl, h⟩, fun h => (h.resolve_left fun h => absurd h.1 hroot).2⟩
        · exact fun _ => nofun
      · rw [if_neg himports]
        exact ⟨nofun, fun h => h.elim (fun h => absurd h.1 hroot) (fun h => absurd h.1 himports)⟩

/-! ### Mappings -/

/-- What is kept of an entry: its key, with the texts of its value. -/
def Keeps (entry : String × Yaml.Value) (kept : String × List String) : Prop :=
  kept.1 = entry.1 ∧ Flattens entry.2 kept.2

/-- The layout and the imports of front matter are the texts under their keys. -/
structure Consistent (m : FrontMatter) : Prop where
  root : m.root = (Ascending.get? "root" m.data).map (·.headD "")
  imports : m.imports = (Ascending.get? "imports" m.data).getD []

theorem consistent_empty : Consistent {} := ⟨rfl, rfl⟩

theorem Consistent.enter {m : FrontMatter} (h : m.Consistent) (key : String)
    (texts : List String) : (m.enter key texts).Consistent where
  root := by
    by_cases hkey : key = "root"
    · rw [FrontMatter.enter, if_pos hkey, hkey, Ascending.get?_put_self]
      rfl
    · rw [FrontMatter.enter, if_neg hkey, Ascending.get?_put_of_ne (Ne.symm hkey), h.root]
  imports := by
    by_cases hkey : key = "imports"
    · rw [FrontMatter.enter, if_pos hkey, hkey, Ascending.get?_put_self]
      rfl
    · rw [FrontMatter.enter, if_neg hkey, Ascending.get?_put_of_ne (Ne.symm hkey), h.imports]

/-- Front matter with further entries. -/
def withEntries (m : FrontMatter) (entries : List (String × Yaml.Value)) :
    Except FrontMatterProblem FrontMatter :=
  entries.foldlM (fun m entry => m.withEntry entry.1 entry.2) m

theorem exists_withEntries {m : FrontMatter} {entries : List (String × Yaml.Value)} :
    (∃ m', m.withEntries entries = .ok m') ↔ ∀ entry ∈ entries, Acceptable entry := by
  induction entries generalizing m with
  | nil => exact ⟨fun _ => List.forall_mem_nil _, fun _ => ⟨m, rfl⟩⟩
  | cons entry rest ih =>
    rw [List.forall_mem_cons]
    constructor
    · rintro ⟨m', h⟩
      obtain ⟨next, hentry, hrest⟩ := except_bind_eq_ok.mp h
      obtain ⟨texts, htexts, haccepts, -⟩ := withEntry_eq_ok.mp hentry
      exact ⟨⟨texts, htexts, haccepts⟩, ih.mp ⟨m', hrest⟩⟩
    · rintro ⟨⟨texts, htexts, haccepts⟩, hrest⟩
      have hentry : m.withEntry entry.1 entry.2 = .ok (m.enter entry.1 texts) :=
        withEntry_eq_ok.mpr ⟨texts, htexts, haccepts, rfl⟩
      obtain ⟨m', hrest⟩ := ih.mpr hrest
      exact ⟨m', except_bind_eq_ok.mpr ⟨_, hentry, hrest⟩⟩

/-- **A run over entries** in ascending order behind those that were kept before: all of them are
kept, each with its texts. -/
theorem withEntries_eq_ok {m m' : FrontMatter} {entries : List (String × Yaml.Value)}
    (hconsistent : m.Consistent) (htable : Ascending.IsTable entries)
    (hbehind : ∀ kept ∈ m.data, ∀ entry ∈ entries, kept.1 < entry.1)
    (h : m.withEntries entries = .ok m') :
    m'.Consistent ∧ ∃ added, m'.data = m.data ++ added ∧ List.Forall₂ Keeps entries added := by
  induction entries generalizing m with
  | nil =>
    obtain rfl := Except.ok.inj h
    exact ⟨hconsistent, [], (List.append_nil _).symm, .nil⟩
  | cons entry rest ih =>
    obtain ⟨next, hentry, hrest⟩ := except_bind_eq_ok.mp h
    obtain ⟨texts, htexts, -, rfl⟩ := withEntry_eq_ok.mp hentry
    obtain ⟨hfirst, htable⟩ := List.pairwise_cons.mp htable
    have hdata : (m.enter entry.1 texts).data = m.data ++ [(entry.1, texts)] :=
      Ascending.put_of_forall_lt texts fun kept hkept =>
        hbehind kept hkept entry (List.mem_cons_self ..)
    have hnext : ∀ kept ∈ (m.enter entry.1 texts).data, ∀ later ∈ rest, kept.1 < later.1 := by
      rw [hdata]
      intro kept hkept later hlater
      rcases List.mem_append.mp hkept with hkept | hkept
      · exact hbehind kept hkept later (List.mem_cons_of_mem _ hlater)
      · obtain rfl := List.mem_singleton.mp hkept
        exact hfirst later hlater
    obtain ⟨hconsistent, added, hadded, hkeeps⟩ :=
      ih (hconsistent.enter entry.1 texts) htable hnext hrest
    refine ⟨hconsistent, (entry.1, texts) :: added, ?_, .cons ⟨rfl, htexts⟩ hkeeps⟩
    rw [hadded, hdata, List.append_assoc, List.singleton_append]

/-- A run over entries in ascending order fails for the smallest key that is refused. -/
theorem withEntries_eq_error {m : FrontMatter} {entries : List (String × Yaml.Value)}
    {problem : FrontMatterProblem} (htable : Ascending.IsTable entries) :
    m.withEntries entries = .error problem ↔ ∃ key value, (key, value) ∈ entries ∧
      (∀ entry ∈ entries, entry.1 < key → Acceptable entry) ∧ Offends key value problem := by
  rw [withEntries, foldlM_eq_error_iff]
  simp only [withEntry_eq_error]
  constructor
  · rintro ⟨before, ⟨key, value⟩, after, rfl, reached, hbefore, hoffends⟩
    obtain ⟨-, hrest, -⟩ := List.pairwise_append.mp htable
    obtain ⟨hafter, -⟩ := List.pairwise_cons.mp hrest
    refine ⟨key, value, List.mem_append_right _ (List.mem_cons_self ..), ?_, hoffends⟩
    intro entry hentry hlt
    rcases List.mem_append.mp hentry with hentry | hentry
    · exact exists_withEntries.mp ⟨reached, hbefore⟩ entry hentry
    · rcases List.mem_cons.mp hentry with rfl | hentry
      · exact absurd hlt (String.lt_irrefl key)
      · exact absurd hlt (String.lt_asymm (hafter entry hentry))
  · rintro ⟨key, value, hmem, hsmaller, hoffends⟩
    obtain ⟨before, after, rfl⟩ := List.append_of_mem hmem
    obtain ⟨-, -, hcross⟩ := List.pairwise_append.mp htable
    obtain ⟨reached, hreached⟩ := (exists_withEntries (m := m)).mpr fun entry hentry =>
      hsmaller entry (List.mem_append_left _ hentry) (hcross entry hentry _ (List.mem_cons_self ..))
    exact ⟨before, (key, value), after, rfl, reached, hreached, hoffends⟩

/-! ### Texts of front matter -/

theorem read_eq_withEntries {decode : List Char → Option (List (String × Yaml.Value))}
    {text : String} {entries : List (String × Yaml.Value)}
    (hblank : Text.isBlankText text = false)
    (hentries : decode text.toList = some entries) :
    read decode text =
      (withEntries {} (Ascending.ofEntries entries)).mapError .frontMatterShape := by
  have hentriesOf : ofEntries entries = withEntries {} (Ascending.ofEntries entries) := rfl
  rw [read, hblank, hentries, ← hentriesOf]
  cases h : ofEntries entries with
  | ok m => simp [h, Except.mapError]
  | error problem => simp [h, Except.mapError]

/-- **Front matter is accepted exactly if it is safe, and kept whole.** Text that holds a mapping is
accepted if and only if every entry is acceptable. Then the front matter has every key with its
texts and nothing else, and the layout and the imports are the texts under their keys. Otherwise the
text is refused for the entry with the smallest key that is not acceptable. -/
theorem read_acceptable {decode : List Char → Option (List (String × Yaml.Value))}
    {text : String} {entries : List (String × Yaml.Value)}
    (hblank : Text.isBlankText text = false)
    (hentries : decode text.toList = some entries) :
    ((∃ m, read decode text = .ok m) ↔ ∀ entry ∈ Ascending.ofEntries entries, Acceptable entry) ∧
    (∀ m, read decode text = .ok m → List.Forall₂ Keeps (Ascending.ofEntries entries) m.data ∧
      m.root = (Ascending.get? "root" m.data).map (·.headD "") ∧
      m.imports = (Ascending.get? "imports" m.data).getD []) ∧
    ∀ error, read decode text = .error error ↔ ∃ key value problem,
      (key, value) ∈ Ascending.ofEntries entries ∧
      (∀ entry ∈ Ascending.ofEntries entries, entry.1 < key → Acceptable entry) ∧
      Offends key value problem ∧ error = .frontMatterShape problem := by
  have htable := Ascending.pairwise_ofEntries entries
  rw [read_eq_withEntries hblank hentries]
  refine ⟨?_, fun m hm => ?_, fun error => ?_⟩
  · simp only [except_mapError_eq_ok]
    exact exists_withEntries
  · obtain ⟨hconsistent, added, hdata, hkeeps⟩ := withEntries_eq_ok consistent_empty htable
      (List.forall_mem_nil _) (except_mapError_eq_ok.mp hm)
    rw [List.nil_append] at hdata
    exact ⟨hdata ▸ hkeeps, hconsistent.root, hconsistent.imports⟩
  · rw [except_mapError_eq_error]
    simp only [withEntries_eq_error htable]
    constructor
    · rintro ⟨problem, ⟨key, value, hmem, hsmaller, hoffends⟩, rfl⟩
      exact ⟨key, value, problem, hmem, hsmaller, hoffends, rfl⟩
    · rintro ⟨key, value, problem, hmem, hsmaller, hoffends, rfl⟩
      exact ⟨problem, ⟨key, value, hmem, hsmaller, hoffends⟩, rfl⟩

theorem read_acceptable_of_layout : ∃ entries m,
    Yaml.topEntries? "root: .Wide\ntags: [a, 1]\n".toList = some entries ∧
    read Yaml.topEntries? "root: .Wide\ntags: [a, 1]\n" = .ok m ∧
    m.root = some ".Wide" ∧ m.imports = [] ∧
    (∀ entry ∈ Ascending.ofEntries entries, Acceptable entry) ∧
    List.Forall₂ Keeps (Ascending.ofEntries entries) m.data := by
  obtain ⟨entries, hentries⟩ := Option.isSome_iff_exists.mp (by decide +kernel :
    (Yaml.topEntries? "root: .Wide\ntags: [a, 1]\n".toList).isSome = true)
  have hread : read Yaml.topEntries? "root: .Wide\ntags: [a, 1]\n" =
      .ok ⟨some ".Wide", [], [("root", [".Wide"]), ("tags", ["a", "1"])]⟩ :=
    except_toOption_eq_some.mp (by decide +kernel)
  obtain ⟨haccepted, hkept, -⟩ := read_acceptable (by decide +kernel) hentries
  obtain ⟨hkeeps, -, -⟩ := hkept _ hread
  exact ⟨entries, _, hentries, hread, rfl, rfl, haccepted.mp ⟨_, hread⟩, hkeeps⟩

end FrontMatter

end MarkdownPages
