import Mathlib.Data.List.Nodup
import MarkdownPages.Proofs.Sequences
import MarkdownPages.Proofs.Sources.Relative
import MarkdownPages.Proofs.Sources.Roots

/-!
# What happens to the cache over time

However a document is asked for, by its path or from the roots, there is at most one canonical path
that the cache is looked up under. If there is none, the cache stays as it is. Otherwise all that
matters of the lookup is that path and the file system as it is then. So a history of lookups is a
history of canonical paths, which is what the facts about one lookup are put together by.

## Main definitions

* `Lookup.sought?` — the canonical path that a lookup asks the cache for
* `Lookup.Seeks` — the canonical path that a lookup leads to
* `Cache.after`, `Cache.exchanges` — the cache after lookups, and their answers
* `Cache.Orderly` — each canonical path is kept once, with a number of its own

## Main results

* `Cache.answer_cases` — the ways in which a lookup can go
* `Lookup.sought?_eq_some` — which canonical path is asked for
* `Cache.after_induction` — what every lookup keeps holds after all of them
* `Cache.orderly_after` — a cache is orderly after any lookups
-/

namespace MarkdownPages

/-! ### Paths below canonical roots -/

namespace Roots

variable {fs : FileSystem} {roots : Roots} {p : Path}

theorem isCanonical_of_ofPaths (hfs : fs.isProper = true) {paths : List Path}
    (h : ofPaths fs paths = .ok roots) : ∀ root ∈ roots.paths, root.IsCanonical := by
  intro root hroot
  obtain ⟨path, -, place, -, hitem, rfl⟩ := (ofPaths_eq_ok h).2 root hroot
  exact ⟨place, rfl, FileSystem.isName_of_item? hfs hitem⟩

end Roots

/-! ### What a lookup asks for -/

namespace Lookup

variable {roots : Roots} {lookup : Lookup} {p : Path}

/-- The canonical path that a lookup asks the cache for, if it gets that far. -/
def sought? (roots : Roots) (lookup : Lookup) : Option Path :=
  match lookup.question with
  | .document path => (lookup.files.canonicalPath path).toOption.filter roots.contains
  | .reference text =>
    (roots.resolve? lookup.files ⟨text⟩).filter fun p => (roots.relativePath? p).isSome

/-- A lookup is about a canonical path below the roots. A reference has to lead to a file. -/
def Seeks (roots : Roots) (lookup : Lookup) (p : Path) : Prop :=
  match lookup.question with
  | .document path => lookup.files.canonicalPath path = .ok p ∧ roots.Holds p
  | .reference text => roots.Resolves lookup.files ⟨text⟩ p

/-- A reference hands a document out with its relative path, so the names on the way there have to
have texts. -/
def HasTextFor (roots : Roots) (lookup : Lookup) (p : Path) : Prop :=
  match lookup.question with
  | .document _ => True
  | .reference _ => roots.HasText p

theorem Seeks.unique {q : Path} (h : lookup.Seeks roots p) (h' : lookup.Seeks roots q) :
    p = q := by
  obtain ⟨files, question⟩ := lookup
  cases question with
  | document path => exact Except.ok.inj (h.1.symm.trans h'.1)
  | reference text =>
    exact Option.some.inj
      ((Roots.resolve?_eq_some.mpr h).symm.trans (Roots.resolve?_eq_some.mpr h'))

theorem seeks_of_sought? (h : lookup.sought? roots = some p) : lookup.Seeks roots p := by
  obtain ⟨files, question⟩ := lookup
  cases question with
  | document path =>
    obtain ⟨hcanonical, hcontains⟩ := Option.filter_eq_some_iff.mp h
    exact ⟨except_toOption_eq_some.mp hcanonical, Roots.contains_iff.mp hcontains⟩
  | reference text => exact Roots.resolve?_eq_some.mp (Option.filter_eq_some_iff.mp h).1

/-- What is sought is a canonical path. -/
theorem Seeks.isCanonical (h : lookup.Seeks roots p) (hlookup : lookup.files.isProper = true) :
    p.IsCanonical := by
  obtain ⟨files, question⟩ := lookup
  cases question with
  | document path => exact (FileSystem.canonical_of_canonicalPath hlookup h.1).1
  | reference text =>
    obtain ⟨path, hcanonical⟩ := Roots.Resolves.exists_canonicalPath h
    exact (FileSystem.canonical_of_canonicalPath hlookup hcanonical).1

theorem isCanonical_of_sought? (hlookup : lookup.files.isProper = true)
    (h : lookup.sought? roots = some p) : p.IsCanonical := (seeks_of_sought? h).isCanonical hlookup

/-- **What is asked for.** From canonical roots a lookup gets as far as the canonical path that it
is about, unless it is a reference and the path cannot be told in text. -/
theorem sought?_eq_some (hroots : ∀ root ∈ roots.paths, root.IsCanonical)
    (hlookup : lookup.files.isProper = true) :
    lookup.sought? roots = some p ↔ lookup.Seeks roots p ∧ lookup.HasTextFor roots p := by
  constructor
  · intro h
    have hseeks := seeks_of_sought? h
    have hp := hseeks.isCanonical hlookup
    obtain ⟨files, question⟩ := lookup
    cases question with
    | document path => exact ⟨hseeks, trivial⟩
    | reference text =>
      have hrelative := (Option.filter_eq_some_iff.mp h).2
      exact ⟨hseeks, ((Roots.isSome_relativePath?_iff hroots hp).mp hrelative).2⟩
  · rintro ⟨hseeks, htext⟩
    have hp := hseeks.isCanonical hlookup
    obtain ⟨files, question⟩ := lookup
    cases question with
    | document path =>
      exact Option.filter_eq_some_iff.mpr
        ⟨except_toOption_eq_some.mpr hseeks.1, Roots.contains_iff.mpr hseeks.2⟩
    | reference text =>
      have hholds := Roots.Resolves.holds hseeks
      exact Option.filter_eq_some_iff.mpr ⟨Roots.resolve?_eq_some.mpr hseeks,
        (Roots.isSome_relativePath?_iff hroots hp).mpr ⟨hholds, htext⟩⟩

end Lookup

/-- The tree that is handed out. -/
def Answer.document? : Answer → Option CachedTree
  | .document result => result.toOption
  | .reference found => found.map Cache.Found.document

namespace Cache

variable {cache : Cache} {lookup : Lookup} {p : Path}

/-- **Lookups.** If nothing is sought, nothing is handed out and the cache stays as it is. What is
sought is looked up. -/
theorem answer_cases (cache : Cache) (lookup : Lookup) :
    (lookup.sought? cache.roots = none ∧ (cache.answer lookup).1.document? = none ∧
      (cache.answer lookup).2 = cache) ∨
    ∃ p result after, lookup.sought? cache.roots = some p ∧
      (cache.answer lookup).1.document? = result.toOption ∧ (cache.answer lookup).2 = after ∧
      cache.LoadsTo lookup.files p result after := by
  obtain ⟨files, question⟩ := lookup
  cases question with
  | document path =>
    rw [answer, Lookup.sought?]
    dsimp only
    rw [get]
    cases hcanonical : files.canonicalPath path with
    | error fault => exact .inl ⟨rfl, rfl, rfl⟩
    | ok canonical =>
      dsimp only
      by_cases hcontains : cache.roots.contains canonical = true
      · rw [if_pos hcontains]
        exact .inr ⟨canonical, _, _, Option.filter_eq_some_iff.mpr ⟨rfl, hcontains⟩, rfl, rfl,
          cache.loadsTo_load files canonical⟩
      · rw [if_neg hcontains]
        exact .inl ⟨Option.filter_eq_none_iff.mpr fun p hp => Option.some.inj hp ▸ hcontains,
          rfl, rfl⟩
  | reference text =>
    rw [answer, Lookup.sought?]
    dsimp only
    rw [getRelative?]
    cases cache.roots.resolve? files ⟨text⟩ with
    | none => exact .inl ⟨rfl, rfl, rfl⟩
    | some canonical =>
      dsimp only
      cases hrelative : cache.roots.relativePath? canonical with
      | none =>
        refine .inl ⟨Option.filter_eq_none_iff.mpr fun p hp => ?_, rfl, rfl⟩
        rw [← Option.some.inj hp, hrelative]
        simp
      | some relativePath =>
        have hload := cache.loadsTo_load files canonical
        dsimp only
        generalize cache.load files canonical = loaded at hload ⊢
        obtain ⟨result, after⟩ := loaded
        refine .inr ⟨canonical, result, after,
          Option.filter_eq_some_iff.mpr ⟨rfl, by rw [hrelative]; rfl⟩, ?_⟩
        cases result with
        | error error => exact ⟨rfl, rfl, hload⟩
        | ok document => exact ⟨rfl, rfl, hload⟩

/-! ### Lookups one after the other -/

/-- The cache after lookups one after the other. -/
def after (cache : Cache) (lookups : List Lookup) : Cache := (cache.answerAll lookups).2

/-- Lookups one after the other, each with its answer. -/
def exchanges (cache : Cache) (lookups : List Lookup) : List (Lookup × Answer) :=
  lookups.zip (cache.answerAll lookups).1

@[simp] theorem after_nil (cache : Cache) : cache.after [] = cache := rfl

@[simp] theorem after_cons (cache : Cache) (lookup : Lookup) (rest : List Lookup) :
    cache.after (lookup :: rest) = (cache.answer lookup).2.after rest := rfl

theorem after_append (cache : Cache) (lookups more : List Lookup) :
    cache.after (lookups ++ more) = (cache.after lookups).after more := by
  induction lookups generalizing cache with
  | nil => rfl
  | cons lookup rest ih => rw [List.cons_append, after_cons, after_cons, ih]

/-- What every lookup keeps holds after all of them. -/
theorem after_induction {motive : Cache → Prop} {lookups : List Lookup} (hcache : motive cache)
    (hanswer : ∀ lookup ∈ lookups, ∀ earlier, motive earlier → motive (earlier.answer lookup).2) :
    motive (cache.after lookups) := by
  induction lookups generalizing cache with
  | nil => exact hcache
  | cons lookup rest ih =>
    obtain ⟨hfirst, hrest⟩ := List.forall_mem_cons.mp hanswer
    exact ih (hfirst cache hcache) hrest

@[simp] theorem exchanges_nil (cache : Cache) : cache.exchanges [] = [] := rfl

@[simp] theorem exchanges_cons (cache : Cache) (lookup : Lookup) (rest : List Lookup) :
    cache.exchanges (lookup :: rest) =
      (lookup, (cache.answer lookup).1) :: (cache.answer lookup).2.exchanges rest := rfl

/-! ### An orderly cache -/

/-- The canonical paths whose trees are kept. -/
def keys (cache : Cache) : List Path := cache.documents.map Prod.fst

/-- Each canonical path is kept once, and the trees are numbered in the order in which they came. -/
structure Orderly (cache : Cache) : Prop where
  canonical : ∀ entry ∈ cache.documents, entry.1.IsCanonical
  distinct : cache.keys.Nodup
  numbered : cache.documents.map (fun entry => entry.2.number) =
    (List.range cache.size).reverse

theorem orderly_empty (parse : String → Except DocumentError Node) (roots : Roots) :
    Orderly { parse := parse, roots := roots } :=
  ⟨by simp, List.nodup_nil, rfl⟩

/-- A document is found under the path that it is kept under. -/
theorem find?_eq_some_iff (hcache : cache.Orderly) (hp : p.IsCanonical)
    {document : CachedTree} : cache.find? p = some document ↔ (p, document) ∈ cache.documents := by
  constructor
  · intro h
    obtain ⟨key, hsame, hmem⟩ := mem_of_find? h
    rwa [hp.eq_of_same (hcache.canonical _ hmem) hsame]
  · intro h
    have hfound : (cache.find? p).isSome := by
      rw [find?, Option.isSome_map, List.find?_isSome]
      exact ⟨_, h, by simp [Path.same]⟩
    obtain ⟨other, hother⟩ := Option.isSome_iff_exists.mp hfound
    obtain ⟨key, hsame, hmem⟩ := mem_of_find? hother
    obtain rfl := hp.eq_of_same (hcache.canonical _ hmem) hsame
    have heq := List.inj_on_of_nodup_map hcache.distinct hmem h rfl
    rw [hother, (Prod.mk.inj heq).2]

theorem mem_keys_of_find? (hcache : cache.Orderly) (hp : p.IsCanonical) {document : CachedTree}
    (h : cache.find? p = some document) : p ∈ cache.keys :=
  List.mem_map_of_mem ((find?_eq_some_iff hcache hp).mp h)

theorem find?_eq_none_iff (hcache : cache.Orderly) (hp : p.IsCanonical) :
    cache.find? p = none ↔ p ∉ cache.keys := by
  rw [Option.eq_none_iff_forall_ne_some]
  simp only [ne_eq, find?_eq_some_iff hcache hp]
  simp [keys]

/-- A number is the number of one tree. -/
theorem Orderly.eq_of_number (hcache : cache.Orderly) {entry other : Path × CachedTree}
    (hentry : entry ∈ cache.documents) (hother : other ∈ cache.documents)
    (h : entry.2.number = other.2.number) : entry = other := by
  have hnodup : (cache.documents.map fun entry => entry.2.number).Nodup := by
    rw [hcache.numbered]
    exact List.nodup_reverse.mpr List.nodup_range
  exact List.inj_on_of_nodup_map hnodup hentry hother h

/-- What a lookup adds comes before all that is kept. -/
theorem LoadsTo.isSuffix {fs : FileSystem} {result : Except SourceError CachedTree}
    {after : Cache} (h : cache.LoadsTo fs p result after) :
    cache.documents <:+ after.documents := by
  cases h with
  | kept | unread | refused => exact List.suffix_refl _
  | parsed => exact List.suffix_cons ..

theorem LoadsTo.orderly {fs : FileSystem} {result : Except SourceError CachedTree}
    {after : Cache} (h : cache.LoadsTo fs p result after) (hp : p.IsCanonical)
    (hcache : cache.Orderly) : after.Orderly := by
  cases h with
  | kept | unread => exact hcache
  | refused => exact ⟨hcache.canonical, hcache.distinct, hcache.numbered⟩
  | parsed hfind =>
    refine ⟨List.forall_mem_cons.mpr ⟨hp, hcache.canonical⟩, ?_, ?_⟩
    · exact List.nodup_cons.mpr ⟨(find?_eq_none_iff hcache hp).mp hfind, hcache.distinct⟩
    · have hrange : (List.range (cache.size + 1)).reverse =
          cache.size :: (List.range cache.size).reverse := by
        rw [List.range_succ, List.reverse_append]
        rfl
      rw [List.map_cons, hcache.numbered]
      exact hrange.symm

theorem answer_roots (cache : Cache) (lookup : Lookup) :
    (cache.answer lookup).2.roots = cache.roots := by
  rcases cache.answer_cases lookup with ⟨-, -, hafter⟩ | ⟨p, result, after, -, -, rfl, hload⟩
  · rw [hafter]
  · exact hload.loads.1.roots

theorem answer_parse (cache : Cache) (lookup : Lookup) :
    (cache.answer lookup).2.parse = cache.parse := by
  rcases cache.answer_cases lookup with ⟨-, -, hafter⟩ | ⟨p, result, after, -, -, rfl, hload⟩
  · rw [hafter]
  · exact hload.loads.1.parse

theorem answer_orderly (hcache : cache.Orderly) (hlookup : lookup.files.isProper = true) :
    (cache.answer lookup).2.Orderly := by
  rcases cache.answer_cases lookup with
    ⟨-, -, hafter⟩ | ⟨p, result, after, hsought, -, rfl, hload⟩
  · rwa [hafter]
  · exact hload.orderly (Lookup.isCanonical_of_sought? hlookup hsought) hcache

theorem after_roots (cache : Cache) (lookups : List Lookup) :
    (cache.after lookups).roots = cache.roots :=
  after_induction (motive := fun later => later.roots = cache.roots) rfl
    fun lookup _ earlier h => (answer_roots earlier lookup).trans h

/-- **Histories.** An orderly cache is orderly after any lookups. -/
theorem orderly_after (hcache : cache.Orderly) {lookups : List Lookup}
    (hlookups : ∀ lookup ∈ lookups, lookup.files.isProper = true) :
    (cache.after lookups).Orderly :=
  after_induction hcache fun lookup hlookup _ h => answer_orderly h (hlookups lookup hlookup)

end Cache

end MarkdownPages
