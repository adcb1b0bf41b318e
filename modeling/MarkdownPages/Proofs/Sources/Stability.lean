import Mathlib.Data.Finset.Card
import MarkdownPages.Proofs.Sources.History

/-!
# Documents are stable and shared

What is kept after some lookups is exactly what they handed out: a tree is kept under the canonical
path that was sought, and from then on it is handed out whenever that path is sought, whichever way
it is asked for and whatever the file holds by then. The file system may be another one at every
lookup.

There is one exception. With a document, a reference is handed the relative path, and if a name on
the way from the root has no text, there is none. Then the reference finds nothing, although it
leads to a document that is kept.

## Main definitions

* `Cache.HandedOut` — a tree that was handed out for a canonical path
* `Cache.Stable` — documents that stay, and are shared by all lookups

## Main results

* `Cache.mem_documents_answer`, `Cache.mem_documents_after` — what is kept is what was handed out
* `Cache.stable_after` — documents are stable and shared
* `Cache.not_shared_of_latin1Name` — a document that a reference leads to but does not find
-/

namespace MarkdownPages

namespace Cache

variable {cache after : Cache} {fs : FileSystem} {p : Path} {lookup : Lookup}
  {result : Except SourceError CachedTree}

/-! ### One lookup -/

/-- What is kept after a canonical path was looked up: what was kept before, and the result. -/
theorem LoadsTo.mem_documents_iff (h : cache.LoadsTo fs p result after) (hp : p.IsCanonical)
    (hcache : cache.Orderly) {entry : Path × CachedTree} :
    entry ∈ after.documents ↔
      entry ∈ cache.documents ∨ entry.1 = p ∧ result.toOption = some entry.2 := by
  obtain ⟨key, document⟩ := entry
  cases h with
  | kept hfind =>
    refine ⟨.inl, ?_⟩
    rintro (hold | ⟨rfl, hresult⟩)
    · exact hold
    · obtain rfl := Option.some.inj hresult
      exact (find?_eq_some_iff hcache hp).mp hfind
  | unread | refused =>
    refine ⟨.inl, ?_⟩
    rintro (hold | ⟨-, hresult⟩)
    · exact hold
    · cases hresult
  | parsed =>
    rw [List.mem_cons, or_comm, Prod.mk.injEq, eq_comm (a := document)]
    exact or_congr_right (and_congr_right fun _ => Option.some_inj.symm)

/-- A tree that is kept is the result whenever its path is looked up. -/
theorem LoadsTo.result_of_mem (h : cache.LoadsTo fs p result after) (hp : p.IsCanonical)
    (hcache : cache.Orderly) {document : CachedTree} (hkept : (p, document) ∈ cache.documents) :
    result = .ok document := by
  have hfound := (find?_eq_some_iff hcache hp).mpr hkept
  cases h with
  | kept hfind => rw [Option.some.inj (hfind.symm.trans hfound)]
  | unread hfind | refused hfind | parsed hfind =>
    rw [hfound] at hfind
    cases hfind

theorem LoadsTo.documents_of_failed (h : cache.LoadsTo fs p result after)
    (hresult : result.toOption = none) : after.documents = cache.documents := by
  cases h with
  | kept | unread | refused => rfl
  | parsed => cases hresult

theorem isSuffix_documents_answer (cache : Cache) (lookup : Lookup) :
    cache.documents <:+ (cache.answer lookup).2.documents := by
  rcases cache.answer_cases lookup with ⟨-, -, hafter⟩ | ⟨p, result, after, -, -, rfl, hload⟩
  · rw [hafter]
  · exact hload.isSuffix

/-- A lookup that fails leaves what is kept as it is. -/
theorem documents_answer_of_failed (h : (cache.answer lookup).1.document? = none) :
    (cache.answer lookup).2.documents = cache.documents := by
  rcases cache.answer_cases lookup with
    ⟨-, -, hafter⟩ | ⟨p, result, after, -, hdocument, rfl, hload⟩
  · rw [hafter]
  · exact hload.documents_of_failed (hdocument.symm.trans h)

/-- **One lookup.** What is kept after it is what was kept before and what it hands out. -/
theorem mem_documents_answer (hcache : cache.Orderly) (hlookup : lookup.files.isProper = true)
    {entry : Path × CachedTree} : entry ∈ (cache.answer lookup).2.documents ↔
      entry ∈ cache.documents ∨
        lookup.Seeks cache.roots entry.1 ∧ (cache.answer lookup).1.document? = some entry.2 := by
  rcases cache.answer_cases lookup with
    ⟨-, hdocument, hafter⟩ | ⟨p, result, after, hsought, hdocument, rfl, hload⟩
  · rw [hafter, hdocument]
    simp
  · have hseeks := Lookup.seeks_of_sought? hsought
    have hp := Lookup.isCanonical_of_sought? hlookup hsought
    have hsame : lookup.Seeks cache.roots entry.1 ↔ entry.1 = p :=
      ⟨fun h => h.unique hseeks, fun h => h ▸ hseeks⟩
    rw [hdocument, hsame, hload.mem_documents_iff hp hcache]

/-- A tree that is kept is handed out whenever its path is sought, unless the path cannot be
told. -/
theorem document?_of_mem (hroots : ∀ root ∈ cache.roots.paths, root.IsCanonical)
    (hcache : cache.Orderly) (hlookup : lookup.files.isProper = true)
    (hseeks : lookup.Seeks cache.roots p) {document : CachedTree}
    (hkept : (p, document) ∈ cache.documents) :
    (cache.answer lookup).1.document? = some document ↔ lookup.HasTextFor cache.roots p := by
  have hsought := Lookup.sought?_eq_some hroots hlookup (p := p)
  rw [and_iff_right hseeks] at hsought
  rw [← hsought]
  rcases cache.answer_cases lookup with
    ⟨hnone, hdocument, -⟩ | ⟨q, result, after, hq, hdocument, -, hload⟩
  · rw [hnone, hdocument]
    simp
  · have hp := Lookup.isCanonical_of_sought? hlookup hq
    obtain rfl := (Lookup.seeks_of_sought? hq).unique hseeks
    rw [hdocument, hload.result_of_mem hp hcache hkept, hq]
    simp [Except.toOption]

/-! ### Lookups one after the other -/

/-- One of the lookups handed out a tree for a canonical path. -/
def HandedOut (cache : Cache) (lookups : List Lookup) (p : Path) (document : CachedTree) : Prop :=
  ∃ exchange ∈ cache.exchanges lookups,
    exchange.1.Seeks cache.roots p ∧ exchange.2.document? = some document

theorem handedOut_cons {rest : List Lookup} {document : CachedTree} :
    cache.HandedOut (lookup :: rest) p document ↔
      lookup.Seeks cache.roots p ∧ (cache.answer lookup).1.document? = some document ∨
        (cache.answer lookup).2.HandedOut rest p document := by
  simp only [HandedOut, exchanges_cons, List.mem_cons, exists_eq_or_imp, answer_roots]

theorem isSuffix_documents_after (cache : Cache) (lookups : List Lookup) :
    cache.documents <:+ (cache.after lookups).documents :=
  after_induction (motive := fun later => cache.documents <:+ later.documents)
    (List.suffix_refl _)
    fun lookup _ earlier h => h.trans (earlier.isSuffix_documents_answer lookup)

/-- **Histories.** What is kept after lookups is what was kept before and what they handed out. -/
theorem mem_documents_after (hcache : cache.Orderly) {lookups : List Lookup}
    (hlookups : ∀ lookup ∈ lookups, lookup.files.isProper = true) {entry : Path × CachedTree} :
    entry ∈ (cache.after lookups).documents ↔
      entry ∈ cache.documents ∨ cache.HandedOut lookups entry.1 entry.2 := by
  induction lookups generalizing cache with
  | nil => simp [HandedOut]
  | cons lookup rest ih =>
    obtain ⟨hlookup, hrest⟩ := List.forall_mem_cons.mp hlookups
    rw [after_cons, ih (answer_orderly hcache hlookup) hrest,
      mem_documents_answer hcache hlookup, handedOut_cons, or_assoc]

/-- Documents that stay as they are after lookups, and are shared by all that are made later. -/
structure Stable (fresh : Cache) (lookups : List Lookup) : Prop where
  /-- Nothing is removed or replaced. -/
  kept : ∀ more, (fresh.after lookups).documents <:+ (fresh.after (lookups ++ more)).documents
  /-- A lookup that fails leaves what is kept as it is. -/
  failed : ∀ next, ((fresh.after lookups).answer next).1.document? = none →
    ((fresh.after lookups).answer next).2.documents = (fresh.after lookups).documents
  /-- Whatever seeks a path whose tree was handed out is given the same tree, unless it is a
  reference and a name on the way from the root has no text. -/
  shared : ∀ p document, fresh.HandedOut lookups p document → ∀ next : Lookup,
    next.files.isProper = true → next.Seeks fresh.roots p →
      (((fresh.after lookups).answer next).1.document? = some document ↔
        next.HasTextFor fresh.roots p)
  /-- No two paths have the same tree, even if their trees are equal. -/
  numbered : ∀ p q document other, fresh.HandedOut lookups p document →
    fresh.HandedOut lookups q other → document.number = other.number → p = q
  /-- As many trees are kept as there are paths whose trees were handed out. -/
  counted : ∃ paths : Finset Path,
    (∀ p, p ∈ paths ↔ ∃ document, fresh.HandedOut lookups p document) ∧
      (fresh.after lookups).size = paths.card

/-- **Stability.** However the file system changes between lookups, each canonical path has one
tree, from the first time on that it is handed out. -/
theorem stable_after (parse : String → Except DocumentError Node) {start : FileSystem}
    {paths : List Path} {roots : Roots} {lookups : List Lookup} (hstart : start.isProper = true)
    (hroots : Roots.ofPaths start paths = .ok roots)
    (hlookups : ∀ lookup ∈ lookups, lookup.files.isProper = true) :
    Stable { parse := parse, roots := roots } lookups := by
  have hcanonical := Roots.isCanonical_of_ofPaths hstart hroots
  have hempty := orderly_empty parse roots
  generalize hfresh : ({ parse := parse, roots := roots } : Cache) = fresh at hempty ⊢
  have hafterRoots : ∀ root ∈ (fresh.after lookups).roots.paths, root.IsCanonical := by
    rwa [after_roots, ← hfresh]
  have horderly := orderly_after hempty hlookups
  have hkept : ∀ p document,
      (p, document) ∈ (fresh.after lookups).documents ↔ fresh.HandedOut lookups p document := by
    intro p document
    rw [mem_documents_after hempty hlookups, ← hfresh]
    simp
  refine ⟨fun more => ?_, fun next => documents_answer_of_failed,
    fun p document hhanded next hnext hseeks => ?_, fun p q document other hp hq hnumber => ?_,
    (fresh.after lookups).keys.toFinset, fun p => ?_, ?_⟩
  · rw [after_append]
    exact isSuffix_documents_after _ more
  · rw [← after_roots fresh lookups] at hseeks ⊢
    exact document?_of_mem hafterRoots horderly hnext hseeks ((hkept p document).mpr hhanded)
  · have heq := horderly.eq_of_number ((hkept p document).mpr hp) ((hkept q other).mpr hq) hnumber
    exact (Prod.mk.inj heq).1
  · simp only [← hkept]
    simp [keys]
  · rw [List.toFinset_card_of_nodup horderly.distinct, keys, List.length_map, size]

/-- A directory with a document that has some text, and a link to it. -/
private def revisedDocs (text : String) : FileSystem where
  top := .directory [
    ("docs", .directory [
      ("alias.md", .link ⟨"index.md"⟩),
      ("index.md", .file (.text text))])]

/-- A document that is changed between two lookups stays what it was, also for a link to it. -/
theorem stable_after_of_revision :
    let parse : String → Except DocumentError Node := fun text => .ok (.leaf (.text text))
    let roots : Roots := ⟨[⟨"/docs"⟩]⟩
    let lookups := [
      ⟨revisedDocs "Hi", .document ⟨"docs/index.md"⟩⟩, ⟨revisedDocs "Ho", .reference "alias.md"⟩]
    ((revisedDocs "Hi").isProper = true ∧
        Roots.ofPaths (revisedDocs "Hi") [⟨"docs"⟩] = .ok roots ∧
        ∀ lookup ∈ lookups, lookup.files.isProper = true) ∧
      ((answerAll { parse := parse, roots := roots } lookups).1.filterMap fun answer =>
        answer.document?.map fun document => (document.number, document.tree.literal?)) =
          [(0, some "Hi"), (0, some "Hi")] ∧
      Stable { parse := parse, roots := roots } lookups := by
  have hstart : (revisedDocs "Hi").isProper = true := by decide +kernel
  have hroots : Roots.ofPaths (revisedDocs "Hi") [⟨"docs"⟩] = .ok ⟨[⟨"/docs"⟩]⟩ := by
    decide +kernel
  have hlookups : ∀ lookup ∈ ([⟨revisedDocs "Hi", .document ⟨"docs/index.md"⟩⟩,
      ⟨revisedDocs "Ho", .reference "alias.md"⟩] : List Lookup),
      lookup.files.isProper = true := by
    decide +kernel
  exact ⟨⟨hstart, hroots, hlookups⟩, by decide +kernel, stable_after _ hstart hroots hlookups⟩

/-- A directory with a document whose name has no text, and a link to it. -/
private def latin1Docs : FileSystem where
  top := .directory [
    ("docs", .directory [
      ("alias.md", .link ⟨RawText.latin1Name⟩),
      (RawText.latin1Name, .file (.text "Hi"))])]

/-- A document whose name has no text is handed out for its path, and then not to a reference that
leads to it. -/
theorem not_shared_of_latin1Name :
    let parse : String → Except DocumentError Node := fun text => .ok (.leaf (.text text))
    let fresh : Cache := { parse := parse, roots := ⟨[⟨"/docs"⟩]⟩ }
    let lookup : Lookup := ⟨latin1Docs, .document (Path.child ⟨"docs"⟩ RawText.latin1Name)⟩
    let next : Lookup := ⟨latin1Docs, .reference "alias.md"⟩
    latin1Docs.isProper = true ∧
      Roots.ofPaths latin1Docs [⟨"docs"⟩] = .ok fresh.roots ∧
      ∃ p document, fresh.HandedOut [lookup] p document ∧ next.Seeks fresh.roots p ∧
        ((fresh.after [lookup]).answer next).1.document? = none := by
  intro parse fresh lookup next
  have hfound : (fresh.answer lookup).1.document?.isSome = true := by decide +kernel
  obtain ⟨document, hdocument⟩ := Option.isSome_iff_exists.mp hfound
  have hlookup : lookup.sought? fresh.roots = some (.ofNames ["docs", RawText.latin1Name]) := by
    decide +kernel
  have hnext : fresh.roots.resolve? next.files ⟨"alias.md"⟩ =
      some (.ofNames ["docs", RawText.latin1Name]) := by decide +kernel
  have hnothing : ((fresh.after [lookup]).answer next).1.document?.isSome = false := by
    decide +kernel
  refine ⟨by decide +kernel, by decide +kernel, _, document,
    ⟨_, List.mem_singleton_self _, Lookup.seeks_of_sought? hlookup, hdocument⟩,
    Roots.resolve?_eq_some.mp hnext, by simpa using hnothing⟩

end Cache

end MarkdownPages
