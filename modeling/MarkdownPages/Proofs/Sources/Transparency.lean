import MarkdownPages.Markup.Parse
import MarkdownPages.Proofs.Page.Cached
import MarkdownPages.Proofs.Sources.History

/-!
# The cache is transparent

As long as files do not change, what is kept is what would be read and parsed again. So a lookup
comes to the same whether or not anything is kept, and a page comes out the same whatever was looked
up before and whichever pages were rendered before. Only the numbers of trees tell caches apart, and
nothing looks at them.

## Main definitions

* `Cache.contents` — the document at a canonical path, read and parsed
* `Answer.Outcome`, `Answer.outcome` — an answer in which equal trees are not told apart
* `Lookup.outcome` — what a lookup comes to if nothing is kept
* `Cache.afterPages` — the cache after pages were rendered

## Main results

* `Cache.outcome_answer` — what is kept makes no difference to a lookup
* `Cache.outcome_after` — what is kept makes no difference to lookups and pages
-/

namespace MarkdownPages

/-- An answer in which equal trees are not told apart. -/
inductive Answer.Outcome where
  | document (result : Except SourceError Node)
  | reference (found : Option ResolvedDocument)

/-- What an answer comes to. -/
def Answer.outcome : Answer → Answer.Outcome
  | .document result => .document (result.map CachedTree.tree)
  | .reference found => .reference (found.map Cache.Found.resolved)

namespace Cache

/-- The document at a canonical path, read and parsed. -/
def contents (parse : String → Except DocumentError Node) (fs : FileSystem) (canonical : Path) :
    Except SourceError Node :=
  match fs.read canonical with
  | .error fault => .error (.read canonical fault)
  | .ok text => (parse text).mapError (.parse canonical)

end Cache

/-- What a lookup comes to if nothing is kept. -/
def Lookup.outcome (parse : String → Except DocumentError Node) (roots : Roots)
    (lookup : Lookup) : Answer.Outcome :=
  match lookup.question with
  | .document path =>
    .document <|
      match lookup.files.canonicalPath path with
      | .error fault => .error (.read path fault)
      | .ok canonical =>
        if roots.contains canonical then Cache.contents parse lookup.files canonical
        else .error (.outsideRoots canonical)
  | .reference text =>
    .reference do
      let canonical ← roots.resolve? lookup.files ⟨text⟩
      let relativePath ← roots.relativePath? canonical
      let tree ← (Cache.contents parse lookup.files canonical).toOption
      return { path := canonical, relativePath := relativePath, tree := tree }

namespace Cache

variable {cache later : Cache} {fs : FileSystem} {p : Path}

/-! ### One lookup -/

/-- The result of looking a canonical path up is what reading and parsing would give. -/
theorem LoadsTo.map_tree {result : Except SourceError CachedTree}
    (h : cache.LoadsTo fs p result later) (hp : p.IsCanonical) (hcache : cache.Faithful fs) :
    result.map CachedTree.tree = contents cache.parse fs p := by
  rw [contents]
  cases h with
  | kept hfind =>
    obtain ⟨key, hsame, hmem⟩ := mem_of_find? hfind
    obtain ⟨hkey, text, hread, hparse⟩ := hcache _ hmem
    obtain rfl := hp.eq_of_same hkey hsame
    rw [hread]
    dsimp only
    rw [hparse]
    rfl
  | unread _ hread =>
    rw [hread]
    rfl
  | refused _ hread hparse | parsed _ hread hparse =>
    rw [hread]
    dsimp only
    rw [hparse]
    rfl

/-- A document asked for by its path is what reading and parsing would give. -/
theorem map_tree_get (hcache : cache.Faithful fs) (hfs : fs.isProper = true) (path : Path) :
    (cache.get fs path).1.map CachedTree.tree =
      match fs.canonicalPath path with
      | .error fault => .error (.read path fault)
      | .ok canonical =>
        if cache.roots.contains canonical then contents cache.parse fs canonical
        else .error (.outsideRoots canonical) := by
  rw [get]
  cases hcanonical : fs.canonicalPath path with
  | error fault => rfl
  | ok canonical =>
    have hp := (FileSystem.canonical_of_canonicalPath hfs hcanonical).1
    dsimp only
    split
    · exact (cache.loadsTo_load fs canonical).map_tree hp hcache
    · rfl

/-- A document asked for by a reference is found exactly if reading and parsing would give it. -/
theorem map_resolved_getRelative? (hcache : cache.Faithful fs) (hfs : fs.isProper = true)
    (text : String) : (cache.getRelative? fs text).1.map Found.resolved = (do
      let canonical ← cache.roots.resolve? fs ⟨text⟩
      let relativePath ← cache.roots.relativePath? canonical
      let tree ← (contents cache.parse fs canonical).toOption
      return { path := canonical, relativePath := relativePath, tree := tree }) := by
  rw [getRelative?]
  cases hresolve : cache.roots.resolve? fs ⟨text⟩ with
  | none => rfl
  | some canonical =>
    obtain ⟨path, hcanonical⟩ := (Roots.resolve?_eq_some.mp hresolve).exists_canonicalPath
    have hp := (FileSystem.canonical_of_canonicalPath hfs hcanonical).1
    simp only [Option.bind_eq_bind, Option.bind_some]
    cases cache.roots.relativePath? canonical with
    | none => rfl
    | some relativePath =>
      rw [Option.bind_some, ← (cache.loadsTo_load fs canonical).map_tree hp hcache]
      dsimp only
      obtain ⟨result, after⟩ := cache.load fs canonical
      cases result with
      | error error => rfl
      | ok document => rfl

/-- **One lookup.** What is kept makes no difference, if it is what would be read and parsed. -/
theorem outcome_answer (lookup : Lookup) (hcache : cache.Faithful lookup.files)
    (hlookup : lookup.files.isProper = true) :
    (cache.answer lookup).1.outcome = lookup.outcome cache.parse cache.roots := by
  obtain ⟨files, question⟩ := lookup
  cases question with
  | document path => exact congrArg Answer.Outcome.document (map_tree_get hcache hlookup path)
  | reference text =>
    exact congrArg Answer.Outcome.reference (map_resolved_getRelative? hcache hlookup text)

theorem answer_faithful (lookup : Lookup) (hcache : cache.Faithful lookup.files)
    (hlookup : lookup.files.isProper = true) :
    (cache.answer lookup).2.Faithful lookup.files := by
  rcases cache.answer_cases lookup with
    ⟨-, -, hafter⟩ | ⟨p, result, after, hsought, -, rfl, hload⟩
  · rwa [hafter]
  · exact hload.loads.1.faithful (Lookup.isCanonical_of_sought? hlookup hsought) hcache

/-! ### Caches that cannot be told apart -/

/-- A cache over some roots that keeps nothing but what would be read and parsed. -/
structure Serves (parse : String → Except DocumentError Node) (roots : Roots) (fs : FileSystem)
    (cache : Cache) : Prop where
  parse_eq : cache.parse = parse
  roots_eq : cache.roots = roots
  faithful : cache.Faithful fs

section Serves

variable {parse : String → Except DocumentError Node} {roots : Roots}

theorem serves_empty (parse : String → Except DocumentError Node) (roots : Roots)
    (fs : FileSystem) : Serves parse roots fs { parse := parse, roots := roots } :=
  ⟨rfl, rfl, by simp [Faithful]⟩

variable (hfs : fs.isProper = true)

include hfs

theorem Serves.outcome_eq (h : cache.Serves parse roots fs) (question : Question) :
    (cache.answer ⟨fs, question⟩).1.outcome = Lookup.outcome parse roots ⟨fs, question⟩ := by
  rw [outcome_answer ⟨fs, question⟩ h.faithful hfs, h.parse_eq, h.roots_eq]

theorem Serves.answer (h : cache.Serves parse roots fs) (question : Question) :
    (cache.answer ⟨fs, question⟩).2.Serves parse roots fs where
  parse_eq := by rw [answer_parse, h.parse_eq]
  roots_eq := by rw [answer_roots, h.roots_eq]
  faithful := answer_faithful ⟨fs, question⟩ h.faithful hfs

theorem Serves.after (h : cache.Serves parse roots fs) (questions : List Question) :
    (cache.after (questions.map (Lookup.mk fs))).Serves parse roots fs := by
  refine after_induction h fun lookup hlookup earlier hearlier => ?_
  obtain ⟨question, -, rfl⟩ := List.mem_map.mp hlookup
  exact hearlier.answer hfs question

/-- To rendering, all caches that serve the same documents are the same. -/
theorem follows_of_serves : Resolver.Follows
    (fun cache other => Serves parse roots fs cache ∧ Serves parse roots fs other)
    (resolver fs) (resolver fs) := by
  intro text cache other h
  have houtcome := (h.2.outcome_eq hfs (.reference text)).trans
    (h.1.outcome_eq hfs (.reference text)).symm
  exact ⟨Answer.Outcome.reference.inj houtcome, h.1.answer hfs (.reference text),
    h.2.answer hfs (.reference text)⟩

theorem Serves.page (h : cache.Serves parse roots fs) (tree : Node) (context : Context) :
    (cache.page fs tree context).2.2.Serves parse roots fs :=
  (page_alike (follows_of_serves hfs) ⟨h, h⟩ tree context).2.2.1

end Serves

/-- The cache after pages were rendered, each from its tree and context. -/
def afterPages (fs : FileSystem) (cache : Cache) (pages : List (Node × Context)) : Cache :=
  pages.foldl (fun cache (tree, context) => (cache.page fs tree context).2.2) cache

theorem Serves.afterPages {parse : String → Except DocumentError Node} {roots : Roots}
    (hfs : fs.isProper = true) (h : cache.Serves parse roots fs)
    (pages : List (Node × Context)) : (cache.afterPages fs pages).Serves parse roots fs := by
  induction pages generalizing cache with
  | nil => exact h
  | cons page rest ih => exact ih (h.page hfs page.1 page.2)

/-- **Transparency.** As long as files do not change, lookups and pages come to the same as with an
empty cache, whatever was looked up before and whichever pages were rendered before. -/
theorem outcome_after (parse : String → Except DocumentError Node) (roots : Roots)
    {fs : FileSystem} (hfs : fs.isProper = true) (questions : List Question)
    (pages : List (Node × Context)) :
    let fresh : Cache := { parse := parse, roots := roots }
    let used := (fresh.after (questions.map (Lookup.mk fs))).afterPages fs pages
    (∀ question,
      (used.answer ⟨fs, question⟩).1.outcome = (fresh.answer ⟨fs, question⟩).1.outcome) ∧
      ∀ tree context,
        (used.page fs tree context).1 = (fresh.page fs tree context).1 ∧
          (used.page fs tree context).2.1 = (fresh.page fs tree context).2.1 := by
  intro fresh used
  have hfresh : fresh.Serves parse roots fs := serves_empty parse roots fs
  have hused : used.Serves parse roots fs := (hfresh.after hfs questions).afterPages hfs pages
  refine ⟨fun question => ?_, fun tree context => ?_⟩
  · rw [hused.outcome_eq hfs, hfresh.outcome_eq hfs]
  · obtain ⟨hpage, hcontext, -⟩ :=
      page_alike (follows_of_serves hfs) ⟨hfresh, hused⟩ tree context
    exact ⟨hpage, hcontext⟩

/-- A directory with a document and one whose front matter is refused. -/
private def notedDocs : FileSystem where
  top := .directory [
    ("docs", .directory [
      ("broken.md", .file (.text "---\nroot: [a, b]\n---\n\nBody")),
      ("note.md", .file (.text "Hi"))])]

/-- A cache with a document in it, after a document was refused, serves like an empty one. -/
theorem outcome_after_of_note :
    let fresh : Cache := { parse := Grammar.commonMark.parse {}, roots := ⟨[⟨"/docs"⟩]⟩ }
    let questions : List Question := [.reference "broken.md", .document ⟨"/docs/note.md"⟩]
    let used := (fresh.after (questions.map (Lookup.mk notedDocs))).afterPages notedDocs []
    notedDocs.isProper = true ∧ used.documents.map Prod.fst = [⟨"/docs/note.md"⟩] ∧
      (∀ question, (used.answer ⟨notedDocs, question⟩).1.outcome =
        (fresh.answer ⟨notedDocs, question⟩).1.outcome) ∧
      ∀ tree context,
        (used.page notedDocs tree context).1 = (fresh.page notedDocs tree context).1 ∧
          (used.page notedDocs tree context).2.1 = (fresh.page notedDocs tree context).2.1 := by
  have hfs : notedDocs.isProper = true := by decide +kernel
  exact ⟨hfs, by decide +kernel, outcome_after _ _ hfs _ _⟩

end Cache

end MarkdownPages
