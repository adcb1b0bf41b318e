import MarkdownPages.Proofs.Files.Finding
import MarkdownPages.Proofs.Sources.Ascending
import MarkdownPages.Sources.Cache

/-!
# What a lookup does to the cache

A document is looked up under the canonical path of its file. The lookup adds at most one document
to the cache, under that path, and the document is what the parser makes of the text of the file.
Canonical paths with the same components are equal, so a document is never taken for another one.

## Main definitions

* `Path.IsCanonical` — a path of names, from the top
* `Cache.Loads` — what a lookup adds to the cache
* `Cache.LoadsTo` — the ways in which the lookup of a canonical path can go
* `Cache.Faithful` — documents that are what the parser makes of their files

## Main results

* `Cache.loads_load` — what the lookup of a canonical path does
* `Cache.get_cases`, `Cache.getRelative?_cases` — which canonical paths are looked up
-/

namespace MarkdownPages

/-! ### Canonical paths -/

namespace Path

/-- A path of names, from the top. -/
def IsCanonical (p : Path) : Prop :=
  ∃ names : List RawText, p = .ofNames names ∧ ∀ name ∈ names, IsName name

theorem IsCanonical.eq_of_same {p q : Path} (hp : p.IsCanonical) (hq : q.IsCanonical)
    (h : p.same q = true) : p = q := by
  obtain ⟨names, rfl, hnames⟩ := hp
  obtain ⟨others, rfl, hothers⟩ := hq
  rw [(same_ofNames_iff hnames hothers).mp h]

end Path

namespace FileSystem

variable {fs : FileSystem} {p q : Path}

/-- A canonical path leads to the place that it names. -/
theorem canonical_of_canonicalPath (hfs : fs.isProper = true) (h : fs.canonicalPath p = .ok q) :
    q.IsCanonical ∧ fs.canonicalPath q = .ok q := by
  obtain ⟨place, hplace, rfl⟩ := canonicalPath_eq_ok.mp h
  have hstands := (leads_route_of_canonical hplace).2
  exact ⟨⟨place, rfl, fun name hname => (isName_of_stands hfs hstands.ne_none name hname).1⟩,
    canonicalPath_ofNames hfs hstands⟩

end FileSystem

namespace Cache

variable {fs : FileSystem} {canonical : Path} {cache middle after : Cache}

/-- What the lookup of a canonical path adds to the cache. -/
structure Loads (fs : FileSystem) (canonical : Path) (cache after : Cache) : Prop where
  parse : after.parse = cache.parse
  roots : after.roots = cache.roots
  kept : ∀ entry ∈ cache.documents, entry ∈ after.documents
  added : ∀ entry ∈ after.documents, entry ∈ cache.documents ∨ entry.1 = canonical ∧
    ∃ text, fs.read canonical = .ok text ∧ cache.parse text = .ok entry.2.tree
  parsed : ∀ p ∈ after.parsed, p ∈ cache.parsed ∨ p = canonical

theorem Loads.refl (fs : FileSystem) (canonical : Path) (cache : Cache) :
    cache.Loads fs canonical cache :=
  ⟨rfl, rfl, fun _ h => h, fun _ h => .inl h, fun _ h => .inl h⟩

/-- The ways in which the lookup of a canonical path can go, with its result and the cache that it
leaves. -/
inductive LoadsTo (fs : FileSystem) (canonical : Path) (cache : Cache) :
    Except SourceError CachedTree → Cache → Prop
  /-- The document is kept already. -/
  | kept {document : CachedTree} (hfind : cache.find? canonical = some document) :
    LoadsTo fs canonical cache (.ok document) cache
  /-- There is nothing to be read. -/
  | unread {fault : Fault} (hfind : cache.find? canonical = none)
    (hread : fs.read canonical = .error fault) :
    LoadsTo fs canonical cache (.error (.read canonical fault)) cache
  /-- The parser refuses the text, which leaves no trace but the attempt. -/
  | refused {text : String} {error : DocumentError} (hfind : cache.find? canonical = none)
    (hread : fs.read canonical = .ok text) (hparse : cache.parse text = .error error) :
    LoadsTo fs canonical cache (.error (.parse canonical error))
      { cache with parsed := canonical :: cache.parsed }
  /-- The parser makes a document of the text, which is kept from now on. -/
  | parsed {text : String} {tree : Node} (hfind : cache.find? canonical = none)
    (hread : fs.read canonical = .ok text) (hparse : cache.parse text = .ok tree) :
    LoadsTo fs canonical cache (.ok ⟨cache.size, tree⟩)
      { cache with
        parsed := canonical :: cache.parsed
        documents := (canonical, ⟨cache.size, tree⟩) :: cache.documents }

theorem loadsTo_load (cache : Cache) (fs : FileSystem) (canonical : Path) :
    LoadsTo fs canonical cache (cache.load fs canonical).1 (cache.load fs canonical).2 := by
  rw [load]
  cases hfind : cache.find? canonical with
  | some document => exact .kept hfind
  | none =>
    dsimp only
    cases hread : fs.read canonical with
    | error fault => exact .unread hfind hread
    | ok text =>
      dsimp only
      cases hparse : cache.parse text with
      | error error => exact .refused hfind hread hparse
      | ok tree => exact .parsed hfind hread hparse

/-- A document that is found is kept, under a path with the same components. -/
theorem mem_of_find? {document : CachedTree} (h : cache.find? canonical = some document) :
    ∃ key, canonical.same key = true ∧ (key, document) ∈ cache.documents := by
  obtain ⟨⟨key, kept⟩, hentry, rfl⟩ := Option.map_eq_some_iff.mp h
  exact ⟨key, by simpa using List.find?_some hentry, List.mem_of_find?_eq_some hentry⟩

/-- Whichever way it goes, at most the document of that path is added, and a document that is had
is kept under that path. -/
theorem LoadsTo.loads {result : Except SourceError CachedTree}
    (h : cache.LoadsTo fs canonical result after) : cache.Loads fs canonical after ∧
      ∀ document, result = .ok document →
        ∃ key, canonical.same key = true ∧ (key, document) ∈ after.documents := by
  have hparsed : ∀ p ∈ canonical :: cache.parsed, p ∈ cache.parsed ∨ p = canonical :=
    fun p hp => (List.mem_cons.mp hp).symm
  cases h with
  | kept hfind =>
    refine ⟨.refl fs canonical cache, fun document hdocument => ?_⟩
    exact Except.ok.inj hdocument ▸ mem_of_find? hfind
  | unread => exact ⟨.refl fs canonical cache, fun _ h => by cases h⟩
  | refused =>
    exact ⟨⟨rfl, rfl, fun _ h => h, fun _ h => .inl h, hparsed⟩, fun _ h => by cases h⟩
  | parsed _ hread hparse =>
    refine ⟨⟨rfl, rfl, fun _ h => List.mem_cons_of_mem _ h, fun entry hentry => ?_, hparsed⟩,
      fun document hdocument => ?_⟩
    · rcases List.mem_cons.mp hentry with rfl | hold
      · exact .inr ⟨rfl, _, hread, hparse⟩
      · exact .inl hold
    · obtain rfl := Except.ok.inj hdocument
      exact ⟨canonical, by simp [Path.same], List.mem_cons_self⟩

/-- **Looking up a canonical path.** If a document is had, it is kept under that path. -/
theorem loads_load (cache : Cache) (fs : FileSystem) (canonical : Path) :
    cache.Loads fs canonical (cache.load fs canonical).2 ∧
      ∀ document, (cache.load fs canonical).1 = .ok document →
        ∃ key, canonical.same key = true ∧
          (key, document) ∈ (cache.load fs canonical).2.documents :=
  (cache.loadsTo_load fs canonical).loads

/-- What is kept is what the parser makes of the file at a canonical path. -/
def Faithful (fs : FileSystem) (cache : Cache) : Prop :=
  ∀ entry ∈ cache.documents, entry.1.IsCanonical ∧
    ∃ text, fs.read entry.1 = .ok text ∧ cache.parse text = .ok entry.2.tree

theorem Loads.faithful {fs : FileSystem} {canonical : Path} {cache after : Cache}
    (h : cache.Loads fs canonical after) (hcanonical : canonical.IsCanonical)
    (hcache : cache.Faithful fs) : after.Faithful fs := by
  intro entry hentry
  rw [h.parse]
  rcases h.added entry hentry with hold | ⟨rfl, text, hread, hparse⟩
  · exact hcache entry hold
  · exact ⟨hcanonical, text, hread, hparse⟩

/-- A path is looked up under its canonical path, if that is below a root. -/
theorem get_cases (cache : Cache) (fs : FileSystem) (path : Path) :
    (∃ canonical, fs.canonicalPath path = .ok canonical ∧
      cache.roots.contains canonical = true ∧ cache.get fs path = cache.load fs canonical) ∨
      ∃ error, cache.get fs path = (.error error, cache) := by
  rw [get]
  cases hcanonical : fs.canonicalPath path with
  | error fault => exact .inr ⟨_, rfl⟩
  | ok canonical =>
    dsimp only
    by_cases hcontains : cache.roots.contains canonical = true
    · rw [if_pos hcontains]
      exact .inl ⟨canonical, rfl, hcontains, rfl⟩
    · rw [if_neg hcontains]
      exact .inr ⟨_, rfl⟩

/-- A path from the roots is looked up under the canonical path of the file that it leads to. -/
theorem getRelative?_cases (cache : Cache) (fs : FileSystem) (path : String) :
    (∃ canonical, cache.roots.resolve? fs ⟨path⟩ = some canonical ∧
      (cache.getRelative? fs path).2 = (cache.load fs canonical).2 ∧
      ∀ found, (cache.getRelative? fs path).1 = some found →
        found.path = canonical ∧ (cache.load fs canonical).1 = .ok found.document) ∨
      cache.getRelative? fs path = (none, cache) := by
  rw [getRelative?]
  cases hresolve : cache.roots.resolve? fs ⟨path⟩ with
  | none => exact .inr rfl
  | some canonical =>
    dsimp only
    cases hrelative : cache.roots.relativePath? canonical with
    | none => exact .inr rfl
    | some relativePath =>
      refine .inl ⟨canonical, rfl, ?_⟩
      dsimp only
      obtain ⟨result, after⟩ := cache.load fs canonical
      cases result with
      | error error => exact ⟨rfl, fun _ h => by cases h⟩
      | ok document =>
        refine ⟨rfl, fun found hfound => ?_⟩
        obtain rfl := Option.some.inj hfound
        exact ⟨rfl, rfl⟩

/-- A document that is found has the path that its canonical path has below the roots. -/
theorem relativePath?_of_lookup {text : String} {document : ResolvedDocument}
    (h : (resolver fs).lookup text cache = (some document, after)) :
    cache.roots.relativePath? document.path = some document.relativePath := by
  have hfound : (cache.getRelative? fs text).1.map Found.resolved = some document :=
    congrArg Prod.fst h
  obtain ⟨found, hanswer, rfl⟩ := Option.map_eq_some_iff.mp hfound
  rw [getRelative?] at hanswer
  cases hresolve : cache.roots.resolve? fs ⟨text⟩ with
  | none =>
    rw [hresolve] at hanswer
    cases hanswer
  | some canonical =>
    rw [hresolve] at hanswer
    dsimp only at hanswer
    cases hrelative : cache.roots.relativePath? canonical with
    | none =>
      rw [hrelative] at hanswer
      cases hanswer
    | some relativePath =>
      rw [hrelative] at hanswer
      dsimp only at hanswer
      generalize cache.load fs canonical = loaded at hanswer
      obtain ⟨result, kept⟩ := loaded
      cases result with
      | error error => cases hanswer
      | ok document =>
        obtain rfl := Option.some.inj hanswer
        exact hrelative

/-- A lookup from the roots depends on where the path leads and on the file that is read there. -/
theorem getRelative?_congr {other : FileSystem} {path : String}
    (hresolve : cache.roots.resolve? other ⟨path⟩ = cache.roots.resolve? fs ⟨path⟩)
    (hread : ∀ canonical, cache.roots.resolve? fs ⟨path⟩ = some canonical →
      other.read canonical = fs.read canonical) :
    cache.getRelative? other path = cache.getRelative? fs path := by
  rw [getRelative?, getRelative?, hresolve]
  cases hcanonical : cache.roots.resolve? fs ⟨path⟩ with
  | none => rfl
  | some canonical =>
    have hload : cache.load other canonical = cache.load fs canonical := by
      rw [load, load, hread canonical hcanonical]
    dsimp only
    rw [hload]

end Cache

end MarkdownPages
