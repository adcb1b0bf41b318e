import Mathlib.Data.List.Forall2
import MarkdownPages.Proofs.Sources.Cache

/-!
# Lookups stay below the roots

A document is looked up by a path as it is, or by a path from the roots. However paths mix `..`,
links and absolute parts, the cache only has to do with files whose canonical paths start with all
components of a root. This does not depend on what was looked up before, nor on how the file system
changes between lookups.

That a file is never read is put as independence: where two file systems differ in nothing but the
content of files outside of the roots, all lookups have the same answers and leave the same cache.

## Main definitions

* `Roots.Holds` — a path that starts with all components of a root
* `Roots.Resolves` — which canonical path a path leads to from the roots
* `Lookup`, `Cache.answerAll` — lookups one after the other
* `FileSystem.AlikeBelow` — file systems that differ in the content of files outside of the roots

## Main results

* `Roots.resolve?_eq_some`, `Roots.resolve?_eq_none` — resolution is exact
* `Cache.answerAll_contained` — all lookups stay below the roots
-/

namespace MarkdownPages

namespace Roots

variable {roots : Roots} {fs other : FileSystem} {path canonical : Path}

/-! ### Resolution -/

/-- A path that starts with all components of a root. -/
def Holds (roots : Roots) (path : Path) : Prop :=
  ∃ root ∈ roots.paths, root.components <+: path.components

theorem contains_iff : roots.contains path = true ↔ roots.Holds path := by
  simp [contains, isContained, Holds, Path.startsWith]

/-- A path leads to a regular file, under its canonical path. -/
def LeadsToFile (fs : FileSystem) (path canonical : Path) : Prop :=
  ∃ place content, fs.canonical path = .ok place ∧
    fs.top.item? place = some (.file content) ∧ canonical = .ofNames place

/-- Joined to a root, a path leads to a regular file below that root. -/
def LeadsBelow (fs : FileSystem) (root path canonical : Path) : Prop :=
  LeadsToFile fs (root.join path) canonical ∧ root.components <+: canonical.components

/-- The canonical path to which a path leads from the roots. An absolute path has to lead to a file
below some root. A relative path is taken from the first root below which it leads to a file. -/
inductive Resolves (roots : Roots) (fs : FileSystem) (path canonical : Path) : Prop
  | absolute (habsolute : path.isAbsolute = true) (file : LeadsToFile fs path canonical)
      (below : roots.Holds canonical)
  | relative (hrelative : path.isAbsolute = false) (before : List Path) (root : Path)
      (after : List Path) (split : roots.paths = before ++ root :: after)
      (first : ∀ earlier ∈ before, ∀ other, ¬ LeadsBelow fs earlier path other)
      (below : LeadsBelow fs root path canonical)

theorem file?_eq_some : file? fs path = some canonical ↔ LeadsToFile fs path canonical := by
  rw [file?, LeadsToFile]
  cases fs.canonical path with
  | error fault => simp
  | ok place =>
    dsimp only
    cases hentry : fs.top.at? place with
    | none => simp [Entry.item?, hentry]
    | some entry =>
      cases entry with
      | file content => simp [Entry.item?, Entry.item, Entry.isFile, hentry, eq_comm]
      | directory | link => simp [Entry.item?, Entry.item, Entry.isFile, hentry]

private theorem filter_file?_eq_some {root : Path} :
    (file? fs (root.join path)).filter (·.startsWith root) = some canonical ↔
      LeadsBelow fs root path canonical := by
  rw [Option.filter_eq_some_iff, file?_eq_some, LeadsBelow, Path.startsWith,
    List.isPrefixOf_iff_prefix]

private theorem filter_file?_eq_none {root : Path} :
    (file? fs (root.join path)).filter (·.startsWith root) = none ↔
      ∀ canonical, ¬ LeadsBelow fs root path canonical := by
  simp only [← filter_file?_eq_some, Option.eq_none_iff_forall_ne_some, ne_eq]

/-- **Resolution is exact.** -/
theorem resolve?_eq_some : roots.resolve? fs path = some canonical ↔
    roots.Resolves fs path canonical := by
  rw [resolve?]
  by_cases habsolute : path.isAbsolute = true
  · rw [if_pos habsolute, Option.filter_eq_some_iff, file?_eq_some, contains_iff]
    refine ⟨fun ⟨hfile, hbelow⟩ => .absolute habsolute hfile hbelow, fun h => ?_⟩
    cases h with
    | absolute _ hfile hbelow => exact ⟨hfile, hbelow⟩
    | relative hrelative => rw [habsolute] at hrelative; cases hrelative
  · rw [if_neg habsolute, List.findSome?_eq_some_iff]
    constructor
    · rintro ⟨before, root, after, hsplit, hbelow, hfirst⟩
      exact .relative (Bool.eq_false_iff.mpr habsolute) before root after hsplit
        (fun earlier hearlier => filter_file?_eq_none.mp (hfirst earlier hearlier))
        (filter_file?_eq_some.mp hbelow)
    · intro h
      cases h with
      | absolute habsolute' => exact absurd habsolute' habsolute
      | relative _ before root after hsplit hfirst hbelow =>
        exact ⟨before, root, after, hsplit, filter_file?_eq_some.mpr hbelow,
          fun earlier hearlier => filter_file?_eq_none.mpr (hfirst earlier hearlier)⟩

/-- An absolute path is resolved to the file to which it leads, below whatever root that is. -/
theorem resolve?_of_isAbsolute (h : path.isAbsolute = true) :
    roots.resolve? fs path = some canonical ↔
      LeadsToFile fs path canonical ∧ roots.Holds canonical := by
  rw [resolve?_eq_some]
  refine ⟨fun hresolves => ?_, fun ⟨hfile, hbelow⟩ => .absolute h hfile hbelow⟩
  cases hresolves with
  | absolute _ hfile hbelow => exact ⟨hfile, hbelow⟩
  | relative hrelative =>
    rw [h] at hrelative
    cases hrelative

/-- Nothing is resolved if the path leads to no file below the root that is concerned. -/
theorem resolve?_eq_none : roots.resolve? fs path = none ↔
    if path.isAbsolute then ∀ canonical, LeadsToFile fs path canonical → ¬ roots.Holds canonical
    else ∀ root ∈ roots.paths, ∀ canonical, ¬ LeadsBelow fs root path canonical := by
  rw [resolve?]
  by_cases habsolute : path.isAbsolute = true
  · rw [if_pos habsolute, if_pos habsolute]
    simp only [Option.eq_none_iff_forall_ne_some, ne_eq, Option.filter_eq_some_iff,
      file?_eq_some, contains_iff, not_and]
  · rw [if_neg habsolute, if_neg habsolute, List.findSome?_eq_none_iff]
    simp only [filter_file?_eq_none]

theorem LeadsToFile.canonicalPath (h : LeadsToFile fs path canonical) :
    fs.canonicalPath path = .ok canonical := by
  obtain ⟨place, content, hplace, -, rfl⟩ := h
  exact FileSystem.canonicalPath_eq_ok.mpr ⟨place, hplace, rfl⟩

theorem Resolves.leadsToFile (h : roots.Resolves fs path canonical) :
    ∃ p, LeadsToFile fs p canonical := by
  cases h with
  | absolute _ hfile => exact ⟨_, hfile⟩
  | relative _ before root after _ _ hbelow => exact ⟨_, hbelow.1⟩

theorem Resolves.exists_canonicalPath (h : roots.Resolves fs path canonical) :
    ∃ p, fs.canonicalPath p = .ok canonical := by
  obtain ⟨p, hfile⟩ := h.leadsToFile
  exact ⟨p, hfile.canonicalPath⟩

theorem Resolves.holds (h : roots.Resolves fs path canonical) : roots.Holds canonical := by
  cases h with
  | absolute _ _ hbelow => exact hbelow
  | relative _ before root after hsplit _ hbelow =>
    exact ⟨root, by simp [hsplit], hbelow.2⟩

end Roots

namespace FileSystem

/-- A file is read where its path leads. -/
theorem read_congr {fs other : FileSystem} {p : Path} {place : List RawText}
    (hplace : fs.canonical p = .ok place) (hother : other.canonical p = .ok place)
    (hitem : other.top.item? place = fs.top.item? place) : other.read p = fs.read p := by
  rw [read, read, hplace, hother]
  dsimp only [bind, Except.bind]
  rw [Entry.item?, Entry.item?] at hitem
  cases hfs : fs.top.at? place with
  | none =>
    rw [hfs] at hitem
    rw [Option.map_eq_none_iff.mp hitem]
  | some entry =>
    rw [hfs] at hitem
    obtain ⟨entry', hentry', hsame⟩ := Option.map_eq_some_iff.mp hitem
    rw [hentry']
    cases entry <;> cases entry' <;> cases hsame <;> rfl

/-! ### File systems that are alike below the roots -/

/-- Two file systems differ in nothing but the content of files outside of some roots. -/
structure AlikeBelow (roots : Roots) (fs other : FileSystem) : Prop where
  working : other.working = fs.working
  shape : ∀ place, (other.top.item? place).map Item.shape = (fs.top.item? place).map Item.shape
  item : ∀ place, roots.Holds (.ofNames place) → other.top.item? place = fs.top.item? place

namespace AlikeBelow

variable {roots : Roots} {fs other : FileSystem} {canonical p : Path}

theorem canonical_eq (h : AlikeBelow roots fs other) (p : Path) :
    other.canonical p = fs.canonical p := by
  rw [FileSystem.canonical, FileSystem.canonical, find, find, start, start, h.working,
    Entry.follow_congr h.shape]

theorem canonicalPath_eq (h : AlikeBelow roots fs other) (p : Path) :
    other.canonicalPath p = fs.canonicalPath p := by
  rw [canonicalPath, canonicalPath, h.canonical_eq]

theorem resolve?_eq (h : AlikeBelow roots fs other) (p : Path) :
    roots.resolve? other p = roots.resolve? fs p := by
  have hany : ∀ place, (other.top.at? place).any Entry.isFile =
      (fs.top.at? place).any Entry.isFile := by
    intro place
    have hshape := h.shape place
    rw [Entry.item?, Entry.item?] at hshape
    cases hfs : fs.top.at? place with
    | none => cases hother : other.top.at? place <;> simp_all
    | some entry =>
      cases hother : other.top.at? place with
      | none => simp_all
      | some entry' =>
        cases entry <;> cases entry' <;> simp_all [Entry.item, Item.shape, Entry.isFile]
  have hfile : ∀ p, Roots.file? other p = Roots.file? fs p := by
    intro p
    rw [Roots.file?, Roots.file?, h.canonical_eq]
    simp only [hany]
  rw [Roots.resolve?, Roots.resolve?]
  simp only [hfile]

/-- The text of a file below the roots is the same. -/
theorem read_eq (h : AlikeBelow roots fs other) (hfs : fs.isProper = true)
    (hcanonical : fs.canonicalPath p = .ok canonical) (hholds : roots.Holds canonical) :
    other.read canonical = fs.read canonical := by
  obtain ⟨-, hidem⟩ := canonical_of_canonicalPath hfs hcanonical
  obtain ⟨place, hplace, rfl⟩ := canonicalPath_eq_ok.mp hidem
  exact read_congr hplace ((h.canonical_eq _).trans hplace) (h.item place hholds)

end AlikeBelow

end FileSystem

/-! ### Lookups -/

/-- What a lookup asks for: the document at a path, or the one that a path from the roots leads
to. -/
inductive Question where
  | document (path : Path)
  | reference (text : String)
deriving DecidableEq, Repr

/-- What is asked for, and the file system as it is then. -/
structure Lookup where
  files : FileSystem
  question : Question

/-- What a lookup has for a result. -/
inductive Answer where
  | document (result : Except SourceError CachedTree)
  | reference (found : Option Cache.Found)

namespace Lookup

variable {roots : Roots}

/-- What a lookup hands out is kept under a path below the roots, to which the path of the lookup
leads. -/
def HandsOut (roots : Roots) (documents : List (Path × CachedTree)) (lookup : Lookup) :
    Answer → Prop
  | .document (.ok document) => ∃ path canonical key, lookup.question = .document path ∧
      lookup.files.canonicalPath path = .ok canonical ∧ roots.Holds canonical ∧
      canonical.same key = true ∧ (key, document) ∈ documents
  | .reference (some found) => ∃ text key, lookup.question = .reference text ∧
      roots.Resolves lookup.files ⟨text⟩ found.path ∧ roots.Holds found.path ∧
      found.path.same key = true ∧ (key, found.document) ∈ documents
  | _ => True

theorem HandsOut.mono {documents more : List (Path × CachedTree)} {lookup : Lookup}
    {answer : Answer} (h : lookup.HandsOut roots documents answer)
    (hmore : ∀ entry ∈ documents, entry ∈ more) : lookup.HandsOut roots more answer := by
  match answer, h with
  | .document (.ok document), ⟨path, canonical, key, hquestion, hcanonical, hholds, hsame, hkept⟩ =>
    exact ⟨path, canonical, key, hquestion, hcanonical, hholds, hsame, hmore _ hkept⟩
  | .reference (some found), ⟨text, key, hquestion, hresolves, hholds, hsame, hkept⟩ =>
    exact ⟨text, key, hquestion, hresolves, hholds, hsame, hmore _ hkept⟩
  | .document (.error _), _ => trivial
  | .reference none, _ => trivial

/-- Two lookups ask for the same, in file systems that are alike below the roots. -/
structure Alike (roots : Roots) (lookup other : Lookup) : Prop where
  question : other.question = lookup.question
  files : FileSystem.AlikeBelow roots lookup.files other.files

end Lookup

namespace Cache

variable {fs : FileSystem} {cache after : Cache} {canonical : Path}

/-- The answer to a lookup, and the cache that it leaves. -/
def answer (cache : Cache) (lookup : Lookup) : Answer × Cache :=
  match lookup.question with
  | .document path =>
    let (result, cache) := cache.get lookup.files path
    (.document result, cache)
  | .reference text =>
    let (found, cache) := cache.getRelative? lookup.files text
    (.reference found, cache)

/-- The answers to lookups one after the other, and the cache that they leave. -/
def answerAll (cache : Cache) : List Lookup → List Answer × Cache
  | [] => ([], cache)
  | lookup :: rest =>
    let (first, cache) := cache.answer lookup
    let (others, cache) := cache.answerAll rest
    (first :: others, cache)

/-- All that is kept, and all that went to the parser, is below the roots. -/
structure StaysBelow (cache : Cache) : Prop where
  documents : ∀ entry ∈ cache.documents, cache.roots.Holds entry.1
  parsed : ∀ p ∈ cache.parsed, cache.roots.Holds p

theorem Loads.staysBelow (h : cache.Loads fs canonical after)
    (hholds : cache.roots.Holds canonical) (hcache : cache.StaysBelow) : after.StaysBelow := by
  refine ⟨fun entry hentry => ?_, fun p hp => ?_⟩
  · rw [h.roots]
    rcases h.added entry hentry with hold | ⟨hkey, -⟩
    · exact hcache.documents entry hold
    · exact hkey ▸ hholds
  · rw [h.roots]
    rcases h.parsed p hp with hold | rfl
    · exact hcache.parsed p hold
    · exact hholds

/-- **One lookup.** It keeps the cache below the roots, and so is what it hands out. -/
theorem answer_staysBelow (hcache : cache.StaysBelow) (lookup : Lookup) :
    (cache.answer lookup).2.StaysBelow ∧ (cache.answer lookup).2.roots = cache.roots ∧
      (∀ entry ∈ cache.documents, entry ∈ (cache.answer lookup).2.documents) ∧
      lookup.HandsOut cache.roots (cache.answer lookup).2.documents (cache.answer lookup).1 := by
  obtain ⟨files, question⟩ := lookup
  cases question with
  | document path =>
    rw [answer]
    dsimp only
    rcases cache.get_cases files path with ⟨canonical, hcanonical, hcontains, hget⟩ |
      ⟨error, hget⟩
    · obtain ⟨hloads, hkept⟩ := cache.loads_load files canonical
      have hholds := Roots.contains_iff.mp hcontains
      rw [hget]
      refine ⟨hloads.staysBelow hholds hcache, hloads.roots, hloads.kept, ?_⟩
      cases hresult : (cache.load files canonical).1 with
      | error error => trivial
      | ok document =>
        obtain ⟨key, hsame, hmem⟩ := hkept document hresult
        exact ⟨path, canonical, key, rfl, hcanonical, hholds, hsame, hmem⟩
    · rw [hget]
      exact ⟨hcache, rfl, fun _ h => h, trivial⟩
  | reference text =>
    rw [answer]
    dsimp only
    rcases cache.getRelative?_cases files text with ⟨canonical, hresolve, hafter, hfound⟩ | hnone
    · obtain ⟨hloads, hkept⟩ := cache.loads_load files canonical
      have hresolves := Roots.resolve?_eq_some.mp hresolve
      rw [← hafter] at hloads hkept
      refine ⟨hloads.staysBelow hresolves.holds hcache, hloads.roots, hloads.kept, ?_⟩
      cases hresult : (cache.getRelative? files text).1 with
      | none => trivial
      | some found =>
        obtain ⟨rfl, hdocument⟩ := hfound found hresult
        obtain ⟨key, hsame, hmem⟩ := hkept _ hdocument
        exact ⟨text, key, rfl, hresolves, hresolves.holds, hsame, hmem⟩
    · rw [hnone]
      exact ⟨hcache, rfl, fun _ h => h, trivial⟩

/-- **One lookup reads below the roots only.** -/
theorem answer_congr {lookup other : Lookup} (hlookup : lookup.files.isProper = true)
    (h : lookup.Alike cache.roots other) : cache.answer other = cache.answer lookup := by
  rw [answer, answer, h.question]
  cases lookup.question with
  | document path =>
    have hget : cache.get other.files path = cache.get lookup.files path := by
      rw [get, get, h.files.canonicalPath_eq]
      cases hcanonical : lookup.files.canonicalPath path with
      | error fault => rfl
      | ok canonical =>
        dsimp only
        split
        · rename_i hcontains
          rw [load, load, h.files.read_eq hlookup hcanonical (Roots.contains_iff.mp hcontains)]
        · rfl
    dsimp only
    rw [hget]
  | reference text =>
    have hget : cache.getRelative? other.files text = cache.getRelative? lookup.files text := by
      refine getRelative?_congr (h.files.resolve?_eq _) fun canonical hresolve => ?_
      have hresolves := Roots.resolve?_eq_some.mp hresolve
      obtain ⟨p, hcanonical⟩ := hresolves.exists_canonicalPath
      exact h.files.read_eq hlookup hcanonical hresolves.holds
    dsimp only
    rw [hget]

/-- **All lookups.** What is kept and what is handed out is below the roots, and the content of no
other file makes a difference. -/
theorem answerAll_staysBelow (hcache : cache.StaysBelow) (lookups : List Lookup) :
    (cache.answerAll lookups).2.StaysBelow ∧ (cache.answerAll lookups).2.roots = cache.roots ∧
      (∀ entry ∈ cache.documents, entry ∈ (cache.answerAll lookups).2.documents) ∧
      List.Forall₂ (Lookup.HandsOut cache.roots (cache.answerAll lookups).2.documents) lookups
        (cache.answerAll lookups).1 := by
  induction lookups generalizing cache with
  | nil => exact ⟨hcache, rfl, fun _ h => h, .nil⟩
  | cons lookup rest ih =>
    obtain ⟨hfirst, hroots, hkept, hhands⟩ := answer_staysBelow hcache lookup
    obtain ⟨hrest, hroots', hkept', hhands'⟩ := ih hfirst
    rw [hroots] at hroots' hhands'
    exact ⟨hrest, hroots', fun entry h => hkept' entry (hkept entry h),
      .cons (hhands.mono hkept') hhands'⟩

theorem answerAll_congr {roots : Roots} {lookups others : List Lookup}
    (hlookups : ∀ lookup ∈ lookups, lookup.files.isProper = true)
    (h : List.Forall₂ (Lookup.Alike roots) lookups others) (hcache : cache.StaysBelow)
    (hroots : cache.roots = roots) : cache.answerAll others = cache.answerAll lookups := by
  induction h generalizing cache with
  | nil => rfl
  | @cons lookup other rest others hfirst _ ih =>
    subst hroots
    obtain ⟨hproper, hrest⟩ := List.forall_mem_cons.mp hlookups
    obtain ⟨hbelow, hroots, -⟩ := answer_staysBelow hcache lookup
    rw [answerAll, answerAll, answer_congr hproper hfirst]
    dsimp only
    rw [ih hrest hbelow hroots]

/-- Lookups one after the other, from an empty cache on, stay below the roots. -/
structure Contained (parse : String → Except DocumentError Node) (roots : Roots)
    (lookups : List Lookup) (answers : List Answer) (after : Cache) : Prop where
  documents : ∀ entry ∈ after.documents, roots.Holds entry.1
  parsed : ∀ p ∈ after.parsed, roots.Holds p
  handsOut : List.Forall₂ (Lookup.HandsOut roots after.documents) lookups answers
  /-- No other file makes a difference. -/
  independent : ∀ others, List.Forall₂ (Lookup.Alike roots) lookups others →
    answerAll { parse := parse, roots := roots } others = (answers, after)

/-- **Containment.** Whatever documents are looked up one after the other, all that is kept in the
cache, goes to the parser or is handed out is below the roots, and the content of no other file
makes a difference. Paths are resolved to exactly the files that they lead to from the roots. -/
theorem answerAll_contained (parse : String → Except DocumentError Node) (roots : Roots)
    {lookups : List Lookup} (hlookups : ∀ lookup ∈ lookups, lookup.files.isProper = true) :
    let (answers, after) := answerAll { parse := parse, roots := roots } lookups
    Contained parse roots lookups answers after ∧
      ∀ fs path,
        (∀ canonical, roots.resolve? fs path = some canonical ↔
          roots.Resolves fs path canonical) ∧
        (roots.resolve? fs path = none ↔
          if path.isAbsolute then
            ∀ canonical, Roots.LeadsToFile fs path canonical → ¬ roots.Holds canonical
          else ∀ root ∈ roots.paths, ∀ canonical, ¬ Roots.LeadsBelow fs root path canonical) := by
  have hempty : StaysBelow { parse := parse, roots := roots } := ⟨by simp, by simp⟩
  obtain ⟨hbelow, hroots, -, hhands⟩ := answerAll_staysBelow hempty lookups
  refine ⟨⟨fun entry hentry => ?_, fun p hp => ?_, hhands, fun others hothers => ?_⟩,
    fun fs path => ⟨fun canonical => Roots.resolve?_eq_some, Roots.resolve?_eq_none⟩⟩
  · have hholds := hbelow.documents entry hentry
    rwa [hroots] at hholds
  · have hholds := hbelow.parsed p hp
    rwa [hroots] at hholds
  · exact answerAll_congr hlookups hothers hempty rfl

/-- A directory of documents with a link to a file outside. -/
private def linkedDocs : FileSystem where
  top := .directory [
    ("docs", .directory [
      ("escape.md", .link ⟨"../secret.md"⟩),
      ("index.md", .file (.text "Hi"))]),
    ("secret.md", .file (.text "Ho"))]

/-- A link out of the root is not followed to a document, a way out of the root and back is. -/
theorem answerAll_contained_of_link :
    let parse : String → Except DocumentError Node := fun _ => .ok default
    let lookups := [
      ⟨linkedDocs, .reference "escape.md"⟩, ⟨linkedDocs, .reference "../docs/index.md"⟩]
    let (answers, after) := answerAll { parse := parse, roots := ⟨[⟨"/docs"⟩]⟩ } lookups
    (∀ lookup ∈ lookups, lookup.files.isProper = true) ∧
      after.documents.map Prod.fst = [⟨"/docs/index.md"⟩] ∧
      Contained parse ⟨[⟨"/docs"⟩]⟩ lookups answers after := by
  have hlookups : ∀ lookup ∈ ([⟨linkedDocs, .reference "escape.md"⟩,
      ⟨linkedDocs, .reference "../docs/index.md"⟩] : List Lookup),
      lookup.files.isProper = true := by
    decide +kernel
  exact ⟨hlookups, by decide +kernel, (answerAll_contained _ _ hlookups).1⟩

end Cache

end MarkdownPages
