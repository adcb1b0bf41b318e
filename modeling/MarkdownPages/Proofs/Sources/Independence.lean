import MarkdownPages.Markup.Parse
import MarkdownPages.Files.Change
import MarkdownPages.Proofs.Page.Cached
import MarkdownPages.Proofs.Sources.History

/-!
# Files outside of the roots do not matter

A reference that leads out of all roots is treated like one that leads nowhere. So whatever files
stand outside of the roots, and whether any do, references come to the same, and so do the pages
that follow them. Two file systems are compared that have the same directories and links and the
same files below the roots; no walk leads through a file, so the same paths lead to the same places
below the roots.

## Main definitions

* `FileSystem.DiffersOutside` — file systems that differ in files outside of some roots

## Main results

* `FileSystem.differsOutside_putFile` — a file that is put outside of the roots
* `FileSystem.DiffersOutside.resolve?_eq` — references lead to the same files
* `Cache.references_eq_of_differsOutside` — references and pages come to the same
-/

namespace MarkdownPages

namespace FileSystem

/-- Two file systems have the same directories and links, and the same files below some roots.
Other files need not be the same. -/
structure DiffersOutside (roots : Roots) (fs other : FileSystem) : Prop where
  working : other.working = fs.working
  ways : ∀ place item, (∀ content, item ≠ .file content) →
    (other.top.item? place = some item ↔ fs.top.item? place = some item)
  below : ∀ place, roots.Holds (.ofNames place) → other.top.item? place = fs.top.item? place

/-- A file that is put outside of the roots, in place of another one or of nothing. -/
theorem differsOutside_putFile {roots : Roots} {fs : FileSystem} {directory : List RawText}
    {entries : List (RawText × Entry)} {name : RawText} {content : Content}
    (hdirectory : fs.top.at? directory = some (.directory entries))
    (hfree : ∀ item, fs.top.item? (directory ++ [name]) = some item → ∃ old, item = .file old)
    (houtside : ¬ roots.Holds (.ofNames (directory ++ [name]))) :
    DiffersOutside roots fs (fs.change directory (·.withChild name (.file content))) := by
  have hput := Entry.item?_putChild hdirectory name (.file content)
  -- nothing stands below a file, neither before nor afterwards
  have hbelow : ∀ k rest, fs.top.item? (directory ++ name :: k :: rest) = none := by
    intro k rest
    by_contra hne
    have hsplit : directory ++ name :: k :: rest = (directory ++ [name]) ++ k :: rest := by simp
    rw [hsplit] at hne
    obtain ⟨old, hold⟩ := hfree _ (Entry.item?_of_cons hne)
    cases hold
  refine ⟨rfl, fun place item hitem => ?_, fun place hholds => ?_⟩
  · by_cases hpre : directory ++ [name] <+: place
    · obtain ⟨rest, rfl⟩ := hpre
      rw [List.append_assoc, List.singleton_append, change, hput]
      cases rest with
      | nil =>
        constructor
        · intro h
          exact absurd (Option.some.inj h).symm (hitem content)
        · intro h
          obtain ⟨old, rfl⟩ := hfree item h
          exact absurd rfl (hitem old)
      | cons k rest =>
        rw [hbelow]
        exact Iff.rfl
    · rw [change, Entry.item?_putChild_of_not_isPrefix hdirectory name hpre]
  · by_cases hpre : directory ++ [name] <+: place
    · obtain ⟨rest, rfl⟩ := hpre
      cases rest with
      | nil =>
        rw [List.append_nil] at hholds
        exact absurd hholds houtside
      | cons k rest =>
        rw [List.append_assoc, List.singleton_append, change, hput, hbelow]
        rfl
    · rw [change, Entry.item?_putChild_of_not_isPrefix hdirectory name hpre]

namespace DiffersOutside

variable {roots : Roots} {fs other : FileSystem} {p canonical : Path}

theorem symm (h : DiffersOutside roots fs other) : DiffersOutside roots other fs :=
  ⟨h.working.symm, fun place item hitem => (h.ways place item hitem).symm,
    fun place hholds => (h.below place hholds).symm⟩

/-! ### Where paths lead -/

/-- A path that leads below the roots leads there in the other file system too. -/
theorem canonical_eq (h : DiffersOutside roots fs other) {place : List RawText}
    (hplace : fs.canonical p = .ok place) (hholds : roots.Holds (.ofNames place)) :
    other.canonical p = .ok place := by
  obtain ⟨hadmits, n, hn, hleads⟩ := canonical_eq_ok.mp hplace
  refine canonical_eq_ok.mpr ⟨hadmits, n, hn, ?_⟩
  rw [start, h.working]
  refine hleads.transfer (fun q item hitem hfile => (h.ways q item hfile).mpr hitem) ?_
  intro content hcontent
  exact ⟨content, (h.below place hholds).trans hcontent⟩

theorem leadsToFile (h : DiffersOutside roots fs other) (hfile : Roots.LeadsToFile fs p canonical)
    (hholds : roots.Holds canonical) : Roots.LeadsToFile other p canonical := by
  obtain ⟨place, content, hplace, hitem, rfl⟩ := hfile
  exact ⟨place, content, h.canonical_eq hplace hholds, (h.below place hholds).trans hitem, rfl⟩

theorem leadsBelow (h : DiffersOutside roots fs other) {root : Path} (hroot : root ∈ roots.paths)
    (hbelow : Roots.LeadsBelow fs root p canonical) : Roots.LeadsBelow other root p canonical :=
  ⟨h.leadsToFile hbelow.1 ⟨root, hroot, hbelow.2⟩, hbelow.2⟩

/-- A path that leads to a file from the roots leads to it in the other file system too. No earlier
root is in its way there. -/
theorem resolves (h : DiffersOutside roots fs other) (hresolves : roots.Resolves fs p canonical) :
    roots.Resolves other p canonical := by
  cases hresolves with
  | absolute habsolute hfile hholds =>
    exact .absolute habsolute (h.leadsToFile hfile hholds) hholds
  | relative hrelative before root after hsplit hfirst hbelow =>
    have hroot : root ∈ roots.paths := by simp [hsplit]
    refine .relative hrelative before root after hsplit ?_ (h.leadsBelow hroot hbelow)
    intro earlier hearlier found hfound
    have hmem : earlier ∈ roots.paths := by simp [hsplit, hearlier]
    exact hfirst earlier hearlier found (h.symm.leadsBelow hmem hfound)

/-- **References.** From the roots, paths lead to the same files. -/
theorem resolve?_eq (h : DiffersOutside roots fs other) (p : Path) :
    roots.resolve? other p = roots.resolve? fs p := by
  refine Option.ext fun canonical => ?_
  rw [Roots.resolve?_eq_some, Roots.resolve?_eq_some]
  exact ⟨h.symm.resolves, h.resolves⟩

theorem read_eq (h : DiffersOutside roots fs other) (hfs : fs.isProper = true)
    (hresolves : roots.Resolves fs p canonical) : other.read canonical = fs.read canonical := by
  obtain ⟨path, hcanonical⟩ := hresolves.exists_canonicalPath
  obtain ⟨-, hself⟩ := canonical_of_canonicalPath hfs hcanonical
  obtain ⟨place, hplace, hnames⟩ := canonicalPath_eq_ok.mp hself
  have hholds : roots.Holds (.ofNames place) := hnames ▸ hresolves.holds
  exact read_congr hplace (h.canonical_eq hplace hholds) (h.below place hholds)

end DiffersOutside

end FileSystem

namespace Cache

variable {cache : Cache} {fs other : FileSystem} {roots : Roots}

/-! ### Lookups and pages -/

/-- **One lookup.** A reference comes to the same, and leaves the same cache. -/
theorem getRelative?_eq (h : FileSystem.DiffersOutside cache.roots fs other)
    (hfs : fs.isProper = true) (text : String) :
    cache.getRelative? other text = cache.getRelative? fs text :=
  getRelative?_congr (h.resolve?_eq _) fun _ hresolve =>
    h.read_eq hfs (Roots.resolve?_eq_some.mp hresolve)

theorem answer_reference_eq (h : FileSystem.DiffersOutside cache.roots fs other)
    (hfs : fs.isProper = true) (text : String) :
    cache.answer ⟨other, .reference text⟩ = cache.answer ⟨fs, .reference text⟩ := by
  rw [answer, answer]
  dsimp only
  rw [getRelative?_eq h hfs text]

theorem answerAll_references_eq (h : FileSystem.DiffersOutside roots fs other)
    (hfs : fs.isProper = true) (hroots : cache.roots = roots) (texts : List String) :
    cache.answerAll (texts.map fun text => ⟨other, .reference text⟩) =
      cache.answerAll (texts.map fun text => ⟨fs, .reference text⟩) := by
  induction texts generalizing cache with
  | nil => rfl
  | cons text rest ih =>
    subst hroots
    rw [List.map_cons, List.map_cons, answerAll, answerAll, answer_reference_eq h hfs text]
    dsimp only
    rw [ih (answer_roots cache _)]

/-- To rendering, one cache is the same in both file systems. -/
theorem follows_of_differsOutside (h : FileSystem.DiffersOutside roots fs other)
    (hfs : fs.isProper = true) :
    Resolver.Follows (fun cache cache' => cache' = cache ∧ cache.roots = roots)
      (resolver fs) (resolver other) := by
  intro text cache cache' hsame
  obtain ⟨hsame, rfl⟩ := hsame
  have hfound := getRelative?_eq h hfs text
  have hlookup : (resolver other).lookup text cache = (resolver fs).lookup text cache := by
    rw [resolver, resolver]
    dsimp only
    rw [hfound]
  rw [hsame, hlookup]
  exact ⟨rfl, rfl, answer_roots cache ⟨fs, .reference text⟩⟩

/-- **Independence.** Whatever files stand outside of the roots, references one after the other have
the same answers and leave the same cache, with which all pages come out the same. -/
theorem references_eq_of_differsOutside (parse : String → Except DocumentError Node) {roots : Roots}
    {fs other : FileSystem} (hfs : fs.isProper = true)
    (h : FileSystem.DiffersOutside roots fs other) (texts : List String) :
    let fresh : Cache := { parse := parse, roots := roots }
    let lookups (files : FileSystem) : List Lookup :=
      texts.map fun text => ⟨files, .reference text⟩
    fresh.answerAll (lookups other) = fresh.answerAll (lookups fs) ∧
      ∀ tree context, (fresh.after (lookups other)).page other tree context =
        (fresh.after (lookups fs)).page fs tree context := by
  intro fresh lookups
  have hanswers : fresh.answerAll (lookups other) = fresh.answerAll (lookups fs) :=
    answerAll_references_eq h hfs rfl texts
  refine ⟨hanswers, fun tree context => ?_⟩
  have hsame : fresh.after (lookups other) = fresh.after (lookups fs) :=
    congrArg Prod.snd hanswers
  have hroots : (fresh.after (lookups fs)).roots = roots := after_roots fresh (lookups fs)
  obtain ⟨hpage, hcontext, hstore, -⟩ :=
    page_alike (follows_of_differsOutside h hfs) ⟨hsame, hroots⟩ tree context
  exact Prod.ext hpage (Prod.ext hcontext hstore)

/-- A directory with a link out of it, to a name that is free. -/
private def guardedDocs : FileSystem where
  top := .directory [
    ("docs", .directory [
      ("escape.md", .link ⟨"../secret.md"⟩),
      ("index.md", .file (.text "Hi"))])]

/-- A file outside of the root that comes up makes no difference, though links lead to it. -/
theorem references_eq_of_secret :
    let roots : Roots := ⟨[⟨"/docs"⟩]⟩
    let other := guardedDocs.change [] (·.withChild "secret.md" (.file (.text "Ho")))
    let fresh : Cache := { parse := Grammar.commonMark.parse {}, roots := roots }
    let lookups (files : FileSystem) : List Lookup :=
      ["escape.md", "/secret.md", "../docs/index.md"].map fun text => ⟨files, .reference text⟩
    guardedDocs.isProper = true ∧ FileSystem.DiffersOutside roots guardedDocs other ∧
      guardedDocs.present ⟨"/docs/escape.md"⟩ = false ∧
      other.present ⟨"/docs/escape.md"⟩ = true ∧
      fresh.answerAll (lookups other) = fresh.answerAll (lookups guardedDocs) ∧
      ∀ tree context, (fresh.after (lookups other)).page other tree context =
        (fresh.after (lookups guardedDocs)).page guardedDocs tree context := by
  have hfs : guardedDocs.isProper = true := by decide +kernel
  have hdiffers : FileSystem.DiffersOutside ⟨[⟨"/docs"⟩]⟩ guardedDocs
      (guardedDocs.change [] (·.withChild "secret.md" (.file (.text "Ho")))) := by
    refine FileSystem.differsOutside_putFile rfl (fun item hitem => ?_) ?_
    · cases hitem
    · rw [← Roots.contains_iff]
      decide +kernel
  exact ⟨hfs, hdiffers, by decide +kernel, by decide +kernel,
    references_eq_of_differsOutside _ hfs hdiffers _⟩

end Cache

end MarkdownPages
