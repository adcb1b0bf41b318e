import MarkdownPages.Markup.Parse
import MarkdownPages.Proofs.Conversion.Clash
import MarkdownPages.Proofs.Conversion.Sparing
import MarkdownPages.Proofs.Page.Gathering

/-!
# What a successful conversion delivers

If a conversion succeeds, the output directory holds one file for every document to which an input
leads, and nothing else. The documents are told of in ascending order. No output is another one or a
directory on the way to it, and each holds the page of its document.

The pages are rendered in turn. Each turn has a fresh context, in which nothing but the names of the
page and the settings of the project are known. What the turns share is the cache: the first one has
the cache with which the documents were read, every other one that of the turn before.

That nothing is left of an earlier conversion takes a path that stays what it is. A path that leads
over the link that it ends in may lead somewhere else once the link is removed, and what is there is
not.

## Main definitions

* `Conversion.IsFresh` — the context in which a page is rendered
* `Conversion.TakesTurns` — the pages of a conversion are rendered and written in turn
* `Conversion.Delivers` — one page for every document, and nothing else

## Main results

* `Conversion.perform_delivers` — what a successful conversion delivers
* `Conversion.perform_of_circular_output` — a file from earlier that stays
-/

namespace MarkdownPages

open FileSystem FileAction

namespace Conversion

variable (c : Conversion) {g : Grammar}

/-- A context in which nothing has been gathered but the imports of the project. -/
structure IsFresh (page : PlannedPage) (context : Context) : Prop where
  package : context.package = page.placement.package
  functionName : context.functionName = page.placement.functionName
  group : context.group = c.group
  ascending : context.imports.Pairwise (· < ·)
  imports : ∀ x, x ∈ context.imports ↔ x ≠ "" ∧ ∃ target ∈ c.imports, Text.trimmed target = x
  defaultRoot : context.defaultRoot = c.defaultRoot.filter (!Text.isBlankText ·)
  markdownArtifact : context.markdownArtifact = c.markdownArtifact
  sourcePath : context.sourcePath = page.file.relativePath
  includeStack : context.includeStack = [page.path]
  headingCounts : context.headingCounts = []
  warnings : context.warnings = []

theorem isFresh_context (page : PlannedPage) : c.IsFresh page (c.context page) := by
  have hcontext : c.context page =
      { package := page.placement.package
        functionName := page.placement.functionName
        group := c.group
        imports := c.imports.foldl gather []
        defaultRoot := c.defaultRoot.filter (!Text.isBlankText ·)
        markdownArtifact := c.markdownArtifact
        sourcePath := page.file.relativePath
        includeStack := [page.path] } := by
    rw [context, Context.addImports_eq]
    rfl
  rw [hcontext]
  refine ⟨rfl, rfl, rfl, pairwise_foldl_gather c.imports .nil, fun x => ?_, rfl, rfl, rfl, rfl, rfl,
    rfl⟩
  rw [mem_foldl_gather, mem_normalised]
  simp

/-- Every input has its page. Once the documents are read and the output directory is renewed, the
pages are rendered, each from the tree of its document and in a fresh context, and written. -/
structure TakesTurns (g : Grammar) (fs : FileSystem) (roots : Roots) (inputs : List Path)
    (turns : List Turn) (after : FileSystem) : Prop where
  planned : plan fs roots c.pagesPackage inputs = .ok (turns.map Turn.page)
  pages : ∀ turn ∈ turns, ∃ input ∈ inputs, fs.canonicalPath input = .ok turn.page.path ∧
    roots.relativePath? turn.page.path = some turn.page.file.relativePath ∧
    turn.page.placement = Site.place turn.page.file.relativePath c.pagesPackage
  fresh : ∀ turn ∈ turns, c.IsFresh turn.page (c.context turn.page)
  trees : ∀ turn ∈ turns, ∃ text, fs.read turn.page.path = .ok text ∧
    g.parse c.features text = .ok turn.tree
  taken : ∃ cache cleared,
    readAll fs { parse := g.parse c.features, roots := roots } (turns.map Turn.page) =
        .ok (turns.map fun turn => (turn.page, turn.tree), cache) ∧
      (cache.parse = g.parse c.features ∧ cache.roots = roots ∧ cache.Faithful fs) ∧
      outcome (renew c.outputDirectory) fs = (.ok (), cleared) ∧
      c.Takes cleared cache turns after

/-- The output directory holds one page for every document to which an input leads, and nothing
else. -/
structure Delivers (g : Grammar) (fs : FileSystem) (roots : Roots) (inputs : List Path)
    (summary : Summary) (after : FileSystem) : Prop where
  ascending : summary.files.Pairwise fun file later => file.source.compare later.source = .lt
  sources : ∀ p, p ∈ summary.files.map GeneratedFile.source ↔
    ∃ input ∈ inputs, fs.canonicalPath input = .ok p
  apart : summary.files.Pairwise fun file later =>
    file.output.startsWith later.output = false ∧ later.output.startsWith file.output = false
  /-- The files below the output directory are the outputs. -/
  files : ∃ place, after.LeadsToPlain c.outputDirectory place ∧
    (∀ file ∈ summary.files, ∃ q, place <+: q ∧ after.canonical file.output = .ok q) ∧
    ∀ q, place <+: q → ((∃ content, after.top.item? q = some (.file content)) ↔
      ∃ file ∈ summary.files, after.canonical file.output = .ok q)
  /-- Every output holds the page that was rendered in its turn. -/
  turns : ∃ turns, c.TakesTurns g fs roots inputs turns after ∧
    summary.files = turns.map (Turn.generated c) ∧
    (summary.warnings = turns.flatMap fun turn => (turn.rendered c).warnings) ∧
    ∀ turn ∈ turns, ∃ q, after.canonical (c.output turn.page) = .ok q ∧
      after.top.item? q = some (.file (.text (turn.rendered c).source))

/-- Pages that go to different files are apart. -/
theorem startsWith_output {page other : PlannedPage} (hpage : Descends page)
    (hother : Descends other) (h : page.sharesOutput other = false) :
    (c.output page).startsWith (c.output other) = false := by
  obtain ⟨directories, file, hpage⟩ := hpage
  obtain ⟨directories', file', hother⟩ := hother
  refine Bool.eq_false_iff.mpr fun hstarts => ?_
  have hroute := Path.route_prefix_of_startsWith hstarts
  rw [output, output, Path.route_join hpage.isAbsolute, Path.route_join hother.isAbsolute,
    List.prefix_append_right_inj, hpage.route, hother.route] at hroute
  obtain ⟨names, hnames, heq⟩ := List.prefix_map_iff.mp hroute
  obtain rfl := (List.map_inj_right fun _ _ => Step.into.inj).mp heq
  rw [PlannedPage.sharesOutput, hother.eq_of_isPrefix hpage hnames] at h
  simp [Path.same] at h

section Rebuild

variable {c} {fs : FileSystem} {inputs : List Path} {found : Findings} {turns : List Turn}

/-- The turns of all trees are those of the planned pages. -/
theorem Checked.takesTurns (hfs : fs.isProper = true) (hchecked : c.Checked g fs inputs found)
    (htrees : turns.map (fun turn => (turn.page, turn.tree)) = found.trees)
    {cleared after : FileSystem}
    (hrenew : outcome (FileAction.renew c.outputDirectory) fs = (.ok (), cleared))
    (htakes : c.Takes cleared found.cache turns after) :
    c.TakesTurns g fs found.roots inputs turns after ∧ turns.map Turn.page = found.pages := by
  have hplanned := planned_of_plan hfs hchecked.pages
  obtain ⟨hpages, hread, hcache⟩ := readAll_eq_ok (by simp [Cache.Faithful])
    (fun page hpage => hplanned.canonicalPath hfs hpage) hchecked.trees
  have hturns : turns.map Turn.page = found.pages := by
    rw [← hpages, ← htrees, List.map_map]
    rfl
  refine ⟨⟨?_, fun turn hturn => ?_, fun turn _ => c.isFresh_context turn.page,
    fun turn hturn => ?_, found.cache, cleared, ?_, hcache, hrenew, htakes⟩, hturns⟩
  · rw [hturns, hchecked.pages]
  · have hmem : turn.page ∈ found.pages := hturns ▸ List.mem_map_of_mem hturn
    obtain ⟨input, hinput, hpage⟩ := exists_input_of_mem_plan hchecked.pages hmem
    exact ⟨input, hinput, planPage_eq_ok_iff.mp hpage⟩
  · have hmem : (turn.page, turn.tree) ∈ found.trees :=
      htrees ▸ List.mem_map.mpr ⟨turn, hturn, rfl⟩
    exact hread (turn.page, turn.tree) hmem
  · rw [hturns, htrees, hchecked.trees]

/-- **The third phase, if it succeeds.** -/
theorem Checked.delivers (hfs : fs.isProper = true) (hchecked : c.Checked g fs inputs found)
    (hkeeps : c.KeepsPath fs) (hpackage : '/' ∉ c.pagesPackage.toList) {summary : Summary}
    {after : FileSystem} (h : outcome (c.rebuild found) fs = (.ok summary, after)) :
    c.Delivers g fs found.roots inputs summary after := by
  obtain ⟨-, zone, -, -, -, hwithin, hok⟩ := hchecked.renew hfs hkeeps
  obtain ⟨cleared, hrenew, hwrite⟩ := c.outcome_rebuild_eq_ok.mp h
  rw [hrenew] at hwithin hok
  obtain ⟨place, -, hbare⟩ := hok rfl
  have hcleared := hwithin.proper hfs
  obtain ⟨turns, htrees, htakes, hfiles, hwarnings⟩ := c.takes_of_writeAll hwrite
  obtain ⟨hturns, hpages⟩ := hchecked.takesTurns hfs htrees hrenew htakes
  have hplanned := planned_of_plan hfs hchecked.pages
  have hascending := hplanned.ascending
  have hapart := checkCollisions_eq_ok_iff.mp hchecked.apart
  have hsources := hplanned.sources
  rw [← hpages, List.pairwise_map] at hascending hapart
  rw [← hpages, List.map_map] at hsources
  have hdescends : ∀ turn ∈ turns, Descends turn.page := fun turn hturn =>
    hchecked.descends hfs hpackage (turn.page, turn.tree)
      (htrees ▸ List.mem_map.mpr ⟨turn, hturn, rfl⟩)
  obtain ⟨hstands, honly⟩ :=
    htakes.files_of_bare hcleared hbare hdescends (hapart.imp And.left)
  have hplain := (htakes.builds hcleared hbare.leadsToPlain hdescends).leadsToPlain
    hbare.leadsToPlain
  rw [List.nil_append] at hfiles hwarnings
  refine ⟨?_, ?_, ?_, ⟨place, hplain, ?_, fun q hq => ?_⟩, turns, hturns, hfiles, hwarnings,
    fun turn hturn => ?_⟩
  · rw [hfiles, List.pairwise_map]
    exact hascending
  · rw [hfiles, List.map_map]
    exact hsources
  · rw [hfiles, List.pairwise_map]
    refine hapart.imp_of_mem fun hturn hlater hpair => ?_
    exact ⟨c.startsWith_output (hdescends _ hturn) (hdescends _ hlater) hpair.1,
      c.startsWith_output (hdescends _ hlater) (hdescends _ hturn) hpair.symm.1⟩
  · rw [hfiles]
    refine List.forall_mem_map.mpr fun turn hturn => ?_
    obtain ⟨q, hq, hcanonical, -⟩ := hstands turn hturn
    exact ⟨q, hq, hcanonical⟩
  · rw [honly q hq, hfiles]
    constructor
    · rintro ⟨turn, hturn, hcanonical⟩
      exact ⟨turn.generated c, List.mem_map_of_mem hturn, hcanonical⟩
    · rintro ⟨file, hfile, hcanonical⟩
      obtain ⟨turn, hturn, rfl⟩ := List.mem_map.mp hfile
      exact ⟨turn, hturn, hcanonical⟩
  · obtain ⟨q, -, hstand⟩ := hstands turn hturn
    exact ⟨q, hstand⟩

end Rebuild

/-- **Delivery.** A conversion that succeeds delivers one page for every document to which an input
leads, and nothing else. The path of the output directory must not lead over a link that is removed,
unless it makes sense without the link. -/
theorem perform_delivers {fs : FileSystem} (hfs : fs.isProper = true)
    (hpackage : '/' ∉ c.pagesPackage.toList) (hkeeps : c.KeepsPath (c.opened fs))
    (request : Option (List Path)) {summary : Summary} {after : FileSystem}
    (h : outcome (c.perform g request) fs = (.ok summary, after)) :
    ∃ roots, Roots.ofPaths (c.opened fs) c.rootPaths = .ok roots ∧
      c.Delivers g (c.opened fs) roots (c.inputs (c.opened fs) roots request) summary after := by
  rcases c.outcome_perform g request fs with ⟨error, herror⟩ | ⟨found, hchecked, houtcome⟩
  · cases (Prod.mk.inj (h.symm.trans herror)).1
  · exact ⟨found.roots, hchecked.roots, hchecked.delivers ((c.grows_opened hfs).proper hfs) hkeeps
      hpackage (houtcome.symm.trans h)⟩

/-- A site with a document and a page from an earlier conversion. -/
private def staleSite : FileSystem where
  top := .directory [
    ("docs", .directory [("index.md", .file (.text "# Hi\n\nSee [that](lost.md)."))]),
    ("out", .directory [("Old.kt", .file (.text ""))])]

private def staleConversion : Conversion where
  roots := [⟨"docs"⟩]
  outputDirectory := ⟨"out"⟩

/-- The page from the earlier conversion is gone, that of the document is there. -/
theorem perform_delivers_of_document :
    let request := some [⟨"docs/index.md"⟩]
    let summary : Summary :=
      { files := [⟨⟨"/docs/index.md"⟩, ⟨"out/pages/Index.kt"⟩⟩]
        warnings := ["Unresolved markdown reference 'lost.md' in index.md"] }
    let after := (outcome (staleConversion.perform .commonMark request) staleSite).2
    staleSite.isProper = true ∧ '/' ∉ staleConversion.pagesPackage.toList ∧
      staleConversion.KeepsPath (staleConversion.opened staleSite) ∧
      outcome (staleConversion.perform .commonMark request) staleSite = (.ok summary, after) ∧
      ∃ roots, Roots.ofPaths (staleConversion.opened staleSite) staleConversion.rootPaths =
          .ok roots ∧
        staleConversion.Delivers .commonMark (staleConversion.opened staleSite) roots
          (staleConversion.inputs (staleConversion.opened staleSite) roots request) summary
          after := by
  intro request summary after
  have hproper : staleSite.isProper = true := by decide +kernel
  have hpackage : '/' ∉ staleConversion.pagesPackage.toList :=
    Site.slash_notMem_of_isQualifiedName (by decide +kernel)
  have hkeeps : staleConversion.KeepsPath (staleConversion.opened staleSite) :=
    fun _ _ _ => .inl (keepsLinks_of_none (by decide +kernel))
  have houtcome : outcome (staleConversion.perform .commonMark request) staleSite =
      (.ok summary, after) := Prod.ext (by decide +kernel) rfl
  exact ⟨hproper, hpackage, hkeeps, houtcome,
    staleConversion.perform_delivers hproper hpackage hkeeps _ houtcome⟩

/-- A site whose output path leads through the link that it ends in. -/
private def circularSite : FileSystem where
  top := .directory [
    ("a", .directory [("b", .directory []), ("p", .link ⟨".."⟩)]),
    ("docs", .directory []),
    ("l", .link ⟨"a/b"⟩),
    ("p", .directory [("l", .directory [("Old.kt", .file (.text ""))])])]

private def circularConversion : Conversion where
  roots := [⟨"docs"⟩]
  outputDirectory := ⟨"l/../p/l"⟩

/-- A file from earlier that stays: the output path leads to `a/b` by way of the link `l`. Once the
link is removed and a directory is made in its place, it leads to `p/l`, which is not empty. -/
theorem perform_of_circular_output :
    let after := (outcome (circularConversion.perform .commonMark (some [])) circularSite).2
    circularSite.isProper = true ∧
      circularSite.canonical circularConversion.outputDirectory = .ok ["a", "b"] ∧
      outcome (circularConversion.perform .commonMark (some [])) circularSite = (.ok {}, after) ∧
      after.canonical circularConversion.outputDirectory = .ok ["p", "l"] ∧
      after.isFile ⟨"p/l/Old.kt"⟩ = true ∧
      ¬ ∃ roots, circularConversion.Delivers .commonMark circularSite roots [] {} after := by
  intro after
  have hcanonical : after.canonical circularConversion.outputDirectory = .ok ["p", "l"] := by
    decide +kernel
  have hstays : after.isFile ⟨"p/l/Old.kt"⟩ = true := by decide +kernel
  refine ⟨by decide +kernel, by decide +kernel, Prod.ext (by decide +kernel) rfl, hcanonical,
    hstays, fun ⟨_, hdelivers⟩ => ?_⟩
  obtain ⟨place, hplain, -, hfiles⟩ := hdelivers.files
  obtain rfl := Except.ok.inj (hplain.canonical.symm.trans hcanonical)
  have hplace : after.canonical ⟨"p/l/Old.kt"⟩ = .ok ["p", "l", "Old.kt"] := by decide +kernel
  obtain ⟨q, content, hq, hfile⟩ := isFile_iff.mp hstays
  obtain rfl := Except.ok.inj (hplace.symm.trans hq)
  obtain ⟨file, hmem, -⟩ := (hfiles _ ⟨["Old.kt"], rfl⟩).mp ⟨content, hfile⟩
  cases hmem

end Conversion

end MarkdownPages
