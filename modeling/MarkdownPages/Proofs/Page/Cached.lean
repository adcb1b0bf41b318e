import MarkdownPages.Conversion.Run
import MarkdownPages.Proofs.Page.Assembly
import MarkdownPages.Proofs.Render.Simulation
import MarkdownPages.Proofs.Sources.Containment

/-!
# Pages with the documents of a cache

While a page is rendered the cache looks documents up in a file system. Whatever a cache finds is a
file of that file system, so there are at most as many documents as files, and the bound on embedded
documents is never met. Two caches that answer alike, and go on doing so, therefore give one page.

## Main definitions

* `Entry.filePlaces` — the places of the files in a tree
* `Cache.page` — the page of a document, with the documents that a cache finds

## Main results

* `Cache.mem_of_returns` — what is found is a file
* `Cache.page_alike` — caches that answer alike give one page
-/

namespace MarkdownPages

/-! ### The files in a tree -/

namespace Entry

mutual

/-- The places of the files in a tree. -/
def filePlaces : Entry → List (List RawText)
  | file _ => [[]]
  | link _ => []
  | directory entries => filePlacesAll entries

/-- The places of the files below several names. -/
def filePlacesAll : List (RawText × Entry) → List (List RawText)
  | [] => []
  | (name, entry) :: rest => (filePlaces entry).map (name :: ·) ++ filePlacesAll rest

end

mutual

theorem length_filePlaces : ∀ entry : Entry, entry.filePlaces.length = entry.fileCount
  | file _ => rfl
  | link _ => rfl
  | directory entries => by rw [filePlaces, fileCount, length_filePlacesAll entries]

theorem length_filePlacesAll : ∀ entries : List (RawText × Entry),
    (filePlacesAll entries).length = fileCountAll entries
  | [] => rfl
  | (name, entry) :: rest => by
    rw [filePlacesAll, fileCountAll, List.length_append, List.length_map, length_filePlaces entry,
      length_filePlacesAll rest]

end

theorem mem_filePlacesAll {name : RawText} {entry : Entry} {entries : List (RawText × Entry)}
    {place : List RawText} (hentry : (name, entry) ∈ entries) (h : place ∈ entry.filePlaces) :
    name :: place ∈ filePlacesAll entries := by
  induction entries with
  | nil => cases hentry
  | cons head rest ih =>
    rw [filePlacesAll]
    rcases List.mem_cons.mp hentry with rfl | hrest
    · exact List.mem_append_left _ (List.mem_map_of_mem h)
    · exact List.mem_append_right _ (ih hrest)

/-- Where a file stands is one of the places. -/
theorem mem_filePlaces {top : Entry} {place : List RawText} {content : Content}
    (h : top.item? place = some (.file content)) : place ∈ top.filePlaces := by
  induction place generalizing top with
  | nil =>
    cases top with
    | file content => exact List.mem_singleton.mpr rfl
    | link | directory => cases h
  | cons name rest ih =>
    obtain ⟨entry, hentry, hitem⟩ := Option.map_eq_some_iff.mp h
    obtain ⟨child, hchild, hrest⟩ := Option.bind_eq_some_iff.mp hentry
    have hbelow : child.item? rest = some (.file content) := by rw [item?, hrest, ← hitem]; rfl
    cases top with
    | file | link => cases hchild
    | directory entries =>
      rw [filePlaces]
      exact mem_filePlacesAll (Ascending.mem_of_get? hchild) (ih hbelow)

end Entry

namespace Cache

/-! ### What is found -/

/-- The document that is found for a path is a file, under its canonical path. -/
theorem mem_of_returns {fs : FileSystem} {document : ResolvedDocument}
    (h : (resolver fs).Returns document) :
    document.path ∈ fs.top.filePlaces.map Path.ofNames := by
  obtain ⟨text, cache, after, hlookup⟩ := h
  have hfound : (cache.getRelative? fs text).1.map Found.resolved = some document :=
    congrArg Prod.fst hlookup
  obtain ⟨found, hanswer, rfl⟩ := Option.map_eq_some_iff.mp hfound
  rcases cache.getRelative?_cases fs text with ⟨canonical, hresolve, -, hpath⟩ | hnone
  · obtain ⟨rfl, -⟩ := hpath found hanswer
    obtain ⟨-, place, content, -, hitem, hplace⟩ :=
      (Roots.resolve?_eq_some.mp hresolve).leadsToFile
    exact List.mem_map.mpr ⟨place, Entry.mem_filePlaces hitem, hplace.symm⟩
  · rw [hnone] at hanswer
    cases hanswer

/-! ### Pages -/

/-- The page of a document, with the documents that a cache finds. -/
def page (cache : Cache) (fs : FileSystem) (tree : Node) (context : Context) :
    Page × Context × Cache :=
  Page.render .elements (resolver fs) (cache.documentBound fs) tree context cache

/-- The pages of a conversion are pages with the documents that its cache finds. -/
theorem renderPage_eq (c : Conversion) (fs : FileSystem) (cache : Cache) (planned : PlannedPage)
    (tree : Node) : c.renderPage fs cache planned tree =
      ((cache.page fs tree (c.context planned)).1, (cache.page fs tree (c.context planned)).2.2) :=
  rfl

theorem fileCount_le_documentBound (cache : Cache) (fs : FileSystem) :
    (fs.top.filePlaces.map Path.ofNames).length ≤ cache.documentBound fs := by
  rw [List.length_map, Entry.length_filePlaces, documentBound, FileSystem.fileCount]
  exact Nat.le_add_right ..

/-- **Pages.** Caches that answer alike, and go on answering alike, give one page. -/
theorem page_alike {related : Cache → Cache → Prop} {fs other : FileSystem}
    (h : Resolver.Follows related (resolver fs) (resolver other)) {cache cache' : Cache}
    (hcache : related cache cache') (tree : Node) (context : Context) :
    (cache'.page other tree context).1 = (cache.page fs tree context).1 ∧
      (cache'.page other tree context).2.1 = (cache.page fs tree context).2.1 ∧
      related (cache.page fs tree context).2.2 (cache'.page other tree context).2.2 := by
  have hscope : Scope.Alike related (Page.bodyScope tree context cache)
      (Page.bodyScope tree context cache') := ⟨rfl, hcache⟩
  obtain ⟨text, after, after', hbody, hbody', hafter⟩ :=
    renderWithin_elements_alike h
      (fun document hdocument => ⟨_, mem_of_returns hdocument, by simp [Path.same]⟩)
      (fun document hdocument => ⟨_, mem_of_returns hdocument, by simp [Path.same]⟩)
      (cache.fileCount_le_documentBound fs) (cache'.fileCount_le_documentBound other) tree hscope
  have hfirst : Page.body .elements (resolver fs) (cache.documentBound fs) tree context cache =
      (text, after) := by rw [Page.body, HandlerTable.render, hbody, Option.getD_some]
  have hsecond :
      Page.body .elements (resolver other) (cache'.documentBound other) tree context cache' =
        (text, after') := by rw [Page.body, HandlerTable.render, hbody', Option.getD_some]
  rw [page, page, Page.render_eq, Page.render_eq, hfirst, hsecond]
  dsimp only
  rw [hafter.surroundings]
  exact ⟨rfl, rfl, hafter.store⟩

end Cache

end MarkdownPages
