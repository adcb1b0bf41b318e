import Mathlib.Data.List.Pairwise
import MarkdownPages.Proofs.Conversion.Clash
import MarkdownPages.Proofs.Conversion.InputOrder
import MarkdownPages.Proofs.Site.Route

/-!
# Pages that share a route

Pages that get into each other's way are refused, but what is compared are their files and their
functions. A route forgets more than either of them does, so two pages of one conversion may have
one route, and a link to the document of the one may lead to the other. There are two ways for this
to happen: the documents differ in case only, or one of them is the index of a directory and the
other one stands beside the directory and is named like it.

A link goes by the path that its document has below the roots of the cache. Pages are planned with
the same roots, so it goes to the route of the page of the document.

## Main definitions

* `Site.AreTwins` — documents that share a route though their pages go to different files
* `Routed` — pages that are placed by the paths of their documents
* `PlannedPage.IsLinkedFrom` — a link to the document of a page goes to the route of the page

## Main results

* `route_eq_iff_of_checkCollisions` — two pages of one conversion share a route if and only if their
  documents are twins
* `exists_twins_of_checkCollisions` — pages that are not refused and share a route
-/

namespace MarkdownPages

/-- Two documents differ in case, or one of them is an index and the other one is named like it. -/
def Site.AreTwins (path other : String) : Prop :=
  DifferInCase path other ∨ IsNamedLikeIndex path other ∨ IsNamedLikeIndex other path

/-- Every page is placed by the path of its document below its root. -/
def Routed (basePackage : String) (pages : List PlannedPage) : Prop :=
  ∀ page ∈ pages, page.placement = Site.place page.file.relativePath basePackage

/-- The route to the page of a document. -/
def PlannedPage.route (page : PlannedPage) : String := Site.route page.file.relativePath

/-- What a link to a page is rendered as: a call with the route, and the fragment behind it. -/
def PlannedPage.linkCall (page : PlannedPage) (fragment : Option String) (link : Node) :
    Rendering :=
  .addImport silkLink <|
    .block (Elements.callOn "Link" (page.route ++ fragment.getD "")) link

/-- A link that leads to the document of a page, seen from a scope, goes to the route of the page,
whatever the link holds. -/
def PlannedPage.IsLinkedFrom (page : PlannedPage) (fs : FileSystem) (scope : Scope Cache) : Prop :=
  ∀ (destination title : String) (children : List Node) (document : ResolvedDocument)
    (fragment : Option String) (context : Context) (cache : Cache),
    scope.context.resolve (Cache.resolver fs) destination scope.store =
        (.resolved document fragment, context, cache) →
      document.path = page.path → ∀ visit enter,
        (Elements.link ⟨.link destination title, children⟩).perform (Cache.resolver fs) visit enter
            scope =
          (page.linkCall fragment ⟨.link destination title, children⟩).perform (Cache.resolver fs)
            visit enter { scope with context := context, store := cache }

/-! ### Links -/

/-- A document to which a destination leads was looked up. -/
private theorem exists_lookup {fs : FileSystem} {context after : Context} {destination : String}
    {cache kept : Cache} {document : ResolvedDocument} {fragment : Option String}
    (h : context.resolve (Cache.resolver fs) destination cache =
      (.resolved document fragment, after, kept)) :
    ∃ text, (Cache.resolver fs).lookup text cache = (some document, kept) := by
  rw [Context.resolve] at h
  cases hreference : markdownReference? destination.toList with
  | none =>
    rw [hreference] at h
    cases h
  | some target =>
    obtain ⟨path, written⟩ := target
    rw [hreference] at h
    dsimp only at h
    generalize hlookup : (Cache.resolver fs).lookup
      (String.ofList (pathFromSource context.sourcePath.toList path)) cache = looked at h
    obtain ⟨found, store⟩ := looked
    cases found with
    | none => cases h
    | some other =>
      obtain ⟨hdocument, hstore⟩ := Prod.mk.inj h
      obtain ⟨rfl, -⟩ := Reference.resolved.inj hdocument
      obtain ⟨-, rfl⟩ := Prod.mk.inj hstore
      exact ⟨_, hlookup⟩

/-- A page with the path that its document has below the roots of the cache is linked to. -/
private theorem isLinkedFrom_of_relativePath? {fs : FileSystem} {scope : Scope Cache}
    {page : PlannedPage}
    (h : scope.store.roots.relativePath? page.path = some page.file.relativePath) :
    page.IsLinkedFrom fs scope := by
  intro destination title children document fragment context cache hresolve hpath visit enter
  obtain ⟨text, hlookup⟩ := exists_lookup hresolve
  have hrelative := Cache.relativePath?_of_lookup hlookup
  rw [hpath, h] at hrelative
  have hroute : page.route = Site.route document.relativePath :=
    congrArg Site.route (Option.some.inj hrelative)
  rw [Elements.link]
  dsimp only
  rw [Rendering.perform, hresolve, PlannedPage.linkCall, hroute]

/-! ### Shared routes -/

section Routed

variable {basePackage : String} {pages : List PlannedPage} {page other : PlannedPage}

/-- Two pages that are placed alike would get into each other's way. -/
private theorem eq_of_place_eq (h : checkCollisions pages = .ok ()) (hpage : page ∈ pages)
    (hother : other ∈ pages) (hplace : page.placement = other.placement) : page = other := by
  refine Classical.byContradiction fun hne => ?_
  have : Std.Symm PlannedPage.Apart := ⟨fun _ _ hapart => hapart.symm⟩
  have hapart := (checkCollisions_eq_ok_iff.mp h).forall hpage hother hne
  refine Bool.eq_false_iff.mp hapart.1 ?_
  rw [PlannedPage.sharesOutput, hplace]
  exact beq_self_eq_true _

/-- **Routes of one conversion.** Of pages that do not get into each other's way, only those of
twins share a route. A link goes to the route of the page of its document, wherever in a conversion
with that plan it is rendered. So it leads to the page of the document that it names, or to the page
of a twin. -/
theorem route_eq_iff_of_checkCollisions (hrouted : Routed basePackage pages)
    (h : checkCollisions pages = .ok ()) :
    (∀ page ∈ pages, ∀ other ∈ pages, page.route = other.route ↔
      page = other ∨ Site.AreTwins page.file.relativePath other.file.relativePath) ∧
    ∀ (start fs : FileSystem) (inputs : List Path) (scope : Scope Cache),
      plan start scope.store.roots basePackage inputs = .ok pages →
        ∀ page ∈ pages, page.IsLinkedFrom fs scope := by
  refine ⟨fun page hpage other hother => ?_, fun start fs inputs scope hplan page hpage => ?_⟩
  · rw [PlannedPage.route, PlannedPage.route, Site.route_eq_iff]
    constructor
    · rintro (⟨hsegments, hindex, hotherIndex⟩ | htwins)
      · refine .inl (eq_of_place_eq h hpage hother ?_)
        rw [hrouted page hpage, hrouted other hother,
          Site.place_congr hsegments (hindex.trans hotherIndex.symm)]
      · exact .inr htwins
    · rintro (rfl | htwins)
      · exact (Site.route_eq_iff _ _).mp rfl
      · exact .inr htwins
  · obtain ⟨input, -, hinput⟩ := exists_input_of_mem_plan hplan hpage
    exact isLinkedFrom_of_relativePath? (planPage_eq_ok_iff.mp hinput).2.1

end Routed

/-- The page of a document below the root `/site`. -/
private def sitePage (relativePath : String) : PlannedPage where
  file := ⟨⟨"/site/" ++ relativePath⟩, relativePath⟩
  placement := Site.place relativePath "pages"

/-- A site with two documents that are no twins. -/
private def guideSite : FileSystem where
  top := .directory [("site", .directory [
    ("docs", .directory [("guide.md", .file (.text ""))]),
    ("guide", .directory [("docs.md", .file (.text ""))])])]

/-- Two pages that are no twins have different routes, and are linked to by them. -/
theorem route_eq_iff_of_guide :
    let pages := [sitePage "docs/guide.md", sitePage "guide/docs.md"]
    let roots : Roots := ⟨[⟨"/site"⟩]⟩
    Routed "pages" pages ∧ checkCollisions pages = .ok () ∧
      plan guideSite roots "pages" [⟨"/site/docs/guide.md"⟩, ⟨"/site/guide/docs.md"⟩] = .ok pages ∧
      ((sitePage "docs/guide.md").route = (sitePage "guide/docs.md").route ↔
        sitePage "docs/guide.md" = sitePage "guide/docs.md" ∨
          Site.AreTwins "docs/guide.md" "guide/docs.md") ∧
      ∀ scope : Scope Cache, scope.store.roots = roots →
        (sitePage "docs/guide.md").IsLinkedFrom guideSite scope := by
  have hrouted : Routed "pages" [sitePage "docs/guide.md", sitePage "guide/docs.md"] := by
    simp [Routed, sitePage]
  have haccepted : checkCollisions [sitePage "docs/guide.md", sitePage "guide/docs.md"] = .ok () :=
    by decide +kernel
  have hplan : plan guideSite ⟨[⟨"/site"⟩]⟩ "pages"
      [⟨"/site/docs/guide.md"⟩, ⟨"/site/guide/docs.md"⟩] =
        .ok [sitePage "docs/guide.md", sitePage "guide/docs.md"] := by
    have hall : [⟨"/site/docs/guide.md"⟩, ⟨"/site/guide/docs.md"⟩].mapM
        (planPage guideSite ⟨[⟨"/site"⟩]⟩ "pages") =
          .ok [sitePage "docs/guide.md", sitePage "guide/docs.md"] := by decide +kernel
    -- the inputs are in order already
    have hsorted : [sitePage "docs/guide.md", sitePage "guide/docs.md"].Pairwise
        fun page later => page.path.le later.path = true := by decide +kernel
    rw [plan, hall]
    change Except.ok (Discovery.dropRepeated _ (List.mergeSort _ _)) = _
    rw [List.mergeSort_of_pairwise hsorted]
    decide +kernel
  obtain ⟨hroutes, hlinks⟩ := route_eq_iff_of_checkCollisions hrouted haccepted
  exact ⟨hrouted, haccepted, hplan, hroutes _ (by simp) _ (by simp),
    fun scope hscope => hlinks guideSite guideSite _ scope (hscope ▸ hplan) _ (by simp)⟩

/-- Pages that are not refused and share a route: `docs.md` stands beside the directory of
`docs/index.md`, and `MyPost.md` differs from `mypost.md` in case. -/
theorem exists_twins_of_checkCollisions :
    let pages := [sitePage "MyPost.md", sitePage "docs.md", sitePage "docs/index.md",
      sitePage "mypost.md"]
    Kotlin.isQualifiedName "pages".toList = true ∧ Routed "pages" pages ∧
      checkCollisions pages = .ok () ∧ pages.Nodup ∧
      ¬ (pages.map PlannedPage.route).Nodup ∧
      (sitePage "docs.md").route = "/docs" ∧ (sitePage "docs/index.md").route = "/docs" ∧
      (sitePage "MyPost.md").route = "/mypost" ∧ (sitePage "mypost.md").route = "/mypost" := by
  refine ⟨by decide +kernel, by simp [Routed, sitePage], by decide +kernel, by decide +kernel,
    by decide +kernel, by decide +kernel, by decide +kernel, by decide +kernel, by decide +kernel⟩

end MarkdownPages
