import MarkdownPages.Proofs.Page.Gathering
import MarkdownPages.Proofs.Render.ElementDenotation
import MarkdownPages.Proofs.Text.Pieces
import MarkdownPages.Render.Page

/-!
# The parts of a page

A page is put together from calls around its body, the imports that were gathered before the body
was rendered, and the body, which prints the statements of the document.

## Main definitions

* `Page.front` — the front matter of a page
* `Page.calls`, `Page.opening` — the calls around the body, and the context before it
* `Page.bodyScope`, `Page.body` — where the body is rendered, and the rendered body
* `Page.statements` — the statements of the body
* `Page.called` — the elements that the lines of the body call

## Main results

* `Page.body_elements` — the body prints the statements of the document
* `Page.render_imports` — the imports of a page, in the order in which they are gathered
-/

namespace MarkdownPages

/-! ### Names at the start of lines -/

namespace Kotlin

/-- What is read as a name at the start of a line is made of the characters of names. -/
theorem isIdentifierPart_of_mem_heads {ls : List (List Char)} {name : String}
    (h : name ∈ heads ls) : name ≠ "" ∧ ∀ c ∈ name.toList, isIdentifierPart c = true := by
  rw [heads, List.mem_map] at h
  obtain ⟨head, hhead, rfl⟩ := h
  obtain ⟨hmem, hne⟩ := List.mem_filter.mp hhead
  obtain ⟨line, -, rfl⟩ := List.mem_map.mp hmem
  refine ⟨fun hempty => ?_, fun c hc => ?_⟩
  · have hnil : headOf line = [] := by
      rw [← String.toList_ofList (l := headOf line), hempty, String.toList_empty]
    rw [hnil] at hne
    exact absurd hne (by decide)
  · rw [String.toList_ofList] at hc
    exact List.all_eq_true.mp List.all_takeWhile c hc

end Kotlin

namespace Page

variable {σ : Type}

/-- The front matter of the page of a document, which may have none. -/
def front (tree : Node) : FrontMatter := tree.frontMatter?.getD {}

/-! ### Around the body -/

/-- Only a qualified name is more than its last part. -/
theorem simpleName_eq_self_iff {qualified : String} :
    qualified = simpleName qualified ↔ '.' ∉ qualified.toList := by
  rw [simpleName]
  cases hcut : Text.cutLast '.' qualified.toList with
  | none => simp [Text.cutLast_eq_none_iff.mp hcut]
  | some parts =>
    obtain ⟨before, name⟩ := parts
    have hparts := Text.cutLast_eq_some hcut
    have hdot : '.' ∈ qualified.toList := by simp [hparts]
    have hne : qualified ≠ String.ofList name := by
      rintro rfl
      rw [String.toList_ofList] at hparts
      have hlength := congrArg List.length hparts
      rw [List.length_append, List.length_cons] at hlength
      omega
    simp [hdot, hne]

/-- The import of a layout, unless it needs none. -/
def layoutImports (tree : Node) (context : Context) : List String :=
  ((layout? (front tree) context).filter fun qualified => '.' ∈ qualified.toList).toList

theorem mem_layoutImports (tree : Node) (context : Context) {target : String} :
    target ∈ layoutImports tree context ↔
      layout? (front tree) context = some target ∧ '.' ∈ target.toList := by
  rw [layoutImports, Option.mem_toList, Option.filter_eq_some_iff, decide_eq_true_eq]

/-- The targets that are imported before the body is rendered. -/
def openingImports (tree : Node) (context : Context) : List String :=
  baseImports ++ (front tree).imports ++
    (if context.markdownArtifact then markdownContextImports else []) ++
    layoutImports tree context

/-- The calls around the body of a page, outermost first. -/
def calls (tree : Node) (context : Context) : List String :=
  (if context.markdownArtifact then [markdownContextCall context.sourcePath (front tree)]
    else []) ++ ((layout? (front tree) context).map simpleName).toList

/-- The context that the body of a page is rendered in. -/
def opening (tree : Node) (context : Context) : Context :=
  { context with imports := (openingImports tree context).foldl gather context.imports }

theorem addImports_addImports (context : Context) (targets more : List String) :
    (context.addImports targets).addImports more = context.addImports (targets ++ more) := by
  rw [Context.addImports, Context.addImports, Context.addImports, List.foldl_append]

theorem addImports_singleton (context : Context) (target : String) :
    context.addImports [target] = context.addImport target := by
  rw [Context.addImports, List.foldl_cons, List.foldl_nil]

/-- The layout does not depend on what has been imported. -/
theorem layout?_addImports (frontMatter : FrontMatter) (context : Context)
    (targets : List String) :
    layout? frontMatter (context.addImports targets) = layout? frontMatter context := by
  rw [Context.addImports_eq, layout?, layout?]

theorem opening_eq (tree : Node) (context : Context) :
    opening tree context = context.addImports (openingImports tree context) := by
  rw [opening, Context.addImports_eq]

/-- The layout of a page, with its import. -/
private theorem layout_eq (tree : Node) (context : Context) (outer targets : List String) :
    (match layout? (front tree) context with
      | none => (outer, context.addImports targets)
      | some qualified =>
        (outer ++ [simpleName qualified],
          if qualified = simpleName qualified then context.addImports targets
          else (context.addImports targets).addImport qualified)) =
      (outer ++ ((layout? (front tree) context).map simpleName).toList,
        context.addImports (targets ++ layoutImports tree context)) := by
  rw [layoutImports]
  cases layout? (front tree) context with
  | none => simp
  | some qualified =>
    by_cases hdot : '.' ∈ qualified.toList
    · have hne : qualified ≠ simpleName qualified := fun heq => simpleName_eq_self_iff.mp heq hdot
      rw [Option.filter_some, if_pos (decide_eq_true hdot), ← addImports_addImports]
      simp only [if_neg hne, Option.map_some, Option.toList_some, addImports_singleton]
    · rw [Option.filter_some, if_neg (by simpa using hdot)]
      simp only [if_pos (simpleName_eq_self_iff.mpr hdot), Option.map_some, Option.toList_some,
        Option.toList_none, List.append_nil]

theorem wrappers_eq (tree : Node) (context : Context) :
    wrappers (front tree) (context.addImports (baseImports ++ (front tree).imports)) =
      (calls tree context, opening tree context) := by
  have hartifact : (context.addImports (baseImports ++ (front tree).imports)).markdownArtifact =
      context.markdownArtifact := by rw [Context.addImports_eq]
  have hpath : (context.addImports (baseImports ++ (front tree).imports)).sourcePath =
      context.sourcePath := by rw [Context.addImports_eq]
  rw [wrappers, hartifact, hpath, opening_eq, openingImports, calls]
  by_cases h : context.markdownArtifact = true
  · simp only [if_pos h, addImports_addImports, layout?_addImports]
    exact layout_eq tree context _ _
  · simp only [if_neg h, layout?_addImports, List.append_nil]
    exact layout_eq tree context _ _

/-- The scope that the body of a page is rendered in. -/
def bodyScope (tree : Node) (context : Context) (store : σ) : Scope σ where
  context := opening tree context
  depth := (calls tree context).length + 1
  store := store

/-! ### The body -/

/-- The body of a page, with the scope after it. -/
def body (table : HandlerTable) (resolver : Resolver σ) (documents : Nat) (tree : Node)
    (context : Context) (store : σ) : String × Scope σ :=
  table.render resolver documents tree (bodyScope tree context store)

theorem render_eq (table : HandlerTable) (resolver : Resolver σ) (documents : Nat) (tree : Node)
    (context : Context) (store : σ) :
    render table resolver documents tree context store =
      ({ source := assemble (body table resolver documents tree context store).2.context
          (wrapBody (body table resolver documents tree context store).1 1 (calls tree context))
         warnings := (body table resolver documents tree context store).2.context.warnings },
        (body table resolver documents tree context store).2.context,
        (body table resolver documents tree context store).2.store) := by
  have hfront : tree.frontMatter?.getD {} = front tree := rfl
  simp only [render, hfront, wrappers_eq, body, bodyScope]

/-- The statements of the body of a page, with what is carried along after them. A document that
meets the bound on embedded documents has none. -/
def statements (resolver : Resolver σ) (documents : Nat) (tree : Node) (context : Context)
    (store : σ) : List Statement × Ledger σ :=
  (tree.outline resolver (contents resolver documents)
    (bodyScope tree context store).standpoint (bodyScope tree context store).ledger).getD
    ([], (bodyScope tree context store).ledger)

/-- The body of a page prints the statements of the document. -/
theorem body_elements (resolver : Resolver σ) (documents : Nat) (tree : Node) (context : Context)
    (store : σ) : body .elements resolver documents tree context store =
      (bodyScope tree context store).finish (statements resolver documents tree context store) := by
  rw [body, HandlerTable.render, renderWithin_elements, statements]
  cases tree.outline resolver (contents resolver documents)
    (bodyScope tree context store).standpoint (bodyScope tree context store).ledger with
  | none => rw [Option.map_none, Option.getD_none, Option.getD_none, Scope.finish_nil]
  | some result => rw [Option.map_some, Option.getD_some, Option.getD_some]

section Body

variable (resolver : Resolver σ) (documents : Nat) (tree : Node) (context : Context) (store : σ)

/-- The elements that the lines of the body of a page call. -/
def called : List String :=
  Kotlin.heads (Text.lines (body .elements resolver documents tree context store).1.toList)

theorem called_eq : called resolver documents tree context store =
    Statement.namesAll (statements resolver documents tree context store).1 := by
  rw [called, body_elements, Scope.finish]
  dsimp only
  rw [Statement.lines_unlines_linesAll, Statement.heads_linesAll]

/-- Everything that is imported is gathered in one order: what is imported before the body, and
then the elements that the body calls. -/
theorem render_imports : (render .elements resolver documents tree context store).2.1.imports =
    (openingImports tree context ++
      (called resolver documents tree context store).map importOf).foldl gather
        context.imports := by
  rw [render_eq, called_eq, body_elements, List.foldl_append]
  simp only [Scope.finish, Scope.after, bodyScope, opening]

end Body

end Page

end MarkdownPages
