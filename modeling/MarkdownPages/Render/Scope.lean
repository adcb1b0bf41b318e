import MarkdownPages.Render.Rendering

/-!
# Carrying out what handlers do

A scope is the surroundings of a handler together with what the resolver remembers. Rendering a
node performs the operations of its handler on the scope.

Rendering need not end: a handler may render its own node again, and documents may embed one
another in a circle. So it is bounded twice. Within a document, a number bounds how deep nodes
are rendered inside one another; across documents, another number bounds how deep they are
embedded in one another. A run that meets a bound has no result, and a run with a result has the
same result under greater bounds. Where handlers render nothing but the children of their nodes,
the height of the tree bounds the first; the second is bounded by the number of documents,
because no document is entered while it is being rendered.

## Main definitions

* `Scope` — surroundings and the memory of the resolver
* `Rendering.perform` — the operations of a handler
* `HandlerTable.renderWithin` — a node, with both bounds given
* `HandlerTable.render` — a tree of a site with a known number of documents
-/

namespace MarkdownPages

/-- The surroundings of a handler and what the resolver remembers. -/
structure Scope (σ : Type) extends Surroundings where
  store : σ

variable {σ : Type}

/-- A step that gives a text and changes the scope, unless it meets a bound. -/
abbrev Visit (σ : Type) := Node → Scope σ → Option (String × Scope σ)

namespace Scope

/-- The scope with another context. -/
def withContext (scope : Scope σ) (context : Context) : Scope σ := { scope with context := context }

end Scope

/-- Renders nodes one after the other. -/
def visitAll (visit : Visit σ) : List Node → Scope σ → Option (String × Scope σ)
  | [], scope => some ("", scope)
  | node :: rest, scope => do
    let (first, scope) ← visit node scope
    let (others, scope) ← visitAll visit rest scope
    return (first ++ others, scope)

/-- Renders the children of a node, which is their parent meanwhile. -/
def visitChildren (visit : Visit σ) : Visit σ := fun node scope => do
  let (text, after) ←
    visitAll visit node.children { scope with ancestors := node.kind :: scope.ancestors }
  return (text, { after with ancestors := after.ancestors.tail })

namespace Rendering

/-- Performs operations, where `visit` renders a node of the same document and `enter` the
contents of another one. -/
def perform (resolver : Resolver σ) (visit enter : Visit σ) :
    Rendering → Scope σ → Option (String × Scope σ)
  | output text, scope => some (text, scope)
  | render node next, scope => do
    let (text, scope) ← visit node scope
    perform resolver visit enter (next text) scope
  | renderChildren node next, scope => do
    let (text, scope) ← visitChildren visit node scope
    perform resolver visit enter (next text) scope
  | indent inner next, scope => do
    let (text, after) ←
      perform resolver visit enter inner { scope with depth := scope.depth + 1 }
    perform resolver visit enter (next text) { after with depth := after.depth - 1 }
  | look next, scope => perform resolver visit enter (next scope.toSurroundings) scope
  | addImport target next, scope =>
    perform resolver visit enter next (scope.withContext (scope.context.addImport target))
  | warn message next, scope =>
    perform resolver visit enter next (scope.withContext (scope.context.warn message))
  | headingId text next, scope =>
    let (id, context) := scope.context.headingId text
    perform resolver visit enter (next id) (scope.withContext context)
  | resolve destination next, scope =>
    let (reference, context, store) := scope.context.resolve resolver destination scope.store
    perform resolver visit enter (next reference)
      { scope with context := context, store := store }
  | embed document next, scope =>
    if scope.context.isRendering document.path then
      perform resolver visit enter (next none) scope
    else do
      let (text, after) ←
        enter document.tree
          { scope with context := scope.context.enter document, ancestors := [] }
      perform resolver visit enter (next (some text))
        { after with
          context := after.context.leave scope.context.sourcePath
          ancestors := scope.ancestors }

end Rendering

namespace HandlerTable

/-- Renders a node by its handler, with nodes at most `levels` deep inside one another. -/
def visit (table : HandlerTable) (resolver : Resolver σ) (enter : Visit σ) : Nat → Visit σ
  | 0 => fun _ _ => none
  | levels + 1 => fun node scope =>
    (table.handlerFor node.kind node).perform resolver (table.visit resolver enter levels) enter
      scope

/-- Renders the contents of a document, with documents at most `embeds` deep inside one another
and as many levels of nodes in each as `levels` allows for its tree. -/
def enter (table : HandlerTable) (resolver : Resolver σ) (levels : Node → Nat) : Nat → Visit σ
  | 0 => fun _ _ => none
  | embeds + 1 => fun tree scope =>
    visitChildren (table.visit resolver (table.enter resolver levels embeds) (levels tree)) tree
      scope

/-- Renders a tree under both bounds. -/
def renderWithin (table : HandlerTable) (resolver : Resolver σ) (levels : Node → Nat)
    (embeds : Nat) : Visit σ := fun tree scope =>
  table.visit resolver (table.enter resolver levels embeds) (levels tree) tree scope

/-- Renders a tree whose resolver knows at most `documents` documents, by handlers that render
nothing but the children of their nodes. -/
def render (table : HandlerTable) (resolver : Resolver σ) (documents : Nat) (tree : Node)
    (scope : Scope σ) : String × Scope σ :=
  (table.renderWithin resolver Node.height documents tree scope).getD ("", scope)

end HandlerTable

end MarkdownPages
