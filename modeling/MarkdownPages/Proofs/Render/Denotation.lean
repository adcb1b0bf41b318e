import MarkdownPages.Proofs.Render.Outline
import MarkdownPages.Render.Scope

/-!
# Operations that print statements

Operations of a handler print the statements of an outline if they give the code of the statements
at the current indentation and gather the imports of the elements that the statements call, in the
order of the calls. Everything else that a scope holds is either untouched or carried along.

The import of an element is gathered before its call is printed, and sometimes those of several
elements are gathered together. So what operations print is described after the imports of the
first few calls have been gathered.

## Main definitions

* `importOf` — the import of an element
* `Scope.standpoint`, `Scope.ledger` — what the statements of a node depend on, in a scope
* `Scope.finish` — the code of statements and the scope after them
* `Rendering.Gives`, `Rendering.Yields` — what it is for operations to print statements

## Main results

* `Rendering.Gives.wrap` — a block is printed around its statements
* `visitChildren_eq` — the children of a node, given that each prints its statements
-/

namespace MarkdownPages

variable {σ : Type}

/-! ### What is gathered and carried along -/

/-- The imports with one more target. -/
def gather (imports : List String) (target : String) : List String :=
  if (Text.trimmed target).isEmpty then imports
  else Ascending.insert (Text.trimmed target) imports

theorem Context.addImport_eq (context : Context) (target : String) :
    context.addImport target = { context with imports := gather context.imports target } := by
  rw [addImport, gather]
  split <;> rfl

/-- The import of an element. Links to other documents are not an element of the markup. -/
def importOf (name : String) : String := if name = "Link" then silkLink else domImport name

theorem importOf_of_ne {name : String} (h : name ≠ "Link") : importOf name = domImport name :=
  if_neg h

namespace Scope

/-- What the statements of a node depend on. -/
def standpoint (scope : Scope σ) : Standpoint where
  sourcePath := scope.context.sourcePath
  includeStack := scope.context.includeStack
  inTableHead := scope.inside .tableHead

/-- What is carried along from node to node. -/
def ledger (scope : Scope σ) : Ledger σ where
  headingCounts := scope.context.headingCounts
  warnings := scope.context.warnings
  store := scope.store

/-- The scope after calls of the named elements, with another ledger. -/
def after (scope : Scope σ) (names : List String) (ledger : Ledger σ) : Scope σ :=
  { scope with
    context :=
      { scope.context with
        imports := (names.map importOf).foldl gather scope.context.imports
        headingCounts := ledger.headingCounts
        warnings := ledger.warnings }
    store := ledger.store }

/-- The code of statements, and the scope after them. -/
def finish (scope : Scope σ) (result : List Statement × Ledger σ) : String × Scope σ :=
  (Text.unlines (Statement.linesAll scope.depth result.1),
    scope.after (Statement.namesAll result.1) result.2)

@[simp] theorem standpoint_after (scope : Scope σ) (names : List String) (ledger : Ledger σ) :
    (scope.after names ledger).standpoint = scope.standpoint := rfl

@[simp] theorem ledger_after (scope : Scope σ) (names : List String) (ledger : Ledger σ) :
    (scope.after names ledger).ledger = ledger := rfl

theorem after_after (scope : Scope σ) (names more : List String) (ledger last : Ledger σ) :
    (scope.after names ledger).after more last = scope.after (names ++ more) last := by
  simp only [after, List.map_append, List.foldl_append]

/-- The scope one level deeper. -/
def deeper (scope : Scope σ) : Scope σ := { scope with depth := scope.depth + 1 }

/-- The scope one level back. -/
def shallower (scope : Scope σ) : Scope σ := { scope with depth := scope.depth - 1 }

@[simp] theorem standpoint_deeper (scope : Scope σ) : scope.deeper.standpoint = scope.standpoint :=
  rfl

theorem depth_after (scope : Scope σ) (names : List String) (ledger : Ledger σ) :
    (scope.after names ledger).depth = scope.depth := rfl

theorem depth_deeper (scope : Scope σ) : scope.deeper.depth = scope.depth + 1 := rfl

theorem shallower_deeper (scope : Scope σ) : scope.deeper.shallower = scope := rfl

theorem after_deeper (scope : Scope σ) (names : List String) (ledger : Ledger σ) :
    scope.deeper.after names ledger = (scope.after names ledger).deeper := rfl

theorem withContext_addImport (scope : Scope σ) (name : String) :
    scope.withContext (scope.context.addImport (importOf name)) =
      scope.after [name] scope.ledger := by
  simp only [Context.addImport_eq, withContext, after, ledger, List.map_cons, List.map_nil,
    List.foldl_cons, List.foldl_nil]

theorem finish_nil (scope : Scope σ) : scope.finish ([], scope.ledger) = ("", scope) := rfl

theorem finish_line (scope : Scope σ) (c : Call) (ledger : Ledger σ) :
    scope.finish ([.line c], ledger) =
      (Text.unlines [indentation scope.depth ++ c.code], scope.after [c.name] ledger) := by
  simp only [finish, Statement.linesAll, Statement.lines, Statement.namesAll, Statement.names,
    List.append_nil]

theorem finish_text (scope : Scope σ) (literal : String) (ledger : Ledger σ) :
    scope.finish ([.text literal], ledger) =
      (Text.unlines [indentation scope.depth ++ textCode literal],
        scope.after ["Text"] ledger) := by
  simp only [finish, Statement.linesAll, Statement.lines, Statement.namesAll, Statement.names,
    List.append_nil]

theorem finish_block (scope : Scope σ) (c : Call) (body : List Statement) (ledger : Ledger σ) :
    scope.finish ([.block c body], ledger) =
      (Text.unlines
          (Kotlin.wrapLines scope.depth c.code (Statement.linesAll (scope.depth + 1) body)),
        scope.after (c.name :: Statement.namesAll body) ledger) := by
  simp only [finish, Statement.linesAll, Statement.lines, Statement.namesAll, Statement.names,
    List.append_nil]

/-- Statements are finished one part after the other. -/
theorem finish_append (scope : Scope σ) (ss ts : List Statement) (ledger last : Ledger σ) :
    scope.finish (ss ++ ts, last) =
      ((scope.finish (ss, ledger)).1 ++ ((scope.finish (ss, ledger)).2.finish (ts, last)).1,
        ((scope.finish (ss, ledger)).2.finish (ts, last)).2) := by
  simp only [finish, Statement.linesAll_append, Statement.namesAll_append, Text.unlines_append,
    after_after]
  rfl

theorem standpoint_below (scope : Scope σ) (kind : NodeKind) :
    standpoint { scope with ancestors := kind :: scope.ancestors } =
      scope.standpoint.below kind := by
  simp only [standpoint, Standpoint.below, Surroundings.inside, List.contains_cons]
  congr 1
  rw [Bool.or_comm, Bool.beq_comm]

end Scope

/-! ### Operations that print statements -/

section Operations

variable (resolver : Resolver σ) (visit enter : Visit σ)

namespace Rendering

/-- Operations that print the statements of an outline and end there. The imports of the first
elements that the statements call, those in `gathered`, have been gathered before. -/
def Gives (gathered : List String) (r : Rendering) (outline : Standpoint → Outline σ) : Prop :=
  ∀ (scope : Scope σ) (ledger : Ledger σ),
    r.perform resolver visit enter (scope.after gathered ledger) =
      (outline scope.standpoint ledger).map scope.finish

/-- Operations that print the statements of an outline and go on with their code. -/
def Yields (gathered : List String) (r : (String → Rendering) → Rendering)
    (outline : Standpoint → Outline σ) : Prop :=
  ∀ (next : String → Rendering) (scope : Scope σ) (ledger : Ledger σ),
    (r next).perform resolver visit enter (scope.after gathered ledger) =
      (outline scope.standpoint ledger).bind fun result =>
        (next (scope.finish result).1).perform resolver visit enter (scope.finish result).2

variable {resolver visit enter}

theorem Gives.perform_eq {r : Rendering} {outline : Standpoint → Outline σ}
    (h : Gives resolver visit enter [] r outline) (scope : Scope σ) :
    r.perform resolver visit enter scope =
      (outline scope.standpoint scope.ledger).map scope.finish :=
  h scope scope.ledger

theorem Yields.gives {gathered : List String} {r : (String → Rendering) → Rendering}
    {outline : Standpoint → Outline σ} (h : Yields resolver visit enter gathered r outline) :
    Gives resolver visit enter gathered (r output) outline := fun scope ledger => by
  rw [h output scope, Option.map_eq_bind]
  rfl

theorem gives_nil : Gives resolver visit enter [] (output "") fun _ => Walk.give [] :=
  fun _ _ => rfl

theorem perform_importOf (name : String) (next : Rendering) (scope : Scope σ) :
    (addImport (importOf name) next).perform resolver visit enter scope =
      next.perform resolver visit enter (scope.after [name] scope.ledger) := by
  rw [perform, Scope.withContext_addImport]

theorem perform_line (code : String) (next : String → Rendering) (scope : Scope σ) :
    (line code next).perform resolver visit enter scope =
      (next (Text.unlines [indentation scope.depth ++ code])).perform resolver visit enter
        scope := by
  rw [line, perform, Text.lineAt_eq_unlines]

theorem perform_indent (inner : Rendering) (next : String → Rendering) (scope : Scope σ) :
    (indent inner next).perform resolver visit enter scope =
      (inner.perform resolver visit enter scope.deeper).bind fun result =>
        (next result.1).perform resolver visit enter result.2.shallower :=
  rfl

theorem perform_headingId (text : String) (next : String → Rendering) (scope : Scope σ)
    (names : List String) (ledger : Ledger σ) :
    (headingId text next).perform resolver visit enter (scope.after names ledger) =
      (next (ledger.headingId text none).1).perform resolver visit enter
        (scope.after names (ledger.headingId text none).2) :=
  rfl

/-- The import of an element is gathered before the call is printed. -/
theorem Gives.importOf {gathered : List String} {name : String} {r : Rendering}
    {outline : Standpoint → Outline σ}
    (h : Gives resolver visit enter (gathered ++ [name]) r outline) :
    Gives resolver visit enter gathered (addImport (importOf name) r) outline :=
  fun scope ledger => by
    rw [perform_importOf, Scope.ledger_after, Scope.after_after, h]

theorem yields_line (c : Call) : Yields resolver visit enter [c.name] (line c.code ·)
    fun _ => Walk.give [.line c] := fun next scope ledger => by
  simp only [Walk.give, Option.bind_some, Scope.finish_line]
  rw [perform_line, Scope.depth_after]

theorem yields_text (literal : String) : Yields resolver visit enter [] (textCall literal ·)
    fun _ => Walk.give [.text literal] := fun next scope ledger => by
  have himport : importOf "Text" = domImport "Text" := rfl
  simp only [Walk.give, Option.bind_some, Scope.finish_text, textCall, ← himport]
  rw [perform_importOf, perform_line]
  rfl

/-- The code of a call with a block, from the code of the block. -/
theorem unlines_wrapLines (depth : Nat) (code : String) (body : List String) :
    Text.unlines (Kotlin.wrapLines depth code body) =
      if (Text.unlines body).isEmpty then lineAt depth (code ++ " \x7b\x7d")
      else lineAt depth (code ++ " \x7b") ++ Text.unlines body ++ lineAt depth "\x7d" := by
  cases body with
  | nil => rw [Kotlin.wrapLines, Text.unlines_nil, Text.lineAt_eq_unlines,
      if_pos (String.isEmpty_iff.mpr rfl)]
  | cons first rest =>
    have hne : ¬ (Text.unlines (first :: rest)).isEmpty = true := by
      rw [String.isEmpty_iff, Text.unlines_eq_empty_iff]
      simp
    rw [if_neg hne, Kotlin.wrapLines_cons, Text.unlines_cons, Text.unlines_append,
      Text.lineAt_eq_unlines, Text.lineAt_eq_unlines]
    simp only [Text.unlines_cons, Text.unlines_nil, String.append_empty, String.append_assoc]

/-- A call is printed around the statements of its block. -/
theorem Gives.wrap {gathered : List String} {inner : Rendering} {outline : Standpoint → Outline σ}
    (h : Gives resolver visit enter gathered inner outline) (c : Call) :
    Yields resolver visit enter (c.name :: gathered) (Rendering.wrap c.code inner ·)
      fun here => (outline here).within c := fun next scope ledger => by
  have hinner := h (scope.after [c.name] ledger).deeper ledger
  rw [Scope.standpoint_deeper, Scope.standpoint_after, Scope.after_deeper,
    Scope.after_after] at hinner
  simp only [Outline.within]
  rw [Rendering.wrap, perform_indent]
  change (inner.perform resolver visit enter
    (scope.after ([c.name] ++ gathered) ledger).deeper).bind _ = _
  rw [hinner, Option.bind_map, Option.bind_map]
  congr 1
  funext result
  obtain ⟨body, last⟩ := result
  have hfinish : (scope.after [c.name] ledger).deeper.finish (body, last) =
      (Text.unlines (Statement.linesAll (scope.depth + 1) body),
        (scope.after (c.name :: Statement.namesAll body) last).deeper) := by
    rw [Scope.finish, Scope.after_deeper, Scope.after_after, Scope.depth_deeper, Scope.depth_after,
      List.singleton_append]
  simp only [Function.comp_apply, hfinish, Scope.shallower_deeper, Scope.finish_block,
    unlines_wrapLines]
  -- an empty block stays on the line of its call
  split
  · rw [perform_line, ← Text.lineAt_eq_unlines, Scope.depth_after]
  · rw [perform_line, perform_line, ← Text.lineAt_eq_unlines, ← Text.lineAt_eq_unlines,
      Scope.depth_after]

/-- Several nodes are rendered one after the other. -/
theorem perform_renderAll (nodes : List Node) (next : String → Rendering) (scope : Scope σ) :
    (renderAll nodes next).perform resolver visit enter scope =
      (visitAll visit nodes scope).bind fun result =>
        (next result.1).perform resolver visit enter result.2 := by
  induction nodes generalizing next scope with
  | nil => rfl
  | cons node rest ih =>
    rw [renderAll, perform, visitAll]
    simp only [ih, Option.bind_eq_bind, Option.bind_assoc]
    rfl

end Rendering

/-! ### Nodes -/

variable (read : Standpoint → Node → Outline σ)

/-- A node that is rendered by printing its statements. -/
def Prints (node : Node) : Prop :=
  ∀ scope, visit node scope =
    (node.outline resolver read scope.standpoint scope.ledger).map scope.finish

variable {resolver visit enter read}

theorem visitAll_filter {nodes : List Node} (keep : Node → Bool)
    (h : ∀ node ∈ nodes, Prints resolver visit read node) (scope : Scope σ) :
    visitAll visit (nodes.filter keep) scope =
      (Node.outlineAll resolver read scope.standpoint keep nodes scope.ledger).map
        scope.finish := by
  induction nodes generalizing scope with
  | nil => rfl
  | cons node rest ih =>
    have hrest := ih fun n hn => h n (List.mem_cons_of_mem _ hn)
    rw [Node.outlineAll_cons]
    cases hkeep : keep node with
    | false => rw [List.filter_cons_of_neg (by simp [hkeep]), hrest scope]; rfl
    | true =>
      rw [List.filter_cons_of_pos hkeep, visitAll, h node (List.mem_cons_self ..) scope, if_pos rfl]
      simp only [Walk.andThen, Option.bind_eq_bind, Option.bind_map, Option.map_bind]
      congr 1
      funext first
      obtain ⟨ss, ledger⟩ := first
      have hafter := hrest (scope.after (Statement.namesAll ss) ledger)
      rw [Scope.standpoint_after, Scope.ledger_after] at hafter
      simp only [Function.comp_apply, Scope.finish, hafter]
      cases Node.outlineAll resolver read scope.standpoint keep rest ledger with
      | none => rfl
      | some result =>
        exact congrArg some (scope.finish_append ss result.1 ledger result.2).symm

theorem visitChildren_eq {node : Node}
    (h : ∀ child ∈ node.children, Prints resolver visit read child) (scope : Scope σ) :
    visitChildren visit node scope =
      (childOutlines resolver read node scope.standpoint scope.ledger).map scope.finish := by
  have hall := visitAll_filter (fun _ => true) h
    { scope with ancestors := node.kind :: scope.ancestors }
  rw [List.filter_eq_self.mpr fun _ _ => rfl, Scope.standpoint_below] at hall
  rw [visitChildren, hall]
  change Option.bind (Option.map _ (childOutlines resolver read node scope.standpoint scope.ledger))
    _ = _
  rw [Option.bind_map, Option.map_eq_bind]
  rfl

namespace Rendering

theorem gives_children {node : Node}
    (h : ∀ child ∈ node.children, Prints resolver visit read child) :
    Gives resolver visit enter [] (renderChildren node output)
      (childOutlines resolver read node) := fun scope ledger => by
  rw [perform, visitChildren_eq h, Scope.standpoint_after, Scope.ledger_after]
  cases childOutlines resolver read node scope.standpoint ledger <;> rfl

end Rendering

section Handlers

variable {node : Node} (hchildren : ∀ child ∈ node.children, Prints resolver visit read child)

open Rendering

theorem Rendering.Gives.needing {gathered : List String} {name : String} {r : Rendering}
    {outline : Standpoint → Outline σ} (hname : name ≠ "Link")
    (h : Gives resolver visit enter (gathered ++ [name]) r outline) :
    Gives resolver visit enter gathered (Elements.needing name r) outline := by
  rw [Elements.needing, ← importOf_of_ne hname]
  exact h.importOf

include hchildren in
/-- A node that is an element around its contents. -/
theorem gives_block (c : Call) : Gives resolver visit enter [c.name] (block c.code node)
    fun here => (childOutlines resolver read node here).within c :=
  ((gives_children hchildren).wrap c).gives

include hchildren in
theorem gives_element (name : String) (h : IsElementName name) (hlink : name ≠ "Link") :
    Gives resolver visit enter [] (Elements.element name node)
      fun here => (childOutlines resolver read node here).within (.bare name h) :=
  .needing hlink (gives_block hchildren (.bare name h))

end Handlers

end Operations

end MarkdownPages
