import Mathlib.Logic.Relation
import MarkdownPages.Render.Scope

/-!
# Rendering one operation at a time

Performing the operations of a handler runs to the end or meets a bound, and what happens on the way
cannot be seen in the result. Here the same operations are carried out one at a time by a machine
without bounds, whose configurations show every moment of a rendering. What is left to do when the
current operations end stands in a list of frames: one for each node, for each level of indentation
and for each embedded document that has been started but not finished.

A rendering that has a result under some bounds ends on the machine with the same result. The
machine has one way to go on, so that run is all that it can do.

## Main definitions

* `Frame`, `Config` — what is left to do, and a moment of a rendering
* `Config.step`, `Config.Steps` — one operation, and any number of them
* `Config.nesting` — how deep documents are embedded in one another

## Main results

* `Config.steps_perform` — operations that have a result reach it
* `Config.steps_renderWithin` — a tree that has a result under bounds reaches it
* `Config.Steps.of_final` — every moment of a run that ends leads to its end
-/

namespace MarkdownPages

/-- What is left to do when the current operations end with a text. -/
inductive Frame where
  /-- Behind a node of the same document. -/
  | node (next : String → Rendering)
  /-- Behind the children of a node. -/
  | children (next : String → Rendering)
  /-- Behind what is indented by one more level. -/
  | indented (next : String → Rendering)
  /-- Behind an embedded document: where the document around it was left. -/
  | embedded (sourcePath : String) (ancestors : List NodeKind) (next : Option String → Rendering)

variable {σ : Type}

/-- A moment of a rendering. -/
structure Config (σ : Type) where
  current : Rendering
  scope : Scope σ
  /-- What is left to do afterwards, innermost first. -/
  frames : List Frame

namespace Frame

/-- Goes on behind operations that ended with a text. -/
def resume (text : String) (scope : Scope σ) (frames : List Frame) : Frame → Config σ
  | node next => ⟨next text, scope, frames⟩
  | children next => ⟨next text, { scope with ancestors := scope.ancestors.tail }, frames⟩
  | indented next => ⟨next text, { scope with depth := scope.depth - 1 }, frames⟩
  | embedded sourcePath ancestors next =>
    ⟨next (some text),
      { scope with context := scope.context.leave sourcePath, ancestors := ancestors }, frames⟩

/-- Whether a frame stands behind an embedded document. -/
def isEmbedded : Frame → Bool
  | embedded _ _ _ => true
  | _ => false

end Frame

namespace Config

variable (table : HandlerTable) (resolver : Resolver σ)

/-- One operation. There is none when the last text has been reached. -/
def step : Config σ → Option (Config σ)
  | ⟨.output _, _, []⟩ => none
  | ⟨.output text, scope, frame :: frames⟩ => some (frame.resume text scope frames)
  | ⟨.render node next, scope, frames⟩ =>
    some ⟨table.handlerFor node.kind node, scope, .node next :: frames⟩
  | ⟨.renderChildren node next, scope, frames⟩ =>
    some ⟨Rendering.renderAll node.children,
      { scope with ancestors := node.kind :: scope.ancestors }, .children next :: frames⟩
  | ⟨.indent inner next, scope, frames⟩ =>
    some ⟨inner, { scope with depth := scope.depth + 1 }, .indented next :: frames⟩
  | ⟨.look next, scope, frames⟩ => some ⟨next scope.toSurroundings, scope, frames⟩
  | ⟨.addImport target next, scope, frames⟩ =>
    some ⟨next, scope.withContext (scope.context.addImport target), frames⟩
  | ⟨.warn message next, scope, frames⟩ =>
    some ⟨next, scope.withContext (scope.context.warn message), frames⟩
  | ⟨.headingId text next, scope, frames⟩ =>
    let (id, context) := scope.context.headingId text
    some ⟨next id, scope.withContext context, frames⟩
  | ⟨.resolve destination next, scope, frames⟩ =>
    let (reference, context, store) := scope.context.resolve resolver destination scope.store
    some ⟨next reference, { scope with context := context, store := store }, frames⟩
  | ⟨.embed document next, scope, frames⟩ =>
    if scope.context.isRendering document.path then some ⟨next none, scope, frames⟩
    else
      some ⟨.renderChildren document.tree .output,
        { scope with context := scope.context.enter document, ancestors := [] },
        .embedded scope.context.sourcePath scope.ancestors next :: frames⟩

/-- Any number of operations. -/
abbrev Steps : Config σ → Config σ → Prop :=
  Relation.ReflTransGen fun c d => step table resolver c = some d

/-- Where the rendering of a tree starts. -/
def start (tree : Node) (scope : Scope σ) : Config σ :=
  ⟨table.handlerFor tree.kind tree, scope, []⟩

/-- How deep documents are embedded in one another. -/
def nesting (config : Config σ) : Nat := config.frames.countP Frame.isEmbedded

variable {table resolver}

/-! ### Runs of a function -/

/-- The machine has one way to go on: every moment of a run that ends leads to its end. -/
theorem Steps.of_final {first last config : Config σ} (h : Steps table resolver first last)
    (hlast : step table resolver last = none) (hconfig : Steps table resolver first config) :
    Steps table resolver config last := by
  induction hconfig with
  | refl => exact h
  | @tail c d _ hstep ih =>
    rcases Relation.ReflTransGen.cases_head ih with heq | ⟨e, he, hrest⟩
    · rw [heq, hlast] at hstep
      cases hstep
    · rw [hstep] at he
      obtain rfl := Option.some.inj he
      exact hrest

/-! ### Results are reached -/

section Results

variable {visit enter : Visit σ}
  (hvisit : ∀ node scope result, visit node scope = some result → ∀ frames,
    Steps table resolver ⟨table.handlerFor node.kind node, scope, frames⟩
      ⟨.output result.1, result.2, frames⟩)

include hvisit

theorem steps_renderAll {nodes : List Node} {scope : Scope σ} {result : String × Scope σ}
    (h : visitAll visit nodes scope = some result) (next : String → Rendering)
    (frames : List Frame) : Steps table resolver ⟨Rendering.renderAll nodes next, scope, frames⟩
      ⟨next result.1, result.2, frames⟩ := by
  induction nodes generalizing scope result next with
  | nil =>
    obtain rfl := Option.some.inj h
    exact .refl
  | cons node rest ih =>
    rw [visitAll, Option.bind_eq_bind, Option.bind_eq_some_iff] at h
    obtain ⟨⟨first, middle⟩, hfirst, h⟩ := h
    obtain ⟨⟨others, last⟩, hothers, h⟩ := Option.bind_eq_some_iff.mp h
    obtain rfl := Option.some.inj h
    have hstart : step table resolver ⟨Rendering.renderAll (node :: rest) next, scope, frames⟩ =
        some ⟨table.handlerFor node.kind node, scope,
          .node (fun first => Rendering.renderAll rest fun others => next (first ++ others)) ::
            frames⟩ := rfl
    have hnode := hvisit node scope (first, middle) hfirst (.node (fun first =>
      Rendering.renderAll rest fun others => next (first ++ others)) :: frames)
    have hrest := ih hothers fun others => next (first ++ others)
    exact .head hstart (hnode.trans (.head rfl hrest))

theorem steps_renderChildren {node : Node} {scope : Scope σ} {result : String × Scope σ}
    (h : visitChildren visit node scope = some result) (next : String → Rendering)
    (frames : List Frame) : Steps table resolver ⟨.renderChildren node next, scope, frames⟩
      ⟨next result.1, result.2, frames⟩ := by
  rw [visitChildren, Option.bind_eq_bind, Option.bind_eq_some_iff] at h
  obtain ⟨⟨text, after⟩, hall, h⟩ := h
  obtain rfl := Option.some.inj h
  have hchildren := steps_renderAll hvisit hall .output (.children next :: frames)
  exact .head rfl (hchildren.trans (.head rfl .refl))

/-- **Simulation.** Operations that have a result reach it, whatever is left to do afterwards. -/
theorem steps_perform
    (henter : ∀ tree scope result, enter tree scope = some result → ∀ frames,
      Steps table resolver ⟨.renderChildren tree .output, scope, frames⟩
        ⟨.output result.1, result.2, frames⟩)
    {r : Rendering} {scope : Scope σ} {result : String × Scope σ}
    (h : r.perform resolver visit enter scope = some result) (frames : List Frame) :
    Steps table resolver ⟨r, scope, frames⟩ ⟨.output result.1, result.2, frames⟩ := by
  induction r generalizing scope result frames with
  | output text =>
    obtain rfl := Option.some.inj h
    exact .refl
  | render node next ih =>
    rw [Rendering.perform, Option.bind_eq_bind, Option.bind_eq_some_iff] at h
    obtain ⟨⟨text, after⟩, hnode, h⟩ := h
    exact .head rfl ((hvisit node scope _ hnode _).trans (.head rfl (ih text h frames)))
  | renderChildren node next ih =>
    rw [Rendering.perform, Option.bind_eq_bind, Option.bind_eq_some_iff] at h
    obtain ⟨⟨text, after⟩, hchildren, h⟩ := h
    exact (steps_renderChildren hvisit hchildren next frames).trans (ih text h frames)
  | indent inner next ihinner ih =>
    rw [Rendering.perform, Option.bind_eq_bind, Option.bind_eq_some_iff] at h
    obtain ⟨⟨text, after⟩, hinner, h⟩ := h
    exact .head rfl ((ihinner hinner (.indented next :: frames)).trans
      (.head rfl (ih text h frames)))
  | look next ih => exact .head rfl (ih scope.toSurroundings h frames)
  | addImport target next ih => exact .head rfl (ih h frames)
  | warn message next ih => exact .head rfl (ih h frames)
  | headingId text next ih => exact .head rfl (ih _ h frames)
  | resolve destination next ih => exact .head rfl (ih _ h frames)
  | embed document next ih =>
    rw [Rendering.perform] at h
    by_cases hrendering : scope.context.isRendering document.path = true
    · rw [if_pos hrendering] at h
      exact .head (if_pos hrendering) (ih none h frames)
    · rw [if_neg hrendering, Option.bind_eq_bind, Option.bind_eq_some_iff] at h
      obtain ⟨⟨text, after⟩, htree, h⟩ := h
      exact .head (if_neg hrendering)
        ((henter document.tree _ _ htree _).trans (.head rfl (ih (some text) h frames)))

end Results

theorem steps_visit {enter : Visit σ}
    (henter : ∀ tree scope result, enter tree scope = some result → ∀ frames,
      Steps table resolver ⟨.renderChildren tree .output, scope, frames⟩
        ⟨.output result.1, result.2, frames⟩)
    (levels : Nat) (node : Node) (scope : Scope σ) (result : String × Scope σ)
    (h : table.visit resolver enter levels node scope = some result) (frames : List Frame) :
    Steps table resolver ⟨table.handlerFor node.kind node, scope, frames⟩
      ⟨.output result.1, result.2, frames⟩ := by
  induction levels generalizing node scope result frames with
  | zero => cases h
  | succ levels ih => exact steps_perform ih henter h frames

theorem steps_enter (levels : Node → Nat) (embeds : Nat) (tree : Node) (scope : Scope σ)
    (result : String × Scope σ)
    (h : table.enter resolver levels embeds tree scope = some result) (frames : List Frame) :
    Steps table resolver ⟨.renderChildren tree .output, scope, frames⟩
      ⟨.output result.1, result.2, frames⟩ := by
  induction embeds generalizing tree scope result frames with
  | zero => cases h
  | succ embeds ih =>
    exact steps_renderChildren (steps_visit ih (levels tree)) h .output frames

/-- A tree that has a result under bounds reaches it without bounds. -/
theorem steps_renderWithin {levels : Node → Nat} {embeds : Nat} {tree : Node} {scope : Scope σ}
    {result : String × Scope σ}
    (h : table.renderWithin resolver levels embeds tree scope = some result) :
    Steps table resolver (start table tree scope) ⟨.output result.1, result.2, []⟩ :=
  steps_visit (steps_enter levels embeds) (levels tree) tree scope result h []

end Config

end MarkdownPages
