import MarkdownPages.Proofs.Render.Machine
import MarkdownPages.Render.Elements

/-!
# Rendering gives back what it borrows

While a node is rendered, its kind stands among the ancestors, what is inside a block is indented by
a level, and an embedded document takes the place of the one around it. Each of these is put in
place by one operation and taken back much later, with whatever a handler does in between. All of
it is taken back: after a rendering the surroundings are those before it, but for what is gathered,
and what is gathered only grows.

In the middle of a rendering the surroundings are not those of the start, so the statement about the
end is none that every operation keeps. But the frames of the machine say what is left to take back.
The scope that they lead back to is the same at every moment, and at the end there are no frames.

## Main definitions

* `Context.Gathers`, `Scope.Restores` — what a rendering does to a context and to a scope
* `Frame.undo`, `Config.unwound` — the scope that the frames lead back to

## Main results

* `Config.unwound_step`, `Config.unwound_steps` — one operation restores the unwound scope, and so
  does a run
* `rendering_restores` — a rendering that ends restores its scope
-/

namespace MarkdownPages

variable {σ : Type}

/-! ### What is restored -/

/-- Everything in a context stays, but for what is gathered: imports and warnings are added, and
heading ids are counted. -/
structure Context.Gathers (before after : Context) : Prop where
  package : after.package = before.package
  functionName : after.functionName = before.functionName
  group : after.group = before.group
  defaultRoot : after.defaultRoot = before.defaultRoot
  markdownArtifact : after.markdownArtifact = before.markdownArtifact
  sourcePath : after.sourcePath = before.sourcePath
  includeStack : after.includeStack = before.includeStack
  imports : before.imports ⊆ after.imports
  warnings : before.warnings <+: after.warnings

/-- The surroundings are as they were, but for what the context gathers. -/
structure Scope.Restores (before after : Scope σ) : Prop where
  depth : after.depth = before.depth
  ancestors : after.ancestors = before.ancestors
  context : before.context.Gathers after.context

namespace Context

theorem Gathers.refl (context : Context) : context.Gathers context where
  package := rfl
  functionName := rfl
  group := rfl
  defaultRoot := rfl
  markdownArtifact := rfl
  sourcePath := rfl
  includeStack := rfl
  imports := List.Subset.refl _
  warnings := List.prefix_refl _

theorem Gathers.trans {first second third : Context} (h : first.Gathers second)
    (h' : second.Gathers third) : first.Gathers third where
  package := h'.package.trans h.package
  functionName := h'.functionName.trans h.functionName
  group := h'.group.trans h.group
  defaultRoot := h'.defaultRoot.trans h.defaultRoot
  markdownArtifact := h'.markdownArtifact.trans h.markdownArtifact
  sourcePath := h'.sourcePath.trans h.sourcePath
  includeStack := h'.includeStack.trans h.includeStack
  imports := List.Subset.trans h.imports h'.imports
  warnings := h.warnings.trans h'.warnings

/-- Leaving a document takes back the same from both contexts. -/
theorem Gathers.leave {before after : Context} (h : before.Gathers after) (sourcePath : String) :
    (before.leave sourcePath).Gathers (after.leave sourcePath) where
  package := h.package
  functionName := h.functionName
  group := h.group
  defaultRoot := h.defaultRoot
  markdownArtifact := h.markdownArtifact
  sourcePath := rfl
  includeStack := congrArg List.tail h.includeStack
  imports := h.imports
  warnings := h.warnings

theorem gathers_addImport (context : Context) (target : String) :
    context.Gathers (context.addImport target) := by
  rw [addImport]
  split
  · exact .refl context
  · exact { Gathers.refl context with
      imports := fun _ hx => Ascending.mem_insert.mpr (.inr hx) }

theorem gathers_warn (context : Context) (message : String) :
    context.Gathers (context.warn message) :=
  { Gathers.refl context with warnings := List.prefix_append _ _ }

theorem gathers_headingId (context : Context) (text : String) :
    context.Gathers (context.headingId text).2 :=
  { Gathers.refl context with }

theorem gathers_resolve (resolver : Resolver σ) (destination : String) (context : Context)
    (store : σ) : context.Gathers (context.resolve resolver destination store).2.1 := by
  rw [resolve]
  split
  · exact .refl context
  · dsimp only
    split
    · exact .refl context
    · exact gathers_warn context _

end Context

namespace Scope

theorem Restores.refl (scope : Scope σ) : scope.Restores scope := ⟨rfl, rfl, .refl _⟩

theorem Restores.trans {first second third : Scope σ} (h : first.Restores second)
    (h' : second.Restores third) : first.Restores third :=
  ⟨h'.depth.trans h.depth, h'.ancestors.trans h.ancestors, h.context.trans h'.context⟩

theorem restores_withContext {scope : Scope σ} {context : Context}
    (h : scope.context.Gathers context) : scope.Restores (scope.withContext context) :=
  ⟨rfl, rfl, h⟩

end Scope

/-! ### Unwinding -/

namespace Frame

/-- What is taken back when the operations in front of a frame end. -/
def undo (scope : Scope σ) : Frame → Scope σ
  | node _ => scope
  | children _ => { scope with ancestors := scope.ancestors.tail }
  | indented _ => { scope with depth := scope.depth - 1 }
  | embedded sourcePath ancestors _ =>
    { scope with context := scope.context.leave sourcePath, ancestors := ancestors }

theorem undo_restores {scope after : Scope σ} (h : scope.Restores after) (frame : Frame) :
    (frame.undo scope).Restores (frame.undo after) := by
  cases frame with
  | node next => exact h
  | children next => exact ⟨h.depth, congrArg List.tail h.ancestors, h.context⟩
  | indented next => exact ⟨congrArg (· - 1) h.depth, h.ancestors, h.context⟩
  | embedded sourcePath ancestors next => exact ⟨h.depth, rfl, h.context.leave sourcePath⟩

end Frame

namespace Config

/-- The scope that the frames lead back to. -/
def unwound (config : Config σ) : Scope σ :=
  config.frames.foldl (fun scope frame => frame.undo scope) config.scope

/-- Going on behind a frame takes back what the frame says. -/
theorem unwound_resume (text : String) (scope : Scope σ) (frame : Frame) (frames : List Frame) :
    (frame.resume text scope frames).unwound =
      unwound ⟨.output text, scope, frame :: frames⟩ := by
  cases frame <;> rfl

/-- The frames lead back from a restored scope to a restored scope. -/
theorem unwound_restores {scope after : Scope σ} (h : scope.Restores after)
    (current next : Rendering) (frames : List Frame) :
    (unwound ⟨current, scope, frames⟩).Restores (unwound ⟨next, after, frames⟩) := by
  induction frames generalizing scope after with
  | nil => exact h
  | cons frame frames ih => exact ih (frame.undo_restores h)

variable {table : HandlerTable} {resolver : Resolver σ}

/-- **Step.** One operation restores the scope that the frames lead back to. What it puts in place
is what its frame takes back. -/
theorem unwound_step {c d : Config σ} (h : step table resolver c = some d) :
    c.unwound.Restores d.unwound := by
  obtain ⟨current, scope, frames⟩ := c
  cases current with
  | output text =>
    cases frames with
    | nil => cases h
    | cons frame frames =>
      obtain rfl := Option.some.inj h
      rw [unwound_resume]
      exact .refl _
  | render node next =>
    obtain rfl := Option.some.inj h
    exact .refl _
  | renderChildren node next =>
    obtain rfl := Option.some.inj h
    exact .refl _
  | indent inner next =>
    obtain rfl := Option.some.inj h
    exact .refl _
  | look next =>
    obtain rfl := Option.some.inj h
    exact .refl _
  | addImport target next =>
    obtain rfl := Option.some.inj h
    exact unwound_restores (Scope.restores_withContext (Context.gathers_addImport _ target)) _ _ _
  | warn message next =>
    obtain rfl := Option.some.inj h
    exact unwound_restores (Scope.restores_withContext (Context.gathers_warn _ message)) _ _ _
  | headingId text next =>
    obtain rfl := Option.some.inj h
    exact unwound_restores (Scope.restores_withContext (Context.gathers_headingId _ text)) _ _ _
  | resolve destination next =>
    have hcontext := Context.gathers_resolve resolver destination scope.context scope.store
    obtain rfl := Option.some.inj h
    refine unwound_restores ?_ _ _ _
    exact ⟨rfl, rfl, hcontext⟩
  | embed document next =>
    by_cases hrendering : scope.context.isRendering document.path = true
    · obtain rfl := Option.some.inj ((if_pos hrendering).symm.trans h)
      exact .refl _
    · obtain rfl := Option.some.inj ((if_neg hrendering).symm.trans h)
      exact .refl _

/-- **Run.** Any number of operations restore the scope that the frames lead back to. -/
theorem unwound_steps {c d : Config σ} (h : Steps table resolver c d) :
    c.unwound.Restores d.unwound := by
  induction h with
  | refl => exact .refl _
  | tail _ hstep ih => exact ih.trans (unwound_step hstep)

end Config

/-! ### Renderings -/

/-- **Rendering restores.** Whatever the handlers of a table do, the scope after a node is the scope
before it, but for what is gathered: on the machine, which has no bounds, and under any bounds. -/
theorem rendering_restores (table : HandlerTable) (resolver : Resolver σ) (tree : Node)
    (scope : Scope σ) :
    (∀ text after, Config.Steps table resolver (.start table tree scope) ⟨.output text, after, []⟩ →
      scope.Restores after) ∧
    ∀ levels embeds text after,
      table.renderWithin resolver levels embeds tree scope = some (text, after) →
        scope.Restores after := by
  have hends : ∀ text after,
      Config.Steps table resolver (.start table tree scope) ⟨.output text, after, []⟩ →
        scope.Restores after :=
    fun _ _ h => Config.unwound_steps h
  exact ⟨hends, fun _ _ text after h => hends text after (Config.steps_renderWithin h)⟩

/-- A document with a heading and a link that leads nowhere, with its name. -/
def noteDocument : String × ResolvedDocument :=
  ("note.md", ⟨⟨"/note.md"⟩, "note.md",
    ⟨.document, [⟨.heading 1 none, [.leaf (.text "Note")]⟩, ⟨.link "lost.md" "", []⟩]⟩⟩)

/-- A place in an item of a list. -/
def itemScope : Scope Unit :=
  ⟨⟨{ package := "", functionName := "Index", sourcePath := "index.md" }, 2, [.item, .list]⟩, ()⟩

/-- The note, embedded in the head of a table. -/
theorem rendering_restores_of_note :
    ∃ text after,
      HandlerTable.elements.renderWithin (Resolver.ofNamed [noteDocument]) Node.height 1
          ⟨.tableHead, [⟨.tableCell, [.leaf (.image "note.md" "")]⟩]⟩ itemScope =
        some (text, after) ∧ itemScope.Restores after := by
  have hends : (HandlerTable.elements.renderWithin (Resolver.ofNamed [noteDocument]) Node.height 1
      ⟨.tableHead, [⟨.tableCell, [.leaf (.image "note.md" "")]⟩]⟩ itemScope).isSome := by
    decide +kernel
  obtain ⟨⟨text, after⟩, h⟩ := Option.isSome_iff_exists.mp hends
  exact ⟨text, after, h, (rendering_restores _ _ _ _).2 _ _ text after h⟩

end MarkdownPages
