import MarkdownPages.Proofs.Render.IncludeStack
import MarkdownPages.Proofs.Render.Machine

/-!
# Rendering with resolvers that answer alike

What a resolver remembers between lookups is of no concern to a handler, which only sees what is
found. So if two resolvers answer alike, and go on answering alike whatever they are asked, then one
rendering follows the other operation by operation: both give the same text and leave the same
surroundings. The stores may be quite different. All that is asked of them is a relation that holds
at the start and that every lookup keeps.

The bounds of a rendering are of no concern either, as long as it has a result under both.

## Main definitions

* `Resolver.Follows` — a resolver that answers like another one
* `Scope.Alike`, `Visit.Follows` — the same for scopes and for steps of a rendering

## Main results

* `Visit.follows_renderWithin` — a rendering follows another one with the same bounds
* `renderWithin_unique` — results under different bounds are equal
* `renderWithin_elements_alike` — a page rendered with resolvers that answer alike
-/

namespace MarkdownPages

variable {σ τ : Type} {related : σ → τ → Prop} {resolver : Resolver σ} {other : Resolver τ}

/-! ### Answering alike -/

/-- From related stores `other` answers like `resolver`, and the stores stay related. -/
def Resolver.Follows (related : σ → τ → Prop) (resolver : Resolver σ) (other : Resolver τ) :
    Prop :=
  ∀ path store store', related store store' →
    (other.lookup path store').1 = (resolver.lookup path store).1 ∧
      related (resolver.lookup path store).2 (other.lookup path store').2

/-- The same surroundings, with related stores. -/
structure Scope.Alike (related : σ → τ → Prop) (scope : Scope σ) (other : Scope τ) : Prop where
  surroundings : other.toSurroundings = scope.toSurroundings
  store : related scope.store other.store

theorem Scope.Alike.exists_eq {scope : Scope σ} {other : Scope τ} (h : scope.Alike related other) :
    ∃ surroundings store store',
      scope = ⟨surroundings, store⟩ ∧ other = ⟨surroundings, store'⟩ ∧ related store store' :=
  ⟨scope.toSurroundings, scope.store, other.store, rfl, by rw [← h.surroundings], h.store⟩

theorem Scope.alike_mk (surroundings : Surroundings) {store : σ} {store' : τ}
    (h : related store store') :
    Scope.Alike related ⟨surroundings, store⟩ ⟨surroundings, store'⟩ := ⟨rfl, h⟩

/-- In scopes that are alike `other` gives the text that `visit` gives, and leaves scopes that are
alike. -/
def Visit.Follows (related : σ → τ → Prop) (visit : Visit σ) (other : Visit τ) : Prop :=
  ∀ node scope scope' text after, scope.Alike related scope' →
    visit node scope = some (text, after) →
      ∃ after', other node scope' = some (text, after') ∧ after.Alike related after'

/-- What a destination leads to is the same, and so is the context afterwards. -/
theorem Context.resolve_alike (h : Resolver.Follows related resolver other) (context : Context)
    (destination : String) {store : σ} {store' : τ} (hstore : related store store') :
    (context.resolve other destination store').1 = (context.resolve resolver destination store).1 ∧
      (context.resolve other destination store').2.1 =
        (context.resolve resolver destination store).2.1 ∧
      related (context.resolve resolver destination store).2.2
        (context.resolve other destination store').2.2 := by
  rw [resolve, resolve]
  cases markdownReference? destination.toList with
  | none => exact ⟨rfl, rfl, hstore⟩
  | some target =>
    obtain ⟨path, fragment⟩ := target
    dsimp only
    obtain ⟨hfound, hafter⟩ :=
      h (String.ofList (pathFromSource context.sourcePath.toList path)) store store' hstore
    generalize resolver.lookup _ store = first at hfound hafter ⊢
    generalize other.lookup _ store' = second at hfound hafter ⊢
    obtain ⟨found, after⟩ := first
    obtain ⟨found', after'⟩ := second
    dsimp only at hfound hafter
    subst hfound
    cases found' with
    | none => exact ⟨rfl, rfl, hafter⟩
    | some document => exact ⟨rfl, rfl, hafter⟩

/-! ### Following step by step -/

namespace Visit

variable {visit enter : Visit σ} {visit' enter' : Visit τ}

theorem follows_visitAll (hvisit : Visit.Follows related visit visit') (nodes : List Node)
    {scope after : Scope σ} {scope' : Scope τ} {text : String} (h : scope.Alike related scope')
    (hresult : visitAll visit nodes scope = some (text, after)) :
    ∃ after', visitAll visit' nodes scope' = some (text, after') ∧ after.Alike related after' := by
  induction nodes generalizing scope scope' text with
  | nil =>
    obtain ⟨rfl, rfl⟩ := Prod.mk.inj (Option.some.inj hresult)
    exact ⟨scope', rfl, h⟩
  | cons node rest ih =>
    rw [visitAll, Option.bind_eq_bind, Option.bind_eq_some_iff] at hresult
    obtain ⟨⟨first, middle⟩, hfirst, hresult⟩ := hresult
    obtain ⟨⟨others, last⟩, hothers, hresult⟩ := Option.bind_eq_some_iff.mp hresult
    obtain ⟨rfl, rfl⟩ := Prod.mk.inj (Option.some.inj hresult)
    obtain ⟨middle', hfirst', hmiddle⟩ := hvisit node scope scope' first middle h hfirst
    obtain ⟨last', hothers', hlast⟩ := ih hmiddle hothers
    refine ⟨last', ?_, hlast⟩
    rw [visitAll, hfirst', Option.bind_eq_bind, Option.bind_some]
    dsimp only
    rw [hothers']
    rfl

theorem follows_visitChildren (hvisit : Visit.Follows related visit visit') :
    Visit.Follows related (visitChildren visit) (visitChildren visit') := by
  intro node scope scope' text after h hresult
  obtain ⟨surroundings, store, store', rfl, rfl, hstore⟩ := h.exists_eq
  rw [visitChildren, Option.bind_eq_bind, Option.bind_eq_some_iff] at hresult
  obtain ⟨⟨inner, last⟩, hall, hresult⟩ := hresult
  obtain ⟨rfl, rfl⟩ := Prod.mk.inj (Option.some.inj hresult)
  obtain ⟨last', hall', hlast⟩ := follows_visitAll hvisit node.children
    (Scope.alike_mk { surroundings with ancestors := node.kind :: surroundings.ancestors } hstore)
    hall
  refine ⟨{ last' with ancestors := last'.ancestors.tail }, ?_, ?_, hlast.store⟩
  · rw [visitChildren, hall']
    rfl
  · rw [hlast.surroundings]

/-- **Operations.** Where nodes and documents are rendered alike, so is whatever a handler does. -/
theorem follows_perform (hresolver : Resolver.Follows related resolver other)
    (hvisit : Visit.Follows related visit visit') (henter : Visit.Follows related enter enter')
    (r : Rendering) {scope after : Scope σ} {scope' : Scope τ} {text : String}
    (h : scope.Alike related scope')
    (hresult : r.perform resolver visit enter scope = some (text, after)) :
    ∃ after', r.perform other visit' enter' scope' = some (text, after') ∧
      after.Alike related after' := by
  induction r generalizing scope scope' text after with
  | output written =>
    obtain ⟨rfl, rfl⟩ := Prod.mk.inj (Option.some.inj hresult)
    exact ⟨scope', rfl, h⟩
  | render node next ih =>
    rw [Rendering.perform, Option.bind_eq_bind, Option.bind_eq_some_iff] at hresult
    obtain ⟨⟨inner, middle⟩, hnode, hresult⟩ := hresult
    obtain ⟨middle', hnode', hmiddle⟩ := hvisit node scope scope' inner middle h hnode
    rw [Rendering.perform, hnode']
    exact ih inner hmiddle hresult
  | renderChildren node next ih =>
    rw [Rendering.perform, Option.bind_eq_bind, Option.bind_eq_some_iff] at hresult
    obtain ⟨⟨inner, middle⟩, hchildren, hresult⟩ := hresult
    obtain ⟨middle', hchildren', hmiddle⟩ :=
      follows_visitChildren hvisit node scope scope' inner middle h hchildren
    rw [Rendering.perform, hchildren']
    exact ih inner hmiddle hresult
  | indent inner next ihinner ih =>
    obtain ⟨surroundings, store, store', rfl, rfl, hstore⟩ := h.exists_eq
    rw [Rendering.perform, Option.bind_eq_bind, Option.bind_eq_some_iff] at hresult
    obtain ⟨⟨body, middle⟩, hinner, hresult⟩ := hresult
    obtain ⟨middle', hinner', hmiddle⟩ := ihinner
      (Scope.alike_mk { surroundings with depth := surroundings.depth + 1 } hstore) hinner
    obtain ⟨inside, last, last', rfl, rfl, hlast⟩ := hmiddle.exists_eq
    rw [Rendering.perform, hinner']
    exact ih body (Scope.alike_mk { inside with depth := inside.depth - 1 } hlast) hresult
  | look next ih =>
    rw [Rendering.perform, h.surroundings]
    exact ih scope.toSurroundings h hresult
  | addImport target next ih =>
    obtain ⟨surroundings, store, store', rfl, rfl, hstore⟩ := h.exists_eq
    rw [Rendering.perform] at hresult ⊢
    exact ih (Scope.alike_mk _ hstore) hresult
  | warn message next ih =>
    obtain ⟨surroundings, store, store', rfl, rfl, hstore⟩ := h.exists_eq
    rw [Rendering.perform] at hresult ⊢
    exact ih (Scope.alike_mk _ hstore) hresult
  | headingId written next ih =>
    obtain ⟨surroundings, store, store', rfl, rfl, hstore⟩ := h.exists_eq
    rw [Rendering.perform] at hresult ⊢
    exact ih _ (Scope.alike_mk _ hstore) hresult
  | resolve destination next ih =>
    obtain ⟨surroundings, store, store', rfl, rfl, hstore⟩ := h.exists_eq
    obtain ⟨hreference, hcontext, hafter⟩ :=
      surroundings.context.resolve_alike hresolver destination hstore
    rw [Rendering.perform]
    dsimp only
    rw [hreference, hcontext]
    exact ih _ ⟨rfl, hafter⟩ hresult
  | embed document next ih =>
    obtain ⟨surroundings, store, store', rfl, rfl, hstore⟩ := h.exists_eq
    rw [Rendering.perform] at hresult ⊢
    by_cases hrendering : surroundings.context.isRendering document.path = true
    · rw [if_pos hrendering] at hresult ⊢
      exact ih none ⟨rfl, hstore⟩ hresult
    · rw [if_neg hrendering, Option.bind_eq_bind, Option.bind_eq_some_iff] at hresult
      obtain ⟨⟨body, middle⟩, htree, hresult⟩ := hresult
      obtain ⟨middle', htree', hmiddle⟩ :=
        henter document.tree _ _ body middle (Scope.alike_mk _ hstore) htree
      obtain ⟨inside, last, last', rfl, rfl, hlast⟩ := hmiddle.exists_eq
      rw [if_neg hrendering, htree']
      exact ih (some body) (Scope.alike_mk _ hlast) hresult

theorem follows_visit (table : HandlerTable) (hresolver : Resolver.Follows related resolver other)
    (henter : Visit.Follows related enter enter') (levels : Nat) :
    Visit.Follows related (table.visit resolver enter levels)
      (table.visit other enter' levels) := by
  induction levels with
  | zero =>
    intro node scope scope' text after _ hresult
    cases hresult
  | succ levels ih =>
    intro node scope scope' text after h hresult
    exact follows_perform hresolver ih henter (table.handlerFor node.kind node) h hresult

theorem follows_enter (table : HandlerTable) (hresolver : Resolver.Follows related resolver other)
    (levels : Node → Nat) (embeds : Nat) :
    Visit.Follows related (table.enter resolver levels embeds)
      (table.enter other levels embeds) := by
  induction embeds with
  | zero =>
    intro tree scope scope' text after _ hresult
    cases hresult
  | succ embeds ih =>
    intro tree scope scope' text after h hresult
    exact follows_visitChildren (follows_visit table hresolver ih (levels tree)) tree scope scope'
      text after h hresult

/-- **Renderings.** A rendering follows another one, if its resolver answers alike. -/
theorem follows_renderWithin (table : HandlerTable)
    (hresolver : Resolver.Follows related resolver other) (levels : Node → Nat) (embeds : Nat) :
    Visit.Follows related (table.renderWithin resolver levels embeds)
      (table.renderWithin other levels embeds) := by
  intro tree scope scope' text after h hresult
  exact follows_visit table hresolver (follows_enter table hresolver levels embeds) (levels tree)
    tree scope scope' text after h hresult

end Visit

/-! ### Other bounds -/

/-- A result does not depend on the bounds: both are where the machine without bounds ends. -/
theorem renderWithin_unique {table : HandlerTable} {levels levels' : Node → Nat}
    {embeds embeds' : Nat} {tree : Node} {scope : Scope σ} {result result' : String × Scope σ}
    (h : table.renderWithin resolver levels embeds tree scope = some result)
    (h' : table.renderWithin resolver levels' embeds' tree scope = some result') :
    result' = result := by
  have hrest := (Config.steps_renderWithin h').of_final rfl (Config.steps_renderWithin h)
  rcases Relation.ReflTransGen.cases_head hrest with heq | ⟨next, hnext, -⟩
  · obtain ⟨htext, hscope, -⟩ := Config.mk.inj heq
    exact Prod.ext (Rendering.output.inj htext).symm hscope.symm
  · cases hnext

/-- **Pages.** Rendered with resolvers that answer alike, a tree has one text, and the surroundings
are the same afterwards. Each bound only has to be enough for what its own resolver finds. -/
theorem renderWithin_elements_alike (hresolver : Resolver.Follows related resolver other)
    {paths paths' : List Path}
    (hpaths : ∀ document, resolver.Returns document → ∃ p ∈ paths, p.same document.path = true)
    (hpaths' : ∀ document, other.Returns document → ∃ p ∈ paths', p.same document.path = true)
    {embeds embeds' : Nat} (hembeds : paths.length ≤ embeds) (hembeds' : paths'.length ≤ embeds')
    (tree : Node) {scope : Scope σ} {scope' : Scope τ} (h : scope.Alike related scope') :
    ∃ text after after',
      HandlerTable.elements.renderWithin resolver Node.height embeds tree scope =
        some (text, after) ∧
      HandlerTable.elements.renderWithin other Node.height embeds' tree scope' =
        some (text, after') ∧
      after.Alike related after' := by
  have hroom := Path.room_le_length paths scope.context.includeStack
  have hroom' := Path.room_le_length paths' scope'.context.includeStack
  obtain ⟨⟨text, after⟩, hresult⟩ :=
    Option.isSome_iff_exists.mp
      (isSome_renderWithin hpaths tree scope (Nat.le_trans hroom hembeds))
  obtain ⟨result', hresult'⟩ :=
    Option.isSome_iff_exists.mp
      (isSome_renderWithin hpaths' tree scope' (Nat.le_trans hroom' hembeds'))
  obtain ⟨after', hsame, hafter⟩ := Visit.follows_renderWithin HandlerTable.elements hresolver
    Node.height embeds tree scope scope' text after h hresult
  obtain rfl := renderWithin_unique hsame hresult'
  exact ⟨text, after, after', hresult, hresult', hafter⟩

end MarkdownPages
