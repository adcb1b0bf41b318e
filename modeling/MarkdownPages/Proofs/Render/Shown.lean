import MarkdownPages.Proofs.Render.ElementDenotation

/-!
# The texts that a page shows

The texts that a reader sees on a page are those of the calls that show a text. They are the texts
of the document in the order in which they are written, each of them once, whatever stands around
them: elements, titles, attributes and raw HTML add nothing, and nothing gets lost on the way
through quoting and indentation.

What a document shows is defined here without statements, elements or code, by a walk from left to
right. All that the walk carries along is what the resolver remembers, because a link that is
followed may change what an image leads to later on.

## Main definitions

* `Node.shown`, `Node.shownAll` — the texts that a node and several nodes show
* `shownContents` — the texts that an embedded document shows
* `Outline.Shows` — statements that show what is found on a walk

## Main results

* `Node.shows_outline` — the statements of a node show its texts
* `shownTexts_renderWithin` — the code of a document shows its texts
-/

namespace MarkdownPages

variable {σ : Type}

namespace Node

open Walk

section Shown

variable (resolver : Resolver σ) (read : String → List Path → Node → Walk σ String)

mutual

/-- The texts that a node shows, in the document at `sourcePath` while the documents of `stack` are
being read. -/
def shown (sourcePath : String) (stack : List Path) : Node → Walk σ String
  | ⟨value, children⟩ =>
    let inner : Walk σ String := shownAll sourcePath stack (fun _ => true) children
    match value with
    | .text literal | .code literal | .codeBlock _ literal | .math _ literal => give [literal]
    | .softBreak => give [" "]
    | .footnoteReference label => give [label]
    | .frontMatter _ | .htmlBlock _ | .html _ | .hardBreak | .rule | .taskListMarker _ => give []
    | .table =>
      let heads : Walk σ String :=
        shownAll sourcePath stack (fun child => child.kind = .tableHead) children
      let rows : Walk σ String :=
        shownAll sourcePath stack (fun child => child.kind ≠ .tableHead) children
      heads.andThen rows
    | .link destination _ => fun store => inner (resolver.follow sourcePath destination store).2
    | .image destination _ => fun store =>
      match resolver.follow sourcePath destination store with
      | (.external, store) => some ([], store)
      | (.unresolved, store) => some ([imageSource (plainTextAll children) destination], store)
      | (.resolved document _, store) =>
        if stack.any (·.same document.path) then
          some ([imageSource (plainTextAll children) destination], store)
        else read document.relativePath (document.path :: stack) document.tree store
    | _ => inner

/-- The texts that those nodes show that are asked for. -/
def shownAll (sourcePath : String) (stack : List Path) (keep : Node → Bool) :
    List Node → Walk σ String
  | [] => give []
  | node :: rest =>
    if keep node then (shown sourcePath stack node).andThen (shownAll sourcePath stack keep rest)
    else shownAll sourcePath stack keep rest

end

variable {resolver read}

theorem shown_link (sourcePath : String) (stack : List Path) (destination title : String)
    (children : List Node) (store : σ) :
    shown resolver read sourcePath stack ⟨.link destination title, children⟩ store =
      shownAll resolver read sourcePath stack (fun _ => true) children
        (resolver.follow sourcePath destination store).2 := rfl

theorem shown_image (sourcePath : String) (stack : List Path) (destination title : String)
    (children : List Node) (store : σ) :
    shown resolver read sourcePath stack ⟨.image destination title, children⟩ store =
      match resolver.follow sourcePath destination store with
      | (.external, store) => some ([], store)
      | (.unresolved, store) => some ([imageSource (plainTextAll children) destination], store)
      | (.resolved document _, store) =>
        if stack.any (·.same document.path) then
          some ([imageSource (plainTextAll children) destination], store)
        else read document.relativePath (document.path :: stack) document.tree store := rfl

theorem shownAll_cons (sourcePath : String) (stack : List Path) (keep : Node → Bool) (node : Node)
    (rest : List Node) : shownAll resolver read sourcePath stack keep (node :: rest) =
      if keep node then (shown resolver read sourcePath stack node).andThen
        (shownAll resolver read sourcePath stack keep rest)
      else shownAll resolver read sourcePath stack keep rest := rfl

end Shown

end Node

/-- The texts that an embedded document shows, with documents at most `embeds` deep inside one
another. -/
def shownContents (resolver : Resolver σ) : Nat → String → List Path → Node → Walk σ String
  | 0 => fun _ _ _ _ => none
  | embeds + 1 => fun sourcePath stack tree =>
    Node.shownAll resolver (shownContents resolver embeds) sourcePath stack (fun _ => true)
      tree.children

/-! ### Statements that show texts -/

namespace Outline

open Statement

/-- Statements that show what is found on a walk. -/
def Shows (outline : Outline σ) (walk : Walk σ String) : Prop :=
  ∀ ledger, (outline ledger).map (fun result => (textsAll result.1, result.2.store)) =
    walk ledger.store

theorem shows_give {ss : List Statement} {ts : List String} (h : textsAll ss = ts) :
    Shows (Walk.give ss : Outline σ) (Walk.give ts) := fun ledger => by
  rw [Walk.give, Option.map_some, h, Walk.give]

theorem Shows.within {outline : Outline σ} {walk : Walk σ String} (h : outline.Shows walk)
    (call : Call) : (outline.within call).Shows walk := fun ledger => by
  rw [← h ledger, Outline.within, Option.map_map]
  congr 1
  funext result
  obtain ⟨body, last⟩ := result
  simp only [Function.comp_apply, textsAll, texts, List.append_nil]

theorem Shows.andThen {first second : Outline σ} {walk more : Walk σ String}
    (hfirst : first.Shows walk) (hsecond : second.Shows more) :
    Shows (Walk.andThen first second) (walk.andThen more) := fun ledger => by
  rw [Walk.andThen, Walk.andThen, ← hfirst ledger, Option.map_bind, Option.bind_map]
  congr 1
  funext result
  obtain ⟨ss, middle⟩ := result
  simp only [Function.comp_apply, ← hsecond middle, Option.map_map]
  congr 1
  funext result
  obtain ⟨ts, last⟩ := result
  simp only [Function.comp_apply, textsAll_append]

/-- Statements are found exactly if the walk ends. -/
theorem Shows.isSome_eq {outline : Outline σ} {walk : Walk σ String} (h : outline.Shows walk)
    (ledger : Ledger σ) : (outline ledger).isSome = (walk ledger.store).isSome := by
  rw [← h ledger, Option.isSome_map]

end Outline

theorem Ledger.follow_eq (ledger : Ledger σ) (resolver : Resolver σ)
    (sourcePath destination : String) :
    ((ledger.follow resolver sourcePath destination).1,
      (ledger.follow resolver sourcePath destination).2.store) =
      resolver.follow sourcePath destination ledger.store := by
  rw [follow]
  obtain ⟨reference, store⟩ := resolver.follow sourcePath destination ledger.store
  cases reference <;> rfl

theorem Ledger.store_headingId (ledger : Ledger σ) (text : String) (own : Option String) :
    (ledger.headingId text own).2.store = ledger.store := by
  cases own <;> rfl

/-! ### The statements of a node -/

namespace Node

open Outline

section Statements

variable {resolver : Resolver σ} {read : Standpoint → Node → Outline σ}
  {walk : String → List Path → Node → Walk σ String}

theorem shownAll_none {keep : Node → Bool} {nodes : List Node}
    (h : nodes.filter keep = []) (sourcePath : String) (stack : List Path) :
    shownAll resolver walk sourcePath stack keep nodes = Walk.give [] := by
  induction nodes with
  | nil => rfl
  | cons node rest ih =>
    by_cases hkeep : keep node = true
    · rw [List.filter_cons_of_pos hkeep] at h
      cases h
    · rw [List.filter_cons_of_neg hkeep] at h
      rw [shownAll_cons, if_neg hkeep, ih h]

/-- The body of a table shows what its rows show. -/
theorem shows_tableBody {children : List Node} {rows : Outline σ} {here : Standpoint}
    (hrows : rows.Shows (shownAll resolver walk here.sourcePath here.includeStack
      (fun child => child.kind ≠ .tableHead) children)) :
    (tableBody children rows).Shows (shownAll resolver walk here.sourcePath here.includeStack
      (fun child => child.kind ≠ .tableHead) children) := by
  rw [tableBody]
  by_cases hempty : (children.filter fun child => child.kind ≠ .tableHead).isEmpty = true
  · rw [if_pos hempty, shownAll_none (List.isEmpty_iff.mp hempty)]
    exact shows_give rfl
  · rw [if_neg hempty]
    exact hrows.within _

/-- Raw HTML shows no text. -/
theorem textsAll_rawHtmlStatements (container html : String) (h : IsElementName container) :
    Statement.textsAll (rawHtmlStatements container html h) = [] := by
  rw [rawHtmlStatements]
  split <;> rfl

theorem shows_link {here : Standpoint} {destination title : String} {children : List Node}
    (h : (childOutlines resolver read ⟨.link destination title, children⟩ here).Shows
      (shownAll resolver walk here.sourcePath here.includeStack (fun _ => true) children)) :
    (outline resolver read here ⟨.link destination title, children⟩).Shows
      (shown resolver walk here.sourcePath here.includeStack
        ⟨.link destination title, children⟩) := fun ledger => by
  have hfollow := ledger.follow_eq resolver here.sourcePath destination
  have hstore : (ledger.follow resolver here.sourcePath destination).2.store =
      (resolver.follow here.sourcePath destination ledger.store).2 := congrArg Prod.snd hfollow
  rw [outline_link, shown_link, ← hstore]
  obtain ⟨reference, last⟩ := ledger.follow resolver here.sourcePath destination
  cases reference with
  | external => exact h.within (.anchor destination title) last
  | resolved document fragment => exact h.within (.route _) last
  | unresolved => exact h.within (.anchor destination title) last

theorem shows_image
    (hread : ∀ here tree, (read here tree).Shows (walk here.sourcePath here.includeStack tree))
    {here : Standpoint} {destination title : String} {children : List Node} :
    (outline resolver read here ⟨.image destination title, children⟩).Shows
      (shown resolver walk here.sourcePath here.includeStack
        ⟨.image destination title, children⟩) := fun ledger => by
  have hfollow := ledger.follow_eq resolver here.sourcePath destination
  rw [outline_image, shown_image, ← hfollow]
  obtain ⟨reference, last⟩ := ledger.follow resolver here.sourcePath destination
  cases reference with
  | external => rfl
  | unresolved => rfl
  | resolved document fragment =>
    dsimp only
    by_cases hstack : here.includeStack.any (·.same document.path) = true
    · rw [if_pos hstack, if_pos hstack]
      rfl
    · rw [if_neg hstack, if_neg hstack]
      exact hread (here.enter document) document.tree last

mutual

/-- The statements of a node show its texts, if those of embedded documents do. -/
theorem shows_outline
    (hread : ∀ here tree, (read here tree).Shows (walk here.sourcePath here.includeStack tree))
    (here : Standpoint) : ∀ node : Node,
    (node.outline resolver read here).Shows
      (node.shown resolver walk here.sourcePath here.includeStack)
  | ⟨value, children⟩ => by
    have hinner : (childOutlines resolver read ⟨value, children⟩ here).Shows
        (shownAll resolver walk here.sourcePath here.includeStack (fun _ => true) children) :=
      shows_outlineAll hread (here.below value.kind) (fun _ => true) children
    cases value with
    | document => exact hinner
    | frontMatter => exact shows_give rfl
    | paragraph =>
      exact outline_paragraph_induction (motive := (Shows · _)) hinner hinner.within
    | heading level own =>
      intro ledger
      have hwithin := hinner.within
        (.heading level (ledger.headingId (plainTextAll children) own).1)
        (ledger.headingId (plainTextAll children) own).2
      rw [Ledger.store_headingId] at hwithin
      exact hwithin
    | blockQuote => exact hinner.within _
    | codeBlock language literal => exact shows_give rfl
    | htmlBlock literal => exact shows_give (textsAll_rawHtmlStatements "Div" literal (by decide))
    | list start => exact hinner.within (.list start)
    | item => exact hinner.within _
    | taskListMarker checked => exact shows_give rfl
    | table =>
      have hheads := shows_outlineAll hread here (fun child => child.kind = .tableHead) children
      have hrows := shows_outlineAll hread here (fun child => child.kind ≠ .tableHead) children
      exact (hheads.andThen (shows_tableBody hrows)).within _
    | tableHead => exact (hinner.within _).within _
    | tableRow => exact hinner.within _
    | tableCell => exact hinner.within _
    | emphasis => exact hinner.within _
    | strong => exact hinner.within _
    | strikethrough => exact hinner.within _
    | superscript => exact hinner.within _
    | subscript => exact hinner.within _
    | link destination title => exact shows_link hinner
    | image destination title => exact shows_image hread
    | text literal => exact shows_give rfl
    | code literal => exact shows_give rfl
    | html literal => exact shows_give (textsAll_rawHtmlStatements "Span" literal (by decide))
    | math display literal => exact shows_give rfl
    | softBreak => exact shows_give rfl
    | hardBreak => exact shows_give rfl
    | rule => exact shows_give rfl
    | footnoteDefinition label => exact hinner.within (.footnote label)
    | footnoteReference label => exact shows_give rfl
    | definitionList => exact hinner.within _
    | definitionListTitle => exact hinner.within _
    | definitionListDefinition => exact hinner.within _

theorem shows_outlineAll
    (hread : ∀ here tree, (read here tree).Shows (walk here.sourcePath here.includeStack tree))
    (here : Standpoint) (keep : Node → Bool) : ∀ nodes : List Node,
    Shows (outlineAll resolver read here keep nodes)
      (shownAll resolver walk here.sourcePath here.includeStack keep nodes)
  | [] => shows_give rfl
  | node :: rest => by
    have hrest := shows_outlineAll hread here keep rest
    rw [outlineAll_cons, shownAll_cons]
    by_cases hkeep : keep node = true
    · rw [if_pos hkeep, if_pos hkeep]
      exact (shows_outline hread here node).andThen hrest
    · rw [if_neg hkeep, if_neg hkeep]
      exact hrest

end

end Statements

end Node

/-! ### Documents -/

/-- An embedded document shows its texts. -/
theorem shows_contents (resolver : Resolver σ) (embeds : Nat) (here : Standpoint) (tree : Node) :
    (contents resolver embeds here tree).Shows
      (shownContents resolver embeds here.sourcePath here.includeStack tree) := by
  induction embeds generalizing here tree with
  | zero => exact fun _ => rfl
  | succ embeds ih => exact Node.shows_outlineAll ih (here.below tree.kind) (fun _ => true) _

/-- **Texts.** The texts that the lines of a rendered document show are the texts that the document
shows, in the same order, at every level of indentation. -/
theorem shownTexts_renderWithin (resolver : Resolver σ) (embeds : Nat) (tree : Node)
    (scope : Scope σ) :
    (HandlerTable.elements.renderWithin resolver Node.height embeds tree scope).map
        (fun result => Kotlin.shownTexts (Text.lines result.1.toList)) =
      (tree.shown resolver (shownContents resolver embeds) scope.context.sourcePath
        scope.context.includeStack scope.store).map (·.1) := by
  have hshows : (tree.outline resolver (contents resolver embeds) scope.standpoint).Shows
      (tree.shown resolver (shownContents resolver embeds) scope.standpoint.sourcePath
        scope.standpoint.includeStack) :=
    Node.shows_outline (shows_contents resolver embeds) scope.standpoint tree
  change _ = Option.map _ (tree.shown resolver (shownContents resolver embeds)
    scope.standpoint.sourcePath scope.standpoint.includeStack scope.ledger.store)
  rw [renderWithin_elements, ← hshows scope.ledger, Option.map_map, Option.map_map]
  congr 1
  funext result
  obtain ⟨ss, last⟩ := result
  simp only [Function.comp_apply, Scope.finish, Statement.lines_unlines_linesAll,
    Statement.shownTexts_linesAll]

end MarkdownPages
