import MarkdownPages.Proofs.Render.IncludeStack

/-!
# The warnings of a page

A link or an image of a document that is not found gives a warning, and so does an image of a
document that is being read already. Nothing else does, and none of them is passed over. Each
warning names the destination as it is written and the document that it is written in.

Which links and images there are is found by a walk through the tree in the order of the document,
which goes on inside the documents that images stand for, and leaves out the alternatives of images.
The warnings of a page follow this walk, but for one thing: a table gives its heads first, wherever
they stand among its rows. So the page has the warnings of the tree in which every table starts with
its heads, which is the tree itself unless a head stands below another row.

## Main definitions

* `Occurrence`, `Occurrence.warning?` — a link or an image, and what there is to warn about
* `Node.occurrences` — the links and images of a tree, in the order of the document
* `Node.headsFirst` — the tree in which every table starts with its heads
* `Outline.Warns` — statements that warn about what is found on a walk

## Main results

* `Node.headsFirst_eq_self` — nothing moves in a tree whose tables start with their heads
* `Node.warns_outline` — the statements of a node warn about its links and images
* `warnings_renderWithin` — the warnings of a rendered document
-/

namespace MarkdownPages

variable {σ : Type}

/-! ### Walks after one another -/

namespace Walk

variable {S α : Type}

theorem give_nil_andThen (walk : Walk S α) : (give []).andThen walk = walk := by
  funext s
  exact Option.map_id_apply

theorem andThen_assoc (first second third : Walk S α) :
    (first.andThen second).andThen third = first.andThen (second.andThen third) := by
  funext s
  simp only [andThen, Option.bind_assoc, Option.map_bind, Option.bind_map]
  refine Option.bind_congr fun result _ => Option.bind_congr fun more _ => ?_
  simp only [Function.comp_def, Option.map_map, List.append_assoc]

end Walk

/-! ### Links and images -/

/-- A link or an image, where it is met. -/
structure Occurrence where
  isImage : Bool
  /-- The destination as it is written. -/
  destination : String
  /-- The path below its root of the document that it is written in. -/
  sourcePath : String
  /-- The paths of the documents that are being read there, innermost first. -/
  includeStack : List Path
  leadsTo : Reference

/-- What there is to warn about: a document that is not found, and an image of a document that is
being read already. -/
def Occurrence.warning? (found : Occurrence) : Option String :=
  match found.leadsTo with
  | .external => none
  | .unresolved =>
    some ("Unresolved markdown reference '" ++ found.destination ++ "' in " ++ found.sourcePath)
  | .resolved document _ =>
    if found.isImage && found.includeStack.any (·.same document.path) then
      some (Elements.cycleMessage found.destination found.sourcePath)
    else none

/-- Meets a link or an image, and goes on with what it leads to. -/
def Resolver.meet (resolver : Resolver σ) (isImage : Bool) (destination sourcePath : String)
    (stack : List Path) (next : Reference → Walk σ Occurrence) : Walk σ Occurrence := fun store =>
  let (reference, store) := resolver.follow sourcePath destination store
  let found : Occurrence := ⟨isImage, destination, sourcePath, stack, reference⟩
  (Walk.give [found]).andThen (next reference) store

namespace Node

open Walk

section Occurrences

variable (resolver : Resolver σ) (read : String → List Path → Node → Walk σ Occurrence)

mutual

/-- The links and images of a node and of the documents that its images stand for, in the document
at `sourcePath` while the documents of `stack` are being read. -/
def occurrences (sourcePath : String) (stack : List Path) : Node → Walk σ Occurrence
  | ⟨value, children⟩ =>
    let inner : Walk σ Occurrence := occurrencesAll sourcePath stack children
    match value with
    | .link destination _ => resolver.meet false destination sourcePath stack fun _ => inner
    | .image destination _ =>
      resolver.meet true destination sourcePath stack fun
        | .resolved document _ =>
          if stack.any (·.same document.path) then give []
          else read document.relativePath (document.path :: stack) document.tree
        | _ => give []
    | .frontMatter _ | .codeBlock _ _ | .htmlBlock _ | .taskListMarker _ | .text _ | .code _
    | .html _ | .math _ _ | .softBreak | .hardBreak | .rule | .footnoteReference _ => give []
    | _ => inner

/-- The links and images of several nodes. -/
def occurrencesAll (sourcePath : String) (stack : List Path) : List Node → Walk σ Occurrence
  | [] => give []
  | node :: rest =>
    (occurrences sourcePath stack node).andThen (occurrencesAll sourcePath stack rest)

end

variable {resolver read} {sourcePath : String} {stack : List Path}

theorem occurrences_link (destination title : String) (children : List Node) :
    occurrences resolver read sourcePath stack ⟨.link destination title, children⟩ =
      resolver.meet false destination sourcePath stack fun _ =>
        occurrencesAll resolver read sourcePath stack children := rfl

theorem occurrences_image (destination title : String) (children : List Node) :
    occurrences resolver read sourcePath stack ⟨.image destination title, children⟩ =
      resolver.meet true destination sourcePath stack fun
        | .resolved document _ =>
          if stack.any (·.same document.path) then give []
          else read document.relativePath (document.path :: stack) document.tree
        | _ => give [] := rfl

theorem occurrencesAll_cons (node : Node) (rest : List Node) :
    occurrencesAll resolver read sourcePath stack (node :: rest) =
      (occurrences resolver read sourcePath stack node).andThen
        (occurrencesAll resolver read sourcePath stack rest) := rfl

theorem occurrencesAll_append (nodes rest : List Node) :
    occurrencesAll resolver read sourcePath stack (nodes ++ rest) =
      (occurrencesAll resolver read sourcePath stack nodes).andThen
        (occurrencesAll resolver read sourcePath stack rest) := by
  induction nodes with
  | nil => exact (give_nil_andThen _).symm
  | cons node nodes ih =>
    rw [List.cons_append, occurrencesAll_cons, ih, occurrencesAll_cons, andThen_assoc]

end Occurrences

end Node

/-- The links and images of an embedded document, with documents at most `embeds` deep inside one
another. Every tree is arranged in the same way before it is read. -/
def occurrencesIn (resolver : Resolver σ) (arrange : Node → Node) :
    Nat → String → List Path → Node → Walk σ Occurrence
  | 0 => fun _ _ _ _ => none
  | embeds + 1 => fun sourcePath stack tree =>
    Node.occurrencesAll resolver (occurrencesIn resolver arrange embeds) sourcePath stack
      (tree.children.map arrange)

/-- The warnings that the links and images of a tree call for, in the order of the arranged tree. -/
def Node.warnings (resolver : Resolver σ) (arrange : Node → Node) (embeds : Nat) (tree : Node)
    (scope : Scope σ) : Option (List String) :=
  ((arrange tree).occurrences resolver (occurrencesIn resolver arrange embeds)
    scope.context.sourcePath scope.context.includeStack scope.store).map
      fun found => found.1.filterMap Occurrence.warning?

/-! ### Tables that start with their heads -/

namespace Node

mutual

/-- The tree in which every table starts with its heads. -/
def headsFirst : Node → Node
  | ⟨value, children⟩ =>
    match value with
    | .table =>
      ⟨.table, headsFirstAll (fun child => child.kind = .tableHead) children ++
        headsFirstAll (fun child => child.kind ≠ .tableHead) children⟩
    | _ => ⟨value, headsFirstAll (fun _ => true) children⟩

/-- The trees of those nodes that are asked for. -/
def headsFirstAll (keep : Node → Bool) : List Node → List Node
  | [] => []
  | node :: rest =>
    if keep node then headsFirst node :: headsFirstAll keep rest else headsFirstAll keep rest

end

theorem headsFirstAll_eq (keep : Node → Bool) (nodes : List Node) :
    headsFirstAll keep nodes = (nodes.filter keep).map headsFirst := by
  induction nodes with
  | nil => rfl
  | cons node rest ih =>
    rw [headsFirstAll]
    by_cases hkeep : keep node = true
    · rw [if_pos hkeep, List.filter_cons_of_pos hkeep, List.map_cons, ih]
    · rw [if_neg hkeep, List.filter_cons_of_neg hkeep, ih]

theorem headsFirstAll_true (nodes : List Node) :
    headsFirstAll (fun _ => true) nodes = nodes.map headsFirst := by
  rw [headsFirstAll_eq, List.filter_eq_self.mpr fun _ _ => rfl]

mutual

/-- Whether every table of a tree starts with its heads. -/
def HeadsLead : Node → Prop
  | ⟨value, children⟩ =>
    (value = .table → children.filter (fun child => child.kind = .tableHead) ++
      children.filter (fun child => child.kind ≠ .tableHead) = children) ∧ HeadsLeadAll children

/-- Whether every table of several trees starts with its heads. -/
def HeadsLeadAll : List Node → Prop
  | [] => True
  | node :: rest => HeadsLead node ∧ HeadsLeadAll rest

end

mutual

/-- Nothing moves in a tree whose tables start with their heads. -/
theorem headsFirst_eq_self : ∀ node : Node, node.HeadsLead → node.headsFirst = node
  | ⟨value, children⟩, h => by
    obtain ⟨hlead, hchildren⟩ := h
    have hself := map_headsFirst_eq_self children hchildren
    by_cases htable : value = .table
    · subst htable
      rw [headsFirst, headsFirstAll_eq, headsFirstAll_eq, ← List.map_append, hlead rfl, hself]
    · rw [headsFirst, headsFirstAll_true, hself]
      exact htable

theorem map_headsFirst_eq_self : ∀ nodes : List Node, HeadsLeadAll nodes →
    nodes.map headsFirst = nodes
  | [], _ => rfl
  | node :: rest, h => by
    obtain ⟨hnode, hrest⟩ := h
    rw [List.map_cons, headsFirst_eq_self node hnode, map_headsFirst_eq_self rest hrest]

end

end Node

/-! ### Statements that warn -/

namespace Outline

/-- Statements that warn about what is found on a walk, and about nothing else. -/
def Warns (outline : Outline σ) (walk : Walk σ Occurrence) : Prop :=
  ∀ ledger, (outline ledger).map (fun result => (result.2.warnings, result.2.store)) =
    (walk ledger.store).map
      fun found => (ledger.warnings ++ found.1.filterMap Occurrence.warning?, found.2)

theorem warns_give (ss : List Statement) :
    Warns (Walk.give ss : Outline σ) (Walk.give []) := by
  intro ledger
  rw [Walk.give, Walk.give, Option.map_some, Option.map_some, List.filterMap_nil, List.append_nil]

theorem Warns.within {outline : Outline σ} {walk : Walk σ Occurrence} (h : outline.Warns walk)
    (call : Call) : (outline.within call).Warns walk := by
  intro ledger
  rw [← h ledger, Outline.within, Option.map_map]
  rfl

theorem Warns.andThen {first second : Outline σ} {walk more : Walk σ Occurrence}
    (hfirst : first.Warns walk) (hsecond : second.Warns more) :
    Warns (Walk.andThen first second) (walk.andThen more) := by
  intro ledger
  have hledger := hfirst ledger
  rw [Walk.andThen, Walk.andThen]
  cases hss : first ledger with
  | none =>
    rw [hss, Option.map_none, eq_comm, Option.map_eq_none_iff] at hledger
    rw [hledger]
    rfl
  | some result =>
    obtain ⟨ss, middle⟩ := result
    rw [hss, Option.map_some, eq_comm, Option.map_eq_some_iff] at hledger
    obtain ⟨⟨found, store⟩, hfound, heq⟩ := hledger
    obtain ⟨hwarnings, rfl⟩ := Prod.mk.inj heq
    rw [hfound, Option.bind_some, Option.bind_some, Option.map_map, Option.map_map]
    have hmiddle := hsecond middle
    rw [← hwarnings] at hmiddle
    refine hmiddle.trans ?_
    simp only [Function.comp_def, List.filterMap_append, List.append_assoc]

/-- Statements after a link or an image whose warning has been given. -/
theorem Warns.after {outline : Outline σ} {walk : Walk σ Occurrence} (h : outline.Warns walk)
    {ledger later : Ledger σ} {found : Occurrence}
    (hwarnings : later.warnings = ledger.warnings ++ found.warning?.toList) :
    (outline later).map (fun result => (result.2.warnings, result.2.store)) =
      ((Walk.give [found]).andThen walk later.store).map
        fun found => (ledger.warnings ++ found.1.filterMap Occurrence.warning?, found.2) := by
  rw [h later, Walk.andThen, Walk.give, Option.bind_some, Option.map_map, hwarnings]
  cases hwarning : found.warning? <;>
    simp only [Function.comp_def, List.singleton_append, List.filterMap_cons, hwarning,
      Option.toList_none, Option.toList_some, List.append_nil, List.append_assoc]

end Outline

theorem Ledger.warnings_headingId (ledger : Ledger σ) (text : String) (own : Option String) :
    (ledger.headingId text own).2.warnings = ledger.warnings := by
  cases own <;> rfl

/-! ### The statements of a node -/

namespace Node

open Outline

section Statements

variable {resolver : Resolver σ} {read : Standpoint → Node → Outline σ}
  {walk : String → List Path → Node → Walk σ Occurrence}

/-- The body of a table warns about what is in its rows. -/
theorem warns_tableBody {children : List Node} {rows : Outline σ} {here : Standpoint}
    (hrows : rows.Warns (occurrencesAll resolver walk here.sourcePath here.includeStack
      (headsFirstAll (fun child => child.kind ≠ .tableHead) children))) :
    (tableBody children rows).Warns (occurrencesAll resolver walk here.sourcePath here.includeStack
      (headsFirstAll (fun child => child.kind ≠ .tableHead) children)) := by
  rw [tableBody]
  by_cases hempty : (children.filter fun child => child.kind ≠ .tableHead).isEmpty = true
  · rw [if_pos hempty, headsFirstAll_eq, List.isEmpty_iff.mp hempty]
    exact warns_give []
  · rw [if_neg hempty]
    exact hrows.within _

theorem warns_link {here : Standpoint} {destination title : String} {children nodes : List Node}
    (h : (childOutlines resolver read ⟨.link destination title, children⟩ here).Warns
      (occurrencesAll resolver walk here.sourcePath here.includeStack nodes)) :
    (outline resolver read here ⟨.link destination title, children⟩).Warns
      (occurrences resolver walk here.sourcePath here.includeStack
        ⟨.link destination title, nodes⟩) := by
  intro ledger
  rw [outline_link, occurrences_link, Resolver.meet, Ledger.follow]
  cases resolver.follow here.sourcePath destination ledger.store with
  | mk reference store =>
    cases reference with
    | external => exact (h.within _).after (List.append_nil _).symm
    | resolved document fragment => exact (h.within _).after (List.append_nil _).symm
    | unresolved => exact (h.within _).after rfl

theorem warns_image
    (hread : ∀ here tree, (read here tree).Warns (walk here.sourcePath here.includeStack tree))
    {here : Standpoint} {destination title : String} {children nodes : List Node} :
    (outline resolver read here ⟨.image destination title, children⟩).Warns
      (occurrences resolver walk here.sourcePath here.includeStack
        ⟨.image destination title, nodes⟩) := by
  intro ledger
  rw [outline_image, occurrences_image, Resolver.meet, Ledger.follow]
  cases resolver.follow here.sourcePath destination ledger.store with
  | mk reference store =>
    cases reference with
    | external => exact (warns_give _).after (List.append_nil _).symm
    | unresolved => exact (warns_give _).after rfl
    | resolved document fragment =>
      dsimp only
      by_cases hstack : here.includeStack.any (·.same document.path) = true
      · rw [if_pos hstack, if_pos hstack]
        have hcyclic : (Occurrence.mk true destination here.sourcePath here.includeStack
            (.resolved document fragment)).warning? =
            some (Elements.cycleMessage destination here.sourcePath) := by
          rw [Occurrence.warning?]
          exact if_pos hstack
        exact (warns_give _).after (congrArg (ledger.warnings ++ Option.toList ·) hcyclic.symm)
      · rw [if_neg hstack, if_neg hstack]
        have hfine : (Occurrence.mk true destination here.sourcePath here.includeStack
            (.resolved document fragment)).warning? = none := by
          rw [Occurrence.warning?]
          exact if_neg hstack
        refine (hread (here.enter document) document.tree).after ?_
        rw [hfine, Option.toList_none, List.append_nil]

mutual

/-- The statements of a node warn about its links and images, if those of embedded documents do. -/
theorem warns_outline
    (hread : ∀ here tree, (read here tree).Warns (walk here.sourcePath here.includeStack tree))
    (here : Standpoint) : ∀ node : Node,
    (node.outline resolver read here).Warns
      (node.headsFirst.occurrences resolver walk here.sourcePath here.includeStack)
  | ⟨value, children⟩ => by
    have hinner : (childOutlines resolver read ⟨value, children⟩ here).Warns
        (occurrencesAll resolver walk here.sourcePath here.includeStack
          (headsFirstAll (fun _ => true) children)) :=
      warns_outlineAll hread (here.below value.kind) (fun _ => true) children
    cases value with
    | document => exact hinner
    | paragraph =>
      exact outline_paragraph_induction (motive := (Warns · _)) hinner hinner.within
    | heading level own =>
      intro ledger
      have hwithin := hinner.within
        (.heading level (ledger.headingId (plainTextAll children) own).1)
        (ledger.headingId (plainTextAll children) own).2
      rw [Ledger.store_headingId, Ledger.warnings_headingId] at hwithin
      exact hwithin
    | list start => exact hinner.within (.list start)
    | table =>
      have hheads := warns_outlineAll hread here (fun child => child.kind = .tableHead) children
      have hrows := warns_outlineAll hread here (fun child => child.kind ≠ .tableHead) children
      have hboth := hheads.andThen (warns_tableBody hrows)
      rw [← occurrencesAll_append] at hboth
      exact hboth.within _
    | tableHead => exact (hinner.within _).within _
    | link destination title => exact warns_link hinner
    | image destination title => exact warns_image hread
    | footnoteDefinition label => exact hinner.within (.footnote label)
    | blockQuote | item | tableRow | tableCell | emphasis | strong | strikethrough | superscript
    | subscript | definitionList | definitionListTitle | definitionListDefinition =>
      exact hinner.within _
    | frontMatter | codeBlock | htmlBlock | taskListMarker | text | code | html | math | softBreak
    | hardBreak | rule | footnoteReference => exact warns_give _

theorem warns_outlineAll
    (hread : ∀ here tree, (read here tree).Warns (walk here.sourcePath here.includeStack tree))
    (here : Standpoint) (keep : Node → Bool) : ∀ nodes : List Node,
    Warns (outlineAll resolver read here keep nodes)
      (occurrencesAll resolver walk here.sourcePath here.includeStack (headsFirstAll keep nodes))
  | [] => warns_give []
  | node :: rest => by
    have hrest := warns_outlineAll hread here keep rest
    rw [outlineAll_cons, headsFirstAll]
    by_cases hkeep : keep node = true
    · rw [if_pos hkeep, if_pos hkeep]
      exact (warns_outline hread here node).andThen hrest
    · rw [if_neg hkeep, if_neg hkeep]
      exact hrest

end

end Statements

end Node

/-! ### Documents -/

/-- An embedded document warns about its links and images. -/
theorem warns_contents (resolver : Resolver σ) (embeds : Nat) (here : Standpoint) (tree : Node) :
    (contents resolver embeds here tree).Warns
      (occurrencesIn resolver Node.headsFirst embeds here.sourcePath here.includeStack tree) := by
  induction embeds generalizing here tree with
  | zero => exact fun _ => rfl
  | succ embeds ih =>
    have hall : (childOutlines resolver (contents resolver embeds) tree here).Warns _ :=
      Node.warns_outlineAll ih (here.below tree.kind) (fun _ => true) tree.children
    rw [Node.headsFirstAll_true] at hall
    exact hall

/-- **Warnings.** A rendered document has one warning more for each link and image whose document
is not found, and for each image of a document that is being read already, in the order of the
document with the heads of its tables first. Only bounds that are too low can keep it from giving a
result. -/
theorem warnings_renderWithin (resolver : Resolver σ) (tree : Node) (scope : Scope σ) :
    (∀ embeds,
      (HandlerTable.elements.renderWithin resolver Node.height embeds tree scope).map
          (fun result => result.2.context.warnings) =
        (tree.warnings resolver Node.headsFirst embeds scope).map (scope.context.warnings ++ ·)) ∧
    ∀ paths : List Path,
      (∀ found, resolver.Returns found → ∃ p ∈ paths, p.same found.path = true) →
        (HandlerTable.elements.renderWithin resolver Node.height paths.length tree
          scope).isSome := by
  refine ⟨fun embeds => ?_, fun paths hpaths =>
    isSome_renderWithin hpaths tree scope (Path.room_le_length paths _)⟩
  have hwarns : (tree.outline resolver (contents resolver embeds) scope.standpoint).Warns
      (tree.headsFirst.occurrences resolver (occurrencesIn resolver Node.headsFirst embeds)
        scope.standpoint.sourcePath scope.standpoint.includeStack) :=
    Node.warns_outline (warns_contents resolver embeds) scope.standpoint tree
  have hledger := congrArg (Option.map Prod.fst) (hwarns scope.ledger)
  rw [Option.map_map, Option.map_map] at hledger
  rw [renderWithin_elements, Option.map_map, Node.warnings, Option.map_map]
  exact hledger

/-- A document with a link that leads nowhere and with itself, one after the other, with its
name. -/
def logDocument : String × ResolvedDocument :=
  ("log.md", ⟨⟨"/log.md"⟩, "log.md",
    ⟨.document, [⟨.link "lost.md" "", [.leaf (.text "lost")]⟩, .leaf (.image "log.md" "")]⟩⟩)

/-- The top of the index of a site. -/
def indexScope : Scope Unit :=
  ⟨⟨{ package := "p", functionName := "F", sourcePath := "index.md" }, 0, []⟩, ()⟩

/-- The document, embedded in the index: the warnings are about the document inside it. -/
theorem warnings_renderWithin_of_log :
    (∀ found, (Resolver.ofNamed [logDocument] : Resolver Unit).Returns found →
      ∃ p ∈ [logDocument.2.path], p.same found.path = true) ∧
    (HandlerTable.elements.renderWithin (Resolver.ofNamed [logDocument]) Node.height 1
      (.leaf (.image "log.md" "")) indexScope).isSome ∧
    (HandlerTable.elements.renderWithin (Resolver.ofNamed [logDocument]) Node.height 1
        (.leaf (.image "log.md" "")) indexScope).map (fun result => result.2.context.warnings) =
      some ["Unresolved markdown reference 'lost.md' in log.md",
        "Cyclic markdown embed 'log.md' in log.md"] := by
  have hpaths : ∀ found, (Resolver.ofNamed [logDocument] : Resolver Unit).Returns found →
      ∃ p ∈ [logDocument.2.path], p.same found.path = true :=
    fun _ => Resolver.returns_ofNamed_singleton
  obtain ⟨hwarnings, hends⟩ := warnings_renderWithin (Resolver.ofNamed [logDocument])
    (.leaf (.image "log.md" "")) indexScope
  refine ⟨hpaths, hends [logDocument.2.path] hpaths, (hwarnings 1).trans ?_⟩
  decide +kernel

/-- A table whose head stands below another row, with a link that leads nowhere in each. -/
def lateHead : Node :=
  ⟨.table, [⟨.tableRow, [⟨.tableCell, [.leaf (.link "a.md" "")]⟩]⟩,
    ⟨.tableHead, [⟨.tableCell, [.leaf (.link "b.md" "")]⟩]⟩]⟩

/-- The warnings do not follow the order of the document if a head of a table stands below another
row: that of the head comes first. -/
theorem warnings_of_lateHead :
    (HandlerTable.elements.renderWithin Resolver.nothing Node.height 0 lateHead indexScope).map
        (fun result => result.2.context.warnings) ≠
      (lateHead.warnings Resolver.nothing id 0 indexScope).map
        (indexScope.context.warnings ++ ·) := by
  decide +kernel

end MarkdownPages
