import MarkdownPages.Proofs.Render.Denotation

/-!
# The table of elements prints statements

Rendering a node by the table of elements is printing its statements at the current indentation.
There is one lemma for each handler that is not just an element around the children of its node;
the rest is bookkeeping over the kinds of nodes.

## Main results

* `elementHandler_gives` — every handler prints the statements of its node
* `visit_elements` — a node, rendered with enough levels
* `renderWithin_elements` — a tree, with the bound on embedded documents
-/

namespace MarkdownPages

variable {σ : Type} {resolver : Resolver σ} {visit enter : Visit σ}
  {read : Standpoint → Node → Outline σ}

open Rendering

/-! ### Blocks -/

section Children

variable {children : List Node} (hchildren : ∀ child ∈ children, Prints resolver visit read child)

include hchildren

theorem gives_heading (level : Nat) (own : Option String) :
    Gives resolver visit enter [] (Elements.heading ⟨.heading level own, children⟩)
      (Node.outline resolver read · ⟨.heading level own, children⟩) := by
  have hcode : ∀ id : String,
      (if id.isEmpty then block ("H" ++ toString level) ⟨.heading level own, children⟩
        else block (Elements.withAttributes ("H" ++ toString level) (Elements.callOn "id" id))
          ⟨.heading level own, children⟩) =
        block (Call.heading level id).code ⟨.heading level own, children⟩ := by
    intro id
    rw [Call.heading_code]
    by_cases hid : id.isEmpty = true
    · rw [if_pos hid, if_pos hid]
    · rw [if_neg hid, if_neg hid]
  refine .needing (heading_ne (by decide) level) fun scope ledger => ?_
  have hblock : ∀ id, Gives resolver visit enter [(Call.heading level id).name]
      (block (Call.heading level id).code ⟨.heading level own, children⟩) fun here =>
        (childOutlines resolver read ⟨.heading level own, children⟩ here).within
          (.heading level id) :=
    fun id => gives_block hchildren (Call.heading level id)
  simp only [Call.heading_name, ← hcode] at hblock
  rw [Node.outline_heading]
  cases own with
  | some id => exact hblock id scope ledger
  | none =>
    have htext : Node.plainText ⟨.heading level none, children⟩ = Node.plainTextAll children := rfl
    dsimp only
    rw [perform_headingId, htext]
    exact hblock (ledger.headingId (Node.plainTextAll children) none).1 scope
      (ledger.headingId (Node.plainTextAll children) none).2

theorem gives_tableHead : Gives resolver visit enter [] (Elements.tableHead ⟨.tableHead, children⟩)
    (Node.outline resolver read · ⟨.tableHead, children⟩) := by
  have hrow : Gives resolver visit enter ["Tr"] (block "Tr" ⟨.tableHead, children⟩) fun here =>
      (childOutlines resolver read ⟨.tableHead, children⟩ here).within
        (.bare "Tr" (by decide)) :=
    gives_block hchildren (.bare "Tr" (by decide))
  have hhead := (hrow.wrap (.bare "Thead" (by decide))).gives
  exact .needing (by decide) (.needing (by decide) hhead)

theorem gives_tableCell : Gives resolver visit enter [] (Elements.tableCell ⟨.tableCell, children⟩)
    (Node.outline resolver read · ⟨.tableCell, children⟩) := by
  intro scope ledger
  rw [Elements.tableCell, perform]
  change (Elements.element (if scope.standpoint.inTableHead then "Th" else "Td") _).perform
    resolver visit enter _ = (((childOutlines resolver read ⟨.tableCell, children⟩
      scope.standpoint).within (if scope.standpoint.inTableHead then .bare "Th" (by decide)
        else .bare "Td" (by decide))) ledger).map scope.finish
  cases scope.standpoint.inTableHead with
  | true => exact gives_element hchildren "Th" (by decide) (by decide) scope ledger
  | false => exact gives_element hchildren "Td" (by decide) (by decide) scope ledger

theorem gives_list (start : Option Nat) :
    Gives resolver visit enter [] (Elements.list ⟨.list start, children⟩)
      (Node.outline resolver read · ⟨.list start, children⟩) := by
  have hnumber : ∀ start : Nat, Gives resolver visit enter []
      (Elements.needing "Ol" (block (Elements.withAttributes "Ol"
        ("attr(\"start\", \"" ++ toString start ++ "\")")) ⟨.list (some start), children⟩))
      fun here => (childOutlines resolver read ⟨.list (some start), children⟩ here).within
        (.withAttributes "Ol" _ (Call.isBalanced_start start).isClosed (by decide)) := by
    intro start
    rw [← Call.withAttributes_code (Call.isBalanced_start start).isClosed (by decide)]
    exact .needing (by decide) (gives_block hchildren _)
  rcases start with _ | _ | _ | n
  · exact gives_element hchildren "Ul" (by decide) (by decide)
  · exact hnumber 0
  · exact gives_element hchildren "Ol" (by decide) (by decide)
  · exact hnumber (n + 2)

theorem gives_footnoteDefinition (label : String) : Gives resolver visit enter []
    (Elements.footnoteDefinition ⟨.footnoteDefinition label, children⟩)
    (Node.outline resolver read · ⟨.footnoteDefinition label, children⟩) := by
  have hblock : Gives resolver visit enter ["Div"]
      (block (Call.footnote label).code ⟨.footnoteDefinition label, children⟩) fun here =>
        (childOutlines resolver read ⟨.footnoteDefinition label, children⟩ here).within
          (.footnote label) :=
    gives_block hchildren (.footnote label)
  rw [Call.footnote_code] at hblock
  exact .needing (by decide) hblock

variable (enter) in
/-- The rows of a table, and its body unless it has none, after the code of its heads. -/
theorem perform_tableBody (head : String) (scope : Scope σ) (ledger : Ledger σ) :
    (if (children.filter fun child => child.kind ≠ .tableHead).isEmpty then output head
      else Elements.needing "Tbody" <| wrap "Tbody"
        (renderAll (children.filter fun child => child.kind ≠ .tableHead))
        fun body => output (head ++ body)).perform resolver visit enter (scope.after [] ledger) =
      (tableBody children (Node.outlineAll resolver read scope.standpoint
        (fun child => child.kind ≠ .tableHead) children) ledger).map fun result =>
          (head ++ (scope.finish result).1, (scope.finish result).2) := by
  have hrows : Gives resolver visit enter []
      (renderAll (children.filter fun child => child.kind ≠ .tableHead))
      fun here => Node.outlineAll resolver read here (fun child => child.kind ≠ .tableHead)
        children := by
    intro scope ledger
    rw [perform_renderAll, visitAll_filter _ hchildren, Option.bind_map, Option.map_eq_bind]
    rfl
  have himport : importOf "Tbody" = domImport "Tbody" := rfl
  rw [tableBody]
  by_cases hempty : (children.filter fun child => child.kind ≠ .tableHead).isEmpty = true
  · rw [if_pos hempty, if_pos hempty]
    change some (head, _) = some (head ++ "", _)
    rw [String.append_empty]
    rfl
  · rw [if_neg hempty, if_neg hempty, Elements.needing, ← himport, perform_importOf,
      Scope.after_after, Option.map_eq_bind]
    exact (hrows.wrap (.bare "Tbody" (by decide))) (fun body => output (head ++ body)) scope ledger

/-- A table: first its heads, then its other rows. -/
theorem gives_table : Gives resolver visit enter [] (Elements.table ⟨.table, children⟩)
    (Node.outline resolver read · ⟨.table, children⟩) := by
  have hinner : Gives resolver visit enter []
      (renderAll (children.filter fun child => child.kind = .tableHead) fun head =>
        if (children.filter fun child => child.kind ≠ .tableHead).isEmpty then output head
        else Elements.needing "Tbody" <| wrap "Tbody"
          (renderAll (children.filter fun child => child.kind ≠ .tableHead))
          fun body => output (head ++ body))
      fun here => (Node.outlineAll resolver read here (fun child => child.kind = .tableHead)
        children).andThen (tableBody children (Node.outlineAll resolver read here
          (fun child => child.kind ≠ .tableHead) children)) := by
    intro scope ledger
    simp only [Walk.andThen]
    -- the rows are rendered with what the heads have left in the ledger
    rw [perform_renderAll, visitAll_filter _ hchildren, Option.bind_map, Option.map_bind]
    congr 1
    funext first
    obtain ⟨heads, middle⟩ := first
    have hbody := perform_tableBody enter hchildren (scope.finish (heads, middle)).1
      (scope.after (Statement.namesAll heads) middle) middle
    rw [Scope.after_after, List.append_nil] at hbody
    refine hbody.trans ?_
    rw [Function.comp_apply, Scope.standpoint_after, Option.map_map]
    congr 1
    funext second
    obtain ⟨rows, last⟩ := second
    exact (scope.finish_append heads rows middle last).symm
  exact .needing (by decide) (hinner.wrap (.bare "Table" (by decide))).gives

/-- A paragraph, or the document that takes its place. -/
theorem gives_paragraph :
    Gives resolver visit enter [] (Elements.paragraph ⟨.paragraph, children⟩)
      (Node.outline resolver read · ⟨.paragraph, children⟩) := by
  have hbelow : ∀ here : Standpoint, here.below .paragraph = here := fun here => by
    rw [Standpoint.below, show (NodeKind.paragraph == NodeKind.tableHead) = false from rfl,
      Bool.or_false]
  have helement : Gives resolver visit enter [] (Elements.element "P" ⟨.paragraph, children⟩)
      fun here => (childOutlines resolver read ⟨.paragraph, children⟩ here).within
        (.bare "P" (by decide)) :=
    gives_element hchildren "P" (by decide) (by decide)
  rcases children with _ | ⟨child, _ | ⟨second, more⟩⟩
  · exact helement
  · intro scope ledger
    change (if Elements.isEmbed child then render child output
        else Elements.element "P" ⟨.paragraph, [child]⟩).perform resolver visit enter _ =
      ((if Elements.isEmbed child then childOutlines resolver read ⟨.paragraph, [child]⟩
          scope.standpoint
        else (childOutlines resolver read ⟨.paragraph, [child]⟩ scope.standpoint).within
          (.bare "P" (by decide))) ledger).map scope.finish
    by_cases hembed : Elements.isEmbed child = true
    · rw [if_pos hembed, if_pos hembed, perform, hchildren child (List.mem_singleton_self child),
        Scope.standpoint_after, Scope.ledger_after]
      change _ = ((Node.outlineAll resolver read (scope.standpoint.below .paragraph) _ [child])
        ledger).map scope.finish
      rw [hbelow, Node.outlineAll_cons, if_pos rfl]
      rw [Node.outlineAll_nil, Walk.andThen_give_nil]
      cases child.outline resolver read scope.standpoint ledger with
      | none => rfl
      | some result => rfl
    · rw [if_neg hembed, if_neg hembed]
      exact helement scope ledger
  · exact helement

end Children

/-! ### References -/

section References

variable {children : List Node} (destination title : String)

variable (resolver) in
theorem Context.resolve_eq (scope : Scope σ) (names : List String) (ledger : Ledger σ) :
    (scope.after names ledger).context.resolve resolver destination ledger.store =
      ((ledger.follow resolver scope.standpoint.sourcePath destination).1,
        (scope.after names
          (ledger.follow resolver scope.standpoint.sourcePath destination).2).context,
        (ledger.follow resolver scope.standpoint.sourcePath destination).2.store) := by
  rw [resolve, Ledger.follow, Resolver.follow, Scope.standpoint]
  cases markdownReference? destination.toList with
  | none => rfl
  | some target =>
    obtain ⟨path, fragment⟩ := target
    dsimp only [Scope.after]
    cases resolver.lookup (String.ofList (pathFromSource scope.context.sourcePath.toList path))
      ledger.store with
    | mk found store =>
      cases found with
      | none => rfl
      | some document => rfl

theorem perform_resolve (next : Reference → Rendering) (scope : Scope σ) (names : List String)
    (ledger : Ledger σ) :
    (resolve destination next).perform resolver visit enter (scope.after names ledger) =
      (next (ledger.follow resolver scope.standpoint.sourcePath destination).1).perform resolver
        visit enter (scope.after names
          (ledger.follow resolver scope.standpoint.sourcePath destination).2) := by
  have hresolve := Context.resolve_eq resolver destination scope names ledger
  rw [perform, show (scope.after names ledger).store = ledger.store from rfl, hresolve]
  rfl

theorem gives_link (hchildren : ∀ child ∈ children, Prints resolver visit read child) :
    Gives resolver visit enter [] (Elements.link ⟨.link destination title, children⟩)
      (Node.outline resolver read · ⟨.link destination title, children⟩) := by
  have himport : importOf "Link" = silkLink := rfl
  have hroute : ∀ target, Gives resolver visit enter []
      (addImport silkLink
        (block (Elements.callOn "Link" target) ⟨.link destination title, children⟩))
      fun here => (childOutlines resolver read ⟨.link destination title, children⟩ here).within
        (.route target) := fun target => by
    rw [← Call.route_code, ← himport]
    exact Gives.importOf (gives_block hchildren (.route target))
  have hanchor : Gives resolver visit enter []
      (Elements.needing "A"
        (block (Elements.anchorCall destination title) ⟨.link destination title, children⟩))
      fun here => (childOutlines resolver read ⟨.link destination title, children⟩ here).within
        (.anchor destination title) := by
    rw [← Call.anchor_code]
    exact .needing (by decide) (gives_block hchildren (.anchor destination title))
  intro scope ledger
  rw [Elements.link]
  dsimp only
  rw [perform_resolve, Node.outline_link]
  obtain ⟨reference, last⟩ := ledger.follow resolver scope.standpoint.sourcePath destination
  cases reference with
  | external => exact hanchor scope last
  | resolved document fragment => exact hroute _ scope last
  | unresolved => exact hanchor scope last

/-- Nothing of an embedded document stays: the scope after it is the one before it, but for what
is gathered and carried along. -/
theorem perform_embed (henter : ∀ tree scope,
      enter tree scope = (read scope.standpoint tree scope.ledger).map scope.finish)
    (document : ResolvedDocument) (next : Option String → Rendering) (scope : Scope σ)
    (ledger : Ledger σ) :
    (embed document next).perform resolver visit enter (scope.after [] ledger) =
      if scope.standpoint.includeStack.any (·.same document.path) then
        (next none).perform resolver visit enter (scope.after [] ledger)
      else (read (scope.standpoint.enter document) document.tree ledger).bind fun result =>
        (next (some (scope.finish result).1)).perform resolver visit enter
          (scope.finish result).2 := by
  rw [perform, henter]
  by_cases hstack : scope.standpoint.includeStack.any (·.same document.path) = true
  · rw [if_pos hstack]
    exact if_pos hstack
  · rw [if_neg hstack]
    refine (if_neg hstack).trans ?_
    change Option.bind (Option.map _ (read (scope.standpoint.enter document) document.tree ledger))
      _ = _
    rw [Option.bind_map]
    rfl

theorem gives_image (henter : ∀ tree scope,
      enter tree scope = (read scope.standpoint tree scope.ledger).map scope.finish) :
    Gives resolver visit enter [] (Elements.image ⟨.image destination title, children⟩)
      (Node.outline resolver read · ⟨.image destination title, children⟩) := by
  have hwritten : Gives resolver visit enter []
      (textCall (imageSource (Node.plainTextAll children) destination))
      fun _ => Walk.give [.text (imageSource (Node.plainTextAll children) destination)] :=
    (yields_text _).gives
  have hpicture : Gives resolver visit enter []
      (Elements.needing "Img"
        (line (Elements.imageCall destination (Node.plainTextAll children) title)))
      fun _ => Walk.give [.line (.picture destination (Node.plainTextAll children) title)] := by
    rw [← Call.picture_code]
    exact .needing (by decide) (yields_line _).gives
  intro scope ledger
  rw [Elements.image]
  dsimp only
  rw [perform_resolve, Node.outline_image]
  obtain ⟨reference, last⟩ := ledger.follow resolver scope.standpoint.sourcePath destination
  cases reference with
  | external => exact hpicture scope last
  | unresolved => exact hwritten scope last
  | resolved document fragment =>
    dsimp only
    rw [perform_embed henter]
    by_cases hstack : scope.standpoint.includeStack.any (·.same document.path) = true
    · rw [if_pos hstack, if_pos hstack]
      exact hwritten scope (last.warn _)
    · rw [if_neg hstack, if_neg hstack, Option.map_eq_bind]
      rfl

end References

/-! ### Nodes without contents -/

section Leaves

variable (children : List Node)

theorem gives_codeBlock (language : Option String) (literal : String) :
    Gives resolver visit enter [] (Elements.codeBlock ⟨.codeBlock language literal, children⟩)
      (Node.outline resolver read · ⟨.codeBlock language literal, children⟩) := by
  have hcode : Gives resolver visit enter [(Call.codeBlock language).name]
      (wrap (Call.codeBlock language).code (textCall literal)) fun _ =>
        Outline.within (.codeBlock language) (.give [.text literal]) :=
    ((yields_text literal).gives.wrap (.codeBlock language)).gives
  rw [Call.codeBlock_code, Call.codeBlock_name] at hcode
  exact .needing (by decide) (.needing (by decide) (hcode.wrap (.bare "Pre" (by decide))).gives)

theorem gives_rawHtml {value : NodeValue} {html : String}
    (hliteral : Node.literal? ⟨value, children⟩ = some html) (container : String)
    (h : IsElementName container) (hlink : container ≠ "Link") :
    Gives resolver visit enter [] (Elements.rawHtml container ⟨value, children⟩)
      fun _ => .give (rawHtmlStatements container html h) := by
  have hline : Gives resolver visit enter [container]
      (line (Call.rawHtml container (Text.trimmedEnd html) h).code) fun _ =>
        .give [.line (.rawHtml container (Text.trimmedEnd html) h)] :=
    (yields_line (.rawHtml container (Text.trimmedEnd html) h)).gives
  rw [Call.rawHtml, Call.withAttributes_code] at hline
  rw [Elements.rawHtml, hliteral, Option.getD_some, rawHtmlStatements]
  by_cases hblank : Text.isBlankText html = true
  · rw [if_pos hblank, if_pos hblank]
    exact gives_nil
  · rw [if_neg hblank, if_neg hblank]
    exact .needing hlink hline

theorem gives_taskListMarker (checked : Bool) :
    Gives resolver visit enter [] (Elements.taskListMarker ⟨.taskListMarker checked, children⟩)
      (Node.outline resolver read · ⟨.taskListMarker checked, children⟩) := by
  have hline : Gives resolver visit enter [(Call.checkBox checked).name]
      (line (Call.checkBox checked).code) fun _ => .give [.line (.checkBox checked)] :=
    (yields_line (.checkBox checked)).gives
  rw [Call.checkBox_code] at hline
  cases checked with
  | true => exact .needing (by decide) hline
  | false => exact .needing (by decide) hline

theorem gives_code (literal : String) :
    Gives resolver visit enter [] (Elements.code ⟨.code literal, children⟩)
      (Node.outline resolver read · ⟨.code literal, children⟩) :=
  .needing (by decide) ((yields_text literal).gives.wrap (.bare "Code" (by decide))).gives

theorem gives_math (display : Bool) (literal : String) :
    Gives resolver visit enter [] (Elements.math ⟨.math display literal, children⟩)
      (Node.outline resolver read · ⟨.math display literal, children⟩) := by
  have hmath : Gives resolver visit enter [(Call.math display).name]
      (wrap (Call.math display).code (textCall literal)) fun _ =>
        Outline.within (.math display) (.give [.text literal]) :=
    ((yields_text literal).gives.wrap (.math display)).gives
  cases display with
  | true =>
    rw [Call.math, Call.withAttributes_code] at hmath
    exact .needing (by decide) hmath
  | false =>
    rw [Call.math, Call.withAttributes_code] at hmath
    exact .needing (by decide) hmath

theorem gives_emptyElement (name : String) (h : IsElementName name) (hlink : name ≠ "Link")
    (node : Node) : Gives resolver visit enter [] (Elements.emptyElement name node)
      fun _ => .give [.line (.childless name h)] :=
  .needing hlink (yields_line (.childless name h)).gives

theorem gives_footnoteReference (label : String) : Gives resolver visit enter []
    (Elements.footnoteReference ⟨.footnoteReference label, children⟩)
    (Node.outline resolver read · ⟨.footnoteReference label, children⟩) := by
  have hanchor : Gives resolver visit enter ["A"]
      (wrap (Call.anchor ("#fn-" ++ label) "").code (textCall label)) fun _ =>
        Outline.within (.anchor ("#fn-" ++ label) "") (.give [.text label]) :=
    ((yields_text label).gives.wrap (.anchor ("#fn-" ++ label) "")).gives
  rw [Call.anchor_code] at hanchor
  exact .needing (by decide) (.needing (by decide) (hanchor.wrap (.bare "Sup" (by decide))).gives)

end Leaves

/-! ### The whole table -/

/-- **Handlers.** Every handler prints the statements of its node, if the children of the node and
the embedded documents are rendered by printing theirs. -/
theorem elementHandler_gives (node : Node)
    (hchildren : ∀ child ∈ node.children, Prints resolver visit read child)
    (henter : ∀ tree scope,
      enter tree scope = (read scope.standpoint tree scope.ledger).map scope.finish) :
    Gives resolver visit enter [] (HandlerTable.elementHandler node.kind node)
      (Node.outline resolver read · node) := by
  obtain ⟨value, children⟩ := node
  cases value with
  | document => exact gives_children hchildren
  | frontMatter => exact gives_nil
  | paragraph => exact gives_paragraph hchildren
  | heading level id => exact gives_heading hchildren level id
  | blockQuote => exact gives_element hchildren "Blockquote" (by decide) (by decide)
  | codeBlock language literal => exact gives_codeBlock children language literal
  | htmlBlock literal => exact gives_rawHtml children rfl "Div" (by decide) (by decide)
  | list start => exact gives_list hchildren start
  | item => exact gives_element hchildren "Li" (by decide) (by decide)
  | taskListMarker checked => exact gives_taskListMarker children checked
  | table => exact gives_table hchildren
  | tableHead => exact gives_tableHead hchildren
  | tableRow => exact gives_element hchildren "Tr" (by decide) (by decide)
  | tableCell => exact gives_tableCell hchildren
  | emphasis => exact gives_element hchildren "Em" (by decide) (by decide)
  | strong => exact gives_element hchildren "B" (by decide) (by decide)
  | strikethrough => exact gives_element hchildren "S" (by decide) (by decide)
  | superscript => exact gives_element hchildren "Sup" (by decide) (by decide)
  | subscript => exact gives_element hchildren "Sub" (by decide) (by decide)
  | link destination title => exact gives_link destination title hchildren
  | image destination title => exact gives_image destination title henter
  | text literal => exact (yields_text literal).gives
  | code literal => exact gives_code children literal
  | html literal => exact gives_rawHtml children rfl "Span" (by decide) (by decide)
  | math display literal => exact gives_math children display literal
  | softBreak => exact (yields_text " ").gives
  | hardBreak => exact gives_emptyElement "Br" (by decide) (by decide) ⟨.hardBreak, children⟩
  | rule => exact gives_emptyElement "Hr" (by decide) (by decide) ⟨.rule, children⟩
  | footnoteDefinition label => exact gives_footnoteDefinition hchildren label
  | footnoteReference label => exact gives_footnoteReference children label
  | definitionList => exact gives_element hchildren "Dl" (by decide) (by decide)
  | definitionListTitle => exact gives_element hchildren "Dt" (by decide) (by decide)
  | definitionListDefinition => exact gives_element hchildren "Dd" (by decide) (by decide)

theorem Node.height_lt {node child : Node} (h : child ∈ node.children) :
    child.height < node.height := by
  obtain ⟨value, children⟩ := node
  have hall : ∀ nodes : List Node, child ∈ nodes → child.height ≤ heightAll nodes := by
    intro nodes hmem
    induction nodes with
    | nil => cases hmem
    | cons first rest ih =>
      rw [heightAll]
      cases hmem with
      | head => exact Nat.le_max_left _ _
      | tail _ hrest => exact Nat.le_trans (ih hrest) (Nat.le_max_right _ _)
  rw [height]
  exact Nat.lt_succ_of_le (hall children h)

/-- A node is rendered by printing its statements, if there are levels enough for its height. -/
theorem visit_elements (henter : ∀ tree scope,
      enter tree scope = (read scope.standpoint tree scope.ledger).map scope.finish)
    {levels : Nat} {node : Node} (h : node.height ≤ levels) :
    Prints resolver (HandlerTable.elements.visit resolver enter levels) read node := by
  induction levels generalizing node with
  | zero =>
    obtain ⟨value, children⟩ := node
    rw [Node.height] at h
    exact absurd h (Nat.not_succ_le_zero _)
  | succ levels ih =>
    have hchildren : ∀ child ∈ node.children,
        Prints resolver (HandlerTable.elements.visit resolver enter levels) read child :=
      fun child hchild => ih (Nat.le_of_lt_succ (Nat.lt_of_lt_of_le (Node.height_lt hchild) h))
    intro scope
    exact (elementHandler_gives node hchildren henter).perform_eq scope

/-- The contents of an embedded document are rendered by printing their statements. -/
theorem enter_elements (embeds : Nat) (tree : Node) (scope : Scope σ) :
    HandlerTable.elements.enter resolver Node.height embeds tree scope =
      (contents resolver embeds scope.standpoint tree scope.ledger).map scope.finish := by
  induction embeds generalizing tree scope with
  | zero => rfl
  | succ embeds ih =>
    exact visitChildren_eq
      (fun child hchild => visit_elements ih (Nat.le_of_lt (Node.height_lt hchild))) scope

/-- **Documents.** A tree is rendered by printing its statements. -/
theorem renderWithin_elements (embeds : Nat) (tree : Node) (scope : Scope σ) :
    HandlerTable.elements.renderWithin resolver Node.height embeds tree scope =
      (tree.outline resolver (contents resolver embeds) scope.standpoint scope.ledger).map
        scope.finish :=
  visit_elements (enter_elements embeds) (Nat.le_refl _) scope

end MarkdownPages
