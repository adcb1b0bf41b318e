import MarkdownPages.Proofs.Render.Statement

/-!
# The statements that a document gives

A node gives statements. Which ones depends on little: the document that is being read, the chain
of documents around it, and whether some node around is a table head. What is carried along from
node to node is little too: the heading ids in use, the warnings, and what the resolver remembers.
Neither the level of indentation nor the imports matter, and nothing that stands around a document
has to be restored after it, because nothing of it is carried along.

## Main definitions

* `Standpoint`, `Ledger` — what statements depend on, and what is carried along
* `Walk`, `Outline` — what is found, and what is carried along after it
* `Node.outline`, `Node.outlineAll` — the statements of a node and of several nodes
* `contents` — the statements of an embedded document

## Implementation notes

`Node.outlineAll` passes over the nodes that it is not asked for instead of getting a filtered list,
so that the recursion stays on the tree where a table takes its heads before its other rows.
-/

namespace MarkdownPages

variable {σ : Type}

/-! ### What statements depend on -/

/-- Where a node stands. -/
structure Standpoint where
  /-- The path below its root of the document that is being read. -/
  sourcePath : String
  /-- The paths of the documents that are being read, innermost first. -/
  includeStack : List Path
  /-- Whether some node around is a table head. -/
  inTableHead : Bool

namespace Standpoint

/-- Where the children of a node of the given kind stand. -/
def below (here : Standpoint) (kind : NodeKind) : Standpoint :=
  { here with inTableHead := here.inTableHead || kind == .tableHead }

/-- Where an embedded document stands. -/
def enter (here : Standpoint) (document : ResolvedDocument) : Standpoint where
  sourcePath := document.relativePath
  includeStack := document.path :: here.includeStack
  inTableHead := false

end Standpoint

/-- What is carried along from node to node. -/
structure Ledger (σ : Type) where
  /-- How often each heading slug has been used. -/
  headingCounts : List (String × Nat)
  /-- The warnings so far, in order. -/
  warnings : List String
  /-- What the resolver remembers. -/
  store : σ

/-- What a destination leads to, seen from the document at `sourcePath`. -/
def Resolver.follow (resolver : Resolver σ) (sourcePath destination : String) (store : σ) :
    Reference × σ :=
  match markdownReference? destination.toList with
  | none => (.external, store)
  | some (path, fragment) =>
    match resolver.lookup (String.ofList (pathFromSource sourcePath.toList path)) store with
    | (some document, store) => (.resolved document (fragment.map String.ofList), store)
    | (none, store) => (.unresolved, store)

namespace Ledger

/-- The ledger with one more warning. -/
def warn (ledger : Ledger σ) (message : String) : Ledger σ :=
  { ledger with warnings := ledger.warnings ++ [message] }

/-- The id of a heading: its own, or else one made from its text. -/
def headingId (ledger : Ledger σ) (text : String) : Option String → String × Ledger σ
  | some id => (id, ledger)
  | none =>
    let base := Site.slug text
    let count := (Ascending.get? base ledger.headingCounts).getD 0
    (if count = 0 then base else base ++ "-" ++ toString count,
      { ledger with headingCounts := Ascending.put base (count + 1) ledger.headingCounts })

/-- What a destination leads to. A document that is not found is warned about. -/
def follow (ledger : Ledger σ) (resolver : Resolver σ) (sourcePath destination : String) :
    Reference × Ledger σ :=
  match resolver.follow sourcePath destination ledger.store with
  | (.unresolved, store) =>
    (.unresolved, { ledger with store := store }.warn
      ("Unresolved markdown reference '" ++ destination ++ "' in " ++ sourcePath))
  | (reference, store) => (reference, { ledger with store := store })

end Ledger

/-! ### Walks -/

/-- What is found on a walk that carries something along, unless a bound is met. -/
abbrev Walk (S α : Type) := S → Option (List α × S)

namespace Walk

variable {S α : Type}

/-- The given finds. -/
def give (found : List α) : Walk S α := fun s => some (found, s)

/-- One walk after the other. -/
def andThen (first second : Walk S α) : Walk S α := fun s =>
  (first s).bind fun (found, s) => (second s).map fun (more, s) => (found ++ more, s)

theorem andThen_give_nil (walk : Walk S α) : walk.andThen (give []) = walk := by
  funext s
  simp only [andThen, give, Option.map_some, List.append_nil]
  exact Option.bind_fun_some (walk s)

end Walk

/-! ### Outlines -/

/-- Statements, and what is carried along after them, unless a bound is met. -/
abbrev Outline (σ : Type) := Walk (Ledger σ) Statement

/-- The statements of an outline inside a call. -/
def Outline.within (call : Call) (outline : Outline σ) : Outline σ := fun ledger =>
  (outline ledger).map fun (ss, ledger) => ([.block call ss], ledger)

/-- Whether nodes are a single image that stands for another document. -/
def isLoneEmbed : List Node → Bool
  | [child] => Elements.isEmbed child
  | _ => false

/-- How an image that stands for another document was written. -/
def imageSource (alternative destination : String) : String :=
  "![" ++ alternative ++ "](" ++ destination ++ ")"

/-- The statements of raw HTML. -/
def rawHtmlStatements (container html : String) (h : IsElementName container := by decide) :
    List Statement :=
  if Text.isBlankText html then [] else [.line (.rawHtml container (Text.trimmedEnd html) h)]

/-- The body of a table, unless it has no rows. -/
def tableBody (children : List Node) (rows : Outline σ) : Outline σ :=
  if (children.filter fun child => child.kind ≠ .tableHead).isEmpty then .give []
  else rows.within (.bare "Tbody")

namespace Node

open Walk Outline

variable (resolver : Resolver σ) (enter : Standpoint → Node → Outline σ)

mutual

/-- The statements of a node. -/
def outline (here : Standpoint) : Node → Outline σ
  | ⟨value, children⟩ =>
    let inner : Outline σ := outlineAll (here.below value.kind) (fun _ => true) children
    match value with
    | .document => inner
    | .frontMatter _ => give []
    | .paragraph => if isLoneEmbed children then inner else inner.within (.bare "P")
    | .heading level id => fun ledger =>
      let (id, ledger) := ledger.headingId (plainTextAll children) id
      inner.within (.heading level id) ledger
    | .blockQuote => inner.within (.bare "Blockquote")
    | .codeBlock language literal =>
      give [.block (.bare "Pre") [.block (.codeBlock language) [.text literal]]]
    | .htmlBlock literal => give (rawHtmlStatements "Div" literal)
    | .list start => inner.within (.list start)
    | .item => inner.within (.bare "Li")
    | .taskListMarker checked => give [.line (.checkBox checked)]
    | .table =>
      let heads : Outline σ := outlineAll here (fun child => child.kind = .tableHead) children
      let rows : Outline σ := outlineAll here (fun child => child.kind ≠ .tableHead) children
      let rendered : Outline σ := heads.andThen (tableBody children rows)
      rendered.within (.bare "Table")
    | .tableHead => (inner.within (.bare "Tr")).within (.bare "Thead")
    | .tableRow => inner.within (.bare "Tr")
    | .tableCell => inner.within (if here.inTableHead then .bare "Th" else .bare "Td")
    | .emphasis => inner.within (.bare "Em")
    | .strong => inner.within (.bare "B")
    | .strikethrough => inner.within (.bare "S")
    | .superscript => inner.within (.bare "Sup")
    | .subscript => inner.within (.bare "Sub")
    | .link destination title => fun ledger =>
      match ledger.follow resolver here.sourcePath destination with
      | (.resolved document fragment, ledger) =>
        inner.within (.route (Site.route document.relativePath ++ fragment.getD "")) ledger
      | (_, ledger) => inner.within (.anchor destination title) ledger
    | .image destination title => fun ledger =>
      match ledger.follow resolver here.sourcePath destination with
      | (.resolved document _, ledger) =>
        if here.includeStack.any (·.same document.path) then
          some ([.text (imageSource (plainTextAll children) destination)],
            ledger.warn (Elements.cycleMessage destination here.sourcePath))
        else enter (here.enter document) document.tree ledger
      | (.unresolved, ledger) =>
        give [.text (imageSource (plainTextAll children) destination)] ledger
      | (.external, ledger) =>
        give [.line (.picture destination (plainTextAll children) title)] ledger
    | .text literal => give [.text literal]
    | .code literal => give [.block (.bare "Code") [.text literal]]
    | .html literal => give (rawHtmlStatements "Span" literal)
    | .math display literal => give [.block (.math display) [.text literal]]
    | .softBreak => give [.text " "]
    | .hardBreak => give [.line (.childless "Br")]
    | .rule => give [.line (.childless "Hr")]
    | .footnoteDefinition label => inner.within (.footnote label)
    | .footnoteReference label =>
      give [.block (.bare "Sup") [.block (.anchor ("#fn-" ++ label) "") [.text label]]]
    | .definitionList => inner.within (.bare "Dl")
    | .definitionListTitle => inner.within (.bare "Dt")
    | .definitionListDefinition => inner.within (.bare "Dd")

/-- The statements of those nodes that are asked for. -/
def outlineAll (here : Standpoint) (keep : Node → Bool) : List Node → Outline σ
  | [] => give []
  | node :: rest =>
    if keep node then (outline here node).andThen (outlineAll here keep rest)
    else outlineAll here keep rest

end

variable (here : Standpoint)

@[simp] theorem outlineAll_nil (keep : Node → Bool) :
    outlineAll resolver enter here keep [] = give [] := rfl

theorem outlineAll_cons (keep : Node → Bool) (node : Node) (rest : List Node) :
    outlineAll resolver enter here keep (node :: rest) =
      if keep node then
        (outline resolver enter here node).andThen (outlineAll resolver enter here keep rest)
      else outlineAll resolver enter here keep rest := rfl

end Node

/-- The statements of the children of a node. -/
def childOutlines (resolver : Resolver σ) (read : Standpoint → Node → Outline σ) (node : Node)
    (here : Standpoint) : Outline σ :=
  Node.outlineAll resolver read (here.below node.kind) (fun _ => true) node.children

namespace Node

variable {resolver : Resolver σ} {read : Standpoint → Node → Outline σ} {children : List Node}

theorem outline_paragraph (here : Standpoint) :
    outline resolver read here ⟨.paragraph, children⟩ =
      if isLoneEmbed children then childOutlines resolver read ⟨.paragraph, children⟩ here
      else (childOutlines resolver read ⟨.paragraph, children⟩ here).within (.bare "P") := rfl

/-- What holds of the statements of its children, by themselves and inside a call, holds of those
of a paragraph. -/
theorem outline_paragraph_induction {motive : Outline σ → Prop} {here : Standpoint}
    (hinner : motive (childOutlines resolver read ⟨.paragraph, children⟩ here))
    (hwithin : ∀ call,
      motive ((childOutlines resolver read ⟨.paragraph, children⟩ here).within call)) :
    motive (outline resolver read here ⟨.paragraph, children⟩) := by
  rw [outline_paragraph]
  by_cases hembed : isLoneEmbed children = true
  · rwa [if_pos hembed]
  · rw [if_neg hembed]
    exact hwithin _

theorem outline_heading (here : Standpoint) (level : Nat) (own : Option String)
    (ledger : Ledger σ) : outline resolver read here ⟨.heading level own, children⟩ ledger =
      (childOutlines resolver read ⟨.heading level own, children⟩ here).within
        (.heading level (ledger.headingId (plainTextAll children) own).1)
        (ledger.headingId (plainTextAll children) own).2 := rfl

theorem outline_link (destination title : String) (here : Standpoint) (ledger : Ledger σ) :
    outline resolver read here ⟨.link destination title, children⟩ ledger =
      match ledger.follow resolver here.sourcePath destination with
      | (.resolved document fragment, ledger) =>
        (childOutlines resolver read ⟨.link destination title, children⟩ here).within
          (.route (Site.route document.relativePath ++ fragment.getD "")) ledger
      | (_, ledger) =>
        (childOutlines resolver read ⟨.link destination title, children⟩ here).within
          (.anchor destination title) ledger := rfl

theorem outline_image (destination title : String) (here : Standpoint) (ledger : Ledger σ) :
    outline resolver read here ⟨.image destination title, children⟩ ledger =
      match ledger.follow resolver here.sourcePath destination with
      | (.resolved document _, ledger) =>
        if here.includeStack.any (·.same document.path) then
          some ([.text (imageSource (plainTextAll children) destination)],
            ledger.warn (Elements.cycleMessage destination here.sourcePath))
        else read (here.enter document) document.tree ledger
      | (.unresolved, ledger) =>
        Walk.give [.text (imageSource (plainTextAll children) destination)] ledger
      | (.external, ledger) =>
        Walk.give [.line (.picture destination (plainTextAll children) title)] ledger := rfl

end Node

/-- The statements of an embedded document, with documents at most `embeds` deep inside one
another. -/
def contents (resolver : Resolver σ) : Nat → Standpoint → Node → Outline σ
  | 0 => fun _ _ _ => none
  | embeds + 1 => fun here tree => childOutlines resolver (contents resolver embeds) tree here

end MarkdownPages
