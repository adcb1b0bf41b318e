import Mathlib.Data.List.Chain
import Mathlib.Data.List.TakeWhile
import MarkdownPages.Document.Builder
import MarkdownPages.Document.FrontMatter

/-!
# Trees as sequences of events

A tree is told by events in document order: a node with contents by its start and its end around
them, any other node by one event. Text may arrive in pieces, cut anywhere, and so may the contents
of a code block, of an HTML block and of front matter.

Events do not tell where one text node ends and the next begins, so no two texts may stand side by
side in a tree that is to be built from its events.

## Main definitions

* `Node.Throughout` — a property of a node and of everything below it
* `Node.Separated`, `Node.Proper` — the nodes of trees that events can tell
* `Flattening` — the sequences of events that tell a list of nodes

## Main results

* `exists_flattening` — proper nodes below a document can be told
-/

namespace MarkdownPages

variable (read : String → Except DocumentError FrontMatter)

/-! ### Proper trees -/

/-- Whether the contents of nodes of a kind are data and not nodes. -/
def NodeKind.isLeaf : NodeKind → Bool
  | frontMatter | codeBlock | htmlBlock | text | code | html | math | softBreak | hardBreak | rule
  | footnoteReference | taskListMarker => true
  | _ => false

namespace Node

/-- A property of a node and of everything below it. -/
inductive Throughout (p : Node → Prop) : Node → Prop
  | intro {node : Node} (h : p node) (hchildren : ∀ child ∈ node.children, child.Throughout p) :
      Throughout p node

theorem Throughout.self {p : Node → Prop} {node : Node} (h : node.Throughout p) : p node := by
  cases h with
  | intro h hchildren => exact h

theorem Throughout.children {p : Node → Prop} {node : Node} (h : node.Throughout p) :
    ∀ child ∈ node.children, child.Throughout p := by
  cases h with
  | intro h hchildren => exact hchildren

theorem Throughout.imp {p q : Node → Prop} (hpq : ∀ node, p node → q node) {node : Node}
    (h : node.Throughout p) : node.Throughout q := by
  induction h with
  | intro h hchildren ih => exact .intro (hpq _ h) ih

/-- Not both are texts. -/
def Apart (first second : Node) : Prop := ¬ (first.kind = .text ∧ second.kind = .text)

/-- No two texts stand side by side among the children. -/
def Separated (node : Node) : Prop := node.children.IsChain Apart

/-- A node that a document may hold, given how front matter is read. -/
structure Proper (node : Node) : Prop where
  leaf : node.kind.isLeaf = true → node.children = []
  separated : node.Separated
  heading : ∀ level id, node.value = .heading level id → 1 ≤ level ∧ level ≤ 6
  /-- The language of a code block is a word. -/
  language : ∀ word literal, node.value = .codeBlock (some word) literal →
    word ≠ "" ∧ ∀ c ∈ word.toList, Text.isBlank c = false
  frontMatter : ∀ m, node.value = .frontMatter m → ∃ yaml, read yaml = .ok m

end Node

/-! ### Flattening -/

/-- The value of the node that is told by one event. -/
def Event.leaf? : Event → Option NodeValue
  | html literal | inlineHtml literal => some (.html literal)
  | code literal => some (.code literal)
  | math display literal => some (.math display literal)
  | footnoteReference label => some (.footnoteReference label)
  | softBreak => some .softBreak
  | hardBreak => some .hardBreak
  | rule => some .rule
  | taskListMarker checked => some (.taskListMarker checked)
  | start _ | finish _ | text _ => none

/-- The tags of constructs whose contents are nodes. There are six levels of headings. -/
def Tag.IsContainer : Tag → Prop
  | codeBlock _ | htmlBlock | metadata => False
  | heading level _ => 1 ≤ level ∧ level ≤ 6
  | _ => True

/-- The events that tell nodes in order, given how front matter is read. -/
inductive Flattening : List Node → List Event → Prop
  | nil : Flattening [] []
  | text (pieces : List String) {rest : List Node} {events : List Event} (hpieces : pieces ≠ [])
      (h : Flattening rest events) :
      Flattening (.leaf (.text (String.join pieces)) :: rest) (pieces.map .text ++ events)
  | leaf (event : Event) {value : NodeValue} {rest : List Node} {events : List Event}
      (hvalue : event.leaf? = some value) (h : Flattening rest events) :
      Flattening (.leaf value :: rest) (event :: events)
  | codeBlock {tag : Tag} {language : Option String} (pieces : List String) {rest : List Node}
      {events : List Event} (htag : tag.value = .codeBlock language "")
      (h : Flattening rest events) :
      Flattening (.leaf (.codeBlock language (String.join pieces)) :: rest)
        (.start tag :: pieces.map .text ++ .finish tag :: events)
  | htmlBlock (pieces : List String) {rest : List Node} {events : List Event}
      (h : Flattening rest events) :
      Flattening (.leaf (.htmlBlock (String.join pieces)) :: rest)
        (.start .htmlBlock :: pieces.map .html ++ .finish .htmlBlock :: events)
  | frontMatter (pieces : List String) {m : FrontMatter} {rest : List Node} {events : List Event}
      (hread : read (String.join pieces) = .ok m) (h : Flattening rest events) :
      Flattening (.leaf (.frontMatter m) :: rest)
        (.start .metadata :: pieces.map .text ++ .finish .metadata :: events)
  | block {tag : Tag} {children : List Node} {inside : List Event} {rest : List Node}
      {events : List Event} (htag : tag.IsContainer) (hinside : Flattening children inside)
      (h : Flattening rest events) :
      Flattening (⟨tag.value, children⟩ :: rest)
        (.start tag :: inside ++ .finish tag :: events)

/-! ### What can be told -/

variable {read}

theorem join_singleton (s : String) : String.join [s] = s := by
  rw [String.join_cons, String.join_nil, String.append_empty]

theorem firstWord_of_forall {word : List Char} (hne : word ≠ [])
    (h : ∀ c ∈ word, Text.isBlank c = false) : Text.firstWord word = some word := by
  have hstart : Text.trimStart word = word := by
    cases word with
    | nil => rfl
    | cons c rest => exact List.dropWhile_cons_of_neg (by simp [h c (List.mem_cons_self ..)])
  have hword : word.takeWhile (fun c => !Text.isBlank c) = word :=
    List.takeWhile_eq_self_iff.mpr fun c hc => by simp [h c hc]
  rw [Text.firstWord, hstart, hword]
  cases word with
  | nil => exact absurd rfl hne
  | cons c rest => rfl

theorem exists_codeBlock_tag (language : Option String) (h : ∀ word, language = some word →
      word ≠ "" ∧ ∀ c ∈ word.toList, Text.isBlank c = false) :
    ∃ tag : Tag, tag.value = .codeBlock language "" := by
  refine ⟨.codeBlock language, ?_⟩
  cases language with
  | none => rfl
  | some word =>
    obtain ⟨hne, hblank⟩ := h word rfl
    have hword := firstWord_of_forall (mt String.toList_eq_nil_iff.mp hne) hblank
    rw [Tag.value, Option.bind_some, hword, Option.map_some, String.ofList_toList]

theorem exists_container_tag {node : Node} (hproper : node.Proper read)
    (hleaf : node.kind.isLeaf = false) (hdocument : node.value ≠ .document) :
    ∃ tag : Tag, tag.IsContainer ∧ tag.value = node.value := by
  obtain ⟨value, children⟩ := node
  cases value with
  | document => exact absurd rfl hdocument
  | paragraph => exact ⟨.paragraph, trivial, rfl⟩
  | heading level id => exact ⟨.heading level id, hproper.heading level id rfl, rfl⟩
  | blockQuote => exact ⟨.blockQuote, trivial, rfl⟩
  | list start => exact ⟨.list start, trivial, rfl⟩
  | item => exact ⟨.item, trivial, rfl⟩
  | table => exact ⟨.table, trivial, rfl⟩
  | tableHead => exact ⟨.tableHead, trivial, rfl⟩
  | tableRow => exact ⟨.tableRow, trivial, rfl⟩
  | tableCell => exact ⟨.tableCell, trivial, rfl⟩
  | emphasis => exact ⟨.emphasis, trivial, rfl⟩
  | strong => exact ⟨.strong, trivial, rfl⟩
  | strikethrough => exact ⟨.strikethrough, trivial, rfl⟩
  | superscript => exact ⟨.superscript, trivial, rfl⟩
  | subscript => exact ⟨.subscript, trivial, rfl⟩
  | link destination title => exact ⟨.link destination title, trivial, rfl⟩
  | image destination title => exact ⟨.image destination title, trivial, rfl⟩
  | footnoteDefinition label => exact ⟨.footnoteDefinition label, trivial, rfl⟩
  | definitionList => exact ⟨.definitionList, trivial, rfl⟩
  | definitionListTitle => exact ⟨.definitionListTitle, trivial, rfl⟩
  | definitionListDefinition => exact ⟨.definitionListDefinition, trivial, rfl⟩
  | frontMatter _ | codeBlock _ _ | htmlBlock _ | text _ | code _ | html _ | math _ _ | softBreak
  | hardBreak | rule | footnoteReference _ | taskListMarker _ => cases hleaf

theorem exists_flattening_leaf {node : Node} (hproper : node.Proper read)
    (hleaf : node.kind.isLeaf = true) {rest : List Node} {events : List Event}
    (hrest : Flattening read rest events) : ∃ events, Flattening read (node :: rest) events := by
  have hchildren := hproper.leaf hleaf
  obtain ⟨value, children⟩ := node
  obtain rfl : children = [] := hchildren
  cases value with
  | text literal =>
    rw [← join_singleton literal]
    exact ⟨_, .text [literal] (List.cons_ne_nil literal []) hrest⟩
  | code literal => exact ⟨_, .leaf (.code literal) rfl hrest⟩
  | html literal => exact ⟨_, .leaf (.inlineHtml literal) rfl hrest⟩
  | math display literal => exact ⟨_, .leaf (.math display literal) rfl hrest⟩
  | softBreak => exact ⟨_, .leaf .softBreak rfl hrest⟩
  | hardBreak => exact ⟨_, .leaf .hardBreak rfl hrest⟩
  | rule => exact ⟨_, .leaf .rule rfl hrest⟩
  | footnoteReference label => exact ⟨_, .leaf (.footnoteReference label) rfl hrest⟩
  | taskListMarker checked => exact ⟨_, .leaf (.taskListMarker checked) rfl hrest⟩
  | codeBlock language literal =>
    obtain ⟨tag, htag⟩ := exists_codeBlock_tag language fun word hword =>
      hproper.language word literal (hword ▸ rfl)
    rw [← join_singleton literal]
    exact ⟨_, .codeBlock [literal] htag hrest⟩
  | htmlBlock literal =>
    rw [← join_singleton literal]
    exact ⟨_, .htmlBlock [literal] hrest⟩
  | frontMatter m =>
    obtain ⟨yaml, hyaml⟩ := hproper.frontMatter m rfl
    exact ⟨_, .frontMatter [yaml] (by rwa [join_singleton]) hrest⟩
  | document | paragraph | heading _ _ | blockQuote | list _ | item | table | tableHead | tableRow
  | tableCell | emphasis | strong | strikethrough | superscript | subscript | link _ _ | image _ _
  | footnoteDefinition _ | definitionList | definitionListTitle | definitionListDefinition =>
    cases hleaf

/-- One more node in front can be told. -/
theorem exists_flattening_cons {node : Node}
    (h : node.Throughout fun node => node.Proper read ∧ node.value ≠ .document) {rest : List Node}
    {events : List Event} (hrest : Flattening read rest events) :
    ∃ events, Flattening read (node :: rest) events := by
  induction h generalizing rest events with
  | @intro node h hchildren ih =>
    obtain ⟨hproper, hdocument⟩ := h
    cases hleaf : node.kind.isLeaf with
    | true => exact exists_flattening_leaf hproper hleaf hrest
    | false =>
      obtain ⟨tag, htag, hvalue⟩ := exists_container_tag hproper hleaf hdocument
      have hforest : ∀ nodes ⊆ node.children, ∃ inside, Flattening read nodes inside := by
        intro nodes hnodes
        induction nodes with
        | nil => exact ⟨[], .nil⟩
        | cons child others ihothers =>
          obtain ⟨hchild, hothers⟩ := List.cons_subset.mp hnodes
          obtain ⟨inside, hinside⟩ := ihothers hothers
          exact ih child hchild hinside
      obtain ⟨inside, hinside⟩ := hforest node.children (List.Subset.refl _)
      obtain ⟨value, children⟩ := node
      obtain rfl : tag.value = value := hvalue
      exact ⟨_, .block htag hinside hrest⟩

/-- **Proper nodes can be told.** No event tells a document inside a document. -/
theorem exists_flattening {nodes : List Node}
    (h : ∀ node ∈ nodes, node.Throughout fun node => node.Proper read ∧ node.value ≠ .document) :
    ∃ events, Flattening read nodes events := by
  induction nodes with
  | nil => exact ⟨[], .nil⟩
  | cons node rest ih =>
    obtain ⟨hnode, hrest⟩ := List.forall_mem_cons.mp h
    obtain ⟨events, hevents⟩ := ih hrest
    exact exists_flattening_cons hnode hevents

end MarkdownPages
