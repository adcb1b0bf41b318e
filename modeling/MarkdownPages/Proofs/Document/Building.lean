import MarkdownPages.Proofs.Document.Flattening
import MarkdownPages.Proofs.Sequences

/-!
# Trees from events

The builder turns the events that tell a tree into that tree, however the texts are cut into
pieces. What a run of events between a start and its end does is to add one node to the node that
was open before, so the proof goes along the nodes of the tree.

Where every start has an end, the builder is left with the open nodes that it had. So it cannot
fail for starts and ends that do not match, and only reading front matter can fail at all. And as a
text joins the text before it, no two texts come to stand side by side.

## Main definitions

* `Builder.Ready` — where nodes may be added one after another
* `WellNested` — every start has an end
* `OpenNode.Tidy`, `Builder.Tidy` — no two texts stand side by side

## Main results

* `Builder.run_of_flattening` — the events of nodes add these nodes
* `Builder.keeps_run` — what is open stays open, unless front matter is refused
* `Builder.Tidy.event`, `Builder.Tidy.run` — no text is put beside a text
* `Builder.ofEvents_inverts_flattening` — the tree of the events that tell a tree
-/

namespace MarkdownPages

variable {read : String → Except DocumentError FrontMatter}

namespace OpenNode

theorem close_reverse (value : NodeValue) (children : List Node) :
    (OpenNode.mk value (children.reverse ++ [])).close = ⟨value, children⟩ := by
  rw [List.append_nil, close, List.reverse_reverse]

/-- Text that arrives makes a text node. -/
def HoldsNodes (o : OpenNode) : Prop := o.value.kind ≠ .codeBlock ∧ o.value.kind ≠ .htmlBlock

theorem addHtml_of_holdsNodes {o : OpenNode} (h : o.HoldsNodes) (html : String) :
    o.addHtml html = o.push (.leaf (.html html)) := by
  obtain ⟨value, reversed⟩ := o
  cases value with
  | htmlBlock literal => exact absurd rfl h.2
  | _ => rfl

/-- A text that is not behind a text is a new one. -/
theorem addText_first {o : OpenNode} (h : o.HoldsNodes)
    (hlast : ∀ last ∈ o.reversed.head?, last.kind ≠ .text) (text : String) :
    o.addText text = o.push (.leaf (.text text)) := by
  rw [addText]
  split
  · rename_i hvalue
    exact absurd (congrArg NodeValue.kind hvalue) h.1
  · rename_i hvalue
    exact absurd (congrArg NodeValue.kind hvalue) h.2
  · split
    · rename_i hreversed
      exact absurd rfl (hlast _ (by rw [hreversed]; rfl))
    · rfl

/-- A text behind a text joins it. -/
theorem addText_more {o : OpenNode} (h : o.HoldsNodes) (previous text : String) :
    (o.push (.leaf (.text previous))).addText text = o.push (.leaf (.text (previous ++ text))) := by
  obtain ⟨value, reversed⟩ := o
  cases value with
  | codeBlock language literal => exact absurd rfl h.1
  | htmlBlock literal => exact absurd rfl h.2
  | _ => rfl

end OpenNode

theorem Tag.IsContainer.holdsNodes {tag : Tag} (h : tag.IsContainer) :
    OpenNode.HoldsNodes { value := tag.value } := by
  cases tag with
  | codeBlock info => exact h.elim
  | htmlBlock => exact h.elim
  | metadata => exact h.elim
  | _ => exact ⟨nofun, nofun⟩

namespace Builder

/-! ### Runs -/

theorem run_cons {b b' : Builder} {event : Event} (h : b.event read event = .ok b')
    (events : List Event) : b.run read (event :: events) = b'.run read events := by
  rw [run, List.foldlM_cons, h]
  rfl

theorem run_append {b b' : Builder} {first : List Event} (h : b.run read first = .ok b')
    (second : List Event) : b.run read (first ++ second) = b'.run read second := by
  rw [run, List.foldlM_append, ← run, h]
  rfl

/-- What every piece is added to holds all of them in the end. -/
theorem run_pieces {event : String → Event} (state : String → Builder)
    (hstep : ∀ collected piece,
      (state collected).event read (event piece) = .ok (state (collected ++ piece)))
    (collected : String) (pieces : List String) :
    (state collected).run read (pieces.map event) =
      .ok (state (collected ++ String.join pieces)) := by
  induction pieces generalizing collected with
  | nil =>
    rw [String.join_nil, String.append_empty]
    rfl
  | cons piece rest ih =>
    rw [List.map_cons, run_cons (hstep collected piece), ih, String.join_cons, String.append_assoc]

/-- The builder inside a new open node. -/
def within (b : Builder) (o : OpenNode) : Builder :=
  { top := o, outer := b.top :: b.outer, metadata := b.metadata }

/-- The builder with more children for the innermost open node. -/
def pushAll (b : Builder) (nodes : List Node) : Builder :=
  { b with top := { b.top with reversed := nodes.reverse ++ b.top.reversed } }

theorem pushAll_push (b : Builder) (node : Node) (nodes : List Node) :
    (b.push node).pushAll nodes = b.pushAll (node :: nodes) := by
  simp [pushAll, push, OpenNode.push]

/-- What happens between a start and its end adds one node. -/
theorem run_enclosed {b : Builder} {tag : Tag} (htag : tag ≠ .metadata) {inside : List Event}
    {o : OpenNode} (h : (b.within { value := tag.value }).run read inside = .ok (b.within o))
    {node : Node} (hclose : o.close = node) (rest : List Event) :
    b.run read (.start tag :: inside ++ .finish tag :: rest) = (b.push node).run read rest := by
  have hstart : b.event read (.start tag) = .ok (b.within { value := tag.value }) := by
    rw [event, if_neg htag]
    rfl
  have hfinish : (b.within o).event read (.finish tag) = .ok (b.push node) := by
    rw [← hclose]
    exact if_neg htag
  rw [List.cons_append, run_cons hstart, run_append h, run_cons hfinish]

/-! ### The events of nodes -/

theorem run_text {b : Builder} (hmetadata : b.metadata = none) (hholds : b.top.HoldsNodes)
    (hlast : ∀ last ∈ b.top.reversed.head?, last.kind ≠ .text) {pieces : List String}
    (hpieces : pieces ≠ []) :
    b.run read (pieces.map .text) = .ok (b.push (.leaf (.text (String.join pieces)))) := by
  obtain ⟨top, outer, metadata⟩ := b
  obtain rfl : metadata = none := hmetadata
  have hfirst (piece : String) : (⟨top, outer, none⟩ : Builder).event read (.text piece) =
      .ok (push ⟨top, outer, none⟩ (.leaf (.text piece))) := by
    rw [event, OpenNode.addText_first hholds hlast]
    rfl
  have hmore (collected piece : String) :
      (push ⟨top, outer, none⟩ (.leaf (.text collected))).event read (.text piece) =
        .ok (push ⟨top, outer, none⟩ (.leaf (.text (collected ++ piece)))) := by
    rw [push, event, OpenNode.addText_more hholds]
    rfl
  cases pieces with
  | nil => exact absurd rfl hpieces
  | cons piece rest =>
    rw [List.map_cons, run_cons (hfirst piece), run_pieces _ hmore piece rest, String.join_cons]

theorem event_leaf {b : Builder} (hholds : b.top.HoldsNodes) {e : Event} {value : NodeValue}
    (h : e.leaf? = some value) : b.event read e = .ok (b.push (.leaf value)) := by
  cases e with
  | html literal =>
    obtain rfl := Option.some.inj h
    rw [event, OpenNode.addHtml_of_holdsNodes hholds]
    rfl
  | start | finish | text => cases h
  | _ =>
    obtain rfl := Option.some.inj h
    rfl

theorem run_codeBlock {b : Builder} (hmetadata : b.metadata = none) {tag : Tag}
    {language : Option String} (htag : tag.value = .codeBlock language "") (pieces : List String)
    (rest : List Event) :
    b.run read (.start tag :: pieces.map .text ++ .finish tag :: rest) =
      (b.push (.leaf (.codeBlock language (String.join pieces)))).run read rest := by
  have hne : tag ≠ .metadata := by
    rintro rfl
    cases htag
  have hstep (literal piece : String) :
      (b.within { value := .codeBlock language literal }).event read (.text piece) =
        .ok (b.within { value := .codeBlock language (literal ++ piece) }) := by
    obtain ⟨top, outer, metadata⟩ := b
    obtain rfl : metadata = none := hmetadata
    rfl
  have hpieces := run_pieces _ hstep "" pieces
  rw [String.empty_append, ← htag] at hpieces
  exact run_enclosed hne hpieces rfl rest

theorem run_htmlBlock (b : Builder) (pieces : List String) (rest : List Event) :
    b.run read (.start .htmlBlock :: pieces.map .html ++ .finish .htmlBlock :: rest) =
      (b.push (.leaf (.htmlBlock (String.join pieces)))).run read rest := by
  have hstep (literal piece : String) :
      (b.within { value := .htmlBlock literal }).event read (.html piece) =
        .ok (b.within { value := .htmlBlock (literal ++ piece) }) := rfl
  have hpieces := run_pieces _ hstep "" pieces
  rw [String.empty_append] at hpieces
  have hne : Tag.htmlBlock ≠ .metadata := by decide
  exact run_enclosed hne hpieces rfl rest

/-- The builder inside front matter of which some text has been collected. -/
def collecting (b : Builder) (text : String) : Builder :=
  { top := { value := .frontMatter {} }, outer := b.top :: b.outer, metadata := some text }

/-- Front matter is read where it ends. -/
theorem run_frontMatter {b : Builder} (hmetadata : b.metadata = none) {pieces : List String}
    {m : FrontMatter} (hread : read (String.join pieces) = .ok m) (rest : List Event) :
    b.run read (.start .metadata :: pieces.map .text ++ .finish .metadata :: rest) =
      (b.push (.leaf (.frontMatter m))).run read rest := by
  have hstep (text piece : String) :
      (b.collecting text).event read (.text piece) = .ok (b.collecting (text ++ piece)) := rfl
  have hfinish : (b.collecting (String.join pieces)).event read (.finish .metadata) =
      .ok (b.push (.leaf (.frontMatter m))) := by
    obtain ⟨top, outer, metadata⟩ := b
    obtain rfl : metadata = none := hmetadata
    change (read (String.join pieces) >>= _) = _
    rw [hread]
    rfl
  have hstart : b.event read (.start .metadata) = .ok (b.collecting "") := rfl
  have hpieces := run_pieces _ hstep "" pieces
  rw [String.empty_append] at hpieces
  rw [List.cons_append, run_cons hstart, run_append hpieces, run_cons hfinish]

/-- Outside front matter, where nodes are held and none that is to come is a text behind a text. -/
structure Ready (b : Builder) (nodes : List Node) : Prop where
  metadata : b.metadata = none
  holds : b.top.HoldsNodes
  apart : (b.top.reversed.head?.toList ++ nodes).IsChain Node.Apart
  separated : ∀ node ∈ nodes, node.Throughout Node.Separated

theorem ready_empty {children : List Node}
    (h : (Node.mk .document children).Throughout Node.Separated) : empty.Ready children :=
  ⟨rfl, ⟨nofun, nofun⟩, h.self, h.children⟩

theorem Ready.push {b : Builder} {node : Node} {rest : List Node} (h : b.Ready (node :: rest)) :
    (b.push node).Ready rest :=
  ⟨h.metadata, h.holds, h.apart.right_of_append, (List.forall_mem_cons.mp h.separated).2⟩

theorem Ready.within {b : Builder} {tag : Tag} {children rest : List Node}
    (h : b.Ready (⟨tag.value, children⟩ :: rest)) (htag : tag.IsContainer) :
    (b.within { value := tag.value }).Ready children := by
  obtain ⟨hnode, -⟩ := List.forall_mem_cons.mp h.separated
  exact ⟨h.metadata, htag.holdsNodes, hnode.self, hnode.children⟩

theorem Ready.last_ne_text {b : Builder} {literal : String} {rest : List Node}
    (h : b.Ready (.leaf (.text literal) :: rest)) :
    ∀ last ∈ b.top.reversed.head?, last.kind ≠ .text := by
  intro last hlast htext
  have hapart := h.apart
  rw [Option.mem_def.mp hlast] at hapart
  exact (List.isChain_cons_cons.mp hapart).1 ⟨htext, rfl⟩

/-- **The events of nodes add these nodes.** -/
theorem run_of_flattening {nodes : List Node} {events : List Event}
    (h : Flattening read nodes events) {b : Builder} (hready : b.Ready nodes) :
    b.run read events = .ok (b.pushAll nodes) := by
  induction h generalizing b with
  | nil => rfl
  | text pieces hpieces h ih =>
    rw [run_append (run_text hready.metadata hready.holds hready.last_ne_text hpieces),
      ih hready.push, pushAll_push]
  | leaf event hvalue h ih =>
    rw [run_cons (event_leaf hready.holds hvalue), ih hready.push, pushAll_push]
  | codeBlock pieces htag h ih =>
    rw [run_codeBlock hready.metadata htag, ih hready.push, pushAll_push]
  | htmlBlock pieces h ih => rw [run_htmlBlock, ih hready.push, pushAll_push]
  | frontMatter pieces hread h ih =>
    rw [run_frontMatter hready.metadata hread, ih hready.push, pushAll_push]
  | @block tag children inside rest events htag hinside h ihinside ih =>
    have hne : tag ≠ .metadata := by
      rintro rfl
      exact htag
    have hclose := OpenNode.close_reverse tag.value children
    rw [run_enclosed hne (ihinside (hready.within htag)) hclose, ih hready.push, pushAll_push]

end Builder

/-! ### Starts and ends -/

/-- Every start has an end, with what stands between them as well nested. It does not matter which
tag an end names. -/
inductive WellNested : List Event → Prop
  | nil : WellNested []
  | single {event : Event} {rest : List Event} (hstart : ∀ tag, event ≠ .start tag)
      (hfinish : ∀ tag, event ≠ .finish tag) (h : WellNested rest) : WellNested (event :: rest)
  | enclosed {tag closing : Tag} {inside rest : List Event} (hinside : WellNested inside)
      (h : WellNested rest) : WellNested (.start tag :: inside ++ .finish closing :: rest)

namespace Builder

/-- Reading front matter fails, or the open nodes around the innermost are as before. -/
inductive Keeps (read : String → Except DocumentError FrontMatter) (outer : List OpenNode) :
    Except DocumentError Builder → Prop
  | refused {yaml : String} {e : DocumentError} (h : read yaml = .error e) :
    Keeps read outer (.error e)
  | kept {b : Builder} (h : b.outer = outer) : Keeps read outer (.ok b)

theorem Keeps.bind {outer : List OpenNode} {result : Except DocumentError Builder}
    {next : Builder → Except DocumentError Builder} {before : List OpenNode}
    (h : Keeps read before result) (hnext : ∀ b, b.outer = before → Keeps read outer (next b)) :
    Keeps read outer (result >>= next) := by
  cases h with
  | refused h => exact .refused h
  | kept h => exact hnext _ h

theorem keeps_event {event : Event} (hstart : ∀ tag, event ≠ .start tag)
    (hfinish : ∀ tag, event ≠ .finish tag) (b : Builder) :
    Keeps read b.outer (b.event read event) := by
  cases event with
  | start tag => exact absurd rfl (hstart tag)
  | finish tag => exact absurd rfl (hfinish tag)
  | text literal =>
    refine .kept ?_
    cases b.metadata <;> rfl
  | _ => exact .kept rfl

theorem keeps_close {b : Builder} {parent : OpenNode} {outer : List OpenNode}
    (h : b.outer = parent :: outer) (tag : Tag) : Keeps read outer (b.close read tag) := by
  rw [close, h]
  change Keeps read outer (if tag = .metadata then read _ >>= _ else _)
  by_cases htag : tag = .metadata
  · rw [if_pos htag]
    cases hread : read (b.metadata.getD "") with
    | error e => exact .refused hread
    | ok m => exact .kept rfl
  · rw [if_neg htag]
    exact .kept rfl

/-- **Starts and ends that match leave the open nodes as they were**, unless front matter is
refused. -/
theorem keeps_run {events : List Event} (h : WellNested events) (b : Builder) :
    Keeps read b.outer (b.run read events) := by
  induction h generalizing b with
  | nil => exact .kept rfl
  | single hstart hfinish h ih =>
    rw [run, List.foldlM_cons]
    exact (keeps_event hstart hfinish b).bind fun b' hb => hb ▸ ih b'
  | @enclosed tag closing inside rest hinside h ihinside ih =>
    rw [run, List.foldlM_append, List.foldlM_cons]
    refine (ihinside _).bind fun b' hb' => ?_
    rw [List.foldlM_cons]
    exact (keeps_close hb' closing).bind fun b'' hb'' => hb'' ▸ ih b''

end Builder

/-! ### Texts side by side -/

namespace Node

theorem Apart.symm {first second : Node} (h : first.Apart second) : second.Apart first :=
  fun hkinds => h hkinds.symm

theorem separated_leaf (value : NodeValue) : (leaf value).Throughout Separated :=
  .intro .nil (List.forall_mem_nil _)

theorem exists_of_kind_eq_text {node : Node} (h : node.kind = .text) :
    ∃ literal, node = ⟨.text literal, node.children⟩ := by
  obtain ⟨value, children⟩ := node
  cases value with
  | text literal => exact ⟨literal, rfl⟩
  | _ => cases h

end Node

theorem Tag.value_kind_ne_text (tag : Tag) : tag.value.kind ≠ .text := by
  cases tag <;> exact nofun

namespace OpenNode

/-- No two texts stand side by side in or below an open node, which is no text itself. -/
structure Tidy (o : OpenNode) : Prop where
  value : o.value.kind ≠ .text
  separated : o.reversed.IsChain Node.Apart
  children : ∀ child ∈ o.reversed, child.Throughout Node.Separated

theorem Tidy.withValue {o : OpenNode} (h : o.Tidy) {value : NodeValue}
    (hvalue : value.kind ≠ .text) : OpenNode.Tidy { o with value := value } :=
  ⟨hvalue, h.separated, h.children⟩

theorem Tidy.close {o : OpenNode} (h : o.Tidy) : o.close.Throughout Node.Separated :=
  .intro (List.isChain_reverse.mpr (h.separated.imp fun _ _ hapart => hapart.symm))
    fun child hchild => h.children child (List.mem_reverse.mp hchild)

theorem Tidy.push {o : OpenNode} (h : o.Tidy) {child : Node}
    (hchild : child.Throughout Node.Separated)
    (hlast : ∀ last ∈ o.reversed.head?, child.Apart last) : (o.push child).Tidy where
  value := h.value
  separated := List.isChain_cons.mpr ⟨hlast, h.separated⟩
  children := List.forall_mem_cons.mpr ⟨hchild, h.children⟩

/-- Text joins a text in front of it. -/
theorem Tidy.addText {o : OpenNode} (h : o.Tidy) (text : String) : (o.addText text).Tidy := by
  rw [OpenNode.addText]
  split
  · exact h.withValue nofun
  · exact h.withValue nofun
  · split
    · rename_i previous children rest hreversed
      have hseparated := hreversed ▸ h.separated
      have hchildren := hreversed ▸ h.children
      obtain ⟨hlast, hrest⟩ := List.isChain_cons.mp hseparated
      obtain ⟨hfirst, hothers⟩ := List.forall_mem_cons.mp hchildren
      exact ⟨h.value, List.isChain_cons.mpr ⟨hlast, hrest⟩,
        List.forall_mem_cons.mpr ⟨.intro hfirst.self hfirst.children, hothers⟩⟩
    · rename_i hnone
      refine h.push (Node.separated_leaf _) fun last hlast hkinds => ?_
      obtain ⟨literal, hliteral⟩ := Node.exists_of_kind_eq_text hkinds.2
      obtain ⟨rest, hrest⟩ := List.head?_eq_some_iff.mp hlast
      exact hnone literal last.children rest (hliteral ▸ hrest)

theorem Tidy.addHtml {o : OpenNode} (h : o.Tidy) (html : String) : (o.addHtml html).Tidy := by
  rw [OpenNode.addHtml]
  split
  · exact h.withValue nofun
  · exact h.push (Node.separated_leaf _) fun _ _ hkinds => nomatch hkinds.1

end OpenNode

namespace Builder

/-- No two texts stand side by side in what has been built. -/
structure Tidy (b : Builder) : Prop where
  top : b.top.Tidy
  outer : ∀ o ∈ b.outer, o.Tidy

theorem tidy_empty : empty.Tidy := ⟨⟨nofun, .nil, nofun⟩, nofun⟩

theorem Tidy.pushLeaf {b : Builder} (h : b.Tidy) {value : NodeValue} (hvalue : value.kind ≠ .text) :
    (b.push (.leaf value)).Tidy :=
  ⟨h.top.push (Node.separated_leaf value) fun _ _ hkinds => hvalue hkinds.1, h.outer⟩

theorem Tidy.close {b b' : Builder} (h : b.Tidy) {tag : Tag} (hclose : b.close read tag = .ok b') :
    b'.Tidy := by
  obtain ⟨top, outer, metadata⟩ := b
  cases outer with
  | nil => cases hclose
  | cons parent outer =>
    obtain ⟨hparent, houter⟩ := List.forall_mem_cons.mp h.outer
    have hpush {o : OpenNode} (ho : o.Tidy) : (parent.push o.close).Tidy :=
      hparent.push ho.close fun _ _ hkinds => ho.value hkinds.1
    change (if tag = .metadata then read _ >>= _ else _) = _ at hclose
    by_cases htag : tag = .metadata
    · rw [if_pos htag] at hclose
      obtain ⟨m, -, hclose⟩ := except_bind_eq_ok.mp hclose
      obtain rfl := Except.ok.inj hclose
      exact ⟨hpush (h.top.withValue nofun), houter⟩
    · rw [if_neg htag] at hclose
      obtain rfl := Except.ok.inj hclose
      exact ⟨hpush h.top, houter⟩

/-- One event does not put a text beside a text. -/
theorem Tidy.event {b b' : Builder} (h : b.Tidy) {e : Event} (hevent : b.event read e = .ok b') :
    b'.Tidy := by
  cases e with
  | start tag =>
    obtain rfl := Except.ok.inj hevent
    exact ⟨⟨tag.value_kind_ne_text, .nil, nofun⟩, List.forall_mem_cons.mpr ⟨h.top, h.outer⟩⟩
  | finish tag => exact h.close hevent
  | text literal =>
    obtain rfl := Except.ok.inj hevent
    cases b.metadata with
    | some collected => exact ⟨h.top, h.outer⟩
    | none => exact ⟨h.top.addText literal, h.outer⟩
  | html literal =>
    obtain rfl := Except.ok.inj hevent
    exact ⟨h.top.addHtml literal, h.outer⟩
  | inlineHtml | code | math | footnoteReference | softBreak | hardBreak | rule | taskListMarker =>
    obtain rfl := Except.ok.inj hevent
    exact h.pushLeaf nofun

theorem Tidy.run {b b' : Builder} (h : b.Tidy) {events : List Event}
    (hrun : b.run read events = .ok b') : b'.Tidy := by
  induction events generalizing b with
  | nil => exact Except.ok.inj hrun ▸ h
  | cons event rest ih =>
    obtain ⟨next, hevent, hrest⟩ := except_bind_eq_ok.mp hrun
    exact ih (h.event hevent) hrest

/-! ### Documents -/

end Builder

theorem FrontMatter.read_ne_unbalanced
    (decode : List Char → Option (List (String × Yaml.Value))) (yaml : String) :
    FrontMatter.read decode yaml ≠ .error .unbalanced := by
  intro h
  rw [FrontMatter.read] at h
  split at h
  · cases h
  · split at h
    · cases h
    · split at h
      · cases h
      · cases h

namespace Builder

theorem ofEvents_of_flattening {children : List Node} {events : List Event}
    (hproper : (Node.mk .document children).Throughout (Node.Proper read))
    (h : Flattening read children events) :
    ofEvents read events = .ok ⟨.document, children⟩ := by
  have hseparated := hproper.imp fun _ hnode => hnode.separated
  rw [ofEvents, run_of_flattening h (ready_empty hseparated)]
  exact congrArg _ (OpenNode.close_reverse .document children)

theorem ofEvents_separated {events : List Event} {tree : Node}
    (h : ofEvents read events = .ok tree) : tree.Throughout Node.Separated := by
  obtain ⟨b, hrun, htree⟩ := except_bind_eq_ok.mp h
  rw [Builder.tree] at htree
  split at htree
  · obtain rfl := Except.ok.inj htree
    exact (tidy_empty.run hrun).top.close
  · cases htree

theorem ofEvents_of_wellNested {events : List Event} (h : WellNested events) :
    (∃ yaml e, read yaml = .error e ∧ ofEvents read events = .error e) ∨
      ∃ tree, ofEvents read events = .ok tree := by
  have hkeeps : Keeps read [] (empty.run read events) := keeps_run h empty
  rw [ofEvents]
  generalize empty.run read events = result at hkeeps ⊢
  cases hkeeps with
  | refused hread => exact .inl ⟨_, _, hread, rfl⟩
  | @kept b houter =>
    have hclosed : b.outer.isEmpty = true := List.isEmpty_iff.mpr houter
    exact .inr ⟨b.top.close, if_pos hclosed⟩

/-- **Building inverts flattening.** Whatever YAML is decoded to, the events that tell a proper
document build that document. For events with matching starts and ends the builder only fails as
reading front matter fails, and what it builds has no two texts side by side. -/
theorem ofEvents_inverts_flattening (decode : List Char → Option (List (String × Yaml.Value))) :
    (∀ children events,
      (Node.mk .document children).Throughout (Node.Proper (FrontMatter.read decode)) →
      Flattening (FrontMatter.read decode) children events →
      ofEvents (FrontMatter.read decode) events = .ok ⟨.document, children⟩) ∧
    ∀ events, WellNested events →
      ofEvents (FrontMatter.read decode) events ≠ .error .unbalanced ∧
      (∀ e, ofEvents (FrontMatter.read decode) events = .error e →
        ∃ yaml, FrontMatter.read decode yaml = .error e) ∧
      ∀ tree, ofEvents (FrontMatter.read decode) events = .ok tree →
        tree.Throughout Node.Separated := by
  refine ⟨fun children events => ofEvents_of_flattening, fun events h => ?_⟩
  have herror : ∀ e, ofEvents (FrontMatter.read decode) events = .error e →
      ∃ yaml, FrontMatter.read decode yaml = .error e := by
    intro e he
    rcases ofEvents_of_wellNested h with ⟨yaml, e', hread, he'⟩ | ⟨tree, htree⟩
    · exact ⟨yaml, Except.error.inj (he'.symm.trans he) ▸ hread⟩
    · cases htree.symm.trans he
  refine ⟨fun hunbalanced => ?_, herror, fun tree => ofEvents_separated⟩
  obtain ⟨yaml, hread⟩ := herror _ hunbalanced
  exact FrontMatter.read_ne_unbalanced decode yaml hread

theorem ofEvents_inverts_flattening_of_pieces :
    ofEvents (FrontMatter.read Yaml.topEntries?) [
      .start .metadata, .text "root:", .text " .Wide", .finish .metadata,
      .start (.heading 1 none), .text "a", .text "b", .finish (.heading 1 none),
      .start (.codeBlock (some "kotlin ignore")), .text "c", .text "d",
      .finish (.codeBlock (some "kotlin ignore"))] =
    .ok ⟨.document, [.leaf (.frontMatter ⟨some ".Wide", [], [("root", [".Wide"])]⟩),
      ⟨.heading 1 none, [.leaf (.text "ab")]⟩, .leaf (.codeBlock (some "kotlin") "cd")]⟩ ∧
    ofEvents (FrontMatter.read Yaml.topEntries?)
      [.start .metadata, .text "root: a-b", .finish .metadata] ≠ .error .unbalanced := by
  have hyaml : FrontMatter.read Yaml.topEntries? (String.join ["root:", " .Wide"]) =
      .ok ⟨some ".Wide", [], [("root", [".Wide"])]⟩ :=
    except_toOption_eq_some.mp (by decide +kernel)
  have htag : (Tag.codeBlock (some "kotlin ignore")).value = .codeBlock (some "kotlin") "" := by
    decide +kernel
  have hab : String.join ["a", "b"] = "ab" := by decide +kernel
  have hcd : String.join ["c", "d"] = "cd" := by decide +kernel
  have hfrontMatter : (Node.leaf (.frontMatter
      ⟨some ".Wide", [], [("root", [".Wide"])]⟩)).Throughout
        (Node.Proper (FrontMatter.read Yaml.topEntries?)) := by
    refine .intro ⟨fun _ => rfl, .nil, nofun, nofun, fun m hm => ?_⟩ nofun
    obtain rfl := NodeValue.frontMatter.inj hm
    exact ⟨_, hyaml⟩
  have hheading : (Node.mk (.heading 1 none) [.leaf (.text "ab")]).Throughout
      (Node.Proper (FrontMatter.read Yaml.topEntries?)) := by
    refine .intro ⟨nofun, .singleton _, fun level id hlevel => ?_, nofun, nofun⟩ ?_
    · obtain ⟨rfl, -⟩ := NodeValue.heading.inj hlevel
      decide
    · exact List.forall_mem_singleton.mpr (.intro ⟨fun _ => rfl, .nil, nofun, nofun, nofun⟩ nofun)
  have hcode : (Node.leaf (.codeBlock (some "kotlin") "cd")).Throughout
      (Node.Proper (FrontMatter.read Yaml.topEntries?)) := by
    refine .intro ⟨fun _ => rfl, .nil, nofun, fun word literal hword => ?_, nofun⟩ nofun
    obtain ⟨hword, -⟩ := NodeValue.codeBlock.inj hword
    obtain rfl := Option.some.inj hword
    have hall : "kotlin".toList.all (fun c => !Text.isBlank c) = true := by decide +kernel
    exact ⟨by decide, fun c hc => (Bool.not_eq_true' _).mp (List.all_eq_true.mp hall c hc)⟩
  have hproper : (Node.mk .document [.leaf (.frontMatter ⟨some ".Wide", [], [("root", [".Wide"])]⟩),
      ⟨.heading 1 none, [.leaf (.text "ab")]⟩,
      .leaf (.codeBlock (some "kotlin") "cd")]).Throughout
        (Node.Proper (FrontMatter.read Yaml.topEntries?)) := by
    refine .intro ⟨nofun, ?_, nofun, nofun, nofun⟩ ?_
    · exact .cons_cons (fun h => nomatch h.1) (.cons_cons (fun h => nomatch h.1) (.singleton _))
    · exact List.forall_mem_cons.mpr ⟨hfrontMatter,
        List.forall_mem_cons.mpr ⟨hheading, List.forall_mem_singleton.mpr hcode⟩⟩
  have htextEvents : Flattening (FrontMatter.read Yaml.topEntries?) [.leaf (.text "ab")]
      [.text "a", .text "b"] := by
    rw [← hab]
    exact .text ["a", "b"] (List.cons_ne_nil _ _) .nil
  have hcodeEvents : Flattening (FrontMatter.read Yaml.topEntries?)
      [.leaf (.codeBlock (some "kotlin") "cd")]
      [.start (.codeBlock (some "kotlin ignore")), .text "c", .text "d",
        .finish (.codeBlock (some "kotlin ignore"))] := by
    rw [← hcd]
    exact .codeBlock ["c", "d"] htag .nil
  have hlevel : (Tag.heading 1 none).IsContainer := ⟨by decide, by decide⟩
  have hevents := Flattening.frontMatter _ hyaml (.block hlevel htextEvents hcodeEvents)
  have hnested : WellNested [.start .metadata, .text "root: a-b", .finish .metadata] :=
    @WellNested.enclosed .metadata .metadata [.text "root: a-b"] [] (.single nofun nofun .nil) .nil
  obtain ⟨hbuild, hend⟩ := ofEvents_inverts_flattening Yaml.topEntries?
  exact ⟨hbuild _ _ hproper hevents, (hend _ hnested).1⟩

end Builder

end MarkdownPages
