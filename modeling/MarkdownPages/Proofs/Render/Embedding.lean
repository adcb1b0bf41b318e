import MarkdownPages.Proofs.Render.IncludeStack
import MarkdownPages.Proofs.Render.Machine

/-!
# Embedding ends

Documents may embed one another, and themselves, in any way. Rendering ends all the same, because
no document is entered while it is being read. This is a property of every moment of a rendering,
not of its result, so it is proved as an invariant of the machine that carries out operations one
at a time: no path stands twice on the stack, and above the paths that stood there at the start
there is one for each document that has been entered and not left.

The machine runs handlers, which are given as values, and a handler could embed a document that it
has not got from the resolver. The handlers of a page do not, and the invariant says so of the
operations that are left to do.

## Main definitions

* `Rendering.EmbedsOnly` — operations that embed only documents of some kind
* `Config.Sound` — the invariant

## Main results

* `elements_embedsOnly` — the handlers of a page embed what the resolver finds
* `Config.Sound.step`, `Config.Sound.steps` — one operation keeps the invariant, and so does a run
* `embedding_ends` — rendering ends, with the invariant at every moment
-/

namespace MarkdownPages

variable {σ : Type}

/-! ### What handlers embed -/

namespace Rendering

/-- Operations that embed only documents of some kind, if references lead only to such. -/
def EmbedsOnly (found : ResolvedDocument → Prop) : Rendering → Prop
  | output _ => True
  | render _ next => ∀ text, EmbedsOnly found (next text)
  | renderChildren _ next => ∀ text, EmbedsOnly found (next text)
  | indent inner next => EmbedsOnly found inner ∧ ∀ text, EmbedsOnly found (next text)
  | look next => ∀ surroundings, EmbedsOnly found (next surroundings)
  | addImport _ next => EmbedsOnly found next
  | warn _ next => EmbedsOnly found next
  | headingId _ next => ∀ id, EmbedsOnly found (next id)
  | resolve _ next => ∀ reference,
      (∀ document fragment, reference = .resolved document fragment → found document) →
        EmbedsOnly found (next reference)
  | embed document next => found document ∧ ∀ body, EmbedsOnly found (next body)

variable {found : ResolvedDocument → Prop}

theorem embedsOnly_output (text : String) : (output text).EmbedsOnly found := trivial

theorem embedsOnly_line (text : String) {next : String → Rendering}
    (h : ∀ code, (next code).EmbedsOnly found) : (line text next).EmbedsOnly found :=
  fun _ => h _

theorem embedsOnly_wrap (call : String) {inner : Rendering} {next : String → Rendering}
    (hinner : inner.EmbedsOnly found) (h : ∀ code, (next code).EmbedsOnly found) :
    (wrap call inner next).EmbedsOnly found := by
  refine ⟨hinner, fun body => ?_⟩
  change (if body.isEmpty then line (call ++ " \x7b\x7d") next else _).EmbedsOnly found
  by_cases hempty : body.isEmpty = true
  · rw [if_pos hempty]
    exact embedsOnly_line _ h
  · rw [if_neg hempty]
    exact embedsOnly_line _ fun _ => embedsOnly_line _ fun _ => h _

theorem embedsOnly_block (call : String) (node : Node) {next : String → Rendering}
    (h : ∀ code, (next code).EmbedsOnly found) : (block call node next).EmbedsOnly found :=
  embedsOnly_wrap call (fun _ => trivial) h

theorem embedsOnly_textCall (text : String) {next : String → Rendering}
    (h : ∀ code, (next code).EmbedsOnly found) : (textCall text next).EmbedsOnly found :=
  embedsOnly_line _ h

theorem embedsOnly_renderAll (nodes : List Node) {next : String → Rendering}
    (h : ∀ code, (next code).EmbedsOnly found) : (renderAll nodes next).EmbedsOnly found := by
  induction nodes generalizing next with
  | nil => exact h ""
  | cons node rest ih => exact fun first => ih fun others => h (first ++ others)

theorem embedsOnly_element (name : String) (node : Node) :
    (Elements.element name node).EmbedsOnly found :=
  embedsOnly_block name node embedsOnly_output

theorem embedsOnly_paragraph (children : List Node) :
    (Elements.paragraph ⟨.paragraph, children⟩).EmbedsOnly found := by
  rcases children with _ | ⟨child, _ | ⟨second, more⟩⟩
  · exact embedsOnly_element "P" _
  · change (if Elements.isEmbed child then render child output
      else Elements.element "P" ⟨.paragraph, [child]⟩).EmbedsOnly found
    by_cases hembed : Elements.isEmbed child = true
    · rw [if_pos hembed]
      exact embedsOnly_output
    · rw [if_neg hembed]
      exact embedsOnly_element "P" _
  · exact embedsOnly_element "P" _

theorem embedsOnly_heading (level : Nat) (own : Option String) (children : List Node) :
    (Elements.heading ⟨.heading level own, children⟩).EmbedsOnly found := by
  have hid : ∀ id : String,
      (if id.isEmpty then block ("H" ++ toString level) ⟨.heading level own, children⟩
        else block (Elements.withAttributes ("H" ++ toString level) (Elements.callOn "id" id))
          ⟨.heading level own, children⟩).EmbedsOnly found := by
    intro id
    split
    · exact embedsOnly_block _ _ embedsOnly_output
    · exact embedsOnly_block _ _ embedsOnly_output
  cases own with
  | some id => exact hid id
  | none => exact hid

theorem embedsOnly_rawHtml (container : String) (node : Node) :
    (Elements.rawHtml container node).EmbedsOnly found := by
  rw [Elements.rawHtml]
  split
  · exact embedsOnly_output ""
  · exact embedsOnly_line _ embedsOnly_output

theorem embedsOnly_list (start : Option Nat) (children : List Node) :
    (Elements.list ⟨.list start, children⟩).EmbedsOnly found := by
  rcases start with _ | _ | _ | n
  · exact embedsOnly_element "Ul" _
  · exact embedsOnly_block _ _ embedsOnly_output
  · exact embedsOnly_element "Ol" _
  · exact embedsOnly_block _ _ embedsOnly_output

theorem embedsOnly_table (node : Node) : (Elements.table node).EmbedsOnly found := by
  refine embedsOnly_wrap "Table" (embedsOnly_renderAll _ fun head => ?_) embedsOnly_output
  split
  · exact embedsOnly_output head
  · exact embedsOnly_wrap "Tbody" (embedsOnly_renderAll _ embedsOnly_output) fun body =>
      embedsOnly_output (head ++ body)

theorem embedsOnly_link (destination title : String) (children : List Node) :
    (Elements.link ⟨.link destination title, children⟩).EmbedsOnly found := by
  intro reference _
  cases reference with
  | external => exact embedsOnly_block _ _ embedsOnly_output
  | unresolved => exact embedsOnly_block _ _ embedsOnly_output
  | resolved document fragment => exact embedsOnly_block _ _ embedsOnly_output

theorem embedsOnly_image (destination title : String) (children : List Node) :
    (Elements.image ⟨.image destination title, children⟩).EmbedsOnly found := by
  intro reference hfound
  cases reference with
  | external => exact embedsOnly_line _ embedsOnly_output
  | unresolved => exact embedsOnly_textCall _ embedsOnly_output
  | resolved document fragment =>
    refine ⟨hfound document fragment rfl, fun body => ?_⟩
    cases body with
    | some body => exact embedsOnly_output body
    | none => exact fun _ => embedsOnly_textCall _ embedsOnly_output

theorem embedsOnly_wrapText (call text : String) :
    (wrap call (textCall text)).EmbedsOnly found :=
  embedsOnly_wrap call (embedsOnly_textCall text embedsOnly_output) embedsOnly_output

/-- The handlers of a page embed only what references lead to. -/
theorem elements_embedsOnly (node : Node) :
    (HandlerTable.elements.handlerFor node.kind node).EmbedsOnly found := by
  obtain ⟨value, children⟩ := node
  cases value with
  | document => exact embedsOnly_output
  | frontMatter => exact embedsOnly_output ""
  | paragraph => exact embedsOnly_paragraph children
  | heading level own => exact embedsOnly_heading level own children
  | codeBlock language literal =>
    exact embedsOnly_wrap "Pre" (embedsOnly_wrapText _ literal) embedsOnly_output
  | htmlBlock => exact embedsOnly_rawHtml "Div" _
  | html => exact embedsOnly_rawHtml "Span" _
  | list start => exact embedsOnly_list start children
  | taskListMarker => exact embedsOnly_line _ embedsOnly_output
  | table => exact embedsOnly_table _
  | tableHead =>
    exact embedsOnly_wrap "Thead" (embedsOnly_block "Tr" _ embedsOnly_output) embedsOnly_output
  | tableCell => exact fun _ => embedsOnly_element _ _
  | link destination title => exact embedsOnly_link destination title children
  | image destination title => exact embedsOnly_image destination title children
  | text literal => exact embedsOnly_textCall literal embedsOnly_output
  | softBreak => exact embedsOnly_textCall " " embedsOnly_output
  | code literal => exact embedsOnly_wrapText "Code" literal
  | math display literal => cases display <;> exact embedsOnly_wrapText _ literal
  | hardBreak => exact embedsOnly_line _ embedsOnly_output
  | rule => exact embedsOnly_line _ embedsOnly_output
  | footnoteDefinition label => exact embedsOnly_block _ _ embedsOnly_output
  | footnoteReference label =>
    exact embedsOnly_wrap "Sup" (embedsOnly_wrapText _ label) embedsOnly_output
  | blockQuote | item | tableRow | emphasis | strong | strikethrough | superscript | subscript
  | definitionList | definitionListTitle | definitionListDefinition =>
    exact embedsOnly_element _ _

end Rendering

/-! ### The invariant -/

/-- What is left to do behind a frame embeds only documents of some kind. -/
def Frame.EmbedsOnly (found : ResolvedDocument → Prop) : Frame → Prop
  | node next | children next | indented next => ∀ text, (next text).EmbedsOnly found
  | embedded _ _ next => ∀ body, (next body).EmbedsOnly found

namespace Config

/-- A moment of a rendering that started with the documents of `base` being read: no document is
being read twice, and one has been entered for each frame of an embedded document. -/
structure Sound (resolver : Resolver σ) (base : List Path) (config : Config σ) : Prop where
  current : config.current.EmbedsOnly resolver.Returns
  frames : ∀ frame ∈ config.frames, frame.EmbedsOnly resolver.Returns
  distinct : Path.Distinct config.scope.context.includeStack
  entered : ∃ entered, config.scope.context.includeStack = entered ++ base ∧
    entered.length = config.nesting ∧
    ∀ path ∈ entered, ∃ document, resolver.Returns document ∧ document.path = path

variable {table : HandlerTable} {resolver : Resolver σ} {base : List Path}

theorem nesting_cons (current : Rendering) (scope : Scope σ) (frame : Frame)
    (frames : List Frame) : nesting ⟨current, scope, frame :: frames⟩ =
      nesting ⟨current, scope, frames⟩ + if frame.isEmbedded then 1 else 0 :=
  List.countP_cons

/-- Without further documents, the invariant is that of the start. -/
theorem sound_start (htable : ∀ node, (table.handlerFor node.kind node).EmbedsOnly resolver.Returns)
    (tree : Node) {scope : Scope σ} (h : Path.Distinct scope.context.includeStack) :
    (start table tree scope).Sound resolver scope.context.includeStack where
  current := htable tree
  frames := by simp [start]
  distinct := h
  entered := ⟨[], rfl, rfl, by simp⟩

/-- An operation that leaves the stack alone keeps the invariant. -/
theorem Sound.of_stack {c d : Config σ} (h : c.Sound resolver base)
    (hcurrent : d.current.EmbedsOnly resolver.Returns)
    (hframes : ∀ frame ∈ d.frames, frame.EmbedsOnly resolver.Returns)
    (hstack : d.scope.context.includeStack = c.scope.context.includeStack)
    (hnesting : d.nesting = c.nesting) : d.Sound resolver base where
  current := hcurrent
  frames := hframes
  distinct := hstack ▸ h.distinct
  entered := by
    rw [hstack, hnesting]
    exact h.entered

/-- Going on behind a frame keeps the invariant. Behind an embedded document, the path that is
taken off the stack is the one that was put there when the document was entered. -/
theorem Sound.resume {text : String} {scope : Scope σ} {frame : Frame} {frames : List Frame}
    (h : Sound resolver base ⟨.output text, scope, frame :: frames⟩) :
    (frame.resume text scope frames).Sound resolver base := by
  have hframe := h.frames frame (List.mem_cons_self ..)
  have hframes : ∀ f ∈ frames, f.EmbedsOnly resolver.Returns :=
    fun f hf => h.frames f (List.mem_cons_of_mem _ hf)
  cases frame with
  | node next => exact h.of_stack (hframe text) hframes rfl rfl
  | children next => exact h.of_stack (hframe text) hframes rfl rfl
  | indented next => exact h.of_stack (hframe text) hframes rfl rfl
  | embedded sourcePath ancestors next =>
    obtain ⟨entered, hstack, hlength, hentered⟩ := h.entered
    rw [nesting_cons] at hlength
    cases entered with
    | nil => cases hlength
    | cons path entered =>
      have htail : scope.context.includeStack.tail = entered ++ base := congrArg List.tail hstack
      exact
        { current := hframe (some text)
          frames := hframes
          distinct := h.distinct.tail
          entered := ⟨entered, htail, Nat.succ.inj hlength,
            fun p hp => hentered p (List.mem_cons_of_mem _ hp)⟩ }

/-- Entering a document keeps the invariant, because it is not being read. -/
theorem Sound.enter {document : ResolvedDocument} {next : Option String → Rendering}
    {scope : Scope σ} {frames : List Frame}
    (h : Sound resolver base ⟨.embed document next, scope, frames⟩)
    (hnew : ¬ scope.context.isRendering document.path = true) :
    Sound resolver base ⟨.renderChildren document.tree .output,
      { scope with context := scope.context.enter document, ancestors := [] },
      .embedded scope.context.sourcePath scope.ancestors next :: frames⟩ := by
  obtain ⟨hdocument, hnext⟩ := h.current
  obtain ⟨entered, hstack, hlength, hentered⟩ := h.entered
  exact
    { current := fun _ => trivial
      frames := fun frame hframe => by
        rcases List.mem_cons.mp hframe with rfl | hframe
        · exact hnext
        · exact h.frames frame hframe
      distinct := Path.distinct_cons.mpr ⟨Bool.eq_false_iff.mpr hnew, h.distinct⟩
      entered := by
        refine ⟨document.path :: entered, congrArg (document.path :: ·) hstack, ?_, ?_⟩
        · rw [nesting_cons, List.length_cons, hlength]
          rfl
        · intro path hpath
          rcases List.mem_cons.mp hpath with rfl | hpath
          · exact ⟨document, hdocument, rfl⟩
          · exact hentered path hpath }

/-- Following a reference keeps the invariant: it leads to what the resolver finds. -/
theorem Sound.resolve {destination : String} {next : Reference → Rendering} {scope : Scope σ}
    {frames : List Frame} (h : Sound resolver base ⟨.resolve destination next, scope, frames⟩) :
    Sound resolver base
      ⟨next (scope.context.resolve resolver destination scope.store).1,
        { scope with
          context := (scope.context.resolve resolver destination scope.store).2.1
          store := (scope.context.resolve resolver destination scope.store).2.2 }, frames⟩ := by
  have hresolve := Context.resolve_eq resolver destination scope [] scope.ledger
  change scope.context.resolve resolver destination scope.store = _ at hresolve
  have hfollow := scope.ledger.follow_eq resolver scope.standpoint.sourcePath destination
  rw [hresolve]
  refine h.of_stack (h.current _ fun document fragment hreference => ?_) h.frames rfl rfl
  dsimp only at hreference
  rw [hreference] at hfollow
  exact Resolver.returns_of_follow hfollow.symm

/-- **Step.** One operation keeps the invariant. -/
theorem Sound.step
    (htable : ∀ node, (table.handlerFor node.kind node).EmbedsOnly resolver.Returns)
    {c d : Config σ} (h : c.Sound resolver base) (hstep : Config.step table resolver c = some d) :
    d.Sound resolver base := by
  obtain ⟨current, scope, frames⟩ := c
  have hbehind : ∀ frame : Frame, frame.EmbedsOnly resolver.Returns →
      ∀ f ∈ frame :: frames, f.EmbedsOnly resolver.Returns := by
    intro frame hframe f hf
    rcases List.mem_cons.mp hf with rfl | hf
    · exact hframe
    · exact h.frames f hf
  -- only entering a document and leaving it move the stack
  cases current with
  | output text =>
    cases frames with
    | nil => cases hstep
    | cons frame frames =>
      obtain rfl := Option.some.inj hstep
      exact h.resume
  | render node next =>
    obtain rfl := Option.some.inj hstep
    exact h.of_stack (htable node) (hbehind (.node next) h.current) rfl rfl
  | renderChildren node next =>
    obtain rfl := Option.some.inj hstep
    exact h.of_stack (Rendering.embedsOnly_renderAll _ Rendering.embedsOnly_output)
      (hbehind (.children next) h.current) rfl rfl
  | indent inner next =>
    obtain rfl := Option.some.inj hstep
    exact h.of_stack h.current.1 (hbehind (.indented next) h.current.2) rfl rfl
  | look next =>
    obtain rfl := Option.some.inj hstep
    exact h.of_stack (h.current _) h.frames rfl rfl
  | addImport target next =>
    obtain rfl := Option.some.inj hstep
    have hstack : (scope.context.addImport target).includeStack = scope.context.includeStack := by
      rw [Context.addImport_eq]
    exact h.of_stack h.current h.frames hstack rfl
  | warn message next =>
    obtain rfl := Option.some.inj hstep
    exact h.of_stack h.current h.frames rfl rfl
  | headingId text next =>
    obtain rfl := Option.some.inj hstep
    exact h.of_stack (h.current _) h.frames rfl rfl
  | resolve destination next =>
    obtain rfl := Option.some.inj hstep
    exact h.resolve
  | embed document next =>
    by_cases hrendering : scope.context.isRendering document.path = true
    · obtain rfl := Option.some.inj ((if_pos hrendering).symm.trans hstep)
      exact h.of_stack (h.current.2 none) h.frames rfl rfl
    · obtain rfl := Option.some.inj ((if_neg hrendering).symm.trans hstep)
      exact h.enter hrendering

/-- **Run.** Any number of operations keep the invariant. -/
theorem Sound.steps
    (htable : ∀ node, (table.handlerFor node.kind node).EmbedsOnly resolver.Returns)
    {c d : Config σ} (h : c.Sound resolver base) (hsteps : Steps table resolver c d) :
    d.Sound resolver base := by
  induction hsteps with
  | refl => exact h
  | tail _ hstep ih => exact ih.step htable hstep

/-- Documents are embedded in one another at most as deep as there are paths to be found. -/
theorem Sound.nesting_le {paths : List Path} {config : Config σ} (h : config.Sound resolver base)
    (hpaths : ∀ document, resolver.Returns document → ∃ p ∈ paths, p.same document.path = true) :
    config.nesting ≤ paths.length := by
  obtain ⟨entered, hstack, hlength, hentered⟩ := h.entered
  have hroom : Path.room paths (entered ++ base) + entered.length ≤ Path.room paths base := by
    refine Path.room_add_length (hstack ▸ h.distinct) fun path hpath => ?_
    obtain ⟨document, hdocument, rfl⟩ := hentered path hpath
    exact hpaths document hdocument
  have hlimit := Path.room_le_length paths base
  omega

end Config

/-! ### Rendering ends -/

/-- An image of a document that is being read is shown as it was written. No document is entered:
the bound on embedded documents may be zero. -/
theorem renderWithin_image_of_isRendering {resolver : Resolver σ} {scope : Scope σ}
    {destination : String} {document : ResolvedDocument} {fragment : Option String} {after : σ}
    (hfollow : resolver.follow scope.context.sourcePath destination scope.store =
      (.resolved document fragment, after))
    (hrendering : scope.context.isRendering document.path = true) (title : String)
    (children : List Node) :
    (HandlerTable.elements.renderWithin resolver Node.height 0
        ⟨.image destination title, children⟩ scope).map (·.1) =
      some (lineAt scope.depth
        (textCode (imageSource (Node.plainTextAll children) destination))) := by
  have hledger : (scope.ledger.follow resolver scope.standpoint.sourcePath destination).1 =
      .resolved document fragment :=
    (congrArg Prod.fst (scope.ledger.follow_eq resolver scope.context.sourcePath destination)).trans
      (congrArg Prod.fst hfollow)
  rw [renderWithin_elements, Node.outline_image]
  cases hcase : scope.ledger.follow resolver scope.standpoint.sourcePath destination with
  | mk reference last =>
    rw [hcase] at hledger
    dsimp only at hledger
    subst hledger
    have hstack : scope.standpoint.includeStack.any (·.same document.path) = true := hrendering
    dsimp only
    rw [if_pos hstack, Option.map_some, Option.map_some, Scope.finish_text,
      Text.lineAt_eq_unlines]

/-- **Embedding ends.** Rendering a page ends, whatever documents embed one another. The run that
starts with the tree gets to its result from every moment; at every moment no path stands twice on
the stack, and no more documents have been entered than there are paths to be found. -/
theorem embedding_ends (resolver : Resolver σ) (paths : List Path)
    (hpaths : ∀ document, resolver.Returns document → ∃ p ∈ paths, p.same document.path = true)
    (tree : Node) (scope : Scope σ) (hdistinct : Path.Distinct scope.context.includeStack) :
    (∃ text after,
      HandlerTable.elements.renderWithin resolver Node.height paths.length tree scope =
        some (text, after) ∧
      ∀ config, Config.Steps .elements resolver (.start .elements tree scope) config →
        Config.Steps .elements resolver config ⟨.output text, after, []⟩ ∧
        Path.Distinct config.scope.context.includeStack ∧ config.nesting ≤ paths.length) ∧
    ∀ (here : Scope σ) (destination title : String) (children : List Node)
      (document : ResolvedDocument) (fragment : Option String) (store : σ),
      resolver.follow here.context.sourcePath destination here.store =
        (.resolved document fragment, store) →
      here.context.isRendering document.path = true →
      (HandlerTable.elements.renderWithin resolver Node.height 0
          ⟨.image destination title, children⟩ here).map (·.1) =
        some (lineAt here.depth
          (textCode (imageSource (Node.plainTextAll children) destination))) := by
  have hroom := Path.room_le_length paths scope.context.includeStack
  obtain ⟨⟨text, after⟩, hresult⟩ :=
    Option.isSome_iff_exists.mp (isSome_renderWithin hpaths tree scope hroom)
  have hend := Config.steps_renderWithin hresult
  refine ⟨⟨text, after, hresult, fun config hconfig => ?_⟩, ?_⟩
  · have hsound := (Config.sound_start Rendering.elements_embedsOnly tree hdistinct).steps
      Rendering.elements_embedsOnly hconfig
    exact ⟨hend.of_final rfl hconfig, hsound.distinct, hsound.nesting_le hpaths⟩
  · intro here destination title children document fragment store hfollow hrendering
    exact renderWithin_image_of_isRendering hfollow hrendering title children

/-- A document that holds nothing but another document, with its name. -/
def embedderOf (name destination : String) : String × ResolvedDocument :=
  (name, ⟨⟨"/" ++ name⟩, name, ⟨.document, [⟨.paragraph, [.leaf (.image destination "")]⟩]⟩⟩)

/-- Two documents that embed each other, one of which is being read. -/
theorem embedding_ends_of_circle :
    (∀ document, (Resolver.ofNamed [embedderOf "a.md" "b.md", embedderOf "b.md" "a.md"] :
        Resolver Unit).Returns document →
      ∃ p ∈ [(⟨"/a.md"⟩ : Path), ⟨"/b.md"⟩], p.same document.path = true) ∧
    Path.Distinct [⟨"/a.md"⟩] ∧
    ∃ text after, HandlerTable.elements.renderWithin
        (Resolver.ofNamed [embedderOf "a.md" "b.md", embedderOf "b.md" "a.md"]) Node.height 2
        (embedderOf "a.md" "b.md").2.tree
        { context := { package := "", functionName := "A", sourcePath := "a.md"
                       includeStack := [⟨"/a.md"⟩] }
          depth := 1, store := () } = some (text, after) := by
  have hpaths : ∀ document, (Resolver.ofNamed [embedderOf "a.md" "b.md", embedderOf "b.md" "a.md"] :
      Resolver Unit).Returns document →
        ∃ p ∈ [(⟨"/a.md"⟩ : Path), ⟨"/b.md"⟩], p.same document.path = true := by
    rintro document ⟨name, store, after, hlookup⟩
    obtain ⟨left, right, heq, -⟩ := List.lookup_eq_some_iff.mp (congrArg Prod.fst hlookup)
    have hmem : (name, document) ∈ [embedderOf "a.md" "b.md", embedderOf "b.md" "a.md"] :=
      heq ▸ List.mem_append_right left (List.mem_cons_self ..)
    rcases List.mem_cons.mp hmem with heq | hmem
    · exact ⟨_, List.mem_cons_self .., by rw [(Prod.mk.inj heq).2]; decide⟩
    · exact ⟨_, List.mem_cons_of_mem _ (List.mem_cons_self ..), by
        rw [(Prod.mk.inj (List.mem_singleton.mp hmem)).2]; decide⟩
  have hdistinct : Path.Distinct [⟨"/a.md"⟩] := List.pairwise_singleton _ _
  obtain ⟨⟨text, after, hresult, -⟩, -⟩ := embedding_ends
    (Resolver.ofNamed [embedderOf "a.md" "b.md", embedderOf "b.md" "a.md"]) _ hpaths
    (embedderOf "a.md" "b.md").2.tree
    { context := { package := "", functionName := "A", sourcePath := "a.md"
                   includeStack := [⟨"/a.md"⟩] }
      depth := 1, store := () } hdistinct
  exact ⟨hpaths, hdistinct, text, after, hresult⟩

end MarkdownPages
