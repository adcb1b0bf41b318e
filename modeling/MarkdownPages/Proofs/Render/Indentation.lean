import MarkdownPages.Proofs.Render.IncludeStack

/-!
# A document reads the same wherever it is embedded

A document may be embedded at the top of a page, deep inside lists, or in the head of a table. Its
lines are the same everywhere, behind the indentation of the place, and nothing that is gathered on
the way tells the places apart.

Where a place can show is little. The level of indentation goes into nothing but the blanks in front
of a line: no statement holds a line break, so no part of a text can pass for a line. The nodes
around are put aside while a document is read, so that its cells are not taken for those of a head
around it.

## Main definitions

* `HandlerTable.embedWithin` — embedding as an operation of its own
* `Text.SameLines` — texts of the same lines, behind so many blanks
* `EmbedsAlike` — results that differ by nothing but the indentation

## Main results

* `Statement.linesAll_add` — statements that stand deeper give lines that are indented further
* `embed_alike` — embedding a document in two places
-/

namespace MarkdownPages

variable {σ : Type}

/-! ### Embedding -/

namespace HandlerTable

/-- Embeds a document: its code, or none if it is being rendered already, and the scope after it.
There is no result if a bound is met. -/
def embedWithin (table : HandlerTable) (resolver : Resolver σ) (levels : Node → Nat)
    (embeds : Nat) (document : ResolvedDocument) (scope : Scope σ) :
    Option (Option String × Scope σ) :=
  if scope.context.isRendering document.path then some (none, scope)
  else
    (table.enter resolver levels embeds document.tree
      { scope with context := scope.context.enter document, ancestors := [] }).map
      fun (text, after) => (some text,
        { after with
          context := after.context.leave scope.context.sourcePath
          ancestors := scope.ancestors })

/-- A page embeds a document by printing its statements, which depend on nothing but the context
and the memory of the resolver. -/
theorem embedWithin_elements (resolver : Resolver σ) (embeds : Nat) (document : ResolvedDocument)
    (scope : Scope σ) :
    elements.embedWithin resolver Node.height embeds document scope =
      if scope.context.isRendering document.path then some (none, scope)
      else
        (contents resolver embeds
          ⟨document.relativePath, document.path :: scope.context.includeStack, false⟩ document.tree
          ⟨scope.context.headingCounts, scope.context.warnings, scope.store⟩).map fun result =>
            (some (Text.unlines (Statement.linesAll scope.depth result.1)),
              (scope.finish result).2) := by
  rw [embedWithin, enter_elements, Option.map_map]
  rfl

end HandlerTable

/-! ### Indentation -/

theorem indentation_add (depth deeper : Nat) :
    indentation (depth + deeper) = indentation depth ++ indentation deeper := by
  rw [indentation, indentation, indentation, ← String.join_append,
    List.replicate_append_replicate]

/-- A level of indentation is four blanks. -/
theorem indentation_eq (depth : Nat) :
    indentation depth = String.ofList (List.replicate (4 * depth) ' ') := by
  induction depth with
  | zero => rfl
  | succ depth ih =>
    have hunit : indentation 1 = String.ofList (List.replicate 4 ' ') := by decide
    rw [indentation_add, ih, hunit, ← String.ofList_append, List.replicate_append_replicate,
      Nat.mul_succ]

theorem Kotlin.wrapLines_add (depth deeper : Nat) (code : String) (body : List String) :
    wrapLines (depth + deeper) code (body.map (indentation depth ++ ·)) =
      (wrapLines deeper code body).map (indentation depth ++ ·) := by
  cases body with
  | nil => simp only [List.map_nil, wrapLines, List.map_cons, indentation_add, String.append_assoc]
  | cons first rest =>
    simp only [List.map_cons, wrapLines_cons, List.map_append, List.map_nil, indentation_add,
      String.append_assoc, List.cons_append]

namespace Statement

mutual

theorem lines_add (depth deeper : Nat) : ∀ s : Statement,
    lines (depth + deeper) s = (lines deeper s).map (indentation depth ++ ·)
  | text literal => by
    simp only [lines, List.map_cons, List.map_nil, indentation_add, String.append_assoc]
  | line call => by
    simp only [lines, List.map_cons, List.map_nil, indentation_add, String.append_assoc]
  | block call body => by
    rw [lines, lines, Nat.add_assoc, linesAll_add depth (deeper + 1) body, Kotlin.wrapLines_add]

/-- Statements that stand deeper give lines that are indented further. -/
theorem linesAll_add (depth deeper : Nat) : ∀ ss : List Statement,
    linesAll (depth + deeper) ss = (linesAll deeper ss).map (indentation depth ++ ·)
  | [] => rfl
  | s :: rest => by
    rw [linesAll, linesAll, List.map_append, lines_add depth deeper s,
      linesAll_add depth deeper rest]

end

end Statement

namespace Text

/-- Texts of the same lines, behind so many blanks each. -/
def SameLines (blanks blanks' : Nat) (text text' : String) : Prop :=
  ∃ ls : List String, (∀ l ∈ ls, '\n' ∉ l.toList) ∧
    text = unlines (ls.map (String.ofList (List.replicate blanks ' ') ++ ·)) ∧
    text' = unlines (ls.map (String.ofList (List.replicate blanks' ' ') ++ ·))

/-- Taking the blanks away in front of every line gives the lines. -/
theorem map_drop_lines {ls : List String} (h : ∀ l ∈ ls, '\n' ∉ l.toList) (blanks : Nat) :
    (lines (unlines (ls.map (String.ofList (List.replicate blanks ' ') ++ ·))).toList).map
      (List.drop blanks) = ls.map String.toList := by
  have hlines : ∀ l ∈ ls.map (String.ofList (List.replicate blanks ' ') ++ ·),
      '\n' ∉ l.toList := by
    intro l hl
    obtain ⟨m, hm, rfl⟩ := List.mem_map.mp hl
    rw [String.toList_append, String.toList_ofList, List.mem_append]
    rintro (hblank | hmem)
    · exact absurd (List.eq_of_mem_replicate hblank) (by decide)
    · exact h m hm hmem
  rw [lines_unlines hlines, List.map_map, List.map_map]
  refine List.map_congr_left fun l _ => ?_
  simp only [Function.comp_apply, String.toList_append, String.toList_ofList]
  exact List.drop_left' (List.length_replicate ..)

/-- Texts of the same lines are the same without their blanks. -/
theorem SameLines.map_drop {blanks blanks' : Nat} {text text' : String}
    (h : SameLines blanks blanks' text text') :
    (lines text.toList).map (List.drop blanks) = (lines text'.toList).map (List.drop blanks') := by
  obtain ⟨ls, hls, rfl, rfl⟩ := h
  rw [map_drop_lines hls, map_drop_lines hls]

end Text

/-- The code of statements is the same lines at every level. -/
theorem Statement.sameLines (depth depth' : Nat) (ss : List Statement) :
    Text.SameLines (4 * depth) (4 * depth') (Text.unlines (linesAll depth ss))
      (Text.unlines (linesAll depth' ss)) := by
  refine ⟨linesAll 0 ss, Kotlin.newline_notMem_of_depthAfter (isNested_linesAll 0 ss), ?_, ?_⟩
  · rw [← indentation_eq, ← linesAll_add, Nat.add_zero]
  · rw [← indentation_eq, ← linesAll_add, Nat.add_zero]

/-! ### Two places -/

/-- The code of a document in two places: the same lines behind the indentation of the place, the
same text once that is taken away, and calls of the same elements. -/
structure ReadsAlike (depth depth' : Nat) (text text' : String) : Prop where
  lines : Text.SameLines (4 * depth) (4 * depth') text text'
  outdented : (Text.lines text.toList).map (List.drop (4 * depth)) =
    (Text.lines text'.toList).map (List.drop (4 * depth'))
  elements : Kotlin.heads (Text.lines text.toList) = Kotlin.heads (Text.lines text'.toList)

/-- Results of embedding a document in two places: code that reads alike, or none in both, and the
same context and memory of the resolver afterwards. -/
structure EmbedsAlike (depth depth' : Nat) (result result' : Option String × Scope σ) : Prop where
  code : Option.Rel (ReadsAlike depth depth') result.1 result'.1
  context : result.2.context = result'.2.context
  store : result.2.store = result'.2.store

theorem Statement.readsAlike (depth depth' : Nat) (ss : List Statement) :
    ReadsAlike depth depth' (Text.unlines (linesAll depth ss))
      (Text.unlines (linesAll depth' ss)) where
  lines := sameLines depth depth' ss
  outdented := (sameLines depth depth' ss).map_drop
  elements := by
    rw [lines_unlines_linesAll, lines_unlines_linesAll, heads_linesAll, heads_linesAll]

/-- An embedded document has a result, if there is room for one more than can be found. -/
theorem isSome_embedWithin {resolver : Resolver σ} {paths : List Path}
    (hpaths : ∀ found, resolver.Returns found → ∃ p ∈ paths, p.same found.path = true)
    (document : ResolvedDocument) (scope : Scope σ) :
    (HandlerTable.elements.embedWithin resolver Node.height (paths.length + 1) document
      scope).isSome := by
  have hshown : (shownContents resolver (paths.length + 1) document.relativePath
      (document.path :: scope.context.includeStack) document.tree scope.store).isSome :=
    Node.isSome_shownAll (fun found hfound hnew after =>
      isSome_shownContents hpaths (Path.room_le_length paths _) hfound hnew after)
        document.relativePath (fun _ => true) document.tree.children scope.store
  have hshows := (shows_contents resolver (paths.length + 1) (scope.standpoint.enter document)
    document.tree).isSome_eq scope.ledger
  rw [HandlerTable.embedWithin_elements]
  by_cases hrendering : scope.context.isRendering document.path = true
  · rw [if_pos hrendering]
    rfl
  · rw [if_neg hrendering, Option.isSome_map]
    exact hshows.trans hshown

/-- **Two places.** A document that is embedded in two places of one page gives the same lines in
both, behind the indentation of the place, and leaves the same context; or it is being read already
and gives nothing in both. Only bounds that are too low can keep it from giving a result. -/
theorem embed_alike (resolver : Resolver σ) (document : ResolvedDocument) (context : Context)
    (store : σ) (depth depth' : Nat) (ancestors ancestors' : List NodeKind) :
    (∀ embeds, Option.Rel (EmbedsAlike depth depth')
      (HandlerTable.elements.embedWithin resolver Node.height embeds document
        ⟨⟨context, depth, ancestors⟩, store⟩)
      (HandlerTable.elements.embedWithin resolver Node.height embeds document
        ⟨⟨context, depth', ancestors'⟩, store⟩)) ∧
    ∀ paths : List Path,
      (∀ found, resolver.Returns found → ∃ p ∈ paths, p.same found.path = true) →
        (HandlerTable.elements.embedWithin resolver Node.height (paths.length + 1) document
          ⟨⟨context, depth, ancestors⟩, store⟩).isSome := by
  refine ⟨fun embeds => ?_, fun paths hpaths => isSome_embedWithin hpaths document _⟩
  rw [HandlerTable.embedWithin_elements, HandlerTable.embedWithin_elements]
  dsimp only
  by_cases hrendering : context.isRendering document.path = true
  · rw [if_pos hrendering, if_pos hrendering]
    exact .some ⟨.none, rfl, rfl⟩
  · rw [if_neg hrendering, if_neg hrendering]
    cases contents resolver embeds
      ⟨document.relativePath, document.path :: context.includeStack, false⟩ document.tree
      ⟨context.headingCounts, context.warnings, store⟩ with
    | none => exact .none
    | some result =>
      exact .some ⟨.some (Statement.readsAlike depth depth' result.1), rfl, rfl⟩

/-- A document that holds a cell of a table and then itself, with its name. -/
def cellDocument : String × ResolvedDocument :=
  ("cell.md", ⟨⟨"/cell.md"⟩, "cell.md",
    ⟨.document, [⟨.tableCell, [.leaf (.text "1")]⟩, .leaf (.image "cell.md" "")]⟩⟩)

/-- What embedding the document in an index gives. -/
def embedCell (depth : Nat) (ancestors : List NodeKind) :
    Option (Option String × Scope Unit) :=
  HandlerTable.elements.embedWithin (Resolver.ofNamed [cellDocument]) Node.height 2 cellDocument.2
    ⟨⟨{ package := "", functionName := "Index" }, depth, ancestors⟩, ()⟩

/-- The document with the cell, in the head of a table and at the top of a page. -/
theorem embed_alike_of_cell :
    (∀ found, (Resolver.ofNamed [cellDocument] : Resolver Unit).Returns found →
      ∃ p ∈ [cellDocument.2.path], p.same found.path = true) ∧
    Option.Rel (EmbedsAlike 3 1) (embedCell 3 [.tableCell, .tableHead]) (embedCell 1 []) ∧
    (embedCell 3 [.tableCell, .tableHead]).isSome := by
  have hpaths : ∀ found, (Resolver.ofNamed [cellDocument] : Resolver Unit).Returns found →
      ∃ p ∈ [cellDocument.2.path], p.same found.path = true :=
    fun _ => Resolver.returns_ofNamed_singleton
  obtain ⟨halike, hends⟩ := embed_alike (Resolver.ofNamed [cellDocument]) cellDocument.2
    { package := "", functionName := "Index" } () 3 1 [.tableCell, .tableHead] []
  exact ⟨hpaths, halike 2, hends [cellDocument.2.path] hpaths⟩

end MarkdownPages
