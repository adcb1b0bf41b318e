import MarkdownPages.Proofs.Page.Wrapping

/-!
# The shape of a page

The source of a page is a package, imports, and one function. Nothing that a document holds can
change this shape: every line of the source reads as a line of code by itself, the blocks that lines
open nest, and the function is closed by the last line.

Texts are quoted where they get into the code, but names are not. The names come from the project
and from the front matter, so what is said here holds for plain names. Front matter that is read
from a document has plain names because it is checked then; the renderer does not check it again.

## Main definitions

* `Page.wrapAll` — the lines of a body inside calls
* `Page.sourceLines` — the lines of a source file
* `Page.bodyLines` — the lines of the body of a page

## Main results

* `Page.assemble_unlines` — a source file is written line by line
* `Page.render_lines` — the shape of the source of a page
-/

namespace MarkdownPages

namespace Page

open Kotlin

/-! ### The body inside its calls -/

/-- The lines of a body inside calls, the first of which stands at `depth`. -/
def wrapAll (body : List String) (depth : Nat) : List String → List String
  | [] => body
  | call :: inner => wrapLines depth call (wrapAll body (depth + 1) inner)

theorem wrapBody_unlines (body : List String) (depth : Nat) (outer : List String) :
    wrapBody (Text.unlines body) depth outer = Text.unlines (wrapAll body depth outer) := by
  induction outer generalizing depth with
  | nil => rfl
  | cons call inner ih =>
    rw [wrapBody, wrapAll, Rendering.unlines_wrapLines, ih]

theorem isNested_wrapAll {body : List String} {depth : Nat} {outer : List String}
    (houter : ∀ call ∈ outer, IsBalanced call.toList)
    (hbody : IsNested (depth + outer.length) body) : IsNested depth (wrapAll body depth outer) := by
  induction outer generalizing depth with
  | nil => exact hbody
  | cons call inner ih =>
    have hinner : IsNested (depth + 1 + inner.length) body := by
      rwa [List.length_cons, Nat.add_comm inner.length 1, ← Nat.add_assoc] at hbody
    rw [wrapAll]
    exact .wrap (houter call (List.mem_cons_self ..))
      (ih (fun c hc => houter c (List.mem_cons_of_mem _ hc)) hinner)

/-! ### The lines of a source file -/

/-- The lines of a source file that declares one function with the given body. -/
def sourceLines (package functionName : String) (imports body : List String) : List String :=
  (if package.isEmpty then [] else ["package " ++ package, ""]) ++
    imports.map ("import " ++ ·) ++
    ["", "@Page", "@Composable", "fun " ++ functionName ++ "() \x7b"] ++ body ++ ["\x7d"]

theorem join_imports (imports : List String) :
    String.join (imports.map fun target => "import " ++ target ++ "\n") =
      Text.unlines (imports.map ("import " ++ ·)) := by
  rw [Text.unlines, List.map_map]
  rfl

theorem unlines_package (package : String) :
    Text.unlines (if package.isEmpty then [] else ["package " ++ package, ""]) =
      if package.isEmpty then "" else "package " ++ package ++ "\n\n" := by
  have hbreaks : "\n\n" = "\n" ++ "\n" := by decide
  by_cases h : package.isEmpty = true
  · rw [if_pos h, if_pos h, Text.unlines_nil]
  · rw [if_neg h, if_neg h, hbreaks]
    simp only [Text.unlines_cons, Text.unlines_nil, String.append_empty, String.empty_append,
      String.append_assoc]

/-- A source file is written line by line. -/
theorem assemble_unlines (context : Context) (body : List String) :
    assemble context (Text.unlines body) =
      Text.unlines (sourceLines context.package context.functionName context.imports body) := by
  have hmarks : "\n@Page\n@Composable\nfun " =
      "\n" ++ ("@Page" ++ ("\n" ++ ("@Composable" ++ ("\n" ++ "fun ")))) := by decide
  have hopen : "() \x7b\n" = "() \x7b" ++ "\n" := by decide
  have hclose : "\x7d\n" = "\x7d" ++ "\n" := by decide
  rw [assemble, sourceLines, join_imports, hmarks, hopen, hclose]
  simp only [Text.unlines_append, unlines_package, Text.unlines_cons, Text.unlines_nil,
    String.append_empty, String.empty_append, String.append_assoc]

/-! ### Reading a source file -/

/-- A balanced line outside all blocks is nested. -/
theorem isNested_singleton {line : String} (h : IsBalanced line.toList) : IsNested 0 [line] := by
  have hline := IsNested.line h 0
  rwa [show indentation 0 = "" from rfl, String.empty_append] at hline

theorem isNested_of_forall {ls : List String} (h : ∀ l ∈ ls, IsBalanced l.toList) :
    IsNested 0 ls := by
  induction ls with
  | nil => exact .nil 0
  | cons l ls ih =>
    exact (isNested_singleton (h l (List.mem_cons_self ..))).append
      (ih fun m hm => h m (List.mem_cons_of_mem _ hm))

theorem isBalanced_append_plain {start name : String} (hstart : isPlain start = true)
    (hname : isPlain name = true) : IsBalanced (start ++ name).toList :=
  .of_plain (isPlain_append hstart hname)

/-- A function around nested lines is nested. Its brace is closed on a line of its own even if
there are none. -/
theorem isNested_function {call : String} {body : List String} (hcall : IsBalanced call.toList)
    (hbody : IsNested 1 body) : IsNested 0 ((call ++ " \x7b") :: (body ++ ["\x7d"])) := by
  have hopen := nextDepth_opening hcall 0
  have hclose := nextDepth_closing 0
  rw [show (indentation 0).toList = [] from rfl, List.nil_append] at hopen hclose
  rw [IsNested, depthAfter_cons, String.toList_append]
  change (nextDepth 0 (_ ++ [' ', '\x7b'])).bind _ = _
  rw [hopen, Option.bind_some, depthAfter_append, hbody, Option.bind_some, depthAfter_cons]
  change (nextDepth 1 ['\x7d']).bind _ = _
  rw [hclose]
  rfl

/-- A source file with plain names around a nested body is nested. -/
theorem isNested_sourceLines {package functionName : String} {imports body : List String}
    (hpackage : isPlain package = true) (hfunction : isPlain functionName = true)
    (himports : ∀ target ∈ imports, isPlain target = true) (hbody : IsNested 1 body) :
    IsNested 0 (sourceLines package functionName imports body) := by
  have hhead : IsNested 0 (if package.isEmpty then [] else ["package " ++ package, ""]) := by
    split
    · exact .nil 0
    · exact (isNested_singleton (isBalanced_append_plain rfl hpackage)).append
        (isNested_singleton .nil)
  have hlist : IsNested 0 (imports.map ("import " ++ ·)) := by
    refine isNested_of_forall fun l hl => ?_
    obtain ⟨target, htarget, rfl⟩ := List.mem_map.mp hl
    exact isBalanced_append_plain rfl (himports target htarget)
  have hmarks : IsNested 0 ["", "@Page", "@Composable"] :=
    isNested_of_forall fun l hl => .of_plain ((by decide : ∀ l ∈ ["", "@Page", "@Composable"],
      isPlain l = true) l hl)
  have hname : IsBalanced ("fun " ++ functionName ++ "()").toList := by
    rw [String.toList_append]
    exact (isBalanced_append_plain rfl hfunction).append fun _ => rfl
  have hcode : "fun " ++ functionName ++ "() \x7b" = "fun " ++ functionName ++ "()" ++ " \x7b" := by
    have hbrace : "() \x7b" = "()" ++ " \x7b" := by decide
    rw [hbrace, ← String.append_assoc]
  have hlines : sourceLines package functionName imports body =
      (if package.isEmpty then [] else ["package " ++ package, ""]) ++
        imports.map ("import " ++ ·) ++ (["", "@Page", "@Composable"] ++
          ("fun " ++ functionName ++ "()" ++ " \x7b") :: (body ++ ["\x7d"])) := by
    rw [sourceLines, hcode, List.append_assoc, List.append_assoc]
    rfl
  rw [hlines]
  exact (hhead.append hlist).append (hmarks.append (isNested_function hname hbody))

/-! ### The source of a page -/

section Source

variable {σ : Type} (resolver : Resolver σ) (documents : Nat) (tree : Node) (context : Context)
  (store : σ)

/-- The lines of the body of a page inside the calls around it. -/
def bodyLines : List String :=
  wrapAll (Statement.linesAll ((calls tree context).length + 1)
    (statements resolver documents tree context store).1) 1 (calls tree context)

theorem unlines_bodyLines : Text.unlines (bodyLines resolver documents tree context store) =
    wrapBody (body .elements resolver documents tree context store).1 1 (calls tree context) := by
  rw [body_elements, bodyLines, ← wrapBody_unlines]
  dsimp only [Scope.finish, bodyScope]

/-- The package and the name of the function are those of the context before the body. -/
theorem render_source : (render .elements resolver documents tree context store).1.source =
    Text.unlines (sourceLines context.package context.functionName
      (render .elements resolver documents tree context store).2.1.imports
      (bodyLines resolver documents tree context store)) := by
  have hpackage : (body .elements resolver documents tree context store).2.context.package =
      context.package := by
    rw [body_elements]
    dsimp only [Scope.finish, Scope.after, bodyScope, opening]
  have hfunction : (body .elements resolver documents tree context store).2.context.functionName =
      context.functionName := by
    rw [body_elements]
    dsimp only [Scope.finish, Scope.after, bodyScope, opening]
  rw [render_eq, ← unlines_bodyLines, assemble_unlines, hpackage, hfunction]

variable {tree context}

theorem isNested_bodyLines (hcontext : context.IsPlain)
    (hroot : ∀ root ∈ (front tree).root, FrontMatter.isRoot root = true) :
    IsNested 1 (bodyLines resolver documents tree context store) := by
  refine isNested_wrapAll (fun call hcall => isBalanced_of_mem_calls hcontext hroot hcall) ?_
  rw [Nat.add_comm 1]
  exact Statement.isNested_linesAll _ _

/-- **Shape.** The source of a page, for plain names in the context and in the front matter. The
body is read back line by line: each line is code by itself, and the blocks that lines open nest. -/
theorem render_lines (hcontext : context.IsPlain) (hascending : context.imports.Pairwise (· < ·))
    (hroot : ∀ root ∈ (front tree).root, FrontMatter.isRoot root = true)
    (himports : ∀ target ∈ (front tree).imports, isPlain target = true) :
    ∃ lines, Text.unlines lines = wrapBody
        (body .elements resolver documents tree context store).1 1 (calls tree context) ∧
      IsNested 1 lines ∧
      Text.lines (render .elements resolver documents tree context store).1.source.toList =
        (sourceLines context.package context.functionName
          (render .elements resolver documents tree context store).2.1.imports lines).map
            String.toList ∧
      (render .elements resolver documents tree context store).2.1.imports.Pairwise (· < ·) ∧
      IsNested 0 (sourceLines context.package context.functionName
        (render .elements resolver documents tree context store).2.1.imports lines) := by
  have hbody := isNested_bodyLines resolver documents store hcontext hroot
  have hplain : ∀ target ∈ (render .elements resolver documents tree context store).2.1.imports,
      isPlain target = true :=
    fun _ htarget => isPlain_of_mem_imports hcontext hroot resolver documents store himports htarget
  have hnested := isNested_sourceLines hcontext.package hcontext.functionName hplain hbody
  refine ⟨_, unlines_bodyLines resolver documents tree context store, hbody, ?_, ?_, hnested⟩
  · rw [render_source, Text.lines_unlines (newline_notMem_of_depthAfter hnested)]
  · rw [render_imports]
    exact pairwise_foldl_gather _ hascending

end Source

/-- A document with a text that could be taken for code. -/
private def quotedDocument : Node :=
  ⟨.document, [
    .leaf (.frontMatter { root := some ".Layout", imports := ["widgets.Note"] }),
    ⟨.paragraph, [.leaf (.text "a\"b$\x7bc\x7d \x7b")]⟩]⟩

private def seededContext : Context where
  package := "site"
  functionName := "IndexPage"
  group := "app"
  imports := ["app.Theme", "app.Wide"]

/-- The shape of a page that starts with imports, in the layout that its front matter names. -/
theorem render_lines_of_layout :
    let page := render .elements Resolver.nothing 1 quotedDocument seededContext ()
    seededContext.IsPlain ∧ seededContext.imports.Pairwise (· < ·) ∧
      (∀ root ∈ (front quotedDocument).root, FrontMatter.isRoot root = true) ∧
      (∀ target ∈ (front quotedDocument).imports, isPlain target = true) ∧
      ∃ lines, Text.unlines lines = wrapBody
          (body .elements Resolver.nothing 1 quotedDocument seededContext ()).1 1
          (calls quotedDocument seededContext) ∧
        IsNested 1 lines ∧
        Text.lines page.1.source.toList =
          (sourceLines "site" "IndexPage" page.2.1.imports lines).map String.toList ∧
        page.2.1.imports.Pairwise (· < ·) ∧
        IsNested 0 (sourceLines "site" "IndexPage" page.2.1.imports lines) := by
  have hcontext : seededContext.IsPlain :=
    ⟨by decide, by decide, by decide, by decide, by decide⟩
  have hascending : seededContext.imports.Pairwise (· < ·) := by decide
  have hroot : ∀ root ∈ (front quotedDocument).root, FrontMatter.isRoot root = true := by decide
  have himports : ∀ target ∈ (front quotedDocument).imports, isPlain target = true := by decide
  exact ⟨hcontext, hascending, hroot, himports,
    render_lines Resolver.nothing 1 () hcontext hascending hroot himports⟩

/-- Front matter that was not read from a text may hold an import that is no name. The literal that
its quote opens is not closed on the line of the import. -/
theorem literal_of_unchecked_import :
    (∀ root ∈ (front ⟨.document, [.leaf (.frontMatter { imports := ["a\"b"] })]⟩).root,
      FrontMatter.isRoot root = true) ∧
    ({ package := "p", functionName := "F" } : Context).IsPlain ∧
    ∃ line ∈ Text.lines (render .elements Resolver.nothing 1
        ⟨.document, [.leaf (.frontMatter { imports := ["a\"b"] })]⟩
        { package := "p", functionName := "F" } ()).1.source.toList,
      scan (.code []) line = some (.literal []) := by
  refine ⟨by decide, ⟨by decide, by decide, by decide, by simp, by simp⟩, ?_⟩
  decide +kernel

end Page

end MarkdownPages
