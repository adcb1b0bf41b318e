import MarkdownPages.Document.FrontMatter
import MarkdownPages.Proofs.Page.Assembly
import MarkdownPages.Proofs.Text.Pieces

/-!
# The calls around a body

Two kinds of texts from outside get into the calls around the body of a page. The front matter and
the path of the document are quoted, so they may be anything. The name of the layout is not, and
neither are the package, the function and the imports: they have to be plain texts, which a line of
code can hold as they are. Front matter is checked when it is read, and the names that pass are
plain.

## Main definitions

* `Context.IsPlain` — a context with plain names

## Main results

* `Page.isBalanced_of_mem_calls` — the calls around a body close what they open
* `Page.isPlain_of_mem_imports` — every import of a page is plain
-/

namespace MarkdownPages

/-! ### Plain texts -/

namespace Kotlin

theorem isPlain_iff {s : String} : isPlain s = true ↔ ∀ c ∈ s.toList, isPlainChar c = true := by
  rw [isPlain, List.all_eq_true]

theorem isPlain_append {s t : String} (hs : isPlain s = true) (ht : isPlain t = true) :
    isPlain (s ++ t) = true := by
  rw [isPlain, String.toList_append, List.all_append, Bool.and_eq_true]
  exact ⟨hs, ht⟩

theorem isPlain_trimmed {s : String} (h : isPlain s = true) : isPlain (Text.trimmed s) = true := by
  rw [isPlain_iff, Text.trimmed, String.toList_ofList]
  intro c hc
  exact isPlain_iff.mp h c (Text.mem_of_mem_trim hc)

theorem isPlain_of_isIdentifierPart {s : String}
    (h : ∀ c ∈ s.toList, isIdentifierPart c = true) : isPlain s = true :=
  isPlain_iff.mpr fun c hc => isPlainChar_of_isIdentifierPart (h c hc)

end Kotlin

namespace Kotlin

theorem isPlainChar_of_isQualifiedName {s : List Char} (h : isQualifiedName s = true) {c : Char}
    (hc : c ∈ s) : isPlainChar c = true := by
  by_cases hdot : c = '.'
  · exact hdot ▸ rfl
  · exact isPlainChar_of_isIdentifierPart (isIdentifierPart_of_mem h hc hdot)

theorem isPlainChar_of_isShortcutName {s : List Char} (h : isShortcutName s = true) {c : Char}
    (hc : c ∈ s) : isPlainChar c = true := by
  unfold isShortcutName at h
  split at h
  case h_1 rest =>
    rcases List.mem_cons.mp hc with rfl | hc
    · rfl
    · exact isPlainChar_of_isQualifiedName h hc
  case h_2 => exact isPlainChar_of_isQualifiedName h hc

/-- A layout whose name is accepted has a plain name. -/
theorem isPlain_of_isRoot {root : String} (h : FrontMatter.isRoot root = true) :
    isPlain (Text.trimmed root) = true := by
  rw [isPlain_iff, Text.trimmed, String.toList_ofList]
  intro c hc
  rw [FrontMatter.isRoot, Bool.or_eq_true, List.isEmpty_iff] at h
  rcases h with hempty | hname
  · rw [hempty] at hc
    cases hc
  · exact isPlainChar_of_isShortcutName hname hc

theorem isPlain_resolveShortcut {group name : String} (hgroup : isPlain group = true)
    (hname : isPlain name = true) : isPlain (resolveShortcut group name) = true := by
  unfold resolveShortcut
  split
  case h_1 => exact hgroup
  case h_2 rest _ hrest =>
    have hplain : isPlain (String.ofList rest) = true := by
      rw [isPlain_iff, String.toList_ofList]
      intro c hc
      exact isPlain_iff.mp hname c (by rw [hrest]; exact List.mem_cons_of_mem _ hc)
    split
    · exact hplain
    · exact isPlain_append (isPlain_append hgroup rfl) hplain
  case h_3 => exact hname

/-! ### Lists of arguments -/

/-- Closed pieces with commas between them are closed. -/
theorem isClosed_intercalate {pieces : List String} (h : ∀ p ∈ pieces, IsClosed p.toList) :
    IsClosed (", ".intercalate pieces).toList := by
  induction pieces with
  | nil => exact IsBalanced.nil.isClosed
  | cons first rest ih =>
    have hfirst : IsClosed first.toList := h first (List.mem_cons_self ..)
    have hrest := ih fun p hp => h p (List.mem_cons_of_mem _ hp)
    cases rest with
    | nil => rwa [String.intercalate_singleton]
    | cons second more =>
      have hcomma : ∀ opened, scan (.code opened) ", ".toList = some (.code opened) ∧
          scan (.closed opened) ", ".toList = some (.code opened) := fun _ => ⟨rfl, rfl⟩
      have hbefore : IsBalanced ([] ++ first.toList ++ ", ".toList) :=
        hfirst.around fun opened => ⟨opened, rfl, hcomma opened⟩
      rw [List.nil_append] at hbefore
      rw [String.intercalate_cons_cons, String.toList_append, String.toList_append]
      intro opened
      rw [scan_append_of_eq_some (hbefore opened)]
      exact hrest opened

end Kotlin

namespace Page

open Kotlin

theorem isBalanced_dataEntry (key : String) (values : List String) :
    IsBalanced (dataEntry key values).toList := by
  have hvalues : IsClosed (", ".intercalate (values.map quoted)).toList := by
    refine isClosed_intercalate fun p hp => ?_
    obtain ⟨value, -, rfl⟩ := List.mem_map.mp hp
    exact isClosed_quoted value
  rw [dataEntry, String.toList_append, String.toList_append, String.toList_append]
  refine hvalues.around fun opened => ⟨.parenthesis :: opened, ?_, rfl, rfl⟩
  rw [scan_append_of_eq_some (scan_quoted opened key)]
  rfl

/-- The front matter is handed to the runtime as literals, whatever it holds. -/
theorem isBalanced_markdownContextCall (path : String) (frontMatter : FrontMatter) :
    IsBalanced (markdownContextCall path frontMatter).toList := by
  unfold markdownContextCall
  rw [String.toList_append, String.toList_append]
  refine IsClosed.around (isClosed_intercalate fun p hp => ?_) fun opened =>
    ⟨.parenthesis :: .parenthesis :: .parenthesis :: opened, ?_, rfl, rfl⟩
  · obtain ⟨⟨key, values⟩, -, rfl⟩ := List.mem_map.mp hp
    exact (isBalanced_dataEntry key values).isClosed
  -- the text is cut at its parentheses: the parts between them are plain and need no reading
  have hcall : "CompositionLocalProvider(LocalMarkdownContext provides MarkdownContext(".toList =
      "CompositionLocalProvider".toList ++ ('(' ::
        ("LocalMarkdownContext provides MarkdownContext".toList ++ ['('])) := by decide +kernel
  have hname : "CompositionLocalProvider".toList.all isPlainChar = true := by decide +kernel
  have hargument : "LocalMarkdownContext provides MarkdownContext".toList.all isPlainChar = true :=
    by decide +kernel
  have hbefore : scan (.code opened)
      ("CompositionLocalProvider".toList ++ ('(' ::
        ("LocalMarkdownContext provides MarkdownContext".toList ++ ['(']))) =
        some (.code (.parenthesis :: .parenthesis :: opened)) := by
    rw [scan_append_of_eq_some (scan_plain hname opened)]
    have hopen : ∀ opened, (Lexing.code opened).next '(' = some (.code (.parenthesis :: opened)) :=
      fun _ => rfl
    rw [scan_cons_of_eq_some (hopen opened), scan_append_of_eq_some (scan_plain hargument _),
      scan_cons_of_eq_some (hopen _), scan_nil]
  rw [← hcall] at hbefore
  rw [String.toList_append, String.toList_append, List.append_assoc,
    scan_append_of_eq_some hbefore, scan_append_of_eq_some (scan_quoted _ path)]
  rfl

end Page

/-! ### Plain contexts -/

/-- A context whose names a line of code can hold as they are. -/
structure Context.IsPlain (context : Context) : Prop where
  package : Kotlin.isPlain context.package = true
  functionName : Kotlin.isPlain context.functionName = true
  group : Kotlin.isPlain context.group = true
  defaultRoot : ∀ root ∈ context.defaultRoot, Kotlin.isPlain root = true
  imports : ∀ target ∈ context.imports, Kotlin.isPlain target = true

namespace Page

theorem isPlain_simpleName {qualified : String} (h : Kotlin.isPlain qualified = true) :
    Kotlin.isPlain (simpleName qualified) = true := by
  rw [simpleName]
  cases hcut : Text.cutLast '.' qualified.toList with
  | none => exact h
  | some parts =>
    obtain ⟨before, name⟩ := parts
    have hparts := Text.cutLast_eq_some hcut
    rw [Kotlin.isPlain_iff] at h ⊢
    dsimp only
    rw [String.toList_ofList]
    intro c hc
    refine h c ?_
    rw [hparts]
    exact List.mem_append_right _ (List.mem_cons_of_mem _ hc)

theorem isPlain_of_mem_baseImports : ∀ t ∈ baseImports, Kotlin.isPlain t = true := by
  decide +kernel

theorem isPlain_of_mem_markdownContextImports :
    ∀ t ∈ markdownContextImports, Kotlin.isPlain t = true := by
  decide +kernel

theorem isPlain_importOf {name : String}
    (h : ∀ c ∈ name.toList, Kotlin.isIdentifierPart c = true) :
    Kotlin.isPlain (importOf name) = true := by
  by_cases hlink : name = "Link"
  · subst hlink
    decide +kernel
  · rw [importOf_of_ne hlink, domImport]
    exact Kotlin.isPlain_append (by decide +kernel) (Kotlin.isPlain_of_isIdentifierPart h)

variable {tree : Node} {context : Context} (hcontext : context.IsPlain)
  (hroot : ∀ root ∈ (front tree).root, FrontMatter.isRoot root = true)

include hcontext hroot

/-- The name of a layout is plain: that of the project, and that of front matter that was
accepted. -/
theorem isPlain_layout {qualified : String} (h : layout? (front tree) context = some qualified) :
    Kotlin.isPlain qualified = true := by
  rw [layout?, Option.map_eq_some_iff] at h
  obtain ⟨root, hsome, rfl⟩ := h
  refine Kotlin.isPlain_resolveShortcut hcontext.group ?_
  rw [Option.filter_eq_some_iff] at hsome
  obtain ⟨hsome, -⟩ := hsome
  cases hfront : (front tree).root with
  | none =>
    rw [hfront] at hsome
    exact hcontext.defaultRoot root hsome
  | some named =>
    rw [hfront] at hsome
    obtain rfl : Text.trimmed named = root := Option.some.inj hsome
    exact Kotlin.isPlain_of_isRoot (hroot named hfront)

/-- The calls around the body of a page close what they open. -/
theorem isBalanced_of_mem_calls {call : String} (h : call ∈ calls tree context) :
    Kotlin.IsBalanced call.toList := by
  rw [calls, List.mem_append] at h
  rcases h with h | h
  · split at h
    · rw [List.mem_singleton] at h
      rw [h]
      exact isBalanced_markdownContextCall context.sourcePath (front tree)
    · cases h
  · rw [Option.mem_toList, Option.map_eq_some_iff] at h
    obtain ⟨qualified, hlayout, rfl⟩ := h
    exact .of_plain (isPlain_simpleName (isPlain_layout hcontext hroot hlayout))

/-- Every import of a page is plain, if those that the front matter names are. -/
theorem isPlain_of_mem_imports {σ : Type} (resolver : Resolver σ) (documents : Nat) (store : σ)
    (himports : ∀ target ∈ (front tree).imports, Kotlin.isPlain target = true) {target : String}
    (h : target ∈ (render .elements resolver documents tree context store).2.1.imports) :
    Kotlin.isPlain target = true := by
  have hopening : ∀ t ∈ openingImports tree context, Kotlin.isPlain t = true := by
    intro t ht
    rw [openingImports, List.mem_append, List.mem_append, List.mem_append] at ht
    rcases ht with ((hbase | hfront) | hruntime) | hlayout
    · exact isPlain_of_mem_baseImports t hbase
    · exact himports t hfront
    · split at hruntime
      · exact isPlain_of_mem_markdownContextImports t hruntime
      · cases hruntime
    · exact isPlain_layout hcontext hroot ((mem_layoutImports tree context).mp hlayout).1
  have hcalled : ∀ t ∈ (called resolver documents tree context store).map importOf,
      Kotlin.isPlain t = true := by
    intro t ht
    obtain ⟨name, hname, rfl⟩ := List.mem_map.mp ht
    exact isPlain_importOf (Kotlin.isIdentifierPart_of_mem_heads hname).2
  rw [render_imports, mem_foldl_gather, mem_normalised] at h
  rcases h with h | ⟨-, t, ht, rfl⟩
  · exact hcontext.imports target h
  · exact Kotlin.isPlain_trimmed ((List.mem_append.mp ht).elim (hopening t) (hcalled t))

end Page

end MarkdownPages
