import MarkdownPages.Proofs.Page.Assembly

/-!
# The imports of a page

Imports are gathered by one operation and calls are printed by another, so nothing in the shape of
a handler says that the two belong together. They do: an element is imported if and only if a line
of the body calls it.

Which elements are called is read off the generated code, not off the document, and the body counts
without the calls around it, whose imports have a rule of their own.

## Main results

* `Page.mem_imports_iff` — the imports of a page, as a set
-/

namespace MarkdownPages

namespace Page

variable {σ : Type} (resolver : Resolver σ) (documents : Nat) (tree : Node) (context : Context)
  (store : σ)

/-! ### What is imported before the body -/

theorem mem_normalised_openingImports {x : String} :
    x ∈ normalised (openingImports tree context) ↔
      x ∈ baseImports ∨ x ∈ normalised (front tree).imports ∨
        (context.markdownArtifact = true ∧ x ∈ markdownContextImports) ∨
        ∃ qualified, layout? (front tree) context = some qualified ∧ '.' ∈ qualified.toList ∧
          x ∈ normalised [qualified] := by
  have hbase : normalised baseImports = baseImports := by decide
  have hartifact : normalised markdownContextImports = markdownContextImports := by decide
  have hruntime : x ∈ normalised (if context.markdownArtifact then markdownContextImports else []) ↔
      context.markdownArtifact = true ∧ x ∈ markdownContextImports := by
    by_cases h : context.markdownArtifact = true
    · rw [if_pos h, hartifact]
      simp [h]
    · rw [if_neg h]
      simp [h, normalised]
  have hlayout : x ∈ normalised (layoutImports tree context) ↔
      ∃ qualified, layout? (front tree) context = some qualified ∧ '.' ∈ qualified.toList ∧
        x ∈ normalised [qualified] := by
    simp only [mem_normalised, mem_layoutImports, List.mem_singleton]
    constructor
    · rintro ⟨hne, qualified, ⟨hsome, hdot⟩, htrim⟩
      exact ⟨qualified, hsome, hdot, hne, qualified, rfl, htrim⟩
    · rintro ⟨qualified, hsome, hdot, hne, _, rfl, htrim⟩
      exact ⟨hne, _, ⟨hsome, hdot⟩, htrim⟩
  rw [openingImports, normalised_append, normalised_append, normalised_append, List.mem_append,
    List.mem_append, List.mem_append, hbase, hruntime, hlayout, or_assoc, or_assoc]

/-! ### What the body imports -/

/-- The imports of elements, which are gathered as they are. -/
theorem mem_normalised_importOf {names : List String} {x : String}
    (h : ∀ name ∈ names, name ≠ "" ∧ ∀ c ∈ name.toList, Kotlin.isIdentifierPart c = true) :
    x ∈ normalised (names.map importOf) ↔
      (∃ name ∈ names, name ≠ "Link" ∧ x = domImport name) ∨ ("Link" ∈ names ∧ x = silkLink) := by
  have hself : normalised (names.map importOf) = names.map importOf := by
    refine normalised_eq_self fun target htarget => ?_
    obtain ⟨name, hname, rfl⟩ := List.mem_map.mp htarget
    exact ⟨trimmed_importOf (h name hname).2 (h name hname).1, importOf_ne_empty name⟩
  rw [hself, List.mem_map]
  constructor
  · rintro ⟨name, hname, rfl⟩
    by_cases hlink : name = "Link"
    · subst hlink
      exact .inr ⟨hname, if_pos rfl⟩
    · exact .inl ⟨name, hname, hlink, importOf_of_ne hlink⟩
  · rintro (⟨name, hname, hlink, rfl⟩ | ⟨hname, rfl⟩)
    · exact ⟨name, hname, importOf_of_ne hlink⟩
    · exact ⟨"Link", hname, if_pos rfl⟩

/-- **Imports.** The imports of a page: those it starts with, those of every page, those that the
front matter of the document names, those of the runtime if it is at hand, that of the layout if its
name is qualified, and that of every element that a line of the body calls. -/
theorem mem_imports_iff (x : String) :
    x ∈ (render .elements resolver documents tree context store).2.1.imports ↔
      x ∈ context.imports ∨ x ∈ baseImports ∨ x ∈ normalised (front tree).imports ∨
        (context.markdownArtifact = true ∧ x ∈ markdownContextImports) ∨
        (∃ qualified, layout? (front tree) context = some qualified ∧ '.' ∈ qualified.toList ∧
          x ∈ normalised [qualified]) ∨
        (∃ name ∈ called resolver documents tree context store,
          name ≠ "Link" ∧ x = domImport name) ∨
        ("Link" ∈ called resolver documents tree context store ∧ x = silkLink) := by
  have hnames : ∀ name ∈ called resolver documents tree context store,
      name ≠ "" ∧ ∀ c ∈ name.toList, Kotlin.isIdentifierPart c = true :=
    fun _ hname => Kotlin.isIdentifierPart_of_mem_heads hname
  rw [render_imports, mem_foldl_gather, normalised_append, List.mem_append,
    mem_normalised_openingImports, mem_normalised_importOf hnames]
  simp only [or_assoc]

end Page

end MarkdownPages
