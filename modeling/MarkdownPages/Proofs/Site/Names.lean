import MarkdownPages.Proofs.Text.CaseMap
import MarkdownPages.Site.Names

/-!
# Derived names are no keywords and start with no digit

Whatever a document or a directory is called, the name that is derived from it has at least one
character, does not start with an ASCII digit, and is no keyword: a digit gets an underscore in
front of it, a keyword gets one behind it, and the name of a function ends like no keyword does.

## Main definitions

* `Site.segmentBody` — a package segment before it is told apart from keywords

## Main results

* `Site.packageSegment_cases` — a package segment is its body, with an underscore behind a keyword
* `Site.packageSegment_notMem_keywords`, `Site.pageFunctionName_notMem_keywords`
* `Site.isAsciiDigit_head?_guardDigit` — no digit stands in front
-/

namespace MarkdownPages

namespace Site

/-! ### Digits in front -/

theorem guardDigit_ne_nil {cs : List Char} (h : cs ≠ []) : guardDigit cs ≠ [] := by
  cases cs with
  | nil => exact absurd rfl h
  | cons c rest =>
    rw [guardDigit]
    split <;> simp

/-- What is guarded is kept, with an underscore in front if it starts with a digit. -/
theorem guardDigit_cases (cs : List Char) :
    (guardDigit cs = cs ∧ ∀ c, cs.head? = some c → Text.isAsciiDigit c = false) ∨
      (guardDigit cs = '_' :: cs ∧ ∃ c, cs.head? = some c ∧ Text.isAsciiDigit c = true) := by
  cases cs with
  | nil => exact .inl ⟨rfl, by simp⟩
  | cons c rest =>
    rw [guardDigit]
    cases hc : Text.isAsciiDigit c with
    | true => exact .inr ⟨rfl, c, rfl, hc⟩
    | false => exact .inl ⟨rfl, by simpa using hc⟩

theorem mem_guardDigit {cs : List Char} {d : Char} (h : d ∈ guardDigit cs) : d = '_' ∨ d ∈ cs := by
  rcases guardDigit_cases cs with ⟨heq, -⟩ | ⟨heq, -⟩
  · exact .inr (heq ▸ h)
  · exact List.mem_cons.mp (heq ▸ h)

theorem isAsciiDigit_head?_guardDigit {cs : List Char} {c : Char}
    (h : (guardDigit cs).head? = some c) : Text.isAsciiDigit c = false := by
  rcases guardDigit_cases cs with ⟨heq, hfree⟩ | ⟨heq, -⟩
  · exact hfree c (heq ▸ h)
  · rw [heq] at h
    obtain rfl := Option.some.inj h
    rfl

/-! ### Package segments -/

/-- The characters of a package segment, before it is told apart from keywords. -/
def segmentBody (directory : String) : List Char :=
  match directory.toList.flatMap segmentChar with
  | [] => ['_']
  | cs => guardDigit cs

theorem segmentBody_of_eq_nil {directory : String} (h : directory.toList.flatMap segmentChar = []) :
    segmentBody directory = ['_'] := by
  rw [segmentBody, h]

theorem segmentBody_of_ne_nil {directory : String} (h : directory.toList.flatMap segmentChar ≠ []) :
    segmentBody directory = guardDigit (directory.toList.flatMap segmentChar) := by
  rw [segmentBody]
  split
  · contradiction
  · rfl

theorem segmentBody_ne_nil (directory : String) : segmentBody directory ≠ [] := by
  by_cases h : directory.toList.flatMap segmentChar = []
  · rw [segmentBody_of_eq_nil h]
    exact List.cons_ne_nil _ _
  · rw [segmentBody_of_ne_nil h]
    exact guardDigit_ne_nil h

theorem mem_segmentBody {directory : String} {d : Char} (h : d ∈ segmentBody directory) :
    d = '_' ∨ ∃ c ∈ directory.toList, d ∈ segmentChar c := by
  by_cases hnil : directory.toList.flatMap segmentChar = []
  · rw [segmentBody_of_eq_nil hnil] at h
    exact .inl (List.mem_singleton.mp h)
  · rw [segmentBody_of_ne_nil hnil] at h
    exact (mem_guardDigit h).imp_right List.mem_flatMap.mp

theorem isAsciiDigit_head?_segmentBody {directory : String} {c : Char}
    (h : (segmentBody directory).head? = some c) : Text.isAsciiDigit c = false := by
  by_cases hnil : directory.toList.flatMap segmentChar = []
  · rw [segmentBody_of_eq_nil hnil] at h
    obtain rfl := Option.some.inj h
    rfl
  · rw [segmentBody_of_ne_nil hnil] at h
    exact isAsciiDigit_head?_guardDigit h

/-- A package segment is its body, with an underscore behind it if the body is a keyword. -/
theorem packageSegment_cases (directory : String) :
    ((packageSegment directory).toList = segmentBody directory ∧
      packageSegment directory ∉ Kotlin.keywords) ∨
    ((packageSegment directory).toList = segmentBody directory ++ ['_'] ∧
      String.ofList (segmentBody directory) ∈ Kotlin.keywords) := by
  have heq : packageSegment directory =
      if Kotlin.keywords.contains (String.ofList (segmentBody directory)) then
        String.ofList (segmentBody directory) ++ "_"
      else String.ofList (segmentBody directory) := by
    rw [packageSegment, segmentBody]
    cases directory.toList.flatMap segmentChar <;> rfl
  rw [heq]
  split
  case isTrue hkeyword =>
    exact .inr ⟨by simp, List.contains_iff_mem.mp hkeyword⟩
  case isFalse hkeyword =>
    exact .inl ⟨String.toList_ofList, fun hmem => hkeyword (List.contains_iff_mem.mpr hmem)⟩

theorem packageSegment_ne_empty (directory : String) : packageSegment directory ≠ "" := by
  intro h
  have hnil : (packageSegment directory).toList = [] := by rw [h, String.toList_empty]
  rcases packageSegment_cases directory with ⟨heq, -⟩ | ⟨heq, -⟩
  · exact segmentBody_ne_nil directory (heq ▸ hnil)
  · simp [heq] at hnil

theorem packageSegment_notMem_keywords (directory : String) :
    packageSegment directory ∉ Kotlin.keywords := by
  have hlast : ∀ keyword ∈ Kotlin.keywords, keyword.toList.getLast? ≠ some '_' := by decide
  rcases packageSegment_cases directory with ⟨-, hfree⟩ | ⟨heq, -⟩
  · exact hfree
  · refine fun hmem => hlast _ hmem ?_
    rw [heq, List.getLast?_append]
    rfl

theorem head?_packageSegment (directory : String) :
    (packageSegment directory).toList.head? = (segmentBody directory).head? := by
  obtain ⟨c, rest, hcons⟩ := List.exists_cons_of_ne_nil (segmentBody_ne_nil directory)
  rcases packageSegment_cases directory with ⟨heq, -⟩ | ⟨heq, -⟩
  · rw [heq]
  · rw [heq, hcons]
    rfl

theorem mem_packageSegment {directory : String} {d : Char}
    (h : d ∈ (packageSegment directory).toList) : d = '_' ∨ d ∈ segmentBody directory := by
  rcases packageSegment_cases directory with ⟨heq, -⟩ | ⟨heq, -⟩
  · exact .inr (heq ▸ h)
  · rw [heq, List.mem_append, List.mem_singleton] at h
    exact h.symm

/-! ### Functions -/

theorem toList_pageFunctionName (stem : String) : (pageFunctionName stem).toList =
    guardDigit (capitalizedWords stem.toList) ++ ['P', 'a', 'g', 'e'] := by
  rw [pageFunctionName, String.toList_append, String.toList_ofList]
  rfl

theorem pageFunctionName_ne_empty (stem : String) : pageFunctionName stem ≠ "" := by
  simp [pageFunctionName]

theorem pageFunctionName_notMem_keywords (stem : String) :
    pageFunctionName stem ∉ Kotlin.keywords := by
  have hsuffix : ∀ keyword ∈ Kotlin.keywords, ¬ ['P', 'a', 'g', 'e'] <:+ keyword.toList := by decide
  refine fun hmem => hsuffix _ hmem ?_
  rw [toList_pageFunctionName]
  exact List.suffix_append _ _

end Site

end MarkdownPages
