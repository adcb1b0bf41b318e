import MarkdownPages.Proofs.Site.Names
import MarkdownPages.Proofs.Text.Category
import MarkdownPages.Proofs.Text.Pieces

/-!
# Which derived names are identifiers

The names of packages and functions are derived from those of directories and files. They are never
empty, never keywords, and have no ASCII digit in front, but they keep every character that counts
as alphanumeric, and an identifier may hold letters, decimal digits and underscores only. So whether
the derived name is an identifier depends on the characters of the given one.

A package segment keeps its characters in lower case, and the name of a function has the first
character of each word in upper case. Changing the case makes a difference for few characters only.

## Main definitions

* `Kotlin.IsBareIdentifier` — a name that needs no quotes
* `Site.SpellsSegment` — the directories whose package segments are identifiers
* `Site.SpellsWord` — the words that can be spelled with a capital
* `Site.SpellsFunction` — the stems whose functions have identifiers for names

## Main results

* `Site.isBareIdentifier_iff` — the names that give identifiers, as a segment and as a function
-/

namespace MarkdownPages

namespace Kotlin

/-- What a name may start with: an underscore or a letter. -/
def isNameStart (c : Char) : Bool := c == '_' || Text.isLetter c

/-- A name that stands in code without quotes: an underscore or a letter, followed by letters,
decimal digits and underscores, and no keyword. -/
structure IsBareIdentifier (name : String) : Prop where
  start : name.toList.head?.any isNameStart = true
  parts : name.toList.all Text.isWordChar = true
  notKeyword : name ∉ keywords

end Kotlin

namespace Site

/-! ### Guarded digits -/

theorem any_isNameStart_head?_guardDigit (cs : List Char) :
    (guardDigit cs).head?.any Kotlin.isNameStart = cs.head?.any Text.isLead := by
  cases cs with
  | nil => rfl
  | cons c rest =>
    have hlead : Text.isLead c = (Kotlin.isNameStart c || Text.isAsciiDigit c) := rfl
    rw [guardDigit]
    cases hc : Text.isAsciiDigit c with
    | true => simp [hlead, hc, Kotlin.isNameStart]
    | false => simp [hlead, hc]

theorem all_isWordChar_guardDigit (cs : List Char) :
    (guardDigit cs).all Text.isWordChar = cs.all Text.isWordChar := by
  rcases guardDigit_cases cs with ⟨heq, -⟩ | ⟨heq, -⟩
  · rw [heq]
  · rw [heq, List.all_cons]
    rfl

/-! ### Package segments -/

/-- The characters of a directory name are those that its package segment can be spelled with. -/
structure SpellsSegment (directory : String) : Prop where
  /-- The first character that gives something is a separator, a letter or an ASCII digit. -/
  start : ∀ c, directory.toList.find? (fun c => !(segmentChar c).isEmpty) = some c →
    Text.isAlphanumeric c = true → Text.isLead c = true
  /-- What is kept is kept as a letter or a digit. -/
  parts : ∀ c ∈ directory.toList, Text.isAlphanumeric c = true → Text.isWordChar c = true ∧ c ≠ 'İ'

theorem all_isWordChar_segmentChar (c : Char) : (segmentChar c).all Text.isWordChar = true ↔
    (Text.isAlphanumeric c = true → Text.isWordChar c = true ∧ c ≠ 'İ') := by
  rw [segmentChar]
  split
  case isTrue halphanumeric =>
    rw [Text.all_isWordChar_toLower]
    exact ⟨fun h _ => h, fun h => h halphanumeric⟩
  case isFalse halphanumeric =>
    refine ⟨fun _ h => absurd h halphanumeric, fun _ => ?_⟩
    split <;> rfl

theorem all_isLead_head?_segmentChar (c : Char) : (segmentChar c).head?.all Text.isLead = true ↔
    (Text.isAlphanumeric c = true → Text.isLead c = true) := by
  rw [segmentChar]
  split
  case isTrue halphanumeric =>
    rw [Text.all_isLead_head?_toLower]
    exact ⟨fun h _ => h, fun h => h halphanumeric⟩
  case isFalse halphanumeric =>
    refine ⟨fun _ h => absurd h halphanumeric, fun _ => ?_⟩
    split <;> rfl

theorem all_isWordChar_packageSegment (directory : String) :
    (packageSegment directory).toList.all Text.isWordChar =
      (directory.toList.flatMap segmentChar).all Text.isWordChar := by
  have hbody : (segmentBody directory).all Text.isWordChar =
      (directory.toList.flatMap segmentChar).all Text.isWordChar := by
    by_cases hnil : directory.toList.flatMap segmentChar = []
    · rw [segmentBody_of_eq_nil hnil, hnil]
      rfl
    · rw [segmentBody_of_ne_nil hnil, all_isWordChar_guardDigit]
  rcases packageSegment_cases directory with ⟨heq, -⟩ | ⟨heq, -⟩
  · rw [heq, hbody]
  · rw [heq, List.all_append, hbody, Bool.and_eq_left_iff_imp]
    exact fun _ => rfl

theorem any_isNameStart_head?_packageSegment (directory : String) :
    (packageSegment directory).toList.head?.any Kotlin.isNameStart =
      (directory.toList.flatMap segmentChar).head?.all Text.isLead := by
  rw [head?_packageSegment]
  by_cases hnil : directory.toList.flatMap segmentChar = []
  · rw [segmentBody_of_eq_nil hnil, hnil]
    rfl
  · rw [segmentBody_of_ne_nil hnil, any_isNameStart_head?_guardDigit]
    obtain ⟨c, rest, hcons⟩ := List.exists_cons_of_ne_nil hnil
    rw [hcons]
    rfl

/-- What is put together from the images of characters starts with the image of the first one that
has any. -/
private theorem head?_flatMap_eq_bind (f : Char → List Char) (s : List Char) :
    (s.flatMap f).head? = (s.find? fun c => !(f c).isEmpty).bind fun c => (f c).head? := by
  induction s with
  | nil => rfl
  | cons c rest ih =>
    rw [List.flatMap_cons, List.find?_cons]
    cases hc : f c with
    | nil => simpa [hc] using ih
    | cons d image => simp [hc]

theorem isBareIdentifier_packageSegment_iff (directory : String) :
    Kotlin.IsBareIdentifier (packageSegment directory) ↔ SpellsSegment directory := by
  have hstart : (packageSegment directory).toList.head?.any Kotlin.isNameStart = true ↔
      ∀ c, directory.toList.find? (fun c => !(segmentChar c).isEmpty) = some c →
        Text.isAlphanumeric c = true → Text.isLead c = true := by
    rw [any_isNameStart_head?_packageSegment, head?_flatMap_eq_bind]
    cases hfind : directory.toList.find? fun c => !(segmentChar c).isEmpty with
    | none => simp
    | some c =>
      rw [Option.bind_some, all_isLead_head?_segmentChar]
      simp
  have hparts : (packageSegment directory).toList.all Text.isWordChar = true ↔
      ∀ c ∈ directory.toList, Text.isAlphanumeric c = true →
        Text.isWordChar c = true ∧ c ≠ 'İ' := by
    rw [all_isWordChar_packageSegment, List.all_flatMap, List.all_eq_true]
    exact forall₂_congr fun c _ => all_isWordChar_segmentChar c
  constructor
  · intro h
    exact ⟨hstart.mp h.start, hparts.mp h.parts⟩
  · intro h
    exact ⟨hstart.mpr h.start, hparts.mpr h.parts, packageSegment_notMem_keywords directory⟩

/-! ### Functions -/

/-- The words of a stem: what stands between characters that are not alphanumeric. -/
def wordsOf (stem : String) : List (List Char) :=
  Text.splitOn (fun c => !Text.isAlphanumeric c) stem.toList

/-- The characters of a word are those that it can be spelled with once it has a capital. -/
structure SpellsWord (word : List Char) : Prop where
  /-- The first character becomes letters or a digit in upper case. -/
  head : ∀ c, word.head? = some c →
    (Text.isWordChar c = true ∧ c.toNat ∉ Text.markedCapitals) ∨ c = Text.iotaBelow
  /-- The other characters are letters and digits. -/
  tail : ∀ c ∈ word.tail, Text.isWordChar c = true

/-- The characters of a stem are those that the name of its function can be spelled with. -/
structure SpellsFunction (stem : String) : Prop where
  /-- The first character that is kept is a letter, in upper case at least, or an ASCII digit. -/
  start : ∀ c, stem.toList.find? Text.isAlphanumeric = some c →
    Text.isLead c = true ∨ c = Text.iotaBelow
  parts : ∀ word ∈ wordsOf stem, SpellsWord word

theorem capitalizedWords_eq (stem : String) :
    capitalizedWords stem.toList = (wordsOf stem).flatMap Text.capitalized := rfl

theorem all_isWordChar_capitalized (word : List Char) :
    (Text.capitalized word).all Text.isWordChar = true ↔ SpellsWord word := by
  cases word with
  | nil => exact ⟨fun _ => ⟨by simp, by simp⟩, fun _ => rfl⟩
  | cons c rest =>
    rw [Text.capitalized, List.all_append, Bool.and_eq_true, Text.all_isWordChar_toUpper,
      List.all_eq_true]
    constructor
    · rintro ⟨hhead, htail⟩
      exact ⟨fun d hd => Option.some.inj hd ▸ hhead, htail⟩
    · intro h
      exact ⟨h.head c rfl, h.tail⟩

/-- The words put together start with the first kept character in upper case. -/
theorem head?_capitalizedWords (s : List Char) :
    (capitalizedWords s).head? =
      (s.find? Text.isAlphanumeric).bind fun c => (Text.toUpper c).head? := by
  induction s with
  | nil => rfl
  | cons c rest ih =>
    rw [capitalizedWords] at ih ⊢
    cases hc : Text.isAlphanumeric c with
    | false =>
      -- a separator opens an empty word, which adds nothing
      have hseparator : (!Text.isAlphanumeric c) = true := by rw [hc, Bool.not_false]
      rw [Text.splitOn_cons_of_separator (c := c) hseparator,
        List.find?_cons_of_neg (by simp [hc]), ← ih]
      rfl
    | true =>
      -- the character opens the first word, whatever the word goes on with
      have hnot : (!Text.isAlphanumeric c) = false := by rw [hc, Bool.not_true]
      obtain ⟨word, words, -, hcons⟩ :=
        @Text.splitOn_cons_of_not _ (fun c => !Text.isAlphanumeric c) c hnot rest
      obtain ⟨d, image, himage⟩ := List.exists_cons_of_ne_nil (Text.toUpper_ne_nil c)
      rw [hcons, List.find?_cons_of_pos hc]
      simp [Text.capitalized, himage]

theorem any_isNameStart_head?_pageFunctionName (stem : String) :
    (pageFunctionName stem).toList.head?.any Kotlin.isNameStart =
      (capitalizedWords stem.toList).head?.all Text.isLead := by
  rw [toList_pageFunctionName]
  cases hwords : capitalizedWords stem.toList with
  | nil =>
    have hpage : Kotlin.isNameStart 'P' = true := by decide
    simp [guardDigit, hpage]
  | cons c rest =>
    have hguard := any_isNameStart_head?_guardDigit (c :: rest)
    obtain ⟨d, others, hcons⟩ :=
      List.exists_cons_of_ne_nil (guardDigit_ne_nil (List.cons_ne_nil c rest))
    rw [hcons] at hguard ⊢
    exact hguard

theorem isBareIdentifier_pageFunctionName_iff (stem : String) :
    Kotlin.IsBareIdentifier (pageFunctionName stem) ↔ SpellsFunction stem := by
  have hstart : (pageFunctionName stem).toList.head?.any Kotlin.isNameStart = true ↔
      ∀ c, stem.toList.find? Text.isAlphanumeric = some c →
        Text.isLead c = true ∨ c = Text.iotaBelow := by
    rw [any_isNameStart_head?_pageFunctionName, head?_capitalizedWords]
    cases hfind : stem.toList.find? Text.isAlphanumeric with
    | none => simp
    | some c =>
      rw [Option.bind_some, Text.all_isLead_head?_toUpper]
      simp
  have hparts : (pageFunctionName stem).toList.all Text.isWordChar = true ↔
      ∀ word ∈ wordsOf stem, SpellsWord word := by
    have hsuffix : ['P', 'a', 'g', 'e'].all Text.isWordChar = true := by decide
    rw [toList_pageFunctionName, List.all_append, all_isWordChar_guardDigit, hsuffix, Bool.and_true,
      capitalizedWords_eq, List.all_flatMap, List.all_eq_true]
    exact forall₂_congr fun word _ => all_isWordChar_capitalized word
  constructor
  · intro h
    exact ⟨hstart.mp h.start, hparts.mp h.parts⟩
  · intro h
    exact ⟨hstart.mpr h.start, hparts.mpr h.parts, pageFunctionName_notMem_keywords stem⟩

/-! ### Both names -/

/-- **Derived names.** Whatever a name is, its package segment and the name of its function are not
empty and no keywords. They are identifiers exactly if the characters that they keep of it, in lower
case or with a capital, are letters, decimal digits and underscores, and they do not start with a
digit of another script. -/
theorem isBareIdentifier_iff (name : String) :
    (packageSegment name ≠ "" ∧ packageSegment name ∉ Kotlin.keywords ∧
      (Kotlin.IsBareIdentifier (packageSegment name) ↔ SpellsSegment name)) ∧
    (pageFunctionName name ≠ "" ∧ pageFunctionName name ∉ Kotlin.keywords ∧
      (Kotlin.IsBareIdentifier (pageFunctionName name) ↔ SpellsFunction name)) :=
  ⟨⟨packageSegment_ne_empty name, packageSegment_notMem_keywords name,
      isBareIdentifier_packageSegment_iff name⟩,
    ⟨pageFunctionName_ne_empty name, pageFunctionName_notMem_keywords name,
      isBareIdentifier_pageFunctionName_iff name⟩⟩

/-- A superscript counts as alphanumeric and is kept, and is neither a letter nor a decimal digit.
-/
theorem not_isBareIdentifier_of_superscript :
    packageSegment "²" = "²" ∧ ¬ Kotlin.IsBareIdentifier (packageSegment "²") ∧
      pageFunctionName "²" = "²Page" ∧ ¬ Kotlin.IsBareIdentifier (pageFunctionName "²") := by
  have hsegment : packageSegment "²" = "²" := by decide +kernel
  have hfunction : pageFunctionName "²" = "²Page" := by decide +kernel
  have hstart : Kotlin.isNameStart '²' = false := by decide +kernel
  refine ⟨hsegment, fun h => ?_, hfunction, fun h => ?_⟩
  · exact absurd (hsegment ▸ h.start) (by simp [hstart])
  · exact absurd (hfunction ▸ h.start) (by simp [hstart])

end Site

end MarkdownPages
