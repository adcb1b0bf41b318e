import Mathlib.Logic.Relation
import MarkdownPages.Proofs.Kotlin.Grammar
import MarkdownPages.Site.Slug

/-!
# Slugs are normal forms

A slug is written in one pass over its text. The pass remembers only whether a dash would be one too
many, and it looks at neither words nor runs of separators: characters that are dropped stand
anywhere among separators, blank ends are trimmed before it and a dash left at the end is taken away
behind it. What it writes are nevertheless the words of the text, told by cutting it at separators.

So a text and its slug differ in spelling only: in characters that are dropped, in the case of
letters, and in the kind and the length of runs of separators. Changes of spelling leave the words
as they are, every text can be respelled into its slug, and what looks like a slug is the slug of
itself: each class of texts that differ in spelling has one normal form, and that is their slug.

## Main definitions

* `Site.IsParting`, `Site.IsSlugLetter` — the characters between words, and those of words
* `Site.slugWords` — the words of a text
* `Site.Respells` — one change of spelling
* `Site.slugs` — the language of slugs

## Main results

* `Site.slugFrom_eq` — what the pass writes, inside a word and behind a dash
* `Site.toList_slug` — a slug is the words of its text
* `Site.Respells.slugWords_eq`, `Site.respelled_slug` — respelling keeps words and leads to the slug
* `Site.slug_eq_self_iff` — the texts that are slugs
* `Site.slug_normalForm` — the slug is the normal form
-/

namespace MarkdownPages

namespace Text

/-! ### Letters and digits of ASCII -/

theorem forall_ascii {p : Char → Prop} (h : ∀ n < 0x80, p (Char.ofNat n)) {c : Char}
    (hc : c.toNat < 0x80) : p c := by
  rw [← Char.ofNat_toNat c]
  exact h c.toNat hc

theorem isAlphanum_iff {c : Char} : c.isAlphanum = true ↔
    'A' ≤ c ∧ c ≤ 'Z' ∨ 'a' ≤ c ∧ c ≤ 'z' ∨ '0' ≤ c ∧ c ≤ '9' := by
  have hranges : c.isAlphanum = (decide ('A' ≤ c ∧ c ≤ 'Z') || ('a' ≤ c && c ≤ 'z') ||
      ('0' ≤ c && c ≤ '9')) := rfl
  rw [hranges]
  simp [or_assoc]

theorem isAsciiAlphanumeric_eq (c : Char) : isAsciiAlphanumeric c = c.isAlphanum := by
  rw [Bool.eq_iff_iff, isAlphanum_iff]
  simp only [isAsciiAlphanumeric, isAsciiLetter, isAsciiDigit, Bool.or_eq_true, Bool.and_eq_true,
    decide_eq_true_eq]
  tauto

/-- Only letters have a lower case of their own. -/
theorem toLower_of_not_isAlphanum {c : Char} (h : c.isAlphanum = false) : c.toLower = c := by
  have hupper : ¬ ('A' ≤ c ∧ c ≤ 'Z') := by
    intro hbounds
    rw [isAlphanum_iff.mpr (.inl hbounds)] at h
    cases h
  exact dif_neg hupper

end Text

namespace Site

open Computability

/-! ### Characters

A letter or digit of ASCII (`Char.isAlphanum` knows no others) is kept, some characters part words,
and the others are dropped. -/

/-- A character between words: a blank one, a dash or an underscore. -/
def IsParting (c : Char) : Prop := Text.isBlank c = true ∨ c = '-' ∨ c = '_'

/-- A character of the words of a slug: `[a-z0-9]`. -/
def IsSlugLetter (c : Char) : Prop := 'a' ≤ c ∧ c ≤ 'z' ∨ '0' ≤ c ∧ c ≤ '9'

instance : DecidablePred IsParting := fun c =>
  inferInstanceAs (Decidable (Text.isBlank c = true ∨ c = '-' ∨ c = '_'))

instance : DecidablePred IsSlugLetter := fun c =>
  inferInstanceAs (Decidable ('a' ≤ c ∧ c ≤ 'z' ∨ '0' ≤ c ∧ c ≤ '9'))

theorem isParting_dash : IsParting '-' := .inr (.inl rfl)

theorem isSlugSeparator_eq (c : Char) : isSlugSeparator c = decide (IsParting c) := by
  rw [Bool.eq_iff_iff, decide_eq_true_iff]
  simp [isSlugSeparator, IsParting, or_assoc]

/-- A letter or digit is no separator, and its lower case is a letter of slugs. -/
theorem isAlphanum_spec {c : Char} (h : c.isAlphanum = true) :
    ¬ IsParting c ∧ IsSlugLetter c.toLower := by
  have hascii : c.toNat < 0x80 := by
    have hranges := Text.isAlphanum_iff.mp h
    simp only [Char.le_def, UInt32.le_iff_toNat_le] at hranges
    have hbounds : 65 ≤ c.toNat ∧ c.toNat ≤ 90 ∨ 97 ≤ c.toNat ∧ c.toNat ≤ 122 ∨
        48 ≤ c.toNat ∧ c.toNat ≤ 57 := hranges
    omega
  have hchecked := Text.forall_ascii (p := fun c => c.isAlphanum = true →
    ¬ IsParting c ∧ IsSlugLetter c.toLower) (by decide +kernel) hascii
  exact hchecked h

/-- A letter of slugs is a letter or digit, and its own lower case. -/
theorem isSlugLetter_spec {c : Char} (h : IsSlugLetter c) :
    c.isAlphanum = true ∧ c.toLower = c := by
  have hascii : c.toNat < 0x80 := by
    have hranges := h
    simp only [IsSlugLetter, Char.le_def, UInt32.le_iff_toNat_le] at hranges
    have hbounds : 97 ≤ c.toNat ∧ c.toNat ≤ 122 ∨ 48 ≤ c.toNat ∧ c.toNat ≤ 57 := hranges
    omega
  have hchecked := Text.forall_ascii (p := fun c => IsSlugLetter c →
    c.isAlphanum = true ∧ c.toLower = c) (by decide +kernel) hascii
  exact hchecked h

theorem not_isParting_of_isSlugLetter {c : Char} (h : IsSlugLetter c) : ¬ IsParting c :=
  (isAlphanum_spec (isSlugLetter_spec h).1).1

theorem not_isAlphanum_of_isParting {c : Char} (h : IsParting c) : c.isAlphanum = false :=
  Bool.eq_false_iff.mpr fun halphanum => (isAlphanum_spec halphanum).1 h

/-! ### Words -/

/-- What is left of a text: letters in lower case, digits and separators. -/
def slugCharacters (s : List Char) : List Char :=
  (s.filter fun c => c.isAlphanum || IsParting c).map Char.toLower

/-- The words of a text: what stands between separators once all other characters are dropped. -/
def slugWords (s : List Char) : List (List Char) :=
  (Text.splitOn (IsParting ·) (slugCharacters s)).filter (!·.isEmpty)

theorem slugCharacters_append (s t : List Char) :
    slugCharacters (s ++ t) = slugCharacters s ++ slugCharacters t := by
  simp [slugCharacters]

theorem slugCharacters_of_isAlphanum {c : Char} (h : c.isAlphanum = true) (rest : List Char) :
    slugCharacters (c :: rest) = c.toLower :: slugCharacters rest := by
  simp [slugCharacters, h]

theorem slugCharacters_of_isParting {c : Char} (h : IsParting c) (rest : List Char) :
    slugCharacters (c :: rest) = c :: slugCharacters rest := by
  simp [slugCharacters, h, Text.toLower_of_not_isAlphanum (not_isAlphanum_of_isParting h)]

theorem slugCharacters_of_dropped {c : Char} (halphanum : c.isAlphanum = false)
    (hparting : ¬ IsParting c) (rest : List Char) :
    slugCharacters (c :: rest) = slugCharacters rest := by
  simp [slugCharacters, halphanum, hparting]

theorem mem_slugCharacters {s : List Char} {c : Char} (h : c ∈ slugCharacters s) :
    IsSlugLetter c ∨ IsParting c := by
  obtain ⟨d, hd, rfl⟩ := List.mem_map.mp h
  cases halphanum : d.isAlphanum with
  | true => exact .inl (isAlphanum_spec halphanum).2
  | false =>
    have hkept := (List.mem_filter.mp hd).2
    rw [halphanum, Bool.false_or, decide_eq_true_eq] at hkept
    rw [Text.toLower_of_not_isAlphanum halphanum]
    exact .inr hkept

/-- A text of letters of slugs and separators is left as it is. -/
theorem slugCharacters_eq_self {s : List Char} (h : ∀ c ∈ s, IsSlugLetter c ∨ IsParting c) :
    slugCharacters s = s := by
  induction s with
  | nil => rfl
  | cons c rest ih =>
    obtain ⟨hc, hrest⟩ := List.forall_mem_cons.mp h
    rcases hc with hletter | hparting
    · obtain ⟨halphanum, hlower⟩ := isSlugLetter_spec hletter
      rw [slugCharacters_of_isAlphanum halphanum, hlower, ih hrest]
    · rw [slugCharacters_of_isParting hparting, ih hrest]

/-- A word is not empty, and it holds letters of slugs only. -/
theorem slugWord_spec {s word : List Char} (h : word ∈ slugWords s) :
    word ≠ [] ∧ ∀ c ∈ word, IsSlugLetter c := by
  obtain ⟨hpiece, hne⟩ := List.mem_filter.mp h
  refine ⟨by simpa using hne, fun c hc => ?_⟩
  obtain ⟨hnot, hmem⟩ := Text.not_separator_of_mem_splitOn hpiece hc
  exact (mem_slugCharacters hmem).resolve_right (of_decide_eq_false hnot)

theorem dash_notMem_slugWord {s word : List Char} (h : word ∈ slugWords s) : '-' ∉ word :=
  fun hmem => absurd ((slugWord_spec h).2 '-' hmem) (by decide)

/-- A separator parts the words before it from those behind it. -/
theorem slugWords_append_cons {c : Char} (h : IsParting c) (s t : List Char) :
    slugWords (s ++ c :: t) = slugWords s ++ slugWords t := by
  rw [slugWords, slugCharacters_append, slugCharacters_of_isParting h,
    Text.splitOn_append (c := c) (decide_eq_true h), List.filter_append]
  rfl

/-! ### One pass over a text -/

theorem slugFrom_of_isAlphanum {c : Char} (h : c.isAlphanum = true) (afterDash : Bool)
    (rest : List Char) : slugFrom afterDash (c :: rest) = c.toLower :: slugFrom false rest := by
  rw [slugFrom, Text.isAsciiAlphanumeric_eq, if_pos h]

theorem slugFrom_of_isParting {c : Char} (h : IsParting c) (rest : List Char) :
    slugFrom false (c :: rest) = '-' :: slugFrom true rest ∧
      slugFrom true (c :: rest) = slugFrom true rest := by
  simp [slugFrom, Text.isAsciiAlphanumeric_eq, isSlugSeparator_eq, not_isAlphanum_of_isParting h, h]

theorem slugFrom_of_dropped {c : Char} (halphanum : c.isAlphanum = false)
    (hparting : ¬ IsParting c) (afterDash : Bool) (rest : List Char) :
    slugFrom afterDash (c :: rest) = slugFrom afterDash rest := by
  simp [slugFrom, Text.isAsciiAlphanumeric_eq, isSlugSeparator_eq, halphanum, hparting]

/-- The pieces that are not empty, each behind a dash. -/
def dashed (pieces : List (List Char)) : List Char :=
  (pieces.filter (!·.isEmpty)).flatMap ('-' :: ·)

/-- **The pass.** Inside a word it writes what is left of the word, and each word that follows
behind a dash. Behind a dash it writes words too: that dash and what is written are the words, each
behind a dash. Either way there may be a dash at the end. -/
theorem slugFrom_eq (s : List Char) : ∃ piece pieces,
    Text.splitOn (IsParting ·) (slugCharacters s) = piece :: pieces ∧
      (∃ final ∈ [[], ['-']], slugFrom false s = piece ++ dashed pieces ++ final) ∧
      ∃ final ∈ [[], ['-']], '-' :: slugFrom true s = dashed (piece :: pieces) ++ final := by
  induction s with
  | nil => exact ⟨[], [], rfl, ⟨[], by simp, rfl⟩, ['-'], by simp, rfl⟩
  | cons c rest ih =>
    obtain ⟨piece, pieces, hpieces, ⟨inWord, hinWord, hfalse⟩, behind, hbehind, htrue⟩ := ih
    cases halphanum : c.isAlphanum with
    | true =>
      -- the character is the first of its piece, and the rest is written as inside a word
      have hnot := not_isParting_of_isSlugLetter (isAlphanum_spec halphanum).2
      obtain ⟨first, others, hrest, hcons⟩ := @Text.splitOn_cons_of_not _ (IsParting ·) c.toLower
        (decide_eq_false hnot) (slugCharacters rest)
      obtain ⟨rfl, rfl⟩ := List.cons.inj (hpieces.symm.trans hrest)
      rw [slugCharacters_of_isAlphanum halphanum, slugFrom_of_isAlphanum halphanum,
        slugFrom_of_isAlphanum halphanum, hfalse]
      exact ⟨c.toLower :: piece, pieces, hcons, ⟨inWord, hinWord, rfl⟩, inWord, hinWord, rfl⟩
    | false =>
      by_cases hparting : IsParting c
      · -- an empty piece comes in front, and the dash of `htrue` is written now or was there
        obtain ⟨hinside, hafter⟩ := slugFrom_of_isParting hparting rest
        rw [slugCharacters_of_isParting hparting,
          Text.splitOn_cons_of_separator (c := c) (decide_eq_true hparting), hpieces, hinside,
          hafter, htrue]
        exact ⟨[], piece :: pieces, rfl, ⟨behind, hbehind, rfl⟩, behind, hbehind, rfl⟩
      · rw [slugCharacters_of_dropped halphanum hparting, slugFrom_of_dropped halphanum hparting,
          slugFrom_of_dropped halphanum hparting]
        exact ⟨piece, pieces, hpieces, ⟨inWord, hinWord, hfalse⟩, behind, hbehind, htrue⟩

/-- Joined words do not end with a dash. -/
theorem dropFinalDash_joined {words : List (List Char)} (hne : ∀ word ∈ words, word ≠ [])
    (hfree : ∀ word ∈ words, '-' ∉ word) :
    dropFinalDash (Text.joined ['-'] words) = Text.joined ['-'] words := by
  rw [dropFinalDash, if_neg]
  intro hlast
  have hwords : words ≠ [] := by
    rintro rfl
    simp [Text.joined] at hlast
  -- cut at dashes, a text that ends with one has an empty last piece
  obtain ⟨start, hstart⟩ := List.getLast?_eq_some_iff.mp (beq_iff_eq.mp hlast)
  have happend := @Text.splitOn_append _ (· == '-') '-' (beq_self_eq_true '-') start []
  rw [← hstart, Text.splitOn_joined hwords hfree] at happend
  exact hne [] (happend ▸ by simp [Text.splitOn]) rfl

/-- Without the dash at the end, the pass writes the words with dashes between them. -/
theorem dropFinalDash_slugFrom (s : List Char) :
    dropFinalDash (slugFrom true s) = Text.joined ['-'] (slugWords s) := by
  obtain ⟨piece, pieces, hpieces, -, final, hfinal, htrue⟩ := slugFrom_eq s
  rw [dashed, ← hpieces, ← slugWords] at htrue
  cases hwords : slugWords s with
  | nil =>
    -- the dash in front is the one at the end
    rw [hwords, List.flatMap_nil, List.nil_append] at htrue
    have hnil : slugFrom true s = [] := by
      rcases List.mem_pair.mp hfinal with rfl | rfl
      · cases htrue
      · exact (List.cons.inj htrue).2
    rw [hnil]
    rfl
  | cons word words =>
    have hwritten : slugFrom true s = Text.joined ['-'] (word :: words) ++ final := by
      rw [hwords] at htrue
      rw [Kotlin.joined_cons_eq_flatten]
      exact (List.cons.inj htrue).2
    rw [hwritten]
    rcases List.mem_pair.mp hfinal with rfl | rfl
    · rw [List.append_nil, ← hwords]
      exact dropFinalDash_joined (fun _ h => (slugWord_spec h).1) fun _ => dash_notMem_slugWord
    · simp [dropFinalDash]

/-! ### Changes of spelling -/

/-- One change to the spelling of a text. -/
inductive Respells : List Char → List Char → Prop
  /-- A character that is no ASCII letter or digit and parts no words is left out. -/
  | dropped (before after : List Char) {c : Char} (halphanum : c.isAlphanum = false)
      (hparting : ¬ IsParting c) : Respells (before ++ c :: after) (before ++ after)
  /-- An ASCII letter is put in lower case. -/
  | lowered (before after : List Char) (c : Char) :
      Respells (before ++ c :: after) (before ++ c.toLower :: after)
  /-- A separator is put in the place of another. -/
  | exchanged (before after : List Char) {c d : Char} (hc : IsParting c) (hd : IsParting d) :
      Respells (before ++ c :: after) (before ++ d :: after)
  /-- A run of separators is made shorter. -/
  | shortened (before after : List Char) {c d : Char} (hc : IsParting c) (hd : IsParting d) :
      Respells (before ++ c :: d :: after) (before ++ c :: after)
  /-- A separator at the start is left out. -/
  | opened (after : List Char) {c : Char} (hc : IsParting c) : Respells (c :: after) after
  /-- A separator at the end is left out. -/
  | closed (before : List Char) {c : Char} (hc : IsParting c) : Respells (before ++ [c]) before

/-- A change of spelling leaves the words as they are. -/
theorem Respells.slugWords_eq {s t : List Char} (h : Respells s t) : slugWords s = slugWords t := by
  cases h with
  | dropped before after halphanum hparting =>
    rw [slugWords, slugWords, slugCharacters_append, slugCharacters_append,
      slugCharacters_of_dropped halphanum hparting]
  | lowered before after c =>
    cases halphanum : c.isAlphanum with
    | false => rw [Text.toLower_of_not_isAlphanum halphanum]
    | true =>
      obtain ⟨hlower, hsame⟩ := isSlugLetter_spec (isAlphanum_spec halphanum).2
      rw [slugWords, slugWords, slugCharacters_append, slugCharacters_append,
        slugCharacters_of_isAlphanum halphanum, slugCharacters_of_isAlphanum hlower, hsame]
  | exchanged before after hc hd => rw [slugWords_append_cons hc, slugWords_append_cons hd]
  | shortened before after hc hd =>
    rw [slugWords_append_cons hc, slugWords_append_cons hc]
    exact congrArg _ (slugWords_append_cons hd [] after)
  | opened _ hc => exact slugWords_append_cons hc [] t
  | closed _ hc => exact (slugWords_append_cons hc t []).trans (List.append_nil _)

/-- Texts that differ in spelling only have the same words. -/
theorem slugWords_eq_of_respelled {s t : List Char} (h : Relation.EqvGen Respells s t) :
    slugWords s = slugWords t := by
  induction h with
  | rel _ _ h => exact h.slugWords_eq
  | refl _ => rfl
  | symm _ _ _ ih => exact ih.symm
  | trans _ _ _ _ _ ihs iht => exact ihs.trans iht

theorem respelled_trimStart (s : List Char) : Relation.EqvGen Respells s (Text.trimStart s) := by
  induction s with
  | nil => exact .refl _
  | cons c rest ih =>
    rw [Text.trimStart, List.dropWhile_cons]
    split
    case isTrue hblank => exact .trans _ _ _ (.rel _ _ (.opened rest (.inl hblank))) ih
    case isFalse => exact .refl _

theorem respelled_trimEnd (s : List Char) : Relation.EqvGen Respells s (Text.trimEnd s) := by
  induction s using List.reverseRecOn with
  | nil => exact .refl _
  | append_singleton before c ih =>
    rw [Text.trimEnd, List.reverse_append, List.reverse_singleton, List.singleton_append,
      List.dropWhile_cons]
    split
    case isTrue hblank => exact .trans _ _ _ (.rel _ _ (.closed before (.inl hblank))) ih
    case isFalse =>
      rw [List.reverse_cons, List.reverse_reverse]
      exact .refl _

theorem respelled_trim (s : List Char) : Relation.EqvGen Respells s (Text.trim s) :=
  .trans _ _ _ (respelled_trimStart s) (respelled_trimEnd _)

theorem respelled_dropFinalDash (s : List Char) :
    Relation.EqvGen Respells s (dropFinalDash s) := by
  rw [dropFinalDash]
  split
  case isTrue hlast =>
    obtain ⟨before, rfl⟩ := List.getLast?_eq_some_iff.mp (beq_iff_eq.mp hlast)
    rw [List.dropLast_concat]
    exact .rel _ _ (.closed before isParting_dash)
  case isFalse => exact .refl _

/-- The pass respells what is left of a text, whatever has been written before. Where it may write
no dash, a dash has been written last, or nothing at all. -/
theorem respelled_slugFrom (s : List Char) {afterDash : Bool} {before : List Char}
    (h : afterDash = true → before = [] ∨ ∃ start, before = start ++ ['-']) :
    Relation.EqvGen Respells (before ++ s) (before ++ slugFrom afterDash s) := by
  induction s generalizing afterDash before with
  | nil => exact .refl _
  | cons c rest ih =>
    cases halphanum : c.isAlphanum with
    | true =>
      have hrest := @ih false (before ++ [c.toLower]) nofun
      rw [List.append_assoc, List.append_assoc] at hrest
      rw [slugFrom_of_isAlphanum halphanum]
      exact .trans _ _ _ (.rel _ _ (.lowered before rest c)) hrest
    | false =>
      by_cases hparting : IsParting c
      · obtain ⟨hinside, hafter⟩ := slugFrom_of_isParting hparting rest
        cases afterDash with
        | false =>
          have hrest := @ih true (before ++ ['-']) fun _ => .inr ⟨before, rfl⟩
          rw [List.append_assoc, List.append_assoc] at hrest
          rw [hinside]
          exact .trans _ _ _ (.rel _ _ (.exchanged before rest hparting isParting_dash)) hrest
        | true =>
          rw [hafter]
          refine .trans _ _ _ (.rel _ _ ?_) (ih h)
          rcases h rfl with rfl | ⟨start, rfl⟩
          · exact .opened rest hparting
          · rw [List.append_assoc, List.append_assoc]
            exact .shortened start rest isParting_dash hparting
      · rw [slugFrom_of_dropped halphanum hparting]
        exact .trans _ _ _ (.rel _ _ (.dropped before rest halphanum hparting)) (ih h)

/-- A text and its slug differ in spelling only. -/
theorem respelled_slug (text : String) :
    Relation.EqvGen Respells text.toList (slug text).toList := by
  have hpass := @respelled_slugFrom (Text.trim text.toList) true [] fun _ => .inl rfl
  rw [slug, String.toList_ofList]
  exact .trans _ _ _ (respelled_trim _) (.trans _ _ _ hpass (respelled_dropFinalDash _))

/-! ### Slugs -/

/-- A slug is the words of its text, with dashes between them. -/
theorem toList_slug (text : String) :
    (slug text).toList = Text.joined ['-'] (slugWords text.toList) := by
  rw [slug, String.toList_ofList, dropFinalDash_slugFrom,
    slugWords_eq_of_respelled (respelled_trim text.toList)]

/-- `[a-z0-9]+`. -/
def plainWords : Language Char := Kotlin.oneOf IsSlugLetter * (Kotlin.oneOf IsSlugLetter)∗

/-- `[a-z0-9]+(-[a-z0-9]+)*`. -/
def slugs : Language Char := plainWords * ({['-']} * plainWords)∗

theorem mem_plainWords_iff {word : List Char} :
    word ∈ plainWords ↔ word ≠ [] ∧ ∀ c ∈ word, IsSlugLetter c := by
  rw [plainWords, Language.mem_mul]
  constructor
  · rintro ⟨_, ⟨c, hc, rfl⟩, rest, hrest, rfl⟩
    exact ⟨by simp, List.forall_mem_cons.mpr ⟨hc, Kotlin.mem_kstar_oneOf.mp hrest⟩⟩
  · rintro ⟨hne, hword⟩
    obtain ⟨c, rest, rfl⟩ := List.exists_cons_of_ne_nil hne
    obtain ⟨hc, hrest⟩ := List.forall_mem_cons.mp hword
    exact ⟨[c], ⟨c, hc, rfl⟩, rest, Kotlin.mem_kstar_oneOf.mpr hrest, rfl⟩

theorem mem_slugs_iff {s : List Char} :
    s ∈ slugs ↔ ∀ piece ∈ Text.splitOn (· == '-') s, piece ∈ plainWords := by
  have hfree : ∀ word ∈ plainWords, '-' ∉ word := by
    intro word hword hmem
    exact absurd ((mem_plainWords_iff.mp hword).2 '-' hmem) (by decide)
  rw [slugs, Kotlin.mem_separated_iff hfree]

theorem slug_eq_empty_or_mem_slugs (text : String) :
    slug text = "" ∨ (slug text).toList ∈ slugs := by
  rw [← String.toList_eq_nil_iff, toList_slug, mem_slugs_iff]
  cases hwords : slugWords text.toList with
  | nil => exact .inl rfl
  | cons word words =>
    right
    rw [← hwords, Text.splitOn_joined (by simp [hwords]) fun _ => dash_notMem_slugWord]
    exact fun word hword => mem_plainWords_iff.mpr (slugWord_spec hword)

theorem isSlugLetter_of_mem_slugs {s : List Char} (h : s ∈ slugs) {c : Char} (hc : c ∈ s)
    (hdash : c ≠ '-') : IsSlugLetter c := by
  rcases Text.mem_splitOn (· == '-') hc with heq | ⟨piece, hpiece, hc⟩
  · exact absurd (beq_iff_eq.mp heq) hdash
  · exact (mem_plainWords_iff.mp (mem_slugs_iff.mp h piece hpiece)).2 c hc

/-- In what looks like a slug, only dashes part words, and they part nothing else. -/
theorem slugWords_of_mem_slugs {s : List Char} (h : s ∈ slugs) :
    slugWords s = Text.splitOn (· == '-') s := by
  have hkept : slugCharacters s = s := by
    refine slugCharacters_eq_self fun c hc => ?_
    by_cases hdash : c = '-'
    · exact .inr (hdash ▸ isParting_dash)
    · exact .inl (isSlugLetter_of_mem_slugs h hc hdash)
  have hparts : ∀ c ∈ s, decide (IsParting c) = (c == '-') := by
    intro c hc
    by_cases hdash : c = '-'
    · rw [hdash]
      rfl
    · rw [beq_false_of_ne hdash]
      exact decide_eq_false (not_isParting_of_isSlugLetter (isSlugLetter_of_mem_slugs h hc hdash))
  rw [slugWords, hkept, Text.splitOn_congr hparts]
  refine List.filter_eq_self.mpr fun piece hpiece => ?_
  simpa using (mem_plainWords_iff.mp (mem_slugs_iff.mp h piece hpiece)).1

/-- The texts that look like slugs, and the empty one, are the slugs, each of itself. -/
theorem slug_eq_self_iff {s : String} : slug s = s ↔ s = "" ∨ s.toList ∈ slugs := by
  constructor
  · intro h
    exact h ▸ slug_eq_empty_or_mem_slugs s
  · rintro (rfl | h)
    · rfl
    · rw [← String.toList_inj, toList_slug, slugWords_of_mem_slugs h, Text.joined_splitOn]

/-- **Normal forms.** The slug of a text is its words with single dashes between them: the text in
lower case, without the characters that are dropped, cut at separators. It is empty or looks like a
slug, and it is the slug of itself. Two texts have one slug exactly if they differ in spelling only:
in characters that are dropped, in the case of ASCII letters, and in the kind and the length of runs
of separators. -/
theorem slug_normalForm (text : String) :
    (slug text).toList = Text.joined ['-'] (slugWords text.toList) ∧
      (slug text = "" ∨ (slug text).toList ∈ slugs) ∧
      slug (slug text) = slug text ∧
      ∀ other : String, slug text = slug other ↔
        Relation.EqvGen Respells text.toList other.toList := by
  have hform := slug_eq_empty_or_mem_slugs text
  refine ⟨toList_slug text, hform, slug_eq_self_iff.mpr hform, fun other => ⟨fun h => ?_, ?_⟩⟩
  · -- both texts can be respelled into their slug
    have hother : Relation.EqvGen Respells (slug text).toList other.toList :=
      h ▸ .symm _ _ (respelled_slug other)
    exact .trans _ _ _ (respelled_slug text) hother
  · intro h
    rw [← String.toList_inj, toList_slug, toList_slug, slugWords_eq_of_respelled h]

end Site

end MarkdownPages
