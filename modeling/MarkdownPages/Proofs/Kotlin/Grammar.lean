import Mathlib.Computability.Language
import MarkdownPages.Kotlin.Identifier
import MarkdownPages.Proofs.Text.Pieces

/-!
# The grammar of names

The names that reach generated code are regular languages over characters. Names are checked by
cutting them: at a leading dot, at the ending of an import, at every other dot, and then character
by character. The checks accept the languages and nothing else.

## Main definitions

* `Kotlin.identifiers`, `Kotlin.qualifiedNames`, `Kotlin.shortcutNames`, `Kotlin.importTargets` —
  the languages

## Main results

* `Kotlin.mem_separated_iff` — single separators between members of a language
* `Kotlin.isIdentifier_iff`, `Kotlin.isQualifiedName_iff`, `Kotlin.isShortcutName_iff`,
  `Kotlin.isImportTarget_iff` — a check accepts the language
-/

namespace MarkdownPages

namespace Kotlin

open Computability

/-! ### Characters of names -/

theorem isIdentifierPart_of_isIdentifierStart {c : Char} (h : isIdentifierStart c = true) :
    isIdentifierPart c = true := by
  rw [isIdentifierStart, Bool.or_eq_true] at h
  rw [isIdentifierPart, Text.isAsciiAlphanumeric, Bool.or_eq_true, Bool.or_eq_true]
  exact h.imp .inl id

theorem all_isIdentifierPart {name : List Char} (h : isIdentifier name = true) :
    ∀ c ∈ name, isIdentifierPart c = true := by
  cases name with
  | nil => simp
  | cons c rest =>
    obtain ⟨hc, hrest⟩ : isIdentifierStart c = true ∧ rest.all isIdentifierPart = true := by
      simpa [isIdentifier] using h
    intro d hd
    rcases List.mem_cons.mp hd with rfl | hd
    · exact isIdentifierPart_of_isIdentifierStart hc
    · exact List.all_eq_true.mp hrest d hd

/-- A qualified name holds dots and characters of identifiers. -/
theorem isIdentifierPart_of_mem {s : List Char} (h : isQualifiedName s = true) {c : Char}
    (hc : c ∈ s) (hdot : c ≠ '.') : isIdentifierPart c = true := by
  rcases Text.mem_splitOn (· == '.') hc with heq | ⟨piece, hpiece, hc⟩
  · exact absurd (beq_iff_eq.mp heq) hdot
  · exact all_isIdentifierPart (List.all_eq_true.mp h piece hpiece) c hc

/-! ### Languages -/

/-- One character with a property. -/
def oneOf (p : Char → Prop) : Language Char := {s | ∃ c, p c ∧ s = [c]}

/-- `[A-Za-z_][A-Za-z0-9_]*`. -/
def identifiers : Language Char :=
  oneOf (fun c => 'A' ≤ c ∧ c ≤ 'Z' ∨ 'a' ≤ c ∧ c ≤ 'z' ∨ c = '_') *
    (oneOf fun c => 'A' ≤ c ∧ c ≤ 'Z' ∨ 'a' ≤ c ∧ c ≤ 'z' ∨ '0' ≤ c ∧ c ≤ '9' ∨ c = '_')∗

/-- Identifiers with single dots between them. -/
def qualifiedNames : Language Char := identifiers * ({['.']} * identifiers)∗

/-- Qualified names, with or without one more dot in front. -/
def shortcutNames : Language Char := (1 + {['.']}) * qualifiedNames

/-- Qualified names, with or without a dot and an asterisk behind them. -/
def importTargets : Language Char := qualifiedNames * (1 + {['.', '*']})

/-! ### Identifiers -/

theorem isIdentifierStart_iff {c : Char} : isIdentifierStart c = true ↔
    'A' ≤ c ∧ c ≤ 'Z' ∨ 'a' ≤ c ∧ c ≤ 'z' ∨ c = '_' := by
  simp only [isIdentifierStart, Text.isAsciiLetter, Bool.or_eq_true, Bool.and_eq_true,
    decide_eq_true_eq, beq_iff_eq]
  tauto

theorem isIdentifierPart_iff {c : Char} : isIdentifierPart c = true ↔
    'A' ≤ c ∧ c ≤ 'Z' ∨ 'a' ≤ c ∧ c ≤ 'z' ∨ '0' ≤ c ∧ c ≤ '9' ∨ c = '_' := by
  simp only [isIdentifierPart, Text.isAsciiAlphanumeric, Text.isAsciiLetter, Text.isAsciiDigit,
    Bool.or_eq_true, Bool.and_eq_true, decide_eq_true_eq, beq_iff_eq]
  tauto

/-- Any number of characters with a property. -/
theorem mem_kstar_oneOf {p : Char → Prop} {s : List Char} : s ∈ (oneOf p)∗ ↔ ∀ c ∈ s, p c := by
  rw [Language.mem_kstar]
  constructor
  · rintro ⟨pieces, rfl, hpieces⟩ c hc
    obtain ⟨piece, hpiece, hc⟩ := List.mem_flatten.mp hc
    obtain ⟨d, hd, rfl⟩ := hpieces piece hpiece
    obtain rfl := List.mem_singleton.mp hc
    exact hd
  · intro h
    refine ⟨s.map fun c => [c], ?_, ?_⟩
    · rw [← List.flatMap_def, List.flatMap_singleton']
    · intro piece hpiece
      obtain ⟨c, hc, rfl⟩ := List.mem_map.mp hpiece
      exact ⟨c, h c hc, rfl⟩

theorem isIdentifier_iff {s : List Char} : isIdentifier s = true ↔ s ∈ identifiers := by
  rw [identifiers, Language.mem_mul]
  constructor
  · intro h
    cases s with
    | nil => cases h
    | cons c rest =>
      rw [isIdentifier, Bool.and_eq_true, List.all_eq_true] at h
      exact ⟨[c], ⟨c, isIdentifierStart_iff.mp h.1, rfl⟩, rest,
        mem_kstar_oneOf.mpr fun d hd => isIdentifierPart_iff.mp (h.2 d hd), rfl⟩
  · rintro ⟨_, ⟨c, hc, rfl⟩, rest, hrest, rfl⟩
    rw [List.singleton_append, isIdentifier, Bool.and_eq_true, List.all_eq_true]
    exact ⟨isIdentifierStart_iff.mpr hc,
      fun d hd => isIdentifierPart_iff.mpr (mem_kstar_oneOf.mp hrest d hd)⟩

/-! ### Separators -/

/-- Pieces with a separator between them are the first one and the others, each with the separator
in front. -/
theorem joined_cons_eq_flatten (separator : List Char) (piece : List Char)
    (pieces : List (List Char)) :
    Text.joined separator (piece :: pieces) =
      piece ++ (pieces.map fun other => separator ++ other).flatten := by
  induction pieces generalizing piece with
  | nil => simp [Text.joined]
  | cons next rest ih =>
    rw [Text.joined, List.intercalate_cons_cons, ← Text.joined, ih, List.map_cons,
      List.flatten_cons, List.append_assoc, List.append_assoc]

/-- Members of a language with single separators between them are told by their pieces. -/
theorem mem_separated_iff {language : Language Char} {separator : Char}
    (hfree : ∀ piece ∈ language, separator ∉ piece) {s : List Char} :
    s ∈ language * ({[separator]} * language)∗ ↔
      ∀ piece ∈ Text.splitOn (· == separator) s, piece ∈ language := by
  rw [Language.mem_mul]
  constructor
  · rintro ⟨piece, hpiece, tail, ⟨tails, rfl, htails⟩, rfl⟩
    have hothers : ∃ pieces : List (List Char),
        tails = pieces.map (fun other => [separator] ++ other) ∧
          ∀ other ∈ pieces, other ∈ language := by
      refine ⟨tails.map List.tail, ?_, ?_⟩
      · rw [List.map_map]
        refine (List.map_id tails).symm.trans (List.map_congr_left fun t ht => ?_)
        obtain ⟨_, rfl, other, -, rfl⟩ := Language.mem_mul.mp (htails t ht)
        rfl
      · intro name hname
        obtain ⟨t, ht, rfl⟩ := List.mem_map.mp hname
        obtain ⟨_, rfl, other, hother, rfl⟩ := Language.mem_mul.mp (htails t ht)
        exact hother
    obtain ⟨pieces, rfl, hpieces⟩ := hothers
    have hall : ∀ other ∈ piece :: pieces, other ∈ language :=
      List.forall_mem_cons.mpr ⟨hpiece, hpieces⟩
    rw [← joined_cons_eq_flatten, Text.splitOn_joined (by simp)
      fun other hother => hfree other (hall other hother)]
    exact hall
  · intro h
    obtain ⟨piece, pieces, hsplit⟩ :=
      List.exists_cons_of_ne_nil (Text.splitOn_ne_nil (· == separator) s)
    rw [hsplit, List.forall_mem_cons] at h
    refine ⟨piece, h.1, (pieces.map fun other => [separator] ++ other).flatten,
      Language.join_mem_kstar ?_, ?_⟩
    · intro tail htail
      obtain ⟨other, hother, rfl⟩ := List.mem_map.mp htail
      exact Language.append_mem_mul rfl (h.2 other hother)
    · rw [← joined_cons_eq_flatten, ← hsplit, Text.joined_splitOn]

/-! ### Qualified names -/

theorem isQualifiedName_iff {s : List Char} : isQualifiedName s = true ↔ s ∈ qualifiedNames := by
  have hfree : ∀ name ∈ identifiers, '.' ∉ name := by
    intro name hname hdot
    exact absurd (all_isIdentifierPart (isIdentifier_iff.mpr hname) '.' hdot) (by decide)
  rw [isQualifiedName, List.all_eq_true, qualifiedNames, mem_separated_iff hfree]
  exact forall₂_congr fun _ _ => isIdentifier_iff

/-! ### Shortcuts and imports -/

theorem isQualifiedName_cons_dot (rest : List Char) : isQualifiedName ('.' :: rest) = false := by
  rw [isQualifiedName, Text.splitOn_cons_of_separator (by rfl)]
  rfl

theorem isShortcutName_iff {s : List Char} : isShortcutName s = true ↔ s ∈ shortcutNames := by
  have hlanguage : s ∈ shortcutNames ↔
      s ∈ qualifiedNames ∨ ∃ rest ∈ qualifiedNames, '.' :: rest = s := by
    rw [shortcutNames, Language.mem_mul]
    constructor
    · rintro ⟨_, rfl | rfl, rest, hrest, rfl⟩
      · exact .inl hrest
      · exact .inr ⟨rest, hrest, rfl⟩
    · rintro (hs | ⟨rest, hrest, rfl⟩)
      · exact ⟨[], .inl rfl, s, hs, rfl⟩
      · exact ⟨['.'], .inr rfl, rest, hrest, rfl⟩
  rw [hlanguage]
  unfold isShortcutName
  split
  · rename_i rest
    rw [← isQualifiedName_iff, isQualifiedName_cons_dot, isQualifiedName_iff]
    constructor
    · exact fun hrest => .inr ⟨rest, hrest, rfl⟩
    · rintro (hdot | ⟨other, hother, heq⟩)
      · cases hdot
      · exact (List.cons.inj heq).2 ▸ hother
  · rename_i hdot
    rw [isQualifiedName_iff]
    refine ⟨.inl, fun h => h.resolve_right ?_⟩
    rintro ⟨rest, -, heq⟩
    exact hdot rest heq.symm

theorem asterisk_notMem_of_isQualifiedName {s : List Char} (h : isQualifiedName s = true) :
    '*' ∉ s :=
  fun hmem => absurd (isIdentifierPart_of_mem h hmem (by decide)) (by decide)

theorem isImportTarget_iff {s : List Char} : isImportTarget s = true ↔ s ∈ importTargets := by
  have hlanguage : s ∈ importTargets ↔
      s ∈ qualifiedNames ∨ ∃ name ∈ qualifiedNames, name ++ ['.', '*'] = s := by
    rw [importTargets, Language.mem_mul]
    constructor
    · rintro ⟨name, hname, _, rfl | rfl, rfl⟩
      · exact .inl (by rwa [List.append_nil])
      · exact .inr ⟨name, hname, rfl⟩
    · rintro (hs | ⟨name, hname, rfl⟩)
      · exact ⟨s, hs, [], .inl rfl, List.append_nil s⟩
      · exact ⟨name, hname, ['.', '*'], .inr rfl, rfl⟩
  rw [hlanguage, isImportTarget, Text.dropSuffix?]
  by_cases hsuffix : ['.', '*'] <:+ s
  · obtain ⟨name, rfl⟩ := hsuffix
    rw [if_pos (List.isSuffixOf_iff_suffix.mpr (List.suffix_append ..)), Option.getD_some,
      List.length_append, Nat.add_sub_cancel, List.take_left' rfl, isQualifiedName_iff]
    constructor
    · exact fun hname => .inr ⟨name, hname, rfl⟩
    · rintro (hname | ⟨other, hother, heq⟩)
      · exact absurd (by simp) (asterisk_notMem_of_isQualifiedName (isQualifiedName_iff.mpr hname))
      · exact List.append_cancel_right heq ▸ hother
  · rw [if_neg (mt List.isSuffixOf_iff_suffix.mp hsuffix), Option.getD_none, isQualifiedName_iff]
    refine ⟨.inl, fun h => h.resolve_right ?_⟩
    rintro ⟨name, -, rfl⟩
    exact hsuffix (List.suffix_append ..)

end Kotlin

end MarkdownPages
