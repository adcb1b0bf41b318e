import Mathlib.Data.List.Infix
import MarkdownPages.Proofs.Sequences
import MarkdownPages.Proofs.Text.Pieces
import MarkdownPages.Settings.Expansion

/-!
# The references of a setting

Replacing the variables of a setting takes two passes with two notions of a reference. The first
doubles dollar signs outside references, the second replaces variables and halves dollar signs. Read
in one pass from left to right, a setting is a sequence of closed references and of characters that
stand for themselves. The two passes come to the same, unless an opening that is never closed stands
before a bare name or before two dollar signs.

## Main definitions

* `Settings.Part`, `Settings.parts` — closed references and other characters, from left to right
* `Settings.scanned` — the parts with every reference replaced on its own
* `Settings.KeepsDollars` — a setting without bare names behind an opening that is never closed

## Main results

* `Settings.flatMap_text_parts` — the parts of a setting are the whole setting
* `Settings.value_reference` — what a closed reference stands for
* `Settings.substitute_protect` — the two passes come to the scan
* `Settings.expand_eq_scanned` — variables are replaced in closed references and nowhere else
-/

namespace MarkdownPages

namespace Settings

/-! ### Parts of a setting -/

/-- A part of a setting. -/
inductive Part where
  /-- A character that stands for itself. -/
  | plain (c : Char)
  /-- A closed reference, with the text between its brackets. -/
  | reference (inside : List Char)
deriving DecidableEq

/-- The parts of a setting from left to right. An opening with a closing bracket behind it is a
reference up to the first such bracket, and every other character stands for itself. -/
def parts : List Char → List Part
  | [] => []
  | '$' :: '\x7b' :: rest =>
    match _hcut : Text.cutFirst '\x7d' rest with
    | some (inside, behind) => .reference inside :: parts behind
    | none => .plain '$' :: parts ('\x7b' :: rest)
  | c :: rest => .plain c :: parts rest
termination_by s => s.length
decreasing_by
  all_goals simp only [List.length_cons]
  · have hbehind := Text.length_lt_of_cutFirst _hcut
    omega
  · omega
  · omega

attribute [local simp] parts in
@[simp] theorem parts_nil : parts [] = [] := by simp

namespace Part

/-- A part as it is written. -/
def text : Part → List Char
  | plain c => [c]
  | reference inside => '$' :: '\x7b' :: inside ++ ['\x7d']

/-- What a part stands for: a reference for what it is replaced by where it stands alone. -/
def value (environment : Environment) : Part → Except String (List Char)
  | plain c => .ok [c]
  | reference inside => substitute environment (reference inside).text

end Part

/-- A setting with every reference replaced on its own, from left to right. -/
def scanned (environment : Environment) (s : List Char) : Except String (List Char) :=
  ((parts s).mapM (Part.value environment)).map List.flatten

/-- No opening that is never closed stands before a dollar sign with a bare name or with another
dollar sign behind it. -/
def KeepsDollars (s : List Char) : Prop :=
  ∀ behind, '$' :: '\x7b' :: behind <:+ s → '\x7d' ∉ behind →
    ∀ c after, '$' :: c :: after <:+ behind → c ≠ '$' ∧ isNameChar c = false

theorem KeepsDollars.of_suffix {s t : List Char} (h : KeepsDollars s) (hsuffix : t <:+ s) :
    KeepsDollars t := fun behind hbehind => h behind (hbehind.trans hsuffix)

variable {environment : Environment}

/-! ### One part after the other -/

theorem parts_reference {inside : List Char} (h : '\x7d' ∉ inside) (behind : List Char) :
    parts ('$' :: '\x7b' :: (inside ++ '\x7d' :: behind)) =
      .reference inside :: parts behind := by
  have hcut := Text.cutFirst_append h behind
  rw [parts]
  split
  · rename_i inside' behind' hsome
    obtain ⟨rfl, rfl⟩ := Prod.mk.inj (Option.some.inj (hcut.symm.trans hsome))
    rfl
  · rename_i hnone
    cases hcut.symm.trans hnone

/-- A character that starts no reference stands for itself. -/
theorem parts_plain {c : Char} {rest : List Char}
    (h : ∀ tail, c = '$' → rest = '\x7b' :: tail → False) :
    parts (c :: rest) = .plain c :: parts rest := by
  rw [parts]
  exact h

theorem parts_opening {rest : List Char} (h : '\x7d' ∉ rest) :
    parts ('$' :: '\x7b' :: rest) = .plain '$' :: parts ('\x7b' :: rest) := by
  rw [parts]
  split
  · rename_i hsome
    cases (Text.cutFirst_eq_none_iff.mpr h).symm.trans hsome
  · rfl

/-- Without a closed reference every character stands for itself. -/
theorem parts_of_not_closed {s : List Char}
    (h : ∀ before inside behind, s ≠ before ++ '$' :: '\x7b' :: (inside ++ '\x7d' :: behind)) :
    parts s = s.map .plain := by
  induction s with
  | nil => rw [parts_nil, List.map_nil]
  | cons c rest ih =>
    have hcons : parts (c :: rest) = .plain c :: parts rest := by
      by_cases hopen : ∃ tail, c = '$' ∧ rest = '\x7b' :: tail
      · obtain ⟨tail, rfl, rfl⟩ := hopen
        refine parts_opening fun hclosing => ?_
        obtain ⟨inside, behind, rfl⟩ := List.append_of_mem hclosing
        exact h [] inside behind rfl
      · exact parts_plain fun tail hc htail => hopen ⟨tail, hc, htail⟩
    rw [hcons, List.map_cons, ih fun before inside behind heq =>
      h (c :: before) inside behind (congrArg _ heq)]

/-- The parts of a setting are the whole setting. -/
theorem flatMap_text_parts (s : List Char) : (parts s).flatMap Part.text = s := by
  induction s using parts.induct with
  | case1 => rw [parts_nil, List.flatMap_nil]
  | case2 rest inside behind hcut ih =>
    obtain rfl := Text.cutFirst_eq_some hcut
    rw [parts_reference (Text.notMem_of_cutFirst_eq_some hcut), List.flatMap_cons, ih, Part.text]
    simp
  | case3 rest hcut ih =>
    rw [parts_opening (Text.cutFirst_eq_none_iff.mp hcut), List.flatMap_cons, ih, Part.text]
    rfl
  | case4 c rest hplain ih =>
    rw [parts_plain hplain, List.flatMap_cons, ih, Part.text]
    rfl

theorem notMem_of_reference_mem {s inside : List Char} (h : .reference inside ∈ parts s) :
    '\x7d' ∉ inside := by
  induction s using parts.induct with
  | case1 => simp at h
  | case2 rest first behind hcut ih =>
    have hfirst := Text.notMem_of_cutFirst_eq_some hcut
    rw [Text.cutFirst_eq_some hcut, parts_reference hfirst, List.mem_cons] at h
    rcases h with h | h
    · exact Part.reference.inj h ▸ hfirst
    · exact ih h
  | case3 rest hcut ih =>
    rw [parts_opening (Text.cutFirst_eq_none_iff.mp hcut), List.mem_cons] at h
    exact ih (h.resolve_left Part.noConfusion)
  | case4 c rest hplain ih =>
    rw [parts_plain hplain, List.mem_cons] at h
    exact ih (h.resolve_left Part.noConfusion)

/-! ### Replacing variables -/

variable (environment : Environment)

attribute [local simp] substitute in
@[simp] theorem substitute_nil : substitute environment [] = .ok [] := by simp

theorem substitute_reference {inside : List Char} (h : '\x7d' ∉ inside) (behind : List Char) :
    substitute environment ('$' :: '\x7b' :: (inside ++ '\x7d' :: behind)) = do
      let value ← reference environment inside
      return value ++ (← substitute environment behind) := by
  have hcut := Text.cutFirst_append h behind
  rw [substitute]
  split
  · rename_i inside' behind' hsome
    obtain ⟨rfl, rfl⟩ := Prod.mk.inj (Option.some.inj (hcut.symm.trans hsome))
    rfl
  · rename_i hnone
    cases hcut.symm.trans hnone

theorem substitute_dollars (rest : List Char) :
    substitute environment ('$' :: '$' :: rest) =
      (substitute environment rest).map ('$' :: ·) := by
  rw [substitute]

theorem substitute_plain {c : Char} (h : c ≠ '$') (rest : List Char) :
    substitute environment (c :: rest) = (substitute environment rest).map (c :: ·) := by
  rw [substitute]
  all_goals simp [h]

/-- A dollar sign stands for itself if neither a dollar sign nor a name is behind it, nor a bracket
that is closed. -/
theorem substitute_dollar {rest : List Char} (hclosing : '\x7d' ∉ rest)
    (h : ∀ c tail, rest = c :: tail → c ≠ '$' ∧ isNameChar c = false) :
    substitute environment ('$' :: rest) = (substitute environment rest).map ('$' :: ·) := by
  by_cases hopen : ∃ tail, rest = '\x7b' :: tail
  · obtain ⟨tail, rfl⟩ := hopen
    have hcut := Text.cutFirst_eq_none_iff.mpr fun hmem => hclosing (List.mem_cons_of_mem _ hmem)
    rw [substitute, substitute_plain environment (by decide)]
    split
    · rename_i hsome
      cases hcut.symm.trans hsome
    · cases substitute environment tail <;> rfl
  · have hname : rest.takeWhile isNameChar = [] := by
      cases rest with
      | nil => rfl
      | cons c tail => simp [(h c tail rfl).2]
    rw [substitute]
    · rw [hname]
    · exact fun tail heq => hopen ⟨tail, heq⟩
    · exact fun tail heq => (h _ _ heq).1 rfl

/-- A text stands for itself if it neither closes a reference nor holds two dollar signs or a bare
name. -/
theorem substitute_eq_self {s : List Char} (hclosing : '\x7d' ∉ s)
    (h : ∀ c after, '$' :: c :: after <:+ s → c ≠ '$' ∧ isNameChar c = false) :
    substitute environment s = .ok s := by
  induction s with
  | nil => rw [substitute_nil]
  | cons c rest ih =>
    have hrest : '\x7d' ∉ rest := fun hmem => hclosing (List.mem_cons_of_mem _ hmem)
    have hself := ih hrest fun d after hsuffix =>
      h d after (hsuffix.trans (List.suffix_cons c rest))
    by_cases hc : c = '$'
    · subst hc
      rw [substitute_dollar environment hrest, hself]
      · rfl
      · rintro d tail rfl
        exact h d tail List.suffix_rfl
    · rw [substitute_plain environment hc, hself]
      rfl

/-- **A reference on its own.** It stands for the value of its variable, or else for its default. -/
theorem value_reference {inside : List Char} (h : '\x7d' ∉ inside) :
    (Part.reference inside).value environment = reference environment inside := by
  rw [Part.value, Part.text, List.cons_append, List.cons_append,
    substitute_reference environment h [], substitute_nil]
  cases reference environment inside with
  | error name => rfl
  | ok value =>
    show Except.ok (value ++ []) = Except.ok value
    rw [List.append_nil]

/-! ### Doubling dollar signs -/

/-- Inside a reference everything stays as it is, up to the closing bracket. -/
theorem protect_append {inside : List Char} (h : '\x7d' ∉ inside) (behind : List Char) :
    protect true (inside ++ '\x7d' :: behind) = inside ++ '\x7d' :: protect false behind := by
  induction inside with
  | nil => rfl
  | cons c rest ih =>
    obtain ⟨hc, hrest⟩ := not_or.mp (mt List.mem_cons.mpr h)
    have hinside : (c != '\x7d') = true := bne_iff_ne.mpr (Ne.symm hc)
    rw [List.cons_append, List.cons_append, protect, if_pos rfl, hinside, ih hrest]

theorem protect_of_notMem {s : List Char} (h : '\x7d' ∉ s) : protect true s = s := by
  induction s with
  | nil => rfl
  | cons c rest ih =>
    obtain ⟨hc, hrest⟩ := not_or.mp (mt List.mem_cons.mpr h)
    have hinside : (c != '\x7d') = true := bne_iff_ne.mpr (Ne.symm hc)
    rw [protect, if_pos rfl, hinside, ih hrest]

theorem protect_reference {inside : List Char} (h : '\x7d' ∉ inside) (behind : List Char) :
    protect false ('$' :: '\x7b' :: (inside ++ '\x7d' :: behind)) =
      '$' :: '\x7b' :: (inside ++ '\x7d' :: protect false behind) := by
  rw [← protect_append h behind]
  rfl

theorem protect_opening {rest : List Char} (h : '\x7d' ∉ rest) :
    protect false ('$' :: '\x7b' :: rest) = '$' :: '\x7b' :: rest := by
  calc protect false ('$' :: '\x7b' :: rest) = '$' :: '\x7b' :: protect true rest := rfl
    _ = '$' :: '\x7b' :: rest := by rw [protect_of_notMem h]

theorem protect_dollar {rest : List Char} (h : ∀ tail, rest ≠ '\x7b' :: tail) :
    protect false ('$' :: rest) = '$' :: '$' :: protect false rest := by
  have hhead : rest.head? ≠ some '\x7b' := by
    cases rest with
    | nil => simp
    | cons c tail =>
      rw [List.head?_cons, ne_eq, Option.some.injEq]
      exact fun hc => h tail (congrArg (· :: tail) hc)
  rw [protect, if_neg Bool.false_ne_true, if_pos rfl, if_neg hhead]

theorem protect_plain {c : Char} (h : c ≠ '$') (rest : List Char) :
    protect false (c :: rest) = c :: protect false rest := by
  rw [protect, if_neg Bool.false_ne_true, if_neg h]

/-! ### The scan -/

theorem scanned_reference {inside : List Char} (h : '\x7d' ∉ inside) (behind : List Char) :
    scanned environment ('$' :: '\x7b' :: (inside ++ '\x7d' :: behind)) = do
      let value ← reference environment inside
      return value ++ (← scanned environment behind) := by
  rw [scanned, parts_reference h, List.mapM_cons, value_reference environment h, scanned]
  cases reference environment inside with
  | error name => rfl
  | ok value => cases (parts behind).mapM (Part.value environment) <;> rfl

theorem scanned_plain {c : Char} {rest : List Char}
    (h : parts (c :: rest) = .plain c :: parts rest) :
    scanned environment (c :: rest) = (scanned environment rest).map (c :: ·) := by
  rw [scanned, h, List.mapM_cons, Part.value, scanned]
  cases (parts rest).mapM (Part.value environment) <;> rfl

theorem scanned_eq_self {s : List Char} (h : parts s = s.map .plain) :
    scanned environment s = .ok s := by
  have hvalues : ∀ cs : List Char, (cs.map Part.plain).mapM (Part.value environment) =
      .ok (cs.map fun c => [c]) := by
    intro cs
    induction cs with
    | nil => rfl
    | cons c rest ih =>
      rw [List.map_cons, List.mapM_cons, ih]
      rfl
  rw [scanned, h, hvalues, Except.map, ← List.flatMap_def, List.flatMap_singleton']

variable {environment}

/-- **Two passes.** Doubling the bare dollar signs and replacing all variables comes to replacing
the closed references one by one. -/
theorem substitute_protect {s : List Char} (h : KeepsDollars s) :
    substitute environment (protect false s) = scanned environment s := by
  induction s using parts.induct with
  | case1 =>
    rw [protect, substitute_nil, scanned, parts_nil]
    rfl
  | case2 rest inside behind hcut ih =>
    obtain rfl := Text.cutFirst_eq_some hcut
    have hinside := Text.notMem_of_cutFirst_eq_some hcut
    rw [protect_reference hinside, substitute_reference environment hinside,
      scanned_reference environment hinside, ih]
    exact h.of_suffix ⟨'$' :: '\x7b' :: (inside ++ ['\x7d']), by simp⟩
  | case3 rest hcut ih =>
    have hrest := Text.cutFirst_eq_none_iff.mp hcut
    have hself : substitute environment ('\x7b' :: rest) = .ok ('\x7b' :: rest) := by
      rw [substitute_plain environment (by decide),
        substitute_eq_self environment hrest (h rest List.suffix_rfl hrest)]
      rfl
    rw [protect_opening hrest, substitute_dollar environment (by simp [hrest])
      (by rintro c tail ⟨rfl, rfl⟩; decide), hself, scanned_eq_self]
    · rfl
    · refine parts_of_not_closed fun before inside behind heq => hrest ?_
      have hmem : '\x7d' ∈ '$' :: '\x7b' :: rest := by simp [heq]
      simpa using hmem
  | case4 c rest hplain ih =>
    have hstep := ih (h.of_suffix (List.suffix_cons c rest))
    rw [scanned_plain environment (parts_plain hplain), ← hstep]
    by_cases hc : c = '$'
    · subst hc
      rw [protect_dollar fun tail heq => hplain tail rfl heq, substitute_dollars]
    · rw [protect_plain hc, substitute_plain environment hc]

/-! ### Settings with their variables replaced -/

/-- A setting without an opening has no references. -/
theorem parts_of_unopened {s : List Char} (h : ¬ ['$', '\x7b'] <:+: s) :
    parts s = s.map .plain := by
  refine parts_of_not_closed fun before inside behind heq => h ?_
  refine ⟨before, inside ++ '\x7d' :: behind, ?_⟩
  rw [heq, List.append_assoc]
  rfl

theorem expand_eq {s : String} (h : KeepsDollars s.toList) :
    expand environment s = (scanned environment s.toList).map String.ofList := by
  rw [expand]
  by_cases hinfix : Text.hasInfix ['$', '\x7b'] s.toList = true
  · rw [if_pos hinfix, substitute_protect h]
  · rw [if_neg hinfix, scanned_eq_self environment (parts_of_unopened
      fun hopening => hinfix (Text.hasInfix_iff.mpr hopening)), Except.map, String.ofList_toList]

/-- A reference fails if it has no default and its variable has no value. -/
theorem reference_eq_error_iff {inside : List Char} {unset : String} :
    reference environment inside = .error unset ↔ (nameAndDefault inside).2 = none ∧
      String.ofList (nameAndDefault inside).1 = unset ∧ environment.lookup unset = none := by
  simp only [reference, valueOf]
  obtain ⟨name, fallback⟩ := nameAndDefault inside
  cases hvalue : environment.lookup (String.ofList name) with
  | some value =>
    refine ⟨nofun, ?_⟩
    rintro ⟨-, rfl, hnone⟩
    cases hvalue.symm.trans hnone
  | none =>
    cases fallback with
    | some value => exact ⟨nofun, nofun⟩
    | none =>
      refine ⟨fun herror => ?_, fun ⟨_, heq, _⟩ => congrArg _ heq⟩
      obtain rfl := Except.error.inj herror
      exact ⟨rfl, rfl, hvalue⟩

theorem scanned_eq_error_iff {s : List Char} {unset : String} :
    scanned environment s = .error unset ↔ ∃ before inside after,
      parts s = before ++ .reference inside :: after ∧
        (∀ part ∈ before, ∃ value, part.value environment = .ok value) ∧
        (nameAndDefault inside).2 = none ∧ String.ofList (nameAndDefault inside).1 = unset ∧
        environment.lookup unset = none := by
  rw [scanned, except_map_eq_error, mapM_eq_error_iff]
  constructor
  · rintro ⟨before, part, after, hparts, hbefore, hpart⟩
    cases part with
    | plain c => cases hpart
    | reference inside =>
      have hmem : .reference inside ∈ parts s := by simp [hparts]
      rw [value_reference environment (notMem_of_reference_mem hmem)] at hpart
      exact ⟨before, inside, after, hparts, hbefore, reference_eq_error_iff.mp hpart⟩
  · rintro ⟨before, inside, after, hparts, hbefore, hunset⟩
    have hmem : .reference inside ∈ parts s := by simp [hparts]
    refine ⟨before, .reference inside, after, hparts, hbefore, ?_⟩
    rw [value_reference environment (notMem_of_reference_mem hmem)]
    exact reference_eq_error_iff.mpr hunset

/-- Only the variables of closed references are looked up. -/
theorem scanned_congr {other : Environment} {s : List Char}
    (h : ∀ inside, .reference inside ∈ parts s →
      other.lookup (String.ofList (nameAndDefault inside).1) =
        environment.lookup (String.ofList (nameAndDefault inside).1)) :
    scanned other s = scanned environment s := by
  have hvalue : ∀ part ∈ parts s, part.value other = part.value environment := by
    intro part hpart
    cases part with
    | plain c => rfl
    | reference inside =>
      have hinside := notMem_of_reference_mem hpart
      rw [value_reference other hinside, value_reference environment hinside]
      simp only [reference, valueOf, h inside hpart]
  rw [scanned, scanned, mapM_congr hvalue]

/-- **Variables in settings.** If no bare name and no second dollar sign stands behind an opening
that is never closed, then a setting is read from left to right: every closed reference is replaced
by what it stands for on its own, and every other character stays. It fails for the first reference
without a default whose variable has no value, and it looks up no variable but those of closed
references. -/
theorem expand_eq_scanned (environment : Environment) (s : String) (h : KeepsDollars s.toList) :
    expand environment s = (scanned environment s.toList).map String.ofList ∧
    (∀ unset, expand environment s = .error unset ↔ ∃ before inside after,
      parts s.toList = before ++ .reference inside :: after ∧
        (∀ part ∈ before, ∃ value, part.value environment = .ok value) ∧
        (nameAndDefault inside).2 = none ∧ String.ofList (nameAndDefault inside).1 = unset ∧
        environment.lookup unset = none) ∧
    ∀ other : Environment, (∀ inside, .reference inside ∈ parts s.toList →
      other.lookup (String.ofList (nameAndDefault inside).1) =
        environment.lookup (String.ofList (nameAndDefault inside).1)) →
      expand other s = expand environment s := by
  refine ⟨expand_eq h, fun unset => ?_, fun other hother => ?_⟩
  · rw [expand_eq h, except_map_eq_error, scanned_eq_error_iff]
  · rw [expand_eq h, expand_eq h, scanned_congr hother]

/-- A setting with bare names, a default with a dollar sign in it, adjacent dollar signs and an
opening that is never closed. -/
private def layered : String := "$A.$$\x7bA\x7d$$\x7bB:-$x\x7d\x7d$\x7b$"

theorem expand_eq_scanned_of_layered : KeepsDollars layered.toList ∧
    (expand [("A", "web")] layered).toOption = some "$A.$web$$x\x7d$\x7b$" := by
  have hkeeps : KeepsDollars layered.toList := by
    intro behind hbehind hclosing c after hafter
    have hmem : behind = "A\x7d$$\x7bB:-$x\x7d\x7d$\x7b$".toList ∨
        behind = "B:-$x\x7d\x7d$\x7b$".toList ∨ behind = ['$'] := by
      simpa [layered] using (List.mem_tails ..).mpr hbehind
    rcases hmem with rfl | rfl | rfl
    · exact absurd (by decide) hclosing
    · exact absurd (by decide) hclosing
    · exact absurd hafter.length_le (by simp)
  refine ⟨hkeeps, ?_⟩
  rw [(expand_eq_scanned [("A", "web")] layered hkeeps).1]
  decide +kernel

/-- Behind an opening that is never closed, a bare name is a variable. -/
theorem expand_ne_scanned_of_unclosed :
    (expand [("B", "x")] "$\x7ba $B").toOption = some "$\x7ba x" ∧
      (expand [] "$\x7ba $B").toOption = none ∧
      ∀ environment ∈ ([[("B", "x")], []] : List Environment),
        (scanned environment "$\x7ba $B".toList).toOption = some "$\x7ba $B".toList := by
  decide +kernel

end Settings

end MarkdownPages
