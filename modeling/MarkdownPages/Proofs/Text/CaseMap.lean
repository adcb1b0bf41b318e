import MarkdownPages.Text.LowerCase
import MarkdownPages.Text.UpperCase

/-!
# Case maps keep to letters

Upper and lower case change letters only, and they change them into letters and marks. A character
below the letters of ASCII, such as a slash, a dot or a digit, is in the image of a text only if it
is in the text.

## Main definitions

* `Text.CaseRun.Moves` — the code points that a run moves

## Main results

* `Text.shifted_cases` — a code point stays, or one of the runs moves it
* `Text.toLower_and_toUpper_eq` — the case maps are what the tables say, in ASCII too
* `Text.eq_of_mem_toLower`, `Text.eq_of_mem_toUpper` — characters below the letters are not changed
* `Text.mem_of_mem_capitalized`, `Text.mem_of_mem_lowered` — the same of a text with a capital, and
  of a text in lower case
* `Text.lowered_eq_nil` — only the empty text has nothing in lower case
-/

namespace MarkdownPages

namespace Text

/-! ### Runs -/

/-- The code point is one that the run moves. -/
def CaseRun.Moves (run : CaseRun) (n : Nat) : Prop :=
  run.1 ≤ n ∧ n ≤ run.2.1 ∧ (n - run.1) % run.2.2.1 = 0

theorem shifted_cases (n : Nat) (runs : List CaseRun) :
    shifted n runs = n ∨
      ∃ run ∈ runs, run.Moves n ∧ shifted n runs = (n + run.2.2.2).toNat := by
  induction runs with
  | nil => exact .inl rfl
  | cons run rest ih =>
    obtain ⟨first, last, step, distance⟩ := run
    rw [shifted]
    split
    case isTrue hin =>
      simp only [Bool.and_eq_true, decide_eq_true_eq, beq_iff_eq] at hin
      exact .inr ⟨_, List.mem_cons_self, ⟨hin.1.1, hin.1.2, hin.2⟩, rfl⟩
    case isFalse =>
      refine ih.imp_right ?_
      rintro ⟨run, hrun, hmoves⟩
      exact ⟨run, List.mem_cons_of_mem _ hrun, hmoves⟩

/-- In ASCII only the first run matters. -/
private theorem caseMapped_of_ascii {run : CaseRun} {rest : List CaseRun}
    {several : List (Nat × List Nat)} (hrest : ∀ run ∈ rest, 0x80 ≤ run.1)
    (hseveral : ∀ entry ∈ several, 0x80 ≤ entry.1) {c : Char} (hc : c.toNat < 0x80) :
    caseMapped (run :: rest) several c = caseMapped [run] [] c := by
  have hone : several.lookup c.toNat = none := by
    refine List.lookup_eq_none_iff.mpr fun entry hentry => bne_iff_ne.mpr ?_
    have := hseveral entry hentry
    omega
  have hstays : shifted c.toNat rest = c.toNat := by
    refine (shifted_cases c.toNat rest).resolve_right ?_
    rintro ⟨run, hrun, ⟨hfirst, -, -⟩, -⟩
    have := hrest run hrun
    omega
  rw [caseMapped, caseMapped, hone, List.lookup_nil]
  obtain ⟨first, last, step, distance⟩ := run
  simp only [shifted, hstays]

/-- In ASCII, too, the case maps are the ones that the tables say. -/
theorem toLower_and_toUpper_eq (c : Char) :
    toLower c = caseMapped lowerRuns lowerSeveral c ∧
      toUpper c = caseMapped upperRuns upperSeveral c := by
  have hascii : ∀ n < 0x80,
      [(Char.ofNat n).toLower] = caseMapped [(0x41, 0x5A, 1, 32)] [] (Char.ofNat n) ∧
        [(Char.ofNat n).toUpper] = caseMapped [(0x61, 0x7A, 1, -32)] [] (Char.ofNat n) := by
    decide +kernel
  have hlower : lowerRuns = (0x41, 0x5A, 1, 32) :: lowerRuns.tail := rfl
  have hupper : upperRuns = (0x61, 0x7A, 1, -32) :: upperRuns.tail := rfl
  rw [toLower, toUpper]
  split
  case isTrue hc =>
    obtain ⟨hlow, hup⟩ := hascii c.toNat hc
    rw [Char.ofNat_toNat] at hlow hup
    rw [hlower, hupper]
    exact ⟨hlow.trans (caseMapped_of_ascii (by decide +kernel) (by decide +kernel) hc).symm,
      hup.trans (caseMapped_of_ascii (by decide +kernel) (by decide +kernel) hc).symm⟩
  case isFalse => exact ⟨rfl, rfl⟩

/-! ### Characters below the letters -/

private theorem le_toNat_ofNat {n : Nat} (hn : 0x40 ≤ n) (hne : Char.ofNat n ≠ Char.ofNat 0) :
    0x40 ≤ (Char.ofNat n).toNat := by
  by_cases hvalid : n.isValidChar
  · have hnat : (Char.ofNat n).toNat = n := by
      rw [Char.ofNat, dif_pos hvalid]
      rfl
    rwa [hnat]
  · refine absurd ?_ hne
    rw [Char.ofNat, dif_neg hvalid]
    rfl

/-- If whatever a case map changes becomes something above the bound, then what is below it stands
for itself. -/
private theorem eq_of_mem_caseMapped {runs : List CaseRun} {several : List (Nat × List Nat)}
    (hruns : ∀ run ∈ runs, 0x40 ≤ run.1 + run.2.2.2)
    (hseveral : ∀ entry ∈ several, ∀ n ∈ entry.2, 0x40 ≤ n) {c d : Char}
    (hd : d ∈ caseMapped runs several c) (hlow : d.toNat < 0x40) (hne : d ≠ Char.ofNat 0) :
    d = c := by
  rw [caseMapped] at hd
  cases hlookup : several.lookup c.toNat with
  | none =>
    rw [hlookup] at hd
    obtain rfl := List.mem_singleton.mp hd
    rcases shifted_cases c.toNat runs with hstays | ⟨run, hrun, ⟨hfirst, -, -⟩, hshifted⟩
    · rw [hstays, Char.ofNat_toNat]
    · have hbound := hruns run hrun
      have hle := le_toNat_ofNat (by omega) hne
      omega
  | some image =>
    rw [hlookup] at hd
    obtain ⟨n, hn, rfl⟩ := List.mem_map.mp hd
    obtain ⟨before, after, rfl, -⟩ := List.lookup_eq_some_iff.mp hlookup
    have hle := le_toNat_ofNat (hseveral (c.toNat, image) (by simp) n hn) hne
    omega

theorem eq_of_mem_toLower {c d : Char} (hd : d ∈ toLower c) (hlow : d.toNat < 0x40)
    (hne : d ≠ Char.ofNat 0) : d = c := by
  rw [(toLower_and_toUpper_eq c).1] at hd
  exact eq_of_mem_caseMapped (by decide +kernel) (by decide +kernel) hd hlow hne

theorem eq_of_mem_toUpper {c d : Char} (hd : d ∈ toUpper c) (hlow : d.toNat < 0x40)
    (hne : d ≠ Char.ofNat 0) : d = c := by
  rw [(toLower_and_toUpper_eq c).2] at hd
  exact eq_of_mem_caseMapped (by decide +kernel) (by decide +kernel) hd hlow hne

theorem mem_of_mem_capitalized {s : List Char} {d : Char} (hd : d ∈ capitalized s)
    (hlow : d.toNat < 0x40) (hne : d ≠ Char.ofNat 0) : d ∈ s := by
  cases s with
  | nil => cases hd
  | cons c rest =>
    rcases List.mem_append.mp hd with hd | hd
    · exact List.mem_cons.mpr (.inl (eq_of_mem_toUpper hd hlow hne))
    · exact List.mem_cons_of_mem _ hd

/-! ### Texts in lower case -/

theorem caseMapped_ne_nil {runs : List CaseRun} {several : List (Nat × List Nat)}
    (h : ∀ entry ∈ several, entry.2 ≠ []) (c : Char) : caseMapped runs several c ≠ [] := by
  rw [caseMapped]
  cases hlookup : several.lookup c.toNat with
  | none => exact List.cons_ne_nil _ _
  | some image =>
    obtain ⟨before, after, rfl, -⟩ := List.lookup_eq_some_iff.mp hlookup
    simpa using h (c.toNat, image) (by simp)

theorem toLower_ne_nil (c : Char) : toLower c ≠ [] := by
  rw [toLower]
  split
  · exact List.cons_ne_nil _ _
  · exact caseMapped_ne_nil (by decide) c

theorem toUpper_ne_nil (c : Char) : toUpper c ≠ [] := by
  rw [toUpper]
  split
  · exact List.cons_ne_nil _ _
  · exact caseMapped_ne_nil (by decide) c

/-- The lower case of a text does not depend on what stands before it where characters below the
letters are concerned. -/
private theorem mem_of_mem_loweredAfter {before s : List Char} {d : Char}
    (hd : d ∈ loweredAfter before s) (hlow : d.toNat < 0x40) (hne : d ≠ Char.ofNat 0) : d ∈ s := by
  induction s generalizing before with
  | nil => cases hd
  | cons c rest ih =>
    rw [loweredAfter] at hd
    rcases List.mem_append.mp hd with hfirst | hrest
    · refine List.mem_cons.mpr (.inl ?_)
      split at hfirst
      · -- both forms of the sigma are above the bound
        exfalso
        split at hfirst <;>
          · obtain rfl := List.mem_singleton.mp hfirst
            exact absurd hlow (by decide)
      · exact eq_of_mem_toLower hfirst hlow hne
    · exact List.mem_cons_of_mem _ (ih hrest)

theorem mem_of_mem_lowered {s : List Char} {d : Char} (hd : d ∈ lowered s) (hlow : d.toNat < 0x40)
    (hne : d ≠ Char.ofNat 0) : d ∈ s :=
  mem_of_mem_loweredAfter hd hlow hne

theorem lowered_eq_nil {s : List Char} : lowered s = [] ↔ s = [] := by
  cases s with
  | nil => exact ⟨fun _ => rfl, fun _ => rfl⟩
  | cons c rest =>
    rw [lowered, loweredAfter, List.append_eq_nil_iff]
    refine ⟨fun h => absurd h.1 ?_, (by cases ·)⟩
    split
    · exact List.cons_ne_nil _ _
    · exact toLower_ne_nil c

end Text

end MarkdownPages
