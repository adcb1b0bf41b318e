/-!
# Sets of code points as lists of ranges

A character class of Unicode is written down as the list of its maximal ranges, first and last
code point included, in increasing order. Membership is a scan of that list: the tables are
read by people and by proofs, and a scan needs no invariant of the order to be right.

## Main definitions

* `Text.inRanges` — whether a code point lies in one of the ranges
-/

namespace MarkdownPages

namespace Text

/-- Whether `n` lies in one of the ranges, ends included. -/
def inRanges (n : Nat) : List (Nat × Nat) → Bool
  | [] => false
  | (first, last) :: rest => (first ≤ n && n ≤ last) || inRanges n rest

theorem inRanges_eq_true_iff {n : Nat} {ranges : List (Nat × Nat)} :
    inRanges n ranges = true ↔ ∃ r ∈ ranges, r.1 ≤ n ∧ n ≤ r.2 := by
  induction ranges with
  | nil => simp [inRanges]
  | cons r rest ih =>
    obtain ⟨first, last⟩ := r
    simp [inRanges, ih]

end Text

end MarkdownPages
