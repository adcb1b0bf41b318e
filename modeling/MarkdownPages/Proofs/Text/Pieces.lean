import MarkdownPages.Text.Split

/-!
# Pieces between separators

Cutting a sequence at every separator and joining the pieces again are inverse to each other, as long
as no piece holds a separator. So a text put together from parts is cut where the parts meet, and a
path too.

## Main results

* `Text.splitOn_append` — the pieces of two texts with a separator between them
* `Text.splitOn_joined`, `Text.joined_splitOn` — the pieces of joined pieces, and joined again
* `Text.cutFirst_append`, `Text.cutLast_append` — cutting at the first and at the last separator
* `Text.notMem_of_cutFirst_eq_some`, `Text.notMem_of_cutLast_eq_some` — the piece before the first
  separator and the one behind the last hold none
-/

namespace MarkdownPages

namespace Text

variable {α : Type} {isSeparator : α → Bool}

theorem splitOn_cons_of_not {c : α} (hc : isSeparator c = false) (rest : List α) :
    ∃ piece pieces, splitOn isSeparator rest = piece :: pieces ∧
      splitOn isSeparator (c :: rest) = (c :: piece) :: pieces := by
  obtain ⟨piece, pieces, hrest⟩ := List.exists_cons_of_ne_nil (splitOn_ne_nil isSeparator rest)
  refine ⟨piece, pieces, hrest, ?_⟩
  rw [splitOn, hrest]
  simp [hc]

/-- A separator between two texts parts their pieces. -/
theorem splitOn_append {c : α} (hc : isSeparator c = true) (s t : List α) :
    splitOn isSeparator (s ++ c :: t) = splitOn isSeparator s ++ splitOn isSeparator t := by
  induction s with
  | nil => exact splitOn_cons_of_separator hc
  | cons d rest ih =>
    by_cases hd : isSeparator d = true
    · rw [List.cons_append, splitOn_cons_of_separator hd, splitOn_cons_of_separator hd, ih,
        List.cons_append]
    · rw [Bool.not_eq_true] at hd
      obtain ⟨piece, pieces, hrest, hcons⟩ := splitOn_cons_of_not hd rest
      obtain ⟨piece', pieces', hrest', hcons'⟩ := splitOn_cons_of_not hd (rest ++ c :: t)
      rw [ih, hrest, List.cons_append] at hrest'
      obtain ⟨rfl, rfl⟩ := List.cons.inj hrest'
      rw [List.cons_append, hcons', hcons, List.cons_append]

theorem splitOn_congr {isOther : α → Bool} {s : List α}
    (h : ∀ c ∈ s, isSeparator c = isOther c) : splitOn isSeparator s = splitOn isOther s := by
  induction s with
  | nil => rfl
  | cons c rest ih =>
    obtain ⟨hc, hrest⟩ := List.forall_mem_cons.mp h
    rw [splitOn, splitOn, ih hrest, hc]

/-- Pieces that are not empty are made of characters of the text, so there are no more of them than
of these. -/
theorem countP_splitOn_le (isSeparator : α → Bool) (s : List α) :
    (splitOn isSeparator s).countP (!·.isEmpty) ≤ s.length := by
  induction s with
  | nil => exact Nat.le_refl 0
  | cons c rest ih =>
    by_cases hc : isSeparator c = true
    · rw [splitOn_cons_of_separator hc, List.countP_cons_of_neg (by simp)]
      exact Nat.le_succ_of_le ih
    · rw [Bool.not_eq_true] at hc
      obtain ⟨piece, pieces, hrest, hcons⟩ := splitOn_cons_of_not hc rest
      rw [hrest, List.countP_cons] at ih
      rw [hcons, List.countP_cons_of_pos (by simp), List.length_cons]
      omega

theorem splitOn_of_forall {s : List α} (h : ∀ c ∈ s, isSeparator c = false) :
    splitOn isSeparator s = [s] := by
  induction s with
  | nil => rfl
  | cons c rest ih =>
    obtain ⟨piece, pieces, hrest, hcons⟩ :=
      splitOn_cons_of_not (h c (List.mem_cons_self ..)) rest
    rw [ih fun d hd => h d (List.mem_cons_of_mem _ hd)] at hrest
    obtain ⟨rfl, rfl⟩ := List.cons.inj hrest
    exact hcons

/-- A beginning without separators belongs to the first piece. -/
theorem splitOn_append_of_forall {s t piece : List α} {pieces : List (List α)}
    (h : ∀ c ∈ s, isSeparator c = false) (ht : splitOn isSeparator t = piece :: pieces) :
    splitOn isSeparator (s ++ t) = (s ++ piece) :: pieces := by
  induction s with
  | nil => exact ht
  | cons c rest ih =>
    obtain ⟨hc, hrest⟩ := List.forall_mem_cons.mp h
    obtain ⟨first, more, hsplit, hcons⟩ := splitOn_cons_of_not hc (rest ++ t)
    rw [ih hrest, List.cons.injEq] at hsplit
    obtain ⟨rfl, rfl⟩ := hsplit
    exact hcons

theorem not_separator_of_mem_splitOn {s piece : List α} {c : α}
    (hpiece : piece ∈ splitOn isSeparator s) (hc : c ∈ piece) :
    isSeparator c = false ∧ c ∈ s := by
  induction s generalizing piece with
  | nil =>
    obtain rfl := List.mem_singleton.mp hpiece
    cases hc
  | cons d rest ih =>
    by_cases hd : isSeparator d = true
    · rw [splitOn_cons_of_separator hd] at hpiece
      rcases List.mem_cons.mp hpiece with rfl | hpiece
      · cases hc
      · exact (ih hpiece hc).imp_right (List.mem_cons_of_mem _)
    · rw [Bool.not_eq_true] at hd
      obtain ⟨first, pieces, hrest, hcons⟩ := splitOn_cons_of_not hd rest
      rw [hcons] at hpiece
      rcases List.mem_cons.mp hpiece with rfl | hpiece
      · rcases List.mem_cons.mp hc with rfl | hc
        · exact ⟨hd, List.mem_cons_self ..⟩
        · exact (ih (hrest ▸ List.mem_cons_self ..) hc).imp_right (List.mem_cons_of_mem _)
      · exact (ih (hrest ▸ List.mem_cons_of_mem _ hpiece) hc).imp_right (List.mem_cons_of_mem _)

/-- A character is a separator or stands in a piece between separators. -/
theorem mem_splitOn (isSeparator : α → Bool) {s : List α} {c : α} (h : c ∈ s) :
    isSeparator c = true ∨ ∃ piece ∈ splitOn isSeparator s, c ∈ piece := by
  induction s with
  | nil => cases h
  | cons d rest ih =>
    rw [splitOn]
    cases hsplit : splitOn isSeparator rest with
    | nil => exact absurd hsplit (splitOn_ne_nil isSeparator rest)
    | cons piece pieces =>
      rw [hsplit] at ih
      by_cases hd : isSeparator d = true
      · rcases List.mem_cons.mp h with rfl | hc
        · exact .inl hd
        · simp only [if_pos hd]
          rcases ih hc with hseparator | ⟨p, hp, hcp⟩
          · exact .inl hseparator
          · exact .inr ⟨p, List.mem_cons_of_mem _ hp, hcp⟩
      · simp only [if_neg hd]
        rcases List.mem_cons.mp h with rfl | hc
        · exact .inr ⟨c :: piece, List.mem_cons_self .., List.mem_cons_self ..⟩
        · rcases ih hc with hseparator | ⟨p, hp, hcp⟩
          · exact .inl hseparator
          · rcases List.mem_cons.mp hp with rfl | hp
            · exact .inr ⟨d :: p, List.mem_cons_self .., List.mem_cons_of_mem _ hcp⟩
            · exact .inr ⟨p, List.mem_cons_of_mem _ hp, hcp⟩

theorem joined_singleton (separator piece : List α) : joined separator [piece] = piece :=
  List.intercalate_singleton

theorem joined_concat (separator : List α) {pieces : List (List α)} (hne : pieces ≠ [])
    (last : List α) :
    joined separator (pieces ++ [last]) = joined separator pieces ++ (separator ++ last) := by
  induction pieces with
  | nil => exact absurd rfl hne
  | cons piece rest ih =>
    cases rest with
    | nil =>
      rw [joined, joined, List.singleton_append, List.intercalate_cons_cons,
        List.intercalate_singleton, List.intercalate_singleton, List.append_assoc]
    | cons next rest =>
      have hrest := ih (List.cons_ne_nil next rest)
      rw [joined, joined, List.cons_append] at hrest
      rw [joined, joined, List.cons_append, List.cons_append, List.intercalate_cons_cons,
        List.intercalate_cons_cons, hrest, List.append_assoc, List.append_assoc, List.append_assoc]

variable [DecidableEq α]

/-- **Joining and cutting.** Joined pieces are the pieces of the text, if none holds the
separator. -/
theorem splitOn_joined {separator : α} {pieces : List (List α)} (hne : pieces ≠ [])
    (h : ∀ piece ∈ pieces, separator ∉ piece) :
    splitOn (· == separator) (joined [separator] pieces) = pieces := by
  have hsplit : ∀ piece ∈ pieces, splitOn (· == separator) piece = [piece] := by
    intro piece hpiece
    refine splitOn_of_forall fun c hc => ?_
    rw [beq_eq_false_iff_ne]
    rintro rfl
    exact h piece hpiece hc
  induction pieces with
  | nil => exact absurd rfl hne
  | cons piece rest ih =>
    cases rest with
    | nil =>
      rw [joined, List.intercalate_singleton]
      exact hsplit piece (List.mem_cons_self ..)
    | cons next rest =>
      have hrest := ih (by simp) (fun p hp => h p (List.mem_cons_of_mem _ hp))
        (fun p hp => hsplit p (List.mem_cons_of_mem _ hp))
      have happend := @splitOn_append α (· == separator) separator
        (beq_self_eq_true separator) piece (joined [separator] (next :: rest))
      rw [hsplit piece (List.mem_cons_self ..), hrest] at happend
      rw [joined, List.intercalate_cons_cons, List.append_assoc]
      exact happend

/-- **Cutting and joining.** The pieces of a text join to the text. -/
theorem joined_splitOn (separator : α) (s : List α) :
    joined [separator] (splitOn (· == separator) s) = s := by
  induction s with
  | nil => rfl
  | cons c rest ih =>
    by_cases hc : (c == separator) = true
    · obtain ⟨piece, pieces, hrest⟩ :=
        List.exists_cons_of_ne_nil (splitOn_ne_nil (· == separator) rest)
      have hcons : splitOn (· == separator) (c :: rest) = [] :: splitOn (· == separator) rest :=
        splitOn_cons_of_separator hc
      rw [hrest, joined] at ih
      rw [hcons, hrest, joined, List.intercalate_cons_cons, ih, beq_iff_eq.mp hc]
      rfl
    · rw [Bool.not_eq_true] at hc
      obtain ⟨piece, pieces, hrest, hcons⟩ := @splitOn_cons_of_not α (· == separator) c hc rest
      rw [hrest] at ih
      rw [hcons, ← ih]
      cases pieces with
      | nil => rw [joined, joined, List.intercalate_singleton, List.intercalate_singleton]
      | cons next more =>
        rw [joined, joined, List.intercalate_cons_cons, List.intercalate_cons_cons]
        rfl

/-! ### The first piece -/

theorem cutFirst_eq_none_iff {separator : α} {s : List α} :
    cutFirst separator s = none ↔ separator ∉ s := by
  induction s with
  | nil => simp [cutFirst]
  | cons c rest ih =>
    by_cases hc : c = separator
    · simp [cutFirst, hc]
    · simp [cutFirst, hc, Ne.symm hc, ih]

/-- Before the first separator there is none. -/
theorem notMem_of_cutFirst_eq_some {separator : α} {s before after : List α}
    (h : cutFirst separator s = some (before, after)) : separator ∉ before := by
  induction s generalizing before after with
  | nil => cases h
  | cons c rest ih =>
    rw [cutFirst] at h
    by_cases hc : (c == separator) = true
    · rw [if_pos hc] at h
      obtain ⟨rfl, -⟩ := Prod.mk.inj (Option.some.inj h)
      exact List.not_mem_nil
    · rw [if_neg hc] at h
      obtain ⟨⟨piece, behind⟩, hrest, hcut⟩ := Option.map_eq_some_iff.mp h
      obtain ⟨rfl, -⟩ := Prod.mk.inj hcut
      rw [List.mem_cons, not_or]
      exact ⟨fun heq => hc (beq_iff_eq.mpr heq.symm), ih hrest⟩

/-- A separator is the first one if there is none before it. -/
theorem cutFirst_append {separator : α} {before : List α} (h : separator ∉ before)
    (after : List α) :
    cutFirst separator (before ++ separator :: after) = some (before, after) := by
  induction before with
  | nil => simp [cutFirst]
  | cons c rest ih =>
    obtain ⟨hc, hrest⟩ := not_or.mp (mt List.mem_cons.mpr h)
    have hne : (c == separator) = false := beq_eq_false_iff_ne.mpr (Ne.symm hc)
    rw [List.cons_append, cutFirst, hne, ih hrest]
    rfl

/-! ### The last piece -/

theorem cutLast_eq_none_iff {separator : α} {s : List α} :
    cutLast separator s = none ↔ separator ∉ s := by
  induction s with
  | nil => simp [cutLast]
  | cons c rest ih =>
    rw [cutLast, List.mem_cons, not_or]
    cases hrest : cutLast separator rest with
    | some parts => simp [← ih, hrest]
    | none =>
      have hnot : separator ∉ rest := ih.mp hrest
      by_cases hc : c = separator
      · simp [hc]
      · simp [hc, hnot, Ne.symm hc]

/-- Behind the last separator there is none. -/
theorem notMem_of_cutLast_eq_some {separator : α} {s before after : List α}
    (h : cutLast separator s = some (before, after)) : separator ∉ after := by
  induction s generalizing before after with
  | nil => cases h
  | cons c rest ih =>
    rw [cutLast] at h
    cases hrest : cutLast separator rest with
    | some parts =>
      obtain ⟨b, a⟩ := parts
      rw [hrest] at h
      obtain ⟨-, rfl⟩ := Prod.mk.inj (Option.some.inj h)
      exact ih hrest
    | none =>
      rw [hrest] at h
      dsimp only at h
      split at h
      · obtain ⟨-, rfl⟩ := Prod.mk.inj (Option.some.inj h)
        exact cutLast_eq_none_iff.mp hrest
      · cases h

/-- A separator is the last one if there is none behind it. -/
theorem cutLast_append {separator : α} {after : List α} (h : separator ∉ after)
    (before : List α) :
    cutLast separator (before ++ separator :: after) = some (before, after) := by
  induction before with
  | nil => simp [cutLast, cutLast_eq_none_iff.mpr h]
  | cons c rest ih => rw [List.cons_append, cutLast, ih]

/-! ### Texts inside others -/

theorem hasInfix_iff {pattern s : List Char} : hasInfix pattern s = true ↔ pattern <:+: s := by
  induction s with
  | nil => simp [hasInfix]
  | cons c rest ih => rw [hasInfix, Bool.or_eq_true, ih, List.isPrefixOf_iff_prefix,
      List.infix_cons_iff]

/-- A text that holds no separator stands before or behind it. -/
theorem infix_append_cons_iff {pattern before after : List Char} {separator : Char}
    (hne : pattern ≠ []) (h : separator ∉ pattern) :
    pattern <:+: before ++ separator :: after ↔ pattern <:+: before ∨ pattern <:+: after := by
  induction before with
  | nil =>
    rw [List.nil_append, List.infix_cons_iff, List.prefix_cons_iff, List.infix_nil]
    refine or_congr_left ⟨?_, fun heq => absurd heq hne⟩
    rintro (heq | ⟨rest, rfl, -⟩)
    · exact heq
    · exact absurd (List.mem_cons_self ..) h
  | cons c rest ih =>
    have hstart : pattern <+: c :: (rest ++ separator :: after) ↔ pattern <+: c :: rest := by
      refine ⟨fun hprefix => ?_, fun hprefix => hprefix.trans (List.prefix_append (c :: rest) _)⟩
      rcases List.prefix_or_prefix_of_prefix hprefix
        (List.prefix_append (c :: rest) (separator :: after)) with hshort | hlong
      · exact hshort
      · obtain ⟨tail, rfl⟩ := hlong
        cases tail with
        | nil => exact ⟨[], by rw [List.append_nil, List.append_nil]⟩
        | cons d tail =>
          obtain ⟨more, hmore⟩ := hprefix
          rw [← List.cons_append, List.append_assoc, List.append_cancel_left_eq] at hmore
          obtain ⟨rfl, -⟩ := List.cons.inj hmore
          exact absurd (List.mem_append_right _ (List.mem_cons_self ..)) h
    rw [List.cons_append, List.infix_cons_iff, List.infix_cons_iff, ih, hstart, or_assoc]

end Text

end MarkdownPages
