import Mathlib.Data.List.Nodup
import MarkdownPages.Proofs.Text.Ascending
import MarkdownPages.Proofs.Text.Pieces
import MarkdownPages.Render.Context

/-!
# Ids of headings

The first heading with a slug has the slug for its id, and each later one has the slug with a number
behind it, counted for every slug on its own. An id with a number can be read back, since the number
stands behind the last dash. So two headings have one id only if the slug of one of them looks like
a number behind the slug of others, and there are enough others to reach that number.

## Main definitions

* `Context.headingIds` — the ids of headings one after the other
* `Site.numbered` — a slug with a number behind it
* `Site.uses` — slugs with the number of times that each was used before

## Main results

* `Site.numbered_eq_iff` — when two ids are the same
* `Context.headingIds_eq` — the ids are the slugs with their numbers
* `Context.nodup_headingIds_iff` — when all ids are different
-/

namespace MarkdownPages

namespace Site

/-! ### Slugs with numbers -/

/-- The id of a heading whose slug was used `n` times before. -/
def numbered (slug : String) (n : Nat) : String := if n = 0 then slug else slug ++ "-" ++ toString n

theorem numbered_of_pos {n : Nat} (hn : 0 < n) (slug : String) :
    numbered slug n = slug ++ "-" ++ toString n := by
  rw [numbered, if_neg (by omega)]

theorem toList_numbered {n : Nat} (hn : 0 < n) (slug : String) :
    (numbered slug n).toList = slug.toList ++ '-' :: (toString n).toList := by
  rw [numbered_of_pos hn, String.toList_append, String.toList_append, List.append_assoc]
  rfl

theorem dash_notMem_toString (n : Nat) : '-' ∉ (toString n).toList := by
  intro h
  have hdigit : ('-').isDigit = true :=
    Nat.isDigit_of_mem_toDigits (b := 10) (n := n) (by decide) (by decide) (by simpa using h)
  cases hdigit

theorem toString_injective {m n : Nat} (h : toString m = toString n) : m = n := by
  have hread := congrArg (fun s : String => Nat.ofDigitChars 10 s.toList 0) h
  simpa [Nat.toString_eq_ofList_toDigits] using hread

/-- A slug and its number are read back from an id. -/
theorem numbered_injective {slug other : String} {m n : Nat} (hm : 0 < m) (hn : 0 < n)
    (h : numbered slug m = numbered other n) : slug = other ∧ m = n := by
  have hcut := congrArg (fun id : String => Text.cutLast '-' id.toList) h
  simp only [toList_numbered hm, toList_numbered hn, Text.cutLast_append (dash_notMem_toString _),
    Option.some.injEq, Prod.mk.injEq] at hcut
  exact ⟨String.toList_inj.mp hcut.1, toString_injective (String.toList_inj.mp hcut.2)⟩

/-- Two ids are the same if slug and number are, or if one of them has no number and its slug is
the other one. -/
theorem numbered_eq_iff {slug other : String} {m n : Nat} :
    numbered slug m = numbered other n ↔ (slug = other ∧ m = n) ∨
      (m = 0 ∧ 0 < n ∧ slug = numbered other n) ∨ (n = 0 ∧ 0 < m ∧ other = numbered slug m) := by
  constructor
  · intro h
    rcases Nat.eq_zero_or_pos m with rfl | hm
    · rcases Nat.eq_zero_or_pos n with rfl | hn
      · exact .inl ⟨h, rfl⟩
      · exact .inr (.inl ⟨rfl, hn, h⟩)
    · rcases Nat.eq_zero_or_pos n with rfl | hn
      · exact .inr (.inr ⟨rfl, hm, h.symm⟩)
      · exact .inl (numbered_injective hm hn h)
  · rintro (⟨rfl, rfl⟩ | ⟨rfl, -, h⟩ | ⟨rfl, -, h⟩)
    · rfl
    · exact h
    · exact h.symm

theorem numbered_ne_empty {n : Nat} (hn : 0 < n) (slug : String) : numbered slug n ≠ "" := by
  rw [numbered_of_pos hn]
  simp

/-! ### Slugs one after the other -/

/-- Slugs one after the other, each with the number of times that it was used before, if those in
`earlier` were used before all of them. -/
def uses (earlier : List String) : List String → List (String × Nat)
  | [] => []
  | slug :: rest => (slug, earlier.count slug) :: uses (slug :: earlier) rest

theorem mem_uses {earlier slugs : List String} {slug : String} {n : Nat} :
    (slug, n) ∈ uses earlier slugs ↔
      earlier.count slug ≤ n ∧ n < earlier.count slug + slugs.count slug := by
  induction slugs generalizing earlier with
  | nil => simp [uses]
  | cons first rest ih =>
    rw [uses, List.mem_cons, ih, List.count_cons, List.count_cons, Prod.mk.injEq]
    by_cases h : first = slug
    · subst h
      simp only [beq_self_eq_true, if_true, true_and]
      omega
    · simp only [h, Ne.symm h, beq_iff_eq, if_false, false_and, false_or, Nat.add_zero]

/-- A slug is not used with the same number twice. -/
theorem nodup_uses (earlier slugs : List String) : (uses earlier slugs).Nodup := by
  induction slugs generalizing earlier with
  | nil => exact List.nodup_nil
  | cons first rest ih =>
    refine List.nodup_cons.mpr ⟨fun hmem => ?_, ih _⟩
    have hcount := (mem_uses.mp hmem).1
    rw [List.count_cons_self] at hcount
    omega

end Site

/-! ### Headings one after the other -/

namespace Context

/-- The ids of headings with the given texts, one after the other. -/
def headingIds (context : Context) : List String → List String
  | [] => []
  | text :: rest => (context.headingId text).1 :: (context.headingId text).2.headingIds rest

/-- How often a slug was used. -/
def timesUsed (context : Context) (slug : String) : Nat :=
  (Ascending.get? slug context.headingCounts).getD 0

theorem headingId_eq (context : Context) (text : String) :
    (context.headingId text).1 =
      Site.numbered (Site.slug text) (context.timesUsed (Site.slug text)) := rfl

/-- A heading uses its own slug once more. -/
theorem timesUsed_headingId (context : Context) (text slug : String) :
    (context.headingId text).2.timesUsed slug =
      context.timesUsed slug + if Site.slug text = slug then 1 else 0 := by
  rw [headingId, timesUsed]
  dsimp only
  by_cases h : Site.slug text = slug
  · subst h
    rw [Ascending.get?_put_self, if_pos rfl]
    rfl
  · rw [Ascending.get?_put_of_ne (Ne.symm h), if_neg h]
    rfl

/-- **Ids.** They are the slugs, with the number of times that each was used before. -/
theorem headingIds_eq {context : Context} {earlier : List String}
    (h : ∀ slug, context.timesUsed slug = earlier.count slug) (texts : List String) :
    context.headingIds texts = (Site.uses earlier (texts.map Site.slug)).map
      fun (slug, n) => Site.numbered slug n := by
  induction texts generalizing context earlier with
  | nil => rfl
  | cons text rest ih =>
    have hnext : ∀ slug, (context.headingId text).2.timesUsed slug =
        (Site.slug text :: earlier).count slug := by
      intro slug
      rw [timesUsed_headingId, h, List.count_cons]
      simp only [beq_iff_eq]
    rw [headingIds, headingId_eq, h, ih hnext]
    rfl

/-- **Different ids.** On a page without headings so far, the headings that have an id have
different ones if and only if no slug is what another slug becomes with one of its numbers. -/
theorem nodup_headingIds_iff {context : Context} (h : context.headingCounts = [])
    (texts : List String) : ((context.headingIds texts).filter (· ≠ "")).Nodup ↔
      ∀ slug ∈ texts.map Site.slug, ∀ n < (texts.map Site.slug).count slug, 0 < n →
        slug ++ "-" ++ toString n ∉ texts.map Site.slug := by
  have hunused : ∀ slug, context.timesUsed slug = ([] : List String).count slug := by
    intro slug
    rw [timesUsed, h]
    rfl
  rw [headingIds_eq hunused]
  generalize texts.map Site.slug = slugs
  have hmem : ∀ {slug : String} {n : Nat}, (slug, n) ∈ (Site.uses [] slugs).filter
      ((· ≠ "") ∘ fun (slug, n) => Site.numbered slug n) ↔
        n < slugs.count slug ∧ Site.numbered slug n ≠ "" := by
    intro slug n
    simp [Site.mem_uses]
  have hslug : ∀ {slug n}, n < slugs.count slug → slug ∈ slugs :=
    fun hn => List.count_pos_iff.mp (by omega)
  rw [List.filter_map, List.nodup_map_iff_inj_on ((Site.nodup_uses [] slugs).filter _)]
  constructor
  · intro hinj slug _ n hn hpos hnumbered
    rw [← Site.numbered_of_pos hpos] at hnumbered
    have hid := Site.numbered_ne_empty hpos slug
    have hplain := hmem.mpr ⟨List.count_pos_iff.mpr hnumbered, hid⟩
    have hzero := (Prod.mk.inj (hinj _ hplain (slug, n) (hmem.mpr ⟨hn, hid⟩) rfl)).2
    omega
  · rintro hfree ⟨slug, m⟩ hleft ⟨other, n⟩ hright heq
    have hm := (hmem.mp hleft).1
    have hn := (hmem.mp hright).1
    rcases Site.numbered_eq_iff.mp heq with ⟨rfl, rfl⟩ | ⟨-, hpos, rfl⟩ | ⟨-, hpos, rfl⟩
    · rfl
    · rw [Site.numbered_of_pos hpos] at hm
      exact absurd (hslug hm) (hfree other (hslug hn) n hn hpos)
    · rw [Site.numbered_of_pos hpos] at hn
      exact absurd (hslug hn) (hfree slug (hslug hm) m hm hpos)

/-- A page with repeated titles, titles that end in numbers, and titles without letters. -/
theorem nodup_headingIds_of_faq :
    let context : Context := { package := "pages", functionName := "IndexPage" }
    context.headingCounts = [] ∧
      ((context.headingIds ["FAQ", "FAQ", "FAQ 2", "!!!", "FAQ 2", "?"]).filter (· ≠ "")).Nodup :=
  ⟨rfl, (nodup_headingIds_iff rfl _).mpr (by decide +kernel)⟩

/-- The second of two like titles gets the id of a title that ends in a number. -/
theorem headingIds_of_numbered_title :
    let context : Context := { package := "pages", functionName := "IndexPage" }
    context.headingIds ["FAQ", "FAQ", "FAQ 1"] = ["faq", "faq-1", "faq-1"] ∧
      ¬ ((context.headingIds ["FAQ", "FAQ", "FAQ 1"]).filter (· ≠ "")).Nodup := by
  decide +kernel

end Context

end MarkdownPages
