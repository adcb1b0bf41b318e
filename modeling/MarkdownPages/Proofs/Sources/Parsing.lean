import MarkdownPages.Markup.Parse
import MarkdownPages.Proofs.Sources.History

/-!
# How often a text is parsed

A document that is kept is not parsed again, so a text that the parser accepts goes to the parser
once, however often its document is asked for. What fails leaves nothing behind: a text that the
parser refuses goes to it whenever its document is asked for.

## Main definitions

* `Cache.timesParsed` — how often the text at a canonical path went to the parser
* `Cache.timesSought` — how often the path was asked for

## Main results

* `Cache.timesParsed_answer`, `Cache.mem_keys_answer` — what one lookup adds
* `Cache.timesParsed_after` — how often a text is parsed
-/

namespace MarkdownPages

namespace Cache

variable {cache later : Cache} {fs : FileSystem} {p q : Path} {lookup : Lookup}
  {lookups : List Lookup} {result : Except SourceError CachedTree}

/-- How often the text at a canonical path went to the parser. -/
def timesParsed (cache : Cache) (p : Path) : Nat := cache.parsed.count p

/-- How many lookups asked the cache for a canonical path. -/
def timesSought (roots : Roots) (lookups : List Lookup) (p : Path) : Nat :=
  lookups.countP fun lookup => lookup.sought? roots = some p

theorem timesSought_cons {roots : Roots} : timesSought roots (lookup :: lookups) p =
    timesSought roots lookups p + if lookup.sought? roots = some p then 1 else 0 := by
  simp [timesSought, List.countP_cons]

/-! ### One lookup -/

/-- Looking a canonical path up sends its text to the parser, unless the document is kept or cannot
be read. -/
theorem LoadsTo.timesParsed_eq (h : cache.LoadsTo fs q result later) (hq : q.IsCanonical)
    (hcache : cache.Orderly) (p : Path) : later.timesParsed p = cache.timesParsed p +
      if q = p ∧ p ∉ cache.keys ∧ (fs.read p).toBool then 1 else 0 := by
  cases h with
  | kept hfind =>
    have hkept : q ∈ cache.keys := mem_keys_of_find? hcache hq hfind
    rw [if_neg fun ⟨hsame, hnew, _⟩ => hnew (hsame ▸ hkept), Nat.add_zero]
  | unread _ hread =>
    have hunread : ¬ (fs.read q).toBool := by simp [hread, Except.toBool]
    rw [if_neg fun ⟨hsame, _, htext⟩ => hunread (hsame ▸ htext), Nat.add_zero]
  | refused hfind hread | parsed hfind hread =>
    have hnew : q ∉ cache.keys := (find?_eq_none_iff hcache hq).mp hfind
    have htext : (fs.read q).toBool := by rw [hread]; rfl
    rw [timesParsed, List.count_cons, timesParsed]
    by_cases hsame : q = p
    · subst hsame
      rw [if_pos (beq_self_eq_true q), if_pos ⟨rfl, hnew, htext⟩]
    · rw [if_neg (by simpa using hsame), if_neg (hsame ·.1)]

/-- Looking a canonical path up keeps its document, if the parser accepts the text. -/
theorem LoadsTo.mem_keys_iff (h : cache.LoadsTo fs q result later) (hq : q.IsCanonical)
    (hcache : cache.Orderly) : p ∈ later.keys ↔ p ∈ cache.keys ∨
      q = p ∧ ∃ text tree, fs.read p = .ok text ∧ cache.parse text = .ok tree := by
  cases h with
  | kept hfind =>
    have hkept : q ∈ cache.keys := mem_keys_of_find? hcache hq hfind
    exact ⟨.inl, fun h => h.elim id fun ⟨hsame, _⟩ => hsame ▸ hkept⟩
  | unread _ hread =>
    refine ⟨.inl, fun h => h.elim id ?_⟩
    rintro ⟨rfl, text, tree, htext, -⟩
    rw [hread] at htext
    cases htext
  | refused _ hread hparse =>
    refine ⟨.inl, fun h => h.elim id ?_⟩
    rintro ⟨rfl, text, tree, htext, htree⟩
    obtain rfl := Except.ok.inj (hread.symm.trans htext)
    rw [hparse] at htree
    cases htree
  | parsed _ hread hparse =>
    rw [keys, List.map_cons, List.mem_cons, or_comm, eq_comm]
    refine or_congr_right ⟨?_, And.left⟩
    rintro rfl
    exact ⟨rfl, _, _, hread, hparse⟩

theorem timesParsed_answer (hcache : cache.Orderly) (hlookup : lookup.files.isProper = true)
    (p : Path) : (cache.answer lookup).2.timesParsed p = cache.timesParsed p +
      if lookup.sought? cache.roots = some p ∧ p ∉ cache.keys ∧
        (lookup.files.read p).toBool then 1 else 0 := by
  rcases cache.answer_cases lookup with
    ⟨hsought, -, hafter⟩ | ⟨q, result, after, hsought, -, rfl, hload⟩
  · rw [hafter, hsought]
    simp
  · have hq := Lookup.isCanonical_of_sought? hlookup hsought
    rw [hload.timesParsed_eq hq hcache, hsought]
    simp only [Option.some_inj]

theorem mem_keys_answer (hcache : cache.Orderly) (hlookup : lookup.files.isProper = true) :
    p ∈ (cache.answer lookup).2.keys ↔ p ∈ cache.keys ∨ lookup.sought? cache.roots = some p ∧
      ∃ text tree, lookup.files.read p = .ok text ∧ cache.parse text = .ok tree := by
  rcases cache.answer_cases lookup with
    ⟨hsought, -, hafter⟩ | ⟨q, result, after, hsought, -, rfl, hload⟩
  · rw [hafter, hsought]
    simp
  · have hq := Lookup.isCanonical_of_sought? hlookup hsought
    rw [hload.mem_keys_iff hq hcache, hsought, Option.some_inj]

/-! ### Lookups one after the other -/

/-- What cannot be read is not parsed. -/
theorem timesParsed_after_of_unread (hcache : cache.Orderly)
    (hlookups : ∀ lookup ∈ lookups, lookup.files.isProper = true)
    (hread : ∀ lookup ∈ lookups, ∃ fault, lookup.files.read p = .error fault) :
    (cache.after lookups).timesParsed p = cache.timesParsed p := by
  induction lookups generalizing cache with
  | nil => rfl
  | cons lookup rest ih =>
    obtain ⟨hlookup, hrest⟩ := List.forall_mem_cons.mp hlookups
    obtain ⟨⟨fault, hfault⟩, hreadRest⟩ := List.forall_mem_cons.mp hread
    have hunread : ¬ (lookup.files.read p).toBool := by simp [hfault, Except.toBool]
    rw [after_cons, ih (answer_orderly hcache hlookup) hrest hreadRest,
      timesParsed_answer hcache hlookup, if_neg (hunread ·.2.2), Nat.add_zero]

/-- A text that the parser accepts is parsed when its document is first asked for. -/
theorem timesParsed_after_of_accepted {text : String} {tree : Node} (hcache : cache.Orderly)
    (hlookups : ∀ lookup ∈ lookups, lookup.files.isProper = true)
    (hread : ∀ lookup ∈ lookups, lookup.files.read p = .ok text)
    (hparse : cache.parse text = .ok tree) :
    (cache.after lookups).timesParsed p = cache.timesParsed p +
      if p ∈ cache.keys then 0 else min (timesSought cache.roots lookups p) 1 := by
  induction lookups generalizing cache with
  | nil => simp [timesSought]
  | cons lookup rest ih =>
    obtain ⟨hlookup, hrest⟩ := List.forall_mem_cons.mp hlookups
    obtain ⟨htext, hreadRest⟩ := List.forall_mem_cons.mp hread
    have hkeys := mem_keys_answer (p := p) hcache hlookup
    rw [after_cons, ih (answer_orderly hcache hlookup) hrest hreadRest
      (by rwa [answer_parse]), timesParsed_answer hcache hlookup, timesSought_cons, answer_roots]
    -- a first lookup that asks for the path takes the place of all later ones
    by_cases hkept : p ∈ cache.keys
    · simp [hkeys, hkept]
    · by_cases hsought : lookup.sought? cache.roots = some p
      · simp [hkeys, hkept, hsought, htext, hparse, Except.toBool]
      · simp [hkeys, hkept, hsought]

/-- A text that the parser refuses is parsed whenever its document is asked for. -/
theorem timesParsed_after_of_refused {text : String} {error : DocumentError}
    (hcache : cache.Orderly) (hlookups : ∀ lookup ∈ lookups, lookup.files.isProper = true)
    (hread : ∀ lookup ∈ lookups, lookup.files.read p = .ok text)
    (hparse : cache.parse text = .error error) (hnew : p ∉ cache.keys) :
    (cache.after lookups).timesParsed p =
      cache.timesParsed p + timesSought cache.roots lookups p := by
  induction lookups generalizing cache with
  | nil => rfl
  | cons lookup rest ih =>
    obtain ⟨hlookup, hrest⟩ := List.forall_mem_cons.mp hlookups
    obtain ⟨htext, hreadRest⟩ := List.forall_mem_cons.mp hread
    have hnew' : p ∉ (cache.answer lookup).2.keys := by
      rw [mem_keys_answer hcache hlookup]
      rintro (hkept | ⟨-, other, tree, hother, htree⟩)
      · exact hnew hkept
      · obtain rfl := Except.ok.inj (htext.symm.trans hother)
        rw [hparse] at htree
        cases htree
    rw [after_cons, ih (answer_orderly hcache hlookup) hrest hreadRest
      (by rwa [answer_parse]) hnew', timesParsed_answer hcache hlookup, timesSought_cons,
      answer_roots]
    by_cases hsought : lookup.sought? cache.roots = some p
    · have hreads : (lookup.files.read p).toBool := by rw [htext]; rfl
      rw [if_pos ⟨hsought, hnew, hreads⟩, if_pos hsought]
      omega
    · rw [if_neg (hsought ·.1), if_neg hsought]
      omega

/-- **Parsing.** As long as files do not change, a text that the parser accepts goes to it once,
when its document is first asked for. What cannot be read never goes there, but a text that the
parser refuses goes to it every time. -/
theorem timesParsed_after (parse : String → Except DocumentError Node) (roots : Roots)
    {fs : FileSystem} (hfs : fs.isProper = true) (questions : List Question) (p : Path) :
    let lookups := questions.map (Lookup.mk fs)
    let calls := (after { parse := parse, roots := roots } lookups).timesParsed p
    (∀ fault, fs.read p = .error fault → calls = 0) ∧
      ∀ text, fs.read p = .ok text →
        (∀ tree, parse text = .ok tree → calls = min (timesSought roots lookups p) 1) ∧
          ∀ error, parse text = .error error → calls = timesSought roots lookups p := by
  have hempty := orderly_empty parse roots
  have hfiles : ∀ lookup ∈ questions.map (Lookup.mk fs), lookup.files = fs := by simp
  have hlookups : ∀ lookup ∈ questions.map (Lookup.mk fs), lookup.files.isProper = true :=
    fun lookup hlookup => hfiles lookup hlookup ▸ hfs
  refine ⟨fun fault hfault => ?_, fun text htext => ⟨fun tree htree => ?_, fun error herror => ?_⟩⟩
  · exact timesParsed_after_of_unread hempty hlookups fun lookup hlookup =>
      ⟨fault, by rw [hfiles lookup hlookup, hfault]⟩
  · have hcalls := timesParsed_after_of_accepted hempty hlookups
      (fun lookup hlookup => by rw [hfiles lookup hlookup, htext]) htree
    simpa [keys, timesParsed] using hcalls
  · have hcalls := timesParsed_after_of_refused hempty hlookups
      (fun lookup hlookup => by rw [hfiles lookup hlookup, htext]) herror (by simp [keys])
    simpa [timesParsed] using hcalls

/-- A directory with a document, a link to it and a document whose front matter is refused. -/
private def brokenDocs : FileSystem where
  top := .directory [
    ("docs", .directory [
      ("alias.md", .link ⟨"index.md"⟩),
      ("broken.md", .file (.text "---\nroot: [a, b]\n---\n\nBody")),
      ("index.md", .file (.text "Hi"))])]

/-- Asked for by its path and by a link to it, a document is parsed once. -/
theorem timesParsed_after_of_link :
    let roots : Roots := ⟨[⟨"/docs"⟩]⟩
    let questions : List Question :=
      [.document ⟨"/docs/index.md"⟩, .reference "alias.md", .reference "missing.md"]
    let lookups := questions.map (Lookup.mk brokenDocs)
    let fresh : Cache := { parse := Grammar.commonMark.parse {}, roots := roots }
    let calls := (fresh.after lookups).timesParsed ⟨"/docs/index.md"⟩
    brokenDocs.isProper = true ∧ timesSought roots lookups ⟨"/docs/index.md"⟩ = 2 ∧
      ((∀ fault, brokenDocs.read ⟨"/docs/index.md"⟩ = .error fault → calls = 0) ∧
        ∀ text, brokenDocs.read ⟨"/docs/index.md"⟩ = .ok text →
          (∀ tree, Grammar.commonMark.parse {} text = .ok tree →
            calls = min (timesSought roots lookups ⟨"/docs/index.md"⟩) 1) ∧
          ∀ error, Grammar.commonMark.parse {} text = .error error →
            calls = timesSought roots lookups ⟨"/docs/index.md"⟩) ∧ calls = 1 := by
  have hfs : brokenDocs.isProper = true := by decide +kernel
  exact ⟨hfs, by decide +kernel, timesParsed_after _ _ hfs _ _, by decide +kernel⟩

/-- Asked for twice, a document that the parser refuses is parsed twice. -/
theorem two_le_timesParsed_of_refused :
    ¬ ∀ p, (after { parse := Grammar.commonMark.parse {}, roots := ⟨[⟨"/docs"⟩]⟩ } [
      ⟨brokenDocs, .document ⟨"/docs/broken.md"⟩⟩,
      ⟨brokenDocs, .reference "broken.md"⟩]).timesParsed p ≤ 1 := by
  intro h
  exact absurd (h ⟨"/docs/broken.md"⟩) (by decide +kernel)

end Cache

end MarkdownPages
