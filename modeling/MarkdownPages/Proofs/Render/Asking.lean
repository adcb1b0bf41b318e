import MarkdownPages.Proofs.Files.Spelling
import MarkdownPages.Render.Context

/-!
# What a reference asks for

A reference is resolved with one question to the resolver, or with none. The question is a path from
the roots. It must not be an absolute path: that would be looked for in the whole file system, and
would let the author of a document choose the root.

Two things keep an author from asking for an absolute path. A destination that starts with two
slashes leaves the site, so the one slash that is cut off in front was the only one. And the source
of a reference has a path from the roots itself, so the directory that is put in front of a
destination is not empty.

## Main definitions

* `pathPart` — a destination without its fragment
* `AsksFor` — the path that a destination stands for, seen from a source
* `Context.Resolves` — the ways in which a reference can be resolved, with all that each changes

## Main results

* `asksFor_pathFromSource` — a destination is looked for at the path that it stands for
* `AsksFor.head?_ne_slash` — this is no absolute path
* `Context.resolve_asks` — what resolving a reference asks for and what it changes
-/

namespace MarkdownPages

/-! ### The path that is asked for -/

/-- A destination without its fragment. -/
def pathPart (destination : List Char) : List Char := destination.takeWhile (· != '#')

/-- The path from the roots that a destination stands for in the document at `source`. -/
inductive AsksFor (source destination : List Char) : List Char → Prop where
  /-- A slash in front leads to the roots, whatever the source. -/
  | fromRoots {path : List Char} (slash : pathPart destination = '/' :: path) :
      AsksFor source destination path
  /-- Any other destination starts at the directory of the source. -/
  | fromDirectory {directory name : List Char} (relative : (pathPart destination).head? ≠ some '/')
      (lies : source = directory ++ '/' :: name) (last : '/' ∉ name) :
      AsksFor source destination (directory ++ '/' :: pathPart destination)
  /-- A source without a directory lies at the top. -/
  | fromTop (relative : (pathPart destination).head? ≠ some '/') (top : '/' ∉ source) :
      AsksFor source destination (pathPart destination)

private theorem pathPart_append {path rest : List Char} (hpath : '#' ∉ path)
    (hrest : ∀ c ∈ rest.head?, c = '#') : pathPart (path ++ rest) = path := by
  have hpos : ∀ c ∈ path, (c != '#') = true := fun c hc => by
    rw [bne_iff_ne]
    rintro rfl
    exact hpath hc
  rw [pathPart, List.takeWhile_append_of_pos hpos]
  cases rest with
  | nil => rw [List.takeWhile_nil, List.append_nil]
  | cons c rest =>
    obtain rfl := hrest c rfl
    rw [List.takeWhile_cons_of_neg (by decide), List.append_nil]

/-- A reference stays on the site and names the path in front of the fragment. -/
theorem markdownReference?_eq_some {destination path : List Char} {fragment : Option (List Char)}
    (h : markdownReference? destination = some (path, fragment)) :
    isOutward destination = false ∧ path = pathPart destination := by
  rw [markdownReference?] at h
  by_cases houtward : isOutward destination = true
  · rw [if_pos houtward] at h
    cases h
  · rw [if_neg houtward] at h
    refine ⟨by simpa using houtward, ?_⟩
    cases hcut : Text.cutFirst '#' destination with
    | none =>
      rw [hcut] at h
      have hwhole : pathPart (destination ++ []) = destination :=
        pathPart_append (Text.cutFirst_eq_none_iff.mp hcut) (by simp)
      rw [List.append_nil] at hwhole
      obtain ⟨-, hparts⟩ := Option.ite_none_right_eq_some.mp h
      rw [hwhole, (Prod.mk.inj (Option.some.inj hparts)).1]
    | some parts =>
      obtain ⟨before, after⟩ := parts
      rw [hcut] at h
      obtain ⟨-, hparts⟩ := Option.ite_none_right_eq_some.mp h
      rw [Text.cutFirst_eq_some hcut,
        pathPart_append (Text.notMem_of_cutFirst_eq_some hcut) (by simp),
        (Prod.mk.inj (Option.some.inj hparts)).1]

/-- A destination is looked for at the path that it stands for. -/
theorem asksFor_pathFromSource (source destination : List Char) :
    AsksFor source destination (pathFromSource source (pathPart destination)) := by
  unfold pathFromSource
  split
  · rename_i path hpath
    exact .fromRoots hpath
  · rename_i hslash
    have hrelative : (pathPart destination).head? ≠ some '/' := fun hhead => by
      obtain ⟨path, hpath⟩ := List.head?_eq_some_iff.mp hhead
      exact hslash path hpath
    cases hcut : Text.cutLast '/' source with
    | none => exact .fromTop hrelative (Text.cutLast_eq_none_iff.mp hcut)
    | some parts =>
      exact .fromDirectory hrelative (Text.cutLast_eq_some hcut)
        (Text.notMem_of_cutLast_eq_some hcut)

/-- What is asked for is no absolute path, as long as the destination stays on the site and the path
of the source is none either. -/
theorem AsksFor.head?_ne_slash {source destination target : List Char}
    (h : AsksFor source destination target) (hsource : source.head? ≠ some '/')
    (hinside : isOutward destination = false) : target.head? ≠ some '/' := by
  cases h with
  | fromRoots hslash =>
    intro hhead
    obtain ⟨rest, rfl⟩ := List.head?_eq_some_iff.mp hhead
    have hprefix : ['/', '/'] <+: pathPart destination := by
      rw [hslash]
      exact List.prefix_append ['/', '/'] rest
    replace hprefix := hprefix.trans (List.takeWhile_prefix _)
    have houtward : isOutward destination = true := by
      simp [isOutward, List.isPrefixOf_iff_prefix.mpr hprefix]
    rw [hinside] at houtward
    cases houtward
  | @fromDirectory directory name _ hlies _ =>
    cases directory with
    | nil => exact absurd (by rw [hlies]; rfl) hsource
    | cons c rest => rwa [hlies] at hsource
  | fromTop hrelative _ => exact hrelative

/-! ### Resolving -/

namespace Context

variable {σ : Type}

/-- The ways in which a reference can be resolved: what it leads to, the context afterwards, what
the resolver was asked for, and what the resolver remembers. -/
inductive Resolves (resolver : Resolver σ) (destination : String) (context : Context) (store : σ) :
    Reference → Context → List String → σ → Prop where
  | external (outside : markdownReference? destination.toList = none) :
      Resolves resolver destination context store .external context [] store
  | resolved {path : List Char} {fragment : Option (List Char)} {target : String}
      {document : ResolvedDocument} {left : σ}
      (inside : markdownReference? destination.toList = some (path, fragment))
      (found : resolver.lookup target store = (some document, left)) :
      Resolves resolver destination context store
        (.resolved document (fragment.map String.ofList)) context [target] left
  | unresolved {path : List Char} {fragment : Option (List Char)} {target : String} {left : σ}
      (inside : markdownReference? destination.toList = some (path, fragment))
      (missing : resolver.lookup target store = (none, left)) :
      Resolves resolver destination context store .unresolved
        { context with
          warnings := context.warnings ++ [context.unresolvedMessage destination] } [target] left

/-- **References.** Resolving a reference asks the resolver at most once, and never for an absolute
path. One that leaves the site asks for nothing and changes nothing; of the others only one that
leads nowhere changes the context, by a warning. -/
theorem resolve_asks (resolver : Resolver σ) (destination : String) {context : Context} (store : σ)
    (hsource : context.sourcePath.toList.head? ≠ some '/') :
    let (reference, after, asked, left) :=
      context.resolve resolver.recording destination ([], store)
    context.resolve resolver destination store = (reference, after, left) ∧
      context.Resolves resolver destination store reference after asked left ∧
      asked.length ≤ 1 ∧ ∀ target ∈ asked, (⟨target⟩ : Path).isAbsolute = false ∧
        AsksFor context.sourcePath.toList destination.toList target.toList := by
  rw [resolve, resolve]
  cases hreference : markdownReference? destination.toList with
  | none => exact ⟨rfl, .external hreference, Nat.zero_le 1, by simp⟩
  | some parts =>
    obtain ⟨path, fragment⟩ := parts
    obtain ⟨hinside, rfl⟩ := markdownReference?_eq_some hreference
    have hasks := asksFor_pathFromSource context.sourcePath.toList destination.toList
    have hrelative := hasks.head?_ne_slash hsource hinside
    dsimp only
    generalize pathFromSource context.sourcePath.toList (pathPart destination.toList) = target
      at hasks hrelative
    have htarget : ∀ asked ∈ [String.ofList target], (⟨asked⟩ : Path).isAbsolute = false ∧
        AsksFor context.sourcePath.toList destination.toList asked.toList := by
      rintro asked hasked
      obtain rfl := List.mem_singleton.mp hasked
      rw [← Bool.not_eq_true, Path.isAbsolute_ofText, String.toList_ofList]
      exact ⟨hrelative, hasks⟩
    cases hlookup : resolver.lookup (String.ofList target) store with
    | mk found left =>
      simp only [Resolver.recording, hlookup]
      cases found with
      | none => exact ⟨rfl, .unresolved hreference hlookup, Nat.le_refl 1, htarget⟩
      | some document => exact ⟨rfl, .resolved hreference hlookup, Nat.le_refl 1, htarget⟩

/-- A reference out of a directory is asked for as it is written, and warned about. -/
theorem resolve_asks_of_secret :
    let context : Context :=
      { package := "pages", functionName := "IndexPage", sourcePath := "docs/index.md" }
    let (reference, after, asked, left) :=
      context.resolve (Resolver.recording Resolver.nothing) "../../secret.md#top" ([], ())
    context.sourcePath.toList.head? ≠ some '/' ∧ asked = ["docs/../../secret.md"] ∧
      after.warnings = ["Unresolved markdown reference '../../secret.md#top' in docs/index.md"] ∧
      context.Resolves Resolver.nothing "../../secret.md#top" () reference after asked left := by
  dsimp only
  have hsource : "docs/index.md".toList.head? ≠ some '/' := by decide
  exact ⟨hsource, by decide, by decide, (resolve_asks Resolver.nothing _ () hsource).2.1⟩

end Context

end MarkdownPages
