import MarkdownPages.Proofs.Render.Shown

/-!
# The chain of embedded documents

While a document is being read, its path stands on a stack, and a document whose path stands there
is not entered. So no path gets onto the stack twice. Where only so many paths can be found, each
document that is entered leaves one path fewer to be entered inside it: what is left is the room
on the stack, and it bounds how deep documents are embedded.

The trees of the documents do not matter for this. They need not be finite in number, nor be the
same each time that a document is found.

## Main definitions

* `Path.Distinct` — a stack that holds no path twice
* `Path.room` — how many of some paths are not on a stack
* `Resolver.Returns` — the documents that a resolver can find

## Main results

* `Path.room_add_length` — the room that a stack of further paths takes up
* `isSome_renderWithin` — a tree has a result if the bound on embedded documents leaves room
-/

namespace MarkdownPages

/-! ### Stacks of paths -/

namespace Path

theorem same_iff {p q : Path} : p.same q = true ↔ p.components = q.components := beq_iff_eq

theorem same_comm {p q : Path} : p.same q = q.same p := by
  rw [Bool.eq_iff_iff, same_iff, same_iff, eq_comm]

/-- Two paths that are the same are on the same stacks. -/
theorem any_same_eq {p q : Path} (h : p.same q = true) (stack : List Path) :
    stack.any (·.same p) = stack.any (·.same q) := by
  have hsame : (fun r : Path => r.same p) = fun r => r.same q := by
    funext r
    rw [Bool.eq_iff_iff, same_iff, same_iff, same_iff.mp h]
  rw [hsame]

/-- A stack that holds no path twice. -/
def Distinct (stack : List Path) : Prop := stack.Pairwise fun p q => p.same q = false

theorem distinct_cons {p : Path} {stack : List Path} :
    Distinct (p :: stack) ↔ stack.any (·.same p) = false ∧ Distinct stack := by
  rw [Distinct, List.pairwise_cons, List.any_eq_false]
  simp only [same_comm (p := p), Bool.not_eq_true, Distinct]

theorem Distinct.tail {stack : List Path} (h : Distinct stack) : Distinct stack.tail :=
  List.Pairwise.tail h

/-- How many of some paths are not on a stack. -/
def room (paths stack : List Path) : Nat := paths.countP fun p => !stack.any (·.same p)

theorem room_le_length (paths stack : List Path) : room paths stack ≤ paths.length :=
  List.countP_le_length

/-- A path that gets onto a stack takes up room. -/
theorem room_cons_lt {paths stack : List Path} {path : Path}
    (hpath : ∃ p ∈ paths, p.same path = true) (hnew : stack.any (·.same path) = false) :
    room paths (path :: stack) < room paths stack := by
  obtain ⟨p, hp, hsame⟩ := hpath
  have hbefore : (!stack.any (·.same p)) = true := by rw [any_same_eq hsame, hnew, Bool.not_false]
  have hafter : ¬ (!(path :: stack).any (·.same p)) = true := by
    rw [List.any_cons, same_comm, hsame, Bool.true_or]
    decide
  have hmono : ∀ q, (!(path :: stack).any (·.same q)) = true → (!stack.any (·.same q)) = true := by
    intro q hq
    rw [List.any_cons, Bool.not_or, Bool.and_eq_true] at hq
    exact hq.2
  obtain ⟨left, right, rfl⟩ := List.append_of_mem hp
  have hleft := List.countP_mono_left fun q (_ : q ∈ left) => hmono q
  have hright := List.countP_mono_left fun q (_ : q ∈ right) => hmono q
  rw [room, room, List.countP_append, List.countP_append,
    List.countP_cons_of_neg (p := fun q => !(path :: stack).any (·.same q)) hafter,
    List.countP_cons_of_pos (p := fun q => !stack.any (·.same q)) hbefore]
  omega

/-- Further paths on a stack take up room, one place each. -/
theorem room_add_length {paths entered base : List Path} (hdistinct : Distinct (entered ++ base))
    (hpaths : ∀ path ∈ entered, ∃ p ∈ paths, p.same path = true) :
    room paths (entered ++ base) + entered.length ≤ room paths base := by
  induction entered with
  | nil => exact Nat.le_refl _
  | cons path entered ih =>
    obtain ⟨hnew, hrest⟩ := distinct_cons.mp hdistinct
    have hlt : room paths (path :: (entered ++ base)) < room paths (entered ++ base) :=
      room_cons_lt (hpaths path (List.mem_cons_self ..)) hnew
    have hle := ih hrest fun p hp => hpaths p (List.mem_cons_of_mem _ hp)
    rw [List.cons_append, List.length_cons]
    omega

end Path

/-! ### Finding documents -/

variable {σ : Type}

/-- A document that a resolver can find. -/
def Resolver.Returns (resolver : Resolver σ) (document : ResolvedDocument) : Prop :=
  ∃ name store after, resolver.lookup name store = (some document, after)

theorem Resolver.returns_of_follow {resolver : Resolver σ} {sourcePath destination : String}
    {store after : σ} {document : ResolvedDocument} {fragment : Option String}
    (h : resolver.follow sourcePath destination store = (.resolved document fragment, after)) :
    resolver.Returns document := by
  rw [follow] at h
  cases hreference : markdownReference? destination.toList with
  | none => simp [hreference] at h
  | some target =>
    obtain ⟨path, written⟩ := target
    rw [hreference] at h
    dsimp only at h
    cases hlookup :
      resolver.lookup (String.ofList (pathFromSource sourcePath.toList path)) store with
    | mk found rest =>
      rw [hlookup] at h
      cases found with
      | none => simp at h
      | some other =>
        obtain ⟨⟨rfl, -⟩, -⟩ : (other = document ∧ _) ∧ _ := by simpa using h
        exact ⟨_, _, _, hlookup⟩

/-- Only documents with names are found by their names. -/
theorem Resolver.mem_of_returns_ofNamed {documents : List (String × ResolvedDocument)}
    {document : ResolvedDocument} (h : (ofNamed documents : Resolver σ).Returns document) :
    ∃ name, (name, document) ∈ documents := by
  obtain ⟨name, store, after, hlookup⟩ := h
  obtain ⟨left, right, rfl, -⟩ := List.lookup_eq_some_iff.mp (congrArg Prod.fst hlookup)
  exact ⟨name, List.mem_append_right left (List.mem_cons_self ..)⟩

/-- A single document with a name is the only one that is found. -/
theorem Resolver.returns_ofNamed_singleton {named : String × ResolvedDocument}
    {document : ResolvedDocument} (h : (ofNamed [named] : Resolver σ).Returns document) :
    ∃ p ∈ [named.2.path], p.same document.path = true := by
  obtain ⟨name, hmem⟩ := mem_of_returns_ofNamed h
  obtain rfl := List.mem_singleton.mp hmem
  exact ⟨_, List.mem_singleton_self _, Path.same_iff.mpr rfl⟩

/-! ### The walk ends -/

namespace Node

variable {resolver : Resolver σ} {walk : String → List Path → Node → Walk σ String}
  {stack : List Path}

theorem isSome_shown_image
    (hwalk : ∀ document, resolver.Returns document → stack.any (·.same document.path) = false →
      ∀ store, (walk document.relativePath (document.path :: stack) document.tree store).isSome)
    (sourcePath destination title : String) (children : List Node) (store : σ) :
    (shown resolver walk sourcePath stack ⟨.image destination title, children⟩ store).isSome := by
  rw [shown_image]
  cases hfollow : resolver.follow sourcePath destination store with
  | mk reference after =>
    cases reference with
    | external => rfl
    | unresolved => rfl
    | resolved document fragment =>
      dsimp only
      by_cases hstack : stack.any (·.same document.path) = true
      · rw [if_pos hstack]
        rfl
      · rw [if_neg hstack]
        exact hwalk document (resolver.returns_of_follow hfollow) (Bool.eq_false_iff.mpr hstack)
          after

theorem isSome_andThen {first second : Walk σ String} (hfirst : ∀ store, (first store).isSome)
    (hsecond : ∀ store, (second store).isSome) (store : σ) :
    (first.andThen second store).isSome := by
  obtain ⟨⟨ss, middle⟩, hss⟩ := Option.isSome_iff_exists.mp (hfirst store)
  obtain ⟨⟨ts, last⟩, hts⟩ := Option.isSome_iff_exists.mp (hsecond middle)
  simp only [Walk.andThen, hss, Option.bind_some, hts, Option.map_some, Option.isSome_some]

mutual

/-- The walk through a node ends, if the walks through the documents that it enters end. -/
theorem isSome_shown
    (hwalk : ∀ document, resolver.Returns document → stack.any (·.same document.path) = false →
      ∀ store, (walk document.relativePath (document.path :: stack) document.tree store).isSome)
    (sourcePath : String) : ∀ (node : Node) (store : σ),
    (node.shown resolver walk sourcePath stack store).isSome
  | ⟨value, children⟩, store => by
    have hinner := isSome_shownAll hwalk sourcePath (fun _ => true) children
    cases value with
    | text | code | codeBlock | math | softBreak | footnoteReference => rfl
    | frontMatter | htmlBlock | html | hardBreak | rule | taskListMarker => rfl
    | table =>
      exact isSome_andThen
        (isSome_shownAll hwalk sourcePath (fun child => child.kind = .tableHead) children)
        (isSome_shownAll hwalk sourcePath (fun child => child.kind ≠ .tableHead) children) store
    | link destination title =>
      rw [shown_link]
      exact hinner (resolver.follow sourcePath destination store).2
    | image destination title => exact isSome_shown_image hwalk sourcePath destination title _ store
    | document | paragraph | heading | blockQuote | list | item | tableHead | tableRow | tableCell
    | emphasis | strong | strikethrough | superscript | subscript | footnoteDefinition
    | definitionList | definitionListTitle | definitionListDefinition => exact hinner store

theorem isSome_shownAll
    (hwalk : ∀ document, resolver.Returns document → stack.any (·.same document.path) = false →
      ∀ store, (walk document.relativePath (document.path :: stack) document.tree store).isSome)
    (sourcePath : String) (keep : Node → Bool) : ∀ (nodes : List Node) (store : σ),
      (shownAll resolver walk sourcePath stack keep nodes store).isSome
  | [], _ => rfl
  | node :: rest, store => by
    have hrest := isSome_shownAll hwalk sourcePath keep rest
    rw [shownAll_cons]
    by_cases hkeep : keep node = true
    · rw [if_pos hkeep]
      exact isSome_andThen (isSome_shown hwalk sourcePath node) hrest store
    · rw [if_neg hkeep]
      exact hrest store

end

end Node

variable {resolver : Resolver σ} {paths : List Path}
  (hpaths : ∀ document, resolver.Returns document → ∃ p ∈ paths, p.same document.path = true)

include hpaths

/-- The walk through an embedded document ends, if the bound leaves room. -/
theorem isSome_shownContents {embeds : Nat} {stack : List Path}
    (h : Path.room paths stack ≤ embeds) {document : ResolvedDocument}
    (hdocument : resolver.Returns document) (hnew : stack.any (·.same document.path) = false)
    (store : σ) : (shownContents resolver embeds document.relativePath (document.path :: stack)
      document.tree store).isSome := by
  -- the document itself takes up room, so what is left for the documents inside it is less
  have hlt := Path.room_cons_lt (hpaths document hdocument) hnew
  induction embeds generalizing stack document store with
  | zero => omega
  | succ embeds ih =>
    exact Node.isSome_shownAll (fun other hother hnext after =>
      ih (by omega) hother hnext after (Path.room_cons_lt (hpaths other hother) hnext))
        document.relativePath (fun _ => true) document.tree.children store

/-- A tree has a result, if the bound on embedded documents leaves room. -/
theorem isSome_renderWithin (tree : Node) (scope : Scope σ) {embeds : Nat}
    (h : Path.room paths scope.context.includeStack ≤ embeds) :
    (HandlerTable.elements.renderWithin resolver Node.height embeds tree scope).isSome := by
  have hshown : (tree.shown resolver (shownContents resolver embeds) scope.context.sourcePath
      scope.context.includeStack scope.store).isSome :=
    Node.isSome_shown (fun document hdocument hnew after =>
      isSome_shownContents hpaths h hdocument hnew after) scope.context.sourcePath tree scope.store
  have hshows : (tree.outline resolver (contents resolver embeds) scope.standpoint).Shows
      (tree.shown resolver (shownContents resolver embeds) scope.standpoint.sourcePath
        scope.standpoint.includeStack) :=
    Node.shows_outline (shows_contents resolver embeds) scope.standpoint tree
  rw [renderWithin_elements, Option.isSome_map, hshows.isSome_eq]
  exact hshown

end MarkdownPages
