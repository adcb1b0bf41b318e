import MarkdownPages.Text.Raw
import MarkdownPages.Text.Split

/-!
# Paths

A path is a raw text with `/` between its parts. It is kept as it was written, since messages show
it that way, but it is read as a sequence of components: repeated slashes and `.` count for nothing,
except a `.` that starts a relative path, and `..` is never resolved by looking at the text.

## Main definitions

* `Path` — a path as written
* `Path.Component`, `Path.components` — how it is read
* `Path.join`, `Path.parent?`, `Path.fileName?`, `Path.extension?`
* `Path.same`, `Path.startsWith`, `Path.le` — comparison by components
-/

namespace MarkdownPages

open RawText (slash dot)

/-- A path, as written. -/
structure Path where
  text : RawText
deriving DecidableEq, Inhabited, Repr

namespace Path

/-- One step of a path. -/
inductive Component where
  /-- The slash at the start of an absolute path. -/
  | root
  /-- The `.` at the start of a relative path. -/
  | current
  /-- The step `..` to the parent directory. -/
  | parent
  /-- A step to the entry of a directory. -/
  | normal (name : RawText)
deriving DecidableEq, Inhabited, Repr

/-! ### Reading -/

/-- How a path starts. -/
inductive Start where
  | absolute
  | here
  | relative
deriving DecidableEq, Repr

/-- How a path starts, and the pieces between slashes that follow. -/
def pieces (p : Path) : Start × List (List UInt8) :=
  match p.text.bytes with
  | [] => (.relative, [])
  | b :: rest =>
    if b = slash then (.absolute, Text.splitOn (· == slash) rest)
    else
      match Text.splitOn (· == slash) (b :: rest) with
      | [] => (.relative, [])
      | first :: body => if first = [dot] then (.here, body) else (.relative, first :: body)

/-- Whether a piece counts for nothing: it is empty or a `.` inside the path. -/
def isIdle (piece : List UInt8) : Bool := piece.isEmpty || piece == [dot]

/-- The component that a piece stands for. -/
def ofPiece (piece : List UInt8) : Component :=
  if piece == [dot, dot] then .parent else .normal ⟨piece⟩

/-- The components of a path, in order. -/
def components (p : Path) : List Component :=
  let (start, body) := p.pieces
  let steps := (body.filter (!isIdle ·)).map ofPiece
  match start with
  | .absolute => .root :: steps
  | .here => .current :: steps
  | .relative => steps

/-- Whether a path starts at the top of the file system. -/
def isAbsolute (p : Path) : Bool := p.text.bytes.head? == some slash

/-- Whether a text has no component at all. -/
def isEmpty (p : Path) : Bool := p.text.isEmpty

/-! ### Building -/

/-- The path with the given start and pieces. -/
def ofPieces (start : Start) (body : List (List UInt8)) : Path :=
  let rest := Text.joined [slash] body
  ⟨⟨match start with
    | .absolute => slash :: rest
    | .here => if body.isEmpty then [dot] else dot :: slash :: rest
    | .relative => rest⟩⟩

/-- The path `p` continued by `q`. An absolute `q` stands on its own. -/
def join (p q : Path) : Path :=
  if q.isAbsolute then q
  else if p.text.isEmpty || p.text.bytes.getLast? == some slash then ⟨p.text ++ q.text⟩
  else ⟨p.text ++ ⟨[slash]⟩ ++ q.text⟩

/-- The path `p` continued by a raw text. -/
def child (p : Path) (name : RawText) : Path := p.join ⟨name⟩

/-- The pieces without idle ones at the end. -/
def dropIdleEnd (body : List (List UInt8)) : List (List UInt8) :=
  (body.reverse.dropWhile isIdle).reverse

/-- The path without its last component; none for the top of the file system and the empty
path. -/
def parent? (p : Path) : Option Path :=
  let (start, body) := p.pieces
  match start, dropIdleEnd body with
  | .absolute, [] => none
  | .here, [] => some ⟨""⟩
  | .relative, [] => none
  | start, body => some (ofPieces start (dropIdleEnd body.dropLast))

/-- The name of the last component, if that is an entry of a directory. -/
def fileName? (p : Path) : Option RawText :=
  match p.components.getLast? with
  | some (.normal name) => some name
  | _ => none

/-- What follows the last dot of the file name, unless that dot starts the name. -/
def extension? (p : Path) : Option RawText := do
  let name ← p.fileName?
  let (stem, extension) ← Text.cutLast dot name.bytes
  if stem.isEmpty then none else some ⟨extension⟩

/-! ### Comparing -/

/-- Whether two paths have the same components. -/
def same (p q : Path) : Bool := p.components == q.components

/-- Whether the components of `base` start those of `p`. -/
def startsWith (p base : Path) : Bool := base.components.isPrefixOf p.components

namespace Component

/-- The order of components of different kinds. -/
def rank : Component → Nat
  | .root => 0
  | .current => 1
  | .parent => 2
  | .normal _ => 3

/-- The order of components: names by their bytes. -/
def compare : Component → Component → Ordering
  | .normal a, .normal b => Ord.compare a b
  | a, b => Ord.compare a.rank b.rank

end Component

/-- The order of lists of components, first difference first. -/
def compareComponents : List Component → List Component → Ordering
  | [], [] => .eq
  | [], _ :: _ => .lt
  | _ :: _, [] => .gt
  | a :: as, b :: bs => (a.compare b).then (compareComponents as bs)

/-- The order of paths, by component and not by text. -/
def compare (p q : Path) : Ordering := compareComponents p.components q.components

/-- Whether `p` does not come after `q`. -/
def le (p q : Path) : Bool := p.compare q != .gt

/-- The relative path with the given names. -/
def relativeOfNames (names : List RawText) : Path := ofPieces .relative (names.map RawText.bytes)

/-- The absolute path with the given names. -/
def ofNames (names : List RawText) : Path := ofPieces .absolute (names.map RawText.bytes)

end Path

end MarkdownPages
