import MarkdownPages.Files.FileSystem
import MarkdownPages.Sources.Error

/-!
# Roots

Documents live below roots: directories that are searched in order. A path that leads out of all
of them is treated like a path that leads nowhere.

## Main definitions

* `Roots` — canonical directories, in order and without repetition
* `Roots.ofPaths` — the roots that paths lead to
* `isContained`, `Roots.contains` — whether a canonical path lies below a root
* `Roots.relativePath?` — a canonical path below its root
* `Roots.resolve?` — the document that a path leads to
-/

namespace MarkdownPages

/-- Canonical directories, in the order in which they are searched. -/
structure Roots where
  paths : List Path := []
deriving DecidableEq, Inhabited, Repr

/-- Whether a canonical path is one of some roots or lies below one. Whole components are
compared. -/
def isContained (canonical : Path) (roots : List Path) : Bool := roots.any canonical.startsWith

namespace Roots

/-- The roots with one more, unless it is among them. -/
def add (roots : Roots) (path : Path) : Roots :=
  if roots.paths.any path.same then roots else ⟨roots.paths ++ [path]⟩

/-- The canonical directory that a path leads to. -/
def directory (fs : FileSystem) (path : Path) : Except SourceError Path :=
  match fs.canonical path with
  | .error fault => .error (.root path fault)
  | .ok place =>
    if (fs.top.at? place).any Entry.isDirectory then .ok (.ofNames place)
    else .error (.root path .rootNotADirectory)

/-- The roots that paths lead to. -/
def ofPaths (fs : FileSystem) (paths : List Path) : Except SourceError Roots :=
  paths.foldlM (fun roots path => (directory fs path).map roots.add) {}

/-- Whether a canonical path lies below some root. -/
def contains (roots : Roots) (canonical : Path) : Bool := isContained canonical roots.paths

/-- The text of the name that a component is, if it is a name that has one. -/
def componentName? : Path.Component → Option String
  | .normal name => name.text?
  | _ => none

/-- A canonical path as seen from the first root that it lies below. It is a text, so there is none
if a name on the way from the root has no text. -/
def relativePath? (roots : Roots) (canonical : Path) : Option String := do
  let root ← roots.paths.find? canonical.startsWith
  let names ← (canonical.components.drop root.components.length).mapM componentName?
  return "/".intercalate names

/-- The canonical path of the file that a path leads to. -/
def file? (fs : FileSystem) (path : Path) : Option Path :=
  match fs.canonical path with
  | .ok place => if (fs.top.at? place).any Entry.isFile then some (.ofNames place) else none
  | .error _ => none

/-- The canonical path of the file below a root that a path leads to. An absolute path may lead
below any root. A relative path is tried from each root in turn, and has to stay below that
root. -/
def resolve? (roots : Roots) (fs : FileSystem) (path : Path) : Option Path :=
  if path.isAbsolute then (file? fs path).filter roots.contains
  else roots.paths.findSome? fun root => (file? fs (root.join path)).filter (·.startsWith root)

end Roots

end MarkdownPages
