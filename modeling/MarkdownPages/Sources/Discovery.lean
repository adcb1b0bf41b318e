import MarkdownPages.Sources.Glob
import MarkdownPages.Sources.Roots

/-!
# Discovery of documents

Below every root, all directories are searched whose names do not start with a dot and whose paths
below the root are not excluded; links to directories are not entered. A file counts if its
extension is `md` and it lies below a root when all links are followed. A name that has no text
takes part under the text by which it is shown.

## Main definitions

* `SourceFile` — a document that was discovered
* `discover` — the documents below some roots, in ascending order of their paths
-/

namespace MarkdownPages

/-- A document that was discovered. -/
structure SourceFile where
  /-- The canonical path. -/
  path : Path
  /-- The path below the root from which it was discovered. -/
  relativePath : String
deriving DecidableEq, Inhabited, Repr

namespace Discovery

/-- The patterns that texts write; texts that write none are passed over. -/
def patterns (exclude : List String) : List Glob := exclude.filterMap Glob.ofText?

/-- Whether an entry of a directory is passed over, by its name and its path below the root. -/
def isPassed (exclude : List Glob) (name relativePath : String) : Bool :=
  ['.'].isPrefixOf name.toList || exclude.any (·.covers relativePath)

/-- The path below the root of an entry in a directory; the root itself has an empty path. -/
def below (directory name : String) : String :=
  if directory.isEmpty then name else directory ++ "/" ++ name

mutual

/-- The documents in an entry, with their paths below the root. -/
def inEntry (exclude : List Glob) (path : Path) (relativePath : String) :
    Entry → List SourceFile
  | .directory entries => inEntries exclude path relativePath entries
  | .file _ | .link _ =>
    if path.extension? = some (.ofText "md") then [⟨path, relativePath⟩] else []

/-- The documents in the entries of a directory. -/
def inEntries (exclude : List Glob) (directory : Path) (relativePath : String) :
    List (RawText × Entry) → List SourceFile
  | [] => []
  | (name, entry) :: rest =>
    let entryPath := below relativePath name.shown
    let found :=
      if isPassed exclude name.shown entryPath then []
      else inEntry exclude (directory.child name) entryPath entry
    found ++ inEntries exclude directory relativePath rest

end

/-- The documents below a root, under the paths by which they were found. -/
def inRoot (fs : FileSystem) (exclude : List Glob) (root : Path) : List SourceFile :=
  inEntries exclude root "" ((fs.entry? root).map Entry.entries |>.getD [])

/-- A document under its canonical path, if that lies below a root. -/
def settle? (fs : FileSystem) (roots : Roots) (file : SourceFile) : Option SourceFile :=
  (roots.resolve? fs file.path).map fun canonical => { file with path := canonical }

/-- The list without its first elements of a given path, and without elements that have the path
of the element before them. -/
def dropSame {α : Type} (path : α → Path) (previous : Path) : List α → List α
  | [] => []
  | x :: rest =>
    if (path x).same previous then dropSame path previous rest
    else x :: dropSame path (path x) rest

/-- The list without the elements that have the path of the element before them. -/
def dropRepeated {α : Type} (path : α → Path) : List α → List α
  | [] => []
  | x :: rest => x :: dropSame path (path x) rest

/-- The list in ascending order of paths, without repetition. Of elements with one path the first
stays. -/
def ascending {α : Type} (path : α → Path) (xs : List α) : List α :=
  dropRepeated path (xs.mergeSort fun x y => (path x).le (path y))

end Discovery

/-- The documents below some roots, in ascending order of their canonical paths. A document that
is found in several ways has the relative path of the first way. -/
def discover (fs : FileSystem) (roots : Roots) (exclude : List String) : List SourceFile :=
  let globs := Discovery.patterns exclude
  let found := roots.paths.flatMap fun root =>
    (Discovery.inRoot fs globs root).filterMap (Discovery.settle? fs roots)
  Discovery.ascending SourceFile.path found

end MarkdownPages
