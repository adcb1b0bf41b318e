import MarkdownPages.Site.Names

/-!
# Routes

The route of a page follows the package it is declared in: a segment per directory, then the
file stem in lower case, unless the page is the index of its directory.

## Main definitions

* `Site.splitPath` — the directories and the file stem of a path below a root
* `Site.route` — the route of a document
-/

namespace MarkdownPages

namespace Site

/-- The directory names of a path and the stem of its last part: the part without `.md`. -/
def splitPath (path : List Char) : List (List Char) × List Char :=
  let (directories, file) := (Text.cutLast '/' path).getD ([], path)
  ((Text.splitOn (· == '/') directories).filter (!·.isEmpty),
    (Text.dropSuffix? ['.', 'm', 'd'] file).getD file)

/-- The package segments of a list of directory names. -/
def directorySegments (directories : List (List Char)) : List String :=
  directories.map fun directory => packageSegment (String.ofList directory)

/-- The route of the document at a path below its root. -/
def route (path : String) : String :=
  let (directories, stem) := splitPath (path.toList.dropWhile (· == '/'))
  let page := if stem == "index".toList then [] else [String.ofList (Text.lowered stem)]
  "/" ++ "/".intercalate (directorySegments directories ++ page)

end Site

end MarkdownPages
