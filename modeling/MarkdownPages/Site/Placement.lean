import MarkdownPages.Files.Path
import MarkdownPages.Site.Route

/-!
# Where a page is generated

The document `blog/2024/my-post.md` in the base package `com.example.pages` is generated as the
function `MyPostPage` of the package `com.example.pages.blog._2024`, in the file
`com/example/pages/blog/_2024/My-post.kt` of the output directory.

## Main definitions

* `Site.Placement` — package, function name and output path of a page
* `Site.place` — the placement of a document
-/

namespace MarkdownPages

namespace Site

/-- Where a page is generated and under which names. -/
structure Placement where
  package : String
  functionName : String
  /-- The generated file, relative to the output directory. -/
  output : Path
deriving DecidableEq, Repr

/-- The segments of a dotted package name. -/
def packageSegments (package : String) : List String :=
  ((Text.splitOn (· == '.') package.toList).filter (!·.isEmpty)).map String.ofList

/-- The placement of the document at `path` below its root, in the given base package. -/
def place (path basePackage : String) : Placement :=
  let (directories, stem) := splitPath path.toList
  let segments := packageSegments basePackage ++ directorySegments directories
  let directory := (segments.map .ofText).foldl Path.child ⟨""⟩
  { package := ".".intercalate segments
    functionName := pageFunctionName (String.ofList stem)
    output := directory.child (.ofText (String.ofList (Text.capitalized stem) ++ ".kt")) }

end Site

end MarkdownPages
