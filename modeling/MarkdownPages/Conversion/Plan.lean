import MarkdownPages.Conversion.Error
import MarkdownPages.Site.Placement
import MarkdownPages.Sources.Discovery

/-!
# The plan of a conversion

Before anything is written it is settled which documents become pages, in ascending order of their
canonical paths, and where each page goes. No two pages may go to one file or declare one
function.

## Main definitions

* `PlannedPage` — a document and the placement of its page
* `plan` — the pages of some inputs
* `checkCollisions` — refuses pages that get into each other's way
-/

namespace MarkdownPages

/-- A document and the placement of its page. -/
structure PlannedPage where
  file : SourceFile
  placement : Site.Placement
deriving DecidableEq, Repr

namespace PlannedPage

/-- The canonical path of the document. -/
def path (page : PlannedPage) : Path := page.file.path

/-- The function of the page with its package; no package has no name. -/
def function (page : PlannedPage) : String :=
  let p := page.placement
  if p.package.isEmpty then p.functionName else p.package ++ "." ++ p.functionName

/-- Whether two pages go to one file. -/
def sharesOutput (page other : PlannedPage) : Bool :=
  page.placement.output.same other.placement.output

/-- Whether two pages declare one function. -/
def sharesFunction (page other : PlannedPage) : Bool :=
  page.placement.package == other.placement.package &&
    page.placement.functionName == other.placement.functionName

end PlannedPage

/-- The page of an input, which has to be below a root. -/
def planPage (fs : FileSystem) (roots : Roots) (basePackage : String) (input : Path) :
    Except ConversionError PlannedPage :=
  match fs.canonicalPath input with
  | .error fault => .error (.input input (.read input fault))
  | .ok canonical =>
    match roots.relativePath? canonical with
    | none => .error (.input input (.outsideRoots canonical))
    | some relativePath =>
      .ok { file := ⟨canonical, relativePath⟩, placement := Site.place relativePath basePackage }

/-- The pages of some inputs, in ascending order of their canonical paths and without
repetition. -/
def plan (fs : FileSystem) (roots : Roots) (basePackage : String) (inputs : List Path) :
    Except ConversionError (List PlannedPage) :=
  (inputs.mapM (planPage fs roots basePackage)).map (Discovery.ascending PlannedPage.path)

/-- Refuses a page that gets in the way of an earlier one, a clash of files before a clash of
functions. -/
def checkPage (earlier : List PlannedPage) (page : PlannedPage) : Except ConversionError Unit :=
  match earlier.find? page.sharesOutput with
  | some first => .error (.outputCollision first.path page.path page.placement.output)
  | none =>
    match earlier.find? page.sharesFunction with
    | some first => .error (.functionCollision first.path page.path page.function)
    | none => .ok ()

/-- Refuses the first page that gets in the way of one before it, given the pages before all of
them. -/
def checkFrom (earlier : List PlannedPage) : List PlannedPage → Except ConversionError Unit
  | [] => .ok ()
  | page :: rest => do
    checkPage earlier page
    checkFrom (earlier ++ [page]) rest

/-- Refuses pages that get into each other's way. -/
def checkCollisions (pages : List PlannedPage) : Except ConversionError Unit :=
  checkFrom [] pages

end MarkdownPages
