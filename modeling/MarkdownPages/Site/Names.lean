import MarkdownPages.Kotlin.Identifier
import MarkdownPages.Text.LowerCase
import MarkdownPages.Text.UpperCase

/-!
# Names derived from file names

A page is declared as a function in a package. Both names are derived from the path of its
document: the function from the file stem, the package from the directories.

## Main definitions

* `Site.pageFunctionName` — `getting-started` gives `GettingStartedPage`
* `Site.packageSegment` — `Getting Started` gives `getting_started`
-/

namespace MarkdownPages

namespace Site

/-- An underscore in front of a name that starts with an ASCII digit. -/
def guardDigit : List Char → List Char
  | [] => []
  | c :: rest => if Text.isAsciiDigit c then '_' :: c :: rest else c :: rest

/-- The words of a stem (its maximal alphanumeric pieces), each with its first letter in upper
case. -/
def capitalizedWords (stem : List Char) : List Char :=
  ((Text.splitOn (fun c => !Text.isAlphanumeric c) stem).map Text.capitalized).flatten

/-- The name of the function that declares the page of a file stem. -/
def pageFunctionName (stem : String) : String :=
  String.ofList (guardDigit (capitalizedWords stem.toList)) ++ "Page"

/-- What a character of a directory name gives in a package segment: letters and numbers in lower
case, an underscore for a separator, and nothing for any other character. -/
def segmentChar (c : Char) : List Char :=
  if Text.isAlphanumeric c then Text.toLower c
  else if c == '-' || c == '_' || c == ' ' || c == '.' then ['_']
  else []

/-- The package segment of a directory name: never empty, without a digit in front, and never a
keyword. -/
def packageSegment (directory : String) : String :=
  let segment := match directory.toList.flatMap segmentChar with
    | [] => "_"
    | cs => String.ofList (guardDigit cs)
  if Kotlin.keywords.contains segment then segment ++ "_" else segment

end Site

end MarkdownPages
