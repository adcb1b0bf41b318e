import MarkdownPages.Sources.Error

/-!
# Why a conversion is given up

## Main definitions

* `ConversionError`, `ConversionError.message` — every reason, and how it is told
-/

namespace MarkdownPages

/-- Why a conversion is given up. -/
inductive ConversionError where
  | roots (error : SourceError)
  /-- An input cannot be had. -/
  | input (path : Path) (error : SourceError)
  /-- Two inputs would be generated as the same file. -/
  | outputCollision (first second output : Path)
  /-- Two inputs would be generated as functions of one name in one package. -/
  | functionCollision (first second : Path) (function : String)
  | outputDirectory (path : Path) (fault : Fault)
  | write (path : Path) (fault : Fault)
deriving DecidableEq, Repr

namespace ConversionError

/-- How the reason is told. -/
def message : ConversionError → String
  | roots error => "Invalid markdown roots: " ++ error.message
  | input path error => "Cannot convert " ++ path.text.shown ++ ": " ++ error.message
  | outputCollision first second output =>
    first.text.shown ++ " and " ++ second.text.shown ++ " both generate " ++ output.text.shown
  | functionCollision first second function =>
    first.text.shown ++ " and " ++ second.text.shown ++ " both declare " ++ function
  | outputDirectory path fault =>
    "Cannot prepare output directory " ++ path.text.shown ++ ": " ++ fault.message
  | write path fault => "Cannot write " ++ path.text.shown ++ ": " ++ fault.message

end ConversionError

end MarkdownPages
