/-!
# Faults of file operations

## Main definitions

* `Fault` — why an operation on files fails
* `Fault.message` — how it is told
-/

namespace MarkdownPages

/-- Why an operation on files fails. -/
inductive Fault where
  | notFound
  | alreadyExists
  | notADirectory
  | isADirectory
  | invalidArgument
  | nameTooLong
  | notEmpty
  | tooManyLinks
  /-- A path holds a NUL character. -/
  | nulInPath
  /-- A file that should hold text does not. -/
  | notText
  /-- The empty path stands for no absolute path. -/
  | emptyPath
  /-- A root is something else than a directory. -/
  | rootNotADirectory
  /-- The output directory holds a root or lies inside of one. -/
  | overlapsRoot
deriving DecidableEq, Inhabited, Repr

namespace Fault

/-- The text of a fault that has a number in the operating system. -/
def numbered (text : String) (number : Nat) : String :=
  text ++ " (os error " ++ toString number ++ ")"

/-- How a fault is told. -/
def message : Fault → String
  | notFound => numbered "No such file or directory" 2
  | alreadyExists => numbered "File exists" 17
  | notADirectory => numbered "Not a directory" 20
  | isADirectory => numbered "Is a directory" 21
  | invalidArgument => numbered "Invalid argument" 22
  | nameTooLong => numbered "File name too long" 36
  | notEmpty => numbered "Directory not empty" 39
  | tooManyLinks => numbered "Too many levels of symbolic links" 40
  | nulInPath => "file name contained an unexpected NUL byte"
  | notText => "stream did not contain valid UTF-8"
  | emptyPath => "cannot make an empty path absolute"
  | rootNotADirectory => "root is not a directory"
  | overlapsRoot => "output directory overlaps a markdown root"

end Fault

end MarkdownPages
