import MarkdownPages.Text.Alphanumeric
import MarkdownPages.Text.Split

/-!
# Names in the generated code

Names that come from people (a layout, an import) are checked against a narrow grammar: ASCII
identifiers joined by dots. Names that start with a dot are shortcuts, relative to the group of
the project.

## Main definitions

* `Kotlin.keywords` — the words that are no identifiers
* `Kotlin.isIdentifier`, `Kotlin.isQualifiedName`, `Kotlin.isImportTarget` — the grammar of names
* `Kotlin.resolveShortcut` — a name with a leading dot, put under a group
-/

namespace MarkdownPages

namespace Kotlin

/-- The hard keywords, which are never identifiers. -/
def keywords : List String :=
  ["as", "break", "class", "continue", "do", "else", "false", "for", "fun", "if", "in",
    "interface", "is", "null", "object", "package", "return", "super", "this", "throw", "true",
    "try", "typealias", "typeof", "val", "var", "when", "while"]

/-- A character that an ASCII identifier may start with. -/
def isIdentifierStart (c : Char) : Bool := Text.isAsciiLetter c || c == '_'

/-- A character that an ASCII identifier may go on with. -/
def isIdentifierPart (c : Char) : Bool := Text.isAsciiAlphanumeric c || c == '_'

/-- An ASCII letter or underscore followed by letters, digits and underscores. -/
def isIdentifier : List Char → Bool
  | [] => false
  | c :: rest => isIdentifierStart c && rest.all isIdentifierPart

/-- Identifiers joined by single dots. -/
def isQualifiedName (s : List Char) : Bool := (Text.splitOn (· == '.') s).all isIdentifier

/-- A qualified name that may start with one more dot. -/
def isShortcutName : List Char → Bool
  | '.' :: rest => isQualifiedName rest
  | s => isQualifiedName s

/-- What an import may name: a qualified name, or everything below one. -/
def isImportTarget (s : List Char) : Bool :=
  isQualifiedName ((Text.dropSuffix? ['.', '*'] s).getD s)

/-- The name that `name` stands for in a project with the given group: a leading dot puts the
name under the group, and a single dot is the group itself. -/
def resolveShortcut (group name : String) : String :=
  match name.toList with
  | ['.'] => group
  | '.' :: rest => if group.isEmpty then String.ofList rest else group ++ "." ++ String.ofList rest
  | _ => name

end Kotlin

end MarkdownPages
