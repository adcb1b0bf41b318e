import MarkdownPages.Document.Error
import MarkdownPages.Document.Tree
import MarkdownPages.Kotlin.Identifier
import MarkdownPages.Text.Ascending
import MarkdownPages.Text.Blank
import MarkdownPages.Yaml.Value

/-!
# Front matter

The data block of a document is a mapping from names to flat lists of strings. Two names have a
meaning: `root` is the layout around the page and `imports` are further imports of the generated
file. Both end up in generated code, so they are checked against the grammar of names.

## Main definitions

* `FrontMatter.flatten` — a value as a flat list of strings
* `FrontMatter.ofEntries` — front matter from the entries of a mapping
* `FrontMatter.read` — front matter from text
-/

namespace MarkdownPages

namespace FrontMatter

/-- The text of a scalar other than null. -/
def scalarText? : Yaml.Value → Option String
  | .string s => some s
  | .bool b => some (if b then "true" else "false")
  | .number n => some n.text
  | _ => none

/-- A value as a flat list of strings: nothing for null, one string for a scalar, and the strings
of the items for a list of scalars. -/
def flatten (key : String) : Yaml.Value → Except FrontMatterProblem (List String)
  | .null => .ok []
  | .sequence items =>
    match items.mapM scalarText? with
    | some texts => .ok texts
    | none => .error (.nestedItem key)
  | value =>
    match scalarText? value with
    | some text => .ok [text]
    | none => .error (.notFlat key)

/-- Whether a layout may be named so: by nothing at all, or by a name that may start with a
dot. -/
def isRoot (name : String) : Bool :=
  let name := Text.trim name.toList
  name.isEmpty || Kotlin.isShortcutName name

/-- The layout that the strings under `root` name. -/
def checkRoot : List String → Except FrontMatterProblem String
  | [] => .ok ""
  | [name] => if isRoot name then .ok name else .error (.badRoot name)
  | _ => .error .severalRoots

/-- The imports that the strings under `imports` name. -/
def checkImports (targets : List String) : Except FrontMatterProblem (List String) :=
  match targets.find? fun target => !Kotlin.isImportTarget target.toList with
  | some target => .error (.badImport target)
  | none => .ok targets

/-- Front matter with one more entry. -/
def withEntry (m : FrontMatter) (key : String) (value : Yaml.Value) :
    Except FrontMatterProblem FrontMatter := do
  let texts ← flatten key value
  let m ←
    if key = "root" then do
      let root ← checkRoot texts
      pure { m with root := some root }
    else if key = "imports" then do
      let imports ← checkImports texts
      pure { m with imports := imports }
    else pure m
  return { m with data := Ascending.put key texts m.data }

/-- Front matter from the entries of a mapping. Of entries with one key the last counts, and
entries are checked in ascending order of their keys. -/
def ofEntries (entries : List (String × Yaml.Value)) : Except FrontMatterProblem FrontMatter :=
  (Ascending.ofEntries entries).foldlM (fun m entry => m.withEntry entry.1 entry.2) {}

/-- Front matter from text, given how text is decoded: to the entries of a mapping, unless it holds
none. Blank text holds no front matter. -/
def read (decode : List Char → Option (List (String × Yaml.Value))) (text : String) :
    Except DocumentError FrontMatter :=
  if Text.isBlankText text then .ok {}
  else
    match decode text.toList with
    | none => .error .frontMatterSyntax
    | some entries =>
      match ofEntries entries with
      | .ok m => .ok m
      | .error problem => .error (.frontMatterShape problem)

end FrontMatter

end MarkdownPages
