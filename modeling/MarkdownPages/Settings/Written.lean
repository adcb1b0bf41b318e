import MarkdownPages.Markup.Features
import MarkdownPages.Settings.Error
import MarkdownPages.Settings.Expansion
import MarkdownPages.Toml.Document

/-!
# Settings as they are written

A settings file has three tables, each of which may be left out, and so may every entry. Names
without a meaning are passed over. An entry that has a meaning has to be of the right type.

## Main definitions

* `WrittenSettings` — what a file states
* `WrittenSettings.ofText?` — what a text states
* `WrittenSettings.expanded` — the same with variables replaced
-/

namespace MarkdownPages

/-- What a settings file states. -/
structure WrittenSettings where
  group : String := "app"
  roots : Option (List String) := none
  generatedDirectory : Option String := none
  outputDirectory : Option String := none
  pagesPackage : Option String := none
  defaultRoot : Option String := none
  imports : Option (List String) := none
  markdownArtifact : Option Bool := none
  exclude : Option (List String) := none
  features : Features := {}
deriving DecidableEq, Inhabited, Repr

namespace WrittenSettings

open Toml (Value Table)

/-! ### Values -/

/-- The text that a value is. -/
def string? : Value → Option String
  | .string s => some s
  | _ => none

/-- The truth value that a value is. -/
def bool? : Value → Option Bool
  | .bool b => some b
  | _ => none

/-- The texts that a value lists. -/
def strings? : Value → Option (List String)
  | .array items => items.mapM string?
  | _ => none

/-- The entries that a value states, given the names of all entries in order. A list states them
in order, and a moment states none. -/
def entries? (names : List String) : Value → Option Table
  | .table _ entries => some entries
  | .array items => some (names.zip items)
  | .tables elements => some (names.zip (elements.reverse.map (Value.table .explicit)))
  | .moment => some []
  | _ => none

/-- The value of an entry of the right type, if the entry is there. -/
def optional {α : Type} (read : Value → Option α) (name : String) (table : Table) :
    Option (Option α) :=
  match table.lookup name with
  | none => some none
  | some value => (read value).map some

/-- The value of an entry, or a default. -/
def withDefault {α : Type} (read : Value → Option α) (default : α) (name : String)
    (table : Table) : Option α :=
  (optional read name table).map (·.getD default)

/-! ### Tables -/

/-- A table of the top table, which may be left out. -/
def section? (name : String) (names : List String) (top : Table) : Option Table :=
  withDefault (entries? names) [] name top

/-- The features that a table turns on and off. -/
def features? (table : Table) : Option Features := do
  return {
    gfm := ← withDefault bool? true "gfm" table
    frontMatter := ← withDefault bool? true "front_matter" table
    footnotes := ← withDefault bool? true "footnotes" table
    math := ← withDefault bool? false "math" table
    definitionLists := ← withDefault bool? false "definition_lists" table
    superscript := ← withDefault bool? false "superscript" table }

/-- The settings that a top table states. -/
def ofTable? (top : Table) : Option WrittenSettings := do
  let project ← section? "project" ["group"] top
  let markdown ← section? "markdown" ["roots", "generated_dir", "output_dir", "pages_package",
    "default_root", "imports", "markdown_artifact", "exclude"] top
  let features ← section? "features" ["gfm", "front_matter", "footnotes", "math",
    "definition_lists", "superscript"] top
  return {
    group := ← withDefault string? "app" "group" project
    roots := ← optional strings? "roots" markdown
    generatedDirectory := ← optional string? "generated_dir" markdown
    outputDirectory := ← optional string? "output_dir" markdown
    pagesPackage := ← optional string? "pages_package" markdown
    defaultRoot := ← optional string? "default_root" markdown
    imports := ← optional strings? "imports" markdown
    markdownArtifact := ← optional bool? "markdown_artifact" markdown
    exclude := ← optional strings? "exclude" markdown
    features := ← features? features }

/-- The settings that a text states. -/
def ofText? (text : String) : Option WrittenSettings := (Toml.ofText? text).bind ofTable?

/-! ### Variables -/

/-- A setting with its variables replaced. -/
def expandField (environment : Environment) (field value : String) :
    Except SettingsError String :=
  match Settings.expand environment value with
  | .ok value => .ok value
  | .error name => .error (.unsetVariable field name)

/-- The settings with the variables in names replaced. Paths hold no variables. -/
def expanded (environment : Environment) (w : WrittenSettings) :
    Except SettingsError WrittenSettings := do
  let group ← expandField environment "project.group" w.group
  let pagesPackage ← w.pagesPackage.mapM (expandField environment "markdown.pages_package")
  let defaultRoot ← w.defaultRoot.mapM (expandField environment "markdown.default_root")
  let imports ← w.imports.mapM (·.mapM (expandField environment "markdown.imports"))
  return { w with group, pagesPackage, defaultRoot, imports }

end WrittenSettings

end MarkdownPages
