import MarkdownPages.Files.FileSystem
import MarkdownPages.Kotlin.Identifier
import MarkdownPages.Settings.Written
import MarkdownPages.Text.Blank

/-!
# Settings

Settings come from a file, which is looked for in the working directory and the directories around
it, or they are the standard ones. Some of them can be overridden from the command line. Relative
paths in a file start at the directory of the file.

## Main definitions

* `Settings` — the settings of a conversion
* `Settings.check` — whether settings are acceptable
* `Settings.basePackage` — the package of the pages
* `Overrides`, `Settings.override` — settings from the command line
* `Settings.load` — the settings that hold in a file system
-/

namespace MarkdownPages

/-- The settings of a conversion. -/
structure Settings where
  /-- The base package of the project. -/
  group : String
  /-- The roots of the authors, in the order in which they are searched. -/
  roots : List Path
  /-- The root for documents that earlier steps generate. -/
  generatedDirectory : Path
  /-- The directory that receives the pages and is cleared by every run. -/
  outputDirectory : Path
  /-- The directory for data of the project. -/
  projectDirectory : Path
  /-- The package of the pages; a leading dot puts it under the group. -/
  pagesPackage : String
  /-- The layout around every page that names no other. -/
  defaultRoot : Option String
  /-- Imports of every page. -/
  imports : List String
  /-- Whether pages may rely on the markdown runtime. -/
  markdownArtifact : Bool
  /-- Patterns for paths below a root that are passed over. -/
  exclude : List String
  features : Features
  /-- The file that the settings come from. -/
  file : Option Path
deriving DecidableEq, Inhabited, Repr

/-- Settings from the command line. -/
structure Overrides where
  roots : Option (List Path) := none
  outputDirectory : Option Path := none
  group : Option String := none
  markdownArtifact : Option Bool := none
deriving DecidableEq, Inhabited, Repr

namespace Settings

/-- The name of a settings file. -/
def fileName : String := "mdkt.toml"

/-- The settings that a file in a directory states. -/
def ofWritten (directory : Path) (file : Option Path) (w : WrittenSettings) : Settings where
  group := w.group
  roots := (w.roots.getD ["src/markdown"]).map fun root => directory.child (.ofText root)
  generatedDirectory := directory.child (w.generatedDirectory.getD ".mdkt/generated/markdown")
  outputDirectory := directory.child (w.outputDirectory.getD ".mdkt/generated/kotlin")
  projectDirectory := directory.child ".mdkt"
  pagesPackage := w.pagesPackage.getD ".pages"
  defaultRoot := w.defaultRoot.filter (!Text.isBlankText ·)
  imports := w.imports.getD []
  markdownArtifact := w.markdownArtifact.getD false
  exclude := w.exclude.getD []
  features := w.features
  file := file

/-- The settings of a project in a directory that states none. -/
def standard (directory : Path) : Settings := ofWritten directory none {}

/-- The package of the pages, a leading dot resolved. -/
def basePackage (s : Settings) : String :=
  match s.pagesPackage.toList with
  | ['.'] => s.group
  | '.' :: rest => s.group ++ "." ++ String.ofList rest
  | _ => s.pagesPackage

/-- All roots: those of the authors, then the one for generated documents. -/
def allRoots (s : Settings) : List Path := s.roots ++ [s.generatedDirectory]

/-! ### Checks -/

/-- Refuses an empty setting. -/
def requireNonEmpty (field value : String) : Except SettingsProblem Unit :=
  if value.isEmpty then .error (.empty field) else .ok ()

/-- Refuses a setting that is no name, where `isName` tells names. -/
def requireName (isName : List Char → Bool) (field value : String) :
    Except SettingsProblem Unit :=
  if isName value.toList then .ok () else .error (.notAName field value)

/-- Refuses settings that are not acceptable. -/
def checkAll (s : Settings) : Except SettingsProblem Unit := do
  requireNonEmpty "project.group" s.group
  requireName Kotlin.isQualifiedName "project.group" s.group
  if s.roots.isEmpty then throw .noRoots
  requireNonEmpty "markdown.pages_package" s.pagesPackage
  if s.pagesPackage ≠ "." then
    requireName Kotlin.isShortcutName "markdown.pages_package" s.pagesPackage
  if let some root := s.defaultRoot then
    if !root.isEmpty then requireName Kotlin.isShortcutName "markdown.default_root" root
  s.imports.forM fun target => requireNonEmpty "markdown.imports entry" (Text.trimmed target)
  if s.roots.any s.outputDirectory.same || s.outputDirectory.same s.generatedDirectory then
    throw .outputIsRoot

/-- Refuses settings that are not acceptable. -/
def check (s : Settings) : Except SettingsError Unit := s.checkAll.mapError .invalid

/-- The settings with those from the command line in place of others. -/
def override (o : Overrides) (s : Settings) : Settings :=
  { s with
    roots := o.roots.getD s.roots
    outputDirectory := o.outputDirectory.getD s.outputDirectory
    group := o.group.getD s.group
    markdownArtifact := o.markdownArtifact.getD s.markdownArtifact }

/-! ### Loading -/

/-- The settings that a file states, once they are checked. -/
def ofFile (fs : FileSystem) (environment : Environment) (path : Path) :
    Except SettingsError Settings := do
  let text ← (fs.read path).mapError .unreadable
  match WrittenSettings.ofText? text with
  | none => throw .notSettings
  | some written =>
    let written ← written.expanded environment
    let settings := ofWritten (path.parent?.getD ⟨"."⟩) (some path) written
    settings.check
    return settings

/-- The settings file of the innermost directory that has one. The directory is given by its
names in reverse. -/
def discoverFrom (fs : FileSystem) : List RawText → Option Path
  | [] =>
    let candidate := (Path.ofNames []).child fileName
    if fs.present candidate then some candidate else none
  | name :: outer =>
    let candidate := (Path.ofNames (name :: outer).reverse).child fileName
    if fs.present candidate then some candidate else discoverFrom fs outer

/-- The settings file of the working directory or of the nearest directory around it. -/
def discover (fs : FileSystem) : Option Path := do
  let _ ← fs.workingPath?
  discoverFrom fs fs.working.reverse

/-- The settings of the file at a path, of the file that is discovered, or the standard ones. -/
def loadUnchanged (fs : FileSystem) (environment : Environment) (path : Option Path) :
    Except SettingsError Settings :=
  match path with
  | some path =>
    if fs.present path then ofFile fs environment path else .error (.fileNotFound path)
  | none =>
    match discover fs with
    | some path => ofFile fs environment path
    | none => .ok (standard (fs.workingPath?.getD ⟨""⟩))

/-- The settings that hold in a file system. Overridden settings are checked again. -/
def load (fs : FileSystem) (environment : Environment) (path : Option Path)
    (overrides : Option Overrides) : Except SettingsError Settings := do
  let settings ← loadUnchanged fs environment path
  match overrides with
  | none => return settings
  | some overrides =>
    let settings := settings.override overrides
    settings.check
    return settings

end Settings

end MarkdownPages
