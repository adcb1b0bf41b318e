import MarkdownPages.Conversion.Plan
import MarkdownPages.Document.Reading
import MarkdownPages.Files.Change
import MarkdownPages.Render.Page
import MarkdownPages.Settings.Settings
import MarkdownPages.Sources.Cache

/-!
# Conversion

A conversion turns the documents below some roots into pages. Every run is a full one: the output
directory is removed and made again. All that can go wrong with the inputs goes wrong before that,
and an output directory that holds a root or lies inside of one is refused.

## Main definitions

* `Conversion` — what is converted, where to and how
* `Conversion.ofSettings` — the conversion that settings ask for
* `Conversion.run`, `Conversion.runFiles` — a conversion of all documents, or of some
* `canonicalLenient` — the canonical path of something that need not exist yet

## Implementation notes

The cache of documents is read while pages are rendered, after earlier pages were written. It sees
the file system as it is then.
-/

namespace MarkdownPages

/-- What is converted, where to and how. -/
structure Conversion where
  /-- The roots, in the order in which they are searched. -/
  roots : List Path
  /-- One more root, which is made if it is missing and searched last. -/
  generatedDirectory : Option Path := none
  outputDirectory : Path
  /-- The group that shortcut names are relative to. -/
  group : String := ""
  /-- The base package of the pages. -/
  pagesPackage : String := "pages"
  defaultRoot : Option String := none
  imports : List String := []
  markdownArtifact : Bool := false
  exclude : List String := []
  features : Features := {}
deriving DecidableEq, Inhabited, Repr

/-- A page that was written. -/
structure GeneratedFile where
  /-- The canonical path of the document. -/
  source : Path
  output : Path
deriving DecidableEq, Repr

/-- What a successful conversion has done. -/
structure Summary where
  files : List GeneratedFile := []
  warnings : List String := []
deriving DecidableEq, Inhabited, Repr

/-- A part of a conversion, which may be given up and changes the file system. -/
abbrev ConversionAction := ExceptT ConversionError (StateM FileSystem)

/-! ### Paths that need not exist -/

/-- The canonical path of the longest part of a path that exists, with the names of the missing
rest put behind it. -/
def canonicalLenientFrom (fs : FileSystem) : Nat → Path → List RawText → Except Fault Path
  | fuel, path, missing =>
    match fs.canonicalPath path with
    | .ok canonical => .ok (missing.foldl Path.child canonical)
    | .error fault =>
      match fuel, path.parent?, path.fileName? with
      | fuel + 1, some parent, some name =>
        canonicalLenientFrom fs fuel parent (name :: missing)
      | _, _, _ => .error fault

/-- The canonical path of something that need not exist yet. -/
def canonicalLenient (fs : FileSystem) (path : Path) : Except Fault Path := do
  let path ← fs.absolute path
  canonicalLenientFrom fs path.text.bytes.length path []

namespace Conversion

/-- The conversion that settings ask for. -/
def ofSettings (s : Settings) : Conversion where
  roots := s.roots
  generatedDirectory := some s.generatedDirectory
  outputDirectory := s.outputDirectory
  group := s.group
  pagesPackage := s.basePackage
  defaultRoot := s.defaultRoot
  imports := s.imports
  markdownArtifact := s.markdownArtifact
  exclude := s.exclude
  features := s.features

/-! ### Steps -/

/-- A change of files, whose fault gives the conversion up for a reason. -/
def attempt {α : Type} (reason : Fault → ConversionError) (action : FileAction α) :
    ConversionAction α := do
  match (← (action.run : StateM FileSystem (Except Fault α))) with
  | .ok a => return a
  | .error fault => throw (reason fault)

/-- A question to the file system. -/
def ask {α : Type} (question : FileSystem → Except ConversionError α) : ConversionAction α := do
  match question (← get) with
  | .ok a => return a
  | .error error => throw error

/-- The roots, among them the directory for generated documents, which is made. -/
def rootSet (c : Conversion) : ConversionAction Roots := do
  if let some directory := c.generatedDirectory then
    attempt (fun fault => .roots (.root directory fault)) (FileAction.makeDirectories directory)
  ask fun fs =>
    (Roots.ofPaths fs (c.roots ++ c.generatedDirectory.toList)).mapError .roots

/-- The trees of planned pages, and the cache with them. -/
def readAll (fs : FileSystem) :
    Cache → List PlannedPage → Except ConversionError (List (PlannedPage × Node) × Cache)
  | cache, [] => .ok ([], cache)
  | cache, page :: rest =>
    match cache.get fs page.path with
    | (.error error, _) => .error (.input page.path error)
    | (.ok document, cache) => do
      let (others, cache) ← readAll fs cache rest
      return ((page, document.tree) :: others, cache)

/-- Whether a directory holds a root or lies inside of one. -/
def overlaps (roots : Roots) (directory : Path) : Bool :=
  roots.paths.any fun root => root.startsWith directory || directory.startsWith root

/-- Makes an empty output directory. -/
def prepareOutput (c : Conversion) (roots : Roots) : ConversionAction Unit := do
  let refused := ConversionError.outputDirectory c.outputDirectory
  let canonical ← ask fun fs => (canonicalLenient fs c.outputDirectory).mapError refused
  if overlaps roots canonical then throw (refused .overlapsRoot)
  if (← get).present c.outputDirectory then
    attempt refused (FileAction.removeTree c.outputDirectory)
  attempt refused (FileAction.makeDirectories c.outputDirectory)

/-- Writes a file and makes the directories on the way to it. -/
def writePage (path : Path) (source : String) : ConversionAction Unit :=
  attempt (.write path) do
    if let some directory := path.parent? then FileAction.makeDirectories directory
    FileAction.write path source

/-- The context in which a page is rendered. -/
def context (c : Conversion) (page : PlannedPage) : Context :=
  let start : Context :=
    { package := page.placement.package
      functionName := page.placement.functionName
      group := c.group
      markdownArtifact := c.markdownArtifact }
  ((start.addImports c.imports).withDefaultRoot c.defaultRoot).withSource
    page.file.relativePath (some page.path)

/-- The page of a document, rendered with the documents that a cache finds. -/
def renderPage (c : Conversion) (fs : FileSystem) (cache : Cache) (page : PlannedPage)
    (tree : Node) : Page × Cache :=
  let (rendered, _, cache) :=
    Page.render .elements (Cache.resolver fs) (cache.documentBound fs) tree (c.context page) cache
  (rendered, cache)

/-- Renders and writes pages. -/
def writeAll (c : Conversion) : Cache → Summary → List (PlannedPage × Node) →
    ConversionAction Summary
  | _, summary, [] => return summary
  | cache, summary, (page, tree) :: rest => do
    let (rendered, cache) := c.renderPage (← get) cache page tree
    let output := c.outputDirectory.join page.placement.output
    writePage output rendered.source
    writeAll c cache
      { files := summary.files ++ [⟨page.path, output⟩]
        warnings := summary.warnings ++ rendered.warnings } rest

/-- Converts some inputs, written in some grammar. -/
def convert (c : Conversion) (g : Grammar) (roots : Roots) (inputs : List Path) :
    ConversionAction Summary := do
  let pages ← ask fun fs => plan fs roots c.pagesPackage inputs
  ask fun _ => checkCollisions pages
  let cache : Cache := { parse := g.parse c.features, roots := roots }
  let (trees, cache) ← ask fun fs => readAll fs cache pages
  c.prepareOutput roots
  c.writeAll cache {} trees

/-- Converts some files. Other documents are read only where the files refer to them. -/
def runFiles (c : Conversion) (g : Grammar) (files : List Path) : ConversionAction Summary := do
  let roots ← c.rootSet
  c.convert g roots files

/-- Converts every document below the roots. -/
def run (c : Conversion) (g : Grammar) : ConversionAction Summary := do
  let roots ← c.rootSet
  let files := discover (← get) roots c.exclude
  c.convert g roots (files.map SourceFile.path)

end Conversion

end MarkdownPages
