import MarkdownPages.Command.Run

/-!
# The program

The program takes in what a command can look at, lets the command do its work on that, and carries
the difference out. A command can look at the settings file, the roots, the output directory and
the directory for data of the project, and at the directories and links on the way to them.

## Main definitions

* `Program.takeIn` — the part of the real file system that a request is about
* `Program.carryOut` — makes the real file system agree with a changed one
* `main` — the program

## Implementation notes

Nothing is decided here. A link is taken in with the real path that it leads to. Trees are followed
down to a depth that no path of the operating system exceeds. Files are asked for by the text that
shows their path, since that is how they are asked for here.
-/

namespace MarkdownPages

namespace Program

/-- The number of steps that no path of the operating system exceeds. -/
def maxSteps : Nat := 4096

/-- The names of a real path. -/
def namesOf (real : String) : List RawText :=
  ((Text.splitOn (· == '/') real.toList).filter (!·.isEmpty)).map (.ofText <| String.ofList ·)

/-- The names of the real path that names lead to, if they lead anywhere. -/
def real? (names : List RawText) : IO (Option (List RawText)) :=
  tryCatch (do return some (namesOf (← IO.FS.realPath (Path.ofNames names).text.shown).toString))
    fun _ => return none

/-! ### Taking in -/

/-- The entry of a directory with everything below it. -/
def takeEntry : Nat → IO.FS.DirEntry → IO Entry
  | 0, _ => return .emptyDirectory
  | depth + 1, e => do
    match (← e.path.symlinkMetadata).type with
    | .dir =>
      let entries ← (← e.path.readDir).toList.mapM fun inner =>
        return (.ofText inner.fileName, ← takeEntry depth inner)
      return .directory (Ascending.ofEntries entries)
    | .symlink =>
      let target ← tryCatch (IO.FS.realPath e.path) fun _ => return e.path
      return .link ⟨target.toString⟩
    | _ => return .file (.ofBytes (← IO.FS.readBinFile e.path))

/-- The entry at a real path with everything below it. -/
def takeTree (place : List RawText) : IO Entry := do
  let real ← IO.FS.realPath (Path.ofNames place).text.shown
  if ← real.isDir then
    let entries ← (← real.readDir).toList.mapM fun inner =>
      return (.ofText inner.fileName, ← takeEntry maxSteps inner)
    return .directory (Ascending.ofEntries entries)
  else return .file (.ofBytes (← IO.FS.readBinFile real))

/-- Whether there is a directory at a real path. -/
def isRealDirectory (place : List RawText) : IO Bool := do
  (← IO.FS.realPath (Path.ofNames place).text.shown).isDir

/-- A tree with what lies on the way from a place along some names. If the way leads to a
directory, that is taken in with everything below it where `whole` holds. -/
def takeWay (whole : Bool) : Nat → Entry → List RawText → List RawText → IO Entry
  | 0, top, _, _ => return top
  | _ + 1, top, place, [] => do
    if whole then
      let tree ← takeTree place
      return top.update (fun _ => tree) place
    else return top
  | steps + 1, top, place, name :: rest => do
    if name = .ofText ".." then takeWay whole steps top place.dropLast rest
    else
      match ← real? (place ++ [name]) with
      | none => return top
      | some real =>
        let put := fun entry => top.update (·.withChild name entry) place
        if real != place ++ [name] then
          takeWay whole steps (put (.link (.ofNames real))) [] (real ++ rest)
        else if ← isRealDirectory real then
          let known := (top.at? real).any Entry.isDirectory
          takeWay whole steps (if known then top else put .emptyDirectory) real rest
        else return put (← takeTree real)

/-- A file system with what lies on the way of a path. -/
def takePath (whole : Bool) (fs : FileSystem) (path : Path) : IO FileSystem := do
  let names := path.components.filterMap FileSystem.stepText?
  let top ← takeWay whole maxSteps fs.top [] (fs.start path ++ names)
  return { fs with top := top }

/-- A file system with the settings files that are looked for without a path. -/
def takeSettingsFiles (fs : FileSystem) : List RawText → IO FileSystem
  | [] => takePath false fs ((Path.ofNames []).child Settings.fileName)
  | name :: outer => do
    let directory := Path.ofNames (name :: outer).reverse
    takeSettingsFiles (← takePath false fs (directory.child Settings.fileName)) outer

/-- The part of the real file system that a request is about. -/
def takeIn (environment : Environment) (request : Request) : IO FileSystem := do
  let working := (← real? ["proc", "self", "cwd"]).getD []
  let fs ← takePath false { top := .emptyDirectory, working := working } (.ofNames working)
  match request with
  | .convert options =>
    let fs ← match options.settingsFile with
      | some path => takePath false fs path
      | none => takeSettingsFiles fs working.reverse
    match Settings.load fs environment options.settingsFile (some options.overrides) with
    | .ok s => (s.allRoots ++ [s.outputDirectory, s.projectDirectory]).foldlM (takePath true) fs
    | .error _ => return fs
  | _ => return fs

/-- The environment of the program. -/
def takeEnvironment : IO Environment := do
  let text ← IO.FS.readFile "/proc/self/environ"
  return (Text.splitOn (· == Char.ofNat 0) text.toList).filterMap fun line =>
    (Text.cutFirst '=' line).map fun (name, value) => (String.ofList name, String.ofList value)

/-! ### Carrying out -/

/-- Removes what lies at a path. -/
def removeReal (path : String) : Entry → IO Unit
  | .directory _ => IO.FS.removeDirAll path
  | _ => IO.FS.removeFile path

/-- Makes a file system agree with a changed one at a path, given what lies there before and
after the change. -/
def carryOut : Nat → Path → Option Entry → Option Entry → IO Unit
  | 0, _, _, _ => return
  | _ + 1, _, none, none => return
  | _ + 1, path, some before, none => removeReal path.text.shown before
  | depth + 1, path, before, some (.directory entries) => do
    let known := (before.map Entry.entries).getD []
    if !before.any Entry.isDirectory then
      before.forM (removeReal path.text.shown)
      IO.FS.createDir path.text.shown
    for (name, child) in known do
      if (Ascending.get? name entries).isNone then
        carryOut depth (path.child name) (some child) none
    for (name, child) in entries do
      carryOut depth (path.child name) (Ascending.get? name known) (some child)
  | _ + 1, path, before, some (.file (.text text)) => do
    match before with
    | some (.file (.text earlier)) => if earlier ≠ text then IO.FS.writeFile path.text.shown text
    | _ => IO.FS.writeFile path.text.shown text
  | _ + 1, _, _, some _ => return

end Program

end MarkdownPages

open MarkdownPages

/-- The program. -/
def main (arguments : List String) : IO UInt32 := do
  let environment ← Program.takeEnvironment
  let request := Request.ofArguments environment arguments
  let before ← Program.takeIn environment request
  let (outcome, after) := Command.answer environment before request
  Program.carryOut Program.maxSteps ⟨"/"⟩ (some before.top) (some after.top)
  IO.print outcome.output
  if let .convert options := request then
    if options.verbose then outcome.details.forM IO.eprintln
  outcome.messages.forM IO.eprintln
  return outcome.exitCode.toUInt32
