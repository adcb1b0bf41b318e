import MarkdownPages.Files.FileSystem

/-!
# Changing a file system

Every operation has a file system after it whether it succeeds or not: one that fails half-way
keeps what it has done.

## Main definitions

* `FileAction` — an operation that may fail and changes a file system
* `FileAction.makeDirectory`, `FileAction.makeDirectories` — one directory, or all on a path
* `FileAction.removeTree` — a directory with everything in it
* `FileAction.write` — a text file
* `FileAction.makeLink` — a symbolic link
-/

namespace MarkdownPages

/-- An operation that may fail and changes a file system. -/
abbrev FileAction := ExceptT Fault (StateM FileSystem)

/-- The last step of a path and whether a slash follows it. -/
structure LastStep where
  /-- The place of the directory in which the last step is taken. -/
  directory : List RawText
  step : Step
  /-- Whether the path ends in a slash. -/
  slash : Bool
deriving Inhabited

namespace FileSystem

/-- Where the last step of a path is taken. All links before it are followed. -/
def lastStep (fs : FileSystem) (p : Path) : Except Fault LastStep := do
  admits p
  let bare := (p.text.bytes.reverse.dropWhile (· == RawText.slash)).reverse
  let steps := (Path.mk ⟨bare⟩).steps
  match (← fs.top.follow maxLinks (fs.start p) (steps.dropLast ++ [.here])) with
  | .found directory =>
    return {
      directory
      step := steps.getLast?.getD .here
      slash := bare.length < p.text.bytes.length }
  | _ => throw .notFound

/-- The entry of the given name in the directory at a place. -/
def childAt? (fs : FileSystem) (directory : List RawText) (name : RawText) : Option Entry :=
  (fs.top.at? directory).bind (Entry.child? name)

/-- The file system with the entry at a place changed. -/
def change (fs : FileSystem) (place : List RawText) (f : Entry → Entry) : FileSystem :=
  { fs with top := fs.top.update f place }

end FileSystem

namespace FileAction

/-- A question to the file system that may fail. -/
def ask {α : Type} (question : FileSystem → Except Fault α) : FileAction α := do
  match question (← get) with
  | .ok answer => return answer
  | .error fault => throw fault

/-- Makes a directory whose parent exists. -/
def makeDirectory (p : Path) : FileAction Unit := do
  let last ← ask (·.lastStep p)
  match last.step with
  | .into name =>
    if maxNameLength < name.bytes.length then throw .nameTooLong
    if ((← get).childAt? last.directory name).isSome then throw .alreadyExists
    modify fun fs => fs.change last.directory (·.withChild name .emptyDirectory)
  | _ => throw .alreadyExists

/-- Makes a directory unless it is there already. -/
def ensureDirectory (p : Path) : FileAction Unit :=
  tryCatch (makeDirectory p) fun fault => do
    if fault = .alreadyExists && (← get).isDirectory p then return else throw fault

/-- Makes the directory that comes first in a list of paths, each of which lies in the next;
those that are missing are made before it. -/
def makeFirst : List Path → FileAction Unit
  | [] => return
  | p :: outer =>
    tryCatch (ensureDirectory p) fun fault => do
      if fault = .notFound then
        makeFirst outer
        ensureDirectory p
      else throw fault

/-- The path and the paths that hold it, without the top and the empty path. -/
def lineage : Nat → Path → List Path
  | 0, _ => []
  | fuel + 1, p =>
    match p.parent? with
    | some parent => p :: lineage fuel parent
    | none => []

/-- Makes a directory and the missing ones on the way to it. -/
def makeDirectories (p : Path) : FileAction Unit := makeFirst (lineage (p.text.bytes.length + 1) p)

/-- Empties the directory that a path leads to. -/
def emptyDirectory (p : Path) : FileAction Unit := do
  let place ← ask (·.canonical p)
  match (← get).top.at? place with
  | some (.directory _) => modify fun fs => fs.change place fun _ => .emptyDirectory
  | _ => throw .notADirectory

/-- Removes a directory with everything in it. A link is removed itself, unless a slash follows
it. A directory that is not named by its last step is emptied but cannot be removed. -/
def removeTree (p : Path) : FileAction Unit := do
  let last ← ask (·.lastStep p)
  match last.step with
  | .into name =>
    match (← get).childAt? last.directory name, last.slash with
    | none, _ => throw .notFound
    | some (.link _), true =>
      emptyDirectory p
      throw .notADirectory
    | some (.file _), _ => throw .notADirectory
    | some _, _ => modify fun fs => fs.change last.directory (·.withoutChild name)
  | .here =>
    emptyDirectory p
    throw .invalidArgument
  | .up =>
    emptyDirectory p
    throw .notEmpty

/-- Puts content into a file, which is made if its directory exists. -/
def writeContent (p : Path) (content : Content) : FileAction Unit := do
  match (← ask (·.find p)) with
  | .found place =>
    match (← get).top.at? place with
    | some (.directory _) => throw .isADirectory
    | _ => modify fun fs => fs.change place fun _ => .file content
  | .missing directory name =>
    modify fun fs => fs.change directory (·.withChild name (.file content))
  | .link _ _ _ => throw .tooManyLinks

/-- Puts text into a file, which is made if its directory exists. -/
def write (p : Path) (text : String) : FileAction Unit := writeContent p (.text text)

/-- Makes a symbolic link. -/
def makeLink (p target : Path) : FileAction Unit := do
  let last ← ask (·.lastStep p)
  match last.step with
  | .into name =>
    if ((← get).childAt? last.directory name).isSome then throw .alreadyExists
    modify fun fs => fs.change last.directory (·.withChild name (.link target))
  | _ => throw .alreadyExists

/-- Removes whatever a path names: a file, a link, or a directory with everything in it. -/
def remove (p : Path) : FileAction Unit := do
  let last ← ask (·.lastStep p)
  match last.step with
  | .into name =>
    if ((← get).childAt? last.directory name).isNone then throw .notFound
    modify fun fs => fs.change last.directory (·.withoutChild name)
  | _ => throw .invalidArgument

end FileAction

end MarkdownPages
