import MarkdownPages.Files.Entry
import MarkdownPages.Files.Fault

/-!
# Finding things in a file system

A path is walked step by step, starting at the top or at the working directory. Every link on the
way is followed, at most forty of them; `..` leads from a directory to the one that holds it,
wherever the path came from. A place is a list of names without links on the way, so every entry
has one place.

## Main definitions

* `FileSystem` — a file tree and a working directory
* `Step`, `Path.steps` — how a path is walked
* `FileSystem.find` — where a path leads
* `FileSystem.canonical` — the place of an existing entry
* `FileSystem.present`, `FileSystem.isDirectory`, `FileSystem.isFile`, `FileSystem.read`
* `FileSystem.absolute` — a path that does not depend on the working directory
-/

namespace MarkdownPages

open RawText (slash dot)

/-- A file tree and the place of the working directory. -/
structure FileSystem where
  top : Entry
  working : List RawText := []
deriving Inhabited

/-! ### Steps -/

/-- One step along a path. -/
inductive Step where
  /-- Stays, where only a directory will do. -/
  | here
  /-- Goes to the directory that holds this one. -/
  | up
  /-- Goes to an entry of this directory. -/
  | into (name : RawText)
deriving DecidableEq, Inhabited, Repr

/-- The step that a piece of a path between slashes stands for. -/
def Step.ofPiece (piece : List UInt8) : Step :=
  if piece.isEmpty || piece == [dot] then .here
  else if piece == [dot, dot] then .up
  else .into ⟨piece⟩

/-- The steps of a path. A slash at the end is a step too. -/
def Path.steps (p : Path) : List Step :=
  (Text.splitOn (· == slash) p.text.bytes).map Step.ofPiece

/-- The greatest length of a name, in bytes. -/
def maxNameLength : Nat := 255

/-- How many links are followed along a path. -/
def maxLinks : Nat := 40

/-! ### Walking -/

/-- Where a walk stops. -/
inductive Halt where
  /-- At an entry that is no link. -/
  | found (place : List RawText)
  /-- In a directory without an entry of the name of the last step. -/
  | missing (directory : List RawText) (name : RawText)
  /-- At a link in a directory, with steps left. -/
  | link (directory : List RawText) (target : Path) (rest : List Step)
deriving Inhabited

/-- Takes steps from a place as far as the first link. -/
def Entry.walk (top : Entry) : List RawText → List Step → Except Fault Halt
  | place, [] => .ok (.found place)
  | place, step :: rest =>
    match top.at? place with
    | none => .error .notFound
    | some (.directory entries) =>
      match step with
      | .here => walk top place rest
      | .up => walk top place.dropLast rest
      | .into name =>
        if maxNameLength < name.bytes.length then .error .nameTooLong
        else
          match Ascending.get? name entries with
          | none => if rest.isEmpty then .ok (.missing place name) else .error .notFound
          | some (.link target) => .ok (.link place target rest)
          | some _ => walk top (place ++ [name]) rest
    | some _ => .error .notADirectory

/-- Takes steps from a place, following a number of links. -/
def Entry.follow (top : Entry) : Nat → List RawText → List Step → Except Fault Halt
  | links, place, steps =>
    match top.walk place steps with
    | .ok (.link holder target rest) =>
      match links with
      | 0 => .error .tooManyLinks
      | links + 1 =>
        follow top links (if target.isAbsolute then [] else holder) (target.steps ++ rest)
    | stopped => stopped

namespace FileSystem

/-- Whether a path can be handed to the operating system at all. -/
def admits (p : Path) : Except Fault Unit :=
  if p.text.bytes.contains 0 then .error .nulInPath
  else if p.text.isEmpty then .error .notFound
  else .ok ()

/-- The place where a path starts. -/
def start (fs : FileSystem) (p : Path) : List RawText := if p.isAbsolute then [] else fs.working

/-- Where a path leads, all links followed: to an entry, or to a name that is free. -/
def find (fs : FileSystem) (p : Path) : Except Fault Halt := do
  admits p
  fs.top.follow maxLinks (fs.start p) p.steps

/-- The place of the entry that a path leads to. -/
def canonical (fs : FileSystem) (p : Path) : Except Fault (List RawText) := do
  match (← fs.find p) with
  | .found place => return place
  | _ => throw .notFound

/-- The canonical path of the entry that a path leads to. -/
def canonicalPath (fs : FileSystem) (p : Path) : Except Fault Path :=
  (fs.canonical p).map Path.ofNames

/-- The entry that a path leads to. -/
def entry? (fs : FileSystem) (p : Path) : Option Entry :=
  match fs.canonical p with
  | .ok place => fs.top.at? place
  | .error _ => none

/-! ### Looking -/

/-- Whether a path leads to anything. -/
def present (fs : FileSystem) (p : Path) : Bool := (fs.entry? p).isSome

/-- Whether a path leads to a directory. -/
def isDirectory (fs : FileSystem) (p : Path) : Bool := (fs.entry? p).any Entry.isDirectory

/-- Whether a path leads to a file. -/
def isFile (fs : FileSystem) (p : Path) : Bool := (fs.entry? p).any Entry.isFile

/-- The text of the file that a path leads to. -/
def read (fs : FileSystem) (p : Path) : Except Fault String := do
  match fs.top.at? (← fs.canonical p) with
  | some (.file (.text s)) => return s
  | some (.file (.binary _)) => throw .notText
  | some _ => throw .isADirectory
  | none => throw .notFound

/-- The number of files. -/
def fileCount (fs : FileSystem) : Nat := fs.top.fileCount

/-! ### Absolute paths -/

/-- The working directory as a path, as long as it exists. -/
def workingPath? (fs : FileSystem) : Option Path :=
  if (fs.top.at? fs.working).any Entry.isDirectory then some (.ofNames fs.working) else none

/-- The text of a component that is no start of a path. -/
def stepText? : Path.Component → Option RawText
  | .parent => some ⟨[dot, dot]⟩
  | .normal name => some name
  | _ => none

/-- The path that leads to the same entry from anywhere. No link is followed, a step `..` stays,
and so does a slash at the end. -/
def absolute (fs : FileSystem) (p : Path) : Except Fault Path :=
  if p.text.isEmpty then .error .emptyPath
  else
    match if p.isAbsolute then some ⟨⟨[slash]⟩⟩ else fs.workingPath? with
    | none => .error .notFound
    | some start =>
      let path := (p.components.filterMap stepText?).foldl Path.child start
      .ok (if p.text.bytes.getLast? = some slash then path.child ⟨[]⟩ else path)

end FileSystem

end MarkdownPages
