import MarkdownPages.Files.Path
import MarkdownPages.Text.Ascending

/-!
# File trees

A file tree is a nested structure of directories, files and symbolic links. Everything below a
directory is found by a list of names, and changes are made at such a place as well; a directory
keeps its entries in ascending order of their names, so two trees that look the same everywhere
are equal.

## Main definitions

* `Content`, `Entry` — what a file holds, and what a name stands for
* `Entry.at?` — the entry at a list of names, without following links
* `Entry.update` — the tree with the entry at a list of names changed
* `Entry.withChild`, `Entry.withoutChild` — a directory with one entry more or less
-/

namespace MarkdownPages

/-- What a file holds: text, or bytes that are no text. -/
inductive Content where
  | text (s : String)
  | binary (bytes : ByteArray)

/-- What a name in a directory stands for. -/
inductive Entry where
  | file (content : Content)
  /-- A symbolic link. -/
  | link (target : Path)
  /-- A directory, with its entries in ascending order of their names. -/
  | directory (entries : List (RawText × Entry))

namespace Content

instance : Inhabited Content := ⟨.text ""⟩

/-- The content that bytes make up. -/
def ofBytes (bytes : ByteArray) : Content :=
  match String.fromUTF8? bytes with
  | some s => .text s
  | none => .binary bytes

end Content

namespace Entry

instance : Inhabited Entry := ⟨.directory []⟩

/-- A directory without entries. -/
def emptyDirectory : Entry := .directory []

/-- The entries of a directory; anything else has none. -/
def entries : Entry → List (RawText × Entry)
  | directory entries => entries
  | _ => []

/-- Whether an entry is a directory. -/
def isDirectory : Entry → Bool
  | directory _ => true
  | _ => false

/-- Whether an entry is a file. -/
def isFile : Entry → Bool
  | file _ => true
  | _ => false

/-! ### Places -/

/-- The entry of a directory with a name. -/
def child? (name : RawText) : Entry → Option Entry
  | directory entries => Ascending.get? name entries
  | _ => none

/-- The entry that a list of names leads to. Links are not followed. -/
def at? : List RawText → Entry → Option Entry
  | [], entry => some entry
  | name :: rest, entry => (entry.child? name).bind (at? rest)

/-- The directory with an entry of the given name, in place of an earlier one. Anything but a
directory stays as it is. -/
def withChild (entry : Entry) (name : RawText) (child : Entry) : Entry :=
  match entry with
  | directory entries => .directory (Ascending.put name child entries)
  | entry => entry

/-- The directory without the entry of the given name. -/
def withoutChild (entry : Entry) (name : RawText) : Entry :=
  match entry with
  | directory entries => .directory (Ascending.erase name entries)
  | entry => entry

/-- The tree with the entry at a list of names changed; a list that leads nowhere changes
nothing. -/
def update (change : Entry → Entry) : List RawText → Entry → Entry
  | [], entry => change entry
  | name :: rest, entry =>
    match entry.child? name with
    | some child => entry.withChild name (update change rest child)
    | none => entry

theorem at?_append (names more : List RawText) (entry : Entry) :
    at? (names ++ more) entry = (at? names entry).bind (at? more) := by
  induction names generalizing entry with
  | nil => rfl
  | cons name rest ih =>
    simp only [List.cons_append, at?]
    cases entry.child? name with
    | none => rfl
    | some child => exact ih child

/-! ### Sizes -/

mutual

/-- The number of files in a tree. -/
def fileCount : Entry → Nat
  | file _ => 1
  | link _ => 0
  | directory entries => fileCountAll entries

/-- The number of files below several names. -/
def fileCountAll : List (RawText × Entry) → Nat
  | [] => 0
  | (_, entry) :: rest => fileCount entry + fileCountAll rest

end

end Entry

end MarkdownPages
