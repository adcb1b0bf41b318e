import MarkdownPages.Render.Reference
import MarkdownPages.Sources.Roots

/-!
# The cache of documents

A file is read and parsed when it is first asked for, and its tree is kept. From then on the tree
is handed out whatever the file holds. A file that cannot be read or parsed leaves no trace but
the attempt.

## Main definitions

* `Cache` — the trees of canonical paths, a parser and the roots
* `Cache.get` — the document at a path
* `Cache.getRelative?` — the document at a path below the roots
* `Cache.resolver` — the cache as a source of documents for rendering

## Implementation notes

Every tree that is kept has the number of trees kept before it. Two trees with one number are the
same tree, not merely equal ones.
-/

namespace MarkdownPages

/-- A tree that is kept, with its number. -/
structure CachedTree where
  number : Nat
  tree : Node
deriving Inhabited, Repr

/-- The trees of canonical paths. -/
structure Cache where
  parse : String → Except DocumentError Node
  roots : Roots
  /-- The trees kept, latest first. -/
  documents : List (Path × CachedTree) := []
  /-- The canonical paths of the texts that went to the parser, latest first. -/
  parsed : List Path := []

namespace Cache

/-- The number of trees kept. -/
def size (cache : Cache) : Nat := cache.documents.length

/-- The tree kept for a canonical path. -/
def find? (cache : Cache) (canonical : Path) : Option CachedTree :=
  (cache.documents.find? fun entry => canonical.same entry.1).map Prod.snd

/-- The tree of a canonical path, which is kept, or read and parsed now. -/
def load (cache : Cache) (fs : FileSystem) (canonical : Path) :
    Except SourceError CachedTree × Cache :=
  match cache.find? canonical with
  | some document => (.ok document, cache)
  | none =>
    match fs.read canonical with
    | .error fault => (.error (.read canonical fault), cache)
    | .ok text =>
      let cache := { cache with parsed := canonical :: cache.parsed }
      match cache.parse text with
      | .error error => (.error (.parse canonical error), cache)
      | .ok tree =>
        let document := { number := cache.size, tree := tree }
        (.ok document, { cache with documents := (canonical, document) :: cache.documents })

/-- The document that a path leads to. It has to lie below a root. -/
def get (cache : Cache) (fs : FileSystem) (path : Path) :
    Except SourceError CachedTree × Cache :=
  match fs.canonicalPath path with
  | .error fault => (.error (.read path fault), cache)
  | .ok canonical =>
    if cache.roots.contains canonical then cache.load fs canonical
    else (.error (.outsideRoots canonical), cache)

/-- A document that was found, with the tree that is kept for it. -/
structure Found where
  path : Path
  relativePath : String
  document : CachedTree
deriving Inhabited

/-- The document that a path from the roots leads to. Whatever fails, nothing is found. -/
def getRelative? (cache : Cache) (fs : FileSystem) (path : String) : Option Found × Cache :=
  match cache.roots.resolve? fs ⟨path⟩ with
  | none => (none, cache)
  | some canonical =>
    match cache.roots.relativePath? canonical with
    | none => (none, cache)
    | some relativePath =>
      match cache.load fs canonical with
      | (.ok document, cache) => (some ⟨canonical, relativePath, document⟩, cache)
      | (.error _, cache) => (none, cache)

/-- A found document as rendering sees it. -/
def Found.resolved (found : Found) : ResolvedDocument :=
  { path := found.path, relativePath := found.relativePath, tree := found.document.tree }

/-- The cache as a source of documents. -/
def resolver (fs : FileSystem) : Resolver Cache where
  lookup path cache :=
    let (found, cache) := cache.getRelative? fs path
    (found.map Found.resolved, cache)

/-- A bound on the number of documents that can be found. -/
def documentBound (cache : Cache) (fs : FileSystem) : Nat := fs.fileCount + cache.size

end Cache

end MarkdownPages
