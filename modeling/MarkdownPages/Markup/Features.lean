/-!
# Features of the markup language

The core of the language is always read, and so are attributes of headings. Everything else is a
feature that can be turned on or off.

## Main definitions

* `Features` — which constructs are read
* `Features.extensions` — the names of the extensions that a set of features turns on
-/

namespace MarkdownPages

/-- Which constructs beyond the core of the language are read. -/
structure Features where
  /-- Tables, strikethrough, task lists and alerts. -/
  gfm : Bool := true
  /-- A data block between dashes at the start of a document. -/
  frontMatter : Bool := true
  footnotes : Bool := true
  math : Bool := false
  definitionLists : Bool := false
  /-- Raised and lowered text; one tilde then lowers instead of striking through. -/
  superscript : Bool := false
deriving DecidableEq, Inhabited, Repr

namespace Features

/-- Every feature. -/
def all : Features :=
  { math := true, definitionLists := true, superscript := true }

/-- The extensions that are turned on, in ascending order of their names. -/
def extensions (features : Features) : List String :=
  let entry (on : Bool) (name : String) : List String := if on then [name] else []
  entry features.definitionLists "ENABLE_DEFINITION_LIST" ++
    entry features.footnotes "ENABLE_FOOTNOTES" ++
    entry features.gfm "ENABLE_GFM" ++
    ["ENABLE_HEADING_ATTRIBUTES"] ++
    entry features.math "ENABLE_MATH" ++
    entry features.gfm "ENABLE_STRIKETHROUGH" ++
    entry features.superscript "ENABLE_SUBSCRIPT" ++
    entry features.superscript "ENABLE_SUPERSCRIPT" ++
    entry features.gfm "ENABLE_TABLES" ++
    entry features.gfm "ENABLE_TASKLISTS" ++
    entry features.frontMatter "ENABLE_YAML_STYLE_METADATA_BLOCKS"

end Features

end MarkdownPages
