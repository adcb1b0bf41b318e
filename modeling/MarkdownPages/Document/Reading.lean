import MarkdownPages.Document.Builder
import MarkdownPages.Document.FrontMatter
import MarkdownPages.Markup.Features

/-!
# Reading documents

A document is written in two languages, that of the markup and that of its front matter. What their
texts mean is settled elsewhere; here it is put together to a tree.

## Main definitions

* `Grammar` — what the texts of both languages mean
* `Grammar.parse` — the tree of a text
-/

namespace MarkdownPages

/-- What the texts of the languages mean that documents are written in. -/
structure Grammar where
  /-- The events of a text, read with some features. -/
  events : Features → String → List Event
  /-- The entries of the mapping that front matter is; none if it is no mapping. -/
  decode : List Char → Option (List (String × Yaml.Value))

/-- The tree of a text, read with some features. -/
def Grammar.parse (g : Grammar) (features : Features) (text : String) :
    Except DocumentError Node :=
  Builder.ofEvents (FrontMatter.read g.decode) (g.events features text)

end MarkdownPages
