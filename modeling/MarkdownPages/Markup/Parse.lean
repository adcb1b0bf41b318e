import MarkdownPages.Document.Reading
import MarkdownPages.Markup.Events

/-!
# The grammar of documents

## Main definitions

* `Grammar.commonMark` — markup with front matter in YAML
-/

namespace MarkdownPages

/-- Markup with front matter in YAML. -/
def Grammar.commonMark : Grammar where
  events := Markup.documentEvents
  decode := Yaml.topEntries?

end MarkdownPages
