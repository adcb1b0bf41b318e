import MarkdownPages.Text.Alphanumeric
import MarkdownPages.Text.Blank

/-!
# Slugs

The id of a heading is made from its text: ASCII letters in lower case and digits are kept, blank
characters, dashes and underscores separate words, and everything else is dropped. Words are
joined by single dashes, with no dash at either end.

## Main definitions

* `Site.slug` — the slug of a text
-/

namespace MarkdownPages

namespace Site

/-- A character that separates the words of a slug. -/
def isSlugSeparator (c : Char) : Bool := Text.isBlank c || c == '-' || c == '_'

/-- The slug of what is left of a text, where `afterDash` says that no dash may follow what has
been written: it is set at the start and after each dash. -/
def slugFrom (afterDash : Bool) : List Char → List Char
  | [] => []
  | c :: rest =>
    if Text.isAsciiAlphanumeric c then c.toLower :: slugFrom false rest
    else if !afterDash && isSlugSeparator c then '-' :: slugFrom true rest
    else slugFrom afterDash rest

/-- A text without the dash at its end, if it has one. -/
def dropFinalDash (s : List Char) : List Char :=
  if s.getLast? == some '-' then s.dropLast else s

/-- The slug of a text. -/
def slug (text : String) : String :=
  String.ofList (dropFinalDash (slugFrom true (Text.trim text.toList)))

end Site

end MarkdownPages
