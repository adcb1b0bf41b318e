import MarkdownPages.Command.Outcome
import MarkdownPages.Command.Request
import MarkdownPages.Command.Run
import MarkdownPages.Conversion.Error
import MarkdownPages.Conversion.Plan
import MarkdownPages.Conversion.Run
import MarkdownPages.Document.Builder
import MarkdownPages.Document.Error
import MarkdownPages.Document.Event
import MarkdownPages.Document.FrontMatter
import MarkdownPages.Document.Reading
import MarkdownPages.Document.Tree
import MarkdownPages.Files.Change
import MarkdownPages.Files.Entry
import MarkdownPages.Files.Fault
import MarkdownPages.Files.FileSystem
import MarkdownPages.Files.Path
import MarkdownPages.Kotlin.Identifier
import MarkdownPages.Kotlin.Literal
import MarkdownPages.Main
import MarkdownPages.Markup.Block
import MarkdownPages.Markup.Blocks
import MarkdownPages.Markup.Continuation
import MarkdownPages.Markup.Cursor
import MarkdownPages.Markup.Destination
import MarkdownPages.Markup.Emphasis
import MarkdownPages.Markup.Events
import MarkdownPages.Markup.Features
import MarkdownPages.Markup.Inline
import MarkdownPages.Markup.Marker
import MarkdownPages.Markup.Parse
import MarkdownPages.Markup.Source
import MarkdownPages.Markup.Tag
import MarkdownPages.Markup.Token
import MarkdownPages.Numeral.Binary64
import MarkdownPages.Numeral.Decimal
import MarkdownPages.Numeral.Shortest
import MarkdownPages.Render.Context
import MarkdownPages.Render.Elements
import MarkdownPages.Render.Page
import MarkdownPages.Render.Reference
import MarkdownPages.Render.Rendering
import MarkdownPages.Render.Scope
import MarkdownPages.Settings.Error
import MarkdownPages.Settings.Expansion
import MarkdownPages.Settings.Settings
import MarkdownPages.Settings.Written
import MarkdownPages.Site.Names
import MarkdownPages.Site.Placement
import MarkdownPages.Site.Route
import MarkdownPages.Site.Slug
import MarkdownPages.Sources.Cache
import MarkdownPages.Sources.Discovery
import MarkdownPages.Sources.Error
import MarkdownPages.Sources.Glob
import MarkdownPages.Sources.Roots
import MarkdownPages.Text.Alphanumeric
import MarkdownPages.Text.Ascending
import MarkdownPages.Text.Blank
import MarkdownPages.Text.CaseFold
import MarkdownPages.Text.CaseMap
import MarkdownPages.Text.Entity
import MarkdownPages.Text.LowerCase
import MarkdownPages.Text.Punctuation
import MarkdownPages.Text.Ranges
import MarkdownPages.Text.Split
import MarkdownPages.Text.UpperCase
import MarkdownPages.Toml.Document
import MarkdownPages.Toml.Scalar
import MarkdownPages.Toml.Table
import MarkdownPages.Toml.Text
import MarkdownPages.Yaml.Character
import MarkdownPages.Yaml.Node
import MarkdownPages.Yaml.Scalar
import MarkdownPages.Yaml.Tag
import MarkdownPages.Yaml.Token
import MarkdownPages.Yaml.Value
import MarkdownPages.Proofs.Conversion.Agreement
import MarkdownPages.Proofs.Conversion.Clash
import MarkdownPages.Proofs.Conversion.Collision
import MarkdownPages.Proofs.Conversion.Delivery
import MarkdownPages.Proofs.Conversion.Discovered
import MarkdownPages.Proofs.Conversion.Foreseen
import MarkdownPages.Proofs.Conversion.InputOrder
import MarkdownPages.Proofs.Conversion.Intact
import MarkdownPages.Proofs.Conversion.Lenient
import MarkdownPages.Proofs.Conversion.Phases
import MarkdownPages.Proofs.Conversion.Planning
import MarkdownPages.Proofs.Conversion.Repetition
import MarkdownPages.Proofs.Conversion.Routing
import MarkdownPages.Proofs.Conversion.Sparing
import MarkdownPages.Proofs.Conversion.Writing
import MarkdownPages.Proofs.Document.Building
import MarkdownPages.Proofs.Document.Flattening
import MarkdownPages.Proofs.Document.FrontMatter
import MarkdownPages.Proofs.Files.Canonical
import MarkdownPages.Proofs.Files.Clearing
import MarkdownPages.Proofs.Files.Finding
import MarkdownPages.Proofs.Files.Lengthening
import MarkdownPages.Proofs.Files.Making
import MarkdownPages.Proofs.Files.Outcome
import MarkdownPages.Proofs.Files.Place
import MarkdownPages.Proofs.Files.Plain
import MarkdownPages.Proofs.Files.Remaking
import MarkdownPages.Proofs.Files.Renewing
import MarkdownPages.Proofs.Files.Spelling
import MarkdownPages.Proofs.Files.Storing
import MarkdownPages.Proofs.Files.Trees
import MarkdownPages.Proofs.Files.Walk
import MarkdownPages.Proofs.Files.Writing
import MarkdownPages.Proofs.Kotlin.Grammar
import MarkdownPages.Proofs.Kotlin.Layout
import MarkdownPages.Proofs.Kotlin.Reading
import MarkdownPages.Proofs.Page.Assembly
import MarkdownPages.Proofs.Page.Cached
import MarkdownPages.Proofs.Page.Gathering
import MarkdownPages.Proofs.Page.Imports
import MarkdownPages.Proofs.Page.Shape
import MarkdownPages.Proofs.Page.Wrapping
import MarkdownPages.Proofs.Render.Asking
import MarkdownPages.Proofs.Render.Call
import MarkdownPages.Proofs.Render.Denotation
import MarkdownPages.Proofs.Render.ElementDenotation
import MarkdownPages.Proofs.Render.Embedding
import MarkdownPages.Proofs.Render.HeadingIds
import MarkdownPages.Proofs.Render.IncludeStack
import MarkdownPages.Proofs.Render.Indentation
import MarkdownPages.Proofs.Render.Machine
import MarkdownPages.Proofs.Render.Outline
import MarkdownPages.Proofs.Render.Reference
import MarkdownPages.Proofs.Render.Restoring
import MarkdownPages.Proofs.Render.Shown
import MarkdownPages.Proofs.Render.Simulation
import MarkdownPages.Proofs.Render.Statement
import MarkdownPages.Proofs.Render.Warnings
import MarkdownPages.Proofs.Sequences
import MarkdownPages.Proofs.Settings.Checking
import MarkdownPages.Proofs.Settings.Expansion
import MarkdownPages.Proofs.Settings.Loading
import MarkdownPages.Proofs.Site.Names
import MarkdownPages.Proofs.Site.Output
import MarkdownPages.Proofs.Site.Package
import MarkdownPages.Proofs.Site.Placement
import MarkdownPages.Proofs.Site.Route
import MarkdownPages.Proofs.Site.Slug
import MarkdownPages.Proofs.Sources.Ascending
import MarkdownPages.Proofs.Sources.Cache
import MarkdownPages.Proofs.Sources.Containment
import MarkdownPages.Proofs.Sources.Discovery
import MarkdownPages.Proofs.Sources.History
import MarkdownPages.Proofs.Sources.Independence
import MarkdownPages.Proofs.Sources.Parsing
import MarkdownPages.Proofs.Sources.Relative
import MarkdownPages.Proofs.Sources.Roots
import MarkdownPages.Proofs.Sources.Stability
import MarkdownPages.Proofs.Sources.Transparency
import MarkdownPages.Proofs.Text.Ascending
import MarkdownPages.Proofs.Text.CaseMap
import MarkdownPages.Proofs.Text.Category
import MarkdownPages.Proofs.Text.Lines
import MarkdownPages.Proofs.Text.Pieces
import MarkdownPages.Proofs.Site.Identifier
