import MarkdownPages.Kotlin.Literal
import MarkdownPages.Render.Context

/-!
# What a handler does

A handler turns a node into lines of code. While doing so it may render other nodes, indent what
it renders, look at its surroundings, gather imports and warnings, and embed other documents, and
it may do nothing else: a handler is a value of `Rendering`, one operation after the other.

## Main definitions

* `Rendering` — the operations of a handler, ending in its output
* `Rendering.line`, `Rendering.wrap`, `Rendering.block`, `Rendering.textCall` — the usual shapes
* `Handler`, `HandlerTable` — what is done for each kind of node

## Implementation notes

Each operation takes what follows as a function of its result, so that a handler is written from
top to bottom and its meaning is defined by recursion on it.
-/

namespace MarkdownPages

/-- What a handler can see. -/
structure Surroundings where
  context : Context
  /-- The level of indentation. -/
  depth : Nat
  /-- The kinds of the nodes around the one being rendered, innermost first. -/
  ancestors : List NodeKind := []
deriving Inhabited

namespace Surroundings

/-- The kind of the node whose children are being rendered. -/
def parentKind? (s : Surroundings) : Option NodeKind := s.ancestors.head?

/-- Whether some node around has the given kind. -/
def inside (s : Surroundings) (kind : NodeKind) : Bool := s.ancestors.contains kind

end Surroundings

/-- The operations of a handler. -/
inductive Rendering where
  /-- Nothing more to do: the output. -/
  | output (text : String)
  /-- Renders a node by its own handler. -/
  | render (node : Node) (next : String → Rendering)
  /-- Renders the children of a node, one after the other. -/
  | renderChildren (node : Node) (next : String → Rendering)
  /-- Renders one level deeper. -/
  | indent (inner : Rendering) (next : String → Rendering)
  | look (next : Surroundings → Rendering)
  | addImport (target : String) (next : Rendering)
  | warn (message : String) (next : Rendering)
  /-- Takes a heading id for a text. -/
  | headingId (text : String) (next : String → Rendering)
  /-- Follows a destination from the current document. -/
  | resolve (destination : String) (next : Reference → Rendering)
  /-- Renders the contents of another document in place, unless it is being rendered already. -/
  | embed (document : ResolvedDocument) (next : Option String → Rendering)

/-- What is done for a node. -/
abbrev Handler := Node → Rendering

/-! ### Text of the generated code -/

/-- One level of indentation. -/
def indentUnit : String := "    "

/-- The indentation of a level. -/
def indentation (depth : Nat) : String := String.join (List.replicate depth indentUnit)

/-- A line at a level of indentation. -/
def lineAt (depth : Nat) (text : String) : String := indentation depth ++ text ++ "\n"

/-- The package of the elements of a page. -/
def domPackage : String := "org.jetbrains.compose.web.dom"

/-- The import of an element of a page. -/
def domImport (name : String) : String := domPackage ++ "." ++ name

namespace Rendering

/-- One line at the current indentation. -/
def line (text : String) (next : String → Rendering := output) : Rendering :=
  look fun surroundings => next (lineAt surroundings.depth text)

/-- A call with a block of code, which is rendered one level deeper; an empty block stays on one
line. -/
def wrap (call : String) (inner : Rendering) (next : String → Rendering := output) : Rendering :=
  indent inner fun body =>
    if body.isEmpty then line (call ++ " \x7b\x7d") next
    else line (call ++ " \x7b") fun first => line "\x7d" fun last => next (first ++ body ++ last)

/-- A call with a block that holds the children of a node. -/
def block (call : String) (node : Node) (next : String → Rendering := output) : Rendering :=
  wrap call (renderChildren node output) next

/-- A call that shows a text. -/
def textCall (text : String) (next : String → Rendering := output) : Rendering :=
  addImport (domImport "Text") <| line ("Text(" ++ Kotlin.quoted text ++ ")") next

/-- Several nodes, each by its own handler. -/
def renderAll (nodes : List Node) (next : String → Rendering := output) : Rendering :=
  match nodes with
  | [] => next ""
  | node :: rest =>
    render node fun first => renderAll rest fun others => next (first ++ others)

end Rendering

/-- What is done for each kind of node. -/
structure HandlerTable where
  /-- The handler of a kind, if it has one of its own. -/
  entry? : NodeKind → Option Handler
  /-- The handler of all other kinds. -/
  fallback : Handler

namespace HandlerTable

/-- Shows the text of a node that has one, and renders the children of any other. -/
def plainFallback : Handler := fun node =>
  match node.literal? with
  | some literal => .textCall literal
  | none => .renderChildren node .output

/-- The table without entries. -/
def empty : HandlerTable := ⟨fun _ => none, plainFallback⟩

/-- The table with an entry for a kind; an earlier entry is replaced. -/
def withEntry (table : HandlerTable) (kind : NodeKind) (handler : Handler) : HandlerTable :=
  { table with entry? := fun k => if k = kind then some handler else table.entry? k }

/-- The table with another handler for the kinds without an entry. -/
def withFallback (table : HandlerTable) (handler : Handler) : HandlerTable :=
  { table with fallback := handler }

/-- Whether a kind has an entry. -/
def handles (table : HandlerTable) (kind : NodeKind) : Bool := (table.entry? kind).isSome

/-- The handler of a kind. -/
def handlerFor (table : HandlerTable) (kind : NodeKind) : Handler :=
  (table.entry? kind).getD table.fallback

@[simp] theorem handlerFor_withEntry_self (table : HandlerTable) (kind : NodeKind)
    (handler : Handler) : (table.withEntry kind handler).handlerFor kind = handler := by
  simp [handlerFor, withEntry]

end HandlerTable

end MarkdownPages
