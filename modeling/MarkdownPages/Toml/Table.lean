/-!
# Tables of settings

A table may be written under a header, come into being as a part of a longer header or of a key
with dots, or stand between curly brackets. How it came into being decides what may still be
added to it.

## Main definitions

* `Toml.Value`, `Toml.Form` — values, and how a table came into being
* `Toml.Table` — the entries of a table
* `Toml.define?` — a table with a value under a key
* `Toml.openTable?`, `Toml.openElement?` — a table with the table of a header in it
* `Toml.within?` — a table with the table at the end of a path changed

## Implementation notes

A header names a table by its path from the top. The table is opened once, and what stands below
the header is then added to it, also by its path.
-/

namespace MarkdownPages

namespace Toml

/-- How a table came into being. -/
inductive Form where
  /-- Under a header of its own. -/
  | explicit
  /-- As a part of a longer header. -/
  | implicit
  /-- As a part of a key with dots. -/
  | dotted
  /-- Between curly brackets, which end it for good. -/
  | inline
deriving DecidableEq, Inhabited, Repr

/-- A value. -/
inductive Value where
  | string (s : String)
  | bool (b : Bool)
  | number
  /-- A date, a time, or both. -/
  | moment
  | array (items : List Value)
  | table (form : Form) (entries : List (String × Value))
  /-- The tables under headers with double brackets, latest first. -/
  | tables (elements : List (List (String × Value)))
deriving Inhabited, Repr

/-- The entries of a table, in the order in which they were written. -/
abbrev Table := List (String × Value)

/-- The table with the value of a key replaced, or added at the end. -/
def setEntry (key : String) (value : Value) : Table → Table
  | [] => [(key, value)]
  | (k, v) :: rest => if k = key then (k, value) :: rest else (k, v) :: setEntry key value rest

/-- The table and its form, changed where a path of keys leads. Tables that are missing on the way
get the form `missing`; into which tables the path may lead, `passes` says. A list of tables
leads to its latest element. -/
def within? (missing : Form) (passes : Form → Bool)
    (change : Form → Table → Option (Form × Table)) :
    List String → Form → Table → Option (Form × Table)
  | [], form, table => change form table
  | key :: path, form, table =>
    match table.lookup key with
    | none => do
      let (inner, entries) ← within? missing passes change path missing []
      return (form, setEntry key (.table inner entries) table)
    | some (.table inner entries) =>
      if passes inner then do
        let (inner, entries) ← within? missing passes change path inner entries
        return (form, setEntry key (.table inner entries) table)
      else none
    | some (.tables (latest :: others)) => do
      let (_, entries) ← within? missing passes change path .explicit latest
      return (form, setEntry key (.tables (entries :: others)) table)
    | some _ => none

/-- Whether a key with dots may lead into a table. -/
def Form.isOpen : Form → Bool
  | .implicit | .dotted => true
  | .explicit | .inline => false

/-- Whether a header may lead into a table. -/
def Form.isListed : Form → Bool
  | .inline => false
  | _ => true

/-- The table with a value under a key with dots. The parts of the key before the last have to
lead to a table that keys with dots brought into being, and the key has to be new. -/
def define? (path : List String) (key : String) (value : Value) (form : Form) (table : Table) :
    Option (Form × Table) :=
  within? .dotted Form.isOpen (fun inner entries =>
    if decide (inner = .dotted) == path.isEmpty then none
    else if (entries.lookup key).isSome then none
    else some (inner, entries ++ [(key, value)])) path form table

/-- The table with the table of a header in it. The header has to be the first of its table, which
may have come into being as a part of other headers. -/
def openTable? (path : List String) (key : String) (top : Table) : Option Table := do
  let (_, top) ← within? .implicit Form.isListed (fun form entries =>
    match entries.lookup key with
    | none => some (form, entries ++ [(key, .table .explicit [])])
    | some (.table .implicit inner) => some (form, setEntry key (.table .explicit inner) entries)
    | some _ => none) path .explicit top
  return top

/-- The table with one more element in the list of tables of a header with double brackets. -/
def openElement? (path : List String) (key : String) (top : Table) : Option Table := do
  let (_, top) ← within? .implicit Form.isListed (fun form entries =>
    match entries.lookup key with
    | none => some (form, entries ++ [(key, .tables [[]])])
    | some (.tables elements) => some (form, setEntry key (.tables ([] :: elements)) entries)
    | some _ => none) path .explicit top
  return top

/-- The top table with a value in the table that the latest header opened. -/
def defineUnder? (header path : List String) (key : String) (value : Value) (top : Table) :
    Option Table := do
  let (_, top) ← within? .explicit (fun _ => true) (define? path key value) header .explicit top
  return top

end Toml

end MarkdownPages
