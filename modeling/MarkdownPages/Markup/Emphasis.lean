import MarkdownPages.Markup.Inline

/-!
# Emphasis

Runs of emphasis marks are matched in a sequence of pieces: a run that may end an emphasis looks
for the nearest run before it that may start one and goes with it. Matched marks enclose the
pieces between them, two at a time for strong emphasis; runs that stay unmatched are text.

Two runs of asterisks or underscores do not go together when one of them could both start and end
an emphasis and their lengths add up to a multiple of three that the closing length is not. Runs
of tildes and circumflexes go together only when they are equally long.

## Main definitions

* `Opener`, `EmphasisScan` — runs that may start an emphasis, and the pieces after them
* `emphasise` — a sequence of pieces with its emphasis
* `Inline.resolve` — the same inside links

## Implementation notes

A search that finds nothing need not be repeated among the same openers: the scan keeps, for each
class of closing runs, how many openers have been searched in vain.
-/

namespace MarkdownPages

namespace Markup

/-- A run that may start an emphasis. -/
structure Opener where
  mark : Char
  start : Nat
  /-- The length of the run in the text. -/
  length : Nat
  /-- How many of its marks are left. -/
  count : Nat
  /-- Whether the run could also end an emphasis. -/
  both : Bool
  /-- The pieces after the run, in reverse. -/
  pieces : List Inline := []
deriving Inhabited

/-- The state of matching runs. -/
structure EmphasisScan where
  /-- The pieces before all openers, in reverse. -/
  base : List Inline := []
  /-- The openers, innermost first. -/
  openers : List Opener := []
  /-- How many openers, from the outermost on, each class of closing runs has searched. -/
  searched : List (Nat × Nat) := []
deriving Inhabited

namespace EmphasisScan

/-- Adds a piece after the innermost opener. -/
def push (scan : EmphasisScan) (piece : Inline) : EmphasisScan :=
  match scan.openers with
  | [] => { scan with base := piece :: scan.base }
  | opener :: rest => { scan with openers := { opener with pieces := piece :: opener.pieces } :: rest }

/-- A number of marks as text. -/
def markText (mark : Char) (count : Nat) : Inline := .text (List.replicate count mark)

/-- The pieces after some openers, in reverse, where the marks of those openers are text. -/
def flatten (openers : List Opener) : List Inline :=
  openers.flatMap fun opener => opener.pieces ++ [markText opener.mark opener.count]

/-- All pieces in order, where the marks of openers are text. -/
def finish (scan : EmphasisScan) : List Inline := (flatten scan.openers ++ scan.base).reverse

/-! ### Classes of closing runs -/

/-- The class of a run that could both start and end an emphasis; for asterisks and underscores it
depends on the length. -/
def sharedClass (mark : Char) (length : Nat) : Nat :=
  if mark == '*' then 2 + length % 3
  else if mark == '_' then 6 + length % 3
  else if mark == '^' then 9
  else 5

/-- The class of a run that can only end an emphasis, for asterisks and underscores. -/
def closingClass? (mark : Char) : Option Nat :=
  if mark == '*' then some 1 else if mark == '_' then some 0 else none

/-- How many openers a class has searched. -/
def searchedBy (scan : EmphasisScan) (cls : Nat) : Nat := (scan.searched.lookup cls).getD 0

/-- How many openers need not be searched again for a closing run. -/
def lowerBound (scan : EmphasisScan) (mark : Char) (length : Nat) (both : Bool) : Nat :=
  let shared := scan.searchedBy (sharedClass mark length)
  match closingClass? mark with
  | some cls => if both then shared else min shared (scan.searchedBy cls)
  | none => shared

/-- Notes that all openers have been searched for a closing run. -/
def noteSearched (scan : EmphasisScan) (mark : Char) (length : Nat) (both : Bool) :
    EmphasisScan :=
  let all := scan.openers.length
  let note := fun cls (searched : List (Nat × Nat)) =>
    (cls, all) :: searched.filter fun entry => entry.1 != cls
  let shared := sharedClass mark length
  { scan with
    searched := match closingClass? mark with
      | some cls =>
        if both then note shared scan.searched
        else if mark == '*' then note shared (note cls scan.searched)
        else note cls scan.searched
      | none => note shared scan.searched }

/-- Whether a closing run goes with an opener. -/
def goesWith (mark : Char) (length : Nat) (both : Bool) (opener : Opener) : Bool :=
  opener.mark == mark &&
    (if mark == '~' || mark == '^' then opener.length == length else true) &&
    ((!both && !opener.both) || (length + opener.length) % 3 != 0 || length % 3 == 0)

/-- The innermost opener that a closing run goes with, the openers inside it, and those around
it; the outermost `bound` openers are not searched. -/
def findOpener (mark : Char) (length : Nat) (both : Bool) (bound : Nat) :
    List Opener → Option (List Opener × Opener × List Opener)
  | [] => none
  | opener :: rest =>
    if rest.length < bound then none
    else if goesWith mark length both opener then some ([], opener, rest)
    else
      (findOpener mark length both bound rest).map fun (inside, found, around) =>
        (opener :: inside, found, around)

/-! ### Enclosing -/

/-- The style that one or two marks stand for. -/
def style (features : Features) (mark : Char) (double : Bool) : Style :=
  if mark == '~' then
    if double then .strikethrough
    else if features.superscript then .subscript
    else .strikethrough
  else if mark == '^' then .superscript
  else if double then .strong
  else .emphasis

/-- Pieces enclosed by `count` marks on either side, two at a time from the inside out, where the
marks end at `start` and begin again at `stop`. Two tildes are plain text where nothing strikes
through. -/
def enclose (source : Source) (features : Features) (mark : Char) :
    Nat → Nat → Nat → List Inline → List Inline
  | 0, _, _, pieces => pieces
  | 1, _, _, pieces => [.styled (style features mark false) pieces]
  | count + 2, start, stop, pieces =>
    let inner : Inline :=
      if mark == '~' && !features.gfm then .text (source.slice (start - 2) (stop + 2))
      else .styled (style features mark true) pieces
    enclose source features mark count (start - 2) (stop + 2) [inner]

/-- Matches a run that may end an emphasis with as many openers as it has marks for; the second
component tells how many marks are left. -/
def closeRun (source : Source) (features : Features) (mark : Char) (length : Nat) (both : Bool) :
    Nat → Nat → Nat → EmphasisScan → EmphasisScan × Nat
  | 0, _, count, scan => (scan, count)
  | fuel + 1, start, count, scan =>
    if count = 0 then (scan, 0)
    else
      let bound := min scan.openers.length (scan.lowerBound mark length both)
      match findOpener mark length both bound scan.openers with
      | none => (scan.noteSearched mark length both, count)
      | some (inside, opener, around) =>
        let matched := min count opener.count
        let pieces := (flatten inside ++ opener.pieces).reverse
        let left := opener.count - matched
        let enclosed :=
          enclose source features mark matched (opener.start + opener.count) start pieces
        let scan : EmphasisScan :=
          { scan with
            openers := around
            searched := scan.searched.map fun (cls, n) => (cls, min n around.length) }
        let scan :=
          if left = 0 then enclosed.foldl push scan
          else { scan with
            openers := { opener with count := left, pieces := enclosed.reverse } :: around }
        closeRun source features mark length both fuel (start + matched) (count - matched) scan

/-- The state after one more piece. -/
def step (source : Source) (features : Features) (scan : EmphasisScan) (piece : Inline) :
    EmphasisScan :=
  match piece with
  | .run mark start length opens closes =>
    let both := opens && closes
    let (scan, count) :=
      if closes then closeRun source features mark length both (length + 1) start length scan
      else (scan, length)
    if count = 0 then scan
    else if opens then
      { scan with openers := ⟨mark, start + (length - count), length, count, both, []⟩ :: scan.openers }
    else scan.push (markText mark count)
  | piece => scan.push piece

end EmphasisScan

/-- Whether a piece is a run of emphasis marks. -/
def Inline.isRun : Inline → Bool
  | .run _ _ _ _ _ => true
  | _ => false

/-- A sequence whose last piece is no hard break: one stands for its backslash, or for a plain
break, if there are emphasis marks in the sequence. -/
def softenEnd (pieces : List Inline) : List Inline :=
  if pieces.any Inline.isRun then
    match pieces.getLast? with
    | some (.hardBreak true) => pieces.dropLast ++ [.text ['\\']]
    | some (.hardBreak false) => pieces.dropLast ++ [.softBreak]
    | _ => pieces
  else pieces

/-- A sequence of pieces with its emphasis. -/
def emphasise (source : Source) (features : Features) (pieces : List Inline) : List Inline :=
  ((softenEnd pieces).foldl (EmphasisScan.step source features) {}).finish

mutual

/-- A piece with the emphasis inside of links. -/
def Inline.resolve (source : Source) (features : Features) : Inline → Inline
  | .link isImage destination title children =>
    .link isImage destination title
      (emphasise source features (Inline.resolveAll source features children))
  | piece => piece

/-- Several pieces with the emphasis inside of links. -/
def Inline.resolveAll (source : Source) (features : Features) : List Inline → List Inline
  | [] => []
  | piece :: rest =>
    Inline.resolve source features piece :: Inline.resolveAll source features rest

end

/-- The inline markup of a source. -/
def Source.markup (source : Source) (features : Features) (references : References) :
    List Inline :=
  emphasise source features
    (Inline.resolveAll source features (source.inlines features references))

end Markup

end MarkdownPages
