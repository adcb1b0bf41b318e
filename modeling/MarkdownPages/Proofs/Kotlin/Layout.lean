import MarkdownPages.Proofs.Kotlin.Reading
import MarkdownPages.Render.Rendering

/-!
# The layout of generated code

Generated code is laid out so that each line can be read by itself: a literal ends on the line it
starts on, and so does whatever stands in parentheses or braces, except that a line may open a
block, which a line with nothing but a brace closes. What stands inside a block is indented by one
more level.

The reader of a line is stricter than the compiler. It refuses character literals, templates and
texts in three quotes, because a text that is put into the code without being escaped might start
any of them.

## Main definitions

* `Kotlin.Lexing`, `Kotlin.scan` — reading a line, with the brackets that are open
* `Kotlin.IsBalanced`, `Kotlin.IsClosed` — code that closes what it opens
* `Kotlin.lineKind?`, `Kotlin.nextDepth` — what a line does to the blocks around it
* `Kotlin.IsNested` — lines that stand inside a number of blocks and close those they open
* `Kotlin.wrapLines` — a call with a block of lines

## Main results

* `Kotlin.scan_quoted` — a quoted text is one literal, whatever the text is
* `Kotlin.IsNested.wrap` — a balanced call with a block around nested lines is nested
-/

namespace MarkdownPages

namespace Kotlin

/-! ### Reading a line -/

/-- A bracket that has to be closed. -/
inductive Bracket where
  | parenthesis
  | brace
deriving DecidableEq, Repr

/-- Where the reader of a line stands, with the brackets that are open, innermost first. -/
inductive Lexing where
  | code (opened : List Bracket)
  | literal (opened : List Bracket)
  /-- Behind a backslash inside a literal. -/
  | escaped (opened : List Bracket)
  /-- Behind the closing quote of a literal. -/
  | closed (opened : List Bracket)
deriving DecidableEq, Repr

/-- A character that means nothing to the reader of a line. -/
def isPlainChar (c : Char) : Bool := !(['"', '\'', '(', ')', '\x7b', '\x7d', '\n', '\r'].contains c)

/-- Reads a character outside literals. -/
def readCode (opened : List Bracket) (c : Char) : Option Lexing :=
  match c, opened with
  | '"', _ => some (.literal opened)
  | '(', _ => some (.code (.parenthesis :: opened))
  | '\x7b', _ => some (.code (.brace :: opened))
  | ')', .parenthesis :: outer => some (.code outer)
  | '\x7d', .brace :: outer => some (.code outer)
  | c, _ => if isPlainChar c then some (.code opened) else none

/-- Reads a character. -/
def Lexing.next : Lexing → Char → Option Lexing
  | code opened, c => readCode opened c
  | literal opened, '"' => some (closed opened)
  | literal opened, '\\' => some (escaped opened)
  | literal opened, c => if isRaw c then some (literal opened) else none
  | escaped opened, c => if (unescapeChar? c).isSome then some (literal opened) else none
  -- a third quote would start a text in three quotes
  | closed opened, c => if c = '"' then none else readCode opened c

/-- Reads some characters of a line. -/
def scan (state : Lexing) (cs : List Char) : Option Lexing := cs.foldlM Lexing.next state

@[simp] theorem scan_nil (state : Lexing) : scan state [] = some state := rfl

theorem scan_append (state : Lexing) (cs ds : List Char) :
    scan state (cs ++ ds) = (scan state cs).bind (scan · ds) :=
  List.foldlM_append

theorem scan_append_of_eq_some {state next : Lexing} {cs : List Char}
    (h : scan state cs = some next) (ds : List Char) : scan state (cs ++ ds) = scan next ds := by
  rw [scan_append, h, Option.bind_some]

theorem scan_cons_of_eq_some {state next : Lexing} {c : Char} (h : state.next c = some next)
    (cs : List Char) : scan state (c :: cs) = scan next cs := by
  rw [scan, List.foldlM_cons, h]
  rfl

/-- Plain characters leave the reader where it is. -/
theorem scan_plain {cs : List Char} (h : cs.all isPlainChar = true) (opened : List Bracket) :
    scan (.code opened) cs = some (.code opened) := by
  induction cs with
  | nil => rfl
  | cons c cs ih =>
    obtain ⟨hc, hcs⟩ : isPlainChar c = true ∧ cs.all isPlainChar = true := by simpa using h
    have hread : readCode opened c = some (.code opened) := by
      unfold readCode
      split
      case h_6 => rw [if_pos hc]
      all_goals exact absurd hc (by decide)
    rw [scan, List.foldlM_cons, Lexing.next, hread]
    exact ih hcs

theorem Lexing.next_literal_of_isRaw {c : Char} (h : isRaw c = true) (opened : List Bracket) :
    next (literal opened) c = some (literal opened) := by
  obtain ⟨hquote, hslash, -⟩ := isRaw_iff.mp h
  rw [next, if_pos h]
  · exact hquote
  · exact hslash

/-- Characters that stand for themselves do not end the literal that they stand in. -/
theorem scan_raw {cs : List Char} (h : cs.all isRaw = true) (opened : List Bracket) :
    scan (.literal opened) cs = some (.literal opened) := by
  induction cs with
  | nil => rfl
  | cons c cs ih =>
    obtain ⟨hc, hcs⟩ : isRaw c = true ∧ cs.all isRaw = true := by simpa using h
    rw [scan, List.foldlM_cons, Lexing.next_literal_of_isRaw hc]
    exact ih hcs

/-- An escaped text does not end the literal that it stands in. -/
theorem scan_escape (opened : List Bracket) (s : List Char) :
    scan (.literal opened) (escape s) = some (.literal opened) := by
  induction s with
  | nil => rfl
  | cons c s ih =>
    have hc : scan (.literal opened) (escapeChar c) = some (.literal opened) := by
      rcases escapeChar_cases c with ⟨d, hd, hc⟩ | ⟨hd, hc⟩
      · rw [hd]
        simp [scan, Lexing.next, hc]
      · rw [hd]
        exact scan_raw (by simpa using hc) opened
    rw [escape_cons, scan_append_of_eq_some hc, ih]

/-- **No injection.** A quoted text is one literal, whatever the text is. -/
theorem scan_quoted (opened : List Bracket) (s : String) :
    scan (.code opened) (quoted s).toList = some (.closed opened) := by
  have hopen : scan (.code opened) ['"'] = some (.literal opened) := rfl
  have hclose : scan (.literal opened) ['"'] = some (.closed opened) := rfl
  have hbody : (escaped s).toList = escape s.toList := String.toList_ofList
  rw [quoted, String.toList_append, String.toList_append, hbody, List.append_assoc]
  exact (scan_append_of_eq_some hopen _).trans
    ((scan_append_of_eq_some (scan_escape opened s.toList) _).trans hclose)

/-- Whether a line of code can hold the text as it is. -/
def isPlain (s : String) : Bool := s.toList.all isPlainChar

/-- Code that closes what it opens. -/
def IsBalanced (cs : List Char) : Prop :=
  ∀ opened, scan (.code opened) cs = some (.code opened)

theorem IsBalanced.nil : IsBalanced [] := fun _ => rfl

theorem IsBalanced.append {cs ds : List Char} (hcs : IsBalanced cs) (hds : IsBalanced ds) :
    IsBalanced (cs ++ ds) := fun opened => by
  rw [scan_append_of_eq_some (hcs opened), hds opened]

theorem IsBalanced.of_plain {cs : List Char} (h : cs.all isPlainChar = true) : IsBalanced cs :=
  scan_plain h

/-- Code that closes what it opens, and may end with a literal. -/
def IsClosed (cs : List Char) : Prop :=
  ∀ opened, scan (.code opened) cs = some (.code opened) ∨
    scan (.code opened) cs = some (.closed opened)

theorem IsBalanced.isClosed {cs : List Char} (h : IsBalanced cs) : IsClosed cs :=
  fun opened => .inl (h opened)

theorem isClosed_quoted (s : String) : IsClosed (quoted s).toList :=
  fun opened => .inr (scan_quoted opened s)

/-- Closed code between two pieces of code that close around it. -/
theorem IsClosed.around {before middle after : List Char} (hmiddle : IsClosed middle)
    (h : ∀ opened, ∃ inner, scan (.code opened) before = some (.code inner) ∧
      scan (.code inner) after = some (.code opened) ∧
      scan (.closed inner) after = some (.code opened)) :
    IsBalanced (before ++ middle ++ after) := fun opened => by
  obtain ⟨inner, hbefore, hcode, hclosed⟩ := h opened
  rw [List.append_assoc, scan_append_of_eq_some hbefore]
  rcases hmiddle inner with hmiddle | hmiddle
  · rw [scan_append_of_eq_some hmiddle, hcode]
  · rw [scan_append_of_eq_some hmiddle, hclosed]

/-- The reader of a line meets no line break. -/
theorem newline_notMem_of_scan {state next : Lexing} {cs : List Char}
    (h : scan state cs = some next) : '\n' ∉ cs := by
  induction cs generalizing state with
  | nil => exact List.not_mem_nil
  | cons c cs ih =>
    rw [scan, List.foldlM_cons, Option.bind_eq_bind, Option.bind_eq_some_iff] at h
    obtain ⟨middle, hc, hcs⟩ := h
    rw [List.mem_cons, not_or]
    refine ⟨?_, ih hcs⟩
    rintro rfl
    have hread : ∀ opened, readCode opened '\n' = none := fun _ => rfl
    cases state with
    | code opened => simp [Lexing.next, hread] at hc
    | literal opened => simp [Lexing.next, isRaw] at hc
    | escaped opened => simp [Lexing.next, unescapeChar?] at hc
    | closed opened => simp [Lexing.next, hread] at hc

/-! ### Lines and blocks -/

/-- What a line does to the blocks around it. -/
inductive LineKind where
  | plain
  /-- The line opens a block. -/
  | opening
  /-- The line closes the innermost open block. -/
  | closing
deriving DecidableEq, Repr

/-- What a line does to the blocks around it: nothing if it closes what it opens, and else it must
end in the brace of a block or be such a brace. -/
def lineKind? (line : List Char) : Option LineKind :=
  match scan (.code []) line with
  | some (.code []) => some .plain
  | some (.code [.brace]) => if [' ', '\x7b'].isSuffixOf line then some .opening else none
  | _ => if line.dropWhile (· == ' ') = ['\x7d'] then some .closing else none

/-- Whether a line starts with the indentation of a level. -/
def isIndented (depth : Nat) (line : List Char) : Bool :=
  (indentation depth).toList.isPrefixOf line

/-- The number of open blocks after a line that stands inside `depth` blocks. The line must be
indented by a level for each block around it. -/
def nextDepth (depth : Nat) (line : List Char) : Option Nat :=
  match lineKind? line, depth with
  | some .plain, depth => if isIndented depth line then some depth else none
  | some .opening, depth => if isIndented depth line then some (depth + 1) else none
  | some .closing, depth + 1 => if isIndented depth line then some depth else none
  | _, _ => none

/-- The number of open blocks after some lines. -/
def depthAfter (depth : Nat) (ls : List String) : Option Nat :=
  ls.foldlM (fun depth line => nextDepth depth line.toList) depth

/-- Lines that stand inside `depth` blocks and close the blocks that they open. -/
def IsNested (depth : Nat) (ls : List String) : Prop := depthAfter depth ls = some depth

theorem depthAfter_append (depth : Nat) (ls ms : List String) :
    depthAfter depth (ls ++ ms) = (depthAfter depth ls).bind (depthAfter · ms) :=
  List.foldlM_append

theorem depthAfter_cons (depth : Nat) (l : String) (ls : List String) :
    depthAfter depth (l :: ls) = (nextDepth depth l.toList).bind (depthAfter · ls) :=
  List.foldlM_cons

theorem eq_space_of_mem_indentation {depth : Nat} {c : Char} (h : c ∈ (indentation depth).toList) :
    c = ' ' := by
  rw [indentation, String.toList_join, List.mem_flatMap] at h
  obtain ⟨unit, hunit, hc⟩ := h
  have hspaces : indentUnit.toList = List.replicate 4 ' ' := rfl
  rw [(List.mem_replicate.mp hunit).2, hspaces] at hc
  exact List.eq_of_mem_replicate hc

theorem indentation_plain (depth : Nat) : (indentation depth).toList.all isPlainChar = true := by
  rw [List.all_eq_true]
  intro c hc
  rw [eq_space_of_mem_indentation hc]
  rfl

theorem dropWhile_indentation {c : Char} (h : c ≠ ' ') (depth : Nat) (text : List Char) :
    ((indentation depth).toList ++ c :: text).dropWhile (· == ' ') = c :: text := by
  rw [List.dropWhile_append_of_pos fun d hd => by simp [eq_space_of_mem_indentation hd]]
  exact List.dropWhile_cons_of_neg (by simpa using h)

theorem isIndented_indentation (depth : Nat) (text : List Char) :
    isIndented depth ((indentation depth).toList ++ text) = true :=
  List.isPrefixOf_iff_prefix.mpr (List.prefix_append _ _)

theorem nextDepth_plain {text : List Char} (h : IsBalanced text) (depth : Nat) :
    nextDepth depth ((indentation depth).toList ++ text) = some depth := by
  have hkind : lineKind? ((indentation depth).toList ++ text) = some .plain := by
    rw [lineKind?, (IsBalanced.of_plain (indentation_plain depth)).append h []]
  unfold nextDepth
  rw [hkind]
  exact if_pos (isIndented_indentation depth text)

theorem nextDepth_opening {call : List Char} (h : IsBalanced call) (depth : Nat) :
    nextDepth depth ((indentation depth).toList ++ (call ++ [' ', '\x7b'])) = some (depth + 1) := by
  have hscan : scan (.code []) ((indentation depth).toList ++ (call ++ [' ', '\x7b'])) =
      some (.code [.brace]) := by
    rw [scan_append_of_eq_some (scan_plain (indentation_plain depth) []),
      scan_append_of_eq_some (h [])]
    rfl
  have hend : [' ', '\x7b'].isSuffixOf ((indentation depth).toList ++ (call ++ [' ', '\x7b'])) :=
    List.isSuffixOf_iff_suffix.mpr
      ((List.suffix_append call _).trans (List.suffix_append _ _))
  have hkind : lineKind? ((indentation depth).toList ++ (call ++ [' ', '\x7b'])) =
      some .opening := by
    rw [lineKind?, hscan]
    exact if_pos hend
  unfold nextDepth
  rw [hkind]
  exact if_pos (isIndented_indentation depth _)

theorem nextDepth_closing (depth : Nat) :
    nextDepth (depth + 1) ((indentation depth).toList ++ ['\x7d']) = some depth := by
  have hscan : scan (.code []) ((indentation depth).toList ++ ['\x7d']) = none := by
    rw [scan_append_of_eq_some (scan_plain (indentation_plain depth) [])]
    rfl
  have hkind : lineKind? ((indentation depth).toList ++ ['\x7d']) = some .closing := by
    rw [lineKind?, hscan]
    exact if_pos (dropWhile_indentation (by decide) depth [])
  unfold nextDepth
  rw [hkind]
  exact if_pos (isIndented_indentation depth _)

theorem IsNested.nil (depth : Nat) : IsNested depth [] := rfl

theorem IsNested.append {depth : Nat} {ls ms : List String} (hls : IsNested depth ls)
    (hms : IsNested depth ms) : IsNested depth (ls ++ ms) := by
  rw [IsNested, depthAfter_append, hls]
  exact hms

/-- A balanced line is nested. -/
theorem IsNested.line {text : String} (h : IsBalanced text.toList) (depth : Nat) :
    IsNested depth [indentation depth ++ text] := by
  rw [IsNested, depthAfter_cons, String.toList_append, nextDepth_plain h]
  rfl

/-- A line that is accepted holds no line break. -/
theorem newline_notMem_of_lineKind? {line : List Char} {kind : LineKind}
    (h : lineKind? line = some kind) : '\n' ∉ line := by
  cases hscan : scan (.code []) line with
  | some state => exact newline_notMem_of_scan hscan
  | none =>
    rw [lineKind?, hscan] at h
    by_cases hbrace : line.dropWhile (· == ' ') = ['\x7d']
    · rw [← List.takeWhile_append_dropWhile (p := (· == ' ')) (l := line), hbrace]
      intro hmem
      rcases List.mem_append.mp hmem with hspace | hmem
      · exact absurd (List.all_eq_true.mp List.all_takeWhile _ hspace) (by decide)
      · exact absurd hmem (by decide)
    · simp [hbrace] at h

theorem newline_notMem_of_depthAfter {depth last : Nat} {ls : List String}
    (h : depthAfter depth ls = some last) : ∀ l ∈ ls, '\n' ∉ l.toList := by
  induction ls generalizing depth with
  | nil => simp
  | cons l ls ih =>
    rw [depthAfter_cons, Option.bind_eq_some_iff] at h
    obtain ⟨next, hl, hls⟩ := h
    intro m hm
    rcases List.mem_cons.mp hm with rfl | hm
    · cases hkind : lineKind? m.toList with
      | some kind => exact newline_notMem_of_lineKind? hkind
      | none => simp [nextDepth, hkind] at hl
    · exact ih hls m hm

/-- The lines of a call with a block; an empty block stays on one line. -/
def wrapLines (depth : Nat) (call : String) : List String → List String
  | [] => [indentation depth ++ (call ++ " \x7b\x7d")]
  | body => (indentation depth ++ (call ++ " \x7b")) :: body ++ [indentation depth ++ "\x7d"]

theorem wrapLines_cons (depth : Nat) (call first : String) (rest : List String) :
    wrapLines depth call (first :: rest) =
      (indentation depth ++ (call ++ " \x7b")) ::
        ((first :: rest) ++ [indentation depth ++ "\x7d"]) :=
  rfl

/-- **Blocks nest.** A balanced call with a block around nested lines is nested. -/
theorem IsNested.wrap {depth : Nat} {call : String} {body : List String}
    (hcall : IsBalanced call.toList) (hbody : IsNested (depth + 1) body) :
    IsNested depth (wrapLines depth call body) := by
  cases body with
  | nil =>
    refine IsNested.line ?_ depth
    rw [String.toList_append]
    exact hcall.append fun _ => rfl
  | cons first rest =>
    have hopen := nextDepth_opening hcall depth
    have hclose := nextDepth_closing depth
    rw [IsNested, wrapLines_cons, depthAfter_cons, String.toList_append, String.toList_append]
    change (nextDepth depth (_ ++ (_ ++ [' ', '\x7b']))).bind _ = _
    rw [hopen, Option.bind_some, depthAfter_append, hbody, Option.bind_some, depthAfter_cons,
      String.toList_append]
    change (nextDepth (depth + 1) (_ ++ ['\x7d'])).bind _ = _
    rw [hclose]
    rfl

example : depthAfter 0 ["P \x7b", "    Text(\"(\")", "\x7d"] = some 0 := by decide

end Kotlin

end MarkdownPages
