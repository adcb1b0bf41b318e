import MarkdownPages.Proofs.Render.Call
import MarkdownPages.Proofs.Text.Lines

/-!
# Statements of a page

The body of a page is a sequence of statements: calls that show a text, calls on a line of their
own, and calls with a block of further statements. What is asked of the code of a page (that its
brackets close, which elements it calls, which texts it shows) is a property of its statements,
and the lines of code are read back only here.

## Main definitions

* `Statement`, `Statement.lines` — a statement and its lines
* `Statement.names`, `Statement.texts` — the elements called and the texts shown, in order
* `Kotlin.headOf`, `Kotlin.shownText?` — the same, read off a line of code

## Main results

* `Statement.isNested_linesAll` — the lines of statements nest
* `Statement.heads_linesAll`, `Statement.shownTexts_linesAll` — what is read off the lines of
  statements is what the statements hold
-/

namespace MarkdownPages

/-- A statement of the body of a page. -/
inductive Statement where
  /-- Shows a text. -/
  | text (literal : String)
  /-- A call on a line of its own. -/
  | line (call : Call)
  /-- A call with a block. -/
  | block (call : Call) (body : List Statement)

/-- The code of the call that shows a text. -/
def textCode (literal : String) : String := "Text(" ++ Kotlin.quoted literal ++ ")"

namespace Statement

mutual

/-- The lines of a statement. -/
def lines (depth : Nat) : Statement → List String
  | text literal => [indentation depth ++ textCode literal]
  | line call => [indentation depth ++ call.code]
  | block call body => Kotlin.wrapLines depth call.code (linesAll (depth + 1) body)

/-- The lines of several statements. -/
def linesAll (depth : Nat) : List Statement → List String
  | [] => []
  | s :: rest => lines depth s ++ linesAll depth rest

end

mutual

/-- The names of the elements that a statement calls. -/
def names : Statement → List String
  | text _ => ["Text"]
  | line call => [call.name]
  | block call body => call.name :: namesAll body

/-- The names of the elements that several statements call. -/
def namesAll : List Statement → List String
  | [] => []
  | s :: rest => names s ++ namesAll rest

end

mutual

/-- The texts that a statement shows. -/
def texts : Statement → List String
  | text literal => [literal]
  | line _ => []
  | block _ body => textsAll body

/-- The texts that several statements show. -/
def textsAll : List Statement → List String
  | [] => []
  | s :: rest => texts s ++ textsAll rest

end

@[simp] theorem linesAll_append (depth : Nat) (ss ts : List Statement) :
    linesAll depth (ss ++ ts) = linesAll depth ss ++ linesAll depth ts := by
  induction ss with
  | nil => rfl
  | cons s ss ih => simp [linesAll, ih]

@[simp] theorem namesAll_append (ss ts : List Statement) :
    namesAll (ss ++ ts) = namesAll ss ++ namesAll ts := by
  induction ss with
  | nil => rfl
  | cons s ss ih => simp [namesAll, ih]

@[simp] theorem textsAll_append (ss ts : List Statement) :
    textsAll (ss ++ ts) = textsAll ss ++ textsAll ts := by
  induction ss with
  | nil => rfl
  | cons s ss ih => simp [textsAll, ih]

end Statement

/-! ### Reading the name at the start of a line -/

namespace Kotlin

/-- The name that a line starts with, which is that of the element it calls. -/
def headOf (line : List Char) : List Char :=
  (line.dropWhile (· == ' ')).takeWhile isIdentifierPart

/-- The elements that lines of code call, one for each line that starts with a name. -/
def heads (lines : List (List Char)) : List String :=
  ((lines.map headOf).filter (!·.isEmpty)).map String.ofList

/-- The text that a line shows, if it is a call that shows a text. -/
def shownText? (line : List Char) : Option String :=
  match Text.dropStart? "Text(\"".toList (line.dropWhile (· == ' ')) with
  | none => none
  | some rest =>
    match readLiteral rest with
    | some (text, [')']) => some (String.ofList text)
    | _ => none

/-- The texts that lines of code show. -/
def shownTexts (lines : List (List Char)) : List String := lines.filterMap shownText?

/-- The name at the start of a line ends where something else than a name goes on. -/
theorem headOf_indentation_append {name rest : List Char} (h : isIdentifier name = true)
    (hrest : ∀ c ∈ rest.head?, isIdentifierPart c = false) (depth : Nat) :
    headOf ((indentation depth).toList ++ (name ++ rest)) = name := by
  cases name with
  | nil => simp [isIdentifier] at h
  | cons c name =>
    have hall := all_isIdentifierPart h
    have hc : c ≠ ' ' := by
      rintro rfl
      exact absurd (hall ' ' (List.mem_cons_self ..)) (by decide)
    rw [headOf, List.cons_append, dropWhile_indentation hc, ← List.cons_append,
      List.takeWhile_append_of_pos hall]
    cases rest with
    | nil => simp
    | cons d rest =>
      have hd : isIdentifierPart d = false := hrest d rfl
      rw [List.takeWhile_cons_of_neg (by simp [hd]), List.append_nil]

theorem headOf_closing (depth : Nat) : headOf ((indentation depth).toList ++ ['\x7d']) = [] := by
  rw [headOf, dropWhile_indentation (by decide)]
  rfl

@[simp] theorem heads_nil : heads [] = [] := rfl

@[simp] theorem heads_append (ls ms : List (List Char)) :
    heads (ls ++ ms) = heads ls ++ heads ms := by
  simp [heads]

theorem heads_singleton {line : List Char} {name : String} (h : headOf line = name.toList)
    (hname : isIdentifier name.toList = true) : heads [line] = [name] := by
  have hne : name.toList ≠ [] := fun hnil => by simp [hnil, isIdentifier] at hname
  simp [heads, h, hne]

theorem heads_closing (depth : Nat) : heads [(indentation depth).toList ++ ['\x7d']] = [] := by
  simp [heads, headOf_closing]

/-- Only a line that starts with the name of the call shows a text. -/
theorem headOf_of_shownText? {line : List Char} {text : String}
    (h : shownText? line = some text) : headOf line = "Text".toList := by
  unfold shownText? at h
  split at h
  · exact absurd h (by simp)
  case h_2 rest hrest =>
    rw [Text.dropStart?] at hrest
    split at hrest
    case isFalse => exact absurd hrest (by simp)
    case isTrue hstart =>
      obtain ⟨after, hafter⟩ := List.isPrefixOf_iff_prefix.mp hstart
      rw [headOf, ← hafter]
      rfl

theorem shownText?_closing (depth : Nat) :
    shownText? ((indentation depth).toList ++ ['\x7d']) = none := by
  rw [shownText?, dropWhile_indentation (by decide)]
  rfl

/-- **Decoding.** The line that shows a text is read as that text. -/
theorem shownText?_textCode (depth : Nat) (literal : String) :
    shownText? ((indentation depth).toList ++ (textCode literal).toList) = some literal := by
  have hcode : (textCode literal).toList =
      'T' :: ("ext(\"".toList ++ (escape literal.toList ++ '"' :: [')'])) := by
    simp [textCode, quoted, escaped]
  rw [shownText?, hcode, dropWhile_indentation (by decide)]
  have hdrop : Text.dropStart? "Text(\"".toList
      ('T' :: ("ext(\"".toList ++ (escape literal.toList ++ '"' :: [')']))) =
        some (escape literal.toList ++ '"' :: [')']) := by
    rfl
  rw [hdrop]
  simp [readLiteral_escape]

end Kotlin

/-! ### The lines of calls -/

theorem isBalanced_textCode (literal : String) : Kotlin.IsBalanced (textCode literal).toList := by
  rw [textCode, String.toList_append, String.toList_append]
  exact (Kotlin.isClosed_quoted literal).around fun opened =>
    ⟨.parenthesis :: opened, rfl, rfl, rfl⟩

namespace Call

variable (c : Call) (rest : List Char) (hrest : ∀ d ∈ rest.head?, Kotlin.isIdentifierPart d = false)
  (depth : Nat)

include hrest

/-- A line that starts with a call starts with the name of its element. -/
theorem headOf_code_append :
    Kotlin.headOf ((indentation depth).toList ++ (c.code.toList ++ rest)) = c.name.toList := by
  obtain ⟨arguments, hcode, harguments⟩ := c.code_toList
  rw [hcode, List.append_assoc]
  refine Kotlin.headOf_indentation_append c.isElementName.identifier ?_ depth
  cases arguments with
  | nil => exact hrest
  | cons d arguments => exact harguments

theorem shownText?_code_append :
    Kotlin.shownText? ((indentation depth).toList ++ (c.code.toList ++ rest)) = none := by
  cases h : Kotlin.shownText? ((indentation depth).toList ++ (c.code.toList ++ rest)) with
  | none => rfl
  | some text =>
    have hhead := Kotlin.headOf_of_shownText? h
    rw [c.headOf_code_append rest hrest] at hhead
    exact absurd (String.toList_injective hhead) c.isElementName.ne_text

theorem heads_code_append :
    Kotlin.heads [(indentation depth).toList ++ (c.code.toList ++ rest)] = [c.name] :=
  Kotlin.heads_singleton (c.headOf_code_append rest hrest depth) c.isElementName.identifier

end Call

/-! ### The lines of statements -/

namespace Statement

mutual

theorem isNested_lines (depth : Nat) : ∀ s : Statement, Kotlin.IsNested depth (lines depth s)
  | text literal => .line (isBalanced_textCode literal) depth
  | line call => .line call.isBalanced_code depth
  | block call body => .wrap call.isBalanced_code (isNested_linesAll (depth + 1) body)

/-- **Well-formedness.** Statements close the blocks that they open. -/
theorem isNested_linesAll (depth : Nat) :
    ∀ ss : List Statement, Kotlin.IsNested depth (linesAll depth ss)
  | [] => .nil depth
  | s :: rest => (isNested_lines depth s).append (isNested_linesAll depth rest)

end

/-- The code of statements is read as the lines that were written. -/
theorem lines_unlines_linesAll (depth : Nat) (ss : List Statement) :
    Text.lines (Text.unlines (linesAll depth ss)).toList = (linesAll depth ss).map String.toList :=
  Text.lines_unlines (Kotlin.newline_notMem_of_depthAfter (isNested_linesAll depth ss))

/-- What a line may go on with after the code of a call: nothing, a block, or an empty block. -/
private theorem head?_block {d : Char} {rest : List Char} (h : d ∈ (' ' :: rest).head?) :
    Kotlin.isIdentifierPart d = false := by
  obtain rfl : ' ' = d := Option.some.inj h
  rfl

theorem heads_wrapLines (depth : Nat) (call : Call) (body : List String) :
    Kotlin.heads ((Kotlin.wrapLines depth call.code body).map String.toList) =
      call.name :: Kotlin.heads (body.map String.toList) := by
  cases body with
  | nil =>
    have h := call.heads_code_append [' ', '\x7b', '\x7d'] (fun _ => head?_block) depth
    simpa [Kotlin.wrapLines] using h
  | cons first rest =>
    have hopen := call.heads_code_append [' ', '\x7b'] (fun _ => head?_block) depth
    have hclose := Kotlin.heads_closing depth
    rw [Kotlin.wrapLines_cons, List.map_cons, ← List.singleton_append, Kotlin.heads_append,
      List.map_append, Kotlin.heads_append]
    simp only [String.toList_append, List.map_cons, List.map_nil]
    change Kotlin.heads [_ ++ (_ ++ [' ', '\x7b'])] ++ (_ ++ Kotlin.heads [_ ++ ['\x7d']]) = _
    rw [hopen, hclose, List.append_nil, List.singleton_append]

theorem shownTexts_wrapLines (depth : Nat) (call : Call) (body : List String) :
    Kotlin.shownTexts ((Kotlin.wrapLines depth call.code body).map String.toList) =
      Kotlin.shownTexts (body.map String.toList) := by
  cases body with
  | nil =>
    have h := call.shownText?_code_append [' ', '\x7b', '\x7d'] (fun _ => head?_block) depth
    simpa [Kotlin.wrapLines, Kotlin.shownTexts] using h
  | cons first rest =>
    have hopen := call.shownText?_code_append [' ', '\x7b'] (fun _ => head?_block) depth
    have hclose := Kotlin.shownText?_closing depth
    rw [Kotlin.wrapLines_cons, List.map_cons, List.map_append, Kotlin.shownTexts]
    simp only [String.toList_append, List.map_cons, List.map_nil]
    change List.filterMap _ ((_ ++ (_ ++ [' ', '\x7b'])) :: (_ ++ [_ ++ ['\x7d']])) = _
    rw [List.filterMap_cons_none hopen, List.filterMap_append, List.filterMap_cons_none hclose,
      List.filterMap_nil, List.append_nil, Kotlin.shownTexts]

mutual

theorem heads_lines (depth : Nat) :
    ∀ s : Statement, Kotlin.heads ((lines depth s).map String.toList) = names s
  | text literal => by
    rw [lines, List.map_singleton, String.toList_append, names]
    exact Kotlin.heads_singleton
      (Kotlin.headOf_of_shownText? (Kotlin.shownText?_textCode depth literal)) rfl
  | line call => by
    have h := call.heads_code_append [] (by simp) depth
    rw [List.append_nil] at h
    rw [lines, List.map_singleton, String.toList_append, names, h]
  | block call body => by
    rw [lines, heads_wrapLines, heads_linesAll, names]

/-- **Names.** The lines of statements start with the names of the elements that are called. -/
theorem heads_linesAll (depth : Nat) :
    ∀ ss : List Statement, Kotlin.heads ((linesAll depth ss).map String.toList) = namesAll ss
  | [] => rfl
  | s :: rest => by
    rw [linesAll, List.map_append, Kotlin.heads_append, heads_lines, heads_linesAll, namesAll]

end

mutual

theorem shownTexts_lines (depth : Nat) :
    ∀ s : Statement, Kotlin.shownTexts ((lines depth s).map String.toList) = texts s
  | text literal => by
    have h := Kotlin.shownText?_textCode depth literal
    rw [lines, List.map_singleton, String.toList_append, texts, Kotlin.shownTexts,
      List.filterMap_cons_some h, List.filterMap_nil]
  | line call => by
    have h := call.shownText?_code_append [] (by simp) depth
    rw [List.append_nil] at h
    rw [lines, List.map_singleton, String.toList_append, texts, Kotlin.shownTexts,
      List.filterMap_cons_none h, List.filterMap_nil]
  | block call body => by
    rw [lines, shownTexts_wrapLines, shownTexts_linesAll, texts]

/-- **Texts.** The lines of statements show the texts that the statements hold. -/
theorem shownTexts_linesAll (depth : Nat) :
    ∀ ss : List Statement, Kotlin.shownTexts ((linesAll depth ss).map String.toList) = textsAll ss
  | [] => rfl
  | s :: rest => by
    rw [linesAll, List.map_append, Kotlin.shownTexts, List.filterMap_append,
      ← Kotlin.shownTexts, ← Kotlin.shownTexts, shownTexts_lines, shownTexts_linesAll, textsAll]

end

end Statement

end MarkdownPages
