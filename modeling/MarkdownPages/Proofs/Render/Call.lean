import MarkdownPages.Proofs.Kotlin.Grammar
import MarkdownPages.Proofs.Kotlin.Layout
import MarkdownPages.Render.Elements

/-!
# Calls of elements

Every line of the body of a page is a call of an element, or closes the block of one. A call is a
name, and perhaps arguments in parentheses. The name is an identifier and the arguments close what
they open, so that no call can be built whose line would not read as one call.

## Main definitions

* `Call`, `Call.code` — an element with its arguments, and its code
* `Call.bare`, `Call.withAttributes`, `Call.heading`, … — the calls of a page

## Main results

* `Call.isBalanced_code` — the code of a call closes what it opens
* `Call.withAttributes_code`, `Call.anchor_code`, … — the code of the calls of a page
-/

namespace MarkdownPages

/-! ### Names -/

namespace Kotlin

theorem isPlainChar_of_isIdentifierPart {c : Char} (h : isIdentifierPart c = true) :
    isPlainChar c = true := by
  rw [isPlainChar, Bool.not_eq_true', ← Bool.not_eq_true, List.contains_iff_mem]
  intro hc
  simp only [List.mem_cons, List.not_mem_nil, or_false] at hc
  rcases hc with rfl | rfl | rfl | rfl | rfl | rfl | rfl | rfl <;> exact absurd h (by decide)

theorem isBalanced_of_isIdentifier {name : List Char} (h : isIdentifier name = true) :
    IsBalanced name :=
  .of_plain (List.all_eq_true.mpr fun c hc =>
    isPlainChar_of_isIdentifierPart (all_isIdentifierPart h c hc))

theorem isDigit_of_mem_toString {n : Nat} {c : Char} (h : c ∈ (toString n).toList) :
    c.isDigit = true :=
  Nat.isDigit_of_mem_toDigits (b := 10) (n := n) (by decide) (by decide) (by simpa using h)

theorem isIdentifierPart_of_isDigit {c : Char} (h : c.isDigit = true) :
    isIdentifierPart c = true := by
  have hdigit : Text.isAsciiDigit c = true := by
    simpa [Char.isDigit, Text.isAsciiDigit, Char.le_def] using h
  rw [isIdentifierPart, Text.isAsciiAlphanumeric, hdigit, Bool.or_true, Bool.true_or]

/-- A number stands for itself inside a literal. -/
theorem all_isRaw_toString (n : Nat) : (toString n).toList.all isRaw = true := by
  rw [List.all_eq_true]
  intro c hc
  have hdigit := isDigit_of_mem_toString hc
  rw [isRaw, Bool.not_eq_true', ← Bool.not_eq_true, List.contains_iff_mem]
  intro hmem
  simp only [List.mem_cons, List.not_mem_nil, or_false] at hmem
  rcases hmem with rfl | rfl | rfl | rfl | rfl <;> exact absurd hdigit (by decide)

end Kotlin

/-- A name of an element. The call that shows a text is kept apart from all others. -/
structure IsElementName (name : String) : Prop where
  identifier : Kotlin.isIdentifier name.toList = true
  ne_text : name ≠ "Text"

instance (name : String) : Decidable (IsElementName name) :=
  decidable_of_iff (Kotlin.isIdentifier name.toList = true ∧ name ≠ "Text")
    ⟨fun h => ⟨h.1, h.2⟩, fun h => ⟨h.1, h.2⟩⟩

theorem heading_ne {name : String} (h : name.toList.head? ≠ some 'H') (level : Nat) :
    "H" ++ toString level ≠ name := by
  rintro rfl
  rw [String.toList_append] at h
  exact h rfl

theorem isElementName_heading (level : Nat) : IsElementName ("H" ++ toString level) := by
  refine ⟨?_, heading_ne (by decide) level⟩
  have hdigits : ∀ c ∈ (toString level).toList, Kotlin.isIdentifierPart c = true :=
    fun c hc => Kotlin.isIdentifierPart_of_isDigit (Kotlin.isDigit_of_mem_toString hc)
  rw [String.toList_append]
  exact Bool.and_eq_true_iff.mpr ⟨rfl, List.all_eq_true.mpr hdigits⟩

/-! ### Calls -/

/-- A call of an element. -/
structure Call where
  name : String
  /-- What stands in parentheses behind the name, if there are any. -/
  arguments : Option String := none
  isElementName : IsElementName name
  isClosed : ∀ inner ∈ arguments, Kotlin.IsClosed inner.toList

namespace Call

/-- The code of a call. -/
def code (c : Call) : String :=
  match c.arguments with
  | none => c.name
  | some inner => c.name ++ ("(" ++ inner ++ ")")

/-- Closed code in parentheses is balanced. -/
theorem isBalanced_parentheses {inner : String} (h : Kotlin.IsClosed inner.toList) :
    Kotlin.IsBalanced ("(" ++ inner ++ ")").toList := by
  rw [String.toList_append, String.toList_append]
  exact h.around fun opened => ⟨.parenthesis :: opened, rfl, rfl, rfl⟩

theorem isBalanced_code (c : Call) : Kotlin.IsBalanced c.code.toList := by
  obtain ⟨name, arguments, hname, hclosed⟩ := c
  have hbalanced := Kotlin.isBalanced_of_isIdentifier hname.identifier
  cases arguments with
  | none => exact hbalanced
  | some inner =>
    rw [code, String.toList_append]
    exact hbalanced.append (isBalanced_parentheses (hclosed inner rfl))

/-- The name of a call ends where its code goes on. -/
theorem code_toList (c : Call) : ∃ rest, c.code.toList = c.name.toList ++ rest ∧
    ∀ d ∈ rest.head?, Kotlin.isIdentifierPart d = false := by
  obtain ⟨name, arguments, hname, hclosed⟩ := c
  cases arguments with
  | none => exact ⟨[], by simp [code], by simp⟩
  | some inner =>
    refine ⟨("(" ++ inner ++ ")").toList, by rw [code, String.toList_append], ?_⟩
    rw [String.toList_append, String.toList_append]
    intro d hd
    obtain rfl : '(' = d := Option.some.inj hd
    rfl

/-! ### The calls of a page -/

/-- An element without arguments. -/
def bare (name : String) (h : IsElementName name := by decide) : Call where
  name := name
  isElementName := h
  isClosed := by simp

/-- An element with arguments. -/
def withArguments (name inner : String) (hinner : Kotlin.IsClosed inner.toList)
    (h : IsElementName name := by decide) : Call where
  name := name
  arguments := some inner
  isElementName := h
  isClosed := by simpa using hinner

theorem isBalanced_attributes {attributes : String} (h : Kotlin.IsClosed attributes.toList) :
    Kotlin.IsBalanced ("attrs = \x7b " ++ attributes ++ " \x7d").toList := by
  rw [String.toList_append, String.toList_append]
  exact h.around fun opened => ⟨.brace :: opened, rfl, rfl, rfl⟩

/-- An element with an attribute block. -/
def withAttributes (name attributes : String) (hattributes : Kotlin.IsClosed attributes.toList)
    (h : IsElementName name := by decide) : Call :=
  withArguments name ("attrs = \x7b " ++ attributes ++ " \x7d")
    (isBalanced_attributes hattributes).isClosed h

theorem isBalanced_callOn {name : String} (h : Kotlin.isPlain name = true) (argument : String) :
    Kotlin.IsBalanced (Elements.callOn name argument).toList := by
  have hargument := isBalanced_parentheses (Kotlin.isClosed_quoted argument)
  rw [Elements.callOn, String.append_assoc, String.append_assoc, String.toList_append,
    ← String.append_assoc]
  exact (Kotlin.IsBalanced.of_plain h).append hargument

/-- A heading, with its id unless that is empty. -/
def heading (level : Nat) (id : String) : Call :=
  if id.isEmpty then bare ("H" ++ toString level) (isElementName_heading level)
  else withAttributes ("H" ++ toString level) (Elements.callOn "id" id)
    (isBalanced_callOn rfl id).isClosed (isElementName_heading level)

/-- The element of a code block, which names its language. -/
def codeBlock : Option String → Call
  | some language =>
    withAttributes "Code" (Elements.callOn "classes" ("language-" ++ language))
      (isBalanced_callOn rfl _).isClosed
  | none => bare "Code"

theorem isBalanced_innerHtml (html : String) :
    Kotlin.IsBalanced ("ref \x7b it.innerHTML = " ++ Kotlin.quoted html ++
      "; onDispose \x7b\x7d \x7d").toList := by
  rw [String.toList_append, String.toList_append]
  exact (Kotlin.isClosed_quoted html).around fun opened => ⟨.brace :: opened, rfl, rfl, rfl⟩

/-- A container that shows raw HTML. -/
def rawHtml (container html : String) (h : IsElementName container := by decide) : Call :=
  withAttributes container ("ref \x7b it.innerHTML = " ++ Kotlin.quoted html ++
    "; onDispose \x7b\x7d \x7d") (isBalanced_innerHtml html).isClosed h

theorem isBalanced_start (start : Nat) :
    Kotlin.IsBalanced ("attr(\"start\", \"" ++ toString start ++ "\")").toList := fun opened => by
  have hbefore : Kotlin.scan (.code opened) "attr(\"start\", \"".toList =
      some (.literal (.parenthesis :: opened)) := rfl
  rw [String.toList_append, String.toList_append, List.append_assoc,
    Kotlin.scan_append_of_eq_some hbefore,
    Kotlin.scan_append_of_eq_some (Kotlin.scan_raw (Kotlin.all_isRaw_toString start) _)]
  rfl

/-- A list, with the number that it starts with unless that is one. -/
def list : Option Nat → Call
  | none => bare "Ul"
  | some 1 => bare "Ol"
  | some start =>
    withAttributes "Ol" ("attr(\"start\", \"" ++ toString start ++ "\")")
      (isBalanced_start start).isClosed

/-- A check box that cannot be changed. -/
def checkBox : Bool → Call
  | true =>
    withArguments "CheckboxInput" "checked = true, attrs = \x7b disabled() \x7d" fun _ => .inl rfl
  | false =>
    withArguments "CheckboxInput" "checked = false, attrs = \x7b disabled() \x7d" fun _ => .inl rfl

/-- An element without contents. -/
def childless (name : String) (h : IsElementName name := by decide) : Call :=
  withArguments name "" (fun _ => .inl rfl) h

/-- A link to the page of another document. -/
def route (target : String) : Call :=
  withArguments "Link" (Kotlin.quoted target) (Kotlin.isClosed_quoted target)

/-- The title of a link or an image, unless it is empty. -/
def titleCode (title : String) : String :=
  if title.isEmpty then ""
  else ", " ++ ("attrs = \x7b " ++ Elements.callOn "title" title ++ " \x7d")

theorem isClosed_append_titleCode {before : List Char} (text title : String)
    (h : ∀ opened, Kotlin.scan (.code opened) before = some (.code opened)) :
    Kotlin.IsClosed (before ++ (Kotlin.quoted text).toList ++ (titleCode title).toList) := by
  intro opened
  rw [List.append_assoc, Kotlin.scan_append_of_eq_some (h opened),
    Kotlin.scan_append_of_eq_some (Kotlin.scan_quoted opened text), titleCode]
  split
  · exact .inr rfl
  · have hcomma : Kotlin.scan (.closed opened) ", ".toList = some (.code opened) := rfl
    rw [String.toList_append, Kotlin.scan_append_of_eq_some hcomma]
    exact (isBalanced_attributes (isBalanced_callOn rfl title).isClosed).isClosed opened

/-- An anchor for a destination outside the site. -/
def anchor (destination title : String) : Call :=
  withArguments "A" ("href = " ++ Kotlin.quoted destination ++ titleCode title) <| by
    rw [String.toList_append, String.toList_append]
    exact isClosed_append_titleCode destination title fun _ => rfl

/-- An image of something outside the site. -/
def picture (destination alternative title : String) : Call :=
  withArguments "Img" ("src = " ++ Kotlin.quoted destination ++ ", alt = " ++
      Kotlin.quoted alternative ++ titleCode title) <| by
    rw [String.toList_append, String.toList_append]
    refine isClosed_append_titleCode alternative title ?_
    rw [String.toList_append, String.toList_append]
    exact (Kotlin.isClosed_quoted destination).around fun opened => ⟨opened, rfl, rfl, rfl⟩

/-- The container of a formula. -/
def math : Bool → Call
  | true =>
    withAttributes "Div" (Elements.callOn "classes" "math-display")
      (isBalanced_callOn rfl _).isClosed
  | false =>
    withAttributes "Span" (Elements.callOn "classes" "math-inline")
      (isBalanced_callOn rfl _).isClosed

theorem isClosed_footnote (label : String) :
    Kotlin.IsClosed
      (Elements.callOn "id" ("fn-" ++ label) ++ "; classes(\"footnote\")").toList := by
  rw [String.toList_append]
  exact ((isBalanced_callOn rfl _).append fun _ => rfl).isClosed

/-- The container of a footnote. -/
def footnote (label : String) : Call :=
  withAttributes "Div" (Elements.callOn "id" ("fn-" ++ label) ++ "; classes(\"footnote\")")
    (isClosed_footnote label)

/-! ### Their code and names -/

@[simp] theorem bare_code (name : String) (h : IsElementName name) : (bare name h).code = name :=
  rfl

theorem withArguments_code {name inner : String} (hinner : Kotlin.IsClosed inner.toList)
    (h : IsElementName name) :
    (withArguments name inner hinner h).code = name ++ ("(" ++ inner ++ ")") :=
  rfl

@[simp] theorem withAttributes_code {name attributes : String}
    (hattributes : Kotlin.IsClosed attributes.toList) (h : IsElementName name) :
    (withAttributes name attributes hattributes h).code =
      Elements.withAttributes name attributes := by
  rw [withAttributes, withArguments_code, Elements.withAttributes, ← String.toList_inj]
  simp

theorem codeBlock_code (language : Option String) : (codeBlock language).code =
    match language with
    | some language =>
      Elements.withAttributes "Code" (Elements.callOn "classes" ("language-" ++ language))
    | none => "Code" := by
  cases language with
  | none => rfl
  | some language => exact withAttributes_code (isBalanced_callOn rfl _).isClosed _

theorem heading_code (level : Nat) (id : String) :
    (heading level id).code =
      if id.isEmpty then "H" ++ toString level
      else Elements.withAttributes ("H" ++ toString level) (Elements.callOn "id" id) := by
  rw [heading]
  split
  · rw [bare_code]
  · rw [withAttributes_code]

theorem footnote_code (label : String) : (footnote label).code =
    Elements.withAttributes "Div"
      (Elements.callOn "id" ("fn-" ++ label) ++ "; classes(\"footnote\")") :=
  withAttributes_code (isClosed_footnote label) _

theorem checkBox_code (checked : Bool) :
    (checkBox checked).code =
      "CheckboxInput(checked = " ++ (if checked then "true" else "false") ++
        ", attrs = \x7b disabled() \x7d)" := by
  cases checked <;> decide

theorem route_code (target : String) : (route target).code = Elements.callOn "Link" target := by
  rw [route, withArguments_code, Elements.callOn, ← String.append_assoc, ← String.append_assoc]

theorem anchor_code (destination title : String) :
    (anchor destination title).code = Elements.anchorCall destination title := by
  rw [anchor, withArguments_code, Elements.anchorCall, titleCode, ← String.toList_inj]
  split <;> simp

theorem picture_code (destination alternative title : String) :
    (picture destination alternative title).code =
      Elements.imageCall destination alternative title := by
  rw [picture, withArguments_code, Elements.imageCall, titleCode, ← String.toList_inj]
  split <;> simp

@[simp] theorem heading_name (level : Nat) (id : String) :
    (heading level id).name = "H" ++ toString level := by
  rw [heading]
  split <;> rfl

@[simp] theorem codeBlock_name (language : Option String) : (codeBlock language).name = "Code" := by
  cases language <;> rfl

end Call

end MarkdownPages
