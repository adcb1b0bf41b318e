/-!
# Texts as the operating system has them

A path, and every name in it, is a sequence of bytes. Mostly the bytes are the UTF-8 form of a
text, but nothing makes them so, and then there is no text that they stand for. Such bytes are
shown with U+FFFD for every part of them that is ill-formed: as many bytes as could start a
character, and at least one.

## Main definitions

* `RawText` — bytes in the place of a text
* `RawText.ofText` — the bytes of a text
* `RawText.text?` — the text that bytes stand for, if there is one
* `RawText.shown` — the text by which bytes are shown
-/

namespace MarkdownPages

/-- Bytes in the place of a text. -/
structure RawText where
  bytes : List UInt8
deriving DecidableEq, Inhabited, Repr

namespace RawText

/-- The bytes of a text. -/
def ofText (s : String) : RawText := ⟨s.toByteArray.data.toList⟩

instance : Coe String RawText := ⟨ofText⟩

instance : Append RawText := ⟨fun a b => ⟨a.bytes ++ b.bytes⟩⟩

/-- Whether there are no bytes. -/
def isEmpty (t : RawText) : Bool := t.bytes.isEmpty

/-- The byte of a slash. -/
def slash : UInt8 := 0x2F

/-- The byte of a dot. -/
def dot : UInt8 := 0x2E

/-! ### Order -/

instance : LT RawText := ⟨fun a b => a.bytes < b.bytes⟩

instance : DecidableLT RawText := fun a b => inferInstanceAs (Decidable (a.bytes < b.bytes))

instance : Ord RawText := ⟨fun a b => compareOfLessAndEq a b⟩

/-! ### Decoding -/

/-- Whether a byte goes on with a character that an earlier byte starts. -/
def isContinuation (b : UInt8) : Bool := 0x80 ≤ b && b ≤ 0xBF

/-- Whether a character of several bytes may start with these two. -/
def isLead (first second : UInt8) : Bool :=
  if first = 0xE0 then 0xA0 ≤ second && second ≤ 0xBF
  else if first = 0xED then 0x80 ≤ second && second ≤ 0x9F
  else if first = 0xF0 then 0x90 ≤ second && second ≤ 0xBF
  else if first = 0xF4 then 0x80 ≤ second && second ≤ 0x8F
  else 0xC2 ≤ first && first ≤ 0xF4 && isContinuation second

/-- The number of bytes after the first that belong to an ill-formed part, given all bytes that
follow. -/
def illFormedRest (first : UInt8) : List UInt8 → Nat
  | second :: rest =>
    if isLead first second then if 0xF0 ≤ first && rest.head?.any isContinuation then 2 else 1
    else 0
  | [] => 0

/-- The characters that bytes stand for after some bytes that are passed over; none for an
ill-formed part. -/
def decode : Nat → List UInt8 → List (Option Char)
  | _, [] => []
  | passed + 1, _ :: rest => decode passed rest
  | 0, b :: rest =>
    match ((b :: rest).take 4).toByteArray.utf8DecodeChar? 0 with
    | some c => some c :: decode (c.utf8Size - 1) rest
    | none => none :: decode (illFormedRest b rest) rest

/-- The characters that bytes stand for; none for an ill-formed part. -/
def chars (t : RawText) : List (Option Char) := decode 0 t.bytes

/-- The text that bytes stand for. -/
def text? (t : RawText) : Option String := (t.chars.mapM id).map String.ofList

/-- The text by which bytes are shown. -/
def shown (t : RawText) : String := String.ofList (t.chars.map (·.getD '\uFFFD'))

end RawText

end MarkdownPages
