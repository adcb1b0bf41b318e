import MarkdownPages.Proofs.Text.Pieces
import MarkdownPages.Text.Raw

/-!
# Raw texts and the texts they stand for

A text has bytes, and decoding them gives the text back; bytes that decode to a text are the bytes
of that text and of no other. Putting texts together and cutting them at slashes may be done before
or after the bytes are taken, since the byte of a slash occurs in the bytes of no other character.

## Main results

* `RawText.text?_eq_some_iff` — which text raw text stands for
* `RawText.ofText_append`, `RawText.ofText_injective` — the bytes of texts
* `RawText.splitOn_encode` — the pieces of a text between slashes, and of its bytes
* `RawText.text?_latin1Name` — bytes that no text stands for
-/

namespace MarkdownPages

namespace RawText

/-! ### Order -/

instance : LE RawText := ⟨fun a b => a.bytes ≤ b.bytes⟩

instance : Std.LawfulOrderLT RawText where
  lt_iff _ _ := Std.lt_iff_le_and_not_ge (α := List UInt8)

instance : Std.IsLinearOrder RawText where
  le_refl a := Std.le_refl a.bytes
  le_trans _ _ _ := Std.le_trans (α := List UInt8)
  le_antisymm a b hab hba := by
    cases a
    cases b
    exact congrArg RawText.mk (Std.le_antisymm hab hba)
  le_total _ _ := Std.le_total (α := List UInt8)

instance : DecidableLE RawText := fun a b => inferInstanceAs (Decidable (a.bytes ≤ b.bytes))

instance : Std.TransOrd RawText :=
  Std.TransOrd.compareOfLessAndEq_of_antisymm_of_trans_of_total_of_not_le Std.le_antisymm
    Std.le_trans (fun _ _ => Std.le_total) Std.not_le

instance : Std.LawfulEqOrd RawText where
  eq_of_compare h := (compareOfLessAndEq_eq_eq Std.le_refl Std.not_le).mp h

/-! ### The bytes of a text -/

/-- The bytes of characters. -/
def encode (cs : List Char) : List UInt8 := cs.flatMap String.utf8EncodeChar

@[simp] theorem encode_nil : encode [] = [] := rfl

theorem encode_cons (c : Char) (cs : List Char) :
    encode (c :: cs) = String.utf8EncodeChar c ++ encode cs := List.flatMap_cons

theorem encode_append (cs ds : List Char) : encode (cs ++ ds) = encode cs ++ encode ds :=
  List.flatMap_append

theorem ofText_ofList (cs : List Char) : ofText (String.ofList cs) = ⟨encode cs⟩ := by
  rw [ofText, String.toByteArray_ofList, List.utf8Encode, List.toList_data_toByteArray, encode]

theorem bytes_ofText (s : String) : (ofText s).bytes = encode s.toList := by
  rw [← String.ofList_toList (s := s), ofText_ofList, String.ofList_toList]

theorem bytes_ofText_eq_nil {s : String} : (ofText s).bytes = [] ↔ s = "" := by
  rw [bytes_ofText, encode, List.flatMap_eq_nil_iff, ← String.toList_eq_nil_iff,
    List.eq_nil_iff_forall_not_mem]
  simp [String.utf8EncodeChar_ne_nil]

theorem bytes_append (a b : RawText) : (a ++ b).bytes = a.bytes ++ b.bytes := rfl

theorem ext_bytes {a b : RawText} (h : a.bytes = b.bytes) : a = b := congrArg RawText.mk h

@[simp] theorem isEmpty_iff {t : RawText} : t.isEmpty = true ↔ t.bytes = [] := List.isEmpty_iff

theorem ofText_append (s t : String) : ofText (s ++ t) = ofText s ++ ofText t := by
  apply ext_bytes
  rw [bytes_append, bytes_ofText, bytes_ofText, bytes_ofText, String.toList_append, encode_append]

/-- The bytes of texts with slashes between them are those of the texts, with slashes between
them. -/
theorem bytes_intercalate (texts : List String) : (ofText ("/".intercalate texts)).bytes =
    Text.joined [slash] ((texts.map ofText).map bytes) := by
  induction texts with
  | nil => rfl
  | cons first rest ih =>
    cases rest with
    | nil => simp [Text.joined]
    | cons second rest =>
      have hslash : (ofText "/").bytes = [slash] := by decide +kernel
      rw [String.intercalate_cons_cons, ofText_append, ofText_append, bytes_append, bytes_append,
        ih, hslash]
      simp [Text.joined, List.intercalate]

/-! ### Decoding -/

/-- Bytes that are passed over do not count. -/
theorem decode_append (bs rest : List UInt8) : decode bs.length (bs ++ rest) = decode 0 rest := by
  induction bs with
  | nil => rfl
  | cons b bs ih => exact ih

/-- The bytes of a character are read as that character. -/
theorem decode_utf8EncodeChar (c : Char) (rest : List UInt8) :
    decode 0 (String.utf8EncodeChar c ++ rest) = some c :: decode 0 rest := by
  obtain ⟨first, more, henc⟩ := List.exists_cons_of_ne_nil (String.utf8EncodeChar_ne_nil (c := c))
  have hlength : more.length + 1 = c.utf8Size := by
    rw [← String.length_utf8EncodeChar, henc, List.length_cons]
  -- four bytes are enough for any character
  have htake : ((first :: more) ++ rest).take 4 =
      (first :: more) ++ rest.take (4 - c.utf8Size) := by
    rw [List.take_append, List.take_of_length_le, List.length_cons, hlength]
    rw [List.length_cons, hlength]
    exact c.utf8Size_le_four
  have hread : (((first :: more) ++ rest).take 4).toByteArray.utf8DecodeChar? 0 = some c := by
    rw [htake, List.toByteArray_append, ← henc, ByteArray.utf8DecodeChar?_utf8EncodeChar_append]
  rw [henc, List.cons_append, decode, ← List.cons_append, hread]
  dsimp only
  rw [← hlength, Nat.add_sub_cancel, decode_append]

theorem decode_encode (cs : List Char) : decode 0 (encode cs) = cs.map some := by
  induction cs with
  | nil => rfl
  | cons c cs ih => rw [encode_cons, decode_utf8EncodeChar, ih, List.map_cons]

/-- A character is read from its bytes only. -/
theorem exists_append_of_read {bs : List UInt8} {c : Char}
    (h : (bs.take 4).toByteArray.utf8DecodeChar? 0 = some c) :
    ∃ rest, bs = String.utf8EncodeChar c ++ rest := by
  obtain ⟨more, hmore⟩ := ByteArray.exists_of_utf8DecodeChar?_eq_some h
  have hbytes := congrArg (fun b : ByteArray => b.data.toList) hmore
  simp only [List.toList_data_toByteArray, ByteArray.data_append, Array.toList_append] at hbytes
  exact ⟨more.data.toList ++ bs.drop 4, by
    rw [← List.append_assoc, ← hbytes, List.take_append_drop]⟩

/-- Where only characters are read, the bytes are those of the characters. -/
theorem encode_of_decode {bs : List UInt8} {cs : List Char} (h : decode 0 bs = cs.map some) :
    bs = encode cs := by
  induction cs generalizing bs with
  | nil =>
    cases bs with
    | nil => rfl
    | cons b rest =>
      rw [decode] at h
      split at h <;> cases h
  | cons c cs ih =>
    cases bs with
    | nil => cases h
    | cons b rest =>
      have hread : ((b :: rest).take 4).toByteArray.utf8DecodeChar? 0 = some c := by
        rw [decode] at h
        split at h <;> simp_all
      obtain ⟨more, hmore⟩ := exists_append_of_read hread
      rw [hmore, decode_utf8EncodeChar, List.map_cons, List.cons.injEq] at h
      rw [hmore, encode_cons, ih h.2]

theorem eq_map_some_of_mapM_id {os : List (Option Char)} {cs : List Char}
    (h : os.mapM id = some cs) : os = cs.map some := by
  induction os generalizing cs with
  | nil =>
    obtain rfl : [] = cs := by simpa using h
    rfl
  | cons o os ih =>
    simp only [List.mapM_cons, id, Option.bind_eq_bind, Option.bind_eq_some_iff] at h
    obtain ⟨c, rfl, ds, hds, heq⟩ := h
    obtain rfl := Option.some.inj heq
    rw [ih hds, List.map_cons]

theorem mapM_id_map_some (cs : List Char) : (cs.map some).mapM id = some cs := by
  induction cs with
  | nil => rfl
  | cons c cs ih => simp [ih]

theorem chars_ofText (s : String) : (ofText s).chars = s.toList.map some := by
  rw [chars, bytes_ofText, decode_encode]

/-- **The text of raw text.** -/
theorem text?_eq_some_iff {t : RawText} {s : String} : t.text? = some s ↔ t = ofText s := by
  constructor
  · intro h
    obtain ⟨cs, hcs, rfl⟩ := Option.map_eq_some_iff.mp h
    rw [ofText_ofList]
    exact ext_bytes (encode_of_decode (eq_map_some_of_mapM_id hcs))
  · rintro rfl
    rw [text?, chars_ofText, mapM_id_map_some, Option.map_some, String.ofList_toList]

@[simp] theorem text?_ofText (s : String) : (ofText s).text? = some s :=
  text?_eq_some_iff.mpr rfl

/-- Which texts some raw texts stand for. -/
theorem mapM_text?_eq_some_iff {ts : List RawText} {texts : List String} :
    ts.mapM text? = some texts ↔ ts = texts.map ofText := by
  induction ts generalizing texts with
  | nil => cases texts <;> simp
  | cons t ts ih =>
    cases texts with
    | nil => cases ht : t.text? <;> cases hts : ts.mapM text? <;> simp [ht, hts]
    | cons text texts => simp [Option.bind_eq_some_iff, text?_eq_some_iff, ih]

theorem isSome_mapM_text?_iff {ts : List RawText} :
    (ts.mapM text?).isSome = true ↔ ∀ t ∈ ts, ∃ text, t = ofText text := by
  simp only [Option.isSome_iff_exists, mapM_text?_eq_some_iff]
  constructor
  · rintro ⟨texts, rfl⟩ t ht
    obtain ⟨text, -, rfl⟩ := List.mem_map.mp ht
    exact ⟨text, rfl⟩
  · intro h
    induction ts with
    | nil => exact ⟨[], rfl⟩
    | cons t ts ih =>
      obtain ⟨text, rfl⟩ := h t List.mem_cons_self
      obtain ⟨texts, rfl⟩ := ih fun t ht => h t (List.mem_cons_of_mem _ ht)
      exact ⟨text :: texts, rfl⟩

@[simp] theorem shown_ofText (s : String) : (ofText s).shown = s := by
  rw [shown, chars_ofText, List.map_map]
  exact (congrArg String.ofList (List.map_id _)).trans String.ofList_toList

/-- Bytes are shown by some text. -/
theorem shown_ne_empty {t : RawText} (h : t.bytes ≠ []) : t.shown ≠ "" := by
  obtain ⟨b, rest, hcons⟩ := List.exists_cons_of_ne_nil h
  rw [shown, chars, hcons, decode]
  split <;> simp

theorem ofText_injective {s t : String} (h : ofText s = ofText t) : s = t := by
  simpa using congrArg text? h

/-! ### Slashes and dots -/

theorem dot_ne_slash : dot ≠ slash := by decide

/-- The byte of an ASCII character occurs in the bytes of that character only. -/
theorem toUInt8_mem_utf8EncodeChar {a c : Char} (ha : a.toNat < 0x80) :
    a.toUInt8 ∈ String.utf8EncodeChar c ↔ c = a := by
  have hbyte : a.toUInt8.toNat = a.toNat := by
    rw [Char.toUInt8, UInt32.toNat_toUInt8, Char.toNat]
    exact Nat.mod_eq_of_lt (Nat.lt_trans ha (by decide))
  rw [← Char.toNat_inj, Char.toNat]
  -- of several bytes each is at least `0x80`
  fun_cases String.utf8EncodeChar c <;>
    simp only [List.mem_cons, List.not_mem_nil, or_false, ← UInt8.toNat_inj, UInt8.toNat_ofNat',
      hbyte] <;> omega

theorem toUInt8_mem_ofText {a : Char} (ha : a.toNat < 0x80) {s : String} :
    a.toUInt8 ∈ (ofText s).bytes ↔ a ∈ s.toList := by
  rw [bytes_ofText, encode, List.mem_flatMap]
  simp only [toUInt8_mem_utf8EncodeChar ha, exists_eq_right]

theorem slash_mem_ofText {s : String} : slash ∈ (ofText s).bytes ↔ '/' ∈ s.toList :=
  toUInt8_mem_ofText (a := '/') (by decide)

theorem dot_mem_ofText {s : String} : dot ∈ (ofText s).bytes ↔ '.' ∈ s.toList :=
  toUInt8_mem_ofText (a := '.') (by decide)

theorem slash_mem_utf8EncodeChar {c : Char} : slash ∈ String.utf8EncodeChar c ↔ c = '/' :=
  toUInt8_mem_utf8EncodeChar (a := '/') (by decide)

/-- The bytes of a text start with a slash if the text does. -/
theorem head?_ofText {s : String} :
    (ofText s).bytes.head? = some slash ↔ s.toList.head? = some '/' := by
  rw [bytes_ofText]
  cases s.toList with
  | nil => simp
  | cons c cs =>
    obtain ⟨first, more, henc⟩ :=
      List.exists_cons_of_ne_nil (String.utf8EncodeChar_ne_nil (c := c))
    rw [encode_cons, henc, List.cons_append, List.head?_cons, List.head?_cons, Option.some.injEq,
      Option.some.injEq]
    constructor
    · rintro rfl
      exact slash_mem_utf8EncodeChar.mp (by simp [henc])
    · rintro rfl
      exact (List.cons.inj henc).1.symm

/-- The bytes of a text are cut at slashes where the text is. -/
theorem splitOn_encode (cs : List Char) :
    Text.splitOn (· == slash) (encode cs) = (Text.splitOn (· == '/') cs).map encode := by
  induction cs with
  | nil => rfl
  | cons c cs ih =>
    by_cases hc : c = '/'
    · subst hc
      have hchars : Text.splitOn (· == '/') ('/' :: cs) = [] :: Text.splitOn (· == '/') cs :=
        Text.splitOn_cons_of_separator (beq_self_eq_true '/')
      rw [hchars, List.map_cons, ← ih]
      exact Text.splitOn_cons_of_separator (beq_self_eq_true slash)
    · obtain ⟨piece, pieces, hrest, hcons⟩ :=
        @Text.splitOn_cons_of_not Char (· == '/') c (beq_eq_false_iff_ne.mpr hc) cs
      rw [hrest, List.map_cons] at ih
      rw [hcons, List.map_cons, encode_cons, encode_cons]
      refine Text.splitOn_append_of_forall (fun b hb => ?_) ih
      rw [beq_eq_false_iff_ne]
      rintro rfl
      exact hc (slash_mem_utf8EncodeChar.mp hb)

/-- The name `café.md` in Latin-1. No text has these bytes in UTF-8. -/
def latin1Name : RawText := ⟨[0x63, 0x61, 0x66, 0xE9, 0x2E, 0x6D, 0x64]⟩

theorem text?_latin1Name : latin1Name.text? = none := by decide +kernel

end RawText

end MarkdownPages
