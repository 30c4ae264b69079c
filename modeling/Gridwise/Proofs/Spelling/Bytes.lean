import Gridwise.Proofs.RoundTrip

/-!
# Bytes of spellings

Spellings are made of one-byte characters. So a byte decides which character stands at its place in
a spelling, even where the byte is the first of several in another text.
-/

namespace Gridwise

namespace Expr

open Reader

/-- The bytes of a text. -/
def bytes (text : String) : List UInt8 := text.toUTF8.data.toList

/-- The bytes of a row of characters. -/
def encode (cs : List Char) : List UInt8 := cs.flatMap String.utf8EncodeChar

/-- The character of one byte. -/
def charOfByte (byte : UInt8) : Char := Char.ofNat byte.toNat

theorem bytes_ofList (cs : List Char) : bytes (String.ofList cs) = encode cs := by
  rw [bytes, String.toUTF8, String.toByteArray_ofList, List.utf8Encode,
    List.toList_data_toByteArray, encode]

theorem bytes_eq_encode (text : String) : bytes text = encode text.toList := by
  rw [← bytes_ofList, String.ofList_toList]

theorem encode_cons (c : Char) (cs : List Char) :
    encode (c :: cs) = String.utf8EncodeChar c ++ encode cs := rfl

theorem encode_append (cs ds : List Char) : encode (cs ++ ds) = encode cs ++ encode ds :=
  List.flatMap_append

theorem length_encode (cs : List Char) : (encode cs).length = byteCount cs := by
  induction cs with
  | nil => rfl
  | cons c cs ih =>
      rw [encode_cons, List.length_append, String.length_utf8EncodeChar, ih, byteCount_cons]

theorem take_encode_append (front back : List Char) :
    (encode (front ++ back)).take (byteCount front) = encode front := by
  rw [encode_append, ← length_encode, List.take_left]

theorem utf8EncodeChar_eq_singleton {c : Char} (ascii : c.toNat < 128) :
    String.utf8EncodeChar c = [UInt8.ofNat c.toNat] := by
  have small : c.val.toNat ≤ 127 := Nat.le_of_lt_succ ascii
  simp only [String.utf8EncodeChar, if_pos small]
  rfl

/-- A character whose first byte is below 128 has no other. -/
theorem eq_charOfByte_of_head {c : Char} {byte : UInt8} {others : List UInt8}
    (encoded : String.utf8EncodeChar c = byte :: others) (ascii : byte.toNat < 128) :
    c = charOfByte byte := by
  unfold String.utf8EncodeChar at encoded
  simp only at encoded
  split at encoded
  · next small =>
      cases encoded
      rw [charOfByte, UInt8.toNat_ofNat', Nat.mod_eq_of_lt (by omega)]
      exact (Char.ofNat_toNat c).symm
  · split at encoded
    · cases encoded
      simp at ascii
      omega
    · split at encoded
      · cases encoded
        simp at ascii
        omega
      · cases encoded
        simp at ascii
        omega

/-- The characters each have one byte. -/
def Ascii (cs : List Char) : Prop := ∀ c ∈ cs, c.toNat < 128

theorem map_charOfByte_encode {cs : List Char} (ascii : Ascii cs) :
    (encode cs).map charOfByte = cs := by
  induction cs with
  | nil => rfl
  | cons c cs ih =>
      have small : c.toNat < 128 := ascii c List.mem_cons_self
      have encoded := utf8EncodeChar_eq_singleton small
      have first := eq_charOfByte_of_head encoded (by
        rw [UInt8.toNat_ofNat', Nat.mod_eq_of_lt (by omega)]
        exact small)
      rw [encode_cons, encoded, List.singleton_append, List.map_cons, ← first,
        ih fun d member => ascii d (List.mem_cons_of_mem c member)]

theorem toNat_lt_of_mem_encode {cs : List Char} (ascii : Ascii cs) {byte : UInt8}
    (member : byte ∈ encode cs) : byte.toNat < 128 := by
  obtain ⟨c, inText, inChar⟩ := List.mem_flatMap.mp member
  have small := ascii c inText
  rw [utf8EncodeChar_eq_singleton small, List.mem_singleton] at inChar
  rw [inChar, UInt8.toNat_ofNat', Nat.mod_eq_of_lt (by omega)]
  exact small

/-- A text of one-byte characters that has the bytes of some characters and one byte of the next
    one begins with these characters and the next one. -/
theorem exists_append_of_encode_prefix {front cs : List Char} {c : Char} (asciiFront : Ascii front)
    (ascii : Ascii cs) (tail : List Char)
    (begins : (encode (front ++ c :: tail)).take (byteCount front + 1) <+: encode cs) :
    ∃ rest, cs = front ++ c :: rest := by
  obtain ⟨byte, others, encoded⟩ : ∃ byte others, String.utf8EncodeChar c = byte :: others := by
    apply List.exists_cons_of_ne_nil
    apply List.ne_nil_of_length_pos
    rw [String.length_utf8EncodeChar]
    exact c.utf8Size_pos
  have taken : (encode (front ++ c :: tail)).take (byteCount front + 1) =
      encode front ++ [byte] := by
    have next : encode (c :: tail) = byte :: (others ++ encode tail) := by
      rw [encode_cons, encoded, List.cons_append]
    rw [encode_append, next, ← length_encode, List.take_length_add_append]
    rfl
  rw [taken] at begins
  have inText : byte ∈ encode cs := begins.subset (by simp)
  have same : c = charOfByte byte :=
    eq_charOfByte_of_head encoded (toNat_lt_of_mem_encode ascii inText)
  obtain ⟨rest, split⟩ := begins.map charOfByte
  refine ⟨rest, ?_⟩
  rw [← map_charOfByte_encode ascii, ← split, List.map_append, map_charOfByte_encode asciiFront,
    same, List.append_assoc]
  rfl

theorem toNat_lt_of_isDigit {c : Char} (digit : c.isDigit) : c.toNat < 128 := by
  have bounds : 48 ≤ c.toNat ∧ c.toNat ≤ 57 := by
    simpa [Char.isDigit, UInt32.le_iff_toNat_le] using digit
  omega

theorem toNat_lt_of_isLetter {c : Char} (letter : isLetter c) : c.toNat < 128 := by
  have bounds : 97 ≤ c.toNat ∧ c.toNat ≤ 122 := by
    simpa [Char.le_def, UInt32.le_iff_toNat_le] using isLetter_iff.mp letter
  omega

theorem ascii_of_spells {e : Expr} {cs : List Char} (spelled : Spells e cs) : Ascii cs := by
  induction spelled with
  | constant numeral denotes =>
      intro c member
      have sign : c = '-' ∨ c ∈ numeral.digits := by
        unfold Numeral.chars at member
        split at member
        · simpa using member
        · exact .inr (by simpa using member)
      rcases sign with rfl | digit
      · decide
      · exact toNat_lt_of_isDigit (denotes.areDigits c digit)
  | var letters _ areLetters => exact fun c member => toNat_lt_of_isLetter (areLetters c member)
  | @negation _ inner _ ih =>
      intro c member
      have place : c = '(' ∨ c = '-' ∨ c ∈ inner ∨ c = ')' := by simpa using member
      rcases place with rfl | rfl | inArg | rfl
      · decide
      · decide
      · exact ih c inArg
      · decide
  | @operation _ _ first second op operator _ _ ihLeft ihRight =>
      intro c member
      have place : c = '(' ∨ c ∈ first ∨ c = op ∨ c ∈ second ∨ c = ')' := by simpa using member
      rcases place with rfl | inLeft | rfl | inRight | rfl
      · decide
      · exact ihLeft c inLeft
      · rcases isOperator_iff.mp operator with rfl | rfl | rfl | rfl <;> decide
      · exact ihRight c inRight
      · decide

end Expr

end Gridwise
