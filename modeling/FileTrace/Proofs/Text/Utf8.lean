import Mathlib
import FileTrace.Text.Utf8

namespace FileTrace.Text

theorem toNat_byte {n : Nat} (h : n < 256) : (UInt8.ofNat n).toNat = n := by
  rw [UInt8.toNat_ofNat', Nat.mod_eq_of_lt h]

namespace Lead

theorem ofByte?_ascii {n : Nat} (h : n < 0x80) :
    ofByte? (UInt8.ofNat n) = some ⟨0, 0x80, 0xBF, n⟩ := by
  simp only [ofByte?, toNat_byte (show n < 256 by omega), if_pos h]

theorem ofByte?_two {n : Nat} (low : 0xC2 ≤ n) (high : n < 0xE0) :
    ofByte? (UInt8.ofNat n) = some ⟨1, 0x80, 0xBF, n - 0xC0⟩ := by
  simp only [ofByte?, toNat_byte (show n < 256 by omega), if_pos high,
    if_neg (show ¬n < 0x80 by omega), if_neg (show ¬n < 0xC2 by omega)]

theorem ofByte?_three {n : Nat} (low : 0xE0 ≤ n) (high : n < 0xF0) :
    ofByte? (UInt8.ofNat n) =
      some ⟨2, if n = 0xE0 then 0xA0 else 0x80, if n = 0xED then 0x9F else 0xBF, n - 0xE0⟩ := by
  simp only [ofByte?, toNat_byte (show n < 256 by omega), if_neg (show ¬n < 0x80 by omega),
    if_neg (show ¬n < 0xC2 by omega), if_neg (show ¬n < 0xE0 by omega), if_pos high]
  by_cases first : n = 0xE0
  · simp [first]
  · by_cases last : n = 0xED <;> simp [first, last]

theorem ofByte?_four {n : Nat} (low : 0xF0 ≤ n) (high : n ≤ 0xF4) :
    ofByte? (UInt8.ofNat n) =
      some ⟨3, if n = 0xF0 then 0x90 else 0x80, if n = 0xF4 then 0x8F else 0xBF, n - 0xF0⟩ := by
  simp only [ofByte?, toNat_byte (show n < 256 by omega), if_neg (show ¬n < 0x80 by omega),
    if_neg (show ¬n < 0xC2 by omega), if_neg (show ¬n < 0xE0 by omega),
    if_neg (show ¬n = 0xE0 by omega), if_neg (show ¬n = 0xED by omega),
    if_neg (show ¬n < 0xF0 by omega)]
  by_cases first : n = 0xF0
  · simp [first]
  · by_cases last : n = 0xF4
    · simp [last]
    · simp [first, last, show n < 0xF4 by omega]

end Lead

theorem readTail_laterByte {least greatest : Nat} (count bits n : Nat) (rest : List UInt8)
    (low : least ≤ n % 64 + 0x80) (high : n % 64 + 0x80 ≤ greatest) :
    readTail (count + 1) least greatest bits (UInt8.ofNat (n % 64 + 0x80) :: rest) =
      readTail count 0x80 0xBF (bits * 64 + n % 64) rest := by
  rw [readTail, toNat_byte (by omega), if_pos ⟨low, high⟩,
    show (n % 64 + 0x80) % 64 = n % 64 by omega]

theorem readChar_of_tail {b : UInt8} {bytes rest : List UInt8} {lead : Lead} {c : Char}
    (first : Lead.ofByte? b = some lead)
    (later : readTail lead.count lead.least lead.greatest lead.bits bytes = (some c.toNat, rest)) :
    readChar b bytes = (c, rest) := by
  simp only [readChar, first, later, Char.ofNat_toNat]

theorem code_lt_or_gt (c : Char) :
    c.toNat < 0xD800 ∨ 0xDFFF < c.toNat ∧ c.toNat < 0x110000 := c.valid

-- Along the four lengths of a written character; only its second byte may be bounded tightly.
theorem encodeChar_parts (c : Char) :
    ∃ b later lead, String.utf8EncodeChar c = b :: later ∧ Lead.ofByte? b = some lead ∧
      ∀ rest, readTail lead.count lead.least lead.greatest lead.bits (later ++ rest) =
        (some c.toNat, rest) := by
  have code := code_lt_or_gt c
  have complete {n : Nat} {rest : List UInt8} (h : n = c.val.toNat) :
      (some n, rest) = (some c.toNat, rest) := by
    rw [h, Char.toNat]
  rw [Char.toNat] at code
  fun_cases String.utf8EncodeChar c with
  | case1 v short =>
    exact ⟨_, _, _, rfl, Lead.ofByte?_ascii (by omega), fun rest => rfl⟩
  | case2 v long short =>
    refine ⟨_, _, _, rfl, Lead.ofByte?_two (by omega) (by omega), fun rest => ?_⟩
    dsimp only
    rw [List.cons_append, readTail_laterByte _ _ _ _ (by omega) (by omega), readTail]
    exact complete (by omega)
  | case3 v long longer short =>
    refine ⟨_, _, _, rfl, Lead.ofByte?_three (by omega) (by omega), fun rest => ?_⟩
    dsimp only
    rw [List.cons_append, readTail_laterByte _ _ _ _ (by split <;> omega) (by split <;> omega),
      List.cons_append, readTail_laterByte _ _ _ _ (by omega) (by omega), readTail]
    exact complete (by omega)
  | case4 v long longer longest =>
    refine ⟨_, _, _, rfl, Lead.ofByte?_four (by omega) (by omega), fun rest => ?_⟩
    dsimp only
    rw [List.cons_append, readTail_laterByte _ _ _ _ (by split <;> omega) (by split <;> omega),
      List.cons_append, readTail_laterByte _ _ _ _ (by omega) (by omega),
      List.cons_append, readTail_laterByte _ _ _ _ (by omega) (by omega), readTail]
    exact complete (by omega)

theorem read_encodeChar (c : Char) (rest : List UInt8) :
    ∃ b bytes, String.utf8EncodeChar c = b :: bytes ∧ readChar b (bytes ++ rest) = (c, rest) := by
  obtain ⟨b, later, lead, written, first, read⟩ := encodeChar_parts c
  exact ⟨b, later, written, readChar_of_tail first (read rest)⟩

theorem encode_cons (c : Char) (text : List Char) :
    encode (c :: text) = String.utf8EncodeChar c ++ encode text := rfl

theorem decodeLossy_encode_append (text : List Char) (rest : List UInt8) :
    decodeLossy (encode text ++ rest) = text ++ decodeLossy rest := by
  induction text with
  | nil => rfl
  | cons c text ih =>
    obtain ⟨b, bytes, written, read⟩ := read_encodeChar c (encode text ++ rest)
    rw [encode_cons, written, List.cons_append, List.cons_append, List.append_assoc, decodeLossy,
      read, ih, List.cons_append]

theorem decodeLossy_encode (text : List Char) : decodeLossy (encode text) = text := by
  have read := decodeLossy_encode_append text []
  rw [List.append_nil, decodeLossy, List.append_nil] at read
  exact read

end FileTrace.Text
