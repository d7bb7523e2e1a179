import FileTrace.Proofs.Text.Utf8

namespace FileTrace.Text

theorem readTail_bounds {count bits code : Nat} {bytes rest : List UInt8}
    (h : readTail count 0x80 0xBF bits bytes = (some code, rest)) :
    bits * 64 ^ count ≤ code ∧ code < (bits + 1) * 64 ^ count := by
  induction count generalizing bits bytes with
  | zero =>
    rw [readTail, Prod.mk.injEq, Option.some.injEq] at h
    omega
  | succ count ih =>
    cases bytes with
    | nil => cases h
    | cons b bytes =>
      rw [readTail] at h
      split at h
      · obtain ⟨low, high⟩ := ih h
        rw [Nat.pow_succ', ← Nat.mul_assoc, ← Nat.mul_assoc]
        exact ⟨(Nat.mul_le_mul_right _ (by omega)).trans low,
          high.trans_le (Nat.mul_le_mul_right _ (by omega))⟩
      · cases h

theorem readTail_second {count least greatest bits code : Nat} {bytes rest : List UInt8}
    (h : readTail (count + 1) least greatest bits bytes = (some code, rest)) :
    ∃ next, least ≤ next ∧ next ≤ greatest ∧
      (bits * 64 + next % 64) * 64 ^ count ≤ code ∧
      code < (bits * 64 + next % 64 + 1) * 64 ^ count := by
  cases bytes with
  | nil => cases h
  | cons b bytes =>
    rw [readTail] at h
    split at h
    · next within => exact ⟨b.toNat, within.1, within.2, readTail_bounds h⟩
    · cases h

namespace Lead

-- Where a first byte leaves room for an overlong form, a surrogate or too large a number, the
-- bounds of the second byte exclude it.
theorem code_high {b : UInt8} {lead : Lead} {bytes rest : List UInt8} {code : Nat}
    (high : 0x80 ≤ b.toNat) (first : ofByte? b = some lead)
    (later : readTail lead.count lead.least lead.greatest lead.bits bytes = (some code, rest)) :
    0x80 ≤ code ∧ code.isValidChar := by
  have byte := b.toNat_lt
  rw [Nat.isValidChar]
  simp only [ofByte?] at first
  split_ifs at first
  · omega
  all_goals
    cases first
    obtain ⟨next, least, greatest, low, high⟩ := readTail_second later
    norm_num only at least greatest low high
    omega

theorem least_high {b : UInt8} {lead : Lead} (first : ofByte? b = some lead) :
    0x80 ≤ lead.least := by
  simp only [ofByte?] at first
  split_ifs at first <;> cases first <;> simp

theorem ofByte?_low {b : UInt8} (low : b.toNat < 0x80) :
    ofByte? b = some ⟨0, 0x80, 0xBF, b.toNat⟩ := by
  rw [ofByte?, if_pos low]

end Lead

theorem toNat_ascii {n : Nat} (low : n < 0x80) : (Char.ofNat n).toNat = n := by
  rw [Char.toNat_ofNat, if_pos (.inl (by omega))]

theorem readChar_low {b : UInt8} (low : b.toNat < 0x80) (rest : List UInt8) :
    readChar b rest = (Char.ofNat b.toNat, rest) := by
  simp only [readChar, Lead.ofByte?_low low, readTail]

theorem readChar_high {b : UInt8} (high : 0x80 ≤ b.toNat) (rest : List UInt8) :
    0x80 ≤ (readChar b rest).1.toNat := by
  have broken : 0x80 ≤ replacement.toNat := by decide
  rw [readChar]
  split
  · exact broken
  · next lead first =>
    split
    · next code left later =>
      obtain ⟨least, valid⟩ := Lead.code_high high first later
      rwa [Char.toNat_ofNat, if_pos valid]
    · exact broken

theorem readTail_append {least : Nat} (later : 0x80 ≤ least) (count greatest bits : Nat)
    (bytes rest : List UInt8) {b : UInt8} (low : b.toNat < 0x80) :
    readTail count least greatest bits (bytes ++ b :: rest) =
      ((readTail count least greatest bits bytes).1,
        (readTail count least greatest bits bytes).2 ++ b :: rest) := by
  induction bytes generalizing count least greatest bits with
  | nil =>
    cases count with
    | zero => rfl
    | succ count =>
      have outside : ¬(least ≤ b.toNat ∧ b.toNat ≤ greatest) := by omega
      simp only [List.nil_append, readTail, if_neg outside]
  | cons x bytes ih =>
    cases count with
    | zero => rfl
    | succ count =>
      simp only [List.cons_append, readTail]
      split
      · exact ih (by decide) ..
      · rfl

theorem readChar_append (x : UInt8) (bytes rest : List UInt8) {b : UInt8} (low : b.toNat < 0x80) :
    readChar x (bytes ++ b :: rest) =
      ((readChar x bytes).1, (readChar x bytes).2 ++ b :: rest) := by
  simp only [readChar]
  split
  · rfl
  · next lead first =>
    rw [readTail_append (Lead.least_high first) _ _ _ _ _ low]
    rcases readTail lead.count lead.least lead.greatest lead.bits bytes with ⟨_ | code, left⟩ <;> rfl

theorem decodeLossy_append (bytes rest : List UInt8) {b : UInt8} (low : b.toNat < 0x80) :
    decodeLossy (bytes ++ b :: rest) = decodeLossy bytes ++ decodeLossy (b :: rest) := by
  fun_induction decodeLossy bytes with
  | case1 => rfl
  | case2 x bytes ih => rw [List.cons_append, decodeLossy, readChar_append _ _ _ low, ih]; rfl

theorem decodeLossy_low {b : UInt8} (low : b.toNat < 0x80) (rest : List UInt8) :
    decodeLossy (b :: rest) = Char.ofNat b.toNat :: decodeLossy rest := by
  rw [decodeLossy, readChar_low low]

theorem readTail_bytes {least : Nat} (later : 0x80 ≤ least) (count greatest bits : Nat)
    (bytes : List UInt8) :
    ∃ front, (∀ b ∈ front, 0x80 ≤ b.toNat) ∧
      bytes = front ++ (readTail count least greatest bits bytes).2 := by
  induction bytes generalizing count least greatest bits with
  | nil => exact ⟨[], List.forall_mem_nil _, by cases count <;> rfl⟩
  | cons x bytes ih =>
    cases count with
    | zero => exact ⟨[], List.forall_mem_nil _, rfl⟩
    | succ count =>
      rw [readTail]
      split
      · next within =>
        obtain ⟨front, high, parts⟩ := ih (Nat.le_refl 0x80) count 0xBF
          (bits * 64 + x.toNat % 64)
        exact ⟨x :: front, List.forall_mem_cons.mpr ⟨later.trans within.1, high⟩,
          congrArg (x :: ·) parts⟩
      · exact ⟨[], List.forall_mem_nil _, rfl⟩

theorem readChar_bytes (x : UInt8) (bytes : List UInt8) :
    ∃ front, (∀ b ∈ front, 0x80 ≤ b.toNat) ∧ bytes = front ++ (readChar x bytes).2 := by
  rw [readChar]
  split
  · exact ⟨[], List.forall_mem_nil _, rfl⟩
  · next lead first =>
    obtain ⟨front, high, parts⟩ :=
      readTail_bytes (Lead.least_high first) lead.count lead.greatest lead.bits bytes
    refine ⟨front, high, ?_⟩
    generalize readTail lead.count lead.least lead.greatest lead.bits bytes = tail at parts ⊢
    rcases tail with ⟨_ | code, left⟩ <;> exact parts

-- What a longer character takes of the bytes behind its first one is above 0x7F, as is the
-- character, so neither side counts it.
theorem count_decodeLossy {a : UInt8} (low : a.toNat < 0x80) (bytes : List UInt8) :
    (decodeLossy bytes).count (Char.ofNat a.toNat) = bytes.count a := by
  fun_induction decodeLossy bytes with
  | case1 => rfl
  | case2 x bytes ih =>
    rw [List.count_cons, List.count_cons, ih]
    by_cases ascii : x.toNat < 0x80
    · rw [readChar_low ascii]
      have same : Char.ofNat x.toNat = Char.ofNat a.toNat ↔ x = a := by
        refine ⟨fun h => UInt8.toNat_inj.mp ?_, fun h => h ▸ rfl⟩
        rw [← toNat_ascii ascii, h, toNat_ascii low]
      simp [same]
    · have high := readChar_high (Nat.not_lt.mp ascii) bytes
      obtain ⟨front, later, parts⟩ := readChar_bytes x bytes
      have differs : (readChar x bytes).1 ≠ Char.ofNat a.toNat := fun h => by
        rw [h, toNat_ascii low] at high
        omega
      have absent : front.count a = 0 := List.count_eq_zero.mpr fun h => by
        have := later a h
        omega
      have other : x ≠ a := fun h => ascii (h ▸ low)
      conv_rhs => rw [parts, List.count_append, absent, Nat.zero_add]
      simp [differs, other]

theorem count_encode {a : UInt8} (low : a.toNat < 0x80) (text : List Char) :
    (encode text).count a = text.count (Char.ofNat a.toNat) := by
  rw [← count_decodeLossy low, decodeLossy_encode]

theorem mem_encode {a : UInt8} (low : a.toNat < 0x80) {text : List Char} :
    a ∈ encode text ↔ Char.ofNat a.toNat ∈ text := by
  rw [← List.count_pos_iff, count_encode low, List.count_pos_iff]

theorem encode_bounded {least : Nat} (ascii : least ≤ 0x80) {text : List Char}
    (h : ∀ c ∈ text, least ≤ c.toNat) : ∀ b ∈ encode text, least ≤ b.toNat := by
  intro b hb
  by_cases low : b.toNat < 0x80
  · rw [← toNat_ascii low]
    exact h _ ((mem_encode low).mp hb)
  · omega

theorem encode_ne_zero {text : List Char} (noNul : '\x00' ∉ text) : ∀ b ∈ encode text, b ≠ 0 := by
  rintro b hb rfl
  exact noNul ((mem_encode (by decide)).mp hb)

theorem takeWhile_encode_append {text : List Char} (noNul : '\x00' ∉ text) (rest : List UInt8) :
    (encode text ++ rest).takeWhile (· ≠ 0) = encode text ++ rest.takeWhile (· ≠ 0) := by
  refine List.takeWhile_append_of_pos fun b hb => ?_
  simpa using encode_ne_zero noNul b hb

end FileTrace.Text
