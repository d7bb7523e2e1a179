import Mathlib
import FileTrace.Text.Numeral

namespace FileTrace.Numeral

structure Digits (text : List Char) (n : Nat) : Prop where
  some : text ≠ []
  digits : ∀ c ∈ text, c.isDigit = true
  value : Nat.ofDigitChars 10 text 0 = n

inductive Literal (bound : Nat) : List Char → Nat → Prop
  | plain {text : List Char} {n : Nat} : Digits text n → n < bound → Literal bound text n
  | signed {text : List Char} {n : Nat} : Digits text n → n < bound → Literal bound ('+' :: text) n

theorem digit?_eq (c : Char) :
    digit? c = if c.isDigit then some (c.toNat - '0'.toNat) else none := by
  simp [digit?, Char.isDigit, Char.le_def]

theorem le_ofDigitChars (text : List Char) (acc : Nat) : acc ≤ Nat.ofDigitChars 10 text acc := by
  induction text generalizing acc with
  | nil => exact le_rfl
  | cons c text ih =>
    rw [Nat.ofDigitChars_cons]
    exact le_trans (by omega) (ih _)

-- A prefix of the digits is worth no more than all of them: the first to reach the bound decides.
theorem accumulate_ok_iff {bound acc n : Nat} (small : acc < bound) (text : List Char) :
    accumulate bound acc text = .ok n ↔
      (∀ c ∈ text, c.isDigit = true) ∧ Nat.ofDigitChars 10 text acc = n ∧ n < bound := by
  induction text generalizing acc with
  | nil =>
    rw [accumulate, Except.ok.injEq, Nat.ofDigitChars_nil]
    exact ⟨fun same => ⟨nofun, same, same ▸ small⟩, fun h => h.2.1⟩
  | cons c text ih =>
    rw [accumulate, digit?_eq, Nat.ofDigitChars_cons, Nat.mul_comm 10 acc, List.forall_mem_cons]
    by_cases digit : c.isDigit
    · simp only [digit, if_true, true_and]
      split
      · rename_i fits
        exact ih fits
      · rename_i large
        refine iff_of_false nofun ?_
        rintro ⟨-, rfl, fits⟩
        exact large ((le_ofDigitChars text _).trans_lt fits)
    · simp [digit]

section

variable {bound n : Nat} {text : List Char}

theorem Digits.head_ne_plus (h : Digits text n) {rest : List Char} : text ≠ '+' :: rest := by
  rintro rfl
  exact absurd (h.digits '+' List.mem_cons_self) (by decide)

theorem accumulate_digits (h : Digits text n) (fits : n < bound) :
    accumulate bound 0 text = .ok n :=
  (accumulate_ok_iff (Nat.zero_lt_of_lt fits) text).mpr ⟨h.digits, h.value, fits⟩

theorem Literal.read (h : Literal bound text n) : Numeral.read bound text = .ok n := by
  cases h with
  | plain digits fits =>
    rw [Numeral.read, accumulate_digits digits fits]
    · exact digits.some
    · exact fun alone => digits.head_ne_plus alone
    · exact fun rest => digits.head_ne_plus
  | signed digits fits =>
    rw [Numeral.read, accumulate_digits digits fits]
    exact fun alone => digits.some alone

theorem literal_of_read (positive : 0 < bound) (h : Numeral.read bound text = .ok n) :
    Literal bound text n := by
  unfold Numeral.read at h
  split at h
  · cases h
  · cases h
  · rename_i digits notEmpty
    obtain ⟨all, value, fits⟩ := (accumulate_ok_iff positive digits).mp h
    exact .signed ⟨notEmpty, all, value⟩ fits
  · rename_i notEmpty _ _
    obtain ⟨all, value, fits⟩ := (accumulate_ok_iff positive text).mp h
    exact .plain ⟨notEmpty, all, value⟩ fits

theorem read_ok_iff (positive : 0 < bound) : Numeral.read bound text = .ok n ↔ Literal bound text n :=
  ⟨literal_of_read positive, Literal.read⟩

end

theorem digits_decimal (n : Nat) : Digits (decimal n) n where
  some := Nat.toDigits_ne_nil
  digits _ hc := Nat.isDigit_of_mem_toDigits (by decide) (by decide) hc
  value := Nat.ofDigitChars_ten_toDigits

inductive Obstacle (bound acc : Nat) (c : Char) : Fault → Prop
  | stray : c.isDigit = false → Obstacle bound acc c .invalidDigit
  | large : c.isDigit = true → bound ≤ Nat.ofDigitChars 10 [c] acc → Obstacle bound acc c .tooLarge

inductive Stops (bound acc : Nat) (text : List Char) (fault : Fault) : Prop
  | behind (front : List Char) (c : Char) (rest : List Char) : text = front ++ c :: rest →
      (∀ d ∈ front, d.isDigit = true) → Nat.ofDigitChars 10 front acc < bound →
      Obstacle bound (Nat.ofDigitChars 10 front acc) c fault → Stops bound acc text fault

inductive Broken (bound : Nat) : List Char → Fault → Prop
  | empty : Broken bound [] .empty
  | sign : Broken bound ['+'] .invalidDigit
  | signed {text : List Char} {fault : Fault} : Stops bound 0 text fault →
      Broken bound ('+' :: text) fault
  | plain {text : List Char} {fault : Fault} : text.head? ≠ some '+' → Stops bound 0 text fault →
      Broken bound text fault

section

variable {bound acc : Nat} {c : Char} {text : List Char} {fault : Fault}

theorem Stops.ne_nil (h : Stops bound acc text fault) : text ≠ [] := by
  rintro rfl
  obtain ⟨front, c, rest, parts, -⟩ := h
  simp at parts

theorem stops_cons (small : acc < bound) :
    Stops bound acc (c :: text) fault ↔
      Obstacle bound acc c fault ∨ c.isDigit = true ∧ Nat.ofDigitChars 10 [c] acc < bound ∧
        Stops bound (Nat.ofDigitChars 10 [c] acc) text fault := by
  constructor
  · rintro ⟨front, d, rest, parts, digits, fits, obstacle⟩
    cases front with
    | nil =>
      cases parts
      exact .inl obstacle
    | cons first front =>
      cases parts
      have next := (le_ofDigitChars front (Nat.ofDigitChars 10 [c] acc)).trans_lt fits
      obtain ⟨digit, digits⟩ := List.forall_mem_cons.mp digits
      exact .inr ⟨digit, next, front, d, rest, rfl, digits, fits, obstacle⟩
  · rintro (obstacle | ⟨digit, -, front, d, rest, parts, digits, fits, obstacle⟩)
    · exact ⟨[], c, text, rfl, nofun, small, obstacle⟩
    · exact ⟨c :: front, d, rest, congrArg _ parts, List.forall_mem_cons.mpr ⟨digit, digits⟩, fits,
        obstacle⟩

theorem obstacle_stray (other : c.isDigit = false) :
    Obstacle bound acc c fault ↔ fault = .invalidDigit := by
  constructor
  · rintro (_ | ⟨digit, _⟩)
    · rfl
    · rw [other] at digit
      cases digit
  · rintro rfl
    exact .stray other

theorem obstacle_digit (digit : c.isDigit = true) :
    Obstacle bound acc c fault ↔ bound ≤ Nat.ofDigitChars 10 [c] acc ∧ fault = .tooLarge := by
  constructor
  · rintro (other | ⟨_, large⟩)
    · rw [other] at digit
      cases digit
    · exact ⟨large, rfl⟩
  · rintro ⟨large, rfl⟩
    exact .large digit large

theorem accumulate_error_iff (small : acc < bound) (text : List Char) :
    accumulate bound acc text = .error fault ↔ Stops bound acc text fault := by
  induction text generalizing acc with
  | nil => exact iff_of_false nofun fun h => h.ne_nil rfl
  | cons c text ih =>
    have next : Nat.ofDigitChars 10 [c] acc = acc * 10 + (c.toNat - '0'.toNat) := by
      rw [Nat.ofDigitChars_cons, Nat.ofDigitChars_nil, Nat.mul_comm]
    rw [accumulate, digit?_eq, stops_cons small]
    by_cases digit : c.isDigit
    · rw [obstacle_digit digit, next]
      simp only [digit, if_true, true_and]
      split
      · rename_i fits
        rw [ih fits, and_iff_right fits]
        exact (or_iff_right fun beyond => absurd fits (Nat.not_lt.mpr beyond.1)).symm
      · rename_i large
        rw [Except.error.injEq, and_iff_right (Nat.not_lt.mp large), eq_comm]
        exact (or_iff_left fun later => large later.1).symm
    · rw [obstacle_stray (Bool.eq_false_iff.mpr digit)]
      simp [digit, eq_comm]

theorem Broken.read (positive : 0 < bound) (h : Broken bound text fault) :
    Numeral.read bound text = .error fault := by
  cases h with
  | empty => rfl
  | sign => rfl
  | signed stops =>
    rw [Numeral.read]
    · exact (accumulate_error_iff positive _).mpr stops
    · exact fun alone => stops.ne_nil alone
  | plain unsigned stops =>
    rw [Numeral.read]
    · exact (accumulate_error_iff positive _).mpr stops
    · exact stops.ne_nil
    · rintro rfl
      exact unsigned rfl
    · rintro rest rfl
      exact unsigned rfl

theorem broken_of_read (positive : 0 < bound) (h : Numeral.read bound text = .error fault) :
    Broken bound text fault := by
  unfold Numeral.read at h
  split at h
  · cases h
    exact .empty
  · cases h
    exact .sign
  · exact .signed ((accumulate_error_iff positive _).mp h)
  · rename_i notEmpty alone unsigned
    refine .plain ?_ ((accumulate_error_iff positive _).mp h)
    intro plus
    obtain ⟨rest, rfl⟩ := List.head?_eq_some_iff.mp plus
    exact unsigned rest rfl

theorem read_error_iff (positive : 0 < bound) :
    Numeral.read bound text = .error fault ↔ Broken bound text fault :=
  ⟨broken_of_read positive, Broken.read positive⟩

end

theorem Literal.hyphen_not_mem {bound n : Nat} {text : List Char} (h : Literal bound text n) :
    '-' ∉ text := by
  intro inside
  cases h with
  | plain digits => exact absurd (digits.digits '-' inside) (by decide)
  | signed digits =>
    rcases List.mem_cons.mp inside with sign | inside
    · exact absurd sign (by decide)
    · exact absurd (digits.digits '-' inside) (by decide)

theorem Literal.exists_word {n : Nat} {text : List Char} (h : Literal word32 text n) :
    ∃ m : UInt32, m.toNat = n := by
  cases h with
  | plain _ fits => exact ⟨UInt32.ofNat n, UInt32.toNat_ofNat_of_lt' fits⟩
  | signed _ fits => exact ⟨UInt32.ofNat n, UInt32.toNat_ofNat_of_lt' fits⟩

theorem word_or_broken (text : List Char) :
    (∃ n : UInt32, Literal word32 text n.toNat) ∨ ∃ fault, Broken word32 text fault := by
  cases read : Numeral.read word32 text with
  | ok n =>
    have literal := (read_ok_iff (by decide)).mp read
    obtain ⟨m, rfl⟩ := literal.exists_word
    exact .inl ⟨m, literal⟩
  | error fault => exact .inr ⟨fault, (read_error_iff (by decide)).mp read⟩

theorem mem_toDigits {base n : Nat} (low : 1 < base) {c : Char} (h : c ∈ Nat.toDigits base n) :
    ∃ d < base, c = Nat.digitChar d := by
  induction n using Nat.strong_induction_on with
  | _ n ih =>
    by_cases short : n < base
    · rw [Nat.toDigits_of_lt_base short, List.mem_singleton] at h
      exact ⟨n, short, h⟩
    · rw [Nat.toDigits_of_base_le low (Nat.not_lt.mp short), List.mem_append,
        List.mem_singleton] at h
      rcases h with front | last
      · exact ih (n / base) (Nat.div_lt_self (by omega) low) front
      · exact ⟨n % base, Nat.mod_lt n (by omega), last⟩

def nibble (c : Char) : Nat := if c.isDigit then c.toNat - '0'.toNat else c.toNat - 'a'.toNat + 10

def ofHex (text : List Char) : Nat := text.foldl (fun n c => n * 16 + nibble c) 0

theorem nibble_digitChar : ∀ d < 16, nibble (Nat.digitChar d) = d := by decide

theorem ofHex_toDigits (n : Nat) : ofHex (Nat.toDigits 16 n) = n := by
  induction n using Nat.strong_induction_on with
  | _ n ih =>
    by_cases short : n < 16
    · rw [Nat.toDigits_of_lt_base short, ofHex, List.foldl_cons, nibble_digitChar n short,
        List.foldl_nil, Nat.zero_mul, Nat.zero_add]
    · have front := ih (n / 16) (by omega)
      rw [ofHex] at front
      rw [Nat.toDigits_of_base_le (by decide) (Nat.not_lt.mp short), ofHex, List.foldl_append,
        front, List.foldl_cons, List.foldl_nil, nibble_digitChar _ (Nat.mod_lt n (by decide))]
      omega

theorem ofHex_hex (width n : Nat) : ofHex (hex width n) = n := by
  have zeros (count : Nat) :
      (List.replicate count '0').foldl (fun n c => n * 16 + nibble c) 0 = 0 := by
    induction count with
    | zero => rfl
    | succ count ih => exact ih
  rw [hex, ofHex, List.foldl_append, zeros]
  exact ofHex_toDigits n

end FileTrace.Numeral
