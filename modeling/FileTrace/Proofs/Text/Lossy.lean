import FileTrace.Proofs.Text.Ascii

namespace FileTrace.Text

def Starts (bytes : List UInt8) : Prop := ∃ c : Char, bytes <+: String.utf8EncodeChar c

/-- No character stands at the front of `piece ++ rest`, and no longer front begins one. -/
structure Torn (piece rest : List UInt8) : Prop where
  noCharacter : ∀ c : Char, ¬ String.utf8EncodeChar c <+: piece ++ rest
  begun : Starts piece ∨ piece.length = 1
  some : piece ≠ []
  longest : ∀ front, front <+: piece ++ rest → Starts front → front.length ≤ piece.length

inductive Piece (rest : List UInt8) : List UInt8 → Char → Prop
  | whole (c : Char) : Piece rest (String.utf8EncodeChar c) c
  | torn {piece : List UInt8} : Torn piece rest → Piece rest piece '\ufffd'

inductive Reads : List UInt8 → List Char → Prop
  | nil : Reads [] []
  | cons {piece rest : List UInt8} {c : Char} {text : List Char} :
      Piece rest piece c → Reads rest text → Reads (piece ++ rest) (c :: text)

inductive Later : Nat → Nat → List UInt8 → Prop
  | nil {least greatest : Nat} : Later least greatest []
  | cons {least greatest : Nat} {b : UInt8} {bytes : List UInt8} :
      least ≤ b.toNat → b.toNat ≤ greatest → Later 0x80 0xBF bytes →
      Later least greatest (b :: bytes)

def codePoint (bits : Nat) (later : List UInt8) : Nat :=
  later.foldl (fun n b => n * 64 + b.toNat % 64) bits

section

variable {count least greatest bits n : Nat} {b : UInt8} {bytes front more rest : List UInt8}

theorem later_cons :
    Later least greatest (b :: bytes) ↔
      (least ≤ b.toNat ∧ b.toNat ≤ greatest) ∧ Later 0x80 0xBF bytes := by
  constructor
  · intro h
    cases h with
    | cons low high later => exact ⟨⟨low, high⟩, later⟩
  · rintro ⟨⟨low, high⟩, later⟩
    exact .cons low high later

theorem Later.of_append (h : Later least greatest (front ++ more)) :
    Later least greatest front := by
  induction front generalizing least greatest with
  | nil => exact .nil
  | cons b front ih =>
    rw [List.cons_append, later_cons] at h
    exact later_cons.mpr ⟨h.1, ih h.2⟩

theorem later_replicate (count : Nat) : Later 0x80 0xBF (List.replicate count 0x80) := by
  induction count with
  | zero => exact .nil
  | succ count ih => exact .cons (by decide) (by decide) ih

theorem Later.completed (h : Later least greatest front) (ordered : least ≤ greatest)
    (byte : greatest ≤ 0xBF) (short : front.length ≤ count) :
    ∃ more, (front ++ more).length = count ∧ Later least greatest (front ++ more) := by
  induction h generalizing count with
  | @nil least greatest =>
    cases count with
    | zero => exact ⟨[], rfl, .nil⟩
    | succ count =>
      have first : (UInt8.ofNat least).toNat = least := toNat_byte (by omega)
      exact ⟨UInt8.ofNat least :: List.replicate count 0x80, by simp,
        .cons (by omega) (by omega) (later_replicate count)⟩
  | @cons least greatest b bytes low high _ ih =>
    obtain ⟨count, rfl⟩ : ∃ n, count = n + 1 := Nat.exists_eq_add_one.mpr (Nat.zero_lt_of_lt short)
    obtain ⟨more, length, later⟩ := ih (by decide) (by decide) (Nat.le_of_succ_le_succ short)
    exact ⟨more, congrArg (· + 1) length, .cons low high later⟩

theorem readTail_later (bits : Nat) (h : Later least greatest bytes) (rest : List UInt8) :
    readTail bytes.length least greatest bits (bytes ++ rest) =
      (some (codePoint bits bytes), rest) := by
  induction h generalizing bits with
  | nil => rfl
  | cons low high _ ih =>
    rw [List.cons_append, List.length_cons, readTail, if_pos ⟨low, high⟩, ih]
    rfl

theorem later_of_readTail (h : readTail count least greatest bits bytes = (some n, rest)) :
    ∃ later, bytes = later ++ rest ∧ later.length = count ∧ Later least greatest later := by
  induction count generalizing least greatest bits bytes with
  | zero =>
    rw [readTail, Prod.mk.injEq] at h
    exact ⟨[], h.2, rfl, .nil⟩
  | succ count ih =>
    cases bytes with
    | nil => cases h
    | cons b bytes =>
      rw [readTail] at h
      split at h
      · next within =>
        obtain ⟨later, rfl, length, inside⟩ := ih h
        exact ⟨b :: later, rfl, congrArg (· + 1) length, later_cons.mpr ⟨within, inside⟩⟩
      · cases h

-- Reading ends in front of the first byte that could not stand there, or at the end of the bytes.
theorem front_of_readTail (h : readTail count least greatest bits bytes = (none, rest)) :
    ∃ front, bytes = front ++ rest ∧ front.length < count ∧ Later least greatest front ∧
      ∀ longer, longer <+: bytes → Later least greatest longer →
        longer.length ≤ front.length := by
  induction count generalizing least greatest bits bytes with
  | zero => cases h
  | succ count ih =>
    cases bytes with
    | nil =>
      cases h
      refine ⟨[], rfl, Nat.succ_pos count, .nil, fun longer before _ => ?_⟩
      rw [List.prefix_nil.mp before]
    | cons b bytes =>
      rw [readTail] at h
      split at h
      · next within =>
        obtain ⟨front, parts, short, inside, longest⟩ := ih h
        refine ⟨b :: front, congrArg (b :: ·) parts, Nat.succ_lt_succ short,
          later_cons.mpr ⟨within, inside⟩, fun longer before later => ?_⟩
        rcases List.prefix_cons_iff.mp before with rfl | ⟨more, rfl, inner⟩
        · exact Nat.zero_le _
        · exact Nat.succ_le_succ (longest more inner (later_cons.mp later).2)
      · next outside =>
        cases h
        refine ⟨[], rfl, Nat.succ_pos count, .nil, fun longer before later => ?_⟩
        rcases List.prefix_cons_iff.mp before with rfl | ⟨more, rfl, -⟩
        · exact Nat.le_refl 0
        · exact absurd (later_cons.mp later).1 outside

end

namespace Lead

variable {b : UInt8} {lead : Lead}

theorem bounds (h : ofByte? b = some lead) :
    lead.least ≤ lead.greatest ∧ lead.greatest ≤ 0xBF := by
  simp only [ofByte?] at h
  split_ifs at h <;> cases h <;> simp

theorem lengths (h : ofByte? b = some lead) :
    (lead.count = 0 ∧ lead.bits = b.toNat ∧ b.toNat < 0x80) ∨
      (lead.count = 1 ∧ lead.bits + 0xC0 = b.toNat ∧ 2 ≤ lead.bits ∧ lead.bits < 0x20) ∨
      (lead.count = 2 ∧ lead.bits + 0xE0 = b.toNat ∧ 0xA0 ≤ lead.bits * 64 + lead.least ∧
        lead.bits < 0x10) ∨
      (lead.count = 3 ∧ lead.bits + 0xF0 = b.toNat ∧ 0x90 ≤ lead.bits * 64 + lead.least ∧
        lead.bits < 8) := by
  simp only [ofByte?] at h
  split_ifs at h <;> cases h <;> simp <;> omega

end Lead

theorem ofNat_eq (b : UInt8) {n : Nat} (h : n = b.toNat) : UInt8.ofNat n = b := by
  rw [h, UInt8.ofNat_toNat]

section

variable {b : UInt8} {later front bytes rest piece : List UInt8} {lead : Lead} {c : Char}

theorem encodeChar_of_later (first : Lead.ofByte? b = some lead)
    (length : later.length = lead.count) (inside : Later lead.least lead.greatest later)
    (value : c.toNat = codePoint lead.bits later) : String.utf8EncodeChar c = b :: later := by
  have least := Lead.least_high first
  obtain ⟨ordered, greatest⟩ := Lead.bounds first
  rw [Char.toNat] at value
  rcases Lead.lengths first with ⟨count, bits, low⟩ | ⟨count, bits, low, high⟩ |
    ⟨count, bits, low, high⟩ | ⟨count, bits, low, high⟩ <;> rw [count] at length
  · rw [List.length_eq_zero_iff] at length
    subst length
    rw [codePoint, List.foldl_nil] at value
    rw [String.utf8EncodeChar, if_pos (by omega), ofNat_eq b (by omega)]
  · obtain ⟨x, rfl⟩ := List.length_eq_one_iff.mp length
    obtain ⟨second, -⟩ := later_cons.mp inside
    simp only [codePoint, List.foldl] at value
    rw [String.utf8EncodeChar, if_neg (by omega), if_pos (by omega), ofNat_eq b (by omega),
      ofNat_eq x (by omega)]
  · obtain ⟨x, y, rfl⟩ := List.length_eq_two.mp length
    obtain ⟨second, inside⟩ := later_cons.mp inside
    obtain ⟨third, -⟩ := later_cons.mp inside
    simp only [codePoint, List.foldl] at value
    rw [String.utf8EncodeChar, if_neg (by omega), if_neg (by omega), if_pos (by omega),
      ofNat_eq b (by omega), ofNat_eq x (by omega), ofNat_eq y (by omega)]
  · obtain ⟨x, y, z, rfl⟩ := List.length_eq_three.mp length
    obtain ⟨second, inside⟩ := later_cons.mp inside
    obtain ⟨third, inside⟩ := later_cons.mp inside
    obtain ⟨fourth, -⟩ := later_cons.mp inside
    simp only [codePoint, List.foldl] at value
    rw [String.utf8EncodeChar, if_neg (by omega), if_neg (by omega), if_neg (by omega),
      ofNat_eq b (by omega), ofNat_eq x (by omega), ofNat_eq y (by omega), ofNat_eq z (by omega)]

theorem encodeChar_code (first : Lead.ofByte? b = some lead) (length : later.length = lead.count)
    (inside : Later lead.least lead.greatest later) :
    String.utf8EncodeChar (Char.ofNat (codePoint lead.bits later)) = b :: later := by
  refine encodeChar_of_later first length inside ?_
  rw [Char.toNat_ofNat]
  by_cases ascii : b.toNat < 0x80
  · rw [Lead.ofByte?_low ascii] at first
    cases first
    rw [List.length_eq_zero_iff] at length
    subst length
    have valid : b.toNat.isValidChar := .inl (ascii.trans (by decide))
    exact if_pos valid
  · have read := readTail_later lead.bits inside []
    rw [length, List.append_nil] at read
    rw [if_pos (Lead.code_high (Nat.not_lt.mp ascii) first read).2]

theorem later_encodeChar (h : String.utf8EncodeChar c = b :: later) :
    ∃ lead, Lead.ofByte? b = some lead ∧ later.length = lead.count ∧
      Later lead.least lead.greatest later := by
  obtain ⟨b', later', lead, written, first, read⟩ := encodeChar_parts c
  rw [written, List.cons.injEq] at h
  obtain ⟨rfl, rfl⟩ := h
  obtain ⟨bytes, parts, length, inside⟩ := later_of_readTail (read [])
  rw [List.append_cancel_right_eq] at parts
  exact ⟨lead, first, parts ▸ length, parts ▸ inside⟩

theorem starts_cons : Starts (b :: front) ↔
    ∃ lead, Lead.ofByte? b = some lead ∧ front.length ≤ lead.count ∧
      Later lead.least lead.greatest front := by
  constructor
  · rintro ⟨c, more, written⟩
    obtain ⟨lead, first, length, inside⟩ := later_encodeChar written.symm
    exact ⟨lead, first, length ▸ (List.prefix_append front more).length_le, inside.of_append⟩
  · rintro ⟨lead, first, short, inside⟩
    obtain ⟨ordered, byte⟩ := Lead.bounds first
    obtain ⟨more, length, whole⟩ := inside.completed ordered byte short
    exact ⟨_, more, (encodeChar_code first length whole).symm⟩

theorem torn_single (notLead : Lead.ofByte? b = none) (rest : List UInt8) : Torn [b] rest := by
  have stray (front : List UInt8) (starts : Starts (b :: front)) : False := by
    obtain ⟨lead, first, -⟩ := starts_cons.mp starts
    rw [notLead] at first
    cases first
  refine ⟨fun c before => ?_, .inr rfl, List.cons_ne_nil b [], fun front before starts => ?_⟩
  · rcases List.prefix_cons_iff.mp before with nothing | ⟨later, written, -⟩
    · exact String.utf8EncodeChar_ne_nil nothing
    · exact stray later ⟨c, written ▸ List.prefix_refl _⟩
  · rcases List.prefix_cons_iff.mp before with rfl | ⟨more, rfl, -⟩
    · exact Nat.zero_le 1
    · exact absurd starts (stray more)

theorem torn_front (first : Lead.ofByte? b = some lead) (short : front.length < lead.count)
    (inside : Later lead.least lead.greatest front)
    (longest : ∀ longer, longer <+: front ++ rest → Later lead.least lead.greatest longer →
      longer.length ≤ front.length) : Torn (b :: front) rest := by
  refine ⟨fun c before => ?_, .inl (starts_cons.mpr ⟨lead, first, Nat.le_of_lt short, inside⟩),
    List.cons_ne_nil b front, fun longer before starts => ?_⟩
  · rcases List.prefix_cons_iff.mp before with nothing | ⟨later, written, before⟩
    · exact String.utf8EncodeChar_ne_nil nothing
    · obtain ⟨lead', first', length, whole⟩ := later_encodeChar written
      obtain rfl : lead = lead' := Option.some.inj (first.symm.trans first')
      have most := longest later before whole
      omega
  · rcases List.prefix_cons_iff.mp before with rfl | ⟨more, rfl, inner⟩
    · exact Nat.zero_le _
    · obtain ⟨lead', first', -, later⟩ := starts_cons.mp starts
      obtain rfl : lead = lead' := Option.some.inj (first.symm.trans first')
      exact Nat.succ_le_succ (longest more inner later)

theorem readChar_piece (b : UInt8) (bytes : List UInt8) :
    ∃ piece, b :: bytes = piece ++ (readChar b bytes).2 ∧
      Piece (readChar b bytes).2 piece (readChar b bytes).1 := by
  rw [readChar]
  split
  · next notLead => exact ⟨[b], rfl, .torn (torn_single notLead bytes)⟩
  · next lead first =>
    split
    · next n rest read =>
      obtain ⟨later, rfl, length, inside⟩ := later_of_readTail read
      rw [← length, readTail_later _ inside, Prod.mk.injEq, Option.some.injEq] at read
      obtain ⟨rfl, -⟩ := read
      have written := encodeChar_code first length inside
      exact ⟨b :: later, rfl, written ▸ .whole _⟩
    · next rest read =>
      obtain ⟨front, rfl, short, inside, longest⟩ := front_of_readTail read
      exact ⟨b :: front, rfl, .torn (torn_front first short inside longest)⟩

end

theorem Torn.length_le {piece rest piece' rest' : List UInt8} (h : Torn piece rest)
    (h' : Torn piece' rest') (same : piece ++ rest = piece' ++ rest') :
    piece.length ≤ piece'.length := by
  rcases h.begun with starts | single
  · exact h'.longest piece (same ▸ List.prefix_append piece rest) starts
  · rw [single]
    exact List.length_pos_of_ne_nil h'.some

theorem Piece.unique {piece rest piece' rest' : List UInt8} {c c' : Char} (h : Piece rest piece c)
    (h' : Piece rest' piece' c') (same : piece ++ rest = piece' ++ rest') :
    rest = rest' ∧ c = c' := by
  cases h with
  | whole =>
    cases h' with
    | whole =>
      obtain ⟨b, bytes, written, read⟩ := read_encodeChar c rest
      obtain ⟨b', bytes', written', read'⟩ := read_encodeChar c' rest'
      rw [written, written', List.cons_append, List.cons_append, List.cons.injEq] at same
      rw [same.1, same.2, read', Prod.mk.injEq] at read
      exact ⟨read.2.symm, read.1.symm⟩
    | torn torn => exact absurd (same ▸ List.prefix_append _ rest) (torn.noCharacter c)
  | torn torn =>
    cases h' with
    | whole => exact absurd (same ▸ List.prefix_append _ rest') (torn.noCharacter c')
    | torn torn' =>
      have length := Nat.le_antisymm (torn.length_le torn' same) (torn'.length_le torn same.symm)
      exact ⟨(List.append_inj same length).2, rfl⟩

theorem Piece.ne_nil {piece rest : List UInt8} {c : Char} (h : Piece rest piece c) :
    piece ≠ [] := by
  cases h with
  | whole => exact String.utf8EncodeChar_ne_nil
  | torn torn => exact torn.some

theorem Reads.cases {bytes : List UInt8} {text : List Char} (h : Reads bytes text) :
    (bytes = [] ∧ text = []) ∨ ∃ piece rest c later, bytes = piece ++ rest ∧ text = c :: later ∧
      Piece rest piece c ∧ Reads rest later := by
  cases h with
  | nil => exact .inl ⟨rfl, rfl⟩
  | cons piece later => exact .inr ⟨_, _, _, _, rfl, rfl, piece, later⟩

theorem Reads.unique {bytes : List UInt8} {text other : List Char} (h : Reads bytes text)
    (ho : Reads bytes other) : text = other := by
  induction h generalizing other with
  | nil =>
    rcases ho.cases with ⟨-, rfl⟩ | ⟨piece, rest, c, later, parts, -, reading, -⟩
    · rfl
    · exact absurd (List.append_eq_nil_iff.mp parts.symm).1 reading.ne_nil
  | cons reading _ ih =>
    rcases ho.cases with ⟨empty, -⟩ | ⟨piece', rest', c', later', parts, rfl, reading', others⟩
    · exact absurd (List.append_eq_nil_iff.mp empty).1 reading.ne_nil
    · obtain ⟨rfl, rfl⟩ := reading.unique reading' parts
      rw [ih others]

theorem reads_decodeLossy (bytes : List UInt8) : Reads bytes (decodeLossy bytes) := by
  fun_induction decodeLossy bytes with
  | case1 => exact .nil
  | case2 b bytes ih =>
    obtain ⟨piece, parts, reading⟩ := readChar_piece b bytes
    rw [parts]
    exact .cons reading ih

theorem reads_iff {bytes : List UInt8} {text : List Char} :
    Reads bytes text ↔ text = decodeLossy bytes := by
  refine ⟨fun h => h.unique (reads_decodeLossy bytes), ?_⟩
  rintro rfl
  exact reads_decodeLossy bytes

theorem length_decodeLossy_le (bytes : List UInt8) :
    (decodeLossy bytes).length ≤ bytes.length := by
  fun_induction decodeLossy bytes with
  | case1 => exact Nat.le_refl 0
  | case2 b bytes ih => exact Nat.succ_le_succ (ih.trans (length_readChar_le b bytes))

def utf8 (text : String) : List UInt8 := text.toUTF8.data.toList

theorem utf8_eq (text : String) : utf8 text = encode text.toList := by
  rw [utf8, String.toUTF8_eq_toByteArray, ← String.utf8Encode_toList, List.utf8Encode,
    List.toList_data_toByteArray, encode]

structure Content (buffer content : List UInt8) : Prop where
  noNul : 0 ∉ content
  ended : buffer = content ∨ ∃ rest, buffer = content ++ 0 :: rest

theorem content_iff {buffer content : List UInt8} :
    Content buffer content ↔ content = buffer.takeWhile (· ≠ 0) := by
  constructor
  · rintro ⟨noNul, ended⟩
    have kept : ∀ b ∈ content, decide (b ≠ 0) = true := fun b hb =>
      decide_eq_true fun zero => noNul (zero ▸ hb)
    rcases ended with rfl | ⟨rest, rfl⟩
    · exact (List.takeWhile_eq_self_iff.mpr kept).symm
    · rw [List.takeWhile_append_of_pos kept]
      simp
  · rintro rfl
    refine ⟨fun inside => by simpa using List.mem_takeWhile_imp inside, ?_⟩
    have parts := List.takeWhile_append_dropWhile (p := fun b : UInt8 => decide (b ≠ 0)) (l := buffer)
    have next := List.head?_dropWhile_not (fun b : UInt8 => decide (b ≠ 0)) buffer
    cases behind : buffer.dropWhile (· ≠ 0) with
    | nil =>
      rw [behind, List.append_nil] at parts
      exact .inl parts.symm
    | cons b rest =>
      rw [behind] at parts next
      obtain rfl : b = 0 := by simpa using next
      exact .inr ⟨rest, parts.symm⟩

structure Faithful (content : List UInt8) (text : String) : Prop where
  valid : (∃ s, utf8 s = content) → utf8 text = content
  reads : ∀ s, Reads content s ↔ s = text.toList
  front : ∀ s rest, content = utf8 s ++ rest →
    ∃ later, Reads rest later ∧ text.toList = s.toList ++ later
  noNul : '\x00' ∉ text.toList
  short : text.length ≤ content.length

theorem faithful_decodeLossy {content : List UInt8} (noNul : 0 ∉ content) :
    Faithful content (String.ofList (decodeLossy content)) where
  valid := by
    rintro ⟨s, rfl⟩
    rw [utf8_eq, utf8_eq, String.toList_ofList, decodeLossy_encode]
  reads s := by rw [reads_iff, String.toList_ofList]
  front s rest parts := by
    refine ⟨decodeLossy rest, reads_decodeLossy rest, ?_⟩
    rw [String.toList_ofList, parts, utf8_eq, decodeLossy_encode_append]
  noNul := by
    have uncounted := count_decodeLossy (a := 0) (by decide) content
    rw [List.count_eq_zero.mpr noNul] at uncounted
    rw [String.toList_ofList]
    exact List.count_eq_zero.mp uncounted
  short := by
    rw [String.length_ofList]
    exact length_decodeLossy_le content

def ReadFrom (buffer : List UInt8) (text : String) : Prop :=
  ∃ content, (∀ other, Content buffer other ↔ other = content) ∧ Faithful content text

theorem readFrom_ofBuffer (buffer : List UInt8) : ReadFrom buffer (ofBuffer buffer) := by
  refine ⟨buffer.takeWhile (· ≠ 0), fun other => content_iff, ?_⟩
  exact faithful_decodeLossy (content_iff.mpr rfl).noNul

end FileTrace.Text
