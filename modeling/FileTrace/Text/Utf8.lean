namespace FileTrace.Text

structure Lead where
  count : Nat
  least : Nat
  greatest : Nat
  bits : Nat
  deriving DecidableEq, Repr

/-- Later bytes of a character lie between these bounds; only the first of them may be bounded
more tightly, which keeps out overlong forms, surrogates and code points above U+10FFFF. -/
def Lead.ofByte? (b : UInt8) : Option Lead :=
  let n := b.toNat
  if n < 0x80 then some ⟨0, 0x80, 0xBF, n⟩
  else if n < 0xC2 then none
  else if n < 0xE0 then some ⟨1, 0x80, 0xBF, n - 0xC0⟩
  else if n = 0xE0 then some ⟨2, 0xA0, 0xBF, 0⟩
  else if n = 0xED then some ⟨2, 0x80, 0x9F, 0xD⟩
  else if n < 0xF0 then some ⟨2, 0x80, 0xBF, n - 0xE0⟩
  else if n = 0xF0 then some ⟨3, 0x90, 0xBF, 0⟩
  else if n < 0xF4 then some ⟨3, 0x80, 0xBF, n - 0xF0⟩
  else if n = 0xF4 then some ⟨3, 0x80, 0x8F, 4⟩
  else none

def readTail (count least greatest bits : Nat) (bytes : List UInt8) : Option Nat × List UInt8 :=
  match count, bytes with
  | 0, bytes => (some bits, bytes)
  | _ + 1, [] => (none, [])
  | count + 1, b :: rest =>
    if least ≤ b.toNat ∧ b.toNat ≤ greatest then
      readTail count 0x80 0xBF (bits * 64 + b.toNat % 64) rest
    else (none, b :: rest)

theorem length_readTail_le (count least greatest bits : Nat) (bytes : List UInt8) :
    (readTail count least greatest bits bytes).2.length ≤ bytes.length := by
  induction count generalizing least greatest bits bytes with
  | zero => simp [readTail]
  | succ count ih =>
      cases bytes with
      | nil => simp [readTail]
      | cons b rest =>
          simp only [readTail]
          split
          · exact Nat.le_trans (ih ..) (by simp)
          · simp

def replacement : Char := '\ufffd'

def readChar (b : UInt8) (rest : List UInt8) : Char × List UInt8 :=
  match Lead.ofByte? b with
  | none => (replacement, rest)
  | some lead =>
    match readTail lead.count lead.least lead.greatest lead.bits rest with
    | (some code, rest) => (Char.ofNat code, rest)
    | (none, rest) => (replacement, rest)

theorem length_readChar_le (b : UInt8) (rest : List UInt8) :
    (readChar b rest).2.length ≤ rest.length := by
  unfold readChar
  split
  · simp
  · next lead _ =>
      have h := length_readTail_le lead.count lead.least lead.greatest lead.bits rest
      split <;> simp_all

def decodeLossy : List UInt8 → List Char
  | [] => []
  | b :: rest => (readChar b rest).1 :: decodeLossy (readChar b rest).2
termination_by bytes => bytes.length
decreasing_by exact Nat.lt_succ_of_le (length_readChar_le b rest)

def encode (text : List Char) : List UInt8 :=
  text.flatMap String.utf8EncodeChar

theorem encode_append (s t : List Char) : encode (s ++ t) = encode s ++ encode t := by
  simp [encode]

def ofBuffer (buffer : List UInt8) : String :=
  String.ofList (decodeLossy (buffer.takeWhile (· ≠ 0)))

end FileTrace.Text
