import FileTrace.Json
import FileTrace.Proofs.Text.Printable

namespace FileTrace.Json

inductive Role where
  | name
  | value (name : String)
  deriving DecidableEq, Repr

inductive Place where
  | opened
  | text (role : Role) (read : List Char)
  | escape (role : Role) (read : List Char)
  | code (role : Role) (read : List Char) (left value : Nat)
  | named (name : String)
  | colon (name : String)
  | number (name : String) (value : Nat)
  | valued
  | comma
  | closed
  deriving DecidableEq, Repr

structure Reader where
  fields : List (String × Scalar)
  place : Place
  deriving DecidableEq, Repr

def isSpace (c : Char) : Bool := c = ' ' || c = '\t' || c = '\n' || c = '\r'

def hexDigit? (c : Char) : Option Nat :=
  if '0' ≤ c ∧ c ≤ '9' then some (c.toNat - '0'.toNat)
  else if 'a' ≤ c ∧ c ≤ 'f' then some (c.toNat - 'a'.toNat + 10)
  else if 'A' ≤ c ∧ c ≤ 'F' then some (c.toNat - 'A'.toNat + 10)
  else none

def unescape? (c : Char) : Option Char :=
  if c = '"' ∨ c = '\\' ∨ c = '/' then some c
  else if c = 'b' then some '\x08'
  else if c = 't' then some '\t'
  else if c = 'n' then some '\n'
  else if c = 'f' then some '\x0c'
  else if c = 'r' then some '\r'
  else none

namespace Reader

def skip (r : Reader) (c : Char) : Option Reader := if isSpace c then some r else none

def endText (fields : List (String × Scalar)) (read : List Char) : Role → Reader
  | .name => ⟨fields, .named (String.ofList read)⟩
  | .value name => ⟨fields ++ [(name, .text (String.ofList read))], .valued⟩

def afterValue (fields : List (String × Scalar)) (c : Char) : Option Reader :=
  if c = ',' then some ⟨fields, .comma⟩
  else if c = '\x7d' then some ⟨fields, .closed⟩
  else skip ⟨fields, .valued⟩ c

def step (r : Reader) (c : Char) : Option Reader :=
  match r.place with
  | .opened =>
    if c = '"' then some ⟨r.fields, .text .name []⟩
    else if c = '\x7d' then some ⟨r.fields, .closed⟩
    else r.skip c
  | .text role read =>
    if c = '"' then some (endText r.fields read role)
    else if c = '\\' then some ⟨r.fields, .escape role read⟩
    else if c.toNat < 0x20 then none
    else some ⟨r.fields, .text role (read ++ [c])⟩
  | .escape role read =>
    if c = 'u' then some ⟨r.fields, .code role read 3 0⟩
    else (unescape? c).map fun c => ⟨r.fields, .text role (read ++ [c])⟩
  | .code role read left value =>
    (hexDigit? c).bind fun d =>
      match left with
      | left + 1 => some ⟨r.fields, .code role read left (value * 16 + d)⟩
      | 0 =>
        if (value * 16 + d).isValidChar then
          some ⟨r.fields, .text role (read ++ [Char.ofNat (value * 16 + d)])⟩
        else none
  | .named name => if c = ':' then some ⟨r.fields, .colon name⟩ else r.skip c
  | .colon name =>
    if c = '"' then some ⟨r.fields, .text (.value name) []⟩
    else
      match Numeral.digit? c with
      | some d => some ⟨r.fields, .number name d⟩
      | none => r.skip c
  | .number name value =>
    match Numeral.digit? c with
    | some d => if value = 0 then none else some ⟨r.fields, .number name (value * 10 + d)⟩
    | none => afterValue (r.fields ++ [(name, .number value)]) c
  | .valued => afterValue r.fields c
  | .comma => if c = '"' then some ⟨r.fields, .text .name []⟩ else r.skip c
  | .closed => r.skip c

def readFrom (r : Reader) (text : List Char) : Option Reader := text.foldlM step r

theorem readFrom_append (r : Reader) (xs ys : List Char) :
    r.readFrom (xs ++ ys) = (r.readFrom xs).bind (·.readFrom ys) :=
  List.foldlM_append

theorem readFrom_cons (r : Reader) (c : Char) (text : List Char) :
    r.readFrom (c :: text) = (r.step c).bind (·.readFrom text) := rfl

end Reader

def read? (text : List Char) : Option (List (String × Scalar)) :=
  match text.dropWhile isSpace with
  | '\x7b' :: inner =>
    match Reader.readFrom ⟨[], .opened⟩ inner with
    | some ⟨fields, .closed⟩ => some fields
    | _ => none
  | _ => none

namespace Reader

section

variable (fields : List (String × Scalar)) (role : Role)

theorem hex_control : ∀ n < 0x20,
    Numeral.hex 4 n = ['0', '0', Nat.digitChar (n / 16), Nat.digitChar (n % 16)] := by
  decide

theorem hexDigit?_digitChar : ∀ d < 16, hexDigit? (Nat.digitChar d) = some d := by
  decide

theorem readFrom_hex (read : List Char) {c : Char} (control : c.toNat < 0x20) :
    readFrom ⟨fields, .code role read 3 0⟩ (Numeral.hex 4 c.toNat) =
      some ⟨fields, .text role (read ++ [c])⟩ := by
  have zero : hexDigit? '0' = some 0 := by decide
  have high := hexDigit?_digitChar (c.toNat / 16) (by omega)
  have low := hexDigit?_digitChar (c.toNat % 16) (by omega)
  have code : c.toNat / 16 * 16 + c.toNat % 16 = c.toNat := by omega
  have valid : c.toNat.isValidChar := c.valid
  rw [hex_control _ control]
  simp [readFrom, step, zero, high, low, code, valid]

theorem escape_cases (c : Char) :
    (escape c = [c] ∧ c ≠ '"' ∧ c ≠ '\\' ∧ 0x20 ≤ c.toNat) ∨
      (∃ letter, escape c = ['\\', letter] ∧ unescape? letter = some c) ∨
      (escape c = ['\\', 'u'] ++ Numeral.hex 4 c.toNat ∧ c.toNat < 0x20) := by
  rw [escape]
  split_ifs with quote backslash b t n f r control
  · exact .inr (.inl ⟨'"', rfl, by rw [quote]; rfl⟩)
  · exact .inr (.inl ⟨'\\', rfl, by rw [backslash]; rfl⟩)
  · exact .inr (.inl ⟨'b', rfl, by rw [b]; rfl⟩)
  · exact .inr (.inl ⟨'t', rfl, by rw [t]; rfl⟩)
  · exact .inr (.inl ⟨'n', rfl, by rw [n]; rfl⟩)
  · exact .inr (.inl ⟨'f', rfl, by rw [f]; rfl⟩)
  · exact .inr (.inl ⟨'r', rfl, by rw [r]; rfl⟩)
  · exact .inr (.inr ⟨rfl, control⟩)
  · exact .inl ⟨rfl, quote, backslash, Nat.not_lt.mp control⟩

theorem readFrom_escape (read : List Char) (c : Char) :
    readFrom ⟨fields, .text role read⟩ (escape c) = some ⟨fields, .text role (read ++ [c])⟩ := by
  rcases escape_cases c with ⟨plain, quote, backslash, least⟩ | ⟨letter, short, means⟩ |
    ⟨coded, control⟩
  · simp [plain, readFrom, step, quote, backslash, Nat.not_lt.mpr least]
  · have other : letter ≠ 'u' := by
      rintro rfl
      exact absurd means (by simp [unescape?])
    simp [short, readFrom, step, other, means]
  · have digits := readFrom_hex fields role read control
    simpa [coded, readFrom, step] using digits

theorem readFrom_escapes (read text : List Char) :
    readFrom ⟨fields, .text role read⟩ (text.flatMap escape) =
      some ⟨fields, .text role (read ++ text)⟩ := by
  induction text generalizing read with
  | nil => simp [readFrom]
  | cons c text ih =>
    rw [List.flatMap_cons, readFrom_append, readFrom_escape, Option.bind_some, ih,
      List.append_assoc, List.singleton_append]

theorem flatten_stringPieces (s : String) :
    (stringPieces s).flatten = '"' :: (s.toList.flatMap escape ++ ['"']) := by
  simp [stringPieces, List.flatMap_def]

theorem readFrom_string (s : String) :
    readFrom ⟨fields, .text role []⟩ (s.toList.flatMap escape ++ ['"']) =
      some (endText fields s.toList role) := by
  rw [readFrom_append, readFrom_escapes]
  simp [readFrom, step]

end

theorem digit?_digitChar : ∀ d < 10, Numeral.digit? (Nat.digitChar d) = some d := by
  decide

theorem digitChar_ne_quote : ∀ d < 10, Nat.digitChar d ≠ '"' := by
  decide

-- The first digit stands behind the colon; each later one behind a number that is not zero.
theorem readFrom_decimal (fields : List (String × Scalar)) (name : String) (n : Nat) :
    readFrom ⟨fields, .colon name⟩ (Numeral.decimal n) = some ⟨fields, .number name n⟩ := by
  induction n using Nat.strong_induction_on with
  | _ n ih =>
    by_cases short : n < 10
    · rw [Numeral.decimal, Nat.toDigits_of_lt_base short]
      simp [readFrom, step, digitChar_ne_quote n short, digit?_digitChar n short]
    · have front := ih (n / 10) (by omega)
      have digit := digit?_digitChar (n % 10) (by omega)
      have more : n / 10 ≠ 0 := by omega
      have whole : n / 10 * 10 + n % 10 = n := by omega
      rw [Numeral.decimal] at front ⊢
      rw [Nat.toDigits_of_base_le (by omega) (by omega), readFrom_append, front]
      simp [readFrom, step, digit, more, whole]

def Settled (r : Reader) (fields : List (String × Scalar)) : Prop :=
  ∀ c, Numeral.digit? c = none → r.step c = afterValue fields c

theorem settled_valued (fields : List (String × Scalar)) : Settled ⟨fields, .valued⟩ fields :=
  fun _ _ => rfl

theorem settled_number (fields : List (String × Scalar)) (name : String) (n : Nat) :
    Settled ⟨fields, .number name n⟩ (fields ++ [(name, .number n)]) := by
  intro c other
  simp [step, other]

theorem readFrom_member {r : Reader} {fields : List (String × Scalar)}
    (ready : r.step '"' = some ⟨fields, .text .name []⟩) (field : String × Scalar) :
    ∃ after, r.readFrom (memberPieces field).flatten = some after ∧
      after.Settled (fields ++ [field]) := by
  obtain ⟨name, value⟩ := field
  have front : r.readFrom (stringPieces name ++ [[':']]).flatten = some ⟨fields, .colon name⟩ := by
    rw [List.flatten_append, flatten_stringPieces, List.cons_append, readFrom_cons, ready,
      Option.bind_some, readFrom_append, readFrom_string]
    simp [readFrom, step, endText]
  rw [memberPieces, List.flatten_append, readFrom_append, front, Option.bind_some]
  cases value with
  | number n =>
    refine ⟨_, ?_, settled_number fields name n⟩
    rw [Scalar.pieces, List.flatten_singleton, readFrom_decimal]
  | text s =>
    refine ⟨_, ?_, settled_valued (fields ++ [(name, .text s)])⟩
    rw [Scalar.pieces, flatten_stringPieces, readFrom_cons]
    simp only [step, if_true, Option.bind_some]
    rw [readFrom_string, endText, String.ofList_toList]

theorem readFrom_members {r : Reader} {fields : List (String × Scalar)} (settled : r.Settled fields)
    (more : List (String × Scalar)) :
    r.readFrom (more.flatMap (fun field => ',' :: (memberPieces field).flatten) ++ ['\x7d']) =
      some ⟨fields ++ more, .closed⟩ := by
  induction more generalizing r fields with
  | nil =>
    have brace := settled '\x7d' (by decide)
    simp [readFrom, brace, afterValue]
  | cons field more ih =>
    have comma : r.step ',' = some ⟨fields, .comma⟩ := settled ',' (by decide)
    obtain ⟨after, read, next⟩ := readFrom_member (r := ⟨fields, .comma⟩) rfl field
    rw [List.flatMap_cons, List.cons_append, List.cons_append, readFrom_cons, comma, Option.bind_some,
      List.append_assoc, readFrom_append, read, Option.bind_some, ih next, List.append_assoc,
      List.singleton_append]

end Reader

theorem flatten_intercalate (first : List (List Char)) (more : List (List (List Char))) :
    ([[',']].intercalate (first :: more)).flatten =
      first.flatten ++ more.flatMap fun pieces => ',' :: pieces.flatten := by
  induction more generalizing first with
  | nil => simp
  | cons next more ih =>
    rw [List.intercalate_cons_cons, List.flatten_append, List.flatten_append, ih]
    simp

theorem object_cons (field : String × Scalar) (more : List (String × Scalar)) :
    object (field :: more) = '\x7b' :: ((memberPieces field).flatten ++
      (more.flatMap (fun field => ',' :: (memberPieces field).flatten) ++ ['\x7d'])) := by
  rw [object, objectPieces, List.flatten_append, List.flatten_append, List.map_cons,
    flatten_intercalate]
  simp [List.flatMap_map]

theorem object_begins {name : String} {c : Char} {cs : List Char} (first : name.toList = c :: cs)
    (plain : escape c = [c]) (value : Scalar) (more : List (String × Scalar)) :
    ∃ rest, object ((name, value) :: more) = '\x7b' :: '"' :: c :: rest := by
  rw [object_cons, memberPieces, List.flatten_append, List.flatten_append,
    Reader.flatten_stringPieces, first, List.flatMap_cons, plain]
  exact ⟨_, rfl⟩

theorem read_brace (inner : List Char) :
    read? ('\x7b' :: inner) =
      match Reader.readFrom ⟨[], .opened⟩ inner with
      | some ⟨fields, .closed⟩ => some fields
      | _ => none := rfl

theorem read_object (fields : List (String × Scalar)) : read? (object fields) = some fields := by
  cases fields with
  | nil => rfl
  | cons field more =>
    obtain ⟨after, read, settled⟩ := Reader.readFrom_member (r := ⟨[], .opened⟩) rfl field
    rw [object_cons, read_brace, Reader.readFrom_append, read, Option.bind_some,
      Reader.readFrom_members settled, List.nil_append, List.singleton_append]

def Inner (c : Char) : Prop := c ≠ ':' ∧ c ≠ ',' ∧ c ≠ '\x7d' ∧ isSpace c = false

instance : DecidablePred Inner := fun c =>
  inferInstanceAs (Decidable (c ≠ ':' ∧ c ≠ ',' ∧ c ≠ '\x7d' ∧ isSpace c = false))

-- Within a string the brace is text and the quote ends the string; elsewhere the brace is refused.
theorem Reader.readFrom_again (r : Reader) {c : Char} (inner : Inner c) (rest : List Char) :
    r.readFrom ('\x7b' :: '"' :: c :: rest) = none := by
  obtain ⟨colon, comma, brace, space⟩ := inner
  obtain ⟨fields, place⟩ := r
  cases place with
  | text role read =>
    cases role <;>
      simp [readFrom_cons, step, endText, afterValue, skip, colon, comma, brace, space]
  | opened => simp [readFrom_cons, step, skip, isSpace]
  | escape role read => simp [readFrom_cons, step, unescape?]
  | code role read left value => simp [readFrom_cons, step, hexDigit?]
  | named name => simp [readFrom_cons, step, skip, isSpace]
  | colon name => simp [readFrom_cons, step, skip, isSpace, Numeral.digit?]
  | number name value => simp [readFrom_cons, step, afterValue, skip, isSpace, Numeral.digit?]
  | valued => simp [readFrom_cons, step, afterValue, skip, isSpace]
  | comma => simp [readFrom_cons, step, skip, isSpace]
  | closed => simp [readFrom_cons, step, skip, isSpace]

theorem read_again (front : List Char) {c : Char} (inner : Inner c) (rest : List Char) :
    read? ('\x7b' :: (front ++ '\x7b' :: '"' :: c :: rest)) = none := by
  rw [read_brace, Reader.readFrom_append]
  cases Reader.readFrom ⟨[], .opened⟩ front with
  | none => rfl
  | some r => rw [Option.bind_some, r.readFrom_again inner]

open Text (Printable)

theorem printable_escape (c : Char) : Printable (escape c) := by
  rw [escape]
  split_ifs with quote backslash b t n f r control <;> simp
  exact Nat.not_lt.mp control

theorem printable_string (s : String) : Printable (stringPieces s).flatten := by
  have inner : Printable (s.toList.flatMap escape) :=
    Text.printable_flatMap fun c _ => printable_escape c
  simp [Reader.flatten_stringPieces, inner]

theorem printable_member (field : String × Scalar) : Printable (memberPieces field).flatten := by
  obtain ⟨name, value⟩ := field
  have front := printable_string name
  cases value with
  | number n => simp [memberPieces, Scalar.pieces, front]
  | text s =>
    have back := printable_string s
    simp [memberPieces, Scalar.pieces, front, back]

theorem printable_object (fields : List (String × Scalar)) : Printable (object fields) := by
  cases fields with
  | nil => simp [object, objectPieces, List.intercalate]
  | cons field more =>
    have first := printable_member field
    have others : Printable (more.flatMap fun field => ',' :: (memberPieces field).flatten) := by
      refine Text.printable_flatMap fun field _ => ?_
      simp [printable_member field]
    simp [object_cons, first, others]

end FileTrace.Json
