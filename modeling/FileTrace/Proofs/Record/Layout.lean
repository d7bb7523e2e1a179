import FileTrace.Proofs.Text.Ascii
import FileTrace.Record

namespace FileTrace

namespace Record

structure Member where
  name : String
  size : Nat
  alignment : Nat
  deriving DecidableEq, Repr

structure Shape where
  members : List Member
  deriving DecidableEq, Repr

def aligned (alignment place : Nat) : Nat := (place + (alignment - 1)) / alignment * alignment

namespace Shape

def alignment (s : Shape) : Nat := s.members.foldr (fun m most => max m.alignment most) 1

def endOf (place : Nat) : List Member → Nat
  | [] => place
  | m :: rest => endOf (aligned m.alignment place + m.size) rest

def size (s : Shape) : Nat := aligned s.alignment (endOf 0 s.members)

def placeOf (name : String) (place : Nat) : List Member → Nat
  | [] => place
  | m :: rest =>
    if m.name = name then aligned m.alignment place
    else placeOf name (aligned m.alignment place + m.size) rest

def offset (s : Shape) (name : String) : Nat := placeOf name 0 s.members

end Shape

namespace Member

def word (name : String) (width : Nat) : Member := ⟨name, width, width⟩

def buffer (name : String) (capacity : Nat) : Member := ⟨name, capacity, 1⟩

def record (name : String) (s : Shape) : Member := ⟨name, s.size, s.alignment⟩

end Member

def caller : List Member := [.word "pid" 4, .word "tid" 4, .word "ppid" 4, .word "uid" 4]

def circumstances : List Member := [.word "ts" 8, .buffer "comm" 16, .buffer "filename" 64]

def how : Shape := ⟨[.word "flags" 8, .word "mode" 8]⟩

def syncShape : Shape :=
  ⟨[.buffer "comm" 16, .word "pid" 4, .word "uid" 4, .word "gid" 4, .word "loginuid" 4]⟩

end Record

namespace OpenLayout

open Record (Member Shape)

def shape : OpenLayout → Shape
  | .legacy => ⟨Record.caller ++ [.word "flags" 8, .word "mode" 8] ++ Record.circumstances⟩
  | .current => ⟨Record.caller ++ [.record "how" Record.how] ++ Record.circumstances⟩

def argumentOffset (l : OpenLayout) (name : String) : Nat :=
  match l with
  | .legacy => l.shape.offset name
  | .current => l.shape.offset "how" + Record.how.offset name

theorem recordSize_eq (l : OpenLayout) : l.recordSize = l.shape.size := by
  cases l <;> decide

theorem offsets_eq (l : OpenLayout) :
    ["pid", "tid", "ppid", "uid"].map l.shape.offset = [0, 4, 8, 12] ∧
      ["flags", "mode"].map l.argumentOffset = [l.flagsOffset, l.modeOffset] ∧
      ["ts", "comm", "filename"].map l.shape.offset =
        [l.timestampOffset, l.commOffset, l.filenameOffset] := by
  cases l <;> decide

end OpenLayout

namespace Record

theorem syncOffsets_eq :
    ["comm", "pid", "uid", "gid", "loginuid"].map syncShape.offset = [0, 16, 20, 24, 28] := by
  decide

def writeWord : Nat → Nat → List UInt8
  | 0, _ => []
  | width + 1, n => UInt8.ofNat n :: writeWord width (n / 256)

theorem length_writeWord (width n : Nat) : (writeWord width n).length = width := by
  induction width generalizing n with
  | zero => rfl
  | succ width ih => rw [writeWord, List.length_cons, ih]

theorem littleEndian_writeWord (width n : Nat) :
    littleEndian (writeWord width n) = n % 256 ^ width := by
  induction width generalizing n with
  | zero => rw [writeWord, littleEndian, pow_zero, Nat.mod_one]
  | succ width ih =>
    rw [writeWord, littleEndian, ih, UInt8.toNat_ofNat', pow_succ' 256 width, Nat.mod_mul]

def HasAt (offset : Nat) (bytes record : List UInt8) : Prop := bytes <+: record.drop offset

theorem HasAt.slice {offset : Nat} {bytes record : List UInt8} (h : HasAt offset bytes record)
    (padding : List UInt8) : slice offset bytes.length (record ++ padding) = bytes := by
  have longer : bytes <+: (record ++ padding).drop offset := by
    rw [List.drop_append]
    exact h.trans (List.prefix_append _ _)
  exact (List.prefix_iff_eq_take.mp longer).symm

theorem hasAt_flatten {pieces : List (List UInt8)} {bytes : List UInt8} {offset : Nat} (i : Nat)
    (piece : pieces[i]? = some bytes) (place : (pieces.take i).flatten.length = offset) :
    HasAt offset bytes pieces.flatten := by
  obtain ⟨inside, rfl⟩ := List.getElem?_eq_some_iff.mp piece
  have parts : pieces.flatten =
      (pieces.take i).flatten ++ (pieces[i] ++ (pieces.drop (i + 1)).flatten) := by
    rw [← List.flatten_cons, ← List.drop_eq_getElem_cons inside, ← List.flatten_append,
      List.take_append_drop]
  rw [HasAt, ← place, parts, List.drop_left]
  exact List.prefix_append _ _

theorem HasAt.word32 {offset : Nat} {value : UInt32} {record : List UInt8}
    (h : HasAt offset (writeWord 4 value.toNat) record) (padding : List UInt8) :
    word32 offset (record ++ padding) = value := by
  have bytes := h.slice padding
  rw [length_writeWord] at bytes
  have fits : value.toNat < 256 ^ 4 := value.toNat_lt
  rw [Record.word32, bytes, littleEndian_writeWord, Nat.mod_eq_of_lt fits, UInt32.ofNat_toNat]

theorem HasAt.word64 {offset : Nat} {value : UInt64} {record : List UInt8}
    (h : HasAt offset (writeWord 8 value.toNat) record) (padding : List UInt8) :
    word64 offset (record ++ padding) = value := by
  have bytes := h.slice padding
  rw [length_writeWord] at bytes
  have fits : value.toNat < 256 ^ 8 := value.toNat_lt
  rw [Record.word64, bytes, littleEndian_writeWord, Nat.mod_eq_of_lt fits, UInt64.ofNat_toNat]

structure Buffers (capacity : Nat) (text : String) (buffer : List UInt8) : Prop where
  length : buffer.length = capacity
  noNul : '\x00' ∉ text.toList
  bytes : buffer = Text.encode text.toList ∨
    ∃ filler, buffer = Text.encode text.toList ++ 0 :: filler

theorem Buffers.ofBuffer {capacity : Nat} {text : String} {buffer : List UInt8}
    (h : Buffers capacity text buffer) : Text.ofBuffer buffer = text := by
  have front : buffer.takeWhile (· ≠ 0) = Text.encode text.toList := by
    rcases h.bytes with full | ⟨filler, ended⟩
    · have all := Text.takeWhile_encode_append h.noNul []
      rw [List.append_nil, List.takeWhile_nil, List.append_nil] at all
      rw [full, all]
    · rw [ended, Text.takeWhile_encode_append h.noNul]
      simp
  rw [Text.ofBuffer, front, Text.decodeLossy_encode, String.ofList_toList]

def HasTextAt (offset capacity : Nat) (text : String) (record : List UInt8) : Prop :=
  ∃ buffer, Buffers capacity text buffer ∧ HasAt offset buffer record

theorem HasTextAt.text {offset capacity : Nat} {text : String} {record : List UInt8}
    (h : HasTextAt offset capacity text record) (padding : List UInt8) :
    Record.text offset capacity (record ++ padding) = text := by
  obtain ⟨buffer, holds, stands⟩ := h
  have bytes := stands.slice padding
  rw [holds.length] at bytes
  rw [Record.text, bytes, holds.ofBuffer]

end Record

end FileTrace
