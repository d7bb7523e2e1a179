namespace FileTrace

structure Writer where
  output : List UInt8
  room : Option Nat
  deriving DecidableEq, Repr

namespace Writer

def unlimited : Writer := ⟨[], none⟩

def fits (w : Writer) (bytes : List UInt8) : Bool :=
  match w.room with
  | none => true
  | some room => bytes.length ≤ room

def write (w : Writer) (bytes : List UInt8) : Writer :=
  match w.room with
  | none => { w with output := w.output ++ bytes }
  | some room => ⟨w.output ++ bytes.take room, some (room - bytes.length)⟩

def writeAll : List (List UInt8) → Writer → Writer × Bool
  | [], w => (w, true)
  | piece :: rest, w =>
    if w.fits piece then writeAll rest (w.write piece) else (w.write piece, false)

theorem output_writeAll {w : Writer} {room : Nat} (h : w.room = some room)
    (pieces : List (List UInt8)) :
    (w.writeAll pieces).1.output = w.output ++ pieces.flatten.take room := by
  induction pieces generalizing w room with
  | nil => simp [writeAll]
  | cons piece rest ih =>
      simp only [writeAll]
      split
      · next fits =>
          have short : piece.length ≤ room := by simpa [Writer.fits, h] using fits
          have left : (w.write piece).room = some (room - piece.length) := by simp [write, h]
          rw [ih left]
          simp [write, h, List.take_append, List.take_of_length_le short]
      · next full =>
          have long : room < piece.length := by simpa [fits, h] using full
          simp [write, h, List.take_append_of_le_length (Nat.le_of_lt long)]

theorem complete_writeAll {w : Writer} {room : Nat} (h : w.room = some room)
    (pieces : List (List UInt8)) :
    (w.writeAll pieces).2 = decide (pieces.flatten.length ≤ room) := by
  induction pieces generalizing w room with
  | nil => simp [writeAll]
  | cons piece rest ih =>
      simp only [writeAll]
      split
      · next fits =>
          have short : piece.length ≤ room := by simpa [Writer.fits, h] using fits
          have left : (w.write piece).room = some (room - piece.length) := by simp [write, h]
          rw [ih left]
          simp
          omega
      · next full =>
          have long : room < piece.length := by simpa [fits, h] using full
          simp
          omega

end Writer

def writerFull : String := "writer full"

end FileTrace
