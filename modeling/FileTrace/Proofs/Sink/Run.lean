import Mathlib
import FileTrace.Sink

namespace FileTrace

inductive SinkStep where
  | deliver (d : Delivery)
  | room (left : Option Nat)
  | clock (now : LocalTime)
  deriving DecidableEq, Repr

def SinkStep.delivery? : SinkStep → Option Delivery
  | .deliver d => some d
  | .room _ => none
  | .clock _ => none

def SinkKind.moved (now : LocalTime) : SinkKind → SinkKind
  | .console _ => .console now
  | .json => .json

namespace Sink

def step (s : Sink) : SinkStep → Sink × List Log.Line
  | .deliver d => s.deliver d
  | .room left => ({ s with writer := { s.writer with room := left } }, [])
  | .clock now => ({ s with kind := s.kind.moved now }, [])

def run (s : Sink) : List SinkStep → Sink × List Log.Line
  | [] => (s, [])
  | first :: rest =>
    let (s, now) := s.step first
    let (s, later) := run s rest
    (s, now ++ later)

structure Attempt where
  kind : SinkKind
  delivery : Delivery
  room : Option Nat
  deriving DecidableEq, Repr

namespace Attempt

def line (a : Attempt) : List UInt8 := Text.encode (a.kind.line a.delivery)

def stored (a : Attempt) : List UInt8 :=
  match a.room with
  | none => a.line
  | some room => a.line.take room

def complete (a : Attempt) : Bool :=
  match a.room with
  | none => true
  | some room => a.line.length ≤ room

theorem stored_of_complete {a : Attempt} (h : a.complete = true) : a.stored = a.line := by
  rw [complete] at h
  rw [stored]
  split at h
  · rfl
  · exact List.take_of_length_le (of_decide_eq_true h)

theorem stored_of_incomplete {a : Attempt} (h : a.complete = false) :
    ∃ room < a.line.length, a.stored = a.line.take room := by
  rw [complete] at h
  rw [stored]
  split at h
  · cases h
  · next room _ => exact ⟨room, Nat.not_le.mp (of_decide_eq_false h), rfl⟩

end Attempt

def attempts (s : Sink) : List SinkStep → List Attempt
  | [] => []
  | .deliver d :: rest => ⟨s.kind, d, s.writer.room⟩ :: attempts (s.deliver d).1 rest
  | .room left :: rest => attempts (s.step (.room left)).1 rest
  | .clock now :: rest => attempts (s.step (.clock now)).1 rest

end Sink

theorem Text.flatten_encode (pieces : List (List Char)) :
    (pieces.map Text.encode).flatten = Text.encode pieces.flatten := by
  induction pieces with
  | nil => rfl
  | cons piece rest ih =>
    rw [List.map_cons, List.flatten_cons, ih, List.flatten_cons, Text.encode_append]

namespace Writer

theorem writeAll_unlimited (output : List UInt8) (pieces : List (List UInt8)) :
    writeAll pieces ⟨output, none⟩ = (⟨output ++ pieces.flatten, none⟩, true) := by
  induction pieces generalizing output with
  | nil => simp [writeAll]
  | cons piece rest ih => simp [writeAll, fits, write, ih]

end Writer

namespace Sink

theorem deliver_output (s : Sink) (d : Delivery) :
    (s.deliver d).1.writer.output =
      s.writer.output ++ Attempt.stored ⟨s.kind, d, s.writer.room⟩ := by
  obtain ⟨kind, ⟨output, room⟩⟩ := s
  cases room with
  | none => simp [deliver, Writer.writeAll_unlimited, Attempt.stored, Attempt.line, SinkKind.line,
      Text.flatten_encode]
  | some room =>
    have front := Writer.output_writeAll (w := ⟨output, some room⟩) rfl
      ((kind.pieces d).map Text.encode)
    rw [Text.flatten_encode] at front
    exact front

theorem deliver_unlimited (kind : SinkKind) (output : List UInt8) (d : Delivery) :
    (deliver ⟨kind, ⟨output, none⟩⟩ d).1 =
      ⟨kind, ⟨output ++ Text.encode (kind.line d), none⟩⟩ := by
  simp [deliver, Writer.writeAll_unlimited, SinkKind.line, Text.flatten_encode]

theorem run_output (s : Sink) (steps : List SinkStep) :
    (s.run steps).1.writer.output =
      s.writer.output ++ (s.attempts steps).flatMap Attempt.stored := by
  induction steps generalizing s with
  | nil => simp [run, attempts]
  | cons first rest ih =>
    rw [run, ih]
    cases first with
    | deliver d =>
      rw [step, deliver_output, attempts, List.flatMap_cons, List.append_assoc]
    | room left => rfl
    | clock now => rfl

theorem attempts_deliveries (s : Sink) (steps : List SinkStep) :
    (s.attempts steps).map (·.delivery) = steps.filterMap SinkStep.delivery? := by
  induction steps generalizing s with
  | nil => rfl
  | cons first rest ih =>
    cases first with
    | deliver d => rw [attempts, List.map_cons, ih]; rfl
    | room left => rw [attempts, ih]; rfl
    | clock now => rw [attempts, ih]; rfl

theorem attempts_json (writer : Writer) (steps : List SinkStep) :
    ∀ a ∈ attempts ⟨.json, writer⟩ steps, a.kind = .json := by
  induction steps generalizing writer with
  | nil => exact nofun
  | cons first rest ih =>
    cases first with
    | deliver d =>
      refine List.forall_mem_cons.mpr ⟨rfl, ?_⟩
      exact ih (deliver ⟨.json, writer⟩ d).1.writer
    | room left => exact ih { writer with room := left }
    | clock now => exact ih writer

end Sink

end FileTrace
