import FileTrace.Proofs.Sink.Run

namespace FileTrace

namespace Writer

def front (room : Option Nat) (line : List UInt8) : List UInt8 :=
  match room with
  | none => line
  | some room => line.take (min room line.length)

def lacks (room : Option Nat) (line : List UInt8) : Bool :=
  match room with
  | none => false
  | some room => room < line.length

theorem complete_eq (w : Writer) (pieces : List (List UInt8)) :
    (w.writeAll pieces).2 = !lacks w.room pieces.flatten := by
  obtain ⟨output, room⟩ := w
  cases room with
  | none => rw [writeAll_unlimited]; rfl
  | some room => rw [complete_writeAll rfl, lacks, ← decide_not, decide_eq_decide, Nat.not_lt]

end Writer

def SinkKind.whole (kind : SinkKind) (d : Delivery) : List UInt8 :=
  (Sink.deliver ⟨kind, .unlimited⟩ d).1.writer.output

namespace SinkKind

def report (kind : SinkKind) (room : Option Nat) (d : Delivery) : List Log.Line :=
  kind.notice d ++ if Writer.lacks room (kind.whole d) then [kind.failure] else []

theorem whole_eq (kind : SinkKind) (d : Delivery) : kind.whole d = Text.encode (kind.line d) := by
  rw [whole, Writer.unlimited, Sink.deliver_unlimited, List.nil_append]

theorem whole_loss (now : LocalTime) (cpu : CpuId) (count : Nat) :
    (console now).whole (.loss cpu count) = [] :=
  whole_eq _ _

@[simp] theorem moved_moved (kind : SinkKind) (now later : LocalTime) :
    (kind.moved now).moved later = kind.moved later := by
  cases kind <;> rfl

-- A notice begins with another word.
theorem failure_not_mem_notice (kind : SinkKind) (d : Delivery) : kind.failure ∉ kind.notice d := by
  intro inside
  cases kind with
  | json => cases inside
  | console now =>
    cases d with
    | emit e => cases inside
    | loss cpu count =>
      have same := congrArg (·.text.toList) (List.mem_singleton.mp inside)
      simp [failure] at same

theorem count_report (kind : SinkKind) (room : Option Nat) (d : Delivery) :
    (kind.report room d).count kind.failure =
      if Writer.lacks room (kind.whole d) then 1 else 0 := by
  rw [report, List.count_append, List.count_eq_zero.mpr (kind.failure_not_mem_notice d)]
  split <;> simp

end SinkKind

namespace Sink

theorem stored_eq (kind : SinkKind) (d : Delivery) (room : Option Nat) :
    Attempt.stored ⟨kind, d, room⟩ = Writer.front room (kind.whole d) := by
  rw [SinkKind.whole_eq]
  cases room with
  | none => rfl
  | some room => exact List.take_eq_take_min

theorem deliver_log (s : Sink) (d : Delivery) :
    (s.deliver d).2 = s.kind.report s.writer.room d := by
  have whole : s.kind.whole d = ((s.kind.pieces d).map Text.encode).flatten := by
    rw [SinkKind.whole_eq, Text.flatten_encode]
    rfl
  have complete := s.writer.complete_eq ((s.kind.pieces d).map Text.encode)
  rw [← whole] at complete
  change s.kind.notice d ++ (if (s.writer.writeAll ((s.kind.pieces d).map Text.encode)).2
    then [] else [s.kind.failure]) = s.kind.report s.writer.room d
  rw [complete, SinkKind.report]
  cases Writer.lacks s.writer.room (s.kind.whole d) <;> rfl

structure LeavesFront (met : Sink) (d : Delivery) (left : Sink × List Log.Line) : Prop where
  output : left.1.writer.output =
    met.writer.output ++ Writer.front met.writer.room (met.kind.whole d)
  log : left.2 = met.kind.report met.writer.room d
  warnings : left.2.count met.kind.failure =
    if Writer.lacks met.writer.room (met.kind.whole d) then 1 else 0

theorem deliver_leavesFront (s : Sink) (d : Delivery) : LeavesFront s d (s.deliver d) where
  output := by rw [deliver_output, stored_eq]
  log := s.deliver_log d
  warnings := by rw [deliver_log, SinkKind.count_report]

structure Call where
  now : LocalTime
  room : Option Nat
  delivery : Delivery
  deriving DecidableEq, Repr

namespace Call

def steps (c : Call) : List SinkStep := [.clock c.now, .room c.room, .deliver c.delivery]

def front (kind : SinkKind) (c : Call) : List UInt8 :=
  Writer.front c.room ((kind.moved c.now).whole c.delivery)

def report (kind : SinkKind) (c : Call) : List Log.Line :=
  (kind.moved c.now).report c.room c.delivery

theorem front_moved (kind : SinkKind) (now : LocalTime) : front (kind.moved now) = front kind := by
  funext c
  rw [front, SinkKind.moved_moved, front]

theorem report_moved (kind : SinkKind) (now : LocalTime) :
    report (kind.moved now) = report kind := by
  funext c
  rw [report, SinkKind.moved_moved, report]

end Call

theorem deliver_kind (s : Sink) (d : Delivery) : (s.deliver d).1.kind = s.kind :=
  rfl

structure LeavesFronts (s : Sink) (calls : List Call) (ended : Sink × List Log.Line) : Prop where
  output : ended.1.writer.output = s.writer.output ++ calls.flatMap (Call.front s.kind)
  log : ended.2 = calls.flatMap (Call.report s.kind)

theorem run_leavesFronts (s : Sink) (calls : List Call) :
    LeavesFronts s calls (s.run (calls.flatMap Call.steps)) := by
  induction calls generalizing s with
  | nil => exact ⟨(List.append_nil _).symm, rfl⟩
  | cons c calls ih =>
    let met : Sink := ⟨s.kind.moved c.now, ⟨s.writer.output, c.room⟩⟩
    obtain ⟨output, log, -⟩ := met.deliver_leavesFront c.delivery
    obtain ⟨outputs, logs⟩ := ih (met.deliver c.delivery).1
    rw [deliver_kind, Call.front_moved] at outputs
    rw [deliver_kind, Call.report_moved] at logs
    constructor
    · change ((met.deliver c.delivery).1.run (calls.flatMap Call.steps)).1.writer.output = _
      rw [outputs, output, List.append_assoc]
      rfl
    · change (met.deliver c.delivery).2 ++
        ((met.deliver c.delivery).1.run (calls.flatMap Call.steps)).2 = _
      rw [logs, log]
      rfl

theorem failed_writes_leave_fronts (s : Sink) :
    (∀ d, LeavesFront s d (s.deliver d)) ∧
      (∀ (kind : SinkKind) d, kind.whole d = Text.encode (kind.line d)) ∧
      (∀ now cpu count, (SinkKind.console now).whole (.loss cpu count) = []) ∧
      ∀ calls, LeavesFronts s calls (s.run (calls.flatMap Call.steps)) :=
  ⟨s.deliver_leavesFront, SinkKind.whole_eq, SinkKind.whole_loss, s.run_leavesFronts⟩

end Sink

end FileTrace
