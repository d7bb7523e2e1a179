import FileTrace.Proofs.Consumer.Deliveries
import FileTrace.Proofs.Sink.Run
import FileTrace.Proofs.Text.Lines
import FileTrace.Proofs.Text.Printable

namespace FileTrace

open Text (newline)

namespace Record

def textBytes (offset length : Nat) (raw : List UInt8) : List UInt8 :=
  (slice offset length raw).takeWhile (· ≠ 0)

theorem count_newline_text (offset length : Nat) (raw : List UInt8) :
    (text offset length raw).toList.count '\n' = (textBytes offset length raw).count newline := by
  rw [text, Text.ofBuffer, String.toList_ofList, Text.count_newline_decodeLossy, textBytes]

end Record

def Decoder.newlines (d : Decoder) (raw : List UInt8) : Nat :=
  match d.kind with
  | .opening =>
    (Record.textBytes d.layout.commOffset Record.commCapacity raw).count newline +
      (Record.textBytes d.layout.filenameOffset Record.filenameCapacity raw).count newline
  | .syncing => (Record.textBytes 0 Record.commCapacity raw).count newline

namespace Event

def newlines : Event → Nat
  | .opened e => e.comm.toList.count '\n' + e.filename.toList.count '\n'
  | .synced e => e.comm.toList.count '\n'

theorem newlines_emitted {d : Decoder} {raw : List UInt8} {e : Event}
    (h : d.emitted? raw = some e) : e.newlines = d.newlines raw := by
  have event : d.event? raw = some e := by
    rw [Decoder.emitted?, Decoder.decode] at h
    by_cases short : raw.length < d.recordSize
    · rw [if_pos short] at h
      cases h
    · rwa [if_neg short] at h
  rw [Decoder.event?] at event
  rw [Decoder.newlines]
  cases kind : d.kind with
  | opening =>
    simp only [kind] at event
    split_ifs at event
    cases event
    simp only [newlines, Record.readOpen, Record.count_newline_text]
  | syncing =>
    simp only [kind] at event
    cases event
    simp only [newlines, Record.readSync, Record.count_newline_text]

theorem count_newline_digits (n : Nat) : (Nat.toDigits 10 n).count '\n' = 0 :=
  (Numeral.printable_decimal n).count_newline

theorem count_newline_uid (u : Uid) : u.display.toList.count '\n' = 0 := by
  rw [Uid.display]
  split
  · simpa using count_newline_digits u.val.toNat
  · rfl

theorem count_newline_bits (word : UInt64) : (bits word).toList.count '\n' = 0 := by
  have printable : Text.Printable (bits word).toList := by simp [bits]
  exact printable.count_newline

theorem count_newline_sentence (e : Event) : e.sentence.toList.count '\n' = e.newlines := by
  cases e with
  | opened e =>
    simp [sentence, newlines, Pid.display, count_newline_digits, count_newline_bits]
  | synced e =>
    simp [sentence, newlines, Pid.display, count_newline_digits, count_newline_uid]

end Event

namespace Decoder

def emitting (d : Decoder) (samples : List (LocalTime × List UInt8)) :
    List (LocalTime × List UInt8) :=
  samples.filter fun sample => (d.emitted? sample.2).isSome

def deliverySteps (d : Decoder) : List (LocalTime × List UInt8) → List SinkStep
  | [] => []
  | (now, raw) :: rest =>
    match d.emitted? raw with
    | some e => .clock now :: .deliver (.emit e) :: deliverySteps d rest
    | none => deliverySteps d rest

end Decoder

namespace Sink

structure WritesSample (d : Decoder) (sample : LocalTime × List UInt8) (a : Attempt) : Prop where
  kind : a.kind = .console sample.1
  event : ∃ e, d.emitted? sample.2 = some e ∧ a.delivery = .emit e
  stored : ∃ body, a.stored = body ++ [newline] ∧ body.count newline = d.newlines sample.2

theorem WritesSample.count {d : Decoder} {sample : LocalTime × List UInt8} {a : Attempt}
    (h : WritesSample d sample a) : a.stored.count newline = 1 + d.newlines sample.2 := by
  obtain ⟨body, stored, inside⟩ := h.stored
  rw [stored, List.count_append, inside, List.count_singleton_self, Nat.add_comm]

theorem writesSample (d : Decoder) {now : LocalTime} {raw : List UInt8} {e : Event}
    (h : d.emitted? raw = some e) : WritesSample d (now, raw) ⟨.console now, .emit e, none⟩ := by
  refine ⟨rfl, ⟨e, h, rfl⟩, Text.encode (SinkKind.consoleLine now e).toList, ?_, ?_⟩
  · have line : SinkKind.line (.console now) (.emit e) =
        (SinkKind.consoleLine now e).toList ++ ['\n'] := by
      simp [SinkKind.line, SinkKind.pieces]
    rw [Attempt.stored, Attempt.line, line, Text.encode_append]
    rfl
  · have stamp := now.printable_stamp.count_newline
    rw [Text.count_newline_encode, ← Event.newlines_emitted h, ← Event.count_newline_sentence]
    simp [SinkKind.consoleLine, stamp]

theorem attempts_samples (d : Decoder) (start : LocalTime) (output : List UInt8)
    (samples : List (LocalTime × List UInt8)) :
    List.Forall₂ (WritesSample d) (d.emitting samples)
      (attempts ⟨.console start, ⟨output, none⟩⟩ (d.deliverySteps samples)) := by
  induction samples generalizing start output with
  | nil => exact .nil
  | cons sample rest ih =>
    obtain ⟨now, raw⟩ := sample
    rw [Decoder.emitting, List.filter_cons, Decoder.deliverySteps]
    cases h : d.emitted? raw with
    | none => exact ih start output
    | some e =>
      have next := ih now (output ++ Text.encode (SinkKind.line (.console now) (.emit e)))
      rw [← deliver_unlimited] at next
      exact .cons (writesSample d h) next

theorem count_attempts {d : Decoder} {samples : List (LocalTime × List UInt8)}
    {attempts : List Attempt} (h : List.Forall₂ (WritesSample d) samples attempts) :
    (attempts.flatMap Attempt.stored).count newline =
      samples.length + (samples.map fun sample => d.newlines sample.2).sum := by
  induction h with
  | nil => rfl
  | cons here _ ih =>
    rw [List.flatMap_cons, List.count_append, here.count, ih, List.length_cons, List.map_cons,
      List.sum_cons]
    omega

theorem unfinished_attempts {d : Decoder} {samples : List (LocalTime × List UInt8)}
    {attempts : List Attempt} (h : List.Forall₂ (WritesSample d) samples attempts) :
    Text.unfinished (attempts.flatMap Attempt.stored) = [] := by
  induction h with
  | nil => rfl
  | cons here _ ih =>
    obtain ⟨body, stored, _⟩ := here.stored
    rw [List.flatMap_cons, stored, List.append_assoc, List.singleton_append,
      Text.unfinished_append, ih]

theorem single_attempts {d : Decoder} {samples : List (LocalTime × List UInt8)}
    {attempts : List Attempt} (h : List.Forall₂ (WritesSample d) samples attempts) :
    (∀ a ∈ attempts, a.stored.count newline = 1) ↔
      ∀ sample ∈ samples, d.newlines sample.2 = 0 := by
  induction h with
  | nil => simp
  | cons here _ ih => simp [ih, here.count]

theorem output_samples (d : Decoder) (start : LocalTime)
    (samples : List (LocalTime × List UInt8)) :
    (run ⟨.console start, .unlimited⟩ (d.deliverySteps samples)).1.writer.output =
      (attempts ⟨.console start, .unlimited⟩ (d.deliverySteps samples)).flatMap
        Attempt.stored :=
  run_output _ _

theorem length_lines_samples (d : Decoder) (start : LocalTime)
    (samples : List (LocalTime × List UInt8)) :
    (Text.lines (run ⟨.console start, .unlimited⟩
      (d.deliverySteps samples)).1.writer.output).length =
      (d.emitting samples).length +
        ((d.emitting samples).map fun sample => d.newlines sample.2).sum := by
  have each := attempts_samples d start [] samples
  rw [Text.length_lines, output_samples, ← count_attempts each, Writer.unlimited]

structure PrintsLines (d : Decoder) (samples : List (LocalTime × List UInt8))
    (attempts : List Attempt) (output : List UInt8) : Prop where
  each : List.Forall₂ (WritesSample d) samples attempts
  whole : output = attempts.flatMap Attempt.stored
  ended : Text.unfinished output = []
  count : (Text.lines output).length =
    samples.length + (samples.map fun sample => d.newlines sample.2).sum
  single : (∀ a ∈ attempts, a.stored.count newline = 1) ↔
    ∀ sample ∈ samples, d.newlines sample.2 = 0
  asMany : (Text.lines output).length = samples.length ↔
    ∀ sample ∈ samples, d.newlines sample.2 = 0

theorem console_prints_lines (d : Decoder) (start : LocalTime)
    (samples : List (LocalTime × List UInt8)) :
    PrintsLines d (d.emitting samples)
      (attempts ⟨.console start, .unlimited⟩ (d.deliverySteps samples))
      (run ⟨.console start, .unlimited⟩ (d.deliverySteps samples)).1.writer.output := by
  have each := attempts_samples d start [] samples
  have whole := output_samples d start samples
  have count := length_lines_samples d start samples
  refine ⟨each, whole, ?_, count, single_attempts each, ?_⟩
  · rw [whole]
    exact unfinished_attempts each
  · rw [count, Nat.add_eq_left, List.sum_eq_zero_iff, List.forall_mem_map]

theorem console_prints_two_lines :
    let decoder : Decoder := ⟨.syncing, .legacy⟩
    let raw : List UInt8 := [0x61, 0x0A, 0x62] ++ List.replicate 13 0 ++
      [0x4D, 0, 0, 0, 0xE8, 0x03, 0, 0, 0x64, 0, 0, 0, 0xFF, 0xFF, 0xFF, 0xFF]
    let samples : List (LocalTime × List UInt8) := [(.epoch, raw)]
    ¬(Text.lines (run ⟨.console .epoch, .unlimited⟩
      (decoder.deliverySteps samples)).1.writer.output).length =
        (decoder.emitting samples).length := by
  intro decoder raw samples same
  have one : (decoder.emitting samples).length = 1 := by decide
  have inside : ((decoder.emitting samples).map fun s => decoder.newlines s.2).sum = 1 := by
    decide
  rw [length_lines_samples, one, inside] at same
  exact absurd same (by decide)

end Sink

end FileTrace
