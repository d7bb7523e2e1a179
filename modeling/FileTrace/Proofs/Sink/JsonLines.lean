import FileTrace.Names
import FileTrace.Proofs.Json.Reader
import FileTrace.Proofs.Sink.Run
import FileTrace.Proofs.Text.Lines

namespace FileTrace

namespace Text

def decode? (bytes : List UInt8) : Option (List Char) :=
  if encode (decodeLossy bytes) = bytes then some (decodeLossy bytes) else none

theorem decode_encode (text : List Char) : decode? (encode text) = some text := by
  rw [decode?, decodeLossy_encode, if_pos rfl]

theorem decode_eq_some {bytes : List UInt8} {text : List Char} (h : decode? bytes = some text) :
    text = decodeLossy bytes := by
  rw [decode?] at h
  split at h
  · exact (Option.some.inj h).symm
  · cases h

end Text

namespace Json.Scalar

def number? : Scalar → Option Nat
  | .number n => some n
  | .text _ => none

def text? : Scalar → Option String
  | .number _ => none
  | .text s => some s

def word32? : Scalar → Option UInt32
  | .number n => if n < Numeral.word32 then some (UInt32.ofNat n) else none
  | .text _ => none

def word64? : Scalar → Option UInt64
  | .number n => if n < Numeral.word64 then some (UInt64.ofNat n) else none
  | .text _ => none

@[simp] theorem word32_toNat (value : UInt32) : word32? (.number value.toNat) = some value := by
  have fits : value.toNat < Numeral.word32 := value.toNat_lt
  rw [word32?, if_pos fits, UInt32.ofNat_toNat]

@[simp] theorem word64_toNat (value : UInt64) : word64? (.number value.toNat) = some value := by
  have fits : value.toNat < Numeral.word64 := value.toNat_lt
  rw [word64?, if_pos fits, UInt64.ofNat_toNat]

end Json.Scalar

section

variable (fields : List (String × Json.Scalar))

def OpenEvent.ofFields? : Option OpenEvent := do
  let pid ← (Names.find? "pid" fields).bind (·.word32?)
  let tid ← (Names.find? "tid" fields).bind (·.word32?)
  let ppid ← (Names.find? "ppid" fields).bind (·.word32?)
  let uid ← (Names.find? "uid" fields).bind (·.word32?)
  let flags ← (Names.find? "flags" fields).bind (·.word64?)
  let mode ← (Names.find? "mode" fields).bind (·.word64?)
  let timestamp ← (Names.find? "timestamp" fields).bind (·.word64?)
  let comm ← (Names.find? "comm" fields).bind (·.text?)
  let filename ← (Names.find? "filename" fields).bind (·.text?)
  return ⟨⟨pid⟩, ⟨tid⟩, ⟨ppid⟩, ⟨uid⟩, flags, mode, ⟨timestamp⟩, comm, filename⟩

def SyncEvent.ofFields? : Option SyncEvent := do
  let comm ← (Names.find? "comm" fields).bind (·.text?)
  let pid ← (Names.find? "pid" fields).bind (·.word32?)
  let uid ← (Names.find? "uid" fields).bind (·.word32?)
  let gid ← (Names.find? "gid" fields).bind (·.word32?)
  let loginUid ← (Names.find? "login_uid" fields).bind (·.word32?)
  return ⟨comm, ⟨pid⟩, ⟨uid⟩, gid, ⟨loginUid⟩⟩

def Delivery.ofFields? : Option Delivery :=
  match (Names.find? "kind" fields).bind (·.text?) with
  | some "open" => (OpenEvent.ofFields? fields).map fun e => .emit (.opened e)
  | some "sync" => (SyncEvent.ofFields? fields).map fun e => .emit (.synced e)
  | some "lost" => do
    let cpu ← (Names.find? "cpu" fields).bind (·.word32?)
    let count ← (Names.find? "count" fields).bind (·.number?)
    return .loss ⟨cpu⟩ count
  | _ => none

end

namespace Delivery

def fields : Delivery → List (String × Json.Scalar)
  | .emit e => e.fields
  | .loss cpu count => SinkKind.lossFields cpu count

def object (d : Delivery) : List UInt8 := Text.encode (Json.object d.fields)

def read? (line : List UInt8) : Option Delivery := do
  let text ← Text.decode? line
  let fields ← Json.read? text
  ofFields? fields

theorem ofFields_fields (d : Delivery) : ofFields? d.fields = some d := by
  rcases d with (e | e) | ⟨cpu, count⟩
  · simp [ofFields?, fields, Event.fields, OpenEvent.ofFields?, Names.find?, Json.Scalar.text?]
  · simp [ofFields?, fields, Event.fields, SyncEvent.ofFields?, Names.find?, Json.Scalar.text?]
  · simp [ofFields?, fields, SinkKind.lossFields, Names.find?, Json.Scalar.text?,
      Json.Scalar.number?]

theorem read_object (d : Delivery) : read? d.object = some d := by
  simp [read?, object, Text.decode_encode, Json.read_object, ofFields_fields]

theorem printable_object (d : Delivery) : ∀ b ∈ d.object, 0x20 ≤ b.toNat :=
  (Json.printable_object d.fields).bytes

theorem newline_not_mem_object (d : Delivery) : Text.newline ∉ d.object := by
  intro inside
  have least := d.printable_object _ inside
  exact absurd least (by decide)

theorem encode_line (d : Delivery) :
    Text.encode (SinkKind.json.line d) = d.object ++ [Text.newline] := by
  have line : SinkKind.json.line d = Json.object d.fields ++ ['\n'] := by
    cases d <;> simp [SinkKind.line, SinkKind.pieces, fields, Json.object]
  rw [line, Text.encode_append]
  rfl

end Delivery

def jsonLines (calls : List Delivery) : List UInt8 :=
  (Sink.run ⟨.json, .unlimited⟩ (calls.map .deliver)).1.writer.output

theorem attempts_unlimited (kind : SinkKind) (output : List UInt8) (calls : List Delivery) :
    Sink.attempts ⟨kind, ⟨output, none⟩⟩ (calls.map .deliver) = calls.map (⟨kind, ·, none⟩) := by
  induction calls generalizing output with
  | nil => rfl
  | cons d rest ih =>
    rw [List.map_cons, Sink.attempts, Sink.deliver_unlimited, ih, List.map_cons]

theorem jsonLines_eq (calls : List Delivery) :
    jsonLines calls = (calls.map Delivery.object).flatMap (· ++ [Text.newline]) := by
  rw [jsonLines, Writer.unlimited, Sink.run_output, attempts_unlimited, List.nil_append,
    List.flatMap_map, List.flatMap_map]
  exact List.flatMap_congr fun d _ => d.encode_line

structure LinesHold (stream : List UInt8) (calls : List Delivery) : Prop where
  ended : Text.unfinished stream = []
  printable : ∀ line ∈ Text.lines stream, ∀ b ∈ line, 0x20 ≤ b.toNat
  read : (Text.lines stream).map Delivery.read? = calls.map some

theorem LinesHold.unique {stream : List UInt8} {calls others : List Delivery}
    (h : LinesHold stream calls) (ho : LinesHold stream others) : others = calls :=
  List.map_injective_iff.mpr (Option.some_injective _) (ho.read.symm.trans h.read)

theorem linesHold_jsonLines (calls : List Delivery) : LinesHold (jsonLines calls) calls := by
  have lines : Text.lines (jsonLines calls) = calls.map Delivery.object := by
    rw [jsonLines_eq]
    refine Text.lines_flatMap fun line h => ?_
    obtain ⟨d, _, rfl⟩ := List.mem_map.mp h
    exact d.newline_not_mem_object
  refine ⟨?_, ?_, ?_⟩
  · rw [jsonLines_eq]
    exact Text.unfinished_flatMap _
  · intro line h
    rw [lines] at h
    obtain ⟨d, _, rfl⟩ := List.mem_map.mp h
    exact d.printable_object
  · rw [lines, List.map_map]
    exact List.map_congr_left fun d _ => d.read_object

theorem json_lines_read_back (calls : List Delivery) :
    LinesHold (jsonLines calls) calls ∧
      ∀ others, jsonLines others = jsonLines calls → others = calls := by
  refine ⟨linesHold_jsonLines calls, fun others same => ?_⟩
  exact (linesHold_jsonLines calls).unique (same ▸ linesHold_jsonLines others)

end FileTrace
