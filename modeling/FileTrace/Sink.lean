import FileTrace.Event
import FileTrace.LocalTime
import FileTrace.Log
import FileTrace.Sink.Writer
import FileTrace.Text.Utf8

namespace FileTrace

inductive Delivery where
  | emit (event : Event)
  | loss (cpu : CpuId) (count : Nat)
  deriving DecidableEq, Repr

inductive SinkKind where
  | console (now : LocalTime)
  | json
  deriving DecidableEq, Repr

namespace SinkKind

def consoleLine (now : LocalTime) (e : Event) : String :=
  "(" ++ now.stamp ++ ") " ++ e.sentence

def lossFields (cpu : CpuId) (count : Nat) : List (String × Json.Scalar) :=
  [("count", .number count), ("cpu", .number cpu.val.toNat), ("kind", .text "lost")]

def pieces : SinkKind → Delivery → List (List Char)
  | .console now, .emit e => [(consoleLine now e).toList, ['\n']]
  | .console _, .loss _ _ => []
  | .json, .emit e => Json.objectPieces e.fields ++ [['\n']]
  | .json, .loss cpu count => Json.objectPieces (lossFields cpu count) ++ [['\n']]

def line (kind : SinkKind) (d : Delivery) : List Char := (kind.pieces d).flatten

def notice : SinkKind → Delivery → List Log.Line
  | .console _, .loss cpu count =>
    [⟨.warn, .sink, "lost " ++ toString count ++ " events on CPU " ++ cpu.display⟩]
  | _, _ => []

def failure : SinkKind → Log.Line
  | .console _ => ⟨.warn, .sink, "Failed to write event: " ++ writerFull⟩
  | .json => ⟨.warn, .sink, "Failed to write JSON line: " ++ writerFull⟩

end SinkKind

structure Sink where
  kind : SinkKind
  writer : Writer
  deriving DecidableEq, Repr

namespace Sink

def deliver (s : Sink) (d : Delivery) : Sink × List Log.Line :=
  let (writer, complete) := s.writer.writeAll ((s.kind.pieces d).map Text.encode)
  ({ s with writer := writer }, s.kind.notice d ++ if complete then [] else [s.kind.failure])

end Sink

end FileTrace
