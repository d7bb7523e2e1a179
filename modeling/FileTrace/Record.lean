import FileTrace.Event
import FileTrace.Text.Utf8

namespace FileTrace

/-- Where the producer takes flags and mode of an open from: the raw arguments of the call, or the
structure that newer calls pass. -/
inductive OpenLayout where
  | legacy
  | current
  deriving DecidableEq, Repr

inductive RecordKind where
  | opening
  | syncing
  deriving DecidableEq, Repr

namespace Record

def littleEndian : List UInt8 → Nat
  | [] => 0
  | b :: rest => b.toNat + 256 * littleEndian rest

def slice (offset length : Nat) (raw : List UInt8) : List UInt8 :=
  (raw.drop offset).take length

def word32 (offset : Nat) (raw : List UInt8) : UInt32 :=
  UInt32.ofNat (littleEndian (slice offset 4 raw))

def word64 (offset : Nat) (raw : List UInt8) : UInt64 :=
  UInt64.ofNat (littleEndian (slice offset 8 raw))

def text (offset length : Nat) (raw : List UInt8) : String :=
  Text.ofBuffer (slice offset length raw)

def commCapacity : Nat := 16

def filenameCapacity : Nat := 64

end Record

def OpenLayout.flagsOffset : OpenLayout → Nat
  | .legacy => 16
  | .current => 16

def OpenLayout.modeOffset (l : OpenLayout) : Nat := l.flagsOffset + 8

def OpenLayout.timestampOffset (l : OpenLayout) : Nat := l.modeOffset + 8

def OpenLayout.commOffset (l : OpenLayout) : Nat := l.timestampOffset + 8

def OpenLayout.filenameOffset (l : OpenLayout) : Nat := l.commOffset + Record.commCapacity

def OpenLayout.recordSize (l : OpenLayout) : Nat := l.filenameOffset + Record.filenameCapacity

def OpenLayout.name : OpenLayout → String
  | .legacy => "Legacy"
  | .current => "Current"

namespace Record

def syncSize : Nat := commCapacity + 16

def directoryFlag : UInt64 := 0x10000

def readOpen (layout : OpenLayout) (raw : List UInt8) : OpenEvent where
  pid := ⟨word32 0 raw⟩
  tid := ⟨word32 4 raw⟩
  ppid := ⟨word32 8 raw⟩
  uid := ⟨word32 12 raw⟩
  flags := word64 layout.flagsOffset raw
  mode := word64 layout.modeOffset raw
  timestamp := ⟨word64 layout.timestampOffset raw⟩
  comm := text layout.commOffset commCapacity raw
  filename := text layout.filenameOffset filenameCapacity raw

def readSync (raw : List UInt8) : SyncEvent where
  comm := text 0 commCapacity raw
  pid := ⟨word32 16 raw⟩
  uid := ⟨word32 20 raw⟩
  gid := word32 24 raw
  loginUid := ⟨word32 28 raw⟩

structure Truncated where
  expected : Nat
  actual : Nat
  deriving DecidableEq, Repr

def Truncated.message (t : Truncated) : String :=
  "Truncated record: expected at least " ++ toString t.expected ++ " bytes, got " ++
    toString t.actual

end Record

structure Decoder where
  kind : RecordKind
  layout : OpenLayout
  deriving DecidableEq, Repr

namespace Decoder

def recordSize (d : Decoder) : Nat :=
  match d.kind with
  | .opening => d.layout.recordSize
  | .syncing => Record.syncSize

def event? (d : Decoder) (raw : List UInt8) : Option Event :=
  match d.kind with
  | .opening =>
    let event := Record.readOpen d.layout raw
    if event.flags &&& Record.directoryFlag = 0 then some (.opened event) else none
  | .syncing => some (.synced (Record.readSync raw))

def decode (d : Decoder) (raw : List UInt8) : Except Record.Truncated (Option Event) :=
  if raw.length < d.recordSize then .error ⟨d.recordSize, raw.length⟩
  else .ok (d.event? raw)

end Decoder

end FileTrace
