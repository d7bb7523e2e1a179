import FileTrace.Json

namespace FileTrace

structure Pid where
  val : UInt32
  deriving DecidableEq, Repr

structure Tid where
  val : UInt32
  deriving DecidableEq, Repr

structure Uid where
  val : UInt32
  deriving DecidableEq, Repr

structure CpuId where
  val : UInt32
  deriving DecidableEq, Repr

structure Timestamp where
  val : UInt64
  deriving DecidableEq, Repr

namespace Uid

def unset : Uid := ⟨0xFFFFFFFF⟩

def isSet (u : Uid) : Bool := u != unset

def display (u : Uid) : String :=
  if u.isSet then toString u.val.toNat else "unset"

end Uid

def Pid.display (p : Pid) : String := toString p.val.toNat

def Tid.display (t : Tid) : String := toString t.val.toNat

def CpuId.display (c : CpuId) : String := "#" ++ toString c.val.toNat

structure OpenEvent where
  pid : Pid
  tid : Tid
  ppid : Pid
  uid : Uid
  flags : UInt64
  mode : UInt64
  timestamp : Timestamp
  comm : String
  filename : String
  deriving DecidableEq, Repr

structure SyncEvent where
  comm : String
  pid : Pid
  uid : Uid
  gid : UInt32
  loginUid : Uid
  deriving DecidableEq, Repr

inductive Event where
  | opened (event : OpenEvent)
  | synced (event : SyncEvent)
  deriving DecidableEq, Repr

namespace Event

def pid : Event → Pid
  | .opened e => e.pid
  | .synced e => e.pid

def comm : Event → String
  | .opened e => e.comm
  | .synced e => e.comm

def fields : Event → List (String × Json.Scalar)
  | .opened e =>
    [("kind", .text "open"), ("pid", .number e.pid.val.toNat), ("tid", .number e.tid.val.toNat),
      ("ppid", .number e.ppid.val.toNat), ("uid", .number e.uid.val.toNat),
      ("flags", .number e.flags.toNat), ("mode", .number e.mode.toNat),
      ("timestamp", .number e.timestamp.val.toNat), ("comm", .text e.comm),
      ("filename", .text e.filename)]
  | .synced e =>
    [("kind", .text "sync"), ("comm", .text e.comm), ("pid", .number e.pid.val.toNat),
      ("uid", .number e.uid.val.toNat), ("gid", .number e.gid.toNat),
      ("login_uid", .number e.loginUid.val.toNat)]

def json (e : Event) : List Char := Json.object e.fields

def bits (word : UInt64) : String :=
  String.ofList (['0', 'x'] ++ Numeral.hex 8 word.toNat)

def sentence : Event → String
  | .opened e =>
    e.comm ++ " (pid: " ++ e.pid.display ++ ") opened: " ++ e.filename ++ " (flags: " ++
      bits e.flags ++ ", mode: " ++ bits e.mode ++ ")"
  | .synced e =>
    e.comm ++ " (pid: " ++ e.pid.display ++ ", uid: " ++ e.uid.display ++ ", gid: " ++
      toString e.gid.toNat ++ ", loginuid: " ++ e.loginUid.display ++ ") called sync"

end Event

end FileTrace
