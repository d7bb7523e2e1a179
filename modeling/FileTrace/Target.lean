import FileTrace.Record

namespace FileTrace

inductive AttachPoint where
  | tracepoint (category name : String)
  | kprobe (symbol : String)
  deriving DecidableEq, Repr

def AttachPoint.display : AttachPoint → String
  | .tracepoint category name => "tracepoint " ++ category ++ "/" ++ name
  | .kprobe symbol => "kprobe " ++ symbol

inductive Target where
  | openat
  | openat2
  | sync
  | ksysSync
  deriving DecidableEq, Repr

namespace Target

def all : List Target := [.openat, .openat2, .sync, .ksysSync]

def name : Target → String
  | .openat => "openat"
  | .openat2 => "openat2"
  | .sync => "sync"
  | .ksysSync => "ksys-sync"

def program : Target → String
  | .openat => "sys_enter_openat"
  | .openat2 => "do_sys_openat2"
  | .sync => "tracepoint__sys_enter_sync"
  | .ksysSync => "ksys_sync"

def attachPoint : Target → AttachPoint
  | .openat => .tracepoint "syscalls" "sys_enter_openat"
  | .openat2 => .kprobe "do_sys_openat2"
  | .sync => .tracepoint "syscalls" "sys_enter_sync"
  | .ksysSync => .kprobe "ksys_sync"

def recordKind : Target → RecordKind
  | .openat => .opening
  | .openat2 => .opening
  | .sync => .syncing
  | .ksysSync => .syncing

def channel : String := "events"

def ofName? (name : String) : Option Target :=
  all.find? (·.name == name)

def ofNameIgnoringCase? (name : String) : Option Target :=
  all.find? (·.name.toList.map Char.toLower == name.toList.map Char.toLower)

def unknownMessage (name : String) : String := "invalid variant: " ++ name

end Target

end FileTrace
