import FileTrace.Consumer.Error
import FileTrace.Kernel
import FileTrace.Sink

namespace FileTrace

inductive ObjectCall where
  | opening (request : OpenRequest) (answer : Except LifecycleError ObjectId)
  | lookup (object : ObjectId) (program : String) (found : Bool)
  | load (object : ObjectId) (program : String) (answer : Except LifecycleError Unit)
  | attach (object : ObjectId) (program : String) (point : AttachPoint)
      (answer : Except LifecycleError LinkId)
  | detach (object : ObjectId) (program : String) (link : LinkId)
      (answer : Except LifecycleError Unit)
  | takeChannel (object : ObjectId) (map : String) (answer : Except LifecycleError Unit)
  | release (object : ObjectId)
  deriving Repr

inductive RingCall where
  | cpus (answer : Except String (List CpuId))
  | opening (cpu : CpuId) (pages : Nat) (fault : Option String)
  | waitFault (cpu : CpuId) (reason : String)
  | readFault (cpu : CpuId) (reason : String)
  | read (cpu : CpuId) (batch : Batch)
  | release (cpu : CpuId)
  deriving Repr

inductive Entry where
  | object (call : ObjectCall)
  | ring (call : RingCall)
  | delivery (d : Delivery)
  | log (line : Log.Line)
  deriving Repr

abbrev Journal := List Entry

namespace Journal

def log (level : Log.Level) (topic : Log.Topic) (text : String) : Journal :=
  [.log ⟨level, topic, text⟩]

def deliveries (journal : Journal) : List Delivery :=
  journal.filterMap fun
    | .delivery d => some d
    | _ => none

def logLines (journal : Journal) : List Log.Line :=
  journal.filterMap fun
    | .log line => some line
    | _ => none

def through (sink : Sink) : Journal → Sink × Journal
  | [] => (sink, [])
  | .delivery d :: rest =>
    let (after, lines) := sink.deliver d
    let (last, later) := through after rest
    (last, .delivery d :: lines.map .log ++ later)
  | entry :: rest =>
    let (last, later) := through sink rest
    (last, entry :: later)

end Journal

end FileTrace
