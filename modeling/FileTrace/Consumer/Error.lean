import FileTrace.Event

namespace FileTrace

inductive ConsumerError where
  | invalidPageCount (pages : Nat)
  | ringNotOpened (cpu : CpuId) (reason : String)
  | cpusUnknown (reason : String)
  | pollFailed (reason : String)
  deriving DecidableEq, Repr

def ConsumerError.message : ConsumerError → String
  | .invalidPageCount pages =>
    "Invalid per-CPU page count " ++ toString pages ++ ": must be a non-zero power of two"
  | .ringNotOpened cpu reason =>
    "Failed to open perf buffer on CPU " ++ cpu.display ++ ": " ++ reason
  | .cpusUnknown reason => "Failed to enumerate online CPUs: " ++ reason
  | .pollFailed reason => "Perf buffer poll failed: " ++ reason

end FileTrace
