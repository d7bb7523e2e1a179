import FileTrace.Lifecycle.Error
import FileTrace.Ring.Queue

namespace FileTrace

structure OpenRequest where
  path : String
  btf : Option String
  verbose : Bool
  deriving DecidableEq, Repr

abbrev ObjectId := Nat

abbrev LinkId := Nat

structure Channel where
  cpus : Except String (List CpuId)
  openFault : Nat → CpuId → Option String
  backlog : List (CpuId × List Item)

structure Kernel (W : Type) where
  openObject : OpenRequest → W → Except LifecycleError ObjectId × W
  programs : ObjectId → W → List String
  maps : ObjectId → W → List String
  hasProgram : ObjectId → String → W → Bool
  load : ObjectId → String → W → Except LifecycleError Unit × W
  attach : ObjectId → String → AttachPoint → W → Except LifecycleError LinkId × W
  detach : ObjectId → String → LinkId → W → Except LifecycleError Unit × W
  takeChannel : ObjectId → String → W → Except LifecycleError Channel × W
  release : ObjectId → W → W

end FileTrace
