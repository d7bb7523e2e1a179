import FileTrace.Target

namespace FileTrace

inductive Phase where
  | closed
  | opened
  | loaded
  | attached
  | polling
  deriving DecidableEq, Repr

def Phase.all : List Phase := [.closed, .opened, .loaded, .attached, .polling]

def Phase.name : Phase → String
  | .closed => "closed"
  | .opened => "opened"
  | .loaded => "loaded"
  | .attached => "attached"
  | .polling => "polling"

inductive Operation where
  | openObject
  | select
  | load
  | attach
  | resolveMap
  | startPolling
  deriving DecidableEq, Repr

def Operation.name : Operation → String
  | .openObject => "open"
  | .select => "select a program"
  | .load => "load"
  | .attach => "attach"
  | .resolveMap => "resolve a map"
  | .startPolling => "start polling"

def Operation.allowed : Operation → List Phase
  | .openObject => [.closed]
  | .select => [.opened]
  | .load => [.opened]
  | .attach => [.loaded, .attached]
  | .resolveMap => [.opened, .loaded, .attached]
  | .startPolling => [.attached]

inductive LifecycleError where
  | openFailed (path reason : String)
  | programNotFound (program : String)
  | loadFailed (program reason : String)
  | attachFailed (program : String) (point : AttachPoint) (reason : String)
  | detachFailed (program reason : String)
  | invalidState (operation : Operation) (phase : Phase)
  | mapNotFound (map : String)
  | wrongMapKind (map reason : String)
  deriving DecidableEq, Repr

def LifecycleError.message : LifecycleError → String
  | .openFailed path reason =>
    "Failed to open instrumentation object " ++ path ++ ": " ++ reason
  | .programNotFound program =>
    "Program " ++ program ++ " not found in instrumentation object"
  | .loadFailed program reason => "Failed to load " ++ program ++ ": " ++ reason
  | .attachFailed program point reason =>
    "Failed to attach " ++ program ++ " to " ++ point.display ++ ": " ++ reason
  | .detachFailed program reason => "Failed to detach " ++ program ++ ": " ++ reason
  | .invalidState operation phase => "Cannot " ++ operation.name ++ " while " ++ phase.name
  | .mapNotFound map => "Map " ++ map ++ " not found in instrumentation object"
  | .wrongMapKind map reason => "Map " ++ map ++ " is not a perf event array: " ++ reason

end FileTrace
