import FileTrace.Kernel
import FileTrace.Names

namespace FileTrace.Scripted

inductive MapScript where
  | channel (channel : Channel)
  | other (reason : String)

structure ObjectScript where
  programs : List String
  maps : List (String × MapScript)
  loadFaults : List (String × String)
  attachFaults : List (String × Nat)
  detachFaults : List (String × String)

abbrev Script := List (String × Except String ObjectScript)

structure Opened where
  script : ObjectScript
  links : Nat

structure World where
  script : Script
  opened : Option Opened

namespace Opened

def load (o : Opened) (program : String) : Except LifecycleError Unit :=
  match Names.find? program o.script.loadFaults with
  | some reason => .error (.loadFailed program reason)
  | none => .ok ()

def countDown (program : String) : List (String × Nat) → List (String × Nat)
  | [] => []
  | (name, n) :: rest =>
    if name = program then (name, n - 1) :: rest else (name, n) :: countDown program rest

def attach (o : Opened) (program : String) (point : AttachPoint) :
    Except LifecycleError LinkId × Opened :=
  if 0 < (Names.find? program o.script.attachFaults).getD 0 then
    (.error (.attachFailed program point "busy"),
      { o with script :=
          { o.script with attachFaults := countDown program o.script.attachFaults } })
  else (.ok (o.links + 1), { o with links := o.links + 1 })

def detach (o : Opened) (program : String) : Except LifecycleError Unit :=
  match Names.find? program o.script.detachFaults with
  | some reason => .error (.detachFailed program reason)
  | none => .ok ()

def takeChannel (o : Opened) (map : String) : Except LifecycleError Channel × Opened :=
  match Names.find? map o.script.maps with
  | none => (.error (.mapNotFound map), o)
  | some (.other reason) => (.error (.wrongMapKind map reason), o)
  | some (.channel channel) =>
    (.ok channel,
      { o with script := { o.script with maps := o.script.maps.filter (·.1 != map) } })

end Opened

namespace World

def start (script : Script) : World := ⟨script, none⟩

def openObject (request : OpenRequest) (w : World) : Except LifecycleError ObjectId × World :=
  match Names.find? request.path w.script with
  | none => (.error (.openFailed request.path "No such file or directory"), w)
  | some (.error reason) => (.error (.openFailed request.path reason), w)
  | some (.ok object) => (.ok 0, { w with opened := some ⟨object, 0⟩ })

def onOpened {α : Type} (w : World) (otherwise : α) (act : Opened → α × Opened) : α × World :=
  match w.opened with
  | none => (otherwise, w)
  | some o =>
    let (answer, o) := act o
    (answer, { w with opened := some o })

def programs (w : World) : List String :=
  match w.opened with
  | none => []
  | some o => o.script.programs

def maps (w : World) : List String :=
  match w.opened with
  | none => []
  | some o => Names.sort (o.script.maps.map (·.1))

end World

def kernel : Kernel World where
  openObject := World.openObject
  programs _ w := w.programs
  maps _ w := w.maps
  hasProgram _ name w := w.programs.contains name
  load _ name w := w.onOpened (.error (.programNotFound name)) fun o => (o.load name, o)
  attach _ name point w := w.onOpened (.error (.programNotFound name)) (·.attach name point)
  detach _ name _ w := w.onOpened (.error (.programNotFound name)) fun o => (o.detach name, o)
  takeChannel _ map w := w.onOpened (.error (.mapNotFound map)) (·.takeChannel map)
  release _ w := { w with opened := none }

end FileTrace.Scripted
