import FileTrace.Journal
import FileTrace.Names

namespace FileTrace

structure Lifecycle (W : Type) where
  kernel : W
  phase : Phase
  object : Option ObjectId
  selected : List String
  links : List (String × LinkId)

structure SelectedProgram where
  name : String
  deriving DecidableEq, Repr

structure Outcome (W α : Type) where
  result : Except LifecycleError α
  state : Lifecycle W
  journal : Journal

def Outcome.andThen {W α β : Type} (o : Outcome W α) (next : α → Lifecycle W → Outcome W β) :
    Outcome W β :=
  match o.result with
  | .error e => ⟨.error e, o.state, o.journal⟩
  | .ok a =>
    let later := next a o.state
    ⟨later.result, later.state, o.journal ++ later.journal⟩

namespace Lifecycle

variable {W : Type}

def fresh (kernel : W) : Lifecycle W := ⟨kernel, .closed, none, [], []⟩

def attachedCount (s : Lifecycle W) : Nat := s.links.length

def logged (level : Log.Level) (text : String) : Journal := Journal.log level .lifecycle text

def refuse {α : Type} (s : Lifecycle W) (operation : Operation) (phase : Phase) : Outcome W α :=
  ⟨.error (.invalidState operation phase), s, []⟩

def onObject {α : Type} (s : Lifecycle W) (operation : Operation)
    (act : ObjectId → Outcome W α) : Outcome W α :=
  if s.phase ∈ operation.allowed then
    match s.object with
    | some object => act object
    | none => s.refuse operation .closed
  else s.refuse operation s.phase

def openedText (request : OpenRequest) (programs maps : List String) : String :=
  "Opened " ++ request.path ++ ": programs [" ++ ", ".intercalate programs ++ "], maps [" ++
    ", ".intercalate maps ++ "]"

def openObject (k : Kernel W) (request : OpenRequest) (s : Lifecycle W) : Outcome W Unit :=
  if s.phase ∈ Operation.openObject.allowed then
    match k.openObject request s.kernel with
    | (.error e, w) => ⟨.error e, { s with kernel := w }, [.object (.opening request (.error e))]⟩
    | (.ok object, w) =>
      ⟨.ok (), { s with kernel := w, object := some object, phase := .opened },
        .object (.opening request (.ok object)) ::
          logged .info (openedText request (k.programs object w) (k.maps object w))⟩
  else s.refuse .openObject s.phase

def programs (k : Kernel W) (s : Lifecycle W) : List String :=
  match s.object with
  | some object => k.programs object s.kernel
  | none => []

def maps (k : Kernel W) (s : Lifecycle W) : List String :=
  match s.object with
  | some object => k.maps object s.kernel
  | none => []

def select (k : Kernel W) (name : String) (s : Lifecycle W) : Outcome W SelectedProgram :=
  s.onObject .select fun object =>
    if k.hasProgram object name s.kernel then
      ⟨.ok ⟨name⟩, { s with selected := Names.insert name s.selected },
        .object (.lookup object name true) :: logged .debug ("Autoload enabled for " ++ name)⟩
    else ⟨.error (.programNotFound name), s, [.object (.lookup object name false)]⟩

def detachEach (k : Kernel W) (object : ObjectId) :
    List (String × LinkId) → W → W × Journal
  | [], w => (w, [])
  | (name, link) :: rest, w =>
    let (answer, w) := k.detach object name link w
    let line := match answer with
      | .ok () => logged .debug ("Detached " ++ name)
      | .error e => logged .warn e.message
    let (w, later) := detachEach k object rest w
    (w, .object (.detach object name link answer) :: line ++ later)

def close (k : Kernel W) (s : Lifecycle W) : Lifecycle W × Journal :=
  match s.object with
  | none => ({ s with phase := .closed, selected := [] }, [])
  | some object =>
    let (w, detached) := detachEach k object s.links.reverse s.kernel
    (fresh (k.release object w),
      detached ++ .object (.release object) :: logged .info "Closed instrumentation object")

def loadEach (k : Kernel W) (object : ObjectId) :
    List String → W → Except LifecycleError Unit × W × Journal
  | [], w => (.ok (), w, [])
  | name :: rest, w =>
    match k.load object name w with
    | (.error e, w) => (.error e, w, [.object (.load object name (.error e))])
    | (.ok (), w) =>
      let (answer, w, later) := loadEach k object rest w
      (answer, w,
        .object (.load object name (.ok ())) :: logged .info ("Loaded program " ++ name) ++ later)

def nothingSelected : LifecycleError :=
  .loadFailed "<none>" "no program selected for autoload"

def load (k : Kernel W) (s : Lifecycle W) : Outcome W Unit :=
  s.onObject .load fun object =>
    let (answer, w, journal) :=
      if s.selected.isEmpty then (.error nothingSelected, s.kernel, [])
      else loadEach k object s.selected s.kernel
    match answer with
    | .ok () => ⟨.ok (), { s with kernel := w, phase := .loaded }, journal⟩
    | .error e =>
      let (closed, released) := close k { s with kernel := w }
      ⟨.error e, closed, journal ++ released⟩

def notSelected (program : SelectedProgram) (point : AttachPoint) : LifecycleError :=
  .attachFailed program.name point "program was not selected for loading"

def attach (k : Kernel W) (program : SelectedProgram) (point : AttachPoint) (s : Lifecycle W) :
    Outcome W Unit :=
  s.onObject .attach fun object =>
    if program.name ∈ s.selected then
      match k.attach object program.name point s.kernel with
      | (.error e, w) =>
        ⟨.error e, { s with kernel := w }, [.object (.attach object program.name point (.error e))]⟩
      | (.ok link, w) =>
        ⟨.ok (), { s with
            kernel := w, phase := .attached, links := s.links ++ [(program.name, link)] },
          .object (.attach object program.name point (.ok link)) ::
            logged .info ("Attached " ++ program.name ++ " to " ++ point.display)⟩
    else ⟨.error (notSelected program point), s, []⟩

def resolveMap (k : Kernel W) (name : String) (s : Lifecycle W) : Outcome W Channel :=
  s.onObject .resolveMap fun object =>
    match k.takeChannel object name s.kernel with
    | (.error e, w) =>
      ⟨.error e, { s with kernel := w }, [.object (.takeChannel object name (.error e))]⟩
    | (.ok channel, w) =>
      ⟨.ok channel, { s with kernel := w },
        .object (.takeChannel object name (.ok ())) ::
          logged .debug ("Resolved event channel " ++ name)⟩

def startPolling (s : Lifecycle W) : Outcome W Unit :=
  if s.phase ∈ Operation.startPolling.allowed then ⟨.ok (), { s with phase := .polling }, []⟩
  else s.refuse .startPolling s.phase

end Lifecycle

end FileTrace
