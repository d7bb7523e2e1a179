import FileTrace.CpuList
import FileTrace.ErrorNumber
import FileTrace.Kernel
import FileTrace.Names
import FileTrace.Release
import FileTrace.TypeInformation

namespace FileTrace

inductive ProgramKind where
  | tracepoint
  | kprobe
  | kretprobe
  | other
  deriving DecidableEq, Repr

namespace ProgramKind

def number? : ProgramKind → Option Nat
  | .tracepoint => some 5
  | .kprobe => some 2
  | .kretprobe => some 2
  | .other => none

end ProgramKind

def eventArrayKind : Nat := 4

structure ObjectFile where
  programs : List (String × ProgramKind)
  maps : List (String × Nat)
  deriving DecidableEq, Repr

inductive FileContent where
  | object (object : ObjectFile)
  | bytes (raw : List UInt8)
  deriving DecidableEq, Repr

inductive RingStep where
  | opening
  | mapping
  | enabling
  | entering
  | watching
  deriving DecidableEq, Repr

def RingStep.all : List RingStep := [.opening, .mapping, .enabling, .entering, .watching]

structure RingFault where
  cpu : CpuId
  step : RingStep
  code : Nat
  deriving DecidableEq, Repr

structure Rejection where
  code : Nat
  words : String
  deriving DecidableEq, Repr

structure Host where
  files : List (String × FileContent)
  release : Option String
  online : Option String
  uid : Nat
  memlockFault : Option Nat
  mapsFail : Bool
  rejections : List (String × Rejection)
  tracepoints : Option (List (String × String))
  hasKprobes : Bool
  symbols : List String
  eventsFail : Bool
  bindingFails : Bool
  enablingFails : Bool
  ringFaults : List RingFault
  deriving DecidableEq, Repr

inductive Site where
  | tracepoint (id : Nat)
  | kprobe (atReturn : Bool) (symbol : String)
  deriving DecidableEq, Repr

namespace Host

def releasePath : String := "/proc/sys/kernel/osrelease"

def onlinePath : String := "/sys/devices/system/cpu/online"

def running (h : Host) : Except String Release :=
  match h.release with
  | none =>
    .error ("Failed to read kernel release from " ++ releasePath ++ ": " ++
      ErrorNumber.text ErrorNumber.missingFile)
  | some content =>
    let text := String.ofList (Text.trim content.toList)
    match Release.parse? text with
    | some release => .ok release
    | none => .error (Release.invalidMessage text)

def cpus (h : Host) : Except String (List CpuId) :=
  match h.online with
  | none =>
    .error ("Failed to read " ++ onlinePath ++ ": " ++
      ErrorNumber.text ErrorNumber.missingFile)
  | some content =>
    match CpuList.parse content with
    | .ok cpus => .ok cpus
    | .error fault => .error fault.message

def file? (h : Host) (path : String) : Option FileContent := Names.find? path h.files

def typeInformationFault? (h : Host) (path : String) : Option String :=
  let fault? : Option String :=
    match h.file? path with
    | none => some ("error parsing " ++ path)
    | some (.object _) => some TypeInformation.Fault.header.message
    | some (.bytes raw) => (TypeInformation.fault? raw).map (·.message)
  fault?.map fun fault => "BTF " ++ path ++ ": " ++ fault

def readObject (h : Host) (path : String) : Except String ObjectFile :=
  match h.file? path with
  | none => .error ("error loading " ++ path)
  | some (.bytes _) => .error "error parsing BPF object: error parsing ELF data"
  | some (.object object) =>
    match h.mapsFail, Names.sort (object.maps.map (·.1)) with
    | true, map :: _ =>
      .error ("map error: failed to create map `" ++ map ++ "` with code -1")
    | _, _ => .ok object

def openFile (h : Host) (request : OpenRequest) : Except String ObjectFile :=
  match request.btf.bind h.typeInformationFault? with
  | some reason => .error reason
  | none => h.readObject request.path

def rejectionText (r : Rejection) : String :=
  "the BPF_PROG_LOAD syscall failed. Verifier output: " ++
    String.ofList (r.words.toList.takeWhile (· ≠ '\x00'))

def loadFault? (h : Host) (program : String) (kind : ProgramKind) : Option String :=
  match kind.number? with
  | none => some "only tracepoint and kprobe programs are supported"
  | some _ => (Names.find? program h.rejections).map rejectionText

def tracepointSite (h : Host) (category name : String) : Except String Site :=
  match h.tracepoints with
  | none => .error "tracefs not found"
  | some table =>
    let place := category ++ "/" ++ name
    let id := Numeral.read Numeral.word32
      (Text.trim ((Names.find? place table).getD "").toList)
    match id with
    | .error _ => .error ("`/sys/kernel/tracing/events/" ++ place ++ "/id`")
    | .ok id => if h.eventsFail then .error "`perf_event_open_trace_point` failed" else
      .ok (.tracepoint id)

def kprobeSite (h : Host) (atReturn : Bool) (symbol : String) : Except String Site :=
  if !h.hasKprobes then .error "`/sys/bus/event_source/devices/kprobe/type`"
  else if h.eventsFail || !h.symbols.contains symbol then .error "`perf_event_open` failed"
  else .ok (.kprobe atReturn symbol)

def site (h : Host) (kind : ProgramKind) (point : AttachPoint) : Except String Site :=
  match kind, point with
  | .tracepoint, .tracepoint category name => h.tracepointSite category name
  | .kprobe, .kprobe symbol => h.kprobeSite false symbol
  | .kretprobe, .kprobe symbol => h.kprobeSite true symbol
  | _, _ => .error "unexpected program type"

def bind (h : Host) (kind : ProgramKind) (point : AttachPoint) : Except String Site :=
  match h.site kind point with
  | .error reason => .error reason
  | .ok site => if h.bindingFails then .error "`PERF_EVENT_IOC_SET_BPF` failed" else .ok site

def attach (h : Host) (kind : ProgramKind) (point : AttachPoint) : Except String Site :=
  match h.bind kind point with
  | .error reason => .error reason
  | .ok site => if h.enablingFails then .error "`PERF_EVENT_IOC_ENABLE` failed" else .ok site

def ringFault? (h : Host) (cpu : CpuId) : Option RingFault :=
  RingStep.all.findSome? fun step => h.ringFaults.find? fun f => f.cpu = cpu ∧ f.step = step

def ringFaultText (f : RingFault) : String :=
  match f.step with
  | .opening => "perf_event_open failed: " ++ ErrorNumber.text f.code
  | .mapping => "mmap failed: " ++ ErrorNumber.text f.code
  | .enabling => "PERF_EVENT_IOC_ENABLE failed: " ++ ErrorNumber.text f.code
  | .entering => ErrorNumber.text f.code
  | .watching => ErrorNumber.text 1

def channel (h : Host) : Channel :=
  ⟨h.cpus, fun _ cpu => (h.ringFault? cpu).map ringFaultText, []⟩

structure Opened where
  object : ObjectFile
  maps : List (String × Nat)
  links : Nat
  deriving DecidableEq, Repr

namespace Opened

def kind? (o : Opened) (program : String) : Option ProgramKind :=
  Names.find? program o.object.programs

def takeChannel (h : Host) (name : String) (o : Opened) :
    Except LifecycleError Channel × Opened :=
  match Names.find? name o.maps with
  | none => (.error (.mapNotFound name), o)
  | some kind =>
    let left := { o with maps := o.maps.filter (·.1 != name) }
    if kind = eventArrayKind then (.ok h.channel, left)
    else (.error (.wrongMapKind name ("invalid map type " ++ toString kind)), left)

def load (h : Host) (name : String) (o : Opened) : Except LifecycleError Unit :=
  match o.kind? name with
  | none => .error (.programNotFound name)
  | some kind =>
    match h.loadFault? name kind with
    | some reason => .error (.loadFailed name reason)
    | none => .ok ()

def attach (h : Host) (name : String) (point : AttachPoint) (o : Opened) :
    Except LifecycleError LinkId × Opened :=
  match o.kind? name with
  | none => (.error (.programNotFound name), o)
  | some kind =>
    match h.attach kind point with
    | .error reason => (.error (.attachFailed name point reason), o)
    | .ok _ => (.ok (o.links + 1), { o with links := o.links + 1 })

end Opened

abbrev World := Option Opened

def openObject (h : Host) (request : OpenRequest) : Except LifecycleError ObjectId × World :=
  match h.openFile request with
  | .error reason => (.error (.openFailed request.path reason), none)
  | .ok object => (.ok 0, some ⟨object, object.maps, 0⟩)

def onOpened {α : Type} (w : World) (otherwise : α) (act : Opened → α × Opened) : α × World :=
  match w with
  | none => (otherwise, none)
  | some o => ((act o).1, some (act o).2)

def programs : World → List String
  | none => []
  | some o => Names.sort (o.object.programs.map (·.1))

def maps : World → List String
  | none => []
  | some o => Names.sort (o.maps.map (·.1))

def kernel (h : Host) : Kernel World where
  openObject request _ := h.openObject request
  programs _ w := programs w
  maps _ w := maps w
  hasProgram _ name w := (w.bind (·.kind? name)).isSome
  load _ name w := onOpened w (.error (.programNotFound name)) fun o => (o.load h name, o)
  attach _ name point w := onOpened w (.error (.programNotFound name)) (·.attach h name point)
  detach _ name _ w := onOpened w (.error (.programNotFound name)) fun o => (.ok (), o)
  takeChannel _ name w := onOpened w (.error (.mapNotFound name)) (·.takeChannel h name)
  release _ _ := none

end Host

end FileTrace
