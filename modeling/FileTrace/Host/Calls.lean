import FileTrace.Host
import FileTrace.Journal

namespace FileTrace

inductive SystemCall where
  | liftMemlock
  | createMap (map : String) (kind : Nat)
  | load (program : String) (kind : Nat)
  | reject (program : String) (logLevel : Nat)
  | attach (program : String) (site : Site)
  | detach (site : Site)
  | mapRing (cpu : CpuId) (pages : Nat)
  | enableRing (cpu : CpuId)
  | enterRing (cpu : CpuId)
  | releaseRing (cpu : CpuId)
  deriving DecidableEq, Repr

def Site.text : Site → String
  | .tracepoint id => "tracepoint " ++ toString id
  | .kprobe false symbol => "kprobe " ++ symbol ++ "+0"
  | .kprobe true symbol => "kretprobe " ++ symbol ++ "+0"

namespace SystemCall

/-- The kernel keeps fifteen bytes of a name. -/
def shortName (name : String) : String :=
  String.ofList (Text.decodeLossy ((Text.encode name.toList).take 15))

def number (cpu : CpuId) : String := toString cpu.val.toNat

def text : SystemCall → String
  | .liftMemlock => "setrlimit memlock unlimited"
  | .createMap map kind => "create map " ++ shortName map ++ " type=" ++ toString kind
  | .load program kind => "load " ++ shortName program ++ " type=" ++ toString kind
  | .reject program level => "reject " ++ shortName program ++ " loglevel=" ++ toString level
  | .attach program site => "attach " ++ shortName program ++ " to " ++ site.text
  | .detach site => "detach from " ++ site.text
  | .mapRing cpu pages => "map ring cpu=" ++ number cpu ++ " pages=" ++ toString pages
  | .enableRing cpu => "enable ring cpu=" ++ number cpu
  | .enterRing cpu => "set events[" ++ number cpu ++ "]"
  | .releaseRing cpu => "release ring cpu=" ++ number cpu

end SystemCall

namespace Host

structure Watch where
  object : ObjectFile
  verbose : Bool
  sites : List (LinkId × Site)
  deriving DecidableEq, Repr

def Watch.start : Watch := ⟨⟨[], []⟩, false, []⟩

def Watch.kind (w : Watch) (program : String) : ProgramKind :=
  (Names.find? program w.object.programs).getD .other

/-- The maps of an object are created in any order; here they stand in the order of their texts. -/
def mapCalls (object : ObjectFile) : List SystemCall :=
  (object.maps.map fun (name, kind) => SystemCall.createMap name kind).mergeSort
    fun a b => !decide (b.text < a.text)

def logLevel (verbose : Bool) : Nat := if verbose then 7 else 5

/-- A program whose verifier runs out of room for its words is offered this often. -/
def attempts : Nat := 10

def rejectCalls (h : Host) (w : Watch) (program : String) : List SystemCall :=
  let short := (Names.find? program h.rejections).any (·.code == ErrorNumber.noSpace)
  List.replicate (if short then attempts else 1) (.reject program (logLevel w.verbose))

def loadCalls (h : Host) (w : Watch) (program : String) (accepted : Bool) : List SystemCall :=
  match (w.kind program).number? with
  | none => []
  | some kind => if accepted then [.load program kind] else h.rejectCalls w program

def objectCalls (h : Host) (w : Watch) : ObjectCall → List SystemCall × Watch
  | .opening request (.ok _) =>
    match h.openFile request with
    | .ok object => (mapCalls object, ⟨object, request.verbose, []⟩)
    | .error _ => ([], w)
  | .load _ program (.ok ()) => (h.loadCalls w program true, w)
  | .load _ program (.error _) => (h.loadCalls w program false, w)
  | .attach _ program point answer =>
    match h.bind (w.kind program) point, answer with
    | .ok site, .ok link => ([.attach program site], { w with sites := (link, site) :: w.sites })
    | .ok site, .error _ => ([.attach program site], w)
    | .error _, _ => ([], w)
  | .detach _ _ link _ =>
    (((w.sites.find? (·.1 == link)).map fun entry => SystemCall.detach entry.2).toList, w)
  | _ => ([], w)

def openingCalls (cpu : CpuId) (pages : Nat) : Option RingStep → List SystemCall
  | none => [.mapRing cpu pages, .enableRing cpu, .enterRing cpu]
  | some .opening => []
  | some .mapping => []
  | some .enabling => [.mapRing cpu pages, .releaseRing cpu]
  | some .entering => [.mapRing cpu pages, .enableRing cpu, .releaseRing cpu]
  | some .watching => [.mapRing cpu pages, .enableRing cpu, .enterRing cpu, .releaseRing cpu]

def ringCalls (h : Host) : RingCall → List SystemCall
  | .opening cpu pages none => openingCalls cpu pages none
  | .opening cpu pages (some _) => openingCalls cpu pages ((h.ringFault? cpu).map (·.step))
  | .release cpu => [.releaseRing cpu]
  | _ => []

def calls (h : Host) (w : Watch) : Journal → List SystemCall
  | [] => []
  | .object call :: rest => (h.objectCalls w call).1 ++ h.calls (h.objectCalls w call).2 rest
  | .ring call :: rest => h.ringCalls call ++ h.calls w rest
  | _ :: rest => h.calls w rest

def loaderLog : Entry → List Log.Line
  | .object (.opening request _) =>
    match request.btf with
    | some path => [⟨.debug, .loader, "Using BTF from " ++ path⟩]
    | none => []
  | _ => []

def logLines (journal : Journal) : List Log.Line :=
  journal.flatMap fun entry => loaderLog entry ++ Journal.logLines [entry]

end Host

end FileTrace
