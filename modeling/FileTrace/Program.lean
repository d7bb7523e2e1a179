import FileTrace.CommandLine.Help
import FileTrace.Host.Calls
import FileTrace.Log.Filter

namespace FileTrace.Program

structure Invocation where
  arguments : List String
  btfVariable : Option String
  logFilter : Option String
  deriving DecidableEq, Repr

structure Push where
  cpu : CpuId
  items : List Item
  deriving DecidableEq, Repr

structure Run where
  exitCode : Nat
  output : List UInt8
  errors : String
  calls : List SystemCall
  deriving DecidableEq, Repr

def logText (line : Log.Line) : String :=
  Text.Terminal.plain
    (line.level.name ++ ": " ++ "\n    ".intercalate (line.text.splitOn "\n") ++ "\n")

def ended (line : String) : String := line ++ "\n"

def bytesOf (text : String) : List UInt8 := Text.encode text.toList

def answer (environment : Option String) : CommandLine.Ending → Run
  | .help form => ⟨0, bytesOf (CommandLine.Help.text form environment), "", []⟩
  | .version => ⟨0, bytesOf CommandLine.versionText, "", []⟩
  | .faulty fault => ⟨0, [], fault.message, []⟩

def filterOf (settings : CommandLine.Settings) (logFilter : Option String) :
    Log.Filter × List Log.Filter.Fault :=
  Log.Filter.parse (logFilter.getD (if settings.verbose then "debug" else "info"))

def filterWarning (fault : Log.Filter.Fault) : String :=
  ended ("warning: " ++ fault.message ++ ", ignoring it")

def rootWarning : Log.Line :=
  ⟨.warn, .preflight,
    "Not running as root: loading eBPF programs will likely fail (try sudo)"⟩

def releaseLine (h : Host) : Log.Line :=
  match h.running with
  | .ok release => ⟨.info, .preflight, "Kernel release: " ++ release.text⟩
  | .error reason => ⟨.warn, .preflight, reason⟩

def preflight (h : Host) : List Log.Line :=
  (if h.uid = 0 then [] else [rootWarning]) ++ [releaseLine h]

def memlockText (code : Nat) : String :=
  "Failed to increase RLIMIT_MEMLOCK limit (run as root or with CAP_SYS_RESOURCE): " ++
    ErrorNumber.text code

def greeting (settings : CommandLine.Settings) : List Log.Line :=
  [⟨.info, .program, "snoop v" ++ CommandLine.programVersion⟩,
    ⟨.info, .program, "object: " ++ settings.object⟩]

def seconds (milliseconds : Nat) : String :=
  let tenths := (milliseconds + 50) / 100
  toString (tenths / 10) ++ "." ++ toString (tenths % 10)

def closingLine (reason : String) (elapsed : Nat) (stats : Stats) : String :=
  reason ++ ": " ++ seconds elapsed ++ "s, " ++ toString stats.records ++ " records (" ++
    toString stats.emitted ++ " shown, " ++ toString stats.suppressed ++ " suppressed, " ++
    toString stats.decodeErrors ++ " undecodable, " ++ toString stats.lost ++ " lost)"

def pollFailureLine (reason : String) : Log.Line :=
  ⟨.error, .program, "Poll loop failed: " ++ reason⟩

def farewell (settings : CommandLine.Settings) (elapsed : Nat) :
    Except TraceError Session.Summary → Nat × List Log.Line × String
  | .error e =>
    (1, [], ended ("error: Failed to trace with " ++ settings.object ++ ": " ++ e.message))
  | .ok ⟨.shutdown, stats⟩ => (0, [], ended ("\n" ++ closingLine "interrupted" elapsed stats))
  | .ok ⟨.pollFailure reason, stats⟩ =>
    (1, [pollFailureLine reason], ended ("\n" ++ closingLine "failed" elapsed stats))

def feedOf (pushes : List Push) : Feed :=
  Feed.start (pushes.zipIdx.map fun (p, time) => ⟨time, p.cpu, p.items⟩)

def allRead (p : Session.Polling) : Bool :=
  p.feed.arrivals.isEmpty && p.consumer.rings.all fun cpu => (p.feed.queue cpu).isEmpty

def sinkOf (settings : CommandLine.Settings) (now : LocalTime) : Sink :=
  ⟨if settings.json then .json else .console now, .unlimited⟩

/-- On a host time goes on between polls, so that no wait is too short for what has arrived. -/
def configOf (settings : CommandLine.Settings) : Config :=
  { settings.config with pollTimeout := max 1 settings.pollTimeout }

def shown (filter : Log.Filter) (lines : List Log.Line) : String :=
  String.join ((lines.filter filter.lets).map logText)

def trace (h : Host) (settings : CommandLine.Settings) (filter : Log.Filter) (now : LocalTime)
    (pushes : List Push) : Option Run :=
  (Session.run h.kernel h.running (configOf settings) allRead
      (Session.StopSignal.limit .fromStart) none (feedOf pushes)).map fun report =>
    let (sink, journal) := Journal.through (sinkOf settings now) report.journal
    let (code, logged, said) := farewell settings report.feed.now report.result
    ⟨code, sink.writer.output,
      shown filter (greeting settings ++ Host.logLines journal ++ logged) ++ said,
      h.calls .start journal⟩

def start (h : Host) (settings : CommandLine.Settings) (logFilter : Option String)
    (now : LocalTime) (pushes : List Push) : Option Run :=
  let (filter, faults) := filterOf settings logFilter
  let before := String.join (faults.map filterWarning) ++ shown filter (preflight h)
  match h.memlockFault with
  | some code => some ⟨1, [], before ++ ended ("error: " ++ memlockText code), [.liftMemlock]⟩
  | none =>
    (trace h settings filter now pushes).map fun run =>
      { run with errors := before ++ run.errors, calls := .liftMemlock :: run.calls }

def run (h : Host) (invocation : Invocation) (now : LocalTime) (pushes : List Push) :
    Option Run :=
  match CommandLine.parse invocation.btfVariable invocation.arguments with
  | .error ending => some (answer invocation.btfVariable ending)
  | .ok settings => start h settings invocation.logFilter now pushes

end FileTrace.Program
