import FileTrace.Consumer
import FileTrace.Lifecycle
import FileTrace.Release

namespace FileTrace

inductive LayoutPolicy where
  | auto (threshold : Release)
  | fixed (layout : OpenLayout)
  deriving DecidableEq, Repr

namespace LayoutPolicy

def comparedText (running threshold : Release) (layout : OpenLayout) : String :=
  "Kernel " ++ running.text ++ " vs threshold " ++ threshold.text ++ ": " ++ layout.name ++
    " open layout"

def resolve (running : Except String Release) : LayoutPolicy → OpenLayout × Journal
  | .fixed layout => (layout, [])
  | .auto threshold =>
    match running with
    | .ok running =>
      let layout := OpenLayout.forKernel running threshold
      (layout, Journal.log .debug .decoding (comparedText running threshold layout))
    | .error reason =>
      (.current, Journal.log .warn .decoding (reason ++ "; assuming current open layout"))

end LayoutPolicy

inductive TraceError where
  | lifecycle (error : LifecycleError)
  | consumer (error : ConsumerError)
  | invalidRelease (text : String)
  deriving DecidableEq, Repr

def TraceError.message : TraceError → String
  | .lifecycle error => error.message
  | .consumer error => error.message
  | .invalidRelease text => Release.invalidMessage text

def Release.parse (text : String) : Except TraceError Release :=
  match Release.parse? text with
  | some release => .ok release
  | none => .error (.invalidRelease text)

structure Config where
  request : OpenRequest
  target : Target
  pages : Nat
  pollTimeout : Nat
  layout : LayoutPolicy
  deriving DecidableEq, Repr

namespace Session

inductive Exit where
  | shutdown
  | pollFailure (reason : String)
  deriving DecidableEq, Repr

structure Summary where
  exit : Exit
  stats : Stats
  deriving DecidableEq, Repr

def logged (level : Log.Level) (text : String) : Journal := Journal.log level .session text

structure Polling where
  consumer : Consumer
  feed : Feed

def pollLoop (timeout : Nat) (stop : Polling → Bool) :
    Nat → Polling → Option (Exit × Polling × Journal)
  | 0, _ => none
  | limit + 1, p =>
    let polled := p.consumer.poll timeout p.feed
    let p : Polling := ⟨polled.consumer, polled.feed⟩
    match polled.result with
    | .error e =>
      some (.pollFailure e.message, p,
        polled.journal ++ logged .error ("Error polling perf buffer: " ++ e.message))
    | .ok _ =>
      if stop p then some (.shutdown, p, polled.journal ++ logged .info "Shutdown requested")
      else (pollLoop timeout stop limit p).map fun (exit, last, later) =>
        (exit, last, polled.journal ++ later)

inductive StopSignal where
  | fromStart
  | atTime (time : Nat)
  | afterEvents (count : Nat)
  deriving DecidableEq, Repr

def StopSignal.isUp (signal : StopSignal) (p : Polling) : Bool :=
  match signal with
  | .fromStart => true
  | .atTime time => time ≤ p.feed.now
  | .afterEvents count => count ≤ p.consumer.stats.emitted

def StopSignal.horizon (signal : StopSignal) (feed : Feed) : Nat :=
  let arrivals := (feed.arrivals.map (·.time)).foldl max feed.now
  match signal with
  | .atTime time => max time arrivals
  | _ => arrivals

/-- As many polls as there are items to read and milliseconds to wait for. -/
def StopSignal.limit (signal : StopSignal) (p : Polling) : Nat :=
  p.consumer.rings.foldr (fun cpu n => (p.feed.queue cpu).length + n) 0 +
    p.feed.arrivals.foldr (fun a n => a.items.length + 1 + n) 0 + signal.horizon p.feed + 2

variable {W : Type}

def prepare (k : Kernel W) (running : Except String Release) (config : Config)
    (s : Lifecycle W) : Outcome W (Channel × Decoder) :=
  (s.openObject k config.request).andThen fun _ s =>
  (s.select k config.target.program).andThen fun program s =>
  (s.load k).andThen fun _ s =>
  let (layout, journal) := config.layout.resolve running
  let attached := (s.attach k program config.target.attachPoint).andThen fun _ s =>
    (s.resolveMap k Target.channel).andThen fun channel s =>
    ⟨.ok (channel, ⟨config.target.recordKind, layout⟩), s, []⟩
  { attached with journal := journal ++ attached.journal }

structure Report (W : Type) where
  result : Except TraceError Summary
  kernel : W
  feed : Feed
  journal : Journal

def tracingText (point : AttachPoint) (rings : Nat) : String :=
  "Tracing " ++ point.display ++ " (" ++ toString rings ++ " CPUs), Ctrl-C to stop"

def abandon (k : Kernel W) (error : TraceError) (s : Lifecycle W) (feed : Feed)
    (journal : Journal) : Report W :=
  let (closed, released) := s.close k
  ⟨.error error, closed.kernel, feed, journal ++ released⟩

def trace (k : Kernel W) (config : Config) (stop : Polling → Bool) (limit : Polling → Nat)
    (s : Lifecycle W) (p : Polling) (journal : Journal) : Option (Report W) :=
  let polling := s.startPolling
  match polling.result with
  | .error e =>
    let (_, released) := p.consumer.destroy
    some (abandon k (.lifecycle e) polling.state p.feed (journal ++ released))
  | .ok () =>
    (pollLoop config.pollTimeout stop (limit p) p).map fun (exit, last, polls) =>
      let (_, released) := last.consumer.destroy
      let (closed, detached) := polling.state.close k
      ⟨.ok ⟨exit, last.consumer.stats⟩, closed.kernel, last.feed,
        journal ++
          logged .info (tracingText config.target.attachPoint p.consumer.rings.length) ++
          polls ++ released ++ detached⟩

/-- Runs a session on a kernel whose release reads as `running`. None if it takes more polls than
`limit` allows. -/
def run (k : Kernel W) (running : Except String Release) (config : Config)
    (stop : Polling → Bool) (limit : Polling → Nat) (kernel : W) (feed : Feed) :
    Option (Report W) :=
  let prepared := prepare k running config (Lifecycle.fresh kernel)
  match prepared.result with
  | .error e => some (abandon k (.lifecycle e) prepared.state feed prepared.journal)
  | .ok (channel, decoder) =>
    let feed := feed.fill channel.backlog
    let (created, opening) := Consumer.create channel config.pages decoder
    let journal := prepared.journal ++ opening
    match created with
    | .error e => some (abandon k (.consumer e) prepared.state feed journal)
    | .ok consumer => trace k config stop limit prepared.state ⟨consumer, feed⟩ journal

def runUntil (k : Kernel W) (running : Except String Release) (config : Config)
    (signal : StopSignal) (kernel : W) (feed : Feed) : Option (Report W) :=
  run k running config signal.isUp signal.limit kernel feed

end Session

end FileTrace
