import FileTrace.Proofs.Record.Layout
import FileTrace.Proofs.Session.PollLoop
import FileTrace.Scripted

namespace FileTrace

namespace OpenLayout

open Record

theorem flagsOffset_eq (l l' : OpenLayout) : l.flagsOffset = l'.flagsOffset := by
  cases l <;> cases l' <;> rfl

theorem sizes_eq (l l' : OpenLayout) : l.recordSize = l'.recordSize := by
  simp only [recordSize, filenameOffset, commOffset, timestampOffset, modeOffset,
    flagsOffset_eq l l']

theorem readOpen_eq (l l' : OpenLayout) (raw : List UInt8) : readOpen l raw = readOpen l' raw := by
  simp only [readOpen, filenameOffset, commOffset, timestampOffset, modeOffset,
    flagsOffset_eq l l']

def readMembers (l : OpenLayout) (raw : List UInt8) : OpenEvent where
  pid := ⟨word32 (l.shape.offset "pid") raw⟩
  tid := ⟨word32 (l.shape.offset "tid") raw⟩
  ppid := ⟨word32 (l.shape.offset "ppid") raw⟩
  uid := ⟨word32 (l.shape.offset "uid") raw⟩
  flags := word64 (l.argumentOffset "flags") raw
  mode := word64 (l.argumentOffset "mode") raw
  timestamp := ⟨word64 (l.shape.offset "ts") raw⟩
  comm := text (l.shape.offset "comm") commCapacity raw
  filename := text (l.shape.offset "filename") filenameCapacity raw

def decodeMembers (l : OpenLayout) (raw : List UInt8) : Except Truncated (Option Event) :=
  if raw.length < l.shape.size then .error ⟨l.shape.size, raw.length⟩
  else if (l.readMembers raw).flags &&& directoryFlag = 0 then .ok (some (.opened (l.readMembers raw)))
  else .ok none

theorem readOpen_members (l : OpenLayout) (raw : List UInt8) :
    readOpen l raw = l.readMembers raw := by
  obtain ⟨caller, arguments, circumstances⟩ := l.offsets_eq
  simp only [List.map_cons, List.map_nil, List.cons.injEq, and_true]
    at caller arguments circumstances
  obtain ⟨pid, tid, ppid, uid⟩ := caller
  obtain ⟨flags, mode⟩ := arguments
  obtain ⟨timestamp, comm, filename⟩ := circumstances
  rw [readOpen, readMembers, pid, tid, ppid, uid, flags, mode, timestamp, comm, filename]

theorem decode_members (l : OpenLayout) (raw : List UInt8) :
    Decoder.decode ⟨.opening, l⟩ raw = l.decodeMembers raw := by
  simp only [Decoder.decode, Decoder.recordSize, Decoder.event?, decodeMembers, recordSize_eq,
    readOpen_members]
  split
  · rfl
  · split <;> rfl

end OpenLayout

namespace Decoder

def inLayout (layout : OpenLayout) (d : Decoder) : Decoder := { d with layout := layout }

theorem decode_inLayout (layout : OpenLayout) (d : Decoder) (raw : List UInt8) :
    (d.inLayout layout).decode raw = d.decode raw := by
  obtain ⟨kind, l⟩ := d
  cases kind with
  | opening =>
    have size : (inLayout layout ⟨.opening, l⟩).recordSize = l.recordSize := layout.sizes_eq l
    have event : (inLayout layout ⟨.opening, l⟩).event? raw = event? ⟨.opening, l⟩ raw := by
      rw [event?, event?, inLayout, layout.readOpen_eq l]
    rw [decode, decode, size, event]
    rfl
  | syncing => rfl

end Decoder

namespace Consumer

def inLayout (layout : OpenLayout) (c : Consumer) : Consumer :=
  { c with decoder := c.decoder.inLayout layout }

@[simp] theorem inLayout_rings (layout : OpenLayout) (c : Consumer) :
    (c.inLayout layout).rings = c.rings := rfl

def Polled.inLayout (layout : OpenLayout) (polled : Polled) : Polled :=
  { polled with consumer := polled.consumer.inLayout layout }

@[simp] theorem Polled.inLayout_result (layout : OpenLayout) (polled : Polled) :
    (polled.inLayout layout).result = polled.result := rfl

@[simp] theorem Polled.inLayout_journal (layout : OpenLayout) (polled : Polled) :
    (polled.inLayout layout).journal = polled.journal := rfl

variable (layout : OpenLayout)

theorem takeSample_inLayout (decoder : Decoder) (cpu : CpuId) (raw : List UInt8) (s : Stats) :
    takeSample (decoder.inLayout layout) cpu raw s = takeSample decoder cpu raw s := by
  rw [takeSample, takeSample, decoder.decode_inLayout]

theorem takeSamples_inLayout (decoder : Decoder) (cpu : CpuId) (samples : List (List UInt8))
    (s : Stats) :
    takeSamples (decoder.inLayout layout) cpu samples s = takeSamples decoder cpu samples s := by
  induction samples generalizing s with
  | nil => rfl
  | cons raw rest ih => simp only [takeSamples, takeSample_inLayout, ih]

theorem takeBatch_inLayout (decoder : Decoder) (cpu : CpuId) (batch : Batch) (s : Stats) :
    takeBatch (decoder.inLayout layout) cpu batch s = takeBatch decoder cpu batch s := by
  simp only [takeBatch, takeSamples_inLayout]

theorem takeBatches_inLayout (decoder : Decoder) (cpu : CpuId) (batches : List Batch) (s : Stats) :
    takeBatches (decoder.inLayout layout) cpu batches s = takeBatches decoder cpu batches s := by
  induction batches generalizing s with
  | nil => rfl
  | cons batch rest ih => simp only [takeBatches, takeBatch_inLayout, ih]

theorem drainQueue_inLayout (c : Consumer) (f : Feed) (cpu : CpuId) :
    (c.inLayout layout).drainQueue f cpu = c.drainQueue f cpu :=
  takeBatches_inLayout layout c.decoder cpu (Queue.drain (f.queue cpu)).batches c.stats

theorem drained_inLayout (c : Consumer) (f : Feed) (cpu : CpuId) :
    (c.inLayout layout).drained f cpu = (c.drained f cpu).inLayout layout := by
  rw [drained, drainQueue_inLayout]
  rfl

theorem drainRings_inLayout (records lost : Nat) (c : Consumer) (f : Feed) (cpus : List CpuId) :
    drainRings records lost (c.inLayout layout) f cpus =
      (drainRings records lost c f cpus).inLayout layout := by
  induction cpus generalizing records lost c f with
  | nil => rfl
  | cons cpu rest ih =>
    cases fault : (Queue.drain (f.queue cpu)).fault with
    | some reason =>
      rw [drainRings_fault fault, drainRings_fault fault, drained_inLayout, drainQueue_inLayout]
      rfl
    | none =>
      rw [drainRings_next fault, drainRings_next fault, drained_inLayout, drainQueue_inLayout, ih]
      rfl

theorem poll_inLayout (timeout : Nat) (c : Consumer) (f : Feed) :
    (c.inLayout layout).poll timeout f = (c.poll timeout f).inLayout layout := by
  rw [poll, poll, inLayout_rings]
  split
  · rfl
  · split
    · rfl
    · rfl
    · exact drainRings_inLayout layout 0 0 c.countPoll _ _

theorem create_inLayout (channel : Channel) (pages : Nat) (decoder : Decoder) :
    create channel pages (decoder.inLayout layout) =
      ((create channel pages decoder).1.map (·.inLayout layout),
        (create channel pages decoder).2) := by
  rw [create, create]
  split
  · split
    · rfl
    · split <;> rfl
  · rfl

theorem destroy_inLayout (c : Consumer) : (c.inLayout layout).destroy.2 = c.destroy.2 := by
  rw [destroy, destroy, inLayout_rings]
  split <;> rfl

end Consumer

def Entry.tellsLayout : Entry → Bool
  | .log line => line.topic == .decoding
  | _ => false

namespace Journal

def layoutless (journal : Journal) : Journal := journal.filter (!·.tellsLayout)

theorem layoutless_append (xs ys : Journal) :
    layoutless (xs ++ ys) = xs.layoutless ++ ys.layoutless := List.filter_append xs ys

theorem deliveries_layoutless (journal : Journal) :
    journal.layoutless.deliveries = journal.deliveries := by
  rw [layoutless, deliveries, List.filterMap_filter]
  refine List.filterMap_congr fun entry _ => ?_
  cases entry with
  | log line => exact ite_self _
  | object call => rfl
  | ring call => rfl
  | delivery d => rfl

end Journal

namespace Session

open Lifecycle

def Polling.inLayout (layout : OpenLayout) (p : Polling) : Polling :=
  { p with consumer := p.consumer.inLayout layout }

/-- What does not look at the layout of the records. -/
def Blind {α : Type} (f : Polling → α) : Prop := ∀ layout p, f (p.inLayout layout) = f p

section

variable (layout : OpenLayout) (timeout : Nat) (p : Polling)

theorem pollAfter_inLayout :
    pollAfter timeout 0 (p.inLayout layout) = (pollAfter timeout 0 p).inLayout layout :=
  p.consumer.poll_inLayout layout timeout p.feed

theorem afterPolls_inLayout :
    afterPolls timeout 1 (p.inLayout layout) = (afterPolls timeout 1 p).inLayout layout :=
  congrArg (fun polled => (⟨polled.consumer, polled.feed⟩ : Polling))
    (pollAfter_inLayout layout timeout p)

theorem pollLoop_inLayout {stop : Polling → Bool} (blind : Blind stop) (limit : Nat) :
    pollLoop timeout stop limit (p.inLayout layout) =
      (pollLoop timeout stop limit p).map fun (exit, last, journal) =>
        (exit, last.inLayout layout, journal) := by
  induction limit generalizing p with
  | zero => rfl
  | succ limit ih =>
    rw [pollLoop_succ, pollLoop_succ, pollAfter_inLayout, afterPolls_inLayout, blind, ih]
    simp only [Consumer.Polled.inLayout_result, Consumer.Polled.inLayout_journal]
    rcases (pollAfter timeout 0 p).result with e | answer
    · rfl
    · dsimp only
      split
      · rfl
      · rw [Option.map_map, Option.map_map]
        rfl

end

variable {W : Type}

def Report.layoutless (report : Report W) : Report W :=
  { report with journal := report.journal.layoutless }

def Report.shown (report : Report W) : Except TraceError Summary × List Delivery :=
  (report.result, report.journal.deliveries)

theorem Report.shown_layoutless (report : Report W) : report.layoutless.shown = report.shown :=
  congrArg (report.result, ·) report.journal.deliveries_layoutless

def prepared (o : Outcome W (Channel × Decoder)) :
    Except LifecycleError (Channel × RecordKind) × Lifecycle W × Journal :=
  (o.result.map fun (channel, decoder) => (channel, decoder.kind), o.state, o.journal.layoutless)

theorem andThen_prepared {α : Type} (o : Outcome W α)
    {next next' : α → Lifecycle W → Outcome W (Channel × Decoder)}
    (later : ∀ a s, prepared (next a s) = prepared (next' a s)) :
    prepared (o.andThen next) = prepared (o.andThen next') := by
  rw [Outcome.andThen, Outcome.andThen]
  split
  · rfl
  · rename_i a _
    have same := later a o.state
    simp only [prepared, Prod.mk.injEq, Journal.layoutless_append] at same ⊢
    obtain ⟨result, state, journal⟩ := same
    exact ⟨result, state, congrArg (_ ++ ·) journal⟩

theorem resolve_layoutless (policy : LayoutPolicy) (running : Except String Release) :
    (policy.resolve running).2.layoutless = [] := by
  cases policy with
  | fixed layout => rfl
  | auto threshold => cases running <;> rfl

variable (k : Kernel W) (running running' : Except String Release) (config : Config)
  (policy : LayoutPolicy)

theorem prepare_prepared (s : Lifecycle W) :
    prepared (prepare k running config s) =
      prepared (prepare k running' { config with layout := policy } s) := by
  -- The layout is resolved between loading and attaching, and what it logs there is all that differs.
  have quiet := resolve_layoutless config.layout running
  have quiet' := resolve_layoutless policy running'
  rw [prepare, prepare]
  generalize config.layout.resolve running = resolved at quiet ⊢
  generalize policy.resolve running' = resolved' at quiet' ⊢
  obtain ⟨layout, journal⟩ := resolved
  obtain ⟨layout', journal'⟩ := resolved'
  refine andThen_prepared _ fun _ s => andThen_prepared _ fun program s =>
    andThen_prepared _ fun _ s => ?_
  have attached : prepared ((s.attach k program config.target.attachPoint).andThen fun _ s =>
        (s.resolveMap k Target.channel).andThen fun channel s =>
          ⟨.ok (channel, ⟨config.target.recordKind, layout⟩), s, []⟩) =
      prepared ((s.attach k program config.target.attachPoint).andThen fun _ s =>
        (s.resolveMap k Target.channel).andThen fun channel s =>
          ⟨.ok (channel, ⟨config.target.recordKind, layout'⟩), s, []⟩) :=
    andThen_prepared _ fun _ s => andThen_prepared _ fun channel s => rfl
  simp only [prepared, Journal.layoutless_append, quiet, quiet'] at attached ⊢
  exact attached

theorem abandon_layoutless (e : TraceError) (s : Lifecycle W) (feed : Feed)
    {journal journal' : Journal} (same : journal.layoutless = journal'.layoutless) :
    (abandon k e s feed journal).layoutless = (abandon k e s feed journal').layoutless := by
  simp only [abandon, Report.layoutless, Journal.layoutless_append, same]

theorem trace_layoutless (layout : OpenLayout) {stop : Polling → Bool} {limit : Polling → Nat}
    (stops : Blind stop) (limits : Blind limit) (s : Lifecycle W) (p : Polling)
    {journal journal' : Journal} (same : journal.layoutless = journal'.layoutless) :
    (trace k config stop limit s p journal).map Report.layoutless =
      (trace k { config with layout := policy } stop limit s (p.inLayout layout) journal').map
        Report.layoutless := by
  have released := p.consumer.destroy_inLayout layout
  rw [trace, trace]
  dsimp only
  split
  · refine congrArg some (abandon_layoutless k _ _ _ ?_)
    rw [Journal.layoutless_append, Journal.layoutless_append, same]
    exact congrArg (_ ++ Journal.layoutless ·) released.symm
  · rw [pollLoop_inLayout layout _ p stops, limits, Option.map_map, Option.map_map, Option.map_map]
    refine congrFun (congrArg Option.map (funext fun (exit, last, polls) => ?_)) _
    have ended : (last.inLayout layout).consumer.destroy.2 = last.consumer.destroy.2 :=
      last.consumer.destroy_inLayout layout
    simp only [Function.comp, Report.layoutless, Journal.layoutless_append, same, ended]
    rfl

theorem run_layoutless {stop : Polling → Bool} {limit : Polling → Nat} (stops : Blind stop)
    (limits : Blind limit) (w : W) (feed : Feed) :
    (run k running config stop limit w feed).map Report.layoutless =
      (run k running' { config with layout := policy } stop limit w feed).map Report.layoutless := by
  have same := prepare_prepared k running running' config policy (fresh w)
  rw [run, run]
  dsimp only
  generalize prepare k running config (fresh w) = one at same ⊢
  generalize prepare k running' { config with layout := policy } (fresh w) = other at same ⊢
  obtain ⟨result, s, journal⟩ := one
  obtain ⟨result', s', journal'⟩ := other
  simp only [prepared, Prod.mk.injEq] at same
  obtain ⟨results, rfl, journals⟩ := same
  rcases result with e | ⟨channel, decoder⟩ <;> rcases result' with e' | ⟨channel', decoder'⟩
  · cases results
    exact congrArg some (abandon_layoutless k _ s feed journals)
  · cases results
  · cases results
  · obtain ⟨kind, layout⟩ := decoder
    obtain ⟨kind', layout'⟩ := decoder'
    cases results
    -- The kinds agree, so that the second consumer is the first one in another layout.
    have created := Consumer.create_inLayout layout' channel config.pages ⟨kind, layout⟩
    simp only [Decoder.inLayout] at created
    simp only [created]
    have journals' : Journal.layoutless
        (journal ++ (Consumer.create channel config.pages ⟨kind, layout⟩).2) =
          Journal.layoutless
            (journal' ++ (Consumer.create channel config.pages ⟨kind, layout⟩).2) := by
      rw [Journal.layoutless_append, Journal.layoutless_append, journals]
    rcases (Consumer.create channel config.pages ⟨kind, layout⟩).1 with e | c
    · exact congrArg some (abandon_layoutless k _ s _ journals')
    · exact trace_layoutless k config policy layout' stops limits s ⟨c, _⟩ journals'

theorem StopSignal.isUp_blind (signal : StopSignal) : Blind signal.isUp := by
  intro layout p
  cases signal <;> rfl

theorem StopSignal.limit_blind (signal : StopSignal) : Blind signal.limit := fun _ _ => rfl

theorem run_any_layout {stop : Polling → Bool} {limit : Polling → Nat} (stops : Blind stop)
    (limits : Blind limit) (w : W) (feed : Feed) :
    let one := run k running config stop limit w feed
    let other := run k running' { config with layout := policy } stop limit w feed
    (∀ raw, Decoder.decode ⟨.opening, .legacy⟩ raw = Decoder.decode ⟨.opening, .current⟩ raw ∧
      ∀ layout, Decoder.decode ⟨.opening, layout⟩ raw = layout.decodeMembers raw) ∧
    one.map Report.shown = other.map Report.shown ∧
    one.map Report.layoutless = other.map Report.layoutless := by
  intro one other
  have same : one.map Report.layoutless = other.map Report.layoutless :=
    run_layoutless k running running' config policy stops limits w feed
  refine ⟨fun raw => ⟨?_, fun layout => layout.decode_members raw⟩, ?_, same⟩
  · exact Decoder.decode_inLayout .legacy ⟨.opening, .current⟩ raw
  · have shown := congrArg (Option.map Report.shown) same
    simp only [Option.map_map, Function.comp_def, Report.shown_layoutless] at shown
    exact shown

def opens : Scripted.World :=
  .start [("trace.o", .ok {
    programs := [Target.openat.program]
    maps := [(Target.channel, .channel ⟨.ok [⟨0⟩], fun _ _ => none,
      [(⟨0⟩, [.sample (List.replicate 120 0), .sample (List.replicate 119 0)])]⟩)]
    loadFaults := []
    attachFaults := []
    detachFaults := [] })]

theorem run_any_layout_opens :
    let config : Config := ⟨⟨"trace.o", none, false⟩, .openat, 64, 100, .fixed .legacy⟩
    let policy : LayoutPolicy := .auto ⟨"5.6", [5, 6]⟩
    let signal : StopSignal := .fromStart
    ∃ report report',
      run Scripted.kernel (.error "unknown") config signal.isUp signal.limit opens (.start []) =
        some report ∧
      run Scripted.kernel (.ok ⟨"6.1", [6, 1]⟩) { config with layout := policy } signal.isUp
        signal.limit opens (.start []) = some report' ∧
      report.journal.deliveries.length = 1 ∧
      report.result = report'.result ∧ report.journal.deliveries = report'.journal.deliveries := by
  intro config policy signal
  have delivered : (run Scripted.kernel (.error "unknown") config signal.isUp signal.limit opens
      (.start [])).map (·.journal.deliveries.length) = some 1 := by decide +kernel
  obtain ⟨report, h, length⟩ := Option.map_eq_some_iff.mp delivered
  obtain ⟨-, same, -⟩ := run_any_layout Scripted.kernel (.error "unknown") (.ok ⟨"6.1", [6, 1]⟩)
    config policy signal.isUp_blind signal.limit_blind opens (.start [])
  rw [h] at same
  obtain ⟨report', h', observed⟩ := Option.map_eq_some_iff.mp same.symm
  obtain ⟨result, deliveries⟩ := Prod.mk.inj observed
  exact ⟨report, report', h, h', length, result.symm, deliveries.symm⟩

end Session

end FileTrace
