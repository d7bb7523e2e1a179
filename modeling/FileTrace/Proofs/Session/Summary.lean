import FileTrace.Proofs.Consumer.Accounting
import FileTrace.Proofs.Consumer.Ownership
import FileTrace.Proofs.Session.PollLoop
import FileTrace.Scripted

namespace FileTrace

def Entry.isTraffic : Entry → Bool
  | .delivery _ => true
  | .ring call => call.reads?.isSome
  | _ => false

namespace Journal

def traffic (journal : Journal) : Journal := journal.filter Entry.isTraffic

theorem traffic_append (xs ys : Journal) : traffic (xs ++ ys) = xs.traffic ++ ys.traffic :=
  List.filter_append xs ys

theorem traffic_map (call : CpuId → RingCall) (cpus : List CpuId)
    (unread : ∀ cpu, (call cpu).reads? = none) :
    traffic (cpus.map fun cpu => .ring (call cpu)) = [] := by
  refine List.filter_eq_nil_iff.mpr fun entry h => ?_
  obtain ⟨cpu, -, rfl⟩ := List.mem_map.mp h
  simp [Entry.isTraffic, unread]

theorem deliveries_of_traffic {journal : Journal} (h : journal.traffic = []) :
    journal.deliveries = [] := by
  refine List.filterMap_eq_nil_iff.mpr fun entry he => ?_
  have untouched := List.filter_eq_nil_iff.mp h entry he
  cases entry with
  | delivery d => exact absurd rfl untouched
  | object call => rfl
  | ring call => rfl
  | log line => rfl

end Journal

namespace Lifecycle

variable {W α β : Type} (k : Kernel W) (s : Lifecycle W)

theorem onObject_silent (operation : Operation) (act : ObjectId → Outcome W α)
    (acts : ∀ object, (act object).journal.traffic = []) :
    (s.onObject operation act).journal.traffic = [] := by
  rw [onObject]
  split
  · split
    · exact acts _
    · rfl
  · rfl

theorem detachEach_silent (object : ObjectId) (links : List (String × LinkId)) (w : W) :
    (detachEach k object links w).2.traffic = [] := by
  induction links generalizing w with
  | nil => rfl
  | cons link rest ih =>
    obtain ⟨name, link⟩ := link
    rcases answer : k.detach object name link w with ⟨result, v⟩
    have later := ih v
    simp only [detachEach, answer]
    cases result <;> exact later

theorem close_silent : (s.close k).2.traffic = [] := by
  rw [close]
  split
  · rfl
  · rename_i object _
    dsimp only
    rw [Journal.traffic_append, detachEach_silent]
    rfl

theorem loadEach_silent (object : ObjectId) (names : List String) (w : W) :
    (loadEach k object names w).2.2.traffic = [] := by
  induction names generalizing w with
  | nil => rfl
  | cons name rest ih =>
    rcases answer : k.load object name w with ⟨e | ⟨⟩, v⟩
    · simp only [loadEach, answer]
      rfl
    · simp only [loadEach, answer]
      exact ih v

theorem load_silent : (s.load k).journal.traffic = [] := by
  refine onObject_silent s .load _ fun object => ?_
  by_cases empty : s.selected.isEmpty = true
  · rw [if_pos empty]
    exact close_silent k _
  · have loads := loadEach_silent k object s.selected s.kernel
    rw [if_neg empty]
    rcases loading : loadEach k object s.selected s.kernel with ⟨e | ⟨⟩, w, journal⟩
    · rw [loading] at loads
      dsimp only
      rw [Journal.traffic_append, loads, close_silent]
      rfl
    · rw [loading] at loads
      exact loads

theorem openObject_silent (request : OpenRequest) :
    (s.openObject k request).journal.traffic = [] := by
  rw [openObject]
  split
  · rcases k.openObject request s.kernel with ⟨e | object, w⟩ <;> rfl
  · rfl

theorem select_silent (name : String) : (s.select k name).journal.traffic = [] := by
  refine onObject_silent s .select _ fun object => ?_
  split <;> rfl

theorem attach_silent (program : SelectedProgram) (point : AttachPoint) :
    (s.attach k program point).journal.traffic = [] := by
  refine onObject_silent s .attach _ fun object => ?_
  split
  · rcases k.attach object program.name point s.kernel with ⟨e | link, w⟩ <;> rfl
  · rfl

theorem resolveMap_silent (name : String) : (s.resolveMap k name).journal.traffic = [] := by
  refine onObject_silent s .resolveMap _ fun object => ?_
  rcases k.takeChannel object name s.kernel with ⟨e | channel, w⟩ <;> rfl

theorem andThen_silent {o : Outcome W α} {next : α → Lifecycle W → Outcome W β}
    (here : o.journal.traffic = [])
    (later : ∀ a t, (next a t).journal.traffic = []) :
    (o.andThen next).journal.traffic = [] := by
  rw [Outcome.andThen]
  split
  · exact here
  · dsimp only
    rw [Journal.traffic_append, here, later]
    rfl

end Lifecycle

namespace Consumer

theorem destroy_silent (c : Consumer) : c.destroy.2.traffic = [] := by
  rw [destroy]
  split
  · rfl
  · exact Journal.traffic_map .release c.rings fun _ => rfl

theorem create_silent {channel : Channel} {pages : Nat} {decoder : Decoder} {c : Consumer}
    (created : (create channel pages decoder).1 = .ok c) :
    (create channel pages decoder).2.traffic = [] := by
  obtain ⟨power, cpus, listed, opens, rfl⟩ := (create_ok_iff decoder).mp created
  have openings := Journal.traffic_map (.opening · pages none) cpus fun _ => rfl
  rw [create, if_pos ((isPowerOfTwo_iff pages).mpr power), listed]
  simp only [openRings_all pages opens]
  rw [Journal.traffic_append]
  exact (List.append_nil _).trans openings

end Consumer

namespace Session

open Lifecycle

theorem Ends.silent {stop : Polling → Bool} {last : Polling}
    {result : Except ConsumerError PollResult} {exit : Exit} {line : Journal}
    (h : Ends stop last result exit line) : line.deliveries = [] := by
  cases h <;> rfl

theorem afterPolls_polls (timeout n : Nat) (p : Polling) (h : p.consumer.rings ≠ []) :
    (afterPolls timeout n p).consumer.stats.polls = p.consumer.stats.polls + n := by
  induction n generalizing p with
  | zero => rfl
  | succ n ih =>
    have rings := (p.consumer.poll_consumer timeout p.feed).2
    have here := (perform_polls (.poll timeout) p).1
    have later := ih (afterPolls timeout 1 p) (rings.symm ▸ h)
    simp only [Turn.pollsRings, List.isEmpty_eq_false_iff.mpr h, Bool.not_false, if_true] at here
    rw [afterPolls_succ, later, show (afterPolls timeout 1 p).consumer.stats.polls = _ from here,
      Nat.add_assoc, Nat.add_comm 1]

theorem flag_of_values (timeout : Nat) (p : Polling) (h : p.consumer.rings ≠ [])
    (values : Nat → Bool) :
    ∃ stop : Polling → Bool, ∀ i, stop (afterPolls timeout (i + 1) p) = values i := by
  refine ⟨fun q => values (q.consumer.stats.polls - (p.consumer.stats.polls + 1)), fun i => ?_⟩
  have counted := afterPolls_polls timeout (i + 1) p h
  exact congrArg values (by omega)

theorem EndsAfter.noRings {timeout n : Nat} {stop : Polling → Bool} {start last : Polling}
    {exit : Exit} {journal : Journal} (h : EndsAfter timeout stop start n exit last journal)
    (noRings : start.consumer.rings = []) :
    n = 1 ∧ last.consumer = start.consumer ∧
      exit = .pollFailure Consumer.noRings.message := by
  have first : pollAfter timeout 0 start = ⟨.error Consumer.noRings, start.consumer, start.feed, []⟩ :=
    Consumer.poll_noRings timeout start.consumer start.feed noRings
  have failed : (pollAfter timeout 0 start).result = .error Consumer.noRings := by rw [first]
  obtain ⟨n, rfl⟩ := Nat.exists_eq_succ_of_ne_zero (Nat.pos_iff_ne_zero.mp h.polled)
  rcases h.split with ⟨rfl, rfl, line, ends, -⟩ | ⟨⟨answer, succeeded⟩, -⟩
  · refine ⟨rfl, congrArg Consumer.Polled.consumer first, ?_⟩
    rw [failed] at ends
    cases ends
    rfl
  · rw [failed] at succeeded
    cases succeeded

structure Concludes (timeout : Nat) (stop : Polling → Bool) (start : Polling) (n : Nat)
    (summary : Summary) (journal : Journal) : Prop where
  ends : ∃ last polling, EndsAfter timeout stop start n summary.exit last polling ∧
    summary.stats = last.consumer.stats ∧
    ∃ before after, journal = before ++ polling ++ after ∧ before.traffic = [] ∧ after.traffic = []
  emitted : summary.stats.emitted = journal.emitted.length
  lost : summary.stats.lost = (journal.losses.map (·.2)).sum
  polls : start.consumer.rings ≠ [] → summary.stats.polls = n
  noRings : start.consumer.rings = [] → n = 1 ∧ summary.stats.polls = 0 ∧
    summary.exit = .pollFailure Consumer.noRings.message

-- What stands around the polls delivers nothing, so that it does not change what is counted.
theorem EndsAfter.concludes {timeout n : Nat} {stop : Polling → Bool} {start last : Polling}
    {exit : Exit} {before polling after : Journal}
    (h : EndsAfter timeout stop start n exit last polling) (new : start.consumer.stats = .zero)
    (quiet : before.traffic = []) (quiet' : after.traffic = []) :
    Concludes timeout stop start n ⟨exit, last.consumer.stats⟩ (before ++ polling ++ after) := by
  obtain ⟨line, ends, split⟩ := h.ends
  have deliveries : (before ++ polling ++ after).deliveries =
      (historyOfPolls timeout n start).deliveries := by
    simp only [split, Journal.deliveries_append, Journal.deliveries_of_traffic quiet,
      Journal.deliveries_of_traffic quiet', ends.silent, List.nil_append, List.append_nil]
  have delivered := run_delivers (polls (List.replicate n timeout)) start
  have reached : final (polls (List.replicate n timeout)) start = last := h.reached.symm
  rw [reached, new] at delivered
  refine ⟨⟨last, polling, h, rfl, before, after, rfl, quiet, quiet'⟩, ?_, ?_, fun rings => ?_,
    fun noRings => ?_⟩
  · rw [Journal.emitted, deliveries]
    exact delivered.emitted_count.trans (Nat.zero_add _)
  · rw [Journal.losses, deliveries]
    exact delivered.lost.trans (Nat.zero_add _)
  · have counted := afterPolls_polls timeout n start rings
    rw [new, ← h.reached] at counted
    exact counted.trans (Nat.zero_add n)
  · obtain ⟨one, same, failed⟩ := h.noRings noRings
    exact ⟨one, by rw [same, new]; rfl, failed⟩

theorem resolve_silent (policy : LayoutPolicy) (running : Except String Release) :
    (policy.resolve running).2.traffic = [] := by
  cases policy with
  | fixed layout => rfl
  | auto threshold => cases running <;> rfl

theorem prepare_silent {W : Type} (k : Kernel W) (running : Except String Release) (config : Config)
    (s : Lifecycle W) : (prepare k running config s).journal.traffic = [] := by
  have quiet := resolve_silent config.layout running
  rw [prepare]
  generalize config.layout.resolve running = resolved at quiet ⊢
  obtain ⟨layout, logs⟩ := resolved
  refine andThen_silent (openObject_silent k s _) fun _ s => ?_
  refine andThen_silent (select_silent k s _) fun program s => ?_
  refine andThen_silent (load_silent k s) fun _ s => ?_
  have attaching : ((s.attach k program config.target.attachPoint).andThen fun _ s =>
      (s.resolveMap k Target.channel).andThen fun channel s =>
        ⟨.ok (channel, (⟨config.target.recordKind, layout⟩ : Decoder)), s, []⟩).journal.traffic =
        [] := by
    refine andThen_silent (attach_silent k s program _) fun _ s => ?_
    exact andThen_silent (resolveMap_silent k s _) fun _ _ => rfl
  dsimp only
  rw [Journal.traffic_append, quiet, attaching]
  rfl

variable {W : Type} {k : Kernel W} {config : Config} {running : Except String Release}

theorem trace_concludes {stop : Polling → Bool} {limit : Polling → Nat} {s : Lifecycle W}
    {report : Report W} {summary : Summary} (start : Polling) {before : Journal}
    (new : start.consumer.stats = .zero) (quiet : before.traffic = [])
    (h : trace k config stop limit s start before = some report)
    (ok : report.result = .ok summary) :
    ∃ n, Concludes config.pollTimeout stop start n summary report.journal := by
  rw [trace] at h
  dsimp only at h
  split at h
  · cases h
    cases ok
  · obtain ⟨⟨exit, last, polling⟩, looped, rfl⟩ := Option.map_eq_some_iff.mp h
    cases ok
    obtain ⟨n, -, ends⟩ := endsAfter_of_pollLoop looped
    have front : (before ++ logged .info
        (tracingText config.target.attachPoint start.consumer.rings.length)).traffic = [] := by
      rw [Journal.traffic_append, quiet]
      rfl
    have released : (last.consumer.destroy.2 ++ (s.startPolling.state.close k).2).traffic = [] := by
      rw [Journal.traffic_append, last.consumer.destroy_silent, close_silent]
      rfl
    have concludes := ends.concludes new front released
    simp only [List.append_assoc] at concludes ⊢
    exact ⟨n, concludes⟩

structure Begins (k : Kernel W) (running : Except String Release) (config : Config) (w : W)
    (feed : Feed) (start : Polling) : Prop where
  channel : ∃ channel,
    (prepare k running config (fresh w)).result = .ok (channel, start.consumer.decoder) ∧
    channel.cpus = .ok start.consumer.rings ∧ start.feed = feed.fill channel.backlog
  stats : start.consumer.stats = .zero

theorem run_concludes {stop : Polling → Bool} {limit : Polling → Nat} {w : W} {feed : Feed}
    {report : Report W} {summary : Summary}
    (h : run k running config stop limit w feed = some report) (ok : report.result = .ok summary) :
    ∃ start n, Begins k running config w feed start ∧
      Concludes config.pollTimeout stop start n summary report.journal := by
  have silent := prepare_silent k running config (fresh w)
  rw [run] at h
  dsimp only at h
  rcases prepared : prepare k running config (fresh w) with ⟨e | ⟨channel, decoder⟩, s, before⟩
  · rw [prepared] at h
    cases h
    cases ok
  · rw [prepared] at h silent
    dsimp only at h silent
    rcases result : (Consumer.create channel config.pages decoder).1 with e | c
    · rw [result] at h
      cases h
      cases ok
    · rw [result] at h
      have created := (Consumer.create_creation channel config.pages decoder).created c result
      obtain ⟨listed, rfl, new, -⟩ := created
      have quiet : (before ++ (Consumer.create channel config.pages c.decoder).2).traffic = [] := by
        rw [Journal.traffic_append, silent, Consumer.create_silent result]
        rfl
      obtain ⟨n, concludes⟩ := trace_concludes ⟨c, _⟩ new quiet h ok
      exact ⟨_, n, ⟨⟨channel, by rw [prepared], listed, rfl⟩, new⟩, concludes⟩

theorem run_truthful {stop : Polling → Bool} {limit : Polling → Nat} {w : W} {feed : Feed}
    {report : Report W} {summary : Summary}
    (h : run k running config stop limit w feed = some report) (ok : report.result = .ok summary) :
    (∃ start n, Begins k running config w feed start ∧
      Concludes config.pollTimeout stop start n summary report.journal) ∧
    (∀ timeout stop limit p exit last journal,
      pollLoop timeout stop limit p = some (exit, last, journal) ↔
        ∃ n ≤ limit, EndsAfter timeout stop p n exit last journal) ∧
    ∀ timeout p, p.consumer.rings ≠ [] → ∀ values : Nat → Bool,
      ∃ stop : Polling → Bool, ∀ i, stop (afterPolls timeout (i + 1) p) = values i := by
  refine ⟨run_concludes h ok, fun timeout stop limit p exit last journal => ?_, flag_of_values⟩
  constructor
  · exact endsAfter_of_pollLoop
  · rintro ⟨n, enough, ends⟩
    exact pollLoop_of_endsAfter ends enough

def brittle : Scripted.World :=
  .start [("trace.o", .ok {
    programs := [Target.sync.program]
    maps := [(Target.channel,
      .channel ⟨.ok [⟨0⟩, ⟨1⟩], fun _ _ => none, [(⟨0⟩, [.sample (List.replicate 32 0)])]⟩)]
    loadFaults := []
    attachFaults := []
    detachFaults := [] })]

/-- The flag is up after the second poll, but that poll fails behind its last event. -/
theorem run_truthful_brittle :
    let config : Config := ⟨⟨"trace.o", none, false⟩, .sync, 64, 100, .fixed .current⟩
    let signal : StopSignal := .atTime 5
    let feed : Feed := .start [⟨5, ⟨1⟩, [.sample (List.replicate 32 0), .readError "broken"]⟩]
    let summary : Summary := ⟨.pollFailure (ConsumerError.pollFailed "broken").message,
      { Stats.zero with polls := 2, records := 2, emitted := 2 }⟩
    ∃ report, run Scripted.kernel (.error "unknown") config signal.isUp signal.limit brittle feed =
        some report ∧ report.result = .ok summary ∧ report.journal.emitted.length = 2 ∧
      ∃ start n, Begins Scripted.kernel (.error "unknown") config brittle feed start ∧
        Concludes 100 signal.isUp start n summary report.journal := by
  intro config signal feed summary
  have seen : (run Scripted.kernel (.error "unknown") config signal.isUp signal.limit brittle
      feed).map (fun report => (report.result, report.journal.emitted.length)) =
        some (.ok summary, 2) := by decide +kernel
  obtain ⟨report, h, same⟩ := Option.map_eq_some_iff.mp seen
  obtain ⟨ok, emitted⟩ := Prod.mk.inj same
  exact ⟨report, h, ok, emitted, (run_truthful h ok).1⟩

end Session

end FileTrace
