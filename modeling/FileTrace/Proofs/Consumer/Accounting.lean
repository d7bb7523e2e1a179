import FileTrace.Proofs.Consumer.Conservation

namespace FileTrace

theorem Delivers.emitted_count {decoder : Decoder} {s t : Stats} {journal : Journal}
    (h : Delivers decoder s t journal) : t.emitted = s.emitted + journal.emitted.length := by
  rw [h.emitted, decoder.length_emitted]
  exact h.verdicts .emitted

theorem Delivers.balanced {decoder : Decoder} {s t : Stats} {journal : Journal}
    (h : Delivers decoder s t journal)
    (balanced : s.records = s.emitted + s.suppressed + s.decodeErrors) :
    t.records = t.emitted + t.suppressed + t.decodeErrors := by
  have each := count_verdicts (journal.samples.map decoder.verdict)
  have emitted : t.emitted = _ := h.verdicts .emitted
  have suppressed : t.suppressed = _ := h.verdicts .suppressed
  have rejected : t.decodeErrors = _ := h.verdicts .rejected
  rw [List.length_map] at each
  rw [h.records, emitted, suppressed, rejected, balanced, ← each]
  simp only [Stats.tally]
  omega

namespace Consumer

structure Accounts (c : Consumer) (f : Feed) (polled : Polled) : Prop where
  processed : ∀ records lost, polled.result = .ok (.processed records lost) →
    polled.consumer.stats.records = c.stats.records + records ∧
      polled.consumer.stats.lost = c.stats.lost + lost
  timeout : polled.result = .ok .timeout →
    polled.consumer = { c with stats :=
      { c.stats with polls := c.stats.polls + 1, timeouts := c.stats.timeouts + 1 } } ∧
      polled.journal.deliveries = []
  counted : polled.consumer.stats.emitted = c.stats.emitted + polled.journal.emitted.length ∧
    polled.consumer.stats.lost = c.stats.lost + (polled.journal.losses.map (·.2)).sum ∧
    polled.consumer.stats.records = c.stats.records + polled.journal.samples.length
  noRings : c.rings = [] → polled.consumer = c ∧ polled.feed = f ∧ polled.journal = [] ∧
    polled.result = .error noRings

theorem poll_result_cases (timeout : Nat) (c : Consumer) (f : Feed) (h : c.rings ≠ []) :
    ((c.poll timeout f).result = .ok .timeout ∧
        (c.poll timeout f).consumer = c.countPoll.countTimeout ∧ (c.poll timeout f).journal = []) ∨
      ((c.poll timeout f).consumer.stats.polls = c.stats.polls + 1 ∧
        (c.poll timeout f).consumer.stats.timeouts = c.stats.timeouts ∧
        ((∃ reason, (c.poll timeout f).result = .error (.pollFailed reason)) ∨
          ∃ records lost, (c.poll timeout f).result = .ok (.processed records lost) ∧
            (c.poll timeout f).consumer.stats.records = c.stats.records + records ∧
            (c.poll timeout f).consumer.stats.lost = c.stats.lost + lost)) := by
  rw [poll, if_neg (by simpa using h)]
  split
  · exact .inl ⟨rfl, rfl, rfl⟩
  · rename_i cpu reason waited _
    exact .inr ⟨rfl, rfl, .inl ⟨reason, rfl⟩⟩
  · rename_i cpus waited _
    obtain ⟨polls, timeouts⟩ := drainRings_counts 0 0 c.countPoll waited cpus
    refine .inr ⟨polls, timeouts, ?_⟩
    rcases drainRings_result 0 0 c.countPoll waited cpus with failed | ⟨r, l, result, read, missed⟩
    · exact .inl failed
    · rw [Nat.zero_add, Nat.zero_add] at result
      exact .inr ⟨r, l, result, read, missed⟩

theorem poll_accounts (timeout : Nat) (c : Consumer) (f : Feed) :
    c.Accounts f (c.poll timeout f) := by
  have delivered := c.poll_delivers timeout f
  have counted := And.intro delivered.emitted_count (And.intro delivered.lost delivered.records)
  by_cases h : c.rings = []
  · rw [poll_noRings timeout c f h] at counted ⊢
    exact ⟨nofun, nofun, counted, fun _ => ⟨rfl, rfl, rfl, rfl⟩⟩
  · refine ⟨fun records lost answer => ?_, fun answer => ?_, counted, fun empty => absurd empty h⟩
    · rcases poll_result_cases timeout c f h with
        ⟨timedOut, -, -⟩ | ⟨-, -, ⟨reason, failed⟩ | ⟨r, l, processed, read, missed⟩⟩
      · rw [timedOut] at answer; cases answer
      · rw [failed] at answer; cases answer
      · rw [processed] at answer
        cases answer
        exact ⟨read, missed⟩
    · rcases poll_result_cases timeout c f h with
        ⟨-, consumer, journal⟩ | ⟨-, -, ⟨reason, failed⟩ | ⟨r, l, processed, -, -⟩⟩
      · rw [consumer, journal]
        exact ⟨rfl, rfl⟩
      · rw [failed] at answer; cases answer
      · rw [processed] at answer; cases answer

end Consumer

namespace Session

def Turn.pollsRings (t : Turn) : Bool :=
  match t.action with
  | .poll _ => !t.before.consumer.rings.isEmpty
  | _ => false

def Turn.timesOut (t : Turn) : Bool :=
  match t.action with
  | .poll timeout =>
    match (t.before.consumer.poll timeout t.before.feed).result with
    | .ok .timeout => true
    | _ => false
  | _ => false

theorem perform_polls (action : Action) (p : Polling) :
    (action.perform p).1.consumer.stats.polls =
        p.consumer.stats.polls + (if Turn.pollsRings ⟨p, action⟩ then 1 else 0) ∧
      (action.perform p).1.consumer.stats.timeouts =
        p.consumer.stats.timeouts + (if Turn.timesOut ⟨p, action⟩ then 1 else 0) := by
  cases action with
  | push cpu items => exact ⟨rfl, rfl⟩
  | destroy =>
    simp only [Action.perform, Consumer.destroy]
    split <;> exact ⟨rfl, rfl⟩
  | poll timeout =>
    simp only [Action.perform, Turn.pollsRings, Turn.timesOut]
    by_cases h : p.consumer.rings = []
    · simp [p.consumer.poll_noRings timeout p.feed h, h]
    · rcases p.consumer.poll_result_cases timeout p.feed h with
        ⟨timedOut, consumer, -⟩ | ⟨polls, timeouts, ⟨reason, failed⟩ | ⟨r, l, processed, -, -⟩⟩
      · simp [timedOut, consumer, h, Consumer.countPoll, Consumer.countTimeout]
      · simp [polls, timeouts, failed, h]
      · simp [polls, timeouts, processed, h]

theorem run_polls (actions : List Action) (p : Polling) :
    (final actions p).consumer.stats.polls =
        p.consumer.stats.polls + (turns actions p).countP Turn.pollsRings ∧
      (final actions p).consumer.stats.timeouts =
        p.consumer.stats.timeouts + (turns actions p).countP Turn.timesOut := by
  induction actions generalizing p with
  | nil => exact ⟨rfl, rfl⟩
  | cons action rest ih =>
    obtain ⟨polls, timeouts⟩ := perform_polls action p
    obtain ⟨laterPolls, laterTimeouts⟩ := ih (action.perform p).1
    simp only [final, List.foldl_cons, turns, List.countP_cons] at laterPolls laterTimeouts ⊢
    omega

structure Accounts (actions : List Action) (start last : Polling) (journal : Journal) : Prop where
  records : last.consumer.stats.records = last.consumer.stats.emitted +
    last.consumer.stats.suppressed + last.consumer.stats.decodeErrors
  emitted : last.consumer.stats.emitted = journal.emitted.length
  lost : last.consumer.stats.lost = (journal.losses.map (·.2)).sum
  positive : ∀ loss ∈ journal.losses, 0 < loss.2
  polls : last.consumer.stats.polls = (turns actions start).countP Turn.pollsRings
  timeouts : last.consumer.stats.timeouts = (turns actions start).countP Turn.timesOut
  next : ∀ timeout, last.consumer.Accounts last.feed (last.consumer.poll timeout last.feed)

theorem run_accounts (rings : List CpuId) (decoder : Decoder) (feed : Feed)
    (actions : List Action) :
    let start : Polling := ⟨⟨rings, decoder, .zero⟩, feed⟩
    Accounts actions start (final actions start) (history actions start) := by
  intro start
  have delivered := run_delivers actions start
  obtain ⟨polls, timeouts⟩ := run_polls actions start
  exact {
    records := delivered.balanced rfl
    emitted := by simpa [start, Stats.zero] using delivered.emitted_count
    lost := by simpa [start, Stats.zero] using delivered.lost
    positive := delivered.positive
    polls := by simpa [start, Stats.zero] using polls
    timeouts := by simpa [start, Stats.zero] using timeouts
    next := fun timeout => (final actions start).consumer.poll_accounts timeout _ }

end Session

end FileTrace
