import FileTrace.Proofs.Consumer.Run

namespace FileTrace.Session

theorem run_takes_queued (actions : List Action) (p : Polling) (cpu : CpuId) :
    takenFrom cpu (history actions p).taken ++ (final actions p).feed.queue cpu =
      p.feed.queue cpu ++ queued cpu actions p := by
  induction actions generalizing p with
  | nil => simp [history, turns, Journal.taken, takenFrom, queued, final]
  | cons action rest ih =>
    have here := perform_conserves action p cpu
    have later := ih (action.perform p).1
    calc takenFrom cpu (history (action :: rest) p).taken ++
          (final (action :: rest) p).feed.queue cpu
        = takenFrom cpu (action.perform p).2.taken ++
            (takenFrom cpu (history rest (action.perform p).1).taken ++
              (final rest (action.perform p).1).feed.queue cpu) := by
          rw [history_cons, Journal.taken_append, takenFrom_append, List.append_assoc]
          rfl
      _ = takenFrom cpu (action.perform p).2.taken ++ (action.perform p).1.feed.queue cpu ++
            queued cpu rest (action.perform p).1 := by rw [later, List.append_assoc]
      _ = p.feed.queue cpu ++ queued cpu (action :: rest) p := by
          rw [here, queued_cons, List.append_assoc]

theorem run_arrived (actions : List Action) (p : Polling) :
    p.feed.arrivals = arrived actions p ++ (final actions p).feed.arrivals := by
  induction actions generalizing p with
  | nil => rfl
  | cons action rest ih =>
    have here := perform_arrived action p
    have later := ih (action.perform p).1
    rw [here, arrived_cons, List.append_assoc, later]
    rfl

theorem run_delivers (actions : List Action) (p : Polling) :
    Delivers p.consumer.decoder p.consumer.stats (final actions p).consumer.stats
      (history actions p) := by
  induction actions generalizing p with
  | nil => exact .idle rfl (by simp [history, turns, Journal.taken])
  | cons action rest ih =>
    have later := ih (action.perform p).1
    rw [perform_decoder] at later
    exact (perform_delivers action p).trans later

structure Conserves (actions : List Action) (p last : Polling) (journal : Journal) : Prop where
  queues : ∀ cpu, takenFrom cpu journal.taken ++ last.feed.queue cpu =
    p.feed.queue cpu ++ queued cpu actions p
  schedule : p.feed.arrivals = arrived actions p ++ last.feed.arrivals
  decoded : last.consumer.stats.records = p.consumer.stats.records + journal.samples.length ∧
    ∀ v, last.consumer.stats.tally v =
      p.consumer.stats.tally v + (journal.samples.map p.consumer.decoder.verdict).count v
  emitted : ∀ cpu, journal.emittedFrom cpu false =
    ((takenFrom cpu journal.taken).filterMap Item.sample?).filterMap p.consumer.decoder.emitted?
  allEmitted : journal.emitted = journal.samples.filterMap p.consumer.decoder.emitted?
  losses : ∀ cpu, (journal.lossesOn cpu).sum = ((takenFrom cpu journal.taken).map Item.loss).sum

theorem run_conserves (actions : List Action) (p : Polling) :
    Conserves actions p (final actions p) (history actions p) := by
  have h := run_delivers actions p
  exact ⟨run_takes_queued actions p, run_arrived actions p, ⟨h.records, h.verdicts⟩,
    fun cpu => h.inOrder cpu false,
    h.emitted, h.losses⟩

end FileTrace.Session
