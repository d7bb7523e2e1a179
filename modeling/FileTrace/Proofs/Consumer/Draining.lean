import FileTrace.Proofs.Consumer.Batches

namespace FileTrace.Consumer

theorem readFault_delivers (decoder : Decoder) (cpu : CpuId) (reason : String) (s : Stats) :
    Delivers decoder s s [.ring (.readFault cpu reason)] :=
  .idle rfl (by simp [Journal.taken, Entry.taken])

def drainQueue (c : Consumer) (f : Feed) (cpu : CpuId) : Stats × Journal :=
  takeBatches c.decoder cpu (Queue.drain (f.queue cpu)).batches c.stats

def drained (c : Consumer) (f : Feed) (cpu : CpuId) : Consumer :=
  { c with stats := (c.drainQueue f cpu).1 }

section

variable {records lost : Nat} {c : Consumer} {f : Feed} {cpu : CpuId} {rest : List CpuId}

theorem drainRings_fault {reason : String} (h : (Queue.drain (f.queue cpu)).fault = some reason) :
    drainRings records lost c f (cpu :: rest) =
      ⟨.error (.pollFailed reason), c.drained f cpu,
        f.setQueue cpu (Queue.drain (f.queue cpu)).rest,
        (c.drainQueue f cpu).2 ++ [.ring (.readFault cpu reason)]⟩ := by
  simp only [drainRings, h, drained, drainQueue]

theorem drainRings_next (h : (Queue.drain (f.queue cpu)).fault = none) :
    drainRings records lost c f (cpu :: rest) =
      let later := drainRings (records + samplesOf (Queue.drain (f.queue cpu)).batches)
        (lost + lossOf (Queue.drain (f.queue cpu)).batches) (c.drained f cpu)
        (f.setQueue cpu (Queue.drain (f.queue cpu)).rest) rest
      { later with journal := (c.drainQueue f cpu).2 ++ later.journal } := by
  simp only [drainRings, h, drained, drainQueue]

end

theorem drainQueue_delivers (c : Consumer) (f : Feed) (cpu : CpuId) :
    Delivers c.decoder c.stats (c.drainQueue f cpu).1 (c.drainQueue f cpu).2 :=
  takeBatches_delivers _ _ _ (Queue.drain_genuine _) _

theorem drainQueue_taken (c : Consumer) (f : Feed) (cpu : CpuId) :
    (c.drainQueue f cpu).2.taken =
      ((Queue.drain (f.queue cpu)).batches.flatMap (·.taken)).map (cpu, ·) :=
  takeBatches_taken _ _ _ _

theorem drainRings_consumer (records lost : Nat) (c : Consumer) (f : Feed) (cpus : List CpuId) :
    (drainRings records lost c f cpus).consumer.decoder = c.decoder ∧
      (drainRings records lost c f cpus).consumer.rings = c.rings := by
  induction cpus generalizing records lost c f with
  | nil => exact ⟨rfl, rfl⟩
  | cons cpu rest ih =>
    cases fault : (Queue.drain (f.queue cpu)).fault with
    | some reason => rw [drainRings_fault fault]; exact ⟨rfl, rfl⟩
    | none => rw [drainRings_next fault]; exact ih _ _ (c.drained f cpu) _

theorem drainRings_delivers (records lost : Nat) (c : Consumer) (f : Feed) (cpus : List CpuId) :
    Delivers c.decoder c.stats (drainRings records lost c f cpus).consumer.stats
      (drainRings records lost c f cpus).journal := by
  induction cpus generalizing records lost c f with
  | nil => exact .idle rfl (by simp [drainRings, Journal.taken])
  | cons cpu rest ih =>
    have here := c.drainQueue_delivers f cpu
    cases fault : (Queue.drain (f.queue cpu)).fault with
    | some reason => rw [drainRings_fault fault]; exact here.trans (readFault_delivers _ _ _ _)
    | none => rw [drainRings_next fault]; exact here.trans (ih _ _ (c.drained f cpu) _)

theorem drainRings_polling (records lost : Nat) (c : Consumer) (f : Feed) (cpus : List CpuId) :
    (drainRings records lost c f cpus).journal.Polls := by
  induction cpus generalizing records lost c f with
  | nil => exact Journal.Polls.nil
  | cons cpu rest ih =>
    have here : (c.drainQueue f cpu).2.Polls := takeBatches_polling _ _ _ _
    cases fault : (Queue.drain (f.queue cpu)).fault with
    | some reason =>
      rw [drainRings_fault fault]
      refine here.append fun entry h => ?_
      rw [List.mem_singleton.mp h]
      rfl
    | none => rw [drainRings_next fault]; exact here.append (ih _ _ (c.drained f cpu) _)

theorem queue_setQueue (f : Feed) (c cpu : CpuId) (items : List Item) :
    (f.setQueue c items).queue cpu = if cpu = c then items else f.queue cpu := rfl

theorem drainRings_conserves (records lost : Nat) (c : Consumer) (f : Feed) (cpus : List CpuId) :
    (drainRings records lost c f cpus).feed.arrivals = f.arrivals ∧
      ∀ cpu, takenFrom cpu (drainRings records lost c f cpus).journal.taken ++
        (drainRings records lost c f cpus).feed.queue cpu = f.queue cpu := by
  induction cpus generalizing records lost c f with
  | nil => exact ⟨rfl, fun cpu => by simp [drainRings, Journal.taken, takenFrom]⟩
  | cons ring rest ih =>
    have whole := Queue.taken_append_rest_drain (f.queue ring)
    cases fault : (Queue.drain (f.queue ring)).fault with
    | some reason =>
      rw [drainRings_fault fault]
      refine ⟨rfl, fun cpu => ?_⟩
      rw [Journal.taken_append, takenFrom_append, drainQueue_taken, takenFrom_map, queue_setQueue]
      simp only [Queue.Drained.taken, fault] at whole
      by_cases h : ring = cpu
      · subst h
        simpa [Journal.taken, Entry.taken, takenFrom] using whole
      · simp [Journal.taken, Entry.taken, takenFrom, h, Ne.symm h]
    | none =>
      rw [drainRings_next fault]
      obtain ⟨arrivals, kept⟩ := ih (records + samplesOf (Queue.drain (f.queue ring)).batches)
        (lost + lossOf (Queue.drain (f.queue ring)).batches) (c.drained f ring)
        (f.setQueue ring (Queue.drain (f.queue ring)).rest)
      refine ⟨arrivals, fun cpu => ?_⟩
      simp only [Journal.taken_append, takenFrom_append, drainQueue_taken, takenFrom_map,
        List.append_assoc, kept cpu, queue_setQueue]
      simp only [Queue.Drained.taken, fault] at whole
      by_cases h : ring = cpu
      · subst h
        simpa using whole
      · simp [h, Ne.symm h]

theorem drainRings_counts (records lost : Nat) (c : Consumer) (f : Feed) (cpus : List CpuId) :
    (drainRings records lost c f cpus).consumer.stats.polls = c.stats.polls ∧
      (drainRings records lost c f cpus).consumer.stats.timeouts = c.stats.timeouts := by
  induction cpus generalizing records lost c f with
  | nil => exact ⟨rfl, rfl⟩
  | cons cpu rest ih =>
    obtain ⟨polls, timeouts, -, -⟩ :=
      takeBatches_counts c.decoder cpu (Queue.drain (f.queue cpu)).batches c.stats
    cases fault : (Queue.drain (f.queue cpu)).fault with
    | some reason => rw [drainRings_fault fault]; exact ⟨polls, timeouts⟩
    | none =>
      rw [drainRings_next fault]
      obtain ⟨laterPolls, laterTimeouts⟩ := ih
        (records + samplesOf (Queue.drain (f.queue cpu)).batches)
        (lost + lossOf (Queue.drain (f.queue cpu)).batches) (c.drained f cpu)
        (f.setQueue cpu (Queue.drain (f.queue cpu)).rest)
      exact ⟨laterPolls.trans polls, laterTimeouts.trans timeouts⟩

-- `records` and `lost` come in as what the rings before these have brought.
theorem drainRings_result (records lost : Nat) (c : Consumer) (f : Feed) (cpus : List CpuId) :
    (∃ reason, (drainRings records lost c f cpus).result = .error (.pollFailed reason)) ∨
      ∃ r l, (drainRings records lost c f cpus).result = .ok (.processed (records + r) (lost + l)) ∧
        (drainRings records lost c f cpus).consumer.stats.records = c.stats.records + r ∧
        (drainRings records lost c f cpus).consumer.stats.lost = c.stats.lost + l := by
  induction cpus generalizing records lost c f with
  | nil => exact .inr ⟨0, 0, rfl, rfl, rfl⟩
  | cons cpu rest ih =>
    cases fault : (Queue.drain (f.queue cpu)).fault with
    | some reason => rw [drainRings_fault fault]; exact .inl ⟨reason, rfl⟩
    | none =>
      rw [drainRings_next fault]
      obtain ⟨-, -, here, hereLost⟩ :=
        takeBatches_counts c.decoder cpu (Queue.drain (f.queue cpu)).batches c.stats
      rcases ih (records + samplesOf (Queue.drain (f.queue cpu)).batches)
        (lost + lossOf (Queue.drain (f.queue cpu)).batches) (c.drained f cpu)
        (f.setQueue cpu (Queue.drain (f.queue cpu)).rest) with failed | ⟨r, l, result, read, missed⟩
      · exact .inl failed
      · refine .inr ⟨samplesOf (Queue.drain (f.queue cpu)).batches + r,
          lossOf (Queue.drain (f.queue cpu)).batches + l, ?_, ?_, ?_⟩
        · rw [← Nat.add_assoc, ← Nat.add_assoc]
          exact result
        · rw [← Nat.add_assoc, ← here]
          exact read
        · rw [← Nat.add_assoc, ← hereLost]
          exact missed

end FileTrace.Consumer
