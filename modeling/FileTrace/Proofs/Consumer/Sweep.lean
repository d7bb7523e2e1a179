import FileTrace.Proofs.Consumer.DrainLoop
import FileTrace.Proofs.Consumer.SinglePass

namespace FileTrace

theorem Batch.Genuine.eq_ofItems {b : Batch} (h : b.Genuine) : b = .ofItems b.taken := by
  obtain ⟨samples, lost, taken⟩ := b
  rw [Batch.ofItems, Batch.mk.injEq]
  exact ⟨h.samples, h.lost, rfl⟩

namespace Queue

inductive Barred : List Item → Prop
  | nil : Barred []
  | readError {reason : String} {rest : List Item} : Barred (.readError reason :: rest)
  | waitError {reason : String} {rest : List Item} : Barred (.waitError reason :: rest)

inductive Takes (room : Nat) : List Item → List Item → List Item → Prop
  | full {front rest : List Item} {raw : List UInt8} (content : Content front)
      (count : sampleCount front + 1 = room) :
    Takes room (front ++ .sample raw :: rest) (front ++ [.sample raw]) rest
  | stop {front rest : List Item} (content : Content front) (count : sampleCount front < room) :
    Takes room (front ++ .stop :: rest) (front ++ [.stop]) rest
  | short {front rest : List Item} (content : Content front) (count : sampleCount front < room)
      (barred : Barred rest) : Takes room (front ++ rest) front rest

inductive Brings : List Item → Read → Prop
  | fault {reason : String} {rest : List Item} :
    Brings (.readError reason :: rest) ⟨.error reason, rest⟩
  | batch {queue taken rest : List Item}
      (sound : ∀ reason later, queue ≠ .readError reason :: later)
      (takes : Takes batchSize queue taken rest) : Brings queue ⟨.ok (.ofItems taken), rest⟩

inductive Drains : List Item → List (Except String Batch) → List Item → Prop
  | last {queue : List Item} {r : Read} (brings : Brings queue r) (ends : ¬r.GoesOn) :
    Drains queue [r.answer] r.rest
  | next {queue left : List Item} {r : Read} {answers : List (Except String Batch)}
      (brings : Brings queue r) (more : r.GoesOn) (later : Drains r.rest answers left) :
    Drains queue (r.answer :: answers) left

theorem Content.cons_sample {queue : List Item} (h : Content queue) (raw : List UInt8) :
    Content (.sample raw :: queue) := List.forall_mem_cons.mpr ⟨rfl, h⟩

theorem Content.cons_lost {queue : List Item} (h : Content queue) (count : Nat) :
    Content (.lost count :: queue) := List.forall_mem_cons.mpr ⟨rfl, h⟩

variable {room : Nat} {queue taken rest : List Item}

theorem Takes.sample (h : Takes room queue taken rest) (raw : List UInt8) :
    Takes (room + 1) (.sample raw :: queue) (.sample raw :: taken) rest := by
  cases h with
  | full content count => exact .full (content.cons_sample raw) (congrArg (· + 1) count)
  | stop content count => exact .stop (content.cons_sample raw) (Nat.succ_lt_succ count)
  | short content count barred =>
    exact .short (content.cons_sample raw) (Nat.succ_lt_succ count) barred

theorem Takes.lost (h : Takes room queue taken rest) (n : Nat) :
    Takes room (.lost n :: queue) (.lost n :: taken) rest := by
  cases h with
  | full content count => exact .full (content.cons_lost n) count
  | stop content count => exact .stop (content.cons_lost n) count
  | short content count barred => exact .short (content.cons_lost n) count barred

theorem takeBatch_takes (room : Nat) (queue : List Item) :
    Takes (room + 1) queue (takeBatch (room + 1) queue).1.taken (takeBatch (room + 1) queue).2 := by
  have nothing : Content [] := List.forall_mem_nil _
  induction queue generalizing room with
  | nil => exact .short nothing (Nat.succ_pos room) .nil
  | cons item queue ih =>
    cases item with
    | sample raw =>
      cases room with
      | zero =>
        rw [takeBatch, takeBatch_zero]
        exact .full nothing rfl
      | succ room => exact (ih room).sample raw
    | lost n => exact (ih room).lost n
    | stop => exact .stop nothing (Nat.succ_pos room)
    | readError reason => exact .short nothing (Nat.succ_pos room) .readError
    | waitError reason => exact .short nothing (Nat.succ_pos room) .waitError

theorem read_brings (queue : List Item) : Brings queue (read queue) := by
  cases fault : readFault? queue with
  | some found =>
    rw [read_fault fault, eq_of_readFault? fault]
    exact .fault
  | none =>
    rw [read_sound fault, (takeBatch_genuine batchSize queue).eq_ofItems]
    refine .batch (fun reason later front => ?_) (takeBatch_takes 31 queue)
    rw [front] at fault
    cases fault

theorem drain_drains (queue : List Item) :
    Drains queue (drain queue).answers (drain queue).rest := by
  have brings := read_brings queue
  fun_induction drain queue with
  | case1 queue reason rest fault =>
    rw [read_fault fault] at brings
    exact .last brings not_goesOn_error
  | case2 queue sound batch rest more later ih =>
    rw [read_sound sound] at brings
    exact .next brings (goesOn_ok_iff.mpr more) (ih (read_brings rest))
  | case3 queue sound batch rest done =>
    rw [read_sound sound] at brings
    exact .last brings (goesOn_ok_iff.not.mpr done)

theorem Drained.error_mem_answers {d : Drained} {reason : String} :
    .error reason ∈ d.answers ↔ d.fault = some reason := by
  simp [answers]

end Queue

def Entry.isLog : Entry → Bool
  | .log _ => true
  | _ => false

theorem Journal.Passive.unlogged {journal : Journal} (h : journal.Passive) :
    journal.filter (!·.isLog) = journal.deliveries.map .delivery := by
  induction journal with
  | nil => rfl
  | cons entry rest ih =>
    obtain ⟨passive, others⟩ := List.forall_mem_cons.mp h
    have later := ih others
    cases entry with
    | object call | ring call => cases passive
    | log line => exact later
    | delivery d => exact congrArg (.delivery d :: ·) later

namespace Consumer

def samplesIn : Except String Batch → List (List UInt8)
  | .ok batch => batch.samples
  | .error _ => []

def lossIn : Except String Batch → Nat
  | .ok batch => batch.lost
  | .error _ => 0

def deliveriesFor (decoder : Decoder) (cpu : CpuId) (answer : Except String Batch) :
    List Delivery :=
  (if lossIn answer = 0 then [] else [.loss cpu (lossIn answer)]) ++
    ((samplesIn answer).filterMap decoder.emitted?).map .emit

def telling (decoder : Decoder) (cpu : CpuId) (answer : Except String Batch) : Journal :=
  .ring (.reading cpu answer) :: (deliveriesFor decoder cpu answer).map .delivery

/-- Rings are drained in order up to the first of which a read fails. The rings and their answers,
the error if there was one, and the queues that are left. -/
inductive Sweep : Feed → List CpuId → List (CpuId × Except String Batch) → Option String → Feed →
    Prop
  | done {f : Feed} : Sweep f [] [] none f
  | ring {f g : Feed} {cpu : CpuId} {rest : List CpuId} {answers : List (Except String Batch)}
      {left : List Item} {reads : List (CpuId × Except String Batch)} {fault : Option String}
      (drains : Queue.Drains (f.queue cpu) answers left) (sound : ∀ reason, .error reason ∉ answers)
      (later : Sweep (f.setQueue cpu left) rest reads fault g) :
    Sweep f (cpu :: rest) (answers.map (cpu, ·) ++ reads) fault g
  | fault {f : Feed} {cpu : CpuId} {rest : List CpuId} {answers : List (Except String Batch)}
      {left : List Item} {reason : String} (drains : Queue.Drains (f.queue cpu) answers left)
      (failed : .error reason ∈ answers) :
    Sweep f (cpu :: rest) (answers.map (cpu, ·)) (some reason) (f.setQueue cpu left)

structure Swept (records lost : Nat) (c : Consumer) (reads : List (CpuId × Except String Batch))
    (fault : Option String) (polled : Polled) : Prop where
  processed : fault = none → polled.result =
    .ok (.processed (records + (reads.flatMap (samplesIn ·.2)).length)
      (lost + (reads.map (lossIn ·.2)).sum))
  failed : ∀ reason, fault = some reason → polled.result = .error (.pollFailed reason)
  counts : polled.consumer =
    { c with
      stats := c.stats.counting c.decoder (reads.flatMap (samplesIn ·.2))
        (reads.map (lossIn ·.2)).sum }
  tells : polled.journal.filter (!·.isLog) = reads.flatMap fun r => telling c.decoder r.1 r.2

theorem samplesIn_answers (d : Queue.Drained) :
    d.answers.flatMap samplesIn = d.batches.flatMap (·.samples) := by
  rw [Queue.Drained.answers, List.flatMap_append, List.flatMap_map]
  cases d.fault <;> simp [samplesIn]

theorem lossIn_answers (d : Queue.Drained) : (d.answers.map lossIn).sum = lossOf d.batches := by
  have batches : (d.batches.map (lossIn ∘ .ok)).sum = lossOf d.batches := by
    induction d.batches with
    | nil => rfl
    | cons b rest ih => exact congrArg (b.lost + ·) ih
  rw [Queue.Drained.answers, List.map_append, List.sum_append, List.map_map, batches]
  cases d.fault <;> simp [lossIn]

theorem takeBatch_tells (decoder : Decoder) (cpu : CpuId) (b : Batch) (s : Stats) :
    (takeBatch decoder cpu b s).2.filter (!·.isLog) = telling decoder cpu (.ok b) := by
  obtain ⟨quiet, whole, passive, deliveries⟩ := takeBatch_journal decoder cpu b s
  rw [whole, telling, deliveriesFor, samplesIn, lossIn, ← deliveries, ← passive.unlogged]
  rfl

theorem takeBatches_tells (decoder : Decoder) (cpu : CpuId) (batches : List Batch) (s : Stats) :
    (takeBatches decoder cpu batches s).2.filter (!·.isLog) =
      batches.flatMap fun b => telling decoder cpu (.ok b) := by
  induction batches generalizing s with
  | nil => rfl
  | cons b rest ih =>
    simp only [takeBatches, List.filter_append, takeBatch_tells, ih, List.flatMap_cons]

section

variable {records lost : Nat} {c : Consumer} {cpu : CpuId} {answers : List (Except String Batch)}
  {journal : Journal}

def counted (c : Consumer) (answers : List (Except String Batch)) : Consumer :=
  { c with
    stats := c.stats.counting c.decoder (answers.flatMap samplesIn) (answers.map lossIn).sum }

theorem Swept.ring {reads : List (CpuId × Except String Batch)} {fault : Option String}
    {later : Polled}
    (tells : journal.filter (!·.isLog) = answers.flatMap (telling c.decoder cpu))
    (h : Swept (records + (answers.flatMap samplesIn).length) (lost + (answers.map lossIn).sum)
      (c.counted answers) reads fault later) :
    Swept records lost c (answers.map (cpu, ·) ++ reads) fault
      { later with journal := journal ++ later.journal } where
  processed sound := by
    rw [h.processed sound, List.flatMap_append, List.flatMap_map, List.length_append,
      List.map_append, List.map_map, List.sum_append, Nat.add_assoc, Nat.add_assoc]
    rfl
  failed := h.failed
  counts := by
    rw [h.counts, counted, Stats.counting_counting, List.flatMap_append, List.flatMap_map,
      List.map_append, List.map_map, List.sum_append]
    rfl
  tells := by
    rw [List.filter_append, tells, h.tells, List.flatMap_append, List.flatMap_map]
    rfl

theorem Swept.fault {f : Feed} {reason : String}
    (tells : journal.filter (!·.isLog) = answers.flatMap (telling c.decoder cpu)) :
    Swept records lost c (answers.map (cpu, ·)) (some reason)
      ⟨.error (.pollFailed reason), c.counted answers, f, journal⟩ where
  processed := nofun
  failed _ same := by rw [Option.some.inj same]
  counts := by
    rw [counted, List.flatMap_map, List.map_map]
    rfl
  tells := by
    rw [tells, List.flatMap_map]

theorem drained_eq_counted (c : Consumer) (f : Feed) (cpu : CpuId) :
    c.drained f cpu = c.counted (Queue.drain (f.queue cpu)).answers := by
  rw [drained, drainQueue, takeBatches_counting, counted, samplesIn_answers, lossIn_answers]

theorem drainQueue_tells (c : Consumer) (f : Feed) (cpu : CpuId) :
    ((c.drainQueue f cpu).2 ++ ((Queue.drain (f.queue cpu)).fault.map fun reason =>
        Entry.ring (.readFault cpu reason)).toList).filter (!·.isLog) =
      (Queue.drain (f.queue cpu)).answers.flatMap (telling c.decoder cpu) := by
  rw [List.filter_append, drainQueue, takeBatches_tells, Queue.Drained.answers,
    List.flatMap_append, List.flatMap_map]
  cases (Queue.drain (f.queue cpu)).fault <;> rfl

end

theorem drainRings_sweeps (records lost : Nat) (c : Consumer) (f : Feed) (cpus : List CpuId) :
    ∃ reads fault, Sweep f cpus reads fault (drainRings records lost c f cpus).feed ∧
      Swept records lost c reads fault (drainRings records lost c f cpus) := by
  induction cpus generalizing records lost c f with
  | nil => exact ⟨[], none, .done, fun _ => rfl, nofun, rfl, rfl⟩
  | cons cpu rest ih =>
    have drains := Queue.drain_drains (f.queue cpu)
    have tells := c.drainQueue_tells f cpu
    cases fault : (Queue.drain (f.queue cpu)).fault with
    | some reason =>
      rw [fault] at tells
      rw [drainRings_fault fault, drained_eq_counted]
      exact ⟨_, some reason, .fault drains (Queue.Drained.error_mem_answers.mpr fault),
        .fault tells⟩
    | none =>
      have sound (reason : String) : .error reason ∉ (Queue.drain (f.queue cpu)).answers := by
        rw [Queue.Drained.error_mem_answers, fault]
        nofun
      rw [fault, Option.map_none, Option.toList_none, List.append_nil] at tells
      rw [drainRings_next fault, drained_eq_counted, samplesOf_eq, ← samplesIn_answers,
        ← lossIn_answers]
      obtain ⟨reads, fault, sweep, swept⟩ := ih _ _ _ _
      exact ⟨_, fault, .ring drains sound sweep, .ring tells swept⟩

end Consumer

end FileTrace
