import FileTrace.Proofs.Consumer.Ownership

namespace FileTrace

theorem Batch.progressed_iff {b : Batch} : b.progressed = true ↔ b.samples ≠ [] ∨ 0 < b.lost := by
  simp [progressed]

namespace Queue

structure Read where
  answer : Except String Batch
  rest : List Item

def read (queue : List Item) : Read :=
  match readFault? queue with
  | some (reason, rest) => ⟨.error reason, rest⟩
  | none => ⟨.ok (takeBatch batchSize queue).1, (takeBatch batchSize queue).2⟩

def Read.GoesOn (r : Read) : Prop :=
  (∃ b, r.answer = .ok b ∧ (b.samples ≠ [] ∨ 0 < b.lost)) ∧ r.rest ≠ []

/-- Reading a ring again and again: the reads after which it goes on, and the one that ends it. -/
inductive Loop : List Item → List Read → Read → Prop
  | stop {queue : List Item} (ends : ¬(read queue).GoesOn) : Loop queue [] (read queue)
  | next {queue : List Item} {front : List Read} {last : Read} (more : (read queue).GoesOn)
      (loop : Loop (read queue).rest front last) : Loop queue (read queue :: front) last

variable {queue : List Item}

theorem read_fault {reason : String} {rest : List Item}
    (h : readFault? queue = some (reason, rest)) : read queue = ⟨.error reason, rest⟩ := by
  simp only [read, h]

theorem read_sound (h : readFault? queue = none) :
    read queue = ⟨.ok (takeBatch batchSize queue).1, (takeBatch batchSize queue).2⟩ := by
  simp only [read, h]

theorem goesOn_ok_iff {b : Batch} {rest : List Item} :
    Read.GoesOn ⟨.ok b, rest⟩ ↔ b.progressed = true ∧ rest ≠ [] := by
  simp [Read.GoesOn, Batch.progressed_iff]

theorem not_goesOn_error {reason : String} {rest : List Item} :
    ¬Read.GoesOn ⟨.error reason, rest⟩ := by
  simp [Read.GoesOn]

theorem Read.GoesOn.length_lt (h : (read queue).GoesOn) :
    (read queue).rest.length < queue.length := by
  cases fault : readFault? queue with
  | some found =>
    rw [read_fault fault] at h
    exact absurd h not_goesOn_error
  | none =>
    rw [read_sound fault] at h ⊢
    exact length_rest_lt (goesOn_ok_iff.mp h).1

namespace Loop

variable {front : List Read} {last : Read}

theorem length_le (h : Loop queue front last) : front.length ≤ queue.length := by
  induction h with
  | stop ends => exact Nat.zero_le _
  | next more loop ih => exact ih.trans_lt more.length_lt

theorem front_goes_on (h : Loop queue front last) : ∀ r ∈ front, r.GoesOn := by
  induction h with
  | stop ends => exact List.forall_mem_nil _
  | next more loop ih => exact List.forall_mem_cons.mpr ⟨more, ih⟩

theorem last_ends (h : Loop queue front last) : ¬last.GoesOn := by
  induction h with
  | stop ends => exact ends
  | next more loop ih => exact ih

end Loop

def Drained.answers (d : Drained) : List (Except String Batch) :=
  d.batches.map .ok ++ (d.fault.map .error).toList

section Last

variable {d : Drained} {front : List (Except String Batch)} {last : Except String Batch}

theorem Drained.last_error {reason : String} (fault : d.fault = some reason)
    (answers : front ++ [last] = d.answers) : last = .error reason := by
  rw [Drained.answers, fault] at answers
  exact List.singleton_inj.mp (List.append_inj' answers rfl).2

theorem Drained.last_ok (sound : d.fault = none) (answers : front ++ [last] = d.answers) :
    ∃ b, last = .ok b := by
  have among : last ∈ d.answers := answers ▸ List.mem_append_right front List.mem_cons_self
  rw [Drained.answers, sound, Option.map_none, Option.toList_none, List.append_nil] at among
  obtain ⟨b, -, same⟩ := List.mem_map.mp among
  exact ⟨b, same.symm⟩

end Last

theorem drain_loops (queue : List Item) :
    ∃ front last, Loop queue front last ∧
      front.map (·.answer) ++ [last.answer] = (drain queue).answers ∧
      last.rest = (drain queue).rest := by
  fun_induction drain queue with
  | case1 queue reason rest fault =>
    have here := read_fault fault
    refine ⟨[], read queue, .stop ?_, ?_, ?_⟩
    · rw [here]
      exact not_goesOn_error
    · rw [here]
      rfl
    · rw [here]
  | case2 queue sound batch rest more later ih =>
    have here : read queue = ⟨.ok batch, rest⟩ := read_sound sound
    obtain ⟨front, last, loop, answers, left⟩ := ih
    refine ⟨read queue :: front, last, .next ?_ ?_, ?_, left⟩
    · rw [here]
      exact goesOn_ok_iff.mpr more
    · rw [here]
      exact loop
    · rw [List.map_cons, List.cons_append, answers, here]
      rfl
  | case3 queue sound batch rest done =>
    have here : read queue = ⟨.ok batch, rest⟩ := read_sound sound
    refine ⟨[], read queue, .stop ?_, ?_, ?_⟩
    · rw [here]
      exact goesOn_ok_iff.not.mpr done
    · rw [here]
      rfl
    · rw [here]

theorem length_answers_le (queue : List Item) :
    (drain queue).answers.length ≤ queue.length + 1 := by
  obtain ⟨front, last, loop, answers, -⟩ := drain_loops queue
  rw [← answers]
  simpa using loop.length_le

theorem length_rest_drain_le (queue : List Item) : (drain queue).rest.length ≤ queue.length := by
  have kept := congrArg List.length (taken_append_rest_drain queue)
  rw [List.length_append] at kept
  omega

end Queue

def RingCall.reading (cpu : CpuId) : Except String Batch → RingCall
  | .ok batch => .read cpu batch
  | .error reason => .readFault cpu reason

theorem Queue.Drained.answers_told (d : Drained) (cpu : CpuId) :
    d.answers.map (RingCall.reading cpu) =
      d.batches.map (RingCall.read cpu) ++ (d.fault.map (RingCall.readFault cpu)).toList := by
  rw [answers, List.map_append, List.map_map]
  cases d.fault <;> rfl

namespace Consumer

theorem takeBatches_ringCalls (decoder : Decoder) (cpu : CpuId) (batches : List Batch)
    (s : Stats) :
    (takeBatches decoder cpu batches s).2.ringCalls = batches.map (.read cpu) := by
  induction batches generalizing s with
  | nil => rfl
  | cons b rest ih =>
    simp only [takeBatches, Journal.ringCalls_append, takeBatch_ringCalls, ih, List.map_cons,
      List.singleton_append]

inductive Stops (last : Queue.Read) : Except ConsumerError PollResult → Prop
  | failed {reason : String} (answer : last.answer = .error reason) :
    Stops last (.error (.pollFailed reason))
  | emptied {b : Batch} {records lost : Nat} (answer : last.answer = .ok b)
    (nothing : last.rest = []) : Stops last (.ok (.processed records lost))
  | idle {b : Batch} {records lost : Nat} (answer : last.answer = .ok b)
    (samples : b.samples = []) (loss : b.lost = 0) : Stops last (.ok (.processed records lost))

structure Ends (f : Feed) (cpu : CpuId) (front : List Queue.Read) (last : Queue.Read)
    (polled : Polled) : Prop where
  loop : Queue.Loop (f.queue cpu) front last
  calls : polled.journal.ringCalls =
    front.map (.reading cpu ·.answer) ++ [.reading cpu last.answer]
  bounded : polled.journal.ringCalls.length ≤ (f.queue cpu).length + 1
  goesOn : ∀ read ∈ front,
    (∃ b, read.answer = .ok b ∧ (b.samples ≠ [] ∨ 0 < b.lost)) ∧ read.rest ≠ []
  stops : Stops last polled.result
  leaves : polled.feed = f.setQueue cpu last.rest

section

variable (records lost : Nat) (c : Consumer) (f : Feed) (cpu : CpuId)

theorem drainQueue_calls :
    (c.drainQueue f cpu).2.ringCalls ++
        ((Queue.drain (f.queue cpu)).fault.map (RingCall.readFault cpu)).toList =
      (Queue.drain (f.queue cpu)).answers.map (.reading cpu) := by
  rw [drainQueue, takeBatches_ringCalls, Queue.Drained.answers_told]

theorem drainRing_calls :
    (drainRings records lost c f [cpu]).journal.ringCalls =
      (Queue.drain (f.queue cpu)).answers.map (.reading cpu) := by
  rw [← drainQueue_calls c]
  cases fault : (Queue.drain (f.queue cpu)).fault with
  | some reason => rw [drainRings_fault fault, Journal.ringCalls_append]; rfl
  | none => rw [drainRings_next fault]; exact Journal.ringCalls_append _ _

theorem drainRing_feed :
    (drainRings records lost c f [cpu]).feed =
      f.setQueue cpu (Queue.drain (f.queue cpu)).rest := by
  cases fault : (Queue.drain (f.queue cpu)).fault with
  | some reason => rw [drainRings_fault fault]
  | none => rw [drainRings_next fault]; rfl

theorem drainRing_stops {front : List Queue.Read} {last : Queue.Read}
    (ends : ¬last.GoesOn)
    (answers : front.map (·.answer) ++ [last.answer] = (Queue.drain (f.queue cpu)).answers) :
    Stops last (drainRings records lost c f [cpu]).result := by
  cases fault : (Queue.drain (f.queue cpu)).fault with
  | some reason =>
    rw [drainRings_fault fault]
    exact .failed (Queue.Drained.last_error fault answers)
  | none =>
    obtain ⟨b, answer⟩ := Queue.Drained.last_ok fault answers
    rw [drainRings_next fault]
    by_cases nothing : last.rest = []
    · exact .emptied answer nothing
    · have idle : ¬(b.samples ≠ [] ∨ 0 < b.lost) := fun brought =>
        ends ⟨⟨b, answer, brought⟩, nothing⟩
      rw [not_or, not_not, Nat.pos_iff_ne_zero, not_not] at idle
      exact .idle answer idle.1 idle.2

theorem drain_ends : ∃ front last, Ends f cpu front last (drainRings records lost c f [cpu]) := by
  obtain ⟨front, last, loop, answers, left⟩ := Queue.drain_loops (f.queue cpu)
  have calls : (drainRings records lost c f [cpu]).journal.ringCalls =
      front.map (.reading cpu ·.answer) ++ [.reading cpu last.answer] := by
    rw [drainRing_calls, ← answers, List.map_append, List.map_map]
    rfl
  refine ⟨front, last, loop, calls, ?_, loop.front_goes_on,
    drainRing_stops records lost c f cpu loop.last_ends answers, ?_⟩
  · rw [calls]
    simpa using loop.length_le
  · rw [drainRing_feed, left]

end

-- Rings of one processor share its queue: a later one may find less in it than stood there.
theorem drainRings_calls_le (records lost : Nat) (c : Consumer) (f : Feed) (cpus : List CpuId) :
    (drainRings records lost c f cpus).journal.ringCalls.length ≤
      (cpus.map fun cpu => (f.queue cpu).length + 1).sum := by
  induction cpus generalizing records lost c f with
  | nil => exact le_rfl
  | cons cpu rest ih =>
    have here := congrArg List.length (c.drainQueue_calls f cpu)
    have bounded := Queue.length_answers_le (f.queue cpu)
    rw [List.length_append, List.length_map] at here
    rw [List.map_cons, List.sum_cons]
    cases fault : (Queue.drain (f.queue cpu)).fault with
    | some reason =>
      rw [drainRings_fault fault, Journal.ringCalls_append, List.length_append]
      rw [fault] at here
      exact here.le.trans (bounded.trans (Nat.le_add_right _ _))
    | none =>
      have shrinks : (rest.map fun ring =>
          ((f.setQueue cpu (Queue.drain (f.queue cpu)).rest).queue ring).length + 1).sum ≤
            (rest.map fun ring => (f.queue ring).length + 1).sum := by
        refine List.sum_le_sum fun ring _ => Nat.succ_le_succ ?_
        rw [queue_setQueue]
        split
        · subst ring
          exact Queue.length_rest_drain_le _
        · exact le_rfl
      have later := ih (records + samplesOf (Queue.drain (f.queue cpu)).batches)
        (lost + lossOf (Queue.drain (f.queue cpu)).batches) (c.drained f cpu)
        (f.setQueue cpu (Queue.drain (f.queue cpu)).rest)
      rw [drainRings_next fault, Journal.ringCalls_append, List.length_append]
      rw [fault] at here
      exact Nat.add_le_add (here.le.trans bounded) (later.trans shrinks)

end Consumer

end FileTrace
