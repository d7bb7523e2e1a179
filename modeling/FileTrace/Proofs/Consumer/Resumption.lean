import FileTrace.Proofs.Consumer.Conservation

namespace FileTrace

namespace Queue

def Readable (queue : List Item) : Prop :=
  ∃ item rest, queue = item :: rest ∧ ∀ reason, item ≠ .waitError reason

theorem Readable.ne_nil {queue : List Item} (h : Readable queue) : queue ≠ [] := by
  obtain ⟨item, rest, rfl, -⟩ := h
  exact List.cons_ne_nil item rest

theorem Readable.takeBatch_taken {queue : List Item} (h : Readable queue)
    (sound : readFault? queue = none) (room : Nat) :
    (takeBatch (room + 1) queue).1.taken ≠ [] := by
  obtain ⟨item, rest, rfl, noWait⟩ := h
  cases item with
  | sample raw => simp [takeBatch, Batch.addSample]
  | lost count => simp [takeBatch, Batch.addLoss]
  | stop => simp [takeBatch]
  | readError reason => cases sound
  | waitError reason => exact absurd rfl (noWait reason)

theorem Readable.drain_taken {queue : List Item} (h : Readable queue) :
    (drain queue).taken ≠ [] := by
  fun_cases drain queue with
  | case1 reason rest fault => simp [Drained.taken]
  | case2 sound batch rest more later =>
    have first : batch.taken ≠ [] := h.takeBatch_taken sound _
    simp [Drained.taken, first]
  | case3 sound batch rest done =>
    have first : batch.taken ≠ [] := h.takeBatch_taken sound _
    simp [Drained.taken, first]

end Queue

namespace Feed

variable {f : Feed}

theorem mem_of_failed {cpu : CpuId} {reason : String} (rings : List CpuId)
    (h : f.readiness rings = .failed cpu reason) : cpu ∈ rings := by
  fun_induction readiness f rings with
  | case1 => cases h
  | case2 ring rest empty ih => exact List.mem_cons_of_mem ring (ih h)
  | case3 ring rest found items front =>
    cases h
    exact List.mem_cons_self
  | case4 => cases h
  | case5 ring rest item items front noWait c r later ih =>
    cases h
    exact List.mem_cons_of_mem ring (ih later)

theorem readable_of_ready {cpus : List CpuId} (rings : List CpuId)
    (h : f.readiness rings = .ready cpus) :
    ∀ cpu ∈ cpus, cpu ∈ rings ∧ Queue.Readable (f.queue cpu) := by
  fun_induction readiness f rings generalizing cpus with
  | case1 => cases h; exact List.forall_mem_nil _
  | case2 ring rest empty ih =>
    exact fun cpu hc => ⟨List.mem_cons_of_mem ring (ih h cpu hc).1, (ih h cpu hc).2⟩
  | case3 => cases h
  | case4 ring rest item items noWait front later ready ih =>
    cases h
    intro cpu hc
    rcases List.mem_cons.mp hc with rfl | hc
    · exact ⟨List.mem_cons_self, item, items, front, noWait⟩
    · exact ⟨List.mem_cons_of_mem ring (ih ready cpu hc).1, (ih ready cpu hc).2⟩
  | case5 => cases h

theorem empty_of_ready {rings : List CpuId} (h : f.readiness rings = .ready []) :
    ∀ cpu ∈ rings, f.queue cpu = [] := by
  fun_induction readiness f rings with
  | case1 => exact List.forall_mem_nil _
  | case2 ring rest empty ih => exact List.forall_mem_cons.mpr ⟨empty, ih h⟩
  | case3 => cases h
  | case4 => cases h
  | case5 => cases h

theorem await_cases (quiet : f.arrivals = []) (rings : List CpuId) (deadline : Nat) :
    ((∀ cpu ∈ rings, f.queue cpu = []) ∧
        f.await rings deadline = (.timedOut, { f with now := deadline })) ∨
      (∃ cpu ∈ rings, ∃ reason rest, f.queue cpu = .waitError reason :: rest ∧
        f.await rings deadline = (.failed cpu reason, f.setQueue cpu rest)) ∨
      ∃ cpu ∈ rings, Queue.Readable (f.queue cpu) ∧
        ∃ others, f.await rings deadline = (.ready (cpu :: others), f) := by
  fun_cases await f rings deadline with
  | case1 cpu reason h =>
    obtain ⟨rest, front⟩ := queue_of_failed rings h
    exact .inr (.inl ⟨cpu, mem_of_failed rings h, reason, rest, front, by rw [front, List.tail_cons]⟩)
  | case2 cpu others h =>
    obtain ⟨mem, readable⟩ := readable_of_ready rings h cpu List.mem_cons_self
    exact .inr (.inr ⟨cpu, mem, readable, others, rfl⟩)
  | case3 h => exact .inl ⟨empty_of_ready h, rfl⟩
  | case4 h a rest later => cases quiet.symm.trans later
  | case5 h a rest later => cases quiet.symm.trans later

def pending (f : Feed) (rings : List CpuId) : Nat :=
  (rings.dedup.map fun cpu => (f.queue cpu).length).sum

theorem pending_eq_zero {rings : List CpuId} :
    f.pending rings = 0 ↔ ∀ cpu ∈ rings, f.queue cpu = [] := by
  simp [pending, List.sum_eq_zero_iff]

theorem pending_mono {g : Feed} (rings : List CpuId)
    (shrinks : ∀ cpu, (g.queue cpu).length ≤ (f.queue cpu).length) :
    g.pending rings ≤ f.pending rings :=
  List.sum_le_sum fun cpu _ => shrinks cpu

theorem pending_lt {g : Feed} {rings : List CpuId}
    (shrinks : ∀ cpu, (g.queue cpu).length ≤ (f.queue cpu).length) {cpu : CpuId}
    (mem : cpu ∈ rings) (less : (g.queue cpu).length < (f.queue cpu).length) :
    g.pending rings < f.pending rings :=
  List.sum_lt_sum _ _ (fun c _ => shrinks c) ⟨cpu, List.mem_dedup.mpr mem, less⟩

end Feed

namespace Consumer

theorem drainRings_takes (records lost : Nat) (c : Consumer) (f : Feed) (cpu : CpuId)
    (others : List CpuId) (h : Queue.Readable (f.queue cpu)) :
    takenFrom cpu (drainRings records lost c f (cpu :: others)).journal.taken ≠ [] := by
  have first := h.drain_taken
  cases fault : (Queue.drain (f.queue cpu)).fault with
  | some reason =>
    rw [drainRings_fault fault]
    simp [Journal.taken, Entry.taken, takenFrom]
  | none =>
    rw [drainRings_next fault]
    simp only [Journal.taken_append, takenFrom_append, drainQueue_taken, takenFrom_map, if_true]
    simp only [Queue.Drained.taken, fault, Option.map_none, Option.toList_none,
      List.append_nil] at first
    exact List.append_ne_nil_of_left_ne_nil first _

structure Progresses (c : Consumer) (f : Feed) (polled : Polled) : Prop where
  takes : (∃ cpu ∈ c.rings, f.queue cpu ≠ []) →
    ∃ cpu ∈ c.rings, takenFrom cpu polled.journal.taken ≠ []
  keeps : ∀ cpu, takenFrom cpu polled.journal.taken ++ polled.feed.queue cpu = f.queue cpu
  timeout : polled.result = .ok .timeout ↔ ∀ cpu ∈ c.rings, f.queue cpu = []

variable (timeout : Nat) (c : Consumer) (f : Feed)

theorem poll_keeps (quiet : f.arrivals = []) :
    (c.poll timeout f).feed.arrivals = [] ∧
      ∀ cpu, takenFrom cpu (c.poll timeout f).journal.taken ++ (c.poll timeout f).feed.queue cpu =
        f.queue cpu := by
  obtain ⟨came, split, kept⟩ := c.poll_conserves timeout f
  obtain ⟨rfl, nothing⟩ := List.append_eq_nil_iff.mp (split.symm.trans quiet)
  exact ⟨nothing, fun cpu => by simpa [itemsFor] using kept cpu⟩

theorem poll_progresses (hr : c.rings ≠ []) (quiet : f.arrivals = []) :
    c.Progresses f (c.poll timeout f) := by
  have keeps := (c.poll_keeps timeout f quiet).2
  rcases f.await_cases quiet c.rings (f.now + timeout) with
    ⟨empty, await⟩ | ⟨cpu, mem, reason, rest, front, await⟩ | ⟨cpu, mem, readable, others, await⟩
  · refine ⟨fun ⟨cpu, mem, filled⟩ => absurd (empty cpu mem) filled, keeps,
      iff_of_true ?_ empty⟩
    simp [poll, hr, await]
  · refine ⟨fun _ => ⟨cpu, mem, ?_⟩, keeps, iff_of_false ?_ fun empty => ?_⟩
    · simp [poll, hr, await, Journal.taken, Entry.taken, takenFrom]
    · simp [poll, hr, await]
    · simp [empty cpu mem] at front
  · have drains : c.poll timeout f = drainRings 0 0 c.countPoll f (cpu :: others) := by
      simp [poll, hr, await]
    refine ⟨fun _ => ⟨cpu, mem, ?_⟩, keeps,
      iff_of_false ?_ fun empty => readable.ne_nil (empty cpu mem)⟩
    · rw [drains]
      exact drainRings_takes 0 0 c.countPoll f cpu others readable
    · rw [drains]
      rcases drainRings_result 0 0 c.countPoll f (cpu :: others) with
        ⟨reason, failed⟩ | ⟨r, l, processed, -, -⟩
      · simp [failed]
      · simp [processed]

theorem Progresses.pending_le {c : Consumer} {f : Feed} {polled : Polled}
    (h : c.Progresses f polled) : polled.feed.pending c.rings ≤ f.pending c.rings - 1 := by
  have shrinks (cpu : CpuId) : (polled.feed.queue cpu).length ≤ (f.queue cpu).length := by
    rw [← h.keeps cpu, List.length_append]
    exact Nat.le_add_left _ _
  by_cases empty : ∀ cpu ∈ c.rings, f.queue cpu = []
  · have nothing := Feed.pending_eq_zero.mpr empty
    have less := Feed.pending_mono c.rings shrinks
    omega
  · push Not at empty
    obtain ⟨cpu, mem, taken⟩ := h.takes empty
    have less : (polled.feed.queue cpu).length < (f.queue cpu).length := by
      rw [← h.keeps cpu, List.length_append]
      exact Nat.lt_add_of_pos_left (List.length_pos_iff.mpr taken)
    exact Nat.le_sub_one_of_lt (Feed.pending_lt shrinks mem less)

end Consumer

def Item.isContent : Item → Bool
  | .sample _ => true
  | .lost _ => true
  | _ => false

def Feed.faultless (f : Feed) : Feed :=
  { f with queue := fun cpu => (f.queue cpu).filter Item.isContent }

theorem sample?_filter_content (queue : List Item) :
    (queue.filter Item.isContent).filterMap Item.sample? = queue.filterMap Item.sample? := by
  rw [List.filterMap_filter]
  congr 1
  funext item
  cases item <;> rfl

theorem loss_filter_content (queue : List Item) :
    ((queue.filter Item.isContent).map Item.loss).sum = (queue.map Item.loss).sum := by
  induction queue with
  | nil => rfl
  | cons item rest ih => cases item <;> simp [Item.isContent, List.filter_cons, ih]

namespace Session

def polls (timeouts : List Nat) : List Action := timeouts.map .poll

theorem polls_quiet (timeouts : List Nat) (p : Polling) (quiet : p.feed.arrivals = []) :
    (final (polls timeouts) p).feed.arrivals = [] ∧
      (final (polls timeouts) p).consumer.rings = p.consumer.rings ∧
      ∀ cpu, queued cpu (polls timeouts) p = [] := by
  induction timeouts generalizing p with
  | nil => exact ⟨quiet, rfl, fun _ => rfl⟩
  | cons timeout rest ih =>
    have next := (p.consumer.poll_keeps timeout p.feed quiet).1
    obtain ⟨arrivals, rings, nothing⟩ := ih ((Action.poll timeout).perform p).1 next
    refine ⟨arrivals, rings.trans (p.consumer.poll_consumer timeout p.feed).2, fun cpu => ?_⟩
    have arrived : Turn.arrived ⟨p, .poll timeout⟩ = [] :=
      Feed.arrivedBy_same (next.trans quiet.symm)
    rw [polls, List.map_cons, queued_cons, ← polls, nothing cpu, Turn.queued, arrived]
    rfl

-- The subtraction stops at zero: with nothing left, further polls only time out.
theorem polls_pending (timeouts : List Nat) (p : Polling) (hr : p.consumer.rings ≠ [])
    (quiet : p.feed.arrivals = []) :
    (final (polls timeouts) p).feed.pending p.consumer.rings ≤
      p.feed.pending p.consumer.rings - timeouts.length := by
  induction timeouts generalizing p with
  | nil => exact le_rfl
  | cons timeout rest ih =>
    have here := (p.consumer.poll_progresses timeout p.feed hr quiet).pending_le
    have next := (p.consumer.poll_keeps timeout p.feed quiet).1
    have same := (p.consumer.poll_consumer timeout p.feed).2
    have later := ih ((Action.poll timeout).perform p).1 (same ▸ hr) next
    simp only [Action.perform, same] at later
    rw [List.length_cons]
    exact later.trans (by omega)

structure DeliversQueue (decoder : Decoder) (cpu : CpuId) (queue : List Item)
    (journal : Journal) : Prop where
  emitted : journal.emittedFrom cpu false =
    (queue.filterMap Item.sample?).filterMap decoder.emitted?
  lost : (journal.lossesOn cpu).sum = (queue.map Item.loss).sum

theorem polls_deliver (timeouts : List Nat) (p : Polling) (quiet : p.feed.arrivals = [])
    (cpu : CpuId) (empty : (final (polls timeouts) p).feed.queue cpu = []) :
    DeliversQueue p.consumer.decoder cpu (p.feed.queue cpu) (history (polls timeouts) p) := by
  have delivered := run_delivers (polls timeouts) p
  have taken := run_takes_queued (polls timeouts) p cpu
  rw [empty, (polls_quiet timeouts p quiet).2.2 cpu, List.append_nil, List.append_nil] at taken
  exact ⟨by rw [delivered.inOrder cpu false, taken], by rw [delivered.losses cpu, taken]⟩

def Empties (timeouts : List Nat) (p : Polling) : Prop :=
  ∀ cpu ∈ p.consumer.rings, (final (polls timeouts) p).feed.queue cpu = []

theorem polls_empty (timeouts : List Nat) (p : Polling) (hr : p.consumer.rings ≠ [])
    (quiet : p.feed.arrivals = []) (enough : p.feed.pending p.consumer.rings ≤ timeouts.length) :
    Empties timeouts p := by
  have left := polls_pending timeouts p hr quiet
  rw [Nat.sub_eq_zero_of_le enough] at left
  exact Feed.pending_eq_zero.mp (Nat.le_zero.mp left)

structure Resumes (c : Consumer) (f : Feed) : Prop where
  each : ∀ timeouts timeout,
    let p := final (polls timeouts) ⟨c, f⟩
    p.consumer.rings = c.rings ∧
      p.consumer.Progresses p.feed (p.consumer.poll timeout p.feed)
  empties : ∀ timeouts, f.pending c.rings ≤ timeouts.length →
    Empties timeouts ⟨c, f⟩ ∧ Empties timeouts ⟨c, f.faultless⟩
  delivers : ∀ timeouts, Empties timeouts ⟨c, f⟩ → ∀ cpu ∈ c.rings,
    DeliversQueue c.decoder cpu (f.queue cpu) (history (polls timeouts) ⟨c, f⟩)
  faultless : ∀ timeouts clean, Empties timeouts ⟨c, f⟩ → Empties clean ⟨c, f.faultless⟩ →
    ∀ cpu ∈ c.rings,
      (history (polls timeouts) ⟨c, f⟩).emittedFrom cpu false =
        (history (polls clean) ⟨c, f.faultless⟩).emittedFrom cpu false ∧
      ((history (polls timeouts) ⟨c, f⟩).lossesOn cpu).sum =
        ((history (polls clean) ⟨c, f.faultless⟩).lossesOn cpu).sum

theorem run_resumes (c : Consumer) (f : Feed) (hr : c.rings ≠ []) (quiet : f.arrivals = []) :
    Resumes c f where
  each timeouts timeout := by
    obtain ⟨arrivals, rings, -⟩ := polls_quiet timeouts ⟨c, f⟩ quiet
    exact ⟨rings, Consumer.poll_progresses timeout _ _ (rings ▸ hr) arrivals⟩
  empties timeouts enough := by
    have fewer : f.faultless.pending c.rings ≤ f.pending c.rings :=
      Feed.pending_mono c.rings fun cpu => List.length_filter_le Item.isContent (f.queue cpu)
    exact ⟨polls_empty timeouts ⟨c, f⟩ hr quiet enough,
      polls_empty timeouts ⟨c, f.faultless⟩ hr quiet (fewer.trans enough)⟩
  delivers timeouts empty cpu mem := polls_deliver timeouts ⟨c, f⟩ quiet cpu (empty cpu mem)
  faultless timeouts clean empty cleanEmpty cpu mem := by
    have here := polls_deliver timeouts ⟨c, f⟩ quiet cpu (empty cpu mem)
    have there := polls_deliver clean ⟨c, f.faultless⟩ quiet cpu (cleanEmpty cpu mem)
    constructor
    · rw [here.emitted, there.emitted]
      exact congrArg _ (sample?_filter_content _).symm
    · rw [here.lost, there.lost]
      exact (loss_filter_content _).symm

def twoRings : Consumer := ⟨[⟨0⟩, ⟨1⟩], ⟨.syncing, .current⟩, .zero⟩

/-- One ring fails a wait, then a read; on both a read stops short. -/
def interrupted : Feed where
  now := 0
  queue cpu :=
    if cpu = ⟨0⟩ then
      [.waitError "interrupted", .sample [], .readError "overrun", .lost 3,
        .sample (List.replicate 32 0)]
    else if cpu = ⟨1⟩ then [.stop, .sample (List.replicate 32 0), .stop, .lost 1]
    else []
  arrivals := []

theorem run_resumes_interrupted :
    twoRings.rings ≠ [] ∧ interrupted.arrivals = [] ∧ interrupted.pending twoRings.rings = 9 ∧
      Resumes twoRings interrupted :=
  ⟨by decide, rfl, by decide, run_resumes twoRings interrupted (by decide) rfl⟩

end Session

end FileTrace
