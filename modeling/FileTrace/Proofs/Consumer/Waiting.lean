import FileTrace.Proofs.Consumer.Sweep
import FileTrace.Proofs.Ring.Waiting

namespace FileTrace

structure Consumer.Polled.Alike (rings : List CpuId) (p q : Polled) : Prop where
  result : p.result = q.result
  consumer : p.consumer = q.consumer
  journal : p.journal = q.journal
  feed : p.feed.Alike rings q.feed

namespace Consumer

theorem Sweep.now {f g : Feed} {cpus : List CpuId} {reads : List (CpuId × Except String Batch)}
    {fault : Option String} (h : Sweep f cpus reads fault g) : g.now = f.now := by
  induction h with
  | done => rfl
  | ring drains sound later ih => exact ih
  | fault drains failed => rfl

theorem drainRings_now (records lost : Nat) (c : Consumer) (f : Feed) (cpus : List CpuId) :
    (drainRings records lost c f cpus).feed.now = f.now := by
  obtain ⟨reads, fault, sweep, -⟩ := drainRings_sweeps records lost c f cpus
  exact sweep.now

theorem drainRings_alike (records lost : Nat) (c : Consumer) {f g : Feed} {rings : List CpuId}
    (alike : f.Alike rings g) {cpus : List CpuId} (among : ∀ cpu ∈ cpus, cpu ∈ rings) :
    (drainRings records lost c f cpus).Alike rings (drainRings records lost c g cpus) := by
  induction cpus generalizing records lost c f g with
  | nil => exact ⟨rfl, rfl, rfl, alike⟩
  | cons cpu rest ih =>
    obtain ⟨mem, others⟩ := List.forall_mem_cons.mp among
    have same := alike.queue cpu mem
    have left := alike.setQueue cpu (Queue.drain (f.queue cpu)).rest
    cases fault : (Queue.drain (f.queue cpu)).fault with
    | some reason =>
      rw [drainRings_fault fault, drainRings_fault (same ▸ fault)]
      simp only [drained, drainQueue, ← same]
      exact ⟨rfl, rfl, rfl, left⟩
    | none =>
      have later := ih (records + samplesOf (Queue.drain (f.queue cpu)).batches)
        (lost + lossOf (Queue.drain (f.queue cpu)).batches) (c.drained f cpu) left others
      rw [drainRings_next fault, drainRings_next (same ▸ fault)]
      simp only [drained, drainQueue, ← same] at later ⊢
      exact ⟨later.result, later.consumer, congrArg (_ ++ ·) later.journal, later.feed⟩

inductive Answers (c : Consumer) (g : Feed) : Polled → Prop
  | waitFault {before after : List CpuId} {cpu : CpuId} {reason : String} {rest : List Item}
      (order : c.rings = before ++ cpu :: after)
      (sound : ∀ ring ∈ before, ¬Queue.FailsWait (g.queue ring))
      (front : g.queue cpu = .waitError reason :: rest) :
    Answers c g ⟨.error (.pollFailed reason), c.countPoll, g.setQueue cpu rest,
      [.ring (.waitFault cpu reason)]⟩
  | drained {reads : List (CpuId × Except String Batch)} {fault : Option String} {polled : Polled}
      (sound : ∀ ring ∈ c.rings, ¬Queue.FailsWait (g.queue ring))
      (sweep : Sweep g (g.filled c.rings) reads fault polled.feed)
      (swept : Swept 0 0 c.countPoll reads fault polled) : Answers c g polled

structure Waits (c : Consumer) (f : Feed) (timeout : Nat) (polled : Polled) : Prop where
  timeout_iff : polled.result = .ok .timeout ↔ f.Idle c.rings (f.now + timeout)
  expires : polled.result = .ok .timeout → polled =
    ⟨.ok .timeout, c.countPoll.countTimeout,
      f.grown (f.now + timeout) (·.time < f.now + timeout), []⟩
  wakes : polled.result ≠ .ok .timeout → ∃ g, f.Wakes c.rings (f.now + timeout) g ∧
    polled.feed.now = g.now ∧ Answers c g polled
  undisturbed : ∀ g : Feed, g.Timely → f.Alike c.rings g →
    polled.Alike c.rings (c.poll timeout g)
  timely : polled.feed.Timely

theorem Swept.not_timeout {records lost : Nat} {c : Consumer}
    {reads : List (CpuId × Except String Batch)} {fault : Option String} {polled : Polled}
    (h : Swept records lost c reads fault polled) : polled.result ≠ .ok .timeout := by
  cases fault with
  | none =>
    rw [h.processed rfl]
    nofun
  | some reason =>
    rw [h.failed reason rfl]
    nofun

theorem Answers.now {c : Consumer} {g : Feed} {polled : Polled} (h : Answers c g polled) :
    polled.feed.now = g.now := by
  cases h with
  | waitFault order sound front => rfl
  | drained sound sweep swept => exact sweep.now

theorem Answers.not_timeout {c : Consumer} {g : Feed} {polled : Polled} (h : Answers c g polled) :
    polled.result ≠ .ok .timeout := by
  cases h with
  | waitFault order sound front => nofun
  | drained sound sweep swept => exact swept.not_timeout

theorem poll_alike (timeout : Nat) (c : Consumer) {f g : Feed} (timely : f.Timely)
    (timely' : g.Timely) (alike : f.Alike c.rings g) :
    (c.poll timeout f).Alike c.rings (c.poll timeout g) := by
  obtain ⟨same, left⟩ := alike.await timely timely' (f.now + timeout)
  have among := f.await_among c.rings (f.now + timeout)
  rw [poll, poll, ← alike.now]
  split
  · exact ⟨rfl, rfl, rfl, alike⟩
  · generalize f.await c.rings (f.now + timeout) = answer at same left among ⊢
    generalize g.await c.rings (f.now + timeout) = answer' at same left ⊢
    obtain ⟨wait, f'⟩ := answer
    obtain ⟨wait', g'⟩ := answer'
    obtain rfl : wait = wait' := same
    cases wait with
    | timedOut => exact ⟨rfl, rfl, rfl, left⟩
    | failed cpu reason => exact ⟨rfl, rfl, rfl, left⟩
    | ready cpus => exact drainRings_alike 0 0 c.countPoll left among

theorem poll_timely (timeout : Nat) (c : Consumer) {f : Feed} (timely : f.Timely) :
    (c.poll timeout f).feed.Timely := by
  rw [poll]
  split
  · exact timely
  · have waited := timely.await c.rings (f.now + timeout)
    generalize f.await c.rings (f.now + timeout) = answer at waited ⊢
    obtain ⟨wait, g⟩ := answer
    cases wait with
    | timedOut => exact waited
    | failed cpu reason => exact waited
    | ready cpus =>
      have now := drainRings_now 0 0 c.countPoll g cpus
      have arrivals := (drainRings_conserves 0 0 c.countPoll g cpus).1
      exact ⟨arrivals ▸ waited.ordered, fun a mem => now ▸ waited.ahead a (arrivals ▸ mem)⟩

section

variable {c : Consumer} {f : Feed} (timeout : Nat) (rings : c.rings ≠ [])
include rings

theorem poll_idle
    (await : f.await c.rings (f.now + timeout) = (.timedOut, f.grown (f.now + timeout)
      (·.time < f.now + timeout))) :
    c.poll timeout f = ⟨.ok .timeout, c.countPoll.countTimeout,
      f.grown (f.now + timeout) (·.time < f.now + timeout), []⟩ := by
  simp [poll, rings, await]

theorem poll_answers {g : Feed} (filled : ¬g.Empty c.rings)
    (await : f.await c.rings (f.now + timeout) = g.await c.rings (f.now + timeout)) :
    Answers c g (c.poll timeout f) := by
  have opened : c.rings.isEmpty = false := by simpa using rings
  rw [poll, opened, await]
  rcases g.sound_or_first_fault c.rings with
    sound | ⟨before, cpu, after, reason, rest, order, sound, front⟩
  · rw [Feed.await_sound filled sound]
    obtain ⟨reads, fault, sweep, swept⟩ := drainRings_sweeps 0 0 c.countPoll g (g.filled c.rings)
    exact .drained sound sweep swept
  · rw [Feed.await_fault order sound front]
    exact .waitFault order sound front

theorem poll_waits (timely : f.Timely) : Waits c f timeout (c.poll timeout f) := by
  have undisturbed (g : Feed) (timely' : g.Timely) (alike : f.Alike c.rings g) :=
    c.poll_alike timeout timely timely' alike
  have again := c.poll_timely timeout timely
  rcases Feed.await_idle_or_wakes timely c.rings (f.now + timeout) with
    ⟨idle, await⟩ | ⟨g, wakes, await⟩
  · have expires := poll_idle timeout rings await
    exact ⟨iff_of_true (by rw [expires]) idle, fun _ => expires,
      fun other => absurd (by rw [expires]) other, undisturbed, again⟩
  · have answers := poll_answers timeout rings wakes.filled await
    exact ⟨iff_of_false answers.not_timeout wakes.not_idle,
      fun expired => absurd expired answers.not_timeout,
      fun _ => ⟨g, wakes, answers.now, answers⟩, undisturbed, again⟩

end

def crowded : Feed := .start
  [⟨3, ⟨0⟩, [.sample []]⟩, ⟨1, ⟨0⟩, []⟩, ⟨2, ⟨7⟩, [.lost 1]⟩, ⟨3, ⟨1⟩, [.lost 2]⟩]

theorem poll_waits_crowded :
    Session.twoRings.rings ≠ [] ∧ crowded.Timely ∧ crowded.arrivals.map (·.time) = [1, 2, 3, 3] ∧
      Waits Session.twoRings crowded 5 (Session.twoRings.poll 5 crowded) :=
  ⟨by decide, Feed.start_timely _, by decide, poll_waits 5 (by decide) (Feed.start_timely _)⟩

end Consumer

namespace Session

theorem perform_timely (action : Action) {p : Polling} (timely : p.feed.Timely) :
    (action.perform p).1.feed.Timely := by
  cases action with
  | poll timeout => exact p.consumer.poll_timely timeout timely
  | push cpu items => exact timely.setQueue _ _
  | destroy => exact timely

theorem run_timely (actions : List Action) {p : Polling} (timely : p.feed.Timely) :
    (final actions p).feed.Timely := by
  induction actions generalizing p with
  | nil => exact timely
  | cons action rest ih => exact ih (perform_timely action timely)

theorem reached_timely (schedule : List Arrival) (backlog : List (CpuId × List Item))
    (c : Consumer) (actions : List Action) :
    (final actions ⟨c, (Feed.start schedule).fill backlog⟩).feed.Timely :=
  run_timely actions ((Feed.start_timely schedule).fill backlog)

structure Twins (p q : Polling) : Prop where
  consumer : p.consumer = q.consumer
  feed : p.feed.Alike p.consumer.rings q.feed
  timely : p.feed.Timely ∧ q.feed.Timely

theorem perform_twins (action : Action) {p q : Polling} (twins : Twins p q) :
    (action.perform p).2 = (action.perform q).2 ∧
      Twins (action.perform p).1 (action.perform q).1 := by
  have timely : (action.perform p).1.feed.Timely ∧ (action.perform q).1.feed.Timely :=
    ⟨perform_timely action twins.timely.1, perform_timely action twins.timely.2⟩
  obtain ⟨c, f⟩ := p
  obtain ⟨c', g⟩ := q
  obtain ⟨rfl, alike, timelyF, timelyG⟩ := twins
  cases action with
  | poll timeout =>
    have polled := c.poll_alike timeout timelyF timelyG alike
    have same := (c.poll_consumer timeout f).2
    exact ⟨polled.journal, polled.consumer, same ▸ polled.feed, timely⟩
  | push cpu items => exact ⟨rfl, rfl, alike.push cpu items, timely⟩
  | destroy =>
    refine ⟨rfl, rfl, alike.mono fun cpu mem => ?_, timely⟩
    rw [Action.perform, c.destroy_consumer] at mem
    cases mem

theorem run_twins (actions : List Action) {p q : Polling} (twins : Twins p q) :
    history actions p = history actions q ∧ Twins (final actions p) (final actions q) := by
  induction actions generalizing p q with
  | nil => exact ⟨rfl, twins⟩
  | cons action rest ih =>
    obtain ⟨here, next⟩ := perform_twins action twins
    obtain ⟨later, last⟩ := ih next
    exact ⟨by rw [history_cons, history_cons, here, later], last⟩

end Session

end FileTrace
