import FileTrace.Session
import FileTrace.Proofs.Consumer.Draining

namespace FileTrace

namespace Consumer

variable (timeout : Nat) (c : Consumer) (f : Feed)

theorem poll_noRings (h : c.rings = []) : c.poll timeout f = ⟨.error noRings, c, f, []⟩ := by
  simp [poll, h]

theorem poll_delivers :
    Delivers c.decoder c.stats (c.poll timeout f).consumer.stats (c.poll timeout f).journal := by
  rw [poll]
  split
  · exact .idle rfl (by simp [Journal.taken])
  · split
    · have h : Delivers c.decoder c.stats c.stats [] := .idle rfl (by simp [Journal.taken])
      exact ⟨h.emitted, h.inOrder, h.losses, h.positive, rfl, fun v => by cases v <;> rfl, rfl⟩
    · rename_i cpu reason waited _
      have h : Delivers c.decoder c.stats c.stats [.ring (.waitFault cpu reason)] :=
        .idle rfl (by simp [Journal.taken, Entry.taken])
      exact ⟨h.emitted, h.inOrder, h.losses, h.positive, rfl, fun v => by cases v <;> rfl, rfl⟩
    · rename_i cpus waited _
      have h := drainRings_delivers 0 0 c.countPoll waited cpus
      exact ⟨h.emitted, h.inOrder, h.losses, h.positive, h.records,
        fun v => by cases v <;> exact h.verdicts _, h.lost⟩

theorem poll_consumer :
    (c.poll timeout f).consumer.decoder = c.decoder ∧
      (c.poll timeout f).consumer.rings = c.rings := by
  rw [poll]
  split
  · exact ⟨rfl, rfl⟩
  · split
    · exact ⟨rfl, rfl⟩
    · exact ⟨rfl, rfl⟩
    · exact drainRings_consumer 0 0 c.countPoll _ _

theorem poll_polling : (c.poll timeout f).journal.Polls := by
  rw [poll]
  split
  · exact Journal.Polls.nil
  · split
    · exact Journal.Polls.nil
    · intro entry h
      rw [List.mem_singleton.mp h]
      rfl
    · exact drainRings_polling 0 0 c.countPoll _ _

theorem poll_conserves :
    ∃ came, f.arrivals = came ++ (c.poll timeout f).feed.arrivals ∧
      ∀ cpu, takenFrom cpu (c.poll timeout f).journal.taken ++ (c.poll timeout f).feed.queue cpu =
        f.queue cpu ++ itemsFor cpu came := by
  rw [poll]
  split
  · exact ⟨[], rfl, fun cpu => by simp [Journal.taken, takenFrom, itemsFor]⟩
  · obtain ⟨came, split, kept⟩ := f.await_conserves c.rings (f.now + timeout)
    split
    · rename_i waited h
      rw [h] at split kept
      exact ⟨came, split, fun cpu => by simpa [Feed.Wait.taken, Journal.taken] using kept cpu⟩
    · rename_i ring reason waited h
      rw [h] at split kept
      exact ⟨came, split, fun cpu => by
        simpa [Feed.Wait.taken, Journal.taken, Entry.taken] using kept cpu⟩
    · rename_i cpus waited h
      rw [h] at split kept
      obtain ⟨arrivals, drained⟩ := drainRings_conserves 0 0 c.countPoll waited cpus
      refine ⟨came, by rw [arrivals]; exact split, fun cpu => ?_⟩
      rw [drained cpu, ← kept cpu]
      simp [Feed.Wait.taken, takenFrom]

end Consumer

namespace Session

inductive Action where
  | poll (timeout : Nat)
  | push (cpu : CpuId) (items : List Item)
  | destroy
  deriving DecidableEq

def Action.perform : Action → Polling → Polling × Journal
  | .poll timeout, p =>
    let polled := p.consumer.poll timeout p.feed
    (⟨polled.consumer, polled.feed⟩, polled.journal)
  | .push cpu items, p => (⟨p.consumer, p.feed.push cpu items⟩, [])
  | .destroy, p => (⟨p.consumer.destroy.1, p.feed⟩, p.consumer.destroy.2)

def Action.pushed (cpu : CpuId) : Action → List Item
  | .push c items => if c = cpu then items else []
  | _ => []

structure Turn where
  before : Polling
  action : Action

namespace Turn

def after (t : Turn) : Polling := (t.action.perform t.before).1

def journal (t : Turn) : Journal := (t.action.perform t.before).2

def arrived (t : Turn) : List Arrival := t.after.feed.arrivedBy t.before.feed

def queued (cpu : CpuId) (t : Turn) : List Item :=
  t.action.pushed cpu ++ itemsFor cpu t.arrived

end Turn

def turns : List Action → Polling → List Turn
  | [], _ => []
  | action :: rest, p => ⟨p, action⟩ :: turns rest (action.perform p).1

def final (actions : List Action) (p : Polling) : Polling :=
  actions.foldl (fun p action => (action.perform p).1) p

def history (actions : List Action) (p : Polling) : Journal :=
  (turns actions p).flatMap Turn.journal

def queued (cpu : CpuId) (actions : List Action) (p : Polling) : List Item :=
  (turns actions p).flatMap (Turn.queued cpu)

def arrived (actions : List Action) (p : Polling) : List Arrival :=
  (turns actions p).flatMap Turn.arrived

theorem history_cons (action : Action) (rest : List Action) (p : Polling) :
    history (action :: rest) p =
      (action.perform p).2 ++ history rest (action.perform p).1 := rfl

theorem queued_cons (cpu : CpuId) (action : Action) (rest : List Action) (p : Polling) :
    queued cpu (action :: rest) p =
      Turn.queued cpu ⟨p, action⟩ ++ queued cpu rest (action.perform p).1 := rfl

theorem arrived_cons (action : Action) (rest : List Action) (p : Polling) :
    arrived (action :: rest) p =
      Turn.arrived ⟨p, action⟩ ++ arrived rest (action.perform p).1 := rfl

theorem perform_decoder (action : Action) (p : Polling) :
    (action.perform p).1.consumer.decoder = p.consumer.decoder := by
  cases action with
  | poll timeout => exact (p.consumer.poll_consumer timeout p.feed).1
  | push cpu items => rfl
  | destroy =>
    simp only [Action.perform, Consumer.destroy]
    split <;> rfl

theorem perform_delivers (action : Action) (p : Polling) :
    Delivers p.consumer.decoder p.consumer.stats (action.perform p).1.consumer.stats
      (action.perform p).2 := by
  cases action with
  | poll timeout => exact p.consumer.poll_delivers timeout p.feed
  | push cpu items => exact .idle rfl (by simp [Action.perform, Journal.taken])
  | destroy =>
    simp only [Action.perform, Consumer.destroy]
    split
    · exact .idle rfl (by simp [Journal.taken])
    · refine .idle ?_ ?_
      · simp [Journal.deliveries, Consumer.logged, Journal.log, Consumer.releaseRings]
      · simp [Journal.taken, Entry.taken, Consumer.logged, Journal.log, Consumer.releaseRings]

theorem perform_arrived (action : Action) (p : Polling) :
    p.feed.arrivals = Turn.arrived ⟨p, action⟩ ++ (action.perform p).1.feed.arrivals := by
  cases action with
  | poll timeout =>
    obtain ⟨came, split, -⟩ := p.consumer.poll_conserves timeout p.feed
    have arrived : Turn.arrived ⟨p, .poll timeout⟩ = came := Feed.arrivedBy_eq split
    rw [arrived]
    exact split
  | push cpu items =>
    have arrived : Turn.arrived ⟨p, .push cpu items⟩ = [] := Feed.arrivedBy_same rfl
    rw [arrived]
    rfl
  | destroy =>
    have arrived : Turn.arrived ⟨p, .destroy⟩ = [] := Feed.arrivedBy_same rfl
    rw [arrived]
    rfl

theorem perform_conserves (action : Action) (p : Polling) (cpu : CpuId) :
    takenFrom cpu (action.perform p).2.taken ++ (action.perform p).1.feed.queue cpu =
      p.feed.queue cpu ++ Turn.queued cpu ⟨p, action⟩ := by
  cases action with
  | poll timeout =>
    obtain ⟨came, split, kept⟩ := p.consumer.poll_conserves timeout p.feed
    have arrived : (Action.perform (.poll timeout) p).1.feed.arrivedBy p.feed = came :=
      Feed.arrivedBy_eq split
    rw [Turn.queued, Turn.arrived, Turn.after, arrived]
    exact kept cpu
  | push c items =>
    have arrived : (p.feed.push c items).arrivedBy p.feed = [] := Feed.arrivedBy_same rfl
    simp only [Turn.queued, Turn.arrived, Turn.after, Action.perform, Action.pushed, arrived,
      Feed.queue_push]
    simp [Journal.taken, takenFrom, itemsFor]
  | destroy =>
    have arrived : (Action.perform .destroy p).1.feed.arrivedBy p.feed = [] :=
      Feed.arrivedBy_same rfl
    have nothing : (Action.perform .destroy p).2.taken = [] := by
      simp only [Action.perform, Consumer.destroy]
      split <;>
        simp [Journal.taken, Entry.taken, Consumer.logged, Journal.log, Consumer.releaseRings]
    rw [Turn.queued, Turn.arrived, Turn.after, arrived, nothing]
    simp [Action.pushed, Action.perform, takenFrom, itemsFor]

end Session

end FileTrace
