import Mathlib
import FileTrace.Ring.Feed

namespace FileTrace

@[simp] def Item.sample? : Item → Option (List UInt8)
  | .sample raw => some raw
  | _ => none

@[simp] def Item.loss : Item → Nat
  | .lost count => count
  | _ => 0

structure Batch.Genuine (b : Batch) : Prop where
  samples : b.samples = b.taken.filterMap Item.sample?
  lost : b.lost = (b.taken.map Item.loss).sum

namespace Batch.Genuine

theorem empty : Batch.empty.Genuine := ⟨rfl, rfl⟩

theorem stop : (⟨[], 0, [.stop]⟩ : Batch).Genuine := ⟨rfl, rfl⟩

theorem addSample {b : Batch} (h : b.Genuine) (raw : List UInt8) : (b.addSample raw).Genuine where
  samples := by simp [Batch.addSample, h.samples]
  lost := by simp [Batch.addSample, h.lost]

theorem addLoss {b : Batch} (h : b.Genuine) (count : Nat) : (b.addLoss count).Genuine where
  samples := by simp [Batch.addLoss, List.filterMap_cons, h.samples]
  lost := by simp [Batch.addLoss, h.lost]

end Batch.Genuine

namespace Queue

theorem takeBatch_genuine (room : Nat) (queue : List Item) :
    (takeBatch room queue).1.Genuine := by
  fun_induction takeBatch room queue with
  | case1 => exact .empty
  | case2 => exact .empty
  | case3 room raw queue batch rest h ih =>
    rw [h] at ih
    exact ih.addSample raw
  | case4 room count queue batch rest h ih =>
    rw [h] at ih
    exact ih.addLoss count
  | case5 => exact .stop
  | case6 => exact .empty
  | case7 => exact .empty

theorem drain_genuine (queue : List Item) : ∀ b ∈ (drain queue).batches, b.Genuine := by
  fun_induction drain queue with
  | case1 => simp
  | case2 queue h batch rest more later ih =>
    intro b hb
    rcases List.mem_cons.mp hb with rfl | hb
    · exact takeBatch_genuine batchSize queue
    · exact ih b hb
  | case3 queue h batch rest done =>
    intro b hb
    rw [List.mem_singleton.mp hb]
    exact takeBatch_genuine batchSize queue

end Queue

def itemsFor (cpu : CpuId) (arrivals : List Arrival) : List Item :=
  (arrivals.filter (·.cpu = cpu)).flatMap (·.items)

theorem itemsFor_append (cpu : CpuId) (xs ys : List Arrival) :
    itemsFor cpu (xs ++ ys) = itemsFor cpu xs ++ itemsFor cpu ys := by
  rw [itemsFor, List.filter_append, List.flatMap_append]
  rfl

theorem itemsFor_cons (cpu : CpuId) (a : Arrival) (rest : List Arrival) :
    itemsFor cpu (a :: rest) = (if a.cpu = cpu then a.items else []) ++ itemsFor cpu rest := by
  by_cases h : a.cpu = cpu <;> simp [itemsFor, h]

namespace Feed

def arrivedBy (later earlier : Feed) : List Arrival :=
  earlier.arrivals.take (earlier.arrivals.length - later.arrivals.length)

theorem arrivedBy_eq {later earlier : Feed} {came : List Arrival}
    (h : earlier.arrivals = came ++ later.arrivals) : later.arrivedBy earlier = came := by
  simp [arrivedBy, h]

theorem arrivedBy_same {later earlier : Feed} (h : later.arrivals = earlier.arrivals) :
    later.arrivedBy earlier = [] := arrivedBy_eq (by simp [h])

theorem queue_push (f : Feed) (c cpu : CpuId) (items : List Item) :
    (f.push c items).queue cpu = f.queue cpu ++ if c = cpu then items else [] := by
  by_cases h : c = cpu
  · subst h; simp [push, setQueue]
  · simp [push, setQueue, h, Ne.symm h]

theorem queue_fill (f : Feed) (came : List Arrival) (cpu : CpuId) :
    (f.fill (came.map fun a => (a.cpu, a.items))).queue cpu = f.queue cpu ++ itemsFor cpu came := by
  induction came generalizing f with
  | nil => simp [fill, itemsFor]
  | cons a rest ih =>
    rw [List.map_cons, fill, ih, queue_push, itemsFor_cons, List.append_assoc]

theorem queue_advance (f : Feed) (time : Nat) (cpu : CpuId) :
    (f.advance time).queue cpu =
      f.queue cpu ++ itemsFor cpu (f.arrivals.takeWhile (·.time ≤ time)) := queue_fill _ _ cpu

theorem arrivals_advance (f : Feed) (time : Nat) :
    f.arrivals = f.arrivals.takeWhile (·.time ≤ time) ++ (f.advance time).arrivals := by
  rw [advance, arrivals_fill, List.takeWhile_append_dropWhile]

theorem queue_of_failed {f : Feed} {cpu : CpuId} {reason : String} (rings : List CpuId)
    (h : f.readiness rings = .failed cpu reason) :
    ∃ rest, f.queue cpu = .waitError reason :: rest := by
  induction rings with
  | nil => cases h
  | cons ring rings ih =>
    rw [readiness] at h
    split at h
    · exact ih h
    · rename_i found rest hq
      cases h
      exact ⟨rest, hq⟩
    · split at h
      · cases h
      · rename_i hr
        exact ih (hr.trans h)

end Feed

def takenFrom (cpu : CpuId) (taken : List (CpuId × Item)) : List Item :=
  (taken.filter (·.1 = cpu)).map (·.2)

theorem takenFrom_append (cpu : CpuId) (xs ys : List (CpuId × Item)) :
    takenFrom cpu (xs ++ ys) = takenFrom cpu xs ++ takenFrom cpu ys := by
  simp [takenFrom]

theorem takenFrom_map (c cpu : CpuId) (items : List Item) :
    takenFrom cpu (items.map (c, ·)) = if c = cpu then items else [] := by
  by_cases h : c = cpu <;> simp [takenFrom, List.filter_map, Function.comp_def, h]

def Feed.Wait.taken : Feed.Wait → List (CpuId × Item)
  | .failed cpu reason => [.waitError reason].map (cpu, ·)
  | _ => []

-- By the arrivals still to come: what comes next is queued before the rings are looked at again.
theorem Feed.await_conserves (f : Feed) (rings : List CpuId) (deadline : Nat) :
    ∃ came, f.arrivals = came ++ (f.await rings deadline).2.arrivals ∧
      ∀ cpu, takenFrom cpu (f.await rings deadline).1.taken ++
        (f.await rings deadline).2.queue cpu = f.queue cpu ++ itemsFor cpu came := by
  fun_induction await f rings deadline with
  | case1 f c reason h =>
    obtain ⟨rest, hq⟩ := queue_of_failed rings h
    refine ⟨[], rfl, fun cpu => ?_⟩
    by_cases hc : c = cpu
    · subst hc; simp [Wait.taken, takenFrom, setQueue, hq, itemsFor]
    · simp [Wait.taken, takenFrom, setQueue, hc, Ne.symm hc, itemsFor]
  | case2 f c cpus h => exact ⟨[], rfl, fun cpu => by simp [Wait.taken, takenFrom, itemsFor]⟩
  | case3 f h hf => exact ⟨[], rfl, fun cpu => by simp [Wait.taken, takenFrom, itemsFor]⟩
  | case4 f h a rest hf early ih =>
    obtain ⟨came, split, kept⟩ := ih
    refine ⟨f.arrivals.takeWhile (·.time ≤ a.time) ++ came, ?_, fun cpu => ?_⟩
    · rw [List.append_assoc, ← split]
      exact f.arrivals_advance a.time
    · rw [kept cpu, queue_advance, itemsFor_append, List.append_assoc]
  | case5 f h a rest hf late =>
    exact ⟨[], rfl, fun cpu => by simp [Wait.taken, takenFrom, itemsFor]⟩

end FileTrace
