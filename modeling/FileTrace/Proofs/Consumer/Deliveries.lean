import Mathlib
import FileTrace.Consumer
import FileTrace.Proofs.Ring.Taken

namespace FileTrace

inductive Verdict where
  | emitted
  | suppressed
  | rejected
  deriving DecidableEq

def Decoder.verdict (d : Decoder) (raw : List UInt8) : Verdict :=
  match d.decode raw with
  | .ok (some _) => .emitted
  | .ok none => .suppressed
  | .error _ => .rejected

def Decoder.emitted? (d : Decoder) (raw : List UInt8) : Option Event :=
  match d.decode raw with
  | .ok event? => event?
  | .error _ => none

theorem Decoder.length_emitted (d : Decoder) (samples : List (List UInt8)) :
    (samples.filterMap d.emitted?).length = (samples.map d.verdict).count .emitted := by
  induction samples with
  | nil => rfl
  | cons raw rest ih =>
    rw [List.filterMap_cons, List.map_cons, List.count_cons, ← ih]
    rcases h : d.decode raw with e | _ | event <;> simp [emitted?, verdict, h]

theorem count_verdicts (verdicts : List Verdict) :
    verdicts.count .emitted + verdicts.count .suppressed + verdicts.count .rejected =
      verdicts.length := by
  induction verdicts with
  | nil => rfl
  | cons v rest ih => cases v <;> simp <;> omega

def Stats.tally (s : Stats) : Verdict → Nat
  | .emitted => s.emitted
  | .suppressed => s.suppressed
  | .rejected => s.decodeErrors

def Stats.counting (decoder : Decoder) (samples : List (List UInt8)) (lost : Nat) (s : Stats) :
    Stats :=
  { s with
    records := s.records + samples.length
    emitted := s.emitted + (samples.map decoder.verdict).count .emitted
    suppressed := s.suppressed + (samples.map decoder.verdict).count .suppressed
    decodeErrors := s.decodeErrors + (samples.map decoder.verdict).count .rejected
    lost := s.lost + lost }

theorem Stats.counting_counting (decoder : Decoder) (xs ys : List (List UInt8)) (m n : Nat)
    (s : Stats) :
    (s.counting decoder xs m).counting decoder ys n = s.counting decoder (xs ++ ys) (m + n) := by
  simp [counting, Nat.add_assoc]

theorem Stats.tally_counting (decoder : Decoder) (samples : List (List UInt8)) (lost : Nat)
    (s : Stats) (v : Verdict) :
    (s.counting decoder samples lost).tally v =
      s.tally v + (samples.map decoder.verdict).count v := by
  cases v <;> rfl

def Entry.taken : Entry → List (CpuId × Item)
  | .ring (.read cpu batch) => batch.taken.map (cpu, ·)
  | .ring (.readFault cpu reason) => [.readError reason].map (cpu, ·)
  | .ring (.waitFault cpu reason) => [.waitError reason].map (cpu, ·)
  | _ => []

namespace Journal

def taken (journal : Journal) : List (CpuId × Item) := journal.flatMap Entry.taken

def samples (journal : Journal) : List (List UInt8) := journal.taken.filterMap (·.2.sample?)

def emitted (journal : Journal) : List Event :=
  journal.deliveries.filterMap fun
    | .emit event => some event
    | .loss _ _ => none

def losses (journal : Journal) : List (CpuId × Nat) :=
  journal.deliveries.filterMap fun
    | .emit _ => none
    | .loss cpu count => some (cpu, count)

def lossesOn (cpu : CpuId) (journal : Journal) : List Nat :=
  (journal.losses.filter (·.1 = cpu)).map (·.2)

def emittedFrom (cpu : CpuId) : Bool → Journal → List Event
  | _, [] => []
  | _, .ring (.read c _) :: rest => emittedFrom cpu (c = cpu) rest
  | true, .delivery (.emit event) :: rest => event :: emittedFrom cpu true rest
  | draining, _ :: rest => emittedFrom cpu draining rest

theorem deliveries_append (xs ys : Journal) :
    deliveries (xs ++ ys) = xs.deliveries ++ ys.deliveries := List.filterMap_append

theorem taken_append (xs ys : Journal) : taken (xs ++ ys) = xs.taken ++ ys.taken := by
  simp [taken]

theorem samples_append (xs ys : Journal) : samples (xs ++ ys) = xs.samples ++ ys.samples := by
  simp [samples, taken_append]

theorem emitted_append (xs ys : Journal) : emitted (xs ++ ys) = xs.emitted ++ ys.emitted := by
  simp [emitted, deliveries]

theorem losses_append (xs ys : Journal) : losses (xs ++ ys) = xs.losses ++ ys.losses := by
  simp [losses, deliveries]

theorem lossesOn_append (cpu : CpuId) (xs ys : Journal) :
    lossesOn cpu (xs ++ ys) = xs.lossesOn cpu ++ ys.lossesOn cpu := by
  simp [lossesOn, losses_append]

theorem emittedFrom_append (cpu : CpuId) (draining : Bool) (xs ys : Journal) :
    ∃ later, emittedFrom cpu draining (xs ++ ys) =
      xs.emittedFrom cpu draining ++ ys.emittedFrom cpu later := by
  fun_induction emittedFrom cpu draining xs with
  | case1 draining => exact ⟨draining, rfl⟩
  | case2 draining c batch rest ih =>
    obtain ⟨later, h⟩ := ih
    exact ⟨later, by simpa [emittedFrom] using h⟩
  | case3 event rest ih =>
    obtain ⟨later, h⟩ := ih
    exact ⟨later, by simpa [emittedFrom] using h⟩
  | case4 draining entry rest notRead notEmit ih =>
    obtain ⟨later, h⟩ := ih
    refine ⟨later, ?_⟩
    rw [List.cons_append, emittedFrom, h] <;> assumption

theorem emittedFrom_of_quiet {cpu : CpuId} {draining : Bool} {journal : Journal}
    (quiet : journal.deliveries = []) : journal.emittedFrom cpu draining = [] := by
  fun_induction emittedFrom cpu draining journal with
  | case1 => rfl
  | case2 draining c batch rest ih => exact ih (by simpa [deliveries] using quiet)
  | case3 event rest ih => simp [deliveries] at quiet
  | case4 draining entry rest notRead notEmit ih =>
    refine ih (List.filterMap_eq_nil_iff.mpr fun e he => ?_)
    exact List.filterMap_eq_nil_iff.mp quiet e (List.mem_cons_of_mem _ he)

end Journal

structure Delivers (decoder : Decoder) (before after : Stats) (journal : Journal) : Prop where
  emitted : journal.emitted = journal.samples.filterMap decoder.emitted?
  inOrder : ∀ cpu draining, journal.emittedFrom cpu draining =
    ((takenFrom cpu journal.taken).filterMap Item.sample?).filterMap decoder.emitted?
  losses : ∀ cpu, (journal.lossesOn cpu).sum = ((takenFrom cpu journal.taken).map Item.loss).sum
  positive : ∀ loss ∈ journal.losses, 0 < loss.2
  records : after.records = before.records + journal.samples.length
  verdicts : ∀ v, after.tally v = before.tally v + (journal.samples.map decoder.verdict).count v
  lost : after.lost = before.lost + (journal.losses.map (·.2)).sum

namespace Delivers

variable {decoder : Decoder} {s t u : Stats}

theorem idle {journal : Journal} (quiet : journal.deliveries = [])
    (inert : ∀ x ∈ journal.taken, x.2.sample? = none ∧ x.2.loss = 0) :
    Delivers decoder s s journal := by
  have noEvents : journal.emitted = [] := by simp [Journal.emitted, quiet]
  have noLosses : journal.losses = [] := by simp [Journal.losses, quiet]
  have noSamples : journal.samples = [] :=
    List.filterMap_eq_nil_iff.mpr fun x hx => (inert x hx).1
  constructor
  · rw [noEvents, noSamples, List.filterMap_nil]
  · intro cpu draining
    have nothing : (takenFrom cpu journal.taken).filterMap Item.sample? = [] := by
      refine List.filterMap_eq_nil_iff.mpr fun item h => ?_
      obtain ⟨x, hx, rfl⟩ := List.mem_map.mp h
      exact (inert x (List.mem_of_mem_filter hx)).1
    rw [Journal.emittedFrom_of_quiet quiet, nothing, List.filterMap_nil]
  · intro cpu
    have zero : ((takenFrom cpu journal.taken).map Item.loss).sum = 0 := by
      refine List.sum_eq_zero fun n h => ?_
      obtain ⟨item, hitem, rfl⟩ := List.mem_map.mp h
      obtain ⟨x, hx, rfl⟩ := List.mem_map.mp hitem
      exact (inert x (List.mem_of_mem_filter hx)).2
    simp [Journal.lossesOn, noLosses, zero]
  · simp [noLosses]
  · simp [noSamples]
  · simp [noSamples]
  · simp [noLosses]

theorem trans {xs ys : Journal} (hx : Delivers decoder s t xs) (hy : Delivers decoder t u ys) :
    Delivers decoder s u (xs ++ ys) where
  emitted := by
    rw [Journal.emitted_append, Journal.samples_append, List.filterMap_append, hx.emitted,
      hy.emitted]
  inOrder cpu draining := by
    obtain ⟨later, h⟩ := xs.emittedFrom_append cpu draining ys
    rw [h, hx.inOrder, hy.inOrder, Journal.taken_append, takenFrom_append]
    simp
  losses cpu := by
    rw [Journal.lossesOn_append, Journal.taken_append, takenFrom_append, List.map_append,
      List.sum_append, List.sum_append, hx.losses, hy.losses]
  positive loss h := by
    rw [Journal.losses_append] at h
    rcases List.mem_append.mp h with h | h
    · exact hx.positive loss h
    · exact hy.positive loss h
  records := by
    rw [hy.records, hx.records, Journal.samples_append, List.length_append, Nat.add_assoc]
  verdicts v := by
    rw [hy.verdicts, hx.verdicts, Journal.samples_append, List.map_append, List.count_append,
      Nat.add_assoc]
  lost := by
    rw [hy.lost, hx.lost, Journal.losses_append, List.map_append, List.sum_append, Nat.add_assoc]

end Delivers

end FileTrace
