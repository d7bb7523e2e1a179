namespace FileTrace

inductive Item where
  | sample (raw : List UInt8)
  | lost (count : Nat)
  /-- Ends the read that meets it. -/
  | stop
  | readError (reason : String)
  | waitError (reason : String)
  deriving DecidableEq, Repr

structure Batch where
  samples : List (List UInt8)
  lost : Nat
  taken : List Item
  deriving DecidableEq, Repr

namespace Batch

def empty : Batch := ⟨[], 0, []⟩

def addSample (raw : List UInt8) (b : Batch) : Batch :=
  ⟨raw :: b.samples, b.lost, .sample raw :: b.taken⟩

def addLoss (count : Nat) (b : Batch) : Batch :=
  ⟨b.samples, count + b.lost, .lost count :: b.taken⟩

def progressed (b : Batch) : Bool := !b.samples.isEmpty || 0 < b.lost

end Batch

namespace Queue

def batchSize : Nat := 32

def takeBatch : Nat → List Item → Batch × List Item
  | _, [] => (.empty, [])
  | 0, queue => (.empty, queue)
  | room + 1, .sample raw :: queue =>
    let (batch, rest) := takeBatch room queue
    (batch.addSample raw, rest)
  | room + 1, .lost count :: queue =>
    let (batch, rest) := takeBatch (room + 1) queue
    (batch.addLoss count, rest)
  | _ + 1, .stop :: queue => (⟨[], 0, [.stop]⟩, queue)
  | _ + 1, .readError reason :: queue => (.empty, .readError reason :: queue)
  | _ + 1, .waitError reason :: queue => (.empty, .waitError reason :: queue)

theorem taken_append_rest (room : Nat) (queue : List Item) :
    (takeBatch room queue).1.taken ++ (takeBatch room queue).2 = queue := by
  fun_induction takeBatch room queue <;> simp_all [Batch.empty, Batch.addSample, Batch.addLoss]

theorem taken_ne_nil_of_progressed {room : Nat} {queue : List Item}
    (h : (takeBatch room queue).1.progressed = true) : (takeBatch room queue).1.taken ≠ [] := by
  fun_induction takeBatch room queue <;>
    simp_all [Batch.progressed, Batch.empty, Batch.addSample, Batch.addLoss]

theorem length_rest_lt {room : Nat} {queue : List Item}
    (h : (takeBatch room queue).1.progressed = true) :
    (takeBatch room queue).2.length < queue.length := by
  have parts := congrArg List.length (taken_append_rest room queue)
  have taken := List.length_pos_iff.mpr (taken_ne_nil_of_progressed h)
  simp only [List.length_append] at parts
  omega

structure Drained where
  batches : List Batch
  fault : Option String
  rest : List Item
  deriving DecidableEq, Repr

def Drained.taken (d : Drained) : List Item :=
  d.batches.flatMap (·.taken) ++ (d.fault.map Item.readError).toList

def readFault? : List Item → Option (String × List Item)
  | .readError reason :: rest => some (reason, rest)
  | _ => none

def drain (queue : List Item) : Drained :=
  match readFault? queue with
  | some (reason, rest) => ⟨[], some reason, rest⟩
  | none =>
    let batch := (takeBatch batchSize queue).1
    let rest := (takeBatch batchSize queue).2
    if _h : batch.progressed = true ∧ rest ≠ [] then
      let later := drain rest
      ⟨batch :: later.batches, later.fault, later.rest⟩
    else ⟨[batch], none, rest⟩
termination_by queue.length
decreasing_by exact length_rest_lt _h.1

theorem eq_of_readFault? {queue rest : List Item} {reason : String}
    (h : readFault? queue = some (reason, rest)) : queue = .readError reason :: rest := by
  unfold readFault? at h
  split at h <;> simp_all

theorem taken_append_rest_drain (queue : List Item) :
    (drain queue).taken ++ (drain queue).rest = queue := by
  fun_induction drain queue with
  | case1 queue reason rest h => simp [Drained.taken, eq_of_readFault? h]
  | case2 queue h batch rest more later ih =>
      simp only [Drained.taken, List.flatMap_cons, List.append_assoc] at ih ⊢
      rw [show later = drain rest from rfl, ih]
      exact taken_append_rest _ _
  | case3 queue h batch rest done => simp [Drained.taken, batch, rest, taken_append_rest]

end Queue

end FileTrace
