import FileTrace.Event
import FileTrace.Ring.Queue

namespace FileTrace

structure Arrival where
  time : Nat
  cpu : CpuId
  items : List Item
  deriving DecidableEq, Repr

@[ext] structure Feed where
  now : Nat
  queue : CpuId → List Item
  arrivals : List Arrival

namespace Feed

def setQueue (f : Feed) (cpu : CpuId) (items : List Item) : Feed :=
  { f with queue := fun c => if c = cpu then items else f.queue c }

def push (f : Feed) (cpu : CpuId) (items : List Item) : Feed :=
  f.setQueue cpu (f.queue cpu ++ items)

def fill (f : Feed) : List (CpuId × List Item) → Feed
  | [] => f
  | (cpu, items) :: rest => (f.push cpu items).fill rest

def insertArrival (a : Arrival) : List Arrival → List Arrival
  | [] => [a]
  | b :: rest => if b.time ≤ a.time then b :: insertArrival a rest else a :: b :: rest

def start (arrivals : List Arrival) : Feed :=
  ⟨0, fun _ => [], arrivals.foldl (fun sorted a => insertArrival a sorted) []⟩

def advance (f : Feed) (time : Nat) : Feed :=
  let came := f.arrivals.takeWhile (·.time ≤ time)
  let later : Feed := ⟨max f.now time, f.queue, f.arrivals.dropWhile (·.time ≤ time)⟩
  later.fill (came.map fun a => (a.cpu, a.items))

@[simp] theorem now_fill (f : Feed) (backlog : List (CpuId × List Item)) :
    (f.fill backlog).now = f.now := by
  fun_induction fill f backlog with
  | case1 => rfl
  | case2 f cpu items rest ih => exact ih

@[simp] theorem arrivals_fill (f : Feed) (backlog : List (CpuId × List Item)) :
    (f.fill backlog).arrivals = f.arrivals := by
  fun_induction fill f backlog with
  | case1 => rfl
  | case2 f cpu items rest ih => exact ih

theorem length_arrivals_advance_lt {f : Feed} {a : Arrival} {rest : List Arrival}
    (h : f.arrivals = a :: rest) : (f.advance a.time).arrivals.length < f.arrivals.length := by
  have fewer := (List.dropWhile_sublist (l := rest) (p := (·.time ≤ a.time))).length_le
  simpa [advance, h] using Nat.lt_succ_of_le fewer

inductive Readiness where
  | ready (cpus : List CpuId)
  | failed (cpu : CpuId) (reason : String)
  deriving DecidableEq, Repr

def readiness (f : Feed) : List CpuId → Readiness
  | [] => .ready []
  | cpu :: rest =>
    match f.queue cpu with
    | [] => f.readiness rest
    | .waitError reason :: _ => .failed cpu reason
    | _ :: _ =>
      match f.readiness rest with
      | .ready cpus => .ready (cpu :: cpus)
      | .failed cpu reason => .failed cpu reason

inductive Wait where
  | ready (cpus : List CpuId)
  | failed (cpu : CpuId) (reason : String)
  | timedOut
  deriving DecidableEq, Repr

def await (f : Feed) (rings : List CpuId) (deadline : Nat) : Wait × Feed :=
  match f.readiness rings with
  | .failed cpu reason => (.failed cpu reason, f.setQueue cpu (f.queue cpu).tail)
  | .ready (cpu :: cpus) => (.ready (cpu :: cpus), f)
  | .ready [] =>
    match _h : f.arrivals with
    | [] => (.timedOut, { f with now := deadline })
    | a :: _ =>
      if a.time < deadline then await (f.advance a.time) rings deadline
      else (.timedOut, { f with now := deadline })
termination_by f.arrivals.length
decreasing_by exact length_arrivals_advance_lt _h

end Feed

end FileTrace
