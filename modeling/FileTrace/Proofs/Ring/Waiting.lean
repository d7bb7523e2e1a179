import FileTrace.Proofs.Ring.Arrivals

namespace FileTrace

def Queue.FailsWait (queue : List Item) : Prop := ∃ reason rest, queue = .waitError reason :: rest

namespace Feed

def Empty (f : Feed) (rings : List CpuId) : Prop := ∀ cpu ∈ rings, f.queue cpu = []

def filled (f : Feed) (rings : List CpuId) : List CpuId := rings.filter (f.queue · ≠ [])

def instants (f : Feed) (rings : List CpuId) : Set Nat :=
  { time | ∃ a ∈ f.arrivals, a.Fills rings ∧ a.time = time }

/-- The rings when one of these has something in its queue for the first time. -/
inductive Wakes (rings : List CpuId) (limit : Nat) (f : Feed) : Feed → Prop
  | atOnce (filled : ¬f.Empty rings) : Wakes rings limit f f
  | arrival {time : Nat} (empty : f.Empty rings)
      (first : IsLeast (f.instants rings) time) (early : time < limit) :
    Wakes rings limit f (f.grown time (·.time ≤ time))

def Idle (f : Feed) (rings : List CpuId) (limit : Nat) : Prop :=
  f.Empty rings ∧ ∀ a ∈ f.arrivals, a.Fills rings → limit ≤ a.time

variable {f : Feed} {rings : List CpuId} {limit : Nat}

theorem grown_empty_iff {now : Nat} {came : Arrival → Bool} :
    (f.grown now came).Empty rings ↔
      f.Empty rings ∧ ∀ a ∈ f.arrivals, came a = true → ¬a.Fills rings := by
  simp only [Empty, grown, List.append_eq_nil_iff, itemsFor_eq_nil_iff, List.mem_filter,
    Arrival.Fills, not_and, not_not]
  constructor
  · intro h
    exact ⟨fun cpu mem => (h cpu mem).1, fun a ha came mem => (h a.cpu mem).2 a ⟨ha, came⟩ rfl⟩
  · rintro ⟨empty, idle⟩ cpu mem
    refine ⟨empty cpu mem, ?_⟩
    rintro a ⟨ha, came⟩ rfl
    exact idle a ha came mem

theorem readiness_of_empty (empty : f.Empty rings) : f.readiness rings = .ready [] := by
  induction rings with
  | nil => rfl
  | cons ring rings ih =>
    obtain ⟨first, others⟩ := List.forall_mem_cons.mp empty
    simp only [readiness, first, ih others]

theorem readiness_of_sound (sound : ∀ ring ∈ rings, ¬Queue.FailsWait (f.queue ring)) :
    f.readiness rings = .ready (f.filled rings) := by
  induction rings with
  | nil => rfl
  | cons ring rings ih =>
    obtain ⟨first, others⟩ := List.forall_mem_cons.mp sound
    rw [filled, List.filter_cons, ← filled, readiness]
    split
    · rename_i nothing
      simpa [nothing] using ih others
    · rename_i reason rest front
      exact absurd ⟨reason, rest, front⟩ first
    · rename_i item rest _ front
      simp [ih others, front, filled]

theorem readiness_of_fault {before after : List CpuId} {cpu : CpuId} {reason : String}
    {rest : List Item} (sound : ∀ ring ∈ before, ¬Queue.FailsWait (f.queue ring))
    (front : f.queue cpu = .waitError reason :: rest) :
    f.readiness (before ++ cpu :: after) = .failed cpu reason := by
  induction before with
  | nil => simp only [List.nil_append, readiness, front]
  | cons ring before ih =>
    obtain ⟨first, others⟩ := List.forall_mem_cons.mp sound
    rw [List.cons_append, readiness, ih others]
    split
    · rfl
    · rename_i reason rest front
      exact absurd ⟨reason, rest, front⟩ first
    · rfl

theorem sound_or_first_fault (f : Feed) (rings : List CpuId) :
    (∀ ring ∈ rings, ¬Queue.FailsWait (f.queue ring)) ∨
      ∃ before cpu after reason rest, rings = before ++ cpu :: after ∧
        (∀ ring ∈ before, ¬Queue.FailsWait (f.queue ring)) ∧
        f.queue cpu = .waitError reason :: rest := by
  induction rings with
  | nil => exact .inl (List.forall_mem_nil _)
  | cons ring rings ih =>
    by_cases fails : Queue.FailsWait (f.queue ring)
    · obtain ⟨reason, rest, front⟩ := fails
      exact .inr ⟨[], ring, rings, reason, rest, rfl, List.forall_mem_nil _, front⟩
    · rcases ih with sound | ⟨before, cpu, after, reason, rest, rfl, sound, front⟩
      · exact .inl (List.forall_mem_cons.mpr ⟨fails, sound⟩)
      · exact .inr ⟨ring :: before, cpu, after, reason, rest, rfl,
          List.forall_mem_cons.mpr ⟨fails, sound⟩, front⟩

theorem await_late (empty : f.Empty rings) (late : ∀ a ∈ f.arrivals, limit ≤ a.time) :
    f.await rings limit = (.timedOut, { f with now := limit }) := by
  rw [await, readiness_of_empty empty]
  dsimp only
  split
  · rfl
  · rename_i a rest next
    rw [if_neg (Nat.not_lt.mpr (late a (next ▸ List.mem_cons_self)))]

theorem await_next (empty : f.Empty rings) {a : Arrival} {rest : List Arrival}
    (next : f.arrivals = a :: rest) (early : a.time < limit) :
    f.await rings limit = (f.advance a.time).await rings limit := by
  rw [await.eq_def f, readiness_of_empty empty]
  dsimp only
  split
  · rename_i alone
    cases alone.symm.trans next
  · rename_i b others found
    cases found.symm.trans next
    rw [if_pos early]

theorem Idle.of_grown {time : Nat} (idle : (f.grown time (·.time ≤ time)).Idle rings limit) :
    f.Idle rings limit := by
  obtain ⟨empty, unfilled⟩ := idle
  rw [grown_empty_iff] at empty
  refine ⟨empty.1, fun a mem fills => unfilled a (List.mem_filter.mpr ⟨mem, ?_⟩) fills⟩
  have late : ¬a.time ≤ time := fun early => empty.2 a mem (by simpa using early) fills
  simpa using late

theorem Wakes.of_grown {a : Arrival} {rest : List Arrival} (h : f.Timely)
    (empty : f.Empty rings) (next : f.arrivals = a :: rest) (early : a.time < limit) {g : Feed}
    (wakes : (f.grown a.time (·.time ≤ a.time)).Wakes rings limit g) :
    f.Wakes rings limit g := by
  have first := h.next_le next
  cases wakes with
  | atOnce filled =>
    rw [grown_empty_iff] at filled
    push Not at filled
    obtain ⟨b, mem, came, fills⟩ := filled empty
    refine .arrival empty ⟨⟨b, mem, fills, ?_⟩, ?_⟩ early
    · exact le_antisymm (by simpa using came) (first b mem)
    · rintro t ⟨c, memc, -, rfl⟩
      exact first c memc
  | @arrival time still least before =>
    have idle := (grown_empty_iff.mp still).2
    obtain ⟨⟨b, mem, fills, rfl⟩, lower⟩ := least
    have mem := (List.mem_filter.mp mem).1
    have after : a.time ≤ b.time := first b mem
    rw [h.grown_grown fun c came => decide_eq_true (came.trans after)]
    refine .arrival empty ⟨⟨b, mem, fills, rfl⟩, ?_⟩ before
    rintro t ⟨c, memc, fillsc, rfl⟩
    by_cases came : c.time ≤ a.time
    · exact absurd fillsc (idle c memc (by simpa using came))
    · exact lower ⟨c, List.mem_filter.mpr ⟨memc, by simpa using came⟩, fillsc, rfl⟩

-- On what is still to come: with nothing to read, the wait goes on at the next arrival.
theorem await_idle_or_wakes {f : Feed} (h : f.Timely) (rings : List CpuId) (limit : Nat) :
    (f.Idle rings limit ∧
        f.await rings limit = (.timedOut, f.grown limit (·.time < limit))) ∨
      ∃ g, f.Wakes rings limit g ∧ f.await rings limit = g.await rings limit := by
  by_cases empty : f.Empty rings
  · by_cases late : ∀ a ∈ f.arrivals, limit ≤ a.time
    · refine .inl ⟨⟨empty, fun a mem _ => late a mem⟩, ?_⟩
      rw [await_late empty late, grown_late late]
    · rcases next : f.arrivals with - | ⟨a, rest⟩
      · exact absurd (by simp [next]) late
      · have first := h.next_le next
        have early : a.time < limit := by
          push Not at late
          obtain ⟨b, mem, before⟩ := late
          exact (first b mem).trans_lt before
        have ahead : f.now ≤ a.time := h.ahead a (next ▸ List.mem_cons_self)
        have shorter : (f.grown a.time (·.time ≤ a.time)).arrivals.length < f.arrivals.length :=
          h.advance_eq ahead ▸ length_arrivals_advance_lt next
        rw [await_next empty next early, h.advance_eq ahead]
        rcases await_idle_or_wakes (h.grown_at a.time) rings limit with
          ⟨idle, await⟩ | ⟨g, wakes, await⟩
        · refine .inl ⟨idle.of_grown, ?_⟩
          rw [await, h.grown_grown fun b came => by simpa using came.trans_lt early]
        · exact .inr ⟨g, wakes.of_grown h empty next early, await⟩
  · exact .inr ⟨f, .atOnce empty, rfl⟩
termination_by f.arrivals.length

theorem filled_eq_nil_iff : f.filled rings = [] ↔ f.Empty rings := by
  simp [filled, Empty]

theorem await_sound (filled : ¬f.Empty rings)
    (sound : ∀ ring ∈ rings, ¬Queue.FailsWait (f.queue ring)) :
    f.await rings limit = (.ready (f.filled rings), f) := by
  have readable := readiness_of_sound sound
  obtain ⟨cpu, cpus, here⟩ := List.exists_cons_of_ne_nil (filled_eq_nil_iff.not.mpr filled)
  rw [here] at readable
  rw [await, readable, here]

theorem await_fault {before after : List CpuId} {cpu : CpuId} {reason : String}
    {rest : List Item} (order : rings = before ++ cpu :: after)
    (sound : ∀ ring ∈ before, ¬Queue.FailsWait (f.queue ring))
    (front : f.queue cpu = .waitError reason :: rest) :
    f.await rings limit = (.failed cpu reason, f.setQueue cpu rest) := by
  rw [await, order, readiness_of_fault sound front]
  simp only [front, List.tail_cons]

theorem Wakes.filled {g : Feed} (h : f.Wakes rings limit g) : ¬g.Empty rings := by
  cases h with
  | atOnce filled => exact filled
  | arrival empty first early =>
    obtain ⟨⟨a, mem, fills, rfl⟩, -⟩ := first
    intro empty
    exact (grown_empty_iff.mp empty).2 a mem (by simp) fills

theorem Wakes.not_idle {g : Feed} (h : f.Wakes rings limit g) : ¬f.Idle rings limit := by
  rintro ⟨empty, late⟩
  cases h with
  | atOnce filled => exact filled empty
  | arrival _ first early =>
    obtain ⟨⟨a, mem, fills, rfl⟩, -⟩ := first
    exact Nat.not_lt.mpr (late a mem fills) early

theorem Wakes.timely {g : Feed} (wakes : f.Wakes rings limit g) (h : f.Timely) : g.Timely := by
  cases wakes with
  | atOnce filled => exact h
  | arrival empty first early => exact h.grown_at _

theorem Timely.await (h : f.Timely) (rings : List CpuId) (limit : Nat) :
    (f.await rings limit).2.Timely := by
  rcases await_idle_or_wakes h rings limit with ⟨-, expires⟩ | ⟨g, wakes, await⟩
  · rw [expires]
    exact h.grown fun a late => by simpa using late
  · rw [await]
    rcases g.sound_or_first_fault rings with
      sound | ⟨before, cpu, after, reason, rest, order, sound, front⟩
    · rw [await_sound wakes.filled sound]
      exact wakes.timely h
    · rw [await_fault order sound front]
      exact (wakes.timely h).setQueue cpu rest

structure Alike (rings : List CpuId) (f g : Feed) : Prop where
  now : f.now = g.now
  queue : ∀ cpu ∈ rings, f.queue cpu = g.queue cpu
  arrivals : f.arrivals.filter (·.Fills rings) = g.arrivals.filter (·.Fills rings)

namespace Alike

variable {g : Feed} (alike : Alike rings f g)
include alike

theorem symm : Alike rings g f :=
  ⟨alike.now.symm, fun cpu mem => (alike.queue cpu mem).symm, alike.arrivals.symm⟩

theorem fills_iff (a : Arrival) :
    (a ∈ f.arrivals ∧ a.Fills rings) ↔ (a ∈ g.arrivals ∧ a.Fills rings) := by
  have same := congrArg (a ∈ ·) alike.arrivals
  simpa using same

theorem empty_iff : f.Empty rings ↔ g.Empty rings := by
  unfold Empty
  refine forall₂_congr fun cpu mem => ?_
  rw [alike.queue cpu mem]

theorem idle (h : f.Idle rings limit) : g.Idle rings limit := by
  refine ⟨alike.empty_iff.mp h.1, fun a mem fills => ?_⟩
  obtain ⟨mem, fills⟩ := (alike.fills_iff a).mpr ⟨mem, fills⟩
  exact h.2 a mem fills

theorem grown (now : Nat) (came : Arrival → Bool) :
    Alike rings (f.grown now came) (g.grown now came) where
  now := rfl
  queue cpu mem := by
    simp only [Feed.grown, alike.queue cpu mem]
    rw [← itemsFor_fills mem, List.filter_comm, alike.arrivals, List.filter_comm,
      itemsFor_fills mem]
  arrivals := by
    simp only [Feed.grown]
    rw [List.filter_comm, alike.arrivals, List.filter_comm]

theorem setQueue (cpu : CpuId) (items : List Item) :
    Alike rings (f.setQueue cpu items) (g.setQueue cpu items) where
  now := alike.now
  queue ring mem := by
    simp only [Feed.setQueue]
    rw [alike.queue ring mem]
  arrivals := alike.arrivals

theorem push (cpu : CpuId) (items : List Item) :
    Alike rings (f.push cpu items) (g.push cpu items) where
  now := alike.now
  queue ring mem := by rw [queue_push, queue_push, alike.queue ring mem]
  arrivals := alike.arrivals

theorem mono {rings' : List CpuId} (among : ∀ cpu ∈ rings', cpu ∈ rings) :
    Alike rings' f g where
  now := alike.now
  queue cpu mem := alike.queue cpu (among cpu mem)
  arrivals := by
    have fewer (arrivals : List Arrival) :
        (arrivals.filter (·.Fills rings)).filter (·.Fills rings') =
          arrivals.filter (·.Fills rings') := by
      rw [List.filter_filter]
      refine List.filter_congr fun a _ => ?_
      have wider : a.Fills rings' → a.Fills rings := And.imp_left (among a.cpu)
      simpa using wider
    rw [← fewer, alike.arrivals, fewer]

theorem filled_eq : f.filled rings = g.filled rings := by
  refine List.filter_congr fun cpu mem => ?_
  rw [alike.queue cpu mem]

theorem instants_eq : f.instants rings = g.instants rings := by
  ext time
  simp only [instants, Set.mem_ofPred_eq, ← and_assoc, alike.fills_iff]

theorem wakes {f' g' : Feed} (hf : f.Wakes rings limit f') (hg : g.Wakes rings limit g') :
    Alike rings f' g' := by
  cases hf with
  | atOnce filled =>
    cases hg with
    | atOnce _ => exact alike
    | arrival empty _ _ => exact absurd (alike.empty_iff.mpr empty) filled
  | @arrival time empty first early =>
    cases hg with
    | atOnce filled => exact absurd (alike.empty_iff.mp empty) filled
    | @arrival time' _ first' _ =>
      have same : time = time' := first.unique (alike.instants_eq ▸ first')
      exact same ▸ alike.grown time _

theorem await_filled (filled : ¬f.Empty rings) :
    (f.await rings limit).1 = (g.await rings limit).1 ∧
      Alike rings (f.await rings limit).2 (g.await rings limit).2 := by
  have filled' := alike.empty_iff.not.mp filled
  rcases f.sound_or_first_fault rings with
    sound | ⟨before, cpu, after, reason, rest, order, sound, front⟩
  · have sound' (ring : CpuId) (mem : ring ∈ rings) : ¬Queue.FailsWait (g.queue ring) :=
      alike.queue ring mem ▸ sound ring mem
    rw [await_sound filled sound, await_sound filled' sound', alike.filled_eq]
    exact ⟨rfl, alike⟩
  · have sound' (ring : CpuId) (mem : ring ∈ before) : ¬Queue.FailsWait (g.queue ring) :=
      alike.queue ring (order ▸ List.mem_append_left _ mem) ▸ sound ring mem
    have front' : g.queue cpu = .waitError reason :: rest :=
      alike.queue cpu (order ▸ List.mem_append_right _ List.mem_cons_self) ▸ front
    rw [await_fault order sound front, await_fault order sound' front']
    exact ⟨rfl, alike.setQueue cpu rest⟩

theorem await (hf : f.Timely) (hg : g.Timely) (limit : Nat) :
    (f.await rings limit).1 = (g.await rings limit).1 ∧
      Alike rings (f.await rings limit).2 (g.await rings limit).2 := by
  rcases await_idle_or_wakes hf rings limit with ⟨idle, expires⟩ | ⟨f', wakes, await⟩
  · rcases await_idle_or_wakes hg rings limit with ⟨_, expires'⟩ | ⟨g', wakes', _⟩
    · rw [expires, expires']
      exact ⟨rfl, alike.grown _ _⟩
    · exact absurd (alike.idle idle) wakes'.not_idle
  · rcases await_idle_or_wakes hg rings limit with ⟨idle, _⟩ | ⟨g', wakes', await'⟩
    · exact absurd (alike.symm.idle idle) wakes.not_idle
    · rw [await, await']
      exact (alike.wakes wakes wakes').await_filled wakes.filled

end Alike

end Feed

end FileTrace
