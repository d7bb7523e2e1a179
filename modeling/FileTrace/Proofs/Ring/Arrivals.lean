import FileTrace.Proofs.Ring.Taken

namespace FileTrace

def Arrival.Fills (rings : List CpuId) (a : Arrival) : Prop := a.cpu ∈ rings ∧ a.items ≠ []

instance (rings : List CpuId) : DecidablePred (Arrival.Fills rings) := fun a =>
  inferInstanceAs (Decidable (a.cpu ∈ rings ∧ a.items ≠ []))

theorem itemsFor_eq_nil_iff {cpu : CpuId} {arrivals : List Arrival} :
    itemsFor cpu arrivals = [] ↔ ∀ a ∈ arrivals, a.cpu = cpu → a.items = [] := by
  simp [itemsFor]

theorem itemsFor_fills {rings : List CpuId} {cpu : CpuId} (mem : cpu ∈ rings)
    (arrivals : List Arrival) :
    itemsFor cpu (arrivals.filter (·.Fills rings)) = itemsFor cpu arrivals := by
  induction arrivals with
  | nil => rfl
  | cons a rest ih =>
    rw [List.filter_cons]
    split
    · rw [itemsFor_cons, itemsFor_cons, ih]
    · rename_i idle
      have nothing : a.cpu = cpu → a.items = [] := by
        rintro rfl
        simpa [Arrival.Fills, mem] using idle
      rw [itemsFor_cons, ih]
      simpa using nothing

namespace Feed

structure Timely (f : Feed) : Prop where
  ordered : f.arrivals.Pairwise (·.time ≤ ·.time)
  ahead : ∀ a ∈ f.arrivals, f.now ≤ a.time

def grown (f : Feed) (now : Nat) (came : Arrival → Bool) : Feed where
  now := now
  queue cpu := f.queue cpu ++ itemsFor cpu (f.arrivals.filter came)
  arrivals := f.arrivals.filter (!came ·)

variable {f : Feed}

theorem Timely.takeWhile_eq (h : f.Timely) (time : Nat) :
    f.arrivals.takeWhile (·.time ≤ time) = f.arrivals.filter (·.time ≤ time) ∧
      f.arrivals.dropWhile (·.time ≤ time) =
        f.arrivals.filter fun a => !decide (a.time ≤ time) := by
  have ordered := h.ordered
  generalize f.arrivals = arrivals at ordered ⊢
  induction arrivals with
  | nil => exact ⟨rfl, rfl⟩
  | cons a rest ih =>
    obtain ⟨first, others⟩ := List.pairwise_cons.mp ordered
    by_cases early : a.time ≤ time
    · simpa [early] using ih others
    · have late (b : Arrival) (hb : b ∈ rest) : time < b.time :=
        (Nat.lt_of_not_le early).trans_le (first b hb)
      have all : rest.filter (fun b => !decide (b.time ≤ time)) = rest := by
        refine List.filter_eq_self.mpr fun b hb => ?_
        simpa using late b hb
      simpa [early, all] using late

theorem Timely.advance_eq (h : f.Timely) {time : Nat} (ahead : f.now ≤ time) :
    f.advance time = f.grown time (·.time ≤ time) := by
  obtain ⟨came, coming⟩ := h.takeWhile_eq time
  ext1
  · simp [advance, grown, ahead]
  · funext cpu
    rw [queue_advance, came]
    rfl
  · rw [advance, arrivals_fill, coming]
    rfl

theorem Timely.grown (h : f.Timely) {now : Nat} {came : Arrival → Bool}
    (coming : ∀ a, came a = false → now ≤ a.time) : (f.grown now came).Timely where
  ordered := h.ordered.filter _
  ahead a mem := coming a (by simpa using (List.mem_filter.mp mem).2)

theorem Timely.grown_at (h : f.Timely) (time : Nat) : (f.grown time (·.time ≤ time)).Timely :=
  h.grown fun _ late => Nat.le_of_not_le (of_decide_eq_false late)

theorem Timely.split (h : f.Timely) (time : Nat) :
    f.arrivals = f.arrivals.filter (·.time ≤ time) ++ (f.grown time (·.time ≤ time)).arrivals := by
  obtain ⟨came, coming⟩ := h.takeWhile_eq time
  rw [Feed.grown, ← came, ← coming, List.takeWhile_append_dropWhile]

theorem Timely.grown_grown (h : f.Timely) {time now : Nat} {came : Arrival → Bool}
    (more : ∀ a, a.time ≤ time → came a = true) :
    (f.grown time (·.time ≤ time)).grown now came = f.grown now came := by
  have all : (f.arrivals.filter (·.time ≤ time)).filter came =
      f.arrivals.filter (·.time ≤ time) := by
    refine List.filter_eq_self.mpr fun a mem => more a ?_
    simpa using (List.mem_filter.mp mem).2
  have nothing : (f.arrivals.filter (·.time ≤ time)).filter (!came ·) = [] := by
    refine List.filter_eq_nil_iff.mpr fun a mem => ?_
    simpa using more a (by simpa using (List.mem_filter.mp mem).2)
  ext1
  · rfl
  · funext cpu
    have parts := congrArg (fun arrivals => itemsFor cpu (arrivals.filter came)) (h.split time)
    simp only [List.filter_append, itemsFor_append, all] at parts
    simp only [Feed.grown, List.append_assoc] at parts ⊢
    rw [parts]
  · have parts := congrArg (fun arrivals => arrivals.filter (!came ·)) (h.split time)
    simp only [List.filter_append, nothing, List.nil_append] at parts
    exact parts.symm

theorem Timely.next_le (h : f.Timely) {a : Arrival} {rest : List Arrival}
    (next : f.arrivals = a :: rest) : ∀ b ∈ f.arrivals, a.time ≤ b.time := by
  have ordered := h.ordered
  rw [next] at ordered ⊢
  exact List.forall_mem_cons.mpr ⟨le_rfl, (List.pairwise_cons.mp ordered).1⟩

theorem grown_late {limit : Nat} (late : ∀ a ∈ f.arrivals, limit ≤ a.time) :
    f.grown limit (·.time < limit) = { f with now := limit } := by
  have nothing : f.arrivals.filter (·.time < limit) = [] := by simpa using late
  have all : f.arrivals.filter (fun a => !decide (a.time < limit)) = f.arrivals := by
    simpa using late
  ext1
  · rfl
  · funext cpu
    simp only [grown, nothing, itemsFor, List.filter_nil, List.flatMap_nil, List.append_nil]
  · exact all

theorem Timely.setQueue (h : f.Timely) (cpu : CpuId) (items : List Item) :
    (f.setQueue cpu items).Timely := ⟨h.ordered, h.ahead⟩

theorem Timely.fill (h : f.Timely) (backlog : List (CpuId × List Item)) :
    (f.fill backlog).Timely := ⟨by simpa using h.ordered, by simpa using h.ahead⟩

theorem mem_insertArrival {a b : Arrival} {arrivals : List Arrival} :
    b ∈ insertArrival a arrivals ↔ b = a ∨ b ∈ arrivals := by
  fun_induction insertArrival a arrivals with
  | case1 => simp
  | case2 c rest before ih => simp [ih, or_left_comm]
  | case3 c rest after => simp

theorem insertArrival_ordered (a : Arrival) {arrivals : List Arrival}
    (h : arrivals.Pairwise (·.time ≤ ·.time)) :
    (insertArrival a arrivals).Pairwise (·.time ≤ ·.time) := by
  fun_induction insertArrival a arrivals with
  | case1 => exact List.pairwise_singleton _ _
  | case2 c rest before ih =>
    obtain ⟨first, others⟩ := List.pairwise_cons.mp h
    refine List.pairwise_cons.mpr ⟨fun b mem => ?_, ih others⟩
    rcases mem_insertArrival.mp mem with rfl | mem
    · exact before
    · exact first b mem
  | case3 c rest after =>
    obtain ⟨first, -⟩ := List.pairwise_cons.mp h
    have early : a.time ≤ c.time := Nat.le_of_not_le after
    refine List.pairwise_cons.mpr ⟨List.forall_mem_cons.mpr ⟨early, fun b mem => ?_⟩, h⟩
    exact early.trans (first b mem)

theorem foldl_insertArrival_ordered (schedule : List Arrival) {arrivals : List Arrival}
    (h : arrivals.Pairwise (·.time ≤ ·.time)) :
    (schedule.foldl (fun sorted a => insertArrival a sorted) arrivals).Pairwise
      (·.time ≤ ·.time) := by
  induction schedule generalizing arrivals with
  | nil => exact h
  | cons a rest ih => exact ih (insertArrival_ordered a h)

theorem start_timely (schedule : List Arrival) : (start schedule).Timely where
  ordered := foldl_insertArrival_ordered schedule .nil
  ahead a _ := Nat.zero_le a.time

end Feed

end FileTrace
