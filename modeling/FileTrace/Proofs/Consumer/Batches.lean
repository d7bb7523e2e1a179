import FileTrace.Proofs.Consumer.Deliveries

namespace FileTrace

def Entry.passive : Entry → Bool
  | .delivery _ => true
  | .log _ => true
  | _ => false

def Entry.polling : Entry → Bool
  | .ring (.read _ _) => true
  | .ring (.readFault _ _) => true
  | .ring (.waitFault _ _) => true
  | entry => entry.passive

theorem Entry.polling_of_passive {entry : Entry} (h : entry.passive = true) :
    entry.polling = true := by
  cases entry with
  | ring call => cases h
  | object call => cases h
  | delivery d => rfl
  | log line => rfl

namespace Journal

def Passive (journal : Journal) : Prop := ∀ entry ∈ journal, entry.passive = true

def Polls (journal : Journal) : Prop := ∀ entry ∈ journal, entry.polling = true

theorem Polls.nil : Polls [] := List.forall_mem_nil _

theorem log_polls (level : Log.Level) (topic : Log.Topic) (text : String) :
    (log level topic text).Polls := List.forall_mem_singleton.mpr rfl

theorem Passive.append {xs ys : Journal} (hx : xs.Passive) (hy : ys.Passive) :
    Passive (xs ++ ys) := by
  intro entry h
  rcases List.mem_append.mp h with h | h
  · exact hx entry h
  · exact hy entry h

theorem Polls.append {xs ys : Journal} (hx : xs.Polls) (hy : ys.Polls) : Polls (xs ++ ys) := by
  intro entry h
  rcases List.mem_append.mp h with h | h
  · exact hx entry h
  · exact hy entry h

theorem Passive.taken_eq {journal : Journal} (h : journal.Passive) : journal.taken = [] := by
  refine List.flatMap_eq_nil_iff.mpr fun entry he => ?_
  have passive := h entry he
  cases entry with
  | ring call => cases passive
  | object call => rfl
  | delivery d => rfl
  | log line => rfl

theorem Passive.emittedFrom_eq {journal : Journal} (h : journal.Passive) (cpu : CpuId)
    (draining : Bool) :
    journal.emittedFrom cpu draining = if draining then journal.emitted else [] := by
  induction journal with
  | nil => simp [emittedFrom, emitted, deliveries]
  | cons entry rest ih =>
    have later := ih fun e he => h e (List.mem_cons_of_mem _ he)
    have passive := h entry List.mem_cons_self
    cases entry with
    | ring call => cases passive
    | object call => cases passive
    | log line => simpa [emittedFrom, emitted, deliveries] using later
    | delivery d =>
      cases d with
      | loss c count => simpa [emittedFrom, emitted, deliveries] using later
      | emit event => cases draining <;> simpa [emittedFrom, emitted, deliveries] using later

end Journal

namespace Consumer

theorem takeSample_journal (decoder : Decoder) (cpu : CpuId) (raw : List UInt8) (s : Stats) :
    (takeSample decoder cpu raw s).2.Passive ∧
      (takeSample decoder cpu raw s).2.deliveries = (decoder.emitted? raw).toList.map .emit := by
  rcases h : decoder.decode raw with e | _ | event <;>
    simp [takeSample, h, Decoder.emitted?, Journal.Passive, Entry.passive, Journal.deliveries,
      logged, Journal.log]

theorem takeSample_counting (decoder : Decoder) (cpu : CpuId) (raw : List UInt8) (s : Stats) :
    (takeSample decoder cpu raw s).1 = s.counting decoder [raw] 0 := by
  rcases h : decoder.decode raw with e | _ | event <;>
    simp [takeSample, h, Stats.counting, Decoder.verdict]

theorem takeSamples_journal (decoder : Decoder) (cpu : CpuId) (raws : List (List UInt8))
    (s : Stats) :
    (takeSamples decoder cpu raws s).2.Passive ∧
      (takeSamples decoder cpu raws s).2.deliveries =
        (raws.filterMap decoder.emitted?).map .emit := by
  induction raws generalizing s with
  | nil => simp [takeSamples, Journal.Passive, Journal.deliveries]
  | cons raw rest ih =>
    obtain ⟨passive, deliveries⟩ := takeSample_journal decoder cpu raw s
    obtain ⟨laterPassive, later⟩ := ih (takeSample decoder cpu raw s).1
    refine ⟨passive.append laterPassive, ?_⟩
    simp only [takeSamples, Journal.deliveries, List.filterMap_append] at deliveries later ⊢
    rw [deliveries, later]
    cases h : decoder.emitted? raw <;> simp [h]

theorem takeSamples_counting (decoder : Decoder) (cpu : CpuId) (raws : List (List UInt8))
    (s : Stats) : (takeSamples decoder cpu raws s).1 = s.counting decoder raws 0 := by
  induction raws generalizing s with
  | nil => simp [takeSamples, Stats.counting]
  | cons raw rest ih =>
    rw [takeSamples, ih, takeSample_counting, Stats.counting_counting]
    rfl

theorem takeLoss_journal (cpu : CpuId) (count : Nat) (s : Stats) :
    (takeLoss cpu count s).2.Passive ∧
      (takeLoss cpu count s).2.deliveries = if count = 0 then [] else [.loss cpu count] := by
  by_cases h : count = 0 <;> simp [takeLoss, h, Journal.Passive, Entry.passive, Journal.deliveries]

theorem takeLoss_counting (decoder : Decoder) (cpu : CpuId) (count : Nat) (s : Stats) :
    (takeLoss cpu count s).1 = s.counting decoder [] count := by
  by_cases h : count = 0 <;> simp [takeLoss, h, Stats.counting]

theorem takeBatch_counting (decoder : Decoder) (cpu : CpuId) (b : Batch) (s : Stats) :
    (takeBatch decoder cpu b s).1 = s.counting decoder b.samples b.lost := by
  rw [takeBatch, takeSamples_counting, takeLoss_counting decoder, Stats.counting_counting]
  rfl

theorem takeBatch_journal (decoder : Decoder) (cpu : CpuId) (b : Batch) (s : Stats) :
    ∃ quiet : Journal, (takeBatch decoder cpu b s).2 = .ring (.read cpu b) :: quiet ∧
      quiet.Passive ∧ quiet.deliveries = (if b.lost = 0 then [] else [.loss cpu b.lost]) ++
        (b.samples.filterMap decoder.emitted?).map .emit := by
  obtain ⟨quietLoss, losses⟩ := takeLoss_journal cpu b.lost s
  obtain ⟨quietSamples, events⟩ :=
    takeSamples_journal decoder cpu b.samples (takeLoss cpu b.lost s).1
  have deliveries := Journal.deliveries_append (takeLoss cpu b.lost s).2
    (takeSamples decoder cpu b.samples (takeLoss cpu b.lost s).1).2
  rw [losses, events] at deliveries
  exact ⟨_, rfl, quietLoss.append quietSamples, deliveries⟩

theorem takeBatch_taken (decoder : Decoder) (cpu : CpuId) (b : Batch) (s : Stats) :
    (takeBatch decoder cpu b s).2.taken = b.taken.map (cpu, ·) := by
  obtain ⟨quiet, whole, passive, -⟩ := takeBatch_journal decoder cpu b s
  have rest : quiet.flatMap Entry.taken = [] := passive.taken_eq
  rw [whole, Journal.taken, List.flatMap_cons, rest, List.append_nil]
  rfl

theorem takeBatch_deliveries (decoder : Decoder) (cpu : CpuId) (b : Batch) (s : Stats) :
    (takeBatch decoder cpu b s).2.deliveries =
      (if b.lost = 0 then [] else [.loss cpu b.lost]) ++
        (b.samples.filterMap decoder.emitted?).map .emit := by
  obtain ⟨quiet, whole, -, deliveries⟩ := takeBatch_journal decoder cpu b s
  rw [whole]
  exact deliveries

theorem takeBatch_emitted (decoder : Decoder) (cpu : CpuId) (b : Batch) (s : Stats) :
    (takeBatch decoder cpu b s).2.emitted = b.samples.filterMap decoder.emitted? := by
  rw [Journal.emitted, takeBatch_deliveries, List.filterMap_append]
  by_cases h : b.lost = 0 <;> simp [h, List.filterMap_map]

theorem takeBatch_losses (decoder : Decoder) (cpu : CpuId) (b : Batch) (s : Stats) :
    (takeBatch decoder cpu b s).2.losses = if b.lost = 0 then [] else [(cpu, b.lost)] := by
  rw [Journal.losses, takeBatch_deliveries, List.filterMap_append]
  by_cases h : b.lost = 0 <;> simp [h, List.filterMap_map]

theorem takeBatch_emittedFrom (decoder : Decoder) (c : CpuId) (b : Batch) (s : Stats)
    (cpu : CpuId) (draining : Bool) :
    (takeBatch decoder c b s).2.emittedFrom cpu draining =
      if c = cpu then b.samples.filterMap decoder.emitted? else [] := by
  obtain ⟨quiet, whole, passive, -⟩ := takeBatch_journal decoder c b s
  have events : quiet.emitted = b.samples.filterMap decoder.emitted? := by
    rw [← takeBatch_emitted decoder c b s, whole]
    rfl
  rw [whole, Journal.emittedFrom, passive.emittedFrom_eq, events]
  by_cases h : c = cpu <;> simp [h]

theorem takeBatch_delivers (decoder : Decoder) (c : CpuId) {b : Batch} (h : b.Genuine)
    (s : Stats) :
    Delivers decoder s (takeBatch decoder c b s).1 (takeBatch decoder c b s).2 := by
  have taken := takeBatch_taken decoder c b s
  have losses := takeBatch_losses decoder c b s
  have samples : (takeBatch decoder c b s).2.samples = b.samples := by
    rw [Journal.samples, taken, List.filterMap_map, h.samples]
    rfl
  constructor
  · rw [takeBatch_emitted, samples]
  · intro cpu draining
    rw [takeBatch_emittedFrom, taken, takenFrom_map]
    by_cases hc : c = cpu <;> simp [hc, h.samples]
  · intro cpu
    rw [Journal.lossesOn, losses, taken, takenFrom_map]
    by_cases hc : c = cpu <;> by_cases zero : b.lost = 0 <;> simp [hc, zero, h.lost.symm]
  · intro loss hl
    rw [losses] at hl
    split at hl
    · cases hl
    · rw [List.mem_singleton.mp hl]
      omega
  · rw [samples, takeBatch_counting]
    rfl
  · intro v
    rw [samples, takeBatch_counting, Stats.tally_counting]
  · rw [losses, takeBatch_counting]
    by_cases zero : b.lost = 0 <;> simp [zero, Stats.counting]

theorem takeBatches_delivers (decoder : Decoder) (cpu : CpuId) (batches : List Batch)
    (h : ∀ b ∈ batches, b.Genuine) (s : Stats) :
    Delivers decoder s (takeBatches decoder cpu batches s).1
      (takeBatches decoder cpu batches s).2 := by
  induction batches generalizing s with
  | nil => exact .idle rfl (by simp [takeBatches, Journal.taken])
  | cons b rest ih =>
    have first := takeBatch_delivers decoder cpu (h b List.mem_cons_self) s
    exact first.trans (ih (fun b hb => h b (List.mem_cons_of_mem _ hb)) _)

theorem takeBatches_taken (decoder : Decoder) (cpu : CpuId) (batches : List Batch) (s : Stats) :
    (takeBatches decoder cpu batches s).2.taken = (batches.flatMap (·.taken)).map (cpu, ·) := by
  induction batches generalizing s with
  | nil => rfl
  | cons b rest ih =>
    simp only [takeBatches, Journal.taken_append, takeBatch_taken, ih, List.flatMap_cons,
      List.map_append]

theorem takeBatch_polling (decoder : Decoder) (cpu : CpuId) (b : Batch) (s : Stats) :
    (takeBatch decoder cpu b s).2.Polls := by
  obtain ⟨quiet, whole, passive, -⟩ := takeBatch_journal decoder cpu b s
  rw [whole]
  intro entry h
  rcases List.mem_cons.mp h with rfl | h
  · rfl
  · exact Entry.polling_of_passive (passive entry h)

theorem takeBatches_polling (decoder : Decoder) (cpu : CpuId) (batches : List Batch) (s : Stats) :
    (takeBatches decoder cpu batches s).2.Polls := by
  induction batches generalizing s with
  | nil => exact Journal.Polls.nil
  | cons b rest ih => exact (takeBatch_polling decoder cpu b s).append (ih _)

theorem samplesOf_eq (batches : List Batch) :
    samplesOf batches = (batches.flatMap (·.samples)).length := by
  induction batches with
  | nil => rfl
  | cons b rest ih =>
    rw [List.flatMap_cons, List.length_append, ← ih]
    rfl

theorem takeBatches_counting (decoder : Decoder) (cpu : CpuId) (batches : List Batch)
    (s : Stats) :
    (takeBatches decoder cpu batches s).1 =
      s.counting decoder (batches.flatMap (·.samples)) (lossOf batches) := by
  induction batches generalizing s with
  | nil => simp [takeBatches, Stats.counting, lossOf]
  | cons b rest ih =>
    rw [takeBatches, ih, takeBatch_counting, Stats.counting_counting]
    rfl

theorem takeBatches_counts (decoder : Decoder) (cpu : CpuId) (batches : List Batch) (s : Stats) :
    (takeBatches decoder cpu batches s).1.polls = s.polls ∧
      (takeBatches decoder cpu batches s).1.timeouts = s.timeouts ∧
      (takeBatches decoder cpu batches s).1.records = s.records + samplesOf batches ∧
      (takeBatches decoder cpu batches s).1.lost = s.lost + lossOf batches := by
  rw [takeBatches_counting, samplesOf_eq]
  exact ⟨rfl, rfl, rfl, rfl⟩

end Consumer

end FileTrace
