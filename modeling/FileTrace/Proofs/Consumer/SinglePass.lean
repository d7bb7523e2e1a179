import FileTrace.Proofs.Consumer.Resumption

namespace FileTrace

def Batch.ofItems (items : List Item) : Batch :=
  ⟨items.filterMap Item.sample?, (items.map Item.loss).sum, items⟩

namespace Queue

def Content (queue : List Item) : Prop := ∀ item ∈ queue, item.isContent = true

theorem Content.cons {item : Item} {queue : List Item} (h : Content (item :: queue)) :
    ((∃ raw, item = .sample raw) ∨ ∃ count, item = .lost count) ∧ Content queue := by
  obtain ⟨here, later⟩ := List.forall_mem_cons.mp h
  refine ⟨?_, later⟩
  cases item with
  | sample raw => exact .inl ⟨raw, rfl⟩
  | lost count => exact .inr ⟨count, rfl⟩
  | stop | readError _ | waitError _ => cases here

def sampleCount (items : List Item) : Nat := (items.filterMap Item.sample?).length

/-- A queue in pieces. A piece ends behind the sample that fills a batch, or where the queue
ends. -/
inductive Cut : List Item → List (List Item) → Prop
  | nil : Cut [] []
  | last {queue : List Item} : queue ≠ [] → sampleCount queue < batchSize → Cut queue [queue]
  | full {front rest : List Item} {raw : List UInt8} {pieces : List (List Item)} :
      sampleCount front + 1 = batchSize → Cut rest pieces →
      Cut (front ++ .sample raw :: rest) ((front ++ [.sample raw]) :: pieces)

theorem split_at_sample {n : Nat} {queue : List Item} (h : n < sampleCount queue) :
    ∃ front raw rest, queue = front ++ .sample raw :: rest ∧ sampleCount front = n := by
  induction queue generalizing n with
  | nil => simp [sampleCount] at h
  | cons item queue ih =>
    cases item with
    | sample raw =>
      cases n with
      | zero => exact ⟨[], raw, queue, rfl, rfl⟩
      | succ n =>
        obtain ⟨front, r, rest, rfl, count⟩ := ih (n := n) (by simpa [sampleCount] using h)
        exact ⟨.sample raw :: front, r, rest, rfl, by simpa [sampleCount] using count⟩
    | lost _ | stop | readError _ | waitError _ =>
      obtain ⟨front, r, rest, rfl, same⟩ := ih h
      exact ⟨_ :: front, r, rest, rfl, same⟩

theorem exists_cut (queue : List Item) : ∃ pieces, Cut queue pieces := by
  by_cases enough : batchSize - 1 < sampleCount queue
  · obtain ⟨front, raw, rest, rfl, count⟩ := split_at_sample enough
    obtain ⟨pieces, cut⟩ := exists_cut rest
    exact ⟨_, .full (by rw [count]; rfl) cut⟩
  · by_cases empty : queue = []
    · exact ⟨[], empty ▸ .nil⟩
    · exact ⟨[queue], .last empty (Nat.lt_of_le_of_lt (Nat.not_lt.mp enough) (by decide))⟩
termination_by queue.length
decreasing_by
  simp_all only [List.length_append, List.length_cons]
  omega

theorem Cut.eq_nil {pieces : List (List Item)} (h : Cut [] pieces) : pieces = [] := by
  generalize empty : ([] : List Item) = queue at h
  cases h with
  | nil => rfl
  | last notEmpty short => exact absurd empty.symm notEmpty
  | full count later => simp at empty

theorem takeBatch_zero (queue : List Item) : takeBatch 0 queue = (.empty, queue) := by
  cases queue <;> rfl

-- Over the front: a sample uses up room, a loss does not.
theorem takeBatch_full {front : List Item} (content : Content front) (raw : List UInt8)
    (rest : List Item) :
    takeBatch (sampleCount front + 1) (front ++ .sample raw :: rest) =
      (.ofItems (front ++ [.sample raw]), rest) := by
  induction front with
  | nil =>
    simp [sampleCount, takeBatch, takeBatch_zero, Batch.addSample, Batch.empty, Batch.ofItems]
  | cons item front ih =>
    obtain ⟨⟨r, rfl⟩ | ⟨count, rfl⟩, later⟩ := content.cons
    · rw [show sampleCount (.sample r :: front) = sampleCount front + 1 from rfl, List.cons_append,
        takeBatch, ih later]
      simp [Batch.addSample, Batch.ofItems, Item.loss]
    · rw [show sampleCount (.lost count :: front) = sampleCount front from rfl, List.cons_append,
        takeBatch, ih later]
      rfl

theorem takeBatch_short {queue : List Item} (content : Content queue) {room : Nat}
    (short : sampleCount queue < room) : takeBatch room queue = (.ofItems queue, []) := by
  induction queue generalizing room with
  | nil => cases room <;> rfl
  | cons item queue ih =>
    obtain ⟨room, rfl⟩ := Nat.exists_eq_succ_of_ne_zero (Nat.ne_zero_of_lt short)
    obtain ⟨⟨r, rfl⟩ | ⟨count, rfl⟩, later⟩ := content.cons
    · rw [takeBatch, ih later (Nat.lt_of_succ_lt_succ short)]
      simp [Batch.addSample, Batch.ofItems, Item.loss]
    · rw [takeBatch, ih later short]
      rfl

theorem readFault?_content {queue : List Item} (content : Content queue) :
    readFault? queue = none := by
  cases queue with
  | nil => rfl
  | cons item queue =>
    obtain ⟨⟨raw, rfl⟩ | ⟨count, rfl⟩, _⟩ := content.cons <;> rfl

theorem drain_short {queue : List Item} (content : Content queue)
    (short : sampleCount queue < batchSize) : drain queue = ⟨[.ofItems queue], none, []⟩ := by
  rw [drain, readFault?_content content, takeBatch_short content short]
  simp

theorem drain_full {front rest : List Item} {raw : List UInt8}
    (content : Content (front ++ .sample raw :: rest))
    (count : sampleCount front + 1 = batchSize) :
    drain (front ++ .sample raw :: rest) =
      if rest = [] then ⟨[.ofItems (front ++ [.sample raw])], none, []⟩
      else ⟨.ofItems (front ++ [.sample raw]) :: (drain rest).batches, (drain rest).fault,
        (drain rest).rest⟩ := by
  have contentFront : Content front := fun i hi => content i (List.mem_append_left _ hi)
  have progressed : (Batch.ofItems (front ++ [.sample raw])).progressed = true := by
    simp [Batch.progressed, Batch.ofItems]
  rw [drain, readFault?_content content, ← count, takeBatch_full contentFront]
  by_cases empty : rest = []
  · simp [empty]
  · simp [empty, progressed]

theorem Cut.drain {queue : List Item} {pieces : List (List Item)} (h : Cut queue pieces)
    (content : Content queue) (pending : queue ≠ []) :
    Queue.drain queue = ⟨pieces.map Batch.ofItems, none, []⟩ := by
  induction h with
  | nil => exact absurd rfl pending
  | last _ short => exact drain_short content short
  | @full front rest raw pieces count later ih =>
    have contentRest : Content rest := fun i hi =>
      content i (List.mem_append_right _ (List.mem_cons_of_mem _ hi))
    rw [drain_full content count]
    by_cases empty : rest = []
    · subst empty
      rw [if_pos rfl, later.eq_nil]
      rfl
    · rw [if_neg empty, ih contentRest empty]
      rfl

theorem drain_content {queue : List Item} (content : Content queue) :
    (drain queue).fault = none ∧ (drain queue).rest = [] ∧
      (drain queue).batches.flatMap (·.taken) = queue := by
  have whole := taken_append_rest_drain queue
  have ended : (drain queue).fault = none ∧ (drain queue).rest = [] := by
    by_cases empty : queue = []
    · rw [empty, drain_short (List.forall_mem_nil _) (by decide)]
      exact ⟨rfl, rfl⟩
    · obtain ⟨pieces, cut⟩ := exists_cut queue
      rw [cut.drain content empty]
      exact ⟨rfl, rfl⟩
  simp only [Drained.taken, ended.1, ended.2, Option.map_none, Option.toList_none,
    List.append_nil] at whole
  exact ⟨ended.1, ended.2, whole⟩

end Queue

namespace Consumer

section

variable (decoder : Decoder) (cpu : CpuId)

def passItem : Item → Stats → Stats × Journal
  | .sample raw, s => takeSample decoder cpu raw s
  | .lost count, s => takeLoss cpu count s
  | _, s => (s, [])

def pass : List Item → Stats → Stats × Journal
  | [], s => (s, [])
  | item :: rest, s =>
    let (s, now) := passItem decoder cpu item s
    let (s, later) := pass rest s
    (s, now ++ later)

def pieceDeliveries (piece : List Item) : List Delivery :=
  (if (piece.map Item.loss).sum = 0 then [] else [.loss cpu (piece.map Item.loss).sum]) ++
    ((piece.filterMap Item.sample?).filterMap decoder.emitted?).map .emit

theorem pass_counting (queue : List Item) (s : Stats) :
    (pass decoder cpu queue s).1 =
      s.counting decoder (queue.filterMap Item.sample?) (queue.map Item.loss).sum := by
  induction queue generalizing s with
  | nil => simp [pass, Stats.counting]
  | cons item rest ih =>
    cases item with
    | sample raw =>
      rw [pass, ih, passItem, takeSample_counting, Stats.counting_counting]
      simp
    | lost count =>
      rw [pass, ih, passItem, takeLoss_counting decoder, Stats.counting_counting]
      rfl
    | stop | readError _ | waitError _ =>
      rw [pass, ih]
      simp [passItem, List.filterMap_cons, Item.sample?]

theorem pass_emitted (queue : List Item) (s : Stats) :
    (pass decoder cpu queue s).2.emitted =
      (queue.filterMap Item.sample?).filterMap decoder.emitted? := by
  induction queue generalizing s with
  | nil => rfl
  | cons item rest ih =>
    rw [pass, Journal.emitted_append, ih]
    cases item with
    | sample raw =>
      have here := (takeSample_journal decoder cpu raw s).2
      simp only [passItem, Journal.emitted, here]
      cases h : decoder.emitted? raw <;> simp [h]
    | lost count =>
      have here := (takeLoss_journal cpu count s).2
      simp only [passItem, Journal.emitted, here]
      by_cases zero : count = 0 <;> simp [zero, List.filterMap_cons, Item.sample?]
    | stop | readError _ | waitError _ => rfl

theorem takeBatches_deliveries (batches : List Batch) (s : Stats) :
    (takeBatches decoder cpu batches s).2.deliveries = batches.flatMap fun b =>
      (if b.lost = 0 then [] else [.loss cpu b.lost]) ++
        (b.samples.filterMap decoder.emitted?).map .emit := by
  induction batches generalizing s with
  | nil => rfl
  | cons b rest ih =>
    rw [List.flatMap_cons, ← takeBatch_deliveries decoder cpu b s, ← ih,
      ← Journal.deliveries_append]
    rfl

end

theorem samples_of_taken {batches : List Batch} (h : ∀ b ∈ batches, b.Genuine) :
    batches.flatMap (·.samples) = (batches.flatMap (·.taken)).filterMap Item.sample? ∧
      lossOf batches = ((batches.flatMap (·.taken)).map Item.loss).sum := by
  induction batches with
  | nil => exact ⟨rfl, rfl⟩
  | cons b rest ih =>
    obtain ⟨samples, lost⟩ := ih fun b hb => h b (List.mem_cons_of_mem _ hb)
    have here := h b List.mem_cons_self
    constructor
    · rw [List.flatMap_cons, List.flatMap_cons, List.filterMap_append, here.samples, samples]
    · rw [List.flatMap_cons, List.map_append, List.sum_append, ← here.lost, ← lost]
      rfl

structure DrainsLikePass (c : Consumer) (f : Feed) (cpu : CpuId) (polled : Polled) : Prop where
  result : polled.result = .ok (.processed ((f.queue cpu).filterMap Item.sample?).length
    ((f.queue cpu).map Item.loss).sum)
  empties : polled.feed = f.setQueue cpu []
  counts : polled.consumer = { c with stats := (pass c.decoder cpu (f.queue cpu) c.stats).1 }
  emitted : polled.journal.emitted = (pass c.decoder cpu (f.queue cpu) c.stats).2.emitted
  cut : ∃ pieces, Queue.Cut (f.queue cpu) pieces
  batched : ∀ pieces, Queue.Cut (f.queue cpu) pieces →
    polled.journal.deliveries = pieces.flatMap (pieceDeliveries c.decoder cpu)

theorem drain_like_pass (c : Consumer) (f : Feed) (cpu : CpuId)
    (content : Queue.Content (f.queue cpu)) :
    DrainsLikePass c f cpu (drainRings 0 0 c f [cpu]) := by
  obtain ⟨sound, empty, whole⟩ := Queue.drain_content content
  obtain ⟨samples, lost⟩ := samples_of_taken (Queue.drain_genuine (f.queue cpu))
  rw [whole] at samples lost
  have here : drainRings 0 0 c f [cpu] =
      ⟨.ok (.processed ((f.queue cpu).filterMap Item.sample?).length
        ((f.queue cpu).map Item.loss).sum), c.drained f cpu, f.setQueue cpu [],
        (c.drainQueue f cpu).2⟩ := by
    rw [drainRings_next sound, empty, samplesOf_eq, samples, lost]
    simp [drainRings]
  rw [here]
  refine ⟨rfl, rfl, ?_, ?_, Queue.exists_cut _, fun pieces cut => ?_⟩
  · rw [drained, drainQueue, takeBatches_counting, samples, lost, pass_counting]
  · rw [pass_emitted, (c.drainQueue_delivers f cpu).emitted, Journal.samples, drainQueue_taken,
      whole, List.filterMap_map]
    rfl
  · rw [drainQueue, takeBatches_deliveries]
    by_cases empty : f.queue cpu = []
    · rw [empty] at cut ⊢
      rw [cut.eq_nil, Queue.drain_short (List.forall_mem_nil _) (by decide)]
      rfl
    · rw [cut.drain content empty, List.flatMap_map]
      rfl

/-- A full batch that ends with an undecodable sample, and losses behind it of which one is none. -/
def overfull : Feed where
  now := 0
  queue cpu :=
    if cpu = ⟨0⟩ then
      .lost 2 :: List.replicate 31 (.sample (List.replicate 32 0)) ++
        [.sample [1], .lost 0, .lost 3, .sample (List.replicate 32 0), .lost 0]
    else []
  arrivals := []

theorem drain_like_pass_overfull :
    Queue.Content (overfull.queue ⟨0⟩) ∧
      DrainsLikePass Session.twoRings overfull ⟨0⟩
        (drainRings 0 0 Session.twoRings overfull [⟨0⟩]) :=
  have content : Queue.Content (overfull.queue ⟨0⟩) := by
    unfold Queue.Content
    decide
  ⟨content, drain_like_pass Session.twoRings overfull ⟨0⟩ content⟩

end Consumer

end FileTrace
