import FileTrace.Proofs.Consumer.Resumption

namespace FileTrace

def Entry.ringCall? : Entry → Option RingCall
  | .ring call => some call
  | _ => none

def RingCall.reads? : RingCall → Option CpuId
  | .waitFault cpu _ => some cpu
  | .readFault cpu _ => some cpu
  | .read cpu _ => some cpu
  | _ => none

namespace Journal

def ringCalls (journal : Journal) : List RingCall := journal.filterMap Entry.ringCall?

def Reads (rings : List CpuId) (journal : Journal) : Prop :=
  ∀ call ∈ journal.ringCalls, ∃ cpu ∈ rings, call.reads? = some cpu

theorem ringCalls_append (xs ys : Journal) : ringCalls (xs ++ ys) = xs.ringCalls ++ ys.ringCalls :=
  List.filterMap_append

theorem ringCalls_cons (call : RingCall) (rest : Journal) :
    ringCalls (.ring call :: rest) = call :: ringCalls rest := rfl

theorem ringCalls_log (level : Log.Level) (topic : Log.Topic) (text : String) :
    (log level topic text).ringCalls = [] := rfl

theorem ringCalls_map (call : CpuId → RingCall) (cpus : List CpuId) :
    ringCalls (cpus.map fun cpu => .ring (call cpu)) = cpus.map call := by
  have each : Entry.ringCall? ∘ (fun cpu => .ring (call cpu)) = some ∘ call := rfl
  rw [ringCalls, List.filterMap_map, each, List.filterMap_eq_map]

theorem Passive.ringCalls_eq {journal : Journal} (h : journal.Passive) : journal.ringCalls = [] := by
  refine List.filterMap_eq_nil_iff.mpr fun entry he => ?_
  have passive := h entry he
  cases entry with
  | ring call => cases passive
  | object call => rfl
  | delivery d => rfl
  | log line => rfl

variable {rings : List CpuId}

theorem Reads.nil : Reads rings [] := List.forall_mem_nil _

theorem Reads.append {xs ys : Journal} (hx : xs.Reads rings) (hy : ys.Reads rings) :
    Reads rings (xs ++ ys) := by
  intro call h
  rw [ringCalls_append] at h
  rcases List.mem_append.mp h with h | h
  · exact hx call h
  · exact hy call h

theorem Reads.mono {rings' : List CpuId} {journal : Journal} (h : journal.Reads rings)
    (among : ∀ cpu ∈ rings, cpu ∈ rings') : journal.Reads rings' := by
  intro call hc
  obtain ⟨cpu, mem, reads⟩ := h call hc
  exact ⟨cpu, among cpu mem, reads⟩

end Journal

def Channel.Opens (channel : Channel) (place : Nat) (cpus : List CpuId) : Prop :=
  ∀ ring ∈ cpus.zipIdx place, channel.openFault ring.2 ring.1 = none

theorem Channel.opens_cons {channel : Channel} {place : Nat} {cpu : CpuId} {rest : List CpuId} :
    channel.Opens place (cpu :: rest) ↔
      channel.openFault place cpu = none ∧ channel.Opens (place + 1) rest := by
  rw [Opens, List.zipIdx_cons, List.forall_mem_cons]
  rfl

theorem Channel.opens_or_first (channel : Channel) (place : Nat) (cpus : List CpuId) :
    channel.Opens place cpus ∨ ∃ opened cpu rest reason, cpus = opened ++ cpu :: rest ∧
      channel.Opens place opened ∧ channel.openFault (place + opened.length) cpu = some reason := by
  induction cpus generalizing place with
  | nil => exact .inl (List.forall_mem_nil _)
  | cons cpu rest ih =>
    rcases fault : channel.openFault place cpu with - | reason
    · rcases ih (place + 1) with all | ⟨opened, failing, others, reason, rfl, opens, failed⟩
      · exact .inl (opens_cons.mpr ⟨fault, all⟩)
      · refine .inr ⟨cpu :: opened, failing, others, reason, rfl, opens_cons.mpr ⟨fault, opens⟩, ?_⟩
        rw [List.length_cons, Nat.add_comm opened.length, ← Nat.add_assoc]
        exact failed
    · exact .inr ⟨[], cpu, rest, reason, rfl, List.forall_mem_nil _, fault⟩

namespace Consumer

theorem isPowerOfTwo_iff (n : Nat) : isPowerOfTwo n = true ↔ ∃ m, n = 2 ^ m := by
  rw [isPowerOfTwo, Bool.and_eq_true, bne_iff_ne, beq_iff_eq]
  exact Nat.ne_zero_and_sub_one_eq_zero_iff_isPowerOfTwo

theorem openRings_all {channel : Channel} (pages : Nat) {place : Nat} {cpus : List CpuId}
    (opens : channel.Opens place cpus) :
    openRings channel pages place cpus =
      (.ok (), cpus, cpus.map fun cpu => .ring (.opening cpu pages none)) := by
  induction cpus generalizing place with
  | nil => rfl
  | cons cpu rest ih =>
    obtain ⟨first, others⟩ := Channel.opens_cons.mp opens
    simp only [openRings, first, ih others, List.map_cons]

theorem openRings_first {channel : Channel} (pages : Nat) {place : Nat} {opened : List CpuId}
    {cpu : CpuId} {rest : List CpuId} {reason : String} (opens : channel.Opens place opened)
    (failed : channel.openFault (place + opened.length) cpu = some reason) :
    openRings channel pages place (opened ++ cpu :: rest) =
      (.error (.ringNotOpened cpu reason), opened,
        (opened.map fun cpu => .ring (.opening cpu pages none)) ++
          [.ring (.opening cpu pages (some reason))]) := by
  induction opened generalizing place with
  | nil =>
    have here : channel.openFault place cpu = some reason := failed
    simp only [List.nil_append, openRings, here, List.map_nil]
  | cons first others ih =>
    obtain ⟨here, later⟩ := Channel.opens_cons.mp opens
    rw [List.length_cons, Nat.add_comm others.length, ← Nat.add_assoc] at failed
    simp only [List.cons_append, openRings, here, ih later failed, List.map_cons]

/-- Opening the rings of a channel: nothing is asked for a page count that is no power of two; else
all rings are opened, or those in front of the first failure are opened and released again. -/
structure Creation (channel : Channel) (pages : Nat) (decoder : Decoder) : Prop where
  invalid : (¬∃ m, pages = 2 ^ m) →
    create channel pages decoder = (.error (.invalidPageCount pages), [])
  succeeds_iff : (∃ c, (create channel pages decoder).1 = .ok c) ↔
    (∃ m, pages = 2 ^ m) ∧ ∃ cpus, channel.cpus = .ok cpus ∧ channel.Opens 0 cpus
  created : ∀ c, (create channel pages decoder).1 = .ok c →
    channel.cpus = .ok c.rings ∧ c.decoder = decoder ∧ c.stats = .zero ∧
      (create channel pages decoder).2.ringCalls =
        .cpus (.ok c.rings) :: c.rings.map (.opening · pages none)
  unlisted : ∀ reason, (∃ m, pages = 2 ^ m) → channel.cpus = .error reason →
    create channel pages decoder =
      (.error (.cpusUnknown reason), [.ring (.cpus (.error reason))])
  setback : ∀ opened cpu rest reason, (∃ m, pages = 2 ^ m) →
    channel.cpus = .ok (opened ++ cpu :: rest) → channel.Opens 0 opened →
    channel.openFault opened.length cpu = some reason →
    (create channel pages decoder).1 = .error (.ringNotOpened cpu reason) ∧
      (create channel pages decoder).2.ringCalls =
        .cpus (.ok (opened ++ cpu :: rest)) :: opened.map (.opening · pages none) ++
          .opening cpu pages (some reason) :: opened.map .release

section Create

variable {channel : Channel} {pages : Nat} (decoder : Decoder)

theorem create_invalid (h : ¬∃ m, pages = 2 ^ m) :
    create channel pages decoder = (.error (.invalidPageCount pages), []) := by
  rw [create, if_neg ((isPowerOfTwo_iff pages).not.mpr h)]

theorem create_unlisted {reason : String} (power : ∃ m, pages = 2 ^ m)
    (unlisted : channel.cpus = .error reason) :
    create channel pages decoder =
      (.error (.cpusUnknown reason), [.ring (.cpus (.error reason))]) := by
  rw [create, if_pos ((isPowerOfTwo_iff pages).mpr power), unlisted]

theorem create_all {cpus : List CpuId} (power : ∃ m, pages = 2 ^ m)
    (listed : channel.cpus = .ok cpus) (opens : channel.Opens 0 cpus) :
    (create channel pages decoder).1 = .ok ⟨cpus, decoder, .zero⟩ ∧
      (create channel pages decoder).2.ringCalls =
        .cpus (.ok cpus) :: cpus.map (.opening · pages none) := by
  have openings := Journal.ringCalls_map (.opening · pages none) cpus
  rw [create, if_pos ((isPowerOfTwo_iff pages).mpr power), listed]
  simp only [openRings_all pages opens, logged, Journal.ringCalls_append, Journal.ringCalls_cons,
    Journal.ringCalls_log, openings, List.append_nil, and_self]

theorem create_first {opened : List CpuId} {cpu : CpuId} {rest : List CpuId} {reason : String}
    (power : ∃ m, pages = 2 ^ m) (listed : channel.cpus = .ok (opened ++ cpu :: rest))
    (opens : channel.Opens 0 opened) (failed : channel.openFault opened.length cpu = some reason) :
    (create channel pages decoder).1 = .error (.ringNotOpened cpu reason) ∧
      (create channel pages decoder).2.ringCalls =
        .cpus (.ok (opened ++ cpu :: rest)) :: opened.map (.opening · pages none) ++
          .opening cpu pages (some reason) :: opened.map .release := by
  have openings := Journal.ringCalls_map (.opening · pages none) opened
  have releases := Journal.ringCalls_map .release opened
  have here : channel.openFault (0 + opened.length) cpu = some reason := by
    rw [Nat.zero_add]
    exact failed
  rw [create, if_pos ((isPowerOfTwo_iff pages).mpr power), listed]
  simp only [openRings_first pages opens here, setbackText, releaseRings, logged,
    Journal.ringCalls_append, Journal.ringCalls_cons, Journal.ringCalls_log, openings, releases,
    List.cons_append, List.append_assoc, true_and]
  rfl

theorem create_ok_iff {c : Consumer} :
    (create channel pages decoder).1 = .ok c ↔
      (∃ m, pages = 2 ^ m) ∧
        ∃ cpus, channel.cpus = .ok cpus ∧ channel.Opens 0 cpus ∧ c = ⟨cpus, decoder, .zero⟩ := by
  constructor
  · intro created
    by_cases power : ∃ m, pages = 2 ^ m
    · refine ⟨power, ?_⟩
      rcases listed : channel.cpus with reason | cpus
      · rw [create_unlisted decoder power listed] at created
        cases created
      · rcases channel.opens_or_first 0 cpus with opens | ⟨opened, cpu, rest, reason, rfl, opens, failed⟩
        · rw [(create_all decoder power listed opens).1] at created
          cases created
          exact ⟨cpus, rfl, opens, rfl⟩
        · rw [Nat.zero_add] at failed
          rw [(create_first decoder power listed opens failed).1] at created
          cases created
    · rw [create_invalid decoder power] at created
      cases created
  · rintro ⟨power, cpus, listed, opens, rfl⟩
    exact (create_all decoder power listed opens).1

end Create

theorem create_creation (channel : Channel) (pages : Nat) (decoder : Decoder) :
    Creation channel pages decoder where
  invalid := create_invalid decoder
  succeeds_iff := by
    constructor
    · rintro ⟨c, created⟩
      obtain ⟨power, cpus, listed, opens, -⟩ := (create_ok_iff decoder).mp created
      exact ⟨power, cpus, listed, opens⟩
    · rintro ⟨power, cpus, listed, opens⟩
      exact ⟨_, (create_all decoder power listed opens).1⟩
  created c created := by
    obtain ⟨power, cpus, listed, opens, rfl⟩ := (create_ok_iff decoder).mp created
    exact ⟨listed, rfl, rfl, (create_all decoder power listed opens).2⟩
  unlisted _ power unlisted := create_unlisted decoder power unlisted
  setback _ _ _ _ power listed opens failed := create_first decoder power listed opens failed

end Consumer

def Feed.Wait.rings : Feed.Wait → List CpuId
  | .ready cpus => cpus
  | .failed cpu _ => [cpu]
  | .timedOut => []

theorem Feed.await_among (f : Feed) (rings : List CpuId) (deadline : Nat) :
    ∀ cpu ∈ (f.await rings deadline).1.rings, cpu ∈ rings := by
  fun_induction await f rings deadline with
  | case1 f cpu reason h => exact List.forall_mem_singleton.mpr (mem_of_failed rings h)
  | case2 f cpu cpus h => exact fun ring mem => (readable_of_ready rings h ring mem).1
  | case3 => exact List.forall_mem_nil _
  | case4 f h a rest hf early ih => exact ih
  | case5 => exact List.forall_mem_nil _

namespace Consumer

theorem takeBatch_ringCalls (decoder : Decoder) (cpu : CpuId) (b : Batch) (s : Stats) :
    (takeBatch decoder cpu b s).2.ringCalls = [.read cpu b] := by
  obtain ⟨quiet, whole, passive, -⟩ := takeBatch_journal decoder cpu b s
  rw [whole, Journal.ringCalls_cons, passive.ringCalls_eq]

theorem takeBatches_reads (decoder : Decoder) (cpu : CpuId) (batches : List Batch) (s : Stats) :
    (takeBatches decoder cpu batches s).2.Reads [cpu] := by
  induction batches generalizing s with
  | nil => exact .nil
  | cons b rest ih =>
    have here : (takeBatch decoder cpu b s).2.Reads [cpu] := by
      intro call h
      rw [takeBatch_ringCalls, List.mem_singleton] at h
      exact ⟨cpu, List.mem_singleton.mpr rfl, by rw [h]; rfl⟩
    exact here.append (ih _)

theorem drainRings_reads (records lost : Nat) (c : Consumer) (f : Feed) (cpus : List CpuId) :
    (drainRings records lost c f cpus).journal.Reads cpus := by
  induction cpus generalizing records lost c f with
  | nil => exact .nil
  | cons cpu rest ih =>
    have here : (c.drainQueue f cpu).2.Reads [cpu] := takeBatches_reads _ _ _ _
    have first : ∀ ring ∈ [cpu], ring ∈ cpu :: rest :=
      List.forall_mem_singleton.mpr List.mem_cons_self
    cases fault : (Queue.drain (f.queue cpu)).fault with
    | some reason =>
      have failing : Journal.Reads [cpu] [.ring (.readFault cpu reason)] :=
        List.forall_mem_singleton.mpr ⟨cpu, List.mem_singleton.mpr rfl, rfl⟩
      rw [drainRings_fault fault]
      exact (here.append failing).mono first
    | none =>
      rw [drainRings_next fault]
      exact (here.mono first).append
        ((ih _ _ (c.drained f cpu) _).mono fun ring => List.mem_cons_of_mem cpu)

theorem poll_reads (timeout : Nat) (c : Consumer) (f : Feed) :
    (c.poll timeout f).journal.Reads c.rings := by
  rw [poll]
  split
  · exact .nil
  · have among := f.await_among c.rings (f.now + timeout)
    split
    · exact .nil
    · rename_i cpu reason waited h
      rw [h] at among
      exact List.forall_mem_singleton.mpr ⟨cpu, among cpu (List.mem_singleton.mpr rfl), rfl⟩
    · rename_i cpus waited h
      rw [h] at among
      exact (drainRings_reads 0 0 c.countPoll waited cpus).mono among

def dropped (c : Consumer) : Journal := c.destroy.2

theorem destroy_ringCalls (c : Consumer) : c.destroy.2.ringCalls = c.rings.map .release := by
  rw [destroy]
  split
  · rename_i empty
    rw [List.isEmpty_iff.mp empty]
    rfl
  · exact Journal.ringCalls_map .release c.rings

theorem destroy_consumer (c : Consumer) : c.destroy.1 = { c with rings := [] } := by
  rw [destroy]
  split
  · rename_i empty
    rw [← List.isEmpty_iff.mp empty]
  · rfl

end Consumer

namespace Session

theorem run_reads (actions : List Action) (p : Polling) (kept : .destroy ∉ actions) :
    (history actions p).Reads p.consumer.rings ∧
      (final actions p).consumer.rings = p.consumer.rings := by
  induction actions generalizing p with
  | nil => exact ⟨.nil, rfl⟩
  | cons action rest ih =>
    have later := ih (action.perform p).1 (List.not_mem_of_not_mem_cons kept)
    rw [history_cons]
    cases action with
    | destroy => exact absurd List.mem_cons_self kept
    | push cpu items => exact later
    | poll timeout =>
      have rings := (p.consumer.poll_consumer timeout p.feed).2
      obtain ⟨reads, same⟩ := later
      refine ⟨(p.consumer.poll_reads timeout p.feed).append (rings ▸ reads), same.trans rings⟩

theorem run_noRings (actions : List Action) (p : Polling) (noRings : p.consumer.rings = []) :
    history actions p = [] ∧ (final actions p).consumer = p.consumer := by
  induction actions generalizing p with
  | nil => exact ⟨rfl, rfl⟩
  | cons action rest ih =>
    have here : (action.perform p).2 = [] ∧ (action.perform p).1.consumer = p.consumer := by
      cases action with
      | poll timeout =>
        rw [Action.perform, p.consumer.poll_noRings timeout p.feed noRings]
        exact ⟨rfl, rfl⟩
      | push cpu items => exact ⟨rfl, rfl⟩
      | destroy =>
        simp only [Action.perform, Consumer.destroy, noRings, List.isEmpty_nil, if_true, and_self]
    obtain ⟨quiet, same⟩ := here
    obtain ⟨later, last⟩ := ih (action.perform p).1 (by rw [same]; exact noRings)
    exact ⟨by rw [history_cons, quiet, later]; rfl, last.trans same⟩

theorem history_append (xs ys : List Action) (p : Polling) :
    history (xs ++ ys) p = history xs p ++ history ys (final xs p) := by
  induction xs generalizing p with
  | nil => rfl
  | cons action rest ih =>
    rw [List.cons_append, history_cons, ih, history_cons, List.append_assoc]
    rfl

theorem final_append (xs ys : List Action) (p : Polling) :
    final (xs ++ ys) p = final ys (final xs p) := List.foldl_append

structure Owned (c : Consumer) (feed : Feed) (actions : List Action) : Prop where
  kept : .destroy ∉ actions →
    (history actions ⟨c, feed⟩).Reads c.rings ∧
      (final actions ⟨c, feed⟩).consumer.dropped.ringCalls = c.rings.map .release
  destroyed : ∀ before after, actions = before ++ .destroy :: after → .destroy ∉ before →
    let p := final before ⟨c, feed⟩
    let last := final actions ⟨c, feed⟩
    history actions ⟨c, feed⟩ = history before ⟨c, feed⟩ ++ p.consumer.destroy.2 ∧
      (history before ⟨c, feed⟩).Reads c.rings ∧
      p.consumer.destroy.2.ringCalls = c.rings.map .release ∧
      last.consumer.dropped = [] ∧ last.consumer.stats = p.consumer.stats ∧
      ∀ timeout, last.consumer.poll timeout last.feed =
        ⟨.error Consumer.noRings, last.consumer, last.feed, []⟩
  whole : ∃ reading releasing : Journal,
    history actions ⟨c, feed⟩ ++ (final actions ⟨c, feed⟩).consumer.dropped =
        reading ++ releasing ∧
      reading.Reads c.rings ∧ releasing.ringCalls = c.rings.map .release

theorem kept_drops (c : Consumer) (feed : Feed) (actions : List Action)
    (kept : .destroy ∉ actions) :
    (final actions ⟨c, feed⟩).consumer.destroy.2.ringCalls = c.rings.map .release := by
  rw [Consumer.destroy_ringCalls, (run_reads actions ⟨c, feed⟩ kept).2]

theorem destroyed_quiet (before after : List Action) (p : Polling) :
    let q := final before p
    let last := final (before ++ .destroy :: after) p
    history (before ++ .destroy :: after) p = history before p ++ q.consumer.destroy.2 ∧
      last.consumer = { q.consumer with rings := [] } := by
  intro q last
  have dropped : (Action.destroy.perform q).1.consumer = { q.consumer with rings := [] } :=
    q.consumer.destroy_consumer
  obtain ⟨quiet, same⟩ := run_noRings after (Action.destroy.perform q).1 (by rw [dropped])
  constructor
  · rw [history_append, history_cons, quiet, List.append_nil]
    rfl
  · show (final (before ++ .destroy :: after) p).consumer = _
    rw [final_append]
    exact same.trans dropped

theorem run_owned (c : Consumer) (feed : Feed) (actions : List Action) :
    Owned c feed actions where
  kept kept := ⟨(run_reads actions ⟨c, feed⟩ kept).1, kept_drops c feed actions kept⟩
  destroyed before after split kept := by
    subst split
    obtain ⟨quiet, dropped⟩ := destroyed_quiet before after ⟨c, feed⟩
    refine ⟨quiet, (run_reads before ⟨c, feed⟩ kept).1, kept_drops c feed before kept, ?_, ?_, ?_⟩
    · rw [dropped]
      rfl
    · rw [dropped]
    · intro timeout
      exact Consumer.poll_noRings timeout _ _ (by rw [dropped])
  whole := by
    by_cases destroys : .destroy ∈ actions
    · obtain ⟨before, after, rfl, kept⟩ := List.eq_append_cons_of_mem destroys
      obtain ⟨quiet, dropped⟩ := destroyed_quiet before after ⟨c, feed⟩
      refine ⟨history before ⟨c, feed⟩, _, ?_, (run_reads before ⟨c, feed⟩ kept).1,
        kept_drops c feed before kept⟩
      rw [quiet, dropped]
      exact List.append_nil _
    · exact ⟨_, _, rfl, (run_reads actions ⟨c, feed⟩ destroys).1,
        kept_drops c feed actions destroys⟩

theorem rings_owned (channel : Channel) (pages : Nat) (decoder : Decoder) :
    Consumer.Creation channel pages decoder ∧
      ∀ c feed actions, Owned c feed actions :=
  ⟨Consumer.create_creation channel pages decoder, run_owned⟩

end Session

end FileTrace
