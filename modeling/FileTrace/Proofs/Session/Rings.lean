import FileTrace.Proofs.Consumer.Run
import FileTrace.Proofs.Session.Stages

namespace FileTrace

def Channel.opening (channel : Channel) (pages : Nat) (ring : CpuId × Nat) : RingCall :=
  .opening ring.1 pages (channel.openFault ring.2 ring.1)

def Channel.openings (channel : Channel) (pages : Nat) : List RingCall :=
  .cpus channel.cpus ::
    match channel.cpus with
    | .ok cpus => cpus.zipIdx.map (channel.opening pages)
    | .error _ => []

namespace Session

open Consumer

def ringsAcquired (cpus : List CpuId) : List Change := cpus.map fun cpu => .acquired (.ring cpu)

def ringsReleased (cpus : List CpuId) : List Change := cpus.map fun cpu => .released (.ring cpu)

structure OpensRings (channel : Channel) (pages place : Nat) (cpus : List CpuId)
    (answer : Except ConsumerError Unit) (opened : List CpuId) (journal : Journal) : Prop where
  changes : journal.changes = ringsAcquired opened
  unlisted : journal.listed = []
  calls : journal.objectCalls = []
  openings : journal.openings <+: (cpus.zipIdx place).map (channel.opening pages)
  all : answer = .ok () →
    opened = cpus ∧ Succeeds (cpus.map (.openRing · pages)) journal.attempts
  first : ∀ e, answer = .error e →
    FailsAt (cpus.map (.openRing · pages)) (.consumer e) journal.attempts

theorem openRings_opens (channel : Channel) (pages place : Nat) (cpus : List CpuId) :
    OpensRings channel pages place cpus (openRings channel pages place cpus).1
      (openRings channel pages place cpus).2.1 (openRings channel pages place cpus).2.2 := by
  induction cpus generalizing place with
  | nil => exact ⟨rfl, rfl, rfl, List.prefix_rfl, fun _ => ⟨rfl, rfl⟩, nofun⟩
  | cons cpu rest ih =>
    rcases fault : channel.openFault place cpu with - | reason
    · have later := ih (place + 1)
      simp only [openRings, fault]
      constructor
      · exact congrArg (.acquired (.ring cpu) :: ·) later.changes
      · exact later.unlisted
      · exact later.calls
      · rw [List.zipIdx_cons, List.map_cons, Channel.opening, fault]
        exact List.cons_prefix_cons.mpr ⟨rfl, later.openings⟩
      · intro ok
        obtain ⟨every, tried⟩ := later.all ok
        exact ⟨congrArg (cpu :: ·) every, congrArg ((Stage.openRing cpu pages).done :: ·) tried⟩
      · intro e failed
        have opened : Succeeds [.openRing cpu pages] [(Stage.openRing cpu pages).done] := rfl
        exact opened.failsAt (later.first e failed)
    · simp only [openRings, fault]
      constructor
      · rfl
      · rfl
      · rfl
      · rw [List.zipIdx_cons, List.map_cons, Channel.opening, fault]
        exact List.cons_prefix_cons.mpr ⟨rfl, List.nil_prefix⟩
      · exact nofun
      · intro e failed
        cases failed
        exact .first _ _

theorem releaseRings_settled (cpus : List CpuId) : (releaseRings cpus).Settled :=
  List.forall_mem_map.mpr fun _ _ => rfl

theorem releaseRings_objectCalls (cpus : List CpuId) : (releaseRings cpus).objectCalls = [] := by
  rw [releaseRings, Journal.objectCalls, List.filterMap_map]
  exact List.filterMap_eq_nil_iff.mpr fun _ _ => rfl

theorem releaseRings_changes (cpus : List CpuId) :
    (releaseRings cpus).changes = ringsReleased cpus := by
  induction cpus with
  | nil => rfl
  | cons cpu rest ih => exact congrArg (.released (.ring cpu) :: ·) ih

structure Creates (channel : Channel) (pages : Nat) (answer : Except ConsumerError Consumer)
    (journal : Journal) : Prop where
  calls : journal.objectCalls = []
  openings : journal.openings <+: channel.openings pages
  all : ∀ c, answer = .ok c → isPowerOfTwo pages = true ∧
    Succeeds (ringStages pages journal.listed) journal.attempts ∧
      journal.changes = ringsAcquired c.rings
  first : ∀ e, answer = .error e →
    Fails pages (ringStages pages journal.listed) (.consumer e) journal.attempts ∧
      ∃ opened, journal.changes = ringsAcquired opened ++ ringsReleased opened

theorem setbackText_polls (opened : Nat) (e : ConsumerError) : (setbackText opened e).Polls := by
  cases e with
  | ringNotOpened cpu reason => exact Journal.log_polls _ _ _
  | _ => exact .nil

-- The rings after the answer to the question for the processors.
theorem OpensRings.listing {channel : Channel} {pages : Nat} {cpus opened : List CpuId}
    {answer : Except ConsumerError Unit} {journal : Journal}
    (h : OpensRings channel pages 0 cpus answer opened journal)
    (listing : channel.cpus = .ok cpus) :
    let all : Journal := .ring (.cpus (.ok cpus)) :: journal
    all.listed = cpus ∧ all.objectCalls = [] ∧ all.openings <+: channel.openings pages := by
  refine ⟨?_, h.calls, ?_⟩
  · rw [← List.singleton_append, Journal.listed_append, h.unlisted]
    exact (List.append_nil _).trans (List.append_nil cpus)
  · rw [Channel.openings, listing]
    exact List.cons_prefix_cons.mpr ⟨rfl, h.openings⟩

section

variable {channel : Channel} {pages : Nat} {cpus opened : List CpuId} {journal : Journal}

theorem creates_invalid (invalid : ¬isPowerOfTwo pages = true) :
    Creates channel pages (.error (.invalidPageCount pages)) [] where
  calls := rfl
  openings := List.nil_prefix
  all := nofun
  first e failed := by
    cases failed
    rw [ringStages, if_neg invalid]
    exact ⟨.inr ⟨Bool.eq_false_iff.mpr invalid, rfl, rfl⟩, [], rfl⟩

theorem creates_unlisted {reason : String} (power : isPowerOfTwo pages = true)
    (listing : channel.cpus = .error reason) :
    Creates channel pages (.error (.cpusUnknown reason)) [.ring (.cpus (.error reason))] where
  calls := rfl
  openings := by
    rw [Channel.openings, listing]
    exact List.prefix_rfl
  all := nofun
  first e failed := by
    cases failed
    rw [ringStages, if_pos power]
    exact ⟨.inl (.first _ _), [], rfl⟩

theorem succeeds_listing : Succeeds [.listCpus] [Stage.listCpus.done] := rfl

theorem creates_setback {e : ConsumerError} (power : isPowerOfTwo pages = true)
    (listing : channel.cpus = .ok cpus)
    (opens : OpensRings channel pages 0 cpus (.error e) opened journal) :
    Creates channel pages (.error e)
      (.ring (.cpus (.ok cpus)) :: journal ++ (setbackText opened.length e ++
        releaseRings opened)) := by
  obtain ⟨listed, calls, openings⟩ := opens.listing listing
  have quiet := setbackText_polls opened.length e
  have settled := quiet.settled.append (releaseRings_settled opened)
  constructor
  · rw [Journal.objectCalls_append, calls, Journal.objectCalls_append, quiet.objectCalls_eq,
      releaseRings_objectCalls]
    rfl
  · rw [settled.openings_append]
    exact openings
  · exact nofun
  · intro e' failed
    cases failed
    rw [settled.listed_append, settled.attempts_append, listed, ringStages, if_pos power]
    refine ⟨.inl (succeeds_listing.failsAt (opens.first _ rfl)), opened, ?_⟩
    rw [Journal.changes_append, Journal.changes_append, quiet.changes_eq, releaseRings_changes]
    exact congrArg (· ++ ringsReleased opened) opens.changes

theorem creates_all (decoder : Decoder) (power : isPowerOfTwo pages = true)
    (listing : channel.cpus = .ok cpus)
    (opens : OpensRings channel pages 0 cpus (.ok ()) opened journal) :
    Creates channel pages (.ok ⟨opened, decoder, .zero⟩)
      (.ring (.cpus (.ok cpus)) :: journal ++
        Consumer.logged .info (openedText opened.length pages)) := by
  obtain ⟨listed, calls, openings⟩ := opens.listing listing
  obtain ⟨every, tried⟩ := opens.all rfl
  have quiet : (Consumer.logged .info (openedText opened.length pages)).Polls :=
    Journal.log_polls _ _ _
  have settled := quiet.settled
  constructor
  · rw [Journal.objectCalls_append, calls, quiet.objectCalls_eq]
    rfl
  · rw [settled.openings_append]
    exact openings
  · intro c created
    cases created
    rw [settled.listed_append, settled.attempts_append, listed, ringStages, if_pos power]
    refine ⟨power, succeeds_listing.append tried, ?_⟩
    rw [Journal.changes_append, quiet.changes_eq, List.append_nil]
    exact opens.changes
  · exact nofun

end

theorem create_creates (channel : Channel) (pages : Nat) (decoder : Decoder) :
    Creates channel pages (create channel pages decoder).1 (create channel pages decoder).2 := by
  rw [create]
  by_cases power : isPowerOfTwo pages = true
  · rw [if_pos power]
    rcases listing : channel.cpus with reason | cpus
    · exact creates_unlisted power listing
    · have opens := openRings_opens channel pages 0 cpus
      dsimp only
      rcases opening : openRings channel pages 0 cpus with ⟨e | ⟨⟩, opened, journal⟩
      · rw [opening] at opens
        dsimp only
        rw [List.append_assoc]
        exact creates_setback power listing opens
      · rw [opening] at opens
        exact creates_all decoder power listing opens
  · rw [if_neg power]
    exact creates_invalid power

theorem destroy_settled (c : Consumer) : c.destroy.2.Settled := by
  rw [destroy]
  split
  · exact .nil
  · exact (Journal.log_polls _ _ _).settled.append (releaseRings_settled c.rings)

theorem destroy_objectCalls (c : Consumer) : c.destroy.2.objectCalls = [] := by
  rw [destroy]
  split
  · rfl
  · exact releaseRings_objectCalls c.rings

theorem destroy_changes (c : Consumer) : c.destroy.2.changes = ringsReleased c.rings := by
  rw [destroy]
  split
  · rename_i empty
    rw [List.isEmpty_iff.mp empty]
    rfl
  · exact releaseRings_changes c.rings

theorem pollLoop_polls {timeout limit : Nat} {stop : Polling → Bool} {p last : Polling}
    {exit : Exit} {journal : Journal}
    (h : pollLoop timeout stop limit p = some (exit, last, journal)) :
    journal.Polls ∧ last.consumer.rings = p.consumer.rings := by
  induction limit generalizing p journal with
  | zero => cases h
  | succ limit ih =>
    have polls := p.consumer.poll_polling timeout p.feed
    have rings := (p.consumer.poll_consumer timeout p.feed).2
    rw [pollLoop] at h
    dsimp only at h
    split at h
    · cases h
      exact ⟨polls.append (Journal.log_polls _ _ _), rings⟩
    · split at h
      · cases h
        exact ⟨polls.append (Journal.log_polls _ _ _), rings⟩
      · obtain ⟨⟨exit', last', later⟩, looped, same⟩ := Option.map_eq_some_iff.mp h
        cases same
        obtain ⟨quiet, kept⟩ := ih looped
        exact ⟨polls.append quiet, kept.trans rings⟩

end Session

end FileTrace
