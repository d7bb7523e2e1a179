import FileTrace.Proofs.Session.Preparation
import FileTrace.Proofs.Session.Rings
import FileTrace.Scripted

namespace FileTrace

def ObjectCall.submitted? : ObjectCall → Option String
  | .load _ program _ => some program
  | _ => none

def ObjectCall.attachment? : ObjectCall → Option (String × AttachPoint)
  | .attach _ program point _ => some (program, point)
  | _ => none

namespace Session

open Lifecycle

variable {W : Type} {k : Kernel W} {config : Config} {w : W} {s : Lifecycle W}
  {result : Except TraceError Summary} {before middle journal : Journal}

def Stage.submitted? : Stage → Option String
  | .load program => some program
  | _ => none

def Stage.attachment? : Stage → Option (String × AttachPoint)
  | .attach program point => some (program, point)
  | _ => none

-- What is read off the calls about objects is read off the stages that asked them.
theorem calls_begin {α : Type} {f : ObjectCall → Option α} {g : Stage → Option α} {cpus : List CpuId}
    (same : ∀ call, f call = (Entry.object call).attempt?.bind fun a => g a.stage)
    (listing : g .listCpus = none) (opening : ∀ cpu pages, g (.openRing cpu pages) = none)
    (begins : journal.attempts.map Attempt.stage <+: allStages config cpus) :
    journal.objectCalls.filterMap f <+: (objectStages config).filterMap g := by
  have each : ∀ entry : Entry,
      entry.objectCall?.bind f = entry.attempt?.bind fun a => g a.stage := by
    intro entry
    rcases entry with call | call | d | line
    · exact same call
    · cases call with
      | cpus answer => cases answer <;> exact listing.symm
      | opening cpu pages fault => cases fault <;> exact (opening cpu pages).symm
      | _ => rfl
    · rfl
    · rfl
  have calls : journal.objectCalls.filterMap f =
      (journal.attempts.map Attempt.stage).filterMap g := by
    rw [List.filterMap_map, Journal.objectCalls, Journal.attempts, List.filterMap_filterMap,
      List.filterMap_filterMap]
    exact List.filterMap_congr fun entry _ => each entry
  have rings : (ringStages config.pages cpus).filterMap g = [] := by
    rw [ringStages]
    split
    · simp [listing, opening]
    · rfl
  have starts := begins.filterMap g
  rw [allStages, List.filterMap_append, rings, List.append_nil] at starts
  rw [calls]
  exact starts

structure Orderly (k : Kernel W) (config : Config) (w : W) (report : Report W) : Prop where
  tried : Tried config.pages (allStages config report.journal.listed) report.result
    report.journal.attempts
  changes : ∃ held : Held, report.journal.changes =
    held.acquired config.target.program ++ held.released config.target.program
  answers : k.Answers w report.journal.objectCalls report.kernel
  openings : report.journal.openings = [] ∨ ∃ channel,
    (∃ object w w', k.takeChannel object Target.channel w = (.ok channel, w')) ∧
      report.journal.openings <+: channel.openings config.pages
  disciplined : Disciplined none report.journal.objectCalls ∧
    lifeAfter none report.journal.objectCalls = none
  submitted : report.journal.objectCalls.filterMap ObjectCall.submitted? <+: [config.target.program]
  attached : report.journal.objectCalls.filterMap ObjectCall.attachment? <+:
    [(config.target.program, config.target.attachPoint)]

-- All that is left to do is to close the lifecycle.
theorem orderly_of_closing (feed : Feed) (kept : Keeps k (fresh w) none s before)
    (quiet : middle.objectCalls = [])
    (tried : Tried config.pages (allStages config (before ++ middle).listed) result
      (before ++ middle).attempts)
    (changes : ∃ held : Held, (before ++ middle ++ (s.close k).2).changes =
      held.acquired config.target.program ++ held.released config.target.program)
    (openings : (before ++ middle).openings = [] ∨ ∃ channel,
      (∃ object w w', k.takeChannel object Target.channel w = (.ok channel, w')) ∧
        (before ++ middle).openings <+: channel.openings config.pages) :
    Orderly k config w ⟨result, (s.close k).1.kernel, feed, before ++ middle ++ (s.close k).2⟩ := by
  have settled := close_settled k s
  have closed := keeps_close k kept.fits
  have calls : (before ++ middle ++ (s.close k).2).objectCalls =
      before.objectCalls ++ (s.close k).2.objectCalls := by
    rw [Journal.objectCalls_append, Journal.objectCalls_append, quiet, List.append_nil]
  have all : Tried config.pages (allStages config (before ++ middle ++ (s.close k).2).listed) result
      (before ++ middle ++ (s.close k).2).attempts := by
    rw [settled.listed_append, settled.attempts_append]
    exact tried
  refine ⟨all, changes, ?_, ?_, ⟨?_, ?_⟩, ?_, ?_⟩
  · rw [calls]
    exact kept.answers.append closed.answers
  · rw [settled.openings_append]
    exact openings
  · rw [calls]
    exact kept.disciplined.append closed.disciplined
  · rw [calls, lifeAfter_append]
    exact lifeAfter_close k kept.fits
  · refine calls_begin (g := Stage.submitted?) (fun call => ?_) rfl (fun _ _ => rfl) all.begins
    cases call <;> rename_i answer <;> cases answer <;> rfl
  · refine calls_begin (g := Stage.attachment?) (fun call => ?_) rfl (fun _ _ => rfl) all.begins
    cases call <;> rename_i answer <;> cases answer <;> rfl

theorem Setback.orderly {e : LifecycleError} (feed : Feed)
    (h : Setback k config.target.program (objectStages config) .nothing e s before)
    (kept : Keeps k (fresh w) none s before) :
    Orderly k config w (abandon k (.lifecycle e) s feed before) := by
  have tried : Tried config.pages (allStages config (before ++ []).listed) (.error (.lifecycle e))
      (before ++ []).attempts := by
    rw [List.append_nil]
    exact .inl (h.attempts.append_right _)
  have changes : ∃ held : Held, (before ++ [] ++ (s.close k).2).changes =
      held.acquired config.target.program ++ held.released config.target.program := by
    rw [List.append_nil]
    exact h.changes
  have openings : (before ++ []).openings = [] := by rw [List.append_nil, h.unopened]
  have closing := orderly_of_closing feed kept rfl tried changes (.inl openings)
  rw [List.append_nil] at closing
  exact closing

structure Prepared (k : Kernel W) (config : Config) (w : W) (phase : Phase) (o : ObjectId)
    (link : LinkId) (channel : Channel) (s : Lifecycle W) (before : Journal) : Prop where
  state : ∃ w', s = ⟨w', phase, some o, [config.target.program], [(config.target.program, link)]⟩
  kept : Keeps k (fresh w) none s before
  taken : ∃ object w w', k.takeChannel object Target.channel w = (.ok channel, w')
  advanced : Advances config.target.program (objectStages config) .nothing (.link o link []) before

section Prepared

variable {phase : Phase} {o : ObjectId} {link : LinkId} {channel : Channel} {opening tail : Journal}

theorem Prepared.startPolling (h : Prepared k config w .attached o link channel s before) :
    s.startPolling.result = .ok () ∧
      Prepared k config w .polling o link channel s.startPolling.state before := by
  have polling := keeps_startPolling k h.kept.fits
  obtain ⟨w', rfl⟩ := h.state
  exact ⟨rfl, ⟨w', rfl⟩, ⟨h.kept.answers, h.kept.disciplined, polling.fits⟩, h.taken, h.advanced⟩

-- What comes after the opening of the rings and releases them does not count as setup.
theorem Prepared.orderly {answer : Except ConsumerError Consumer} (feed : Feed)
    (h : Prepared k config w phase o link channel s before)
    (created : Creates channel config.pages answer opening)
    (tried : Tried config.pages (ringStages config.pages opening.listed) result opening.attempts)
    (settled : tail.Settled) (quiet : tail.objectCalls = [])
    (rings : ∃ cpus, (opening ++ tail).changes = ringsAcquired cpus ++ ringsReleased cpus) :
    Orderly k config w ⟨result, (s.close k).1.kernel, feed,
      before ++ (opening ++ tail) ++ (s.close k).2⟩ := by
  obtain ⟨w', state⟩ := h.state
  obtain ⟨cpus, rings⟩ := rings
  refine orderly_of_closing feed h.kept ?_ ?_ ⟨.link o link cpus, ?_⟩ (.inr ⟨channel, h.taken, ?_⟩)
  · rw [Journal.objectCalls_append, created.calls, quiet]
    rfl
  · rw [← List.append_assoc, settled.listed_append, settled.attempts_append,
      Journal.listed_append, h.advanced.unlisted, Journal.attempts_append]
    exact h.advanced.attempts.tried tried
  · have acquired : before.changes = (Held.link o link []).acquired config.target.program :=
      h.advanced.changes
    rw [Journal.changes_append, Journal.changes_append, rings, acquired, state, close_changes]
    simp [Held.acquired, Held.released, Held.instrumentation, Held.rings, ringsAcquired,
      ringsReleased, Function.comp_def]
  · rw [← List.append_assoc, settled.openings_append, Journal.openings_append, h.advanced.unopened]
    exact created.openings

theorem Prepared.trace_orderly {c : Consumer} {stop : Polling → Bool} {limit : Polling → Nat}
    {feed : Feed} {report : Report W} (h : Prepared k config w .attached o link channel s before)
    (created : Creates channel config.pages (.ok c) opening)
    (traced : trace k config stop limit s ⟨c, feed⟩ (before ++ opening) = some report) :
    Orderly k config w report := by
  obtain ⟨started, polling⟩ := h.startPolling
  rw [trace] at traced
  dsimp only at traced
  rw [started] at traced
  obtain ⟨⟨exit, last, polls⟩, looped, rfl⟩ := Option.map_eq_some_iff.mp traced
  obtain ⟨polled, rings⟩ := pollLoop_polls looped
  obtain ⟨power, succeeds, acquired⟩ := created.all c rfl
  have tried : Tried config.pages (ringStages config.pages opening.listed)
      (.ok ⟨exit, last.consumer.stats⟩) opening.attempts := ⟨power, succeeds⟩
  have logs : (logged .info (tracingText config.target.attachPoint c.rings.length)).Polls :=
    Journal.log_polls _ _ _
  have quiet := logs.append polled
  have settled := quiet.settled.append (destroy_settled last.consumer)
  have calls := congrArg₂ (· ++ ·) quiet.objectCalls_eq (destroy_objectCalls last.consumer)
  have changes := congrArg₂ (· ++ ·) quiet.changes_eq (destroy_changes last.consumer)
  rw [← Journal.objectCalls_append] at calls
  rw [← Journal.changes_append, rings] at changes
  have orderly := polling.orderly last.feed created tried settled calls
    ⟨c.rings, by rw [Journal.changes_append, acquired, changes]; rfl⟩
  simp only [List.append_assoc] at orderly ⊢
  exact orderly

end Prepared

theorem run_orderly {running : Except String Release} {stop : Polling → Bool}
    {limit : Polling → Nat} {feed : Feed} {report : Report W}
    (h : run k running config stop limit w feed = some report) : Orderly k config w report := by
  have tries := prepare_tries k running config w
  have kept := prepare_keeps k running config (show Fits (fresh w) none from rfl)
  rw [run] at h
  dsimp only at h
  rw [Tries] at tries
  generalize prepare k running config (fresh w) = preparation at h tries kept
  obtain ⟨e | ⟨channel, decoder⟩, s, before⟩ := preparation
  · cases h
    exact tries.orderly feed kept
  · obtain ⟨held, advanced, o, taken, w', link, state, rfl⟩ := tries
    have prepared : Prepared k config w .attached o link channel s before :=
      ⟨⟨w', state⟩, kept, ⟨o, taken⟩, advanced⟩
    have creates := create_creates channel config.pages decoder
    dsimp only at h
    generalize Consumer.create channel config.pages decoder = created at h creates
    obtain ⟨e | c, opening⟩ := created
    · cases h
      obtain ⟨fails, opened, changes⟩ := creates.first e rfl
      have tried : Tried config.pages (ringStages config.pages opening.listed)
          (.error (.consumer e)) opening.attempts := fails
      have orderly := prepared.orderly (feed.fill channel.backlog) creates tried .nil rfl
        ⟨opened, by rw [List.append_nil]; exact changes⟩
      rw [List.append_nil] at orderly
      exact orderly
    · exact prepared.trace_orderly creates h

def unlucky : Scripted.World :=
  .start [("trace.o", .ok {
    programs := [Target.sync.program]
    maps := [(Target.channel,
      .channel ⟨.ok [⟨0⟩, ⟨1⟩], fun _ _ => none, [(⟨1⟩, [.waitError "interrupted"])]⟩)]
    loadFaults := []
    attachFaults := []
    detachFaults := [(Target.sync.program, "busy")] })]

theorem run_orderly_unlucky :
    let config : Config := ⟨⟨"trace.o", none, false⟩, .sync, 64, 100, .fixed .current⟩
    ∃ report, run Scripted.kernel (.error "unknown") config (fun _ => false) (fun _ => 1) unlucky
        (.start []) = some report ∧
      report.journal.changes.length = 8 ∧ Orderly Scripted.kernel config unlucky report := by
  intro config
  have changes : (run Scripted.kernel (.error "unknown") config (fun _ => false) (fun _ => 1)
      unlucky (.start [])).map (·.journal.changes.length) = some 8 := by decide +kernel
  obtain ⟨report, h, length⟩ := Option.map_eq_some_iff.mp changes
  exact ⟨report, h, length, run_orderly h⟩

end Session

end FileTrace
