import FileTrace.Proofs.Consumer.Batches
import FileTrace.Proofs.Lifecycle.Life
import FileTrace.Session

namespace FileTrace

namespace Session

inductive Stage where
  | openObject (request : OpenRequest)
  | select (program : String)
  | load (program : String)
  | attach (program : String) (point : AttachPoint)
  | resolveMap (name : String)
  | listCpus
  | openRing (cpu : CpuId) (pages : Nat)
  deriving DecidableEq

structure Attempt where
  stage : Stage
  fault : Option TraceError

def Stage.done (stage : Stage) : Attempt := ⟨stage, none⟩

def Stage.met {α : Type} (stage : Stage) : Except LifecycleError α → Attempt
  | .ok _ => stage.done
  | .error e => ⟨stage, some (.lifecycle e)⟩

inductive Holding where
  | object (object : ObjectId)
  | link (object : ObjectId) (program : String) (link : LinkId)
  | ring (cpu : CpuId)

inductive Change where
  | acquired (holding : Holding)
  | released (holding : Holding)

end Session

open Session

def Entry.attempt? : Entry → Option Attempt
  | .object (.opening request answer) => some ((Stage.openObject request).met answer)
  | .object (.lookup _ program true) => some (Stage.select program).done
  | .object (.lookup _ program false) =>
    some ⟨.select program, some (.lifecycle (.programNotFound program))⟩
  | .object (.load _ program answer) => some ((Stage.load program).met answer)
  | .object (.attach _ program point answer) => some ((Stage.attach program point).met answer)
  | .object (.takeChannel _ name answer) => some ((Stage.resolveMap name).met answer)
  | .ring (.cpus (.ok _)) => some Stage.listCpus.done
  | .ring (.cpus (.error reason)) => some ⟨.listCpus, some (.consumer (.cpusUnknown reason))⟩
  | .ring (.opening cpu pages none) => some (Stage.openRing cpu pages).done
  | .ring (.opening cpu pages (some reason)) =>
    some ⟨.openRing cpu pages, some (.consumer (.ringNotOpened cpu reason))⟩
  | _ => none

def Entry.change? : Entry → Option Change
  | .object (.opening _ (.ok o)) => some (.acquired (.object o))
  | .object (.attach o program _ (.ok link)) => some (.acquired (.link o program link))
  | .object (.detach o program link _) => some (.released (.link o program link))
  | .object (.release o) => some (.released (.object o))
  | .ring (.opening cpu _ none) => some (.acquired (.ring cpu))
  | .ring (.release cpu) => some (.released (.ring cpu))
  | _ => none

def Entry.listed? : Entry → Option (List CpuId)
  | .ring (.cpus (.ok cpus)) => some cpus
  | _ => none

def Entry.opening? : Entry → Option RingCall
  | .ring (.cpus answer) => some (.cpus answer)
  | .ring (.opening cpu pages fault) => some (.opening cpu pages fault)
  | _ => none

def Entry.settled : Entry → Bool
  | .object (.detach _ _ _ _) => true
  | .object (.release _) => true
  | .object _ => false
  | .ring (.cpus _) => false
  | .ring (.opening _ _ _) => false
  | _ => true

theorem Entry.asks_nothing {entry : Entry} (settled : entry.settled = true) :
    entry.attempt? = none ∧ entry.listed? = none ∧ entry.opening? = none := by
  cases entry with
  | object call => cases call <;> first | exact ⟨rfl, rfl, rfl⟩ | cases settled
  | ring call => cases call <;> first | exact ⟨rfl, rfl, rfl⟩ | cases settled
  | delivery d => exact ⟨rfl, rfl, rfl⟩
  | log line => exact ⟨rfl, rfl, rfl⟩

namespace Journal

def attempts (journal : Journal) : List Attempt := journal.filterMap Entry.attempt?

def changes (journal : Journal) : List Change := journal.filterMap Entry.change?

def listed (journal : Journal) : List CpuId := (journal.filterMap Entry.listed?).flatten

def openings (journal : Journal) : List RingCall := journal.filterMap Entry.opening?

def Settled (journal : Journal) : Prop := ∀ entry ∈ journal, entry.settled = true

theorem attempts_append (xs ys : Journal) : attempts (xs ++ ys) = xs.attempts ++ ys.attempts :=
  List.filterMap_append

theorem changes_append (xs ys : Journal) : changes (xs ++ ys) = xs.changes ++ ys.changes :=
  List.filterMap_append

theorem listed_append (xs ys : Journal) : listed (xs ++ ys) = xs.listed ++ ys.listed := by
  rw [listed, List.filterMap_append, List.flatten_append]
  rfl

theorem openings_append (xs ys : Journal) : openings (xs ++ ys) = xs.openings ++ ys.openings :=
  List.filterMap_append

theorem Settled.nil : Settled [] := List.forall_mem_nil _

theorem Settled.append {xs ys : Journal} (hx : xs.Settled) (hy : ys.Settled) :
    Settled (xs ++ ys) := by
  intro entry h
  rcases List.mem_append.mp h with h | h
  · exact hx entry h
  · exact hy entry h

theorem Settled.attempts_eq {journal : Journal} (h : journal.Settled) : journal.attempts = [] :=
  List.filterMap_eq_nil_iff.mpr fun entry he => (Entry.asks_nothing (h entry he)).1

theorem Settled.listed_eq {journal : Journal} (h : journal.Settled) : journal.listed = [] := by
  have unlisted : journal.filterMap Entry.listed? = [] :=
    List.filterMap_eq_nil_iff.mpr fun entry he => (Entry.asks_nothing (h entry he)).2.1
  rw [listed, unlisted]
  rfl

theorem Settled.openings_eq {journal : Journal} (h : journal.Settled) : journal.openings = [] :=
  List.filterMap_eq_nil_iff.mpr fun entry he => (Entry.asks_nothing (h entry he)).2.2

theorem Settled.attempts_append {ys : Journal} (h : ys.Settled) (xs : Journal) :
    attempts (xs ++ ys) = xs.attempts := by
  rw [Journal.attempts_append, h.attempts_eq, List.append_nil]

theorem Settled.listed_append {ys : Journal} (h : ys.Settled) (xs : Journal) :
    listed (xs ++ ys) = xs.listed := by
  rw [Journal.listed_append, h.listed_eq, List.append_nil]

theorem Settled.openings_append {ys : Journal} (h : ys.Settled) (xs : Journal) :
    openings (xs ++ ys) = xs.openings := by
  rw [Journal.openings_append, h.openings_eq, List.append_nil]

theorem Polls.settled {journal : Journal} (h : journal.Polls) : journal.Settled := by
  intro entry he
  have polling := h entry he
  cases entry with
  | object call => cases polling
  | ring call => cases call <;> first | rfl | cases polling
  | delivery d => rfl
  | log line => rfl

theorem Polls.objectCalls_eq {journal : Journal} (h : journal.Polls) :
    journal.objectCalls = [] := by
  refine List.filterMap_eq_nil_iff.mpr fun entry he => ?_
  have polling := h entry he
  cases entry with
  | object call => cases polling
  | ring call => rfl
  | delivery d => rfl
  | log line => rfl

theorem Polls.changes_eq {journal : Journal} (h : journal.Polls) : journal.changes = [] := by
  refine List.filterMap_eq_nil_iff.mpr fun entry he => ?_
  have polling := h entry he
  cases entry with
  | object call => cases polling
  | ring call => cases call <;> first | rfl | cases polling
  | delivery d => rfl
  | log line => rfl

end Journal

namespace Session

def objectStages (config : Config) : List Stage :=
  [.openObject config.request, .select config.target.program, .load config.target.program,
    .attach config.target.program config.target.attachPoint, .resolveMap Target.channel]

def ringStages (pages : Nat) (cpus : List CpuId) : List Stage :=
  if Consumer.isPowerOfTwo pages then .listCpus :: cpus.map (.openRing · pages) else []

def allStages (config : Config) (cpus : List CpuId) : List Stage :=
  objectStages config ++ ringStages config.pages cpus

def Succeeds (stages : List Stage) (attempts : List Attempt) : Prop :=
  attempts = stages.map Stage.done

def FailsAt (stages : List Stage) (e : TraceError) (attempts : List Attempt) : Prop :=
  ∃ done stage rest, stages = done ++ stage :: rest ∧
    attempts = done.map Stage.done ++ [⟨stage, some e⟩]

def Fails (pages : Nat) (stages : List Stage) (e : TraceError) (attempts : List Attempt) : Prop :=
  FailsAt stages e attempts ∨
    Consumer.isPowerOfTwo pages = false ∧ e = .consumer (.invalidPageCount pages) ∧
      Succeeds stages attempts

def Tried (pages : Nat) (stages : List Stage) (result : Except TraceError Summary)
    (attempts : List Attempt) : Prop :=
  match result with
  | .ok _ => Consumer.isPowerOfTwo pages = true ∧ Succeeds stages attempts
  | .error e => Fails pages stages e attempts

theorem Succeeds.append {xs ys : List Stage} {before after : List Attempt}
    (hx : Succeeds xs before) (hy : Succeeds ys after) :
    Succeeds (xs ++ ys) (before ++ after) := by
  rw [Succeeds, List.map_append, hx, hy]

theorem FailsAt.append_right {xs : List Stage} {e : TraceError} {attempts : List Attempt}
    (h : FailsAt xs e attempts) (ys : List Stage) : FailsAt (xs ++ ys) e attempts := by
  obtain ⟨done, stage, rest, rfl, tried⟩ := h
  exact ⟨done, stage, rest ++ ys, by simp, tried⟩

theorem Succeeds.failsAt {xs ys : List Stage} {e : TraceError} {before after : List Attempt}
    (hx : Succeeds xs before) (hy : FailsAt ys e after) :
    FailsAt (xs ++ ys) e (before ++ after) := by
  obtain ⟨done, stage, rest, rfl, rfl⟩ := hy
  rw [Succeeds] at hx
  exact ⟨xs ++ done, stage, rest, by simp, by simp [hx]⟩

theorem FailsAt.first {stage : Stage} (e : TraceError) (rest : List Stage) :
    FailsAt (stage :: rest) e [⟨stage, some e⟩] := ⟨[], stage, rest, rfl, rfl⟩

theorem Succeeds.tried {xs ys : List Stage} {pages : Nat} {result : Except TraceError Summary}
    {before after : List Attempt} (hx : Succeeds xs before) (hy : Tried pages ys result after) :
    Tried pages (xs ++ ys) result (before ++ after) := by
  cases result with
  | ok summary => exact ⟨hy.1, hx.append hy.2⟩
  | error e =>
    rcases (show Fails pages ys e after from hy) with hy | ⟨power, error, hy⟩
    · exact .inl (hx.failsAt hy)
    · exact .inr ⟨power, error, hx.append hy⟩

theorem Succeeds.begins {stages : List Stage} {attempts : List Attempt}
    (h : Succeeds stages attempts) : attempts.map Attempt.stage <+: stages := by
  have same : Attempt.stage ∘ Stage.done = id := rfl
  refine ⟨[], ?_⟩
  rw [List.append_nil, h, List.map_map, same, List.map_id]

theorem FailsAt.begins {stages : List Stage} {e : TraceError} {attempts : List Attempt}
    (h : FailsAt stages e attempts) : attempts.map Attempt.stage <+: stages := by
  obtain ⟨done, stage, rest, rfl, rfl⟩ := h
  refine ⟨rest, ?_⟩
  simp [Stage.done, Function.comp_def]

theorem Tried.begins {pages : Nat} {stages : List Stage} {result : Except TraceError Summary}
    {attempts : List Attempt} (h : Tried pages stages result attempts) :
    attempts.map Attempt.stage <+: stages := by
  cases result with
  | ok summary => exact h.2.begins
  | error e =>
    rcases (show Fails pages stages e attempts from h) with h | ⟨-, -, h⟩
    · exact h.begins
    · exact h.begins

inductive Held where
  | nothing
  | object (object : ObjectId)
  | link (object : ObjectId) (link : LinkId) (rings : List CpuId)

namespace Held

def instrumentation (program : String) : Held → List Holding
  | .nothing => []
  | .object o => [.object o]
  | .link o l _ => [.object o, .link o program l]

def rings : Held → List Holding
  | .link _ _ cpus => cpus.map .ring
  | _ => []

def acquired (program : String) (h : Held) : List Change :=
  (h.instrumentation program ++ h.rings).map .acquired

def released (program : String) (h : Held) : List Change :=
  (h.rings ++ (h.instrumentation program).reverse).map .released

end Held

end Session

end FileTrace
