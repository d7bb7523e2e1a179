import FileTrace.Host
import FileTrace.Proofs.Lifecycle.Representation
import FileTrace.Scripted

namespace FileTrace

/-- The errors of the kernel are its own: it never answers that the phase is wrong. -/
structure Kernel.Phaseless {W : Type} (k : Kernel W) : Prop where
  opening : ∀ request w operation phase,
    (k.openObject request w).1 ≠ .error (.invalidState operation phase)
  load : ∀ object program w operation phase,
    (k.load object program w).1 ≠ .error (.invalidState operation phase)
  attach : ∀ object program point w operation phase,
    (k.attach object program point w).1 ≠ .error (.invalidState operation phase)
  takeChannel : ∀ object map w operation phase,
    (k.takeChannel object map w).1 ≠ .error (.invalidState operation phase)

inductive Operation.Leads : Operation → Phase → Phase → Prop where
  | openObject : Leads .openObject .closed .opened
  | select (phase : Phase) : Leads .select phase phase
  | load : Leads .load .opened .loaded
  | attach : Leads .attach .loaded .attached
  | attachMore : Leads .attach .attached .attached
  | resolveMap (phase : Phase) : Leads .resolveMap phase phase
  | startPolling : Leads .startPolling .attached .polling

namespace Lifecycle

variable {W α β : Type} {k : Kernel W} {s : Lifecycle W} {operation : Operation}

def Action.operation? : Action → Option Operation
  | .openObject _ => some .openObject
  | .select _ => some .select
  | .load => some .load
  | .attach _ _ => some .attach
  | .resolveMap _ => some .resolveMap
  | .startPolling => some .startPolling
  | .close => none
  | .renew => none

def Refused (result : Except LifecycleError α) : Prop :=
  ∃ operation phase, result = .error (.invalidState operation phase)

/-- A load that failed with an error: nothing was selected, or the programs were submitted up to the
one that was turned down. The object was released, and nothing is left of it in the state. -/
structure Abandons (s : Lifecycle W) (e : LifecycleError) (t : Lifecycle W) (journal : Journal) :
    Prop where
  emptied : t = fresh t.kernel
  calls : ∃ object, s.object = some object ∧
    ((s.selected = [] ∧ e = nothingSelected ∧ journal.objectCalls = [.release object]) ∨
      ∃ done program rest, s.selected = done ++ program :: rest ∧
        journal.objectCalls = done.map (.load object · (.ok ())) ++
          [.load object program (.error e), .release object])

structure Atomic (s : Lifecycle W) (operation : Operation) (o : Outcome W α) : Prop where
  refused_iff : Refused o.result ↔ s.phase ∉ operation.allowed
  refusal : s.phase ∉ operation.allowed → o = ⟨.error (.invalidState operation s.phase), s, []⟩
  unchanged : operation ≠ .load → ∀ e, o.result = .error e →
    o.state = { s with kernel := o.state.kernel }
  abandoned : operation = .load → ∀ e, o.result = .error e → ¬Refused o.result →
    Abandons s e o.state o.journal
  leads : ∀ a, o.result = .ok a → operation.Leads s.phase o.state.phase

theorem Refused.map_iff (f : α → β) {result : Except LifecycleError α} :
    Refused (result.map f) ↔ Refused result := by
  cases result with
  | error e => simp [Refused, Except.map]
  | ok a => exact ⟨nofun, nofun⟩

theorem Atomic.map {o : Outcome W α} (f : α → β) (h : Atomic s operation o) :
    Atomic s operation (o.map f) := by
  obtain ⟨e | a, t, journal⟩ := o
  · exact {
      refused_iff := (Refused.map_iff f).trans h.refused_iff
      refusal := fun notAllowed => congrArg (Outcome.map f) (h.refusal notAllowed)
      unchanged := fun notLoad e' failed => h.unchanged notLoad e rfl
      abandoned := fun isLoad e' failed notRefused => by
        cases failed
        exact h.abandoned isLoad e rfl ((Refused.map_iff f).not.mp notRefused)
      leads := nofun }
  · exact {
      refused_iff := (Refused.map_iff f).trans h.refused_iff
      refusal := fun notAllowed => congrArg (Outcome.map f) (h.refusal notAllowed)
      unchanged := fun _ => nofun
      abandoned := fun _ => nofun
      leads := fun _ _ => h.leads a rfl }

theorem atomic_refuse (notAllowed : s.phase ∉ operation.allowed) :
    Atomic s operation (s.refuse operation s.phase : Outcome W α) where
  refused_iff := iff_of_true ⟨operation, s.phase, rfl⟩ notAllowed
  refusal _ := rfl
  unchanged _ _ _ := rfl
  abandoned _ _ _ notRefused := absurd ⟨operation, s.phase, rfl⟩ notRefused
  leads := nofun

theorem atomic_failure {e : LifecycleError} {w : W} {journal : Journal}
    (allowed : s.phase ∈ operation.allowed) (notLoad : operation ≠ .load)
    (own : ∀ operation phase, e ≠ .invalidState operation phase) :
    Atomic s operation (⟨.error e, { s with kernel := w }, journal⟩ : Outcome W α) where
  refused_iff := iff_of_false
    (fun ⟨operation, phase, same⟩ => own operation phase (Except.error.inj same))
    (not_not_intro allowed)
  refusal notAllowed := absurd allowed notAllowed
  unchanged _ _ _ := rfl
  abandoned isLoad := absurd isLoad notLoad
  leads := nofun

theorem atomic_success {a : α} {t : Lifecycle W} {journal : Journal}
    (allowed : s.phase ∈ operation.allowed) (leads : operation.Leads s.phase t.phase) :
    Atomic s operation (⟨.ok a, t, journal⟩ : Outcome W α) where
  refused_iff := iff_of_false nofun (not_not_intro allowed)
  refusal notAllowed := absurd allowed notAllowed
  unchanged _ := nofun
  abandoned _ := nofun
  leads _ _ := leads

theorem atomic_openObject (own : k.Phaseless) (request : OpenRequest) (s : Lifecycle W) :
    Atomic s .openObject (s.openObject k request) := by
  rw [openObject]
  split
  · rename_i allowed
    have closed : s.phase = .closed := List.mem_singleton.mp allowed
    rcases answer : k.openObject request s.kernel with ⟨e | object, w⟩
    · refine atomic_failure allowed (by decide) fun operation phase same => ?_
      exact own.opening request s.kernel operation phase (by rw [answer, same])
    · refine atomic_success allowed ?_
      rw [closed]
      exact .openObject
  · rename_i notAllowed
    exact atomic_refuse notAllowed

theorem atomic_onObject (h : Shaped s) (notOpening : operation ≠ .openObject)
    (act : ObjectId → Outcome W α)
    (acts : ∀ object, s.phase ∈ operation.allowed → s.object = some object →
      Atomic s operation (act object)) :
    Atomic s operation (s.onObject operation act) := by
  by_cases allowed : s.phase ∈ operation.allowed
  · obtain ⟨object, held, same⟩ := h.onObject_eq notOpening allowed
    rw [same act]
    exact acts object allowed held
  · rw [onObject, if_neg allowed]
    exact atomic_refuse allowed

theorem atomic_select (h : Shaped s) (name : String) :
    Atomic s .select (s.select k name) := by
  refine atomic_onObject h (by decide) _ fun object allowed _ => ?_
  split
  · exact atomic_success allowed (.select _)
  · exact atomic_failure allowed (by decide) nofun

theorem loadEach_error {object : ObjectId} {e : LifecycleError} (names : List String) (w : W)
    (failed : (loadEach k object names w).1 = .error e) :
    ∃ done program rest, names = done ++ program :: rest ∧
      (loadEach k object names w).2.2.objectCalls =
        done.map (.load object · (.ok ())) ++ [.load object program (.error e)] ∧
      ∃ v, (k.load object program v).1 = .error e := by
  induction names generalizing w with
  | nil => cases failed
  | cons name rest ih =>
    rcases answer : k.load object name w with ⟨e' | ⟨⟩, v⟩
    · simp only [loadEach, answer] at failed ⊢
      cases failed
      exact ⟨[], name, rest, rfl, rfl, w, by rw [answer]⟩
    · simp only [loadEach, answer] at failed ⊢
      obtain ⟨done, program, others, rfl, calls, turnedDown⟩ := ih v failed
      have later := congrArg (ObjectCall.load object name (.ok ()) :: ·) calls
      exact ⟨name :: done, program, others, rfl, later, turnedDown⟩

theorem close_unlinked {object : ObjectId} (held : s.object = some object)
    (unlinked : s.links = []) :
    (s.close k).1 = fresh (s.close k).1.kernel ∧
      (s.close k).2.objectCalls = [.release object] := by
  simp only [close, held, unlinked, List.reverse_nil, detachEach]
  exact ⟨rfl, rfl⟩

theorem atomic_load (own : k.Phaseless) (h : Shaped s) : Atomic s .load (s.load k) := by
  refine atomic_onObject h (by decide) _ fun object allowed held => ?_
  have opened : s.phase = .opened := List.mem_singleton.mp allowed
  have unlinked : s.links = [] := h.unlinked (by rw [opened]; decide)
  by_cases empty : s.selected.isEmpty = true
  · obtain ⟨emptied, released⟩ := close_unlinked (k := k) held unlinked
    rw [if_pos empty]
    exact {
      refused_iff := iff_of_false nofun (not_not_intro allowed)
      refusal := fun notAllowed => absurd allowed notAllowed
      unchanged := fun notLoad => absurd rfl notLoad
      abandoned := fun _ e failed _ =>
        ⟨emptied, object, held, .inl ⟨List.isEmpty_iff.mp empty, by cases failed; rfl, released⟩⟩
      leads := nofun }
  · rw [if_neg empty]
    rcases loading : loadEach k object s.selected s.kernel with ⟨e | ⟨⟩, w, journal⟩
    · obtain ⟨done, program, rest, selected, calls, v, turnedDown⟩ :=
        loadEach_error s.selected s.kernel (congrArg (·.1) loading)
      obtain ⟨emptied, released⟩ :=
        close_unlinked (k := k) (s := { s with kernel := w }) held unlinked
      rw [loading] at calls
      exact {
        refused_iff := iff_of_false
          (fun ⟨operation, phase, same⟩ => own.load object program v operation phase
            (turnedDown.trans same))
          (not_not_intro allowed)
        refusal := fun notAllowed => absurd allowed notAllowed
        unchanged := fun notLoad => absurd rfl notLoad
        abandoned := fun _ e' failed _ => by
          cases failed
          refine ⟨emptied, object, held, .inr ⟨done, program, rest, selected, ?_⟩⟩
          rw [Journal.objectCalls_append, calls, released, List.append_assoc]
          rfl
        leads := nofun }
    · refine atomic_success allowed ?_
      rw [opened]
      exact .load

theorem atomic_attach (own : k.Phaseless) (h : Shaped s) (program : SelectedProgram)
    (point : AttachPoint) : Atomic s .attach (s.attach k program point) := by
  refine atomic_onObject h (by decide) _ fun object allowed _ => ?_
  split
  · rcases answer : k.attach object program.name point s.kernel with ⟨e | link, w⟩
    · refine atomic_failure allowed (by decide) fun operation phase same => ?_
      exact own.attach object program.name point s.kernel operation phase (by rw [answer, same])
    · refine atomic_success allowed ?_
      rcases List.mem_pair.mp allowed with loaded | attached
      · rw [loaded]
        exact .attach
      · rw [attached]
        exact .attachMore
  · exact atomic_failure allowed (by decide) nofun

theorem atomic_resolveMap (own : k.Phaseless) (h : Shaped s) (name : String) :
    Atomic s .resolveMap (s.resolveMap k name) := by
  refine atomic_onObject h (by decide) _ fun object allowed _ => ?_
  rcases answer : k.takeChannel object name s.kernel with ⟨e | channel, w⟩
  · refine atomic_failure allowed (by decide) fun operation phase same => ?_
    exact own.takeChannel object name s.kernel operation phase (by rw [answer, same])
  · exact atomic_success allowed (.resolveMap _)

theorem atomic_startPolling (s : Lifecycle W) : Atomic s .startPolling s.startPolling := by
  rw [startPolling]
  split
  · rename_i allowed
    refine atomic_success allowed ?_
    rw [List.mem_singleton.mp allowed]
    exact .startPolling
  · rename_i notAllowed
    exact atomic_refuse notAllowed

theorem atomic_perform (own : k.Phaseless) (h : Shaped s) (action : Action)
    (asks : action.operation? = some operation) :
    Atomic s operation (action.perform k s) := by
  cases action with
  | openObject request => cases asks; exact (atomic_openObject own request s).map _
  | select name => cases asks; exact (atomic_select h name).map _
  | load => cases asks; exact (atomic_load own h).map _
  | attach program point => cases asks; exact (atomic_attach own h program point).map _
  | resolveMap name => cases asks; exact (atomic_resolveMap own h name).map _
  | startPolling => cases asks; exact (atomic_startPolling s).map _
  | close => cases asks
  | renew => cases asks

theorem Atomic.again {o : Outcome W α} {o' : Outcome W β} (h : Atomic s operation o)
    (h' : Atomic o.state operation o') (notLoad : operation ≠ .load) {e : LifecycleError}
    (failed : o.result = .error e) :
    o.state.attachedCount = s.attachedCount ∧ (Refused o'.result ↔ Refused o.result) := by
  have same := h.unchanged notLoad e failed
  have phase : o.state.phase = s.phase := by rw [same]
  have links : o.state.links = s.links := by rw [same]
  refine ⟨congrArg List.length links, ?_⟩
  rw [h.refused_iff, h'.refused_iff, phase]

theorem run_atomic (k : Kernel W) (own : k.Phaseless) (past : List Action) (w : W)
    (action : Action) (operation : Operation) (asks : action.operation? = some operation) :
    let s := final k past (fresh w)
    let o := action.perform k s
    k.Answers s.kernel o.journal.objectCalls o.state.kernel ∧ Atomic s operation o ∧
      (operation ≠ .load → ∀ e, o.result = .error e → o.state.attachedCount = s.attachedCount ∧
        (Refused (action.perform k o.state).result ↔ Refused o.result)) := by
  intro s o
  have kept := keeps_run k past (show Fits (fresh w) none from rfl)
  have shaped : Shaped s := shaped_final k past (shaped_fresh w)
  have here : Atomic s operation o := atomic_perform own shaped action asks
  have there := atomic_perform own (shaped.moves (moves_perform k action s)) action asks
  exact ⟨(keeps_perform k action kept.fits).answers, here,
    fun notLoad e failed => here.again there notLoad failed⟩

end Lifecycle

theorem Host.onOpened_ne {α : Type} {w : Host.World} {otherwise x : α}
    {act : Host.Opened → α × Host.Opened} (empty : otherwise ≠ x) (held : ∀ o, (act o).1 ≠ x) :
    (Host.onOpened w otherwise act).1 ≠ x := by
  cases w with
  | none => exact empty
  | some o => exact held o

theorem Host.kernel_phaseless (h : Host) : h.kernel.Phaseless where
  opening request w operation phase := by
    simp only [Host.kernel, Host.openObject]
    split <;> nofun
  load object program w operation phase := by
    refine Host.onOpened_ne nofun fun o => ?_
    rw [Host.Opened.load]
    split
    · nofun
    · split <;> nofun
  attach object program point w operation phase := by
    refine Host.onOpened_ne nofun fun o => ?_
    rw [Host.Opened.attach]
    split
    · nofun
    · split <;> nofun
  takeChannel object map w operation phase := by
    refine Host.onOpened_ne nofun fun o => ?_
    rw [Host.Opened.takeChannel]
    split
    · nofun
    · dsimp only
      split <;> nofun

namespace Scripted

theorem World.onOpened_ne {α : Type} {w : World} {otherwise x : α} {act : Opened → α × Opened}
    (empty : otherwise ≠ x) (held : ∀ o, (act o).1 ≠ x) : (w.onOpened otherwise act).1 ≠ x := by
  rw [onOpened]
  split
  · exact empty
  · exact held _

theorem kernel_phaseless : kernel.Phaseless where
  opening request w operation phase := by
    simp only [kernel, World.openObject]
    split <;> nofun
  load object program w operation phase := by
    refine World.onOpened_ne nofun fun o => ?_
    show o.load program ≠ _
    rw [Opened.load]
    split <;> nofun
  attach object program point w operation phase := by
    refine World.onOpened_ne nofun fun o => ?_
    show (o.attach program point).1 ≠ _
    rw [Opened.attach]
    split <;> nofun
  takeChannel object map w operation phase := by
    refine World.onOpened_ne nofun fun o => ?_
    show (o.takeChannel map).1 ≠ _
    rw [Opened.takeChannel]
    split <;> nofun

end Scripted

theorem Lifecycle.run_atomic_second_rejected :
    let script : Scripted.Script :=
      [("a.o", .ok ⟨["p", "q", "r"], [], [("q", "rejected")], [], []⟩)]
    let past : List Action :=
      [.openObject ⟨"a.o", none, false⟩, .select "r", .select "q", .select "p"]
    let s := final Scripted.kernel past (fresh (Scripted.World.start script))
    let o := Action.load.perform Scripted.kernel s
    Scripted.kernel.Phaseless ∧ Action.load.operation? = some .load ∧
      o.result = .error (.loadFailed "q" "rejected") ∧
      Scripted.kernel.Answers s.kernel o.journal.objectCalls o.state.kernel ∧
      Atomic s .load o ∧ (Operation.load ≠ .load → ∀ e, o.result = .error e →
        o.state.attachedCount = s.attachedCount ∧
          (Refused (Action.load.perform Scripted.kernel o.state).result ↔ Refused o.result)) :=
  ⟨Scripted.kernel_phaseless, rfl, rfl,
    run_atomic Scripted.kernel Scripted.kernel_phaseless _ _ .load .load rfl⟩

end FileTrace
