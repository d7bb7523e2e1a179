import FileTrace.Host
import FileTrace.Proofs.Lifecycle.Representation
import FileTrace.Scripted

namespace FileTrace

def ObjectCall.unnamed : ObjectCall → ObjectCall
  | .opening request answer => .opening request (answer.map fun _ => 0)
  | .lookup _ program found => .lookup 0 program found
  | .load _ program answer => .load 0 program answer
  | .attach _ program point answer => .attach 0 program point answer
  | .detach _ program link answer => .detach 0 program link answer
  | .takeChannel _ map answer => .takeChannel 0 map answer
  | .release _ => .release 0

def Entry.unnamed : Entry → Entry
  | .object call => .object call.unnamed
  | entry => entry

def Journal.unnamed (journal : Journal) : Journal := journal.map Entry.unnamed

theorem Journal.unnamed_append (xs ys : Journal) : unnamed (xs ++ ys) = xs.unnamed ++ ys.unnamed :=
  List.map_append

namespace Kernel

variable {W : Type}

def Agree {α : Type} (related : W → W → Prop) (x y : Except LifecycleError α × W) : Prop :=
  x.1 = y.1 ∧ related x.2 y.2

theorem Agree.split {α : Type} {related : W → W → Prop} {x y : Except LifecycleError α × W}
    (h : Agree related x y) :
    ∃ answer v v', x = (answer, v) ∧ y = (answer, v') ∧ related v v' := by
  obtain ⟨answer, v⟩ := x
  obtain ⟨answer', v'⟩ := y
  obtain ⟨rfl, worlds⟩ := h
  exact ⟨answer, v, v', rfl, rfl, worlds⟩

def Opens (idle : W → Prop) (alike : ObjectId → ObjectId → W → W → Prop) :
    Except LifecycleError ObjectId × W → Except LifecycleError ObjectId × W → Prop
  | (.error e, w), (.error e', w') => e = e' ∧ idle w ∧ idle w'
  | (.ok object, w), (.ok object', w') => alike object object' w w'
  | _, _ => False

/-- What is opened does not depend on the objects before it. Worlds in which no object is open are
`idle`; objects opened in any two of them are `alike`: they answer all calls alike from then on. -/
structure Forgets (k : Kernel W) (idle : W → Prop) (alike : ObjectId → ObjectId → W → W → Prop) :
    Prop where
  opening : ∀ request {w w'}, idle w → idle w' →
    Opens idle alike (k.openObject request w) (k.openObject request w')
  programs : ∀ {o o' w w'}, alike o o' w w' → k.programs o w = k.programs o' w'
  maps : ∀ {o o' w w'}, alike o o' w w' → k.maps o w = k.maps o' w'
  hasProgram : ∀ name {o o' w w'}, alike o o' w w' → k.hasProgram o name w = k.hasProgram o' name w'
  load : ∀ name {o o' w w'}, alike o o' w w' →
    Agree (alike o o') (k.load o name w) (k.load o' name w')
  attach : ∀ name point {o o' w w'}, alike o o' w w' →
    Agree (alike o o') (k.attach o name point w) (k.attach o' name point w')
  detach : ∀ name link {o o' w w'}, alike o o' w w' →
    Agree (alike o o') (k.detach o name link w) (k.detach o' name link w')
  takeChannel : ∀ name {o o' w w'}, alike o o' w w' →
    Agree (alike o o') (k.takeChannel o name w) (k.takeChannel o' name w')
  release : ∀ {o o' w w'}, alike o o' w w' → idle (k.release o w) ∧ idle (k.release o' w')

def same (live : W → Prop) (o o' : ObjectId) (w w' : W) : Prop := o = o' ∧ w = w' ∧ live w

theorem forgets_of_same {k : Kernel W} {idle live : W → Prop}
    (opening : ∀ request w w', idle w → idle w' →
      Opens idle (same live) (k.openObject request w) (k.openObject request w'))
    (load : ∀ o name w, live w → live (k.load o name w).2)
    (attach : ∀ o name point w, live w → live (k.attach o name point w).2)
    (detach : ∀ o name link w, live w → live (k.detach o name link w).2)
    (takeChannel : ∀ o name w, live w → live (k.takeChannel o name w).2)
    (release : ∀ o w, live w → idle (k.release o w)) : k.Forgets idle (same live) where
  opening request _ _ h h' := opening request _ _ h h'
  programs := by rintro _ _ _ _ ⟨rfl, rfl, _⟩; rfl
  maps := by rintro _ _ _ _ ⟨rfl, rfl, _⟩; rfl
  hasProgram _ := by rintro _ _ _ _ ⟨rfl, rfl, _⟩; rfl
  load _ := by rintro _ _ _ _ ⟨rfl, rfl, h⟩; exact ⟨rfl, rfl, rfl, load _ _ _ h⟩
  attach _ _ := by rintro _ _ _ _ ⟨rfl, rfl, h⟩; exact ⟨rfl, rfl, rfl, attach _ _ _ _ h⟩
  detach _ _ := by rintro _ _ _ _ ⟨rfl, rfl, h⟩; exact ⟨rfl, rfl, rfl, detach _ _ _ _ h⟩
  takeChannel _ := by rintro _ _ _ _ ⟨rfl, rfl, h⟩; exact ⟨rfl, rfl, rfl, takeChannel _ _ _ h⟩
  release := by rintro _ _ _ _ ⟨rfl, rfl, h⟩; exact ⟨release _ _ h, release _ _ h⟩

end Kernel

namespace Lifecycle

variable {W : Type} {k : Kernel W} {idle : W → Prop} {alike : ObjectId → ObjectId → W → W → Prop}
  {s s' : Lifecycle W}

inductive Twins (idle : W → Prop) (alike : ObjectId → ObjectId → W → W → Prop) :
    Lifecycle W → Lifecycle W → Prop where
  | without {w w' phase selected links} (h : idle w) (h' : idle w') :
      Twins idle alike ⟨w, phase, none, selected, links⟩ ⟨w', phase, none, selected, links⟩
  | holding {o o' w w' phase selected links} (notClosed : phase ≠ .closed) (same : alike o o' w w') :
      Twins idle alike ⟨w, phase, some o, selected, links⟩ ⟨w', phase, some o', selected, links⟩

theorem twins_fresh {w w' : W} (h : idle w) (h' : idle w') :
    Twins idle alike (fresh w) (fresh w') := .without h h'

structure TwinOutcomes {α : Type} (idle : W → Prop) (alike : ObjectId → ObjectId → W → W → Prop)
    (x y : Outcome W α) : Prop where
  result : x.result = y.result
  state : Twins idle alike x.state y.state
  journal : x.journal.unnamed = y.journal.unnamed

theorem TwinOutcomes.map {α β : Type} {x y : Outcome W α} (f : α → β)
    (h : TwinOutcomes idle alike x y) : TwinOutcomes idle alike (x.map f) (y.map f) :=
  ⟨congrArg (Except.map f) h.result, h.state, h.journal⟩

theorem twins_refuse {α : Type} (operation : Operation) (phase : Phase)
    (h : Twins idle alike s s') :
    TwinOutcomes idle alike (s.refuse operation phase : Outcome W α) (s'.refuse operation phase) :=
  ⟨rfl, h, rfl⟩

theorem twins_onObject {α : Type} {operation : Operation} {act act' : ObjectId → Outcome W α}
    (h : Twins idle alike s s')
    (acts : ∀ {o o' w w' phase selected links}, s = ⟨w, phase, some o, selected, links⟩ →
      s' = ⟨w', phase, some o', selected, links⟩ → phase ≠ .closed → alike o o' w w' →
      TwinOutcomes idle alike (act o) (act' o')) :
    TwinOutcomes idle alike (s.onObject operation act) (s'.onObject operation act') := by
  cases h with
  | @without w w' phase selected links h h' =>
    by_cases allowed : phase ∈ operation.allowed
    · simp only [onObject, allowed, if_true]
      exact twins_refuse operation .closed (.without h h')
    · simp only [onObject, allowed, if_false]
      exact twins_refuse operation phase (.without h h')
  | @holding o o' w w' phase selected links notClosed same =>
    by_cases allowed : phase ∈ operation.allowed
    · simp only [onObject, allowed, if_true]
      exact acts rfl rfl notClosed same
    · simp only [onObject, allowed, if_false]
      exact twins_refuse operation phase (.holding notClosed same)

theorem twins_openObject (forgets : k.Forgets idle alike) (request : OpenRequest)
    (h : Twins idle alike s s') :
    TwinOutcomes idle alike (s.openObject k request) (s'.openObject k request) := by
  cases h with
  | @holding o o' w w' phase selected links notClosed same =>
    have refused : ¬phase ∈ Operation.openObject.allowed :=
      fun allowed => notClosed (List.mem_singleton.mp allowed)
    simp only [openObject, refused, if_false]
    exact twins_refuse .openObject phase (.holding notClosed same)
  | @without w w' phase selected links h h' =>
    have opens := forgets.opening request h h'
    by_cases allowed : phase ∈ Operation.openObject.allowed
    · rcases answer : k.openObject request w with ⟨e | o, v⟩ <;>
        rcases answer' : k.openObject request w' with ⟨e' | o', v'⟩ <;>
        rw [answer, answer'] at opens <;>
        simp only [openObject, allowed, if_true, answer, answer']
      · obtain ⟨rfl, hv, hv'⟩ := opens
        exact ⟨rfl, .without hv hv', rfl⟩
      · exact opens.elim
      · exact opens.elim
      · have same : alike o o' v v' := opens
        rw [forgets.programs same, forgets.maps same]
        exact ⟨rfl, .holding (by decide) same, rfl⟩
    · simp only [openObject, allowed, if_false]
      exact twins_refuse .openObject phase (.without h h')

theorem twins_select (forgets : k.Forgets idle alike) (name : String)
    (h : Twins idle alike s s') :
    TwinOutcomes idle alike (s.select k name) (s'.select k name) := by
  refine twins_onObject h ?_
  rintro o o' w w' phase selected links rfl rfl notClosed same
  dsimp only
  rw [forgets.hasProgram name same]
  split
  · exact ⟨rfl, .holding notClosed same, rfl⟩
  · exact ⟨rfl, .holding notClosed same, rfl⟩

theorem twins_detachEach (forgets : k.Forgets idle alike) {o o' : ObjectId}
    (links : List (String × LinkId)) {w w' : W} (same : alike o o' w w') :
    alike o o' (detachEach k o links w).1 (detachEach k o' links w').1 ∧
      (detachEach k o links w).2.unnamed = (detachEach k o' links w').2.unnamed := by
  induction links generalizing w w' with
  | nil => exact ⟨same, rfl⟩
  | cons link rest ih =>
    obtain ⟨name, link⟩ := link
    obtain ⟨answers, later⟩ := forgets.detach name link same
    obtain ⟨rest, journal⟩ := ih later
    refine ⟨rest, ?_⟩
    simp only [detachEach, answers, Journal.unnamed, List.map_cons, List.map_append] at journal ⊢
    rw [journal]
    rfl

theorem twins_close (forgets : k.Forgets idle alike) (h : Twins idle alike s s') :
    Twins idle alike (s.close k).1 (s'.close k).1 ∧
      (s.close k).2.unnamed = (s'.close k).2.unnamed ∧
      idle (s.close k).1.kernel ∧ idle (s'.close k).1.kernel := by
  cases h with
  | without h h' => exact ⟨.without h h', rfl, h, h'⟩
  | @holding o o' w w' phase selected links notClosed same =>
    obtain ⟨detached, journal⟩ := twins_detachEach forgets links.reverse same
    obtain ⟨released, released'⟩ := forgets.release detached
    refine ⟨.without released released', ?_, released, released'⟩
    simp only [close, Journal.unnamed_append, journal]
    rfl

theorem twins_loadEach (forgets : k.Forgets idle alike) {o o' : ObjectId} (names : List String)
    {w w' : W} (same : alike o o' w w') :
    ∃ answer v v' xs xs', loadEach k o names w = (answer, v, xs) ∧
      loadEach k o' names w' = (answer, v', xs') ∧ alike o o' v v' ∧ xs.unnamed = xs'.unnamed := by
  induction names generalizing w w' with
  | nil => exact ⟨_, w, w', _, _, rfl, rfl, same, rfl⟩
  | cons name rest ih =>
    obtain ⟨answer, v, v', loaded, loaded', later⟩ := (forgets.load name same).split
    rw [loadEach, loaded, loadEach, loaded']
    cases answer with
    | error e => exact ⟨_, v, v', _, _, rfl, rfl, later, rfl⟩
    | ok =>
      obtain ⟨answer, u, u', xs, xs', more, more', last, journal⟩ := ih later
      simp only [more, more']
      refine ⟨answer, u, u', _, _, rfl, rfl, last, ?_⟩
      simp only [Journal.unnamed, List.map_cons, List.map_append] at journal ⊢
      rw [journal]
      rfl

theorem twins_load (forgets : k.Forgets idle alike) (h : Twins idle alike s s') :
    TwinOutcomes idle alike (s.load k) (s'.load k) := by
  refine twins_onObject h ?_
  rintro o o' w w' phase selected links rfl rfl notClosed same
  have twins {v v' : W} (same : alike o o' v v') :
      Twins idle alike ⟨v, phase, some o, selected, links⟩
        ⟨v', phase, some o', selected, links⟩ := .holding notClosed same
  by_cases empty : selected.isEmpty = true
  · obtain ⟨closed, journal, -, -⟩ := twins_close forgets (twins same)
    simp only [empty, if_true]
    exact ⟨rfl, closed, journal⟩
  · obtain ⟨answer, v, v', xs, xs', loaded, loaded', later, journal⟩ :=
      twins_loadEach forgets selected same
    simp only [empty, Bool.false_eq_true, if_false, loaded, loaded']
    cases answer with
    | ok => exact ⟨rfl, .holding (by decide) later, journal⟩
    | error e =>
      obtain ⟨closed, released, -, -⟩ := twins_close forgets (twins later)
      refine ⟨rfl, closed, ?_⟩
      rw [Journal.unnamed_append, Journal.unnamed_append, journal, released]

theorem twins_attach (forgets : k.Forgets idle alike) (program : SelectedProgram)
    (point : AttachPoint) (h : Twins idle alike s s') :
    TwinOutcomes idle alike (s.attach k program point) (s'.attach k program point) := by
  refine twins_onObject h ?_
  rintro o o' w w' phase selected links rfl rfl notClosed same
  by_cases chosen : program.name ∈ selected
  · obtain ⟨answer, v, v', attached, attached', later⟩ :=
      (forgets.attach program.name point same).split
    simp only [chosen, if_true, attached, attached']
    cases answer with
    | error e => exact ⟨rfl, .holding notClosed later, rfl⟩
    | ok link => exact ⟨rfl, .holding (by decide) later, rfl⟩
  · simp only [chosen, if_false]
    exact ⟨rfl, .holding notClosed same, rfl⟩

theorem twins_resolveMap (forgets : k.Forgets idle alike) (name : String)
    (h : Twins idle alike s s') :
    TwinOutcomes idle alike (s.resolveMap k name) (s'.resolveMap k name) := by
  refine twins_onObject h ?_
  rintro o o' w w' phase selected links rfl rfl notClosed same
  obtain ⟨answer, v, v', taken, taken', later⟩ := (forgets.takeChannel name same).split
  simp only [taken, taken']
  cases answer with
  | error e => exact ⟨rfl, .holding notClosed later, rfl⟩
  | ok channel => exact ⟨rfl, .holding notClosed later, rfl⟩

theorem twins_startPolling (h : Twins idle alike s s') :
    TwinOutcomes idle alike s.startPolling s'.startPolling := by
  cases h with
  | @without w w' phase selected links h h' =>
    by_cases allowed : phase ∈ Operation.startPolling.allowed <;>
      simp only [startPolling, allowed, if_true, if_false]
    · exact ⟨rfl, .without h h', rfl⟩
    · exact twins_refuse .startPolling phase (.without h h')
  | @holding o o' w w' phase selected links notClosed same =>
    by_cases allowed : phase ∈ Operation.startPolling.allowed <;>
      simp only [startPolling, allowed, if_true, if_false]
    · exact ⟨rfl, .holding (by decide) same, rfl⟩
    · exact twins_refuse .startPolling phase (.holding notClosed same)

theorem twins_perform (forgets : k.Forgets idle alike) (action : Action)
    (h : Twins idle alike s s') :
    TwinOutcomes idle alike (action.perform k s) (action.perform k s') := by
  cases action with
  | openObject request => exact (twins_openObject forgets request h).map _
  | select name => exact (twins_select forgets name h).map _
  | load => exact (twins_load forgets h).map _
  | attach program point => exact (twins_attach forgets program point h).map _
  | resolveMap name => exact (twins_resolveMap forgets name h).map _
  | startPolling => exact (twins_startPolling h).map _
  | close =>
    obtain ⟨closed, journal, -, -⟩ := twins_close forgets h
    exact ⟨rfl, closed, journal⟩
  | renew =>
    obtain ⟨-, journal, closed, closed'⟩ := twins_close forgets h
    exact ⟨rfl, twins_fresh closed closed', journal⟩

structure Observation where
  result : Except LifecycleError Answer
  phase : Phase
  attached : Nat
  programs : List String
  maps : List String
  journal : Journal

def observe (k : Kernel W) (o : Outcome W Answer) : Observation :=
  ⟨o.result, o.state.phase, o.state.attachedCount, o.state.programs k, o.state.maps k,
    o.journal.unnamed⟩

def observations (k : Kernel W) : List Action → Lifecycle W → List Observation
  | [], _ => []
  | action :: rest, s =>
    observe k (action.perform k s) :: observations k rest (action.perform k s).state

theorem TwinOutcomes.observe_eq (forgets : k.Forgets idle alike) {x y : Outcome W Answer}
    (h : TwinOutcomes idle alike x y) : observe k x = observe k y := by
  obtain ⟨result, state, journal⟩ := x
  obtain ⟨result', state', journal'⟩ := y
  obtain ⟨rfl, states, journals⟩ := h
  cases states with
  | without _ _ => exact congrArg (Observation.mk result _ _ _ _) journals
  | holding _ same =>
    simp only [observe, programs, maps, forgets.programs same, forgets.maps same]
    exact congrArg (Observation.mk result _ _ _ _) journals

theorem twins_final (forgets : k.Forgets idle alike) (actions : List Action)
    (h : Twins idle alike s s') : Twins idle alike (final k actions s) (final k actions s') := by
  induction actions generalizing s s' with
  | nil => exact h
  | cons action rest ih => exact ih (twins_perform forgets action h).state

theorem twins_observations (forgets : k.Forgets idle alike) (actions : List Action)
    (h : Twins idle alike s s') : observations k actions s = observations k actions s' := by
  induction actions generalizing s s' with
  | nil => rfl
  | cons action rest ih =>
    have step := twins_perform forgets action h
    rw [observations, observations, step.observe_eq forgets, ih step.state]

theorem final_append (k : Kernel W) (xs ys : List Action) (s : Lifecycle W) :
    final k (xs ++ ys) s = final k ys (final k xs s) := List.foldl_append

theorem Shaped.close_eq (h : Shaped s) (k : Kernel W) :
    (s.close k).1 = fresh (s.close k).1.kernel := by
  rw [close]
  split
  · rename_i unheld
    obtain ⟨-, noLinks⟩ := h.empty (h.object.mpr unheld)
    simp only [fresh, unheld, noLinks]
  · rfl

theorem close_resets (k : Kernel W) (forgets : k.Forgets idle alike) (past future : List Action)
    (ending : Action) (closes : ending = .close ∨ ending = .renew) (w w' : W) (h : idle w)
    (h' : idle w') :
    let s := final k (past ++ [ending]) (fresh w)
    observations k future s = observations k future (fresh w') ∧ s.close k = (s, []) := by
  intro s
  have shaped : Shaped (final k past (fresh w)) := shaped_final k past (shaped_fresh w)
  have reached : s = fresh ((final k past (fresh w)).close k).1.kernel := by
    show final k (past ++ [ending]) (fresh w) = _
    rw [final_append]
    rcases closes with rfl | rfl
    · exact shaped.close_eq k
    · rfl
  obtain ⟨-, -, released, -⟩ := twins_close forgets (twins_final forgets past (twins_fresh h h))
  rw [reached]
  exact ⟨twins_observations forgets future (twins_fresh released h'), rfl⟩

end Lifecycle

theorem Host.kernel_forgets (h : Host) :
    h.kernel.Forgets (fun _ => True) (Kernel.same fun _ => True) := by
  refine Kernel.forgets_of_same ?_ (fun _ _ _ => id) (fun _ _ _ _ => id) (fun _ _ _ _ => id)
    (fun _ _ _ => id) (fun _ _ => id)
  intro request w w' _ _
  simp only [Host.kernel, Host.openObject]
  cases h.openFile request with
  | error reason => exact ⟨rfl, trivial, trivial⟩
  | ok object => exact ⟨rfl, rfl, trivial⟩

namespace Scripted

theorem World.onOpened_script {α : Type} (w : World) (otherwise : α)
    (act : Opened → α × Opened) : (w.onOpened otherwise act).2.script = w.script := by
  rw [onOpened]
  split <;> rfl

theorem kernel_forgets (script : Script) :
    kernel.Forgets (fun w => w.script = script) (Kernel.same fun w => w.script = script) := by
  refine Kernel.forgets_of_same ?_ (fun _ _ _ h => ?_) (fun _ _ _ _ h => ?_)
    (fun _ _ _ _ h => ?_) (fun _ _ _ h => ?_) (fun _ _ h => h)
  · rintro request w w' h h'
    simp only [kernel, World.openObject, h, h']
    split
    · exact ⟨rfl, h, h'⟩
    · exact ⟨rfl, h, h'⟩
    · exact ⟨rfl, rfl, rfl⟩
  all_goals exact (World.onOpened_script _ _ _).trans h

end Scripted

theorem Lifecycle.close_resets_scripted :
    let script : Scripted.Script := [("a.o", .ok ⟨["p"], [], [], [("p", 1)], []⟩)]
    let start := Scripted.World.start script
    let session : List Action := [.openObject ⟨"a.o", none, false⟩, .select "p", .load,
      .attach ⟨"p"⟩ (.kprobe "f"), .attach ⟨"p"⟩ (.kprobe "f"), .startPolling]
    let s := final Scripted.kernel (session ++ [.close]) (fresh start)
    observations Scripted.kernel session s = observations Scripted.kernel session (fresh start) ∧
      s.close Scripted.kernel = (s, []) :=
  close_resets Scripted.kernel (Scripted.kernel_forgets _) _ _ .close (.inl rfl) _ _ rfl rfl

end FileTrace
