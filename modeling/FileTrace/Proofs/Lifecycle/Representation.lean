import FileTrace.Proofs.Lifecycle.Discipline

namespace FileTrace.Lifecycle

variable {W : Type} {s t : Lifecycle W}

inductive Moves (s : Lifecycle W) : Lifecycle W → Prop where
  | stay (w : W) : Moves s { s with kernel := w }
  | opening (w : W) (object : ObjectId) (closed : s.phase = .closed) :
      Moves s { s with kernel := w, object := some object, phase := .opened }
  | select (name : String) (opened : s.phase = .opened) :
      Moves s { s with selected := Names.insert name s.selected }
  | load (w : W) (opened : s.phase = .opened) (chosen : s.selected ≠ []) :
      Moves s { s with kernel := w, phase := .loaded }
  | attach (w : W) (name : String) (link : LinkId) (allowed : s.phase ∈ Operation.attach.allowed)
      (selected : name ∈ s.selected) :
      Moves s { s with kernel := w, phase := .attached, links := s.links ++ [(name, link)] }
  | startPolling (attached : s.phase = .attached) : Moves s { s with phase := .polling }
  | release (w : W) : Moves s (fresh w)
  | clear (w : W) (unheld : s.object = none) :
      Moves s { s with kernel := w, phase := .closed, selected := [] }

theorem moves_same : Moves s s := .stay s.kernel

theorem moves_close (k : Kernel W) : Moves s (s.close k).1 := by
  rw [close]
  split
  · rename_i unheld
    exact .clear s.kernel unheld
  · exact .release _

theorem moves_onObject {α : Type} (operation : Operation) (act : ObjectId → Outcome W α)
    (acts : ∀ object, s.phase ∈ operation.allowed → s.object = some object →
      Moves s (act object).state) :
    Moves s (s.onObject operation act).state := by
  rw [onObject]
  split
  · rename_i allowed
    split
    · rename_i object held
      exact acts object allowed held
    · exact moves_same
  · exact moves_same

theorem moves_load (k : Kernel W) : Moves s (s.load k).state := by
  refine moves_onObject .load _ fun object allowed held => ?_
  have opened : s.phase = .opened := List.mem_singleton.mp allowed
  have closes (w : W) : Moves s (close k { s with kernel := w }).1 := by
    simp only [close, held]
    exact .release _
  by_cases empty : s.selected.isEmpty = true
  · rw [if_pos empty]
    exact closes s.kernel
  · rw [if_neg empty]
    rcases loadEach k object s.selected s.kernel with ⟨e | ⟨⟩, w, journal⟩
    · exact closes w
    · exact .load w opened (by simpa using empty)

theorem moves_perform (k : Kernel W) (action : Action) (s : Lifecycle W) :
    Moves s (action.perform k s).state := by
  cases action with
  | openObject request =>
    simp only [Action.perform, Outcome.map, openObject]
    split
    · rename_i allowed
      rcases k.openObject request s.kernel with ⟨e | object, w⟩
      · exact .stay w
      · exact .opening w object (List.mem_singleton.mp allowed)
    · exact moves_same
  | select name =>
    show Moves s (s.select k name).state
    refine moves_onObject .select _ fun object allowed _ => ?_
    split
    · exact .select name (List.mem_singleton.mp allowed)
    · exact moves_same
  | load => exact moves_load k
  | attach program point =>
    show Moves s (s.attach k program point).state
    refine moves_onObject .attach _ fun object allowed _ => ?_
    split
    · rename_i selected
      rcases k.attach object program.name point s.kernel with ⟨e | link, w⟩
      · exact .stay w
      · exact .attach w program.name link allowed selected
    · exact moves_same
  | resolveMap name =>
    show Moves s (s.resolveMap k name).state
    refine moves_onObject .resolveMap _ fun object _ _ => ?_
    rcases k.takeChannel object name s.kernel with ⟨e | channel, w⟩ <;> exact .stay w
  | startPolling =>
    simp only [Action.perform, Outcome.map, startPolling]
    split
    · rename_i allowed
      exact .startPolling (List.mem_singleton.mp allowed)
    · exact moves_same
  | close => exact moves_close k
  | renew => exact .release _

structure Shaped (s : Lifecycle W) : Prop where
  object : s.phase = .closed ↔ s.object = none
  empty : s.phase = .closed → s.selected = [] ∧ s.links = []
  unlinked : s.phase ∈ [.opened, .loaded] → s.links = []
  linked : s.phase ∈ [.attached, .polling] → s.links ≠ []
  chosen : s.phase ∈ [.loaded, .attached, .polling] → s.selected ≠ []
  among : ∀ link ∈ s.links, link.1 ∈ s.selected

theorem shaped_fresh (w : W) : (fresh w).Shaped where
  object := ⟨fun _ => rfl, fun _ => rfl⟩
  empty _ := ⟨rfl, rfl⟩
  unlinked _ := rfl
  linked := by simp [fresh]
  chosen := by simp [fresh]
  among := nofun

theorem shaped_attached (phase : s.phase ∈ [.attached, .polling]) (held : s.object ≠ none)
    (linked : s.links ≠ []) (chosen : s.selected ≠ [])
    (among : ∀ link ∈ s.links, link.1 ∈ s.selected) : Shaped s where
  object := iff_of_false (fun closed => absurd (closed ▸ phase) (by decide)) held
  empty closed := absurd (closed ▸ phase) (by decide)
  unlinked early := by
    simp only [List.mem_cons, List.not_mem_nil, or_false] at phase early
    rcases phase with phase | phase <;> simp [phase] at early
  linked _ := linked
  chosen _ := chosen
  among := among

theorem Shaped.held (h : Shaped s) (notClosed : s.phase ≠ .closed) : s.object ≠ none :=
  fun unheld => notClosed (h.object.mpr unheld)

theorem Shaped.moves (h : Shaped s) (step : Moves s t) : Shaped t := by
  cases step with
  | stay w => exact ⟨h.object, h.empty, h.unlinked, h.linked, h.chosen, h.among⟩
  | opening w object closed =>
    obtain ⟨-, noLinks⟩ := h.empty closed
    exact {
      object := ⟨Phase.noConfusion, nofun⟩
      empty := Phase.noConfusion
      unlinked := fun _ => noLinks
      linked := by simp
      chosen := by simp
      among := h.among }
  | select name opened =>
    have noLinks : s.links = [] := h.unlinked (by rw [opened]; decide)
    exact {
      object := h.object
      empty := fun closed => absurd (opened.symm.trans closed) (by decide)
      unlinked := h.unlinked
      linked := h.linked
      chosen := fun later => absurd (opened ▸ later) (by decide)
      among := fun link hl => absurd (noLinks ▸ hl) List.not_mem_nil }
  | load w opened chosen =>
    have held := h.held (by rw [opened]; decide)
    exact {
      object := ⟨Phase.noConfusion, fun unheld => absurd unheld held⟩
      empty := Phase.noConfusion
      unlinked := fun _ => h.unlinked (by rw [opened]; decide)
      linked := by simp
      chosen := fun _ => chosen
      among := h.among }
  | attach w name link allowed selected =>
    have held : s.object ≠ none := h.held fun closed => absurd (closed ▸ allowed) (by decide)
    refine shaped_attached List.mem_cons_self held
      (List.append_ne_nil_of_right_ne_nil _ (List.cons_ne_nil _ _)) (List.ne_nil_of_mem selected)
      fun l hl => ?_
    rcases List.mem_append.mp hl with earlier | new
    · exact h.among l earlier
    · rw [List.mem_singleton.mp new]
      exact selected
  | startPolling attached =>
    have held := h.held (by rw [attached]; decide)
    exact shaped_attached (List.mem_cons_of_mem _ List.mem_cons_self) held
      (h.linked (by rw [attached]; decide)) (h.chosen (by rw [attached]; decide)) h.among
  | release w => exact shaped_fresh w
  | clear w unheld =>
    obtain ⟨-, noLinks⟩ := h.empty (h.object.mpr unheld)
    exact {
      object := ⟨fun _ => unheld, fun _ => rfl⟩
      empty := fun _ => ⟨rfl, noLinks⟩
      unlinked := by simp
      linked := by simp
      chosen := by simp
      among := fun link hl => absurd (noLinks ▸ hl) List.not_mem_nil }

theorem shaped_final (k : Kernel W) (actions : List Action) (h : Shaped s) :
    Shaped (final k actions s) := by
  induction actions generalizing s with
  | nil => exact h
  | cons action rest ih => exact ih (h.moves (moves_perform k action s))

theorem Shaped.onObject_eq (h : Shaped s) {operation : Operation}
    (notOpening : operation ≠ .openObject) (allowed : s.phase ∈ operation.allowed) :
    ∃ object, s.object = some object ∧
      ∀ {α : Type} (act : ObjectId → Outcome W α), s.onObject operation act = act object := by
  have notClosed : s.phase ≠ .closed := by
    intro closed
    rw [closed] at allowed
    cases operation <;> first | exact notOpening rfl | exact absurd allowed (by decide)
  obtain ⟨object, held⟩ := Option.ne_none_iff_exists'.mp (h.held notClosed)
  refine ⟨object, held, fun act => ?_⟩
  rw [onObject, if_pos allowed, held]

structure Represents (s : Lifecycle W) (life : Option Life) : Prop where
  closed : s.phase = .closed ↔ s.object = none
  object : s.object = life.map Life.object
  empty : s.phase = .closed → s.selected = [] ∧ s.links = []
  unlinked : s.phase ∈ [.opened, .loaded] → s.links = []
  linked : s.phase ∈ [.attached, .polling] → s.links ≠ []
  found : ∀ name ∈ s.selected, ∃ l, life = some l ∧ name ∈ l.selected
  loaded : s.phase ∈ [.loaded, .attached, .polling] →
    s.selected ≠ [] ∧ ∃ l, life = some l ∧ ∀ name, name ∈ s.selected ↔ name ∈ l.loaded
  among : ∀ link ∈ s.links, link.1 ∈ s.selected
  reached : ∀ operation ∈ [Operation.select, .load, .attach, .resolveMap],
    s.phase ∈ operation.allowed → ∃ object, s.object = some object ∧
      ∀ {α : Type} (act : ObjectId → Outcome W α), s.onObject operation act = act object

theorem Shaped.represents (h : Shaped s) {life : Option Life} (fits : Fits s life) :
    Represents s life where
  closed := h.object
  object := by
    cases life with
    | none => exact congrArg Lifecycle.object (show s = fresh s.kernel from fits)
    | some l => exact Current.object fits
  empty := h.empty
  unlinked := h.unlinked
  linked := h.linked
  found name hn := by
    cases life with
    | none =>
      have unselected : s.selected = [] := congrArg selected (show s = fresh s.kernel from fits)
      exact absurd (unselected ▸ hn) List.not_mem_nil
    | some l => exact ⟨l, rfl, Current.selected fits name hn⟩
  loaded later := by
    cases life with
    | none =>
      have closed : s.phase = .closed := congrArg phase (show s = fresh s.kernel from fits)
      exact absurd (closed ▸ later) (by decide)
    | some l =>
      have notOpened : s.phase ≠ .opened := fun opened => absurd (opened ▸ later) (by decide)
      refine ⟨h.chosen later, l, rfl, fun name => ?_⟩
      rw [Current.loaded fits notOpened]
  among := h.among
  reached operation member allowed := by
    refine h.onObject_eq (fun opening => ?_) allowed
    rw [opening] at member
    exact absurd member (by decide)

theorem run_represents (k : Kernel W) (actions : List Action) (w : W) :
    let last := final k actions (fresh w)
    let calls := (history k actions (fresh w)).objectCalls
    k.Answers w calls last.kernel ∧ last.Represents (lifeAfter none calls) := by
  have kept := keeps_run k actions (show Fits (fresh w) none from rfl)
  have shaped := shaped_final k actions (shaped_fresh w)
  exact ⟨kept.answers, shaped.represents kept.fits⟩

end FileTrace.Lifecycle
