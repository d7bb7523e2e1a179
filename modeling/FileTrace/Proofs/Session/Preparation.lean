import FileTrace.Proofs.Lifecycle.Discipline
import FileTrace.Proofs.Session.Stages

namespace FileTrace.Session

open Lifecycle

variable {W α β : Type} {k : Kernel W} {program : String} {held next last : Held}

structure Advances (program : String) (stages : List Stage) (held next : Held) (journal : Journal) :
    Prop where
  attempts : Succeeds stages journal.attempts
  changes : held.acquired program ++ journal.changes = next.acquired program
  unlisted : journal.listed = []
  unopened : journal.openings = []

structure Setback (k : Kernel W) (program : String) (stages : List Stage) (held : Held)
    (e : LifecycleError) (s : Lifecycle W) (journal : Journal) : Prop where
  attempts : FailsAt stages (.lifecycle e) journal.attempts
  changes : ∃ last : Held, held.acquired program ++ (journal ++ (s.close k).2).changes =
    last.acquired program ++ last.released program
  unopened : journal.openings = []

def Tries (k : Kernel W) (program : String) (stages : List Stage) (held : Held) (o : Outcome W α)
    (good : α → Lifecycle W → Held → Prop) : Prop :=
  match o.result with
  | .ok a => ∃ next, Advances program stages held next o.journal ∧ good a o.state next
  | .error e => Setback k program stages held e o.state o.journal

theorem Advances.trans {xs ys : List Stage} {before after : Journal}
    (hx : Advances program xs held next before) (hy : Advances program ys next last after) :
    Advances program (xs ++ ys) held last (before ++ after) where
  attempts := by
    rw [Journal.attempts_append]
    exact hx.attempts.append hy.attempts
  changes := by rw [Journal.changes_append, ← List.append_assoc, hx.changes, hy.changes]
  unlisted := by rw [Journal.listed_append, hx.unlisted, hy.unlisted]; rfl
  unopened := by rw [Journal.openings_append, hx.unopened, hy.unopened]; rfl

theorem Advances.setback {xs ys : List Stage} {before after : Journal} {e : LifecycleError}
    {s : Lifecycle W} (hx : Advances program xs held next before)
    (hy : Setback k program ys next e s after) :
    Setback k program (xs ++ ys) held e s (before ++ after) where
  attempts := by
    rw [Journal.attempts_append]
    exact hx.attempts.failsAt hy.attempts
  changes := by
    obtain ⟨last, changes⟩ := hy.changes
    refine ⟨last, ?_⟩
    rw [List.append_assoc, Journal.changes_append, ← List.append_assoc, hx.changes, changes]
  unopened := by rw [Journal.openings_append, hx.unopened, hy.unopened]; rfl

theorem Setback.unchanged {stages : List Stage} {e : LifecycleError} {s : Lifecycle W}
    {journal : Journal} (attempts : FailsAt stages (.lifecycle e) journal.attempts)
    (changes : journal.changes = []) (unopened : journal.openings = [])
    (closes : (s.close k).2.changes = held.released program) :
    Setback k program stages held e s journal where
  attempts := attempts
  changes := ⟨held, by rw [Journal.changes_append, changes, closes]; rfl⟩
  unopened := unopened

theorem Tries.andThen {xs ys : List Stage} {o : Outcome W α}
    {following : α → Lifecycle W → Outcome W β} {good : α → Lifecycle W → Held → Prop}
    {better : β → Lifecycle W → Held → Prop}
    (h : Tries k program xs held o good)
    (later : ∀ a s next, good a s next → Tries k program ys next (following a s) better) :
    Tries k program (xs ++ ys) held (o.andThen following) better := by
  rcases result : o.result with e | a
  · rw [Tries, result] at h
    simp only [Tries, Outcome.andThen, result]
    exact ⟨h.attempts.append_right ys, h.changes, h.unopened⟩
  · rw [Tries, result] at h
    obtain ⟨next, here, met⟩ := h
    have there := later a o.state next met
    simp only [Tries, Outcome.andThen, result] at there ⊢
    split
    · rename_i b ok
      rw [ok] at there
      obtain ⟨last, there, met⟩ := there
      exact ⟨last, here.trans there, met⟩
    · rename_i e failed
      rw [failed] at there
      exact here.setback there

theorem Tries.after {stages : List Stage} {o : Outcome W α} {good : α → Lifecycle W → Held → Prop}
    {journal : Journal} (quiet : Advances program [] held held journal)
    (h : Tries k program stages held o good) :
    Tries k program stages held { o with journal := journal ++ o.journal } good := by
  rw [Tries] at h ⊢
  split
  · rename_i a ok
    rw [ok] at h
    obtain ⟨next, there, met⟩ := h
    exact ⟨next, quiet.trans there, met⟩
  · rename_i e failed
    rw [failed] at h
    exact quiet.setback h

theorem detachEach_changes (k : Kernel W) (o : ObjectId) (links : List (String × LinkId)) (w : W) :
    (detachEach k o links w).2.changes =
      links.map fun link => .released (.link o link.1 link.2) := by
  induction links generalizing w with
  | nil => rfl
  | cons link rest ih =>
    obtain ⟨name, link⟩ := link
    rcases answer : k.detach o name link w with ⟨result, w'⟩
    have later := ih w'
    simp only [detachEach, answer, Journal.changes, List.map_cons] at later ⊢
    rw [← later]
    cases result <;> rfl

theorem detachEach_settled (k : Kernel W) (o : ObjectId) (links : List (String × LinkId)) (w : W) :
    (detachEach k o links w).2.Settled := by
  induction links generalizing w with
  | nil => exact .nil
  | cons link rest ih =>
    obtain ⟨name, link⟩ := link
    rcases answer : k.detach o name link w with ⟨result, w'⟩
    have later := ih w'
    simp only [detachEach, answer, Journal.Settled] at later ⊢
    cases result <;> exact List.forall_mem_cons.mpr ⟨rfl, List.forall_mem_cons.mpr ⟨rfl, later⟩⟩

theorem close_settled (k : Kernel W) (s : Lifecycle W) : (s.close k).2.Settled := by
  rw [close]
  split
  · exact .nil
  · rename_i o _
    refine (detachEach_settled k o s.links.reverse s.kernel).append ?_
    exact List.forall_mem_cons.mpr ⟨rfl, List.forall_mem_singleton.mpr rfl⟩

theorem close_changes (k : Kernel W) (w : W) (phase : Phase) (o : ObjectId) (selected : List String)
    (links : List (String × LinkId)) :
    (close k ⟨w, phase, some o, selected, links⟩).2.changes =
      (links.reverse.map fun link => Change.released (.link o link.1 link.2)) ++
        [.released (.object o)] := by
  have detached := detachEach_changes k o links.reverse w
  simp only [close, Journal.changes_append, detached]
  rfl

theorem openObject_tries (k : Kernel W) (program : String) (request : OpenRequest) (w : W) :
    Tries k program [.openObject request] .nothing ((fresh w).openObject k request)
      fun _ s held => ∃ w o, s = ⟨w, .opened, some o, [], []⟩ ∧ held = .object o := by
  have allowed : (fresh w).phase ∈ Operation.openObject.allowed := List.mem_singleton.mpr rfl
  rw [Tries, Lifecycle.openObject, if_pos allowed]
  rcases answer : k.openObject request (fresh w).kernel with ⟨e | o, w'⟩
  · exact .unchanged (.first _ []) rfl rfl rfl
  · exact ⟨.object o, ⟨rfl, rfl, rfl, rfl⟩, w', o, rfl, rfl⟩

theorem select_tries (k : Kernel W) (program : String) (w : W) (o : ObjectId) :
    Tries k program [.select program] (.object o)
      (Lifecycle.select k program ⟨w, .opened, some o, [], []⟩)
      fun selected s held => selected = ⟨program⟩ ∧
        ∃ w, s = ⟨w, .opened, some o, [program], []⟩ ∧ held = .object o := by
  have allowed : Phase.opened ∈ Operation.select.allowed := List.mem_singleton.mpr rfl
  rw [Lifecycle.select, onObject, if_pos allowed]
  dsimp only
  by_cases found : k.hasProgram o program w = true
  · rw [if_pos found]
    exact ⟨.object o, ⟨rfl, rfl, rfl, rfl⟩, rfl, w, rfl, rfl⟩
  · rw [if_neg found]
    exact .unchanged (.first _ []) rfl rfl (close_changes k w _ o _ [])

theorem load_tries (k : Kernel W) (program : String) (w : W) (o : ObjectId) :
    Tries k program [.load program] (.object o)
      (Lifecycle.load k ⟨w, .opened, some o, [program], []⟩)
      fun _ s held => ∃ w, s = ⟨w, .loaded, some o, [program], []⟩ ∧ held = .object o := by
  have allowed : Phase.opened ∈ Operation.load.allowed := List.mem_singleton.mpr rfl
  rw [Lifecycle.load, onObject, if_pos allowed]
  rcases answer : k.load o program w with ⟨e | ⟨⟩, w'⟩
  · simp only [List.isEmpty_cons, loadEach, answer]
    -- The object is closed here already, so that closing again finds nothing.
    have closed := close_changes k w' .opened o [program] []
    have settled := close_settled k ⟨w', .opened, some o, [program], []⟩
    show Setback k program _ (.object o) e (close k ⟨w', .opened, some o, [program], []⟩).1
      ([.object (.load o program (.error e))] ++
        (close k ⟨w', .opened, some o, [program], []⟩).2)
    refine ⟨?_, ⟨.object o, ?_⟩, ?_⟩
    · rw [Journal.attempts_append, settled.attempts_eq]
      exact .first _ []
    · rw [Journal.changes_append, Journal.changes_append, closed]
      rfl
    · rw [Journal.openings_append, settled.openings_eq]
      rfl
  · simp only [List.isEmpty_cons, loadEach, answer]
    exact ⟨.object o, ⟨rfl, rfl, rfl, rfl⟩, w', rfl, rfl⟩

theorem attach_tries (k : Kernel W) (program : String) (point : AttachPoint) (w : W)
    (o : ObjectId) :
    Tries k program [.attach program point] (.object o)
      (Lifecycle.attach k ⟨program⟩ point ⟨w, .loaded, some o, [program], []⟩)
      fun _ s held => ∃ w link, s = ⟨w, .attached, some o, [program], [(program, link)]⟩ ∧
        held = .link o link [] := by
  have allowed : Phase.loaded ∈ Operation.attach.allowed := List.mem_cons_self
  rw [Lifecycle.attach, onObject, if_pos allowed]
  dsimp only
  rw [if_pos (List.mem_singleton.mpr rfl)]
  rcases answer : k.attach o program point w with ⟨e | link, w'⟩
  · exact .unchanged (.first _ []) rfl rfl (close_changes k w' _ o _ [])
  · exact ⟨.link o link [], ⟨rfl, rfl, rfl, rfl⟩, w', link, rfl, rfl⟩

theorem resolveMap_tries (k : Kernel W) (program name : String) (w : W) (o : ObjectId)
    (link : LinkId) :
    Tries k program [.resolveMap name] (.link o link [])
      (Lifecycle.resolveMap k name ⟨w, .attached, some o, [program], [(program, link)]⟩)
      fun channel s held => (∃ w w', k.takeChannel o name w = (.ok channel, w')) ∧
        ∃ w, s = ⟨w, .attached, some o, [program], [(program, link)]⟩ ∧ held = .link o link [] := by
  have allowed : Phase.attached ∈ Operation.resolveMap.allowed := by decide
  rw [Lifecycle.resolveMap, onObject, if_pos allowed]
  rcases answer : k.takeChannel o name w with ⟨e | channel, w'⟩
  · simp only [answer]
    exact .unchanged (.first _ []) rfl rfl (close_changes k w' _ o _ [(program, link)])
  · simp only [answer]
    exact ⟨.link o link [], ⟨rfl, rfl, rfl, rfl⟩, ⟨w, w', answer⟩, w', rfl, rfl⟩

theorem resolve_quiet (policy : LayoutPolicy) (running : Except String Release) (held : Held) :
    Advances program [] held held (policy.resolve running).2 := by
  cases policy with
  | fixed layout => exact ⟨rfl, List.append_nil _, rfl, rfl⟩
  | auto threshold => cases running <;> exact ⟨rfl, List.append_nil _, rfl, rfl⟩

theorem prepare_tries (k : Kernel W) (running : Except String Release) (config : Config) (w : W) :
    Tries k config.target.program (objectStages config) .nothing
      (prepare k running config (fresh w)) fun answer s held => ∃ o,
        (∃ w w', k.takeChannel o Target.channel w = (.ok answer.1, w')) ∧ ∃ w link,
          s = ⟨w, .attached, some o, [config.target.program], [(config.target.program, link)]⟩ ∧
            held = .link o link [] := by
  refine Tries.andThen (openObject_tries k _ config.request w) ?_
  rintro - s held ⟨w, o, rfl, rfl⟩
  refine Tries.andThen (select_tries k config.target.program w o) ?_
  rintro - s held ⟨rfl, w, rfl, rfl⟩
  refine Tries.andThen (load_tries k config.target.program w o) ?_
  rintro - s held ⟨w, rfl, rfl⟩
  refine Tries.after (resolve_quiet config.layout running (.object o)) ?_
  refine Tries.andThen (attach_tries k _ config.target.attachPoint w o) ?_
  rintro - s held ⟨w, link, rfl, rfl⟩
  show Tries k _ ([.resolveMap Target.channel] ++ []) _ _ _
  refine Tries.andThen (resolveMap_tries k _ Target.channel w o link) ?_
  rintro channel s held ⟨taken, w, rfl, rfl⟩
  exact ⟨.link o link [], ⟨rfl, List.append_nil _, rfl, rfl⟩, o, taken, w, link, rfl, rfl⟩

theorem resolve_objectCalls (policy : LayoutPolicy) (running : Except String Release) :
    (policy.resolve running).2.objectCalls = [] := by
  cases policy with
  | fixed layout => rfl
  | auto threshold => cases running <;> rfl

theorem prepare_keeps (k : Kernel W) (running : Except String Release) (config : Config)
    {s : Lifecycle W} {life : Option Life} (h : Fits s life) :
    Keeps k s life (prepare k running config s).state (prepare k running config s).journal := by
  have quiet := resolve_objectCalls config.layout running
  rw [prepare]
  generalize config.layout.resolve running = resolved at quiet ⊢
  obtain ⟨layout, logs⟩ := resolved
  refine (keeps_openObject k config.request h).andThen fun _ life h => ?_
  refine (keeps_select k config.target.program h).andThen fun program life h => ?_
  refine (keeps_load k h).andThen fun _ life h => ?_
  refine .later quiet ?_
  dsimp only
  refine (keeps_attach k program config.target.attachPoint h).andThen fun _ life h => ?_
  exact (keeps_resolveMap k Target.channel h).andThen fun _ life h => .nil h

end FileTrace.Session
