import FileTrace.Proofs.Lifecycle.Life
import FileTrace.Proofs.Lifecycle.Run
import FileTrace.Proofs.Names

namespace FileTrace.Lifecycle

variable {W : Type} {k : Kernel W} {s t u : Lifecycle W} {life : Option Life} {l : Life}

structure Current (s : Lifecycle W) (l : Life) : Prop where
  object : s.object = some l.object
  notClosed : s.phase ≠ .closed
  ascending : s.selected.Pairwise (· < ·)
  selected : ∀ name ∈ s.selected, name ∈ l.selected
  unloaded : s.phase = .opened → l.submitted = [] ∧ l.loaded = []
  loaded : s.phase ≠ .opened → l.loaded = s.selected
  links : l.obtained = s.links
  attached : l.detached = []

theorem Current.withKernel (h : Current s l) (w : W) : Current { s with kernel := w } l :=
  ⟨h.object, h.notClosed, h.ascending, h.selected, h.unloaded, h.loaded, h.links, h.attached⟩

def Fits (s : Lifecycle W) : Option Life → Prop
  | none => s = fresh s.kernel
  | some l => Current s l

theorem Fits.outstanding_eq (h : Fits s life) : outstanding life = s.attachedCount := by
  cases life with
  | none =>
    have empty : s.links = [] := congrArg links (show s = fresh s.kernel from h)
    rw [attachedCount, empty]
    rfl
  | some l =>
    have current : Current s l := h
    rw [attachedCount, ← current.links, outstanding, current.attached]
    exact Int.sub_zero _

structure Keeps (k : Kernel W) (s : Lifecycle W) (life : Option Life) (t : Lifecycle W)
    (journal : Journal) : Prop where
  answers : k.Answers s.kernel journal.objectCalls t.kernel
  disciplined : Disciplined life journal.objectCalls
  fits : Fits t (lifeAfter life journal.objectCalls)

theorem Keeps.nil (h : Fits s life) : Keeps k s life s [] := ⟨.nil _, trivial, h⟩

theorem Keeps.after {xs ys : Journal} (answers : k.Answers s.kernel xs.objectCalls t.kernel)
    (disciplined : Disciplined life xs.objectCalls)
    (later : Keeps k t (lifeAfter life xs.objectCalls) u ys) : Keeps k s life u (xs ++ ys) where
  answers := by
    rw [Journal.objectCalls_append]
    exact answers.append later.answers
  disciplined := by
    rw [Journal.objectCalls_append]
    exact disciplined.append later.disciplined
  fits := by
    rw [Journal.objectCalls_append, lifeAfter_append]
    exact later.fits

theorem Keeps.later {xs ys : Journal} (quiet : xs.objectCalls = []) (h : Keeps k s life t ys) :
    Keeps k s life t (xs ++ ys) := by
  refine .after (t := s) ?_ ?_ ?_
  · rw [quiet]
    exact .nil _
  · rw [quiet]
    trivial
  · rw [quiet]
    exact h

theorem Keeps.andThen {α β : Type} {o : Outcome W α} {next : α → Lifecycle W → Outcome W β}
    (here : Keeps k s life o.state o.journal)
    (later : ∀ a life, Fits o.state life →
      Keeps k o.state life (next a o.state).state (next a o.state).journal) :
    Keeps k s life (o.andThen next).state (o.andThen next).journal := by
  rw [Outcome.andThen]
  split
  · exact here
  · exact .after here.answers here.disciplined (later _ _ here.fits)

theorem keeps_openObject (k : Kernel W) (request : OpenRequest) (h : Fits s life) :
    Keeps k s life (s.openObject k request).state (s.openObject k request).journal := by
  rw [openObject]
  split
  · rename_i allowed
    have closed : s.phase = .closed := List.mem_singleton.mp allowed
    cases life with
    | some l => exact absurd closed h.notClosed
    | none =>
      rcases answer : k.openObject request s.kernel with ⟨e | object, w⟩
      · refine ⟨.opening answer (.nil _), ⟨trivial, trivial⟩, ?_⟩
        have fresh : s = fresh s.kernel := h
        rw [fresh]
        rfl
      · have fresh : s = fresh s.kernel := h
        refine ⟨.opening answer (.nil _), ⟨trivial, trivial⟩, ?_⟩
        rw [fresh]
        exact {
          object := rfl
          notClosed := Phase.noConfusion
          ascending := .nil
          selected := nofun
          unloaded := fun _ => ⟨rfl, rfl⟩
          loaded := fun h => absurd rfl h
          links := rfl
          attached := rfl }
  · exact .nil h

theorem keeps_onObject {α : Type} (k : Kernel W) (operation : Operation)
    (notOpening : operation ≠ .openObject) (act : ObjectId → Outcome W α) (h : Fits s life)
    (acts : ∀ l, life = some l → Current s l → s.phase ∈ operation.allowed →
      Keeps k s life (act l.object).state (act l.object).journal) :
    Keeps k s life (s.onObject operation act).state (s.onObject operation act).journal := by
  rw [onObject]
  split
  · rename_i allowed
    cases life with
    | none =>
      have closed : s.phase = .closed := congrArg phase (show s = fresh s.kernel from h)
      rw [closed] at allowed
      cases operation <;> first | exact absurd rfl notOpening | exact absurd allowed (by decide)
    | some l =>
      rw [Current.object h]
      exact acts l rfl h allowed
  · exact .nil h

theorem keeps_select (k : Kernel W) (name : String) (h : Fits s life) :
    Keeps k s life (s.select k name).state (s.select k name).journal := by
  refine keeps_onObject k .select (by decide) _ h fun l hl current allowed => ?_
  subst hl
  have opened : s.phase = .opened := List.mem_singleton.mp allowed
  by_cases found : k.hasProgram l.object name s.kernel = true
  · rw [if_pos found]
    refine ⟨.lookup found (.nil _), ⟨rfl, trivial⟩, ?_⟩
    exact {
      object := current.object
      notClosed := current.notClosed
      ascending := Names.insert_ascending current.ascending name
      selected := fun x hx => by
        refine List.mem_append.mpr ?_
        rcases Names.mem_insert.mp hx with rfl | hx
        · exact .inr (List.mem_singleton.mpr rfl)
        · exact .inl (current.selected x hx)
      unloaded := current.unloaded
      loaded := fun loaded => absurd opened loaded
      links := current.links
      attached := current.attached }
  · rw [if_neg found]
    exact ⟨.lookup (Bool.eq_false_iff.mpr found) (.nil _), ⟨rfl, trivial⟩, current⟩

theorem detachEach_all (k : Kernel W) (links : List (String × LinkId)) (w : W)
    (h : l.detached ++ links = l.obtained.reverse) :
    let calls := (detachEach k l.object links w).2.objectCalls
    k.Answers w calls (detachEach k l.object links w).1 ∧ Disciplined (some l) calls ∧
      lifeAfter (some l) calls = some { l with detached := l.obtained.reverse } := by
  induction links generalizing l w with
  | nil =>
    rw [List.append_nil] at h
    exact ⟨.nil w, trivial, by rw [← h]; rfl⟩
  | cons link rest ih =>
    obtain ⟨name, link⟩ := link
    rcases answer : k.detach l.object name link w with ⟨result, w'⟩
    have step : { l with detached := l.detached ++ [(name, link)] }.detached ++ rest =
        l.obtained.reverse := by rw [← h, List.append_assoc]; rfl
    obtain ⟨answers, disciplined, after⟩ :=
      ih (l := { l with detached := l.detached ++ [(name, link)] }) w' step
    have calls : (detachEach k l.object ((name, link) :: rest) w).2.objectCalls =
        .detach l.object name link result :: (detachEach k l.object rest w').2.objectCalls := by
      simp only [detachEach, answer, Journal.objectCalls]
      cases result <;> rfl
    rw [calls]
    refine ⟨?_, ⟨⟨rfl, rest, ?_⟩, disciplined⟩, after⟩
    · simp only [detachEach, answer]
      exact .detach answer answers
    · rw [← h, List.append_assoc]
      rfl

theorem keeps_release (k : Kernel W) (object : s.object = some l.object)
    (links : l.obtained = s.links) (attached : l.detached = []) :
    Keeps k s (some l) (s.close k).1 (s.close k).2 := by
  obtain ⟨answers, disciplined, after⟩ := detachEach_all (l := l) k s.links.reverse s.kernel
    (by rw [attached, links]; rfl)
  have calls : (s.close k).2.objectCalls =
      (detachEach k l.object s.links.reverse s.kernel).2.objectCalls ++ [.release l.object] := by
    simp only [close, object, Journal.objectCalls_append]
    rfl
  have state : (s.close k).1 =
      fresh (k.release l.object (detachEach k l.object s.links.reverse s.kernel).1) := by
    simp only [close, object]
  constructor
  · rw [calls, state]
    exact answers.append (.release rfl (.nil _))
  · rw [calls]
    refine disciplined.append ?_
    rw [after]
    exact ⟨⟨rfl, rfl⟩, trivial⟩
  · rw [calls, lifeAfter_append, after, state]
    rfl

theorem keeps_close (k : Kernel W) (h : Fits s life) :
    Keeps k s life (s.close k).1 (s.close k).2 := by
  cases life with
  | some l => exact keeps_release k (Current.object h) (Current.links h) (Current.attached h)
  | none =>
    have fresh : s = fresh s.kernel := h
    rw [fresh]
    exact .nil rfl

theorem lifeAfter_close (k : Kernel W) (h : Fits s life) :
    lifeAfter life (s.close k).2.objectCalls = none := by
  have kept := (keeps_close k h).fits
  cases after : lifeAfter life (s.close k).2.objectCalls with
  | none => rfl
  | some l =>
    rw [after] at kept
    refine absurd ?_ (Current.notClosed kept)
    rw [close]
    split <;> rfl

-- The programs still to be submitted are ascending and above those submitted before.
theorem loadEach_all (k : Kernel W) (names : List String) (w : W)
    (ascending : names.Pairwise (· < ·)) (selected : ∀ name ∈ names, name ∈ l.selected)
    (above : ∀ earlier ∈ l.submitted, ∀ name ∈ names, earlier < name) :
    let calls := (loadEach k l.object names w).2.2.objectCalls
    k.Answers w calls (loadEach k l.object names w).2.1 ∧ Disciplined (some l) calls ∧
      ∃ submitted loaded, lifeAfter (some l) calls =
          some { l with submitted := submitted, loaded := loaded } ∧
        ((loadEach k l.object names w).1 = .ok () → loaded = l.loaded ++ names) := by
  induction names generalizing l w with
  | nil => exact ⟨.nil w, trivial, l.submitted, l.loaded, rfl, fun _ => (List.append_nil _).symm⟩
  | cons name rest ih =>
    obtain ⟨first, others⟩ := List.pairwise_cons.mp ascending
    have permitted : l.Permits (.load l.object name (k.load l.object name w).1) :=
      ⟨rfl, selected name List.mem_cons_self,
        fun earlier he => above earlier he name List.mem_cons_self⟩
    rcases answer : k.load l.object name w with ⟨e | ⟨⟩, w'⟩
    · rw [answer] at permitted
      simp only [loadEach, answer]
      exact ⟨.load answer (.nil _), ⟨permitted, trivial⟩, _, _, rfl, nofun⟩
    · rw [answer] at permitted
      obtain ⟨answers, disciplined, submitted, loaded, after, all⟩ :=
        ih (l := { l with submitted := l.submitted ++ [name], loaded := l.loaded ++ [name] }) w'
          others (fun x hx => selected x (List.mem_cons_of_mem _ hx)) (by
            intro earlier he x hx
            rcases List.mem_append.mp he with he | he
            · exact above earlier he x (List.mem_cons_of_mem _ hx)
            · rw [List.mem_singleton.mp he]
              exact first x hx)
      simp only [loadEach, answer]
      refine ⟨.load answer answers, ⟨permitted, disciplined⟩, submitted, loaded, after,
        fun ok => ?_⟩
      rw [all ok, List.append_assoc]
      rfl

theorem keeps_load (k : Kernel W) (h : Fits s life) :
    Keeps k s life (s.load k).state (s.load k).journal := by
  refine keeps_onObject k .load (by decide) _ h fun l hl current allowed => ?_
  subst hl
  have opened : s.phase = .opened := List.mem_singleton.mp allowed
  obtain ⟨noneSubmitted, noneLoaded⟩ := current.unloaded opened
  by_cases empty : s.selected.isEmpty = true
  · rw [if_pos empty]
    exact keeps_release k current.object current.links current.attached
  · obtain ⟨answers, disciplined, submitted, loaded, after, all⟩ :=
      loadEach_all (l := l) k s.selected s.kernel current.ascending current.selected
        (by rw [noneSubmitted]; exact nofun)
    rw [if_neg empty]
    rcases loading : loadEach k l.object s.selected s.kernel with ⟨e | ⟨⟩, w, journal⟩
    · rw [loading] at answers disciplined after
      refine Keeps.after (t := { s with kernel := w }) answers disciplined ?_
      rw [after]
      exact keeps_release k current.object current.links current.attached
    · rw [loading] at answers disciplined after all
      refine ⟨answers, disciplined, ?_⟩
      dsimp only
      rw [after]
      have every : loaded = s.selected := by rw [all rfl, noneLoaded]; rfl
      exact {
        object := current.object
        notClosed := Phase.noConfusion
        ascending := current.ascending
        selected := current.selected
        unloaded := Phase.noConfusion
        loaded := fun _ => every
        links := current.links
        attached := current.attached }

theorem keeps_attach (k : Kernel W) (program : SelectedProgram) (point : AttachPoint)
    (h : Fits s life) :
    Keeps k s life (s.attach k program point).state (s.attach k program point).journal := by
  refine keeps_onObject k .attach (by decide) _ h fun l hl current allowed => ?_
  subst hl
  have notOpened : s.phase ≠ .opened := by
    intro opened
    rw [opened] at allowed
    exact absurd allowed (by decide)
  by_cases selected : program.name ∈ s.selected
  · rw [if_pos selected]
    have loaded : program.name ∈ l.loaded := by rw [current.loaded notOpened]; exact selected
    rcases answer : k.attach l.object program.name point s.kernel with ⟨e | link, w⟩
    · exact ⟨.attach answer (.nil _), ⟨⟨rfl, loaded⟩, trivial⟩, current.withKernel w⟩
    · refine ⟨.attach answer (.nil _), ⟨⟨rfl, loaded⟩, trivial⟩, ?_⟩
      exact {
        object := current.object
        notClosed := Phase.noConfusion
        ascending := current.ascending
        selected := current.selected
        unloaded := Phase.noConfusion
        loaded := fun _ => current.loaded notOpened
        links := congrArg (· ++ [(program.name, link)]) current.links
        attached := current.attached }
  · rw [if_neg selected]
    exact .nil current

theorem keeps_resolveMap (k : Kernel W) (name : String) (h : Fits s life) :
    Keeps k s life (s.resolveMap k name).state (s.resolveMap k name).journal := by
  refine keeps_onObject k .resolveMap (by decide) _ h fun l hl current allowed => ?_
  subst hl
  rcases answer : k.takeChannel l.object name s.kernel with ⟨e | channel, w⟩
  · exact ⟨.takeChannel answer (.nil _), ⟨rfl, trivial⟩, current.withKernel w⟩
  · exact ⟨.takeChannel answer (.nil _), ⟨rfl, trivial⟩, current.withKernel w⟩

theorem keeps_startPolling (k : Kernel W) (h : Fits s life) :
    Keeps k s life s.startPolling.state s.startPolling.journal := by
  rw [startPolling]
  split
  · rename_i allowed
    have attached : s.phase = .attached := List.mem_singleton.mp allowed
    cases life with
    | none =>
      have closed : s.phase = .closed := congrArg phase (show s = fresh s.kernel from h)
      rw [closed] at attached
      cases attached
    | some l =>
      have current : Current s l := h
      have notOpened : s.phase ≠ .opened := by rw [attached]; exact Phase.noConfusion
      exact ⟨.nil _, trivial, {
        object := current.object
        notClosed := Phase.noConfusion
        ascending := current.ascending
        selected := current.selected
        unloaded := Phase.noConfusion
        loaded := fun _ => current.loaded notOpened
        links := current.links
        attached := current.attached }⟩
  · exact .nil h

theorem keeps_renew (k : Kernel W) (h : Fits s life) :
    Keeps k s life (fresh (s.close k).1.kernel) (s.close k).2 := by
  have closed := keeps_close k h
  exact ⟨closed.answers, closed.disciplined, by rw [lifeAfter_close k h]; rfl⟩

theorem keeps_perform (k : Kernel W) (action : Action) (h : Fits s life) :
    Keeps k s life (action.perform k s).state (action.perform k s).journal := by
  cases action with
  | openObject request => exact keeps_openObject k request h
  | select name => exact keeps_select k name h
  | load => exact keeps_load k h
  | attach program point => exact keeps_attach k program point h
  | resolveMap name => exact keeps_resolveMap k name h
  | startPolling => exact keeps_startPolling k h
  | close => exact keeps_close k h
  | renew => exact keeps_renew k h

theorem keeps_run (k : Kernel W) (actions : List Action) (h : Fits s life) :
    Keeps k s life (final k actions s) (history k actions s) := by
  induction actions generalizing s life with
  | nil => exact .nil h
  | cons action rest ih =>
    have here := keeps_perform k action h
    exact .after here.answers here.disciplined (ih here.fits)

theorem lifeAfter_history_close (k : Kernel W) (actions : List Action) (h : Fits s life)
    (last : Action) (closes : last = .close ∨ last = .renew) :
    lifeAfter life (history k (actions ++ [last]) s).objectCalls = none := by
  have kept := (keeps_run k actions h).fits
  have ending : history k [last] (final k actions s) = ((final k actions s).close k).2 := by
    rcases closes with rfl | rfl <;> exact List.append_nil _
  rw [history_append, ending, Journal.objectCalls_append, lifeAfter_append]
  exact lifeAfter_close k kept

theorem run_disciplined (k : Kernel W) (actions : List Action) (w : W) :
    let last := final k actions (fresh w)
    let calls := (history k actions (fresh w)).objectCalls
    k.Answers w calls last.kernel ∧
      Disciplined none calls ∧
      last.attachedCount + (detachedLinks calls).length = (obtainedLinks calls).length ∧
      lifeAfter none (history k (actions ++ [.close]) (fresh w)).objectCalls = none ∧
      lifeAfter none (history k (actions ++ [.renew]) (fresh w)).objectCalls = none := by
  intro last calls
  have new : Fits (fresh w) none := rfl
  have kept : Keeps k (fresh w) none last _ := keeps_run k actions new
  refine ⟨kept.answers, kept.disciplined, ?_, lifeAfter_history_close k actions new _ (.inl rfl),
    lifeAfter_history_close k actions new _ (.inr rfl)⟩
  have links : outstanding none + (obtainedLinks calls).length =
      outstanding (lifeAfter none calls) + (detachedLinks calls).length :=
    kept.disciplined.outstanding_lifeAfter
  have held : outstanding (lifeAfter none calls) = last.attachedCount := kept.fits.outstanding_eq
  have unused : outstanding none = 0 := rfl
  omega

end FileTrace.Lifecycle
