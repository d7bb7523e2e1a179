import FileTrace.Lifecycle

namespace FileTrace

def Entry.objectCall? : Entry → Option ObjectCall
  | .object call => some call
  | _ => none

def Journal.objectCalls (journal : Journal) : List ObjectCall :=
  journal.filterMap Entry.objectCall?

theorem Journal.objectCalls_append (xs ys : Journal) :
    objectCalls (xs ++ ys) = xs.objectCalls ++ ys.objectCalls := List.filterMap_append

inductive Kernel.Answers {W : Type} (k : Kernel W) : W → List ObjectCall → W → Prop where
  | nil (w : W) : Answers k w [] w
  | opening {w w' w'' request answer rest} (h : k.openObject request w = (answer, w'))
      (later : Answers k w' rest w'') : Answers k w (.opening request answer :: rest) w''
  | lookup {w w'' object program found rest} (h : k.hasProgram object program w = found)
      (later : Answers k w rest w'') : Answers k w (.lookup object program found :: rest) w''
  | load {w w' w'' object program answer rest} (h : k.load object program w = (answer, w'))
      (later : Answers k w' rest w'') : Answers k w (.load object program answer :: rest) w''
  | attach {w w' w'' object program point answer rest}
      (h : k.attach object program point w = (answer, w')) (later : Answers k w' rest w'') :
      Answers k w (.attach object program point answer :: rest) w''
  | detach {w w' w'' object program link answer rest}
      (h : k.detach object program link w = (answer, w')) (later : Answers k w' rest w'') :
      Answers k w (.detach object program link answer :: rest) w''
  | takeChannel {w w' w'' object map answer rest} (h : k.takeChannel object map w = (answer, w'))
      (later : Answers k w' rest w'') :
      Answers k w (.takeChannel object map (answer.map fun _ => ()) :: rest) w''
  | release {w w' w'' object rest} (h : k.release object w = w') (later : Answers k w' rest w'') :
      Answers k w (.release object :: rest) w''

theorem Kernel.Answers.append {W : Type} {k : Kernel W} {w w' w'' : W} {xs ys : List ObjectCall}
    (hx : k.Answers w xs w') (hy : k.Answers w' ys w'') : k.Answers w (xs ++ ys) w'' := by
  induction hx with
  | nil => exact hy
  | opening h _ ih => exact .opening h (ih hy)
  | lookup h _ ih => exact .lookup h (ih hy)
  | load h _ ih => exact .load h (ih hy)
  | attach h _ ih => exact .attach h (ih hy)
  | detach h _ ih => exact .detach h (ih hy)
  | takeChannel h _ ih => exact .takeChannel h (ih hy)
  | release h _ ih => exact .release h (ih hy)

structure Life where
  object : ObjectId
  selected : List String
  submitted : List String
  loaded : List String
  obtained : List (String × LinkId)
  detached : List (String × LinkId)

namespace Life

def born (object : ObjectId) : Life := ⟨object, [], [], [], [], []⟩

def note (l : Life) : ObjectCall → Life
  | .lookup _ program true => { l with selected := l.selected ++ [program] }
  | .load _ program (.ok ()) =>
    { l with submitted := l.submitted ++ [program], loaded := l.loaded ++ [program] }
  | .load _ program (.error _) => { l with submitted := l.submitted ++ [program] }
  | .attach _ program _ (.ok link) => { l with obtained := l.obtained ++ [(program, link)] }
  | .detach _ program link _ => { l with detached := l.detached ++ [(program, link)] }
  | _ => l

/-- Calls go to the open object only. Programs are submitted once, in ascending order, if they were
selected on it; they are attached only once loaded into it; links are detached latest first, and all
of them before the release. -/
def Permits (l : Life) : ObjectCall → Prop
  | .opening _ _ => False
  | .lookup object _ _ => object = l.object
  | .load object program _ =>
    object = l.object ∧ program ∈ l.selected ∧ ∀ earlier ∈ l.submitted, earlier < program
  | .attach object program _ _ => object = l.object ∧ program ∈ l.loaded
  | .detach object program link _ =>
    object = l.object ∧ l.detached ++ [(program, link)] <+: l.obtained.reverse
  | .takeChannel object _ _ => object = l.object
  | .release object => object = l.object ∧ l.detached = l.obtained.reverse

end Life

def advance : Option Life → ObjectCall → Option Life
  | _, .opening _ (.ok object) => some (.born object)
  | life, .opening _ (.error _) => life
  | _, .release _ => none
  | life, call => life.map (·.note call)

def lifeAfter (life : Option Life) (calls : List ObjectCall) : Option Life :=
  calls.foldl advance life

def Permitted : Option Life → ObjectCall → Prop
  | none, .opening _ _ => True
  | none, _ => False
  | some life, call => life.Permits call

def Disciplined : Option Life → List ObjectCall → Prop
  | _, [] => True
  | life, call :: rest => Permitted life call ∧ Disciplined (advance life call) rest

def obtainedLinks (calls : List ObjectCall) : List (String × LinkId) :=
  calls.filterMap fun
    | .attach _ program _ (.ok link) => some (program, link)
    | _ => none

def detachedLinks (calls : List ObjectCall) : List (String × LinkId) :=
  calls.filterMap fun
    | .detach _ program link _ => some (program, link)
    | _ => none

theorem obtainedLinks_cons (call : ObjectCall) (rest : List ObjectCall) :
    obtainedLinks (call :: rest) = obtainedLinks [call] ++ obtainedLinks rest := by
  rw [← List.singleton_append, obtainedLinks, List.filterMap_append]
  rfl

theorem detachedLinks_cons (call : ObjectCall) (rest : List ObjectCall) :
    detachedLinks (call :: rest) = detachedLinks [call] ++ detachedLinks rest := by
  rw [← List.singleton_append, detachedLinks, List.filterMap_append]
  rfl

def outstanding : Option Life → Int
  | none => 0
  | some l => l.obtained.length - l.detached.length

theorem lifeAfter_append (life : Option Life) (xs ys : List ObjectCall) :
    lifeAfter life (xs ++ ys) = lifeAfter (lifeAfter life xs) ys := List.foldl_append

theorem Disciplined.append {life : Option Life} {xs ys : List ObjectCall}
    (hx : Disciplined life xs) (hy : Disciplined (lifeAfter life xs) ys) :
    Disciplined life (xs ++ ys) := by
  induction xs generalizing life with
  | nil => exact hy
  | cons call rest ih => exact ⟨hx.1, ih hx.2 hy⟩

theorem Permitted.outstanding_advance {life : Option Life} {call : ObjectCall}
    (h : Permitted life call) :
    outstanding life + (obtainedLinks [call]).length =
      outstanding (advance life call) + (detachedLinks [call]).length := by
  cases life with
  | none =>
    cases call with
    | opening request answer => cases answer <;> rfl
    | _ => cases h
  | some l =>
    cases call with
    | opening request answer => cases h
    | lookup object program found => cases found <;> rfl
    | load object program answer => cases answer <;> rfl
    | takeChannel object map answer => rfl
    | attach object program point answer =>
      cases answer with
      | error e => rfl
      | ok link =>
        simp only [outstanding, advance, Option.map_some, Life.note, obtainedLinks, detachedLinks,
          List.filterMap_cons, List.filterMap_nil, List.length_append, List.length_cons,
          List.length_nil]
        omega
    | detach object program link answer =>
      simp only [outstanding, advance, Option.map_some, Life.note, obtainedLinks, detachedLinks,
        List.filterMap_cons, List.filterMap_nil, List.length_append, List.length_cons,
        List.length_nil]
      omega
    | release object =>
      have all : l.detached = l.obtained.reverse := h.2
      simp [outstanding, advance, obtainedLinks, detachedLinks, all]

theorem Disciplined.outstanding_lifeAfter {life : Option Life} {calls : List ObjectCall}
    (h : Disciplined life calls) :
    outstanding life + (obtainedLinks calls).length =
      outstanding (lifeAfter life calls) + (detachedLinks calls).length := by
  induction calls generalizing life with
  | nil => rfl
  | cons call rest ih =>
    have here := h.1.outstanding_advance
    have later := ih h.2
    rw [obtainedLinks_cons, detachedLinks_cons, List.length_append, List.length_append]
    simp only [lifeAfter, List.foldl_cons] at later ⊢
    omega

end FileTrace
