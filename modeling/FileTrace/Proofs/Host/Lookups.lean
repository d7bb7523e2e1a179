import Mathlib
import FileTrace.Host
import FileTrace.Proofs.Names

namespace FileTrace.Host.Opened

def fresh (object : ObjectFile) : Opened := ⟨object, object.maps, 0⟩

def lookedUp (h : Host) (o : Opened) (names : List String) : Opened :=
  names.foldl (fun o name => (o.takeChannel h name).2) o

variable (h : Host)

theorem takeChannel_left (o : Opened) (name : String) :
    (o.takeChannel h name).2 = { o with maps := o.maps.filter (·.1 != name) } := by
  rw [takeChannel]
  split
  · next absent =>
    rw [Names.find?, Option.map_eq_none_iff, List.find?_eq_none] at absent
    rw [List.filter_eq_self.mpr]
    intro map inside
    simpa using absent map inside
  · split <;> rfl

theorem takeChannel_missed {o : Opened} {name : String}
    (missed : (o.takeChannel h name).1 = .error (.mapNotFound name)) :
    (o.takeChannel h name).2 = o := by
  unfold takeChannel at missed ⊢
  split
  · rfl
  · next found =>
    simp only [found] at missed
    split at missed <;> cases missed

theorem lookedUp_eq (o : Opened) (names : List String) :
    o.lookedUp h names = { o with maps := o.maps.filter fun map => !names.contains map.1 } := by
  induction names generalizing o with
  | nil => simp [lookedUp]
  | cons name names ih =>
    rw [lookedUp, List.foldl_cons, takeChannel_left, ← lookedUp, ih, List.filter_filter]
    congr 3
    funext map
    rw [List.contains_cons, Bool.not_or, Bool.and_comm, bne]

theorem find?_lookedUp (object : ObjectFile) (names : List String) (name : String) :
    Names.find? name ((fresh object).lookedUp h names).maps =
      if name ∈ names then none else Names.find? name object.maps := by
  rw [lookedUp_eq]
  simp only [fresh, Names.find?_filter fun name => !names.contains name]
  by_cases asked : name ∈ names <;> simp [asked]

def Has (object : ObjectFile) (name : String) (kind : Nat) : Prop :=
  Names.find? name object.maps = some kind

def answer (object : ObjectFile) (earlier : List String) (name : String) :
    Except LifecycleError Channel :=
  (((fresh object).lookedUp h earlier).takeChannel h name).1

inductive Answers (h : Host) (object : ObjectFile) (earlier : List String) (name : String) :
    Except LifecycleError Channel → Prop
  | absent : (∀ kind, ¬Has object name kind) →
      Answers h object earlier name (.error (.mapNotFound name))
  | asked : name ∈ earlier → Answers h object earlier name (.error (.mapNotFound name))
  | channel : name ∉ earlier → Has object name eventArrayKind →
      Answers h object earlier name (.ok h.channel)
  | other {kind : Nat} : name ∉ earlier → Has object name kind → kind ≠ eventArrayKind →
      Answers h object earlier name
        (.error (.wrongMapKind name ("invalid map type " ++ toString kind)))

/-- The rule of a lookup that fails without a trace: only a channel takes its map away. -/
structure Traceless (object : ObjectFile) (earlier : List String) (name : String) : Prop where
  notFound : answer h object earlier name = .error (.mapNotFound name) ↔
    (∀ kind, ¬Has object name kind) ∨
      ∃ front rest, earlier = front ++ name :: rest ∧ ∃ c, answer h object front name = .ok c
  wrongKind : (∃ reason, answer h object earlier name = .error (.wrongMapKind name reason)) ↔
    ∃ kind, Has object name kind ∧ kind ≠ eventArrayKind
  unchanged : ∀ e, answer h object earlier name = .error e →
    ((fresh object).lookedUp h (earlier ++ [name])).maps = ((fresh object).lookedUp h earlier).maps
  again : ∀ e, answer h object earlier name = .error e →
    answer h object (earlier ++ [name]) name = .error e

section

variable {h} {object : ObjectFile} {earlier : List String} {name : String}

theorem answer_asked (asked : name ∈ earlier) :
    answer h object earlier name = .error (.mapNotFound name) := by
  simp only [answer, takeChannel, find?_lookedUp, if_pos asked]

theorem answer_absent (absent : ∀ kind, ¬Has object name kind) :
    answer h object earlier name = .error (.mapNotFound name) := by
  have missed : Names.find? name object.maps = none := Option.eq_none_iff_forall_ne_some.mpr absent
  simp only [answer, takeChannel, find?_lookedUp, missed, ite_self]

theorem answer_channel (first : name ∉ earlier) (has : Has object name eventArrayKind) :
    answer h object earlier name = .ok h.channel := by
  rw [Has] at has
  simp only [answer, takeChannel, find?_lookedUp, if_neg first, has, if_true]

theorem answer_other {kind : Nat} (first : name ∉ earlier) (has : Has object name kind)
    (other : kind ≠ eventArrayKind) : answer h object earlier name =
      .error (.wrongMapKind name ("invalid map type " ++ toString kind)) := by
  rw [Has] at has
  simp only [answer, takeChannel, find?_lookedUp, if_neg first, has, if_neg other]

theorem answers_iff {a : Except LifecycleError Channel} :
    Answers h object earlier name a ↔ answer h object earlier name = a := by
  constructor
  · rintro (absent | asked | ⟨first, has⟩ | ⟨first, has, other⟩)
    · exact answer_absent absent
    · exact answer_asked asked
    · exact answer_channel first has
    · exact answer_other first has other
  · rintro rfl
    by_cases asked : name ∈ earlier
    · rw [answer_asked asked]
      exact .asked asked
    cases has : Names.find? name object.maps with
    | none =>
      have absent : ∀ kind, ¬Has object name kind := Option.eq_none_iff_forall_ne_some.mp has
      rw [answer_absent absent]
      exact .absent absent
    | some kind =>
      by_cases same : kind = eventArrayKind
      · subst same
        rw [answer_channel asked has]
        exact .channel asked has
      · rw [answer_other asked has same]
        exact .other asked has same

theorem Has.kind_eq {kind : Nat} (has : Has object name kind) {k : Nat} (also : Has object name k) :
    kind = k :=
  Option.some.inj (has.symm.trans also)

-- The first lookup of another map is not repeated, and no channel accounts for the later answers.
theorem Traceless.kind_eq (rule : Traceless h object earlier name) {kind : Nat}
    (has : Has object name kind) : kind = eventArrayKind := by
  by_contra other
  by_cases asked : name ∈ earlier
  · rcases rule.notFound.mp (answer_asked asked) with absent | ⟨front, rest, -, c, channel⟩
    · exact absent kind has
    · cases answers_iff.mpr channel with
      | channel _ array => exact other (has.kind_eq array)
  · have again := rule.again _ (answer_other asked has other)
    rw [answer_asked (List.mem_append_right _ List.mem_cons_self)] at again
    cases again

theorem traceless_of_kind (only : ∀ kind, Has object name kind → kind = eventArrayKind) :
    Traceless h object earlier name := by
  have missing {e : LifecycleError} (failed : answer h object earlier name = .error e) :
      e = .mapNotFound name := by
    cases answers_iff.mpr failed with
    | absent => rfl
    | asked => rfl
    | other _ has other => exact absurd (only _ has) other
  refine ⟨⟨fun failed => ?_, ?_⟩, ⟨?_, ?_⟩, fun e failed => ?_, fun e failed => ?_⟩
  · cases answers_iff.mpr failed with
    | absent absent => exact .inl absent
    | asked asked =>
      by_cases has : ∃ kind, Has object name kind
      · obtain ⟨kind, has⟩ := has
        obtain ⟨front, rest, parts, first⟩ := List.eq_append_cons_of_mem asked
        exact .inr ⟨front, rest, parts, h.channel, answer_channel first (only kind has ▸ has)⟩
      · exact .inl (not_exists.mp has)
  · rintro (absent | ⟨front, rest, rfl, -⟩)
    · exact answer_absent absent
    · exact answer_asked (List.mem_append_right _ List.mem_cons_self)
  · rintro ⟨reason, failed⟩
    cases missing failed
  · rintro ⟨kind, has, other⟩
    exact absurd (only kind has) other
  · obtain rfl := missing failed
    rw [lookedUp, List.foldl_append, ← lookedUp]
    exact congrArg maps (takeChannel_missed h failed)
  · obtain rfl := missing failed
    exact answer_asked (List.mem_append_right _ List.mem_cons_self)

theorem lookups_take_maps (h : Host) (object : ObjectFile) (earlier : List String)
    (name : String) :
    (∀ a, answer h object earlier name = a ↔ Answers h object earlier name a) ∧
      ((fresh object).lookedUp h earlier).maps =
        object.maps.filter (fun map => !earlier.contains map.1) ∧
      (Traceless h object earlier name ↔
        ∀ kind, Has object name kind → kind = eventArrayKind) :=
  ⟨fun _ => answers_iff.symm, by rw [lookedUp_eq, fresh],
    fun rule _ has => rule.kind_eq has, traceless_of_kind⟩

theorem lookups_take_maps_hash :
    let object : ObjectFile := ⟨[], [(Target.channel, 1)]⟩
    let h : Host :=
      { files := [("example.bpf.o", .object object)], release := none, online := none, uid := 0,
        memlockFault := none, mapsFail := false, rejections := [], tracepoints := none,
        hasKprobes := false, symbols := [], eventsFail := false, bindingFails := false,
        enablingFails := false, ringFaults := [] }
    h.openObject ⟨"example.bpf.o", none, false⟩ = (.ok 0, some (fresh object)) ∧
      answer h object [] "events" = .error (.wrongMapKind "events" "invalid map type 1") ∧
      ((fresh object).lookedUp h ["events"]).maps = [] ∧
      answer h object ["events"] "events" = .error (.mapNotFound "events") ∧
      ¬Traceless h object [] "events" ∧ ¬Traceless h object ["events"] "events" := by
  intro object h
  have has : Has object "events" 1 := rfl
  have other : 1 ≠ eventArrayKind := by decide
  refine ⟨rfl, answer_other List.not_mem_nil has other, rfl,
    answer_asked List.mem_cons_self, ?_, ?_⟩
  · exact fun rule => other (rule.kind_eq has)
  · exact fun rule => other (rule.kind_eq has)

end

end FileTrace.Host.Opened
