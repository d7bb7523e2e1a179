import FileTrace.Proofs.Text.Numeral
import FileTrace.Session

namespace FileTrace.Release

abbrev Separator := { c : Char // isSeparator c = true }

def components (text : List Char) : List (List Char) := text.splitOnP isSeparator

abbrev Spells (component : List Char) (n : UInt32) : Prop :=
  Numeral.Literal Numeral.word32 component n.toNat

def LeadingRun (components : List (List Char)) (numbers : List UInt32) : Prop :=
  ∃ run rest, components = run ++ rest ∧ List.Forall₂ Spells run numbers ∧
    ∀ component ∈ rest.head?, ∀ n, ¬ Spells component n

theorem number?_eq_some {component : List Char} {n : UInt32} :
    number? component = some n ↔ Spells component n := by
  rw [Spells, ← Numeral.read_ok_iff (by decide), number?]
  cases read : Numeral.read Numeral.word32 component with
  | error fault => simp
  | ok m =>
    have fits : m < 2 ^ 32 := by
      cases (Numeral.read_ok_iff (by decide)).mp read with
      | plain _ fits => exact fits
      | signed _ fits => exact fits
    simp only [Option.some.injEq, Except.ok.injEq]
    constructor
    · rintro rfl
      exact (UInt32.toNat_ofNat_of_lt' fits).symm
    · rintro rfl
      exact UInt32.ofNat_toNat

theorem number?_eq_none {component : List Char} :
    number? component = none ↔ ∀ n, ¬ Spells component n := by
  rw [Option.eq_none_iff_forall_ne_some]
  exact forall_congr' fun n => not_congr number?_eq_some

theorem leadingRun (components : List (List Char)) :
    LeadingRun components (leadingNumbers components) := by
  fun_induction leadingNumbers components with
  | case1 => exact ⟨[], [], rfl, .nil, nofun⟩
  | case2 component rest n number ih =>
    obtain ⟨run, others, rfl, numbers, ended⟩ := ih
    exact ⟨component :: run, others, rfl, .cons (number?_eq_some.mp number) numbers, ended⟩
  | case3 component rest noNumber =>
    refine ⟨[], component :: rest, rfl, .nil, fun c hc => ?_⟩
    rw [← Option.some.inj hc]
    exact number?_eq_none.mp noNumber

theorem leadingNumbers_append (front : List (List Char)) {junk : List Char}
    (noNumber : number? junk = none) (behind : List (List Char)) :
    leadingNumbers (front ++ junk :: behind) = leadingNumbers front := by
  induction front with
  | nil => simp [leadingNumbers, noNumber]
  | cons component front ih =>
    rw [List.cons_append, leadingNumbers, leadingNumbers]
    cases number? component with
    | none => rfl
    | some n => rw [ih]

def Begins (components : List (List Char)) : Prop :=
  ∃ first rest n, components = first :: rest ∧ Spells first n

theorem leadingNumbers_ne_nil {components : List (List Char)} :
    leadingNumbers components ≠ [] ↔ Begins components := by
  rw [Begins]
  cases components with
  | nil => simp [leadingNumbers]
  | cons first rest =>
    rw [leadingNumbers]
    cases number : number? first with
    | none => simp [number?_eq_none.mp number]
    | some n =>
      exact iff_of_true (List.cons_ne_nil _ _) ⟨first, rest, n, rfl, number?_eq_some.mp number⟩

theorem parse_ok {text : String} {release : Release} :
    parse text = .ok release ↔
      release.text = text ∧ release.parts = leadingNumbers (components text.toList) ∧
        release.parts ≠ [] := by
  obtain ⟨name, parts⟩ := release
  rw [parse, parse?, ← components]
  cases leadingNumbers (components text.toList) with
  | nil =>
    refine iff_of_false nofun ?_
    rintro ⟨-, empty, notEmpty⟩
    exact notEmpty empty
  | cons n numbers =>
    constructor
    · rintro ⟨⟩
      exact ⟨rfl, rfl, List.cons_ne_nil _ _⟩
    · rintro ⟨rfl, rfl, -⟩
      rfl

theorem parse_error {text : String} {e : TraceError} :
    parse text = .error e ↔
      e = .invalidRelease text ∧ leadingNumbers (components text.toList) = [] := by
  rw [parse, parse?, ← components]
  cases leadingNumbers (components text.toList) with
  | nil => simp [eq_comm]
  | cons n numbers => simp

theorem components_append (front : List Char) (s : Separator) (behind : List Char) :
    components (front ++ s.val :: behind) = components front ++ components behind :=
  List.splitOnP_append_cons front behind s.property

theorem components_single {text : List Char} (h : ∀ c ∈ text, isSeparator c = false) :
    components text = [text] :=
  List.splitOnP_eq_singleton h

inductive Tail : List Char → Prop
  | nothing : Tail []
  | more (s : Separator) (text : List Char) : Tail (s.val :: text)

theorem components_tail {text tail : List Char} (h : ∀ c ∈ text, isSeparator c = false)
    (ends : Tail tail) : ∃ others, components (text ++ tail) = text :: others := by
  cases ends with
  | nothing =>
    rw [List.append_nil, components_single h]
    exact ⟨[], rfl⟩
  | more s more =>
    rw [components_append, components_single h]
    exact ⟨components more, rfl⟩

def rendered (n : UInt32) (more : List (Separator × UInt32)) : List Char :=
  Numeral.decimal n.toNat ++ more.flatMap fun next => next.1.val :: Numeral.decimal next.2.toNat

theorem isSeparator_digit {c : Char} (h : c.isDigit = true) : isSeparator c = false := by
  rw [Bool.eq_false_iff]
  intro separator
  simp only [isSeparator, Bool.or_eq_true, beq_iff_eq] at separator
  rcases separator with (rfl | rfl) | rfl <;> exact absurd h (by decide)

theorem components_rendered (n : UInt32) (more : List (Separator × UInt32)) :
    components (rendered n more) =
      Numeral.decimal n.toNat :: more.map fun next => Numeral.decimal next.2.toNat := by
  have single (m : Nat) : components (Numeral.decimal m) = [Numeral.decimal m] :=
    components_single fun c hc => isSeparator_digit ((Numeral.digits_decimal m).digits c hc)
  induction more generalizing n with
  | nil => rw [rendered, List.flatMap_nil, List.append_nil, single, List.map_nil]
  | cons next more ih =>
    have later := ih next.2
    rw [rendered] at later
    rw [rendered, List.flatMap_cons, List.cons_append, components_append, single, later,
      List.map_cons, List.singleton_append]

theorem number?_decimal (n : UInt32) : number? (Numeral.decimal n.toNat) = some n :=
  number?_eq_some.mpr (.plain (Numeral.digits_decimal n.toNat) n.toNat_lt)

theorem leadingNumbers_decimal (numbers : List UInt32) :
    leadingNumbers (numbers.map fun n => Numeral.decimal n.toNat) = numbers := by
  induction numbers with
  | nil => rfl
  | cons n numbers ih => simp only [List.map_cons, leadingNumbers, number?_decimal, ih]

structure Parsing (text : String) : Prop where
  succeeds : (∃ release, parse text = .ok release) ↔ Begins (components text.toList)
  fails : parse text = .error (.invalidRelease text) ↔ ¬ Begins (components text.toList)
  reads : ∀ release, parse text = .ok release →
    release.text = text ∧ LeadingRun (components text.toList) release.parts
  ignores : ∀ release, parse text = .ok release → ∀ (s : Separator) (junk tail : List Char),
    (∀ c ∈ junk, isSeparator c = false) → (∀ n, ¬ Spells junk n) → Tail tail →
      let longer := text ++ String.ofList (s.val :: junk ++ tail)
      parse longer = .ok ⟨longer, release.parts⟩

theorem parsing (text : String) : Parsing text where
  succeeds := by
    rw [← leadingNumbers_ne_nil]
    constructor
    · rintro ⟨release, ok⟩
      obtain ⟨-, parts, notEmpty⟩ := parse_ok.mp ok
      exact parts ▸ notEmpty
    · intro notEmpty
      exact ⟨⟨text, _⟩, parse_ok.mpr ⟨rfl, rfl, notEmpty⟩⟩
  fails := by
    rw [← leadingNumbers_ne_nil, not_not, parse_error]
    exact and_iff_right rfl
  reads release ok := by
    obtain ⟨same, parts, -⟩ := parse_ok.mp ok
    exact ⟨same, parts ▸ leadingRun _⟩
  ignores release ok s junk tail whole noNumeral ends := by
    intro longer
    obtain ⟨-, parts, notEmpty⟩ := parse_ok.mp ok
    obtain ⟨others, split⟩ := components_tail whole ends
    refine parse_ok.mpr ⟨rfl, ?_, notEmpty⟩
    rw [String.toList_append, String.toList_ofList, List.cons_append, components_append, split,
      leadingNumbers_append _ (number?_eq_none.mpr noNumeral), parts]

theorem parse_rendered (n : UInt32) (more : List (Separator × UInt32)) :
    parse (String.ofList (rendered n more)) =
      .ok ⟨String.ofList (rendered n more), n :: more.map (·.2)⟩ := by
  have read := leadingNumbers_decimal (n :: more.map (·.2))
  rw [List.map_cons, List.map_map] at read
  refine parse_ok.mpr ⟨rfl, ?_, List.cons_ne_nil _ _⟩
  rw [String.toList_ofList, components_rendered]
  exact read.symm

theorem releases_parsed :
    (∀ text, Parsing text) ∧
      ∀ (n : UInt32) (more : List (Separator × UInt32)),
        parse (String.ofList (rendered n more)) =
          .ok ⟨String.ofList (rendered n more), n :: more.map (·.2)⟩ :=
  ⟨parsing, parse_rendered⟩

example : parse "6.1.0-arch1-1" = .ok ⟨"6.1.0-arch1-1", [6, 1, 0]⟩ := by rfl

end FileTrace.Release
