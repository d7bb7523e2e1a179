import Mathlib
import FileTrace.CommandLine.Parse
import FileTrace.Proofs.Text.Numeral

namespace FileTrace

theorem Target.ofName?_name (t : Target) : ofName? t.name = some t := by
  cases t <;> decide

namespace CommandLine

inductive Reads : Setting → String → Assignment → Prop
  | object {path : String} : path ≠ "" → Reads .object path (.object path)
  | btf {path : String} : path ≠ "" → Reads .btf path (.btf path)
  | target (t : Target) : Reads .target t.name (.target t)
  | pages {text : String} {n : Nat} : Numeral.Literal Numeral.word64 text.toList n →
      Reads .pages text (.pages n)
  | pollTimeout {text : String} {n : Nat} : Numeral.Literal Numeral.word64 text.toList n →
      Reads .pollTimeout text (.pollTimeout n)
  | layout (choice : LayoutChoice) : Reads .layout choice.name (.layout choice)
  | threshold {text : String} {r : Release} : Release.parse? text = some r →
      Reads .threshold text (.threshold r)

inductive Gives : String → Assignment → Prop
  | verbose : Gives "--verbose" .verbose
  | short : Gives "-v" .verbose
  | json : Gives "--json" .json
  | setting {s : Setting} {value : String} {a : Assignment} : Reads s value a →
      Gives ("--" ++ s.long ++ "=" ++ value) a

section

variable {s : Setting} {value : String} {a : Assignment}

theorem Reads.parameter (h : Reads s value a) : a.parameter = .setting s := by
  cases h <;> rfl

theorem LayoutChoice.ofName?_name (choice : LayoutChoice) :
    LayoutChoice.ofName? choice.name = some choice := by
  cases choice <;> decide

theorem Assignment.readPath_ok {path : String} (h : path ≠ "") :
    readPath s path = .ok path := by
  rw [readPath, if_neg]
  simpa using h

theorem Assignment.readNumber_ok {n : Nat}
    (h : Numeral.Literal Numeral.word64 value.toList n) : readNumber s value = .ok n := by
  rw [readNumber, h.read]

theorem Reads.ofValue (h : Reads s value a) : Assignment.ofValue s value = .ok a := by
  cases h with
  | object some => rw [Assignment.ofValue, Assignment.readPath_ok some, Except.map]
  | btf some => rw [Assignment.ofValue, Assignment.readPath_ok some, Except.map]
  | target t =>
    rw [Assignment.ofValue, Target.ofName?_name, Assignment.readChoice, Except.map]
  | pages numeral => rw [Assignment.ofValue, Assignment.readNumber_ok numeral, Except.map]
  | pollTimeout numeral => rw [Assignment.ofValue, Assignment.readNumber_ok numeral, Except.map]
  | layout choice =>
    rw [Assignment.ofValue, LayoutChoice.ofName?_name, Assignment.readChoice, Except.map]
  | threshold parsed => rw [Assignment.ofValue, Assignment.readRelease, parsed, Except.map]

end

theorem Setting.ofLong?_long (s : Setting) : Parameter.ofLong? s.long = some (.setting s) := by
  cases s <;> decide

theorem Setting.equals_not_mem_long (s : Setting) : '=' ∉ s.long.toList := by
  cases s <;> decide

namespace Reader

theorem splitValue_attached {name : List Char} (bare : '=' ∉ name) (value : List Char) :
    splitValue (name ++ '=' :: value) = (String.ofList name, some (String.ofList value)) := by
  have kept : ∀ c ∈ name, (c != '=') = true := fun c hc =>
    bne_iff_ne.mpr fun same => bare (same ▸ hc)
  rw [splitValue, List.takeWhile_append_of_pos kept, List.dropWhile_append_of_pos kept]
  simp

theorem readArgument_attached (s : Setting) (value : String) (r : Reader) :
    r.readArgument ("--" ++ s.long ++ "=" ++ value) = r.assign s value := by
  have parts : ("--" ++ s.long ++ "=" ++ value).toList =
      '-' :: '-' :: (s.long.toList ++ '=' :: value.toList) := by
    simp [String.toList_append]
  simp only [readArgument, parts, splitValue_attached s.equals_not_mem_long, String.ofList_toList,
    readLong, s.ofLong?_long]

def behind (given : Given) : Reader := ⟨given, .none⟩

theorem takeFlag_behind {given : Given} {f : Flag} {a : Assignment} (form : Form)
    (stands : Assignment.ofFlag form f = .ok a) (fresh : given.has (.flag f) = false) :
    (behind given).takeFlag form f = .ok (behind (given ++ [a])) := by
  simp [takeFlag, settle, behind, Given.take, Given.add, fresh, stands, Except.map]

theorem assign_behind {given : Given} {s : Setting} {value : String} {a : Assignment}
    (reads : Reads s value a) (fresh : given.has (.setting s) = false) :
    (behind given).assign s value = .ok (behind (given ++ [a])) := by
  simp [assign, settle, behind, Given.assign, Given.add, fresh, reads.ofValue, Except.map]

end Reader

open Reader (behind)

theorem Gives.read {given : Given} {argument : String} {a : Assignment} (h : Gives argument a)
    (fresh : a.parameter ∉ given.parameters) :
    (behind given).readArgument argument = .ok (behind (given ++ [a])) := by
  have absent : given.has a.parameter = false := by simpa [Given.has] using fresh
  cases h with
  | verbose => exact Reader.takeFlag_behind .long rfl absent
  | short =>
    change (behind given).readLetters ['v'] = _
    rw [Reader.readLetters, show Parameter.ofShort? 'v' = some (.flag .verbose) by decide]
    simp only [Reader.takeFlag_behind .short rfl absent, Reader.readLetters]
  | json => exact Reader.takeFlag_behind .long rfl absent
  | setting reads =>
    rw [Reader.readArgument_attached]
    exact Reader.assign_behind reads (reads.parameter ▸ absent)

theorem Gives.ne_hyphens {argument : String} {a : Assignment} (h : Gives argument a) :
    argument ≠ "--" := by
  cases h with
  | verbose => decide
  | short => decide
  | json => decide
  | setting reads =>
    intro same
    have equals := congrArg (fun text : String => '=' ∈ text.toList) same
    simp at equals

-- No value is awaited between two arguments, so what was given is all that a reader has to carry.
theorem readAll_gives {given : Given} {arguments : List String} {more : List Assignment}
    (written : List.Forall₂ Gives arguments more) (once : (given ++ more).parameters.Nodup) :
    (behind given).readAll arguments = .ok (behind (given ++ more)) := by
  induction written generalizing given with
  | nil => rw [Reader.readAll, List.append_nil]
  | @cons argument a arguments more first _ ih =>
    have fresh : a.parameter ∉ given.parameters := by
      rw [Given.parameters, List.map_append, List.map_cons] at once
      exact fun before => (List.nodup_middle.mp once).notMem (List.mem_append_left _ before)
    rw [List.append_cons] at once ⊢
    unfold Reader.readAll
    simp only [if_neg first.ne_hyphens, first.read fresh]
    exact ih once

theorem parse_gives {given : Given} {arguments : List String} (environment : Option String)
    (written : List.Forall₂ Gives arguments given) (once : given.parameters.Nodup) :
    parse environment arguments = given.complete environment := by
  have read : Reader.start.readAll arguments = .ok (behind given) := readAll_gives written once
  simp only [parse, read, behind, Reader.settle]

structure LooksUp {α : Type} (p : Parameter) (value? : Assignment → Option α)
    (tag : α → Assignment) : Prop where
  finds : ∀ a x, value? a = some x ↔ a = tag x
  parameter : ∀ x, (tag x).parameter = p

namespace LooksUp

variable {α : Type} {p : Parameter} {value? : Assignment → Option α} {tag : α → Assignment}
  {given others : Given}

theorem mem_of_findSome? (looks : LooksUp p value? tag) {x : α}
    (h : given.findSome? value? = some x) : tag x ∈ given := by
  obtain ⟨a, inside, found⟩ := List.exists_of_findSome?_eq_some h
  exact (looks.finds a x).mp found ▸ inside

theorem not_mem_of_findSome? (looks : LooksUp p value? tag)
    (h : given.findSome? value? = none) (x : α) : tag x ∉ given := by
  intro inside
  have missed := List.findSome?_eq_none_iff.mp h _ inside
  rw [(looks.finds _ x).mpr rfl] at missed
  cases missed

theorem findSome?_eq_some_iff (looks : LooksUp p value? tag) (once : given.parameters.Nodup)
    {x : α} : given.findSome? value? = some x ↔ tag x ∈ given := by
  refine ⟨looks.mem_of_findSome?, fun inside => ?_⟩
  have found : (given.findSome? value?).isSome :=
    List.findSome?_isSome_iff.mpr ⟨tag x, inside, by rw [(looks.finds _ x).mpr rfl]; rfl⟩
  obtain ⟨y, first⟩ := Option.isSome_iff_exists.mp found
  have same : tag x = tag y := List.inj_on_of_nodup_map once inside (looks.mem_of_findSome? first)
    ((looks.parameter x).trans (looks.parameter y).symm)
  rw [first, ← (looks.finds _ y).mpr rfl]
  exact (looks.finds _ x).mpr same.symm

theorem findSome?_perm (looks : LooksUp p value? tag) (once : given.parameters.Nodup)
    (perm : given.Perm others) : given.findSome? value? = others.findSome? value? := by
  have once' : others.parameters.Nodup := (perm.map _).nodup_iff.mp once
  ext x
  rw [looks.findSome?_eq_some_iff once, looks.findSome?_eq_some_iff once', perm.mem_iff]

theorem findSome?_eq_none (looks : LooksUp p value? tag) (absent : p ∉ given.parameters) :
    given.findSome? value? = none := by
  refine List.findSome?_eq_none_iff.mpr fun a inside => ?_
  cases found : value? a with
  | none => rfl
  | some x =>
    obtain rfl := (looks.finds a x).mp found
    exact absurd (looks.parameter x ▸ List.mem_map_of_mem inside) absent

end LooksUp

def Setting.Value : Setting → Type
  | .object | .btf => String
  | .target => Target
  | .pages | .pollTimeout => Nat
  | .layout => LayoutChoice
  | .threshold => Release

namespace Assignment

def ofSetting : (s : Setting) → s.Value → Assignment
  | .object => .object
  | .btf => .btf
  | .target => .target
  | .pages => .pages
  | .pollTimeout => .pollTimeout
  | .layout => .layout
  | .threshold => .threshold

def value? : (s : Setting) → Assignment → Option s.Value
  | .object => fun | .object path => some path | _ => none
  | .btf => fun | .btf path => some path | _ => none
  | .target => fun | .target t => some t | _ => none
  | .pages => fun | .pages count => some count | _ => none
  | .pollTimeout => fun | .pollTimeout milliseconds => some milliseconds | _ => none
  | .layout => fun | .layout choice => some choice | _ => none
  | .threshold => fun | .threshold release => some release | _ => none

theorem value?_ofSetting (s : Setting) (x : s.Value) : value? s (ofSetting s x) = some x := by
  cases s <;> rfl

theorem eq_ofSetting {s : Setting} {a : Assignment} {x : s.Value} (h : value? s a = some x) :
    a = ofSetting s x := by
  cases s <;> cases a <;> cases h <;> rfl

end Assignment

theorem looksUp (s : Setting) :
    LooksUp (.setting s) (Assignment.value? s) (Assignment.ofSetting s) where
  finds a x := ⟨Assignment.eq_ofSetting, fun same => same ▸ Assignment.value?_ofSetting s x⟩
  parameter _ := by cases s <;> rfl

theorem complete_perm {given others : Given} (environment : Option String)
    (once : given.parameters.Nodup) (perm : given.Perm others) :
    given.complete environment = others.complete environment := by
  have parameters : given.parameters.Perm others.parameters := perm.map _
  have has (p : Parameter) : given.has p = others.has p := by
    rw [Given.has, Given.has, parameters.contains_eq]
  have object : given.object? = others.object? := (looksUp .object).findSome?_perm once perm
  have btf : given.btf? = others.btf? := (looksUp .btf).findSome?_perm once perm
  have target : given.target? = others.target? := (looksUp .target).findSome?_perm once perm
  have pages : given.pages? = others.pages? := (looksUp .pages).findSome?_perm once perm
  have pollTimeout : given.pollTimeout? = others.pollTimeout? :=
    (looksUp .pollTimeout).findSome?_perm once perm
  have layout : given.layout? = others.layout? := (looksUp .layout).findSome?_perm once perm
  have threshold : given.threshold? = others.threshold? :=
    (looksUp .threshold).findSome?_perm once perm
  simp only [Given.complete, Given.btfOr, has, object, btf, target, pages, pollTimeout, layout,
    threshold]

theorem complete_default {given : Given} {s : Setting} {text : String} (environment : Option String)
    (documented : s.default? = some text) (absent : .setting s ∉ given.parameters) :
    ∃ a, Reads s text a ∧ Given.complete environment (a :: given) = given.complete environment := by
  have unset : given.findSome? (Assignment.value? s) = none := (looksUp s).findSome?_eq_none absent
  cases s with
  | object =>
    cases documented
    refine ⟨.object _, .object (by decide), ?_⟩
    rw [Given.complete, Given.complete, show given.object? = none from unset]
    rfl
  | btf => cases documented
  | target =>
    cases documented
    refine ⟨.target _, .target .openat, ?_⟩
    rw [Given.complete, Given.complete, show given.target? = none from unset]
    rfl
  | pages =>
    cases documented
    refine ⟨.pages 16, .pages (Numeral.literal_of_read (by decide) (by rfl)), ?_⟩
    rw [Given.complete, Given.complete, show given.pages? = none from unset]
    rfl
  | pollTimeout =>
    cases documented
    refine ⟨.pollTimeout 100, .pollTimeout (Numeral.literal_of_read (by decide) (by rfl)), ?_⟩
    rw [Given.complete, Given.complete, show given.pollTimeout? = none from unset]
    rfl
  | layout =>
    cases documented
    refine ⟨.layout _, .layout .auto, ?_⟩
    rw [Given.complete, Given.complete, show given.layout? = none from unset]
    rfl
  | threshold =>
    cases documented
    refine ⟨.threshold defaultThreshold, .threshold (by decide), ?_⟩
    rw [Given.complete, Given.complete, show given.threshold? = none from unset]
    rfl

theorem parse_default {given : Given} {arguments : List String} {s : Setting} {text : String}
    (environment : Option String) (written : List.Forall₂ Gives arguments given)
    (once : given.parameters.Nodup) (documented : s.default? = some text)
    (absent : .setting s ∉ given.parameters) :
    parse environment (("--" ++ s.long ++ "=" ++ text) :: arguments) =
      parse environment arguments := by
  obtain ⟨a, reads, unchanged⟩ := complete_default environment documented absent
  rw [← reads.parameter] at absent
  have once' : (Given.parameters (a :: given)).Nodup := List.nodup_cons.mpr ⟨absent, once⟩
  rw [parse_gives environment (.cons (.setting reads) written) once',
    parse_gives environment written once, unchanged]

def Chosen {α : Type} (given : Given) (tag : α → Assignment) (preset value : α) : Prop :=
  tag value ∈ given ∨ (∀ x, tag x ∉ given) ∧ value = preset

inductive BtfOf (given : Given) (environment : Option String) : Option String → Prop
  | given {path : String} : .btf path ∈ given → BtfOf given environment (some path)
  | environment : (∀ path, .btf path ∉ given) → BtfOf given environment environment

inductive PolicyOf (given : Given) : LayoutChoice → LayoutPolicy → Prop
  | auto {r : Release} : Chosen given .threshold ⟨"5.9.0", [5, 9, 0]⟩ r →
      PolicyOf given .auto (.auto r)
  | legacy : PolicyOf given .legacy (.fixed .legacy)
  | current : PolicyOf given .current (.fixed .current)

structure Carries (given : Given) (environment : Option String) (s : Settings) : Prop where
  verbose : s.config.request.verbose = true ↔ .verbose ∈ given
  json : s.json = true ↔ .json ∈ given
  object : Chosen given .object "example.bpf.o" s.config.request.path
  btf : BtfOf given environment s.config.request.btf
  target : Chosen given .target .openat s.config.target
  pages : Chosen given .pages 16 s.config.pages
  pollTimeout : Chosen given .pollTimeout 100 s.config.pollTimeout
  layout : ∃ choice, Chosen given .layout .auto choice ∧ PolicyOf given choice s.config.layout

theorem LooksUp.chosen {α : Type} {p : Parameter} {value? : Assignment → Option α}
    {tag : α → Assignment} {given : Given} (looks : LooksUp p value? tag) (preset : α) :
    Chosen given tag preset ((given.findSome? value?).getD preset) := by
  cases h : given.findSome? value? with
  | some x => exact .inl (looks.mem_of_findSome? h)
  | none => exact .inr ⟨looks.not_mem_of_findSome? h, rfl⟩

theorem has_flag_iff {given : Given} {f : Flag} {a : Assignment}
    (only : ∀ b : Assignment, b.parameter = .flag f ↔ b = a) :
    given.has (.flag f) = true ↔ a ∈ given := by
  simp [Given.has, Given.parameters, only]

theorem btfOr_ok {environment : Option String} (set : environment ≠ some "") (given : Given) :
    ∃ btf, given.btfOr environment = .ok btf ∧ BtfOf given environment btf := by
  cases h : given.btf? with
  | some path =>
    refine ⟨some path, ?_, .given ((looksUp .btf).mem_of_findSome? h)⟩
    simp only [Given.btfOr, h]
  | none =>
    refine ⟨environment, ?_, .environment ((looksUp .btf).not_mem_of_findSome? h)⟩
    cases environment with
    | none => simp only [Given.btfOr, h]
    | some path =>
      have named : path ≠ "" := fun empty => set (congrArg some empty)
      simp only [Given.btfOr, h, Assignment.readPath_ok named, Except.map]

theorem policyOf {given : Given} {choice : LayoutChoice} (s : Settings) (same : s.layout = choice)
    (threshold : Chosen given .threshold ⟨"5.9.0", [5, 9, 0]⟩ s.threshold) :
    PolicyOf given choice s.config.layout := by
  unfold Settings.config Settings.policy
  rw [same]
  cases choice with
  | auto => exact .auto threshold
  | legacy => exact .legacy
  | current => exact .current

theorem complete_carries {environment : Option String} (set : environment ≠ some "")
    (given : Given) : ∃ s, given.complete environment = .ok s ∧ Carries given environment s := by
  obtain ⟨btf, ok, of⟩ := btfOr_ok set given
  refine ⟨_, by rw [Given.complete, ok, Except.map], ?_⟩
  exact {
    verbose := has_flag_iff fun b => by cases b <;> simp [Assignment.parameter]
    json := has_flag_iff fun b => by cases b <;> simp [Assignment.parameter]
    object := (looksUp .object).chosen _
    btf := of
    target := (looksUp .target).chosen _
    pages := (looksUp .pages).chosen _
    pollTimeout := (looksUp .pollTimeout).chosen _
    layout := ⟨given.layout?.getD .auto, (looksUp .layout).chosen _,
      policyOf _ rfl ((looksUp .threshold).chosen _)⟩ }

theorem parse_any_order {given : Given} {arguments : List String} {environment : Option String}
    (set : environment ≠ some "") (written : List.Forall₂ Gives arguments given)
    (once : given.parameters.Nodup) :
    ∃ s, Carries given environment s ∧
      ∀ others, others.Perm arguments → parse environment others = .ok s := by
  obtain ⟨s, complete, carries⟩ := complete_carries set given
  refine ⟨s, carries, fun others perm => ?_⟩
  obtain ⟨moved, written', perm'⟩ := List.perm_comp_forall₂ perm written
  have once' : (Given.parameters moved).Nodup := (perm'.map _).nodup_iff.mpr once
  rw [parse_gives environment written' once', complete_perm environment once' perm', complete]

theorem parse_any_order_layout :
    let given : Given := [.layout .legacy, .verbose, .pages 64, .btf "/x=y",
      .threshold ⟨"5.6.0-rc1", [5, 6, 0]⟩]
    let arguments := ["--layout=legacy", "-v", "--pages=+064", "--btf=/x=y",
      "--layout-threshold=5.6.0-rc1"]
    ∃ s, Carries given (some "/env") s ∧
      ∀ others, others.Perm arguments → parse (some "/env") others = .ok s := by
  intro given arguments
  refine parse_any_order (by decide) ?_ (by decide)
  have layout : Gives "--layout=legacy" (.layout .legacy) := .setting (.layout .legacy)
  have pages : Gives "--pages=+064" (.pages 64) :=
    @Gives.setting _ "+064" _ (.pages (Numeral.literal_of_read (by decide) (by rfl)))
  have btf : Gives "--btf=/x=y" (.btf "/x=y") := @Gives.setting _ "/x=y" _ (.btf (by decide))
  have threshold : Gives "--layout-threshold=5.6.0-rc1" (.threshold ⟨"5.6.0-rc1", [5, 6, 0]⟩) :=
    @Gives.setting _ "5.6.0-rc1" _ (.threshold (by decide))
  exact .cons layout (.cons .short (.cons pages (.cons btf (.cons threshold .nil))))

end CommandLine

end FileTrace
