import FileTrace.Proofs.Sink.JsonLines

namespace FileTrace

namespace Delivery

theorem object_begins (d : Delivery) :
    ∃ c rest, Json.Inner c ∧ Json.object d.fields = '\x7b' :: '"' :: c :: rest := by
  have kind : "kind".toList = 'k' :: ['i', 'n', 'd'] := rfl
  have count : "count".toList = 'c' :: ['o', 'u', 'n', 't'] := rfl
  rcases d with (e | e) | ⟨cpu, lost⟩
  · obtain ⟨rest, begins⟩ := Json.object_begins kind rfl _ _
    exact ⟨'k', rest, by decide, begins⟩
  · obtain ⟨rest, begins⟩ := Json.object_begins kind rfl _ _
    exact ⟨'k', rest, by decide, begins⟩
  · obtain ⟨rest, begins⟩ := Json.object_begins count rfl _ _
    exact ⟨'c', rest, by decide, begins⟩

def brace : UInt8 := 0x7B

theorem brace_cons (d : Delivery) : ∃ inner, d.object = brace :: inner := by
  obtain ⟨c, rest, _, begins⟩ := d.object_begins
  exact ⟨Text.encode ('"' :: c :: rest), by rw [object, begins]; rfl⟩

-- The fragment may end within a character, but the object behind it begins with a byte that is a
-- character of its own.
theorem read_behind_fragment (fragment : List UInt8) (d : Delivery) :
    read? (brace :: fragment ++ d.object) = none := by
  obtain ⟨c, rest, inner, begins⟩ := d.object_begins
  obtain ⟨bytes, again⟩ := d.brace_cons
  have object : Text.decodeLossy (brace :: bytes) = '\x7b' :: '"' :: c :: rest := by
    rw [← again, Delivery.object, Text.decodeLossy_encode, begins]
  have text : Text.decodeLossy (brace :: fragment ++ d.object) =
      '\x7b' :: (Text.decodeLossy fragment ++ '\x7b' :: '"' :: c :: rest) := by
    rw [again, List.cons_append, Text.decodeLossy_low (by decide),
      Text.decodeLossy_append _ _ (by decide), object]
    rfl
  rw [read?]
  cases decoded : Text.decode? (brace :: fragment ++ d.object) with
  | none => rfl
  | some read =>
    have whole := (Text.decode_eq_some decoded).trans text
    change (Json.read? read).bind ofFields? = none
    rw [whole, Json.read_again _ inner]
    rfl

end Delivery

namespace Sink.Attempt

open Text (newline)

def Torn (a : Attempt) : Prop := a.complete = false ∧ a.stored ≠ []

theorem line_json {a : Attempt} (json : a.kind = .json) :
    a.line = a.delivery.object ++ [newline] := by
  rw [line, json, Delivery.encode_line]

theorem stored_complete {a : Attempt} (json : a.kind = .json) (whole : a.complete = true) :
    a.stored = a.delivery.object ++ [newline] := by
  rw [stored_of_complete whole, line_json json]

theorem stored_front {a : Attempt} (json : a.kind = .json) (failed : a.complete = false) :
    a.stored <+: a.delivery.object := by
  obtain ⟨room, short, front⟩ := stored_of_incomplete failed
  rw [line_json json, List.length_append, List.length_singleton] at short
  rw [front, line_json json, List.take_append_of_le_length (Nat.le_of_lt_succ short)]
  exact List.take_prefix _ _

theorem newline_not_mem_stored {a : Attempt} (json : a.kind = .json) (failed : a.complete = false) :
    newline ∉ a.stored := fun inside =>
  a.delivery.newline_not_mem_object ((stored_front json failed).subset inside)

def Begun (fragment : List UInt8) : Prop :=
  fragment = [] ∨ ∃ inner, fragment = Delivery.brace :: inner

theorem Begun.append {fragment : List UInt8} (begun : Begun fragment) {a : Attempt}
    (json : a.kind = .json) (failed : a.complete = false) : Begun (fragment ++ a.stored) := by
  rcases begun with rfl | ⟨inner, rfl⟩
  · obtain ⟨object, begins⟩ := a.delivery.brace_cons
    have front := stored_front json failed
    rw [begins] at front
    rcases List.prefix_cons_iff.mp front with nothing | ⟨inner, begins, _⟩
    · exact .inl nothing
    · exact .inr ⟨inner, begins⟩
  · exact .inr ⟨inner ++ a.stored, rfl⟩

/-- The finished lines that attempts leave, when a fragment stands on the first of them already. -/
def lines (fragment : List UInt8) : List Attempt → List (List UInt8)
  | [] => []
  | a :: rest =>
    if a.complete then (fragment ++ a.delivery.object) :: lines [] rest
    else lines (fragment ++ a.stored) rest

theorem lines_stored {attempts : List Attempt} (json : ∀ a ∈ attempts, a.kind = .json)
    {fragment : List UInt8} (unended : newline ∉ fragment) :
    Text.lines (fragment ++ attempts.flatMap stored) = lines fragment attempts := by
  induction attempts generalizing fragment with
  | nil => rw [List.flatMap_nil, List.append_nil, Text.lines_of_not_mem unended, lines]
  | cons a rest ih =>
    obtain ⟨here, later⟩ := List.forall_mem_cons.mp json
    rw [List.flatMap_cons, lines]
    split
    · next whole =>
      have line : newline ∉ fragment ++ a.delivery.object :=
        List.not_mem_append unended a.delivery.newline_not_mem_object
      have next : Text.lines ([] ++ rest.flatMap stored) = lines [] rest := ih later nofun
      rw [List.nil_append] at next
      rw [stored_complete here whole, ← next, ← Text.lines_cons line]
      simp
    · next failed =>
      have failed := Bool.eq_false_iff.mpr failed
      have line : newline ∉ fragment ++ a.stored :=
        List.not_mem_append unended (newline_not_mem_stored here failed)
      rw [← ih later line, List.append_assoc]

theorem length_lines (fragment : List UInt8) (attempts : List Attempt) :
    (lines fragment attempts).length = attempts.countP (·.complete) := by
  induction attempts generalizing fragment with
  | nil => rfl
  | cons a rest ih =>
    rw [lines, List.countP_cons]
    split
    · rw [List.length_cons, ih]
    · rw [ih, Nat.add_zero]

theorem read_line {fragment : List UInt8} (begun : Begun fragment) (d : Delivery) :
    Delivery.read? (fragment ++ d.object) = if fragment = [] then some d else none := by
  rcases begun with rfl | ⟨inner, rfl⟩
  · exact d.read_object
  · exact Delivery.read_behind_fragment inner d

theorem lines_genuine {attempts : List Attempt} (json : ∀ a ∈ attempts, a.kind = .json)
    {fragment : List UInt8} (begun : Begun fragment) :
    ∀ line ∈ lines fragment attempts, ∀ d, Delivery.read? line = some d →
      line = d.object ∧ d ∈ attempts.map (·.delivery) := by
  induction attempts generalizing fragment with
  | nil => exact nofun
  | cons a rest ih =>
    obtain ⟨here, later⟩ := List.forall_mem_cons.mp json
    intro line inside d read
    rw [lines] at inside
    split at inside
    · rcases List.mem_cons.mp inside with rfl | inside
      · rw [read_line begun] at read
        split at read
        · next empty =>
          cases read
          exact ⟨by rw [empty, List.nil_append], List.mem_cons_self⟩
        · cases read
      · obtain ⟨same, delivered⟩ := ih later (.inl rfl) line inside d read
        exact ⟨same, List.mem_cons_of_mem _ delivered⟩
    · next failed =>
      have begun := begun.append here (Bool.eq_false_iff.mpr failed)
      obtain ⟨same, delivered⟩ := ih later begun line inside d read
      exact ⟨same, List.mem_cons_of_mem _ delivered⟩

-- A fragment spoils the next complete line, if there is one, and every torn attempt leaves one.
theorem lines_read_iff {attempts : List Attempt} (json : ∀ a ∈ attempts, a.kind = .json)
    {fragment : List UInt8} (begun : Begun fragment) :
    (∀ line ∈ lines fragment attempts, (Delivery.read? line).isSome) ↔
      (fragment ≠ [] → ∀ a ∈ attempts, a.complete = false) ∧
        attempts.Pairwise fun a b => a.Torn → b.complete = false := by
  induction attempts generalizing fragment with
  | nil => simp [lines]
  | cons a rest ih =>
    obtain ⟨here, later⟩ := List.forall_mem_cons.mp json
    rw [lines, List.pairwise_cons, List.forall_mem_cons]
    split
    · next whole =>
      have intact : ¬a.Torn := fun torn => by rw [torn.1] at whole; cases whole
      rw [List.forall_mem_cons, ih later (.inl rfl), read_line begun]
      by_cases empty : fragment = [] <;> simp [empty, whole, intact]
    · next failed =>
      have failed := Bool.eq_false_iff.mpr failed
      rw [ih later (begun.append here failed)]
      by_cases nothing : a.stored = []
      · have intact : ¬a.Torn := fun torn => torn.2 nothing
        simp [nothing, intact, failed]
      · have torn : a.Torn := ⟨failed, nothing⟩
        simp only [ne_eq, List.append_eq_nil_iff, nothing, and_false, not_false_eq_true,
          forall_const, torn, failed, true_and]
        tauto

end Sink.Attempt

namespace Sink

open Attempt

structure LinesOf (calls : List Delivery) (attempts : List Attempt) (stream : List UInt8) :
    Prop where
  attempted : attempts.map (·.delivery) = calls
  count : (Text.lines stream).length = attempts.countP (·.complete)
  genuine : ∀ line ∈ Text.lines stream, ∀ d, Delivery.read? line = some d →
    line = d.object ∧ d ∈ calls
  whole : (∀ line ∈ Text.lines stream, ∃ d ∈ calls, line = d.object) ↔
    attempts.Pairwise fun a b => a.Torn → b.complete = false

theorem json_lines_of_attempts (room : Option Nat) (steps : List SinkStep) :
    LinesOf (steps.filterMap SinkStep.delivery?) (attempts ⟨.json, ⟨[], room⟩⟩ steps)
      (run ⟨.json, ⟨[], room⟩⟩ steps).1.writer.output := by
  have json := attempts_json ⟨[], room⟩ steps
  have stream := run_output ⟨.json, ⟨[], room⟩⟩ steps
  have attempted := attempts_deliveries ⟨.json, ⟨[], room⟩⟩ steps
  generalize attempts ⟨.json, ⟨[], room⟩⟩ steps = attempts at json stream attempted ⊢
  have lines : Text.lines ([] ++ attempts.flatMap stored) = lines [] attempts :=
    lines_stored json nofun
  have genuine := lines_genuine json (.inl rfl)
  rw [attempted] at genuine
  rw [stream]
  refine ⟨attempted, ?_, ?_, ?_⟩
  · rw [lines, length_lines]
  · rwa [lines]
  · rw [lines]
    have readable := lines_read_iff json (.inl rfl : Begun [])
    simp only [ne_eq, not_true_eq_false, false_implies, true_and] at readable
    rw [← readable]
    refine forall₂_congr fun line inside => ⟨?_, fun reads => ?_⟩
    · rintro ⟨d, _, rfl⟩
      rw [Delivery.read_object]
      rfl
    · obtain ⟨d, read⟩ := Option.isSome_iff_exists.mp reads
      obtain ⟨same, delivered⟩ := genuine line inside d read
      exact ⟨d, delivered, same⟩

theorem json_lines_run_together :
    let steps : List SinkStep := [.deliver (.loss ⟨0⟩ 1), .room none, .deliver (.loss ⟨1⟩ 2)]
    ¬∀ line ∈ Text.lines (run ⟨.json, ⟨[], some 33⟩⟩ steps).1.writer.output,
      ∃ d ∈ steps.filterMap SinkStep.delivery?, line = d.object := by
  decide

end Sink

end FileTrace
