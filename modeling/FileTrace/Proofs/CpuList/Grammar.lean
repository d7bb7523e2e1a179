import FileTrace.CpuList
import FileTrace.Proofs.Text.Blank
import FileTrace.Proofs.Text.Numeral

namespace FileTrace.CpuList

open Numeral (Literal Broken word32)
open Text (Trimmed)

structure Span (first last : UInt32) (cpus : List CpuId) : Prop where
  ascending : cpus.Pairwise (·.val < ·.val)
  mem : ∀ c, c ∈ cpus ↔ first ≤ c.val ∧ c.val ≤ last

inductive Spells : List Char → List CpuId → Prop
  | id {piece : List Char} {n : UInt32} : Literal word32 piece n.toNat → Spells piece [⟨n⟩]
  | range {first last : List Char} {a b : UInt32} {cpus : List CpuId} : '-' ∉ first →
      Literal word32 first a.toNat → Literal word32 last b.toNat → Span a b cpus →
      Spells (first ++ '-' :: last) cpus

inductive Misspells : List Char → Fault → Prop
  | id {piece : List Char} {cause : Numeral.Fault} : '-' ∉ piece → Broken word32 piece cause →
      Misspells piece (.badId (String.ofList piece) cause)
  | first {first last : List Char} {cause : Numeral.Fault} : '-' ∉ first →
      Broken word32 first cause →
      Misspells (first ++ '-' :: last) (.badRange (String.ofList (first ++ '-' :: last)) cause)
  | last {first last : List Char} {n : Nat} {cause : Numeral.Fault} : '-' ∉ first →
      Literal word32 first n → Broken word32 last cause →
      Misspells (first ++ '-' :: last) (.badRange (String.ofList (first ++ '-' :: last)) cause)

def WellFormed (piece : List Char) : Prop := ∃ cpus, Spells piece cpus

def Contributes (piece : List Char) : Prop := ∃ cpus, Spells piece cpus ∧ cpus ≠ []

def Barren (pieces : List (List Char)) : Prop :=
  (∀ piece ∈ pieces, WellFormed piece) ∧ ¬ ∃ piece ∈ pieces, Contributes piece

def FirstBad (pieces : List (List Char)) (fault : Fault) : Prop :=
  ∃ good bad rest, pieces = good ++ bad :: rest ∧ (∀ piece ∈ good, WellFormed piece) ∧
    Misspells bad fault

/-- What stands between the commas of a text without the blanks around it, empty pieces left out. -/
inductive Cut (text : List Char) : List (List Char) → Prop
  | at {body : List Char} {fields : List (List Char)} : Trimmed text body → fields ≠ [] →
      (∀ field ∈ fields, ',' ∉ field) → [','].intercalate fields = body →
      Cut text (fields.filter (!·.isEmpty))

theorem toNat_of_mem_range' {first last : UInt32} {n : Nat}
    (h : n ∈ List.range' first.toNat (last.toNat + 1 - first.toNat)) :
    (UInt32.ofNat n).toNat = n ∧ first.toNat ≤ n ∧ n ≤ last.toNat := by
  have bounds := List.mem_range'_1.mp h
  have fits : n < 2 ^ 32 := by
    have most := last.toNat_lt
    omega
  exact ⟨UInt32.toNat_ofNat_of_lt' fits, by omega, by omega⟩

theorem span_range (first last : UInt32) : Span first last (range first.toNat last.toNat) := by
  constructor
  · rw [range, List.pairwise_map]
    refine List.Pairwise.imp_of_mem ?_ (List.pairwise_lt_range' 1)
    intro m n hm hn less
    rwa [UInt32.lt_iff_toNat_lt, (toNat_of_mem_range' hm).1, (toNat_of_mem_range' hn).1]
  · intro c
    rw [range, List.mem_map, UInt32.le_iff_toNat_le, UInt32.le_iff_toNat_le]
    constructor
    · rintro ⟨n, inside, rfl⟩
      obtain ⟨same, bounds⟩ := toNat_of_mem_range' inside
      rwa [same]
    · rintro ⟨least, most⟩
      exact ⟨c.val.toNat, List.mem_range'_1.mpr (by omega), by rw [UInt32.ofNat_toNat]⟩

theorem Span.eq {first last : UInt32} {cpus others : List CpuId} (h : Span first last cpus)
    (ho : Span first last others) : cpus = others := by
  have : Std.Irrefl fun a b : CpuId => a.val < b.val := ⟨fun a => UInt32.lt_irrefl a.val⟩
  have : Std.Antisymm fun a b : CpuId => a.val < b.val :=
    ⟨fun a b less more => absurd less (UInt32.lt_asymm more)⟩
  exact h.ascending.eq_of_mem_iff ho.ascending fun c => (h.mem c).trans (ho.mem c).symm

section

variable {piece first last : List Char} {cpus : List CpuId} {fault : Fault}

theorem hyphen_cases (piece : List Char) :
    '-' ∉ piece ∨ ∃ first last, piece = first ++ '-' :: last ∧ '-' ∉ first := by
  by_cases inside : '-' ∈ piece
  · exact .inr (List.eq_append_cons_of_mem inside)
  · exact .inl inside

theorem readPiece_id (whole : '-' ∉ piece) : readPiece piece = readId piece := by
  have all : ∀ c ∈ piece, (c != '-') = true := fun c hc =>
    bne_iff_ne.mpr fun same => whole (same ▸ hc)
  rw [readPiece, List.dropWhile_eq_nil_iff.mpr all]

theorem readPiece_range (before : '-' ∉ first) :
    readPiece (first ++ '-' :: last) = readRange (first ++ '-' :: last) first last := by
  have all : ∀ c ∈ first, (c != '-') = true := fun c hc =>
    bne_iff_ne.mpr fun same => before (same ▸ hc)
  rw [readPiece, List.dropWhile_append_of_pos all, List.takeWhile_append_of_pos all]
  simp

theorem Spells.read (h : Spells piece cpus) : readPiece piece = .ok cpus := by
  cases h with
  | id literal =>
    rw [readPiece_id literal.hyphen_not_mem, readId, literal.read]
    simp
  | range before least most span =>
    rw [readPiece_range before, readRange, least.read, most.read]
    exact congrArg _ ((span_range _ _).eq span)

theorem Misspells.read (h : Misspells piece fault) : readPiece piece = .error fault := by
  cases h with
  | id whole broken => rw [readPiece_id whole, readId, broken.read (by decide)]
  | first before broken => rw [readPiece_range before, readRange, broken.read (by decide)]
  | last before literal broken =>
    rw [readPiece_range before, readRange, literal.read, broken.read (by decide)]

theorem spells_or_misspells (piece : List Char) :
    (∃ cpus, Spells piece cpus) ∨ ∃ fault, Misspells piece fault := by
  rcases hyphen_cases piece with whole | ⟨first, last, rfl, before⟩
  · rcases Numeral.word_or_broken piece with ⟨n, literal⟩ | ⟨cause, broken⟩
    · exact .inl ⟨_, .id literal⟩
    · exact .inr ⟨_, .id whole broken⟩
  · rcases Numeral.word_or_broken first with ⟨a, least⟩ | ⟨cause, broken⟩
    · rcases Numeral.word_or_broken last with ⟨b, most⟩ | ⟨cause, broken⟩
      · exact .inl ⟨_, .range before least most (span_range a b)⟩
      · exact .inr ⟨_, .last before least broken⟩
    · exact .inr ⟨_, .first before broken⟩

theorem readPiece_ok_iff : readPiece piece = .ok cpus ↔ Spells piece cpus := by
  refine ⟨fun read => ?_, Spells.read⟩
  rcases spells_or_misspells piece with ⟨names, spells⟩ | ⟨fault, misspells⟩
  · rw [spells.read] at read
    cases read
    exact spells
  · rw [misspells.read] at read
    cases read

theorem readPiece_error_iff : readPiece piece = .error fault ↔ Misspells piece fault := by
  refine ⟨fun read => ?_, Misspells.read⟩
  rcases spells_or_misspells piece with ⟨names, spells⟩ | ⟨other, misspells⟩
  · rw [spells.read] at read
    cases read
  · rw [misspells.read] at read
    cases read
    exact misspells

end

theorem readPieces_ok_iff {pieces : List (List Char)} {cpus : List CpuId} :
    readPieces pieces = .ok cpus ↔ ∃ ids, List.Forall₂ Spells pieces ids ∧ ids.flatten = cpus := by
  induction pieces generalizing cpus with
  | nil => simp [readPieces, List.forall₂_nil_left_iff]
  | cons piece rest ih =>
    rw [readPieces]
    constructor
    · intro read
      cases here : readPiece piece with
      | error fault => simp [here] at read
      | ok names =>
        cases later : readPieces rest with
        | error fault => simp [here, later] at read
        | ok more =>
          simp only [here, later, Except.ok.injEq] at read
          obtain ⟨ids, spelled, rfl⟩ := ih.mp later
          exact ⟨names :: ids, .cons (readPiece_ok_iff.mp here) spelled, read⟩
    · rintro ⟨ids, spelled, rfl⟩
      cases spelled with
      | cons here later => rw [here.read, ih.mpr ⟨_, later, rfl⟩, List.flatten_cons]

theorem readPieces_error_iff {pieces : List (List Char)} {fault : Fault} :
    readPieces pieces = .error fault ↔ FirstBad pieces fault := by
  induction pieces with
  | nil =>
    refine iff_of_false nofun ?_
    rintro ⟨good, bad, rest, parts, -⟩
    simp at parts
  | cons piece rest ih =>
    rw [readPieces]
    constructor
    · intro read
      cases here : readPiece piece with
      | error first =>
        simp only [here, Except.error.injEq] at read
        exact ⟨[], piece, rest, rfl, nofun, read ▸ readPiece_error_iff.mp here⟩
      | ok names =>
        cases later : readPieces rest with
        | ok more => simp [here, later] at read
        | error first =>
          simp only [here, later, Except.error.injEq] at read
          obtain ⟨good, bad, behind, rfl, well, misspells⟩ := ih.mp (read ▸ later)
          exact ⟨piece :: good, bad, behind, rfl,
            List.forall_mem_cons.mpr ⟨⟨names, readPiece_ok_iff.mp here⟩, well⟩, misspells⟩
    · rintro ⟨good, bad, behind, parts, well, misspells⟩
      cases good with
      | nil =>
        cases parts
        rw [misspells.read]
      | cons first good =>
        cases parts
        obtain ⟨⟨names, here⟩, well⟩ := List.forall_mem_cons.mp well
        rw [here.read, ih.mpr ⟨good, bad, behind, rfl, well, misspells⟩]

theorem not_mem_of_mem_splitOn {separator : Char} {text field : List Char}
    (h : field ∈ text.splitOn separator) : separator ∉ field := by
  induction text generalizing field with
  | nil =>
    rw [List.splitOn_nil, List.mem_singleton] at h
    rw [h]
    exact nofun
  | cons c text ih =>
    rw [List.splitOn_cons_eq_if_modifyHead] at h
    split at h
    · rcases List.mem_cons.mp h with rfl | later
      · exact nofun
      · exact ih later
    · next other =>
      obtain ⟨first, rest, parts⟩ := List.exists_cons_of_ne_nil (List.splitOn_ne_nil separator text)
      rw [parts, List.modifyHead_cons] at h
      rcases List.mem_cons.mp h with rfl | later
      · have inside := ih (parts ▸ List.mem_cons_self)
        exact List.not_mem_cons_of_ne_of_not_mem (fun same => other (beq_iff_eq.mpr same.symm))
          inside
      · exact ih (parts ▸ List.mem_cons_of_mem _ later)

theorem cut_iff {text : List Char} {cut : List (List Char)} :
    Cut text cut ↔ pieces text = cut := by
  constructor
  · rintro ⟨trimmed, notEmpty, apart, rfl⟩
    have fields := List.splitOn_intercalate ',' apart notEmpty
    rw [List.splitOn_eq_splitOnP] at fields
    rw [pieces, trimmed.trim, fields]
  · rintro rfl
    exact .at (Text.trimmed_trim text) (List.splitOn_ne_nil ',' _)
      (fun field h => not_mem_of_mem_splitOn h) (List.intercalate_splitOn ',')

theorem exists_names_iff {pieces : List (List Char)} :
    (∃ ids, List.Forall₂ Spells pieces ids) ↔ ∀ piece ∈ pieces, WellFormed piece := by
  induction pieces with
  | nil => exact iff_of_true ⟨[], .nil⟩ nofun
  | cons piece rest ih =>
    rw [List.forall_mem_cons, ← ih]
    constructor
    · rintro ⟨_, spelled⟩
      cases spelled with
      | cons here later => exact ⟨⟨_, here⟩, _, later⟩
    · rintro ⟨⟨_, here⟩, _, later⟩
      exact ⟨_, .cons here later⟩

theorem flatten_eq_nil_iff {pieces : List (List Char)} {ids : List (List CpuId)}
    (h : List.Forall₂ Spells pieces ids) :
    ids.flatten = [] ↔ ¬ ∃ piece ∈ pieces, Contributes piece := by
  induction h with
  | nil => simp
  | @cons piece names rest ids here later ih =>
    have contributes : Contributes piece ↔ names ≠ [] := by
      constructor
      · rintro ⟨others, spells, named⟩
        have same := readPiece_ok_iff.mpr spells
        rw [here.read, Except.ok.injEq] at same
        rwa [same]
      · exact fun named => ⟨names, here, named⟩
    rw [List.flatten_cons, List.append_eq_nil_iff, ih, List.exists_mem_cons_iff, contributes,
      not_or, not_not]

theorem exists_nothing_iff {pieces : List (List Char)} :
    (∃ ids, List.Forall₂ Spells pieces ids ∧ ids.flatten = []) ↔ Barren pieces := by
  rw [Barren, ← exists_names_iff]
  constructor
  · rintro ⟨ids, spelled, empty⟩
    exact ⟨⟨ids, spelled⟩, (flatten_eq_nil_iff spelled).mp empty⟩
  · rintro ⟨⟨ids, spelled⟩, empty⟩
    exact ⟨ids, spelled, (flatten_eq_nil_iff spelled).mpr empty⟩

theorem exists_something_iff {pieces : List (List Char)} :
    (∃ ids, List.Forall₂ Spells pieces ids ∧ ids.flatten ≠ []) ↔
      (∀ piece ∈ pieces, WellFormed piece) ∧ ∃ piece ∈ pieces, Contributes piece := by
  rw [← exists_names_iff]
  constructor
  · rintro ⟨ids, spelled, named⟩
    exact ⟨⟨ids, spelled⟩, not_not.mp fun barren => named ((flatten_eq_nil_iff spelled).mpr barren)⟩
  · rintro ⟨⟨ids, spelled⟩, named⟩
    exact ⟨ids, spelled, fun barren => (flatten_eq_nil_iff spelled).mp barren named⟩

section

variable {content : String}

theorem parse_ok_iff {cpus : List CpuId} : parse content = .ok cpus ↔
    cpus ≠ [] ∧ ∃ ids, List.Forall₂ Spells (pieces content.toList) ids ∧ ids.flatten = cpus := by
  rw [← readPieces_ok_iff, parse]
  cases readPieces (pieces content.toList) with
  | error fault => simp
  | ok names => cases names <;> simp +contextual [eq_comm]

theorem parse_error_iff {fault : Fault} : parse content = .error fault ↔
    FirstBad (pieces content.toList) fault ∨ fault = .empty ∧ Barren (pieces content.toList) := by
  rw [← exists_nothing_iff, ← readPieces_ok_iff, ← readPieces_error_iff, parse]
  cases readPieces (pieces content.toList) with
  | error fault => simp
  | ok names => cases names <;> simp [eq_comm]

end

theorem not_firstBad_empty (pieces : List (List Char)) : ¬ FirstBad pieces .empty := by
  rintro ⟨good, bad, rest, -, -, misspells⟩
  cases misspells

structure Reading (content : String) (pieces : List (List Char)) : Prop where
  succeeds : (∃ cpus, parse content = .ok cpus) ↔
    (∀ piece ∈ pieces, WellFormed piece) ∧ ∃ piece ∈ pieces, Contributes piece
  names : ∀ cpus, parse content = .ok cpus ↔
    cpus ≠ [] ∧ ∃ ids, List.Forall₂ Spells pieces ids ∧ ids.flatten = cpus
  empty : parse content = .error .empty ↔ Barren pieces
  reports : ∀ fault, parse content = .error fault ↔
    FirstBad pieces fault ∨ fault = .empty ∧ Barren pieces

theorem reading (content : String) : Reading content (pieces content.toList) where
  succeeds := by
    rw [← exists_something_iff]
    constructor
    · rintro ⟨cpus, ok⟩
      obtain ⟨named, ids, spelled, flat⟩ := parse_ok_iff.mp ok
      exact ⟨ids, spelled, flat ▸ named⟩
    · rintro ⟨ids, spelled, named⟩
      exact ⟨ids.flatten, parse_ok_iff.mpr ⟨named, ids, spelled, rfl⟩⟩
  names _ := parse_ok_iff
  empty := by
    rw [parse_error_iff, or_iff_right (not_firstBad_empty _), and_iff_right rfl]
  reports _ := parse_error_iff

theorem lists_parsed (content : String) :
    ∃ pieces, (∀ cut, Cut content.toList cut ↔ cut = pieces) ∧ Reading content pieces :=
  ⟨pieces content.toList, fun _ => cut_iff.trans eq_comm, reading content⟩

example : parse "0-3,+8,9-7
" = .ok [⟨0⟩, ⟨1⟩, ⟨2⟩, ⟨3⟩, ⟨8⟩] := by rfl

end FileTrace.CpuList
