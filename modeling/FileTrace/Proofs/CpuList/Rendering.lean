import FileTrace.Proofs.CpuList.Grammar

namespace FileTrace.CpuList

open Numeral (Literal word32)

inductive Item where
  | single (cpu : CpuId)
  | range (first last : CpuId) (ordered : first.val ≤ last.val)
  deriving DecidableEq, Repr

namespace Item

def first : Item → CpuId
  | .single cpu => cpu
  | .range first _ _ => first

def last : Item → CpuId
  | .single cpu => cpu
  | .range _ last _ => last

def text : Item → List Char
  | .single cpu => Numeral.decimal cpu.val.toNat
  | .range first last _ => Numeral.decimal first.val.toNat ++ '-' :: Numeral.decimal last.val.toNat

def Names (item : Item) (cpus : List CpuId) : Prop := Span item.first.val item.last.val cpus

def Proper : Item → Prop
  | .single _ => True
  | .range first last _ => first ≠ last

def run (first last : CpuId) (ordered : first.val ≤ last.val) : Item :=
  if first = last then .single first else .range first last ordered

end Item

def render (items : List Item) : List Char := [','].intercalate (items.map Item.text)

/-- The items name the processors, and each of them goes as far as it can. -/
structure LongestRuns (items : List Item) (cpus : List CpuId) : Prop where
  names : ∃ ids, List.Forall₂ Item.Names items ids ∧ ids.flatten = cpus
  proper : ∀ item ∈ items, item.Proper
  gaps : items.Pairwise fun a b => a.last.val.toNat + 1 < b.first.val.toNat

section

variable {item : Item} {items : List Item} {cpus : List CpuId}

theorem Item.ordered (item : Item) : item.first.val ≤ item.last.val := by
  cases item with
  | single cpu => exact UInt32.le_refl _
  | range first last ordered => exact ordered

theorem Item.toNat_ordered (item : Item) : item.first.val.toNat ≤ item.last.val.toNat :=
  UInt32.le_iff_toNat_le.mp item.ordered

theorem Item.names_range (item : Item) :
    item.Names (CpuList.range item.first.val.toNat item.last.val.toNat) :=
  span_range _ _

theorem Item.Names.first_mem (h : item.Names cpus) : item.first ∈ cpus :=
  (h.mem _).mpr ⟨UInt32.le_refl _, item.ordered⟩

theorem Span.self (cpu : CpuId) : Span cpu.val cpu.val [cpu] := by
  refine ⟨List.pairwise_singleton _ _, fun c => ?_⟩
  rw [List.mem_singleton]
  constructor
  · rintro rfl
    exact ⟨UInt32.le_refl _, UInt32.le_refl _⟩
  · rintro ⟨least, most⟩
    obtain ⟨val⟩ := c
    exact congrArg CpuId.mk (UInt32.le_antisymm most least)

theorem Item.Names.spells (h : item.Names cpus) : Spells item.text cpus := by
  have decimal (c : CpuId) : Literal word32 (Numeral.decimal c.val.toNat) c.val.toNat :=
    .plain (Numeral.digits_decimal _) c.val.toNat_lt
  cases item with
  | single cpu =>
    rw [h.eq (Span.self cpu)]
    exact .id (decimal cpu)
  | range first last ordered =>
    exact .range (decimal first).hyphen_not_mem (decimal first) (decimal last) h

theorem Item.Names.ne_nil (h : item.Names cpus) : cpus ≠ [] :=
  List.ne_nil_of_mem h.first_mem

theorem names_items (items : List Item) : ∃ ids, List.Forall₂ Item.Names items ids := by
  induction items with
  | nil => exact ⟨[], .nil⟩
  | cons item items ih =>
    obtain ⟨ids, names⟩ := ih
    exact ⟨_, .cons item.names_range names⟩

theorem names_unique {ids more : List (List CpuId)} (h : List.Forall₂ Item.Names items ids)
    (ho : List.Forall₂ Item.Names items more) : more = ids := by
  induction h generalizing more with
  | nil =>
    cases ho
    rfl
  | cons here _ ih =>
    cases ho with
    | cons other later => rw [Span.eq other here, ih later]

end

theorem text_chars (item : Item) : ∀ c ∈ item.text, c.isDigit = true ∨ c = '-' := by
  have digits (n : Nat) : ∀ c ∈ Numeral.decimal n, c.isDigit = true :=
    (Numeral.digits_decimal n).digits
  intro c hc
  cases item with
  | single cpu => exact .inl (digits _ c hc)
  | range first last ordered =>
    rcases List.mem_append.mp hc with before | behind
    · exact .inl (digits _ c before)
    · rcases List.mem_cons.mp behind with hyphen | behind
      · exact .inr hyphen
      · exact .inl (digits _ c behind)

theorem comma_not_mem_text (item : Item) : ',' ∉ item.text := by
  intro inside
  rcases text_chars item ',' inside with digit | hyphen
  · exact absurd digit (by decide)
  · exact absurd hyphen (by decide)

theorem text_ne_nil (item : Item) : item.text ≠ [] := by
  cases item with
  | single cpu => exact (Numeral.digits_decimal _).some
  | range first last ordered => exact List.append_ne_nil_of_right_ne_nil _ (List.cons_ne_nil _ _)

theorem mem_intercalate {separator c : Char} {fields : List (List Char)}
    (h : c ∈ [separator].intercalate fields) : c = separator ∨ ∃ field ∈ fields, c ∈ field := by
  induction fields with
  | nil => cases h
  | cons field rest ih =>
    cases rest with
    | nil =>
      rw [List.intercalate_singleton] at h
      exact .inr ⟨field, List.mem_cons_self, h⟩
    | cons next rest =>
      rw [List.intercalate_cons_cons] at h
      rcases List.mem_append.mp h with here | later
      · rcases List.mem_append.mp here with here | here
        · exact .inr ⟨field, List.mem_cons_self, here⟩
        · exact .inl (List.mem_singleton.mp here)
      · rcases ih later with same | ⟨other, inside, here⟩
        · exact .inl same
        · exact .inr ⟨other, List.mem_cons_of_mem _ inside, here⟩

theorem not_blank_render (items : List Item) : ∀ c ∈ render items, Text.isBlank c = false := by
  intro c hc
  rcases mem_intercalate hc with rfl | ⟨field, inside, here⟩
  · decide
  · obtain ⟨item, -, rfl⟩ := List.mem_map.mp inside
    rcases text_chars item c here with digit | rfl
    · exact Text.isBlank_digit digit
    · decide

theorem pieces_render {items : List Item} (notEmpty : items ≠ []) {front back : List Char}
    (before : Text.Blank front) (behind : Text.Blank back) :
    pieces (front ++ render items ++ back) = items.map Item.text := by
  have trimmed : Text.Trimmed (front ++ render items ++ back) (render items) :=
    ⟨fun c hc => not_blank_render items c (List.mem_of_mem_head? hc),
      fun c hc => not_blank_render items c (List.mem_of_mem_getLast? hc),
      front, back, before, behind, rfl⟩
  have fields : ∀ field ∈ items.map Item.text, ',' ∉ field ∧ field ≠ [] := by
    rw [List.forall_mem_map]
    exact fun item _ => ⟨comma_not_mem_text item, text_ne_nil item⟩
  have cut := cut_iff.mp (Cut.at trimmed (mt List.map_eq_nil_iff.mp notEmpty)
    (fun field h => (fields field h).1) rfl)
  rw [cut, List.filter_eq_self]
  intro field h
  simpa using (fields field h).2

theorem parse_render {items : List Item} (notEmpty : items ≠ []) {front back : List Char}
    (before : Text.Blank front) (behind : Text.Blank back) {ids : List (List CpuId)}
    (names : List.Forall₂ Item.Names items ids) :
    parse (String.ofList (front ++ render items ++ back)) = .ok ids.flatten := by
  rw [parse_ok_iff, String.toList_ofList, pieces_render notEmpty before behind]
  have spelled : List.Forall₂ Spells (items.map Item.text) ids :=
    List.forall₂_map_left_iff.mpr (names.imp fun _ _ h => h.spells)
  refine ⟨?_, ids, spelled, rfl⟩
  cases names with
  | nil => exact absurd rfl notEmpty
  | cons here _ => exact List.append_ne_nil_of_left_ne_nil here.ne_nil _

def extend (cpu : CpuId) : List Item → List Item
  | [] => [.single cpu]
  | item :: rest =>
    if next : cpu.val.toNat + 1 = item.first.val.toNat then
      .range cpu item.last (UInt32.le_iff_toNat_le.mpr (by have := item.toNat_ordered; omega)) ::
        rest
    else .single cpu :: item :: rest

def runs (cpus : List CpuId) : List Item := cpus.foldr extend []

section

variable {cpu first last : CpuId} {item : Item} {items : List Item} {cpus : List CpuId}

theorem Span.cons {next last : UInt32} (h : Span next last cpus)
    (successive : cpu.val.toNat + 1 = next.toNat) (ordered : next ≤ last) :
    Span cpu.val last (cpu :: cpus) := by
  rw [UInt32.le_iff_toNat_le] at ordered
  refine ⟨List.pairwise_cons.mpr ⟨fun c hc => ?_, h.ascending⟩, fun c => ?_⟩
  · have least := UInt32.le_iff_toNat_le.mp ((h.mem c).mp hc).1
    exact UInt32.lt_iff_toNat_lt.mpr (by omega)
  · have here : c = cpu ↔ c.val.toNat = cpu.val.toNat := by
      rw [UInt32.toNat_inj, CpuId.mk.injEq]
    rw [List.mem_cons, h.mem, here, UInt32.le_iff_toNat_le, UInt32.le_iff_toNat_le,
      UInt32.le_iff_toNat_le]
    omega

theorem LongestRuns.extend (h : LongestRuns items cpus) (least : ∀ c ∈ cpus, cpu.val < c.val) :
    LongestRuns (extend cpu items) (cpu :: cpus) := by
  obtain ⟨⟨ids, names, rfl⟩, proper, gaps⟩ := h
  cases names with
  | nil =>
    refine ⟨⟨[[cpu]], .cons (Span.self cpu) .nil, rfl⟩, ?_, List.pairwise_singleton _ _⟩
    exact List.forall_mem_singleton.mpr trivial
  | @cons item names items ids here later =>
    obtain ⟨proper_here, proper_later⟩ := List.forall_mem_cons.mp proper
    obtain ⟨gaps_here, gaps_later⟩ := List.pairwise_cons.mp gaps
    have below : cpu.val.toNat < item.first.val.toNat :=
      UInt32.lt_iff_toNat_lt.mp (least _ (List.mem_append_left _ here.first_mem))
    have ordered := item.toNat_ordered
    rw [CpuList.extend]
    split
    · next successive =>
      refine ⟨⟨(cpu :: names) :: ids, .cons ?_ later, rfl⟩, ?_, ?_⟩
      · exact Span.cons here successive item.ordered
      · refine List.forall_mem_cons.mpr ⟨fun same => ?_, proper_later⟩
        rw [same] at below
        omega
      · exact List.pairwise_cons.mpr ⟨gaps_here, gaps_later⟩
    · next apart =>
      refine ⟨⟨[cpu] :: names :: ids, .cons (Span.self cpu) (.cons here later), rfl⟩, ?_, ?_⟩
      · exact List.forall_mem_cons.mpr ⟨trivial, proper⟩
      · refine List.pairwise_cons.mpr ⟨List.forall_mem_cons.mpr ⟨?_, fun b hb => ?_⟩, gaps⟩
        · change cpu.val.toNat + 1 < item.first.val.toNat
          omega
        · have gap := gaps_here b hb
          change cpu.val.toNat + 1 < b.first.val.toNat
          omega

theorem longestRuns_runs (ascending : cpus.Pairwise (·.val < ·.val)) :
    LongestRuns (runs cpus) cpus := by
  induction ascending with
  | nil => exact ⟨⟨[], .nil, rfl⟩, nofun, .nil⟩
  | cons least _ ih => exact ih.extend least

theorem range_cons (h : first.val.toNat < last.val.toNat) :
    range first.val.toNat last.val.toNat = first :: range (first.val.toNat + 1) last.val.toNat := by
  have count : last.val.toNat + 1 - first.val.toNat =
      (last.val.toNat + 1 - (first.val.toNat + 1)) + 1 := by omega
  rw [range, range, count, List.range'_succ, List.map_cons, UInt32.ofNat_toNat]

@[simp] theorem Item.first_run (first last : CpuId) (ordered : first.val ≤ last.val) :
    (run first last ordered).first = first := by
  rw [run]
  split <;> rfl

@[simp] theorem Item.last_run (first last : CpuId) (ordered : first.val ≤ last.val) :
    (run first last ordered).last = last := by
  rw [run]
  split
  · next same => exact same
  · rfl

theorem Item.Proper.eq_run (h : item.Proper) :
    item = run item.first item.last item.ordered := by
  cases item with
  | single cpu => exact (if_pos rfl).symm
  | range first last ordered => exact (if_neg h).symm

theorem extend_of_gap (gap : ∀ item ∈ items, cpu.val.toNat + 1 < item.first.val.toNat) :
    extend cpu items = .single cpu :: items := by
  cases items with
  | nil => rfl
  | cons item rest => exact dif_neg (gap item List.mem_cons_self).ne

-- The ids of an item, taken from the last to the first, grow into the item again.
theorem foldr_extend_range (ordered : first.val ≤ last.val)
    (gap : ∀ item ∈ items, last.val.toNat + 1 < item.first.val.toNat) :
    (range first.val.toNat last.val.toNat).foldr extend items =
      Item.run first last ordered :: items := by
  obtain ⟨distance, h⟩ := Nat.exists_eq_add_of_le (UInt32.le_iff_toNat_le.mp ordered)
  induction distance generalizing first with
  | zero =>
    obtain rfl : first = last := congrArg CpuId.mk (UInt32.toNat_inj.mp h.symm)
    rw [(span_range _ _).eq (Span.self first), List.foldr_cons, List.foldr_nil, extend_of_gap gap,
      Item.run, if_pos rfl]
  | succ distance ih =>
    have fits : first.val.toNat + 1 < 2 ^ 32 := by
      have most := last.val.toNat_lt
      omega
    obtain ⟨next, successive⟩ : ∃ next : CpuId, first.val.toNat + 1 = next.val.toNat :=
      ⟨⟨UInt32.ofNat (first.val.toNat + 1)⟩, (UInt32.toNat_ofNat_of_lt' fits).symm⟩
    have behind : next.val ≤ last.val := UInt32.le_iff_toNat_le.mpr (by omega)
    have later := ih behind (by omega)
    have distinct : first ≠ last := fun same => by
      rw [same] at h
      omega
    have joined : first.val.toNat + 1 = (Item.run next last behind).first.val.toNat := by
      rw [Item.first_run, successive]
    have whole : Item.run first last ordered = .range first last ordered := if_neg distinct
    rw [range_cons (by omega), successive, List.foldr_cons, later, extend, dif_pos joined, whole]
    simp

theorem LongestRuns.eq_runs (h : LongestRuns items cpus) : items = runs cpus := by
  obtain ⟨⟨ids, names, rfl⟩, proper, gaps⟩ := h
  induction names with
  | nil => rfl
  | @cons item names items ids here later ih =>
    obtain ⟨proper_here, proper_later⟩ := List.forall_mem_cons.mp proper
    obtain ⟨gaps_here, gaps_later⟩ := List.pairwise_cons.mp gaps
    rw [List.flatten_cons, runs, List.foldr_append, ← runs, ← ih proper_later gaps_later,
      here.eq item.names_range, foldr_extend_range item.ordered gaps_here, ← proper_here.eq_run]

end

theorem lists_read_back {front back : List Char} (before : Text.Blank front)
    (behind : Text.Blank back) :
    (∀ items, items ≠ [] → ∃ ids,
        (∀ others, List.Forall₂ Item.Names items others ↔ others = ids) ∧
        parse (String.ofList (front ++ render items ++ back)) = .ok ids.flatten) ∧
      ∀ cpus, cpus ≠ [] → cpus.Pairwise (·.val < ·.val) → ∃ items,
        (∀ others, LongestRuns others cpus ↔ others = items) ∧
        parse (String.ofList (front ++ render items ++ back)) = .ok cpus := by
  constructor
  · intro items notEmpty
    obtain ⟨ids, names⟩ := names_items items
    refine ⟨ids, fun others => ⟨names_unique names, ?_⟩, parse_render notEmpty before behind names⟩
    rintro rfl
    exact names
  · intro cpus notEmpty ascending
    have longest := longestRuns_runs ascending
    refine ⟨runs cpus, fun others => ⟨LongestRuns.eq_runs, ?_⟩, ?_⟩
    · rintro rfl
      exact longest
    · obtain ⟨ids, names, rfl⟩ := longest.names
      refine parse_render ?_ before behind names
      intro noItems
      rw [noItems] at names
      cases names
      exact notEmpty rfl

theorem lists_read_back_greatest :
    let cpus : List CpuId := [⟨0⟩, ⟨1⟩, ⟨2⟩, ⟨5⟩, ⟨4294967294⟩, ⟨4294967295⟩]
    let items : List Item := [.range ⟨7⟩ ⟨7⟩ (by decide), .single ⟨2⟩]
    Text.Blank [' '] ∧ Text.Blank ['\n'] ∧ items ≠ [] ∧ cpus ≠ [] ∧
      cpus.Pairwise (·.val < ·.val) ∧ parse " 7-7,2\n" = .ok [⟨7⟩, ⟨2⟩] ∧
      parse " 0-2,5,4294967294-4294967295\n" = .ok cpus := by
  intro cpus items
  have before : Text.Blank [' '] := by simp [Text.Blank, Text.isBlank]
  have behind : Text.Blank ['\n'] := by simp [Text.Blank, Text.isBlank]
  have ascending : cpus.Pairwise (·.val < ·.val) := by decide
  obtain ⟨readItems, readRuns⟩ := lists_read_back before behind
  obtain ⟨ids, named, given⟩ := readItems items (List.cons_ne_nil _ _)
  obtain ⟨others, longest, sorted⟩ := readRuns cpus (List.cons_ne_nil _ _) ascending
  have names := (named [[⟨7⟩], [⟨2⟩]]).mp (.cons (Span.self ⟨7⟩) (.cons (Span.self ⟨2⟩) .nil))
  have runs := (longest (runs cpus)).mp (longestRuns_runs ascending)
  rw [← names] at given
  rw [← runs] at sorted
  exact ⟨before, behind, List.cons_ne_nil _ _, List.cons_ne_nil _ _, ascending, given, sorted⟩

end FileTrace.CpuList
