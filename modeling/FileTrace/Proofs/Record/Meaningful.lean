import FileTrace.Proofs.Record.Layout

namespace FileTrace

namespace Record

structure Buffer where
  offset : Nat
  capacity : Nat
  deriving DecidableEq, Repr

def Buffer.Behind (b : Buffer) (raw : List UInt8) (place : Nat) : Prop :=
  place < b.offset + b.capacity ∧ ∃ nul, b.offset ≤ nul ∧ nul < place ∧ raw[nul]? = some 0

theorem slice_congr {offset length : Nat} {raw other : List UInt8}
    (h : ∀ place, offset ≤ place → place < offset + length → raw[place]? = other[place]?) :
    slice offset length raw = slice offset length other := by
  refine List.ext_getElem? fun i => ?_
  rw [slice, slice, List.getElem?_take, List.getElem?_take, List.getElem?_drop, List.getElem?_drop]
  split
  · exact h (offset + i) (by omega) (by omega)
  · rfl

-- The first NUL stands at the same place in both, for up to there nothing differs.
theorem takeWhile_congr {bytes others : List UInt8}
    (h : ∀ i : Nat, (∀ nul < i, bytes[nul]? ≠ some 0) → bytes[i]? = others[i]?) :
    bytes.takeWhile (· ≠ 0) = others.takeWhile (· ≠ 0) := by
  induction bytes generalizing others with
  | nil =>
    have first := h 0 nofun
    rw [List.getElem?_nil, eq_comm, List.getElem?_eq_none_iff] at first
    rw [List.length_eq_zero_iff.mp (Nat.le_zero.mp first)]
  | cons b bytes ih =>
    cases others with
    | nil => cases h 0 nofun
    | cons c others =>
      obtain rfl : b = c := Option.some.inj (h 0 nofun)
      by_cases nul : b = 0
      · rw [nul]
        rfl
      · have later := ih fun i before => h (i + 1) fun j hj => by
          cases j with
          | zero => exact fun same => nul (Option.some.inj same)
          | succ j => exact before j (Nat.lt_of_succ_lt_succ hj)
        rw [List.takeWhile_cons, List.takeWhile_cons, later]

end Record

namespace Decoder

open Record (Buffer Truncated)

def length (d : Decoder) : Nat :=
  match d.kind with
  | .opening => 120
  | .syncing => 32

def buffers (d : Decoder) : List Buffer :=
  match d.kind with
  | .opening => [⟨d.layout.shape.offset "comm", 16⟩, ⟨d.layout.shape.offset "filename", 64⟩]
  | .syncing => [⟨Record.syncShape.offset "comm", 16⟩]

def Meaningful (d : Decoder) (raw : List UInt8) (place : Nat) : Prop :=
  place < d.length ∧ ∀ b ∈ d.buffers, ¬ b.Behind raw place

def Alike (d : Decoder) (raw other : List UInt8) : Prop :=
  ∀ place, d.Meaningful raw place → raw[place]? = other[place]?

def Clear (d : Decoder) (offset length : Nat) : Prop :=
  offset + length ≤ d.length ∧
    ∀ b ∈ d.buffers, offset + length ≤ b.offset ∨ b.offset + b.capacity ≤ offset

instance (d : Decoder) (offset length : Nat) : Decidable (d.Clear offset length) :=
  inferInstanceAs (Decidable (_ ∧ _))

theorem length_eq (d : Decoder) : d.length = d.recordSize := by
  obtain ⟨kind, layout⟩ := d
  cases kind <;> cases layout <;> rfl

theorem buffers_inside (d : Decoder) : ∀ b ∈ d.buffers, b.offset + b.capacity ≤ d.length := by
  obtain ⟨kind, layout⟩ := d
  cases kind <;> cases layout <;> decide

theorem buffers_apart (d : Decoder) : ∀ b ∈ d.buffers, ∀ c ∈ d.buffers,
    c = b ∨ c.offset + c.capacity ≤ b.offset ∨ b.offset + b.capacity ≤ c.offset := by
  obtain ⟨kind, layout⟩ := d
  cases kind <;> cases layout <;> decide

section

variable {d : Decoder} {raw other : List UInt8} {offset length : Nat}

theorem Clear.meaningful (h : d.Clear offset length) {place : Nat} (least : offset ≤ place)
    (most : place < offset + length) : d.Meaningful raw place := by
  obtain ⟨inside, apart⟩ := h
  refine ⟨by omega, fun b hb => ?_⟩
  rintro ⟨within, nul, behind, before, -⟩
  rcases apart b hb with front | back
  · omega
  · omega

theorem Alike.slice (h : d.Alike raw other) (clear : d.Clear offset length) :
    Record.slice offset length raw = Record.slice offset length other :=
  Record.slice_congr fun place least most => h place (clear.meaningful least most)

theorem Alike.word32 (h : d.Alike raw other) (clear : d.Clear offset 4) :
    Record.word32 offset raw = Record.word32 offset other := by
  rw [Record.word32, h.slice clear, Record.word32]

theorem Alike.word64 (h : d.Alike raw other) (clear : d.Clear offset 8) :
    Record.word64 offset raw = Record.word64 offset other := by
  rw [Record.word64, h.slice clear, Record.word64]

theorem meaningful_buffer {b : Buffer} (hb : b ∈ d.buffers) {i : Nat} (inside : i < b.capacity)
    (before : ∀ nul < i, raw[b.offset + nul]? ≠ some 0) : d.Meaningful raw (b.offset + i) := by
  have fits := d.buffers_inside b hb
  refine ⟨by omega, fun c hc => ?_⟩
  rintro ⟨within, nul, least, most, zero⟩
  rcases d.buffers_apart b hb c hc with rfl | front | back
  · obtain ⟨k, rfl⟩ := Nat.exists_eq_add_of_le least
    exact before k (by omega) zero
  · omega
  · omega

theorem Alike.text (h : d.Alike raw other) {b : Buffer} (hb : b ∈ d.buffers) :
    Record.text b.offset b.capacity raw = Record.text b.offset b.capacity other := by
  have front : (Record.slice b.offset b.capacity raw).takeWhile (· ≠ 0) =
      (Record.slice b.offset b.capacity other).takeWhile (· ≠ 0) := by
    refine Record.takeWhile_congr fun i before => ?_
    simp only [Record.slice, List.getElem?_take, List.getElem?_drop] at before ⊢
    split
    · next inside =>
      refine h _ (meaningful_buffer hb inside fun nul hn => ?_)
      have absent := before nul hn
      rwa [if_pos (hn.trans inside)] at absent
    · rfl
  rw [Record.text, Text.ofBuffer, front, Record.text, Text.ofBuffer]

end

theorem Alike.readOpen {layout : OpenLayout} {raw other : List UInt8}
    (h : Alike ⟨.opening, layout⟩ raw other) :
    Record.readOpen layout raw = Record.readOpen layout other := by
  let d : Decoder := ⟨.opening, layout⟩
  have caller : d.Clear 0 4 ∧ d.Clear 4 4 ∧ d.Clear 8 4 ∧ d.Clear 12 4 := by
    cases layout <;> decide
  have numbers : d.Clear layout.flagsOffset 8 ∧ d.Clear layout.modeOffset 8 ∧
      d.Clear layout.timestampOffset 8 := by
    cases layout <;> decide
  have texts : ⟨layout.commOffset, Record.commCapacity⟩ ∈ d.buffers ∧
      ⟨layout.filenameOffset, Record.filenameCapacity⟩ ∈ d.buffers := by
    cases layout <;> decide
  obtain ⟨pid, tid, ppid, uid⟩ := caller
  obtain ⟨flags, mode, timestamp⟩ := numbers
  obtain ⟨comm, filename⟩ := texts
  rw [Record.readOpen, h.word32 pid, h.word32 tid, h.word32 ppid, h.word32 uid, h.word64 flags,
    h.word64 mode, h.word64 timestamp, h.text comm, h.text filename, Record.readOpen]

theorem Alike.readSync {layout : OpenLayout} {raw other : List UInt8}
    (h : Alike ⟨.syncing, layout⟩ raw other) :
    Record.readSync raw = Record.readSync other := by
  let d : Decoder := ⟨.syncing, layout⟩
  have words : d.Clear 16 4 ∧ d.Clear 20 4 ∧ d.Clear 24 4 ∧ d.Clear 28 4 := by
    cases layout <;> decide
  have comm : ⟨0, Record.commCapacity⟩ ∈ d.buffers := by
    cases layout <;> decide
  obtain ⟨pid, uid, gid, loginUid⟩ := words
  rw [Record.readSync, h.text comm, h.word32 pid, h.word32 uid, h.word32 gid, h.word32 loginUid,
    Record.readSync]

theorem Alike.event? {d : Decoder} {raw other : List UInt8} (h : d.Alike raw other) :
    d.event? raw = d.event? other := by
  obtain ⟨kind, layout⟩ := d
  cases kind with
  | opening => rw [Decoder.event?, h.readOpen, Decoder.event?]
  | syncing => rw [Decoder.event?, h.readSync, Decoder.event?]

theorem decode_error_iff {d : Decoder} {raw : List UInt8} {e : Truncated} :
    d.decode raw = .error e ↔ raw.length < d.length ∧ e = ⟨d.length, raw.length⟩ := by
  rw [Decoder.decode, length_eq]
  split
  · next short => simp [short, eq_comm]
  · next long => simp [long]

theorem decode_long {d : Decoder} {raw : List UInt8} (long : d.length ≤ raw.length) :
    d.decode raw = .ok (d.event? raw) :=
  if_neg (Nat.not_lt.mpr (d.length_eq ▸ long))

theorem decode_blind (d : Decoder) :
    (∀ raw e, d.decode raw = .error e ↔ raw.length < d.length ∧ e = ⟨d.length, raw.length⟩) ∧
      ∀ raw other, d.length ≤ raw.length → d.length ≤ other.length → d.Alike raw other →
        d.decode raw = d.decode other := by
  refine ⟨fun raw e => decode_error_iff, fun raw other long longer alike => ?_⟩
  rw [decode_long long, decode_long longer, alike.event?]

/-- Two records of one open, with other bytes behind the NUL of the command, a name that no NUL
ends and something behind one of the records. -/
theorem decode_blind_stale :
    let d : Decoder := ⟨.opening, .current⟩
    let words : List UInt8 := List.replicate 40 2
    let name : List UInt8 := List.replicate 64 0x61
    let raw := words ++ [0x63, 0] ++ List.replicate 14 7 ++ name
    let other := words ++ [0x63, 0] ++ List.replicate 14 9 ++ name ++ [0x62, 0]
    d.length ≤ raw.length ∧ d.length ≤ other.length ∧ d.Alike raw other ∧
      raw ≠ other.take 120 ∧ d.decode raw = d.decode other := by
  intro d words name raw other
  have alike : d.Alike raw other := by
    rintro place ⟨inside, read⟩
    have command : (⟨40, 16⟩ : Buffer) ∈ d.buffers := by decide
    by_cases behind : 41 < place ∧ place < 56
    · exact absurd ⟨behind.2, 41, by decide, behind.1, rfl⟩ (read _ command)
    · have same : ∀ place < 120, ¬(41 < place ∧ place < 56) → raw[place]? = other[place]? := by
        decide
      exact same place inside behind
  have long : d.length ≤ raw.length := by decide
  have longer : d.length ≤ other.length := Nat.le_add_right 120 2
  exact ⟨long, longer, alike, by decide, (decode_blind d).2 raw other long longer alike⟩

end Decoder

end FileTrace
