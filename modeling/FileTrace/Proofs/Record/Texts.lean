import FileTrace.Proofs.Record.Meaningful
import FileTrace.Proofs.Text.Lossy

namespace FileTrace

open Text (ReadFrom)

namespace Record

structure HasText (raw : List UInt8) (b : Buffer) (text : String) : Prop where
  whole : (slice b.offset b.capacity raw).length = b.capacity
  read : ReadFrom (slice b.offset b.capacity raw) text

theorem length_slice {offset length : Nat} {raw : List UInt8} (h : offset + length ≤ raw.length) :
    (slice offset length raw).length = length := by
  rw [slice, List.length_take, List.length_drop]
  omega

theorem hasText {b : Buffer} {raw : List UInt8} (h : b.offset + b.capacity ≤ raw.length) :
    HasText raw b (text b.offset b.capacity raw) :=
  ⟨length_slice h, Text.readFrom_ofBuffer _⟩

end Record

def Event.texts : Event → List String
  | .opened e => [e.comm, e.filename]
  | .synced e => [e.comm]

namespace Decoder

open Record (HasText)

theorem texts_eq {d : Decoder} {raw : List UInt8} {e : Event} (h : d.event? raw = some e) :
    e.texts = d.buffers.map fun b => Record.text b.offset b.capacity raw := by
  obtain ⟨kind, layout⟩ := d
  cases kind with
  | opening =>
    simp only [event?] at h
    split at h
    · cases h
      cases layout <;> rfl
    · cases h
  | syncing =>
    simp only [event?] at h
    cases h
    rfl

theorem decode_texts {d : Decoder} {raw : List UInt8} {e : Event} (h : d.decode raw = .ok (some e)) :
    List.Forall₂ (HasText raw) d.buffers e.texts := by
  have long : d.length ≤ raw.length := by
    by_contra short
    rw [decode_error_iff.mpr ⟨Nat.lt_of_not_le short, rfl⟩] at h
    cases h
  rw [decode_long long, Except.ok.injEq] at h
  rw [texts_eq h, List.forall₂_map_right_iff, List.forall₂_same]
  exact fun b hb => Record.hasText ((d.buffers_inside b hb).trans long)

theorem texts_read_lossily :
    (∀ buffer, ReadFrom buffer (Text.ofBuffer buffer)) ∧
      ∀ (d : Decoder) (raw : List UInt8) (e : Event), d.decode raw = .ok (some e) →
        List.Forall₂ (HasText raw) d.buffers e.texts :=
  ⟨Text.readFrom_ofBuffer, fun _ _ _ => decode_texts⟩

/-- A name with an overlong form, half of a surrogate pair, a character cut short by another one and
a last one cut short by the NUL. -/
theorem texts_read_lossily_broken :
    let d : Decoder := ⟨.syncing, .current⟩
    let name : List UInt8 := [0xC0, 0xAF, 0xED, 0xA0, 0x80, 0xE2, 0x82, 0x61, 0xF0, 0x9F, 0x98, 0]
    let raw := name ++ [0x62, 0x62, 0x62, 0x62] ++ List.replicate 16 1
    ∃ e, d.decode raw = .ok (some e) ∧
      e.comm.toList = List.replicate 6 '\ufffd' ++ ['a', '\ufffd'] ∧
      List.Forall₂ (HasText raw) d.buffers e.texts := by
  intro d name raw
  have decoded : d.decode raw = .ok (some (.synced (Record.readSync raw))) := rfl
  refine ⟨_, decoded, ?_, texts_read_lossily.2 d raw _ decoded⟩
  have content : (Record.slice 0 Record.commCapacity raw).takeWhile (· ≠ 0) =
      name.take 11 := by decide
  rw [Event.comm, Record.readSync, Record.text, Text.ofBuffer, String.toList_ofList, content]
  simp [name, Text.decodeLossy, Text.readChar, Text.readTail, Text.Lead.ofByte?, Text.replacement]

end Decoder

end FileTrace
