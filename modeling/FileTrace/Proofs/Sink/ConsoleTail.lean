import FileTrace.Proofs.Text.Numeral
import FileTrace.Sink

namespace FileTrace

def Spaceless (text : String) : Prop := ' ' ∉ text.toList

theorem spaceless_digits (n : Nat) : Spaceless (toString n) := by
  rw [Spaceless, Nat.toString_eq_ofList_toDigits, String.toList_ofList]
  intro blank
  exact absurd ((Numeral.digits_decimal n).digits ' ' blank) (by decide)

theorem digitChar_ne_blank : ∀ d < 16, Nat.digitChar d ≠ ' ' := by decide

-- A label ends with a blank, and the last one of the text stands in front of the value.
theorem behind_label {s t label v w : String} (blank : label.toList.getLast? = some ' ')
    (hv : Spaceless v) (hw : Spaceless w) (h : s ++ label ++ v = t ++ label ++ w) :
    s = t ∧ v = w := by
  obtain ⟨front, parts⟩ := List.getLast?_eq_some_iff.mp blank
  have last (r x : String) (bare : Spaceless x) :
      (r ++ label ++ x).toList.rtakeWhile (· ≠ ' ') = x.toList := by
    have kept : ∀ c ∈ x.toList.reverse, decide (c ≠ ' ') = true := fun c hc =>
      decide_eq_true fun same => bare (same ▸ List.mem_reverse.mp hc)
    rw [String.toList_append, String.toList_append, parts, List.rtakeWhile, List.reverse_append,
      List.takeWhile_append_of_pos kept]
    simp
  obtain rfl : v = w := by
    rw [← String.toList_inj, ← last s v hv, h, last t w hw]
  rw [String.append_left_inj, String.append_left_inj] at h
  exact ⟨h, rfl⟩

theorem word_inj {m n : UInt32} (h : toString m.toNat = toString n.toNat) : m = n :=
  UInt32.toNat_inj.mp (Nat.repr_inj.mp h)

namespace Uid

theorem spaceless_display (u : Uid) : Spaceless u.display := by
  rw [display]
  split
  · exact spaceless_digits _
  · simp [Spaceless]

theorem display_inj {u v : Uid} : u.display = v.display ↔ u = v := by
  refine ⟨fun h => ?_, congrArg display⟩
  have word (n : Nat) : toString n ≠ "unset" := fun same => by
    have digits := (Numeral.digits_decimal n).digits 'u'
    rw [Numeral.decimal, ← String.toList_ofList (l := Nat.toDigits 10 n),
      ← Nat.toString_eq_ofList_toDigits, same] at digits
    exact absurd (digits (by simp)) (by decide)
  rw [display, display] at h
  split at h
  · split at h
    · exact congrArg mk (word_inj h)
    · exact absurd h (word _)
  · split at h
    · exact absurd h.symm (word _)
    · next unset other =>
      simp only [isSet, bne_iff_ne, not_not] at unset other
      rw [unset, other]

end Uid

namespace Event

theorem spaceless_bits (word : UInt64) : Spaceless (bits word) := by
  rw [Spaceless, bits, String.toList_ofList, Numeral.hex, List.mem_append, List.mem_append]
  rintro (mark | zero | digit)
  · exact absurd mark (by decide)
  · exact absurd (List.eq_of_mem_replicate zero) (by decide)
  · obtain ⟨d, low, same⟩ := Numeral.mem_toDigits (by decide) digit
    exact digitChar_ne_blank d low same.symm

theorem bits_inj {a b : UInt64} (h : bits a = bits b) : a = b := by
  rw [bits, bits, String.ofList_inj, List.append_cancel_left_eq] at h
  rw [← UInt64.toNat_inj, ← Numeral.ofHex_hex 8 a.toNat, h, Numeral.ofHex_hex]

theorem opened_tail {e f : OpenEvent} (h : sentence (.opened e) = sentence (.opened f)) :
    e.flags = f.flags ∧ e.mode = f.mode := by
  simp only [sentence, String.append_left_inj] at h
  obtain ⟨front, mode⟩ := behind_label (by decide) (spaceless_bits _) (spaceless_bits _) h
  obtain ⟨-, flags⟩ := behind_label (by decide) (spaceless_bits _) (spaceless_bits _) front
  exact ⟨bits_inj flags, bits_inj mode⟩

theorem synced_inj {e f : SyncEvent} (h : sentence (.synced e) = sentence (.synced f)) :
    e = f := by
  obtain ⟨comm, pid, uid, gid, loginUid⟩ := e
  obtain ⟨comm', pid', uid', gid', loginUid'⟩ := f
  simp only [sentence, String.append_left_inj] at h
  obtain ⟨h, l⟩ := behind_label (by decide) (Uid.spaceless_display _) (Uid.spaceless_display _) h
  obtain ⟨h, g⟩ := behind_label (by decide) (spaceless_digits _) (spaceless_digits _) h
  obtain ⟨h, u⟩ := behind_label (by decide) (Uid.spaceless_display _) (Uid.spaceless_display _) h
  obtain ⟨c, p⟩ := behind_label (by decide) (spaceless_digits _) (spaceless_digits _) h
  rw [SyncEvent.mk.injEq]
  exact ⟨c, congrArg Pid.mk (word_inj p), Uid.display_inj.mp u, word_inj g, Uid.display_inj.mp l⟩

theorem opened_ne_synced (e : OpenEvent) (f : SyncEvent) :
    sentence (.opened e) ≠ sentence (.synced f) := by
  have last {s t : String} {c : Char} (h : t.toList.getLast? = some c) :
      (s ++ t).toList.getLast? = some c := by
    rw [String.toList_append, List.getLast?_append, h, Option.some_or]
  intro h
  have opened : (sentence (.opened e)).toList.getLast? = some ')' := last (by decide)
  have synced : (sentence (.synced f)).toList.getLast? = some 'c' := last (by decide)
  rw [h, synced] at opened
  exact absurd opened (by decide)

end Event

namespace SinkKind

theorem consoleLine_eq_iff (now : LocalTime) {e f : Event} :
    consoleLine now e = consoleLine now f ↔ e.sentence = f.sentence :=
  String.append_right_inj _

theorem console_tail_unambiguous (now : LocalTime) :
    (∀ e f : OpenEvent, consoleLine now (.opened e) = consoleLine now (.opened f) →
      e.flags = f.flags ∧ e.mode = f.mode) ∧
      (∀ e f : SyncEvent, consoleLine now (.synced e) = consoleLine now (.synced f) ↔ e = f) ∧
      ∀ (e : OpenEvent) (f : SyncEvent),
        consoleLine now (.opened e) ≠ consoleLine now (.synced f) := by
  refine ⟨fun e f same => ?_, fun e f => ⟨fun same => ?_, fun same => ?_⟩, fun e f same => ?_⟩
  · exact Event.opened_tail ((consoleLine_eq_iff now).mp same)
  · exact Event.synced_inj ((consoleLine_eq_iff now).mp same)
  · rw [same]
  · exact Event.opened_ne_synced e f ((consoleLine_eq_iff now).mp same)

theorem console_tail_unambiguous_imitated :
    let e : OpenEvent := ⟨⟨1⟩, ⟨1⟩, ⟨0⟩, ⟨0⟩, 0xFFFFFFFFFFFFFFFF, 0x123456789, ⟨7⟩, "a",
      "b (pid: 2) opened: c"⟩
    let f : OpenEvent := ⟨⟨2⟩, ⟨2⟩, ⟨1⟩, .unset, 0xFFFFFFFFFFFFFFFF, 0x123456789, ⟨8⟩,
      "a (pid: 1) opened: b", "c"⟩
    e.pid ≠ f.pid ∧ e.comm ≠ f.comm ∧ e.filename ≠ f.filename ∧
      consoleLine .epoch (.opened e) = consoleLine .epoch (.opened f) ∧
      e.flags = f.flags ∧ e.mode = f.mode := by
  intro e f
  have same : consoleLine .epoch (.opened e) = consoleLine .epoch (.opened f) := by
    refine (consoleLine_eq_iff _).mpr ?_
    simp only [Event.sentence, String.append_left_inj, e, f, Pid.display]
    decide
  exact ⟨by decide, by decide, by decide, same, (console_tail_unambiguous .epoch).1 e f same⟩

end SinkKind

end FileTrace
