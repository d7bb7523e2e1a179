import FileTrace.LocalTime
import FileTrace.Proofs.Text.Ascii
import FileTrace.Proofs.Text.Numeral

namespace FileTrace

namespace Text

def Printable (text : List Char) : Prop := ∀ c ∈ text, 0x20 ≤ c.toNat

@[simp] theorem printable_nil : Printable [] := nofun

@[simp] theorem printable_cons {c : Char} {text : List Char} :
    Printable (c :: text) ↔ 0x20 ≤ c.toNat ∧ Printable text :=
  List.forall_mem_cons

@[simp] theorem printable_append {s t : List Char} :
    Printable (s ++ t) ↔ Printable s ∧ Printable t :=
  List.forall_mem_append

theorem printable_flatMap {α : Type} {f : α → List Char} {xs : List α}
    (h : ∀ x ∈ xs, Printable (f x)) : Printable (xs.flatMap f) := by
  intro c hc
  obtain ⟨x, inside, here⟩ := List.mem_flatMap.mp hc
  exact h x inside c here

theorem Printable.bytes {text : List Char} (h : Printable text) :
    ∀ b ∈ encode text, 0x20 ≤ b.toNat :=
  encode_bounded (by decide) h

theorem Printable.count_newline {text : List Char} (h : Printable text) :
    text.count '\n' = 0 := by
  refine List.count_eq_zero.mpr fun inside => ?_
  have least := h '\n' inside
  exact absurd least (by decide)

end Text

namespace Numeral

open Text (Printable)

theorem printable_digitChar : ∀ d < 16, 0x20 ≤ (Nat.digitChar d).toNat := by
  decide

theorem printable_toDigits {base : Nat} (low : 1 < base) (high : base ≤ 16) (n : Nat) :
    Printable (Nat.toDigits base n) := by
  intro c hc
  obtain ⟨d, less, rfl⟩ := mem_toDigits low hc
  exact printable_digitChar d (less.trans_le high)

theorem printable_zeros (width : Nat) : Printable (List.replicate width '0') := by
  intro c hc
  rw [List.eq_of_mem_replicate hc]
  decide

@[simp] theorem printable_decimal (n : Nat) : Printable (decimal n) :=
  printable_toDigits (by decide) (by decide) n

@[simp] theorem printable_hex (width n : Nat) : Printable (hex width n) :=
  Text.printable_append.mpr ⟨printable_zeros _, printable_toDigits (by decide) (by decide) n⟩

end Numeral

open Text (Printable)

@[simp] theorem printable_padded (width n : Nat) : Printable (padded width n) :=
  Text.printable_append.mpr ⟨Numeral.printable_zeros _, Numeral.printable_decimal n⟩

namespace LocalTime

@[simp] theorem printable_yearText (year : Int) : Printable (yearText year) := by
  rw [yearText]
  split_ifs <;> simp

theorem printable_stamp (t : LocalTime) : Printable t.stamp.toList := by
  simp [stamp]

end LocalTime

end FileTrace
