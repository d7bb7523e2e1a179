import Mathlib
import FileTrace.Text.Blank

namespace FileTrace.Text

def Blank (text : List Char) : Prop := ∀ c ∈ text, isBlank c = true

structure Trimmed (text body : List Char) : Prop where
  first : ∀ c ∈ body.head?, isBlank c = false
  last : ∀ c ∈ body.getLast?, isBlank c = false
  around : ∃ front back, Blank front ∧ Blank back ∧ text = front ++ body ++ back

theorem isBlank_digit {c : Char} (h : c.isDigit = true) : isBlank c = false := by
  have bounds : 48 ≤ c.toNat ∧ c.toNat ≤ 57 := Char.isDigit_iff_toNat.mp h
  rw [Bool.eq_false_iff]
  intro blank
  simp only [isBlank, Bool.or_eq_true, Bool.and_eq_true, decide_eq_true_eq, beq_iff_eq] at blank
  omega

theorem trim_eq (text : List Char) :
    trim text = (text.dropWhile isBlank).rdropWhile isBlank :=
  rfl

theorem dropWhile_of_head {p : Char → Bool} {text : List Char} (h : ∀ c ∈ text.head?, p c = false) :
    text.dropWhile p = text := by
  cases text with
  | nil => rfl
  | cons c text => exact List.dropWhile_cons_of_neg (by simp [h c rfl])

theorem rdropWhile_append {p : Char → Bool} {body back : List Char}
    (last : ∀ c ∈ body.getLast?, p c = false) (gone : ∀ c ∈ back, p c = true) :
    (body ++ back).rdropWhile p = body := by
  rw [List.rdropWhile, List.reverse_append,
    List.dropWhile_append_of_pos fun c hc => gone c (List.mem_reverse.mp hc),
    dropWhile_of_head, List.reverse_reverse]
  rwa [List.head?_reverse]

theorem Trimmed.trim {text body : List Char} (h : Trimmed text body) : Text.trim text = body := by
  obtain ⟨first, last, front, back, before, behind, rfl⟩ := h
  rw [trim_eq, List.append_assoc, List.dropWhile_append_of_pos before]
  cases body with
  | nil =>
    rw [List.nil_append, List.dropWhile_eq_nil_iff.mpr behind]
    rfl
  | cons c body =>
    have kept : (c :: body ++ back).dropWhile isBlank = c :: body ++ back := dropWhile_of_head first
    rw [kept]
    exact rdropWhile_append last behind

theorem trimmed_trim (text : List Char) : Trimmed text (trim text) := by
  rw [trim_eq]
  have kept := List.rdropWhile_prefix isBlank (text.dropWhile isBlank)
  refine ⟨?_, ?_, text.takeWhile isBlank, (text.dropWhile isBlank).rtakeWhile isBlank, ?_, ?_, ?_⟩
  · intro c hc
    have first := List.head?_dropWhile_not isBlank text
    obtain ⟨rest, begins⟩ := List.head?_eq_some_iff.mp hc
    obtain ⟨more, whole⟩ := begins ▸ kept
    rw [← whole] at first
    exact first
  · intro c hc
    obtain ⟨notEmpty, rfl⟩ := List.mem_getLast?_eq_getLast hc
    exact Bool.eq_false_iff.mpr (List.rdropWhile_last_not isBlank _ notEmpty)
  · exact fun c hc => List.mem_takeWhile_imp hc
  · exact fun c hc => List.mem_rtakeWhile_imp hc
  · rw [List.append_assoc, List.rdropWhile_append_rtakeWhile, List.takeWhile_append_dropWhile]

end FileTrace.Text
