import Mathlib.Data.String.Basic
import FileTrace.Names

namespace FileTrace.Names

theorem mem_insert {name x : String} {names : List String} :
    x ∈ insert name names ↔ x = name ∨ x ∈ names := by
  induction names with
  | nil => simp [insert]
  | cons n rest ih =>
    rw [insert]
    split
    · rename_i h
      simp [h]
    · split
      · simp
      · rw [List.mem_cons, List.mem_cons, ih]
        exact or_left_comm

theorem insert_ascending {names : List String} (h : names.Pairwise (· < ·)) (name : String) :
    (insert name names).Pairwise (· < ·) := by
  induction names with
  | nil => exact List.pairwise_singleton _ _
  | cons n rest ih =>
    obtain ⟨first, others⟩ := List.pairwise_cons.mp h
    rw [insert]
    split
    · exact h
    · rename_i different
      split
      · rename_i smaller
        refine .cons (fun x hx => ?_) h
        rcases List.mem_cons.mp hx with rfl | hx
        · exact smaller
        · exact smaller.trans (first x hx)
      · rename_i notSmaller
        have larger : n < name := lt_of_le_of_ne (not_lt.mp notSmaller) (Ne.symm different)
        refine .cons (fun x hx => ?_) (ih others)
        rcases mem_insert.mp hx with rfl | hx
        · exact larger
        · exact first x hx

theorem find?_filter {α : Type} (keep : String → Bool) (name : String)
    (table : List (String × α)) :
    find? name (table.filter (keep ·.1)) = if keep name then find? name table else none := by
  simp only [find?]
  induction table with
  | nil => simp
  | cons entry table ih =>
    by_cases same : entry.1 = name
    · subst same
      cases kept : keep entry.1
      · simpa only [List.filter_cons, kept, Bool.false_eq_true, if_false] using ih
      · simp only [List.filter_cons, kept, if_true, List.find?_cons, beq_self_eq_true]
    · have other : (entry.1 == name) = false := beq_false_of_ne same
      cases kept : keep entry.1
      · simpa only [List.filter_cons, kept, Bool.false_eq_true, if_false, List.find?_cons, other]
          using ih
      · simpa only [List.filter_cons, kept, if_true, List.find?_cons, other] using ih

end FileTrace.Names
