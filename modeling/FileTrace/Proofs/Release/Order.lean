import Mathlib
import FileTrace.Release

namespace FileTrace.Release

def component (parts : List UInt32) (i : Nat) : Nat := (parts.getD i 0).toNat

def sequence (parts : List UInt32) : Lex (ℕ → ℕ) := toLex (component parts)

def significant (parts : List UInt32) : List UInt32 := parts.rdropWhile (· = 0)

def later (f : ℕ → ℕ) : ℕ → ℕ := fun i => f (i + 1)

section

variable (f g : ℕ → ℕ)

theorem toLex_lt_iff :
    toLex f < toLex g ↔ f 0 < g 0 ∨ f 0 = g 0 ∧ toLex (later f) < toLex (later g) := by
  constructor
  · rintro ⟨i, before, here⟩
    cases i with
    | zero => exact .inl here
    | succ i =>
      exact .inr ⟨before 0 i.succ_pos, i, fun j hj => before (j + 1) (Nat.succ_lt_succ hj), here⟩
  · rintro (here | ⟨first, i, before, here⟩)
    · exact ⟨0, nofun, here⟩
    · refine ⟨i + 1, fun j hj => ?_, here⟩
      cases j with
      | zero => exact first
      | succ j => exact before j (Nat.lt_of_succ_lt_succ hj)

theorem toLex_eq_iff :
    toLex f = toLex g ↔ f 0 = g 0 ∧ toLex (later f) = toLex (later g) := by
  constructor
  · intro same
    rw [toLex_inj.mp same]
    exact ⟨rfl, rfl⟩
  · rintro ⟨first, rest⟩
    refine congrArg toLex (funext fun i => ?_)
    cases i with
    | zero => exact first
    | succ i => exact congrFun (toLex_inj.mp rest) i

theorem compare_toLex :
    compare (toLex f) (toLex g) =
      (compare (f 0) (g 0)).then (compare (toLex (later f)) (toLex (later g))) := by
  rcases lt_trichotomy (toLex f) (toLex g) with less | same | greater
  · rw [compare_lt_iff_lt.mpr less, eq_comm, Ordering.then_eq_lt, compare_lt_iff_lt,
      compare_eq_iff_eq, compare_lt_iff_lt]
    exact (toLex_lt_iff f g).mp less
  · rw [compare_eq_iff_eq.mpr same, eq_comm, Ordering.then_eq_eq, compare_eq_iff_eq,
      compare_eq_iff_eq]
    exact (toLex_eq_iff f g).mp same
  · rw [compare_gt_iff_gt.mpr greater, eq_comm, Ordering.then_eq_gt, compare_gt_iff_gt,
      compare_eq_iff_eq, compare_gt_iff_gt, eq_comm]
    exact (toLex_lt_iff g f).mp greater

end

theorem compare_words (a b : UInt32) : compare a b = compare a.toNat b.toNat := by
  rcases h : compare a.toNat b.toNat with - | - | -
  · exact Std.compare_eq_lt.mpr (Nat.compare_eq_lt.mp h)
  · exact Std.compare_eq_iff_eq.mpr (UInt32.toNat_inj.mp (Nat.compare_eq_eq.mp h))
  · exact Std.compare_eq_gt.mpr (Nat.compare_eq_gt.mp h)

-- Where a list has ended, its components are the zeros with which the comparison goes on.
theorem compareParts_eq (as bs : List UInt32) :
    compareParts as bs = compare (sequence as) (sequence bs) := by
  fun_induction compareParts as bs with
  | case1 => exact (compare_eq_iff_eq.mpr rfl).symm
  | case2 b bs ih =>
    rw [ih, compare_words]
    exact (compare_toLex (component []) (component (b :: bs))).symm
  | case3 a as ih =>
    rw [ih, compare_words]
    exact (compare_toLex (component (a :: as)) (component [])).symm
  | case4 a as b bs ih =>
    rw [ih, compare_words]
    exact (compare_toLex (component (a :: as)) (component (b :: bs))).symm

section

variable {parts : List UInt32} {i : Nat}

theorem component_of_lt (h : i < parts.length) : component parts i = parts[i].toNat := by
  rw [component, List.getD_eq_getElem parts 0 h]

theorem component_of_le (h : parts.length ≤ i) : component parts i = 0 := by
  rw [component, List.getD_eq_default parts 0 h]
  rfl

end

theorem component_significant (parts : List UInt32) :
    component (significant parts) = component parts := by
  induction parts using List.reverseRecOn with
  | nil => rfl
  | append_singleton parts last ih =>
    rw [significant, List.rdropWhile_concat]
    split
    · rename_i zero
      rw [← significant, ih]
      funext i
      rcases lt_trichotomy i parts.length with inside | rfl | outside
      · rw [component, component, List.getD_append _ _ _ _ inside]
      · rw [component_of_le le_rfl, component, List.getD_append_right _ _ _ _ le_rfl,
          of_decide_eq_true zero]
        simp
      · rw [component_of_le outside.le, component_of_le (by simpa using outside)]
    · rfl

-- The last of the significant components is not zero, so no shorter list has the same ones.
theorem length_significant_le {as bs : List UInt32} (same : component as = component bs) :
    (significant as).length ≤ bs.length := by
  by_contra longer
  have notEmpty : significant as ≠ [] := fun empty => longer (by simp [empty])
  have last := List.rdropWhile_last_not (fun a : UInt32 => decide (a = 0)) as notEmpty
  have index : (significant as).length - 1 < (significant as).length :=
    Nat.sub_one_lt (List.length_pos_iff.mpr notEmpty).ne'
  have here : component (significant as) ((significant as).length - 1) = 0 := by
    rw [component_significant, same]
    exact component_of_le (by omega)
  rw [component_of_lt index, ← List.getLast_eq_getElem notEmpty] at here
  exact last (decide_eq_true (UInt32.toNat_inj.mp here))

theorem significant_eq_iff (as bs : List UInt32) :
    significant as = significant bs ↔ component as = component bs := by
  constructor
  · intro same
    rw [← component_significant as, same, component_significant]
  · intro same
    have each : component (significant as) = component (significant bs) := by
      rw [component_significant, component_significant, same]
    have length : (significant as).length = (significant bs).length :=
      le_antisymm (length_significant_le (same.trans (component_significant bs).symm))
        (length_significant_le (same.symm.trans (component_significant as).symm))
    refine List.ext_getElem length fun i ha hb => UInt32.toNat_inj.mp ?_
    rw [← component_of_lt ha, ← component_of_lt hb, each]

section

variable (a b : Release)

theorem cmp_eq : a.cmp b = compare (sequence a.parts) (sequence b.parts) :=
  compareParts_eq a.parts b.parts

theorem isLE_cmp : (a.cmp b).isLE ↔ sequence a.parts ≤ sequence b.parts := by
  rw [cmp_eq, ← compare_le_iff_le, Ordering.isLE_iff_ne_gt]

theorem before_iff : a.before b ↔ sequence a.parts < sequence b.parts := by
  rw [before, cmp_eq, Ordering.isLT_iff_eq_lt]
  exact compare_lt_iff_lt

theorem same_iff : a.same b ↔ sequence a.parts = sequence b.parts := by
  rw [same, cmp_eq, Ordering.isEq_iff_eq_eq, compare_eq_iff_eq]

theorem atLeast_iff : a.atLeast b ↔ sequence b.parts ≤ sequence a.parts := by
  rw [atLeast, cmp_eq, Ordering.isGE_iff_ne_lt]
  exact compare_lt_iff_lt.not.trans not_lt

theorem forKernel_current : OpenLayout.forKernel a b = .current ↔ (b.cmp a).isLE := by
  have notBefore : (b.cmp a).isLE ↔ ¬ a.before b := by
    rw [isLE_cmp, before_iff]
    exact not_lt.symm
  rw [notBefore, OpenLayout.forKernel]
  cases a.before b <;> simp

end

structure Ordered (a b c : Release) : Prop where
  lexicographic : a.cmp b = compare (sequence a.parts) (sequence b.parts)
  reflexive : a.cmp a = .eq
  antisymmetric : (a.cmp b).isLE → (b.cmp a).isLE → a.same b
  transitive : (a.cmp b).isLE → (b.cmp c).isLE → (a.cmp c).isLE
  total : (a.cmp b).isLE ∨ (b.cmp a).isLE
  same : a.same b ↔ significant a.parts = significant b.parts
  exclusive : (a.before b ∧ ¬ a.same b ∧ ¬ b.before a) ∨ (¬ a.before b ∧ a.same b ∧ ¬ b.before a) ∨
    (¬ a.before b ∧ ¬ a.same b ∧ b.before a)
  atLeast : a.atLeast b ↔ ¬ a.before b
  replaceable : a.same b → a.cmp c = b.cmp c ∧ c.cmp a = c.cmp b

structure LayoutTurnsOnce (a b c : Release) : Prop where
  kernel : (a.cmp b).isLE → OpenLayout.forKernel a c = .current →
    OpenLayout.forKernel b c = .current
  threshold : (a.cmp b).isLE → OpenLayout.forKernel c b = .current →
    OpenLayout.forKernel c a = .current
  same : a.same b → OpenLayout.forKernel a c = OpenLayout.forKernel b c ∧
    OpenLayout.forKernel c a = OpenLayout.forKernel c b

theorem cmp_trans {a b c : Release} (ab : (a.cmp b).isLE) (bc : (b.cmp c).isLE) :
    (a.cmp c).isLE := by
  rw [isLE_cmp] at ab bc ⊢
  exact ab.trans bc

theorem cmp_replace {a b : Release} (same : a.same b) (c : Release) :
    a.cmp c = b.cmp c ∧ c.cmp a = c.cmp b := by
  have sequences := (same_iff a b).mp same
  simp only [cmp_eq, sequences, and_self]

theorem exclusive (a b : Release) :
    (a.before b ∧ ¬ a.same b ∧ ¬ b.before a) ∨ (¬ a.before b ∧ a.same b ∧ ¬ b.before a) ∨
      (¬ a.before b ∧ ¬ a.same b ∧ b.before a) := by
  simp only [before_iff, same_iff]
  rcases lt_trichotomy (sequence a.parts) (sequence b.parts) with less | equal | greater
  · exact .inl ⟨less, less.ne, less.asymm⟩
  · exact .inr (.inl ⟨equal.not_lt, equal, equal.not_gt⟩)
  · exact .inr (.inr ⟨greater.asymm, greater.ne', greater⟩)

theorem ordered (a b c : Release) : Ordered a b c where
  lexicographic := cmp_eq a b
  reflexive := by rw [cmp_eq, compare_eq_iff_eq]
  antisymmetric ab ba := by
    rw [isLE_cmp] at ab ba
    exact (same_iff a b).mpr (le_antisymm ab ba)
  transitive := cmp_trans
  total := by
    rw [isLE_cmp, isLE_cmp]
    exact le_total _ _
  same := by
    rw [same_iff, significant_eq_iff]
    exact toLex_inj
  exclusive := exclusive a b
  atLeast := by
    rw [atLeast_iff, before_iff]
    exact not_lt.symm
  replaceable same := cmp_replace same c

theorem layout_turns_once (a b c : Release) : LayoutTurnsOnce a b c where
  kernel ab current := by
    rw [forKernel_current] at current ⊢
    exact cmp_trans current ab
  threshold ab current := by
    rw [forKernel_current] at current ⊢
    exact cmp_trans ab current
  same same := by
    obtain ⟨left, right⟩ := cmp_replace same c
    constructor
    · rw [OpenLayout.forKernel, OpenLayout.forKernel, before, before, left]
    · rw [OpenLayout.forKernel, OpenLayout.forKernel, before, before, right]

theorem releases_ordered (a b c : Release) : Ordered a b c ∧ LayoutTurnsOnce a b c :=
  ⟨ordered a b c, layout_turns_once a b c⟩

example : (Release.mk "5.9" [5, 9]).same ⟨"5.9.0", [5, 9, 0]⟩ = true := by cbv

end FileTrace.Release
