import Mathlib.Algebra.BigOperators.Group.List.Basic
import Mathlib.Algebra.Order.Group.MinMax
import Mathlib.Algebra.Order.Ring.Int
import Mathlib.Tactic.Linarith

/-!
# Excesses over a fixed base

Values that each pay their excess over one base pay together at least the rise of their maximum over it,
and just that rise if no two of them exceed the base.
-/

namespace Excess

variable {α : Type} [CommRing α] [LinearOrder α] [IsStrictOrderedRing α]

/-- What is paid for the values together. -/
def excess (base : α) (l : List α) : α := (l.map fun a => max 0 (a - base)).sum

/-- How far their maximum is above the base. -/
def rise (base : α) (l : List α) : α := l.foldr max base - base

variable {base a : α} {l : List α}

theorem rise_nonneg : 0 ≤ rise base l := by
  refine sub_nonneg.2 ?_
  induction l with
  | nil => exact le_rfl
  | cons a l ih => exact ih.trans (le_max_right _ _)

theorem excess_cons_of_le (h : a ≤ base) : excess base (a :: l) = excess base l := by
  have hnone : max 0 (a - base) = 0 := max_eq_left (sub_nonpos.2 h)
  rw [excess, List.map_cons, List.sum_cons, hnone, zero_add]
  rfl

theorem excess_cons_of_lt (h : base < a) : excess base (a :: l) = a - base + excess base l := by
  have hall : max 0 (a - base) = a - base := max_eq_right (sub_nonneg.2 h.le)
  rw [excess, List.map_cons, List.sum_cons, hall]
  rfl

theorem rise_cons : rise base (a :: l) = max (a - base) (rise base l) := by
  rw [rise, List.foldr_cons, rise, ← max_sub_sub_right]

theorem rise_cons_of_le (h : a ≤ base) : rise base (a :: l) = rise base l := by
  rw [rise_cons]
  exact max_eq_right ((sub_nonpos.2 h).trans rise_nonneg)

theorem rise_le_excess : rise base l ≤ excess base l := by
  induction l with
  | nil => simp [rise, excess]
  | cons a l ih =>
    have hrise : 0 ≤ rise base l := rise_nonneg
    by_cases h : base < a
    · rw [excess_cons_of_lt h, rise_cons]
      refine max_le ?_ ?_
      · linarith
      · linarith
    · rw [excess_cons_of_le (not_lt.1 h), rise_cons_of_le (not_lt.1 h)]
      exact ih

theorem rise_pos (h : (l.filter (base < ·)) ≠ []) : 0 < rise base l := by
  obtain ⟨a, ha⟩ := List.exists_mem_of_ne_nil _ h
  obtain ⟨hmem, hlt⟩ := List.mem_filter.1 ha
  clear h ha
  induction l with
  | nil => cases hmem
  | cons b l ih =>
    rw [rise_cons]
    rcases List.mem_cons.1 hmem with rfl | hmem
    · exact lt_max_of_lt_left (sub_pos.2 (of_decide_eq_true hlt))
    · exact lt_max_of_lt_right (ih hmem)

theorem excess_eq_zero (h : (l.filter (base < ·)) = []) : excess base l = 0 := by
  induction l with
  | nil => rfl
  | cons a l ih =>
    by_cases hlt : base < a
    · simp [hlt] at h
    · rw [excess_cons_of_le (not_lt.1 hlt)]
      refine ih ?_
      rwa [List.filter_cons_of_neg (by simpa using hlt)] at h

/-- The excesses telescope to the rise just if at most one value exceeds the base. -/
theorem excess_eq_rise_iff : excess base l = rise base l ↔ (l.filter (base < ·)).length ≤ 1 := by
  induction l with
  | nil => simp [excess, rise]
  | cons a l ih =>
    by_cases h : base < a
    · rw [excess_cons_of_lt h, rise_cons, List.filter_cons_of_pos (by simpa using h), List.length_cons]
      by_cases hnone : l.filter (base < ·) = []
      · -- The first value that exceeds the base is the maximum.
        have hexcess : excess base l = 0 := excess_eq_zero hnone
        have hrise : rise base l = 0 :=
          le_antisymm (hexcess ▸ rise_le_excess) rise_nonneg
        rw [hexcess, hrise, max_eq_left (sub_pos.2 h).le, hnone]
        simp
      · have hpos : 0 < rise base l := rise_pos hnone
        have hle : rise base l ≤ excess base l := rise_le_excess
        have hcount : 0 < (l.filter (base < ·)).length := List.length_pos_of_ne_nil hnone
        have hless : max (a - base) (rise base l) < a - base + excess base l := by
          refine max_lt ?_ ?_
          · linarith
          · linarith
        exact iff_of_false hless.ne' (by omega)
    · rw [excess_cons_of_le (not_lt.1 h), rise_cons_of_le (not_lt.1 h),
        List.filter_cons_of_neg (by simpa using h)]
      exact ih

end Excess
