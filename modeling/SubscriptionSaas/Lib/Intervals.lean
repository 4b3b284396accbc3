import Mathlib.Algebra.Order.Ring.Int
import Mathlib.Data.Int.ConditionallyCompleteOrder
import Mathlib.Order.SuccPred.IntervalSucc
import Mathlib.Data.Nat.Cast.Order.Basic
import Mathlib.Data.Nat.Find
import Mathlib.Order.Monotone.Basic

/-!
# Intervals between growing bounds

A growing sequence of integers cuts what lies from its first member on into intervals.
-/

namespace Intervals

variable {b : ℕ → ℤ}

theorem le_of_strictMono (hb : StrictMono b) (k : ℕ) : b 0 + k ≤ b k := by
  induction k with
  | zero => simp
  | succ k ih =>
    have hlt : b k < b (k + 1) := hb (Nat.lt_succ_self k)
    rw [Nat.cast_succ]
    omega

/-- What lies from the first bound on lies in exactly one interval. -/
theorem existsUnique_between (hb : StrictMono b) {t : ℤ} (ht : b 0 ≤ t) :
    ∃! k, b k ≤ t ∧ t < b (k + 1) := by
  have hbeyond : ∃ k, t < b (k + 1) := by
    have hlarge := le_of_strictMono hb ((t - b 0).toNat + 1)
    exact ⟨(t - b 0).toNat, by omega⟩
  refine ⟨Nat.find hbeyond, ⟨?_, Nat.find_spec hbeyond⟩, fun m hm => ?_⟩
  · by_cases hzero : Nat.find hbeyond = 0
    · rw [hzero]
      exact ht
    · obtain ⟨k, hk⟩ := Nat.exists_eq_succ_of_ne_zero hzero
      have hnot := Nat.find_min hbeyond (show k < Nat.find hbeyond by omega)
      rw [hk]
      exact not_lt.1 hnot
  · have hle : Nat.find hbeyond ≤ m := Nat.find_min' hbeyond hm.2
    by_contra hne
    have hmono : b (Nat.find hbeyond + 1) ≤ b m := hb.monotone (by omega)
    have hspec := Nat.find_spec hbeyond
    omega

end Intervals
