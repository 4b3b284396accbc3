import Mathlib.Algebra.BigOperators.Group.List.Basic
import Mathlib.Algebra.Ring.Int.Defs
import Mathlib.Data.List.Sort

/-!
# Consecutive periods

A range of days that is cut at some of them falls into consecutive periods, each of which begins on the
day after a cut. What stretches from one day to another meets just one of them when no cut comes between.
-/

namespace Periods

/-- The periods of a range that begins at `first`, is cut after the days `cuts` and ends at `last`. -/
def periods (first : ℤ) : List ℤ → ℤ → List (ℤ × ℤ)
  | [], last => [(first, last)]
  | cut :: cuts, last => (first, cut) :: periods (cut + 1) cuts last

/-- A range of days with its cuts in order. -/
structure Partition where
  first : ℤ
  last : ℤ
  cuts : List ℤ
  ordered : cuts.Pairwise (· < ·)
  within : ∀ cut ∈ cuts, first ≤ cut ∧ cut < last
  nonempty : first ≤ last

def Partition.parts (range : Partition) : List (ℤ × ℤ) := periods range.first range.cuts range.last

/-- The days from `a` to `b` meet a period. -/
def meets (a b : ℤ) (period : ℤ × ℤ) : Bool := a ≤ period.2 && period.1 ≤ b

variable {first last a b : ℤ} {cuts : List ℤ}

/-- The days that a cut follows have only what is before the cut in the first period. -/
theorem rest_ordered {cut : ℤ} (hordered : (cut :: cuts).Pairwise (· < ·))
    (hwithin : ∀ c ∈ cut :: cuts, first ≤ c ∧ c < last) :
    cuts.Pairwise (· < ·) ∧ (∀ c ∈ cuts, cut + 1 ≤ c ∧ c < last) ∧ cut + 1 ≤ last := by
  obtain ⟨hfirst, hrest⟩ := List.pairwise_cons.1 hordered
  refine ⟨hrest, fun c hc => ⟨?_, (hwithin c (List.mem_cons_of_mem _ hc)).2⟩, ?_⟩
  · have hlt := hfirst c hc
    omega
  · have hlt := (hwithin cut List.mem_cons_self).2
    omega

theorem countP_of_lt (h : b < first) (hordered : cuts.Pairwise (· < ·))
    (hwithin : ∀ c ∈ cuts, first ≤ c ∧ c < last) : (periods first cuts last).countP (meets a b) = 0 := by
  induction cuts generalizing first with
  | nil => simp [periods, meets, h]
  | cons cut cuts ih =>
    obtain ⟨hrest, hwithin', -⟩ := rest_ordered hordered hwithin
    have hle := (hwithin cut List.mem_cons_self).1
    rw [periods, List.countP_cons_of_neg (by simp [meets, h]), ih (by omega) hrest hwithin']

/-- The first period of a range is met by what begins before it and ends in it or later. -/
theorem countP_pos (ha : a ≤ first) (hb : first ≤ b) (hnonempty : first ≤ last)
    (hwithin : ∀ c ∈ cuts, first ≤ c ∧ c < last) : 0 < (periods first cuts last).countP (meets a b) := by
  refine List.countP_pos_iff.2 ?_
  cases cuts with
  | nil => exact ⟨(first, last), List.mem_singleton_self _, by simp [meets, hb, ha.trans hnonempty]⟩
  | cons cut cuts =>
    have hcut := (hwithin cut List.mem_cons_self).1
    exact ⟨(first, cut), List.mem_cons_self, by simp [meets, hb, ha.trans hcut]⟩

/-- Just one period is met when the range is met and each cut has both days on one side. -/
theorem countP_eq_one_iff (hnonempty : first ≤ last) (hordered : cuts.Pairwise (· < ·))
    (hwithin : ∀ c ∈ cuts, first ≤ c ∧ c < last) (ha : a ≤ last) (hb : first ≤ b) :
    (periods first cuts last).countP (meets a b) = 1 ↔ ∀ cut ∈ cuts, (a ≤ cut ↔ b ≤ cut) := by
  induction cuts generalizing first with
  | nil => simp [periods, meets, ha, hb]
  | cons cut cuts ih =>
    obtain ⟨hrest, hwithin', hnonempty'⟩ := rest_ordered hordered hwithin
    rw [periods, List.forall_mem_cons]
    by_cases hcut : a ≤ cut
    · rw [List.countP_cons_of_pos (by simp [meets, hcut, hb])]
      by_cases hbcut : b ≤ cut
      · have hsame : ∀ c ∈ cuts, (a ≤ c ↔ b ≤ c) := fun c hc => by
          have hlt := (hwithin' c hc).1
          constructor <;> intro <;> omega
        rw [countP_of_lt (by omega) hrest hwithin']
        exact iff_of_true rfl ⟨iff_of_true hcut hbcut, hsame⟩
      · have hpos : 0 < (periods (cut + 1) cuts last).countP (meets a b) :=
          countP_pos (by omega) (by omega) hnonempty' hwithin'
        exact iff_of_false (by omega) fun h => hbcut (h.1.1 hcut)
    · rw [List.countP_cons_of_neg (by simp [meets, hcut])]
      by_cases hbcut : b ≤ cut
      · rw [countP_of_lt (by omega) hrest hwithin']
        exact iff_of_false (by omega) fun h => hcut (h.1.2 hbcut)
      · rw [ih hnonempty' hrest hwithin' (by omega)]
        exact (and_iff_right (iff_of_false hcut hbcut)).symm

/-- A period lies in the range. -/
theorem bounds_of_mem (hnonempty : first ≤ last) (hordered : cuts.Pairwise (· < ·))
    (hwithin : ∀ c ∈ cuts, first ≤ c ∧ c < last) {period : ℤ × ℤ} (h : period ∈ periods first cuts last) :
    first ≤ period.1 ∧ period.2 ≤ last := by
  induction cuts generalizing first with
  | nil =>
    rw [List.mem_singleton.1 h]
    exact ⟨le_refl _, le_refl _⟩
  | cons cut cuts ih =>
    obtain ⟨hrest, hwithin', hnonempty'⟩ := rest_ordered hordered hwithin
    have hcut := hwithin cut List.mem_cons_self
    rcases List.mem_cons.1 h with rfl | hmem
    · exact ⟨le_refl _, hcut.2.le⟩
    · have hbounds := ih hnonempty' hrest hwithin' hmem
      exact ⟨by omega, hbounds.2⟩

/-! ## Sums over the periods -/

section Sums

variable {κ α M : Type} [AddCommMonoid M]

theorem sum_filter (selected : α → Bool) (weight : α → M) (items : List α) :
    ((items.filter selected).map weight).sum =
      (items.map fun item => if selected item then weight item else 0).sum := by
  induction items with
  | nil => rfl
  | cons item items ih =>
    by_cases hitem : selected item = true
    · rw [List.filter_cons_of_pos hitem, List.map_cons, List.sum_cons, ih, List.map_cons, List.sum_cons,
        if_pos hitem]
    · rw [List.filter_cons_of_neg hitem, ih, List.map_cons, List.sum_cons, if_neg hitem, zero_add]

/-- Summed up period by period, each item has its weight as often as it is selected. -/
theorem sum_filter_sum (selected : κ → α → Bool) (weight : α → M) (keys : List κ) (items : List α) :
    (keys.map fun key => ((items.filter (selected key)).map weight).sum).sum =
      (items.map fun item => keys.countP (selected · item) • weight item).sum := by
  induction keys with
  | nil => simp
  | cons key keys ih =>
    rw [List.map_cons, List.sum_cons, ih, sum_filter, ← List.sum_map_add]
    refine congrArg List.sum (List.map_congr_left fun item _ => ?_)
    by_cases hkey : selected key item = true
    · rw [if_pos hkey, List.countP_cons_of_pos (by exact hkey), succ_nsmul, add_comm]
    · rw [if_neg hkey, List.countP_cons_of_neg (by exact hkey), zero_add]

end Sums

end Periods
