import SubscriptionSaas.Lib.Calendar
import Mathlib.Algebra.Order.Ring.Int
import Mathlib.Data.Int.ConditionallyCompleteOrder
import Mathlib.Order.SuccPred.IntervalSucc
import Mathlib.Tactic.IntervalCases

/-!
# The months tile the days

A day lies in exactly one month (`monthOf_spec`, `monthOf_eq`), and adding months moves it to the
month that many months later, on its own day of the month or on the last one.
-/

namespace Calendar

/-! ## Years -/

theorem isLeap_iff {y : Int} : isLeap y = true ↔ y % 4 = 0 ∧ (y % 100 ≠ 0 ∨ y % 400 = 0) := by
  simp [isLeap]

theorem yearStart_succ (y : Int) :
    yearStart (y + 1) = yearStart y + if isLeap y then 366 else 365 := by
  unfold yearStart
  split_ifs with h
  · rw [isLeap_iff] at h
    omega
  · rw [isLeap_iff] at h
    omega

/-! ## Months -/

/-- A month by its year and its place in the year. -/
theorem month_cases (m : Int) : ∃ y r : Int, 0 ≤ r ∧ r < 12 ∧ yearOf m = y ∧ m % 12 = r ∧
    m = 12 * (y - 1970) + r :=
  ⟨yearOf m, m % 12, by omega, by omega, rfl, rfl, by unfold yearOf; omega⟩

theorem monthStart_succ (m : Int) : monthStart (m + 1) = monthStart m + monthLength m := by
  obtain ⟨y, r, hr, hr12, hy, hmr, hm⟩ := month_cases m
  by_cases hdec : r = 11
  · have hy' : yearOf (m + 1) = y + 1 := by
      unfold yearOf
      omega
    have hr' : (m + 1) % 12 = 0 := by omega
    unfold monthStart monthLength
    rw [hy', hr', hy, hmr, hdec, yearStart_succ]
    by_cases hleap : isLeap y = true
    · simp [daysBefore, hleap]
      omega
    · simp [daysBefore, hleap]
      omega
  · have hy' : yearOf (m + 1) = y := by
      unfold yearOf
      omega
    have hr' : (m + 1) % 12 = r + 1 := by omega
    unfold monthStart monthLength
    rw [hy', hr', hy, hmr]
    have hlt : r < 11 := by omega
    interval_cases r <;> simp [daysBefore] <;> split_ifs <;> omega

theorem monthLength_bounds (m : Int) : 28 ≤ monthLength m ∧ monthLength m ≤ 31 := by
  unfold monthLength
  split_ifs <;> omega

theorem monthStart_strictMono : StrictMono monthStart := by
  refine strictMono_int_of_lt_succ fun m => ?_
  have hlen := monthLength_bounds m
  rw [monthStart_succ]
  omega

theorem yearStart_near (y : Int) :
    146097 * (y - 1970) - 1000 ≤ 400 * yearStart y ∧
      400 * yearStart y ≤ 146097 * (y - 1970) + 1000 := by
  unfold yearStart
  omega

theorem daysBefore_near {r : Int} (hr : 0 ≤ r) (hr12 : r < 12) :
    146097 * r - 10000 ≤ 4800 * daysBefore r ∧ 4800 * daysBefore r ≤ 146097 * r + 10000 := by
  interval_cases r <;> decide

/-- A month begins near the multiple of the average length, which is 146097 days for 4800 months. -/
theorem monthStart_near (m : Int) :
    146097 * (m - 1) ≤ 4800 * monthStart m ∧ 4800 * monthStart m ≤ 146097 * (m + 1) := by
  obtain ⟨y, r, hr, hr12, hy, hmr, hm⟩ := month_cases m
  have hyear := yearStart_near y
  have hdays := daysBefore_near hr hr12
  unfold monthStart
  rw [hy, hmr]
  split_ifs <;> omega

theorem monthOf_spec (d : Int) : monthStart (monthOf d) ≤ d ∧ d < monthStart (monthOf d + 1) := by
  unfold monthOf
  simp only
  have hlow := (monthStart_near (4800 * d / 146097 - 1)).2
  have hhigh := (monthStart_near (4800 * d / 146097 + 2)).1
  split_ifs with h h'
  · rw [Int.sub_add_cancel]
    omega
  · omega
  · rw [Int.add_assoc, show (1 + 1 : Int) = 2 from rfl]
    omega

theorem monthOf_eq {m d : Int} (h : monthStart m ≤ d) (h' : d < monthStart (m + 1)) :
    monthOf d = m := by
  obtain ⟨hlow, hhigh⟩ := monthOf_spec d
  have hlt : m < monthOf d + 1 := monthStart_strictMono.lt_iff_lt.1 (lt_of_le_of_lt h hhigh)
  have hgt : monthOf d < m + 1 := monthStart_strictMono.lt_iff_lt.1 (lt_of_le_of_lt hlow h')
  omega

/-! ## Days of the month -/

theorem day_eq (d : Int) : d = monthStart (monthOf d) + dayOfMonth d - 1 := by
  unfold dayOfMonth
  omega

theorem dayOfMonth_bounds (d : Int) : 1 ≤ dayOfMonth d ∧ dayOfMonth d ≤ monthLength (monthOf d) := by
  obtain ⟨hlow, hhigh⟩ := monthOf_spec d
  rw [monthStart_succ] at hhigh
  unfold dayOfMonth
  omega

/-- The day `k` of the month `m`. -/
theorem monthOf_day {m k : Int} (hk : 1 ≤ k) (hk' : k ≤ monthLength m) :
    monthOf (monthStart m + k - 1) = m := by
  refine monthOf_eq ?_ ?_
  · omega
  · rw [monthStart_succ]
    omega

theorem dayOfMonth_day {m k : Int} (hk : 1 ≤ k) (hk' : k ≤ monthLength m) :
    dayOfMonth (monthStart m + k - 1) = k := by
  rw [dayOfMonth, monthOf_day hk hk']
  omega

theorem addMonths_day (d n : Int) : 1 ≤ min (dayOfMonth d) (monthLength (monthOf d + n)) ∧
    min (dayOfMonth d) (monthLength (monthOf d + n)) ≤ monthLength (monthOf d + n) := by
  have hday := dayOfMonth_bounds d
  have hlen := monthLength_bounds (monthOf d + n)
  omega

theorem monthOf_addMonths (d n : Int) : monthOf (addMonths d n) = monthOf d + n :=
  monthOf_day (addMonths_day d n).1 (addMonths_day d n).2

theorem dayOfMonth_addMonths (d n : Int) :
    dayOfMonth (addMonths d n) = min (dayOfMonth d) (monthLength (monthOf d + n)) :=
  dayOfMonth_day (addMonths_day d n).1 (addMonths_day d n).2

theorem addMonths_strictMono (d : Int) : StrictMono (addMonths d) := by
  intro m n hmn
  have hlast := (addMonths_day d m).2
  have hfirst := (addMonths_day d n).1
  have hmonths : monthStart (monthOf d + m + 1) ≤ monthStart (monthOf d + n) :=
    monthStart_strictMono.monotone (by omega)
  rw [monthStart_succ] at hmonths
  unfold addMonths
  omega

/-! ## `Date.UTC` -/

theorem dateUTC_month (d n k : Int) :
    dateUTC (getUTCFullYear d) (getUTCMonth d + n) k = monthStart (monthOf d + n) + k - 1 := by
  have hmonth : 12 * (getUTCFullYear d - 1970) + (getUTCMonth d + n) = monthOf d + n := by
    unfold getUTCFullYear getUTCMonth yearOf
    omega
  rw [dateUTC, hmonth]

/-- The day zero of the next month is the last day of the month. -/
theorem getUTCDate_lastDay (d n : Int) :
    getUTCDate (dateUTC (getUTCFullYear d) (getUTCMonth d + n + 1) 0) = monthLength (monthOf d + n) := by
  have hlen := monthLength_bounds (monthOf d + n)
  rw [add_assoc, dateUTC_month, ← add_assoc, monthStart_succ]
  rw [show monthStart (monthOf d + n) + monthLength (monthOf d + n) + 0 - 1 =
    monthStart (monthOf d + n) + monthLength (monthOf d + n) - 1 by omega]
  exact dayOfMonth_day (by omega) le_rfl

/-! ## The text of an instant -/

theorem instant?_range {y mo d h mi s ms t : Int} (ht : instant? y mo d h mi s ms = some t) :
    -8640000000000000 ≤ t ∧ t ≤ 8640000000000000 := by
  unfold instant? at ht
  dsimp only at ht
  rw [Option.ite_none_right_eq_some, Option.some.injEq] at ht
  obtain ⟨⟨-, -, -, -, -, -, -, hlow, hhigh⟩, rfl⟩ := ht
  exact ⟨hlow, hhigh⟩

/-- The instants of ECMAScript. -/
theorem ofISOString_range {text : String} {t : Int} (h : ofISOString text = some t) :
    -8640000000000000 ≤ t ∧ t ≤ 8640000000000000 := by
  unfold ofISOString at h
  dsimp only at h
  repeat' split at h
  all_goals simp only [Option.bind_eq_bind, Option.bind_eq_some_iff, reduceCtorEq,
    Option.ite_none_right_eq_some] at h
  · obtain ⟨_, -, -, _, -, _, -, _, -, _, -, _, -, _, -, h⟩ := h
    exact instant?_range h
  · simp at h
  · obtain ⟨_, -, -, _, -, _, -, _, -, _, -, _, -, _, -, h⟩ := h
    exact instant?_range h
  · simp at h
  · obtain ⟨_, -, _, -, _, -, _, -, _, -, _, -, _, -, h⟩ := h
    exact instant?_range h
  · simp at h

end Calendar
