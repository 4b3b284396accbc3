import SubscriptionSaas.Billing.Calendar
import SubscriptionSaas.Lib.Proofs.CalendarProofs

/-!
# Billing cycles tile the time from the second month on

Normal forms of the calendar's functions, and the cycles as consecutive intervals of days.
-/

namespace SubscriptionSaas.Billing

open Calendar

theorem dateUTC_self (d k : Int) : dateUTC (getUTCFullYear d) (getUTCMonth d) k =
    monthStart (monthOf d) + k - 1 := by
  have hmonth := dateUTC_month d 0 k
  rwa [add_zero, add_zero] at hmonth

@[simp] theorem addDays_eq (value days : Int) : addDays value days = value + days := by
  have hday := day_eq value
  rw [addDays, dateUTC_self, getUTCDate]
  omega

@[simp] theorem dateOnly_eq (value : Int) : dateOnly value = value := by
  rw [dateOnly, dateUTC_self]
  exact (day_eq value).symm

theorem toBillingBusinessDate_eq (value : Int) :
    toBillingBusinessDate value = dayOf (value + chinaTimeOffsetMs) := dateOnly_eq _

/-- Both ways of adding months pick the last day of a month by the day zero of the next. -/
theorem clampedMonth_eq (value months : Int) :
    dateUTC (getUTCFullYear (dateUTC (getUTCFullYear value) (getUTCMonth value + months) 1))
      (getUTCMonth (dateUTC (getUTCFullYear value) (getUTCMonth value + months) 1))
      (min (getUTCDate value) (getUTCDate
        (dateUTC (getUTCFullYear (dateUTC (getUTCFullYear value) (getUTCMonth value + months) 1))
          (getUTCMonth (dateUTC (getUTCFullYear value) (getUTCMonth value + months) 1) + 1) 0))) =
      addMonths value months := by
  have hlen := monthLength_bounds (monthOf value + months)
  have hfirst : monthOf (dateUTC (getUTCFullYear value) (getUTCMonth value + months) 1) =
      monthOf value + months := by
    rw [dateUTC_month]
    exact monthOf_day le_rfl (by omega)
  have hlast := getUTCDate_lastDay (dateUTC (getUTCFullYear value) (getUTCMonth value + months) 1) 0
  rw [add_zero, add_zero] at hlast
  rw [hlast, dateUTC_self, hfirst]
  rfl

@[simp] theorem addMonthsClamped_eq (value months : Int) :
    addMonthsClamped value months = addMonths value months := clampedMonth_eq value months

/-- The first day of the cycle `n`. -/
def cycleStart (anchor n : Int) : Int := addMonths anchor n

theorem cycleStart_strictMono (anchor : Int) : StrictMono (cycleStart anchor) :=
  addMonths_strictMono anchor

theorem buildBillingCycle_eq {anchor n : Int} (hn : 0 < n) : buildBillingCycle anchor n =
    .ok ⟨anchor, n, cycleStart anchor n, cycleStart anchor n - 3, cycleStart anchor n + 5,
      cycleStart anchor (n + 1) - 1, cycleStart anchor n⟩ := by
  rw [buildBillingCycle, if_neg (by omega)]
  simp [cycleStart, Int.sub_eq_add_neg]

theorem buildBillingCycle_ok {anchor n : Int} {cycle : BillingCycle}
    (h : buildBillingCycle anchor n = .ok cycle) : 0 < n ∧
      cycle.periodStart = cycleStart anchor n ∧ cycle.periodEnd = cycleStart anchor (n + 1) - 1 := by
  by_cases hn : 0 < n
  · rw [buildBillingCycle_eq hn] at h
    obtain rfl := Except.ok.inj h
    exact ⟨hn, rfl, rfl⟩
  · rw [buildBillingCycle, if_pos (by omega)] at h
    cases h

/-- Every day from the first cycle on lies in a cycle. -/
theorem exists_cycle {anchor d : Int} (n : Int) (h : cycleStart anchor n ≤ d) :
    ∃ k, n ≤ k ∧ cycleStart anchor k ≤ d ∧ d < cycleStart anchor (k + 1) := by
  have hstart : ∀ k : Int, cycleStart anchor k < monthStart (monthOf anchor + k + 1) := by
    intro k
    have hday := (addMonths_day anchor k).2
    rw [monthStart_succ]
    unfold cycleStart addMonths
    omega
  have hbegin : ∀ k : Int, monthStart (monthOf anchor + k) ≤ cycleStart anchor k := by
    intro k
    have hday := (addMonths_day anchor k).1
    unfold cycleStart addMonths
    omega
  obtain ⟨hlow, hhigh⟩ := monthOf_spec d
  have hmonth : n ≤ monthOf d - monthOf anchor := by
    have hlt : monthOf anchor + n < monthOf d + 1 :=
      monthStart_strictMono.lt_iff_lt.1 (lt_of_le_of_lt ((hbegin n).trans h) hhigh)
    omega
  have hnext := hbegin (monthOf d - monthOf anchor + 1)
  rw [show monthOf anchor + (monthOf d - monthOf anchor + 1) = monthOf d + 1 by omega] at hnext
  by_cases hd : cycleStart anchor (monthOf d - monthOf anchor) ≤ d
  · exact ⟨monthOf d - monthOf anchor, hmonth, hd, lt_of_lt_of_le hhigh hnext⟩
  · have hprev := hstart (monthOf d - monthOf anchor - 1)
    rw [show monthOf anchor + (monthOf d - monthOf anchor - 1) + 1 = monthOf d by omega] at hprev
    have hne : n ≠ monthOf d - monthOf anchor := by
      rintro rfl
      exact hd h
    refine ⟨monthOf d - monthOf anchor - 1, by omega, by omega, ?_⟩
    rw [Int.sub_add_cancel]
    omega

end SubscriptionSaas.Billing
