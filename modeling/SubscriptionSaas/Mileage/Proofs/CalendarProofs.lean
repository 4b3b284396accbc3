import SubscriptionSaas.Lib.Results
import SubscriptionSaas.Mileage.Calendar
import SubscriptionSaas.Contract.Proofs.SegmentProofs

/-!
# Where the calendars of mileage agree

The cycles of the reviews follow each other without a gap (`cycle_next`). The month granted at the
start of an order begins on the day on which the first cycle begins, and covers it unless the delivery
was late, in UTC, on the last day of a month that is shorter than the next (`orderStart_covers_iff`).
-/

namespace SubscriptionSaas.Mileage

open Calendar Billing Contract

/-! ## Normal forms -/

theorem addShanghaiMonthsClamped_eq (value months : Int) :
    addShanghaiMonthsClamped value months = instantOf
      (addMonths (dayOf (value + shanghaiOffsetMs)) months) +
        timeOfDay (value + shanghaiOffsetMs) - shanghaiOffsetMs := by
  rw [addShanghaiMonthsClamped]
  simp only [clampedMonth_eq]

theorem buildMileageReviewCycle_ok {d n : Int} {cycle : MileageReviewCycle}
    (h : buildMileageReviewCycle d n = .ok cycle) :
    0 < n ∧ cycle.periodStart = addShanghaiMonthsClamped d (n - 1) ∧
      cycle.scheduledReviewAt = addShanghaiMonthsClamped d n ∧
      cycle.periodEnd = addShanghaiMonthsClamped d n - 1 := by
  rw [buildMileageReviewCycle] at h
  obtain ⟨hn, h⟩ := Results.guard_ok h
  obtain rfl := Except.ok.inj h
  exact ⟨by omega, rfl, rfl, rfl⟩

theorem addMonths_zero (d : Int) : addMonths d 0 = d := by
  have hday := dayOfMonth_bounds d
  rw [addMonths, add_zero, min_eq_left hday.2]
  exact (day_eq d).symm

/-- The first cycle begins with the delivery. -/
theorem addShanghaiMonthsClamped_zero (d : Int) : addShanghaiMonthsClamped d 0 = d := by
  rw [addShanghaiMonthsClamped_eq, addMonths_zero]
  unfold instantOf dayOf timeOfDay
  omega

/-- The UTC day of a Shanghai time is the day in Shanghai, or the day before it. -/
theorem toBusinessDate_shanghai (value months : Int) :
    toBusinessDate (addShanghaiMonthsClamped value months) =
      addMonths (dayOf (value + shanghaiOffsetMs)) months -
        if 57600000 ≤ timeOfDay value then 1 else 0 := by
  rw [addShanghaiMonthsClamped_eq]
  generalize addMonths (dayOf (value + shanghaiOffsetMs)) months = day
  unfold toBusinessDate dayOf instantOf timeOfDay shanghaiOffsetMs
  split_ifs <;> omega

theorem day_shanghai (value : Int) : dayOf (value + shanghaiOffsetMs) =
    toBusinessDate value + if 57600000 ≤ timeOfDay value then 1 else 0 := by
  unfold toBusinessDate dayOf timeOfDay shanghaiOffsetMs
  split_ifs <;> omega

theorem orderStartPeriod_eq (d : Int) : orderStartPeriod d =
    (toBusinessDate d, addMonths (toBusinessDate d) 1 - 1) := by
  simp only [orderStartPeriod, Mileage.addDaysUtc, Mileage.addMonthsClampedUtc, addDaysUtc_eq,
    addMonthsClampedUtc_eq, Int.sub_eq_add_neg]

theorem reviewEntitlementPeriod_eq (periodStart scheduledReviewAt : Int) :
    reviewEntitlementPeriod periodStart scheduledReviewAt =
      (toBusinessDate periodStart, toBusinessDate scheduledReviewAt - 1) := by
  have hday := addDaysUtc_eq (toBusinessDate scheduledReviewAt) (-1)
  rw [Contract.addDaysUtc] at hday
  simp only [reviewEntitlementPeriod]
  rw [Int.sub_eq_add_neg, hday, ← Int.sub_eq_add_neg]

/-! ## The first month -/

/-- In UTC the instant lies in the last eight hours of a month that is shorter than the next one. -/
def LateOnShortMonthEnd (d : Int) : Prop :=
  57600000 ≤ timeOfDay d ∧
    dayOfMonth (toBusinessDate d) = monthLength (monthOf (toBusinessDate d)) ∧
    monthLength (monthOf (toBusinessDate d)) < monthLength (monthOf (toBusinessDate d) + 1)

instance (d : Int) : Decidable (LateOnShortMonthEnd d) :=
  inferInstanceAs (Decidable (_ ∧ _ ∧ _))

/-- The day after a day of the month. -/
theorem addMonths_succ_day {d : Int} (h : dayOfMonth d < monthLength (monthOf d)) (n : Int) :
    addMonths (d + 1) n =
      monthStart (monthOf d + n) + min (dayOfMonth d + 1) (monthLength (monthOf d + n)) - 1 := by
  have hday := day_eq d
  have hbounds := dayOfMonth_bounds d
  have hnext : d + 1 = monthStart (monthOf d) + (dayOfMonth d + 1) - 1 := by omega
  have hmonth : monthOf (d + 1) = monthOf d := by
    rw [hnext]
    exact monthOf_day (by omega) (by omega)
  have hdom : dayOfMonth (d + 1) = dayOfMonth d + 1 := by
    rw [hnext]
    exact dayOfMonth_day (by omega) (by omega)
  rw [addMonths, hmonth, hdom]

/-- The day after the last day of the month. -/
theorem addMonths_succ_lastDay {d : Int} (h : dayOfMonth d = monthLength (monthOf d)) (n : Int) :
    addMonths (d + 1) n = monthStart (monthOf d + 1 + n) := by
  have hday := day_eq d
  have hlen := monthLength_bounds (monthOf d + 1)
  have hlen' := monthLength_bounds (monthOf d + 1 + n)
  have hnext : d + 1 = monthStart (monthOf d + 1) + 1 - 1 := by
    rw [monthStart_succ]
    omega
  have hmonth : monthOf (d + 1) = monthOf d + 1 := by
    rw [hnext]
    exact monthOf_day (by omega) (by omega)
  have hdom : dayOfMonth (d + 1) = 1 := by
    rw [hnext]
    exact dayOfMonth_day (by omega) (by omega)
  rw [addMonths, hmonth, hdom, min_eq_left (by omega)]
  omega

/-- The last day for which the settlement of the first cycle looks up the grant. -/
theorem firstCycle_end_le_iff (d : Int) :
    toBusinessDate (addShanghaiMonthsClamped d 1) ≤ addMonths (toBusinessDate d) 1 ↔
      ¬LateOnShortMonthEnd d := by
  rw [toBusinessDate_shanghai, day_shanghai, LateOnShortMonthEnd]
  by_cases hlate : 57600000 ≤ timeOfDay d
  · rw [if_pos hlate]
    have hbounds := dayOfMonth_bounds (toBusinessDate d)
    have hlen := monthLength_bounds (monthOf (toBusinessDate d) + 1)
    by_cases hlast : dayOfMonth (toBusinessDate d) = monthLength (monthOf (toBusinessDate d))
    · rw [addMonths_succ_lastDay hlast, monthStart_succ, addMonths, hlast]
      omega
    · rw [addMonths_succ_day (by omega), addMonths]
      omega
  · rw [if_neg hlate, add_zero, sub_zero]
    exact ⟨fun _ h => hlate h.1, fun _ => le_rfl⟩

/-- The month granted at the start begins with the first cycle, and covers what the settlement of the
cycle looks up unless the delivery was late at the end of a short month. -/
theorem orderStart_covers_iff (d : Int) :
    (orderStartPeriod d).1 = (reviewEntitlementPeriod (addShanghaiMonthsClamped d 0)
        (addShanghaiMonthsClamped d 1)).1 ∧
      ((reviewEntitlementPeriod (addShanghaiMonthsClamped d 0)
        (addShanghaiMonthsClamped d 1)).2 ≤ (orderStartPeriod d).2 ↔ ¬LateOnShortMonthEnd d) := by
  rw [orderStartPeriod_eq, reviewEntitlementPeriod_eq, addShanghaiMonthsClamped_zero,
    ← firstCycle_end_le_iff]
  exact ⟨rfl, by simp only; omega⟩

/-! ## The later months -/

/-- The days of a later cycle begin after the day of the delivery. -/
theorem laterCycle_start (d : Int) {n : Int} (hn : 0 < n) :
    toBusinessDate d < toBusinessDate (addShanghaiMonthsClamped d n) := by
  rw [toBusinessDate_shanghai, day_shanghai]
  generalize hday : (toBusinessDate d + if 57600000 ≤ timeOfDay d then 1 else 0) = day
  have hlt : addMonths day 0 < addMonths day n := addMonths_strictMono day hn
  rw [addMonths_zero] at hlt
  split_ifs at hday ⊢ <;> omega

theorem laterMonth_start (d : Int) {n : Int} (hn : 0 < n) :
    toBusinessDate d < (resolveMonthlyEntitlementPeriod d n).1 := by
  have hlt := addMonths_strictMono (toBusinessDate d) hn
  rw [addMonths_zero] at hlt
  simpa [resolveMonthlyEntitlementPeriod, Mileage.addMonthsClampedUtc] using hlt

/-- The day of the delivery in Shanghai is not before its day in UTC. -/
theorem toBusinessDate_le (d : Int) : toBusinessDate d ≤ toBillingBusinessDate d := by
  rw [toBillingBusinessDate_eq]
  unfold toBusinessDate dayOf chinaTimeOffsetMs
  omega

end SubscriptionSaas.Mileage
