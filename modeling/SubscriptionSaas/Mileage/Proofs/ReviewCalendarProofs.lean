import SubscriptionSaas.Lib.Intervals
import SubscriptionSaas.Mileage.ReviewCalendar
import SubscriptionSaas.Mileage.Proofs.CalendarProofs

/-!
# The cycles of the reviews tile time

From the year 100 on the cycles with valid dates are those of the calendar without limits whose month
is not after the last whole month of ECMAScript, August 275760 (`addShanghaiMonthsClamped_eq`).
-/

namespace SubscriptionSaas.Mileage.ReviewCalendar

open Calendar Billing

/-- August 275760, after which no month has a last day that is a valid date. -/
def lastMonth : Int := 3285487

/-- The day of the delivery in Shanghai. -/
def shanghaiDay (deliveryAt : Int) : Int := dayOf (deliveryAt + shanghaiOffsetMs)

theorem monthStart_lastMonth : monthStart (lastMonth + 1) = 99999988 := by decide

theorem monthStart_afterLast : monthStart (lastMonth + 2) = 100000018 := by decide

theorem le_yearOf {m : Int} : 100 ≤ yearOf m ↔ -22440 ≤ m := by
  unfold yearOf
  omega

/-- The days of the years from 100 on. -/
theorem le_monthStart {m : Int} (h : 100 ≤ yearOf m) : -683003 ≤ monthStart m := by
  have hfirst : monthStart (-22440) = -683003 := by decide
  rw [← hfirst]
  exact monthStart_strictMono.monotone (le_yearOf.1 h)

theorem monthStart_le_iff {m : Int} : monthStart m ≤ 99999988 ↔ m ≤ lastMonth + 1 := by
  rw [← monthStart_lastMonth]
  exact monthStart_strictMono.le_iff_le

/-- The dates of a year of more than two digits. -/
theorem timeUTC_month {m j k h n s ms : Int} (hyear : 100 ≤ yearOf m) :
    timeUTC (yearOf m) (m % 12 + j) k h n s ms =
      timeClip (instantOf (monthStart (m + j) + k - 1) + (h * 3600000 + n * 60000 + s * 1000 + ms)) := by
  have hmonth : 12 * (yearOf m - 1970) + (m % 12 + j) = m + j := by
    unfold yearOf
    omega
  rw [timeUTC, makeFullYear_of_le hyear, dateUTC, hmonth]

/-- The first day of a month is a valid date when the month does not begin after the last date. -/
theorem firstDay_eq {m n : Int} (hyear : 100 ≤ yearOf m) (hn : 0 ≤ n) (hlast : m + n ≤ lastMonth) :
    timeUTC (yearOf m) (m % 12 + n) 1 0 0 0 0 = some (instantOf (monthStart (m + n))) := by
  have hlow : -683003 ≤ monthStart (m + n) := le_monthStart (by rw [le_yearOf] at *; omega)
  have hhigh : monthStart (m + n) ≤ 99999988 := monthStart_le_iff.2 (by omega)
  rw [timeUTC_month hyear, Int.add_sub_cancel]
  unfold instantOf
  rw [timeClip_of_le (by unfold maxTime; omega) (by unfold maxTime; omega)]
  simp

theorem lastDay_eq {m : Int} (hyear : 100 ≤ yearOf m) (hlast : m ≤ lastMonth) :
    timeUTC (yearOf m) (m % 12 + 1) 0 0 0 0 0 = some (instantOf (monthStart (m + 1) - 1)) := by
  have hlow : -683003 ≤ monthStart (m + 1) := le_monthStart (by rw [le_yearOf] at *; omega)
  have hhigh : monthStart (m + 1) ≤ 99999988 := monthStart_le_iff.2 (by omega)
  rw [timeUTC_month hyear, Int.add_zero]
  unfold instantOf
  rw [timeClip_of_le (by unfold maxTime; omega) (by unfold maxTime; omega)]
  simp

/-- After the last whole month the first day or the last day of a month is not a valid date. -/
theorem lastDay_none {m : Int} (hyear : 100 ≤ yearOf m) (hlast : lastMonth < m) :
    timeUTC (yearOf m) (m % 12 + 1) 0 0 0 0 0 = none := by
  have hhigh : monthStart (lastMonth + 2) ≤ monthStart (m + 1) :=
    monthStart_strictMono.monotone (by omega)
  rw [monthStart_afterLast] at hhigh
  rw [timeUTC_month hyear, Int.add_zero]
  refine timeClip_of_lt ?_
  unfold instantOf maxTime
  omega

theorem dayOf_instantOf (d : Int) : dayOf (instantOf d) = d := by
  unfold dayOf instantOf
  omega

theorem monthOf_monthStart (m : Int) : monthOf (monthStart m) = m := by
  have hlen := monthLength_bounds m
  have hday := monthOf_day (m := m) (k := 1) le_rfl (by omega)
  rwa [Int.add_sub_cancel] at hday

theorem getUTCDate_monthEnd (m : Int) : getUTCDate (monthStart (m + 1) - 1) = monthLength m := by
  have hlen := monthLength_bounds m
  rw [monthStart_succ]
  exact dayOfMonth_day (by omega) le_rfl

/-- A day of a month, at the time of the day that an instant has. -/
theorem targetDay_eq {m k : Int} (t : Int) (hyear : 100 ≤ yearOf m) (hlast : m ≤ lastMonth)
    (hk : 1 ≤ k) (hk' : k ≤ monthLength m) :
    timeUTC (yearOf m) (m % 12) k (getUTCHours t) (getUTCMinutes t) (getUTCSeconds t)
      (getUTCMilliseconds t) = some (instantOf (monthStart m + k - 1) + timeOfDay t) := by
  have hlow := le_monthStart hyear
  have hhigh : monthStart (m + 1) ≤ 99999988 := monthStart_le_iff.2 (by omega)
  rw [monthStart_succ] at hhigh
  rw [← add_zero (m % 12), timeUTC_month hyear, add_zero, timeOfDay_fields, timeOfDay]
  unfold instantOf
  exact timeClip_of_le (by unfold maxTime; omega) (by unfold maxTime; omega)

/-! ## The months after a delivery -/

variable {d n : Int}

theorem shanghaiDay_bounds (d : Int) : monthStart (monthOf (shanghaiDay d)) * 86400000 ≤
      d + shanghaiOffsetMs ∧
    d + shanghaiOffsetMs < monthStart (monthOf (shanghaiDay d) + 1) * 86400000 := by
  obtain ⟨hlow, hhigh⟩ := monthOf_spec (shanghaiDay d)
  unfold shanghaiDay dayOf at *
  omega

theorem addMonths_bounds (day n : Int) : monthStart (monthOf day + n) ≤ addMonths day n ∧
    addMonths day n < monthStart (monthOf day + n + 1) := by
  have hday := addMonths_day day n
  rw [monthStart_succ]
  unfold addMonths
  omega

/-- The local time lies in the month. -/
theorem addShanghaiMonthsClamped_bounds (d n : Int) :
    monthStart (monthOf (shanghaiDay d) + n) * 86400000 ≤
        Mileage.addShanghaiMonthsClamped d n + shanghaiOffsetMs ∧
      Mileage.addShanghaiMonthsClamped d n + shanghaiOffsetMs <
        monthStart (monthOf (shanghaiDay d) + n + 1) * 86400000 := by
  have htarget := addMonths_bounds (shanghaiDay d) n
  rw [addShanghaiMonthsClamped_eq, sub_add_cancel]
  unfold shanghaiDay at *
  unfold instantOf timeOfDay
  omega

/-- Up to the last whole month the dates are those of the calendar without limits. -/
theorem addShanghaiMonthsClamped_some (hyear : 100 ≤ getUTCFullYear (shanghaiDay d)) (hn : 0 ≤ n)
    (hlast : monthOf (shanghaiDay d) + n ≤ lastMonth) :
    addShanghaiMonthsClamped d n = some (Mileage.addShanghaiMonthsClamped d n) := by
  have hmonth : 100 ≤ yearOf (monthOf (shanghaiDay d) + n) := by
    unfold getUTCFullYear at hyear
    rw [le_yearOf] at *
    omega
  have hlow := le_monthStart hyear
  have hhigh : monthStart (monthOf (shanghaiDay d) + 1) ≤ 99999988 := monthStart_le_iff.2 (by omega)
  have hbounds := shanghaiDay_bounds d
  have hlocal : timeClip (d + shanghaiOffsetMs) = some (d + shanghaiOffsetMs) :=
    timeClip_of_le (by unfold maxTime; omega) (by unfold maxTime; omega)
  have hlow' := le_monthStart hmonth
  have hhigh' : monthStart (monthOf (shanghaiDay d) + n + 1) ≤ 99999988 :=
    monthStart_le_iff.2 (by omega)
  have hbounds' := addShanghaiMonthsClamped_bounds d n
  have hclip : timeClip (Mileage.addShanghaiMonthsClamped d n) =
      some (Mileage.addShanghaiMonthsClamped d n) :=
    timeClip_of_le (by unfold maxTime shanghaiOffsetMs at *; omega)
      (by unfold maxTime shanghaiOffsetMs at *; omega)
  have hday := addMonths_day (shanghaiDay d) n
  have hfirst := firstDay_eq hyear hn hlast
  have hlastDay := lastDay_eq hmonth hlast
  have htarget := targetDay_eq (d + shanghaiOffsetMs) hmonth hlast hday.1 hday.2
  rw [addShanghaiMonthsClamped_eq] at hclip ⊢
  rw [addShanghaiMonthsClamped, hlocal]
  unfold shanghaiDay at hfirst hlastDay htarget
  simp only [Option.bind_eq_bind, Option.bind_some, getUTCFullYear, getUTCMonth, hfirst,
    dayOf_instantOf, monthOf_monthStart, hlastDay, getUTCDate_monthEnd]
  rw [getUTCDate, htarget]
  exact hclip

/-- After it there is no valid date. -/
theorem addShanghaiMonthsClamped_none (hyear : 100 ≤ getUTCFullYear (shanghaiDay d)) (hn : 0 ≤ n)
    (hlast : lastMonth < monthOf (shanghaiDay d) + n) : addShanghaiMonthsClamped d n = none := by
  have hmonth : 100 ≤ yearOf (monthOf (shanghaiDay d) + n) := by
    unfold getUTCFullYear at hyear
    rw [le_yearOf] at *
    omega
  rw [addShanghaiMonthsClamped]
  cases hlocal : timeClip (d + shanghaiOffsetMs) with
  | none => rfl
  | some localTime =>
    obtain ⟨rfl, -, -⟩ := timeClip_eq_some hlocal
    unfold shanghaiDay at *
    cases hfirst : timeUTC (getUTCFullYear (dayOf (d + shanghaiOffsetMs)))
        (getUTCMonth (dayOf (d + shanghaiOffsetMs)) + n) 1 0 0 0 0 with
    | none => simp [hfirst]
    | some first =>
      have htime := hfirst
      unfold getUTCFullYear getUTCMonth at htime
      rw [timeUTC_month hyear] at htime
      obtain ⟨hvalue, -, -⟩ := timeClip_eq_some htime
      have hmonthOf : monthOf (dayOf first) = monthOf (dayOf (d + shanghaiOffsetMs)) + n := by
        have hday : first = instantOf (monthStart (monthOf (dayOf (d + shanghaiOffsetMs)) + n)) := by
          rw [hvalue, Int.add_sub_cancel]
          simp
        rw [hday, dayOf_instantOf, monthOf_monthStart]
      simp only [Option.bind_eq_bind, Option.bind_some, hfirst]
      rw [getUTCFullYear, getUTCMonth, hmonthOf, lastDay_none hmonth hlast]
      rfl

/-- The dates with their limits, from those without. -/
theorem addShanghaiMonthsClamped_limit (hyear : 100 ≤ getUTCFullYear (shanghaiDay d)) (hn : 0 ≤ n) :
    addShanghaiMonthsClamped d n = if monthOf (shanghaiDay d) + n ≤ lastMonth then
      some (Mileage.addShanghaiMonthsClamped d n) else none := by
  split_ifs with hlast
  · exact addShanghaiMonthsClamped_some hyear hn hlast
  · exact addShanghaiMonthsClamped_none hyear hn (by omega)

theorem addShanghaiMonthsClamped_strictMono (d : Int) : StrictMono (Mileage.addShanghaiMonthsClamped d) := by
  intro m n hmn
  have hlt := addMonths_strictMono (dayOf (d + shanghaiOffsetMs)) hmn
  rw [addShanghaiMonthsClamped_eq, addShanghaiMonthsClamped_eq]
  unfold instantOf
  omega

/-! ## The cycles -/

theorem buildMileageReviewCycle_ok {cycle : ReviewCycle}
    (h : buildMileageReviewCycle (some d) n = .ok cycle) : 1 ≤ n ∧ n < 2 ^ 53 ∧
      cycle.periodStart = addShanghaiMonthsClamped d (n - 1) ∧
      cycle.periodEnd = (addShanghaiMonthsClamped d n).bind fun t => timeClip (t - 1) := by
  obtain ⟨deliveryAt, hdelivery, h⟩ := Results.bind_ok h
  obtain rfl := Except.ok.inj hdelivery
  obtain ⟨u, hcheck, h⟩ := Results.bind_ok h
  obtain ⟨hn, -⟩ := Results.guard_ok hcheck
  obtain rfl := Except.ok.inj h
  exact ⟨by omega, by omega, rfl, rfl⟩

theorem exists_cycle (d : Int) (hn : 1 ≤ n) (hn' : n < 2 ^ 53) :
    ∃ cycle, buildMileageReviewCycle (some d) n = .ok cycle := by
  have hcheck : assertPositiveCycleNo n = .ok () := if_neg (by omega)
  rw [buildMileageReviewCycle, assertValidDeliveryTime, Results.bind_eq rfl, Results.bind_eq hcheck]
  exact ⟨_, rfl⟩

/-- The end of a cycle is valid up to the last whole month. -/
theorem periodEnd_eq {cycle : ReviewCycle} (hyear : 100 ≤ getUTCFullYear (shanghaiDay d))
    (h : buildMileageReviewCycle (some d) n = .ok cycle) : cycle.periodEnd =
      if monthOf (shanghaiDay d) + n ≤ lastMonth then
        some (Mileage.addShanghaiMonthsClamped d n - 1) else none := by
  obtain ⟨hn, -, -, hend⟩ := buildMileageReviewCycle_ok h
  rw [hend, addShanghaiMonthsClamped_limit hyear (by omega)]
  by_cases hlast : monthOf (shanghaiDay d) + n ≤ lastMonth
  · have hmonth : 100 ≤ yearOf (monthOf (shanghaiDay d) + n) := by
      unfold getUTCFullYear at hyear
      rw [le_yearOf] at *
      omega
    have hlow := le_monthStart hmonth
    have hhigh : monthStart (monthOf (shanghaiDay d) + n + 1) ≤ 99999988 :=
      monthStart_le_iff.2 (by omega)
    have hbounds := addShanghaiMonthsClamped_bounds d n
    rw [if_pos hlast, if_pos hlast, Option.bind_some]
    unfold shanghaiOffsetMs at hbounds
    exact timeClip_of_le (by unfold maxTime; omega) (by unfold maxTime; omega)
  · rw [if_neg hlast, if_neg hlast]
    rfl

/-- The start of a cycle is valid up to the month after the last whole one. -/
theorem periodStart_eq {cycle : ReviewCycle} (hyear : 100 ≤ getUTCFullYear (shanghaiDay d))
    (h : buildMileageReviewCycle (some d) n = .ok cycle)
    (hlast : monthOf (shanghaiDay d) + n ≤ lastMonth + 1) :
    cycle.periodStart = some (Mileage.addShanghaiMonthsClamped d (n - 1)) := by
  obtain ⟨hn, -, hstart, -⟩ := buildMileageReviewCycle_ok h
  rw [hstart, addShanghaiMonthsClamped_limit hyear (by omega), if_pos (by omega)]

theorem contains_iff {cycle : ReviewCycle} {t : Int} (hyear : 100 ≤ getUTCFullYear (shanghaiDay d))
    (h : buildMileageReviewCycle (some d) n = .ok cycle) : cycle.Contains t ↔
      monthOf (shanghaiDay d) + n ≤ lastMonth ∧ Mileage.addShanghaiMonthsClamped d (n - 1) ≤ t ∧
        t < Mileage.addShanghaiMonthsClamped d n := by
  have hend := periodEnd_eq hyear h
  constructor
  · rintro ⟨s, e, hs, he, hle, hle'⟩
    rw [he] at hend
    split_ifs at hend with hlast
    rw [periodStart_eq hyear h (by omega), Option.some.injEq] at hs
    rw [Option.some.injEq] at hend
    exact ⟨hlast, by omega, by omega⟩
  · rintro ⟨hlast, hle, hlt⟩
    rw [if_pos hlast] at hend
    exact ⟨_, _, periodStart_eq hyear h (by omega), hend, hle, by omega⟩

/-- From the year 100 on the cycles with valid dates follow each other without a gap, and each instant
from the delivery to the end of the last of them belongs to exactly one. -/
theorem reviewCycles_tile (hyear : 100 ≤ getUTCFullYear (shanghaiDay d)) :
    (∀ n cycle, buildMileageReviewCycle (some d) n = .ok cycle →
      (cycle.periodEnd ≠ none ↔ monthOf (shanghaiDay d) + n ≤ lastMonth)) ∧
    (∀ n cycle e, buildMileageReviewCycle (some d) n = .ok cycle → cycle.periodEnd = some e →
      (∃ s, cycle.periodStart = some s ∧ s ≤ e) ∧
      ∃ next, buildMileageReviewCycle (some d) (n + 1) = .ok next ∧
        next.periodStart = some (e + 1)) ∧
    ∀ t n cycle e, d ≤ t → buildMileageReviewCycle (some d) n = .ok cycle →
      cycle.periodEnd = some e → t ≤ e →
      ∃! k, ∃ c, buildMileageReviewCycle (some d) k = .ok c ∧ c.Contains t := by
  have hmonth : -22440 ≤ monthOf (shanghaiDay d) := le_yearOf.1 hyear
  have hmono := addShanghaiMonthsClamped_strictMono d
  refine ⟨fun n cycle h => ?_, fun n cycle e h he => ?_, fun t n cycle e ht h he hte => ?_⟩
  · rw [periodEnd_eq hyear h]
    split_ifs with hlast <;> simp [hlast]
  · obtain ⟨hn, -, -, -⟩ := buildMileageReviewCycle_ok h
    rw [periodEnd_eq hyear h] at he
    split_ifs at he with hlast
    rw [Option.some.injEq] at he
    have hlt := hmono (show n - 1 < n by omega)
    refine ⟨⟨_, periodStart_eq hyear h (by omega), by omega⟩, ?_⟩
    obtain ⟨next, hnext⟩ := exists_cycle (n := n + 1) d (by omega) (by unfold lastMonth at hlast; omega)
    have hstart := periodStart_eq hyear hnext (by omega)
    rw [add_sub_cancel_right] at hstart
    exact ⟨next, hnext, by rw [hstart, ← he, sub_add_cancel]⟩
  · obtain ⟨hn, hn', -, -⟩ := buildMileageReviewCycle_ok h
    rw [periodEnd_eq hyear h] at he
    split_ifs at he with hlast
    rw [Option.some.injEq] at he
    have hdelivery := addShanghaiMonthsClamped_zero d
    have hcasts : StrictMono fun k : ℕ => Mileage.addShanghaiMonthsClamped d k :=
      hmono.comp Nat.strictMono_cast
    obtain ⟨k, ⟨hle, hlt⟩, -⟩ := Intervals.existsUnique_between (t := t) hcasts (by simpa [hdelivery] using ht)
    rw [Nat.cast_succ] at hlt
    have hkn : (k : ℤ) < n := hmono.lt_iff_lt.1 (lt_of_le_of_lt hle (by omega))
    obtain ⟨c, hc⟩ := exists_cycle (n := k + 1) d (by omega) (by omega)
    have hcontains := contains_iff (t := t) hyear hc
    rw [add_sub_cancel_right] at hcontains
    refine ⟨k + 1, ⟨c, hc, hcontains.2 ⟨by omega, hle, hlt⟩⟩, ?_⟩
    rintro m ⟨c', hc', hm⟩
    obtain ⟨-, hle', hlt'⟩ := (contains_iff hyear hc').1 hm
    have hkm : (k : ℤ) < m := hmono.lt_iff_lt.1 (lt_of_le_of_lt hle hlt')
    have hmk : m - 1 < k + 1 := hmono.lt_iff_lt.1 (lt_of_le_of_lt hle' hlt)
    omega

/-- The second cycle of an order delivered on the fifth of August 2026. -/
theorem reviewCycles_tile_sample :
    ∃ next, buildMileageReviewCycle (some 1785888000000) 2 = .ok next ∧
      next.periodStart = some 1788566400000 :=
  ((reviewCycles_tile (d := 1785888000000) (by decide)).2.1 1
    { periodStart := some 1785888000000
      periodEnd := some 1788566399999
      scheduledReviewAt := some 1788566400000
      dueAt := some 1788652800000 } 1788566399999 (by decide +kernel) rfl).2

/-- A cycle of a high number has no valid dates, and the cycle in which the years end that `Date.UTC`
moves starts after it ends. -/
theorem reviewCycles_limits :
    (buildMileageReviewCycle (some 1785888000000) 4000000).toOption.map
        (fun c => (c.periodStart, c.periodEnd)) = some (none, none) ∧
      (buildMileageReviewCycle (some (-62168688000000)) 1201).toOption.map
        (fun c => (c.periodStart, c.periodEnd)) = some (some 945216000000, some (-59010249600001)) ∧
      ¬∀ deliveryAt n : Int, -maxTime ≤ deliveryAt → deliveryAt ≤ maxTime → 1 ≤ n → n < 2 ^ 53 →
        ∃ cycle s e, buildMileageReviewCycle (some deliveryAt) n = .ok cycle ∧
          cycle.periodStart = some s ∧ cycle.periodEnd = some e ∧ s ≤ e := by
  have hhigh : (buildMileageReviewCycle (some 1785888000000) 4000000).toOption.map
      (fun c => (c.periodStart, c.periodEnd)) = some (none, none) := by decide +kernel
  refine ⟨hhigh, by decide +kernel, fun h => ?_⟩
  obtain ⟨cycle, s, e, hcycle, hs, -, -⟩ :=
    h 1785888000000 4000000 (by decide) (by decide) (by decide) (by decide)
  rw [hcycle] at hhigh
  simp [Except.toOption, hs] at hhigh

end SubscriptionSaas.Mileage.ReviewCalendar
