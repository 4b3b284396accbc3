import Mathlib.Algebra.Ring.Int.Defs
import SubscriptionSaas.Lib.TimeValues
import SubscriptionSaas.Mileage.Calendar

/-!
# The calendar of the mileage reviews

The cycles of `mileage-review.calendar.ts` with the dates that ECMAScript has: there are none after the
year 275760, and `Date.UTC` takes the years from 0 to 99 for years of the twentieth century. The
calendar of the other modules is without these limits.
-/

namespace SubscriptionSaas.Mileage.ReviewCalendar

open Calendar Billing

/-- The dates of a cycle, some of which may be invalid. -/
structure ReviewCycle where
  periodStart : TimeValue
  periodEnd : TimeValue
  scheduledReviewAt : TimeValue
  dueAt : TimeValue
  deriving DecidableEq

/-- An instant belongs to the cycle. -/
def ReviewCycle.Contains (cycle : ReviewCycle) (t : Int) : Prop :=
  ∃ s e, cycle.periodStart = some s ∧ cycle.periodEnd = some e ∧ s ≤ t ∧ t ≤ e

def addShanghaiMonthsClamped (value : Int) (months : Int) : TimeValue := do
  let localTime ← timeClip (value + shanghaiOffsetMs)
  let localDay := dayOf localTime
  let targetFirstDay ← timeUTC (getUTCFullYear localDay) (getUTCMonth localDay + months) 1 0 0 0 0
  let targetYear := getUTCFullYear (dayOf targetFirstDay)
  let targetMonth := getUTCMonth (dayOf targetFirstDay)
  let targetEnd ← timeUTC targetYear (targetMonth + 1) 0 0 0 0 0
  let targetLastDay := getUTCDate (dayOf targetEnd)
  let localTimestamp ← timeUTC targetYear targetMonth (min (getUTCDate localDay) targetLastDay)
    (getUTCHours localTime) (getUTCMinutes localTime) (getUTCSeconds localTime)
    (getUTCMilliseconds localTime)
  timeClip (localTimestamp - shanghaiOffsetMs)

def assertValidDeliveryTime : TimeValue → Except RangeError Int
  | some time => .ok time
  | none => .error ⟨"Delivery time must be valid."⟩

/-- The check of a number that is an integer. -/
def assertPositiveCycleNo (value : Int) : Except RangeError Unit :=
  if value ≤ 0 ∨ 2 ^ 53 ≤ value then
    .error ⟨"Mileage review cycle number must be a positive integer."⟩
  else .ok ()

def buildMileageReviewCycle (actualDeliveryAt : TimeValue) (cycleNo : Int) :
    Except RangeError ReviewCycle := do
  let deliveryAt ← assertValidDeliveryTime actualDeliveryAt
  assertPositiveCycleNo cycleNo
  let periodStart := addShanghaiMonthsClamped deliveryAt (cycleNo - 1)
  let scheduledReviewAt := addShanghaiMonthsClamped deliveryAt cycleNo
  return {
    periodStart
    periodEnd := scheduledReviewAt.bind fun t => timeClip (t - 1)
    scheduledReviewAt
    dueAt := scheduledReviewAt.bind fun t => timeClip (t + reviewGracePeriodMs) }

end SubscriptionSaas.Mileage.ReviewCalendar
