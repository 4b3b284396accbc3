import SubscriptionSaas.Contract.Segments

/-!
# The calendars of mileage

Two services divide the term of an order into months. The mileage reviews count theirs from the
instant of the delivery, on the calendar of Shanghai; the entitlements are granted for days, counted
from the day of the delivery in UTC. The settlement of a review turns its period into such days to
look up the grant.

Instants are milliseconds and dates are days, both counted from the beginning of 1970.
-/

namespace SubscriptionSaas.Mileage

open Calendar Billing

def shanghaiOffsetMs : Int := 8 * 60 * 60 * 1000

def reviewGracePeriodMs : Int := 24 * 60 * 60 * 1000

/-- The hours, minutes, seconds and milliseconds of an instant. -/
def timeOfDay (t : Int) : Int := t % 86400000

/-! ## The cycles of the reviews -/

structure MileageReviewCycle where
  periodStart : Int
  periodEnd : Int
  scheduledReviewAt : Int
  dueAt : Int
  deriving DecidableEq

def addShanghaiMonthsClamped (value months : Int) : Int :=
  let localTime := value + shanghaiOffsetMs
  let localDay := dayOf localTime
  let targetFirstDay := dateUTC (getUTCFullYear localDay) (getUTCMonth localDay + months) 1
  let targetYear := getUTCFullYear targetFirstDay
  let targetMonth := getUTCMonth targetFirstDay
  let targetLastDay := getUTCDate (dateUTC targetYear (targetMonth + 1) 0)
  let localTimestamp := instantOf
    (dateUTC targetYear targetMonth (min (getUTCDate localDay) targetLastDay)) + timeOfDay localTime
  localTimestamp - shanghaiOffsetMs

def buildMileageReviewCycle (actualDeliveryAt cycleNo : Int) :
    Except RangeError MileageReviewCycle :=
  if cycleNo ≤ 0 then .error ⟨"Mileage review cycle number must be a positive integer."⟩
  else
    let periodStart := addShanghaiMonthsClamped actualDeliveryAt (cycleNo - 1)
    let scheduledReviewAt := addShanghaiMonthsClamped actualDeliveryAt cycleNo
    .ok
      { periodStart := periodStart
        periodEnd := scheduledReviewAt - 1
        scheduledReviewAt := scheduledReviewAt
        dueAt := scheduledReviewAt + reviewGracePeriodMs }

/-! ## The months of the entitlements -/

/-- The day in UTC, which is the first part of the instant's `toISOString`. -/
def toBusinessDate (value : Int) : Int := dayOf value

def addMonthsClampedUtc (date months : Int) : Int := Contract.addMonthsClampedUtc date months

def addDaysUtc (date days : Int) : Int := Contract.addDaysUtc date days

/-- The first and the last day of the month granted at the start of an order. -/
def orderStartPeriod (startedAt : Int) : Int × Int :=
  let periodStart := toBusinessDate startedAt
  (periodStart, addDaysUtc (addMonthsClampedUtc periodStart 1) (-1))

/-- The first and the last day for which the settlement of a review looks up the grant. -/
def reviewEntitlementPeriod (periodStart scheduledReviewAt : Int) : Int × Int :=
  let nextPeriodStart := toBusinessDate scheduledReviewAt
  (toBusinessDate periodStart, dateUTC (getUTCFullYear nextPeriodStart)
    (getUTCMonth nextPeriodStart) (getUTCDate nextPeriodStart - 1))

def resolveMonthlyEntitlementPeriod (actualDeliveryAt cycleIndex : Int) : Int × Int :=
  let baseDate := toBusinessDate actualDeliveryAt
  (addMonthsClampedUtc baseDate cycleIndex,
    addDaysUtc (addMonthsClampedUtc baseDate (cycleIndex + 1)) (-1))

end SubscriptionSaas.Mileage
