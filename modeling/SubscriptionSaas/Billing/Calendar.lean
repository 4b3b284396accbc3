import SubscriptionSaas.Billing.Jobs
import SubscriptionSaas.Lib.Calendar

/-!
# The billing calendar

The monthly billing cycles of an order, counted from the day of its delivery in China. The cycle `n`
begins `n` months after that day; the first month is not billed by a cycle.
-/

namespace SubscriptionSaas.Billing

open Calendar

def chinaTimeOffsetMs : Int := 8 * 60 * 60 * 1000

structure RangeError where
  message : String
  deriving DecidableEq

structure BillingCycle where
  anchorDate : Int
  cycleNo : Int
  dueDate : Int
  generateAt : Int
  overdueAt : Int
  periodEnd : Int
  periodStart : Int
  deriving DecidableEq

def dateOnly (value : Int) : Int :=
  dateUTC (getUTCFullYear value) (getUTCMonth value) (getUTCDate value)

/-- The day in China. -/
def toBillingBusinessDate (value : Int) : Int :=
  let shifted := dayOf (value + chinaTimeOffsetMs)
  dateUTC (getUTCFullYear shifted) (getUTCMonth shifted) (getUTCDate shifted)

def addMonthsClamped (value months : Int) : Int :=
  let targetFirstDay := dateUTC (getUTCFullYear value) (getUTCMonth value + months) 1
  let targetYear := getUTCFullYear targetFirstDay
  let targetMonth := getUTCMonth targetFirstDay
  let targetLastDay := getUTCDate (dateUTC targetYear (targetMonth + 1) 0)
  dateUTC targetYear targetMonth (min (getUTCDate value) targetLastDay)

def addDays (value days : Int) : Int :=
  dateUTC (getUTCFullYear value) (getUTCMonth value) (getUTCDate value + days)

def buildBillingCycle (anchorDate cycleNo : Int) : Except RangeError BillingCycle :=
  if cycleNo ≤ 0 then .error ⟨"Billing cycle number must be a positive integer."⟩
  else
    let normalizedAnchor := dateOnly anchorDate
    let periodStart := addMonthsClamped normalizedAnchor cycleNo
    let periodEnd := addDays (addMonthsClamped normalizedAnchor (cycleNo + 1)) (-1)
    .ok
      { anchorDate := normalizedAnchor
        cycleNo := cycleNo
        dueDate := periodStart
        generateAt := addDays periodStart (-3)
        overdueAt := addDays periodStart 5
        periodEnd := periodEnd
        periodStart := periodStart }

def buildBillingCycleForDelivery (actualDeliveryAt cycleNo : Int) :
    Except RangeError BillingCycle :=
  buildBillingCycle (toBillingBusinessDate actualDeliveryAt) cycleNo

def buildInitialBillingCycle (actualDeliveryAt : Int) : Except RangeError BillingCycle :=
  buildBillingCycleForDelivery actualDeliveryAt 1

def buildNextBillingCycle (current : BillingCycle) : Except RangeError BillingCycle :=
  if current.cycleNo ≤ 0 then .error ⟨"Billing cycle number must be a positive integer."⟩
  else buildBillingCycle current.anchorDate (current.cycleNo + 1)

def billingSourceKey (orderId : Id) (periodStart : Int) : IdempotencyKey :=
  .monthlyRent orderId (dateOnly periodStart)

end SubscriptionSaas.Billing
