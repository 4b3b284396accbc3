import SubscriptionSaas.Lib.Calendar
import SubscriptionSaas.Lib.Periods

/-!
# Previews of revenue shares

What of a vehicle's receipts between two dates goes to its owner and what stays with the platform,
after the vehicle's rule for it. A date of a query or of a billing period is a day and is given by its
number, the due date of a bill is an instant; amounts are in cents.
-/

namespace SubscriptionSaas.RevenueRight

open Calendar

inductive BillType
  | deposit | firstMonthlyFee | monthlyRent | overMileage | damageFee | other
  deriving DecidableEq

inductive RevenueShareRuleType
  | revenueShare | fixedRent | mixed
  deriving DecidableEq

inductive RevenueShareBasis
  | rentalPaid | operatingRevenue | grossReceivable | manual
  deriving DecidableEq

inductive VehicleAcquisitionMode
  | ownedCash | ownedFinanced | longTermLeased | managedRevenueShare
  deriving DecidableEq

structure Vehicle where
  id : Nat
  acquisitionMode : VehicleAcquisitionMode

structure Order where
  id : Nat
  vehicleId : Option Nat

structure ReceivableBill where
  id : Nat
  orderId : Nat
  billType : BillType
  paidAmount : Int := 0
  dueDate : Int
  billPeriodStart : Option Int := none
  billPeriodEnd : Option Int := none
  deletedAt : Option Int := none
  deriving DecidableEq

structure RevenueShareRule where
  ruleType : RevenueShareRuleType
  shareBasis : RevenueShareBasis
  ownerShareBps : Option Int
  fixedMonthlyAmount : Option Int

structure Db where
  orders : List Order
  bills : List ReceivableBill

def SUPPORTED_REVENUE_SHARE_BASIS : List RevenueShareBasis := [.rentalPaid, .operatingRevenue]

def RENTAL_PAID_BILL_TYPES : List BillType := [.firstMonthlyFee, .monthlyRent]

def OPERATING_REVENUE_BILL_TYPES : List BillType := [.firstMonthlyFee, .monthlyRent, .damageFee, .other]

def SHARE_RULE_EXPECTED_ACQUISITION_MODES : List VehicleAcquisitionMode :=
  [.longTermLeased, .managedRevenueShare]

/-! ## Dates and amounts -/

/-- The day of an instant. -/
def dateOnly (date : Int) : Int :=
  dateUTC (getUTCFullYear (dayOf date)) (getUTCMonth (dayOf date)) (getUTCDate (dayOf date))

def addDays (date days : Int) : Int :=
  dateUTC (getUTCFullYear date) (getUTCMonth date) (getUTCDate date + days)

def daysInclusive (startDate endDate : Int) : Int := endDate - startDate + 1

/-- `Math.round` of the fraction: the nearest integer, the upper one of two. -/
def mathRound (numerator denominator : Int) : Int :=
  (2 * numerator + denominator) / (2 * denominator)

def calculateFixedCostAmount (rule : RevenueShareRule) (days : Int) : Int :=
  if rule.ruleType ≠ .fixedRent ∧ rule.ruleType ≠ .mixed then 0
  else
    match rule.fixedMonthlyAmount with
    | none => 0
    | some fixedMonthlyAmount => mathRound (fixedMonthlyAmount * 12 * days) 365

def calculateBpsAmount (amount bps : Int) : Int := Int.tdiv (amount * bps) 10000

def sumBigInt (values : List Int) : Int := values.foldl (· + ·) 0

/-! ## The bills of a preview -/

def eligibleBillTypesForBasis (shareBasis : RevenueShareBasis) : List BillType :=
  if shareBasis = .rentalPaid then RENTAL_PAID_BILL_TYPES else OPERATING_REVENUE_BILL_TYPES

/-- A bound that is missing is taken for the due date. -/
def billInDateRange (bill : ReceivableBill) (startDate endDate : Int) : Bool :=
  if bill.billPeriodStart.isSome || bill.billPeriodEnd.isSome then
    let periodStart := (bill.billPeriodStart.map instantOf).getD bill.dueDate
    let periodEnd := (bill.billPeriodEnd.map instantOf).getD bill.dueDate
    dateOnly periodStart ≤ endDate && startDate ≤ dateOnly periodEnd
  else
    let dueDate := dateOnly bill.dueDate
    startDate ≤ dueDate && dueDate ≤ endDate

/-- `deletedAt: null, order: { vehicleId }`. -/
def Db.vehicleBills (db : Db) (vehicle : Vehicle) : List ReceivableBill :=
  db.bills.filter fun bill => bill.deletedAt.isNone &&
    db.orders.any fun order => order.id == bill.orderId && order.vehicleId == some vehicle.id

/-- The `OR` of the query; a comparison with a bound that is missing does not hold. -/
def selectsBill (startDate endDate : Int) (bill : ReceivableBill) : Bool :=
  (bill.billPeriodEnd.any (startDate ≤ ·) && bill.billPeriodStart.any (· ≤ endDate)) ||
    (bill.billPeriodEnd.isNone && bill.billPeriodStart.isNone &&
      (instantOf startDate ≤ bill.dueDate && bill.dueDate < instantOf (addDays endDate 1)))

def Db.findBills (db : Db) (vehicle : Vehicle) (startDate endDate : Int) : List ReceivableBill :=
  ((db.vehicleBills vehicle).filter (selectsBill startDate endDate)).insertionSort (·.dueDate ≤ ·.dueDate)

def eligibleBills (db : Db) (vehicle : Vehicle) (rule : RevenueShareRule) (startDate endDate : Int) :
    List ReceivableBill :=
  (db.findBills vehicle startDate endDate).filter fun bill =>
    (eligibleBillTypesForBasis rule.shareBasis).contains bill.billType &&
      billInDateRange bill startDate endDate

/-! ## The preview -/

structure Preview where
  billCount : Nat
  fixedCostAmount : Int
  ownerShareAmount : Int
  ownerShareVariableAmount : Option Int := none
  platformShareAmount : Int
  previewSupported : Bool
  shareBaseAmount : Int
  unsupportedReason : Option String
  warnings : List String
  deriving DecidableEq

def shareRuleWarnings (vehicle : Vehicle) : List String :=
  if SHARE_RULE_EXPECTED_ACQUISITION_MODES.contains vehicle.acquisitionMode then []
  else ["车辆取得方式不是 MANAGED_REVENUE_SHARE 或 LONG_TERM_LEASED，请确认分润/固定成本规则适用性。"]

def unsupportedShareBasisReason (shareBasis : RevenueShareBasis) : String :=
  if shareBasis = .grossReceivable then "GROSS_RECEIVABLE 分润口径暂未实现。"
  else "MANUAL 分润口径需人工结算，暂不支持自动 preview。"

def buildRevenueSharePreview (db : Db) (vehicle : Vehicle) (rule : RevenueShareRule)
    (startDate endDate : Int) : Preview :=
  let days := daysInclusive startDate endDate
  let warnings := shareRuleWarnings vehicle
  if !SUPPORTED_REVENUE_SHARE_BASIS.contains rule.shareBasis then
    { billCount := 0
      fixedCostAmount := calculateFixedCostAmount rule days
      ownerShareAmount := 0
      platformShareAmount := 0
      previewSupported := false
      shareBaseAmount := 0
      unsupportedReason := some (unsupportedShareBasisReason rule.shareBasis)
      warnings := warnings }
  else
    let eligibleBills := eligibleBills db vehicle rule startDate endDate
    let shareBaseAmount := sumBigInt (eligibleBills.map (·.paidAmount))
    let ownerShareVariableAmount := calculateBpsAmount shareBaseAmount (rule.ownerShareBps.getD 0)
    let fixedCostAmount := calculateFixedCostAmount rule days
    let ownerShareAmount := ownerShareVariableAmount + fixedCostAmount
    let platformShareAmount := shareBaseAmount - ownerShareVariableAmount - fixedCostAmount
    { billCount := eligibleBills.length
      fixedCostAmount := fixedCostAmount
      ownerShareAmount := ownerShareAmount
      ownerShareVariableAmount := some ownerShareVariableAmount
      platformShareAmount := platformShareAmount
      previewSupported := true
      shareBaseAmount := shareBaseAmount
      unsupportedReason := none
      warnings := if platformShareAmount < 0 then
          warnings ++ ["platformShareAmount < 0，请检查固定成本或分成规则。"]
        else warnings }

end SubscriptionSaas.RevenueRight
