import SubscriptionSaas.AssetAccounting.VehicleCosts
import SubscriptionSaas.Closure.Coherence
import Mathlib.Data.Prod.Lex

/-!
# The settlement of a closing order

The settlement resolver reads the facts of an order and derives from them what the customer still owes and
whether every obligation is met. The frozen snapshots, their hashes and the locks of the result are
functions of the rows in the order in which they are read, which the result keeps instead.
-/

namespace SubscriptionSaas.Closure

open SubscriptionSaas.AssetAccounting SubscriptionSaas.Finance

/-- `SUBSCRIPTION_CLOSURE_SETTLEMENT_ERROR_CODE`. -/
inductive SettlementConflict
  | authorityNotFound | factInconsistent
  deriving DecidableEq

inductive DepositStatus
  | pendingConfirm | confirmed | waived | rejected
  deriving DecidableEq

/-! ## Rows -/

/-- `subscription_closure_case`, as the resolver selects it. -/
structure SettlementCase where
  id : Id
  orderId : Id
  contractId : Id
  customerId : Id
  vehicleId : Id
  deriving DecidableEq

/-- `subscription_order`, as the resolver selects it. -/
structure SettlementOrder where
  id : Id
  contractId : Option Id
  customerId : Id
  vehicleId : Option Id
  depositAmount : Int
  depositStatus : DepositStatus
  finalDepositAmount : Option Int
  deletedAt : Option Instant
  deriving DecidableEq

/-- `vehicle_cost_ledger_entry`. -/
structure VehicleCostLedgerEntry where
  id : Id
  actionType : VehicleCostActionType
  amountCents : Int
  contractId : Option Id
  createdAt : Instant
  customerId : Option Id
  orderId : Option Id
  responsiblePartyId : Option Id
  responsiblePartyType : VehicleCostResponsiblePartyType
  vehicleId : Id
  deriving DecidableEq

/-- `vehicle_return_damage`. -/
structure VehicleReturnDamage where
  id : Id
  createdAt : Instant
  deletedAt : Option Instant
  orderId : Id
  deriving DecidableEq

inductive VehicleMileageReadingStatus
  | active | voided
  deriving DecidableEq

/-- `vehicle_mileage_reading`. -/
structure VehicleMileageReading where
  id : Id
  orderId : Id
  recordedAt : Instant
  status : VehicleMileageReadingStatus
  deriving DecidableEq

/-- The tables that the resolver reads. A write-off stands with its id. -/
structure SettlementDb where
  cases : List SettlementCase
  orders : List SettlementOrder
  ledger : List VehicleCostLedgerEntry
  damages : List VehicleReturnDamage
  mileageReadings : List VehicleMileageReading
  bills : List ReceivableBill
  payments : List PaymentRecord
  paymentAllocations : List (Id × PaymentWriteOff)
  deposits : List DepositLedger
  deriving DecidableEq

/-! ## Reading -/

/-- The rows as they are read. -/
structure SettlementInputs where
  ledger : List VehicleCostLedgerEntry
  damages : List VehicleReturnDamage
  mileageReadings : List VehicleMileageReading
  bills : List ReceivableBill
  payments : List PaymentRecord
  paymentAllocations : List (Id × PaymentWriteOff)
  deposits : List DepositLedger
  deriving DecidableEq

/-- `orderBy: [{ time: "asc" }, { id: "asc" }]`. -/
abbrev timeAndId {α : Type} (time : α → Instant) (id : α → Id) (row : α) : Int ×ₗ Id :=
  toLex (time row, id row)

/-- `findMany` of the rows with the property, in the order of their time and their id. -/
def findManyBy {α : Type} (time : α → Instant) (id : α → Id) (p : α → Bool) (rows : List α) :
    List α :=
  (rows.filter p).insertionSort fun a b => timeAndId time id a ≤ timeAndId time id b

/-- `orderBy: [{ occurredAt: "asc" }, { createdAt: "asc" }, { id: "asc" }]`. -/
abbrev occurrence (row : DepositLedger) : Int ×ₗ Int ×ₗ Id :=
  toLex (row.occurredAt, toLex (row.createdAt, row.id))

def readInputs (db : SettlementDb) (orderId : Id) : SettlementInputs :=
  { ledger := findManyBy (·.createdAt) (·.id) (·.orderId == some orderId) db.ledger
    damages := findManyBy (·.createdAt) (·.id)
      (fun damage => damage.deletedAt.isNone && damage.orderId == orderId) db.damages
    mileageReadings := findManyBy (·.recordedAt) (·.id)
      (fun reading => reading.orderId == orderId && reading.status == .active) db.mileageReadings
    bills := findManyBy (·.createdAt) (·.id)
      (fun bill => bill.billStatus != .cancelled && bill.deletedAt.isNone && bill.orderId == orderId)
      db.bills
    payments := findManyBy (·.receivedAt) (·.id)
      (fun payment => payment.deletedAt.isNone && payment.orderId == orderId &&
        payment.paymentStatus == .confirmed) db.payments
    paymentAllocations := findManyBy (·.2.writeOffAt) (·.1)
      (fun allocation => allocation.2.deletedAt.isNone && allocation.2.orderId == orderId)
      db.paymentAllocations
    deposits := (db.deposits.filter fun deposit => deposit.deletedAt.isNone &&
      deposit.orderId == orderId && deposit.transactionStatus == .confirmed).insertionSort
      fun a b => occurrence a ≤ occurrence b }

/-! ## Resolution -/

/-- `ledgerTotal`. -/
def ledgerTotal (entries : List VehicleCostLedgerEntry) (actionType : VehicleCostActionType)
    (predicate : VehicleCostLedgerEntry → Bool) : Int :=
  ((entries.filter fun entry => entry.actionType == actionType && predicate entry).map
    (·.amountCents)).sum

def nonnegative (value : Int) : Int := if value < 0 then 0 else value

/-- An entry that resolves an obligation of the customer. -/
def customerResolution (closureCase : SettlementCase) (entry : VehicleCostLedgerEntry) : Bool :=
  entry.responsiblePartyType == .customer &&
    entry.responsiblePartyId == some closureCase.customerId &&
    entry.customerId == some closureCase.customerId &&
    entry.orderId == some closureCase.orderId &&
    entry.contractId == some closureCase.contractId &&
    entry.vehicleId == closureCase.vehicleId

/-- The amounts of the deposit rows of a type. -/
def depositTotal (deposits : List DepositLedger) (transactionType : DepositTransactionType) : Int :=
  ((deposits.filter (·.transactionType == transactionType)).map (·.amount)).sum

/-- `depositFinal`. -/
def isDepositFinal (order : SettlementOrder) (deposits : List DepositLedger) : Bool :=
  let effectiveDeposit := order.finalDepositAmount.getD order.depositAmount
  order.depositStatus == .waived || order.depositStatus == .rejected || effectiveDeposit == 0 ||
    deposits.getLast?.any (·.balanceAfter == 0)

structure ResolvedSubscriptionClosureSettlement where
  amountDueCents : Int
  amountRefundableCents : Int
  closureCase : SettlementCase
  costTotalCents : Int
  depositAppliedCents : Int
  depositFinal : Bool
  depositRefundCents : Int
  inputs : SettlementInputs
  obligationsResolved : Bool
  paidTotalCents : Int
  receivableTotalCents : Int
  waiverTotalCents : Int
  writeOffTotalCents : Int
  deriving DecidableEq

namespace SettlementInputs

variable (inputs : SettlementInputs)

/-- What `assertFinancialCoherence` is given. -/
def facts (closureCase : SettlementCase) : SettlementFacts :=
  { orderId := closureCase.orderId
    customerId := closureCase.customerId
    bills := inputs.bills
    payments := inputs.payments
    allocations := inputs.paymentAllocations.map (·.2)
    deposits := inputs.deposits }

def waiverTotalCents (closureCase : SettlementCase) : Int :=
  ledgerTotal inputs.ledger .waiver (customerResolution closureCase)

def writeOffTotalCents (closureCase : SettlementCase) : Int :=
  ledgerTotal inputs.ledger .writeOff (customerResolution closureCase)

def remainingTotalCents : Int := (inputs.bills.map (·.remainingAmount)).sum

end SettlementInputs

/-- The part of `resolveInTransaction` after the reads. -/
def settle (closureCase : SettlementCase) (order : SettlementOrder) (inputs : SettlementInputs) :
    Except SettlementConflict ResolvedSubscriptionClosureSettlement :=
  match (inputs.facts closureCase).assertFinancialCoherence with
  | .error .factInconsistent => .error .factInconsistent
  | .ok paidTotalCents =>
    let costTotalCents := ledgerTotal inputs.ledger .actualCost fun _ => true
    let waiverTotalCents := inputs.waiverTotalCents closureCase
    let writeOffTotalCents := inputs.writeOffTotalCents closureCase
    let receivableTotalCents := (inputs.bills.map (·.amount)).sum
    let remainingTotalCents := inputs.remainingTotalCents
    let depositAppliedCents := depositTotal inputs.deposits .deduct
    let depositRefundCents := depositTotal inputs.deposits .refund
    if [costTotalCents, waiverTotalCents, writeOffTotalCents, receivableTotalCents, paidTotalCents,
        remainingTotalCents, depositAppliedCents, depositRefundCents].any (· < 0) then
      .error .factInconsistent
    else if waiverTotalCents + writeOffTotalCents > remainingTotalCents then
      .error .factInconsistent
    else
      let amountDueCents := nonnegative (remainingTotalCents - waiverTotalCents - writeOffTotalCents)
      let depositFinal := isDepositFinal order inputs.deposits
      .ok
        { amountDueCents := amountDueCents
          amountRefundableCents := depositRefundCents
          closureCase := closureCase
          costTotalCents := costTotalCents
          depositAppliedCents := depositAppliedCents
          depositFinal := depositFinal
          depositRefundCents := depositRefundCents
          inputs := inputs
          obligationsResolved := amountDueCents == 0 && depositFinal
          paidTotalCents := paidTotalCents
          receivableTotalCents := receivableTotalCents
          waiverTotalCents := waiverTotalCents
          writeOffTotalCents := writeOffTotalCents }

/-- The order belongs to the case. -/
def orderMatches (closureCase : SettlementCase) (order : SettlementOrder) : Bool :=
  order.deletedAt.isNone && order.contractId == some closureCase.contractId &&
    order.customerId == closureCase.customerId && order.vehicleId == some closureCase.vehicleId

def resolveInTransaction (db : SettlementDb) (closureCaseId : Id) :
    Except SettlementConflict ResolvedSubscriptionClosureSettlement :=
  match db.cases.find? (·.id == closureCaseId) with
  | none => .error .authorityNotFound
  | some closureCase =>
    match (db.orders.find? (·.id == closureCase.orderId)).filter (orderMatches closureCase) with
    | none => .error .factInconsistent
    | some order => settle closureCase order (readInputs db closureCase.orderId)

end SubscriptionSaas.Closure
