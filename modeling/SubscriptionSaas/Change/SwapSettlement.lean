import SubscriptionSaas.Change.Rows
import SubscriptionSaas.Finance.Db
import SubscriptionSaas.Lib.Runs

/-!
# The settlement of vehicle swaps

The coordination of a swap, which bills the differences to the deposit and the monthly fee, and its
activation, which waits for the bills and switches the order's segment and vehicle. The tables are those
of one order, and a row is named by its place in its table. What the assets of a swap lack (the
readiness of its work orders, restrictions, availability, the open subscription period) is an argument
of the activation.
-/

namespace SubscriptionSaas.Change.SwapSettlement

open Billing Contract Results
open Finance (BillType BillStatus)

/-! ## Rows -/

structure SwapOrder where
  customerId : Id
  vehicleId : Id
  deleted : Bool
  finalDepositAmount : Option Int
  depositAmount : Int
  deriving DecidableEq

structure SwapQuote where
  status : QuoteStatus
  depositAmount : Int
  monthlyFeeAmount : Int
  deriving DecidableEq

structure SwapContract where
  status : ContractStatus
  fileId : Option Id
  deriving DecidableEq

/-- `subscription_change_order` with its swap detail; the work orders are the inbound and the outbound
one. -/
structure SwapChange where
  status : ChangeStatus
  contract : Option SwapContract
  confirmedQuote : Option SwapQuote
  sourceSegmentId : Option Id
  sourceVehicleId : Id
  targetVehicleId : Id
  plannedSwapAt : Int
  workOrders : Option (Id × Id)
  actualSwapAt : Option Int
  deriving DecidableEq

structure SwapSegment where
  sequenceNo : Int
  status : SegmentStatus
  startDate : Int
  endDate : Int
  monthlyFeeAmount : Int
  sourceChangeOrderId : Option Id
  deriving DecidableEq

/-- `vehicle-swap:<change>:deposit-difference` and `vehicle-swap:<change>:first-cycle-price-difference`. -/
inductive SourceKey
  | depositDifference (changeId : Id)
  | firstCyclePriceDifference (changeId : Id)
  deriving DecidableEq

/-- `receivable_bill`; the source key is unique. -/
structure SettlementBill where
  sourceKey : SourceKey
  billType : BillType
  billStatus : BillStatus
  customerId : Id
  dueDate : Int
  amount : Int
  paidAmount : Int
  remainingAmount : Int
  deriving DecidableEq

structure Db where
  order : SwapOrder
  changes : List SwapChange
  segments : List SwapSegment
  vehicles : List VehicleStatus
  bills : List SettlementBill
  deriving DecidableEq

/-! ## The differences -/

def currentDeposit (order : SwapOrder) : Int := order.finalDepositAmount.getD order.depositAmount

def quotedDeposit (change : SwapChange) : Int := (change.confirmedQuote.map (·.depositAmount)).getD 0

def positiveDepositDelta (order : SwapOrder) (change : SwapChange) : Int :=
  let delta := quotedDeposit change - currentDeposit order
  if 0 < delta then delta else 0

def positiveMonthlyFeeDelta (db : Db) (change : SwapChange) : Int :=
  let delta := (change.confirmedQuote.map (·.monthlyFeeAmount)).getD 0 -
    ((change.sourceSegmentId.bind (db.segments[·]?)).map (·.monthlyFeeAmount)).getD 0
  if 0 < delta then delta else 0

/-! ## The coordination -/

def ensureSettlementBill (db : Db) (change : SwapChange) (amount : Int) (billType : BillType)
    (label : String) (sourceKey : SourceKey) : Except ChangeError Db :=
  match db.bills.find? (·.sourceKey == sourceKey) with
  | some existing => do
    require (existing.customerId == db.order.customerId && existing.amount == amount)
      ⟨"VEHICLE_SWAP_SETTLEMENT_BILL_CONFLICT",
        "The vehicle-swap " ++ label ++ " bill conflicts with the confirmed quote."⟩
    .ok db
  | none => .ok { db with bills := db.bills ++ [{
      sourceKey := sourceKey
      billType := billType
      billStatus := .pending
      customerId := db.order.customerId
      dueDate := change.plannedSwapAt
      amount := amount
      paidAmount := 0
      remainingAmount := amount }] }

/-- The bill of a difference, if there is one. -/
def ensureDifference (db : Db) (change : SwapChange) (amount : Int) (billType : BillType)
    (label : String) (sourceKey : SourceKey) : Except ChangeError Db :=
  if 0 < amount then ensureSettlementBill db change amount billType label sourceKey else .ok db

def ensureSettlementBills (db : Db) (changeId : Id) (change : SwapChange) : Except ChangeError Db := do
  let db ← ensureDifference db change (positiveDepositDelta db.order change) .deposit
    "deposit difference" (.depositDifference changeId)
  ensureDifference db change (positiveMonthlyFeeDelta db change) .other
    "first-cycle price difference" (.firstCyclePriceDifference changeId)

def archivedWithFile (contract : SwapContract) : Bool :=
  contract.status == .archived && contract.fileId.isSome

def assertCoordinatable (db : Db) (change : SwapChange) : Except ChangeError Unit :=
  require (change.status == .scheduled && change.contract.any archivedWithFile &&
      change.confirmedQuote.any (·.status == .customerConfirmed) &&
      (change.sourceSegmentId.bind (db.segments[·]?)).isSome &&
      db.order.vehicleId == change.sourceVehicleId &&
      db.vehicles[change.targetVehicleId]? == some .reviewReserved)
    ⟨"VEHICLE_SWAP_COORDINATION_STATE_INVALID",
      "The vehicle-swap work orders cannot be coordinated from the current state."⟩

def changeNotFound : ChangeError :=
  ⟨"VEHICLE_SWAP_CHANGE_NOT_FOUND", "The vehicle-swap change was not found."⟩

/-- `workOrders` are those that the asset operations create. -/
def coordinate (db : Db) (changeId : Id) (workOrders : Id × Id) : Except ChangeError Db := do
  let some change := db.changes[changeId]? | .error changeNotFound
  if (change.status = .executing ∨ change.status = .completed) ∧ change.workOrders.isSome then .ok db
  else do
    assertCoordinatable db change
    let db ← ensureSettlementBills db changeId change
    .ok { db with changes := db.changes.modify changeId fun change =>
      { change with workOrders := some workOrders, status := .executing } }

/-! ## The activation -/

/-- A difference is settled when there is none, or its bill has its amount and is paid. -/
def settled (db : Db) (amount : Int) (sourceKey : SourceKey) : Bool :=
  amount ≤ 0 || (db.bills.find? (·.sourceKey == sourceKey)).any fun bill =>
    bill.amount == amount && bill.billStatus == .paid && bill.remainingAmount == 0

def blocker (ok : Bool) (code : String) : List String := if ok then [] else [code]

def activationBlockers (db : Db) (changeId : Id) (change : SwapChange) (now : Int)
    (assetBlockers : List String) : List String :=
  (blocker (change.contract.any archivedWithFile) "SIGNED_SUPPLEMENT_NOT_ARCHIVED" ++
    blocker (change.confirmedQuote.any (·.status == .customerConfirmed)) "CONFIRMED_QUOTE_MISSING" ++
    blocker ((change.sourceSegmentId.bind (db.segments[·]?)).any (·.status == .active))
      "SOURCE_SEGMENT_NOT_ACTIVE" ++
    blocker (db.order.vehicleId == change.sourceVehicleId) "ORDER_SOURCE_VEHICLE_MISMATCH" ++
    blocker (db.vehicles[change.targetVehicleId]? == some .reviewReserved)
      "TARGET_RESERVATION_INVALID" ++
    blocker (change.plannedSwapAt ≤ now) "PLANNED_SWAP_TIME_NOT_REACHED" ++
    assetBlockers ++
    blocker (settled db (positiveDepositDelta db.order change) (.depositDifference changeId))
      "DEPOSIT_DIFFERENCE_NOT_SETTLED" ++
    blocker (settled db (positiveMonthlyFeeDelta db change) (.firstCyclePriceDifference changeId))
      "PRICE_DIFFERENCE_NOT_SETTLED").dedup

inductive Progress
  | waiting (blockers : List String)
  | completed
  deriving DecidableEq

def conflict (code : String) : ChangeError :=
  ⟨code, "The vehicle-swap activation state changed concurrently."⟩

/-- The rest of the source segment, with the fee of the confirmed quote. -/
def swapSegment (changeId : Id) (source : SwapSegment) (quote : SwapQuote) (effectiveDate : Int) :
    SwapSegment where
  sequenceNo := source.sequenceNo + 1
  status := .active
  startDate := effectiveDate
  endDate := source.endDate
  monthlyFeeAmount := quote.monthlyFeeAmount
  sourceChangeOrderId := some changeId

def switchVehicles (db : Db) (change : SwapChange) : Except ChangeError Db := do
  require (!db.order.deleted && db.order.vehicleId == change.sourceVehicleId)
    (conflict "ORDER_VEHICLE_SWITCH_CONFLICT")
  require ([some .leased, some .rented].contains db.vehicles[change.sourceVehicleId]?)
    (conflict "SOURCE_VEHICLE_STATUS_CONFLICT")
  let vehicles := db.vehicles.set change.sourceVehicleId .returned
  require (vehicles[change.targetVehicleId]? == some .reviewReserved)
    (conflict "TARGET_VEHICLE_STATUS_CONFLICT")
  .ok { db with
    order := { db.order with vehicleId := change.targetVehicleId }
    vehicles := vehicles.set change.targetVehicleId .leased }

def activateIfReady (db : Db) (changeId : Id) (now : Int) (assetBlockers : List String) :
    Except ChangeError (Progress × Db) := do
  let some change := db.changes[changeId]? | .error changeNotFound
  if change.status = .completed then .ok (.completed, db)
  else if change.status ≠ .executing then .ok (.waiting ["CHANGE_NOT_EXECUTING"], db)
  else
    let blockers := activationBlockers db changeId change now assetBlockers
    if blockers ≠ [] then .ok (.waiting blockers, db)
    else
      match change.sourceSegmentId.bind (fun place => (db.segments[place]?).map (place, ·)),
        change.confirmedQuote with
      | some (place, source), some quote => do
        let effectiveDate := toBillingBusinessDate now
        if effectiveDate ≤ source.startDate ∨ source.endDate < effectiveDate then
          .ok (.waiting ["SOURCE_SEGMENT_DOES_NOT_COVER_SWAP_DATE"], db)
        else do
          let ended (segment : SwapSegment) : SwapSegment :=
            { segment with endDate := effectiveDate - 1, status := .completed }
          let db := { db with segments := db.segments.modify place ended ++
            [swapSegment changeId source quote effectiveDate] }
          let db ← switchVehicles db change
          .ok (.completed, { db with changes := db.changes.modify changeId fun change =>
            { change with actualSwapAt := some now, status := .completed } })
      | _, _ => .ok (.waiting blockers, db)

/-! ## Runs -/

/-- A swap is scheduled when no change of the order is live, is coordinated and activated, or is given
up; its bills are paid, and other services move vehicles. -/
inductive Event
  | schedule (change : SwapChange)
  | coordinate (changeId : Id) (workOrders : Id × Id)
  | activate (changeId : Id) (now : Int) (assetBlockers : List String)
  | giveUp (changeId : Id) (status : ChangeStatus)
  | pay (place : Nat)
  | moveVehicle (vehicleId : Id) (status : VehicleStatus)

def scheduledSwap (change : SwapChange) : SwapChange :=
  { change with status := .scheduled, workOrders := none, actualSwapAt := none }

def payBill (bill : SettlementBill) : SettlementBill :=
  { bill with billStatus := .paid, paidAmount := bill.amount, remainingAmount := 0 }

def step (db : Db) : Event → Db
  | .schedule change =>
    if db.changes.any (·.status.live) then db
    else { db with changes := db.changes ++ [scheduledSwap change] }
  | .coordinate changeId workOrders =>
    match SwapSettlement.coordinate db changeId workOrders with
    | .ok db' => db'
    | .error _ => db
  | .activate changeId now assetBlockers =>
    match activateIfReady db changeId now assetBlockers with
    | .ok (_, db') => db'
    | .error _ => db
  | .giveUp changeId status =>
    if [.manualTakeover, .cancelled, .failed].contains status then
      { db with changes := db.changes.modify changeId fun change => { change with status := status } }
    else db
  | .pay place => { db with bills := db.bills.modify place payBill }
  | .moveVehicle vehicleId status => { db with vehicles := db.vehicles.set vehicleId status }

/-! ## What is billed and what is required -/

/-- An order with its vehicles and segments, before any swap. -/
def initial (order : SwapOrder) (segments : List SwapSegment) (vehicles : List VehicleStatus) : Db :=
  ⟨order, [], segments, vehicles, []⟩

def isDepositDifference (bill : SettlementBill) : Bool :=
  match bill.sourceKey with
  | .depositDifference _ => true
  | .firstCyclePriceDifference _ => false

/-- The sum of the deposit-difference bills. -/
def Db.billedDeposit (db : Db) : Int := ((db.bills.filter isDepositDifference).map (·.amount)).sum

/-- The swaps that were coordinated, one after the other, with their places. -/
def Db.coordinated (db : Db) : List (SwapChange × Nat) :=
  db.changes.zipIdx.filter (·.1.workOrders.isSome)

def Db.requiredDeposits (db : Db) : List Int := db.coordinated.map (quotedDeposit ·.1)

/-- What is billed of a change's difference to the deposit. -/
def Db.billedFor (db : Db) (changeId : Id) : Int :=
  ((db.bills.find? (·.sourceKey == .depositDifference changeId)).map (·.amount)).getD 0

/-- The highest deposit required so far. -/
def highest (start : Int) (required : List Int) : Int := required.foldr max start

/-- The differences bill just the rise of the highest deposit, a swap that asks for the same as the one
before bills none, and what the activation of a swap demands is what was billed. -/
structure Telescopes (start : Int) (db : Db) : Prop where
  rise : db.billedDeposit = highest start db.requiredDeposits - start
  same : ∀ k earlier later, db.coordinated[k]? = some earlier → db.coordinated[k + 1]? = some later →
    quotedDeposit earlier.1 = quotedDeposit later.1 →
    ∀ bill ∈ db.bills, bill.sourceKey ≠ .depositDifference later.2
  demanded : ∀ row ∈ db.coordinated, positiveDepositDelta db.order row.1 = db.billedFor row.2

end SubscriptionSaas.Change.SwapSettlement
