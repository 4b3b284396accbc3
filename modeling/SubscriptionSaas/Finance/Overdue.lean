import SubscriptionSaas.Finance.Service
import SubscriptionSaas.Lib.Calendar
import SubscriptionSaas.Lib.Extension

/-!
# Marking bills overdue

`markBillOverdueForAutomation` and `refreshOverdueBills` of `finance.service.ts`, next to the money
operations. Both decide from what they read under the locks of the orders and the bills; the second
one finds its candidates without any lock and retries when a collection case cannot be numbered.

An overdue mark sets the status of a bill and nothing else, which no statement of the money
operations does: it is an additional statement on the same tables. The collection cases of the bills
live in tables of their own that no modelled statement reads; of saving one, only the failure matters
here, since it rolls the marks back.
-/

namespace SubscriptionSaas.Finance

open Transaction Calendar

/-- `UPDATE receivable_bill SET billStatus = 'OVERDUE'`. -/
inductive OverdueWrite
  | markOverdue (id : Id)

def ReceivableBill.overdue (bill : ReceivableBill) : ReceivableBill :=
  { bill with billStatus := .overdue }

def OverdueWrite.apply : OverdueWrite → Db → Db
  | .markOverdue id, db =>
    { db with bills := updateWhere (·.id == id) ReceivableBill.overdue db.bills }

/-- The subscription orders are locked as well. -/
inductive OverdueRow
  | order (id : Id)
  deriving DecidableEq

/-- Whether the number of a new collection case is taken. -/
inductive OverdueAsk
  | caseNoTaken
  deriving DecidableEq

/-- The finance database with the statements of the overdue marking. -/
abbrev overdueSig : Transaction.Sig := sig.extend
  { Write := OverdueWrite
    apply := OverdueWrite.apply
    Row := OverdueRow
    Ask := OverdueAsk
    Ans := fun _ => Bool }

/-- A program that may also mark bills overdue. -/
abbrev OverdueTx := Transaction.Prog overdueSig

/-! ## Days -/

def CHINA_TIME_OFFSET_MINUTES : Int := 8 * 60

def MS_PER_DAY : Int := 24 * 60 * 60 * 1000

/-- The day in China, as the instant at which that day begins in UTC. -/
def toBillingDateOnly (value : Instant) : Instant :=
  let shifted := dayOf (value + CHINA_TIME_OFFSET_MINUTES * 60 * 1000)
  instantOf (dateUTC (getUTCFullYear shifted) (getUTCMonth shifted) (getUTCDate shifted))

def calculateOverdueDays (dueDate asOfDate : Instant) : Int :=
  max 0 ((toBillingDateOnly asOfDate - toBillingDateOnly dueDate) / MS_PER_DAY)

/-! ## Locks -/

def lockSubscriptionOrders (orderIds : List Id) : OverdueTx Unit :=
  lockRows (S := overdueSig)
    ((orderIds.dedup.insertionSort (· ≤ ·)).map fun id => .inr (.order id))

/-- The locks of `lockReceivableBills`. -/
def lockOverdueBills (billIds : List Id) : OverdueTx Unit :=
  lockRows (S := overdueSig) ((billIds.dedup.insertionSort (· ≤ ·)).map fun id => .inl (.bill id))

/-- The collection case of an order is created or updated. -/
def saveCollectionCase : OverdueTx Unit := do
  let taken ← ask (S := overdueSig) (.inr .caseNoTaken)
  ensure (S := overdueSig) (!taken) .primaryKeyTaken

/-! ## markBillOverdueForAutomation -/

inductive OverdueAction
  | skippedSettled | skippedNotDue | alreadyOverdue | markedOverdue
  deriving DecidableEq

/-- The live bill with this id. -/
def Db.liveBill? (db : Db) (billId : Id) : Option ReceivableBill :=
  (db.bill? billId).filter (·.deletedAt.isNone)

/-- A bill that is settled or has been called off. -/
def settled (bill : ReceivableBill) : Bool :=
  bill.billStatus == .cancelled || bill.billStatus == .paid || bill.remainingAmount == 0

/-- The bill, read under its lock, is marked when it is due since five days. -/
def markLockedBill (bill : ReceivableBill) (asOfDate : Instant) :
    OverdueTx (OverdueAction × ReceivableBill) :=
  if settled bill then pure (.skippedSettled, bill)
  else if calculateOverdueDays bill.dueDate asOfDate < 5 then pure (.skippedNotDue, bill)
  else if bill.billStatus = .overdue then do
    saveCollectionCase
    pure (.alreadyOverdue, bill)
  else do
    exec (S := overdueSig) (.inr (.markOverdue bill.id))
    saveCollectionCase
    pure (.markedOverdue, bill.overdue)

/-- The first reading only finds the order that has to be locked. -/
def markBillOverdueForAutomation (billId : Id) (asOfDate : Instant) :
    OverdueTx (OverdueAction × ReceivableBill) := do
  match ← select (S := overdueSig) .bills (fun db => db.liveBill? billId) with
  | none => fail (S := overdueSig) .billNotFound
  | some locator => do
    lockSubscriptionOrders [locator.orderId]
    lockOverdueBills [billId]
    match ← select (S := overdueSig) .bills (fun db => db.liveBill? billId) with
    | none => fail (S := overdueSig) .billNotFound
    | some bill => markLockedBill bill asOfDate

/-! ## refreshOverdueBills -/

def OVERDUE_BILL_STATUSES : List BillStatus := [.pending, .partiallyPaid, .overdue]

/-- The filter of the bills that a refresh marks. -/
def refreshable (asOfDate : Instant) (bill : ReceivableBill) : Bool :=
  OVERDUE_BILL_STATUSES.contains bill.billStatus && bill.deletedAt.isNone &&
    bill.dueDate < asOfDate && 0 < bill.remainingAmount

/-- The order of the bills a refresh reports. -/
def byDueDate (a b : ReceivableBill) : Prop :=
  a.dueDate < b.dueDate ∨ (a.dueDate = b.dueDate ∧ a.createdAt ≤ b.createdAt)

instance : DecidableRel byDueDate := fun a b =>
  inferInstanceAs (Decidable (a.dueDate < b.dueDate ∨
    (a.dueDate = b.dueDate ∧ a.createdAt ≤ b.createdAt)))

/-- The candidates, read without a lock. -/
def findRefreshableOverdueBills (asOfDate : Instant) (user : RequestUser) :
    OverdueTx (List ReceivableBill) :=
  select (S := overdueSig) .bills fun db =>
    ((db.bills.filter fun bill => refreshable asOfDate bill &&
      (canViewAllFinanceOrders user ||
        (db.order? bill.orderId).any (·.salesUserId == user.id))).insertionSort byDueDate).filter
      fun bill => 0 < calculateOverdueDays bill.dueDate asOfDate

/-- The candidates that can still be marked, read by primary key under their locks. -/
def findLockedBills (asOfDate : Instant) (billIds : List Id) : OverdueTx (List ReceivableBill) :=
  select (S := overdueSig) .bills fun db =>
    billIds.dedup.filterMap fun id => (db.bill? id).filter (refreshable asOfDate)

/-- Marks the bills that are not overdue yet. -/
def markLockedBills : List ReceivableBill → OverdueTx Unit
  | [] => pure ()
  | bill :: bills => do
    if bill.billStatus = .overdue then pure ()
    else exec (S := overdueSig) (.inr (.markOverdue bill.id))
    markLockedBills bills

/-- One collection case for each order. -/
def saveCollectionCases : List Id → OverdueTx Unit
  | [] => pure ()
  | _ :: orderIds => do
    saveCollectionCase
    saveCollectionCases orderIds

/-- The transaction of a refresh. -/
def refreshLockedBills (asOfDate : Instant) (overdueBills : List ReceivableBill) :
    OverdueTx Unit := do
  lockSubscriptionOrders (overdueBills.map (·.orderId))
  lockOverdueBills (overdueBills.map (·.id))
  let lockedBills ← findLockedBills asOfDate (overdueBills.map (·.id))
  markLockedBills lockedBills
  saveCollectionCases (lockedBills.map (·.orderId)).dedup
  commitTx (S := overdueSig)

def BUSINESS_NO_RETRY_LIMIT : Nat := 3

/-- Another attempt as long as a unique constraint refuses the last one and attempts are left. -/
def withUniqueBusinessNoRetry (operation : OverdueTx Unit) : Nat → OverdueTx Unit
  | 0 => fail (S := overdueSig) .primaryKeyTaken
  | attempts + 1 => operation.catchErr fun error =>
    if error = .primaryKeyTaken ∧ attempts ≠ 0 then withUniqueBusinessNoRetry operation attempts
    else fail (S := overdueSig) error

structure RefreshOverdueResult where
  dryRun : Bool
  /-- The candidates with their days overdue. -/
  items : List (Id × Int)
  overdueBillCount : Nat

def refreshOverdueBills (asOfDate : Instant) (dryRun : Bool) (user : RequestUser) :
    OverdueTx RefreshOverdueResult := do
  let overdueBills ← findRefreshableOverdueBills asOfDate user
  if dryRun then pure ()
  else withUniqueBusinessNoRetry (refreshLockedBills asOfDate overdueBills) BUSINESS_NO_RETRY_LIMIT
  pure
    { dryRun := dryRun
      items := overdueBills.map fun bill => (bill.id, calculateOverdueDays bill.dueDate asOfDate)
      overdueBillCount := overdueBills.length }

/-! ## The operations as calls -/

inductive OverdueCall
  | ledger (call : LedgerCall)
  | markBillOverdueForAutomation (billId : Id) (asOfDate : Instant)
  | refreshOverdueBills (asOfDate : Instant) (dryRun : Bool) (user : RequestUser)

/-- The automation commits its mark together with the jobs that follow from it. -/
def overdueBody : OverdueCall → OverdueTx Unit
  | .ledger call => (ledgerBody call).lift
  | .markBillOverdueForAutomation billId asOfDate => do
    let _ ← markBillOverdueForAutomation billId asOfDate
    commitTx (S := overdueSig)
  | .refreshOverdueBills asOfDate dryRun user => do
    let _ ← refreshOverdueBills asOfDate dryRun user

end SubscriptionSaas.Finance
