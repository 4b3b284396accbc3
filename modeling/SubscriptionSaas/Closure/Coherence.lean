import SubscriptionSaas.Finance.Service

/-!
# Financial coherence of a closing order

The settlement resolver of the closure subsystem reads an order's bills, payments, write-offs and
deposit rows and refuses to go on when they do not agree. Its reading of the facts is independent of
the finance service that wrote them: it orders deposit rows by the time they occurred.
-/

namespace SubscriptionSaas.Closure

open SubscriptionSaas.Finance

inductive SettlementErr
  | factInconsistent
  deriving DecidableEq

/-- `Map<string, bigint>` with `map.get(id) ?? 0n`. -/
abbrev AmountById := Id → Int

def AmountById.add (m : AmountById) (id : Id) (amount : Int) : AmountById :=
  fun i => if i = id then m i + amount else m i

/-- The running sums over allocations and deposit rows. -/
structure Reconciliation where
  allocatedByBill : AmountById
  allocatedByPayment : AmountById
  deductedByBill : AmountById
  depositBalance : Int

def Reconciliation.empty : Reconciliation := ⟨fun _ => 0, fun _ => 0, fun _ => 0, 0⟩

/-- The facts the resolver has read of one order. -/
structure SettlementFacts where
  orderId : Id
  customerId : Id
  bills : List ReceivableBill
  payments : List PaymentRecord
  allocations : List PaymentWriteOff
  deposits : List DepositLedger

namespace SettlementFacts

variable (facts : SettlementFacts)

def billById (id : Id) : Option ReceivableBill := facts.bills.find? (·.id == id)
def paymentById (id : Id) : Option PaymentRecord := facts.payments.find? (·.id == id)

def billOk (bill : ReceivableBill) : Bool :=
  bill.customerId == facts.customerId && 0 ≤ bill.amount && 0 ≤ bill.paidAmount &&
    0 ≤ bill.remainingAmount && bill.paidAmount + bill.remainingAmount == bill.amount

def paymentOk (payment : PaymentRecord) : Bool :=
  payment.customerId == facts.customerId && 0 < payment.paymentAmount

def depositOk (deposit : DepositLedger) : Bool :=
  deposit.customerId == facts.customerId && deposit.orderId == facts.orderId && 0 < deposit.amount

/-- One write-off added to the sums. -/
def allocate (r : Reconciliation) (allocation : PaymentWriteOff) :
    Except SettlementErr Reconciliation :=
  if allocation.customerId ≠ facts.customerId ∨ allocation.writeOffAmount ≤ 0 ∨
      (facts.billById allocation.billId).isNone ∨
      (facts.paymentById allocation.paymentId).isNone then
    .error .factInconsistent
  else
    .ok { r with
      allocatedByBill := r.allocatedByBill.add allocation.billId allocation.writeOffAmount
      allocatedByPayment := r.allocatedByPayment.add allocation.paymentId allocation.writeOffAmount }

/-- `signedAmount`. -/
def signedAmount (deposit : DepositLedger) : Int :=
  match deposit.transactionType with
  | .collect => deposit.amount
  | .deduct | .refund | .release => -deposit.amount
  | .freeze => 0

/-- The bill a deduction names can have been paid by it. -/
def deductionOk (deposit : DepositLedger) (bill : ReceivableBill) : Bool :=
  bill.orderId == facts.orderId && bill.customerId == facts.customerId &&
    bill.billType == .damageFee && bill.billStatus != .cancelled && deposit.paymentId.isNone

/-- One deposit row added to the sums. -/
def deposit (r : Reconciliation) (deposit : DepositLedger) : Except SettlementErr Reconciliation :=
  let depositBalance := r.depositBalance + signedAmount deposit
  if depositBalance < 0 ∨ deposit.balanceAfter ≠ depositBalance then .error .factInconsistent
  else if deposit.transactionType ≠ .deduct then .ok { r with depositBalance := depositBalance }
  else
    match deposit.billId.bind facts.billById with
    | none => .error .factInconsistent
    | some bill =>
      if facts.deductionOk deposit bill then
        .ok { r with
          depositBalance := depositBalance
          deductedByBill := r.deductedByBill.add bill.id deposit.amount }
      else .error .factInconsistent

/-- The sums `assertFinancialCoherence` derives for bills and payments. -/
def reconcile : Except SettlementErr Reconciliation := do
  if facts.bills.all facts.billOk && facts.payments.all facts.paymentOk &&
      facts.deposits.all facts.depositOk then
    let r ← facts.allocations.foldlM facts.allocate .empty
    facts.deposits.foldlM facts.deposit r
  else throw .factInconsistent

/-- `assertFinancialCoherence`; returns `paidTotalCents`. -/
def assertFinancialCoherence : Except SettlementErr Int := do
  let r ← facts.reconcile
  if facts.bills.all (fun bill =>
        r.allocatedByBill bill.id + r.deductedByBill bill.id == bill.paidAmount) &&
      facts.payments.all (fun payment =>
        r.allocatedByPayment payment.id ≤ payment.paymentAmount) then
    pure (facts.bills.map (·.paidAmount)).sum
  else throw .factInconsistent

end SettlementFacts

/-! ## What the resolver reads -/

/-- `orderBy: [{ occurredAt: "asc" }, { createdAt: "asc" }, { id: "asc" }]`. -/
def depositLE (a b : DepositLedger) : Prop :=
  a.occurredAt < b.occurredAt ∨ a.occurredAt = b.occurredAt ∧
    (a.createdAt < b.createdAt ∨ a.createdAt = b.createdAt ∧ a.id ≤ b.id)

instance (a b : DepositLedger) : Decidable (depositLE a b) :=
  inferInstanceAs (Decidable (_ ∨ _ ∧ (_ ∨ _ ∧ _)))

/-- The reads of `resolveInTransaction` that go into `assertFinancialCoherence`. The order of the
deposit rows is the one order that matters. -/
def settlementFacts (db : Db) (order : SubscriptionOrder) : SettlementFacts where
  orderId := order.id
  customerId := order.customerId
  bills := db.bills.filter fun b =>
    b.billStatus != .cancelled && b.deletedAt.isNone && b.orderId == order.id
  payments := db.payments.filter fun p =>
    p.deletedAt.isNone && p.orderId == order.id && p.paymentStatus == .confirmed
  allocations := db.writeOffs.filter fun w => w.deletedAt.isNone && w.orderId == order.id
  deposits := (db.ledger.filter fun l => l.deletedAt.isNone && l.orderId == order.id &&
    l.transactionStatus == .confirmed).insertionSort depositLE

end SubscriptionSaas.Closure
