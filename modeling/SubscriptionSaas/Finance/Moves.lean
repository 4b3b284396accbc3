import SubscriptionSaas.Finance.Views
import SubscriptionSaas.Lib.RunningBalance

/-!
# Moves of money

The abstract side of the finance service. A transaction is a sequence of moves: a payment record is
added, a bill is paid from a payment, a settled deposit bill is collected, a deposit is deducted for a
bill or refunded. `Moves seen before ws` says that the writes `ws`, executed on `before`, are such a
sequence, each move being admissible where it happens. The one thing a move does not check against
the database it happens on is a deposit balance: it is computed from a snapshot among `seen`.

What it means for bills, payments and deposit ledgers to be consistent is stated here as well; that
moves keep it is shown in `Finance.Proofs.MovesProofs`.
-/

namespace SubscriptionSaas.Finance

open Transaction RunningBalance

/-- What a session has read. -/
abbrev Seen := List (Tag × Db)

/-- The deposit rows of an order that count. -/
def Db.orderLedger (db : Db) (orderId : Id) : List DepositLedger :=
  db.ledger.filter fun l => l.deletedAt.isNone && l.orderId == orderId &&
    l.transactionStatus == .confirmed

/-- The available balance of a list of deposit rows. -/
abbrev balanceOf (rows : List DepositLedger) : Int := total signedDepositLedgerAmount rows

/-- The order belongs to the customer. -/
def InScope (db : Db) (customerId orderId : Id) : Prop :=
  ∃ o, db.order? orderId = some o ∧ o.customerId = customerId

/-- The payment belongs to an order and its customer, directly or through a payment order. -/
def PaymentScope (db : Db) (p : PaymentRecord) : Prop :=
  InScope db p.customerId p.orderId ∨
    ∃ o ∈ db.paymentOrders, o.customerId = some p.customerId ∧ o.orderId = some p.orderId

/-- Neither a bill, a payment, a write-off nor a deposit row changes, and no payment order is added. -/
def Write.Neutral : Write → Prop
  | .insertPayment _ | .insertWriteOff _ | .insertLedger _ | .updateBill _ _
  | .insertPaymentOrder _ => False
  | _ => True

/-- A write on bills, payments, write-offs or deposit rows. -/
def Write.IsMoney : Write → Prop
  | .insertPayment _ | .insertWriteOff _ | .insertLedger _ | .updateBill _ _ => True
  | _ => False

theorem Write.IsMoney.patchOrder {w : Write} (h : w.IsMoney) (o : PaymentOrder) :
    w.patchOrder o = o := by
  cases w <;> first | rfl | exact h.elim

/-- Writes of money leave the payment orders and the debit attempts alone. -/
theorem view_money {ws : List Write} (h : ∀ w ∈ ws, w.IsMoney) (db : Db) :
    (view ws db).paymentOrders = db.paymentOrders ∧
      (view ws db).debitAttempts = db.debitAttempts := by
  induction ws generalizing db with
  | nil => exact ⟨rfl, rfl⟩
  | cons w ws ih =>
    rw [view_cons]
    obtain ⟨h1, h2⟩ := ih (fun w' hw' => h w' (List.mem_cons_of_mem _ hw')) (w.apply db)
    rw [h1, h2]
    have hw := h w List.mem_cons_self
    cases w <;> first | exact ⟨rfl, rfl⟩ | exact hw.elim

/-- The bill can take `amount` more. -/
structure Payable (db : Db) (bill : ReceivableBill) (amount : Int) : Prop where
  current : db.bill? bill.id = some bill
  live : bill.deletedAt = none
  open_ : bill.billStatus ≠ .cancelled
  pos : 0 < amount
  le : amount ≤ bill.remainingAmount

/-- The confirmed payment record a reference speaks of. -/
structure PaymentRef.Names (ref : PaymentRef) (p : PaymentRecord) : Prop where
  customer : p.customerId = ref.customerId
  order : p.orderId = ref.orderId
  confirmed : p.paymentStatus = .confirmed
  live : p.deletedAt = none

/-- The payment exists and has the scope of the bill. -/
structure PaysFor (db : Db) (ref : PaymentRef) (bill : ReceivableBill) : Prop where
  exists_ : ∃ p, db.payment? ref.paymentId = some p ∧ ref.Names p
  customer : bill.customerId = ref.customerId
  order : bill.orderId = ref.orderId

/-- The amount deducted from deposits for a bill. -/
def Db.deducted (db : Db) (billId : Id) : Int :=
  (((db.billLedger billId).filter fun l => l.transactionType == .deduct).map (·.amount)).sum

/-- A bill's columns agree with each other and with the facts booked on it. -/
structure BillOk (db : Db) (b : ReceivableBill) : Prop where
  remaining : 0 ≤ b.remainingAmount
  paid : 0 ≤ b.paidAmount
  balanced : b.paidAmount + b.remainingAmount = b.amount
  booked : b.paidAmount = sumWriteOffAmount (db.billWriteOffs b.id) + db.deducted b.id

def BillsOk (db : Db) : Prop := ∀ id b, db.bill? id = some b → BillOk db b

/-- The writes are a sequence of admissible moves on `before`. -/
inductive Moves (seen : Seen) (before : Db) : List Write → Prop
  | nil : Moves seen before []
  | addPayment {ws : List Write} {p : PaymentRecord} (hws : Moves seen before ws)
      (hnew : (view ws before).payment? p.id = none) (hpos : 0 < p.paymentAmount)
      (hlive : p.deletedAt = none) (hscope : PaymentScope before p) :
      Moves seen before (ws ++ [.insertPayment p])
  | pay {ws : List Write} {ref : PaymentRef} {bill : ReceivableBill} {amount : Int}
      {at_ : Instant} (hws : Moves seen before ws) (hbill : Payable (view ws before) bill amount)
      (href : PaysFor (view ws before) ref bill) :
      Moves seen before (ws ++ [.updateBill bill.id (paidPatch bill amount at_),
        .insertWriteOff (writeOffRow ref bill amount at_)])
  | collect {ws : List Write} {ref : PaymentRef} {bill : ReceivableBill} {snap : Db} {id : Id}
      {occurredAt createdAt : Instant} (hws : Moves seen before ws)
      (hbill : (view ws before).bill? bill.id = some bill) (hlive : bill.deletedAt = none)
      (htype : bill.billType = .deposit) (hpaid : bill.billStatus = .paid)
      (hfirst : ∀ l ∈ (view ws before).billLedger bill.id, l.transactionType ≠ .collect)
      (href : PaysFor (view ws before) ref bill) (hpos : BillsOk before → 0 < bill.paidAmount)
      (hsnap : (.depositBalance, snap) ∈ seen) :
      Moves seen before (ws ++ [.insertLedger (collectRow ref bill
        (balanceOf ((view ws snap).confirmedLedger ref.customerId ref.orderId)) id occurredAt
        createdAt)])
  | deduct {ws : List Write} {order : SubscriptionOrder} {bill : ReceivableBill} {amount : Int}
      {snap : Db} {id : Id} {now createdAt : Instant} (hws : Moves seen before ws)
      (hbill : Payable (view ws before) bill amount) (hded : deductible order bill = true)
      (horder : before.order? order.id = some order)
      (hle : amount ≤ balanceOf ((view ws snap).confirmedLedger order.customerId order.id))
      (hsnap : (.depositBalance, snap) ∈ seen) :
      Moves seen before (ws ++ [.insertLedger (spendRow order (some bill.id) .deduct amount
        (balanceOf ((view ws snap).confirmedLedger order.customerId order.id) - amount) id now
        createdAt), .updateBill bill.id (paidPatch bill amount now)])
  | refund {ws : List Write} {order : SubscriptionOrder} {amount : Int} {snap : Db} {id : Id}
      {now createdAt : Instant} (hws : Moves seen before ws) (hpos : 0 < amount)
      (horder : before.order? order.id = some order)
      (hle : amount ≤ balanceOf ((view ws snap).confirmedLedger order.customerId order.id))
      (hsnap : (.depositBalance, snap) ∈ seen) :
      Moves seen before (ws ++ [.insertLedger (spendRow order none .refund amount
        (balanceOf ((view ws snap).confirmedLedger order.customerId order.id) - amount) id now
        createdAt)])
  | other {ws : List Write} {w : Write} (hws : Moves seen before ws) (hw : w.Neutral) :
      Moves seen before (ws ++ [w])

/-- Reading more does not hurt. -/
theorem Moves.mono {seen seen' : Seen} {before : Db} {ws : List Write}
    (h : Moves seen before ws) (hsub : ∀ x ∈ seen, x ∈ seen') : Moves seen' before ws := by
  induction h with
  | nil => exact .nil
  | addPayment _ hnew hpos hlive hscope ih => exact ih.addPayment hnew hpos hlive hscope
  | pay _ hbill href ih => exact ih.pay hbill href
  | collect _ hbill hlive htype hpaid hfirst href hpos hsnap ih =>
    exact ih.collect hbill hlive htype hpaid hfirst href hpos (hsub _ hsnap)
  | deduct _ hbill hded horder hle hsnap ih => exact ih.deduct hbill hded horder hle (hsub _ hsnap)
  | refund _ hpos horder hle hsnap ih => exact ih.refund hpos horder hle (hsub _ hsnap)
  | other _ hw ih => exact ih.other hw

/-! ## Consistency -/

/-- No payment has been written off beyond its amount. -/
def PaymentsOk (db : Db) : Prop :=
  ∀ id p, db.payment? id = some p → sumWriteOffAmount (db.paymentWriteOffs id) ≤ p.paymentAmount

/-- The deposit rows of the order, in the order they were committed, state a running balance that is
never negative. -/
def LedgerOk (db : Db) (orderId : Id) : Prop :=
  RunsFrom signedDepositLedgerAmount (·.balanceAfter) 0 (db.orderLedger orderId)

/-- Every fact carries the customer of its order, and a write-off has its payment. -/
structure Scoped (db : Db) : Prop where
  bills : ∀ id b, db.bill? id = some b → InScope db b.customerId b.orderId
  payments : ∀ p ∈ db.payments, InScope db p.customerId p.orderId
  paymentOrders : ∀ o ∈ db.paymentOrders, ∀ c r, o.customerId = some c → o.orderId = some r →
    InScope db c r
  writeOffs : ∀ w ∈ db.writeOffs, InScope db w.customerId w.orderId ∧
    (db.payment? w.paymentId).isSome
  ledger : ∀ l ∈ db.ledger, InScope db l.customerId l.orderId

end SubscriptionSaas.Finance
