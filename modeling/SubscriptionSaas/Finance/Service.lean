import SubscriptionSaas.Finance.Db
import Mathlib.Data.List.Dedup
import Mathlib.Data.List.Sort

/-!
# The finance service

`createPayment`, `writeOffPayment`, `settlePaymentOrder`, `deductDeposit` and `refundDeposit` of
`finance.service.ts`, statement by statement: which rows each of them locks and when, what it reads
without a lock, and what it writes. `writeOffPayment` and `settlePaymentOrder` pay a bill and collect
a deposit with the same statements, which are `payBill` and `collectDeposit` here.

The automation jobs that a settled bill cancels and the collection cases it reconciles live in tables
of their own that no modelled statement reads; they are left out.
-/

namespace SubscriptionSaas.Finance

open Transaction

/-- The user of a request. -/
structure RequestUser where
  id : Id
  roles : List String

def canViewAllFinanceOrders (user : RequestUser) : Bool :=
  user.roles.any fun role => ["ADMIN", "FI", "GM", "OP"].contains role

/-- `ensureCanAccessOrderFinance`. -/
def canAccessOrderFinance (order : SubscriptionOrder) (user : RequestUser) : Bool :=
  canViewAllFinanceOrders user || order.salesUserId == user.id

def findOrderOrThrow (orderId : Id) : Tx SubscriptionOrder := do
  match ← select (S := sig) .order (fun db => db.order? orderId) with
  | none => fail .orderNotFound
  | some order => if order.deletedAt.isSome then fail .orderNotFound else pure order

/-! ## Deposit balance -/

/-- The totals of a deposit ledger. -/
structure DepositBalanceDetails where
  availableBalance : Int
  collectedAmount : Int
  deductedAmount : Int
  refundedAmount : Int
  releasedAmount : Int

def signedDepositLedgerAmount (ledger : DepositLedger) : Int :=
  match ledger.transactionType with
  | .deduct | .refund | .release => -ledger.amount
  | .collect => ledger.amount
  | .freeze => 0

/-- One ledger row added to the totals. -/
def DepositBalanceDetails.add (details : DepositBalanceDetails) (ledger : DepositLedger) :
    DepositBalanceDetails :=
  let available := details.availableBalance + signedDepositLedgerAmount ledger
  match ledger.transactionType with
  | .collect =>
    { details with
      availableBalance := available, collectedAmount := details.collectedAmount + ledger.amount }
  | .deduct =>
    { details with
      availableBalance := available, deductedAmount := details.deductedAmount + ledger.amount }
  | .refund =>
    { details with
      availableBalance := available, refundedAmount := details.refundedAmount + ledger.amount }
  | .release =>
    { details with
      availableBalance := available, releasedAmount := details.releasedAmount + ledger.amount }
  | .freeze => { details with availableBalance := available }

def calculateDepositBalanceDetailsFromLedgers (ledgers : List DepositLedger) :
    DepositBalanceDetails :=
  ledgers.foldl DepositBalanceDetails.add ⟨0, 0, 0, 0, 0⟩

/-- Reads the ledger without a lock. The order of the rows matters for no total. -/
def calculateDepositBalanceDetails (customerId orderId : Id) : Tx DepositBalanceDetails :=
  select (S := sig) .depositBalance fun db =>
    calculateDepositBalanceDetailsFromLedgers (db.confirmedLedger customerId orderId)

/-! ## Locks and inserts -/

def lockPaymentOrder (id : Id) : Tx Unit := lockRow (S := sig) (.paymentOrder id)

/-- `SELECT … WHERE id = ANY(…) ORDER BY id FOR UPDATE`. -/
def lockReceivableBills (billIds : List Id) : Tx Unit :=
  lockRows (S := sig) ((billIds.dedup.insertionSort (· ≤ ·)).map Row.bill)

/-- `receivableBill.findMany` on the bills just locked, by primary key. -/
def findBills (billIds : List Id) : Tx (List ReceivableBill) :=
  select (S := sig) .bills fun db =>
    billIds.dedup.filterMap fun id => (db.bill? id).filter (·.deletedAt.isNone)

/-- Inserts the payment record `mk id` under a fresh `id`; the primary key refuses an id that is
taken. -/
def insertPaymentRecord (mk : Id → PaymentRecord) : Tx PaymentRecord := do
  let id ← ask (S := sig) .uuid
  lockRow (S := sig) (.payment id)
  let taken ← select (S := sig) .primaryKey fun db => (db.payment? id).isSome
  ensure (S := sig) (!taken) .primaryKeyTaken
  exec (S := sig) (.insertPayment (mk id))
  pure (mk id)

/-! ## Paying a bill -/

/-- The payment a bill is paid from. -/
structure PaymentRef where
  paymentId : Id
  customerId : Id
  orderId : Id

/-- The columns of a bill after `writeOffAmount` has been paid on it. -/
def paidPatch (bill : ReceivableBill) (writeOffAmount : Int) (at_ : Instant) : BillPatch :=
  let nextRemainingAmount := bill.remainingAmount - writeOffAmount
  let nextBillStatus := if nextRemainingAmount = 0 then BillStatus.paid else .partiallyPaid
  { billStatus := nextBillStatus
    paidAmount := bill.paidAmount + writeOffAmount
    paidAt := if nextBillStatus = .paid then some at_ else bill.paidAt
    remainingAmount := nextRemainingAmount }

/-- The write-off that books the payment of a bill. -/
def writeOffRow (payment : PaymentRef) (bill : ReceivableBill) (writeOffAmount : Int)
    (at_ : Instant) : PaymentWriteOff :=
  { paymentId := payment.paymentId
    billId := bill.id
    orderId := payment.orderId
    customerId := payment.customerId
    writeOffAmount := writeOffAmount
    writeOffAt := at_
    deletedAt := none }

/-- Updates the bill and books the write-off. -/
def payBill (payment : PaymentRef) (bill : ReceivableBill) (writeOffAmount : Int)
    (at_ : Instant) : Tx ReceivableBill := do
  exec (S := sig) (.updateBill bill.id (paidPatch bill writeOffAmount at_))
  exec (S := sig) (.insertWriteOff (writeOffRow payment bill writeOffAmount at_))
  pure ((paidPatch bill writeOffAmount at_).apply bill)

/-- The ledger row that collects a settled deposit bill. -/
def collectRow (payment : PaymentRef) (bill : ReceivableBill) (previousBalance : Int)
    (id : Id) (occurredAt createdAt : Instant) : DepositLedger :=
  { id := id
    customerId := payment.customerId
    orderId := payment.orderId
    billId := some bill.id
    paymentId := some payment.paymentId
    transactionType := .collect
    transactionStatus := .confirmed
    amount := bill.paidAmount
    balanceAfter := previousBalance + bill.paidAmount
    occurredAt := occurredAt
    createdAt := createdAt
    deletedAt := none }

/-- A deposit bill that has just been paid in full is collected into the ledger, once. -/
def collectDeposit (payment : PaymentRef) (bill : ReceivableBill) (occurredAt : Instant) :
    Tx Unit :=
  if bill.billType = .deposit ∧ bill.billStatus = .paid then do
    let existingCollectLedger ← select (S := sig) .existingCollect fun db =>
      (db.billLedger bill.id).find? (·.transactionType == .collect)
    if existingCollectLedger.isSome then pure () else do
      let details ← calculateDepositBalanceDetails payment.customerId payment.orderId
      let id ← ask (S := sig) .uuid
      let createdAt ← ask (S := sig) .now
      exec (S := sig) (.insertLedger
        (collectRow payment bill details.availableBalance id occurredAt createdAt))
  else pure ()

/-! ## createPayment -/

structure CreatePaymentDto where
  orderId : Id
  customerId : Id
  paymentAmount : Int
  paymentMethod : PaymentMethod
  receivedAt : Instant

def createPayment (dto : CreatePaymentDto) (user : RequestUser) : Tx Unit := do
  ensure (S := sig) (0 < dto.paymentAmount) .amountNotPositive
  let order ← findOrderOrThrow dto.orderId
  ensure (S := sig) (canAccessOrderFinance order user) .orderFinanceForbidden
  ensure (S := sig) (order.customerId == dto.customerId) .paymentCustomerMismatch
  let _ ← insertPaymentRecord fun id =>
    { id := id
      customerId := dto.customerId
      orderId := dto.orderId
      paymentAmount := dto.paymentAmount
      paymentMethod := dto.paymentMethod
      paymentStatus := .confirmed
      receivedAt := dto.receivedAt
      deletedAt := none }
  commitTx (S := sig)

/-! ## writeOffPayment -/

structure WriteOffItem where
  billId : Id
  writeOffAmount : Int

def validateWriteOffDto (items : List WriteOffItem) : Bool :=
  !items.isEmpty && items.all (fun item => 0 < item.writeOffAmount) &&
    decide (items.map (·.billId)).Nodup

/-- The bills of a transaction by id, as it has updated them so far. -/
abbrev BillById := Id → Option ReceivableBill

def BillById.of (bills : List ReceivableBill) : BillById := fun id => bills.find? (·.id == id)

def BillById.set (m : BillById) (bill : ReceivableBill) : BillById :=
  fun id => if id = bill.id then some bill else m id

/-- One item of a write-off. -/
def writeOffItem (payment : PaymentRecord) (now : Instant) (item : WriteOffItem)
    (billById : BillById) : Tx BillById :=
  match billById item.billId with
  | none => fail (S := sig) .billNotFound
  | some bill => do
    ensure (S := sig) (bill.orderId == payment.orderId && bill.customerId == payment.customerId)
      .billPaymentScopeMismatch
    ensure (S := sig) (bill.billStatus != .cancelled) .cancelledBillWriteOff
    ensure (S := sig) (item.writeOffAmount ≤ bill.remainingAmount) .billWriteOffOverAmount
    let ref : PaymentRef := ⟨payment.id, payment.customerId, payment.orderId⟩
    let updatedBill ← payBill ref bill item.writeOffAmount now
    collectDeposit ref updatedBill now
    pure (billById.set updatedBill)

def writeOffItems (payment : PaymentRecord) (now : Instant) :
    List WriteOffItem → BillById → Tx BillById
  | [], billById => pure billById
  | item :: items, billById => do
    let billById ← writeOffItem payment now item billById
    writeOffItems payment now items billById

def sumWriteOffAmount (writeOffs : List PaymentWriteOff) : Int :=
  (writeOffs.map (·.writeOffAmount)).sum

/-- The payment and its write-offs are read before any row is locked. -/
def writeOffPayment (paymentId : Id) (items : List WriteOffItem) (user : RequestUser) :
    Tx Unit := do
  ensure (S := sig) (validateWriteOffDto items) .writeOffItemsInvalid
  match ← select (S := sig) .payment (fun db => db.payment? paymentId) with
  | none => fail (S := sig) .paymentNotFound
  | some payment => do
    let writeOffs ← select (S := sig) .paymentWriteOffs fun db => db.paymentWriteOffs paymentId
    ensure (S := sig) payment.deletedAt.isNone .paymentNotFound
    let order ← findOrderOrThrow payment.orderId
    ensure (S := sig) (canAccessOrderFinance order user) .orderFinanceForbidden
    ensure (S := sig) (payment.paymentStatus == .confirmed) .paymentNotConfirmed
    let requestedAmount := (items.map (·.writeOffAmount)).sum
    let paymentRemainingAmount := payment.paymentAmount - sumWriteOffAmount writeOffs
    ensure (S := sig) (requestedAmount ≤ paymentRemainingAmount) .paymentWriteOffOverAmount
    let billIds := items.map (·.billId)
    lockReceivableBills billIds
    let bills ← findBills billIds
    ensure (S := sig) (bills.length == billIds.length) .billNotFound
    let now ← ask (S := sig) .now
    let _ ← writeOffItems payment now items (BillById.of bills)
    commitTx (S := sig)

/-! ## settlePaymentOrder -/

/-- The debit result a settlement confirms. -/
structure SettleDebitAttempt where
  id : Id
  confirmedAmount : Int
  providerTransactionId : Option String
  resolvedAt : Instant

structure SettlePaymentOrderInput where
  paymentOrderId : Id
  paidAmount : Int
  paidAt : Instant
  callbackLogId : Option Id
  /-- `callbackPayload !== undefined`. -/
  hasCallbackPayload : Bool
  eventType : Option String
  providerTradeNo : Option String
  providerTransactionId : Option String
  debitAttempt : Option SettleDebitAttempt

structure SettleResult where
  allocatedAmount : Int
  idempotent : Bool
  paymentOrderId : Id
  paymentRecordId : Option Id
  unallocatedAmount : Int

/-- The guard on the status of a payment order that is not yet paid. -/
def settleable (input : SettlePaymentOrderInput) (order : PaymentOrder) : Bool :=
  order.paymentStatus == .created || order.paymentStatus == .pending ||
    (input.callbackLogId.isSome && order.paymentStatus == .closed) ||
    (input.debitAttempt.isSome && order.paymentStatus == .failed)

def paymentMethodForChannel : PaymentChannel → PaymentMethod
  | .alipayH5 => .alipay
  | .bankTransfer => .bankTransfer
  | _ => .wechat

/-- The least of the three amounts; none of them may be negative. -/
def calculateWriteOffAmount (itemAmount billRemainingAmount paymentRemainingAmount : Int) :
    Option Int :=
  if itemAmount < 0 ∨ billRemainingAmount < 0 ∨ paymentRemainingAmount < 0 then none
  else some (min (min itemAmount billRemainingAmount) paymentRemainingAmount)

def disputeBlocks (billIds : List Id) (f : ClosureFacts) : List Id :=
  (f.disputes.filter fun d =>
    (d.decision.isNone && d.status == .opened) || d.decision == some .acceptedByPlatform).filterMap
    fun d => d.billId.filter billIds.contains

def legalCaseBlocks (billIds : List Id) (f : ClosureFacts) : List Id :=
  (f.legalCases.filter fun c => c.closedAt.isNone && billIds.contains c.billId).map (·.billId)

def dispositionBlocks (billIds : List Id) (f : ClosureFacts) : List Id :=
  (f.dispositions.filter fun d => billIds.contains d.billId &&
    (d.disposition == .disputed || d.disposition == .legalCollection) && !d.superseded).map
    (·.billId)

/-- The bills whose payment the closure subsystem has taken over; three reads without a lock. -/
def closurePaymentBlockedBillIds (billIds : List Id) : Tx (List Id) := do
  let disputes ← select (S := sig) .closureDisputes fun db => disputeBlocks billIds db.closure
  let legalCases ← select (S := sig) .closureLegalCases fun db => legalCaseBlocks billIds db.closure
  let dispositions ← select (S := sig) .closureDispositions fun db =>
    dispositionBlocks billIds db.closure
  pure (disputes ++ legalCases ++ dispositions)

/-- How far a settlement has got with its items. -/
structure Allocation where
  billById : BillById
  availableAmount : Int
  allocatedAmount : Int

/-- One item of a payment order. -/
def settleItem (payment : PaymentRef) (paidAt : Instant) (blocked : List Id)
    (item : PaymentOrderItem) (st : Allocation) : Tx Allocation :=
  match st.billById item.billId with
  | none => pure st
  | some bill =>
    if bill.billStatus == .cancelled || blocked.contains item.billId then pure st
    else if bill.customerId != payment.customerId || bill.orderId != payment.orderId then
      fail (S := sig) .billPaymentScopeMismatch
    else
      match calculateWriteOffAmount item.amount bill.remainingAmount st.availableAmount with
      | none => fail (S := sig) .negativeSettlementAmount
      | some writeOffAmount =>
        if writeOffAmount ≤ 0 then pure st
        else do
          let updatedBill ← payBill payment bill writeOffAmount paidAt
          collectDeposit payment updatedBill paidAt
          pure
            { billById := st.billById.set updatedBill
              availableAmount := st.availableAmount - writeOffAmount
              allocatedAmount := st.allocatedAmount + writeOffAmount }

def settleItems (payment : PaymentRef) (paidAt : Instant) (blocked : List Id) :
    List PaymentOrderItem → Allocation → Tx Allocation
  | [], st => pure st
  | item :: items, st => do
    let st ← settleItem payment paidAt blocked item st
    settleItems payment paidAt blocked items st

/-- The callback that asked for the settlement is marked as handled. -/
def markSettlementCallback (input : SettlePaymentOrderInput) (order : PaymentOrder) : Tx Unit :=
  match input.callbackLogId with
  | some logId => exec (S := sig) (.updateCallbackLog logId (.handled input.paidAt order.id))
  | none => pure ()

/-- The write-offs of the order's payment, if it has one. -/
def existingWriteOffs (order : PaymentOrder) : Tx (List PaymentWriteOff) :=
  match order.paymentRecordId with
  | some recordId => select (S := sig) .paymentWriteOffs fun db => db.paymentWriteOffs recordId
  | none => pure []

/-- A settlement of an order that is paid already: nothing but the callback is marked. -/
def replaySettlement (input : SettlePaymentOrderInput) (order : PaymentOrder) :
    Tx SettleResult := do
  markSettlementCallback input order
  let writeOffs ← existingWriteOffs order
  commitTx (S := sig)
  let allocatedAmount := sumWriteOffAmount writeOffs
  pure
    { allocatedAmount := allocatedAmount
      idempotent := true
      paymentOrderId := order.id
      paymentRecordId := order.paymentRecordId
      unallocatedAmount := order.paidAmount - allocatedAmount }

/-- Another payment order of the provider must not carry the transaction already. -/
def ensureTransactionFree (order : PaymentOrder) (providerTransactionId : Option String) :
    Tx Unit :=
  match providerTransactionId with
  | none => pure ()
  | some transactionId =>
    if transactionId = "" then pure () else do
      let taken ← select (S := sig) .duplicateTransaction fun db => db.paymentOrders.any fun o =>
        o.id != order.id && o.provider == order.provider &&
          o.providerTransactionId == some transactionId
      ensure (S := sig) (!taken) .providerTransactionTaken

/-- Marks the debit attempt of the settlement as succeeded. -/
def confirmDebitAttempt (order : PaymentOrder) (attempt : SettleDebitAttempt) : Tx Unit := do
  let found ← select (S := sig) .debitAttempt fun db => db.debitAttempt? attempt.id
  ensure (S := sig) (found.map (·.paymentOrderId) == some order.id) .debitAttemptForeign
  lockRow (S := sig) (.debitAttempt attempt.id)
  exec (S := sig) (.updateDebitAttempt attempt.id
    (.succeeded attempt.confirmedAmount attempt.providerTransactionId attempt.resolvedAt))

/-- A settlement that comes from a debit result confirms its attempt. -/
def confirmSettledDebit (input : SettlePaymentOrderInput) (order : PaymentOrder) : Tx Unit :=
  match input.debitAttempt with
  | some attempt => confirmDebitAttempt order attempt
  | none => pure ()

/-- The callback that settled the order is marked; a settlement without a callback row records one
if it has a payload or an event. -/
def recordSettlementCallback (input : SettlePaymentOrderInput) (order : PaymentOrder) :
    Tx Unit :=
  if input.callbackLogId.isNone && (input.hasCallbackPayload || input.eventType.isSome) then do
    let id ← ask (S := sig) .uuid
    exec (S := sig) (.insertCallbackLog
      { id := id
        paymentOrderId := some order.id
        provider := order.provider
        eventType := input.eventType
        providerTradeNo := input.providerTradeNo <|> order.providerTradeNo
        providerTransactionId := input.providerTransactionId
        verified := true
        handled := true
        handledAt := some input.paidAt
        errorMessage := none })
  else markSettlementCallback input order

/-- The settlement proper, for an order of `customerId` and `orderId`. -/
def allocateSettlement (input : SettlePaymentOrderInput) (order : PaymentOrder)
    (customerId orderId : Id) : Tx SettleResult := do
  let items := order.items.filter (·.deletedAt.isNone)
  let billIds := items.map (·.billId)
  lockReceivableBills billIds
  let bills ← findBills billIds
  let blocked ← closurePaymentBlockedBillIds billIds
  let payment ← insertPaymentRecord fun id =>
    { id := id
      customerId := customerId
      orderId := orderId
      paymentAmount := input.paidAmount
      paymentMethod := paymentMethodForChannel order.paymentChannel
      paymentStatus := .confirmed
      receivedAt := input.paidAt
      deletedAt := none }
  let st ← settleItems ⟨payment.id, customerId, orderId⟩ input.paidAt blocked items
    ⟨BillById.of bills, input.paidAmount, 0⟩
  confirmSettledDebit input order
  let now ← ask (S := sig) .now
  exec (S := sig) (.updatePaymentOrder order.id now
    (.settled payment.id input.paidAmount input.paidAt
      (input.providerTradeNo <|> order.providerTradeNo)
      (input.providerTransactionId <|> order.providerTransactionId) blocked))
  recordSettlementCallback input order
  exec (S := sig) (.insertSettlement
    { paymentOrderId := order.id
      paymentRecordId := payment.id
      allocatedAmount := st.allocatedAmount
      unallocatedAmount := st.availableAmount })
  commitTx (S := sig)
  pure
    { allocatedAmount := st.allocatedAmount
      idempotent := false
      paymentOrderId := order.id
      paymentRecordId := some payment.id
      unallocatedAmount := st.availableAmount }

/-- A settlement of an order that is not paid yet. -/
def settleOpenOrder (input : SettlePaymentOrderInput) (order : PaymentOrder) :
    Tx SettleResult := do
  ensure (S := sig) (settleable input order) .paymentOrderStatusNotSettleable
  ensure (S := sig) (input.paidAmount == order.amount) .paymentAmountMismatch
  match order.customerId, order.orderId with
  | some customerId, some orderId => do
    ensureTransactionFree order (input.providerTransactionId <|> order.providerTransactionId)
    allocateSettlement input order customerId orderId
  | _, _ => fail (S := sig) .paymentOrderScopeMissing

/-- The payment order is locked first, then its bills. -/
def settlePaymentOrder (input : SettlePaymentOrderInput) : Tx SettleResult := do
  ensure (S := sig) (0 < input.paidAmount) .paymentAmountNotPositive
  lockPaymentOrder input.paymentOrderId
  match ← select (S := sig) .paymentOrder (fun db => db.paymentOrder? input.paymentOrderId) with
  | none => fail (S := sig) .paymentOrderMissing
  | some order =>
    if order.deletedAt.isSome then fail (S := sig) .paymentOrderMissing
    else if order.paymentStatus == .paid then replaySettlement input order
    else settleOpenOrder input order

/-! ## deductDeposit -/

/-- The ledger row of a deduction or a refund. -/
def spendRow (order : SubscriptionOrder) (billId : Option Id) (type : DepositTransactionType)
    (amount balanceAfter : Int) (id : Id) (occurredAt createdAt : Instant) : DepositLedger :=
  { id := id
    customerId := order.customerId
    orderId := order.id
    billId := billId
    paymentId := none
    transactionType := type
    transactionStatus := .confirmed
    amount := amount
    balanceAfter := balanceAfter
    occurredAt := occurredAt
    createdAt := createdAt
    deletedAt := none }

/-- The bill a deposit can be deducted for. -/
def deductible (order : SubscriptionOrder) (bill : ReceivableBill) : Bool :=
  bill.deletedAt.isNone && bill.orderId == order.id && bill.customerId == order.customerId &&
    bill.billType == .damageFee && bill.billStatus != .cancelled && 0 < bill.remainingAmount

/-- Only the bill is locked; the balance is read without a lock. -/
def deductDeposit (orderId : Id) (billId : Id) (amount : Int) (user : RequestUser) :
    Tx Unit := do
  ensure (S := sig) (0 < amount) .amountNotPositive
  let order ← findOrderOrThrow orderId
  ensure (S := sig) (canAccessOrderFinance order user) .orderFinanceForbidden
  lockReceivableBills [billId]
  match ← select (S := sig) .bills (fun db => db.bill? billId) with
  | none => fail (S := sig) .damageFeeBillInvalid
  | some bill => do
    ensure (S := sig) (deductible order bill) .damageFeeBillInvalid
    let balance ← calculateDepositBalanceDetails order.customerId order.id
    ensure (S := sig) (0 < balance.collectedAmount && 0 < balance.availableBalance)
      .depositNotCollected
    ensure (S := sig) (amount ≤ balance.availableBalance) .depositBalanceInsufficient
    ensure (S := sig) (amount ≤ bill.remainingAmount) .depositDeductOverBill
    let now ← ask (S := sig) .now
    let id ← ask (S := sig) .uuid
    let createdAt ← ask (S := sig) .now
    exec (S := sig) (.insertLedger (spendRow order (some bill.id) .deduct amount
      (balance.availableBalance - amount) id now createdAt))
    exec (S := sig) (.updateBill bill.id (paidPatch bill amount now))
    commitTx (S := sig)

/-! ## refundDeposit -/

/-- `ensureOrderCanRefundDeposit`. -/
def orderCanRefundDeposit (order : SubscriptionOrder) : Bool :=
  order.actualReturnAt.isSome || order.orderStatus == .completed ||
    order.orderStatus == .terminated

/-- No row is locked. -/
def refundDeposit (orderId : Id) (amount : Int) (user : RequestUser) : Tx Unit := do
  ensure (S := sig) (0 < amount) .amountNotPositive
  let order ← findOrderOrThrow orderId
  ensure (S := sig) (canAccessOrderFinance order user) .orderFinanceForbidden
  ensure (S := sig) (orderCanRefundDeposit order) .depositRefundNotAllowed
  let balance ← calculateDepositBalanceDetails order.customerId order.id
  ensure (S := sig) (amount ≤ balance.availableBalance) .depositRefundOverBalance
  let now ← ask (S := sig) .now
  let id ← ask (S := sig) .uuid
  let createdAt ← ask (S := sig) .now
  exec (S := sig) (.insertLedger (spendRow order none .refund amount
    (balance.availableBalance - amount) id now createdAt))
  commitTx (S := sig)

/-! ## The money operations as calls -/

inductive LedgerCall
  | createPayment (dto : CreatePaymentDto) (user : RequestUser)
  | writeOffPayment (paymentId : Id) (items : List WriteOffItem) (user : RequestUser)
  | settlePaymentOrder (input : SettlePaymentOrderInput)
  | deductDeposit (orderId billId : Id) (amount : Int) (user : RequestUser)
  | refundDeposit (orderId : Id) (amount : Int) (user : RequestUser)

def ledgerBody : LedgerCall → Tx Unit
  | .createPayment dto user => createPayment dto user
  | .writeOffPayment paymentId items user => writeOffPayment paymentId items user
  | .settlePaymentOrder input => do let _ ← settlePaymentOrder input
  | .deductDeposit orderId billId amount user => deductDeposit orderId billId amount user
  | .refundDeposit orderId amount user => refundDeposit orderId amount user

end SubscriptionSaas.Finance
