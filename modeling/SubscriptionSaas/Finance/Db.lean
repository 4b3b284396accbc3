import SubscriptionSaas.Lib.Transaction
import Mathlib.Algebra.Ring.Int.Defs

/-!
# The finance tables

The rows of the money tables, as far as the finance and payment services read and write them, and
the write statements these services issue. Row ids are UUIDs in the source and natural numbers here;
amounts are integers (`bigint` cents); instants are milliseconds since the epoch. A column with no reader in the
modelled code (business numbers, remarks, audit snapshots) is left out.

A table is the list of its rows in the order they were inserted. `Write` has one constructor for
each kind of statement; an `UPDATE` names its row by id and lists exactly the columns it sets.
-/

namespace SubscriptionSaas.Finance

/-- A UUID. -/
abbrev Id := Nat
/-- Milliseconds since the epoch. -/
abbrev Instant := Int

inductive BillType
  | deposit | firstMonthlyFee | monthlyRent | overMileage | damageFee | other
  deriving DecidableEq

inductive BillStatus
  | pending | partiallyPaid | paid | overdue | cancelled
  deriving DecidableEq

inductive PaymentStatus
  | pendingConfirm | confirmed | cancelled
  deriving DecidableEq

inductive DepositTransactionType
  | collect | freeze | deduct | refund | release
  deriving DecidableEq

inductive DepositTransactionStatus
  | pending | confirmed | cancelled
  deriving DecidableEq

inductive PaymentOrderStatus
  | created | pending | paid | failed | closed | cancelled | expired
  deriving DecidableEq

inductive PaymentChannel
  | mock | wechatJsapi | wechatAutoDebit | wechatH5 | alipayH5 | bankTransfer
  deriving DecidableEq

inductive PaymentProviderType
  | mock | wechatPay | alipay | bankTransfer | other
  deriving DecidableEq

inductive PaymentMethod
  | bankTransfer | wechat | alipay | cash | other
  deriving DecidableEq

inductive DebitAttemptStatus
  | created | submitting | processing | unknown | succeeded | failedRetryable | failedFinal
  | cancelled
  deriving DecidableEq

inductive DebitRetrySlot
  | due | d1 | d3 | manual
  deriving DecidableEq

inductive OrderStatus
  | pendingReview | pendingCustomerConfirmation | pendingContract | pendingSign | pendingPayment
  | pendingVehicle | pendingDelivery | active | suspended | pendingReturn
  | returnedPendingSettlement | terminated | completed | cancelled | rejected
  deriving DecidableEq

/-- `subscription_order`. -/
structure SubscriptionOrder where
  id : Id
  customerId : Id
  orderStatus : OrderStatus
  actualReturnAt : Option Instant
  /-- The sales user of the order's application. -/
  salesUserId : Id
  deletedAt : Option Instant
  deriving DecidableEq

/-- `receivable_bill`. -/
structure ReceivableBill where
  id : Id
  orderId : Id
  customerId : Id
  billType : BillType
  billStatus : BillStatus
  amount : Int
  paidAmount : Int
  remainingAmount : Int
  dueDate : Instant
  paidAt : Option Instant
  createdAt : Instant
  deletedAt : Option Instant
  deriving DecidableEq

/-- `payment_record`. -/
structure PaymentRecord where
  id : Id
  customerId : Id
  orderId : Id
  paymentAmount : Int
  paymentMethod : PaymentMethod
  paymentStatus : PaymentStatus
  receivedAt : Instant
  deletedAt : Option Instant
  deriving DecidableEq

/-- `payment_write_off`. -/
structure PaymentWriteOff where
  paymentId : Id
  billId : Id
  orderId : Id
  customerId : Id
  writeOffAmount : Int
  writeOffAt : Instant
  deletedAt : Option Instant
  deriving DecidableEq

/-- `deposit_ledger`. -/
structure DepositLedger where
  id : Id
  customerId : Id
  orderId : Id
  billId : Option Id
  paymentId : Option Id
  transactionType : DepositTransactionType
  transactionStatus : DepositTransactionStatus
  amount : Int
  balanceAfter : Int
  occurredAt : Instant
  createdAt : Instant
  deletedAt : Option Instant
  deriving DecidableEq

/-- `payment_order_item`; the items live in their payment order, in creation order. -/
structure PaymentOrderItem where
  billId : Id
  amount : Int
  deletedAt : Option Instant
  deriving DecidableEq

/-- `payment_order`. -/
structure PaymentOrder where
  id : Id
  paymentOrderNo : String
  customerId : Option Id
  orderId : Option Id
  paymentRecordId : Option Id
  provider : PaymentProviderType
  paymentChannel : PaymentChannel
  paymentStatus : PaymentOrderStatus
  amount : Int
  paidAmount : Int
  providerTradeNo : Option String
  providerPrepayId : Option String
  providerTransactionId : Option String
  cashierUrl : Option String
  cashierUrlExpiresAt : Option Instant
  /-- `errorSnapshot.blockedBillIds` of a payment whose allocation a closure blocked. -/
  blockedBillIds : List Id
  paidAt : Option Instant
  closedAt : Option Instant
  cancelledAt : Option Instant
  createdAt : Instant
  updatedAt : Instant
  deletedAt : Option Instant
  items : List PaymentOrderItem
  /-- The debit attempt of an automatic debit, which is inserted together with its order. -/
  debitAttempt : Option Id
  deriving DecidableEq

/-- The bills of the items, as `paymentOrderInclude` selects them. -/
def PaymentOrder.billIds (order : PaymentOrder) : List Id :=
  (order.items.filter (·.deletedAt.isNone)).map (·.billId)

/-- The errors, one for each message of the source, and one for whatever a provider throws. -/
inductive Err
  | paymentAmountNotPositive
  | paymentOrderMissing
  | paymentOrderStatusNotSettleable
  | paymentAmountMismatch
  | paymentOrderScopeMissing
  | providerTransactionTaken
  | billPaymentScopeMismatch
  | negativeSettlementAmount
  | debitAttemptForeign
  | orderNotFound
  | orderFinanceForbidden
  | paymentCustomerMismatch
  | paymentNotFound
  | paymentNotConfirmed
  | paymentWriteOffOverAmount
  | billNotFound
  | cancelledBillWriteOff
  | billWriteOffOverAmount
  | writeOffItemsInvalid
  | damageFeeBillInvalid
  | depositNotCollected
  | depositBalanceInsufficient
  | depositDeductOverBill
  | depositRefundNotAllowed
  | depositRefundOverBalance
  | amountNotPositive
  | primaryKeyTaken
  | providerFailed
  | paymentProviderCloseUnavailable
  | paymentSettledDuringClose
  | mockPaymentDisabled
  | wechatPayNotEnabled
  | paymentChannelNotSupported
  | billsNotFound
  | billsNotPayable
  | billsOfSeveralOrders
  | disputedClosureBills
  | legalCollectionBills
  | governedClosureBills
  | paymentOrderNotFound
  | paymentOrderNotPayable
  | paymentOrderNotCompletable
  | callbackAmountMismatch
  | paymentOrderClosedDuringProviderCreate
  | operatorMissing
  | debitAttemptMissing
  | debitAttemptStateMissing
  | debitRecoveryStateMissing
  deriving DecidableEq

/-- The diagnostic text of a callback. -/
inductive CallbackMessage
  /-- A text of the provider. -/
  | provider (text : String)
  /-- The message of an error. -/
  | error (e : Err)
  | providerMismatch
  | mockDisabled
  | orderNotFound
  deriving DecidableEq

/-- `payment_callback_log`. -/
structure PaymentCallbackLog where
  id : Id
  paymentOrderId : Option Id
  provider : PaymentProviderType
  eventType : Option String
  providerTradeNo : Option String
  providerTransactionId : Option String
  verified : Bool
  handled : Bool
  handledAt : Option Instant
  errorMessage : Option CallbackMessage
  deriving DecidableEq

/-- `debit_attempt`. -/
structure DebitAttempt where
  id : Id
  paymentOrderId : Id
  billId : Id
  status : DebitAttemptStatus
  retrySlot : DebitRetrySlot
  requestedAmount : Int
  confirmedAmount : Int
  providerOutTradeNo : String
  providerTransactionId : Option String
  idempotencyKey : String
  resolvedAt : Option Instant
  cancelledAt : Option Instant
  createdAt : Instant
  deriving DecidableEq

/-- What the provider has been asked to debit, and for which attempt. -/
structure SubmittedDebit where
  debitAttemptId : Id
  amount : Int
  providerOutTradeNo : String
  deriving DecidableEq

inductive DisputeStatus
  | opened | acceptedByPlatform | rejectedByPlatform | withdrawn | superseded
  deriving DecidableEq

/-- `subscription_closure_charge_dispute` with the bill of its charge line. -/
structure ClosureDispute where
  billId : Option Id
  status : DisputeStatus
  /-- The decision on the dispute, once there is one. -/
  decision : Option DisputeStatus
  deriving DecidableEq

/-- `subscription_closure_legal_collection_case`. -/
structure LegalCollectionCase where
  billId : Id
  closedAt : Option Instant
  deriving DecidableEq

inductive Disposition
  | opened | paid | manualPaymentConfirmed | waived | writtenOff | disputed | collectionPending
  | legalCollection
  deriving DecidableEq

/-- `subscription_closure_receivable_disposition`. -/
structure ReceivableDisposition where
  billId : Id
  disposition : Disposition
  /-- A later disposition of the bill supersedes this one. -/
  superseded : Bool
  deriving DecidableEq

/-- The governed facts of the closure subsystem that the payment code reads. -/
structure ClosureFacts where
  disputes : List ClosureDispute
  legalCases : List LegalCollectionCase
  dispositions : List ReceivableDisposition

/-- The part of the settlement's audit entry that states how the payment was split. -/
structure SettlementAudit where
  paymentOrderId : Id
  paymentRecordId : Id
  allocatedAmount : Int
  unallocatedAmount : Int
  deriving DecidableEq

/-- The database; `submittedDebits` are the requests that the provider has been sent. -/
structure Db where
  orders : List SubscriptionOrder
  bills : List ReceivableBill
  payments : List PaymentRecord
  writeOffs : List PaymentWriteOff
  ledger : List DepositLedger
  paymentOrders : List PaymentOrder
  callbackLogs : List PaymentCallbackLog
  debitAttempts : List DebitAttempt
  closure : ClosureFacts
  settlements : List SettlementAudit
  submittedDebits : List SubmittedDebit

namespace Db

def order? (db : Db) (id : Id) : Option SubscriptionOrder := db.orders.find? (·.id == id)
def bill? (db : Db) (id : Id) : Option ReceivableBill := db.bills.find? (·.id == id)
def payment? (db : Db) (id : Id) : Option PaymentRecord := db.payments.find? (·.id == id)
def paymentOrder? (db : Db) (id : Id) : Option PaymentOrder := db.paymentOrders.find? (·.id == id)
def callbackLog? (db : Db) (id : Id) : Option PaymentCallbackLog :=
  db.callbackLogs.find? (·.id == id)
def debitAttempt? (db : Db) (id : Id) : Option DebitAttempt := db.debitAttempts.find? (·.id == id)

/-- The live write-offs of a bill. -/
def billWriteOffs (db : Db) (id : Id) : List PaymentWriteOff :=
  db.writeOffs.filter fun w => w.billId == id && w.deletedAt.isNone

/-- The live write-offs of a payment. -/
def paymentWriteOffs (db : Db) (id : Id) : List PaymentWriteOff :=
  db.writeOffs.filter fun w => w.paymentId == id && w.deletedAt.isNone

/-- The live deposit rows of a bill. -/
def billLedger (db : Db) (id : Id) : List DepositLedger :=
  db.ledger.filter fun l => l.billId == some id && l.deletedAt.isNone

/-- The confirmed deposit rows of a customer's order. -/
def confirmedLedger (db : Db) (customerId orderId : Id) : List DepositLedger :=
  db.ledger.filter fun l => l.customerId == customerId && l.deletedAt.isNone &&
    l.orderId == orderId && l.transactionStatus == .confirmed

end Db

/-! ## Write statements -/

/-- The columns a payment sets on its bill. -/
structure BillPatch where
  billStatus : BillStatus
  paidAmount : Int
  paidAt : Option Instant
  remainingAmount : Int

def BillPatch.apply (p : BillPatch) (b : ReceivableBill) : ReceivableBill :=
  { b with
    billStatus := p.billStatus
    paidAmount := p.paidAmount
    paidAt := p.paidAt
    remainingAmount := p.remainingAmount }

/-- The `UPDATE` statements on a payment order, one for each place in the source that has one. Every
one of them also sets `updatedAt`. A value the source leaves undefined leaves its column alone. -/
inductive PaymentOrderPatch
  /-- `settlePaymentOrder`. -/
  | settled (paymentRecordId : Id) (paidAmount : Int) (paidAt : Instant)
      (providerTradeNo providerTransactionId : Option String) (blockedBillIds : List Id)
  /-- `closeActivePaymentOrdersForBills`. -/
  | closed (closedAt : Instant)
  /-- `refreshProviderPayment`. -/
  | refreshed (cashierUrl : Option String) (cashierUrlExpiresAt : Option Instant)
      (providerPrepayId : Option String) (providerTradeNo : String)
  /-- `persistUnknown`. -/
  | debitUnknown
  /-- `persistProviderResult` and `persistAmountMismatch`. -/
  | debitResult (failed : Bool) (providerTransactionId : Option String)
  /-- `resubmitKnownMissing` with a mandate that is not active. -/
  | debitCancelled (cancelledAt : Instant)

def PaymentOrderPatch.apply (now : Instant) (o : PaymentOrder) : PaymentOrderPatch → PaymentOrder
  | .settled recordId paidAmount paidAt tradeNo transactionId blocked =>
    { o with
      blockedBillIds := if blocked.isEmpty then o.blockedBillIds else blocked
      paidAmount := paidAmount
      paidAt := some paidAt
      paymentRecordId := some recordId
      paymentStatus := .paid
      providerTradeNo := tradeNo
      providerTransactionId := transactionId
      updatedAt := now }
  | .closed closedAt =>
    { o with
      cashierUrl := none
      cashierUrlExpiresAt := none
      blockedBillIds := []
      closedAt := some closedAt
      paymentStatus := .closed
      updatedAt := now }
  | .refreshed url expires prepayId tradeNo =>
    { o with
      cashierUrl := url <|> o.cashierUrl
      cashierUrlExpiresAt := expires <|> o.cashierUrlExpiresAt
      providerPrepayId := prepayId <|> o.providerPrepayId
      providerTradeNo := some tradeNo
      paymentStatus := .pending
      updatedAt := now }
  | .debitUnknown => { o with blockedBillIds := [], paymentStatus := .pending, updatedAt := now }
  | .debitResult failed transactionId =>
    { o with
      blockedBillIds := []
      paymentStatus := if failed then .failed else .pending
      providerTransactionId := transactionId <|> o.providerTransactionId
      updatedAt := now }
  | .debitCancelled at_ =>
    { o with
      blockedBillIds := []
      cancelledAt := some at_
      paymentStatus := .cancelled
      updatedAt := now }

/-- The `UPDATE` statements on a callback log row. -/
inductive CallbackLogPatch
  /-- The provider's verdict. -/
  | verdict (errorMessage eventType providerTradeNo providerTransactionId : Option String)
      (verified : Bool)
  /-- The payment order the callback belongs to. -/
  | order (paymentOrderId : Id)
  /-- The callback has been handled. -/
  | handled (handledAt : Instant) (paymentOrderId : Id)
  /-- Handling failed. -/
  | failed (errorMessage : CallbackMessage)
  /-- The callback is not for this provider. -/
  | rejected (errorMessage : CallbackMessage)

def CallbackLogPatch.apply (l : PaymentCallbackLog) : CallbackLogPatch → PaymentCallbackLog
  | .verdict message eventType tradeNo transactionId verified =>
    { l with
      errorMessage := message.map .provider <|> l.errorMessage
      eventType := eventType <|> l.eventType
      providerTradeNo := tradeNo <|> l.providerTradeNo
      providerTransactionId := transactionId <|> l.providerTransactionId
      verified := verified }
  | .order id => { l with paymentOrderId := some id }
  | .handled handledAt id =>
    { l with handled := true, handledAt := some handledAt, paymentOrderId := some id }
  | .failed message => { l with errorMessage := some message }
  | .rejected message => { l with errorMessage := some message, verified := false }

/-- The `UPDATE` statements on a debit attempt. -/
inductive DebitAttemptPatch
  /-- `settlePaymentOrder`. -/
  | succeeded (confirmedAmount : Int) (providerTransactionId : Option String) (resolvedAt : Instant)
  /-- `persistUnknown`. -/
  | unknown
  /-- `persistProviderResult` and `persistAmountMismatch`. -/
  | result (status : DebitAttemptStatus) (confirmedAmount : Int)
      (providerTransactionId : Option String) (resolvedAt : Option Instant)
  /-- `resubmitKnownMissing`. -/
  | cancelled (cancelledAt : Instant)
  | submitting

/-- The status the statement sets. -/
def DebitAttemptPatch.status : DebitAttemptPatch → DebitAttemptStatus
  | .succeeded _ _ _ => .succeeded
  | .unknown => .unknown
  | .result status _ _ _ => status
  | .cancelled _ => .cancelled
  | .submitting => .submitting

def DebitAttemptPatch.apply (a : DebitAttempt) (p : DebitAttemptPatch) : DebitAttempt :=
  match p with
  | .succeeded confirmedAmount transactionId resolvedAt =>
    { a with
      status := p.status
      confirmedAmount := confirmedAmount
      providerTransactionId := transactionId <|> a.providerTransactionId
      resolvedAt := some resolvedAt }
  | .unknown => { a with status := p.status }
  | .result _ confirmedAmount transactionId resolvedAt =>
    { a with
      status := p.status
      confirmedAmount := confirmedAmount
      providerTransactionId := transactionId <|> a.providerTransactionId
      resolvedAt := resolvedAt }
  | .cancelled at_ =>
    { a with status := p.status, cancelledAt := some at_, resolvedAt := some at_ }
  | .submitting => { a with status := p.status }

/-- A write statement. -/
inductive Write
  | insertPayment (p : PaymentRecord)
  | insertWriteOff (w : PaymentWriteOff)
  | insertLedger (l : DepositLedger)
  | updateBill (id : Id) (p : BillPatch)
  | insertPaymentOrder (o : PaymentOrder)
  | updatePaymentOrder (id : Id) (now : Instant) (p : PaymentOrderPatch)
  | insertCallbackLog (l : PaymentCallbackLog)
  | updateCallbackLog (id : Id) (p : CallbackLogPatch)
  | insertDebitAttempt (a : DebitAttempt)
  | updateDebitAttempt (id : Id) (p : DebitAttemptPatch)
  | insertSettlement (s : SettlementAudit)
  /-- Whatever the closure subsystem decides about disputes, legal cases and dispositions. -/
  | setClosure (f : ClosureFacts)
  /-- A request that is sent to the provider. -/
  | submitDebit (s : SubmittedDebit)

/-- Updates the rows for which `p` holds. -/
def updateWhere {α : Type} (p : α → Bool) (f : α → α) (rows : List α) : List α :=
  rows.map fun a => if p a then f a else a

/-- The effect of a write statement. -/
def Write.apply (db : Db) : Write → Db
  | .insertPayment p => { db with payments := db.payments ++ [p] }
  | .insertWriteOff w => { db with writeOffs := db.writeOffs ++ [w] }
  | .insertLedger l => { db with ledger := db.ledger ++ [l] }
  | .updateBill id p => { db with bills := updateWhere (·.id == id) p.apply db.bills }
  | .insertPaymentOrder o => { db with paymentOrders := db.paymentOrders ++ [o] }
  | .updatePaymentOrder id now p =>
    { db with paymentOrders := updateWhere (·.id == id) (fun o => p.apply now o) db.paymentOrders }
  | .insertCallbackLog l => { db with callbackLogs := db.callbackLogs ++ [l] }
  | .updateCallbackLog id p =>
    { db with callbackLogs := updateWhere (·.id == id) (fun l => p.apply l) db.callbackLogs }
  | .insertDebitAttempt a => { db with debitAttempts := db.debitAttempts ++ [a] }
  | .updateDebitAttempt id p =>
    { db with debitAttempts := updateWhere (·.id == id) (fun a => p.apply a) db.debitAttempts }
  | .insertSettlement s => { db with settlements := db.settlements ++ [s] }
  | .setClosure f => { db with closure := f }
  | .submitDebit s => { db with submittedDebits := db.submittedDebits ++ [s] }

/-! ## The signature of the finance programs -/

/-- The rows that are locked. -/
inductive Row
  | bill (id : Id)
  | payment (id : Id)
  | paymentOrder (id : Id)
  | debitAttempt (id : Id)
  deriving DecidableEq

/-- Labels of the reads. -/
inductive Tag
  | order | payment | paymentWriteOffs | bills | existingCollect | depositBalance
  | closureDisputes | closureLegalCases | closureDispositions | paymentOrder | refreshOrder
  | paymentOrders | duplicateTransaction | debitAttempt | primaryKey
  deriving DecidableEq

/-- What the provider answers to `createPayment`. -/
structure CreatePaymentResult where
  cashierUrl : Option String
  cashierUrlExpiresAt : Option Instant
  providerPrepayId : Option String
  providerTradeNo : String

/-- What the provider says about a callback. -/
structure VerifyPaymentCallbackResult where
  errorMessage : Option String
  eventType : Option String
  paidAmount : Option Int
  paidAt : Option Instant
  providerTradeNo : Option String
  providerTransactionId : Option String
  verified : Bool

inductive DebitProviderStatus
  | processing | unknown | succeeded | failedFinal | failedRetryable
  deriving DecidableEq

/-- What the provider says about a debit. -/
structure DebitProviderResult where
  status : DebitProviderStatus
  providerOutTradeNo : String
  providerTransactionId : Option String
  confirmedAmount : Int
  resolvedAt : Option Instant
  errorCode : Option String

/-- Questions put to the outside world; a remote call may fail. -/
inductive Ask
  | uuid
  | businessNo
  | now
  | createPayment
  | closePayment
  | verifyCallback
  | openId
  | operator
  | submitDebit
  | queryDebit
  | mandate
  deriving DecidableEq

/-- The answers. -/
@[reducible] def Ans : Ask → Type
  | .uuid => Id
  | .businessNo => String
  | .now => Instant
  | .createPayment => Option CreatePaymentResult
  | .closePayment => Bool
  | .verifyCallback => Option VerifyPaymentCallbackResult
  | .openId => Bool
  | .operator => Bool
  | .submitDebit => Option DebitProviderResult
  | .queryDebit => Option DebitProviderResult
  | .mandate => Option PaymentProviderType

/-- The finance database as a signature for interactive transactions. -/
abbrev sig : Transaction.Sig where
  Db := Db
  Write := Write
  apply w db := w.apply db
  Row := Row
  Tag := Tag
  Ask := Ask
  Ans := Ans
  Err := Err

/-- A program of the finance and payment services. -/
abbrev Tx := Transaction.Prog sig

end SubscriptionSaas.Finance
