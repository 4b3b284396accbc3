import SubscriptionSaas.Finance.Service

/-!
# The payment order service

Payment orders from their creation to their settlement or closing: the portal creates and starts
them, a payment provider reports on them, and the closure subsystem closes them. A call to the
provider happens outside any transaction, so between what a service has read and what it writes
anything may have happened.

Views, audit entries and the request context of a call are left out: nothing reads them back.
-/

namespace SubscriptionSaas.Payment

open Transaction SubscriptionSaas.Finance

/-- `readPaymentRuntimeConfigFromConfig`, and the name given to a debit, a hash of its key. -/
structure PaymentRuntimeConfig where
  providerType : PaymentProviderType
  mockEnabled : Bool
  wechatPayEnabled : Bool
  defaultChannel : PaymentChannel
  buildProviderOutTradeNo : String → String

/-- A JavaScript string that counts as true. -/
def truthy (s : Option String) : Bool := s.any (· != "")

/-- `PAYABLE_BILL_STATUSES`. -/
def payableBillStatus : BillStatus → Bool
  | .pending | .partiallyPaid | .overdue => true
  | .paid | .cancelled => false

/-- `REUSABLE_PAYMENT_ORDER_STATUSES` and `PAYABLE_PAYMENT_ORDER_STATUSES`. -/
def payable : PaymentOrderStatus → Bool
  | .created | .pending => true
  | .paid | .failed | .closed | .cancelled | .expired => false

/-- `CALLBACK_PAID_EVENTS`. -/
def callbackPaidEvents : List String :=
  ["PAID", "PAYMENT_SUCCESS", "PAY_SUCCESS", "TRANSACTION_SUCCESS", "SUCCESS",
    "MOCK_PAYMENT_SUCCESS", "mock.payment.success"]

def isPaidCallbackEvent (eventType : Option String) : Bool :=
  eventType.any callbackPaidEvents.contains

/-- `value.getTime() > Date.now()`. -/
def isFuture (value : Option Instant) (now : Instant) : Bool := value.any (now < ·)

/-- Each value once. -/
def uniqueStrings (ids : List Id) : List Id := ids.dedup

def sorted (ids : List Id) : List Id := ids.insertionSort (· ≤ ·)

variable (config : PaymentRuntimeConfig)

/-- `assertMockProviderAvailable`. -/
def assertMockProviderAvailable : Tx Unit :=
  ensure (S := sig) (config.providerType == .mock && config.mockEnabled) .mockPaymentDisabled

def assertPaymentProviderAvailable : PaymentChannel → Tx Unit
  | .mock => assertMockProviderAvailable config
  | .wechatJsapi =>
    ensure (S := sig) (config.providerType == .wechatPay && config.wechatPayEnabled)
      .wechatPayNotEnabled
  | _ => fail (S := sig) .paymentChannelNotSupported

/-! ## Lookups -/

def findPaymentOrderOrThrow (t : Tag) (id : Id) : Tx PaymentOrder := do
  match ← select (S := sig) t (fun db => (db.paymentOrder? id).filter (·.deletedAt.isNone)) with
  | none => fail (S := sig) .paymentOrderNotFound
  | some order => pure order

/-- Orders of automatic debits do not exist for the portal. -/
def findPortalPaymentOrderOrThrow (id customerId : Id) : Tx PaymentOrder := do
  match ← select (S := sig) .paymentOrder (fun db => (db.paymentOrder? id).filter fun o =>
      o.customerId == some customerId && o.debitAttempt.isNone && o.deletedAt.isNone &&
        o.paymentChannel != .wechatAutoDebit) with
  | none => fail (S := sig) .paymentOrderNotFound
  | some order => pure order

/-- The bills of the customer, by due date and creation. -/
def loadPayableBillsForPayment (customerId : Id) (billIds : List Id) : Tx (List ReceivableBill) :=
  select (S := sig) .bills fun db =>
    ((billIds.filterMap db.bill?).filter fun b =>
      b.customerId == customerId && b.deletedAt.isNone).insertionSort fun a b =>
        a.dueDate < b.dueDate ∨ a.dueDate = b.dueDate ∧ a.createdAt ≤ b.createdAt

def assertBillsCanCreatePaymentOrder (bills : List ReceivableBill) (billIds : List Id) :
    Tx Unit := do
  ensure (S := sig) (bills.length == billIds.length) .billsNotFound
  ensure (S := sig)
    (bills.all fun b => payableBillStatus b.billStatus && 0 < b.remainingAmount) .billsNotPayable
  ensure (S := sig) ((bills.map (·.orderId)).dedup.length == 1) .billsOfSeveralOrders

/-- A dispute counts until it is decided against the customer; a withdrawn one counts as well. -/
def portalDispute (billIds : List Id) (f : ClosureFacts) : Bool :=
  f.disputes.any fun d => d.billId.any billIds.contains &&
    (d.decision.isNone || d.decision == some .acceptedByPlatform)

def portalLegalDisposition (billIds : List Id) (f : ClosureFacts) : Bool :=
  f.dispositions.any fun d =>
    billIds.contains d.billId && d.disposition == .legalCollection && !d.superseded

def portalLegalCase (billIds : List Id) (f : ClosureFacts) : Bool :=
  f.legalCases.any fun c => billIds.contains c.billId && c.closedAt.isNone

/-- The three reads of governed facts, one after the other. -/
def assertNotGoverned (billIds : List Id) : Tx Unit := do
  let dispute ← select (S := sig) .closureDisputes fun db => portalDispute billIds db.closure
  let disposition ← select (S := sig) .closureDispositions fun db =>
    portalLegalDisposition billIds db.closure
  let legalCase ← select (S := sig) .closureLegalCases fun db => portalLegalCase billIds db.closure
  ensure (S := sig) (!(dispute || disposition || legalCase)) .governedClosureBills

/-- The same reads before an order is created, with a message for each outcome. -/
def assertNotGovernedBeforeCreate (billIds : List Id) : Tx Unit := do
  let dispute ← select (S := sig) .closureDisputes fun db => portalDispute billIds db.closure
  ensure (S := sig) (!dispute) .disputedClosureBills
  let disposition ← select (S := sig) .closureDispositions fun db =>
    portalLegalDisposition billIds db.closure
  let legalCase ← select (S := sig) .closureLegalCases fun db => portalLegalCase billIds db.closure
  ensure (S := sig) (!(disposition || legalCase)) .legalCollectionBills

/-- The latest open order of the customer for exactly these bills. -/
def reusableOrder (customerId : Id) (billIds : List Id) (channel : PaymentChannel) (db : Db) :
    Option PaymentOrder :=
  ((db.paymentOrders.filter fun o => o.customerId == some customerId && o.debitAttempt.isNone &&
    o.deletedAt.isNone && o.paymentChannel == channel && payable o.paymentStatus).insertionSort
      fun a b => b.createdAt ≤ a.createdAt).find? fun o => sorted o.billIds == sorted billIds

/-! ## closeActivePaymentOrdersForBills -/

def activeOrders (billIds : List Id) (db : Db) : List PaymentOrder :=
  (db.paymentOrders.filter fun o => o.debitAttempt.isNone && o.deletedAt.isNone &&
    o.billIds.any billIds.contains && payable o.paymentStatus).insertionSort
      fun a b => a.createdAt ≤ b.createdAt

/-- The provider knows of the order. -/
def remoteTransactionExists (order : PaymentOrder) : Bool :=
  !(order.paymentStatus == .created && !truthy order.providerTradeNo &&
    !truthy order.providerPrepayId && !truthy order.cashierUrl)

def closeRemoteTransaction (order : PaymentOrder) : Tx Unit :=
  if remoteTransactionExists order then do
    let closed ← ask (S := sig) .closePayment
    ensure (S := sig) closed .providerFailed
  else pure ()

/-- Closes one order under its lock, the call to the provider included. -/
def closePaymentOrder (paymentOrderId : Id) : Tx Bool := do
  lockPaymentOrder paymentOrderId
  match ← select (S := sig) .paymentOrder
      (fun db => (db.paymentOrder? paymentOrderId).filter (·.deletedAt.isNone)) with
  | none => do
    commitTx (S := sig)
    pure false
  | some locked => do
    ensure (S := sig) (locked.paymentStatus != .paid) .paymentSettledDuringClose
    if payable locked.paymentStatus then do
      ensure (S := sig) (locked.provider == config.providerType) .paymentProviderCloseUnavailable
      closeRemoteTransaction locked
      let closedAt ← ask (S := sig) .now
      let updatedAt ← ask (S := sig) .now
      exec (S := sig) (.updatePaymentOrder locked.id updatedAt (.closed closedAt))
      commitTx (S := sig)
      pure true
    else do
      commitTx (S := sig)
      pure false

def closePaymentOrders : List PaymentOrder → Tx (List Id)
  | [] => pure []
  | order :: orders => do
    let closed ← closePaymentOrder config order.id
    let closedIds ← closePaymentOrders orders
    pure (if closed then order.id :: closedIds else closedIds)

def closeActivePaymentOrdersForBills (billIds : List Id) : Tx (List Id) := do
  let orders ← select (S := sig) .paymentOrders (activeOrders (uniqueStrings billIds))
  let closedIds ← closePaymentOrders config orders
  pure (sorted closedIds)

/-! ## refreshProviderPayment -/

/-- A payment by WeChat needs the customer's binding to WeChat; without it the order stays as it
is. -/
def wechatBound (order : PaymentOrder) : Tx Bool :=
  if order.paymentChannel == .wechatJsapi then ask (S := sig) .openId else pure true

/-- Writes the provider's answer, unless the order has changed since it was read. -/
def writeProviderPayment (order : PaymentOrder) (result : CreatePaymentResult) :
    Tx (Option PaymentOrder) := do
  lockPaymentOrder order.id
  match ← select (S := sig) .paymentOrder
      (fun db => (db.paymentOrder? order.id).filter (·.deletedAt.isNone)) with
  | none => do
    commitTx (S := sig)
    pure none
  | some current =>
    if current.paymentStatus == order.paymentStatus && current.updatedAt == order.updatedAt then do
      let now ← ask (S := sig) .now
      let patch := PaymentOrderPatch.refreshed result.cashierUrl result.cashierUrlExpiresAt
        result.providerPrepayId result.providerTradeNo
      exec (S := sig) (.updatePaymentOrder order.id now patch)
      commitTx (S := sig)
      pure (some (patch.apply now current))
    else do
      commitTx (S := sig)
      pure none

/-- The order is read again, the provider is called outside any transaction, and its answer is
written under a lock. Only an order that is paid is left alone. -/
def refreshProviderPayment (paymentOrderId : Id) : Tx PaymentOrder := do
  let order ← findPaymentOrderOrThrow .refreshOrder paymentOrderId
  if order.paymentStatus == .paid then pure order
  else do
    let bound ← wechatBound order
    if !bound then pure order
    else
      match ← ask (S := sig) .createPayment with
      | none => fail (S := sig) .providerFailed
      | some result =>
        match ← writeProviderPayment order result with
        | some updated => pure updated
        | none => do
          let closed ← ask (S := sig) .closePayment
          ensure (S := sig) closed .providerFailed
          fail (S := sig) .paymentOrderClosedDuringProviderCreate

/-- An order whose cashier page is still open is used as it is. -/
def reuseOrRefresh (order : PaymentOrder) : Tx PaymentOrder := do
  let now ← ask (S := sig) .now
  if truthy order.cashierUrl && isFuture order.cashierUrlExpiresAt now then pure order
  else refreshProviderPayment order.id

/-! ## createPortalPaymentOrder, startPortalPayment -/

/-- Inserts the order under a fresh id and number. The source tries again with another number when the
number is taken; here that is an error. -/
def insertPaymentOrder (mk : Id → String → Instant → PaymentOrder) : Tx PaymentOrder := do
  let id ← ask (S := sig) .uuid
  let paymentOrderNo ← ask (S := sig) .businessNo
  let now ← ask (S := sig) .now
  lockRow (S := sig) (.paymentOrder id)
  let taken ← select (S := sig) .primaryKey fun db => (db.paymentOrder? id).isSome ||
    db.paymentOrders.any (·.paymentOrderNo == paymentOrderNo)
  ensure (S := sig) (!taken) .primaryKeyTaken
  exec (S := sig) (.insertPaymentOrder (mk id paymentOrderNo now))
  pure (mk id paymentOrderNo now)

/-- The portal's payment order for its bills. -/
def portalPaymentOrder (customerId : Id) (bills : List ReceivableBill) (channel : PaymentChannel)
    (id : Id) (paymentOrderNo : String) (now : Instant) : PaymentOrder :=
  { id := id
    paymentOrderNo := paymentOrderNo
    customerId := some customerId
    orderId := bills.head?.map (·.orderId)
    paymentRecordId := none
    provider := config.providerType
    paymentChannel := channel
    paymentStatus := .created
    amount := (bills.map (·.remainingAmount)).sum
    paidAmount := 0
    providerTradeNo := none
    providerPrepayId := none
    providerTransactionId := none
    cashierUrl := none
    cashierUrlExpiresAt := none
    blockedBillIds := []
    paidAt := none
    closedAt := none
    cancelledAt := none
    createdAt := now
    updatedAt := now
    deletedAt := none
    items := bills.map fun b => ⟨b.id, b.remainingAmount, none⟩
    debitAttempt := none }

/-- The transaction of `createPortalPaymentOrder`; the flag says whether the order is new. -/
def createOrReusePaymentOrder (customerId : Id) (billIds : List Id) (channel : PaymentChannel) :
    Tx (Bool × PaymentOrder) := do
  lockReceivableBills billIds
  let lockedBills ← loadPayableBillsForPayment customerId billIds
  assertBillsCanCreatePaymentOrder lockedBills billIds
  assertNotGoverned billIds
  match ← select (S := sig) .paymentOrders (reusableOrder customerId billIds channel) with
  | some order => do
    commitTx (S := sig)
    pure (false, order)
  | none => do
    let order ← insertPaymentOrder (portalPaymentOrder config customerId lockedBills channel)
    commitTx (S := sig)
    pure (true, order)

def createPortalPaymentOrder (customerId : Id) (billIds : List Id)
    (paymentChannel : Option PaymentChannel) : Tx PaymentOrder := do
  let billIds := uniqueStrings billIds
  let channel := paymentChannel.getD config.defaultChannel
  assertPaymentProviderAvailable config channel
  let bills ← loadPayableBillsForPayment customerId billIds
  assertBillsCanCreatePaymentOrder bills billIds
  assertNotGovernedBeforeCreate billIds
  match ← select (S := sig) .paymentOrders (reusableOrder customerId billIds channel) with
  | some existing => reuseOrRefresh existing
  | none => do
    let (created, order) ← createOrReusePaymentOrder config customerId billIds channel
    if created then refreshProviderPayment order.id else reuseOrRefresh order

def startPortalPayment (id customerId : Id) : Tx PaymentOrder := do
  let order ← findPortalPaymentOrderOrThrow id customerId
  assertPaymentProviderAvailable config order.paymentChannel
  if order.paymentStatus == .paid then pure order
  else do
    ensure (S := sig) (payable order.paymentStatus) .paymentOrderNotPayable
    assertNotGoverned order.billIds
    reuseOrRefresh order

/-! ## Completing a payment -/

/-- The options of `completePaymentOrder`. -/
structure CompleteOptions where
  callbackLogId : Option Id
  hasCallbackPayload : Bool
  eventType : Option String
  paidAmount : Option Int
  paidAt : Option Instant
  providerTradeNo : Option String
  providerTransactionId : Option String

/-- `UPDATE payment_callback_log`, a transaction of its own. -/
def updateCallbackLog (id : Id) (patch : CallbackLogPatch) : Tx Unit := do
  exec (S := sig) (.updateCallbackLog id patch)
  commitTx (S := sig)

def markCallbackHandled (logId : Option Id) (paymentOrderId : Id) : Tx Unit :=
  match logId with
  | none => pure ()
  | some id => do
    let now ← ask (S := sig) .now
    updateCallbackLog id (.handled now paymentOrderId)

/-- `options.paidAt ?? new Date()`. -/
def paidAtOrNow (paidAt : Option Instant) : Tx Instant :=
  match paidAt with
  | some t => pure t
  | none => ask (S := sig) .now

def completePaymentOrder (paymentOrderId : Id) (options : CompleteOptions) : Tx PaymentOrder := do
  let order ← findPaymentOrderOrThrow .paymentOrder paymentOrderId
  let paidAmount := options.paidAmount.getD order.amount
  ensure (S := sig) (paidAmount == order.amount) .callbackAmountMismatch
  if order.paymentStatus == .paid then do
    markCallbackHandled options.callbackLogId order.id
    pure order
  else do
    ensure (S := sig) (payable order.paymentStatus ||
      (options.callbackLogId.isSome && order.paymentStatus == .closed)) .paymentOrderNotCompletable
    let operator ← ask (S := sig) .operator
    ensure (S := sig) operator .operatorMissing
    let paidAt ← paidAtOrNow options.paidAt
    let _ ← settlePaymentOrder
      { paymentOrderId := order.id
        paidAmount := paidAmount
        paidAt := paidAt
        callbackLogId := options.callbackLogId
        hasCallbackPayload := options.hasCallbackPayload
        eventType := options.eventType
        providerTradeNo := options.providerTradeNo <|> order.providerTradeNo
        providerTransactionId := options.providerTransactionId <|> order.providerTransactionId
        debitAttempt := none }
    findPaymentOrderOrThrow .paymentOrder order.id

def mockPay (id customerId : Id) : Tx PaymentOrder := do
  assertMockProviderAvailable config
  let order ← findPortalPaymentOrderOrThrow id customerId
  let paidAt ← ask (S := sig) .now
  completePaymentOrder order.id
    { callbackLogId := none
      hasCallbackPayload := true
      eventType := some "mock.payment.success"
      paidAmount := some order.amount
      paidAt := some paidAt
      providerTradeNo := order.providerTradeNo <|> some ("mock_" ++ order.paymentOrderNo)
      providerTransactionId := some ("mock_txn_" ++ order.paymentOrderNo) }

/-! ## handleCallback -/

/-- The order a provider speaks of: by its trade number, which may be the order's own number, else by
its transaction. -/
def providerOrder (result : VerifyPaymentCallbackResult) (provider : PaymentProviderType)
    (db : Db) : Option PaymentOrder :=
  let find (p : PaymentOrder → Bool) : Option PaymentOrder :=
    db.paymentOrders.find? fun o => o.deletedAt.isNone && o.provider == provider && p o
  (if truthy result.providerTradeNo then
      find (·.providerTradeNo == result.providerTradeNo) <|>
        find (some ·.paymentOrderNo == result.providerTradeNo)
    else none) <|>
    if truthy result.providerTransactionId then
      find (·.providerTransactionId == result.providerTransactionId)
    else none

/-- The part of `handleCallback` after the provider has verified the callback. -/
def completeVerifiedCallback (logId : Id) (provider : PaymentProviderType)
    (result : VerifyPaymentCallbackResult) : Tx Unit := do
  match ← select (S := sig) .paymentOrders (providerOrder result provider) with
  | none => updateCallbackLog logId (.failed .orderNotFound)
  | some order => do
    updateCallbackLog logId (.order order.id)
    if isPaidCallbackEvent result.eventType then do
      let _ ← completePaymentOrder order.id
        { callbackLogId := some logId
          hasCallbackPayload := true
          eventType := result.eventType
          paidAmount := result.paidAmount
          paidAt := result.paidAt
          providerTradeNo := result.providerTradeNo
          providerTransactionId := result.providerTransactionId }
    else pure ()

def processCallback (logId : Id) (provider : PaymentProviderType) : Tx Unit :=
  if provider != config.providerType then updateCallbackLog logId (.rejected .providerMismatch)
  else if provider == .mock && !config.mockEnabled then
    updateCallbackLog logId (.rejected .mockDisabled)
  else do
    match ← ask (S := sig) .verifyCallback with
    | none => fail (S := sig) .providerFailed
    | some result => do
      updateCallbackLog logId (.verdict result.errorMessage result.eventType result.providerTradeNo
        result.providerTransactionId result.verified)
      if result.verified then completeVerifiedCallback logId provider result else pure ()

/-- Every callback leaves a log row; whatever goes wrong afterwards is noted there. -/
def handleCallback (provider : PaymentProviderType) : Tx Unit := do
  let logId ← ask (S := sig) .uuid
  exec (S := sig) (.insertCallbackLog
    { id := logId
      paymentOrderId := none
      provider := provider
      eventType := none
      providerTradeNo := none
      providerTransactionId := none
      verified := false
      handled := false
      handledAt := none
      errorMessage := none })
  commitTx (S := sig)
  (processCallback config logId provider).catchErr fun e => do
    updateCallbackLog logId (.failed (.error e))
    fail (S := sig) e

end SubscriptionSaas.Payment
