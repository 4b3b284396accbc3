import SubscriptionSaas.Payment.PaymentOrderService

/-!
# The debit attempt service

Automatic debits. A submission creates a payment order together with its debit attempt; what the
provider says about the debit, on submission or when it is queried later, is written on both under
their locks. A debit that succeeded settles its payment order.

The jobs that the service enqueues for itself are left out; a job is a call here, and calls may
arrive at any time.
-/

namespace SubscriptionSaas.Payment

open Transaction SubscriptionSaas.Finance

/-- `UNRESOLVED_ATTEMPT_STATUSES`. -/
def unresolved : DebitAttemptStatus → Bool
  | .created | .submitting | .processing | .unknown => true
  | _ => false

/-- What a job of the service has done. -/
inductive DebitAction
  | skipped | queryEnqueued | submitted | pendingQuery | resolved
  deriving DecidableEq

def failedAttemptStatus : DebitAttemptStatus → Bool
  | .failedRetryable | .failedFinal | .cancelled => true
  | _ => false

def attemptStatus (status : DebitProviderStatus) (retrySlot : DebitRetrySlot) :
    DebitAttemptStatus :=
  match status with
  | .processing => .processing
  | .unknown => .unknown
  | .succeeded => .succeeded
  | .failedFinal => .failedFinal
  | .failedRetryable => if retrySlot = .d3 then .failedFinal else .failedRetryable

def providerTransactionMissing (result : DebitProviderResult) : Bool :=
  result.status == .failedRetryable && result.errorCode == some "PROVIDER_TRANSACTION_NOT_FOUND"

/-- There is nothing left to write on the attempt. -/
def settledAlready (attempt : DebitAttempt) (order : PaymentOrder) : Bool :=
  attempt.status == .succeeded || order.paymentStatus == .paid || !unresolved attempt.status

/-- Runs `operation` with the attempt and its payment order locked. -/
def withLockedAttempt {α : Type} (attemptId : Id)
    (operation : DebitAttempt → PaymentOrder → Tx α) : Tx α := do
  match ← select (S := sig) .debitAttempt (fun db => db.debitAttempt? attemptId) with
  | none => fail (S := sig) .debitAttemptMissing
  | some candidate => do
    lockPaymentOrder candidate.paymentOrderId
    lockRow (S := sig) (.debitAttempt attemptId)
    let attempt ← select (S := sig) .debitAttempt fun db => db.debitAttempt? attemptId
    let order ← select (S := sig) .paymentOrder fun db => db.paymentOrder? candidate.paymentOrderId
    match attempt, order with
    | some attempt, some order => operation attempt order
    | _, _ => fail (S := sig) .debitAttemptStateMissing

/-- The two statements that write a debit's outcome on its attempt and its order. -/
def writeDebitOutcome (attempt : DebitAttempt) (patch : DebitAttemptPatch)
    (orderPatch : PaymentOrderPatch) : Tx DebitAttempt := do
  exec (S := sig) (.updateDebitAttempt attempt.id patch)
  let now ← ask (S := sig) .now
  exec (S := sig) (.updatePaymentOrder attempt.paymentOrderId now orderPatch)
  commitTx (S := sig)
  pure (patch.apply attempt)

/-- The attempt as it is. -/
def keepAttempt (attempt : DebitAttempt) : Tx DebitAttempt := do
  commitTx (S := sig)
  pure attempt

def persistUnknown (attemptId : Id) : Tx DebitAttempt :=
  withLockedAttempt attemptId fun attempt order =>
    if settledAlready attempt order then keepAttempt attempt
    else writeDebitOutcome attempt .unknown .debitUnknown

/-- `result.resolvedAt ?? new Date()`. -/
def resolvedAtOrNow (result : DebitProviderResult) : Tx Instant := paidAtOrNow result.resolvedAt

def persistAmountMismatch (attemptId : Id) (result : DebitProviderResult) : Tx DebitAttempt :=
  withLockedAttempt attemptId fun attempt order =>
    if settledAlready attempt order then keepAttempt attempt
    else do
      let resolvedAt ← resolvedAtOrNow result
      writeDebitOutcome attempt
        (.result .failedFinal result.confirmedAmount result.providerTransactionId (some resolvedAt))
        (.debitResult true result.providerTransactionId)

/-- The status of a debit that has not succeeded is written on its attempt and its order. -/
def persistStatus (attemptId : Id) (status : DebitAttemptStatus) (result : DebitProviderResult) :
    Tx DebitAttempt :=
  withLockedAttempt attemptId fun attempt order =>
    if settledAlready attempt order then keepAttempt attempt
    else do
      let now ← ask (S := sig) .now
      let resolvedAt := if unresolved status then none else some (result.resolvedAt.getD now)
      writeDebitOutcome attempt
        (.result status result.confirmedAmount result.providerTransactionId resolvedAt)
        (.debitResult (failedAttemptStatus status) result.providerTransactionId)

/-- A debit that succeeded settles its payment order. -/
def settleDebit (attempt : DebitAttempt) (result : DebitProviderResult) : Tx DebitAttempt := do
  let resolvedAt ← resolvedAtOrNow result
  let _ ← settlePaymentOrder
    { paymentOrderId := attempt.paymentOrderId
      paidAmount := result.confirmedAmount
      paidAt := resolvedAt
      callbackLogId := none
      hasCallbackPayload := true
      eventType := some "AUTO_DEBIT_SUCCESS"
      providerTradeNo := some attempt.providerOutTradeNo
      providerTransactionId := result.providerTransactionId
      debitAttempt := some
        ⟨attempt.id, result.confirmedAmount, result.providerTransactionId, resolvedAt⟩ }
  match ← select (S := sig) .debitAttempt (fun db => db.debitAttempt? attempt.id) with
  | none => fail (S := sig) .debitAttemptMissing
  | some updated => pure updated

def persistProviderResult (attemptId : Id) (result : DebitProviderResult) : Tx DebitAttempt := do
  match ← select (S := sig) .debitAttempt (fun db => db.debitAttempt? attemptId) with
  | none => fail (S := sig) .debitAttemptMissing
  | some current =>
    if current.status == .succeeded then pure current
    else
      let status := attemptStatus result.status current.retrySlot
      if status == .succeeded then
        if result.confirmedAmount != current.requestedAmount then
          persistAmountMismatch current.id result
        else settleDebit current result
      else persistStatus attemptId status result

/-- The request for a debit; the answer may fail to come. -/
def submitDebit (attempt : DebitAttempt) : Tx (Option DebitProviderResult) := do
  exec (S := sig)
    (.submitDebit ⟨attempt.id, attempt.requestedAmount, attempt.providerOutTradeNo⟩)
  commitTx (S := sig)
  ask (S := sig) .submitDebit

/-! ## submitBillDebit -/

inductive PreparedSubmission
  | skipped
  | query (attempt : DebitAttempt)
  | submit (attempt : DebitAttempt)

variable (config : PaymentRuntimeConfig)

/-- The order of an automatic debit. -/
def debitPaymentOrder (bill : ReceivableBill) (provider : PaymentProviderType)
    (providerOutTradeNo : String) (attemptId id : Id) (paymentOrderNo : String) (now : Instant) :
    PaymentOrder :=
  { id := id
    paymentOrderNo := paymentOrderNo
    customerId := some bill.customerId
    orderId := some bill.orderId
    paymentRecordId := none
    provider := provider
    paymentChannel := .wechatAutoDebit
    paymentStatus := .pending
    amount := bill.remainingAmount
    paidAmount := 0
    providerTradeNo := some providerOutTradeNo
    providerPrepayId := none
    providerTransactionId := none
    cashierUrl := none
    cashierUrlExpiresAt := none
    blockedBillIds := []
    paidAt := none
    closedAt := none
    cancelledAt := none
    createdAt := now
    updatedAt := now
    deletedAt := none
    items := [⟨bill.id, bill.remainingAmount, none⟩]
    debitAttempt := some attemptId }

/-- Creates the payment order and the debit attempt of a submission. -/
def createSubmission (bill : ReceivableBill) (idempotencyKey : String) (retrySlot : DebitRetrySlot)
    (provider : PaymentProviderType) : Tx PreparedSubmission := do
  let providerOutTradeNo := config.buildProviderOutTradeNo idempotencyKey
  let attemptId ← ask (S := sig) .uuid
  lockRow (S := sig) (.debitAttempt attemptId)
  let taken ← select (S := sig) .primaryKey fun db => (db.debitAttempt? attemptId).isSome
  ensure (S := sig) (!taken) .primaryKeyTaken
  let order ← insertPaymentOrder (debitPaymentOrder bill provider providerOutTradeNo attemptId)
  let createdAt ← ask (S := sig) .now
  let attempt : DebitAttempt :=
    { id := attemptId
      paymentOrderId := order.id
      billId := bill.id
      status := .submitting
      retrySlot := retrySlot
      requestedAmount := bill.remainingAmount
      confirmedAmount := 0
      providerOutTradeNo := providerOutTradeNo
      providerTransactionId := none
      idempotencyKey := idempotencyKey
      resolvedAt := none
      cancelledAt := none
      createdAt := createdAt }
  exec (S := sig) (.insertDebitAttempt attempt)
  commitTx (S := sig)
  pure (.submit attempt)

/-- Ends the transaction of `prepareSubmission` without a new attempt. -/
def endPreparation (prepared : PreparedSubmission) : Tx PreparedSubmission := do
  commitTx (S := sig)
  pure prepared

/-- A bill that can still be debited. -/
def debitable (bill : ReceivableBill) : Bool :=
  bill.deletedAt.isNone && 0 < bill.remainingAmount && bill.billStatus != .paid &&
    bill.billStatus != .cancelled

/-- The latest attempt on the bill. -/
def latestAttempt (billId : Id) (db : Db) : Option DebitAttempt :=
  ((db.debitAttempts.filter (·.billId == billId)).insertionSort
    fun a b => b.createdAt ≤ a.createdAt).head?

def canStartNextAttempt (latest : DebitAttempt) (retrySlot : DebitRetrySlot) : Bool :=
  latest.status == .failedRetryable ||
    (retrySlot == .manual && (latest.status == .failedFinal || latest.status == .cancelled))

/-- The mandate of the order, if there is an active one, names the provider. -/
def startSubmission (bill : ReceivableBill) (idempotencyKey : String) (retrySlot : DebitRetrySlot) :
    Tx PreparedSubmission := do
  match ← ask (S := sig) .mandate with
  | none => endPreparation .skipped
  | some provider => createSubmission config bill idempotencyKey retrySlot provider

def prepareNextAttempt (bill : ReceivableBill) (idempotencyKey : String)
    (retrySlot : DebitRetrySlot) : Tx PreparedSubmission := do
  match ← select (S := sig) .debitAttempt (latestAttempt bill.id) with
  | none => startSubmission config bill idempotencyKey retrySlot
  | some latest =>
    if unresolved latest.status then endPreparation (.query latest)
    else if canStartNextAttempt latest retrySlot then
      startSubmission config bill idempotencyKey retrySlot
    else endPreparation .skipped

def prepareSubmission (billId : Id) (idempotencyKey : String) (retrySlot : DebitRetrySlot) :
    Tx PreparedSubmission := do
  lockRow (S := sig) (.bill billId)
  match ← select (S := sig) .bills (fun db => (db.bill? billId).filter debitable) with
  | none => endPreparation .skipped
  | some bill => do
    match ← select (S := sig) .debitAttempt
        (fun db => db.debitAttempts.find? (·.idempotencyKey == idempotencyKey)) with
    | some existing =>
      endPreparation (if unresolved existing.status then .query existing else .skipped)
    | none => prepareNextAttempt config bill idempotencyKey retrySlot

/-- What became of an attempt. -/
def outcome (open_ : DebitAction) (attempt : DebitAttempt) : DebitAction :=
  if unresolved attempt.status then open_ else .resolved

def submitBillDebit (billId : Option Id) (idempotencyKey : String) (retrySlot : DebitRetrySlot) :
    Tx DebitAction :=
  match billId with
  | none => pure .skipped
  | some billId => do
    match ← prepareSubmission config billId idempotencyKey retrySlot with
    | .skipped => pure .skipped
    | .query _ => pure .queryEnqueued
    | .submit attempt => do
      match ← submitDebit attempt with
      | none => do
        let _ ← persistUnknown attempt.id
        pure .queryEnqueued
      | some result =>
        if result.providerOutTradeNo != attempt.providerOutTradeNo then do
          let _ ← persistUnknown attempt.id
          pure .queryEnqueued
        else do
          let updated ← persistProviderResult attempt.id result
          pure (outcome .submitted updated)

/-! ## queryDebitAttempt -/

/-- The transaction of `resubmitKnownMissing`; the flag says whether to submit again. -/
def prepareResubmission (attemptId : Id) : Tx (Bool × DebitAttempt) :=
  withLockedAttempt attemptId fun attempt order =>
    if settledAlready attempt order then do
      let attempt ← keepAttempt attempt
      pure (false, attempt)
    else do
      match ← ask (S := sig) .mandate with
      | none => do
        let now ← ask (S := sig) .now
        let cancelled ← writeDebitOutcome attempt (.cancelled now) (.debitCancelled now)
        pure (false, cancelled)
      | some _ => do
        exec (S := sig) (.updateDebitAttempt attempt.id .submitting)
        commitTx (S := sig)
        pure (true, DebitAttemptPatch.submitting.apply attempt)

/-- The provider does not know the debit: it is submitted again under the same name. -/
def resubmitKnownMissing (attemptId : Id) : Tx DebitAction := do
  let (submit, attempt) ← prepareResubmission attemptId
  if submit then
    match ← submitDebit attempt with
    | none => do
      let _ ← persistUnknown attemptId
      pure .pendingQuery
    | some result => do
      let updated ← persistProviderResult attempt.id result
      pure (outcome .pendingQuery updated)
  else pure .resolved

def queryDebitAttempt (attemptId : Id) : Tx DebitAction := do
  match ← select (S := sig) .debitAttempt (fun db => db.debitAttempt? attemptId) with
  | none => pure .skipped
  | some attempt =>
    if !unresolved attempt.status then pure .resolved
    else
      match ← ask (S := sig) .queryDebit with
      | none => do
        let _ ← persistUnknown attempt.id
        pure .pendingQuery
      | some result =>
        if providerTransactionMissing result then resubmitKnownMissing attempt.id
        else if result.providerOutTradeNo != attempt.providerOutTradeNo then do
          let _ ← persistUnknown attempt.id
          pure .pendingQuery
        else do
          let updated ← persistProviderResult attempt.id result
          pure (outcome .pendingQuery updated)

/-! ## The payment operations as calls -/

inductive PaymentCall
  | closeActive (billIds : List Id)
  | createPortal (customerId : Id) (billIds : List Id) (paymentChannel : Option PaymentChannel)
  | startPortal (id customerId : Id)
  | mockPay (id customerId : Id)
  | callback (provider : PaymentProviderType)
  | submitBillDebit (billId : Option Id) (idempotencyKey : String) (retrySlot : DebitRetrySlot)
  | queryDebitAttempt (attemptId : Id)
  /-- An operation of the finance service. -/
  | finance (call : LedgerCall)
  /-- A decision of the closure subsystem. -/
  | closure (facts : ClosureFacts)

def paymentBody : PaymentCall → Tx Unit
  | .closeActive billIds => do let _ ← closeActivePaymentOrdersForBills config billIds
  | .createPortal customerId billIds channel => do
    let _ ← createPortalPaymentOrder config customerId billIds channel
  | .startPortal id customerId => do let _ ← startPortalPayment config id customerId
  | .mockPay id customerId => do let _ ← mockPay config id customerId
  | .callback provider => handleCallback config provider
  | .submitBillDebit billId key slot => do let _ ← submitBillDebit config billId key slot
  | .queryDebitAttempt attemptId => do let _ ← queryDebitAttempt attemptId
  | .finance call => ledgerBody call
  | .closure facts => do
    exec (S := sig) (.setClosure facts)
    commitTx (S := sig)

end SubscriptionSaas.Payment
