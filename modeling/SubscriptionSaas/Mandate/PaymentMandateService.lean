import SubscriptionSaas.Finance.Db

/-!
# The payment mandate service

Mandates for automatic debits. A mandate is created pending; what the provider says about it, when it
is created, synchronised or revoked, is written under the lock of its row, after the row has been read
again. The provider is called outside any transaction, and its answers may be old by the time they are
written.

The scheduler enqueues nothing for a mandate that becomes active, so that part of the write is left
out, and so are the views that the portal and the administration get of a mandate.
-/

namespace SubscriptionSaas.Mandate

open Transaction
open Finance (Id Instant PaymentProviderType updateWhere)

/-! ## The rows -/

inductive PaymentMandateStatus
  | pending | active | suspended | revoked | expired | failed
  deriving DecidableEq

def PaymentMandateStatus.name : PaymentMandateStatus → String
  | .pending => "PENDING"
  | .active => "ACTIVE"
  | .suspended => "SUSPENDED"
  | .revoked => "REVOKED"
  | .expired => "EXPIRED"
  | .failed => "FAILED"

inductive PaymentMandateProviderName
  | disabled | mock | wechatAutoRenew
  deriving DecidableEq

structure AutoDebitConfig where
  enabled : Bool
  provider : PaymentMandateProviderName
  wechatTemplateId : Option String

/-- What the provider wants to be given back; it means nothing to the service. -/
abbrev ProviderSnapshot := List (String × String)

structure RequestSnapshot where
  customerId : Id
  orderId : Id
  providerMode : PaymentMandateProviderName
  revokeRequestedAt : Option Instant := none
  revokeRequestedBy : Option Id := none
  deriving DecidableEq

structure ErrorSnapshot where
  code : Option String
  message : Option String
  deriving DecidableEq

/-- `payment_mandate`. -/
structure PaymentMandate where
  id : Id
  mandateNo : String
  customerId : Id
  orderId : Id
  provider : PaymentProviderType
  providerMode : PaymentMandateProviderName
  providerMandateId : Option String := none
  providerTemplateId : Option String
  status : PaymentMandateStatus
  signedAt : Option Instant := none
  effectiveAt : Option Instant := none
  suspendedAt : Option Instant := none
  revokedAt : Option Instant := none
  expiresAt : Option Instant := none
  lastSyncedAt : Option Instant := none
  requestSnapshot : RequestSnapshot
  responseSnapshot : Option ProviderSnapshot := none
  errorSnapshot : Option ErrorSnapshot := none
  createdBy : Id
  updatedBy : Id
  deriving DecidableEq

/-- `OPEN_MANDATE_STATUSES`. -/
def openMandate : PaymentMandateStatus → Bool
  | .pending | .active | .suspended => true
  | _ => false

/-- `TERMINAL_MANDATE_STATUSES`. -/
def terminal : PaymentMandateStatus → Bool
  | .revoked | .expired | .failed => true
  | _ => false

structure MandateProviderResult where
  effectiveAt : Option Instant
  errorCode : Option String
  errorMessage : Option String
  expiresAt : Option Instant
  providerMandateId : String
  providerSnapshot : ProviderSnapshot
  signedAt : Option Instant
  status : PaymentMandateStatus
  deriving DecidableEq

/-! ## The statements -/

/-- A text that is there and not empty. -/
def truthy (text : Option String) : Bool := text.any (· != "")

def MandateProviderResult.errorSnapshot (result : MandateProviderResult) : Option ErrorSnapshot :=
  if truthy result.errorCode || truthy result.errorMessage then
    some ⟨result.errorCode, result.errorMessage⟩
  else none

/-- `UPDATE payment_mandate`, with the columns that each statement sets. -/
inductive MandatePatch
  | result (now : Instant) (result : MandateProviderResult)
  | failed (now : Instant) (message : String)
  | revocationRequested (now : Instant)
  | revocationFailed (now : Instant) (message : String)
  deriving DecidableEq

def MandatePatch.apply (updatedBy : Id) (mandate : PaymentMandate) : MandatePatch → PaymentMandate
  | .result now answer => { mandate with
      effectiveAt := answer.effectiveAt
      errorSnapshot := answer.errorSnapshot
      expiresAt := answer.expiresAt
      lastSyncedAt := some now
      providerMandateId := some answer.providerMandateId
      responseSnapshot := some answer.providerSnapshot
      signedAt := answer.signedAt
      status := answer.status
      suspendedAt := if answer.status = .suspended then some now else none
      revokedAt := if answer.status = .revoked then some now else none
      updatedBy := updatedBy }
  | .failed now message => { mandate with
      errorSnapshot := some ⟨none, some message⟩
      lastSyncedAt := some now
      status := .failed
      updatedBy := updatedBy }
  | .revocationRequested now => { mandate with
      requestSnapshot := { mandate.requestSnapshot with
        revokeRequestedAt := some now
        revokeRequestedBy := some updatedBy }
      updatedBy := updatedBy }
  | .revocationFailed now message => { mandate with
      errorSnapshot := some ⟨some "MANDATE_REVOKE_RESULT_UNKNOWN", some message⟩
      lastSyncedAt := some now
      updatedBy := updatedBy }

structure Db where
  mandates : List PaymentMandate
  deriving DecidableEq

def Db.mandate? (db : Db) (id : Id) : Option PaymentMandate := db.mandates.find? (·.id == id)

inductive Write
  | insertMandate (mandate : PaymentMandate)
  | updateMandate (id updatedBy : Id) (patch : MandatePatch)
  deriving DecidableEq

def Write.apply (db : Db) : Write → Db
  | .insertMandate mandate => { db with mandates := db.mandates ++ [mandate] }
  | .updateMandate id updatedBy patch => { db with
      mandates := updateWhere (·.id == id) (patch.apply updatedBy ·) db.mandates }

/-- The row of a mandate, and the place of an order in the index of open mandates. -/
inductive Row
  | mandate (id : Id)
  | openMandate (orderId : Id)
  deriving DecidableEq

inductive Tag
  | mandate | openMandate | uniqueIndex
  deriving DecidableEq

inductive Err
  | notFound (message : String)
  | conflict (message : String)
  | serviceUnavailable (message : String)
  /-- The provider has thrown. -/
  | provider (message : String)
  /-- The message of the database for a unique index. -/
  | uniqueConstraint (message : String)
  | auditFailed
  deriving DecidableEq

/-- The message of an error, as far as it is stored. -/
def safeErrorMessage : Err → String
  | .notFound message | .conflict message | .serviceUnavailable message | .provider message
  | .uniqueConstraint message => .ofList (message.toList.take 512)
  | .auditFailed => "UNKNOWN_ERROR"

/-- Questions put to the outside world; a call of the provider may throw. -/
inductive Ask
  | uuid
  | businessNo
  | now
  /-- The order is active and belongs to the customer. -/
  | activeOrder (orderId customerId : Id)
  | createMandate (mandateNo providerTemplateId : String)
  | queryMandate (providerMandateId : String) (providerSnapshot : ProviderSnapshot)
  | revokeMandate (providerMandateId : String) (providerSnapshot : ProviderSnapshot)
  /-- The audit entry is written. -/
  | audit
  deriving DecidableEq

@[reducible] def Ans : Ask → Type
  | .uuid => Id
  | .businessNo => String
  | .now => Instant
  | .activeOrder _ _ => Bool
  | .createMandate _ _ => Except String MandateProviderResult
  | .queryMandate _ _ => Except String MandateProviderResult
  | .revokeMandate _ _ => Except String MandateProviderResult
  | .audit => Bool

abbrev sig : Transaction.Sig where
  Db := Db
  Write := Write
  apply w db := w.apply db
  Row := Row
  Tag := Tag
  Ask := Ask
  Ans := Ans
  Err := Err

/-- A program of the mandate service. -/
abbrev Tx := Transaction.Prog sig

/-! ## The parts of the service -/

/-- What the provider says, or what it throws. -/
def providerResult {α : Type} : Except String α → Tx α
  | .ok result => pure result
  | .error message => fail (S := sig) (.provider message)

def writeAudit : Tx Unit := do
  let written ← ask (S := sig) .audit
  ensure (S := sig) written .auditFailed

def mandateMissing : Err := .notFound "支付授权不存在。"

def findMandateOrThrow (id : Id) : Tx PaymentMandate := do
  match ← select (S := sig) .mandate (·.mandate? id) with
  | none => fail (S := sig) mandateMissing
  | some mandate => pure mandate

/-- The statuses that a mandate may get from the provider. -/
def allowed : PaymentMandateStatus → List PaymentMandateStatus
  | .active => [.suspended, .revoked, .expired]
  | .expired => []
  | .failed => []
  | .pending => [.active, .failed, .revoked, .expired]
  | .revoked => []
  | .suspended => [.active, .revoked, .expired]

def assertMandateTransition (current next : PaymentMandateStatus) : Tx Unit :=
  if current = next then pure ()
  else ensure (S := sig) ((allowed current).contains next)
    (.conflict s!"支付授权状态不可从 {current.name} 变更为 {next.name}。")

def providerType (config : AutoDebitConfig) : PaymentProviderType :=
  if config.provider = .mock then .mock else .wechatPay

def openMandateExists : Err := .conflict "该订单已有待确认或生效中的支付授权。"

def hasOpenMandate (orderId : Id) (db : Db) : Bool :=
  db.mandates.any fun mandate => mandate.orderId == orderId && openMandate mandate.status

/-- The mandate as it is created. -/
def pendingMandate (config : AutoDebitConfig) (orderId customerId actorId id : Id)
    (mandateNo : String) : PaymentMandate :=
  { id := id
    mandateNo := mandateNo
    customerId := customerId
    orderId := orderId
    provider := providerType config
    providerMode := config.provider
    providerTemplateId := config.wechatTemplateId
    status := .pending
    requestSnapshot := ⟨customerId, orderId, config.provider, none, none⟩
    createdBy := actorId
    updatedBy := actorId }

/-- What follows the choice of the id is one `INSERT`: it waits for the transaction that creates
another open mandate of the order, and an index that it violates is reported as such a mandate. -/
def createPendingMandate (config : AutoDebitConfig) (orderId customerId actorId : Id) :
    Tx PaymentMandate := do
  let order ← ask (S := sig) (.activeOrder orderId customerId)
  ensure (S := sig) order (.notFound "可开通自动扣款的订单不存在。")
  let existing ← select (S := sig) .openMandate (hasOpenMandate orderId)
  ensure (S := sig) (!existing) openMandateExists
  let id ← ask (S := sig) .uuid
  let mandateNo ← ask (S := sig) .businessNo
  lockRow (S := sig) (.mandate id)
  let taken ← select (S := sig) .uniqueIndex fun db => (db.mandate? id).isSome ||
    db.mandates.any (·.mandateNo == mandateNo)
  ensure (S := sig) (!taken) openMandateExists
  lockRow (S := sig) (.openMandate orderId)
  let another ← select (S := sig) .openMandate (hasOpenMandate orderId)
  ensure (S := sig) (!another) openMandateExists
  let pending := pendingMandate config orderId customerId actorId id mandateNo
  exec (S := sig) (.insertMandate pending)
  commitTx (S := sig)
  pure pending

/-- Another mandate has the provider's id. -/
def providerMandateTaken (mandate : PaymentMandate) (providerMandateId : String) (db : Db) : Bool :=
  db.mandates.any fun other => other.id != mandate.id && other.provider == mandate.provider &&
    other.providerMandateId == some providerMandateId

def persistProviderResult (current : PaymentMandate) (result : MandateProviderResult)
    (updatedBy : Id) : Tx PaymentMandate := do
  let now ← ask (S := sig) .now
  lockRow (S := sig) (.mandate current.id)
  match ← select (S := sig) .mandate (·.mandate? current.id) with
  | none => fail (S := sig) mandateMissing
  | some locked =>
    if terminal locked.status then do
      commitTx (S := sig)
      pure locked
    else do
      assertMandateTransition locked.status result.status
      let taken ← select (S := sig) .uniqueIndex (providerMandateTaken locked result.providerMandateId)
      ensure (S := sig) (!taken) (.uniqueConstraint "Unique constraint failed")
      exec (S := sig) (.updateMandate current.id updatedBy (.result now result))
      commitTx (S := sig)
      pure (MandatePatch.apply updatedBy locked (.result now result))

/-- `UPDATE … WHERE id AND status`, a transaction of its own: the row is locked before its status is
looked at for the last time. -/
def updateMandateWhere (id updatedBy : Id) (p : PaymentMandateStatus → Bool) (patch : MandatePatch) :
    Tx Unit := do
  lockRow (S := sig) (.mandate id)
  let found ← select (S := sig) .mandate fun db => (db.mandate? id).any (p ·.status)
  if found then exec (S := sig) (.updateMandate id updatedBy patch) else pure ()
  commitTx (S := sig)

def failPendingMandate (id : Id) (error : Err) (updatedBy : Id) : Tx PaymentMandate := do
  let now ← ask (S := sig) .now
  updateMandateWhere id updatedBy (· == .pending) (.failed now (safeErrorMessage error))
  findMandateOrThrow id

def persistRevocationIntent (id : Id) (customerId : Option Id) (actorId : Id) :
    Tx PaymentMandate := do
  lockRow (S := sig) (.mandate id)
  match ← select (S := sig) .mandate (fun db =>
      (db.mandate? id).filter fun mandate => customerId.all (· == mandate.customerId)) with
  | none => fail (S := sig) mandateMissing
  | some current =>
    if current.status = .revoked then do
      commitTx (S := sig)
      pure current
    else do
      ensure (S := sig) (!terminal current.status) (.conflict "该支付授权已终止，不能重复解约。")
      let now ← ask (S := sig) .now
      exec (S := sig) (.updateMandate id actorId (.revocationRequested now))
      commitTx (S := sig)
      pure (MandatePatch.apply actorId current (.revocationRequested now))

def persistRevocationFailure (id : Id) (error : Err) (updatedBy : Id) : Tx PaymentMandate := do
  let now ← ask (S := sig) .now
  updateMandateWhere id updatedBy (!terminal ·) (.revocationFailed now (safeErrorMessage error))
  findMandateOrThrow id

def requiredProviderMandateId (mandate : PaymentMandate) : Tx String :=
  match mandate.providerMandateId.filter (· != "") with
  | none => fail (S := sig) (.conflict "支付授权尚未取得渠道协议编号。")
  | some id => pure id

def providerSnapshot (mandate : PaymentMandate) : Tx ProviderSnapshot :=
  match mandate.responseSnapshot with
  | none => fail (S := sig) (.conflict "支付授权缺少可查询的渠道快照。")
  | some snapshot => pure snapshot

/-! ## The operations -/

variable (config : AutoDebitConfig)

def ensureEnabled : Tx Unit :=
  ensure (S := sig) config.enabled (.serviceUnavailable "自动扣款暂未开通。")

def createPortalMandate (orderId customerId customerAccountId : Id) : Tx PaymentMandate := do
  ensureEnabled config
  let pending ← createPendingMandate config orderId customerId customerAccountId
  writeAudit
  let updated ← Prog.catchErr
    (do
      let answer ← ask (S := sig) (.createMandate pending.mandateNo
        (pending.providerTemplateId.getD "mock-auto-debit-template"))
      let result ← providerResult answer
      persistProviderResult pending result customerAccountId)
    fun error => do
      let _ ← failPendingMandate pending.id error customerAccountId
      writeAudit
      fail (S := sig) (.serviceUnavailable "支付授权服务暂不可用，请稍后重试。")
  writeAudit
  pure updated

def syncAdminMandate (id userId : Id) : Tx PaymentMandate := do
  ensureEnabled config
  let current ← findMandateOrThrow id
  ensure (S := sig) (!terminal current.status) (.conflict "终态支付授权不可重新激活。")
  let providerMandateId ← requiredProviderMandateId current
  let snapshot ← providerSnapshot current
  let answer ← ask (S := sig) (.queryMandate providerMandateId snapshot)
  let result ← providerResult answer
  let updated ← persistProviderResult current result userId
  writeAudit
  pure updated

def revokeMandate (id : Id) (customerId : Option Id) (actorId : Id) : Tx PaymentMandate := do
  ensureEnabled config
  let current ← persistRevocationIntent id customerId actorId
  if current.status = .revoked then pure current
  else do
    writeAudit
    let result ← Prog.catchErr
      (do
        let providerMandateId ← requiredProviderMandateId current
        let snapshot ← providerSnapshot current
        let answer ← ask (S := sig) (.revokeMandate providerMandateId snapshot)
        providerResult answer)
      fun error => do
        let _ ← persistRevocationFailure id error actorId
        writeAudit
        fail (S := sig) (.serviceUnavailable "支付授权解约结果暂不明确，请稍后同步状态。")
    let updated ← persistProviderResult current result actorId
    writeAudit
    pure updated

inductive MandateCall
  | createPortalMandate (orderId customerId customerAccountId : Id)
  | revokePortalMandate (id customerId customerAccountId : Id)
  | syncAdminMandate (id userId : Id)
  | revokeAdminMandate (id userId : Id)
  deriving DecidableEq

def mandateBody : MandateCall → Tx Unit
  | .createPortalMandate orderId customerId accountId => do
    let _ ← createPortalMandate config orderId customerId accountId
  | .revokePortalMandate id customerId accountId => do
    let _ ← revokeMandate config id (some customerId) accountId
  | .syncAdminMandate id userId => do let _ ← syncAdminMandate config id userId
  | .revokeAdminMandate id userId => do let _ ← revokeMandate config id none userId

end SubscriptionSaas.Mandate
