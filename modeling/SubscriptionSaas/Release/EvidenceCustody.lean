import SubscriptionSaas.Release.ApprovalRevocations

/-!
# Evidence in custody

`custodyEvidence` puts a value into an immutable store under its digest, reads it back and puts a
receipt of that beside it. The store creates an object or reports that its key is taken; it answers
with facts of its own about the object, from which the receipt takes the time of the upload and the
retention. The process can stop and the store can fail at every step, which ends the call.
-/

namespace SubscriptionSaas.Release

open Results

inductive CustodyError
  | inputInvalid | policyInvalid
  | secretDetected (path : String)
  | valueInvalid | canonicalJsonRefused | clockInvalid | overwriteRefused | storageReceiptInvalid
  | readbackMissing | readbackDigestMismatch | receiptIdInvalid | receiptMissing
  | receiptReadbackDigestMismatch | receiptReadbackInvalid | receiptIncomplete
  /-- The `RangeError` of `toISOString`. -/
  | rangeError
  /-- The store has not answered, or the process has stopped. -/
  | interrupted
  deriving DecidableEq

/-! ## Records -/

/-- A value of the caller. A number is finite and is given by its text; what is no JSON is `other`. -/
inductive Json
  | null
  | bool (value : Bool)
  | number (text : String)
  | text (text : String)
  | array (entries : List Json)
  | object (entries : List (String × Json))
  | other

structure ReceiptPolicy where
  schemaId : String
  days : Int
  legacy : Bool
  deriving DecidableEq

structure EvidencePolicy where
  owner : String
  readers : List String
  retentionDays : Int
  expiryDisposition : String
  deriving DecidableEq

/-- The argument of `custodyEvidence`, with the properties of its storage. -/
structure CustodyInput where
  value : Json
  policy : EvidencePolicy
  trustPolicy : String
  writerIdentity : String
  auditReaderIdentity : String
  /-- Whether the storage has a `readMetadata`. -/
  readMetadata : Bool
  attestationRef : String
  receiptContract : String

/-- What the store reports of an object. -/
structure StoredFacts where
  storeRef : String
  contentSizeBytes : Int
  storedAt : String
  retainUntil : String
  deriving DecidableEq

structure StoredObject where
  bytes : List UInt8
  facts : StoredFacts
  deriving DecidableEq

/-- The objects of the store by their keys. -/
abbrev Storage := List (String × StoredObject)

/-- What becomes of a request to create an object. -/
inductive CreateOutcome
  | failed
  /-- The object is created, and the answer does not arrive. -/
  | unanswered (facts : StoredFacts)
  | answered (facts : StoredFacts)
  deriving DecidableEq

/-- A valid date, as its `toISOString` and its `getTime`. -/
structure ISODate where
  text : String
  time : Int
  canonical : Calendar.ofISOString text = some time
  deriving DecidableEq

/-- What the steps of one call meet. A clock that yields no valid date is `none`; a reading of the
store that fails is `false`. -/
structure CustodyEnv where
  uploadStartedAt : Option ISODate
  createContent : CreateOutcome
  contentMetadata : Bool
  contentRead : Bool
  readbackAt : Option ISODate
  receiptId : String
  createReceipt : CreateOutcome
  receiptMetadata : Bool
  receiptRead : Bool

/-- `dateParse` is `Date.parse`, with `none` for `NaN`. -/
structure CustodyPlatform extends Platform where
  dateParse : String → Option Int
  sha256Bytes : List UInt8 → String
  canonicalJson : Json → Option (List UInt8)
  parseJson : List UInt8 → Option Json
  /-- The canonical JSON of a receipt. -/
  receiptBytes : CustodyReceipt → List UInt8
  parseReceipt : List UInt8 → Option CustodyReceipt

/-! ## Checks of the argument -/

def receiptPolicies : List ReceiptPolicy :=
  [⟨"custody-receipt.v1", 180, true⟩, ⟨"custody-receipt.retention90.v1", 90, false⟩]

def selectReceiptPolicy (receiptContract : String) : Except CustodyError ReceiptPolicy :=
  match receiptPolicies.find? (·.schemaId == receiptContract) with
  | some receiptPolicy => .ok receiptPolicy
  | none => .error .inputInvalid

def CustodyPlatform.assertPolicy (P : CustodyPlatform) (policy : EvidencePolicy)
    (receiptPolicy : ReceiptPolicy) : Except CustodyError Unit :=
  require (policy.owner != "" && policy.readers != [] && policy.readers.all (· != "") &&
    decide policy.readers.Nodup && policy.retentionDays == receiptPolicy.days &&
    ["delete", "review", "retain-approved"].contains policy.expiryDisposition &&
    !P.forbiddenValue policy.owner && !policy.readers.any P.forbiddenValue) .policyInvalid

/-- The names of `forbiddenKeyPattern`. -/
def forbiddenKeys : List String :=
  ["password", "passwd", "secret", "clientsecret", "credential", "apikey", "token", "accesstoken",
    "refreshtoken", "authorization", "databaseurl", "connectionstring", "phone", "mobile",
    "customerid", "idcard"]

def forbiddenKey (key : String) : Bool :=
  forbiddenKeys.contains
    (String.ofList ((key.toList.filter fun c => c != '_' && c != '-').map Char.toLower))

mutual

def CustodyPlatform.assertNoSensitiveValue (P : CustodyPlatform) (path : String) :
    Json → Except CustodyError Unit
  | .text value => require (!P.forbiddenValue value) (.secretDetected path)
  | .array entries => P.assertNoSensitiveEntry path 0 entries
  | .object entries => P.assertNoSensitiveMember path entries
  | _ => .ok ()

def CustodyPlatform.assertNoSensitiveEntry (P : CustodyPlatform) (path : String) (index : Nat) :
    List Json → Except CustodyError Unit
  | [] => .ok ()
  | entry :: entries => do
    P.assertNoSensitiveValue (path ++ "[" ++ toString index ++ "]") entry
    P.assertNoSensitiveEntry path (index + 1) entries

def CustodyPlatform.assertNoSensitiveMember (P : CustodyPlatform) (path : String) :
    List (String × Json) → Except CustodyError Unit
  | [] => .ok ()
  | (key, entry) :: entries => do
    require (!forbiddenKey key) (.secretDetected (path ++ "." ++ key))
    P.assertNoSensitiveValue (path ++ "." ++ key) entry
    P.assertNoSensitiveMember path entries

end

def CustodyPlatform.redactEvidence (P : CustodyPlatform) (value : Json) (policy : EvidencePolicy)
    (receiptContract : String) : Except CustodyError Json := do
  let receiptPolicy ← selectReceiptPolicy receiptContract
  P.assertPolicy policy receiptPolicy
  P.assertNoSensitiveValue "$" value
  match P.canonicalJson value >>= P.parseJson with
  | some accepted => .ok accepted
  | none => .error .valueInvalid

/-! ## Checks of what the store answers -/

/-- `setUTCDate` with days added, when ECMAScript has the date. -/
def addUtcDays (time days : Int) : Option Int :=
  if -8640000000000000 ≤ time + days * 86400000 ∧ time + days * 86400000 ≤ 8640000000000000 then
    some (time + days * 86400000)
  else none

/-- A date that `toISOString` is called on. -/
def validDate (time : Option Int) : Except CustodyError Int :=
  match time with
  | some time => .ok time
  | none => .error .rangeError

/-- The retention of the newer contract: of canonical dates, long enough after the store's own time
and no shorter than a minimum. -/
def StoredFacts.retained (facts : StoredFacts) (days minimum : Int) : Bool :=
  match Calendar.ofISOString facts.storedAt, Calendar.ofISOString facts.retainUntil with
  | some storedAt, some retainUntil =>
    (addUtcDays storedAt days).any (· ≤ retainUntil) && minimum ≤ retainUntil
  | _, _ => false

/-- A canonical text is determined by its instant, so that the retention that the older contract
expects is compared as an instant. -/
def CustodyPlatform.assertStoredFacts (P : CustodyPlatform) (receiptPolicy : ReceiptPolicy)
    (facts : StoredFacts) (expectedSize expectedRetainUntil minimumRetainUntil : Int) :
    Except CustodyError StoredFacts := do
  require (facts.storeRef != "" && facts.contentSizeBytes == expectedSize &&
    (P.dateParse facts.storedAt).isSome &&
    (if receiptPolicy.legacy then
      Calendar.ofISOString facts.retainUntil == some expectedRetainUntil
    else facts.retained receiptPolicy.days minimumRetainUntil)) .storageReceiptInvalid
  require (!P.forbiddenValue facts.storeRef) (.secretDetected "$.storeRef")
  pure facts

def CustodyPlatform.assertStorageMetadata (P : CustodyPlatform) (receiptPolicy : ReceiptPolicy)
    (metadata : Option StoredFacts) (created : StoredFacts)
    (expectedSize expectedRetainUntil minimumRetainUntil : Int) :
    Except CustodyError StoredFacts :=
  match metadata with
  | none => .error .storageReceiptInvalid
  | some facts => do
    let observed ← P.assertStoredFacts receiptPolicy facts expectedSize expectedRetainUntil
      minimumRetainUntil
    require (observed == created) .storageReceiptInvalid
    pure observed

/-- The condition of `assertCustodyComplete`. -/
def receiptComplete (P : Platform) (receiptPolicy : ReceiptPolicy) (receipt : CustodyReceipt)
    (expectedDigest : String) : Bool :=
  match Calendar.ofISOString receipt.uploadedAt, Calendar.ofISOString receipt.readbackAt,
    Calendar.ofISOString receipt.retainUntil with
  | some uploadedAt, some readbackAt, some retainUntil =>
    receipt.schemaVersion == receiptPolicy.schemaId && uuidPattern receipt.receiptId &&
      digestPattern expectedDigest && receipt.contentDigest == expectedDigest &&
      receipt.readbackDigest == expectedDigest && 0 ≤ receipt.contentSizeBytes &&
      receipt.storeRef != "" && !P.forbiddenValue receipt.storeRef && uploadedAt ≤ readbackAt &&
      receipt.owner != "" && receipt.readers != [] && receipt.readers.all (· != "") &&
      decide receipt.readers.Nodup &&
      (if receiptPolicy.legacy then retainUntil == uploadedAt + receiptPolicy.days * 86400000
        else uploadedAt + receiptPolicy.days * 86400000 ≤ retainUntil) &&
      ["delete", "review", "retain-approved"].contains receipt.expiryDisposition &&
      receipt.attestationRef != "" && !P.forbiddenValue receipt.attestationRef &&
      !P.forbiddenValue receipt.owner && !receipt.readers.any P.forbiddenValue
  | _, _, _ => false

/-- The retention that is due, whose text is made before the condition is looked at. -/
def CustodyPlatform.expectedRetainUntil (P : CustodyPlatform) (receiptPolicy : ReceiptPolicy)
    (receipt : CustodyReceipt) : Except CustodyError (Option Int) :=
  match P.dateParse receipt.uploadedAt with
  | some uploadedAt => (validDate (addUtcDays uploadedAt receiptPolicy.days)).map some
  | none => .ok none

def CustodyPlatform.assertCustodyComplete (P : CustodyPlatform) (receiptPolicy : ReceiptPolicy)
    (receipt : CustodyReceipt) (expectedDigest : String) : Except CustodyError CustodyReceipt := do
  let _ ← P.expectedRetainUntil receiptPolicy receipt
  require (receiptComplete P.toPlatform receiptPolicy receipt expectedDigest) .receiptIncomplete
  pure receipt

/-! ## The call -/

/-- The storage's `createOnly`, whose answer has to be that the object is created. -/
def createOnly (key : String) (bytes : List UInt8) (outcome : CreateOutcome) (storage : Storage) :
    Storage × Except CustodyError StoredFacts :=
  match outcome, storage.lookup key with
  | .failed, _ => (storage, .error .interrupted)
  | _, some _ => (storage, .error .overwriteRefused)
  | .unanswered facts, none => ((key, ⟨bytes, facts⟩) :: storage, .error .interrupted)
  | .answered facts, none => ((key, ⟨bytes, facts⟩) :: storage, .ok facts)

/-- `read` and `readMetadata`. -/
def readObject (succeeds : Bool) (key : String) (storage : Storage) :
    Except CustodyError (Option StoredObject) :=
  if succeeds then .ok (storage.lookup key) else .error .interrupted

/-- The facts about an object, which the newer contract reads anew. -/
def CustodyPlatform.metadata (P : CustodyPlatform) (receiptPolicy : ReceiptPolicy)
    (succeeds : Bool) (key : String) (created : StoredFacts)
    (expectedSize expectedRetainUntil minimumRetainUntil : Int) (storage : Storage) :
    Except CustodyError StoredFacts :=
  if receiptPolicy.legacy then .ok created
  else do
    let object ← readObject succeeds key storage
    P.assertStorageMetadata receiptPolicy (object.map (·.facts)) created expectedSize
      expectedRetainUntil minimumRetainUntil

/-- The object is read back with the digest it was stored with. -/
def CustodyPlatform.readback (P : CustodyPlatform) (succeeds : Bool) (key digest : String)
    (missing mismatch : CustodyError) (storage : Storage) : Except CustodyError (List UInt8) := do
  match ← readObject succeeds key storage with
  | none => .error missing
  | some object =>
    require (P.sha256Bytes object.bytes == digest) mismatch
    pure object.bytes

/-- What the call asks the store to create first. -/
structure ContentRequest where
  receiptPolicy : ReceiptPolicy
  bytes : List UInt8
  contentDigest : String
  requestedAt : ISODate
  retainUntil : Int
  deriving DecidableEq

def contentKey (contentDigest : String) : String :=
  "evidence/" ++ String.ofList (contentDigest.toList.drop 7) ++ ".json"

def receiptKey (receiptId : String) : String := "receipts/" ++ receiptId ++ ".json"

def clock (reading : Option ISODate) : Except CustodyError ISODate :=
  match reading with
  | some date => .ok date
  | none => .error .clockInvalid

/-- The call, to the first request. -/
def CustodyPlatform.requestContent (P : CustodyPlatform) (input : CustodyInput)
    (reading : Option ISODate) : Except CustodyError ContentRequest := do
  let receiptPolicy ← selectReceiptPolicy input.receiptContract
  P.assertPolicy input.policy receiptPolicy
  require ((receiptPolicy.legacy || input.readMetadata) &&
    input.trustPolicy == "immutable-content-addressed/v1" && input.writerIdentity != "" &&
    input.auditReaderIdentity == "audit-reader" && input.attestationRef != "") .inputInvalid
  require (!P.forbiddenValue input.writerIdentity && !P.forbiddenValue input.attestationRef)
    (.secretDetected "$.custody-metadata")
  let accepted ← P.redactEvidence input.value input.policy receiptPolicy.schemaId
  match P.canonicalJson accepted with
  | none => .error .canonicalJsonRefused
  | some bytes =>
    let uploadStartedAt ← clock reading
    let retainUntil ← validDate (addUtcDays uploadStartedAt.time receiptPolicy.days)
    pure ⟨receiptPolicy, bytes, P.sha256Bytes bytes, uploadStartedAt, retainUntil⟩

/-- The receipt of content that was read back. -/
def ContentRequest.receipt (request : ContentRequest) (input : CustodyInput) (facts : StoredFacts)
    (readbackAt : ISODate) (receiptId : String) : CustodyReceipt :=
  { attestationRef := input.attestationRef
    contentDigest := request.contentDigest
    contentSizeBytes := request.bytes.length
    expiryDisposition := input.policy.expiryDisposition
    owner := input.policy.owner
    readbackAt := readbackAt.text
    readbackDigest := request.contentDigest
    readers := input.policy.readers
    receiptId := receiptId
    retainUntil := facts.retainUntil
    schemaVersion := request.receiptPolicy.schemaId
    storeRef := facts.storeRef
    uploadedAt := facts.storedAt }

/-- The retention that is asked for the receipt. -/
def CustodyPlatform.receiptRetainUntil (P : CustodyPlatform) (request : ContentRequest)
    (facts : StoredFacts) (readbackAt : ISODate) : Except CustodyError Int :=
  if request.receiptPolicy.legacy then .ok request.retainUntil
  else
    validDate do
      pure (max (← P.dateParse facts.retainUntil)
        (← addUtcDays readbackAt.time request.receiptPolicy.days))

/-- The call, from the answer to the first request to the second. -/
def CustodyPlatform.receiptOf (P : CustodyPlatform) (input : CustodyInput) (env : CustodyEnv)
    (request : ContentRequest) (storage : Storage) (facts : StoredFacts) :
    Except CustodyError CustodyReceipt := do
  let key := contentKey request.contentDigest
  let upload ← P.assertStoredFacts request.receiptPolicy facts request.bytes.length
    request.retainUntil 0
  let metadata ← P.metadata request.receiptPolicy env.contentMetadata key upload
    request.bytes.length request.retainUntil 0 storage
  let _ ← P.readback env.contentRead key request.contentDigest .readbackMissing
    .readbackDigestMismatch storage
  let readbackAt ← clock env.readbackAt
  require (uuidPattern env.receiptId) .receiptIdInvalid
  let _ ← P.receiptRetainUntil request metadata readbackAt
  pure (request.receipt input metadata readbackAt env.receiptId)

/-- The retention that the receipt must reach, that of its content. -/
def CustodyPlatform.minimumRetainUntil (P : CustodyPlatform) (receipt : CustodyReceipt) : Int :=
  (P.dateParse receipt.retainUntil).getD 0

/-- The call, from the answer to the second request on. -/
def CustodyPlatform.complete (P : CustodyPlatform) (env : CustodyEnv) (request : ContentRequest)
    (receipt : CustodyReceipt) (storage : Storage) (facts : StoredFacts) :
    Except CustodyError CustodyReceipt := do
  let key := receiptKey receipt.receiptId
  let bytes := P.receiptBytes receipt
  let upload ← P.assertStoredFacts request.receiptPolicy facts bytes.length request.retainUntil
    (P.minimumRetainUntil receipt)
  let _ ← P.metadata request.receiptPolicy env.receiptMetadata key upload bytes.length
    request.retainUntil (P.minimumRetainUntil receipt) storage
  let readback ← P.readback env.receiptRead key (P.sha256Bytes bytes) .receiptMissing
    .receiptReadbackDigestMismatch storage
  match P.parseReceipt readback with
  | none => .error .receiptReadbackInvalid
  | some storedReceipt =>
    P.assertCustodyComplete request.receiptPolicy storedReceipt request.contentDigest

/-- The storage after the call, with its result. -/
def CustodyPlatform.custodyEvidence (P : CustodyPlatform) (input : CustodyInput) (env : CustodyEnv)
    (storage : Storage) : Storage × Except CustodyError CustodyReceipt :=
  match P.requestContent input env.uploadStartedAt with
  | .error error => (storage, .error error)
  | .ok request =>
    let content := createOnly (contentKey request.contentDigest) request.bytes env.createContent
      storage
    match content.2 >>= P.receiptOf input env request content.1 with
    | .error error => (content.1, .error error)
    | .ok receipt =>
      let created := createOnly (receiptKey receipt.receiptId) (P.receiptBytes receipt)
        env.createReceipt content.1
      (created.1, created.2 >>= P.complete env request receipt created.1)

end SubscriptionSaas.Release
