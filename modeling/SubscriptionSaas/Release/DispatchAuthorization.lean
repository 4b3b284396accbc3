import SubscriptionSaas.Lib.Tables
import SubscriptionSaas.Release.CustodyObservation

/-!
# The authorization of a dispatch

`verifyDispatchAuthorization` checks an authorization's signature and binding, reads the revocation
head online, finds both documents in the archive, and records the head in a journal before it returns
a decision. Several calls under one trust policy share the journal: `World` is the journal and the
calls, and an event lets one call go on to its next request, or the journal handle a record.

A value that comes from outside and is not of the shape that `closed` and `snapshot` ask for is `none`.
-/

namespace SubscriptionSaas.Release

open Results Tables

inductive DispatchError
  | signatureInvalid | bindingMismatch | evidenceInvalid | evidenceExpired | evidenceUnavailable
  | revocationRollback | revoked
  /-- The public key of a policy is not a key. -/
  | publicKeyInvalid
  deriving DecidableEq

/-! ## Records -/

/-- A head that a journal has recorded. -/
@[ext] structure Checkpoint where
  sequence : Int
  headDigest : String
  deriving DecidableEq

/-- What the caller expects of the authorization. -/
structure ExpectedDispatch extends Binding where
  authorizationCustody : Archive
  deriving DecidableEq

structure RepositoryTrust where
  id : String
  name : String
  deriving DecidableEq

structure WorkflowTrust where
  executionPurpose : String
  producerWorkflow : Workflow
  rcWorkflow : Workflow
  deriving DecidableEq

/-- A reader, by its identity and endpoint. -/
structure Reader where
  identity : String
  endpoint : String
  deriving DecidableEq

structure RevocationTrust where
  policyDigest : String
  signer : Signer
  reader : Reader
  initialCheckpoint : Checkpoint
  timeoutMs : Int
  maxAgeMs : Int
  deriving DecidableEq

structure TrustPolicy where
  repository : RepositoryTrust
  actorId : String
  dispatchSigner : Signer
  workflow : WorkflowTrust
  maxAuthorizationLifetimeMs : Int
  custody : CustodyTrust
  revocation : RevocationTrust
  deriving DecidableEq

/-- What a call is given besides the trust policy, the services and the clock. -/
structure DispatchInput where
  authorization : Authorization
  signature : Option Signature
  expected : Option ExpectedDispatch
  source : Reader
  deriving DecidableEq

structure ReadRequest where
  policyDigest : String
  authorizationDigest : String
  nonce : String
  deriving DecidableEq

/-- The answer of `readRevocationHead`. -/
structure OnlineHead where
  response : RevocationResponse
  signature : Signature
  deriving DecidableEq

/-- The answer of `readExact`. -/
structure ArchivedFrame where
  originalBytes : List UInt8
  signature : Signature
  receipt : CustodyReceipt
  observation : CustodyObservation
  observationSignature : Signature
  deriving DecidableEq

/-- An instant stands for its `toISOString`. -/
structure DispatchDecision where
  authorization : Authorization
  authorizationDigest : String
  expected : ExpectedDispatch
  verifiedAt : Int
  notAfter : Int
  revocationSequence : Int
  revocationHeadDigest : String
  deriving DecidableEq

/-- What the clocks and the source of random bytes say while a call runs from one request to the
next: the readings are numbered in the order in which the code makes them. -/
structure Readings where
  now : Nat → String
  performance : Nat → Int
  nonce : String

/-! ## Checks -/

def instant (value : String) : Except DispatchError Int :=
  match Calendar.ofUTCText value with
  | some time => .ok time
  | none => .error .evidenceExpired

def safeInteger (value : Int) : Bool := -9007199254740991 ≤ value && value ≤ 9007199254740991

def positive (value max : Int) : Bool := safeInteger value && 0 < value && value ≤ max

def Crypto.signer (C : Crypto) (policy : Signer) : Except DispatchError Unit := do
  require ([policy.issuer, policy.keyId, policy.publicKey].all idText) .evidenceInvalid
  match C.createPublicKey policy.publicKey with
  | none => .error .publicKeyInvalid
  | some key => require (key == .ed25519) .evidenceInvalid

def Crypto.signatureValid (C : Crypto) (value : Document) (detached : Signature) (policy : Signer)
    (domain name : String) : Except DispatchError Unit := do
  C.signer policy
  require (C.signatureMatches value detached policy domain name) .evidenceInvalid

def archiveValid (archive : Archive) : Except DispatchError Unit := do
  require ([archive.reference, archive.objectKey, archive.objectVersion].all idText) .evidenceInvalid
  require ((Calendar.ofUTCText archive.terminalAt).isSome &&
    (Calendar.ofUTCText archive.downstreamRetainUntil).isSome &&
    archive.snapshotExpiresAt.all (Calendar.ofUTCText · |>.isSome) &&
    archive.legalHoldUntil.all (Calendar.ofUTCText · |>.isSome)) .evidenceExpired

def checkpointValid (checkpoint : Checkpoint) : Except DispatchError Unit :=
  require (safeInteger checkpoint.sequence && 0 ≤ checkpoint.sequence &&
    digestPattern checkpoint.headDigest) .revocationRollback

def monotonic (head checkpoint : Checkpoint) : Except DispatchError Unit := do
  checkpointValid checkpoint
  require (!(head.sequence < checkpoint.sequence ||
    (head.sequence == checkpoint.sequence && head.headDigest != checkpoint.headDigest)))
    .revocationRollback

/-- `policyValid`, for services and a clock that are functions. -/
def Crypto.policyValid (C : Crypto) (policy : TrustPolicy) (expected : ExpectedDispatch)
    (source : Reader) : Except DispatchError Unit := do
  require (policy.repository.id == "1253231368" &&
    policy.repository.name == "keqi119/subscription-Saas" && policy.actorId == "275060624")
    .evidenceInvalid
  require (policy.workflow ==
    ⟨expected.executionPurpose, expected.producerWorkflow, expected.rcWorkflow⟩) .bindingMismatch
  require (positive policy.maxAuthorizationLifetimeMs 86400000) .evidenceInvalid
  C.signer policy.custody.signer
  require ([policy.custody.writerIdentity, policy.custody.readerIdentity, policy.custody.storeRef,
    policy.custody.owner].all idText &&
    policy.custody.writerIdentity != policy.custody.readerIdentity && policy.custody.readers != [] &&
    policy.custody.readers.all idText && decide policy.custody.readers.Nodup) .evidenceInvalid
  let revocation := policy.revocation
  require (digestPattern revocation.policyDigest &&
    revocation.policyDigest == expected.revocationPolicyDigest &&
    positive revocation.timeoutMs 30000 && positive revocation.maxAgeMs 300000) .evidenceInvalid
  C.signer revocation.signer
  checkpointValid revocation.initialCheckpoint
  require ([revocation.reader.identity, revocation.reader.endpoint].all idText) .evidenceInvalid
  require (source == revocation.reader) .evidenceInvalid

/-- The state that a response's digest is of. -/
def RevocationResponse.state (response : RevocationResponse) : RevocationState :=
  { schemaVersion := "i0-revocation-state.v1"
    policyDigest := response.policyDigest
    sequence := response.sequence
    revokedAuthorizationIds := response.revokedAuthorizationIds
    revokedAuthorizationDigests := response.revokedAuthorizationDigests }

def RevocationResponse.head (response : RevocationResponse) : Checkpoint :=
  ⟨response.sequence, response.headDigest⟩

/-- The response lists the authorization. -/
def RevocationResponse.revokes (response : RevocationResponse) (authorizationId : String)
    (authorizationDigest : String) : Bool :=
  response.revokedAuthorizationIds.contains authorizationId ||
    response.revokedAuthorizationDigests.contains authorizationDigest

def listValid (check : String → Bool) (values : List String) : Bool :=
  values.length ≤ 10000 && values.all check && decide values.Nodup

/-- The instant at which a response expires. -/
def Crypto.responseValid (C : Crypto) (response : RevocationResponse) (signature : Signature)
    (request : ReadRequest) (policy : RevocationTrust) (now : Int) : Except DispatchError Int := do
  C.signatureValid (.response response) signature policy.signer "i0-revocation-read.v1" "response"
  require (response.schemaVersion == "i0-revocation-read.v1" &&
    response.issuer == policy.signer.issuer && response.keyId == policy.signer.keyId &&
    response.policyDigest == request.policyDigest && response.nonce == request.nonce &&
    response.authorizationDigest == request.authorizationDigest && safeInteger response.sequence &&
    0 ≤ response.sequence && digestPattern response.headDigest) .evidenceInvalid
  require (listValid idText response.revokedAuthorizationIds &&
    listValid digestPattern response.revokedAuthorizationDigests) .evidenceInvalid
  require (C.validateContract (.state response.state)) .evidenceInvalid
  require (C.sha256Canonical (.state response.state) == response.headDigest) .evidenceInvalid
  archiveValid response.archive
  let issued ← instant response.issuedAt
  let expiry ← instant response.notAfter
  require (issued ≤ now && now < expiry && issued < expiry && expiry - issued ≤ policy.maxAgeMs &&
    now - issued < policy.maxAgeMs) .evidenceExpired
  pure (min expiry (issued + policy.maxAgeMs))

/-! ## One call, from request to request -/

/-- What is fixed once a call has checked its input. -/
structure DispatchFrame where
  authorization : Authorization
  signature : Signature
  expected : ExpectedDispatch
  authorizationDigest : String
  startedAt : Int
  notAfter : Int
  elapsedStart : Int
  deriving DecidableEq

/-- What is fixed once a call has verified the head that it read online. -/
structure HeadFrame extends DispatchFrame where
  checkpoint : Checkpoint
  response : RevocationResponse
  expiresAt : Int
  deriving DecidableEq

/-- The request that a call waits for, or its end. -/
inductive Phase
  | readingCheckpoint (frame : DispatchFrame)
  | readingHead (frame : DispatchFrame) (checkpoint : Checkpoint) (request : ReadRequest)
  | readingState (frame : HeadFrame)
  | readingAuthorization (frame : HeadFrame)
  | rereadingCheckpoint (frame : HeadFrame)
  | recording (frame : HeadFrame)
  | readingBack (frame : HeadFrame)
  | returned (decision : DispatchDecision)
  | failed (error : DispatchError)
  deriving DecidableEq

def HeadFrame.revoked (frame : HeadFrame) : Bool :=
  frame.response.revokes frame.authorization.authorizationId frame.authorizationDigest

/-- `remaining() > 0`, which `bounded` asks for before it makes a request. -/
def DispatchFrame.inTime (trust : TrustPolicy) (frame : DispatchFrame) (performance : Int) :
    Except DispatchError Unit :=
  require (0 < trust.revocation.timeoutMs - (performance - frame.elapsedStart)) .evidenceUnavailable

def HeadFrame.currentTime (trust : TrustPolicy) (frame : HeadFrame) (now : String)
    (performance : Int) : Except DispatchError Int := do
  let now ← instant now
  require (frame.startedAt ≤ now && now < frame.expiresAt) .evidenceExpired
  frame.inTime trust performance
  pure now

/-- An error that the code replaces by another one. -/
def orFail {α : Type} (x : Except DispatchError α) (error : DispatchError) :
    Except DispatchError α :=
  match x with
  | .ok a => .ok a
  | .error _ => .error error

/-- Of the errors only the expiry is kept. -/
def orFailUnlessExpired {α : Type} (x : Except DispatchError α) : Except DispatchError α :=
  match x with
  | .ok a => .ok a
  | .error .evidenceExpired => .error .evidenceExpired
  | .error _ => .error .evidenceInvalid

/-- A value from outside that has the shape the code asks for. -/
def shaped {α : Type} (value : Option α) (error : DispatchError) : Except DispatchError α :=
  match value with
  | some a => .ok a
  | none => .error error

/-- The first block: the authorization and its signature. -/
def Crypto.authorizationSigned (C : Crypto) (trust : TrustPolicy) (authorization : Authorization)
    (signature : Option Signature) : Except DispatchError Signature := do
  let signature ← shaped signature .signatureInvalid
  require (C.validateContract (.authorization authorization)) .signatureInvalid
  C.signatureValid (.authorization authorization) signature trust.dispatchSigner
    "rc-dispatch-authorization.v1" "authorization"
  require (authorization.issuer == trust.dispatchSigner.issuer &&
    (C.canonicalJson (.signed "rc-dispatch-authorization.v1" "authorization"
      (.authorization authorization))).length ≤ 1048576) .signatureInvalid
  pure signature

/-- The beginning of a call, to its first request. -/
def Crypto.beginDispatch (C : Crypto) (trust : TrustPolicy) (input : DispatchInput)
    (readings : Readings) : Except DispatchError Phase := do
  let authorization := input.authorization
  let signature ← orFail (C.authorizationSigned trust authorization input.signature) .signatureInvalid
  let expected ← shaped input.expected .bindingMismatch
  orFail (archiveValid expected.authorizationCustody) .bindingMismatch
  require (authorization.toBinding == expected.toBinding) .bindingMismatch
  C.policyValid trust expected input.source
  let startedAt ← instant (readings.now 0)
  let issuedAt ← instant authorization.issuedAt
  let notAfter ← instant authorization.notAfter
  require (issuedAt ≤ startedAt && startedAt < notAfter && issuedAt < notAfter &&
    notAfter - issuedAt ≤ trust.maxAuthorizationLifetimeMs) .evidenceExpired
  let frame : DispatchFrame :=
    { authorization := authorization
      signature := signature
      expected := expected
      authorizationDigest := C.sha256Canonical (.authorization authorization)
      startedAt := startedAt
      notAfter := notAfter
      elapsedStart := readings.performance 0 }
  frame.inTime trust (readings.performance 1)
  pure (.readingCheckpoint frame)

/-- The journal's checkpoint is there. -/
def afterCheckpoint (trust : TrustPolicy) (frame : DispatchFrame) (checkpoint : Option Checkpoint)
    (readings : Readings) : Except DispatchError Phase := do
  let checkpoint ← shaped checkpoint .evidenceInvalid
  monotonic checkpoint trust.revocation.initialCheckpoint
  frame.inTime trust (readings.performance 0)
  pure (.readingHead frame checkpoint
    ⟨trust.revocation.policyDigest, frame.authorizationDigest, readings.nonce⟩)

/-- The online head is there. -/
def Crypto.afterHead (C : Crypto) (trust : TrustPolicy) (frame : DispatchFrame)
    (checkpoint : Checkpoint) (request : ReadRequest) (online : Option OnlineHead)
    (readings : Readings) : Except DispatchError Phase := do
  let online ← shaped online .evidenceInvalid
  let now ← instant (readings.now 0)
  let expiry ← orFailUnlessExpired
    (C.responseValid online.response online.signature request trust.revocation now)
  monotonic online.response.head checkpoint
  frame.inTime trust (readings.performance 0)
  pure (.readingState
    { frame with
      checkpoint := checkpoint
      response := online.response
      expiresAt := min frame.notAfter expiry })

/-- `archived`, from the answer of the archive on. -/
def Crypto.archived (C : Crypto) (trust : TrustPolicy) (frame : HeadFrame) (body : Document)
    (detached : Option Signature) (archive : Archive) (root : Signer) (domain name : String)
    (raw : Option ArchivedFrame) (now : String) (performance : Int) :
    Except DispatchError Unit := do
  let expectedDigest := C.sha256Canonical body
  let raw ← shaped raw .evidenceInvalid
  require (raw.originalBytes.length ≤ 1048576) .evidenceInvalid
  require (C.sha256Bytes raw.originalBytes == expectedDigest &&
    raw.originalBytes == C.canonicalJson body) .evidenceInvalid
  orFail (C.signatureValid body raw.signature root domain name) .evidenceInvalid
  require (detached.all (raw.signature == ·)) .evidenceInvalid
  let now ← frame.currentTime trust now performance
  require (C.verifyAuthoritativeCustodyObservation raw.originalBytes raw.receipt raw.observation
    raw.observationSignature
    { contentDigest := expectedDigest
      storeRef := trust.custody.storeRef
      objectKey := archive.objectKey
      objectVersion := archive.objectVersion
      terminalAt := archive.terminalAt
      snapshotExpiresAt := archive.snapshotExpiresAt
      downstreamRetainUntil := archive.downstreamRetainUntil
      legalHoldUntil := archive.legalHoldUntil }
    trust.custody now).isSome .evidenceInvalid

/-- The archived revocation state is there. -/
def Crypto.afterState (C : Crypto) (trust : TrustPolicy) (frame : HeadFrame)
    (raw : Option ArchivedFrame) (readings : Readings) : Except DispatchError Phase := do
  C.archived trust frame (.state frame.response.state) none frame.response.archive
    trust.revocation.signer "i0-revocation-state.v1" "state" raw (readings.now 0)
    (readings.performance 0)
  frame.inTime trust (readings.performance 1)
  pure (.readingAuthorization frame)

/-- The archived authorization is there. -/
def Crypto.afterAuthorization (C : Crypto) (trust : TrustPolicy) (frame : HeadFrame)
    (raw : Option ArchivedFrame) (readings : Readings) : Except DispatchError Phase := do
  C.archived trust frame (.authorization frame.authorization) (some frame.signature)
    frame.expected.authorizationCustody trust.dispatchSigner "rc-dispatch-authorization.v1"
    "authorization" raw (readings.now 0) (readings.performance 0)
  let _ ← frame.currentTime trust (readings.now 1) (readings.performance 1)
  frame.inTime trust (readings.performance 2)
  pure (.rereadingCheckpoint frame)

/-- The journal's checkpoint is there for the second time. -/
def afterReread (trust : TrustPolicy) (frame : HeadFrame) (latest : Option Checkpoint)
    (readings : Readings) : Except DispatchError Phase := do
  let latest ← shaped latest .evidenceInvalid
  monotonic latest frame.checkpoint
  monotonic frame.response.head latest
  frame.inTime trust (readings.performance 0)
  pure (.recording frame)

/-- The head is recorded. -/
def afterRecord (trust : TrustPolicy) (frame : HeadFrame) (reply : Except DispatchError Unit)
    (readings : Readings) : Except DispatchError Phase := do
  reply
  frame.inTime trust (readings.performance 0)
  pure (.readingBack frame)

/-- The journal's checkpoint is there for the last time. -/
def afterReadback (trust : TrustPolicy) (frame : HeadFrame) (recorded : Option Checkpoint)
    (readings : Readings) : Except DispatchError Phase := do
  let recorded ← shaped recorded .evidenceInvalid
  monotonic recorded frame.response.head
  monotonic frame.response.head recorded
  let verifiedAt ← frame.currentTime trust (readings.now 0) (readings.performance 0)
  require (!frame.revoked) .revoked
  pure (.returned
    { authorization := frame.authorization
      authorizationDigest := frame.authorizationDigest
      expected := frame.expected
      verifiedAt := verifiedAt
      notAfter := frame.expiresAt
      revocationSequence := recorded.sequence
      revocationHeadDigest := recorded.headDigest })

/-! ## The journal and its callers -/

structure DispatchCall where
  phase : Phase
  /-- The head that the journal has been asked to record and has not yet handled. -/
  outstanding : Option Checkpoint := none
  /-- What the journal has answered to the record. -/
  reply : Option (Except DispatchError Unit) := none

/-- The journal is the list of the heads that it has recorded under the policy, of which the last one
is its checkpoint; the first one is the checkpoint it was set up with. -/
structure DispatchWorld where
  journal : List Checkpoint
  calls : List DispatchCall

/-- What a call's request comes to. -/
inductive Answer
  | journal
  | online (head : Option OnlineHead)
  | archive (raw : Option ArchivedFrame)
  /-- The request is rejected, perhaps with the code of a rollback. -/
  | rejected (rollback : Bool)

inductive DispatchEvent
  | begin (input : DispatchInput) (readings : Readings)
  | answer (call : Nat) (answer : Answer) (readings : Readings)
  /-- The journal handles the record that the call has asked for, if it is available. -/
  | record (call : Nat) (available : Bool)
  /-- The call's time runs out, or its process stops. -/
  | timeout (call : Nat)

def Phase.waiting : Phase → Bool
  | .returned _ | .failed _ => false
  | _ => true

/-- The head that a call asks the journal to record. -/
def Phase.record : Phase → Option Checkpoint
  | .recording frame => some frame.response.head
  | _ => none

/-- A call goes on to its next request, or fails. -/
def DispatchCall.goes (call : DispatchCall) (result : Except DispatchError Phase) : DispatchCall :=
  match result with
  | .ok phase => { phase := phase, outstanding := phase.record }
  | .error error => { call with phase := .failed error }

/-- A call in which an answer arrives, when the journal's checkpoint is the given one. An answer that
the call does not wait for is not its own. -/
def Crypto.resume (C : Crypto) (trust : TrustPolicy) (checkpoint : Option Checkpoint)
    (call : DispatchCall) (answer : Answer) (readings : Readings) : DispatchCall :=
  match answer, call.phase with
  | .journal, .readingCheckpoint frame => call.goes (afterCheckpoint trust frame checkpoint readings)
  | .online head, .readingHead frame checkpoint request =>
    call.goes (C.afterHead trust frame checkpoint request head readings)
  | .archive raw, .readingState frame => call.goes (C.afterState trust frame raw readings)
  | .archive raw, .readingAuthorization frame =>
    call.goes (C.afterAuthorization trust frame raw readings)
  | .journal, .rereadingCheckpoint frame => call.goes (afterReread trust frame checkpoint readings)
  | .journal, .recording frame =>
    match call.reply with
    | some reply => call.goes (afterRecord trust frame reply readings)
    | none => call
  | .journal, .readingBack frame => call.goes (afterReadback trust frame checkpoint readings)
  | .rejected rollback, phase =>
    if phase.waiting then
      call.goes (.error (if rollback then .revocationRollback else .evidenceUnavailable))
    else call
  | _, _ => call

/-- `recordVerifiedHead` of a journal that compares and records at once: it takes no head before it
is set up, no lower sequence, and no other digest for the same sequence. -/
def recordVerifiedHead (journal : List Checkpoint) (head : Checkpoint) :
    Except DispatchError (List Checkpoint) :=
  match journal.getLast? with
  | none => .error .evidenceUnavailable
  | some current =>
    if head.sequence < current.sequence ||
        (head.sequence == current.sequence && head.headDigest != current.headDigest) then
      .error .revocationRollback
    else .ok (journal ++ [head])

/-- The journal handles what a call has asked it to record. -/
def DispatchWorld.record (w : DispatchWorld) (i : Nat) (call : DispatchCall) (available : Bool) :
    DispatchWorld :=
  match call.outstanding with
  | none => w
  | some head =>
    let result := if available then recordVerifiedHead w.journal head else .error .evidenceUnavailable
    let reply := result.map fun _ => ()
    { journal := result.toOption.getD w.journal
      calls := w.calls.set i { call with outstanding := none, reply := some reply } }

/-- A new call. -/
def Crypto.begun (C : Crypto) (trust : TrustPolicy) (input : DispatchInput) (readings : Readings) :
    DispatchCall :=
  match C.beginDispatch trust input readings with
  | .ok phase => { phase := phase }
  | .error error => { phase := .failed error }

def Crypto.dispatchStep (C : Crypto) (trust : TrustPolicy) (w : DispatchWorld) :
    DispatchEvent → DispatchWorld
  | .begin input readings => { w with calls := w.calls ++ [C.begun trust input readings] }
  | .answer i answer readings =>
    match w.calls[i]? with
    | none => w
    | some call =>
      { w with calls := w.calls.set i (C.resume trust w.journal.getLast? call answer readings) }
  | .record i available =>
    match w.calls[i]? with
    | none => w
    | some call => w.record i call available
  | .timeout i =>
    match w.calls[i]? with
    | none => w
    | some call =>
      if call.phase.waiting then
        { w with calls := w.calls.set i { call with phase := .failed .evidenceUnavailable } }
      else w

end SubscriptionSaas.Release
