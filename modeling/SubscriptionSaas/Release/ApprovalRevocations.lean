import Mathlib.Data.List.Nodup
import SubscriptionSaas.Lib.Calendar
import SubscriptionSaas.Release.ExecutionStateMachine

/-!
# The approval revocations of a release

A protected workflow publishes one revocation artifact a run. Each names the digest of the one before
it, so that the artifacts from the policy's minimum run on are a chain. `fetchLatestTrustedRevocations`
lists the runs, follows the chain from the policy's checkpoint and answers the newest artifact's
revocations.

What is not in the repository is in `Platform`, `AttestationVerifier` and `GithubClient`: the digest,
the contract validator, the collation of texts and the patterns of forbidden values, and the services.
-/

namespace SubscriptionSaas.Release

open Results

inductive RevocationError
  | missing | policyInvalid | invalid | policyMismatch | attestationInvalid | issuerUntrusted
  | custodyInvalid | chainBroken | rollback | listIncomplete | orderInvalid | timeInvalid | expired
  | unavailable | verifierUntrusted | artifactAttestationInvalid
  /-- The listing has not come to its last page. -/
  | outOfFuel
  deriving DecidableEq

/-! ## Records -/

structure Revocation where
  approvalId : String
  approvalRecordDigest : String
  reason : String
  revokedAt : String
  deriving DecidableEq

/-- `approval-revocations.v1`. -/
structure RevocationArtifact where
  schemaVersion : String
  issuer : String
  repository : String
  workflowPath : String
  workflowRef : String
  workflowRunId : String
  runAttempt : Int
  policyDigest : String
  sequence : Int
  previousArtifactDigest : String
  issuedAt : String
  notAfter : String
  revocations : List Revocation
  deriving DecidableEq

structure RevocationSource where
  repository : String
  workflowPath : String
  workflowRef : String
  artifactNamePrefix : String
  attestationIssuer : String
  maximumPublicationDelaySeconds : Int
  maximumArtifactLifetimeSeconds : Int
  minimumWorkflowRunNumber : Int
  checkpointArtifactDigest : String
  deriving DecidableEq

structure CustodyPolicy where
  owner : String
  readers : List String
  expiryDisposition : String
  deriving DecidableEq

/-- `approval-policy.v1`, as far as revocations depend on it. -/
structure ApprovalPolicy where
  policyId : String
  revocationSource : RevocationSource
  custody : CustodyPolicy
  deriving DecidableEq

/-- An object with exactly the keys of a custody receipt. -/
structure CustodyReceipt where
  attestationRef : String
  contentDigest : String
  contentSizeBytes : Int
  expiryDisposition : String
  owner : String
  readbackAt : String
  readbackDigest : String
  readers : List String
  receiptId : String
  retainUntil : String
  schemaVersion : String
  storeRef : String
  uploadedAt : String
  deriving DecidableEq

/-- What an attestation verifier answers. A field is `none` when it is absent or of another type. -/
structure AttestationClaims where
  subjectDigest : Option String
  issuer : Option String
  repository : Option String
  workflowPath : Option String
  workflowRef : Option String
  workflowRunId : Option String
  runAttempt : Option Int
  deriving DecidableEq

/-- A member of `verifiedAttestations`. -/
structure VerifiedAttestation where
  subjectDigest : String
  issuer : String
  repository : String
  workflowPath : String
  workflowRef : String
  workflowRunId : Option String
  runAttempt : Option Int
  deriving DecidableEq

/-- A member of `verifiedRevocationSets`. -/
structure VerifiedRevocationSet where
  artifactDigest : String
  policyDigest : String
  sequence : Int
  issuedAt : String
  notAfter : String
  revokedApprovalIds : List String
  revokedRecordDigests : List String
  deriving DecidableEq

structure Observed where
  sequence : Int
  artifactDigest : String
  deriving DecidableEq

/-- A successful run. The number is `none` when it is not an integer. -/
structure WorkflowRun where
  runNumber : Option Int
  runId : String
  runAttempt : Int
  deriving DecidableEq

/-! ## What the code is given -/

structure Platform where
  sha256Artifact : RevocationArtifact → String
  sha256Policy : ApprovalPolicy → String
  validPolicy : ApprovalPolicy → Bool
  validArtifact : RevocationArtifact → Bool
  localeCompare : String → String → Int
  forbiddenValue : String → Bool

variable {Envelope : Type}

/-- `verify` yields `none` when it rejects the envelope or does not answer an object. -/
structure AttestationVerifier (Envelope : Type) where
  trustPolicy : String
  verify : Envelope → Option AttestationClaims

inductive NextCursor
  | absent | text (cursor : String) | other
  deriving DecidableEq

structure Page where
  runs : Option (List WorkflowRun)
  nextCursor : NextCursor
  deriving DecidableEq

/-- The properties of a downloaded object that are read. -/
structure Downloaded (Envelope : Type) where
  artifact : Option RevocationArtifact
  attestation : Envelope
  custodyReceipt : Option CustodyReceipt
  previouslyObserved : Option Observed := none

/-- A request that yields `none` was rejected. -/
structure GithubClient (Envelope : Type) where
  attestationVerifier : Option (AttestationVerifier Envelope)
  listSuccessfulWorkflowRuns (repository workflowPath workflowRef : String)
    (cursor : Option String) : Option Page
  downloadRunArtifact (repository runId artifactName : String) : Option (Downloaded Envelope)

/-! ## Checks -/

/-- `assertCustodyComplete`, with the policy of `custody-receipt.v1`. A canonical text is determined by
its instant, so that `retainUntil` is compared as an instant. -/
def custodyComplete (P : Platform) (receipt : CustodyReceipt) (expectedDigest : String) : Bool :=
  match Calendar.ofISOString receipt.uploadedAt, Calendar.ofISOString receipt.readbackAt,
    Calendar.ofISOString receipt.retainUntil with
  | some uploadedAt, some readbackAt, some retainUntil =>
    receipt.schemaVersion == "custody-receipt.v1" && uuidPattern receipt.receiptId &&
      digestPattern expectedDigest && receipt.contentDigest == expectedDigest &&
      receipt.readbackDigest == expectedDigest && 0 ≤ receipt.contentSizeBytes &&
      receipt.storeRef != "" && !P.forbiddenValue receipt.storeRef && uploadedAt ≤ readbackAt &&
      receipt.owner != "" && receipt.readers != [] && receipt.readers.all (· != "") &&
      decide receipt.readers.Nodup && retainUntil == uploadedAt + 180 * 86400000 &&
      ["delete", "review", "retain-approved"].contains receipt.expiryDisposition &&
      receipt.attestationRef != "" && !P.forbiddenValue receipt.attestationRef &&
      !P.forbiddenValue receipt.owner && !receipt.readers.any P.forbiddenValue
  | _, _, _ => false

/-- `assertCustodyPolicy`. -/
def custodyOfPolicy (receipt : CustodyReceipt) (policy : CustodyPolicy) : Bool :=
  receipt.owner == policy.owner && receipt.expiryDisposition == policy.expiryDisposition &&
    receipt.readers == policy.readers

/-- Both checks of a receipt, of which the first fails for any other object. -/
def inCustody (P : Platform) (policy : ApprovalPolicy) (receipt : Option CustodyReceipt)
    (artifactDigest : String) : Bool :=
  match receipt with
  | some receipt =>
    custodyComplete P receipt artifactDigest && custodyOfPolicy receipt policy.custody
  | none => false

/-- `assertSortedUniqueRevocations`. -/
def sortedUniqueRevocations (P : Platform) (revocations : List Revocation) : Bool :=
  let keys := revocations.map fun r => r.approvalId ++ "\x00" ++ r.approvalRecordDigest
  decide keys.Nodup && keys == keys.mergeSort fun left right => P.localeCompare left right ≤ 0

def verifiedSet (artifact : RevocationArtifact) (artifactDigest : String) :
    VerifiedRevocationSet :=
  { artifactDigest := artifactDigest
    policyDigest := artifact.policyDigest
    sequence := artifact.sequence
    issuedAt := artifact.issuedAt
    notAfter := artifact.notAfter
    revokedApprovalIds := artifact.revocations.map (·.approvalId)
    revokedRecordDigests := artifact.revocations.map (·.approvalRecordDigest) }

def verifyTrustedArtifactAttestation (envelope : Envelope)
    (verifier : Option (AttestationVerifier Envelope)) (subjectDigest : String) :
    Except RevocationError VerifiedAttestation :=
  match verifier with
  | none => .error .verifierUntrusted
  | some verifier => do
    require (verifier.trustPolicy == "github-artifact-attestation/v1") .verifierUntrusted
    match verifier.verify envelope with
    | some ⟨some subject, some issuer, some repository, some workflowPath, some workflowRef,
        workflowRunId, runAttempt⟩ => do
      require (subject == subjectDigest) .artifactAttestationInvalid
      pure ⟨subject, issuer, repository, workflowPath, workflowRef, workflowRunId, runAttempt⟩
    | _ => .error .artifactAttestationInvalid

def issuerTrusted (source : RevocationSource) (artifact : RevocationArtifact)
    (attestation : VerifiedAttestation) : Bool :=
  artifact.issuer == source.attestationIssuer && artifact.repository == source.repository &&
    artifact.workflowPath == source.workflowPath && artifact.workflowRef == source.workflowRef &&
    attestation.issuer == source.attestationIssuer

def attestationMatches (artifact : RevocationArtifact) (artifactDigest : String)
    (attestation : VerifiedAttestation) : Bool :=
  attestation.subjectDigest == artifactDigest && attestation.repository == artifact.repository &&
    attestation.workflowPath == artifact.workflowPath &&
    attestation.workflowRef == artifact.workflowRef &&
    attestation.workflowRunId == some artifact.workflowRunId && attestation.runAttempt == some 1 &&
    artifact.runAttempt == 1

/-- The answer falls behind what was observed before. -/
def behind (sequence : Int) (artifactDigest : String) (previouslyObserved : Option Observed) : Bool :=
  match previouslyObserved with
  | some observed =>
    sequence < observed.sequence ||
      sequence == observed.sequence && artifactDigest != observed.artifactDigest
  | none => false

/-- The bounds on an artifact's age and lifetime, in milliseconds. -/
def inTime (source : RevocationSource) (now issuedAt notAfter : Int) : Bool :=
  issuedAt ≤ now && now < notAfter && now - issuedAt ≤ source.maximumPublicationDelaySeconds * 1000 &&
    notAfter - issuedAt ≤ source.maximumArtifactLifetimeSeconds * 1000

def epoch (text : String) (error : RevocationError) : Except RevocationError Int :=
  match Calendar.ofISOString text with
  | some t => .ok t
  | none => .error error

def verifyRevocationArtifact (P : Platform) (artifact : Option RevocationArtifact)
    (policy : ApprovalPolicy) (attestation : VerifiedAttestation)
    (custodyReceipt : Option CustodyReceipt) (observedHeadSequence : Int)
    (expectedPreviousArtifactDigest : String) (previouslyObserved : Option Observed)
    (now : Option Int) : Except RevocationError VerifiedRevocationSet :=
  match artifact with
  | none => .error .missing
  | some artifact => do
    require (P.validPolicy policy) .policyInvalid
    require (P.validArtifact artifact) .invalid
    let artifactDigest := P.sha256Artifact artifact
    require (artifact.policyDigest == P.sha256Policy policy) .policyMismatch
    let source := policy.revocationSource
    require (issuerTrusted source artifact attestation) .issuerUntrusted
    require (attestationMatches artifact artifactDigest attestation) .attestationInvalid
    require (inCustody P policy custodyReceipt artifactDigest) .custodyInvalid
    require (artifact.previousArtifactDigest == expectedPreviousArtifactDigest) .chainBroken
    require (observedHeadSequence ≤ artifact.sequence &&
      source.minimumWorkflowRunNumber ≤ artifact.sequence) .rollback
    require (artifact.sequence ≤ observedHeadSequence) .listIncomplete
    require (!behind artifact.sequence artifactDigest previouslyObserved) .rollback
    require (sortedUniqueRevocations P artifact.revocations) .orderInvalid
    let issuedAt ← epoch artifact.issuedAt .timeInvalid
    let notAfter ← epoch artifact.notAfter .timeInvalid
    require (now.any (inTime source · issuedAt notAfter)) .expired
    pure (verifiedSet artifact artifactDigest)

/-! ## Fetching -/

/-- The pages of the listing from a cursor on. -/
def readRuns (list : Option String → Option Page) :
    Nat → Option String → List String → List WorkflowRun → Except RevocationError (List WorkflowRun)
  | 0, _, _, _ => .error .outOfFuel
  | fuel + 1, cursor, seenCursors, runs =>
    match list cursor with
    | none => .error .unavailable
    | some page =>
      match page.runs with
      | none => .error .listIncomplete
      | some more =>
        match page.nextCursor with
        | .absent => .ok (runs ++ more)
        | .other => .error .listIncomplete
        | .text next =>
          if seenCursors.contains next then .error .listIncomplete
          else readRuns list fuel (some next) (seenCursors ++ [next]) (runs ++ more)

def fromMinimum (source : RevocationSource) (run : WorkflowRun) : Bool :=
  run.runNumber.any (source.minimumWorkflowRunNumber ≤ ·)

def WorkflowRun.number (run : WorkflowRun) : Int := run.runNumber.getD 0

def orderRuns (source : RevocationSource) (runs : List WorkflowRun) : List WorkflowRun :=
  (runs.filter fun run => fromMinimum source run && run.runAttempt == 1).mergeSort
    fun left right => left.number ≤ right.number

/-- What the client has for a run. -/
def GithubClient.downloadRun (client : GithubClient Envelope) (source : RevocationSource)
    (run : WorkflowRun) : Option (Downloaded Envelope) :=
  client.downloadRunArtifact source.repository run.runId (source.artifactNamePrefix ++ run.runId)

/-- One pass of the loop over the runs. -/
def verifyRun (P : Platform) (client : GithubClient Envelope) (policy : ApprovalPolicy)
    (now : Option Int) (previousDigest : String) (run : WorkflowRun) :
    Except RevocationError VerifiedRevocationSet :=
  match client.downloadRun policy.revocationSource run with
  | none => .error .unavailable
  | some downloaded =>
    match downloaded.artifact with
    | none => .error .listIncomplete
    | some artifact => do
      require (artifact.sequence == run.number && artifact.workflowRunId == run.runId)
        (if artifact.sequence < run.number then .rollback else .listIncomplete)
      match verifyTrustedArtifactAttestation downloaded.attestation client.attestationVerifier
        (P.sha256Artifact artifact) with
      | .error _ => .error .attestationInvalid
      | .ok attestation =>
        verifyRevocationArtifact P (some artifact) policy attestation downloaded.custodyReceipt
          run.number previousDigest downloaded.previouslyObserved now

def fetchLatestTrustedRevocations (P : Platform) (fuel : Nat) (policy : ApprovalPolicy)
    (githubClient : Option (GithubClient Envelope)) (previouslyObserved : Option Observed)
    (now : Option Int) : Except RevocationError VerifiedRevocationSet := do
  require (P.validPolicy policy) .policyInvalid
  match githubClient with
  | none => .error .unavailable
  | some client => do
    let source := policy.revocationSource
    let runs ← readRuns
      (client.listSuccessfulWorkflowRuns source.repository source.workflowPath source.workflowRef)
      fuel none [] []
    let orderedRuns := orderRuns source runs
    require (!runs.any fun run => fromMinimum source run && run.runAttempt != 1) .listIncomplete
    match orderedRuns with
    | [] => .error .missing
    | first :: rest => do
      require (decide (orderedRuns.map (·.runNumber)).Nodup) .listIncomplete
      let set ← verifyRun P client policy now source.checkpointArtifactDigest first
      let latest ← rest.foldlM
        (fun latest run => verifyRun P client policy now latest.artifactDigest run) set
      require (!behind latest.sequence latest.artifactDigest previouslyObserved) .rollback
      pure latest

end SubscriptionSaas.Release
