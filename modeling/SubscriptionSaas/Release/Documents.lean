import SubscriptionSaas.Lib.Calendar
import SubscriptionSaas.Lib.Texts
import SubscriptionSaas.Release.ApprovalRevocations

/-!
# Signed documents of a release

A document is signed as the canonical JSON of an object that holds a domain and, under a name, the
document. What makes the text of a document, its digest and the check of a signature, and the check
against a document's schema, are in `Crypto`. A record stands for an object with exactly its keys.
-/

namespace SubscriptionSaas.Release

/-! ## Records -/

structure Signer where
  issuer : String
  keyId : String
  publicKey : String
  deriving DecidableEq

/-- A detached signature. -/
structure Signature where
  algorithm : String
  issuer : String
  keyId : String
  subjectDigest : String
  signature : String
  deriving DecidableEq

structure Workflow where
  path : String
  ref : String
  blobDigest : String
  deriving DecidableEq

/-- The fields of `bindingKeys`. -/
structure Binding where
  executionPurpose : String
  releaseAttemptId : String
  sourceSha : String
  producerWorkflow : Workflow
  rcWorkflow : Workflow
  buildProofDigest : String
  buildBundleDigest : String
  repositoryContractDigest : String
  adapterDigest : String
  revocationPolicyDigest : String
  deriving DecidableEq

/-- `rc-dispatch-authorization.v1`. -/
structure Authorization extends Binding where
  schemaVersion : String
  authorizationId : String
  issuer : String
  issuedAt : String
  notAfter : String
  deriving DecidableEq

/-- Where a document is archived. -/
structure Archive where
  reference : String
  objectKey : String
  objectVersion : String
  terminalAt : String
  snapshotExpiresAt : Option String
  downstreamRetainUntil : String
  legalHoldUntil : Option String
  deriving DecidableEq

/-- `i0-revocation-state.v1`. -/
structure RevocationState where
  schemaVersion : String
  policyDigest : String
  sequence : Int
  revokedAuthorizationIds : List String
  revokedAuthorizationDigests : List String
  deriving DecidableEq

/-- `i0-revocation-read.v1`. -/
structure RevocationResponse where
  schemaVersion : String
  issuer : String
  keyId : String
  policyDigest : String
  nonce : String
  authorizationDigest : String
  sequence : Int
  headDigest : String
  issuedAt : String
  notAfter : String
  revokedAuthorizationIds : List String
  revokedAuthorizationDigests : List String
  archive : Archive
  deriving DecidableEq

structure Worm where
  id : String
  state : String
  retentionDays : Int
  retainUntil : String
  deriving DecidableEq

/-- `authoritative-custody-observation.v1`. -/
structure CustodyObservation where
  schemaVersion : String
  issuer : String
  keyId : String
  storeRef : String
  objectKey : String
  objectVersion : String
  writerIdentity : String
  readerIdentity : String
  contentDigest : String
  receiptDigest : String
  headDigest : String
  getDigest : String
  contentSizeBytes : Int
  conditionalCreate : String
  acl : String
  lastModified : String
  readbackAt : String
  terminalAt : String
  downstreamRetainUntil : String
  snapshotExpiresAt : Option String
  legalHoldUntil : Option String
  worm : Worm
  deriving DecidableEq

inductive Document
  | authorization (authorization : Authorization)
  | state (state : RevocationState)
  | response (response : RevocationResponse)
  | observation (observation : CustodyObservation)
  | receipt (receipt : CustodyReceipt)
  /-- `{ domain, [name]: value }`. -/
  | signed (domain name : String) (value : Document)
  deriving DecidableEq

/-! ## What the code is given -/

inductive KeyType
  | ed25519 | other
  deriving DecidableEq

structure Crypto where
  canonicalJson : Document → List UInt8
  sha256Bytes : List UInt8 → String
  /-- The `asymmetricKeyType` of `createPublicKey`; `none` when the text is not a key. -/
  createPublicKey : String → Option KeyType
  verify (publicKey : String) (bytes : List UInt8) (signature : String) : Bool
  /-- Whether a document satisfies its schema. -/
  validateContract : Document → Bool

def Crypto.sha256Canonical (C : Crypto) (document : Document) : String :=
  C.sha256Bytes (C.canonicalJson document)

/-! ## Checks -/

/-- A text of 1 to 2048 units. -/
def idText (value : String) : Bool := value != "" && Texts.length value ≤ 2048

def base64Char (c : Char) : Bool :=
  ('A' ≤ c && c ≤ 'Z') || ('a' ≤ c && c ≤ 'z') || ('0' ≤ c && c ≤ '9') || c == '+' || c == '/'

/-- `/^[A-Za-z0-9+/]{86}==$/` that `base64` writes as it was read: of the last character before the
padding, which ends the 64 bytes, only two bits count. -/
def signatureText (text : String) : Bool :=
  fits (List.replicate 85 base64Char ++ ("AQgw".toList.contains ·) :: List.replicate 2 (· == '='))
    text.toList

/-- The keys and texts of a detached signature under a signer. -/
def Crypto.signatureMatches (C : Crypto) (value : Document) (detached : Signature) (signer : Signer)
    (domain name : String) : Bool :=
  detached.algorithm == "Ed25519" && detached.issuer == signer.issuer &&
    detached.keyId == signer.keyId && detached.subjectDigest == C.sha256Canonical value &&
    signatureText detached.signature &&
    C.verify signer.publicKey (C.canonicalJson (.signed domain name value)) detached.signature

end SubscriptionSaas.Release
