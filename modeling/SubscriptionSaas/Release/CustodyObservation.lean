import SubscriptionSaas.Release.Documents

/-!
# Observations of what is in custody

`verifyAuthoritativeCustodyObservation` accepts the archived bytes of a document when an observer has
signed that the store holds them, locked for long enough. Whatever it does not accept is one error.
-/

namespace SubscriptionSaas.Release

/-- The policy of a private store and of the observer that signs for it. -/
structure CustodyTrust where
  signer : Signer
  writerIdentity : String
  readerIdentity : String
  storeRef : String
  owner : String
  readers : List String
  deriving DecidableEq

/-- What the observation has to be about. -/
structure ExpectedCustody where
  contentDigest : String
  storeRef : String
  objectKey : String
  objectVersion : String
  terminalAt : String
  snapshotExpiresAt : Option String
  downstreamRetainUntil : String
  legalHoldUntil : Option String
  deriving DecidableEq

/-- The result. An instant stands for its `toISOString`. -/
structure VerifiedCustody where
  contentDigest : String
  objectVersion : String
  observationDigest : String
  requiredRetainUntil : Int
  retainUntil : Int
  deriving DecidableEq

def day : Int := 86400000

def CustodyTrust.valid (trustPolicy : CustodyTrust) : Bool :=
  [trustPolicy.writerIdentity, trustPolicy.readerIdentity, trustPolicy.storeRef, trustPolicy.owner,
    trustPolicy.signer.issuer, trustPolicy.signer.keyId, trustPolicy.signer.publicKey].all idText &&
    trustPolicy.writerIdentity != trustPolicy.readerIdentity && trustPolicy.readers != [] &&
    trustPolicy.readers.all idText && decide trustPolicy.readers.Nodup

def CustodyObservation.isOf (observation : CustodyObservation) (expected : ExpectedCustody) : Bool :=
  observation.contentDigest == expected.contentDigest && observation.storeRef == expected.storeRef &&
    observation.objectKey == expected.objectKey &&
    observation.objectVersion == expected.objectVersion &&
    observation.terminalAt == expected.terminalAt &&
    observation.snapshotExpiresAt == expected.snapshotExpiresAt &&
    observation.downstreamRetainUntil == expected.downstreamRetainUntil &&
    observation.legalHoldUntil == expected.legalHoldUntil

/-- The digests, sizes and identities that the bytes, the receipt and the observation share. -/
def Crypto.sameContent (C : Crypto) (originalBytes : List UInt8) (receipt : CustodyReceipt)
    (observation : CustodyObservation) (expected : ExpectedCustody) (trustPolicy : CustodyTrust) :
    Bool :=
  let digest := C.sha256Bytes originalBytes
  digest == expected.contentDigest && receipt.contentDigest == digest &&
    receipt.readbackDigest == digest && observation.headDigest == digest &&
    observation.getDigest == digest &&
    observation.receiptDigest == C.sha256Canonical (.receipt receipt) &&
    observation.contentSizeBytes == originalBytes.length &&
    receipt.contentSizeBytes == originalBytes.length &&
    observation.storeRef == trustPolicy.storeRef && receipt.storeRef == trustPolicy.storeRef &&
    observation.writerIdentity == trustPolicy.writerIdentity &&
    observation.readerIdentity == trustPolicy.readerIdentity &&
    receipt.owner == trustPolicy.owner && receipt.readers == trustPolicy.readers

/-- An instant that may be absent, some days later; an absent one counts as zero. -/
def instantOrZero (value : Option String) (days : Int) : Option Int :=
  match value with
  | none => some 0
  | some value => (Calendar.ofUTCText value).map (· + days * day)

def Crypto.verifyAuthoritativeCustodyObservation (C : Crypto) (originalBytes : List UInt8)
    (receipt : CustodyReceipt) (observation : CustodyObservation) (signature : Signature)
    (expected : ExpectedCustody) (trustPolicy : CustodyTrust) (now : Int) :
    Option VerifiedCustody := do
  guard (originalBytes.length ≤ 1048576)
  guard (trustPolicy.valid &&
    [expected.storeRef, expected.objectKey, expected.objectVersion].all idText &&
    digestPattern expected.contentDigest)
  guard (C.validateContract (.observation observation))
  guard (C.validateContract (.receipt receipt))
  guard (C.createPublicKey trustPolicy.signer.publicKey == some .ed25519 &&
    observation.issuer == signature.issuer && observation.keyId == signature.keyId &&
    C.signatureMatches (.observation observation) signature trustPolicy.signer
      "authoritative-custody-observation.v1" "observation")
  guard (observation.isOf expected)
  guard (C.sameContent originalBytes receipt observation expected trustPolicy)
  let terminal ← Calendar.ofUTCText observation.terminalAt
  let modified ← Calendar.ofUTCText observation.lastModified
  let readback ← Calendar.ofUTCText observation.readbackAt
  let uploaded ← Calendar.ofUTCText receipt.uploadedAt
  let receiptReadback ← Calendar.ofUTCText receipt.readbackAt
  let snapshotUntil ← instantOrZero observation.snapshotExpiresAt 180
  let downstreamUntil ← Calendar.ofUTCText observation.downstreamRetainUntil
  let legalHoldUntil ← instantOrZero observation.legalHoldUntil 0
  let required := max (max (terminal + 180 * day) snapshotUntil) (max downstreamUntil legalHoldUntil)
  let retain ← Calendar.ofUTCText observation.worm.retainUntil
  let receiptRetain ← Calendar.ofUTCText receipt.retainUntil
  let locked := modified + observation.worm.retentionDays * day
  guard (terminal ≤ now && modified ≤ readback && terminal ≤ readback && readback ≤ now &&
    uploaded == modified && modified ≤ receiptReadback && receiptReadback ≤ readback &&
    required ≤ retain && required ≤ locked && required ≤ receiptRetain)
  pure
    { contentDigest := C.sha256Bytes originalBytes
      objectVersion := observation.objectVersion
      observationDigest := signature.subjectDigest
      requiredRetainUntil := required
      retainUntil := min retain locked }

end SubscriptionSaas.Release
