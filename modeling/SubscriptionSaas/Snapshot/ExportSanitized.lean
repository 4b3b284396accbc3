import SubscriptionSaas.Snapshot.ScanArtifact
import SubscriptionSaas.Snapshot.SourceGuard

/-!
# The export of a sanitized snapshot

`prepareSanitizedSnapshotBundle`, which restores a snapshot of the source in a workspace, transforms and
scans it there, and gives back the bundle when the source has been closed and the workspace destroyed.
-/

namespace SubscriptionSaas.Snapshot

open Calls Patterns Results

/-! ## Metadata -/

/-- `snapshot-metadata.v1`. -/
structure SnapshotMetadata where
  dumpDigest : String
  sourceMigrationHead : Value
  sourcePrivilegeObservationDigest : String
  sourceFingerprintBeforeDigest : String
  sourceFingerprintAfterDigest : String
  sanitizationContractDigest : String
  ownershipMapDigest : String
  ownershipContractVersion : String
  scanDigest : String
  scanSubjectDigest : String
  exportToolVersion : String
  scanToolVersion : String
  createdAt : String
  reviewAt : String
  expiresAt : String
  owner : String
  readers : List String
  accessPolicyRef : String
  workflowRunRef : String

def SnapshotMetadata.toValue (metadata : SnapshotMetadata) : Value :=
  .object [("schemaVersion", .string "snapshot-metadata.v1"),
    ("dumpDigest", .string metadata.dumpDigest),
    ("sourceMigrationHead", metadata.sourceMigrationHead),
    ("sourcePrivilegeObservationDigest", .string metadata.sourcePrivilegeObservationDigest),
    ("sourceFingerprintBeforeDigest", .string metadata.sourceFingerprintBeforeDigest),
    ("sourceFingerprintAfterDigest", .string metadata.sourceFingerprintAfterDigest),
    ("sanitizationContractDigest", .string metadata.sanitizationContractDigest),
    ("ownershipMapDigest", .string metadata.ownershipMapDigest),
    ("ownershipContractVersion", .string metadata.ownershipContractVersion),
    ("scanDigest", .string metadata.scanDigest),
    ("scanSubjectDigest", .string metadata.scanSubjectDigest),
    ("exportToolVersion", .string metadata.exportToolVersion),
    ("scanToolVersion", .string metadata.scanToolVersion),
    ("createdAt", .string metadata.createdAt), ("reviewAt", .string metadata.reviewAt),
    ("expiresAt", .string metadata.expiresAt), ("owner", .string metadata.owner),
    ("readers", .texts metadata.readers), ("accessPolicyRef", .string metadata.accessPolicyRef),
    ("workflowRunRef", .string metadata.workflowRunRef)]

/-- `left <= right`, which is false of what is not a number. -/
def notAfter : Option Int → Option Int → Bool
  | some left, some right => left ≤ right
  | _, _ => false

def isAfter : Option Int → Option Int → Bool
  | some left, some right => right < left
  | _, _ => false

variable (P : Platform)

/-- The time of the metadata is over, or has not begun or is no time. -/
def assertLifetime (metadata : SnapshotMetadata) (now : Int) : Except Value Unit := do
  require (!notAfter (P.dateParse metadata.expiresAt) (some now)) (snapshotError "SNAPSHOT_EXPIRED")
  require (!(isAfter (P.dateParse metadata.createdAt) (some now) ||
      notAfter (P.dateParse metadata.reviewAt) (P.dateParse metadata.createdAt) ||
      notAfter (P.dateParse metadata.expiresAt) (P.dateParse metadata.createdAt)))
    (snapshotError "SNAPSHOT_LIFECYCLE_INVALID")

/-- The error in which that of a schema is the cause. -/
def rejected (code : String) (x : Except Value Unit) : Except Value Unit :=
  match x with
  | .ok _ => .ok ()
  | .error error => .error (snapshotError code (.object [("cause", codeOf error)]))

/-- The checks of the metadata against the contract, the map, the dump and the scan. Without a dump, the
one of its bytes is left out. -/
def assertContents (metadata : SnapshotMetadata) (contract : SanitizationContract)
    (ownershipMap : OwnershipMap) (scan : Scan) (dump : Option (List UInt8)) : Except Value Unit := do
  let contractDigest ← sha256Canonical P contract.toValue
  require (metadata.sanitizationContractDigest == contractDigest) (snapshotError "SNAPSHOT_CONTRACT_DRIFT")
  let mapDigest ← sha256Canonical P ownershipMap.toValue
  require (metadata.ownershipMapDigest == mapDigest &&
      metadata.ownershipContractVersion == ownershipMap.mapVersion)
    (snapshotError "SNAPSHOT_OWNERSHIP_CONTRACT_DRIFT")
  require (contract.source.knownMigrationHeads.any metadata.sourceMigrationHead.isText)
    (snapshotError "SNAPSHOT_MIGRATION_HEAD_UNKNOWN")
  require (dump.all fun dump => metadata.dumpDigest == P.sha256Bytes dump)
    (snapshotError "SNAPSHOT_DUMP_DIGEST_MISMATCH")
  let scanDigest ← sha256Canonical P scan.toValue
  require (scan.status == "PASSED" && scan.findingsCount == 0 &&
      metadata.scanSubjectDigest == metadata.dumpDigest && scan.subjectDigest == metadata.dumpDigest &&
      scan.contractDigest == metadata.sanitizationContractDigest && metadata.scanDigest == scanDigest)
    (snapshotError "SNAPSHOT_SCAN_INVALID")
  if scan.version ≠ .v1 then
    rejected "SNAPSHOT_SCAN_INVALID" (validateContract P "sanitization-scan.v2" scan.toValue)
  require (dump.all fun dump => (scan.version != .v1) == isArchive dump)
    (snapshotError "SNAPSHOT_SCAN_INVALID")
  require (metadata.sourceFingerprintBeforeDigest == metadata.sourceFingerprintAfterDigest &&
      metadata.owner == contract.lifecycle.owner && metadata.readers == contract.lifecycle.readers &&
      metadata.accessPolicyRef == contract.lifecycle.accessPolicyRef)
    (snapshotError "SNAPSHOT_METADATA_SOURCE_MISMATCH")

/-- `verifySnapshotMetadataFields`, with the dump when its bytes are to be verified. -/
def verifySnapshotMetadataFields (metadata : SnapshotMetadata) (contract : SanitizationContract)
    (ownershipMap : OwnershipMap) (scan : Scan) (dump : Option (List UInt8)) (now : Value) :
    Except Value Unit := do
  assertContractSemantics P contract
  rejected "SNAPSHOT_METADATA_INVALID" (validateContract P "snapshot-metadata.v1" metadata.toValue)
  let now ← assertTimestamp now
  assertLifetime P metadata now
  assertContents P metadata contract ownershipMap scan dump

def verifySnapshotMetadata (metadata : SnapshotMetadata) (contract : SanitizationContract)
    (ownershipMap : OwnershipMap) (scan : Scan) (dump : List UInt8) (now : Value) : Except Value Unit :=
  verifySnapshotMetadataFields P metadata contract ownershipMap scan (some dump) now

/-! ## The bundle -/

structure Bundle where
  dump : List UInt8
  metadata : SnapshotMetadata
  privilegeObservation : PrivilegeObservation
  fingerprintObservationBefore : SourceFingerprint
  fingerprintObservation : SourceFingerprint
  scan : Scan

/-- What is read of the workspace. -/
structure Workspace where
  trustPolicy : Option String
  restoreRaw : Bool
  applyTransformations : Bool
  exportSanitized : Bool
  expandSanitizedArchive : Bool
  destroy : Bool
  deriving DecidableEq

/-- The parameters of `prepareSanitizedSnapshotBundle` besides the clock. -/
structure Preparation where
  contract : SanitizationContract
  ownershipMap : OwnershipMap
  source : Source
  workspace : Workspace
  secretReference : Option String
  tokenizationSecretReference : Option String
  workflowRunRef : Option String
  snapshotAllocatedAt : Option String := none
  forbidden : List String := []
  deriving DecidableEq

def admits (input : Preparation) : Bool :=
  input.forbidden.isEmpty &&
    input.workspace.trustPolicy == some "isolated-sanitization-workspace/v1" &&
    input.source.openReadOnlySnapshot && input.source.exportRaw && input.source.closeSnapshot &&
    input.workspace.restoreRaw && input.workspace.applyTransformations &&
    input.workspace.exportSanitized && input.workspace.destroy &&
    input.tokenizationSecretReference.any (fun text => testStart secretReferencePattern text.toList) &&
    input.workflowRunRef.any (· != "")

/-- When the snapshot begins: when it was allocated, or at the time of the observation. -/
def createdAt (snapshotAllocatedAt : Option String) (observedAt : Int) : Except Value Int :=
  match snapshotAllocatedAt with
  | none => .ok observedAt
  | some allocated =>
    match P.dateParse allocated with
    | none => .error (snapshotError "SNAPSHOT_CLOCK_INVALID")
    | some time =>
      if observedAt < time then .error (snapshotError "SNAPSHOT_CLOCK_INVALID")
      else do
        let text ← isoString time
        require (text == allocated) (snapshotError "SNAPSHOT_CLOCK_INVALID")
        .ok time

/-- `new Date(value).setUTCDate(… + days)`. -/
def addUtcDays (time days : Int) : Int := time + 86400000 * days

/-- The identifier of a snapshot that is read in one read-only transaction. -/
def snapshotIdOf (snapshot : Value) : Except Value String :=
  match (snapshot.get "snapshotId").text? with
  | some snapshotId =>
    if (snapshot.get "isolationLevel").isText "REPEATABLE READ" ∧ (snapshot.get "readOnly").isTrue ∧
        snapshotId ≠ "" then .ok snapshotId
    else .error (snapshotError "SNAPSHOT_SOURCE_TRANSACTION_INVALID")
  | none => .error (snapshotError "SNAPSHOT_SOURCE_TRANSACTION_INVALID")

def rawOf (raw : Value) : Except Value (List UInt8) :=
  match raw.bytes? with
  | some bytes => .ok bytes
  | none => .error (snapshotError "SNAPSHOT_RAW_EXPORT_INVALID")

def bufferOf (value : Value) : Except Value (List UInt8) :=
  match P.bufferFrom value with
  | some bytes => .ok bytes
  | none => .error typeError

/-- What an archive expands to, when the workspace expands archives. -/
def expand (E : Env) (workspace : Workspace) (archive : List UInt8) : Export Value :=
  if workspace.expandSanitizedArchive then
    Run.await E (.expandSanitizedArchive archive (P.sha256Bytes archive) 1073741824)
  else pure .undefined

/-- The scan of the dump, which is expanded first when it is an archive. -/
def scanDump (E : Env) (input : Preparation) (sanitized : List UInt8) : Export Scan := do
  if isArchive sanitized then
    let expansion ← expand P E input.workspace sanitized
    let scannedAt ← clock E
    Procedure.lift (scanSanitizedArchive P sanitized expansion input.contract scannedAt)
  else
    let scannedAt ← clock E
    Procedure.lift (scanSanitizedArtifact P sanitized input.contract scannedAt)

def metadataOf (input : Preparation) (observation : PrivilegeObservation)
    (before : SourceFingerprint) (beforeIdentityDigest afterIdentityDigest : String)
    (dump : List UInt8) (scan : Scan) (created : Int) : Except Value SnapshotMetadata := do
  let privilegeDigest ← sha256Canonical P observation.toValue
  let contractDigest ← sha256Canonical P input.contract.toValue
  let mapDigest ← sha256Canonical P input.ownershipMap.toValue
  let scanDigest ← sha256Canonical P scan.toValue
  let createdAt ← isoString created
  let reviewAt ← isoString (addUtcDays created input.contract.lifecycle.reviewAfterDays)
  let expiresAt ← isoString (addUtcDays created input.contract.lifecycle.expiresAfterDays)
  let metadata : SnapshotMetadata :=
    { dumpDigest := P.sha256Bytes dump
      sourceMigrationHead := before.identity.migrationHead
      sourcePrivilegeObservationDigest := privilegeDigest
      sourceFingerprintBeforeDigest := beforeIdentityDigest
      sourceFingerprintAfterDigest := afterIdentityDigest
      sanitizationContractDigest := contractDigest
      ownershipMapDigest := mapDigest
      ownershipContractVersion := input.ownershipMap.mapVersion
      scanDigest
      scanSubjectDigest := scan.subjectDigest
      exportToolVersion := input.contract.tools.exporterVersion
      scanToolVersion := input.contract.tools.scannerVersion
      createdAt
      reviewAt
      expiresAt
      owner := input.contract.lifecycle.owner
      readers := input.contract.lifecycle.readers
      accessPolicyRef := input.contract.lifecycle.accessPolicyRef
      workflowRunRef := input.workflowRunRef.getD "" }
  let _ ← immutable P metadata.toValue
  .ok metadata

/-- From the first observation of the source on, up to the bundle. -/
def sanitize (E : Env) (input : Preparation) (observedAt created : Int) : Export Bundle := do
  let privilegeObservation ← assertReadOnlySnapshotSource P E input.source input.secretReference
    input.ownershipMap (.date (some observedAt))
  let snapshot ← Run.await E (.openReadOnlySnapshot input.secretReference)
  let snapshotId ← Procedure.lift (snapshotIdOf snapshot)
  let now ← clock E
  let before ← fingerprintSourceSnapshot P E input.source snapshotId input.contract.source.keyTables now
  let exported ← Run.await E (.exportRaw snapshotId)
  let raw ← Procedure.lift (rawOf exported)
  let _ ← Run.await E (.restoreRaw raw)
  let _ ← Run.await E (.applyTransformations input.contract
    (input.tokenizationSecretReference.getD "") "forbidden")
  let sanitized ← Run.await E .exportSanitized
  let dump ← Procedure.lift (bufferOf P sanitized)
  let scan ← scanDump P E input dump
  let now ← clock E
  let after ← fingerprintSourceSnapshot P E input.source snapshotId input.contract.source.keyTables now
  let beforeIdentityDigest ← Procedure.lift (sha256Canonical P before.identity.toValue)
  let afterIdentityDigest ← Procedure.lift (sha256Canonical P after.identity.toValue)
  Procedure.require (beforeIdentityDigest == afterIdentityDigest)
    (snapshotError "SNAPSHOT_SOURCE_FINGERPRINT_CHANGED")
  let metadata ← Procedure.lift (metadataOf P input privilegeObservation before beforeIdentityDigest
    afterIdentityDigest dump scan created)
  let now ← clock E
  Procedure.lift (verifySnapshotMetadata P metadata input.contract input.ownershipMap scan dump now)
  pure ⟨dump, metadata, privilegeObservation, before, after, scan⟩

/-! ## Cleaning up -/

/-- The cleaning up that the bundle waits for. -/
def closeAndDestroy (E : Env) : Export Unit :=
  Procedure.rethrow
    (do
      let _ ← Run.await E .closeSnapshot
      Run.setVars fun flags => { flags with sourceNeedsClose := false }
      let _ ← Run.await E .destroy
      Run.setVars fun flags => { flags with workspaceDestroyed := true })
    fun error => snapshotError "SNAPSHOT_SECURE_CLEANUP_FAILED" (.object [("cause", codeOf error)])

/-- `error?.code?.startsWith("SNAPSHOT_")`. A code that is no text has no such method. -/
def rewrap (error : Value) : Value :=
  match codeOf error with
  | .string code =>
    if "SNAPSHOT_".toList.isPrefixOf code.toList then error
    else snapshotError "SNAPSHOT_PUBLICATION_INCOMPLETE_FORBIDDEN" (.object [("cause", .string code)])
  | .undefined | .null =>
    snapshotError "SNAPSHOT_PUBLICATION_INCOMPLETE_FORBIDDEN" (.object [("cause", error.get "message")])
  | _ => typeError

/-- Whether `catch` has pushed an error. What is no promise has no `catch`. -/
def caught : Response Value → Except Value Bool
  | .resolves _ => .ok false
  | .rejects _ => .ok true
  | .returns _ => .error typeError
  | .throws error => .error error

/-- `await call().catch((error) => cleanupErrors.push(error))`. -/
def catching (E : Env) (c : Call) : Export Bool := do
  let response ← Run.call E c
  Procedure.lift (caught response)

def catchingIf (condition : Bool) (E : Env) (c : Call) : Export Bool :=
  if condition then catching E c else pure false

/-- The last part. -/
def cleanUp (E : Env) : Export Unit := do
  let flags ← Run.getVars
  let closeFailed ← catchingIf flags.sourceNeedsClose E .closeSnapshot
  let destroyFailed ← catchingIf (!flags.workspaceDestroyed) E .destroy
  Procedure.require (!(closeFailed || destroyFailed)) (snapshotError "SNAPSHOT_SECURE_CLEANUP_FAILED")

/-- What is tried, up to the bundle. -/
def attempt (E : Env) (input : Preparation) : Export Bundle := do
  let now ← callNow E
  let observedAt ← Procedure.lift (assertTimestamp now)
  let created ← Procedure.lift (createdAt P input.snapshotAllocatedAt observedAt)
  Run.setVars fun flags => { flags with sourceNeedsClose := true }
  let bundle ← sanitize P E input observedAt created
  closeAndDestroy E
  pure bundle

/-- What is checked before anything is called. -/
def assertInput (input : Preparation) : Except Value Unit := do
  require (admits input) (snapshotError "SNAPSHOT_EXPORT_INPUT_INVALID")
  assertContractSemantics P input.contract
  validateContract P "ownership-map.v1" input.ownershipMap.toValue

def prepareSanitizedSnapshotBundle (E : Env) (input : Preparation) : Export Bundle := do
  Procedure.lift (assertInput P input)
  Procedure.finallyDo (Procedure.rethrow (attempt P E input) rewrap) (cleanUp E)

/-- A run from the beginning. -/
def prepared (E : Env) (input : Preparation) : Except Value Bundle × Frame Call Value Flags :=
  prepareSanitizedSnapshotBundle P E input ⟨[], {}⟩

/-! ## What a run achieves -/

abbrev Log := List (Call × Response Value)

def Call.cleans : Call → Bool
  | .closeSnapshot | .destroy => true
  | _ => false

def Call.observes : Call → Bool
  | .observePrivileges _ => true
  | _ => false

/-- The privileges of the source have been asked for. -/
def Observed (log : Log) : Prop := ∃ e ∈ log, e.1.observes = true

def Attempted (c : Call) (log : Log) : Prop := ∃ e ∈ log, e.1 = c

/-- Closing the source or destroying the workspace has failed. -/
def CleanupFailed (log : Log) : Prop := ∃ e ∈ log, e.1.cleans = true ∧ e.2.fails = true

structure SoundBundle (input : Preparation) (log : Log) (bundle : Bundle) : Prop where
  closed : Attempted .closeSnapshot log
  destroyed : Attempted .destroy log
  clean : ¬CleanupFailed log
  fingerprints : ∃ digest,
    sha256Canonical P bundle.fingerprintObservationBefore.identity.toValue = .ok digest ∧
      sha256Canonical P bundle.fingerprintObservation.identity.toValue = .ok digest
  scanned : ∃ scannedAt,
    scanSanitizedArtifact P bundle.dump input.contract scannedAt = .ok bundle.scan ∨
      ∃ expansion, scanSanitizedArchive P bundle.dump expansion input.contract scannedAt = .ok bundle.scan
  /-- From its creation on and before it expires. -/
  verified : ∀ time : Int, isAfter (P.dateParse bundle.metadata.createdAt) (some time) = false →
    notAfter (P.dateParse bundle.metadata.expiresAt) (some time) = false →
      verifySnapshotMetadata P bundle.metadata input.contract input.ownershipMap bundle.scan bundle.dump
        (.date (some time)) = .ok ()

/-- Nothing is left behind: a bundle is sound, and once the privileges have been observed, both parts of
the cleaning up have been attempted and a failure of them is reported. -/
structure Secure (E : Env) (input : Preparation) : Prop where
  sound : ∀ bundle, (prepared P E input).1 = .ok bundle →
    SoundBundle P input (prepared P E input).2.calls bundle
  attempted : Observed (prepared P E input).2.calls →
    Attempted .closeSnapshot (prepared P E input).2.calls ∧ Attempted .destroy (prepared P E input).2.calls
  reported : Observed (prepared P E input).2.calls → CleanupFailed (prepared P E input).2.calls →
    ∃ error, (prepared P E input).1 = .error error ∧ hasCode "SNAPSHOT_SECURE_CLEANUP_FAILED" error = true

/-! ## The responses to the last part -/

/-- A response to the last call of the workspace after which a failure is reported as it is to be. -/
def Tolerable (log : Log) : Response Value → Prop
  | .resolves _ | .rejects _ => True
  | .returns _ => ¬CleanupFailed log
  | .throws error => hasCode "SNAPSHOT_SECURE_CLEANUP_FAILED" error = true

/-- Where the last part begins. -/
def beforeCleanUp (E : Env) (input : Preparation) : Frame Call Value Flags :=
  (attempt P E input ⟨[], {}⟩).2

/-- The log after the source has been closed in the last part, if it is. -/
def afterClose (E : Env) (f : Frame Call Value Flags) : Log :=
  f.calls ++ if f.vars.sourceNeedsClose then [(.closeSnapshot, E f.calls .closeSnapshot)] else []

/-- In the last part, closing the source gives a promise and destroying the workspace a tolerable
response. -/
structure CleansUp (E : Env) (f : Frame Call Value Flags) : Prop where
  close : f.vars.sourceNeedsClose = true → (E f.calls .closeSnapshot).isPromise = true
  destroy : f.vars.workspaceDestroyed = false →
    Tolerable (afterClose E f) (E (afterClose E f) .destroy)

end SubscriptionSaas.Snapshot
