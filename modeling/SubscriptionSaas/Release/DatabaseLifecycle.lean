import SubscriptionSaas.Lib.Cluster
import SubscriptionSaas.Lib.Results
import SubscriptionSaas.Lib.Tables
import SubscriptionSaas.Release.ExecutionStateMachine

/-!
# The databases of test suites

`provisionSuiteDatabase` makes the roles and the database of one shard of a suite in several statement
batches, and rolls back what it has made when one of them fails; `cleanupSuiteDatabase` drops them
again, by the record that provisioning returned. Calls share a cluster. Each batch is one event, it may
fail without effect, and a process may stop between two of them.

Names are derived from the identity of the shard, so that calls with the same identity meet the same
roles and database.
-/

namespace SubscriptionSaas.Release

open Cluster Results

inductive LifecycleError
  | targetRejected | secretReferenceInvalid | namePolicyMismatch | provisionIdentityMismatch
  | recordContainsSecret | rollbackFailed | cleanupIdentityMismatch
  /-- The error of the cluster. -/
  | statementFailed
  deriving DecidableEq

/-! ## Records -/

structure DatabaseTarget where
  policyId : String
  environment : String
  host : String
  clusterMarker : String
  clusterFingerprint : String
  imageDigest : String
  serverVersionNum : String
  deriving DecidableEq

structure DatabaseTargetPolicy where
  schemaVersion : String
  policyId : String
  allowedEnvironments : List String
  allowedHosts : List String
  requiredClusterMarker : String
  requiredEphemeralMarker : String
  requiredImageDigest : String
  requiredServerVersionMajor : Nat
  databaseNamePattern : String
  deriving DecidableEq

structure RoleNames where
  migrate : String
  runtimeTest : String
  restore : Option String
  deriving DecidableEq

/-- What the secret store answers for a profile. -/
structure Secret where
  username : String
  password : String
  reference : String
  deriving DecidableEq

structure SecretReferences where
  migrate : String
  runtimeTest : String
  restore : Option String
  deriving DecidableEq

/-- The object of which a database's comment is the text. An instant stands for its `toISOString`. -/
structure DatabaseMarker where
  markerVersion : String
  runIdDigest : String
  suiteIdDigest : String
  shard : Int
  createdAt : Int
  deriving DecidableEq

/-- `provisioned-database.v1`. -/
structure DatabaseRecord where
  recordVersion : String
  targetFingerprint : String
  databaseName : String
  databaseOid : Nat
  marker : String
  runId : String
  suiteId : String
  shard : Int
  roles : RoleNames
  secretReferences : SecretReferences
  createdAt : Int
  deriving DecidableEq

/-- The digests, and the text of a marker. -/
structure LifecyclePlatform where
  sha256Text : String → String
  sha256Canonical : String → String
  canonicalJson : DatabaseMarker → String

/-- A secret is `none` when the store does not answer one. -/
structure ProvisionInput where
  target : DatabaseTarget
  policy : DatabaseTargetPolicy
  runId : String
  suiteId : String
  shard : Int
  createdAt : Int
  enableRestore : Bool
  migrateSecret : Option Secret
  runtimeSecret : Option Secret
  restoreSecret : Option Secret
  deriving DecidableEq

structure CleanupInput where
  record : DatabaseRecord
  target : DatabaseTarget
  policy : DatabaseTargetPolicy
  deriving DecidableEq

/-! ## Names and checks -/

variable (P : LifecyclePlatform)

def first24 (text : String) : String := String.ofList (text.toList.take 24)

def suiteDatabaseName (runId suiteId : String) (shard : Int) : Except LifecycleError String := do
  require (runId != "" && suiteId != "" && 0 ≤ shard) .targetRejected
  pure ("s1ci_" ++ first24 (P.sha256Text (runId ++ ":" ++ suiteId ++ ":" ++ toString shard)))

def roleSuffix (databaseName : String) : String := first24 (P.sha256Text databaseName)

def roleNames (databaseName : String) (enableRestore : Bool) : RoleNames :=
  { migrate := "s1m_" ++ roleSuffix P databaseName
    runtimeTest := "s1r_" ++ roleSuffix P databaseName
    restore := if enableRestore then some ("s1x_" ++ roleSuffix P databaseName) else none }

def isDigit (c : Char) : Bool := '0' ≤ c && c ≤ '9'

/-- `/^s1ci_[0-9a-f]{24}$/`. -/
def databaseNamePattern (text : String) : Bool :=
  fits ("s1ci_".toList.map (fun c d => d == c) ++ List.replicate 24 lowerHex) text.toList

def assertApprovedEphemeralTarget (metadata : DatabaseTarget) (policy : DatabaseTargetPolicy) :
    Except LifecycleError Unit :=
  require (policy.schemaVersion == "database-target-policy.v1" &&
    metadata.policyId == policy.policyId &&
    policy.allowedEnvironments.contains metadata.environment &&
    policy.allowedHosts.contains metadata.host &&
    metadata.clusterMarker == policy.requiredClusterMarker &&
    metadata.imageDigest == policy.requiredImageDigest &&
    digestPattern metadata.clusterFingerprint &&
    fits ((toString policy.requiredServerVersionMajor).toList.map (fun c d => d == c) ++
      List.replicate 4 isDigit) metadata.serverVersionNum.toList &&
    policy.databaseNamePattern == "^s1ci_[0-9a-f]{24}$") .targetRejected

/-- `/postgres(?:ql)?:\/\//i`. -/
def containsUrl (text : String) : Bool :=
  let lower := text.toList.map fun c => if 'A' ≤ c ∧ c ≤ 'Z' then Char.ofNat (c.toNat + 32) else c
  lower.tails.any fun rest =>
    "postgres://".toList.isPrefixOf rest || "postgresql://".toList.isPrefixOf rest

def assertSecret (secret : Option Secret) (expectedUsername : String) : Except LifecycleError Secret :=
  match secret with
  | none => .error .secretReferenceInvalid
  | some secret => do
    require (secret.username == expectedUsername && 16 ≤ secret.password.length &&
      secret.reference != "" && !containsUrl secret.reference) .secretReferenceInvalid
    pure secret

/-- The reference of the restore profile's secret, when the profile is enabled. -/
def restoreReference (secret : Option Secret) (expectedUsername : Option String) :
    Except LifecycleError (Option String) :=
  match expectedUsername with
  | none => .ok none
  | some username => (some ·.reference) <$> assertSecret secret username

/-- The serialized record mentions a URL: its keys hold no password. -/
def DatabaseRecord.containsSecret (record : DatabaseRecord) : Bool :=
  [record.recordVersion, record.targetFingerprint, record.databaseName, record.marker, record.runId,
    record.suiteId, record.roles.migrate, record.roles.runtimeTest, record.roles.restore.getD "",
    record.secretReferences.migrate, record.secretReferences.runtimeTest,
    record.secretReferences.restore.getD ""].any containsUrl

def RoleNames.all (roles : RoleNames) : List String :=
  [roles.migrate, roles.runtimeTest] ++ roles.restore.toList

/-- The order in which roles are dropped. -/
def RoleNames.dropped (roles : RoleNames) : List String :=
  roles.restore.toList ++ [roles.runtimeTest, roles.migrate]

/-! ## Calls -/

/-- What a provisioning has fixed before its first statement. -/
structure ProvisionPlan where
  targetFingerprint : String
  databaseName : String
  marker : String
  runId : String
  suiteId : String
  shard : Int
  roles : RoleNames
  secretReferences : SecretReferences
  createdAt : Int
  deriving DecidableEq

def ProvisionPlan.record (plan : ProvisionPlan) (oid : Nat) : DatabaseRecord :=
  { recordVersion := "provisioned-database.v1"
    targetFingerprint := plan.targetFingerprint
    databaseName := plan.databaseName
    databaseOid := oid
    marker := plan.marker
    runId := plan.runId
    suiteId := plan.suiteId
    shard := plan.shard
    roles := plan.roles
    secretReferences := plan.secretReferences
    createdAt := plan.createdAt }

inductive ProvisionStep
  | createRoles | createDatabase | describe | ownSchema | identify
  /-- `rollbackPartial`. -/
  | rollbackTerminate | rollbackDatabase | rollbackRoles
  deriving DecidableEq

inductive CleanupStep
  | identify | terminate | dropDatabase | dropRoles
  deriving DecidableEq

/-- What a call is about, and its next statement. A rollback keeps the error that caused it. -/
inductive Work
  | provision (plan : ProvisionPlan) (step : ProvisionStep) (cause : Option LifecycleError)
  | cleanup (record : DatabaseRecord) (step : CleanupStep)
  deriving DecidableEq

inductive Status
  | running | returned (record : DatabaseRecord) | cleaned | failed (error : LifecycleError) | stopped
  deriving DecidableEq

structure LifecycleCall where
  work : Work
  status : Status
  deriving DecidableEq

/-- The checks of `provisionSuiteDatabase` before its first statement. -/
def prepareProvision (input : ProvisionInput) : Except LifecycleError ProvisionPlan := do
  assertApprovedEphemeralTarget input.target input.policy
  let databaseName ← suiteDatabaseName P input.runId input.suiteId input.shard
  require (databaseNamePattern databaseName) .namePolicyMismatch
  let roles := roleNames P databaseName input.enableRestore
  let migrateSecret ← assertSecret input.migrateSecret roles.migrate
  let runtimeSecret ← assertSecret input.runtimeSecret roles.runtimeTest
  let restore ← restoreReference input.restoreSecret roles.restore
  pure
    { targetFingerprint := input.target.clusterFingerprint
      databaseName := databaseName
      marker := P.canonicalJson
        { markerVersion := input.policy.requiredEphemeralMarker
          runIdDigest := P.sha256Canonical input.runId
          suiteIdDigest := P.sha256Canonical input.suiteId
          shard := input.shard
          createdAt := input.createdAt }
      runId := input.runId
      suiteId := input.suiteId
      shard := input.shard
      roles := roles
      secretReferences := ⟨migrateSecret.reference, runtimeSecret.reference, restore⟩
      createdAt := input.createdAt }

/-- The checks of `cleanupSuiteDatabase` before its first statement. -/
def prepareCleanup (input : CleanupInput) : Except LifecycleError DatabaseRecord := do
  assertApprovedEphemeralTarget input.target input.policy
  let record := input.record
  require (record.recordVersion == "provisioned-database.v1") .cleanupIdentityMismatch
  let expectedName ← suiteDatabaseName P record.runId record.suiteId record.shard
  require (record.databaseName == expectedName &&
    record.targetFingerprint == input.target.clusterFingerprint &&
    record.roles == roleNames P expectedName record.roles.restore.isSome &&
    record.secretReferences.restore.isSome == record.roles.restore.isSome) .cleanupIdentityMismatch
  pure record

def Work.statement : Work → Statement
  | .provision plan .createRoles _ => .createRoles plan.roles.all
  | .provision plan .createDatabase _ => .createDatabase plan.databaseName plan.roles.migrate
  | .provision plan .describe _ =>
    .describeDatabase plan.databaseName plan.marker plan.roles.all
  | .provision plan .ownSchema _ => .alterSchemaOwner plan.databaseName plan.roles.migrate
  | .provision plan .identify _ => .selectDatabase plan.databaseName
  | .provision plan .rollbackTerminate _ => .terminateBackends plan.databaseName
  | .provision plan .rollbackDatabase _ => .dropDatabase plan.databaseName true
  | .provision plan .rollbackRoles _ => .dropRoles plan.roles.dropped true
  | .cleanup record .identify => .selectDatabase record.databaseName
  | .cleanup record .terminate => .terminateBackends record.databaseName
  | .cleanup record .dropDatabase => .dropDatabase record.databaseName false
  | .cleanup record .dropRoles => .dropRoles record.roles.dropped false

/-- The last check of a provisioning, with the row of its database. -/
def ProvisionPlan.identified (plan : ProvisionPlan) (row : Option (Nat × String)) : LifecycleCall :=
  let rollBack (error : LifecycleError) : LifecycleCall :=
    ⟨.provision plan .rollbackTerminate (some error), .running⟩
  match row with
  | none => rollBack .provisionIdentityMismatch
  | some (oid, marker) =>
    if marker ≠ plan.marker then rollBack .provisionIdentityMismatch
    else if (plan.record oid).containsSecret then rollBack .recordContainsSecret
    else ⟨.provision plan .identify none, .returned (plan.record oid)⟩

/-- A call after its statement has succeeded. -/
def Work.afterSuccess (row : Option (Nat × String)) : Work → LifecycleCall
  | .provision plan .createRoles cause => ⟨.provision plan .createDatabase cause, .running⟩
  | .provision plan .createDatabase cause => ⟨.provision plan .describe cause, .running⟩
  | .provision plan .describe cause => ⟨.provision plan .ownSchema cause, .running⟩
  | .provision plan .ownSchema cause => ⟨.provision plan .identify cause, .running⟩
  | .provision plan .identify _ => plan.identified row
  | .provision plan .rollbackTerminate cause => ⟨.provision plan .rollbackDatabase cause, .running⟩
  | .provision plan .rollbackDatabase cause => ⟨.provision plan .rollbackRoles cause, .running⟩
  | .provision plan .rollbackRoles cause =>
    ⟨.provision plan .rollbackRoles cause, .failed (cause.getD .statementFailed)⟩
  | .cleanup record .identify =>
    if row = some (record.databaseOid, record.marker) then ⟨.cleanup record .terminate, .running⟩
    else ⟨.cleanup record .identify, .failed .cleanupIdentityMismatch⟩
  | .cleanup record .terminate => ⟨.cleanup record .dropDatabase, .running⟩
  | .cleanup record .dropDatabase => ⟨.cleanup record .dropRoles, .running⟩
  | .cleanup record .dropRoles => ⟨.cleanup record .dropRoles, .cleaned⟩

/-- A call after its statement has failed: a provisioning rolls back, and drops the database only if
it has created it. -/
def Work.afterFailure : Work → LifecycleCall
  | .provision plan .createRoles _ | .provision plan .createDatabase _ =>
    ⟨.provision plan .rollbackRoles (some .statementFailed), .running⟩
  | .provision plan .describe _ | .provision plan .ownSchema _ | .provision plan .identify _ =>
    ⟨.provision plan .rollbackTerminate (some .statementFailed), .running⟩
  | .provision plan step cause => ⟨.provision plan step cause, .failed .rollbackFailed⟩
  | .cleanup record step => ⟨.cleanup record step, .failed .statementFailed⟩

/-! ## The cluster and its callers -/

/-- A role or database that the statement of a call has dropped. -/
inductive Drop
  | role (call : Nat) (role : Role)
  | database (call : Nat) (database : Database)
  deriving DecidableEq

structure LifecycleWorld where
  cluster : State
  calls : List LifecycleCall
  dropped : List Drop

inductive LifecycleEvent
  | provision (input : ProvisionInput)
  | cleanup (input : CleanupInput)
  /-- The call's next statement is executed, or fails without being executed. -/
  | run (call : Nat) (works : Bool)
  /-- The process of the call stops. -/
  | stop (call : Nat)

/-- What is in the first cluster and not in the second one. -/
def drops (call : Nat) (s s' : State) : List Drop :=
  (s.roles.filter (!s'.roles.contains ·)).map (.role call) ++
    (s.databases.filter fun d => !s'.databases.any (·.oid == d.oid)).map (.database call)

def LifecycleWorld.begin (w : LifecycleWorld) (work : Except LifecycleError Work) : LifecycleWorld :=
  match work with
  | .ok work => { w with calls := w.calls ++ [⟨work, .running⟩] }
  | .error _ => w

/-- The first row that a statement yields. -/
def rowOf (s : State) : Statement → Option (Nat × String)
  | .selectDatabase name => s.row name
  | _ => none

def LifecycleWorld.run (w : LifecycleWorld) (i : Nat) (work : Work) (works : Bool) :
    LifecycleWorld :=
  match if works then execute w.cluster i work.statement else none with
  | some cluster =>
    { cluster := cluster
      calls := w.calls.set i (work.afterSuccess (rowOf w.cluster work.statement))
      dropped := w.dropped ++ drops i w.cluster cluster }
  | none => { w with calls := w.calls.set i work.afterFailure }

/-- The call of the number, if it is running. -/
def LifecycleWorld.running (w : LifecycleWorld) (i : Nat) : Option LifecycleCall :=
  w.calls[i]?.filter (·.status == .running)

def lifecycleStep (w : LifecycleWorld) : LifecycleEvent → LifecycleWorld
  | .provision input =>
    w.begin ((fun plan => .provision plan .createRoles none) <$> prepareProvision P input)
  | .cleanup input => w.begin ((.cleanup · .identify) <$> prepareCleanup P input)
  | .run i works =>
    match w.running i with
    | none => w
    | some call => w.run i call.work works
  | .stop i =>
    match w.running i with
    | none => w
    | some call => { w with calls := w.calls.set i { call with status := .stopped } }

end SubscriptionSaas.Release
