import SubscriptionSaas.Lib.Calls
import SubscriptionSaas.Lib.Patterns
import SubscriptionSaas.Snapshot.Contract

/-!
# The guard of the snapshot source

`assertReadOnlySnapshotSource` and `fingerprintSourceSnapshot`, with the calls of the source, the
workspace and the clocks that the export makes.
-/

namespace SubscriptionSaas.Snapshot

open Calls Patterns Results

/-! ## Calls -/

inductive Call
  /-- The clock that the export is given, and that of the system. -/
  | now | systemClock
  | observePrivileges (secretReference : String)
  | openReadOnlySnapshot (secretReference : Option String)
  | readFingerprint (snapshotId : String) (keyTables : List String)
  | exportRaw (snapshotId : String)
  | closeSnapshot
  | restoreRaw (archive : List UInt8)
  | applyTransformations (contract : SanitizationContract)
      (tokenizationSecretReference sourceDatabaseAccess : String)
  | exportSanitized
  | expandSanitizedArchive (archive : List UInt8) (expectedArchiveDigest : String)
      (maxExpandedBytes : Nat)
  | destroy
  deriving DecidableEq

/-- The variables of `prepareSanitizedSnapshotBundle` that its last part reads. -/
structure Flags where
  sourceNeedsClose : Bool := false
  workspaceDestroyed : Bool := false
  deriving DecidableEq

abbrev Env := Environment Call Value

abbrev Export := Run Call Value Flags

/-- A call that is not awaited; a promise is a value without members. -/
def callNow (E : Env) : Export Value := do
  let response ← Run.call E .now
  match response with
  | .returns value => pure value
  | .throws error => Procedure.throw error
  | _ => pure .other

/-- A parameter that has `new Date()` as its default. -/
def orSystemClock (E : Env) : Value → Export Value
  | .undefined => do
    let response ← Run.call E .systemClock
    match response with
    | .returns value => pure value
    | _ => pure (.date none)
  | value => pure value

/-- A parameter that is given by `now()` and has `new Date()` as its default. -/
def clock (E : Env) : Export Value := do
  let now ← callNow E
  orSystemClock E now

/-! ## Sources -/

/-- What is read of the source: its policy, and which of its members are functions. -/
structure Source where
  trustPolicy : Option String
  observePrivileges : Bool
  openReadOnlySnapshot : Bool
  readFingerprint : Bool
  exportRaw : Bool
  closeSnapshot : Bool
  deriving DecidableEq

/-- `ownership-map.v1`, of which the members that its schema fixes are left out. -/
structure OwnershipMap where
  mapId : String
  mapVersion : String
  sourceOwners : List String
  schemas : List String
  objectClasses : List String
  excludedExtensions : List String
  deriving DecidableEq

def OwnershipMap.toValue (map : OwnershipMap) : Value :=
  .object [("schemaVersion", .string "ownership-map.v1"), ("mapId", .string map.mapId),
    ("mapVersion", .string map.mapVersion), ("sourceOwners", .texts map.sourceOwners),
    ("targetOwnerProfile", .string "migrate"), ("schemas", .texts map.schemas),
    ("objectClasses", .texts map.objectClasses),
    ("excludedExtensions", .texts map.excludedExtensions)]

/-! ## Privileges -/

/-- `source-privilege-observation.v1`. The source has none of the capabilities that it names. -/
structure PrivilegeObservation where
  secretReferenceFingerprint : String
  roleIdentityFingerprint : Value
  databaseIdentityFingerprint : Value
  objectOwnerCount : Nat
  objectOwnerSetDigest : String
  observedAt : String

def PrivilegeObservation.toValue (observation : PrivilegeObservation) : Value :=
  .object [("schemaVersion", .string "source-privilege-observation.v1"),
    ("secretReferenceFingerprint", .string observation.secretReferenceFingerprint),
    ("roleIdentityFingerprint", observation.roleIdentityFingerprint),
    ("databaseIdentityFingerprint", observation.databaseIdentityFingerprint),
    ("capabilities", .object [("superuser", .boolean false), ("createDatabase", .boolean false),
      ("createRole", .boolean false), ("bypassRls", .boolean false), ("schemaOwner", .boolean false),
      ("canCreateSchema", .boolean false), ("tableWritePrivilegeCount", .int 0),
      ("tableTruncatePrivilegeCount", .int 0), ("writableFunctionExecutePrivilegeCount", .int 0),
      ("objectOwnerCount", .int observation.objectOwnerCount),
      ("objectOwnerSetDigest", .string observation.objectOwnerSetDigest)]),
    ("observedAt", .string observation.observedAt)]

def secretReferencePattern : Pattern :=
  let part := fun c : Char => c.isDigit || c.isLower
  sequence [exactly "secret://", one part, many1 (fun c => part c || "./_-".toList.contains c), atEnd]

def digestPattern : Pattern :=
  sequence ([exactly "sha256:"] ++
    List.replicate 64 (one fun c => c.isDigit || ('a' ≤ c && c ≤ 'f')) ++ [atEnd])

def migrationHeadPattern : Pattern :=
  sequence (List.replicate 14 (one Char.isDigit) ++
    [exactly "_", many1 (fun c => c.isDigit || c.isLower || c == '_'), atEnd])

variable (P : Platform)

/-- `pattern.test(value ?? "")`, of a pattern that is bound to the beginning. -/
def testValue (pattern : Pattern) (value : Value) : Bool :=
  testStart pattern (if value.isNullish then "" else P.toText value).toList

def assertTimestamp (now : Value) : Except Value Int :=
  match now.time? with
  | some time => .ok time
  | none => .error (snapshotError "SNAPSHOT_CLOCK_INVALID")

/-- `value ?? []` spread out. -/
def spreadOrEmpty (value : Value) : Except Value (List Value) :=
  if value.isNullish then .ok [] else spread value

/-- The source has no capability to write. -/
def isReadOnly (privileges : Value) : Bool :=
  testValue P digestPattern (privileges.get "roleIdentityFingerprint") &&
    testValue P digestPattern (privileges.get "databaseIdentityFingerprint") &&
    ["superuser", "createDatabase", "createRole", "bypassRls", "schemaOwner", "canCreateSchema"].all
      (fun key => (privileges.get key).isFalse) &&
    ["tableWritePrivileges", "tableTruncatePrivileges", "writableFunctionExecutePrivileges"].all
      fun key => (privileges.get key).isEmptyArray

/-- The names of the owners, when they are an array of distinct owners of the map. -/
def mappedOwners (ownershipMap : OwnershipMap) (privileges : Value) : Option (List String) :=
  match privileges.get "objectOwners" with
  | .array entries =>
    (entries.mapM Value.text?).filter fun owners =>
      owners.Nodup && owners ≠ [] && owners.all ownershipMap.sourceOwners.contains
  | _ => none

def assertReadOnlySnapshotSource (E : Env) (source : Source) (secretReference : Option String)
    (ownershipMap : OwnershipMap) (now : Value) : Export PrivilegeObservation := do
  Procedure.require (testStart secretReferencePattern (secretReference.getD "").toList &&
      source.trustPolicy == some "protected-snapshot-source/v1" && source.observePrivileges)
    (snapshotError "SNAPSHOT_SOURCE_SECRET_REFERENCE_INVALID")
  let observedAt ← Procedure.lift (assertTimestamp now)
  let privileges ← Run.await E (.observePrivileges (secretReference.getD ""))
  let _ ← Procedure.lift (spreadOrEmpty (privileges.get "objectOwners"))
  Procedure.require (isReadOnly P privileges) (snapshotError "SNAPSHOT_SOURCE_WRITE_CAPABILITY_FORBIDDEN")
  match mappedOwners ownershipMap privileges with
  | none => Procedure.throw (snapshotError "SNAPSHOT_SOURCE_OWNER_UNMAPPED")
  | some owners => Procedure.lift do
    let secretReferenceFingerprint ←
      sha256Canonical P (.object [("secretReference", .string (secretReference.getD ""))])
    let objectOwnerSetDigest ← sha256Canonical P (.texts (sorted owners))
    let observedAt ← isoString observedAt
    let observation : PrivilegeObservation :=
      { secretReferenceFingerprint
        roleIdentityFingerprint := privileges.get "roleIdentityFingerprint"
        databaseIdentityFingerprint := privileges.get "databaseIdentityFingerprint"
        objectOwnerCount := owners.length
        objectOwnerSetDigest
        observedAt }
    let _ ← immutable P observation.toValue
    .ok observation

/-! ## Fingerprints -/

structure SourceIdentity where
  snapshotIdFingerprint : String
  migrationHead : Value
  databaseIdentityFingerprint : Value
  roleIdentityFingerprint : Value
  tables : List Value

/-- `source-fingerprint.v1`. -/
structure SourceFingerprint where
  identity : SourceIdentity
  observedAt : String

def SourceIdentity.toValue (identity : SourceIdentity) : Value :=
  .object [("snapshotIdFingerprint", .string identity.snapshotIdFingerprint),
    ("migrationHead", identity.migrationHead),
    ("databaseIdentityFingerprint", identity.databaseIdentityFingerprint),
    ("roleIdentityFingerprint", identity.roleIdentityFingerprint),
    ("tables", .array identity.tables)]

def SourceFingerprint.toValue (fingerprint : SourceFingerprint) : Value :=
  .object [("schemaVersion", .string "source-fingerprint.v1"),
    ("identity", fingerprint.identity.toValue),
    ("provenance", .object [("observedAt", .string fingerprint.observedAt)])]

/-- The tables in the order of their names. Which of two is asked for the comparison is up to the
engine; a table whose name is no text has no way to compare. -/
def sortTables (tables : List Value) : Except Value (List Value) :=
  if 2 ≤ tables.length ∧ tables.any (fun table => (table.get "table").text?.isNone) then .error typeError
  else
    .ok (tables.insertionSort fun left right =>
      P.localeCompare ((left.get "table").text?.getD "") ((right.get "table").text?.getD "") ≠ .gt)

/-- A table whose rows are counted and whose checksum is a digest. -/
def isSummarized (table : Value) : Bool :=
  (table.get "rowCount").isCount && testValue P digestPattern (table.get "checksum")

def fingerprintSourceSnapshot (E : Env) (source : Source) (snapshotId : String)
    (keyTables : List String) (now : Value) : Export SourceFingerprint := do
  let observedAt ← Procedure.lift (assertTimestamp now)
  Procedure.require (source.readFingerprint && snapshotId != "" && keyTables != [] && decide keyTables.Nodup &&
      sorted keyTables == keyTables)
    (snapshotError "SNAPSHOT_SOURCE_FINGERPRINT_INVALID")
  let observed ← Run.await E (.readFingerprint snapshotId keyTables)
  Procedure.lift do
    let tables ← spreadOrEmpty (observed.get "tables")
    let tables ← sortTables P tables
    require (testValue P migrationHeadPattern (observed.get "migrationHead") &&
        testValue P digestPattern (observed.get "databaseIdentityFingerprint") &&
        testValue P digestPattern (observed.get "roleIdentityFingerprint"))
      (snapshotError "SNAPSHOT_SOURCE_FINGERPRINT_INVALID")
    require (!tables.any (·.isNullish)) typeError
    let names ← canonicalJson P (.array (tables.map (·.get "table")))
    let keys ← canonicalJson P (.texts keyTables)
    require (names == keys && tables.all (isSummarized P))
      (snapshotError "SNAPSHOT_SOURCE_FINGERPRINT_INVALID")
    let snapshotIdFingerprint ← sha256Canonical P (.object [("snapshotId", .string snapshotId)])
    let observedAt ← isoString observedAt
    let fingerprint : SourceFingerprint :=
      { identity :=
          { snapshotIdFingerprint
            migrationHead := observed.get "migrationHead"
            databaseIdentityFingerprint := observed.get "databaseIdentityFingerprint"
            roleIdentityFingerprint := observed.get "roleIdentityFingerprint"
            tables }
        observedAt }
    let _ ← immutable P fingerprint.toValue
    .ok fingerprint

end SubscriptionSaas.Snapshot
