import Mathlib.Data.List.Nodup
import Mathlib.Data.List.Sort
import Mathlib.Data.String.Basic
import SubscriptionSaas.Snapshot.Values

/-!
# The sanitization contract

The contract with the checks that go beyond its schema, and the transformation of one record.
-/

namespace SubscriptionSaas.Snapshot

open Results

/-! ## Data -/

inductive Method
  | deterministicToken | fixedDisabledValue | nullOut | redactUrl
  deriving DecidableEq

/-- A rule for a column of a table. -/
structure Transformation where
  table : String
  column : String
  method : Method
  keyReference : Option String := none
  fixedValue : Option String := none
  jsonFields : Option (List String) := none
  deriving DecidableEq

structure ContractSource where
  keyTables : List String
  knownMigrationHeads : List String
  deriving DecidableEq

structure Tools where
  exporterVersion : String
  scannerVersion : String
  deriving DecidableEq

structure Lifecycle where
  owner : String
  readers : List String
  reviewAfterDays : Int
  expiresAfterDays : Int
  accessPolicyRef : String
  deriving DecidableEq

/-- `sanitization-contract.v1`, of which the members that its schema fixes are left out. -/
structure SanitizationContract where
  contractId : String
  contractVersion : String
  source : ContractSource
  transformations : List Transformation
  scanRules : List String
  tools : Tools
  lifecycle : Lifecycle
  deriving DecidableEq

def Method.text : Method → String
  | deterministicToken => "deterministic-token"
  | fixedDisabledValue => "fixed-disabled-value"
  | nullOut => "null-out"
  | redactUrl => "redact-url"

/-- A member that an object has when it is there. -/
def optionalMember (key : String) (value : Option Value) : List (String × Value) :=
  (value.map fun v => (key, v)).toList

def Transformation.toValue (rule : Transformation) : Value :=
  .object ([("table", .string rule.table), ("column", .string rule.column),
      ("method", .string rule.method.text)] ++
    optionalMember "keyReference" (rule.keyReference.map .string) ++
    optionalMember "fixedValue" (rule.fixedValue.map .string) ++
    optionalMember "jsonFields" (rule.jsonFields.map .texts))

def SanitizationContract.toValue (contract : SanitizationContract) : Value :=
  .object [("schemaVersion", .string "sanitization-contract.v1"),
    ("contractId", .string contract.contractId),
    ("contractVersion", .string contract.contractVersion),
    ("source", .object [("allowedEnvironment", .string "staging"),
      ("keyTables", .texts contract.source.keyTables),
      ("knownMigrationHeads", .texts contract.source.knownMigrationHeads)]),
    ("transformations", .array (contract.transformations.map (·.toValue))),
    ("scanRules", .texts contract.scanRules),
    ("tools", .object [("exporterVersion", .string contract.tools.exporterVersion),
      ("scannerVersion", .string contract.tools.scannerVersion)]),
    ("lifecycle", .object [("owner", .string contract.lifecycle.owner),
      ("readers", .texts contract.lifecycle.readers),
      ("reviewAfterDays", .int contract.lifecycle.reviewAfterDays),
      ("expiresAfterDays", .int contract.lifecycle.expiresAfterDays),
      ("accessPolicyRef", .string contract.lifecycle.accessPolicyRef)])]

/-! ## Checks -/

/-- The fields of a JSON column that may be transformed, as the contract names them. -/
def allowedJsonFields (table column : String) : Option (List String) :=
  if table = "public.application" ∧ column = "customer_profile_snapshot" then
    some ["mobile", "emergencyContactMobile", "idCardNo"]
  else if table = "public.service_case" ∧ column = "customer_snapshot" then some ["mobile"]
  else none

/-- `[...values].sort()`. -/
def sorted (values : List String) : List String := values.insertionSort (· ≤ ·)

/-- `!value` of a text that may be missing. -/
def isMissing (text : Option String) : Bool := text.all (· == "")

/-- A rule that `assertContractSemantics` refuses. -/
def invalidRule (rule : Transformation) : Bool :=
  (rule.method == .deterministicToken && isMissing rule.keyReference) ||
    (rule.method == .fixedDisabledValue && isMissing rule.fixedValue) ||
    ((rule.method == .nullOut || rule.method == .redactUrl) &&
      (rule.keyReference.isSome || rule.fixedValue.isSome)) ||
    rule.jsonFields.any fun fields =>
      rule.method != .deterministicToken ||
        (allowedJsonFields rule.table rule.column).all fun allowed => sorted fields != sorted allowed

variable (P : Platform)

def assertContractSemantics (contract : SanitizationContract) : Except Value Unit := do
  validateContract P "sanitization-contract.v1" contract.toValue
  require (sorted contract.source.keyTables == contract.source.keyTables &&
      sorted contract.source.knownMigrationHeads == contract.source.knownMigrationHeads &&
      decide (contract.lifecycle.reviewAfterDays ≤ contract.lifecycle.expiresAfterDays))
    (snapshotError "SNAPSHOT_CONTRACT_ORDER_INVALID")
  require (decide (contract.transformations.map fun rule => (rule.table, rule.column)).Nodup)
    (snapshotError "SNAPSHOT_CONTRACT_TRANSFORMATION_DUPLICATE")
  require (!contract.transformations.any invalidRule)
    (snapshotError "SNAPSHOT_CONTRACT_TRANSFORMATION_INVALID")

/-! ## Records -/

/-- The members of an object. -/
abbrev Record := List (String × Value)

/-- `record[key] = value`, of a member that is there. -/
def Record.set (record : Record) (key : String) (value : Value) : Record :=
  record.map fun m => if m.1 = key then (key, value) else m

/-- `record[key]`. The members of the prototype are functions; of their names only this one can be that
of a column. -/
def Record.member (record : Record) (key : String) : Option Value :=
  (record.lookup key).or (if key = "constructor" then some .other else none)

/-- `snap_` with the token of a text. -/
def token (key : List UInt8) (text : String) : Value := .string ("snap_" ++ P.hmac key text)

/-- The fields of a JSON column, of which each is a text or null. -/
def transformFields (key : List UInt8) (original : Record) :
    List String → Record → Except Value Record
  | [], transformed => .ok transformed
  | field :: fields, transformed =>
    match original.lookup field with
    | some .null => transformFields key original fields transformed
    | some (.string text) =>
      transformFields key original fields (transformed.set field (token P key text))
    | _ => .error (snapshotError "SNAPSHOT_TRANSFORM_JSON_INVALID")

/-- `output[column] = value`, where the member may not be one of the record itself. -/
def Record.assign (record : Record) (key : String) (value : Value) : Record :=
  if (record.lookup key).isSome then record.set key value else record ++ [(key, value)]

/-- What one rule makes of the record. The key is `none` when it is no `Buffer`. -/
def applyRule (tokenizationKey : Option (List UInt8)) (output : Record) (rule : Transformation) :
    Except Value Record :=
  match output.member rule.column with
  | none =>
    if rule.jsonFields.isSome then .error (snapshotError "SNAPSHOT_TRANSFORM_JSON_INVALID")
    else .ok output
  | some .null => .ok output
  | some original =>
    match rule.method with
    | .deterministicToken =>
      match tokenizationKey.filter (8 ≤ ·.length) with
      | none => .error (snapshotError "SNAPSHOT_TOKENIZATION_KEY_INVALID")
      | some key =>
        match rule.jsonFields with
        | some fields =>
          match original with
          | .object members => do
            let transformed ← transformFields P key members fields members
            .ok (output.assign rule.column (.object transformed))
          | _ => .error (snapshotError "SNAPSHOT_TRANSFORM_JSON_INVALID")
        | none => .ok (output.assign rule.column (token P key (P.toText original)))
    | .fixedDisabledValue =>
      .ok (output.assign rule.column ((rule.fixedValue.map .string).getD .undefined))
    | .nullOut => .ok (output.assign rule.column .null)
    | .redactUrl => .ok (output.assign rule.column (.string "snapshot://redacted"))

/-- The rules for a table. -/
def SanitizationContract.rulesOf (contract : SanitizationContract) (table : String) :
    List Transformation :=
  contract.transformations.filter (·.table = table)

/-- `transformRecord`. What is no record is `none`. -/
def transformRecord (record : Option Record) (table : String) (contract : SanitizationContract)
    (tokenizationKey : Option (List UInt8)) : Except Value Record := do
  assertContractSemantics P contract
  let some record := record | .error (snapshotError "SNAPSHOT_TRANSFORM_INPUT_INVALID")
  let output ← (contract.rulesOf table).foldlM (applyRule P tokenizationKey) record
  let _ ← immutable P (.object output)
  .ok output

end SubscriptionSaas.Snapshot
