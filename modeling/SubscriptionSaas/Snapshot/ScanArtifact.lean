import SubscriptionSaas.Lib.Patterns
import SubscriptionSaas.Snapshot.Contract

/-!
# The scan of a sanitized artifact

`scanSanitizedArtifact` and `scanSanitizedArchive`, which look in the text of a dump for what some rules
describe.
-/

namespace SubscriptionSaas.Snapshot

open Patterns Results

/-! ## Rules -/

/-- `[…]{n}`. -/
def times (n : Nat) (p : Char → Bool) : Pattern := sequence (List.replicate n (one p))

/-- `(?<![0-9])`. -/
def notAfterDigit : Pattern := fun k => if k.before.any Char.isDigit then [] else [k]

/-- `(?![0-9])`. -/
def notBeforeDigit : Pattern := fun k => if k.rest.head?.any Char.isDigit then [] else [k]

def among (chars : String) (c : Char) : Bool := chars.toList.contains c

def chinaMobile : Pattern :=
  sequence [notAfterDigit, exactly "1", one (among "3456789"), times 9 Char.isDigit, notBeforeDigit]

def chinaIdCard : Pattern :=
  sequence [notAfterDigit, one (among "123456789"), times 16 Char.isDigit,
    one (fun c => c.isDigit || among "Xx" c), notBeforeDigit]

def credentialUrl : Pattern :=
  sequence [one Char.isAlpha, many (fun c => c.isAlphanum || among "+.-" c), exactly "://",
    many1 (fun c => !isWhiteSpace c && !among "/@:" c), exactly ":",
    many1 (fun c => !isWhiteSpace c && !among "/@" c), exactly "@"]

def bearerToken : Pattern :=
  let part := fun c : Char => c.isAlphanum || among "._~+/=-" c
  sequence [boundary, keyword "BEARER", spaces1, times 16 part, many part]

def privateKey : Pattern :=
  sequence [exactly "-----BEGIN ",
    optional (either (exactly "RSA ") (either (exactly "EC ") (exactly "OPENSSH "))),
    exactly "PRIVATE KEY-----"]

def providerToken : Pattern :=
  let part := fun c : Char => c.isAlphanum || among "_-" c
  sequence [boundary, either (exactly "sk") (sequence [exactly "gh", one (among "oprsu")]),
    one (among "-_"), times 16 part, many part, boundary]

def rules : List (String × Pattern) :=
  [("china-mobile", chinaMobile), ("china-id-card", chinaIdCard), ("credential-url", credentialUrl),
    ("bearer-token", bearerToken), ("private-key", privateKey), ("provider-token", providerToken)]

/-- `PG_RESTORE_VERSION`. -/
def pgRestoreVersionPattern : Pattern :=
  sequence [exactly "pg_restore (PostgreSQL) 17.11",
    optional (sequence [exactly " ", many1 (among "\r\n" · == false)]), atEnd]

/-! ## The scan -/

inductive ScanVersion
  | v1
  | v2 (expandedDigest : String) (pgRestoreVersion : String)
  deriving DecidableEq

/-- The result of a scan, which has passed without findings. -/
structure Scan where
  version : ScanVersion
  subjectDigest : String
  contractDigest : String
  scannerVersion : String
  status : String := "PASSED"
  findingsCount : Int := 0
  scannedAt : String
  deriving DecidableEq

def Scan.toValue (scan : Scan) : Value :=
  .object ((match scan.version with
    | .v1 => [("schemaVersion", .string "sanitization-scan.v1")]
    | .v2 expandedDigest pgRestoreVersion =>
      [("schemaVersion", .string "sanitization-scan.v2"), ("expandedDigest", .string expandedDigest),
        ("pgRestoreVersion", .string pgRestoreVersion), ("archiveFormat", .string "PGDMP")]) ++
    [("subjectDigest", .string scan.subjectDigest), ("contractDigest", .string scan.contractDigest),
      ("scannerVersion", .string scan.scannerVersion), ("status", .string scan.status),
      ("findingsCount", .int scan.findingsCount), ("scannedAt", .string scan.scannedAt)])

/-- The bytes begin with `PGDMP`. -/
def isArchive (content : List UInt8) : Bool := content.take 5 == [80, 71, 68, 77, 80]

variable (P : Platform)

/-- The rules that find something; an unknown rule has no pattern. -/
def findings (content : List Char) : List String → Except Value (List String)
  | [] => .ok []
  | ruleId :: ruleIds =>
    match rules.lookup ruleId with
    | none => .error typeError
    | some pattern => do
      let found ← findings content ruleIds
      .ok (if test pattern content then ruleId :: found else found)

def scanContent (content : List Char) (contract : SanitizationContract) : Except Value Unit := do
  let found ← findings content contract.scanRules
  require found.isEmpty
    (snapshotError "SNAPSHOT_SENSITIVE_DATA_DETECTED" (.object [("rules", .texts found)]))

/-- The text of a dump, without the character U+0000. -/
def scanText (content : List UInt8) (contract : SanitizationContract) : Except Value Unit := do
  let some text := P.decode content | .error (snapshotError "SNAPSHOT_SCAN_SUBJECT_INVALID")
  require (!text.contains '\x00') (snapshotError "SNAPSHOT_SCAN_SUBJECT_INVALID")
  scanContent text contract

def scanTime (scannedAt : Value) : Except Value Int :=
  match scannedAt.time? with
  | some time => .ok time
  | none => .error (snapshotError "SNAPSHOT_SCAN_CLOCK_INVALID")

/-- `scanSanitizedArtifact` of a `Buffer`. -/
def scanSanitizedArtifact (bytes : List UInt8) (contract : SanitizationContract) (scannedAt : Value) :
    Except Value Scan := do
  validateContract P "sanitization-contract.v1" contract.toValue
  let time ← scanTime scannedAt
  require (!isArchive bytes) (snapshotError "SNAPSHOT_ARCHIVE_EXPANSION_REQUIRED")
  scanText P bytes contract
  let contractDigest ← sha256Canonical P contract.toValue
  let scannedAt ← isoString time
  .ok { version := .v1, subjectDigest := P.sha256Bytes bytes, contractDigest,
        scannerVersion := contract.tools.scannerVersion, scannedAt }

/-- The bytes and the version of `pg_restore` of an expansion of the archive. -/
def expansionOf (archive : List UInt8) (expansion : Value) : Except Value (List UInt8 × String) :=
  match (expansion.get "expandedBytes").buffer?, (expansion.get "pgRestoreVersion").text? with
  | some expanded, some version =>
    if 1 ≤ expanded.length ∧ expanded.length ≤ 1073741824 ∧ (expansion.get "exitCode").isZero ∧
        (expansion.get "archiveDigest").isText (P.sha256Bytes archive) ∧
        Texts.length version ≤ 256 ∧ testStart pgRestoreVersionPattern version.toList then
      .ok (expanded, version)
    else .error (snapshotError "SNAPSHOT_ARCHIVE_EXPANSION_INVALID")
  | _, _ => .error (snapshotError "SNAPSHOT_ARCHIVE_EXPANSION_INVALID")

/-- `scanSanitizedArchive` of a `Buffer`. -/
def scanSanitizedArchive (archive : List UInt8) (expansion : Value) (contract : SanitizationContract)
    (scannedAt : Value) : Except Value Scan := do
  validateContract P "sanitization-contract.v1" contract.toValue
  require (isArchive archive) (snapshotError "SNAPSHOT_ARCHIVE_FORMAT_INVALID")
  let time ← scanTime scannedAt
  let (expanded, version) ← expansionOf P archive expansion
  scanText P expanded contract
  let contractDigest ← sha256Canonical P contract.toValue
  let scannedAt ← isoString time
  .ok { version := .v2 (P.sha256Bytes expanded) version, subjectDigest := P.sha256Bytes archive,
        contractDigest, scannerVersion := contract.tools.scannerVersion, scannedAt }

end SubscriptionSaas.Snapshot
