import SubscriptionSaas.Change.Extensions
import SubscriptionSaas.Lib.Runs

/-!
# The archive of the agreement of a change

`finalizeArchivedContract`, which takes the signed agreement of a change of any of the four types, with
the tables it reads and writes. It is one serializable transaction with the change, its task and its
contract locked, and an error leaves the tables as they were. The other services move the statuses of
the rows and enqueue jobs.
-/

namespace SubscriptionSaas.Change.Archive

open Calendar Billing Contract Results

/-! ## Rows -/

inductive ChangeType
  | extension | vehicleSwap | earlyTermination | managedOther
  deriving DecidableEq

/-- The columns of the root that extensions had before they had a detail. -/
structure LegacyExtension where
  extensionMonths : Option Int
  pricingMode : Option PricingMode
  sourceSegmentId : Option Id
  targetStartDate : Option Int
  targetEndDate : Option Int

structure EarlyTerminationDetail where
  closureCaseId : Option Id
  agreementContractId : Option Id

structure ManagedOtherDetail where
  supplementContractId : Option Id

structure VehicleSwapDetail where
  targetVehicleId : Id

/-- `subscription_change_order` with its details and its confirmed quote. -/
structure ArchiveChange where
  id : Id
  orderId : Id
  changeType : ChangeType
  status : ChangeStatus
  version : Nat
  contractId : Option Id
  completionDeadlineAt : Int
  renewalConsiderationId : Option Id
  confirmedQuote : Option Quote
  legacy : LegacyExtension
  extensionDetail : Option ExtensionDetail
  earlyTerminationDetail : Option EarlyTerminationDetail
  managedOtherDetail : Option ManagedOtherDetail
  vehicleSwapDetail : Option VehicleSwapDetail

structure ArchiveContract where
  id : Id
  status : ContractStatus
  signedAt : Option Int
  archivedAt : Option Int
  contractSnapshot : Json

structure OrderSegment extends Segment where
  orderId : Id

inductive TaskStatus
  | created | waitingCustomer | signing | completed | failed | cancelled | expired
  deriving DecidableEq

/-- `contract_esign_task`; its stage and its type of document are texts of enumerations. -/
structure ESignTask where
  id : Id
  contractId : Id
  documentType : String
  signedDocumentObjectKey : Option String
  signingStage : String
  sourceId : Option Id
  sourceKey : Option String
  sourceType : Option String
  taskStatus : TaskStatus

structure Consideration where
  id : Id
  status : ConsiderationStatus
  version : Nat

inductive ReminderStatus
  | pending | sent | failed | skipped | cancelled
  deriving DecidableEq

structure Reminder where
  renewalConsiderationId : Id
  status : ReminderStatus
  cancelledAt : Option Int

inductive JobKind
  | extensionSegmentActivate | renewalReminderD30 | renewalReminderD14 | renewalReminderD3
  | renewalExpiryProcess | renewalReturnOverdueD1 | other
  deriving DecidableEq

/-- `subscription_automation_job`; an activation is known by its segment and the start of it. -/
structure ArchiveJob where
  jobKind : JobKind
  jobStatus : JobStatus
  availableAt : Int
  orderId : Id
  changeOrderId : Option Id
  renewalConsiderationId : Option Id
  activation : Option (Id × Int)

structure OrderVehicle where
  id : Id
  status : VehicleStatus

inductive Outcome
  | duplicate | lateEvidenceOnly | scheduled
  deriving DecidableEq

inductive Source
  | callback | reconcile
  deriving DecidableEq

/-- A row of the audit log. -/
structure Audit where
  entityType : String
  entityId : Id
  outcome : Outcome
  changeStatus : ChangeStatus
  completedAt : Int
  decisionAt : Int
  source : Source
  taskId : Id

structure Db where
  changes : List ArchiveChange
  contracts : List ArchiveContract
  tasks : List ESignTask
  segments : List OrderSegment
  considerations : List Consideration
  reminders : List Reminder
  jobs : List ArchiveJob
  vehicles : List OrderVehicle
  audits : List Audit

/-- `updateMany`. -/
def updateMany {α : Type} (p : α → Bool) (f : α → α) (rows : List α) : List α :=
  rows.map fun row => if p row then f row else row

namespace Db

variable (db : Db)

def changeOf (contractId : Id) : Option ArchiveChange :=
  db.changes.find? (·.contractId == some contractId)

def task (taskId : Id) : Option ESignTask := db.tasks.find? (·.id == taskId)

def contract (change : ArchiveChange) : Option ArchiveContract :=
  change.contractId.bind fun id => db.contracts.find? (·.id == id)

/-- The segment that a change has appended. -/
def targetSegment (change : ArchiveChange) : Option OrderSegment :=
  db.segments.find? (·.sourceChangeOrderId == some change.id)

end Db

/-! ## Checks -/

structure ArchiveInput where
  completedAt : Option Int
  contractId : Id
  source : Source
  taskId : Id

def assertValidInput (input : ArchiveInput) : Except ChangeError Int :=
  match input.completedAt with
  | some completedAt => .ok completedAt
  | none => .error ⟨"STAGE3_COMPLETED_AT_INVALID", "A valid provider completion time is required."⟩

def stage3SourceType : ChangeType → String
  | .vehicleSwap => "VEHICLE_SWAP_SUPPLEMENT"
  | .earlyTermination => "EARLY_TERMINATION_SUPPLEMENT"
  | .managedOther => "MANAGED_OTHER_SUPPLEMENT"
  | .extension => "SUBSCRIPTION_EXTENSION"

/-- `/^[1-9]\d*$/`. -/
def isAttemptNumber : List Char → Bool
  | [] => false
  | c :: cs => '1' ≤ c && c ≤ '9' && cs.all fun c => '0' ≤ c && c ≤ '9'

def isStage3AttemptKey (sourceKey : Option String) (changeOrderId : Id) : Bool :=
  let attempts := ("subscription-change:" ++ toString changeOrderId ++ ":esign:attempt:").toList
  sourceKey.any fun key =>
    attempts.isPrefixOf key.toList && isAttemptNumber (key.toList.drop attempts.length)

def archivedEvidence (task : ESignTask) (contractId : Id) (change : ArchiveChange) : Bool :=
  task.contractId == contractId && task.signingStage == "STAGE3_SUBSCRIPTION_EXTENSION" &&
    task.documentType == "SUBSCRIPTION_EXTENSION_AGREEMENT" && task.taskStatus == .completed &&
    task.signedDocumentObjectKey.any (· != "") && task.sourceId == some change.id &&
    task.sourceType == some (stage3SourceType change.changeType) &&
    isStage3AttemptKey task.sourceKey change.id

def assertArchivedEvidence (task : Option ESignTask) (contractId : Id) (change : ArchiveChange) :
    Except ChangeError Unit :=
  require (task.any (archivedEvidence · contractId change)) ⟨"STAGE3_SIGNED_ARTIFACT_REQUIRED",
    "A completed Stage 3 task with a retained signed PDF is required."⟩

def readDatabaseClock (clock : Option Int) : Except ChangeError Int :=
  match clock with
  | some now => .ok now
  | none => .error ⟨"STAGE3_DATABASE_CLOCK_UNAVAILABLE", "The database decision time is unavailable."⟩

/-- The source segment and the target dates of an extension. -/
structure ExtensionTerm where
  sourceSegmentId : Id
  targetStartDate : Int
  targetEndDate : Int

/-- The terms in the detail, or else those of the root. -/
def requireExtensionChangeProjection (change : ArchiveChange) : Except ChangeError ExtensionTerm :=
  match change.extensionDetail with
  | some detail => .ok ⟨detail.sourceSegmentId, detail.targetStartDate, detail.targetEndDate⟩
  | none =>
    let legacy := change.legacy
    match legacy.extensionMonths, legacy.pricingMode, legacy.sourceSegmentId, legacy.targetEndDate,
      legacy.targetStartDate with
    | some _, some _, some sourceSegmentId, some targetEndDate, some targetStartDate =>
      .ok ⟨sourceSegmentId, targetStartDate, targetEndDate⟩
    | _, _, _, _, _ => .error
      ⟨"SUBSCRIPTION_EXTENSION_DETAIL_INVALID", "The extension change detail is incomplete."⟩

def requireVehicleSwapChange (change : ArchiveChange) : Except ChangeError VehicleSwapDetail :=
  match change.vehicleSwapDetail with
  | some detail => .ok detail
  | none => .error ⟨"STAGE3_VEHICLE_SWAP_DETAIL_REQUIRED",
      "The vehicle-swap detail is required for Stage 3 archival."⟩

def expiryWins (change : ArchiveChange) (considerationStatus : Option ConsiderationStatus)
    (decisionAt : Int) : Bool :=
  change.completionDeadlineAt ≤ decisionAt || expiryWinsChange change.status ||
    considerationStatus.any expiryWinsConsideration

/-! ## Writes -/

def archiveContractEvidence (db : Db) (contractId : Id) (completedAt archivedAt : Int) : Db :=
  { db with contracts := updateMany (·.id == contractId) (fun contract => { contract with
      archivedAt := some archivedAt
      signedAt := some completedAt
      status := .archived }) db.contracts }

def writeAudit (db : Db) (entityType : String) (entityId : Id) (outcome : Outcome)
    (change : ArchiveChange) (completedAt decisionAt : Int) (input : ArchiveInput) : Db :=
  { db with audits := db.audits ++
      [⟨entityType, entityId, outcome, change.status, completedAt, decisionAt, input.source,
        input.taskId⟩] }

def ArchiveChange.scheduled (change : ArchiveChange) : ArchiveChange :=
  { change with status := .scheduled, version := change.version + 1 }

/-- The change becomes SCHEDULED. -/
def scheduleChange (db : Db) (change : ArchiveChange) : Db :=
  { db with changes := updateMany (·.id == change.id) ArchiveChange.scheduled db.changes }

/-- The segment of an extension. Its number among all segments is the next one. -/
def extensionSegment (db : Db) (change : ArchiveChange) (term : ExtensionTerm) (source : OrderSegment)
    (quote : Quote) (contract : ArchiveContract) (contractId : Id) : OrderSegment where
  id := db.segments.length
  orderId := change.orderId
  sequenceNo := source.sequenceNo + 1
  status := .scheduled
  startDate := term.targetStartDate
  endDate := term.targetEndDate
  monthlyFeeAmount := quote.pricing.monthlyFeeAmount
  sourceChangeOrderId := some change.id
  sourceSegmentId := some term.sourceSegmentId
  segmentType := .extension
  activatedAt := none
  sourceContractId := some contractId
  subscriptionPlanId := quote.pricing.subscriptionPlanId
  productId := quote.pricing.productId
  productVersionId := quote.pricing.productVersionId
  mileageLimitKm := quote.pricing.mileageLimitKm
  overMileageFeeAmount := quote.pricing.overMileageFeeAmount
  energyLimitKwh := quote.pricing.energyLimitKwh
  energyLimitCount := quote.pricing.energyLimitCount
  planSnapshot := quote.pricing.planSnapshot
  entitlementKeys := quote.pricing.entitlementKeys
  quoteSnapshot := quote.pricing.quoteSnapshot
  contractSnapshot := contract.contractSnapshot

/-- Inserts a segment; a sequence number and a change have one segment. -/
def createSegment (db : Db) (segment : OrderSegment) : Except ChangeError Db := do
  require (!db.segments.any fun row => row.orderId == segment.orderId &&
    row.sequenceNo == segment.sequenceNo) uniqueViolation
  require (!db.segments.any (·.sourceChangeOrderId == segment.sourceChangeOrderId)) uniqueViolation
  require (segment.startDate ≤ segment.endDate) checkViolation
  .ok { db with segments := db.segments ++ [segment] }

/-- Inserts the job that activates a segment unless it is there. -/
def upsertActivation (db : Db) (change : ArchiveChange) (segment : OrderSegment) : Db :=
  if db.jobs.any (·.activation == some (segment.id, segment.startDate)) then db
  else { db with jobs := db.jobs ++
      [⟨.extensionSegmentActivate, .pending, shanghaiStartOfDate segment.startDate, change.orderId,
        some change.id, none, some (segment.id, segment.startDate)⟩] }

/-- The renewal that has been considered is extended and reminded of no more. -/
def extendConsideration (db : Db) (considerationId : Id) (completedAt : Int) : Db :=
  let isOpen (row : Reminder) : Bool := row.renewalConsiderationId == considerationId &&
    (row.status == .pending || row.status == .failed)
  { db with
    considerations := updateMany (·.id == considerationId)
      (fun row => { row with status := .extended, version := row.version + 1 }) db.considerations
    reminders := updateMany isOpen
      (fun row => { row with cancelledAt := some completedAt, status := .cancelled }) db.reminders }

def cancelledRenewalJobKinds : List JobKind :=
  [.renewalReminderD30, .renewalReminderD14, .renewalReminderD3, .renewalExpiryProcess,
    .renewalReturnOverdueD1]

def cancelRenewalJobs (db : Db) (change : ArchiveChange) : Db :=
  let isOpen (job : ArchiveJob) : Bool := cancelledRenewalJobKinds.contains job.jobKind &&
    (job.changeOrderId == some change.id || (change.renewalConsiderationId.isSome &&
      job.renewalConsiderationId == change.renewalConsiderationId)) &&
    (job.jobStatus == .pending || job.jobStatus == .processing)
  { db with jobs := updateMany isOpen (fun job => { job with jobStatus := .cancelled }) db.jobs }

/-! ## The branches of the four types -/

/-- The agreement of a change other than an extension. `ready` is what the branch asks for besides the
status. -/
def finalizeSupplement (entityType : String) (invalid : ChangeError) (ready : Bool) (db : Db)
    (change : ArchiveChange) (input : ArchiveInput) (completedAt : Int) (clock : Option Int) :
    Except ChangeError (Outcome × Db) := do
  let decisionAt ← readDatabaseClock clock
  if change.status = .scheduled then .ok (.duplicate, db)
  else
    let db := archiveContractEvidence db input.contractId completedAt decisionAt
    if change.completionDeadlineAt ≤ decisionAt || expiryWinsChange change.status then
      .ok (.lateEvidenceOnly,
        writeAudit db entityType change.id .lateEvidenceOnly change completedAt decisionAt input)
    else do
      require (change.status == .signingOrPayment && ready) invalid
      .ok (.scheduled, writeAudit (scheduleChange db change) entityType change.id .scheduled change
        completedAt decisionAt input)

def finalizeVehicleSwap (db : Db) (change : ArchiveChange) (detail : VehicleSwapDetail)
    (input : ArchiveInput) : Int → Option Int → Except ChangeError (Outcome × Db) :=
  finalizeSupplement "subscription_vehicle_swap_archive"
    ⟨"STAGE3_VEHICLE_SWAP_STATE_INVALID",
      "The vehicle-swap supplement cannot be scheduled from its current state."⟩
    (change.confirmedQuote.any (·.status == .customerConfirmed) &&
      (db.contract change).any (·.id == input.contractId) &&
      (db.vehicles.find? (·.id == detail.targetVehicleId)).any (·.status == .reviewReserved))
    db change input

def finalizeEarlyTermination (db : Db) (change : ArchiveChange) (input : ArchiveInput) :
    Int → Option Int → Except ChangeError (Outcome × Db) :=
  finalizeSupplement "subscription_early_termination_archive"
    ⟨"STAGE3_EARLY_TERMINATION_STATE_INVALID",
      "The early-termination agreement cannot be scheduled from its current state."⟩
    ((db.contract change).any (·.id == input.contractId) &&
      change.earlyTerminationDetail.any fun detail =>
        detail.closureCaseId.isSome && detail.agreementContractId == some input.contractId)
    db change input

def finalizeManagedOther (db : Db) (change : ArchiveChange) (input : ArchiveInput) :
    Int → Option Int → Except ChangeError (Outcome × Db) :=
  finalizeSupplement "subscription_managed_other_archive"
    ⟨"STAGE3_MANAGED_OTHER_STATE_INVALID",
      "The managed-other supplement cannot be scheduled from its current state."⟩
    ((db.contract change).any (·.id == input.contractId) &&
      change.managedOtherDetail.any (·.supplementContractId == some input.contractId))
    db change input

def scheduleInvalid : ChangeError := ⟨"STAGE3_EXTENSION_STATE_INVALID",
  "The extension cannot be scheduled from its current state."⟩

/-- What follows when an extension comes in time: `assertScheduleSource` and the segment with its job. -/
def scheduleExtension (db : Db) (change : ArchiveChange) (term : ExtensionTerm)
    (considerationStatus : Option ConsiderationStatus) (input : ArchiveInput)
    (completedAt decisionAt : Int) : Except ChangeError (Outcome × Db) :=
  match change.confirmedQuote, db.contract change, db.segments.find? (·.id == term.sourceSegmentId) with
  | some quote, some contract, some source => do
    require (change.status == .signingOrPayment &&
      term.targetStartDate == addUtcDays source.endDate 1) scheduleInvalid
    require (considerationStatus.all fun status =>
      status == .extensionInProgress || status == .renewalRequested) scheduleInvalid
    let segment := extensionSegment db change term source quote contract input.contractId
    let db ← createSegment db segment
    let db := scheduleChange (upsertActivation db change segment) change
    let db := match change.renewalConsiderationId with
      | some considerationId => extendConsideration db considerationId completedAt
      | none => db
    .ok (.scheduled, writeAudit (cancelRenewalJobs db change) "subscription_contract_segment" segment.id
      .scheduled change completedAt decisionAt input)
  | _, _, _ => .error scheduleInvalid

def finalizeExtension (db : Db) (change : ArchiveChange) (term : ExtensionTerm) (input : ArchiveInput)
    (completedAt : Int) (clock : Option Int) : Except ChangeError (Outcome × Db) := do
  let decisionAt ← readDatabaseClock clock
  if change.status = .scheduled ∧ (db.targetSegment change).isSome then .ok (.duplicate, db)
  else
    let db := archiveContractEvidence db input.contractId completedAt decisionAt
    let considerationStatus := (change.renewalConsiderationId.bind fun id =>
      db.considerations.find? (·.id == id)).map (·.status)
    if expiryWins change considerationStatus decisionAt then
      .ok (.lateEvidenceOnly, writeAudit db "subscription_extension_archive" change.id .lateEvidenceOnly
        change completedAt decisionAt input)
    else scheduleExtension db change term considerationStatus input completedAt decisionAt

/-- `clock` is what the database's clock shows in the transaction. -/
def finalizeArchivedContract (db : Db) (input : ArchiveInput) (clock : Option Int) :
    Except ChangeError (Outcome × Db) := do
  let completedAt ← assertValidInput input
  let some change := db.changeOf input.contractId
    | .error ⟨"STAGE3_EXTENSION_CHANGE_NOT_FOUND",
        "The extension change for this contract was not found."⟩
  assertArchivedEvidence (db.task input.taskId) input.contractId change
  match change.changeType with
  | .earlyTermination => finalizeEarlyTermination db change input completedAt clock
  | .managedOther => finalizeManagedOther db change input completedAt clock
  | .vehicleSwap => do
    let detail ← requireVehicleSwapChange change
    finalizeVehicleSwap db change detail input completedAt clock
  | .extension => do
    let term ← requireExtensionChangeProjection change
    finalizeExtension db change term input completedAt clock

/-! ## Runs -/

/-- An archive, or what another service does to a row: it moves the status of a change, a segment, a
job, a consideration or a vehicle, or enqueues a job. -/
inductive Event
  | finalize (input : ArchiveInput) (clock : Option Int)
  | moveChange (id : Id) (status : ChangeStatus)
  | moveSegment (id : Id) (status : SegmentStatus)
  | moveJob (place : Nat) (status : JobStatus)
  | moveConsideration (id : Id) (status : ConsiderationStatus)
  | moveVehicle (id : Id) (status : VehicleStatus)
  | enqueue (job : ArchiveJob)

def step (db : Db) : Event → Db
  | .finalize input clock =>
    match finalizeArchivedContract db input clock with
    | .ok (_, db') => db'
    | .error _ => db
  | .moveChange id status =>
    let moved (change : ArchiveChange) := { change with status := status, version := change.version + 1 }
    { db with changes := updateMany (·.id == id) moved db.changes }
  | .moveSegment id status =>
    let moved (segment : OrderSegment) := { segment with status := status }
    { db with segments := updateMany (·.id == id) moved db.segments }
  | .moveJob place status =>
    let moved (job : ArchiveJob) := { job with jobStatus := status }
    { db with jobs := db.jobs.modify place moved }
  | .moveConsideration id status =>
    let moved (row : Consideration) := { row with status := status, version := row.version + 1 }
    { db with considerations := updateMany (·.id == id) moved db.considerations }
  | .moveVehicle id status =>
    let moved (vehicle : OrderVehicle) := { vehicle with status := status }
    { db with vehicles := updateMany (·.id == id) moved db.vehicles }
  | .enqueue job => { db with jobs := db.jobs ++ [job] }

/-- The change of a contract is scheduled and, if it is an extension, has its segment. -/
def Db.Settled (db : Db) (contractId : Id) : Prop :=
  ∃ change, db.changeOf contractId = some change ∧ change.status = .scheduled ∧
    (change.changeType = .extension → (db.targetSegment change).isSome)

end SubscriptionSaas.Change.Archive
