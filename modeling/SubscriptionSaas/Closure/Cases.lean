import Mathlib.Data.List.Sort
import SubscriptionSaas.Billing.Calendar
import SubscriptionSaas.Closure.Domain
import SubscriptionSaas.Lib.Results
import SubscriptionSaas.Lib.Runs

/-!
# The closure case repository

A case is a row with its events, its documents and its settlement revisions; the rows of one case are
kept together as a `CaseFile`, and a row is known by its place. Each command holds the row of its case
until it commits, so that a command is one step; only the clock may have been read before
(`startedAt`). What a command reads of other subsystems is in `References`. A command that fails leaves
nothing behind.
-/

namespace SubscriptionSaas.Closure

open Results
open Billing (Id)

/-! ## Codes -/

inductive SubscriptionClosureErrorCode
  | invalidCommand | sourceConflict | authorityNotFound | authorityMismatch | caseAlreadyExists
  | caseNotFound
  | versionConflict | statusConflict | currentDocumentConflict | currentSettlementConflict
  /-- The constraint trigger at the end of the transaction has raised. -/
  | terminalSettlementDeferred
  deriving DecidableEq

abbrev Res := Except SubscriptionClosureErrorCode

inductive ClosureEventType
  | caseCreated | statusTransitioned | recoveryEscalated | physicalControlConfirmed
  | inspectionRecorded | inventoryReleased | noteAdded | documentRevisionCreated
  | settlementRevisionCreated
  deriving DecidableEq

inductive DocumentType
  | returnManifest | earlyTerminationAgreement | recoveryAuthority
  deriving DecidableEq

inductive DocumentStage
  | generated | signed | archived
  deriving DecidableEq

inductive SettlementType
  | estimate | final
  deriving DecidableEq

inductive SettlementStage
  | proposed | finalized | settled
  deriving DecidableEq

inductive RecoveryAction
  | pause | resume
  deriving DecidableEq

/-- The idempotency source of a command. -/
structure Source where
  type : String
  id : Id
  key : String
  deriving DecidableEq

/-- A detail snapshot: the members that are read again, and the others. A member that is no status is
read as an absent one. -/
structure DetailSnapshot where
  recoveryAction : Option RecoveryAction := none
  pausedFromStatus : Option ClosureStatus := none
  resumedStage : Option ClosureStatus := none
  members : List (String × String) := []
  deriving DecidableEq

/-! ## Rows -/

structure CaseRecord where
  orderId : Id
  customerId : Id
  vehicleId : Id
  contractId : Id
  vehicleReturnId : Option Id
  returnHandoverWorkOrderId : Option Id
  returnAssetWorkOrderId : Option Id
  recoveryAssetWorkOrderId : Option Id
  reconditioningAssetWorkOrderId : Option Id
  profile : ClosureProfile
  status : ClosureStatus
  physicalControlledAt : Option Int
  settledAt : Option Int
  closedAt : Option Int
  operationalCompletedAt : Option Int
  retiredAt : Option Int
  currentSettlementRevisionId : Option Id
  currentDocuments : DocumentType → Option Id
  version : Nat

structure ClosureEvent where
  sequence : Nat
  eventType : ClosureEventType
  beforeStatus : Option ClosureStatus
  afterStatus : ClosureStatus
  occurredAt : Int
  actorId : Id
  source : Source
  detailSnapshot : DetailSnapshot
  deriving DecidableEq

/-- What a document revision and the command that appends it have in common. -/
structure DocumentContent where
  documentType : DocumentType
  stage : DocumentStage
  documentSnapshot : String
  vehicleReturnId : Option Id
  handoverWorkOrderId : Option Id
  contractESignTaskId : Id
  sourceFileId : Id
  sourceFileHash : String
  signedFileId : Option Id
  signedFileHash : Option String
  signedBy : Option Id
  signedAt : Option Int
  archivedBy : Option Id
  archivedAt : Option Int
  generatedAt : Int
  deriving DecidableEq

structure DocumentRevision where
  content : DocumentContent
  revisionNumber : Nat
  supersedesRevisionId : Option Id
  generatedBy : Id
  source : Source
  deriving DecidableEq

structure SettlementAmounts where
  amountDueCents : Int
  amountRefundableCents : Int
  costTotalCents : Int
  depositAppliedCents : Int
  depositRefundCents : Int
  paidTotalCents : Int
  receivableTotalCents : Int
  waiverTotalCents : Int
  writeOffTotalCents : Int
  deriving DecidableEq

/-- What a settlement revision and the command that appends it have in common. -/
structure SettlementContent where
  settlementType : SettlementType
  stage : SettlementStage
  amounts : SettlementAmounts
  billInputSnapshot : String
  depositInputSnapshot : String
  ledgerInputSnapshot : String
  responsibilitySnapshot : String
  resultSnapshot : String
  waiverApprovalId : Option Id
  writeOffApprovalId : Option Id
  finalizedBy : Option Id
  finalizedAt : Option Int
  settledBy : Option Id
  settledAt : Option Int
  deriving DecidableEq

structure SettlementRevision where
  content : SettlementContent
  revisionNumber : Nat
  supersedesRevisionId : Option Id
  createdAt : Int
  createdBy : Id
  source : Source
  deriving DecidableEq

/-- The rows of one case. -/
structure CaseFile where
  record : CaseRecord
  events : List ClosureEvent
  documents : List DocumentRevision
  settlements : List SettlementRevision

/-! ## Commands -/

structure CreateCaseCommand where
  actorId : Id
  authoritySnapshot : DetailSnapshot
  profile : ClosureProfile
  orderId : Id
  customerId : Id
  vehicleId : Id
  contractId : Id
  vehicleReturnId : Option Id
  returnHandoverWorkOrderId : Option Id
  returnAssetWorkOrderId : Option Id
  recoveryAssetWorkOrderId : Option Id
  reconditioningAssetWorkOrderId : Option Id
  effectiveAt : Int
  source : Source
  deriving DecidableEq

structure EventCommand where
  actorId : Id
  closureCaseId : Id
  eventType : ClosureEventType
  afterStatus : ClosureStatus
  detailSnapshot : DetailSnapshot
  expectedStatus : ClosureStatus
  expectedVersion : Nat
  occurredAt : Int
  reconditioningAssetWorkOrderId : Option Id
  recoveryAssetWorkOrderId : Option Id
  retireCase : Bool
  source : Source
  deriving DecidableEq

structure EscalateCommand where
  actorId : Id
  closureCaseId : Id
  detailSnapshot : DetailSnapshot
  expectedStatus : ClosureStatus
  expectedVersion : Nat
  occurredAt : Int
  source : Source
  deriving DecidableEq

structure DocumentCommand where
  actorId : Id
  closureCaseId : Id
  content : DocumentContent
  expectedCurrentRevisionId : Option Id
  expectedVersion : Nat
  source : Source
  deriving DecidableEq

structure SettlementCommand where
  actorId : Id
  closureCaseId : Id
  content : SettlementContent
  expectedCurrentRevisionId : Option Id
  expectedVersion : Nat
  managedOccurredAt : Option Int
  recordedAt : Option Int
  source : Source
  deriving DecidableEq

inductive Command
  | createCase (command : CreateCaseCommand)
  | transitionCase (command : EventCommand)
  | escalateRecovery (command : EscalateCommand)
  | createDocumentRevision (command : DocumentCommand)
  | createSettlementRevision (command : SettlementCommand)
  deriving DecidableEq

def Command.source : Command → Source
  | .createCase command => command.source
  | .transitionCase command => command.source
  | .escalateRecovery command => command.source
  | .createDocumentRevision command => command.source
  | .createSettlementRevision command => command.source

inductive Outcome
  | case (record : CaseRecord)
  | transition (record : CaseRecord) (event : ClosureEvent)
  | document (revision : DocumentRevision)
  | settlement (revision : SettlementRevision)

/-! ## The database -/

inductive AssetWorkOrderType
  | returnInbound | recovery | reconditioning | other
  deriving DecidableEq

structure OrderRow where
  contractId : Id
  customerId : Id
  vehicleId : Id

structure ContractRow where
  orderId : Id
  customerId : Id

structure VehicleReturnRow where
  orderId : Id
  vehicleId : Id
  customerId : Id

structure HandoverRow where
  orderId : Id
  returnInbound : Bool

structure AssetWorkOrderRow where
  workOrderType : AssetWorkOrderType
  orderId : Id
  vehicleId : Id
  contractId : Id
  customerId : Id

/-- The rows of other subsystems. `documentAuthority` stands for the e-sign task and the files that
`assertDocumentAuthorityCoherence` compares with a document command. -/
structure References where
  order : Id → Option OrderRow
  contract : Id → Option ContractRow
  vehicleReturn : Id → Option VehicleReturnRow
  handover : Id → Option HandoverRow
  assetWorkOrder : Id → Option AssetWorkOrderRow
  documentAuthority : CaseRecord → DocumentCommand → Option DocumentRevision → Bool

structure Receipt where
  command : Command
  outcome : Outcome

/-- `clock` is the clock of the database. -/
structure State where
  clock : Int
  references : References
  cases : List CaseFile
  receipts : List Receipt

/-! ## Constraints -/

/-- The check constraints of the shape of a case. -/
def CaseRecord.shapeOk (c : CaseRecord) : Bool :=
  let intent :=
    (c.profile.closureType == .normalCompletion &&
      (c.profile.physicalControlMode == .voluntaryReturn &&
          c.profile.finalDisposition == .complete ||
        c.profile.physicalControlMode == .recovery && c.profile.finalDisposition == .terminate)) ||
    (c.profile.closureType == .earlyTermination && c.profile.finalDisposition == .terminate)
  let recoveryStatus := c.profile.physicalControlMode == .recovery ||
    c.status ∉ [ClosureStatus.recoveryAssessmentPending, .recoveryApprovalPending,
      .recoveryApproved, .recoveryInProgress, .vehicleSecured]
  let closed := c.closedAt.isSome && (c.settledAt.isSome || c.operationalCompletedAt.isSome)
  let terminal :=
    match c.status with
    | .completed => c.profile.finalDisposition == .complete && closed
    | .terminated => c.profile.finalDisposition == .terminate && closed
    | .rejected | .cancelled => c.closedAt.isSome
    | _ => c.closedAt.isNone
  let physicalControl :=
    match c.status with
    | .vehicleSecured | .returnInspection | .reconditioning | .pendingSettlement | .completed
    | .terminated => c.physicalControlledAt.isSome
    | .preparingReturn | .recoveryAssessmentPending | .recoveryApprovalPending | .recoveryApproved
    | .recoveryInProgress => c.physicalControlledAt.isNone
    | .rejected | .paused | .cancelled | .manualTakeover => true
  let retired := c.retiredAt.isNone ||
    c.profile.closureType == .earlyTermination && c.status == .cancelled &&
      c.vehicleReturnId.isNone && c.returnHandoverWorkOrderId.isNone &&
      c.returnAssetWorkOrderId.isNone && c.recoveryAssetWorkOrderId.isNone &&
      c.reconditioningAssetWorkOrderId.isNone && c.physicalControlledAt.isNone &&
      c.settledAt.isNone && c.currentSettlementRevisionId.isNone
  intent && recoveryStatus && terminal && physicalControl && retired

namespace References

variable (refs : References)

def assetWorkOrderOk (c : CaseRecord) (id : Option Id) (expectedType : AssetWorkOrderType) : Bool :=
  id.all fun id => (refs.assetWorkOrder id).any fun w =>
    w.workOrderType == expectedType && w.orderId == c.orderId && w.vehicleId == c.vehicleId &&
      w.contractId == c.contractId && w.customerId == c.customerId

/-- The trigger of the authorities, whose checks are also those of `assertCreateLinkCoherence`. -/
def caseAuthority (c : CaseRecord) : Bool :=
  ((refs.order c.orderId).any fun o => o.contractId == c.contractId &&
      o.customerId == c.customerId && o.vehicleId == c.vehicleId) &&
    ((refs.contract c.contractId).any fun k => k.orderId == c.orderId &&
      k.customerId == c.customerId) &&
    (c.vehicleReturnId.all fun id => (refs.vehicleReturn id).any fun r => r.orderId == c.orderId &&
      r.vehicleId == c.vehicleId && r.customerId == c.customerId) &&
    (c.returnHandoverWorkOrderId.all fun id => (refs.handover id).any fun h =>
      h.orderId == c.orderId && h.returnInbound) &&
    refs.assetWorkOrderOk c c.returnAssetWorkOrderId .returnInbound &&
    refs.assetWorkOrderOk c c.recoveryAssetWorkOrderId .recovery &&
    refs.assetWorkOrderOk c c.reconditioningAssetWorkOrderId .reconditioning

end References

/-- The constraint trigger of a terminal case. -/
def CaseFile.terminalSettlementOk (f : CaseFile) : Bool :=
  if f.record.status = .completed ∨ f.record.status = .terminated then
    (f.record.currentSettlementRevisionId.bind (f.settlements[·]?)).any fun r =>
      r.content.settlementType == .final && (r.content.stage == .settled ||
        r.content.stage == .finalized && f.record.operationalCompletedAt.isSome)
  else true

/-- The row is written, if the database takes it. -/
def writeCase (refs : References) (f : CaseFile) : Res CaseFile := do
  require f.record.shapeOk .invalidCommand
  require (refs.caseAuthority f.record) .authorityMismatch
  require f.terminalSettlementOk .terminalSettlementDeferred
  return f

/-! ## Normalization -/

def initialStatus (profile : ClosureProfile) : Res ClosureStatus :=
  if profile = ⟨.normalCompletion, .voluntaryReturn, .complete⟩ ∨
      profile = ⟨.earlyTermination, .voluntaryReturn, .terminate⟩ then .ok .preparingReturn
  else if profile = ⟨.earlyTermination, .recovery, .terminate⟩ then .ok .recoveryAssessmentPending
  else .error .invalidCommand

inductive Presence
  | absent | partially | present
  deriving DecidableEq

def nullableGroup (values : List Bool) : Presence :=
  let present := (values.filter id).length
  if present = 0 then .absent else if present = values.length then .present else .partially

/-- `left > right` for dates of which one may be absent. -/
def later (left right : Option Int) : Bool :=
  match left, right with
  | some left, some right => right < left
  | _, _ => false

def assertDocumentShape (c : DocumentContent) : Res Unit :=
  let signing := nullableGroup [c.signedFileId.isSome, c.signedFileHash.isSome, c.signedBy.isSome,
    c.signedAt.isSome]
  let archiving := nullableGroup [c.archivedBy.isSome, c.archivedAt.isSome]
  let returnLinks := c.vehicleReturnId.isSome && c.handoverWorkOrderId.isSome
  if signing = .partially ∨ archiving = .partially ∨ later (some c.generatedAt) c.signedAt ∨
      later c.signedAt c.archivedAt ∨
      (c.stage = .generated ∧ (signing = .present ∨ archiving = .present)) ∨
      (c.stage = .signed ∧ (signing ≠ .present ∨ archiving = .present)) ∨
      (c.stage = .archived ∧ (signing ≠ .present ∨ archiving ≠ .present)) then
    .error .invalidCommand
  else if (c.documentType = .returnManifest ∧ returnLinks = false) ∨
      (c.documentType ≠ .returnManifest ∧
        (c.vehicleReturnId.isSome ∨ c.handoverWorkOrderId.isSome)) then
    .error .invalidCommand
  else .ok ()

def SettlementAmounts.nonnegative (a : SettlementAmounts) : Bool :=
  0 ≤ a.amountDueCents && 0 ≤ a.amountRefundableCents && 0 ≤ a.costTotalCents &&
    0 ≤ a.depositAppliedCents && 0 ≤ a.depositRefundCents && 0 ≤ a.paidTotalCents &&
    0 ≤ a.receivableTotalCents && 0 ≤ a.waiverTotalCents && 0 ≤ a.writeOffTotalCents

def assertSettlementShape (command : SettlementCommand) : Res Unit :=
  let c := command.content
  let finalization := nullableGroup [c.finalizedBy.isSome, c.finalizedAt.isSome]
  let settlement := nullableGroup [c.settledBy.isSome, c.settledAt.isSome]
  if !c.amounts.nonnegative then .error .invalidCommand
  else if finalization = .partially ∨ settlement = .partially ∨
      (c.stage = .proposed ∧ (finalization = .present ∨ settlement = .present)) ∨
      (c.stage = .finalized ∧
        (c.settlementType ≠ .final ∨ finalization ≠ .present ∨ settlement = .present)) ∨
      (c.stage = .settled ∧
        (c.settlementType ≠ .final ∨ finalization ≠ .present ∨ settlement ≠ .present)) ∨
      (c.amounts.waiverTotalCents == 0) ≠ c.waiverApprovalId.isNone ∨
      (c.amounts.writeOffTotalCents == 0) ≠ c.writeOffApprovalId.isNone ∨
      command.managedOccurredAt.isNone ≠ command.recordedAt.isNone ∨
      later command.managedOccurredAt command.recordedAt ∨
      (command.recordedAt.isSome ∧
        (later c.finalizedAt command.recordedAt ∨ later c.settledAt command.recordedAt)) ∨
      later c.finalizedAt c.settledAt then
    .error .invalidCommand
  else .ok ()

/-- The checks of a command that read no row. -/
def normalize : Command → Res Unit
  | .createCase command => do
    let _ ← initialStatus command.profile
  | .transitionCase command =>
    require (command.eventType ∈ [ClosureEventType.statusTransitioned, .physicalControlConfirmed,
      .inspectionRecorded, .inventoryReleased, .noteAdded]) .invalidCommand
  | .escalateRecovery _ => .ok ()
  | .createDocumentRevision command => assertDocumentShape command.content
  | .createSettlementRevision command => assertSettlementShape command

end SubscriptionSaas.Closure
