import SubscriptionSaas.Closure.Cases

/-!
# The commands of the closure repository

`execute` is a command in its transaction: what it repeats is answered from the receipt, and what it
does is written with an event and a receipt. `step` is the machine of the repository.
-/

namespace SubscriptionSaas.Closure

open Results
open Billing (Id)

/-! ## What the commands read -/

/-- `MAX("occurred_at")`. -/
def latestOccurredAt (events : List ClosureEvent) : Option Int := (events.map (·.occurredAt)).max?

def assertDatabaseEventTime (clockTimestamp : Int) (events : List ClosureEvent)
    (occurredAt : Int) : Res Unit :=
  let latest := latestOccurredAt events
  let reusesLatestHistoricalTime := latest == some occurredAt
  if (clockTimestamp < occurredAt ∧ !reusesLatestHistoricalTime) ∨
      latest.any fun latest => occurredAt < latest then
    .error .invalidCommand
  else .ok ()

def databaseEventOccurrence (clockTimestamp : Int) (events : List ClosureEvent) : Res Int :=
  if (latestOccurredAt events).any fun latest => clockTimestamp < latest then .error .invalidCommand
  else .ok clockTimestamp

def assertExpectedCase (record : CaseRecord) (expectedVersion : Nat)
    (expectedStatus : Option ClosureStatus) : Res Unit := do
  require (record.version == expectedVersion) .versionConflict
  require (expectedStatus.all (record.status == ·)) .statusConflict

def assertRecoveryWorkOrderLink (refs : References) (record : CaseRecord)
    (command : EventCommand) : Res Unit :=
  match command.recoveryAssetWorkOrderId with
  | none => .ok ()
  | some workOrderId => do
    require (command.afterStatus == .recoveryInProgress &&
      record.profile.physicalControlMode == .recovery &&
      record.recoveryAssetWorkOrderId.all (· == workOrderId)) .authorityMismatch
    require (refs.assetWorkOrderOk record (some workOrderId) .recovery) .authorityMismatch

/-- The stage that the latest event with the status `PAUSED` remembers. -/
def rememberedStage (events : List ClosureEvent) : Option ClosureStatus :=
  (((events.filter (·.afterStatus == .paused)).insertionSort fun a b =>
    b.sequence ≤ a.sequence).head?).bind (·.detailSnapshot.pausedFromStatus)

def asStatusConflict (result : Except DomainErr Unit) : Res Unit :=
  result.mapError fun _ => .statusConflict

def validateEventTransition (f : CaseFile) (command : EventCommand) : Res Unit :=
  let current := f.record
  if command.eventType = .physicalControlConfirmed ∧
      current.profile.physicalControlMode = .recovery ∧ current.status = .recoveryInProgress ∧
      command.afterStatus = .returnInspection then
    .ok ()
  else if command.eventType = .statusTransitioned ∧ command.afterStatus = .paused then do
    require (command.detailSnapshot.recoveryAction == some .pause &&
      command.detailSnapshot.pausedFromStatus == some current.status) .statusConflict
    asStatusConflict (assertRecoveryPauseTransition current.profile current.status .paused none)
  else if command.eventType = .statusTransitioned ∧ current.status = .paused then do
    let remembered := rememberedStage f.events
    require (command.detailSnapshot.recoveryAction == some .resume &&
      command.detailSnapshot.resumedStage == remembered &&
      remembered == some command.afterStatus) .statusConflict
    asStatusConflict
      (assertRecoveryPauseTransition current.profile .paused command.afterStatus remembered)
  else if command.eventType = .statusTransitioned ∨ command.eventType = .physicalControlConfirmed ∨
      command.eventType = .inspectionRecorded then
    asStatusConflict
      (assertSubscriptionClosureTransition current.profile current.status command.afterStatus)
  else require (command.afterStatus == current.status) .statusConflict

def assertTerminalSettlementAuthority (f : CaseFile) (target : ClosureStatus) : Res Unit :=
  if target = .completed ∨ target = .terminated then
    require ((f.record.currentSettlementRevisionId.bind (f.settlements[·]?)).any fun r =>
      r.content.settlementType == .final && r.content.stage == .settled) .currentSettlementConflict
  else .ok ()

def assertDocumentLifecycleAtDatabaseClock (now : Int) (c : DocumentContent) : Res Unit :=
  require (c.generatedAt ≤ now && c.signedAt.all (· ≤ now) && c.archivedAt.all (· ≤ now))
    .invalidCommand

def assertSettlementLifecycleAtDatabaseClock (now : Int) (command : SettlementCommand) : Res Unit :=
  require (command.managedOccurredAt.all (· ≤ now) && command.recordedAt.all (· ≤ now) &&
    command.content.finalizedAt.all (· ≤ now) && command.content.settledAt.all (· ≤ now))
    .invalidCommand

def assertSettlementPredecessorChronology (command : SettlementCommand)
    (predecessor : Option SettlementRevision) : Res Unit :=
  let c := command.content
  match c.stage, predecessor with
  | .proposed, _ => .ok ()
  | _, none => .error .invalidCommand
  | .finalized, some p =>
    require (p.content.stage == .proposed && c.finalizedAt.all (p.createdAt ≤ ·)) .invalidCommand
  | .settled, some p =>
    require (p.content.stage == .finalized && p.content.finalizedAt.isSome &&
      p.content.finalizedBy.isSome && c.finalizedAt == p.content.finalizedAt &&
      c.finalizedBy == p.content.finalizedBy && !later p.content.finalizedAt c.settledAt)
      .invalidCommand

/-! ## The commands -/

/-- A case as it is created. -/
def newCase (command : CreateCaseCommand) (status : ClosureStatus) : CaseRecord where
  orderId := command.orderId
  customerId := command.customerId
  vehicleId := command.vehicleId
  contractId := command.contractId
  vehicleReturnId := command.vehicleReturnId
  returnHandoverWorkOrderId := command.returnHandoverWorkOrderId
  returnAssetWorkOrderId := command.returnAssetWorkOrderId
  recoveryAssetWorkOrderId := command.recoveryAssetWorkOrderId
  reconditioningAssetWorkOrderId := command.reconditioningAssetWorkOrderId
  profile := command.profile
  status := status
  physicalControlledAt := none
  settledAt := none
  closedAt := none
  operationalCompletedAt := none
  retiredAt := none
  currentSettlementRevisionId := none
  currentDocuments := fun _ => none
  version := 0

def createCase (s : State) (command : CreateCaseCommand) : Res (CaseFile × Outcome) := do
  let status ← initialStatus command.profile
  let record := newCase command status
  require (s.references.order command.orderId).isSome .authorityNotFound
  require (command.recoveryAssetWorkOrderId.isNone ||
    command.profile.physicalControlMode == .recovery) .authorityMismatch
  require (s.references.caseAuthority record) .authorityMismatch
  require (!s.cases.any fun f => f.record.orderId == command.orderId && f.record.retiredAt.isNone)
    .caseAlreadyExists
  let occurredAt ← databaseEventOccurrence s.clock []
  let f ← writeCase s.references
    { record := record
      events := [{
        sequence := 1
        eventType := .caseCreated
        beforeStatus := none
        afterStatus := status
        occurredAt := occurredAt
        actorId := command.actorId
        source := command.source
        detailSnapshot := command.authoritySnapshot }]
      documents := []
      settlements := [] }
  return (f, .case record)

/-- The row after an event. -/
def transitioned (current : CaseRecord) (command : EventCommand) : CaseRecord :=
  { current with
    closedAt := if terminalStatus command.afterStatus then some command.occurredAt
      else current.closedAt
    physicalControlledAt :=
      if physicalControlledStatus command.afterStatus ∧ current.physicalControlledAt = none then
        some command.occurredAt
      else current.physicalControlledAt
    settledAt :=
      if command.afterStatus = .completed ∨ command.afterStatus = .terminated then
        some command.occurredAt
      else current.settledAt
    reconditioningAssetWorkOrderId :=
      if command.eventType = .inspectionRecorded then
        command.reconditioningAssetWorkOrderId.or current.reconditioningAssetWorkOrderId
      else current.reconditioningAssetWorkOrderId
    recoveryAssetWorkOrderId :=
      command.recoveryAssetWorkOrderId.or current.recoveryAssetWorkOrderId
    retiredAt := if command.retireCase then some command.occurredAt else current.retiredAt
    status := command.afterStatus
    version := current.version + 1 }

def appendEvent (s : State) (f : CaseFile) (command : EventCommand) :
    Res (CaseFile × Outcome) := do
  assertExpectedCase f.record command.expectedVersion (some command.expectedStatus)
  assertDatabaseEventTime s.clock f.events command.occurredAt
  validateEventTransition f command
  assertRecoveryWorkOrderLink s.references f.record command
  assertTerminalSettlementAuthority f command.afterStatus
  let changed := transitioned f.record command
  let event : ClosureEvent := {
    sequence := f.record.version + 2
    eventType := command.eventType
    beforeStatus := some f.record.status
    afterStatus := command.afterStatus
    occurredAt := command.occurredAt
    actorId := command.actorId
    source := command.source
    detailSnapshot := command.detailSnapshot }
  let f ← writeCase s.references { f with record := changed, events := f.events ++ [event] }
  return (f, .transition changed event)

def escalateRecovery (s : State) (f : CaseFile) (command : EscalateCommand) :
    Res (CaseFile × Outcome) := do
  assertExpectedCase f.record command.expectedVersion (some command.expectedStatus)
  assertDatabaseEventTime s.clock f.events command.occurredAt
  let profile := { f.record.profile with
    finalDisposition := .terminate
    physicalControlMode := .recovery }
  asStatusConflict (assertSubscriptionClosureEscalation f.record.profile
    f.record.physicalControlledAt f.record.status profile)
  let changed := { f.record with
    profile := profile
    status := .recoveryAssessmentPending
    version := f.record.version + 1 }
  let event : ClosureEvent := {
    sequence := f.record.version + 2
    eventType := .recoveryEscalated
    beforeStatus := some f.record.status
    afterStatus := .recoveryAssessmentPending
    occurredAt := command.occurredAt
    actorId := command.actorId
    source := command.source
    detailSnapshot := command.detailSnapshot }
  let f ← writeCase s.references { f with record := changed, events := f.events ++ [event] }
  return (f, .transition changed event)

/-- The members of the detail of a document revision. -/
def documentDetail (id : Id) (documentType : DocumentType) (revisionNumber : Nat) :
    DetailSnapshot where
  members := [("documentRevisionId", toString id), ("documentType", match documentType with
    | .returnManifest => "RETURN_MANIFEST"
    | .earlyTerminationAgreement => "EARLY_TERMINATION_AGREEMENT"
    | .recoveryAuthority => "RECOVERY_AUTHORITY"), ("revisionNumber", toString revisionNumber)]

def appendDocumentRevision (s : State) (f : CaseFile) (command : DocumentCommand) :
    Res (CaseFile × Outcome) := do
  assertExpectedCase f.record command.expectedVersion none
  let documentType := command.content.documentType
  let current := f.record.currentDocuments documentType
  require (current == command.expectedCurrentRevisionId) .currentDocumentConflict
  let predecessor := current.bind (f.documents[·]?)
  require (current.isNone || predecessor.any (·.content.documentType == documentType))
    .authorityMismatch
  require (s.references.documentAuthority f.record command predecessor) .authorityMismatch
  let created : DocumentRevision := {
    content := command.content
    revisionNumber := (predecessor.map (·.revisionNumber)).getD 0 + 1
    supersedesRevisionId := current
    generatedBy := command.actorId
    source := command.source }
  let id := f.documents.length
  let occurredAt ← databaseEventOccurrence s.clock f.events
  let event : ClosureEvent := {
    sequence := f.record.version + 2
    eventType := .documentRevisionCreated
    beforeStatus := some f.record.status
    afterStatus := f.record.status
    occurredAt := occurredAt
    actorId := command.actorId
    source := command.source
    detailSnapshot := documentDetail id documentType created.revisionNumber }
  let f ← writeCase s.references { f with
    record := { f.record with
      currentDocuments := fun t =>
        if t = documentType then some id else f.record.currentDocuments t
      version := f.record.version + 1 }
    events := f.events ++ [event]
    documents := f.documents ++ [created] }
  return (f, .document created)

/-- The members of the detail of a settlement revision. -/
def settlementDetail (id : Id) (content : SettlementContent) (revisionNumber : Nat) :
    DetailSnapshot where
  members := [("revisionNumber", toString revisionNumber), ("settlementRevisionId", toString id),
    ("settlementType", match content.settlementType with
      | .estimate => "ESTIMATE"
      | .final => "FINAL"), ("stage", match content.stage with
      | .proposed => "PROPOSED"
      | .finalized => "FINALIZED"
      | .settled => "SETTLED")]

/-- `repositoryClock` was read when the command began. -/
def appendSettlementRevision (s : State) (f : CaseFile) (command : SettlementCommand)
    (repositoryClock : Int) : Res (CaseFile × Outcome) := do
  assertExpectedCase f.record command.expectedVersion none
  let current := f.record.currentSettlementRevisionId
  require (current == command.expectedCurrentRevisionId) .currentSettlementConflict
  let predecessor := current.bind (f.settlements[·]?)
  require (current.isNone || predecessor.isSome) .authorityMismatch
  assertSettlementPredecessorChronology command predecessor
  let created : SettlementRevision := {
    content := command.content
    revisionNumber := (predecessor.map (·.revisionNumber)).getD 0 + 1
    supersedesRevisionId := current
    createdAt := command.recordedAt.getD repositoryClock
    createdBy := command.actorId
    source := command.source }
  let id := f.settlements.length
  let event : ClosureEvent := {
    sequence := f.record.version + 2
    eventType := .settlementRevisionCreated
    beforeStatus := some f.record.status
    afterStatus := f.record.status
    occurredAt := created.createdAt
    actorId := command.actorId
    source := command.source
    detailSnapshot := settlementDetail id command.content created.revisionNumber }
  let f ← writeCase s.references { f with
    record := { f.record with
      currentSettlementRevisionId := some id
      version := f.record.version + 1 }
    events := f.events ++ [event]
    settlements := f.settlements ++ [created] }
  return (f, .settlement created)

/-! ## Transactions -/

def replayReceipt (s : State) (command : Command) : Res (Option Outcome) :=
  match s.receipts.find? (·.command.source == command.source) with
  | none => .ok none
  | some receipt =>
    if receipt.command = command then .ok (some receipt.outcome) else .error .sourceConflict

/-- The clock is read before the receipt by the commands with lifecycle times. -/
def lifecycleAtDatabaseClock (startedAt : Int) : Command → Res Unit
  | .createDocumentRevision command =>
    assertDocumentLifecycleAtDatabaseClock startedAt command.content
  | .createSettlementRevision command => assertSettlementLifecycleAtDatabaseClock startedAt command
  | _ => .ok ()

/-- A command on a case, with its receipt. -/
def updateCase (s : State) (command : Command) (closureCaseId : Id)
    (change : CaseFile → Res (CaseFile × Outcome)) : Res (State × Outcome) :=
  match s.cases[closureCaseId]? with
  | none => .error .caseNotFound
  | some f => do
    let (f, outcome) ← change f
    return ({ s with
      cases := s.cases.set closureCaseId f
      receipts := s.receipts ++ [⟨command, outcome⟩] }, outcome)

/-- A command whose source is new. -/
def perform (s : State) (startedAt : Int) (command : Command) : Res (State × Outcome) :=
  match command with
  | .createCase create => do
    let (f, outcome) ← createCase s create
    return ({ s with
      cases := s.cases ++ [f]
      receipts := s.receipts ++ [⟨command, outcome⟩] }, outcome)
  | .transitionCase transition =>
    updateCase s command transition.closureCaseId fun f => appendEvent s f transition
  | .escalateRecovery escalate =>
    updateCase s command escalate.closureCaseId fun f => escalateRecovery s f escalate
  | .createDocumentRevision document =>
    updateCase s command document.closureCaseId fun f => appendDocumentRevision s f document
  | .createSettlementRevision settlement =>
    updateCase s command settlement.closureCaseId fun f =>
      appendSettlementRevision s f settlement startedAt

/-- The outcome, and whether anything was written for it. -/
def execute (s : State) (startedAt : Int) (command : Command) : Res (State × Outcome × Bool) := do
  normalize command
  lifecycleAtDatabaseClock startedAt command
  match ← replayReceipt s command with
  | some outcome => return (s, outcome, false)
  | none => do
    let (s, outcome) ← perform s startedAt command
    return (s, outcome, true)

/-! ## The machine -/

inductive Input
  | tick (elapsed : Nat)
  | refer (references : References)
  | command (startedAt : Int) (command : Command)

/-- A command has begun at a time of the clock that has passed. -/
def step (s : State) : Input → State
  | .tick elapsed => { s with clock := s.clock + elapsed }
  | .refer references => { s with references := references }
  | .command startedAt command =>
    if startedAt ≤ s.clock then
      match execute s startedAt command with
      | .ok (s, _) => s
      | .error _ => s
    else s

def initial (clock : Int) (references : References) : State where
  clock := clock
  references := references
  cases := []
  receipts := []

def history (clock : Int) (references : References) (inputs : List Input) : State :=
  Runs.runs step (initial clock references) inputs

end SubscriptionSaas.Closure
