import SubscriptionSaas.Journey.Repository
import SubscriptionSaas.Lib.Runs

/-!
# The journey services

The dispatch of the outbox, the signals and decisions of the other services, the handlers of the jobs
and the operations of an administrator; and the machine in which they happen in any order. Each is a
transaction, which leaves the tables alone when it fails.
-/

namespace SubscriptionSaas.Journey

/-! ## Dispatch -/

/-- `JOB_TYPE_BY_STEP`. -/
def jobTypeByStep : StepCode → Option JobType
  | .applicationValidation => some .validateApplication
  | .authoritativeActivation => some .activateSubscription
  | .customerJsapiPayment => some .evaluatePaymentSettlement
  | .fadadaSigningAndArchive => some .startFadadaSigning
  | .handoverAndStage2Creation => some .createHandover
  | .initialBilling => some .generateInitialBills
  | .orderAndContractCreation => some .createOrderAndContract
  | _ => none

/-- `CUSTOMER_NOTIFICATION_STEPS`. -/
def customerNotificationSteps : List StepCode :=
  [.customerPlanConfirmation, .fadadaSigningAndArchive, .customerJsapiPayment,
    .handoverAndStage2Creation]

/-- The current step, whose row is created unless it is there. -/
def State.readCurrentJourney (s : State) : State × Step :=
  s.upsertStep s.journey.currentStepCode .pending id

def readHandoverEvidenceSnapshot : Payload → Except Failure Evidence
  | .transition .completeStep _ (.evidence evidence) => .ok evidence
  | _ => .error
    (invalidTransition "The delivery-evidence decision is missing its exact evidence snapshot.")

/-- The `journeyVersion` of the payload distinguishes the jobs of two of the steps. -/
def stepFacts (code : StepCode) : Payload → Option Nat
  | .signal _ journeyVersion =>
    if code = .applicationValidation ∨ code = .customerJsapiPayment then some journeyVersion
    else none
  | _ => none

/-- The facts of the application, observed at the validation of the application. -/
def dispatchFacts (factType : FactType) (factVersion : Nat) (sourceActionId : Id) (step : Step)
    (s : State) : Result :=
  if s.journey.currentStepCode ≠ .applicationValidation ∨
      factVersion ≤ s.journey.lastApplicationFactVersion then
    .ok s
  else
    enqueueJob .validateApplication
      (.facts s.journey.applicationId factType factVersion sourceActionId) (.facts factVersion)
      step.id 5 s.now s

/-- At the confirmation of the plan by the customer. -/
def dispatchPlanConfirmation (outbox : OutboxRow) (step : Step) (s : State) : Result :=
  let revision := s.application.finalPlanRevision
  let payload := StepPayload.plan s.application.finalPlanCommercialHash revision
  match outbox.payload, s.application.finalPlanCommercialHash with
  | .signal (.customerPlanConfirmed signalRevision signalHash) _, some commercialHash =>
    if signalRevision = revision ∧ signalHash = commercialHash then
      completeStep (.confirmationCompleted revision (hashKey commercialHash)) s.journey.version
        step.id payload none s
    else if s.journey.currentStepStatus = .waitingCustomer then .ok s
    else waitForCustomer (.confirmationWaiting revision) s.journey.version step.id payload none s
  | _, _ =>
    if s.journey.currentStepStatus = .waitingCustomer then .ok s
    else waitForCustomer (.confirmationWaiting revision) s.journey.version step.id payload none s

/-- The manual task or the job of the current step. -/
def dispatchStep (outbox : OutboxRow) (step : Step) (s : State) : Result :=
  let code := s.journey.currentStepCode
  let revision := s.application.finalPlanRevision
  if (manualTaskTypeFor code).isSome then do
    let evidence ←
      if code = .deliveryEvidenceDecision then
        (readHandoverEvidenceSnapshot outbox.payload).map some
      else .ok none
    openManualTask step.id ⟨s.journey.applicationId, revision, evidence, none⟩ s
  else
    match jobTypeByStep code with
    | none => .ok s
    | some jobType =>
      enqueueJob jobType (.step s.journey.applicationId revision s.journey.orderId code)
        (.step code revision (stepFacts code outbox.payload)) step.id 5 s.now s

def dispatchSignalOutbox (outbox : OutboxRow) (s : State) : Result :=
  let (s, step) := s.readCurrentJourney
  match outbox.payload with
  | .signal (.applicationFactsChanged factType factVersion sourceActionId) _ =>
    dispatchFacts factType factVersion sourceActionId step s
  | payload =>
    let s := enqueueNotificationOutbox outbox s
    match s.journey.currentStepCode, payload with
    | .customerPlanConfirmation, _ => dispatchPlanConfirmation outbox step s
    | .fadadaSigningAndArchive, .signal (.fadadaArtifactArchived contractId _ _ taskId) _ =>
      completeStep (.archived contractId) s.journey.version step.id (.archived contractId taskId)
        none s
    | .fadadaSigningAndArchive, .signal (.fadadaTaskCompleted contractId taskId) _ =>
      enqueueJob .reconcileFadadaSigning (.reconcile contractId s.journey.orderId taskId)
        (.reconcile taskId) step.id 100 s.now s
    | .handoverAndStage2Creation, .signal (.handoverEvidenceReady evidence) _ =>
      completeStep (.handoverReady evidence.workOrderId) s.journey.version step.id
        (.evidence evidence) none s
    | _, _ => dispatchStep outbox step s

def dispatchNotificationOutbox (outbox : OutboxRow) (s : State) : Result :=
  let (s, step) := s.readCurrentJourney
  let code := s.journey.currentStepCode
  if outbox.eventType ≠ .stepCompleted ∨ !customerNotificationSteps.contains code then .ok s
  else
    let eventKey := match outbox.payload with
      | .notification eventKey _ _ => eventKey
      | _ => outbox.key
    enqueueJob .dispatchNotification (.notification eventKey s.application.finalPlanRevision code)
      (.notification outbox.id) step.id 5 s.now s

/-- `MAX_OUTBOX_ATTEMPTS`. -/
def maxOutboxAttempts : Nat := 5

/-- What the worker does with a row whose dispatch has failed. -/
def handleOutboxFailure (outbox : OutboxRow) (failure : JourneyFailure) (delayMs : Nat) :
    State → Result :=
  if !failure.retryable || maxOutboxAttempts ≤ outbox.attemptCount + 1 then deadLetterOutbox outbox
  else rescheduleOutbox outbox delayMs

/-! ## Signals and decisions -/

/-- The signals that name the order do not reach a journey without one. -/
def Signal.byOrder : Signal → Bool
  | .applicationFactsChanged .. | .customerPlanConfirmed .. => false
  | _ => true

/-- `SubscriptionJourneySignalService.record`. -/
def record (signal : Signal) (s : State) : Result :=
  if signal.byOrder && s.journey.orderId.isNone then .ok s else recordSignal signal s

/-- `recordJourneyApplicationFactsChanged`. -/
def recordJourneyApplicationFactsChanged (factType : FactType) (actionId : Id) (s : State) : Result :=
  let factVersion := s.application.journeyFactVersion + 1
  record (.applicationFactsChanged factType factVersion actionId)
    { s with application := { s.application with journeyFactVersion := factVersion } }

/-- With the new version of the facts that comes with the termination. -/
def terminateApplication (outcome : Termination) (actionId : Id) (s : State) : Result :=
  let factVersion := s.application.journeyFactVersion + 1
  let s : State := { s with application := { s.application with journeyFactVersion := factVersion } }
  if s.journey.status = .cancelled then .ok s
  else if s.journey.status = .completed then
    .error (invalidTransition
      "A completed subscription journey cannot be terminated from the application.")
  else
    match s.stepOf s.journey.currentStepCode with
    | none => .error (notFound "The current subscription journey step was not found.")
    | some step =>
      rejectForApplication none (.terminated outcome actionId) s.journey.version step.id
        (.terminated outcome factVersion) factVersion s

/-- The open task of the step. -/
def State.openTask? (s : State) (stepId : Id) : Option ManualTask :=
  s.tasks.find? fun task => task.status == .open && task.stepId == stepId

/-- The current step, which has to be this one, and its open task. -/
def requireManualTask (code : StepCode) (mismatch missing : String) (s : State) :
    Except Failure (Step × ManualTask) :=
  if s.journey.currentStepCode ≠ code then .error (invalidTransition mismatch)
  else
    match s.stepOf code with
    | none => .error (notFound missing)
    | some step =>
      match s.openTask? step.id with
      | none => .error (notFound missing)
      | some task => .ok (step, task)

def completeManualDecision (expectedStepCode : StepCode) (revision : Nat) (payload : StepPayload)
    (s : State) : Result := do
  let (step, task) ← requireManualTask expectedStepCode
    "The manual decision does not match the current journey step."
    "The open subscription journey manual task was not found." s
  let version := s.journey.version
  let s ← decideManualTask task.id task.version .approved s
  completeStep (.decided expectedStepCode revision) version step.id payload none s

/-- `/^sha256:[0-9a-f]{64}$/i`. -/
def validCommercialHash (commercialHash : Hash) : Bool :=
  let digits := commercialHash.drop 7
  (commercialHash.take 7).map Char.toLower == "sha256:".toList && digits.length == 64 &&
    digits.all fun c => c.isDigit || ('a' ≤ c.toLower && c.toLower ≤ 'f')

def completeFinalPlanAndVehicleAllocation (commercialHash : Hash) (revision : Nat) (vehicleId : Id)
    (s : State) : Result :=
  if s.journey.currentStepCode ≠ .finalPlanDecision then
    .error (invalidTransition
      "The final-plan publication does not match the current journey step.")
  else if revision < 1 ∨ !validCommercialHash commercialHash then
    .error (journeyError .journeyIdempotencyConflict
      "The final-plan publication identity is invalid.")
  else do
    let (finalPlanStep, task) ← requireManualTask .finalPlanDecision
      "The final-plan publication does not match the current journey step."
      "The open final-plan decision task was not found." s
    let version := s.journey.version
    let (s, vehicleStep) := s.upsertStep .finalVehicleAllocation .pending id
    let payload := StepPayload.planVehicle commercialHash revision vehicleId
    let s ← decideManualTask task.id task.version .approved s
    let s ← completeStep (.published .finalPlanDecision revision (hashKey commercialHash)) version
      finalPlanStep.id payload none s
    completeStep (.published .finalVehicleAllocation revision (hashKey commercialHash)) (version + 1)
      vehicleStep.id payload none s

def requireCustomerReconfirmationAfterManualDecision (revision : Nat) (vehicleId : Id) (s : State) :
    Result :=
  if s.journey.currentStepCode = .customerPlanConfirmation then .ok s
  else do
    let (vehicleStep, task) ← requireManualTask .finalVehicleAllocation
      "Vehicle reconfirmation does not match the current journey step."
      "The open vehicle-allocation task was not found." s
    let version := s.journey.version
    let s ← decideManualTask task.id task.version .approved s
    returnToCustomerConfirmation (.reconfirmation revision) version (.vehicle revision vehicleId)
      vehicleStep.id s

def completeHandoverEvidenceDecision (decision : Decision) (manifestHash : Hash) (workOrderId : Id)
    (s : State) : Result := do
  let (step, task) ← requireManualTask .deliveryEvidenceDecision
    "The aggregate delivery-evidence decision does not match the current journey step."
    "The open delivery-evidence decision task was not found." s
  let snapshot := task.inputSnapshot.evidence
  if snapshot.map (·.workOrderId) ≠ some workOrderId ∨
      snapshot.map (·.manifestHash) ≠ some manifestHash then
    .error (journeyError .journeyIdempotencyConflict
      "The aggregate delivery-evidence decision does not match the queued evidence snapshot.")
  else
    let version := s.journey.version
    let s ← recordSignal (.handoverOpsReviewed decision manifestHash workOrderId) s
    let s ← decideManualTask task.id task.version decision s
    let key := EventKey.evidenceDecided workOrderId (manifestHash.take 12) decision
    let payload := StepPayload.decision decision manifestHash workOrderId
    match decision with
    | .approved => completeStep key (version + 1) step.id payload none s
    | .rejected => returnToHandoverEvidence key (version + 1) payload step.id s

/-! ## Job handlers -/

/-- The job is for the row of the step. -/
def jobStep (job : Job) (code : StepCode) (message : String) (s : State) : Except Failure Step :=
  match s.stepOf code with
  | some step => if step.id = job.stepId then .ok step else .error (invalidTransition message)
  | none => .error (invalidTransition message)

def validateApplicationJob (job : Job) (outcome : Outcome) (reasonCodes : List String) (s : State) :
    Result :=
  if s.journey.currentStepCode ≠ .applicationValidation then .ok s
  else do
    let step ← jobStep job .applicationValidation
      "The application validation job does not match the current journey step." s
    let factVersion := s.application.journeyFactVersion
    let version := s.journey.version
    let key := EventKey.validationFacts factVersion outcome
    let payload := StepPayload.facts factVersion reasonCodes
    if factVersion < s.journey.lastApplicationFactVersion then .ok s
    else
      match outcome with
      | .waitingManual => waitForManual key version step.id payload factVersion s
      | .waitingCustomer => waitForCustomer key version step.id payload (some factVersion) s
      | .rejected => rejectForApplication (some job.id) key version step.id payload factVersion s
      | .ready =>
        completeStep .validationCompleted version step.id
          (.validated s.journey.applicationId factVersion) (some factVersion) s

def attachOrder (orderId : Id) (s : State) : Result :=
  if s.journey.orderId = none ∨ s.journey.orderId = some orderId then
    .ok { s with journey := { s.journey with orderId := some orderId } }
  else .error (journeyError .journeyIdempotencyConflict
    "The subscription journey is already attached to another order.")

/-- The requote of the job has returned the journey already. -/
def requoted (job : Job) (s : State) : Bool :=
  match s.event? (.jobRequote job.sourceKey) with
  | some ⟨_, _, _, .requireFinalPlanRequote revision stepId _⟩ =>
    some revision == job.payload.finalPlanRevision && stepId == job.stepId
  | _ => false

/-- `bootstrap` is the order with its contract, if the commercial plan has not changed. -/
def createOrderAndContractJob (job : Job) (bootstrap : Option (Id × Id)) (s : State) : Result :=
  let revision := s.application.finalPlanRevision
  let current := job.payload.finalPlanRevision = some revision
  if s.journey.currentStepCode ≠ .orderAndContractCreation ∨ ¬current then
    if requoted job s || s.journey.orderId.isSome then .ok s
    else .error (journeyError
      (if current then .journeyIdempotencyConflict else .finalPlanRevisionStale)
      "The order bootstrap no longer matches the current step and revision.")
  else do
    let step ← jobStep job .orderAndContractCreation
      "The order bootstrap job does not match the current journey step." s
    let version := s.journey.version
    if revision < 1 then
      .error (journeyError .finalPlanRevisionStale
        "The order bootstrap job targets a stale final-plan revision.")
    else
      match bootstrap with
      | none => returnToFinalPlanDecision (.jobRequote job.sourceKey) version revision step.id s
      | some (orderId, contractId) => do
        let s ← attachOrder orderId s
        completeStep (.jobCompleted job.sourceKey) version step.id
          (.orderContract contractId orderId) none s

/-- The order and the current step of a billing job; nothing when the step is completed already. -/
def readBillingJobContext (job : Job) (expected : StepCode) (s : State) :
    Except Failure (Option (Id × Step)) :=
  match s.journey.orderId with
  | none => .error (notFound "The subscription journey does not have an order.")
  | some orderId => do
    let step ← jobStep job expected
      "The billing job does not match its subscription journey step." s
    if s.journey.currentStepCode ≠ expected then
      if step.status = .completed then .ok none
      else .error (invalidTransition
        "The subscription journey is not at the requested billing step.")
    else if job.payload.orderId ≠ some orderId ∨
        job.payload.finalPlanRevision ≠ some s.application.finalPlanRevision then
      .error (journeyError .finalPlanRevisionStale
        "The billing job targets a stale order or final-plan revision.")
    else .ok (some (orderId, step))

def generateInitialBillsJob (job : Job) (billIds : List Id) (s : State) : Result := do
  match ← readBillingJobContext job .initialBilling s with
  | none => .ok s
  | some (orderId, step) =>
    completeStep (.jobCompleted job.sourceKey) s.journey.version step.id (.bills billIds orderId)
      none s

/-- `remainingAmount` is what the initial bills leave to pay. -/
def evaluatePaymentSettlementJob (job : Job) (remainingAmount : Option Int) (s : State) : Result := do
  match ← readBillingJobContext job .customerJsapiPayment s with
  | none => .ok s
  | some (orderId, step) =>
    match remainingAmount with
    | none =>
      completeStep (.jobCompleted job.sourceKey) s.journey.version step.id (.paid orderId) none s
    | some remainingAmount =>
      if s.journey.currentStepStatus = .waitingCustomer then .ok s
      else
        waitForCustomer (.jobWaiting job.sourceKey) s.journey.version step.id
          (.remaining orderId remainingAmount) none s

/-- What an activation has created. -/
structure Activated where
  deliveryId : Id
  leaseId : Id
  orderId : Id
  vehicleId : Id
  deriving DecidableEq

/-- What `activateFromAuthoritativeHandover` does to the journey of the order. -/
def activateFromAuthoritativeHandover (result : Activated) (s : State) : Result :=
  match s.stepOf .authoritativeActivation with
  | none => .error (.http "Subscription journey activation is unavailable.")
  | some step =>
    if s.journey.status = .completed then .ok s
    else if s.journey.currentStepCode ≠ .authoritativeActivation ∨
        s.journey.currentStepStatus = .completed then
      .error (.http "JOURNEY_ACTIVATION_STEP_MISMATCH")
    else
      completeActivation s.journey.version step.id
        (.activation result.deliveryId result.leaseId result.orderId result.vehicleId) s

/-- The engine activates the subscription, or gives the reasons why the vehicle is restricted. -/
def activateSubscriptionJob (job : Job) (result : Except (List String) Activated) (s : State) :
    Result :=
  match s.journey.orderId with
  | none => .error (notFound "The subscription journey activation order was not found.")
  | some orderId => do
    let step ← jobStep job .authoritativeActivation
      "The activation job does not match its subscription journey step." s
    if s.journey.status = .completed ∧ step.status = .completed then .ok s
    else if s.journey.currentStepCode ≠ .authoritativeActivation then
      .error (invalidTransition "The journey is not at authoritative activation.")
    else if job.payload.orderId ≠ some orderId ∨
        job.payload.finalPlanRevision ≠ some s.application.finalPlanRevision then
      .error (journeyError .finalPlanRevisionStale
        "The activation job targets a stale order or final-plan revision.")
    else
      match result with
      | .ok result => activateFromAuthoritativeHandover { result with orderId := orderId } s
      | .error reasons => pauseForOperationalRestriction s.journey.version reasons step.id s

/-- The contract is signable, and its signing task is started. -/
def startFadadaSigningJob (job : Job) (contractId taskId : Id) (s : State) : Result :=
  if s.journey.currentStepCode ≠ .fadadaSigningAndArchive then
    .error (invalidTransition "The journey is not waiting for Fadada signing and archive.")
  else do
    let step ← jobStep job .fadadaSigningAndArchive
      "The Fadada job does not match the current journey step." s
    if job.payload.finalPlanRevision.any (· ≠ s.application.finalPlanRevision) then
      .error (journeyError .finalPlanRevisionStale
        "The Fadada job targets a stale final-plan revision.")
    else
      enqueueJob .reconcileFadadaSigning (.reconcile contractId s.journey.orderId taskId)
        (.reconcile taskId) step.id 100 (s.now + 300000) s

/-! ## Administration -/

def lockAdminJourney (expectedVersion : Nat) (s : State) : Except Failure Unit :=
  if s.journey.version = expectedVersion then .ok ()
  else .error (.http "JOURNEY_OPTIMISTIC_LOCK_CONFLICT")

/-- The event has the version that the update has given the journey. -/
def writeAdminEvent (eventType : EventType) (operation : AdminOperation) (reason : String)
    (s : State) : Result :=
  s.writeEventAndOutbox s.journey.version (.admin operation s.journey.version) eventType
    (.admin operation reason s.journey.currentStepCode)

def requireCurrentStep (expected : StepCode) (s : State) : Except Failure Unit :=
  if s.journey.currentStepCode = expected ∧ (s.stepOf expected).isSome then .ok ()
  else .error (.http "JOURNEY_INVALID_TRANSITION")

/-- `decideFinalPlan` at the version of the journey, and the publication of the new plan by
`applyJourneyFinalPlanDecision`. -/
def decideFinalPlan (expectedVersion : Nat) (commercialHash : Hash) (vehicleId : Id) (s : State) :
    Result := do
  lockAdminJourney expectedVersion s
  requireCurrentStep .finalPlanDecision s
  let revision := s.application.finalPlanRevision + 1
  let application : Application :=
    { s.application with
      finalPlanRevision := revision
      finalPlanCommercialHash := some commercialHash }
  completeFinalPlanAndVehicleAllocation commercialHash revision vehicleId
    { s with application := application }

/-- `allocateVehicle` with `allocateJourneyVehicle`: changed terms are a new revision of the plan. -/
def allocateVehicle (expectedVersion : Nat) (vehicleId : Id) (termsChanged : Bool) (s : State) :
    Result := do
  lockAdminJourney expectedVersion s
  requireCurrentStep .finalVehicleAllocation s
  let revision := s.application.finalPlanRevision
  if termsChanged then
    let application : Application := { s.application with finalPlanRevision := revision + 1 }
    requireCustomerReconfirmationAfterManualDecision (revision + 1) vehicleId
      { s with application := application }
  else
    completeManualDecision .finalVehicleAllocation revision (.vehicle revision vehicleId) s

def decideDeliveryEvidence (expectedVersion : Nat) (decision : Decision) (manifestHash : Hash)
    (workOrderId : Id) (s : State) : Result := do
  lockAdminJourney expectedVersion s
  requireCurrentStep .deliveryEvidenceDecision s
  if s.journey.orderId.isNone then .error (.http "JOURNEY_ORDER_REQUIRED")
  else completeHandoverEvidenceDecision decision manifestHash workOrderId s

def pauseJourney (expectedVersion : Nat) (reason : String) (s : State) : Result := do
  lockAdminJourney expectedVersion s
  if s.journey.status = .paused ∨ s.journey.status.terminal then
    .error (.http "JOURNEY_PAUSE_NOT_ALLOWED")
  else
    let s ← s.updateJourneyVersion expectedVersion fun journey =>
      { journey with pausedFromStatus := some journey.status, status := .paused }
    writeAdminEvent .journeyPaused .pause reason s

/-- A journey that runs again gets a new job for its current step. -/
def enqueueRecovery (s : State) : Result :=
  match jobTypeByStep s.journey.currentStepCode, s.stepOf s.journey.currentStepCode with
  | some jobType, some step =>
    enqueueJob jobType (.recovery s.journey.applicationId s.application.finalPlanRevision
      s.journey.orderId s.journey.version) (.resume s.journey.version) step.id 5 s.now s
  | _, _ => .ok s

def resumeJourney (expectedVersion : Nat) (reason : String) (s : State) : Result := do
  lockAdminJourney expectedVersion s
  match s.journey.status, s.journey.pausedFromStatus with
  | .paused, some restoredStatus =>
    let s ← s.updateJourneyVersion expectedVersion fun journey =>
      { journey with pausedFromStatus := none, status := restoredStatus }
    let s ← if restoredStatus = .running then enqueueRecovery s else .ok s
    writeAdminEvent .journeyResumed .resume reason s
  | _, _ => .error (.http "JOURNEY_RESUME_NOT_ALLOWED")

/-- The open exception that occurred last. -/
def State.lastOpenException (s : State) : Option JourneyException :=
  (s.exceptions.filter (·.status == .open)).getLast?

def retryJourney (expectedVersion : Nat) (reason : String) (s : State) : Result := do
  lockAdminJourney expectedVersion s
  if s.journey.status ≠ .exception then .error (.http "JOURNEY_RETRY_NOT_ALLOWED")
  else
    match s.lastOpenException with
    | none => .error (.http "JOURNEY_OPEN_EXCEPTION_REQUIRED")
    | some e =>
      match e.jobId with
      | none => .error (.http "JOURNEY_OPEN_EXCEPTION_REQUIRED")
      | some jobId =>
        if !s.jobs.any fun job => job.id == jobId && job.status == .deadLetter then
          .error (.http "JOURNEY_DEAD_LETTER_JOB_REQUIRED")
        else
          let reopened (job : Job) : Job :=
            { job with
              availableAt := s.now
              leaseExpiresAt := none
              leaseToken := none
              status := .retryScheduled }
          let s : State :=
            { s with
              jobs := s.jobs.map fun job => if job.id == jobId then reopened job else job
              exceptions := s.exceptions.map fun e' =>
                if e'.id == e.id then { e' with status := .resolved } else e' }
          let s ← (s.setStatus e.stepId .retryScheduled).updateJourneyVersion expectedVersion
            fun journey =>
              { journey with currentStepStatus := .retryScheduled, status := .retryScheduled }
          writeAdminEvent .exceptionResolved .retry reason s

/-- The contract of the order is not signed. -/
def cancelJourney (expectedVersion : Nat) (reason : String) (s : State) : Result := do
  lockAdminJourney expectedVersion s
  if s.journey.status.terminal then .error (.http "JOURNEY_CANCEL_NOT_ALLOWED")
  else
    let s ← (s.cancelWork none).updateJourneyVersion expectedVersion fun journey =>
      { journey with currentStepStatus := .cancelled, status := .cancelled }
    writeAdminEvent .journeyCancelled .cancel reason s

/-! ## The machine -/

inductive Command
  | factsChanged (factType : FactType) (actionId : Id)
  | record (signal : Signal)
  | terminateApplication (outcome : Termination) (actionId : Id)
  | claimOutbox (ids : List Id) (leaseMs : Int) (token : Token)
  | dispatchSignal (claim : OutboxRow)
  | dispatchNotification (claim : OutboxRow)
  | failOutbox (claim : OutboxRow) (failure : Failure) (delayMs : Nat)
  | claimJobs (ids : List Id) (leaseMs : Int) (token : Token)
  | validateApplication (claim : Job) (outcome : Outcome) (reasonCodes : List String)
  | createOrderAndContract (claim : Job) (bootstrap : Option (Id × Id))
  | generateInitialBills (claim : Job) (billIds : List Id)
  | evaluatePaymentSettlement (claim : Job) (remainingAmount : Option Int)
  | activateSubscription (claim : Job) (result : Except (List String) Activated)
  | startFadadaSigning (claim : Job) (contractId taskId : Id)
  | completeJob (claim : Job)
  | rescheduleJob (claim : Job) (delayMs : Nat)
  | deadLetterJob (claim : Job) (error : JourneyFailure)
  | decideFinalPlan (expectedVersion : Nat) (commercialHash : Hash) (vehicleId : Id)
  | allocateVehicle (expectedVersion : Nat) (vehicleId : Id) (termsChanged : Bool)
  | decideDeliveryEvidence (expectedVersion : Nat) (decision : Decision) (manifestHash : Hash)
      (workOrderId : Id)
  /-- The delivery of the order is confirmed by the lease endpoints. -/
  | activate (result : Activated)
  | recordException (error : JourneyFailure) (jobId : Option Id) (stepId : Id)
  | pause (expectedVersion : Nat) (reason : String)
  | resume (expectedVersion : Nat) (reason : String)
  | retry (expectedVersion : Nat) (reason : String)
  | cancel (expectedVersion : Nat) (reason : String)
  | tick (ms : Nat)

/-- The review of the evidence is recorded with its decision only. -/
def Signal.isOpsReviewed : Signal → Bool
  | .handoverOpsReviewed .. => true
  | _ => false

def OutboxKey.isNotification : OutboxKey → Bool
  | .notification _ => true
  | .event _ => false

/-- The worker dispatches a row and completes it in one transaction. -/
def dispatch (handle : OutboxRow → State → Result) (claim : OutboxRow) (s : State) : State :=
  match handle claim s >>= completeOutbox claim with
  | .ok s' => s'
  | .error failure => { s with failed := (claim, failure) :: s.failed }

/-- A transaction that fails leaves nothing. -/
def State.commit (s : State) (operation : State → Result) : State :=
  match operation s with
  | .ok s' => s'
  | .error _ => s

/-- The handler of a job that a worker has claimed. -/
def State.handle (s : State) (claim : Job) (jobType : JobType) (handler : Job → State → Result) :
    State :=
  if claim ∈ s.grantedJobs ∧ claim.jobType = jobType then s.commit (handler claim) else s

def step (s : State) : Command → State
  | .factsChanged factType actionId =>
    s.commit (recordJourneyApplicationFactsChanged factType actionId)
  | .record signal => if signal.isOpsReviewed then s else s.commit (Journey.record signal)
  | .terminateApplication outcome actionId =>
    s.commit (Journey.terminateApplication outcome actionId)
  | .claimOutbox ids leaseMs token => Journey.claimOutbox ids leaseMs token s
  | .dispatchSignal claim =>
    if claim ∈ s.grantedOutbox ∧ !claim.key.isNotification then dispatch dispatchSignalOutbox claim s
    else s
  | .dispatchNotification claim =>
    if claim ∈ s.grantedOutbox ∧ claim.key.isNotification then
      dispatch dispatchNotificationOutbox claim s
    else s
  | .failOutbox claim failure delayMs =>
    if (claim, failure) ∈ s.failed then
      s.commit (handleOutboxFailure claim (sanitizeJourneyFailure failure) delayMs)
    else s
  | .claimJobs ids leaseMs token => Journey.claimJobs ids leaseMs token s
  | .validateApplication claim outcome reasonCodes =>
    s.handle claim .validateApplication fun job => validateApplicationJob job outcome reasonCodes
  | .createOrderAndContract claim bootstrap =>
    s.handle claim .createOrderAndContract fun job => createOrderAndContractJob job bootstrap
  | .generateInitialBills claim billIds =>
    s.handle claim .generateInitialBills fun job => generateInitialBillsJob job billIds
  | .evaluatePaymentSettlement claim remainingAmount =>
    s.handle claim .evaluatePaymentSettlement fun job =>
      evaluatePaymentSettlementJob job remainingAmount
  | .activateSubscription claim result =>
    s.handle claim .activateSubscription fun job => activateSubscriptionJob job result
  | .startFadadaSigning claim contractId taskId =>
    s.handle claim .startFadadaSigning fun job => startFadadaSigningJob job contractId taskId
  | .completeJob claim => s.handle claim claim.jobType Journey.completeJob
  | .rescheduleJob claim delayMs =>
    s.handle claim claim.jobType fun job => Journey.rescheduleJob job delayMs
  | .deadLetterJob claim error =>
    s.handle claim claim.jobType fun job => Journey.deadLetterJob job error
  | .decideFinalPlan expectedVersion commercialHash vehicleId =>
    s.commit (Journey.decideFinalPlan expectedVersion commercialHash vehicleId)
  | .allocateVehicle expectedVersion vehicleId termsChanged =>
    s.commit (Journey.allocateVehicle expectedVersion vehicleId termsChanged)
  | .decideDeliveryEvidence expectedVersion decision manifestHash workOrderId =>
    s.commit (Journey.decideDeliveryEvidence expectedVersion decision manifestHash workOrderId)
  | .activate result =>
    if s.journey.orderId = some result.orderId then
      s.commit (activateFromAuthoritativeHandover result)
    else s
  | .recordException error jobId stepId => s.commit (Journey.recordException error jobId stepId)
  | .pause expectedVersion reason => s.commit (pauseJourney expectedVersion reason)
  | .resume expectedVersion reason => s.commit (resumeJourney expectedVersion reason)
  | .retry expectedVersion reason => s.commit (retryJourney expectedVersion reason)
  | .cancel expectedVersion reason => s.commit (cancelJourney expectedVersion reason)
  | .tick ms => { s with now := s.now + ms }

/-- The run of the journey of an application. -/
abbrev journeyRun (applicationId : Id) (application : Application) (now : Int) (evs : List Command) :
    State :=
  Runs.runs step (.create applicationId application now) evs

end SubscriptionSaas.Journey
