import Mathlib.Data.List.Basic

/-!
# The subscription journey

The steps and statuses of a journey, and the rows that a journey consists of: the journey with its
steps, its event log, the manual tasks and the exceptions, and the jobs and outbox rows that drive it.

A key is made of names and of the data that follow them; each kind of key is a constructor. The values
of a JSON payload are the arguments of a constructor, so that equal payloads are equal values.

Instants are milliseconds. A hash is the list of its characters.
-/

namespace SubscriptionSaas.Journey

/-- The identifier of a row. -/
abbrev Id := Nat
/-- A UUID that names a lease. -/
abbrev Token := Nat
abbrev Hash := List Char

/-! ## The state machine -/

inductive StepCode
  | applicationValidation | finalPlanDecision | finalVehicleAllocation | customerPlanConfirmation
  | orderAndContractCreation | fadadaSigningAndArchive | initialBilling | customerJsapiPayment
  | handoverAndStage2Creation | deliveryEvidenceDecision | authoritativeActivation
  deriving DecidableEq

/-- `JOURNEY_STEP_SEQUENCE`. -/
def journeyStepSequence : List StepCode :=
  [.applicationValidation, .finalPlanDecision, .finalVehicleAllocation, .customerPlanConfirmation,
    .orderAndContractCreation, .fadadaSigningAndArchive, .initialBilling, .customerJsapiPayment,
    .handoverAndStage2Creation, .deliveryEvidenceDecision, .authoritativeActivation]

inductive StepStatus
  | pending | running | waitingCustomer | waitingManual | retryScheduled | exception | completed
  | skipped | cancelled
  deriving DecidableEq

inductive JourneyStatus
  | running | waitingCustomer | waitingManual | retryScheduled | paused | exception | completed
  | cancelled
  deriving DecidableEq

inductive TaskType
  | finalPlanDecision | finalVehicleAllocation | deliveryEvidenceDecision
  deriving DecidableEq

def nextStep (current : StepCode) (status : StepStatus) : Option StepCode :=
  if status ≠ .completed ∧ status ≠ .skipped then some current
  else journeyStepSequence[journeyStepSequence.idxOf current + 1]?

def manualTaskTypeFor : StepCode → Option TaskType
  | .deliveryEvidenceDecision => some .deliveryEvidenceDecision
  | .finalPlanDecision => some .finalPlanDecision
  | .finalVehicleAllocation => some .finalVehicleAllocation
  | _ => none

/-! ## Errors -/

inductive ErrorCode
  | finalPlanRevisionStale | journeyExecutionError | journeyIdempotencyConflict
  | journeyInvalidTransition | journeyLeaseLost | journeyManualTaskAlreadyOpen | journeyNotFound
  | journeyOptimisticLockConflict
  deriving DecidableEq

/-- What an operation throws: an error of the journey, a violated unique constraint, or an exception of
the HTTP layer. -/
inductive Failure
  | journey (code : ErrorCode) (message : String) (retryable : Bool)
  | uniqueConflict
  | http (message : String)
  deriving DecidableEq

def journeyError (code : ErrorCode) (message : String) : Failure := .journey code message false

def invalidTransition (message : String) : Failure :=
  journeyError .journeyInvalidTransition message

def notFound (message : String) : Failure := journeyError .journeyNotFound message

def optimisticConflict : Failure :=
  .journey .journeyOptimisticLockConflict
    "The subscription journey changed before this operation completed." true

def idempotencyConflict : Failure :=
  journeyError .journeyIdempotencyConflict
    "The journey idempotency key is already assigned to another operation."

def leaseLost : Failure :=
  .journey .journeyLeaseLost "The subscription journey lease is no longer active." true

/-- `JourneyFailure`, as the worker reports it. -/
structure JourneyFailure where
  code : ErrorCode
  message : String
  retryable : Bool
  deriving DecidableEq

def sanitizeJourneyFailure : Failure → JourneyFailure
  | .journey code _ retryable => ⟨code, "Subscription journey operation failed.", retryable⟩
  | _ => ⟨.journeyExecutionError, "Subscription journey operation failed.", true⟩

/-! ## Signals -/

inductive FactType
  | application | credit | material | product | vehicle
  deriving DecidableEq

inductive Decision
  | approved | rejected
  deriving DecidableEq

/-- The evidence of a handover; `manifestHash` names its content. -/
structure Evidence where
  handoverId : Id
  manifestHash : Hash
  workOrderId : Id
  deriving DecidableEq

/-- `JourneySignalInput`: the type of a signal with its payload. -/
inductive Signal
  | applicationFactsChanged (factType : FactType) (factVersion : Nat) (sourceActionId : Id)
  | customerPlanConfirmed (revision : Nat) (commercialHash : Hash)
  | fadadaTaskCompleted (contractId taskId : Id)
  | fadadaArtifactArchived (contractId fileId : Id) (signedPdfHash : Hash) (taskId : Id)
  | paymentSettled (paymentOrderId paymentRecordId : Id) (allocatedAmount unallocatedAmount : Int)
  | handoverEvidenceReady (evidence : Evidence)
  | handoverOpsReviewed (decision : Decision) (manifestHash : Hash) (workOrderId : Id)
  deriving DecidableEq

/-- What `validateJourneyApplication` finds. -/
inductive Outcome
  | ready | rejected | waitingCustomer | waitingManual
  deriving DecidableEq

/-- The outcome of a termination of the application. -/
inductive Termination
  | cancelled | rejected
  deriving DecidableEq

/-! ## Payloads -/

/-- `commercialHash.slice("sha256:".length, 23)`. -/
def hashKey (commercialHash : Hash) : Hash := (commercialHash.drop 7).take 16

/-- The payload of a transition. -/
inductive StepPayload
  | none
  | facts (factVersion : Nat) (reasonCodes : List String)
  | validated (applicationId : Id) (factVersion : Nat)
  | terminated (decision : Termination) (factVersion : Nat)
  | plan (finalPlanCommercialHash : Option Hash) (finalPlanRevision : Nat)
  | planVehicle (finalPlanCommercialHash : Hash) (finalPlanRevision : Nat) (vehicleId : Id)
  | vehicle (finalPlanRevision : Nat) (vehicleId : Id)
  | orderContract (contractId orderId : Id)
  | archived (contractId taskId : Id)
  | bills (billIds : List Id) (orderId : Id)
  | paid (orderId : Id)
  | remaining (orderId : Id) (remainingAmount : Int)
  | evidence (evidence : Evidence)
  | decision (decision : Decision) (manifestHash : Hash) (workOrderId : Id)
  | activation (deliveryId leaseId orderId vehicleId : Id)
  deriving DecidableEq

/-! ## Keys -/

inductive AdminOperation
  | pause | resume | retry | cancel
  deriving DecidableEq

/-- `sourceKey` of a job. -/
inductive JobKey
  | facts (factVersion : Nat)
  | reconcile (taskId : Id)
  /-- `stableStepSourceKey`. -/
  | step (code : StepCode) (finalPlanRevision : Nat) (facts : Option Nat)
  | resume (version : Nat)
  | notification (outboxId : Id)
  deriving DecidableEq

inductive EventKey
  | submitted
  | factsChanged (factType : FactType) (actionId : Id)
  | planConfirmed (revision : Nat) (hashKey : Hash)
  | fadadaTaskCompleted (taskId : Id)
  | fadadaArtifactArchived (taskId : Id)
  | paymentSettled (paymentOrderId : Id)
  | evidenceReady (workOrderId : Id) (manifestKey : Hash)
  | opsReviewed (workOrderId : Id) (decision : Decision) (manifestKey : Hash)
  | terminated (outcome : Termination) (actionId : Id)
  | validationCompleted
  | validationFacts (factVersion : Nat) (outcome : Outcome)
  | confirmationWaiting (revision : Nat)
  | confirmationCompleted (revision : Nat) (hashKey : Hash)
  | archived (contractId : Id)
  /-- `handover:${workOrderId}:ready` of the journey. -/
  | handoverReady (workOrderId : Id)
  | waitingManual (code : StepCode)
  | decided (code : StepCode) (revision : Nat)
  | published (code : StepCode) (revision : Nat) (hashKey : Hash)
  | reconfirmation (revision : Nat)
  /-- `dr:${workOrderId}:…`. -/
  | evidenceDecided (workOrderId : Id) (manifestKey : Hash) (decision : Decision)
  | activationStep
  | activationCompleted
  | operationalClearance (version : Nat)
  | exception (exceptionId : Id)
  | admin (operation : AdminOperation) (version : Nat)
  | jobCompleted (sourceKey : JobKey)
  | jobWaiting (sourceKey : JobKey)
  | jobRequote (sourceKey : JobKey)
  deriving DecidableEq

/-- `${eventKey}:outbox`, or `journey-notification:${id}`. -/
inductive OutboxKey
  | event (eventKey : EventKey)
  | notification (sourceOutboxId : Id)
  deriving DecidableEq

def Signal.eventKey : Signal → EventKey
  | .applicationFactsChanged factType _ actionId => .factsChanged factType actionId
  | .customerPlanConfirmed revision commercialHash => .planConfirmed revision (hashKey commercialHash)
  | .fadadaTaskCompleted _ taskId => .fadadaTaskCompleted taskId
  | .fadadaArtifactArchived _ _ _ taskId => .fadadaArtifactArchived taskId
  | .paymentSettled paymentOrderId _ _ _ => .paymentSettled paymentOrderId
  | .handoverEvidenceReady evidence =>
    .evidenceReady evidence.workOrderId (evidence.manifestHash.take 16)
  | .handoverOpsReviewed decision manifestHash workOrderId =>
    .opsReviewed workOrderId decision (manifestHash.take 16)

/-! ## Rows -/

inductive EventType
  | journeyStarted | stepWaitingCustomer | stepWaitingManual | stepCompleted | stepException
  | manualTaskDecided | domainFactObserved | journeyPaused | journeyResumed | journeyCancelled
  | journeyCompleted | exceptionResolved
  deriving DecidableEq

inductive Operation
  | completeStep | rejectApplication | waitForCustomer | waitForManual
  deriving DecidableEq

/-- The payload of an event, and of its outbox row. -/
inductive Payload
  | started (applicationId : Id)
  /-- `transitionPayload`. -/
  | transition (operation : Operation) (stepId : Id) (payload : StepPayload)
  | signal (signal : Signal) (journeyVersion : Nat)
  | openManualTask (stepId taskId : Id)
  | requireFinalPlanRequote (finalPlanRevision : Nat) (stepId taskId : Id)
  | requirePlanReconfirmation (payload : StepPayload) (stepId : Id)
  | rejectDeliveryEvidence (payload : StepPayload) (stepId : Id)
  | completeJourney (payload : StepPayload) (stepId : Id)
  | waitForOperationalClearance (reasons : List String) (stepId : Id)
  | recordException (errorCode : ErrorCode) (jobId : Option Id) (retryable : Bool) (stepId : Id)
  | admin (operation : AdminOperation) (reason : String) (stepCode : StepCode)
  /-- Of a notification: the outbox row it comes from. -/
  | notification (eventKey : OutboxKey) (eventType : EventType) (sourceOutboxId : Id)
  deriving DecidableEq

structure JourneyRow where
  applicationId : Id
  orderId : Option Id
  status : JourneyStatus
  currentStepCode : StepCode
  currentStepStatus : StepStatus
  pausedFromStatus : Option JourneyStatus
  lastApplicationFactVersion : Nat
  version : Nat
  deriving DecidableEq

/-- What a journey reads of its application. -/
structure Application where
  finalPlanRevision : Nat
  finalPlanCommercialHash : Option Hash
  journeyFactVersion : Nat
  deriving DecidableEq

structure Step where
  id : Id
  code : StepCode
  status : StepStatus
  deriving DecidableEq

structure JourneyEvent where
  sequence : Nat
  key : EventKey
  eventType : EventType
  payload : Payload
  deriving DecidableEq

inductive TaskStatus
  | «open» | completed | cancelled
  deriving DecidableEq

/-- `inputSnapshot`. -/
structure TaskInput where
  applicationId : Id
  finalPlanRevision : Nat
  evidence : Option Evidence
  reason : Option String
  deriving DecidableEq

structure ManualTask where
  id : Id
  stepId : Id
  taskType : TaskType
  status : TaskStatus
  decision : Option Decision
  inputSnapshot : TaskInput
  version : Nat
  deriving DecidableEq

inductive ExceptionStatus
  | «open» | resolved
  deriving DecidableEq

structure JourneyException where
  id : Id
  stepId : Id
  jobId : Option Id
  code : ErrorCode
  message : String
  retryable : Bool
  status : ExceptionStatus
  deriving DecidableEq

inductive JobType
  | validateApplication | createOrderAndContract | startFadadaSigning | reconcileFadadaSigning
  | generateInitialBills | evaluatePaymentSettlement | createHandover | activateSubscription
  | dispatchNotification
  deriving DecidableEq

inductive JobStatus
  | pending | processing | retryScheduled | completed | deadLetter | cancelled
  deriving DecidableEq

inductive JobPayload
  | facts (applicationId : Id) (factType : FactType) (factVersion : Nat) (sourceActionId : Id)
  | step (applicationId : Id) (finalPlanRevision : Nat) (orderId : Option Id) (stepCode : StepCode)
  | recovery (applicationId : Id) (finalPlanRevision : Nat) (orderId : Option Id)
      (recoveryVersion : Nat)
  | reconcile (contractId : Id) (orderId : Option Id) (taskId : Id)
  | notification (eventKey : OutboxKey) (finalPlanRevision : Nat) (stepCode : StepCode)
  deriving DecidableEq

def JobPayload.finalPlanRevision : JobPayload → Option Nat
  | .step _ revision _ _ | .recovery _ revision _ _ | .notification _ revision _ => some revision
  | _ => none

def JobPayload.orderId : JobPayload → Option Id
  | .step _ _ orderId _ | .recovery _ _ orderId _ | .reconcile _ orderId _ => orderId
  | _ => none

structure Job where
  id : Id
  stepId : Id
  jobType : JobType
  status : JobStatus
  sourceKey : JobKey
  payload : JobPayload
  attemptCount : Nat
  maxAttempts : Nat
  availableAt : Int
  leaseToken : Option Token
  leaseExpiresAt : Option Int
  deriving DecidableEq

inductive OutboxStatus
  | pending | processing | delivered | deadLetter | cancelled
  deriving DecidableEq

structure OutboxRow where
  id : Id
  key : OutboxKey
  eventType : EventType
  payload : Payload
  status : OutboxStatus
  attemptCount : Nat
  availableAt : Int
  leaseToken : Option Token
  leaseExpiresAt : Option Int
  deriving DecidableEq

/-- The tables of a journey and the clock of the database. What workers have claimed, and what they
have failed to dispatch, is kept for the record. -/
structure State where
  application : Application
  journey : JourneyRow
  steps : List Step
  events : List JourneyEvent
  tasks : List ManualTask
  /-- In the order of their occurrence. -/
  exceptions : List JourneyException
  jobs : List Job
  outbox : List OutboxRow
  now : Int
  grantedOutbox : List OutboxRow
  grantedJobs : List Job
  failed : List (OutboxRow × Failure)
  deriving DecidableEq

end SubscriptionSaas.Journey
