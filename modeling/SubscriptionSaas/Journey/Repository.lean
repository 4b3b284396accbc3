import SubscriptionSaas.Journey.Course

/-!
# The journey repository

The operations on the rows of a journey. Each runs in a transaction of its caller, which is rolled back
when it fails; so an operation yields the state it leaves, or the failure. A transition locks the
journey and its step, and asks for the version that its caller has read.
-/

namespace SubscriptionSaas.Journey

abbrev Result := Except Failure State

/-! ## Rows -/

def State.step? (s : State) (id : Id) : Option Step := s.steps.find? (·.id == id)

/-- By the unique key of journey and code. -/
def State.stepOf (s : State) (code : StepCode) : Option Step := s.steps.find? (·.code == code)

def State.event? (s : State) (key : EventKey) : Option JourneyEvent := s.events.find? (·.key == key)

def State.setStatus (s : State) (stepId : Id) (status : StepStatus) : State :=
  { s with steps := s.steps.map fun step =>
      if step.id == stepId then { step with status := status } else step }

/-- The step of the code, which is created unless it is there. -/
def State.upsertStep (s : State) (code : StepCode) (create : StepStatus)
    (update : StepStatus → StepStatus) : State × Step :=
  match s.stepOf code with
  | some step => (s.setStatus step.id (update step.status), { step with status := update step.status })
  | none =>
    let step : Step := ⟨s.steps.length, code, create⟩
    ({ s with steps := s.steps ++ [step] }, step)

/-- An upsert that leaves an existing row alone. -/
def State.writeOutbox (s : State) (key : OutboxKey) (eventType : EventType) (payload : Payload) :
    State :=
  if s.outbox.any (·.key == key) then s
  else
    { s with outbox := s.outbox ++
        [{ id := s.outbox.length
           key := key
           eventType := eventType
           payload := payload
           status := .pending
           attemptCount := 0
           availableAt := s.now
           leaseToken := none
           leaseExpiresAt := none }] }

/-- The keys and the sequence numbers of the events are unique. -/
def State.writeEventAndOutbox (s : State) (sequence : Nat) (key : EventKey) (eventType : EventType)
    (payload : Payload) : Result :=
  if s.events.any fun event => event.key == key || event.sequence == sequence then
    .error .uniqueConflict
  else
    let event : JourneyEvent := ⟨sequence, key, eventType, payload⟩
    .ok (State.writeOutbox { s with events := s.events ++ [event] } (.event key) eventType payload)

/-- A row is updated that still has the version; every update raises it. -/
def State.updateJourneyVersion (s : State) (expectedVersion : Nat) (data : JourneyRow → JourneyRow) :
    Result :=
  if s.journey.version = expectedVersion then
    .ok { s with journey := { data s.journey with version := s.journey.version + 1 } }
  else .error optimisticConflict

def State.resolveStepExceptions (s : State) (stepId : Id) : State :=
  { s with exceptions := s.exceptions.map fun e =>
      if e.stepId == stepId && e.status == .open then { e with status := .resolved } else e }

/-! ## Checks -/

def lockJourneyStep (stepId : Id) (s : State) : Except Failure Step :=
  match s.step? stepId with
  | some step => .ok step
  | none => .error (notFound "The subscription journey step was not found.")

def readStep (stepId : Id) (s : State) : Result :=
  match s.step? stepId with
  | some _ => .ok s
  | none => .error (notFound "The subscription journey step was not found.")

def canTransition (journey : JourneyRow) (step : Step) : Bool :=
  !journey.status.terminal && journey.status != .paused && journey.currentStepCode == step.code &&
    journey.currentStepStatus == step.status && step.status.open

def validateCurrentStep (step : Step) (expectedVersion : Nat) (s : State) : Except Failure Unit :=
  if s.journey.version ≠ expectedVersion then .error optimisticConflict
  else if canTransition s.journey step then .ok ()
  else .error
    (invalidTransition "The persisted subscription journey step cannot make this transition.")

/-- A repeated operation must be the same operation. -/
def requireExactEvent (existing : JourneyEvent) (eventType : EventType) (payload : Payload) :
    Except Failure Unit :=
  if existing.eventType = eventType ∧ existing.payload = payload then .ok ()
  else .error idempotencyConflict

/-! ## The start -/

/-- `createOrGetForApplication`, where there is no journey yet. -/
def State.create (applicationId : Id) (application : Application) (now : Int) : State :=
  State.writeOutbox
    { application := application
      journey :=
        { applicationId := applicationId
          orderId := none
          status := .running
          currentStepCode := .applicationValidation
          currentStepStatus := .pending
          pausedFromStatus := none
          lastApplicationFactVersion := 0
          version := 0 }
      steps := [⟨0, .applicationValidation, .pending⟩]
      events := [⟨0, .submitted, .journeyStarted, .started applicationId⟩]
      tasks := []
      exceptions := []
      jobs := []
      outbox := []
      now := now
      grantedOutbox := []
      grantedJobs := []
      failed := [] }
    (.event .submitted) .journeyStarted (.started applicationId)

/-! ## Transitions -/

/-- The step that follows; a vehicle step that is completed is passed over. -/
def followingStep (step : Step) (s : State) : Option StepCode :=
  match nextStep step.code .completed with
  | some .finalVehicleAllocation =>
    match s.stepOf .finalVehicleAllocation with
    | some vehicleStep =>
      if vehicleStep.status = .completed then nextStep vehicleStep.code .completed
      else some .finalVehicleAllocation
    | none => some .finalVehicleAllocation
  | following => following

def advanceJourney (expectedVersion : Nat) (factVersion : Option Nat) (step : Step) (s : State) :
    Result :=
  let following := followingStep step s
  s.updateJourneyVersion expectedVersion fun journey =>
    { journey with
      currentStepCode := following.getD step.code
      currentStepStatus := if following.isSome then .pending else .completed
      lastApplicationFactVersion := factVersion.getD journey.lastApplicationFactVersion
      status := if following.isSome then .running else .completed }

def completeStep (key : EventKey) (expectedVersion : Nat) (stepId : Id) (payload : StepPayload)
    (factVersion : Option Nat) (s : State) : Result :=
  let eventPayload := Payload.transition .completeStep stepId payload
  match s.event? key with
  | some duplicate => do
    requireExactEvent duplicate .stepCompleted eventPayload
    readStep stepId (s.resolveStepExceptions stepId)
  | none => do
    let step ← lockJourneyStep stepId s
    validateCurrentStep step expectedVersion s
    let s ← advanceJourney expectedVersion factVersion step s
    ((s.setStatus stepId .completed).resolveStepExceptions stepId).writeEventAndOutbox
      (expectedVersion + 1) key .stepCompleted eventPayload

def completeActivation (expectedVersion : Nat) (stepId : Id) (payload : StepPayload) (s : State) :
    Result := do
  let s ← completeStep .activationStep expectedVersion stepId payload none s
  let completionPayload := Payload.completeJourney payload stepId
  match s.event? .activationCompleted with
  | some duplicate =>
    requireExactEvent duplicate .journeyCompleted completionPayload
    .ok s
  | none =>
    let s ← s.updateJourneyVersion (expectedVersion + 1) id
    s.writeEventAndOutbox (expectedVersion + 2) .activationCompleted .journeyCompleted
      completionPayload

/-- `waitForCustomer` and `waitForManual`. -/
def waitFor (operation : Operation) (eventType : EventType) (stepStatus : StepStatus)
    (status : JourneyStatus) (key : EventKey) (expectedVersion : Nat) (stepId : Id)
    (payload : StepPayload) (factVersion : Option Nat) (s : State) : Result :=
  let eventPayload := Payload.transition operation stepId payload
  match s.event? key with
  | some duplicate => do
    requireExactEvent duplicate eventType eventPayload
    readStep stepId s
  | none => do
    let step ← lockJourneyStep stepId s
    validateCurrentStep step expectedVersion s
    let s ← s.updateJourneyVersion expectedVersion fun journey =>
      { journey with
        currentStepCode := step.code
        currentStepStatus := stepStatus
        lastApplicationFactVersion := factVersion.getD journey.lastApplicationFactVersion
        status := status }
    (s.setStatus stepId stepStatus).writeEventAndOutbox (expectedVersion + 1) key eventType
      eventPayload

def waitForCustomer : EventKey → Nat → Id → StepPayload → Option Nat → State → Result :=
  waitFor .waitForCustomer .stepWaitingCustomer .waitingCustomer .waitingCustomer

def waitForManual (key : EventKey) (expectedVersion : Nat) (stepId : Id) (payload : StepPayload)
    (factVersion : Nat) : State → Result :=
  waitFor .waitForManual .stepWaitingManual .waitingManual .waitingManual key expectedVersion stepId
    payload (some factVersion)

/-- Everything that is under way is cancelled, but for the active job. -/
def State.cancelWork (s : State) (activeJobId : Option Id) : State :=
  { s with
    jobs := s.jobs.map fun job =>
      if job.status != .completed && job.status != .cancelled && activeJobId != some job.id then
        { job with status := .cancelled, leaseToken := none, leaseExpiresAt := none }
      else job
    outbox := s.outbox.map fun row =>
      if row.status == .pending || row.status == .processing then
        { row with status := .cancelled, leaseToken := none, leaseExpiresAt := none }
      else row
    tasks := s.tasks.map fun task =>
      if task.status == .open then { task with status := .cancelled } else task
    steps := s.steps.map fun step =>
      if step.status != .completed && step.status != .cancelled then
        { step with status := .cancelled }
      else step }

def rejectForApplication (activeJobId : Option Id) (key : EventKey) (expectedVersion : Nat)
    (stepId : Id) (payload : StepPayload) (factVersion : Nat) (s : State) : Result :=
  let eventPayload := Payload.transition .rejectApplication stepId payload
  match s.event? key with
  | some duplicate => do
    requireExactEvent duplicate .journeyCancelled eventPayload
    readStep stepId s
  | none => do
    let step ← lockJourneyStep stepId s
    validateCurrentStep step expectedVersion s
    let s ← s.updateJourneyVersion expectedVersion fun journey =>
      { journey with
        currentStepStatus := .cancelled
        lastApplicationFactVersion := factVersion
        status := .cancelled }
    ((s.setStatus stepId .cancelled).cancelWork activeJobId).writeEventAndOutbox
      (expectedVersion + 1) key .journeyCancelled eventPayload

/-- The open tasks of a type are at most one. -/
def State.createManualTask (s : State) (stepId : Id) (taskType : TaskType) (input : TaskInput) :
    Except Failure (State × ManualTask) :=
  if s.tasks.any fun task => task.status == .open && task.taskType == taskType then
    .error .uniqueConflict
  else
    let task : ManualTask := ⟨s.tasks.length, stepId, taskType, .open, none, input, 0⟩
    .ok ({ s with tasks := s.tasks ++ [task] }, task)

def createOpenTask (stepId : Id) (taskType : TaskType) (input : TaskInput) (step : Step)
    (s : State) : Result := do
  let version := s.journey.version
  let (s, task) ← s.createManualTask stepId taskType input
  let s ← s.updateJourneyVersion version fun journey =>
    { journey with
      currentStepCode := step.code
      currentStepStatus := .waitingManual
      status := .waitingManual }
  (s.setStatus stepId .waitingManual).writeEventAndOutbox (version + 1) (.waitingManual step.code)
    .stepWaitingManual (.openManualTask stepId task.id)

def openManualTask (stepId : Id) (input : TaskInput) (s : State) : Result := do
  let step ← lockJourneyStep stepId s
  validateCurrentStep step s.journey.version s
  match manualTaskTypeFor step.code with
  | none => .error (invalidTransition "This journey step does not support a manual task.")
  | some taskType =>
    if s.tasks.any fun task => task.status == .open && task.taskType == taskType then .ok s
    else
      match createOpenTask stepId taskType input step s with
      | .error .uniqueConflict => .error (journeyError .journeyManualTaskAlreadyOpen
          "An open manual task already exists for this journey decision.")
      | result => result

def decideManualTask (taskId expectedVersion : Id) (decision : Decision) (s : State) : Result :=
  if s.tasks.any fun task => task.id == taskId && task.status == .open &&
      task.version == expectedVersion then
    .ok { s with tasks := s.tasks.map fun task =>
        if task.id == taskId && task.status == .open && task.version == expectedVersion then
          { task with decision := some decision, status := .completed, version := task.version + 1 }
        else task }
  else .error optimisticConflict

/-! ## Returns -/

def returnToFinalPlanDecision (key : EventKey) (expectedVersion finalPlanRevision : Nat) (stepId : Id)
    (s : State) : Result := do
  let step ← lockJourneyStep stepId s
  validateCurrentStep step expectedVersion s
  if step.code ≠ .orderAndContractCreation ∨ s.journey.orderId.isSome then
    .error (invalidTransition
      "Only an uncommitted order bootstrap can return to final-plan review.")
  else
    let s : State := { s with steps := s.steps.map fun step =>
        if replannedSteps.contains step.code then { step with status := .pending } else step }
    let (s, planStep) := s.upsertStep .finalPlanDecision .waitingManual fun _ => .waitingManual
    let (s, task) ← s.createManualTask planStep.id .finalPlanDecision
      ⟨s.journey.applicationId, finalPlanRevision, none, some "FINAL_PLAN_REVISION_STALE"⟩
    let s ← s.updateJourneyVersion expectedVersion fun journey =>
      { journey with
        currentStepCode := .finalPlanDecision
        currentStepStatus := .waitingManual
        status := .waitingManual }
    s.writeEventAndOutbox (expectedVersion + 1) key .stepWaitingManual
      (.requireFinalPlanRequote finalPlanRevision stepId task.id)

def returnToCustomerConfirmation (key : EventKey) (expectedVersion : Nat) (payload : StepPayload)
    (vehicleStepId : Id) (s : State) : Result :=
  let eventPayload := Payload.requirePlanReconfirmation payload vehicleStepId
  match s.event? key with
  | some duplicate => do
    requireExactEvent duplicate .stepWaitingCustomer eventPayload
    match s.stepOf .customerPlanConfirmation with
    | some _ => .ok s
    | none => .error (notFound "The customer-confirmation step was not found.")
  | none => do
    let step ← lockJourneyStep vehicleStepId s
    validateCurrentStep step expectedVersion s
    if step.code ≠ .finalVehicleAllocation then
      .error (invalidTransition "Only vehicle allocation can return to customer confirmation.")
    else
      let (s, _) := s.upsertStep .customerPlanConfirmation .waitingCustomer fun _ => .waitingCustomer
      let s ← (s.setStatus vehicleStepId .completed).updateJourneyVersion expectedVersion
        fun journey =>
          { journey with
            currentStepCode := .customerPlanConfirmation
            currentStepStatus := .waitingCustomer
            status := .waitingCustomer }
      s.writeEventAndOutbox (expectedVersion + 1) key .stepWaitingCustomer eventPayload

def returnToHandoverEvidence (key : EventKey) (expectedVersion : Nat) (payload : StepPayload)
    (decisionStepId : Id) (s : State) : Result :=
  let eventPayload := Payload.rejectDeliveryEvidence payload decisionStepId
  match s.event? key with
  | some duplicate => do
    requireExactEvent duplicate .manualTaskDecided eventPayload
    match s.stepOf .handoverAndStage2Creation with
    | some _ => .ok s
    | none => .error (notFound "The handover evidence-preparation step was not found.")
  | none => do
    let step ← lockJourneyStep decisionStepId s
    validateCurrentStep step expectedVersion s
    if step.code ≠ .deliveryEvidenceDecision then
      .error (invalidTransition
        "Only a delivery-evidence rejection can return to handover preparation.")
    else
      let (s, _) := s.upsertStep .handoverAndStage2Creation .running fun _ => .running
      let s ← (s.setStatus decisionStepId .pending).updateJourneyVersion expectedVersion
        fun journey =>
          { journey with
            currentStepCode := .handoverAndStage2Creation
            currentStepStatus := .running
            status := .running }
      s.writeEventAndOutbox (expectedVersion + 1) key .manualTaskDecided eventPayload

/-! ## Jobs, exceptions and signals -/

def enqueueJob (jobType : JobType) (payload : JobPayload) (sourceKey : JobKey) (stepId : Id)
    (maxAttempts : Nat) (availableAt : Int) (s : State) : Result :=
  match s.jobs.find? (·.sourceKey == sourceKey) with
  | some existing =>
    if existing.stepId = stepId ∧ existing.jobType = jobType ∧ existing.payload = payload then .ok s
    else .error idempotencyConflict
  | none =>
    .ok { s with jobs := s.jobs ++
        [{ id := s.jobs.length
           stepId := stepId
           jobType := jobType
           status := .pending
           sourceKey := sourceKey
           payload := payload
           attemptCount := 0
           maxAttempts := maxAttempts
           availableAt := availableAt
           leaseToken := none
           leaseExpiresAt := none }] }

/-- The step or the journey has come to its end. -/
def alreadyTerminal (step : Step) (journey : JourneyRow) : Bool :=
  step.status.ended || journey.status.terminal

def recordLockedException (error : JourneyFailure) (jobId : Option Id) (step : Step) (s : State) :
    Result :=
  let terminal := alreadyTerminal step s.journey
  let e : JourneyException :=
    { id := s.exceptions.length
      stepId := step.id
      jobId := jobId
      code := error.code
      message := error.message
      retryable := error.retryable
      status := if terminal then .resolved else .open }
  let version := s.journey.version
  let s := { s with exceptions := s.exceptions ++ [e] }
  if terminal || s.journey.currentStepCode != step.code then .ok s
  else do
    let s ← (s.setStatus step.id .exception).updateJourneyVersion version fun journey =>
      if journey.status = .paused then
        { journey with currentStepStatus := .exception, pausedFromStatus := some .exception }
      else { journey with currentStepStatus := .exception, status := .exception }
    s.writeEventAndOutbox (version + 1) (.exception e.id) .stepException
      (.recordException error.code jobId error.retryable step.id)

def recordException (error : JourneyFailure) (jobId : Option Id) (stepId : Id) (s : State) :
    Result := do
  let step ← lockJourneyStep stepId s
  recordLockedException error jobId step s

/-- A repeated signal keeps the journey version with which it was recorded first. -/
def recordSignal (signal : Signal) (s : State) : Result :=
  match s.event? signal.eventKey with
  | some existing => do
    let journeyVersion := match existing.payload with
      | .signal _ journeyVersion => journeyVersion
      | _ => s.journey.version + 1
    requireExactEvent existing .domainFactObserved (.signal signal journeyVersion)
    .ok s
  | none => do
    let journeyVersion := s.journey.version + 1
    let s ← s.updateJourneyVersion s.journey.version id
    s.writeEventAndOutbox journeyVersion signal.eventKey .domainFactObserved
      (.signal signal journeyVersion)

def pauseForOperationalRestriction (expectedVersion : Nat) (reasons : List String) (stepId : Id)
    (s : State) : Result := do
  let step ← lockJourneyStep stepId s
  validateCurrentStep step expectedVersion s
  if step.code ≠ .authoritativeActivation ∨ s.journey.status ≠ .running then
    .error (invalidTransition
      "Only a running authoritative activation can wait for operational clearance.")
  else
    let s ← s.updateJourneyVersion expectedVersion fun journey =>
      { journey with pausedFromStatus := some .running, status := .paused }
    s.writeEventAndOutbox (expectedVersion + 1) (.operationalClearance expectedVersion)
      .journeyPaused (.waitForOperationalClearance reasons stepId)

/-! ## Leases -/

def OutboxRow.claimable (now : Int) (row : OutboxRow) : Bool :=
  (row.status == .pending && row.availableAt ≤ now) ||
    (row.status == .processing && row.leaseExpiresAt.any (· ≤ now))

/-- `claimOutboxByMode`: `ids` are the rows that the query selects, within its limit and past the rows
that others have locked. -/
def claimOutbox (ids : List Id) (leaseMs : Int) (token : Token) (s : State) : State :=
  if leaseMs ≤ 0 then s
  else
    let lease (row : OutboxRow) : OutboxRow :=
      { row with
        status := .processing
        leaseToken := some token
        leaseExpiresAt := some (s.now + leaseMs) }
    let claimed (row : OutboxRow) : Bool := ids.contains row.id && row.claimable s.now
    { s with
      outbox := s.outbox.map fun row => if claimed row then lease row else row
      grantedOutbox := (s.outbox.filter claimed).map lease ++ s.grantedOutbox }

def OutboxRow.leased (now : Int) (claim row : OutboxRow) : Bool :=
  row.id == claim.id && row.status == .processing && row.leaseToken == claim.leaseToken &&
    row.leaseExpiresAt.any (now < ·)

/-- The row is still leased by the claim, and is updated. -/
def updateOutbox (claim : OutboxRow) (data : OutboxRow → OutboxRow) (s : State) : Result :=
  if s.outbox.any (claim.leased s.now) then
    .ok { s with outbox := s.outbox.map fun row => if claim.leased s.now row then data row else row }
  else .error leaseLost

def completeOutbox (claim : OutboxRow) : State → Result :=
  updateOutbox claim fun row =>
    { row with status := .delivered, leaseToken := none, leaseExpiresAt := none }

def rescheduleOutbox (claim : OutboxRow) (delayMs : Nat) (s : State) : Result :=
  updateOutbox claim (fun row =>
    { row with
      status := .pending
      attemptCount := row.attemptCount + 1
      availableAt := s.now + delayMs
      leaseToken := none
      leaseExpiresAt := none }) s

def deadLetterOutbox (claim : OutboxRow) : State → Result :=
  updateOutbox claim fun row =>
    { row with
      status := .deadLetter
      attemptCount := row.attemptCount + 1
      leaseToken := none
      leaseExpiresAt := none }

/-- `enqueueNotificationOutbox`. -/
def enqueueNotificationOutbox (source : OutboxRow) (s : State) : State :=
  s.writeOutbox (.notification source.id) source.eventType
    (.notification source.key source.eventType source.id)

/-- The job of the completed activation may run again. -/
def reactivates (s : State) (job : Job) : Bool :=
  s.journey.status == .completed && s.journey.currentStepCode == .authoritativeActivation &&
    s.journey.currentStepStatus == .completed && job.jobType == .activateSubscription &&
      job.payload.orderId == s.journey.orderId &&
        (s.steps.any fun step => step.id == job.stepId && step.code == .authoritativeActivation &&
          step.status == .completed) &&
          job.payload.finalPlanRevision == some s.application.finalPlanRevision

def Job.claimable (s : State) (job : Job) : Bool :=
  (((job.status == .pending || job.status == .retryScheduled) && job.availableAt ≤ s.now) ||
      (job.status == .processing && job.leaseExpiresAt.any (· ≤ s.now))) &&
    ((s.journey.status != .paused && !s.journey.status.terminal) || reactivates s job)

def claimJobs (ids : List Id) (leaseMs : Int) (token : Token) (s : State) : State :=
  if leaseMs ≤ 0 then s
  else
    let lease (job : Job) : Job :=
      { job with
        status := .processing
        leaseToken := some token
        leaseExpiresAt := some (s.now + leaseMs) }
    let claimed (job : Job) : Bool := ids.contains job.id && job.claimable s
    { s with
      jobs := s.jobs.map fun job => if claimed job then lease job else job
      grantedJobs := (s.jobs.filter claimed).map lease ++ s.grantedJobs }

def Job.leased (now : Int) (claim job : Job) : Bool :=
  job.id == claim.id && job.status == .processing && job.leaseToken == claim.leaseToken &&
    job.leaseExpiresAt.any (now < ·)

def updateJob (claim : Job) (data : Job → Job) (s : State) : Result :=
  if s.jobs.any (claim.leased s.now) then
    .ok { s with jobs := s.jobs.map fun job => if claim.leased s.now job then data job else job }
  else .error leaseLost

def completeJob (claim : Job) : State → Result :=
  updateJob claim fun job =>
    { job with status := .completed, leaseToken := none, leaseExpiresAt := none }

def rescheduleJob (claim : Job) (delayMs : Nat) (s : State) : Result :=
  updateJob claim (fun job =>
    { job with
      status := .retryScheduled
      attemptCount := job.attemptCount + 1
      availableAt := s.now + delayMs
      leaseToken := none
      leaseExpiresAt := none }) s

def deadLetterJob (claim : Job) (error : JourneyFailure) (s : State) : Result := do
  let step ← lockJourneyStep claim.stepId s
  let s ← updateJob claim (fun job =>
    { job with
      status := .deadLetter
      attemptCount := job.attemptCount + 1
      leaseToken := none
      leaseExpiresAt := none }) s
  recordLockedException error (some claim.id) step s

end SubscriptionSaas.Journey
