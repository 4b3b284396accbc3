import SubscriptionSaas.Journey.Service

/-!
# Moves of a journey

An operation on a journey is a sequence of moves. The one that counts writes one event with the next
sequence number and lets the course of the journey make one move of its own; the others create the row
of a step, open or decide a task, raise the revision of the plan, attach the order, or touch only what
the course does not depend on.

What holds of the tables in every state is stated here as well; that moves keep it is shown in
`Journey.Proofs.MovesProofs`.
-/

namespace SubscriptionSaas.Journey

def rowsOf (steps : List Step) (code : StepCode) : Option StepStatus :=
  (steps.find? (·.code == code)).map (·.status)

def courseOf (journey : JourneyRow) (steps : List Step) : Course :=
  { status := journey.status
    code := journey.currentStepCode
    stepStatus := journey.currentStepStatus
    pausedFrom := journey.pausedFromStatus
    rows := rowsOf steps }

abbrev State.course (s : State) : Course := courseOf s.journey s.steps

/-- The step that a key names. -/
def EventKey.stepCode : EventKey → Option StepCode
  | .confirmationCompleted .. => some .customerPlanConfirmation
  | .archived _ => some .fadadaSigningAndArchive
  | .handoverReady _ => some .handoverAndStage2Creation
  | .waitingManual code => some code
  | .opsReviewed .. | .evidenceDecided .. => some .deliveryEvidenceDecision
  | _ => none

def EventKey.isReady : EventKey → Bool
  | .handoverReady _ => true
  | _ => false

def Payload.rejects : Payload → Bool
  | .rejectDeliveryEvidence .. => true
  | _ => false

/-- The evidence of a completed handover. -/
def Payload.evidence? : Payload → Option Evidence
  | .transition .completeStep _ (.evidence evidence) => some evidence
  | _ => none

/-- The delivery evidence has been rejected. -/
def State.rejected (s : State) : Bool := s.events.any (·.payload.rejects)

/-- The step that a signal completes, with the key and the payload of its completion. -/
def Signal.completion : Signal → Option (StepCode × EventKey × StepPayload)
  | .customerPlanConfirmed revision commercialHash =>
    some (.customerPlanConfirmation, .confirmationCompleted revision (hashKey commercialHash),
      .plan (some commercialHash) revision)
  | .fadadaArtifactArchived contractId _ _ taskId =>
    some (.fadadaSigningAndArchive, .archived contractId, .archived contractId taskId)
  | .handoverEvidenceReady evidence =>
    some (.handoverAndStage2Creation, .handoverReady evidence.workOrderId, .evidence evidence)
  | _ => none

/-- What an operation answers to. -/
inductive Cause
  | command
  /-- A row of the outbox with this payload is dispatched. -/
  | row (payload : Payload)
  /-- The delivery evidence is decided. -/
  | review

/-- The steps that only a signal completes. -/
def signalSteps : List StepCode :=
  [.customerPlanConfirmation, .fadadaSigningAndArchive, .handoverAndStage2Creation]

/-- The event is the completion of the step by the signal. -/
def JourneyEvent.CompletedBy (event : JourneyEvent) (code : StepCode) (signal : Signal) : Prop :=
  ∃ key stepId payload, signal.completion = some (code, key, payload) ∧ event.key = key ∧
    event.payload = .transition .completeStep stepId payload

/-- The event of a move from `s` that leaves the journey with this course. -/
structure Written (cause : Cause) (s : State) (event : JourneyEvent) (course : Course) : Prop where
  sequence : event.sequence = s.journey.version + 1
  fresh : ∀ e ∈ s.events, e.key ≠ event.key
  atStep : ∀ code, event.key.stepCode = some code → s.journey.currentStepCode = code
  completed : event.eventType = .stepCompleted → s.course.CanMove ∧ course = s.course.complete
  advanced : s.journey.currentStepCode.index < course.code.index →
    event.eventType = .stepCompleted ∨ s.journey.currentStepCode = .finalVehicleAllocation
  /-- A key with which a signal completes its step. -/
  completing : ∀ revision hashKey contractId, event.key.isReady ∨ event.key = .archived contractId ∨
    event.key = .confirmationCompleted revision hashKey → event.eventType = .stepCompleted
  signalled : event.eventType = .stepCompleted → s.journey.currentStepCode ∈ signalSteps →
    ∃ signal version, cause = .row (.signal signal version) ∧
      event.CompletedBy s.journey.currentStepCode signal
  revision : ∀ revision hashKey, event.key = .confirmationCompleted revision hashKey →
    revision = s.application.finalPlanRevision
  /-- A plan is published with a new revision. -/
  published : event.eventType = .stepCompleted → s.journey.currentStepCode = .finalPlanDecision →
    ∀ e ∈ s.events, ∀ revision hashKey, e.key = .confirmationCompleted revision hashKey →
      revision < s.application.finalPlanRevision
  ordered : event.eventType = .stepCompleted →
    s.journey.currentStepCode = .orderAndContractCreation → s.journey.orderId.isSome
  evidence : event.payload.evidence?.isSome → event.key.isReady
  waiting : ∀ code, event.key = .waitingManual code →
    ∃ task ∈ s.tasks, manualTaskTypeFor code = some task.taskType
  reviewed : ∀ workOrderId decision hashKey, event.key = .opsReviewed workOrderId decision hashKey →
    cause = .review
  decided : ∀ workOrderId hashKey decision,
    event.key = .evidenceDecided workOrderId hashKey decision → event.payload.rejects = false →
      StepCode.deliveryEvidenceDecision.index < course.code.index
  rejects : s.journey.currentStepCode = .deliveryEvidenceDecision →
    course.code = .handoverAndStage2Creation → event.payload.rejects = true
  /-- Only a journey without an order returns to the plan. -/
  returns : s.journey.currentStepCode = .orderAndContractCreation →
    course.code = .finalPlanDecision → s.journey.orderId = none

/-- Whether the task is the one that is decided. -/
def ManualTask.isOpenAt (taskId version : Nat) (task : ManualTask) : Bool :=
  task.id == taskId && task.status == .open && task.version == version

def cancelOutbox (outbox : List OutboxRow) : List OutboxRow :=
  outbox.map fun row =>
    if row.status == .pending || row.status == .processing then
      { row with status := .cancelled, leaseToken := none, leaseExpiresAt := none }
    else row

def cancelTasks (tasks : List ManualTask) : List ManualTask :=
  tasks.map fun task => if task.status == .open then { task with status := .cancelled } else task

inductive Move (cause : Cause) : State → State → Prop
  | quiet (s : State) (jobs : List Job) (exceptions : List JourneyException) (factVersion : Nat) :
      Move cause s
        { s with
          jobs := jobs
          exceptions := exceptions
          application := { s.application with journeyFactVersion := factVersion } }
  | notify (s : State) (source : OutboxRow) : Move cause s (enqueueNotificationOutbox source s)
  /-- The current step of a cancelled journey is left as it is. -/
  | touch (s : State) (code : StepCode) (hnone : s.stepOf code = none)
      (hcancelled : s.journey.status = .cancelled → code ≠ s.journey.currentStepCode) :
      Move cause s { s with steps := s.steps ++ [⟨s.steps.length, code, .pending⟩] }
  | replan (s : State) (commercialHash : Option Hash)
      (hcode : s.journey.currentStepCode = .finalPlanDecision ∨
        s.journey.currentStepCode = .finalVehicleAllocation) :
      Move cause s
        { s with
          application :=
            { s.application with
              finalPlanRevision := s.application.finalPlanRevision + 1
              finalPlanCommercialHash := commercialHash } }
  | attach (s : State) (orderId : Id)
      (h : s.journey.orderId = none ∨ s.journey.orderId = some orderId) :
      Move cause s { s with journey := { s.journey with orderId := some orderId } }
  | decide (s : State) (taskId version : Nat) (decision : Decision) :
      Move cause s
        { s with
          tasks := s.tasks.map fun task =>
            if task.isOpenAt taskId version then
              { task with
                decision := some decision
                status := .completed
                version := task.version + 1 }
            else task }
  | openTask (s : State) (step : Step) (taskType : TaskType) (input : TaskInput)
      (hstep : step ∈ s.steps) (htype : manualTaskTypeFor step.code = some taskType)
      (hfree : ∀ task ∈ s.tasks, task.status = .open → task.taskType ≠ taskType)
      (hevidence : taskType = .deliveryEvidenceDecision →
        s.journey.currentStepCode = .deliveryEvidenceDecision ∧ ∃ payload, cause = .row payload ∧
          payload.evidence?.isSome ∧ input.evidence = payload.evidence?) :
      Move cause s
        { s with tasks := s.tasks ++ [⟨s.tasks.length, step.id, taskType, .open, none, input, 0⟩] }
  | write (s : State) (journey : JourneyRow) (steps : List Step) (event : JourneyEvent)
      (hversion : journey.version = s.journey.version + 1) (horder : journey.orderId = s.journey.orderId)
      (hsteps : steps.map (fun step => (step.id, step.code)) =
        s.steps.map fun step => (step.id, step.code))
      (hcourse : s.course.Step (courseOf journey steps))
      (hevent : Written cause s event (courseOf journey steps)) :
      Move cause s
        (State.writeOutbox
          { s with journey := journey, steps := steps, events := s.events ++ [event] }
          (.event event.key) event.eventType event.payload)
  /-- Tasks and outbox are cancelled with the journey. -/
  | cancel (s : State) (journey : JourneyRow) (steps : List Step) (jobs : List Job)
      (event : JourneyEvent) (hversion : journey.version = s.journey.version + 1)
      (horder : journey.orderId = s.journey.orderId)
      (hsteps : steps.map (fun step => (step.id, step.code)) =
        s.steps.map fun step => (step.id, step.code))
      (hlive : s.journey.status.terminal = false) (hcourse : courseOf journey steps = s.course.cancel)
      (hevent : Written cause s event (courseOf journey steps)) :
      Move cause s
        (State.writeOutbox
          { s with
            journey := journey
            steps := steps
            jobs := jobs
            tasks := cancelTasks s.tasks
            outbox := cancelOutbox s.outbox
            events := s.events ++ [event] }
          (.event event.key) event.eventType event.payload)

inductive Moves (cause : Cause) : State → State → Prop
  | refl (s : State) : Moves cause s s
  | tail {s s' s'' : State} (h : Moves cause s s') (hmove : Move cause s' s'') : Moves cause s s''

/-! ## What holds of the tables -/

/-- The identifiers and the codes of the steps are unique. -/
structure StepsOk (steps : List Step) : Prop where
  ids : steps.map (·.id) = List.range steps.length
  codes : (steps.map (·.code)).Nodup

/-- The types of the open tasks are different, and every task is one of its step. -/
structure TasksOk (steps : List Step) (tasks : List ManualTask) : Prop where
  ids : tasks.map (·.id) = List.range tasks.length
  types : ((tasks.filter (·.status == .open)).map (·.taskType)).Nodup
  steps : ∀ task ∈ tasks, ∃ step ∈ steps, step.id = task.stepId ∧
    manualTaskTypeFor step.code = some task.taskType

/-- Every event has its row in the outbox, and every other row is a notification. -/
structure OutboxOk (events : List JourneyEvent) (outbox : List OutboxRow) : Prop where
  ids : outbox.map (·.id) = List.range outbox.length
  keys : (outbox.map (·.key)).Nodup
  rows : ∀ event ∈ events, ∃ row ∈ outbox, row.key = .event event.key ∧
    row.eventType = event.eventType ∧ row.payload = event.payload
  events : ∀ row ∈ outbox, ∀ key, row.key = .event key →
    ∃ event ∈ events, event.key = key ∧ row.eventType = event.eventType ∧
      row.payload = event.payload

/-- What the keys of the events say about where a journey stands that has not come to its end. -/
structure KeysOk (s : State) : Prop where
  confirmed : ∀ event ∈ s.events, ∀ revision hashKey,
    event.key = .confirmationCompleted revision hashKey →
      revision ≤ s.application.finalPlanRevision ∧
        (s.journey.currentStepCode = .finalVehicleAllocation ∨
          s.journey.currentStepCode = .customerPlanConfirmation →
            revision < s.application.finalPlanRevision)
  archived : ∀ event ∈ s.events, ∀ contractId, event.key = .archived contractId →
    StepCode.fadadaSigningAndArchive.index < s.journey.currentStepCode.index
  ready : s.rejected = false → ∀ event ∈ s.events, event.key.isReady →
    StepCode.handoverAndStage2Creation.index < s.journey.currentStepCode.index
  once : s.rejected = false →
    s.events.Pairwise fun event event' => event.key.isReady → ¬event'.key.isReady
  waiting : ∀ event ∈ s.events, ∀ code, event.key = .waitingManual code →
    ∃ task ∈ s.tasks, manualTaskTypeFor code = some task.taskType
  tasks : s.rejected = false → ∀ task ∈ s.tasks, task.taskType = .deliveryEvidenceDecision →
    StepCode.deliveryEvidenceDecision.index ≤ s.journey.currentStepCode.index
  decided : s.rejected = false → ∀ event ∈ s.events, ∀ workOrderId hashKey decision,
    event.key = .evidenceDecided workOrderId hashKey decision →
      StepCode.deliveryEvidenceDecision.index < s.journey.currentStepCode.index
  ordered : StepCode.orderAndContractCreation.index < s.journey.currentStepCode.index →
    s.journey.orderId.isSome

structure State.Ok (s : State) : Prop where
  steps : StepsOk s.steps
  course : s.course.Ok
  sequences : s.events.map (·.sequence) = List.range (s.journey.version + 1)
  tasks : TasksOk s.steps s.tasks
  outbox : OutboxOk s.events s.outbox
  keys : s.journey.status.terminal = false → KeysOk s

end SubscriptionSaas.Journey
