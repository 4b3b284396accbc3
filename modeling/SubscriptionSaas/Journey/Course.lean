import SubscriptionSaas.Journey.StateMachine
import Mathlib.Logic.Function.Basic

/-!
# The course of a journey

The abstract side of the journey: where it stands and what the rows of its steps say, with the moves
that it can make. A journey goes through its steps in order; it waits, fails and is retried at the
current step, is paused and resumed, and goes back on three occasions only.
-/

namespace SubscriptionSaas.Journey

/-- The statuses in which a step can make a transition. -/
def StepStatus.open : StepStatus → Bool
  | .pending | .running | .waitingCustomer | .waitingManual | .retryScheduled => true
  | _ => false

/-- The statuses in which a step has come to its end. -/
def StepStatus.ended : StepStatus → Bool
  | .completed | .skipped | .cancelled => true
  | _ => false

def JourneyStatus.terminal : JourneyStatus → Bool
  | .completed | .cancelled => true
  | _ => false

def StepCode.index (code : StepCode) : Nat := journeyStepSequence.idxOf code

/-- The steps that a new revision of the plan goes through again. -/
def replannedSteps : List StepCode :=
  [.finalPlanDecision, .finalVehicleAllocation, .customerPlanConfirmation,
    .orderAndContractCreation]

structure Course where
  status : JourneyStatus
  code : StepCode
  stepStatus : StepStatus
  pausedFrom : Option JourneyStatus
  rows : StepCode → Option StepStatus

namespace Course

/-- The current step can make a transition. -/
structure CanMove (c : Course) : Prop where
  live : c.status.terminal = false
  notPaused : c.status ≠ .paused
  isOpen : c.stepStatus.open = true
  row : c.rows c.code = some c.stepStatus

/-- The status that a pause has interrupted, if there is one. -/
def running (c : Course) : JourneyStatus :=
  if c.status = .paused then c.pausedFrom.getD .paused else c.status

/-- The step that follows; a vehicle step that is completed is passed over. -/
def next (c : Course) : Option StepCode :=
  match nextStep c.code .completed with
  | some .finalVehicleAllocation =>
    if c.rows .finalVehicleAllocation = some .completed then
      nextStep .finalVehicleAllocation .completed
    else some .finalVehicleAllocation
  | following => following

/-- The row of the current step is completed, and the next step is the current one. -/
def complete (c : Course) : Course :=
  { c with
    status := if c.next.isSome then .running else .completed
    code := c.next.getD c.code
    stepStatus := if c.next.isSome then .pending else .completed
    rows := Function.update c.rows c.code (some .completed) }

/-- The journey stands at the step in this status, and so does the row of the step. -/
def stand (c : Course) (code : StepCode) (stepStatus : StepStatus) (status : JourneyStatus) :
    Course :=
  { c with
    status := status
    code := code
    stepStatus := stepStatus
    rows := Function.update c.rows code (some stepStatus) }

/-- The current step fails; a pause remembers it. -/
def fail (c : Course) : Course :=
  { c with
    status := if c.status = .paused then .paused else .exception
    stepStatus := .exception
    pausedFrom := if c.status = .paused then some .exception else c.pausedFrom
    rows := Function.update c.rows c.code (some .exception) }

/-- What is not completed is cancelled. -/
def cancel (c : Course) : Course :=
  { c with
    status := .cancelled
    stepStatus := .cancelled
    rows := fun code => (c.rows code).map fun status =>
      if status = .completed then .completed else .cancelled }

/-- The rows of the steps become pending. -/
def reset (c : Course) (codes : List StepCode) : Course :=
  { c with rows := fun code =>
      if codes.contains code then (c.rows code).map fun _ => .pending else c.rows code }

inductive Step (c : Course) : Course → Prop
  | observe : Step c c
  | complete (h : c.CanMove) : Step c c.complete
  | waitCustomer (h : c.CanMove) : Step c (c.stand c.code .waitingCustomer .waitingCustomer)
  | waitManual (h : c.CanMove) : Step c (c.stand c.code .waitingManual .waitingManual)
  | fail {status : StepStatus} (hlive : c.status.terminal = false) (hrow : c.rows c.code = some status)
      (hended : status.ended = false) : Step c c.fail
  | pause (hlive : c.status.terminal = false) (h : c.status ≠ .paused) :
      Step c { c with status := .paused, pausedFrom := some c.status }
  | resume {status : JourneyStatus} (h : c.status = .paused) (hfrom : c.pausedFrom = some status) :
      Step c { c with status := status, pausedFrom := none }
  | retry (h : c.status = .exception) :
      Step c (c.stand c.code .retryScheduled .retryScheduled)
  | cancel (hlive : c.status.terminal = false) : Step c c.cancel
  /-- The plan has to be decided again. -/
  | replan (h : c.CanMove) (hcode : c.code = .orderAndContractCreation) :
      Step c ((c.reset replannedSteps).stand .finalPlanDecision .waitingManual .waitingManual)
  /-- The customer has to confirm the plan again. -/
  | reconfirm (h : c.CanMove) (hcode : c.code = .finalVehicleAllocation) :
      Step c ({ c with rows := Function.update c.rows c.code (some .completed) }.stand
        .customerPlanConfirmation .waitingCustomer .waitingCustomer)
  /-- The evidence of the delivery is rejected. -/
  | rehand (h : c.CanMove) (hcode : c.code = .deliveryEvidenceDecision) :
      Step c ((c.reset [.deliveryEvidenceDecision]).stand .handoverAndStage2Creation .running .running)

/-- The row of the current step, when it exists, has the status of the journey's step. -/
def Agrees (c : Course) : Prop := ∀ status, c.rows c.code = some status → status = c.stepStatus

/-- What holds of the course of every journey, but for the row of a cancelled step. -/
structure Ok (c : Course) : Prop where
  agrees : c.status ≠ .cancelled → c.Agrees
  absent : c.status.terminal = false → c.rows c.code = none → c.stepStatus = .pending
  later : c.status.terminal = false → ∀ code status, c.code.index < code.index →
    c.rows code = some status → status = .pending
  live : c.status.terminal = false → c.stepStatus.ended = false
  paused : c.status = .paused →
    ∃ status, c.pausedFrom = some status ∧ status.terminal = false ∧ status ≠ .paused
  failed : c.status.terminal = false → (c.running = .exception ↔ c.stepStatus = .exception)
  completed : c.status = .completed → c.rows c.code = some .completed ∧ c.stepStatus = .completed

end Course

end SubscriptionSaas.Journey
