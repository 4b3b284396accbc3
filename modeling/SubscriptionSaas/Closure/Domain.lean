import Mathlib.Data.List.Basic

/-!
# The statuses of a subscription closure

A closure case moves by the transitions of its profile. A recovery may be paused besides, and is
resumed where it was.
-/

namespace SubscriptionSaas.Closure

inductive ClosureStatus
  | preparingReturn | recoveryAssessmentPending | recoveryApprovalPending | recoveryApproved
  | recoveryInProgress | vehicleSecured | returnInspection | reconditioning | pendingSettlement
  | completed | terminated | rejected | paused | cancelled | manualTakeover
  deriving DecidableEq

inductive ClosureType
  | normalCompletion | earlyTermination
  deriving DecidableEq

inductive PhysicalControlMode
  | voluntaryReturn | recovery
  deriving DecidableEq

inductive FinalDisposition
  | complete | terminate
  deriving DecidableEq

structure ClosureProfile where
  closureType : ClosureType
  physicalControlMode : PhysicalControlMode
  finalDisposition : FinalDisposition
  deriving DecidableEq

/-- The type errors of the domain, which the repository answers as a conflict of the status. -/
inductive DomainErr
  | invalidRecoveryProfile | invalidProfile
  | transitionNotAllowed (fromStatus toStatus : ClosureStatus)
  | onlyApprovedEscalation | onlyRecoveryPaused | resumeStage
  deriving DecidableEq

abbrev TransitionMatrix := ClosureStatus → List ClosureStatus

def normalVoluntary : TransitionMatrix
  | .preparingReturn => [.returnInspection, .cancelled, .manualTakeover]
  | .returnInspection => [.reconditioning, .pendingSettlement, .manualTakeover]
  | .reconditioning => [.pendingSettlement, .manualTakeover]
  | .pendingSettlement => [.completed, .manualTakeover]
  | _ => []

def earlyVoluntary : TransitionMatrix
  | .manualTakeover => [.cancelled]
  | .pendingSettlement => [.terminated, .manualTakeover]
  | status => normalVoluntary status

def recovery : TransitionMatrix
  | .recoveryAssessmentPending => [.recoveryApprovalPending, .rejected, .cancelled, .manualTakeover]
  | .recoveryApprovalPending => [.recoveryApproved, .rejected, .cancelled, .manualTakeover]
  | .recoveryApproved => [.recoveryInProgress, .cancelled, .manualTakeover]
  | .recoveryInProgress => [.vehicleSecured, .cancelled, .manualTakeover]
  | .vehicleSecured => [.returnInspection, .manualTakeover]
  | .returnInspection => [.reconditioning, .pendingSettlement, .manualTakeover]
  | .reconditioning => [.pendingSettlement, .manualTakeover]
  | .pendingSettlement => [.terminated, .manualTakeover]
  | _ => []

def allowedSubscriptionClosureTransitions (profile : ClosureProfile) :
    Except DomainErr TransitionMatrix :=
  if profile.physicalControlMode = .recovery then
    if profile.finalDisposition ≠ .terminate then .error .invalidRecoveryProfile else .ok recovery
  else if profile.closureType = .normalCompletion ∧ profile.finalDisposition = .complete then
    .ok normalVoluntary
  else if profile.closureType = .earlyTermination ∧ profile.finalDisposition = .terminate then
    .ok earlyVoluntary
  else .error .invalidProfile

def assertSubscriptionClosureTransition (profile : ClosureProfile) (fromStatus toStatus : ClosureStatus) :
    Except DomainErr Unit := do
  let matrix ← allowedSubscriptionClosureTransitions profile
  if toStatus ∈ matrix fromStatus then .ok ()
  else .error (.transitionNotAllowed fromStatus toStatus)

def assertSubscriptionClosureEscalation (before : ClosureProfile)
    (physicalControlledAt : Option Int) (status : ClosureStatus) (after : ClosureProfile) :
    Except DomainErr Unit :=
  if before ≠ ⟨.normalCompletion, .voluntaryReturn, .complete⟩ ∨ status ≠ .preparingReturn ∨
      physicalControlledAt ≠ none ∨ after ≠ ⟨.normalCompletion, .recovery, .terminate⟩ then
    .error .onlyApprovedEscalation
  else .ok ()

def recoveryPausableStatuses : List ClosureStatus :=
  [.recoveryAssessmentPending, .recoveryApprovalPending, .recoveryApproved, .recoveryInProgress,
    .vehicleSecured, .returnInspection, .reconditioning, .pendingSettlement]

def assertRecoveryPauseTransition (profile : ClosureProfile) (fromStatus toStatus : ClosureStatus)
    (rememberedStage : Option ClosureStatus) : Except DomainErr Unit :=
  if profile.physicalControlMode ≠ .recovery ∨ profile.finalDisposition ≠ .terminate then
    .error .onlyRecoveryPaused
  else if toStatus = .paused ∧ fromStatus ∈ recoveryPausableStatuses ∧ rememberedStage = none then
    .ok ()
  else if fromStatus = .paused ∧ toStatus ∈ recoveryPausableStatuses ∧
      rememberedStage = some toStatus then
    .ok ()
  else .error .resumeStage

def terminalStatus (status : ClosureStatus) : Bool :=
  status ∈ [ClosureStatus.completed, .terminated, .rejected, .cancelled]

def physicalControlledStatus (status : ClosureStatus) : Bool :=
  status ∈ [ClosureStatus.vehicleSecured, .returnInspection, .reconditioning, .pendingSettlement,
    .completed, .terminated]

end SubscriptionSaas.Closure
