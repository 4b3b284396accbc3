import SubscriptionSaas.Lib.Results

/-!
# The execution state machine of a release

One operation goes from a dry run over its apply to replays, and through a reconciliation when its
process was lost. The state is a JSON record that `transitionExecution` replaces as a whole; an event
it does not accept is an error and leaves the state as it was.

A field of an event is `none` when the event lacks it or it is not a text. An event is any object, so
it can also have a property `state`; `assertApplyAllowed` is called with the properties of the event
spread over the machine's own state.
-/

namespace SubscriptionSaas.Release

open Results

/-! ## Patterns -/

def lowerHex (c : Char) : Bool := ('0' ≤ c && c ≤ '9') || ('a' ≤ c && c ≤ 'f')

def anyHex (c : Char) : Bool := lowerHex c || ('A' ≤ c && c ≤ 'F')

/-- A text as long as the list, each character as the list says. -/
def fits : List (Char → Bool) → List Char → Bool
  | [], [] => true
  | p :: ps, c :: cs => p c && fits ps cs
  | _, _ => false

/-- `/^sha256:[0-9a-f]{64}$/`. -/
def digestPattern (text : String) : Bool :=
  fits ("sha256:".toList.map (fun c d => d == c) ++ List.replicate 64 lowerHex) text.toList

/-- `/^[0-9a-f]{8}-[0-9a-f]{4}-[1-8][0-9a-f]{3}-[89ab][0-9a-f]{3}-[0-9a-f]{12}$/i`. -/
def uuidPattern (text : String) : Bool :=
  fits (List.replicate 8 anyHex ++ (· == '-') :: List.replicate 4 anyHex ++ (· == '-') ::
    (fun c => '1' ≤ c && c ≤ '8') :: List.replicate 3 anyHex ++ (· == '-') ::
    (fun c => "89abAB".toList.contains c) :: List.replicate 3 anyHex ++ (· == '-') ::
    List.replicate 12 anyHex) text.toList

/-! ## States and events -/

inductive ExecutionStatus
  | ready | preflightRejected | dryRunSucceeded | applying | applyCommittedPendingProof | replaying
  | succeeded | failed | interruptedUnknown | reconciling
  deriving DecidableEq

inductive TerminalClass
  | preflightRejected | succeeded | failed | interruptedUnknown
  deriving DecidableEq

inductive CommitState
  | notStarted | notConfirmed | committed | notApplicable | notCommitted | unknown
  | committedResultUnproved
  deriving DecidableEq

inductive AttemptStatus
  | preflightRejected | succeeded | running | committedPendingProof | failed | interruptedUnknown
  deriving DecidableEq

structure Attempt where
  attemptId : String
  phase : String
  status : AttemptStatus
  reasonCode : Option String
  deriving DecidableEq

/-- `execution-state.v1`. -/
structure ExecutionState where
  schemaVersion : String
  operationId : String
  idempotencyKey : String
  status : ExecutionStatus
  terminalClass : Option TerminalClass
  approvedPlanDigest : Option String
  predecessorProofDigest : Option String
  commitState : CommitState
  activeAttempt : Option Attempt
  attemptIds : List String
  deriving DecidableEq

inductive EventType
  | preflightRejected | dryRunSucceeded | applyStarted | applyCommitted | replayStarted
  | attemptProved | processLost | reconcileStarted | reconcileResolved | attemptFailed
  | unimplemented
  deriving DecidableEq

inductive DatabaseOutcome
  | committed | notCommitted
  deriving DecidableEq

structure ExecutionEvent where
  type : EventType
  operationId : Option String := none
  idempotencyKey : Option String := none
  attemptId : Option String := none
  phase : Option String := none
  reasonCode : Option String := none
  planDigest : Option String := none
  proofDigest : Option String := none
  approvedPlanDigest : Option String := none
  recomputedPlanDigest : Option String := none
  commitState : Option CommitState := none
  databaseOutcome : Option DatabaseOutcome := none
  state : Option ExecutionState := none
  deriving DecidableEq

inductive ExecutionError
  | operationMismatch | idempotencyKeyMismatch | attemptInvalid | transitionInvalid
  | identityInvalid | unknownRequiresReconcile | applyRequiresApprovedDryRun
  | planChangedSinceApproval | preflightRecordInvalid | proofReferenceInvalid | commitStateInvalid
  | reconcileResultInvalid | transitionUnimplemented
  /-- A property of `null` was read. -/
  | typeError
  deriving DecidableEq

/-! ## Guards -/

def assertIdentity (state : ExecutionState) (operationId idempotencyKey : Option String) :
    Except ExecutionError Unit := do
  require (operationId == some state.operationId) .operationMismatch
  require (idempotencyKey == some state.idempotencyKey) .idempotencyKeyMismatch

/-- The attempt's id, when it is a new one. -/
def assertAttemptAvailable (state : ExecutionState) (attemptId : Option String) :
    Except ExecutionError String := do
  let attemptId := attemptId.getD ""
  require (uuidPattern attemptId && !state.attemptIds.contains attemptId) .attemptInvalid
  pure attemptId

def transitionAllowed (state : ExecutionState) (allowed : List ExecutionStatus) :
    Except ExecutionError Unit :=
  require (allowed.contains state.status) .transitionInvalid

def createExecutionState (operationId idempotencyKey : String) :
    Except ExecutionError ExecutionState := do
  require (uuidPattern operationId && idempotencyKey != "") .identityInvalid
  pure
    { schemaVersion := "execution-state.v1"
      operationId := operationId
      idempotencyKey := idempotencyKey
      status := .ready
      terminalClass := none
      approvedPlanDigest := none
      predecessorProofDigest := none
      commitState := .notStarted
      activeAttempt := none
      attemptIds := [] }

def assertApplyAllowed (state : ExecutionState)
    (operationId idempotencyKey approvedPlanDigest recomputedPlanDigest : Option String) :
    Except ExecutionError Unit := do
  require (state.status != .interruptedUnknown) .unknownRequiresReconcile
  assertIdentity state operationId idempotencyKey
  require (state.status == .dryRunSucceeded) .applyRequiresApprovedDryRun
  require (digestPattern (approvedPlanDigest.getD "") &&
    approvedPlanDigest == state.approvedPlanDigest &&
    recomputedPlanDigest == approvedPlanDigest) .planChangedSinceApproval

/-! ## Transitions -/

/-- `{ ...state.activeAttempt, status }`. -/
def ExecutionState.attemptWith (state : ExecutionState) (status : AttemptStatus) : Option Attempt :=
  state.activeAttempt.map fun attempt => { attempt with status := status }

def transitionExecution (state : ExecutionState) (event : ExecutionEvent) :
    Except ExecutionError ExecutionState :=
  if state.schemaVersion != "execution-state.v1" then .error .transitionInvalid
  else match event.type with
  | .preflightRejected => do
    transitionAllowed state [.ready]
    let attemptId ← assertAttemptAvailable state event.attemptId
    match event.phase, event.reasonCode with
    | some phase, some reasonCode =>
      pure { state with
        status := .preflightRejected
        terminalClass := some .preflightRejected
        commitState := .notStarted
        activeAttempt := some ⟨attemptId, phase, .preflightRejected, some reasonCode⟩
        attemptIds := state.attemptIds ++ [attemptId] }
    | _, _ => .error .preflightRecordInvalid
  | .dryRunSucceeded => do
    transitionAllowed state [.ready]
    let attemptId ← assertAttemptAvailable state event.attemptId
    require (digestPattern (event.planDigest.getD "") && digestPattern (event.proofDigest.getD ""))
      .proofReferenceInvalid
    pure { state with
      status := .dryRunSucceeded
      terminalClass := none
      approvedPlanDigest := event.planDigest
      predecessorProofDigest := event.proofDigest
      commitState := .notStarted
      activeAttempt := some ⟨attemptId, "dry-run", .succeeded, none⟩
      attemptIds := state.attemptIds ++ [attemptId] }
  | .applyStarted => do
    -- `{ state, ...event }`
    assertApplyAllowed (event.state.getD state) event.operationId event.idempotencyKey
      event.approvedPlanDigest event.recomputedPlanDigest
    let attemptId ← assertAttemptAvailable state event.attemptId
    pure { state with
      status := .applying
      terminalClass := none
      commitState := .notConfirmed
      activeAttempt := some ⟨attemptId, "apply", .running, none⟩
      attemptIds := state.attemptIds ++ [attemptId] }
  | .applyCommitted => do
    transitionAllowed state [.applying]
    pure { state with
      status := .applyCommittedPendingProof
      commitState := .committed
      activeAttempt := state.attemptWith .committedPendingProof }
  | .replayStarted => do
    transitionAllowed state [.succeeded]
    assertIdentity state event.operationId event.idempotencyKey
    let attemptId ← assertAttemptAvailable state event.attemptId
    pure { state with
      status := .replaying
      terminalClass := none
      commitState := .notApplicable
      activeAttempt := some ⟨attemptId, "replay", .running, none⟩
      attemptIds := state.attemptIds ++ [attemptId] }
  | .attemptProved => do
    transitionAllowed state [.applyCommittedPendingProof, .replaying]
    require (digestPattern (event.proofDigest.getD "")) .proofReferenceInvalid
    match state.activeAttempt with
    | none => .error .typeError
    | some attempt =>
      pure { state with
        status := .succeeded
        terminalClass := some .succeeded
        predecessorProofDigest := event.proofDigest
        commitState := if attempt.phase == "apply" then .committed else .notApplicable
        activeAttempt := some { attempt with status := .succeeded } }
  | .processLost => do
    transitionAllowed state [.applying, .applyCommittedPendingProof]
    match event.commitState with
    | some .notCommitted =>
      pure { state with
        status := .failed
        terminalClass := some .failed
        commitState := .notCommitted
        activeAttempt := state.attemptWith .failed }
    | some .unknown =>
      pure { state with
        status := .interruptedUnknown
        terminalClass := some .interruptedUnknown
        commitState := .unknown
        activeAttempt := state.attemptWith .interruptedUnknown }
    | some .committedResultUnproved =>
      pure { state with
        status := .interruptedUnknown
        terminalClass := some .interruptedUnknown
        commitState := .committedResultUnproved
        activeAttempt := state.attemptWith .interruptedUnknown }
    | _ => .error .commitStateInvalid
  | .reconcileStarted => do
    transitionAllowed state [.interruptedUnknown]
    assertIdentity state event.operationId event.idempotencyKey
    let attemptId ← assertAttemptAvailable state event.attemptId
    pure { state with
      status := .reconciling
      terminalClass := none
      activeAttempt := some ⟨attemptId, "reconcile", .running, none⟩
      attemptIds := state.attemptIds ++ [attemptId] }
  | .reconcileResolved => do
    transitionAllowed state [.reconciling]
    require (digestPattern (event.proofDigest.getD "")) .reconcileResultInvalid
    match event.databaseOutcome with
    | some .committed =>
      pure { state with
        status := .succeeded
        terminalClass := some .succeeded
        predecessorProofDigest := event.proofDigest
        commitState := .committed
        activeAttempt := state.attemptWith .succeeded }
    | some .notCommitted =>
      pure { state with
        status := .failed
        terminalClass := some .failed
        predecessorProofDigest := event.proofDigest
        commitState := .notCommitted
        activeAttempt := state.attemptWith .failed }
    | none => .error .reconcileResultInvalid
  | .attemptFailed => do
    transitionAllowed state [.applying, .replaying, .reconciling]
    require (state.commitState != .committed) .unknownRequiresReconcile
    pure { state with
      status := .failed
      terminalClass := some .failed
      activeAttempt := state.attemptWith .failed }
  | .unimplemented => .error .transitionUnimplemented

/-- A sequence of events, each of which is accepted. -/
def acceptAll (state : ExecutionState) (events : List ExecutionEvent) :
    Except ExecutionError ExecutionState :=
  events.foldlM transitionExecution state

end SubscriptionSaas.Release
