import SubscriptionSaas.Change.Extensions
import SubscriptionSaas.Lib.Runs

/-!
# The life of an order's service

Enrolment for renewal, the expiry of a segment, vehicle swaps, and the machine of all operations on one
order. An event names an operation with its arguments; an operation that fails leaves the state as it
was. One clock serves the database and the servers, and runs forward.
-/

namespace SubscriptionSaas.Change

open Calendar Billing Contract Results

/-! ## Enrolment -/

/-- The consideration of a segment; the extension feature is enabled. -/
def enrollSegment (s : State) (segmentId : Id) : Except ChangeError State :=
  match s.segments[segmentId]? with
  | none => .ok s
  | some segment =>
    let deadline := shanghaiStartOfDate (addUtcDays segment.endDate 1)
    if segment.status ≠ .active ∨ s.order.orderStatus ≠ .active ∨ s.order.vehicle ≠ some .leased ∨
        (findLast effective s.rows).map (·.id) ≠ some segment.id ∨ deadline ≤ s.now ∨
        s.considerations.any (·.segmentId == segmentId) then .ok s
    else .ok { s with considerations := s.considerations ++
      [⟨s.considerations.length, segmentId, .pendingDecision, none, deadline, 0⟩] }

/-! ## Expiry -/

inductive ExpiryOutcome
  | expired | extended | duplicate
  deriving DecidableEq

def findEffectiveNextSegment (s : State) (segment : Segment) : Option Segment :=
  s.segments.find? fun g => segment.sequenceNo < g.sequenceNo &&
    g.startDate == addUtcDays segment.endDate 1 && (g.status == .scheduled || g.status == .active)

/-- The latest change order whose own column names the segment. -/
def expiringChange (s : State) (segmentId : Id) : Option ChangeOrder :=
  s.changes.reverse.find? fun c => c.sourceSegmentId == some segmentId

/-- The end of the service cancels the jobs that are still to run. -/
def cancelFutureJob (job : Job) : Job :=
  if jobOpen job then { job with jobStatus := .cancelled } else job

def completeActive (segment : Segment) : Segment :=
  if segment.status = .active then segment.completed else segment

def expireConsideration (segmentId : Id) (c : RenewalConsideration) : RenewalConsideration :=
  if c.segmentId == segmentId && c.status != .expired then
    { c with status := .expired, version := c.version + 1 }
  else c

/-- The change has missed its deadline. -/
def failChange (change : ChangeOrder) : ChangeOrder :=
  if change.status.live then
    { change with
      status := .failed
      failureCode := some "EXTENSION_DEADLINE_MISSED"
      version := change.version + 1 }
  else change

/-- The end of the segment; `closure` tells that the closure service accepts the return. -/
def expireSegment (s : State) (segmentId : Id) (closure : Bool) :
    Except ChangeError (ExpiryOutcome × State) :=
  match s.segments[segmentId]? with
  | none => .error ⟨"SUBSCRIPTION_EXPIRY_SEGMENT_MISSING",
      "The expiring contract segment was not found."⟩
  | some segment => do
    require (shanghaiStartOfDate (addUtcDays segment.endDate 1) ≤ s.now)
      ⟨"SUBSCRIPTION_EXPIRY_NOT_DUE",
        "The contract segment has not reached its expiry deadline."⟩
    if (findEffectiveNextSegment s segment).isSome then
      pure (.extended, s)
    else do
      require closure ⟨"SUBSCRIPTION_EXPIRY_AUTHORITY_BUSY",
        "The subscription expiry authority is currently being changed."⟩
      require s.order.vehicle.isSome ⟨"SUBSCRIPTION_EXPIRY_ORDER_INCOMPLETE",
        "The expiring order and leased vehicle are required."⟩
      if s.order.orderStatus ≠ .active then
        pure (.duplicate, s)
      else do
        require (s.lease == some .active) ⟨"SUBSCRIPTION_EXPIRY_LEASE_INVALID",
          "An active lease is required before transitioning to return due."⟩
        pure (.expired, { s with
          segments := s.segments.modify segmentId completeActive
          considerations := s.considerations.map (expireConsideration segmentId)
          changes := match expiringChange s segmentId with
            | some change => s.changes.modify change.id failChange
            | none => s.changes
          jobs := s.jobs.map cancelFutureJob
          order := { s.order with orderStatus := .pendingReturn }
          lease := some .returnDue
          vehicleReturn := match s.vehicleReturn with
            | some .cancelled | none => some .pending
            | some status => some status
          expired := s.expired ++ [segmentId] })

/-! ## Vehicle swaps -/

/-- `SubscriptionChangeService.create` for a vehicle swap. -/
def createSwap (s : State) (completionDeadlineAt : Int) : Except ChangeError State := do
  require (s.order.businessType == .subscription && s.order.orderStatus == .active)
    ⟨"SUBSCRIPTION_ORDER_NOT_ACTIVE", "Only an active subscription order can be changed."⟩
  s.addChange
    { id := s.changes.length
      status := .draft
      version := 0
      sourceSegmentId := none
      renewalConsiderationId := none
      completionDeadlineAt := completionDeadlineAt
      detail := .vehicleSwap
      quotes := []
      currentQuoteId := none
      confirmedQuoteId := none
      customerConfirmationPublished := false
      contract := none
      failureCode := none }

/-- The swap's own commands move it to any status but the last one. -/
def moveSwap (s : State) (id : Id) (status : ChangeStatus) : Except ChangeError State :=
  match s.changes[id]? with
  | some change => do
    require (change.extensionDetail.isNone && status != .completed) changeNotFound
    require (change.status.live || !status.live) uniqueViolation
    pure (s.setChange id fun change =>
      { change with status := status, version := change.version + 1 })
  | none => .error changeNotFound

/-- The segment that a swap appends: the rest of its source, with the terms of the confirmed quote. -/
def swapSegment (s : State) (changeId : Id) (source : Segment) (effectiveDate : Int)
    (pricing : Pricing) (contractId : Id) (contractSnapshot : Json) : Segment where
  id := s.segments.length
  sequenceNo := source.sequenceNo + 1
  status := .active
  startDate := effectiveDate
  endDate := source.endDate
  monthlyFeeAmount := pricing.monthlyFeeAmount
  sourceChangeOrderId := some changeId
  sourceSegmentId := none
  segmentType := .vehicleSwap
  activatedAt := some s.now
  sourceContractId := some contractId
  subscriptionPlanId := pricing.subscriptionPlanId
  productId := pricing.productId
  productVersionId := pricing.productVersionId
  mileageLimitKm := pricing.mileageLimitKm
  overMileageFeeAmount := pricing.overMileageFeeAmount
  energyLimitKwh := pricing.energyLimitKwh
  energyLimitCount := pricing.energyLimitCount
  planSnapshot := pricing.planSnapshot
  entitlementKeys := pricing.entitlementKeys
  quoteSnapshot := pricing.quoteSnapshot
  contractSnapshot := contractSnapshot

def Segment.endedOn (date : Int) (segment : Segment) : Segment :=
  { segment with endDate := date, status := .completed }

/-- `activateIfReady`; `blockers` are those that are not about the segments. -/
def activateIfReady (s : State) (id : Id) (blockers : Bool) (pricing : Pricing) (contractId : Id)
    (contractSnapshot : Json) : Except ChangeError State :=
  match s.changes[id]? with
  | none => .error ⟨"VEHICLE_SWAP_CHANGE_NOT_FOUND", "The vehicle-swap change was not found."⟩
  | some change => do
    require change.extensionDetail.isNone
      ⟨"VEHICLE_SWAP_CHANGE_NOT_FOUND", "The vehicle-swap change was not found."⟩
    match change.sourceSegmentId.bind (s.segments[·]?) with
    | none => .ok s
    | some source =>
      let effectiveDate := toBillingBusinessDate s.now
      if change.status ≠ .executing ∨ blockers ∨ source.status ≠ .active ∨
          effectiveDate ≤ source.startDate ∨ source.endDate < effectiveDate then .ok s
      else do
        let segment := swapSegment s id source effectiveDate pricing contractId contractSnapshot
        let s ← (s.setSegment source.id (Segment.endedOn (addUtcDays effectiveDate (-1)))).addSegment
          segment
        pure (s.setChange id fun change =>
          { change with status := .completed, failureCode := none, version := change.version + 1 })

/-- Writes the source segment into the change order's own column, where a row from before the typed
details has it; no function of the services does. -/
def backfillSource (s : State) (id segmentId : Id) : Except ChangeError State :=
  match s.changes[id]? with
  | some change => do
    require (change.extensionDetail.all (·.sourceSegmentId == segmentId)) changeNotFound
    pure (s.setChange id fun change => { change with sourceSegmentId := some segmentId })
  | none => .error changeNotFound

/-! ## The machine -/

inductive Event
  | tick (elapsed : Nat)
  /-- The status of the order's vehicle changes. -/
  | vehicle (status : Option VehicleStatus)
  | ensureBaseSegment
  | prepareExtension (months : Int) (mode : PricingMode) (considerationId : Option Id)
  | createExtension (call : Nat)
  | enrollSegment (segmentId : Id)
  | decideRenewal (id : Id) (version : Nat) (decision : RenewalDecision) (periodMonths : Int)
  | createFormalQuote (id : Id) (version : Nat) (actorId : Id) (pricing : Pricing) (hours : Int)
  | approvePriceOverride (id : Id) (version : Nat) (actorId : Id) (reason : String)
  | submitCustomerConfirmation (id : Id) (version : Nat)
  | confirmQuote (id : Id) (version : Nat) (quoteId : Nat)
  | rejectQuote (id : Id) (version : Nat) (quoteId : Nat) (reason : String)
  | reserveGeneration (id : Id) (version : Nat) (contractId : Id) (snapshot : Json)
  | finalizeGeneration (id : Id) (version : Nat) (contractId : Id)
  | abortGenerationReservation (id : Id) (contractId : Id)
  | finalizeArchivedContract (id : Id) (evidence : Bool)
  | cancel (id : Id) (version : Nat) (reason : String)
  | manualTakeover (id : Id) (version : Nat) (reason : String)
  | retryAutomationJob (id jobId : Id) (version : Nat)
  | handle (jobId : Id) (succeeds : Bool)
  | completeJob (jobId : Id)
  | deadLetter (jobId : Id)
  | markManualTakeover (jobId : Id)
  | completeIfReady (id : Id)
  | expireSegment (segmentId : Id) (closure : Bool)
  | createSwap (completionDeadlineAt : Int)
  | moveSwap (id : Id) (status : ChangeStatus)
  | activateIfReady (id : Id) (blockers : Bool) (pricing : Pricing) (contractId : Id)
      (snapshot : Json)
  | backfillSource (id segmentId : Id)

def perform (s : State) : Event → Except ChangeError State
  | .tick elapsed => .ok { s with now := s.now + elapsed }
  | .vehicle status => .ok { s with order := { s.order with vehicle := status } }
  | .ensureBaseSegment => Change.ensureBaseSegment s
  | .prepareExtension months mode considerationId =>
    Change.prepareExtension s months mode considerationId
  | .createExtension call => Change.createExtension s call
  | .enrollSegment segmentId => Change.enrollSegment s segmentId
  | .decideRenewal id version decision periodMonths =>
    Change.decideRenewal s id version decision periodMonths
  | .createFormalQuote id version actorId pricing hours =>
    Change.createFormalQuote s id version actorId pricing hours
  | .approvePriceOverride id version actorId reason =>
    Change.approvePriceOverride s id version actorId reason
  | .submitCustomerConfirmation id version => Change.submitCustomerConfirmation s id version
  | .confirmQuote id version quoteId => Change.confirmQuote s id version quoteId
  | .rejectQuote id version quoteId reason => Change.rejectQuote s id version quoteId reason
  | .reserveGeneration id version contractId snapshot =>
    Change.reserveGeneration s id version contractId snapshot
  | .finalizeGeneration id version contractId => Change.finalizeGeneration s id version contractId
  | .abortGenerationReservation id contractId =>
    Change.abortGenerationReservation s id contractId
  | .finalizeArchivedContract id evidence =>
    (Change.finalizeArchivedContract s id evidence).map (·.2)
  | .cancel id version reason => Change.cancel s id version reason
  | .manualTakeover id version reason => Change.manualTakeover s id version reason
  | .retryAutomationJob id jobId version => Change.retryAutomationJob s id jobId version
  | .handle jobId succeeds => Change.handle s jobId succeeds
  | .completeJob jobId => Change.completeJob s jobId
  | .deadLetter jobId => Change.deadLetter s jobId
  | .markManualTakeover jobId => Change.markManualTakeover s jobId
  | .completeIfReady id => Change.completeIfReady s id
  | .expireSegment segmentId closure => (Change.expireSegment s segmentId closure).map (·.2)
  | .createSwap deadline => Change.createSwap s deadline
  | .moveSwap id status => Change.moveSwap s id status
  | .activateIfReady id blockers pricing contractId snapshot =>
    Change.activateIfReady s id blockers pricing contractId snapshot
  | .backfillSource id segmentId => Change.backfillSource s id segmentId

def step (s : State) (e : Event) : State :=
  match perform s e with
  | .ok s' => s'
  | .error _ => s

/-- An order without segments and changes. -/
def initial (now : Int) (order : Order) (lease : Option LeaseStatus) : State where
  now := now
  order := order
  lease := lease
  vehicleReturn := none
  segments := []
  changes := []
  considerations := []
  jobs := []
  prepared := []
  takeovers := []
  expired := []

/-- The order after the events. -/
def history (now : Int) (order : Order) (lease : Option LeaseStatus) (evs : List Event) : State :=
  Runs.runs step (initial now order lease) evs

end SubscriptionSaas.Change
