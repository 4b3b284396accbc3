import SubscriptionSaas.Change.SegmentService

/-!
# Extensions

The commands on an extension, from its creation by the staff or by the customer to the archive of its
agreement, which appends a scheduled segment; then the jobs that make that segment the active one and
complete the change, and the ways out: cancellation, rejection, manual takeover and retry. Each
function is one serializable transaction, and an error leaves the state as it was. The table of
idempotency keys, which lets a repeated request return its first result, is left out.
-/

namespace SubscriptionSaas.Change

open Calendar Billing Contract Results

/-! ## Checks -/

/-- The characters that `trim` removes. -/
def isWhiteSpace (c : Char) : Bool :=
  (9 ≤ c.toNat && c.toNat ≤ 13) || (0x2000 ≤ c.toNat && c.toNat ≤ 0x200A) ||
    [0x20, 0xA0, 0x1680, 0x2028, 0x2029, 0x202F, 0x205F, 0x3000, 0xFEFF].contains c.toNat

def isBlank (text : String) : Bool := text.toList.all isWhiteSpace

/-- Midnight in Shanghai. -/
def shanghaiStartOfDate (date : Int) : Int := instantOf date - chinaTimeOffsetMs

def changeNotFound : ChangeError :=
  ⟨"SUBSCRIPTION_CHANGE_NOT_FOUND", "Subscription change was not found."⟩

def assertVersionMatches (actual expected : Nat) : Except ChangeError Unit :=
  require (actual == expected)
    ⟨"VERSION_CONFLICT", "The subscription change was updated by another request."⟩

def assertBeforeDeadline (now deadline : Int) : Except ChangeError Unit :=
  require (now < deadline) ⟨"EXTENSION_DEADLINE_PASSED",
    "The extension completion deadline has passed; the original contract must proceed to return."⟩

def assertExtensionSourceOrder (order : Order) : Except ChangeError Unit := do
  require (!order.deleted) ⟨"SUBSCRIPTION_ORDER_NOT_FOUND", "Subscription order was not found."⟩
  require order.vehicle.isSome
    ⟨"ORDER_VEHICLE_REQUIRED", "A leased vehicle is required for extension pricing."⟩
  require (order.businessType == .subscription && order.orderStatus == .active)
    ⟨"SUBSCRIPTION_ORDER_NOT_ACTIVE", "Only an active subscription order can be extended."⟩
  require (order.vehicle == some .leased) ⟨"LEASED_VEHICLE_REQUIRED",
    "The subscription vehicle must remain leased while the extension is created."⟩

def assertNoContractGenerationInProgress (change : ChangeOrder) : Except ChangeError Unit :=
  require (!change.contract.any fun c => c.status == .generated && !c.rendered)
    ⟨"CONTRACT_GENERATION_IN_PROGRESS",
      "The reserved extension contract must finish rendering before this transition."⟩

def assertQuoteMutable (change : ChangeOrder) : Except ChangeError Unit := do
  require (change.confirmedQuoteId.isNone && change.status != .customerConfirmed)
    ⟨"CONFIRMED_QUOTE_IMMUTABLE", "A customer-confirmed quote cannot be replaced."⟩
  require (change.status == .draft || change.status == .quoted)
    ⟨"SUBSCRIPTION_CHANGE_NOT_QUOTABLE", "The change is not in a quotable state."⟩
  require (!change.customerConfirmationPublished)
    ⟨"PUBLISHED_QUOTE_IMMUTABLE", "A published extension quote cannot be replaced."⟩

/-- The change order and its extension detail. -/
def findExtension (s : State) (id : Id) : Except ChangeError (ChangeOrder × ExtensionDetail) :=
  match s.changes[id]? with
  | none => .error changeNotFound
  | some change =>
    match change.detail with
    | .extension detail => .ok (change, detail)
    | .vehicleSwap => .error ⟨"SUBSCRIPTION_EXTENSION_DETAIL_INVALID",
        "Only extension changes can use the extension workflow."⟩

/-- What every command of the staff checks before it runs. -/
def runChangeCommand (s : State) (id : Id) (version : Nat)
    (execute : ChangeOrder → ExtensionDetail → Except ChangeError State) :
    Except ChangeError State := do
  let (change, detail) ← findExtension s id
  assertVersionMatches change.version version
  assertBeforeDeadline s.now change.completionDeadlineAt
  execute change detail

/-! ## Creation -/

/-- The checks of `createExtension` before its transaction. -/
def prepareExtension (s : State) (extensionMonths : Int) (pricingMode : PricingMode)
    (renewalConsiderationId : Option Id) : Except ChangeError State := do
  require (0 < extensionMonths)
    ⟨"EXTENSION_MONTHS_INVALID", "Extension months must be a positive integer."⟩
  assertExtensionSourceOrder s.order
  let (s, source, targetStartDate, targetEndDate) ← extensionSource s extensionMonths
  let completionDeadlineAt := shanghaiStartOfDate targetStartDate
  assertBeforeDeadline s.now completionDeadlineAt
  pure { s with prepared := s.prepared ++ [⟨extensionMonths, pricingMode, renewalConsiderationId,
    source.id, targetStartDate, targetEndDate, completionDeadlineAt⟩] }

/-- The transaction of `createExtension`. -/
def createExtension (s : State) (call : Nat) : Except ChangeError State :=
  match s.prepared[call]? with
  | none => .error changeNotFound
  | some p => do
    assertExtensionSourceOrder s.order
    require ((findLast effective s.rows).map (·.id) == some p.sourceSegmentId)
      ⟨"SOURCE_CONTRACT_SEGMENT_CHANGED",
        "The source contract segment changed while the extension was being created."⟩
    s.addChange
      { id := s.changes.length
        status := .draft
        version := 0
        sourceSegmentId := none
        renewalConsiderationId := p.renewalConsiderationId
        completionDeadlineAt := p.completionDeadlineAt
        detail := .extension ⟨p.extensionMonths, p.pricingMode, p.sourceSegmentId,
          p.targetStartDate, p.targetEndDate, none⟩
        quotes := []
        currentQuoteId := none
        confirmedQuoteId := none
        customerConfirmationPublished := false
        contract := none
        failureCode := none }

def findConsideration (s : State) (id : Id) : Except ChangeError RenewalConsideration :=
  match s.considerations[id]? with
  | some consideration => .ok consideration
  | none => .error ⟨"NOT_FOUND", "Not found."⟩

/-- The customer's decision on a renewal; to renew creates an extension by `periodMonths`, the months
of the order. -/
def decideRenewal (s : State) (id : Id) (version : Nat) (decision : RenewalDecision)
    (periodMonths : Int) : Except ChangeError State := do
  let consideration ← findConsideration s id
  match consideration.decision with
  | some recorded =>
    if recorded = decision then pure s
    else .error ⟨"CONFLICT", "A different renewal decision has already been recorded."⟩
  | none => do
    require (consideration.version == version) ⟨"CONFLICT", "The renewal record was updated."⟩
    require (s.now < consideration.completionDeadlineAt)
      ⟨"CONFLICT", "The renewal decision deadline has passed."⟩
    let (s, status) ← match decision, s.segments[consideration.segmentId]? with
      | .renew, some segment => do
        require (!s.changes.any fun c => c.status.live)
          ⟨"CONFLICT", "The order already has an active subscription change."⟩
        let extensionMonths := max 1 periodMonths
        let targetStartDate := addUtcDays segment.endDate 1
        let targetEndDate := addUtcDays (addCalendarMonths targetStartDate extensionMonths) (-1)
        let s ← s.addChange
          { id := s.changes.length
            status := .draft
            version := 0
            sourceSegmentId := none
            renewalConsiderationId := some id
            completionDeadlineAt := consideration.completionDeadlineAt
            detail := .extension ⟨extensionMonths, .currentVersion, consideration.segmentId,
              targetStartDate, targetEndDate, none⟩
            quotes := []
            currentQuoteId := none
            confirmedQuoteId := none
            customerConfirmationPublished := false
            contract := none
            failureCode := none }
        pure (s, ConsiderationStatus.renewalRequested)
      | .renew, none => .error ⟨"NOT_FOUND", "Not found."⟩
      | .expire, _ => pure (s, ConsiderationStatus.expiryConfirmed)
    pure (s.setConsideration (some id) fun c =>
      { c with decision := some decision, status := status, version := c.version + 1 })

/-! ## Quotes -/

/-- A formal quote with the terms that the pricing yields. -/
def createFormalQuote (s : State) (id : Id) (version : Nat) (actorId : Id) (pricing : Pricing)
    (quoteValidityHours : Int) : Except ChangeError State := do
  let (change, detail) ← findExtension s id
  assertVersionMatches change.version version
  assertQuoteMutable change
  assertBeforeDeadline s.now change.completionDeadlineAt
  require s.order.vehicle.isSome
    ⟨"ORDER_VEHICLE_REQUIRED", "A leased vehicle is required for extension pricing."⟩
  let superseded := change.quotes.modify (change.quotes.length - 1) fun quote =>
    if quote.status = .formal then { quote with status := .superseded } else quote
  let validUntil := min (s.now + quoteValidityHours * 3600000) change.completionDeadlineAt
  let s := s.setChange id fun change =>
    { change with
      customerConfirmationPublished := false
      quotes := superseded ++ [⟨.formal, actorId, validUntil, detail.pricingMode, pricing⟩]
      currentQuoteId := some superseded.length
      detail := match change.detail with
        | .extension detail => .extension { detail with priceOverrideApprovedBy := none }
        | .vehicleSwap => .vehicleSwap
      status := .quoted
      version := change.version + 1 }
  pure (s.setConsideration change.renewalConsiderationId fun c =>
    if c.status = .renewalRequested then
      { c with status := .extensionInProgress, version := c.version + 1 }
    else c)

def approvePriceOverride (s : State) (id : Id) (version : Nat) (actorId : Id) (reason : String) :
    Except ChangeError State :=
  runChangeCommand s id version fun change detail => do
    require (detail.pricingMode != .currentVersion) ⟨"PRICE_OVERRIDE_NOT_REQUIRED",
      "Current-version pricing does not require a price override approval."⟩
    require (change.currentQuote.any (·.status == .formal)) ⟨"CURRENT_FORMAL_QUOTE_REQUIRED",
      "A current formal quote is required before approving a price exception."⟩
    require (!change.currentQuote.any (·.createdBy == actorId))
      ⟨"PRICE_OVERRIDE_SELF_APPROVAL_FORBIDDEN",
        "The price override approver must differ from the extension submitter."⟩
    require (!isBlank reason)
      ⟨"PRICE_OVERRIDE_REASON_REQUIRED", "Approval reason is required."⟩
    pure (s.setChange id fun change =>
      { change with
        detail := .extension { detail with priceOverrideApprovedBy := some actorId }
        version := change.version + 1 })

def submitCustomerConfirmation (s : State) (id : Id) (version : Nat) : Except ChangeError State :=
  runChangeCommand s id version fun change detail => do
    require (change.status == .quoted) ⟨"CHANGE_NOT_READY_FOR_CUSTOMER",
      "Only a quoted change can be published to the customer."⟩
    require (!change.customerConfirmationPublished) ⟨"PUBLISHED_QUOTE_IMMUTABLE",
      "A published extension quote cannot be republished or replaced."⟩
    require (detail.pricingMode == .currentVersion || detail.priceOverrideApprovedBy.isSome)
      ⟨"PRICE_OVERRIDE_APPROVAL_REQUIRED", "Original-price and discounted quotes require " ++
        "independent approval before customer publication."⟩
    require (change.currentQuote.any fun quote => quote.status == .formal && s.now < quote.validUntil)
      ⟨"CURRENT_QUOTE_NOT_PUBLISHABLE", "The current formal quote is missing or expired."⟩
    pure (s.setChange id fun change =>
      { change with customerConfirmationPublished := true, version := change.version + 1 })

/-- The published quote of the revision, which the customer can still decide on. -/
def assertExactPublishableQuote (change : ChangeOrder) (quoteId : Nat) (now : Int) :
    Except ChangeError Unit :=
  require (change.status == .quoted && change.customerConfirmationPublished &&
    change.currentQuoteId == some quoteId &&
    change.currentQuote.any fun quote => quote.status == .formal && now < quote.validUntil)
    ⟨"CONFLICT", "The published quote revision is stale or unavailable."⟩

def setQuote (status : QuoteStatus) (quoteId : Nat) (change : ChangeOrder) : ChangeOrder :=
  { change with quotes := change.quotes.modify quoteId fun quote => { quote with status := status } }

/-- The customer's command on a published quote. -/
def decideQuote (s : State) (id : Id) (version : Nat) (quoteId : Nat)
    (update : ChangeOrder → ChangeOrder) : Except ChangeError (ChangeOrder × State) := do
  let (change, _) ← findExtension s id
  require (change.version == version) ⟨"CONFLICT", "The renewal record was updated."⟩
  require (s.now < change.completionDeadlineAt)
    ⟨"CONFLICT", "The renewal decision deadline has passed."⟩
  assertExactPublishableQuote change quoteId s.now
  pure (change, s.setChange id fun change =>
    { update change with version := change.version + 1 })

def confirmQuote (s : State) (id : Id) (version : Nat) (quoteId : Nat) :
    Except ChangeError State := do
  let (_, s) ← decideQuote s id version quoteId fun change =>
    { setQuote .customerConfirmed quoteId change with
      confirmedQuoteId := some quoteId
      status := .customerConfirmed }
  pure s

def rejectQuote (s : State) (id : Id) (version : Nat) (quoteId : Nat) (reason : String) :
    Except ChangeError State := do
  require (!isBlank reason)
    ⟨"CONFLICT", "A quote rejection reason is required."⟩
  let (change, s) ← decideQuote s id version quoteId fun change =>
    { setQuote .customerRejected quoteId change with status := .cancelled }
  pure (s.setConsideration change.renewalConsiderationId fun c =>
    { c with status := .renewalRequested, version := c.version + 1 })

/-! ## Cancellation and takeover -/

def cancellable : ChangeStatus → Bool
  | .draft | .quoted | .customerConfirmed | .signingOrPayment | .manualTakeover => true
  | _ => false

def cancel (s : State) (id : Id) (version : Nat) (reason : String) : Except ChangeError State :=
  runChangeCommand s id version fun change _ => do
    assertNoContractGenerationInProgress change
    require (cancellable change.status) ⟨"SUBSCRIPTION_CHANGE_NOT_CANCELLABLE",
      "The change can no longer be cancelled directly."⟩
    require (!isBlank reason)
      ⟨"CANCEL_REASON_REQUIRED", "A cancellation reason is required."⟩
    pure (s.setChange id fun change =>
      { change with status := .cancelled, version := change.version + 1 })

def manualTakeover (s : State) (id : Id) (version : Nat) (reason : String) :
    Except ChangeError State :=
  runChangeCommand s id version fun change _ => do
    assertNoContractGenerationInProgress change
    require (change.status != .completed && change.status != .cancelled)
      ⟨"SUBSCRIPTION_CHANGE_FINAL", "A final change cannot enter manual takeover."⟩
    require (!isBlank reason)
      ⟨"MANUAL_TAKEOVER_REASON_REQUIRED", "A manual takeover reason is required."⟩
    -- a change that was not live counts again for the one live change of the order
    require (change.status.live || !s.changes.any fun c => c.status.live) uniqueViolation
    pure (s.setChange id fun change =>
      { change with status := .manualTakeover, version := change.version + 1 })

/-! ## The agreement -/

def assertGeneratable (s : State) (change : ChangeOrder) (detail : ExtensionDetail) :
    Except ChangeError Unit := do
  require (change.status == .customerConfirmed) ⟨"EXTENSION_CUSTOMER_CONFIRMATION_REQUIRED",
    "The exact extension quote must be confirmed before generating the agreement."⟩
  require (change.confirmedQuote.any (·.status == .customerConfirmed))
    ⟨"EXTENSION_CONFIRMED_QUOTE_REQUIRED", "A customer-confirmed extension quote is required."⟩
  require (s.now < change.completionDeadlineAt)
    ⟨"EXTENSION_DEADLINE_PASSED", "The extension completion deadline has passed."⟩
  require s.order.vehicle.isSome
    ⟨"EXTENSION_VEHICLE_REQUIRED", "The extension order must have a vehicle."⟩
  require ((s.segments[detail.sourceSegmentId]?.bind (·.sourceContractId)).isSome)
    ⟨"EXTENSION_ORIGINAL_CONTRACT_REQUIRED",
      "An archived original contract is required for an extension agreement."⟩

/-- Reserves the agreement before it is rendered. -/
def reserveGeneration (s : State) (id : Id) (version : Nat) (contractId : Id)
    (contractSnapshot : Json) : Except ChangeError State := do
  let (change, detail) ← findExtension s id
  require (!change.contract.any (·.status != .cancelled))
    ⟨"CONTRACT_GENERATION_IN_PROGRESS", "The extension contract is being generated."⟩
  assertVersionMatches change.version version
  assertGeneratable s change detail
  pure (s.setChange id fun change =>
    { change with contract := some ⟨contractId, .generated, false, contractSnapshot⟩ })

def finalizeGeneration (s : State) (id : Id) (version : Nat) (contractId : Id) :
    Except ChangeError State := do
  let (change, detail) ← findExtension s id
  require (change.contract.any fun c => c.id == contractId && !c.rendered)
    ⟨"IDEMPOTENCY_RESOURCE_MISSING", "The reserved extension contract is missing."⟩
  assertVersionMatches change.version version
  assertGeneratable s change detail
  pure (s.setChange id fun change =>
    { change with
      contract := change.contract.map fun c => { c with rendered := true }
      status := .signingOrPayment
      version := change.version + 1 })

/-- Gives up a reservation whose rendering has failed. -/
def abortGenerationReservation (s : State) (id : Id) (contractId : Id) :
    Except ChangeError State := do
  let (change, _) ← findExtension s id
  require (change.contract.any fun c => c.id == contractId && !c.rendered)
    ⟨"IDEMPOTENCY_RESOURCE_MISSING", "The reserved extension contract is missing."⟩
  pure (s.setChange id fun change => { change with contract := none })

/-! ## The archive -/

inductive ArchiveOutcome
  | duplicate | lateEvidenceOnly | scheduled
  deriving DecidableEq

def expiryWinsChange : ChangeStatus → Bool
  | .cancelled | .failed | .manualTakeover => true
  | _ => false

def expiryWinsConsideration : ConsiderationStatus → Bool
  | .expired | .expiryConfirmed | .cancelled => true
  | _ => false

def expiryWins (change : ChangeOrder) (considerationStatus : Option ConsiderationStatus)
    (decisionAt : Int) : Bool :=
  change.completionDeadlineAt ≤ decisionAt || expiryWinsChange change.status ||
    considerationStatus.any expiryWinsConsideration

def stateInvalid : ChangeError := ⟨"STAGE3_EXTENSION_STATE_INVALID",
  "The extension cannot be scheduled from its current state."⟩

/-- The extension segment of a change. -/
def extensionSegment (s : State) (change : ChangeOrder) (detail : ExtensionDetail)
    (source : Segment) (quote : Quote) (contract : Supplement) : Segment where
  id := s.segments.length
  sequenceNo := source.sequenceNo + 1
  status := .scheduled
  startDate := detail.targetStartDate
  endDate := detail.targetEndDate
  monthlyFeeAmount := quote.pricing.monthlyFeeAmount
  sourceChangeOrderId := some change.id
  sourceSegmentId := some detail.sourceSegmentId
  segmentType := .extension
  activatedAt := none
  sourceContractId := some contract.id
  subscriptionPlanId := quote.pricing.subscriptionPlanId
  productId := quote.pricing.productId
  productVersionId := quote.pricing.productVersionId
  mileageLimitKm := quote.pricing.mileageLimitKm
  overMileageFeeAmount := quote.pricing.overMileageFeeAmount
  energyLimitKwh := quote.pricing.energyLimitKwh
  energyLimitCount := quote.pricing.energyLimitCount
  planSnapshot := quote.pricing.planSnapshot
  entitlementKeys := quote.pricing.entitlementKeys
  quoteSnapshot := quote.pricing.quoteSnapshot
  contractSnapshot := contract.contractSnapshot

/-- The segment that a change has appended. -/
def State.targetSegment (s : State) (changeId : Id) : Option Segment :=
  s.segments.find? fun g => g.sourceChangeOrderId == some changeId

def archiveContract (change : ChangeOrder) : ChangeOrder :=
  { change with contract := change.contract.map fun c => { c with status := .archived } }

/-- The signed agreement of an extension arrives; `evidence` tells that its task is completed and its
signed file kept. -/
def finalizeArchivedContract (s : State) (id : Id) (evidence : Bool) :
    Except ChangeError (ArchiveOutcome × State) := do
  let (change, detail) ← findExtension s id
  require (change.contract.isSome && evidence) ⟨"STAGE3_SIGNED_ARTIFACT_REQUIRED",
    "A completed Stage 3 task with a retained signed PDF is required."⟩
  if change.status == .scheduled && (s.targetSegment change.id).isSome then
    pure (.duplicate, s)
  else
    let archived := s.setChange id archiveContract
    let considerationStatus :=
      (change.renewalConsiderationId.bind (s.considerations[·]?)).map (·.status)
    if expiryWins change considerationStatus s.now then
      pure (.lateEvidenceOnly, archived)
    else
      match change.confirmedQuote, change.contract, s.segments[detail.sourceSegmentId]? with
      | some quote, some contract, some source => do
        require (change.status == .signingOrPayment &&
          detail.targetStartDate == addUtcDays source.endDate 1) stateInvalid
        require (considerationStatus.all fun status =>
          status == .extensionInProgress || status == .renewalRequested) stateInvalid
        let segment := extensionSegment s change detail source quote contract
        let s ← archived.addSegment segment
        let s := s.enqueue .extensionSegmentActivate segment.id change.id
        let s := s.setChange id fun change =>
          { change with status := .scheduled, version := change.version + 1 }
        pure (.scheduled, s.setConsideration change.renewalConsiderationId fun c =>
          { c with status := .extended, version := c.version + 1 })
      | _, _, _ => .error stateInvalid

/-! ## The jobs -/

/-- The jobs that follow the activation. -/
def continuationJobs (segment : Segment) : List JobType :=
  .extensionBillingResume :: .extensionEffectiveNotice ::
    (if segment.entitlementKeys = [] then ["ACCOUNT"] else segment.entitlementKeys).map
      .extensionEntitlementRenew

def enqueueContinuationJobs (s : State) (segment : Segment) (changeId : Id) : State :=
  (continuationJobs segment).foldl (fun s jobType => s.enqueue jobType segment.id changeId) s

def Segment.completed (segment : Segment) : Segment := { segment with status := .completed }

def Segment.activated (now : Int) (segment : Segment) : Segment :=
  { segment with status := .active, activatedAt := some now }

/-- The segment of an extension takes over from its source. -/
def activate (s : State) (segmentId : Id) : Except ChangeError State :=
  match s.segments[segmentId]? with
  | none => .error ⟨"EXTENSION_ACTIVATION_SOURCE_MISSING",
      "The scheduled extension segment and change order are required."⟩
  | some segment =>
    match segment.sourceChangeOrderId with
    | none => .error ⟨"EXTENSION_ACTIVATION_SOURCE_MISSING",
        "The scheduled extension segment and change order are required."⟩
    | some changeId => do
      let (change, detail) ← findExtension s changeId
      require (shanghaiStartOfDate segment.startDate ≤ s.now) ⟨"EXTENSION_ACTIVATION_NOT_DUE",
        "The extension segment has not reached its effective date."⟩
      if segment.status = .scheduled ∧ change.status = .scheduled then do
        require (s.segments[detail.sourceSegmentId]?.any (·.status == .active))
          ⟨"EXTENSION_ACTIVATION_CONFLICT",
            "The extension activation state changed concurrently."⟩
        let s := s.setSegment detail.sourceSegmentId Segment.completed
        require (!s.segments.any fun g => g.status == .active) uniqueViolation
        let s := s.setSegment segmentId (Segment.activated s.now)
        let s := s.setChange changeId fun change =>
          { change with status := .executing, failureCode := none, version := change.version + 1 }
        pure (enqueueContinuationJobs s segment changeId)
      else do
        require (segment.status == .active &&
          (change.status == .executing || change.status == .completed))
          ⟨"EXTENSION_ACTIVATION_STATE_INVALID",
            "The extension cannot be activated from its current state."⟩
        pure (enqueueContinuationJobs s segment changeId)

def jobOpen (job : Job) : Bool := job.jobStatus == .pending || job.jobStatus == .processing

/-- A worker handles the job; `succeeds` tells whether the billing, the entitlements or the notice
that a later job is about could be done. -/
def handle (s : State) (jobId : Id) (succeeds : Bool) : Except ChangeError State :=
  match s.jobs[jobId]? with
  | none => .error changeNotFound
  | some job => do
    require (jobOpen job) ⟨"NOT_CLAIMED", "The job is not due."⟩
    let s ← match job.jobType with
      | .extensionSegmentActivate => activate s job.contractSegmentId
      | _ => do
        require succeeds ⟨"SUBSCRIPTION_CHANGE_JOB_FAILED", "Subscription change job failed."⟩
        pure s
    pure (s.setJob jobId fun job => { job with jobStatus := .processing, handled := true })

/-- The completion of a handled job. -/
def completeJob (s : State) (jobId : Id) : Except ChangeError State :=
  match s.jobs[jobId]? with
  | none => .error changeNotFound
  | some job => do
    require (job.jobStatus == .processing && job.handled) ⟨"LEASE_LOST", "The lease was lost."⟩
    pure (s.setJob jobId fun job => { job with jobStatus := .completed })

def jobFailed : String := "SUBSCRIPTION_CHANGE_JOB_FAILED"

def Job.deadLettered (job : Job) : Job :=
  { job with jobStatus := .deadLetter, lastErrorCode := some jobFailed }

/-- A job that is out of attempts; its change is marked in a transaction of its own. -/
def deadLetter (s : State) (jobId : Id) : Except ChangeError State :=
  match s.jobs[jobId]? with
  | none => .error changeNotFound
  | some job => do
    require (jobOpen job) ⟨"LEASE_LOST", "The lease was lost."⟩
    pure { s.setJob jobId Job.deadLettered with takeovers := s.takeovers ++ [jobId] }

/-- The worker marks the change of a job that is out of attempts. -/
def markManualTakeover (s : State) (jobId : Id) : Except ChangeError State :=
  match s.jobs[jobId]? with
  | none => .error changeNotFound
  | some job => do
    require (s.takeovers.contains jobId) changeNotFound
    pure { s.setChange job.changeOrderId fun change =>
        if change.status = .scheduled ∨ change.status = .executing then
          { change with
            status := .manualTakeover
            failureCode := some jobFailed
            version := change.version + 1 }
        else change with
      takeovers := s.takeovers.erase jobId }

def completeIfReady (s : State) (id : Id) : Except ChangeError State :=
  match s.changes[id]? with
  | none => .error changeNotFound
  | some change => do
    let jobs := s.jobs.filter fun j =>
      j.changeOrderId == id && j.jobType != .extensionSegmentActivate
    require (change.status == .executing &&
      [JobType.extensionBillingResume, .extensionEffectiveNotice].all (fun jobType =>
        jobs.any fun j => j.jobType == jobType) &&
      jobs.all fun j => j.jobStatus == .completed) ⟨"NOT_READY", "The change is not ready."⟩
    pure (s.setChange id fun change =>
      { change with status := .completed, failureCode := none, version := change.version + 1 })

def Job.reopened (job : Job) : Job :=
  { job with jobStatus := .pending, handled := false, lastErrorCode := none }

def retryAutomationJob (s : State) (id : Id) (jobId : Id) (version : Nat) :
    Except ChangeError State := do
  let (change, _) ← findExtension s id
  assertVersionMatches change.version version
  require (change.status == .manualTakeover) ⟨"SUBSCRIPTION_CHANGE_JOB_RETRY_NOT_ALLOWED",
    "Only a worker-owned manual takeover can retry an extension execution job."⟩
  match s.jobs[jobId]? with
  | none => .error ⟨"SUBSCRIPTION_CHANGE_JOB_NOT_FOUND",
      "The subscription change automation job was not found."⟩
  | some job => do
    require (job.changeOrderId == id) ⟨"SUBSCRIPTION_CHANGE_JOB_NOT_FOUND",
      "The subscription change automation job was not found."⟩
    require (job.jobStatus == .deadLetter) ⟨"SUBSCRIPTION_CHANGE_JOB_NOT_RETRYABLE",
      "Only dead-lettered extension execution jobs can be retried."⟩
    require (some job.contractSegmentId == (s.targetSegment change.id).map (·.id) &&
      job.lastErrorCode.isSome && change.failureCode == job.lastErrorCode)
      ⟨"SUBSCRIPTION_CHANGE_JOB_RETRY_NOT_ALLOWED",
        "The failed job does not match the current target-segment manual takeover."⟩
    let s := s.setJob jobId Job.reopened
    pure (s.setChange id fun change =>
      { change with
        failureCode := none
        status := if job.jobType = .extensionSegmentActivate then .scheduled else .executing
        version := change.version + 1 })

end SubscriptionSaas.Change
