import SubscriptionSaas.FleetOps.OperationalState

/-!
# The resolver of operational states

The signals of a vehicle are sorted, and the first of them that is trusted enough gives the state of the
vehicle. The other signals support it or are in conflict with it.
-/

namespace SubscriptionSaas.FleetOps

variable {ι : Type}

/-- The place of the name of a source in the locale. -/
def VehicleOperationalStateSource.rank : VehicleOperationalStateSource → Nat
  | .conditionReport => 0
  | .lease => 1
  | .operationalRestriction => 2
  | .order => 3
  | .serviceCase => 4
  | .system => 5
  | .vehicle => 6

/-- The comparison of two signals does not say that the right one comes first; the order of the ids is that
of the locale. -/
def comesBefore [LinearOrder ι] (left right : Signal ι) : Prop :=
  if right.priority ≠ left.priority then right.priority - left.priority ≤ 0
  else if left.source.rank ≠ right.source.rank then left.source.rank < right.source.rank
  else left.sourceId ≤ right.sourceId

instance [LinearOrder ι] : DecidableRel (comesBefore : Signal ι → Signal ι → Prop) := fun left right =>
  inferInstanceAs (Decidable (if right.priority ≠ left.priority then right.priority - left.priority ≤ 0
    else if left.source.rank ≠ right.source.rank then left.source.rank < right.source.rank
    else left.sourceId ≤ right.sourceId))

def sortSignals [LinearOrder ι] (signals : List (Signal ι)) : List (Signal ι) :=
  signals.insertionSort comesBefore

/-- `recordedAt` and `freshnessDate` of a signal are one date. -/
def signal (fields : EvidenceFields ι) (reason : String) (date : Option Int)
    (source : VehicleOperationalStateSource) (sourceId : ι) (state : VehicleComputedOperationalState) :
    Signal ι :=
  { direct := true
    evidence := { fields, reason, recordedAt := date, source, sourceId := some sourceId }
    freshnessDate := date
    priority := priorityForState state
    source
    sourceId
    state }

/-! ## The signals of the records -/

/-- The signal of a vehicle that is not retired. -/
def vehicleSignal (vehicle : VehicleSnapshot ι) (reason : String)
    (state : VehicleComputedOperationalState) : Signal ι :=
  signal (.vehicle vehicle.status vehicle.vehicleNo) reason (vehicle.updatedAt <|> vehicle.createdAt)
    .vehicle vehicle.id state

def signalOfVehicle (vehicle : VehicleSnapshot ι) : Option (Signal ι) :=
  if vehicle.deletedAt.isSome || isInactiveVehicleStatus vehicle.status then
    some (signal (.inactiveVehicle vehicle.deletedAt vehicle.status vehicle.vehicleNo)
      (if vehicle.deletedAt.isSome then "Vehicle is soft-deleted." else "Vehicle status is retired.")
      (vehicle.updatedAt <|> vehicle.createdAt) .vehicle vehicle.id .retiredOrInactive)
  else if isVehicleLeasedStatus vehicle.status then
    some (vehicleSignal vehicle "Vehicle status indicates leased or rented usage." .leasedActive)
  else if isVehicleServiceBlockedStatus vehicle.status then
    some (vehicleSignal vehicle "Vehicle status indicates maintenance." .serviceBlocked)
  else if isVehicleOrderLockedStatus vehicle.status then
    some (vehicleSignal vehicle "Vehicle status indicates reserved or review-reserved."
      .reservedOrOrderLocked)
  else if isVehicleAvailableStatus vehicle.status then
    some (vehicleSignal vehicle "Vehicle status is available." .available)
  else if isVehiclePreparationStatus vehicle.status then
    some (vehicleSignal vehicle "Vehicle status indicates preparation." .preparation)
  else none

def vehicleSignals (input : VehicleOperationalStateInput ι) : List (Signal ι) :=
  (input.vehicle.bind signalOfVehicle).toList

def leaseSignals (input : VehicleOperationalStateInput ι) : List (Signal ι) :=
  (input.leases.filter fun lease => lease.deletedAt.isNone && isActiveLeaseStatus lease.status).map
    fun lease => signal (.lease lease.activatedAt lease.orderId lease.status) "Lease status is active."
      (lease.activatedAt <|> lease.updatedAt <|> lease.createdAt) .lease lease.id .leasedActive

/-- An active restriction that blocks and has begun. -/
def governs (asOf : Int) (restriction : RestrictionSnapshot ι) : Bool :=
  restriction.status == .active && restriction.severity == .blocking && restriction.startedAt ≤ asOf

def operationalRestrictionSignal (restriction : RestrictionSnapshot ι) : Signal ι :=
  signal (.operationalRestriction restriction.restrictionType restriction.scopes restriction.severity
      restriction.startSourceId restriction.startSourceKey restriction.startSourceType
      restriction.workOrderId)
    "Active blocking operational restriction governs vehicle availability."
    (some restriction.startedAt) .operationalRestriction restriction.id .operationallyRestricted

def operationalRestrictionSignals (input : VehicleOperationalStateInput ι) : List (Signal ι) :=
  (input.operationalRestrictions.filter (governs input.asOf)).map operationalRestrictionSignal

def orderSignal (order : OrderSnapshot ι) : Option (Signal ι) :=
  let fields := .order order.orderNo order.orderStatus order.vehicleId
  if isActiveOrderStatus order.orderStatus then
    some (signal fields "Order status is active."
      (order.actualDeliveryAt <|> order.updatedAt <|> order.createdAt) .order order.id .leasedActive)
  else if isOrderLockedStatus order.orderStatus then
    some (signal fields "Order status locks or reserves the vehicle." (order.updatedAt <|> order.createdAt)
      .order order.id .reservedOrOrderLocked)
  else none

def orderSignals (input : VehicleOperationalStateInput ι) : List (Signal ι) :=
  (input.orders.filter (·.deletedAt.isNone)).filterMap orderSignal

def serviceCaseSignals (input : VehicleOperationalStateInput ι) : List (Signal ι) :=
  (input.serviceCases.filter fun serviceCase =>
    serviceCase.deletedAt.isNone && isBlockingServiceCase serviceCase).map fun serviceCase =>
      signal (.serviceCase serviceCase.caseNo serviceCase.caseStatus serviceCase.caseType
          serviceCase.priority)
        "Open service case blocks normal vehicle availability." (serviceCaseFreshnessDate serviceCase)
        .serviceCase serviceCase.id .serviceBlocked

def reportSortTime (report : ConditionReportSnapshot ι) : Int := (reportFreshnessDate report).getD 0

def latestRelevantConditionReport (reports : List (ConditionReportSnapshot ι)) :
    Option (ConditionReportSnapshot ι) :=
  ((reports.filter isRelevantConditionReport).insertionSort fun left right =>
    reportSortTime right - reportSortTime left ≤ 0).head?

def conditionReportSignal (report : ConditionReportSnapshot ι) : Signal ι :=
  signal (.conditionReport report.hasFireDamage report.hasFloodDamage report.hasMajorAccident
      report.hasStructuralDamage report.reportNo report.reportStatus)
    "Latest relevant condition report blocks normal vehicle availability." (reportFreshnessDate report)
    .conditionReport report.id .conditionBlocked

def conditionReportSignals (input : VehicleOperationalStateInput ι) : List (Signal ι) :=
  match latestRelevantConditionReport input.conditionReports with
  | none => []
  | some latestReport =>
    if isBlockingConditionReport latestReport then [conditionReportSignal latestReport] else []

def buildSignals [LinearOrder ι] (input : VehicleOperationalStateInput ι) : List (Signal ι) :=
  sortSignals (vehicleSignals input ++ leaseSignals input ++ operationalRestrictionSignals input ++
    orderSignals input ++ serviceCaseSignals input ++ conditionReportSignals input)

/-! ## The resolution -/

structure Conflict (ι : Type) where
  priority : Int
  reason : String
  source : VehicleOperationalStateSource
  sourceId : ι
  state : VehicleComputedOperationalState

structure VehicleOperationalStateResult (ι : Type) where
  asOf : Int
  computedState : VehicleComputedOperationalState
  confidenceBand : VehicleOperationalConfidenceBand
  confidenceScore : Int
  conflicts : List (Conflict ι)
  primaryEvidence : Evidence ι
  supportingEvidence : List (Evidence ι)
  vehicleId : Option ι
  warnings : List String

def toConflict (signal : Signal ι) : Conflict ι :=
  { priority := signal.priority, reason := signal.evidence.reason, source := signal.source,
    sourceId := signal.sourceId, state := signal.state }

def uniqueStrings (values : List String) : List String := (values.filter (· ≠ "")).eraseDups

/-- An order that looks active. -/
def activeLikeOrder (order : OrderSnapshot ι) : Bool :=
  order.deletedAt.isNone &&
    (isActiveOrderStatus order.orderStatus || isOrderLockedStatus order.orderStatus)

def buildWarnings (input : VehicleOperationalStateInput ι) (candidate : Signal ι)
    (conflicts : List (Signal ι)) (confidencePenalties : List String) : List String :=
  let hasActiveUsageConflict := conflicts.any (·.state = .leasedActive)
  let hasInactiveWinner := candidate.state = .retiredOrInactive
  uniqueStrings (confidencePenalties ++
    (if hasInactiveWinner ∧ hasActiveUsageConflict then
      ["Vehicle inactive signal conflicts with active lease or order evidence."] else []) ++
    (if 1 < (input.orders.filter activeLikeOrder).length then
      ["Multiple active-looking orders reference the same vehicle."] else []))

/-- The candidate reaches the threshold. -/
def trusted (asOf : Int) (signals : List (Signal ι)) (candidate : Signal ι) : Bool :=
  MINIMUM_RESOLUTION_CONFIDENCE ≤
    (calculateVehicleOperationalStateConfidence asOf candidate signals).score

variable [LinearOrder ι]

def unknownResult (input : VehicleOperationalStateInput ι) (signals : List (Signal ι)) :
    VehicleOperationalStateResult ι :=
  let evidence : Evidence ι :=
    { fields := .signalCount signals.length
      reason := if signals.length = 0 then "No usable source signal."
        else "No source signal reached the confidence threshold."
      recordedAt := some input.asOf
      source := .system
      sourceId := none }
  { asOf := input.asOf
    computedState := .unknown
    confidenceBand := .unknown
    confidenceScore := 0
    conflicts := (sortSignals signals).map toConflict
    primaryEvidence := evidence
    supportingEvidence := []
    vehicleId := input.vehicle.map (·.id)
    warnings := [evidence.reason] }

/-- The signals of the candidate's state but the candidate. Of signals that are alike it does not matter
which one is taken away. -/
def supportingSignals (candidate : Signal ι) (signals : List (Signal ι)) : List (Signal ι) :=
  sortSignals ((signals.erase candidate).filter (·.state = candidate.state))

def conflictingSignals (candidate : Signal ι) (signals : List (Signal ι)) : List (Signal ι) :=
  sortSignals (signals.filter (·.state ≠ candidate.state))

/-- The result of a candidate that is trusted. -/
def resolvedResult (input : VehicleOperationalStateInput ι) (signals : List (Signal ι))
    (candidate : Signal ι) : VehicleOperationalStateResult ι :=
  let confidence := calculateVehicleOperationalStateConfidence input.asOf candidate signals
  { asOf := input.asOf
    computedState := candidate.state
    confidenceBand := confidence.band
    confidenceScore := confidence.score
    conflicts := (conflictingSignals candidate signals).map toConflict
    primaryEvidence := candidate.evidence
    supportingEvidence := (supportingSignals candidate signals).map (·.evidence)
    vehicleId := input.vehicle.map (·.id)
    warnings := buildWarnings input candidate (conflictingSignals candidate signals)
      confidence.penalties }

def resolve (input : VehicleOperationalStateInput ι) : VehicleOperationalStateResult ι :=
  let signals := buildSignals input
  let candidates := sortSignals signals
  match candidates.find? (trusted input.asOf signals) with
  | some candidate => resolvedResult input signals candidate
  | none => unknownResult input signals

end SubscriptionSaas.FleetOps
