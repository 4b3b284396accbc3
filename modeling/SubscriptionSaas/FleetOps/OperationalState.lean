import Mathlib.Data.List.Dedup
import Mathlib.Data.List.Sort

/-!
# The operational state of a vehicle

What the records of a vehicle say about it, as signals of states, and how far a signal is trusted. Ids
are of a type in which the locale compares them; dates are in milliseconds.
-/

namespace SubscriptionSaas.FleetOps

inductive VehicleOperationalRestrictionType
  | returnInspectionPending | reinspectionPending | reconditioningPending | maintenanceOrAccident
  | recoveryInProgress | legalHold | evidenceException | ownershipException | other
  deriving DecidableEq

inductive VehicleOperationalRestrictionScope
  | allocation | delivery | customerUse | inventoryRelease
  deriving DecidableEq

inductive VehicleOperationalRestrictionStatus
  | active | released | voided
  deriving DecidableEq

inductive VehicleOperationalRestrictionSeverity
  | advisory | blocking
  deriving DecidableEq

inductive LeaseStatus
  | notActive | ready | active | returnDue | completed
  deriving DecidableEq

inductive OrderStatus
  | pendingReview | pendingCustomerConfirmation | pendingContract | pendingSign | pendingPayment
  | pendingVehicle | pendingDelivery | active | suspended | pendingReturn | returnedPendingSettlement
  | terminated | completed | cancelled | rejected
  deriving DecidableEq

inductive ServiceCasePriority
  | low | normal | high | urgent
  deriving DecidableEq

inductive ServiceCaseStatus
  | submitted | accepted | inProgress | waitingCustomer | resolved | closed | cancelled
  deriving DecidableEq

inductive ServiceCaseType
  | accidentReport | rescueRequest | customerSupport
  deriving DecidableEq

inductive VehicleConditionItemResult
  | normal | attention | abnormal | repaired | unknown
  deriving DecidableEq

inductive VehicleConditionItemSeverity
  | minor | moderate | major | safetyCritical
  deriving DecidableEq

inductive VehicleConditionReportStatus
  | draft | published | archived
  deriving DecidableEq

inductive VehicleStatus
  | draft | inPreparation | available | reviewReserved | reserved | leased | rented | returned
  | maintenance | retired
  deriving DecidableEq

inductive VehicleComputedOperationalState
  | retiredOrInactive | leasedActive | operationallyRestricted | serviceBlocked | conditionBlocked
  | reservedOrOrderLocked | available | preparation | unknown
  deriving DecidableEq

inductive VehicleOperationalConfidenceBand
  | high | medium | low | unknown
  deriving DecidableEq

inductive VehicleOperationalStateSource
  | vehicle | lease | operationalRestriction | order | serviceCase | conditionReport | system
  deriving DecidableEq

/-! ## What is known of a vehicle -/

section Snapshots

variable (ι : Type)

structure VehicleSnapshot where
  createdAt : Option Int := none
  deletedAt : Option Int := none
  id : ι
  status : VehicleStatus
  updatedAt : Option Int := none
  vehicleNo : Option String := none

structure LeaseSnapshot where
  activatedAt : Option Int := none
  createdAt : Option Int := none
  deletedAt : Option Int := none
  id : ι
  orderId : ι
  status : LeaseStatus
  updatedAt : Option Int := none

structure OrderSnapshot where
  actualDeliveryAt : Option Int := none
  createdAt : Option Int := none
  deletedAt : Option Int := none
  id : ι
  orderNo : Option String := none
  orderStatus : OrderStatus
  updatedAt : Option Int := none
  vehicleId : Option ι := none

structure ServiceCaseSnapshot where
  caseNo : Option String := none
  caseStatus : ServiceCaseStatus
  caseType : ServiceCaseType
  createdAt : Option Int := none
  deletedAt : Option Int := none
  id : ι
  occurredAt : Option Int := none
  priority : ServiceCasePriority
  updatedAt : Option Int := none

structure ConditionReportItemSnapshot where
  affectsSafety : Option Bool := none
  deletedAt : Option Int := none
  repairRequired : Option Bool := none
  result : VehicleConditionItemResult
  severity : VehicleConditionItemSeverity

structure ConditionReportSnapshot where
  createdAt : Option Int := none
  deletedAt : Option Int := none
  hasFireDamage : Option Bool := none
  hasFloodDamage : Option Bool := none
  hasMajorAccident : Option Bool := none
  hasStructuralDamage : Option Bool := none
  id : ι
  inspectionDate : Option Int := none
  items : List ConditionReportItemSnapshot := []
  publishedAt : Option Int := none
  reportNo : Option String := none
  reportStatus : VehicleConditionReportStatus
  updatedAt : Option Int := none

structure RestrictionSnapshot where
  id : ι
  restrictionType : VehicleOperationalRestrictionType
  scopes : List VehicleOperationalRestrictionScope
  severity : VehicleOperationalRestrictionSeverity
  startSourceId : String
  startSourceKey : String
  startSourceType : String
  startedAt : Int
  status : VehicleOperationalRestrictionStatus
  workOrderId : Option ι := none

/-- The time of the question is given. -/
structure VehicleOperationalStateInput where
  asOf : Int
  conditionReports : List (ConditionReportSnapshot ι)
  leases : List (LeaseSnapshot ι)
  operationalRestrictions : List (RestrictionSnapshot ι)
  orders : List (OrderSnapshot ι)
  serviceCases : List (ServiceCaseSnapshot ι)
  vehicle : Option (VehicleSnapshot ι)

/-! ## Signals -/

inductive EvidenceFields
  | inactiveVehicle (deletedAt : Option Int) (status : VehicleStatus) (vehicleNo : Option String)
  | vehicle (status : VehicleStatus) (vehicleNo : Option String)
  | lease (activatedAt : Option Int) (orderId : ι) (status : LeaseStatus)
  | order (orderNo : Option String) (orderStatus : OrderStatus) (vehicleId : Option ι)
  | serviceCase (caseNo : Option String) (caseStatus : ServiceCaseStatus) (caseType : ServiceCaseType)
      (priority : ServiceCasePriority)
  | conditionReport (hasFireDamage hasFloodDamage hasMajorAccident hasStructuralDamage : Option Bool)
      (reportNo : Option String) (reportStatus : VehicleConditionReportStatus)
  | operationalRestriction (restrictionType : VehicleOperationalRestrictionType)
      (scopes : List VehicleOperationalRestrictionScope)
      (severity : VehicleOperationalRestrictionSeverity) (sourceId sourceKey sourceType : String)
      (workOrderId : Option ι)
  | signalCount (count : Nat)
  deriving DecidableEq

structure Evidence where
  fields : EvidenceFields ι
  reason : String
  recordedAt : Option Int
  source : VehicleOperationalStateSource
  sourceId : Option ι
  deriving DecidableEq

structure Signal where
  direct : Bool
  evidence : Evidence ι
  freshnessDate : Option Int
  priority : Int
  source : VehicleOperationalStateSource
  sourceId : ι
  state : VehicleComputedOperationalState
  deriving DecidableEq

end Snapshots

/-! ## Rules -/

variable {ι : Type}

def MINIMUM_RESOLUTION_CONFIDENCE : Int := 40

def ORDER_LOCKED_STATUSES : List OrderStatus :=
  [.pendingReview, .pendingCustomerConfirmation, .pendingContract, .pendingSign, .pendingPayment,
    .pendingVehicle, .pendingDelivery]

def OPEN_SERVICE_CASE_STATUSES : List ServiceCaseStatus :=
  [.submitted, .accepted, .inProgress, .waitingCustomer]

def BLOCKING_SERVICE_CASE_PRIORITIES : List ServiceCasePriority := [.high, .urgent]

/-- `VEHICLE_OPERATIONAL_STATE_PRIORITY`. -/
def priorityForState : VehicleComputedOperationalState → Int
  | .retiredOrInactive => 100
  | .operationallyRestricted => 95
  | .leasedActive => 90
  | .serviceBlocked => 80
  | .conditionBlocked => 70
  | .reservedOrOrderLocked => 60
  | .available => 50
  | .preparation => 40
  | .unknown => 0

def VEHICLE_OPERATIONAL_SOURCE_BASE_SCORE : VehicleOperationalStateSource → Int
  | .conditionReport => 20
  | .lease => 30
  | .operationalRestriction => 45
  | .order => 25
  | .serviceCase => 20
  | .system => 0
  | .vehicle => 45

def isInactiveVehicleStatus (status : VehicleStatus) : Bool := status == .retired

def isVehiclePreparationStatus (status : VehicleStatus) : Bool :=
  status == .draft || status == .inPreparation

def isVehicleAvailableStatus (status : VehicleStatus) : Bool := status == .available

def isVehicleOrderLockedStatus (status : VehicleStatus) : Bool :=
  status == .reviewReserved || status == .reserved

def isVehicleLeasedStatus (status : VehicleStatus) : Bool := status == .leased || status == .rented

def isVehicleServiceBlockedStatus (status : VehicleStatus) : Bool := status == .maintenance

def isActiveLeaseStatus (status : LeaseStatus) : Bool := status == .active

def isActiveOrderStatus (status : OrderStatus) : Bool := status == .active

def isOrderLockedStatus (status : OrderStatus) : Bool := ORDER_LOCKED_STATUSES.contains status

def isOpenServiceCase (serviceCase : ServiceCaseSnapshot ι) : Bool :=
  OPEN_SERVICE_CASE_STATUSES.contains serviceCase.caseStatus

def isBlockingServiceCase (serviceCase : ServiceCaseSnapshot ι) : Bool :=
  isOpenServiceCase serviceCase &&
    (BLOCKING_SERVICE_CASE_PRIORITIES.contains serviceCase.priority ||
      serviceCase.caseType == .accidentReport || serviceCase.caseType == .rescueRequest)

def isRelevantConditionReport (report : ConditionReportSnapshot ι) : Bool :=
  report.deletedAt.isNone && report.reportStatus == .published

def blockingItem (item : ConditionReportItemSnapshot) : Bool :=
  item.deletedAt.isNone &&
    (item.severity == .safetyCritical || (item.severity == .major && item.result == .abnormal) ||
      item.affectsSafety == some true || item.repairRequired == some true)

def isBlockingConditionReport (report : ConditionReportSnapshot ι) : Bool :=
  isRelevantConditionReport report &&
    (report.hasMajorAccident == some true || report.hasFloodDamage == some true ||
      report.hasFireDamage == some true || report.hasStructuralDamage == some true ||
      report.items.any blockingItem)

def reportFreshnessDate (report : ConditionReportSnapshot ι) : Option Int :=
  report.publishedAt <|> report.inspectionDate <|> report.updatedAt <|> report.createdAt

def serviceCaseFreshnessDate (serviceCase : ServiceCaseSnapshot ι) : Option Int :=
  serviceCase.updatedAt <|> serviceCase.occurredAt <|> serviceCase.createdAt

/-! ## Confidence -/

def RECENT_DAYS : Int := 14

def STALE_DAYS : Int := 90

def MS_PER_DAY : Int := 24 * 60 * 60 * 1000

structure Freshness where
  reason : String
  score : Int

def freshnessScore (date : Option Int) (asOf : Int) : Freshness :=
  match date with
  | none => ⟨"missing freshness date -10", -10⟩
  | some date =>
    let ageDays := max 0 ((asOf - date) / MS_PER_DAY)
    if ageDays ≤ RECENT_DAYS then ⟨"recent evidence +15", 15⟩
    else if STALE_DAYS < ageDays then ⟨"stale evidence -20", -20⟩
    else ⟨"freshness accepted +5", 5⟩

def clampScore (score : Int) : Int := max 0 (min 100 score)

def confidenceBand (score : Int) : VehicleOperationalConfidenceBand :=
  let clamped := clampScore score
  if 85 ≤ clamped then .high
  else if 65 ≤ clamped then .medium
  else if MINIMUM_RESOLUTION_CONFIDENCE ≤ clamped then .low
  else .unknown

structure ConfidenceDetail where
  additions : List String
  band : VehicleOperationalConfidenceBand
  penalties : List String
  score : Int

/-- The addition for agreeing sources. -/
def agreementScore (candidate : Signal ι) (signals : List (Signal ι)) : Int :=
  let agreeingSignals := signals.filter (·.state = candidate.state)
  let distinctAgreeingSources := (agreeingSignals.map (·.source)).dedup.length
  if 1 < distinctAgreeingSources then min 25 (((distinctAgreeingSources : Int) - 1) * 10) else 0

/-- What the signals of other states add to the score and to the penalties. -/
def conflictScore (candidate : Signal ι) (signals : List (Signal ι)) : Int × List String :=
  let conflicts := signals.filter (·.state ≠ candidate.state)
  if conflicts.isEmpty then (10, [])
  else if conflicts.any (candidate.priority ≤ ·.priority) then
    (-40, ["higher-or-equal priority conflicting signals -40"])
  else (0, ["lower-priority conflicting signals tracked"])

def calculateVehicleOperationalStateConfidence (asOf : Int) (candidate : Signal ι)
    (signals : List (Signal ι)) : ConfidenceDetail :=
  let agreement := agreementScore candidate signals
  let freshness := freshnessScore candidate.freshnessDate asOf
  let conflict := conflictScore candidate signals
  let score := VEHICLE_OPERATIONAL_SOURCE_BASE_SCORE candidate.source +
    (if candidate.direct then 10 else 0) + (if 70 ≤ candidate.priority then 20 else 0) +
    agreement + freshness.score + conflict.1
  { additions := (if candidate.direct then ["direct evidence"] else []) ++
      (if 70 ≤ candidate.priority then ["high-priority operational signal +20"] else []) ++
      (if 0 < agreement then [s!"multiple source agreement +{agreement}"] else []) ++
      (if 0 ≤ freshness.score then [freshness.reason] else []) ++
      (if conflict.1 = 10 then ["no conflicting signal"] else [])
    band := confidenceBand score
    penalties := (if freshness.score < 0 then [freshness.reason] else []) ++ conflict.2
    score := clampScore score }

end SubscriptionSaas.FleetOps
