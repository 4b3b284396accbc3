import SubscriptionSaas.Change.Rows

/-!
# The segment service

The base segment of an order, which is a copy of the order's own terms, and the segment a further
extension is counted from. `ensureBaseSegment` creates the base segment or compares it with the order.
-/

namespace SubscriptionSaas.Change

open Calendar Billing Contract Results

/-- What the base segment is made of besides the order's own columns. -/
structure BaseSource where
  contract : MainContract
  startDate : Int
  endDate : Int
  planSnapshot : Json

def sourceIncomplete : ChangeError := ⟨"BASE_SEGMENT_SOURCE_INCOMPLETE",
  "Original order dates, plan snapshot, and archived main contract are required."⟩

def assertBaseSourceComplete (order : Order) : Except ChangeError BaseSource :=
  match order.contract, order.startDate, order.endDate, order.finalPlanSnapshot with
  | some contract, some startDate, some endDate, some planSnapshot => do
    require (isJsonObject planSnapshot && isJsonObject order.quoteSnapshot &&
      contract.status == .archived && isJsonObject contract.contractSnapshot) sourceIncomplete
    pure ⟨contract, startDate, endDate, planSnapshot⟩
  | _, _, _, _ => .error sourceIncomplete

/-- The base segment of the order. -/
def baseSegment (order : Order) (source : BaseSource) : Segment where
  id := 0
  sequenceNo := 1
  status := .active
  startDate := source.startDate
  endDate := source.endDate
  monthlyFeeAmount := order.monthlyFeeAmount
  sourceChangeOrderId := none
  sourceSegmentId := none
  segmentType := .base
  activatedAt := some (instantOf source.startDate)
  sourceContractId := some source.contract.id
  subscriptionPlanId := none
  productId := some order.productId
  productVersionId := some order.productVersionId
  mileageLimitKm := order.mileageLimitKm
  overMileageFeeAmount := order.overMileageFeeAmount
  energyLimitKwh := order.energyLimitKwh
  energyLimitCount := order.energyLimitCount
  planSnapshot := source.planSnapshot
  entitlementKeys := []
  quoteSnapshot := order.quoteSnapshot
  contractSnapshot := source.contract.contractSnapshot

def baseMatchesAuthority (segment : Segment) (order : Order) (source : BaseSource) : Bool :=
  segment.segmentType == .base && segment.sequenceNo == 1 && segment.status == .active &&
    segment.sourceContractId == some source.contract.id && segment.subscriptionPlanId == none &&
    segment.startDate == source.startDate && segment.endDate == source.endDate &&
    segment.activatedAt == some (instantOf source.startDate) &&
    segment.productId == some order.productId &&
    segment.productVersionId == some order.productVersionId &&
    segment.monthlyFeeAmount == order.monthlyFeeAmount &&
    segment.mileageLimitKm == order.mileageLimitKm &&
    segment.overMileageFeeAmount == order.overMileageFeeAmount &&
    segment.energyLimitKwh == order.energyLimitKwh &&
    segment.energyLimitCount == order.energyLimitCount &&
    sameJson segment.planSnapshot source.planSnapshot &&
    sameJson segment.quoteSnapshot order.quoteSnapshot &&
    sameJson segment.contractSnapshot source.contract.contractSnapshot

def assertBaseMatchesAuthority (segment : Segment) (order : Order) (source : BaseSource) :
    Except ChangeError Unit :=
  require (baseMatchesAuthority segment order source) ⟨"CONTRACT_SEGMENT_SOURCE_CONFLICT",
    "The existing BASE segment differs from the archived order authority."⟩

def ensureBaseSegment (s : State) : Except ChangeError State := do
  let source ← assertBaseSourceComplete s.order
  match s.segments.find? (·.segmentType == .base) with
  | some existing => do
    assertBaseMatchesAuthority existing s.order source
    pure s
  | none => s.addSegment (baseSegment s.order source)

/-- The segments as the period calculations see them. -/
def State.rows (s : State) : List ContractSegment := s.segments.map (·.toContractSegment)

def segmentError (e : ContractSegmentError) : ChangeError := ⟨e.code.text, e.message⟩

/-- The segment preconditions of an extension by so many months: the state with the base segment, the
source segment, and the first and the last day. -/
def extensionSource (s : State) (extensionMonths : Int) :
    Except ChangeError (State × ContractSegment × Int × Int) := do
  let s ← ensureBaseSegment s
  let period ← (createExtension s.rows extensionMonths).mapError segmentError
  pure (s, period)

end SubscriptionSaas.Change
