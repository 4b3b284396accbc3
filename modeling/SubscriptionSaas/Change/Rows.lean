import SubscriptionSaas.Contract.Segments
import SubscriptionSaas.Lib.Results

/-!
# The rows of an order and its changes

What the contract changes of one subscription order read and write: the order with its main contract,
its contract segments, its change orders with their quotes and details, its renewal considerations and
its automation jobs. A row is numbered by its place in its table, and no row is deleted. The database
keeps at most one live change order and one active segment of an order, one segment of each sequence
number and one of each change order, and no segment that ends before it begins.
-/

namespace SubscriptionSaas.Change

open Calendar Billing Contract Results

/-! ## JSON documents -/

/-- A number, a text, a truth value or `null` is kept as its JSON text. -/
inductive Json
  | scalar (text : String)
  | arr (items : List Json)
  | obj (fields : List (String × Json))

mutual

/-- The text of a document with the keys in order. -/
def stableJson : Json → String
  | .scalar text => text
  | .arr items => "[" ++ ",".intercalate (stableItems items) ++ "]"
  | .obj fields =>
    "\x7b" ++ ",".intercalate (((stableFields fields).insertionSort fun a b => a.1 ≤ b.1).map
      fun field => field.1.quote ++ ":" ++ field.2) ++ "\x7d"

def stableItems : List Json → List String
  | [] => []
  | item :: items => stableJson item :: stableItems items

def stableFields : List (String × Json) → List (String × String)
  | [] => []
  | (key, value) :: fields => (key, stableJson value) :: stableFields fields

end

def Json.null : Json := .scalar "null"

def sameJson (left right : Json) : Bool := stableJson left == stableJson right

def isJsonObject : Json → Bool
  | .obj _ => true
  | _ => false

/-! ## The order -/

inductive ContractStatus
  | draft | generated | signing | signed | archived | completed | terminated | cancelled
  deriving DecidableEq

inductive OrderStatus
  | pendingReview | pendingCustomerConfirmation | pendingContract | pendingSign | pendingPayment
  | pendingVehicle | pendingDelivery | active | suspended | pendingReturn
  | returnedPendingSettlement | terminated | completed | cancelled | rejected
  deriving DecidableEq

inductive BusinessType
  | subscription | rentToOwn
  deriving DecidableEq

inductive VehicleStatus
  | draft | inPreparation | available | reviewReserved | reserved | leased | rented | returned
  | maintenance | retired
  deriving DecidableEq

inductive LeaseStatus
  | notActive | ready | active | returnDue | completed
  deriving DecidableEq

inductive VehicleReturnStatus
  | pending | ready | confirmed | cancelled
  deriving DecidableEq

structure MainContract where
  id : Id
  status : ContractStatus
  contractSnapshot : Json

/-- `subscription_order` with its contract and the status of its vehicle. -/
structure Order where
  businessType : BusinessType
  orderStatus : OrderStatus
  deleted : Bool
  vehicle : Option VehicleStatus
  contract : Option MainContract
  startDate : Option Int
  endDate : Option Int
  productId : Id
  productVersionId : Id
  monthlyFeeAmount : Int
  mileageLimitKm : Int
  overMileageFeeAmount : Int
  energyLimitKwh : Option Int
  energyLimitCount : Option Int
  finalPlanSnapshot : Option Json
  quoteSnapshot : Json

/-! ## Segments -/

inductive SegmentType
  | base | extension | vehicleSwap
  deriving DecidableEq

/-- `subscription_contract_segment`, with all that a later operation compares. The `entitlementKeys`
are the types and units of the grants that the plan snapshot lists. -/
structure Segment extends ContractSegment where
  segmentType : SegmentType
  activatedAt : Option Int
  sourceContractId : Option Id
  subscriptionPlanId : Option Id
  productId : Option Id
  productVersionId : Option Id
  mileageLimitKm : Int
  overMileageFeeAmount : Int
  energyLimitKwh : Option Int
  energyLimitCount : Option Int
  planSnapshot : Json
  entitlementKeys : List String
  quoteSnapshot : Json
  contractSnapshot : Json

/-! ## Change orders -/

inductive ChangeStatus
  | draft | quoted | customerConfirmed | signingOrPayment | scheduled | executing | completed
  | cancelled | failed | manualTakeover
  deriving DecidableEq

/-- `ACTIVE_CHANGE_STATUSES`. -/
def ChangeStatus.live : ChangeStatus → Bool
  | .completed | .cancelled | .failed => false
  | _ => true

inductive QuoteStatus
  | draft | formal | superseded | customerConfirmed | customerRejected | expired
  deriving DecidableEq

inductive PricingMode
  | currentVersion | originalPrice | approvedDiscount
  deriving DecidableEq

/-- What the pricing of a change yields. -/
structure Pricing where
  productId : Option Id
  productVersionId : Option Id
  subscriptionPlanId : Option Id
  monthlyFeeAmount : Int
  mileageLimitKm : Int
  overMileageFeeAmount : Int
  energyLimitKwh : Option Int
  energyLimitCount : Option Int
  planSnapshot : Json
  entitlementKeys : List String
  quoteSnapshot : Json

/-- `subscription_change_quote`; a quote's revision is its place among the quotes of its change. -/
structure Quote where
  status : QuoteStatus
  createdBy : Id
  validUntil : Int
  pricingMode : PricingMode
  pricing : Pricing

/-- The supplement contract of a change; `rendered` when it has its file. -/
structure Supplement where
  id : Id
  status : ContractStatus
  rendered : Bool
  contractSnapshot : Json

structure ExtensionDetail where
  extensionMonths : Int
  pricingMode : PricingMode
  sourceSegmentId : Id
  targetStartDate : Int
  targetEndDate : Int
  priceOverrideApprovedBy : Option Id

/-- The typed detail, which tells the type of the change. -/
inductive Detail
  | extension (detail : ExtensionDetail)
  | vehicleSwap

/-- `subscription_change_order`; `sourceSegmentId` is the column of the change order itself. -/
structure ChangeOrder where
  id : Id
  status : ChangeStatus
  version : Nat
  sourceSegmentId : Option Id
  renewalConsiderationId : Option Id
  completionDeadlineAt : Int
  detail : Detail
  quotes : List Quote
  currentQuoteId : Option Nat
  confirmedQuoteId : Option Nat
  customerConfirmationPublished : Bool
  contract : Option Supplement
  failureCode : Option String

def ChangeOrder.extensionDetail (change : ChangeOrder) : Option ExtensionDetail :=
  match change.detail with
  | .extension detail => some detail
  | .vehicleSwap => none

def ChangeOrder.currentQuote (change : ChangeOrder) : Option Quote :=
  change.currentQuoteId.bind (change.quotes[·]?)

def ChangeOrder.confirmedQuote (change : ChangeOrder) : Option Quote :=
  change.confirmedQuoteId.bind (change.quotes[·]?)

/-! ## Considerations and jobs -/

inductive ConsiderationStatus
  | pendingDecision | renewalRequested | expiryConfirmed | extensionInProgress | extended | expired
  | cancelled
  deriving DecidableEq

inductive RenewalDecision
  | renew | expire
  deriving DecidableEq

structure RenewalConsideration where
  id : Id
  segmentId : Id
  status : ConsiderationStatus
  decision : Option RenewalDecision
  completionDeadlineAt : Int
  version : Nat

inductive JobStatus
  | pending | processing | completed | deadLetter | cancelled
  deriving DecidableEq

/-- The type of a job of an extension, with what its idempotency key adds to the segment. -/
inductive JobType
  | extensionSegmentActivate
  | extensionBillingResume
  | extensionEffectiveNotice
  | extensionEntitlementRenew (entitlementKey : String)
  deriving DecidableEq

/-- A job of an extension; `handled` when its handler has succeeded and its completion is to be
recorded. -/
structure Job where
  id : Id
  jobType : JobType
  contractSegmentId : Id
  changeOrderId : Id
  jobStatus : JobStatus
  handled : Bool
  lastErrorCode : Option String
  deriving DecidableEq

/-! ## The state -/

/-- A call of `createExtension` that has passed the checks before its transaction. -/
structure PreparedExtension where
  extensionMonths : Int
  pricingMode : PricingMode
  renewalConsiderationId : Option Id
  sourceSegmentId : Id
  targetStartDate : Int
  targetEndDate : Int
  completionDeadlineAt : Int

/-- `takeovers` are the jobs that have run out of attempts and whose change is still to be marked;
`expired` are the segments in the audit log with the outcome `EXPIRED`. -/
structure State where
  now : Int
  order : Order
  lease : Option LeaseStatus
  vehicleReturn : Option VehicleReturnStatus
  segments : List Segment
  changes : List ChangeOrder
  considerations : List RenewalConsideration
  jobs : List Job
  prepared : List PreparedExtension
  takeovers : List Id
  expired : List Id

/-- `SubscriptionChangeError`, and the errors of the database by their codes. -/
structure ChangeError where
  code : String
  message : String
  deriving DecidableEq

def uniqueViolation : ChangeError := ⟨"P2002", "Unique constraint failed."⟩

def checkViolation : ChangeError := ⟨"23514", "A check constraint is violated."⟩

namespace State

variable (s : State)

def setSegment (id : Id) (f : Segment → Segment) : State :=
  { s with segments := s.segments.modify id f }

def setChange (id : Id) (f : ChangeOrder → ChangeOrder) : State :=
  { s with changes := s.changes.modify id f }

def setConsideration (id : Option Id) (f : RenewalConsideration → RenewalConsideration) : State :=
  match id with
  | some id => { s with considerations := s.considerations.modify id f }
  | none => s

def setJob (id : Id) (f : Job → Job) : State :=
  { s with jobs := s.jobs.modify id f }

/-- Inserts a segment, which is not of type BASE unless it is the first. -/
def addSegment (segment : Segment) : Except ChangeError State := do
  require (!s.segments.any fun g => g.sequenceNo == segment.sequenceNo) uniqueViolation
  require (segment.sourceChangeOrderId.isNone ||
    !s.segments.any fun g => g.sourceChangeOrderId == segment.sourceChangeOrderId) uniqueViolation
  require (segment.status != .active || !s.segments.any fun g => g.status == .active)
    uniqueViolation
  require (segment.startDate ≤ segment.endDate) checkViolation
  pure { s with segments := s.segments ++ [segment] }

/-- Inserts a change order. -/
def addChange (change : ChangeOrder) : Except ChangeError State := do
  require (!s.changes.any fun c => c.status.live) uniqueViolation
  require (change.renewalConsiderationId.isNone ||
    !s.changes.any fun c => c.renewalConsiderationId == change.renewalConsiderationId)
    uniqueViolation
  pure { s with changes := s.changes ++ [change] }

/-- Inserts a job unless its idempotency key is there. -/
def enqueue (jobType : JobType) (segmentId changeOrderId : Id) : State :=
  if s.jobs.any fun j => j.jobType == jobType && j.contractSegmentId == segmentId then s
  else { s with jobs := s.jobs ++
    [⟨s.jobs.length, jobType, segmentId, changeOrderId, .pending, false, none⟩] }

end State

end SubscriptionSaas.Change
