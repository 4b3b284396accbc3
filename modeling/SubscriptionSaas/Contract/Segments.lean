import SubscriptionSaas.Billing.Calendar
import Mathlib.Data.List.Sort

/-!
# Contract segments

The performance period of an order, the table of its contract segments and the extensions that append
to it. A segment ends, like the performance period, on the day before its months have passed; each
extension counts its months from its own first day. No operation cancels a segment; what changes in
one is its status.
-/

namespace SubscriptionSaas.Contract

open Calendar Billing

/-! ## The performance calendar -/

def addMonthsClampedUtc (value months : Int) : Int :=
  let targetFirstDay := dateUTC (getUTCFullYear value) (getUTCMonth value + months) 1
  let targetLastDay :=
    getUTCDate (dateUTC (getUTCFullYear targetFirstDay) (getUTCMonth targetFirstDay + 1) 0)
  dateUTC (getUTCFullYear targetFirstDay) (getUTCMonth targetFirstDay)
    (min (getUTCDate value) targetLastDay)

def addDaysUtc (value days : Int) : Int :=
  dateUTC (getUTCFullYear value) (getUTCMonth value) (getUTCDate value + days)

/-- The first and the last day. -/
def deriveOriginalSubscriptionPeriod (activatedAt periodMonths : Int) :
    Except RangeError (Int × Int) :=
  if periodMonths ≤ 0 then .error ⟨"SUBSCRIPTION_PERIOD_MONTHS_INVALID"⟩
  else
    let shifted := dayOf (activatedAt + chinaTimeOffsetMs)
    let startDate := dateUTC (getUTCFullYear shifted) (getUTCMonth shifted) (getUTCDate shifted)
    let exclusiveEnd := addMonthsClampedUtc startDate periodMonths
    .ok (startDate, addDaysUtc exclusiveEnd (-1))

/-- The months of an extension; `%` of the source is the remainder of the truncated division. -/
def addCalendarMonths (value months : Int) : Int :=
  let year := getUTCFullYear value
  let monthIndex := getUTCMonth value + months
  let targetYear := year + monthIndex / 12
  let targetMonth := (monthIndex.tmod 12 + 12).tmod 12
  let lastDay := getUTCDate (dateUTC targetYear (targetMonth + 1) 0)
  dateUTC targetYear targetMonth (min (getUTCDate value) lastDay)

def addUtcDays (value days : Int) : Int := value + days

/-! ## The segments of an order -/

inductive SegmentStatus
  | scheduled | active | completed | cancelled
  deriving DecidableEq

/-- `subscription_contract_segment`; the source of an extension is kept in its change order. -/
structure ContractSegment where
  id : Id
  sequenceNo : Int
  status : SegmentStatus
  startDate : Int
  endDate : Int
  monthlyFeeAmount : Int
  sourceChangeOrderId : Option Id
  sourceSegmentId : Option Id
  deriving DecidableEq

inductive ErrorCode
  | contractSegmentInvalidDateRange | contractSegmentNotFound | billingPeriodCrossesSegment
  | contractSegmentOverlap | contractSegmentNotContiguous | extensionMonthsInvalid
  | sourceContractSegmentNotFound
  deriving DecidableEq

def ErrorCode.text : ErrorCode → String
  | .contractSegmentInvalidDateRange => "CONTRACT_SEGMENT_INVALID_DATE_RANGE"
  | .contractSegmentNotFound => "CONTRACT_SEGMENT_NOT_FOUND"
  | .billingPeriodCrossesSegment => "BILLING_PERIOD_CROSSES_SEGMENT"
  | .contractSegmentOverlap => "CONTRACT_SEGMENT_OVERLAP"
  | .contractSegmentNotContiguous => "CONTRACT_SEGMENT_NOT_CONTIGUOUS"
  | .extensionMonthsInvalid => "EXTENSION_MONTHS_INVALID"
  | .sourceContractSegmentNotFound => "SOURCE_CONTRACT_SEGMENT_NOT_FOUND"

structure ContractSegmentError where
  code : ErrorCode
  message : String
  changeOrderId : Option Id := none
  segmentId : Option Id := none
  deriving DecidableEq

def effective (s : ContractSegment) : Bool := s.status != .cancelled

/-- `findFirst` with the highest sequence number first. -/
def findLast (p : ContractSegment → Bool) (rows : List ContractSegment) : Option ContractSegment :=
  ((rows.filter p).insertionSort fun a b => b.sequenceNo ≤ a.sequenceNo).head?

/-- The last day of the service, by the segments or else by the order. -/
def resolveEffectiveServiceEndDate (rows : List ContractSegment) (orderEndDate : Option Int) :
    Option Int :=
  match ((rows.filter effective).insertionSort fun a b =>
    b.endDate < a.endDate ∨ b.endDate = a.endDate ∧ b.sequenceNo ≤ a.sequenceNo).head? with
  | some segment => some segment.endDate
  | none => orderEndDate

/-- The segment that the billing period belongs to. -/
def resolveSegmentForPeriod (rows : List ContractSegment) (periodStart : Int)
    (periodEnd : Option Int) : Except ContractSegmentError ContractSegment :=
  if periodEnd.any (· < periodStart) then
    .error ⟨.contractSegmentInvalidDateRange, "Billing period end must not precede its start.",
      none, none⟩
  else
    match findLast (fun s => periodStart ≤ s.endDate && s.startDate ≤ periodStart && effective s)
      rows with
    | none => .error ⟨.contractSegmentNotFound,
        "No effective contract segment contains the billing period start.", none, none⟩
    | some segment =>
      match periodEnd with
      | some periodEnd =>
        if segment.endDate < periodEnd then
          let nextSegment := ((rows.filter fun s => segment.endDate < s.startDate &&
            s.startDate ≤ periodEnd && effective s).insertionSort fun a b =>
              a.startDate ≤ b.startDate).head?
          .error ⟨.billingPeriodCrossesSegment,
            "The billing period crosses a contract segment boundary.",
            nextSegment.bind (·.sourceChangeOrderId), some segment.id⟩
        else .ok segment
      | none => .ok segment

def assertAppendableExtension (rows : List ContractSegment) (source : ContractSegment)
    (startDate endDate : Int) : Except ContractSegmentError Unit :=
  if endDate < startDate then
    .error ⟨.contractSegmentInvalidDateRange,
      "Contract segment end date must not precede its start date.", none, none⟩
  else if !effective source then
    .error ⟨.contractSegmentNotFound, "Source contract segment was not found.", none, none⟩
  else if (findLast effective rows).map (·.id) ≠ some source.id then
    .error ⟨.contractSegmentOverlap, "The source segment is not the current final segment.",
      none, none⟩
  else
    let expectedStart := addUtcDays source.endDate 1
    if startDate < expectedStart then
      .error ⟨.contractSegmentOverlap, "The extension overlaps the source contract segment.",
        none, none⟩
    else if expectedStart < startDate then
      .error ⟨.contractSegmentNotContiguous,
        "The extension must begin on the day after the source segment ends.", none, none⟩
    else if rows.any fun s =>
        startDate ≤ s.endDate && s.id != source.id && s.startDate ≤ endDate && effective s then
      .error ⟨.contractSegmentOverlap, "The extension overlaps an existing contract segment.",
        none, none⟩
    else .ok ()

/-- The source segment of an extension, and its first and last day. -/
def createExtension (rows : List ContractSegment) (extensionMonths : Int) :
    Except ContractSegmentError (ContractSegment × Int × Int) :=
  if extensionMonths ≤ 0 then
    .error ⟨.extensionMonthsInvalid, "Extension months must be a positive integer.", none, none⟩
  else
    match findLast effective rows with
    | none => .error ⟨.sourceContractSegmentNotFound,
        "A source contract segment is required before creating an extension.", none, none⟩
    | some sourceSegment =>
      let targetStartDate := addUtcDays sourceSegment.endDate 1
      let targetEndDate := addUtcDays (addCalendarMonths targetStartDate extensionMonths) (-1)
      do
        assertAppendableExtension rows sourceSegment targetStartDate targetEndDate
        return (sourceSegment, targetStartDate, targetEndDate)

/-! ## The table over time -/

/-- The base segment, from the activation of the lease. -/
def baseSegment (startDate endDate monthlyFeeAmount : Int) : ContractSegment :=
  ⟨0, 1, .active, startDate, endDate, monthlyFeeAmount, none, none⟩

/-- The segment that the archive of an extension's contract creates. -/
def extensionSegment (id changeOrderId : Id) (source : ContractSegment)
    (startDate endDate monthlyFeeAmount : Int) : ContractSegment :=
  ⟨id, source.sequenceNo + 1, .scheduled, startDate, endDate, monthlyFeeAmount, some changeOrderId,
    some source.id⟩

inductive SegmentEvent
  /-- An extension is created, and its contract is archived. -/
  | extend (changeOrderId : Id) (extensionMonths monthlyFeeAmount : Int)
  /-- An extension becomes active, and its source completes. -/
  | activate (segmentId : Id)
  /-- The active segment ends, by expiry or by an early termination. -/
  | complete (segmentId : Id)

def setStatus (id : Id) (status : SegmentStatus) (rows : List ContractSegment) :
    List ContractSegment :=
  rows.map fun s => if s.id == id then { s with status := status } else s

/-- An operation that fails leaves the table as it is. The rows are numbered as they are created. -/
def segmentStep (rows : List ContractSegment) : SegmentEvent → List ContractSegment
  | .extend changeOrderId extensionMonths monthlyFeeAmount =>
    match createExtension rows extensionMonths with
    | .ok (source, startDate, endDate) =>
      rows ++ [extensionSegment rows.length changeOrderId source startDate endDate monthlyFeeAmount]
    | .error _ => rows
  | .activate segmentId =>
    match rows.find? (·.id == segmentId) with
    | some segment =>
      match segment.sourceSegmentId with
      | some source =>
        if segment.status = .scheduled ∧ rows.any fun s => s.id == source && s.status == .active then
          setStatus segmentId .active (setStatus source .completed rows)
        else rows
      | none => rows
    | none => rows
  | .complete segmentId =>
    if rows.any fun s => s.id == segmentId && s.status == .active then
      setStatus segmentId .completed rows
    else rows

/-- The segments of an order after its activation and the events. -/
def segmentRun (activatedAt periodMonths monthlyFeeAmount : Int) (evs : List SegmentEvent) :
    Except RangeError (List ContractSegment) :=
  (deriveOriginalSubscriptionPeriod activatedAt periodMonths).map fun (startDate, endDate) =>
    evs.foldl segmentStep [baseSegment startDate endDate monthlyFeeAmount]

/-- The months of the extensions that can be created. -/
def extensionMonths (evs : List SegmentEvent) : List Int :=
  evs.filterMap fun
    | .extend _ months _ => if 0 < months then some months else none
    | _ => none

end SubscriptionSaas.Contract
