import SubscriptionSaas.Contract.Segments
import SubscriptionSaas.Finance.Db

/-!
# Monthly rent

The billing schedules, the monthly rent bills, and what works on them: the scan that enqueues the
generation jobs, the generation of a bill, reconciliation, pause and resume, the continuation for an
extension, and the manual generation of bills.

An operation that locks what it writes before it reads it, or that writes on condition of what it has
read, is one step. The others are split: a pause checks the schedule and then writes it without
looking again, reconciliation works on a list it has read before, and the manual generation reads the
order and its bills without a lock. A worker runs the handler of a claimed job, and reports the
outcome in a step of its own.
-/

namespace SubscriptionSaas.Billing

open Calendar Contract
open Finance (OrderStatus BillStatus)

/-! ## Tables -/

inductive LeaseStatus
  | notActive | ready | active | returnDue | completed
  deriving DecidableEq

structure Lease where
  status : LeaseStatus
  deleted : Bool
  deriving DecidableEq

/-- `subscription_order`, with its lease and its contract segments. The amount is what
`resolveMonthlyRentAmount` makes of the order and its quote. -/
structure Order where
  id : Id
  orderStatus : OrderStatus
  deleted : Bool
  actualDeliveryAt : Option Int
  endDate : Option Int
  monthlyRentAmount : Option Int
  lease : Option Lease
  segments : List ContractSegment
  deriving DecidableEq

inductive ScheduleStatus
  | active | paused | completed | cancelled
  deriving DecidableEq

/-- `billing_schedule`. -/
structure BillingSchedule where
  id : Id
  orderId : Id
  status : ScheduleStatus
  nextCycleNo : Int
  nextPeriodStart : Int
  nextPeriodEnd : Int
  /-- A day; the job becomes available when it begins. -/
  nextGenerateAt : Int
  lastGeneratedBillId : Option Id
  lastGeneratedAt : Option Int
  pauseReason : Option String
  completedAt : Option Int
  serviceEndDate : Option Int
  version : Nat
  deriving DecidableEq

inductive BillSource
  | single | batch | automation
  deriving DecidableEq

/-- A row of `receivable_bill` of the type `MONTHLY_RENT`. -/
structure RentBill where
  id : Id
  orderId : Id
  billStatus : BillStatus
  deleted : Bool
  billPeriodStart : Int
  billPeriodEnd : Int
  dueDate : Int
  amount : Int
  sourceKey : IdempotencyKey
  source : BillSource
  contractSegmentId : Option Id
  deriving DecidableEq

structure MonthlyRentPeriod where
  index : Int
  start : Int
  «end» : Int
  deriving DecidableEq

/-! ## Bills -/

def monthlyRentPeriodWhere (orderId : Id) (period : MonthlyRentPeriod) (bill : RentBill) : Bool :=
  bill.billPeriodEnd == period.end && bill.billPeriodStart == period.start &&
    bill.billStatus != .cancelled && !bill.deleted && bill.orderId == orderId

/-- The bill that is there or is created, and whether it was created; `none` when the source key is
taken. -/
def createMonthlyRentBillForPeriodIfAbsent (orderId : Id) (amount : Int) (period : MonthlyRentPeriod)
    (source : BillSource) (sourceKey : IdempotencyKey) (contractSegmentId : Option Id)
    (bills : List RentBill) : Option (RentBill × Bool × List RentBill) :=
  match bills.find? (monthlyRentPeriodWhere orderId period) with
  | some bill => some (bill, false, bills)
  | none =>
    if bills.any (·.sourceKey == sourceKey) then none
    else
      let bill : RentBill :=
        { id := bills.length
          orderId := orderId
          billStatus := .pending
          deleted := false
          billPeriodStart := period.start
          billPeriodEnd := period.end
          dueDate := period.start
          amount := amount
          sourceKey := sourceKey
          source := source
          contractSegmentId := contractSegmentId }
      some (bill, true, bills ++ [bill])

def findValidMonthlyRentBills (orderId : Id) (bills : List RentBill) : List RentBill :=
  bills.filter fun bill => bill.billStatus != .cancelled && !bill.deleted && bill.orderId == orderId

def buildNextMonthlyRentPeriod (actualDeliveryAt : Int) (existingMonthlyRentBillCount : Nat) :
    Except RangeError MonthlyRentPeriod :=
  let index : Int := existingMonthlyRentBillCount + 1
  (buildBillingCycleForDelivery actualDeliveryAt index).map fun cycle =>
    ⟨index, cycle.periodStart, cycle.periodEnd⟩

def findMonthlyRentBillForPeriod (bills : List RentBill) (period : MonthlyRentPeriod) :
    Option RentBill :=
  bills.find? fun bill => bill.billPeriodStart == period.start && bill.billPeriodEnd == period.end

/-- What a manual generation knows: the order it has read, and then the period it has chosen. -/
inductive Draft
  | order (order : Order) (source : BillSource)
  | period (orderId : Id) (source : BillSource) (amount : Int) (period : MonthlyRentPeriod)
  deriving DecidableEq

/-- The period that a manual generation chooses; a batch, for a date, skips periods that are billed
or not due. -/
def choosePeriod (order : Order) (source : BillSource) (billingDate : Int) (bills : List RentBill) :
    Option Draft :=
  match order.actualDeliveryAt, order.monthlyRentAmount with
  | some actualDeliveryAt, some amount =>
    if order.deleted || order.orderStatus != .active then none
    else
      let monthlyBills := findValidMonthlyRentBills order.id bills
      match buildNextMonthlyRentPeriod actualDeliveryAt monthlyBills.length with
      | .error _ => none
      | .ok period =>
        if source == .batch && ((findMonthlyRentBillForPeriod monthlyBills period).isSome ||
            billingDate < period.start - 3) then none
        else some (.period order.id source amount period)
  | _, _ => none

/-- A manual generation between whose steps nothing happens. -/
def generateNextMonthlyRentBill (order : Order) (source : BillSource) (billingDate : Int)
    (bills : List RentBill) : Option (RentBill × Bool × List RentBill) :=
  match choosePeriod order source billingDate bills with
  | some (.period orderId source amount period) =>
    createMonthlyRentBillForPeriodIfAbsent orderId amount period source
      (billingSourceKey orderId period.start) none bills
  | _ => none

/-! ## Schedules -/

/-- `RECONCILIATION_BLOCKER_CODES`. -/
def reconciliationBlockerCodes : List ErrorCode :=
  [.contractSegmentNotFound, .billingPeriodCrossesSegment, .contractSegmentInvalidDateRange]

def isReconciliationPauseReason (reason : Option String) : Bool :=
  reason.any (reconciliationBlockerCodes.map (·.text)).contains

def earliestServiceEndDate (left right : Option Int) : Option Int :=
  match left, right with
  | none, right => right
  | left, none => left
  | some left, some right => some (min left right)

def isPeriodAfterServiceEnd (periodStart : Int) (serviceEndDate : Option Int) : Bool :=
  serviceEndDate.any (· < periodStart)

def BillingSchedule.key (schedule : BillingSchedule) : IdempotencyKey :=
  billingSourceKey schedule.orderId schedule.nextPeriodStart

/-- The bills, the schedules with their jobs, and what operations under way have read. -/
structure State where
  queue : JobTable
  schedules : List BillingSchedule
  orders : List Order
  bills : List RentBill
  /-- Manual generations under way. -/
  drafts : List Draft
  /-- Reconciliations under way: an order, its schedule and its valid bills, as they were read. -/
  reconciling : List (Order × Option BillingSchedule × List RentBill)
  /-- Pauses that have passed their check. -/
  pausing : List Id
  /-- The claims whose generation has ended without an error. -/
  generated : List ClaimedJob

def State.order? (s : State) (id : Id) : Option Order := s.orders.find? (·.id == id)

def State.schedule? (s : State) (id : Id) : Option BillingSchedule :=
  s.schedules.find? (·.id == id)

/-- A step of the job table alone. -/
def State.onQueue (s : State) (e : JobEvent) : State := { s with queue := jobStep s.queue e }

/-- New rows of the schedules; a claim looks at which of them are active. -/
def State.setSchedules (s : State) (schedules : List BillingSchedule) : State :=
  { s with
    schedules := schedules
    queue := jobStep s.queue
      (.schedules ((schedules.filter (·.status == .active)).map (·.id))) }

def State.updateSchedule (s : State) (id : Id) (patch : BillingSchedule → BillingSchedule) : State :=
  s.setSchedules (s.schedules.map fun schedule =>
    if schedule.id == id then patch schedule else schedule)

/-- The rows of the jobs are numbered as they are created. -/
def State.enqueue (s : State) (input : EnqueueInput) : State :=
  s.onQueue (.enqueue s.queue.jobs.length input)

def ensureScheduleAtCycle (orderId : Id) (cycle : BillingCycle) (completed : Bool) (s : State) :
    State :=
  if s.schedules.any (·.orderId == orderId) then s
  else s.setSchedules (s.schedules ++
    [{ id := s.schedules.length
       orderId := orderId
       status := if completed then .completed else .active
       nextCycleNo := cycle.cycleNo
       nextPeriodStart := cycle.periodStart
       nextPeriodEnd := cycle.periodEnd
       nextGenerateAt := cycle.generateAt
       lastGeneratedBillId := none
       lastGeneratedAt := none
       pauseReason := none
       completedAt := if completed then some s.queue.now else none
       serviceEndDate := none
       version := 0 }])

/-- At the activation of the lease. -/
def ensureActiveSchedule (orderId : Id) (actualDeliveryAt : Int) (s : State) : State :=
  match buildInitialBillingCycle actualDeliveryAt with
  | .ok cycle => ensureScheduleAtCycle orderId cycle false s
  | .error _ => s

/-! ## The scan -/

def BillingSchedule.dueAt (schedule : BillingSchedule) (now : Int) : Bool :=
  schedule.status == .active && instantOf schedule.nextGenerateAt ≤ now

def generateInput (schedule : BillingSchedule) : EnqueueInput :=
  { availableAt := instantOf schedule.nextGenerateAt
    billId := none
    billingScheduleId := some schedule.id
    idempotencyKey := schedule.key
    jobType := .generateMonthlyRentBill
    maxAttempts := none
    orderId := some schedule.orderId }

/-- The transaction of the scan for one schedule. -/
def enqueueDueSchedule (now : Int) (id : Id) (s : State) : State :=
  match s.schedule? id with
  | none => s
  | some schedule =>
    if schedule.dueAt now then
      (s.onQueue (.reactivateCancelled schedule.id schedule.key
        (instantOf schedule.nextGenerateAt))).enqueue (generateInput schedule)
    else s

def enqueueDueSchedules (now : Int) (s : State) : State :=
  let schedules := (s.schedules.filter (·.dueAt now)).insertionSort fun a b =>
    a.nextGenerateAt ≤ b.nextGenerateAt
  schedules.foldl (fun s snapshot => enqueueDueSchedule now snapshot.id s) s

/-! ## The generation of a bill -/

structure GenerateResult where
  billId : Option Id
  completed : Bool
  created : Bool
  sourceKey : IdempotencyKey
  deriving DecidableEq

def configurationError : HandlerError := some .configurationError
def retryableExecutionError : HandlerError := some .executionError
def pausedScheduleError : HandlerError := some .schedulePaused

/-- The order is performed, or its last cycles are caught up after its end or its return. -/
def performed (order : Order) (lease : Lease) : Bool :=
  (order.orderStatus == .active && lease.status == .active) ||
    (order.orderStatus == .pendingReturn && lease.status == .returnDue) ||
      (order.orderStatus == .completed && lease.status == .completed)

def scheduleMatchesCycle (schedule : BillingSchedule) (cycle : BillingCycle) : Bool :=
  schedule.nextGenerateAt == cycle.generateAt && schedule.nextPeriodEnd == cycle.periodEnd &&
    schedule.nextPeriodStart == cycle.periodStart

/-- The cycle of a schedule that can be generated for the job. -/
def generatedCycle (claim : ClaimedJob) (order : Order) (schedule : BillingSchedule) :
    Except HandlerError BillingCycle :=
  if schedule.status = .paused then .error pausedScheduleError
  else
    match order.actualDeliveryAt, order.lease with
    | some actualDeliveryAt, some lease =>
      if schedule.status ≠ .active ∨ claim.job.orderId ≠ some schedule.orderId ∨ order.deleted ∨
          lease.deleted ∨ !performed order lease then .error configurationError
      else
        match buildBillingCycleForDelivery actualDeliveryAt schedule.nextCycleNo with
        | .error _ => .error retryableExecutionError
        | .ok cycle =>
          if !scheduleMatchesCycle schedule cycle then .error configurationError
          else if claim.job.idempotencyKey ≠ billingSourceKey schedule.orderId cycle.periodStart then
            .error configurationError
          else .ok cycle
    | _, _ => .error configurationError

/-- The schedule has run past the end of the service. -/
def completeSchedule (now : Int) (schedule : BillingSchedule) : BillingSchedule :=
  { schedule with
    completedAt := some now
    status := .completed
    version := schedule.version + 1 }

def pauseForBlocker (code : ErrorCode) (schedule : BillingSchedule) : BillingSchedule :=
  { schedule with
    pauseReason := some code.text
    status := .paused
    version := schedule.version + 1 }

/-- The schedule after the bill of its cycle: at the next cycle, or completed where it is. -/
def advanceSchedule (now : Int) (billId : Id) (nextCycle : BillingCycle) (completed : Bool)
    (schedule : BillingSchedule) : BillingSchedule :=
  if completed then
    { completeSchedule now schedule with
      lastGeneratedAt := some now
      lastGeneratedBillId := some billId }
  else
    { schedule with
      lastGeneratedAt := some now
      lastGeneratedBillId := some billId
      nextCycleNo := nextCycle.cycleNo
      nextGenerateAt := nextCycle.generateAt
      nextPeriodEnd := nextCycle.periodEnd
      nextPeriodStart := nextCycle.periodStart
      version := schedule.version + 1 }

/-- The jobs of a new bill. -/
def enqueueBillJobs (schedule : BillingSchedule) (cycle : BillingCycle) (bill : RentBill) (s : State) :
    State :=
  (s.enqueue
    { availableAt := s.queue.now
      billId := some bill.id
      billingScheduleId := some schedule.id
      idempotencyKey := .billDueNotice bill.id
      jobType := .sendBillDueNotice
      maxAttempts := none
      orderId := some schedule.orderId }).enqueue
    { availableAt := instantOf cycle.overdueAt
      billId := some bill.id
      billingScheduleId := some schedule.id
      idempotencyKey := .billOverdue bill.id (cycle.dueDate + 5)
      jobType := .markBillOverdue
      maxAttempts := none
      orderId := some schedule.orderId }

/-- The bill of a cycle that lies in the segment, and the schedule's next step. -/
def generateBill (order : Order) (schedule : BillingSchedule) (cycle : BillingCycle)
    (segment : ContractSegment) (effectiveServiceEndDate : Option Int) (s : State) :
    Except HandlerError GenerateResult × State :=
  let sourceKey := billingSourceKey schedule.orderId cycle.periodStart
  match createMonthlyRentBillForPeriodIfAbsent order.id segment.monthlyFeeAmount
      ⟨cycle.cycleNo, cycle.periodStart, cycle.periodEnd⟩ .automation sourceKey (some segment.id)
      s.bills, buildNextBillingCycle cycle with
  | some (bill, created, bills), .ok nextCycle =>
    let completed := isPeriodAfterServiceEnd nextCycle.periodStart effectiveServiceEndDate
    (.ok ⟨some bill.id, completed, created, sourceKey⟩,
      enqueueBillJobs schedule cycle bill
        ({ s with bills := bills }.updateSchedule schedule.id
          (advanceSchedule s.queue.now bill.id nextCycle completed)))
  | _, _ => (.error retryableExecutionError, s)

/-- The handler of a generation job. -/
def generateScheduledMonthlyRent (claim : ClaimedJob) (s : State) :
    Except HandlerError GenerateResult × State :=
  match claim.job.billingScheduleId, claim.job.orderId with
  | some scheduleId, some orderId =>
    match s.order? orderId, s.schedule? scheduleId with
    | some order, some schedule =>
      match generatedCycle claim order schedule with
      | .error e => (.error e, s)
      | .ok cycle =>
        let sourceKey := billingSourceKey schedule.orderId cycle.periodStart
        let effectiveServiceEndDate := earliestServiceEndDate
          (resolveEffectiveServiceEndDate order.segments order.endDate) schedule.serviceEndDate
        if isPeriodAfterServiceEnd cycle.periodStart effectiveServiceEndDate then
          (.ok ⟨none, true, false, sourceKey⟩,
            s.updateSchedule schedule.id (completeSchedule s.queue.now))
        else
          match resolveSegmentForPeriod order.segments cycle.periodStart (some cycle.periodEnd) with
          | .error e =>
            if reconciliationBlockerCodes.contains e.code then
              (.error pausedScheduleError, s.updateSchedule schedule.id (pauseForBlocker e.code))
            else (.error retryableExecutionError, s)
          | .ok segment => generateBill order schedule cycle segment effectiveServiceEndDate s
    | _, _ => (.error configurationError, s)
  | _, _ => (.error configurationError, s)

/-! ## Pause, resume and reconciliation -/

def resumeRow (schedule : BillingSchedule) : BillingSchedule :=
  { schedule with pauseReason := none, status := .active, version := schedule.version + 1 }

/-- What `pauseSchedule` checks. -/
def pausable (schedule : BillingSchedule) : Bool :=
  schedule.status != .completed && schedule.status != .cancelled

def resumeSchedule (id : Id) (s : State) : State :=
  match s.schedule? id with
  | some schedule =>
    if schedule.status = .paused ∧ !isReconciliationPauseReason schedule.pauseReason then
      s.updateSchedule id resumeRow
    else s
  | none => s

def retryJob (jobId : Id) (s : State) : State :=
  match s.queue.jobs.find? (·.id == jobId) with
  | some job =>
    if job.jobType = .generateMonthlyRentBill ∧
        (job.billingScheduleId.bind s.schedule?).any (·.status == .paused) then s
    else s.onQueue (.retryDeadLetter jobId)
  | none => s

/-- Where an order without a schedule stands: the cycle of `now`, or the one after its last bill. -/
def firstCycleFrom (businessDate : Int) : Nat → BillingCycle → Except RangeError BillingCycle
  | 0, cycle => .ok cycle
  | n + 1, cycle =>
    if cycle.periodEnd < businessDate then
      match buildNextBillingCycle cycle with
      | .ok next => firstCycleFrom businessDate n next
      | .error e => .error e
    else .ok cycle

def cycleForPeriodStart (periodStart : Int) : Nat → BillingCycle → Option BillingCycle
  | 0, _ => none
  | n + 1, cycle =>
    if cycle.periodStart = periodStart then some cycle
    else if periodStart < cycle.periodStart then none
    else
      match buildNextBillingCycle cycle with
      | .ok next => cycleForPeriodStart periodStart n next
      | .error _ => none

/-- The later of two cycles. -/
def laterCycle (basis : Option BillingCycle) (matched : Option BillingCycle) : Option BillingCycle :=
  match basis, matched with
  | some basis, some matched => some (if basis.cycleNo < matched.cycleNo then matched else basis)
  | none, matched => matched
  | basis, none => basis

def reconciliationBaseline (actualDeliveryAt : Int) (bills : List RentBill) (now : Int) :
    Except RangeError BillingCycle :=
  match buildInitialBillingCycle actualDeliveryAt with
  | .error e => .error e
  | .ok initial =>
    let businessDate := toBillingBusinessDate now
    match firstCycleFrom businessDate (businessDate - initial.periodEnd).toNat initial with
    | .error e => .error e
    | .ok cycle =>
      let basisCycle := bills.foldl (fun basis bill =>
        laterCycle basis (cycleForPeriodStart bill.billPeriodStart 1200 initial)) none
      match basisCycle with
      | some basis => if cycle.cycleNo ≤ basis.cycleNo then buildNextBillingCycle basis else .ok cycle
      | none => .ok cycle

def pauseReconciliationBlockedSchedule (snapshot : BillingSchedule) (code : ErrorCode) (s : State) :
    State :=
  match s.schedule? snapshot.id with
  | none => s
  | some schedule =>
    if schedule.version = snapshot.version ∧
        schedule.status = (if snapshot.status = .active then .active else .paused) then
      (s.updateSchedule snapshot.id (pauseForBlocker code)).onQueue
        (.cancelPendingForSchedule snapshot.id)
    else if schedule.status = .paused ∧ isReconciliationPauseReason schedule.pauseReason then
      s.onQueue (.cancelPendingForSchedule snapshot.id)
    else s

def resumeReconciledSchedule (snapshot : BillingSchedule) (s : State) : State :=
  match s.schedule? snapshot.id with
  | none => s
  | some schedule =>
    if schedule.pauseReason = snapshot.pauseReason ∧ schedule.status = .paused ∧
        schedule.version = snapshot.version then
      (s.updateSchedule snapshot.id resumeRow).onQueue
        (.reactivateCancelled snapshot.id snapshot.key (instantOf snapshot.nextGenerateAt))
    else s

/-- The segments stand in the way of the period. -/
def periodBlocker (order : Order) (serviceEndDate : Option Int) (periodStart periodEnd : Int) :
    Option ContractSegmentError :=
  let effectiveServiceEndDate := earliestServiceEndDate
    (resolveEffectiveServiceEndDate order.segments order.endDate) serviceEndDate
  if isPeriodAfterServiceEnd periodStart effectiveServiceEndDate then none
  else
    match resolveSegmentForPeriod order.segments periodStart (some periodEnd) with
    | .error e => some e
    | .ok _ => none

/-- The reconciliation of an order as it was read; the segments are read now. -/
def reconcileOrder (read : Order) (snapshot : Option BillingSchedule) (bills : List RentBill)
    (s : State) : State :=
  match s.order? read.id with
  | none => s
  | some order =>
    match snapshot with
    | some schedule =>
      match periodBlocker order schedule.serviceEndDate schedule.nextPeriodStart
          schedule.nextPeriodEnd with
      | some e => pauseReconciliationBlockedSchedule schedule e.code s
      | none =>
        if schedule.status = .paused ∧ isReconciliationPauseReason schedule.pauseReason then
          resumeReconciledSchedule schedule s
        else s
    | none =>
      match read.actualDeliveryAt with
      | none => s
      | some actualDeliveryAt =>
        match reconciliationBaseline actualDeliveryAt bills s.queue.now with
        | .error _ => s
        | .ok cycle =>
          if (periodBlocker order none cycle.periodStart cycle.periodEnd).isSome then s
          else
            ensureScheduleAtCycle read.id cycle (isPeriodAfterServiceEnd cycle.periodStart
              (resolveEffectiveServiceEndDate order.segments order.endDate)) s

/-! ## Extensions -/

/-- What `resumeForExtension` checks of the segment. -/
def continues (order : Order) (segmentId : Id) (schedule : BillingSchedule) : Bool :=
  order.segments.any fun segment => segment.id == segmentId && segment.sourceChangeOrderId.isSome &&
    effective segment && schedule.nextPeriodStart ≤ segment.endDate

def resumeForExtension (orderId segmentId : Id) (s : State) : State :=
  match s.order? orderId, s.schedules.find? (·.orderId == orderId) with
  | some order, some schedule =>
    if continues order segmentId schedule ∧ schedule.status = .completed then
      s.updateSchedule schedule.id fun row => { resumeRow row with completedAt := none }
    else s
  | _, _ => s

/-! ## The machine -/

def State.init (now : Int) : State := ⟨.init now, [], [], [], [], [], [], []⟩

/-- An order is written; its delivery is recorded once. -/
def State.putOrder (s : State) (order : Order) : State :=
  match s.order? order.id with
  | none => { s with orders := s.orders ++ [order] }
  | some old =>
    if old.actualDeliveryAt.isSome ∧ order.actualDeliveryAt ≠ old.actualDeliveryAt then s
    else { s with orders := s.orders.map fun row => if row.id == order.id then order else row }

def State.updateBill (s : State) (id : Id) (patch : RentBill → RentBill) : State :=
  { s with bills := s.bills.map fun bill => if bill.id == id then patch bill else bill }

def IdempotencyKey.isMonthlyRent : IdempotencyKey → Bool
  | .monthlyRent _ _ => true
  | _ => false

/-- The job types that the worker has handlers for. -/
def supportedJobTypes : List JobType :=
  [.generateMonthlyRentBill, .sendBillDueNotice, .markBillOverdue, .sendBillOverdueNotice]

inductive Event
  | order (order : Order)
  | ensureActiveSchedule (orderId : Id)
  | enqueueDueSchedule (now : Int) (scheduleId : Id)
  | claimDue (limit leaseMs : Int) (skipLocked : List Id) (token : Token)
  | generate (claim : ClaimedJob)
  | complete (claim : ClaimedJob)
  | fail (claim : ClaimedJob) (error : HandlerError)
  /-- The jobs that the handlers of other types and other services add. -/
  | enqueueOther (input : EnqueueInput)
  | cancelPendingForBills (billIds : List Id)
  | retryJob (jobId : Id)
  | pauseCheck (scheduleId : Id)
  | pauseWrite (scheduleId : Id) (reason : String)
  | resumeSchedule (scheduleId : Id)
  | reconcileRead (orderId : Id)
  | reconcileApply (order : Order) (schedule : Option BillingSchedule) (bills : List RentBill)
  | resumeForExtension (orderId segmentId : Id)
  /-- The manual generations: they read the order, then its bills, and then create. -/
  | readOrder (orderId : Id) (source : BillSource)
  | readBills (draft : Draft) (billingDate : Int)
  | createBill (draft : Draft)
  /-- A bill is paid, becomes overdue or is cancelled. -/
  | billStatus (billId : Id) (status : BillStatus)
  | deleteBill (billId : Id)
  | tick (ms : Nat)

/-- A bill of a manual generation; the source key is the default one. -/
def State.createManual (s : State) : Draft → State
  | .period orderId source amount period =>
    match createMonthlyRentBillForPeriodIfAbsent orderId amount period source
        (billingSourceKey orderId period.start) none s.bills with
    | some (_, _, bills) => { s with bills := bills }
    | none => s
  | .order _ _ => s

def State.readDraft (s : State) (billingDate : Int) : Draft → State
  | .order order source =>
    match choosePeriod order source billingDate s.bills with
    | some draft => { s with drafts := draft :: s.drafts }
    | none => s
  | .period _ _ _ _ => s

/-- The worker runs the handler of a generation that it has claimed. -/
def State.generate (s : State) (claim : ClaimedJob) : State :=
  match generateScheduledMonthlyRent claim s with
  | (.ok _, s') => { s' with generated := claim :: s'.generated }
  | (.error _, s') => s'

def step (s : State) : Event → State
  | .order order => s.putOrder order
  | .ensureActiveSchedule orderId =>
    match (s.order? orderId).bind (·.actualDeliveryAt) with
    | some actualDeliveryAt => Billing.ensureActiveSchedule orderId actualDeliveryAt s
    | none => s
  | .enqueueDueSchedule now scheduleId => Billing.enqueueDueSchedule now scheduleId s
  | .claimDue limit leaseMs skipLocked token =>
    s.onQueue (.claimDue limit leaseMs supportedJobTypes skipLocked token)
  | .generate claim =>
    if claim ∈ s.queue.granted ∧ claim.job.jobType = .generateMonthlyRentBill then s.generate claim
    else s
  | .complete claim =>
    -- the worker reports a generation when its handler has ended
    if claim ∈ s.queue.granted ∧
        (claim.job.jobType = .generateMonthlyRentBill → claim ∈ s.generated) then
      s.onQueue (handleClaimedJob claim none)
    else s
  | .fail claim error =>
    if claim ∈ s.queue.granted then s.onQueue (handleClaimedJob claim (some error)) else s
  | .enqueueOther input => if input.idempotencyKey.isMonthlyRent then s else s.enqueue input
  | .cancelPendingForBills billIds => s.onQueue (.cancelPendingForBills billIds)
  | .retryJob jobId => Billing.retryJob jobId s
  | .pauseCheck scheduleId =>
    if (s.schedule? scheduleId).any pausable then { s with pausing := scheduleId :: s.pausing }
    else s
  | .pauseWrite scheduleId reason =>
    if scheduleId ∈ s.pausing then
      { s with pausing := s.pausing.erase scheduleId }.updateSchedule scheduleId fun schedule =>
        { schedule with pauseReason := some reason, status := .paused }
    else s
  | .resumeSchedule scheduleId => Billing.resumeSchedule scheduleId s
  | .reconcileRead orderId =>
    match s.order? orderId with
    | some order =>
      if order.orderStatus = .active ∧ !order.deleted ∧ order.actualDeliveryAt.isSome then
        let snapshot := s.schedules.find? (·.orderId == orderId)
        { s with
          reconciling :=
            (order, snapshot, findValidMonthlyRentBills orderId s.bills) :: s.reconciling }
      else s
    | none => s
  | .reconcileApply order schedule bills =>
    if (order, schedule, bills) ∈ s.reconciling then reconcileOrder order schedule bills s else s
  | .resumeForExtension orderId segmentId => Billing.resumeForExtension orderId segmentId s
  | .readOrder orderId source =>
    match s.order? orderId with
    | some order => { s with drafts := .order order source :: s.drafts }
    | none => s
  | .readBills draft billingDate => if draft ∈ s.drafts then s.readDraft billingDate draft else s
  | .createBill draft => if draft ∈ s.drafts then s.createManual draft else s
  | .billStatus billId status => s.updateBill billId fun bill => { bill with billStatus := status }
  | .deleteBill billId => s.updateBill billId fun bill => { bill with deleted := true }
  | .tick ms => s.onQueue (.tick ms)

abbrev billingRun (now : Int) (evs : List Event) : State := Runs.runs step (.init now) evs

/-! ## Never stalling -/

/-- A generation of the next cycle of the schedule that can still run. -/
def State.hasOpenJob (s : State) (schedule : BillingSchedule) : Bool :=
  s.queue.jobs.any fun job => job.idempotencyKey == schedule.key &&
    job.jobType == .generateMonthlyRentBill && job.billingScheduleId == some schedule.id &&
      (job.jobStatus == .pending || job.jobStatus == .processing || job.jobStatus == .deadLetter)

/-- A scan at any time leaves every active schedule that is due with a generation that can still run,
and no active schedule points at a cycle whose generation is completed. -/
structure NeverStalls (s : State) : Prop where
  scanned : ∀ now, ∀ schedule ∈ s.schedules, schedule.dueAt now = true →
    (enqueueDueSchedules now s).hasOpenJob schedule = true
  notCompleted : ∀ schedule ∈ s.schedules, schedule.status = .active → ∀ job ∈ s.queue.jobs,
    job.idempotencyKey = schedule.key → job.jobStatus ≠ .completed

/-- A generation has completed the schedule, which still points at the cycle of that generation. -/
def State.endedByGeneration (s : State) (schedule : BillingSchedule) : Bool :=
  schedule.status == .completed &&
    s.generated.any fun claim => claim.job.idempotencyKey == schedule.key

/-- The step does not reopen a schedule that a generation has completed: neither does an extension
continue it, nor does a pause that was checked before overwrite it. -/
def KeepsEnded (s : State) : Event → Prop
  | .resumeForExtension orderId _ =>
    ∀ schedule ∈ s.schedules, schedule.orderId = orderId → s.endedByGeneration schedule = false
  | .pauseWrite scheduleId _ => scheduleId ∈ s.pausing →
    ∀ schedule ∈ s.schedules, schedule.id = scheduleId → s.endedByGeneration schedule = false
  | _ => True

instance (s : State) : ∀ e, Decidable (KeepsEnded s e)
  | .resumeForExtension orderId _ => inferInstanceAs (Decidable
      (∀ schedule ∈ s.schedules, schedule.orderId = orderId → s.endedByGeneration schedule = false))
  | .pauseWrite scheduleId _ => inferInstanceAs (Decidable (scheduleId ∈ s.pausing →
      ∀ schedule ∈ s.schedules, schedule.id = scheduleId → s.endedByGeneration schedule = false))
  | .order _ | .ensureActiveSchedule _ | .enqueueDueSchedule .. | .claimDue .. | .generate _
  | .complete _ | .fail .. | .enqueueOther _ | .cancelPendingForBills _ | .retryJob _
  | .pauseCheck _ | .resumeSchedule _ | .reconcileRead _ | .reconcileApply .. | .readOrder ..
  | .readBills .. | .createBill _ | .billStatus .. | .deleteBill _ | .tick _ => isTrue trivial

end SubscriptionSaas.Billing
