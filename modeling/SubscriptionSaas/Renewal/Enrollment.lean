import SubscriptionSaas.Change.Rows
import SubscriptionSaas.Lib.Batches
import SubscriptionSaas.Lib.Runs

/-!
# Enrolment for renewal

The maintenance scan looks for active segments that end within thirty days and have no renewal
consideration, and enqueues an enrolment job for each of at most two hundred of them. The job creates
the consideration of its segment with the reminders, and their jobs with the job of the expiry.
Segments, orders, considerations are numbered by their places; a job is known by its idempotency key,
and what a worker does with a job it has claimed is one step. The backoff after a failed attempt is
left out: an open job can be handled at any time.
-/

namespace SubscriptionSaas.Renewal

open Calendar Billing Contract
open Change (OrderStatus VehicleStatus)

/-! ## The renewal calendar -/

inductive ReminderSlot
  | d30 | d14 | d3
  deriving DecidableEq

def reminderSlots : List ReminderSlot := [.d30, .d14, .d3]

structure RenewalSchedule where
  completionDeadlineAt : Int
  considerationStartAt : Int
  reminders : ReminderSlot → Int

def atShanghaiHour (date hour : Int) : Int := instantOf date + hour * 3600000 - chinaTimeOffsetMs

def renewalSchedule (endDate : Int) : RenewalSchedule where
  completionDeadlineAt := atShanghaiHour (addUtcDays endDate 1) 0
  considerationStartAt := atShanghaiHour (addUtcDays endDate (-30)) 9
  reminders
    | .d30 => atShanghaiHour (addUtcDays endDate (-30)) 9
    | .d14 => atShanghaiHour (addUtcDays endDate (-14)) 9
    | .d3 => atShanghaiHour (addUtcDays endDate (-3)) 9

/-- The index of the last slot that has passed, or -1. -/
def latestApplicableReminderIndex (reminders : ReminderSlot → Int) (now : Int) : Int :=
  reminderSlots.zipIdx.foldl (fun result (slot, index) =>
    if reminders slot ≤ now then (index : Int) else result) (-1)

/-! ## Rows -/

structure Order where
  orderStatus : OrderStatus
  vehicle : Option VehicleStatus
  deriving DecidableEq

structure Segment where
  orderId : Id
  sequenceNo : Int
  status : SegmentStatus
  endDate : Int
  deriving DecidableEq

inductive ReminderStatus
  | pending | skippedLateEnrollment
  deriving DecidableEq

structure Reminder where
  renewalConsiderationId : Id
  slot : ReminderSlot
  scheduledAt : Int
  status : ReminderStatus
  deriving DecidableEq

structure RenewalConsideration where
  orderId : Id
  segmentId : Id
  considerationStartAt : Int
  completionDeadlineAt : Int
  deriving DecidableEq

/-- The idempotency keys, which tell the type of the job. -/
inductive JobKey
  | enroll (segmentId : Id)
  | reminder (considerationId : Id) (slot : ReminderSlot)
  | expiry (segmentId : Id) (endDate : Int)
  | returnOverdue (orderId : Id) (endDate : Int)
  deriving DecidableEq

structure Job where
  key : JobKey
  availableAt : Int
  orderId : Id
  contractSegmentId : Id
  renewalConsiderationId : Option Id
  jobStatus : JobStatus
  attemptCount : Nat
  maxAttempts : Nat
  deriving DecidableEq

/-- `extensionEnabled` is the flag of the environment that the worker and the service read. -/
structure State where
  now : Int
  extensionEnabled : Bool
  orders : List Order
  segments : List Segment
  considerations : List RenewalConsideration
  reminders : List Reminder
  jobs : List Job

/-- The job as it is created. -/
def newJob (key : JobKey) (availableAt : Int) (orderId contractSegmentId : Id)
    (renewalConsiderationId : Option Id) : Job where
  key := key
  availableAt := availableAt
  orderId := orderId
  contractSegmentId := contractSegmentId
  renewalConsiderationId := renewalConsiderationId
  jobStatus := .pending
  attemptCount := 0
  maxAttempts := 6

namespace State

variable (s : State)

def job (key : JobKey) : Option Job := s.jobs.find? (·.key == key)

/-- An upsert that updates nothing. -/
def enqueue (job : Job) : State :=
  if (s.job job.key).isSome then s else { s with jobs := s.jobs ++ [job] }

def setJob (key : JobKey) (f : Job → Job) : State :=
  { s with jobs := s.jobs.map fun job => if job.key == key then f job else job }

def considerationOf (segmentId : Id) : Option Nat :=
  s.considerations.findIdx? (·.segmentId == segmentId)

/-- The segment of the order with the highest sequence number, but for the cancelled ones. -/
def latest (orderId : Id) : Option Id :=
  (((s.segments.zipIdx.filter fun p => p.1.orderId == orderId && p.1.status != .cancelled)
    |>.insertionSort fun a b => b.1.sequenceNo ≤ a.1.sequenceNo).head?).map (·.2)

end State

/-! ## The scan -/

def State.isDue (s : State) (segmentId : Id) : Bool :=
  (s.segments[segmentId]?).any fun g =>
    decide (toBillingBusinessDate s.now ≤ g.endDate) &&
      decide (g.endDate ≤ addUtcDays (toBillingBusinessDate s.now) 30) &&
      (s.considerationOf segmentId).isNone && g.status == .active

/-- What the query of the scan selects from. -/
def State.due (s : State) : List Id := (List.range s.segments.length).filter s.isDue

/-- The scan, for the segments that the query has returned. -/
def enqueueDueEnrollmentJobs (s : State) (segments : List Id) : State :=
  segments.foldl (fun s segmentId => s.enqueue (newJob (.enroll segmentId) s.now
    (((s.segments[segmentId]?).map (·.orderId)).getD 0) segmentId none)) s

/-! ## The enrolment -/

/-- The consideration of the segment, which is created unless it is there. -/
def upsertConsideration (s : State) (segmentId : Id) (segment : Segment) : State × Id :=
  match s.considerationOf segmentId with
  | some id => (s, id)
  | none =>
    let schedule := renewalSchedule segment.endDate
    ({ s with considerations := s.considerations ++ [⟨segment.orderId, segmentId,
      schedule.considerationStartAt, schedule.completionDeadlineAt⟩] }, s.considerations.length)

/-- The reminder of a slot and, while it is pending, its job. -/
def enrollReminder (segmentId : Id) (segment : Segment) (considerationId : Id) (s : State)
    (slot : ReminderSlot × Nat) : State :=
  let schedule := renewalSchedule segment.endDate
  let originalScheduledAt := schedule.reminders slot.1
  let skippedLate := originalScheduledAt < s.now ∧
    slot.2 < latestApplicableReminderIndex schedule.reminders s.now
  let created : Reminder := ⟨considerationId, slot.1,
    if ¬skippedLate ∧ originalScheduledAt < s.now then s.now else originalScheduledAt,
    if skippedLate then .skippedLateEnrollment else .pending⟩
  let existing := s.reminders.find? fun r =>
    r.renewalConsiderationId == considerationId && r.slot == slot.1
  let reminder := existing.getD created
  let s := if existing.isSome then s else { s with reminders := s.reminders ++ [created] }
  if reminder.status = .pending then
    s.enqueue (newJob (.reminder considerationId slot.1) reminder.scheduledAt segment.orderId
      segmentId (some considerationId))
  else s

/-- The enrolment, where the checks have passed. -/
def enroll (s : State) (segmentId : Id) (segment : Segment) : State :=
  let deadline := (renewalSchedule segment.endDate).completionDeadlineAt
  let (s, considerationId) := upsertConsideration s segmentId segment
  let s := reminderSlots.zipIdx.foldl (enrollReminder segmentId segment considerationId) s
  let s := s.enqueue (newJob (.expiry segmentId segment.endDate) deadline segment.orderId segmentId
    (some considerationId))
  s.enqueue (newJob (.returnOverdue segment.orderId segment.endDate) (deadline + 86400000)
    segment.orderId segmentId (some considerationId))

/-- Without effect where a check fails, which is no error. -/
def enrollSegment (s : State) (segmentId : Id) : State :=
  if !s.extensionEnabled then s
  else
    match s.segments[segmentId]? with
    | none => s
    | some segment =>
      if segment.status ≠ .active ∨
          (s.orders[segment.orderId]?).map (·.orderStatus) ≠ some .active ∨
          (s.orders[segment.orderId]?).bind (·.vehicle) ≠ some .leased then s
      else if s.latest segment.orderId ≠ some segmentId then s
      else if (renewalSchedule segment.endDate).completionDeadlineAt ≤ s.now then s
      else enroll s segmentId segment

/-! ## The jobs -/

def jobOpen (job : Job) : Bool := job.jobStatus == .pending || job.jobStatus == .processing

/-- What becomes of a claimed job: it is handled and completed, or handled and the completion is lost
with the lease, or its handling fails. -/
inductive Outcome
  | completed | leaseLost | failed
  deriving DecidableEq

/-- The handling of an enrolment job; the handlers of the other jobs are not about enrolment. -/
def handle (s : State) : JobKey → State
  | .enroll segmentId => enrollSegment s segmentId
  | _ => s

def complete (job : Job) : Job := { job with jobStatus := .completed }

def failAttempt (job : Job) : Job :=
  { job with
    attemptCount := job.attemptCount + 1
    jobStatus := if job.maxAttempts ≤ job.attemptCount + 1 then .deadLetter else .pending }

/-- A worker claims the job and handles it. -/
def handleClaimedJob (s : State) (key : JobKey) (outcome : Outcome) : State :=
  if (s.job key).any jobOpen then
    match outcome with
    | .completed => (handle s key).setJob key complete
    | .leaseLost => (handle s key).setJob key fun job => { job with jobStatus := .processing }
    | .failed => s.setJob key failAttempt
  else s

/-- An administrator reopens a job that is out of attempts. -/
def retryDeadLetter (s : State) (key : JobKey) : State :=
  s.setJob key fun job =>
    if job.jobStatus = .deadLetter then { job with jobStatus := .pending, attemptCount := 0 } else job

/-! ## The machine -/

/-- The scan and the jobs, and what else may happen: the flag, the orders and the segments change. A
segment keeps its order, its number and its end as long as it is active. -/
inductive Event
  | tick (elapsed : Nat)
  | feature (enabled : Bool)
  | addOrder (order : Order)
  | setOrder (orderId : Id) (order : Order)
  | addSegment (segment : Segment)
  | setSegment (segmentId : Id) (status : SegmentStatus)
  | scan (segments : List Id)
  | handleClaimedJob (key : JobKey) (outcome : Outcome)
  | retryDeadLetter (key : JobKey)

/-- `take` of the query. -/
def batchSize : Nat := 200

/-- The query returns any batch of what it selects. -/
def step (s : State) : Event → State
  | .tick elapsed => { s with now := s.now + elapsed }
  | .feature enabled => { s with extensionEnabled := enabled }
  | .addOrder order => { s with orders := s.orders ++ [order] }
  | .setOrder orderId order => { s with orders := s.orders.set orderId order }
  | .addSegment segment => { s with segments := s.segments ++ [segment] }
  | .setSegment segmentId status =>
    { s with segments := s.segments.modify segmentId fun g => { g with status := status } }
  | .scan segments =>
    if s.extensionEnabled ∧ Batches.Picks batchSize s.due segments then
      enqueueDueEnrollmentJobs s segments
    else s
  | .handleClaimedJob key outcome => Renewal.handleClaimedJob s key outcome
  | .retryDeadLetter key => Renewal.retryDeadLetter s key

def initial (now : Int) : State where
  now := now
  extensionEnabled := false
  orders := []
  segments := []
  considerations := []
  reminders := []
  jobs := []

def history (now : Int) (evs : List Event) : State := Runs.runs step (initial now) evs

/-! ## Scans and jobs, again and again -/

/-- The conditions of the enrolment but for the deadline. -/
def State.enrollable (s : State) (segmentId : Id) : Bool :=
  s.extensionEnabled && (s.segments[segmentId]?).any fun g =>
    g.status == .active &&
      (s.orders[g.orderId]?).any (fun o => o.orderStatus == .active && o.vehicle == some .leased) &&
      s.latest g.orderId == some segmentId

/-- The enrolment may still have its effect: its job is open or yet to be enqueued. -/
def State.ready (s : State) (segmentId : Id) : Bool :=
  s.enrollable segmentId && (s.job (.enroll segmentId)).all jobOpen

/-- What the query selects in every scan, in vain. -/
def State.stuck (s : State) : List Id := s.due.filter fun i => !s.ready i

/-- The segments with an open enrolment job. -/
def State.openEnrollments (s : State) : List Id :=
  (List.range s.segments.length).filter fun i => (s.job (.enroll i)).any jobOpen

/-- Every open enrolment job is handled and completed. -/
def runEnrollments (s : State) : State :=
  s.openEnrollments.foldl (fun s i => step s (.handleClaimedJob (.enroll i) .completed)) s

/-- A scan, and then the jobs. -/
def round (s : State) (segments : List Id) : State := runEnrollments (step s (.scan segments))

end SubscriptionSaas.Renewal
