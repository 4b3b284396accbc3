import SubscriptionSaas.Lib.Runs
import Mathlib.Data.List.Sort

/-!
# Billing automation jobs

The job table of the billing automation, the operations of its repository, and the worker that decides
what becomes of a claimed job. Every operation is a single conditional `UPDATE`, or a transaction
that holds the row locks of what it updates, so it is one step here; what happens between a claim and
the outcome of a job, and how many workers there are, is left to the order of the steps.

A claim returns a snapshot of the job together with its lease. `JobTable.granted` keeps every snapshot
ever handed out: a worker may come back with it at any later time.

Instants are milliseconds and dates are days, both counted from the beginning of 1970.
-/

namespace SubscriptionSaas.Billing

/-- A UUID. -/
abbrev Id := Nat
/-- A UUID that names a lease. -/
abbrev Token := Nat

inductive JobType
  | generateMonthlyRentBill | sendBillDueNotice | markBillOverdue | sendBillOverdueNotice
  | submitBillDebit | queryDebitAttempt | sendDebitFailureNotice | syncPaymentMandate
  | renewalConsiderationEnroll | renewalReminderD30 | renewalReminderD14 | renewalReminderD3
  | renewalExpiryProcess | renewalReturnOverdueD1 | extensionSegmentActivate
  | extensionBillingResume | extensionEntitlementRenew | extensionInsuranceValidation
  | extensionEffectiveNotice | closureRecoveryAssessmentD7 | closureReturnManifestEsign
  deriving DecidableEq

inductive JobStatus
  | pending | processing | completed | deadLetter | cancelled
  deriving DecidableEq

/-- Left only by an explicit retry or reactivation. -/
def JobStatus.terminal : JobStatus → Bool
  | .completed | .deadLetter | .cancelled => true
  | .pending | .processing => false

/-- The idempotency keys; each kind has a prefix of its own. -/
inductive IdempotencyKey
  /-- `billingSourceKey`. -/
  | monthlyRent (orderId : Id) (periodStart : Int)
  | billDueNotice (billId : Id)
  | billOverdue (billId : Id) (overdueAt : Int)
  | billOverdueNotice (billId : Id)
  | other (text : String)
  deriving DecidableEq

/-- The codes that a handler's error is reduced to. -/
inductive FailureCode
  | configurationError | executionError | schedulePaused | autoDebitQueryPending
  deriving DecidableEq

/-- `BillingAutomationFailure`. -/
structure Failure where
  code : FailureCode
  message : String
  retryable : Bool
  deriving DecidableEq

/-- `subscription_automation_job`. -/
structure Job where
  id : Id
  billingScheduleId : Option Id
  orderId : Option Id
  billId : Option Id
  jobType : JobType
  jobStatus : JobStatus
  idempotencyKey : IdempotencyKey
  availableAt : Int
  attemptCount : Int
  maxAttempts : Int
  leaseToken : Option Token
  leaseExpiresAt : Option Int
  lastErrorCode : Option FailureCode
  lastErrorMessage : Option String
  startedAt : Option Int
  completedAt : Option Int
  cancelledAt : Option Int
  createdAt : Int
  deriving DecidableEq

/-- A job with its lease, as `claimDue` returns it. -/
structure ClaimedJob where
  job : Job
  leaseToken : Token
  leaseExpiresAt : Int
  deriving DecidableEq

/-- `updateMany`: the rows afterwards, and how many were updated. -/
def updateMany (data : Job → Job) (p : Job → Bool) (jobs : List Job) : List Job × Nat :=
  (jobs.map fun j => if p j then data j else j, jobs.countP p)

/-! ## The repository -/

structure EnqueueInput where
  availableAt : Int
  billId : Option Id
  billingScheduleId : Option Id
  idempotencyKey : IdempotencyKey
  jobType : JobType
  maxAttempts : Option Int
  orderId : Option Id

/-- The row `enqueue` creates. -/
def newJob (now : Int) (id : Id) (input : EnqueueInput) : Job :=
  { id := id
    billingScheduleId := input.billingScheduleId
    orderId := input.orderId
    billId := input.billId
    jobType := input.jobType
    jobStatus := .pending
    idempotencyKey := input.idempotencyKey
    availableAt := input.availableAt
    attemptCount := 0
    maxAttempts := input.maxAttempts.getD 6
    leaseToken := none
    leaseExpiresAt := none
    lastErrorCode := none
    lastErrorMessage := none
    startedAt := none
    completedAt := none
    cancelledAt := none
    createdAt := now }

/-- An upsert that leaves an existing row alone; the primary key refuses an id that is taken. -/
def enqueue (now : Int) (id : Id) (input : EnqueueInput) (jobs : List Job) : List Job :=
  if jobs.any fun j => j.idempotencyKey == input.idempotencyKey || j.id == id then jobs
  else jobs ++ [newJob now id input]

/-- The job can be claimed: it is due, or its lease has expired. -/
def due (now : Int) (job : Job) : Bool :=
  (job.jobStatus == .pending && job.availableAt ≤ now) ||
    (job.jobStatus == .processing && job.leaseExpiresAt.any (· ≤ now))

/-- A generation waits for its schedule to be active. -/
def scheduleAllows (activeSchedules : List Id) (job : Job) : Bool :=
  job.jobType != .generateMonthlyRentBill || job.billingScheduleId.any activeSchedules.contains

def byAvailability (jobs : List Job) : List Job :=
  jobs.insertionSort fun a b =>
    a.availableAt < b.availableAt ∨ a.availableAt = b.availableAt ∧ a.createdAt ≤ b.createdAt

/-- The rows that `claimDue` selects; rows that other transactions have locked are skipped. -/
def claimCandidates (now : Int) (limit : Int) (supported : List JobType)
    (activeSchedules skipLocked : List Id) (jobs : List Job) : List Job :=
  (byAvailability (jobs.filter fun j => due now j && supported.contains j.jobType &&
    scheduleAllows activeSchedules j && !skipLocked.contains j.id)).take limit.toNat

def lease (now : Int) (leaseMs : Int) (token : Token) (job : Job) : Job :=
  { job with
    jobStatus := .processing
    leaseToken := some token
    leaseExpiresAt := some (now + leaseMs)
    startedAt := some now }

/-- `hasLease`. -/
def hasLease (job : Job) : Option ClaimedJob :=
  match job.leaseToken, job.leaseExpiresAt with
  | some token, some expiresAt => some ⟨job, token, expiresAt⟩
  | _, _ => none

/-- The selected rows are leased under one new token and returned. -/
def claimDue (now : Int) (limit leaseMs : Int) (supported : List JobType)
    (activeSchedules skipLocked : List Id) (token : Token) (jobs : List Job) :
    List Job × List ClaimedJob :=
  if limit ≤ 0 ∨ leaseMs ≤ 0 ∨ supported = [] then (jobs, [])
  else
    let ids := (claimCandidates now limit supported activeSchedules skipLocked jobs).map (·.id)
    let (jobs, _) := updateMany (lease now leaseMs token) (fun j => ids.contains j.id && due now j)
      jobs
    (jobs, (byAvailability (jobs.filter fun j =>
      ids.contains j.id && j.leaseToken == some token)).filterMap hasLease)

/-- The row is still leased under this token. -/
def processingLease (jobId : Id) (token : Token) (job : Job) : Bool :=
  job.id == jobId && job.jobStatus == .processing && job.leaseToken == some token

def completedRow (now : Int) (job : Job) : Job :=
  { job with
    completedAt := some now
    jobStatus := .completed
    lastErrorCode := none
    lastErrorMessage := none
    leaseExpiresAt := none
    leaseToken := none }

def complete (now : Int) (jobId : Id) (token : Token) (jobs : List Job) : List Job × Nat :=
  updateMany (completedRow now) (processingLease jobId token) jobs

def rescheduledRow (now : Int) (delayMs : Nat) (error : Failure) (job : Job) : Job :=
  { job with
    attemptCount := job.attemptCount + 1
    availableAt := now + delayMs
    jobStatus := .pending
    lastErrorCode := some error.code
    lastErrorMessage := some error.message
    leaseExpiresAt := none
    leaseToken := none }

def reschedule (now : Int) (jobId : Id) (token : Token) (delayMs : Nat) (error : Failure)
    (jobs : List Job) : List Job × Nat :=
  updateMany (rescheduledRow now delayMs error) (processingLease jobId token) jobs

def deferredRow (now : Int) (reason : Failure) (job : Job) : Job :=
  { job with
    availableAt := now
    jobStatus := .pending
    lastErrorCode := some reason.code
    lastErrorMessage := some reason.message
    leaseExpiresAt := none
    leaseToken := none }

def defer (now : Int) (jobId : Id) (token : Token) (reason : Failure) (jobs : List Job) :
    List Job × Nat :=
  updateMany (deferredRow now reason) (processingLease jobId token) jobs

def deadLetterRow (now : Int) (error : Failure) (job : Job) : Job :=
  { job with
    attemptCount := job.attemptCount + 1
    completedAt := some now
    jobStatus := .deadLetter
    lastErrorCode := some error.code
    lastErrorMessage := some error.message
    leaseExpiresAt := none
    leaseToken := none }

def deadLetter (now : Int) (jobId : Id) (token : Token) (error : Failure) (jobs : List Job) :
    List Job × Nat :=
  updateMany (deadLetterRow now error) (processingLease jobId token) jobs

def cancelRow (now : Int) (job : Job) : Job :=
  { job with cancelledAt := some now, completedAt := some now, jobStatus := .cancelled }

/-- `SETTLED_BILL_JOB_TYPES`. -/
def settledBillJobTypes : List JobType :=
  [.sendBillDueNotice, .markBillOverdue, .sendBillOverdueNotice, .submitBillDebit,
    .queryDebitAttempt, .sendDebitFailureNotice]

def cancelPendingForBills (now : Int) (billIds : List Id) (jobs : List Job) :
    List Job × Nat :=
  if billIds = [] then (jobs, 0)
  else updateMany (cancelRow now) (fun j => j.billId.any billIds.contains &&
    j.jobStatus == .pending && settledBillJobTypes.contains j.jobType) jobs

def cancelPendingForSchedule (now : Int) (billingScheduleId : Id) (jobs : List Job) :
    List Job × Nat :=
  updateMany (cancelRow now)
    (fun j => j.billingScheduleId == some billingScheduleId && j.jobStatus == .pending) jobs

/-- The columns a reactivation and a retry reset. -/
def reopenRow (availableAt : Int) (job : Job) : Job :=
  { job with
    attemptCount := 0
    availableAt := availableAt
    completedAt := none
    jobStatus := .pending
    lastErrorCode := none
    lastErrorMessage := none
    leaseExpiresAt := none
    leaseToken := none
    startedAt := none }

def reactivatedRow (availableAt : Int) (job : Job) : Job :=
  { reopenRow availableAt job with cancelledAt := none }

def reactivateCancelledScheduleGeneration (billingScheduleId : Id) (key : IdempotencyKey)
    (availableAt : Int) (jobs : List Job) : List Job × Nat :=
  updateMany (reactivatedRow availableAt)
    (fun j => j.billingScheduleId == some billingScheduleId && j.idempotencyKey == key &&
      j.jobStatus == .cancelled && j.jobType == .generateMonthlyRentBill) jobs

def retryDeadLetter (now : Int) (jobId : Id) (jobs : List Job) : List Job × Nat :=
  updateMany (reopenRow now) (fun j => j.id == jobId && j.jobStatus == .deadLetter) jobs

/-! ## The machine -/

/-- The table, the database clock, and, for the record, the leases that were granted and those that an
outcome has ended. -/
structure JobTable where
  jobs : List Job
  /-- The schedules whose status is `ACTIVE`. -/
  activeSchedules : List Id
  now : Int
  granted : List ClaimedJob
  ended : List (Id × Token)

inductive JobEvent
  | enqueue (id : Id) (input : EnqueueInput)
  | claimDue (limit leaseMs : Int) (supported : List JobType) (skipLocked : List Id)
      (token : Token)
  | complete (jobId : Id) (token : Token)
  | reschedule (jobId : Id) (token : Token) (delayMs : Nat) (error : Failure)
  | defer (jobId : Id) (token : Token) (reason : Failure)
  | deadLetter (jobId : Id) (token : Token) (error : Failure)
  | cancelPendingForBills (billIds : List Id)
  | cancelPendingForSchedule (billingScheduleId : Id)
  | reactivateCancelled (billingScheduleId : Id) (key : IdempotencyKey) (availableAt : Int)
  | retryDeadLetter (jobId : Id)
  /-- Time passes. -/
  | tick (ms : Nat)
  /-- Schedules are paused, resumed and completed. -/
  | schedules (active : List Id)

/-- The lease whose outcome the event reports. -/
def JobEvent.outcome? : JobEvent → Option (Id × Token)
  | .complete jobId token | .reschedule jobId token _ _ | .defer jobId token _
  | .deadLetter jobId token _ => some (jobId, token)
  | _ => none

/-- The outcome of a lease: the rows afterwards, and the lease if a row was updated. -/
def JobTable.settle (s : JobTable) (jobId : Id) (token : Token) (result : List Job × Nat) :
    JobTable :=
  { s with
    jobs := result.1
    ended := if result.2 = 0 then s.ended else (jobId, token) :: s.ended }

def jobStep (s : JobTable) : JobEvent → JobTable
  | .enqueue id input => { s with jobs := enqueue s.now id input s.jobs }
  | .claimDue limit leaseMs supported skipLocked token =>
    let (jobs, claimed) := claimDue s.now limit leaseMs supported s.activeSchedules skipLocked token
      s.jobs
    { s with jobs := jobs, granted := claimed ++ s.granted }
  | .complete jobId token => s.settle jobId token (complete s.now jobId token s.jobs)
  | .reschedule jobId token delayMs error =>
    s.settle jobId token (reschedule s.now jobId token delayMs error s.jobs)
  | .defer jobId token reason => s.settle jobId token (defer s.now jobId token reason s.jobs)
  | .deadLetter jobId token error =>
    s.settle jobId token (deadLetter s.now jobId token error s.jobs)
  | .cancelPendingForBills billIds =>
    { s with jobs := (cancelPendingForBills s.now billIds s.jobs).1 }
  | .cancelPendingForSchedule id => { s with jobs := (cancelPendingForSchedule s.now id s.jobs).1 }
  | .reactivateCancelled id key availableAt =>
    { s with jobs := (reactivateCancelledScheduleGeneration id key availableAt s.jobs).1 }
  | .retryDeadLetter jobId => { s with jobs := (retryDeadLetter s.now jobId s.jobs).1 }
  | .tick ms => { s with now := s.now + ms }
  | .schedules active => { s with activeSchedules := active }

/-- An empty table at time `now`. -/
def JobTable.init (now : Int) : JobTable := ⟨[], [], now, [], []⟩

abbrev jobRun (now : Int) (evs : List JobEvent) : JobTable := Runs.runs jobStep (.init now) evs

/-! ## The worker -/

/-- What a handler throws: a billing error with one of the known codes, or anything else. -/
abbrev HandlerError := Option FailureCode

def genericExecutionError : Failure :=
  ⟨.executionError, "Billing automation operation failed.", true⟩

def sanitizeBillingAutomationError : HandlerError → Failure
  | some .configurationError =>
    ⟨.configurationError, "Billing automation configuration is invalid.", false⟩
  | some .executionError => genericExecutionError
  | some .schedulePaused => ⟨.schedulePaused, "Billing schedule is paused.", true⟩
  | some .autoDebitQueryPending =>
    ⟨.autoDebitQueryPending, "Debit result is still pending provider confirmation.", true⟩
  | none => genericExecutionError

/-- `RETRY_DELAYS_MS`. -/
def retryDelaysMs : List Nat := [60000, 300000, 900000, 3600000, 21600000]

def retryDelayMs (attemptCount : Int) : Nat :=
  retryDelaysMs.getD (min attemptCount.toNat (retryDelaysMs.length - 1)) 0

/-- What the worker does with a claimed job once its handler has ended, with an error or without. -/
def handleClaimedJob (claim : ClaimedJob) : Option HandlerError → JobEvent
  | none => .complete claim.job.id claim.leaseToken
  | some error =>
    let sanitized := sanitizeBillingAutomationError error
    if sanitized.code = .schedulePaused then .defer claim.job.id claim.leaseToken sanitized
    else
      let failedAttempt := claim.job.attemptCount + 1
      if !sanitized.retryable || claim.job.maxAttempts ≤ failedAttempt then
        .deadLetter claim.job.id claim.leaseToken sanitized
      else
        .reschedule claim.job.id claim.leaseToken (retryDelayMs claim.job.attemptCount) sanitized

/-! ## Leases -/

/-- What names a lease: one claim leases several jobs under one token. -/
def ClaimedJob.lease (g : ClaimedJob) : Id × Token := (g.job.id, g.leaseToken)

/-- The lease has neither expired nor been ended by an outcome. -/
def JobTable.live (s : JobTable) (g : ClaimedJob) : Prop :=
  s.now < g.leaseExpiresAt ∧ g.lease ∉ s.ended

/-- `randomUUID`: a claim uses a token that no earlier claim has used. -/
def Fresh (s : JobTable) : JobEvent → Prop
  | .claimDue _ _ _ _ token => ∀ g ∈ s.granted, g.leaseToken ≠ token
  | _ => True

instance (s : JobTable) : ∀ e, Decidable (Fresh s e)
  | .claimDue _ _ _ _ token => inferInstanceAs (Decidable (∀ g ∈ s.granted, g.leaseToken ≠ token))
  | .enqueue .. | .complete .. | .reschedule .. | .defer .. | .deadLetter ..
  | .cancelPendingForBills _ | .cancelPendingForSchedule _ | .reactivateCancelled ..
  | .retryDeadLetter _ | .tick _ | .schedules _ => isTrue trivial

/-- Outcomes are reported by workers, each of them for a job that it has claimed. -/
def ByWorker (s : JobTable) (e : JobEvent) : Prop :=
  e.outcome?.isSome → ∃ g ∈ s.granted, ∃ handled, e = handleClaimedJob g handled

end SubscriptionSaas.Billing
