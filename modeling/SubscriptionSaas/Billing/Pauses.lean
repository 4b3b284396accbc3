import SubscriptionSaas.Billing.Service

/-!
# Pausing and resuming a schedule

What a stretch of events may not lose: the cycles of a schedule, the generation of the next one, and
the jobs of the bills that are issued but not paid. A reconciliation that finds the segments in the
way pauses the schedule and cancels every pending job of it; what it resumes later is the generation
of the next cycle alone.
-/

namespace SubscriptionSaas.Billing

/-- The bill is issued and has still to be paid. -/
def RentBill.unpaid (bill : RentBill) : Bool :=
  !bill.deleted && bill.billStatus != .paid && bill.billStatus != .cancelled

def State.unpaid (s : State) (billId : Id) : Bool :=
  s.bills.any fun bill => bill.id == billId && bill.unpaid

/-- The event settles the bill or takes it back. -/
def Event.settles (billId : Id) : Event → Bool
  | .cancelPendingForBills billIds => billIds.contains billId
  | .billStatus id status => id == billId && (status == .paid || status == .cancelled)
  | .deleteBill id => id == billId
  | _ => false

/-- A generation of the next cycle of the schedule is waiting or under way. -/
def State.hasRunnableJob (s : State) (schedule : BillingSchedule) : Bool :=
  s.queue.jobs.any fun job => job.idempotencyKey == schedule.key &&
    job.jobType == .generateMonthlyRentBill && job.billingScheduleId == some schedule.id &&
      (job.jobStatus == .pending || job.jobStatus == .processing)

/-- The generation of the next cycle has failed for good and waits for a retry by hand. -/
def State.deadLettered (s : State) (schedule : BillingSchedule) : Bool :=
  s.queue.jobs.any fun job => job.idempotencyKey == schedule.key && job.jobStatus == .deadLetter

/-- What the events `evs` that follow on `s` have not lost. -/
structure LosesNothing (s : State) (evs : List Event) : Prop where
  /-- A schedule has stood at every cycle between the first and the last, and each cycle that it has
  left is billed. -/
  cycles : ∀ schedule ∈ s.schedules, ∃ schedule' ∈ (Runs.runs step s evs).schedules,
    schedule'.id = schedule.id ∧ schedule.nextCycleNo ≤ schedule'.nextCycleNo ∧
      ∀ n, schedule.nextCycleNo ≤ n → n < schedule'.nextCycleNo →
        ∃ k, ∃ between ∈ (Runs.runs step s (evs.take k)).schedules, between.id = schedule.id ∧
          between.nextCycleNo = n ∧ ∃ bill ∈ (Runs.runs step s evs).bills,
            bill.orderId = schedule.orderId ∧ bill.billPeriodStart = between.nextPeriodStart
  /-- A scan finds or adds a generation for every active schedule that is due. -/
  generation : ∀ now, ∀ schedule ∈ (Runs.runs step s evs).schedules, schedule.dueAt now = true →
    (Runs.runs step s evs).deadLettered schedule = false →
      (enqueueDueSchedules now (Runs.runs step s evs)).hasRunnableJob schedule = true
  /-- A job of an unpaid bill that was pending is pending again, or it has run. -/
  billJobs : ∀ schedule ∈ s.schedules, ∀ job ∈ s.queue.jobs,
    job.billingScheduleId = some schedule.id → job.jobStatus = .pending →
      ∀ billId, job.billId = some billId → s.unpaid billId = true →
        (∀ e ∈ evs, e.settles billId = false) →
          ∃ job' ∈ (Runs.runs step s evs).queue.jobs, job'.id = job.id ∧ job'.jobStatus ≠ .cancelled

/-- The reconciliation of an order, as it was read, cancels the pending jobs of the schedule. -/
def State.cancelsPending (s : State) (read : Order) (snapshot : BillingSchedule) : Bool :=
  (s.order? read.id).any (fun order =>
    (periodBlocker order snapshot.serviceEndDate snapshot.nextPeriodStart
      snapshot.nextPeriodEnd).isSome) &&
  (s.schedule? snapshot.id).any fun schedule =>
    (schedule.version == snapshot.version &&
      schedule.status == if snapshot.status = .active then .active else .paused) ||
        (schedule.status == .paused && isReconciliationPauseReason schedule.pauseReason)

/-- No reconciliation cancels a pending job of a bill that is not paid. -/
def KeepsBillJobs (s : State) : Event → Prop
  | .reconcileApply read (some snapshot) bills =>
    (read, some snapshot, bills) ∈ s.reconciling → s.cancelsPending read snapshot = true →
      ∀ job ∈ s.queue.jobs, job.billingScheduleId = some snapshot.id → job.jobStatus = .pending →
        job.billId.any s.unpaid = false
  | _ => True

instance (s : State) : ∀ e, Decidable (KeepsBillJobs s e)
  | .reconcileApply read (some snapshot) bills => inferInstanceAs (Decidable
      ((read, some snapshot, bills) ∈ s.reconciling → s.cancelsPending read snapshot = true →
        ∀ job ∈ s.queue.jobs, job.billingScheduleId = some snapshot.id →
          job.jobStatus = .pending → job.billId.any s.unpaid = false))
  | .reconcileApply _ none _ | .order _ | .ensureActiveSchedule _ | .enqueueDueSchedule ..
  | .claimDue .. | .generate _ | .complete _ | .fail .. | .enqueueOther _ | .cancelPendingForBills _
  | .retryJob _ | .pauseCheck _ | .pauseWrite .. | .resumeSchedule _ | .reconcileRead _
  | .resumeForExtension .. | .readOrder .. | .readBills .. | .createBill _ | .billStatus ..
  | .deleteBill _ | .tick _ => isTrue trivial

/-- The step loses no automation. -/
def KeepsAutomation (s : State) (e : Event) : Prop := KeepsEnded s e ∧ KeepsBillJobs s e

instance (s : State) (e : Event) : Decidable (KeepsAutomation s e) :=
  inferInstanceAs (Decidable (KeepsEnded s e ∧ KeepsBillJobs s e))

end SubscriptionSaas.Billing
