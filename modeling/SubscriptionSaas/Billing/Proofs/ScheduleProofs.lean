import SubscriptionSaas.Billing.Proofs.JobProofs
import SubscriptionSaas.Billing.Proofs.CalendarProofs
import SubscriptionSaas.Billing.Service

/-!
# Monthly billing does not stall

`ScheduleOk` ties the schedules to the jobs that generate their bills: a job with the key of a cycle
belongs to the schedule of its order, it is completed only if its generation has ended without an
error, and a schedule that is not completed has not been generated for the cycle it points at. Every
operation keeps this, except those that open a schedule again after a generation has completed it.
-/

namespace SubscriptionSaas.Billing

open Calendar Contract

theorem isMonthlyRent_iff {key : IdempotencyKey} :
    key.isMonthlyRent = true ↔ ∃ orderId start, key = .monthlyRent orderId start := by
  cases key <;> simp [IdempotencyKey.isMonthlyRent]

theorem BillingSchedule.key_eq (r : BillingSchedule) :
    r.key = .monthlyRent r.orderId r.nextPeriodStart := by
  simp [BillingSchedule.key, billingSourceKey]

/-- How the schedules, their jobs and the generations that have ended belong together. -/
structure ScheduleOk (queue : JobTable) (schedules : List BillingSchedule)
    (generated : List ClaimedJob) : Prop where
  ids : (schedules.map (·.id)).Nodup
  ids_lt : ∀ r ∈ schedules, r.id < schedules.length
  orderIds : (schedules.map (·.orderId)).Nodup
  jobIds : (queue.jobs.map (·.id)).Nodup
  jobIds_lt : ∀ j ∈ queue.jobs, j.id < queue.jobs.length
  owned : ∀ j ∈ queue.jobs, ∀ orderId start, j.idempotencyKey = .monthlyRent orderId start →
    j.jobType = .generateMonthlyRentBill ∧
      ∃ r ∈ schedules, r.orderId = orderId ∧ j.billingScheduleId = some r.id
  granted : ∀ g ∈ queue.granted, ∃ j ∈ queue.jobs, j.id = g.job.id ∧
    j.idempotencyKey = g.job.idempotencyKey ∧ j.jobType = g.job.jobType
  done : ∀ j ∈ queue.jobs, j.idempotencyKey.isMonthlyRent = true → j.jobStatus = .completed →
    ∃ g ∈ generated, g.job.idempotencyKey = j.idempotencyKey
  past : ∀ g ∈ generated, ∀ orderId start, g.job.idempotencyKey = .monthlyRent orderId start →
    ∃ r ∈ schedules, r.orderId = orderId ∧ start ≤ r.nextPeriodStart
  ahead : ∀ r ∈ schedules, r.status ≠ .completed → ∀ g ∈ generated, g.job.idempotencyKey ≠ r.key

abbrev State.Ok (s : State) : Prop := ScheduleOk s.queue s.schedules s.generated

theorem State.Ok.init (now : Int) : (State.init now).Ok := by
  constructor <;> simp [State.init, JobTable.init]

variable {s : State}

/-! ## The job table -/

/-- What the billing does to its job table: rows are numbered, the jobs of the cycles are those of the
schedules, and a generation is reported when it has ended. -/
def Reported (s : State) (t : JobTable) : JobEvent → Prop
  | .enqueue id input => id = t.jobs.length ∧ (input.idempotencyKey.isMonthlyRent = true →
      ∃ r ∈ s.schedules, input = generateInput r)
  | .complete jobId _ => ∃ claim ∈ t.granted, claim.job.id = jobId ∧
      (claim.job.jobType = .generateMonthlyRentBill → claim ∈ s.generated)
  | _ => True

theorem ScheduleOk.jobIds_lt_step {t : JobTable} {e : JobEvent}
    (h : ScheduleOk t s.schedules s.generated) (he : Reported s t e) :
    ∀ j ∈ (jobStep t e).jobs, j.id < (jobStep t e).jobs.length := by
  obtain ⟨move, extra, hjobs, hmove, hextra⟩ := jobStep_jobs t e
  intro j' hj'
  rw [hjobs, List.mem_append] at hj'
  rw [hjobs, List.length_append, List.length_map]
  rcases hj' with hj' | hj'
  · obtain ⟨j, hj, rfl⟩ := List.mem_map.1 hj'
    have hid := (hmove j hj).id_eq
    rw [hid]
    exact Nat.lt_add_right _ (h.jobIds_lt j hj)
  · rcases hextra with rfl | ⟨id, input, rfl, rfl, -⟩
    · cases hj'
    · rw [List.mem_singleton.1 hj']
      have hid : id = t.jobs.length := he.1
      simp [newJob, hid]

theorem ScheduleOk.owned_step {t : JobTable} {e : JobEvent}
    (h : ScheduleOk t s.schedules s.generated) (he : Reported s t e) {j' : Job}
    (hj' : j' ∈ (jobStep t e).jobs) {orderId : Id} {start : Int}
    (hkey : j'.idempotencyKey = .monthlyRent orderId start) :
    j'.jobType = .generateMonthlyRentBill ∧
      ∃ r ∈ s.schedules, r.orderId = orderId ∧ j'.billingScheduleId = some r.id := by
  rcases jobStep_row hj' with ⟨j, hj, hmove⟩ | ⟨id, input, rfl, rfl, -⟩
  · obtain ⟨hk, ht, hs⟩ := hmove.kept
    rw [ht, hs]
    exact h.owned j hj orderId start (hk ▸ hkey)
  · have hinput : input.idempotencyKey = .monthlyRent orderId start := hkey
    obtain ⟨r, hr, rfl⟩ := he.2 (isMonthlyRent_iff.2 ⟨orderId, start, hinput⟩)
    have hr' : r.key = .monthlyRent orderId start := hinput
    rw [r.key_eq] at hr'
    injection hr' with horder hstart
    exact ⟨rfl, r, hr, horder, rfl⟩

theorem ScheduleOk.granted_step {t : JobTable} {e : JobEvent}
    (h : ScheduleOk t s.schedules s.generated) {g : ClaimedJob} (hg : g ∈ (jobStep t e).granted) :
    ∃ j ∈ (jobStep t e).jobs, j.id = g.job.id ∧ j.idempotencyKey = g.job.idempotencyKey ∧
      j.jobType = g.job.jobType := by
  rcases jobStep_granted hg with hg | ⟨hmem, -, -⟩
  · obtain ⟨j, hj, hid, hkey, htype⟩ := h.granted g hg
    obtain ⟨j', hj', hmove⟩ := jobStep_kept hj e
    obtain ⟨hk, ht, -⟩ := hmove.kept
    exact ⟨j', hj', hmove.id_eq.trans hid, hk.trans hkey, ht.trans htype⟩
  · exact ⟨g.job, hmem, rfl, rfl, rfl⟩

theorem ScheduleOk.done_step {t : JobTable} {e : JobEvent}
    (h : ScheduleOk t s.schedules s.generated) (he : Reported s t e) {j' : Job}
    (hj' : j' ∈ (jobStep t e).jobs) (hrent : j'.idempotencyKey.isMonthlyRent = true)
    (hdone : j'.jobStatus = .completed) :
    ∃ g ∈ s.generated, g.job.idempotencyKey = j'.idempotencyKey := by
  rcases jobStep_row hj' with ⟨j, hj, hmove⟩ | ⟨id, input, rfl, rfl, -⟩
  · obtain ⟨hk, -, -⟩ := hmove.kept
    rw [hk] at hrent ⊢
    rcases hmove.completed hdone with hwas | ⟨token, rfl⟩
    · exact h.done j hj hrent hwas
    obtain ⟨claim, hclaim, hid, hgenerated⟩ := he
    obtain ⟨j₁, hj₁, hid₁, hkey₁, htype₁⟩ := h.granted claim hclaim
    have hsame : j₁ = j := List.inj_on_of_nodup_map h.jobIds hj₁ hj (hid₁.trans hid)
    subst hsame
    obtain ⟨orderId, start, hrent⟩ := isMonthlyRent_iff.1 hrent
    have htype := (h.owned j₁ hj orderId start hrent).1
    exact ⟨claim, hgenerated (htype₁ ▸ htype), hkey₁.symm⟩
  · cases hdone

theorem ScheduleOk.jobStep {t : JobTable} {e : JobEvent}
    (h : ScheduleOk t s.schedules s.generated) (he : Reported s t e) :
    ScheduleOk (jobStep t e) s.schedules s.generated :=
  { h with
    jobIds := jobStep_ids h.jobIds e
    jobIds_lt := h.jobIds_lt_step he
    owned := fun _ hj _ _ => h.owned_step he hj
    granted := fun _ => h.granted_step
    done := fun _ => h.done_step he }

theorem State.Ok.onQueue (h : s.Ok) {e : JobEvent} (he : Reported s s.queue e) : (s.onQueue e).Ok :=
  h.jobStep he

theorem State.Ok.enqueue (h : s.Ok) {input : EnqueueInput}
    (hinput : input.idempotencyKey.isMonthlyRent = true →
      ∃ r ∈ s.schedules, input = generateInput r) : (s.enqueue input).Ok :=
  h.onQueue (e := .enqueue s.queue.jobs.length input) ⟨rfl, hinput⟩

/-! ## The schedules -/

/-- What a schedule may become: it stays where it is or moves on, and it is open only at a cycle that
has not been generated. -/
structure Advance (generated : List ClaimedJob) (r r' : BillingSchedule) : Prop where
  id_eq : r'.id = r.id
  orderId_eq : r'.orderId = r.orderId
  start_le : r.nextPeriodStart ≤ r'.nextPeriodStart
  ahead : r'.status ≠ .completed → ∀ g ∈ generated, g.job.idempotencyKey ≠ r'.key

theorem ScheduleOk.map {t : JobTable} {schedules : List BillingSchedule}
    {generated : List ClaimedJob} (h : ScheduleOk t schedules generated)
    {move : BillingSchedule → BillingSchedule}
    (hmove : ∀ r ∈ schedules, Advance generated r (move r)) :
    ScheduleOk t (schedules.map move) generated := by
  have hids : (schedules.map move).map (·.id) = schedules.map (·.id) := by
    rw [List.map_map]
    exact List.map_congr_left fun r hr => (hmove r hr).id_eq
  have horders : (schedules.map move).map (·.orderId) = schedules.map (·.orderId) := by
    rw [List.map_map]
    exact List.map_congr_left fun r hr => (hmove r hr).orderId_eq
  refine { h with ids := ?_, ids_lt := ?_, orderIds := ?_, owned := ?_, past := ?_, ahead := ?_ }
  · rw [hids]
    exact h.ids
  · intro r' hr'
    obtain ⟨r, hr, rfl⟩ := List.mem_map.1 hr'
    rw [(hmove r hr).id_eq, List.length_map]
    exact h.ids_lt r hr
  · rw [horders]
    exact h.orderIds
  · intro j hj orderId start hkey
    obtain ⟨htype, r, hr, horder, hschedule⟩ := h.owned j hj orderId start hkey
    exact ⟨htype, move r, List.mem_map_of_mem hr, (hmove r hr).orderId_eq.trans horder,
      by rw [hschedule, (hmove r hr).id_eq]⟩
  · intro g hg orderId start hkey
    obtain ⟨r, hr, horder, hstart⟩ := h.past g hg orderId start hkey
    exact ⟨move r, List.mem_map_of_mem hr, (hmove r hr).orderId_eq.trans horder,
      hstart.trans (hmove r hr).start_le⟩
  · intro r' hr'
    obtain ⟨r, hr, rfl⟩ := List.mem_map.1 hr'
    exact (hmove r hr).ahead

theorem State.Ok.setSchedules {schedules : List BillingSchedule}
    (h : ScheduleOk s.queue schedules s.generated) : (s.setSchedules schedules).Ok :=
  ScheduleOk.jobStep (s := { s with schedules := schedules }) (e := .schedules _) h trivial

/-- One row changes. -/
theorem State.Ok.updateSchedule (h : s.Ok) {id : Id} {patch : BillingSchedule → BillingSchedule}
    (hpatch : ∀ r ∈ s.schedules, r.id = id → Advance s.generated r (patch r)) :
    (s.updateSchedule id patch).Ok := by
  refine State.Ok.setSchedules (h.map fun r hr => ?_)
  by_cases hid : r.id = id
  · simpa [hid] using hpatch r hr hid
  · simpa [hid] using ⟨rfl, rfl, le_rfl, h.ahead r hr⟩

/-- A row that keeps its cycle and is not opened again. -/
theorem State.Ok.rewriteSchedule (h : s.Ok) {id : Id} {patch : BillingSchedule → BillingSchedule}
    (hid : ∀ r, (patch r).id = r.id) (horder : ∀ r, (patch r).orderId = r.orderId)
    (hstart : ∀ r, (patch r).nextPeriodStart = r.nextPeriodStart)
    (hopen : ∀ r ∈ s.schedules, r.id = id → (patch r).status ≠ .completed →
      ∀ g ∈ s.generated, g.job.idempotencyKey ≠ r.key) : (s.updateSchedule id patch).Ok := by
  refine h.updateSchedule fun r hr hrow => ⟨hid r, horder r, (hstart r).ge, ?_⟩
  rw [show (patch r).key = r.key by rw [(patch r).key_eq, r.key_eq, horder, hstart]]
  exact hopen r hr hrow

theorem State.schedule?_some {id : Id} {r : BillingSchedule} (h : s.schedule? id = some r) :
    r ∈ s.schedules ∧ r.id = id := by
  refine ⟨List.mem_of_find?_eq_some h, ?_⟩
  simpa using List.find?_some h

theorem State.order?_some {id : Id} {o : Order} (h : s.order? id = some o) :
    o ∈ s.orders ∧ o.id = id := by
  refine ⟨List.mem_of_find?_eq_some h, ?_⟩
  simpa using List.find?_some h

theorem State.Ok.unique (h : s.Ok) {r r' : BillingSchedule} (hr : r ∈ s.schedules)
    (hr' : r' ∈ s.schedules) (hid : r.id = r'.id) : r = r' :=
  List.inj_on_of_nodup_map h.ids hr hr' hid

/-- The open row of an id may be closed, paused or resumed. -/
theorem State.Ok.rewriteOpen (h : s.Ok) {r : BillingSchedule} (hr : r ∈ s.schedules)
    (hopen : r.status ≠ .completed) {patch : BillingSchedule → BillingSchedule}
    (hid : ∀ r, (patch r).id = r.id) (horder : ∀ r, (patch r).orderId = r.orderId)
    (hstart : ∀ r, (patch r).nextPeriodStart = r.nextPeriodStart) :
    (s.updateSchedule r.id patch).Ok := by
  refine h.rewriteSchedule hid horder hstart fun r' hr' hrow _ => ?_
  rw [h.unique hr' hr hrow]
  exact h.ahead r hr hopen

theorem State.Ok.ensureScheduleAtCycle (h : s.Ok) (orderId : Id) (cycle : BillingCycle)
    (completed : Bool) : (ensureScheduleAtCycle orderId cycle completed s).Ok := by
  unfold Billing.ensureScheduleAtCycle
  split
  · exact h
  rename_i hnone
  have hother : ∀ r ∈ s.schedules, r.orderId ≠ orderId := by
    intro r hr heq
    exact hnone (List.any_eq_true.2 ⟨r, hr, by simp [heq]⟩)
  refine State.Ok.setSchedules ?_
  refine { h with ids := ?_, ids_lt := ?_, orderIds := ?_, owned := ?_, past := ?_, ahead := ?_ }
  · rw [List.map_append]
    refine List.nodup_append.2 ⟨h.ids, List.nodup_singleton _, ?_⟩
    intro a ha b hb
    obtain ⟨r, hr, rfl⟩ := List.mem_map.1 ha
    rw [List.mem_singleton.1 hb]
    exact (h.ids_lt r hr).ne
  · intro r hr
    rw [List.length_append]
    rcases List.mem_append.1 hr with hr | hr
    · exact Nat.lt_add_right _ (h.ids_lt r hr)
    · rw [List.mem_singleton.1 hr]
      exact Nat.lt_succ_self _
  · rw [List.map_append]
    refine List.nodup_append.2 ⟨h.orderIds, List.nodup_singleton _, ?_⟩
    intro a ha b hb
    obtain ⟨r, hr, rfl⟩ := List.mem_map.1 ha
    rw [List.mem_singleton.1 hb]
    exact hother r hr
  · intro j hj orderId' start hkey
    obtain ⟨htype, r, hr, hrow⟩ := h.owned j hj orderId' start hkey
    exact ⟨htype, r, List.mem_append_left _ hr, hrow⟩
  · intro g hg orderId' start hkey
    obtain ⟨r, hr, hrow⟩ := h.past g hg orderId' start hkey
    exact ⟨r, List.mem_append_left _ hr, hrow⟩
  · intro r hr hopen g hg
    rcases List.mem_append.1 hr with hr | hr
    · exact h.ahead r hr hopen g hg
    -- a generation for the order would need a schedule of the order
    rw [List.mem_singleton.1 hr, BillingSchedule.key_eq]
    intro hkey
    obtain ⟨r', hr', horder, -⟩ := h.past g hg _ _ hkey
    exact hother r' hr' horder

/-! ## The generation of a bill -/

theorem generatedCycle_ok {claim : ClaimedJob} {order : Order} {r : BillingSchedule}
    {cycle : BillingCycle} (h : generatedCycle claim order r = .ok cycle) :
    r.status = .active ∧ claim.job.orderId = some r.orderId ∧
      (∃ actualDeliveryAt, order.actualDeliveryAt = some actualDeliveryAt ∧
        buildBillingCycleForDelivery actualDeliveryAt r.nextCycleNo = .ok cycle) ∧
      cycle.periodStart = r.nextPeriodStart ∧ claim.job.idempotencyKey = r.key := by
  unfold generatedCycle at h
  split at h
  · cases h
  split at h
  · rename_i actualDeliveryAt lease hdelivery hlease
    split at h
    · cases h
    rename_i hguard
    simp only [not_or, ne_eq, not_not] at hguard
    split at h
    · cases h
    rename_i cycle' hcycle
    split at h
    · cases h
    rename_i hmatch
    split at h
    · cases h
    rename_i hkey
    obtain rfl := Except.ok.inj h
    rw [Bool.not_eq_true, Bool.not_eq_false'] at hmatch
    simp only [scheduleMatchesCycle, Bool.and_eq_true, beq_iff_eq] at hmatch
    rw [not_not] at hkey
    refine ⟨hguard.1, hguard.2.1, ⟨actualDeliveryAt, hdelivery, hcycle⟩, hmatch.2.symm, ?_⟩
    rw [hkey, BillingSchedule.key, hmatch.2]
  · cases h

/-- What the handler of a generation leaves. -/
inductive Generation (s : State) (claim : ClaimedJob) : State → Prop
  | failed : Generation s claim s
  | blocked {r : BillingSchedule} (hr : r ∈ s.schedules) (hactive : r.status = .active)
      (code : ErrorCode) : Generation s claim (s.updateSchedule r.id (pauseForBlocker code))
  | closed {r : BillingSchedule} (hr : r ∈ s.schedules) (hactive : r.status = .active)
      (hkey : claim.job.idempotencyKey = r.key) :
      Generation s claim
        { s.updateSchedule r.id (completeSchedule s.queue.now) with
          generated := claim :: s.generated }
  | billed {r : BillingSchedule} {order : Order} {actualDeliveryAt : Int}
      {cycle nextCycle : BillingCycle} {amount : Int} {segmentId : Id} {bill : RentBill}
      {created completed : Bool} {bills : List RentBill}
      (hr : r ∈ s.schedules) (hactive : r.status = .active)
      (hkey : claim.job.idempotencyKey = r.key)
      (horder : order ∈ s.orders) (hid : order.id = r.orderId)
      (hdelivery : order.actualDeliveryAt = some actualDeliveryAt)
      (hcycle : buildBillingCycleForDelivery actualDeliveryAt r.nextCycleNo = .ok cycle)
      (hstart : cycle.periodStart = r.nextPeriodStart)
      (hnext : buildNextBillingCycle cycle = .ok nextCycle)
      (hbill : createMonthlyRentBillForPeriodIfAbsent order.id amount
        ⟨cycle.cycleNo, cycle.periodStart, cycle.periodEnd⟩ .automation
        (billingSourceKey r.orderId cycle.periodStart) (some segmentId) s.bills =
          some (bill, created, bills)) :
      Generation s claim
        { enqueueBillJobs r cycle bill ({ s with bills := bills }.updateSchedule r.id
            (advanceSchedule s.queue.now bill.id nextCycle completed)) with
          generated := claim :: s.generated }

theorem generate_cases (s : State) (claim : ClaimedJob) : Generation s claim (s.generate claim) := by
  unfold State.generate generateScheduledMonthlyRent
  split
  · rename_i hresult
    split at hresult
    · rename_i scheduleId orderId hschedule horderId
      split at hresult
      · rename_i order r horder hr
        obtain ⟨horder, hid⟩ := State.order?_some horder
        obtain ⟨hr, hrid⟩ := State.schedule?_some hr
        split at hresult
        · cases hresult
        rename_i cycle hcycle
        obtain ⟨hactive, hclaim, ⟨actualDeliveryAt, hdelivery, hbuild⟩, hstart, hkey⟩ :=
          generatedCycle_ok hcycle
        have howner : order.id = r.orderId := by
          rw [hid]
          exact Option.some.inj (horderId.symm.trans hclaim)
        simp only at hresult
        split at hresult
        · cases hresult
          exact .closed hr hactive hkey
        split at hresult
        · split at hresult <;> cases hresult
        · rename_i segment hsegment
          unfold generateBill at hresult
          simp only at hresult
          split at hresult
          · rename_i bill created bills nextCycle hbill hnext
            cases hresult
            exact .billed hr hactive hkey horder howner hdelivery hbuild hstart hnext hbill
          · cases hresult
      · cases hresult
    · cases hresult
  · rename_i hresult
    split at hresult
    · split at hresult
      · rename_i order r horder hr
        split at hresult
        · cases hresult
          exact .failed
        rename_i cycle hcycle
        obtain ⟨hr, -⟩ := State.schedule?_some hr
        obtain ⟨hactive, -⟩ := generatedCycle_ok hcycle
        simp only at hresult
        split at hresult
        · cases hresult
        split at hresult
        · split at hresult <;> cases hresult
          · exact .blocked hr hactive _
          · exact .failed
        · unfold generateBill at hresult
          simp only at hresult
          split at hresult
          · cases hresult
          · cases hresult
            exact .failed
      · cases hresult
        exact .failed
    · cases hresult
      exact .failed

/-- The next cycle begins later. -/
theorem nextCycle_later {actualDeliveryAt cycleNo : Int} {cycle nextCycle : BillingCycle}
    (hcycle : buildBillingCycleForDelivery actualDeliveryAt cycleNo = .ok cycle)
    (hnext : buildNextBillingCycle cycle = .ok nextCycle) :
    cycle.periodStart < nextCycle.periodStart := by
  obtain ⟨hn, -, -⟩ := buildBillingCycle_ok hcycle
  rw [buildBillingCycleForDelivery, buildBillingCycle_eq hn] at hcycle
  obtain rfl := Except.ok.inj hcycle
  unfold buildNextBillingCycle at hnext
  rw [if_neg (by simpa using hn)] at hnext
  obtain ⟨-, hstart, -⟩ := buildBillingCycle_ok hnext
  rw [hstart]
  exact cycleStart_strictMono _ (Int.lt_succ _)

/-- A generation is recorded when its schedule has left the cycle. -/
theorem State.Ok.record (h : s.Ok) {claim : ClaimedJob} {r : BillingSchedule} (hr : r ∈ s.schedules)
    {start : Int} (hkey : claim.job.idempotencyKey = .monthlyRent r.orderId start)
    (hleft : r.status = .completed ∧ start = r.nextPeriodStart ∨ start < r.nextPeriodStart) :
    State.Ok { s with generated := claim :: s.generated } := by
  have hle : start ≤ r.nextPeriodStart := by
    rcases hleft with ⟨-, heq⟩ | hlt
    · exact heq.le
    · exact hlt.le
  refine { h with done := ?_, past := ?_, ahead := ?_ }
  · intro j hj hrent hdone
    obtain ⟨g, hg, hkey⟩ := h.done j hj hrent hdone
    exact ⟨g, List.mem_cons_of_mem _ hg, hkey⟩
  · intro g hg orderId start' hkey'
    rcases List.mem_cons.1 hg with rfl | hg
    · rw [hkey] at hkey'
      injection hkey' with horder hstart
      exact ⟨r, hr, horder, hstart ▸ hle⟩
    · exact h.past g hg orderId start' hkey'
  · intro r' hr' hopen g hg
    rcases List.mem_cons.1 hg with rfl | hg
    · rw [hkey, r'.key_eq]
      intro heq
      injection heq with horder hstart
      have hsame : r = r' := List.inj_on_of_nodup_map h.orderIds hr hr' horder
      subst hsame
      rcases hleft with ⟨hclosed, -⟩ | hlt
      · exact hopen hclosed
      · exact hlt.ne hstart
    · exact h.ahead r' hr' hopen g hg

theorem State.mem_updateSchedule {r : BillingSchedule} (hr : r ∈ s.schedules)
    (patch : BillingSchedule → BillingSchedule) : patch r ∈ (s.updateSchedule r.id patch).schedules :=
  List.mem_map.2 ⟨r, hr, by simp⟩

/-- The cycle after the one of the schedule has not been generated. -/
theorem State.Ok.advance (h : s.Ok) {r : BillingSchedule} (hr : r ∈ s.schedules)
    (hactive : r.status = .active) {nextCycle : BillingCycle} (completed : Bool) (billId : Id)
    (hlater : r.nextPeriodStart < nextCycle.periodStart) :
    (s.updateSchedule r.id (advanceSchedule s.queue.now billId nextCycle completed)).Ok := by
  refine h.updateSchedule fun r' hr' hid => ?_
  obtain rfl := h.unique hr' hr hid
  cases completed with
  | true =>
    exact ⟨rfl, rfl, le_rfl, fun hopen => absurd rfl hopen⟩
  | false =>
    refine ⟨rfl, rfl, hlater.le, fun _ g hg hkey => ?_⟩
    rw [BillingSchedule.key_eq] at hkey
    obtain ⟨r, hr, horder, hstart⟩ := h.past g hg _ _ hkey
    have hsame : r = r' := List.inj_on_of_nodup_map h.orderIds hr hr' horder
    subst hsame
    exact absurd hlater (not_lt.2 hstart)

theorem State.Ok.enqueueOther (h : s.Ok) {input : EnqueueInput}
    (hinput : input.idempotencyKey.isMonthlyRent = false) : (s.enqueue input).Ok :=
  h.enqueue fun hrent => by simp [hinput] at hrent

theorem State.Ok.enqueueBillJobs (h : s.Ok) (r : BillingSchedule) (cycle : BillingCycle)
    (bill : RentBill) : (enqueueBillJobs r cycle bill s).Ok := by
  unfold Billing.enqueueBillJobs
  refine State.Ok.enqueueOther ?_ rfl
  exact h.enqueueOther rfl

theorem State.Ok.generate (h : s.Ok) (claim : ClaimedJob) : (s.generate claim).Ok := by
  have hcases := generate_cases s claim
  generalize s.generate claim = s' at hcases
  cases hcases with
  | failed => exact h
  | blocked hr hactive code =>
    exact h.rewriteOpen hr (by simp [hactive]) (fun _ => rfl) (fun _ => rfl) (fun _ => rfl)
  | @closed r hr hactive hkey =>
    have hclosed : (s.updateSchedule r.id (completeSchedule s.queue.now)).Ok :=
      h.rewriteOpen hr (by simp [hactive]) (fun _ => rfl) (fun _ => rfl) (fun _ => rfl)
    rw [r.key_eq] at hkey
    exact hclosed.record (State.mem_updateSchedule hr _) hkey (.inl ⟨rfl, rfl⟩)
  | @billed r order t cycle nextCycle _ _ bill _ completed bills hr hactive hkey _ _ _ hcycle hstart
      hnext =>
    have hlater := nextCycle_later hcycle hnext
    rw [hstart] at hlater
    have hmoved := State.Ok.advance (s := { s with bills := bills }) h hr hactive completed bill.id
      hlater
    have hrow := State.mem_updateSchedule (s := { s with bills := bills }) hr
      (advanceSchedule s.queue.now bill.id nextCycle completed)
    have hsource : claim.job.idempotencyKey = .monthlyRent
        (advanceSchedule s.queue.now bill.id nextCycle completed r).orderId r.nextPeriodStart := by
      rw [hkey, r.key_eq]
      cases completed <;> rfl
    refine State.Ok.record (hmoved.enqueueBillJobs r cycle bill) hrow hsource ?_
    cases completed with
    | true => exact .inl ⟨rfl, rfl⟩
    | false => exact .inr hlater

/-! ## The other operations -/

theorem State.Ok.enqueueDueSchedule (h : s.Ok) (now : Int) (id : Id) :
    (enqueueDueSchedule now id s).Ok := by
  unfold Billing.enqueueDueSchedule
  split
  · exact h
  rename_i r hr
  split
  · refine State.Ok.enqueue (h.onQueue (e := .reactivateCancelled _ _ _) trivial) fun _ => ?_
    exact ⟨r, (State.schedule?_some hr).1, rfl⟩
  · exact h

theorem State.Ok.resumeSchedule (h : s.Ok) (id : Id) : (resumeSchedule id s).Ok := by
  unfold Billing.resumeSchedule
  split
  · rename_i r hr
    obtain ⟨hmem, rfl⟩ := State.schedule?_some hr
    split
    · rename_i hpaused
      exact h.rewriteOpen hmem (by simp [hpaused.1]) (fun _ => rfl) (fun _ => rfl) (fun _ => rfl)
    · exact h
  · exact h

theorem State.Ok.retryJob (h : s.Ok) (jobId : Id) : (retryJob jobId s).Ok := by
  unfold Billing.retryJob
  split
  · split
    · exact h
    · exact h.onQueue (e := .retryDeadLetter _) trivial
  · exact h

theorem State.Ok.pauseReconciliationBlockedSchedule (h : s.Ok) (snapshot : BillingSchedule)
    (code : ErrorCode) : (pauseReconciliationBlockedSchedule snapshot code s).Ok := by
  unfold Billing.pauseReconciliationBlockedSchedule
  split
  · exact h
  rename_i r hr
  obtain ⟨hmem, hid⟩ := State.schedule?_some hr
  by_cases hcurrent : r.version = snapshot.version ∧
      r.status = (if snapshot.status = .active then .active else .paused)
  · have hopen : r.status ≠ .completed := by
      rw [hcurrent.2]
      split <;> simp
    have hpaused : (s.updateSchedule r.id (pauseForBlocker code)).Ok :=
      h.rewriteOpen hmem hopen (fun _ => rfl) (fun _ => rfl) (fun _ => rfl)
    rw [if_pos hcurrent, ← hid]
    exact hpaused.onQueue (e := .cancelPendingForSchedule _) trivial
  · rw [if_neg hcurrent]
    split
    · exact h.onQueue (e := .cancelPendingForSchedule _) trivial
    · exact h

theorem State.Ok.resumeReconciledSchedule (h : s.Ok) (snapshot : BillingSchedule) :
    (resumeReconciledSchedule snapshot s).Ok := by
  unfold Billing.resumeReconciledSchedule
  split
  · exact h
  rename_i r hr
  obtain ⟨hr, hid⟩ := State.schedule?_some hr
  split
  · rename_i hcurrent
    rw [← hid]
    have hresumed : (s.updateSchedule r.id resumeRow).Ok :=
      h.rewriteOpen hr (by simp [hcurrent.2.1]) (fun _ => rfl) (fun _ => rfl) (fun _ => rfl)
    exact hresumed.onQueue (e := .reactivateCancelled _ _ _) trivial
  · exact h

theorem State.Ok.reconcileOrder (h : s.Ok) (read : Order) (snapshot : Option BillingSchedule)
    (bills : List RentBill) : (reconcileOrder read snapshot bills s).Ok := by
  unfold Billing.reconcileOrder
  split
  · exact h
  split
  · split
    · exact h.pauseReconciliationBlockedSchedule _ _
    · split
      · exact h.resumeReconciledSchedule _
      · exact h
  · split
    · exact h
    split
    · exact h
    split
    · exact h
    · exact h.ensureScheduleAtCycle _ _ _

/-- Opening a schedule again is harmless if no generation has completed it. -/
theorem State.Ok.reopen (h : s.Ok) {id : Id} {patch : BillingSchedule → BillingSchedule}
    (hid : ∀ r, (patch r).id = r.id) (horder : ∀ r, (patch r).orderId = r.orderId)
    (hstart : ∀ r, (patch r).nextPeriodStart = r.nextPeriodStart)
    (hended : ∀ r ∈ s.schedules, r.id = id → s.endedByGeneration r = false) :
    (s.updateSchedule id patch).Ok := by
  refine h.rewriteSchedule hid horder hstart fun r hr hrow _ g hg hkey => ?_
  by_cases hclosed : r.status = .completed
  · have hnot := hended r hr hrow
    simp only [State.endedByGeneration, hclosed, beq_self_eq_true, Bool.true_and,
      List.any_eq_false, beq_iff_eq] at hnot
    exact hnot g hg hkey
  · exact h.ahead r hr hclosed g hg hkey

theorem State.Ok.resumeForExtension (h : s.Ok) (orderId segmentId : Id)
    (hended : ∀ r ∈ s.schedules, r.orderId = orderId → s.endedByGeneration r = false) :
    (resumeForExtension orderId segmentId s).Ok := by
  unfold Billing.resumeForExtension
  split
  · rename_i order r _ hr
    have hmem := List.mem_of_find?_eq_some hr
    have horder : r.orderId = orderId := by simpa using List.find?_some hr
    split
    · refine h.reopen (fun _ => rfl) (fun _ => rfl) (fun _ => rfl) fun r' hr' hid => ?_
      rw [h.unique hr' hmem hid]
      exact hended r hmem horder
    · exact h
  · exact h

theorem State.Ok.step {e : Event} (he : KeepsEnded s e) (h : s.Ok) : (step s e).Ok := by
  cases e with
  | order order =>
    simp only [Billing.step, State.putOrder]
    split
    · exact h
    · split <;> exact h
  | ensureActiveSchedule orderId =>
    simp only [Billing.step]
    split
    · unfold Billing.ensureActiveSchedule
      split
      · exact h.ensureScheduleAtCycle _ _ _
      · exact h
    · exact h
  | enqueueDueSchedule now id => exact h.enqueueDueSchedule now id
  | claimDue => exact h.onQueue (e := .claimDue _ _ _ _ _) trivial
  | generate claim =>
    simp only [Billing.step]
    split
    · exact h.generate claim
    · exact h
  | complete claim =>
    simp only [Billing.step]
    split
    · rename_i hclaim
      exact h.onQueue (e := .complete _ _) ⟨claim, hclaim.1, rfl, hclaim.2⟩
    · exact h
  | fail claim error =>
    simp only [Billing.step]
    split
    · refine h.onQueue ?_
      simp only [handleClaimedJob]
      split
      · exact trivial
      · split <;> exact trivial
    · exact h
  | enqueueOther input =>
    simp only [Billing.step]
    split
    · exact h
    · rename_i hother
      exact h.enqueueOther (by simpa using hother)
  | cancelPendingForBills => exact h.onQueue (e := .cancelPendingForBills _) trivial
  | retryJob jobId => exact h.retryJob jobId
  | pauseCheck id =>
    simp only [Billing.step]
    split <;> exact h
  | pauseWrite id reason =>
    simp only [Billing.step]
    split
    · rename_i hchecked
      exact State.Ok.reopen (s := { s with pausing := s.pausing.erase id }) h (fun _ => rfl)
        (fun _ => rfl) (fun _ => rfl) (he hchecked)
    · exact h
  | resumeSchedule id => exact h.resumeSchedule id
  | reconcileRead orderId =>
    simp only [Billing.step]
    split
    · split <;> exact h
    · exact h
  | reconcileApply order schedule bills =>
    simp only [Billing.step]
    split
    · exact h.reconcileOrder _ _ _
    · exact h
  | resumeForExtension orderId segmentId => exact h.resumeForExtension orderId segmentId he
  | readOrder =>
    simp only [Billing.step]
    split <;> exact h
  | readBills draft billingDate =>
    simp only [Billing.step]
    split
    · unfold State.readDraft
      split
      · split <;> exact h
      · exact h
    · exact h
  | createBill draft =>
    simp only [Billing.step]
    split
    · unfold State.createManual
      split
      · split <;> exact h
      · exact h
    · exact h
  | billStatus | deleteBill => exact h
  | tick ms => exact h.onQueue (e := .tick ms) trivial

/-! ## The scan -/

theorem State.hasOpenJob_iff {r : BillingSchedule} : s.hasOpenJob r = true ↔
    ∃ j ∈ s.queue.jobs, j.idempotencyKey = r.key ∧ j.jobType = .generateMonthlyRentBill ∧
      j.billingScheduleId = some r.id ∧ j.jobStatus ≠ .completed ∧ j.jobStatus ≠ .cancelled := by
  simp only [State.hasOpenJob, List.any_eq_true, Bool.and_eq_true, beq_iff_eq, Bool.or_eq_true]
  refine exists_congr fun j => and_congr_right fun _ => ?_
  cases j.jobStatus <;> simp [and_assoc]

/-- An event that neither reports nor cancels leaves the job open. -/
theorem State.hasOpenJob_onQueue {r : BillingSchedule} (h : s.hasOpenJob r = true) {e : JobEvent}
    (hreports : e.outcome? = none) (hcancels : e.cancels = false) :
    (s.onQueue e).hasOpenJob r = true := by
  rw [State.hasOpenJob_iff] at h ⊢
  obtain ⟨j, hj, hkey, htype, hschedule, hdone, hcancelled⟩ := h
  obtain ⟨j', hj', hmove⟩ := jobStep_kept hj e
  obtain ⟨hk, ht, hs⟩ := hmove.kept
  refine ⟨j', hj', hk.trans hkey, ht.trans htype, hs.trans hschedule, ?_⟩
  cases hmove with
  | same _ => exact ⟨hdone, hcancelled⟩
  | ended hof _ => simp [hreports] at hof
  | cancelled _ hof => simp [hcancels] at hof
  | leased | reactivated | retried => exact ⟨nofun, nofun⟩

theorem enqueueDueSchedule_schedules (now : Int) (id : Id) (s : State) :
    (enqueueDueSchedule now id s).schedules = s.schedules := by
  unfold enqueueDueSchedule
  split
  · rfl
  · split <;> rfl

theorem State.hasOpenJob_scan {r : BillingSchedule} (h : s.hasOpenJob r = true) (now : Int)
    (id : Id) : (enqueueDueSchedule now id s).hasOpenJob r = true := by
  unfold enqueueDueSchedule
  split
  · exact h
  split
  · refine State.hasOpenJob_onQueue ?_ (e := .enqueue _ _) rfl rfl
    exact State.hasOpenJob_onQueue h (e := .reactivateCancelled _ _ _) rfl rfl
  · exact h

/-- The job of the cycle an open schedule points at is its own, and it is not completed. -/
theorem State.Ok.cycleJob (h : s.Ok) {r : BillingSchedule} (hr : r ∈ s.schedules)
    (hopen : r.status ≠ .completed) {j : Job} (hj : j ∈ s.queue.jobs)
    (hkey : j.idempotencyKey = r.key) : j.jobType = .generateMonthlyRentBill ∧
      j.billingScheduleId = some r.id ∧ j.jobStatus ≠ .completed := by
  have hrent := hkey.trans r.key_eq
  obtain ⟨htype, r', hr', horder, hschedule⟩ := h.owned j hj _ _ hrent
  have hsame : r' = r := List.inj_on_of_nodup_map h.orderIds hr' hr horder
  subst hsame
  refine ⟨htype, hschedule, fun hdone => ?_⟩
  obtain ⟨g, hg, hgkey⟩ := h.done j hj (isMonthlyRent_iff.2 ⟨_, _, hrent⟩) hdone
  exact h.ahead r' hr hopen g hg (hgkey.trans hkey)

/-- The scan of a schedule that is due leaves it with a generation that can run. -/
theorem State.Ok.scanned (h : s.Ok) {now : Int} {r : BillingSchedule} (hr : r ∈ s.schedules)
    (hdue : r.dueAt now = true) : (Billing.enqueueDueSchedule now r.id s).hasOpenJob r = true := by
  have hactive : r.status = .active := by
    simp only [BillingSchedule.dueAt, Bool.and_eq_true, beq_iff_eq] at hdue
    exact hdue.1
  have hopen : r.status ≠ .completed := by simp [hactive]
  have hfound : s.schedule? r.id = some r := by
    obtain ⟨r', hr'⟩ : ∃ r', s.schedule? r.id = some r' :=
      Option.isSome_iff_exists.1 (List.find?_isSome.2 ⟨r, hr, by simp⟩)
    obtain ⟨hmem, hid⟩ := State.schedule?_some hr'
    rwa [h.unique hmem hr hid] at hr'
  simp only [Billing.enqueueDueSchedule, hfound, hdue, if_true]
  set s₁ := s.onQueue (.reactivateCancelled r.id r.key (instantOf r.nextGenerateAt)) with hs₁
  by_cases hjob : ∃ j ∈ s.queue.jobs, j.idempotencyKey = r.key
  · obtain ⟨j, hj, hkey⟩ := hjob
    obtain ⟨htype, hschedule, hdone⟩ := h.cycleJob hr hopen hj hkey
    refine State.hasOpenJob_onQueue (s := s₁) ?_ (e := .enqueue _ _) rfl rfl
    rw [State.hasOpenJob_iff]
    by_cases hcancelled : j.jobStatus = .cancelled
    · refine ⟨reactivatedRow (instantOf r.nextGenerateAt) j, ?_, hkey, htype, hschedule, nofun, nofun⟩
      refine List.mem_map.2 ⟨j, hj, ?_⟩
      simp [hschedule, hkey, hcancelled, htype]
    · refine ⟨j, List.mem_map.2 ⟨j, hj, ?_⟩, hkey, htype, hschedule, hdone, hcancelled⟩
      simp [hcancelled]
  · have hok : s₁.Ok := h.onQueue (e := .reactivateCancelled _ _ _) trivial
    have hnone : ∀ j ∈ s₁.queue.jobs, j.idempotencyKey ≠ r.key := by
      intro j hj hkey
      obtain ⟨j₀, hj₀, hmove⟩ | ⟨id, input, he, -⟩ := jobStep_row hj
      · exact hjob ⟨j₀, hj₀, hmove.kept.1.symm.trans hkey⟩
      · cases he
    have hnew : (s₁.enqueue (generateInput r)).queue.jobs =
        s₁.queue.jobs ++ [newJob s₁.queue.now s₁.queue.jobs.length (generateInput r)] := by
      refine if_neg fun htaken => ?_
      obtain ⟨j, hj, hsame⟩ := List.any_eq_true.1 htaken
      rw [Bool.or_eq_true, beq_iff_eq, beq_iff_eq] at hsame
      rcases hsame with hkey | hid
      · exact hnone j hj hkey
      · exact (hok.jobIds_lt j hj).ne hid
    rw [State.hasOpenJob_iff, hnew]
    exact ⟨_, List.mem_append_right _ (List.mem_singleton.2 rfl), rfl, rfl, rfl, nofun, nofun⟩

theorem State.Ok.neverStalls (h : s.Ok) : NeverStalls s where
  scanned := by
    intro now r hr hdue
    have hscan : ∀ (ids : List BillingSchedule) (s : State), s.Ok → r ∈ s.schedules →
        (s.hasOpenJob r = true ∨ r ∈ ids) →
          (ids.foldl (fun s snapshot => Billing.enqueueDueSchedule now snapshot.id s) s).hasOpenJob r
            = true := by
      intro ids
      induction ids with
      | nil =>
        intro s _ _ hwas
        exact hwas.resolve_right (List.not_mem_nil)
      | cons snapshot ids ih =>
        intro s hok hrow hwas
        refine ih _ (hok.enqueueDueSchedule now snapshot.id) ?_ ?_
        · rwa [enqueueDueSchedule_schedules]
        rcases hwas with hwas | hmem
        · exact .inl (State.hasOpenJob_scan hwas now snapshot.id)
        rcases List.mem_cons.1 hmem with rfl | hmem
        · exact .inl (hok.scanned hrow hdue)
        · exact .inr hmem
    refine hscan _ s h hr (.inr ?_)
    rw [(List.perm_insertionSort _ _).mem_iff, List.mem_filter]
    exact ⟨hr, hdue⟩
  notCompleted := by
    intro r hr hactive j hj hkey
    exact (h.cycleJob hr (by simp [hactive]) hj hkey).2.2

/-! ## Billing over whole runs -/

/-- In every run that does not reopen a schedule that a generation has completed, monthly billing
does not stall in any state. -/
theorem billing_never_stalls (now : Int) (evs : List Event)
    (hkeeps : Runs.Along step KeepsEnded (.init now) evs) : NeverStalls (billingRun now evs) := by
  have hok : (billingRun now evs).Ok :=
    Runs.runs_invariant State.Ok (fun _ _ he h => h.step he) (State.Ok.init now) hkeeps
  exact hok.neverStalls

/-- An order for two months from the first of January 1970, of which the second is billed by a
cycle. -/
def twoMonthOrder (segments : List ContractSegment) : Order :=
  { id := 1
    orderStatus := .active
    deleted := false
    actualDeliveryAt := some 0
    endDate := some 58
    monthlyRentAmount := some 500
    lease := some ⟨.active, false⟩
    segments := segments }

def baseSegment : ContractSegment := ⟨1, 1, .active, 0, 58, 500, none, none⟩

def extensionSegment : ContractSegment := ⟨2, 2, .active, 59, 89, 500, some 1, some 1⟩

/-- The bill of the second month is due and its generation is claimed. -/
def secondMonthRun : List Event :=
  [.order (twoMonthOrder [baseSegment]), .ensureActiveSchedule 1, .tick 2500000000,
    .enqueueDueSchedule 2500000000 0, .claimDue 1 60000 [] 7]

/-- The bill is generated, which completes the schedule. -/
def billedRun : List Event :=
  secondMonthRun ++ (billingRun 0 secondMonthRun).queue.granted.flatMap fun claim =>
    [.generate claim, .complete claim]

/-- An extension is activated afterwards. -/
def extendedRun : List Event :=
  billedRun ++ [.order (twoMonthOrder [baseSegment, extensionSegment]), .resumeForExtension 1 2]

theorem billing_never_stalls_term : NeverStalls (billingRun 0 billedRun) :=
  billing_never_stalls 0 billedRun (by decide +kernel)

/-- The schedule that the extension opens still points at the month that is billed: its generation is
completed, and no scan adds another. -/
theorem billing_stalls_extension : ¬ NeverStalls (billingRun 0 extendedRun) := by
  intro h
  have hstuck : ∃ r ∈ (billingRun 0 extendedRun).schedules, r.dueAt 2500000000 = true ∧
      (enqueueDueSchedules 2500000000 (billingRun 0 extendedRun)).hasOpenJob r = false := by
    decide +kernel
  obtain ⟨r, hr, hdue, hclosed⟩ := hstuck
  rw [h.scanned _ r hr hdue] at hclosed
  cases hclosed

end SubscriptionSaas.Billing
