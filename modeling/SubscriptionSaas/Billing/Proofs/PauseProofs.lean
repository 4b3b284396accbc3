import SubscriptionSaas.Billing.Pauses
import SubscriptionSaas.Billing.Proofs.RentBillProofs

/-!
# What pausing a schedule loses

Most operations are `Quiet`: schedules keep their cycles, bills stay and no job is cancelled. What is
left are the generation of a bill, which moves a schedule by one cycle, the settlement of bills, and the
reconciliation that pauses a schedule. `Progress` is what any of them keeps when the reconciliation
finds no pending job of an unpaid bill.
-/

namespace SubscriptionSaas.Billing

variable {s s' s'' : State}

/-! ## Rows of the job table -/

/-- Only a cancellation cancels a row. -/
theorem RowMove.alive {t : JobTable} {j j' : Job} {e : JobEvent} (h : RowMove t j e j')
    (hcancels : e.cancels = false) : j'.billId = j.billId ∧
      (j.jobStatus ≠ .cancelled → j'.jobStatus ≠ .cancelled) := by
  cases h with
  | same _ => exact ⟨rfl, id⟩
  | ended hof _ =>
    cases e <;> simp [JobEvent.outcome?] at hof <;>
      simp [JobEvent.outcomeRow, completedRow, rescheduledRow, deferredRow, deadLetterRow]
  | cancelled _ hof => simp [hcancels] at hof
  | leased | reactivated | retried =>
    refine ⟨rfl, fun _ hcancelled => ?_⟩
    cases hcancelled

theorem updateMany_kept {data : Job → Job} {p : Job → Bool} {jobs : List Job} {j : Job}
    (hj : j ∈ jobs) (hp : p j = false) : j ∈ (updateMany data p jobs).1 :=
  List.mem_map.2 ⟨j, hj, by simp [hp]⟩

/-! ## Quiet operations -/

/-- The schedules stay at their cycles, the bills are what they were, and no job is cancelled. -/
structure Quiet (s s' : State) : Prop where
  schedules : ∀ r ∈ s.schedules, ∃ r' ∈ s'.schedules, r'.id = r.id ∧ r'.orderId = r.orderId ∧
    r'.nextCycleNo = r.nextCycleNo ∧ r'.nextPeriodStart = r.nextPeriodStart
  bills : ∀ b ∈ s.bills, b ∈ s'.bills
  jobs : ∀ j ∈ s.queue.jobs, j.jobStatus ≠ .cancelled →
    ∃ j' ∈ s'.queue.jobs, j'.id = j.id ∧ j'.billId = j.billId ∧ j'.jobStatus ≠ .cancelled

/-- An operation on other tables. -/
theorem Quiet.of_eq (hschedules : s'.schedules = s.schedules) (hbills : s'.bills = s.bills)
    (hjobs : s'.queue.jobs = s.queue.jobs) : Quiet s s' where
  schedules r hr := ⟨r, hschedules ▸ hr, rfl, rfl, rfl, rfl⟩
  bills _ hb := hbills ▸ hb
  jobs j hj hlive := ⟨j, hjobs ▸ hj, rfl, rfl, hlive⟩

theorem Quiet.refl (s : State) : Quiet s s := .of_eq rfl rfl rfl

theorem Quiet.trans (h : Quiet s s') (h' : Quiet s' s'') : Quiet s s'' where
  schedules r hr := by
    obtain ⟨r', hr', hid, horder, hcycle, hstart⟩ := h.schedules r hr
    obtain ⟨r'', hr'', hid', horder', hcycle', hstart'⟩ := h'.schedules r' hr'
    exact ⟨r'', hr'', hid'.trans hid, horder'.trans horder, hcycle'.trans hcycle,
      hstart'.trans hstart⟩
  bills b hb := h'.bills b (h.bills b hb)
  jobs j hj hlive := by
    obtain ⟨j', hj', hid, hbill, hlive'⟩ := h.jobs j hj hlive
    obtain ⟨j'', hj'', hid', hbill', hlive''⟩ := h'.jobs j' hj' hlive'
    exact ⟨j'', hj'', hid'.trans hid, hbill'.trans hbill, hlive''⟩

theorem Quiet.onQueue (s : State) {e : JobEvent} (hcancels : e.cancels = false) :
    Quiet s (s.onQueue e) where
  schedules r hr := ⟨r, hr, rfl, rfl, rfl, rfl⟩
  bills _ hb := hb
  jobs j hj hlive := by
    obtain ⟨j', hj', hmove⟩ := jobStep_kept hj e
    obtain ⟨hbill, halive⟩ := hmove.alive hcancels
    exact ⟨j', hj', hmove.id_eq, hbill, halive hlive⟩

theorem Quiet.enqueue (s : State) (input : EnqueueInput) : Quiet s (s.enqueue input) :=
  .onQueue s rfl

/-- A row is written that stays at its cycle. -/
theorem Quiet.updateSchedule (s : State) (id : Id) {patch : BillingSchedule → BillingSchedule}
    (hpatch : ∀ r, (patch r).id = r.id ∧ (patch r).orderId = r.orderId ∧
      (patch r).nextCycleNo = r.nextCycleNo ∧ (patch r).nextPeriodStart = r.nextPeriodStart) :
    Quiet s (s.updateSchedule id patch) where
  schedules r hr := by
    refine ⟨_, List.mem_map_of_mem hr, ?_⟩
    split
    · exact hpatch r
    · exact ⟨rfl, rfl, rfl, rfl⟩
  bills _ hb := hb
  jobs j hj hlive := ⟨j, hj, rfl, rfl, hlive⟩

theorem Quiet.ensureScheduleAtCycle (s : State) (orderId : Id) (cycle : BillingCycle)
    (completed : Bool) : Quiet s (ensureScheduleAtCycle orderId cycle completed s) := by
  unfold Billing.ensureScheduleAtCycle
  split
  · exact .refl s
  · exact ⟨fun r hr => ⟨r, List.mem_append_left _ hr, rfl, rfl, rfl, rfl⟩, fun _ hb => hb,
      fun j hj hlive => ⟨j, hj, rfl, rfl, hlive⟩⟩

theorem Quiet.enqueueDueSchedule (s : State) (now : Int) (id : Id) :
    Quiet s (enqueueDueSchedule now id s) := by
  unfold Billing.enqueueDueSchedule
  split
  · exact .refl s
  split
  · exact (Quiet.onQueue s (e := .reactivateCancelled _ _ _) rfl).trans (.enqueue _ _)
  · exact .refl s

theorem Quiet.retryJob (s : State) (jobId : Id) : Quiet s (retryJob jobId s) := by
  unfold Billing.retryJob
  split
  · split
    · exact .refl s
    · exact .onQueue s (e := .retryDeadLetter _) rfl
  · exact .refl s

theorem Quiet.resumeSchedule (s : State) (id : Id) : Quiet s (resumeSchedule id s) := by
  unfold Billing.resumeSchedule
  split
  · split
    · exact .updateSchedule s id fun _ => ⟨rfl, rfl, rfl, rfl⟩
    · exact .refl s
  · exact .refl s

theorem Quiet.resumeReconciledSchedule (s : State) (snapshot : BillingSchedule) :
    Quiet s (resumeReconciledSchedule snapshot s) := by
  unfold Billing.resumeReconciledSchedule
  split
  · exact .refl s
  split
  · have hresumed : Quiet s (s.updateSchedule snapshot.id resumeRow) :=
      .updateSchedule s snapshot.id fun _ => ⟨rfl, rfl, rfl, rfl⟩
    exact hresumed.trans (.onQueue _ (e := .reactivateCancelled _ _ _) rfl)
  · exact .refl s

theorem Quiet.resumeForExtension (s : State) (orderId segmentId : Id) :
    Quiet s (resumeForExtension orderId segmentId s) := by
  unfold Billing.resumeForExtension
  split
  · split
    · exact .updateSchedule s _ fun _ => ⟨rfl, rfl, rfl, rfl⟩
    · exact .refl s
  · exact .refl s

theorem Quiet.createManual (s : State) (d : Draft) : Quiet s (s.createManual d) := by
  unfold State.createManual
  split
  · split
    · rename_i bill created bills hcreate
      refine ⟨fun r hr => ⟨r, hr, rfl, rfl, rfl, rfl⟩, fun b hb => ?_,
        fun j hj hlive => ⟨j, hj, rfl, rfl, hlive⟩⟩
      rcases createMonthlyRentBillForPeriodIfAbsent_cases hcreate with rfl | ⟨rfl, -⟩
      · exact hb
      · exact List.mem_append_left _ hb
    · exact .refl s
  · exact .refl s

/-! ## What every step keeps -/

/-- The schedule stays at its cycle, or it has moved by one and the bill of the cycle is there. -/
structure CycleStep (s' : State) (r r' : BillingSchedule) : Prop where
  id_eq : r'.id = r.id
  orderId_eq : r'.orderId = r.orderId
  moved : (r'.nextCycleNo = r.nextCycleNo ∧ r'.nextPeriodStart = r.nextPeriodStart) ∨
    (r'.nextCycleNo = r.nextCycleNo + 1 ∧ ∃ b ∈ s'.bills, b.orderId = r.orderId ∧
      b.billPeriodStart = r.nextPeriodStart)

/-- What the event `e` keeps. -/
structure Progress (e : Event) (s s' : State) : Prop where
  schedules : ∀ r ∈ s.schedules, ∃ r' ∈ s'.schedules, CycleStep s' r r'
  bills : ∀ b ∈ s.bills, ∃ b' ∈ s'.bills, b'.orderId = b.orderId ∧
    b'.billPeriodStart = b.billPeriodStart
  unpaid : ∀ billId, e.settles billId = false → s.unpaid billId = true → s'.unpaid billId = true
  jobs : ∀ j ∈ s.queue.jobs, j.jobStatus ≠ .cancelled → ∀ billId, j.billId = some billId →
    s.unpaid billId = true → e.settles billId = false →
      ∃ j' ∈ s'.queue.jobs, j'.id = j.id ∧ j'.billId = j.billId ∧ j'.jobStatus ≠ .cancelled

theorem State.unpaid_iff {billId : Id} :
    s.unpaid billId = true ↔ ∃ b ∈ s.bills, b.id = billId ∧ b.unpaid = true := by
  simp [State.unpaid]

theorem Quiet.progress (h : Quiet s s') (e : Event) : Progress e s s' where
  schedules r hr := by
    obtain ⟨r', hr', hid, horder, hcycle, hstart⟩ := h.schedules r hr
    exact ⟨r', hr', hid, horder, .inl ⟨hcycle, hstart⟩⟩
  bills b hb := ⟨b, h.bills b hb, rfl, rfl⟩
  unpaid billId _ hunpaid := by
    obtain ⟨b, hb, hopen⟩ := State.unpaid_iff.1 hunpaid
    exact State.unpaid_iff.2 ⟨b, h.bills b hb, hopen⟩
  jobs j hj hlive _ _ _ _ := h.jobs j hj hlive

/-- A bill is written that stays what it is a bill for; the event says so if it settles it. -/
theorem Progress.updateBill (s : State) (id : Id) {e : Event} {patch : RentBill → RentBill}
    (hid : ∀ b, (patch b).id = b.id) (horder : ∀ b, (patch b).orderId = b.orderId)
    (hstart : ∀ b, (patch b).billPeriodStart = b.billPeriodStart)
    (hopen : ∀ b, b.id = id → e.settles id = false → b.unpaid = true → (patch b).unpaid = true) :
    Progress e s (s.updateBill id patch) where
  schedules r hr := ⟨r, hr, rfl, rfl, .inl ⟨rfl, rfl⟩⟩
  bills b hb := by
    refine ⟨_, List.mem_map_of_mem hb, ?_⟩
    split
    · exact ⟨horder b, hstart b⟩
    · exact ⟨rfl, rfl⟩
  unpaid billId hkeeps hunpaid := by
    obtain ⟨b, hb, hrow, hwas⟩ := State.unpaid_iff.1 hunpaid
    refine State.unpaid_iff.2 ⟨_, List.mem_map_of_mem hb, ?_⟩
    by_cases hsame : b.id = id
    · simp only [hsame, beq_self_eq_true, if_true]
      refine ⟨(hid b).trans hrow, hopen b hsame ?_ hwas⟩
      rw [← hsame, hrow]
      exact hkeeps
    · simp only [show (b.id == id) = false by simpa using hsame]
      exact ⟨hrow, hwas⟩
  jobs j hj hlive _ _ _ _ := ⟨j, hj, rfl, rfl, hlive⟩

/-- The jobs of bills that are settled are cancelled. -/
theorem Progress.cancelPendingForBills (s : State) (billIds : List Id) :
    Progress (.cancelPendingForBills billIds) s (s.onQueue (.cancelPendingForBills billIds)) where
  schedules r hr := ⟨r, hr, rfl, rfl, .inl ⟨rfl, rfl⟩⟩
  bills b hb := ⟨b, hb, rfl, rfl⟩
  unpaid _ _ hunpaid := hunpaid
  jobs j hj hlive billId hbill _ hkeeps := by
    refine ⟨j, ?_, rfl, rfl, hlive⟩
    show j ∈ (Billing.cancelPendingForBills s.queue.now billIds s.queue.jobs).1
    unfold Billing.cancelPendingForBills
    split
    · exact hj
    · refine updateMany_kept hj ?_
      have hother : billId ∉ billIds := by simpa [Event.settles] using hkeeps
      simp [hbill, hother]

/-! ## The generation of a bill -/

theorem buildBillingCycle_no {anchor n : Int} {cycle : BillingCycle}
    (h : buildBillingCycle anchor n = .ok cycle) : cycle.cycleNo = n := by
  obtain ⟨hn, -, -⟩ := buildBillingCycle_ok h
  rw [buildBillingCycle_eq hn] at h
  exact Except.ok.inj h ▸ rfl

theorem nextCycle_no {cycle nextCycle : BillingCycle}
    (h : buildNextBillingCycle cycle = .ok nextCycle) : nextCycle.cycleNo = cycle.cycleNo + 1 := by
  unfold buildNextBillingCycle at h
  split at h
  · cases h
  · exact buildBillingCycle_no h

/-- The bill that is found or created is the one of the period. -/
theorem createMonthlyRentBillForPeriodIfAbsent_bill {orderId : Id} {amount : Int}
    {period : MonthlyRentPeriod} {source : BillSource} {sourceKey : IdempotencyKey}
    {contractSegmentId : Option Id} {bills bills' : List RentBill} {bill : RentBill}
    {created : Bool} (h : createMonthlyRentBillForPeriodIfAbsent orderId amount period source
      sourceKey contractSegmentId bills = some (bill, created, bills')) :
    bill ∈ bills' ∧ bill.orderId = orderId ∧ bill.billPeriodStart = period.start := by
  unfold createMonthlyRentBillForPeriodIfAbsent at h
  split at h
  · rename_i found hfound
    cases h
    have hwhere := List.find?_some hfound
    simp only [monthlyRentPeriodWhere, Bool.and_eq_true, beq_iff_eq] at hwhere
    exact ⟨List.mem_of_find?_eq_some hfound, hwhere.2, hwhere.1.1.1.2⟩
  split at h
  · cases h
  · cases h
    exact ⟨List.mem_append_right _ (List.mem_singleton_self _), rfl, rfl⟩

theorem Quiet.enqueueBillJobs (s : State) (r : BillingSchedule) (cycle : BillingCycle)
    (bill : RentBill) : Quiet s (enqueueBillJobs r cycle bill s) :=
  (Quiet.enqueue s _).trans (.enqueue _ _)

theorem Progress.quiet {e : Event} (h : Progress e s s') (h' : Quiet s' s'') : Progress e s s'' where
  schedules r hr := by
    obtain ⟨r', hr', hstep⟩ := h.schedules r hr
    obtain ⟨r'', hr'', hid, horder, hcycle, hstart⟩ := h'.schedules r' hr'
    refine ⟨r'', hr'', hid.trans hstep.id_eq, horder.trans hstep.orderId_eq, ?_⟩
    rw [hcycle, hstart]
    rcases hstep.moved with hstays | ⟨hnext, b, hb, hbill⟩
    · exact .inl hstays
    · exact .inr ⟨hnext, b, h'.bills b hb, hbill⟩
  bills b hb := by
    obtain ⟨b', hb', hsame⟩ := h.bills b hb
    exact ⟨b', h'.bills b' hb', hsame⟩
  unpaid billId hkeeps hunpaid := (h'.progress e).unpaid billId hkeeps (h.unpaid billId hkeeps hunpaid)
  jobs j hj hlive billId hbill hunpaid hkeeps := by
    obtain ⟨j', hj', hid, hsame, hlive'⟩ := h.jobs j hj hlive billId hbill hunpaid hkeeps
    obtain ⟨j'', hj'', hid', hsame', hlive''⟩ := h'.jobs j' hj' hlive'
    exact ⟨j'', hj'', hid'.trans hid, hsame'.trans hsame, hlive''⟩

/-- The schedule moves on from a cycle whose bill is there. -/
theorem Progress.advance (h : s.Ok) (e : Event) {r : BillingSchedule} (hr : r ∈ s.schedules)
    {nextCycle : BillingCycle} (completed : Bool) {bill : RentBill} {bills : List RentBill}
    (hnext : nextCycle.cycleNo = r.nextCycleNo + 1) (hkept : ∀ b ∈ s.bills, b ∈ bills)
    (hbill : bill ∈ bills ∧ bill.orderId = r.orderId ∧ bill.billPeriodStart = r.nextPeriodStart) :
    Progress e s ({ s with bills := bills }.updateSchedule r.id
      (advanceSchedule s.queue.now bill.id nextCycle completed)) where
  schedules r' hr' := by
    refine ⟨_, List.mem_map_of_mem hr', ?_⟩
    by_cases hid : r'.id = r.id
    · obtain rfl := h.unique hr' hr hid
      simp only [beq_self_eq_true, if_true]
      cases completed with
      | true => exact ⟨rfl, rfl, .inl ⟨rfl, rfl⟩⟩
      | false => exact ⟨rfl, rfl, .inr ⟨hnext, bill, hbill⟩⟩
    · simp only [show (r'.id == r.id) = false by simpa using hid]
      exact ⟨rfl, rfl, .inl ⟨rfl, rfl⟩⟩
  bills b hb := ⟨b, hkept b hb, rfl, rfl⟩
  unpaid billId _ hunpaid := by
    obtain ⟨b, hb, hopen⟩ := State.unpaid_iff.1 hunpaid
    exact State.unpaid_iff.2 ⟨b, hkept b hb, hopen⟩
  jobs j hj hlive _ _ _ _ := ⟨j, hj, rfl, rfl, hlive⟩

theorem Progress.generate (h : s.Ok) (e : Event) (claim : ClaimedJob) :
    Progress e s (s.generate claim) := by
  have hcases := generate_cases s claim
  generalize s.generate claim = s' at hcases
  cases hcases with
  | failed => exact (Quiet.refl s).progress e
  | @blocked r hr hactive code =>
    have hpaused : Quiet s (s.updateSchedule r.id (pauseForBlocker code)) :=
      .updateSchedule s r.id fun _ => ⟨rfl, rfl, rfl, rfl⟩
    exact hpaused.progress e
  | @closed r hr hactive hkey =>
    have hclosed : Quiet s (s.updateSchedule r.id (completeSchedule s.queue.now)) :=
      .updateSchedule s r.id fun _ => ⟨rfl, rfl, rfl, rfl⟩
    exact (hclosed.progress e).quiet (.of_eq rfl rfl rfl)
  | @billed r order t cycle nextCycle amount segmentId bill created completed bills hr hactive hkey
      horder hid hdelivery hcycle hstart hnext hbill =>
    obtain ⟨hmem, hbillOrder, hbillStart⟩ := createMonthlyRentBillForPeriodIfAbsent_bill hbill
    have hkept : ∀ b ∈ s.bills, b ∈ bills := by
      intro b hb
      rcases createMonthlyRentBillForPeriodIfAbsent_cases hbill with rfl | ⟨rfl, -⟩
      · exact hb
      · exact List.mem_append_left _ hb
    have hno : nextCycle.cycleNo = r.nextCycleNo + 1 := by
      rw [nextCycle_no hnext, buildBillingCycle_no hcycle]
    have hmoved := Progress.advance h e hr completed hno hkept
      ⟨hmem, hbillOrder.trans hid, hbillStart.trans hstart⟩
    exact (hmoved.quiet (.enqueueBillJobs _ r cycle bill)).quiet (.of_eq rfl rfl rfl)

/-! ## Pauses -/

/-- A reconciliation that pauses a schedule without pending jobs of unpaid bills. -/
theorem Progress.cancelPendingForSchedule (s : State) (e : Event) (id : Id)
    (hkeeps : ∀ j ∈ s.queue.jobs, j.billingScheduleId = some id → j.jobStatus = .pending →
      j.billId.any s.unpaid = false) :
    Progress e s (s.onQueue (.cancelPendingForSchedule id)) where
  schedules r hr := ⟨r, hr, rfl, rfl, .inl ⟨rfl, rfl⟩⟩
  bills b hb := ⟨b, hb, rfl, rfl⟩
  unpaid _ _ hunpaid := hunpaid
  jobs j hj hlive billId hbill hunpaid _ := by
    refine ⟨j, updateMany_kept hj ?_, rfl, rfl, hlive⟩
    by_contra hcancelled
    simp only [Bool.not_eq_false, Bool.and_eq_true, beq_iff_eq] at hcancelled
    have hnone := hkeeps j hj hcancelled.1 hcancelled.2
    simp [hbill, hunpaid] at hnone

theorem Quiet.before {e : Event} (h : Quiet s s') (h' : Progress e s' s'') : Progress e s s'' where
  schedules r hr := by
    obtain ⟨r', hr', hid, horder, hcycle, hstart⟩ := h.schedules r hr
    obtain ⟨r'', hr'', hstep⟩ := h'.schedules r' hr'
    refine ⟨r'', hr'', hstep.id_eq.trans hid, hstep.orderId_eq.trans horder, ?_⟩
    rw [← hcycle, ← hstart, ← horder]
    exact hstep.moved
  bills b hb := h'.bills b (h.bills b hb)
  unpaid billId hkeeps hunpaid := h'.unpaid billId hkeeps ((h.progress e).unpaid billId hkeeps hunpaid)
  jobs j hj hlive billId hbill hunpaid hkeeps := by
    obtain ⟨j', hj', hid, hsame, hlive'⟩ := h.jobs j hj hlive
    obtain ⟨j'', hj'', hid', hsame', hlive''⟩ := h'.jobs j' hj' hlive' billId (hsame.trans hbill)
      ((h.progress e).unpaid billId hkeeps hunpaid) hkeeps
    exact ⟨j'', hj'', hid'.trans hid, hsame'.trans hsame, hlive''⟩

/-- The reconciliation cancels what `cancelsPending` says, or nothing. -/
theorem Progress.pauseReconciliationBlockedSchedule (s : State) (e : Event)
    (snapshot : BillingSchedule) (code : Contract.ErrorCode)
    (hkeeps : (s.schedule? snapshot.id).any (fun schedule =>
        (schedule.version == snapshot.version &&
          schedule.status == if snapshot.status = .active then .active else .paused) ||
            (schedule.status == .paused && isReconciliationPauseReason schedule.pauseReason)) = true →
      ∀ j ∈ s.queue.jobs, j.billingScheduleId = some snapshot.id → j.jobStatus = .pending →
        j.billId.any s.unpaid = false) :
    Progress e s (pauseReconciliationBlockedSchedule snapshot code s) := by
  unfold Billing.pauseReconciliationBlockedSchedule
  cases hr : s.schedule? snapshot.id with
  | none => exact (Quiet.refl s).progress e
  | some r =>
    dsimp only
    rw [hr, Option.any_some, Bool.or_eq_true, Bool.and_eq_true, Bool.and_eq_true, beq_iff_eq,
      beq_iff_eq, beq_iff_eq] at hkeeps
    by_cases hcurrent : r.version = snapshot.version ∧
        r.status = (if snapshot.status = .active then .active else .paused)
    · rw [if_pos hcurrent]
      have hpaused : Quiet s (s.updateSchedule snapshot.id (pauseForBlocker code)) :=
        .updateSchedule s snapshot.id fun _ => ⟨rfl, rfl, rfl, rfl⟩
      exact hpaused.before (.cancelPendingForSchedule _ e snapshot.id (hkeeps (.inl hcurrent)))
    · rw [if_neg hcurrent]
      split
      · rename_i hpaused
        exact .cancelPendingForSchedule s e snapshot.id (hkeeps (.inr hpaused))
      · exact (Quiet.refl s).progress e

theorem Progress.reconcileOrder (s : State) (e : Event) (read : Order)
    (snapshot : Option BillingSchedule) (bills : List RentBill)
    (hkeeps : ∀ schedule, snapshot = some schedule → s.cancelsPending read schedule = true →
      ∀ j ∈ s.queue.jobs, j.billingScheduleId = some schedule.id → j.jobStatus = .pending →
        j.billId.any s.unpaid = false) :
    Progress e s (reconcileOrder read snapshot bills s) := by
  have hnothing : Progress e s s := (Quiet.refl s).progress e
  unfold Billing.reconcileOrder
  split
  · exact hnothing
  rename_i order horder
  split
  · rename_i schedule
    split
    · rename_i error hblocked
      refine .pauseReconciliationBlockedSchedule s e schedule error.code fun hcancels => ?_
      refine hkeeps schedule rfl ?_
      rw [State.cancelsPending, horder, Option.any_some, hblocked, hcancels]
      rfl
    · split
      · exact (Quiet.resumeReconciledSchedule s schedule).progress e
      · exact hnothing
  · split
    · exact hnothing
    split
    · exact hnothing
    split
    · exact hnothing
    · exact (Quiet.ensureScheduleAtCycle s _ _ _).progress e

/-! ## Every step -/

theorem progress_step {e : Event} (h : s.Ok) (he : KeepsBillJobs s e) :
    Progress e s (step s e) := by
  have hnothing : Progress e s s := (Quiet.refl s).progress e
  cases e with
  | order order =>
    simp only [step, State.putOrder]
    split
    · exact hnothing.quiet (.of_eq rfl rfl rfl)
    · split
      · exact hnothing
      · exact hnothing.quiet (.of_eq rfl rfl rfl)
  | ensureActiveSchedule orderId =>
    simp only [step]
    split
    · unfold Billing.ensureActiveSchedule
      split
      · exact (Quiet.ensureScheduleAtCycle s _ _ _).progress _
      · exact hnothing
    · exact hnothing
  | enqueueDueSchedule now id => exact (Quiet.enqueueDueSchedule s now id).progress _
  | claimDue => exact (Quiet.onQueue s (e := .claimDue _ _ _ _ _) rfl).progress _
  | generate claim =>
    simp only [step]
    split
    · exact .generate h _ claim
    · exact hnothing
  | complete claim =>
    simp only [step]
    split
    · exact (Quiet.onQueue s (e := .complete _ _) rfl).progress _
    · exact hnothing
  | fail claim error =>
    simp only [step]
    split
    · refine (Quiet.onQueue s ?_).progress _
      simp only [handleClaimedJob]
      split
      · rfl
      · split <;> rfl
    · exact hnothing
  | enqueueOther input =>
    simp only [step]
    split
    · exact hnothing
    · exact (Quiet.enqueue s input).progress _
  | cancelPendingForBills billIds => exact .cancelPendingForBills s billIds
  | retryJob jobId => exact (Quiet.retryJob s jobId).progress _
  | pauseCheck id =>
    simp only [step]
    split
    · exact hnothing.quiet (.of_eq rfl rfl rfl)
    · exact hnothing
  | pauseWrite id reason =>
    simp only [step]
    split
    · have hchecked : Quiet s { s with pausing := s.pausing.erase id } := .of_eq rfl rfl rfl
      refine hchecked.before (Quiet.progress (.updateSchedule _ id ?_) _)
      exact fun _ => ⟨rfl, rfl, rfl, rfl⟩
    · exact hnothing
  | resumeSchedule id => exact (Quiet.resumeSchedule s id).progress _
  | reconcileRead orderId =>
    simp only [step]
    split
    · split
      · exact hnothing.quiet (.of_eq rfl rfl rfl)
      · exact hnothing
    · exact hnothing
  | reconcileApply order snapshot bills =>
    simp only [step]
    split
    · rename_i hread
      refine .reconcileOrder s _ order snapshot bills fun schedule hsnapshot hcancels => ?_
      subst hsnapshot
      exact he hread hcancels
    · exact hnothing
  | resumeForExtension orderId segmentId =>
    exact (Quiet.resumeForExtension s orderId segmentId).progress _
  | readOrder orderId source =>
    simp only [step]
    split
    · exact hnothing.quiet (.of_eq rfl rfl rfl)
    · exact hnothing
  | readBills draft billingDate =>
    simp only [step]
    split
    · unfold State.readDraft
      split
      · split
        · exact hnothing.quiet (.of_eq rfl rfl rfl)
        · exact hnothing
      · exact hnothing
    · exact hnothing
  | createBill draft =>
    simp only [step]
    split
    · exact (Quiet.createManual s draft).progress _
    · exact hnothing
  | billStatus billId status =>
    refine .updateBill s billId (fun _ => rfl) (fun _ => rfl) (fun _ => rfl) ?_
    intro b _ hkeeps hopen
    have hstatus : ¬ (status = .paid ∨ status = .cancelled) := by simpa [Event.settles] using hkeeps
    rw [not_or] at hstatus
    simp only [RentBill.unpaid, Bool.and_eq_true] at hopen ⊢
    exact ⟨⟨hopen.1.1, by simpa using hstatus.1⟩, by simpa using hstatus.2⟩
  | deleteBill billId =>
    refine .updateBill s billId (fun _ => rfl) (fun _ => rfl) (fun _ => rfl) ?_
    intro b _ hkeeps _
    simp [Event.settles] at hkeeps
  | tick ms => exact (Quiet.onQueue s (e := .tick ms) rfl).progress _

/-! ## Runs -/

theorem bills_runs {evs : List Event} (h : s.Ok) (hevs : Runs.Along step KeepsAutomation s evs) :
    ∀ b ∈ s.bills, ∃ b' ∈ (Runs.runs step s evs).bills, b'.orderId = b.orderId ∧
      b'.billPeriodStart = b.billPeriodStart := by
  induction evs generalizing s with
  | nil => exact fun b hb => ⟨b, hb, rfl, rfl⟩
  | cons e evs ih =>
    intro b hb
    obtain ⟨⟨hended, hkeeps⟩, hrest⟩ := hevs
    obtain ⟨b', hb', horder, hstart⟩ := (progress_step h hkeeps).bills b hb
    obtain ⟨b'', hb'', horder', hstart'⟩ := ih (h.step hended) hrest b' hb'
    exact ⟨b'', hb'', horder'.trans horder, hstart'.trans hstart⟩

/-- A schedule stands at every cycle on its way, and leaves behind the bills of those cycles. -/
theorem cycles_runs {evs : List Event} (h : s.Ok) (hevs : Runs.Along step KeepsAutomation s evs)
    {r : BillingSchedule} (hr : r ∈ s.schedules) : ∃ r' ∈ (Runs.runs step s evs).schedules,
      r'.id = r.id ∧ r.nextCycleNo ≤ r'.nextCycleNo ∧
        ∀ n, r.nextCycleNo ≤ n → n < r'.nextCycleNo →
          ∃ k, ∃ between ∈ (Runs.runs step s (evs.take k)).schedules, between.id = r.id ∧
            between.nextCycleNo = n ∧ ∃ bill ∈ (Runs.runs step s evs).bills,
              bill.orderId = r.orderId ∧ bill.billPeriodStart = between.nextPeriodStart := by
  induction evs generalizing s r with
  | nil => exact ⟨r, hr, rfl, le_rfl, fun n hle hlt => absurd hlt (not_lt.2 hle)⟩
  | cons e evs ih =>
    obtain ⟨⟨hended, hkeeps⟩, hrest⟩ := hevs
    have hok := h.step hended
    obtain ⟨r₁, hr₁, hstep⟩ := (progress_step h hkeeps).schedules r hr
    obtain ⟨r', hr', hid, hle, hbetween⟩ := ih hok hrest hr₁
    have hle₁ : r.nextCycleNo ≤ r₁.nextCycleNo := by
      rcases hstep.moved with ⟨hsame, -⟩ | ⟨hnext, -⟩ <;> omega
    refine ⟨r', hr', hid.trans hstep.id_eq, hle₁.trans hle, fun n hn hlt => ?_⟩
    by_cases hlater : r₁.nextCycleNo ≤ n
    · obtain ⟨k, b, hb, hbid, hbn, bill, hbill, hbillOrder, hbillStart⟩ := hbetween n hlater hlt
      exact ⟨k + 1, b, hb, hbid.trans hstep.id_eq, hbn, bill, hbill,
        hbillOrder.trans hstep.orderId_eq, hbillStart⟩
    -- the cycle that this step leaves
    · rcases hstep.moved with ⟨hsame, -⟩ | ⟨hnext, bill, hbill, horder, hstart⟩
      · omega
      · obtain ⟨bill', hbill', horder', hstart'⟩ := bills_runs hok hrest bill hbill
        exact ⟨0, r, hr, rfl, by omega, bill', hbill', horder'.trans horder, hstart'.trans hstart⟩

theorem billJobs_runs {evs : List Event} (h : s.Ok)
    (hevs : Runs.Along step KeepsAutomation s evs) {j : Job} (hj : j ∈ s.queue.jobs)
    (hlive : j.jobStatus ≠ .cancelled) {billId : Id} (hbill : j.billId = some billId)
    (hunpaid : s.unpaid billId = true) (hkeeps : ∀ e ∈ evs, e.settles billId = false) :
    ∃ j' ∈ (Runs.runs step s evs).queue.jobs, j'.id = j.id ∧ j'.jobStatus ≠ .cancelled := by
  induction evs generalizing s j with
  | nil => exact ⟨j, hj, rfl, hlive⟩
  | cons e evs ih =>
    obtain ⟨⟨hended, hjobs⟩, hrest⟩ := hevs
    have hprogress := progress_step h hjobs
    have hopen := hkeeps e List.mem_cons_self
    obtain ⟨j', hj', hid, hsame, hlive'⟩ := hprogress.jobs j hj hlive billId hbill hunpaid hopen
    obtain ⟨j'', hj'', hid', hlive''⟩ := ih (h.step hended) hrest hj' hlive' (hsame.trans hbill)
      (hprogress.unpaid billId hopen hunpaid) fun e' he' => hkeeps e' (List.mem_cons_of_mem _ he')
    exact ⟨j'', hj'', hid'.trans hid, hlive''⟩

/-! ## The scan -/

/-- A step of the job table that reports no outcome leaves no dead letter behind. -/
theorem State.deadLettered_onQueue {r : BillingSchedule} (h : s.deadLettered r = false)
    {e : JobEvent} (hreports : e.outcome? = none) : (s.onQueue e).deadLettered r = false := by
  rw [State.deadLettered, List.any_eq_false] at h ⊢
  intro j' hj'
  simp only [Bool.and_eq_true, beq_iff_eq, not_and]
  intro hkey hdead
  obtain ⟨j, hj, hmove⟩ | ⟨id, input, -, rfl, -⟩ := jobStep_row hj'
  · have hkey' : j.idempotencyKey = r.key := hmove.kept.1.symm.trans hkey
    refine h j hj ?_
    cases hmove with
    | same _ => simp [hkey', hdead]
    | ended hof _ => simp [hreports] at hof
    | leased | cancelled | reactivated | retried => cases hdead
  · cases hdead

theorem State.deadLettered_scan {r : BillingSchedule} (h : s.deadLettered r = false) (now : Int) :
    (enqueueDueSchedules now s).deadLettered r = false := by
  have hone : ∀ (id : Id) (s : State), s.deadLettered r = false →
      (enqueueDueSchedule now id s).deadLettered r = false := by
    intro id s h
    unfold Billing.enqueueDueSchedule
    split
    · exact h
    split
    · exact State.deadLettered_onQueue (State.deadLettered_onQueue h rfl) rfl
    · exact h
  have hall : ∀ (rs : List BillingSchedule) (s : State), s.deadLettered r = false →
      (rs.foldl (fun s snapshot => enqueueDueSchedule now snapshot.id s) s).deadLettered r =
        false := by
    intro rs
    induction rs with
    | nil => exact fun s h => h
    | cons snapshot rs ih => exact fun s h => ih _ (hone snapshot.id s h)
  exact hall _ s h

/-- A generation that can still run and is no dead letter is waiting or under way. -/
theorem State.hasRunnableJob_of_open {r : BillingSchedule} (h : s.hasOpenJob r = true)
    (hdead : s.deadLettered r = false) : s.hasRunnableJob r = true := by
  rw [State.hasOpenJob_iff] at h
  obtain ⟨j, hj, hkey, htype, hschedule, hdone, hcancelled⟩ := h
  rw [State.deadLettered, List.any_eq_false] at hdead
  have hnot : j.jobStatus ≠ .deadLetter := by
    intro hstatus
    exact hdead j hj (by simp [hkey, hstatus])
  refine List.any_eq_true.2 ⟨j, hj, ?_⟩
  cases hstatus : j.jobStatus <;> simp_all

/-! ## Pausing and resuming over whole runs -/

/-- In every run that opens no schedule again that a generation has completed, and in which no
reconciliation cancels a pending job of an unpaid bill, no stretch of the run loses automation. -/
theorem pausing_loses_nothing (now : Int) (evs evs' : List Event)
    (hkeeps : Runs.Along step KeepsAutomation (.init now) (evs ++ evs')) :
    LosesNothing (billingRun now evs) evs' := by
  obtain ⟨hbefore, hafter⟩ := Runs.Along.append.1 hkeeps
  have hok : (billingRun now evs).Ok :=
    Runs.runs_invariant State.Ok (fun _ _ he h => h.step he.1) (State.Ok.init now) hbefore
  have hend : (Runs.runs step (billingRun now evs) evs').Ok :=
    Runs.runs_invariant State.Ok (fun _ _ he h => h.step he.1) hok hafter
  constructor
  · exact fun r hr => cycles_runs hok hafter hr
  · intro now' r hr hdue hdead
    exact State.hasRunnableJob_of_open (hend.neverStalls.scanned now' r hr hdue)
      (State.deadLettered_scan hdead now')
  · intro r hr j hj _ hpending billId hbill hunpaid hopen
    exact billJobs_runs hok hafter hj (by simp [hpending]) hbill hunpaid hopen

/-! An order for four months from the first of January 1970. -/

def fourMonthOrder (segments : List Contract.ContractSegment) : Order :=
  { twoMonthOrder segments with endDate := some 120 }

def fourMonthSegment : Contract.ContractSegment := ⟨1, 1, .active, 0, 120, 500, none, none⟩

/-- Its first cycle is due. -/
def dueRun : List Event :=
  [.order (fourMonthOrder [fourMonthSegment]), .ensureActiveSchedule 1, .tick 2500000000,
    .enqueueDueSchedule 2500000000 0]

/-- The bill of the first cycle is issued; it has a due notice and an overdue mark to come. -/
def issuedRun : List Event :=
  let claimed := dueRun ++ [.claimDue 1 60000 [] 7]
  claimed ++ (billingRun 0 claimed).queue.granted.flatMap fun claim =>
    [.generate claim, .complete claim]

/-- The order is written with these segments, and then reconciled. -/
def reconciled (before : List Event) (segments : List Contract.ContractSegment) : List Event :=
  let read := [.order (fourMonthOrder segments), .reconcileRead 1]
  read ++ ((billingRun 0 (before ++ read)).reconciling.take 1).map fun (order, schedule, bills) =>
    .reconcileApply order schedule bills

/-- The segment is missing when the order is reconciled, is put back, and the order is reconciled again
and scanned. -/
def pausedAndResumed (before : List Event) : List Event :=
  let paused := reconciled before []
  paused ++ reconciled (before ++ paused) [fourMonthSegment] ++ [.enqueueDueSchedule 5000000000 0]

/-- A pause before any bill is issued. -/
theorem pausing_loses_nothing_due :
    LosesNothing (billingRun 0 dueRun) (pausedAndResumed dueRun) :=
  pausing_loses_nothing 0 dueRun (pausedAndResumed dueRun) (by decide +kernel)

/-- The schedule is resumed and the next generation enqueued, but the overdue mark of the unpaid bill stays
cancelled. -/
theorem pausing_loses_overdue_mark :
    ¬ LosesNothing (billingRun 0 issuedRun) (pausedAndResumed issuedRun) := by
  intro h
  have hlost : ∃ r ∈ (billingRun 0 issuedRun).schedules, ∃ j ∈ (billingRun 0 issuedRun).queue.jobs,
      j.billingScheduleId = some r.id ∧ j.jobStatus = .pending ∧ j.jobType = .markBillOverdue ∧
        j.billId = some 0 ∧ (billingRun 0 issuedRun).unpaid 0 = true ∧
          (∀ e ∈ pausedAndResumed issuedRun, e.settles 0 = false) ∧
            ∀ j' ∈ (Runs.runs step (billingRun 0 issuedRun) (pausedAndResumed issuedRun)).queue.jobs,
              j'.id = j.id → j'.jobStatus = .cancelled := by
    decide +kernel
  obtain ⟨r, hr, j, hj, hschedule, hpending, -, hbill, hunpaid, hopen, hcancelled⟩ := hlost
  obtain ⟨j', hj', hid, hlive⟩ := h.billJobs r hr j hj hschedule hpending 0 hbill hunpaid hopen
  exact hlive (hcancelled j' hj' hid)

end SubscriptionSaas.Billing
