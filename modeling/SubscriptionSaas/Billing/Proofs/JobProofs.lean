import SubscriptionSaas.Billing.Jobs

/-!
# Leases fence stale workers

What a step can do to a row of the job table is listed in `RowMove`. The invariant `JobsOk` ties the
rows to the leases that were granted: a lease that is neither expired nor ended is the current row
itself, and the token of a row has not been used up by an outcome. Both are kept because a claim
uses a new token and takes a leased row only when its lease has expired, and because every outcome
asks for the token of the row.
-/

namespace SubscriptionSaas.Billing

/-! ## What a step does to a row -/

/-- The row that an outcome leaves. -/
def JobEvent.outcomeRow (now : Int) : JobEvent → Job → Job
  | .complete _ _ => completedRow now
  | .reschedule _ _ delayMs error => rescheduledRow now delayMs error
  | .defer _ _ reason => deferredRow now reason
  | .deadLetter _ _ error => deadLetterRow now error
  | _ => id

/-- The lease of a claimed job, as an outcome finds it. -/
theorem processingLease_iff {jobId : Id} {token : Token} {j : Job} :
    processingLease jobId token j = true ↔
      j.id = jobId ∧ j.jobStatus = .processing ∧ j.leaseToken = some token := by
  simp [processingLease, and_assoc]

theorem updateMany_none {data : Job → Job} {p : Job → Bool} {jobs : List Job}
    (h : ∀ j ∈ jobs, p j = false) : updateMany data p jobs = (jobs, 0) := by
  have hcount : jobs.countP p = 0 := List.countP_eq_zero.2 fun j hj => by simp [h j hj]
  have hmap : jobs.map (fun j => if p j then data j else j) = jobs := by
    rw [List.map_congr_left (g := id) fun j hj => by simp [h j hj], List.map_id]
  rw [updateMany, hcount, hmap]

theorem jobStep_outcome (s : JobTable) {e : JobEvent} {jobId : Id} {token : Token}
    (he : e.outcome? = some (jobId, token)) :
    jobStep s e = s.settle jobId token
      (updateMany (e.outcomeRow s.now) (processingLease jobId token) s.jobs) := by
  cases e <;> simp only [JobEvent.outcome?, Option.some.injEq, Prod.mk.injEq, reduceCtorEq] at he <;>
    obtain ⟨rfl, rfl⟩ := he <;> rfl

/-- An outcome leaves the row without a lease. -/
theorem JobEvent.outcomeRow_released {e : JobEvent} {l : Id × Token} (he : e.outcome? = some l)
    (now : Int) (j : Job) :
    (e.outcomeRow now j).id = j.id ∧ (e.outcomeRow now j).leaseToken = none ∧
      (e.outcomeRow now j).jobStatus ≠ .processing := by
  cases e <;> simp [JobEvent.outcome?] at he <;>
    simp [JobEvent.outcomeRow, completedRow, rescheduledRow, deferredRow, deadLetterRow]

def JobEvent.cancels : JobEvent → Bool
  | .cancelPendingForBills _ | .cancelPendingForSchedule _ => true
  | _ => false

/-- What a step can make of the row `j`. -/
inductive RowMove (s : JobTable) (j : Job) : JobEvent → Job → Prop
  | same {e : JobEvent} (hkeep : ∀ jobId token, e.outcome? = some (jobId, token) →
      processingLease jobId token j = false) : RowMove s j e j
  | leased {limit leaseMs : Int} {supported : List JobType} {skipLocked : List Id} {token : Token}
      (hdue : due s.now j = true)
      (hgranted : ⟨lease s.now leaseMs token j, token, s.now + leaseMs⟩ ∈
        (jobStep s (.claimDue limit leaseMs supported skipLocked token)).granted) :
      RowMove s j (.claimDue limit leaseMs supported skipLocked token)
        (lease s.now leaseMs token j)
  | ended {e : JobEvent} {jobId : Id} {token : Token} (hof : e.outcome? = some (jobId, token))
      (hlease : processingLease jobId token j = true) : RowMove s j e (e.outcomeRow s.now j)
  | cancelled {e : JobEvent} (hpending : j.jobStatus = .pending) (hcancels : e.cancels = true) :
      RowMove s j e (cancelRow s.now j)
  | reactivated {id : Id} {key : IdempotencyKey} {availableAt : Int}
      (hcancelled : j.jobStatus = .cancelled) :
      RowMove s j (.reactivateCancelled id key availableAt) (reactivatedRow availableAt j)
  | retried (hdead : j.jobStatus = .deadLetter) :
      RowMove s j (.retryDeadLetter j.id) (reopenRow s.now j)

theorem RowMove.id_eq {s : JobTable} {j j' : Job} {e : JobEvent} (h : RowMove s j e j') :
    j'.id = j.id := by
  cases h with
  | ended hof _ => exact (JobEvent.outcomeRow_released hof s.now j).1
  | _ => rfl

/-- A row keeps what it is a job of. -/
theorem RowMove.kept {s : JobTable} {j j' : Job} {e : JobEvent} (h : RowMove s j e j') :
    j'.idempotencyKey = j.idempotencyKey ∧ j'.jobType = j.jobType ∧
      j'.billingScheduleId = j.billingScheduleId := by
  cases h with
  | ended hof _ =>
    cases e <;> simp [JobEvent.outcome?] at hof <;>
      simp [JobEvent.outcomeRow, completedRow, rescheduledRow, deferredRow, deadLetterRow]
  | _ => exact ⟨rfl, rfl, rfl⟩

/-- A row becomes completed when its completion is reported. -/
theorem RowMove.completed {s : JobTable} {j j' : Job} {e : JobEvent} (h : RowMove s j e j')
    (hdone : j'.jobStatus = .completed) :
    j.jobStatus = .completed ∨ ∃ token, e = .complete j.id token := by
  cases h with
  | same _ => exact .inl hdone
  | ended hof hlease =>
    obtain ⟨hid, -, -⟩ := processingLease_iff.1 hlease
    cases e with
    | complete jobId token =>
      obtain ⟨rfl, -⟩ := Prod.mk.inj (Option.some.inj hof)
      exact .inr ⟨token, by rw [hid]⟩
    | reschedule | defer | deadLetter => cases hdone
    | _ => cases hof
  | leased | cancelled | reactivated | retried => cases hdone

@[simp] theorem mem_byAvailability {jobs : List Job} {j : Job} :
    j ∈ byAvailability jobs ↔ j ∈ jobs := (List.perm_insertionSort _ jobs).mem_iff

theorem hasLease_some {j : Job} {g : ClaimedJob} (h : hasLease j = some g) :
    g.job = j ∧ j.leaseToken = some g.leaseToken ∧ j.leaseExpiresAt = some g.leaseExpiresAt := by
  unfold hasLease at h
  split at h
  · rename_i token expiresAt htoken hexpires
    obtain rfl := Option.some.inj h
    exact ⟨rfl, htoken, hexpires⟩
  · cases h

/-- A claim's jobs are rows of the table under the token of the claim. -/
theorem claimDue_claimed {now : Int} {limit leaseMs : Int} {supported : List JobType}
    {active skipLocked : List Id} {token : Token} {jobs : List Job} {g : ClaimedJob}
    (hg : g ∈ (claimDue now limit leaseMs supported active skipLocked token jobs).2) :
    g.job ∈ (claimDue now limit leaseMs supported active skipLocked token jobs).1 ∧
      hasLease g.job = some g ∧ g.leaseToken = token := by
  unfold claimDue at hg ⊢
  split at hg
  · cases hg
  rename_i hguard
  rw [if_neg hguard]
  obtain ⟨j, hj, hlease⟩ := List.mem_filterMap.1 hg
  rw [mem_byAvailability, List.mem_filter, Bool.and_eq_true, beq_iff_eq] at hj
  obtain ⟨hjob, htoken, -⟩ := hasLease_some hlease
  have hsame : token = g.leaseToken := Option.some.inj (hj.2.2.symm.trans htoken)
  exact ⟨hjob ▸ hj.1, hjob ▸ hlease, hsame.symm⟩

/-- The rows after a claim. -/
theorem claimDue_rows (s : JobTable) (limit leaseMs : Int) (supported : List JobType)
    (skipLocked : List Id) (token : Token) : ∃ move,
    (jobStep s (.claimDue limit leaseMs supported skipLocked token)).jobs = s.jobs.map move ∧
      ∀ j ∈ s.jobs, RowMove s j (.claimDue limit leaseMs supported skipLocked token) (move j) := by
  by_cases hguard : limit ≤ 0 ∨ leaseMs ≤ 0 ∨ supported = []
  · refine ⟨id, ?_, fun j _ => .same (by simp [JobEvent.outcome?])⟩
    simp [jobStep, claimDue, hguard]
  set ids := (claimCandidates s.now limit supported s.activeSchedules skipLocked s.jobs).map (·.id)
    with hids
  set p : Job → Bool := fun j => ids.contains j.id && due s.now j with hp
  set move : Job → Job := fun j => if p j then lease s.now leaseMs token j else j with hmove
  have hstep : jobStep s (.claimDue limit leaseMs supported skipLocked token) =
      { s with
        jobs := s.jobs.map move
        granted := (byAvailability ((s.jobs.map move).filter fun j =>
          ids.contains j.id && j.leaseToken == some token)).filterMap hasLease ++ s.granted } := by
    simp [jobStep, claimDue, hguard, updateMany, hmove, hp, hids]
  refine ⟨move, by rw [hstep], fun j hj => ?_⟩
  by_cases hpj : p j = true
  · have hmj : move j = lease s.now leaseMs token j := if_pos hpj
    obtain ⟨hid, hdue⟩ := (Bool.and_eq_true _ _).mp hpj
    rw [hmj]
    refine .leased hdue ?_
    rw [hstep]
    refine List.mem_append_left _ (List.mem_filterMap.2 ⟨lease s.now leaseMs token j, ?_, rfl⟩)
    rw [mem_byAvailability, List.mem_filter]
    refine ⟨List.mem_map.2 ⟨j, hj, hmj⟩, ?_⟩
    rw [Bool.and_eq_true, beq_iff_eq]
    exact ⟨hid, rfl⟩
  · have hmj : move j = j := if_neg hpj
    rw [hmj]
    exact .same (by simp [JobEvent.outcome?])

/-- The table after a step: every row has made its move, and a new row may have been added. -/
theorem jobStep_jobs (s : JobTable) (e : JobEvent) : ∃ move extra,
    (jobStep s e).jobs = s.jobs.map move ++ extra ∧ (∀ j ∈ s.jobs, RowMove s j e (move j)) ∧
      (extra = [] ∨ ∃ id input, e = .enqueue id input ∧ extra = [newJob s.now id input] ∧
        ∀ j ∈ s.jobs, j.id ≠ id) := by
  have hquiet : ∀ {data : Job → Job} {p : Job → Bool}, e.outcome? = none →
      (jobStep s e).jobs = (updateMany data p s.jobs).1 → (∀ j, p j = true → RowMove s j e (data j)) →
      ∃ move extra, (jobStep s e).jobs = s.jobs.map move ++ extra ∧
        (∀ j ∈ s.jobs, RowMove s j e (move j)) ∧
          (extra = [] ∨ ∃ id input, e = .enqueue id input ∧ extra = [newJob s.now id input] ∧
            ∀ j ∈ s.jobs, j.id ≠ id) := by
    intro data p hnone hjobs hmove
    refine ⟨fun j => if p j then data j else j, [], ?_, fun j _ => ?_, .inl rfl⟩
    · rw [hjobs, List.append_nil]
      rfl
    by_cases hpj : p j = true
    · simpa [hpj] using hmove j hpj
    · simpa [hpj] using RowMove.same (by simp [hnone])
  have hkept : e.outcome? = none → (jobStep s e).jobs = s.jobs →
      ∃ move extra, (jobStep s e).jobs = s.jobs.map move ++ extra ∧
        (∀ j ∈ s.jobs, RowMove s j e (move j)) ∧
          (extra = [] ∨ ∃ id input, e = .enqueue id input ∧ extra = [newJob s.now id input] ∧
            ∀ j ∈ s.jobs, j.id ≠ id) := by
    intro hnone hjobs
    exact ⟨id, [], by simp [hjobs], fun j _ => .same (by simp [hnone]), .inl rfl⟩
  rcases he : e.outcome? with _ | ⟨jobId, token⟩
  · cases e with
    | complete | reschedule | defer | deadLetter => cases he
    | tick | schedules => exact hkept he rfl
    | enqueue id input =>
      by_cases htaken : s.jobs.any fun j => j.idempotencyKey == input.idempotencyKey || j.id == id
      · exact hkept he (by simp only [jobStep, enqueue, htaken, if_true])
      refine ⟨fun j => j, [newJob s.now id input], ?_, fun j _ => .same (by simp [he]),
        .inr ⟨id, input, rfl, rfl, fun j hj hid => htaken (List.any_eq_true.2 ⟨j, hj, by simp [hid]⟩)⟩⟩
      simp only [jobStep, enqueue, if_neg htaken, List.map_id']
    | claimDue limit leaseMs supported skipLocked token =>
      obtain ⟨move, hjobs, hmove⟩ := claimDue_rows s limit leaseMs supported skipLocked token
      exact ⟨move, [], by rw [hjobs, List.append_nil], hmove, .inl rfl⟩
    | cancelPendingForBills billIds =>
      by_cases hempty : billIds = []
      · exact hkept he (by simp only [jobStep, cancelPendingForBills, hempty, if_true])
      · have hjobs : (jobStep s (.cancelPendingForBills billIds)).jobs =
            (updateMany (cancelRow s.now) (fun j => j.billId.any billIds.contains &&
              j.jobStatus == .pending && settledBillJobTypes.contains j.jobType) s.jobs).1 := by
          simp only [jobStep, cancelPendingForBills, if_neg hempty]
        refine hquiet he hjobs fun j hj => ?_
        simp only [Bool.and_eq_true, beq_iff_eq] at hj
        exact .cancelled hj.1.2 rfl
    | cancelPendingForSchedule id =>
      refine hquiet he rfl fun j hj => ?_
      simp only [Bool.and_eq_true, beq_iff_eq] at hj
      exact .cancelled hj.2 rfl
    | reactivateCancelled id key availableAt =>
      refine hquiet he rfl fun j hj => ?_
      simp only [Bool.and_eq_true, beq_iff_eq] at hj
      exact .reactivated hj.1.2
    | retryDeadLetter jobId =>
      refine hquiet he rfl fun j hj => ?_
      simp only [Bool.and_eq_true, beq_iff_eq] at hj
      obtain ⟨rfl, hdead⟩ := hj
      exact .retried hdead
  · refine ⟨fun j => if processingLease jobId token j then e.outcomeRow s.now j else j, [],
      ?_, fun j _ => ?_, .inl rfl⟩
    · rw [jobStep_outcome s he, List.append_nil]
      rfl
    by_cases hlease : processingLease jobId token j = true
    · simpa [hlease] using RowMove.ended he hlease
    · simp only [hlease, if_neg Bool.false_ne_true]
      refine .same fun jobId' token' heq => ?_
      obtain ⟨rfl, rfl⟩ := Prod.mk.inj (Option.some.inj (he.symm.trans heq))
      simpa using hlease

/-- Where a row of the table after a step comes from. -/
theorem jobStep_row {s : JobTable} {e : JobEvent} {j' : Job} (h : j' ∈ (jobStep s e).jobs) :
    (∃ j ∈ s.jobs, RowMove s j e j') ∨
      ∃ id input, e = .enqueue id input ∧ j' = newJob s.now id input ∧ ∀ j ∈ s.jobs, j.id ≠ id := by
  obtain ⟨move, extra, hjobs, hmove, hextra⟩ := jobStep_jobs s e
  rw [hjobs, List.mem_append] at h
  rcases h with h | h
  · obtain ⟨j, hj, rfl⟩ := List.mem_map.1 h
    exact .inl ⟨j, hj, hmove j hj⟩
  rcases hextra with rfl | ⟨id, input, he, rfl, hid⟩
  · cases h
  · exact .inr ⟨id, input, he, List.mem_singleton.1 h, hid⟩

/-- No row is deleted. -/
theorem jobStep_kept {s : JobTable} {j : Job} (hj : j ∈ s.jobs) (e : JobEvent) :
    ∃ j' ∈ (jobStep s e).jobs, RowMove s j e j' := by
  obtain ⟨move, extra, hjobs, hmove, -⟩ := jobStep_jobs s e
  exact ⟨move j, hjobs ▸ List.mem_append_left _ (List.mem_map_of_mem hj), hmove j hj⟩

theorem jobStep_ids {s : JobTable} (h : (s.jobs.map (·.id)).Nodup) (e : JobEvent) :
    ((jobStep s e).jobs.map (·.id)).Nodup := by
  obtain ⟨move, extra, hjobs, hmove, hextra⟩ := jobStep_jobs s e
  have hids : (s.jobs.map move).map (·.id) = s.jobs.map (·.id) := by
    rw [List.map_map]
    exact List.map_congr_left fun j hj => (hmove j hj).id_eq
  rw [hjobs, List.map_append, hids]
  rcases hextra with rfl | ⟨id, input, -, rfl, hid⟩
  · simpa using h
  · refine List.nodup_append.2 ⟨h, List.nodup_singleton _, ?_⟩
    intro a ha b hb
    obtain ⟨j, hj, rfl⟩ := List.mem_map.1 ha
    rw [List.mem_singleton.1 hb]
    exact hid j hj

/-! ## The leases -/

theorem jobStep_now (s : JobTable) (e : JobEvent) : s.now ≤ (jobStep s e).now := by
  cases e with
  | tick ms =>
    exact Int.le_add_of_nonneg_right (Int.natCast_nonneg ms)
  | _ => exact le_refl s.now

theorem jobStep_granted {s : JobTable} {e : JobEvent} {g : ClaimedJob}
    (hg : g ∈ (jobStep s e).granted) : g ∈ s.granted ∨ g.job ∈ (jobStep s e).jobs ∧ hasLease g.job = some g ∧
      ∃ limit leaseMs supported skipLocked,
        e = .claimDue limit leaseMs supported skipLocked g.leaseToken := by
  cases e with
  | claimDue limit leaseMs supported skipLocked token =>
    rcases List.mem_append.1 hg with hg | hg
    · obtain ⟨hmem, hlease, rfl⟩ := claimDue_claimed hg
      exact .inr ⟨hmem, hlease, limit, leaseMs, supported, skipLocked, rfl⟩
    · exact .inl hg
  | _ => exact .inl hg

theorem granted_step {s : JobTable} {g : ClaimedJob} (hg : g ∈ s.granted) (e : JobEvent) :
    g ∈ (jobStep s e).granted := by
  cases e with
  | claimDue => exact List.mem_append_right _ hg
  | _ => exact hg

/-- An outcome counts when it finds its lease. -/
theorem jobStep_ended (s : JobTable) (e : JobEvent) : (jobStep s e).ended = s.ended ∨
    ∃ jobId token, e.outcome? = some (jobId, token) ∧
      (∃ j ∈ s.jobs, processingLease jobId token j = true) ∧
        (jobStep s e).ended = (jobId, token) :: s.ended := by
  rcases he : e.outcome? with _ | ⟨jobId, token⟩
  · cases e with
    | complete | reschedule | defer | deadLetter => cases he
    | _ => exact .inl rfl
  have hstep := jobStep_outcome s he
  by_cases hcount : s.jobs.countP (processingLease jobId token) = 0
  · exact .inl (by rw [hstep, JobTable.settle, updateMany, if_pos hcount])
  · refine .inr ⟨jobId, token, rfl, ?_, by rw [hstep, JobTable.settle, updateMany, if_neg hcount]⟩
    exact List.countP_pos_iff.1 (Nat.pos_of_ne_zero hcount)

theorem ended_step {s : JobTable} {l : Id × Token} (hl : l ∈ s.ended) (e : JobEvent) :
    l ∈ (jobStep s e).ended := by
  rcases jobStep_ended s e with h | ⟨jobId, token, -, -, h⟩
  · rwa [h]
  · rw [h]
    exact List.mem_cons_of_mem _ hl

theorem jobStep_ended_of {s : JobTable} {e : JobEvent} {jobId : Id} {token : Token} {j : Job}
    (he : e.outcome? = some (jobId, token)) (hj : j ∈ s.jobs)
    (hlease : processingLease jobId token j = true) : (jobId, token) ∈ (jobStep s e).ended := by
  have hcount : s.jobs.countP (processingLease jobId token) ≠ 0 :=
    (List.countP_pos_iff.2 ⟨j, hj, hlease⟩).ne'
  rw [jobStep_outcome s he, JobTable.settle, updateMany, if_neg hcount]
  exact List.mem_cons_self

/-- How the rows and the leases belong together. -/
structure JobsOk (s : JobTable) : Prop where
  ids : (s.jobs.map (·.id)).Nodup
  free : ∀ j ∈ s.jobs, j.jobStatus ≠ .processing → j.leaseToken = none
  leased : ∀ j ∈ s.jobs, j.jobStatus = .processing → ∃ g ∈ s.granted, hasLease j = some g
  snapshot : ∀ g ∈ s.granted, hasLease g.job = some g
  current : ∀ g ∈ s.granted, s.live g → g.job ∈ s.jobs
  granted_inj : ∀ g ∈ s.granted, ∀ g' ∈ s.granted, g.lease = g'.lease → g = g'
  unused : ∀ j ∈ s.jobs, ∀ token, j.leaseToken = some token → (j.id, token) ∉ s.ended
  ended_granted : ∀ l ∈ s.ended, l ∈ s.granted.map ClaimedJob.lease
  ended_nodup : s.ended.Nodup

theorem JobsOk.token {s : JobTable} (h : JobsOk s) {j : Job} (hj : j ∈ s.jobs) {token : Token}
    (htoken : j.leaseToken = some token) :
    j.jobStatus = .processing ∧ ∃ g ∈ s.granted, g.job = j ∧ g.leaseToken = token := by
  have hprocessing : j.jobStatus = .processing := by
    by_contra hne
    rw [h.free j hj hne] at htoken
    cases htoken
  obtain ⟨g, hg, hlease⟩ := h.leased j hj hprocessing
  obtain ⟨hjob, hgt, -⟩ := hasLease_some hlease
  exact ⟨hprocessing, g, hg, hjob, Option.some.inj (hgt.symm.trans htoken)⟩

theorem JobsOk.init (now : Int) : JobsOk (.init now) := by
  constructor <;> simp [JobTable.init]

section Step

variable {s : JobTable} {e : JobEvent}

theorem JobsOk.free_step (h : JobsOk s) {j' : Job} (hj' : j' ∈ (jobStep s e).jobs)
    (hidle : j'.jobStatus ≠ .processing) : j'.leaseToken = none := by
  rcases jobStep_row hj' with ⟨j, hj, hmove⟩ | ⟨id, input, -, rfl, -⟩
  · cases hmove with
    | same _ => exact h.free j' hj hidle
    | leased _ _ => exact absurd rfl hidle
    | ended hof _ => exact (JobEvent.outcomeRow_released hof s.now j).2.1
    | cancelled hpending => exact h.free j hj (by simp [hpending])
    | reactivated _ => rfl
    | retried _ => rfl
  · rfl

theorem JobsOk.leased_step (h : JobsOk s) {j' : Job} (hj' : j' ∈ (jobStep s e).jobs)
    (hbusy : j'.jobStatus = .processing) : ∃ g ∈ (jobStep s e).granted, hasLease j' = some g := by
  rcases jobStep_row hj' with ⟨j, hj, hmove⟩ | ⟨id, input, -, rfl, -⟩
  · cases hmove with
    | same _ =>
      obtain ⟨g, hg, hlease⟩ := h.leased j' hj hbusy
      exact ⟨g, granted_step hg e, hlease⟩
    | leased _ hgranted => exact ⟨_, hgranted, rfl⟩
    | ended hof _ => exact absurd hbusy (JobEvent.outcomeRow_released hof s.now j).2.2
    | cancelled _ => cases hbusy
    | reactivated _ => cases hbusy
    | retried _ => cases hbusy
  · cases hbusy

theorem JobsOk.snapshot_step (h : JobsOk s) {g : ClaimedJob} (hg : g ∈ (jobStep s e).granted) :
    hasLease g.job = some g := by
  rcases jobStep_granted hg with hg | ⟨-, hlease, -⟩
  · exact h.snapshot g hg
  · exact hlease

/-- A lease that is live stays on its row. -/
theorem JobsOk.current_step (h : JobsOk s) {g : ClaimedJob} (hg : g ∈ (jobStep s e).granted)
    (hlive : (jobStep s e).live g) : g.job ∈ (jobStep s e).jobs := by
  rcases jobStep_granted hg with hg | ⟨hmem, -, -⟩
  · have hwas : s.live g :=
      ⟨lt_of_le_of_lt (jobStep_now s e) hlive.1, fun hl => hlive.2 (ended_step hl e)⟩
    have hj := h.current g hg hwas
    obtain ⟨-, htoken, hexpires⟩ := hasLease_some (h.snapshot g hg)
    have hbusy := (h.token hj htoken).1
    obtain ⟨j', hj', hmove⟩ := jobStep_kept hj e
    generalize hrow : g.job = j at *
    cases hmove with
    | same _ => exact hj'
    | leased hdue _ =>
      have hexpired : g.leaseExpiresAt ≤ s.now := by simpa [due, hbusy, hexpires] using hdue
      exact absurd hwas.1 (not_lt.2 hexpired)
    | ended hof hlease =>
      obtain ⟨hid, -, htoken'⟩ := processingLease_iff.1 hlease
      obtain rfl := Option.some.inj (htoken.symm.trans htoken')
      refine absurd (jobStep_ended_of hof hj hlease) ?_
      rw [← hid, ← hrow]
      exact hlive.2
    | cancelled hpending => simp [hbusy] at hpending
    | reactivated hcancelled => simp [hbusy] at hcancelled
    | retried hdead => simp [hbusy] at hdead
  · exact hmem

theorem JobsOk.granted_inj_step (h : JobsOk s) (hfresh : Fresh s e) {g g' : ClaimedJob}
    (hg : g ∈ (jobStep s e).granted) (hg' : g' ∈ (jobStep s e).granted)
    (hsame : g.lease = g'.lease) : g = g' := by
  obtain ⟨hid, htoken⟩ := Prod.mk.inj hsame
  rcases jobStep_granted hg with hold | ⟨hmem, hlease, limit, leaseMs, supported, skipLocked, he⟩ <;>
    rcases jobStep_granted hg' with hold' | ⟨hmem', hlease', limit', leaseMs', supported', skip', he'⟩
  · exact h.granted_inj g hold g' hold' hsame
  · subst he'
    exact absurd htoken (hfresh g hold)
  · subst he
    exact absurd htoken.symm (hfresh g' hold')
  · have hrow : g.job = g'.job := List.inj_on_of_nodup_map (jobStep_ids h.ids e) hmem hmem' hid
    rw [hrow, hlease'] at hlease
    exact (Option.some.inj hlease).symm

theorem JobsOk.unused_step (h : JobsOk s) (hfresh : Fresh s e) {j' : Job}
    (hj' : j' ∈ (jobStep s e).jobs) {token : Token} (htoken : j'.leaseToken = some token) :
    (j'.id, token) ∉ (jobStep s e).ended := by
  have hrow : (j'.id, token) ∉ s.ended ∧ ∀ l, e.outcome? = some l → l ≠ (j'.id, token) := by
    rcases jobStep_row hj' with ⟨j, hj, hmove⟩ | ⟨id, input, -, rfl, -⟩
    · cases hmove with
      | same hkeep =>
        refine ⟨h.unused j' hj token htoken, fun l hl heq => ?_⟩
        subst heq
        have hnot := hkeep _ _ hl
        rw [processingLease_iff.2 ⟨rfl, (h.token hj htoken).1, htoken⟩] at hnot
        cases hnot
      | leased _ _ =>
        obtain rfl := Option.some.inj htoken
        refine ⟨fun hl => ?_, fun l hl => by simp [JobEvent.outcome?] at hl⟩
        obtain ⟨g, hg, hgl⟩ := List.mem_map.1 (h.ended_granted _ hl)
        exact hfresh g hg (Prod.mk.inj hgl).2
      | ended hof _ =>
        rw [(JobEvent.outcomeRow_released hof s.now j).2.1] at htoken
        cases htoken
      | cancelled hpending =>
        have hnone := h.free j hj (by simp [hpending])
        rw [show (cancelRow s.now j).leaseToken = j.leaseToken from rfl, hnone] at htoken
        cases htoken
      | reactivated _ => cases htoken
      | retried _ => cases htoken
    · cases htoken
  rcases jobStep_ended s e with heq | ⟨jobId, token', hof, -, heq⟩
  · rw [heq]
    exact hrow.1
  · rw [heq, List.mem_cons, not_or]
    exact ⟨fun hl => hrow.2 _ hof hl.symm, hrow.1⟩

/-- The lease that an outcome ends was granted, and no outcome has ended it before. -/
theorem JobsOk.ended_step (h : JobsOk s) :
    (jobStep s e).ended.Nodup ∧
      ∀ l ∈ (jobStep s e).ended, l ∈ (jobStep s e).granted.map ClaimedJob.lease := by
  have hold : ∀ l ∈ s.ended, l ∈ (jobStep s e).granted.map ClaimedJob.lease := by
    intro l hl
    obtain ⟨g, hg, rfl⟩ := List.mem_map.1 (h.ended_granted l hl)
    exact List.mem_map_of_mem (granted_step hg e)
  rcases jobStep_ended s e with heq | ⟨jobId, token, -, ⟨j, hj, hlease⟩, heq⟩
  · rw [heq]
    exact ⟨h.ended_nodup, hold⟩
  · obtain ⟨rfl, hbusy, htoken⟩ := processingLease_iff.1 hlease
    obtain ⟨-, g, hg, rfl, rfl⟩ := h.token hj htoken
    rw [heq]
    refine ⟨List.nodup_cons.2 ⟨h.unused g.job hj g.leaseToken htoken, h.ended_nodup⟩, fun l hl => ?_⟩
    rcases List.mem_cons.1 hl with rfl | hl
    · exact List.mem_map.2 ⟨g, granted_step hg e, rfl⟩
    · exact hold l hl

theorem JobsOk.step (hfresh : Fresh s e) (h : JobsOk s) : JobsOk (jobStep s e) where
  ids := jobStep_ids h.ids e
  free _ := h.free_step
  leased _ := h.leased_step
  snapshot _ := h.snapshot_step
  current _ := h.current_step
  granted_inj _ hg _ hg' := h.granted_inj_step hfresh hg hg'
  unused _ hj _ := h.unused_step hfresh hj
  ended_granted := h.ended_step.2
  ended_nodup := h.ended_step.1

end Step

/-! ## Attempts -/

/-- A job that can still run has an attempt left, and no job has used more than it has. -/
def AttemptsOk (j : Job) : Prop :=
  (j.jobStatus.terminal = false → j.attemptCount = 0 ∨ j.attemptCount < j.maxAttempts) ∧
    (0 < j.maxAttempts → j.attemptCount ≤ j.maxAttempts)

/-- The worker reschedules a job only if that leaves an attempt. -/
theorem AttemptsOk.outcome {g : ClaimedJob} (h : AttemptsOk g.job)
    (hbusy : g.job.jobStatus = .processing) (handled : Option HandlerError) (now : Int) :
    AttemptsOk ((handleClaimedJob g handled).outcomeRow now g.job) := by
  obtain ⟨hopen, hmax⟩ := h
  have hleft := hopen (by rw [hbusy]; rfl)
  rcases handled with _ | error
  · refine ⟨fun hterminal => ?_, hmax⟩
    cases hterminal
  simp only [handleClaimedJob]
  by_cases hpaused : (sanitizeBillingAutomationError error).code = .schedulePaused
  · rw [if_pos hpaused]
    exact ⟨fun _ => hleft, hmax⟩
  rw [if_neg hpaused]
  split
  · refine ⟨fun hterminal => ?_, fun hpos => ?_⟩
    · cases hterminal
    · simp only [JobEvent.outcomeRow, deadLetterRow] at hpos ⊢
      omega
  · rename_i hretry
    simp only [Bool.or_eq_true, decide_eq_true_eq, not_or, not_le] at hretry
    exact ⟨fun _ => .inr hretry.2, fun _ => hretry.2.le⟩

theorem AttemptsOk.step {s : JobTable} {e : JobEvent} (h : JobsOk s) (hworker : ByWorker s e)
    (hs : ∀ j ∈ s.jobs, AttemptsOk j) {j' : Job} (hj' : j' ∈ (jobStep s e).jobs) :
    AttemptsOk j' := by
  have hreset : ∀ j : Job, j.attemptCount = 0 → AttemptsOk j := by
    intro j hzero
    exact ⟨fun _ => .inl hzero, fun hpos => by omega⟩
  rcases jobStep_row hj' with ⟨j, hj, hmove⟩ | ⟨id, input, -, rfl, -⟩
  · cases hmove with
    | same _ => exact hs j' hj
    | leased hdue _ =>
      obtain ⟨hopen, hmax⟩ := hs j hj
      refine ⟨fun _ => hopen ?_, hmax⟩
      cases hstatus : j.jobStatus <;> first | rfl | simp [due, hstatus] at hdue
    | ended hof hlease =>
      obtain ⟨g, hg, handled, rfl⟩ := hworker (by rw [hof]; rfl)
      obtain ⟨hid, hbusy, htoken⟩ := processingLease_iff.1 hlease
      obtain ⟨-, g', hg', rfl, hgt⟩ := h.token hj htoken
      have hlease' : (handleClaimedJob g handled).outcome? = some g.lease := by
        rcases handled with _ | error
        · rfl
        simp only [handleClaimedJob]
        split
        · rfl
        split <;> rfl
      obtain ⟨hgid, hgtoken⟩ := Prod.mk.inj (Option.some.inj (hlease'.symm.trans hof))
      have hsame : g' = g := h.granted_inj g' hg' g hg
        (Prod.ext (hid.trans hgid.symm) (hgt.trans hgtoken.symm))
      rw [hsame]
      exact AttemptsOk.outcome (hsame ▸ hs g'.job hj) (hsame ▸ hbusy) handled s.now
    | cancelled hpending =>
      obtain ⟨hopen, hmax⟩ := hs j hj
      refine ⟨fun hterminal => ?_, hmax⟩
      cases hterminal
    | reactivated _ => exact hreset _ rfl
    | retried _ => exact hreset _ rfl
  · exact hreset _ rfl

/-! ## The job table over whole runs -/

/-- A completed, cancelled or dead job changes its status only by a retry or a reactivation. -/
theorem terminal_step {s : JobTable} {e : JobEvent} (h : (s.jobs.map (·.id)).Nodup) {j j' : Job}
    (hj : j ∈ s.jobs) (hj' : j' ∈ (jobStep s e).jobs) (hid : j'.id = j.id)
    (hterminal : j.jobStatus.terminal = true) (hchange : j'.jobStatus ≠ j.jobStatus) :
    (e = .retryDeadLetter j.id ∧ j.jobStatus = .deadLetter) ∨
      (∃ id key availableAt, e = .reactivateCancelled id key availableAt) ∧
        j.jobStatus = .cancelled := by
  obtain ⟨j₁, hj₁, hmove⟩ := jobStep_kept hj e
  have hsame : j₁ = j' :=
    List.inj_on_of_nodup_map (jobStep_ids h e) hj₁ hj' (hmove.id_eq.trans hid.symm)
  subst hsame
  cases hmove with
  | same _ => exact absurd rfl hchange
  | leased hdue _ =>
    exfalso
    cases hstatus : j.jobStatus <;> simp_all [due, JobStatus.terminal]
  | ended _ hlease => simp [(processingLease_iff.1 hlease).2.1, JobStatus.terminal] at hterminal
  | cancelled hpending => simp [hpending, JobStatus.terminal] at hterminal
  | reactivated hcancelled => exact .inr ⟨⟨_, _, _, rfl⟩, hcancelled⟩
  | retried hdead => exact .inl ⟨rfl, hdead⟩

/-- A report under a token that is not the row's own changes nothing. -/
theorem stale_outcome {s : JobTable} {e : JobEvent} {jobId : Id} {token : Token}
    (he : e.outcome? = some (jobId, token))
    (hstale : ∀ j ∈ s.jobs, j.id = jobId → j.leaseToken ≠ some token) : jobStep s e = s := by
  have hnone : ∀ j ∈ s.jobs, processingLease jobId token j = false := by
    intro j hj
    rw [Bool.eq_false_iff]
    intro hlease
    obtain ⟨hid, -, htoken⟩ := processingLease_iff.1 hlease
    exact hstale j hj hid htoken
  rw [jobStep_outcome s he, updateMany_none hnone]
  rfl

theorem jobRun_ok {now : Int} {evs : List JobEvent}
    (hfresh : Runs.Along jobStep Fresh (.init now) evs) : JobsOk (jobRun now evs) :=
  Runs.runs_invariant JobsOk (fun _ _ hgood hok => hok.step hgood) (.init now) hfresh

theorem jobRun_attempts {now : Int} {evs : List JobEvent}
    (hfresh : Runs.Along jobStep Fresh (.init now) evs)
    (hworker : Runs.Along jobStep ByWorker (.init now) evs) :
    ∀ j ∈ (jobRun now evs).jobs, AttemptsOk j := by
  have hinv : JobsOk (jobRun now evs) ∧ ∀ j ∈ (jobRun now evs).jobs, AttemptsOk j :=
    Runs.runs_invariant (fun s => JobsOk s ∧ ∀ j ∈ s.jobs, AttemptsOk j)
      (fun s e hgood hs => ⟨hs.1.step hgood.1, fun _ => AttemptsOk.step hs.1 hgood.2 hs.2⟩)
      ⟨.init now, by simp [JobTable.init]⟩ (hfresh.and hworker)
  exact hinv.2

/-- In every run in which claims use new tokens: a report under a token that is not its row's own
changes nothing, a lease is ended at most once and only if it was granted, and two live leases of a
job are the same lease. If all reports are those of workers, no job runs out of attempts before it
is dead. A job leaves a terminal status only by a retry or a reactivation. -/
theorem leases_fence_stale_workers (now : Int) (evs : List JobEvent)
    (hfresh : Runs.Along jobStep Fresh (.init now) evs) :
    (∀ e jobId token, e.outcome? = some (jobId, token) →
      (∀ j ∈ (jobRun now evs).jobs, j.id = jobId → j.leaseToken ≠ some token) →
        jobStep (jobRun now evs) e = jobRun now evs) ∧
    ((jobRun now evs).ended.Nodup ∧
      ∀ l ∈ (jobRun now evs).ended, l ∈ (jobRun now evs).granted.map ClaimedJob.lease) ∧
    (∀ g ∈ (jobRun now evs).granted, ∀ g' ∈ (jobRun now evs).granted, (jobRun now evs).live g →
      (jobRun now evs).live g' → g.job.id = g'.job.id → g = g') ∧
    (Runs.Along jobStep ByWorker (.init now) evs → ∀ j ∈ (jobRun now evs).jobs, AttemptsOk j) ∧
    (∀ e, ∀ j ∈ (jobRun now evs).jobs, ∀ j' ∈ (jobStep (jobRun now evs) e).jobs, j'.id = j.id →
      j.jobStatus.terminal = true → j'.jobStatus ≠ j.jobStatus →
        (e = .retryDeadLetter j.id ∧ j.jobStatus = .deadLetter) ∨
          (∃ id key availableAt, e = .reactivateCancelled id key availableAt) ∧
            j.jobStatus = .cancelled) := by
  have hok := jobRun_ok hfresh
  refine ⟨fun e jobId token => stale_outcome, ⟨hok.ended_nodup, hok.ended_granted⟩, ?_,
    jobRun_attempts hfresh, fun e j hj j' hj' => terminal_step hok.ids hj hj'⟩
  intro g hg g' hg' hlive hlive' hid
  have hrow : g.job = g'.job :=
    List.inj_on_of_nodup_map hok.ids (hok.current g hg hlive) (hok.current g' hg' hlive') hid
  have hlease := hok.snapshot g hg
  rw [hrow, hok.snapshot g' hg'] at hlease
  exact (Option.some.inj hlease).symm

/-- A job is claimed, its lease expires, and it is claimed again. -/
def expiredLeaseRun : List JobEvent :=
  [.enqueue 1 ⟨0, none, none, .other "notice", .sendBillDueNotice, none, none⟩,
    .claimDue 1 1000 [.sendBillDueNotice] [] 7, .tick 2000,
    .claimDue 1 1000 [.sendBillDueNotice] [] 8]

/-- The first worker comes back too late. -/
theorem leases_fence_stale_workers_expired :
    (jobRun 0 expiredLeaseRun).granted.map ClaimedJob.lease = [(1, 8), (1, 7)] ∧
      jobStep (jobRun 0 expiredLeaseRun) (.complete 1 7) = jobRun 0 expiredLeaseRun :=
  ⟨by decide, (leases_fence_stale_workers 0 expiredLeaseRun (by decide)).1 _ 1 7 rfl (by decide)⟩

end SubscriptionSaas.Billing
