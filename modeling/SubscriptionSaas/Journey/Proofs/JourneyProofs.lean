import SubscriptionSaas.Journey.Proofs.ServiceProofs

/-!
# The journey stays in agreement

One lemma says what a command does: it may create the row of the current step, it makes moves, and it
changes leases. Everything about the runs of a journey follows from it.

The agreement of the journey with its rows has two exceptions. A retry reopens the step of the exception
that occurred last, which need not be the current one; and a row that is dispatched when the journey has
been cancelled creates the row of the current step, which is pending. Every other run keeps it.
-/

namespace SubscriptionSaas.Journey

open Results Runs

variable {cause : Cause} {s s' : State}

/-! ## What a command does -/

/-- The states differ in jobs, exceptions, leases and the clock only. -/
structure SameTables (s s' : State) : Prop where
  application : s'.application = s.application
  journey : s'.journey = s.journey
  steps : s'.steps = s.steps
  events : s'.events = s.events
  tasks : s'.tasks = s.tasks
  outbox : ∃ f : OutboxRow → OutboxRow, s'.outbox = s.outbox.map f ∧
    ∀ row : OutboxRow, row.Same (f row)

theorem OutboxRow.Same.refl (row : OutboxRow) : row.Same row := ⟨rfl, rfl, rfl, rfl⟩

theorem SameTables.refl (s : State) : SameTables s s :=
  ⟨rfl, rfl, rfl, rfl, rfl, id, (List.map_id _).symm, fun row => .refl row⟩

theorem State.Ok.same (h : s.Ok) (hsame : SameTables s s') : s'.Ok := by
  obtain ⟨happlication, hjourney, hsteps, hevents, htasks, f, houtbox, hf⟩ := hsame
  have hcourse : s'.course = s.course := by rw [State.course, State.course, hjourney, hsteps]
  refine ⟨hsteps ▸ h.steps, hcourse ▸ h.course, ?_, ?_, ?_, fun hlive => ?_⟩
  · rw [hevents, hjourney]
    exact h.sequences
  · rw [hsteps, htasks]
    exact h.tasks
  · rw [hevents, houtbox]
    exact h.outbox.map hf
  · rw [hjourney] at hlive
    refine (h.keys hlive).congr (by rw [hjourney]) hevents (by rw [hjourney]; exact id) ?_ ?_ ?_
    · rw [htasks]
      exact fun task htask => ⟨task, htask, rfl⟩
    · rw [htasks]
      exact fun task htask htype => .inl ⟨task, htask, htype⟩
    · exact .inl (by rw [happlication])

/-- A row that is leased, or returned. -/
theorem leased_row {p : OutboxRow → Bool} {data : OutboxRow → OutboxRow}
    (hdata : ∀ row : OutboxRow, row.Same (data row)) (row : OutboxRow) :
    row.Same (if p row then data row else row) := by
  split
  · exact hdata row
  · exact .refl row

theorem claimOutbox_same (ids : List Id) (leaseMs : Int) (token : Token) (s : State) :
    SameTables s (claimOutbox ids leaseMs token s) := by
  unfold claimOutbox
  split
  · exact .refl s
  · exact ⟨rfl, rfl, rfl, rfl, rfl, _, rfl, leased_row fun _ => ⟨rfl, rfl, rfl, rfl⟩⟩

theorem claimJobs_same (ids : List Id) (leaseMs : Int) (token : Token) (s : State) :
    SameTables s (claimJobs ids leaseMs token s) := by
  unfold claimJobs
  split
  · exact .refl s
  · exact ⟨rfl, rfl, rfl, rfl, rfl, id, (List.map_id _).symm, fun row => .refl row⟩

/-- A returned row keeps its columns and is no longer processed. -/
structure Returned (data : OutboxRow → OutboxRow) : Prop where
  same : ∀ row : OutboxRow, row.Same (data row)
  status : ∀ row, (data row).status ≠ .processing

theorem completeOutbox_ok {claim : OutboxRow} (h : completeOutbox claim s = .ok s') :
    ∃ data, Returned data ∧ updateOutbox claim data s = .ok s' := by
  refine ⟨_, ?_, h⟩
  exact ⟨fun _ => ⟨rfl, rfl, rfl, rfl⟩, by simp⟩

theorem handleOutboxFailure_ok {claim : OutboxRow} {failure : JourneyFailure} {delayMs : Nat}
    (h : handleOutboxFailure claim failure delayMs s = .ok s') :
    ∃ data, Returned data ∧ updateOutbox claim data s = .ok s' := by
  unfold handleOutboxFailure at h
  split at h
  · refine ⟨_, ?_, h⟩
    exact ⟨fun _ => ⟨rfl, rfl, rfl, rfl⟩, by simp⟩
  · refine ⟨_, ?_, h⟩
    exact ⟨fun _ => ⟨rfl, rfl, rfl, rfl⟩, by simp⟩

theorem updateOutbox_same {claim : OutboxRow} {data : OutboxRow → OutboxRow}
    (hdata : Returned data) (h : updateOutbox claim data s = .ok s') : SameTables s s' := by
  obtain ⟨-, h⟩ := check_ok h
  obtain rfl := Except.ok.inj h
  exact ⟨rfl, rfl, rfl, rfl, rfl, _, rfl, leased_row hdata.same⟩

/-- What a command answers to. -/
def Command.origin : Command → Cause
  | .dispatchSignal claim => .row claim.payload
  | .decideDeliveryEvidence .. => .review
  | _ => .command

/-- The row that a command dispatches. -/
def Command.dispatched? : Command → Option OutboxRow
  | .dispatchSignal claim | .dispatchNotification claim => some claim
  | _ => none

theorem commit_eq (s : State) (operation : State → Result) :
    s.commit operation = s ∨ operation s = .ok (s.commit operation) := by
  unfold State.commit
  split
  · rename_i heq
    exact .inr heq
  · exact .inl rfl

/-- The outbox of a dispatch. -/
theorem dispatch_eq (handle : OutboxRow → State → Result) (claim : OutboxRow) (s : State) :
    (∃ s₁, handle claim s = .ok s₁ ∧ completeOutbox claim s₁ = .ok (dispatch handle claim s)) ∨
      ∃ failure, (handle claim s >>= completeOutbox claim) = .error failure ∧
        dispatch handle claim s = { s with failed := (claim, failure) :: s.failed } := by
  unfold dispatch
  split
  · rename_i s₂ heq
    obtain ⟨s₁, hhandle, hcomplete⟩ := bind_ok heq
    exact .inl ⟨s₁, hhandle, hcomplete⟩
  · rename_i failure heq
    exact .inr ⟨failure, heq, rfl⟩

theorem commit_moves {operation : State → Result}
    (h : ∀ s', operation s = .ok s' → Moves cause s s') : Moves cause s (s.commit operation) := by
  rcases commit_eq s operation with heq | hok
  · rw [heq]
    exact .refl s
  · exact h _ hok

theorem handle_moves {claim : Job} {jobType : JobType} {handler : Job → State → Result}
    (h : ∀ s', handler claim s = .ok s' → Moves cause s s') :
    Moves cause s (s.handle claim jobType handler) := by
  unfold State.handle
  split
  · exact commit_moves h
  · exact .refl s

/-- Moves lease no row of the outbox. -/
theorem Move.processing (h : Move cause s s') :
    ∀ row ∈ s'.outbox, row.status = .processing → row ∈ s.outbox := by
  intro row hrow hstatus
  have hwritten : ∀ (s : State) (key : OutboxKey) (eventType : EventType) (payload : Payload),
      row ∈ (s.writeOutbox key eventType payload).outbox → row ∈ s.outbox := by
    intro s key eventType payload hmem
    unfold State.writeOutbox at hmem
    split at hmem
    · exact hmem
    · rcases List.mem_append.1 hmem with hold | hnew
      · exact hold
      · rw [List.mem_singleton.1 hnew] at hstatus
        cases hstatus
  cases h with
  | quiet | touch | replan | attach | decide | openTask => exact hrow
  | notify | write =>
    have hold := hwritten _ _ _ _ hrow
    exact hold
  | cancel =>
    obtain ⟨row', hmem, rfl⟩ := List.mem_map.1 (hwritten _ _ _ _ hrow)
    split at hstatus
    · cases hstatus
    · rename_i hnot
      rw [if_neg hnot]
      exact hmem

theorem Moves.processing (h : Moves cause s s') :
    ∀ row ∈ s'.outbox, row.status = .processing → row ∈ s.outbox := by
  induction h with
  | refl => exact fun row hrow _ => hrow
  | tail _ hmove ih =>
    intro row hrow hstatus
    exact ih row (hmove.processing row hrow hstatus) hstatus

/-- Moves leave the clock alone, and the record of what workers have claimed and failed to dispatch. -/
structure SameRecord (s s' : State) : Prop where
  now : s'.now = s.now
  granted : s'.grantedOutbox = s.grantedOutbox
  failed : s'.failed = s.failed

theorem writeOutbox_record (s : State) (key : OutboxKey) (eventType : EventType) (payload : Payload) :
    SameRecord s (s.writeOutbox key eventType payload) := by
  unfold State.writeOutbox
  split <;> exact ⟨rfl, rfl, rfl⟩

theorem Move.record (h : Move cause s s') : SameRecord s s' := by
  cases h with
  | quiet | touch | replan | attach | decide | openTask => exact ⟨rfl, rfl, rfl⟩
  | notify | write | cancel =>
    obtain ⟨hnow, hgranted, hfailed⟩ := writeOutbox_record _ _ _ _
    exact ⟨hnow, hgranted, hfailed⟩

theorem Moves.record (h : Moves cause s s') : SameRecord s s' := by
  induction h with
  | refl => exact ⟨rfl, rfl, rfl⟩
  | tail _ hmove ih =>
    obtain ⟨hnow, hgranted, hfailed⟩ := hmove.record
    exact ⟨hnow.trans ih.now, hgranted.trans ih.granted, hfailed.trans ih.failed⟩

/-- The claim is one that a worker has been granted, and its row is still leased by it. -/
def OutboxRow.Held (claim : OutboxRow) (s : State) : Prop :=
  claim ∈ s.grantedOutbox ∧ ∃ row ∈ s.outbox, claim.leased s.now row

instance (claim : OutboxRow) : Decidable (claim.Held s) :=
  inferInstanceAs (Decidable (claim ∈ s.grantedOutbox ∧ ∃ row ∈ s.outbox, claim.leased s.now row))

/-- The exception that a retry picks belongs to the current step. -/
def State.RetryOnCourse (s : State) (expectedVersion : Nat) : Prop :=
  s.journey.version = expectedVersion → s.journey.status = .exception → s.RetriesCurrent

/-- A dispatch that succeeds has held its row all the time. -/
theorem completeOutbox_held {s₁ s₂ : State} {claim : OutboxRow}
    (hs₁ : s₁ = s ∨ (s.stepOf s.journey.currentStepCode = none ∧
      s₁ = s.touched s.journey.currentStepCode)) (hmoves : Moves cause s₁ s₂)
    (hcomplete : completeOutbox claim s₂ = .ok s') : ∃ row ∈ s.outbox, claim.leased s.now row := by
  have hsame : s₁.outbox = s.outbox ∧ s₁.now = s.now := by
    rcases hs₁ with rfl | ⟨-, rfl⟩ <;> exact ⟨rfl, rfl⟩
  obtain ⟨hleased, -⟩ := check_ok hcomplete
  obtain ⟨row, hrow, hlease⟩ := List.any_eq_true.1 hleased
  have hprocessing : row.status = .processing := by
    simp only [OutboxRow.leased, Bool.and_eq_true, beq_iff_eq] at hlease
    exact hlease.1.1.2
  rw [hmoves.record.now, hsame.2] at hlease
  exact ⟨row, hsame.1 ▸ hmoves.processing row hrow hprocessing, hlease⟩

theorem dispatch_moves (cause : Cause) {handle : OutboxRow → State → Result} {claim : OutboxRow}
    (hgranted : claim ∈ s.grantedOutbox)
    (hhandle : ∀ s', handle claim s = .ok s' →
      ∃ s₁, (s₁ = s ∨ (s.stepOf s.journey.currentStepCode = none ∧
        s₁ = s.touched s.journey.currentStepCode)) ∧ Moves cause s₁ s') :
    ∃ s₁ s₂, (s₁ = s ∨ (s.stepOf s.journey.currentStepCode = none ∧
        s₁ = s.touched s.journey.currentStepCode ∧ claim.Held s)) ∧
      Moves cause s₁ s₂ ∧ SameTables s₂ (dispatch handle claim s) := by
  rcases dispatch_eq handle claim s with ⟨s₂, hsucceeded, hcomplete⟩ | ⟨failure, -, hfailed⟩
  · obtain ⟨s₁, hs₁, hmoves⟩ := hhandle s₂ hsucceeded
    obtain ⟨data, hdata, hupdate⟩ := completeOutbox_ok hcomplete
    refine ⟨s₁, s₂, ?_, hmoves, updateOutbox_same hdata hupdate⟩
    rcases hs₁ with rfl | ⟨hnone, rfl⟩
    · exact .inl rfl
    · exact .inr ⟨hnone, rfl, hgranted, completeOutbox_held (.inr ⟨hnone, rfl⟩) hmoves hcomplete⟩
  · exact ⟨s, s, .inl rfl, .refl s, hfailed ▸ ⟨rfl, rfl, rfl, rfl, rfl, id, (List.map_id _).symm,
      fun row => .refl row⟩⟩

/-- A retry that is made reopens the current step. -/
def RetriesOnCourse (s : State) : Command → Prop
  | .retry expectedVersion _ => s.RetryOnCourse expectedVersion
  | _ => True

/-- The commands with which workers take and return rows and jobs, and the passing of time. -/
def Command.leases : Command → Bool
  | .claimOutbox .. | .dispatchSignal _ | .dispatchNotification _ | .failOutbox .. | .claimJobs ..
  | .tick _ => true
  | _ => false

/-- The other commands are moves. -/
theorem step_moves (hok : s.Ok) {e : Command} (hretries : RetriesOnCourse s e)
    (hleases : e.leases = false) : Moves e.origin s (step s e) := by
  cases e with
  | claimOutbox | dispatchSignal | dispatchNotification | failOutbox | claimJobs | tick => cases hleases
  | factsChanged => exact commit_moves fun _ h => recordJourneyApplicationFactsChanged_moves h
  | record signal =>
    dsimp only [step]
    split
    · exact .refl s
    · rename_i hreviewed
      exact commit_moves fun _ h => record_moves (by simpa using hreviewed) h
  | terminateApplication => exact commit_moves fun _ h => terminateApplication_moves hok h
  | validateApplication =>
    dsimp only [step]
    exact handle_moves fun _ h => validateApplicationJob_moves hok h
  | createOrderAndContract =>
    dsimp only [step]
    exact handle_moves fun _ h => createOrderAndContractJob_moves hok h
  | generateInitialBills =>
    dsimp only [step]
    exact handle_moves fun _ h => generateInitialBillsJob_moves hok h
  | evaluatePaymentSettlement =>
    dsimp only [step]
    exact handle_moves fun _ h => evaluatePaymentSettlementJob_moves hok h
  | activateSubscription =>
    dsimp only [step]
    exact handle_moves fun _ h => activateSubscriptionJob_moves hok h
  | startFadadaSigning =>
    dsimp only [step]
    exact handle_moves fun _ h => startFadadaSigningJob_moves h
  | completeJob =>
    dsimp only [step]
    exact handle_moves fun _ h => updateJob_moves h
  | rescheduleJob =>
    dsimp only [step]
    exact handle_moves fun _ h => updateJob_moves h
  | deadLetterJob =>
    dsimp only [step]
    exact handle_moves fun _ h => deadLetterJob_moves hok h
  | decideFinalPlan => exact commit_moves fun _ h => decideFinalPlan_moves hok h
  | allocateVehicle => exact commit_moves fun _ h => allocateVehicle_moves hok h
  | decideDeliveryEvidence => exact commit_moves fun _ h => decideDeliveryEvidence_moves hok h
  | activate result =>
    dsimp only [step]
    split
    · exact commit_moves fun _ h => activateFromAuthoritativeHandover_moves hok h
    · exact .refl s
  | recordException => exact commit_moves fun _ h => recordException_moves hok h
  | pause => exact commit_moves fun _ h => pauseJourney_moves h
  | resume => exact commit_moves fun _ h => resumeJourney_moves h
  | retry expectedVersion reason =>
    refine commit_moves fun s' h => ?_
    obtain ⟨_, hlock, hretried⟩ := bind_ok h
    obtain ⟨hstatus, -⟩ := guard_ok hretried
    have hcurrent : s.RetryOnCourse expectedVersion := hretries
    exact retryJourney_moves hok (hcurrent (lockAdminJourney_ok hlock) (by simpa using hstatus)) h
  | cancel => exact commit_moves fun _ h => cancelJourney_moves h

/-- A command makes sure that the current step has a row, if it dispatches; it makes its moves; and it
changes leases. -/
theorem step_cases (hok : s.Ok) {e : Command} (hretries : RetriesOnCourse s e) :
    ∃ s₁ s₂, (s₁ = s ∨ (s.stepOf s.journey.currentStepCode = none ∧
        s₁ = s.touched s.journey.currentStepCode ∧ ∃ claim ∈ e.dispatched?, claim.Held s)) ∧
      Moves e.origin s₁ s₂ ∧ SameTables s₂ (step s e) := by
  have hsame : SameTables s (step s e) → ∃ s₁ s₂, (s₁ = s ∨
      (s.stepOf s.journey.currentStepCode = none ∧ s₁ = s.touched s.journey.currentStepCode ∧
        ∃ claim ∈ e.dispatched?, claim.Held s)) ∧ Moves e.origin s₁ s₂ ∧ SameTables s₂ (step s e) :=
    fun h => ⟨s, s, .inl rfl, .refl s, h⟩
  by_cases hleases : e.leases = false
  · exact ⟨s, step s e, .inl rfl, step_moves hok hretries hleases, .refl _⟩
  · cases e with
    | claimOutbox ids leaseMs token => exact hsame (claimOutbox_same ids leaseMs token s)
    | dispatchSignal claim =>
      dsimp only [step]
      split
      · rename_i hclaim
        obtain ⟨s₁, s₂, hs₁, h⟩ := dispatch_moves (.row claim.payload) hclaim.1
          fun _ h => dispatchSignalOutbox_moves hok h
        exact ⟨s₁, s₂, hs₁.imp_right fun ⟨hnone, heq, hheld⟩ => ⟨hnone, heq, claim, rfl, hheld⟩, h⟩
      · exact ⟨s, s, .inl rfl, .refl s, .refl s⟩
    | dispatchNotification claim =>
      dsimp only [step]
      split
      · rename_i hclaim
        obtain ⟨s₁, s₂, hs₁, h⟩ := dispatch_moves .command hclaim.1
          fun _ h => dispatchNotificationOutbox_moves hok h
        exact ⟨s₁, s₂, hs₁.imp_right fun ⟨hnone, heq, hheld⟩ => ⟨hnone, heq, claim, rfl, hheld⟩, h⟩
      · exact ⟨s, s, .inl rfl, .refl s, .refl s⟩
    | failOutbox claim failure delayMs =>
      refine hsame ?_
      dsimp only [step]
      split
      · rcases commit_eq s (handleOutboxFailure claim (sanitizeJourneyFailure failure) delayMs)
          with heq | h
        · rw [heq]
          exact .refl s
        · obtain ⟨data, hdata, hupdate⟩ := handleOutboxFailure_ok h
          exact updateOutbox_same hdata hupdate
      · exact .refl s
    | claimJobs ids leaseMs token => exact hsame (claimJobs_same ids leaseMs token s)
    | tick => exact hsame ⟨rfl, rfl, rfl, rfl, rfl, id, (List.map_id _).symm, fun row => .refl row⟩
    | _ => exact absurd rfl hleases

/-! ## The course in a run -/

theorem writeOutbox_course (s : State) (key : OutboxKey) (eventType : EventType) (payload : Payload) :
    (s.writeOutbox key eventType payload).course = s.course := by
  unfold State.writeOutbox
  split <;> rfl

/-- A move lets the course make one of its own, or creates a row that is not the current one's when the
journey has been cancelled. -/
theorem Move.course (hmove : Move cause s s') :
    s.course.Step s'.course ∨ ∃ code, s.course.rows code = none ∧
      (s.course.status = .cancelled → code ≠ s.course.code) ∧
        s'.course = { s.course with rows := Function.update s.course.rows code (some .pending) } := by
  cases hmove with
  | quiet | replan | attach | decide | openTask => exact .inl .observe
  | notify source =>
    left
    unfold enqueueNotificationOutbox
    rw [writeOutbox_course]
    exact .observe
  | touch code hnone hcancelled =>
    refine .inr ⟨code, ?_, hcancelled, ?_⟩
    · show (s.steps.find? (·.code == code)).map (·.status) = none
      rw [show s.steps.find? (·.code == code) = none from hnone]
      rfl
    · show courseOf s.journey _ = _
      rw [courseOf, rowsOf_append hnone]
      rfl
  | write journey steps event hversion horder hsteps hcourse =>
    left
    rw [writeOutbox_course]
    exact hcourse
  | cancel journey steps jobs event hversion horder hsteps hlive hcourse =>
    left
    rw [writeOutbox_course]
    show s.course.Step (courseOf journey steps)
    rw [hcourse]
    exact .cancel hlive

theorem Course.Agrees.touch {c : Course} (h : c.Ok) (hagrees : c.Agrees) {code : StepCode}
    (hnone : c.rows code = none) (hcancelled : c.status = .cancelled → code ≠ c.code) :
    Course.Agrees { c with rows := Function.update c.rows code (some .pending) } := by
  by_cases hstatus : c.status = .cancelled
  · intro status hrow
    dsimp only at hrow
    rw [Function.update_of_ne (hcancelled hstatus).symm] at hrow
    exact hagrees status hrow
  · exact (h.touch hnone).agrees hstatus

theorem Move.agrees (hok : s.Ok) (hagrees : s.course.Agrees) (hmove : Move cause s s') :
    s'.course.Agrees := by
  rcases hmove.course with hstep | ⟨code, hnone, hcancelled, heq⟩
  · exact hstep.agrees hok.course hagrees
  · rw [heq]
    exact hagrees.touch hok.course hnone hcancelled

theorem Moves.agrees (hok : s.Ok) (hagrees : s.course.Agrees) (hmoves : Moves cause s s') :
    s'.course.Agrees := by
  induction hmoves with
  | refl => exact hagrees
  | tail hbefore hmove ih => exact hmove.agrees (hok.moves hbefore) ih

/-- The end of a journey is final. -/
theorem Moves.terminal (hterminal : s.journey.status.terminal = true) (hmoves : Moves cause s s') :
    s'.journey.status = s.journey.status := by
  induction hmoves with
  | refl => rfl
  | tail _ hmove ih =>
    rw [← ih] at hterminal ⊢
    rcases hmove.course with hstep | ⟨code, -, -, heq⟩
    · exact congrArg Course.status (hstep.terminal hterminal)
    · exact congrArg Course.status heq

/-! ## Every run -/

theorem State.Ok.created (applicationId : Id) (application : Application) (now : Int) :
    (State.create applicationId application now).Ok := by
  refine ⟨⟨rfl, List.nodup_singleton _⟩, ?_, rfl, ⟨rfl, List.nodup_nil, nofun⟩, ?_, fun _ => ?_⟩
  · refine ⟨?_, fun _ => nofun, ?_, fun _ => rfl, nofun, fun _ => ?_, nofun⟩
    · intro _ status hrow
      exact (Option.some.inj hrow).symm
    · intro _ code status hlt hrow
      have hlater : StepCode.applicationValidation.index < code.index := hlt
      cases code <;> first | exact absurd hlater (by decide) | cases hrow
    · exact ⟨nofun, nofun⟩
  · refine ⟨rfl, List.nodup_singleton _, ?_, ?_⟩
    · intro event hevent
      obtain rfl := List.mem_singleton.1 hevent
      exact ⟨_, List.mem_singleton_self _, rfl, rfl, rfl⟩
    · intro row hrow key hkey
      obtain rfl := List.mem_singleton.1 hrow
      exact ⟨_, List.mem_singleton_self _, OutboxKey.event.inj hkey, rfl, rfl⟩
  · have hevents : ∀ event ∈ (State.create applicationId application now).events,
        event.key = .submitted := by
      intro event hevent
      rw [List.mem_singleton.1 hevent]
    refine ⟨?_, ?_, ?_, ?_, ?_, nofun, ?_, ?_⟩
    · intro event hevent revision hashKey hkey
      cases (hevents event hevent).symm.trans hkey
    · intro event hevent contractId hkey
      cases (hevents event hevent).symm.trans hkey
    · intro _ event hevent hready
      rw [hevents event hevent] at hready
      cases hready
    · exact fun _ => List.pairwise_singleton _ _
    · intro event hevent code hkey
      cases (hevents event hevent).symm.trans hkey
    · intro _ event hevent workOrderId hashKey decision hkey
      cases (hevents event hevent).symm.trans hkey
    · intro hlt
      have hfirst : _ < StepCode.applicationValidation.index := hlt
      exact absurd hfirst (by decide)

theorem State.Ok.step (hok : s.Ok) {e : Command} (hretries : RetriesOnCourse s e) :
    (step s e).Ok := by
  obtain ⟨s₁, s₂, hs₁, hmoves, hsame⟩ := step_cases hok hretries
  have hok₁ : s₁.Ok := by
    rcases hs₁ with rfl | ⟨hnone, rfl, -⟩
    · exact hok
    · exact hok.touch hnone
  exact (hok₁.moves hmoves).same hsame

/-- And a cancelled journey whose current step has no row dispatches nothing. -/
def OnCourse (s : State) (e : Command) : Prop :=
  RetriesOnCourse s e ∧ ∀ claim ∈ e.dispatched?, claim.Held s → s.journey.status = .cancelled →
    s.stepOf s.journey.currentStepCode ≠ none

/-- The journey, its steps and its event log agree. -/
structure State.InAgreement (s : State) : Prop where
  sequences : s.events.map (·.sequence) = List.range (s.journey.version + 1)
  current : ∀ step ∈ s.steps, step.code = s.journey.currentStepCode →
    step.status = s.journey.currentStepStatus
  tasks : ∀ taskType, (s.tasks.filter fun task =>
    task.status == .open && task.taskType == taskType).length ≤ 1

theorem filter_length_le_one {tasks : List ManualTask}
    (h : ((tasks.filter (·.status == .open)).map (·.taskType)).Nodup) (taskType : TaskType) :
    (tasks.filter fun task => task.status == .open && task.taskType == taskType).length ≤ 1 := by
  have hcount := List.nodup_iff_count_le_one.1 h taskType
  rw [List.count, List.countP_map, List.countP_eq_length_filter, List.filter_filter] at hcount
  refine Nat.le_trans (Nat.le_of_eq (congrArg List.length ?_)) hcount
  refine List.filter_congr fun task _ => ?_
  rw [Bool.and_comm]
  rfl

theorem State.Ok.inAgreement (hok : s.Ok) (hagrees : s.course.Agrees) : s.InAgreement := by
  refine ⟨hok.sequences, ?_, filter_length_le_one hok.tasks.types⟩
  intro step hstep hcode
  refine hagrees step.status ?_
  show (s.steps.find? (·.code == s.journey.currentStepCode)).map (·.status) = some step.status
  rw [← hcode, hok.steps.find_code hstep]
  rfl

theorem OnCourse.step (hok : s.Ok) (hagrees : s.course.Agrees) {e : Command} (h : OnCourse s e) :
    (step s e).Ok ∧ (step s e).course.Agrees := by
  refine ⟨hok.step h.1, ?_⟩
  obtain ⟨s₁, s₂, hs₁, hmoves, hsame⟩ := step_cases hok h.1
  have hcourse : (Journey.step s e).course = s₂.course := by
    rw [State.course, State.course, hsame.journey, hsame.steps]
  rw [hcourse]
  rcases hs₁ with rfl | ⟨hnone, rfl, claim, hclaim, hheld⟩
  · exact hmoves.agrees hok hagrees
  · have hok₁ := hok.touch hnone
    refine hmoves.agrees hok₁ (hok₁.course.agrees fun hcancelled => ?_)
    exact h.2 claim hclaim hheld hcancelled hnone

theorem step_terminal (hok : s.Ok) {e : Command} (h : RetriesOnCourse s e)
    (hterminal : s.journey.status.terminal = true) :
    (step s e).journey.status = s.journey.status := by
  obtain ⟨s₁, s₂, hs₁, hmoves, hsame⟩ := step_cases hok h
  have hjourney : s₁.journey = s.journey := by
    rcases hs₁ with rfl | ⟨-, rfl, -⟩ <;> rfl
  rw [← hjourney] at hterminal ⊢
  rw [hsame.journey]
  exact hmoves.terminal hterminal

section Runs

variable (applicationId : Id) (application : Application) (now : Int)

theorem journey_ok {evs : List Command}
    (h : Along step RetriesOnCourse (.create applicationId application now) evs) :
    (journeyRun applicationId application now evs).Ok :=
  runs_invariant State.Ok (fun _ _ hretries hok => hok.step hretries)
    (.created applicationId application now) h

theorem runs_terminal {evs : List Command} (hok : s.Ok) (h : Along step RetriesOnCourse s evs)
    (hterminal : s.journey.status.terminal = true) :
    (runs step s evs).journey.status = s.journey.status := by
  have hinvariant := runs_invariant
    (fun s' : State => s'.Ok ∧ s'.journey.status = s.journey.status)
    (fun s' e hretries hs' => ⟨hs'.1.step hretries,
      (step_terminal hs'.1 hretries (by rw [hs'.2, hterminal])).trans hs'.2⟩) ⟨hok, rfl⟩ h
  exact hinvariant.2

/-- The journey, its steps and its event log agree after every run on course, and a journey that has come
to its end stays there. -/
theorem journey_in_agreement {evs : List Command}
    (h : Along step OnCourse (.create applicationId application now) evs) :
    (journeyRun applicationId application now evs).InAgreement ∧
      ∀ before after, evs = before ++ after →
        (journeyRun applicationId application now before).journey.status.terminal = true →
        (journeyRun applicationId application now evs).journey.status =
          (journeyRun applicationId application now before).journey.status := by
  have hcreated : (State.create applicationId application now).Ok :=
    .created applicationId application now
  refine ⟨?_, ?_⟩
  · obtain ⟨hok, hagrees⟩ := runs_invariant (fun s : State => s.Ok ∧ s.course.Agrees)
      (fun _ _ honCourse hs => honCourse.step hs.1 hs.2)
      ⟨hcreated, hcreated.course.agrees nofun⟩ h
    exact hok.inAgreement hagrees
  · rintro before after rfl hterminal
    rw [journeyRun, runs_append]
    have hretries : Along step RetriesOnCourse (.create applicationId application now)
        (before ++ after) := h.mono fun _ _ honCourse => honCourse.1
    obtain ⟨hbefore, hafter⟩ := Along.append.1 hretries
    exact runs_terminal (journey_ok applicationId application now hbefore) hafter hterminal

end Runs

/-- A journey that is paused, resumed and cancelled. -/
def pausedJourney : List Command :=
  [.pause 0 "check", .resume 1 "checked", .cancel 2 "withdrawn"]

theorem pausedJourney_in_agreement :
    (journeyRun 1 ⟨0, none, 0⟩ 0 pausedJourney).InAgreement ∧
      ∀ before after, pausedJourney = before ++ after →
        (journeyRun 1 ⟨0, none, 0⟩ 0 before).journey.status.terminal = true →
        (journeyRun 1 ⟨0, none, 0⟩ 0 pausedJourney).journey.status =
          (journeyRun 1 ⟨0, none, 0⟩ 0 before).journey.status := by
  refine journey_in_agreement 1 ⟨0, none, 0⟩ 0 (Along.of_forall fun e he s => ?_)
  simp only [pausedJourney, List.mem_cons, List.not_mem_nil, or_false] at he
  rcases he with rfl | rfl | rfl
  all_goals
    refine ⟨trivial, ?_⟩
    intro claim hclaim
    cases hclaim

def planHash : Hash := "sha256:".toList ++ List.replicate 64 'a'

/-- The application is validated and the plan published, so that the customer has to confirm it. -/
def planPublished : List Command :=
  [.claimOutbox [0] 1000 1,
    .dispatchSignal ⟨0, .event .submitted, .journeyStarted, .started 1, .processing, 0, 0, some 1,
      some 1000⟩,
    .claimJobs [0] 1000 2,
    .validateApplication ⟨0, 0, .validateApplication, .processing,
      .step .applicationValidation 0 none, .step 1 0 none .applicationValidation, 0, 5, 0, some 2,
      some 1000⟩ .ready [],
    .claimOutbox [2] 1000 3,
    .dispatchSignal ⟨2, .event .validationCompleted, .stepCompleted,
      .transition .completeStep 0 (.validated 1 0), .processing, 0, 0, some 3, some 1000⟩,
    .decideFinalPlan 2 planHash 7]

/-- The administrator cancels a journey that has come to the creation of the order, and the worker
dispatches the row of the cancellation. -/
def dispatchedCancellation : List Command :=
  planPublished ++
    [.record (.customerPlanConfirmed 1 planHash),
      .claimOutbox [7] 1000 4,
      .dispatchSignal ⟨7, .event (.planConfirmed 1 (hashKey planHash)), .domainFactObserved,
        .signal (.customerPlanConfirmed 1 planHash) 5, .processing, 0, 0, some 4, some 1000⟩,
      .cancel 6 "withdrawn",
      .claimOutbox [10] 1000 5,
      .dispatchSignal ⟨10, .event (.admin .cancel 7), .journeyCancelled,
        .admin .cancel "withdrawn" .orderAndContractCreation, .processing, 0, 0, some 5, some 1000⟩]

/-- The row of the order's step is pending in a journey that has cancelled the step. -/
theorem dispatchedCancellation_disagrees :
    ¬(journeyRun 1 ⟨0, none, 0⟩ 0 dispatchedCancellation).InAgreement := by
  have hrow : (⟨4, .orderAndContractCreation, .pending⟩ : Step) ∈
      (journeyRun 1 ⟨0, none, 0⟩ 0 dispatchedCancellation).steps := by decide +kernel
  have hcode : StepCode.orderAndContractCreation =
      (journeyRun 1 ⟨0, none, 0⟩ 0 dispatchedCancellation).journey.currentStepCode := by
    decide +kernel
  have hstatus : (journeyRun 1 ⟨0, none, 0⟩ 0 dispatchedCancellation).journey.currentStepStatus =
      .cancelled := by decide +kernel
  generalize journeyRun 1 ⟨0, none, 0⟩ 0 dispatchedCancellation = s at hrow hcode hstatus ⊢
  intro h
  have hcurrent := h.current _ hrow hcode
  rw [hstatus] at hcurrent
  cases hcurrent

end SubscriptionSaas.Journey
