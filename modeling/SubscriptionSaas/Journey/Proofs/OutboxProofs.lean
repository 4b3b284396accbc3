import SubscriptionSaas.Journey.Proofs.JourneyProofs

/-!
# Events and rows in a run

What a move writes, which rows it leaves alone, and when a completion and the delivery of its row
succeed. The claims of the workers name rows of the outbox at all times.
-/

namespace SubscriptionSaas.Journey

open Results Runs

variable {cause : Cause} {s s' : State}

/-! ## What moves write -/

/-- A move writes no event and leaves the journey where it is, or it writes one. -/
theorem Move.written (hmove : Move cause s s') :
    (s'.events = s.events ∧ s'.journey.status = s.journey.status ∧
      s'.journey.currentStepCode = s.journey.currentStepCode ∧
        s'.journey.version = s.journey.version) ∨
      ∃ event, s'.events = s.events ++ [event] ∧ s.course.Step s'.course ∧
        Written cause s event s'.course ∧ s'.journey.version = s.journey.version + 1 := by
  have hsame : ∀ (s : State) (key : OutboxKey) (eventType : EventType) (payload : Payload),
      (s.writeOutbox key eventType payload).events = s.events ∧
        (s.writeOutbox key eventType payload).journey = s.journey := by
    intro s key eventType payload
    unfold State.writeOutbox
    split <;> exact ⟨rfl, rfl⟩
  cases hmove with
  | quiet | touch | replan | attach | decide | openTask => exact .inl ⟨rfl, rfl, rfl, rfl⟩
  | notify source =>
    left
    unfold enqueueNotificationOutbox
    obtain ⟨hevents, hjourney⟩ := hsame s (.notification source.id) source.eventType
      (.notification source.key source.eventType source.id)
    rw [hevents, hjourney]
    exact ⟨rfl, rfl, rfl, rfl⟩
  | write journey steps event hversion horder hsteps hcourse hevent =>
    refine .inr ⟨event, (hsame _ _ _ _).1, ?_, ?_, ?_⟩
    · rw [writeOutbox_course]
      exact hcourse
    · rw [writeOutbox_course]
      exact hevent
    · rw [(hsame _ _ _ _).2]
      exact hversion
  | cancel journey steps jobs event hversion horder hsteps hlive hcourse hevent =>
    refine .inr ⟨event, (hsame _ _ _ _).1, ?_, ?_, ?_⟩
    · rw [writeOutbox_course]
      show s.course.Step (courseOf journey steps)
      rw [hcourse]
      exact .cancel hlive
    · rw [writeOutbox_course]
      exact hevent
    · rw [(hsame _ _ _ _).2]
      exact hversion

theorem Moves.events (hmoves : Moves cause s s') : ∃ new, s'.events = s.events ++ new := by
  induction hmoves with
  | refl => exact ⟨[], (List.append_nil _).symm⟩
  | tail _ hmove ih =>
    obtain ⟨new, heq⟩ := ih
    rcases hmove.written with ⟨hevents, -⟩ | ⟨event, hevents, -⟩
    · exact ⟨new, hevents.trans heq⟩
    · exact ⟨new ++ [event], by rw [hevents, heq, List.append_assoc]⟩

/-- Rows are added to the outbox; those that are there stay as they are, unless the journey is
cancelled. -/
theorem Move.outbox (hmove : Move cause s s') :
    ∃ f new, s'.outbox = s.outbox.map f ++ new ∧ (∀ row : OutboxRow, row.Same (f row)) ∧
      (s'.journey.status = .cancelled ∨ f = id) := by
  have hadded : ∀ (s : State) (key : OutboxKey) (eventType : EventType) (payload : Payload),
      ∃ new, (s.writeOutbox key eventType payload).outbox = s.outbox ++ new := by
    intro s key eventType payload
    unfold State.writeOutbox
    split
    · exact ⟨[], (List.append_nil _).symm⟩
    · exact ⟨_, rfl⟩
  have hsame : ∀ new, s'.outbox = s.outbox ++ new → ∃ f new, s'.outbox = s.outbox.map f ++ new ∧
      (∀ row : OutboxRow, row.Same (f row)) ∧ (s'.journey.status = .cancelled ∨ f = id) :=
    fun new h => ⟨id, new, by rw [List.map_id, h], fun row => .refl row, .inr rfl⟩
  cases hmove with
  | quiet | touch | replan | attach | decide | openTask => exact hsame [] (List.append_nil _).symm
  | notify source =>
    obtain ⟨new, heq⟩ := hadded s (.notification source.id) source.eventType
      (.notification source.key source.eventType source.id)
    exact hsame new heq
  | write journey steps event =>
    let t : State := { s with journey := journey, steps := steps, events := s.events ++ [event] }
    obtain ⟨new, heq⟩ := hadded t (.event event.key) event.eventType event.payload
    exact hsame new heq
  | cancel journey steps jobs event hversion horder hsteps hlive hcourse =>
    let t : State :=
      { s with
        journey := journey
        steps := steps
        jobs := jobs
        tasks := cancelTasks s.tasks
        outbox := cancelOutbox s.outbox
        events := s.events ++ [event] }
    obtain ⟨new, heq⟩ := hadded t (.event event.key) event.eventType event.payload
    refine ⟨_, new, heq, fun row => ?_, .inl ?_⟩
    · split
      · exact ⟨rfl, rfl, rfl, rfl⟩
      · exact .refl row
    · have hcancelled : journey.status = .cancelled := congrArg Course.status hcourse
      unfold State.writeOutbox
      split <;> exact hcancelled

theorem OutboxRow.Same.trans {row row' row'' : OutboxRow} (h : row.Same row') (h' : row'.Same row'') :
    row.Same row'' :=
  ⟨h'.id.trans h.id, h'.key.trans h.key, h'.eventType.trans h.eventType, h'.payload.trans h.payload⟩

theorem Moves.same_rows (hmoves : Moves cause s s') :
    ∀ row ∈ s.outbox, ∃ row' ∈ s'.outbox, row.Same row' := by
  induction hmoves with
  | refl => exact fun row hrow => ⟨row, hrow, .refl row⟩
  | tail _ hmove ih =>
    intro row hrow
    obtain ⟨row', hrow', hsame⟩ := ih row hrow
    obtain ⟨f, new, houtbox, hf, -⟩ := hmove.outbox
    refine ⟨f row', ?_, hsame.trans (hf row')⟩
    rw [houtbox]
    exact List.mem_append_left _ (List.mem_map_of_mem hrow')

/-- Only a cancellation changes a row. -/
theorem Moves.rows (hmoves : Moves cause s s') (hnot : s'.journey.status ≠ .cancelled) :
    ∀ row ∈ s.outbox, row ∈ s'.outbox := by
  induction hmoves with
  | refl => exact fun _ hrow => hrow
  | @tail s₁ s₂ hbefore hmove ih =>
    have hbeforeNot : s₁.journey.status ≠ .cancelled := by
      intro hcancelled
      have hterminal := hmove.moves.terminal (by rw [hcancelled]; rfl)
      exact hnot (hterminal.trans hcancelled)
    intro row hrow
    obtain ⟨f, new, houtbox, -, hcancelled | rfl⟩ := hmove.outbox
    · exact absurd hcancelled hnot
    · rw [houtbox, List.map_id]
      exact List.mem_append_left _ (ih hbeforeNot row hrow)

/-! ## Claims -/

/-- What a worker has claimed is a row of the outbox, and it has claimed what it has failed to
dispatch. -/
structure GrantsOk (s : State) : Prop where
  rows : ∀ claim ∈ s.grantedOutbox, ∃ row ∈ s.outbox, row.Same claim
  failed : ∀ claim failure, (claim, failure) ∈ s.failed → claim ∈ s.grantedOutbox

theorem OutboxRow.Same.symm {row row' : OutboxRow} (h : row.Same row') : row'.Same row :=
  ⟨h.id.symm, h.key.symm, h.eventType.symm, h.payload.symm⟩

theorem GrantsOk.moves (h : GrantsOk s) (hmoves : Moves cause s s') : GrantsOk s' := by
  obtain ⟨-, hgranted, hfailed⟩ := hmoves.record
  refine ⟨?_, ?_⟩
  · intro claim hclaim
    obtain ⟨row, hrow, hsame⟩ := h.rows claim (hgranted ▸ hclaim)
    obtain ⟨row', hrow', hsame'⟩ := hmoves.same_rows row hrow
    exact ⟨row', hrow', hsame'.symm.trans hsame⟩
  · rw [hgranted, hfailed]
    exact h.failed

/-- An update of a claimed row. -/
theorem GrantsOk.updateOutbox {claim : OutboxRow} {data : OutboxRow → OutboxRow} (h : GrantsOk s)
    (hdata : Returned data) (hupdate : updateOutbox claim data s = .ok s') : GrantsOk s' := by
  obtain ⟨-, hupdate⟩ := check_ok hupdate
  obtain rfl := Except.ok.inj hupdate
  refine ⟨fun claim' hclaim => ?_, h.failed⟩
  obtain ⟨row, hrow, hsame⟩ := h.rows claim' hclaim
  exact ⟨_, List.mem_map_of_mem hrow, (leased_row hdata.same row).symm.trans hsame⟩

theorem GrantsOk.claimOutbox (h : GrantsOk s) (ids : List Id) (leaseMs : Int) (token : Token) :
    GrantsOk (claimOutbox ids leaseMs token s) := by
  unfold Journey.claimOutbox
  split
  · exact h
  · refine ⟨fun claim hclaim => ?_, fun claim failure hfailed => ?_⟩
    · rcases List.mem_append.1 hclaim with hnew | hold
      · obtain ⟨row, hrow, rfl⟩ := List.mem_map.1 hnew
        refine ⟨_, List.mem_map_of_mem (List.mem_filter.1 hrow).1, ?_⟩
        rw [if_pos (List.mem_filter.1 hrow).2]
        exact .refl _
      · obtain ⟨row, hrow, hsame⟩ := h.rows claim hold
        refine ⟨_, List.mem_map_of_mem hrow, OutboxRow.Same.trans (.symm ?_) hsame⟩
        dsimp only
        split
        · exact ⟨rfl, rfl, rfl, rfl⟩
        · exact .refl row
    · exact List.mem_append_right _ (h.failed claim failure hfailed)

/-- A dispatch either delivers the row of its claim, after what the handler does, or fails. -/
theorem GrantsOk.dispatch {handle : OutboxRow → State → Result} {claim : OutboxRow} (h : GrantsOk s)
    (hclaim : claim ∈ s.grantedOutbox)
    (hhandle : ∀ s', handle claim s = .ok s' →
      ∃ s₁, (s₁ = s ∨ (s.stepOf s.journey.currentStepCode = none ∧
        s₁ = s.touched s.journey.currentStepCode)) ∧ Moves cause s₁ s') :
    GrantsOk (dispatch handle claim s) := by
  rcases dispatch_eq handle claim s with ⟨s₂, hsucceeded, hcomplete⟩ | ⟨failure, -, hfailed⟩
  · obtain ⟨s₁, hs₁, hmoves⟩ := hhandle s₂ hsucceeded
    have h₁ : GrantsOk s₁ := by
      rcases hs₁ with rfl | ⟨-, rfl⟩
      · exact h
      · exact ⟨h.rows, h.failed⟩
    obtain ⟨data, hdata, hupdate⟩ := completeOutbox_ok hcomplete
    exact (h₁.moves hmoves).updateOutbox hdata hupdate
  · rw [hfailed]
    refine ⟨h.rows, ?_⟩
    intro claim' failure' hmem
    rcases List.mem_cons.1 hmem with heq | hmem
    · obtain ⟨rfl, -⟩ := Prod.mk.inj heq
      exact hclaim
    · exact h.failed claim' failure' hmem

theorem GrantsOk.step (h : GrantsOk s) (hok : s.Ok) {e : Command} (hretries : RetriesOnCourse s e) :
    GrantsOk (step s e) := by
  by_cases hleases : e.leases = false
  · exact h.moves (step_moves hok hretries hleases)
  · cases e with
    | claimOutbox ids leaseMs token => exact h.claimOutbox ids leaseMs token
    | dispatchSignal claim =>
      dsimp only [Journey.step]
      split
      · rename_i hclaim
        exact h.dispatch hclaim.1 fun _ h => dispatchSignalOutbox_moves hok h
      · exact h
    | dispatchNotification claim =>
      dsimp only [Journey.step]
      split
      · rename_i hclaim
        exact h.dispatch hclaim.1 fun _ h => dispatchNotificationOutbox_moves hok h
      · exact h
    | failOutbox claim failure delayMs =>
      dsimp only [Journey.step]
      split
      · rcases commit_eq s (handleOutboxFailure claim (sanitizeJourneyFailure failure) delayMs)
          with heq | hfailure
        · rw [heq]
          exact h
        · obtain ⟨data, hdata, hupdate⟩ := handleOutboxFailure_ok hfailure
          exact h.updateOutbox hdata hupdate
      · exact h
    | claimJobs ids leaseMs token =>
      dsimp only [Journey.step]
      unfold claimJobs
      split
      · exact h
      · exact ⟨h.rows, h.failed⟩
    | tick => exact ⟨h.rows, h.failed⟩
    | _ => exact absurd rfl hleases

/-! ## Operations that succeed -/

/-- A journey that is neither halted nor over can move. -/
theorem State.Ok.canMove (hok : s.Ok) (hlive : s.journey.status.terminal = false)
    (hpaused : s.journey.status ≠ .paused) (hexception : s.journey.status ≠ .exception)
    {step : Step} (hstep : step ∈ s.steps) (hcode : s.journey.currentStepCode = step.code) :
    Current s step := by
  have hrow : s.course.rows s.course.code = some step.status := by
    show rowsOf s.steps s.journey.currentStepCode = some step.status
    rw [rowsOf, hcode, hok.steps.find_code hstep]
    rfl
  have hnotCancelled : s.course.status ≠ .cancelled := by
    intro hcancelled
    rw [show s.journey.status = _ from hcancelled] at hlive
    cases hlive
  have hstatus : step.status = s.journey.currentStepStatus :=
    hok.course.agrees hnotCancelled step.status hrow
  have hrunning : s.course.running = s.journey.status := if_neg hpaused
  have hfailed : s.journey.currentStepStatus ≠ .exception := by
    intro hfailed
    exact hexception (hrunning.symm.trans ((hok.course.failed hlive).2 hfailed))
  have hended : s.journey.currentStepStatus.ended = false := hok.course.live hlive
  have hcurrentRow : s.course.rows s.course.code = some s.journey.currentStepStatus := by
    rw [hrow, hstatus]
  refine ⟨hstep, hcode, hlive, hpaused, ?_, hcurrentRow⟩
  show s.journey.currentStepStatus.open = true
  cases hcurrent : s.journey.currentStepStatus with
  | pending | running | waitingCustomer | waitingManual | retryScheduled => rfl
  | exception => exact absurd hcurrent hfailed
  | completed | skipped | cancelled =>
    rw [hcurrent] at hended
    cases hended

theorem Current.status {step : Step} (h : Current s step) (hs : StepsOk s.steps) :
    s.journey.currentStepStatus = step.status := by
  have hrow : rowsOf s.steps s.journey.currentStepCode = some s.journey.currentStepStatus := h.move.row
  rw [rowsOf, h.code, hs.find_code h.mem] at hrow
  exact (Option.some.inj hrow).symm

theorem lockJourneyStep_succeeds (hs : StepsOk s.steps) {step : Step} (hstep : step ∈ s.steps) :
    lockJourneyStep step.id s = .ok step := by
  have hfound : s.step? step.id = some step := hs.find_id hstep
  unfold lockJourneyStep
  rw [hfound]

theorem validateCurrentStep_succeeds (hs : StepsOk s.steps) {step : Step} (h : Current s step) :
    validateCurrentStep step s.journey.version s = .ok () := by
  have hlive : s.journey.status.terminal = false := h.move.live
  have hpaused : s.journey.status ≠ .paused := h.move.notPaused
  have hopen : s.journey.currentStepStatus.open = true := h.move.isOpen
  have hcan : canTransition s.journey step = true := by
    unfold canTransition
    rw [← h.status hs]
    simp [hlive, hpaused, hopen, h.code]
  unfold validateCurrentStep
  rw [if_neg (by simp), if_pos hcan]

theorem State.Ok.sequence_le (hok : s.Ok) {event : JourneyEvent} (hevent : event ∈ s.events) :
    event.sequence ≤ s.journey.version := by
  have hmem : event.sequence ∈ List.range (s.journey.version + 1) :=
    hok.sequences ▸ List.mem_map_of_mem hevent
  have hlt := List.mem_range.1 hmem
  omega

/-- A state with the events of this one takes an event of the next version under a new key. -/
theorem writeEventAndOutbox_succeeds (hok : s.Ok) {t : State} (hevents : t.events = s.events) {key : EventKey}
    (hfresh : ∀ e ∈ s.events, e.key ≠ key) (eventType : EventType) (payload : Payload) :
    t.writeEventAndOutbox (s.journey.version + 1) key eventType payload =
      .ok (State.writeOutbox
        { t with
          events := t.events ++ [⟨s.journey.version + 1, key, eventType, payload⟩] }
        (.event key) eventType payload) := by
  unfold State.writeEventAndOutbox
  refine if_neg ?_
  rw [List.any_eq_true, hevents]
  rintro ⟨e, he, hsame⟩
  rw [Bool.or_eq_true, beq_iff_eq, beq_iff_eq] at hsame
  rcases hsame with hkey | heq
  · exact hfresh e he hkey
  · have hle := hok.sequence_le he
    omega

theorem event?_of_fresh {key : EventKey} (hfresh : ∀ e ∈ s.events, e.key ≠ key) :
    s.event? key = none := by
  refine List.find?_eq_none.2 fun e he => ?_
  simpa using hfresh e he

theorem writeOutbox_events (s : State) (key : OutboxKey) (eventType : EventType) (payload : Payload) :
    (s.writeOutbox key eventType payload).events = s.events := by
  unfold State.writeOutbox
  split <;> rfl

theorem writeOutbox_rows (s : State) (key : OutboxKey) (eventType : EventType) (payload : Payload) :
    ∀ row ∈ s.outbox, row ∈ (s.writeOutbox key eventType payload).outbox := by
  intro row hrow
  unfold State.writeOutbox
  split
  · exact hrow
  · exact List.mem_append_left _ hrow

theorem writeOutbox_tasks (s : State) (key : OutboxKey) (eventType : EventType) (payload : Payload) :
    (s.writeOutbox key eventType payload).tasks = s.tasks := by
  unfold State.writeOutbox
  split <;> rfl

/-- The state in which an event of the next version has been written. -/
abbrev State.observed (s : State) (event : JourneyEvent) : State :=
  { s with
    journey := { s.journey with version := s.journey.version + 1 }
    events := s.events ++ [event] }

theorem recordSignal_succeeds (hok : s.Ok) {signal : Signal}
    (hnew : ∀ e ∈ s.events, e.key ≠ signal.eventKey) :
    recordSignal signal s = .ok (State.writeOutbox
      (s.observed ⟨s.journey.version + 1, signal.eventKey, .domainFactObserved,
        .signal signal (s.journey.version + 1)⟩)
      (.event signal.eventKey) .domainFactObserved (.signal signal (s.journey.version + 1))) := by
  let t : State := { s with journey := { s.journey with version := s.journey.version + 1 } }
  unfold recordSignal
  rw [event?_of_fresh hnew]
  dsimp only
  unfold State.updateJourneyVersion
  rw [if_pos rfl]
  exact writeEventAndOutbox_succeeds hok (t := t) rfl hnew _ _

/-- The current step of a journey that can move is completed under a new key. -/
theorem completeStep_succeeds (hok : s.Ok) {step : Step} (hcurrent : Current s step) {key : EventKey}
    (hfresh : ∀ e ∈ s.events, e.key ≠ key) (payload : StepPayload) (factVersion : Option Nat) :
    ∃ s', completeStep key s.journey.version step.id payload factVersion s = .ok s' ∧
      ⟨s.journey.version + 1, key, .stepCompleted, .transition .completeStep step.id payload⟩
        ∈ s'.events ∧ (∀ row ∈ s.outbox, row ∈ s'.outbox) ∧ s'.now = s.now ∧
          s'.journey.currentStepCode = s.course.complete.code ∧ s'.tasks = s.tasks := by
  unfold completeStep
  rw [event?_of_fresh hfresh]
  dsimp only
  rw [lockJourneyStep_succeeds hok.steps hcurrent.mem]
  dsimp only [bind, Except.bind]
  rw [validateCurrentStep_succeeds hok.steps hcurrent]
  dsimp only
  unfold advanceJourney State.updateJourneyVersion
  rw [if_pos rfl]
  dsimp only
  refine ⟨_, writeEventAndOutbox_succeeds hok (by rfl) hfresh _ _, ?_, ?_, ?_, ?_, ?_⟩
  · rw [writeOutbox_events]
    exact List.mem_append_right _ (List.mem_singleton_self _)
  · intro row hrow
    refine writeOutbox_rows _ _ _ _ row ?_
    exact hrow
  · refine (writeOutbox_record _ _ _ _).now.trans ?_
    rfl
  · refine (congrArg Course.code (writeOutbox_course _ _ _ _)).trans ?_
    show (followingStep step s).getD step.code = (s.course.next).getD s.course.code
    rw [followingStep_eq hcurrent.code, ← hcurrent.code]
    rfl
  · exact writeOutbox_tasks _ _ _ _

/-- A leased row is delivered. -/
theorem completeOutbox_succeeds {claim : OutboxRow}
    (hleased : ∃ row ∈ s.outbox, claim.leased s.now row) :
    ∃ s', completeOutbox claim s = .ok s' ∧ SameTables s s' := by
  obtain ⟨row, hrow, hlease⟩ := hleased
  have hdelivered : completeOutbox claim s = .ok _ :=
    if_pos (List.any_eq_true.2 ⟨row, hrow, hlease⟩)
  obtain ⟨data, hdata, hupdate⟩ := completeOutbox_ok hdelivered
  exact ⟨_, hdelivered, updateOutbox_same hdata hupdate⟩

end SubscriptionSaas.Journey
