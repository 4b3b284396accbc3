import SubscriptionSaas.Journey.Proofs.OutboxProofs

/-!
# Signals recorded while the journey is halted

A signal whose facts match the current step is recorded in any state of the journey, but a journey that
is paused or in exception refuses the completion of its step, and the worker takes the refusal for an
error that no repetition mends: the row of the signal is dead. A row that is not dispatched in these
states waits for the journey, and completes the step as soon as it is dispatched.
-/

namespace SubscriptionSaas.Journey

open Results Runs

variable {cause : Cause} {s s' : State} {signal : Signal} {code : StepCode} {key : EventKey}
  {payload : StepPayload} {version : Nat}

/-- The journey is not allowed to advance. -/
def State.Halted (s : State) : Prop := s.journey.status = .paused ∨ s.journey.status = .exception

instance : Decidable s.Halted :=
  inferInstanceAs (Decidable (s.journey.status = .paused ∨ s.journey.status = .exception))

/-- The facts of the signal match the step at which the journey stands. -/
def Signal.Matches (s : State) : Signal → Prop
  | .customerPlanConfirmed revision commercialHash =>
    s.journey.currentStepCode = .customerPlanConfirmation ∧
      s.application.finalPlanRevision = revision ∧
        s.application.finalPlanCommercialHash = some commercialHash
  | .fadadaArtifactArchived .. => s.journey.currentStepCode = .fadadaSigningAndArchive
  | .handoverEvidenceReady _ => s.journey.currentStepCode = .handoverAndStage2Creation
  | _ => False

/-- A row that is still to be dispatched. -/
def OutboxRow.queued (row : OutboxRow) : Bool := row.status == .pending || row.status == .processing

/-- The step has been completed by a signal since the version. -/
def State.CompletedSince (s : State) (version : Nat) (code : StepCode) : Prop :=
  ∃ event ∈ s.events, version < event.sequence ∧ ∃ signal, event.CompletedBy code signal

/-- The row of the signal waits for the journey. -/
structure Waiting (signal : Signal) (version : Nat) (s : State) : Prop where
  live : s.journey.status.terminal = false
  facts : signal.Matches s
  since : version ≤ s.journey.version
  fresh : ∀ code key payload, signal.completion = some (code, key, payload) →
    ∀ e ∈ s.events, e.key ≠ key
  row : ∃ row ∈ s.outbox, row.key = .event signal.eventKey ∧
    (∃ journeyVersion, row.payload = .signal signal journeyVersion) ∧ row.queued = true
  /-- What has failed to dispatch the row does not hold it any more. -/
  lapsed : ∀ claim failure, (claim, failure) ∈ s.failed → claim.key = .event signal.eventKey →
    ∀ row ∈ s.outbox, claim.leased s.now row = false

/-- What becomes of the signal. -/
inductive Kept (signal : Signal) (version : Nat) (code : StepCode) (s : State) : Prop
  | cancelled (h : s.journey.status = .cancelled)
  | completed (h : s.CompletedSince version code)
  | waiting (h : Waiting signal version s)

/-! ## The step of a signal -/

theorem Signal.Matches.stands (h : signal.Matches s)
    (hcompletion : signal.completion = some (code, key, payload)) :
    s.journey.currentStepCode = code := by
  cases signal with
  | customerPlanConfirmed revision commercialHash =>
    obtain ⟨rfl, -⟩ := Prod.mk.inj (Option.some.inj hcompletion)
    exact h.1
  | fadadaArtifactArchived | handoverEvidenceReady =>
    obtain ⟨rfl, -⟩ := Prod.mk.inj (Option.some.inj hcompletion)
    exact h
  | applicationFactsChanged | fadadaTaskCompleted | paymentSettled | handoverOpsReviewed => exact h.elim

theorem Signal.completion_step (h : signal.completion = some (code, key, payload)) :
    code ∈ signalSteps ∧ ∃ revision hashKey contractId, key.isReady ∨ key = .archived contractId ∨
      key = .confirmationCompleted revision hashKey := by
  cases signal with
  | customerPlanConfirmed revision commercialHash =>
    obtain ⟨rfl, heq⟩ := Prod.mk.inj (Option.some.inj h)
    obtain ⟨rfl, -⟩ := Prod.mk.inj heq
    exact ⟨by decide, revision, hashKey commercialHash, 0, .inr (.inr rfl)⟩
  | fadadaArtifactArchived contractId =>
    obtain ⟨rfl, heq⟩ := Prod.mk.inj (Option.some.inj h)
    obtain ⟨rfl, -⟩ := Prod.mk.inj heq
    exact ⟨by decide, 0, [], contractId, .inr (.inl rfl)⟩
  | handoverEvidenceReady evidence =>
    obtain ⟨rfl, heq⟩ := Prod.mk.inj (Option.some.inj h)
    obtain ⟨rfl, -⟩ := Prod.mk.inj heq
    exact ⟨by decide, 0, [], 0, .inl rfl⟩
  | applicationFactsChanged | fadadaTaskCompleted | paymentSettled | handoverOpsReviewed => cases h

/-- Where a journey at the step of a signal goes. -/
theorem Course.Step.atSignal {c c' : Course} (h : c.Ok) (hlive : c.status.terminal = false)
    (hcode : c.code ∈ signalSteps) (hstep : c.Step c') :
    c'.status = .cancelled ∨ c.code.index < c'.code.index ∨
      (c'.status.terminal = false ∧ c'.code = c.code) := by
  cases hstep with
  | observe => exact .inr (.inr ⟨hlive, rfl⟩)
  | complete hmove =>
    right; left
    have hnext : ∃ following, nextStep c.code .completed = some following := by
      simp only [signalSteps, List.mem_cons, List.not_mem_nil, or_false] at hcode
      rcases hcode with hcode | hcode | hcode <;> rw [hcode] <;> exact ⟨_, rfl⟩
    obtain ⟨following, hnext⟩ := hnext
    rw [h.complete_code hmove following hnext, nextStep_index hnext]
    exact Nat.lt_succ_self _
  | waitCustomer | waitManual | pause | retry => exact .inr (.inr ⟨rfl, rfl⟩)
  | fail =>
    refine .inr (.inr ⟨?_, rfl⟩)
    show (if c.status = .paused then JourneyStatus.paused else .exception).terminal = false
    split <;> rfl
  | resume hpaused hfrom =>
    obtain ⟨status, hfrom', hstatus, -⟩ := h.paused hpaused
    obtain rfl := Option.some.inj (hfrom.symm.trans hfrom')
    exact .inr (.inr ⟨hstatus, rfl⟩)
  | cancel => exact .inl rfl
  | replan _ horder =>
    rw [horder] at hcode
    exact absurd hcode (by decide)
  | reconfirm _ hvehicle =>
    rw [hvehicle] at hcode
    exact absurd hcode (by decide)
  | rehand _ hdelivery =>
    rw [hdelivery] at hcode
    exact absurd hcode (by decide)

/-! ## Moves -/

theorem State.CompletedSince.moves (h : s.CompletedSince version code) (hmoves : Moves cause s s') :
    s'.CompletedSince version code := by
  obtain ⟨event, hevent, hsince⟩ := h
  obtain ⟨new, heq⟩ := hmoves.events
  exact ⟨event, heq ▸ List.mem_append_left _ hevent, hsince⟩

theorem Move.facts (hmove : Move cause s s') (hplan : s.journey.currentStepCode ≠ .finalPlanDecision)
    (hvehicle : s.journey.currentStepCode ≠ .finalVehicleAllocation) :
    s'.application.finalPlanRevision = s.application.finalPlanRevision ∧
      s'.application.finalPlanCommercialHash = s.application.finalPlanCommercialHash := by
  cases hmove with
  | quiet | touch | attach | decide | openTask => exact ⟨rfl, rfl⟩
  | replan commercialHash hcode =>
    rcases hcode with hcode | hcode
    · exact absurd hcode hplan
    · exact absurd hcode hvehicle
  | notify =>
    unfold enqueueNotificationOutbox State.writeOutbox
    split <;> exact ⟨rfl, rfl⟩
  | write | cancel =>
    unfold State.writeOutbox
    split <;> exact ⟨rfl, rfl⟩

/-- The facts still match at the same step. -/
theorem Signal.Matches.move (h : signal.Matches s)
    (hcompletion : signal.completion = some (code, key, payload)) (hmove : Move cause s s')
    (hcode : s'.journey.currentStepCode = s.journey.currentStepCode) : signal.Matches s' := by
  have hstep := h.stands hcompletion
  have hsignal := (Signal.completion_step hcompletion).1
  obtain ⟨hrevision, hhash⟩ := hmove.facts (by rw [hstep]; rintro rfl; exact absurd hsignal (by decide))
    (by rw [hstep]; rintro rfl; exact absurd hsignal (by decide))
  cases signal with
  | customerPlanConfirmed =>
    obtain ⟨hat, hrevision', hhash'⟩ := h
    exact ⟨hcode.trans hat, hrevision.trans hrevision', hhash.trans hhash'⟩
  | fadadaArtifactArchived | handoverEvidenceReady => exact hcode.trans h
  | applicationFactsChanged | fadadaTaskCompleted | paymentSettled | handoverOpsReviewed => exact h.elim

theorem Waiting.move (h : Waiting signal version s) (hok : s.Ok)
    (hcompletion : signal.completion = some (code, key, payload)) (hmove : Move cause s s') :
    Kept signal version code s' := by
  have hcode := h.facts.stands hcompletion
  obtain ⟨hsignal, revision, hashKey, contractId, hkeys⟩ := Signal.completion_step hcompletion
  by_cases hcancelled : s'.journey.status = .cancelled
  · exact .cancelled hcancelled
  have hrow : ∃ row ∈ s'.outbox, row.key = .event signal.eventKey ∧
      (∃ journeyVersion, row.payload = .signal signal journeyVersion) ∧ row.queued = true := by
    obtain ⟨row, hrow, hrest⟩ := h.row
    exact ⟨row, hmove.moves.rows hcancelled row hrow, hrest⟩
  have hlapsed : ∀ claim failure, (claim, failure) ∈ s'.failed →
      claim.key = .event signal.eventKey → ∀ row ∈ s'.outbox, claim.leased s'.now row = false := by
    intro claim failure hfailed hkey row hrow
    rw [hmove.record.failed] at hfailed
    rw [hmove.record.now]
    by_contra hleased
    have hprocessing : row.status = .processing := by
      simp only [OutboxRow.leased, Bool.not_eq_false, Bool.and_eq_true, beq_iff_eq] at hleased
      exact hleased.1.1.2
    exact hleased (h.lapsed claim failure hfailed hkey row (hmove.processing row hrow hprocessing))
  rcases hmove.written with ⟨hevents, hstatus, hsame, hversion⟩ |
    ⟨event, hevents, hstep, hwritten, hversion⟩
  · refine .waiting ⟨by rw [hstatus]; exact h.live, h.facts.move hcompletion hmove hsame,
      by rw [hversion]; exact h.since, ?_, hrow, hlapsed⟩
    rw [hevents]
    exact h.fresh
  · -- a completion is one by a signal
    have hdone : event.eventType = .stepCompleted → Kept signal version code s' := by
      intro htype
      obtain ⟨signal', _, -, hby⟩ := hwritten.signalled htype (hcode ▸ hsignal)
      refine .completed ⟨event, hevents ▸ List.mem_append_right _ (List.mem_singleton_self _), ?_,
        signal', hcode ▸ hby⟩
      rw [hwritten.sequence]
      exact Nat.lt_succ_of_le h.since
    have hstands : s.course.code ∈ signalSteps := by
      rw [show s.course.code = code from hcode]
      exact hsignal
    rcases hstep.atSignal hok.course h.live hstands with hended | hadvanced | ⟨hlive, hsame⟩
    · exact absurd hended hcancelled
    · rcases hwritten.advanced hadvanced with htype | hvehicle
      · exact hdone htype
      · rw [← hcode, hvehicle] at hsignal
        exact absurd hsignal (by decide)
    · by_cases htype : event.eventType = .stepCompleted
      · exact hdone htype
      · refine .waiting ⟨hlive, h.facts.move hcompletion hmove hsame, ?_, ?_, hrow, hlapsed⟩
        · rw [hversion]
          exact Nat.le_succ_of_le h.since
        · intro code' key' payload' hcompletion' e he
          rw [hevents] at he
          rcases List.mem_append.1 he with he | he
          · exact h.fresh code' key' payload' hcompletion' e he
          · rw [List.mem_singleton.1 he]
            rintro rfl
            obtain ⟨-, revision, hashKey, contractId, hkeys⟩ := Signal.completion_step hcompletion'
            exact htype (hwritten.completing revision hashKey contractId hkeys)

theorem Kept.moves (h : Kept signal version code s) (hok : s.Ok)
    (hcompletion : signal.completion = some (code, key, payload)) (hmoves : Moves cause s s') :
    Kept signal version code s' := by
  induction hmoves with
  | refl => exact h
  | tail hbefore hmove ih =>
    cases ih with
    | cancelled hcancelled =>
      have hterminal := hmove.moves.terminal (by rw [hcancelled]; rfl)
      exact .cancelled (hterminal.trans hcancelled)
    | completed hcompleted => exact .completed (hcompleted.moves hmove.moves)
    | waiting hwaiting => exact hwaiting.move (hok.moves hbefore) hcompletion hmove

/-! ## The dispatch of the signal -/

/-- The state in which the current step has a row and the notification of the dispatch is written. -/
structure Notified (s s' : State) (step : Step) : Prop where
  ok : s'.Ok
  mem : step ∈ s'.steps
  code : s'.journey.currentStepCode = step.code
  journey : s'.journey = s.journey
  application : s'.application = s.application
  events : s'.events = s.events
  tasks : s'.tasks = s.tasks
  rows : ∀ row ∈ s.outbox, row ∈ s'.outbox
  now : s'.now = s.now

theorem readCurrentJourney_notified (hok : s.Ok) (claim : OutboxRow) :
    ∃ s₁ step, s.readCurrentJourney = (s₁, step) ∧
      Notified s (enqueueNotificationOutbox claim s₁) step := by
  obtain ⟨s₁, step, hread, hmem, hcode, hs₁⟩ := upsertStep_pending hok.steps s.journey.currentStepCode
  have hok₁ : s₁.Ok := by
    rcases hs₁ with rfl | ⟨hnone, rfl⟩
    · exact hok
    · exact hok.touch hnone
  have hsame : s₁.journey = s.journey ∧ s₁.application = s.application ∧ s₁.events = s.events ∧
      s₁.tasks = s.tasks ∧ s₁.outbox = s.outbox ∧ s₁.now = s.now := by
    rcases hs₁ with rfl | ⟨-, rfl⟩ <;> exact ⟨rfl, rfl, rfl, rfl, rfl, rfl⟩
  obtain ⟨hjourney, happlication, hevents, htasks, houtbox, hnow⟩ := hsame
  have hnotified : Move (.row claim.payload) s₁ _ := .notify s₁ claim
  have hadded : ∃ outbox, enqueueNotificationOutbox claim s₁ = { s₁ with outbox := outbox } := by
    unfold enqueueNotificationOutbox State.writeOutbox
    split
    · exact ⟨s₁.outbox, rfl⟩
    · exact ⟨_, rfl⟩
  have hok₂ := hok₁.move hnotified
  have hrows : ∀ row ∈ s.outbox, row ∈ (enqueueNotificationOutbox claim s₁).outbox :=
    fun row hrow => writeOutbox_rows _ _ _ _ row (houtbox ▸ hrow)
  obtain ⟨outbox, hs₂⟩ := hadded
  refine ⟨s₁, step, hread, ?_⟩
  rw [hs₂] at hok₂ hrows ⊢
  refine ⟨hok₂, hmem, ?_, hjourney, happlication, hevents, htasks, hrows, hnow⟩
  show s₁.journey.currentStepCode = step.code
  rw [hjourney, hcode]

theorem dispatch_succeeds {handle : OutboxRow → State → Result} {claim : OutboxRow}
    (hhandle : handle claim s = .ok s') (hleased : ∃ row ∈ s'.outbox, claim.leased s'.now row) :
    SameTables s' (Journey.dispatch handle claim s) := by
  obtain ⟨s'', hdelivered, hsame⟩ := completeOutbox_succeeds hleased
  have hdispatched : Journey.dispatch handle claim s = s'' := by
    simp only [Journey.dispatch, hhandle, bind, Except.bind, hdelivered]
  rw [hdispatched]
  exact hsame

/-- A signal whose facts match completes the step. -/
theorem dispatchSignalOutbox_completes {claim : OutboxRow} (h : signal.Matches s)
    (hcompletion : signal.completion = some (code, key, payload)) {journeyVersion : Nat}
    (hpayload : claim.payload = .signal signal journeyVersion) {s₁ : State} {step : Step}
    (hread : s.readCurrentJourney = (s₁, step))
    (hnotified : Notified s (enqueueNotificationOutbox claim s₁) step) :
    dispatchSignalOutbox claim s =
      completeStep key (enqueueNotificationOutbox claim s₁).journey.version step.id payload none
        (enqueueNotificationOutbox claim s₁) := by
  have hjourney := hnotified.journey
  have happlication := hnotified.application
  unfold dispatchSignalOutbox
  rw [hread]
  dsimp only
  cases signal with
  | customerPlanConfirmed revision commercialHash =>
    obtain ⟨hcode, hrevision, hhash⟩ := h
    obtain ⟨-, heq⟩ := Prod.mk.inj (Option.some.inj hcompletion)
    obtain ⟨rfl, rfl⟩ := Prod.mk.inj heq
    simp only [hpayload, hjourney, hcode]
    unfold dispatchPlanConfirmation
    simp only [hpayload, hjourney, happlication, hrevision, hhash, and_self, if_true]
  | fadadaArtifactArchived contractId =>
    obtain ⟨-, heq⟩ := Prod.mk.inj (Option.some.inj hcompletion)
    obtain ⟨rfl, rfl⟩ := Prod.mk.inj heq
    have hcode : s.journey.currentStepCode = .fadadaSigningAndArchive := h
    simp only [hpayload, hjourney, hcode]
  | handoverEvidenceReady evidence =>
    obtain ⟨-, heq⟩ := Prod.mk.inj (Option.some.inj hcompletion)
    obtain ⟨rfl, rfl⟩ := Prod.mk.inj heq
    have hcode : s.journey.currentStepCode = .handoverAndStage2Creation := h
    simp only [hpayload, hjourney, hcode]
  | applicationFactsChanged | fadadaTaskCompleted | paymentSettled | handoverOpsReviewed => exact h.elim

/-- The journey runs: it is neither halted nor over. -/
def State.Runs (s : State) : Prop := s.journey.status.terminal = false ∧ ¬s.Halted

instance : Decidable s.Runs :=
  inferInstanceAs (Decidable (s.journey.status.terminal = false ∧ ¬s.Halted))

theorem Notified.current {step : Step} (h : Notified s s' step) (hruns : s.Runs) : Current s' step := by
  obtain ⟨hlive, hrunning⟩ := hruns
  refine h.ok.canMove ?_ ?_ ?_ h.mem h.code
  · rw [h.journey]
    exact hlive
  · rw [h.journey]
    exact fun hpaused => hrunning (.inl hpaused)
  · rw [h.journey]
    exact fun hexception => hrunning (.inr hexception)

theorem completedBy_of_completion (hcompletion : signal.completion = some (code, key, payload))
    (sequence : Nat) (stepId : Id) : JourneyEvent.CompletedBy
      ⟨sequence, key, .stepCompleted, .transition .completeStep stepId payload⟩ code signal :=
  ⟨key, stepId, payload, hcompletion, rfl, rfl⟩

/-- In a journey that runs the dispatch of the row succeeds, and the step is completed by the signal. -/
theorem Signal.Matches.dispatch (h : signal.Matches s) (hok : s.Ok) (hruns : s.Runs)
    (hcompletion : signal.completion = some (code, key, payload))
    (hfresh : ∀ e ∈ s.events, e.key ≠ key) {claim : OutboxRow} {journeyVersion : Nat}
    (hpayload : claim.payload = .signal signal journeyVersion)
    (hleased : ∃ row ∈ s.outbox, claim.leased s.now row) :
    ∃ stepId, ⟨s.journey.version + 1, key, .stepCompleted, .transition .completeStep stepId payload⟩
        ∈ (Journey.dispatch dispatchSignalOutbox claim s).events ∧
      some (Journey.dispatch dispatchSignalOutbox claim s).journey.currentStepCode =
        nextStep s.journey.currentStepCode .completed := by
  obtain ⟨s₁, step, hread, hnotified⟩ := readCurrentJourney_notified hok claim
  have hdispatch := dispatchSignalOutbox_completes h hcompletion hpayload hread hnotified
  have hcurrent := hnotified.current hruns
  obtain ⟨s₂, hcomplete, hevent, hrows, hclock, hnext, -⟩ := completeStep_succeeds hnotified.ok hcurrent
    (hnotified.events ▸ hfresh) payload none
  have hstillLeased : ∃ row ∈ s₂.outbox, claim.leased s₂.now row := by
    obtain ⟨row, hrow, hlease⟩ := hleased
    refine ⟨row, hrows row (hnotified.rows row hrow), ?_⟩
    rw [hclock, hnotified.now]
    exact hlease
  have hsame := dispatch_succeeds (hdispatch.trans hcomplete) hstillLeased
  refine ⟨step.id, ?_, ?_⟩
  · rw [hsame.events, ← hnotified.journey]
    exact hevent
  · have hfollowing : ∃ following, nextStep s.journey.currentStepCode .completed = some following := by
      have hsignal := (Signal.completion_step hcompletion).1
      rw [h.stands hcompletion]
      simp only [signalSteps, List.mem_cons, List.not_mem_nil, or_false] at hsignal
      rcases hsignal with rfl | rfl | rfl <;> exact ⟨_, rfl⟩
    obtain ⟨following, hfollowing⟩ := hfollowing
    rw [hsame.journey, hnext, hfollowing]
    refine congrArg some (hnotified.ok.course.complete_code hcurrent.move following ?_)
    show nextStep (enqueueNotificationOutbox claim s₁).journey.currentStepCode .completed = some following
    rw [hnotified.journey, hfollowing]

theorem Waiting.dispatch (h : Waiting signal version s) (hok : s.Ok)
    (hcompletion : signal.completion = some (code, key, payload)) (hrunning : ¬s.Halted)
    {claim : OutboxRow} {journeyVersion : Nat}
    (hpayload : claim.payload = .signal signal journeyVersion)
    (hleased : ∃ row ∈ s.outbox, claim.leased s.now row) :
    ∃ event ∈ (Journey.dispatch dispatchSignalOutbox claim s).events,
      s.journey.version < event.sequence ∧ event.CompletedBy code signal := by
  obtain ⟨stepId, hevent, -⟩ := h.facts.dispatch hok ⟨h.live, hrunning⟩ hcompletion
    (h.fresh code key payload hcompletion) hpayload hleased
  exact ⟨_, hevent, Nat.lt_succ_self _, completedBy_of_completion hcompletion _ _⟩

/-! ## Other rows -/

/-- An update of another row. -/
theorem Waiting.update (h : Waiting signal version s) (hok : OutboxOk s.events s.outbox)
    {claim : OutboxRow} {data : OutboxRow → OutboxRow}
    (hclaim : ∃ row ∈ s.outbox, row.Same claim) (hother : claim.key ≠ .event signal.eventKey)
    (hdata : Returned data) (hupdate : updateOutbox claim data s = .ok s') :
    Waiting signal version s' := by
  obtain ⟨-, hupdate⟩ := check_ok hupdate
  obtain rfl := Except.ok.inj hupdate
  refine ⟨h.live, ?_, h.since, h.fresh, ?_, ?_⟩
  · have hfacts := h.facts
    cases signal <;> exact hfacts
  · obtain ⟨row, hrow, hkey, hrest⟩ := h.row
    obtain ⟨claimed, hclaimed, hsame⟩ := hclaim
    have hnot : claim.leased s.now row = false := by
      by_contra hleased
      have hid : row.id = claim.id := by
        simp only [OutboxRow.leased, Bool.not_eq_false, Bool.and_eq_true, beq_iff_eq] at hleased
        exact hleased.1.1.1
      have heq : row = claimed :=
        List.inj_on_of_nodup_map hok.nodup_ids hrow hclaimed (hid.trans hsame.id)
      rw [← hkey, heq] at hother
      exact hother hsame.key
    refine ⟨row, List.mem_map.2 ⟨row, hrow, ?_⟩, hkey, hrest⟩
    rw [hnot]
    rfl
  · intro failed failure hfailed hkey row' hrow'
    obtain ⟨row, hrow, rfl⟩ := List.mem_map.1 hrow'
    split
    · have hstatus := hdata.status row
      simp [OutboxRow.leased, hstatus]
    · exact h.lapsed failed failure hfailed hkey row hrow

/-- A dispatch that fails does not hold the row of the signal. -/
theorem Waiting.fail (h : Waiting signal version s) {claim : OutboxRow} (failure : Failure)
    (hnot : claim.key = .event signal.eventKey → ∀ row ∈ s.outbox, claim.leased s.now row = false) :
    Waiting signal version { s with failed := (claim, failure) :: s.failed } := by
  refine ⟨h.live, ?_, h.since, h.fresh, h.row, ?_⟩
  · have hfacts := h.facts
    cases signal <;> exact hfacts
  · intro claim' failure' hmem hkey
    rcases List.mem_cons.1 hmem with heq | hmem
    · obtain ⟨rfl, -⟩ := Prod.mk.inj heq
      exact hnot hkey
    · exact h.lapsed claim' failure' hmem hkey

theorem Waiting.touch (h : Waiting signal version s) (steps : List Step) :
    Waiting signal version { s with steps := steps } := by
  refine ⟨h.live, ?_, h.since, h.fresh, h.row, h.lapsed⟩
  have hfacts := h.facts
  cases signal <;> exact hfacts

/-- The dispatch of another row. -/
theorem Waiting.dispatch_other (h : Waiting signal version s) (hok : s.Ok) (hgrants : GrantsOk s)
    (hcompletion : signal.completion = some (code, key, payload))
    {handle : OutboxRow → State → Result} {claim : OutboxRow} (hclaim : claim ∈ s.grantedOutbox)
    (hother : claim.key ≠ .event signal.eventKey)
    (hhandle : ∀ s', handle claim s = .ok s' →
      ∃ s₁, (s₁ = s ∨ (s.stepOf s.journey.currentStepCode = none ∧
        s₁ = s.touched s.journey.currentStepCode)) ∧ Moves cause s₁ s') :
    Kept signal version code (Journey.dispatch handle claim s) := by
  rcases dispatch_eq handle claim s with ⟨s₂, hsucceeded, hcomplete⟩ | ⟨failure, -, hfailed⟩
  · obtain ⟨s₁, hs₁, hmoves⟩ := hhandle s₂ hsucceeded
    have hbefore : Waiting signal version s₁ ∧ s₁.Ok ∧ GrantsOk s₁ ∧
        s₁.grantedOutbox = s.grantedOutbox := by
      rcases hs₁ with rfl | ⟨hnone, rfl⟩
      · exact ⟨h, hok, hgrants, rfl⟩
      · exact ⟨h.touch _, hok.touch hnone, ⟨hgrants.rows, hgrants.failed⟩, rfl⟩
    obtain ⟨hwaiting, hok₁, hgrants₁, hgranted⟩ := hbefore
    obtain ⟨data, hdata, hupdate⟩ := completeOutbox_ok hcomplete
    have hsame := updateOutbox_same hdata hupdate
    cases Kept.moves (.waiting hwaiting) hok₁ hcompletion hmoves with
    | cancelled hcancelled => exact .cancelled (by rw [hsame.journey, hcancelled])
    | completed hcompleted =>
      refine .completed ?_
      unfold State.CompletedSince
      rw [hsame.events]
      exact hcompleted
    | waiting hwaiting' =>
      have hrow := (hgrants₁.moves hmoves).rows claim (by rw [hmoves.record.granted, hgranted]; exact hclaim)
      exact .waiting (hwaiting'.update (hok₁.moves hmoves).outbox hrow hother hdata hupdate)
  · rw [hfailed]
    exact .waiting (h.fail failure fun hkey => absurd hkey hother)

/-! ## Runs -/

theorem Waiting.claim (h : Waiting signal version s) (hgrants : GrantsOk s) {ids : List Id}
    {leaseMs : Int} {token : Token}
    (hfresh : ∀ claim ∈ s.grantedOutbox, claim.leaseToken ≠ some token) :
    Waiting signal version (claimOutbox ids leaseMs token s) := by
  unfold claimOutbox
  split
  · exact h
  · refine ⟨h.live, ?_, h.since, h.fresh, ?_, ?_⟩
    · have hfacts := h.facts
      cases signal <;> exact hfacts
    · obtain ⟨row, hrow, hkey, hpayload, hqueued⟩ := h.row
      refine ⟨_, List.mem_map_of_mem hrow, ?_⟩
      dsimp only
      split
      · exact ⟨hkey, hpayload, rfl⟩
      · exact ⟨hkey, hpayload, hqueued⟩
    · intro claim failure hfailed hkey row' hrow'
      obtain ⟨row, hrow, rfl⟩ := List.mem_map.1 hrow'
      dsimp only
      split
      · have hother := hfresh claim (hgrants.failed claim failure hfailed)
        have hne : ¬some token = claim.leaseToken := fun heq => hother heq.symm
        simp [OutboxRow.leased, hne]
      · exact h.lapsed claim failure hfailed hkey row hrow

/-- The claim of the row carries the signal. -/
theorem Waiting.claim_payload (h : Waiting signal version s) (hok : s.Ok) (hgrants : GrantsOk s)
    {claim : OutboxRow} (hclaim : claim ∈ s.grantedOutbox)
    (hkey : claim.key = .event signal.eventKey) :
    ∃ journeyVersion, claim.payload = .signal signal journeyVersion := by
  obtain ⟨row, hrow, hrowKey, ⟨journeyVersion, hpayload⟩, -⟩ := h.row
  obtain ⟨claimed, hclaimed, hsame⟩ := hgrants.rows claim hclaim
  have heq : claimed = row := List.inj_on_of_nodup_map hok.outbox.keys hclaimed hrow
    (hsame.key.symm.trans (hkey.trans hrowKey.symm))
  refine ⟨journeyVersion, ?_⟩
  rw [hsame.payload, heq, hpayload]

/-- The row of the signal is not dispatched while the journey is halted, and leases have names of their
own. -/
def Undisturbed (signal : Signal) (s : State) (e : Command) : Prop :=
  RetriesOnCourse s e ∧
    (∀ claim, e = .dispatchSignal claim → claim.key = .event signal.eventKey → claim.Held s →
      ¬s.Halted) ∧
    ∀ ids leaseMs token, e = .claimOutbox ids leaseMs token →
      ∀ claim ∈ s.grantedOutbox, claim.leaseToken ≠ some token

theorem Waiting.dispatchSignal (h : Waiting signal version s) (hok : s.Ok) (hgrants : GrantsOk s)
    (hcompletion : signal.completion = some (code, key, payload)) {claim : OutboxRow}
    (hclaim : claim ∈ s.grantedOutbox)
    (hhalted : claim.key = .event signal.eventKey → claim.Held s → ¬s.Halted) :
    Kept signal version code (Journey.dispatch dispatchSignalOutbox claim s) := by
  by_cases hkey : claim.key = .event signal.eventKey
  · obtain ⟨journeyVersion, hpayload⟩ := h.claim_payload hok hgrants hclaim hkey
    by_cases hheld : ∃ row ∈ s.outbox, claim.leased s.now row
    · obtain ⟨event, hevent, hlater, hby⟩ := h.dispatch hok hcompletion (hhalted hkey ⟨hclaim, hheld⟩)
        hpayload hheld
      exact .completed ⟨event, hevent, Nat.lt_of_le_of_lt h.since hlater, signal, hby⟩
    · rcases dispatch_eq dispatchSignalOutbox claim s with ⟨s₂, hsucceeded, hcomplete⟩ |
        ⟨failure, -, hfailed⟩
      · obtain ⟨s₁, hs₁, hmoves⟩ := dispatchSignalOutbox_moves hok hsucceeded
        exact absurd (completeOutbox_held hs₁ hmoves hcomplete) hheld
      · rw [hfailed]
        refine .waiting (h.fail failure fun _ row hrow => ?_)
        by_contra hleased
        exact hheld ⟨row, hrow, by simpa using hleased⟩
  · exact h.dispatch_other hok hgrants hcompletion hclaim hkey
      fun _ hhandle => dispatchSignalOutbox_moves hok hhandle

theorem Waiting.step (h : Waiting signal version s) (hok : s.Ok) (hgrants : GrantsOk s)
    (hcompletion : signal.completion = some (code, key, payload)) {e : Command}
    (hgood : Undisturbed signal s e) : Kept signal version code (step s e) := by
  obtain ⟨hretries, hhalted, hfresh⟩ := hgood
  by_cases hleases : e.leases = false
  · exact Kept.moves (.waiting h) hok hcompletion (step_moves hok hretries hleases)
  · cases e with
    | claimOutbox ids leaseMs token =>
      exact .waiting (h.claim hgrants (hfresh ids leaseMs token rfl))
    | dispatchSignal claim =>
      dsimp only [Journey.step]
      split
      · rename_i hclaim
        exact h.dispatchSignal hok hgrants hcompletion hclaim.1 (hhalted claim rfl)
      · exact .waiting h
    | dispatchNotification claim =>
      dsimp only [Journey.step]
      split
      · rename_i hclaim
        refine h.dispatch_other hok hgrants hcompletion hclaim.1 (fun hkey => ?_)
          fun _ hhandle => dispatchNotificationOutbox_moves hok hhandle
        rw [hkey] at hclaim
        cases hclaim.2
      · exact .waiting h
    | failOutbox claim failure delayMs =>
      dsimp only [Journey.step]
      split
      · rename_i hfailed
        rcases commit_eq s (handleOutboxFailure claim (sanitizeJourneyFailure failure) delayMs)
          with heq | hfailure
        · rw [heq]
          exact .waiting h
        · obtain ⟨data, hdata, hupdate⟩ := handleOutboxFailure_ok hfailure
          obtain ⟨hleased, -⟩ := check_ok hupdate
          obtain ⟨row, hrow, hlease⟩ := List.any_eq_true.1 hleased
          refine .waiting (h.update hok.outbox (hgrants.rows claim (hgrants.failed claim failure hfailed))
            (fun hkey => ?_) hdata hupdate)
          rw [h.lapsed claim failure hfailed hkey row hrow] at hlease
          cases hlease
      · exact .waiting h
    | claimJobs ids leaseMs token =>
      dsimp only [Journey.step]
      unfold claimJobs
      split
      · exact .waiting h
      · refine .waiting ⟨h.live, ?_, h.since, h.fresh, h.row, h.lapsed⟩
        have hfacts := h.facts
        cases signal <;> exact hfacts
    | tick ms =>
      refine .waiting ⟨h.live, ?_, h.since, h.fresh, h.row, ?_⟩
      · have hfacts := h.facts
        cases signal <;> exact hfacts
      · intro claim failure hfailed hkey row hrow
        have hbefore := h.lapsed claim failure hfailed hkey row hrow
        by_contra hleased
        -- a lease that holds now has held before
        rw [Bool.not_eq_false] at hleased
        have hlater : claim.leased (s.now + ms) row = true := hleased
        simp only [OutboxRow.leased, Bool.and_eq_true, beq_iff_eq, Option.any_eq_true,
          decide_eq_true_eq] at hlater
        obtain ⟨⟨⟨hid, hstatus⟩, htoken⟩, expires, hexpires, hlt⟩ := hlater
        have hheld : claim.leased s.now row = true := by
          simp only [OutboxRow.leased, Bool.and_eq_true, beq_iff_eq, Option.any_eq_true,
            decide_eq_true_eq]
          exact ⟨⟨⟨hid, hstatus⟩, htoken⟩, expires, hexpires, by omega⟩
        rw [hbefore] at hheld
        cases hheld
    | _ => exact absurd rfl hleases

theorem Kept.step (h : Kept signal version code s) (hok : s.Ok) (hgrants : GrantsOk s)
    (hcompletion : signal.completion = some (code, key, payload)) {e : Command}
    (hgood : Undisturbed signal s e) : Kept signal version code (step s e) := by
  cases h with
  | cancelled hcancelled =>
    have hterminal := step_terminal hok hgood.1 (by rw [hcancelled]; rfl)
    exact .cancelled (hterminal.trans hcancelled)
  | completed hcompleted =>
    obtain ⟨s₁, s₂, hs₁, hmoves, hsame⟩ := step_cases hok hgood.1
    have hcompleted₁ : s₁.CompletedSince version code := by
      rcases hs₁ with rfl | ⟨-, rfl, -⟩ <;> exact hcompleted
    refine .completed ?_
    unfold State.CompletedSince
    rw [hsame.events]
    exact hcompleted₁.moves hmoves
  | waiting hwaiting => exact hwaiting.step hok hgrants hcompletion hgood

section Runs

variable (applicationId : Id) (application : Application) (now : Int)

theorem GrantsOk.created : GrantsOk (.create applicationId application now) := by
  refine ⟨?_, ?_⟩
  · intro claim hclaim
    cases hclaim
  · intro claim failure hfailed
    cases hfailed

theorem journey_grants {evs : List Command}
    (h : Along step RetriesOnCourse (.create applicationId application now) evs) :
    (journeyRun applicationId application now evs).Ok ∧
      GrantsOk (journeyRun applicationId application now evs) :=
  runs_invariant (fun s : State => s.Ok ∧ GrantsOk s)
    (fun _ _ hretries hs => ⟨hs.1.step hretries, hs.2.step hs.1 hretries⟩)
    ⟨.created applicationId application now, .created applicationId application now⟩ h

end Runs

/-- A halted journey has not come to its end. -/
theorem State.Halted.live (h : s.Halted) : s.journey.status.terminal = false := by
  rcases h with hstatus | hstatus <;> rw [hstatus] <;> rfl

/-- The key with which a plan or a contract completes its step is new at the step; the key of the
evidence is new unless evidence for the work order has been through it before. -/
theorem Signal.Matches.fresh (h : signal.Matches s) (hok : s.Ok) (hhalted : s.Halted)
    (hevidence : ∀ evidence, signal = .handoverEvidenceReady evidence →
      ∀ e ∈ s.events, e.key ≠ .handoverReady evidence.workOrderId)
    (hcompletion : signal.completion = some (code, key, payload)) : ∀ e ∈ s.events, e.key ≠ key := by
  have hkeys := hok.keys hhalted.live
  intro e he hkey
  cases signal with
  | customerPlanConfirmed revision commercialHash =>
    obtain ⟨hcode, hrevision, -⟩ := h
    obtain ⟨-, heq⟩ := Prod.mk.inj (Option.some.inj hcompletion)
    obtain ⟨rfl, -⟩ := Prod.mk.inj heq
    have hlt := (hkeys.confirmed e he revision _ hkey).2 (.inr hcode)
    omega
  | fadadaArtifactArchived contractId =>
    obtain ⟨-, heq⟩ := Prod.mk.inj (Option.some.inj hcompletion)
    obtain ⟨rfl, -⟩ := Prod.mk.inj heq
    have hcode : s.journey.currentStepCode = .fadadaSigningAndArchive := h
    have hlt := hkeys.archived e he contractId hkey
    rw [hcode] at hlt
    exact Nat.lt_irrefl _ hlt
  | handoverEvidenceReady evidence =>
    obtain ⟨-, heq⟩ := Prod.mk.inj (Option.some.inj hcompletion)
    obtain ⟨rfl, -⟩ := Prod.mk.inj heq
    exact hevidence evidence rfl e he hkey
  | applicationFactsChanged | fadadaTaskCompleted | paymentSettled | handoverOpsReviewed => exact h.elim

/-- A signal that is recorded while the journey is halted. -/
theorem Waiting.recorded (hok : s.Ok) (hgrants : GrantsOk s) (hhalted : s.Halted)
    (hfacts : signal.Matches s) (hnew : ∀ e ∈ s.events, e.key ≠ signal.eventKey)
    (hevidence : ∀ evidence, signal = .handoverEvidenceReady evidence →
      ∀ e ∈ s.events, e.key ≠ .handoverReady evidence.workOrderId)
    (hcompletion : signal.completion = some (code, key, payload)) :
    Waiting signal (Journey.step s (.record signal)).journey.version (Journey.step s (.record signal)) := by
  have hlive := hhalted.live
  have horder : signal.byOrder = true → s.journey.orderId.isSome := by
    intro hby
    refine (hok.keys hlive).ordered ?_
    rw [hfacts.stands hcompletion]
    cases signal with
    | fadadaArtifactArchived | handoverEvidenceReady =>
      obtain ⟨rfl, -⟩ := Prod.mk.inj (Option.some.inj hcompletion)
      decide
    | applicationFactsChanged | customerPlanConfirmed => cases hby
    | fadadaTaskCompleted | paymentSettled | handoverOpsReviewed => cases hcompletion
  have hreviewed : signal.isOpsReviewed = false := by
    cases signal <;> first | rfl | exact hfacts.elim
  have hrecord : Journey.record signal s = recordSignal signal s := by
    refine if_neg ?_
    rw [Bool.and_eq_true]
    rintro ⟨hby, hnone⟩
    rw [Option.isNone_iff_eq_none] at hnone
    have hsome := horder hby
    rw [hnone] at hsome
    cases hsome
  -- the event and its row are written
  let written := s.observed ⟨s.journey.version + 1, signal.eventKey, .domainFactObserved,
    .signal signal (s.journey.version + 1)⟩
  have hrows := hok.outbox.event_fresh hnew
  have hstep : Journey.step s (.record signal) = { written with outbox := s.outbox ++ [outboxRow written
      (.event signal.eventKey) .domainFactObserved (.signal signal (s.journey.version + 1))] } := by
    dsimp only [Journey.step]
    rw [if_neg (by rw [hreviewed]; nofun)]
    unfold State.commit
    rw [hrecord, recordSignal_succeeds hok hnew]
    exact writeOutbox_of_fresh (s := written) hrows _ _
  rw [hstep]
  refine ⟨hlive, ?_, Nat.le_refl _, ?_, ?_, ?_⟩
  · cases signal <;> exact hfacts
  · intro code' key' payload' hcompletion' e he
    rcases List.mem_append.1 he with he | he
    · exact hfacts.fresh hok hhalted hevidence hcompletion' e he
    · rw [List.mem_singleton.1 he]
      rintro rfl
      cases signal <;> cases hcompletion'
  · exact ⟨_, List.mem_append_right _ (List.mem_singleton_self _), rfl, ⟨_, rfl⟩, rfl⟩
  · intro claim failure hfailed hkey
    obtain ⟨row, hrow, hsame⟩ := hgrants.rows claim (hgrants.failed claim failure hfailed)
    exact absurd (hsame.key.symm.trans hkey) (hrows row hrow)

/-- A signal whose facts match the step, recorded while the journey is halted, is not lost if its row is
not dispatched before the journey runs again: unless the journey is cancelled, the step is completed by
a signal, or the row is still to be dispatched, and its dispatch completes the step. -/
theorem halted_signal_kept (applicationId : Id) (application : Application) (now : Int)
    {before after : List Command}
    (hbefore : Along step RetriesOnCourse (.create applicationId application now) before)
    (hhalted : (journeyRun applicationId application now before).Halted)
    (hcompletion : signal.completion = some (code, key, payload))
    (hfacts : signal.Matches (journeyRun applicationId application now before))
    (hnew : ∀ e ∈ (journeyRun applicationId application now before).events, e.key ≠ signal.eventKey)
    (hevidence : ∀ evidence, signal = .handoverEvidenceReady evidence →
      ∀ e ∈ (journeyRun applicationId application now before).events,
        e.key ≠ .handoverReady evidence.workOrderId)
    (hafter : Along step (Undisturbed signal)
      (journeyRun applicationId application now (before ++ [.record signal])) after) :
    let recorded := journeyRun applicationId application now (before ++ [.record signal])
    let reached := runs step recorded after
    reached.journey.status = .cancelled ∨ reached.CompletedSince recorded.journey.version code ∨
      (signal.Matches reached ∧
        (∃ row ∈ reached.outbox, row.key = .event signal.eventKey ∧ row.queued = true) ∧
          ∀ claim, claim.key = .event signal.eventKey → claim.Held reached → ¬reached.Halted →
            ∃ event ∈ (step reached (.dispatchSignal claim)).events,
              reached.journey.version < event.sequence ∧ event.CompletedBy code signal) := by
  intro recorded reached
  obtain ⟨hok, hgrants⟩ := journey_grants applicationId application now hbefore
  have hrecorded : recorded = step (journeyRun applicationId application now before) (.record signal) :=
    runs_append step _ before [.record signal]
  have hwaiting : Waiting signal recorded.journey.version recorded := by
    rw [hrecorded]
    exact .recorded hok hgrants hhalted hfacts hnew hevidence hcompletion
  have hok₁ : recorded.Ok := by
    rw [hrecorded]
    exact hok.step trivial
  have hgrants₁ : GrantsOk recorded := by
    rw [hrecorded]
    exact hgrants.step hok trivial
  obtain ⟨hkept, hok', hgrants'⟩ := runs_invariant
    (fun s => Kept signal recorded.journey.version code s ∧ s.Ok ∧ GrantsOk s)
    (fun _ _ hgood hs => ⟨hs.1.step hs.2.1 hs.2.2 hcompletion hgood, hs.2.1.step hgood.1,
      hs.2.2.step hs.2.1 hgood.1⟩) ⟨.waiting hwaiting, hok₁, hgrants₁⟩ hafter
  cases hkept with
  | cancelled hcancelled => exact .inl hcancelled
  | completed hcompleted => exact .inr (.inl hcompleted)
  | waiting hwaiting' =>
    obtain ⟨row, hrow, hkey, -, hqueued⟩ := hwaiting'.row
    refine .inr (.inr ⟨hwaiting'.facts, ⟨row, hrow, hkey, hqueued⟩, ?_⟩)
    intro claim hclaimKey hheld hrunning
    obtain ⟨journeyVersion, hpayload⟩ := hwaiting'.claim_payload hok' hgrants' hheld.1 hclaimKey
    have hsignalRow : claim ∈ reached.grantedOutbox ∧ !claim.key.isNotification := by
      rw [hclaimKey]
      exact ⟨hheld.1, rfl⟩
    dsimp only [step]
    rw [if_pos hsignalRow]
    exact hwaiting'.dispatch hok' hcompletion hrunning hpayload hheld.2

/-- The journey is paused when the customer has to confirm the plan. -/
def pausedPlan : List Command := planPublished ++ [.pause 4 "check"]

theorem pausedPlan_kept :
    let recorded := journeyRun 1 ⟨0, none, 0⟩ 0 (pausedPlan ++ [.record (.customerPlanConfirmed 1 planHash)])
    let reached := runs step recorded [.resume 6 "checked"]
    reached.journey.status = .cancelled ∨
      reached.CompletedSince recorded.journey.version .customerPlanConfirmation ∨
        (Signal.Matches reached (.customerPlanConfirmed 1 planHash) ∧
          (∃ row ∈ reached.outbox, row.key = .event (.planConfirmed 1 (hashKey planHash)) ∧
            row.queued = true) ∧
          ∀ claim, claim.key = .event (.planConfirmed 1 (hashKey planHash)) → claim.Held reached →
            ¬reached.Halted → ∃ event ∈ (step reached (.dispatchSignal claim)).events,
              reached.journey.version < event.sequence ∧
                event.CompletedBy .customerPlanConfirmation (.customerPlanConfirmed 1 planHash)) := by
  have hbefore : Along step RetriesOnCourse (.create 1 ⟨0, none, 0⟩ 0) pausedPlan := by
    refine Along.of_forall fun e he s => ?_
    simp only [pausedPlan, planPublished, List.cons_append, List.nil_append, List.mem_cons,
      List.not_mem_nil, or_false] at he
    rcases he with rfl | rfl | rfl | rfl | rfl | rfl | rfl | rfl <;> exact trivial
  have hafter : Along step (Undisturbed (.customerPlanConfirmed 1 planHash))
      (journeyRun 1 ⟨0, none, 0⟩ 0 (pausedPlan ++ [.record (.customerPlanConfirmed 1 planHash)]))
      [.resume 6 "checked"] := by
    refine Along.of_forall fun e he s => ?_
    rw [List.mem_singleton.1 he]
    refine ⟨trivial, ?_, ?_⟩
    · intro claim hclaim
      cases hclaim
    · intro ids leaseMs token hclaim
      cases hclaim
  have hpaused : (journeyRun 1 ⟨0, none, 0⟩ 0 pausedPlan).journey.status = .paused := by
    decide +kernel
  have hcode : (journeyRun 1 ⟨0, none, 0⟩ 0 pausedPlan).journey.currentStepCode =
      .customerPlanConfirmation := by decide +kernel
  have hplan : (journeyRun 1 ⟨0, none, 0⟩ 0 pausedPlan).application = ⟨1, some planHash, 0⟩ := by
    decide +kernel
  have hnew : ∀ e ∈ (journeyRun 1 ⟨0, none, 0⟩ 0 pausedPlan).events,
      e.key ≠ .planConfirmed 1 (hashKey planHash) := by decide +kernel
  have hfacts : Signal.Matches (journeyRun 1 ⟨0, none, 0⟩ 0 pausedPlan)
      (.customerPlanConfirmed 1 planHash) := by
    refine ⟨hcode, ?_, ?_⟩ <;> rw [hplan]
  refine halted_signal_kept 1 ⟨0, none, 0⟩ 0 hbefore (.inl hpaused) rfl hfacts hnew ?_ hafter
  intro evidence heq
  cases heq

/-- What a worker claims of all rows, and dispatches. -/
def dispatchRows (token : Token) (s : State) : List Command :=
  let ids := s.outbox.map (·.id)
  let claims := (claimOutbox ids 1000 token s).grantedOutbox.filter (·.leaseToken == some token)
  .claimOutbox ids 1000 token :: claims.map fun claim =>
    if claim.key.isNotification then .dispatchNotification claim else .dispatchSignal claim

def confirmationClaim : OutboxRow :=
  ⟨8, .event (.planConfirmed 1 (hashKey planHash)), .domainFactObserved,
    .signal (.customerPlanConfirmed 1 planHash) 6, .processing, 0, 0, some 4, some 1000⟩

/-- The customer confirms the plan while the journey is paused, and the worker dispatches the signal
before it is resumed; then every row is dispatched. -/
def dispatchedWhilePaused : List Command :=
  let resumed := pausedPlan ++
    [.record (.customerPlanConfirmed 1 planHash),
      .claimOutbox [8] 1000 4,
      .dispatchSignal confirmationClaim,
      .failOutbox confirmationClaim
        (invalidTransition "The persisted subscription journey step cannot make this transition.") 0,
      .resume 6 "checked"]
  [5, 6, 7].foldl
    (fun evs token => evs ++ dispatchRows token (journeyRun 1 ⟨0, none, 0⟩ 0 evs)) resumed

/-- The row of the signal is dead and no other row is left; the journey waits for the customer. -/
theorem dispatchedWhilePaused_lost :
    let reached := journeyRun 1 ⟨0, none, 0⟩ 0 dispatchedWhilePaused
    reached.journey.status = .waitingCustomer ∧
      reached.journey.currentStepCode = .customerPlanConfirmation ∧
        (∀ row ∈ reached.outbox, row.status = .delivered ∨ row.status = .deadLetter ∧
          row.key = .event (.planConfirmed 1 (hashKey planHash))) ∧
          (∃ row ∈ reached.outbox, row.status = .deadLetter) ∧
            ∀ e ∈ reached.events, e.key ≠ .confirmationCompleted 1 (hashKey planHash) := by
  decide +kernel

end SubscriptionSaas.Journey
