import SubscriptionSaas.Journey.Proofs.OperationProofs

/-!
# Commands are moves

The services put the operations of the repository together. What a command does to the tables is a
sequence of moves, but for the leases of the outbox and of the jobs, which the workers take and return.
-/

namespace SubscriptionSaas.Journey

open Results

variable {cause : Cause} {s s' : State}

/-! ## The current step -/

/-- Moves keep the identifiers and the codes of the steps. -/
theorem Moves.steps (h : Moves cause s s') :
    ∀ step ∈ s.steps, ∃ step' ∈ s'.steps, step'.id = step.id ∧ step'.code = step.code := by
  induction h with
  | refl => exact fun step hstep => ⟨step, hstep, rfl, rfl⟩
  | @tail s₁ s₂ _ hmove ih =>
    intro step hstep
    obtain ⟨step₁, hstep₁, hid₁, hcode₁⟩ := ih step hstep
    have hnext : ∃ step' ∈ s₂.steps, step'.id = step₁.id ∧ step'.code = step₁.code := by
      cases hmove with
      | quiet | replan | attach | decide | openTask => exact ⟨step₁, hstep₁, rfl, rfl⟩
      | notify source =>
        refine ⟨step₁, ?_, rfl, rfl⟩
        unfold enqueueNotificationOutbox State.writeOutbox
        split <;> exact hstep₁
      | touch => exact ⟨step₁, List.mem_append_left _ hstep₁, rfl, rfl⟩
      | write journey steps event hversion horder hsteps =>
        obtain ⟨step₂, hstep₂, hsame⟩ := mem_of_steps_map hsteps step₁ hstep₁
        refine ⟨step₂, ?_, hsame⟩
        unfold State.writeOutbox
        split <;> exact hstep₂
      | cancel journey steps jobs event hversion horder hsteps =>
        obtain ⟨step₂, hstep₂, hsame⟩ := mem_of_steps_map hsteps step₁ hstep₁
        refine ⟨step₂, ?_, hsame⟩
        unfold State.writeOutbox
        split <;> exact hstep₂
    obtain ⟨step₂, hstep₂, hid₂, hcode₂⟩ := hnext
    exact ⟨step₂, hstep₂, hid₂.trans hid₁, hcode₂.trans hcode₁⟩

/-- The state in which the row of the step has been created. -/
abbrev State.touched (s : State) (code : StepCode) : State :=
  { s with steps := s.steps ++ [⟨s.steps.length, code, .pending⟩] }

/-- An upsert that leaves an existing row alone. -/
theorem upsertStep_pending (hs : StepsOk s.steps) (code : StepCode) :
    ∃ s₁ step, s.upsertStep code .pending id = (s₁, step) ∧ step ∈ s₁.steps ∧ step.code = code ∧
      (s₁ = s ∨ (s.stepOf code = none ∧ s₁ = s.touched code)) := by
  unfold State.upsertStep
  split
  · rename_i step hstep
    obtain ⟨hmem, hcode⟩ := stepOf_some hstep
    refine ⟨s, step, ?_, hmem, hcode, .inl rfl⟩
    have hsame : setStatus s.steps step.id step.status = s.steps := by
      conv_rhs => rw [← List.map_id s.steps]
      refine List.map_congr_left fun step' hstep' => ?_
      by_cases hid : step'.id = step.id
      · rw [if_pos (by simpa using hid),
          List.inj_on_of_nodup_map hs.nodup_ids hstep' hmem hid]
        rfl
      · exact if_neg (by simpa using hid)
    refine Prod.ext ?_ rfl
    show ({ s with steps := setStatus s.steps step.id step.status } : State) = s
    rw [hsame]
  · rename_i hnone
    exact ⟨_, _, rfl, List.mem_append_right _ (List.mem_singleton_self _), rfl, .inr ⟨hnone, rfl⟩⟩

/-! ## Dispatch -/

theorem dispatchFacts_moves {factType : FactType} {factVersion : Nat} {sourceActionId : Id}
    {step : Step} (h : dispatchFacts factType factVersion sourceActionId step s = .ok s') :
    Moves cause s s' := by
  unfold dispatchFacts at h
  split at h
  · obtain rfl := Except.ok.inj h
    exact .refl s
  · exact enqueueJob_moves h

theorem dispatchPlanConfirmation_moves {outbox : OutboxRow} {step : Step} (hok : s.Ok)
    (hcode : s.journey.currentStepCode = .customerPlanConfirmation)
    (h : dispatchPlanConfirmation outbox step s = .ok s') : Moves (.row outbox.payload) s s' := by
  unfold dispatchPlanConfirmation at h
  dsimp only at h
  have hwait : ∀ {s' : State}, (if s.journey.currentStepStatus = .waitingCustomer then .ok s
      else waitForCustomer (.confirmationWaiting s.application.finalPlanRevision) s.journey.version
        step.id (.plan s.application.finalPlanCommercialHash s.application.finalPlanRevision) none s) =
        .ok s' → Moves (.row outbox.payload) s s' := by
    intro s' h
    split at h
    · obtain rfl := Except.ok.inj h
      exact .refl s
    · exact waitForCustomer_moves hok rfl h
  split at h
  · rename_i signalRevision signalHash version commercialHash hpayload hhash
    split at h
    · rename_i hexact
      obtain ⟨rfl, rfl⟩ := hexact
      refine completeStep_moves hok (fun _ _ _ => ?_) h
      refine ⟨fun code hsome => hcode.trans (Option.some.inj hsome), fun _ => ?_, ?_, ?_, ?_, nofun,
        nofun, nofun⟩
      · refine ⟨_, version, congrArg Cause.row hpayload, ?_⟩
        rw [hcode, hhash]
        rfl
      · intro revision hashKey heq
        exact ((EventKey.confirmationCompleted.inj heq).1).symm
      · intro hplan
        cases hcode.symm.trans hplan
      · intro horder
        cases hcode.symm.trans horder
    · exact hwait h
  · exact hwait h

theorem readHandoverEvidenceSnapshot_ok {payload : Payload} {evidence : Evidence}
    (h : readHandoverEvidenceSnapshot payload = .ok evidence) : payload.evidence? = some evidence := by
  unfold readHandoverEvidenceSnapshot at h
  split at h
  · obtain rfl := Except.ok.inj h
    rfl
  · cases h

theorem dispatchStep_moves {outbox : OutboxRow} {step : Step} (hok : s.Ok)
    (h : dispatchStep outbox step s = .ok s') : Moves (.row outbox.payload) s s' := by
  unfold dispatchStep at h
  dsimp only at h
  split at h
  · split at h
    · obtain ⟨evidence, hevidence, h⟩ := bind_ok h
      rcases hread : readHandoverEvidenceSnapshot outbox.payload with e | snapshot
      · rw [hread] at hevidence
        cases hevidence
      · rw [hread] at hevidence
        obtain rfl : some snapshot = evidence := Except.ok.inj hevidence
        have hsnapshot := readHandoverEvidenceSnapshot_ok hread
        refine openManualTask_moves hok (fun hcode => ⟨outbox.payload, rfl, ?_, hsnapshot.symm⟩) h
        rw [hsnapshot]
        rfl
    · rename_i hcode
      obtain ⟨evidence, hevidence, h⟩ := bind_ok h
      exact openManualTask_moves hok (fun hcode' => absurd hcode' hcode) h
  · split at h
    · obtain rfl := Except.ok.inj h
      exact .refl s
    · exact enqueueJob_moves h

/-- A dispatch first makes sure that there is a row for the current step. -/
theorem dispatchSignalOutbox_moves {outbox : OutboxRow} (hok : s.Ok)
    (h : dispatchSignalOutbox outbox s = .ok s') :
    ∃ s₁, (s₁ = s ∨ (s.stepOf s.journey.currentStepCode = none ∧
        s₁ = s.touched s.journey.currentStepCode)) ∧ Moves (.row outbox.payload) s₁ s' := by
  unfold dispatchSignalOutbox State.readCurrentJourney at h
  obtain ⟨s₁, step, hread, hmem, hcode, hs₁⟩ := upsertStep_pending hok.steps s.journey.currentStepCode
  rw [hread] at h
  refine ⟨s₁, hs₁, ?_⟩
  have hok₁ : s₁.Ok := by
    rcases hs₁ with rfl | ⟨hnone, rfl⟩
    · exact hok
    · exact hok.touch hnone
  dsimp only at h
  split at h
  · exact dispatchFacts_moves h
  · have hnotified : Move (.row outbox.payload) s₁ _ := .notify s₁ outbox
    have hok₂ := hok₁.move hnotified
    refine hnotified.moves.trans ?_
    generalize enqueueNotificationOutbox outbox s₁ = s₂ at h hok₂ ⊢
    split at h
    · rename_i hcustomer
      exact dispatchPlanConfirmation_moves hok₂ hcustomer h
    · rename_i hfadada hpayload
      refine completeStep_moves hok₂ (fun _ _ _ => ?_) h
      refine ⟨fun code hsome => hfadada.trans (Option.some.inj hsome),
        fun _ => ⟨_, _, congrArg Cause.row hpayload, by rw [hfadada]; rfl⟩, nofun, ?_, ?_, nofun, nofun,
        nofun⟩
      · intro hplan
        cases hfadada.symm.trans hplan
      · intro horder
        cases hfadada.symm.trans horder
    · exact enqueueJob_moves h
    · rename_i hhandover hpayload
      refine completeStep_moves hok₂ (fun _ _ _ => ?_) h
      refine ⟨fun code hsome => hhandover.trans (Option.some.inj hsome),
        fun _ => ⟨_, _, congrArg Cause.row hpayload, by rw [hhandover]; rfl⟩, nofun, ?_, ?_,
        fun _ _ => rfl, nofun, nofun⟩
      · intro hplan
        cases hhandover.symm.trans hplan
      · intro horder
        cases hhandover.symm.trans horder
    · exact dispatchStep_moves hok₂ h

theorem dispatchNotificationOutbox_moves {outbox : OutboxRow} (hok : s.Ok)
    (h : dispatchNotificationOutbox outbox s = .ok s') :
    ∃ s₁, (s₁ = s ∨ (s.stepOf s.journey.currentStepCode = none ∧
        s₁ = s.touched s.journey.currentStepCode)) ∧ Moves .command s₁ s' := by
  unfold dispatchNotificationOutbox State.readCurrentJourney at h
  obtain ⟨s₁, step, hread, -, -, hs₁⟩ := upsertStep_pending hok.steps s.journey.currentStepCode
  rw [hread] at h
  refine ⟨s₁, hs₁, ?_⟩
  dsimp only at h
  split at h
  · obtain rfl := Except.ok.inj h
    exact .refl _
  · exact enqueueJob_moves h

/-! ## Signals and decisions -/

/-- A step that was there before the moves is still the current one of its identifier. -/
theorem Moves.current (h : Moves cause s s') (hs' : StepsOk s'.steps) {step step' : Step}
    (hstep : step ∈ s.steps) (hcurrent : Current s' step') (hid : step'.id = step.id) :
    s'.journey.currentStepCode = step.code := by
  obtain ⟨moved, hmoved, hid', hcode⟩ := h.steps step hstep
  have hsame : step' = moved :=
    List.inj_on_of_nodup_map hs'.nodup_ids hcurrent.mem hmoved (hid.trans hid'.symm)
  rw [hcurrent.code, hsame, hcode]

/-- The new version of the facts of the application. -/
theorem Move.observed (s : State) (factVersion : Nat) :
    Move cause s
      { s with application := { s.application with journeyFactVersion := factVersion } } :=
  .quiet s s.jobs s.exceptions factVersion

theorem record_moves {signal : Signal} (hreviewed : signal.isOpsReviewed = false)
    (h : record signal s = .ok s') : Moves cause s s' := by
  unfold record at h
  split at h
  · obtain rfl := Except.ok.inj h
    exact .refl s
  · refine recordSignal_moves (fun hsignal => ?_) h
    rw [hreviewed] at hsignal
    cases hsignal

theorem recordJourneyApplicationFactsChanged_moves {factType : FactType} {actionId : Id}
    (h : recordJourneyApplicationFactsChanged factType actionId s = .ok s') : Moves cause s s' := by
  have hobserved : Move cause s _ := .observed s (s.application.journeyFactVersion + 1)
  exact hobserved.moves.trans (record_moves rfl h)

theorem terminateApplication_moves {outcome : Termination} {actionId : Id} (hok : s.Ok)
    (h : terminateApplication outcome actionId s = .ok s') : Moves cause s s' := by
  have hobserved : Move cause s _ := .observed s (s.application.journeyFactVersion + 1)
  unfold terminateApplication at h
  dsimp only at h
  split at h
  · obtain rfl := Except.ok.inj h
    exact hobserved.moves
  · obtain ⟨-, h⟩ := guard_ok h
    split at h
    · cases h
    · exact hobserved.moves.trans (rejectForApplication_moves (hok.move hobserved) rfl h)

theorem requireManualTask_ok {code : StepCode} {mismatch missing : String} {step : Step}
    {task : ManualTask} (h : requireManualTask code mismatch missing s = .ok (step, task)) :
    s.journey.currentStepCode = code ∧ step ∈ s.steps ∧ step.code = code ∧
      s.openTask? step.id = some task := by
  obtain ⟨hcode, h⟩ := guard_ok h
  split at h
  · cases h
  · rename_i found hfound
    split at h
    · cases h
    · rename_i task' htask
      obtain ⟨rfl, rfl⟩ := Prod.mk.inj (Except.ok.inj h)
      exact ⟨by simpa using hcode, (stepOf_some hfound).1, (stepOf_some hfound).2, htask⟩

theorem decideManualTask_journey {taskId expectedVersion : Nat} {decision : Decision}
    (h : decideManualTask taskId expectedVersion decision s = .ok s') :
    ∃ tasks, s' = { s with tasks := tasks } := by
  obtain ⟨-, h⟩ := check_ok h
  exact ⟨_, (Except.ok.inj h).symm⟩

theorem completeManualDecision_moves {revision : Nat} {payload : StepPayload} (hok : s.Ok)
    (hpayload : ∀ evidence, payload ≠ .evidence evidence)
    (h : completeManualDecision .finalVehicleAllocation revision payload s = .ok s') :
    Moves cause s s' := by
  unfold completeManualDecision at h
  obtain ⟨⟨step, task⟩, hrequire, h⟩ := bind_ok h
  obtain ⟨s₁, hdecide, h⟩ := bind_ok h
  obtain ⟨hcode, -, -, -⟩ := requireManualTask_ok hrequire
  have hdecided : Moves cause s s₁ := decideManualTask_moves hdecide
  have hok₁ := hok.moves hdecided
  obtain ⟨tasks, rfl⟩ := decideManualTask_journey hdecide
  refine hdecided.trans (completeStep_moves hok₁ (fun _ _ _ => ?_) h)
  exact .plain rfl hcode (by decide) (by decide) nofun hpayload

theorem completeFinalPlanAndVehicleAllocation_moves {commercialHash : Hash} {revision : Nat}
    {vehicleId : Id} (hok : s.Ok)
    (hpublished : s.journey.status.terminal = false →
      ∀ e ∈ s.events, ∀ revision hashKey, e.key = .confirmationCompleted revision hashKey →
        revision < s.application.finalPlanRevision)
    (h : completeFinalPlanAndVehicleAllocation commercialHash revision vehicleId s = .ok s') :
    Moves cause s s' := by
  obtain ⟨hcode, h⟩ := guard_ok h
  obtain ⟨-, h⟩ := guard_ok h
  have hcode : s.journey.currentStepCode = .finalPlanDecision := by simpa using hcode
  obtain ⟨⟨planStep, task⟩, hrequire, h⟩ := bind_ok h
  obtain ⟨-, -, -, -⟩ := requireManualTask_ok hrequire
  obtain ⟨s₁, vehicleStep, hupsert, hvehicle, hvehicleCode, hs₁⟩ :=
    upsertStep_pending hok.steps .finalVehicleAllocation
  dsimp only at h
  rw [hupsert] at h
  have htouched : Moves cause s s₁ := by
    rcases hs₁ with rfl | ⟨hnone, rfl⟩
    · exact .refl s₁
    · exact Move.moves (.touch s .finalVehicleAllocation hnone (fun _ heq => nomatch hcode.symm.trans heq.symm))
  have hjourney : s₁.journey = s.journey ∧ s₁.events = s.events ∧ s₁.application = s.application := by
    rcases hs₁ with rfl | ⟨-, rfl⟩ <;> exact ⟨rfl, rfl, rfl⟩
  obtain ⟨s₂, hdecide, hrest⟩ := bind_ok h
  obtain ⟨s₃, hplan, hallocate⟩ := bind_ok hrest
  have hdecided : Moves cause s₁ s₂ := decideManualTask_moves hdecide
  have hok₁ := hok.moves htouched
  have hok₂ := hok₁.moves hdecided
  obtain ⟨tasks, rfl⟩ := decideManualTask_journey hdecide
  have hplanned : Moves cause { s₁ with tasks := tasks } s₃ := by
    refine completeStep_moves hok₂ (fun step hcurrent _ => ?_) hplan
    have hlive : s.journey.status.terminal = false := by
      have hlive₂ := hcurrent.move.live
      change s₁.journey.status.terminal = false at hlive₂
      rwa [hjourney.1] at hlive₂
    have hcode₂ : s₁.journey.currentStepCode = .finalPlanDecision := by rw [hjourney.1, hcode]
    refine ⟨nofun, ?_, nofun, ?_, ?_, nofun, nofun, nofun⟩
    · intro hsignal
      exact absurd (hcode₂ ▸ hsignal) (by decide)
    · intro _ e he
      rw [hjourney.2.2]
      exact hpublished hlive e (hjourney.2.1 ▸ he)
    · intro horder
      cases hcode₂.symm.trans horder
  have hmoves := hdecided.trans hplanned
  have hok₃ := hok₁.moves hmoves
  refine htouched.trans (hmoves.trans
    (completeStep_moves hok₃ (fun step hcurrent hid => ?_) hallocate))
  have hcode₃ := hmoves.current hok₃.steps hvehicle hcurrent hid
  rw [hvehicleCode] at hcode₃
  exact .plain rfl hcode₃ (by decide) (by decide) nofun (by simp)

theorem requireCustomerReconfirmationAfterManualDecision_moves {revision : Nat} {vehicleId : Id}
    (hok : s.Ok)
    (h : requireCustomerReconfirmationAfterManualDecision revision vehicleId s = .ok s') :
    Moves cause s s' := by
  unfold requireCustomerReconfirmationAfterManualDecision at h
  split at h
  · obtain rfl := Except.ok.inj h
    exact .refl s
  · obtain ⟨⟨vehicleStep, task⟩, -, h⟩ := bind_ok h
    obtain ⟨s₁, hdecide, h⟩ := bind_ok h
    have hdecided : Moves cause s s₁ := decideManualTask_moves hdecide
    exact hdecided.trans (returnToCustomerConfirmation_moves (hok.moves hdecided) rfl h)

theorem completeHandoverEvidenceDecision_moves {decision : Decision} {manifestHash : Hash}
    {workOrderId : Id} (hok : s.Ok)
    (h : completeHandoverEvidenceDecision decision manifestHash workOrderId s = .ok s') :
    Moves .review s s' := by
  unfold completeHandoverEvidenceDecision at h
  obtain ⟨⟨step, task⟩, hrequire, h⟩ := bind_ok h
  obtain ⟨hcode, hstep, hstepCode, -⟩ := requireManualTask_ok hrequire
  dsimp only at h
  obtain ⟨-, h⟩ := guard_ok h
  obtain ⟨s₁, hrecord, h⟩ := bind_ok h
  obtain ⟨s₂, hdecide, h⟩ := bind_ok h
  have hrecorded : Moves .review s s₁ := recordSignal_moves (fun _ => ⟨rfl, hcode⟩) hrecord
  have hmoves := hrecorded.trans (decideManualTask_moves hdecide)
  have hok₂ := hok.moves hmoves
  refine hmoves.trans ?_
  split at h
  · refine completeStep_moves hok₂ (fun step' hcurrent hid => ?_) h
    have hcode₂ := hmoves.current hok₂.steps hstep hcurrent hid
    rw [hstepCode] at hcode₂
    refine ⟨fun code hsome => hcode₂.trans (Option.some.inj hsome), ?_, nofun, ?_, ?_, nofun, nofun,
      nofun⟩
    · intro hsignal
      exact absurd (hcode₂ ▸ hsignal) (by decide)
    · intro hplan
      cases hcode₂.symm.trans hplan
    · intro horder
      cases hcode₂.symm.trans horder
  · exact returnToHandoverEvidence_moves hok₂ ⟨_, _, _, rfl⟩ h

/-! ## Job handlers -/

theorem validateApplicationJob_moves {job : Job} {outcome : Outcome} {reasonCodes : List String}
    (hok : s.Ok) (h : validateApplicationJob job outcome reasonCodes s = .ok s') :
    Moves cause s s' := by
  unfold validateApplicationJob at h
  split at h
  · obtain rfl := Except.ok.inj h
    exact .refl s
  · rename_i hcode
    have hcode : s.journey.currentStepCode = .applicationValidation := by simpa using hcode
    obtain ⟨step, -, h⟩ := bind_ok h
    dsimp only at h
    split at h
    · obtain rfl := Except.ok.inj h
      exact .refl s
    · split at h
      · exact waitForManual_moves hok rfl h
      · exact waitForCustomer_moves hok rfl h
      · exact rejectForApplication_moves hok rfl h
      · exact completeStep_moves hok
          (fun _ _ _ => .plain rfl hcode (by decide) (by decide) nofun (by simp)) h

theorem createOrderAndContractJob_moves {job : Job} {bootstrap : Option (Id × Id)} (hok : s.Ok)
    (h : createOrderAndContractJob job bootstrap s = .ok s') : Moves cause s s' := by
  unfold createOrderAndContractJob at h
  dsimp only at h
  split at h
  · split at h
    · obtain rfl := Except.ok.inj h
      exact .refl s
    · cases h
  · rename_i hcurrent
    have hcode : s.journey.currentStepCode = .orderAndContractCreation := by
      by_contra hne
      exact hcurrent (.inl hne)
    obtain ⟨step, -, h⟩ := bind_ok h
    obtain ⟨-, h⟩ := guard_ok h
    split at h
    · exact returnToFinalPlanDecision_moves hok rfl h
    · rename_i orderId contractId _ _
      obtain ⟨s₁, hattach, h⟩ := bind_ok h
      obtain ⟨horder, hattach⟩ := check_ok hattach
      obtain rfl := Except.ok.inj hattach
      have hattached : Move cause s _ := .attach s orderId horder
      refine hattached.moves.trans (completeStep_moves (hok.move hattached) (fun _ _ _ => ?_) h)
      exact .plain rfl hcode (by decide) (by decide) (fun _ => rfl) (by simp)

theorem readBillingJobContext_ok {job : Job} {expected : StepCode} {orderId : Id} {step : Step}
    (h : readBillingJobContext job expected s = .ok (some (orderId, step))) :
    s.journey.currentStepCode = expected := by
  unfold readBillingJobContext at h
  split at h
  · cases h
  · obtain ⟨step', -, h⟩ := bind_ok h
    split at h
    · split at h <;> cases h
    · rename_i hcode
      simpa using hcode

theorem generateInitialBillsJob_moves {job : Job} {billIds : List Id} (hok : s.Ok)
    (h : generateInitialBillsJob job billIds s = .ok s') : Moves cause s s' := by
  unfold generateInitialBillsJob at h
  obtain ⟨context, hcontext, h⟩ := bind_ok h
  split at h
  · obtain rfl := Except.ok.inj h
    exact .refl s
  · have hcode := readBillingJobContext_ok hcontext
    exact completeStep_moves hok
      (fun _ _ _ => .plain rfl hcode (by decide) (by decide) nofun (by simp)) h

theorem evaluatePaymentSettlementJob_moves {job : Job} {remainingAmount : Option Int} (hok : s.Ok)
    (h : evaluatePaymentSettlementJob job remainingAmount s = .ok s') : Moves cause s s' := by
  unfold evaluatePaymentSettlementJob at h
  obtain ⟨context, hcontext, h⟩ := bind_ok h
  split at h
  · obtain rfl := Except.ok.inj h
    exact .refl s
  · have hcode := readBillingJobContext_ok hcontext
    split at h
    · exact completeStep_moves hok
        (fun _ _ _ => .plain rfl hcode (by decide) (by decide) nofun (by simp)) h
    · split at h
      · obtain rfl := Except.ok.inj h
        exact .refl s
      · exact waitForCustomer_moves hok rfl h

theorem activateFromAuthoritativeHandover_moves {result : Activated} (hok : s.Ok)
    (h : activateFromAuthoritativeHandover result s = .ok s') : Moves cause s s' := by
  unfold activateFromAuthoritativeHandover at h
  split at h
  · cases h
  · split at h
    · obtain rfl := Except.ok.inj h
      exact .refl s
    · obtain ⟨hcurrent, h⟩ := guard_ok h
      have hcode : s.journey.currentStepCode = .authoritativeActivation := by
        by_contra hne
        exact hcurrent (.inl hne)
      exact completeActivation_moves hok hcode (by simp) h

theorem activateSubscriptionJob_moves {job : Job} {result : Except (List String) Activated}
    (hok : s.Ok) (h : activateSubscriptionJob job result s = .ok s') : Moves cause s s' := by
  unfold activateSubscriptionJob at h
  split at h
  · cases h
  · obtain ⟨step, -, h⟩ := bind_ok h
    split at h
    · obtain rfl := Except.ok.inj h
      exact .refl s
    · obtain ⟨-, h⟩ := guard_ok h
      obtain ⟨-, h⟩ := guard_ok h
      split at h
      · exact activateFromAuthoritativeHandover_moves hok h
      · exact pauseForOperationalRestriction_moves hok h

theorem startFadadaSigningJob_moves {job : Job} {contractId taskId : Id}
    (h : startFadadaSigningJob job contractId taskId s = .ok s') : Moves cause s s' := by
  obtain ⟨-, h⟩ := guard_ok h
  obtain ⟨step, -, h⟩ := bind_ok h
  obtain ⟨-, h⟩ := guard_ok h
  exact enqueueJob_moves h

theorem updateJob_moves {claim : Job} {data : Job → Job} (h : updateJob claim data s = .ok s') :
    Moves cause s s' := by
  obtain ⟨-, h⟩ := check_ok h
  obtain rfl := Except.ok.inj h
  exact Move.moves (.quiet s _ s.exceptions s.application.journeyFactVersion)

theorem updateJob_steps {claim : Job} {data : Job → Job} (h : updateJob claim data s = .ok s') :
    s'.steps = s.steps := by
  obtain ⟨-, h⟩ := check_ok h
  obtain rfl := Except.ok.inj h
  rfl

theorem deadLetterJob_moves {claim : Job} {error : JourneyFailure} (hok : s.Ok)
    (h : deadLetterJob claim error s = .ok s') : Moves cause s s' := by
  unfold deadLetterJob at h
  obtain ⟨step, hlock, h⟩ := bind_ok h
  obtain ⟨s₁, hupdate, h⟩ := bind_ok h
  have hupdated : Moves cause s s₁ := updateJob_moves hupdate
  refine hupdated.trans (recordLockedException_moves (hok.moves hupdated) ?_ h)
  rw [updateJob_steps hupdate]
  exact (lockJourneyStep_ok hlock).1

theorem recordException_moves {error : JourneyFailure} {jobId : Option Id} {stepId : Id} (hok : s.Ok)
    (h : recordException error jobId stepId s = .ok s') : Moves cause s s' := by
  unfold recordException at h
  obtain ⟨step, hlock, h⟩ := bind_ok h
  exact recordLockedException_moves hok (lockJourneyStep_ok hlock).1 h

/-! ## Decisions of an administrator -/

theorem decideFinalPlan_moves {expectedVersion : Nat} {commercialHash : Hash} {vehicleId : Id}
    (hok : s.Ok) (h : decideFinalPlan expectedVersion commercialHash vehicleId s = .ok s') :
    Moves cause s s' := by
  unfold decideFinalPlan at h
  obtain ⟨_, -, h⟩ := bind_ok h
  obtain ⟨_, hrequire, h⟩ := bind_ok h
  have hcode := requireCurrentStep_ok hrequire
  have hreplanned : Move cause s _ := .replan s (some commercialHash) (.inl hcode)
  refine hreplanned.moves.trans
    (completeFinalPlanAndVehicleAllocation_moves (hok.move hreplanned) ?_ h)
  intro hlive e he revision hashKey hkey
  have hconfirmed := ((hok.keys hlive).confirmed e he revision hashKey hkey).1
  exact Nat.lt_succ_of_le hconfirmed

theorem allocateVehicle_moves {expectedVersion : Nat} {vehicleId : Id} {termsChanged : Bool}
    (hok : s.Ok) (h : allocateVehicle expectedVersion vehicleId termsChanged s = .ok s') :
    Moves cause s s' := by
  unfold allocateVehicle at h
  obtain ⟨_, -, h⟩ := bind_ok h
  obtain ⟨_, hrequire, h⟩ := bind_ok h
  have hcode := requireCurrentStep_ok hrequire
  dsimp only at h
  split at h
  · have hreplanned : Move cause s _ :=
      .replan s s.application.finalPlanCommercialHash (.inr hcode)
    exact hreplanned.moves.trans
      (requireCustomerReconfirmationAfterManualDecision_moves (hok.move hreplanned) h)
  · exact completeManualDecision_moves hok (by simp) h

theorem decideDeliveryEvidence_moves {expectedVersion : Nat} {decision : Decision}
    {manifestHash : Hash} {workOrderId : Id} (hok : s.Ok)
    (h : decideDeliveryEvidence expectedVersion decision manifestHash workOrderId s = .ok s') :
    Moves .review s s' := by
  unfold decideDeliveryEvidence at h
  obtain ⟨_, -, h⟩ := bind_ok h
  obtain ⟨_, -, h⟩ := bind_ok h
  obtain ⟨-, h⟩ := guard_ok h
  exact completeHandoverEvidenceDecision_moves hok h

end SubscriptionSaas.Journey
