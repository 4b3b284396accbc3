import SubscriptionSaas.Journey.Proofs.MovesProofs
import SubscriptionSaas.Lib.Results

/-!
# Operations are moves

Every operation of the repository that succeeds is a sequence of moves. A transition has locked its
step, which is the current one; the row of the step and the journey then take the new status together.
-/

namespace SubscriptionSaas.Journey

open Results

variable {cause : Cause} {s s' : State}

/-! ## Checks -/

theorem lockJourneyStep_ok {stepId : Id} {step : Step} (h : lockJourneyStep stepId s = .ok step) :
    step ∈ s.steps ∧ step.id = stepId := by
  unfold lockJourneyStep at h
  split at h
  · rename_i found hfound
    obtain rfl : found = step := Except.ok.inj h
    exact ⟨List.mem_of_find?_eq_some hfound, by simpa using List.find?_some hfound⟩
  · cases h

theorem readStep_ok {stepId : Id} (h : readStep stepId s = .ok s') : s' = s := by
  unfold readStep at h
  split at h
  · exact (Except.ok.inj h).symm
  · cases h

theorem stepOf_some {code : StepCode} {step : Step} (h : s.stepOf code = some step) :
    step ∈ s.steps ∧ step.code = code :=
  ⟨List.mem_of_find?_eq_some h, by simpa using List.find?_some h⟩

/-- The step of a transition is the current one, and can make the transition. -/
structure Current (s : State) (step : Step) : Prop where
  mem : step ∈ s.steps
  code : s.journey.currentStepCode = step.code
  move : s.course.CanMove

theorem validateCurrentStep_ok (hs : StepsOk s.steps) {step : Step} {expectedVersion : Nat}
    (hstep : step ∈ s.steps) (h : validateCurrentStep step expectedVersion s = .ok ()) :
    s.journey.version = expectedVersion ∧ Current s step := by
  obtain ⟨hversion, h⟩ := guard_ok h
  obtain ⟨hcan, -⟩ := check_ok h
  unfold canTransition at hcan
  simp only [Bool.and_eq_true, Bool.not_eq_true', beq_iff_eq, bne_iff_ne] at hcan
  obtain ⟨⟨⟨⟨hlive, hpaused⟩, hcode⟩, hstatus⟩, hopen⟩ := hcan
  refine ⟨by simpa using hversion, hstep, hcode, hlive, hpaused, ?_, ?_⟩
  · show s.journey.currentStepStatus.open = true
    rw [hstatus]
    exact hopen
  · show (s.steps.find? (·.code == s.journey.currentStepCode)).map (·.status) = _
    rw [hcode, hs.find_code hstep]
    exact congrArg some hstatus.symm

/-! ## Rows -/

/-- The list after `setStatus`. -/
abbrev setStatus (steps : List Step) (stepId : Id) (status : StepStatus) : List Step :=
  steps.map fun step => if step.id == stepId then { step with status := status } else step

theorem setStatus_map (steps : List Step) (stepId : Id) (status : StepStatus) :
    (setStatus steps stepId status).map (fun step => (step.id, step.code)) =
      steps.map fun step => (step.id, step.code) := by
  rw [List.map_map]
  refine List.map_congr_left fun step _ => ?_
  simp only [Function.comp_def]
  split <;> rfl

theorem rowsOf_setStatus {steps : List Step} (hs : StepsOk steps) {step : Step} (hstep : step ∈ steps)
    (status : StepStatus) :
    rowsOf (setStatus steps step.id status) =
      Function.update (rowsOf steps) step.code (some status) := by
  funext code
  have hf : ∀ step' : Step,
      (if step'.id == step.id then { step' with status := status } else step').code = step'.code := by
    intro step'
    split <;> rfl
  rw [rowsOf_map hf]
  by_cases hcode : code = step.code
  · subst hcode
    rw [Function.update_self, hs.find_code hstep]
    simp
  · rw [Function.update_of_ne hcode, rowsOf]
    rcases hfind : steps.find? (·.code == code) with _ | found
    · rw [hfind]
      rfl
    · -- another code is another row
      rw [hfind]
      have hfound : found.code = code := by simpa using List.find?_some hfind
      have hne : found.id ≠ step.id := by
        intro hid
        have hmem := List.mem_of_find?_eq_some hfind
        rw [List.inj_on_of_nodup_map hs.nodup_ids hmem hstep hid] at hfound
        exact hcode hfound.symm
      simp [hne]

/-! ## Events -/

theorem writeEventAndOutbox_ok {sequence : Nat} {key : EventKey} {eventType : EventType}
    {payload : Payload} (h : s.writeEventAndOutbox sequence key eventType payload = .ok s') :
    (∀ e ∈ s.events, e.key ≠ key) ∧
      s' = State.writeOutbox { s with events := s.events ++ [⟨sequence, key, eventType, payload⟩] }
        (.event key) eventType payload := by
  obtain ⟨hfresh, h⟩ := guard_ok h
  refine ⟨?_, (Except.ok.inj h).symm⟩
  intro e he hkey
  refine hfresh (List.any_eq_true.2 ⟨e, he, ?_⟩)
  simp [hkey]

theorem updateJourneyVersion_ok {expectedVersion : Nat} {data : JourneyRow → JourneyRow}
    (h : s.updateJourneyVersion expectedVersion data = .ok s') :
    s.journey.version = expectedVersion ∧
      s' = { s with journey := { data s.journey with version := s.journey.version + 1 } } := by
  obtain ⟨hversion, h⟩ := check_ok h
  exact ⟨hversion, (Except.ok.inj h).symm⟩

theorem event?_none {key : EventKey} (h : s.event? key = none) : ∀ e ∈ s.events, e.key ≠ key := by
  intro e he hkey
  exact absurd (List.find?_eq_none.1 h e he) (by simp [hkey])

/-- The keys with which a signal completes its step. -/
def EventKey.completes : EventKey → Bool
  | .confirmationCompleted .. | .archived _ | .handoverReady _ => true
  | _ => false

/-- An event that completes no step. -/
theorem Written.other {event : JourneyEvent} {course : Course}
    (hsequence : event.sequence = s.journey.version + 1) (hfresh : ∀ e ∈ s.events, e.key ≠ event.key)
    (htype : event.eventType ≠ .stepCompleted) (hpayload : event.payload.evidence? = none)
    (hcompletes : event.key.completes = false)
    (hat : ∀ code, event.key.stepCode = some code → s.journey.currentStepCode = code)
    (hadvanced : s.journey.currentStepCode.index < course.code.index →
      s.journey.currentStepCode = .finalVehicleAllocation)
    (hwaiting : ∀ code, event.key = .waitingManual code →
      ∃ task ∈ s.tasks, manualTaskTypeFor code = some task.taskType)
    (hreviewed : ∀ workOrderId decision hashKey,
      event.key = .opsReviewed workOrderId decision hashKey → cause = .review)
    (hdecided : ∀ workOrderId hashKey decision,
      event.key = .evidenceDecided workOrderId hashKey decision → event.payload.rejects = true)
    (hrejects : s.journey.currentStepCode = .deliveryEvidenceDecision →
      course.code = .handoverAndStage2Creation → event.payload.rejects = true)
    (hreturns : s.journey.currentStepCode = .orderAndContractCreation →
      course.code = .finalPlanDecision → s.journey.orderId = none) :
    Written cause s event course where
  sequence := hsequence
  fresh := hfresh
  atStep := hat
  completed := fun h => absurd h htype
  advanced := fun hlt => .inr (hadvanced hlt)
  completing := by
    intro revision hashKey contractId hkey
    rcases hkey with hkey | hkey | hkey
    · rcases hevent : event.key <;> rw [hevent] at hkey hcompletes <;>
        first | exact Bool.noConfusion hkey | exact Bool.noConfusion hcompletes
    · rw [hkey] at hcompletes
      cases hcompletes
    · rw [hkey] at hcompletes
      cases hcompletes
  signalled := fun h => absurd h htype
  revision := by
    intro revision hashKey hkey
    rw [hkey] at hcompletes
    cases hcompletes
  published := fun h => absurd h htype
  ordered := fun h => absurd h htype
  evidence := by
    intro h
    rw [hpayload] at h
    cases h
  waiting := hwaiting
  reviewed := hreviewed
  decided := by
    intro workOrderId hashKey decision hkey hnot
    rw [hdecided workOrderId hashKey decision hkey] at hnot
    cases hnot
  rejects := hrejects
  returns := hreturns

/-- An event under a key that names no step. -/
theorem Written.plain {event : JourneyEvent} {course : Course}
    (hsequence : event.sequence = s.journey.version + 1) (hfresh : ∀ e ∈ s.events, e.key ≠ event.key)
    (htype : event.eventType ≠ .stepCompleted) (hpayload : event.payload.evidence? = none)
    (hkey : event.key.stepCode = none)
    (hadvanced : s.journey.currentStepCode.index < course.code.index →
      s.journey.currentStepCode = .finalVehicleAllocation)
    (hrejects : s.journey.currentStepCode = .deliveryEvidenceDecision →
      course.code = .handoverAndStage2Creation → event.payload.rejects = true)
    (hreturns : s.journey.currentStepCode = .orderAndContractCreation →
      course.code = .finalPlanDecision → s.journey.orderId = none) :
    Written cause s event course := by
  refine .other hsequence hfresh htype hpayload ?_ ?_ hadvanced ?_ ?_ ?_ hrejects hreturns
  · rcases hevent : event.key <;> rw [hevent] at hkey <;> first | rfl | exact nomatch hkey
  · intro code h
    rw [hkey] at h
    cases h
  · intro code h
    rw [h] at hkey
    cases hkey
  · intro workOrderId decision hashKey h
    rw [h] at hkey
    cases hkey
  · intro workOrderId hashKey decision h
    rw [h] at hkey
    cases hkey

/-- The event of a journey that stays where it is. -/
theorem Written.still {event : JourneyEvent} {course : Course}
    (hsequence : event.sequence = s.journey.version + 1) (hfresh : ∀ e ∈ s.events, e.key ≠ event.key)
    (htype : event.eventType ≠ .stepCompleted) (hpayload : event.payload.evidence? = none)
    (hkey : event.key.stepCode = none) (hcode : course.code = s.journey.currentStepCode) :
    Written cause s event course := by
  refine .plain hsequence hfresh htype hpayload hkey ?_ ?_ ?_ <;> rw [hcode]
  · exact fun hlt => absurd hlt (Nat.lt_irrefl _)
  · intro hdelivery hhandover
    rw [hdelivery] at hhandover
    cases hhandover
  · intro horder hplan
    rw [horder] at hplan
    cases hplan

/-! ## Transitions -/

theorem followingStep_eq {step : Step} (hcode : s.journey.currentStepCode = step.code) :
    followingStep step s = s.course.next := by
  have hrow : s.course.rows .finalVehicleAllocation =
      (s.stepOf .finalVehicleAllocation).map (·.status) := rfl
  unfold followingStep Course.next
  rw [hrow, show s.course.code = step.code from hcode]
  rcases hvehicle : s.stepOf .finalVehicleAllocation with _ | vehicleStep
  · split <;> simp_all
  · have hcode' := (stepOf_some hvehicle).2
    split <;> simp_all

/-- Where the completion is written, and by what. -/
structure MayComplete (cause : Cause) (s : State) (key : EventKey) (payload : StepPayload) : Prop where
  atStep : ∀ code, key.stepCode = some code → s.journey.currentStepCode = code
  signalled : s.journey.currentStepCode ∈ signalSteps → ∃ signal version,
    cause = .row (.signal signal version) ∧
      signal.completion = some (s.journey.currentStepCode, key, payload)
  revision : ∀ revision hashKey, key = .confirmationCompleted revision hashKey →
    revision = s.application.finalPlanRevision
  published : s.journey.currentStepCode = .finalPlanDecision →
    ∀ e ∈ s.events, ∀ revision hashKey, e.key = .confirmationCompleted revision hashKey →
      revision < s.application.finalPlanRevision
  ordered : s.journey.currentStepCode = .orderAndContractCreation → s.journey.orderId.isSome
  evidence : ∀ evidence, payload = .evidence evidence → key.isReady
  waiting : ∀ code, key ≠ .waitingManual code
  reviewed : ∀ workOrderId decision hashKey, key ≠ .opsReviewed workOrderId decision hashKey

/-- A completion at a known step under a key that names no step. -/
theorem MayComplete.plain {key : EventKey} {payload : StepPayload} (hkey : key.stepCode = none)
    {code : StepCode} (hcode : s.journey.currentStepCode = code) (hsignal : code ∉ signalSteps)
    (hplan : code ≠ .finalPlanDecision)
    (hordered : code = .orderAndContractCreation → s.journey.orderId.isSome)
    (hpayload : ∀ evidence, payload ≠ .evidence evidence) : MayComplete cause s key payload where
  atStep := by
    intro code' hsome
    rw [hkey] at hsome
    cases hsome
  signalled := fun hmem => absurd (hcode ▸ hmem) hsignal
  revision := by
    intro revision hashKey heq
    rw [heq] at hkey
    cases hkey
  published := fun hcode' => absurd (hcode.symm.trans hcode') hplan
  ordered := fun hcode' => hordered (hcode.symm.trans hcode')
  evidence := fun evidence heq => absurd heq (hpayload evidence)
  waiting := by
    intro code' heq
    rw [heq] at hkey
    cases hkey
  reviewed := by
    intro workOrderId decision hashKey heq
    rw [heq] at hkey
    cases hkey

theorem Course.Ok.complete_code {c : Course} (h : c.Ok) (hmove : c.CanMove) (code : StepCode)
    (hnext : nextStep c.code .completed = some code) : c.complete.code = code := by
  have heq : c.next = some code := (h.next_eq hmove.live).trans hnext
  simp [Course.complete, heq]

theorem Written.complete (stepId : Id) {key : EventKey} {payload : StepPayload} (hok : s.course.Ok)
    (hmove : s.course.CanMove) (hmay : MayComplete cause s key payload)
    (hfresh : ∀ e ∈ s.events, e.key ≠ key) :
    Written cause s ⟨s.journey.version + 1, key, .stepCompleted,
      .transition .completeStep stepId payload⟩ s.course.complete where
  sequence := rfl
  fresh := hfresh
  atStep := hmay.atStep
  completed := fun _ => ⟨hmove, rfl⟩
  advanced := fun _ => .inl rfl
  completing := fun _ _ _ _ => rfl
  signalled := by
    intro _ hsignal
    obtain ⟨signal, version, hcause, hcompletion⟩ := hmay.signalled hsignal
    exact ⟨signal, version, hcause, key, stepId, payload, hcompletion, rfl, rfl⟩
  revision := hmay.revision
  published := fun _ => hmay.published
  ordered := fun _ => hmay.ordered
  evidence := by
    intro hevidence
    rcases payload with _ | _ | _ | _ | _ | _ | _ | _ | _ | _ | _ | _ | evidence | _ | _ <;>
      first | exact hmay.evidence evidence rfl | cases hevidence
  waiting := fun code hkey => absurd hkey (hmay.waiting code)
  reviewed := fun workOrderId decision hashKey hkey =>
    absurd hkey (hmay.reviewed workOrderId decision hashKey)
  decided := by
    intro workOrderId hashKey decision hkey _
    have hcode : s.course.code = .deliveryEvidenceDecision :=
      hmay.atStep _ (by rw [show key = _ from hkey]; rfl)
    rw [hok.complete_code hmove .authoritativeActivation (by rw [hcode]; rfl)]
    decide
  rejects := by
    intro hdelivery hhandover
    have hcode : s.course.code = .deliveryEvidenceDecision := hdelivery
    rw [hok.complete_code hmove .authoritativeActivation (by rw [hcode]; rfl)] at hhandover
    cases hhandover
  returns := by
    intro horder hplan
    have hcode : s.course.code = .orderAndContractCreation := horder
    rw [hok.complete_code hmove .fadadaSigningAndArchive (by rw [hcode]; rfl)] at hplan
    cases hplan

/-- The exceptions of a step are resolved. -/
theorem Move.resolve (s : State) (stepId : Id) : Move cause s (s.resolveStepExceptions stepId) :=
  .quiet s s.jobs _ s.application.journeyFactVersion

theorem Written.resolve {event : JourneyEvent} {course : Course} (h : Written cause s event course)
    (stepId : Id) : Written cause (s.resolveStepExceptions stepId) event course :=
  ⟨h.sequence, h.fresh, h.atStep, h.completed, h.advanced, h.completing, h.signalled, h.revision,
    h.published, h.ordered, h.evidence, h.waiting, h.reviewed, h.decided, h.rejects, h.returns⟩

theorem completeStep_moves {key : EventKey} {expectedVersion : Nat} {stepId : Id}
    {payload : StepPayload} {factVersion : Option Nat} (hok : s.Ok)
    (hmay : ∀ step, Current s step → step.id = stepId → MayComplete cause s key payload)
    (h : completeStep key expectedVersion stepId payload factVersion s = .ok s') :
    Moves cause s s' := by
  unfold completeStep at h
  split at h
  · obtain ⟨_, -, h⟩ := bind_ok h
    rw [readStep_ok h]
    exact (Move.resolve s stepId).moves
  · rename_i hnone
    obtain ⟨step, hlock, h⟩ := bind_ok h
    obtain ⟨_, hvalid, h⟩ := bind_ok h
    obtain ⟨s₁, hadvance, h⟩ := bind_ok h
    obtain ⟨hstep, rfl⟩ := lockJourneyStep_ok hlock
    obtain ⟨rfl, hcurrent⟩ := validateCurrentStep_ok hok.steps hstep hvalid
    rw [advanceJourney] at hadvance
    obtain ⟨-, rfl⟩ := updateJourneyVersion_ok hadvance
    obtain ⟨-, rfl⟩ := writeEventAndOutbox_ok h
    -- the exceptions are resolved first
    refine ((Moves.refl s).tail (.resolve s step.id)).tail ?_
    have hnext := followingStep_eq hcurrent.code
    have hcourse : courseOf
        { s.journey with
          currentStepCode := (followingStep step s).getD step.code
          currentStepStatus := if (followingStep step s).isSome then .pending else .completed
          lastApplicationFactVersion := factVersion.getD s.journey.lastApplicationFactVersion
          status := if (followingStep step s).isSome then .running else .completed
          version := s.journey.version + 1 } (setStatus s.steps step.id .completed) =
        s.course.complete := by
      rw [courseOf, rowsOf_setStatus hok.steps hstep, hnext, ← hcurrent.code]
      rfl
    refine .write _ _ (setStatus s.steps step.id .completed) _ rfl rfl (setStatus_map ..) ?_ ?_
    · exact hcourse ▸ .complete hcurrent.move
    · have hwritten := Written.complete step.id hok.course hcurrent.move
        (hmay step hcurrent rfl) (event?_none hnone)
      exact hcourse ▸ hwritten.resolve step.id

/-- The journey and the row of its current step take a new status together. -/
theorem courseOf_setStatus (hs : StepsOk s.steps) {step : Step} (hcurrent : Current s step)
    (journey : JourneyRow) (stepStatus : StepStatus) (hcode : journey.currentStepCode = step.code)
    (hstatus : journey.currentStepStatus = stepStatus)
    (hpaused : journey.pausedFromStatus = s.journey.pausedFromStatus) :
    courseOf journey (setStatus s.steps step.id stepStatus) =
      s.course.stand s.course.code stepStatus journey.status := by
  have hcode' : s.course.code = step.code := hcurrent.code
  rw [courseOf, rowsOf_setStatus hs hcurrent.mem, Course.stand, hcode', hcode, hstatus, hpaused]
  rfl

theorem waitFor_moves {operation : Operation} {eventType : EventType} {stepStatus : StepStatus}
    {status : JourneyStatus} {key : EventKey} {expectedVersion : Nat} {stepId : Id}
    {payload : StepPayload} {factVersion : Option Nat} (hok : s.Ok) (hkey : key.stepCode = none)
    (htype : eventType ≠ .stepCompleted) (hoperation : operation ≠ .completeStep)
    (hwait : s.course.CanMove → s.course.Step (s.course.stand s.course.code stepStatus status))
    (h : waitFor operation eventType stepStatus status key expectedVersion stepId payload factVersion s
      = .ok s') : Moves cause s s' := by
  unfold waitFor at h
  split at h
  · obtain ⟨_, -, h⟩ := bind_ok h
    rw [readStep_ok h]
    exact .refl s
  · rename_i hnone
    obtain ⟨step, hlock, h⟩ := bind_ok h
    obtain ⟨_, hvalid, h⟩ := bind_ok h
    obtain ⟨s₁, hupdate, h⟩ := bind_ok h
    obtain ⟨hstep, rfl⟩ := lockJourneyStep_ok hlock
    obtain ⟨rfl, hcurrent⟩ := validateCurrentStep_ok hok.steps hstep hvalid
    obtain ⟨-, rfl⟩ := updateJourneyVersion_ok hupdate
    obtain ⟨-, rfl⟩ := writeEventAndOutbox_ok h
    have hcourse := courseOf_setStatus hok.steps hcurrent
      { s.journey with
        currentStepCode := step.code
        currentStepStatus := stepStatus
        lastApplicationFactVersion := factVersion.getD s.journey.lastApplicationFactVersion
        status := status
        version := s.journey.version + 1 } stepStatus rfl rfl rfl
    refine Move.moves (.write s _ (setStatus s.steps step.id stepStatus) _ rfl rfl
      (setStatus_map ..) ?_ ?_)
    · exact hcourse ▸ hwait hcurrent.move
    · have hpayload : (Payload.transition operation step.id payload).evidence? = none := by
        cases operation <;> first | rfl | exact absurd rfl hoperation
      exact .still rfl (event?_none hnone) htype hpayload hkey hcurrent.code.symm

theorem waitForCustomer_moves {key : EventKey} {expectedVersion : Nat} {stepId : Id}
    {payload : StepPayload} {factVersion : Option Nat} (hok : s.Ok) (hkey : key.stepCode = none)
    (h : waitForCustomer key expectedVersion stepId payload factVersion s = .ok s') :
    Moves cause s s' := by
  unfold waitForCustomer at h
  exact waitFor_moves hok hkey (by decide) (by decide) .waitCustomer h

theorem waitForManual_moves {key : EventKey} {expectedVersion : Nat} {stepId : Id}
    {payload : StepPayload} {factVersion : Nat} (hok : s.Ok) (hkey : key.stepCode = none)
    (h : waitForManual key expectedVersion stepId payload factVersion s = .ok s') :
    Moves cause s s' := by
  unfold waitForManual at h
  exact waitFor_moves hok hkey (by decide) (by decide) .waitManual h

/-- The list after `cancelWork`. -/
abbrev cancelSteps (steps : List Step) : List Step :=
  steps.map fun step =>
    if step.status != .completed && step.status != .cancelled then
      { step with status := .cancelled }
    else step

theorem rowsOf_cancelSteps (steps : List Step) :
    rowsOf (cancelSteps steps) = fun code => (rowsOf steps code).map fun status =>
      if status = .completed then .completed else .cancelled := by
  funext code
  rw [rowsOf_map (by intro step; split <;> rfl), rowsOf, Option.map_map]
  refine congrArg (fun f => Option.map f _) (funext fun step => ?_)
  rcases hstatus : step.status <;> simp [hstatus]

theorem cancelSteps_map (steps : List Step) :
    (cancelSteps steps).map (fun step => (step.id, step.code)) =
      steps.map fun step => (step.id, step.code) := by
  rw [List.map_map]
  refine List.map_congr_left fun step _ => ?_
  simp only [Function.comp_def]
  split <;> rfl

theorem rejectForApplication_moves {activeJobId : Option Id} {key : EventKey} {expectedVersion : Nat}
    {stepId : Id} {payload : StepPayload} {factVersion : Nat} (hok : s.Ok)
    (hkey : key.stepCode = none)
    (h : rejectForApplication activeJobId key expectedVersion stepId payload factVersion s = .ok s') :
    Moves cause s s' := by
  unfold rejectForApplication at h
  split at h
  · obtain ⟨_, -, h⟩ := bind_ok h
    rw [readStep_ok h]
    exact .refl s
  · rename_i hnone
    obtain ⟨step, hlock, h⟩ := bind_ok h
    obtain ⟨_, hvalid, h⟩ := bind_ok h
    obtain ⟨s₁, hupdate, h⟩ := bind_ok h
    obtain ⟨hstep, rfl⟩ := lockJourneyStep_ok hlock
    obtain ⟨rfl, hcurrent⟩ := validateCurrentStep_ok hok.steps hstep hvalid
    obtain ⟨-, rfl⟩ := updateJourneyVersion_ok hupdate
    obtain ⟨-, rfl⟩ := writeEventAndOutbox_ok h
    -- the row of the step is cancelled first, and the other rows after it
    have hrows : rowsOf (cancelSteps (setStatus s.steps step.id .cancelled)) =
        s.course.cancel.rows := by
      rw [rowsOf_cancelSteps, rowsOf_setStatus hok.steps hstep]
      funext code
      show _ = (rowsOf s.steps code).map _
      by_cases hcode : code = step.code
      · have hrow : rowsOf s.steps step.code = some s.journey.currentStepStatus := by
          rw [← hcurrent.code]
          exact hcurrent.move.row
        have hne : s.journey.currentStepStatus ≠ .completed := by
          intro hcompleted
          have hopen : s.journey.currentStepStatus.open = true := hcurrent.move.isOpen
          rw [hcompleted] at hopen
          cases hopen
        rw [hcode, Function.update_self, hrow]
        simp [hne]
      · rw [Function.update_of_ne hcode]
    have hcourse : courseOf
        { s.journey with
          currentStepStatus := .cancelled
          lastApplicationFactVersion := factVersion
          status := .cancelled
          version := s.journey.version + 1 } (cancelSteps (setStatus s.steps step.id .cancelled)) =
        s.course.cancel := by
      rw [courseOf, hrows]
      rfl
    refine Move.moves (.cancel s _ (cancelSteps (setStatus s.steps step.id .cancelled)) _ _ rfl rfl
      ((cancelSteps_map _).trans (setStatus_map ..)) hcurrent.move.live hcourse ?_)
    exact .still rfl (event?_none hnone) (by simp) rfl hkey rfl

theorem enqueueJob_moves {jobType : JobType} {payload : JobPayload} {sourceKey : JobKey} {stepId : Id}
    {maxAttempts : Nat} {availableAt : Int}
    (h : enqueueJob jobType payload sourceKey stepId maxAttempts availableAt s = .ok s') :
    Moves cause s s' := by
  unfold enqueueJob at h
  split at h
  · obtain ⟨-, h⟩ := check_ok h
    obtain rfl := Except.ok.inj h
    exact .refl s
  · obtain rfl := Except.ok.inj h
    exact Move.moves (.quiet s _ s.exceptions s.application.journeyFactVersion)

theorem decideManualTask_moves {taskId expectedVersion : Nat} {decision : Decision}
    (h : decideManualTask taskId expectedVersion decision s = .ok s') : Moves cause s s' := by
  obtain ⟨-, h⟩ := check_ok h
  obtain rfl := Except.ok.inj h
  exact Move.moves (.decide s taskId expectedVersion decision)

/-! ## Manual tasks -/

theorem createManualTask_ok {stepId : Id} {taskType : TaskType} {input : TaskInput} {task : ManualTask}
    (h : s.createManualTask stepId taskType input = .ok (s', task)) :
    (∀ task ∈ s.tasks, task.status = .open → task.taskType ≠ taskType) ∧
      task = ⟨s.tasks.length, stepId, taskType, .open, none, input, 0⟩ ∧
        s' = { s with tasks := s.tasks ++ [task] } := by
  obtain ⟨hfree, h⟩ := guard_ok h
  obtain ⟨rfl, rfl⟩ := Prod.mk.inj (Except.ok.inj h)
  refine ⟨?_, rfl, rfl⟩
  intro task htask hopen htype
  exact hfree (List.any_eq_true.2 ⟨task, htask, by simp [hopen, htype]⟩)

theorem createOpenTask_moves {stepId : Id} {taskType : TaskType} {input : TaskInput} {step : Step}
    (hok : s.Ok) (hcurrent : Current s step) (hid : step.id = stepId)
    (htype : manualTaskTypeFor step.code = some taskType)
    (hevidence : taskType = .deliveryEvidenceDecision →
      s.journey.currentStepCode = .deliveryEvidenceDecision ∧ ∃ payload, cause = .row payload ∧
        payload.evidence?.isSome ∧ input.evidence = payload.evidence?)
    (h : createOpenTask stepId taskType input step s = .ok s') : Moves cause s s' := by
  subst hid
  unfold createOpenTask at h
  obtain ⟨⟨s₁, task⟩, hcreate, h⟩ := bind_ok h
  obtain ⟨s₂, hupdate, h⟩ := bind_ok h
  obtain ⟨hfree, rfl, rfl⟩ := createManualTask_ok hcreate
  obtain ⟨-, rfl⟩ := updateJourneyVersion_ok hupdate
  obtain ⟨hfresh, rfl⟩ := writeEventAndOutbox_ok h
  refine ((Moves.refl s).tail (.openTask s step taskType input hcurrent.mem htype hfree
    hevidence)).tail ?_
  have hcourse := courseOf_setStatus hok.steps hcurrent
    { s.journey with
      currentStepCode := step.code
      currentStepStatus := .waitingManual
      status := .waitingManual
      version := s.journey.version + 1 } .waitingManual rfl rfl rfl
  refine .write _ _ (setStatus s.steps step.id .waitingManual) _ rfl rfl (setStatus_map ..) ?_ ?_
  · exact hcourse ▸ .waitManual hcurrent.move
  · refine .other rfl hfresh (by simp) rfl rfl ?_ ?_ ?_ nofun nofun ?_ ?_
    · exact fun code hcode => hcurrent.code.trans (Option.some.inj hcode)
    · intro hlt
      exact absurd (hcurrent.code ▸ hlt) (Nat.lt_irrefl _)
    · intro code hcode
      obtain rfl : step.code = code := EventKey.waitingManual.inj hcode
      exact ⟨_, List.mem_append_right _ (List.mem_singleton_self _), htype⟩
    · intro hdelivery hhandover
      cases hdelivery.symm.trans (hcurrent.code.trans hhandover)
    · intro horder hplan
      cases horder.symm.trans (hcurrent.code.trans hplan)

theorem openManualTask_moves {stepId : Id} {input : TaskInput} (hok : s.Ok)
    (hevidence : s.journey.currentStepCode = .deliveryEvidenceDecision →
      ∃ payload, cause = .row payload ∧ payload.evidence?.isSome ∧
        input.evidence = payload.evidence?)
    (h : openManualTask stepId input s = .ok s') : Moves cause s s' := by
  unfold openManualTask at h
  obtain ⟨step, hlock, h⟩ := bind_ok h
  obtain ⟨_, hvalid, h⟩ := bind_ok h
  obtain ⟨hstep, hid⟩ := lockJourneyStep_ok hlock
  obtain ⟨-, hcurrent⟩ := validateCurrentStep_ok hok.steps hstep hvalid
  split at h
  · cases h
  · rename_i taskType htype
    split at h
    · obtain rfl := Except.ok.inj h
      exact .refl s
    · split at h
      · cases h
      · refine createOpenTask_moves hok hcurrent hid htype (fun hdelivery => ?_) h
        have hcode : s.journey.currentStepCode = .deliveryEvidenceDecision := by
          rw [hcurrent.code]
          rw [hdelivery] at htype
          revert htype
          cases step.code <;> first | exact fun _ => rfl | exact nofun
        exact ⟨hcode, hevidence hcode⟩

/-! ## Returns -/

/-- A step is created in a status, or updated to it: first the row is created, where there is none. -/
theorem upsertStep_touch (cause : Cause) (hok : s.Ok) (code : StepCode) (status : StepStatus)
    (hcancelled : s.journey.status = .cancelled → code ≠ s.journey.currentStepCode) :
    ∃ s₁ step, Moves cause s s₁ ∧ step ∈ s₁.steps ∧ step.code = code ∧
      (∃ steps, s₁ = { s with steps := steps } ∧ ∀ step ∈ s.steps, step ∈ steps) ∧
        ∃ row, s.upsertStep code status (fun _ => status) = (s₁.setStatus step.id status, row) ∧
          row.id = step.id := by
  unfold State.upsertStep
  split
  · rename_i step hstep
    obtain ⟨hmem, hcode⟩ := stepOf_some hstep
    exact ⟨s, step, .refl s, hmem, hcode, ⟨s.steps, rfl, fun _ h => h⟩, _, rfl, rfl⟩
  · rename_i hnone
    refine ⟨_, ⟨s.steps.length, code, .pending⟩, Move.moves (.touch s code hnone hcancelled),
      List.mem_append_right _ (List.mem_singleton_self _), rfl,
      ⟨_, rfl, fun _ h => List.mem_append_left _ h⟩, ⟨s.steps.length, code, status⟩, ?_, rfl⟩
    -- no other row has the identifier of the new one
    have hother : s.steps.map (fun step =>
        if step.id == s.steps.length then { step with status := status } else step) = s.steps := by
      conv_rhs => rw [← List.map_id s.steps]
      refine List.map_congr_left fun step hstep => if_neg ?_
      have hlt : step.id ∈ List.range s.steps.length := hok.steps.ids ▸ List.mem_map_of_mem hstep
      rw [beq_iff_eq]
      exact Nat.ne_of_lt (List.mem_range.1 hlt)
    refine Prod.ext ?_ rfl
    show _ = ({ s with steps := s.steps ++ [_] } : State).setStatus _ _
    unfold State.setStatus
    dsimp only
    rw [List.map_append, hother]
    simp

/-- The current step stays the current one when rows of other steps are created. -/
theorem Current.steps {step : Step} (h : Current s step) (hs : StepsOk s.steps) {steps : List Step}
    (hs' : StepsOk steps) (hmem : step ∈ steps) : Current { s with steps := steps } step := by
  refine ⟨hmem, h.code, h.move.live, h.move.notPaused, h.move.isOpen, ?_⟩
  have hrow : (s.steps.find? (·.code == s.journey.currentStepCode)).map (·.status) =
      some s.journey.currentStepStatus := h.move.row
  rw [h.code, hs.find_code h.mem] at hrow
  show (steps.find? (·.code == s.journey.currentStepCode)).map (·.status) = _
  rw [h.code, hs'.find_code hmem]
  exact hrow

/-- Two rows take a status each. -/
theorem rowsOf_setStatus_two {steps : List Step} (hs : StepsOk steps) {first second : Step}
    (hfirst : first ∈ steps) (hsecond : second ∈ steps) (hne : first.code ≠ second.code)
    (status status' : StepStatus) :
    rowsOf (setStatus (setStatus steps first.id status) second.id status') =
      Function.update (Function.update (rowsOf steps) second.code (some status')) first.code
        (some status) := by
  have hid : second.id ≠ first.id := by
    intro hid
    exact hne (congrArg Step.code (List.inj_on_of_nodup_map hs.nodup_ids hsecond hfirst hid)).symm
  have hmem : second ∈ setStatus steps first.id status :=
    List.mem_map.2 ⟨second, hsecond, if_neg (by simpa using hid)⟩
  rw [rowsOf_setStatus (hs.of_map (setStatus_map ..)) hmem, rowsOf_setStatus hs hfirst,
    Function.update_comm hne]

theorem returnToCustomerConfirmation_moves {key : EventKey} {expectedVersion : Nat}
    {payload : StepPayload} {vehicleStepId : Id} (hok : s.Ok) (hkey : key.stepCode = none)
    (h : returnToCustomerConfirmation key expectedVersion payload vehicleStepId s = .ok s') :
    Moves cause s s' := by
  unfold returnToCustomerConfirmation at h
  split at h
  · obtain ⟨_, -, h⟩ := bind_ok h
    split at h
    · obtain rfl := Except.ok.inj h
      exact .refl s
    · cases h
  · rename_i hnone
    obtain ⟨step, hlock, h⟩ := bind_ok h
    obtain ⟨_, hvalid, h⟩ := bind_ok h
    obtain ⟨hstep, rfl⟩ := lockJourneyStep_ok hlock
    obtain ⟨rfl, hcurrent⟩ := validateCurrentStep_ok hok.steps hstep hvalid
    obtain ⟨hcode, h⟩ := guard_ok h
    have hvehicle : step.code = .finalVehicleAllocation := by simpa using hcode
    obtain ⟨s₁, customerStep, hmoves, hmem, hcustomer, ⟨steps, rfl, hsub⟩, row, hupsert, -⟩ :=
      upsertStep_touch cause hok .customerPlanConfirmation .waitingCustomer (by
        intro hcancelled
        have hlive := hcurrent.move.live
        rw [show s.course.status = _ from hcancelled] at hlive
        cases hlive)
    rw [hupsert] at h
    obtain ⟨s₂, hupdate, h⟩ := bind_ok h
    obtain ⟨-, rfl⟩ := updateJourneyVersion_ok hupdate
    obtain ⟨hfresh, rfl⟩ := writeEventAndOutbox_ok h
    have hok₁ := hok.moves hmoves
    have hcurrent₁ := hcurrent.steps hok.steps hok₁.steps (hsub step hstep)
    have hcode₁ : s.journey.currentStepCode = .finalVehicleAllocation := hcurrent.code.trans hvehicle
    have hcourse : courseOf
        { s.journey with
          currentStepCode := .customerPlanConfirmation
          currentStepStatus := .waitingCustomer
          status := .waitingCustomer
          version := s.journey.version + 1 }
        (setStatus (setStatus steps customerStep.id .waitingCustomer) step.id .completed) =
        Course.stand
          { courseOf s.journey steps with
            rows := Function.update (rowsOf steps) s.journey.currentStepCode (some .completed) }
          .customerPlanConfirmation .waitingCustomer .waitingCustomer := by
      rw [courseOf, rowsOf_setStatus_two hok₁.steps hmem hcurrent₁.mem (by simp [hcustomer, hvehicle]),
        hcustomer, hcurrent.code]
      rfl
    refine hmoves.tail (.write { s with steps := steps } _
      (setStatus (setStatus steps customerStep.id .waitingCustomer) step.id .completed) _ rfl rfl
      ((setStatus_map ..).trans (setStatus_map ..)) ?_ ?_)
    · exact hcourse ▸ .reconfirm hcurrent₁.move hcode₁
    · refine .plain rfl hfresh (by simp) rfl hkey (fun _ => hcode₁) ?_ ?_
      · intro hdelivery
        cases hdelivery.symm.trans hcode₁
      · intro horder
        cases horder.symm.trans hcode₁

theorem returnToHandoverEvidence_moves {key : EventKey} {expectedVersion : Nat}
    {payload : StepPayload} {decisionStepId : Id} (hok : s.Ok)
    (hkey : ∃ workOrderId hashKey decision, key = .evidenceDecided workOrderId hashKey decision)
    (h : returnToHandoverEvidence key expectedVersion payload decisionStepId s = .ok s') :
    Moves cause s s' := by
  obtain ⟨workOrderId, hashKey, decision, rfl⟩ := hkey
  unfold returnToHandoverEvidence at h
  split at h
  · obtain ⟨_, -, h⟩ := bind_ok h
    split at h
    · obtain rfl := Except.ok.inj h
      exact .refl s
    · cases h
  · rename_i hnone
    obtain ⟨step, hlock, h⟩ := bind_ok h
    obtain ⟨_, hvalid, h⟩ := bind_ok h
    obtain ⟨hstep, rfl⟩ := lockJourneyStep_ok hlock
    obtain ⟨rfl, hcurrent⟩ := validateCurrentStep_ok hok.steps hstep hvalid
    obtain ⟨hcode, h⟩ := guard_ok h
    have hdelivery : step.code = .deliveryEvidenceDecision := by simpa using hcode
    obtain ⟨s₁, handoverStep, hmoves, hmem, hhandover, ⟨steps, rfl, hsub⟩, row, hupsert, -⟩ :=
      upsertStep_touch cause hok .handoverAndStage2Creation .running (by
        intro hcancelled
        have hlive := hcurrent.move.live
        rw [show s.course.status = _ from hcancelled] at hlive
        cases hlive)
    rw [hupsert] at h
    obtain ⟨s₂, hupdate, h⟩ := bind_ok h
    obtain ⟨-, rfl⟩ := updateJourneyVersion_ok hupdate
    obtain ⟨hfresh, rfl⟩ := writeEventAndOutbox_ok h
    have hok₁ := hok.moves hmoves
    have hcurrent₁ := hcurrent.steps hok.steps hok₁.steps (hsub step hstep)
    have hcode₁ : s.journey.currentStepCode = .deliveryEvidenceDecision :=
      hcurrent.code.trans hdelivery
    have hreset : Function.update (rowsOf steps) step.code (some .pending) =
        ((courseOf s.journey steps).reset [.deliveryEvidenceDecision]).rows := by
      funext code
      show _ = if _ then (rowsOf steps code).map _ else rowsOf steps code
      by_cases hsame : code = .deliveryEvidenceDecision
      · have hrow : rowsOf steps step.code = some s.journey.currentStepStatus := by
          rw [← hcurrent.code]
          exact hcurrent₁.move.row
        rw [hsame, ← hdelivery, Function.update_self, hrow, hdelivery]
        rfl
      · rw [Function.update_of_ne (by rwa [hdelivery])]
        simp [hsame]
    have hcourse : courseOf
        { s.journey with
          currentStepCode := .handoverAndStage2Creation
          currentStepStatus := .running
          status := .running
          version := s.journey.version + 1 }
        (setStatus (setStatus steps handoverStep.id .running) step.id .pending) =
        Course.stand ((courseOf s.journey steps).reset [.deliveryEvidenceDecision])
          .handoverAndStage2Creation .running .running := by
      rw [courseOf, rowsOf_setStatus_two hok₁.steps hmem hcurrent₁.mem
        (by simp [hhandover, hdelivery]), hreset, hhandover]
      rfl
    refine hmoves.tail (.write { s with steps := steps } _
      (setStatus (setStatus steps handoverStep.id .running) step.id .pending) _ rfl rfl
      ((setStatus_map ..).trans (setStatus_map ..)) ?_ ?_)
    · exact hcourse ▸ .rehand hcurrent₁.move hcode₁
    · have hnoWait : ∀ code, EventKey.evidenceDecided workOrderId hashKey decision ≠ .waitingManual code :=
        fun _ => EventKey.noConfusion
      have hnoReview : ∀ workOrderId' decision' hashKey',
          EventKey.evidenceDecided workOrderId hashKey decision ≠ .opsReviewed workOrderId' decision' hashKey' :=
        fun _ _ _ => EventKey.noConfusion
      refine .other rfl hfresh (by simp) rfl rfl ?_ ?_ (fun code hwait => absurd hwait (hnoWait code))
        (fun _ _ _ hreview => absurd hreview (hnoReview _ _ _)) (fun _ _ _ _ => rfl) (fun _ _ => rfl) ?_
      · exact fun code hsome => hcode₁.trans (Option.some.inj hsome)
      · intro hlt
        rw [show ({ s with steps := steps } : State).journey = s.journey from rfl, hcode₁] at hlt
        exact absurd hlt (by show ¬(9 < 8); decide)
      · intro horder
        cases horder.symm.trans hcode₁

/-- The list in which the steps of a new revision are pending. -/
abbrev resetSteps (steps : List Step) : List Step :=
  steps.map fun step =>
    if replannedSteps.contains step.code then { step with status := .pending } else step

theorem resetSteps_map (steps : List Step) :
    (resetSteps steps).map (fun step => (step.id, step.code)) =
      steps.map fun step => (step.id, step.code) := by
  rw [List.map_map]
  refine List.map_congr_left fun step _ => ?_
  simp only [Function.comp_def]
  split <;> rfl

theorem resetSteps_code (step : Step) :
    (if replannedSteps.contains step.code then { step with status := StepStatus.pending }
      else step).code = step.code := by
  split <;> rfl

theorem rowsOf_resetSteps (journey : JourneyRow) (steps : List Step) :
    rowsOf (resetSteps steps) = ((courseOf journey steps).reset replannedSteps).rows := by
  funext code
  rw [rowsOf_map resetSteps_code]
  show _ = if _ then (rowsOf steps code).map _ else rowsOf steps code
  rw [rowsOf]
  rcases hfind : steps.find? (·.code == code) with _ | step
  · rw [hfind]
    split <;> rfl
  · have hcode : step.code = code := by simpa using List.find?_some hfind
    rw [hfind, ← hcode]
    by_cases hmem : step.code ∈ replannedSteps
    · simp [hmem]
    · simp [hmem]

/-- The plan step of a journey whose steps are pending again, as it would be before they are. -/
theorem upsertStep_reset (cause : Cause) (hok : s.Ok) (hlive : s.journey.status.terminal = false) :
    ∃ s₁ planStep steps, Moves cause s s₁ ∧ planStep ∈ steps ∧ planStep.code = .finalPlanDecision ∧
      s₁ = { s with steps := steps } ∧ (∀ step ∈ s.steps, step ∈ steps) ∧
        ∃ row, State.upsertStep { s with steps := resetSteps s.steps } .finalPlanDecision
            .waitingManual (fun _ => .waitingManual) =
          ({ s with steps := setStatus (resetSteps steps) planStep.id .waitingManual }, row) ∧
            row.id = planStep.id := by
  rcases hplan : s.stepOf .finalPlanDecision with _ | planStep
  · have hnone : (resetSteps s.steps).find? (·.code == .finalPlanDecision) = none := by
      rw [find_map_code resetSteps_code]
      exact congrArg (Option.map _) hplan
    have hcancelled : s.journey.status = .cancelled →
        StepCode.finalPlanDecision ≠ s.journey.currentStepCode := by
      intro hcancelled
      rw [hcancelled] at hlive
      cases hlive
    refine ⟨_, ⟨s.steps.length, .finalPlanDecision, .pending⟩, _,
      Move.moves (.touch s .finalPlanDecision hplan hcancelled),
      List.mem_append_right _ (List.mem_singleton_self _), rfl, rfl,
      fun _ h => List.mem_append_left _ h,
      ⟨s.steps.length, .finalPlanDecision, .waitingManual⟩, ?_, rfl⟩
    have hother : setStatus (resetSteps s.steps) s.steps.length .waitingManual =
        resetSteps s.steps := by
      conv_rhs => rw [← List.map_id (resetSteps s.steps)]
      refine List.map_congr_left fun step hstep => if_neg ?_
      have hids := (hok.steps.of_map (resetSteps_map s.steps)).ids
      have hlt : step.id ∈ List.range (resetSteps s.steps).length :=
        hids ▸ List.mem_map_of_mem hstep
      rw [List.length_map] at hlt
      rw [beq_iff_eq]
      exact Nat.ne_of_lt (List.mem_range.1 hlt)
    unfold State.upsertStep State.stepOf
    rw [hnone]
    refine Prod.ext ?_ (by simp)
    show ({ s with steps := _ } : State) = { s with steps := _ }
    refine congrArg (fun steps => ({ s with steps := steps } : State)) ?_
    have hsplit : setStatus (resetSteps (s.steps ++ [⟨s.steps.length, .finalPlanDecision, .pending⟩]))
        s.steps.length .waitingManual =
        setStatus (resetSteps s.steps) s.steps.length .waitingManual ++
          [⟨s.steps.length, .finalPlanDecision, .waitingManual⟩] := by
      simp [setStatus, resetSteps, replannedSteps]
    rw [hsplit, hother]
    simp
  · obtain ⟨hmem, hcode⟩ := stepOf_some hplan
    have hsome : (resetSteps s.steps).find? (·.code == .finalPlanDecision) =
        some { planStep with status := .pending } := by
      rw [find_map_code resetSteps_code]
      rw [show s.steps.find? (·.code == .finalPlanDecision) = some planStep from hplan]
      simp [hcode, replannedSteps]
    refine ⟨s, planStep, s.steps, .refl s, hmem, hcode, rfl, fun _ h => h,
      { planStep with status := .waitingManual }, ?_, rfl⟩
    unfold State.upsertStep State.stepOf
    rw [hsome]
    rfl

theorem returnToFinalPlanDecision_moves {key : EventKey} {expectedVersion finalPlanRevision : Nat}
    {stepId : Id} (hok : s.Ok) (hkey : key.stepCode = none)
    (h : returnToFinalPlanDecision key expectedVersion finalPlanRevision stepId s = .ok s') :
    Moves cause s s' := by
  unfold returnToFinalPlanDecision at h
  obtain ⟨step, hlock, h⟩ := bind_ok h
  obtain ⟨_, hvalid, h⟩ := bind_ok h
  obtain ⟨hstep, rfl⟩ := lockJourneyStep_ok hlock
  obtain ⟨rfl, hcurrent⟩ := validateCurrentStep_ok hok.steps hstep hvalid
  obtain ⟨hcode, h⟩ := guard_ok h
  have horder : step.code = .orderAndContractCreation := by
    by_contra hne
    exact hcode (.inl hne)
  have hnoOrder : s.journey.orderId = none := by
    by_contra hne
    exact hcode (.inr (Option.isSome_iff_ne_none.2 hne))
  obtain ⟨s₁, planStep, steps, hmoves, hmem, hplan, rfl, hsub, row, hupsert, hrow⟩ :=
    upsertStep_reset cause hok hcurrent.move.live
  dsimp only at h
  rw [hupsert] at h
  obtain ⟨⟨s₂, task⟩, hcreate, h⟩ := bind_ok h
  obtain ⟨s₃, hupdate, h⟩ := bind_ok h
  obtain ⟨hfree, rfl, rfl⟩ := createManualTask_ok hcreate
  obtain ⟨-, rfl⟩ := updateJourneyVersion_ok hupdate
  obtain ⟨hfresh, rfl⟩ := writeEventAndOutbox_ok h
  have hok₁ := hok.moves hmoves
  have hcurrent₁ := hcurrent.steps hok.steps hok₁.steps (hsub step hstep)
  have hcode₁ : s.journey.currentStepCode = .orderAndContractCreation := hcurrent.code.trans horder
  have hreset := hok₁.steps.of_map (resetSteps_map steps)
  obtain ⟨planStep', hmem', hid, hcode'⟩ := mem_of_steps_map (resetSteps_map steps) planStep hmem
  have hcourse : courseOf
      { s.journey with
        currentStepCode := .finalPlanDecision
        currentStepStatus := .waitingManual
        status := .waitingManual
        version := s.journey.version + 1 }
      (setStatus (resetSteps steps) planStep.id .waitingManual) =
      Course.stand ((courseOf s.journey steps).reset replannedSteps) .finalPlanDecision .waitingManual
        .waitingManual := by
    rw [courseOf, ← hid, rowsOf_setStatus hreset hmem', rowsOf_resetSteps s.journey, hcode', hplan]
    rfl
  rw [hrow]
  refine (hmoves.tail (.openTask { s with steps := steps } planStep .finalPlanDecision
    ⟨s.journey.applicationId, finalPlanRevision, none, some "FINAL_PLAN_REVISION_STALE"⟩ hmem
    (by rw [hplan]; rfl) hfree TaskType.noConfusion)).tail ?_
  refine .write _ _ (setStatus (resetSteps steps) planStep.id .waitingManual) _ rfl rfl
    ((setStatus_map ..).trans (resetSteps_map ..)) ?_ ?_
  · exact hcourse ▸ .replan hcurrent₁.move hcode₁
  · refine .plain rfl hfresh (by simp) rfl hkey ?_ ?_ (fun _ _ => hnoOrder)
    · intro hlt
      have hlt' : s.journey.currentStepCode.index < StepCode.finalPlanDecision.index := hlt
      rw [hcode₁] at hlt'
      exact absurd hlt' (by decide)
    · intro hdelivery
      cases hdelivery.symm.trans hcode₁

/-! ## Exceptions, signals and pauses -/

/-- The journey whose current step has failed. -/
abbrev failedJourney (journey : JourneyRow) : JourneyRow :=
  if journey.status = .paused then
    { journey with currentStepStatus := .exception, pausedFromStatus := some .exception }
  else { journey with currentStepStatus := .exception, status := .exception }

theorem failedJourney_orderId (journey : JourneyRow) :
    (failedJourney journey).orderId = journey.orderId := by
  unfold failedJourney
  split <;> rfl

theorem failedJourney_code (journey : JourneyRow) :
    (failedJourney journey).currentStepCode = journey.currentStepCode := by
  unfold failedJourney
  split <;> rfl

theorem recordLockedException_moves {error : JourneyFailure} {jobId : Option Id} {step : Step}
    (hok : s.Ok) (hstep : step ∈ s.steps)
    (h : recordLockedException error jobId step s = .ok s') : Moves cause s s' := by
  unfold recordLockedException at h
  have hrecorded : ∀ exceptions, Moves cause s { s with exceptions := exceptions } := fun exceptions =>
    Move.moves (.quiet s s.jobs exceptions s.application.journeyFactVersion)
  dsimp only at h
  split at h
  · obtain rfl := Except.ok.inj h
    exact hrecorded _
  · rename_i hnot
    simp only [alreadyTerminal, Bool.or_eq_true, not_or, Bool.not_eq_true, bne_eq_false_iff_eq] at hnot
    obtain ⟨⟨hended, hlive⟩, hcode⟩ := hnot
    obtain ⟨s₁, hupdate, h⟩ := bind_ok h
    obtain ⟨-, rfl⟩ := updateJourneyVersion_ok hupdate
    obtain ⟨hfresh, rfl⟩ := writeEventAndOutbox_ok h
    have hrow : s.course.rows s.course.code = some step.status := by
      show rowsOf s.steps s.journey.currentStepCode = _
      rw [rowsOf, hcode, hok.steps.find_code hstep]
      rfl
    refine (hrecorded (s.exceptions ++
      [⟨s.exceptions.length, step.id, jobId, error.code, error.message, error.retryable,
        if alreadyTerminal step s.journey then .resolved else .open⟩])).tail ?_
    refine .write _ _ (setStatus s.steps step.id .exception) _ rfl ?_ (setStatus_map ..) ?_ ?_
    · exact failedJourney_orderId s.journey
    · have hcourse : courseOf { failedJourney s.journey with version := s.journey.version + 1 }
          (setStatus s.steps step.id .exception) = s.course.fail := by
        rw [courseOf, rowsOf_setStatus hok.steps hstep, ← hcode]
        unfold Course.fail
        by_cases hpaused : s.journey.status = .paused <;> simp [failedJourney, courseOf, hpaused]
      exact hcourse ▸ .fail hlive hrow hended
    · exact .still rfl hfresh (by simp) rfl rfl (failedJourney_code s.journey)

/-- A signal is observed at every step; the review of the evidence is recorded with its decision. -/
theorem recordSignal_moves {signal : Signal}
    (hsignal : signal.isOpsReviewed = true →
      cause = .review ∧ s.journey.currentStepCode = .deliveryEvidenceDecision)
    (h : recordSignal signal s = .ok s') : Moves cause s s' := by
  unfold recordSignal at h
  split at h
  · obtain ⟨_, -, h⟩ := bind_ok h
    obtain rfl := Except.ok.inj h
    exact .refl s
  · rename_i hnone
    obtain ⟨s₁, hupdate, h⟩ := bind_ok h
    obtain ⟨-, rfl⟩ := updateJourneyVersion_ok hupdate
    obtain ⟨-, rfl⟩ := writeEventAndOutbox_ok h
    have hfresh := event?_none hnone
    refine Move.moves (.write s _ s.steps _ rfl rfl rfl .observe ?_)
    rcases hreviewed : signal.isOpsReviewed with _ | _
    · refine .still rfl hfresh (by simp) rfl ?_ rfl
      cases signal <;> first | rfl | exact Bool.noConfusion hreviewed
    · obtain ⟨hcause, hcode⟩ := hsignal hreviewed
      have hkey : ∃ workOrderId decision hashKey,
          signal.eventKey = .opsReviewed workOrderId decision hashKey := by
        cases signal <;> first | exact ⟨_, _, _, rfl⟩ | exact Bool.noConfusion hreviewed
      obtain ⟨workOrderId, decision, hashKey, hkey⟩ := hkey
      refine .other rfl hfresh (by simp) rfl ?_ ?_ (fun hlt => absurd hlt (Nat.lt_irrefl _)) ?_
        (fun _ _ _ _ => hcause) ?_ ?_ ?_
      · rw [hkey]
        rfl
      · intro code hsome
        rw [hkey] at hsome
        exact hcode.trans (Option.some.inj hsome)
      · intro code hwaiting
        rw [hkey] at hwaiting
        cases hwaiting
      · intro _ _ _ hdecided
        rw [hkey] at hdecided
        cases hdecided
      · intro _ hhandover
        cases hcode.symm.trans hhandover
      · intro horder
        cases horder.symm.trans hcode

theorem pauseForOperationalRestriction_moves {expectedVersion : Nat} {reasons : List String}
    {stepId : Id} (hok : s.Ok)
    (h : pauseForOperationalRestriction expectedVersion reasons stepId s = .ok s') :
    Moves cause s s' := by
  unfold pauseForOperationalRestriction at h
  obtain ⟨step, hlock, h⟩ := bind_ok h
  obtain ⟨_, hvalid, h⟩ := bind_ok h
  obtain ⟨hstep, rfl⟩ := lockJourneyStep_ok hlock
  obtain ⟨rfl, hcurrent⟩ := validateCurrentStep_ok hok.steps hstep hvalid
  obtain ⟨hrunning, h⟩ := guard_ok h
  have hstatus : s.journey.status = .running := by
    by_contra hne
    exact hrunning (.inr hne)
  obtain ⟨s₁, hupdate, h⟩ := bind_ok h
  obtain ⟨-, rfl⟩ := updateJourneyVersion_ok hupdate
  obtain ⟨hfresh, rfl⟩ := writeEventAndOutbox_ok h
  refine Move.moves (.write s _ s.steps _ rfl rfl rfl ?_ (.still rfl hfresh (by simp) rfl rfl rfl))
  have hpause := Course.Step.pause hcurrent.move.live hcurrent.move.notPaused
  rw [show s.course.status = _ from hstatus] at hpause
  exact hpause

theorem completeActivation_moves {expectedVersion : Nat} {stepId : Id} {payload : StepPayload}
    (hok : s.Ok) (hcode : s.journey.currentStepCode = .authoritativeActivation)
    (hpayload : ∀ evidence, payload ≠ .evidence evidence)
    (h : completeActivation expectedVersion stepId payload s = .ok s') : Moves cause s s' := by
  unfold completeActivation at h
  obtain ⟨s₁, hcomplete, h⟩ := bind_ok h
  have hmoves : Moves cause s s₁ := completeStep_moves hok
    (fun _ _ _ => .plain rfl hcode (by decide) (by decide) nofun hpayload) hcomplete
  split at h
  · obtain ⟨_, -, h⟩ := bind_ok h
    obtain rfl := Except.ok.inj h
    exact hmoves
  · obtain ⟨s₂, hupdate, h⟩ := bind_ok h
    obtain ⟨hversion, rfl⟩ := updateJourneyVersion_ok hupdate
    obtain ⟨hfresh, rfl⟩ := writeEventAndOutbox_ok h
    refine hmoves.tail (.write s₁ _ s₁.steps _ rfl rfl rfl .observe ?_)
    exact .still (by simp [hversion]) hfresh (by simp) rfl rfl rfl

/-! ## Administration -/

theorem lockAdminJourney_ok {expectedVersion : Nat} (h : lockAdminJourney expectedVersion s = .ok ()) :
    s.journey.version = expectedVersion := (check_ok h).1

theorem requireCurrentStep_ok {expected : StepCode} (h : requireCurrentStep expected s = .ok ()) :
    s.journey.currentStepCode = expected := (check_ok h).1.1

theorem pauseJourney_moves {expectedVersion : Nat} {reason : String}
    (h : pauseJourney expectedVersion reason s = .ok s') : Moves cause s s' := by
  unfold pauseJourney at h
  obtain ⟨_, -, h⟩ := bind_ok h
  obtain ⟨hallowed, h⟩ := guard_ok h
  rw [not_or] at hallowed
  obtain ⟨hpaused, hlive⟩ := hallowed
  obtain ⟨s₁, hupdate, h⟩ := bind_ok h
  obtain ⟨-, rfl⟩ := updateJourneyVersion_ok hupdate
  obtain ⟨hfresh, rfl⟩ := writeEventAndOutbox_ok h
  have hlive' : s.journey.status.terminal = false := by simpa using hlive
  refine Move.moves (.write s _ s.steps _ rfl rfl rfl ?_ (.still rfl hfresh (by simp) rfl rfl rfl))
  exact .pause (c := s.course) hlive' hpaused

theorem enqueueRecovery_ok (h : enqueueRecovery s = .ok s') : ∃ jobs, s' = { s with jobs := jobs } := by
  unfold enqueueRecovery at h
  split at h
  · unfold enqueueJob at h
    split at h
    · obtain ⟨-, h⟩ := check_ok h
      exact ⟨s.jobs, (Except.ok.inj h).symm⟩
    · exact ⟨_, (Except.ok.inj h).symm⟩
  · exact ⟨s.jobs, (Except.ok.inj h).symm⟩

theorem resumeJourney_moves {expectedVersion : Nat} {reason : String}
    (h : resumeJourney expectedVersion reason s = .ok s') : Moves cause s s' := by
  unfold resumeJourney at h
  obtain ⟨_, -, h⟩ := bind_ok h
  split at h
  · rename_i restoredStatus hpaused hfrom
    obtain ⟨s₁, hupdate, h⟩ := bind_ok h
    obtain ⟨-, rfl⟩ := updateJourneyVersion_ok hupdate
    obtain ⟨jobs, h⟩ : ∃ jobs, writeAdminEvent .journeyResumed .resume reason
        { s with
          journey :=
            { s.journey with
              pausedFromStatus := none
              status := restoredStatus
              version := s.journey.version + 1 }
          jobs := jobs } = .ok s' := by
      dsimp only at h
      split at h
      · obtain ⟨s₂, hrecovery, h⟩ := bind_ok h
        obtain ⟨jobs, rfl⟩ := enqueueRecovery_ok hrecovery
        exact ⟨jobs, h⟩
      · exact ⟨s.jobs, h⟩
    obtain ⟨hfresh, rfl⟩ := writeEventAndOutbox_ok h
    refine ((Moves.refl s).tail
      (.quiet s jobs s.exceptions s.application.journeyFactVersion)).tail ?_
    refine .write _ _ s.steps _ rfl rfl rfl ?_ (.still rfl hfresh (by simp) rfl rfl rfl)
    exact .resume (c := s.course) hpaused hfrom
  · cases h

theorem cancelJourney_moves {expectedVersion : Nat} {reason : String}
    (h : cancelJourney expectedVersion reason s = .ok s') : Moves cause s s' := by
  unfold cancelJourney at h
  obtain ⟨_, -, h⟩ := bind_ok h
  obtain ⟨hlive, h⟩ := guard_ok h
  obtain ⟨s₁, hupdate, h⟩ := bind_ok h
  obtain ⟨-, rfl⟩ := updateJourneyVersion_ok hupdate
  obtain ⟨hfresh, rfl⟩ := writeEventAndOutbox_ok h
  have hcourse : courseOf
      { s.journey with
        currentStepStatus := .cancelled
        status := .cancelled
        version := s.journey.version + 1 } (cancelSteps s.steps) = s.course.cancel := by
    rw [courseOf, rowsOf_cancelSteps]
    rfl
  have hlive' : s.journey.status.terminal = false := by simpa using hlive
  exact Move.moves (.cancel s _ (cancelSteps s.steps) _ _ rfl rfl (cancelSteps_map _) hlive' hcourse
    (.still rfl hfresh (by simp) rfl rfl rfl))

/-- The retry marks the current step. -/
def State.RetriesCurrent (s : State) : Prop :=
  ∀ e, s.lastOpenException = some e →
    ∃ step ∈ s.steps, step.id = e.stepId ∧ step.code = s.journey.currentStepCode

theorem retryStep_moves {step : Step} {expectedVersion : Nat} {reason : String} (hok : s.Ok)
    (hexception : s.journey.status = .exception) (hstep : step ∈ s.steps)
    (hcode : step.code = s.journey.currentStepCode)
    (h : (do
      let s ← (s.setStatus step.id .retryScheduled).updateJourneyVersion expectedVersion
        fun journey =>
          { journey with currentStepStatus := .retryScheduled, status := .retryScheduled }
      writeAdminEvent .exceptionResolved .retry reason s) = .ok s') : Moves cause s s' := by
  obtain ⟨s₁, hupdate, h⟩ := bind_ok h
  obtain ⟨-, rfl⟩ := updateJourneyVersion_ok hupdate
  obtain ⟨hfresh, rfl⟩ := writeEventAndOutbox_ok h
  have hcourse : courseOf
      { s.journey with
        currentStepStatus := .retryScheduled
        status := .retryScheduled
        version := s.journey.version + 1 } (setStatus s.steps step.id .retryScheduled) =
      s.course.stand s.course.code .retryScheduled .retryScheduled := by
    rw [courseOf, rowsOf_setStatus hok.steps hstep, hcode]
    rfl
  refine Move.moves (.write s _ (setStatus s.steps step.id .retryScheduled) _ rfl rfl
    (setStatus_map ..) ?_ ?_)
  · exact hcourse ▸ .retry (c := s.course) hexception
  · exact .still rfl hfresh (by simp) rfl rfl rfl

theorem retryJourney_moves {expectedVersion : Nat} {reason : String} (hok : s.Ok)
    (hretries : s.RetriesCurrent) (h : retryJourney expectedVersion reason s = .ok s') :
    Moves cause s s' := by
  unfold retryJourney at h
  obtain ⟨_, -, h⟩ := bind_ok h
  obtain ⟨hstatus, h⟩ := guard_ok h
  have hexception : s.journey.status = .exception := by simpa using hstatus
  split at h
  · cases h
  rename_i e hlast
  split at h
  · cases h
  obtain ⟨-, h⟩ := guard_ok h
  obtain ⟨step, hstep, hid, hcode⟩ := hretries e hlast
  rw [← hid] at h
  dsimp only at h
  have hquiet : ∀ jobs exceptions, Move cause s { s with jobs := jobs, exceptions := exceptions } :=
    fun jobs exceptions => .quiet s jobs exceptions s.application.journeyFactVersion
  refine Moves.trans ?_ (retryStep_moves ?_ ?_ ?_ ?_ h)
  · exact (hquiet _ _).moves
  · exact hok.move (hquiet _ _)
  · exact hexception
  · exact hstep
  · exact hcode

end SubscriptionSaas.Journey
