import Mathlib.Data.Fintype.EquivFin
import SubscriptionSaas.Closure.Proofs.CaseProofs

/-!
# Pausing and resuming

A paused case remembers its stage in the last entry of its log. Nothing else that is written to the
case keeps it there, unless it names the stage again (`Remembering`).
-/

namespace SubscriptionSaas.Closure

open Results Histories Tables
open Billing (Id)

variable {s s' : State} {f f' : CaseFile} {outcome : Outcome} {startedAt : Int} {command : Command}
  {stage : ClosureStatus}

/-! ## A paused case -/

/-- The case could go on at the stage. -/
structure PausedFrom (stage : ClosureStatus) (f : CaseFile) : Prop where
  status : f.record.status = .paused
  recovery : f.record.profile.physicalControlMode = .recovery
  terminate : f.record.profile.finalDisposition = .terminate
  pausable : stage ∈ recoveryPausableStatuses
  shape : ({ f.record with status := stage } : CaseRecord).shapeOk = true

/-- Only a cancelled case is retired. -/
theorem shapeOk_retired {c : CaseRecord} (h : c.shapeOk = true) (hstatus : c.status ≠ .cancelled) :
    c.retiredAt = none := by
  unfold CaseRecord.shapeOk at h
  simp only [Bool.and_eq_true, Bool.or_eq_true, beq_iff_eq] at h
  obtain ⟨-, hnone | hcancelled⟩ := h
  · exact Option.isNone_iff_eq_none.1 hnone
  · exact absurd hcancelled.1.1.1.1.1.1.1.1.2 hstatus

/-- The shape of a case that is not retired rests on its profile, its status and its times. -/
theorem shapeOk_congr {c c' : CaseRecord} (h : c.shapeOk = true) (hprofile : c'.profile = c.profile)
    (hstatus : c'.status = c.status) (hphysical : c'.physicalControlledAt = c.physicalControlledAt)
    (hsettled : c'.settledAt = c.settledAt) (hclosed : c'.closedAt = c.closedAt)
    (hoperational : c'.operationalCompletedAt = c.operationalCompletedAt)
    (hretired : c'.retiredAt = none) : c'.shapeOk = true := by
  unfold CaseRecord.shapeOk at h ⊢
  rw [hprofile, hstatus, hphysical, hsettled, hclosed, hoperational, hretired]
  simp only [Bool.and_eq_true] at h ⊢
  exact ⟨h.1, by simp⟩

/-- A stage that can be paused is neither paused nor terminal. -/
theorem pausable_open (h : stage ∈ recoveryPausableStatuses) :
    stage ≠ .paused ∧ stage ≠ .cancelled ∧ stage ≠ .completed ∧ stage ≠ .terminated ∧
      terminalStatus stage = false := by
  revert h
  cases stage <;> decide

theorem assertRecoveryPauseTransition_pause {profile : ClosureProfile} {u : Unit}
    (h : assertRecoveryPauseTransition profile stage .paused none = .ok u) :
    profile.physicalControlMode = .recovery ∧ profile.finalDisposition = .terminate ∧
      stage ∈ recoveryPausableStatuses := by
  unfold assertRecoveryPauseTransition at h
  obtain ⟨hprofile, h⟩ := guard_ok h
  rw [not_or, not_not, not_not] at hprofile
  split at h
  · rename_i hpause
    exact ⟨hprofile.1, hprofile.2, hpause.2.1⟩
  · obtain ⟨⟨-, -, hnone⟩, -⟩ := check_ok h
    cases hnone

/-- The links and the times that an event leaves to a case that is not closed. -/
theorem transitioned_open {c : EventCommand} (hopen : terminalStatus c.afterStatus = false)
    (hphysical : physicalControlledStatus c.afterStatus = true →
      f.record.physicalControlledAt ≠ none) :
    (transitioned f.record c).physicalControlledAt = f.record.physicalControlledAt ∧
      (transitioned f.record c).settledAt = f.record.settledAt ∧
      (transitioned f.record c).closedAt = f.record.closedAt := by
  refine ⟨if_neg fun h => hphysical h.1 h.2, if_neg ?_, if_neg ?_⟩
  · rintro (h | h) <;> rw [h] at hopen <;> cases hopen
  · rw [hopen]
    exact Bool.false_ne_true

/-- A pause that is accepted remembers the status before it. -/
theorem appendEvent_pause {c : EventCommand} (h : appendEvent s f c = .ok (f', outcome))
    (hshape : f.record.shapeOk = true) (htype : c.eventType = .statusTransitioned)
    (hafter : c.afterStatus = .paused) :
    PausedFrom f.record.status f' ∧ c.detailSnapshot.pausedFromStatus = some f.record.status := by
  obtain ⟨-, hvalid, rfl, hshape'⟩ := appendEvent_ok h
  simp only [validateEventTransition] at hvalid
  rw [if_neg (by simp [htype]), if_pos ⟨htype, hafter⟩] at hvalid
  simp only [require_bind, Bool.and_eq_true, beq_iff_eq] at hvalid
  obtain ⟨⟨-, hnamed⟩, hpause⟩ := hvalid
  obtain ⟨hrecovery, hterminate, hpausable⟩ :=
    assertRecoveryPauseTransition_pause (asStatusConflict_ok hpause)
  have hretired := shapeOk_retired hshape' (by simp [transitioned, hafter])
  obtain ⟨hphysical, hsettled, hclosed⟩ := transitioned_open
    (by rw [hafter]; rfl) (by rw [hafter]; exact fun hphysical => by cases hphysical)
  exact ⟨⟨hafter, hrecovery, hterminate, hpausable,
    shapeOk_congr hshape rfl rfl hphysical hsettled hclosed rfl hretired⟩, hnamed⟩

/-- What is written to a paused case leaves it where it could go on. -/
theorem Updated.paused {id : Id} (h : Updated s startedAt f f' outcome command id)
    (hf : PausedFrom stage f) (hstatus : f'.record.status = .paused) : PausedFrom stage f' := by
  obtain ⟨hpaused, hrecovery, hterminate, hpausable, hshape⟩ := hf
  obtain ⟨-, hcancelled, -⟩ := pausable_open hpausable
  cases h with
  | @transition c h =>
    obtain ⟨-, -, rfl, hshape'⟩ := appendEvent_ok h
    have hafter : c.afterStatus = .paused := hstatus
    have hretired := shapeOk_retired hshape' (by simp [transitioned, hafter])
    obtain ⟨hphysical, hsettled, hclosed⟩ := transitioned_open
      (by rw [hafter]; rfl) (by rw [hafter]; nofun)
    exact ⟨hstatus, hrecovery, hterminate, hpausable,
      shapeOk_congr hshape rfl rfl hphysical hsettled hclosed rfl hretired⟩
  | @escalate c h =>
    obtain ⟨-, hpreparing, -⟩ := escalateRecovery_ok h
    rw [hpaused] at hpreparing
    cases hpreparing
  | @document c h =>
    obtain ⟨occurredAt, created, -, -, -, rfl, hshape'⟩ := appendDocumentRevision_ok h
    have hretired := shapeOk_retired hshape' (by simp [hpaused])
    exact ⟨hpaused, hrecovery, hterminate, hpausable,
      shapeOk_congr hshape rfl rfl rfl rfl rfl rfl hretired⟩
  | @settlement c h =>
    obtain ⟨created, -, rfl, hshape'⟩ := appendSettlementRevision_ok h
    have hretired := shapeOk_retired hshape' (by simp [hpaused])
    exact ⟨hpaused, hrecovery, hterminate, hpausable,
      shapeOk_congr hshape rfl rfl rfl rfl rfl rfl hretired⟩

/-! ## Resuming -/

/-- The stage that the last entry of the log names. -/
def CaseFile.namedStage (f : CaseFile) : Option ClosureStatus :=
  f.events.getLast?.bind (·.detailSnapshot.pausedFromStatus)

theorem rememberedStage_eq (h : Logged f) (hpaused : f.record.status = .paused) :
    rememberedStage f.events = f.namedStage := by
  have hafter := h.history.last
  rcases hlast : f.events.getLast? with _ | e
  · rw [hlast] at hafter
    cases hafter
  · rw [hlast, Option.map_some, Option.some.injEq, hpaused] at hafter
    rw [rememberedStage, h.history.numbered.latest hlast (by rw [hafter]; rfl), CaseFile.namedStage,
      hlast]

/-- An event that asks to resume the case at its `afterStatus`. -/
structure ResumeCommand (s : State) (f : CaseFile) (c : EventCommand) : Prop where
  eventType : c.eventType = .statusTransitioned
  action : c.detailSnapshot.recoveryAction = some .resume
  resumedStage : c.detailSnapshot.resumedStage = some c.afterStatus
  expectedStatus : c.expectedStatus = .paused
  expectedVersion : c.expectedVersion = f.record.version
  notEarlier : ∀ latest, latestOccurredAt f.events = some latest → latest ≤ c.occurredAt
  notLater : c.occurredAt ≤ s.clock ∨ latestOccurredAt f.events = some c.occurredAt
  unlinked : c.recoveryAssetWorkOrderId = none
  unretired : c.retireCase = false
  source : Fresh s c.source

variable {c : EventCommand}

/-- The checks of a resumption. -/
theorem validateEventTransition_resume (hf : PausedFrom stage f) (hlog : Logged f)
    (hc : ResumeCommand s f c) :
    validateEventTransition f c = .ok () ↔
      f.namedStage = some c.afterStatus ∧ c.afterStatus ∈ recoveryPausableStatuses := by
  have htype : c.eventType ≠ .physicalControlConfirmed := by simp [hc.eventType]
  simp only [validateEventTransition]
  rw [if_neg (by simp [htype])]
  by_cases hafter : c.afterStatus = .paused
  · rw [if_pos ⟨hc.eventType, hafter⟩, require_bind]
    simp [hc.action, hafter, recoveryPausableStatuses]
  · rw [if_neg (by simp [hafter]), if_pos ⟨hc.eventType, hf.status⟩, require_bind,
      rememberedStage_eq hlog hf.status]
    simp only [hc.action, hc.resumedStage, Bool.and_eq_true, beq_iff_eq, true_and]
    constructor
    · rintro ⟨⟨-, hnamed⟩, hpause⟩
      refine ⟨hnamed, ?_⟩
      have hresume := asStatusConflict_ok hpause
      unfold assertRecoveryPauseTransition at hresume
      obtain ⟨-, hresume⟩ := guard_ok hresume
      rw [if_neg (by simp [hafter])] at hresume
      exact (check_ok hresume).1.2.1
    · rintro ⟨hnamed, hpausable⟩
      refine ⟨⟨hnamed.symm, hnamed⟩, ?_⟩
      rw [assertRecoveryPauseTransition, if_neg (by simp [hf.recovery, hf.terminate]),
        if_neg (by simp [hafter]), if_pos ⟨rfl, hpausable, hnamed⟩]
      rfl

/-- The row goes on at the stage as it would have before the pause. -/
theorem transitioned_resume (hf : PausedFrom stage f) (hc : ResumeCommand s f c)
    (hafter : c.afterStatus = stage) : (transitioned f.record c).shapeOk = true := by
  obtain ⟨-, hcancelled, -, -, hopen⟩ := pausable_open hf.pausable
  have hphysical : physicalControlledStatus c.afterStatus = true →
      f.record.physicalControlledAt ≠ none := by
    have hshape := hf.shape
    unfold CaseRecord.shapeOk at hshape
    simp only [Bool.and_eq_true] at hshape
    intro hcontrolled hnone
    rw [hafter] at hcontrolled
    have hrow := hshape.1.2
    rw [hnone] at hrow
    have hpausable := hf.pausable
    revert hrow hcontrolled hpausable
    cases stage <;> decide
  obtain ⟨hphysicalAt, hsettledAt, hclosedAt⟩ := transitioned_open (by rw [hafter]; exact hopen)
    hphysical
  have hretired : (transitioned f.record c).retiredAt = none := by
    have hnone := shapeOk_retired hf.shape hcancelled
    simpa [transitioned, hc.unretired] using hnone
  exact shapeOk_congr hf.shape rfl hafter hphysicalAt hsettledAt hclosedAt rfl hretired

theorem writeCase_resume (hf : PausedFrom stage f) (hc : ResumeCommand s f c)
    (hauthority : s.references.caseAuthority f.record = true) (hafter : c.afterStatus = stage)
    (events : List ClosureEvent) :
    writeCase s.references { f with record := transitioned f.record c, events := events } =
      .ok { f with record := transitioned f.record c, events := events } := by
  obtain ⟨-, -, hcompleted, hterminated, -⟩ := pausable_open hf.pausable
  have hauthority' : s.references.caseAuthority (transitioned f.record c) = true := by
    simpa [References.caseAuthority, References.assetWorkOrderOk, transitioned, hc.unlinked,
      hc.eventType] using hauthority
  have hsettlement : ({ f with record := transitioned f.record c, events := events } :
      CaseFile).terminalSettlementOk = true := by
    unfold CaseFile.terminalSettlementOk
    refine if_neg ?_
    rintro (h | h)
    · exact hcompleted (hafter.symm.trans h)
    · exact hterminated (hafter.symm.trans h)
  unfold writeCase
  simp only [require_bind]
  exact ⟨transitioned_resume hf hc hafter, hauthority', hsettlement, rfl⟩

/-- What is asked for is done at the stage of the pause. -/
theorem appendEvent_resume (hf : PausedFrom stage f) (hlog : Logged f) (hc : ResumeCommand s f c)
    (hauthority : s.references.caseAuthority f.record = true) (hnamed : f.namedStage = some stage)
    (hafter : c.afterStatus = stage) :
    ∃ f' outcome, appendEvent s f c = .ok (f', outcome) ∧ f'.record.status = stage := by
  obtain ⟨-, -, hcompleted, hterminated, -⟩ := pausable_open hf.pausable
  have hexpected : assertExpectedCase f.record c.expectedVersion (some c.expectedStatus) =
      .ok () := by
    simp [assertExpectedCase, require, hc.expectedVersion, hc.expectedStatus, hf.status, bind,
      Except.bind]
  have htime : assertDatabaseEventTime s.clock f.events c.occurredAt = .ok () := by
    refine if_neg ?_
    rintro (⟨hlate, hother⟩ | hearly)
    · rcases hc.notLater with hle | hlatest
      · omega
      · simp [hlatest] at hother
    · obtain ⟨latest, hlatest, hlt⟩ := Option.any_eq_true _ _ |>.1 hearly
      have hle := hc.notEarlier latest hlatest
      simp at hlt
      omega
  have hvalid := (validateEventTransition_resume hf hlog hc).2
    ⟨hafter ▸ hnamed, hafter ▸ hf.pausable⟩
  have hlink : assertRecoveryWorkOrderLink s.references f.record c = .ok () := by
    rw [assertRecoveryWorkOrderLink, hc.unlinked]
  have hterminal : assertTerminalSettlementAuthority f c.afterStatus = .ok () := by
    rw [assertTerminalSettlementAuthority, if_neg (by simp [hafter, hcompleted, hterminated])]
  have happend : ∃ result, appendEvent s f c = .ok result := by
    rw [appendEvent, hexpected, bind_eq rfl, htime, bind_eq rfl, hvalid, bind_eq rfl, hlink,
      bind_eq rfl, hterminal, bind_eq rfl]
    exact ⟨_, (bind_eq (writeCase_resume hf hc hauthority hafter _)).trans rfl⟩
  obtain ⟨⟨f', outcome⟩, happend⟩ := happend
  obtain ⟨-, -, rfl, -⟩ := appendEvent_ok happend
  exact ⟨_, outcome, happend, hafter⟩

/-! ## While a case is paused -/

/-- The status of a case. -/
def statusOf (s : State) (id : Id) : Option ClosureStatus := s.cases[id]?.map (·.record.status)

/-- A case is paused after the input. -/
def StaysPaused (id : Id) (s : State) (input : Input) : Prop :=
  statusOf (step s input) id = some .paused

/-- What is written to the case is an event that names the stage. -/
def Remembering (id : Id) (stage : ClosureStatus) (s : State) : Input → Prop
  | .command _ command => Fresh s command.source →
    match command with
    | .createCase _ => True
    | .transitionCase c => c.closureCaseId = id → c.detailSnapshot.pausedFromStatus = some stage
    | .escalateRecovery c => c.closureCaseId ≠ id
    | .createDocumentRevision c => c.closureCaseId ≠ id
    | .createSettlementRevision c => c.closureCaseId ≠ id
  | _ => True

theorem Updated.remembering {id : Id} (h : Updated s startedAt f f' outcome command id)
    (hfresh : Fresh s command.source)
    (hremembering : Remembering id stage s (.command startedAt command)) :
    f'.namedStage = some stage := by
  cases h with
  | transition h =>
    obtain ⟨-, -, rfl, -⟩ := appendEvent_ok h
    simp only [CaseFile.namedStage, List.getLast?_concat, Option.bind_some]
    exact hremembering hfresh rfl
  | escalate h => exact absurd rfl (hremembering hfresh)
  | document h => exact absurd rfl (hremembering hfresh)
  | settlement h => exact absurd rfl (hremembering hfresh)

/-- A case that stays paused could go on at its stage all the time. -/
theorem runs_paused {id : Id} {inputs : List Input} (hf : s.cases[id]? = some f)
    (hpaused : PausedFrom stage f) (hstays : Runs.Along step (StaysPaused id) s inputs) :
    ∃ f', (Runs.runs step s inputs).cases[id]? = some f' ∧ PausedFrom stage f' ∧
      (Runs.Along step (Remembering id stage) s inputs → f.namedStage = some stage →
        f'.namedStage = some stage) := by
  induction inputs generalizing s f with
  | nil => exact ⟨f, hf, hpaused, fun _ h => h⟩
  | cons input inputs ih =>
    obtain ⟨g, hg, hchange⟩ := step_case input hf
    have hstatus : g.record.status = .paused := by
      have hnow := hstays.1
      rw [StaysPaused, statusOf, hg] at hnow
      exact Option.some.inj hnow
    have hg' : PausedFrom stage g ∧
        (Remembering id stage s input → f.namedStage = some stage → g.namedStage = some stage) := by
      rcases hchange with rfl | ⟨startedAt, command, outcome, rfl, hfresh, hupdated⟩
      · exact ⟨hpaused, fun _ h => h⟩
      · exact ⟨hupdated.paused hpaused hstatus, fun hremembering _ =>
          hupdated.remembering hfresh hremembering⟩
    obtain ⟨f', hf', hpaused', hnamed⟩ := ih hg hg'.1 hstays.2
    exact ⟨f', hf', hpaused', fun halong hf => hnamed halong.2 (hg'.2 halong.1 hf)⟩

/-! ## The law of pausing -/

/-- A resumption goes to the stage, and to no other. -/
def ResumesTo (s : State) (startedAt : Int) (c : EventCommand) (stage : ClosureStatus) : Prop :=
  (c.afterStatus = stage → ∃ s' outcome,
    execute s startedAt (.transitionCase c) = .ok (s', outcome, true) ∧
      statusOf s' c.closureCaseId = some stage) ∧
  (c.afterStatus ≠ stage → ∀ result, execute s startedAt (.transitionCase c) ≠ .ok result)

theorem replayReceipt_fresh (h : Fresh s command.source) : replayReceipt s command = .ok none := by
  have hfind : s.receipts.find? (·.command.source == command.source) = none := by
    rw [List.find?_eq_none]
    intro receipt hmem
    simpa using h receipt hmem
  rw [replayReceipt, hfind]

/-- An event that is appended is executed. -/
theorem execute_event (hfresh : Fresh s c.source) (htype : c.eventType = .statusTransitioned)
    (hf : s.cases[c.closureCaseId]? = some f) (h : appendEvent s f c = .ok (f', outcome)) :
    ∃ s', execute s startedAt (.transitionCase c) = .ok (s', outcome, true) ∧
      statusOf s' c.closureCaseId = some f'.record.status := by
  have hnormal : normalize (.transitionCase c) = .ok () := by
    simp [normalize, require, htype]
  refine ⟨{ s with
    cases := s.cases.set c.closureCaseId f'
    receipts := s.receipts ++ [⟨.transitionCase c, outcome⟩] }, ?_, ?_⟩
  · have hperform : perform s startedAt (.transitionCase c) = .ok ({ s with
        cases := s.cases.set c.closureCaseId f'
        receipts := s.receipts ++ [⟨.transitionCase c, outcome⟩] }, outcome) := by
      simp only [perform, updateCase, hf]
      rw [h, bind_eq rfl]
      rfl
    have hlifecycle : lifecycleAtDatabaseClock startedAt (.transitionCase c) = .ok () := rfl
    rw [execute, hnormal, bind_eq rfl, hlifecycle, bind_eq rfl, replayReceipt_fresh hfresh,
      bind_eq rfl]
    exact bind_eq hperform
  · rw [statusOf, List.getElem?_set_self (get_lt hf)]
    rfl

/-- An event that is executed, and not repeated, is appended. -/
theorem event_appended {wrote : Bool} (hfresh : Fresh s c.source)
    (hf : s.cases[c.closureCaseId]? = some f)
    (h : execute s startedAt (.transitionCase c) = .ok (s', outcome, wrote)) :
    ∃ f', appendEvent s f c = .ok (f', outcome) ∧ s'.cases[c.closureCaseId]? = some f' := by
  obtain ⟨-, -, ⟨-, -, hreplay⟩ | ⟨-, -, hperform⟩⟩ := execute_ok h
  · have hnone : replayReceipt s (.transitionCase c) = .ok none := replayReceipt_fresh hfresh
    rw [hnone] at hreplay
    cases hreplay
  · rcases perform_ok hperform with ⟨create, g, hcommand, -⟩ | ⟨id, g, g', hg, hupdated, rfl⟩
    · cases hcommand
    · cases hupdated with
      | transition happend =>
        obtain rfl : f = g := Option.some.inj (hf.symm.trans hg)
        exact ⟨g', happend, List.getElem?_set_self (get_lt hf)⟩

/-- A case can be asked to resume at any status. -/
theorem exists_resumeCommand (s : State) (f : CaseFile) (id : Id) (status : ClosureStatus) :
    ∃ c : EventCommand, c.closureCaseId = id ∧ c.afterStatus = status ∧ ResumeCommand s f c := by
  obtain ⟨n, hn⟩ := Infinite.exists_notMem_finset
    (s.receipts.map (·.command.source.id)).toFinset
  refine ⟨{
    actorId := 0
    closureCaseId := id
    eventType := .statusTransitioned
    afterStatus := status
    detailSnapshot := { recoveryAction := some .resume, resumedStage := some status }
    expectedStatus := .paused
    expectedVersion := f.record.version
    occurredAt := (latestOccurredAt f.events).getD s.clock
    reconditioningAssetWorkOrderId := none
    recoveryAssetWorkOrderId := none
    retireCase := false
    source := ⟨"resume", n, "resume"⟩ }, rfl, rfl, rfl, rfl, rfl, rfl, rfl, ?_, ?_, rfl, rfl, ?_⟩
  · intro latest hlatest
    rw [hlatest]
    exact le_rfl
  · rcases hlatest : latestOccurredAt f.events with _ | latest
    · exact .inl le_rfl
    · exact .inr rfl
  · intro receipt hmem hsource
    refine hn (List.mem_toFinset.2 (List.mem_map.2 ⟨receipt, hmem, ?_⟩))
    rw [hsource]

/-- The resumptions of a paused case go to its stage exactly when the last entry names it. -/
theorem resumesTo_iff {id : Id} (hf : s.cases[id]? = some f) (hpaused : PausedFrom stage f)
    (hlog : Logged f) (hauthority : s.references.caseAuthority f.record = true) :
    (∀ startedAt c, c.closureCaseId = id → ResumeCommand s f c → ResumesTo s startedAt c stage) ↔
      f.namedStage = some stage := by
  constructor
  · intro hresumes
    obtain ⟨c, hid, hafter, hc⟩ := exists_resumeCommand s f id stage
    obtain ⟨s', outcome, hexecute, -⟩ := (hresumes 0 c hid hc).1 hafter
    obtain ⟨f', happend, -⟩ := event_appended hc.source (hid ▸ hf) hexecute
    obtain ⟨-, hvalid, -⟩ := appendEvent_ok happend
    rw [((validateEventTransition_resume hpaused hlog hc).1 hvalid).1, hafter]
  · rintro hnamed startedAt c rfl hc
    refine ⟨fun hafter => ?_, fun hother result hexecute => ?_⟩
    · obtain ⟨f', outcome, happend, hstatus⟩ :=
        appendEvent_resume hpaused hlog hc hauthority hnamed hafter
      obtain ⟨s', hexecute, hstatus'⟩ := execute_event hc.source hc.eventType hf happend
      exact ⟨s', outcome, hexecute, by rw [hstatus', hstatus]⟩
    · obtain ⟨s', outcome, wrote⟩ := result
      obtain ⟨f', happend, -⟩ := event_appended hc.source hf hexecute
      obtain ⟨-, hvalid, -⟩ := appendEvent_ok happend
      have hwanted := ((validateEventTransition_resume hpaused hlog hc).1 hvalid).1
      rw [hnamed] at hwanted
      exact hother (Option.some.inj hwanted).symm

/-- A paused case resumes exactly where it was if the last that was written to it names the stage of
the pause, as it does while only events that name it are written. -/
theorem pause_resumes_iff (clock : Int) (references : References) (inputs inputs' : List Input)
    {pause : EventCommand} (htype : pause.eventType = .statusTransitioned)
    (hafter : pause.afterStatus = .paused)
    (hstage : statusOf (history clock references inputs) pause.closureCaseId = some stage)
    (hle : startedAt ≤ (history clock references inputs).clock)
    (hpause : execute (history clock references inputs) startedAt (.transitionCase pause) =
      .ok (s, outcome, true))
    (hstays : Runs.Along step (StaysPaused pause.closureCaseId) s inputs')
    {now : State}
    (hnow : now = history clock references
      (inputs ++ .command startedAt (.transitionCase pause) :: inputs'))
    (hf : now.cases[pause.closureCaseId]? = some f)
    (hauthority : now.references.caseAuthority f.record = true) :
    ((∀ startedAt' c, c.closureCaseId = pause.closureCaseId → ResumeCommand now f c →
        ResumesTo now startedAt' c stage) ↔ f.namedStage = some stage) ∧
    (Runs.Along step (Remembering pause.closureCaseId stage) s inputs' →
      f.namedStage = some stage) := by
  have hlogged := history_logged clock references inputs
  have hs := step_execute hle hpause
  have hnow' : now = Runs.runs step s inputs' := by
    rw [hnow, history_append, Runs.runs_cons, hs]
  subst hnow'
  obtain ⟨before, hbefore, rfl⟩ := Option.map_eq_some_iff.1 hstage
  obtain ⟨g, happend, hg⟩ : ∃ g, appendEvent (history clock references inputs) before pause =
      .ok (g, outcome) ∧ s.cases[pause.closureCaseId]? = some g := by
    obtain ⟨-, -, ⟨hwrote, -⟩ | ⟨-, hfresh, -⟩⟩ := execute_ok hpause
    · cases hwrote
    · exact event_appended hfresh hbefore hpause
  obtain ⟨hpaused, hnamed⟩ := appendEvent_pause happend (hlogged _ before hbefore).2 htype hafter
  have hnamed' : g.namedStage = some before.record.status := by
    obtain ⟨-, -, rfl, -⟩ := appendEvent_ok happend
    simpa only [CaseFile.namedStage, List.getLast?_concat, Option.bind_some] using hnamed
  obtain ⟨f', hf', hpaused', hremembers⟩ := runs_paused hg hpaused hstays
  obtain rfl : f = f' := Option.some.inj (hf.symm.trans hf')
  have hlogged' : AllLogged s := hs ▸ step_logged _ hlogged
  exact ⟨resumesTo_iff hf hpaused' (runs_logged inputs' hlogged' _ f hf).1 hauthority,
    fun halong => hremembers halong hnamed'⟩

def pauseOne : EventCommand :=
  eventOne .statusTransitioned .recoveryAssessmentPending .paused 0 10
    { recoveryAction := some .pause, pausedFromStatus := some .recoveryAssessmentPending }

/-- A recovery is assessed until 10. -/
def assessedInputs : List Input :=
  [.command 0 (.createCase (createOne ⟨.earlyTermination, .recovery, .terminate⟩)), .tick 10]

/-- It is paused until 15. -/
def pausedInputs : List Input :=
  assessedInputs ++ [.command 10 (.transitionCase pauseOne), .tick 5]

/-- The paused case resumes where it was. -/
theorem paused_case_resumes : ∃ f, (history 0 oneOrder pausedInputs).cases[0]? = some f ∧
    ∀ startedAt c, c.closureCaseId = 0 → ResumeCommand (history 0 oneOrder pausedInputs) f c →
      ResumesTo (history 0 oneOrder pausedInputs) startedAt c .recoveryAssessmentPending := by
  have hrow : (history 0 oneOrder pausedInputs).cases[0]?.map
      (fun f => (f.namedStage, oneOrder.caseAuthority f.record)) =
      some (some .recoveryAssessmentPending, true) := by decide +kernel
  obtain ⟨f, hf, hrow⟩ := Option.map_eq_some_iff.1 hrow
  obtain ⟨hnamed, hauthority⟩ := Prod.mk.inj hrow
  have haccepted : (execute (history 0 oneOrder assessedInputs) 10
      (.transitionCase pauseOne)).map (·.2.2) = .ok true := by decide +kernel
  rcases hexecute : execute (history 0 oneOrder assessedInputs) 10 (.transitionCase pauseOne) with
    error | ⟨s, outcome, wrote⟩
  · rw [hexecute] at haccepted
    cases haccepted
  · rw [hexecute] at haccepted
    obtain rfl : wrote = true := Except.ok.inj haccepted
    have hs : s = history 0 oneOrder (pausedInputs.take 3) :=
      (step_execute (by decide +kernel) hexecute).symm
    refine ⟨f, hf, (pause_resumes_iff 0 oneOrder assessedInputs [.tick 5] rfl rfl
      (by decide +kernel) (by decide +kernel) hexecute ?_ rfl hf hauthority).1.2 hnamed⟩
    refine ⟨?_, trivial⟩
    rw [hs]
    show statusOf (history 0 oneOrder pausedInputs) 0 = some .paused
    decide +kernel

def resumeOne : EventCommand :=
  eventOne .statusTransitioned .paused .recoveryAssessmentPending 2 15
    { recoveryAction := some .resume, resumedStage := some .recoveryAssessmentPending }

/-- A note is added to the paused case. -/
def notedInputs : List Input :=
  pausedInputs ++ [.command 15 (.transitionCase (eventOne .noteAdded .paused .paused 1 15 {}))]

/-- The note has lost the stage: the case does not resume. -/
theorem note_loses_stage : ∃ f, (history 0 oneOrder notedInputs).cases[0]? = some f ∧
    f.record.status = .paused ∧ ResumeCommand (history 0 oneOrder notedInputs) f resumeOne ∧
    ¬ResumesTo (history 0 oneOrder notedInputs) 15 resumeOne .recoveryAssessmentPending := by
  have hrow : (history 0 oneOrder notedInputs).cases[0]?.map
      (fun f => (f.record.status, f.record.version, latestOccurredAt f.events)) =
      some (.paused, 2, some 15) := by decide +kernel
  obtain ⟨f, hf, hrow⟩ := Option.map_eq_some_iff.1 hrow
  obtain ⟨hstatus, hrow⟩ := Prod.mk.inj hrow
  obtain ⟨hversion, hlatest⟩ := Prod.mk.inj hrow
  have hfresh : ∀ receipt ∈ (history 0 oneOrder notedInputs).receipts.map (·.command.source),
      receipt ≠ resumeOne.source := by decide +kernel
  refine ⟨f, hf, hstatus, ⟨rfl, rfl, rfl, rfl, hversion.symm, ?_, .inr hlatest, rfl, rfl, ?_⟩, ?_⟩
  · intro latest h
    rw [hlatest] at h
    exact (Option.some.inj h).ge
  · exact fun receipt hmem => hfresh _ (List.mem_map_of_mem hmem)
  · intro hresumes
    obtain ⟨s', outcome, hexecute, -⟩ := hresumes.1 rfl
    have hrefused : (execute (history 0 oneOrder notedInputs) 15 (.transitionCase resumeOne)).isOk =
        false := by decide +kernel
    rw [hexecute] at hrefused
    cases hrefused

end SubscriptionSaas.Closure
