import SubscriptionSaas.Journey.Course

/-!
# The moves of a course

Every move keeps what holds of the course of every journey, and no move leaves a status at which the
journey has come to its end. The steps that a journey has not reached are pending, which is why the
row of the step that follows has the status with which the journey arrives there.
-/

namespace SubscriptionSaas.Journey

/-! ## The order of the steps -/

theorem nextStep_index {code following : StepCode} (h : nextStep code .completed = some following) :
    following.index = code.index + 1 := by
  cases code <;> cases following <;> first | rfl | exact absurd h (by decide)

theorem StepCode.index_inj {code code' : StepCode} (h : code.index = code'.index) : code = code' := by
  cases code <;> cases code' <;> first | rfl | exact absurd h (by decide)

namespace Course

variable {c c' : Course}

/-- The vehicle step is not passed over, since the journey has not reached it. -/
theorem Ok.next_eq (h : c.Ok) (hlive : c.status.terminal = false) :
    c.next = nextStep c.code .completed := by
  unfold next
  split
  · rename_i hnext
    have hindex : c.code.index < StepCode.finalVehicleAllocation.index := by
      have := nextStep_index hnext
      omega
    rw [if_neg fun hrow => absurd (h.later hlive _ _ hindex hrow) (by decide)]
    exact hnext.symm
  · rfl

theorem Ok.next_index (h : c.Ok) (hlive : c.status.terminal = false) {following : StepCode}
    (hnext : c.next = some following) : following.index = c.code.index + 1 :=
  nextStep_index ((h.next_eq hlive).symm.trans hnext)

/-! ## The moves -/

/-- The later rows, with a row of a step that is not later updated. -/
theorem later_update {rows : StepCode → Option StepStatus} {code code' : StepCode}
    {status : StepStatus} (hle : code'.index ≤ code.index)
    (hlater : ∀ later status, code.index < later.index → rows later = some status →
      status = .pending) :
    ∀ later status', code.index < later.index →
      Function.update rows code' (some status) later = some status' → status' = .pending := by
  intro later status' hlt hrow
  have hne : later ≠ code' := by
    rintro rfl
    omega
  rw [Function.update_of_ne hne] at hrow
  exact hlater later status' hlt hrow

/-- A journey that comes to stand at an open step, with the later steps still before it. -/
theorem ok_stand {code : StepCode} {stepStatus : StepStatus} {status : JourneyStatus}
    (hlive : status.terminal = false) (hnotPaused : status ≠ .paused)
    (hfailed : status = .exception ↔ stepStatus = .exception) (hended : stepStatus.ended = false)
    (hlater : ∀ later status, code.index < later.index → c.rows later = some status →
      status = .pending) : (c.stand code stepStatus status).Ok := by
  have hrow : (c.stand code stepStatus status).rows code = some stepStatus := Function.update_self ..
  refine ⟨?_, ?_, fun _ => later_update (Nat.le_refl _) hlater, fun _ => hended,
    fun hpaused => absurd hpaused hnotPaused, ?_, ?_⟩
  · intro _ status' hst
    exact (Option.some.inj (hrow.symm.trans hst)).symm
  · intro _ hnone
    cases hrow.symm.trans hnone
  · intro _
    have hrunning : (c.stand code stepStatus status).running = status := if_neg hnotPaused
    rw [hrunning]
    exact hfailed
  · intro hcompleted
    obtain rfl : status = .completed := hcompleted
    cases hlive

theorem Ok.complete (h : c.Ok) (hmove : c.CanMove) : c.complete.Ok := by
  have hlive := hmove.live
  have hrow : c.complete.rows c.code = some .completed := Function.update_self ..
  rcases hnext : c.next with _ | following
  · -- the last step
    have hcode : c.complete.code = c.code := by simp [Course.complete, hnext]
    have hstatus : c.complete.status = .completed := by simp [Course.complete, hnext]
    have hstep : c.complete.stepStatus = .completed := by simp [Course.complete, hnext]
    refine ⟨?_, ?_, ?_, ?_, ?_, ?_, ?_⟩
    · intro _ status hst
      rw [hcode, hrow] at hst
      rw [hstep]
      exact (Option.some.inj hst).symm
    all_goals intro hcontra
    · rw [hstatus] at hcontra
      cases hcontra
    · rw [hstatus] at hcontra
      cases hcontra
    · rw [hstatus] at hcontra
      cases hcontra
    · rw [hstatus] at hcontra
      cases hcontra
    · rw [hstatus] at hcontra
      cases hcontra
    · rw [hcode]
      exact ⟨hrow, hstep⟩
  · have hcode : c.complete.code = following := by simp [Course.complete, hnext]
    have hstatus : c.complete.status = .running := by simp [Course.complete, hnext]
    have hstep : c.complete.stepStatus = .pending := by simp [Course.complete, hnext]
    have hindex := h.next_index hlive hnext
    -- the journey has not reached the step that follows, nor those after it
    have hpending : ∀ code status, c.code.index < code.index → c.complete.rows code = some status →
        status = .pending := later_update (Nat.le_refl _) (h.later hlive)
    refine ⟨?_, ?_, ?_, ?_, ?_, ?_, ?_⟩
    · intro _ status hst
      rw [hcode] at hst
      rw [hstep]
      exact hpending following status (by omega) hst
    · intro _ _
      exact hstep
    · intro _ code status hlt hst
      rw [hcode] at hlt
      exact hpending code status (by omega) hst
    · intro _
      rw [hstep]
      rfl
    · intro hcontra
      rw [hstatus] at hcontra
      cases hcontra
    · intro _
      rw [running, hstatus, hstep]
      simp
    · intro hcontra
      rw [hstatus] at hcontra
      cases hcontra

theorem Ok.fail (h : c.Ok) (hlive : c.status.terminal = false) : c.fail.Ok := by
  have hrow : c.fail.rows c.code = some .exception := Function.update_self ..
  have hstatus : c.fail.status.terminal = false := by
    unfold Course.fail
    dsimp only
    split <;> rfl
  refine ⟨?_, ?_, ?_, ?_, ?_, ?_, ?_⟩
  · intro _ status hst
    exact (Option.some.inj (hrow.symm.trans hst)).symm
  · intro _ hnone
    exact absurd (hrow.symm.trans hnone) nofun
  · intro _
    exact later_update (Nat.le_refl _) (h.later hlive)
  · intro _
    rfl
  · intro hpaused
    by_cases hc : c.status = .paused
    · refine ⟨.exception, ?_, rfl, nofun⟩
      simp [Course.fail, hc]
    · simp [Course.fail, hc] at hpaused
  · intro _
    by_cases hc : c.status = .paused <;> simp [running, Course.fail, hc]
  · intro hcontra
    rw [hcontra] at hstatus
    cases hstatus

theorem Ok.pause (h : c.Ok) (hlive : c.status.terminal = false) (hnot : c.status ≠ .paused) :
    Ok { c with status := .paused, pausedFrom := some c.status } := by
  have hrunning : c.running = c.status := if_neg hnot
  refine ⟨?_, fun _ => h.absent hlive, fun _ => h.later hlive, fun _ => h.live hlive,
    fun _ => ⟨c.status, rfl, hlive, hnot⟩, fun _ => ?_, nofun⟩
  · intro _
    exact h.agrees fun hcancelled => by simp [hcancelled, JourneyStatus.terminal] at hlive
  · have hfailed := h.failed hlive
    rw [hrunning] at hfailed
    exact hfailed

theorem Ok.resume (h : c.Ok) {status : JourneyStatus} (hpaused : c.status = .paused)
    (hfrom : c.pausedFrom = some status) : Ok { c with status := status, pausedFrom := none } := by
  have hlive : c.status.terminal = false := by
    rw [hpaused]
    rfl
  obtain ⟨status', hfrom', hstatus, hnot⟩ := h.paused hpaused
  obtain rfl : status = status' := Option.some.inj (hfrom.symm.trans hfrom')
  refine ⟨fun _ => h.agrees (by simp [hpaused]), fun _ => h.absent hlive, fun _ => h.later hlive,
    fun _ => h.live hlive, fun hcontra => absurd hcontra hnot, fun _ => ?_, ?_⟩
  · have hfailed := h.failed hlive
    rw [running, if_pos hpaused, hfrom] at hfailed
    rw [running, if_neg hnot]
    exact hfailed
  · intro hcontra
    dsimp only at hcontra
    rw [hcontra] at hstatus
    cases hstatus

theorem Ok.cancel : c.cancel.Ok := by
  refine ⟨fun hcontra => absurd rfl hcontra, ?_, ?_, ?_, ?_, ?_, ?_⟩ <;> intro hcontra <;> cases hcontra

/-- A new revision of the plan: the steps that it goes through again are pending. -/
theorem Ok.replan (h : c.Ok) (hmove : c.CanMove) (hcode : c.code = .orderAndContractCreation) :
    ((c.reset replannedSteps).stand .finalPlanDecision .waitingManual .waitingManual).Ok := by
  refine ok_stand rfl nofun (by decide) rfl ?_
  intro code status hlt hrow
  simp only [reset] at hrow
  split at hrow
  · obtain ⟨_, -, rfl⟩ := Option.map_eq_some_iff.1 hrow
    rfl
  · rename_i hreplanned
    refine h.later hmove.live code status ?_ hrow
    rw [hcode]
    cases code <;> first | exact absurd rfl hreplanned | exact absurd hlt (by decide) | decide

theorem Ok.reconfirm (h : c.Ok) (hmove : c.CanMove) (hcode : c.code = .finalVehicleAllocation) :
    ({ c with rows := Function.update c.rows c.code (some .completed) }.stand
      .customerPlanConfirmation .waitingCustomer .waitingCustomer).Ok := by
  refine ok_stand rfl nofun (by decide) rfl ?_
  intro code status hlt hrow
  have hbefore : c.code.index < code.index := by
    rw [hcode]
    exact Nat.lt_trans (by decide) hlt
  exact later_update (Nat.le_refl _) (h.later hmove.live) code status hbefore hrow

theorem Ok.rehand (h : c.Ok) (hmove : c.CanMove) (hcode : c.code = .deliveryEvidenceDecision) :
    ((c.reset [.deliveryEvidenceDecision]).stand .handoverAndStage2Creation .running .running).Ok := by
  refine ok_stand rfl nofun (by decide) rfl ?_
  intro code status hlt hrow
  simp only [reset] at hrow
  split at hrow
  · obtain ⟨_, -, rfl⟩ := Option.map_eq_some_iff.1 hrow
    rfl
  · rename_i hdelivery
    refine h.later hmove.live code status ?_ hrow
    rw [hcode]
    cases code <;> first | exact absurd rfl hdelivery | exact absurd hlt (by decide) | decide

theorem Ok.step (h : c.Ok) (hstep : Step c c') : c'.Ok := by
  cases hstep with
  | observe => exact h
  | complete hmove => exact h.complete hmove
  | waitCustomer hmove | waitManual hmove =>
    exact ok_stand rfl nofun (by decide) rfl (h.later hmove.live)
  | fail hlive => exact h.fail hlive
  | pause hlive hnot => exact h.pause hlive hnot
  | resume hpaused hfrom => exact h.resume hpaused hfrom
  | retry hexception =>
    exact ok_stand rfl nofun (by decide) rfl (h.later (by rw [hexception]; rfl))
  | cancel hlive => exact Ok.cancel
  | replan hmove hcode => exact h.replan hmove hcode
  | reconfirm hmove hcode => exact h.reconfirm hmove hcode
  | rehand hmove hcode => exact h.rehand hmove hcode

/-- A row of a step that is not there yet is created pending. -/
theorem Ok.touch (h : c.Ok) {code : StepCode} (hnone : c.rows code = none) :
    Ok { c with rows := Function.update c.rows code (some .pending) } := by
  have hrow : ∀ code' status, code' ≠ code →
      Function.update c.rows code (some .pending) code' = some status →
      c.rows code' = some status := by
    intro code' status hne hst
    rwa [Function.update_of_ne hne] at hst
  have hpending : ∀ status, Function.update c.rows code (some StepStatus.pending) code = some status →
      status = .pending := by
    intro status hst
    rw [Function.update_self] at hst
    exact (Option.some.inj hst).symm
  refine ⟨?_, ?_, ?_, h.live, h.paused, h.failed, ?_⟩
  · intro hne status hst
    by_cases hcode : c.code = code
    · subst hcode
      rw [hpending status hst]
      have hlive : c.status.terminal = false := by
        rcases hstatus : c.status with _ | _ | _ | _ | _ | _ | _ | _ <;> try rfl
        · exact absurd ((h.completed hstatus).1.symm.trans hnone) nofun
        · exact absurd hstatus hne
      exact (h.absent hlive hnone).symm
    · exact h.agrees hne status (hrow _ _ hcode hst)
  · intro hlive hst
    by_cases hcode : c.code = code
    · subst hcode
      exact h.absent hlive hnone
    · dsimp only at hst
      rw [Function.update_of_ne hcode] at hst
      exact h.absent hlive hst
  · intro hlive code' status hlt hst
    by_cases hcode : code' = code
    · subst hcode
      exact hpending status hst
    · exact h.later hlive code' status hlt (hrow _ _ hcode hst)
  · intro hcompleted
    obtain ⟨hrow', hstep⟩ := h.completed hcompleted
    have hcode : c.code ≠ code := by
      intro hcode
      rw [hcode, hnone] at hrow'
      cases hrow'
    refine ⟨?_, hstep⟩
    dsimp only
    rwa [Function.update_of_ne hcode]

/-! ## The end of a journey -/

/-- No move leaves a status at which the journey has come to its end. -/
theorem Step.terminal (hstep : Step c c') (hterminal : c.status.terminal = true) :
    c' = c := by
  have hlive : c.status.terminal ≠ false := by
    rw [hterminal]
    nofun
  cases hstep with
  | observe => rfl
  | complete hmove | waitCustomer hmove | waitManual hmove => exact absurd hmove.live hlive
  | replan hmove | reconfirm hmove | rehand hmove => exact absurd hmove.live hlive
  | fail hlive' | pause hlive' | cancel hlive' => exact absurd hlive' hlive
  | resume hpaused =>
    rw [hpaused] at hterminal
    cases hterminal
  | retry hexception =>
    rw [hexception] at hterminal
    cases hterminal

/-- A journey that is cancelled has cancelled the row of its step. -/
theorem Step.agrees (h : c.Ok) (hagrees : c.Agrees) (hstep : Step c c') : c'.Agrees := by
  have hok := h.step hstep
  by_cases hcancelled : c'.status = .cancelled
  · by_cases hterminal : c.status.terminal = true
    · rwa [hstep.terminal hterminal]
    · cases hstep with
      | observe => exact hagrees
      | cancel hlive =>
        intro status hst
        obtain ⟨status', hst', rfl⟩ := Option.map_eq_some_iff.1 hst
        have hended := h.live hlive
        rw [← hagrees status' hst'] at hended
        refine if_neg ?_
        rintro rfl
        cases hended
      | complete hmove =>
        exfalso
        revert hcancelled
        show (if c.next.isSome then JourneyStatus.running else .completed) = .cancelled → False
        split <;> nofun
      | fail hlive =>
        exfalso
        revert hcancelled
        show (if c.status = .paused then JourneyStatus.paused else .exception) = .cancelled → False
        split <;> nofun
      | resume hpaused hfrom =>
        obtain ⟨status', hfrom', hlive, -⟩ := h.paused hpaused
        obtain rfl := Option.some.inj (hfrom.symm.trans hfrom')
        dsimp only at hcancelled
        rw [hcancelled] at hlive
        cases hlive
      | waitCustomer | waitManual | pause | retry | replan | reconfirm | rehand => cases hcancelled
  · exact hok.agrees hcancelled

end Course

end SubscriptionSaas.Journey
