import Mathlib.Data.List.Induction
import Mathlib.Data.List.Nodup
import SubscriptionSaas.Release.ExecutionStateMachine

/-!
# A release execution and its commit

What an accepted event does to the status and the commit flag is listed in `Move`. The flag alone does
not remember a commit: a lost process and a reconciliation may report the opposite of what was
accepted before, and a failed replay or reconciliation ends the operation as failed. `Harmful` is the
list of the steps that do so; a run without them never forgets.
-/

namespace SubscriptionSaas.Release

open Results

variable {s s' s₀ : ExecutionState} {e : ExecutionEvent} {evs pre : List ExecutionEvent}

/-! ## One accepted event -/

theorem transitionAllowed_ok {allowed : List ExecutionStatus} {u : Unit}
    (h : transitionAllowed s allowed = .ok u) : s.status ∈ allowed := by
  simpa using require_ok h

theorem assertAttemptAvailable_ok {attemptId : Option String} {id : String}
    (h : assertAttemptAvailable s attemptId = .ok id) :
    id = attemptId.getD "" ∧ id ∉ s.attemptIds := by
  obtain ⟨u, hcheck, hid⟩ := bind_ok h
  obtain rfl : attemptId.getD "" = id := Except.ok.inj hid
  have h := require_ok hcheck
  simp only [Bool.and_eq_true, Bool.not_eq_true'] at h
  exact ⟨rfl, by simpa using h.2⟩

theorem assertApplyAllowed_ok {a b c d : Option String} {u : Unit}
    (h : assertApplyAllowed s a b c d = .ok u) : s.status = .dryRunSucceeded := by
  obtain ⟨_, -, h⟩ := bind_ok h
  obtain ⟨_, -, h⟩ := bind_ok h
  obtain ⟨_, h, -⟩ := bind_ok h
  simpa using require_ok h

/-- The attempt that an event begins. -/
def ExecutionEvent.attempt? (e : ExecutionEvent) : Option String :=
  match e.type with
  | .preflightRejected | .dryRunSucceeded | .applyStarted | .replayStarted | .reconcileStarted =>
    some (e.attemptId.getD "")
  | _ => none

/-- The status and the commit flag, as an accepted event changes them. -/
inductive Move (s : ExecutionState) (e : ExecutionEvent) (s' : ExecutionState) : Prop
  | rejected (htype : e.type = .preflightRejected) (hfrom : s.status = .ready)
      (hto : s'.status = .preflightRejected) (hcommit : s'.commitState = .notStarted)
  | dryRun (htype : e.type = .dryRunSucceeded) (hfrom : s.status = .ready)
      (hto : s'.status = .dryRunSucceeded) (hcommit : s'.commitState = .notStarted)
  | started (htype : e.type = .applyStarted) (hfrom : s.status = .dryRunSucceeded ∨ e.state.isSome)
      (hto : s'.status = .applying) (hcommit : s'.commitState = .notConfirmed)
  | committed (htype : e.type = .applyCommitted) (hfrom : s.status = .applying)
      (hto : s'.status = .applyCommittedPendingProof) (hcommit : s'.commitState = .committed)
  | replay (htype : e.type = .replayStarted) (hfrom : s.status = .succeeded)
      (hto : s'.status = .replaying) (hcommit : s'.commitState = .notApplicable)
  | proved (htype : e.type = .attemptProved)
      (hfrom : s.status = .applyCommittedPendingProof ∨ s.status = .replaying)
      (hto : s'.status = .succeeded) (hcommit : s'.commitState ≠ .notCommitted)
  | lostUncommitted (htype : e.type = .processLost) (hreport : e.commitState = some .notCommitted)
      (hfrom : s.status = .applying ∨ s.status = .applyCommittedPendingProof)
      (hto : s'.status = .failed) (hcommit : s'.commitState = .notCommitted)
  | lost (htype : e.type = .processLost) (hreport : e.commitState ≠ some .notCommitted)
      (hfrom : s.status = .applying ∨ s.status = .applyCommittedPendingProof)
      (hto : s'.status = .interruptedUnknown) (hcommit : s'.commitState ≠ .notCommitted)
  | reconcile (htype : e.type = .reconcileStarted) (hfrom : s.status = .interruptedUnknown)
      (hto : s'.status = .reconciling) (hcommit : s'.commitState = s.commitState)
  | resolvedCommitted (htype : e.type = .reconcileResolved)
      (hreport : e.databaseOutcome = some .committed) (hfrom : s.status = .reconciling)
      (hto : s'.status = .succeeded) (hcommit : s'.commitState = .committed)
  | resolvedUncommitted (htype : e.type = .reconcileResolved)
      (hreport : e.databaseOutcome = some .notCommitted) (hfrom : s.status = .reconciling)
      (hto : s'.status = .failed) (hcommit : s'.commitState = .notCommitted)
  | failed (htype : e.type = .attemptFailed)
      (hfrom : s.status = .applying ∨ s.status = .replaying ∨ s.status = .reconciling)
      (hto : s'.status = .failed)

/-- An attempt that an accepted event begins is a new one, and is remembered. -/
def Attempts (s : ExecutionState) (e : ExecutionEvent) (s' : ExecutionState) : Prop :=
  match e.attempt? with
  | some id => id ∉ s.attemptIds ∧ s'.attemptIds = s.attemptIds ++ [id]
  | none => s'.attemptIds = s.attemptIds

theorem Attempts.begun {id : String} (hattempt : e.attempt? = some (e.attemptId.getD ""))
    (hid : id = e.attemptId.getD "" ∧ id ∉ s.attemptIds)
    (hids : s'.attemptIds = s.attemptIds ++ [id]) : Attempts s e s' := by
  unfold Attempts
  rw [hattempt]
  exact ⟨hid.1 ▸ hid.2, hid.1 ▸ hids⟩

theorem Attempts.kept (hattempt : e.attempt? = none) (hids : s'.attemptIds = s.attemptIds) :
    Attempts s e s' := by
  unfold Attempts
  rw [hattempt]
  exact hids

theorem transition_move (h : transitionExecution s e = .ok s') : Move s e s' ∧ Attempts s e s' := by
  unfold transitionExecution at h
  obtain ⟨-, h⟩ := guard_ok h
  have hattempt : e.attempt? = e.attempt? := rfl
  conv at hattempt => rhs; unfold ExecutionEvent.attempt?
  cases htype : e.type <;> simp only [htype] at h hattempt
  case preflightRejected =>
    obtain ⟨_, hallowed, h⟩ := bind_ok h
    obtain ⟨id, hid, h⟩ := bind_ok h
    split at h
    · obtain rfl := Except.ok.inj h
      exact ⟨.rejected htype (by simpa using transitionAllowed_ok hallowed) rfl rfl,
        .begun hattempt (assertAttemptAvailable_ok hid) rfl⟩
    · cases h
  case dryRunSucceeded =>
    obtain ⟨_, hallowed, h⟩ := bind_ok h
    obtain ⟨id, hid, h⟩ := bind_ok h
    obtain ⟨_, -, h⟩ := bind_ok h
    obtain rfl := Except.ok.inj h
    exact ⟨.dryRun htype (by simpa using transitionAllowed_ok hallowed) rfl rfl,
      .begun hattempt (assertAttemptAvailable_ok hid) rfl⟩
  case applyStarted =>
    obtain ⟨_, hallowed, h⟩ := bind_ok h
    obtain ⟨id, hid, h⟩ := bind_ok h
    obtain rfl := Except.ok.inj h
    refine ⟨.started htype ?_ rfl rfl, .begun hattempt (assertAttemptAvailable_ok hid) rfl⟩
    have hdry := assertApplyAllowed_ok hallowed
    cases hstate : e.state with
    | none =>
      rw [hstate] at hdry
      exact .inl hdry
    | some own => exact .inr rfl
  case applyCommitted =>
    obtain ⟨_, hallowed, h⟩ := bind_ok h
    obtain rfl := Except.ok.inj h
    exact ⟨.committed htype (by simpa using transitionAllowed_ok hallowed) rfl rfl,
      .kept hattempt rfl⟩
  case replayStarted =>
    obtain ⟨_, hallowed, h⟩ := bind_ok h
    obtain ⟨_, -, h⟩ := bind_ok h
    obtain ⟨id, hid, h⟩ := bind_ok h
    obtain rfl := Except.ok.inj h
    exact ⟨.replay htype (by simpa using transitionAllowed_ok hallowed) rfl rfl,
      .begun hattempt (assertAttemptAvailable_ok hid) rfl⟩
  case attemptProved =>
    obtain ⟨_, hallowed, h⟩ := bind_ok h
    obtain ⟨_, -, h⟩ := bind_ok h
    split at h
    · cases h
    · rename_i attempt _
      obtain rfl := Except.ok.inj h
      refine ⟨.proved htype (by simpa using transitionAllowed_ok hallowed) rfl ?_,
        .kept hattempt rfl⟩
      show (if attempt.phase == "apply" then CommitState.committed else .notApplicable) ≠ _
      split <;> decide
  case processLost =>
    obtain ⟨_, hallowed, h⟩ := bind_ok h
    have hfrom : s.status = .applying ∨ s.status = .applyCommittedPendingProof := by
      simpa using transitionAllowed_ok hallowed
    split at h
    · rename_i hreport
      obtain rfl := Except.ok.inj h
      exact ⟨.lostUncommitted htype hreport hfrom rfl rfl, .kept hattempt rfl⟩
    · rename_i hreport
      obtain rfl := Except.ok.inj h
      exact ⟨.lost htype (by simp [hreport]) hfrom rfl (by simp), .kept hattempt rfl⟩
    · rename_i hreport
      obtain rfl := Except.ok.inj h
      exact ⟨.lost htype (by simp [hreport]) hfrom rfl (by simp), .kept hattempt rfl⟩
    · cases h
  case reconcileStarted =>
    obtain ⟨_, hallowed, h⟩ := bind_ok h
    obtain ⟨_, -, h⟩ := bind_ok h
    obtain ⟨id, hid, h⟩ := bind_ok h
    obtain rfl := Except.ok.inj h
    exact ⟨.reconcile htype (by simpa using transitionAllowed_ok hallowed) rfl rfl,
      .begun hattempt (assertAttemptAvailable_ok hid) rfl⟩
  case reconcileResolved =>
    obtain ⟨_, hallowed, h⟩ := bind_ok h
    obtain ⟨_, -, h⟩ := bind_ok h
    have hfrom : s.status = .reconciling := by simpa using transitionAllowed_ok hallowed
    split at h
    · rename_i hreport
      obtain rfl := Except.ok.inj h
      exact ⟨.resolvedCommitted htype hreport hfrom rfl rfl, .kept hattempt rfl⟩
    · rename_i hreport
      obtain rfl := Except.ok.inj h
      exact ⟨.resolvedUncommitted htype hreport hfrom rfl rfl, .kept hattempt rfl⟩
    · cases h
  case attemptFailed =>
    obtain ⟨_, hallowed, h⟩ := bind_ok h
    obtain ⟨_, -, h⟩ := bind_ok h
    obtain rfl := Except.ok.inj h
    exact ⟨.failed htype (by simpa using transitionAllowed_ok hallowed) rfl, .kept hattempt rfl⟩
  case unimplemented => cases h

/-! ## Runs -/

/-- An event of the type is among the events. -/
def Has (type : EventType) (evs : List ExecutionEvent) : Prop := ∃ e ∈ evs, e.type = type

instance (type : EventType) (evs : List ExecutionEvent) : Decidable (Has type evs) :=
  inferInstanceAs (Decidable (∃ e ∈ evs, e.type = type))

theorem Has.append {type : EventType} (h : Has type pre) : Has type (pre ++ evs) := by
  obtain ⟨e, he, ht⟩ := h
  exact ⟨e, List.mem_append_left _ he, ht⟩

theorem has_snoc {type : EventType} : Has type (pre ++ [e]) ↔ Has type pre ∨ e.type = type := by
  constructor
  · rintro ⟨x, hx, ht⟩
    rcases List.mem_append.mp hx with hold | hnew
    · exact .inl ⟨x, hold, ht⟩
    · exact .inr (List.mem_singleton.mp hnew ▸ ht)
  · rintro (h | ht)
    · exact h.append
    · exact ⟨e, List.mem_append_right _ List.mem_cons_self, ht⟩

theorem acceptAll_append {post : List ExecutionEvent} (h : acceptAll s₀ (pre ++ post) = .ok s) :
    ∃ mid, acceptAll s₀ pre = .ok mid ∧ acceptAll mid post = .ok s := by
  unfold acceptAll at h
  rw [List.foldlM_append] at h
  exact bind_ok h

theorem acceptAll_snoc (h : acceptAll s₀ (pre ++ [e]) = .ok s') :
    ∃ s, acceptAll s₀ pre = .ok s ∧ transitionExecution s e = .ok s' := by
  obtain ⟨s, hpre, hlast⟩ := acceptAll_append h
  obtain ⟨x, hx, hnil⟩ := bind_ok hlast
  obtain rfl : x = s' := Except.ok.inj hnil
  exact ⟨s, hpre, hx⟩

/-- What every accepted event preserves holds after every accepted run. -/
theorem acceptAll_invariant (evs : List ExecutionEvent)
    (Inv : List ExecutionEvent → ExecutionState → Prop) (hinit : Inv [] s₀)
    (hstep : ∀ pre e s s', acceptAll s₀ pre = .ok s → transitionExecution s e = .ok s' →
      (∃ post, evs = pre ++ e :: post) → Inv pre s → Inv (pre ++ [e]) s')
    (pre post : List ExecutionEvent) (hevs : evs = pre ++ post) (s : ExecutionState)
    (h : acceptAll s₀ pre = .ok s) : Inv pre s := by
  induction pre using List.reverseRecOn generalizing post s with
  | nil =>
    obtain rfl : s₀ = s := Except.ok.inj h
    exact hinit
  | append_singleton pre e ih =>
    obtain ⟨mid, hpre, hlast⟩ := acceptAll_snoc h
    have hsplit : evs = pre ++ e :: post := by rw [hevs, List.append_assoc]; rfl
    exact hstep pre e mid s hpre hlast ⟨post, hsplit⟩ (ih (e :: post) hsplit mid hpre)

/-- Before an apply has started, the status is one of the first three. -/
theorem started_of_status (hs₀ : s₀.status = .ready) (h : acceptAll s₀ pre = .ok s)
    (hstatus : s.status ≠ .ready ∧ s.status ≠ .preflightRejected ∧ s.status ≠ .dryRunSucceeded) :
    Has .applyStarted pre := by
  have key := acceptAll_invariant pre
    (fun pre s => s.status = .ready ∨ s.status = .preflightRejected ∨ s.status = .dryRunSucceeded ∨
      Has .applyStarted pre) (.inl hs₀) ?_ pre [] (List.append_nil _).symm s h
  · obtain ⟨h₁, h₂, h₃⟩ := hstatus
    rcases key with hk | hk | hk | hk
    · exact absurd hk h₁
    · exact absurd hk h₂
    · exact absurd hk h₃
    · exact hk
  · intro pre e s s' _ hstep _ hinv
    have hkeep : ∀ {status : ExecutionStatus}, s.status = status → status ≠ .ready →
        status ≠ .preflightRejected → status ≠ .dryRunSucceeded → Has .applyStarted (pre ++ [e]) := by
      intro status heq h₁ h₂ h₃
      rcases hinv with hk | hk | hk | hk
      · exact absurd (heq.symm.trans hk) h₁
      · exact absurd (heq.symm.trans hk) h₂
      · exact absurd (heq.symm.trans hk) h₃
      · exact hk.append
    cases (transition_move hstep).1 with
    | rejected _ _ hto _ => exact .inr (.inl hto)
    | dryRun _ _ hto _ => exact .inr (.inr (.inl hto))
    | started htype _ _ _ => exact .inr (.inr (.inr (has_snoc.mpr (.inr htype))))
    | committed _ hfrom _ _ =>
      exact .inr (.inr (.inr (hkeep hfrom (by decide) (by decide) (by decide))))
    | replay _ hfrom _ _ =>
      exact .inr (.inr (.inr (hkeep hfrom (by decide) (by decide) (by decide))))
    | proved _ hfrom _ _ | lostUncommitted _ _ hfrom _ _ | lost _ _ hfrom _ _ =>
      rcases hfrom with hfrom | hfrom <;>
        exact .inr (.inr (.inr (hkeep hfrom (by decide) (by decide) (by decide))))
    | reconcile _ hfrom _ _ | resolvedCommitted _ _ hfrom _ _ | resolvedUncommitted _ _ hfrom _ _ =>
      exact .inr (.inr (.inr (hkeep hfrom (by decide) (by decide) (by decide))))
    | failed _ hfrom _ =>
      rcases hfrom with hfrom | hfrom | hfrom <;>
        exact .inr (.inr (.inr (hkeep hfrom (by decide) (by decide) (by decide))))

/-- The attempts of the state are those its events began, each once. -/
theorem attempts_of_run (hs₀ : s₀.attemptIds = []) (h : acceptAll s₀ pre = .ok s) :
    pre.filterMap (·.attempt?) = s.attemptIds ∧ s.attemptIds.Nodup := by
  refine acceptAll_invariant pre
    (fun pre s => pre.filterMap (·.attempt?) = s.attemptIds ∧ s.attemptIds.Nodup) ?_ ?_ pre []
    (List.append_nil _).symm s h
  · rw [hs₀]
    exact ⟨rfl, List.nodup_nil⟩
  · rintro pre e s s' - hstep - ⟨hattempts, hnodup⟩
    have hmove := (transition_move hstep).2
    unfold Attempts at hmove
    rw [List.filterMap_append, hattempts]
    cases hattempt : e.attempt? with
    | none =>
      rw [hattempt] at hmove
      rw [hmove]
      exact ⟨by simp [hattempt], hnodup⟩
    | some id =>
      rw [hattempt] at hmove
      obtain ⟨hnew, hids⟩ := hmove
      rw [hids]
      refine ⟨by simp [hattempt], ?_⟩
      exact List.nodup_append.mpr ⟨hnodup, List.nodup_singleton _, fun a ha b hb => by
        rw [List.mem_singleton.mp hb]
        exact fun heq => hnew (heq ▸ ha)⟩

/-! ## The condition on a run -/

/-- Non-commitment has been established: by a lost process before any commit, or by a
reconciliation. -/
def Establishes (pre : List ExecutionEvent) (e : ExecutionEvent) : Prop :=
  (e.type = .processLost ∧ e.commitState = some .notCommitted ∧ ¬Has .applyCommitted pre) ∨
    (e.type = .reconcileResolved ∧ e.databaseOutcome = some .notCommitted)

/-- A step that makes the operation forget: a failed attempt; a report that nothing was committed,
after a commit; a second apply that brings its own state along. -/
def Harmful (pre : List ExecutionEvent) (e : ExecutionEvent) : Prop :=
  e.type = .attemptFailed ∨
    (e.type = .processLost ∧ e.commitState = some .notCommitted ∧ Has .applyCommitted pre) ∨
    (e.type = .reconcileResolved ∧ e.databaseOutcome = some .notCommitted ∧
      Has .applyCommitted pre) ∨
    (e.type = .applyStarted ∧ e.state.isSome ∧ Has .applyStarted pre)

def Harmless (evs : List ExecutionEvent) : Prop :=
  ∀ pre e post, evs = pre ++ e :: post → ¬Harmful pre e

/-- The operation of the accepted events `evs` never forgets a commit. -/
structure NeverForgets (s₀ : ExecutionState) (evs : List ExecutionEvent) : Prop where
  startedOnce : (evs.filter (·.type = .applyStarted)).length ≤ 1
  attemptsDistinct : (evs.filterMap (·.attempt?)).Nodup
  committed : ∀ pre post s, evs = pre ++ post → acceptAll s₀ pre = .ok s →
    Has .applyCommitted pre → s.status ≠ .failed ∧ s.commitState ≠ .notCommitted
  failed : ∀ pre e post s, evs = pre ++ e :: post → acceptAll s₀ (pre ++ [e]) = .ok s →
    Has .applyStarted pre → s.status = .failed → Establishes pre e
  unknown : ∀ pre e post s s', evs = pre ++ e :: post → acceptAll s₀ pre = .ok s →
    acceptAll s₀ (pre ++ [e]) = .ok s' → s.status = .interruptedUnknown ∨ s.status = .reconciling →
    s'.status = .preflightRejected ∨ s'.status = .succeeded ∨ s'.status = .failed →
    e.type = .reconcileResolved
  succeeded : ∀ pre mid post s s', evs = pre ++ mid ++ post → acceptAll s₀ pre = .ok s →
    acceptAll s₀ (pre ++ mid) = .ok s' → s.status = .succeeded → s'.status ≠ .failed

/-- The statuses of an operation whose commit has been accepted. -/
def afterCommit : ExecutionStatus → Bool
  | .applyCommittedPendingProof | .succeeded | .replaying | .interruptedUnknown | .reconciling =>
    true
  | _ => false

/-- The status of a run without a harmful step, and what has happened on the way. -/
structure Consistent (pre : List ExecutionEvent) (s : ExecutionState) : Prop where
  started : (pre.filter (·.type = .applyStarted)).length ≤ 1
  committed : Has .applyCommitted pre → afterCommit s.status = true
  flag : s.commitState = .notCommitted → s.status = .failed
  notYet : s.status = .dryRunSucceeded → ¬Has .applyStarted pre

theorem filter_snoc_of_ne (htype : e.type ≠ .applyStarted) :
    (pre ++ [e]).filter (·.type = .applyStarted) = pre.filter (·.type = .applyStarted) := by
  rw [List.filter_append]
  simp [htype]

theorem filter_eq_nil_of_not_has (h : ¬Has .applyStarted pre) :
    pre.filter (·.type = .applyStarted) = [] := by
  refine List.filter_eq_nil_iff.mpr fun x hx ht => h ⟨x, hx, by simpa using ht⟩

/-- A step that is no second apply. -/
theorem Consistent.later (h : Consistent pre s) (htype : e.type ≠ .applyStarted)
    (hcommitted : Has .applyCommitted (pre ++ [e]) → afterCommit s'.status = true)
    (hflag : s'.commitState = .notCommitted → s'.status = .failed)
    (hstatus : s'.status ≠ .dryRunSucceeded) : Consistent (pre ++ [e]) s' where
  started := by
    rw [filter_snoc_of_ne htype]
    exact h.started
  committed := hcommitted
  flag := hflag
  notYet := fun hdry => absurd hdry hstatus

theorem Consistent.step (hs₀ : s₀.status = .ready) (hpre : acceptAll s₀ pre = .ok s)
    (h : Consistent pre s) (hstep : transitionExecution s e = .ok s') (hsafe : ¬Harmful pre e) :
    Consistent (pre ++ [e]) s' := by
  -- a commit so far is a commit before, unless the event is the commit
  have hold : e.type ≠ .applyCommitted → Has .applyCommitted (pre ++ [e]) →
      afterCommit s.status = true := by
    intro hne hhas
    rcases has_snoc.mp hhas with hpast | hnow
    · exact h.committed hpast
    · exact absurd hnow hne
  have hnone : ∀ {status : ExecutionStatus}, s.status = status → afterCommit status = false →
      e.type ≠ .applyCommitted → ¬Has .applyCommitted (pre ++ [e]) := by
    intro status heq hbefore hne hhas
    have := hold hne hhas
    rw [heq, hbefore] at this
    cases this
  cases (transition_move hstep).1 with
  | rejected htype hfrom hto hcommit =>
    refine h.later (by simp [htype]) ?_ (by simp [hcommit]) (by simp [hto])
    exact fun hhas => absurd hhas (hnone hfrom rfl (by simp [htype]))
  | dryRun htype hfrom hto hcommit =>
    refine ⟨?_, ?_, by simp [hcommit], fun _ hhas => ?_⟩
    · rw [filter_snoc_of_ne (by simp [htype])]
      exact h.started
    · exact fun hhas => absurd hhas (hnone hfrom rfl (by simp [htype]))
    · -- the operation was ready, so nothing has started
      rcases has_snoc.mp hhas with hpast | hnow
      · have hready := acceptAll_invariant pre
          (fun pre s => s.status = .ready → pre = []) (fun _ => rfl)
          (fun pre e s s' _ hx _ _ hready => ?_) pre [] (List.append_nil _).symm s hpre hfrom
        · rw [hready] at hpast
          obtain ⟨x, hx, -⟩ := hpast
          exact absurd hx List.not_mem_nil
        · cases (transition_move hx).1 <;> simp_all
      · rw [htype] at hnow
        cases hnow
  | started htype hfrom hto hcommit =>
    have hfirst : ¬Has .applyStarted pre := by
      intro hhas
      rcases hfrom with hdry | hown
      · exact h.notYet hdry hhas
      · exact hsafe (.inr (.inr (.inr ⟨htype, hown, hhas⟩)))
    refine ⟨?_, ?_, by simp [hcommit], by simp [hto]⟩
    · rw [List.filter_append, filter_eq_nil_of_not_has hfirst]
      simp [htype]
    · intro hhas
      -- a commit presupposes an apply
      have hafter := hold (by simp [htype]) hhas
      refine absurd (started_of_status hs₀ hpre ⟨?_, ?_, ?_⟩) hfirst <;>
        exact fun heq => by rw [heq] at hafter; cases hafter
  | committed htype hfrom hto hcommit =>
    exact h.later (by simp [htype]) (fun _ => by rw [hto]; rfl) (by simp [hcommit]) (by simp [hto])
  | replay htype hfrom hto hcommit =>
    exact h.later (by simp [htype]) (fun _ => by rw [hto]; rfl) (by simp [hcommit]) (by simp [hto])
  | proved htype hfrom hto hcommit =>
    exact h.later (by simp [htype]) (fun _ => by rw [hto]; rfl) (fun hc => absurd hc hcommit)
      (by simp [hto])
  | lostUncommitted htype hreport hfrom hto hcommit =>
    refine h.later (by simp [htype]) (fun hhas => ?_) (fun _ => hto) (by simp [hto])
    rcases has_snoc.mp hhas with hpast | hnow
    · exact absurd (.inr (.inl ⟨htype, hreport, hpast⟩)) hsafe
    · rw [htype] at hnow
      cases hnow
  | lost htype _ hfrom hto hcommit =>
    exact h.later (by simp [htype]) (fun _ => by rw [hto]; rfl) (fun hc => absurd hc hcommit)
      (by simp [hto])
  | reconcile htype hfrom hto hcommit =>
    refine h.later (by simp [htype]) (fun _ => by rw [hto]; rfl) (fun hc => ?_) (by simp [hto])
    have := h.flag (hcommit.symm.trans hc)
    rw [hfrom] at this
    cases this
  | resolvedCommitted htype _ hfrom hto hcommit =>
    exact h.later (by simp [htype]) (fun _ => by rw [hto]; rfl) (by simp [hcommit]) (by simp [hto])
  | resolvedUncommitted htype hreport hfrom hto hcommit =>
    refine h.later (by simp [htype]) (fun hhas => ?_) (fun _ => hto) (by simp [hto])
    rcases has_snoc.mp hhas with hpast | hnow
    · exact absurd (.inr (.inr (.inl ⟨htype, hreport, hpast⟩))) hsafe
    · rw [htype] at hnow
      cases hnow
  | failed htype _ _ => exact absurd (.inl htype) hsafe

theorem consistent_of_harmless (hs₀ : s₀.status = .ready) (hflag : s₀.commitState = .notStarted)
    (hsafe : Harmless evs) {post : List ExecutionEvent} (hevs : evs = pre ++ post)
    (h : acceptAll s₀ pre = .ok s) : Consistent pre s := by
  refine acceptAll_invariant evs Consistent ⟨Nat.zero_le 1, ?_, ?_, ?_⟩ ?_ pre post hevs s h
  · rintro ⟨x, hx, -⟩
    exact absurd hx List.not_mem_nil
  · rw [hflag]
    exact fun hc => by cases hc
  · rw [hs₀]
    exact fun hc => by cases hc
  · rintro pre e s s' hpre hstep ⟨post, hsplit⟩ hinv
    exact hinv.step hs₀ hpre hstep (hsafe pre e post hsplit)

/-- Once it has succeeded, an operation without a harmful step is succeeding again and again. -/
theorem succeeded_stays (hsafe : Harmless evs) {mid post : List ExecutionEvent}
    (hevs : evs = pre ++ mid ++ post) (hstarted : Has .applyStarted pre)
    (hsucceeded : s.status = .succeeded) (h : acceptAll s mid = .ok s') :
    s'.status = .succeeded ∨ s'.status = .replaying := by
  refine acceptAll_invariant mid
    (fun _ s => s.status = .succeeded ∨ s.status = .replaying) (.inl hsucceeded) ?_ mid []
    (List.append_nil _).symm s' h
  rintro done e x x' - hstep ⟨rest, hmid⟩ hinv
  have hharmless : ¬Harmful (pre ++ done) e := by
    refine hsafe (pre ++ done) e (rest ++ post) ?_
    rw [hevs, hmid]
    simp
  cases (transition_move hstep).1 with
  | started htype hfrom _ _ =>
    rcases hfrom with hdry | hown
    · rcases hinv with hx | hx <;> rw [hx] at hdry <;> cases hdry
    · exact absurd (.inr (.inr (.inr ⟨htype, hown, hstarted.append⟩))) hharmless
  | replay _ _ hto _ => exact .inr hto
  | proved _ _ hto _ => exact .inl hto
  | failed htype _ _ => exact absurd (.inl htype) hharmless
  | rejected _ hfrom _ _ | dryRun _ hfrom _ _ | committed _ hfrom _ _ | reconcile _ hfrom _ _
  | resolvedCommitted _ _ hfrom _ _ | resolvedUncommitted _ _ hfrom _ _ =>
    rcases hinv with hx | hx <;> rw [hx] at hfrom <;> cases hfrom
  | lostUncommitted _ _ hfrom _ _ | lost _ _ hfrom _ _ =>
    rcases hfrom with hfrom | hfrom <;> rcases hinv with hx | hx <;> rw [hx] at hfrom <;>
      cases hfrom

theorem Harmless.neverForgets (hs₀ : s₀.status = .ready) (hflag : s₀.commitState = .notStarted)
    (hids : s₀.attemptIds = []) (h : acceptAll s₀ evs = .ok s) (hsafe : Harmless evs) :
    NeverForgets s₀ evs where
  startedOnce :=
    (consistent_of_harmless hs₀ hflag hsafe (List.append_nil _).symm h).started
  attemptsDistinct := by
    obtain ⟨hattempts, hnodup⟩ := attempts_of_run hids h
    rw [hattempts]
    exact hnodup
  committed pre post s hevs hpre hhas := by
    have hcons := consistent_of_harmless hs₀ hflag hsafe hevs hpre
    have hafter := hcons.committed hhas
    have hnot : s.status ≠ .failed := fun heq => by rw [heq] at hafter; cases hafter
    exact ⟨hnot, fun hc => hnot (hcons.flag hc)⟩
  failed pre e post s' hevs hrun hstarted hfailed := by
    obtain ⟨s, hpre, hstep⟩ := acceptAll_snoc hrun
    have hharmless := hsafe pre e post hevs
    cases (transition_move hstep).1 with
    | lostUncommitted htype hreport _ _ _ =>
      exact .inl ⟨htype, hreport, fun hhas => hharmless (.inr (.inl ⟨htype, hreport, hhas⟩))⟩
    | resolvedUncommitted htype hreport _ _ _ => exact .inr ⟨htype, hreport⟩
    | failed htype _ _ => exact absurd (.inl htype) hharmless
    | rejected _ _ hto _ | dryRun _ _ hto _ | started _ _ hto _ | committed _ _ hto _
    | replay _ _ hto _ | proved _ _ hto _ | lost _ _ _ hto _ | reconcile _ _ hto _
    | resolvedCommitted _ _ _ hto _ =>
      rw [hto] at hfailed
      cases hfailed
  unknown pre e post s s' hevs hpre hrun hstatus hterminal := by
    obtain ⟨mid, hpre', hstep⟩ := acceptAll_snoc hrun
    obtain rfl : mid = s := Except.ok.inj (hpre'.symm.trans hpre)
    have hharmless := hsafe pre e post hevs
    cases (transition_move hstep).1 with
    | resolvedCommitted htype _ _ _ _ => exact htype
    | resolvedUncommitted htype _ _ _ _ => exact htype
    | failed htype _ _ => exact absurd (.inl htype) hharmless
    | rejected _ hfrom _ _ | dryRun _ hfrom _ _ | replay _ hfrom _ _ =>
      rcases hstatus with hx | hx <;> rw [hx] at hfrom <;> cases hfrom
    | proved _ hfrom _ _ | lostUncommitted _ _ hfrom _ _ =>
      rcases hfrom with hfrom | hfrom <;> rcases hstatus with hx | hx <;> rw [hx] at hfrom <;>
        cases hfrom
    | started _ _ hto _ | committed _ _ hto _ | lost _ _ _ hto _ | reconcile _ _ hto _ =>
      rcases hterminal with hx | hx | hx <;> rw [hto] at hx <;> cases hx
  succeeded pre mid post s s' hevs hpre hrun hsucceeded := by
    obtain ⟨x, hpre', hmid⟩ := acceptAll_append hrun
    obtain rfl : x = s := Except.ok.inj (hpre'.symm.trans hpre)
    have hstarted : Has .applyStarted pre :=
      started_of_status hs₀ hpre (by rw [hsucceeded]; decide)
    rcases succeeded_stays hsafe hevs hstarted hsucceeded hmid with hx | hx <;> rw [hx] <;> decide

/-- A harmful step makes the operation forget. -/
theorem NeverForgets.harmless (hs₀ : s₀.status = .ready) (h : acceptAll s₀ evs = .ok s)
    (hnever : NeverForgets s₀ evs) : Harmless evs := by
  intro pre e post hevs hharmful
  obtain ⟨mid, hrun, -⟩ : ∃ mid, acceptAll s₀ (pre ++ [e]) = .ok mid ∧ acceptAll mid post = .ok s :=
    acceptAll_append (by rw [List.append_assoc]; exact hevs ▸ h)
  obtain ⟨before, hpre, hstep⟩ := acceptAll_snoc hrun
  have hsplit : evs = (pre ++ [e]) ++ post := by rw [hevs, List.append_assoc]; rfl
  have hmove := (transition_move hstep).1
  rcases hharmful with htype | ⟨htype, hreport, hhas⟩ | ⟨htype, hreport, hhas⟩ | ⟨htype, -, hhas⟩
  · -- nothing has established that the attempt did not commit
    obtain ⟨hfrom, hto⟩ : (before.status = .applying ∨ before.status = .replaying ∨
        before.status = .reconciling) ∧ mid.status = .failed := by
      cases hmove <;> simp_all
    have hstarted : Has .applyStarted pre := by
      refine started_of_status hs₀ hpre ?_
      rcases hfrom with hx | hx | hx <;> rw [hx] <;> decide
    rcases hnever.failed pre e post mid hevs hrun hstarted hto with ⟨hx, -⟩ | ⟨hx, -⟩ <;>
      rw [htype] at hx <;> cases hx
  · have hto : mid.status = .failed := by
      cases hmove <;> simp_all
    exact (hnever.committed _ post mid hsplit hrun hhas.append).1 hto
  · have hto : mid.status = .failed := by
      cases hmove <;> simp_all
    exact (hnever.committed _ post mid hsplit hrun hhas.append).1 hto
  · obtain ⟨x, hx, hxtype⟩ := hhas
    have honce := hnever.startedOnce
    rw [hevs, List.filter_append, List.length_append] at honce
    have hfirst : 0 < (pre.filter (·.type = .applyStarted)).length :=
      List.length_pos_of_mem (List.mem_filter.mpr ⟨hx, by simpa using hxtype⟩)
    have hsecond : 0 < ((e :: post).filter (·.type = .applyStarted)).length :=
      List.length_pos_of_mem (List.mem_filter.mpr ⟨List.mem_cons_self, by simpa using htype⟩)
    omega

/-- An operation never forgets its commit exactly when none of its steps is harmful. -/
theorem execution_never_forgets (operationId idempotencyKey : String)
    (h₀ : createExecutionState operationId idempotencyKey = .ok s₀)
    (h : acceptAll s₀ evs = .ok s) : NeverForgets s₀ evs ↔ Harmless evs := by
  obtain ⟨_, -, hinit⟩ := bind_ok h₀
  obtain rfl := Except.ok.inj hinit
  exact ⟨fun hnever => hnever.harmless rfl h, fun hsafe => hsafe.neverForgets rfl rfl rfl h⟩

/-! A dry run, an apply that commits, and a process that is lost before its proof. -/

def committedEvents : List ExecutionEvent :=
  [{ type := .dryRunSucceeded
     attemptId := some "3103fd61-7c06-47da-9c5e-9196b936b221"
     planDigest := some "sha256:1111111111111111111111111111111111111111111111111111111111111111"
     proofDigest := some "sha256:2222222222222222222222222222222222222222222222222222222222222222" },
   { type := .applyStarted
     operationId := some "d6e87e1c-a1cb-49eb-b6f5-58ac6b411872"
     idempotencyKey := some "stage1-operation-key-1"
     attemptId := some "6fc6e2ea-bb01-43e8-86e5-9b5b5a60c839"
     approvedPlanDigest :=
       some "sha256:1111111111111111111111111111111111111111111111111111111111111111"
     recomputedPlanDigest :=
       some "sha256:1111111111111111111111111111111111111111111111111111111111111111" },
   { type := .applyCommitted }]

def lostUncommitted : ExecutionEvent :=
  { type := .processLost, commitState := some .notCommitted }

def opened : ExecutionState :=
  { schemaVersion := "execution-state.v1"
    operationId := "d6e87e1c-a1cb-49eb-b6f5-58ac6b411872"
    idempotencyKey := "stage1-operation-key-1"
    status := .ready
    terminalClass := none
    approvedPlanDigest := none
    predecessorProofDigest := none
    commitState := .notStarted
    activeAttempt := none
    attemptIds := [] }

def committedThenFailed : ExecutionState :=
  { opened with
    status := .failed
    terminalClass := some .failed
    approvedPlanDigest :=
      some "sha256:1111111111111111111111111111111111111111111111111111111111111111"
    predecessorProofDigest :=
      some "sha256:2222222222222222222222222222222222222222222222222222222222222222"
    commitState := .notCommitted
    activeAttempt := some ⟨"6fc6e2ea-bb01-43e8-86e5-9b5b5a60c839", "apply", .failed, none⟩
    attemptIds := ["3103fd61-7c06-47da-9c5e-9196b936b221", "6fc6e2ea-bb01-43e8-86e5-9b5b5a60c839"] }

theorem execution_never_forgets_opened :
    NeverForgets opened (committedEvents ++ [lostUncommitted]) ↔
      Harmless (committedEvents ++ [lostUncommitted]) :=
  execution_never_forgets "d6e87e1c-a1cb-49eb-b6f5-58ac6b411872" "stage1-operation-key-1"
    (s := committedThenFailed) (by decide +kernel) (by decide +kernel)

/-- All four events are accepted, and the operation whose commit was accepted ends as failed. -/
theorem execution_forgets_commit :
    createExecutionState opened.operationId opened.idempotencyKey = .ok opened ∧
      acceptAll opened (committedEvents ++ [lostUncommitted]) = .ok committedThenFailed ∧
      ¬NeverForgets opened (committedEvents ++ [lostUncommitted]) := by
  have hrun : acceptAll opened (committedEvents ++ [lostUncommitted]) = .ok committedThenFailed := by
    decide +kernel
  refine ⟨by decide +kernel, hrun, fun hnever => ?_⟩
  have hkept := hnever.committed (committedEvents ++ [lostUncommitted]) [] committedThenFailed
    (List.append_nil _).symm hrun (by decide +kernel)
  exact hkept.1 rfl

end SubscriptionSaas.Release
