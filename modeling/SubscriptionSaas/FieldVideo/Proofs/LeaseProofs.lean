import SubscriptionSaas.FieldVideo.Proofs.SessionProofs

/-!
# What a lease protects

The invariant of the sessions, read over whole runs: a call under a lease that was lost changes
nothing, an ended session stays ended, the parts that a finalizer sees are all the parts and stay,
and a failed session goes on where it failed.
-/

namespace SubscriptionSaas.FieldVideo

open Tables

variable {s : State} {u u' : Session} {id : Id} {input : Input}

/-! ## Calls under a lease -/

/-- The lease under which a call is made, and its session. -/
def Input.underLease : Input → Option (LeaseOwner × Id)
  | .advanceClaimed lease sessionId _ => some (.finalizer lease, sessionId)
  | .markRetryableFailure lease sessionId _ _ _ => some (.finalizer lease, sessionId)
  | .releaseLease owner sessionId => some (owner, sessionId)
  | .markTerminal owner sessionId _ _ _ => some (owner, sessionId)
  | .attachPreparedFieldVideo lease sessionId _ => some (.finalizer lease, sessionId)
  | _ => none

/-- The session is not under this lease. -/
def State.NotOwner (s : State) (owner : LeaseOwner) (id : Id) : Prop :=
  ∀ u, s.sessions[id]? = some u → u.leaseOwner ≠ some owner

instance (s : State) (owner : LeaseOwner) (id : Id) : Decidable (s.NotOwner owner id) :=
  decidable_of_iff (∀ u ∈ s.sessions[id]?, u.leaseOwner ≠ some owner) Iff.rfl

theorem owned_eq_self {owner : LeaseOwner} (h : s.NotOwner owner id) (change : Session → Session) :
    s.owned owner id change = s := by
  unfold State.owned
  split
  · rename_i howned
    rcases hu : s.sessions[id]? with _ | u
    · rw [hu] at howned
      exact absurd howned (by simp)
    · rw [hu, Option.any_some, beq_iff_eq] at howned
      exact absurd howned (h u hu)
  · rfl

theorem step_not_owner {owner : LeaseOwner} (hlease : input.underLease = some (owner, id))
    (h : s.NotOwner owner id) : step s input = s := by
  cases input with
  | advanceClaimed lease sessionId advance =>
    obtain ⟨rfl, rfl⟩ := Prod.mk.inj (Option.some.inj hlease)
    exact owned_eq_self h _
  | markRetryableFailure lease sessionId stage code leaseExpiresAt =>
    obtain ⟨rfl, rfl⟩ := Prod.mk.inj (Option.some.inj hlease)
    exact owned_eq_self h _
  | releaseLease owner' sessionId =>
    obtain ⟨rfl, rfl⟩ := Prod.mk.inj (Option.some.inj hlease)
    exact owned_eq_self h _
  | markTerminal owner' sessionId status code now =>
    obtain ⟨rfl, rfl⟩ := Prod.mk.inj (Option.some.inj hlease)
    exact owned_eq_self h _
  | attachPreparedFieldVideo lease sessionId now =>
    obtain ⟨rfl, rfl⟩ := Prod.mk.inj (Option.some.inj hlease)
    exact owned_eq_self h _
  | createOrResume create now => exact absurd hlease (by simp [Input.underLease])
  | recordPart sessionId part now => exact absurd hlease (by simp [Input.underLease])
  | queueFinalization sessionId => exact absurd hlease (by simp [Input.underLease])
  | commit place => exact absurd hlease (by simp [Input.underLease])
  | rollback place => exact absurd hlease (by simp [Input.underLease])
  | claimDue candidates leaseMs now => exact absurd hlease (by simp [Input.underLease])
  | expireDue candidates leaseMs now => exact absurd hlease (by simp [Input.underLease])
  | claimCancellation sessionId leaseMs now => exact absurd hlease (by simp [Input.underLease])
  | retryFailed sessionId now => exact absurd hlease (by simp [Input.underLease])

/-! ## Runs -/

/-- A session that has ended is there after every run, with the same status. -/
theorem runs_ended (hok : StateOk s) (hu : s.sessions[id]? = some u)
    (hended : u.status ∈ fieldVideoTerminalStatuses) (later : List Input) :
    ∃ u', (Runs.runs step s later).sessions[id]? = some u' ∧ u'.status = u.status := by
  induction later generalizing s u with
  | nil => exact ⟨u, hu, rfl⟩
  | cons input later ih =>
    obtain ⟨v, hv, hchange⟩ := step_session input hu
    have hstatus := hchange.ended_status hok hu hended
    obtain ⟨u', hu', hsame⟩ := ih (step_ok hok input) hv (by rwa [hstatus])
    exact ⟨u', hu', hsame.trans hstatus⟩

/-- The parts of a session that has them all are the same after every run. -/
theorem runs_parts (hok : StateOk s) (hu : s.sessions[id]? = some u) (huploaded : u.uploaded = true)
    (later : List Input) :
    ∃ u', (Runs.runs step s later).sessions[id]? = some u' ∧ u'.parts = u.parts := by
  induction later generalizing s u with
  | nil => exact ⟨u, hu, rfl⟩
  | cons input later ih =>
    obtain ⟨v, hv, hchange⟩ := step_session input hu
    obtain ⟨u', hu', hsame⟩ := ih (step_ok hok input) hv (hchange.uploaded hok hu huploaded)
    exact ⟨u', hu', hsame.trans (hchange.parts_kept hok hu huploaded)⟩

/-! ## Retries -/

/-- A failed session waits, ends, or goes on at the stage that was recorded. -/
inductive Resumes (u u' : Session) : Prop
  | waits (hstatus : u'.status = .retryableFailed) (hstage : u'.resumeStage = u.resumeStage)
  | resumed (stage : FailedStage) (hstage : u.resumeStage = some stage.status)
      (hstatus : u'.status = stage.status)
  | ended (hstatus : u'.status ∈ fieldVideoTerminalStatuses)

theorem Change.resumes (hok : SessionOk u) (h : Change s input id u u')
    (hfailed : u.status = .retryableFailed) : Resumes u u' := by
  have hfinalizer : ∀ lease, u.leaseOwner ≠ some (.finalizer lease) := by
    intro lease hlease
    have hstatus := hok.finalizer lease hlease
    exact (uploading_not_due hstatus).2.1 hfailed
  cases h with
  | kept hheld hparts hstatus hstage => exact .waits (hstatus.trans hfailed) hstage
  | part hinput hplace hshape hnew hheld hparts hstatus hstage =>
    exact .waits (hstatus.trans hfailed) hstage
  | queued hpending huploading => exact absurd (hfailed.symm.trans huploading) (by simp)
  | claimed hdue =>
    rcases claim_status hok hdue _ _ with ⟨hstatus, -⟩ | ⟨-, stage, hstage, hstatus⟩
    · exact absurd hfailed (uploading_not_due hstatus).2.1
    · exact .resumed stage hstage hstatus
  | advanced hinput howner => exact absurd howner (hfinalizer _)
  | failed hinput howner => exact absurd howner (hfinalizer _)
  | ended howned hfixed hupload hparts hstatus => exact .ended hstatus

/-! ## What the finalizer sees -/

theorem claimed_session {candidates : List Id} {leaseMs now : Int}
    (h : (id, u') ∈ claimedSessions s candidates leaseMs now) :
    ∃ u, s.sessions[id]? = some u ∧ u.due now = true ∧ id ∈ candidates ∧
      u' = u.claim s.nextLease (now + leaseMs) := by
  obtain ⟨id', hid', h⟩ := List.mem_filterMap.1 h
  obtain ⟨u, hu, heq⟩ := Option.map_eq_some_iff.1 h
  obtain ⟨hu, hdue⟩ := Option.filter_eq_some_iff.1 hu
  obtain ⟨rfl, rfl⟩ := Prod.mk.inj heq
  exact ⟨u, hu, hdue, hid', rfl⟩

/-- The session that the finalizer is given is the one in the table, and all its parts are there. -/
theorem claimed_complete (hok : StateOk s) {candidates : List Id} {leaseMs now : Int}
    (h : (id, u') ∈ claimedSessions s candidates leaseMs now) :
    (step s (.claimDue candidates leaseMs now)).sessions[id]? = some u' ∧ Complete u' := by
  obtain ⟨u, hu, hdue, hid, rfl⟩ := claimed_session h
  have hthere : (step s (.claimDue candidates leaseMs now)).sessions[id]? =
      some (u.claim s.nextLease (now + leaseMs)) := by
    simp [step, claimDue, State.lease, List.getElem?_mapIdx, hu, hid, hdue]
  have hsession := (step_ok hok (.claimDue candidates leaseMs now)).session id _ hthere
  have hstatus := claim_due_status (hok.session id u hu) hdue s.nextLease (now + leaseMs)
  exact ⟨hthere, hsession.parts.complete (hsession.uploaded_of_due hstatus)⟩

/-! ## Sessions end once and under their lease -/

/-- After every history: a call under a lost lease changes nothing; a terminal status stays; a session
that is queued has all its parts, and they stay; a session that has failed goes on where it failed;
the finalizer is given all the parts; and an item has one live session. -/
theorem sessions_end_once (inputs : List Input) :
    (∀ input owner id, input.underLease = some (owner, id) → (history inputs).NotOwner owner id →
      history (inputs ++ [input]) = history inputs) ∧
    (∀ (id : Id) (u : Session), (history inputs).sessions[id]? = some u →
      (u.status ∈ fieldVideoTerminalStatuses → ∀ later, ∃ u',
        (history (inputs ++ later)).sessions[id]? = some u' ∧ u'.status = u.status) ∧
      (u.live = true → u.status ≠ .uploading → Complete u ∧ ∀ later, ∃ u',
        (history (inputs ++ later)).sessions[id]? = some u' ∧ u'.parts = u.parts) ∧
      (u.status = .retryableFailed → ∀ input, ∃ u',
        (history (inputs ++ [input])).sessions[id]? = some u' ∧ Resumes u u')) ∧
    (∀ candidates leaseMs now id u,
      (id, u) ∈ claimedSessions (history inputs) candidates leaseMs now →
        (history (inputs ++ [.claimDue candidates leaseMs now])).sessions[id]? = some u ∧
          Complete u) ∧
    ∀ (i j : Id) (u v : Session), (history inputs).sessions[i]? = some u →
      (history inputs).sessions[j]? = some v → u.live = true → v.live = true →
        u.evidenceItemId = v.evidenceItemId → i = j := by
  have hok := history_ok inputs
  refine ⟨?_, ?_, ?_, hok.single⟩
  · intro input owner id hlease hother
    rw [history_append]
    exact step_not_owner hlease hother
  · intro id u hu
    have hsession := hok.session id u hu
    refine ⟨?_, ?_, ?_⟩
    · intro hended later
      rw [history_append]
      exact runs_ended hok hu hended later
    · intro hlive huploading
      have huploaded := hsession.uploaded hlive huploading
      refine ⟨hsession.parts.complete huploaded, fun later => ?_⟩
      rw [history_append]
      exact runs_parts hok hu huploaded later
    · intro hfailed input
      obtain ⟨u', hu', hchange⟩ := step_session input hu
      rw [history_append]
      exact ⟨u', hu', hchange.resumes hsession hfailed⟩
  · intro candidates leaseMs now id u hclaimed
    rw [history_append]
    exact claimed_complete hok hclaimed

/-- A video of one part is uploaded, claimed and fails while it is processed. -/
def failedVideo : List Input :=
  [.createOrResume ⟨0, "f", 0, 0, 5, 1⟩ 0, .commit 0, .recordPart 0 ⟨1, 5, "a", "e"⟩ 1, .commit 0,
    .queueFinalization 0, .commit 0, .claimDue [0] 100 2, .advanceClaimed 0 0 .ossCompleting,
    .advanceClaimed 0 0 (.objectReady 3 "o"), .advanceClaimed 0 0 .processing,
    .markRetryableFailure 0 0 .processing "VIDEO_UPLOAD_PROCESSING_FAILED" 50]

theorem sessions_end_once_sample :
    history (failedVideo ++ [.releaseLease (.finalizer 0) 0]) = history failedVideo ∧
      (∃ u, (history failedVideo).sessions[0]? = some u ∧ Complete u ∧
        ∀ input, ∃ u', (history (failedVideo ++ [input])).sessions[0]? = some u' ∧
          Resumes u u') ∧
      ∃ u, (0, u) ∈ claimedSessions (history failedVideo) [0] 100 60 ∧ Complete u := by
  obtain ⟨howner, hsession, hclaim, -⟩ := sessions_end_once failedVideo
  refine ⟨howner _ _ _ rfl (by decide), ?_, ?_⟩
  · have hstatus : ((history failedVideo).sessions[0]?.any fun u =>
        u.status == .retryableFailed && u.live) = true := by decide
    rcases hu : (history failedVideo).sessions[0]? with _ | u
    · rw [hu] at hstatus
      exact absurd hstatus (by simp)
    · rw [hu, Option.any_some, Bool.and_eq_true, beq_iff_eq] at hstatus
      obtain ⟨hended, hparts, hresumes⟩ := hsession 0 u hu
      have hqueued : u.status ≠ .uploading := by simp [hstatus.1]
      exact ⟨u, rfl, (hparts hstatus.2 hqueued).1, hresumes hstatus.1⟩
  · have hone : (claimedSessions (history failedVideo) [0] 100 60).map Prod.fst = [0] := by decide
    obtain ⟨claimed, hclaimed, hid⟩ := List.mem_map.1 (by rw [hone]; exact List.mem_singleton.2 rfl)
    obtain ⟨id, u⟩ := claimed
    obtain rfl : id = 0 := hid
    exact ⟨u, hclaimed, (hclaim [0] 100 60 0 u hclaimed).2⟩

end SubscriptionSaas.FieldVideo
