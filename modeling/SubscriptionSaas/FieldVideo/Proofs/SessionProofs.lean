import SubscriptionSaas.FieldVideo.Sessions
import SubscriptionSaas.Lib.Tables
import Mathlib.Data.List.Perm.Subperm

/-!
# Upload sessions end once and under their lease

`Change` says what a step may do to a session that is there. Everything else is derived from it: a
terminal session has no owner that could change it, a finalizer's session has all its parts, and a
session that has failed resumes at the stage that was recorded.
-/

namespace SubscriptionSaas.FieldVideo

open Tables

variable {s s' : State} {u u' : Session} {id : Id} {input : Input}

/-! ## What a step does to a session -/

/-- The columns that are never written again. -/
structure Fixed (u u' : Session) : Prop where
  evidenceItemId : u'.evidenceItemId = u.evidenceItemId
  sizeBytes : u'.sizeBytes = u.sizeBytes
  totalParts : u'.totalParts = u.totalParts

/-- The session keeps its upload too. -/
structure Held (u u' : Session) : Prop extends Fixed u u' where
  ossUploadId : u'.ossUploadId = u.ossUploadId
  objectKey : u'.objectKey = u.objectKey

theorem Held.refl (u : Session) : Held u u := ⟨⟨rfl, rfl, rfl⟩, rfl, rfl⟩

def Advance.status : Advance → UploadStatus
  | .ossCompleting => .ossCompleting
  | .objectReady _ _ => .objectReady
  | .processing => .processing

/-- What happens to a session under a transaction that was under way, or under a statement. -/
inductive Change (s : State) (input : Input) (id : Id) : Session → Session → Prop
  /-- The status stays, and no finalizer becomes the owner. -/
  | kept {u u' : Session} (hheld : Held u u') (hparts : u'.parts = u.parts)
      (hstatus : u'.status = u.status) (hstage : u'.resumeStage = u.resumeStage)
      (howner : u'.leaseOwner = u.leaseOwner ∨ u'.leaseOwner = none ∨
        u.live = true ∧ ∀ lease, u'.leaseOwner ≠ some (.finalizer lease)) : Change s input id u u'
  | part {u u' : Session} {place : Nat} {part : Part} {now : Int} (hinput : input = .commit place)
      (hplace : s.pending[place]? = some (.part id part now)) (hshape : part.shapeOk = true)
      (hnew : ∀ p ∈ u.parts, p.partNumber ≠ part.partNumber) (hheld : Held u u')
      (hparts : u'.parts = u.parts ++ [part]) (hstatus : u'.status = u.status)
      (hstage : u'.resumeStage = u.resumeStage) (howner : u'.leaseOwner = u.leaseOwner) :
      Change s input id u u'
  | queued {u u' : Session} (hpending : .queue id ∈ s.pending) (huploading : u.status = .uploading)
      (hheld : Held u u') (hparts : u'.parts = u.parts) (hstatus : u'.status = .finalizeQueued)
      (howner : u'.leaseOwner = u.leaseOwner) : Change s input id u u'
  | claimed {u : Session} {lease : Id} {leaseExpiresAt now : Int} (hdue : u.due now = true) :
      Change s input id u (u.claim lease leaseExpiresAt)
  /-- A finalizer advances its session. -/
  | advanced {u u' : Session} {lease : Id} {advance : Advance}
      (hinput : input = .advanceClaimed lease id advance)
      (hfinalizer : u.leaseOwner = some (.finalizer lease)) (hheld : Held u u')
      (hparts : u'.parts = u.parts) (hstatus : u'.status = advance.status)
      (howner : u'.leaseOwner = u.leaseOwner) : Change s input id u u'
  | failed {u u' : Session} {lease : Id} {stage : FailedStage} {code : String}
      {leaseExpiresAt : Int}
      (hinput : input = .markRetryableFailure lease id stage code leaseExpiresAt)
      (hfinalizer : u.leaseOwner = some (.finalizer lease)) (hheld : Held u u')
      (hparts : u'.parts = u.parts) (hstatus : u'.status = .retryableFailed)
      (hstage : u'.resumeStage = some stage.status) (howner : u'.leaseOwner = none) :
      Change s input id u u'
  | ended {u u' : Session} (howned : u.leaseOwner.isSome) (hfixed : Fixed u u')
      (hupload : u'.ossUploadId = none) (hparts : u'.parts = u.parts)
      (hstatus : u'.status ∈ fieldVideoTerminalStatuses) (howner : u'.leaseOwner = none) :
      Change s input id u u'

theorem Change.same (s : State) (input : Input) (id : Id) (u : Session) : Change s input id u u :=
  .kept (.refl u) rfl rfl rfl (.inl rfl)

theorem advance_due (advance : Advance) : advance.status ∈ claimDueStatuses := by
  cases advance <;> simp [Advance.status, claimDueStatuses]

/-- A row that a claim may write. -/
theorem lease_session {chosen : Id → Session → Bool} {taken : Session → Session}
    (hu : s.sessions[id]? = some u) (h : chosen id u = true → Change s input id u (taken u)) :
    ∃ u', (s.lease chosen taken).sessions[id]? = some u' ∧ Change s input id u u' := by
  by_cases hchosen : chosen id u = true
  · exact ⟨taken u, by simp [State.lease, List.getElem?_mapIdx, hu, hchosen], h hchosen⟩
  · exact ⟨u, by simp [State.lease, List.getElem?_mapIdx, hu, hchosen], .same s input id u⟩

/-- A row that an owner may write. -/
theorem owned_session {owner : LeaseOwner} {sessionId : Id} {change : Session → Session}
    (hu : s.sessions[id]? = some u)
    (h : id = sessionId → u.leaseOwner = some owner → Change s input id u (change u)) :
    ∃ u', (s.owned owner sessionId change).sessions[id]? = some u' ∧ Change s input id u u' := by
  unfold State.owned
  split
  · rename_i howned
    rcases get_of_modify sessionId change hu with hsame | ⟨rfl, hchanged⟩
    · exact ⟨u, hsame, .same s input id u⟩
    · rw [hu, Option.any_some, beq_iff_eq] at howned
      exact ⟨_, hchanged, h rfl howned⟩
  · exact ⟨u, hu, .same s input id u⟩

theorem owned_length (s : State) (owner : LeaseOwner) (sessionId : Id)
    (change : Session → Session) :
    (s.owned owner sessionId change).sessions.length = s.sessions.length := by
  unfold State.owned
  split
  · exact List.length_modify ..
  · rfl

theorem write_session {place : Nat} {pending : Pending}
    (hplace : s.pending[place]? = some pending) (hu : s.sessions[id]? = some u) :
    ∃ u', (s.write pending).sessions[id]? = some u' ∧ Change s (.commit place) id u u' := by
  cases pending with
  | create input expiresAt =>
    refine ⟨u, ?_, .same s (.commit place) id u⟩
    simp only [State.write]
    split
    · exact get_append_old hu
    · exact hu
  | resume sessionId expiresAt =>
    rcases get_of_modify sessionId _ hu with h | ⟨rfl, h⟩
    · exact ⟨u, h, .same s (.commit place) id u⟩
    · exact ⟨_, h, .kept ⟨⟨rfl, rfl, rfl⟩, rfl, rfl⟩ rfl rfl rfl (.inl rfl)⟩
  | part sessionId part now =>
    simp only [State.write]
    split
    · rename_i hok
      rcases get_of_modify sessionId _ hu with h | ⟨rfl, h⟩
      · exact ⟨u, h, .same s (.commit place) id u⟩
      · rw [hu, Bool.and_eq_true] at hok
        refine ⟨_, h, .part rfl hplace hok.1 ?_ ⟨⟨rfl, rfl, rfl⟩, rfl, rfl⟩ rfl rfl rfl rfl⟩
        simpa using hok.2
    · exact ⟨u, hu, .same s (.commit place) id u⟩
  | queue sessionId =>
    rcases get_of_modify sessionId _ hu with h | ⟨rfl, h⟩
    · exact ⟨u, h, .same s (.commit place) id u⟩
    · refine ⟨_, h, ?_⟩
      split
      · rename_i huploading
        have hpending := List.mem_of_getElem? hplace
        exact .queued hpending huploading ⟨⟨rfl, rfl, rfl⟩, rfl, rfl⟩ rfl rfl rfl
      · exact .same s (.commit place) id u

/-- Everything that a step may do to a session that is there. -/
theorem step_session (input : Input) (hu : s.sessions[id]? = some u) :
    ∃ u', (step s input).sessions[id]? = some u' ∧ Change s input id u u' := by
  cases input with
  | createOrResume create now => exact ⟨u, hu, .same s _ id u⟩
  | recordPart sessionId part now => exact ⟨u, hu, .same s _ id u⟩
  | queueFinalization sessionId => exact ⟨u, hu, .same s _ id u⟩
  | commit place =>
    simp only [step]
    rcases hplace : s.pending[place]? with _ | pending
    · exact ⟨u, hu, .same s _ id u⟩
    · exact write_session hplace hu
  | rollback place => exact ⟨u, hu, .same s _ id u⟩
  | claimDue candidates leaseMs now =>
    refine lease_session hu fun hchosen => ?_
    rw [Bool.and_eq_true] at hchosen
    exact .claimed hchosen.2
  | expireDue candidates leaseMs now =>
    refine lease_session hu fun hchosen => ?_
    have hlive : u.live = true := by
      simp only [Session.overdue, Bool.and_eq_true, beq_iff_eq] at hchosen
      rw [Session.live, hchosen.2.1.1]
      rfl
    exact .kept ⟨⟨rfl, rfl, rfl⟩, rfl, rfl⟩ rfl rfl rfl
      (.inr (.inr ⟨hlive, by simp [Session.take]⟩))
  | claimCancellation sessionId leaseMs now =>
    refine lease_session hu fun hchosen => ?_
    simp only [Session.cancellable, Bool.and_eq_true] at hchosen
    exact .kept ⟨⟨rfl, rfl, rfl⟩, rfl, rfl⟩ rfl rfl rfl
      (.inr (.inr ⟨hchosen.2.1, by simp [Session.take]⟩))
  | advanceClaimed lease sessionId advance =>
    refine owned_session hu fun hid howner => ?_
    subst hid
    cases advance with
    | ossCompleting => exact .advanced rfl howner ⟨⟨rfl, rfl, rfl⟩, rfl, rfl⟩ rfl rfl rfl
    | objectReady completedAt etag =>
      exact .advanced rfl howner ⟨⟨rfl, rfl, rfl⟩, rfl, rfl⟩ rfl rfl rfl
    | processing => exact .advanced rfl howner ⟨⟨rfl, rfl, rfl⟩, rfl, rfl⟩ rfl rfl rfl
  | markRetryableFailure lease sessionId stage code leaseExpiresAt =>
    refine owned_session hu fun hid howner => ?_
    subst hid
    exact .failed rfl howner ⟨⟨rfl, rfl, rfl⟩, rfl, rfl⟩ rfl rfl rfl rfl
  | retryFailed sessionId now =>
    rcases get_of_modify sessionId _ hu with h | ⟨rfl, h⟩
    · exact ⟨u, h, .same s _ id u⟩
    · refine ⟨_, h, ?_⟩
      split
      · exact .kept ⟨⟨rfl, rfl, rfl⟩, rfl, rfl⟩ rfl rfl rfl (.inl rfl)
      · exact .same s _ id u
  | releaseLease owner sessionId =>
    exact owned_session hu fun _ howner =>
      .kept ⟨⟨rfl, rfl, rfl⟩, rfl, rfl⟩ rfl rfl rfl (.inr (.inl rfl))
  | markTerminal owner sessionId status code now =>
    refine owned_session hu fun _ howner =>
      .ended (by rw [howner]; rfl) ⟨rfl, rfl, rfl⟩ rfl rfl ?_ rfl
    cases status <;> simp [TerminalStatus.status, fieldVideoTerminalStatuses]
  | attachPreparedFieldVideo lease sessionId now =>
    refine owned_session hu fun _ howner => ?_
    split
    · exact .ended (by rw [howner]; rfl) ⟨rfl, rfl, rfl⟩ rfl rfl
        (by simp [fieldVideoTerminalStatuses]) rfl
    · exact .same s _ id u

/-- A session that was not there is new, and the only live one of its item. -/
theorem step_new (hu : (step s input).sessions[id]? = some u) (hnone : s.sessions[id]? = none) :
    ∃ create expiresAt place, u = newSession create expiresAt ∧ input = .commit place ∧
      s.pending[place]? = some (.create create expiresAt) ∧ create.shapeOk = true ∧
      id = s.sessions.length ∧ ∀ (j : Id) (v : Session), s.sessions[j]? = some v → v.live = true →
        v.evidenceItemId ≠ u.evidenceItemId := by
  have hlength : s.sessions.length ≤ id := List.getElem?_eq_none_iff.1 hnone
  have hold : (step s input).sessions.length = s.sessions.length → False := by
    intro heq
    have hlt := get_lt hu
    omega
  cases input with
  | commit place =>
    simp only [step] at hu hold
    rcases hplace : s.pending[place]? with _ | pending
    · rw [hplace] at hold
      exact absurd rfl hold
    · rw [hplace] at hu hold
      cases pending with
      | create create expiresAt =>
        simp only [State.write] at hu hold
        split at hu
        · rename_i hok
          rcases get_append hu with hu | ⟨hid, rfl⟩
          · exact absurd (hnone.symm.trans hu) (by simp)
          · rw [Bool.and_eq_true] at hok
            refine ⟨create, expiresAt, place, rfl, rfl, hplace, hok.1, hid, fun j v hv hlive hitem => ?_⟩
            have hfree := hok.2
            simp only [Bool.not_eq_true', List.any_eq_false] at hfree
            refine hfree v (List.mem_of_getElem? hv) ?_
            rw [hlive, Bool.and_true, beq_iff_eq]
            exact hitem
        · exact absurd (hnone.symm.trans hu) (by simp)
      | resume sessionId expiresAt => exact absurd (List.length_modify ..) hold
      | part sessionId part now =>
        simp only [State.write] at hold
        split at hold
        · exact absurd (List.length_modify ..) hold
        · exact absurd rfl hold
      | queue sessionId => exact absurd (List.length_modify ..) hold
  | claimDue candidates leaseMs now => exact absurd List.length_mapIdx hold
  | expireDue candidates leaseMs now => exact absurd List.length_mapIdx hold
  | claimCancellation sessionId leaseMs now => exact absurd List.length_mapIdx hold
  | retryFailed sessionId now => exact absurd (List.length_modify ..) hold
  | advanceClaimed lease sessionId advance => exact absurd (owned_length ..) hold
  | markRetryableFailure lease sessionId stage code leaseExpiresAt =>
    exact absurd (owned_length ..) hold
  | releaseLease owner sessionId => exact absurd (owned_length ..) hold
  | markTerminal owner sessionId status code now => exact absurd (owned_length ..) hold
  | attachPreparedFieldVideo lease sessionId now => exact absurd (owned_length ..) hold
  | createOrResume create now => exact absurd rfl hold
  | recordPart sessionId part now => exact absurd rfl hold
  | queueFinalization sessionId => exact absurd rfl hold
  | rollback place => exact absurd rfl hold

/-! ## The parts of a session -/

/-- The parts are the numbers from one to the last, and their sizes make up the declared size. -/
structure Complete (u : Session) : Prop where
  numbers : (u.parts.map (·.partNumber)).Perm (List.range' 1 u.totalParts)
  sizes : (u.parts.map (·.sizeBytes)).sum = u.sizeBytes

/-- The numbers of the parts are different and in the range of the session. -/
structure PartsOk (u : Session) : Prop where
  nodup : (u.parts.map (·.partNumber)).Nodup
  range : ∀ p ∈ u.parts, 1 ≤ p.partNumber ∧ p.partNumber ≤ u.totalParts

theorem uploaded_iff (u : Session) :
    u.uploaded = true ↔
      u.parts.length = u.totalParts ∧ (u.parts.map (·.sizeBytes)).sum = u.sizeBytes := by
  rw [Session.uploaded, Bool.and_eq_true, beq_iff_eq, beq_iff_eq]

theorem PartsOk.complete (hok : PartsOk u) (huploaded : u.uploaded = true) : Complete u := by
  obtain ⟨hlength, hsizes⟩ := (uploaded_iff u).1 huploaded
  refine ⟨?_, hsizes⟩
  have hsubset : u.parts.map (·.partNumber) ⊆ List.range' 1 u.totalParts := by
    intro number hnumber
    obtain ⟨part, hpart, rfl⟩ := List.mem_map.1 hnumber
    have hrange := hok.range part hpart
    rw [List.mem_range'_1]
    omega
  refine (List.subperm_of_subset hok.nodup hsubset).perm_of_length_le ?_
  rw [List.length_range', List.length_map, hlength]

/-- No part can be added to a session that has them all. -/
theorem PartsOk.full (hok : PartsOk u) (huploaded : u.uploaded = true) {number : Nat}
    (hrange : 1 ≤ number ∧ number ≤ u.totalParts) : ∃ p ∈ u.parts, p.partNumber = number := by
  have hmem : number ∈ List.range' 1 u.totalParts := by
    rw [List.mem_range'_1]
    omega
  exact List.mem_map.1 ((hok.complete huploaded).numbers.mem_iff.2 hmem)

theorem PartsOk.append (hok : PartsOk u) {part : Part}
    (hnew : ∀ p ∈ u.parts, p.partNumber ≠ part.partNumber)
    (hrange : 1 ≤ part.partNumber ∧ part.partNumber ≤ u.totalParts) (hfixed : Fixed u u')
    (hparts : u'.parts = u.parts ++ [part]) : PartsOk u' := by
  constructor
  · rw [hparts, List.map_append, List.map_singleton]
    refine List.nodup_append.2 ⟨hok.nodup, by simp, ?_⟩
    intro number hold number' hpart
    obtain ⟨p, hp, rfl⟩ := List.mem_map.1 hold
    rw [List.mem_singleton.1 hpart]
    exact hnew p hp
  · intro p hp
    rw [hfixed.totalParts]
    rw [hparts, List.mem_append, List.mem_singleton] at hp
    rcases hp with hp | rfl
    · exact hok.range p hp
    · exact hrange

theorem PartsOk.of_same (hok : PartsOk u) (hfixed : Fixed u u') (hparts : u'.parts = u.parts) :
    PartsOk u' := by
  constructor
  · rw [hparts]
    exact hok.nodup
  · rw [hparts, hfixed.totalParts]
    exact hok.range

/-! ## The invariant -/

/-- What holds of every session. -/
structure SessionOk (u : Session) : Prop where
  parts : PartsOk u
  uploaded : u.live = true → u.status ≠ .uploading → u.uploaded = true
  finalizer : ∀ lease, u.leaseOwner = some (.finalizer lease) → u.status ∈ claimDueStatuses
  ended : u.status ∈ fieldVideoTerminalStatuses → u.leaseOwner = none
  stage : u.status = .retryableFailed → ∃ stage : FailedStage, u.resumeStage = some stage.status

/-- What holds of the transactions under way. -/
structure PendingOk (s : State) (pending : Pending) : Prop where
  part : ∀ (id : Id) (part : Part) (now : Int), pending = .part id part now →
    ∃ u, s.sessions[id]? = some u ∧ 1 ≤ part.partNumber ∧ part.partNumber ≤ u.totalParts
  queue : ∀ id, pending = .queue id → ∃ u, s.sessions[id]? = some u ∧ u.uploaded = true

structure StateOk (s : State) : Prop where
  session : ∀ (id : Id) (u : Session), s.sessions[id]? = some u → SessionOk u
  pending : ∀ pending ∈ s.pending, PendingOk s pending
  single : ∀ (i j : Id) (u v : Session), s.sessions[i]? = some u → s.sessions[j]? = some v →
    u.live = true → v.live = true → u.evidenceItemId = v.evidenceItemId → i = j

theorem live_or_ended (u : Session) :
    u.live = true ∨ u.status ∈ fieldVideoTerminalStatuses := by
  unfold Session.live
  cases u.status <;> simp [fieldVideoLiveStatuses, fieldVideoTerminalStatuses]

theorem live_of_due_status (h : u.status ∈ claimDueStatuses) : u.live = true := by
  rw [Session.live, decide_eq_true_eq]
  revert h
  cases u.status <;> simp [claimDueStatuses, fieldVideoLiveStatuses]

theorem not_live_of_ended (h : u.status ∈ fieldVideoTerminalStatuses) : u.live ≠ true := by
  rw [Session.live, ne_eq, decide_eq_true_eq]
  revert h
  cases u.status <;> simp [fieldVideoTerminalStatuses, fieldVideoLiveStatuses]

/-! ## What a change keeps -/

theorem Change.fixed (h : Change s input id u u') : Fixed u u' := by
  cases h with
  | kept hheld => exact hheld.toFixed
  | part hinput hplace hshape hnew hheld => exact hheld.toFixed
  | queued hpending huploading hheld => exact hheld.toFixed
  | claimed hdue => exact ⟨rfl, rfl, rfl⟩
  | advanced hinput hfinalizer hheld => exact hheld.toFixed
  | failed hinput hfinalizer hheld => exact hheld.toFixed
  | ended howned hfixed => exact hfixed

theorem uploaded_of_same (hfixed : Fixed u u') (hparts : u'.parts = u.parts) :
    u'.uploaded = u.uploaded := by
  rw [Session.uploaded, Session.uploaded, hparts, hfixed.totalParts, hfixed.sizeBytes]

/-- The parts of a session that has them all are never changed again. -/
theorem Change.parts_kept (hok : StateOk s) (hu : s.sessions[id]? = some u)
    (h : Change s input id u u') (huploaded : u.uploaded = true) : u'.parts = u.parts := by
  cases h with
  | kept hheld hparts => exact hparts
  | part hinput hplace hshape hnew =>
    obtain ⟨v, hv, hrange⟩ := (hok.pending _ (List.mem_of_getElem? hplace)).part _ _ _ rfl
    obtain rfl : u = v := Option.some.inj (hu.symm.trans hv)
    obtain ⟨p, hp, hnumber⟩ := (hok.session id u hu).parts.full huploaded hrange
    exact absurd hnumber (hnew p hp)
  | queued hpending huploading hheld hparts => exact hparts
  | claimed hdue => rfl
  | advanced hinput hfinalizer hheld hparts => exact hparts
  | failed hinput hfinalizer hheld hparts => exact hparts
  | ended howned hfixed hupload hparts => exact hparts

theorem Change.uploaded (hok : StateOk s) (hu : s.sessions[id]? = some u)
    (h : Change s input id u u') (huploaded : u.uploaded = true) : u'.uploaded = true := by
  rw [uploaded_of_same h.fixed (h.parts_kept hok hu huploaded)]
  exact huploaded

theorem due_cases {now : Int} (hdue : u.due now = true) :
    u.status ∈ claimDueStatuses ∨ u.status = .retryableFailed := by
  simp only [Session.due, Bool.or_eq_true, Bool.and_eq_true, decide_eq_true_eq, beq_iff_eq] at hdue
  rcases hdue with ⟨hstatus, -⟩ | ⟨⟨hstatus, -⟩, -⟩
  · exact .inl hstatus
  · exact .inr hstatus

theorem stage_due (stage : FailedStage) : stage.status ∈ claimDueStatuses := by
  cases stage <;> simp [FailedStage.status, claimDueStatuses]

/-- A claim takes the session at its own stage, or at the one that was recorded. -/
theorem claim_status (hok : SessionOk u) {now : Int} (hdue : u.due now = true) (lease : Id)
    (leaseExpiresAt : Int) :
    (u.status ∈ claimDueStatuses ∧ (u.claim lease leaseExpiresAt).status = u.status) ∨
      (u.status = .retryableFailed ∧ ∃ stage : FailedStage, u.resumeStage = some stage.status ∧
        (u.claim lease leaseExpiresAt).status = stage.status) := by
  rcases due_cases hdue with hstatus | hfailed
  · refine .inl ⟨hstatus, if_neg fun hfailed => ?_⟩
    rw [hfailed] at hstatus
    simp [claimDueStatuses] at hstatus
  · obtain ⟨stage, hstage⟩ := hok.stage hfailed
    refine .inr ⟨hfailed, stage, hstage, ?_⟩
    rw [Session.claim, if_pos hfailed, hstage]
    rfl

theorem claim_due_status (hok : SessionOk u) {now : Int} (hdue : u.due now = true) (lease : Id)
    (leaseExpiresAt : Int) : (u.claim lease leaseExpiresAt).status ∈ claimDueStatuses := by
  rcases claim_status hok hdue lease leaseExpiresAt with ⟨hdue, hsame⟩ | ⟨-, stage, -, hstage⟩
  · rw [hsame]
    exact hdue
  · rw [hstage]
    exact stage_due stage

theorem uploading_not_due {status : UploadStatus} (h : status ∈ claimDueStatuses) :
    status ≠ .uploading ∧ status ≠ .retryableFailed ∧ status ∉ fieldVideoTerminalStatuses := by
  revert h
  cases status <;> simp [claimDueStatuses, fieldVideoTerminalStatuses]

theorem live_of_status (h : u'.status = u.status) : u'.live = u.live := by
  rw [Session.live, Session.live, h]

theorem SessionOk.uploaded_of_due (hok : SessionOk u) (h : u.status ∈ claimDueStatuses) :
    u.uploaded = true :=
  hok.uploaded (live_of_due_status h) (uploading_not_due h).1

/-- A session at a stage of the finalizer needs its parts only. -/
theorem SessionOk.of_due (hparts : PartsOk u) (huploaded : u.uploaded = true)
    (hstatus : u.status ∈ claimDueStatuses) : SessionOk u where
  parts := hparts
  uploaded := fun _ _ => huploaded
  finalizer := fun _ _ => hstatus
  ended := fun hended => absurd hended (uploading_not_due hstatus).2.2
  stage := fun hfailed => absurd hfailed (uploading_not_due hstatus).2.1

theorem Change.partsOk (hok : StateOk s) (hu : s.sessions[id]? = some u)
    (h : Change s input id u u') : PartsOk u' := by
  have hparts := (hok.session id u hu).parts
  cases h with
  | kept hheld hsame => exact hparts.of_same hheld.toFixed hsame
  | part hinput hplace hshape hnew hheld happend =>
    obtain ⟨v, hv, hrange⟩ := (hok.pending _ (List.mem_of_getElem? hplace)).part _ _ _ rfl
    obtain rfl : u = v := Option.some.inj (hu.symm.trans hv)
    exact hparts.append hnew hrange hheld.toFixed happend
  | queued hpending huploading hheld hsame => exact hparts.of_same hheld.toFixed hsame
  | claimed hdue => exact hparts.of_same ⟨rfl, rfl, rfl⟩ rfl
  | advanced hinput hfinalizer hheld hsame => exact hparts.of_same hheld.toFixed hsame
  | failed hinput hfinalizer hheld hsame => exact hparts.of_same hheld.toFixed hsame
  | ended howned hfixed hupload hsame => exact hparts.of_same hfixed hsame

theorem Change.ok (hok : StateOk s) (hu : s.sessions[id]? = some u) (h : Change s input id u u') :
    SessionOk u' := by
  have hsession := hok.session id u hu
  have hparts := h.partsOk hok hu
  have huploaded : u.uploaded = true → u'.uploaded = true := h.uploaded hok hu
  cases h with
  | kept hheld hsame hstatus hstage howner =>
    refine ⟨hparts, ?_, ?_, ?_, ?_⟩
    · rw [live_of_status hstatus, hstatus]
      exact fun hlive huploading => huploaded (hsession.uploaded hlive huploading)
    · intro lease hlease
      rw [hstatus]
      rcases howner with howner | howner | ⟨-, hother⟩
      · exact hsession.finalizer lease (howner.symm.trans hlease)
      · exact absurd (howner.symm.trans hlease) (by simp)
      · exact absurd hlease (hother lease)
    · intro hended
      rw [hstatus] at hended
      rcases howner with howner | howner | ⟨hlive, -⟩
      · exact howner.trans (hsession.ended hended)
      · exact howner
      · exact absurd hlive (not_live_of_ended hended)
    · rw [hstatus, hstage]
      exact hsession.stage
  | part hinput hplace hshape hnew hheld happend hstatus hstage howner =>
    refine ⟨hparts, ?_, ?_, ?_, ?_⟩
    · rw [live_of_status hstatus, hstatus]
      exact fun hlive huploading => huploaded (hsession.uploaded hlive huploading)
    · rw [howner, hstatus]
      exact hsession.finalizer
    · rw [howner, hstatus]
      exact hsession.ended
    · rw [hstatus, hstage]
      exact hsession.stage
  | queued hpending huploading hheld hsame hstatus howner =>
    obtain ⟨v, hv, hall⟩ := (hok.pending _ hpending).queue id rfl
    obtain rfl : u = v := Option.some.inj (hu.symm.trans hv)
    refine .of_due hparts (huploaded hall) ?_
    rw [hstatus]
    simp [claimDueStatuses]
  | claimed hdue =>
    have hall : u.uploaded = true := by
      rcases due_cases hdue with hstatus | hfailed
      · exact hsession.uploaded_of_due hstatus
      · refine hsession.uploaded ?_ ?_
        · rw [Session.live, hfailed]
          rfl
        · rw [hfailed]
          simp
    exact .of_due hparts (huploaded hall) (claim_due_status hsession hdue _ _)
  | advanced hinput hfinalizer hheld hsame hstatus howner =>
    have hall := hsession.uploaded_of_due (hsession.finalizer _ hfinalizer)
    exact .of_due hparts (huploaded hall) (hstatus ▸ advance_due _)
  | failed hinput hfinalizer hheld hsame hstatus hstage howner =>
    have hall := hsession.uploaded_of_due (hsession.finalizer _ hfinalizer)
    refine ⟨hparts, fun _ _ => huploaded hall, ?_, fun _ => howner, fun _ => ⟨_, hstage⟩⟩
    intro lease hlease
    exact absurd (howner.symm.trans hlease) (by simp)
  | ended howned hfixed hupload hsame hstatus howner =>
    refine ⟨hparts, ?_, ?_, fun _ => howner, ?_⟩
    · exact fun hlive => absurd hlive (not_live_of_ended hstatus)
    · intro lease hlease
      exact absurd (howner.symm.trans hlease) (by simp)
    · intro hfailed
      rw [hfailed] at hstatus
      simp [fieldVideoTerminalStatuses] at hstatus

/-- A terminal status is never left. -/
theorem Change.ended_status (hok : StateOk s) (hu : s.sessions[id]? = some u)
    (h : Change s input id u u') (hended : u.status ∈ fieldVideoTerminalStatuses) :
    u'.status = u.status := by
  have hsession := hok.session id u hu
  have hnone := hsession.ended hended
  cases h with
  | kept hheld hsame hstatus => exact hstatus
  | part hinput hplace hshape hnew hheld happend hstatus => exact hstatus
  | queued hpending huploading =>
    rw [huploading] at hended
    simp [fieldVideoTerminalStatuses] at hended
  | claimed hdue =>
    rcases due_cases hdue with hstatus | hfailed
    · exact absurd hended (uploading_not_due hstatus).2.2
    · rw [hfailed] at hended
      simp [fieldVideoTerminalStatuses] at hended
  | advanced hinput hfinalizer => exact absurd (hnone.symm.trans hfinalizer) (by simp)
  | failed hinput hfinalizer => exact absurd (hnone.symm.trans hfinalizer) (by simp)
  | ended howned =>
    rw [hnone] at howned
    exact absurd howned (by simp)

theorem Change.live (hok : StateOk s) (hu : s.sessions[id]? = some u) (h : Change s input id u u')
    (hlive : u'.live = true) : u.live = true := by
  rcases live_or_ended u with hu' | hended
  · exact hu'
  · have hstatus := h.ended_status hok hu hended
    rw [live_of_status hstatus] at hlive
    exact hlive

/-! ## Every reachable state -/

theorem createOrResume_ok {create : CreateInput} {now : Int} {pending : Pending}
    (h : createOrResume s create now = some pending) : PendingOk s pending := by
  have hother : (∀ id part now', pending ≠ .part id part now') ∧ ∀ id, pending ≠ .queue id := by
    unfold createOrResume at h
    split at h
    · split at h
      · obtain rfl := Option.some.inj h
        simp
      · exact absurd h (by simp)
    · obtain rfl := Option.some.inj h
      simp
  exact ⟨fun id part now' heq => absurd heq (hother.1 id part now'),
    fun id heq => absurd heq (hother.2 id)⟩

theorem recordPart_ok {sessionId : Id} {part : Part} {now : Int} {pending : Pending}
    (h : recordPart s sessionId part now = some pending) : PendingOk s pending := by
  unfold recordPart at h
  split at h
  · exact absurd h (by simp)
  · rename_i u hu
    split at h
    · rename_i hguard
      obtain rfl := Option.some.inj h
      refine ⟨fun id part' now' heq => ?_, fun id heq => by simp at heq⟩
      obtain ⟨rfl, rfl, rfl⟩ := Pending.part.inj heq
      simp only [Session.assertPartMetadata, Bool.and_eq_true, decide_eq_true_eq] at hguard
      exact ⟨u, hu, hguard.1.1.1.1.1⟩
    · exact absurd h (by simp)

theorem queueFinalization_ok {sessionId : Id} {pending : Pending}
    (h : queueFinalization s sessionId = some pending) : PendingOk s pending := by
  unfold queueFinalization at h
  split at h
  · exact absurd h (by simp)
  · rename_i u hu
    split at h
    · rename_i hguard
      obtain rfl := Option.some.inj h
      refine ⟨fun id part now heq => by simp at heq, fun id heq => ?_⟩
      obtain rfl := Pending.queue.inj heq
      rw [Bool.and_eq_true] at hguard
      exact ⟨u, hu, hguard.2⟩
    · exact absurd h (by simp)

theorem begin_pending {begun : Option Pending} {pending : Pending}
    (h : pending ∈ (s.begin begun).pending) : pending ∈ s.pending ∨ begun = some pending := by
  rw [State.begin, List.mem_append, Option.mem_toList] at h
  exact h

theorem owned_pending (s : State) (owner : LeaseOwner) (sessionId : Id)
    (change : Session → Session) : (s.owned owner sessionId change).pending = s.pending := by
  unfold State.owned
  split <;> rfl

/-- The step does the reads of the transaction. -/
def Begins (s : State) (pending : Pending) : Input → Prop
  | .createOrResume create now => createOrResume s create now = some pending
  | .recordPart sessionId part now => recordPart s sessionId part now = some pending
  | .queueFinalization sessionId => queueFinalization s sessionId = some pending
  | _ => False

theorem Begins.ok {pending : Pending} (h : Begins s pending input) : PendingOk s pending := by
  cases input with
  | createOrResume create now => exact createOrResume_ok h
  | recordPart sessionId part now => exact recordPart_ok h
  | queueFinalization sessionId => exact queueFinalization_ok h
  | _ => exact h.elim

/-- A transaction was under way, or has done its reads in this step. -/
theorem step_pending {pending : Pending} (h : pending ∈ (step s input).pending) :
    pending ∈ s.pending ∨ Begins s pending input := by
  cases input with
  | createOrResume create now => exact begin_pending h
  | recordPart sessionId part now => exact begin_pending h
  | queueFinalization sessionId => exact begin_pending h
  | commit place =>
    simp only [step] at h
    split at h
    · exact .inl h
    · exact .inl (List.mem_of_mem_eraseIdx h)
  | rollback place => exact .inl (List.mem_of_mem_eraseIdx h)
  | claimDue candidates leaseMs now => exact .inl h
  | expireDue candidates leaseMs now => exact .inl h
  | claimCancellation sessionId leaseMs now => exact .inl h
  | advanceClaimed lease sessionId advance => exact .inl (owned_pending .. ▸ h)
  | markRetryableFailure lease sessionId stage code leaseExpiresAt =>
    exact .inl (owned_pending .. ▸ h)
  | retryFailed sessionId now => exact .inl h
  | releaseLease owner sessionId => exact .inl (owned_pending .. ▸ h)
  | markTerminal owner sessionId status code now => exact .inl (owned_pending .. ▸ h)
  | attachPreparedFieldVideo lease sessionId now => exact .inl (owned_pending .. ▸ h)

/-- A transaction under way stays right. -/
theorem PendingOk.step (hok : StateOk s) {pending : Pending} (h : PendingOk s pending)
    (input : Input) : PendingOk (step s input) pending := by
  constructor
  · intro id part now heq
    obtain ⟨u, hu, hrange⟩ := h.part id part now heq
    obtain ⟨u', hu', hchange⟩ := step_session input hu
    refine ⟨u', hu', ?_⟩
    rw [hchange.fixed.totalParts]
    exact hrange
  · intro id heq
    obtain ⟨u, hu, huploaded⟩ := h.queue id heq
    obtain ⟨u', hu', hchange⟩ := step_session input hu
    exact ⟨u', hu', hchange.uploaded hok hu huploaded⟩

theorem newSession_ok (create : CreateInput) (expiresAt : Int) :
    SessionOk (newSession create expiresAt) where
  parts := ⟨List.nodup_nil, fun p hp => absurd hp List.not_mem_nil⟩
  uploaded := fun _ huploading => absurd rfl huploading
  finalizer := fun lease hlease => by simp [newSession] at hlease
  ended := fun _ => rfl
  stage := fun hfailed => by simp [newSession] at hfailed

/-- A live session after a step was a live session of the same item, or is new. -/
theorem step_live (hok : StateOk s) (hu' : (step s input).sessions[id]? = some u')
    (hlive : u'.live = true) :
    (∃ u, s.sessions[id]? = some u ∧ u.live = true ∧ u'.evidenceItemId = u.evidenceItemId) ∨
      (s.sessions[id]? = none ∧ id = s.sessions.length ∧
        ∀ (j : Id) (v : Session), s.sessions[j]? = some v → v.live = true →
          v.evidenceItemId ≠ u'.evidenceItemId) := by
  rcases hold : s.sessions[id]? with _ | u
  · obtain ⟨create, expiresAt, place, -, -, -, -, hid, hfree⟩ := step_new hu' hold
    exact .inr ⟨rfl, hid, hfree⟩
  · obtain ⟨v, hv, hchange⟩ := step_session input hold
    obtain rfl : u' = v := Option.some.inj (hu'.symm.trans hv)
    exact .inl ⟨u, rfl, hchange.live hok hold hlive, hchange.fixed.evidenceItemId⟩

theorem step_ok (hok : StateOk s) (input : Input) : StateOk (step s input) := by
  constructor
  · intro id u' hu'
    rcases hold : s.sessions[id]? with _ | u
    · obtain ⟨create, expiresAt, place, rfl, -⟩ := step_new hu' hold
      exact newSession_ok create expiresAt
    · obtain ⟨v, hv, hchange⟩ := step_session input hold
      obtain rfl : u' = v := Option.some.inj (hu'.symm.trans hv)
      exact hchange.ok hok hold
  · intro pending hpending
    rcases step_pending hpending with hold | hbegun
    · exact (hok.pending pending hold).step hok input
    · exact hbegun.ok.step hok input
  · intro i j u v hu hv hulive hvlive hitem
    rcases step_live hok hu hulive with ⟨u₀, hu₀, hulive₀, huitem⟩ | ⟨hnone, hi, hfree⟩
    · rcases step_live hok hv hvlive with ⟨v₀, hv₀, hvlive₀, hvitem⟩ | ⟨hnone, hj, hfree⟩
      · exact hok.single i j u₀ v₀ hu₀ hv₀ hulive₀ hvlive₀ (by rw [← huitem, ← hvitem, hitem])
      · exact absurd (by rw [← huitem, hitem]) (hfree i u₀ hu₀ hulive₀)
    · rcases step_live hok hv hvlive with ⟨v₀, hv₀, hvlive₀, hvitem⟩ | ⟨hnone', hj, -⟩
      · exact absurd (by rw [← hvitem, hitem]) (hfree j v₀ hv₀ hvlive₀)
      · rw [hi, hj]

theorem runs_ok (hok : StateOk s) (inputs : List Input) : StateOk (Runs.runs step s inputs) :=
  Runs.runs_always StateOk (fun _ input hok => step_ok hok input) hok inputs

theorem history_ok (inputs : List Input) : StateOk (history inputs) :=
  runs_ok ⟨fun _ _ hu => by simp [initial] at hu, fun p hp => by simp [initial] at hp,
    fun i j u v hu => by simp [initial] at hu⟩ inputs

theorem history_append (inputs later : List Input) :
    history (inputs ++ later) = Runs.runs step (history inputs) later :=
  Runs.runs_append step initial inputs later

end SubscriptionSaas.FieldVideo
