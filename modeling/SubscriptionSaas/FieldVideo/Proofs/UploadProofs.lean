import SubscriptionSaas.FieldVideo.Proofs.StageProofs

/-!
# What is known of uploads and calls

`MachineOk` holds after every run in which the live sessions could always be finished: an upload
belongs to one session, a call knows the upload of its session, and a finalizer that has completed the
multipart upload of its session finds it completed.
-/

namespace SubscriptionSaas.FieldVideo

open Tables

variable {m m' : Machine} {s : State} {u u' : Session} {id key : Id} {input : Input}
  {r r' : Upload}

/-! ## The invariant -/

/-- The multipart upload with which a session is to be created. -/
def Pending.upload : Pending → Option Id
  | .create input _ => some input.ossUploadId
  | _ => none

/-- The upload is there, and no session is to be created with it. -/
structure Free (m : Machine) (key : Id) : Prop where
  lt : key < m.uploads.length
  pending : ∀ p ∈ m.db.pending, p.upload ≠ some key

/-- The upload is that of the session, and of no other. -/
structure Mine (m : Machine) (id key : Id) : Prop extends Free m key where
  only : ∀ (j : Id) (v : Session), m.db.sessions[j]? = some v → v.ossUploadId = some key → j = id
  session : ∃ u, m.db.sessions[id]? = some u ∧ (u.live = true → u.ossUploadId = some key)

/-- The session was claimed with its upload. -/
structure Claimed (m : Machine) (id : Id) (claimed : Session) (key : Id) : Prop
    extends Mine m id key where
  ossUploadId : claimed.ossUploadId = some key
  objectKey : claimed.objectKey = some key

/-- The multipart upload is completed where the finalizer is. -/
def FinalizerPoint.late : FinalizerPoint → Bool
  | .queued | .completing | .failing .ossCompleting _ => false
  | _ => true

structure FinalizerOk (m : Machine) (id : Id) (claimed : Session) (point : FinalizerPoint)
    (key : Id) : Prop extends Claimed m id claimed key where
  parts : ∀ u, m.db.sessions[id]? = some u → u.parts = claimed.parts ∧ u.uploaded = true
  begun : point ≠ .queued → ∀ u, m.db.sessions[id]? = some u → Begun u
  closed : point.late = true → ∀ r, m.uploads[key]? = some r → r.multipart = none

def CallOk (m : Machine) : Call → Prop
  | .discarding key => Free m key ∧
      ∀ (j : Id) (v : Session), m.db.sessions[j]? = some v → v.ossUploadId ≠ some key
  | .storing id key _ => Mine m id key
  | .recording _ _ => True
  | .finalizer id _ claimed point => ∃ key, FinalizerOk m id claimed point key
  | .ender id _ claimed _ _ => ∃ key, Claimed m id claimed key

/-- The session that is to be created has an upload of its own, without parts. -/
structure Fresh (m : Machine) (input : CreateInput) : Prop where
  objectKey : input.objectKey = input.ossUploadId
  upload : m.uploads[input.ossUploadId]? = some newUpload
  unused : ∀ (j : Id) (v : Session), m.db.sessions[j]? = some v →
    v.ossUploadId ≠ some input.ossUploadId

structure MachineOk (m : Machine) : Prop where
  db : StateOk m.db
  mine : ∀ (id : Id) (u : Session) (key : Id), m.db.sessions[id]? = some u →
    u.ossUploadId = some key → Mine m id key
  live : ∀ (id : Id) (u : Session), m.db.sessions[id]? = some u → u.live = true →
    ∃ key, u.ossUploadId = some key ∧ u.objectKey = some key
  fresh : ∀ (input : CreateInput) (expiresAt : Int), .create input expiresAt ∈ m.db.pending →
    Fresh m input
  distinct : (m.db.pending.filterMap Pending.upload).Nodup
  store : ∀ (key : Id) (r : Upload), m.uploads[key]? = some r → r.object ≠ none →
    r.multipart = none
  call : ∀ c ∈ m.calls, CallOk m c

/-! ## Transactions under way -/

/-- A statement to which a transaction of a new session does not belong. -/
def Unborn (s : State) (input : Input) : Prop :=
  ∀ create now create' expiresAt, input = .createOrResume create now →
    createOrResume s create now ≠ some (.create create' expiresAt)

theorem begin_uploads {begun : Option Pending} (h : ∀ p, begun = some p → p.upload = none) :
    ((s.begin begun).pending.filterMap Pending.upload).Sublist
      (s.pending.filterMap Pending.upload) := by
  rcases begun with _ | p
  · simp [State.begin]
  · simp [State.begin, h p rfl]

theorem createOrResume_upload {create : CreateInput} {now : Int}
    (h : Unborn s (.createOrResume create now)) (p : Pending)
    (hp : createOrResume s create now = some p) : p.upload = none := by
  cases p with
  | create create' expiresAt => exact absurd hp (h create now create' expiresAt rfl)
  | resume sessionId expiresAt => rfl
  | part sessionId part now => rfl
  | queue sessionId => rfl

theorem recordPart_upload {part : Part} {now : Int} (p : Pending)
    (hp : recordPart s id part now = some p) : p.upload = none := by
  unfold recordPart at hp
  split at hp
  · exact absurd hp (by simp)
  · split at hp
    · obtain rfl := Option.some.inj hp
      rfl
    · exact absurd hp (by simp)

theorem queueFinalization_upload (p : Pending) (hp : queueFinalization s id = some p) :
    p.upload = none := by
  unfold queueFinalization at hp
  split at hp
  · exact absurd hp (by simp)
  · split at hp
    · obtain rfl := Option.some.inj hp
      rfl
    · exact absurd hp (by simp)

/-- The sessions that are to be created after a statement were to be created before. -/
theorem step_uploads (h : Unborn s input) :
    ((step s input).pending.filterMap Pending.upload).Sublist
      (s.pending.filterMap Pending.upload) := by
  cases input with
  | createOrResume create now =>
    exact begin_uploads (createOrResume_upload h)
  | recordPart sessionId part now => exact begin_uploads recordPart_upload
  | queueFinalization sessionId => exact begin_uploads queueFinalization_upload
  | commit place =>
    simp only [step]
    split
    · exact .refl _
    · exact (List.eraseIdx_sublist ..).filterMap _
  | rollback place => exact (List.eraseIdx_sublist ..).filterMap _
  | claimDue candidates leaseMs now => exact .refl _
  | expireDue candidates leaseMs now => exact .refl _
  | claimCancellation sessionId leaseMs now => exact .refl _
  | advanceClaimed lease sessionId advance =>
    simp only [step, advanceClaimed, owned_pending, List.Sublist.refl]
  | markRetryableFailure lease sessionId stage code leaseExpiresAt =>
    simp only [step, markRetryableFailure, owned_pending, List.Sublist.refl]
  | retryFailed sessionId now => exact .refl _
  | releaseLease owner sessionId => simp only [step, releaseLease, owned_pending, List.Sublist.refl]
  | markTerminal owner sessionId status code now =>
    simp only [step, markTerminal, owned_pending, List.Sublist.refl]
  | attachPreparedFieldVideo lease sessionId now =>
    simp only [step, attachPreparedFieldVideo, owned_pending, List.Sublist.refl]

theorem mem_uploads {p : Pending} {l : List Pending} (hp : p ∈ l) (h : p.upload = some key) :
    key ∈ l.filterMap Pending.upload := List.mem_filterMap.2 ⟨p, hp, h⟩

/-- The upload of a session that is created is not that of another session to be created. -/
theorem committed_upload {place : Nat} {p : Pending} (hplace : s.pending[place]? = some p)
    (hupload : p.upload = some key) (hdistinct : (s.pending.filterMap Pending.upload).Nodup) :
    key ∉ (s.pending.eraseIdx place).filterMap Pending.upload := by
  obtain ⟨hlt, rfl⟩ := List.getElem?_eq_some_iff.1 hplace
  have hperm := (List.getElem_cons_eraseIdx_perm hlt).filterMap Pending.upload
  rw [List.filterMap_cons_some hupload] at hperm
  exact (List.nodup_cons.1 (hperm.nodup_iff.2 hdistinct)).1

/-! ## Statements -/

/-- What a statement of a call has to respect: it creates no session, and moves a session past
`OSS_COMPLETING` only when the multipart upload is completed. -/
structure InputOk (m : Machine) (input : Input) : Prop where
  unborn : Unborn m.db input
  advanced : ∀ lease id advance u key r, input = .advanceClaimed lease id advance →
    advance.status ≠ .ossCompleting → m.db.sessions[id]? = some u → u.live = true →
      u.ossUploadId = some key → m.uploads[key]? = some r → r.multipart = none
  failed : ∀ lease id code leaseExpiresAt u key r,
    input = .markRetryableFailure lease id .processing code leaseExpiresAt →
      m.db.sessions[id]? = some u → u.live = true → u.ossUploadId = some key →
        m.uploads[key]? = some r → r.multipart = none

theorem on_pending (h : Unborn m.db input) {p : Pending} (hp : p ∈ (m.on input).db.pending)
    (hkey : p.upload = some key) : ∃ p₀ ∈ m.db.pending, p₀.upload = some key :=
  List.mem_filterMap.1 ((step_uploads h).subset (mem_uploads hp hkey))

/-- A session after a statement was there, or was to be created. -/
theorem on_session (input : Input) (hu : (m.on input).db.sessions[id]? = some u') :
    (∃ u, m.db.sessions[id]? = some u ∧ Change m.db input id u u') ∨
      ∃ create expiresAt place, u' = newSession create expiresAt ∧ input = .commit place ∧
        m.db.pending[place]? = some (.create create expiresAt) ∧ id = m.db.sessions.length := by
  rcases hold : m.db.sessions[id]? with _ | u
  · obtain ⟨create, expiresAt, place, hnew, hinput, hplace, -, hid, -⟩ := step_new hu hold
    exact .inr ⟨create, expiresAt, place, hnew, hinput, hplace, hid⟩
  · obtain ⟨v, hv, hchange⟩ := step_session input hold
    obtain rfl : u' = v := Option.some.inj (hu.symm.trans hv)
    exact .inl ⟨u, rfl, hchange⟩

theorem Free.on (h : Free m key) (hunborn : Unborn m.db input) : Free (m.on input) key where
  lt := h.lt
  pending := fun p hp hkey => by
    obtain ⟨p₀, hp₀, hkey₀⟩ := on_pending hunborn hp hkey
    exact h.pending p₀ hp₀ hkey₀

/-- A session with an upload that no session is to be created with had it before. -/
theorem Free.session (h : Free m key) (hu : (m.on input).db.sessions[id]? = some u')
    (hkey : u'.ossUploadId = some key) :
    ∃ u, m.db.sessions[id]? = some u ∧ u.ossUploadId = some key := by
  rcases on_session input hu with ⟨u, hold, hchange⟩ | ⟨create, expiresAt, place, rfl, -, hplace, -⟩
  · rcases hchange.held with hheld | ⟨-, hnone⟩
    · exact ⟨u, hold, hheld.ossUploadId.symm.trans hkey⟩
    · exact absurd (hnone.symm.trans hkey) (by simp)
  · exact absurd hkey (h.pending _ (List.mem_of_getElem? hplace))

theorem Mine.on (h : Mine m id key) (hok : MachineOk m) (hunborn : Unborn m.db input) :
    Mine (m.on input) id key where
  toFree := h.toFree.on hunborn
  only := fun j v hv hkey => by
    obtain ⟨u, hu, hkey⟩ := h.toFree.session hv hkey
    exact h.only j u hu hkey
  session := by
    obtain ⟨u, hu, hkey⟩ := h.session
    obtain ⟨u', hu', hchange⟩ := step_session input hu
    refine ⟨u', hu', fun hlive => ?_⟩
    rcases hchange.held with hheld | ⟨hnot, -⟩
    · rw [hheld.ossUploadId]
      exact hkey (hchange.live hok.db hu hlive)
    · exact absurd hlive (by simp [hnot])

theorem Claimed.on {claimed : Session} (h : Claimed m id claimed key) (hok : MachineOk m)
    (hunborn : Unborn m.db input) : Claimed (m.on input) id claimed key where
  toMine := h.toMine.on hok hunborn
  ossUploadId := h.ossUploadId
  objectKey := h.objectKey

theorem FinalizerOk.on {claimed : Session} {point : FinalizerPoint}
    (h : FinalizerOk m id claimed point key) (hok : MachineOk m) (hunborn : Unborn m.db input) :
    FinalizerOk (m.on input) id claimed point key := by
  obtain ⟨u, hu, -⟩ := h.session
  obtain ⟨u', hu', hchange⟩ := step_session input hu
  have hsame : ∀ v, (m.on input).db.sessions[id]? = some v → v = u' :=
    fun v hv => Option.some.inj (hv.symm.trans hu')
  obtain ⟨hparts, huploaded⟩ := h.parts u hu
  refine ⟨h.toClaimed.on hok hunborn, fun v hv => ?_, fun hpoint v hv => ?_, h.closed⟩
  · rw [hsame v hv, hchange.parts_kept hok.db hu huploaded]
    exact ⟨hparts, hchange.uploaded hok.db hu huploaded⟩
  · rw [hsame v hv]
    exact hchange.begun (hok.db.session id u hu) (h.begun hpoint u hu)

theorem CallOk.on {c : Call} (h : CallOk m c) (hok : MachineOk m) (hunborn : Unborn m.db input) :
    CallOk (m.on input) c := by
  cases c with
  | discarding key =>
    refine ⟨h.1.on hunborn, fun j v hv hkey => ?_⟩
    obtain ⟨u, hu, hkey⟩ := h.1.session hv hkey
    exact h.2 j u hu hkey
  | storing id key part => exact Mine.on h hok hunborn
  | recording id part => trivial
  | finalizer id lease claimed point =>
    obtain ⟨key, h⟩ := h
    exact ⟨key, h.on hok hunborn⟩
  | ender id owner claimed status point =>
    obtain ⟨key, h⟩ := h
    exact ⟨key, h.on hok hunborn⟩

/-- A session that is created has its upload to itself. -/
theorem MachineOk.created (hok : MachineOk m) {create : CreateInput} {expiresAt : Int}
    {place : Nat} (hplace : m.db.pending[place]? = some (.create create expiresAt))
    (hnew : (m.on (.commit place)).db.sessions[id]? = some (newSession create expiresAt))
    (hid : id = m.db.sessions.length) : Mine (m.on (.commit place)) id create.ossUploadId := by
  have hfresh := hok.fresh create expiresAt (List.mem_of_getElem? hplace)
  refine ⟨⟨get_lt hfresh.upload, ?_⟩, ?_, _, hnew, fun _ => rfl⟩
  · intro p hp hkey
    have hpending : (m.on (.commit place)).db.pending = m.db.pending.eraseIdx place := by
      simp [Machine.on, step, hplace]
    rw [hpending] at hp
    exact committed_upload hplace rfl hok.distinct (mem_uploads hp hkey)
  · intro j v hv hkey
    rcases on_session _ hv with ⟨u, hu, hchange⟩ | ⟨create', expiresAt', place', -, -, -, hj⟩
    · rcases hchange.held with hheld | ⟨-, hnone⟩
      · exact absurd (hheld.ossUploadId.symm.trans hkey) (hfresh.unused j u hu)
      · exact absurd (hnone.symm.trans hkey) (by simp)
    · rw [hj, hid]

theorem Fresh.on {create : CreateInput} {expiresAt : Int} (h : Fresh m create)
    (hok : MachineOk m) (hunborn : Unborn m.db input)
    (hpending : .create create expiresAt ∈ (m.on input).db.pending) :
    Fresh (m.on input) create where
  objectKey := h.objectKey
  upload := h.upload
  unused := fun j v hv hkey => by
    rcases on_session input hv with ⟨u, hu, hchange⟩ | ⟨create', expiresAt', place, rfl, hin, hp, -⟩
    · rcases hchange.held with hheld | ⟨-, hnone⟩
      · exact h.unused j u hu (hheld.ossUploadId.symm.trans hkey)
      · exact absurd (hnone.symm.trans hkey) (by simp)
    · -- the session was created by a transaction that is not under way any more
      subst hin
      have hleft : (m.on (.commit place)).db.pending = m.db.pending.eraseIdx place := by
        simp [Machine.on, step, hp]
      rw [hleft] at hpending
      exact committed_upload hp hkey hok.distinct (mem_uploads hpending rfl)

theorem on_create {create : CreateInput} {expiresAt : Int} (hunborn : Unborn m.db input)
    (h : .create create expiresAt ∈ (m.on input).db.pending) :
    .create create expiresAt ∈ m.db.pending := by
  rcases step_pending h with hold | hbegun
  · exact hold
  · cases input with
    | createOrResume create' now => exact absurd hbegun (hunborn create' now create expiresAt rfl)
    | recordPart sessionId part now =>
      exact absurd (recordPart_upload _ hbegun) (by simp [Pending.upload])
    | queueFinalization sessionId =>
      exact absurd (queueFinalization_upload _ hbegun) (by simp [Pending.upload])
    | _ => exact hbegun.elim

theorem MachineOk.on (hok : MachineOk m) (hunborn : Unborn m.db input) :
    MachineOk (m.on input) where
  db := step_ok hok.db input
  mine := fun id u key hu hkey => by
    rcases on_session input hu with ⟨v, hv, hchange⟩ | ⟨create, expiresAt, place, rfl, hin, hp, hid⟩
    · rcases hchange.held with hheld | ⟨-, hnone⟩
      · exact (hok.mine id v key hv (hheld.ossUploadId.symm.trans hkey)).on hok hunborn
      · exact absurd (hnone.symm.trans hkey) (by simp)
    · subst hin
      obtain rfl := Option.some.inj hkey
      exact hok.created hp hu hid
  live := fun id u hu hlive => by
    rcases on_session input hu with ⟨v, hv, hchange⟩ | ⟨create, expiresAt, place, rfl, hin, hp, hid⟩
    · obtain ⟨key, hupload, hobject⟩ := hok.live id v hv (hchange.live hok.db hv hlive)
      rcases hchange.held with hheld | ⟨hnot, -⟩
      · exact ⟨key, hheld.ossUploadId.trans hupload, hheld.objectKey.trans hobject⟩
      · exact absurd hlive (by simp [hnot])
    · have hfresh := hok.fresh create expiresAt (List.mem_of_getElem? hp)
      exact ⟨create.ossUploadId, rfl, congrArg some hfresh.objectKey⟩
  fresh := fun create expiresAt hpending =>
    (hok.fresh create expiresAt (on_create hunborn hpending)).on hok hunborn hpending
  distinct := hok.distinct.sublist (step_uploads hunborn)
  store := hok.store
  call := fun c hc => (hok.call c hc).on hok hunborn

end SubscriptionSaas.FieldVideo
