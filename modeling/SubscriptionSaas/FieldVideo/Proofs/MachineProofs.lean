import SubscriptionSaas.FieldVideo.Proofs.CallProofs
import SubscriptionSaas.FieldVideo.Proofs.LeaseProofs

/-!
# Runs of the machine

Every event keeps what is known of uploads and calls, and leaves every live session what it needs
exactly if it is harmless. So the live uploads of a run can be finished after every step exactly if
every step is harmless.
-/

namespace SubscriptionSaas.FieldVideo

open Tables

variable {m m' : Machine} {u u' : Session} {id key : Id} {input : Input} {r : Upload} {event : Event}

/-! ## Calls come and go -/

theorem MachineOk.withCalls (hok : MachineOk m) {calls : List Call}
    (h : ∀ c ∈ calls, CallOk m c) : MachineOk { m with calls := calls } where
  db := hok.db
  mine := fun id u key hu hkey =>
    have h := hok.mine id u key hu hkey
    ⟨⟨h.lt, h.pending⟩, h.only, h.session⟩
  live := hok.live
  fresh := fun input expiresAt hpending =>
    have h := hok.fresh input expiresAt hpending
    ⟨h.objectKey, h.upload, h.unused⟩
  distinct := hok.distinct
  store := hok.store
  call := fun c hc => by
    have h := h c hc
    cases c with
    | discarding key => exact ⟨⟨h.1.lt, h.1.pending⟩, h.2⟩
    | storing id key part => exact ⟨⟨h.lt, h.pending⟩, h.only, h.session⟩
    | recording id part => trivial
    | finalizer id lease claimed point =>
      obtain ⟨key, h⟩ := h
      exact ⟨key, ⟨⟨⟨h.lt, h.pending⟩, h.only, h.session⟩, h.ossUploadId, h.objectKey⟩, h.parts,
        h.begun, h.closed⟩
    | ender id owner claimed status point =>
      obtain ⟨key, h⟩ := h
      exact ⟨key, ⟨⟨h.lt, h.pending⟩, h.only, h.session⟩, h.ossUploadId, h.objectKey⟩

theorem MachineOk.append (hok : MachineOk m) {calls : List Call} (h : ∀ c ∈ calls, CallOk m c) :
    MachineOk { m with calls := m.calls ++ calls } := by
  refine hok.withCalls fun c hc => ?_
  rcases List.mem_append.1 hc with hold | hnew
  · exact hok.call c hold
  · exact h c hnew

theorem MachineOk.goesOn (hok : MachineOk m) (place : Nat) {left : Option Call}
    (h : ∀ c, left = some c → CallOk m c) : MachineOk (m.goesOn place left) := by
  refine hok.withCalls fun c hc => ?_
  rcases List.mem_append.1 hc with hold | hnew
  · exact hok.call c (List.mem_of_mem_eraseIdx hold)
  · exact h c (Option.mem_toList.1 hnew)

/-! ## New uploads -/

/-- The sessions that are there have an upload that was there before a new one. -/
theorem MachineOk.key_lt (hok : MachineOk m) (hu : m.db.sessions[id]? = some u)
    (hkey : u.ossUploadId = some key) : key < m.uploads.length := (hok.mine id u key hu hkey).lt

theorem MachineOk.pending_lt (hok : MachineOk m) {p : Pending} (hp : p ∈ m.db.pending)
    (hkey : p.upload = some key) : key < m.uploads.length := by
  cases p with
  | create input expiresAt =>
    obtain rfl := Option.some.inj hkey
    exact get_lt (hok.fresh input expiresAt hp).upload
  | resume sessionId expiresAt => exact absurd hkey (by simp [Pending.upload])
  | part sessionId part now => exact absurd hkey (by simp [Pending.upload])
  | queue sessionId => exact absurd hkey (by simp [Pending.upload])

/-- A multipart upload is begun, and the transaction does its reads. -/
def Machine.begins (m : Machine) (begun : Option Pending) : Machine :=
  { m with
    db := m.db.begin begun
    uploads := m.uploads ++ [newUpload] }

theorem get_begins {begun : Option Pending} (hlt : key < m.uploads.length)
    (h : (m.begins begun).uploads[key]? = some r) : m.uploads[key]? = some r := by
  rcases get_append h with hold | ⟨rfl, -⟩
  · exact hold
  · exact absurd hlt (by simp)

theorem Free.begins {begun : Option Pending} (h : Free m key)
    (hbegun : ∀ p k, begun = some p → p.upload = some k → k = m.uploads.length) :
    Free (m.begins begun) key where
  lt := by
    simp only [Machine.begins, List.length_append, List.length_singleton]
    exact Nat.lt_succ_of_lt h.lt
  pending := fun p hp hkey => by
    rcases begin_pending hp with hold | hnew
    · exact h.pending p hold hkey
    · exact absurd h.lt (by simp [hbegun p key hnew hkey])

theorem Mine.begins {begun : Option Pending} (h : Mine m id key)
    (hbegun : ∀ p k, begun = some p → p.upload = some k → k = m.uploads.length) :
    Mine (m.begins begun) id key :=
  ⟨h.toFree.begins hbegun, h.only, h.session⟩

theorem CallOk.begins {begun : Option Pending} {c : Call} (h : CallOk m c)
    (hbegun : ∀ p k, begun = some p → p.upload = some k → k = m.uploads.length) :
    CallOk (m.begins begun) c := by
  cases c with
  | discarding key => exact ⟨h.1.begins hbegun, h.2⟩
  | storing id key part => exact Mine.begins h hbegun
  | recording id part => trivial
  | finalizer id lease claimed point =>
    obtain ⟨key, h⟩ := h
    exact ⟨key, ⟨h.toMine.begins hbegun, h.ossUploadId, h.objectKey⟩, h.parts, h.begun,
      fun hlate r hr => h.closed hlate r (get_begins h.lt hr)⟩
  | ender id owner claimed status point =>
    obtain ⟨key, h⟩ := h
    exact ⟨key, h.toMine.begins hbegun, h.ossUploadId, h.objectKey⟩

theorem MachineOk.begins {begun : Option Pending} (hok : MachineOk m)
    (hdb : StateOk (m.db.begin begun))
    (hbegun : ∀ p k, begun = some p → p.upload = some k → k = m.uploads.length)
    (hcreate : ∀ input expiresAt, begun = some (.create input expiresAt) →
      input.objectKey = input.ossUploadId) : MachineOk (m.begins begun) where
  db := hdb
  mine := fun id u key hu hkey => (hok.mine id u key hu hkey).begins hbegun
  live := hok.live
  fresh := fun input expiresAt hpending => by
    rcases begin_pending hpending with hold | hnew
    · have hfresh := hok.fresh input expiresAt hold
      exact ⟨hfresh.objectKey, get_append_old hfresh.upload, hfresh.unused⟩
    · have heq : input.ossUploadId = m.uploads.length := hbegun _ _ hnew rfl
      refine ⟨hcreate input expiresAt hnew, ?_, fun j v hv hkey => ?_⟩
      · rw [heq]
        exact List.getElem?_concat_length
      · exact absurd (hok.key_lt hv hkey) (by simp [heq])
  distinct := by
    rcases begun with _ | p
    · simpa [Machine.begins, State.begin] using hok.distinct
    · rcases hp : p.upload with _ | k
      · simpa [Machine.begins, State.begin, hp] using hok.distinct
      · have hk := hbegun p k rfl hp
        simp only [Machine.begins, State.begin, Option.toList_some, List.filterMap_append,
          List.filterMap_cons, hp, List.filterMap_nil]
        refine List.nodup_append.2 ⟨hok.distinct, by simp, ?_⟩
        intro k₀ hk₀ k₁ hk₁ heq
        obtain ⟨p₀, hp₀, hkey₀⟩ := List.mem_filterMap.1 hk₀
        have hone : k₁ = k := List.mem_singleton.1 hk₁
        exact absurd (hok.pending_lt hp₀ hkey₀) (by simp [heq, hone, hk])
  store := fun key r hr hobject => by
    rcases get_append hr with hold | ⟨-, rfl⟩
    · exact hok.store key r hold hobject
    · exact absurd rfl hobject
  call := fun c hc => (hok.call c hc).begins hbegun

theorem begins_finishable (begun : Option Pending) (hfin : m.Finishable) :
    (m.begins begun).Finishable := by
  rw [finishable_iff] at hfin ⊢
  intro id u hu hlive
  obtain ⟨key, r, hkey, hr, hserves⟩ := hfin id u hu hlive
  exact ⟨key, r, hkey, get_append_old hr, hserves⟩

/-! ## Requests -/

/-- What an event does: it keeps what is known, and leaves every live session what it needs exactly if
it is harmless. -/
structure Stepped (m : Machine) (event : Event) (m' : Machine) : Prop where
  ok : MachineOk m'
  finishable : m'.Finishable ↔ m.Harmless event

theorem createOrResume_create {s : State} {create create' : CreateInput} {now expiresAt : Int}
    (h : createOrResume s create now = some (.create create' expiresAt)) : create' = create := by
  unfold createOrResume at h
  split at h
  · split at h <;> exact absurd h (by simp)
  · exact (Pending.create.inj (Option.some.inj h)).1.symm

theorem create_stepped (hok : MachineOk m) (hfin : m.Finishable) (evidenceItemId : Id)
    (fingerprintHash : String) (sizeBytes : Nat) (now : Int) :
    Stepped m (.create evidenceItemId fingerprintHash sizeBytes now)
      (create m evidenceItemId fingerprintHash sizeBytes now) := by
  let input : CreateInput :=
    ⟨evidenceItemId, fingerprintHash, m.uploads.length, m.uploads.length, sizeBytes,
      totalPartsOf sizeBytes⟩
  have hdb : StateOk (m.db.begin (createOrResume m.db input now)) :=
    step_ok hok.db (.createOrResume input now)
  have hinput : ∀ input' expiresAt,
      createOrResume m.db input now = some (.create input' expiresAt) → input' = input :=
    fun input' expiresAt h => createOrResume_create h
  have hbegun : ∀ p k, createOrResume m.db input now = some p → p.upload = some k →
      k = m.uploads.length := by
    intro p k hp hk
    cases p with
    | create input' expiresAt =>
      obtain rfl := hinput input' expiresAt hp
      exact (Option.some.inj hk).symm
    | resume sessionId expiresAt => exact absurd hk (by simp [Pending.upload])
    | part sessionId part now => exact absurd hk (by simp [Pending.upload])
    | queue sessionId => exact absurd hk (by simp [Pending.upload])
  have hbegins := hok.begins hdb hbegun fun input' expiresAt h => by
    obtain rfl := hinput input' expiresAt h
    rfl
  have hfinishable := begins_finishable (createOrResume m.db input now) hfin
  simp only [create]
  split
  · exact ⟨hbegins, iff_of_true hfinishable trivial⟩
  · -- the upload is discarded: it is the last one, and no session is to be created with it
    rename_i hnot
    refine ⟨hbegins.append fun c hc => ?_, iff_of_true hfinishable trivial⟩
    obtain rfl := List.mem_singleton.1 hc
    refine ⟨⟨by simp [Machine.begins], fun p hp hkey => ?_⟩, fun j v hv hkey => ?_⟩
    · rcases begin_pending hp with hold | hnew
      · exact absurd (hok.pending_lt hold hkey) (by simp)
      · cases p with
        | create input' expiresAt => exact hnot input' expiresAt hnew
        | resume sessionId expiresAt => exact absurd hkey (by simp [Pending.upload])
        | part sessionId part now => exact absurd hkey (by simp [Pending.upload])
        | queue sessionId => exact absurd hkey (by simp [Pending.upload])
    · exact absurd (hok.key_lt hv hkey) (by simp)

/-- A statement that is not a commit and belongs to no call. -/
theorem on_stepped (hok : MachineOk m) (hfin : m.Finishable) (hinput : InputOk m input)
    (hcommit : ∀ place, input ≠ .commit place) :
    MachineOk (m.on input) ∧ (m.on input).Finishable :=
  ⟨hok.on hinput.unborn, on_finishable hok hinput hfin fun place h => absurd h (hcommit place)⟩

theorem createOrResume_live {s : State} {create : CreateInput}
    (h : (s.findLive create.evidenceItemId).isSome = true) (now : Int) :
    Unborn s (.createOrResume create now) := by
  intro create₀ now₀ create' expiresAt heq
  obtain ⟨rfl, rfl⟩ := Input.createOrResume.inj heq
  obtain ⟨sessionId, hsession⟩ := Option.isSome_iff_exists.1 h
  unfold createOrResume
  simp only [hsession]
  split <;> simp

theorem resume_stepped (hok : MachineOk m) (hfin : m.Finishable) (create : CreateInput)
    (now : Int) : Stepped m (.resume create now) (resume m create now) := by
  unfold resume
  split
  · rename_i hlive
    have hinput : InputOk m (.createOrResume create now) :=
      ⟨createOrResume_live hlive now, by simp, by simp⟩
    obtain ⟨hon, hfin'⟩ := on_stepped hok hfin hinput (by simp)
    exact ⟨hon, iff_of_true hfin' trivial⟩
  · exact ⟨hok, iff_of_true hfin trivial⟩

theorem uploadPart_stepped (hok : MachineOk m) (hfin : m.Finishable) (id : Id) (part : Part) :
    Stepped m (.uploadPart id part) (uploadPart m id part) := by
  have hsame : Stepped m (.uploadPart id part) m := ⟨hok, iff_of_true hfin trivial⟩
  unfold uploadPart
  split
  · exact hsame
  · rename_i u hu
    split
    · exact hsame
    · rename_i key hkey
      split
      · refine ⟨hok.append fun c hc => ?_, iff_of_true hfin trivial⟩
        obtain rfl := List.mem_singleton.1 hc
        exact hok.mine id u key hu hkey
      · exact hsame

/-! ## Claims -/

/-- A live session is claimed with its upload. -/
theorem MachineOk.claimed (hok : MachineOk m) (hunborn : Unborn m.db input)
    (hu : m.db.sessions[id]? = some u) (hlive : u.live = true) (hkey : u'.ossUploadId = u.ossUploadId)
    (hobject : u'.objectKey = u.objectKey) : ∃ key, Claimed (m.on input) id u' key := by
  obtain ⟨key, hupload, hkey'⟩ := hok.live id u hu hlive
  exact ⟨key, (hok.mine id u key hu hupload).on hok hunborn, hkey.trans hupload,
    hobject.trans hkey'⟩

theorem cancel_stepped (hok : MachineOk m) (hfin : m.Finishable) (id : Id) (leaseMs now : Int) :
    Stepped m (.cancel id leaseMs now) (cancel m id leaseMs now) := by
  have hinput : InputOk m (.claimCancellation id leaseMs now) :=
    inputOk_of_other (by simp) (by simp) (by simp)
  obtain ⟨hon, hfin'⟩ := on_stepped hok hfin hinput (by simp)
  refine ⟨hon.append fun c hc => ?_, iff_of_true hfin' trivial⟩
  obtain ⟨claimed, hclaimed, rfl⟩ := Option.map_eq_some_iff.1 (Option.mem_toList.1 hc)
  obtain ⟨u, hu, rfl⟩ := Option.map_eq_some_iff.1 hclaimed
  obtain ⟨hu, hcancellable⟩ := Option.filter_eq_some_iff.1 hu
  simp only [Session.cancellable, Bool.and_eq_true] at hcancellable
  exact hok.claimed hinput.unborn hu hcancellable.1 rfl rfl

theorem expire_stepped (hok : MachineOk m) (hfin : m.Finishable) (candidates : List Id)
    (leaseMs now : Int) :
    Stepped m (.expire candidates leaseMs now) (expire m candidates leaseMs now) := by
  have hinput : InputOk m (.expireDue candidates leaseMs now) :=
    inputOk_of_other (by simp) (by simp) (by simp)
  obtain ⟨hon, hfin'⟩ := on_stepped hok hfin hinput (by simp)
  refine ⟨hon.append fun c hc => ?_, iff_of_true hfin' trivial⟩
  obtain ⟨id, -, hc⟩ := List.mem_filterMap.1 hc
  obtain ⟨u, hu, rfl⟩ := Option.map_eq_some_iff.1 hc
  obtain ⟨hu, hoverdue⟩ := Option.filter_eq_some_iff.1 hu
  simp only [Session.overdue, Bool.and_eq_true, beq_iff_eq] at hoverdue
  have hlive : u.live = true := by
    rw [Session.live, hoverdue.1.1]
    rfl
  exact hok.claimed hinput.unborn hu hlive rfl rfl

/-- A finalizer starts where its session is. -/
theorem startPoint_begun {status : UploadStatus} {point : FinalizerPoint}
    (h : startPoint status = some point) :
    (point = .queued ∨ status ≠ .uploading ∧ status ≠ .finalizeQueued) ∧
      (point.late = true → status = .objectReady ∨ status = .processing) := by
  cases status <;> simp only [startPoint, Option.some.injEq, reduceCtorEq] at h
  all_goals subst h; simp [FinalizerPoint.late]

theorem claim_stepped (hok : MachineOk m) (hfin : m.Finishable) (candidates : List Id)
    (leaseMs now : Int) :
    Stepped m (.claim candidates leaseMs now) (claim m candidates leaseMs now) := by
  have hinput : InputOk m (.claimDue candidates leaseMs now) :=
    inputOk_of_other (by simp) (by simp) (by simp)
  obtain ⟨hon, hfin'⟩ := on_stepped hok hfin hinput (by simp)
  refine ⟨hon.append fun c hc => ?_, iff_of_true hfin' trivial⟩
  obtain ⟨⟨id, claimed⟩, hclaimed, hpoint⟩ := List.mem_filterMap.1 hc
  obtain ⟨point, hstart, rfl⟩ := Option.map_eq_some_iff.1 hpoint
  obtain ⟨hthere, hcomplete⟩ := claimed_complete hok.db hclaimed
  obtain ⟨u, hu, hdue, -, rfl⟩ := claimed_session hclaimed
  have hsession := hok.db.session id u hu
  have hstatus := claim_due_status hsession hdue m.db.nextLease (now + leaseMs)
  have hclaimedOk := hon.db.session id _ hthere
  have hstage := stage_of_due hstatus
  have hlive := live_of_due_status hstatus
  have hsame : ∀ v, (m.on (.claimDue candidates leaseMs now)).db.sessions[id]? = some v →
      v = u.claim m.db.nextLease (now + leaseMs) :=
    fun v hv => Option.some.inj (hv.symm.trans hthere)
  have hulive : u.live = true := by
    rcases due_cases hdue with hdue | hfailed
    · exact live_of_due_status hdue
    · rw [Session.live, hfailed]
      rfl
  obtain ⟨key, hkey⟩ : ∃ key, Claimed (m.on (.claimDue candidates leaseMs now)) id
      (u.claim m.db.nextLease (now + leaseMs)) key :=
    hok.claimed hinput.unborn hu hulive rfl rfl
  obtain ⟨hbegun, hlate⟩ := startPoint_begun hstart
  refine ⟨key, hkey, fun v hv => ?_, fun hne v hv => ?_, fun hafter r hr => ?_⟩
  · rw [hsame v hv]
    exact ⟨rfl, hclaimedOk.uploaded_of_due hstatus⟩
  · rw [hsame v hv, Begun, hstage]
    exact hbegun.resolve_left hne
  · -- the object is there, and so the multipart upload is not
    have hserves := hkey.toMine.serves hfin' hr hthere hlive
    have hmerged : r.merged (u.claim m.db.nextLease (now + leaseMs)).parts = true := by
      rcases hlate hafter with hready | hprocessing
      · rw [Upload.serves, hstage, hready] at hserves
        exact hserves
      · rw [Upload.serves, hstage, hprocessing] at hserves
        exact hserves
    obtain ⟨object, hobject, -⟩ := (merged_iff r _).1 hmerged
    exact hon.store key r hr (by simp [hobject])

/-! ## Commits -/

/-- The upload of a session that is not created belongs to none. -/
theorem discarded_ok (hok : MachineOk m) {place : Nat} {c : Call} {input : Input}
    (hc : c ∈ (m.db.pending[place]?.bind Pending.discarded).toList)
    (hleft : (m.on input).db.pending = m.db.pending.eraseIdx place)
    (hold : ∀ (j : Id) (v : Session), (m.on input).db.sessions[j]? = some v →
      ∃ u, m.db.sessions[j]? = some u ∧ Change m.db input j u v) : CallOk (m.on input) c := by
  obtain ⟨p, hplace, hp⟩ := Option.bind_eq_some_iff.1 (Option.mem_toList.1 hc)
  cases p with
  | create create expiresAt =>
    obtain rfl := Option.some.inj hp
    have hfresh := hok.fresh create expiresAt (List.mem_of_getElem? hplace)
    refine ⟨⟨get_lt hfresh.upload, fun p hp hkey => ?_⟩, fun j v hv hkey => ?_⟩
    · rw [hleft] at hp
      exact committed_upload hplace rfl hok.distinct (mem_uploads hp hkey)
    · obtain ⟨u, hu, hchange⟩ := hold j v hv
      rcases hchange.held with hheld | ⟨-, hnone⟩
      · exact hfresh.unused j u hu (hheld.ossUploadId.symm.trans hkey)
      · exact absurd (hnone.symm.trans hkey) (by simp)
  | resume sessionId expiresAt => exact absurd hp (by simp [Pending.discarded])
  | part sessionId part now => exact absurd hp (by simp [Pending.discarded])
  | queue sessionId => exact absurd hp (by simp [Pending.discarded])

theorem inputOk_commit (m : Machine) (place : Nat) : InputOk m (.commit place) :=
  inputOk_of_other (by simp) (by simp) (by simp)

/-- A commit does harm exactly if it records a part that was replaced. -/
theorem commit_finishable (hok : MachineOk m) (hfin : m.Finishable) (place : Nat) :
    (m.on (.commit place)).Finishable ↔ m.Harmless (.commit place) := by
  constructor
  · intro hfin'
    simp only [Machine.Harmless]
    rcases hplace : m.db.pending[place]? with _ | p
    · rfl
    · cases p with
      | part sessionId part now => exact harmless_of_finishable hok hplace hfin'
      | create create expiresAt => rfl
      | resume sessionId expiresAt => rfl
      | queue sessionId => rfl
  · intro hharmless
    refine on_finishable hok (inputOk_commit m place) hfin fun place' heq => ?_
    obtain rfl := Input.commit.inj heq
    exact hharmless

theorem commit_stepped (hok : MachineOk m) (hfin : m.Finishable) (place : Nat) :
    Stepped m (.commit place) (commit m place) := by
  have hon := hok.on (inputOk_commit m place).unborn
  have hfinishable := commit_finishable hok hfin place
  simp only [commit]
  split
  · rename_i hlength
    refine ⟨hon.append fun c hc => discarded_ok hok hc ?_ fun j v hv => ?_, hfinishable⟩
    · rcases hplace : m.db.pending[place]? with _ | p
      · simp [hplace] at hc
      · simp [Machine.on, step, hplace]
    · rcases on_session _ hv with hold | ⟨create, expiresAt, place', -, -, -, hj⟩
      · exact hold
      · -- no session was created
        have hlt := get_lt hv
        rw [hlength, hj] at hlt
        exact absurd hlt (Nat.lt_irrefl _)
  · exact ⟨hon, hfinishable⟩

theorem rollback_stepped (hok : MachineOk m) (hfin : m.Finishable) (place : Nat) :
    Stepped m (.rollback place) (rollback m place) := by
  have hinput : InputOk m (.rollback place) := inputOk_of_other (by simp) (by simp) (by simp)
  obtain ⟨hon, hfin'⟩ := on_stepped hok hfin hinput (by simp)
  refine ⟨hon.append fun c hc => discarded_ok hok hc rfl fun j v hv => ?_,
    iff_of_true hfin' trivial⟩
  exact ⟨v, hv, .same m.db _ j v⟩

/-! ## Steps of calls -/

theorem remote_none {operation : Upload → Option Upload}
    (h : m.remote (some key) operation = none) (hr : m.uploads[key]? = some r) :
    operation r = none := by
  by_contra hsome
  obtain ⟨r', hr'⟩ := Option.ne_none_iff_exists'.1 hsome
  simp [Machine.remote, hr, hr'] at h

/-- A step that throws does no harm. -/
theorem harmless_of_thrown {c : Call} {answer : Answer} (hc : CallOk m c)
    (hrun : c.run m answer = none) : c.harmless m = true := by
  cases c with
  | storing id key part =>
    simp only [Call.run, Option.map_eq_none_iff] at hrun
    obtain ⟨r, hr⟩ : ∃ r, m.uploads[key]? = some r := ⟨_, List.getElem?_eq_getElem hc.lt⟩
    have hclosed := remote_none hrun hr
    simp only [uploadFieldVideoPart, Option.map_eq_none_iff] at hclosed
    simp [Call.harmless, isOpen_iff m hr, hclosed]
  | finalizer id lease claimed point =>
    obtain ⟨key, h⟩ := hc
    cases point with
    | rejecting code =>
      simp only [Call.run, finalize, h.objectKey, Option.map_eq_none_iff] at hrun
      exact absurd (remote_none hrun (List.getElem?_eq_getElem h.lt)) (by
        simp [deleteFieldVideoUploadSource])
    | _ => rfl
  | ender id owner claimed status point =>
    obtain ⟨key, h⟩ := hc
    cases point with
    | aborting =>
      simp only [Call.run, endSession, h.ossUploadId, h.objectKey, Option.isSome_some,
        Bool.and_true, if_true, Option.map_eq_none_iff] at hrun
      exact absurd (remote_none hrun (List.getElem?_eq_getElem h.lt)) (by
        simp [abortFieldVideoMultipart])
    | removing =>
      simp only [Call.run, endSession, h.objectKey, Option.map_eq_none_iff] at hrun
      exact absurd (remote_none hrun (List.getElem?_eq_getElem h.lt)) (by
        simp [deleteFieldVideoUploadSource])
    | marking => rfl
    | releasing => rfl
  | discarding key => rfl
  | recording id part => rfl

/-- The step of a call is done. -/
theorem Ran.stepped {c : Call} {left : Option Call} (h : Ran m c m' left)
    (hharmless : m.Harmless event ↔ c.harmless m = true) (place : Nat) :
    Stepped m event (m'.goesOn place left) :=
  ⟨h.ok.goesOn place h.left, h.finishable.trans hharmless.symm⟩

/-- The step is done, and its answer is lost. -/
theorem Ran.lost {c : Call} {left : Option Call} {place : Nat} (h : Ran m c m' left)
    (hc : CallOk m c) (hharmless : m.Harmless event ↔ c.harmless m = true) :
    Stepped m event (m'.goesOn place c.thrown) :=
  ⟨h.ok.goesOn place fun _ hc' => thrown_ok (h.others c hc) hc', h.finishable.trans hharmless.symm⟩

theorem thrown_stepped {c : Call} {place : Nat} (hok : MachineOk m) (hfin : m.Finishable)
    (hcall : m.calls[place]? = some c) (hharmless : m.Harmless event) :
    Stepped m event (m.goesOn place c.thrown) :=
  ⟨hok.goesOn place fun _ hc' => thrown_ok (hok.call c (List.mem_of_getElem? hcall)) hc',
    iff_of_true hfin hharmless⟩

theorem next_stepped (hok : MachineOk m) (hfin : m.Finishable) (place : Nat) (answer : Answer) :
    Stepped m (.next place answer) (m.step (.next place answer)) := by
  simp only [Machine.step]
  rcases hcall : m.calls[place]? with _ | c
  · exact ⟨hok, iff_of_true hfin (by simp [Machine.Harmless, hcall])⟩
  · have hc := hok.call c (List.mem_of_getElem? hcall)
    have hharmless : m.Harmless (.next place answer) ↔ c.harmless m = true := by
      simp [Machine.Harmless, hcall]
    dsimp only
    rcases hrun : c.run m answer with _ | ⟨m', left⟩
    · exact thrown_stepped hok hfin hcall (hharmless.2 (harmless_of_thrown hc hrun))
    · have hran := call_ran hok hfin hc hrun
      exact hran.stepped hharmless place

theorem lost_stepped (hok : MachineOk m) (hfin : m.Finishable) (place : Nat) (answer : Answer) :
    Stepped m (.lost place answer) (m.step (.lost place answer)) := by
  simp only [Machine.step]
  rcases hcall : m.calls[place]? with _ | c
  · exact ⟨hok, iff_of_true hfin (by simp [Machine.Harmless, hcall])⟩
  · have hc := hok.call c (List.mem_of_getElem? hcall)
    have hharmless : m.Harmless (.lost place answer) ↔ c.harmless m = true := by
      simp [Machine.Harmless, hcall]
    dsimp only
    rcases hrun : c.run m answer with _ | ⟨m', left⟩
    · exact thrown_stepped hok hfin hcall (hharmless.2 (harmless_of_thrown hc hrun))
    · have hran := call_ran hok hfin hc hrun
      exact hran.lost hc hharmless

theorem fail_stepped (hok : MachineOk m) (hfin : m.Finishable) (place : Nat) :
    Stepped m (.fail place) (m.step (.fail place)) := by
  refine ⟨hok.goesOn place fun c' hc' => ?_, iff_of_true hfin trivial⟩
  obtain ⟨c, hcall, hthrown⟩ := Option.bind_eq_some_iff.1 hc'
  exact thrown_ok (hok.call c (List.mem_of_getElem? hcall)) hthrown

theorem crash_stepped (hok : MachineOk m) (hfin : m.Finishable) (place : Nat) :
    Stepped m (.crash place) (m.step (.crash place)) :=
  ⟨hok.goesOn place fun c hc => absurd hc (by simp), iff_of_true hfin trivial⟩

/-! ## Live uploads can be finished -/

theorem stepped (hok : MachineOk m) (hfin : m.Finishable) (event : Event) :
    Stepped m event (m.step event) := by
  cases event with
  | create evidenceItemId fingerprintHash sizeBytes now =>
    exact create_stepped hok hfin evidenceItemId fingerprintHash sizeBytes now
  | resume input now => exact resume_stepped hok hfin input now
  | uploadPart id part => exact uploadPart_stepped hok hfin id part
  | complete id =>
    obtain ⟨hon, hfin'⟩ := on_stepped hok hfin
      (inputOk_of_other (by simp) (by simp) (by simp) : InputOk m (.queueFinalization id)) (by simp)
    exact ⟨hon, iff_of_true hfin' trivial⟩
  | retry id now =>
    obtain ⟨hon, hfin'⟩ := on_stepped hok hfin
      (inputOk_of_other (by simp) (by simp) (by simp) : InputOk m (.retryFailed id now)) (by simp)
    exact ⟨hon, iff_of_true hfin' trivial⟩
  | cancel id leaseMs now => exact cancel_stepped hok hfin id leaseMs now
  | claim candidates leaseMs now => exact claim_stepped hok hfin candidates leaseMs now
  | expire candidates leaseMs now => exact expire_stepped hok hfin candidates leaseMs now
  | commit place => exact commit_stepped hok hfin place
  | rollback place => exact rollback_stepped hok hfin place
  | next place answer => exact next_stepped hok hfin place answer
  | lost place answer => exact lost_stepped hok hfin place answer
  | fail place => exact fail_stepped hok hfin place
  | crash place => exact crash_stepped hok hfin place

theorem initial_ok : MachineOk Machine.initial where
  db := history_ok []
  mine := fun id u key hu => by simp [Machine.initial, initial] at hu
  live := fun id u hu => by simp [Machine.initial, initial] at hu
  fresh := fun input expiresAt hp => by simp [Machine.initial, initial] at hp
  distinct := List.nodup_nil
  store := fun key r hr => by simp [Machine.initial] at hr
  call := fun c hc => absurd hc List.not_mem_nil

theorem initial_finishable : Machine.initial.Finishable := fun _ hu => absurd hu List.not_mem_nil

/-- The live uploads can be finished after every step of a run exactly if every step is harmless. -/
theorem runs_finishable (hok : MachineOk m) (hfin : m.Finishable) (events : List Event) :
    Runs.Along Machine.step Machine.Harmless m events ↔
      ∀ n, (Runs.runs Machine.step m (events.take n)).Finishable := by
  induction events generalizing m with
  | nil => exact iff_of_true trivial fun n => by simpa using hfin
  | cons event events ih =>
    have hstep := stepped hok hfin event
    constructor
    · rintro ⟨hharmless, halong⟩ n
      cases n with
      | zero => exact hfin
      | succ n => exact (ih hstep.ok (hstep.finishable.2 hharmless)).1 halong n
    · intro hall
      have hone : (m.step event).Finishable := by
        have h := hall 1
        rw [List.take_succ_cons, List.take_zero] at h
        exact h
      exact ⟨hstep.finishable.1 hone, (ih hstep.ok hone).2 fun n => hall (n + 1)⟩

/-- Over the histories of the uploads: the condition is on the steps that abort, delete, replace or
record, each in the state before it. -/
theorem uploads_finishable_iff (events : List Event) :
    Runs.Along Machine.step Machine.Harmless Machine.initial events ↔
      ∀ n, (Machine.after (events.take n)).Finishable :=
  runs_finishable initial_ok initial_finishable events

/-- A video of one part is uploaded and queued; then a cancellation aborts the multipart upload and
crashes before it writes the terminal status. -/
def abortedVideo : List Event :=
  [.create 0 "f" 5 0, .commit 0, .uploadPart 0 ⟨1, 5, "a", "ea"⟩, .next 0 ⟨1, "", none⟩,
    .next 0 ⟨1, "", none⟩, .commit 0, .complete 0, .commit 0, .cancel 0 10 7,
    .next 0 ⟨7, "", none⟩, .crash 0]

/-- The lease of the cancellation runs out, and the finalizer tries to complete what is not there. -/
def retriedVideo : List Event :=
  abortedVideo ++ [.claim [0] 100 20, .next 0 ⟨21, "", none⟩, .next 0 ⟨21, "", none⟩,
    .next 0 ⟨21, "", none⟩]

/-- Two uploads of one part with different contents: the later content is in the store, and the
earlier one is recorded. -/
def replacedVideo : List Event :=
  [.create 0 "f" 5 0, .commit 0, .uploadPart 0 ⟨1, 5, "a", "ea"⟩, .uploadPart 0 ⟨1, 5, "b", "eb"⟩,
    .next 0 ⟨1, "", none⟩, .next 0 ⟨1, "", none⟩, .next 0 ⟨1, "", none⟩, .commit 0]

theorem aborted_video_not_finishable :
    ¬(Machine.after abortedVideo).Finishable ∧
      (¬(Machine.after retriedVideo).Finishable ∧
        ((Machine.after retriedVideo).db.sessions.map (·.status)) = [.retryableFailed]) ∧
      ¬(Machine.after replacedVideo).Finishable := by
  decide +kernel

end SubscriptionSaas.FieldVideo
