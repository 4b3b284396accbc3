import SubscriptionSaas.FieldVideo.Proofs.UploadProofs

/-!
# When a live upload can be finished

Every step of the machine leaves every live session what it needs exactly if it is harmless: if it does
not abort an open multipart upload, delete an object or replace a recorded part of a live session, and
does not record a part that has been replaced.
-/

namespace SubscriptionSaas.FieldVideo

open Tables

variable {m m' : Machine} {s : State} {u u' : Session} {id key : Id} {input : Input} {r r' : Upload}
  {part : Part}

theorem finishable_iff (m : Machine) :
    m.Finishable ↔ ∀ (id : Id) (u : Session), m.db.sessions[id]? = some u → u.live = true →
      ∃ key r, u.ossUploadId = some key ∧ m.uploads[key]? = some r ∧ r.serves u = true := by
  constructor
  · intro hfin id u hu hlive
    exact (usable_iff m.uploads u).1 (hfin u (List.mem_of_getElem? hu) hlive)
  · intro h u hmem hlive
    obtain ⟨id, hu⟩ := List.mem_iff_getElem?.1 hmem
    exact (usable_iff m.uploads u).2 (h id u hu hlive)

/-! ## Statements -/

theorem part_harmless_iff (m : Machine) (id : Id) (part : Part) (now : Int) :
    (Pending.part id part now).harmless m = true ↔
      (part.shapeOk = true → ∀ u, m.db.sessions[id]? = some u → u.live = true →
        (∀ p ∈ u.parts, p.partNumber ≠ part.partNumber) →
          ∃ key r stored, u.ossUploadId = some key ∧ m.uploads[key]? = some r ∧
            r.multipart = some stored ∧ partAt stored part.partNumber = some part) := by
  have hthere : ∀ u : Session,
      ((u.ossUploadId.bind (m.uploads[·]?)).any fun r => r.multipart.any fun stored =>
        partAt stored part.partNumber == some part) = true ↔
      ∃ key r stored, u.ossUploadId = some key ∧ m.uploads[key]? = some r ∧
        r.multipart = some stored ∧ partAt stored part.partNumber = some part := by
    intro u
    simp only [Option.any_eq_true, Option.bind_eq_some_iff, beq_iff_eq]
    constructor
    · rintro ⟨r, ⟨key, hkey, hr⟩, stored, hstored, hat⟩
      exact ⟨key, r, stored, hkey, hr, hstored, hat⟩
    · rintro ⟨key, r, stored, hkey, hr, hstored, hat⟩
      exact ⟨r, ⟨key, hkey, hr⟩, stored, hstored, hat⟩
  rw [Pending.harmless, Bool.or_eq_true, Bool.not_eq_true', Option.all_eq_true]
  simp only [Bool.or_eq_true, hthere]
  rcases part.shapeOk with _ | _
  · simp
  · simp only [Bool.true_eq_false, false_or, forall_const, Bool.not_eq_true', List.any_eq_true,
      beq_iff_eq]
    refine forall₂_congr fun u _ => ⟨fun h hlive hnew => ?_, fun h => ?_⟩
    · rcases h with (hdead | ⟨p, hp, hsame⟩) | hat
      · exact absurd hlive (by simp [hdead])
      · exact absurd hsame (hnew p hp)
      · exact hat
    · by_cases hlive : u.live = true
      · by_cases hnew : ∀ p ∈ u.parts, p.partNumber ≠ part.partNumber
        · exact .inr (h hlive hnew)
        · push Not at hnew
          exact .inl (.inr hnew)
      · exact .inl (.inl (Bool.eq_false_iff.2 hlive))

/-- A part that is new to a live session finds it uploading. -/
theorem uploading_of_new_part (hok : StateOk s) (hu : s.sessions[id]? = some u)
    (hlive : u.live = true) {place : Nat} {now : Int}
    (hplace : s.pending[place]? = some (.part id part now))
    (hnew : ∀ p ∈ u.parts, p.partNumber ≠ part.partNumber) : u.status = .uploading := by
  by_contra huploading
  have hsession := hok.session id u hu
  have huploaded := hsession.uploaded hlive huploading
  obtain ⟨v, hv, hrange⟩ := (hok.pending _ (List.mem_of_getElem? hplace)).part _ _ _ rfl
  obtain rfl : u = v := Option.some.inj (hu.symm.trans hv)
  obtain ⟨p, hp, hnumber⟩ := hsession.parts.full huploaded hrange
  exact hnew p hp hnumber

theorem serves_uploading (h : u.status = .uploading) : r.serves u = r.holds u.parts := by
  have hstage : u.stage = .uploading := by rw [stage_of_ne (by simp [h]), h]
  rw [Upload.serves, hstage]

theorem serves_queued (h : u.status = .finalizeQueued) : r.serves u = r.holds u.parts := by
  have hstage : u.stage = .finalizeQueued := by rw [stage_of_ne (by simp [h]), h]
  rw [Upload.serves, hstage]

/-- What is there for a session is there for it after a statement. -/
theorem Change.serves (hok : MachineOk m) (hinput : InputOk m input)
    (hpart : ∀ place, input = .commit place → m.db.pending[place]?.all (·.harmless m) = true)
    (hu : m.db.sessions[id]? = some u) (h : Change m.db input id u u') (hlive : u'.live = true)
    (hkey : u.ossUploadId = some key) (hr : m.uploads[key]? = some r) (hserves : r.serves u = true) :
    r.serves u' = true := by
  have hsession := hok.db.session id u hu
  have hbefore := h.live hok.db hu hlive
  have hbegun : Begun u → Begun u' := h.begun hsession
  cases h with
  | kept hheld hparts hstatus hstage =>
    rw [serves_congr (stage_of_same hstatus hstage) hparts]
    exact hserves
  | @part _ place part now hin hplace hshape hnew hheld hparts hstatus =>
    have huploading := uploading_of_new_part hok.db hu hbefore hplace hnew
    have hharmless := hpart place hin
    rw [hplace, Option.all_some, part_harmless_iff] at hharmless
    obtain ⟨key', r', stored, hkey', hr', hstored, hat⟩ := hharmless hshape u hu hbefore hnew
    obtain rfl := Option.some.inj (hkey.symm.trans hkey')
    obtain rfl := Option.some.inj (hr.symm.trans hr')
    rw [serves_uploading huploading, holds_iff] at hserves
    obtain ⟨stored', hstored', hall⟩ := hserves
    obtain rfl := Option.some.inj (hstored.symm.trans hstored')
    rw [serves_uploading (hstatus.trans huploading), holds_iff]
    refine ⟨stored, hstored, fun p hp => ?_⟩
    rw [hparts, List.mem_append, List.mem_singleton] at hp
    rcases hp with hp | rfl
    · exact hall p hp
    · exact hat
  | queued hpending huploading hheld hparts hstatus =>
    rw [serves_queued hstatus, hparts, ← serves_uploading huploading]
    exact hserves
  | claimed hdue =>
    rw [serves_congr (claim_stage hsession hdue _ _) rfl]
    exact hserves
  | @advanced _ lease advance hin hfinalizer hheld hparts hstatus =>
    have hstage : u'.stage = advance.status :=
      (stage_of_due (hstatus ▸ advance_due advance)).trans hstatus
    by_cases hcompleting : advance.status = .ossCompleting
    · refine serves_completing (hstage.trans hcompleting) ?_
      rw [hparts]
      exact serves_any hserves
    · have hclosed := hinput.advanced lease id advance u key r hin hcompleting hu hbefore hkey hr
      obtain ⟨hmerged, hb⟩ := serves_closed hclosed hserves
      refine serves_merged (hbegun hb) ?_
      rw [hparts]
      exact hmerged
  | @failed _ lease stage code leaseExpiresAt hin hfinalizer hheld hparts hstatus hstage =>
    cases stage with
    | ossCompleting =>
      refine serves_completing (stage_of_failed hstatus hstage) ?_
      rw [hparts]
      exact serves_any hserves
    | processing =>
      have hclosed := hinput.failed lease id code leaseExpiresAt u key r hin hu hbefore hkey hr
      obtain ⟨hmerged, hb⟩ := serves_closed hclosed hserves
      refine serves_merged (hbegun hb) ?_
      rw [hparts]
      exact hmerged
  | ended howned hfixed hupload hparts hstatus =>
    exact absurd hlive (not_live_of_ended hstatus)

theorem serves_new (create : CreateInput) (expiresAt : Int) :
    newUpload.serves (newSession create expiresAt) = true := rfl

theorem on_finishable (hok : MachineOk m) (hinput : InputOk m input) (hfin : m.Finishable)
    (hpart : ∀ place, input = .commit place → m.db.pending[place]?.all (·.harmless m) = true) :
    (m.on input).Finishable := by
  rw [finishable_iff] at hfin ⊢
  intro id u' hu' hlive
  rcases on_session input hu' with ⟨u, hu, hchange⟩ | ⟨create, expiresAt, place, rfl, -, hplace, -⟩
  · obtain ⟨key, r, hkey, hr, hserves⟩ := hfin id u hu (hchange.live hok.db hu hlive)
    have hserves' := hchange.serves hok hinput hpart hu hlive hkey hr hserves
    rcases hchange.held with hheld | ⟨hnot, -⟩
    · exact ⟨key, r, hheld.ossUploadId.trans hkey, hr, hserves'⟩
    · exact absurd hlive (by simp [hnot])
  · have hfresh := hok.fresh create expiresAt (List.mem_of_getElem? hplace)
    exact ⟨create.ossUploadId, newUpload, rfl, hfresh.upload, serves_new create expiresAt⟩

/-- A part that is recorded after it was replaced does harm. -/
theorem harmless_of_finishable {place : Nat} {now : Int} (hok : MachineOk m)
    (hplace : m.db.pending[place]? = some (.part id part now))
    (hfin : (m.on (.commit place)).Finishable) : (Pending.part id part now).harmless m = true := by
  rw [part_harmless_iff]
  intro hshape u hu hlive hnew
  have huploading := uploading_of_new_part hok.db hu hlive hplace hnew
  have hnone : (u.parts.any (·.partNumber == part.partNumber)) = false := by simpa using hnew
  obtain ⟨u', hu', hparts, hstatus, hupload⟩ :
      ∃ u', (m.on (.commit place)).db.sessions[id]? = some u' ∧ u'.parts = u.parts ++ [part] ∧
        u'.status = u.status ∧ u'.ossUploadId = u.ossUploadId := by
    simp [Machine.on, step, hplace, State.write, hshape, hu, hnone]
  have hlive' : u'.live = true := (live_of_status hstatus).trans hlive
  obtain ⟨key, r, hkey, hr, hserves⟩ := (finishable_iff _).1 hfin id u' hu' hlive'
  rw [serves_uploading (hstatus.trans huploading), holds_iff] at hserves
  obtain ⟨stored, hstored, hall⟩ := hserves
  exact ⟨key, r, stored, hupload.symm.trans hkey, hr, hstored, hall part (by simp [hparts])⟩

/-! ## Operations of the store -/

/-- The machine after an operation on one upload. -/
def Machine.put (m : Machine) (key : Id) (r : Upload) : Machine :=
  { m with uploads := m.uploads.set key r }

theorem remote_put {operation : Upload → Option Upload}
    (h : m.remote (some key) operation = some m') :
    ∃ r r', m.uploads[key]? = some r ∧ operation r = some r' ∧ m' = m.put key r' := by
  rcases hr : m.uploads[key]? with _ | r
  · simp [Machine.remote, hr] at h
  · rcases hop : operation r with _ | r'
    · simp [Machine.remote, hr, hop] at h
    · refine ⟨r, r', rfl, hop, ?_⟩
      simp [Machine.remote, hr, hop] at h
      exact h.symm

theorem get_put {key' : Id} {r₀ : Upload} (h : (m.put key r').uploads[key']? = some r₀) :
    (key' ≠ key ∧ m.uploads[key']? = some r₀) ∨ (key' = key ∧ r₀ = r') := by
  by_cases hkey : key' = key
  · subst hkey
    have hlt := get_lt h
    simp only [Machine.put, List.length_set] at hlt
    simp only [Machine.put, List.getElem?_set_self hlt] at h
    exact .inr ⟨rfl, (Option.some.inj h).symm⟩
  · simp only [Machine.put, List.getElem?_set_ne (Ne.symm hkey)] at h
    exact .inl ⟨hkey, h⟩

theorem Free.put {key' : Id} (h : Free m key') (key : Id) (r : Upload) : Free (m.put key r) key' :=
  ⟨by rw [Machine.put, List.length_set]; exact h.lt, h.pending⟩

theorem Mine.put {key' : Id} (h : Mine m id key') (key : Id) (r : Upload) :
    Mine (m.put key r) id key' :=
  ⟨h.toFree.put key r, h.only, h.session⟩

theorem Claimed.put {key' : Id} {claimed : Session} (h : Claimed m id claimed key') (key : Id)
    (r : Upload) : Claimed (m.put key r) id claimed key' :=
  ⟨h.toMine.put key r, h.ossUploadId, h.objectKey⟩

theorem CallOk.put {c : Call} (h : CallOk m c) (hr : m.uploads[key]? = some r)
    (hopen : r.multipart = none → r'.multipart = none) : CallOk (m.put key r') c := by
  cases c with
  | discarding key' => exact ⟨h.1.put key r', h.2⟩
  | storing id key' part => exact Mine.put h key r'
  | recording id part => trivial
  | finalizer id lease claimed point =>
    obtain ⟨key', h⟩ := h
    refine ⟨key', h.toClaimed.put key r', h.parts, h.begun, fun hlate r₀ hr₀ => ?_⟩
    rcases get_put hr₀ with ⟨-, hold⟩ | ⟨rfl, rfl⟩
    · exact h.closed hlate r₀ hold
    · exact hopen (h.closed hlate r hr)
  | ender id owner claimed status point =>
    obtain ⟨key', h⟩ := h
    exact ⟨key', h.put key r'⟩

theorem MachineOk.put (hok : MachineOk m) (hfree : Free m key) (hr : m.uploads[key]? = some r)
    (hopen : r.multipart = none → r'.multipart = none)
    (hstore : r'.object ≠ none → r'.multipart = none) : MachineOk (m.put key r') where
  db := hok.db
  mine := fun id u key' hu hkey => (hok.mine id u key' hu hkey).put key r'
  live := hok.live
  fresh := fun input expiresAt hpending => by
    have hfresh := hok.fresh input expiresAt hpending
    refine ⟨hfresh.objectKey, ?_, hfresh.unused⟩
    have hne : key ≠ input.ossUploadId := fun heq => hfree.pending _ hpending (congrArg some heq.symm)
    rw [Machine.put, List.getElem?_set_ne hne]
    exact hfresh.upload
  distinct := hok.distinct
  store := fun key' r₀ hr₀ hobject => by
    rcases get_put hr₀ with ⟨-, hold⟩ | ⟨-, rfl⟩
    · exact hok.store key' r₀ hold hobject
    · exact hstore hobject
  call := fun c hc => (hok.call c hc).put hr hopen

/-- Only the live sessions with this upload see the operation. -/
theorem put_finishable (hfin : m.Finishable) (hr : m.uploads[key]? = some r) :
    (m.put key r').Finishable ↔ ∀ (id : Id) (u : Session), m.db.sessions[id]? = some u →
      u.live = true → u.ossUploadId = some key → r'.serves u = true := by
  have hnew : (m.put key r').uploads[key]? = some r' := List.getElem?_set_self (get_lt hr)
  rw [finishable_iff]
  constructor
  · intro h id u hu hlive hkey
    obtain ⟨key', r₀, hkey', hr₀, hserves⟩ := h id u hu hlive
    obtain rfl := Option.some.inj (hkey.symm.trans hkey')
    obtain rfl := Option.some.inj (hnew.symm.trans hr₀)
    exact hserves
  · intro h id u hu hlive
    obtain ⟨key', r₀, hkey', hr₀, hserves⟩ := (finishable_iff m).1 hfin id u hu hlive
    by_cases heq : key' = key
    · subst heq
      exact ⟨key', r', hkey', hnew, h id u hu hlive hkey'⟩
    · refine ⟨key', r₀, hkey', ?_, hserves⟩
      rw [Machine.put, List.getElem?_set_ne (Ne.symm heq)]
      exact hr₀

/-- Of the session whose upload it is, at most. -/
theorem Mine.finishable (h : Mine m id key) (hfin : m.Finishable) (hr : m.uploads[key]? = some r)
    (hu : m.db.sessions[id]? = some u) :
    (m.put key r').Finishable ↔ (u.live = true → r'.serves u = true) := by
  obtain ⟨v, hv, hkey⟩ := h.session
  obtain rfl : u = v := Option.some.inj (hu.symm.trans hv)
  rw [put_finishable hfin hr]
  constructor
  · exact fun hall hlive => hall id u hu hlive (hkey hlive)
  · intro hserves j w hw hlive hwkey
    obtain rfl := h.only j w hw hwkey
    obtain rfl : u = w := Option.some.inj (hu.symm.trans hw)
    exact hserves hlive

/-- What the upload of a live session is for it. -/
theorem Mine.serves (h : Mine m id key) (hfin : m.Finishable) (hr : m.uploads[key]? = some r)
    (hu : m.db.sessions[id]? = some u) (hlive : u.live = true) : r.serves u = true := by
  obtain ⟨v, hv, hkey⟩ := h.session
  obtain rfl : u = v := Option.some.inj (hu.symm.trans hv)
  obtain ⟨key', r₀, hkey', hr₀, hserves⟩ := (finishable_iff m).1 hfin id u hu hlive
  obtain rfl := Option.some.inj ((hkey hlive).symm.trans hkey')
  obtain rfl := Option.some.inj (hr.symm.trans hr₀)
  exact hserves

end SubscriptionSaas.FieldVideo
