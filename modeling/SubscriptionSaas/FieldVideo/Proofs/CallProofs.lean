import SubscriptionSaas.FieldVideo.Proofs.FinishProofs

/-!
# Steps of the calls

`Ran` says what a step of a call does: it keeps what is known of all calls, tells what is left of its
own, and leaves every live session what it needs exactly if it is harmless.
-/

namespace SubscriptionSaas.FieldVideo

open Tables

variable {m m' : Machine} {u u' : Session} {id key lease : Id} {input : Input} {r r' : Upload}
  {part : Part} {claimed : Session} {point : FinalizerPoint} {answer : Answer} {c : Call}
  {left : Option Call}

structure Ran (m : Machine) (c : Call) (m' : Machine) (left : Option Call) : Prop where
  ok : MachineOk m'
  calls : m'.calls = m.calls
  others : ∀ c', CallOk m c' → CallOk m' c'
  left : ∀ c', left = some c' → CallOk m' c'
  finishable : m'.Finishable ↔ c.harmless m = true

/-- A step that writes nothing. -/
theorem Ran.same (hok : MachineOk m) (hfin : m.Finishable) (hharmless : c.harmless m = true)
    (hleft : ∀ c', left = some c' → CallOk m c') : Ran m c m left :=
  ⟨hok, rfl, fun _ h => h, hleft, iff_of_true hfin hharmless⟩

/-- A statement of a call. -/
theorem Ran.on (hok : MachineOk m) (hfin : m.Finishable) (hinput : InputOk m input)
    (hcommit : ∀ place, input ≠ .commit place) (hharmless : c.harmless m = true)
    (hleft : ∀ c', left = some c' → CallOk (m.on input) c') : Ran m c (m.on input) left := by
  refine ⟨hok.on hinput.unborn, rfl, fun c' hc' => hc'.on hok hinput.unborn, hleft, ?_⟩
  refine iff_of_true (on_finishable hok hinput hfin fun place hplace => ?_) hharmless
  exact absurd hplace (hcommit place)

/-- An operation of a call on one upload. -/
theorem Ran.put (hok : MachineOk m) (hfree : Free m key) (hr : m.uploads[key]? = some r)
    (hopen : r.multipart = none → r'.multipart = none)
    (hstore : r'.object ≠ none → r'.multipart = none)
    (hfinishable : (m.put key r').Finishable ↔ c.harmless m = true)
    (hleft : ∀ c', left = some c' → CallOk (m.put key r') c') : Ran m c (m.put key r') left :=
  ⟨hok.put hfree hr hopen hstore, rfl, fun _ hc' => hc'.put hr hopen, hleft, hfinishable⟩

/-! ## Which statements are safe -/

theorem inputOk_of_other (hcreate : ∀ create now, input ≠ .createOrResume create now)
    (hadvance : ∀ lease id advance, input ≠ .advanceClaimed lease id advance)
    (hfail : ∀ lease id stage code leaseExpiresAt,
      input ≠ .markRetryableFailure lease id stage code leaseExpiresAt) : InputOk m input where
  unborn := fun create now _ _ h => absurd h (hcreate create now)
  advanced := fun lease id advance _ _ _ h => absurd h (hadvance lease id advance)
  failed := fun lease id code leaseExpiresAt _ _ _ h => absurd h (hfail lease id _ code leaseExpiresAt)

/-- The upload of a live session that was claimed. -/
theorem Mine.key_eq (h : Mine m id key) (hu : m.db.sessions[id]? = some u) (hlive : u.live = true)
    {key' : Id} (hkey : u.ossUploadId = some key') : key' = key := by
  obtain ⟨v, hv, hvkey⟩ := h.session
  obtain rfl : u = v := Option.some.inj (hu.symm.trans hv)
  exact Option.some.inj (hkey.symm.trans (hvkey hlive))

theorem inputOk_advance (h : Mine m id key) (advance : Advance)
    (hclosed : advance.status ≠ .ossCompleting → ∀ r, m.uploads[key]? = some r →
      r.multipart = none) : InputOk m (.advanceClaimed lease id advance) where
  unborn := fun create now _ _ heq => absurd heq (by simp)
  advanced := fun lease' id' advance' u key' r heq hadvance hu hlive hkey hr => by
    obtain ⟨rfl, rfl, rfl⟩ := Input.advanceClaimed.inj heq
    obtain rfl := h.key_eq hu hlive hkey
    exact hclosed hadvance r hr
  failed := fun lease' id' code leaseExpiresAt _ _ _ heq => absurd heq (by simp)

theorem inputOk_fail (h : Mine m id key) (stage : FailedStage) (code : String)
    (leaseExpiresAt : Int) (hclosed : stage = .processing → ∀ r, m.uploads[key]? = some r →
      r.multipart = none) : InputOk m (.markRetryableFailure lease id stage code leaseExpiresAt) where
  unborn := fun create now _ _ heq => absurd heq (by simp)
  advanced := fun lease' id' advance _ _ _ heq => absurd heq (by simp)
  failed := fun lease' id' code' leaseExpiresAt' u key' r heq hu hlive hkey hr => by
    obtain ⟨rfl, rfl, rfl, rfl, rfl⟩ := Input.markRetryableFailure.inj heq
    obtain rfl := h.key_eq hu hlive hkey
    exact hclosed rfl r hr

/-! ## Where a finalizer goes -/

theorem late_ne_queued (h : point.late = true) : point ≠ .queued := by
  rintro rfl
  exact absurd h (by simp [FinalizerPoint.late])

/-- From a point after the completion a finalizer may go to any other. -/
theorem FinalizerOk.goes (h : FinalizerOk m id claimed point key) (hlate : point.late = true)
    (point' : FinalizerPoint) : FinalizerOk m id claimed point' key where
  toClaimed := h.toClaimed
  parts := h.parts
  begun := fun _ => h.begun (late_ne_queued hlate)
  closed := fun _ => h.closed hlate

theorem thrown_ok {c' : Call} (h : CallOk m c) (hthrown : c.thrown = some c') : CallOk m c' := by
  cases c with
  | finalizer id lease claimed point =>
    obtain ⟨key, h⟩ := h
    simp only [Call.thrown, Option.map_eq_some_iff] at hthrown
    obtain ⟨point', hpoint, rfl⟩ := hthrown
    refine ⟨key, ?_⟩
    cases point with
    | completing =>
      obtain rfl := Option.some.inj hpoint
      exact ⟨h.toClaimed, h.parts, fun _ => h.begun (by simp),
        fun hlate => absurd hlate (by simp [FinalizerPoint.late])⟩
    | merged => exact h.goes rfl point'
    | processing => exact h.goes rfl point'
    | attaching => exact h.goes rfl point'
    | rejecting code => exact h.goes rfl point'
    | rejected code => exact h.goes rfl point'
    | queued => exact absurd hpoint (by simp [FinalizerPoint.thrown])
    | ready => exact absurd hpoint (by simp [FinalizerPoint.thrown])
    | failing stage code => exact absurd hpoint (by simp [FinalizerPoint.thrown])
  | ender id owner claimed status point =>
    obtain ⟨key, h⟩ := h
    simp only [Call.thrown, Option.map_eq_some_iff] at hthrown
    obtain ⟨point', -, rfl⟩ := hthrown
    exact ⟨key, h⟩
  | discarding key => exact absurd hthrown (by simp [Call.thrown])
  | storing id key part => exact absurd hthrown (by simp [Call.thrown])
  | recording id part => exact absurd hthrown (by simp [Call.thrown])

/-! ## Requests with a part -/

theorem isOpen_iff (m : Machine) (hr : m.uploads[key]? = some r) :
    m.isOpen (some key) = r.multipart.isSome := by
  rw [Machine.isOpen, Option.bind_some, hr, Option.any_some]

theorem hasObject_iff (m : Machine) (hr : m.uploads[key]? = some r) :
    m.hasObject (some key) = r.object.isSome := by
  rw [Machine.hasObject, Option.bind_some, hr, Option.any_some]

theorem isLive_iff (m : Machine) (hu : m.db.sessions[id]? = some u) : m.isLive id = u.live := by
  rw [Machine.isLive, hu, Option.any_some]

theorem otherRecorded_iff (m : Machine) (hu : m.db.sessions[id]? = some u) (part : Part) :
    m.otherRecorded id part = false ↔
      ∀ p ∈ u.parts, p.partNumber = part.partNumber → p = part := by
  rw [Machine.otherRecorded, hu, Option.any_some, List.any_eq_false]
  refine forall₂_congr fun p _ => ?_
  by_cases hsame : p = part <;> simp [hsame]

/-- An upload that is open has no object. -/
theorem MachineOk.no_object (hok : MachineOk m) (hr : m.uploads[key]? = some r) {stored : List Part}
    (hstored : r.multipart = some stored) : r.object = none := by
  by_contra hobject
  exact absurd (hstored.symm.trans (hok.store key r hr hobject)) (by simp)

theorem storing_ran (hok : MachineOk m) (hfin : m.Finishable) (hc : CallOk m (.storing id key part))
    (hrun : (Call.storing id key part).run m answer = some (m', left)) :
    Ran m (.storing id key part) m' left := by
  have hmine : Mine m id key := hc
  simp only [Call.run, Option.map_eq_some_iff, Prod.mk.injEq] at hrun
  obtain ⟨m₁, hremote, rfl, rfl⟩ := hrun
  obtain ⟨r, r', hr, hop, rfl⟩ := remote_put hremote
  obtain ⟨stored, hstored, rfl⟩ := Option.map_eq_some_iff.1 hop
  have hobject := hok.no_object hr hstored
  obtain ⟨u, hu, -⟩ := hmine.session
  refine .put hok hmine.toFree hr (fun hclosed => absurd (hstored.symm.trans hclosed) (by simp))
    (fun hnot => absurd hobject hnot) ?_ ?_
  · rw [hmine.finishable hfin hr hu, Call.harmless, isLive_iff m hu, isOpen_iff m hr, hstored,
      Bool.not_eq_true', Option.isSome_some, Bool.and_true]
    by_cases hlive : u.live = true
    · have hserves := hmine.serves hfin hr hu hlive
      have hneed : Upload.serves { r with multipart := some (part :: stored) } u =
          Upload.holds { r with multipart := some (part :: stored) } u.parts :=
        serves_open hobject hobject hserves
      rw [hneed, holds_put part hstored (serves_no_object hobject hserves), hlive, Bool.true_and,
        otherRecorded_iff m hu]
      simp
    · simp [hlive]
  · rintro c' hc'
    obtain rfl := Option.some.inj hc'
    trivial

/-! ## Aborting and deleting -/

/-- Aborting does harm exactly if the session is live and its upload open. -/
theorem abort_finishable (hok : MachineOk m) (hfin : m.Finishable) (hmine : Mine m id key)
    (hr : m.uploads[key]? = some r) :
    (m.put key { r with multipart := none }).Finishable ↔
      (!(m.isLive id && m.isOpen (some key))) = true := by
  obtain ⟨u, hu, -⟩ := hmine.session
  rw [hmine.finishable hfin hr hu, isLive_iff m hu, isOpen_iff m hr, Bool.not_eq_true']
  by_cases hlive : u.live = true
  · have hserves := hmine.serves hfin hr hu hlive
    rcases hstored : r.multipart with _ | stored
    · have hsame : ({ r with multipart := none } : Upload) = r := by rw [← hstored]
      simp [hsame, hserves]
    · have hobject := hok.no_object hr hstored
      have hneed : Upload.serves { r with multipart := none } u =
          Upload.holds { r with multipart := none } u.parts :=
        serves_open hobject hobject hserves
      rw [hneed, not_holds_of_closed rfl, hlive]
      simp
  · simp [hlive]

/-- Deleting does harm exactly if the session is live and there is an object. -/
theorem delete_finishable (hok : MachineOk m) (hfin : m.Finishable) (hmine : Mine m id key)
    (hr : m.uploads[key]? = some r) :
    (m.put key { r with object := none }).Finishable ↔
      (!(m.isLive id && m.hasObject (some key))) = true := by
  obtain ⟨u, hu, -⟩ := hmine.session
  rw [hmine.finishable hfin hr hu, isLive_iff m hu, hasObject_iff m hr, Bool.not_eq_true']
  by_cases hlive : u.live = true
  · have hserves := hmine.serves hfin hr hu hlive
    rcases hobject : r.object with _ | object
    · have hsame : ({ r with object := none } : Upload) = r := by rw [← hobject]
      simp [hsame, hserves]
    · have hclosed := hok.store key r hr (by simp [hobject])
      have hlost : Upload.serves { r with object := none } u = false := by
        rw [Bool.eq_false_iff]
        intro hserves'
        have hmerged := (serves_closed (r := { r with object := none }) hclosed hserves').1
        rw [not_merged_of_no_object rfl] at hmerged
        exact absurd hmerged (by simp)
      simp [hlost, hlive]
  · simp [hlive]

theorem Ran.abort (hok : MachineOk m) (hfin : m.Finishable) (hmine : Mine m id key)
    (hremote : m.remote (some key) abortFieldVideoMultipart = some m')
    (hharmless : c.harmless m = !(m.isLive id && m.isOpen (some key)))
    (hleft : ∀ c', left = some c' → CallOk m c') : Ran m c m' left := by
  obtain ⟨r, r', hr, hop, rfl⟩ := remote_put hremote
  obtain rfl := Option.some.inj hop
  refine .put hok hmine.toFree hr (fun _ => rfl) (fun _ => rfl) ?_
    fun c' hc' => (hleft c' hc').put hr fun _ => rfl
  rw [hharmless]
  exact abort_finishable hok hfin hmine hr

theorem Ran.delete (hok : MachineOk m) (hfin : m.Finishable) (hmine : Mine m id key)
    (hremote : m.remote (some key) deleteFieldVideoUploadSource = some m')
    (hharmless : c.harmless m = !(m.isLive id && m.hasObject (some key)))
    (hleft : ∀ c', left = some c' → CallOk m c') : Ran m c m' left := by
  obtain ⟨r, r', hr, hop, rfl⟩ := remote_put hremote
  obtain rfl := Option.some.inj hop
  refine .put hok hmine.toFree hr (fun h => h) (fun h => absurd rfl h) ?_
    fun c' hc' => (hleft c' hc').put hr fun h => h
  rw [hharmless]
  exact delete_finishable hok hfin hmine hr

theorem discarding_ran (hok : MachineOk m) (hfin : m.Finishable) (hc : CallOk m (.discarding key))
    (hrun : (Call.discarding key).run m answer = some (m', left)) :
    Ran m (.discarding key) m' left := by
  simp only [Call.run, Option.map_eq_some_iff, Prod.mk.injEq] at hrun
  obtain ⟨m₁, hremote, rfl, rfl⟩ := hrun
  obtain ⟨r, r', hr, hop, rfl⟩ := remote_put hremote
  obtain rfl := Option.some.inj hop
  refine .put hok hc.1 hr (fun _ => rfl) (fun _ => rfl) ?_ fun c' hc' => absurd hc' (by simp)
  refine iff_of_true ((put_finishable hfin hr).2 fun j u hu _ hkey => ?_) rfl
  exact absurd hkey (hc.2 j u hu)

theorem recording_ran (hok : MachineOk m) (hfin : m.Finishable)
    (hrun : (Call.recording id part).run m answer = some (m', left)) :
    Ran m (.recording id part) m' left := by
  simp only [Call.run, Option.some.injEq, Prod.mk.injEq] at hrun
  obtain ⟨rfl, rfl⟩ := hrun
  exact .on hok hfin (inputOk_of_other (by simp) (by simp) (by simp)) (by simp) rfl
    fun c' hc' => absurd hc' (by simp)

/-! ## Cancellation and expiry -/

theorem endSession_ran {owner : LeaseOwner} {status : TerminalStatus} {point : EnderPoint}
    {next : Option EnderPoint} (hok : MachineOk m) (hfin : m.Finishable)
    (h : Claimed m id claimed key)
    (hrun : endSession m id owner claimed status answer point = some (m', next)) :
    Ran m (.ender id owner claimed status point) m' (next.map (.ender id owner claimed status)) := by
  have hleft : ∀ c', next.map (Call.ender id owner claimed status) = some c' → CallOk m c' := by
    intro c' hc'
    obtain ⟨point', -, rfl⟩ := Option.map_eq_some_iff.1 hc'
    exact ⟨key, h⟩
  have hon : ∀ (input : Input), Unborn m.db input →
      ∀ c', next.map (Call.ender id owner claimed status) = some c' → CallOk (m.on input) c' :=
    fun input hunborn c' hc' => (hleft c' hc').on hok hunborn
  cases point with
  | aborting =>
    simp only [endSession, h.ossUploadId, h.objectKey, Option.isSome_some, Bool.and_true,
      if_true, Option.map_eq_some_iff, Prod.mk.injEq] at hrun
    obtain ⟨m₁, hremote, rfl, hnext⟩ := hrun
    refine .abort hok hfin h.toMine hremote ?_ hleft
    rw [Call.harmless, h.ossUploadId]
  | removing =>
    simp only [endSession, h.objectKey, Option.map_eq_some_iff, Prod.mk.injEq] at hrun
    obtain ⟨m₁, hremote, rfl, hnext⟩ := hrun
    refine .delete hok hfin h.toMine hremote ?_ hleft
    rw [Call.harmless, h.objectKey]
  | marking =>
    simp only [endSession] at hrun
    split at hrun
    · obtain ⟨rfl, -⟩ := Prod.mk.inj (Option.some.inj hrun)
      have hinput : InputOk m (.markTerminal owner id status status.code answer.now) :=
        inputOk_of_other (by simp) (by simp) (by simp)
      exact .on hok hfin hinput (by simp) rfl (hon _ hinput.unborn)
    · split at hrun
      · exact absurd hrun (by simp)
      · obtain ⟨rfl, -⟩ := Prod.mk.inj (Option.some.inj hrun)
        exact .same hok hfin rfl hleft
  | releasing =>
    simp only [endSession] at hrun
    obtain ⟨rfl, -⟩ := Prod.mk.inj (Option.some.inj hrun)
    have hinput : InputOk m (.releaseLease owner id) :=
      inputOk_of_other (by simp) (by simp) (by simp)
    exact .on hok hfin hinput (by simp) rfl (hon _ hinput.unborn)

/-! ## The finalizer -/

/-- The session of which a finalizer is the owner. -/
theorem owns_iff (m : Machine) (owner : LeaseOwner) (id : Id) :
    m.owns owner id = true ↔ ∃ u, m.db.sessions[id]? = some u ∧ u.leaseOwner = some owner := by
  rw [Machine.owns, Option.any_eq_true]
  simp only [beq_iff_eq]

/-- The finalizer has taken its session to `OSS_COMPLETING`. -/
theorem FinalizerOk.completing (h : FinalizerOk m id claimed .queued key) (hok : MachineOk m)
    (howns : m.owns (.finalizer lease) id = true)
    (hunborn : Unborn m.db (.advanceClaimed lease id .ossCompleting)) :
    FinalizerOk (m.on (.advanceClaimed lease id .ossCompleting)) id claimed .completing key := by
  have hon := h.on hok hunborn
  refine ⟨hon.toClaimed, hon.parts, fun _ v hv => ?_,
    fun hlate => absurd hlate (by simp [FinalizerPoint.late])⟩
  obtain ⟨u, hu, howner⟩ := (owns_iff m _ id).1 howns
  have hstatus : v.status = .ossCompleting := by
    simp only [Machine.on, step, advanceClaimed, State.owned, hu, howner, Option.any_some,
      beq_self_eq_true, if_true, get_modify_self hu, Option.some.injEq] at hv
    rw [← hv]
  have hstage : v.stage = .ossCompleting := by rw [stage_of_ne (by simp [hstatus]), hstatus]
  rw [Begun, hstage]
  simp

theorem finalize_ran {next : Option FinalizerPoint} (hok : MachineOk m) (hfin : m.Finishable)
    (h : FinalizerOk m id claimed point key)
    (hrun : finalize m id lease claimed answer point = some (m', next)) :
    Ran m (.finalizer id lease claimed point) m' (next.map (.finalizer id lease claimed)) := by
  -- after the completion any point may follow, also after a statement
  have hgoes : point.late = true →
      ∀ c', next.map (Call.finalizer id lease claimed) = some c' → CallOk m c' := by
    intro hlate c' hc'
    obtain ⟨point', -, rfl⟩ := Option.map_eq_some_iff.1 hc'
    exact ⟨key, h.goes hlate point'⟩
  have hon : point.late = true → ∀ (input : Input), Unborn m.db input →
      ∀ c', next.map (Call.finalizer id lease claimed) = some c' → CallOk (m.on input) c' :=
    fun hlate input hunborn c' hc' => (hgoes hlate c' hc').on hok hunborn
  cases point with
  | queued =>
    simp only [finalize] at hrun
    split at hrun
    · rename_i howns
      obtain ⟨rfl, rfl⟩ := Prod.mk.inj (Option.some.inj hrun)
      have hinput : InputOk m (.advanceClaimed lease id .ossCompleting) :=
        inputOk_advance h.toMine .ossCompleting fun hne => absurd rfl hne
      refine .on hok hfin hinput (by simp) rfl fun c' hc' => ?_
      obtain rfl := Option.some.inj hc'
      exact ⟨key, h.completing hok howns hinput.unborn⟩
    · obtain ⟨rfl, rfl⟩ := Prod.mk.inj (Option.some.inj hrun)
      exact .same hok hfin rfl fun c' hc' => absurd hc' (by simp)
  | completing =>
    simp only [finalize, h.ossUploadId, Option.map_eq_some_iff, Prod.mk.injEq] at hrun
    obtain ⟨m₁, hremote, rfl, rfl⟩ := hrun
    obtain ⟨r, r', hr, hop, rfl⟩ := remote_put hremote
    have hclosed := complete_closed hop
    obtain ⟨u, hu, -⟩ := h.session
    refine .put hok h.toFree hr (fun _ => hclosed) (fun _ => hclosed) ?_ fun c' hc' => ?_
    · refine iff_of_true ((h.toMine.finishable hfin hr hu).2 fun hlive => ?_) rfl
      have hserves := h.toMine.serves hfin hr hu hlive
      have hperm : (claimed.parts.mergeSort (·.partNumber ≤ ·.partNumber)).Perm u.parts := by
        rw [(h.parts u hu).1]
        exact List.mergeSort_perm ..
      exact complete_serves hop hperm (h.begun (by simp) u hu) (hok.store key r hr) hserves
    · obtain rfl := Option.some.inj hc'
      refine ⟨key, h.toClaimed.put key r', h.parts, fun _ => h.begun (by simp), fun _ r₀ hr₀ => ?_⟩
      rcases get_put hr₀ with ⟨hne, -⟩ | ⟨-, rfl⟩
      · exact absurd rfl hne
      · exact hclosed
  | merged =>
    simp only [finalize] at hrun
    split at hrun
    · obtain ⟨rfl, -⟩ := Prod.mk.inj (Option.some.inj hrun)
      have hinput : InputOk m
          (.advanceClaimed lease id (.objectReady answer.now answer.etag)) :=
        inputOk_advance h.toMine _ fun _ => h.closed rfl
      exact .on hok hfin hinput (by simp) rfl (hon rfl _ hinput.unborn)
    · obtain ⟨rfl, -⟩ := Prod.mk.inj (Option.some.inj hrun)
      exact .same hok hfin rfl (hgoes rfl)
  | ready =>
    simp only [finalize] at hrun
    split at hrun
    · obtain ⟨rfl, -⟩ := Prod.mk.inj (Option.some.inj hrun)
      have hinput : InputOk m (.advanceClaimed lease id .processing) :=
        inputOk_advance h.toMine _ fun _ => h.closed rfl
      exact .on hok hfin hinput (by simp) rfl (hon rfl _ hinput.unborn)
    · obtain ⟨rfl, -⟩ := Prod.mk.inj (Option.some.inj hrun)
      exact .same hok hfin rfl (hgoes rfl)
  | processing =>
    simp only [finalize] at hrun
    split at hrun
    · split at hrun
      · obtain ⟨rfl, -⟩ := Prod.mk.inj (Option.some.inj hrun)
        exact .same hok hfin rfl (hgoes rfl)
      · obtain ⟨rfl, -⟩ := Prod.mk.inj (Option.some.inj hrun)
        exact .same hok hfin rfl (hgoes rfl)
    · exact absurd hrun (by simp)
  | attaching =>
    simp only [finalize] at hrun
    split at hrun
    · obtain ⟨rfl, -⟩ := Prod.mk.inj (Option.some.inj hrun)
      have hinput : InputOk m (.attachPreparedFieldVideo lease id answer.now) :=
        inputOk_of_other (by simp) (by simp) (by simp)
      exact .on hok hfin hinput (by simp) rfl (hon rfl _ hinput.unborn)
    · exact absurd hrun (by simp)
  | rejecting code =>
    simp only [finalize, h.objectKey, Option.map_eq_some_iff, Prod.mk.injEq] at hrun
    obtain ⟨m₁, hremote, rfl, hnext⟩ := hrun
    refine .delete hok hfin h.toMine hremote ?_ (hgoes rfl)
    rw [Call.harmless, h.objectKey]
  | rejected code =>
    simp only [finalize] at hrun
    obtain ⟨rfl, -⟩ := Prod.mk.inj (Option.some.inj hrun)
    have hinput : InputOk m
        (.markTerminal (.finalizer lease) id .validationFailed (some code) answer.now) :=
      inputOk_of_other (by simp) (by simp) (by simp)
    exact .on hok hfin hinput (by simp) rfl (hon rfl _ hinput.unborn)
  | failing stage code =>
    simp only [finalize] at hrun
    obtain ⟨rfl, rfl⟩ := Prod.mk.inj (Option.some.inj hrun)
    have hclosed : stage = .processing → ∀ r, m.uploads[key]? = some r → r.multipart = none := by
      rintro rfl
      exact h.closed rfl
    have hinput : InputOk m (.markRetryableFailure lease id stage code
        (answer.now + retryDelayMs claimed.retryCount)) :=
      inputOk_fail h.toMine stage code _ hclosed
    exact .on hok hfin hinput (by simp) rfl fun c' hc' => absurd hc' (by simp)

theorem call_ran (hok : MachineOk m) (hfin : m.Finishable) (hc : CallOk m c)
    (hrun : c.run m answer = some (m', left)) : Ran m c m' left := by
  cases c with
  | discarding key => exact discarding_ran hok hfin hc hrun
  | storing id key part => exact storing_ran hok hfin hc hrun
  | recording id part => exact recording_ran hok hfin hrun
  | finalizer id lease claimed point =>
    obtain ⟨key, h⟩ := hc
    simp only [Call.run, Option.map_eq_some_iff, Prod.mk.injEq] at hrun
    obtain ⟨⟨m₁, next⟩, hrun, rfl, rfl⟩ := hrun
    exact finalize_ran hok hfin h hrun
  | ender id owner claimed status point =>
    obtain ⟨key, h⟩ := hc
    simp only [Call.run, Option.map_eq_some_iff, Prod.mk.injEq] at hrun
    obtain ⟨⟨m₁, next⟩, hrun, rfl, rfl⟩ := hrun
    exact endSession_ran hok hfin h hrun

end SubscriptionSaas.FieldVideo
