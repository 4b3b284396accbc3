import SubscriptionSaas.FieldVideo.Proofs.SessionProofs
import SubscriptionSaas.FieldVideo.Uploads

/-!
# Stages and what the store has for them

What a session needs depends on its stage and its parts. A change of the session keeps its stage, or
moves it on; from the completion of the multipart upload on, the stage is never an early one again.
-/

namespace SubscriptionSaas.FieldVideo

variable {s : State} {u u' : Session} {id : Id} {input : Input} {r : Upload}

/-! ## Stages -/

theorem stage_of_ne (h : u.status ≠ .retryableFailed) : u.stage = u.status := if_neg h

theorem stage_of_same (hstatus : u'.status = u.status) (hstage : u'.resumeStage = u.resumeStage) :
    u'.stage = u.stage := by
  rw [Session.stage, Session.stage, hstatus, hstage]

theorem stage_of_due (h : u.status ∈ claimDueStatuses) : u.stage = u.status :=
  stage_of_ne (uploading_not_due h).2.1

theorem stage_of_ended (h : u.status ∈ fieldVideoTerminalStatuses) : u.stage = u.status := by
  refine stage_of_ne fun hfailed => ?_
  rw [hfailed] at h
  simp [fieldVideoTerminalStatuses] at h

theorem stage_of_failed {stage : FailedStage} (hstatus : u.status = .retryableFailed)
    (hstage : u.resumeStage = some stage.status) : u.stage = stage.status := by
  rw [Session.stage, if_pos hstatus, hstage]
  rfl

theorem claim_stage (hok : SessionOk u) {now : Int} (hdue : u.due now = true) (lease : Id)
    (leaseExpiresAt : Int) : (u.claim lease leaseExpiresAt).stage = u.stage := by
  rw [stage_of_due (claim_due_status hok hdue lease leaseExpiresAt)]
  rcases claim_status hok hdue lease leaseExpiresAt with ⟨hstatus, hsame⟩ | ⟨hfailed, stage, hs, h⟩
  · rw [hsame, stage_of_due hstatus]
  · rw [h, stage_of_failed hfailed hs]

/-- The multipart upload may be completed at the stage of the session, or was. -/
def Begun (u : Session) : Prop := u.stage ≠ .uploading ∧ u.stage ≠ .finalizeQueued

theorem advance_begun (advance : Advance) :
    advance.status ≠ .uploading ∧ advance.status ≠ .finalizeQueued := by
  cases advance <;> simp [Advance.status]

theorem failed_begun (stage : FailedStage) :
    stage.status ≠ .uploading ∧ stage.status ≠ .finalizeQueued := by
  cases stage <;> simp [FailedStage.status]

theorem Change.begun (hok : SessionOk u) (h : Change s input id u u') (hbegun : Begun u) :
    Begun u' := by
  cases h with
  | kept hheld hparts hstatus hstage =>
    rw [Begun, stage_of_same hstatus hstage]
    exact hbegun
  | part hinput hplace hshape hnew hheld hparts hstatus hstage =>
    rw [Begun, stage_of_same hstatus hstage]
    exact hbegun
  | queued hpending huploading =>
    have hstage : u.stage = u.status := stage_of_ne (by simp [huploading])
    exact absurd (hstage.trans huploading) hbegun.1
  | claimed hdue =>
    rw [Begun, claim_stage hok hdue]
    exact hbegun
  | advanced hinput hfinalizer hheld hparts hstatus =>
    rw [Begun, stage_of_due (hstatus ▸ advance_due _), hstatus]
    exact advance_begun _
  | failed hinput hfinalizer hheld hparts hstatus hstage =>
    rw [Begun, stage_of_failed hstatus hstage]
    exact failed_begun _
  | ended howned hfixed hupload hparts hstatus =>
    rw [Begun, stage_of_ended hstatus]
    refine ⟨fun huploading => ?_, fun hqueued => ?_⟩
    · simp [huploading, fieldVideoTerminalStatuses] at hstatus
    · simp [hqueued, fieldVideoTerminalStatuses] at hstatus

/-- The live session keeps its upload. -/
theorem Change.held (h : Change s input id u u') :
    Held u u' ∨ (u'.live = false ∧ u'.ossUploadId = none) := by
  cases h with
  | kept hheld => exact .inl hheld
  | part hinput hplace hshape hnew hheld => exact .inl hheld
  | queued hpending huploading hheld => exact .inl hheld
  | claimed hdue => exact .inl ⟨⟨rfl, rfl, rfl⟩, rfl, rfl⟩
  | advanced hinput hfinalizer hheld => exact .inl hheld
  | failed hinput hfinalizer hheld => exact .inl hheld
  | ended howned hfixed hupload hparts hstatus =>
    exact .inr ⟨Bool.eq_false_iff.2 (not_live_of_ended hstatus), hupload⟩

/-! ## What the store has -/

theorem merged_iff (r : Upload) (parts : List Part) :
    r.merged parts = true ↔ ∃ object, r.object = some object ∧ object.Perm parts := by
  rw [Upload.merged, Option.any_eq_true]
  exact exists_congr fun object => and_congr_right fun _ => List.isPerm_iff

theorem holds_iff (r : Upload) (parts : List Part) :
    r.holds parts = true ↔ ∃ stored, r.multipart = some stored ∧
      ∀ p ∈ parts, partAt stored p.partNumber = some p := by
  rw [Upload.holds, Option.any_eq_true]
  refine exists_congr fun stored => and_congr_right fun _ => ?_
  rw [List.all_eq_true]
  exact forall₂_congr fun p _ => beq_iff_eq

theorem serves_congr (hstage : u'.stage = u.stage) (hparts : u'.parts = u.parts) :
    r.serves u' = r.serves u := by
  rw [Upload.serves, Upload.serves, hstage, hparts]

/-- The three kinds of need. -/
theorem serves_cases (r : Upload) (u : Session) :
    (¬Begun u ∧ r.serves u = r.holds u.parts) ∨
      (u.stage = .ossCompleting ∧ r.serves u = (r.holds u.parts || r.merged u.parts)) ∨
      (Begun u ∧ u.stage ≠ .ossCompleting ∧ r.serves u = r.merged u.parts) := by
  rw [Upload.serves, Begun]
  cases u.stage <;> simp

theorem serves_any (h : r.serves u = true) :
    r.holds u.parts = true ∨ r.merged u.parts = true := by
  rcases serves_cases r u with ⟨-, heq⟩ | ⟨-, heq⟩ | ⟨-, -, heq⟩
  · exact .inl (heq ▸ h)
  · rw [heq, Bool.or_eq_true] at h
    exact h
  · exact .inr (heq ▸ h)

theorem not_holds_of_closed (hclosed : r.multipart = none) (parts : List Part) :
    r.holds parts = false := by
  rw [Upload.holds, hclosed]
  rfl

theorem not_merged_of_no_object (hobject : r.object = none) (parts : List Part) :
    r.merged parts = false := by
  rw [Upload.merged, hobject]
  rfl

/-- Without a multipart upload the object has to be there, and the session has begun. -/
theorem serves_closed (hclosed : r.multipart = none) (h : r.serves u = true) :
    r.merged u.parts = true ∧ Begun u := by
  have hholds := not_holds_of_closed hclosed u.parts
  rcases serves_cases r u with ⟨-, heq⟩ | ⟨hstage, heq⟩ | ⟨hbegun, -, heq⟩
  · exact absurd h (by rw [heq, hholds]; simp)
  · refine ⟨?_, by rw [Begun, hstage]; simp⟩
    rw [heq, hholds, Bool.false_or] at h
    exact h
  · exact ⟨heq ▸ h, hbegun⟩

/-- Without an object the parts have to be there. -/
theorem serves_no_object (hobject : r.object = none) (h : r.serves u = true) :
    r.holds u.parts = true := by
  rcases serves_any h with hholds | hmerged
  · exact hholds
  · rw [not_merged_of_no_object hobject] at hmerged
    exact absurd hmerged (by simp)

theorem serves_completing (hstage : u.stage = .ossCompleting)
    (h : r.holds u.parts = true ∨ r.merged u.parts = true) : r.serves u = true := by
  rw [Upload.serves, hstage]
  exact Bool.or_eq_true_iff.2 h

theorem serves_merged (hbegun : Begun u) (h : r.merged u.parts = true) : r.serves u = true := by
  rcases serves_cases r u with ⟨hearly, -⟩ | ⟨hstage, heq⟩ | ⟨-, -, heq⟩
  · exact absurd hbegun hearly
  · rw [heq, h, Bool.or_true]
  · rw [heq, h]

theorem usable_iff (uploads : List Upload) (u : Session) :
    u.usable uploads = true ↔
      ∃ upload r, u.ossUploadId = some upload ∧ uploads[upload]? = some r ∧ r.serves u = true := by
  rw [Session.usable, Option.any_eq_true]
  constructor
  · rintro ⟨r, hr, hserves⟩
    obtain ⟨upload, hupload, hr⟩ := Option.bind_eq_some_iff.1 hr
    exact ⟨upload, r, hupload, hr, hserves⟩
  · rintro ⟨upload, r, hupload, hr, hserves⟩
    exact ⟨r, Option.bind_eq_some_iff.2 ⟨upload, hupload, hr⟩, hserves⟩

/-! ## Operations of the store -/

/-- Before and after an operation that leaves no object, a served session needs its parts. -/
theorem serves_open {r' : Upload} (hobject : r.object = none) (hobject' : r'.object = none)
    (h : r.serves u = true) : r'.serves u = r'.holds u.parts := by
  rcases serves_cases r' u with ⟨-, heq⟩ | ⟨-, heq⟩ | ⟨hbegun, hstage, -⟩
  · exact heq
  · rw [heq, not_merged_of_no_object hobject', Bool.or_false]
  · rcases serves_cases r u with ⟨hearly, -⟩ | ⟨hcompleting, -⟩ | ⟨-, -, heq⟩
    · exact absurd hbegun hearly
    · exact absurd hcompleting hstage
    · rw [heq, not_merged_of_no_object hobject] at h
      exact absurd h (by simp)

theorem partAt_cons (part : Part) (stored : List Part) (partNumber : Nat) :
    partAt (part :: stored) partNumber =
      if part.partNumber = partNumber then some part else partAt stored partNumber := by
  rw [partAt, List.find?_cons]
  by_cases h : part.partNumber = partNumber
  · simp [h]
  · simp [h, partAt, beq_false_of_ne h]

/-- A part replaces nothing that is recorded exactly if it is what is recorded. -/
theorem holds_put {stored parts : List Part} (part : Part) (hstored : r.multipart = some stored)
    (h : r.holds parts = true) :
    Upload.holds { r with multipart := some (part :: stored) } parts = true ↔
      ∀ p ∈ parts, p.partNumber = part.partNumber → p = part := by
  rw [holds_iff] at h ⊢
  obtain ⟨stored', hstored', hall⟩ := h
  obtain rfl := Option.some.inj (hstored.symm.trans hstored')
  constructor
  · rintro ⟨stored', hstored', hall'⟩ p hp hnumber
    obtain rfl := Option.some.inj hstored'
    have hat := hall' p hp
    rw [partAt_cons, if_pos hnumber.symm] at hat
    exact (Option.some.inj hat).symm
  · intro hsame
    refine ⟨part :: stored, rfl, fun p hp => ?_⟩
    rw [partAt_cons]
    split
    · rename_i hnumber
      rw [hsame p hp hnumber.symm]
    · exact hall p hp

/-- The parts that are found under their numbers are put together. -/
theorem filterMap_partAt {stored parts : List Part}
    (h : ∀ p ∈ parts, partAt stored p.partNumber = some p) :
    (parts.filterMap fun p => partAt stored p.partNumber) = parts := by
  induction parts with
  | nil => rfl
  | cons p parts ih =>
    have hrest := ih fun q hq => h q (List.mem_cons_of_mem p hq)
    simp only [List.filterMap_cons, h p List.mem_cons_self, hrest]

/-- After its completion a multipart upload is not there any more. -/
theorem complete_closed {parts : List Part} {sizeBytes : Nat} {r' : Upload}
    (h : completeFieldVideoMultipart parts sizeBytes r = some r') : r'.multipart = none := by
  unfold completeFieldVideoMultipart at h
  split at h
  · split at h
    · obtain rfl := Option.some.inj h
      rfl
    · exact absurd h (by simp)
  · rename_i hclosed
    split at h
    · obtain rfl := Option.some.inj h
      exact hclosed
    · exact absurd h (by simp)

/-- The completion serves the session whose parts it was given. -/
theorem complete_serves {parts : List Part} {sizeBytes : Nat} {r' : Upload}
    (h : completeFieldVideoMultipart parts sizeBytes r = some r') (hperm : parts.Perm u.parts)
    (hbegun : Begun u) (hstore : r.object ≠ none → r.multipart = none)
    (hserves : r.serves u = true) : r'.serves u = true := by
  unfold completeFieldVideoMultipart at h
  split at h
  · rename_i stored hstored
    split at h
    · obtain rfl := Option.some.inj h
      have hobject : r.object = none := by
        by_contra hobject
        exact absurd (hstored.symm.trans (hstore hobject)) (by simp)
      obtain ⟨stored', hstored', hall⟩ := (holds_iff r u.parts).1 (serves_no_object hobject hserves)
      obtain rfl := Option.some.inj (hstored.symm.trans hstored')
      refine serves_merged hbegun ((merged_iff _ _).2 ⟨_, rfl, ?_⟩)
      rw [filterMap_partAt fun p hp => hall p (hperm.mem_iff.1 hp)]
      exact hperm
    · exact absurd h (by simp)
  · split at h
    · obtain rfl := Option.some.inj h
      exact hserves
    · exact absurd h (by simp)

end SubscriptionSaas.FieldVideo
