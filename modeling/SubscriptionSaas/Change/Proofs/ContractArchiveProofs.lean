import SubscriptionSaas.Change.ContractArchive

/-!
# A second archive of an agreement

The archive reports a duplicate exactly while the change is scheduled, and an extension has its segment
(`finalize_duplicate`, `settled_of_duplicate`). Whatever moves the change on, what the archive checks of
it stays (`Kept`), so a second archive comes to that test again.
-/

namespace SubscriptionSaas.Change.Archive

open Billing Contract Results Runs

variable {db db' : Db} {input : ArchiveInput} {clock : Option Int} {result : Outcome × Db}

/-! ## What an archive checks first -/

/-- The checks before the branches are passed. -/
structure Admits (db : Db) (input : ArchiveInput) (change : ArchiveChange) : Prop where
  completed : input.completedAt.isSome
  found : db.changeOf input.contractId = some change
  evidence : (db.task input.taskId).any (archivedEvidence · input.contractId change) = true
  swap : change.changeType = .vehicleSwap → change.vehicleSwapDetail.isSome
  term : change.changeType = .extension → ∃ term, requireExtensionChangeProjection change = .ok term

/-- The branch of the change's type. -/
def branch (db : Db) (change : ArchiveChange) (input : ArchiveInput) (completedAt : Int)
    (clock : Option Int) : Except ChangeError (Outcome × Db) :=
  match change.changeType with
  | .earlyTermination => finalizeEarlyTermination db change input completedAt clock
  | .managedOther => finalizeManagedOther db change input completedAt clock
  | .vehicleSwap => do
    let detail ← requireVehicleSwapChange change
    finalizeVehicleSwap db change detail input completedAt clock
  | .extension => do
    let term ← requireExtensionChangeProjection change
    finalizeExtension db change term input completedAt clock

theorem branch_ok {change : ArchiveChange} {completedAt : Int}
    (h : branch db change input completedAt clock = .ok result) :
    (change.changeType = .vehicleSwap → change.vehicleSwapDetail.isSome) ∧
      (change.changeType = .extension → ∃ term, requireExtensionChangeProjection change = .ok term) := by
  unfold branch at h
  cases htype : change.changeType with
  | extension =>
    simp only [htype] at h
    obtain ⟨term, hterm, -⟩ := bind_ok h
    exact ⟨nofun, fun _ => ⟨term, hterm⟩⟩
  | vehicleSwap =>
    simp only [htype] at h
    obtain ⟨detail, hdetail, -⟩ := bind_ok h
    refine ⟨fun _ => ?_, nofun⟩
    cases hswap : change.vehicleSwapDetail with
    | some detail => rfl
    | none => simp [requireVehicleSwapChange, hswap] at hdetail
  | earlyTermination => exact ⟨nofun, nofun⟩
  | managedOther => exact ⟨nofun, nofun⟩

theorem finalizeArchivedContract_ok (h : finalizeArchivedContract db input clock = .ok result) :
    ∃ change completedAt, Admits db input change ∧ input.completedAt = some completedAt ∧
      branch db change input completedAt clock = .ok result := by
  obtain ⟨completedAt, hinput, h⟩ := bind_ok h
  have hcompleted : input.completedAt = some completedAt := by
    unfold assertValidInput at hinput
    split at hinput
    · rename_i t ht
      obtain rfl := Except.ok.inj hinput
      exact ht
    · cases hinput
  split at h
  · rename_i change hfound
    obtain ⟨u, hevidence, h⟩ := bind_ok h
    have hbranch : branch db change input completedAt clock = .ok result := h
    obtain ⟨hswap, hterm⟩ := branch_ok hbranch
    exact ⟨change, completedAt,
      ⟨by rw [hcompleted]; rfl, hfound, require_ok hevidence, hswap, hterm⟩, hcompleted, hbranch⟩
  · cases h

theorem finalizeArchivedContract_eq {change : ArchiveChange} {completedAt : Int}
    (h : Admits db input change) (hcompleted : input.completedAt = some completedAt) :
    finalizeArchivedContract db input clock = branch db change input completedAt clock := by
  have hinput : assertValidInput input = .ok completedAt := by
    rw [assertValidInput, hcompleted]
  have hevidence : assertArchivedEvidence (db.task input.taskId) input.contractId change = .ok () :=
    if_pos h.evidence
  unfold finalizeArchivedContract
  rw [bind_eq hinput]
  simp only [h.found]
  rw [bind_eq hevidence]
  rfl

/-! ## Duplicates -/

variable {change : ArchiveChange} {completedAt now : Int} {entityType : String} {invalid : ChangeError}
  {ready : Bool} {term : ExtensionTerm}

theorem readDatabaseClock_some (now : Int) : readDatabaseClock (some now) = .ok now := rfl

theorem finalizeSupplement_scheduled (h : change.status = .scheduled) :
    finalizeSupplement entityType invalid ready db change input completedAt (some now) =
      .ok (.duplicate, db) := by
  unfold finalizeSupplement
  rw [bind_eq (readDatabaseClock_some now), if_pos h]

theorem finalizeSupplement_duplicate
    (h : finalizeSupplement entityType invalid ready db change input completedAt clock =
      .ok (.duplicate, db')) : change.status = .scheduled := by
  obtain ⟨decisionAt, -, h⟩ := bind_ok h
  by_cases hstatus : change.status = .scheduled
  · exact hstatus
  · rw [if_neg hstatus] at h
    simp only at h
    split at h
    · simp at h
    · rw [require_bind] at h
      simp at h

theorem finalizeExtension_scheduled (h : change.status = .scheduled)
    (hsegment : (db.targetSegment change).isSome) :
    finalizeExtension db change term input completedAt (some now) = .ok (.duplicate, db) := by
  unfold finalizeExtension
  rw [bind_eq (readDatabaseClock_some now), if_pos ⟨h, hsegment⟩]

theorem scheduleExtension_outcome {considerationStatus : Option ConsiderationStatus} {decisionAt : Int}
    (h : scheduleExtension db change term considerationStatus input completedAt decisionAt = .ok result) :
    result.1 = .scheduled := by
  unfold scheduleExtension at h
  split at h
  · rw [require_bind, require_bind] at h
    obtain ⟨-, -, h⟩ := h
    obtain ⟨created, -, h⟩ := bind_ok h
    obtain rfl := Except.ok.inj h
    rfl
  · cases h

theorem finalizeExtension_duplicate
    (h : finalizeExtension db change term input completedAt clock = .ok (.duplicate, db')) :
    change.status = .scheduled ∧ (db.targetSegment change).isSome := by
  obtain ⟨decisionAt, -, h⟩ := bind_ok h
  by_cases hstatus : change.status = .scheduled ∧ (db.targetSegment change).isSome
  · exact hstatus
  · rw [if_neg hstatus] at h
    simp only at h
    split at h
    · simp at h
    · exact absurd (scheduleExtension_outcome h) nofun

/-- An archive of a change that is settled reports a duplicate and changes nothing. -/
theorem finalize_duplicate (h : Admits db input change) (hstatus : change.status = .scheduled)
    (hsegment : change.changeType = .extension → (db.targetSegment change).isSome) :
    finalizeArchivedContract db input (some now) = .ok (.duplicate, db) := by
  obtain ⟨completedAt, hcompleted⟩ := Option.isSome_iff_exists.1 h.completed
  rw [finalizeArchivedContract_eq h hcompleted, branch]
  cases htype : change.changeType with
  | extension =>
    obtain ⟨term, hterm⟩ := h.term htype
    simp only
    rw [bind_eq hterm]
    exact finalizeExtension_scheduled hstatus (hsegment htype)
  | vehicleSwap =>
    obtain ⟨detail, hdetail⟩ := Option.isSome_iff_exists.1 (h.swap htype)
    have hswap : requireVehicleSwapChange change = .ok detail := by
      rw [requireVehicleSwapChange, hdetail]
    simp only
    rw [bind_eq hswap]
    exact finalizeSupplement_scheduled hstatus
  | earlyTermination => exact finalizeSupplement_scheduled hstatus
  | managedOther => exact finalizeSupplement_scheduled hstatus

/-- Only an archive of a settled change reports a duplicate. -/
theorem settled_of_duplicate (h : finalizeArchivedContract db input clock = .ok (.duplicate, db')) :
    db.Settled input.contractId := by
  obtain ⟨change, completedAt, hadmits, -, hbranch⟩ := finalizeArchivedContract_ok h
  unfold branch at hbranch
  cases htype : change.changeType with
  | extension =>
    simp only [htype] at hbranch
    obtain ⟨term, -, hbranch⟩ := bind_ok hbranch
    obtain ⟨hstatus, hsegment⟩ := finalizeExtension_duplicate hbranch
    exact ⟨change, hadmits.found, hstatus, fun _ => hsegment⟩
  | vehicleSwap =>
    simp only [htype] at hbranch
    obtain ⟨detail, -, hbranch⟩ := bind_ok hbranch
    exact ⟨change, hadmits.found, finalizeSupplement_duplicate hbranch, by simp [htype]⟩
  | earlyTermination =>
    simp only [htype] at hbranch
    exact ⟨change, hadmits.found, finalizeSupplement_duplicate hbranch, by simp [htype]⟩
  | managedOther =>
    simp only [htype] at hbranch
    exact ⟨change, hadmits.found, finalizeSupplement_duplicate hbranch, by simp [htype]⟩

/-! ## What stays -/

/-- A change without what moves. -/
def ArchiveChange.fixed (change : ArchiveChange) : ArchiveChange :=
  { change with status := .draft, version := 0 }

/-- The tasks stay, and the changes but for their statuses and versions. -/
structure Kept (db db' : Db) : Prop where
  tasks : db'.tasks = db.tasks
  changes : db'.changes.map ArchiveChange.fixed = db.changes.map ArchiveChange.fixed

theorem Kept.refl (db : Db) : Kept db db := ⟨rfl, rfl⟩

theorem Kept.trans {db₁ db₂ db₃ : Db} (h : Kept db₁ db₂) (h' : Kept db₂ db₃) : Kept db₁ db₃ :=
  ⟨h'.tasks.trans h.tasks, h'.changes.trans h.changes⟩

/-- Tables with the same tasks and the same changes. -/
theorem Kept.of_eq (htasks : db'.tasks = db.tasks) (hchanges : db'.changes = db.changes) : Kept db db' :=
  ⟨htasks, by rw [hchanges]⟩

theorem updateMany_fixed {p : ArchiveChange → Bool} {f : ArchiveChange → ArchiveChange}
    (hf : ∀ change, (f change).fixed = change.fixed) (changes : List ArchiveChange) :
    (updateMany p f changes).map ArchiveChange.fixed = changes.map ArchiveChange.fixed := by
  rw [updateMany, List.map_map]
  refine List.map_congr_left fun change _ => ?_
  simp only [Function.comp_apply]
  split_ifs
  · exact hf change
  · rfl

theorem scheduleChange_kept (db : Db) (change : ArchiveChange) : Kept db (scheduleChange db change) :=
  ⟨rfl, updateMany_fixed (f := ArchiveChange.scheduled) (fun _ => rfl) db.changes⟩

theorem createSegment_kept {segment : OrderSegment} (h : createSegment db segment = .ok db') :
    Kept db db' := by
  unfold createSegment at h
  rw [require_bind, require_bind, require_bind] at h
  obtain ⟨-, -, -, h⟩ := h
  obtain rfl := Except.ok.inj h
  exact .of_eq rfl rfl

theorem upsertActivation_kept (db : Db) (change : ArchiveChange) (segment : OrderSegment) :
    Kept db (upsertActivation db change segment) := by
  unfold upsertActivation
  split_ifs
  · exact .refl db
  · exact .of_eq rfl rfl

/-- The writes of an extension after its segment is there. -/
theorem extendConsideration_kept (db : Db) (change : ArchiveChange) (completedAt : Int) :
    Kept db (match change.renewalConsiderationId with
      | some considerationId => extendConsideration db considerationId completedAt
      | none => db) := by
  split
  · exact .of_eq rfl rfl
  · exact .refl db

theorem scheduleExtension_kept {considerationStatus : Option ConsiderationStatus} {decisionAt : Int}
    (h : scheduleExtension db change term considerationStatus input completedAt decisionAt = .ok result) :
    Kept db result.2 := by
  unfold scheduleExtension at h
  split at h
  · rename_i quote contract source _ _ _
    rw [require_bind, require_bind] at h
    obtain ⟨-, -, h⟩ := h
    obtain ⟨created, hcreated, h⟩ := bind_ok h
    obtain rfl := Except.ok.inj h
    have hactivated := upsertActivation_kept created change
      (extensionSegment db change term source quote contract input.contractId)
    have hscheduled := ((createSegment_kept hcreated).trans hactivated).trans
      (scheduleChange_kept _ change)
    have hextended := hscheduled.trans (extendConsideration_kept _ change completedAt)
    exact hextended.trans (.of_eq rfl rfl)
  · cases h

theorem archiveContractEvidence_kept (db : Db) (contractId : Id) (completedAt archivedAt : Int) :
    Kept db (archiveContractEvidence db contractId completedAt archivedAt) := .of_eq rfl rfl

theorem finalizeSupplement_kept
    (h : finalizeSupplement entityType invalid ready db change input completedAt clock = .ok result) :
    Kept db result.2 := by
  obtain ⟨decisionAt, -, h⟩ := bind_ok h
  by_cases hstatus : change.status = .scheduled
  · rw [if_pos hstatus] at h
    obtain rfl := Except.ok.inj h
    exact .refl db
  · rw [if_neg hstatus] at h
    simp only at h
    split at h
    · obtain rfl := Except.ok.inj h
      exact .of_eq rfl rfl
    · rw [require_bind] at h
      obtain rfl := Except.ok.inj h.2
      have hevidence := archiveContractEvidence_kept db input.contractId completedAt decisionAt
      exact (hevidence.trans (scheduleChange_kept _ change)).trans (.of_eq rfl rfl)

theorem finalizeExtension_kept
    (h : finalizeExtension db change term input completedAt clock = .ok result) : Kept db result.2 := by
  obtain ⟨decisionAt, -, h⟩ := bind_ok h
  by_cases hstatus : change.status = .scheduled ∧ (db.targetSegment change).isSome
  · rw [if_pos hstatus] at h
    obtain rfl := Except.ok.inj h
    exact .refl db
  · rw [if_neg hstatus] at h
    simp only at h
    split at h
    · obtain rfl := Except.ok.inj h
      exact .of_eq rfl rfl
    · have hevidence := archiveContractEvidence_kept db input.contractId completedAt decisionAt
      exact hevidence.trans (scheduleExtension_kept h)

theorem finalizeArchivedContract_kept (h : finalizeArchivedContract db input clock = .ok result) :
    Kept db result.2 := by
  obtain ⟨change, completedAt, -, -, hbranch⟩ := finalizeArchivedContract_ok h
  unfold branch at hbranch
  split at hbranch
  · exact finalizeSupplement_kept hbranch
  · exact finalizeSupplement_kept hbranch
  · obtain ⟨detail, -, hbranch⟩ := bind_ok hbranch
    exact finalizeSupplement_kept hbranch
  · obtain ⟨term, -, hbranch⟩ := bind_ok hbranch
    exact finalizeExtension_kept hbranch

theorem step_kept (db : Db) (e : Event) : Kept db (step db e) := by
  cases e with
  | finalize input clock =>
    simp only [step]
    split
    · rename_i outcome db' hresult
      exact finalizeArchivedContract_kept hresult
    · exact .refl db
  | moveChange id status =>
    exact ⟨rfl, updateMany_fixed (f := fun change =>
      { change with status := status, version := change.version + 1 }) (fun _ => rfl) db.changes⟩
  | moveSegment id status => exact .of_eq rfl rfl
  | moveJob place status => exact .of_eq rfl rfl
  | moveConsideration id status => exact .of_eq rfl rfl
  | moveVehicle id status => exact .of_eq rfl rfl
  | enqueue job => exact .of_eq rfl rfl

theorem runs_kept (db : Db) (evs : List Event) : Kept db (runs step db evs) :=
  runs_always (Kept db) (fun s e h => h.trans (step_kept s e)) (.refl db) evs

theorem Kept.changeOf (h : Kept db db') (contractId : Id) :
    (db'.changeOf contractId).map ArchiveChange.fixed =
      (db.changeOf contractId).map ArchiveChange.fixed := by
  have hfind (changes : List ArchiveChange) :
      (changes.find? (·.contractId == some contractId)).map ArchiveChange.fixed =
        (changes.map ArchiveChange.fixed).find? (·.contractId == some contractId) := by
    rw [List.find?_map]
    rfl
  rw [Db.changeOf, Db.changeOf, hfind, hfind, h.changes]

/-- The checks that were passed are passed again. -/
theorem Kept.admits (h : Kept db db') (hadmits : Admits db input change) :
    ∃ change', Admits db' input change' := by
  have hchange := h.changeOf input.contractId
  rw [hadmits.found, Option.map_some] at hchange
  obtain ⟨change', hfound, hfixed⟩ := Option.map_eq_some_iff.1 hchange
  obtain ⟨hid, -, htype, -, -, -, -, -, -, hlegacy, hdetail, -, -, hswap⟩ := ArchiveChange.mk.inj hfixed
  refine ⟨change', hadmits.completed, hfound, ?_, ?_, ?_⟩
  · have htask : db'.task input.taskId = db.task input.taskId := by
      rw [Db.task, Db.task, h.tasks]
    have hevidence := hadmits.evidence
    unfold archivedEvidence at hevidence ⊢
    rw [htask, hid, htype]
    exact hevidence
  · rw [htype, hswap]
    exact hadmits.swap
  · rw [htype]
    unfold requireExtensionChangeProjection
    rw [hdetail, hlegacy]
    exact hadmits.term

/-! ## The second archive -/

/-- After an archive and whatever has moved the change on, an archive of the same evidence reports a
duplicate and changes nothing exactly when the change is still scheduled and, if it is an extension, has
its segment. -/
theorem finalizeArchivedContract_again_iff
    (h : finalizeArchivedContract db input clock = .ok result) (evs : List Event) (source : Source)
    (now : Int) :
    finalizeArchivedContract (runs step result.2 evs) { input with source := source } (some now) =
        .ok (.duplicate, runs step result.2 evs) ↔
      (runs step result.2 evs).Settled input.contractId := by
  constructor
  · exact settled_of_duplicate
  · rintro ⟨change', hfound, hstatus, hsegment⟩
    obtain ⟨change, completedAt, hadmits, -, -⟩ := finalizeArchivedContract_ok h
    have hkept := (finalizeArchivedContract_kept h).trans (runs_kept result.2 evs)
    obtain ⟨current, hcurrent⟩ := hkept.admits hadmits
    obtain rfl := Option.some.inj (hcurrent.found.symm.trans hfound)
    have hagain : Admits (runs step result.2 evs) { input with source := source } current :=
      ⟨hcurrent.completed, hcurrent.found, hcurrent.evidence, hcurrent.swap, hcurrent.term⟩
    exact finalize_duplicate hagain hstatus hsegment

/-- An extension that waits for its agreement. -/
def sampleDb : Db where
  changes := [{
    id := 0
    orderId := 0
    changeType := .extension
    status := .signingOrPayment
    version := 5
    contractId := some 1
    completionDeadlineAt := 100000
    renewalConsiderationId := none
    confirmedQuote := some
      { status := .customerConfirmed
        createdBy := 0
        validUntil := 50000
        pricingMode := .currentVersion
        pricing :=
          { productId := none
            productVersionId := none
            subscriptionPlanId := none
            monthlyFeeAmount := 300000
            mileageLimitKm := 1800
            overMileageFeeAmount := 80
            energyLimitKwh := none
            energyLimitCount := none
            planSnapshot := .null
            entitlementKeys := []
            quoteSnapshot := .null } }
    legacy := ⟨none, none, none, none, none⟩
    extensionDetail := some
      { extensionMonths := 6
        pricingMode := .currentVersion
        sourceSegmentId := 0
        targetStartDate := 31
        targetEndDate := 211
        priceOverrideApprovedBy := none }
    earlyTerminationDetail := none
    managedOtherDetail := none
    vehicleSwapDetail := none }]
  contracts := [⟨1, .signing, none, none, .null⟩]
  tasks := [{
    id := 0
    contractId := 1
    documentType := "SUBSCRIPTION_EXTENSION_AGREEMENT"
    signedDocumentObjectKey := some "signed.pdf"
    signingStage := "STAGE3_SUBSCRIPTION_EXTENSION"
    sourceId := some 0
    sourceKey := some "subscription-change:0:esign:attempt:1"
    sourceType := some "SUBSCRIPTION_EXTENSION"
    taskStatus := .completed }]
  segments := [{
    id := 0
    orderId := 0
    sequenceNo := 1
    status := .active
    startDate := 0
    endDate := 30
    monthlyFeeAmount := 300000
    sourceChangeOrderId := none
    sourceSegmentId := none
    segmentType := .base
    activatedAt := some 0
    sourceContractId := none
    subscriptionPlanId := none
    productId := none
    productVersionId := none
    mileageLimitKm := 1800
    overMileageFeeAmount := 80
    energyLimitKwh := none
    energyLimitCount := none
    planSnapshot := .null
    entitlementKeys := []
    quoteSnapshot := .null
    contractSnapshot := .null }]
  considerations := []
  reminders := []
  jobs := []
  vehicles := []
  audits := []

def sampleInput : ArchiveInput := ⟨some 900, 1, .callback, 0⟩

/-- A second callback while the extension is scheduled. -/
theorem finalizeArchivedContract_again_sample :
    ∃ db₁, finalizeArchivedContract sampleDb sampleInput (some 1000) = .ok (.scheduled, db₁) ∧
      finalizeArchivedContract db₁ { sampleInput with source := .reconcile } (some 2000) =
        .ok (.duplicate, db₁) := by
  have hrun : (finalizeArchivedContract sampleDb sampleInput (some 1000)).toOption.any (fun result =>
      result.1 == .scheduled && (result.2.changeOf 1).any fun change =>
        change.status == .scheduled && (result.2.targetSegment change).isSome) = true := by
    decide +kernel
  obtain ⟨⟨outcome, db₁⟩, hfirst, hresult⟩ := ok_of_any hrun
  simp only [Bool.and_eq_true, beq_iff_eq, Option.any_eq_true] at hresult
  obtain ⟨rfl, change, hfound, hstatus, hsegment⟩ := hresult
  exact ⟨db₁, hfirst, (finalizeArchivedContract_again_iff hfirst [] .reconcile 2000).2
    ⟨change, hfound, hstatus, fun _ => hsegment⟩⟩

/-- A second callback after the extension was taken over is kept as late evidence, and moves the time of
the contract's archive. -/
theorem finalizeArchivedContract_after_takeover :
    ∃ db₁ db₂, finalizeArchivedContract sampleDb sampleInput (some 1000) = .ok (.scheduled, db₁) ∧
      finalizeArchivedContract (step db₁ (.moveChange 0 .manualTakeover)) sampleInput (some 2000) =
        .ok (.lateEvidenceOnly, db₂) ∧
      db₁.contracts.map (·.archivedAt) = [some 1000] ∧ db₂.contracts.map (·.archivedAt) = [some 2000] := by
  have hrun : (finalizeArchivedContract sampleDb sampleInput (some 1000)).toOption.any (fun result =>
      result.1 == .scheduled && result.2.contracts.map (·.archivedAt) == [some 1000] &&
      (finalizeArchivedContract (step result.2 (.moveChange 0 .manualTakeover)) sampleInput
        (some 2000)).toOption.any fun result' => result'.1 == .lateEvidenceOnly &&
          result'.2.contracts.map (·.archivedAt) == [some 2000]) = true := by
    decide +kernel
  obtain ⟨⟨outcome, db₁⟩, hfirst, hresult⟩ := ok_of_any hrun
  rw [Bool.and_eq_true, Bool.and_eq_true] at hresult
  obtain ⟨⟨houtcome, harchived⟩, hagain⟩ := hresult
  obtain ⟨⟨outcome', db₂⟩, hsecond, hresult'⟩ := ok_of_any hagain
  rw [Bool.and_eq_true] at hresult'
  simp only [beq_iff_eq] at houtcome harchived hresult'
  obtain ⟨rfl, harchived'⟩ := hresult'
  subst houtcome
  exact ⟨db₁, db₂, hfirst, hsecond, harchived, harchived'⟩

end SubscriptionSaas.Change.Archive
