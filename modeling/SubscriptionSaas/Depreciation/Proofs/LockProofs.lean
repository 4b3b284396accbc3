import SubscriptionSaas.Depreciation.VehicleDepreciationService
import SubscriptionSaas.Lib.Tables

/-!
# Locked depreciation records

Every call but `updateRecord` leaves a locked record locked, with its amount, its currency and its
period. `updateRecord` refuses a new amount for such a record, but neither a new period or currency
nor a status that unlocks it. A run whose updates of locked records do none of this keeps them.
-/

namespace SubscriptionSaas.Depreciation

open Results Runs Tables

variable {platform : Platform} {db db' : Db}

/-! ## What a locked record keeps -/

/-- The amount and the period are the same. -/
structure VehicleDepreciationRecord.Same (record record' : VehicleDepreciationRecord) : Prop where
  depreciationAmount : record'.depreciationAmount = record.depreciationAmount
  currency : record'.currency = record.currency
  costPeriod : record'.costPeriod = record.costPeriod
  periodStart : record'.periodStart = record.periodStart
  periodEnd : record'.periodEnd = record.periodEnd

/-- The locked record is there, still locked and the same. -/
def LockedAs (record : VehicleDepreciationRecord) (id : Nat)
    (records : List VehicleDepreciationRecord) : Prop :=
  ∃ record', records[id]? = some record' ∧ record'.recordStatus = .locked ∧ record.Same record'

variable {record : VehicleDepreciationRecord} {id : Nat}
  {records : List VehicleDepreciationRecord}

theorem LockedAs.refl (h : records[id]? = some record) (hlocked : record.recordStatus = .locked) :
    LockedAs record id records :=
  ⟨record, h, hlocked, rfl, rfl, rfl, rfl, rfl⟩

theorem LockedAs.append (h : LockedAs record id records) (new : VehicleDepreciationRecord) :
    LockedAs record id (records ++ [new]) := by
  obtain ⟨record', hrow, hkept⟩ := h
  exact ⟨record', get_append_old hrow, hkept⟩

/-- A record is written that is not locked, or its lock and its data are kept. -/
theorem LockedAs.modify {i : Nat} {f : VehicleDepreciationRecord → VehicleDepreciationRecord}
    (h : LockedAs record id records)
    (hf : ∀ old, records[i]? = some old → old.recordStatus = .locked →
      (f old).recordStatus = .locked ∧ old.Same (f old)) :
    LockedAs record id (records.modify i f) := by
  obtain ⟨record', hrow, hlocked, hsame⟩ := h
  rcases get_of_modify i f hrow with hkept | ⟨rfl, hnew⟩
  · exact ⟨record', hkept, hlocked, hsame⟩
  · obtain ⟨hlocked', hsame'⟩ := hf record' hrow hlocked
    exact ⟨f record', hnew, hlocked', hsame'.depreciationAmount.trans hsame.depreciationAmount,
      hsame'.currency.trans hsame.currency, hsame'.costPeriod.trans hsame.costPeriod,
      hsame'.periodStart.trans hsame.periodStart, hsame'.periodEnd.trans hsame.periodEnd⟩

/-! ## The calls -/

theorem findRecordOrThrow_ok {old : VehicleDepreciationRecord}
    (h : findRecordOrThrow db id = .ok old) : db.records[id]? = some old ∧ old.deletedAt = none := by
  unfold findRecordOrThrow findOrThrow at h
  split at h
  · cases h
  · next row hrow =>
    obtain rfl := Except.ok.inj h
    obtain ⟨hrow, hlive⟩ := Option.filter_eq_some_iff.1 hrow
    exact ⟨hrow, Option.isNone_iff_eq_none.1 hlive⟩

/-- An update of a locked record that passes the checks of `updateRecord` sets nothing but what the
record has. -/
def UpdateRecordDto.Leaves (platform : Platform) (dto : UpdateRecordDto)
    (record : VehicleDepreciationRecord) : Prop :=
  ∀ periodStart periodEnd, dto.depreciationAmount = none →
    nextPeriod platform dto.periodStart record.periodStart "periodStart" = .ok periodStart →
    nextPeriod platform dto.periodEnd record.periodEnd "periodEnd" = .ok periodEnd →
    periodStart ≤ periodEnd → assertCostPeriod dto.costPeriod = .ok () →
    periodStart = record.periodStart ∧ periodEnd = record.periodEnd ∧
      dto.costPeriod.getD record.costPeriod = record.costPeriod ∧
      (normalizeOptionalText dto.currency).or record.currency = record.currency ∧
      dto.recordStatus.getD .locked = .locked

/-- A call that neither changes nor unlocks a locked record by an update. -/
def Suitable (platform : Platform) (db : Db) : Call → Prop
  | .updateRecord id dto => ∀ record, db.records[id]? = some record → record.deletedAt = none →
      record.recordStatus = .locked → dto.Leaves platform record
  | _ => True

theorem updateRecord_locked {i : Nat} {dto : UpdateRecordDto}
    (hsuitable : Suitable platform db (.updateRecord i dto)) (h : LockedAs record id db.records)
    (hupdate : updateRecord platform db i dto = .ok db') : LockedAs record id db'.records := by
  rw [updateRecord] at hupdate
  obtain ⟨before, hbefore, hupdate⟩ := bind_ok hupdate
  obtain ⟨hrow, hlive⟩ := findRecordOrThrow_ok hbefore
  obtain ⟨hamount, hupdate⟩ := require_bind.1 hupdate
  obtain ⟨periodStart, hstart, hupdate⟩ := bind_ok hupdate
  obtain ⟨periodEnd, hend, hupdate⟩ := bind_ok hupdate
  obtain ⟨_, horder, hupdate⟩ := bind_ok hupdate
  obtain ⟨_, hcost, hupdate⟩ := bind_ok hupdate
  obtain ⟨amount, hmoney, hupdate⟩ := bind_ok hupdate
  obtain rfl := Except.ok.inj hupdate
  refine h.modify ?_
  intro old hold hlocked
  obtain rfl := Option.some.inj (hrow.symm.trans hold)
  have hnone : dto.depreciationAmount = none := by
    simpa [isConfirmedOrLockedRecord, hlocked] using hamount
  have hperiods : periodStart ≤ periodEnd := by simpa using require_ok horder
  obtain ⟨rfl, rfl, hcostPeriod, hcurrency, hstatus⟩ :=
    hsuitable before hrow hlive hlocked periodStart periodEnd hnone hstart hend hperiods hcost
  rw [hnone] at hmoney
  obtain rfl := Except.ok.inj hmoney
  rw [← hlocked] at hstatus
  exact ⟨hstatus.trans hlocked, rfl, hcurrency, hcostPeriod, rfl, rfl⟩

theorem scheduleRecord_some {scheduleId i : Nat} {p : VehicleDepreciationRecord → Bool}
    {existing : VehicleDepreciationRecord}
    (h : scheduleRecord db scheduleId p = some (existing, i)) :
    db.records[i]? = some existing := by
  have hmem := List.mem_reverse.1 (List.mem_of_find?_eq_some h)
  exact List.mk_mem_zipIdx_iff_getElem?.1 hmem

theorem confirmSchedule_locked {i : Nat} {now : Int} {remark : Change String}
    (h : LockedAs record id db.records) (hconfirm : confirmSchedule db i now remark = .ok db') :
    LockedAs record id db'.records := by
  rw [confirmSchedule] at hconfirm
  obtain ⟨schedule, -, hconfirm⟩ := bind_ok hconfirm
  obtain ⟨-, hconfirm⟩ := require_bind.1 hconfirm
  obtain ⟨records, hrecords, hconfirm⟩ := bind_ok hconfirm
  obtain rfl := Except.ok.inj hconfirm
  show LockedAs record id records
  unfold confirmScheduleRecord at hrecords
  split at hrecords
  · obtain rfl := Except.ok.inj hrecords
    exact h.append _
  · next existing j hfind =>
    obtain ⟨hunlocked, hrecords⟩ := require_bind.1 hrecords
    obtain rfl := Except.ok.inj hrecords
    refine h.modify ?_
    intro old hold hlocked
    obtain rfl := Option.some.inj ((scheduleRecord_some hfind).symm.trans hold)
    exact absurd hlocked (by simpa using hunlocked)

/-- The actions on a record keep a locked one, or are refused. -/
theorem updateRecordAction_locked {i : Nat} {status : VehicleDepreciationRecordStatus}
    {stamp : VehicleDepreciationRecord → VehicleDepreciationRecord} {remark : Change String}
    (h : LockedAs record id db.records) (hstamp : ∀ old : VehicleDepreciationRecord, old.Same (stamp old))
    (hstatus : ∀ old, db.records[i]? = some old → old.recordStatus = .locked → status = .locked) :
    LockedAs record id (updateRecordAction db i status stamp remark).records := by
  refine h.modify ?_
  intro old hold hlocked
  exact ⟨hstatus old hold hlocked, (hstamp old).1, (hstamp old).2, (hstamp old).3, (hstamp old).4,
    (hstamp old).5⟩

theorem createSchedules_records {policyId : Nat} {policy : VehicleDepreciationPolicy}
    (candidates : List ScheduleCandidate) (db : Db) :
    (createSchedules policyId policy candidates db).2.records = db.records := by
  induction candidates generalizing db with
  | nil => rfl
  | cons candidate rest ih =>
    rw [createSchedules]
    split
    · rfl
    · exact ih _

theorem generateSchedules_records (db : Db) (policyId : Nat) (dryRun : Bool) :
    (generateSchedules db policyId dryRun).2.records = db.records := by
  unfold generateSchedules
  split
  · rfl
  · split
    · rfl
    · split
      · rfl
      · dsimp only
        split
        · rfl
        · exact createSchedules_records _ _

/-- A call that fails leaves everything as it is, and one that succeeds has come to its result. -/
theorem LockedAs.answer {result : Except Failure Db} (h : LockedAs record id db.records)
    (hok : ∀ db', result = .ok db' → LockedAs record id db'.records) :
    LockedAs record id (answer db result).2.records := by
  cases result with
  | error failure => exact h
  | ok db' => exact hok db' rfl

theorem updatePolicyStatus_records {i : Nat} {status : VehicleDepreciationPolicyStatus}
    (h : updatePolicyStatus db i status = .ok db') : db'.records = db.records := by
  obtain ⟨_, -, h⟩ := bind_ok h
  obtain rfl := Except.ok.inj h
  rfl

/-! ## Runs -/

theorem step_locked {call : Call} (hsuitable : Suitable platform db call)
    (h : LockedAs record id db.records) :
    LockedAs record id (db.step platform call).records := by
  unfold Db.step
  cases call with
  | createPolicy vehicleId dto =>
    refine h.answer fun db' hok => ?_
    obtain ⟨-, hok⟩ := require_bind.1 hok
    obtain ⟨_, -, hok⟩ := bind_ok hok
    obtain ⟨_, -, hok⟩ := bind_ok hok
    obtain rfl := Except.ok.inj hok
    exact h
  | updatePolicy i dto =>
    refine h.answer fun db' hok => ?_
    obtain ⟨_, -, hok⟩ := bind_ok hok
    obtain ⟨_, -, hok⟩ := bind_ok hok
    obtain ⟨_, -, hok⟩ := bind_ok hok
    obtain rfl := Except.ok.inj hok
    exact h
  | activatePolicy i =>
    refine h.answer fun db' hok => ?_
    obtain ⟨_, -, hok⟩ := bind_ok hok
    obtain ⟨_, -, hok⟩ := bind_ok hok
    obtain ⟨-, hok⟩ := require_bind.1 hok
    rwa [updatePolicyStatus_records hok]
  | suspendPolicy i | terminatePolicy i | archivePolicy i =>
    refine h.answer fun db' hok => ?_
    rwa [updatePolicyStatus_records hok]
  | generateSchedules policyId dryRun =>
    show LockedAs record id (generateSchedules db policyId dryRun).2.records
    rwa [generateSchedules_records]
  | confirmSchedule i now remark => exact h.answer fun db' hok => confirmSchedule_locked h hok
  | voidSchedule i remark =>
    refine h.answer fun db' hok => ?_
    obtain ⟨_, -, hok⟩ := bind_ok hok
    obtain ⟨-, hok⟩ := require_bind.1 hok
    obtain ⟨-, hok⟩ := require_bind.1 hok
    obtain rfl := Except.ok.inj hok
    exact h
  | lockSchedule i remark =>
    refine h.answer fun db' hok => ?_
    obtain ⟨_, -, hok⟩ := bind_ok hok
    obtain ⟨-, hok⟩ := require_bind.1 hok
    obtain rfl := Except.ok.inj hok
    exact h
  | createRecord policyId dto =>
    refine h.answer fun db' hok => ?_
    obtain ⟨_, -, hok⟩ := bind_ok hok
    obtain ⟨-, hok⟩ := require_bind.1 hok
    obtain ⟨-, hok⟩ := require_bind.1 hok
    obtain ⟨_, -, hok⟩ := bind_ok hok
    obtain ⟨_, -, hok⟩ := bind_ok hok
    obtain ⟨_, -, hok⟩ := bind_ok hok
    obtain ⟨_, -, hok⟩ := bind_ok hok
    obtain ⟨_, -, hok⟩ := bind_ok hok
    obtain rfl := Except.ok.inj hok
    exact h.append _
  | updateRecord i dto =>
    exact h.answer fun db' hok => updateRecord_locked hsuitable h hok
  | confirmRecord i now remark =>
    refine h.answer fun db' hok => ?_
    obtain ⟨old, hold, hok⟩ := bind_ok hok
    obtain ⟨hdraft, hok⟩ := require_bind.1 hok
    obtain rfl := Except.ok.inj hok
    refine updateRecordAction_locked h (fun _ => ⟨rfl, rfl, rfl, rfl, rfl⟩) ?_
    intro old' hold' hlocked
    obtain rfl := Option.some.inj ((findRecordOrThrow_ok hold).1.symm.trans hold')
    rw [hlocked] at hdraft
    cases hdraft
  | voidRecord i now remark =>
    refine h.answer fun db' hok => ?_
    obtain ⟨old, hold, hok⟩ := bind_ok hok
    obtain ⟨hunlocked, hok⟩ := require_bind.1 hok
    obtain rfl := Except.ok.inj hok
    refine updateRecordAction_locked h (fun _ => ⟨rfl, rfl, rfl, rfl, rfl⟩) ?_
    intro old' hold' hlocked
    obtain rfl := Option.some.inj ((findRecordOrThrow_ok hold).1.symm.trans hold')
    rw [hlocked] at hunlocked
    cases hunlocked
  | lockRecord i now remark =>
    refine h.answer fun db' hok => ?_
    obtain ⟨_, -, hok⟩ := bind_ok hok
    obtain ⟨-, hok⟩ := require_bind.1 hok
    obtain rfl := Except.ok.inj hok
    exact updateRecordAction_locked h (fun _ => ⟨rfl, rfl, rfl, rfl, rfl⟩) fun _ _ _ => rfl

/-- From the moment at which a record is locked, a run whose updates of locked records set nothing
new keeps its amount and its period. -/
theorem locked_record_immutable (db : Db) (calls later : List Call) (id : Nat)
    (record : VehicleDepreciationRecord)
    (hrow : (runs (Db.step platform) db calls).records[id]? = some record)
    (hlocked : record.recordStatus = .locked)
    (hsuitable : Along (Db.step platform) (Suitable platform) (runs (Db.step platform) db calls)
      later) :
    ∃ record', (runs (Db.step platform) db (calls ++ later)).records[id]? = some record' ∧
      record.Same record' := by
  have hkept : LockedAs record id (runs (Db.step platform) db (calls ++ later)).records := by
    rw [runs_append]
    exact runs_invariant (fun db => LockedAs record id db.records)
      (fun _ _ hgood h => step_locked hgood h) (.refl hrow hlocked) hsuitable
  obtain ⟨record', hrow', -, hsame⟩ := hkept
  exact ⟨record', hrow', hsame⟩

/-! ## A record that is unlocked -/

/-- Dates that are all the first of January 1970. -/
def samplePlatform : Platform := ⟨fun _ => some 0, fun _ => "1970-01-01"⟩

def sampleDb : Db := ⟨[0], [], [], []⟩

/-- A policy of a vehicle and a record of January, which is locked. -/
def lockedJanuary : List Call :=
  [.createPolicy 0
      { assetCostProfileId := none, basisSource := none, currency := none,
        depreciationBasisAmount := 1000, depreciationEndDate := none, depreciationMethod := .manual,
        depreciationStartDate := "1970-01-01", remark := none, residualValueAmount := none,
        usefulLifeMonths := none },
    .createRecord 0
      { costPeriod := "1970-01", periodStart := "1970-01-01", periodEnd := "1970-01-01",
        depreciationAmount := 100 },
    .confirmRecord 0 1 none,
    .lockRecord 0 2 none]

def januaryRecord : VehicleDepreciationRecord :=
  { policyId := 0
    scheduleId := none
    vehicleId := 0
    costPeriod := "1970-01"
    periodStart := 0
    periodEnd := 0
    depreciationAmount := 100
    currency := some "CNY"
    recordStatus := .locked
    recordSource := .manual
    confirmedAt := some 1
    lockedAt := some 2 }

/-- Only the remark of the locked record is edited. -/
theorem locked_record_immutable_sample : ∃ record',
    (runs (Db.step samplePlatform) sampleDb (lockedJanuary ++
      [.updateRecord 0 { remark := some (some "seen") }])).records[0]? = some record' ∧
    januaryRecord.Same record' := by
  refine locked_record_immutable sampleDb lockedJanuary _ 0 januaryRecord (by decide +kernel) rfl
    ⟨?_, trivial⟩
  rintro record hrow - - periodStart periodEnd - hstart hend - -
  have hjanuary : (runs (Db.step samplePlatform) sampleDb lockedJanuary).records[0]? =
      some januaryRecord := by decide +kernel
  obtain rfl := Option.some.inj (hjanuary.symm.trans hrow)
  obtain rfl := Except.ok.inj hstart
  obtain rfl := Except.ok.inj hend
  exact ⟨rfl, rfl, rfl, rfl, rfl⟩

/-- An update unlocks the record, and the next one gives it another amount. -/
theorem locked_record_changed : ¬∀ (platform : Platform) (db : Db) (calls later : List Call)
    (id : Nat) (record : VehicleDepreciationRecord),
    (runs (Db.step platform) db calls).records[id]? = some record →
    record.recordStatus = .locked →
    ∃ record', (runs (Db.step platform) db (calls ++ later)).records[id]? = some record' ∧
      record.Same record' := by
  intro h
  obtain ⟨record', hrow', hsame⟩ := h samplePlatform sampleDb lockedJanuary
    [.updateRecord 0 { recordStatus := some .draft },
      .updateRecord 0 { depreciationAmount := some 7 }] 0 januaryRecord (by decide +kernel) rfl
  have hseven : (runs (Db.step samplePlatform) sampleDb (lockedJanuary ++
      [.updateRecord 0 { recordStatus := some .draft },
        .updateRecord 0 { depreciationAmount := some 7 }])).records[0]?.map
        (·.depreciationAmount) = some 7 := by decide +kernel
  rw [hrow', Option.map_some, hsame.depreciationAmount] at hseven
  cases hseven

end SubscriptionSaas.Depreciation
