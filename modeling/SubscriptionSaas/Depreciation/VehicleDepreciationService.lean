import SubscriptionSaas.Lib.Calendar
import SubscriptionSaas.Lib.Results
import SubscriptionSaas.Lib.Runs
import SubscriptionSaas.Lib.Texts
import Mathlib.Data.List.Sort

/-!
# The vehicle depreciation service

The depreciation policies of vehicles, the monthly schedules that a straight-line policy generates,
and the records of what has been depreciated. A row is named by its place in its table; amounts are in
cents and dates are days. The service uses no transactions: what a call has written before it fails
stays written. Business numbers and the views of the rows are left out.
-/

namespace SubscriptionSaas.Depreciation

open Calendar Results

/-! ## Rows -/

inductive Failure
  | badRequest (message : String)
  | notFound (message : String)
  | uniqueConstraint
  deriving DecidableEq

inductive VehicleDepreciationMethod
  | straightLine | none | manual
  deriving DecidableEq

def VehicleDepreciationMethod.name : VehicleDepreciationMethod → String
  | .straightLine => "STRAIGHT_LINE"
  | .none => "NONE"
  | .manual => "MANUAL"

inductive VehicleDepreciationPolicyStatus
  | draft | active | suspended | terminated | archived
  deriving DecidableEq

inductive VehicleDepreciationBasisSource
  | purchaseCost | manual | assetCostProfile | other
  deriving DecidableEq

inductive VehicleDepreciationScheduleStatus
  | scheduled | confirmed | voided | locked
  deriving DecidableEq

inductive VehicleDepreciationRecordStatus
  | draft | confirmed | voided | locked
  deriving DecidableEq

inductive VehicleDepreciationRecordSource
  | scheduled | manual | adjustment | imported
  deriving DecidableEq

/-- What `normalizePolicyInput` works out. -/
structure NormalizedPolicyValues where
  assetCostProfileId : Option Nat
  basisSource : VehicleDepreciationBasisSource
  currency : String
  depreciationBasisAmount : Int
  depreciationEndDate : Option Int
  depreciationMethod : VehicleDepreciationMethod
  depreciationStartDate : Int
  monthlyDepreciationAmount : Option Int
  remark : Option String
  residualValueAmount : Int
  usefulLifeMonths : Option Int
  deriving DecidableEq

/-- `vehicle_depreciation_policy`. -/
structure VehicleDepreciationPolicy where
  vehicleId : Nat
  policyStatus : VehicleDepreciationPolicyStatus
  values : NormalizedPolicyValues
  deletedAt : Option Int := none
  deriving DecidableEq

/-- `vehicle_depreciation_schedule`. -/
structure VehicleDepreciationSchedule where
  policyId : Nat
  vehicleId : Nat
  costPeriod : String
  periodStart : Int
  periodEnd : Int
  scheduledAmount : Int
  currency : String
  scheduleStatus : VehicleDepreciationScheduleStatus
  remark : Option String := none
  deletedAt : Option Int := none
  deriving DecidableEq

/-- `vehicle_depreciation_record`. -/
structure VehicleDepreciationRecord where
  policyId : Nat
  scheduleId : Option Nat
  vehicleId : Nat
  costPeriod : String
  periodStart : Int
  periodEnd : Int
  depreciationAmount : Int
  currency : Option String
  recordStatus : VehicleDepreciationRecordStatus
  recordSource : VehicleDepreciationRecordSource
  confirmedAt : Option Int := none
  voidedAt : Option Int := none
  lockedAt : Option Int := none
  remark : Option String := none
  deletedAt : Option Int := none
  deriving DecidableEq

structure Db where
  /-- The vehicles that have not been deleted. -/
  vehicles : List Nat
  policies : List VehicleDepreciationPolicy
  schedules : List VehicleDepreciationSchedule
  records : List VehicleDepreciationRecord
  deriving DecidableEq

/-! ## Inputs -/

/-- The dates of the platform: the day of `new Date` of a text at midnight, if it is one, and the
first ten characters of the `toISOString` of a day. -/
structure Platform where
  parseDate : String → Option Int
  isoDate : Int → String

/-- A column that an input leaves alone, clears or sets. -/
abbrev Change (α : Type) := Option (Option α)

/-- `value === undefined ? before : value`. -/
def Change.or {α : Type} (change : Change α) (before : Option α) : Option α := change.getD before

/-- A text that is there and not empty. -/
def truthy (text : Option String) : Option String := text.filter (· != "")

/-- `normalizeOptionalText` of a text or null. -/
def normalizeText (text : Option String) : Option String := truthy (text.map Texts.trim)

def normalizeOptionalText (text : Change String) : Change String := text.map normalizeText

def moneyOrThrow (value : Int) (field : String) : Except Failure Int :=
  if 0 ≤ value ∧ value ≤ 9007199254740991 then .ok value
  else .error (.badRequest s!"{field} must be a non-negative integer amount in cents.")

def parseDateOnly (platform : Platform) (value : Option String) (field : String) :
    Except Failure Int :=
  match truthy value with
  | none => .error (.badRequest s!"{field} is required.")
  | some text =>
    match platform.parseDate text with
    | none => .error (.badRequest s!"{field} must be a valid YYYY-MM-DD date.")
    | some day => .ok day

def assertDateOrder (start finish : Int) : Except Failure Unit :=
  require (start ≤ finish) (.badRequest "periodStart cannot be later than periodEnd.")

def parseCostPeriod (value : String) : Except Failure Unit :=
  match value.toList with
  | [y₁, y₂, y₃, y₄, '-', m₁, m₂] =>
    match number? [y₁, y₂, y₃, y₄], number? [m₁, m₂] with
    | some year, some month =>
      require (1900 ≤ year && 1 ≤ month && month ≤ 12)
        (.badRequest "costPeriod month must be between 01 and 12.")
    | _, _ => .error (.badRequest "costPeriod must use YYYY-MM format.")
  | _ => .error (.badRequest "costPeriod must use YYYY-MM format.")

/-! ## Dates -/

def firstDayOfMonth (day : Int) : Int := monthStart (monthOf day)

def lastDayOfMonth (day : Int) : Int := monthStart (monthOf day + 1) - 1

/-- The first day of a later month. -/
def addMonthsUtc (day months : Int) : Int := monthStart (monthOf day + months)

/-- A month in two digits, from 1 on. -/
def pad2 (month : Int) : String := if month < 10 then s!"0{month}" else s!"{month}"

def formatCostPeriod (day : Int) : String := s!"{getUTCFullYear day}-{pad2 (getUTCMonth day + 1)}"

/-! ## Policies -/

structure PolicyInput where
  assetCostProfileId : Option Nat
  basisSource : Option VehicleDepreciationBasisSource
  currency : Change String
  depreciationBasisAmount : Int
  depreciationEndDate : Change String
  depreciationMethod : VehicleDepreciationMethod
  depreciationStartDate : String
  remark : Change String
  residualValueAmount : Option Int
  usefulLifeMonths : Option Int
  deriving DecidableEq

def monthlyDepreciationAmountFor (method : VehicleDepreciationMethod) (basis residual : Int)
    (usefulLifeMonths : Option Int) : Option Int :=
  match method, usefulLifeMonths.filter (· != 0) with
  | .none, _ => some 0
  | .manual, _ => none
  | .straightLine, none => none
  | .straightLine, some months => some ((basis - residual).tdiv months)

def normalizePolicyInput (platform : Platform) (dto : PolicyInput) :
    Except Failure NormalizedPolicyValues := do
  let basis ← moneyOrThrow dto.depreciationBasisAmount "depreciationBasisAmount"
  let residual ← moneyOrThrow (dto.residualValueAmount.getD 0) "residualValueAmount"
  let start ← parseDateOnly platform (some dto.depreciationStartDate) "depreciationStartDate"
  let inferredEndDate := (dto.usefulLifeMonths.filter (0 < ·)).map fun months =>
    addMonthsUtc (firstDayOfMonth start) months - 1
  let finish ← match dto.depreciationEndDate with
    | none => .ok inferredEndDate
    | some text =>
      if (truthy text).isSome then
        (parseDateOnly platform text "depreciationEndDate").map some
      else .ok none
  .ok
    { assetCostProfileId := dto.assetCostProfileId
      basisSource := dto.basisSource.getD .purchaseCost
      currency := (normalizeOptionalText dto.currency).join.getD "CNY"
      depreciationBasisAmount := basis
      depreciationEndDate := finish
      depreciationMethod := dto.depreciationMethod
      depreciationStartDate := start
      monthlyDepreciationAmount :=
        monthlyDepreciationAmountFor dto.depreciationMethod basis residual dto.usefulLifeMonths
      remark := (normalizeOptionalText dto.remark).join
      residualValueAmount := residual
      usefulLifeMonths := dto.usefulLifeMonths }

def assertPolicyRules (policy : NormalizedPolicyValues) : Except Failure Unit := do
  require (0 ≤ policy.depreciationBasisAmount && 0 ≤ policy.residualValueAmount)
    (.badRequest "Depreciation amounts must be non-negative cents.")
  if policy.depreciationMethod = .straightLine then do
    require (policy.usefulLifeMonths.any (0 < ·))
      (.badRequest "STRAIGHT_LINE depreciation requires usefulLifeMonths > 0.")
    require (policy.residualValueAmount < policy.depreciationBasisAmount)
      (.badRequest "STRAIGHT_LINE depreciation basis must exceed residual value.")
  match policy.depreciationEndDate with
  | none => .ok ()
  | some finish => assertDateOrder policy.depreciationStartDate finish

/-- A live row of a table. -/
def findOrThrow {α : Type} (rows : List α) (deletedAt : α → Option Int) (id : Nat)
    (message : String) : Except Failure α :=
  match rows[id]?.filter (deletedAt · |>.isNone) with
  | none => .error (.notFound message)
  | some row => .ok row

def findPolicyOrThrow (db : Db) (id : Nat) : Except Failure VehicleDepreciationPolicy :=
  findOrThrow db.policies (·.deletedAt) id "Depreciation policy not found."

def findScheduleOrThrow (db : Db) (id : Nat) : Except Failure VehicleDepreciationSchedule :=
  findOrThrow db.schedules (·.deletedAt) id "Depreciation schedule not found."

def findRecordOrThrow (db : Db) (id : Nat) : Except Failure VehicleDepreciationRecord :=
  findOrThrow db.records (·.deletedAt) id "Depreciation record not found."

def createPolicy (platform : Platform) (db : Db) (vehicleId : Nat) (dto : PolicyInput) :
    Except Failure Db := do
  require (db.vehicles.contains vehicleId) (.notFound "Vehicle not found.")
  let normalized ← normalizePolicyInput platform dto
  assertPolicyRules normalized
  .ok { db with
    policies := db.policies ++
      [{ vehicleId := vehicleId, policyStatus := .draft, values := normalized }] }

structure UpdatePolicyDto where
  assetCostProfileId : Change Nat := none
  basisSource : Option VehicleDepreciationBasisSource := none
  currency : Change String := none
  depreciationBasisAmount : Option Int := none
  depreciationEndDate : Change String := none
  depreciationMethod : Option VehicleDepreciationMethod := none
  depreciationStartDate : Option String := none
  remark : Change String := none
  residualValueAmount : Option Int := none
  usefulLifeMonths : Change Int := none
  deriving DecidableEq

/-- What the input leaves out is taken from the policy, its dates as texts. -/
def UpdatePolicyDto.input (platform : Platform) (dto : UpdatePolicyDto)
    (before : NormalizedPolicyValues) : PolicyInput :=
  { assetCostProfileId := dto.assetCostProfileId.or before.assetCostProfileId
    basisSource := some (dto.basisSource.getD before.basisSource)
    currency := some (dto.currency.or (some before.currency))
    depreciationBasisAmount := dto.depreciationBasisAmount.getD before.depreciationBasisAmount
    depreciationEndDate :=
      some (dto.depreciationEndDate.or (before.depreciationEndDate.map platform.isoDate))
    depreciationMethod := dto.depreciationMethod.getD before.depreciationMethod
    depreciationStartDate :=
      dto.depreciationStartDate.getD (platform.isoDate before.depreciationStartDate)
    remark := some (dto.remark.or before.remark)
    residualValueAmount := some (dto.residualValueAmount.getD before.residualValueAmount)
    usefulLifeMonths := dto.usefulLifeMonths.or before.usefulLifeMonths }

def updatePolicy (platform : Platform) (db : Db) (id : Nat) (dto : UpdatePolicyDto) :
    Except Failure Db := do
  let before ← findPolicyOrThrow db id
  let normalized ← normalizePolicyInput platform (dto.input platform before.values)
  assertPolicyRules normalized
  .ok { db with policies := db.policies.modify id ({ · with values := normalized }) }

def updatePolicyStatus (db : Db) (id : Nat) (status : VehicleDepreciationPolicyStatus) :
    Except Failure Db := do
  let _ ← findPolicyOrThrow db id
  .ok { db with policies := db.policies.modify id ({ · with policyStatus := status }) }

/-- Another policy of the vehicle is active. -/
def otherActive (db : Db) (id vehicleId : Nat) : Bool :=
  db.policies.zipIdx.any fun (policy, other) => policy.deletedAt.isNone && other != id &&
    policy.policyStatus == .active && policy.vehicleId == vehicleId

def activatePolicy (db : Db) (id : Nat) : Except Failure Db := do
  let policy ← findPolicyOrThrow db id
  assertPolicyRules policy.values
  require (!otherActive db id policy.vehicleId)
    (.badRequest "Only one ACTIVE depreciation policy is allowed for a vehicle.")
  updatePolicyStatus db id .active

/-! ## Schedules -/

structure ScheduleCandidate where
  costPeriod : String
  periodEnd : Int
  periodStart : Int
  scheduledAmount : Int
  deriving DecidableEq

def buildStraightLineScheduleCandidates (policy : NormalizedPolicyValues) :
    List ScheduleCandidate :=
  let usefulLifeMonths := policy.usefulLifeMonths.getD 0
  let depreciableAmount := policy.depreciationBasisAmount - policy.residualValueAmount
  let monthlyBaseAmount := depreciableAmount.tdiv usefulLifeMonths
  let roundingRemainder := depreciableAmount - monthlyBaseAmount * usefulLifeMonths
  let firstMonth := firstDayOfMonth policy.depreciationStartDate
  (List.range usefulLifeMonths.toNat).map fun index =>
    let monthStart := addMonthsUtc firstMonth index
    { costPeriod := formatCostPeriod monthStart
      periodEnd := lastDayOfMonth monthStart
      periodStart := if index = 0 then policy.depreciationStartDate else monthStart
      scheduledAmount :=
        if (index : Int) = usefulLifeMonths - 1 then monthlyBaseAmount + roundingRemainder
        else monthlyBaseAmount }

/-- The live schedules of a policy, the earliest first. -/
def listSchedules (db : Db) (policyId : Nat) : Except Failure (List VehicleDepreciationSchedule) :=
  (findPolicyOrThrow db policyId).map fun _ =>
    (db.schedules.filter fun schedule =>
      schedule.deletedAt.isNone && schedule.policyId == policyId).insertionSort
      fun a b => a.periodStart ≤ b.periodStart

/-- Inserts the schedules one by one, until the unique index of policy and period refuses one. -/
def createSchedules (policyId : Nat) (policy : VehicleDepreciationPolicy) :
    List ScheduleCandidate → Db → Except Failure Unit × Db
  | [], db => (.ok (), db)
  | candidate :: rest, db =>
    if db.schedules.any fun schedule =>
        schedule.policyId == policyId && schedule.costPeriod == candidate.costPeriod then
      (.error .uniqueConstraint, db)
    else createSchedules policyId policy rest { db with
      schedules := db.schedules ++
        [{ policyId := policyId
           vehicleId := policy.vehicleId
           costPeriod := candidate.costPeriod
           periodStart := candidate.periodStart
           periodEnd := candidate.periodEnd
           scheduledAmount := candidate.scheduledAmount
           currency := policy.values.currency
           scheduleStatus := .scheduled }] }

/-- A step that fails changes nothing. -/
def answer (db : Db) : Except Failure Db → Except Failure Unit × Db
  | .ok db' => (.ok (), db')
  | .error failure => (.error failure, db)

def generateSchedules (db : Db) (policyId : Nat) (dryRun : Bool) : Except Failure Unit × Db :=
  match findPolicyOrThrow db policyId with
  | .error failure => (.error failure, db)
  | .ok policy =>
    if policy.values.depreciationMethod ≠ .straightLine then (.ok (), db)
    else
      match assertPolicyRules policy.values with
      | .error failure => (.error failure, db)
      | .ok _ =>
        let existing := db.schedules.filter fun schedule =>
          schedule.deletedAt.isNone && schedule.policyId == policyId
        let missing := (buildStraightLineScheduleCandidates policy.values).filter fun candidate =>
          !existing.any (·.costPeriod == candidate.costPeriod)
        if dryRun then (.ok (), db) else createSchedules policyId policy missing db

/-! ## Records -/

def isConfirmedOrLockedRecord (record : VehicleDepreciationRecord) : Bool :=
  record.recordStatus == .confirmed || record.recordStatus == .locked

/-- The latest live record of a schedule with the property, with its place. -/
def scheduleRecord (db : Db) (scheduleId : Nat) (p : VehicleDepreciationRecord → Bool) :
    Option (VehicleDepreciationRecord × Nat) :=
  db.records.zipIdx.reverse.find? fun (record, _) =>
    record.scheduleId == some scheduleId && record.deletedAt.isNone && p record

def confirmableStatus (status : VehicleDepreciationScheduleStatus) : Bool :=
  status == .scheduled || status == .confirmed

/-- The record that the confirmation of a schedule creates. -/
def VehicleDepreciationSchedule.record (schedule : VehicleDepreciationSchedule) (scheduleId : Nat)
    (now : Int) (remark : Option String) : VehicleDepreciationRecord :=
  { policyId := schedule.policyId
    scheduleId := some scheduleId
    vehicleId := schedule.vehicleId
    costPeriod := schedule.costPeriod
    periodStart := schedule.periodStart
    periodEnd := schedule.periodEnd
    depreciationAmount := schedule.scheduledAmount
    currency := some schedule.currency
    recordStatus := .confirmed
    recordSource := .scheduled
    confirmedAt := some now
    remark := remark }

/-- The record of a schedule that is confirmed. -/
def confirmScheduleRecord (db : Db) (schedule : VehicleDepreciationSchedule) (scheduleId : Nat)
    (now : Int) (remark : Change String) :
    Except Failure (List VehicleDepreciationRecord) :=
  match scheduleRecord db scheduleId
      (fun record => record.recordSource == .scheduled && record.recordStatus != .voided) with
  | none => .ok (db.records ++ [schedule.record scheduleId now remark.join])
  | some (existing, id) => do
    require (existing.recordStatus != .locked)
      (.badRequest "Locked depreciation records cannot be replaced.")
    .ok (db.records.modify id fun record =>
      if existing.recordStatus = .confirmed then { record with remark := remark.or record.remark }
      else { record with
        confirmedAt := some now
        currency := some schedule.currency
        depreciationAmount := schedule.scheduledAmount
        recordStatus := .confirmed
        remark := remark.or record.remark })

def updateSchedule (db : Db) (id : Nat) (status : VehicleDepreciationScheduleStatus)
    (remark : Change String) : Db :=
  { db with schedules := db.schedules.modify id fun schedule =>
      { schedule with scheduleStatus := status, remark := remark.or schedule.remark } }

def confirmSchedule (db : Db) (id : Nat) (now : Int) (remark : Change String) :
    Except Failure Db := do
  let schedule ← findScheduleOrThrow db id
  require (confirmableStatus schedule.scheduleStatus)
    (.badRequest "Only scheduled depreciation schedules can be confirmed.")
  let records ← confirmScheduleRecord db schedule id now (normalizeOptionalText remark)
  .ok (updateSchedule { db with records := records } id .confirmed (normalizeOptionalText remark))

def voidSchedule (db : Db) (id : Nat) (remark : Change String) : Except Failure Db := do
  let schedule ← findScheduleOrThrow db id
  require (confirmableStatus schedule.scheduleStatus)
    (.badRequest "Only scheduled or confirmed depreciation schedules can be voided.")
  require (scheduleRecord db id isConfirmedOrLockedRecord).isNone
    (.badRequest "Confirmed or locked records must be handled before voiding a schedule.")
  .ok (updateSchedule db id .voided (normalizeOptionalText remark))

def lockSchedule (db : Db) (id : Nat) (remark : Change String) : Except Failure Db := do
  let schedule ← findScheduleOrThrow db id
  require (schedule.scheduleStatus != .voided)
    (.badRequest "Voided depreciation schedules cannot be locked.")
  .ok (updateSchedule db id .locked (normalizeOptionalText remark))

structure CreateRecordDto where
  costPeriod : String
  periodStart : String
  periodEnd : String
  depreciationAmount : Int
  currency : Change String := none
  recordStatus : Option VehicleDepreciationRecordStatus := none
  recordSource : Option VehicleDepreciationRecordSource := none
  remark : Change String := none
  deriving DecidableEq

def createRecord (platform : Platform) (db : Db) (policyId : Nat) (dto : CreateRecordDto) :
    Except Failure Db := do
  let policy ← findPolicyOrThrow db policyId
  let recordSource := dto.recordSource.getD .manual
  require (recordSource != .scheduled)
    (.badRequest "SCHEDULED depreciation records must be created by schedule confirmation.")
  require (!(recordSource == .manual && policy.values.depreciationMethod != .manual))
    (.badRequest "Manual depreciation records require a MANUAL depreciation policy.")
  let periodStart ← parseDateOnly platform (some dto.periodStart) "periodStart"
  let periodEnd ← parseDateOnly platform (some dto.periodEnd) "periodEnd"
  assertDateOrder periodStart periodEnd
  parseCostPeriod dto.costPeriod
  let amount ← moneyOrThrow dto.depreciationAmount "depreciationAmount"
  .ok { db with
    records := db.records ++
      [{ policyId := policyId
         scheduleId := none
         vehicleId := policy.vehicleId
         costPeriod := dto.costPeriod
         periodStart := periodStart
         periodEnd := periodEnd
         depreciationAmount := amount
         currency := some ((normalizeOptionalText dto.currency).join.getD policy.values.currency)
         recordStatus := dto.recordStatus.getD .draft
         recordSource := recordSource
         remark := (normalizeOptionalText dto.remark).join }] }

structure UpdateRecordDto where
  costPeriod : Option String := none
  periodStart : Option String := none
  periodEnd : Option String := none
  depreciationAmount : Option Int := none
  currency : Change String := none
  recordStatus : Option VehicleDepreciationRecordStatus := none
  recordSource : Option VehicleDepreciationRecordSource := none
  remark : Change String := none
  deriving DecidableEq

/-- `dto.period ? parseDateOnly(dto.period) : before`. -/
def nextPeriod (platform : Platform) (text : Option String) (before : Int) (field : String) :
    Except Failure Int :=
  if (truthy text).isSome then parseDateOnly platform text field else .ok before

/-- `if (dto.costPeriod) parseCostPeriod(dto.costPeriod)`. -/
def assertCostPeriod (text : Option String) : Except Failure Unit :=
  match truthy text with
  | none => .ok ()
  | some costPeriod => parseCostPeriod costPeriod

def nextAmount (value : Option Int) (before : Int) : Except Failure Int :=
  match value with
  | none => .ok before
  | some amount => moneyOrThrow amount "depreciationAmount"

/-- The columns that the input sets, with the amount and the period that it comes to. -/
def UpdateRecordDto.apply (dto : UpdateRecordDto) (periodStart periodEnd amount : Int)
    (record : VehicleDepreciationRecord) : VehicleDepreciationRecord :=
  { record with
    costPeriod := dto.costPeriod.getD record.costPeriod
    periodStart := periodStart
    periodEnd := periodEnd
    depreciationAmount := amount
    currency := (normalizeOptionalText dto.currency).or record.currency
    recordStatus := dto.recordStatus.getD record.recordStatus
    recordSource := dto.recordSource.getD record.recordSource
    remark := (normalizeOptionalText dto.remark).or record.remark }

def updateRecord (platform : Platform) (db : Db) (id : Nat) (dto : UpdateRecordDto) :
    Except Failure Db := do
  let before ← findRecordOrThrow db id
  require (!(dto.depreciationAmount.isSome && isConfirmedOrLockedRecord before))
    (.badRequest "Confirmed or locked depreciation records cannot change amount.")
  let periodStart ← nextPeriod platform dto.periodStart before.periodStart "periodStart"
  let periodEnd ← nextPeriod platform dto.periodEnd before.periodEnd "periodEnd"
  assertDateOrder periodStart periodEnd
  assertCostPeriod dto.costPeriod
  let amount ← nextAmount dto.depreciationAmount before.depreciationAmount
  .ok { db with records := db.records.modify id (dto.apply periodStart periodEnd amount) }

/-- `updateRecordAction` with a new status. -/
def updateRecordAction (db : Db) (id : Nat) (status : VehicleDepreciationRecordStatus)
    (stamp : VehicleDepreciationRecord → VehicleDepreciationRecord) (remark : Change String) : Db :=
  { db with records := db.records.modify id fun record =>
      { stamp record with
        recordStatus := status
        remark := (normalizeOptionalText remark).or record.remark } }

def confirmRecord (db : Db) (id : Nat) (now : Int) (remark : Change String) :
    Except Failure Db := do
  let record ← findRecordOrThrow db id
  require (record.recordStatus == .draft)
    (.badRequest "Only draft depreciation records can be confirmed.")
  .ok (updateRecordAction db id .confirmed ({ · with confirmedAt := some now }) remark)

def voidRecord (db : Db) (id : Nat) (now : Int) (remark : Change String) : Except Failure Db := do
  let record ← findRecordOrThrow db id
  require (record.recordStatus != .locked)
    (.badRequest "Locked depreciation records cannot be voided.")
  .ok (updateRecordAction db id .voided ({ · with voidedAt := some now }) remark)

def lockRecord (db : Db) (id : Nat) (now : Int) (remark : Change String) : Except Failure Db := do
  let record ← findRecordOrThrow db id
  require (record.recordStatus != .voided)
    (.badRequest "Voided depreciation records cannot be locked.")
  .ok (updateRecordAction db id .locked ({ · with lockedAt := some now }) remark)

/-! ## Calls -/

inductive Call
  | createPolicy (vehicleId : Nat) (dto : PolicyInput)
  | updatePolicy (id : Nat) (dto : UpdatePolicyDto)
  | activatePolicy (id : Nat)
  | suspendPolicy (id : Nat)
  | terminatePolicy (id : Nat)
  | archivePolicy (id : Nat)
  | generateSchedules (policyId : Nat) (dryRun : Bool)
  | confirmSchedule (id : Nat) (now : Int) (remark : Change String)
  | voidSchedule (id : Nat) (remark : Change String)
  | lockSchedule (id : Nat) (remark : Change String)
  | createRecord (policyId : Nat) (dto : CreateRecordDto)
  | updateRecord (id : Nat) (dto : UpdateRecordDto)
  | confirmRecord (id : Nat) (now : Int) (remark : Change String)
  | voidRecord (id : Nat) (now : Int) (remark : Change String)
  | lockRecord (id : Nat) (now : Int) (remark : Change String)
  deriving DecidableEq

def Db.call (platform : Platform) (db : Db) : Call → Except Failure Unit × Db
  | .createPolicy vehicleId dto => answer db (Depreciation.createPolicy platform db vehicleId dto)
  | .updatePolicy id dto => answer db (Depreciation.updatePolicy platform db id dto)
  | .activatePolicy id => answer db (Depreciation.activatePolicy db id)
  | .suspendPolicy id => answer db (updatePolicyStatus db id .suspended)
  | .terminatePolicy id => answer db (updatePolicyStatus db id .terminated)
  | .archivePolicy id => answer db (updatePolicyStatus db id .archived)
  | .generateSchedules policyId dryRun => Depreciation.generateSchedules db policyId dryRun
  | .confirmSchedule id now remark => answer db (Depreciation.confirmSchedule db id now remark)
  | .voidSchedule id remark => answer db (Depreciation.voidSchedule db id remark)
  | .lockSchedule id remark => answer db (Depreciation.lockSchedule db id remark)
  | .createRecord policyId dto => answer db (Depreciation.createRecord platform db policyId dto)
  | .updateRecord id dto => answer db (Depreciation.updateRecord platform db id dto)
  | .confirmRecord id now remark => answer db (Depreciation.confirmRecord db id now remark)
  | .voidRecord id now remark => answer db (Depreciation.voidRecord db id now remark)
  | .lockRecord id now remark => answer db (Depreciation.lockRecord db id now remark)

def Db.step (platform : Platform) (db : Db) (call : Call) : Db := (db.call platform call).2

end SubscriptionSaas.Depreciation
