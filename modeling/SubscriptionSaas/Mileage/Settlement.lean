import SubscriptionSaas.Lib.Texts
import SubscriptionSaas.Mileage.Entitlements

/-!
# The settlement of mileage reviews

The mileage readings of a vehicle, the calculation of a settlement, and the two serializable
transactions on a review: its settlement, which also creates the review of the next cycle, and its
voiding, which reopens its cycle.
-/

namespace SubscriptionSaas.Mileage

open Results
open Finance (BillType BillStatus)

/-- `Number.isSafeInteger`. -/
def isSafeInteger (value : Int) : Bool := -9007199254740991 ≤ value && value ≤ 9007199254740991

/-! ## Readings -/

structure AppendReading where
  ofOrder : Bool
  sourceType : VehicleMileageSourceType
  sourceRecordId : String
  recordedAt : Int
  mileageKm : Int
  deriving DecidableEq

/-- The first of the active readings by `recordedAt` and then by age, latest first. -/
def latestReading (p : Nat → Bool) (readings : List Reading) : Option (Reading × Nat) :=
  (readings.zipIdx.filter fun row => row.1.status == .active && p row.2).foldl
    (fun latest row => match latest with
      | none => some row
      | some best => if best.1.recordedAt ≤ row.1.recordedAt then some row else some best) none

def sameBusinessReading (existing : Reading) (input : AppendReading) : Bool :=
  existing.ofOrder == input.ofOrder && existing.sourceType == input.sourceType &&
    existing.sourceRecordId == input.sourceRecordId && existing.recordedAt == input.recordedAt &&
    existing.mileageKm == input.mileageKm

def appendConfirmedReading (db : Db) (input : AppendReading) : Except Failure (Nat × Db) := do
  require (isSafeInteger input.mileageKm && 0 ≤ input.mileageKm)
    (badRequest "车辆里程必须是非负整数")
  require db.vehicle.deletedAt.isNone (notFound "车辆不存在或已删除")
  match findFirst (fun reading => reading.sourceRecordId == input.sourceRecordId &&
      reading.sourceType == input.sourceType) db.readings with
  | some (existing, id) => do
    require (existing.status == .active) (conflict "同一来源单据的车辆里程记录已失效")
    require (sameBusinessReading existing input) (conflict "同一来源单据已记录不同的车辆里程")
    .ok (id, db)
  | none => do
    let latest := latestReading (fun _ => true) db.readings
    require (!latest.any fun row => input.mileageKm < row.1.mileageKm)
      (badRequest "车辆里程不能小于上一条有效里程")
    require (!latest.any fun row => input.recordedAt < row.1.recordedAt)
      (badRequest "里程记录时间不能早于上一条有效记录")
    .ok (db.readings.length, { db with
      readings := db.readings ++
        [{ ofOrder := input.ofOrder
           sourceType := input.sourceType
           sourceRecordId := input.sourceRecordId
           recordedAt := input.recordedAt
           mileageKm := input.mileageKm
           previousReadingId := latest.map (·.2)
           deltaKm := input.mileageKm - (latest.map (·.1.mileageKm)).getD 0
           status := .active }]
      vehicle := { db.vehicle with currentMileageKm := input.mileageKm } })

def voidReadingAndRestoreProjection (db : Db) (readingId : Nat) (voidedAt : Int) :
    Except Failure Db := do
  let _ ← found (db.readings[readingId]?.filter (·.status == .active))
    (notFound "Active mileage reading was not found.")
  require ((latestReading (fun _ => true) db.readings).map (·.2) == some readingId)
    (conflict "A later active mileage reading prevents this rollback.")
  let (previous, _) ← found (latestReading (· != readingId) db.readings)
    (conflict "The preceding active mileage reading is unavailable.")
  .ok { db with
    readings := db.readings.modify readingId fun reading =>
      { reading with status := .voided, voidedAt := some voidedAt }
    vehicle := { db.vehicle with currentMileageKm := previous.mileageKm } }

/-! ## The calculation -/

def rangeError (message : String) : Failure := ⟨.range, message⟩

def assertMileageValues (values : List Int) : Except Failure Unit :=
  require (values.all fun value => isSafeInteger value && 0 ≤ value)
    (rangeError "Mileage values must be non-negative safe integers.")

def calculateMileageSettlement (baselineMileageKm submittedMileageKm allowanceKm
    overMileageFeeAmount : Int) : Except Failure MileageSettlement := do
  assertMileageValues [baselineMileageKm, submittedMileageKm, allowanceKm]
  require (0 ≤ overMileageFeeAmount) (rangeError "Over-mileage fee must be non-negative.")
  require (baselineMileageKm ≤ submittedMileageKm)
    (rangeError "Submitted mileage cannot be lower than the confirmed baseline.")
  let actualUsageKm := submittedMileageKm - baselineMileageKm
  let consumedAllowanceKm := min actualUsageKm allowanceKm
  let overMileageKm := max (actualUsageKm - allowanceKm) 0
  .ok
    { actualUsageKm := actualUsageKm
      consumedAllowanceKm := consumedAllowanceKm
      unusedAllowanceKm := allowanceKm - consumedAllowanceKm
      overMileageKm := overMileageKm
      overMileageAmount := overMileageKm * overMileageFeeAmount }

/-- The number of a decimal in hundredths. -/
def decimalToSafeMileage (value : Option Int) (message : String) : Except Failure Int :=
  match value with
  | some hundredths =>
    if hundredths % 100 = 0 ∧ isSafeInteger (hundredths / 100) ∧ 0 ≤ hundredths then
      .ok (hundredths / 100)
    else .error (badRequest message)
  | none => .error (badRequest message)

/-! ## The parts of a settlement -/

/-- A live row of the table. -/
def findReview (db : Db) (reviewId : Nat) : Except Failure Review :=
  found (db.reviews[reviewId]?.filter (·.deletedAt.isNone)) (notFound "Mileage review not found.")

/-- `Array.includes` of the raster types, after `toLowerCase`. -/
def isSupportedRasterMimeType (value : Option String) : Bool :=
  value.any fun type => ["image/jpeg", "image/png", "image/webp"].contains type.toLower

def clockSkewMs : Int := 5 * 60 * 1000

def baselineRecordedAt (db : Db) (review : Review) : Int :=
  (db.readings[review.baselineReadingId]?.map (·.recordedAt)).getD 0

def assertMileageReviewTimestamp (db : Db) (review : Review) (value asOf : Int) :
    Except Failure Unit :=
  require (baselineRecordedAt db review ≤ value && value ≤ asOf + clockSkewMs)
    (badRequest "Mileage reading time is outside the allowed review window.")

structure SettleMileageReview where
  confirmedAt : Int
  expectedLockVersion : Int
  idempotencyKey : String
  reviewId : Nat
  userId : Nat
  deriving DecidableEq

def assertSettlementInput (input : SettleMileageReview) : Except Failure Unit := do
  require (Texts.trim input.idempotencyKey != "" && Texts.length input.idempotencyKey ≤ 128)
    (badRequest "Mileage review confirmation idempotency key is required.")
  require (isSafeInteger input.expectedLockVersion && 0 ≤ input.expectedLockVersion)
    (badRequest "Mileage review lock version is invalid.")

/-- The submitted reading of a review that can be confirmed, and when it was taken. -/
def assertConfirmable (db : Db) (review : Review) (expectedLockVersion confirmedAt : Int) :
    Except Failure (Int × Int) := do
  require (review.status == .pendingReview && (review.lockVersion : Int) == expectedLockVersion)
    (conflict "Mileage review was changed by another request.")
  require (db.order.orderStatus == .active)
    (badRequest "Only active orders can settle mileage reviews.")
  let submittedMileageKm ← found review.submittedMileageKm
    (badRequest "Mileage review submission is incomplete.")
  let readingAt ← found review.readingAt (badRequest "Mileage review submission is incomplete.")
  require (review.baselineMileageKm ≤ submittedMileageKm)
    (badRequest "Mileage review submission is incomplete.")
  assertMileageReviewTimestamp db review readingAt confirmedAt
  require (review.evidence.any fun item =>
      item.deletedAt.isNone && isSupportedRasterMimeType item.mimeType)
    (badRequest "At least one image evidence file is required for confirmation.")
  .ok (submittedMileageKm, readingAt)

def unresolvedPrior (cycleNo : Int) (review : Review) : Bool :=
  review.cycleNo < cycleNo && review.deletedAt.isNone && review.status != .confirmed &&
    review.status != .voided

/-- The grant covers the period and has not been cancelled. -/
def coversPeriod (period : Int × Int) (grant : Grant) : Bool :=
  grant.deletedAt.isNone && grant.entitlementType == .mileage &&
    grant.grantPeriodEnd.any (period.2 ≤ ·) && grant.grantPeriodStart ≤ period.1 &&
    grant.status != .cancelled && grant.unit == .km

/-- The account that the settlement grants from. -/
def findOrCreateAccount (db : Db) (review : Review) : Nat × Db :=
  match findLast activeAccount db.accounts with
  | some (_, id) => (id, db)
  | none =>
    (db.accounts.length, { db with
      accounts := db.accounts ++
        [{ accountStatus := .active
           periodStart := toBusinessDate (db.order.actualDeliveryAt.getD review.periodStart)
           periodEnd := none }] })

def backfilledGrant (order : Order) (accountId : Nat) (period : Int × Int) : Grant :=
  let allowance : Int := 100 * order.mileageLimitKm
  grantOf ⟨"月里程额度", .mileage, some allowance, some allowance, .km, some 0⟩ accountId
    .monthlyRenewal period.1 (some period.2)

def findOrCreateMileageGrant (db : Db) (review : Review) : Grant × Nat × Db :=
  let entitlementPeriod := reviewEntitlementPeriod review.periodStart review.scheduledReviewAt
  match findLast (coversPeriod entitlementPeriod) db.grants with
  | some (existing, id) => (existing, id, db)
  | none =>
    let (accountId, db) := findOrCreateAccount db review
    let grant := backfilledGrant db.order accountId entitlementPeriod
    (grant, db.grants.length, { db with grants := db.grants ++ [grant] })

def usageRefNo (reviewId version : Nat) : String := s!"mileage-review:{reviewId}:v{version}"

/-- The usage of the allowance, when there is any. -/
def consumeAllowance (db : Db) (reviewId version grantId : Nat) (consumedAllowanceKm : Int) :
    Option Nat × Db :=
  if 0 < consumedAllowanceKm then
    let externalRefNo := usageRefNo reviewId version
    match findFirst (fun usage => usage.deletedAt.isNone &&
        usage.externalRefNo == some externalRefNo && usage.usageStatus == .confirmed)
        db.usages with
    | some (_, id) => (some id, db)
    | none =>
      (some db.usages.length, { db with
        usages := db.usages ++ [{ grantId := grantId, usedAmount := 100 * consumedAllowanceKm,
                                  externalRefNo := some externalRefNo,
                                  usageStatus := .confirmed }] })
  else (none, db)

def consumeAndExpireGrant (db : Db) (review : Review) (reviewId : Nat) (grant : Grant)
    (grantId : Nat) (consumedAllowanceKm unusedAllowanceKm : Int) :
    Except Failure (Option Nat × Db) := do
  let existingUsed ← decimalToSafeMileage grant.usedAmount
    "Used mileage must be a non-negative integer."
  let (usageId, db) := consumeAllowance db reviewId review.version grantId consumedAllowanceKm
  .ok (usageId, { db with
    grants := db.grants.modify grantId fun grant => { grant with
      remainingAmount := some 0
      status := if 0 < unusedAllowanceKm then .expired else .exhausted
      usedAmount := some (100 * (existingUsed + consumedAllowanceKm)) } })

def overMileageKey (reviewId version : Nat) : String := s!"over-mileage:{reviewId}:v{version}"

def fiveDaysMs : Int := 5 * 24 * 60 * 60 * 1000

def createOverMileageBill (db : Db) (review : Review) (reviewId : Nat) (amount confirmedAt : Int) :
    Except Failure (Option Nat × Db) :=
  if amount ≤ 0 then .ok (none, db)
  else
    let sourceKey := overMileageKey reviewId review.version
    match findFirst (fun bill => bill.sourceKey == sourceKey) db.bills with
    | some (existing, id) => do
      require (existing.billType == .overMileage && existing.amount == amount)
        (conflict "Over-mileage bill idempotency key is already in use.")
      .ok (some id, db)
    | none =>
      let entitlementPeriod := reviewEntitlementPeriod review.periodStart review.scheduledReviewAt
      .ok (some db.bills.length, { db with
        bills := db.bills ++
          [{ billType := .overMileage
             sourceKey := sourceKey
             amount := amount
             billPeriodStart := entitlementPeriod.1
             billPeriodEnd := entitlementPeriod.2
             billStatus := .pending
             dueDate := confirmedAt + fiveDaysMs
             paidAmount := 0
             remainingAmount := amount }] })

/-- The review of the next cycle, unless there is one. -/
def createNextReview (db : Db) (review : Review) (submittedMileageKm : Int)
    (baselineReadingId : Nat) (confirmedAt : Int) : Except Failure Db :=
  match db.order.actualDeliveryAt with
  | none => .ok db
  | some actualDeliveryAt =>
    if db.order.orderStatus != .active || db.order.periodMonths ≤ review.cycleNo then .ok db
    else do
      let cycleNo := review.cycleNo + 1
      let cycle ← (buildMileageReviewCycle actualDeliveryAt cycleNo).mapError (rangeError ·.message)
      let versions := db.reviews.filter (·.cycleNo == cycleNo)
      let existing := versions.find? fun review => versions.all (·.version ≤ review.version)
      if existing.any (·.deletedAt.isNone) then .ok db
      else .ok { db with
        reviews := db.reviews ++
          [{ cycleNo := cycleNo
             version := (existing.map (·.version)).getD 0 + 1
             periodStart := cycle.periodStart
             periodEnd := cycle.periodEnd
             scheduledReviewAt := cycle.scheduledReviewAt
             dueAt := cycle.dueAt
             status := if cycle.scheduledReviewAt ≤ confirmedAt then .pendingSubmission
               else .scheduled
             baselineReadingId := baselineReadingId
             baselineMileageKm := submittedMileageKm }] }

/-! ## The transactions -/

/-- What the settlement has worked out and written. -/
structure Settled where
  confirmation : Confirmation
  settlement : MileageSettlement
  allowanceKm : Int
  readingId : Nat
  grantId : Nat
  usageId : Option Nat
  billId : Option Nat

def Review.confirm (review : Review) (settled : Settled) : Review :=
  { review with
    allowanceKm := some settled.allowanceKm
    confirmation := some settled.confirmation
    settlement := some settled.settlement
    entitlementGrantId := some settled.grantId
    entitlementUsageId := settled.usageId
    lockVersion := review.lockVersion + 1
    mileageReadingId := some settled.readingId
    overMileageBillId := settled.billId
    status := .confirmed }

/-- The settlement of a review that can be confirmed, up to the review itself. -/
def settleParts (db : Db) (input : SettleMileageReview) (review : Review)
    (submittedMileageKm readingAt : Int) : Except Failure (Settled × Db) := do
  let (grant, grantId, db) := findOrCreateMileageGrant db review
  let allowanceKm ← decimalToSafeMileage (grant.remainingAmount <|> grant.totalAmount)
    "Mileage allowance must be a non-negative integer."
  let settlement ← calculateMileageSettlement review.baselineMileageKm submittedMileageKm allowanceKm
    db.order.overMileageFeeAmount
  let (usageId, db) ← consumeAndExpireGrant db review input.reviewId grant grantId
    settlement.consumedAllowanceKm settlement.unusedAllowanceKm
  let (readingId, db) ← appendConfirmedReading db
    { ofOrder := true
      sourceType := .monthlyReview
      sourceRecordId := s!"{input.reviewId}:v{review.version}"
      recordedAt := readingAt
      mileageKm := submittedMileageKm }
  let (billId, db) ← createOverMileageBill db review input.reviewId settlement.overMileageAmount
    input.confirmedAt
  .ok (⟨⟨input.confirmedAt, input.userId, input.idempotencyKey⟩, settlement, allowanceKm, readingId,
    grantId, usageId, billId⟩, db)

def settleReview (db : Db) (input : SettleMileageReview) : Except Failure Db := do
  assertSettlementInput input
  let review ← findReview db input.reviewId
  if review.status == .confirmed then do
    require ((review.confirmation.map (·.idempotencyKey)) == some input.idempotencyKey)
      (conflict "Mileage review is already confirmed.")
    .ok db
  else do
    let (submittedMileageKm, readingAt) ← assertConfirmable db review input.expectedLockVersion
      input.confirmedAt
    require (!db.reviews.any (unresolvedPrior review.cycleNo))
      (badRequest "Prior mileage review cycles must be confirmed first.")
    let (settled, db) ← settleParts db input review submittedMileageKm readingAt
    createNextReview { db with reviews := db.reviews.modify input.reviewId (·.confirm settled) }
      review submittedMileageKm settled.readingId input.confirmedAt

structure VoidMileageReview where
  expectedLockVersion : Int
  reason : String
  reviewId : Nat
  voidedAt : Int
  deriving DecidableEq

/-- The used amount of the grant without the usage of the settlement, which is cancelled. -/
def cancelUsage (db : Db) (usageId : Option Nat) (used : Int) : Except Failure (Int × Db) :=
  match usageId with
  | none => .ok (used, db)
  | some usageId => do
    let usage ← found (db.usages[usageId]?.filter (·.usageStatus == .confirmed))
      (conflict "Mileage entitlement usage is unavailable.")
    let amount ← decimalToSafeMileage (some usage.usedAmount)
      "Usage mileage must be a non-negative integer."
    require (amount ≤ used) (conflict "Mileage entitlement usage cannot be restored.")
    .ok (used - amount, { db with
      usages := db.usages.modify usageId ({ · with usageStatus := .cancelled }) })

/-- The allowance and, when there was one, the usage of a settlement are given back. -/
def restoreEntitlement (db : Db) (review : Review) : Except Failure Db := do
  let missing := conflict "Confirmed mileage review is missing its entitlement settlement."
  let grantId ← found review.entitlementGrantId missing
  let allowanceKm ← found review.allowanceKm missing
  let grant ← found db.grants[grantId]? (conflict "Mileage entitlement grant is unavailable.")
  let used ← decimalToSafeMileage grant.usedAmount "Used mileage must be a non-negative integer."
  let (restoredUsed, db) ← cancelUsage db review.entitlementUsageId used
  .ok { db with
    grants := db.grants.modify grantId fun grant => { grant with
      remainingAmount := some (100 * allowanceKm)
      status := .active
      usedAmount := some (100 * restoredUsed) } }

def paidBill (bill : Bill) : Bool :=
  0 < bill.paidAmount || bill.billStatus == .partiallyPaid || bill.billStatus == .paid

def cancelBill (bills : List Bill) (billId : Option Nat) (voidedAt : Int) : List Bill :=
  match billId with
  | none => bills
  | some billId => bills.modify billId fun bill => { bill with
      billStatus := .cancelled
      cancelledAt := some voidedAt
      remainingAmount := 0 }

def laterReview (cycleNo : Int) (review : Review) : Bool :=
  cycleNo < review.cycleNo && review.deletedAt.isNone

/-- The review that takes the place of a voided one. -/
def Review.reopened (review : Review) : Review :=
  { cycleNo := review.cycleNo
    version := review.version + 1
    periodStart := review.periodStart
    periodEnd := review.periodEnd
    scheduledReviewAt := review.scheduledReviewAt
    dueAt := review.dueAt
    status := .pendingSubmission
    baselineReadingId := review.baselineReadingId
    baselineMileageKm := review.baselineMileageKm }

/-- The rows of the reviews after one of them has been voided. -/
def reopenReviews (reviews : List Review) (review : Review) (reviewId : Nat) (voidedAt : Int) :
    List Review :=
  (reviews.map fun row =>
      if laterReview review.cycleNo row && row.status != .confirmed then
        { row with deletedAt := some voidedAt }
      else row).modify reviewId (fun row =>
    { row with lockVersion := row.lockVersion + 1, status := .voided, voidedAt := some voidedAt }) ++
  [review.reopened]

def voidAndReopenReview (db : Db) (input : VoidMileageReview) : Except Failure Db := do
  require (Texts.trim input.reason != "")
    (badRequest "Mileage review void reason is required.")
  require (isSafeInteger input.expectedLockVersion && 0 ≤ input.expectedLockVersion)
    (badRequest "Mileage review lock version is invalid.")
  let review ← findReview db input.reviewId
  require (review.status == .confirmed && (review.lockVersion : Int) == input.expectedLockVersion)
    (conflict "Mileage review was changed or is not confirmed.")
  require (!db.reviews.any fun row => laterReview review.cycleNo row && row.status == .confirmed)
    (badRequest "A later confirmed mileage review prevents this rollback.")
  require (!(review.overMileageBillId.bind fun id => db.bills[id]?).any paidBill)
    (badRequest "A paid or partially paid over-mileage bill prevents this rollback.")
  let db ← restoreEntitlement db review
  let db := { db with bills := cancelBill db.bills review.overMileageBillId input.voidedAt }
  let readingId ← found review.mileageReadingId
    (conflict "Confirmed mileage review is missing its mileage reading.")
  let db ← voidReadingAndRestoreProjection db readingId input.voidedAt
  .ok { db with reviews := reopenReviews db.reviews review input.reviewId input.voidedAt }

end SubscriptionSaas.Mileage
