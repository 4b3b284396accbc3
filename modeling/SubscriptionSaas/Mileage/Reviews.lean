import SubscriptionSaas.Mileage.Settlement

/-!
# The life of mileage reviews

The delivery of an order creates the review of its first cycle. A review becomes due, is filled in by
the customer or by an operator, is submitted, and is confirmed or returned. A step is one call of a
service; a call that fails leaves the rows as they are.

The checks that a service makes before its transaction are made here within it. They concern columns
that do not change, or that stay filled once they are; the evidence is read from a storage, whose
answer is an argument of the call.
-/

namespace SubscriptionSaas.Mileage

open Results
open Finance (OrderStatus)

/-! ## Delivery -/

/-- `createFirstReview`, an upsert that keeps a review which is there already. -/
def createFirstReview (db : Db) (actualDeliveryAt : Int) (deliveryReadingId : Nat) :
    Except Failure Db := do
  let invalid := badRequest "Delivery baseline mileage reading is invalid."
  let baseline ← found db.readings[deliveryReadingId]? invalid
  require (baseline.status == .active && baseline.sourceType == .deliveryBaseline &&
    baseline.ofOrder) invalid
  let cycle ← (buildMileageReviewCycle actualDeliveryAt 1).mapError (rangeError ·.message)
  if db.reviews.any fun review => review.cycleNo == 1 && review.version == 1 then .ok db
  else .ok { db with
    reviews := db.reviews ++
      [{ cycleNo := 1
         version := 1
         periodStart := cycle.periodStart
         periodEnd := cycle.periodEnd
         scheduledReviewAt := cycle.scheduledReviewAt
         dueAt := cycle.dueAt
         status := .scheduled
         baselineReadingId := deliveryReadingId
         baselineMileageKm := baseline.mileageKm }] }

structure Delivery where
  deliveredAt : Int
  handoverMileageKm : Int
  deliveryId : String
  deriving DecidableEq

/-- The reading and the review that a delivery begins with. -/
def recordDelivery (db : Db) (input : Delivery) : Except Failure Db := do
  let (readingId, db) ← appendConfirmedReading db
    { ofOrder := true
      sourceType := .deliveryBaseline
      sourceRecordId := input.deliveryId
      recordedAt := input.deliveredAt
      mileageKm := input.handoverMileageKm }
  createFirstReview db input.deliveredAt readingId

/-- An order is delivered once: by then it waits for its delivery. -/
def assertDeliverable (db : Db) : Except Failure Unit :=
  require (db.order.actualDeliveryAt.isNone && db.order.orderStatus != .active)
    (badRequest "DELIVERY_NOT_READY")

/-- `confirmDelivery` without a lease activation engine; the entitlements of the order are generated
afterwards. -/
def confirmDeliveryLegacy (db : Db) (input : Delivery) : Except Failure Db := do
  assertDeliverable db
  require (!db.order.journey)
    (badRequest "JOURNEY_MANAGED_DELIVERY_REQUIRES_AUDITED_RECOVERY")
  let db ← recordDelivery db input
  .ok { db with
    order := { db.order with
      actualDeliveryAt := some input.deliveredAt
      orderStatus := .active } }

/-- `activateFromAuthoritativeHandover`. -/
def activateFromAuthoritativeHandover (db : Db) (input : Delivery) : Except Failure Db := do
  assertDeliverable db
  let db ← recordDelivery db input
  let db ← ensureInitialEntitlements { db with
    order := { db.order with
      actualDeliveryAt := some input.deliveredAt
      startDate := some (Billing.toBillingBusinessDate input.deliveredAt)
      orderStatus := .active } }
  .ok (activateAccounts db)

/-- The job of a journey that prepares the entitlements together with the order, once. -/
def prepareOrder (db : Db) : Except Failure Db := do
  require (db.order.journey && db.accounts.isEmpty && db.order.actualDeliveryAt.isNone)
    (conflict "JOB_ALREADY_DONE")
  ensureInitialEntitlements db

/-! ## Filling in and submitting -/

def editable (status : ReviewStatus) : Bool :=
  status == .pendingSubmission || status == .returned

def assertEditableReview (review : Review) : Except Failure Unit :=
  require (editable review.status)
    (badRequest "Mileage review is not editable in its current status.")

/-- `updateReviewGuard`; the portal also requires an active order. -/
def updateReview (db : Db) (reviewId : Nat) (expectedLockVersion : Int) (portal : Bool)
    (expected : ReviewStatus → Bool) (data : Review → Review) : Except Failure Db := do
  let changed := conflict "Mileage review was changed by another request."
  let review ← found db.reviews[reviewId]? changed
  require (review.deletedAt.isNone && (review.lockVersion : Int) == expectedLockVersion &&
    (!portal || db.order.orderStatus == .active) && expected review.status) changed
  .ok { db with
    reviews := db.reviews.modify reviewId fun review =>
      { data review with lockVersion := review.lockVersion + 1 } }

structure Draft where
  reviewId : Nat
  lockVersion : Int
  portal : Bool
  readingAt : Int
  submittedMileageKm : Int
  now : Int
  deriving DecidableEq

/-- `saveCustomerDraft` and `saveAdminDraft`. -/
def saveDraft (db : Db) (dto : Draft) : Except Failure Db := do
  let review ← findReview db dto.reviewId
  assertEditableReview review
  require (isSafeInteger dto.submittedMileageKm &&
    review.baselineMileageKm ≤ dto.submittedMileageKm)
    (badRequest "Submitted mileage cannot be lower than the confirmed baseline.")
  assertMileageReviewTimestamp db review dto.readingAt dto.now
  updateReview db dto.reviewId dto.lockVersion dto.portal editable fun review =>
    { review with
      readingAt := some dto.readingAt
      submittedMileageKm := some dto.submittedMileageKm }

/-- Evidence is attached or, by its place, removed. -/
inductive EvidenceChange
  | attach (mimeType : Option String)
  | remove (evidenceId : Nat) (deletedAt : Int)
  deriving DecidableEq

def changeEvidence (db : Db) (reviewId : Nat) (lockVersion : Int) (portal : Bool)
    (change : EvidenceChange) : Except Failure Db := do
  let review ← findReview db reviewId
  assertEditableReview review
  match change with
  | .attach mimeType => do
    require (isSupportedRasterMimeType mimeType)
      (badRequest "Mileage review evidence must be a JPEG, PNG, or WebP image.")
    updateReview db reviewId lockVersion portal editable fun review =>
      { review with evidence := review.evidence ++ [{ mimeType := mimeType }] }
  | .remove evidenceId deletedAt => do
    require (review.evidence[evidenceId]?.any (·.deletedAt.isNone))
      (conflict "Mileage review evidence is missing or already removed.")
    updateReview db reviewId lockVersion portal editable fun review =>
      { review with
        evidence := review.evidence.modify evidenceId ({ · with deletedAt := some deletedAt }) }

/-- `submitCustomerReview` and `submitReview`. -/
def submitReview (db : Db) (reviewId : Nat) (lockVersion : Int) (portal readable : Bool) :
    Except Failure Db := do
  let review ← findReview db reviewId
  assertEditableReview review
  require (review.submittedMileageKm.isSome && review.readingAt.isSome)
    (badRequest "Mileage and reading time must be saved before submission.")
  require readable (badRequest "At least one readable image evidence file is required.")
  updateReview db reviewId lockVersion portal editable fun review =>
    { review with status := .pendingReview }

def returnReview (db : Db) (reviewId : Nat) (lockVersion : Int) (reason : String) :
    Except Failure Db := do
  require (Texts.trim reason != "") (badRequest "Return reason is required.")
  updateReview db reviewId lockVersion false (· == .pendingReview) fun review =>
    { review with status := .returned }

def activateDueReviews (db : Db) (asOf : Int) : Db :=
  { db with reviews := db.reviews.map fun review =>
      if review.deletedAt.isNone && review.scheduledReviewAt ≤ asOf && review.status == .scheduled
      then { review with lockVersion := review.lockVersion + 1, status := .pendingSubmission }
      else review }

/-! ## Runs -/

/-- A call of one of the services. The last ones belong to other services: the status and the term of
an order change, its bills are paid, and its vehicle is read on other occasions. -/
inductive Call
  | prepareOrder
  | confirmDeliveryLegacy (input : Delivery)
  | activateFromAuthoritativeHandover (input : Delivery)
  | generateOrderEntitlements
  | createMonthlyRenewalGrants (asOfDate : Int) (grantInputs : List GrantInput)
  | expireEntitlements (asOfDate : Int)
  | consumeOrderEntitlement (input : ConsumeEntitlement)
  | activateVehicleSwap (sourceSegment : Int × Int) (effectiveDate : Int)
      (targetGrants : List GrantInput)
  | activateDueReviews (asOf : Int)
  | saveDraft (dto : Draft)
  | changeEvidence (reviewId : Nat) (lockVersion : Int) (portal : Bool) (change : EvidenceChange)
  | submitReview (reviewId : Nat) (lockVersion : Int) (portal readable : Bool)
  | returnReview (reviewId : Nat) (lockVersion : Int) (reason : String)
  | settleReview (input : SettleMileageReview)
  | voidAndReopenReview (input : VoidMileageReview)
  | setOrderStatus (status : OrderStatus)
  | setPeriodMonths (months : Int)
  | setBill (billId : Nat) (bill : Bill)
  | appendReading (input : AppendReading)
  deriving DecidableEq

def Db.call (db : Db) : Call → Except Failure Db
  | .prepareOrder => Mileage.prepareOrder db
  | .confirmDeliveryLegacy input => Mileage.confirmDeliveryLegacy db input
  | .activateFromAuthoritativeHandover input => Mileage.activateFromAuthoritativeHandover db input
  | .generateOrderEntitlements => Mileage.generateOrderEntitlements db
  | .createMonthlyRenewalGrants asOfDate inputs =>
    Mileage.createMonthlyRenewalGrants db asOfDate inputs
  | .expireEntitlements asOfDate => .ok (Mileage.expireEntitlements db asOfDate)
  | .consumeOrderEntitlement input => Mileage.consumeOrderEntitlement db input
  | .activateVehicleSwap source effectiveDate targetGrants =>
    Mileage.activateVehicleSwap db source effectiveDate targetGrants
  | .activateDueReviews asOf => .ok (Mileage.activateDueReviews db asOf)
  | .saveDraft dto => Mileage.saveDraft db dto
  | .changeEvidence reviewId lockVersion portal change =>
    Mileage.changeEvidence db reviewId lockVersion portal change
  | .submitReview reviewId lockVersion portal readable =>
    Mileage.submitReview db reviewId lockVersion portal readable
  | .returnReview reviewId lockVersion reason =>
    Mileage.returnReview db reviewId lockVersion reason
  | .settleReview input => Mileage.settleReview db input
  | .voidAndReopenReview input => Mileage.voidAndReopenReview db input
  | .setOrderStatus status => .ok { db with order := { db.order with orderStatus := status } }
  | .setPeriodMonths months => .ok { db with order := { db.order with periodMonths := months } }
  | .setBill billId bill => .ok { db with bills := db.bills.set billId bill }
  | .appendReading input => (appendConfirmedReading db input).map (·.2)

def Db.step (db : Db) (call : Call) : Db :=
  match db.call call with
  | .ok db' => db'
  | .error _ => db

/-- The rows of an order that has just been created. -/
def Db.created (order : Order) (vehicle : Vehicle) (readings : List Reading) : Db :=
  { order := { order with actualDeliveryAt := none }
    accounts := []
    grants := []
    usages := []
    bills := []
    vehicle := vehicle
    readings := readings
    reviews := [] }

end SubscriptionSaas.Mileage
