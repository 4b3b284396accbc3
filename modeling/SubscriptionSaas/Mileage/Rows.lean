import SubscriptionSaas.Finance.Db
import SubscriptionSaas.Lib.Results
import SubscriptionSaas.Lib.Tables
import SubscriptionSaas.Mileage.Calendar

/-!
# The rows of an order's mileage

One order with its entitlement accounts, grants and usages, its mileage reviews, its over-mileage
bills, and the mileage readings of its vehicle. A row is named by its place in its table; the tables
grow at the end, so a later row is a younger one. Amounts of entitlements are decimals with two places
and are kept in hundredths. Columns that no modelled function reads are left out.
-/

namespace SubscriptionSaas.Mileage

open Finance (OrderStatus BillType BillStatus)

/-! ## Failures -/

inductive ErrorKind
  | badRequest | conflict | notFound | range
  deriving DecidableEq

structure Failure where
  kind : ErrorKind
  message : String
  deriving DecidableEq

def badRequest (message : String) : Failure := ⟨.badRequest, message⟩

def conflict (message : String) : Failure := ⟨.conflict, message⟩

def notFound (message : String) : Failure := ⟨.notFound, message⟩

/-- A row that was looked for, or the failure. -/
def found {α : Type} (row : Option α) (failure : Failure) : Except Failure α :=
  match row with
  | some a => .ok a
  | none => .error failure

/-! ## Entitlements -/

inductive EntitlementType
  | mileage | energy | benefit
  deriving DecidableEq

inductive EntitlementUnit
  | km | kwh | times | item | text
  deriving DecidableEq

inductive EntitlementGrantSource
  | orderStart | monthlyRenewal | manualAdjust
  deriving DecidableEq

inductive EntitlementGrantStatus
  | active | exhausted | expired | cancelled
  deriving DecidableEq

inductive EntitlementAccountStatus
  | active | suspended | closed
  deriving DecidableEq

inductive EntitlementUsageStatus
  | confirmed | cancelled
  deriving DecidableEq

/-- `order_entitlement_account`. -/
structure Account where
  accountStatus : EntitlementAccountStatus
  periodStart : Int
  periodEnd : Option Int
  deletedAt : Option Int := none
  deriving DecidableEq

/-- What a component of a package grants. -/
structure GrantInput where
  entitlementName : String
  entitlementType : EntitlementType
  remainingAmount : Option Int
  totalAmount : Option Int
  unit : EntitlementUnit
  usedAmount : Option Int
  deriving DecidableEq

/-- `order_entitlement_grant`. -/
structure Grant extends GrantInput where
  accountId : Nat
  grantSource : EntitlementGrantSource
  grantPeriodStart : Int
  grantPeriodEnd : Option Int
  status : EntitlementGrantStatus
  deletedAt : Option Int := none
  deriving DecidableEq

/-- `order_entitlement_usage`. -/
structure Usage where
  grantId : Nat
  usedAmount : Int
  externalRefNo : Option String
  usageStatus : EntitlementUsageStatus
  deletedAt : Option Int := none
  deriving DecidableEq

structure BenefitPackage where
  name : String
  benefitCount : Option Int
  deriving DecidableEq

/-- The normalized snapshot of a package, with the numbers that `numberField` reads from it. -/
structure PackageSnapshot where
  monthlyMileageKm : Option Int
  monthlyEnergyKwh : Option Int
  monthlyEnergyCount : Option Int
  benefitPackage : Option BenefitPackage
  deriving DecidableEq

/-! ## Orders, readings and bills -/

/-- `subscription_order`. -/
structure Order where
  /-- The order belongs to a subscription journey. -/
  journey : Bool
  orderStatus : OrderStatus
  actualDeliveryAt : Option Int
  startDate : Option Int
  customerConfirmedAt : Option Int
  finalPlanConfirmedAt : Option Int
  createdAt : Int
  periodMonths : Int
  mileageLimitKm : Nat
  overMileageFeeAmount : Int
  /-- `resolveSourceSnapshot`, when the order has a package. -/
  packageSnapshot : Option PackageSnapshot
  deletedAt : Option Int
  deriving DecidableEq

inductive VehicleMileageSourceType
  | vehicleInitialization | legacyMigration | deliveryBaseline | monthlyReview
  | returnConfirmation | manualCorrection
  deriving DecidableEq

inductive VehicleMileageReadingStatus
  | active | voided
  deriving DecidableEq

/-- `vehicle_mileage_reading`; all are readings of the order's vehicle. -/
structure Reading where
  /-- The reading belongs to this order. -/
  ofOrder : Bool
  sourceType : VehicleMileageSourceType
  sourceRecordId : String
  recordedAt : Int
  mileageKm : Int
  previousReadingId : Option Nat
  deltaKm : Int
  status : VehicleMileageReadingStatus
  voidedAt : Option Int := none
  deriving DecidableEq

structure Vehicle where
  currentMileageKm : Int
  deletedAt : Option Int
  deriving DecidableEq

/-- `receivable_bill`, of this order. -/
structure Bill where
  billType : BillType
  sourceKey : String
  amount : Int
  billPeriodStart : Int
  billPeriodEnd : Int
  billStatus : BillStatus
  dueDate : Int
  paidAmount : Int
  remainingAmount : Int
  cancelledAt : Option Int := none
  deriving DecidableEq

/-! ## Reviews -/

inductive ReviewStatus
  | scheduled | pendingSubmission | pendingReview | returned | confirmed | voided
  deriving DecidableEq

/-- `order_mileage_review_evidence`. -/
structure Evidence where
  mimeType : Option String
  deletedAt : Option Int := none
  deriving DecidableEq

/-- `calculationSnapshot.confirmation`. -/
structure Confirmation where
  confirmedAt : Int
  confirmedBy : Nat
  idempotencyKey : String
  deriving DecidableEq

structure MileageSettlement where
  actualUsageKm : Int
  consumedAllowanceKm : Int
  unusedAllowanceKm : Int
  overMileageKm : Int
  overMileageAmount : Int
  deriving DecidableEq

/-- `order_mileage_review`; `confirmation` and `settlement` are parts of its calculation snapshot. -/
structure Review where
  cycleNo : Int
  version : Nat
  periodStart : Int
  periodEnd : Int
  scheduledReviewAt : Int
  dueAt : Int
  status : ReviewStatus
  baselineReadingId : Nat
  baselineMileageKm : Int
  submittedMileageKm : Option Int := none
  readingAt : Option Int := none
  evidence : List Evidence := []
  allowanceKm : Option Int := none
  mileageReadingId : Option Nat := none
  entitlementGrantId : Option Nat := none
  entitlementUsageId : Option Nat := none
  overMileageBillId : Option Nat := none
  confirmation : Option Confirmation := none
  settlement : Option MileageSettlement := none
  lockVersion : Nat := 0
  voidedAt : Option Int := none
  deletedAt : Option Int := none
  deriving DecidableEq

/-- The rows of one order. -/
structure Db where
  order : Order
  accounts : List Account
  grants : List Grant
  usages : List Usage
  bills : List Bill
  vehicle : Vehicle
  readings : List Reading
  reviews : List Review
  deriving DecidableEq

/-! ## Lookups -/

/-- The oldest row with the property, with its place. -/
def findFirst {α : Type} (p : α → Bool) (rows : List α) : Option (α × Nat) :=
  rows.zipIdx.find? fun row => p row.1

/-- The youngest row with the property, with its place. -/
def findLast {α : Type} (p : α → Bool) (rows : List α) : Option (α × Nat) :=
  (rows.zipIdx.filter fun row => p row.1).getLast?

end SubscriptionSaas.Mileage
