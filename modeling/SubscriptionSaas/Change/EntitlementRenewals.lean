import SubscriptionSaas.Change.Rows
import SubscriptionSaas.Mileage.Entitlements
import SubscriptionSaas.Lib.Runs

/-!
# The entitlements of an extension

`renewEntitlements`, which grants for a period of an extension segment what its plan snapshot lists,
and the jobs that the activation of the segment enqueues for it. The entitlement account is locked from
before the grants are read, so that two renewals of an order follow each other. A segment or an account
is named by its place in its table.
-/

namespace SubscriptionSaas.Change.Renewals

open Billing Calendar Contract Mileage Results

/-! ## Rows -/

structure ExtensionSegment where
  orderId : Id
  customerId : Id
  startDate : Int
  endDate : Int
  status : SegmentStatus
  planSnapshot : PackageSnapshot
  deriving DecidableEq

/-- `order_entitlement_account`. -/
structure OrderAccount extends Mileage.Account where
  orderId : Id
  deriving DecidableEq

/-- `extension-entitlement:<order>:<segment>:<periodStart>:<identity>`. -/
structure IdempotencyKey where
  orderId : Id
  segmentId : Id
  periodStart : Int
  identity : String
  deriving DecidableEq

/-- `order_entitlement_grant`, with the idempotency key that the snapshot of a renewed one has. -/
structure OrderGrant extends Mileage.Grant where
  orderId : Id
  customerId : Id
  idempotencyKey : Option IdempotencyKey
  deriving DecidableEq

/-- No order has two active accounts, by a unique index. -/
structure Db where
  segments : List ExtensionSegment
  accounts : List OrderAccount
  grants : List OrderGrant
  deriving DecidableEq

/-! ## What a segment grants -/

def typeText : EntitlementType → String
  | .mileage => "MILEAGE"
  | .energy => "ENERGY"
  | .benefit => "BENEFIT"

def unitText : EntitlementUnit → String
  | .km => "KM"
  | .kwh => "KWH"
  | .times => "TIMES"
  | .item => "ITEM"
  | .text => "TEXT"

def grantIdentity (grant : GrantInput) : String :=
  typeText grant.entitlementType ++ ":" ++ unitText grant.unit

/-- `buildEntitlementGrantInputsFromSnapshot`, after the snapshot has been normalized. -/
def buildEntitlementGrantInputs (snapshot : PackageSnapshot) : List GrantInput :=
  positiveGrant "月里程额度" .mileage .km snapshot.monthlyMileageKm ++
    positiveGrant "月补能额度" .energy .kwh snapshot.monthlyEnergyKwh ++
    positiveGrant "月补能次数" .energy .times snapshot.monthlyEnergyCount ++
    (snapshot.benefitPackage.map benefitGrant).getD []

def entitlementIdempotencyKey (orderId segmentId : Id) (periodStart : Int) (grant : GrantInput) :
    IdempotencyKey :=
  ⟨orderId, segmentId, periodStart, grantIdentity grant⟩

/-- The last day of the period that begins on the day. -/
def renewalPeriodEnd (segment : ExtensionSegment) (periodStart : Int) : Int :=
  min (Contract.addDaysUtc (Contract.addMonthsClampedUtc periodStart 1) (-1)) segment.endDate

/-! ## The renewal -/

/-- The payload of a job. -/
structure Renewal where
  segmentId : Id
  periodStart : Int
  entitlementKey : Option String
  deriving DecidableEq

/-- The inputs that a renewal grants: all of the segment, or those with the requested key. -/
def Renewal.scope (renewal : Renewal) (segment : ExtensionSegment) : List GrantInput :=
  let all := buildEntitlementGrantInputs segment.planSnapshot
  match renewal.entitlementKey.filter (· != "") with
  | some key => all.filter fun grant => grantIdentity grant == key
  | none => all

def activeAccount (orderId : Id) (account : OrderAccount) : Bool :=
  account.accountStatus == .active && account.deletedAt.isNone && account.orderId == orderId

/-- A live grant of the account that has been renewed under the key. -/
def renewedUnder (accountId : Id) (key : IdempotencyKey) (grant : OrderGrant) : Bool :=
  grant.accountId == accountId && grant.deletedAt.isNone && grant.idempotencyKey == some key

def renewedGrant (segment : ExtensionSegment) (renewal : Renewal) (accountId : Id) (input : GrantInput) :
    OrderGrant :=
  { grantOf input accountId .monthlyRenewal renewal.periodStart
      (some (renewalPeriodEnd segment renewal.periodStart)) with
    orderId := segment.orderId
    customerId := segment.customerId
    idempotencyKey := some
      (entitlementIdempotencyKey segment.orderId renewal.segmentId renewal.periodStart input) }

/-- The body of the loop over the inputs, with the numbers of created and of existing grants. -/
def renewGrant (segment : ExtensionSegment) (renewal : Renewal) (accountId : Id)
    (state : List OrderGrant × Nat × Nat) (input : GrantInput) : List OrderGrant × Nat × Nat :=
  let (grants, created, existing) := state
  if grants.any (renewedUnder accountId
      (entitlementIdempotencyKey segment.orderId renewal.segmentId renewal.periodStart input)) then
    (grants, created, existing + 1)
  else (grants ++ [renewedGrant segment renewal accountId input], created + 1, existing)

def extendAccount (endDate : Int) (account : OrderAccount) : OrderAccount :=
  if account.periodEnd.all (· < endDate) then { account with periodEnd := some endDate } else account

def renewEntitlements (db : Db) (renewal : Renewal) : Except ChangeError (Db × Nat × Nat) := do
  let some segment := db.segments[renewal.segmentId]?.filter (·.status == .active)
    | .error ⟨"EXTENSION_ENTITLEMENT_SEGMENT_INACTIVE",
        "An active extension segment is required for entitlement renewal."⟩
  require (segment.startDate ≤ renewal.periodStart ∧ renewal.periodStart ≤ segment.endDate)
    ⟨"EXTENSION_ENTITLEMENT_PERIOD_INVALID",
      "The entitlement period is outside the extension segment."⟩
  let some (_, accountId) := findFirst (activeAccount segment.orderId) db.accounts
    | .error ⟨"EXTENSION_ENTITLEMENT_ACCOUNT_MISSING",
        "An active entitlement account is required for extension renewal."⟩
  require (db.accounts[accountId]?.any (·.accountStatus == .active))
    ⟨"EXTENSION_ENTITLEMENT_ACCOUNT_INACTIVE", "The entitlement account is no longer active."⟩
  let inputs := renewal.scope segment
  require ((renewal.entitlementKey.filter (· != "")).isNone || !inputs.isEmpty)
    ⟨"EXTENSION_ENTITLEMENT_TYPE_MISSING",
      "The requested entitlement is absent from the extension segment snapshot."⟩
  let (grants, created, existing) :=
    inputs.foldl (renewGrant segment renewal accountId) (db.grants, 0, 0)
  .ok ({ db with
      grants := grants
      accounts := db.accounts.modify accountId (extendAccount segment.endDate) }, created, existing)

/-! ## The jobs of the activation -/

/-- The renewals that `enqueueContinuationJobs` asks for. The identities are of capitals and colons, on
which `localeCompare` agrees with the order of the code units. -/
def continuationRenewals (segmentId : Id) (segment : ExtensionSegment) : List Renewal :=
  let identities := ((buildEntitlementGrantInputs segment.planSnapshot).map grantIdentity).insertionSort
    (· ≤ ·)
  if identities = [] then [⟨segmentId, segment.startDate, none⟩]
  else identities.map fun identity => ⟨segmentId, segment.startDate, some identity⟩

/-! ## Runs -/

/-- A renewal that is committed or rejected, one that fails before it is committed, or a use of a
grant. -/
inductive Event
  | renew (renewal : Renewal)
  | abort (renewal : Renewal)
  | use (grantId : Id) (usedAmount remainingAmount : Option Int) (status : EntitlementGrantStatus)

def recordUse (usedAmount remainingAmount : Option Int) (status : EntitlementGrantStatus)
    (grant : OrderGrant) : OrderGrant :=
  { grant with usedAmount := usedAmount, remainingAmount := remainingAmount, status := status }

def step (db : Db) : Event → Db
  | .renew renewal =>
    match renewEntitlements db renewal with
    | .ok (db', _) => db'
    | .error _ => db
  | .abort _ => db
  | .use grantId usedAmount remainingAmount status =>
    { db with grants := db.grants.modify grantId (recordUse usedAmount remainingAmount status) }

/-- The live grants that renewals have made for an entitlement in a period of a segment. -/
def Db.renewed (db : Db) (segmentId : Id) (periodStart : Int) (type : EntitlementType)
    (unit : EntitlementUnit) : List OrderGrant :=
  db.grants.filter fun grant => grant.deletedAt.isNone &&
    grant.idempotencyKey.any (·.segmentId == segmentId) && grant.grantPeriodStart == periodStart &&
    grant.entitlementType == type && grant.unit == unit

/-- The first days of the periods of a segment, each after the last day of the one before it. -/
def periodStarts (segment : ExtensionSegment) : Nat → Int
  | 0 => segment.startDate
  | k + 1 => Contract.addMonthsClampedUtc (periodStarts segment k) 1

end SubscriptionSaas.Change.Renewals
