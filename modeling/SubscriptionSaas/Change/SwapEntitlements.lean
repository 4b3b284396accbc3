import SubscriptionSaas.Lib.Tables
import SubscriptionSaas.Mileage.Entitlements

/-!
# The entitlements of a vehicle swap

`replaceFutureGrantsForVehicleSwap`: the active grants of the order's account that begin on the day of
the swap or later are grouped by their first days, and those of a first day give way to the grants of the
target plan, unless one of them has been used. A grant or an account is named by its place in its table.
-/

namespace SubscriptionSaas.Change.SwapEntitlements

open Billing (Id)
open Mileage Results Tables

/-! ## Rows -/

/-- The part of the snapshot that a grant of a swap has beside what it grants. -/
structure SwapSource where
  sourceChangeOrderId : Id
  targetVehicleId : Id
  deriving DecidableEq

/-- `order_entitlement_grant`, with the change order that its remark names once it is superseded. -/
structure SwapGrant extends Mileage.Grant where
  orderId : Id
  customerId : Id
  supersededBy : Option Id := none
  source : Option SwapSource := none
  updatedBy : Option Id := none
  deriving DecidableEq

/-- An entry of `vehicleSwapHistory`. -/
structure SwapHistoryEntry where
  changeOrderId : Id
  effectiveDate : Int
  targetVehicleId : Id
  deriving DecidableEq

/-- `order_entitlement_account`, in the order of creation. -/
structure SwapAccount extends Mileage.Account where
  orderId : Id
  customerId : Id
  subscriptionPlanId : Option Id := none
  packageSnapshot : Option PackageSnapshot := none
  vehicleSwapHistory : List SwapHistoryEntry := []
  updatedBy : Option Id := none
  deriving DecidableEq

structure Db where
  accounts : List SwapAccount
  grants : List SwapGrant
  usages : List Mileage.Usage
  deriving DecidableEq

structure SwapInput where
  actorId : Option Id
  changeOrderId : Id
  effectiveDate : Int
  orderId : Id
  planSnapshot : PackageSnapshot
  subscriptionPlanId : Option Id
  targetVehicleId : Id
  deriving DecidableEq

structure SwapOutcome where
  cancelled : Nat
  created : Nat
  preservedPeriods : Nat
  deriving DecidableEq

/-! ## The future periods -/

def accountOf (orderId : Id) (account : SwapAccount) : Bool :=
  account.orderId == orderId && account.deletedAt.isNone

/-- A live grant of the account that begins on the day or later. -/
def isFuture (accountId : Id) (day : Int) (grant : SwapGrant) : Bool :=
  Mileage.futureGrant accountId day grant.toGrant

/-- The grant has a confirmed usage. -/
def Db.isUsed (db : Db) (grantId : Id) : Bool :=
  db.usages.any fun usage => usage.grantId == grantId && usage.usageStatus == .confirmed

/-- By their first days, and those of one first day by their places. -/
def Db.futureGrants (db : Db) (accountId : Id) (day : Int) : List (SwapGrant × Id) :=
  (numbered (isFuture accountId day) db.grants).insertionSort
    fun row row' => row.1.grantPeriodStart ≤ row'.1.grantPeriodStart

/-- An entry of the map `periods`. -/
structure FuturePeriod where
  start : Int
  periodEnd : Option Int
  ids : List Id
  hasUsage : Bool
  deriving DecidableEq

/-- `period.grants.push(grant)` and `period.hasUsage ||= …`. -/
def FuturePeriod.push (period : FuturePeriod) (grantId : Id) (used : Bool) : FuturePeriod :=
  { period with ids := period.ids ++ [grantId], hasUsage := period.hasUsage || used }

/-- The body of the loop that fills the map. The first grant of a period gives its last day. -/
def Db.addToPeriod (db : Db) (periods : List FuturePeriod) (row : SwapGrant × Id) : List FuturePeriod :=
  let (grant, id) := row
  if periods.any (·.start == grant.grantPeriodStart) then
    periods.map fun period =>
      if period.start = grant.grantPeriodStart then period.push id (db.isUsed id) else period
  else periods ++ [⟨grant.grantPeriodStart, grant.grantPeriodEnd, [id], db.isUsed id⟩]

def Db.periods (db : Db) (accountId : Id) (day : Int) : List FuturePeriod :=
  (db.futureGrants accountId day).foldl db.addToPeriod []

/-! ## The replacement -/

def supersede (input : SwapInput) (grant : SwapGrant) : SwapGrant :=
  { grant with
    status := .cancelled
    supersededBy := some input.changeOrderId
    updatedBy := input.actorId }

/-- The rows that the update of a period selects. -/
def selected (ids : List Id) (id : Id) (grant : SwapGrant) : Bool :=
  ids.contains id && grant.status == .active

def supersedeGrants (input : SwapInput) (ids : List Id) (grants : List SwapGrant) : List SwapGrant :=
  grants.mapIdx fun id grant => if selected ids id grant then supersede input grant else grant

/-- The grant of the target plan for a period. -/
def swapGrant (input : SwapInput) (accountId customerId : Id) (start : Int) (periodEnd : Option Int)
    (target : GrantInput) : SwapGrant :=
  { grantOf target accountId .monthlyRenewal start periodEnd with
    orderId := input.orderId
    customerId := customerId
    source := some ⟨input.changeOrderId, input.targetVehicleId⟩
    updatedBy := input.actorId }

/-- The body of the loop over the periods, with the numbers of cancelled and of created grants. -/
def replacePeriod (input : SwapInput) (accountId customerId : Id) (targets : List GrantInput)
    (state : List SwapGrant × Nat × Nat) (period : FuturePeriod) : List SwapGrant × Nat × Nat :=
  let (grants, cancelled, created) := state
  if period.hasUsage then (grants, cancelled, created)
  else
    (supersedeGrants input period.ids grants ++
        targets.map (swapGrant input accountId customerId period.start period.periodEnd),
      cancelled + (grants.zipIdx.filter fun row => selected period.ids row.2 row.1).length,
      created + targets.length)

/-- The account that the swap updates. -/
def recordSwap (input : SwapInput) (account : SwapAccount) : SwapAccount :=
  { account with
    packageSnapshot := some input.planSnapshot
    vehicleSwapHistory := account.vehicleSwapHistory ++
      [⟨input.changeOrderId, toBusinessDate input.effectiveDate, input.targetVehicleId⟩]
    subscriptionPlanId := input.subscriptionPlanId
    updatedBy := input.actorId }

def replaceFutureGrantsForVehicleSwap (db : Db) (input : SwapInput) :
    Except Failure (Db × SwapOutcome) := do
  let (account, accountId) ← found (findLast (accountOf input.orderId) db.accounts)
    (badRequest "The active order entitlement account was not found.")
  let periods := db.periods accountId (toBusinessDate input.effectiveDate)
  let targets := buildGrantInputs input.planSnapshot
  require (!targets.isEmpty)
    (badRequest "The vehicle-swap plan snapshot has no entitlement components.")
  let (grants, cancelled, created) :=
    periods.foldl (replacePeriod input accountId account.customerId targets) (db.grants, 0, 0)
  .ok ({ db with grants := grants, accounts := db.accounts.modify accountId (recordSwap input) },
    ⟨cancelled, created, (periods.filter (·.hasUsage)).length⟩)

/-! ## What a swap is to preserve -/

/-- The first and the last day of a grant. -/
def SwapGrant.period (grant : SwapGrant) : Int × Option Int :=
  (grant.grantPeriodStart, grant.grantPeriodEnd)

/-- A grant of the account in the period, whatever has become of it. -/
def ofPeriod (accountId : Id) (period : Int × Option Int) (grant : SwapGrant) : Bool :=
  grant.accountId == accountId && grant.deletedAt.isNone && grant.period == period

def liveIn (accountId : Id) (period : Int × Option Int) (grant : SwapGrant) : Bool :=
  ofPeriod accountId period grant && grant.status == .active

/-- A grant of the period has a confirmed usage. -/
def Db.hasUsage (db : Db) (accountId : Id) (period : Int × Option Int) : Bool :=
  (numbered (ofPeriod accountId period) db.grants).any fun row => db.isUsed row.2

/-- The swap keeps the periods that are used and replaces the others: in them live exactly the grants of
the target, all of them new. -/
structure PreservesUsed (input : SwapInput) (accountId customerId : Id) (day : Int) (db db' : Db) :
    Prop where
  kept : ∀ period, day ≤ period.1 → db.hasUsage accountId period →
    numbered (ofPeriod accountId period) db'.grants = numbered (ofPeriod accountId period) db.grants
  replaced : ∀ period, day ≤ period.1 → (∃ grant ∈ db.grants, liveIn accountId period grant) →
    db.hasUsage accountId period = false →
      (numbered (liveIn accountId period) db'.grants).map (·.1) =
          (buildGrantInputs input.planSnapshot).map
            (swapGrant input accountId customerId period.1 period.2) ∧
        ∀ row ∈ numbered (liveIn accountId period) db'.grants, db.grants.length ≤ row.2
  covered : ∀ period, day ≤ period.1 → (∃ grant ∈ db.grants, liveIn accountId period grant) →
    ∃ grant ∈ db'.grants, liveIn accountId period grant
  unmixed : ∀ period, day ≤ period.1 →
    (∀ row ∈ numbered (liveIn accountId period) db'.grants, row.2 < db.grants.length) ∨
      ∀ row ∈ numbered (liveIn accountId period) db'.grants, db.grants.length ≤ row.2

/-- The live future grants that begin with this one. -/
def Db.beginningWith (db : Db) (accountId : Id) (day : Int) (grant : SwapGrant) :
    List (SwapGrant × Id) :=
  numbered (fun grant' => isFuture accountId day grant' &&
    grant'.grantPeriodStart == grant.grantPeriodStart) db.grants

/-- The live grants of each future first day show the usage of their periods: a live one has been used
and each is of a used period, or they are of one period and that is not used. -/
def Db.ShowsUsage (db : Db) (accountId : Id) (day : Int) : Prop :=
  ∀ grant ∈ db.grants.filter (isFuture accountId day),
    ((∃ row ∈ db.beginningWith accountId day grant, db.isUsed row.2) ∧
        ∀ row ∈ db.beginningWith accountId day grant, db.hasUsage accountId row.1.period) ∨
      ∀ row ∈ db.beginningWith accountId day grant,
        row.1.period = grant.period ∧ db.hasUsage accountId row.1.period = false

instance (db : Db) (accountId : Id) (day : Int) : Decidable (db.ShowsUsage accountId day) := by
  unfold Db.ShowsUsage
  infer_instance

end SubscriptionSaas.Change.SwapEntitlements
