import SubscriptionSaas.Billing.Calendar
import SubscriptionSaas.Mileage.Rows

/-!
# Order entitlements

The grants of an order: those of its first month, which are made when the order is prepared and moved
to the month of the delivery when it is delivered, those of the later months, their consumption and
expiry, and their replacement when the vehicle is swapped.

The components of a package in a later month come from the snapshots of the order's contract segments
and are an argument here.
-/

namespace SubscriptionSaas.Mileage

open Results Billing

/-! ## What a package grants -/

def amountGrant (name : String) (type : EntitlementType) (unit : EntitlementUnit) (amount : Int) :
    GrantInput :=
  { entitlementName := name
    entitlementType := type
    remainingAmount := some amount
    totalAmount := some amount
    unit := unit
    usedAmount := some 0 }

/-- The grant of a component, when its number is there and positive. -/
def positiveGrant (name : String) (type : EntitlementType) (unit : EntitlementUnit)
    (amount : Option Int) : List GrantInput :=
  ((amount.filter (0 < ·)).map (amountGrant name type unit)).toList

def benefitGrant (benefit : BenefitPackage) : List GrantInput :=
  let name := String.ofList (benefit.name.toList.take 128)
  match benefit.benefitCount.filter (0 < ·) with
  | some count => [amountGrant name .benefit .times count]
  | none => [⟨name, .benefit, none, none, .text, none⟩]

def buildGrantInputs (snapshot : PackageSnapshot) : List GrantInput :=
  positiveGrant "Monthly mileage allowance" .mileage .km snapshot.monthlyMileageKm ++
    positiveGrant "Monthly energy allowance" .energy .kwh snapshot.monthlyEnergyKwh ++
    positiveGrant "Monthly energy service count" .energy .times snapshot.monthlyEnergyCount ++
    (snapshot.benefitPackage.map benefitGrant).getD []

/-- The grant that a component becomes. -/
def grantOf (input : GrantInput) (accountId : Nat) (source : EntitlementGrantSource)
    (periodStart : Int) (periodEnd : Option Int) : Grant :=
  { input with
    accountId := accountId
    grantSource := source
    grantPeriodStart := periodStart
    grantPeriodEnd := periodEnd
    status := .active }

/-! ## The first month -/

def orderStartAt (order : Order) : Int :=
  ((order.actualDeliveryAt <|> order.startDate) <|>
    (order.customerConfirmedAt <|> order.finalPlanConfirmedAt)).getD order.createdAt

def liveAccount (account : Account) : Bool := account.deletedAt.isNone

def orderStartGrant (accountId : Nat) (grant : Grant) : Bool :=
  grant.accountId == accountId && grant.deletedAt.isNone && grant.grantSource == .orderStart

/-- The order's account. One that was prepared before the delivery follows the delivery. -/
def ensureAccount (db : Db) (periodStart periodEnd : Int) : Nat × Db :=
  match findLast liveAccount db.accounts with
  | none =>
    (db.accounts.length, { db with
      accounts := db.accounts ++ [{ accountStatus := .suspended, periodStart := periodStart,
                                    periodEnd := some periodEnd }] })
  | some (account, id) =>
    if db.order.actualDeliveryAt.isSome && account.accountStatus == .suspended &&
        (account.periodStart != periodStart || account.periodEnd != some periodEnd) then
      (id, { db with
        accounts := db.accounts.modify id fun account =>
          { account with periodStart := periodStart, periodEnd := some periodEnd }
        grants := db.grants.map fun grant =>
          if orderStartGrant id grant then
            { grant with grantPeriodEnd := some periodEnd, grantPeriodStart := periodStart }
          else grant })
    else (id, db)

/-- The grant of the first month for this component. -/
def sameGrant (accountId : Nat) (periodStart : Int) (input : GrantInput) (grant : Grant) : Bool :=
  orderStartGrant accountId grant && grant.entitlementName == input.entitlementName &&
    grant.entitlementType == input.entitlementType && grant.grantPeriodStart == periodStart &&
    grant.unit == input.unit

def ensureGrant (accountId : Nat) (periodStart periodEnd : Int) (db : Db) (input : GrantInput) :
    Db :=
  if db.grants.any (sameGrant accountId periodStart input) then db
  else { db with
    grants := db.grants ++ [grantOf input accountId .orderStart periodStart (some periodEnd)] }

def ensureInitialEntitlements (db : Db) : Except Failure Db := do
  require db.order.deletedAt.isNone (badRequest "The entitlement order was not found.")
  let snapshot ← found db.order.packageSnapshot
    (badRequest "The order is missing its package snapshot.")
  let grants := buildGrantInputs snapshot
  require (!grants.isEmpty)
    (badRequest "The order package snapshot has no entitlement components.")
  let (periodStart, periodEnd) := orderStartPeriod (orderStartAt db.order)
  let (accountId, db) := ensureAccount db periodStart periodEnd
  .ok (grants.foldl (ensureGrant accountId periodStart periodEnd) db)

/-- The account of an activated order. -/
def activateAccounts (db : Db) : Db :=
  { db with accounts := db.accounts.map fun account =>
      if liveAccount account then { account with accountStatus := .active } else account }

def activeAccount (account : Account) : Bool :=
  account.accountStatus == .active && account.deletedAt.isNone

def assertCanGenerateEntitlements (order : Order) : Except Failure Unit := do
  require (order.orderStatus == .active) (badRequest "当前订单尚未起租，不能生成权益。")
  require order.actualDeliveryAt.isSome (badRequest "当前订单缺少实际交付时间，不能生成权益。")

/-- The entitlements of an order that was delivered without them. -/
def generateOrderEntitlements (db : Db) : Except Failure Db := do
  assertCanGenerateEntitlements db.order
  match findLast activeAccount db.accounts with
  | some _ => .ok db
  | none => do
    let db ← ensureInitialEntitlements db
    match findLast liveAccount db.accounts with
    | some (_, id) => .ok { db with
        accounts := db.accounts.modify id ({ · with accountStatus := .active }) }
    | none => .ok db

/-! ## The later months -/

/-- The month of the term that begins on the day. -/
def resolveCycleIndexByPeriodStart (order : Order) (actualDeliveryAt periodStart : Int) :
    Option Nat :=
  (List.range (max (order.periodMonths + 24) 240).toNat.succ).find? fun (cycleIndex : Nat) =>
    (resolveMonthlyEntitlementPeriod actualDeliveryAt cycleIndex).1 == periodStart

def cycleIndexOf (order : Order) (actualDeliveryAt : Int) (grant : Grant) : Option Nat :=
  match grant.grantSource with
  | .orderStart => some 0
  | .monthlyRenewal =>
    resolveCycleIndexByPeriodStart order actualDeliveryAt grant.grantPeriodStart
  | .manualAdjust => none

def resolveLatestEntitlementCycleIndex (db : Db) (actualDeliveryAt : Int) (accountId : Nat) :
    Option Nat :=
  ((db.grants.filter fun grant => grant.accountId == accountId && grant.deletedAt.isNone).filterMap
    (cycleIndexOf db.order actualDeliveryAt)).max?

/-- The grant of a later month for this component. -/
def sameRenewalGrant (accountId : Nat) (period : Int × Int) (input : GrantInput) (grant : Grant) :
    Bool :=
  grant.accountId == accountId && grant.deletedAt.isNone &&
    grant.entitlementName == input.entitlementName &&
    grant.entitlementType == input.entitlementType && grant.grantPeriodEnd == some period.2 &&
    grant.grantPeriodStart == period.1 && grant.grantSource == .monthlyRenewal &&
    grant.unit == input.unit

def ensureRenewalGrant (accountId : Nat) (period : Int × Int) (db : Db) (input : GrantInput) : Db :=
  if db.grants.any (sameRenewalGrant accountId period input) then db
  else { db with
    grants := db.grants ++ [grantOf input accountId .monthlyRenewal period.1 (some period.2)] }

/-- `generateMonthlyRenewal`: the grants of the month after the last one that has any. -/
def createMonthlyRenewalGrants (db : Db) (asOfDate : Int) (grantInputs : List GrantInput) :
    Except Failure Db := do
  assertCanGenerateEntitlements db.order
  let actualDeliveryAt ← found db.order.actualDeliveryAt
    (badRequest "当前订单缺少实际交付时间，不能生成权益。")
  let (_, accountId) ← found (findLast activeAccount db.accounts)
    (badRequest "当前订单缺少生效中的权益账户，不能续发。")
  let latestCycleIndex ← found (resolveLatestEntitlementCycleIndex db actualDeliveryAt accountId)
    (badRequest "当前权益账户缺少首期权益，不能续发。")
  let nextPeriod := resolveMonthlyEntitlementPeriod actualDeliveryAt (latestCycleIndex + 1)
  require (!grantInputs.isEmpty) (badRequest "当前订单套餐快照缺少可生成权益的组件。")
  if asOfDate < nextPeriod.1 then .ok db
  else .ok (grantInputs.foldl (ensureRenewalGrant accountId nextPeriod) db)

/-! ## Consumption and expiry -/

def expireEntitlements (db : Db) (asOfDate : Int) : Db :=
  { db with grants := db.grants.map fun grant =>
      if grant.deletedAt.isNone && grant.grantPeriodEnd.any (· < asOfDate) &&
          grant.status == .active then { grant with status := .expired }
      else grant }

/-- `resolveConsumableGrantPeriodEnd`. -/
def consumableGrantPeriodEnd (grant : Grant) (order : Order) : Option Int :=
  grant.grantPeriodEnd <|>
    if grant.grantSource == .orderStart && order.actualDeliveryAt.isSome then
      some (addDaysUtc (addMonthsClampedUtc grant.grantPeriodStart 1) (-1))
    else none

structure ConsumeEntitlement where
  grantId : Nat
  usedAmount : Int
  occurredAt : Int
  externalRefNo : Option String
  deriving DecidableEq

def sameUsage (input : ConsumeEntitlement) (usage : Usage) : Bool :=
  usage.deletedAt.isNone && input.externalRefNo.isSome &&
    usage.externalRefNo == input.externalRefNo && usage.grantId == input.grantId &&
    usage.usageStatus != .cancelled

/-- A grant is consumed by hand. -/
def consumeOrderEntitlement (db : Db) (input : ConsumeEntitlement) : Except Failure Db := do
  require (db.order.orderStatus == .active) (badRequest "当前订单尚未起租，不能消耗权益。")
  require (0 < input.usedAmount) (badRequest "权益消耗数量必须大于 0。")
  if db.usages.any (sameUsage input) then .ok db
  else do
    let (account, accountId) ← found
      (findLast activeAccount db.accounts <|> findLast liveAccount db.accounts)
      (badRequest "当前订单尚未生成权益账户，不能消耗权益。")
    require (account.accountStatus == .active) (badRequest "当前权益账户不是生效中，不能消耗权益。")
    let grant ← found (db.grants[input.grantId]?.filter fun grant =>
      grant.accountId == accountId && grant.deletedAt.isNone)
      (notFound "权益发放记录不存在或不属于当前订单。")
    require (grant.status == .active) (badRequest "当前权益发放记录不是生效中，不能消耗权益。")
    require (grant.unit != .text) (badRequest "文本型权益不支持消耗核销")
    let periodEnd ← found (consumableGrantPeriodEnd grant db.order)
      (badRequest "权益缺少有效期，不能消耗。")
    let occurredDate := toBusinessDate input.occurredAt
    require (grant.grantPeriodStart ≤ occurredDate && occurredDate ≤ periodEnd)
      (badRequest "权益不在有效期内，不能消耗")
    let remainingAmount ← found grant.remainingAmount
      (badRequest "权益发放记录缺少剩余额度，不能消耗权益。")
    require (input.usedAmount ≤ remainingAmount) (badRequest "权益剩余额度不足，不能超额消耗。")
    let nextRemainingAmount := remainingAmount - input.usedAmount
    .ok { db with
      grants := db.grants.modify input.grantId fun grant => { grant with
        remainingAmount := some nextRemainingAmount
        status := if nextRemainingAmount = 0 then .exhausted else .active
        usedAmount := some (grant.usedAmount.getD 0 + input.usedAmount) }
      usages := db.usages ++ [{ grantId := input.grantId, usedAmount := input.usedAmount,
                                externalRefNo := input.externalRefNo, usageStatus := .confirmed }] }

/-! ## Vehicle swaps -/

/-- A grant of a month that has not begun on the day. -/
def futureGrant (accountId : Nat) (effectiveDate : Int) (grant : Grant) : Bool :=
  grant.accountId == accountId && grant.deletedAt.isNone && effectiveDate ≤ grant.grantPeriodStart &&
    grant.status == .active

def isUsed (db : Db) (grantId : Nat) : Bool :=
  db.usages.any fun usage => usage.grantId == grantId && usage.usageStatus == .confirmed

/-- The grants of one month give way to those of the new plan, unless one of them has been used. -/
def replacePeriod (accountId : Nat) (effectiveDate : Int) (targetGrants : List GrantInput) (db : Db)
    (periodStart : Int) : Db :=
  let ofPeriod := fun grant : Grant =>
    futureGrant accountId effectiveDate grant && grant.grantPeriodStart == periodStart
  if db.grants.zipIdx.any fun row => ofPeriod row.1 && isUsed db row.2 then db
  else
    let periodEnd := (db.grants.find? ofPeriod).bind (·.grantPeriodEnd)
    { db with
      grants := (db.grants.map fun grant =>
          if ofPeriod grant then { grant with status := .cancelled } else grant) ++
        targetGrants.map fun input =>
          grantOf input accountId .monthlyRenewal periodStart periodEnd }

def replaceFutureGrantsForVehicleSwap (db : Db) (effectiveDate : Int)
    (targetGrants : List GrantInput) : Except Failure Db := do
  let (_, accountId) ← found (findLast liveAccount db.accounts)
    (badRequest "The active order entitlement account was not found.")
  let futureGrants := db.grants.filter (futureGrant accountId effectiveDate)
  require (!targetGrants.isEmpty)
    (badRequest "The vehicle-swap plan snapshot has no entitlement components.")
  .ok (((futureGrants.map (·.grantPeriodStart)).dedup.insertionSort (· ≤ ·)).foldl
    (replacePeriod accountId effectiveDate targetGrants) db)

/-- A swap waits until the day in Shanghai lies in the segment that it leaves, after its first day. No
segment begins before the delivery. -/
def activateVehicleSwap (db : Db) (sourceSegment : Int × Int) (effectiveDate : Int)
    (targetGrants : List GrantInput) : Except Failure Db :=
  if effectiveDate ≤ sourceSegment.1 || sourceSegment.2 < effectiveDate ||
      !db.order.actualDeliveryAt.any (toBillingBusinessDate · ≤ sourceSegment.1) then .ok db
  else replaceFutureGrantsForVehicleSwap db effectiveDate targetGrants

end SubscriptionSaas.Mileage
