import SubscriptionSaas.Lib.Unknowns

/-!
# The charge clauses of a contract

The clauses by which a return is charged, compiled from the snapshot of the contract. The price of a
kilometer over the limit comes from the snapshot; what is missing or damaged has a clause that waits for
a review. What SHA-256 gives is an argument.
-/

namespace SubscriptionSaas.Contract.ChargeClauses

open Unknowns

inductive ClauseStatus
  | executable | manualClauseReviewRequired
  deriving DecidableEq

def ClauseStatus.text : ClauseStatus → String
  | .executable => "EXECUTABLE"
  | .manualClauseReviewRequired => "MANUAL_CLAUSE_REVIEW_REQUIRED"

/-- A clause before it is finalized. -/
structure ChargeClause where
  chargeType : String
  clauseCode : String
  clauseVersion : Nat
  evidenceRequirementSnapshot : Record
  exemptionSnapshot : Record
  pricingSnapshot : Record
  sourceTextHash : String
  sourceTextLocator : String
  status : ClauseStatus
  unit : String

structure CompiledContractChargeClause extends ChargeClause where
  compilationHash : String

def ChargeClause.value (clause : ChargeClause) : Unknown :=
  .object [
    ("chargeType", .text clause.chargeType),
    ("clauseCode", .text clause.clauseCode),
    ("clauseVersion", ofNat clause.clauseVersion),
    ("evidenceRequirementSnapshot", .object clause.evidenceRequirementSnapshot),
    ("exemptionSnapshot", .object clause.exemptionSnapshot),
    ("pricingSnapshot", .object clause.pricingSnapshot),
    ("sourceTextHash", .text clause.sourceTextHash),
    ("sourceTextLocator", .text clause.sourceTextLocator),
    ("status", .text clause.status.text),
    ("unit", .text clause.unit)]

/-! ## The numbers of a snapshot -/

/-- `firstDefined(first.key, second.key)`. -/
def firstDefined (first second : Record) (key : String) : Option Unknown :=
  (first.get key).or (second.get key)

def safeNat (n : Int) : Option Nat := if isSafe n ∧ 0 ≤ n then some n.toNat else none

def exactNonnegativeInteger : Option Unknown → Option Nat
  | some (.bigint value) => safeNat value
  | some (.text text) => (decimal? text).bind fun n => safeNat n
  | some (.number value _) => if value.den = 1 then safeNat value.num else none
  | _ => none

def exactPositiveInteger (value : Option Unknown) : Option Nat :=
  (exactNonnegativeInteger value).filter (0 < ·)

/-! ## The clauses -/

/-- The items of a checklist that have clauses for a loss and a damage. -/
def clauseItemCodes : List String :=
  ["ACCESSORIES", "BATTERY", "CHARGING_EQUIPMENT", "KEY", "REGISTRATION_CERTIFICATE", "VEHICLE_EXTERIOR",
    "VEHICLE_INTERIOR"]

section

variable (sha256 : Text → String)

def finalize (clause : ChargeClause) : CompiledContractChargeClause :=
  { clause with compilationHash := sha256 clause.value.canonical }

def manualClause (chargeType contentTemplate : String) : CompiledContractChargeClause :=
  finalize sha256 {
    chargeType
    clauseCode := chargeType
    clauseVersion := 1
    evidenceRequirementSnapshot := [("required", .array [.text "RETURN_ITEM_EVIDENCE"])]
    exemptionSnapshot := [("manualReviewRequired", .bool true)]
    pricingSnapshot := []
    sourceTextHash := sha256 (Text.ofString contentTemplate)
    sourceTextLocator := "contractSnapshot"
    status := .manualClauseReviewRequired
    unit := "ITEM" }

def overMileageClause (mileageLimitKm unitPriceCents periodMonths : Nat) (contentTemplate : String) :
    CompiledContractChargeClause :=
  finalize sha256 {
    chargeType := "OVER_MILEAGE"
    clauseCode := "OVER_MILEAGE"
    clauseVersion := 1
    evidenceRequirementSnapshot := [("required", .array [.text "DELIVERY_MILEAGE", .text "RETURN_MILEAGE"])]
    exemptionSnapshot := [("normalWearApplies", .bool false)]
    pricingSnapshot := [
      ("includedQuantity", ofNat (mileageLimitKm * periodMonths)),
      ("monthlyIncludedQuantity", ofNat mileageLimitKm),
      ("periodMonths", ofNat periodMonths),
      ("unitPriceCents", ofNat unitPriceCents)]
    sourceTextHash := sha256 (Text.ofString contentTemplate)
    sourceTextLocator := "contractSnapshot.order.overMileageFeeAmount"
    status := .executable
    unit := "KILOMETER" }

/-- The limit of a month, the price and the months, if a kilometer over the limit has a price. -/
def mileageTerms (snapshot : Unknown) : Option (Nat × Nat × Nat) :=
  let root := asRecord snapshot
  let order := asRecord ((root.get "order").getD .null)
  let quote := asRecord ((root.get "quoteSnapshot").getD .null)
  let mileageLimitKm := exactNonnegativeInteger (firstDefined order quote "mileageLimitKm")
  let unitPriceCents := exactNonnegativeInteger (firstDefined order quote "overMileageFeeAmount")
  let periodMonths := exactPositiveInteger (firstDefined order quote "periodMonths")
  match mileageLimitKm, unitPriceCents with
  | some mileageLimitKm, some unitPriceCents =>
    if 0 < unitPriceCents then some (mileageLimitKm, unitPriceCents, periodMonths.getD 1) else none
  | _, _ => none

def contentTemplate (snapshot : Unknown) : String :=
  match (asRecord snapshot).get "contentTemplate" with
  | some (.text text) => text
  | _ => ""

def compileContractChargeClauses (snapshot : Unknown) : List CompiledContractChargeClause :=
  let contentTemplate := contentTemplate snapshot
  (match mileageTerms snapshot with
    | some (mileageLimitKm, unitPriceCents, periodMonths) =>
      overMileageClause sha256 mileageLimitKm unitPriceCents periodMonths contentTemplate
    | none => manualClause sha256 "OVER_MILEAGE" contentTemplate) ::
  clauseItemCodes.flatMap fun itemCode =>
    [manualClause sha256 ("MISSING_" ++ itemCode) contentTemplate,
      manualClause sha256 ("DAMAGE_" ++ itemCode) contentTemplate]

end

end SubscriptionSaas.Contract.ChargeClauses
