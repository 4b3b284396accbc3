import SubscriptionSaas.Closure.ReturnDelta
import SubscriptionSaas.Contract.ChargeClauses
import SubscriptionSaas.Finance.Db

/-!
# The pricing of a return

A charge for an item of a confirmed delta: the charge type and quantity of the item, the clause of that
type, and the price by the clause after what has been billed before. The clause and the item of a line
are those of the contract and the current delta, and whether the approval of a manual price stands is an
argument.
-/

namespace SubscriptionSaas.Closure.Pricing

open Results Unknowns ReturnDelta Contract.ChargeClauses
open Finance (BillType BillStatus)

/-! ## The price of a charge -/

structure PricingClause where
  clauseCode : String
  pricingSnapshot : Record
  status : ClauseStatus

structure PriceClosureChargeInput where
  chargeType : String
  clause : Option PricingClause
  evidenceIds : List String
  manualBasis : Option String
  priorBilledAmountCents : Option Int
  priorBillIds : List String
  quantity : ℚ

inductive ChargeStatus
  | final | pricingException
  deriving DecidableEq

structure CalculationSnapshot where
  amountCents : Int
  capCents : Option Unknown
  chargeableQuantity : Int
  chargeType : String
  clauseCode : Option String
  evidenceIds : List String
  exceptionCode : Option String
  manualBasis : Option String
  priorBilledAmountCents : Int
  priorBillIds : List String
  quantity : Int
  unitPriceCents : Int

structure ClosureCharge where
  amountCents : Int
  calculationHash : String
  calculationSnapshot : CalculationSnapshot
  status : ChargeStatus
  unitPriceCents : Int

/-- `sort()`, by UTF-16 units. -/
def sortTexts (texts : List String) : List String :=
  texts.insertionSort fun left right => Text.ofString left ≤ Text.ofString right

/-- `text?.trim() || null`. -/
def trimmed (text : Option String) : Option String := (text.map Texts.trim).filter (· ≠ "")

def orNull (text : Option String) : Unknown := (text.map Unknown.text).getD .null

def CalculationSnapshot.value (snapshot : CalculationSnapshot) : Unknown :=
  .object [
    ("amountCents", .text (toString snapshot.amountCents)),
    ("capCents", snapshot.capCents.getD .null),
    ("chargeableQuantity", .number snapshot.chargeableQuantity (toString snapshot.chargeableQuantity)),
    ("chargeType", .text snapshot.chargeType),
    ("clauseCode", orNull snapshot.clauseCode),
    ("evidenceIds", .array (snapshot.evidenceIds.map .text)),
    ("exceptionCode", orNull snapshot.exceptionCode),
    ("manualBasis", orNull snapshot.manualBasis),
    ("priorBilledAmountCents", .text (toString snapshot.priorBilledAmountCents)),
    ("priorBillIds", .array (snapshot.priorBillIds.map .text)),
    ("quantity", .number snapshot.quantity (toString snapshot.quantity)),
    ("unitPriceCents", .text (toString snapshot.unitPriceCents))]

/-- What is not an amount of cents. -/
def invalidPrice : String := "INVALID_CONTRACT_PRICE"

def cents : Option Unknown → Except String Int
  | some (.bigint value) => if 0 ≤ value then .ok value else .error invalidPrice
  | some (.number value _) =>
    if isSafeInteger value ∧ 0 ≤ value then .ok value.num else .error invalidPrice
  | some (.text text) =>
    match decimal? text with
    | some n => .ok n
    | none => .error invalidPrice
  | _ => .error invalidPrice

def optionalCents : Option Unknown → Except String (Option Int)
  | none => .ok none
  | some value => some <$> cents (some value)

def invalidIncludedQuantity : String := "INVALID_CONTRACT_INCLUDED_QUANTITY"

/-- A text or `bigint` that is not a safe integer counts as none. -/
def optionalQuantity : Option Unknown → Except String (Option Int)
  | none => .ok none
  | some (.number value _) =>
    if isSafeInteger value ∧ 0 ≤ value then .ok (some value.num) else .error invalidIncludedQuantity
  | some (.text text) =>
    match decimal? text with
    | some n => .ok (if isSafe n then some n else none)
    | none => .error invalidIncludedQuantity
  | some (.bigint value) => .ok (if isSafe value ∧ 0 ≤ value then some value else none)
  | _ => .error invalidIncludedQuantity

section

variable (sha256 : Text → String)

def result (input : PriceClosureChargeInput) (status : ChargeStatus)
    (chargeableQuantity unitPriceCents amountCents : Int) (exceptionCode : Option String) :
    Except String ClosureCharge :=
  let calculationSnapshot : CalculationSnapshot :=
    { amountCents
      capCents := input.clause.bind (·.pricingSnapshot.get "capCents")
      chargeableQuantity
      chargeType := input.chargeType
      clauseCode := input.clause.map (·.clauseCode)
      evidenceIds := sortTexts input.evidenceIds
      exceptionCode
      manualBasis := trimmed input.manualBasis
      priorBilledAmountCents := input.priorBilledAmountCents.getD 0
      priorBillIds := sortTexts input.priorBillIds
      quantity := input.quantity.num
      unitPriceCents }
  match calculationSnapshot.value.stringify with
  | some text => .ok ⟨amountCents, sha256 text, calculationSnapshot, status, unitPriceCents⟩
  | none => .error "Do not know how to serialize a BigInt"

def priceClosureCharge (input : PriceClosureChargeInput) : Except String ClosureCharge := do
  require (isSafeInteger input.quantity && decide (0 ≤ input.quantity)) "INVALID_CHARGE_QUANTITY"
  match input.clause.filter (·.status == .executable) with
  | none =>
    result sha256 input .pricingException 0 0 0 (some "MATCHING_CONTRACT_CLAUSE_REQUIRED")
  | some clause => do
    require (!input.evidenceIds.isEmpty) "GOVERNED_EVIDENCE_REQUIRED"
    let unitPriceCents ← cents (clause.pricingSnapshot.get "unitPriceCents")
    let capCents ← optionalCents (clause.pricingSnapshot.get "capCents")
    let includedQuantity ← optionalQuantity (clause.pricingSnapshot.get "includedQuantity")
    let chargeableQuantity := max 0 (input.quantity.num - includedQuantity.getD 0)
    let gross := unitPriceCents * chargeableQuantity
    let priorBilledAmountCents := input.priorBilledAmountCents.getD 0
    require (decide (0 ≤ priorBilledAmountCents)) "INVALID_PRIOR_BILLED_AMOUNT"
    let trueUpGross := if priorBilledAmountCents < gross then gross - priorBilledAmountCents else 0
    let amountCents :=
      match capCents with
      | none => trueUpGross
      | some capCents => if capCents < trueUpGross then capCents else trueUpGross
    result sha256 input .final chargeableQuantity unitPriceCents amountCents none

/-! ## The charge of an item -/

structure GovernedCharge where
  chargeType : String
  quantity : Int
  deriving DecidableEq

def governedChargeFactsForDeltaItem (item : ConditionDeltaItem) : Except String GovernedCharge := do
  require (item.responsibility == .customer) "CUSTOMER_CHARGE_RESPONSIBILITY_REQUIRED"
  require (isSafe item.quantityDifference) "INVALID_DELTA_QUANTITY"
  if item.itemCode = "MILEAGE" then .ok ⟨"OVER_MILEAGE", max 0 item.quantityDifference⟩
  else
    match item.wearClassification with
    | .newDamage => .ok ⟨"DAMAGE_" ++ item.itemCode, 1⟩
    | .missing => .ok ⟨"MISSING_" ++ item.itemCode, max 1 |item.quantityDifference|⟩
    | _ => .error "CUSTOMER_CHARGE_DELTA_NOT_BILLABLE"

/-! ## A final line -/

structure PricingLine where
  chargeType : String
  evidenceIds : List String
  exceptionApprovalId : Option String
  manualBasis : Option String
  manualUnitPriceCents : Option String
  quantity : ℚ

structure ReceivableBill where
  id : String
  amount : Int
  billStatus : BillStatus
  billType : BillType
  deleted : Bool
  sourceKey : Option String

/-- A text that is there and not empty. -/
def isGiven (text : Option String) : Bool := text.any (· != "")

def finalLineRefused (clause : Option CompiledContractChargeClause) (line : PricingLine) : Bool :=
  match clause with
  | none => true
  | some clause =>
    clause.chargeType != line.chargeType ||
      match clause.status with
      | .executable => isGiven line.exceptionApprovalId
      | .manualClauseReviewRequired =>
        !isGiven line.exceptionApprovalId || (trimmed line.manualBasis).isNone ||
          !line.manualUnitPriceCents.any fun price => (decimal? price).isSome

/-- What has been billed for mileage, apart from closures. A bill without a source key is not found. -/
def priorMileageBills (line : PricingLine) (bills : List ReceivableBill) : List ReceivableBill :=
  if line.chargeType = "OVER_MILEAGE" then
    bills.filter fun bill => bill.billStatus != .cancelled && bill.billType == .overMileage &&
      !bill.deleted && bill.sourceKey.any (!"closure-charge:".toList.isPrefixOf ·.toList)
  else []

def manualPricing (clause : Option CompiledContractChargeClause) (line : PricingLine) :
    Option PricingClause := do
  let clause ← clause.filter (·.status == .manualClauseReviewRequired)
  let price ← line.manualUnitPriceCents.filter (· ≠ "")
  let _ ← trimmed line.manualBasis
  return ⟨clause.clauseCode, [("unitPriceCents", .text price)], .executable⟩

def linePriceInput (clause : Option CompiledContractChargeClause) (line : PricingLine)
    (bills : List ReceivableBill) : PriceClosureChargeInput :=
  let priorMileageBills := priorMileageBills line bills
  { chargeType := line.chargeType
    clause := (manualPricing clause line).or
      (clause.map fun clause => ⟨clause.clauseCode, clause.pricingSnapshot, clause.status⟩)
    evidenceIds := line.evidenceIds
    manualBasis := line.manualBasis
    priorBilledAmountCents := some (priorMileageBills.map (·.amount)).sum
    priorBillIds := priorMileageBills.map (·.id)
    quantity := line.quantity }

inductive PricingFailure
  | error (message : String)
  | conflict (error : ReturnError)
  deriving DecidableEq

def executableClauseRequired : PricingFailure := .conflict
  ⟨"CLOSURE_PRICING_EXECUTABLE_CLAUSE_REQUIRED",
    "正式收费必须绑定可执行合同条款；人工审查条款还需填写价格和合同/维修依据。"⟩

def approvalRequired : PricingFailure := .conflict
  ⟨"CLOSURE_PRICING_APPROVAL_REQUIRED", "人工定价审批未通过、已失效或与当前价格事实不一致。"⟩

def deltaMismatch : PricingFailure := .conflict
  ⟨"CLOSURE_PRICING_DELTA_MISMATCH", "收费类型或数量与当前车况差异不一致。"⟩

/-- A line of `createPricing` that is made final; `approved` says that its approval stands. -/
def finalCharge (clause : Option CompiledContractChargeClause) (item : ConditionDeltaItem)
    (line : PricingLine) (approved : Bool) (bills : List ReceivableBill) :
    Except PricingFailure ClosureCharge := do
  require (!finalLineRefused clause line) executableClauseRequired
  require (!clause.any (·.status == .manualClauseReviewRequired) || approved) approvalRequired
  let governedCharge ← (governedChargeFactsForDeltaItem item).mapError fun _ => deltaMismatch
  require (line.chargeType == governedCharge.chargeType && line.quantity == governedCharge.quantity)
    deltaMismatch
  (priceClosureCharge sha256 (linePriceInput clause line bills)).mapError .error

/-! ## Charges that are cumulative -/

structure ClauseTerms where
  unitPriceCents : Int
  capCents : Option Int
  includedQuantity : Int
  deriving DecidableEq

/-- What a clause says of its price. -/
def clauseTerms (clause : PricingClause) : Except String ClauseTerms := do
  let unitPriceCents ← cents (clause.pricingSnapshot.get "unitPriceCents")
  let capCents ← optionalCents (clause.pricingSnapshot.get "capCents")
  let includedQuantity ← optionalQuantity (clause.pricingSnapshot.get "includedQuantity")
  .ok ⟨unitPriceCents, capCents, includedQuantity.getD 0⟩

def ClauseTerms.gross (terms : ClauseTerms) (quantity : Int) : Int :=
  terms.unitPriceCents * max 0 (quantity - terms.includedQuantity)

/-- `min(cap, gross)`. -/
def ClauseTerms.capped (terms : ClauseTerms) (gross : Int) : Int :=
  match terms.capCents with
  | none => gross
  | some cap => min cap gross

def PriceClosureChargeInput.at (input : PriceClosureChargeInput) (quantity prior : Int) :
    PriceClosureChargeInput :=
  { input with quantity := quantity, priorBilledAmountCents := some prior }

/-- The amount charged for a quantity after an amount billed before. -/
def amountAt (input : PriceClosureChargeInput) (quantity prior : Int) : Option Int :=
  ((priceClosureCharge sha256 (input.at quantity prior)).toOption).map (·.amountCents)

/-- What is billed in all after charges for the quantities in turn. -/
def billedAfter (input : PriceClosureChargeInput) (prior : Int) (quantities : List Int) : Option Int :=
  quantities.foldlM (fun billed quantity => (amountAt sha256 input quantity billed).map (billed + ·)) prior

/-- The charge for a quantity after an amount billed before brings the total to the capped price, and no
further; so do charges for parts of the quantity. -/
structure CumulativeAndCapped (input : PriceClosureChargeInput) (terms : ClauseTerms)
    (quantity prior : Int) : Prop where
  law : ∃ amount, amountAt sha256 input quantity prior = some amount ∧
    prior + amount = max prior (terms.capped (terms.gross quantity))
  withinCap : ∀ amount cap, amountAt sha256 input quantity prior = some amount →
    terms.capCents = some cap → prior + amount ≤ max prior cap
  again : ∀ amount, amountAt sha256 input quantity prior = some amount →
    amountAt sha256 input quantity (prior + amount) = some 0
  split : ∀ quantities, (∀ part ∈ quantities, 0 ≤ part ∧ part ≤ quantity) →
    billedAfter sha256 input prior (quantities ++ [quantity]) = billedAfter sha256 input prior [quantity]
  monotone : ∀ less amount amount', 0 ≤ less → less ≤ quantity →
    amountAt sha256 input less prior = some amount → amountAt sha256 input quantity prior = some amount' →
    prior + amount ≤ prior + amount'

/-! ## Items that can be priced -/

/-- A clause prices every quantity, or prices the item by a line with an approved price. -/
def PricesItem (clause : CompiledContractChargeClause) (item : ConditionDeltaItem)
    (charge : GovernedCharge) : Prop :=
  (clause.status = .executable ∧ ∀ input : PriceClosureChargeInput,
    input.clause = some ⟨clause.clauseCode, clause.pricingSnapshot, clause.status⟩ →
    isSafeInteger input.quantity → 0 ≤ input.quantity → input.evidenceIds ≠ [] →
    0 ≤ input.priorBilledAmountCents.getD 0 →
    ∃ priced, priceClosureCharge sha256 input = .ok priced ∧ priced.status = .final) ∨
  (clause.status = .manualClauseReviewRequired ∧ ∀ (line : PricingLine) (bills : List ReceivableBill),
    line.chargeType = charge.chargeType → line.quantity = charge.quantity → line.evidenceIds ≠ [] →
    isGiven line.exceptionApprovalId → (trimmed line.manualBasis).isSome →
    (∃ price, line.manualUnitPriceCents = some price ∧ (decimal? price).isSome) →
    (∀ bill ∈ bills, 0 ≤ bill.amount) →
    ∃ priced, finalCharge sha256 (some clause) item line true bills = .ok priced ∧ priced.status = .final)

/-- The item has a charge, and the contract has one clause of its type, which prices it. -/
def Priceable (snapshot : Unknown) (item : ConditionDeltaItem) : Prop :=
  ∃ charge clause, governedChargeFactsForDeltaItem item = .ok charge ∧
    (compileContractChargeClauses sha256 snapshot).filter (·.chargeType == charge.chargeType) = [clause] ∧
    PricesItem sha256 clause item charge

/-- The kilometers that the contract includes are a safe integer. -/
def IncludedQuantitySafe (snapshot : Unknown) : Prop :=
  ∀ mileageLimitKm unitPriceCents periodMonths,
    mileageTerms snapshot = some (mileageLimitKm, unitPriceCents, periodMonths) →
    isSafe (mileageLimitKm * periodMonths : Nat)

/-- The difference of an item is a safe integer, and its code is that of the mileage or has clauses. -/
def Covered (snapshot : Unknown) (item : ConditionDeltaItem) : Prop :=
  isSafe item.quantityDifference ∧
    (item.itemCode = "MILEAGE" ∧ IncludedQuantitySafe snapshot ∨ item.itemCode ∈ clauseItemCodes)

end

end SubscriptionSaas.Closure.Pricing
