import Mathlib.Data.List.Dedup
import Mathlib.Data.Nat.Digits.Defs
import SubscriptionSaas.Lib.Results
import SubscriptionSaas.Lib.Unknowns

/-!
# The condition delta of a return

The condition of a vehicle at its delivery and at its return as lists of facts, the items by which they
differ with who is responsible, and the decisions on the items that are left open. A quantity of the
caller is a finite number; one that is not finite is rejected as a fraction is. Codes are compared by
their UTF-8 bytes, which is the order of their characters. What `toUpperCase` and SHA-256 give is an
argument.
-/

namespace SubscriptionSaas.Closure.ReturnDelta

open Results Unknowns

/-! ## Facts and items -/

structure ConditionFact where
  itemCode : String
  quantity : ℚ
  state : String
  deriving DecidableEq

inductive Responsibility
  | customer | platform | thirdParty | normalWear | undetermined
  deriving DecidableEq

inductive WearClassification
  | normalWear | newDamage | missing | improved | unchanged | manualReview
  deriving DecidableEq

structure ConditionDeltaItem where
  decisionReason : String
  deliveryState : String
  itemCode : String
  quantityDifference : Int
  responsibility : Responsibility
  returnState : String
  wearClassification : WearClassification
  deriving DecidableEq

structure DeltaResult where
  items : List ConditionDeltaItem
  resultHash : String
  deriving DecidableEq

/-! ## The hash -/

def Responsibility.text : Responsibility → String
  | .customer => "CUSTOMER"
  | .platform => "PLATFORM"
  | .thirdParty => "THIRD_PARTY"
  | .normalWear => "NORMAL_WEAR"
  | .undetermined => "UNDETERMINED"

def WearClassification.text : WearClassification → String
  | .normalWear => "NORMAL_WEAR"
  | .newDamage => "NEW_DAMAGE"
  | .missing => "MISSING"
  | .improved => "IMPROVED"
  | .unchanged => "UNCHANGED"
  | .manualReview => "MANUAL_REVIEW"

def integerNumeral (n : Int) : Numeral :=
  let digits := (Nat.digits 10 n.natAbs).reverse.map Numeral.lastDigit
  .ofDigits (n < 0) digits digits.length

def textJson (text : String) : Json := .string (Text.ofString text)

/-- The members stand in the order of their keys. -/
def ConditionDeltaItem.json (item : ConditionDeltaItem) : Json :=
  .object [
    (Text.ofString "decisionReason", textJson item.decisionReason),
    (Text.ofString "deliveryState", textJson item.deliveryState),
    (Text.ofString "itemCode", textJson item.itemCode),
    (Text.ofString "quantityDifference", .number (integerNumeral item.quantityDifference)),
    (Text.ofString "responsibility", textJson item.responsibility.text),
    (Text.ofString "returnState", textJson item.returnState),
    (Text.ofString "wearClassification", textJson item.wearClassification.text)]

def canonical (items : List ConditionDeltaItem) : Text := Json.write (.array (items.map (·.json)))

section

variable (toUpperCase : String → String) (sha256 : Text → String)

/-! ## The delta -/

def normalizedCode (itemCode : String) : String := toUpperCase (Texts.trim itemCode)

/-- A fact that was accepted, with its normalized code. -/
structure RecordedFact where
  itemCode : String
  quantity : Nat
  state : String
  deriving DecidableEq

inductive Side
  | delivery | returned
  deriving DecidableEq

def Side.invalid : Side → String
  | .delivery => "INVALID_DELIVERY_CONDITION_FACT"
  | .returned => "INVALID_RETURN_CONDITION_FACT"

def factOf (facts : List RecordedFact) (itemCode : String) : Option RecordedFact :=
  facts.find? (·.itemCode == itemCode)

def addFact (side : Side) (result : List RecordedFact) (fact : ConditionFact) :
    Except String (List RecordedFact) := do
  let itemCode := normalizedCode toUpperCase fact.itemCode
  require (itemCode != "" && (factOf result itemCode).isNone && fact.quantity.den == 1 &&
    decide (0 ≤ fact.quantity)) side.invalid
  .ok (result ++ [⟨itemCode, fact.quantity.num.toNat, fact.state⟩])

def uniqueFacts (facts : List ConditionFact) (side : Side) : Except String (List RecordedFact) :=
  facts.foldlM (addFact toUpperCase side) []

def deltaItem (delivery returned : List RecordedFact) (itemCode : String) : ConditionDeltaItem :=
  let before := factOf delivery itemCode
  let after := factOf returned itemCode
  let quantityDifference : Int :=
    ((after.map (·.quantity)).getD 0 : Nat) - ((before.map (·.quantity)).getD 0 : Nat)
  let deliveryState := (before.map (·.state)).getD "NOT_RECORDED"
  let lost (returnState : String) : ConditionDeltaItem :=
    { decisionReason := "Returned quantity/state is below the signed delivery baseline."
      deliveryState, itemCode, quantityDifference
      responsibility := .customer
      returnState
      wearClassification := .missing }
  if itemCode = "MILEAGE" ∧ 0 < quantityDifference then
    { decisionReason := "Return mileage exceeds the signed delivery baseline."
      deliveryState, itemCode, quantityDifference
      responsibility := .customer
      returnState := (after.map (·.state)).getD "NORMAL"
      wearClassification := .manualReview }
  else
    match after with
    | none => lost "MISSING"
    | some after =>
      if after.state = "MISSING" ∨ quantityDifference < 0 then lost after.state
      else if after.state = "DAMAGED" ∧ before.map (·.state) ≠ some "DAMAGED" then
        { decisionReason := "Return inspection records damage not present at delivery."
          deliveryState, itemCode, quantityDifference
          responsibility := .undetermined
          returnState := after.state
          wearClassification := .newDamage }
      else
        { decisionReason := "Delivery and return facts match."
          deliveryState, itemCode, quantityDifference
          responsibility := .normalWear
          returnState := after.state
          wearClassification := .unchanged }

def unionCodes (delivery returned : List RecordedFact) : List String :=
  ((delivery ++ returned).map (·.itemCode)).dedup.insertionSort (· ≤ ·)

def buildConditionDelta (delivery returned : List ConditionFact) : Except String DeltaResult := do
  let delivery ← uniqueFacts toUpperCase delivery .delivery
  let returned ← uniqueFacts toUpperCase returned .returned
  let items := (unionCodes delivery returned).map (deltaItem delivery returned)
  .ok ⟨items, sha256 (canonical items)⟩

/-! ## The decisions -/

inductive DecidedResponsibility
  | customer | platform | thirdParty | normalWear
  deriving DecidableEq

def DecidedResponsibility.responsibility : DecidedResponsibility → Responsibility
  | .customer => .customer
  | .platform => .platform
  | .thirdParty => .thirdParty
  | .normalWear => .normalWear

structure ConditionDeltaDecision where
  decisionReason : String
  itemCode : String
  responsibility : DecidedResponsibility
  deriving DecidableEq

def decisionOf (decisions : List ConditionDeltaDecision) (itemCode : String) :
    Option ConditionDeltaDecision :=
  decisions.find? (·.itemCode == itemCode)

/-- The item of a code; the last one stands in the map. -/
def baseByCode (baseItems : List ConditionDeltaItem) (itemCode : String) : Option ConditionDeltaItem :=
  baseItems.reverse.find? (·.itemCode == itemCode)

def addDecision (baseItems : List ConditionDeltaItem) (decisionByCode : List ConditionDeltaDecision)
    (decision : ConditionDeltaDecision) : Except String (List ConditionDeltaDecision) := do
  let itemCode := normalizedCode toUpperCase decision.itemCode
  let reason := Texts.trim decision.decisionReason
  require ((baseByCode baseItems itemCode).any (·.responsibility == .undetermined))
    "RETURN_DELTA_DECISION_ITEM_MISMATCH"
  require (reason != "" && (decisionOf decisionByCode itemCode).isNone) "RETURN_DELTA_INVALID_DECISION"
  .ok (decisionByCode ++ [{ decision with decisionReason := reason, itemCode }])

def decided (decisionByCode : List ConditionDeltaDecision) (item : ConditionDeltaItem) :
    ConditionDeltaItem :=
  match decisionOf decisionByCode item.itemCode with
  | some decision =>
    { item with
      decisionReason := decision.decisionReason
      responsibility := decision.responsibility.responsibility }
  | none => item

def applyConditionDeltaDecisions (baseItems : List ConditionDeltaItem)
    (decisions : List ConditionDeltaDecision) : Except String DeltaResult := do
  let decisionByCode ← decisions.foldlM (addDecision toUpperCase baseItems) []
  let unresolvedCodes := baseItems.filter fun item =>
    item.responsibility == .undetermined && (decisionOf decisionByCode item.itemCode).isNone
  require unresolvedCodes.isEmpty "RETURN_DELTA_UNRESOLVED_RESPONSIBILITY"
  let items := (baseItems.map (decided decisionByCode)).insertionSort
    fun left right => left.itemCode ≤ right.itemCode
  .ok ⟨items, sha256 (canonical items)⟩

end

/-! ## The facts of a delivery -/

structure DeliveryWorkOrder where
  accessoryItems : Unknown
  handoverFactSnapshot : Unknown
  handoverMileageKm : Option Int
  keyState : Option String
  primaryKeyCount : Option Int
  registrationDocumentState : Option String
  spareKeyCount : Option Int
  vehicleConditionConfirmed : Option Bool

def integerFact (preferred : Option Unknown) (fallback : Option Int) : ℚ :=
  match preferred with
  | some (.number value _) =>
    if isSafeInteger value ∧ 0 ≤ value then value else (fallback.getD 0 : Int)
  | _ => (fallback.getD 0 : Int)

def accessoryQuantity (item : Record) : ℚ :=
  match item.get "quantity" with
  | some (.number value _) => if isSafeInteger value ∧ 0 < value then value else 0
  | _ => 0

def sumAccessoryQuantity (items : List Record) : ℚ := (items.map accessoryQuantity).sum

def conditionState (states : List String) : String :=
  if "DAMAGED" ∈ states then "DAMAGED"
  else if "MISSING" ∈ states then "MISSING"
  else if states ≠ [] then "NORMAL" else "NOT_APPLICABLE"

/-- `/CHARG|充电/i`. -/
def matchesCharging (text : String) : Bool :=
  text.toList.tails.any fun rest =>
    "CHARG".toList.isPrefixOf (rest.map Char.toUpper) || "充电".toList.isPrefixOf rest

def isCharging (item : Record) : Bool := matchesCharging (item.text "code" ++ " " ++ item.text "name")

/-- The accessories of the snapshot, or else those of the work order. -/
def rawAccessories (workOrder : DeliveryWorkOrder) : List Unknown :=
  match (asRecord workOrder.handoverFactSnapshot).get "accessoryItems", workOrder.accessoryItems with
  | some (.array entries), _ => entries
  | _, .array entries => entries
  | _, _ => []

def conditionConfirmed (workOrder : DeliveryWorkOrder) : String :=
  if workOrder.vehicleConditionConfirmed = some true then "NORMAL" else "PENDING_VERIFICATION"

def deliveryConditionFacts (workOrder : DeliveryWorkOrder) : List ConditionFact :=
  let snapshot := asRecord workOrder.handoverFactSnapshot
  let accessories := (rawAccessories workOrder).map asRecord
  let chargingAccessories := accessories.filter isCharging
  let accessoryState := conditionState (accessories.map (·.text "state"))
  let chargingState := conditionState (chargingAccessories.map (·.text "state"))
  let primaryKeyCount := integerFact (snapshot.get "primaryKeyCount") workOrder.primaryKeyCount
  let spareKeyCount := integerFact (snapshot.get "spareKeyCount") workOrder.spareKeyCount
  let keyState :=
    ((snapshot.get "keyState").map (·.toText)).getD (workOrder.keyState.getD "MISSING")
  let registrationState := ((snapshot.get "registrationDocumentState").map (·.toText)).getD
    (workOrder.registrationDocumentState.getD "NOT_AVAILABLE")
  [⟨"ACCESSORIES", sumAccessoryQuantity accessories, accessoryState⟩,
    ⟨"BATTERY", 1, "NORMAL"⟩,
    ⟨"CHARGING_EQUIPMENT", sumAccessoryQuantity chargingAccessories, chargingState⟩,
    ⟨"CUSTOMER_ITEMS", 0, "NOT_APPLICABLE"⟩,
    ⟨"KEY", primaryKeyCount + spareKeyCount,
      if keyState = "DAMAGED" then "DAMAGED" else if keyState = "MISSING" then "MISSING" else "NORMAL"⟩,
    ⟨"MILEAGE", (workOrder.handoverMileageKm.getD 0 : Int), "NORMAL"⟩,
    ⟨"REGISTRATION_CERTIFICATE", if registrationState = "HANDED_OVER" then 1 else 0,
      if registrationState = "DAMAGED" then "DAMAGED"
      else if registrationState = "HANDED_OVER" then "NORMAL" else "MISSING"⟩,
    ⟨"VEHICLE_EXTERIOR", 1, conditionConfirmed workOrder⟩,
    ⟨"VEHICLE_INTERIOR", 1, conditionConfirmed workOrder⟩]

/-! ## The checklist of a return -/

inductive ChecklistState
  | normal | missing | damaged | notApplicable | pendingVerification
  deriving DecidableEq

def ChecklistState.text : ChecklistState → String
  | .normal => "NORMAL"
  | .missing => "MISSING"
  | .damaged => "DAMAGED"
  | .notApplicable => "NOT_APPLICABLE"
  | .pendingVerification => "PENDING_VERIFICATION"

structure ChecklistItem where
  expectedQuantity : Option ℚ
  itemCode : String
  remark : Option String
  returnedQuantity : Option ℚ
  state : ChecklistState
  deriving DecidableEq

structure ReturnError where
  code : String
  message : String
  deriving DecidableEq

def requiredItemCodes : List String :=
  ["ACCESSORIES", "BATTERY", "CHARGING_EQUIPMENT", "CUSTOMER_ITEMS", "KEY", "MILEAGE",
    "REGISTRATION_CERTIFICATE", "VEHICLE_EXTERIOR", "VEHICLE_INTERIOR"]

def requiredText (value field : String) (max : Nat) : Except ReturnError String := do
  let normalized := Texts.trim value
  require (normalized != "" && decide (Texts.length normalized ≤ max))
    ⟨"RETURN_INPUT_INVALID", field ++ " 无效。"⟩
  .ok normalized

def normalizeChecklistItem (toUpperCase : String → String) (item : ChecklistItem) :
    Except ReturnError ChecklistItem := do
  let itemCode ← requiredText item.itemCode "itemCode" 64
  .ok { item with
    itemCode := toUpperCase itemCode
    remark := (item.remark.map Texts.trim).filter (· ≠ "") }

def normalizeChecklistItems (toUpperCase : String → String) (items : List ChecklistItem) :
    Except ReturnError (List ChecklistItem) := do
  let normalized ← items.mapM (normalizeChecklistItem toUpperCase)
  let normalized := normalized.insertionSort fun left right => left.itemCode ≤ right.itemCode
  let codes := normalized.map (·.itemCode)
  require (decide codes.Nodup) ⟨"RETURN_CHECKLIST_DUPLICATE_ITEM", "退车清单确认项不可重复。"⟩
  require (requiredItemCodes.all (codes.contains ·))
    ⟨"RETURN_CHECKLIST_REQUIRED_ITEM_MISSING",
      "退车清单必须包含：" ++ "、".intercalate requiredItemCodes ++ "。"⟩
  .ok normalized

/-- The facts of a return, from the items of its checklist. -/
def returnFacts (items : List ChecklistItem) : List ConditionFact :=
  items.map fun item => ⟨item.itemCode, item.returnedQuantity.getD 0, item.state.text⟩

/-! ## Who is charged -/

section

variable (toUpperCase : String → String) (sha256 : Text → String)

def factFor (facts : List ConditionFact) (itemCode : String) : Option ConditionFact :=
  facts.find? (normalizedCode toUpperCase ·.itemCode == itemCode)

def quantityAt (facts : List ConditionFact) (itemCode : String) : ℚ :=
  ((factFor toUpperCase facts itemCode).map (·.quantity)).getD 0

def stateAt (facts : List ConditionFact) (itemCode : String) : Option String :=
  (factFor toUpperCase facts itemCode).map (·.state)

/-- What is not returned is missing. -/
def returnStateAt (returned : List ConditionFact) (itemCode : String) : String :=
  (stateAt toUpperCase returned itemCode).getD "MISSING"

/-- The return is worse than the delivery: a lower quantity, a higher mileage, or damage or a loss that
was not there. -/
def Worsened (delivery returned : List ConditionFact) (itemCode : String) : Prop :=
  quantityAt toUpperCase returned itemCode < quantityAt toUpperCase delivery itemCode ∨
    (itemCode = "MILEAGE" ∧
      quantityAt toUpperCase delivery itemCode < quantityAt toUpperCase returned itemCode) ∨
    (returnStateAt toUpperCase returned itemCode ∈ ["DAMAGED", "MISSING"] ∧
      stateAt toUpperCase delivery itemCode ≠ some (returnStateAt toUpperCase returned itemCode))

/-- What is missing at the return was missing at the delivery, and the quantity has not come to less. -/
def MissingBefore (delivery returned : List ConditionFact) (itemCode : String) : Prop :=
  stateAt toUpperCase delivery itemCode = some "MISSING" ∧
    returnStateAt toUpperCase returned itemCode = "MISSING" ∧
    quantityAt toUpperCase delivery itemCode ≤ quantityAt toUpperCase returned itemCode ∧
    ¬ (itemCode = "MILEAGE" ∧
      quantityAt toUpperCase delivery itemCode < quantityAt toUpperCase returned itemCode)

def normalizedFact (fact : ConditionFact) : ConditionFact :=
  { fact with itemCode := normalizedCode toUpperCase fact.itemCode }

def normalizedDecision (decision : ConditionDeltaDecision) : ConditionDeltaDecision :=
  { decision with
    decisionReason := Texts.trim decision.decisionReason
    itemCode := normalizedCode toUpperCase decision.itemCode }

/-- The facts are the same but for their order and the spelling of their codes. -/
def SameFacts (facts facts' : List ConditionFact) : Prop :=
  (facts.map (normalizedFact toUpperCase)).Perm (facts'.map (normalizedFact toUpperCase))

def SameDecisions (decisions decisions' : List ConditionDeltaDecision) : Prop :=
  (decisions.map (normalizedDecision toUpperCase)).Perm
    (decisions'.map (normalizedDecision toUpperCase))

/-- The delta that charges just for what has become worse. -/
structure ChargesWorsening (delivery returned : List ConditionFact) (result : DeltaResult) : Prop where
  once : (result.items.map (·.itemCode)).Nodup
  codes : ∀ itemCode, itemCode ∈ result.items.map (·.itemCode) ↔
    itemCode ∈ (delivery ++ returned).map (normalizedCode toUpperCase ·.itemCode)
  difference : ∀ item ∈ result.items, (item.quantityDifference : ℚ) =
    quantityAt toUpperCase returned item.itemCode - quantityAt toUpperCase delivery item.itemCode
  charged : ∀ item ∈ result.items,
    item.responsibility = .customer ∨ item.responsibility = .undetermined ↔
      Worsened toUpperCase delivery returned item.itemCode
  /-- A decision settles an item that is undetermined and leaves the others. -/
  decided : ∀ decisions resolved,
    applyConditionDeltaDecisions toUpperCase sha256 result.items decisions = .ok resolved →
    List.Forall₂ (fun item item' : ConditionDeltaItem =>
      (item.responsibility ≠ .undetermined → item' = item) ∧
      item' = { item with decisionReason := item'.decisionReason, responsibility := item'.responsibility })
      result.items resolved.items
  facts : ∀ delivery' returned', SameFacts toUpperCase delivery delivery' →
    SameFacts toUpperCase returned returned' →
    buildConditionDelta toUpperCase sha256 delivery' returned' = .ok result
  decisions : ∀ decisions decisions' resolved,
    applyConditionDeltaDecisions toUpperCase sha256 result.items decisions = .ok resolved →
    SameDecisions toUpperCase decisions decisions' →
    applyConditionDeltaDecisions toUpperCase sha256 result.items decisions' = .ok resolved

end

end SubscriptionSaas.Closure.ReturnDelta
