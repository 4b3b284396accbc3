import SubscriptionSaas.Lib.Results
import SubscriptionSaas.Lib.Tally
import SubscriptionSaas.Lib.Texts

/-!
# Vehicle costs

The ledger of a vehicle's costs is summed up by action, responsibility, responsible party and category.
A reversal counts where the entry counts that it reverses. Amounts are in cents; the fields of an entry
that the summary does not read are left out.
-/

namespace SubscriptionSaas.AssetAccounting

open Results

structure TypeError where
  message : String
  deriving DecidableEq

inductive VehicleCostEntryKind
  | original | reversal
  deriving DecidableEq

inductive VehicleCostActionType
  | actualCost | responsibilityConfirmed | recoveryExposure | recoveryReceived | waiver | writeOff
  deriving DecidableEq

inductive VehicleCostResponsiblePartyType
  | customer | insurer | supplier | assetOwner | platform | other
  deriving DecidableEq

def VehicleCostResponsiblePartyType.name : VehicleCostResponsiblePartyType → String
  | .customer => "CUSTOMER"
  | .insurer => "INSURER"
  | .supplier => "SUPPLIER"
  | .assetOwner => "ASSET_OWNER"
  | .platform => "PLATFORM"
  | .other => "OTHER"

inductive VehicleCostCategory
  | damage | cleaning | repair | maintenance | excessMileage | violation | towing | insurance | baas
  | depreciation | other
  deriving DecidableEq

def ACTION_TYPES : List VehicleCostActionType :=
  [.actualCost, .responsibilityConfirmed, .recoveryExposure, .recoveryReceived, .waiver, .writeOff]

def RESPONSIBILITY_TYPES : List VehicleCostResponsiblePartyType :=
  [.customer, .insurer, .supplier, .assetOwner, .platform, .other]

def COST_CATEGORIES : List VehicleCostCategory :=
  [.damage, .cleaning, .repair, .maintenance, .excessMileage, .violation, .towing, .insurance, .baas,
    .depreciation, .other]

/-- `occurredOn` is the time of the date, if the date is valid. -/
structure VehicleCostLedgerEntrySnapshot where
  id : String
  vehicleId : String
  entryKind : VehicleCostEntryKind
  actionType : VehicleCostActionType
  costCategory : VehicleCostCategory
  amountCents : Int
  responsiblePartyType : VehicleCostResponsiblePartyType
  responsiblePartyId : Option String := none
  occurredOn : Option Int
  accountingPeriod : String
  reversalOfEntryId : Option String := none
  deriving DecidableEq

/-! ## Checks -/

def assertNonBlankField (value : Option String) (field : String) : Except TypeError Unit :=
  require (value.any fun text => Texts.trim text != "")
    ⟨s!"vehicle cost {field} must be a nonblank string"⟩

def assertVehicleCostAmountCents (value : Int) : Except TypeError Unit :=
  require (value != 0) ⟨"vehicle cost amountCents must be a nonzero BigInt"⟩

/-- `/^\d{4}-(?:0[1-9]|1[0-2])$/`. -/
def isAccountingPeriod (value : String) : Bool :=
  match value.toList with
  | [y₁, y₂, y₃, y₄, '-', m₁, m₂] =>
    [y₁, y₂, y₃, y₄].all Char.isDigit &&
      ((m₁ == '0' && m₂.isDigit && m₂ != '0') || (m₁ == '1' && ['0', '1', '2'].contains m₂))
  | _ => false

def assertAccountingPeriod (value : String) : Except TypeError Unit :=
  require (isAccountingPeriod value) ⟨"accounting period must use YYYY-MM format"⟩

/-- `entriesById.get(id)`. -/
def entryById (entries : List VehicleCostLedgerEntrySnapshot) (id : String) :
    Option VehicleCostLedgerEntrySnapshot :=
  entries.find? (·.id == id)

/-- The target of a reversal. -/
def assertReversal (entry : VehicleCostLedgerEntrySnapshot)
    (entriesById : List VehicleCostLedgerEntrySnapshot) : Except TypeError Unit := do
  require (entry.amountCents < 0) ⟨"vehicle cost REVERSAL amount must be negative"⟩
  assertNonBlankField entry.reversalOfEntryId "reversal target"
  match (entry.reversalOfEntryId.bind (entryById entriesById)).filter
      (·.entryKind == .original) with
  | none => .error ⟨"vehicle cost reversal target must reference an ORIGINAL entry"⟩
  | some target =>
    require (entry.amountCents == -target.amountCents)
      ⟨"vehicle cost reversal amount must oppose its target"⟩

/-- The checks of the types and of the enumerations hold by the type of the entry. -/
def assertVehicleCostLedgerEntry (entry : VehicleCostLedgerEntrySnapshot)
    (entriesById : List VehicleCostLedgerEntrySnapshot) : Except TypeError Unit := do
  assertNonBlankField (some entry.id) "id"
  assertNonBlankField (some entry.vehicleId) "vehicleId"
  assertVehicleCostAmountCents entry.amountCents
  require entry.occurredOn.isSome ⟨"vehicle cost occurredOn must be a valid Date"⟩
  assertAccountingPeriod entry.accountingPeriod
  match entry.entryKind with
  | .original => do
    require (0 < entry.amountCents) ⟨"vehicle cost ORIGINAL amount must be positive"⟩
    require entry.reversalOfEntryId.isNone ⟨"vehicle cost ORIGINAL cannot have a reversal target"⟩
  | .reversal => assertReversal entry entriesById

/-! ## The summary -/

@[ext] structure VehicleCostSummaryBucket where
  amountCents : Int
  count : Nat
  deriving DecidableEq

namespace VehicleCostSummaryBucket

instance : Zero VehicleCostSummaryBucket := ⟨⟨0, 0⟩⟩

instance : Add VehicleCostSummaryBucket :=
  ⟨fun a b => ⟨a.amountCents + b.amountCents, a.count + b.count⟩⟩

@[simp] theorem zero_amountCents : (0 : VehicleCostSummaryBucket).amountCents = 0 := rfl

@[simp] theorem zero_count : (0 : VehicleCostSummaryBucket).count = 0 := rfl

@[simp] theorem add_amountCents (a b : VehicleCostSummaryBucket) :
    (a + b).amountCents = a.amountCents + b.amountCents := rfl

@[simp] theorem add_count (a b : VehicleCostSummaryBucket) : (a + b).count = a.count + b.count := rfl

instance : AddCommMonoid VehicleCostSummaryBucket where
  add_assoc a b c := VehicleCostSummaryBucket.ext (add_assoc ..) (add_assoc ..)
  zero_add a := VehicleCostSummaryBucket.ext (zero_add _) (zero_add _)
  add_zero a := VehicleCostSummaryBucket.ext (add_zero _) (add_zero _)
  add_comm a b := VehicleCostSummaryBucket.ext (add_comm ..) (add_comm ..)
  nsmul := nsmulRec

end VehicleCostSummaryBucket

/-- A record of buckets, its keys in the order of their insertion. -/
abbrev Buckets (κ : Type) := List (κ × VehicleCostSummaryBucket)

def emptyBuckets {κ : Type} (keys : List κ) : Buckets κ := keys.map fun key => (key, ⟨0, 0⟩)

/-- Adds the amount to the bucket of the key, or a bucket for it. -/
def addBucket {κ : Type} [DecidableEq κ] (buckets : Buckets κ) (key : κ) (amountCents : Int) :
    Buckets κ :=
  Tally.add buckets key ⟨amountCents, 1⟩

structure VehicleCostLedgerSummary where
  totalAmountCents : Int
  byActionType : Buckets VehicleCostActionType
  byResponsibility : Buckets VehicleCostResponsiblePartyType
  byResponsibleParty : Buckets String
  byCategory : Buckets VehicleCostCategory
  deriving DecidableEq

def emptySummary : VehicleCostLedgerSummary :=
  { totalAmountCents := 0
    byActionType := emptyBuckets ACTION_TYPES
    byResponsibility := emptyBuckets RESPONSIBILITY_TYPES
    byResponsibleParty := []
    byCategory := emptyBuckets COST_CATEGORIES }

/-- The first loop: every entry under its id. -/
def indexEntry (byId : List VehicleCostLedgerEntrySnapshot) (entry : VehicleCostLedgerEntrySnapshot) :
    Except TypeError (List VehicleCostLedgerEntrySnapshot) := do
  assertNonBlankField (some entry.id) "id"
  require (entryById byId entry.id).isNone
    ⟨s!"vehicle cost ledger entry id {entry.id} is duplicated"⟩
  .ok (byId ++ [entry])

/-- The entry whose classification counts: the original of a reversal. -/
def classifiedAs (byId : List VehicleCostLedgerEntrySnapshot)
    (entry : VehicleCostLedgerEntrySnapshot) : VehicleCostLedgerEntrySnapshot :=
  let original := if entry.entryKind = .reversal then
      (entry.reversalOfEntryId.filter (· != "")).bind (entryById byId)
    else none
  original.getD entry

/-- The bucket of the responsible party. -/
def responsibleParty (entry : VehicleCostLedgerEntrySnapshot) : String :=
  let responsibilityId := entry.responsiblePartyId.getD ""
  s!"{entry.responsiblePartyType.name}:{responsibilityId}"

/-- The second loop. -/
def addEntry (byId : List VehicleCostLedgerEntrySnapshot) (summary : VehicleCostLedgerSummary)
    (entry : VehicleCostLedgerEntrySnapshot) : Except TypeError VehicleCostLedgerSummary := do
  assertVehicleCostLedgerEntry entry byId
  let classified := classifiedAs byId entry
  let signedAmount := entry.amountCents
  .ok
    { totalAmountCents := summary.totalAmountCents + signedAmount
      byActionType := addBucket summary.byActionType classified.actionType signedAmount
      byResponsibility :=
        addBucket summary.byResponsibility classified.responsiblePartyType signedAmount
      byResponsibleParty :=
        addBucket summary.byResponsibleParty (responsibleParty classified) signedAmount
      byCategory := addBucket summary.byCategory classified.costCategory signedAmount }

def summarizeVehicleCostEntries (entries : List VehicleCostLedgerEntrySnapshot) :
    Except TypeError VehicleCostLedgerSummary := do
  let byId ← entries.foldlM indexEntry []
  entries.foldlM (addEntry byId) emptySummary

end SubscriptionSaas.AssetAccounting
