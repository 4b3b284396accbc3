import Mathlib.Algebra.Order.BigOperators.Group.List
import SubscriptionSaas.Closure.Proofs.PricingProofs
import SubscriptionSaas.Closure.Proofs.ReturnDeltaProofs

/-!
# The items that can be priced

The types of the clauses are the same for every contract, each once (`compile_chargeTypes`). An item that
is charged to the customer has a charge as soon as its difference is a safe integer, but a clause only if
its code is among those that the clauses are compiled for.
-/

namespace SubscriptionSaas.Closure.Pricing

open Results Unknowns ReturnDelta Contract.ChargeClauses

variable {sha256 : Text → String} {snapshot : Unknown} {item : ConditionDeltaItem}
  {charge : GovernedCharge} {itemCode : String}

/-! ## The clauses of a contract -/

def chargeTypes : List String :=
  "OVER_MILEAGE" :: clauseItemCodes.flatMap fun itemCode => ["MISSING_" ++ itemCode, "DAMAGE_" ++ itemCode]

theorem compile_chargeTypes (sha256 : Text → String) (snapshot : Unknown) :
    (compileContractChargeClauses sha256 snapshot).map (·.chargeType) = chargeTypes := by
  unfold compileContractChargeClauses
  cases mileageTerms snapshot with
  | none => rfl
  | some terms => rfl

theorem chargeTypes_nodup : chargeTypes.Nodup := by decide +kernel

/-- A clause is the only one of its type. -/
theorem compile_filter {clause : CompiledContractChargeClause}
    (h : clause ∈ compileContractChargeClauses sha256 snapshot) :
    (compileContractChargeClauses sha256 snapshot).filter (·.chargeType == clause.chargeType) =
      [clause] := by
  refine Tables.filter_key ?_ h
  rw [compile_chargeTypes]
  exact chargeTypes_nodup

/-- Texts that begin with different characters. -/
theorem append_ne {p text : String} {c d : Char} {cs ds : List Char} (a : String)
    (hp : p.toList = c :: cs) (htext : text.toList = d :: ds) (hne : c ≠ d) : p ++ a ≠ text := by
  intro h
  have hlist := congrArg String.toList h
  rw [String.toList_append, hp, htext] at hlist
  exact hne (List.cons.inj hlist).1

theorem missing_ne_mileage (a : String) : "MISSING_" ++ a ≠ "OVER_MILEAGE" :=
  append_ne a rfl rfl (by decide)

theorem damage_ne_mileage (a : String) : "DAMAGE_" ++ a ≠ "OVER_MILEAGE" :=
  append_ne a rfl rfl (by decide)

theorem missing_ne_damage (a b : String) : "MISSING_" ++ a ≠ "DAMAGE_" ++ b := by
  have htext : ("DAMAGE_" ++ b).toList = 'D' :: ("AMAGE_".toList ++ b.toList) := by
    rw [String.toList_append]
    rfl
  exact append_ne a rfl htext (by decide)

theorem append_right_cancel {p a b : String} (h : p ++ a = p ++ b) : a = b := by
  have hlist := congrArg String.toList h
  rw [String.toList_append, String.toList_append] at hlist
  exact String.toList_inj.mp (List.append_cancel_left hlist)

theorem missing_mem_iff : "MISSING_" ++ itemCode ∈ chargeTypes ↔ itemCode ∈ clauseItemCodes := by
  unfold chargeTypes
  rw [List.mem_cons, List.mem_flatMap]
  constructor
  · rintro (h | ⟨code, hcode, h⟩)
    · exact absurd h (missing_ne_mileage itemCode)
    · rcases List.mem_pair.1 h with h | h
      · exact append_right_cancel h ▸ hcode
      · exact absurd h (missing_ne_damage itemCode code)
  · intro h
    exact .inr ⟨itemCode, h, List.mem_cons_self⟩

theorem damage_mem_iff : "DAMAGE_" ++ itemCode ∈ chargeTypes ↔ itemCode ∈ clauseItemCodes := by
  unfold chargeTypes
  rw [List.mem_cons, List.mem_flatMap]
  constructor
  · rintro (h | ⟨code, hcode, h⟩)
    · exact absurd h (damage_ne_mileage itemCode)
    · rcases List.mem_pair.1 h with h | h
      · exact absurd h.symm (missing_ne_damage code itemCode)
      · exact append_right_cancel h ▸ hcode
  · intro h
    exact .inr ⟨itemCode, h, List.mem_cons_of_mem _ List.mem_cons_self⟩

/-! ## The charge of an item -/

/-- The item is the mileage, or is missing or damaged. -/
def Billable (item : ConditionDeltaItem) : Prop :=
  item.itemCode = "MILEAGE" ∨ item.wearClassification = .missing ∨ item.wearClassification = .newDamage

def chargeTypeOf (item : ConditionDeltaItem) : String :=
  if item.itemCode = "MILEAGE" then "OVER_MILEAGE"
  else if item.wearClassification = .newDamage then "DAMAGE_" ++ item.itemCode
  else "MISSING_" ++ item.itemCode

theorem isSafe_iff {n : Int} : isSafe n = true ↔ |n| ≤ 9007199254740991 := decide_eq_true_iff

/-- A count that is at most the size of a safe integer, or one, is safe. -/
theorem isSafe_max {least n : Int} (hleast : 0 ≤ least) (hone : least ≤ 1)
    (h : n ≤ 9007199254740991) : isSafe (max least n) = true := by
  refine isSafe_iff.2 ?_
  rw [abs_of_nonneg (hleast.trans (le_max_left _ _))]
  exact max_le (by omega) h

theorem governed_ok (h : governedChargeFactsForDeltaItem item = .ok charge) :
    isSafe item.quantityDifference = true ∧ charge.chargeType = chargeTypeOf item ∧
      isSafe charge.quantity = true ∧ 0 ≤ charge.quantity := by
  unfold governedChargeFactsForDeltaItem at h
  rw [require_bind, require_bind] at h
  obtain ⟨-, hsafe, h⟩ := h
  refine ⟨hsafe, ?_⟩
  have hbound := isSafe_iff.1 hsafe
  unfold chargeTypeOf
  split at h
  · rename_i hmileage
    obtain rfl := Except.ok.inj h
    exact ⟨(if_pos hmileage).symm, isSafe_max le_rfl zero_le_one ((le_abs_self _).trans hbound),
      le_max_left _ _⟩
  · rename_i hother
    rw [if_neg hother]
    split at h
    · rename_i hwear
      obtain rfl := Except.ok.inj h
      exact ⟨(if_pos hwear).symm, rfl, zero_le_one⟩
    · rename_i hwear
      obtain rfl := Except.ok.inj h
      have hnot : item.wearClassification ≠ .newDamage := by
        rw [hwear]
        decide
      exact ⟨(if_neg hnot).symm, isSafe_max zero_le_one le_rfl hbound,
        zero_le_one.trans (le_max_left _ _)⟩
    · cases h

theorem governed_exists (hcustomer : item.responsibility = .customer) (hbillable : Billable item)
    (hsafe : isSafe item.quantityDifference = true) :
    ∃ charge, governedChargeFactsForDeltaItem item = .ok charge := by
  unfold governedChargeFactsForDeltaItem
  have hrequired : (item.responsibility == .customer) = true := by
    rw [hcustomer]
    rfl
  simp only [require_bind, hrequired, hsafe, true_and]
  by_cases hmileage : item.itemCode = "MILEAGE"
  · exact ⟨_, if_pos hmileage⟩
  · simp only [if_neg hmileage]
    rcases hbillable with h | h | h
    · exact absurd h hmileage
    · rw [h]
      exact ⟨_, rfl⟩
    · rw [h]
      exact ⟨_, rfl⟩

theorem chargeTypeOf_mem_iff (hother : item.itemCode ≠ "MILEAGE") :
    chargeTypeOf item ∈ chargeTypes ↔ item.itemCode ∈ clauseItemCodes := by
  unfold chargeTypeOf
  rw [if_neg hother]
  by_cases hwear : item.wearClassification = .newDamage
  · rw [if_pos hwear]
    exact damage_mem_iff
  · rw [if_neg hwear]
    exact missing_mem_iff

/-! ## What the clauses price -/

theorem safeNat_some {n : Int} {m : Nat} (h : safeNat n = some m) : isSafe m = true := by
  unfold safeNat at h
  split at h
  · rename_i hsafe
    obtain rfl := Option.some.inj h
    rw [Int.toNat_of_nonneg hsafe.2]
    exact hsafe.1
  · cases h

theorem exactNonnegativeInteger_safe {value : Option Unknown} {n : Nat}
    (h : exactNonnegativeInteger value = some n) : isSafe n = true := by
  unfold exactNonnegativeInteger at h
  split at h
  · exact safeNat_some h
  · obtain ⟨m, -, hm⟩ := Option.bind_eq_some_iff.1 h
    exact safeNat_some hm
  · split at h
    · exact safeNat_some h
    · cases h
  · cases h

theorem mileageTerms_price_safe {mileageLimitKm unitPriceCents periodMonths : Nat}
    (h : mileageTerms snapshot = some (mileageLimitKm, unitPriceCents, periodMonths)) :
    isSafe unitPriceCents = true := by
  unfold mileageTerms at h
  dsimp only at h
  split at h
  · rename_i hunit
    split at h
    · obtain ⟨-, rfl, -⟩ := Option.some.inj h
      exact exactNonnegativeInteger_safe hunit
    · cases h
  · cases h

theorem isSafeInteger_natCast (n : Nat) : isSafeInteger (n : ℚ) = isSafe n := by
  have hcast : ((n : Int) : ℚ) = (n : ℚ) := Int.cast_natCast n
  rw [← hcast]
  exact isSafeInteger_intCast n

theorem cents_ofNat {n : Nat} (h : isSafe n = true) : cents (some (ofNat n)) = .ok (n : Int) := by
  have hsafe : isSafeInteger (n : ℚ) = true ∧ 0 ≤ (n : ℚ) :=
    ⟨(isSafeInteger_natCast n).trans h, Nat.cast_nonneg n⟩
  have hnum : (n : ℚ).num = n := Rat.num_natCast n
  simp only [cents, ofNat, if_pos hsafe, hnum]

theorem optionalQuantity_ofNat {n : Nat} :
    (∃ included, optionalQuantity (some (ofNat n)) = .ok included) ↔ isSafe n = true := by
  have hsafe : isSafeInteger (n : ℚ) = true ∧ 0 ≤ (n : ℚ) ↔ isSafe n = true := by
    rw [isSafeInteger_natCast]
    exact and_iff_left (Nat.cast_nonneg n)
  simp only [optionalQuantity, ofNat, hsafe]
  by_cases h : isSafe n = true
  · simp [h]
  · simp [h]

variable {mileageLimitKm unitPriceCents periodMonths : Nat} {contentTemplate : String}

/-- The clause as `priceClosureCharge` takes it. -/
def pricingOf (clause : CompiledContractChargeClause) : PricingClause :=
  ⟨clause.clauseCode, clause.pricingSnapshot, clause.status⟩

/-- A charge for nothing. -/
def zeroInput (clause : PricingClause) : PriceClosureChargeInput where
  chargeType := "OVER_MILEAGE"
  clause := some clause
  evidenceIds := ["evidence"]
  manualBasis := none
  priorBilledAmountCents := none
  priorBillIds := []
  quantity := 0

/-- The clause of the mileage prices every quantity if the included kilometers are a safe integer. -/
theorem overMileageClause_prices (hprice : isSafe unitPriceCents = true) :
    PricesItem sha256 (overMileageClause sha256 mileageLimitKm unitPriceCents periodMonths contentTemplate)
      item charge ↔ isSafe (mileageLimitKm * periodMonths : Nat) = true := by
  constructor
  · rintro (⟨-, hprices⟩ | ⟨hmanual, -⟩)
    · obtain ⟨priced, hpriced, -⟩ := hprices (zeroInput (pricingOf
        (overMileageClause sha256 mileageLimitKm unitPriceCents periodMonths contentTemplate)))
        rfl rfl le_rfl (List.cons_ne_nil _ _) le_rfl
      obtain ⟨terms, hchargeable, -⟩ := (priceClosureCharge_iff rfl rfl).1 hpriced
      obtain ⟨included, -, -, hincluded, -⟩ := clauseTerms_iff.1 hchargeable.read
      exact optionalQuantity_ofNat.1 ⟨included, hincluded⟩
    · cases hmanual
  · intro hsafe
    refine .inl ⟨rfl, fun input hclause hquantity hnonneg hevidence hprior => ?_⟩
    obtain ⟨included, hincluded⟩ := optionalQuantity_ofNat.2 hsafe
    have hread : clauseTerms (pricingOf
        (overMileageClause sha256 mileageLimitKm unitPriceCents periodMonths contentTemplate)) =
        .ok ⟨unitPriceCents, none, included.getD 0⟩ :=
      clauseTerms_iff.2 ⟨included, cents_ofNat hprice, rfl, hincluded, rfl⟩
    have hwritable : CapWritable input := by
      unfold CapWritable
      rw [hclause]
      rfl
    obtain ⟨priced, hpriced, hfinal, -⟩ := Chargeable.charged
      ⟨hclause, rfl, hread, hquantity, hnonneg, hevidence, hprior, hwritable⟩
    exact ⟨priced, hpriced, hfinal⟩

theorem priorMileageBills_nonneg {line : PricingLine} {bills : List ReceivableBill}
    (h : ∀ bill ∈ bills, 0 ≤ bill.amount) :
    0 ≤ ((priorMileageBills line bills).map (·.amount)).sum := by
  refine List.sum_nonneg fun amount hamount => ?_
  obtain ⟨bill, hbill, rfl⟩ := List.mem_map.1 hamount
  unfold priorMileageBills at hbill
  split at hbill
  · exact h bill (List.mem_of_mem_filter hbill)
  · cases hbill

/-- A clause that waits for a review prices the item by any line with an approved price. -/
theorem manualClause_prices (hcharge : governedChargeFactsForDeltaItem item = .ok charge) :
    PricesItem sha256 (manualClause sha256 charge.chargeType contentTemplate) item charge := by
  refine .inr ⟨rfl, fun line bills htype hquantity hevidence happroval hbasis hprice hbills => ?_⟩
  obtain ⟨-, -, hsafe, hnonneg⟩ := governed_ok hcharge
  obtain ⟨price, hgiven, hdecimal⟩ := hprice
  obtain ⟨basis, hbasis⟩ := Option.isSome_iff_exists.1 hbasis
  obtain ⟨amount, hamount⟩ := Option.isSome_iff_exists.1 hdecimal
  have hnonempty : price ≠ "" := by
    rintro rfl
    cases hamount
  have hmanual : (linePriceInput (some (manualClause sha256 charge.chargeType contentTemplate)) line
      bills).clause = some ⟨charge.chargeType, [("unitPriceCents", .text price)], .executable⟩ := by
    have hpricing : manualPricing (some (manualClause sha256 charge.chargeType contentTemplate)) line =
        some ⟨charge.chargeType, [("unitPriceCents", .text price)], .executable⟩ := by
      have hfiltered : line.manualUnitPriceCents.filter (· ≠ "") = some price := by
        rw [hgiven]
        exact if_pos (decide_eq_true hnonempty)
      unfold manualPricing
      rw [hfiltered, hbasis]
      rfl
    simp only [linePriceInput, hpricing, Option.some_or]
  have hread : clauseTerms ⟨charge.chargeType, [("unitPriceCents", .text price)], .executable⟩ =
      .ok ⟨amount, none, 0⟩ := by
    refine clauseTerms_iff.2 ⟨none, ?_, rfl, rfl, rfl⟩
    change cents (some (.text price)) = _
    simp only [cents, hamount]
  have hwritable : CapWritable
      (linePriceInput (some (manualClause sha256 charge.chargeType contentTemplate)) line bills) := by
    unfold CapWritable
    rw [hmanual]
    rfl
  have hline : isSafeInteger line.quantity = true ∧ 0 ≤ line.quantity := by
    rw [hquantity, isSafeInteger_intCast]
    exact ⟨hsafe, Int.cast_nonneg hnonneg⟩
  obtain ⟨priced, hpriced, hfinal, -⟩ := Chargeable.charged
    ⟨hmanual, rfl, hread, hline.1, hline.2, hevidence, priorMileageBills_nonneg hbills, hwritable⟩
  refine ⟨priced, ?_, hfinal⟩
  have haccepted : finalLineRefused (some (manualClause sha256 charge.chargeType contentTemplate)) line =
      false := by
    simp [finalLineRefused, manualClause, finalize, htype, happroval, hbasis, hgiven, hamount]
  have hmatches : (line.chargeType == charge.chargeType && line.quantity == (charge.quantity : ℚ)) =
      true := by
    simp [htype, hquantity]
  unfold finalCharge
  simp only [require_bind, haccepted, Bool.not_false, Bool.or_true, true_and]
  rw [hcharge]
  simp only [Except.mapError]
  rw [bind_eq rfl, require_bind]
  refine ⟨hmatches, ?_⟩
  rw [hpriced]

/-! ## The items of a confirmed delta -/

theorem deltaItem_billable (delivery returned : List RecordedFact) (itemCode : String) :
    (deltaItem delivery returned itemCode).responsibility = .normalWear ∨
      Billable (deltaItem delivery returned itemCode) := by
  unfold deltaItem
  dsimp only
  split
  · rename_i hmileage
    exact .inr (.inl hmileage.1)
  · split
    · exact .inr (.inr (.inl rfl))
    · split
      · exact .inr (.inr (.inl rfl))
      · split
        · exact .inr (.inr (.inr rfl))
        · exact .inl rfl

variable {toUpperCase : String → String} {delivery returned : List ConditionFact}
  {decisions : List ConditionDeltaDecision} {base confirmed : DeltaResult}

/-- What the decisions leave to the customer is the mileage, or is missing or damaged. -/
theorem confirmed_billable
    (hbase : buildConditionDelta toUpperCase sha256 delivery returned = .ok base)
    (hconfirmed : applyConditionDeltaDecisions toUpperCase sha256 base.items decisions = .ok confirmed)
    (hitem : item ∈ confirmed.items) (hcustomer : item.responsibility = .customer) : Billable item := by
  obtain ⟨-, -, rfl⟩ := buildConditionDelta_iff.1 hbase
  obtain ⟨hallowed, -, -, rfl⟩ := applyConditionDeltaDecisions_iff.1 hconfirmed
  rw [resolvedOf_items] at hitem
  obtain ⟨before, hbefore, rfl⟩ := List.mem_map.1 hitem
  have hkind := deltaItem_billable (delivery.map (recordedFact toUpperCase))
    (returned.map (recordedFact toUpperCase)) before.itemCode
  rw [← mem_deltaOf hbefore] at hkind
  rcases hkind with hwear | hbillable
  · -- An item of normal wear is not decided.
    have hnodup : ((deltaOf sha256 (delivery.map (recordedFact toUpperCase))
        (returned.map (recordedFact toUpperCase))).items.map (·.itemCode)).Nodup := by
      rw [deltaOf_codes]
      exact unionCodes_nodup _ _
    have hsame := decided_settled hnodup hallowed hbefore (by rw [hwear]; decide)
    rw [hsame, hwear] at hcustomer
    cases hcustomer
  · have hfields := decided_eq (decisions.map (normalizedDecision toUpperCase)) before
    rw [hfields]
    exact hbillable

theorem priceable_covered (h : Priceable sha256 snapshot item) : Covered snapshot item := by
  obtain ⟨charge, clause, hcharge, hfilter, hprices⟩ := h
  obtain ⟨hsafe, htype, -, -⟩ := governed_ok hcharge
  have hclause : clause ∈ (compileContractChargeClauses sha256 snapshot).filter
      (·.chargeType == charge.chargeType) := by
    rw [hfilter]
    exact List.mem_singleton_self clause
  obtain ⟨hmem, hkey⟩ := List.mem_filter.1 hclause
  have hclauseType : clause.chargeType = charge.chargeType := by simpa using hkey
  refine ⟨hsafe, ?_⟩
  by_cases hmileage : item.itemCode = "MILEAGE"
  · refine .inl ⟨hmileage, fun mileageLimitKm unitPriceCents periodMonths hterms => ?_⟩
    have hfirst : overMileageClause sha256 mileageLimitKm unitPriceCents periodMonths
        (contentTemplate snapshot) ∈ compileContractChargeClauses sha256 snapshot := by
      unfold compileContractChargeClauses
      rw [hterms]
      exact List.mem_cons_self
    have hmileageType : charge.chargeType = "OVER_MILEAGE" := by
      rw [htype, chargeTypeOf, if_pos hmileage]
    have honly := compile_filter hfirst
    rw [hmileageType] at hfilter
    obtain rfl : clause = overMileageClause sha256 mileageLimitKm unitPriceCents periodMonths
        (contentTemplate snapshot) := List.singleton_inj.1 (hfilter.symm.trans honly)
    exact (overMileageClause_prices (mileageTerms_price_safe hterms)).1 hprices
  · refine .inr ((chargeTypeOf_mem_iff hmileage).1 ?_)
    rw [← htype, ← hclauseType, ← compile_chargeTypes sha256 snapshot]
    exact List.mem_map_of_mem hmem

theorem covered_priceable (hcustomer : item.responsibility = .customer) (hbillable : Billable item)
    (h : Covered snapshot item) : Priceable sha256 snapshot item := by
  obtain ⟨hsafe, hcode⟩ := h
  obtain ⟨charge, hcharge⟩ := governed_exists hcustomer hbillable hsafe
  obtain ⟨-, htype, -, -⟩ := governed_ok hcharge
  by_cases hmileage : item.itemCode = "MILEAGE"
  · have hmileageType : charge.chargeType = "OVER_MILEAGE" := by
      rw [htype, chargeTypeOf, if_pos hmileage]
    have hnone : "MILEAGE" ∉ clauseItemCodes := by decide
    have hincluded : IncludedQuantitySafe snapshot := by
      rcases hcode with ⟨-, hincluded⟩ | hcode
      · exact hincluded
      · exact absurd (hmileage ▸ hcode) hnone
    cases hterms : mileageTerms snapshot with
    | none =>
      have hfirst : manualClause sha256 charge.chargeType (contentTemplate snapshot) ∈
          compileContractChargeClauses sha256 snapshot := by
        unfold compileContractChargeClauses
        rw [hterms, hmileageType]
        exact List.mem_cons_self
      exact ⟨charge, _, hcharge, compile_filter hfirst, manualClause_prices hcharge⟩
    | some terms =>
      obtain ⟨mileageLimitKm, unitPriceCents, periodMonths⟩ := terms
      have hfirst : overMileageClause sha256 mileageLimitKm unitPriceCents periodMonths
          (contentTemplate snapshot) ∈ compileContractChargeClauses sha256 snapshot := by
        unfold compileContractChargeClauses
        rw [hterms]
        exact List.mem_cons_self
      have hprices : PricesItem sha256 (overMileageClause sha256 mileageLimitKm unitPriceCents
          periodMonths (contentTemplate snapshot)) item charge :=
        (overMileageClause_prices (mileageTerms_price_safe hterms)).2 (hincluded _ _ _ hterms)
      refine ⟨charge, _, hcharge, ?_, hprices⟩
      rw [hmileageType]
      exact compile_filter hfirst
  · have hitemCode : item.itemCode ∈ clauseItemCodes := by
      rcases hcode with ⟨hcode, -⟩ | hcode
      · exact absurd hcode hmileage
      · exact hcode
    have hfound : manualClause sha256 charge.chargeType (contentTemplate snapshot) ∈
        compileContractChargeClauses sha256 snapshot := by
      unfold compileContractChargeClauses
      refine List.mem_cons_of_mem _ (List.mem_flatMap.2 ⟨item.itemCode, hitemCode, ?_⟩)
      rw [htype, chargeTypeOf, if_neg hmileage]
      by_cases hwear : item.wearClassification = .newDamage
      · rw [if_pos hwear]
        exact List.mem_cons_of_mem _ List.mem_cons_self
      · rw [if_neg hwear]
        exact List.mem_cons_self
    exact ⟨charge, _, hcharge, compile_filter hfound, manualClause_prices hcharge⟩

/-- What a confirmed delta leaves to the customer can be priced if and only if it is covered. -/
theorem confirmed_priceable_iff (toUpperCase : String → String) (sha256 : Text → String)
    (snapshot : Unknown) (delivery returned : List ConditionFact) (decisions : List ConditionDeltaDecision)
    (base confirmed : DeltaResult)
    (hbase : buildConditionDelta toUpperCase sha256 delivery returned = .ok base)
    (hconfirmed : applyConditionDeltaDecisions toUpperCase sha256 base.items decisions = .ok confirmed) :
    (∀ item ∈ confirmed.items, item.responsibility = .customer → Priceable sha256 snapshot item) ↔
      ∀ item ∈ confirmed.items, item.responsibility = .customer → Covered snapshot item := by
  constructor
  · intro h item hitem hcustomer
    exact priceable_covered (h item hitem hcustomer)
  · intro h item hitem hcustomer
    exact covered_priceable hcustomer (confirmed_billable hbase hconfirmed hitem hcustomer)
      (h item hitem hcustomer)

/-- The sample return with the damage decided. -/
def sampleDecisions : List ConditionDeltaDecision := [⟨"By the photos.", "vehicle_exterior", .customer⟩]

def sampleConfirmed : DeltaResult where
  items := sampleDelta.items.map fun item =>
    if item.itemCode = "VEHICLE_EXTERIOR" then
      { item with decisionReason := "By the photos.", responsibility := .customer }
    else item
  resultHash := ""

theorem sampleConfirmed_decided :
    applyConditionDeltaDecisions String.toUpper (fun _ => "") sampleDelta.items sampleDecisions =
      .ok sampleConfirmed := by
  decide +kernel

theorem confirmed_priceable_sample :
    (∀ item ∈ sampleConfirmed.items, item.responsibility = .customer →
        Priceable (fun _ => "") (.object []) item) ↔
      ∀ item ∈ sampleConfirmed.items, item.responsibility = .customer → Covered (.object []) item :=
  confirmed_priceable_iff String.toUpper (fun _ => "") (.object []) sampleDelivery sampleReturn
    sampleDecisions sampleDelta sampleConfirmed sampleDelta_built sampleConfirmed_decided

/-- A return of everything but the items of the customer, which the checklist requires. -/
def customerItemsChecklist : List ChecklistItem :=
  requiredItemCodes.map fun itemCode =>
    if itemCode = "CUSTOMER_ITEMS" then ⟨none, itemCode, none, some 0, .missing⟩
    else if itemCode = "KEY" then ⟨none, itemCode, none, some 2, .normal⟩
    else if itemCode = "MILEAGE" then ⟨none, itemCode, none, some 12000, .normal⟩
    else ⟨none, itemCode, none, some 1, .normal⟩

def customerItem : ConditionDeltaItem where
  decisionReason := "Returned quantity/state is below the signed delivery baseline."
  deliveryState := "NOT_APPLICABLE"
  itemCode := "CUSTOMER_ITEMS"
  quantityDifference := 0
  responsibility := .customer
  returnState := "MISSING"
  wearClassification := .missing

theorem customerItem_not_covered (snapshot : Unknown) : ¬ Covered snapshot customerItem := by
  rintro ⟨-, ⟨hmileage, -⟩ | hcode⟩
  · exact absurd hmileage (by decide)
  · exact absurd hcode (by decide)

def deliveredFacts : List RecordedFact :=
  [⟨"ACCESSORIES", 0, "NOT_APPLICABLE"⟩, ⟨"BATTERY", 1, "NORMAL"⟩,
    ⟨"CHARGING_EQUIPMENT", 0, "NOT_APPLICABLE"⟩, ⟨"CUSTOMER_ITEMS", 0, "NOT_APPLICABLE"⟩,
    ⟨"KEY", 0, "MISSING"⟩, ⟨"MILEAGE", 12000, "NORMAL"⟩, ⟨"REGISTRATION_CERTIFICATE", 1, "NORMAL"⟩,
    ⟨"VEHICLE_EXTERIOR", 1, "NORMAL"⟩, ⟨"VEHICLE_INTERIOR", 1, "NORMAL"⟩]

def returnedFacts : List RecordedFact :=
  [⟨"ACCESSORIES", 1, "NORMAL"⟩, ⟨"BATTERY", 1, "NORMAL"⟩, ⟨"CHARGING_EQUIPMENT", 1, "NORMAL"⟩,
    ⟨"CUSTOMER_ITEMS", 0, "MISSING"⟩, ⟨"KEY", 2, "NORMAL"⟩, ⟨"MILEAGE", 12000, "NORMAL"⟩,
    ⟨"REGISTRATION_CERTIFICATE", 1, "NORMAL"⟩, ⟨"VEHICLE_EXTERIOR", 1, "NORMAL"⟩,
    ⟨"VEHICLE_INTERIOR", 1, "NORMAL"⟩]

/-- What the steps make of that return. -/
theorem customerItems_steps :
    (deliveryConditionFacts keylessWorkOrder).map (recordedFact String.toUpper) = deliveredFacts ∧
      (returnFacts customerItemsChecklist).map (recordedFact String.toUpper) = returnedFacts ∧
      normalizeChecklistItems String.toUpper customerItemsChecklist = .ok customerItemsChecklist ∧
      (buildConditionDelta String.toUpper (fun _ => "") (deliveryConditionFacts keylessWorkOrder)
        (returnFacts customerItemsChecklist)).toOption.any (fun _ => true) = true := by
  decide +kernel

/-- Nothing of it is left undetermined, and the items of the customer are the customer's. -/
theorem customerItems_items :
    (∀ itemCode ∈ (deliveredFacts ++ returnedFacts).map (·.itemCode),
        (deltaItem deliveredFacts returnedFacts itemCode).responsibility ≠ .undetermined) ∧
      deltaItem deliveredFacts returnedFacts "CUSTOMER_ITEMS" = customerItem ∧
      "CUSTOMER_ITEMS" ∈ (deliveredFacts ++ returnedFacts).map (·.itemCode) := by
  decide +kernel

/-- The items of the customer are charged to the customer, and no contract has a clause for them. -/
theorem customerItems_not_priceable :
    normalizeChecklistItems String.toUpper customerItemsChecklist = .ok customerItemsChecklist ∧
      ∃ base confirmed, buildConditionDelta String.toUpper (fun _ => "")
          (deliveryConditionFacts keylessWorkOrder) (returnFacts customerItemsChecklist) = .ok base ∧
        applyConditionDeltaDecisions String.toUpper (fun _ => "") base.items [] = .ok confirmed ∧
        customerItem ∈ confirmed.items ∧
        ∀ snapshot, ¬ Priceable (fun _ => "") snapshot customerItem := by
  obtain ⟨hdelivered, hreturned, hnormalized, hbuilds⟩ := customerItems_steps
  obtain ⟨hsettled, hitem, hcode⟩ := customerItems_items
  refine ⟨hnormalized, ?_⟩
  obtain ⟨base, hbase, -⟩ := ok_of_any hbuilds
  obtain ⟨-, -, hbuilt⟩ := buildConditionDelta_iff.1 hbase
  have hdelta : base = deltaOf (fun _ => "") deliveredFacts returnedFacts := by
    rw [← hdelivered, ← hreturned]
    exact hbuilt
  have hmem : customerItem ∈ (deltaOf (fun _ => "") deliveredFacts returnedFacts).items :=
    List.mem_map.2 ⟨"CUSTOMER_ITEMS", mem_unionCodes.2 hcode, hitem⟩
  have hsettles : Settles base.items [] := by
    intro item hitem hundetermined
    rw [hdelta] at hitem
    obtain ⟨itemCode, hcode, rfl⟩ := List.mem_map.1 hitem
    exact absurd hundetermined (hsettled itemCode (mem_unionCodes.1 hcode))
  have hconfirmed : applyConditionDeltaDecisions String.toUpper (fun _ => "") base.items [] =
      .ok (resolvedOf (fun _ => "") base.items []) :=
    applyConditionDeltaDecisions_iff.2 ⟨List.forall_mem_nil _, List.nodup_nil, hsettles, rfl⟩
  refine ⟨base, _, hbase, hconfirmed, ?_, fun snapshot h => ?_⟩
  · rw [hdelta, resolvedOf_items]
    exact List.mem_map.2 ⟨customerItem, hmem, rfl⟩
  · exact customerItem_not_covered snapshot (priceable_covered h)

end SubscriptionSaas.Closure.Pricing
