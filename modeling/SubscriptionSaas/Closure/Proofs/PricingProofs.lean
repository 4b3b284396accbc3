import SubscriptionSaas.Closure.Pricing

/-!
# What a charge comes to

A charge that is accepted has the amount `trueUp` of the terms of its clause (`amountAt_eq`). The cap bounds
each amount and not the total, so that the total keeps to it only while the price is not above both the
cap and what was billed before.
-/

namespace SubscriptionSaas.Closure.Pricing

open Results Unknowns ReturnDelta Contract.ChargeClauses

variable {sha256 : Text → String} {input : PriceClosureChargeInput} {clause : PricingClause}
  {terms : ClauseTerms} {charge : ClosureCharge} {quantity quantity' prior : Int}

/-! ## The text that is hashed -/

theorem stringifyEntries_texts (texts : List String) :
    (stringifyEntries (texts.map .text)).isSome = true := by
  induction texts with
  | nil => rfl
  | cons text texts ih =>
    obtain ⟨entries, hentries⟩ := Option.isSome_iff_exists.1 ih
    simp [stringifyEntries, Unknown.stringify, hentries]

theorem orNull_stringify (text : Option String) : (orNull text).stringify.isSome = true := by
  cases text with
  | none => rfl
  | some text => rfl

/-- Only a cap that is a `bigint` cannot be written. -/
theorem value_stringify (snapshot : CalculationSnapshot) :
    snapshot.value.stringify.isSome = (snapshot.capCents.getD .null).stringify.isSome := by
  obtain ⟨evidenceIds, hevidence⟩ := Option.isSome_iff_exists.1 (stringifyEntries_texts snapshot.evidenceIds)
  obtain ⟨billIds, hbills⟩ := Option.isSome_iff_exists.1 (stringifyEntries_texts snapshot.priorBillIds)
  obtain ⟨clauseCode, hclause⟩ := Option.isSome_iff_exists.1 (orNull_stringify snapshot.clauseCode)
  obtain ⟨exceptionCode, hexception⟩ := Option.isSome_iff_exists.1 (orNull_stringify snapshot.exceptionCode)
  obtain ⟨basis, hbasis⟩ := Option.isSome_iff_exists.1 (orNull_stringify snapshot.manualBasis)
  cases hcap : (snapshot.capCents.getD .null).stringify with
  | none =>
    simp [CalculationSnapshot.value, Unknown.stringify, stringifyMembers, hcap]
  | some cap =>
    simp [CalculationSnapshot.value, Unknown.stringify, stringifyMembers, hcap, hevidence, hbills, hclause,
      hexception, hbasis]

/-- The cap of the clause can be written. -/
def CapWritable (input : PriceClosureChargeInput) : Prop :=
  ((input.clause.bind (·.pricingSnapshot.get "capCents")).getD .null).stringify.isSome = true

theorem result_iff {status : ChargeStatus} {chargeable unitPrice amount : Int} {code : Option String} :
    (∃ charge, result sha256 input status chargeable unitPrice amount code = .ok charge) ↔
      CapWritable input := by
  unfold result CapWritable
  dsimp only
  generalize hsnapshot : CalculationSnapshot.mk amount _ chargeable _ _ _ _ _ _ _ _ _ = snapshot
  have hwritten := value_stringify snapshot
  have hcap : snapshot.capCents = input.clause.bind (·.pricingSnapshot.get "capCents") := by
    rw [← hsnapshot]
  rw [hcap] at hwritten
  rw [← hwritten]
  cases snapshot.value.stringify with
  | none => simp
  | some text => simp

theorem result_ok {status : ChargeStatus} {chargeable unitPrice amount : Int} {code : Option String}
    (h : result sha256 input status chargeable unitPrice amount code = .ok charge) :
    charge.amountCents = amount ∧ charge.status = status := by
  unfold result at h
  dsimp only at h
  split at h
  · obtain rfl := Except.ok.inj h
    exact ⟨rfl, rfl⟩
  · cases h

/-! ## The amount of a charge -/

/-- What is left of the price after the amount billed before. -/
def unbilled (terms : ClauseTerms) (quantity prior : Int) : Int :=
  if prior < terms.gross quantity then terms.gross quantity - prior else 0

/-- It is charged up to the cap. -/
def trueUp (terms : ClauseTerms) (quantity prior : Int) : Int :=
  match terms.capCents with
  | none => unbilled terms quantity prior
  | some cap => if cap < unbilled terms quantity prior then cap else unbilled terms quantity prior

/-- A charge by an executable clause that the code accepts. -/
structure Chargeable (input : PriceClosureChargeInput) (clause : PricingClause) (terms : ClauseTerms) :
    Prop where
  found : input.clause = some clause
  executable : clause.status = .executable
  read : clauseTerms clause = .ok terms
  safe : isSafeInteger input.quantity = true
  nonneg : 0 ≤ input.quantity
  evidence : input.evidenceIds ≠ []
  priorNonneg : 0 ≤ input.priorBilledAmountCents.getD 0
  writable : CapWritable input

theorem clauseTerms_iff : clauseTerms clause = .ok terms ↔
    ∃ included, cents (clause.pricingSnapshot.get "unitPriceCents") = .ok terms.unitPriceCents ∧
      optionalCents (clause.pricingSnapshot.get "capCents") = .ok terms.capCents ∧
      optionalQuantity (clause.pricingSnapshot.get "includedQuantity") = .ok included ∧
      terms.includedQuantity = included.getD 0 := by
  unfold clauseTerms
  constructor
  · intro h
    obtain ⟨unitPrice, hunit, h⟩ := bind_ok h
    obtain ⟨cap, hcap, h⟩ := bind_ok h
    obtain ⟨included, hincluded, h⟩ := bind_ok h
    obtain rfl := Except.ok.inj h
    exact ⟨included, hunit, hcap, hincluded, rfl⟩
  · rintro ⟨included, hunit, hcap, hincluded, hvalue⟩
    rw [bind_eq hunit, bind_eq hcap, bind_eq hincluded, ← hvalue]

/-- An executable clause prices what is chargeable, and nothing else. -/
theorem priceClosureCharge_iff (hclause : input.clause = some clause)
    (hexecutable : clause.status = .executable) :
    priceClosureCharge sha256 input = .ok charge ↔ ∃ terms, Chargeable input clause terms ∧
      result sha256 input .final (max 0 (input.quantity.num - terms.includedQuantity))
        terms.unitPriceCents
        (trueUp terms input.quantity.num (input.priorBilledAmountCents.getD 0)) none = .ok charge := by
  have hfilter : input.clause.filter (·.status == .executable) = some clause := by
    simp [hclause, hexecutable]
  unfold priceClosureCharge
  rw [require_bind]
  simp only [hfilter, require_bind, Bool.and_eq_true, decide_eq_true_eq, Bool.not_eq_true',
    List.isEmpty_eq_false_iff]
  constructor
  · rintro ⟨⟨hsafe, hnonneg⟩, hevidence, h⟩
    obtain ⟨unitPrice, hunit, h⟩ := bind_ok h
    obtain ⟨cap, hcap, h⟩ := bind_ok h
    obtain ⟨included, hincluded, h⟩ := bind_ok h
    rw [require_bind] at h
    obtain ⟨hprior, h⟩ := h
    have hterms : clauseTerms clause = .ok ⟨unitPrice, cap, included.getD 0⟩ :=
      clauseTerms_iff.2 ⟨included, hunit, hcap, hincluded, rfl⟩
    exact ⟨_, ⟨hclause, hexecutable, hterms, hsafe, hnonneg, hevidence, of_decide_eq_true hprior,
      result_iff.1 ⟨charge, h⟩⟩, h⟩
  · rintro ⟨terms, hchargeable, h⟩
    obtain ⟨included, hunit, hcap, hincluded, hvalue⟩ := clauseTerms_iff.1 hchargeable.read
    refine ⟨⟨hchargeable.safe, hchargeable.nonneg⟩, hchargeable.evidence, ?_⟩
    rw [bind_eq hunit, bind_eq hcap, bind_eq hincluded, require_bind, ← hvalue]
    exact ⟨decide_eq_true hchargeable.priorNonneg, h⟩

/-- What is chargeable is charged what is left of its price. -/
theorem Chargeable.charged (h : Chargeable input clause terms) :
    ∃ charge, priceClosureCharge sha256 input = .ok charge ∧ charge.status = .final ∧
      charge.amountCents = trueUp terms input.quantity.num (input.priorBilledAmountCents.getD 0) := by
  have hwritten : ∃ charge, result sha256 input .final
      (max 0 (input.quantity.num - terms.includedQuantity)) terms.unitPriceCents
      (trueUp terms input.quantity.num (input.priorBilledAmountCents.getD 0)) none = .ok charge :=
    result_iff.2 h.writable
  obtain ⟨charge, hcharge⟩ := hwritten
  obtain ⟨hamount, hstatus⟩ := result_ok hcharge
  exact ⟨charge, (priceClosureCharge_iff h.found h.executable).2 ⟨terms, h, hcharge⟩, hstatus, hamount⟩

theorem isSafeInteger_intCast (n : Int) : isSafeInteger (n : ℚ) = isSafe n := by
  unfold isSafeInteger
  rw [Rat.den_intCast, Rat.num_intCast]
  rfl

/-- The charge for another quantity, after another amount billed before. -/
theorem amountAt_eq (h : Chargeable input clause terms) (hsafe : isSafe quantity = true)
    (hquantity : 0 ≤ quantity) (hprior : 0 ≤ prior) :
    amountAt sha256 input quantity prior = some (trueUp terms quantity prior) := by
  have hat : Chargeable (input.at quantity prior) clause terms :=
    ⟨h.found, h.executable, h.read, (isSafeInteger_intCast quantity).trans hsafe,
      Int.cast_nonneg hquantity, h.evidence, hprior, h.writable⟩
  obtain ⟨charge, hcharge, -, hamount⟩ := hat.charged
  have hnum : (input.at quantity prior).quantity.num = quantity := Rat.num_intCast quantity
  rw [hnum] at hamount
  unfold amountAt
  rw [hcharge]
  exact congrArg some hamount

/-! ## The terms of a clause -/

theorem cents_nonneg {value : Option Unknown} {amount : Int} (h : cents value = .ok amount) :
    0 ≤ amount := by
  unfold cents at h
  split at h
  · split at h
    · rename_i hvalue
      obtain rfl := Except.ok.inj h
      exact hvalue
    · cases h
  · split at h
    · rename_i hvalue
      obtain rfl := Except.ok.inj h
      exact Rat.num_nonneg.2 hvalue.2
    · cases h
  · split at h
    · obtain rfl := Except.ok.inj h
      exact Int.natCast_nonneg _
    · cases h
  · cases h

theorem optionalCents_nonneg {value : Option Unknown} {amount : Int}
    (h : optionalCents value = .ok (some amount)) : 0 ≤ amount := by
  cases value with
  | none => cases h
  | some value =>
    unfold optionalCents at h
    cases hcents : cents (some value) with
    | error message => simp [hcents, Functor.map, Except.map] at h
    | ok cap =>
      simp only [hcents, Functor.map, Except.map, Except.ok.injEq, Option.some.injEq] at h
      exact h ▸ cents_nonneg hcents

theorem Chargeable.price_nonneg (h : Chargeable input clause terms) : 0 ≤ terms.unitPriceCents := by
  obtain ⟨_, hunit, -⟩ := clauseTerms_iff.1 h.read
  exact cents_nonneg hunit

theorem Chargeable.cap_nonneg (h : Chargeable input clause terms) {cap : Int}
    (hcap : terms.capCents = some cap) : 0 ≤ cap := by
  obtain ⟨_, -, hread, -⟩ := clauseTerms_iff.1 h.read
  rw [hcap] at hread
  exact optionalCents_nonneg hread

theorem gross_nonneg (h : 0 ≤ terms.unitPriceCents) (quantity : Int) : 0 ≤ terms.gross quantity :=
  Int.mul_nonneg h (le_max_left _ _)

theorem gross_mono (h : 0 ≤ terms.unitPriceCents) {less : Int} (hless : less ≤ quantity) :
    terms.gross less ≤ terms.gross quantity := by
  refine Int.mul_le_mul_of_nonneg_left ?_ h
  omega

/-! ## The cap -/

/-- The price is not above the cap, or was billed before, or the cap is zero. -/
def WithinReach (terms : ClauseTerms) (quantity prior : Int) : Prop :=
  ∀ cap, terms.capCents = some cap →
    cap = 0 ∨ terms.gross quantity ≤ prior ∨ terms.gross quantity ≤ cap

theorem unbilled_eq (quantity prior : Int) :
    unbilled terms quantity prior = max 0 (terms.gross quantity - prior) := by
  unfold unbilled
  split <;> omega

theorem trueUp_capped {cap : Int} (hcap : terms.capCents = some cap) (quantity prior : Int) :
    trueUp terms quantity prior = min cap (max 0 (terms.gross quantity - prior)) := by
  simp only [trueUp, hcap, unbilled_eq]
  split <;> omega

theorem trueUp_uncapped (hcap : terms.capCents = none) (quantity prior : Int) :
    trueUp terms quantity prior = max 0 (terms.gross quantity - prior) := by
  simp only [trueUp, hcap, unbilled_eq]

/-- Within reach the total comes to the capped price. -/
theorem trueUp_law (hcap : ∀ cap, terms.capCents = some cap → 0 ≤ cap)
    (hgross : 0 ≤ terms.gross quantity) (hprior : 0 ≤ prior) (h : WithinReach terms quantity prior) :
    prior + trueUp terms quantity prior = max prior (terms.capped (terms.gross quantity)) := by
  unfold ClauseTerms.capped
  cases hsome : terms.capCents with
  | none =>
    rw [trueUp_uncapped hsome]
    simp only
    omega
  | some cap =>
    have hreach := h cap hsome
    have hnonneg := hcap cap hsome
    rw [trueUp_capped hsome]
    simp only
    omega

theorem trueUp_mono (hgross : terms.gross quantity ≤ terms.gross quantity') :
    trueUp terms quantity prior ≤ trueUp terms quantity' prior := by
  cases hsome : terms.capCents with
  | none =>
    rw [trueUp_uncapped hsome, trueUp_uncapped hsome]
    omega
  | some cap =>
    rw [trueUp_capped hsome, trueUp_capped hsome]
    omega

/-- Out of reach the total goes over the cap, now or when it is charged again. -/
theorem withinReach_of_law (hcap : ∀ cap, terms.capCents = some cap → 0 ≤ cap) (hprior : 0 ≤ prior)
    (hlaw : prior + trueUp terms quantity prior = max prior (terms.capped (terms.gross quantity)))
    (hagain : trueUp terms quantity (prior + trueUp terms quantity prior) = 0) :
    WithinReach terms quantity prior := by
  intro cap hsome
  have hnonneg := hcap cap hsome
  rw [trueUp_capped hsome, trueUp_capped hsome] at hagain
  rw [trueUp_capped hsome] at hlaw
  simp only [ClauseTerms.capped, hsome] at hlaw
  by_contra hout
  rw [not_or, not_or] at hout
  obtain ⟨hzero, hbilled, habove⟩ := hout
  -- The price is above the cap, so that nothing can have been billed before.
  have hfirst : prior = 0 := by omega
  omega

/-! ## Charges in turn -/

theorem billedAfter_cons (input : PriceClosureChargeInput) (prior quantity : Int) (quantities : List Int) :
    billedAfter sha256 input prior (quantity :: quantities) =
      (amountAt sha256 input quantity prior).bind fun amount =>
        billedAfter sha256 input (prior + amount) quantities := by
  unfold billedAfter
  rw [List.foldlM_cons]
  cases amountAt sha256 input quantity prior with
  | none => rfl
  | some amount => rfl

theorem isSafe_of_le {less : Int} (hsafe : isSafe quantity = true) (hnonneg : 0 ≤ less)
    (hless : less ≤ quantity) : isSafe less = true := by
  have hbound := of_decide_eq_true hsafe
  refine decide_eq_true ?_
  rw [abs_of_nonneg hnonneg]
  exact hless.trans ((le_abs_self quantity).trans hbound)

theorem WithinReach.part {less more : Int} (hprice : 0 ≤ terms.unitPriceCents)
    (h : WithinReach terms quantity prior) (hless : less ≤ quantity) (hmore : prior ≤ more) :
    WithinReach terms less more := by
  intro cap hsome
  have hgross := gross_mono hprice hless
  rcases h cap hsome with hzero | hbilled | hbelow
  · exact .inl hzero
  · exact .inr (.inl (by omega))
  · exact .inr (.inr (by omega))

theorem capped_mono {gross gross' : Int} (h : gross ≤ gross') : terms.capped gross ≤ terms.capped gross' := by
  unfold ClauseTerms.capped
  cases terms.capCents with
  | none => exact h
  | some cap => exact min_le_min_left cap h

/-- Charges for parts of a quantity and then for all of it come to its capped price. -/
theorem billedAfter_eq (h : Chargeable input clause terms) (hsafe : isSafe quantity = true)
    (hquantity : 0 ≤ quantity) {quantities : List Int}
    (hparts : ∀ part ∈ quantities, 0 ≤ part ∧ part ≤ quantity) (hprior : 0 ≤ prior)
    (hreach : WithinReach terms quantity prior) :
    billedAfter sha256 input prior (quantities ++ [quantity]) =
      some (max prior (terms.capped (terms.gross quantity))) := by
  have hcap : ∀ cap, terms.capCents = some cap → 0 ≤ cap := fun _ => h.cap_nonneg
  induction quantities generalizing prior with
  | nil =>
    rw [List.nil_append, billedAfter_cons, amountAt_eq h hsafe hquantity hprior]
    exact congrArg some (trueUp_law hcap (gross_nonneg h.price_nonneg quantity) hprior hreach)
  | cons part quantities ih =>
    obtain ⟨⟨hpart, hless⟩, hrest⟩ := List.forall_mem_cons.1 hparts
    have hlaw := trueUp_law hcap (gross_nonneg h.price_nonneg part) hprior
      (hreach.part h.price_nonneg hless le_rfl)
    have hnext : prior ≤ prior + trueUp terms part prior := hlaw ▸ le_max_left _ _
    have htop : terms.capped (terms.gross part) ≤ terms.capped (terms.gross quantity) :=
      capped_mono (gross_mono h.price_nonneg hless)
    rw [List.cons_append, billedAfter_cons,
      amountAt_eq h (isSafe_of_le hsafe hpart hless) hpart hprior, Option.bind_some,
      ih hrest (hprior.trans hnext) (hreach.part h.price_nonneg le_rfl hnext), hlaw]
    congr 1
    omega

/-- A charge is cumulative and capped if and only if its price is within reach. -/
theorem priceClosureCharge_cumulative_iff (sha256 : Text → String) (input : PriceClosureChargeInput)
    (clause : PricingClause) (terms : ClauseTerms) (charge : ClosureCharge)
    (hclause : input.clause = some clause) (hexecutable : clause.status = .executable)
    (hterms : clauseTerms clause = .ok terms) (hcharge : priceClosureCharge sha256 input = .ok charge) :
    CumulativeAndCapped sha256 input terms input.quantity.num (input.priorBilledAmountCents.getD 0) ↔
      ∀ cap, terms.capCents = some cap → cap = 0 ∨
        terms.gross input.quantity.num ≤ input.priorBilledAmountCents.getD 0 ∨
        terms.gross input.quantity.num ≤ cap := by
  obtain ⟨terms', hchargeable, -⟩ := (priceClosureCharge_iff hclause hexecutable).1 hcharge
  obtain rfl : terms' = terms := Except.ok.inj (hchargeable.read.symm.trans hterms)
  have hcap : ∀ cap, terms'.capCents = some cap → 0 ≤ cap := fun _ => hchargeable.cap_nonneg
  have hsafe : isSafe input.quantity.num = true := ((Bool.and_eq_true _ _).mp hchargeable.safe).2
  have hquantity : 0 ≤ input.quantity.num := Rat.num_nonneg.2 hchargeable.nonneg
  have hprior := hchargeable.priorNonneg
  generalize input.quantity.num = quantity at hsafe hquantity ⊢
  generalize input.priorBilledAmountCents.getD 0 = prior at hprior ⊢
  have hamount : amountAt sha256 input quantity prior = some (trueUp terms' quantity prior) :=
    amountAt_eq hchargeable hsafe hquantity hprior
  have hgross := gross_nonneg hchargeable.price_nonneg quantity
  constructor
  · intro h
    obtain ⟨amount, hsome, hlaw⟩ := h.law
    obtain rfl : trueUp terms' quantity prior = amount := Option.some.inj (hamount.symm.trans hsome)
    have hnext : 0 ≤ prior + trueUp terms' quantity prior := hlaw ▸ hprior.trans (le_max_left _ _)
    have hagain := h.again _ hsome
    rw [amountAt_eq hchargeable hsafe hquantity hnext] at hagain
    exact withinReach_of_law hcap hprior hlaw (Option.some.inj hagain)
  · intro hreach
    have hlaw := trueUp_law hcap hgross hprior hreach
    have hnext : prior ≤ prior + trueUp terms' quantity prior := hlaw ▸ le_max_left _ _
    refine ⟨⟨_, hamount, hlaw⟩, fun amount cap hsome hcapped => ?_, fun amount hsome => ?_,
      fun quantities hparts => ?_, fun less amount amount' hless hle hsome hsome' => ?_⟩
    · obtain rfl : trueUp terms' quantity prior = amount := Option.some.inj (hamount.symm.trans hsome)
      rw [hlaw]
      unfold ClauseTerms.capped
      rw [hcapped]
      exact max_le_max_left prior (min_le_left _ _)
    · obtain rfl : trueUp terms' quantity prior = amount := Option.some.inj (hamount.symm.trans hsome)
      rw [amountAt_eq hchargeable hsafe hquantity (hprior.trans hnext)]
      have hrepeat := trueUp_law hcap hgross (hprior.trans hnext)
        (WithinReach.part hchargeable.price_nonneg hreach le_rfl hnext)
      congr 1
      omega
    · have hwhole : billedAfter sha256 input prior ([] ++ [quantity]) =
          some (max prior (terms'.capped (terms'.gross quantity))) :=
        billedAfter_eq hchargeable hsafe hquantity (by simp) hprior hreach
      rw [billedAfter_eq hchargeable hsafe hquantity hparts hprior hreach]
      exact hwhole.symm
    · rw [amountAt_eq hchargeable (isSafe_of_le hsafe hless hle) hless hprior] at hsome
      obtain rfl := Option.some.inj hsome
      obtain rfl : trueUp terms' quantity prior = amount' := Option.some.inj (hamount.symm.trans hsome')
      have hmono : trueUp terms' less prior ≤ trueUp terms' quantity prior :=
        trueUp_mono (gross_mono hchargeable.price_nonneg hle)
      omega

/-- The true-up of a mileage of which a part has been billed. -/
def mileageInput : PriceClosureChargeInput where
  chargeType := "OVER_MILEAGE"
  clause := some ⟨"OVER_MILEAGE", [("includedQuantity", ofNat 18000), ("unitPriceCents", ofNat 100)],
    .executable⟩
  evidenceIds := ["return-mileage"]
  manualBasis := none
  priorBilledAmountCents := some 50000
  priorBillIds := ["monthly-mileage-bill"]
  quantity := 19000

theorem priceClosureCharge_cumulative_sample :
    ∃ charge, priceClosureCharge (fun _ => "") mileageInput = .ok charge ∧ charge.amountCents = 50000 ∧
      (CumulativeAndCapped (fun _ => "") mileageInput ⟨100, none, 18000⟩ 19000 50000 ↔
        ∀ cap, (none : Option Int) = some cap → cap = 0 ∨ (100 : Int) * max 0 (19000 - 18000) ≤ 50000 ∨
          (100 : Int) * max 0 (19000 - 18000) ≤ cap) := by
  have hpriced : (priceClosureCharge (fun _ => "") mileageInput).toOption.any
      (·.amountCents == 50000) = true := by decide +kernel
  obtain ⟨charge, hcharge, hamount⟩ := ok_of_any hpriced
  exact ⟨charge, hcharge, eq_of_beq hamount,
    priceClosureCharge_cumulative_iff (fun _ => "") mileageInput _ ⟨100, none, 18000⟩ charge rfl rfl
      (by decide +kernel) hcharge⟩

/-- Three keys at 12000 each with a cap of 30000, of which 10000 have been billed. -/
def keysInput : PriceClosureChargeInput where
  chargeType := "MISSING_KEY"
  clause := some ⟨"MISSING_KEY", [("capCents", ofNat 30000), ("unitPriceCents", ofNat 12000)], .executable⟩
  evidenceIds := ["evidence-1"]
  manualBasis := none
  priorBilledAmountCents := some 10000
  priorBillIds := ["bill-1"]
  quantity := 3

/-- The total comes to 36000. -/
theorem priceClosureCharge_exceeds_cap :
    amountAt (fun _ => "") keysInput 3 10000 = some 26000 ∧
      ¬ CumulativeAndCapped (fun _ => "") keysInput ⟨12000, some 30000, 0⟩ 3 10000 := by
  have hamount : amountAt (fun _ => "") keysInput 3 10000 = some 26000 := by decide +kernel
  refine ⟨hamount, fun h => ?_⟩
  have hbound := h.withinCap 26000 30000 hamount rfl
  omega

end SubscriptionSaas.Closure.Pricing
