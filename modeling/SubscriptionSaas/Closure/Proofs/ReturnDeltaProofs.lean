import Mathlib.Tactic.Linarith
import SubscriptionSaas.Closure.ReturnDelta
import SubscriptionSaas.Lib.KeyedFold
import SubscriptionSaas.Lib.Tables

/-!
# Who is charged for a return

Facts that are accepted are recorded one by one under their normalized codes (`uniqueFacts_iff`), so that
each code has one item, which its own facts determine. An item is charged when the return is worse, and
also when it was missing before and still is (`charged_iff`).
-/

namespace SubscriptionSaas.Closure.ReturnDelta

open KeyedFold Results Tables Unknowns

variable {toUpperCase : String → String} {sha256 : Text → String} {facts delivery returned : List ConditionFact}
  {side : Side} {itemCode : String} {result : DeltaResult}

/-! ## The facts that are recorded -/

def recordedFact (toUpperCase : String → String) (fact : ConditionFact) : RecordedFact :=
  ⟨normalizedCode toUpperCase fact.itemCode, fact.quantity.num.toNat, fact.state⟩

structure Admissible (toUpperCase : String → String) (fact : ConditionFact) : Prop where
  named : normalizedCode toUpperCase fact.itemCode ≠ ""
  integer : fact.quantity.den = 1
  nonneg : 0 ≤ fact.quantity

theorem addFact_adds (toUpperCase : String → String) (side : Side) :
    Adds (addFact toUpperCase side) (Admissible toUpperCase) (recordedFact toUpperCase) (·.itemCode) := by
  intro recorded fact recorded'
  unfold addFact
  rw [require_bind]
  have hnew : (factOf recorded (normalizedCode toUpperCase fact.itemCode)).isNone = true ↔
      normalizedCode toUpperCase fact.itemCode ∉ recorded.map (·.itemCode) := by
    simp [factOf]
  simp only [Bool.and_eq_true, bne_iff_ne, beq_iff_eq, decide_eq_true_eq, hnew, Except.ok.injEq]
  constructor
  · rintro ⟨⟨⟨⟨hnamed, habsent⟩, hinteger⟩, hnonneg⟩, rfl⟩
    exact ⟨⟨hnamed, hinteger, hnonneg⟩, habsent, rfl⟩
  · rintro ⟨⟨hnamed, hinteger, hnonneg⟩, habsent, rfl⟩
    exact ⟨⟨⟨⟨hnamed, habsent⟩, hinteger⟩, hnonneg⟩, rfl⟩

/-- Facts are accepted when each is admissible and no two have one code. -/
structure Accepted (toUpperCase : String → String) (facts : List ConditionFact) : Prop where
  admissible : ∀ fact ∈ facts, Admissible toUpperCase fact
  distinct : (facts.map (normalizedCode toUpperCase ·.itemCode)).Nodup

theorem uniqueFacts_iff {recorded : List RecordedFact} :
    uniqueFacts toUpperCase facts side = .ok recorded ↔
      Accepted toUpperCase facts ∧ recorded = facts.map (recordedFact toUpperCase) := by
  rw [uniqueFacts, foldlM_nil_iff (addFact_adds toUpperCase side)]
  constructor
  · rintro ⟨hadmissible, hdistinct, hrecorded⟩
    exact ⟨⟨hadmissible, hdistinct⟩, hrecorded⟩
  · rintro ⟨⟨hadmissible, hdistinct⟩, hrecorded⟩
    exact ⟨hadmissible, hdistinct, hrecorded⟩

/-! ## The items -/

/-- What is built of recorded facts. -/
def deltaOf (sha256 : Text → String) (delivery returned : List RecordedFact) : DeltaResult :=
  let items := (unionCodes delivery returned).map (deltaItem delivery returned)
  ⟨items, sha256 (canonical items)⟩

theorem buildConditionDelta_iff :
    buildConditionDelta toUpperCase sha256 delivery returned = .ok result ↔
      Accepted toUpperCase delivery ∧ Accepted toUpperCase returned ∧
        result = deltaOf sha256 (delivery.map (recordedFact toUpperCase))
          (returned.map (recordedFact toUpperCase)) := by
  unfold buildConditionDelta
  constructor
  · intro h
    obtain ⟨recorded, hdelivery, h⟩ := bind_ok h
    obtain ⟨recorded', hreturned, h⟩ := bind_ok h
    obtain ⟨haccepted, rfl⟩ := uniqueFacts_iff.1 hdelivery
    obtain ⟨haccepted', rfl⟩ := uniqueFacts_iff.1 hreturned
    exact ⟨haccepted, haccepted', (Except.ok.inj h).symm⟩
  · rintro ⟨hdelivery, hreturned, rfl⟩
    rw [bind_eq (uniqueFacts_iff.2 ⟨hdelivery, rfl⟩), bind_eq (uniqueFacts_iff.2 ⟨hreturned, rfl⟩)]
    rfl

theorem mem_unionCodes {delivery returned : List RecordedFact} :
    itemCode ∈ unionCodes delivery returned ↔ itemCode ∈ (delivery ++ returned).map (·.itemCode) := by
  rw [unionCodes, List.mem_insertionSort, List.mem_dedup]

theorem unionCodes_nodup (delivery returned : List RecordedFact) :
    (unionCodes delivery returned).Nodup :=
  (List.perm_insertionSort _ _).nodup_iff.2 (List.nodup_dedup _)

def differenceAt (delivery returned : List RecordedFact) (itemCode : String) : Int :=
  (((factOf returned itemCode).map (·.quantity)).getD 0 : Nat) -
    (((factOf delivery itemCode).map (·.quantity)).getD 0 : Nat)

/-- Every branch keeps the code and the difference. -/
theorem deltaItem_key (delivery returned : List RecordedFact) (itemCode : String) :
    (deltaItem delivery returned itemCode).itemCode = itemCode ∧
      (deltaItem delivery returned itemCode).quantityDifference =
        differenceAt delivery returned itemCode := by
  unfold deltaItem
  dsimp only
  split
  · exact ⟨rfl, rfl⟩
  · split
    · exact ⟨rfl, rfl⟩
    · split
      · exact ⟨rfl, rfl⟩
      · split
        · exact ⟨rfl, rfl⟩
        · exact ⟨rfl, rfl⟩

def Charged (responsibility : Responsibility) : Prop :=
  responsibility = .customer ∨ responsibility = .undetermined

theorem deltaItem_charged (delivery returned : List RecordedFact) (itemCode : String) :
    Charged (deltaItem delivery returned itemCode).responsibility ↔
      (itemCode = "MILEAGE" ∧ 0 < differenceAt delivery returned itemCode) ∨
        differenceAt delivery returned itemCode < 0 ∨
        ((factOf returned itemCode).map (·.state)).getD "MISSING" = "MISSING" ∨
        (((factOf returned itemCode).map (·.state)).getD "MISSING" = "DAMAGED" ∧
          (factOf delivery itemCode).map (·.state) ≠ some "DAMAGED") := by
  unfold deltaItem
  dsimp only
  split
  · rename_i hmileage
    exact iff_of_true (.inl rfl) (.inl hmileage)
  · rename_i hmileage
    cases hafter : factOf returned itemCode with
    | none => exact iff_of_true (.inl rfl) (.inr (.inr (.inl rfl)))
    | some after =>
      simp only [differenceAt, hafter, Option.map_some, Option.getD_some] at hmileage ⊢
      split
      · rename_i hlost
        refine iff_of_true (.inl rfl) ?_
        rcases hlost with hlost | hless
        · exact .inr (.inr (.inl hlost))
        · exact .inr (.inl hless)
      · rename_i hkept
        rw [not_or] at hkept
        split
        · rename_i hdamaged
          exact iff_of_true (.inr rfl) (.inr (.inr (.inr hdamaged)))
        · rename_i hdamaged
          refine iff_of_false (by rintro (h | h) <;> cases h) ?_
          rintro (h | h | h | h)
          · exact hmileage h
          · exact hkept.2 h
          · exact hkept.1 h
          · exact hdamaged h

theorem deltaOf_codes (delivery returned : List RecordedFact) :
    (deltaOf sha256 delivery returned).items.map (·.itemCode) = unionCodes delivery returned := by
  change ((unionCodes delivery returned).map (deltaItem delivery returned)).map (·.itemCode) = _
  rw [List.map_map]
  conv_rhs => rw [← List.map_id (unionCodes delivery returned)]
  exact List.map_congr_left fun itemCode _ => (deltaItem_key delivery returned itemCode).1

theorem mem_deltaOf {delivery returned : List RecordedFact} {item : ConditionDeltaItem}
    (h : item ∈ (deltaOf sha256 delivery returned).items) :
    item = deltaItem delivery returned item.itemCode := by
  obtain ⟨itemCode, -, rfl⟩ := List.mem_map.1 h
  rw [(deltaItem_key delivery returned itemCode).1]

/-! ## What the facts say -/

theorem factOf_recorded (facts : List ConditionFact) (itemCode : String) :
    factOf (facts.map (recordedFact toUpperCase)) itemCode =
      (factFor toUpperCase facts itemCode).map (recordedFact toUpperCase) := by
  rw [factOf, List.find?_map]
  rfl

theorem recorded_state (facts : List ConditionFact) (itemCode : String) :
    (factOf (facts.map (recordedFact toUpperCase)) itemCode).map (·.state) =
      stateAt toUpperCase facts itemCode := by
  rw [factOf_recorded, Option.map_map]
  rfl

theorem recorded_quantity (h : Accepted toUpperCase facts) (itemCode : String) :
    ((((factOf (facts.map (recordedFact toUpperCase)) itemCode).map (·.quantity)).getD 0 : Nat) : ℚ) =
      quantityAt toUpperCase facts itemCode := by
  rw [factOf_recorded, quantityAt]
  cases hfact : factFor toUpperCase facts itemCode with
  | none => rfl
  | some fact =>
    have hadmissible := h.admissible fact (List.mem_of_find?_eq_some hfact)
    have hnum : ((fact.quantity.num.toNat : Int) : ℚ) = fact.quantity := by
      rw [Int.toNat_of_nonneg (Rat.num_nonneg.2 hadmissible.nonneg)]
      exact (Rat.den_eq_one_iff fact.quantity).1 hadmissible.integer
    exact hnum

theorem differenceAt_recorded (hdelivery : Accepted toUpperCase delivery)
    (hreturned : Accepted toUpperCase returned) (itemCode : String) :
    (differenceAt (delivery.map (recordedFact toUpperCase)) (returned.map (recordedFact toUpperCase))
        itemCode : ℚ) =
      quantityAt toUpperCase returned itemCode - quantityAt toUpperCase delivery itemCode := by
  rw [← recorded_quantity hdelivery, ← recorded_quantity hreturned, differenceAt]
  push_cast
  rfl

/-- An item is charged when it has become worse, and when it is missing as it was before. -/
theorem charged_iff (hdelivery : Accepted toUpperCase delivery)
    (hreturned : Accepted toUpperCase returned) (itemCode : String) :
    Charged (deltaItem (delivery.map (recordedFact toUpperCase))
        (returned.map (recordedFact toUpperCase)) itemCode).responsibility ↔
      Worsened toUpperCase delivery returned itemCode ∨
        MissingBefore toUpperCase delivery returned itemCode := by
  have hdifference := differenceAt_recorded hdelivery hreturned itemCode
  have hhigher : 0 < differenceAt (delivery.map (recordedFact toUpperCase))
      (returned.map (recordedFact toUpperCase)) itemCode ↔
      quantityAt toUpperCase delivery itemCode < quantityAt toUpperCase returned itemCode := by
    rw [← Int.cast_pos (R := ℚ), hdifference, sub_pos]
  have hlower : differenceAt (delivery.map (recordedFact toUpperCase))
      (returned.map (recordedFact toUpperCase)) itemCode < 0 ↔
      quantityAt toUpperCase returned itemCode < quantityAt toUpperCase delivery itemCode := by
    rw [← Int.cast_lt_zero (R := ℚ), hdifference, sub_neg]
  rw [deltaItem_charged, hhigher, hlower, recorded_state, recorded_state]
  unfold Worsened MissingBefore returnStateAt
  generalize (stateAt toUpperCase returned itemCode).getD "MISSING" = returnState
  generalize stateAt toUpperCase delivery itemCode = deliveryState
  constructor
  · rintro (hmileage | hless | rfl | ⟨rfl, hnew⟩)
    · exact .inl (.inr (.inl hmileage))
    · exact .inl (.inl hless)
    · by_cases hstate : deliveryState = some "MISSING"
      · by_cases hless : quantityAt toUpperCase returned itemCode < quantityAt toUpperCase delivery itemCode
        · exact .inl (.inl hless)
        · by_cases hmileage : itemCode = "MILEAGE" ∧
              quantityAt toUpperCase delivery itemCode < quantityAt toUpperCase returned itemCode
          · exact .inl (.inr (.inl hmileage))
          · exact .inr ⟨hstate, rfl, not_lt.1 hless, hmileage⟩
      · exact .inl (.inr (.inr ⟨by simp, hstate⟩))
    · exact .inl (.inr (.inr ⟨by simp, hnew⟩))
  · rintro ((hless | hmileage | ⟨hbad, hnew⟩) | ⟨-, hmissing, -⟩)
    · exact .inr (.inl hless)
    · exact .inl hmileage
    · rcases List.mem_pair.1 hbad with rfl | rfl
      · exact .inr (.inr (.inr ⟨rfl, hnew⟩))
      · exact .inr (.inr (.inl rfl))
    · exact .inr (.inr (.inl hmissing))

theorem not_worsened (h : MissingBefore toUpperCase delivery returned itemCode) :
    ¬ Worsened toUpperCase delivery returned itemCode := by
  obtain ⟨hbefore, hafter, hnotless, hnotmileage⟩ := h
  rintro (hless | hmileage | ⟨-, hnew⟩)
  · exact absurd hless (not_lt.2 hnotless)
  · exact hnotmileage hmileage
  · rw [hafter] at hnew
    exact hnew hbefore

/-! ## The order and the spelling of the facts -/

/-- The record of a fact whose code is normalized. -/
def recordOf (fact : ConditionFact) : RecordedFact :=
  ⟨fact.itemCode, fact.quantity.num.toNat, fact.state⟩

theorem SameFacts.recorded {facts' : List ConditionFact} (h : SameFacts toUpperCase facts facts') :
    (facts.map (recordedFact toUpperCase)).Perm (facts'.map (recordedFact toUpperCase)) := by
  have hrecords := List.Perm.map recordOf h
  rw [List.map_map, List.map_map] at hrecords
  exact hrecords

theorem SameFacts.accepted {facts' : List ConditionFact} (h : SameFacts toUpperCase facts facts')
    (haccepted : Accepted toUpperCase facts) : Accepted toUpperCase facts' := by
  refine ⟨fun fact hfact => ?_, ?_⟩
  · have hmem : normalizedFact toUpperCase fact ∈ facts.map (normalizedFact toUpperCase) :=
      h.mem_iff.2 (List.mem_map_of_mem hfact)
    obtain ⟨before, hbefore, heq⟩ := List.mem_map.1 hmem
    obtain ⟨hnamed, hinteger, hnonneg⟩ := haccepted.admissible before hbefore
    obtain ⟨hcode, hquantity, -⟩ := ConditionFact.mk.inj heq
    exact ⟨hcode ▸ hnamed, hquantity ▸ hinteger, hquantity ▸ hnonneg⟩
  · have hcodes := List.Perm.map (·.itemCode) h
    rw [List.map_map, List.map_map] at hcodes
    exact hcodes.nodup_iff.1 haccepted.distinct

theorem factOf_perm {recorded recorded' : List RecordedFact} (hnodup : (recorded.map (·.itemCode)).Nodup)
    (h : recorded.Perm recorded') (itemCode : String) :
    factOf recorded itemCode = factOf recorded' itemCode :=
  find?_key_congr hnodup ((h.map _).nodup_iff.1 hnodup) fun _ _ => h.mem_iff

theorem unionCodes_perm {delivery delivery' returned returned' : List RecordedFact}
    (h : delivery.Perm delivery') (h' : returned.Perm returned') :
    unionCodes delivery returned = unionCodes delivery' returned' := by
  have hdedup := ((h.append h').map (·.itemCode)).dedup
  change List.insertionSort (fun a b => id a ≤ id b) _ = List.insertionSort (fun a b => id a ≤ id b) _
  refine insertionSort_perm hdedup ?_
  rw [List.map_id]
  exact List.nodup_dedup _

theorem deltaOf_perm {delivery delivery' returned returned' : List RecordedFact}
    (hnodup : (delivery.map (·.itemCode)).Nodup) (hnodup' : (returned.map (·.itemCode)).Nodup)
    (h : delivery.Perm delivery') (h' : returned.Perm returned') :
    deltaOf sha256 delivery returned = deltaOf sha256 delivery' returned' := by
  have hitem : deltaItem delivery returned = deltaItem delivery' returned' := by
    funext itemCode
    unfold deltaItem
    rw [factOf_perm hnodup h, factOf_perm hnodup' h']
  unfold deltaOf
  rw [unionCodes_perm h h', hitem]

theorem Accepted.recorded (h : Accepted toUpperCase facts) :
    ((facts.map (recordedFact toUpperCase)).map (·.itemCode)).Nodup := by
  rw [List.map_map]
  exact h.distinct

/-! ## The decisions -/

/-- A decision is allowed when it has a reason and its item is undetermined. -/
structure Allowed (toUpperCase : String → String) (baseItems : List ConditionDeltaItem)
    (decision : ConditionDeltaDecision) : Prop where
  undetermined : (baseByCode baseItems (normalizedCode toUpperCase decision.itemCode)).any
    (·.responsibility == .undetermined) = true
  reason : Texts.trim decision.decisionReason ≠ ""

theorem addDecision_adds (toUpperCase : String → String) (baseItems : List ConditionDeltaItem) :
    Adds (addDecision toUpperCase baseItems) (Allowed toUpperCase baseItems)
      (normalizedDecision toUpperCase) (·.itemCode) := by
  intro decisionByCode decision decisionByCode'
  unfold addDecision
  rw [require_bind, require_bind]
  have hnew : (decisionOf decisionByCode (normalizedCode toUpperCase decision.itemCode)).isNone = true ↔
      normalizedCode toUpperCase decision.itemCode ∉ decisionByCode.map (·.itemCode) := by
    simp [decisionOf]
  simp only [Bool.and_eq_true, bne_iff_ne, hnew, Except.ok.injEq]
  constructor
  · rintro ⟨hundetermined, ⟨hreason, habsent⟩, rfl⟩
    exact ⟨⟨hundetermined, hreason⟩, habsent, rfl⟩
  · rintro ⟨⟨hundetermined, hreason⟩, habsent, rfl⟩
    exact ⟨hundetermined, ⟨hreason, habsent⟩, rfl⟩

/-- The items of a delta with the decisions, in the order of their codes. -/
def resolvedOf (sha256 : Text → String) (baseItems : List ConditionDeltaItem)
    (decisionByCode : List ConditionDeltaDecision) : DeltaResult :=
  let items := (baseItems.map (decided decisionByCode)).insertionSort
    fun left right => left.itemCode ≤ right.itemCode
  ⟨items, sha256 (canonical items)⟩

/-- No item is left open. -/
def Settles (baseItems : List ConditionDeltaItem) (decisionByCode : List ConditionDeltaDecision) : Prop :=
  ∀ item ∈ baseItems, item.responsibility = .undetermined →
    (decisionOf decisionByCode item.itemCode).isSome

theorem applyConditionDeltaDecisions_iff {baseItems : List ConditionDeltaItem}
    {decisions : List ConditionDeltaDecision} {resolved : DeltaResult} :
    applyConditionDeltaDecisions toUpperCase sha256 baseItems decisions = .ok resolved ↔
      (∀ decision ∈ decisions, Allowed toUpperCase baseItems decision) ∧
        (decisions.map (normalizedCode toUpperCase ·.itemCode)).Nodup ∧
        Settles baseItems (decisions.map (normalizedDecision toUpperCase)) ∧
        resolved = resolvedOf sha256 baseItems (decisions.map (normalizedDecision toUpperCase)) := by
  have hfold : ∀ decisionByCode, decisions.foldlM (addDecision toUpperCase baseItems) [] =
      .ok decisionByCode ↔ (∀ decision ∈ decisions, Allowed toUpperCase baseItems decision) ∧
        (decisions.map (normalizedCode toUpperCase ·.itemCode)).Nodup ∧
        decisionByCode = decisions.map (normalizedDecision toUpperCase) :=
    fun _ => foldlM_nil_iff (addDecision_adds toUpperCase baseItems)
  have hsettles : ∀ decisionByCode, (baseItems.filter fun item =>
      item.responsibility == .undetermined && (decisionOf decisionByCode item.itemCode).isNone).isEmpty =
        true ↔ Settles baseItems decisionByCode := by
    intro decisionByCode
    rw [List.isEmpty_iff, List.filter_eq_nil_iff]
    refine forall₂_congr fun item _ => ?_
    simp [Option.isSome_iff_ne_none]
  unfold applyConditionDeltaDecisions
  constructor
  · intro h
    obtain ⟨decisionByCode, hdecisions, h⟩ := bind_ok h
    rw [require_bind, hsettles] at h
    obtain ⟨hallowed, hnodup, rfl⟩ := (hfold decisionByCode).1 hdecisions
    exact ⟨hallowed, hnodup, h.1, (Except.ok.inj h.2).symm⟩
  · rintro ⟨hallowed, hnodup, hopen, rfl⟩
    rw [bind_eq ((hfold _).2 ⟨hallowed, hnodup, rfl⟩), require_bind, hsettles]
    exact ⟨hopen, rfl⟩

theorem SameDecisions.applies {baseItems : List ConditionDeltaItem}
    {decisions decisions' : List ConditionDeltaDecision} {resolved : DeltaResult}
    (hsame : SameDecisions toUpperCase decisions decisions')
    (h : applyConditionDeltaDecisions toUpperCase sha256 baseItems decisions = .ok resolved) :
    applyConditionDeltaDecisions toUpperCase sha256 baseItems decisions' = .ok resolved := by
  obtain ⟨hallowed, hnodup, hsettles, rfl⟩ := applyConditionDeltaDecisions_iff.1 h
  have hcodes := List.Perm.map (·.itemCode) hsame
  have hmapped : ((decisions.map (normalizedDecision toUpperCase)).map (·.itemCode)).Nodup := by
    rw [List.map_map]
    exact hnodup
  have hfind : decisionOf (decisions.map (normalizedDecision toUpperCase)) =
      decisionOf (decisions'.map (normalizedDecision toUpperCase)) := by
    funext itemCode
    exact find?_key_congr hmapped (hcodes.nodup_iff.1 hmapped) fun _ _ => hsame.mem_iff
  have hdecided : decided (decisions.map (normalizedDecision toUpperCase)) =
      decided (decisions'.map (normalizedDecision toUpperCase)) := by
    funext item
    unfold decided
    rw [hfind]
  refine applyConditionDeltaDecisions_iff.2 ⟨fun decision hdecision => ?_, ?_, ?_, ?_⟩
  · have hmem : normalizedDecision toUpperCase decision ∈
        decisions.map (normalizedDecision toUpperCase) :=
      hsame.mem_iff.2 (List.mem_map_of_mem hdecision)
    obtain ⟨before, hbefore, heq⟩ := List.mem_map.1 hmem
    obtain ⟨hundetermined, hreason⟩ := hallowed before hbefore
    obtain ⟨hreasons, hcode, -⟩ := ConditionDeltaDecision.mk.inj heq
    exact ⟨hcode ▸ hundetermined, hreasons ▸ hreason⟩
  · have hnodup' := hcodes.nodup_iff.1 hmapped
    rw [List.map_map] at hnodup'
    exact hnodup'
  · unfold Settles
    rw [← hfind]
    exact hsettles
  · unfold resolvedOf
    rw [hdecided]

/-- A decided item differs in its reason and its responsibility alone. -/
theorem decided_eq (decisionByCode : List ConditionDeltaDecision) (item : ConditionDeltaItem) :
    decided decisionByCode item = { item with
      decisionReason := (decided decisionByCode item).decisionReason
      responsibility := (decided decisionByCode item).responsibility } := by
  unfold decided
  split
  · rfl
  · rfl

theorem decided_itemCode (decisionByCode : List ConditionDeltaDecision) (item : ConditionDeltaItem) :
    (decided decisionByCode item).itemCode = item.itemCode := by
  unfold decided
  split
  · rfl
  · rfl

theorem unionCodes_ascending (delivery returned : List RecordedFact) :
    (unionCodes delivery returned).Pairwise (· < ·) := by
  have hsorted : (unionCodes delivery returned).Pairwise (· ≤ ·) := List.pairwise_insertionSort _ _
  have hnodup : (unionCodes delivery returned).Pairwise (· ≠ ·) := unionCodes_nodup delivery returned
  exact (hsorted.and hnodup).imp fun hboth => lt_of_le_of_ne hboth.1 hboth.2

/-- The items of a delta stand in order, so that the decisions leave them in their places. -/
theorem resolvedOf_items (delivery returned : List RecordedFact)
    (decisionByCode : List ConditionDeltaDecision) :
    (resolvedOf sha256 (deltaOf sha256 delivery returned).items decisionByCode).items =
      (deltaOf sha256 delivery returned).items.map (decided decisionByCode) := by
  have hcodes : ((deltaOf sha256 delivery returned).items.map (decided decisionByCode)).map (·.itemCode) =
      unionCodes delivery returned := by
    have hbase : (deltaOf sha256 delivery returned).items.map (·.itemCode) =
        unionCodes delivery returned := deltaOf_codes delivery returned
    rw [← hbase, List.map_map]
    exact List.map_congr_left fun item _ => decided_itemCode decisionByCode item
  refine insertionSort_eq_of_perm (List.Perm.refl _) (List.pairwise_map.1 ?_)
  rw [hcodes]
  exact unionCodes_ascending delivery returned

/-- A decision that is allowed leaves the items that are not undetermined. -/
theorem decided_settled {baseItems : List ConditionDeltaItem} {decisions : List ConditionDeltaDecision}
    (hnodup : (baseItems.map (·.itemCode)).Nodup)
    (hallowed : ∀ decision ∈ decisions, Allowed toUpperCase baseItems decision)
    {item : ConditionDeltaItem} (hitem : item ∈ baseItems) (hsettled : item.responsibility ≠ .undetermined) :
    decided (decisions.map (normalizedDecision toUpperCase)) item = item := by
  unfold decided
  cases hfind : decisionOf (decisions.map (normalizedDecision toUpperCase)) item.itemCode with
  | none => rfl
  | some normalized =>
    obtain ⟨decision, hdecision, rfl⟩ := List.mem_map.1 (List.mem_of_find?_eq_some hfind)
    have hcode : normalizedCode toUpperCase decision.itemCode = item.itemCode := by
      simpa [normalizedDecision] using List.find?_some hfind
    have hreverse : (baseItems.reverse.map (·.itemCode)).Nodup := by
      rw [List.map_reverse]
      exact List.nodup_reverse.2 hnodup
    have hbase : baseByCode baseItems item.itemCode = some item :=
      (find?_key hreverse).2 ⟨List.mem_reverse.2 hitem, rfl⟩
    have hundetermined := (hallowed decision hdecision).undetermined
    rw [hcode, hbase] at hundetermined
    exact absurd (by simpa using hundetermined) hsettled

/-! ## Who is charged -/

/-- The delta charges just for what has become worse if and only if nothing that was missing at the
delivery is missing at the return. -/
theorem buildConditionDelta_charges_iff (toUpperCase : String → String) (sha256 : Text → String)
    (delivery returned : List ConditionFact) (result : DeltaResult)
    (h : buildConditionDelta toUpperCase sha256 delivery returned = .ok result) :
    ChargesWorsening toUpperCase sha256 delivery returned result ↔
      ∀ itemCode, ¬ MissingBefore toUpperCase delivery returned itemCode := by
  obtain ⟨hdelivery, hreturned, rfl⟩ := buildConditionDelta_iff.1 h
  have hnodup : ((deltaOf sha256 (delivery.map (recordedFact toUpperCase))
      (returned.map (recordedFact toUpperCase))).items.map (·.itemCode)).Nodup := by
    rw [deltaOf_codes]
    exact unionCodes_nodup _ _
  have hcodes : ∀ itemCode, itemCode ∈ (deltaOf sha256 (delivery.map (recordedFact toUpperCase))
      (returned.map (recordedFact toUpperCase))).items.map (·.itemCode) ↔
      itemCode ∈ (delivery ++ returned).map (normalizedCode toUpperCase ·.itemCode) := by
    intro itemCode
    rw [deltaOf_codes, mem_unionCodes, ← List.map_append, List.map_map]
    rfl
  constructor
  · intro hcharges itemCode hmissing
    have hdelivered : itemCode ∈ (delivery ++ returned).map (normalizedCode toUpperCase ·.itemCode) := by
      obtain ⟨fact, hfact, -⟩ := Option.map_eq_some_iff.1 hmissing.1
      refine List.mem_map.2 ⟨fact, List.mem_append_left _ (List.mem_of_find?_eq_some hfact), ?_⟩
      simpa using List.find?_some hfact
    obtain ⟨item, hitem, rfl⟩ := List.mem_map.1 ((hcodes itemCode).2 hdelivered)
    have hcharged := charged_iff hdelivery hreturned item.itemCode
    rw [← mem_deltaOf hitem] at hcharged
    exact not_worsened hmissing ((hcharges.charged item hitem).1 (hcharged.2 (.inr hmissing)))
  · intro hnone
    refine ⟨hnodup, hcodes, fun item hitem => ?_, fun item hitem => ?_, fun decisions resolved hresolved => ?_,
      fun delivery' returned' hsame hsame' => ?_, fun decisions decisions' resolved hresolved hsame => ?_⟩
    · rw [mem_deltaOf hitem, (deltaItem_key _ _ _).2, (deltaItem_key _ _ _).1]
      exact differenceAt_recorded hdelivery hreturned item.itemCode
    · have hcharged := charged_iff hdelivery hreturned item.itemCode
      rw [← mem_deltaOf hitem, or_iff_left (hnone item.itemCode)] at hcharged
      exact hcharged
    · obtain ⟨hallowed, -, -, rfl⟩ := applyConditionDeltaDecisions_iff.1 hresolved
      rw [resolvedOf_items, List.forall₂_map_right_iff, List.forall₂_same]
      exact fun item hitem => ⟨decided_settled hnodup hallowed hitem, decided_eq _ item⟩
    · refine buildConditionDelta_iff.2 ⟨hsame.accepted hdelivery, hsame'.accepted hreturned, ?_⟩
      exact deltaOf_perm hdelivery.recorded hreturned.recorded hsame.recorded hsame'.recorded
    · exact hsame.applies hresolved

/-- A return that misses one of two keys, and a new damage. -/
def sampleDelivery : List ConditionFact := [⟨"KEY", 2, "NORMAL"⟩, ⟨"VEHICLE_EXTERIOR", 1, "NORMAL"⟩]

def sampleReturn : List ConditionFact := [⟨" vehicle_exterior", 1, "DAMAGED"⟩, ⟨"key", 1, "MISSING"⟩]

def sampleDelta : DeltaResult where
  items := [
    { decisionReason := "Returned quantity/state is below the signed delivery baseline."
      deliveryState := "NORMAL"
      itemCode := "KEY"
      quantityDifference := -1
      responsibility := .customer
      returnState := "MISSING"
      wearClassification := .missing },
    { decisionReason := "Return inspection records damage not present at delivery."
      deliveryState := "NORMAL"
      itemCode := "VEHICLE_EXTERIOR"
      quantityDifference := 0
      responsibility := .undetermined
      returnState := "DAMAGED"
      wearClassification := .newDamage }]
  resultHash := ""

theorem sampleFacts_unique :
    uniqueFacts String.toUpper sampleDelivery .delivery =
        .ok [⟨"KEY", 2, "NORMAL"⟩, ⟨"VEHICLE_EXTERIOR", 1, "NORMAL"⟩] ∧
      uniqueFacts String.toUpper sampleReturn .returned =
        .ok [⟨"VEHICLE_EXTERIOR", 1, "DAMAGED"⟩, ⟨"KEY", 1, "MISSING"⟩] := by
  decide +kernel

theorem sampleDelta_built :
    buildConditionDelta String.toUpper (fun _ => "") sampleDelivery sampleReturn = .ok sampleDelta := by
  unfold buildConditionDelta
  rw [bind_eq sampleFacts_unique.1, bind_eq sampleFacts_unique.2]
  decide +kernel

theorem buildConditionDelta_charges_sample :
    ChargesWorsening String.toUpper (fun _ => "") sampleDelivery sampleReturn sampleDelta ↔
      ∀ itemCode, ¬ MissingBefore String.toUpper sampleDelivery sampleReturn itemCode :=
  buildConditionDelta_charges_iff String.toUpper (fun _ => "") sampleDelivery sampleReturn sampleDelta
    sampleDelta_built

/-! ## Keys that were never there -/

/-- A work order that records the vehicle and no keys. -/
def keylessWorkOrder : DeliveryWorkOrder where
  accessoryItems := .null
  handoverFactSnapshot := .null
  handoverMileageKm := some 12000
  keyState := none
  primaryKeyCount := none
  registrationDocumentState := some "HANDED_OVER"
  spareKeyCount := none
  vehicleConditionConfirmed := some true

/-- The checklist of a return at which the keys are still missing. -/
def keylessChecklist : List ChecklistItem :=
  requiredItemCodes.map fun itemCode =>
    if itemCode = "KEY" then ⟨none, itemCode, none, some 0, .missing⟩
    else if itemCode = "MILEAGE" then ⟨none, itemCode, none, some 12000, .normal⟩
    else ⟨none, itemCode, none, some 1, .normal⟩

def keyItem : ConditionDeltaItem where
  decisionReason := "Returned quantity/state is below the signed delivery baseline."
  deliveryState := "MISSING"
  itemCode := "KEY"
  quantityDifference := 0
  responsibility := .customer
  returnState := "MISSING"
  wearClassification := .missing

theorem keys_not_worsened : ¬ Worsened String.toUpper (deliveryConditionFacts keylessWorkOrder)
    (returnFacts keylessChecklist) "KEY" := by
  unfold Worsened
  decide +kernel

/-- Keys that are missing at the delivery and at the return are charged to the customer. -/
theorem charges_missing_keys :
    normalizeChecklistItems String.toUpper keylessChecklist = .ok keylessChecklist ∧
      ∃ result, buildConditionDelta String.toUpper (fun _ => "") (deliveryConditionFacts keylessWorkOrder)
          (returnFacts keylessChecklist) = .ok result ∧ keyItem ∈ result.items ∧
        ¬ ChargesWorsening String.toUpper (fun _ => "") (deliveryConditionFacts keylessWorkOrder)
          (returnFacts keylessChecklist) result := by
  have hbuilt : (buildConditionDelta String.toUpper (fun _ => "") (deliveryConditionFacts keylessWorkOrder)
      (returnFacts keylessChecklist)).toOption.any (fun _ => true) = true := by decide +kernel
  refine ⟨by decide +kernel, ?_⟩
  obtain ⟨result, hresult, -⟩ := ok_of_any hbuilt
  obtain ⟨-, -, rfl⟩ := buildConditionDelta_iff.1 hresult
  have hmem : keyItem ∈ (deltaOf (fun _ => "")
      ((deliveryConditionFacts keylessWorkOrder).map (recordedFact String.toUpper))
      ((returnFacts keylessChecklist).map (recordedFact String.toUpper))).items :=
    List.mem_map.2 ⟨"KEY", mem_unionCodes.2 (by decide +kernel), by decide +kernel⟩
  exact ⟨_, hresult, hmem, fun h => keys_not_worsened ((h.charged keyItem hmem).1 (.inl rfl))⟩

end SubscriptionSaas.Closure.ReturnDelta
