import SubscriptionSaas.Billing.Service
import SubscriptionSaas.Billing.Proofs.CalendarProofs
import Mathlib.Data.List.Induction

/-!
# Where reconciliation begins

The search for the cycle of the business date and the search for the cycle of a bill, and what
`reconciliationBaseline` makes of them: the first cycle that has not ended and comes after the cycles of
the bills. A bill is looked for among the first 1200 cycles.
-/

namespace SubscriptionSaas.Billing

open Calendar

variable {anchor businessDate : Int}

/-- The cycle `n` of a delivery on the day `anchor`. -/
def cycleOf (anchor n : Int) : BillingCycle :=
  ⟨anchor, n, cycleStart anchor n, cycleStart anchor n - 3, cycleStart anchor n + 5,
    cycleStart anchor (n + 1) - 1, cycleStart anchor n⟩

theorem buildNextBillingCycle_cycleOf {n : Int} (hn : 0 < n) :
    buildNextBillingCycle (cycleOf anchor n) = .ok (cycleOf anchor (n + 1)) := by
  rw [buildNextBillingCycle, if_neg (by simp only [cycleOf]; omega)]
  exact buildBillingCycle_eq (by simp only [cycleOf]; omega)

theorem buildBillingCycleForDelivery_eq (actualDeliveryAt : Int) {n : Int} (hn : 0 < n) :
    buildBillingCycleForDelivery actualDeliveryAt n =
      .ok (cycleOf (toBillingBusinessDate actualDeliveryAt) n) := buildBillingCycle_eq hn

theorem buildInitialBillingCycle_eq (actualDeliveryAt : Int) :
    buildInitialBillingCycle actualDeliveryAt =
      .ok (cycleOf (toBillingBusinessDate actualDeliveryAt) 1) :=
  buildBillingCycleForDelivery_eq actualDeliveryAt (by omega)

/-! ## The cycle of the business date -/

/-- The search stops at the first cycle that has not ended, from the cycle `n` on. -/
theorem firstCycleFrom_eq (anchor businessDate : Int) {n : Int} (hn : 0 < n) (fuel : Nat)
    (hfuel : businessDate - (cycleStart anchor (n + 1) - 1) ≤ fuel) :
    ∃ m, n ≤ m ∧ firstCycleFrom businessDate fuel (cycleOf anchor n) = .ok (cycleOf anchor m) ∧
      businessDate ≤ cycleStart anchor (m + 1) - 1 ∧
      ∀ k, n ≤ k → k < m → cycleStart anchor (k + 1) - 1 < businessDate := by
  have hmono := cycleStart_strictMono anchor
  induction fuel generalizing n with
  | zero => exact ⟨n, le_rfl, rfl, by omega, fun k hk hlt => by omega⟩
  | succ fuel ih =>
    rw [firstCycleFrom]
    by_cases hended : (cycleOf anchor n).periodEnd < businessDate
    · have hnext := hmono (show n + 1 < n + 1 + 1 by omega)
      rw [if_pos hended, buildNextBillingCycle_cycleOf hn]
      obtain ⟨m, hm, hfound, hopen, hbefore⟩ := ih (show 0 < n + 1 by omega) (by omega)
      refine ⟨m, by omega, hfound, hopen, fun k hk hlt => ?_⟩
      rcases hk.eq_or_lt with rfl | hk
      · exact hended
      · exact hbefore k (by omega) hlt
    · rw [if_neg hended]
      exact ⟨n, le_rfl, rfl, by simp only [cycleOf] at hended; omega, fun k hk hlt => by omega⟩

/-! ## The cycle of a bill -/

/-- The search finds the cycle that begins on the day, if it is among the next cycles. -/
theorem cycleForPeriodStart_some {n m : Int} (hn : 0 < n) (hm : n ≤ m) (fuel : Nat)
    (hfuel : m < n + fuel) :
    cycleForPeriodStart (cycleStart anchor m) fuel (cycleOf anchor n) = some (cycleOf anchor m) := by
  have hmono := cycleStart_strictMono anchor
  induction fuel generalizing n with
  | zero => omega
  | succ fuel ih =>
    rw [cycleForPeriodStart]
    rcases hm.eq_or_lt with rfl | hlt
    · exact if_pos rfl
    · have hstart : (cycleOf anchor n).periodStart < cycleStart anchor m := hmono hlt
      rw [if_neg hstart.ne, if_neg hstart.not_gt, buildNextBillingCycle_cycleOf hn]
      exact ih (by omega) (by omega) (by omega)

/-- What it finds is a cycle that begins on the day. -/
theorem cycleForPeriodStart_inv {n day : Int} (hn : 0 < n) (fuel : Nat) {cycle : BillingCycle}
    (h : cycleForPeriodStart day fuel (cycleOf anchor n) = some cycle) :
    ∃ m, n ≤ m ∧ m < n + fuel ∧ cycle = cycleOf anchor m ∧ day = cycleStart anchor m := by
  induction fuel generalizing n with
  | zero => cases h
  | succ fuel ih =>
    rw [cycleForPeriodStart] at h
    by_cases hday : (cycleOf anchor n).periodStart = day
    · rw [if_pos hday] at h
      exact ⟨n, le_rfl, by omega, (Option.some.inj h).symm, hday.symm⟩
    · rw [if_neg hday] at h
      by_cases hbefore : day < (cycleOf anchor n).periodStart
      · rw [if_pos hbefore] at h
        cases h
      · rw [if_neg hbefore, buildNextBillingCycle_cycleOf hn] at h
        obtain ⟨m, hm, hlt, heq, hstart⟩ := ih (by omega) h
        exact ⟨m, by omega, by omega, heq, hstart⟩

theorem cycleForPeriodStart_iff {day : Int} {cycle : BillingCycle} :
    cycleForPeriodStart day 1200 (cycleOf anchor 1) = some cycle ↔
      ∃ m, 0 < m ∧ m ≤ 1200 ∧ day = cycleStart anchor m ∧ cycle = cycleOf anchor m := by
  constructor
  · intro h
    obtain ⟨m, hm, hlt, heq, hstart⟩ := cycleForPeriodStart_inv (by omega) 1200 h
    exact ⟨m, by omega, by omega, hstart, heq⟩
  · rintro ⟨m, hm, hle, rfl, rfl⟩
    exact cycleForPeriodStart_some (by omega) (by omega) 1200 (by omega)

/-! ## The last cycle of the bills -/

/-- One of the bills begins with the cycle `n`, which is among the first 1200. -/
def Matched (anchor : Int) (bills : List RentBill) (n : Int) : Prop :=
  0 < n ∧ n ≤ 1200 ∧ ∃ bill ∈ bills, bill.billPeriodStart = cycleStart anchor n

/-- The last of the cycles that are matched, if there is one. -/
def IsBasis (anchor : Int) (bills : List RentBill) : Option BillingCycle → Prop
  | none => ∀ n, ¬ Matched anchor bills n
  | some cycle => ∃ m, cycle = cycleOf anchor m ∧ Matched anchor bills m ∧
      ∀ n, Matched anchor bills n → n ≤ m

theorem matched_append {bills : List RentBill} {bill : RentBill} {n : Int} :
    Matched anchor (bills ++ [bill]) n ↔ Matched anchor bills n ∨
      0 < n ∧ n ≤ 1200 ∧ bill.billPeriodStart = cycleStart anchor n := by
  unfold Matched
  simp only [List.mem_append, List.mem_singleton]
  constructor
  · rintro ⟨hn, hle, b, hb | rfl, hstart⟩
    · exact .inl ⟨hn, hle, b, hb, hstart⟩
    · exact .inr ⟨hn, hle, hstart⟩
  · rintro (⟨hn, hle, b, hb, hstart⟩ | ⟨hn, hle, hstart⟩)
    · exact ⟨hn, hle, b, .inl hb, hstart⟩
    · exact ⟨hn, hle, bill, .inr rfl, hstart⟩

/-- One more bill. -/
theorem IsBasis.append {bills : List RentBill} {basis : Option BillingCycle}
    (h : IsBasis anchor bills basis) (bill : RentBill) :
    IsBasis anchor (bills ++ [bill])
      (laterCycle basis (cycleForPeriodStart bill.billPeriodStart 1200 (cycleOf anchor 1))) := by
  rcases hfound : cycleForPeriodStart bill.billPeriodStart 1200 (cycleOf anchor 1) with _ | cycle
  · have hsame : ∀ n, Matched anchor (bills ++ [bill]) n ↔ Matched anchor bills n := by
      intro n
      rw [matched_append, or_iff_left]
      rintro ⟨hn, hle, hstart⟩
      rw [cycleForPeriodStart_iff.2 ⟨n, hn, hle, hstart, rfl⟩] at hfound
      cases hfound
    cases basis with
    | none => exact fun n hn => h n ((hsame n).1 hn)
    | some basis =>
      obtain ⟨m, hm, hmatched, hmax⟩ := h
      exact ⟨m, hm, (hsame m).2 hmatched, fun n hn => hmax n ((hsame n).1 hn)⟩
  · obtain ⟨k, hk, hle, hstart, rfl⟩ := cycleForPeriodStart_iff.1 hfound
    have hnew : Matched anchor (bills ++ [bill]) k := matched_append.2 (.inr ⟨hk, hle, hstart⟩)
    have hcases : ∀ n, Matched anchor (bills ++ [bill]) n → Matched anchor bills n ∨ n = k := by
      intro n hn
      rcases matched_append.1 hn with hold | ⟨-, -, hn⟩
      · exact .inl hold
      · exact .inr ((cycleStart_strictMono anchor).injective (hn.symm.trans hstart))
    cases basis with
    | none =>
      refine ⟨k, rfl, hnew, fun n hn => ?_⟩
      rcases hcases n hn with hold | rfl
      · exact absurd hold (h n)
      · exact le_rfl
    | some basis =>
      obtain ⟨m, rfl, hmatched, hmax⟩ := h
      simp only [laterCycle]
      by_cases hlater : (cycleOf anchor m).cycleNo < (cycleOf anchor k).cycleNo
      · rw [if_pos hlater]
        refine ⟨k, rfl, hnew, fun n hn => ?_⟩
        rcases hcases n hn with hold | rfl
        · exact (hmax n hold).trans hlater.le
        · exact le_rfl
      · rw [if_neg hlater]
        refine ⟨m, rfl, matched_append.2 (.inl hmatched), fun n hn => ?_⟩
        rcases hcases n hn with hold | rfl
        · exact hmax n hold
        · exact not_lt.1 hlater

theorem basis_foldl (anchor : Int) (bills : List RentBill) : IsBasis anchor bills (bills.foldl (fun basis bill =>
    laterCycle basis (cycleForPeriodStart bill.billPeriodStart 1200 (cycleOf anchor 1))) none) := by
  induction bills using List.reverseRecOn with
  | nil => exact fun n ⟨_, _, bill, hbill, _⟩ => absurd hbill List.not_mem_nil
  | append_singleton bills bill ih =>
    rw [List.foldl_append]
    exact ih.append bill

/-! ## The baseline -/

/-- The cycle has not ended on the day, and no bill of a cycle among the first 1200 begins with it or
with a later one. -/
def Admissible (anchor businessDate : Int) (bills : List RentBill) (n : Int) : Prop :=
  0 < n ∧ businessDate ≤ cycleStart anchor (n + 1) - 1 ∧ ∀ m, Matched anchor bills m → m < n

theorem reconciliationBaseline_least (actualDeliveryAt now : Int) (bills : List RentBill) :
    ∃ n, reconciliationBaseline actualDeliveryAt bills now =
        .ok (cycleOf (toBillingBusinessDate actualDeliveryAt) n) ∧
      Admissible (toBillingBusinessDate actualDeliveryAt) (toBillingBusinessDate now) bills n ∧
      ∀ k, Admissible (toBillingBusinessDate actualDeliveryAt) (toBillingBusinessDate now) bills k →
        n ≤ k := by
  generalize hanchor : toBillingBusinessDate actualDeliveryAt = anchor
  generalize hdate : toBillingBusinessDate now = businessDate
  have hmono := (cycleStart_strictMono anchor).monotone
  have hinitial := buildInitialBillingCycle_eq actualDeliveryAt
  rw [hanchor] at hinitial
  have hend : (cycleOf anchor 1).periodEnd = cycleStart anchor (1 + 1) - 1 := rfl
  obtain ⟨m, hm, hfound, hopen, hbefore⟩ := firstCycleFrom_eq anchor businessDate
    (show (0 : Int) < 1 by omega) (businessDate - (cycleOf anchor 1).periodEnd).toNat (by omega)
  have hleast : ∀ k, Admissible anchor businessDate bills k → m ≤ k := by
    rintro k ⟨hk, hkopen, -⟩
    by_contra hlt
    have hended := hbefore k (by omega) (by omega)
    omega
  have hbasis := basis_foldl anchor bills
  unfold reconciliationBaseline
  rw [hinitial, hdate]
  simp only [hfound]
  generalize bills.foldl (fun basis bill => laterCycle basis
    (cycleForPeriodStart bill.billPeriodStart 1200 (cycleOf anchor 1))) none = basis at hbasis ⊢
  cases basis with
  | none => exact ⟨m, rfl, ⟨by omega, hopen, fun k hk => absurd hk (hbasis k)⟩, hleast⟩
  | some basis =>
    obtain ⟨b, rfl, hmatched, hmax⟩ := hbasis
    by_cases hle : (cycleOf anchor m).cycleNo ≤ (cycleOf anchor b).cycleNo
    · have hle' : m ≤ b := hle
      refine ⟨b + 1, ?_, ⟨by omega, ?_, fun k hk => ?_⟩, fun k hk => ?_⟩
      · simp only [if_pos hle]
        exact buildNextBillingCycle_cycleOf hmatched.1
      · have hlater := hmono (show m + 1 ≤ b + 1 + 1 by omega)
        omega
      · have hb := hmax k hk
        omega
      · have hafter := hk.2.2 b hmatched
        omega
    · have hlt : b < m := not_le.1 hle
      refine ⟨m, by simp only [if_neg hle], ⟨by omega, hopen, fun k hk => ?_⟩, hleast⟩
      have hb := hmax k hk
      omega

/-- The baseline is the first cycle that has not ended and comes after the bills of the first 1200
cycles, and the cycle of a bill is found exactly when it is one of these. -/
theorem baseline_is_least (actualDeliveryAt now : Int) (bills : List RentBill) :
    (∃ n cycle, reconciliationBaseline actualDeliveryAt bills now = .ok cycle ∧
      buildBillingCycleForDelivery actualDeliveryAt n = .ok cycle ∧
      Admissible (toBillingBusinessDate actualDeliveryAt) (toBillingBusinessDate now) bills n ∧
      ∀ k, Admissible (toBillingBusinessDate actualDeliveryAt) (toBillingBusinessDate now) bills k →
        n ≤ k) ∧
    ∃ initial, buildInitialBillingCycle actualDeliveryAt = .ok initial ∧
      ∀ day cycle, cycleForPeriodStart day 1200 initial = some cycle ↔
        ∃ n, 0 < n ∧ n ≤ 1200 ∧ buildBillingCycleForDelivery actualDeliveryAt n = .ok cycle ∧
          cycle.periodStart = day := by
  constructor
  · obtain ⟨n, hbaseline, hadmissible, hleast⟩ :=
      reconciliationBaseline_least actualDeliveryAt now bills
    exact ⟨n, _, hbaseline, buildBillingCycleForDelivery_eq _ hadmissible.1, hadmissible, hleast⟩
  · refine ⟨_, buildInitialBillingCycle_eq actualDeliveryAt, fun day cycle => ?_⟩
    rw [cycleForPeriodStart_iff]
    constructor
    · rintro ⟨n, hn, hle, rfl, rfl⟩
      exact ⟨n, hn, hle, buildBillingCycleForDelivery_eq _ hn, rfl⟩
    · rintro ⟨n, hn, hle, hcycle, rfl⟩
      obtain rfl := Except.ok.inj ((buildBillingCycleForDelivery_eq _ hn).symm.trans hcycle)
      exact ⟨n, hn, hle, rfl, rfl⟩

/-- A bill for the cycle 1201 of a delivery on the first of January 1970. -/
def lateBill : RentBill :=
  { id := 0, orderId := 0, billStatus := .pending, deleted := false
    billPeriodStart := (cycleOf 0 1201).periodStart, billPeriodEnd := (cycleOf 0 1201).periodEnd
    dueDate := (cycleOf 0 1201).dueDate, amount := 500
    sourceKey := billingSourceKey 0 (cycleOf 0 1201).periodStart, source := .single
    contractSegmentId := none }

/-- The cycle of the bill is not found, and the baseline does not come after it. -/
theorem late_bill_not_matched :
    buildBillingCycleForDelivery 0 1201 = .ok (cycleOf 0 1201) ∧
      lateBill.billPeriodStart = (cycleOf 0 1201).periodStart ∧
      buildInitialBillingCycle 0 = .ok (cycleOf 0 1) ∧
      cycleForPeriodStart lateBill.billPeriodStart 1200 (cycleOf 0 1) = none ∧
      reconciliationBaseline 0 [lateBill] 0 = .ok (cycleOf 0 1) := by
  have hanchor : toBillingBusinessDate 0 = 0 := by decide +kernel
  have hinitial := buildInitialBillingCycle_eq 0
  have hlate := buildBillingCycleForDelivery_eq 0 (show (0 : Int) < 1201 by omega)
  rw [hanchor] at hinitial hlate
  have hunmatched : ∀ n, ¬ Matched 0 [lateBill] n := by
    rintro n ⟨-, hle, bill, hbill, hstart⟩
    rw [List.mem_singleton.1 hbill] at hstart
    have hn := (cycleStart_strictMono 0).injective hstart
    omega
  have hnone : cycleForPeriodStart lateBill.billPeriodStart 1200 (cycleOf 0 1) = none := by
    rw [Option.eq_none_iff_forall_ne_some]
    intro cycle hcycle
    obtain ⟨n, hn, hle, hstart, -⟩ := cycleForPeriodStart_iff.1 hcycle
    exact hunmatched n ⟨hn, hle, lateBill, List.mem_singleton_self _, hstart⟩
  refine ⟨hlate, rfl, hinitial, hnone, ?_⟩
  obtain ⟨n, hbaseline, ⟨hn, -⟩, hleast⟩ := reconciliationBaseline_least 0 0 [lateBill]
  rw [hanchor] at hbaseline hleast
  have hone : n ≤ 1 := hleast 1 ⟨by omega, by decide +kernel, fun m hm => absurd hm (hunmatched m)⟩
  obtain rfl : n = 1 := by omega
  exact hbaseline

end SubscriptionSaas.Billing
