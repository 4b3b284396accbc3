import SubscriptionSaas.Billing.Proofs.BaselineProofs
import Mathlib.Data.List.Perm.Subperm
import Mathlib.Data.Nat.Find

/-!
# Manual generation

A manual generation takes the number of an order's valid bills for the number of billed cycles. The cycle
that it chooses is the least unbilled one when the bills are those of the first cycles without a gap, and
a bill is created for it when no cancelled or deleted row still has its source key.
-/

namespace SubscriptionSaas.Billing

open Finance (OrderStatus BillStatus)

/-- The order can be billed: what the manual generation needs of it. -/
structure Billable (order : Order) (actualDeliveryAt amount : Int) : Prop where
  delivered : order.actualDeliveryAt = some actualDeliveryAt
  rent : order.monthlyRentAmount = some amount
  live : order.deleted = false
  active : order.orderStatus = .active

/-- The period of the cycle `n` of a delivery on the day `anchor`. -/
def periodOf (anchor : Int) (n : Nat) : MonthlyRentPeriod :=
  ⟨n, cycleStart anchor n, cycleStart anchor (n + 1) - 1⟩

/-- A bill of the order that is not cancelled is for the cycle. -/
def Billed (order : Order) (anchor : Int) (bills : List RentBill) (n : Nat) : Prop :=
  ∃ bill ∈ bills, monthlyRentPeriodWhere order.id (periodOf anchor n) bill = true

structure LeastUnbilled (order : Order) (anchor : Int) (bills : List RentBill) (n : Nat) : Prop where
  pos : 0 < n
  unbilled : ¬Billed order anchor bills n
  before : ∀ m, 0 < m → m < n → Billed order anchor bills m

/-- No row, whatever its status, has the source key of the cycle. -/
def KeyFree (order : Order) (anchor : Int) (bills : List RentBill) (n : Nat) : Prop :=
  ∀ bill ∈ bills, bill.sourceKey ≠ billingSourceKey order.id (cycleStart anchor n)

/-- The generation may bill the cycle: a batch, from three days before it begins on. -/
def MayBill (source : BillSource) (billingDate anchor : Int) (n : Nat) : Prop :=
  source = .batch → cycleStart anchor n - 3 ≤ billingDate

variable {order : Order} {anchor amount actualDeliveryAt billingDate : Int} {source : BillSource}
  {bills : List RentBill} {n : Nat}

/-! ## Counting cycles -/

theorem billed_iff : Billed order anchor bills n ↔ ∃ bill ∈ findValidMonthlyRentBills order.id bills,
    bill.billPeriodStart = (periodOf anchor n).start ∧ bill.billPeriodEnd = (periodOf anchor n).end := by
  unfold Billed findValidMonthlyRentBills monthlyRentPeriodWhere
  constructor
  · rintro ⟨bill, hmem, hbill⟩
    simp only [Bool.and_eq_true, beq_iff_eq] at hbill
    obtain ⟨⟨⟨⟨hend, hstart⟩, hvalid⟩, hlive⟩, horder⟩ := hbill
    exact ⟨bill, List.mem_filter.2 ⟨hmem, by simp [hvalid, hlive, horder]⟩, hstart, hend⟩
  · rintro ⟨bill, hmem, hstart, hend⟩
    obtain ⟨hmem, hvalid⟩ := List.mem_filter.1 hmem
    refine ⟨bill, hmem, ?_⟩
    simp only [hstart, hend, beq_self_eq_true, Bool.true_and]
    exact hvalid

/-- So many cycles, so many bills. -/
theorem billed_le {j : Nat} (h : ∀ m, 0 < m → m ≤ j → Billed order anchor bills m) :
    j ≤ (findValidMonthlyRentBills order.id bills).length := by
  have hmono := cycleStart_strictMono anchor
  have hnodup : ((List.range j).map fun i : Nat => cycleStart anchor (i + 1)).Nodup := by
    refine List.nodup_range.map fun a b hab => ?_
    have hcycle := hmono.injective hab
    omega
  have hsub : (List.range j).map (fun i : Nat => cycleStart anchor (i + 1)) ⊆
      (findValidMonthlyRentBills order.id bills).map (·.billPeriodStart) := by
    intro start hstart
    obtain ⟨i, hi, rfl⟩ := List.mem_map.1 hstart
    obtain ⟨bill, hbill, heq, -⟩ :=
      billed_iff.1 (h (i + 1) (by omega) (List.mem_range.1 hi))
    refine List.mem_map.2 ⟨bill, hbill, heq.trans ?_⟩
    simp [periodOf]
  simpa using (hnodup.subperm hsub).length_le

/-- Among one cycle more than there are bills, one is not billed. -/
theorem exists_leastUnbilled (order : Order) (anchor : Int) (bills : List RentBill) :
    ∃ n, n ≤ (findValidMonthlyRentBills order.id bills).length + 1 ∧
      LeastUnbilled order anchor bills n := by
  classical
  have hex : ∃ n, 0 < n ∧ ¬Billed order anchor bills n := by
    by_contra hnone
    push Not at hnone
    have hle := billed_le fun m hm (_ : m ≤ (findValidMonthlyRentBills order.id bills).length + 1) =>
      hnone m hm
    omega
  obtain ⟨hpos, hunbilled⟩ := Nat.find_spec hex
  have hbefore : ∀ m, 0 < m → m < Nat.find hex → Billed order anchor bills m := fun m hm hlt =>
    by_contra fun hnot => Nat.find_min hex hlt ⟨hm, hnot⟩
  refine ⟨Nat.find hex, ?_, hpos, hunbilled, hbefore⟩
  have hle := billed_le (j := Nat.find hex - 1) fun m hm hle => hbefore m hm (by omega)
  omega

theorem LeastUnbilled.unique {n' : Nat} (h : LeastUnbilled order anchor bills n)
    (h' : LeastUnbilled order anchor bills n') : n = n' := by
  rcases Nat.lt_trichotomy n n' with hlt | heq | hgt
  · exact absurd (h'.before n h.pos hlt) h.unbilled
  · exact heq
  · exact absurd (h.before n' h'.pos hgt) h'.unbilled

/-! ## One generation -/

theorem choosePeriod_eq (h : Billable order actualDeliveryAt amount)
    (hanchor : toBillingBusinessDate actualDeliveryAt = anchor) {k : Nat}
    (hk : (findValidMonthlyRentBills order.id bills).length = k) :
    choosePeriod order source billingDate bills = if source == .batch &&
        ((findMonthlyRentBillForPeriod (findValidMonthlyRentBills order.id bills)
          (periodOf anchor (k + 1))).isSome || billingDate < cycleStart anchor (k + 1) - 3) then none
      else some (.period order.id source amount (periodOf anchor (k + 1))) := by
  have hperiod : buildNextMonthlyRentPeriod actualDeliveryAt k = .ok (periodOf anchor (k + 1)) := by
    rw [buildNextMonthlyRentPeriod, buildBillingCycleForDelivery_eq actualDeliveryAt (by omega), hanchor]
    simp [Except.map, periodOf, cycleOf]
  have hopen : (order.deleted || order.orderStatus != .active) = false := by
    rw [h.live, h.active]
    rfl
  rw [choosePeriod, h.delivered, h.rent]
  simp only [hopen, Bool.false_eq_true, if_false, hk, hperiod]
  simp [periodOf]

theorem findMonthlyRentBillForPeriod_isSome :
    (findMonthlyRentBillForPeriod (findValidMonthlyRentBills order.id bills)
      (periodOf anchor n)).isSome = true ↔ Billed order anchor bills n := by
  rw [billed_iff, findMonthlyRentBillForPeriod, List.find?_isSome]
  simp

/-- The period is chosen unless a batch finds it billed or too early. -/
theorem choosePeriod_some (h : Billable order actualDeliveryAt amount)
    (hanchor : toBillingBusinessDate actualDeliveryAt = anchor) {k : Nat}
    (hk : (findValidMonthlyRentBills order.id bills).length = k) (hmay : MayBill source billingDate anchor (k + 1))
    (hunbilled : ¬Billed order anchor bills (k + 1)) : choosePeriod order source billingDate bills =
      some (.period order.id source amount (periodOf anchor (k + 1))) := by
  rw [choosePeriod_eq h hanchor hk, if_neg]
  intro hskip
  simp only [Bool.and_eq_true, Bool.or_eq_true, beq_iff_eq, decide_eq_true_eq] at hskip
  obtain ⟨hbatch, hbilled | hearly⟩ := hskip
  · exact hunbilled (findMonthlyRentBillForPeriod_isSome.1 hbilled)
  · have hdue := hmay hbatch
    push_cast at hdue
    omega

theorem choosePeriod_early (h : Billable order actualDeliveryAt amount)
    (hanchor : toBillingBusinessDate actualDeliveryAt = anchor) {k : Nat}
    (hk : (findValidMonthlyRentBills order.id bills).length = k)
    (hmay : ¬MayBill source billingDate anchor (k + 1)) :
    choosePeriod order source billingDate bills = none := by
  unfold MayBill at hmay
  push Not at hmay
  obtain ⟨hbatch, hearly⟩ := hmay
  push_cast at hearly
  rw [choosePeriod_eq h hanchor hk, if_pos]
  simp [hbatch, hearly]

/-- A bill is created for the cycle when it is not billed and its key is free. -/
theorem create_some (hunbilled : ¬Billed order anchor bills n) (hfree : KeyFree order anchor bills n) :
    ∃ bill, createMonthlyRentBillForPeriodIfAbsent order.id amount (periodOf anchor n) source
        (billingSourceKey order.id (periodOf anchor n).start) none bills =
          some (bill, true, bills ++ [bill]) ∧
      monthlyRentPeriodWhere order.id (periodOf anchor n) bill = true ∧
      bill.sourceKey = billingSourceKey order.id (cycleStart anchor n) := by
  have hfind : bills.find? (monthlyRentPeriodWhere order.id (periodOf anchor n)) = none :=
    List.find?_eq_none.2 fun bill hbill hthis => hunbilled ⟨bill, hbill, hthis⟩
  have hkey : bills.any (·.sourceKey == billingSourceKey order.id (periodOf anchor n).start) = false :=
    List.any_eq_false.2 fun bill hbill hthis => hfree bill hbill (beq_iff_eq.1 hthis)
  rw [createMonthlyRentBillForPeriodIfAbsent, hfind]
  simp only [hkey, Bool.false_eq_true, if_false]
  exact ⟨_, rfl, by simp [monthlyRentPeriodWhere], rfl⟩

/-- A bill is created only for a cycle that is not billed, under a free key. -/
theorem create_inv {key : IdempotencyKey} {period : MonthlyRentPeriod} {bill : RentBill}
    {bills' : List RentBill} (h : createMonthlyRentBillForPeriodIfAbsent order.id amount period source
      key none bills = some (bill, true, bills')) :
    bill.billPeriodStart = period.start ∧ ∀ row ∈ bills, row.sourceKey ≠ key := by
  unfold createMonthlyRentBillForPeriodIfAbsent at h
  split at h
  · cases h
  · split at h
    · cases h
    · next htaken =>
      cases h
      exact ⟨rfl, fun row hrow heq => htaken (List.any_eq_true.2 ⟨row, hrow, beq_iff_eq.2 heq⟩)⟩

/-- What the generation is to do: to create the bill of the least unbilled cycle, or, in a batch, to wait
until it may be billed. -/
def MakesProgress (order : Order) (source : BillSource) (billingDate anchor : Int)
    (bills : List RentBill) : Prop :=
  ∀ n, LeastUnbilled order anchor bills n →
    (MayBill source billingDate anchor n →
      ∃ bill, generateNextMonthlyRentBill order source billingDate bills =
        some (bill, true, bills ++ [bill]) ∧
        monthlyRentPeriodWhere order.id (periodOf anchor n) bill = true) ∧
    (¬MayBill source billingDate anchor n → choosePeriod order source billingDate bills = none)

/-- The valid bills are those of the first cycles without a gap, and the key of the next one is free. -/
def Straight (order : Order) (anchor : Int) (bills : List RentBill) : Prop :=
  (∀ m, 0 < m → m ≤ (findValidMonthlyRentBills order.id bills).length →
    Billed order anchor bills m) ∧
  KeyFree order anchor bills ((findValidMonthlyRentBills order.id bills).length + 1)

theorem Straight.least (h : Straight order anchor bills) :
    LeastUnbilled order anchor bills ((findValidMonthlyRentBills order.id bills).length + 1) := by
  refine ⟨by omega, fun hbilled => ?_, fun m hm hlt => h.1 m hm (by omega)⟩
  have hle := billed_le fun m hm (hle : m ≤ (findValidMonthlyRentBills order.id bills).length + 1) => by
    rcases Nat.lt_or_eq_of_le hle with hlt | rfl
    · exact h.1 m hm (by omega)
    · exact hbilled
  omega

theorem Straight.generate (h : Straight order anchor bills) (hbillable : Billable order actualDeliveryAt amount)
    (hanchor : toBillingBusinessDate actualDeliveryAt = anchor)
    (hmay : MayBill source billingDate anchor ((findValidMonthlyRentBills order.id bills).length + 1)) :
    ∃ bill, generateNextMonthlyRentBill order source billingDate bills =
        some (bill, true, bills ++ [bill]) ∧
      monthlyRentPeriodWhere order.id
        (periodOf anchor ((findValidMonthlyRentBills order.id bills).length + 1)) bill = true ∧
      bill.sourceKey = billingSourceKey order.id
        (cycleStart anchor ((findValidMonthlyRentBills order.id bills).length + 1 : Nat)) := by
  rw [generateNextMonthlyRentBill, choosePeriod_some hbillable hanchor rfl hmay h.least.unbilled]
  exact create_some h.least.unbilled h.2

/-- The generation makes progress exactly when the bills are straight or the least unbilled cycle may not
be billed yet. -/
theorem makesProgress_iff (hbillable : Billable order actualDeliveryAt amount)
    (hanchor : toBillingBusinessDate actualDeliveryAt = anchor) :
    MakesProgress order source billingDate anchor bills ↔
      ∀ n, LeastUnbilled order anchor bills n → MayBill source billingDate anchor n →
        Straight order anchor bills := by
  have hmono := cycleStart_strictMono anchor
  constructor
  · intro hprogress n hn hmay
    obtain ⟨bill, hgenerate, hbill⟩ := (hprogress n hn).1 hmay
    rw [generateNextMonthlyRentBill, choosePeriod_eq hbillable hanchor rfl] at hgenerate
    split at hgenerate
    · next orderId source' amount' period hchosen =>
      obtain ⟨-, hchosen⟩ := Option.ite_none_left_eq_some.1 hchosen
      cases hchosen
      obtain ⟨hstart, hfree⟩ := create_inv hgenerate
      simp only [monthlyRentPeriodWhere, Bool.and_eq_true, beq_iff_eq] at hbill
      have hcycle := hmono.injective (hstart.symm.trans hbill.1.1.1.2)
      obtain rfl : (findValidMonthlyRentBills order.id bills).length + 1 = n := by omega
      exact ⟨fun m hm hle => hn.before m hm (by omega), hfree⟩
    · cases hgenerate
  · intro hstraight n hn
    refine ⟨fun hmay => ?_, fun hearly => ?_⟩
    · have h := hstraight n hn hmay
      obtain rfl := hn.unique h.least
      obtain ⟨bill, hgenerate, hbill, -⟩ := h.generate hbillable hanchor hmay
      exact ⟨bill, hgenerate, hbill⟩
    · obtain ⟨least, hle, hleast⟩ := exists_leastUnbilled order anchor bills
      obtain rfl := hn.unique hleast
      refine choosePeriod_early hbillable hanchor rfl fun hmay => hearly fun hbatch => ?_
      have hstart := hmono.monotone (show (n : Int) ≤
        ((findValidMonthlyRentBills order.id bills).length + 1 : Nat) by omega)
      have hdue := hmay hbatch
      omega

/-! ## Repeated generations -/

/-- So many single generations, each of which creates a bill. -/
def generateTimes (order : Order) (billingDate : Int) : Nat → List RentBill → Option (List RentBill)
  | 0, bills => some bills
  | count + 1, bills =>
    match generateNextMonthlyRentBill order .single billingDate bills with
    | some (_, true, bills') => generateTimes order billingDate count bills'
    | _ => none

theorem findValid_append {bill : RentBill} {period : MonthlyRentPeriod}
    (h : monthlyRentPeriodWhere order.id period bill = true) :
    findValidMonthlyRentBills order.id (bills ++ [bill]) =
      findValidMonthlyRentBills order.id bills ++ [bill] := by
  have hvalid : (bill.billStatus != .cancelled && !bill.deleted && bill.orderId == order.id) = true := by
    simp only [monthlyRentPeriodWhere, Bool.and_eq_true] at h
    simp only [Bool.and_eq_true]
    exact ⟨⟨h.1.1.2, h.1.2⟩, h.2⟩
  rw [findValidMonthlyRentBills, List.filter_append]
  congr 1
  exact List.filter_eq_self.2 fun row hrow => List.mem_singleton.1 hrow ▸ hvalid

/-- With the new bill the bills are straight again, if the next key is free too. -/
theorem Straight.next (h : Straight order anchor bills) {bill : RentBill} {k : Nat}
    (hk : (findValidMonthlyRentBills order.id bills).length = k)
    (hbill : monthlyRentPeriodWhere order.id (periodOf anchor (k + 1)) bill = true) :
    (findValidMonthlyRentBills order.id (bills ++ [bill])).length = k + 1 ∧
      ∀ m, 0 < m → m ≤ k + 1 → Billed order anchor (bills ++ [bill]) m := by
  refine ⟨by rw [findValid_append hbill, List.length_append, hk]; rfl, fun m hm hle => ?_⟩
  rcases Nat.lt_or_eq_of_le hle with hlt | rfl
  · obtain ⟨row, hrow, hwhere⟩ := h.1 m hm (by omega)
    exact ⟨row, List.mem_append_left _ hrow, hwhere⟩
  · exact ⟨bill, List.mem_append_right _ (List.mem_singleton_self bill), hbill⟩

theorem KeyFree.append (h : KeyFree order anchor bills n) {bill : RentBill} {m : Nat}
    (hkey : bill.sourceKey = billingSourceKey order.id (cycleStart anchor m)) (hne : m ≠ n) :
    KeyFree order anchor (bills ++ [bill]) n := by
  intro row hrow hthis
  rcases List.mem_append.1 hrow with hold | hnew
  · exact h row hold hthis
  · obtain rfl := List.mem_singleton.1 hnew
    have hkeys := hkey.symm.trans hthis
    have hstart : cycleStart anchor m = cycleStart anchor n := by
      simpa [billingSourceKey] using hkeys
    have hcycle := (cycleStart_strictMono anchor).injective hstart
    omega

/-- Where the bills of the first cycles are followed by free keys, each generation bills the next cycle. -/
theorem generateTimes_straight (hbillable : Billable order actualDeliveryAt amount)
    (hanchor : toBillingBusinessDate actualDeliveryAt = anchor) (count : Nat) {k : Nat}
    (hk : (findValidMonthlyRentBills order.id bills).length = k)
    (hbilled : ∀ m, 0 < m → m ≤ k → Billed order anchor bills m)
    (hfree : ∀ m, k < m → m ≤ k + count → KeyFree order anchor bills m) :
    ∃ new, generateTimes order billingDate count bills = some (bills ++ new) ∧ new.length = count ∧
      ∀ i bill, new[i]? = some bill →
        monthlyRentPeriodWhere order.id (periodOf anchor (k + i + 1)) bill = true := by
  induction count generalizing bills k with
  | zero => exact ⟨[], by rw [List.append_nil]; rfl, rfl, by simp⟩
  | succ count ih =>
    have hstraight : Straight order anchor bills := by
      rw [Straight, hk]
      exact ⟨hbilled, hfree (k + 1) (by omega) (by omega)⟩
    have hmay : MayBill .single billingDate anchor
        ((findValidMonthlyRentBills order.id bills).length + 1) := by
      intro hbatch
      cases hbatch
    obtain ⟨bill, hgenerate, hbill, hkey⟩ := hstraight.generate hbillable hanchor hmay
    rw [hk] at hbill hkey
    obtain ⟨hk', hbilled'⟩ := hstraight.next hk hbill
    obtain ⟨new, htimes, hlength, hnew⟩ := ih hk' hbilled' fun m hm hle =>
      (hfree m (by omega) (by omega)).append hkey (by omega)
    refine ⟨bill :: new, ?_, by rw [List.length_cons, hlength], fun i row hrow => ?_⟩
    · rw [generateTimes, hgenerate]
      simp only [htimes, List.append_assoc, List.singleton_append]
    · cases i with
      | zero =>
        obtain rfl := Option.some.inj hrow
        exact hbill
      | succ i =>
        have hrow' := hnew i row (by simpa using hrow)
        rwa [show k + 1 + i + 1 = k + (i + 1) + 1 by omega] at hrow'

/-- There is a least unbilled cycle among the first and one more than there are valid bills. The manual
generation creates its bill, or leaves it when it is a batch and the cycle may not be billed yet, exactly
when the valid bills are those of the first cycles and no row has the key of the next one, or the batch
has to wait anyway. From there on, repeated generations bill one cycle after the other as long as the
keys are free. -/
theorem manual_bill_least_unbilled (order : Order) (actualDeliveryAt amount : Int)
    (hbillable : Billable order actualDeliveryAt amount) (bills : List RentBill) :
    let anchor := toBillingBusinessDate actualDeliveryAt
    let count := (findValidMonthlyRentBills order.id bills).length
    (∃ n, n ≤ count + 1 ∧ LeastUnbilled order anchor bills n) ∧
    (∀ source billingDate, MakesProgress order source billingDate anchor bills ↔
      ∀ n, LeastUnbilled order anchor bills n → MayBill source billingDate anchor n →
        Straight order anchor bills) ∧
    ∀ billingDate times, Straight order anchor bills →
      (∀ m, count < m → m ≤ count + times → KeyFree order anchor bills m) →
      ∃ new, generateTimes order billingDate times bills = some (bills ++ new) ∧ new.length = times ∧
        ∀ i bill, new[i]? = some bill →
          monthlyRentPeriodWhere order.id (periodOf anchor (count + i + 1)) bill = true :=
  ⟨exists_leastUnbilled order _ bills, fun _ _ => makesProgress_iff hbillable rfl,
    fun _ times hstraight hfree => generateTimes_straight hbillable rfl times rfl hstraight.1 hfree⟩

/-- An order whose car was delivered on the first day of 1970. -/
def deliveredOrder : Order :=
  { id := 0, orderStatus := .active, deleted := false, actualDeliveryAt := some 0, endDate := none
    monthlyRentAmount := some 1000, lease := none, segments := [] }

theorem deliveredOrder_billable : Billable deliveredOrder 0 1000 := ⟨rfl, rfl, rfl, rfl⟩

/-- Two generations for an order without bills. -/
theorem manual_bill_least_unbilled_first : ∃ new,
    generateTimes deliveredOrder 0 2 [] = some ([] ++ new) ∧ new.length = 2 := by
  obtain ⟨-, -, htimes⟩ := manual_bill_least_unbilled deliveredOrder 0 1000 deliveredOrder_billable []
  obtain ⟨new, hnew, hlength, -⟩ := htimes 0 2
    ⟨fun m hm hle => absurd hle (by simp [findValidMonthlyRentBills]; omega), by simp [KeyFree]⟩
    (by simp [KeyFree])
  exact ⟨new, hnew, hlength⟩

/-- The bill of the first cycle is cancelled, the second cycle is billed. -/
def cancelledFirst : List RentBill :=
  [{ id := 0, orderId := 0, billStatus := .cancelled, deleted := false,
     billPeriodStart := cycleStart 0 1, billPeriodEnd := cycleStart 0 2 - 1,
     dueDate := cycleStart 0 1, amount := 1000, sourceKey := billingSourceKey 0 (cycleStart 0 1),
     source := .automation, contractSegmentId := none },
   { id := 1, orderId := 0, billStatus := .pending, deleted := false,
     billPeriodStart := cycleStart 0 2, billPeriodEnd := cycleStart 0 3 - 1,
     dueDate := cycleStart 0 2, amount := 1000, sourceKey := billingSourceKey 0 (cycleStart 0 2),
     source := .automation, contractSegmentId := none }]

/-- One bill is counted, so that the second cycle is taken for the next one, and nothing is created. -/
theorem manual_bill_stuck : ¬∀ (order : Order) (actualDeliveryAt amount : Int) (source : BillSource)
    (billingDate : Int) (bills : List RentBill), Billable order actualDeliveryAt amount →
    MakesProgress order source billingDate (toBillingBusinessDate actualDeliveryAt) bills := by
  intro h
  have hleast : LeastUnbilled deliveredOrder (toBillingBusinessDate 0) cancelledFirst 1 := by
    refine ⟨by omega, ?_, fun m hm hlt => by omega⟩
    rintro ⟨bill, hbill, hwhere⟩
    have hnone : cancelledFirst.any (monthlyRentPeriodWhere deliveredOrder.id
        (periodOf (toBillingBusinessDate 0) 1)) = false := by decide +kernel
    exact absurd hwhere (List.any_eq_false.1 hnone bill hbill)
  obtain ⟨bill, hgenerate, -⟩ := (h deliveredOrder 0 1000 .single 0 cancelledFirst
    deliveredOrder_billable 1 hleast).1 fun hbatch => by cases hbatch
  have hkept : (generateNextMonthlyRentBill deliveredOrder .single 0 cancelledFirst).map (·.2.1) =
      some false := by decide +kernel
  rw [hgenerate] at hkept
  cases hkept

end SubscriptionSaas.Billing
