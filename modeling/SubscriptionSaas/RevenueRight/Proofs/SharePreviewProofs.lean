import SubscriptionSaas.Lib.Proofs.CalendarProofs
import SubscriptionSaas.RevenueRight.SharePreview

/-!
# What the previews of consecutive periods share

A bill counts in each preview whose range its billing period meets, with all that has been paid for it.
The previews of consecutive periods therefore share the receipts of the whole range just when none of the
cuts falls inside of the billing period of a bill of the range.
-/

namespace SubscriptionSaas.RevenueRight

open Calendar Periods

theorem dateUTC_fields (d k : Int) : dateUTC (getUTCFullYear d) (getUTCMonth d) k =
    monthStart (monthOf d) + k - 1 := by
  have h := dateUTC_month d 0 k
  simpa using h

@[simp] theorem dateOnly_eq (date : Int) : dateOnly date = dayOf date := by
  have hday := day_eq (dayOf date)
  rw [dateOnly, dateUTC_fields]
  exact hday.symm

@[simp] theorem addDays_eq (date days : Int) : addDays date days = date + days := by
  have hday := day_eq date
  rw [addDays, dateUTC_fields]
  unfold getUTCDate
  omega

@[simp] theorem dayOf_instantOf (d : Int) : dayOf (instantOf d) = d :=
  Int.mul_ediv_cancel d (by decide)

theorem instantOf_le_iff {d t : Int} : instantOf d ≤ t ↔ d ≤ dayOf t := by
  unfold instantOf dayOf
  omega

theorem lt_instantOf_iff {d t : Int} : t < instantOf d ↔ dayOf t < d := by
  unfold instantOf dayOf
  omega

theorem sumBigInt_eq (values : List Int) : sumBigInt values = values.sum :=
  List.sum_eq_foldl.symm

/-! ## The bills of a preview -/

variable {db : Db} {vehicle : Vehicle} {rule : RevenueShareRule} {bill : ReceivableBill}

/-- The days over which a bill stretches; a bound that is missing is the day of the due date. -/
def ReceivableBill.span (bill : ReceivableBill) : Int × Int :=
  (bill.billPeriodStart.getD (dayOf bill.dueDate), bill.billPeriodEnd.getD (dayOf bill.dueDate))

/-- Both bounds of the billing period are there, or none is. -/
def ReceivableBill.wholePeriod (bill : ReceivableBill) : Bool :=
  bill.billPeriodStart.isSome == bill.billPeriodEnd.isSome

theorem billInDateRange_eq (startDate endDate : Int) :
    billInDateRange bill startDate endDate = meets bill.span.1 bill.span.2 (startDate, endDate) := by
  unfold billInDateRange ReceivableBill.span meets
  cases bill.billPeriodStart with
  | none =>
    cases bill.billPeriodEnd with
    | none => simp [Bool.and_comm]
    | some periodEnd => simp
  | some periodStart =>
    cases bill.billPeriodEnd with
    | none => simp
    | some periodEnd => simp

/-- The query passes over the bills of which one bound is missing. -/
theorem selectsBill_eq (startDate endDate : Int) : selectsBill startDate endDate bill =
    (bill.wholePeriod && meets bill.span.1 bill.span.2 (startDate, endDate)) := by
  unfold selectsBill ReceivableBill.wholePeriod ReceivableBill.span meets
  cases bill.billPeriodStart with
  | none =>
    cases bill.billPeriodEnd with
    | none =>
      have hend : bill.dueDate < instantOf (endDate + 1) ↔ dayOf bill.dueDate ≤ endDate :=
        lt_instantOf_iff.trans Int.lt_add_one_iff
      simp [instantOf_le_iff, hend, Bool.and_comm]
    | some periodEnd => simp
  | some periodStart =>
    cases bill.billPeriodEnd with
    | none => simp
    | some periodEnd => simp [Bool.and_comm]

/-- The bill is of a type that the rule shares. -/
def shares (rule : RevenueShareRule) (bill : ReceivableBill) : Bool :=
  (eligibleBillTypesForBasis rule.shareBasis).contains bill.billType

/-- The bill counts in the preview of a period. -/
def countsIn (rule : RevenueShareRule) (period : Int × Int) (bill : ReceivableBill) : Bool :=
  shares rule bill && bill.wholePeriod && meets bill.span.1 bill.span.2 period

theorem eligibleBills_perm (startDate endDate : Int) :
    (eligibleBills db vehicle rule startDate endDate).Perm
      ((db.vehicleBills vehicle).filter (countsIn rule (startDate, endDate))) := by
  have hsort : (db.findBills vehicle startDate endDate).Perm
      ((db.vehicleBills vehicle).filter (selectsBill startDate endDate)) := List.perm_insertionSort _ _
  refine (hsort.filter _).trans (List.Perm.of_eq ?_)
  rw [List.filter_filter]
  refine List.filter_congr fun bill _ => ?_
  rw [selectsBill_eq, billInDateRange_eq, countsIn, shares]
  cases meets bill.span.1 bill.span.2 (startDate, endDate) <;> simp

theorem mem_eligibleBills {startDate endDate : Int} :
    bill ∈ eligibleBills db vehicle rule startDate endDate ↔
      bill ∈ db.vehicleBills vehicle ∧ countsIn rule (startDate, endDate) bill = true :=
  (eligibleBills_perm startDate endDate).mem_iff.trans List.mem_filter

/-! ## The previews of a partition -/

/-- What has been paid for the bills of the vehicle that the rule shares and that are in the range. -/
def rangeBills (db : Db) (vehicle : Vehicle) (rule : RevenueShareRule) (startDate endDate : Int) :
    List ReceivableBill :=
  (db.vehicleBills vehicle).filter fun bill =>
    (eligibleBillTypesForBasis rule.shareBasis).contains bill.billType &&
      billInDateRange bill startDate endDate

theorem mem_rangeBills {startDate endDate : Int} :
    bill ∈ rangeBills db vehicle rule startDate endDate ↔ bill ∈ db.vehicleBills vehicle ∧
      shares rule bill = true ∧ meets bill.span.1 bill.span.2 (startDate, endDate) = true := by
  rw [rangeBills, List.mem_filter, billInDateRange_eq, Bool.and_eq_true]
  rfl

/-- The previews of the periods share each bill of the range once, and split what they share. -/
structure SharedOnce (db : Db) (vehicle : Vehicle) (rule : RevenueShareRule) (range : Partition) : Prop where
  total : (range.parts.map fun period =>
      (buildRevenueSharePreview db vehicle rule period.1 period.2).shareBaseAmount).sum =
    ((rangeBills db vehicle rule range.first range.last).map (·.paidAmount)).sum
  once : ∀ bill ∈ rangeBills db vehicle rule range.first range.last,
    range.parts.countP (fun period => bill ∈ eligibleBills db vehicle rule period.1 period.2) = 1
  split : ∀ period ∈ range.parts,
    let preview := buildRevenueSharePreview db vehicle rule period.1 period.2
    preview.ownerShareAmount + preview.platformShareAmount = preview.shareBaseAmount

/-- No cut falls inside of the billing period of the bill, and no single bound of it is missing. -/
def Uncut (range : Partition) (bill : ReceivableBill) : Prop :=
  match bill.billPeriodStart, bill.billPeriodEnd with
  | some periodStart, some periodEnd => ∀ cut ∈ range.cuts, (periodStart ≤ cut ↔ periodEnd ≤ cut)
  | none, none => True
  | _, _ => False

theorem uncut_iff {range : Partition} : Uncut range bill ↔
    bill.wholePeriod = true ∧ ∀ cut ∈ range.cuts, (bill.span.1 ≤ cut ↔ bill.span.2 ≤ cut) := by
  unfold Uncut ReceivableBill.wholePeriod ReceivableBill.span
  cases bill.billPeriodStart with
  | none =>
    cases bill.billPeriodEnd with
    | none => simp
    | some periodEnd => simp
  | some periodStart =>
    cases bill.billPeriodEnd with
    | none => simp
    | some periodEnd => simp

theorem shareBaseAmount_eq (hbasis : rule.shareBasis ∈ SUPPORTED_REVENUE_SHARE_BASIS)
    (startDate endDate : Int) :
    (buildRevenueSharePreview db vehicle rule startDate endDate).shareBaseAmount =
      (((db.vehicleBills vehicle).filter (countsIn rule (startDate, endDate))).map (·.paidAmount)).sum := by
  have hsupported : SUPPORTED_REVENUE_SHARE_BASIS.contains rule.shareBasis = true :=
    List.contains_iff_mem.2 hbasis
  have hperm : (eligibleBills db vehicle rule startDate endDate).Perm
      ((db.vehicleBills vehicle).filter (countsIn rule (startDate, endDate))) :=
    eligibleBills_perm startDate endDate
  rw [← (hperm.map (·.paidAmount)).sum_eq, ← sumBigInt_eq]
  simp only [buildRevenueSharePreview, hsupported, Bool.not_true, Bool.false_eq_true, if_false]

/-- What is not for the owner stays with the platform. -/
theorem shares_add (startDate endDate : Int) :
    (buildRevenueSharePreview db vehicle rule startDate endDate).ownerShareAmount +
      (buildRevenueSharePreview db vehicle rule startDate endDate).platformShareAmount =
        (buildRevenueSharePreview db vehicle rule startDate endDate).shareBaseAmount := by
  unfold buildRevenueSharePreview
  split
  · rfl
  · dsimp only
    omega

/-- How many of the previews a bill counts in. -/
theorem countP_countsIn (range : Partition) : range.parts.countP (fun period => countsIn rule period bill) =
    if shares rule bill = true ∧ bill.wholePeriod = true then
      range.parts.countP (meets bill.span.1 bill.span.2) else 0 := by
  split
  · next h => exact List.countP_congr fun period _ => by simp [countsIn, h.1, h.2]
  · next h =>
    refine List.countP_eq_zero.2 fun period _ hcounts => h ?_
    simp only [countsIn, Bool.and_eq_true] at hcounts
    exact hcounts.1

theorem countP_eligible (range : Partition) (hbill : bill ∈ db.vehicleBills vehicle) :
    range.parts.countP (fun period => bill ∈ eligibleBills db vehicle rule period.1 period.2) =
      range.parts.countP fun period => countsIn rule period bill :=
  List.countP_congr fun period _ => by simp [mem_eligibleBills, hbill]

/-- A bill of the range counts in just one preview when it is not cut. -/
theorem countP_countsIn_eq_one_iff {range : Partition}
    (hbill : bill ∈ rangeBills db vehicle rule range.first range.last) :
    range.parts.countP (fun period => countsIn rule period bill) = 1 ↔ Uncut range bill := by
  obtain ⟨-, hshares, hmeets⟩ := mem_rangeBills.1 hbill
  simp only [meets, Bool.and_eq_true, decide_eq_true_eq] at hmeets
  rw [countP_countsIn, uncut_iff]
  by_cases hwhole : bill.wholePeriod = true
  · rw [if_pos ⟨hshares, hwhole⟩, and_iff_right hwhole]
    exact countP_eq_one_iff range.nonempty range.ordered range.within hmeets.1 hmeets.2
  · rw [if_neg fun h => hwhole h.2]
    exact iff_of_false Nat.zero_ne_one fun h => hwhole h.1

/-- A bill outside of the range counts in no preview. -/
theorem countP_countsIn_eq_zero {range : Partition} (hbill : bill ∈ db.vehicleBills vehicle)
    (hnot : bill ∉ rangeBills db vehicle rule range.first range.last) :
    range.parts.countP (fun period => countsIn rule period bill) = 0 := by
  refine List.countP_eq_zero.2 fun period hperiod hcounts => hnot (mem_rangeBills.2 ⟨hbill, ?_⟩)
  have hbounds := bounds_of_mem range.nonempty range.ordered range.within hperiod
  simp only [countsIn, meets, Bool.and_eq_true, decide_eq_true_eq] at hcounts ⊢
  obtain ⟨⟨hshares, -⟩, hstart, hend⟩ := hcounts
  exact ⟨hshares, by omega, by omega⟩

/-- The previews share together what has been paid for a bill as often as the bill counts in them. -/
theorem total_eq (hbasis : rule.shareBasis ∈ SUPPORTED_REVENUE_SHARE_BASIS) (range : Partition) :
    (range.parts.map fun period =>
      (buildRevenueSharePreview db vehicle rule period.1 period.2).shareBaseAmount).sum =
    ((db.vehicleBills vehicle).map fun bill =>
      range.parts.countP (fun period => countsIn rule period bill) • bill.paidAmount).sum := by
  rw [← sum_filter_sum (countsIn rule)]
  exact congrArg List.sum (List.map_congr_left fun period _ => shareBaseAmount_eq hbasis _ _)

/-- The previews of the periods into which a range is cut share each of its bills just once if and only
if no cut falls inside of the billing period of a bill that is shared. -/
theorem previews_share_once_iff (db : Db) (vehicle : Vehicle) (rule : RevenueShareRule)
    (hbasis : rule.shareBasis ∈ SUPPORTED_REVENUE_SHARE_BASIS) (range : Partition) :
    SharedOnce db vehicle rule range ↔
      ∀ bill ∈ rangeBills db vehicle rule range.first range.last, Uncut range bill := by
  constructor
  · intro hshared bill hbill
    have honce := hshared.once bill hbill
    rw [countP_eligible range (mem_rangeBills.1 hbill).1] at honce
    exact (countP_countsIn_eq_one_iff hbill).1 honce
  · intro huncut
    refine ⟨?_, fun bill hbill => ?_, fun period _ => shares_add period.1 period.2⟩
    · rw [total_eq hbasis, rangeBills, sum_filter]
      refine congrArg List.sum (List.map_congr_left fun bill hbill => ?_)
      by_cases hrange : bill ∈ rangeBills db vehicle rule range.first range.last
      · rw [(countP_countsIn_eq_one_iff hrange).2 (huncut bill hrange), one_nsmul,
          if_pos (List.mem_filter.1 hrange).2]
      · have hnot := fun h => hrange (List.mem_filter.2 ⟨hbill, h⟩)
        rw [countP_countsIn_eq_zero hbill hrange, zero_nsmul, if_neg hnot]
    · rw [countP_eligible range (mem_rangeBills.1 hbill).1]
      exact (countP_countsIn_eq_one_iff hbill).2 (huncut bill hbill)

/-! ## A bill with a cut inside of its billing period -/

/-- A month's rent from the fifth to the tenth day, and a rule that shares rents. -/
def cutBill : ReceivableBill :=
  { id := 1, orderId := 1, billType := .monthlyRent, paidAmount := 500000, dueDate := 5 * 86400000,
    billPeriodStart := some 5, billPeriodEnd := some 10 }

def cutDb : Db := { orders := [{ id := 1, vehicleId := some 1 }], bills := [cutBill] }

def managedVehicle : Vehicle := { id := 1, acquisitionMode := .managedRevenueShare }

def rentalRule : RevenueShareRule :=
  { ruleType := .revenueShare, shareBasis := .rentalPaid, ownerShareBps := some 3000,
    fixedMonthlyAmount := none }

/-- The first twenty days, cut after the seventh. -/
def cutRange : Partition where
  first := 1
  last := 20
  cuts := [7]
  ordered := List.pairwise_singleton _ _
  within := by decide
  nonempty := by decide

theorem cut_counts_twice : ¬ SharedOnce cutDb managedVehicle rentalRule cutRange := by
  intro hshared
  have honce := hshared.once cutBill (by decide +kernel)
  revert honce
  decide +kernel

/-- The first twenty days, cut after the fourth. -/
def uncutRange : Partition where
  first := 1
  last := 20
  cuts := [4]
  ordered := List.pairwise_singleton _ _
  within := by decide
  nonempty := by decide

theorem uncut_shared_once : SharedOnce cutDb managedVehicle rentalRule uncutRange := by
  refine (previews_share_once_iff cutDb managedVehicle rentalRule (by decide) uncutRange).2 ?_
  have hbills : rangeBills cutDb managedVehicle rentalRule 1 20 = [cutBill] := by decide +kernel
  intro bill hbill
  obtain rfl : bill = cutBill := List.mem_singleton.1 (hbills ▸ hbill)
  show ∀ cut ∈ [4], ((5 : Int) ≤ cut ↔ 10 ≤ cut)
  decide

end SubscriptionSaas.RevenueRight
