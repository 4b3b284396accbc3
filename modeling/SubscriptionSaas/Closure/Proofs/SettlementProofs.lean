import SubscriptionSaas.Closure.Settlement
import SubscriptionSaas.Lib.Tables

/-!
# The amount due

What the customer owes at the closure is one amount for the whole case: waivers and write-offs are booked
on the vehicle's cost ledger and not on bills. It is what remains of the bills less what was waived and
written off, and facts for which this would be negative are refused. The tables can be in any order.
-/

namespace SubscriptionSaas.Closure

open SubscriptionSaas.Finance

variable {closureCase : SettlementCase} {order : SettlementOrder} {inputs : SettlementInputs}
  {settlement : ResolvedSubscriptionClosureSettlement}

/-! ## The amounts -/

/-- Facts that agree have bills of which a part has been paid and the rest remains. -/
theorem bills_of_coherent {facts : SettlementFacts} {paidTotalCents : Int}
    (h : facts.assertFinancialCoherence = .ok paidTotalCents) {bill : ReceivableBill}
    (hbill : bill ∈ facts.bills) :
    0 ≤ bill.remainingAmount ∧ 0 ≤ bill.paidAmount ∧
      bill.paidAmount + bill.remainingAmount = bill.amount := by
  unfold SettlementFacts.assertFinancialCoherence at h
  obtain ⟨r, hr, -⟩ := Results.bind_ok h
  unfold SettlementFacts.reconcile at hr
  split at hr
  · next hok =>
    have hall := (Bool.and_eq_true_iff.1 (Bool.and_eq_true_iff.1 hok).1).1
    have hthis := List.all_eq_true.1 hall bill hbill
    simp only [SettlementFacts.billOk, Bool.and_eq_true, decide_eq_true_eq, beq_iff_eq] at hthis
    exact ⟨hthis.1.2, hthis.1.1.2, hthis.2⟩
  · cases hr

/-- A settlement that is not refused. -/
theorem settle_ok (h : settle closureCase order inputs = .ok settlement) :
    ∃ paidTotalCents, (inputs.facts closureCase).assertFinancialCoherence = .ok paidTotalCents ∧
      settlement.amountDueCents = inputs.remainingTotalCents -
        inputs.waiverTotalCents closureCase - inputs.writeOffTotalCents closureCase ∧
      0 ≤ settlement.amountDueCents ∧
      settlement.depositFinal = isDepositFinal order inputs.deposits ∧
      settlement.obligationsResolved = (settlement.amountDueCents == 0 && settlement.depositFinal) ∧
      settlement.inputs = inputs ∧ settlement.closureCase = closureCase := by
  unfold settle at h
  split at h
  · cases h
  · next paidTotalCents hpaid =>
    dsimp only at h
    obtain ⟨-, h⟩ := Results.guard_ok h
    obtain ⟨hwithin, h⟩ := Results.guard_ok h
    obtain rfl := Except.ok.inj h
    have hnonneg : nonnegative (inputs.remainingTotalCents - inputs.waiverTotalCents closureCase -
        inputs.writeOffTotalCents closureCase) = inputs.remainingTotalCents -
        inputs.waiverTotalCents closureCase - inputs.writeOffTotalCents closureCase :=
      if_neg (by omega)
    refine ⟨paidTotalCents, hpaid, hnonneg, ?_, rfl, rfl, rfl, rfl⟩
    simp only [hnonneg]
    omega

/-! ## The order of the rows -/

/-- The same rows in another order, of which no two have one id. -/
structure SettlementDb.Permuted (db db' : SettlementDb) : Prop where
  cases : db.cases.Perm db'.cases ∧ (db'.cases.map (·.id)).Nodup
  orders : db.orders.Perm db'.orders ∧ (db'.orders.map (·.id)).Nodup
  ledger : db.ledger.Perm db'.ledger ∧ (db'.ledger.map (·.id)).Nodup
  damages : db.damages.Perm db'.damages ∧ (db'.damages.map (·.id)).Nodup
  mileageReadings :
    db.mileageReadings.Perm db'.mileageReadings ∧ (db'.mileageReadings.map (·.id)).Nodup
  bills : db.bills.Perm db'.bills ∧ (db'.bills.map (·.id)).Nodup
  payments : db.payments.Perm db'.payments ∧ (db'.payments.map (·.id)).Nodup
  paymentAllocations : db.paymentAllocations.Perm db'.paymentAllocations ∧
    (db'.paymentAllocations.map (·.1)).Nodup
  deposits : db.deposits.Perm db'.deposits ∧ (db'.deposits.map (·.id)).Nodup

/-- Rows with different ids have different keys of which the id is a part. -/
theorem nodup_key {α κ : Type} {rows : List α} {id : α → Id} (key : α → κ) (part : κ → Id)
    (hpart : ∀ row, part (key row) = id row) (h : (rows.map id).Nodup) : (rows.map key).Nodup := by
  have hids : (rows.map key).map part = rows.map id := by
    rw [List.map_map]
    exact List.map_congr_left fun row _ => hpart row
  exact List.Nodup.of_map part (hids ▸ h)

theorem findManyBy_perm {α : Type} (time : α → Instant) {id : α → Id} (p : α → Bool)
    {rows rows' : List α} (h : rows.Perm rows' ∧ (rows'.map id).Nodup) :
    findManyBy time id p rows = findManyBy time id p rows' := by
  have hids : ((rows'.filter p).map id).Nodup := (List.filter_sublist.map id).nodup h.2
  exact Tables.insertionSort_perm (h.1.filter p)
    (nodup_key (timeAndId time id) (fun key => (ofLex key).2) (fun _ => rfl) hids)

theorem SettlementDb.Permuted.readInputs {db db' : SettlementDb} (h : db.Permuted db') (orderId : Id) :
    readInputs db orderId = readInputs db' orderId := by
  have hdeposits : ∀ p : DepositLedger → Bool, (db.deposits.filter p).insertionSort
      (fun a b => occurrence a ≤ occurrence b) = (db'.deposits.filter p).insertionSort
      fun a b => occurrence a ≤ occurrence b := by
    intro p
    have hids : ((db'.deposits.filter p).map (·.id)).Nodup :=
      (List.filter_sublist.map _).nodup h.deposits.2
    exact Tables.insertionSort_perm (h.deposits.1.filter p)
      (nodup_key occurrence (fun key => (ofLex (ofLex key).2).2) (fun _ => rfl) hids)
  simp only [Closure.readInputs, findManyBy_perm _ _ h.ledger, findManyBy_perm _ _ h.damages,
    findManyBy_perm _ _ h.mileageReadings, findManyBy_perm _ _ h.bills, findManyBy_perm _ _ h.payments,
    findManyBy_perm _ _ h.paymentAllocations, hdeposits]

theorem find_perm {α : Type} {id : α → Id} {rows rows' : List α}
    (h : rows.Perm rows' ∧ (rows'.map id).Nodup) (key : Id) :
    rows.find? (id · == key) = rows'.find? (id · == key) :=
  Tables.find?_key_congr ((h.1.map id).nodup_iff.2 h.2) h.2 fun _ _ => h.1.mem_iff

theorem SettlementDb.Permuted.resolveInTransaction {db db' : SettlementDb} (h : db.Permuted db')
    (closureCaseId : Id) :
    resolveInTransaction db closureCaseId = resolveInTransaction db' closureCaseId := by
  simp only [Closure.resolveInTransaction, find_perm h.cases, find_perm h.orders, h.readInputs]

/-! ## The settlement -/

theorem resolveInTransaction_ok {db : SettlementDb} {closureCaseId : Id}
    (h : resolveInTransaction db closureCaseId = .ok settlement) :
    ∃ order ∈ db.orders, order.id = settlement.closureCase.orderId ∧
      settle settlement.closureCase order settlement.inputs = .ok settlement ∧
      settlement.inputs = readInputs db settlement.closureCase.orderId := by
  unfold resolveInTransaction at h
  split at h
  · cases h
  · next closureCase hcase =>
    split at h
    · cases h
    · next order horder =>
      obtain ⟨hfind, -⟩ := Option.filter_eq_some_iff.1 horder
      obtain ⟨_, -, -, -, -, -, hinputs, hthis⟩ := settle_ok h
      refine ⟨order, List.mem_of_find?_eq_some hfind, ?_, ?_, ?_⟩
      · rw [hthis]
        simpa using List.find?_some hfind
      · rwa [hthis, hinputs]
      · rw [hthis, hinputs]

/-- The amount due of an accepted case is what remains of its bills less what was waived and written off
for the customer, and not negative; no bill has a negative rest. The obligations are resolved when nothing
is due and the deposit is final. The order of the rows in the tables does not matter. -/
theorem settlement_amount_due (db : SettlementDb) (closureCaseId : Id) :
    (∀ settlement, resolveInTransaction db closureCaseId = .ok settlement →
      settlement.amountDueCents = (settlement.inputs.bills.map (·.remainingAmount)).sum -
        settlement.inputs.waiverTotalCents settlement.closureCase -
        settlement.inputs.writeOffTotalCents settlement.closureCase ∧
      0 ≤ settlement.amountDueCents ∧
      (∀ bill ∈ settlement.inputs.bills, 0 ≤ bill.remainingAmount ∧
        bill.remainingAmount = bill.amount - bill.paidAmount) ∧
      (settlement.obligationsResolved = true ↔
        settlement.amountDueCents = 0 ∧ settlement.depositFinal = true) ∧
      ∃ order ∈ db.orders, order.id = settlement.closureCase.orderId ∧
        settlement.depositFinal = isDepositFinal order settlement.inputs.deposits) ∧
    ∀ db', db.Permuted db' →
      resolveInTransaction db closureCaseId = resolveInTransaction db' closureCaseId := by
  refine ⟨fun settlement h => ?_, fun db' h => h.resolveInTransaction closureCaseId⟩
  obtain ⟨order, horder, hid, hsettle, -⟩ := resolveInTransaction_ok h
  obtain ⟨paidTotalCents, hpaid, hdue, hnonneg, hfinal, hresolved, -⟩ := settle_ok hsettle
  refine ⟨hdue, hnonneg, fun bill hbill => ?_, ?_, order, horder, hid, hfinal⟩
  · obtain ⟨hrest, -, hsum⟩ := bills_of_coherent hpaid hbill
    exact ⟨hrest, by omega⟩
  · rw [hresolved, Bool.and_eq_true, beq_iff_eq]

/-- Two open bills, of which the customer was let off eighty cents. -/
def twoOpenBills : SettlementDb :=
  { cases := [{ id := 0, orderId := 0, contractId := 0, customerId := 0, vehicleId := 0 }]
    orders :=
      [{ id := 0, contractId := some 0, customerId := 0, vehicleId := some 0, depositAmount := 0,
         depositStatus := .waived, finalDepositAmount := none, deletedAt := none }]
    ledger :=
      [{ id := 0, actionType := .waiver, amountCents := 80, contractId := some 0, createdAt := 0,
         customerId := some 0, orderId := some 0, responsiblePartyId := some 0,
         responsiblePartyType := .customer, vehicleId := 0 }]
    damages := []
    mileageReadings := []
    bills :=
      [{ id := 0, orderId := 0, customerId := 0, billType := .damageFee, billStatus := .pending,
         amount := 100, paidAmount := 0, remainingAmount := 100, dueDate := 0, paidAt := none,
         createdAt := 0, deletedAt := none },
       { id := 1, orderId := 0, customerId := 0, billType := .damageFee, billStatus := .pending,
         amount := 50, paidAmount := 0, remainingAmount := 50, dueDate := 0, paidAt := none,
         createdAt := 0, deletedAt := none }]
    payments := []
    paymentAllocations := []
    deposits := [] }

/-- The two bills in the other order, seventy cents due. -/
theorem settlement_amount_due_two :
    (resolveInTransaction twoOpenBills 0).map (fun settlement =>
      (settlement.amountDueCents, settlement.obligationsResolved)) = .ok (70, false) ∧
    resolveInTransaction twoOpenBills 0 =
      resolveInTransaction { twoOpenBills with bills := twoOpenBills.bills.reverse } 0 := by
  refine ⟨by decide +kernel, (settlement_amount_due twoOpenBills 0).2 _ ?_⟩
  exact ⟨⟨.rfl, by decide⟩, ⟨.rfl, by decide⟩, ⟨.rfl, by decide⟩, ⟨.rfl, by decide⟩,
    ⟨.rfl, by decide⟩, ⟨(List.reverse_perm _).symm, by decide⟩, ⟨.rfl, by decide⟩,
    ⟨.rfl, by decide⟩, ⟨.rfl, by decide⟩⟩

/-- A waiver is not booked on a bill: taken off each of the two, it would exceed the smaller one and come
off the sum twice. -/
theorem no_amount_due_per_bill : ¬∀ (db : SettlementDb) (closureCaseId : Id) settlement,
    resolveInTransaction db closureCaseId = .ok settlement →
    let due := fun bill : ReceivableBill => bill.remainingAmount -
      settlement.inputs.waiverTotalCents settlement.closureCase -
      settlement.inputs.writeOffTotalCents settlement.closureCase
    (∀ bill ∈ settlement.inputs.bills, 0 ≤ due bill) ∧
      settlement.amountDueCents = (settlement.inputs.bills.map due).sum := by
  intro h
  have hresult : (resolveInTransaction twoOpenBills 0).map (fun settlement =>
      (settlement.amountDueCents, (settlement.inputs.bills.map fun bill => bill.remainingAmount -
        settlement.inputs.waiverTotalCents settlement.closureCase -
        settlement.inputs.writeOffTotalCents settlement.closureCase).sum)) = .ok (70, -10) := by
    decide +kernel
  cases hresolve : resolveInTransaction twoOpenBills 0 with
  | error conflict =>
    rw [hresolve] at hresult
    cases hresult
  | ok settlement =>
    rw [hresolve] at hresult
    obtain ⟨hdue, hsum⟩ := Prod.ext_iff.1 (Except.ok.inj hresult)
    have hequal := (h twoOpenBills 0 settlement hresolve).2
    simp only at hdue hsum hequal
    omega

end SubscriptionSaas.Closure
