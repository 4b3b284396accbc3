import SubscriptionSaas.Closure.Coherence
import SubscriptionSaas.Finance.Proofs.DepositProofs
import SubscriptionSaas.Finance.Proofs.FactsProofs

/-!
# The finance service writes coherent histories

The settlement resolver accepts every history of the finance service in which the deposit rows of the
order occurred in the order in which they were booked. A settlement books its deposit at the time the
provider states, so this is a condition and not a fact.
-/

namespace SubscriptionSaas.Closure

open Transaction RunningBalance
open SubscriptionSaas.Finance

/-! ## The sums -/

/-- What the allocations add up to for a bill or a payment. -/
def allocated (key : PaymentWriteOff → Id) (allocations : List PaymentWriteOff) (id : Id) : Int :=
  sumWriteOffAmount (allocations.filter fun w => key w == id)

/-- What the deposit rows deduct for a bill. -/
def deductedFor (deposits : List DepositLedger) (id : Id) : Int :=
  ((deposits.filter fun l => l.transactionType == .deduct && l.billId == some id).map (·.amount)).sum

theorem allocated_cons (key : PaymentWriteOff → Id) (w : PaymentWriteOff)
    (ws : List PaymentWriteOff) (m : AmountById) (id : Id) :
    m.add (key w) w.writeOffAmount id + allocated key ws id = m id + allocated key (w :: ws) id := by
  unfold allocated AmountById.add sumWriteOffAmount
  by_cases hid : id = key w
  · simp [hid, add_assoc]
  · have hne : ¬ key w = id := fun h => hid h.symm
    simp [hid, hne]

theorem deductedFor_cons (l : DepositLedger) (ls : List DepositLedger) (m : AmountById) (id : Id)
    {billId : Id} (htype : l.transactionType = .deduct) (hbill : l.billId = some billId) :
    m.add billId l.amount id + deductedFor ls id = m id + deductedFor (l :: ls) id := by
  unfold deductedFor AmountById.add
  by_cases hid : id = billId
  · simp [hid, htype, hbill, add_assoc]
  · have hne : ¬ billId = id := fun h => hid h.symm
    simp [hid, htype, hbill, hne]

theorem deductedFor_skip (l : DepositLedger) (ls : List DepositLedger) (id : Id)
    (htype : l.transactionType ≠ .deduct) : deductedFor (l :: ls) id = deductedFor ls id := by
  simp [deductedFor, htype]

namespace SettlementFacts

variable {facts : SettlementFacts}

theorem signedAmount_eq (l : DepositLedger) : signedAmount l = signedDepositLedgerAmount l := by
  unfold signedAmount signedDepositLedgerAmount
  cases l.transactionType <;> rfl

/-- The loop over the allocations. -/
theorem allocate_all {ws : List PaymentWriteOff} (r : Reconciliation)
    (h : ∀ w ∈ ws, w.customerId = facts.customerId ∧ 0 < w.writeOffAmount ∧
      (facts.billById w.billId).isSome ∧ (facts.paymentById w.paymentId).isSome) :
    ws.foldlM facts.allocate r = .ok { r with
      allocatedByBill := fun id => r.allocatedByBill id + allocated (·.billId) ws id
      allocatedByPayment := fun id => r.allocatedByPayment id + allocated (·.paymentId) ws id } := by
  induction ws generalizing r with
  | nil => simp [allocated, sumWriteOffAmount, pure, Except.pure]
  | cons w ws ih =>
    obtain ⟨hcust, hpos, hbill, hpay⟩ := h w List.mem_cons_self
    have hstep : facts.allocate r w = .ok { r with
        allocatedByBill := r.allocatedByBill.add w.billId w.writeOffAmount
        allocatedByPayment := r.allocatedByPayment.add w.paymentId w.writeOffAmount } := by
      unfold allocate
      rw [if_neg]
      simp only [ne_eq, hcust, not_true, false_or, not_or, Option.isNone_iff_eq_none]
      exact ⟨by omega, Option.ne_none_iff_isSome.mpr hbill, Option.ne_none_iff_isSome.mpr hpay⟩
    rw [List.foldlM_cons, hstep]
    show ws.foldlM facts.allocate _ = _
    rw [ih _ fun w' hw' => h w' (List.mem_cons_of_mem _ hw')]
    simp only [allocated_cons (·.billId) w ws, allocated_cons (·.paymentId) w ws]

/-- A deduction names a bill that can have been paid by it. -/
def DeductionOk (facts : SettlementFacts) (l : DepositLedger) : Prop :=
  l.transactionType = .deduct → ∃ id bill, l.billId = some id ∧ facts.billById id = some bill ∧
    bill.id = id ∧ facts.deductionOk l bill = true

/-- The loop over the deposit rows. -/
theorem deposit_all {ls : List DepositLedger} (r : Reconciliation)
    (hrun : RunsFrom signedDepositLedgerAmount (·.balanceAfter) r.depositBalance ls)
    (h : ∀ l ∈ ls, facts.DeductionOk l) :
    ls.foldlM facts.deposit r = .ok { r with
      deductedByBill := fun id => r.deductedByBill id + deductedFor ls id
      depositBalance := r.depositBalance + total signedDepositLedgerAmount ls } := by
  induction ls generalizing r with
  | nil => simp [deductedFor, pure, Except.pure]
  | cons l ls ih =>
    obtain ⟨hafter, hnonneg, hrest⟩ := hrun
    have hbal : ¬ (r.depositBalance + signedAmount l < 0 ∨
        l.balanceAfter ≠ r.depositBalance + signedAmount l) := by
      rw [signedAmount_eq, ← hafter]
      simpa using hnonneg
    have hls := fun l' hl' => h l' (List.mem_cons_of_mem _ hl')
    rw [List.foldlM_cons]
    by_cases htype : l.transactionType = .deduct
    · obtain ⟨id, bill, hid, hbill, hbid, hok⟩ := h l List.mem_cons_self htype
      have hstep : facts.deposit r l = .ok { r with
          depositBalance := l.balanceAfter
          deductedByBill := r.deductedByBill.add id l.amount } := by
        unfold deposit
        simp only [hbal, if_false, htype, ne_eq, not_true, hid, Option.bind_some, hbill, hok,
          if_true]
        rw [signedAmount_eq, ← hafter, hbid]
      rw [hstep]
      show ls.foldlM facts.deposit _ = _
      rw [ih _ hrest hls]
      simp only [deductedFor_cons l ls _ _ htype hid, total_cons, hafter, add_assoc]
    · have hstep : facts.deposit r l = .ok { r with depositBalance := l.balanceAfter } := by
        unfold deposit
        simp only [hbal, if_false, htype, ne_eq, not_false_iff, if_true]
        rw [signedAmount_eq, ← hafter]
      rw [hstep]
      show ls.foldlM facts.deposit _ = _
      rw [ih _ hrest hls]
      simp only [deductedFor_skip l ls _ htype, total_cons, hafter, add_assoc]

/-- The facts of an order agree with each other. -/
structure Agree (facts : SettlementFacts) : Prop where
  bills : ∀ b ∈ facts.bills, facts.billOk b = true
  payments : ∀ p ∈ facts.payments, facts.paymentOk p = true
  deposits : ∀ l ∈ facts.deposits, facts.depositOk l = true ∧ facts.DeductionOk l
  allocations : ∀ w ∈ facts.allocations, w.customerId = facts.customerId ∧ 0 < w.writeOffAmount ∧
    (facts.billById w.billId).isSome ∧ (facts.paymentById w.paymentId).isSome
  running : RunsFrom signedDepositLedgerAmount (·.balanceAfter) 0 facts.deposits
  paid : ∀ b ∈ facts.bills,
    allocated (·.billId) facts.allocations b.id + deductedFor facts.deposits b.id = b.paidAmount
  within : ∀ p ∈ facts.payments,
    allocated (·.paymentId) facts.allocations p.id ≤ p.paymentAmount

/-- The resolver accepts facts that agree, and derives for each bill what has been paid on it. -/
theorem Agree.accepted (h : facts.Agree) :
    ∃ r, facts.reconcile = .ok r ∧
      facts.assertFinancialCoherence = .ok (facts.bills.map (·.paidAmount)).sum ∧
      ∀ b ∈ facts.bills, r.allocatedByBill b.id + r.deductedByBill b.id = b.paidAmount := by
  have hfacts : (facts.bills.all facts.billOk && facts.payments.all facts.paymentOk &&
      facts.deposits.all facts.depositOk) = true := by
    simp only [Bool.and_eq_true, List.all_eq_true]
    exact ⟨⟨h.bills, h.payments⟩, fun l hl => (h.deposits l hl).1⟩
  have hreconcile : facts.reconcile = .ok
      { allocatedByBill := allocated (·.billId) facts.allocations
        allocatedByPayment := allocated (·.paymentId) facts.allocations
        deductedByBill := deductedFor facts.deposits
        depositBalance := total signedDepositLedgerAmount facts.deposits } := by
    unfold reconcile
    rw [if_pos hfacts, allocate_all _ h.allocations]
    show facts.deposits.foldlM facts.deposit _ = _
    rw [deposit_all _ h.running fun l hl => (h.deposits l hl).2]
    simp [Reconciliation.empty]
  refine ⟨_, hreconcile, ?_, h.paid⟩
  unfold assertFinancialCoherence
  rw [hreconcile]
  show (if _ then _ else _) = _
  rw [if_pos]
  · rfl
  · simp only [Bool.and_eq_true, List.all_eq_true, beq_iff_eq, decide_eq_true_eq]
    exact ⟨h.paid, h.within⟩

end SettlementFacts

/-! ## The facts of the finance service -/

/-- The deposit rows of the order occurred in the order in which they were committed. -/
def InOrder (db : Db) (orderId : Id) : Prop := (db.orderLedger orderId).Pairwise depositLE

theorem deposits_eq {db : Db} {order : SubscriptionOrder} (h : InOrder db order.id) :
    (settlementFacts db order).deposits = db.orderLedger order.id :=
  List.Pairwise.insertionSort_eq h

theorem mem_bills {db : Db} (hf : FactsOk db) {order : SubscriptionOrder} {b : ReceivableBill} :
    b ∈ (settlementFacts db order).bills ↔ OpenBill db order.id b.id b := by
  constructor
  · intro hb
    obtain ⟨hmem, hp⟩ := List.mem_filter.mp hb
    simp only [Bool.and_eq_true, bne_iff_ne, beq_iff_eq, Option.isNone_iff_eq_none] at hp
    exact ⟨find?_of_nodup hf.billIds hmem, hp.2, hp.1.2, hp.1.1⟩
  · intro hb
    refine List.mem_filter.mpr ⟨List.mem_of_find?_eq_some hb.found, ?_⟩
    simp [hb.order, hb.live, hb.open_]

theorem billById_of_open {db : Db} (hf : FactsOk db) {order : SubscriptionOrder} {id : Id}
    {b : ReceivableBill} (h : OpenBill db order.id id b) :
    (settlementFacts db order).billById id = some b ∧ b.id = id := by
  have hid : b.id = id := Db.bill?_id h.found
  have hmem : b ∈ (settlementFacts db order).bills := (mem_bills hf).mpr (hid ▸ h)
  have hnodup : ((settlementFacts db order).bills.map (·.id)).Nodup :=
    hf.billIds.sublist (List.filter_sublist.map _)
  have hfind := find?_of_nodup hnodup hmem
  rw [hid] at hfind
  exact ⟨hfind, hid⟩

theorem paymentById_of_confirmed {db : Db} (hf : FactsOk db) {order : SubscriptionOrder} {id : Id}
    {p : PaymentRecord} (h : ConfirmedPayment db order.id id p) :
    (settlementFacts db order).paymentById id = some p := by
  have hid : p.id = id := Db.payment?_id h.found
  have hmem : p ∈ (settlementFacts db order).payments := by
    refine List.mem_filter.mpr ⟨List.mem_of_find?_eq_some h.found, ?_⟩
    simp [h.order, h.confirmed, h.live]
  have hnodup : ((settlementFacts db order).payments.map (·.id)).Nodup :=
    hf.paymentIds.sublist (List.filter_sublist.map _)
  have hfind := find?_of_nodup hnodup hmem
  rw [hid] at hfind
  exact hfind

/-- The write-offs of a bill of the order are those the resolver has read. -/
theorem allocated_bill {db : Db} (hf : FactsOk db) {order : SubscriptionOrder} {b : ReceivableBill}
    (hb : OpenBill db order.id b.id b) :
    allocated (·.billId) (settlementFacts db order).allocations b.id =
      sumWriteOffAmount (db.billWriteOffs b.id) := by
  unfold allocated settlementFacts Db.billWriteOffs
  rw [List.filter_filter]
  congr 1
  refine List.filter_congr fun w hw => ?_
  cases hlive : w.deletedAt with
  | some t => simp
  | none =>
    by_cases hid : w.billId = b.id
    · obtain ⟨-, ⟨b', hb'⟩, -⟩ := hf.writeOffs w hw hlive
      have hsame : b' = b := by
        have := hb'.found
        rw [hid, hb.found] at this
        exact (Option.some.inj this).symm
      have horder : w.orderId = order.id := by rw [← hb'.order, hsame, hb.order]
      simp [hid, horder]
    · simp [hid]

/-- The write-offs of a payment of the order are those the resolver has read. -/
theorem allocated_payment {db : Db} (hf : FactsOk db) {order : SubscriptionOrder}
    {p : PaymentRecord} (hp : db.payment? p.id = some p) (horder : p.orderId = order.id) :
    allocated (·.paymentId) (settlementFacts db order).allocations p.id =
      sumWriteOffAmount (db.paymentWriteOffs p.id) := by
  unfold allocated settlementFacts Db.paymentWriteOffs
  rw [List.filter_filter]
  congr 1
  refine List.filter_congr fun w hw => ?_
  cases hlive : w.deletedAt with
  | some t => simp
  | none =>
    by_cases hid : w.paymentId = p.id
    · obtain ⟨-, -, p', hp'⟩ := hf.writeOffs w hw hlive
      have hsame : p' = p := by
        have := hp'.found
        rw [hid, hp] at this
        exact (Option.some.inj this).symm
      have horder : w.orderId = order.id := by rw [← hp'.order, hsame, horder]
      simp [hid, horder]
    · simp [hid]

/-- The deductions for a bill of the order are among the deposit rows of the order. -/
theorem deductedFor_bill {db : Db} (hf : FactsOk db) {order : SubscriptionOrder}
    {b : ReceivableBill} (hb : OpenBill db order.id b.id b) :
    deductedFor (db.orderLedger order.id) b.id = db.deducted b.id := by
  unfold deductedFor Db.orderLedger Db.deducted Db.billLedger
  rw [List.filter_filter, List.filter_filter]
  congr 2
  refine List.filter_congr fun l hl => ?_
  by_cases htype : l.transactionType = .deduct
  · cases hlive : l.deletedAt with
    | some t => simp
    | none =>
      obtain ⟨hconf, -, id, b', hid, hb', -⟩ := hf.deductions l hl hlive htype
      by_cases hsame : id = b.id
      · have hbill : b' = b := by
          have := hb'.found
          rw [hsame, hb.found] at this
          exact (Option.some.inj this).symm
        have horder : l.orderId = order.id := by rw [← hb'.order, hbill, hb.order]
        simp [htype, hid, hsame, horder, hconf]
      · simp [hid, hsame]
  · simp [beq_eq_false_iff_ne.mpr htype]

/-- The facts of an order agree when the finance invariants hold and the deposits are in order. -/
theorem settlementFacts_agree {db : Db} {order : SubscriptionOrder}
    (horder : db.order? order.id = some order) (hs : Scoped db) (hb : BillsOk db)
    (hp : PaymentsOk db) (hf : FactsOk db) (hl : LedgerOk db order.id) (hin : InOrder db order.id) :
    (settlementFacts db order).Agree := by
  have hscope : ∀ {customerId orderId : Id}, InScope db customerId orderId → orderId = order.id →
      customerId = order.customerId := fun h hid => (hid ▸ h).unique (InScope.of_order horder)
  have hdeposits := deposits_eq hin
  refine ⟨?_, ?_, ?_, ?_, ?_, ?_, ?_⟩
  · intro b hmem
    have hopen := (mem_bills hf).mp hmem
    obtain ⟨hrem, hpaid, hbal, -⟩ := hb b.id b hopen.found
    have hcust := hscope (hs.bills b.id b hopen.found) hopen.order
    simp only [SettlementFacts.billOk, settlementFacts, Bool.and_eq_true, beq_iff_eq,
      decide_eq_true_eq]
    exact ⟨⟨⟨⟨hcust, by omega⟩, hpaid⟩, hrem⟩, hbal⟩
  · intro p hmem
    obtain ⟨hmem, hc⟩ := List.mem_filter.mp hmem
    simp only [Bool.and_eq_true, beq_iff_eq] at hc
    have hcust := hscope (hs.payments p hmem) hc.1.2
    simp only [SettlementFacts.paymentOk, settlementFacts, Bool.and_eq_true, beq_iff_eq,
      decide_eq_true_eq]
    exact ⟨hcust, hf.payments p hmem⟩
  · intro l hmem
    rw [hdeposits] at hmem
    obtain ⟨hmem, hc⟩ := List.mem_filter.mp hmem
    simp only [Bool.and_eq_true, beq_iff_eq, Option.isNone_iff_eq_none] at hc
    obtain ⟨⟨hlive, hlorder⟩, hconf⟩ := hc
    have hcust := hscope (hs.ledger l hmem) hlorder
    constructor
    · simp only [SettlementFacts.depositOk, settlementFacts, Bool.and_eq_true, beq_iff_eq,
        decide_eq_true_eq]
      exact ⟨⟨hcust, hlorder⟩, hf.deposits l hmem hlive hconf⟩
    · intro htype
      obtain ⟨-, hpay, id, b, hid, hopen, hfee⟩ := hf.deductions l hmem hlive htype
      rw [hlorder] at hopen
      obtain ⟨hfind, hbid⟩ := billById_of_open hf hopen
      have hbcust := hscope (hs.bills id b hopen.found) hopen.order
      refine ⟨id, b, hid, hfind, hbid, ?_⟩
      simp only [SettlementFacts.deductionOk, settlementFacts, Bool.and_eq_true, beq_iff_eq,
        bne_iff_ne, Option.isNone_iff_eq_none]
      exact ⟨⟨⟨⟨hopen.order, hbcust⟩, hfee⟩, hopen.open_⟩, hpay⟩
  · intro w hmem
    obtain ⟨hmem, hc⟩ := List.mem_filter.mp hmem
    simp only [Bool.and_eq_true, beq_iff_eq, Option.isNone_iff_eq_none] at hc
    obtain ⟨hpos, ⟨b, hopen⟩, p, hconf⟩ := hf.writeOffs w hmem hc.1
    rw [hc.2] at hopen hconf
    exact ⟨hscope (hs.writeOffs w hmem).1 hc.2, hpos,
      Option.isSome_of_eq_some (billById_of_open hf hopen).1,
      Option.isSome_of_eq_some (paymentById_of_confirmed hf hconf)⟩
  · rw [hdeposits]
    exact hl
  · intro b hmem
    have hopen := (mem_bills hf).mp hmem
    rw [hdeposits, allocated_bill hf hopen, deductedFor_bill hf hopen]
    exact (hb b.id b hopen.found).booked.symm
  · intro p hmem
    obtain ⟨hmem, hc⟩ := List.mem_filter.mp hmem
    simp only [Bool.and_eq_true, beq_iff_eq] at hc
    have hfind : db.payment? p.id = some p := find?_of_nodup hf.paymentIds hmem
    rw [allocated_payment hf hfind hc.1.2]
    exact hp p.id p hfind

/-! ## Histories -/

/-- What a transaction books on the deposit of the order. -/
def booked (orderId : Id) (c : Commit sig LedgerCall) : List DepositLedger :=
  (c.writes.filterMap Write.ledger?).filter fun l =>
    l.deletedAt.isNone && l.orderId == orderId && l.transactionStatus == .confirmed

/-- The deposit rows a transaction books occur after those the order has already. A settlement books
its row at the time of payment the provider states, the other operations at the time of the clock;
rows of one time are ordered by their creation and their id. -/
def BooksLast (orderId : Id) (c : Commit sig LedgerCall) : Prop :=
  (∀ l ∈ c.before.orderLedger orderId, ∀ l' ∈ booked orderId c, depositLE l l') ∧
    (booked orderId c).Pairwise depositLE

instance (orderId : Id) (c : Commit sig LedgerCall) : Decidable (BooksLast orderId c) :=
  inferInstanceAs (Decidable (_ ∧ _))

/-- What an order's finance history starts from. -/
structure Books (db : Db) (order : SubscriptionOrder) : Prop where
  found : db.order? order.id = some order
  consistent : Consistent db
  facts : FactsOk db
  deposit : DepositOk db order.id
  inOrder : InOrder db order.id

theorem commit_books {c : Commit sig LedgerCall} {order : SubscriptionOrder}
    (hc : CommitOk LedgerCall.duty c) (hcur : ReadCurrent c) (hlast : BooksLast order.id c)
    (h : Books c.before order) : Books c.after order := by
  have hmoves := LedgerCall.duty_moves hc.1
  have hview : c.after = view c.writes c.before := hc.2
  obtain ⟨horder, ⟨hbills, hpays, hscope⟩, hfacts, hdep, hin⟩ := h
  have hoff : WriteOffReadCurrent c := fun _ _ x hx _ => by rw [hcur x hx]
  have hdepr : DepositReadCurrent order.id c := fun _ x hx _ => by rw [hcur x hx]
  refine ⟨?_, ⟨?_, commit_paymentsOk hc hoff hscope hpays, ?_⟩, ?_,
    commit_depositOk hc hdepr hscope hbills hdep, ?_⟩
  · rw [hview]
    unfold Db.order?
    rw [view_orders]
    exact horder
  · rw [hview]
    exact hmoves.billsOk hbills
  · rw [hview]
    exact hmoves.scoped hscope
  · rw [hview]
    exact hmoves.factsOk hbills hfacts
  · unfold InOrder
    rw [hview, view_orderLedger]
    exact List.pairwise_append.mpr ⟨hin, hlast.2, hlast.1⟩

/-- After every sequence of finance operations whose deposit rows occur in the order in which they are
booked, the settlement resolver accepts the order's facts, and derives for each bill what has been
paid on it. -/
theorem histories_coherent {db₀ : Db} {order : SubscriptionOrder} (h₀ : Books db₀ order)
    (calls : List (LedgerCall × List ((q : Ask) → Ans q)))
    (hlast : ∀ c ∈ (ledgerRun db₀ (serial calls)).history, BooksLast order.id c) :
    let facts := settlementFacts (ledgerRun db₀ (serial calls)).db order
    ∃ r, facts.reconcile = .ok r ∧
      facts.assertFinancialCoherence = .ok (facts.bills.map (·.paidAmount)).sum ∧
      ∀ b ∈ facts.bills, r.allocatedByBill b.id + r.deductedByBill b.id = b.paidAmount := by
  have hcur := serial_readCurrent ledgerBody db₀ calls
  have hbooks := runs_invariant (fun db => Books db order)
    (fun c => ReadCurrent c ∧ BooksLast order.id c) wp_ledgerBody
    (fun c hc hgood h => commit_books hc hgood.1 hgood.2 h) h₀ (serial calls)
    fun c hc => ⟨hcur c hc, hlast c hc⟩
  exact (settlementFacts_agree hbooks.found hbooks.consistent.scope hbooks.consistent.bills
    hbooks.consistent.payments hbooks.facts hbooks.deposit.running hbooks.inOrder).accepted

/-! An order with a deposit of 100 and, after a vehicle swap, a deposit difference of 50 that is paid
through the payment provider. -/

def swappedOrder : SubscriptionOrder := ⟨1, 1, .active, none, 1, none⟩

def depositBill (id : Id) (amount : Int) : ReceivableBill :=
  { rentBill id amount with billType := .deposit }

def depositPaymentOrder : PaymentOrder :=
  { id := 1, paymentOrderNo := "PO1", customerId := some 1, orderId := some 1,
    paymentRecordId := none, provider := .alipay, paymentChannel := .alipayH5,
    paymentStatus := .pending, amount := 50, paidAmount := 0, providerTradeNo := none,
    providerPrepayId := none, providerTransactionId := none, cashierUrl := none,
    cashierUrlExpiresAt := none, blockedBillIds := [], paidAt := none, closedAt := none,
    cancelledAt := none, createdAt := 0, updatedAt := 0, deletedAt := none,
    items := [⟨2, 50, none⟩], debitAttempt := none }

def twoDeposits : Db :=
  { emptyDb with
    orders := [swappedOrder]
    bills := [depositBill 1 100, depositBill 2 50]
    paymentOrders := [depositPaymentOrder] }

theorem twoDeposits_books : Books twoDeposits swappedOrder where
  found := rfl
  consistent := .of_check (by decide)
  facts :=
    { billIds := by decide
      paymentIds := by decide
      payments := fun p hp => absurd hp List.not_mem_nil
      writeOffs := fun w hw => absurd hw List.not_mem_nil
      deposits := fun l hl => absurd hl List.not_mem_nil
      deductions := fun l hl => absurd hl List.not_mem_nil }
  deposit := ⟨trivial, fun l hl => absurd hl List.not_mem_nil⟩
  inOrder := List.Pairwise.nil

/-- The difference is paid at the provider at the time `paidAt`; the deposit is collected at time 10,
and the provider's callback settles the difference after that. -/
def depositCalls (paidAt : Instant) : List (LedgerCall × List ((q : Ask) → Ans q)) :=
  [(.createPayment ⟨1, 1, 100, .cash, 10⟩ financeUser, List.replicate 10 (answers 10 1)),
    (.writeOffPayment 1 [⟨1, 100⟩] financeUser, List.replicate 20 (answers 10 1)),
    (.settlePaymentOrder ⟨1, 50, paidAt, none, false, none, none, none, none⟩,
      List.replicate 40 (answers 20 2))]

/-- A payment made at time 5 and settled later is booked before the deposit of time 10, with a balance
that includes it. -/
theorem late_settlement_incoherent :
    Books twoDeposits swappedOrder ∧
      (settlementFacts (ledgerRun twoDeposits (serial (depositCalls 5))).db
        swappedOrder).assertFinancialCoherence = .error .factInconsistent :=
  ⟨twoDeposits_books, by decide +kernel⟩

/-- The same history with a payment made at time 15. -/
theorem histories_coherent_settled :
    let facts := settlementFacts (ledgerRun twoDeposits (serial (depositCalls 15))).db swappedOrder
    ∃ r, facts.reconcile = .ok r ∧
      facts.assertFinancialCoherence = .ok (facts.bills.map (·.paidAmount)).sum ∧
      ∀ b ∈ facts.bills, r.allocatedByBill b.id + r.deductedByBill b.id = b.paidAmount :=
  histories_coherent twoDeposits_books (depositCalls 15) (by decide +kernel)

end SubscriptionSaas.Closure
