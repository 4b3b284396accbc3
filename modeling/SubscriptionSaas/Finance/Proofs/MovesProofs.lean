import SubscriptionSaas.Finance.Moves

/-!
# Moves keep the money consistent

Every sequence of moves keeps bills consistent and every fact within its order's scope. A deposit
ledger stays a running balance under the condition that the balances were computed from the ledger
the moves happen on.
-/

namespace SubscriptionSaas.Finance

open Transaction RunningBalance

/-! ## The totals -/

theorem add_availableBalance (d : DepositBalanceDetails) (l : DepositLedger) :
    (d.add l).availableBalance = d.availableBalance + signedDepositLedgerAmount l := by
  unfold DepositBalanceDetails.add
  cases l.transactionType <;> rfl

/-- The balance the service computes is the sum of the signed amounts. -/
theorem availableBalance_eq (rows : List DepositLedger) :
    (calculateDepositBalanceDetailsFromLedgers rows).availableBalance = balanceOf rows := by
  have key : ∀ (rows : List DepositLedger) (d : DepositBalanceDetails),
      (rows.foldl DepositBalanceDetails.add d).availableBalance =
        d.availableBalance + balanceOf rows := by
    intro rows
    induction rows with
    | nil => intro d; simp
    | cons l rows ih =>
      intro d
      rw [List.foldl_cons, ih, add_availableBalance, balanceOf, balanceOf, total_cons]
      omega
  have h := key rows ⟨0, 0, 0, 0, 0⟩
  rw [calculateDepositBalanceDetailsFromLedgers, h]
  show (0 : Int) + _ = _
  omega

/-! ## Bills -/

/-- The new columns of a bill after `amount` has been paid. -/
theorem BillOk.pay {db db' : Db} {b : ReceivableBill} {amount : Int} (at_ : Instant)
    (h : BillOk db b) (hpos : 0 < amount) (hle : amount ≤ b.remainingAmount)
    (hbooked : sumWriteOffAmount (db'.billWriteOffs b.id) + db'.deducted b.id =
      sumWriteOffAmount (db.billWriteOffs b.id) + db.deducted b.id + amount) :
    BillOk db' ((paidPatch b amount at_).apply b) := by
  obtain ⟨h1, h2, h3, h4⟩ := h
  refine ⟨?_, ?_, ?_, ?_⟩
  · show 0 ≤ b.remainingAmount - amount
    omega
  · show 0 ≤ b.paidAmount + amount
    omega
  · show b.paidAmount + amount + (b.remainingAmount - amount) = b.amount
    omega
  · show b.paidAmount + amount = _
    rw [show ((paidPatch b amount at_).apply b).id = b.id from rfl, hbooked, ← h4]

theorem BillOk.congr {db db' : Db} {b : ReceivableBill} (h : BillOk db b)
    (hw : db'.billWriteOffs b.id = db.billWriteOffs b.id)
    (hd : db'.deducted b.id = db.deducted b.id) : BillOk db' b :=
  ⟨h.remaining, h.paid, h.balanced, by rw [hw, hd]; exact h.booked⟩

/-- A statement that leaves bills, write-offs and deductions alone keeps the bills consistent. -/
theorem BillsOk.congr {db db' : Db} (h : BillsOk db) (hb : ∀ id, db'.bill? id = db.bill? id)
    (hw : ∀ id, db'.billWriteOffs id = db.billWriteOffs id)
    (hd : ∀ id, db'.deducted id = db.deducted id) : BillsOk db' :=
  fun id b hfind => (h id b ((hb id).symm.trans hfind)).congr (hw b.id) (hd b.id)

theorem deducted_insert (db : Db) (l : DepositLedger) (id : Id) :
    ((Write.insertLedger l).apply db).deducted id = db.deducted id +
      if l.billId = some id ∧ l.deletedAt = none ∧ l.transactionType = .deduct then l.amount
      else 0 := by
  by_cases h1 : l.billId = some id
  · by_cases h2 : l.deletedAt = none
    · by_cases h3 : l.transactionType = .deduct
      · simp [Db.deducted, Db.billLedger, Write.apply, h1, h2, h3]
      · simp [Db.deducted, Db.billLedger, Write.apply, h1, h2, h3]
    · have h2' : l.deletedAt.isNone = false := by cases h : l.deletedAt <;> simp_all
      simp [Db.deducted, Db.billLedger, Write.apply, h1, h2, h2']
  · simp [Db.deducted, Db.billLedger, Write.apply, h1]

theorem billWriteOffs_insert (db : Db) (w : PaymentWriteOff) (id : Id) (hlive : w.deletedAt = none) :
    sumWriteOffAmount (((Write.insertWriteOff w).apply db).billWriteOffs id) =
      sumWriteOffAmount (db.billWriteOffs id) + if w.billId = id then w.writeOffAmount else 0 := by
  by_cases h1 : w.billId = id
  · simp [Db.billWriteOffs, Write.apply, sumWriteOffAmount, h1, hlive]
  · simp [Db.billWriteOffs, Write.apply, h1]

/-- The bill found after a bill update. -/
theorem bill?_updateBill (db : Db) (id id' : Id) (p : BillPatch) :
    ((Write.updateBill id p).apply db).bill? id' =
      (db.bill? id').map fun b => if b.id == id then p.apply b else b :=
  find?_updateWhere (fun b => p.apply_id b) id id' db.bills

/-- A bill is paid: its columns move by `amount`, and so do the facts booked on it. -/
theorem BillsOk.paid {db db' : Db} {bill : ReceivableBill} {amount : Int} (at_ : Instant)
    (h : BillsOk db) (hbill : Payable db bill amount)
    (hb : ∀ id, db'.bill? id = (db.bill? id).map fun b =>
      if b.id == bill.id then (paidPatch bill amount at_).apply b else b)
    (hbooked : ∀ id, sumWriteOffAmount (db'.billWriteOffs id) + db'.deducted id =
      sumWriteOffAmount (db.billWriteOffs id) + db.deducted id +
        if bill.id = id then amount else 0) : BillsOk db' := by
  intro id b hfind
  rw [hb id] at hfind
  obtain ⟨b₀, hb₀, rfl⟩ := Option.map_eq_some_iff.mp hfind
  have hid := Db.bill?_id hb₀
  have hok := h id b₀ hb₀
  by_cases hc : b₀.id = bill.id
  · have heq : b₀ = bill := by
      have hcur := hbill.current
      rw [← hc, hid, hb₀] at hcur
      exact Option.some.inj hcur
    subst heq
    simp only [beq_self_eq_true, if_true]
    refine hok.pay at_ hbill.pos hbill.le ?_
    rw [hbooked b₀.id, if_pos rfl]
  · have hne : (b₀.id == bill.id) = false := by simpa using hc
    simp only [hne]
    obtain ⟨h1, h2, h3, h4⟩ := hok
    have hk := hbooked b₀.id
    rw [if_neg fun hc' => hc hc'.symm] at hk
    exact ⟨h1, h2, h3, by simp only [Bool.false_eq_true, if_false]; omega⟩

/-- Every sequence of moves keeps the bills consistent. -/
theorem Moves.billsOk {seen : Seen} {before : Db} {ws : List Write} (h : Moves seen before ws)
    (h₀ : BillsOk before) : BillsOk (view ws before) := by
  induction h with
  | nil => exact h₀
  | addPayment _ _ _ _ _ ih =>
    rw [view_snoc]
    exact ih.congr (fun _ => rfl) (fun _ => rfl) (fun _ => rfl)
  | @pay ws ref bill amount at_ _ hbill _ ih =>
    rw [view_append]
    refine ih.paid at_ hbill (fun id => bill?_updateBill (view ws before) bill.id id _) fun id => ?_
    have hw := billWriteOffs_insert
      ((Write.updateBill bill.id (paidPatch bill amount at_)).apply (view ws before))
      (writeOffRow ref bill amount at_) id rfl
    refine Eq.trans (congrArg (· + (view ws before).deducted id) hw) ?_
    show sumWriteOffAmount ((view ws before).billWriteOffs id) + (if bill.id = id then amount else 0) +
      (view ws before).deducted id = _
    omega
  | @collect ws ref bill snap id occurredAt createdAt _ _ _ _ _ _ _ _ _ ih =>
    rw [view_snoc]
    refine ih.congr (fun _ => rfl) (fun _ => rfl) fun id' => ?_
    rw [deducted_insert]
    simp [collectRow]
  | @deduct ws order bill amount snap id now createdAt _ hbill _ _ _ _ ih =>
    rw [view_append]
    refine ih.paid now hbill (fun id' => ?_) fun id' => ?_
    · exact bill?_updateBill ((Write.insertLedger _).apply (view ws before)) bill.id id' _
    · have hd := deducted_insert (view ws before) (spendRow order (some bill.id) .deduct amount
        (balanceOf ((view ws snap).confirmedLedger order.customerId order.id) - amount) id now
        createdAt) id'
      simp only [spendRow, Option.some.injEq, and_true] at hd
      show sumWriteOffAmount ((view ws before).billWriteOffs id') +
        ((Write.insertLedger _).apply (view ws before)).deducted id' = _
      simp only [spendRow] at hd ⊢
      omega
  | @refund ws order amount snap id now createdAt _ _ _ _ _ ih =>
    rw [view_snoc]
    refine ih.congr (fun _ => rfl) (fun _ => rfl) fun id' => ?_
    rw [deducted_insert]
    simp [spendRow]
  | @other ws w _ hw ih =>
    rw [view_snoc]
    cases w with
    | insertPayment p => exact hw.elim
    | insertWriteOff w => exact hw.elim
    | insertLedger l => exact hw.elim
    | updateBill id p => exact hw.elim
    | insertPaymentOrder o => exact hw.elim
    | _ => exact ih.congr (fun _ => rfl) (fun _ => rfl) (fun _ => rfl)

/-! ## Scopes -/

theorem InScope.unique {db : Db} {c c' orderId : Id} (h : InScope db c orderId)
    (h' : InScope db c' orderId) : c = c' := by
  obtain ⟨o, ho, rfl⟩ := h
  obtain ⟨o', ho', rfl⟩ := h'
  rw [ho] at ho'
  rw [Option.some.inj ho']

theorem InScope.view {db : Db} {c orderId : Id} (ws : List Write) :
    InScope (view ws db) c orderId ↔ InScope db c orderId := by
  unfold InScope Db.order?
  rw [view_orders]

theorem InScope.of_order {db : Db} {order : SubscriptionOrder} (h : db.order? order.id = some order) :
    InScope db order.customerId order.id :=
  ⟨order, h, rfl⟩

theorem mem_of_payment? {db : Db} {id : Id} {p : PaymentRecord} (h : db.payment? id = some p) :
    p ∈ db.payments :=
  List.mem_of_find?_eq_some h

/-- The payment of a paid bill puts the bill's payment facts into scope. -/
theorem PaysFor.inScope {db : Db} {ref : PaymentRef} {bill : ReceivableBill}
    (h : PaysFor db ref bill) (hs : Scoped db) : InScope db ref.customerId ref.orderId := by
  obtain ⟨p, hp, hc, ho, -, -⟩ := h.exists_
  exact hc ▸ ho ▸ hs.payments p (mem_of_payment? hp)

theorem Scoped.insertLedger {db : Db} {l : DepositLedger} (h : Scoped db)
    (hl : InScope db l.customerId l.orderId) : Scoped ((Write.insertLedger l).apply db) where
  bills := h.bills
  payments := h.payments
  paymentOrders := h.paymentOrders
  writeOffs := h.writeOffs
  ledger := by
    intro x hx
    rcases List.mem_append.mp hx with hold | hnew
    · exact h.ledger x hold
    · rw [List.mem_singleton.mp hnew]; exact hl

theorem Scoped.updateBill {db : Db} (h : Scoped db) (id : Id) (p : BillPatch) :
    Scoped ((Write.updateBill id p).apply db) where
  bills := by
    intro id' b hb
    rw [bill?_updateBill] at hb
    obtain ⟨b₀, hb₀, rfl⟩ := Option.map_eq_some_iff.mp hb
    have hold := h.bills id' b₀ hb₀
    by_cases hc : (b₀.id == id) = true
    · simp only [hc, if_true]; exact hold
    · simp only [hc]; exact hold
  payments := h.payments
  paymentOrders := h.paymentOrders
  writeOffs := h.writeOffs
  ledger := h.ledger

theorem Scoped.insertWriteOff {db : Db} {w : PaymentWriteOff} (h : Scoped db)
    (hw : InScope db w.customerId w.orderId) (hp : (db.payment? w.paymentId).isSome) :
    Scoped ((Write.insertWriteOff w).apply db) where
  bills := h.bills
  payments := h.payments
  paymentOrders := h.paymentOrders
  writeOffs := by
    intro x hx
    rcases List.mem_append.mp hx with hold | hnew
    · exact h.writeOffs x hold
    · rw [List.mem_singleton.mp hnew]; exact ⟨hw, hp⟩
  ledger := h.ledger

theorem Scoped.insertPayment {db : Db} {p : PaymentRecord} (h : Scoped db)
    (hp : InScope db p.customerId p.orderId) : Scoped ((Write.insertPayment p).apply db) where
  bills := h.bills
  payments := by
    intro x hx
    rcases List.mem_append.mp hx with hold | hnew
    · exact h.payments x hold
    · rw [List.mem_singleton.mp hnew]; exact hp
  paymentOrders := h.paymentOrders
  writeOffs := by
    intro w hw
    obtain ⟨hscope, hsome⟩ := h.writeOffs w hw
    refine ⟨hscope, ?_⟩
    obtain ⟨q, hq⟩ := Option.isSome_iff_exists.mp hsome
    exact Option.isSome_iff_exists.mpr ⟨q, (Frame.apply (.insertPayment p) db).payment? hq⟩
  ledger := h.ledger

theorem PaymentOrderPatch.apply_scope (now : Instant) (o : PaymentOrder) (p : PaymentOrderPatch) :
    (p.apply now o).customerId = o.customerId ∧ (p.apply now o).orderId = o.orderId := by
  cases p <;> exact ⟨rfl, rfl⟩

theorem Scoped.neutral {db : Db} {w : Write} (h : Scoped db) (hw : w.Neutral) :
    Scoped (w.apply db) := by
  cases w with
  | insertPayment p => exact hw.elim
  | insertWriteOff x => exact hw.elim
  | insertLedger l => exact hw.elim
  | updateBill id p => exact hw.elim
  | insertPaymentOrder o => exact hw.elim
  | updatePaymentOrder id now p =>
    refine ⟨h.bills, h.payments, ?_, h.writeOffs, h.ledger⟩
    intro o ho c r hc hr
    obtain ⟨o₀, ho₀, rfl⟩ := List.mem_map.mp ho
    obtain ⟨h1, h2⟩ := p.apply_scope now o₀
    by_cases hid : (o₀.id == id) = true
    · simp only [hid, if_true] at hc hr
      exact h.paymentOrders o₀ ho₀ c r (h1 ▸ hc) (h2 ▸ hr)
    · simp only [hid] at hc hr
      exact h.paymentOrders o₀ ho₀ c r hc hr
  | insertCallbackLog l => exact ⟨h.bills, h.payments, h.paymentOrders, h.writeOffs, h.ledger⟩
  | updateCallbackLog id p => exact ⟨h.bills, h.payments, h.paymentOrders, h.writeOffs, h.ledger⟩
  | insertDebitAttempt a => exact ⟨h.bills, h.payments, h.paymentOrders, h.writeOffs, h.ledger⟩
  | updateDebitAttempt id p => exact ⟨h.bills, h.payments, h.paymentOrders, h.writeOffs, h.ledger⟩
  | insertSettlement s => exact ⟨h.bills, h.payments, h.paymentOrders, h.writeOffs, h.ledger⟩
  | setClosure f => exact ⟨h.bills, h.payments, h.paymentOrders, h.writeOffs, h.ledger⟩
  | submitDebit s => exact ⟨h.bills, h.payments, h.paymentOrders, h.writeOffs, h.ledger⟩

theorem PaymentScope.inScope {db : Db} {p : PaymentRecord} (h : PaymentScope db p)
    (hs : Scoped db) : InScope db p.customerId p.orderId := by
  rcases h with h | ⟨o, ho, hc, hr⟩
  · exact h
  · exact hs.paymentOrders o ho _ _ hc hr

/-- Every sequence of moves keeps every fact within its order's scope. -/
theorem Moves.scoped {seen : Seen} {before : Db} {ws : List Write} (h : Moves seen before ws)
    (h₀ : Scoped before) : Scoped (Finance.view ws before) := by
  induction h with
  | nil => exact h₀
  | @addPayment ws p _ _ _ _ hscope ih =>
    rw [view_snoc]
    exact ih.insertPayment ((InScope.view ws).mpr (hscope.inScope h₀))
  | @pay ws ref bill amount at_ _ _ href ih =>
    rw [view_append]
    have hscope := href.inScope ih
    obtain ⟨p, hp, -⟩ := href.exists_
    exact (ih.updateBill bill.id (paidPatch bill amount at_)).insertWriteOff hscope
      (Option.isSome_iff_exists.mpr ⟨p, hp⟩)
  | collect _ _ _ _ _ _ href _ _ ih =>
    rw [view_snoc]
    exact ih.insertLedger (href.inScope ih)
  | @deduct ws order bill amount snap id now createdAt _ _ _ horder _ _ ih =>
    rw [view_append]
    have hscope := (InScope.view ws).mpr (InScope.of_order horder)
    exact (ih.insertLedger (l := spendRow order (some bill.id) .deduct amount _ id now createdAt)
      hscope).updateBill bill.id (paidPatch bill amount now)
  | @refund ws order amount snap id now createdAt _ _ horder _ _ ih =>
    rw [view_snoc]
    exact ih.insertLedger ((InScope.view ws).mpr (InScope.of_order horder))
  | other _ hw ih =>
    rw [view_snoc]
    exact ih.neutral hw

/-! ## Deposit ledgers -/

theorem confirmedLedger_eq (db : Db) (customerId orderId : Id) :
    db.confirmedLedger customerId orderId =
      (db.orderLedger orderId).filter fun l => l.customerId == customerId := by
  unfold Db.confirmedLedger Db.orderLedger
  rw [List.filter_filter]
  congr 1
  funext l
  cases l.customerId == customerId <;> simp

/-- Within scope, the customer's rows of an order are the order's rows. -/
theorem confirmedLedger_scoped {db : Db} (hs : Scoped db) {customerId orderId : Id}
    (hscope : InScope db customerId orderId) :
    db.confirmedLedger customerId orderId = db.orderLedger orderId := by
  rw [confirmedLedger_eq, List.filter_eq_self]
  intro l hl
  obtain ⟨hmem, hp⟩ := List.mem_filter.mp hl
  have horder : l.orderId = orderId := by
    simp only [Bool.and_eq_true, beq_iff_eq] at hp
    exact hp.1.2
  have hrow := hs.ledger l hmem
  rw [horder] at hrow
  simpa using hrow.unique hscope

theorem view_orderLedger (ws : List Write) (db : Db) (orderId : Id) :
    (view ws db).orderLedger orderId = db.orderLedger orderId ++
      (ws.filterMap Write.ledger?).filter fun l => l.deletedAt.isNone && l.orderId == orderId &&
        l.transactionStatus == .confirmed := by
  simp [Db.orderLedger, view_ledger]

/-- The balance computed from a snapshot with the order's current rows is the current balance. -/
theorem balanceOf_snapshot {before snap : Db} {ws : List Write} {customerId orderId : Id}
    (hs : Scoped (view ws before)) (hscope : InScope before customerId orderId)
    (hcur : snap.orderLedger orderId = before.orderLedger orderId) :
    balanceOf ((view ws snap).confirmedLedger customerId orderId) =
      balanceOf ((view ws before).orderLedger orderId) := by
  have hrows : (view ws snap).orderLedger orderId = (view ws before).orderLedger orderId := by
    rw [view_orderLedger, view_orderLedger, hcur]
  rw [confirmedLedger_eq, hrows, ← confirmedLedger_eq,
    confirmedLedger_scoped hs ((InScope.view ws).mpr hscope)]

theorem orderLedger_insert (db : Db) (l : DepositLedger) (orderId : Id) (hlive : l.deletedAt = none)
    (hconf : l.transactionStatus = .confirmed) :
    ((Write.insertLedger l).apply db).orderLedger orderId =
      db.orderLedger orderId ++ if l.orderId = orderId then [l] else [] := by
  by_cases h : l.orderId = orderId
  · simp [Db.orderLedger, Write.apply, h, hlive, hconf]
  · simp [Db.orderLedger, Write.apply, h]

/-- One more row keeps the ledger of its order a running balance if it states the new balance. -/
theorem LedgerOk.insert {db : Db} {l : DepositLedger} {orderId : Id} (h : LedgerOk db orderId)
    (hlive : l.deletedAt = none) (hconf : l.transactionStatus = .confirmed)
    (hbal : l.orderId = orderId →
      l.balanceAfter = balanceOf (db.orderLedger orderId) + signedDepositLedgerAmount l ∧
        0 ≤ l.balanceAfter) :
    LedgerOk ((Write.insertLedger l).apply db) orderId := by
  unfold LedgerOk
  rw [orderLedger_insert db l orderId hlive hconf]
  by_cases hid : l.orderId = orderId
  · rw [if_pos hid]
    obtain ⟨h1, h2⟩ := hbal hid
    exact runsFrom_snoc h (by simp only [zero_add]; exact h1) h2
  · rw [if_neg hid, List.append_nil]
    exact h

/-- A running balance stays one when each balance is computed from the current rows. -/
theorem Moves.ledgerOk {seen : Seen} {before : Db} {ws : List Write} (h : Moves seen before ws)
    (hs : Scoped before) (hb : BillsOk before) {orderId : Id}
    (hcur : ∀ snap, (.depositBalance, snap) ∈ seen →
      snap.orderLedger orderId = before.orderLedger orderId)
    (h₀ : LedgerOk before orderId) : LedgerOk (Finance.view ws before) orderId := by
  induction h with
  | nil => exact h₀
  | addPayment _ _ _ _ _ ih =>
    rw [view_snoc]
    exact ih
  | pay _ _ _ ih =>
    rw [view_append]
    exact ih
  | @collect ws ref bill snap id occurredAt createdAt hws _ _ _ _ _ href hpos hsnap ih =>
    rw [view_snoc]
    refine ih.insert rfl rfl fun hid => ?_
    have hid' : ref.orderId = orderId := hid
    have hsw := hws.scoped hs
    have hscope := (InScope.view ws).mp (href.inScope hsw)
    rw [hid'] at hscope
    have hbal := balanceOf_snapshot hsw hscope (hcur snap hsnap)
    have hnonneg := RunsFrom.total_nonneg (le_refl (0 : Int)) ih
    simp only [zero_add] at hnonneg
    rw [← hid'] at hbal
    constructor
    · show balanceOf _ + bill.paidAmount = balanceOf _ + bill.paidAmount
      rw [hbal, hid']
    · show 0 ≤ balanceOf _ + bill.paidAmount
      rw [hbal, hid']
      exact add_nonneg hnonneg (hpos hb).le
  | @deduct ws order bill amount snap id now createdAt hws hbill _ horder hle hsnap ih =>
    rw [view_append]
    show LedgerOk ((Write.insertLedger _).apply (Finance.view ws before)) orderId
    refine ih.insert rfl rfl fun hid => ?_
    have hid' : order.id = orderId := hid
    have hscope := InScope.of_order horder
    rw [hid'] at hscope
    have hbal := balanceOf_snapshot (hws.scoped hs) hscope (hcur snap hsnap)
    rw [← hid'] at hbal
    constructor
    · show balanceOf _ - amount = balanceOf _ + -amount
      rw [hbal, hid']
      rfl
    · show 0 ≤ balanceOf _ - amount
      omega
  | @refund ws order amount snap id now createdAt hws _ horder hle hsnap ih =>
    rw [view_snoc]
    refine ih.insert rfl rfl fun hid => ?_
    have hid' : order.id = orderId := hid
    have hscope := InScope.of_order horder
    rw [hid'] at hscope
    have hbal := balanceOf_snapshot (hws.scoped hs) hscope (hcur snap hsnap)
    rw [← hid'] at hbal
    constructor
    · show balanceOf _ - amount = balanceOf _ + -amount
      rw [hbal, hid']
      rfl
    · show 0 ≤ balanceOf _ - amount
      omega
  | @other ws w _ hw ih =>
    rw [view_snoc]
    cases w with
    | insertLedger l => exact hw.elim
    | _ => exact ih

end SubscriptionSaas.Finance
