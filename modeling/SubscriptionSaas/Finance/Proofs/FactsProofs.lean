import SubscriptionSaas.Finance.Proofs.MovesProofs

/-!
# What is booked on what

Every write-off has a positive amount, an open bill and a confirmed payment of its order; every
confirmed deposit row has a positive amount, and a deduction has an open damage fee bill of its order.
Moves keep this.
-/

namespace SubscriptionSaas.Finance

open Transaction

/-- The live bill of the order that has not been cancelled. -/
structure OpenBill (db : Db) (orderId billId : Id) (b : ReceivableBill) : Prop where
  found : db.bill? billId = some b
  order : b.orderId = orderId
  live : b.deletedAt = none
  open_ : b.billStatus ≠ .cancelled

/-- The confirmed payment of the order. -/
structure ConfirmedPayment (db : Db) (orderId paymentId : Id) (p : PaymentRecord) : Prop where
  found : db.payment? paymentId = some p
  order : p.orderId = orderId
  confirmed : p.paymentStatus = .confirmed
  live : p.deletedAt = none

/-- The facts booked on bills and payments fit them. -/
structure FactsOk (db : Db) : Prop where
  billIds : (db.bills.map (·.id)).Nodup
  paymentIds : (db.payments.map (·.id)).Nodup
  payments : ∀ p ∈ db.payments, 0 < p.paymentAmount
  writeOffs : ∀ w ∈ db.writeOffs, w.deletedAt = none → 0 < w.writeOffAmount ∧
    (∃ b, OpenBill db w.orderId w.billId b) ∧ ∃ p, ConfirmedPayment db w.orderId w.paymentId p
  deposits : ∀ l ∈ db.ledger, l.deletedAt = none → l.transactionStatus = .confirmed → 0 < l.amount
  deductions : ∀ l ∈ db.ledger, l.deletedAt = none → l.transactionType = .deduct →
    l.transactionStatus = .confirmed ∧ l.paymentId = none ∧
      ∃ id b, l.billId = some id ∧ OpenBill db l.orderId id b ∧ b.billType = .damageFee

/-! ## One write -/

theorem paidPatch_status (bill : ReceivableBill) (amount : Int) (at_ : Instant) :
    (paidPatch bill amount at_).billStatus ≠ .cancelled := by
  unfold paidPatch
  by_cases hzero : bill.remainingAmount - amount = 0
  · simp [hzero]
  · simp [hzero]

/-- An open bill stays open when bills are paid. -/
theorem OpenBill.paid {db : Db} {orderId billId : Id} {b : ReceivableBill}
    (h : OpenBill db orderId billId b) (bill : ReceivableBill) (amount : Int) (at_ : Instant) :
    ∃ b', OpenBill ((Write.updateBill bill.id (paidPatch bill amount at_)).apply db) orderId billId b' ∧
      b'.billType = b.billType := by
  have hfind := bill?_updateBill db bill.id billId (paidPatch bill amount at_)
  rw [h.found, Option.map_some] at hfind
  by_cases hid : b.id == bill.id
  · rw [if_pos hid] at hfind
    exact ⟨_, ⟨hfind, h.order, h.live, paidPatch_status bill amount at_⟩, rfl⟩
  · rw [if_neg hid] at hfind
    exact ⟨b, ⟨hfind, h.order, h.live, h.open_⟩, rfl⟩

theorem FactsOk.updateBill {db : Db} (h : FactsOk db) (bill : ReceivableBill) (amount : Int)
    (at_ : Instant) : FactsOk ((Write.updateBill bill.id (paidPatch bill amount at_)).apply db) where
  billIds := by
    have hids : ((Write.updateBill bill.id (paidPatch bill amount at_)).apply db).bills.map (·.id) =
        db.bills.map (·.id) := by
      rw [apply_bills, List.map_map]
      exact List.map_congr_left fun b _ => Write.patchBill_id b _
    rw [hids]
    exact h.billIds
  paymentIds := h.paymentIds
  payments := h.payments
  writeOffs w hw hlive := by
    obtain ⟨hpos, ⟨b, hb⟩, p, hp⟩ := h.writeOffs w hw hlive
    obtain ⟨b', hb', -⟩ := hb.paid bill amount at_
    exact ⟨hpos, ⟨b', hb'⟩, p, ⟨hp.found, hp.order, hp.confirmed, hp.live⟩⟩
  deposits := h.deposits
  deductions l hl hlive htype := by
    obtain ⟨hconf, hpay, id, b, hid, hb, hfee⟩ := h.deductions l hl hlive htype
    obtain ⟨b', hb', htype'⟩ := hb.paid bill amount at_
    exact ⟨hconf, hpay, id, b', hid, hb', htype'.trans hfee⟩

theorem FactsOk.insertWriteOff {db : Db} (h : FactsOk db) {w : PaymentWriteOff}
    (hpos : 0 < w.writeOffAmount) (hb : ∃ b, OpenBill db w.orderId w.billId b)
    (hp : ∃ p, ConfirmedPayment db w.orderId w.paymentId p) :
    FactsOk ((Write.insertWriteOff w).apply db) where
  billIds := h.billIds
  paymentIds := h.paymentIds
  payments := h.payments
  writeOffs w' hw' hlive := by
    have hok : 0 < w'.writeOffAmount ∧ (∃ b, OpenBill db w'.orderId w'.billId b) ∧
        ∃ p, ConfirmedPayment db w'.orderId w'.paymentId p := by
      rcases List.mem_append.mp hw' with hold | hnew
      · exact h.writeOffs w' hold hlive
      · rw [List.mem_singleton.mp hnew]
        exact ⟨hpos, hb, hp⟩
    obtain ⟨h1, ⟨b, h2⟩, p, h3⟩ := hok
    exact ⟨h1, ⟨b, ⟨h2.found, h2.order, h2.live, h2.open_⟩⟩,
      p, ⟨h3.found, h3.order, h3.confirmed, h3.live⟩⟩
  deposits := h.deposits
  deductions l hl hlive htype := by
    obtain ⟨hconf, hpay, id, b, hid, hb, hfee⟩ := h.deductions l hl hlive htype
    exact ⟨hconf, hpay, id, b, hid, ⟨hb.found, hb.order, hb.live, hb.open_⟩, hfee⟩

theorem FactsOk.insertLedger {db : Db} (h : FactsOk db) {l : DepositLedger} (hpos : 0 < l.amount)
    (hded : l.transactionType = .deduct → l.transactionStatus = .confirmed ∧ l.paymentId = none ∧
      ∃ id b, l.billId = some id ∧ OpenBill db l.orderId id b ∧ b.billType = .damageFee) :
    FactsOk ((Write.insertLedger l).apply db) where
  billIds := h.billIds
  paymentIds := h.paymentIds
  payments := h.payments
  writeOffs w hw hlive := by
    obtain ⟨h1, ⟨b, h2⟩, p, h3⟩ := h.writeOffs w hw hlive
    exact ⟨h1, ⟨b, ⟨h2.found, h2.order, h2.live, h2.open_⟩⟩,
      p, ⟨h3.found, h3.order, h3.confirmed, h3.live⟩⟩
  deposits l' hl' hlive hconf := by
    rcases List.mem_append.mp hl' with hold | hnew
    · exact h.deposits l' hold hlive hconf
    · rw [List.mem_singleton.mp hnew]
      exact hpos
  deductions l' hl' hlive htype := by
    have hok : l'.transactionStatus = .confirmed ∧ l'.paymentId = none ∧
        ∃ id b, l'.billId = some id ∧ OpenBill db l'.orderId id b ∧ b.billType = .damageFee := by
      rcases List.mem_append.mp hl' with hold | hnew
      · exact h.deductions l' hold hlive htype
      · rw [List.mem_singleton.mp hnew] at htype ⊢
        exact hded htype
    obtain ⟨hconf, hpay, id, b, hid, hb, hfee⟩ := hok
    exact ⟨hconf, hpay, id, b, hid, ⟨hb.found, hb.order, hb.live, hb.open_⟩, hfee⟩

theorem FactsOk.insertPayment {db : Db} (h : FactsOk db) {p : PaymentRecord}
    (hnew : db.payment? p.id = none) (hpos : 0 < p.paymentAmount) :
    FactsOk ((Write.insertPayment p).apply db) where
  billIds := h.billIds
  paymentIds := by
    show ((db.payments ++ [p]).map (·.id)).Nodup
    rw [List.map_append]
    refine List.nodup_append.mpr ⟨h.paymentIds, List.nodup_singleton _, ?_⟩
    intro id hid id' hid' heq
    obtain ⟨p', hp', rfl⟩ := List.mem_map.mp hid
    rw [List.map_singleton, List.mem_singleton] at hid'
    have := List.find?_eq_none.mp hnew p' hp'
    rw [heq, hid'] at this
    simp at this
  payments p' hp' := by
    rcases List.mem_append.mp hp' with hold | hmem
    · exact h.payments p' hold
    · rw [List.mem_singleton.mp hmem]
      exact hpos
  writeOffs w hw hlive := by
    obtain ⟨h1, ⟨b, h2⟩, q, h3⟩ := h.writeOffs w hw hlive
    refine ⟨h1, ⟨b, ⟨h2.found, h2.order, h2.live, h2.open_⟩⟩,
      q, ⟨?_, h3.order, h3.confirmed, h3.live⟩⟩
    show (db.payments ++ [p]).find? (·.id == w.paymentId) = some q
    rw [List.find?_append, show db.payments.find? _ = some q from h3.found, Option.some_or]
  deposits := h.deposits
  deductions l hl hlive htype := by
    obtain ⟨hconf, hpay, id, b, hid, hb, hfee⟩ := h.deductions l hl hlive htype
    exact ⟨hconf, hpay, id, b, hid, ⟨hb.found, hb.order, hb.live, hb.open_⟩, hfee⟩

/-- Only the tables of the facts matter. -/
theorem FactsOk.congr {db db' : Db} (h : FactsOk db) (hb : db'.bills = db.bills)
    (hp : db'.payments = db.payments) (hw : db'.writeOffs = db.writeOffs)
    (hl : db'.ledger = db.ledger) : FactsOk db' := by
  have hbill : ∀ id, db'.bill? id = db.bill? id := fun id => by unfold Db.bill?; rw [hb]
  have hpayment : ∀ id, db'.payment? id = db.payment? id := fun id => by
    unfold Db.payment?; rw [hp]
  refine ⟨hb ▸ h.billIds, hp ▸ h.paymentIds, hp ▸ h.payments, ?_, hl ▸ h.deposits, ?_⟩
  · intro w hmem hlive
    obtain ⟨h1, ⟨b, h2⟩, p, h3⟩ := h.writeOffs w (hw ▸ hmem) hlive
    exact ⟨h1, ⟨b, ⟨(hbill _).trans h2.found, h2.order, h2.live, h2.open_⟩⟩,
      p, ⟨(hpayment _).trans h3.found, h3.order, h3.confirmed, h3.live⟩⟩
  · intro l hmem hlive htype
    obtain ⟨hconf, hpay, id, b, hid, h2, hfee⟩ := h.deductions l (hl ▸ hmem) hlive htype
    exact ⟨hconf, hpay, id, b, hid, ⟨(hbill _).trans h2.found, h2.order, h2.live, h2.open_⟩, hfee⟩

/-! ## Moves -/

theorem Moves.factsOk {seen : Seen} {before : Db} {ws : List Write} (h : Moves seen before ws)
    (hb : BillsOk before) (h₀ : FactsOk before) : FactsOk (view ws before) := by
  induction h with
  | nil => exact h₀
  | addPayment _ hnew hpos _ _ ih =>
    rw [view_snoc]
    exact ih.insertPayment hnew hpos
  | @pay ws ref bill amount at_ _ hbill href ih =>
    rw [view_append]
    have hopen : OpenBill (view ws before) ref.orderId bill.id bill :=
      ⟨hbill.current, href.order, hbill.live, hbill.open_⟩
    obtain ⟨b', hb', -⟩ := hopen.paid bill amount at_
    obtain ⟨p, hp, hnames⟩ := href.exists_
    exact (ih.updateBill bill amount at_).insertWriteOff hbill.pos ⟨b', hb'⟩
      ⟨p, ⟨hp, hnames.order, hnames.confirmed, hnames.live⟩⟩
  | collect _ _ _ _ _ _ _ hpos _ ih =>
    rw [view_snoc]
    exact ih.insertLedger (hpos hb) fun htype => DepositTransactionType.noConfusion htype
  | @deduct ws order bill amount snap id now createdAt _ hbill hded _ _ _ ih =>
    rw [view_append]
    simp only [deductible, Bool.and_eq_true, beq_iff_eq, bne_iff_ne, Option.isNone_iff_eq_none]
      at hded
    obtain ⟨⟨⟨⟨⟨hlive, horder⟩, -⟩, hfee⟩, hopen⟩, -⟩ := hded
    refine FactsOk.updateBill (ih.insertLedger hbill.pos fun _ => ?_) bill amount now
    exact ⟨rfl, rfl, bill.id, bill, rfl, ⟨hbill.current, horder, hlive, hopen⟩, hfee⟩
  | refund _ hpos _ _ _ ih =>
    rw [view_snoc]
    exact ih.insertLedger hpos fun htype => DepositTransactionType.noConfusion htype
  | @other ws w _ hw ih =>
    rw [view_snoc]
    cases w with
    | insertPayment p => exact hw.elim
    | insertWriteOff w => exact hw.elim
    | insertLedger l => exact hw.elim
    | updateBill id p => exact hw.elim
    | _ => exact ih.congr rfl rfl rfl rfl

end SubscriptionSaas.Finance
