import SubscriptionSaas.Finance.Service
import SubscriptionSaas.Lib.Proofs.TransactionProofs

/-!
# What the writes of a transaction do to each table

`view ws db` is the database as a transaction with the writes `ws` sees it. Each table of it is given
by a lemma: tables of facts are only appended to, a bill or a payment order is patched in place. From
these lemmas follows what a row lock protects (`isolation`): a bill's row guards the bill together
with its write-offs and its deposit rows, because every statement that adds one of those also updates
the bill.
-/

namespace SubscriptionSaas.Finance

open Transaction

/-- The database with the writes `ws` on top. -/
abbrev view (ws : List Write) (db : Db) : Db := applyAll sig ws db

def Write.payment? : Write → Option PaymentRecord
  | .insertPayment p => some p
  | _ => none

def Write.writeOff? : Write → Option PaymentWriteOff
  | .insertWriteOff w => some w
  | _ => none

def Write.ledger? : Write → Option DepositLedger
  | .insertLedger l => some l
  | _ => none

/-- The bill after the write. -/
def Write.patchBill (b : ReceivableBill) : Write → ReceivableBill
  | .updateBill id p => if b.id == id then p.apply b else b
  | _ => b

/-- The bill after the writes. -/
def patchBills (ws : List Write) (b : ReceivableBill) : ReceivableBill := ws.foldl Write.patchBill b

/-- The payment order after the write. -/
def Write.patchOrder (o : PaymentOrder) : Write → PaymentOrder
  | .updatePaymentOrder id now p => if o.id == id then p.apply now o else o
  | _ => o

/-- The payment order after the writes. -/
def patchOrders (ws : List Write) (o : PaymentOrder) : PaymentOrder := ws.foldl Write.patchOrder o

/-! ## Updates keep the keys -/

@[simp] theorem BillPatch.apply_id (p : BillPatch) (b : ReceivableBill) : (p.apply b).id = b.id := rfl

@[simp] theorem PaymentOrderPatch.apply_id (now : Instant) (o : PaymentOrder)
    (p : PaymentOrderPatch) : (p.apply now o).id = o.id := by
  cases p <;> rfl

@[simp] theorem DebitAttemptPatch.apply_id (p : DebitAttemptPatch) (a : DebitAttempt) :
    (p.apply a).id = a.id := by
  cases p <;> rfl

@[simp] theorem Write.patchBill_id (b : ReceivableBill) (w : Write) : (w.patchBill b).id = b.id := by
  cases w with
  | updateBill id p => simp only [Write.patchBill]; split <;> rfl
  | _ => rfl

@[simp] theorem patchBills_id (ws : List Write) (b : ReceivableBill) : (patchBills ws b).id = b.id := by
  induction ws generalizing b with
  | nil => rfl
  | cons w ws ih => exact (ih _).trans (Write.patchBill_id b w)

@[simp] theorem patchBills_nil (b : ReceivableBill) : patchBills [] b = b := rfl

theorem patchBills_append (ws ws' : List Write) (b : ReceivableBill) :
    patchBills (ws ++ ws') b = patchBills ws' (patchBills ws b) :=
  List.foldl_append

/-- A lookup by key after an update by key. -/
theorem find?_updateWhere {α : Type} {key : α → Id} {f : α → α} (hf : ∀ a, key (f a) = key a)
    (id id' : Id) (rows : List α) :
    (updateWhere (fun a => key a == id) f rows).find? (fun a => key a == id') =
      (rows.find? fun a => key a == id').map fun a => if key a == id then f a else a := by
  unfold updateWhere
  rw [List.find?_map]
  congr 1
  congr 1
  funext a
  simp only [Function.comp]
  split <;> simp [hf]

/-- A row is found by its key when keys are unique. -/
theorem find?_of_nodup {α : Type} {key : α → Id} {rows : List α} (h : (rows.map key).Nodup) {a : α}
    (ha : a ∈ rows) : rows.find? (fun x => key x == key a) = some a := by
  induction rows with
  | nil => cases ha
  | cons b rows ih =>
    rw [List.map_cons, List.nodup_cons] at h
    by_cases hkey : key b = key a
    · rcases List.mem_cons.mp ha with rfl | hmem
      · simp
      · exact absurd (List.mem_map.mpr ⟨a, hmem, hkey.symm⟩) h.1
    · rcases List.mem_cons.mp ha with rfl | hmem
      · exact absurd rfl hkey
      · rw [List.find?_cons_of_neg (by simpa using hkey)]
        exact ih h.2 hmem

theorem find?_updateWhere_ne {α : Type} {key : α → Id} {f : α → α} (hf : ∀ a, key (f a) = key a)
    {id id' : Id} (hne : id' ≠ id) (rows : List α) :
    (updateWhere (fun a => key a == id) f rows).find? (fun a => key a == id') =
      rows.find? fun a => key a == id' := by
  rw [find?_updateWhere hf]
  cases hfind : rows.find? (fun a => key a == id') with
  | none => rfl
  | some a =>
    have hkey : key a = id' := by simpa using List.find?_some hfind
    have : ¬ key a = id := fun hc => hne (hkey.symm.trans hc)
    simp [this]

theorem find?_append_ne {α : Type} {key : α → Id} {id : Id} (rows : List α) {a : α}
    (hne : id ≠ key a) :
    (rows ++ [a]).find? (fun a => key a == id) = rows.find? fun a => key a == id := by
  have : ¬ key a = id := fun hc => hne hc.symm
  simp [List.find?_append, this]

/-! ## The tables of a view -/

@[simp] theorem view_nil (db : Db) : view [] db = db := rfl

theorem view_append (ws ws' : List Write) (db : Db) :
    view (ws ++ ws') db = view ws' (view ws db) :=
  List.foldl_append

theorem view_cons (w : Write) (ws : List Write) (db : Db) :
    view (w :: ws) db = view ws (w.apply db) := rfl

theorem view_snoc (ws : List Write) (w : Write) (db : Db) :
    view (ws ++ [w]) db = w.apply (view ws db) := view_append ws [w] db

@[simp] theorem view_orders (ws : List Write) (db : Db) : (view ws db).orders = db.orders := by
  induction ws generalizing db with
  | nil => rfl
  | cons w ws ih => rw [view_cons, ih]; cases w <;> rfl

theorem view_payments (ws : List Write) (db : Db) :
    (view ws db).payments = db.payments ++ ws.filterMap Write.payment? := by
  induction ws generalizing db with
  | nil => simp
  | cons w ws ih => rw [view_cons, ih]; cases w <;> simp [Write.apply, Write.payment?, List.filterMap_cons]

theorem view_writeOffs (ws : List Write) (db : Db) :
    (view ws db).writeOffs = db.writeOffs ++ ws.filterMap Write.writeOff? := by
  induction ws generalizing db with
  | nil => simp
  | cons w ws ih => rw [view_cons, ih]; cases w <;> simp [Write.apply, Write.writeOff?, List.filterMap_cons]

theorem view_ledger (ws : List Write) (db : Db) :
    (view ws db).ledger = db.ledger ++ ws.filterMap Write.ledger? := by
  induction ws generalizing db with
  | nil => simp
  | cons w ws ih => rw [view_cons, ih]; cases w <;> simp [Write.apply, Write.ledger?, List.filterMap_cons]

theorem apply_bills (w : Write) (db : Db) :
    (w.apply db).bills = db.bills.map fun b => w.patchBill b := by
  cases w <;> simp [Write.apply, Write.patchBill, updateWhere]

theorem view_bills (ws : List Write) (db : Db) :
    (view ws db).bills = db.bills.map (patchBills ws) := by
  induction ws generalizing db with
  | nil =>
    show db.bills = db.bills.map fun b => b
    simp
  | cons w ws ih =>
    rw [view_cons, ih, apply_bills, List.map_map]
    rfl

theorem view_bill? (ws : List Write) (db : Db) (id : Id) :
    (view ws db).bill? id = (db.bill? id).map (patchBills ws) := by
  unfold Db.bill?
  rw [view_bills, List.find?_map]
  congr 2
  funext b
  simp

theorem view_billWriteOffs (ws : List Write) (db : Db) (id : Id) :
    (view ws db).billWriteOffs id = db.billWriteOffs id ++
      (ws.filterMap Write.writeOff?).filter fun w => w.billId == id && w.deletedAt.isNone := by
  simp [Db.billWriteOffs, view_writeOffs]

theorem view_paymentWriteOffs (ws : List Write) (db : Db) (id : Id) :
    (view ws db).paymentWriteOffs id = db.paymentWriteOffs id ++
      (ws.filterMap Write.writeOff?).filter fun w => w.paymentId == id && w.deletedAt.isNone := by
  simp [Db.paymentWriteOffs, view_writeOffs]

theorem view_billLedger (ws : List Write) (db : Db) (id : Id) :
    (view ws db).billLedger id = db.billLedger id ++
      (ws.filterMap Write.ledger?).filter fun l => l.billId == some id && l.deletedAt.isNone := by
  simp [Db.billLedger, view_ledger]

/-! ## What a row lock protects -/

/-- The debit attempts on a bill. -/
def Db.billAttemptIds (db : Db) (id : Id) : List Id :=
  (db.debitAttempts.filter (·.billId == id)).map (·.id)

/-- What no statement changes in a debit attempt. -/
structure DebitAttempt.Same (a a' : DebitAttempt) : Prop where
  id : a'.id = a.id
  paymentOrderId : a'.paymentOrderId = a.paymentOrderId
  billId : a'.billId = a.billId
  requestedAmount : a'.requestedAmount = a.requestedAmount
  providerOutTradeNo : a'.providerOutTradeNo = a.providerOutTradeNo
  createdAt : a'.createdAt = a.createdAt

theorem DebitAttempt.Same.refl (a : DebitAttempt) : a.Same a := ⟨rfl, rfl, rfl, rfl, rfl, rfl⟩

theorem DebitAttempt.Same.trans {a b c : DebitAttempt} (h : a.Same b) (h' : b.Same c) : a.Same c :=
  ⟨h'.id.trans h.id, h'.paymentOrderId.trans h.paymentOrderId, h'.billId.trans h.billId,
    h'.requestedAmount.trans h.requestedAmount, h'.providerOutTradeNo.trans h.providerOutTradeNo,
    h'.createdAt.trans h.createdAt⟩

theorem DebitAttemptPatch.apply_same (p : DebitAttemptPatch) (a : DebitAttempt) :
    a.Same (p.apply a) := by
  cases p <;> exact ⟨rfl, rfl, rfl, rfl, rfl, rfl⟩

/-- The part of the database that a row guards. -/
def Row.same (d d' : Db) : Row → Prop
  | .bill id => d.bill? id = d'.bill? id ∧ d.billWriteOffs id = d'.billWriteOffs id ∧
      d.billLedger id = d'.billLedger id ∧ d.billAttemptIds id = d'.billAttemptIds id
  | .payment id => d.payment? id = d'.payment? id
  | .paymentOrder id => d.paymentOrder? id = d'.paymentOrder? id
  | .debitAttempt id => d.debitAttempt? id = d'.debitAttempt? id

/-- The rows whose guarded part a write changes. -/
def Write.touches : Write → List Row
  | .insertPayment p => [.payment p.id]
  | .insertWriteOff w => [.bill w.billId]
  | .insertLedger l => l.billId.toList.map .bill
  | .updateBill id _ => [.bill id]
  | .insertPaymentOrder o => [.paymentOrder o.id]
  | .updatePaymentOrder id _ _ => [.paymentOrder id]
  | .insertDebitAttempt a => [.debitAttempt a.id, .bill a.billId]
  | .updateDebitAttempt id _ => [.debitAttempt id]
  | .insertCallbackLog _ | .updateCallbackLog _ _ | .insertSettlement _ | .setClosure _
  | .submitDebit _ => []

/-- Orders do not change here, facts of money are never taken back, and a payment order and its debit
attempt stay with each other. -/
structure Frame (d d' : Db) : Prop where
  orders : d.orders = d'.orders
  payments : d.payments <+: d'.payments
  writeOffs : d.writeOffs <+: d'.writeOffs
  ledger : d.ledger <+: d'.ledger
  paymentOrders : ∀ o ∈ d.paymentOrders,
    ∃ o' ∈ d'.paymentOrders, o'.id = o.id ∧ o'.debitAttempt = o.debitAttempt
  debitAttempt : ∀ id a, d.debitAttempt? id = some a →
    ∃ a', d'.debitAttempt? id = some a' ∧ a.Same a'

theorem Frame.refl (d : Db) : Frame d d :=
  ⟨rfl, List.prefix_rfl, List.prefix_rfl, List.prefix_rfl, fun o h => ⟨o, h, rfl, rfl⟩,
    fun _ a h => ⟨a, h, .refl a⟩⟩

theorem Frame.trans {a b c : Db} (h : Frame a b) (h' : Frame b c) : Frame a c where
  orders := h.orders.trans h'.orders
  payments := h.payments.trans h'.payments
  writeOffs := h.writeOffs.trans h'.writeOffs
  ledger := h.ledger.trans h'.ledger
  paymentOrders o ho := by
    obtain ⟨o', ho', hid, heq⟩ := h.paymentOrders o ho
    obtain ⟨o'', ho'', hid', heq'⟩ := h'.paymentOrders o' ho'
    exact ⟨o'', ho'', hid'.trans hid, heq'.trans heq⟩
  debitAttempt id x hx := by
    obtain ⟨x', hx', heq⟩ := h.debitAttempt id x hx
    obtain ⟨x'', hx'', heq'⟩ := h'.debitAttempt id x' hx'
    exact ⟨x'', hx'', heq.trans heq'⟩

@[simp] theorem PaymentOrderPatch.apply_debitAttempt (now : Instant) (o : PaymentOrder)
    (p : PaymentOrderPatch) : (p.apply now o).debitAttempt = o.debitAttempt := by
  cases p <;> rfl

@[simp] theorem DebitAttemptPatch.apply_paymentOrderId (p : DebitAttemptPatch) (a : DebitAttempt) :
    (p.apply a).paymentOrderId = a.paymentOrderId := by
  cases p <;> rfl

@[simp] theorem DebitAttemptPatch.apply_status (p : DebitAttemptPatch) (a : DebitAttempt) :
    (p.apply a).status = p.status := by
  cases p <;> rfl

theorem paymentOrder?_update (db : Db) (id id' : Id) (now : Instant) (p : PaymentOrderPatch) :
    ((Write.updatePaymentOrder id now p).apply db).paymentOrder? id' =
      (db.paymentOrder? id').map fun o => if o.id == id then p.apply now o else o :=
  find?_updateWhere (fun o => p.apply_id now o) id id' db.paymentOrders

theorem debitAttempt?_update (db : Db) (id id' : Id) (p : DebitAttemptPatch) :
    ((Write.updateDebitAttempt id p).apply db).debitAttempt? id' =
      (db.debitAttempt? id').map fun a => if a.id == id then p.apply a else a :=
  find?_updateWhere (fun a => p.apply_id a) id id' db.debitAttempts

theorem debitAttempt?_insert {db : Db} {a : DebitAttempt} (h : db.debitAttempt? a.id = none) :
    ((Write.insertDebitAttempt a).apply db).debitAttempt? a.id = some a := by
  show (db.debitAttempts ++ [a]).find? (·.id == a.id) = some a
  rw [List.find?_append, show db.debitAttempts.find? _ = none from h]
  simp

@[simp] theorem patchOrders_nil (o : PaymentOrder) : patchOrders [] o = o := rfl

@[simp] theorem patchOrders_cons (w : Write) (ws : List Write) (o : PaymentOrder) :
    patchOrders (w :: ws) o = patchOrders ws (w.patchOrder o) := rfl

theorem patchOrders_append (ws ws' : List Write) (o : PaymentOrder) :
    patchOrders (ws ++ ws') o = patchOrders ws' (patchOrders ws o) :=
  List.foldl_append

/-- Writes that patch no payment order. -/
theorem patchOrders_eq {ws : List Write} {o : PaymentOrder} (h : ∀ w ∈ ws, w.patchOrder o = o) :
    patchOrders ws o = o := by
  induction ws with
  | nil => rfl
  | cons w ws ih =>
    rw [patchOrders_cons, h w List.mem_cons_self]
    exact ih fun w' hw' => h w' (List.mem_cons_of_mem _ hw')

theorem apply_paymentOrder? (w : Write) {db : Db} {id : Id} {o : PaymentOrder}
    (h : db.paymentOrder? id = some o) :
    (w.apply db).paymentOrder? id = some (w.patchOrder o) := by
  cases w with
  | insertPaymentOrder o' =>
    show (db.paymentOrders ++ [o']).find? (·.id == id) = some o
    rw [List.find?_append, show db.paymentOrders.find? _ = some o from h, Option.some_or]
  | updatePaymentOrder id' now p => rw [paymentOrder?_update, h]; rfl
  | _ => exact h

/-- A payment order is patched by the writes and by nothing else. -/
theorem view_paymentOrder? (ws : List Write) {db : Db} {id : Id} {o : PaymentOrder}
    (h : db.paymentOrder? id = some o) : (view ws db).paymentOrder? id = some (patchOrders ws o) := by
  induction ws generalizing db o with
  | nil => exact h
  | cons w ws ih => exact ih (apply_paymentOrder? w h)

theorem Frame.apply (w : Write) (db : Db) : Frame db (w.apply db) where
  orders := by cases w <;> simp [Write.apply]
  payments := by cases w <;> simp [Write.apply]
  writeOffs := by cases w <;> simp [Write.apply]
  ledger := by cases w <;> simp [Write.apply]
  paymentOrders o ho := by
    cases w with
    | insertPaymentOrder o' => exact ⟨o, List.mem_append_left _ ho, rfl, rfl⟩
    | updatePaymentOrder id now p =>
      refine ⟨_, List.mem_map.mpr ⟨o, ho, rfl⟩, ?_, ?_⟩
      · by_cases hid : o.id == id <;> simp [hid]
      · by_cases hid : o.id == id <;> simp [hid]
    | _ => exact ⟨o, ho, rfl, rfl⟩
  debitAttempt id a ha := by
    cases w with
    | insertDebitAttempt a' =>
      refine ⟨a, ?_, .refl a⟩
      show (db.debitAttempts ++ [a']).find? (·.id == id) = some a
      rw [List.find?_append, show db.debitAttempts.find? _ = some a from ha, Option.some_or]
    | updateDebitAttempt id' p =>
      refine ⟨_, by rw [debitAttempt?_update, ha, Option.map_some], ?_⟩
      split
      · exact p.apply_same a
      · exact .refl a
    | _ => exact ⟨a, ha, .refl a⟩

theorem Frame.view (ws : List Write) (db : Db) : Frame db (view ws db) := by
  induction ws generalizing db with
  | nil => exact Frame.refl db
  | cons w ws ih => exact (Frame.apply w db).trans (ih (w.apply db))

/-- An update leaves the attempts on their bills. -/
theorem billAttemptIds_update (db : Db) (id id' : Id) (p : DebitAttemptPatch) :
    ((Write.updateDebitAttempt id' p).apply db).billAttemptIds id = db.billAttemptIds id := by
  simp only [Db.billAttemptIds, Write.apply, updateWhere]
  induction db.debitAttempts with
  | nil => rfl
  | cons a as ih =>
    have hsame : a.Same (if a.id == id' then p.apply a else a) := by
      split
      · exact p.apply_same a
      · exact .refl a
    simp only [List.map_cons, List.filter_cons, hsame.billId]
    split
    · rw [List.map_cons, List.map_cons, hsame.id, ih]
    · exact ih

theorem Row.same_apply (r : Row) (w : Write) (db : Db) (h : r ∉ w.touches) :
    r.same db (w.apply db) := by
  cases r with
  | bill id =>
    refine ⟨?_, ?_, ?_, ?_⟩
    · cases w with
      | updateBill id' p =>
        have hne : id ≠ id' := by simpa [Write.touches] using h
        exact (find?_updateWhere_ne (fun b => p.apply_id b) hne db.bills).symm
      | _ => rfl
    · cases w with
      | insertWriteOff x =>
        have hne : ¬ x.billId = id := fun hc => h (by simp [Write.touches, hc])
        simp [Db.billWriteOffs, Write.apply, hne]
      | _ => rfl
    · cases w with
      | insertLedger l =>
        have hne : ¬ l.billId = some id := fun hc => h (by simp [Write.touches, hc])
        simp [Db.billLedger, Write.apply, hne]
      | _ => rfl
    · cases w with
      | insertDebitAttempt a =>
        have hne : ¬ a.billId = id := fun hc => h (by simp [Write.touches, hc])
        simp [Db.billAttemptIds, Write.apply, hne]
      | updateDebitAttempt id' p => exact (billAttemptIds_update db id id' p).symm
      | _ => rfl
  | payment id =>
    cases w with
    | insertPayment p =>
      have hne : id ≠ p.id := by simpa [Write.touches] using h
      exact (find?_append_ne db.payments hne).symm
    | _ => rfl
  | paymentOrder id =>
    cases w with
    | insertPaymentOrder o =>
      have hne : id ≠ o.id := by simpa [Write.touches] using h
      exact (find?_append_ne db.paymentOrders hne).symm
    | updatePaymentOrder id' now p =>
      have hne : id ≠ id' := by simpa [Write.touches] using h
      exact (find?_updateWhere_ne (fun o => p.apply_id now o) hne db.paymentOrders).symm
    | _ => rfl
  | debitAttempt id =>
    cases w with
    | insertDebitAttempt a =>
      have hne : id ≠ a.id := fun hc => h (by simp [Write.touches, hc])
      exact (find?_append_ne db.debitAttempts hne).symm
    | updateDebitAttempt id' p =>
      have hne : id ≠ id' := by simpa [Write.touches] using h
      exact (find?_updateWhere_ne (fun a => p.apply_id a) hne db.debitAttempts).symm
    | _ => rfl

/-- The isolation of the finance tables. -/
def isolation : Isolation sig where
  same r d d' := Row.same d d' r
  touches := Write.touches
  frame := Frame
  frame_refl := Frame.refl
  frame_trans _ _ _ := Frame.trans
  frame_apply := Frame.apply
  same_refl r db := by cases r <;> simp [Row.same]
  same_trans r a b c h h' := by
    cases r with
    | bill id => exact ⟨h.1.trans h'.1, h.2.1.trans h'.2.1, h.2.2.1.trans h'.2.2.1,
        h.2.2.2.trans h'.2.2.2⟩
    | payment id => exact Eq.trans h h'
    | paymentOrder id => exact Eq.trans h h'
    | debitAttempt id => exact Eq.trans h h'
  same_apply := Row.same_apply

/-- What the environment may do to a transaction that holds `held`. -/
abbrev Rely (held : List Row) (d d' : Db) : Prop := isolation.Rely held d d'

/-! ## Rows that stay -/

theorem find?_prefix {α : Type} {p : α → Bool} {as bs : List α} {a : α} (h : as <+: bs)
    (hfind : as.find? p = some a) : bs.find? p = some a := by
  obtain ⟨cs, rfl⟩ := h
  simp [List.find?_append, hfind]

theorem Frame.payment? {d d' : Db} (h : Frame d d') {id : Id} {p : PaymentRecord}
    (hp : d.payment? id = some p) : d'.payment? id = some p :=
  find?_prefix h.payments hp

theorem Frame.order? {d d' : Db} (h : Frame d d') (id : Id) : d.order? id = d'.order? id := by
  rw [Db.order?, Db.order?, h.orders]

theorem Db.bill?_id {db : Db} {id : Id} {b : ReceivableBill} (h : db.bill? id = some b) :
    b.id = id := by
  simpa using List.find?_some h

theorem Db.payment?_id {db : Db} {id : Id} {p : PaymentRecord} (h : db.payment? id = some p) :
    p.id = id := by
  simpa using List.find?_some h

theorem Db.debitAttempt?_id {db : Db} {id : Id} {a : DebitAttempt}
    (h : db.debitAttempt? id = some a) : a.id = id := by
  simpa using List.find?_some h

theorem Db.paymentOrder?_id {db : Db} {id : Id} {o : PaymentOrder}
    (h : db.paymentOrder? id = some o) : o.id = id := by
  simpa using List.find?_some h

end SubscriptionSaas.Finance
