import SubscriptionSaas.Finance.Proofs.ServiceProofs

/-!
# What a settlement commits

The specification of `settlePaymentOrder`. A settlement that finds the order paid writes nothing but
the handled mark of its callback. One that finds it open inserts one payment record, pays the bills
of the order's items from it, and marks the order paid; the amount paid is split into what the bills
took and what is left, and no bill that was cancelled or held back by a closure takes anything.
-/

namespace SubscriptionSaas.Finance

open Transaction

/-- The bills held back by a closure, as read in three snapshots. -/
def blockedIn (ids : List Id) (d₁ d₂ d₃ : Db) : List Id :=
  disputeBlocks ids d₁.closure ++ legalCaseBlocks ids d₂.closure ++ dispositionBlocks ids d₃.closure

/-- What a settlement writes on its debit attempt, which belongs to its order. -/
def DebitWrites (input : SettlePaymentOrderInput) (before : Db) (orderId : Id) (ws : List Write) :
    Prop :=
  ws = [] ∨ ∃ attempt a p, input.debitAttempt = some attempt ∧
    before.debitAttempt? attempt.id = some a ∧ a.paymentOrderId = orderId ∧
    p.status = .succeeded ∧ ws = [.updateDebitAttempt attempt.id p]

/-- What a settlement writes on its callback. -/
def CallbackWrites (input : SettlePaymentOrderInput) (orderId : Id) (ws : List Write) : Prop :=
  ws = [] ∨ (∃ l, ws = [.insertCallbackLog l]) ∨ ∃ logId, input.callbackLogId = some logId ∧
    ws = [.updateCallbackLog logId (.handled input.paidAt orderId)]

/-- A settlement proper: the order it found, the payment it made, the writes that pay the bills and
what of the payment they took. -/
structure Settled (input : SettlePaymentOrderInput) (seen : Seen) (before : Db) (ws : List Write)
    (order : PaymentOrder) (payment : PaymentRecord) (allocated unallocated : Int)
    (blocked : List Id) (paid : List Write) : Prop where
  order_eq : before.paymentOrder? input.paymentOrderId = some order
  unpaid : order.paymentStatus ≠ .paid
  settleable : settleable input order = true
  amount : input.paidAmount = order.amount
  amount_pos : 0 < input.paidAmount
  blocked_eq : ∃ d₁ d₂ d₃, (Tag.closureDisputes, d₁) ∈ seen ∧ (Tag.closureLegalCases, d₂) ∈ seen ∧
    (Tag.closureDispositions, d₃) ∈ seen ∧ blocked = blockedIn order.billIds d₁ d₂ d₃
  fresh : before.payment? payment.id = none
  paymentAmount : payment.paymentAmount = input.paidAmount
  confirmed : payment.paymentStatus = .confirmed
  booked : Booked (order.billIds.filter fun id => !blocked.contains id) payment.id allocated paid
  conserved : allocated + unallocated = input.paidAmount
  unallocated_nonneg : 0 ≤ unallocated
  writes : ∃ debit callback now tradeNo transactionId, DebitWrites input before order.id debit ∧
    CallbackWrites input order.id callback ∧
    ws = [.insertPayment payment] ++ paid ++ (debit ++
      [.updatePaymentOrder order.id now (.settled payment.id input.paidAmount input.paidAt tradeNo
        transactionId blocked)] ++ callback ++
      [.insertSettlement ⟨order.id, payment.id, allocated, unallocated⟩])

/-- What a settlement of an order that is paid already writes. -/
def Replayed (input : SettlePaymentOrderInput) (before : Db) (ws : List Write) : Prop :=
  ∃ order, before.paymentOrder? input.paymentOrderId = some order ∧ order.paymentStatus = .paid ∧
    (ws = [] ∨ ∃ logId, input.callbackLogId = some logId ∧
      ws = [.updateCallbackLog logId (.handled input.paidAt order.id)])

/-- The commit of a settlement: moves, either a replay or a settlement proper. -/
def SettleDuty (input : SettlePaymentOrderInput) : Duty sig := fun seen before ws =>
  Moves seen before ws ∧ (Replayed input before ws ∨
    ∃ order payment allocated unallocated blocked paid,
      Settled input seen before ws order payment allocated unallocated blocked paid)

theorem DebitWrites.tables {input : SettlePaymentOrderInput} {before : Db} {orderId : Id}
    {ws : List Write} (h : DebitWrites input before orderId ws) : ws.filterMap Write.payment? = [] ∧
      ws.filterMap Write.writeOff? = [] ∧ ws.filterMap Write.ledger? = [] := by
  rcases h with rfl | ⟨attempt, a, p, -, -, -, -, rfl⟩ <;> exact ⟨rfl, rfl, rfl⟩

theorem CallbackWrites.tables {input : SettlePaymentOrderInput} {orderId : Id} {ws : List Write}
    (h : CallbackWrites input orderId ws) : ws.filterMap Write.payment? = [] ∧
      ws.filterMap Write.writeOff? = [] ∧ ws.filterMap Write.ledger? = [] := by
  rcases h with rfl | ⟨l, rfl⟩ | ⟨logId, -, rfl⟩ <;> exact ⟨rfl, rfl, rfl⟩

theorem Settled.money {input : SettlePaymentOrderInput} {seen : Seen} {before : Db}
    {ws : List Write} {order : PaymentOrder} {payment : PaymentRecord} {a u : Int}
    {blocked : List Id} {paid : List Write}
    (h : Settled input seen before ws order payment a u blocked paid) :
    ∀ w ∈ [.insertPayment payment] ++ paid, w.IsMoney := by
  intro w hw
  rcases List.mem_append.mp hw with hw | hw
  · rw [List.mem_singleton.mp hw]
    trivial
  · exact h.booked.money w hw

/-- What a settlement proper adds to the tables of facts. -/
theorem Settled.tables {input : SettlePaymentOrderInput} {seen : Seen} {before : Db}
    {ws : List Write} {order : PaymentOrder} {payment : PaymentRecord} {a u : Int}
    {blocked : List Id} {paid : List Write}
    (h : Settled input seen before ws order payment a u blocked paid) :
    ws.filterMap Write.payment? = [payment] ∧
      ws.filterMap Write.writeOff? = paid.filterMap Write.writeOff? ∧
      ws.filterMap Write.ledger? = paid.filterMap Write.ledger? := by
  obtain ⟨debit, callback, now, tradeNo, transactionId, hdebit, hcallback, rfl⟩ := h.writes
  obtain ⟨d1, d2, d3⟩ := hdebit.tables
  obtain ⟨c1, c2, c3⟩ := hcallback.tables
  have hpaid := h.booked.noPayment
  refine ⟨?_, ?_, ?_⟩
  · simp [List.filterMap_append, d1, c1, hpaid, Write.payment?, List.filterMap_cons]
  · simp [List.filterMap_append, d2, c2, Write.writeOff?, List.filterMap_cons]
  · simp [List.filterMap_append, d3, c3, Write.ledger?, List.filterMap_cons]

/-- What a replay adds to the tables of facts. -/
theorem Replayed.tables {input : SettlePaymentOrderInput} {before : Db} {ws : List Write}
    (h : Replayed input before ws) : ws.filterMap Write.payment? = [] ∧
      ws.filterMap Write.writeOff? = [] ∧ ws.filterMap Write.ledger? = [] := by
  obtain ⟨order, -, -, rfl | ⟨logId, -, rfl⟩⟩ := h <;> exact ⟨rfl, rfl, rfl⟩

/-! ## The items -/

/-- The state of the loop over the items. -/
structure Allocating (c : Ctx sig) (ids : List Id) (ref : PaymentRef) (st : Allocation) : Prop where
  good : Good c
  tracked : Tracked c ids st.billById
  ref : RefOk c ref
  available : 0 ≤ st.availableAmount

/-- One pass of the loop: `amount` more has been allocated. -/
structure AllocateStep (c c' : Ctx sig) (ids : List Id) (ref : PaymentRef) (blocked : List Id)
    (st st' : Allocation) (amount : Int) (new : List Write) : Prop where
  step : Step c c' new
  next : Allocating c' ids ref st'
  booked : Booked (ids.filter fun id => !blocked.contains id) ref.paymentId amount new
  allocated : st'.allocatedAmount = st.allocatedAmount + amount
  available : st'.availableAmount = st.availableAmount - amount

theorem AllocateStep.refl {c : Ctx sig} {ids : List Id} {ref : PaymentRef} {st : Allocation}
    (blocked : List Id) (h : Allocating c ids ref st) :
    AllocateStep c c ids ref blocked st st 0 [] :=
  ⟨Step.refl c, h, Booked.nil _ _, by omega, by omega⟩

theorem AllocateStep.trans {c c' c'' : Ctx sig} {ids : List Id} {ref : PaymentRef}
    {blocked : List Id} {st st' st'' : Allocation} {a b : Int} {new new' : List Write}
    (h : AllocateStep c c' ids ref blocked st st' a new)
    (h' : AllocateStep c' c'' ids ref blocked st' st'' b new') :
    AllocateStep c c'' ids ref blocked st st'' (a + b) (new ++ new') := by
  obtain ⟨h1, -, h3, h4, h5⟩ := h
  obtain ⟨h1', h2', h3', h4', h5'⟩ := h'
  exact ⟨h1.trans h1', h2', h3.append h3', by omega, by omega⟩

theorem calculateWriteOffAmount_le {item remaining available x : Int}
    (h : calculateWriteOffAmount item remaining available = some x) :
    x ≤ item ∧ x ≤ remaining ∧ x ≤ available := by
  unfold calculateWriteOffAmount at h
  split at h
  · cases h
  · rw [← Option.some.inj h]
    omega

theorem wp_settleItem {C : Duty sig} {ref : PaymentRef} {paidAt : Instant} {blocked : List Id}
    {item : PaymentOrderItem} {st : Allocation} {ids : List Id} {Q : Allocation → Ctx sig → Prop}
    {E : Err → Ctx sig → Prop} {c : Ctx sig} (h : Allocating c ids ref st)
    (hid : item.billId ∈ ids) (hE : ∀ e c', E e c')
    (hQ : ∀ c' st' amount new, AllocateStep c c' ids ref blocked st st' amount new → Q st' c') :
    wp isolation C (settleItem ref paidAt blocked item st) Q E c := by
  have hskip : Q st c := hQ c st 0 [] (AllocateStep.refl blocked h)
  unfold settleItem
  cases hm : st.billById item.billId with
  | none => exact hskip
  | some bill =>
    have hbid : bill.id = item.billId := Db.bill?_id (h.tracked.rows _ hid bill hm).1
    by_cases hblock : (bill.billStatus == .cancelled || blocked.contains item.billId) = true
    · simp only [hblock, if_true]
      exact hskip
    · simp only []
      rw [if_neg hblock]
      by_cases hscope :
          (bill.customerId != ref.customerId || bill.orderId != ref.orderId) = true
      · rw [if_pos hscope]
        exact hE _ _
      · rw [if_neg hscope]
        cases hx : calculateWriteOffAmount item.amount bill.remainingAmount st.availableAmount with
        | none => exact hE _ _
        | some amount =>
          by_cases hzero : amount ≤ 0
          · simp only [hzero, if_true]
            exact hskip
          · simp only [hzero, if_false]
            obtain ⟨-, hle, hav⟩ := calculateWriteOffAmount_le hx
            simp only [Bool.or_eq_true, beq_iff_eq, bne_iff_ne, not_or, not_not] at hblock hscope
            rw [← hbid] at hid hm hblock
            refine wp_payAndCollect (k := fun b => (⟨st.billById.set b,
              st.availableAmount - amount, st.allocatedAmount + amount⟩ : Allocation))
              (m := st.billById) h.good h.tracked h.ref hid hm hblock.1 (by omega) hle hscope.1 hscope.2 fun c' new hs hg ht hr hb => ?_
            refine hQ c' _ amount new ⟨hs, ⟨hg, ht, hr, ?_⟩, hb.mono ?_, rfl, rfl⟩
            · show 0 ≤ st.availableAmount - amount
              omega
            · intro id hmem
              rw [List.mem_singleton.mp hmem]
              exact List.mem_filter.mpr ⟨hid, by simpa using hblock.2⟩

theorem wp_settleItems {C : Duty sig} {ref : PaymentRef} {paidAt : Instant} {blocked : List Id}
    {items : List PaymentOrderItem} {st : Allocation} {ids : List Id}
    {Q : Allocation → Ctx sig → Prop} {E : Err → Ctx sig → Prop} {c : Ctx sig}
    (h : Allocating c ids ref st) (hid : ∀ item ∈ items, item.billId ∈ ids)
    (hE : ∀ e c', E e c')
    (hQ : ∀ c' st' amount new, AllocateStep c c' ids ref blocked st st' amount new → Q st' c') :
    wp isolation C (settleItems ref paidAt blocked items st) Q E c := by
  induction items generalizing st c with
  | nil => exact hQ c st 0 [] (AllocateStep.refl blocked h)
  | cons item items ih =>
    unfold settleItems
    rw [wp_bind]
    refine wp_settleItem h (hid item List.mem_cons_self) hE fun c₁ st₁ a new₁ h₁ => ?_
    refine ih h₁.next (fun i hi => hid i (List.mem_cons_of_mem _ hi)) fun c₂ st₂ b new₂ h₂ => ?_
    exact hQ c₂ st₂ _ _ (h₁.trans h₂)

/-! ## The statements around the loop -/

theorem Good.other {c : Ctx sig} (h : Good c) {w : Write} (hw : w.Neutral) :
    Good { c with pending := c.pending ++ [w] } := fun db hr => (h db hr).other hw

theorem wp_closurePaymentBlockedBillIds {C : Duty sig} {ids : List Id}
    {Q : List Id → Ctx sig → Prop} {E : Err → Ctx sig → Prop} {c : Ctx sig}
    (hpend : c.pending = [])
    (hQ : ∀ c' d₁ d₂ d₃, Step c c' [] → (Tag.closureDisputes, d₁) ∈ c'.seen →
      (Tag.closureLegalCases, d₂) ∈ c'.seen → (Tag.closureDispositions, d₃) ∈ c'.seen →
      Q (blockedIn ids d₁ d₂ d₃) c') :
    wp isolation C (closurePaymentBlockedBillIds ids) Q E c := by
  unfold closurePaymentBlockedBillIds
  rw [wp_bind]
  refine wp_read fun c₁ hs₁ h₁ => ?_
  rw [wp_bind]
  refine wp_read fun c₂ hs₂ h₂ => ?_
  rw [wp_bind]
  refine wp_read fun c₃ hs₃ h₃ => ?_
  have hp₁ := hs₁.pending_nil hpend
  rw [hpend, hp₁, hs₂.pending_nil hp₁]
  exact hQ c₃ c₁.db c₂.db c₃.db ((hs₁.trans hs₂).trans hs₃) (hs₃.seen _ (hs₂.seen _ h₁))
    (hs₃.seen _ h₂) h₃

theorem wp_ensureTransactionFree {C : Duty sig} {order : PaymentOrder} {t : Option String}
    {Q : Unit → Ctx sig → Prop} {E : Err → Ctx sig → Prop} {c : Ctx sig} (hE : ∀ e c', E e c')
    (hQ : ∀ c', Step c c' [] → Q () c') :
    wp isolation C (ensureTransactionFree order t) Q E c := by
  unfold ensureTransactionFree
  cases t with
  | none => exact hQ c (Step.refl c)
  | some transactionId =>
    by_cases hempty : transactionId = ""
    · simp only [hempty, if_true]
      exact hQ c (Step.refl c)
    · simp only [hempty, if_false]
      rw [wp_bind]
      refine wp_read fun c' hs _ => ?_
      rw [wp_ensure]
      exact ⟨fun _ => hQ c' hs, fun _ => hE _ _⟩

/-- The attempt a settlement confirms belongs to its order, on whatever database it commits to. -/
theorem wp_confirmDebitAttempt {C : Duty sig} {order : PaymentOrder} {attempt : SettleDebitAttempt}
    {Q : Unit → Ctx sig → Prop} {E : Err → Ctx sig → Prop} {c : Ctx sig} (hgood : Good c)
    (hview : ∀ db, (view c.pending db).debitAttempts = db.debitAttempts) (hE : ∀ e c', E e c')
    (hQ : ∀ c' p a, Step c c' [.updateDebitAttempt attempt.id p] → Good c' →
      p.status = DebitAttemptStatus.succeeded → c'.db.debitAttempt? attempt.id = some a →
      a.paymentOrderId = order.id → Q () c') :
    wp isolation C (confirmDebitAttempt order attempt) Q E c := by
  unfold confirmDebitAttempt
  rw [wp_bind]
  refine wp_read fun c₁ hs₁ _ => ?_
  rw [wp_bind, wp_ensure]
  refine ⟨fun hfound => ?_, fun _ => hE _ _⟩
  rw [wp_bind]
  refine wp_lock fun c₂ hs₂ hheld => ?_
  have hs := hs₁.trans hs₂
  have hattempt : ∃ a, c₁.db.debitAttempt? attempt.id = some a ∧ a.paymentOrderId = order.id := by
    have hsame : (view c.pending c₁.db).debitAttempt? attempt.id =
        c₁.db.debitAttempt? attempt.id := by unfold Db.debitAttempt?; rw [hview]
    rw [hsame, beq_iff_eq] at hfound
    exact Option.map_eq_some_iff.mp hfound
  obtain ⟨a, ha, hord⟩ := hattempt
  obtain ⟨a', ha', heq⟩ := hs₂.rely.1.debitAttempt _ a ha
  refine ⟨?_, hQ _ _ a' (hs.trans (Step.write c₂ _)) ((hgood.mono hs).other trivial) rfl ha'
    (heq.paymentOrderId.trans hord)⟩
  intro r hr
  rw [show r = Row.debitAttempt attempt.id by simpa [isolation, Write.touches] using hr]
  exact hheld

theorem wp_confirmSettledDebit {C : Duty sig} {input : SettlePaymentOrderInput}
    {order : PaymentOrder} {Q : Unit → Ctx sig → Prop} {E : Err → Ctx sig → Prop} {c : Ctx sig}
    (hgood : Good c) (hview : ∀ db, (view c.pending db).debitAttempts = db.debitAttempts)
    (hE : ∀ e c', E e c')
    (hQ : ∀ c' new, Step c c' new → Good c' →
      (∀ db, Rely c'.held c'.db db → DebitWrites input db order.id new) → Q () c') :
    wp isolation C (confirmSettledDebit input order) Q E c := by
  unfold confirmSettledDebit
  cases hdebit : input.debitAttempt with
  | none => exact hQ c [] (Step.refl c) hgood fun _ _ => .inl rfl
  | some attempt =>
    refine wp_confirmDebitAttempt hgood hview hE fun c' p a hs hg hp ha hord => ?_
    refine hQ c' _ hs hg fun db hr => ?_
    obtain ⟨a', ha', heq⟩ := hr.1.debitAttempt _ a ha
    exact .inr ⟨attempt, a', p, hdebit, ha', heq.paymentOrderId.trans hord, hp, rfl⟩

/-- What marking the callback writes. -/
def MarkWrites (input : SettlePaymentOrderInput) (orderId : Id) (ws : List Write) : Prop :=
  ws = [] ∨ ∃ logId, input.callbackLogId = some logId ∧
    ws = [.updateCallbackLog logId (.handled input.paidAt orderId)]

theorem wp_markSettlementCallback {C : Duty sig} {input : SettlePaymentOrderInput}
    {order : PaymentOrder} {Q : Unit → Ctx sig → Prop} {E : Err → Ctx sig → Prop} {c : Ctx sig}
    (hgood : Good c)
    (hQ : ∀ c' new, Step c c' new → Good c' → MarkWrites input order.id new → Q () c') :
    wp isolation C (markSettlementCallback input order) Q E c := by
  unfold markSettlementCallback
  cases hlog : input.callbackLogId with
  | none => exact hQ c [] (Step.refl c) hgood (.inl rfl)
  | some logId =>
    refine ⟨fun r hr => absurd hr List.not_mem_nil, ?_⟩
    exact hQ _ _ (Step.write c _) (hgood.other trivial) (.inr ⟨logId, hlog, rfl⟩)

theorem wp_recordSettlementCallback {C : Duty sig} {input : SettlePaymentOrderInput}
    {order : PaymentOrder} {Q : Unit → Ctx sig → Prop} {E : Err → Ctx sig → Prop} {c : Ctx sig}
    (hgood : Good c)
    (hQ : ∀ c' new, Step c c' new → Good c' → CallbackWrites input order.id new → Q () c') :
    wp isolation C (recordSettlementCallback input order) Q E c := by
  unfold recordSettlementCallback
  by_cases hrec : (input.callbackLogId.isNone &&
      (input.hasCallbackPayload || input.eventType.isSome)) = true
  · rw [if_pos hrec, wp_bind, wp_ask]
    intro id
    refine ⟨fun r hr => absurd hr List.not_mem_nil, ?_⟩
    exact hQ _ _ (Step.write c _) (hgood.other trivial) (.inr (.inl ⟨_, rfl⟩))
  · rw [if_neg hrec]
    refine wp_markSettlementCallback hgood fun c' new hs hg hnew => hQ c' new hs hg ?_
    rcases hnew with rfl | h
    · exact .inl rfl
    · exact .inr (.inr h)

theorem wp_existingWriteOffs {C : Duty sig} {order : PaymentOrder}
    {Q : List PaymentWriteOff → Ctx sig → Prop} {E : Err → Ctx sig → Prop} {c : Ctx sig}
    (hQ : ∀ c' rows, Step c c' [] → Q rows c') :
    wp isolation C (existingWriteOffs order) Q E c := by
  unfold existingWriteOffs
  cases order.paymentRecordId with
  | none => exact hQ c [] (Step.refl c)
  | some recordId => exact wp_read fun c' hs _ => hQ c' _ hs

/-- The payment order of a held row on the database the transaction will commit to. -/
theorem Step.paymentOrder? {c c' : Ctx sig} {new : List Write} (h : Step c c' new) {id : Id}
    (hheld : Row.paymentOrder id ∈ c.held) {db : Db} (hr : Rely c'.held c'.db db) :
    db.paymentOrder? id = c.db.paymentOrder? id :=
  ((h.rely.trans (hr.mono h.held)).2 _ hheld).symm

theorem wp_replaySettlement {C : Duty sig} {input : SettlePaymentOrderInput} {order : PaymentOrder}
    {Q : SettleResult → Ctx sig → Prop} {E : Err → Ctx sig → Prop} {c : Ctx sig}
    (hpend : c.pending = []) (hheld : Row.paymentOrder input.paymentOrderId ∈ c.held)
    (horder : c.db.paymentOrder? input.paymentOrderId = some order)
    (hpaid : order.paymentStatus = .paid)
    (hC : ∀ seen before ws, SettleDuty input seen before ws → C seen before ws)
    (hQ : ∀ a c', Q a c') :
    wp isolation C (replaySettlement input order) Q E c := by
  unfold replaySettlement
  rw [wp_bind]
  refine wp_markSettlementCallback (Good.fresh hpend) fun c₁ new hs₁ hg₁ hnew => ?_
  rw [wp_bind]
  refine wp_existingWriteOffs fun c₂ rows hs₂ => ?_
  have hs := hs₁.trans hs₂
  intro db hr
  have hp : c₂.pending = new := by rw [hs.pending, hpend]; simp
  have hrow := (hs.paymentOrder? hheld hr).trans horder
  refine ⟨hC _ _ _ ⟨hg₁.mono hs₂ db hr, .inl ⟨order, hrow, hpaid, ?_⟩⟩, hQ _ _⟩
  rw [hp]
  exact hnew

theorem wp_allocateSettlement {C : Duty sig} {input : SettlePaymentOrderInput}
    {order : PaymentOrder} {customerId orderId : Id} {Q : SettleResult → Ctx sig → Prop}
    {E : Err → Ctx sig → Prop} {c : Ctx sig} (hpend : c.pending = [])
    (hheld : Row.paymentOrder input.paymentOrderId ∈ c.held)
    (horder : c.db.paymentOrder? input.paymentOrderId = some order)
    (hpos : 0 < input.paidAmount) (hunpaid : order.paymentStatus ≠ .paid)
    (hopen : settleable input order = true) (hamount : input.paidAmount = order.amount)
    (hcust : order.customerId = some customerId) (hord : order.orderId = some orderId)
    (hC : ∀ seen before ws, SettleDuty input seen before ws → C seen before ws)
    (hE : ∀ e c', E e c') (hQ : ∀ a c', Q a c') :
    wp isolation C (allocateSettlement input order customerId orderId) Q E c := by
  have hid : order.id = input.paymentOrderId := Db.paymentOrder?_id horder
  unfold allocateSettlement
  simp only []
  rw [wp_bind]
  refine wp_lockReceivableBills fun c₁ hs₁ hbills => ?_
  have hp₁ := hs₁.pending_nil hpend
  rw [wp_bind]
  refine wp_findBills hp₁ hbills fun c₂ bills hs₂ htrack => ?_
  have hp₂ := hs₂.pending_nil hp₁
  rw [wp_bind]
  refine wp_closurePaymentBlockedBillIds hp₂ fun c₃ d₁ d₂ d₃ hs₃ h₁ h₂ h₃ => ?_
  have hp₃ := hs₃.pending_nil hp₂
  have hs₀ := (hs₁.trans hs₂).trans hs₃
  set blocked := blockedIn order.billIds d₁ d₂ d₃ with hblocked
  rw [wp_bind]
  refine wp_insertPaymentRecord (Good.fresh hp₃) (fun _ => rfl) (fun _ => hpos) (fun _ => rfl)
    (fun id db hr => .inr ⟨order, ?_, hcust, hord⟩) hE fun c₄ id hs₄ hg₄ hpheld hfresh => ?_
  · exact List.mem_of_find?_eq_some ((hs₀.paymentOrder? hheld hr).trans horder)
  set payment : PaymentRecord :=
    { id := id
      customerId := customerId
      orderId := orderId
      paymentAmount := input.paidAmount
      paymentMethod := paymentMethodForChannel order.paymentChannel
      paymentStatus := .confirmed
      receivedAt := input.paidAt
      deletedAt := none } with hpayment
  have hp₄ : c₄.pending = [.insertPayment payment] := by rw [hs₄.pending, hp₃, List.nil_append]
  have hview : (view c₄.pending c₄.db).payment? id = some payment := by
    rw [view_payment?, hfresh, hp₄]
    simp [Write.payment?, hpayment]
  have hloop : Allocating c₄ order.billIds ⟨payment.id, customerId, orderId⟩
      ⟨BillById.of bills, input.paidAmount, 0⟩ := by
    refine ⟨hg₄, ⟨fun b hb => hs₄.held _ (hs₃.held _ (htrack.held b hb)), ?_⟩,
      ⟨.inl hpheld, payment, hview, rfl, rfl, rfl, rfl⟩, hpos.le⟩
    intro b hb row hrow
    obtain ⟨hrow, hlive⟩ := htrack.rows b hb row hrow
    refine ⟨?_, hlive⟩
    rw [(hs₃.trans hs₄).bill? (htrack.held b hb), hrow]
    rfl
  rw [wp_bind]
  refine wp_settleItems hloop (fun item hitem => List.mem_map.mpr ⟨item, hitem, rfl⟩) hE
    fun c₅ st amount paid h₅ => ?_
  obtain ⟨hs₅, hnext, hbooked, halloc, havail⟩ := h₅
  have hattempts : ∀ db, (view c₅.pending db).debitAttempts = db.debitAttempts := by
    intro db
    rw [hs₅.pending, hp₄, view_append, (view_money hbooked.money _).2]
    rfl
  rw [wp_bind]
  refine wp_confirmSettledDebit hnext.good hattempts hE fun c₆ debit hs₆ hg₆ hdebit => ?_
  rw [wp_bind, wp_ask]
  intro now
  have hheld₆ : Row.paymentOrder order.id ∈ c₆.held := by
    rw [hid]
    exact hs₆.held _ (hs₅.held _ (hs₄.held _ (hs₀.held _ hheld)))
  rw [wp_bind, wp_exec]
  refine ⟨?_, ?_⟩
  · intro r hr
    rw [show r = Row.paymentOrder order.id by simpa [isolation, Write.touches] using hr]
    exact hheld₆
  have hg₇ := hg₆.other (w := .updatePaymentOrder order.id now (.settled payment.id input.paidAmount
    input.paidAt (input.providerTradeNo <|> order.providerTradeNo)
    (input.providerTransactionId <|> order.providerTransactionId) blocked)) trivial
  have hs₇ := Step.write c₆ [.updatePaymentOrder order.id now (.settled payment.id input.paidAmount
    input.paidAt (input.providerTradeNo <|> order.providerTradeNo)
    (input.providerTransactionId <|> order.providerTransactionId) blocked)]
  rw [wp_bind]
  refine wp_recordSettlementCallback hg₇ fun c₈ callback hs₈ hg₈ hcallback => ?_
  rw [wp_bind, wp_exec]
  refine ⟨fun r hr => absurd hr List.not_mem_nil, ?_⟩
  have hg₉ := hg₈.other (w := .insertSettlement ⟨order.id, payment.id, st.allocatedAmount,
    st.availableAmount⟩) trivial
  have hs₉ := Step.write c₈ [.insertSettlement ⟨order.id, payment.id, st.allocatedAmount,
    st.availableAmount⟩]
  have hs := (((((hs₀.trans hs₄).trans hs₅).trans hs₆).trans hs₇).trans hs₈).trans hs₉
  intro db hr
  refine ⟨hC _ _ _ ⟨hg₉ db hr, .inr ⟨order, payment, st.allocatedAmount, st.availableAmount, blocked,
    paid, ?_⟩⟩, hQ _ _⟩
  have hafter := (((hs₅.trans hs₆).trans hs₇).trans hs₈).trans hs₉
  have hseen := ((((hs₄.trans hs₅).trans hs₆).trans hs₇).trans hs₈).trans hs₉
  simp only [Int.zero_add] at halloc havail
  exact
    { order_eq := (hs.paymentOrder? hheld hr).trans horder
      unpaid := hunpaid
      settleable := hopen
      amount := hamount
      amount_pos := hpos
      blocked_eq := ⟨d₁, d₂, d₃, hseen.seen _ h₁, hseen.seen _ h₂, hseen.seen _ h₃, rfl⟩
      fresh := by
        have hrow := (hafter.rely.trans (hr.mono hafter.held)).2 _ hpheld
        exact hrow.symm.trans hfresh
      paymentAmount := rfl
      confirmed := rfl
      booked := halloc ▸ hbooked
      conserved := by omega
      unallocated_nonneg := hnext.available
      writes := by
        have hlater := (hs₇.trans hs₈).trans hs₉
        refine ⟨debit, callback, now, input.providerTradeNo <|> order.providerTradeNo,
          input.providerTransactionId <|> order.providerTransactionId,
          hdebit db (hlater.rely.trans (hr.mono hlater.held)), hcallback, ?_⟩
        rw [hs.pending, hpend]
        simp only [List.nil_append, List.append_assoc] }

theorem wp_settlePaymentOrder {C : Duty sig} {input : SettlePaymentOrderInput}
    {Q : SettleResult → Ctx sig → Prop} {E : Err → Ctx sig → Prop} {c : Ctx sig}
    (hpend : c.pending = [])
    (hC : ∀ seen before ws, SettleDuty input seen before ws → C seen before ws)
    (hE : ∀ e c', E e c') (hQ : ∀ a c', Q a c') :
    wp isolation C (settlePaymentOrder input) Q E c := by
  unfold settlePaymentOrder
  rw [wp_bind, wp_ensure]
  refine ⟨fun hpos => ?_, fun _ => hE _ _⟩
  rw [wp_bind]
  refine wp_lock fun c₁ hs₁ hheld => ?_
  have hp₁ := hs₁.pending_nil hpend
  rw [wp_bind]
  refine wp_read fun c₂ hs₂ _ => ?_
  have hp₂ := hs₂.pending_nil hp₁
  have hheld₂ := hs₂.held _ hheld
  rw [hp₁, view_nil]
  cases horder : c₂.db.paymentOrder? input.paymentOrderId with
  | none => exact hE _ _
  | some order =>
    simp only []
    by_cases hdel : order.deletedAt.isSome = true
    · rw [if_pos hdel]
      exact hE _ _
    · rw [if_neg hdel]
      by_cases hpaid : (order.paymentStatus == .paid) = true
      · rw [if_pos hpaid]
        exact wp_replaySettlement hp₂ hheld₂ horder (by simpa using hpaid) hC hQ
      · rw [if_neg hpaid]
        unfold settleOpenOrder
        rw [wp_bind, wp_ensure]
        refine ⟨fun hopen => ?_, fun _ => hE _ _⟩
        rw [wp_bind, wp_ensure]
        refine ⟨fun hamount => ?_, fun _ => hE _ _⟩
        cases hcust : order.customerId with
        | none => exact hE _ _
        | some customerId =>
          cases hord : order.orderId with
          | none => exact hE _ _
          | some orderId =>
            simp only []
            rw [wp_bind]
            refine wp_ensureTransactionFree hE fun c₃ hs₃ => ?_
            have horder₃ : c₃.db.paymentOrder? input.paymentOrderId = some order :=
              (hs₃.paymentOrder? hheld₂ (isolation.rely_refl _ _)).trans horder
            exact wp_allocateSettlement (hs₃.pending_nil hp₂) (hs₃.held _ hheld₂) horder₃
              (by simpa using hpos) (by simpa using hpaid) hopen (by simpa using hamount) hcust hord
              hC hE hQ

end SubscriptionSaas.Finance
