import SubscriptionSaas.Finance.Proofs.AllocationProofs
import SubscriptionSaas.Payment.Proofs.OrderProofs

/-!
# A payment order is settled once

However callbacks, refreshes, mock payments and debit results of an order cross each other: the order
lock decides which of them finds the order unpaid, and that one creates the payment record, splits its
amount over the bills and marks the order paid. A paid order is never touched again. What comes later
finds it paid and writes nothing but the callback's own log row.
-/

namespace SubscriptionSaas.Payment

open Transaction SubscriptionSaas.Finance

/-- The write marks the order as paid. -/
def settles (id : Id) : Write → Bool
  | .updatePaymentOrder id' _ (.settled _ _ _ _ _ _) => id' == id
  | _ => false

/-- The payment records a commit creates for the order. -/
def recordsFor (id : Id) (c : Commit sig PaymentCall) : List PaymentRecord :=
  if c.writes.any (settles id) then c.writes.filterMap Write.payment? else []

/-- The order is paid. -/
def Paid (id : Id) (db : Db) : Prop :=
  ∃ o, db.paymentOrder? id = some o ∧ o.paymentStatus = .paid

theorem settles_money {ws : List Write} (h : ∀ w ∈ ws, w.IsMoney) (id : Id) :
    ws.any (settles id) = false := by
  rw [List.any_eq_false]
  intro w hw
  have hmoney := h w hw
  cases w <;> first | exact Bool.false_ne_true | exact hmoney.elim

theorem settled_settles {input : SettlePaymentOrderInput} {seen : Seen} {before : Db}
    {ws : List Write} {order : PaymentOrder} {payment : PaymentRecord} {a u : Int}
    {blocked : List Id} {paid : List Write}
    (h : Settled input seen before ws order payment a u blocked paid) (id : Id) :
    ws.any (settles id) = true ↔ order.id = id := by
  obtain ⟨debit, callback, now, tradeNo, transactionId, hdebit, hcallback, rfl⟩ := h.writes
  have h₁ : debit.any (settles id) = false := by
    rcases hdebit with rfl | ⟨attempt, x, p, -, -, -, -, rfl⟩ <;> rfl
  have h₂ : callback.any (settles id) = false := by
    rcases hcallback with rfl | ⟨l, rfl⟩ | ⟨logId, -, rfl⟩ <;> rfl
  simp [settles_money h.booked.money id, h₁, h₂, settles]

/-- Only a settlement proper marks an order as paid, and only its own. -/
theorem Effect.settles {seen : Seen} {before : Db} {ws : List Write} (h : Effect seen before ws)
    {id : Id} (hs : ws.any (settles id) = true) :
    ∃ input order payment a u blocked paid, Moves seen before ws ∧ order.id = id ∧
      Settled input seen before ws order payment a u blocked paid := by
  cases h with
  | nothing => cases hs
  | @callback w hw => cases w <;> first | cases hs | exact hw.elim
  | settle input hduty =>
    obtain ⟨hmoves, ⟨order, -, -, rfl | ⟨logId, -, rfl⟩⟩ |
      ⟨order, payment, a, u, blocked, paid, hset⟩⟩ := hduty
    · cases hs
    · cases hs
    · exact ⟨input, order, payment, a, u, blocked, paid, hmoves, (settled_settles hset id).mp hs, hset⟩
  | close _ _ _ => cases hs
  | create _ _ _ => cases hs
  | refresh _ _ _ _ _ => cases hs
  | submit _ _ _ _ _ _ _ _ _ => cases hs
  | request _ _ _ => cases hs
  | @debit order attempt p q now _ _ _ _ _ _ hq _ =>
    cases q <;> first | cases hs | exact hq.elim
  | resubmit _ _ _ _ _ => cases hs

theorem PaymentCall.settles {call : PaymentCall} {seen : Seen} {before : Db} {ws : List Write}
    (h : call.duty seen before ws) {id : Id} (hs : ws.any (Payment.settles id) = true) :
    ∃ input order payment a u blocked paid, Moves seen before ws ∧ order.id = id ∧
      Settled input seen before ws order payment a u blocked paid := by
  rcases PaymentCall.duty_cases h with heffect | ⟨-, hmoney⟩ | ⟨facts, rfl⟩
  · exact heffect.settles hs
  · rw [settles_money hmoney] at hs
    cases hs
  · cases hs

/-! ## A paid order stays as it is -/

theorem OrderMove.paid {seen : Seen} {before : Db} {ws : List Write} {o o' : PaymentOrder}
    (h : OrderMove seen before ws o o') (hpaid : o.paymentStatus = .paid) : o' = o := by
  cases h with
  | same => rfl
  | closed hopen => rw [hpaid] at hopen; cases hopen
  | refreshed _ _ _ hunpaid hsame _ => exact absurd (hsame.symm.trans hpaid) hunpaid
  | debit _ _ _ hunpaid => exact absurd hpaid hunpaid
  | settled hopen _ _ _ _ _ =>
    simp [settleable, hpaid] at hopen

/-- The debit attempt after the write. -/
theorem debitAttempt?_update_ne {db : Db} {id : Id} {p : DebitAttemptPatch} {a : DebitAttempt}
    (ha : db.debitAttempt? a.id = some a) (hne : a.id ≠ id) :
    ((Write.updateDebitAttempt id p).apply db).debitAttempt? a.id = some a := by
  rw [debitAttempt?_update, ha, Option.map_some, if_neg (by simpa using hne)]

/-- The attempts of a paid order stay as they are. -/
theorem Effect.paid_attempt {seen : Seen} {before : Db} {ws : List Write}
    (h : Effect seen before ws) {id : Id} (hpaid : Paid id before) {a : DebitAttempt}
    (ha : before.debitAttempt? a.id = some a) (hof : a.paymentOrderId = id) :
    (view ws before).debitAttempt? a.id = some a := by
  obtain ⟨o, ho, hstatus⟩ := hpaid
  have hother : ∀ {order : PaymentOrder} {attempt : DebitAttempt},
      before.paymentOrder? order.id = some order → order.paymentStatus ≠ .paid →
      before.debitAttempt? attempt.id = some attempt → attempt.paymentOrderId = order.id →
      a.id ≠ attempt.id := by
    intro order attempt horder hunpaid hattempt hord heq
    rw [heq, hattempt] at ha
    rw [Option.some.inj ha, hof] at hord
    rw [← hord, ho] at horder
    exact hunpaid (Option.some.inj horder ▸ hstatus)
  have hsame : ∀ {db : Db}, db.debitAttempts = before.debitAttempts → db.debitAttempt? a.id = some a := by
    intro db heq
    unfold Db.debitAttempt?
    rw [heq]
    exact ha
  cases h with
  | nothing => exact ha
  | @callback w hw => cases w <;> first | exact ha | exact hw.elim
  | settle input hduty =>
    obtain ⟨-, ⟨order, -, -, rfl | ⟨logId, -, rfl⟩⟩ |
      ⟨order, payment, x, u, blocked, paid, hset⟩⟩ := hduty
    · exact ha
    · exact ha
    obtain ⟨debit, callback, now, tradeNo, transactionId, hdebit, hcallback, rfl⟩ := hset.writes
    rw [view_append, view_append, view_append, view_append]
    have h₁ := hsame (view_money hset.money before).2
    have h₂ : (view debit (view ([.insertPayment payment] ++ paid) before)).debitAttempt? a.id =
        some a := by
      rcases hdebit with rfl | ⟨attempt, y, p, -, hy, hord, -, rfl⟩
      · exact h₁
      · have hyid := Db.debitAttempt?_id hy
        rw [← hyid] at hy ⊢
        have horder := hset.order_eq
        rw [← Db.paymentOrder?_id horder] at horder
        exact debitAttempt?_update_ne h₁ (hother horder hset.unpaid hy hord)
    rcases hcallback with rfl | ⟨l, rfl⟩ | ⟨logId, -, rfl⟩ <;> exact h₂
  | close _ _ _ => exact ha
  | create _ _ _ => exact ha
  | refresh _ _ _ _ _ => exact ha
  | @submit order attempt snap _ hnew _ _ _ _ _ _ _ =>
    show (before.debitAttempts ++ [attempt]).find? (·.id == a.id) = some a
    rw [List.find?_append, show before.debitAttempts.find? _ = some a from ha, Option.some_or]
  | request _ _ _ => exact ha
  | debit horder hattempt hord _ hunpaid _ _ _ =>
    exact debitAttempt?_update_ne ha (hother horder hunpaid hattempt hord)
  | resubmit horder hattempt hord _ hunpaid =>
    exact debitAttempt?_update_ne ha (hother horder hunpaid hattempt hord)

/-- An effect that settles nothing leaves bills, payments and deposits alone. -/
theorem Effect.unsettled {seen : Seen} {before : Db} {ws : List Write} (h : Effect seen before ws)
    (hs : ∀ id, ws.any (Payment.settles id) = false) :
    (view ws before).bills = before.bills ∧ (view ws before).payments = before.payments ∧
      (view ws before).writeOffs = before.writeOffs ∧ (view ws before).ledger = before.ledger ∧
      (view ws before).settlements = before.settlements := by
  cases h with
  | @callback w hw => cases w <;> first | exact ⟨rfl, rfl, rfl, rfl, rfl⟩ | exact hw.elim
  | settle input hduty =>
    obtain ⟨-, ⟨order, -, -, rfl | ⟨logId, -, rfl⟩⟩ |
      ⟨order, payment, x, u, blocked, paid, hset⟩⟩ := hduty
    · exact ⟨rfl, rfl, rfl, rfl, rfl⟩
    · exact ⟨rfl, rfl, rfl, rfl, rfl⟩
    · have hsettles := (settled_settles hset order.id).mpr rfl
      rw [hs order.id] at hsettles
      cases hsettles
  | _ => exact ⟨rfl, rfl, rfl, rfl, rfl⟩

theorem billsOk_of_tables {db db' : Db} (h : BillsOk db) (hb : db'.bills = db.bills)
    (hw : db'.writeOffs = db.writeOffs) (hl : db'.ledger = db.ledger) : BillsOk db' := by
  refine h.congr (fun id => ?_) (fun id => ?_) fun id => ?_
  · rw [Db.bill?, Db.bill?, hb]
  · rw [Db.billWriteOffs, Db.billWriteOffs, hw]
  · rw [Db.deducted, Db.deducted, Db.billLedger, Db.billLedger, hl]

theorem BillsOk.commit {call : PaymentCall} {seen : Seen} {before : Db} {ws : List Write}
    (hok : BillsOk before) (h : call.duty seen before ws) : BillsOk (view ws before) := by
  rcases PaymentCall.duty_cases h with heffect | ⟨hmoves, -⟩ | ⟨facts, rfl⟩
  · by_cases hs : ∃ id, ws.any (Payment.settles id) = true
    · obtain ⟨id, hs⟩ := hs
      obtain ⟨input, order, payment, a, u, blocked, paid, hmoves, -⟩ := heffect.settles hs
      exact hmoves.billsOk hok
    · have hnone : ∀ id, ws.any (Payment.settles id) = false := fun id =>
        Bool.eq_false_iff.mpr fun hc => hs ⟨id, hc⟩
      obtain ⟨hb, -, hw, hl, -⟩ := heffect.unsettled hnone
      exact billsOk_of_tables hok hb hw hl
  · exact hmoves.billsOk hok
  · exact billsOk_of_tables hok rfl rfl rfl

/-! ## What a settlement does -/

/-- What the commit that creates the payment record `p` for the order does. The bills are those of
the database it commits to, which are those it has locked. -/
structure Conserves (id : Id) (c : Commit sig PaymentCall) (p : PaymentRecord) : Prop where
  /-- The order was not paid, and is paid now, by this record and with its amount. -/
  order : ∃ o o', c.before.paymentOrder? id = some o ∧ o.paymentStatus ≠ .paid ∧
    p.paymentAmount = o.amount ∧ c.after.paymentOrder? id = some o' ∧ o'.paymentStatus = .paid ∧
    o'.paidAmount = p.paymentAmount ∧ o'.paymentRecordId = some p.id
  /-- What the bills get and what is left add up to the amount. -/
  conserved : ∃ unallocated, 0 ≤ unallocated ∧
    sumWriteOffAmount (c.writes.filterMap Write.writeOff?) + unallocated = p.paymentAmount ∧
    Write.insertSettlement ⟨id, p.id, sumWriteOffAmount (c.writes.filterMap Write.writeOff?),
      unallocated⟩ ∈ c.writes
  onPayment : ∀ w ∈ c.writes.filterMap Write.writeOff?, w.paymentId = p.id ∧ w.deletedAt = none
  withinRemaining : ∀ b, c.before.bill? b.id = some b →
    sumWriteOffAmount (receivedBy c.writes b.id) ≤ b.remainingAmount
  cancelled : ∀ b, c.before.bill? b.id = some b → b.billStatus = .cancelled →
    c.after.bill? b.id = some b ∧ ReceivesNothing c.writes b.id
  /-- A bill that a closure blocks, as the settlement reads it, gets nothing. -/
  blocked : ∃ o d₁ d₂ d₃, c.before.paymentOrder? id = some o ∧ (Tag.closureDisputes, d₁) ∈ c.seen ∧
    (Tag.closureLegalCases, d₂) ∈ c.seen ∧ (Tag.closureDispositions, d₃) ∈ c.seen ∧
    ∀ billId ∈ blockedIn o.billIds d₁ d₂ d₃, ReceivesNothing c.writes billId
  collectedOnce : ∀ billId, ((ledgerOf c.writes billId).filter isCollect).length ≤ 1

theorem commit_conserves {c : Commit sig PaymentCall} (hc : CommitOk PaymentCall.duty c)
    (hok : BillsOk c.before) {id : Id} (hs : c.writes.any (Payment.settles id) = true) :
    ∃ p, recordsFor id c = [p] ∧ Conserves id c p := by
  obtain ⟨hduty, hafter⟩ := hc
  obtain ⟨input, order, payment, a, u, blocked, paid, hmoves, hid, hset⟩ :=
    PaymentCall.settles hduty hs
  obtain ⟨hpays, hoffs, hledger⟩ := hset.tables
  have horder : c.before.paymentOrder? id = some order := by
    have h := hset.order_eq
    rw [← Db.paymentOrder?_id h, hid] at h
    exact h
  have hsum : sumWriteOffAmount (c.writes.filterMap Write.writeOff?) = a := by
    rw [hoffs]
    exact hset.booked.sum
  have hcollect : ∀ l ∈ c.writes.filterMap Write.ledger?, l.transactionType = .collect := by
    intro l hl
    rw [hledger] at hl
    exact (hset.booked.ledger l hl).1
  refine ⟨payment, ?_, ?_⟩
  · rw [recordsFor, if_pos hs]
    exact hpays
  exact
    { order := by
        obtain ⟨now, tradeNo, transactionId, hpatch⟩ := settled_patchOrders hset order
        rcases patchOrder_update order order.id now (.settled payment.id input.paidAmount
          input.paidAt tradeNo transactionId blocked) with ⟨-, hne⟩ | ⟨heq, -⟩
        · exact absurd rfl hne
        · refine ⟨order, _, horder, hset.unpaid, hset.paymentAmount.trans hset.amount,
            by rw [hafter]; exact view_paymentOrder? c.writes horder, ?_⟩
          rw [hpatch, heq]
          exact ⟨rfl, hset.paymentAmount.symm, rfl⟩
      conserved := by
        obtain ⟨debit, callback, now, tradeNo, transactionId, -, -, hws⟩ := hset.writes
        refine ⟨u, hset.unallocated_nonneg, ?_, ?_⟩
        · rw [hsum, hset.paymentAmount]
          exact hset.conserved
        · rw [hsum, ← hid, hws]
          simp
      onPayment := by
        intro w hw
        rw [hoffs] at hw
        exact ⟨(hset.booked.writeOff w hw).1, (hset.booked.writeOff w hw).2.1⟩
      withinRemaining := fun b hb => hmoves.within_remaining hok hcollect hb
      cancelled := by
        intro b hb hcancelled
        obtain ⟨hsame, hnothing⟩ := hmoves.cancelled hb hcancelled
        refine ⟨?_, hnothing⟩
        rw [hafter]
        show (view c.writes c.before).bill? b.id = some b
        rw [view_bill?, hb, Option.map_some, hsame]
      blocked := by
        obtain ⟨d₁, d₂, d₃, h₁, h₂, h₃, rfl⟩ := hset.blocked_eq
        refine ⟨order, d₁, d₂, d₃, horder, h₁, h₂, h₃, fun billId hblocked => ⟨fun w hw heq => ?_,
          fun l hl heq => ?_⟩⟩
        · rw [hoffs] at hw
          have hfree := (List.mem_filter.mp (hset.booked.writeOff w hw).2.2).2
          rw [heq] at hfree
          simp [hblocked] at hfree
        · rw [hledger] at hl
          obtain ⟨-, -, billId', hmem, heq'⟩ := hset.booked.ledger l hl
          have hfree := (List.mem_filter.mp hmem).2
          rw [heq] at heq'
          rw [← Option.some.inj heq'] at hfree
          simp [hblocked] at hfree
      collectedOnce := fun billId => (hmoves.collected_once billId).1 }

/-- The services that a provider's reports about payments run through. -/
def PaymentCall.ofProvider : PaymentCall → Bool
  | .finance (.settlePaymentOrder _) => true
  | .finance _ | .closure _ => false
  | _ => true

/-- The calls that do nothing but record a callback and settle. -/
def PaymentCall.settlesOnly : PaymentCall → Bool
  | .callback _ | .mockPay _ _ | .finance (.settlePaymentOrder _) => true
  | _ => false

/-- What a commit leaves alone when the order is paid: the order, its debit attempts, and, if it comes
from a provider's report and settles no other order, all money. A replayed settlement writes at most
one callback log row. -/
structure Replays (id : Id) (c : Commit sig PaymentCall) : Prop where
  noRecord : recordsFor id c = []
  order : c.after.paymentOrder? id = c.before.paymentOrder? id
  attempts : ∀ a, c.before.debitAttempt? a.id = some a → a.paymentOrderId = id →
    c.after.debitAttempt? a.id = some a
  money : c.call.ofProvider = true → (∀ id', c.writes.any (Payment.settles id') = false) →
    c.after.bills = c.before.bills ∧ c.after.payments = c.before.payments ∧
      c.after.writeOffs = c.before.writeOffs ∧ c.after.ledger = c.before.ledger ∧
      c.after.settlements = c.before.settlements
  callback : c.call.settlesOnly = true → (∀ id', c.writes.any (Payment.settles id') = false) →
    c.writes = [] ∨ ∃ w, c.writes = [w] ∧ IsCallback w

theorem PaymentCall.ofProvider_effect {call : PaymentCall} (hcall : call.ofProvider = true)
    {seen : Seen} {before : Db} {ws : List Write} (h : call.duty seen before ws) :
    Effect seen before ws := by
  cases call with
  | mockPay id customerId => exact Settling.effect h
  | callback provider => exact Settling.effect h
  | finance call =>
    cases call with
    | settlePaymentOrder input => exact .settle input h
    | _ => cases hcall
  | closure facts => cases hcall
  | _ => exact h

theorem PaymentCall.settlesOnly_settling {call : PaymentCall} (hcall : call.settlesOnly = true)
    {seen : Seen} {before : Db} {ws : List Write} (h : call.duty seen before ws) :
    Settling seen before ws := by
  cases call with
  | mockPay id customerId => exact h
  | callback provider => exact h
  | finance call =>
    cases call with
    | settlePaymentOrder input => exact .settle input h
    | _ => cases hcall
  | _ => cases hcall

theorem commit_replays {c : Commit sig PaymentCall} (hc : CommitOk PaymentCall.duty c) {id : Id}
    (hpaid : Paid id c.before) : Replays id c := by
  obtain ⟨hduty, hafter⟩ := hc
  obtain ⟨o, ho, hstatus⟩ := hpaid
  have hnot : c.writes.any (Payment.settles id) = false := by
    refine Bool.eq_false_iff.mpr fun hs => ?_
    obtain ⟨input, order, payment, a, u, blocked, paid, -, hid, hset⟩ :=
      PaymentCall.settles hduty hs
    have h := hset.order_eq
    rw [← Db.paymentOrder?_id h, hid, ho] at h
    exact hset.unpaid (Option.some.inj h ▸ hstatus)
  exact
    { noRecord := by rw [recordsFor, hnot]; rfl
      order := by
        rw [hafter, ho]
        show (view c.writes c.before).paymentOrder? id = some o
        rw [view_paymentOrder? c.writes ho, (PaymentCall.orderMove hduty ho).paid hstatus]
      attempts := fun a ha hof => by
        rw [hafter]
        rcases PaymentCall.duty_cases hduty with heffect | ⟨-, hmoney⟩ | ⟨facts, hws⟩
        · exact heffect.paid_attempt ⟨o, ho, hstatus⟩ ha hof
        · show (view c.writes c.before).debitAttempt? a.id = some a
          unfold Db.debitAttempt?
          rw [(view_money hmoney c.before).2]
          exact ha
        · rw [hws]
          exact ha
      money := fun hcall hnone => by
        rw [hafter]
        exact (PaymentCall.ofProvider_effect hcall hduty).unsettled hnone
      callback := fun hcall hnone => by
        have hsettling := PaymentCall.settlesOnly_settling hcall hduty
        generalize c.writes = ws at hsettling hnone
        cases hsettling with
        | nothing => exact .inl rfl
        | callback hw => exact .inr ⟨_, rfl, hw⟩
        | settle input hset =>
          obtain ⟨-, ⟨order, -, -, rfl | ⟨logId, -, rfl⟩⟩ |
            ⟨order, payment, a, u, blocked, paid, hset⟩⟩ := hset
          · exact .inl rfl
          · exact .inr ⟨_, rfl, trivial⟩
          · have hsettles := (settled_settles hset order.id).mpr rfl
            rw [hnone order.id] at hsettles
            cases hsettles }

/-- In every run a payment order gets at most one payment record; the commit that creates it conserves
the money; and once the order is paid, nothing that a provider reports about it changes a row other
than that of a callback log. -/
theorem settled_exactly_once (config : PaymentRuntimeConfig) {db₀ : Db} (h₀ : BillsOk db₀)
    (evs : List (Event sig PaymentCall)) (id : Id) :
    ((paymentRun config db₀ evs).history.flatMap (recordsFor id)).length ≤ 1 ∧
      (∀ c ∈ (paymentRun config db₀ evs).history, ∀ p ∈ recordsFor id c, Conserves id c p) ∧
      ∀ c ∈ (paymentRun config db₀ evs).history, Paid id c.before → Replays id c := by
  have hok := wp_history (wp_paymentBody config) db₀ evs
  have hbills : ∀ c ∈ (paymentRun config db₀ evs).history, BillsOk c.before :=
    hok.chain.before h₀ fun c hc h => (hok.commit c hc).2 ▸ BillsOk.commit h (hok.commit c hc).1
  have hreplay : ∀ c ∈ (paymentRun config db₀ evs).history, Paid id c.before → Replays id c :=
    fun c hc => commit_replays (hok.commit c hc)
  refine ⟨?_, fun c hc p hp => ?_, hreplay⟩
  · refine (hok.chain.once (A := Paid id) (fun c hc hpaid => ?_) fun c hc => ?_).1
    · have hrep := hreplay c hc hpaid
      obtain ⟨o, ho, hstatus⟩ := hpaid
      exact ⟨⟨o, hrep.order.trans ho, hstatus⟩, hrep.noRecord⟩
    · by_cases hs : c.writes.any (settles id) = true
      · obtain ⟨p, hrec, hcons⟩ := commit_conserves (hok.commit c hc) (hbills c hc) hs
        obtain ⟨o, o', -, -, -, hafter, hstatus, -⟩ := hcons.order
        exact .inr ⟨by rw [hrec]; rfl, o', hafter, hstatus⟩
      · exact .inl (by rw [recordsFor, if_neg hs])
  · by_cases hs : c.writes.any (settles id) = true
    · obtain ⟨p', hrec, hcons⟩ := commit_conserves (hok.commit c hc) (hbills c hc) hs
      rw [hrec, List.mem_singleton] at hp
      exact hp ▸ hcons
    · rw [recordsFor, if_neg hs] at hp
      cases hp

/-! The provider calls back twice for the order of one bill. -/

theorem rentDb_billsOk : BillsOk rentDb := (Consistent.of_check (by decide)).bills

/-- The first callback settles the order; the second one is about to be handled. -/
def paidOnce : List (Event sig PaymentCall) :=
  createdOrder ++ [.begin (.callback .mock)] ++ portalSteps 1 60 20 7 ++
    [.begin (.callback .mock)] ++ portalSteps 2 12 30 8

/-- The status of the order, the number of payments, and whether log row 8 is handled. -/
def callbackState (evs : List (Event sig PaymentCall)) :
    Option PaymentOrderStatus × Nat × Option Bool :=
  let db := (paymentRun mockConfig rentDb evs).db
  ((db.paymentOrder? 1).map (·.paymentStatus), db.payments.length,
    (db.callbackLog? 8).map (·.handled))

/-- The second callback comes after success and changes its own log row. -/
theorem replay_marks_callback :
    BillsOk rentDb ∧ callbackState paidOnce = (some .paid, 1, some false) ∧
      callbackState (paidOnce ++ portalSteps 2 20 30 8) = (some .paid, 1, some true) :=
  ⟨rentDb_billsOk, by decide +kernel, by decide +kernel⟩

theorem settled_exactly_once_callbacks :
    ((paymentRun mockConfig rentDb (paidOnce ++ portalSteps 2 20 30 8)).history.flatMap
        (recordsFor 1)).length = 1 ∧
      ∀ c ∈ (paymentRun mockConfig rentDb (paidOnce ++ portalSteps 2 20 30 8)).history,
        ∀ p ∈ recordsFor 1 c, Conserves 1 c p := by
  obtain ⟨-, hcons, -⟩ :=
    settled_exactly_once mockConfig rentDb_billsOk (paidOnce ++ portalSteps 2 20 30 8) 1
  exact ⟨by decide +kernel, hcons⟩

end SubscriptionSaas.Payment
