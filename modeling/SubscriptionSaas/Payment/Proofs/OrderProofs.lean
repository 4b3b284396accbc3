import SubscriptionSaas.Payment.Proofs.DebitProofs

/-!
# Payment orders leave the payable state for good

What a commit can do to a payment order that exists is listed in `OrderMove`. An order that is no
longer payable is neither closed nor refreshed nor touched by a debit, for different reasons: closing
looks at the order under its lock, a debit is unresolved only as long as its order is open
(`OrdersOk`), and a refresh writes on an order that has the status it was read with. The last reason
alone is not enough, because a refresh reads the order again after the caller has checked it and
then leaves only a paid order alone.
-/

namespace SubscriptionSaas.Payment

open Transaction SubscriptionSaas.Finance

/-- A run of the payment services from `db₀`. -/
abbrev paymentRun (config : PaymentRuntimeConfig) (db₀ : Db) (evs : List (Event sig PaymentCall)) :
    Machine sig PaymentCall :=
  (Machine.init db₀).runs (paymentBody config) evs

/-! ## What a commit does to an order -/

/-- The order a provider's answer is written on. -/
def refreshedOrder? : Write → Option Id
  | .updatePaymentOrder id _ (.refreshed _ _ _ _) => some id
  | _ => none

/-- What a commit of the writes `ws` can do to the payment order `o`. -/
inductive OrderMove (seen : Seen) (before : Db) (ws : List Write) (o : PaymentOrder) :
    PaymentOrder → Prop
  | same : OrderMove seen before ws o o
  | closed {o' : PaymentOrder} (hopen : payable o.paymentStatus = true) :
      OrderMove seen before ws o o'
  | refreshed {o' read : PaymentOrder} {snap : Db}
      (hwrite : o.id ∈ ws.filterMap refreshedOrder?) (hsnap : (.refreshOrder, snap) ∈ seen)
      (hread : snap.paymentOrder? o.id = some read) (hunpaid : read.paymentStatus ≠ .paid)
      (hsame : o.paymentStatus = read.paymentStatus) (hpending : o'.paymentStatus = .pending) :
      OrderMove seen before ws o o'
  | debit {o' : PaymentOrder} {attempt : DebitAttempt}
      (hattempt : before.debitAttempt? attempt.id = some attempt)
      (hof : attempt.paymentOrderId = o.id) (hopen : unresolved attempt.status = true)
      (hunpaid : o.paymentStatus ≠ .paid) : OrderMove seen before ws o o'
  | settled {o' : PaymentOrder} {input : SettlePaymentOrderInput} {p : PaymentRecord}
      (hopen : settleable input o = true) (hpaid : o'.paymentStatus = .paid)
      (hp : (view ws before).payment? p.id = some p) (hrecord : o'.paymentRecordId = some p.id)
      (hamount : o'.paidAmount = p.paymentAmount) (hconfirmed : p.paymentStatus = .confirmed) :
      OrderMove seen before ws o o'

/-- An update of one order, as the order sees it. -/
theorem patchOrder_update (o : PaymentOrder) (id : Id) (now : Instant) (p : PaymentOrderPatch) :
    (Write.updatePaymentOrder id now p).patchOrder o = o ∧ o.id ≠ id ∨
      (Write.updatePaymentOrder id now p).patchOrder o = p.apply now o ∧ o.id = id := by
  by_cases hid : o.id = id
  · exact .inr ⟨by simp [Write.patchOrder, hid], hid⟩
  · exact .inl ⟨by simp [Write.patchOrder, hid], hid⟩

/-- A settlement patches its own order and no other. -/
theorem settled_patchOrders {input : SettlePaymentOrderInput} {seen : Seen} {before : Db}
    {ws : List Write} {order : PaymentOrder} {payment : PaymentRecord} {a u : Int}
    {blocked : List Id} {paid : List Write}
    (h : Settled input seen before ws order payment a u blocked paid) (o : PaymentOrder) :
    ∃ now tradeNo transactionId, patchOrders ws o = (Write.updatePaymentOrder order.id now
      (.settled payment.id input.paidAmount input.paidAt tradeNo transactionId blocked)).patchOrder
        o := by
  obtain ⟨debit, callback, now, tradeNo, transactionId, hdebit, hcallback, hws⟩ := h.writes
  have h₁ : patchOrders ([.insertPayment payment] ++ paid) o = o :=
    patchOrders_eq fun w hw => Write.IsMoney.patchOrder (h.money w hw) o
  have h₂ : ∀ o, patchOrders debit o = o := by
    rcases hdebit with rfl | ⟨attempt, x, p, -, -, -, -, rfl⟩ <;> exact fun _ => rfl
  have h₃ : ∀ o, patchOrders callback o = o := by
    rcases hcallback with rfl | ⟨l, rfl⟩ | ⟨logId, -, rfl⟩ <;> exact fun _ => rfl
  refine ⟨now, tradeNo, transactionId, ?_⟩
  rw [hws, patchOrders_append, h₁, patchOrders_append, patchOrders_append, patchOrders_append, h₂, h₃]
  rfl

theorem SettleDuty.orderMove {input : SettlePaymentOrderInput} {seen : Seen} {before : Db}
    {ws : List Write} (h : SettleDuty input seen before ws) {id : Id} {o : PaymentOrder}
    (ho : before.paymentOrder? id = some o) : OrderMove seen before ws o (patchOrders ws o) := by
  rcases h.2 with ⟨order, -, -, rfl | ⟨logId, -, rfl⟩⟩ | ⟨order, payment, a, u, blocked, paid, hset⟩
  · exact .same
  · exact .same
  obtain ⟨now, tradeNo, transactionId, hpatch⟩ := settled_patchOrders hset o
  rcases patchOrder_update o order.id now (.settled payment.id input.paidAmount input.paidAt tradeNo
    transactionId blocked) with ⟨heq, -⟩ | ⟨heq, hid⟩
  · rw [hpatch, heq]
    exact .same
  · rw [hpatch, heq]
    have horder : o = order := by
      rw [Db.paymentOrder?_id hset.order_eq, Db.paymentOrder?_id ho] at hid
      rw [hid, hset.order_eq] at ho
      exact (Option.some.inj ho).symm
    refine .settled (p := payment) (horder ▸ hset.settleable) rfl ?_ rfl hset.paymentAmount.symm
      hset.confirmed
    rw [view_payment?, hset.fresh, hset.tables.1]
    simp

/-- The move of each effect. -/
theorem Effect.orderMove {seen : Seen} {before : Db} {ws : List Write}
    (h : Effect seen before ws) {id : Id} {o : PaymentOrder} (ho : before.paymentOrder? id = some o) :
    OrderMove seen before ws o (patchOrders ws o) := by
  have hoid := Db.paymentOrder?_id ho
  have hfound : ∀ {order : PaymentOrder}, before.paymentOrder? order.id = some order →
      o.id = order.id → o = order := by
    intro order horder hid
    rw [← hid, hoid, ho] at horder
    exact Option.some.inj horder
  cases h with
  | nothing => exact .same
  | @callback w hw => cases w <;> first | exact .same | exact hw.elim
  | settle input hduty => exact SettleDuty.orderMove hduty ho
  | @close order now closedAt horder hopen _ =>
    rw [patchOrders_cons, patchOrders_nil]
    rcases patchOrder_update o order.id now (.closed closedAt) with ⟨heq, -⟩ | ⟨heq, hid⟩
    · rw [heq]
      exact .same
    · exact .closed (hfound horder hid ▸ hopen)
  | create hfresh _ _ => exact .same
  | @refresh order current snap now url expires prepayId tradeNo hsnap hread hunpaid hcur hstatus =>
    rw [patchOrders_cons, patchOrders_nil]
    rcases patchOrder_update o order.id now (.refreshed url expires prepayId tradeNo) with
      ⟨heq, -⟩ | ⟨heq, hid⟩
    · rw [heq]
      exact .same
    · rw [heq]
      rw [← hid, hoid, ho] at hcur
      rw [← hid] at hread
      exact .refreshed (by simp [refreshedOrder?, hid]) hsnap hread hunpaid (Option.some.inj hcur ▸ hstatus) rfl
  | submit hfresh hnew _ _ _ _ _ _ _ => exact .same
  | request _ _ _ => exact .same
  | @debit order attempt p q now horder hattempt hof hopen hunpaid _ _ _ =>
    rw [patchOrders_cons, patchOrders_cons, patchOrders_nil]
    show OrderMove seen before _ o ((Write.updatePaymentOrder order.id now q).patchOrder o)
    rcases patchOrder_update o order.id now q with ⟨heq, -⟩ | ⟨heq, hid⟩
    · rw [heq]
      exact .same
    · exact .debit hattempt (hof.trans hid.symm) hopen (hfound horder hid ▸ hunpaid)
  | resubmit _ _ _ _ _ => exact .same

theorem PaymentCall.orderMove {call : PaymentCall} {seen : Seen} {before : Db} {ws : List Write}
    (h : call.duty seen before ws) {id : Id} {o : PaymentOrder}
    (ho : before.paymentOrder? id = some o) : OrderMove seen before ws o (patchOrders ws o) := by
  rcases PaymentCall.duty_cases h with heffect | ⟨-, hmoney⟩ | ⟨facts, rfl⟩
  · exact heffect.orderMove ho
  · rw [patchOrders_eq fun w hw => Write.IsMoney.patchOrder (hmoney w hw) o]
    exact .same
  · exact .same

/-! ## Orders and their debit attempts -/

/-- Still payable, or paid. -/
def Live (status : PaymentOrderStatus) : Prop := payable status = true ∨ status = .paid

/-- Order ids are unique, an order and its debit attempt name each other, and the order of an
unresolved attempt is open or paid. -/
structure OrdersOk (db : Db) : Prop where
  ids : (db.paymentOrders.map (·.id)).Nodup
  attempt : ∀ id a, db.debitAttempt? id = some a → ∃ o, db.paymentOrder? a.paymentOrderId = some o ∧
    o.debitAttempt = some id ∧ (unresolved a.status = true → Live o.paymentStatus)

theorem OrdersOk.congr {db db' : Db} (h : OrdersOk db)
    (ho : db'.paymentOrders = db.paymentOrders) (ha : db'.debitAttempts = db.debitAttempts) :
    OrdersOk db' where
  ids := by rw [ho]; exact h.ids
  attempt id a hfind := by
    unfold Db.paymentOrder?
    unfold Db.debitAttempt? at hfind
    rw [ho]
    rw [ha] at hfind
    exact h.attempt id a hfind

/-- The order of the portal has no debit attempt, nor has any other row with its id. -/
theorem OrdersOk.portal {db : Db} (h : OrdersOk db) {id : Id} {o : PaymentOrder}
    (hp : Portal db id) (ho : db.paymentOrder? id = some o) : o.debitAttempt = none := by
  obtain ⟨order, hmem, rfl, hnone⟩ := hp
  have hfind : db.paymentOrder? order.id = some order := find?_of_nodup h.ids hmem
  rw [ho] at hfind
  rw [Option.some.inj hfind]
  exact hnone

theorem OrdersOk.updateOrder {db : Db} (h : OrdersOk db) (id : Id) (now : Instant)
    (p : PaymentOrderPatch)
    (hlive : ∀ o attemptId a, db.paymentOrder? id = some o → o.debitAttempt = some attemptId →
      db.debitAttempt? attemptId = some a → unresolved a.status = true →
      Live (p.apply now o).paymentStatus) :
    OrdersOk ((Write.updatePaymentOrder id now p).apply db) where
  ids := by
    have hkeys : ((Write.updatePaymentOrder id now p).apply db).paymentOrders.map (·.id) =
        db.paymentOrders.map (·.id) := by
      show (updateWhere _ _ db.paymentOrders).map _ = _
      unfold updateWhere
      rw [List.map_map]
      refine List.map_congr_left fun o _ => ?_
      show (if o.id == id then p.apply now o else o).id = o.id
      split <;> simp
    rw [hkeys]
    exact h.ids
  attempt attemptId a ha := by
    obtain ⟨o, ho, hback, hopen⟩ := h.attempt attemptId a ha
    refine ⟨_, apply_paymentOrder? _ ho, ?_⟩
    rcases patchOrder_update o id now p with ⟨heq, -⟩ | ⟨heq, hid⟩
    · rw [heq]
      exact ⟨hback, hopen⟩
    · rw [heq]
      refine ⟨by simpa using hback, fun hun => ?_⟩
      have hoid := Db.paymentOrder?_id ho
      rw [← hoid, hid] at ho
      exact hlive o attemptId a ho hback ha hun

theorem OrdersOk.updateAttempt {db : Db} (h : OrdersOk db) (id : Id) (p : DebitAttemptPatch)
    (hlive : ∀ a o, db.debitAttempt? id = some a → db.paymentOrder? a.paymentOrderId = some o →
      unresolved p.status = true → Live o.paymentStatus) :
    OrdersOk ((Write.updateDebitAttempt id p).apply db) where
  ids := h.ids
  attempt attemptId a' ha' := by
    rw [debitAttempt?_update] at ha'
    obtain ⟨a, ha, rfl⟩ := Option.map_eq_some_iff.mp ha'
    obtain ⟨o, ho, hback, hopen⟩ := h.attempt attemptId a ha
    by_cases hid : a.id = id
    · rw [if_pos (by simpa using hid), DebitAttemptPatch.apply_paymentOrderId]
      refine ⟨o, ho, hback, fun hun => ?_⟩
      rw [DebitAttemptPatch.apply_status] at hun
      have haid := Db.debitAttempt?_id ha
      rw [← haid, hid] at ha
      exact hlive a o ha ho hun
    · rw [if_neg (by simpa using hid)]
      exact ⟨o, ho, hback, hopen⟩

theorem OrdersOk.insertOrder {db : Db} (h : OrdersOk db) {order : PaymentOrder}
    (hfresh : db.paymentOrder? order.id = none) :
    OrdersOk ((Write.insertPaymentOrder order).apply db) where
  ids := by
    show ((db.paymentOrders ++ [order]).map (·.id)).Nodup
    rw [List.map_append, List.nodup_append]
    refine ⟨h.ids, by simp, fun id hid id' hid' hc => ?_⟩
    obtain ⟨o, ho, rfl⟩ := List.mem_map.mp hid
    rw [List.map_singleton, List.mem_singleton] at hid'
    have := List.find?_eq_none.mp hfresh o ho
    simp [hc, hid'] at this
  attempt id a ha := by
    obtain ⟨o, ho, hback, hopen⟩ := h.attempt id a ha
    exact ⟨o, apply_paymentOrder? (.insertPaymentOrder order) ho, hback, hopen⟩

theorem OrdersOk.insertAttempt {db : Db} (h : OrdersOk db) {attempt : DebitAttempt}
    {order : PaymentOrder} (horder : db.paymentOrder? attempt.paymentOrderId = some order)
    (hback : order.debitAttempt = some attempt.id) (hlive : Live order.paymentStatus) :
    OrdersOk ((Write.insertDebitAttempt attempt).apply db) where
  ids := h.ids
  attempt id a ha := by
    have hfind : (db.debitAttempts ++ [attempt]).find? (·.id == id) = some a := ha
    rw [List.find?_append, Option.or_eq_some_iff] at hfind
    rcases hfind with hold | ⟨-, hnew⟩
    · exact h.attempt id a hold
    · have heq : a = attempt := by simpa using List.mem_of_find?_eq_some hnew
      have hid : attempt.id = id := heq ▸ Db.debitAttempt?_id ha
      exact ⟨order, heq.symm ▸ horder, hid ▸ hback, fun _ => hlive⟩

/-- A settlement keeps orders and attempts in step: its attempt has succeeded and its order is
paid. -/
theorem OrdersOk.settle {input : SettlePaymentOrderInput} {seen : Seen} {before : Db}
    {ws : List Write} (hok : OrdersOk before) (h : SettleDuty input seen before ws) :
    OrdersOk (view ws before) := by
  rcases h.2 with ⟨order, -, -, rfl | ⟨logId, -, rfl⟩⟩ | ⟨order, payment, a, u, blocked, paid, hset⟩
  · exact hok
  · exact hok.congr rfl rfl
  obtain ⟨debit, callback, now, tradeNo, transactionId, hdebit, hcallback, rfl⟩ := hset.writes
  rw [view_append]
  obtain ⟨ho₁, ha₁⟩ := view_money hset.money before
  have hok₁ := hok.congr ho₁ ha₁
  set db₁ := view ([.insertPayment payment] ++ paid) before
  rw [view_append, view_append, view_append]
  have hok₂ : OrdersOk (view debit db₁) := by
    rcases hdebit with rfl | ⟨attempt, x, p, -, -, -, hp, rfl⟩
    · exact hok₁
    · refine hok₁.updateAttempt attempt.id p fun _ _ _ _ hun => ?_
      rw [hp] at hun
      cases hun
  have hok₃ := hok₂.updateOrder order.id now (.settled payment.id input.paidAmount input.paidAt
    tradeNo transactionId blocked) fun _ _ _ _ _ _ _ => .inr rfl
  rcases hcallback with rfl | ⟨l, rfl⟩ | ⟨logId, -, rfl⟩ <;> exact hok₃.congr rfl rfl

/-- Every effect keeps orders and attempts in step. -/
theorem OrdersOk.effect {seen : Seen} {before : Db} {ws : List Write} (hok : OrdersOk before)
    (h : Effect seen before ws) : OrdersOk (view ws before) := by
  cases h with
  | nothing => exact hok
  | @callback w hw => cases w <;> first | exact hok.congr rfl rfl | exact hw.elim
  | settle input hduty => exact hok.settle hduty
  | @close order now closedAt horder _ hportal =>
    refine hok.updateOrder order.id now (.closed closedAt) fun o attemptId a ho hback _ _ => ?_
    rw [hok.portal hportal ho] at hback
    cases hback
  | create hfresh _ _ => exact hok.insertOrder hfresh
  | @refresh order current snap now url expires prepayId tradeNo _ _ _ _ _ =>
    exact hok.updateOrder order.id now (.refreshed url expires prepayId tradeNo)
      fun _ _ _ _ _ _ _ => .inl rfl
  | @submit order attempt snap hfresh hnew horder hattempt hstatus _ _ _ _ =>
    have hfind : ((Write.insertPaymentOrder order).apply before).paymentOrder?
        attempt.paymentOrderId = some order := by
      rw [horder]
      show (before.paymentOrders ++ [order]).find? (·.id == order.id) = some order
      rw [List.find?_append, show before.paymentOrders.find? _ = none from hfresh]
      simp
    exact (hok.insertOrder hfresh).insertAttempt hfind hattempt (.inl (by rw [hstatus]; rfl))
  | request _ _ _ => exact hok.congr rfl rfl
  | @debit order attempt p q now horder hattempt hof hopen hunpaid _ hq hstill =>
    obtain ⟨o, ho, hback, hlive⟩ := hok.attempt attempt.id attempt hattempt
    rw [hof, horder] at ho
    obtain rfl := Option.some.inj ho
    have hok₁ : OrdersOk ((Write.updateDebitAttempt attempt.id p).apply before) := by
      refine hok.updateAttempt attempt.id p fun a o ha ho _ => ?_
      rw [hattempt] at ha
      rw [← Option.some.inj ha, hof, horder] at ho
      rw [← Option.some.inj ho]
      exact hlive hopen
    refine hok₁.updateOrder order.id now q fun o attemptId a ho hback' ha hun => ?_
    have horder' : before.paymentOrder? order.id = some o := ho
    rw [horder] at horder'
    obtain rfl := Option.some.inj horder'
    obtain rfl := Option.some.inj (hback.symm.trans hback')
    rw [debitAttempt?_update, hattempt] at ha
    have heq : a = p.apply attempt := by simpa using ha.symm
    rw [heq, DebitAttemptPatch.apply_status] at hun
    exact .inl (by rw [hstill hun]; rfl)
  | @resubmit order attempt horder hattempt hof hopen hunpaid =>
    obtain ⟨o, ho, -, hlive⟩ := hok.attempt attempt.id attempt hattempt
    refine hok.updateAttempt attempt.id .submitting fun a o' ha ho' _ => ?_
    rw [hattempt] at ha
    rw [← Option.some.inj ha, ho] at ho'
    rw [← Option.some.inj ho']
    exact hlive hopen

theorem OrdersOk.commit {call : PaymentCall} {seen : Seen} {before : Db} {ws : List Write}
    (hok : OrdersOk before) (h : call.duty seen before ws) : OrdersOk (view ws before) := by
  rcases PaymentCall.duty_cases h with heffect | ⟨-, hmoney⟩ | ⟨facts, rfl⟩
  · exact hok.effect heffect
  · exact hok.congr (view_money hmoney before).1 (view_money hmoney before).2
  · exact hok.congr rfl rfl

/-! ## Orders that are no longer payable -/

/-- A refresh that writes the provider's answer has found the order payable when it read it again. -/
def RefreshedPayable (c : Commit sig PaymentCall) : Prop :=
  ∀ id ∈ c.writes.filterMap refreshedOrder?, ∀ x ∈ c.seen, x.1 = Tag.refreshOrder →
    (x.2.paymentOrder? id).all (fun o => payable o.paymentStatus) = true

instance (c : Commit sig PaymentCall) : Decidable (RefreshedPayable c) :=
  inferInstanceAs (Decidable (∀ id ∈ c.writes.filterMap refreshedOrder?, ∀ x ∈ c.seen,
    x.1 = Tag.refreshOrder → (x.2.paymentOrder? id).all (fun o => payable o.paymentStatus) = true))

/-- What becomes of an order that is no longer payable: nothing, or a confirmed payment of a closed
or failed one. -/
def Left (after : Db) (o o' : PaymentOrder) : Prop :=
  o' = o ∨ (o.paymentStatus = .closed ∨ o.paymentStatus = .failed) ∧ o'.paymentStatus = .paid ∧
    ∃ p, after.payment? p.id = some p ∧ o'.paymentRecordId = some p.id ∧
      o'.paidAmount = p.paymentAmount ∧ p.paymentStatus = .confirmed

/-- From one database to a later one, no order that has left the payable state comes back. -/
def NeverRevived (db db' : Db) : Prop :=
  Frame db db' ∧ ∀ id o, db.paymentOrder? id = some o → payable o.paymentStatus = false →
    ∃ o', db'.paymentOrder? id = some o' ∧ Left db' o o'

theorem NeverRevived.refl (db : Db) : NeverRevived db db :=
  ⟨Frame.refl db, fun _ o ho _ => ⟨o, ho, .inl rfl⟩⟩

theorem NeverRevived.trans {a b c : Db} (h : NeverRevived a b) (h' : NeverRevived b c) :
    NeverRevived a c := by
  refine ⟨h.1.trans h'.1, fun id o ho hleft => ?_⟩
  obtain ⟨o', ho', rfl | ⟨hfrom, hpaid, p, hp, hrecord, hamount, hconf⟩⟩ := h.2 id o ho hleft
  · exact h'.2 id _ ho' hleft
  · have hnot : payable o'.paymentStatus = false := by rw [hpaid]; rfl
    obtain ⟨o'', ho'', heq | ⟨hfrom', -⟩⟩ := h'.2 id o' ho' hnot
    · subst heq
      exact ⟨_, ho'', .inr ⟨hfrom, hpaid, p, h'.1.payment? hp, hrecord, hamount, hconf⟩⟩
    · rw [hpaid] at hfrom'
      rcases hfrom' with hc | hc <;> cases hc

/-- A settlement of an order that is not payable is that of a closed or a failed one, or of one that
is paid. -/
theorem settleable_left {input : SettlePaymentOrderInput} {o : PaymentOrder}
    (h : settleable input o = true) (hleft : payable o.paymentStatus = false) :
    o.paymentStatus = .closed ∨ o.paymentStatus = .failed := by
  simp only [settleable, Bool.or_eq_true, Bool.and_eq_true, beq_iff_eq] at h
  rcases h with ((h | h) | ⟨-, h⟩) | ⟨-, h⟩
  · rw [h] at hleft; cases hleft
  · rw [h] at hleft; cases hleft
  · exact .inl h
  · exact .inr h

theorem commit_neverRevived {c : Commit sig PaymentCall}
    (hc : CommitOk PaymentCall.duty c) (hgood : RefreshedPayable c) (hok : OrdersOk c.before) :
    OrdersOk c.after ∧ NeverRevived c.before c.after := by
  obtain ⟨hduty, hafter⟩ := hc
  rw [hafter]
  refine ⟨hok.commit hduty, Frame.view c.writes c.before, fun id o ho hleft => ?_⟩
  refine ⟨_, view_paymentOrder? c.writes ho, ?_⟩
  generalize hpatch : patchOrders c.writes o = o'
  have hmove := PaymentCall.orderMove hduty ho
  rw [hpatch] at hmove
  cases hmove with
  | same => exact .inl rfl
  | closed hopen => rw [hleft] at hopen; cases hopen
  | refreshed hwrite hsnap hread hunpaid hsame hpending =>
    have hpay := hgood _ hwrite _ hsnap rfl
    rw [hread, Option.all_some, ← hsame, hleft] at hpay
    cases hpay
  | debit hattempt hof hopen hunpaid =>
    obtain ⟨x, hx, -, hlive⟩ := hok.attempt _ _ hattempt
    rw [hof, Db.paymentOrder?_id ho, ho] at hx
    rw [← Option.some.inj hx] at hlive
    rcases hlive hopen with hpay | hpaid
    · rw [hleft] at hpay; cases hpay
    · exact absurd hpaid hunpaid
  | settled hopen hpaid hp hrecord hamount hconf =>
    exact .inr ⟨settleable_left hopen hleft, hpaid, _, hp, hrecord, hamount, hconf⟩

/-- In every run whose refreshes have found their orders payable, an order that has left the payable
state stays as it is, or a confirmed payment settles it after it was closed or had failed. -/
theorem payment_order_never_revived (config : PaymentRuntimeConfig) {db₀ : Db} (h₀ : OrdersOk db₀)
    (evs evs' : List (Event sig PaymentCall))
    (hgood : ∀ c ∈ (paymentRun config db₀ (evs ++ evs')).history, RefreshedPayable c)
    {id : Id} {o : PaymentOrder} (ho : (paymentRun config db₀ evs).db.paymentOrder? id = some o)
    (hleft : payable o.paymentStatus = false) :
    ∃ o', (paymentRun config db₀ (evs ++ evs')).db.paymentOrder? id = some o' ∧
      payable o'.paymentStatus = false ∧
      (o' = o ∨ (o.paymentStatus = .closed ∨ o.paymentStatus = .failed) ∧
        o'.paymentStatus = .paid ∧
        ∃ p, (paymentRun config db₀ (evs ++ evs')).db.payment? p.id = some p ∧
          o'.paymentRecordId = some p.id ∧ o'.paidAmount = p.paymentAmount ∧
          p.paymentStatus = .confirmed) := by
  have hrel := runs_relation OrdersOk NeverRevived RefreshedPayable NeverRevived.refl
    (fun _ _ _ => NeverRevived.trans) (wp_paymentBody config) (fun _ => commit_neverRevived)
    h₀ evs evs' hgood
  obtain ⟨o', ho', hend⟩ := hrel.2 id o ho hleft
  refine ⟨o', ho', ?_, hend⟩
  rcases hend with rfl | ⟨-, hpaid, -⟩
  · exact hleft
  · rw [hpaid]
    rfl

/-! An order of the portal for one bill. -/

def mockConfig : PaymentRuntimeConfig :=
  { providerType := .mock, mockEnabled := true, wechatPayEnabled := false,
    defaultChannel := .mock, buildProviderOutTradeNo := id }

/-- Answers of a provider at which everything succeeds. -/
def providerAnswers (now : Instant) (id : Id) : (q : Ask) → Ans q
  | .uuid => id
  | .now => now
  | .businessNo => "PYO"
  | .createPayment => some ⟨some "/cashier", some (now + 1000), none, "mock_PYO"⟩
  | .verifyCallback =>
    some ⟨none, some "mock.payment.success", some 100, some now, some "mock_PYO", some "txn", true⟩
  | .submitDebit | .queryDebit | .mandate => none
  | .closePayment | .openId | .operator => true

/-- Session `sid` executes its next `n` statements. -/
def portalSteps (sid n : Nat) (now : Instant) (id : Id) : List (Event sig PaymentCall) :=
  List.replicate n (.run sid (providerAnswers now id))

def rentDb : Db :=
  { emptyDb with orders := [⟨1, 1, .active, none, 1, none⟩], bills := [rentBill 1 100] }

theorem rentDb_ordersOk : OrdersOk rentDb where
  ids := by decide
  attempt id a ha := by cases ha

/-- The portal creates an order for the bill; its cashier page expires at 1010. -/
def createdOrder : List (Event sig PaymentCall) :=
  [.begin (.createPortal 1 [1] none)] ++ portalSteps 0 40 10 1

/-- At 2000 the portal starts the order again and has checked it when the order is closed. -/
def closedMeanwhile : List (Event sig PaymentCall) :=
  createdOrder ++ [.begin (.startPortal 1 1)] ++ portalSteps 1 5 2000 0 ++
    [.begin (.closeActive [1])] ++ portalSteps 2 20 2000 0

/-- The start goes on: it reads the order again, calls the provider and writes its answer. -/
def revived : List (Event sig PaymentCall) := portalSteps 1 20 2000 0

/-- The status of payment order 1 after a run. -/
def statusAfter (evs : List (Event sig PaymentCall)) : Option PaymentOrderStatus :=
  ((paymentRun mockConfig rentDb evs).db.paymentOrder? 1).map (·.paymentStatus)

/-- The closed order is pending again. -/
theorem closed_order_revived :
    OrdersOk rentDb ∧ statusAfter closedMeanwhile = some .closed ∧
      statusAfter (closedMeanwhile ++ revived) = some .pending :=
  ⟨rentDb_ordersOk, by decide +kernel, by decide +kernel⟩

/-- The order is created and closed. -/
def createdAndClosed : List (Event sig PaymentCall) :=
  createdOrder ++ [.begin (.closeActive [1])] ++ portalSteps 1 20 1500 0

/-- Starting it afterwards is refused, and the provider's callback for a payment that was made before
still settles it. -/
def startedAndPaid : List (Event sig PaymentCall) :=
  [.begin (.startPortal 1 1)] ++ portalSteps 2 20 2000 0 ++ [.begin (.callback .mock)] ++
    portalSteps 3 60 2100 7

theorem payment_order_never_revived_paid :
    statusAfter createdAndClosed = some .closed ∧
      statusAfter (createdAndClosed ++ startedAndPaid) = some .paid ∧
      ∃ o', (paymentRun mockConfig rentDb (createdAndClosed ++ startedAndPaid)).db.paymentOrder? 1 =
        some o' ∧ payable o'.paymentStatus = false := by
  have hclosed : statusAfter createdAndClosed = some .closed := by decide +kernel
  obtain ⟨o, ho, hstatus⟩ := Option.map_eq_some_iff.mp hclosed
  have hleft : payable o.paymentStatus = false := by rw [hstatus]; rfl
  obtain ⟨o', ho', hleft', -⟩ := payment_order_never_revived mockConfig rentDb_ordersOk
    createdAndClosed startedAndPaid (by decide +kernel) ho hleft
  exact ⟨hclosed, by decide +kernel, o', ho', hleft'⟩

end SubscriptionSaas.Payment
