import SubscriptionSaas.Payment.DebitAttemptService
import SubscriptionSaas.Finance.Proofs.LedgerProofs

/-!
# What the payment services commit

`Effect` lists what a transaction of the payment services can do, each with what the transaction
knows of the database it commits to. Every commit of a payment operation is one of these effects;
what becomes of payment orders is then an argument about effects alone.
-/

namespace SubscriptionSaas.Payment

open Transaction SubscriptionSaas.Finance

/-- A write on a callback log. -/
def IsCallback : Write → Prop
  | .insertCallbackLog _ | .updateCallbackLog _ _ => True
  | _ => False

/-- An update of a payment order that states the outcome of a debit. -/
def IsDebitPatch : PaymentOrderPatch → Prop
  | .debitUnknown | .debitResult _ _ | .debitCancelled _ => True
  | _ => False

/-- The order is one of the portal, not of an automatic debit. -/
def Portal (db : Db) (id : Id) : Prop :=
  ∃ order ∈ db.paymentOrders, order.id = id ∧ order.debitAttempt = none

/-- What a transaction of the payment services does to the database it commits to. -/
inductive Effect (seen : Seen) (before : Db) : List Write → Prop
  | nothing : Effect seen before []
  | callback {w : Write} (h : IsCallback w) : Effect seen before [w]
  | settle (input : SettlePaymentOrderInput) {ws : List Write}
      (h : SettleDuty input seen before ws) : Effect seen before ws
  /-- An open order of the portal is closed. -/
  | close {order : PaymentOrder} {now closedAt : Instant}
      (horder : before.paymentOrder? order.id = some order)
      (hopen : payable order.paymentStatus = true) (hportal : Portal before order.id) :
      Effect seen before [.updatePaymentOrder order.id now (.closed closedAt)]
  /-- A new order of the portal. -/
  | create {order : PaymentOrder} (hfresh : before.paymentOrder? order.id = none)
      (hstatus : order.paymentStatus = .created) (hportal : order.debitAttempt = none) :
      Effect seen before [.insertPaymentOrder order]
  /-- The provider's answer is written on an order that has the status it was read with. -/
  | refresh {order current : PaymentOrder} {snap : Db} {now : Instant} {url : Option String}
      {expires : Option Instant} {prepayId : Option String} {tradeNo : String}
      (hsnap : (.refreshOrder, snap) ∈ seen) (hread : snap.paymentOrder? order.id = some order)
      (hunpaid : order.paymentStatus ≠ .paid)
      (hcurrent : before.paymentOrder? order.id = some current)
      (hstatus : current.paymentStatus = order.paymentStatus) :
      Effect seen before [.updatePaymentOrder order.id now (.refreshed url expires prepayId tradeNo)]
  /-- A new order of an automatic debit, with its attempt. The latest attempt on the bill had been
  resolved when it was read, and there has been no newer one since. -/
  | submit {order : PaymentOrder} {attempt : DebitAttempt} {snap : Db}
      (hfresh : before.paymentOrder? order.id = none)
      (hnew : before.debitAttempt? attempt.id = none)
      (horder : attempt.paymentOrderId = order.id) (hattempt : order.debitAttempt = some attempt.id)
      (hstatus : order.paymentStatus = .pending) (hsubmitting : attempt.status = .submitting)
      (hsnap : (.debitAttempt, snap) ∈ seen)
      (hlatest : ∀ latest, latestAttempt attempt.billId snap = some latest →
        unresolved latest.status = false)
      (hbill : snap.billAttemptIds attempt.billId = before.billAttemptIds attempt.billId) :
      Effect seen before [.insertPaymentOrder order, .insertDebitAttempt attempt]
  /-- The provider is asked to debit what the attempt says. -/
  | request {s : SubmittedDebit} {attempt : DebitAttempt}
      (hattempt : before.debitAttempt? s.debitAttemptId = some attempt)
      (hamount : s.amount = attempt.requestedAmount)
      (htradeNo : s.providerOutTradeNo = attempt.providerOutTradeNo) :
      Effect seen before [.submitDebit s]
  /-- The outcome of an unresolved debit. -/
  | debit {order : PaymentOrder} {attempt : DebitAttempt} {p : DebitAttemptPatch}
      {q : PaymentOrderPatch} {now : Instant}
      (horder : before.paymentOrder? order.id = some order)
      (hattempt : before.debitAttempt? attempt.id = some attempt)
      (hof : attempt.paymentOrderId = order.id) (hopen : unresolved attempt.status = true)
      (hunpaid : order.paymentStatus ≠ .paid) (hp : p.status ≠ .succeeded) (hq : IsDebitPatch q)
      (hstill : unresolved p.status = true → (q.apply now order).paymentStatus = .pending) :
      Effect seen before [.updateDebitAttempt attempt.id p, .updatePaymentOrder order.id now q]
  /-- An unresolved debit is submitted again. -/
  | resubmit {order : PaymentOrder} {attempt : DebitAttempt}
      (horder : before.paymentOrder? order.id = some order)
      (hattempt : before.debitAttempt? attempt.id = some attempt)
      (hof : attempt.paymentOrderId = order.id) (hopen : unresolved attempt.status = true)
      (hunpaid : order.paymentStatus ≠ .paid) :
      Effect seen before [.updateDebitAttempt attempt.id .submitting]

/-- What a callback or a mock payment commits: one write on a callback log, or a settlement. -/
inductive Settling (seen : Seen) (before : Db) : List Write → Prop
  | nothing : Settling seen before []
  | callback {w : Write} (h : IsCallback w) : Settling seen before [w]
  | settle (input : SettlePaymentOrderInput) {ws : List Write}
      (h : SettleDuty input seen before ws) : Settling seen before ws

theorem Settling.effect {seen : Seen} {before : Db} {ws : List Write}
    (h : Settling seen before ws) : Effect seen before ws := by
  cases h with
  | nothing => exact .nothing
  | callback hw => exact .callback hw
  | settle input hduty => exact .settle input hduty

section Rules

variable {α : Type} {config : PaymentRuntimeConfig} {C : Duty sig} {E : Err → Ctx sig → Prop}
  {c : Ctx sig}

/-- After a commit the transaction starts afresh, on what it has written. -/
theorem wp_commit_view {Q : Unit → Ctx sig → Prop}
    (h : ∀ db, Rely c.held c.db db → C c.seen db c.pending)
    (hQ : ∀ c' db, c'.pending = [] → Rely c.held c.db db → c'.db = view c.pending db → Q () c') :
    wp isolation C (commitTx (S := sig)) Q E c :=
  fun db hr => ⟨h db hr, hQ _ db rfl hr rfl⟩

/-- After a commit the transaction starts afresh. -/
theorem wp_commit {Q : Unit → Ctx sig → Prop}
    (h : ∀ db, Rely c.held c.db db → C c.seen db c.pending)
    (hQ : ∀ c', c'.pending = [] → Frame c.db c'.db → Q () c') :
    wp isolation C (commitTx (S := sig)) Q E c :=
  wp_commit_view h fun c' db hp hr hdb => hQ c' hp (hdb ▸ hr.1.trans (Frame.view c.pending db))

/-- A commit without writes. -/
theorem wp_commit_nothing {Q : Unit → Ctx sig → Prop} (hpend : c.pending = [])
    (hQ : ∀ c', c'.pending = [] → Frame c.db c'.db → Q () c') :
    wp isolation Effect (commitTx (S := sig)) Q E c :=
  wp_commit (fun _ _ => hpend ▸ .nothing) hQ

/-- One update of a callback log. -/
theorem wp_updateCallbackLog {id : Id} {patch : CallbackLogPatch} {Q : Unit → Ctx sig → Prop}
    (hpend : c.pending = []) (hQ : ∀ c', c'.pending = [] → Q () c') :
    wp isolation Settling (updateCallbackLog id patch) Q E c := by
  unfold updateCallbackLog
  rw [wp_bind]
  refine ⟨fun r hr => absurd hr List.not_mem_nil, wp_commit (fun _ _ => ?_) fun c' hc' _ => hQ c' hc'⟩
  rw [show c.pending ++ [Write.updateCallbackLog id patch] = [.updateCallbackLog id patch] by
    rw [hpend, List.nil_append]]
  exact .callback trivial

theorem wp_assertPaymentProviderAvailable {channel : PaymentChannel} {Q : Unit → Ctx sig → Prop}
    (hE : ∀ e c', E e c') (hQ : Q () c) :
    wp isolation Effect (assertPaymentProviderAvailable config channel) Q E c := by
  unfold assertPaymentProviderAvailable assertMockProviderAvailable
  cases channel with
  | mock => exact (wp_ensure _ _ _ _ _).mpr ⟨fun _ => hQ, fun _ => hE _ _⟩
  | wechatJsapi => exact (wp_ensure _ _ _ _ _).mpr ⟨fun _ => hQ, fun _ => hE _ _⟩
  | _ => exact hE _ _

/-- Finding a payment order: it is in the snapshot that has been read. -/
theorem wp_findPaymentOrderOrThrow {t : Tag} {id : Id} {Q : PaymentOrder → Ctx sig → Prop}
    (hpend : c.pending = []) (hE : ∀ e c', E e c')
    (hQ : ∀ c' order, Step c c' [] → c'.db.paymentOrder? id = some order →
      (t, c'.db) ∈ c'.seen → Q order c') :
    wp isolation C (findPaymentOrderOrThrow t id) Q E c := by
  unfold findPaymentOrderOrThrow
  rw [wp_bind]
  refine wp_read fun c' hs hmem => ?_
  rw [hpend, view_nil]
  cases hfind : (c'.db.paymentOrder? id).filter (·.deletedAt.isNone) with
  | none => exact hE _ _
  | some order => exact hQ c' order hs (Option.filter_eq_some_iff.mp hfind).1 hmem

theorem wp_findPortalPaymentOrderOrThrow {id customerId : Id} {Q : PaymentOrder → Ctx sig → Prop}
    (hE : ∀ e c', E e c') (hQ : ∀ c' order, Step c c' [] → Q order c') :
    wp isolation C (findPortalPaymentOrderOrThrow id customerId) Q E c := by
  unfold findPortalPaymentOrderOrThrow
  rw [wp_bind]
  refine wp_read fun c' hs _ => ?_
  split
  · exact hE _ _
  · exact hQ c' _ hs

theorem wp_assertBillsCanCreatePaymentOrder {bills : List ReceivableBill} {billIds : List Id}
    {Q : Unit → Ctx sig → Prop} (hE : ∀ e c', E e c') (hQ : Q () c) :
    wp isolation Effect (assertBillsCanCreatePaymentOrder bills billIds) Q E c := by
  unfold assertBillsCanCreatePaymentOrder
  rw [wp_bind, wp_ensure]
  refine ⟨fun _ => ?_, fun _ => hE _ _⟩
  rw [wp_bind, wp_ensure]
  refine ⟨fun _ => ?_, fun _ => hE _ _⟩
  rw [wp_ensure]
  exact ⟨fun _ => hQ, fun _ => hE _ _⟩

theorem wp_assertNotGoverned {billIds : List Id} {Q : Unit → Ctx sig → Prop}
    (hE : ∀ e c', E e c') (hQ : ∀ c', Step c c' [] → Q () c') :
    wp isolation Effect (assertNotGoverned billIds) Q E c := by
  unfold assertNotGoverned
  rw [wp_bind]
  refine wp_read fun c₁ hs₁ _ => ?_
  rw [wp_bind]
  refine wp_read fun c₂ hs₂ _ => ?_
  rw [wp_bind]
  refine wp_read fun c₃ hs₃ _ => ?_
  rw [wp_ensure]
  exact ⟨fun _ => hQ c₃ ((hs₁.trans hs₂).trans hs₃), fun _ => hE _ _⟩

theorem wp_assertNotGovernedBeforeCreate {billIds : List Id} {Q : Unit → Ctx sig → Prop}
    (hE : ∀ e c', E e c') (hQ : ∀ c', Step c c' [] → Q () c') :
    wp isolation Effect (assertNotGovernedBeforeCreate billIds) Q E c := by
  unfold assertNotGovernedBeforeCreate
  rw [wp_bind]
  refine wp_read fun c₁ hs₁ _ => ?_
  rw [wp_bind, wp_ensure]
  refine ⟨fun _ => ?_, fun _ => hE _ _⟩
  rw [wp_bind]
  refine wp_read fun c₂ hs₂ _ => ?_
  rw [wp_bind]
  refine wp_read fun c₃ hs₃ _ => ?_
  rw [wp_ensure]
  exact ⟨fun _ => hQ c₃ ((hs₁.trans hs₂).trans hs₃), fun _ => hE _ _⟩

/-! ## closeActivePaymentOrdersForBills -/

theorem Portal.frame {d d' : Db} {id : Id} (h : Portal d id) (hf : Frame d d') : Portal d' id := by
  obtain ⟨order, hmem, hid, hnone⟩ := h
  obtain ⟨order', hmem', hid', heq⟩ := hf.paymentOrders order hmem
  exact ⟨order', hmem', hid'.trans hid, heq.trans hnone⟩

theorem wp_closePaymentOrder {id : Id} {Q : Bool → Ctx sig → Prop} (hpend : c.pending = [])
    (hportal : Portal c.db id) (hE : ∀ e c', E e c')
    (hQ : ∀ a c', c'.pending = [] → Frame c.db c'.db → Q a c') :
    wp isolation Effect (closePaymentOrder config id) Q E c := by
  unfold closePaymentOrder lockPaymentOrder
  rw [wp_bind]
  refine wp_lock fun c₁ hs₁ hheld => ?_
  have hp₁ := hs₁.pending_nil hpend
  rw [wp_bind]
  refine wp_read fun c₂ hs₂ _ => ?_
  have hs := hs₁.trans hs₂
  have hp₂ := hs₂.pending_nil hp₁
  have hheld₂ := hs₂.held _ hheld
  have hend : ∀ a c', c'.pending = [] → Frame c₂.db c'.db → Q a c' :=
    fun a c' hc' hf => hQ a c' hc' (hs.rely.1.trans hf)
  rw [hp₁, view_nil]
  cases hfind : (c₂.db.paymentOrder? id).filter (·.deletedAt.isNone) with
  | none =>
    simp only []
    rw [wp_bind]
    exact wp_commit_nothing hp₂ (hend _)
  | some locked =>
    have hlocked := (Option.filter_eq_some_iff.mp hfind).1
    have hid : locked.id = id := Db.paymentOrder?_id hlocked
    simp only []
    rw [wp_bind, wp_ensure]
    refine ⟨fun _ => ?_, fun _ => hE _ _⟩
    by_cases hopen : payable locked.paymentStatus = true
    · rw [if_pos hopen, wp_bind, wp_ensure]
      refine ⟨fun _ => ?_, fun _ => hE _ _⟩
      have hclose : ∀ {P : Unit → Ctx sig → Prop}, P () c₂ →
          wp isolation Effect (closeRemoteTransaction locked) P E c₂ := by
        intro P hP
        unfold closeRemoteTransaction
        by_cases hrem : remoteTransactionExists locked = true
        · rw [if_pos hrem, wp_bind, wp_ask]
          intro closed
          exact (wp_ensure _ _ _ _ _).mpr ⟨fun _ => hP, fun _ => hE _ _⟩
        · rw [if_neg hrem]
          exact hP
      rw [wp_bind]
      refine hclose ?_
      rw [wp_bind, wp_ask]
      intro closedAt
      rw [wp_bind, wp_ask]
      intro updatedAt
      rw [wp_bind, wp_exec]
      refine ⟨?_, ?_⟩
      · intro r hr
        rw [show r = Row.paymentOrder locked.id by simpa [isolation, Write.touches] using hr, hid]
        exact hheld₂
      rw [wp_bind]
      refine wp_commit (fun db hr => ?_) (hend _)
      have hcur : db.paymentOrder? locked.id = some locked := by
        rw [hid]
        exact (hr.2 _ hheld₂).symm.trans hlocked
      show Effect c₂.seen db (c₂.pending ++ [_])
      rw [hp₂, List.nil_append]
      exact .close hcur hopen (hid ▸ hportal.frame (hs.rely.1.trans hr.1))
    · rw [if_neg hopen, wp_bind]
      exact wp_commit_nothing hp₂ (hend _)

theorem wp_closePaymentOrders {orders : List PaymentOrder} {Q : List Id → Ctx sig → Prop}
    (hpend : c.pending = []) (hportal : ∀ order ∈ orders, Portal c.db order.id)
    (hE : ∀ e c', E e c') (hQ : ∀ a c', Q a c') :
    wp isolation Effect (closePaymentOrders config orders) Q E c := by
  induction orders generalizing c Q with
  | nil => exact hQ _ _
  | cons order orders ih =>
    unfold closePaymentOrders
    rw [wp_bind]
    refine wp_closePaymentOrder hpend (hportal order List.mem_cons_self) hE fun closed c' hp hf => ?_
    rw [wp_bind]
    exact ih hp (fun o ho => (hportal o (List.mem_cons_of_mem _ ho)).frame hf) fun _ _ => hQ _ _

theorem wp_closeActivePaymentOrdersForBills {billIds : List Id} {Q : List Id → Ctx sig → Prop}
    (hpend : c.pending = []) (hE : ∀ e c', E e c') (hQ : ∀ a c', Q a c') :
    wp isolation Effect (closeActivePaymentOrdersForBills config billIds) Q E c := by
  unfold closeActivePaymentOrdersForBills
  rw [wp_bind]
  refine wp_read fun c' hs _ => ?_
  rw [hpend, view_nil, wp_bind]
  refine wp_closePaymentOrders (hs.pending_nil hpend) (fun order horder => ?_) hE fun _ _ => hQ _ _
  have hmem := List.mem_filter.mp ((List.mem_insertionSort _).mp horder)
  have hportal := hmem.2
  simp only [Bool.and_eq_true, Option.isNone_iff_eq_none] at hportal
  exact ⟨order, hmem.1, rfl, hportal.1.1.1⟩

/-! ## refreshProviderPayment -/

theorem wp_wechatBound {order : PaymentOrder} {Q : Bool → Ctx sig → Prop} (hQ : ∀ a, Q a c) :
    wp isolation Effect (wechatBound order) Q E c := by
  unfold wechatBound
  by_cases hjsapi : (order.paymentChannel == .wechatJsapi) = true
  · rw [if_pos hjsapi]
    exact hQ
  · rw [if_neg hjsapi]
    exact hQ true

theorem wp_writeProviderPayment {order : PaymentOrder} {result : CreatePaymentResult} {snap : Db}
    {Q : Option PaymentOrder → Ctx sig → Prop} (hpend : c.pending = [])
    (hsnap : (Tag.refreshOrder, snap) ∈ c.seen) (hread : snap.paymentOrder? order.id = some order)
    (hunpaid : order.paymentStatus ≠ .paid) (hQ : ∀ a c', Q a c') :
    wp isolation Effect (writeProviderPayment order result) Q E c := by
  unfold writeProviderPayment lockPaymentOrder
  rw [wp_bind]
  refine wp_lock fun c₁ hs₁ hheld => ?_
  have hp₁ := hs₁.pending_nil hpend
  rw [wp_bind]
  refine wp_read fun c₂ hs₂ _ => ?_
  have hp₂ := hs₂.pending_nil hp₁
  have hheld₂ := hs₂.held _ hheld
  rw [hp₁, view_nil]
  cases hfind : (c₂.db.paymentOrder? order.id).filter (·.deletedAt.isNone) with
  | none =>
    simp only []
    rw [wp_bind]
    exact wp_commit_nothing hp₂ fun _ _ _ => hQ _ _
  | some current =>
    have hcurrent := (Option.filter_eq_some_iff.mp hfind).1
    simp only []
    by_cases hsame : (current.paymentStatus == order.paymentStatus &&
        current.updatedAt == order.updatedAt) = true
    · rw [if_pos hsame, wp_bind, wp_ask]
      intro now
      rw [wp_bind, wp_exec]
      refine ⟨?_, ?_⟩
      · intro r hr
        rw [show r = Row.paymentOrder order.id by simpa [isolation, Write.touches] using hr]
        exact hheld₂
      rw [wp_bind]
      refine wp_commit (fun db hr => ?_) fun _ _ _ => hQ _ _
      have hcur : db.paymentOrder? order.id = some current := (hr.2 _ hheld₂).symm.trans hcurrent
      simp only [Bool.and_eq_true, beq_iff_eq] at hsame
      show Effect c₂.seen db (c₂.pending ++ [_])
      rw [hp₂, List.nil_append]
      exact .refresh (hs₂.seen _ (hs₁.seen _ hsnap)) hread hunpaid hcur hsame.1
    · rw [if_neg hsame, wp_bind]
      exact wp_commit_nothing hp₂ fun _ _ _ => hQ _ _

theorem wp_refreshProviderPayment {id : Id} {Q : PaymentOrder → Ctx sig → Prop}
    (hpend : c.pending = []) (hE : ∀ e c', E e c') (hQ : ∀ a c', Q a c') :
    wp isolation Effect (refreshProviderPayment id) Q E c := by
  unfold refreshProviderPayment
  rw [wp_bind]
  refine wp_findPaymentOrderOrThrow hpend hE fun c₁ order hs₁ horder hsnap => ?_
  have hp₁ := hs₁.pending_nil hpend
  by_cases hpaid : (order.paymentStatus == .paid) = true
  · rw [if_pos hpaid]
    exact hQ _ _
  · rw [if_neg hpaid, wp_bind]
    refine wp_wechatBound fun bound => ?_
    cases bound with
    | false => exact hQ _ _
    | true =>
      simp only [Bool.not_true, Bool.false_eq_true, if_false]
      rw [wp_bind, wp_ask]
      intro answer
      cases answer with
      | none => exact hE _ _
      | some result =>
        simp only []
        rw [wp_bind]
        have hid : order.id = id := Db.paymentOrder?_id horder
        rw [← hid] at horder
        refine wp_writeProviderPayment hp₁ hsnap horder (by simpa using hpaid) fun written c₂ => ?_
        cases written with
        | some updated => exact hQ _ _
        | none =>
          simp only []
          rw [wp_bind, wp_ask]
          intro closed
          rw [wp_bind, wp_ensure]
          exact ⟨fun _ => hE _ _, fun _ => hE _ _⟩

theorem wp_reuseOrRefresh {order : PaymentOrder} {Q : PaymentOrder → Ctx sig → Prop}
    (hpend : c.pending = []) (hE : ∀ e c', E e c') (hQ : ∀ a c', Q a c') :
    wp isolation Effect (reuseOrRefresh order) Q E c := by
  unfold reuseOrRefresh
  rw [wp_bind, wp_ask]
  intro now
  split
  · exact hQ _ _
  · exact wp_refreshProviderPayment hpend hE hQ

/-! ## createPortalPaymentOrder, startPortalPayment -/

theorem wp_insertPaymentOrder {mk : Id → String → Instant → PaymentOrder}
    {Q : PaymentOrder → Ctx sig → Prop} (hid : ∀ id no now, (mk id no now).id = id)
    (hE : ∀ e c', E e c')
    (hQ : ∀ c' id no now, Step c c' [.insertPaymentOrder (mk id no now)] →
      Row.paymentOrder id ∈ c'.held → (view c.pending c'.db).paymentOrder? id = none →
      Q (mk id no now) c') :
    wp isolation Effect (insertPaymentOrder mk) Q E c := by
  unfold insertPaymentOrder
  rw [wp_bind, wp_ask]
  intro id
  rw [wp_bind, wp_ask]
  intro no
  rw [wp_bind, wp_ask]
  intro now
  rw [wp_bind]
  refine wp_lock fun c₁ hs₁ hheld => ?_
  rw [wp_bind]
  refine wp_read fun c₂ hs₂ _ => ?_
  have hs := hs₁.trans hs₂
  have hheld₂ := hs₂.held _ hheld
  rw [wp_bind, wp_ensure]
  refine ⟨fun htaken => ?_, fun _ => hE _ _⟩
  rw [wp_bind, wp_exec]
  refine ⟨?_, ?_⟩
  · intro r hr
    rw [show r = Row.paymentOrder id by simpa [isolation, Write.touches, hid] using hr]
    exact hheld₂
  · have hpend : c₁.pending = c.pending := by rw [hs₁.pending, List.append_nil]
    rw [hpend] at htaken
    refine hQ _ id no now (hs.trans (Step.write c₂ _)) hheld₂ ?_
    simp only [Bool.not_eq_true', Bool.or_eq_false_iff, Option.isSome_eq_false_iff,
      Option.isNone_iff_eq_none] at htaken
    exact htaken.1

theorem wp_createOrReusePaymentOrder {customerId : Id} {billIds : List Id}
    {channel : PaymentChannel} {Q : Bool × PaymentOrder → Ctx sig → Prop} (hpend : c.pending = [])
    (hE : ∀ e c', E e c') (hQ : ∀ a c', c'.pending = [] → Q a c') :
    wp isolation Effect (createOrReusePaymentOrder config customerId billIds channel) Q E c := by
  unfold createOrReusePaymentOrder
  rw [wp_bind]
  refine wp_lockReceivableBills fun c₁ hs₁ _ => ?_
  rw [wp_bind]
  refine wp_read fun c₂ hs₂ _ => ?_
  rw [wp_bind]
  refine wp_assertBillsCanCreatePaymentOrder hE ?_
  rw [wp_bind]
  refine wp_assertNotGoverned hE fun c₃ hs₃ => ?_
  rw [wp_bind]
  refine wp_read fun c₄ hs₄ _ => ?_
  have hp₄ := (((hs₁.trans hs₂).trans hs₃).trans hs₄).pending_nil hpend
  split
  · rw [wp_bind]
    exact wp_commit_nothing hp₄ fun c' hc' _ => hQ _ c' hc'
  · rw [wp_bind]
    refine wp_insertPaymentOrder (fun _ _ _ => rfl) hE fun c₅ id no now hs₅ hheld hfresh => ?_
    rw [wp_bind]
    refine wp_commit (fun db hr => ?_) fun c' hc' _ => hQ _ c' hc'
    rw [hs₅.pending, hp₄, List.nil_append]
    rw [hp₄, view_nil] at hfresh
    exact .create ((hr.2 _ hheld).symm.trans hfresh) rfl rfl

theorem wp_createPortalPaymentOrder {customerId : Id} {billIds : List Id}
    {channel : Option PaymentChannel} {Q : PaymentOrder → Ctx sig → Prop} (hpend : c.pending = [])
    (hE : ∀ e c', E e c') (hQ : ∀ a c', Q a c') :
    wp isolation Effect (createPortalPaymentOrder config customerId billIds channel) Q E c := by
  unfold createPortalPaymentOrder
  simp only []
  rw [wp_bind]
  refine wp_assertPaymentProviderAvailable hE ?_
  rw [wp_bind]
  refine wp_read fun c₁ hs₁ _ => ?_
  rw [wp_bind]
  refine wp_assertBillsCanCreatePaymentOrder hE ?_
  rw [wp_bind]
  refine wp_assertNotGovernedBeforeCreate hE fun c₂ hs₂ => ?_
  rw [wp_bind]
  refine wp_read fun c₃ hs₃ _ => ?_
  have hp₃ := ((hs₁.trans hs₂).trans hs₃).pending_nil hpend
  split
  · exact wp_reuseOrRefresh hp₃ hE hQ
  · rw [wp_bind]
    refine wp_createOrReusePaymentOrder hp₃ hE fun a c₄ hp₄ => ?_
    obtain ⟨created, order⟩ := a
    cases created with
    | true => exact wp_refreshProviderPayment hp₄ hE hQ
    | false => exact wp_reuseOrRefresh hp₄ hE hQ

theorem wp_startPortalPayment {id customerId : Id} {Q : PaymentOrder → Ctx sig → Prop}
    (hpend : c.pending = []) (hE : ∀ e c', E e c') (hQ : ∀ a c', Q a c') :
    wp isolation Effect (startPortalPayment config id customerId) Q E c := by
  unfold startPortalPayment
  rw [wp_bind]
  refine wp_findPortalPaymentOrderOrThrow hE fun c₁ order hs₁ => ?_
  rw [wp_bind]
  refine wp_assertPaymentProviderAvailable hE ?_
  split
  · exact hQ _ _
  · rw [wp_bind, wp_ensure]
    refine ⟨fun _ => ?_, fun _ => hE _ _⟩
    rw [wp_bind]
    refine wp_assertNotGoverned hE fun c₂ hs₂ => ?_
    exact wp_reuseOrRefresh ((hs₁.trans hs₂).pending_nil hpend) hE hQ

/-! ## Completing a payment -/

theorem wp_paidAtOrNow {paidAt : Option Instant} {Q : Instant → Ctx sig → Prop}
    (hQ : ∀ t, Q t c) : wp isolation C (paidAtOrNow paidAt) Q E c := by
  unfold paidAtOrNow
  cases paidAt with
  | some t => exact hQ t
  | none =>
    rw [wp_ask]
    exact hQ

theorem wp_markCallbackHandled {logId : Option Id} {id : Id} {Q : Unit → Ctx sig → Prop}
    (hpend : c.pending = []) (hQ : ∀ a c', Q a c') :
    wp isolation Settling (markCallbackHandled logId id) Q E c := by
  unfold markCallbackHandled
  cases logId with
  | none => exact hQ _ _
  | some logId =>
    simp only []
    rw [wp_bind, wp_ask]
    intro now
    exact wp_updateCallbackLog hpend fun _ _ => hQ _ _

theorem wp_completePaymentOrder {id : Id} {options : CompleteOptions}
    {Q : PaymentOrder → Ctx sig → Prop} (hpend : c.pending = []) (hE : ∀ e c', E e c')
    (hQ : ∀ a c', Q a c') : wp isolation Settling (completePaymentOrder id options) Q E c := by
  unfold completePaymentOrder
  rw [wp_bind]
  refine wp_findPaymentOrderOrThrow hpend hE fun c₁ order hs₁ _ _ => ?_
  have hp₁ := hs₁.pending_nil hpend
  simp only []
  rw [wp_bind, wp_ensure]
  refine ⟨fun _ => ?_, fun _ => hE _ _⟩
  by_cases hpaid : (order.paymentStatus == .paid) = true
  · rw [if_pos hpaid, wp_bind]
    exact wp_markCallbackHandled hp₁ fun _ _ => hQ _ _
  · rw [if_neg hpaid, wp_bind, wp_ensure]
    refine ⟨fun _ => ?_, fun _ => hE _ _⟩
    rw [wp_bind, wp_ask]
    intro operator
    rw [wp_bind, wp_ensure]
    refine ⟨fun _ => ?_, fun _ => hE _ _⟩
    rw [wp_bind]
    refine wp_paidAtOrNow fun paidAt => ?_
    rw [wp_bind]
    refine wp_settlePaymentOrder hp₁ (fun _ _ _ h => .settle _ h) hE fun _ c₂ => ?_
    unfold findPaymentOrderOrThrow
    rw [wp_bind]
    refine wp_read fun c₃ _ _ => ?_
    split
    · exact hE _ _
    · exact hQ _ _

theorem wp_mockPay {id customerId : Id} {Q : PaymentOrder → Ctx sig → Prop}
    (hpend : c.pending = []) (hE : ∀ e c', E e c') (hQ : ∀ a c', Q a c') :
    wp isolation Settling (mockPay config id customerId) Q E c := by
  unfold mockPay assertMockProviderAvailable
  rw [wp_bind, wp_ensure]
  refine ⟨fun _ => ?_, fun _ => hE _ _⟩
  rw [wp_bind]
  refine wp_findPortalPaymentOrderOrThrow hE fun c₁ order hs₁ => ?_
  rw [wp_bind, wp_ask]
  intro paidAt
  exact wp_completePaymentOrder (hs₁.pending_nil hpend) hE hQ

/-! ## handleCallback -/

theorem wp_completeVerifiedCallback {logId : Id} {provider : PaymentProviderType}
    {result : VerifyPaymentCallbackResult} {Q : Unit → Ctx sig → Prop} (hpend : c.pending = [])
    (hE : ∀ e c', E e c') (hQ : ∀ a c', Q a c') :
    wp isolation Settling (completeVerifiedCallback logId provider result) Q E c := by
  unfold completeVerifiedCallback
  rw [wp_bind]
  refine wp_read fun c₁ hs₁ _ => ?_
  have hp₁ := hs₁.pending_nil hpend
  split
  · exact wp_updateCallbackLog hp₁ fun _ _ => hQ _ _
  · rw [wp_bind]
    refine wp_updateCallbackLog hp₁ fun c₂ hp₂ => ?_
    split
    · rw [wp_bind]
      exact wp_completePaymentOrder hp₂ hE fun _ _ => hQ _ _
    · exact hQ _ _

theorem wp_processCallback {logId : Id} {provider : PaymentProviderType}
    {Q : Unit → Ctx sig → Prop} (hpend : c.pending = []) (hE : ∀ e c', E e c')
    (hQ : ∀ a c', Q a c') :
    wp isolation Settling (processCallback config logId provider) Q E c := by
  unfold processCallback
  split
  · exact wp_updateCallbackLog hpend fun _ _ => hQ _ _
  · split
    · exact wp_updateCallbackLog hpend fun _ _ => hQ _ _
    · rw [wp_bind, wp_ask]
      intro answer
      cases answer with
      | none => exact hE _ _
      | some result =>
        simp only []
        rw [wp_bind]
        refine wp_updateCallbackLog hpend fun c₁ hp₁ => ?_
        split
        · exact wp_completeVerifiedCallback hp₁ hE hQ
        · exact hQ _ _

theorem wp_handleCallback {provider : PaymentProviderType} {Q : Unit → Ctx sig → Prop}
    (hpend : c.pending = []) (hE : ∀ e c', E e c') (hQ : ∀ a c', Q a c') :
    wp isolation Settling (handleCallback config provider) Q E c := by
  unfold handleCallback
  rw [wp_bind, wp_ask]
  intro logId
  rw [wp_bind, wp_exec]
  refine ⟨fun r hr => absurd hr List.not_mem_nil, ?_⟩
  rw [wp_bind]
  refine wp_commit (fun db _ => ?_) fun c₁ hp₁ _ => ?_
  · show Settling c.seen db (c.pending ++ [_])
    rw [hpend, List.nil_append]
    exact .callback trivial
  · rw [wp_catchErr]
    refine wp_processCallback hp₁ (fun e c₂ => ?_) hQ
    rw [wp_bind]
    exact wp_updateCallbackLog rfl fun _ _ => hE _ _

end Rules

end SubscriptionSaas.Payment
