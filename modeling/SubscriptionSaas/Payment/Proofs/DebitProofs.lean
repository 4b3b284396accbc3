import SubscriptionSaas.Payment.Proofs.EffectProofs

/-!
# What the debit attempt service commits

A debit attempt and its payment order are written together and under both locks, and only as long as
the attempt is unresolved and the order unpaid. The chapter ends with the rule for a whole call:
whatever the payment services commit is an `Effect`.
-/

namespace SubscriptionSaas.Payment

open Transaction SubscriptionSaas.Finance

section Rules

variable {α : Type} {config : PaymentRuntimeConfig} {E : Err → Ctx sig → Prop} {c : Ctx sig}

/-- The attempt and its order are locked, and nothing has been written yet. -/
structure LockedAttempt (c : Ctx sig) (attempt : DebitAttempt) (order : PaymentOrder) : Prop where
  pending : c.pending = []
  orderHeld : Row.paymentOrder order.id ∈ c.held
  attemptHeld : Row.debitAttempt attempt.id ∈ c.held
  order_eq : c.db.paymentOrder? order.id = some order
  attempt_eq : c.db.debitAttempt? attempt.id = some attempt
  of : attempt.paymentOrderId = order.id

theorem wp_withLockedAttempt {attemptId : Id} {operation : DebitAttempt → PaymentOrder → Tx α}
    {Q : α → Ctx sig → Prop} (hpend : c.pending = []) (hE : ∀ e c', E e c')
    (hop : ∀ c' attempt order, LockedAttempt c' attempt order → attempt.id = attemptId →
      wp isolation Effect (operation attempt order) Q E c') :
    wp isolation Effect (withLockedAttempt attemptId operation) Q E c := by
  unfold withLockedAttempt lockPaymentOrder
  rw [wp_bind]
  refine wp_read fun c₁ hs₁ _ => ?_
  have hp₁ := hs₁.pending_nil hpend
  rw [hpend, view_nil]
  cases hcandidate : c₁.db.debitAttempt? attemptId with
  | none => exact hE _ _
  | some candidate =>
    simp only []
    rw [wp_bind]
    refine wp_lock fun c₂ hs₂ horder => ?_
    rw [wp_bind]
    refine wp_lock fun c₃ hs₃ hattempt => ?_
    rw [wp_bind]
    refine wp_read fun c₄ hs₄ _ => ?_
    rw [wp_bind]
    refine wp_read fun c₅ hs₅ _ => ?_
    have hp₃ := (hs₂.trans hs₃).pending_nil hp₁
    have hp₄ := hs₄.pending_nil hp₃
    rw [hp₃, hp₄, view_nil, view_nil]
    cases ha : c₄.db.debitAttempt? attemptId with
    | none => exact hE _ _
    | some attempt =>
      cases ho : c₅.db.paymentOrder? candidate.paymentOrderId with
      | none => exact hE _ _
      | some order =>
        have hid : attempt.id = attemptId := Db.debitAttempt?_id ha
        have hoid : order.id = candidate.paymentOrderId := Db.paymentOrder?_id ho
        have hof : attempt.paymentOrderId = candidate.paymentOrderId := by
          obtain ⟨a, ha', heq⟩ := ((hs₂.trans hs₃).trans hs₄).rely.1.debitAttempt _ _ hcandidate
          rw [Option.some.inj (ha.symm.trans ha')]
          exact heq.paymentOrderId
        refine hop c₅ attempt order ?_ hid
        exact
          { pending := hs₅.pending_nil hp₄
            orderHeld := hoid ▸ hs₅.held _ (hs₄.held _ (hs₃.held _ horder))
            attemptHeld := hid ▸ hs₅.held _ (hs₄.held _ hattempt)
            order_eq := hoid ▸ ho
            attempt_eq := by
              have hrow : c₄.db.debitAttempt? attemptId = c₅.db.debitAttempt? attemptId :=
                hs₅.rely.2 _ (hs₄.held _ hattempt)
              rw [hid, ← hrow, ha]
            of := hof.trans hoid.symm }

/-- The two rows on the database the transaction commits to. -/
theorem LockedAttempt.current {attempt : DebitAttempt} {order : PaymentOrder}
    (h : LockedAttempt c attempt order) {db : Db} (hr : Rely c.held c.db db) :
    db.paymentOrder? order.id = some order ∧ db.debitAttempt? attempt.id = some attempt :=
  ⟨(hr.2 _ h.orderHeld).symm.trans h.order_eq, (hr.2 _ h.attemptHeld).symm.trans h.attempt_eq⟩

theorem settledAlready_false {attempt : DebitAttempt} {order : PaymentOrder}
    (h : ¬ settledAlready attempt order = true) :
    unresolved attempt.status = true ∧ order.paymentStatus ≠ .paid := by
  simp only [settledAlready, Bool.or_eq_true, beq_iff_eq, Bool.not_eq_true', not_or] at h
  exact ⟨by simpa using h.2, h.1.2⟩

theorem wp_keepAttempt {attempt : DebitAttempt} {Q : DebitAttempt → Ctx sig → Prop}
    (hpend : c.pending = []) (hQ : ∀ a c', Q a c') :
    wp isolation Effect (keepAttempt attempt) Q E c := by
  unfold keepAttempt
  rw [wp_bind]
  exact wp_commit_nothing hpend fun _ _ _ => hQ _ _

theorem wp_writeDebitOutcome {attempt : DebitAttempt} {order : PaymentOrder}
    {patch : DebitAttemptPatch} {orderPatch : PaymentOrderPatch}
    {Q : DebitAttempt → Ctx sig → Prop} (h : LockedAttempt c attempt order)
    (hopen : unresolved attempt.status = true) (hunpaid : order.paymentStatus ≠ .paid)
    (hp : patch.status ≠ .succeeded) (hq : IsDebitPatch orderPatch)
    (hstill : ∀ now, unresolved patch.status = true →
      (orderPatch.apply now order).paymentStatus = .pending) (hQ : ∀ a c', Q a c') :
    wp isolation Effect (writeDebitOutcome attempt patch orderPatch) Q E c := by
  unfold writeDebitOutcome
  rw [wp_bind, wp_exec, h.of]
  refine ⟨?_, ?_⟩
  · intro r hr
    rw [show r = Row.debitAttempt attempt.id by simpa [isolation, Write.touches] using hr]
    exact h.attemptHeld
  rw [wp_bind, wp_ask]
  intro now
  rw [wp_bind, wp_exec]
  refine ⟨?_, ?_⟩
  · intro r hr
    rw [show r = Row.paymentOrder order.id by simpa [isolation, Write.touches] using hr]
    exact h.orderHeld
  rw [wp_bind]
  refine wp_commit (fun db hr => ?_) fun _ _ _ => hQ _ _
  obtain ⟨horder, hattempt⟩ := h.current hr
  show Effect c.seen db ((c.pending ++ [_]) ++ [_])
  rw [h.pending]
  exact .debit horder hattempt h.of hopen hunpaid hp hq (hstill now)

theorem wp_persistUnknown {attemptId : Id} {Q : DebitAttempt → Ctx sig → Prop}
    (hpend : c.pending = []) (hE : ∀ e c', E e c') (hQ : ∀ a c', Q a c') :
    wp isolation Effect (persistUnknown attemptId) Q E c := by
  unfold persistUnknown
  refine wp_withLockedAttempt hpend hE fun c' attempt order h _ => ?_
  by_cases hdone : settledAlready attempt order = true
  · rw [if_pos hdone]
    exact wp_keepAttempt h.pending hQ
  · rw [if_neg hdone]
    obtain ⟨hopen, hunpaid⟩ := settledAlready_false hdone
    exact wp_writeDebitOutcome h hopen hunpaid nofun trivial (fun _ _ => rfl) hQ

theorem wp_persistAmountMismatch {attemptId : Id} {result : DebitProviderResult}
    {Q : DebitAttempt → Ctx sig → Prop} (hpend : c.pending = []) (hE : ∀ e c', E e c')
    (hQ : ∀ a c', Q a c') :
    wp isolation Effect (persistAmountMismatch attemptId result) Q E c := by
  unfold persistAmountMismatch
  refine wp_withLockedAttempt hpend hE fun c' attempt order h _ => ?_
  by_cases hdone : settledAlready attempt order = true
  · rw [if_pos hdone]
    exact wp_keepAttempt h.pending hQ
  · rw [if_neg hdone, wp_bind]
    obtain ⟨hopen, hunpaid⟩ := settledAlready_false hdone
    refine wp_paidAtOrNow fun resolvedAt => ?_
    refine wp_writeDebitOutcome h hopen hunpaid nofun trivial (fun _ hfinal => ?_) hQ
    exact absurd hfinal Bool.false_ne_true

theorem failed_of_unresolved {status : DebitAttemptStatus} (h : unresolved status = true) :
    failedAttemptStatus status = false := by
  cases status <;> first | rfl | cases h

theorem wp_persistStatus {attemptId : Id} {status : DebitAttemptStatus}
    {result : DebitProviderResult} {Q : DebitAttempt → Ctx sig → Prop} (hpend : c.pending = [])
    (hstatus : status ≠ .succeeded) (hE : ∀ e c', E e c') (hQ : ∀ a c', Q a c') :
    wp isolation Effect (persistStatus attemptId status result) Q E c := by
  unfold persistStatus
  refine wp_withLockedAttempt hpend hE fun c' attempt order h _ => ?_
  by_cases hdone : settledAlready attempt order = true
  · rw [if_pos hdone]
    exact wp_keepAttempt h.pending hQ
  · rw [if_neg hdone, wp_bind, wp_ask]
    obtain ⟨hopen, hunpaid⟩ := settledAlready_false hdone
    intro now
    refine wp_writeDebitOutcome h hopen hunpaid hstatus trivial (fun _ hstill => ?_) hQ
    have hnot : failedAttemptStatus status = false := failed_of_unresolved hstill
    show (if failedAttemptStatus status then PaymentOrderStatus.failed else .pending) = .pending
    rw [hnot, if_neg Bool.false_ne_true]

theorem wp_settleDebit {attempt : DebitAttempt} {result : DebitProviderResult}
    {Q : DebitAttempt → Ctx sig → Prop} (hpend : c.pending = []) (hE : ∀ e c', E e c')
    (hQ : ∀ a c', Q a c') : wp isolation Effect (settleDebit attempt result) Q E c := by
  unfold settleDebit
  rw [wp_bind]
  refine wp_paidAtOrNow fun resolvedAt => ?_
  rw [wp_bind]
  refine wp_settlePaymentOrder hpend (fun _ _ _ h => .settle _ h) hE
    fun _ c₁ => ?_
  rw [wp_bind]
  refine wp_read fun c₂ _ _ => ?_
  split
  · exact hE _ _
  · exact hQ _ _

theorem wp_persistProviderResult {attemptId : Id} {result : DebitProviderResult}
    {Q : DebitAttempt → Ctx sig → Prop} (hpend : c.pending = []) (hE : ∀ e c', E e c')
    (hQ : ∀ a c', Q a c') :
    wp isolation Effect (persistProviderResult attemptId result) Q E c := by
  unfold persistProviderResult
  rw [wp_bind]
  refine wp_read fun c₁ hs₁ _ => ?_
  have hp₁ := hs₁.pending_nil hpend
  split
  · exact hE _ _
  · split
    · exact hQ _ _
    · simp only []
      split
      · split
        · exact wp_persistAmountMismatch hp₁ hE hQ
        · exact wp_settleDebit hp₁ hE hQ
      · rename_i hstatus
        exact wp_persistStatus hp₁ (by simpa using hstatus) hE hQ

/-! ## submitBillDebit -/

/-- The attempt is there, with all that never changes of it. -/
def Filed (db : Db) (attempt : DebitAttempt) : Prop :=
  ∃ a, db.debitAttempt? attempt.id = some a ∧ attempt.Same a

theorem Filed.of_get {db : Db} {attempt : DebitAttempt}
    (h : db.debitAttempt? attempt.id = some attempt) : Filed db attempt := ⟨attempt, h, .refl _⟩

theorem Filed.frame {db db' : Db} {attempt : DebitAttempt} (h : Filed db attempt)
    (hf : Frame db db') : Filed db' attempt := by
  obtain ⟨a, ha, hsame⟩ := h
  obtain ⟨a', ha', hsame'⟩ := hf.debitAttempt _ a ha
  exact ⟨a', ha', hsame.trans hsame'⟩

/-- A submission that goes to the provider is there. -/
def PreparedSubmission.Filed (db : Db) : PreparedSubmission → Prop
  | .submit attempt => Payment.Filed db attempt
  | _ => True

/-- The bill is locked, and the latest attempt on it had been resolved when it was read since. -/
structure NextAttempt (c : Ctx sig) (billId : Id) : Prop where
  pending : c.pending = []
  held : Row.bill billId ∈ c.held
  snapshot : ∃ snap, (Tag.debitAttempt, snap) ∈ c.seen ∧
    (∀ latest, latestAttempt billId snap = some latest → unresolved latest.status = false) ∧
    snap.billAttemptIds billId = c.db.billAttemptIds billId

theorem billAttemptIds_rely {db : Db} (hr : Rely c.held c.db db) {id : Id}
    (hheld : Row.bill id ∈ c.held) : c.db.billAttemptIds id = db.billAttemptIds id :=
  (hr.2 _ hheld).2.2.2

theorem NextAttempt.step {billId : Id} (h : NextAttempt c billId) {c' : Ctx sig}
    (hs : Step c c' []) : NextAttempt c' billId where
  pending := hs.pending_nil h.pending
  held := hs.held _ h.held
  snapshot := by
    obtain ⟨snap, hsnap, hlatest, hids⟩ := h.snapshot
    exact ⟨snap, hs.seen _ hsnap, hlatest, hids.trans (billAttemptIds_rely hs.rely h.held)⟩

theorem wp_submitDebit {attempt : DebitAttempt} {Q : Option DebitProviderResult → Ctx sig → Prop}
    (hpend : c.pending = []) (hfiled : Filed c.db attempt) (hQ : ∀ a c', c'.pending = [] → Q a c') :
    wp isolation Effect (submitDebit attempt) Q E c := by
  unfold submitDebit
  rw [wp_bind, wp_exec]
  refine ⟨fun r hr => absurd hr List.not_mem_nil, ?_⟩
  rw [wp_bind]
  refine wp_commit (fun db hr => ?_) fun c' hp' _ => ?_
  · obtain ⟨a, ha, hsame⟩ := hfiled.frame hr.1
    show Effect c.seen db (c.pending ++ [_])
    rw [hpend]
    exact .request ha hsame.requestedAmount.symm hsame.providerOutTradeNo.symm
  · rw [wp_ask]
    exact fun answer => hQ answer c' hp'

theorem wp_endPreparation {prepared : PreparedSubmission} {Q : PreparedSubmission → Ctx sig → Prop}
    (hpend : c.pending = []) (hprepared : ∀ db, prepared.Filed db)
    (hQ : ∀ a c', c'.pending = [] → a.Filed c'.db → Q a c') :
    wp isolation Effect (endPreparation prepared) Q E c := by
  unfold endPreparation
  rw [wp_bind]
  exact wp_commit_nothing hpend fun c' hc' _ => hQ _ c' hc' (hprepared _)

theorem wp_createSubmission {bill : ReceivableBill} {key : String} {slot : DebitRetrySlot}
    {provider : PaymentProviderType} {Q : PreparedSubmission → Ctx sig → Prop}
    (hnext : NextAttempt c bill.id) (hE : ∀ e c', E e c')
    (hQ : ∀ a c', c'.pending = [] → a.Filed c'.db → Q a c') :
    wp isolation Effect (createSubmission config bill key slot provider) Q E c := by
  unfold createSubmission
  simp only []
  rw [wp_bind, wp_ask]
  intro attemptId
  rw [wp_bind]
  refine wp_lock fun c₁ hs₁ hheld => ?_
  have hp₁ := hs₁.pending_nil hnext.pending
  rw [wp_bind]
  refine wp_read fun c₂ hs₂ _ => ?_
  have hp₂ := hs₂.pending_nil hp₁
  rw [wp_bind, wp_ensure]
  refine ⟨fun hnew => ?_, fun _ => hE _ _⟩
  rw [wp_bind]
  refine wp_insertPaymentOrder (fun _ _ _ => rfl) hE fun c₃ id no now hs₃ horder hfresh => ?_
  rw [wp_bind, wp_ask]
  intro createdAt
  have hheld₂ := hs₂.held _ hheld
  have hnext₂ := (hnext.step hs₁).step hs₂
  rw [wp_bind, wp_exec]
  refine ⟨?_, ?_⟩
  · intro r hr
    have hr : r = Row.debitAttempt attemptId ∨ r = Row.bill bill.id := by
      simpa [isolation, Write.touches] using hr
    rcases hr with rfl | rfl
    · exact hs₃.held _ hheld₂
    · exact hs₃.held _ hnext₂.held
  rw [wp_bind]
  rw [hp₂, view_nil] at hfresh
  rw [hp₁, view_nil] at hnew
  have hnone : c₂.db.debitAttempt? attemptId = none := by simpa using hnew
  have hrow (db : Db) (hr : Rely c₃.held c₃.db db) : db.debitAttempt? attemptId = none :=
    ((hs₃.rely.trans (hr.mono hs₃.held)).2 _ hheld₂).symm.trans hnone
  have hpending := hs₃.pending
  rw [hp₂, List.nil_append] at hpending
  refine wp_commit_view (fun db hr => ?_) fun c' db hc' hr hdb => hQ _ c' hc' ?_
  · obtain ⟨snap, hsnap, hlatest, hids⟩ := hnext₂.snapshot
    show Effect c₃.seen db (c₃.pending ++ [_])
    rw [hpending]
    refine .submit ((hr.2 _ horder).symm.trans hfresh) (hrow db hr) rfl rfl rfl rfl
      (hs₃.seen _ hsnap) hlatest (hids.trans ?_)
    exact billAttemptIds_rely (hs₃.rely.trans (hr.mono hs₃.held)) hnext₂.held
  · refine Filed.of_get ?_
    rw [hdb, hpending, view_append]
    exact debitAttempt?_insert (hrow db hr)

theorem wp_startSubmission {bill : ReceivableBill} {key : String} {slot : DebitRetrySlot}
    {Q : PreparedSubmission → Ctx sig → Prop} (hnext : NextAttempt c bill.id) (hE : ∀ e c', E e c')
    (hQ : ∀ a c', c'.pending = [] → a.Filed c'.db → Q a c') :
    wp isolation Effect (startSubmission config bill key slot) Q E c := by
  unfold startSubmission
  rw [wp_bind, wp_ask]
  intro mandate
  cases mandate with
  | none => exact wp_endPreparation hnext.pending (fun _ => trivial) hQ
  | some provider => exact wp_createSubmission hnext hE hQ

theorem wp_prepareNextAttempt {bill : ReceivableBill} {key : String} {slot : DebitRetrySlot}
    {Q : PreparedSubmission → Ctx sig → Prop} (hpend : c.pending = [])
    (hheld : Row.bill bill.id ∈ c.held) (hE : ∀ e c', E e c')
    (hQ : ∀ a c', c'.pending = [] → a.Filed c'.db → Q a c') :
    wp isolation Effect (prepareNextAttempt config bill key slot) Q E c := by
  unfold prepareNextAttempt
  rw [wp_bind]
  refine wp_read fun c₁ hs₁ hsnap => ?_
  have hp₁ := hs₁.pending_nil hpend
  rw [hpend, view_nil]
  -- the snapshot is the database as it is, and the bill's attempts stay as long as it is locked
  have hnext (hlatest : ∀ latest, latestAttempt bill.id c₁.db = some latest →
      unresolved latest.status = false) : NextAttempt c₁ bill.id :=
    ⟨hp₁, hs₁.held _ hheld, c₁.db, hsnap, hlatest, rfl⟩
  rcases hread : latestAttempt bill.id c₁.db with _ | latest
  · exact wp_startSubmission (hnext fun latest hlatest => by rw [hread] at hlatest; cases hlatest)
      hE hQ
  · dsimp only
    by_cases hopen : unresolved latest.status = true
    · rw [if_pos hopen]
      exact wp_endPreparation hp₁ (fun _ => trivial) hQ
    · rw [if_neg hopen]
      split
      · refine wp_startSubmission (hnext fun latest' hlatest => ?_) hE hQ
        obtain rfl := Option.some.inj (hread.symm.trans hlatest)
        exact eq_false_of_ne_true hopen
      · exact wp_endPreparation hp₁ (fun _ => trivial) hQ

theorem wp_prepareSubmission {billId : Id} {key : String} {slot : DebitRetrySlot}
    {Q : PreparedSubmission → Ctx sig → Prop} (hpend : c.pending = []) (hE : ∀ e c', E e c')
    (hQ : ∀ a c', c'.pending = [] → a.Filed c'.db → Q a c') :
    wp isolation Effect (prepareSubmission config billId key slot) Q E c := by
  unfold prepareSubmission
  rw [wp_bind]
  refine wp_lock fun c₁ hs₁ hheld => ?_
  rw [wp_bind]
  refine wp_read fun c₂ hs₂ _ => ?_
  have hp₁ := hs₁.pending_nil hpend
  have hp₂ := hs₂.pending_nil hp₁
  rw [hp₁, view_nil]
  rcases hbill : (c₂.db.bill? billId).filter debitable with _ | bill
  · exact wp_endPreparation hp₂ (fun _ => trivial) hQ
  · dsimp only
    obtain rfl : bill.id = billId := Db.bill?_id (Option.filter_eq_some_iff.1 hbill).1
    rw [wp_bind]
    refine wp_read fun c₃ hs₃ _ => ?_
    have hp₃ := hs₃.pending_nil hp₂
    split
    · refine wp_endPreparation hp₃ (fun _ => ?_) hQ
      split <;> trivial
    · exact wp_prepareNextAttempt hp₃ (hs₃.held _ (hs₂.held _ hheld)) hE hQ

theorem wp_submitBillDebit {billId : Option Id} {key : String} {slot : DebitRetrySlot}
    {Q : DebitAction → Ctx sig → Prop} (hpend : c.pending = []) (hE : ∀ e c', E e c')
    (hQ : ∀ a c', Q a c') :
    wp isolation Effect (submitBillDebit config billId key slot) Q E c := by
  unfold submitBillDebit
  cases billId with
  | none => exact hQ _ _
  | some billId =>
    simp only []
    rw [wp_bind]
    refine wp_prepareSubmission hpend hE fun prepared c₁ hp₁ hfiled => ?_
    cases prepared with
    | skipped => exact hQ _ _
    | query attempt => exact hQ _ _
    | submit attempt =>
      simp only []
      rw [wp_bind]
      refine wp_submitDebit hp₁ hfiled fun answer c₂ hp₂ => ?_
      cases answer with
      | none =>
        simp only []
        rw [wp_bind]
        exact wp_persistUnknown hp₂ hE fun _ _ => hQ _ _
      | some result =>
        simp only []
        split
        · rw [wp_bind]
          exact wp_persistUnknown hp₂ hE fun _ _ => hQ _ _
        · rw [wp_bind]
          exact wp_persistProviderResult hp₂ hE fun _ _ => hQ _ _

/-! ## queryDebitAttempt -/

theorem wp_prepareResubmission {attemptId : Id} {Q : Bool × DebitAttempt → Ctx sig → Prop}
    (hpend : c.pending = []) (hE : ∀ e c', E e c')
    (hQ : ∀ attempt c', c'.pending = [] → Filed c'.db attempt → Q (true, attempt) c')
    (hQ' : ∀ attempt c', Q (false, attempt) c') :
    wp isolation Effect (prepareResubmission attemptId) Q E c := by
  unfold prepareResubmission
  refine wp_withLockedAttempt hpend hE fun c' attempt order h _ => ?_
  by_cases hdone : settledAlready attempt order = true
  · rw [if_pos hdone, wp_bind]
    exact wp_keepAttempt h.pending fun _ _ => hQ' _ _
  · rw [if_neg hdone, wp_bind, wp_ask]
    obtain ⟨hopen, hunpaid⟩ := settledAlready_false hdone
    intro mandate
    cases mandate with
    | none =>
      simp only []
      rw [wp_bind, wp_ask]
      intro now
      rw [wp_bind]
      refine wp_writeDebitOutcome h hopen hunpaid nofun trivial (fun _ hstill => ?_)
        fun _ _ => hQ' _ _
      exact absurd hstill Bool.false_ne_true
    | some provider =>
      simp only []
      rw [wp_bind, wp_exec]
      refine ⟨?_, ?_⟩
      · intro r hr
        rw [show r = Row.debitAttempt attempt.id by simpa [isolation, Write.touches] using hr]
        exact h.attemptHeld
      rw [wp_bind]
      refine wp_commit (fun db hr => ?_) fun c'' hc'' hframe => hQ _ c'' hc'' ?_
      · obtain ⟨horder, hattempt⟩ := h.current hr
        show Effect c'.seen db (c'.pending ++ [_])
        rw [h.pending]
        exact .resubmit horder hattempt h.of hopen hunpaid
      · obtain ⟨a, ha, hsame⟩ := hframe.debitAttempt _ _ h.attempt_eq
        exact ⟨a, ha, ⟨hsame.id, hsame.paymentOrderId, hsame.billId, hsame.requestedAmount,
          hsame.providerOutTradeNo, hsame.createdAt⟩⟩

theorem wp_resubmitKnownMissing {attemptId : Id} {Q : DebitAction → Ctx sig → Prop}
    (hpend : c.pending = []) (hE : ∀ e c', E e c') (hQ : ∀ a c', Q a c') :
    wp isolation Effect (resubmitKnownMissing attemptId) Q E c := by
  unfold resubmitKnownMissing
  rw [wp_bind]
  refine wp_prepareResubmission hpend hE (fun attempt c₁ hp₁ hfiled => ?_) fun _ _ => hQ _ _
  simp only [if_true]
  rw [wp_bind]
  refine wp_submitDebit hp₁ hfiled fun answer c₂ hp₂ => ?_
  cases answer with
  | none =>
    simp only []
    rw [wp_bind]
    exact wp_persistUnknown hp₂ hE fun _ _ => hQ _ _
  | some result =>
    simp only []
    rw [wp_bind]
    exact wp_persistProviderResult hp₂ hE fun _ _ => hQ _ _

theorem wp_queryDebitAttempt {attemptId : Id} {Q : DebitAction → Ctx sig → Prop}
    (hpend : c.pending = []) (hE : ∀ e c', E e c') (hQ : ∀ a c', Q a c') :
    wp isolation Effect (queryDebitAttempt attemptId) Q E c := by
  unfold queryDebitAttempt
  rw [wp_bind]
  refine wp_read fun c₁ hs₁ _ => ?_
  have hp₁ := hs₁.pending_nil hpend
  split
  · exact hQ _ _
  · split
    · exact hQ _ _
    · rw [wp_bind, wp_ask]
      intro answer
      cases answer with
      | none =>
        simp only []
        rw [wp_bind]
        exact wp_persistUnknown hp₁ hE fun _ _ => hQ _ _
      | some result =>
        simp only []
        split
        · exact wp_resubmitKnownMissing hp₁ hE hQ
        · split
          · rw [wp_bind]
            exact wp_persistUnknown hp₁ hE fun _ _ => hQ _ _
          · rw [wp_bind]
            exact wp_persistProviderResult hp₁ hE fun _ _ => hQ _ _

end Rules

/-- What each call commits. -/
def PaymentCall.duty : PaymentCall → Duty sig
  | .callback _ | .mockPay _ _ => Settling
  | .finance call => call.duty
  | .closure facts => fun _ _ ws => ws = [.setClosure facts]
  | _ => Effect

/-- A commit is an effect, a sequence of moves of money, or a decision of the closure subsystem. -/
theorem PaymentCall.duty_cases {call : PaymentCall} {seen : Seen} {before : Db} {ws : List Write}
    (h : call.duty seen before ws) : Effect seen before ws ∨
      (Moves seen before ws ∧ ∀ w ∈ ws, w.IsMoney) ∨ ∃ facts, ws = [.setClosure facts] := by
  cases call with
  | mockPay id customerId => exact .inl (Settling.effect h)
  | callback provider => exact .inl (Settling.effect h)
  | finance call =>
    rcases LedgerCall.duty_cases h with ⟨input, hset⟩ | hmoney
    · exact .inl (.settle input hset)
    · exact .inr (.inl ⟨LedgerCall.duty_moves h, hmoney⟩)
  | closure facts => exact .inr (.inr ⟨facts, h⟩)
  | _ => exact .inl h

theorem wp_paymentBody (config : PaymentRuntimeConfig) (call : PaymentCall) (db : Db) :
    wp isolation call.duty (paymentBody config call) anyEnd anyEnd (Ctx.start db) := by
  have hE : ∀ (e : Err) (c' : Ctx sig), anyEnd e c' := fun _ _ => trivial
  have hQ : ∀ {C : Duty sig} {γ : Type} (a : γ) (c' : Ctx sig),
      wp isolation C (pure () : Tx Unit) anyEnd anyEnd c' := fun _ _ => trivial
  cases call with
  | closeActive billIds =>
    rw [paymentBody, wp_bind]
    exact wp_closeActivePaymentOrdersForBills rfl hE hQ
  | createPortal customerId billIds channel =>
    rw [paymentBody, wp_bind]
    exact wp_createPortalPaymentOrder rfl hE hQ
  | startPortal id customerId =>
    rw [paymentBody, wp_bind]
    exact wp_startPortalPayment rfl hE hQ
  | mockPay id customerId =>
    rw [paymentBody, wp_bind]
    exact wp_mockPay rfl hE hQ
  | callback provider => exact wp_handleCallback rfl hE fun _ _ => trivial
  | submitBillDebit billId key slot =>
    rw [paymentBody, wp_bind]
    exact wp_submitBillDebit rfl hE hQ
  | queryDebitAttempt attemptId =>
    rw [paymentBody, wp_bind]
    exact wp_queryDebitAttempt rfl hE hQ
  | finance call => exact wp_ledgerBody call db
  | closure facts =>
    rw [paymentBody, wp_bind, wp_exec]
    refine ⟨fun r hr => absurd hr List.not_mem_nil, ?_⟩
    exact wp_commit (fun _ _ => rfl) fun _ _ _ => trivial

end SubscriptionSaas.Payment
