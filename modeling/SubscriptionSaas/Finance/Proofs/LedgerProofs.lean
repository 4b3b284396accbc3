import SubscriptionSaas.Finance.Proofs.SettleProofs

/-!
# The money operations side by side

Any number of `createPayment`, `writeOffPayment`, `settlePaymentOrder`, `deductDeposit` and
`refundDeposit` transactions, interleaved statement by statement.

The bills stay consistent in every run, since every payment of a bill happens under the lock of its
row. The payments and the deposit ledgers do not: a write-off reads what is left of its payment before
it locks anything, and a deposit balance is read without a lock. They stay consistent exactly as far
as those reads are still current when the transaction commits.
-/

namespace SubscriptionSaas.Finance

open Transaction RunningBalance

/-- What each operation commits. -/
def LedgerCall.duty : LedgerCall → Duty sig
  | .createPayment _ _ => PlainDuty
  | .writeOffPayment paymentId items _ => WriteOffDuty paymentId items
  | .settlePaymentOrder input => SettleDuty input
  | .deductDeposit _ _ _ _ => PlainDuty
  | .refundDeposit _ _ _ => PlainDuty

theorem wp_ledgerBody (call : LedgerCall) (db : Db) :
    wp isolation call.duty (ledgerBody call) anyEnd anyEnd (Ctx.start db) := by
  cases call with
  | createPayment dto user =>
    exact wp_createPayment rfl (fun _ _ _ h => h) (fun _ _ => trivial) (fun _ _ => trivial)
  | writeOffPayment paymentId items user =>
    exact wp_writeOffPayment rfl (fun _ _ _ h => h) (fun _ _ => trivial) (fun _ _ => trivial)
  | settlePaymentOrder input =>
    rw [ledgerBody, wp_bind]
    exact wp_settlePaymentOrder rfl (fun _ _ _ h => h) (fun _ _ => trivial) (fun _ _ => trivial)
  | deductDeposit orderId billId amount user =>
    exact wp_deductDeposit rfl (fun _ _ _ h => h) (fun _ _ => trivial) (fun _ _ => trivial)
  | refundDeposit orderId amount user =>
    exact wp_refundDeposit rfl (fun _ _ _ h => h) (fun _ _ => trivial) (fun _ _ => trivial)

theorem LedgerCall.duty_moves {call : LedgerCall} {seen : Seen} {before : Db} {ws : List Write}
    (h : call.duty seen before ws) : Moves seen before ws := by
  cases call <;> exact h.1

/-- Only a settlement writes on anything but bills, payments, write-offs and deposit rows. -/
theorem LedgerCall.duty_cases {call : LedgerCall} {seen : Seen} {before : Db} {ws : List Write}
    (h : call.duty seen before ws) :
    (∃ input, SettleDuty input seen before ws) ∨ ∀ w ∈ ws, w.IsMoney := by
  cases call with
  | createPayment dto user => exact .inr h.2.2
  | deductDeposit orderId billId amount user => exact .inr h.2.2
  | refundDeposit orderId amount user => exact .inr h.2.2
  | settlePaymentOrder input => exact .inl ⟨input, h⟩
  | writeOffPayment paymentId items user =>
    obtain ⟨-, payment, snap, -, -, -, hb⟩ := h
    exact .inr hb.money

/-- A run of the money operations from `db₀`. -/
abbrev ledgerRun (db₀ : Db) (evs : List (Event sig LedgerCall)) : Machine sig LedgerCall :=
  (Machine.init db₀).runs ledgerBody evs

/-! ## Payments -/

/-- What the writes book on a payment. -/
def bookedOn (ws : List Write) (paymentId : Id) : Int :=
  sumWriteOffAmount ((ws.filterMap Write.writeOff?).filter fun w =>
    w.paymentId == paymentId && w.deletedAt.isNone)

theorem sum_view_paymentWriteOffs (ws : List Write) (db : Db) (paymentId : Id) :
    sumWriteOffAmount ((view ws db).paymentWriteOffs paymentId) =
      sumWriteOffAmount (db.paymentWriteOffs paymentId) + bookedOn ws paymentId := by
  rw [view_paymentWriteOffs, sumWriteOffAmount_append]
  rfl

theorem bookedOn_none {ws : List Write} (h : ws.filterMap Write.writeOff? = []) (paymentId : Id) :
    bookedOn ws paymentId = 0 := by
  rw [bookedOn, h]
  rfl

theorem Booked.bookedOn {ids : List Id} {paymentId : Id} {amount : Int} {ws paid : List Write}
    (h : Booked ids paymentId amount paid)
    (hws : ws.filterMap Write.writeOff? = paid.filterMap Write.writeOff?) (q : Id) :
    Finance.bookedOn ws q = if q = paymentId then amount else 0 := by
  unfold Finance.bookedOn
  rw [hws]
  by_cases hq : q = paymentId
  · rw [if_pos hq, List.filter_eq_self.mpr, h.sum]
    intro w hw
    obtain ⟨h1, h2, -⟩ := h.writeOff w hw
    simp [h1, h2, hq]
  · rw [if_neg hq, List.filter_eq_nil_iff.mpr]
    · rfl
    · intro w hw
      obtain ⟨h1, -, -⟩ := h.writeOff w hw
      simp only [h1, Bool.and_eq_true, beq_iff_eq, not_and]
      exact fun hc => absurd hc.symm hq

/-- Every payment that is added has a positive amount. -/
theorem Moves.payment_pos {seen : Seen} {before : Db} {ws : List Write}
    (h : Moves seen before ws) : ∀ p ∈ ws.filterMap Write.payment?, 0 < p.paymentAmount := by
  induction h with
  | nil => intro p hp; simp at hp
  | addPayment _ _ hpos _ _ ih =>
    intro p hp
    rw [List.filterMap_append, List.mem_append] at hp
    rcases hp with hp | hp
    · exact ih p hp
    · rw [show p = _ by simpa [Write.payment?, List.filterMap_cons] using hp]
      exact hpos
  | pay _ _ _ ih => simpa [List.filterMap_append, Write.payment?, List.filterMap_cons] using ih
  | collect _ _ _ _ _ _ _ _ _ ih =>
    simpa [List.filterMap_append, Write.payment?, List.filterMap_cons] using ih
  | deduct _ _ _ _ _ _ ih =>
    simpa [List.filterMap_append, Write.payment?, List.filterMap_cons] using ih
  | refund _ _ _ _ _ ih =>
    simpa [List.filterMap_append, Write.payment?, List.filterMap_cons] using ih
  | @other ws w _ hw ih =>
    have hnone : [w].filterMap Write.payment? = [] := by
      cases w with
      | insertPayment p => exact hw.elim
      | _ => rfl
    rw [List.filterMap_append, hnone, List.append_nil]
    exact ih

/-- Within scope, a payment that does not exist has no write-offs. -/
theorem paymentWriteOffs_none {db : Db} (hs : Scoped db) {id : Id} (h : db.payment? id = none) :
    db.paymentWriteOffs id = [] := by
  unfold Db.paymentWriteOffs
  rw [List.filter_eq_nil_iff]
  intro w hw hc
  have hid : w.paymentId = id := by
    simp only [Bool.and_eq_true, beq_iff_eq] at hc
    exact hc.1
  have := (hs.writeOffs w hw).2
  rw [hid, h] at this
  cases this

/-- A commit keeps the payments within their amounts if what it books on a payment is within what is
left of it. -/
theorem PaymentsOk.view {seen : Seen} {before : Db} {ws : List Write} (h : PaymentsOk before)
    (hs : Scoped before) (hmoves : Moves seen before ws)
    (hbooked : ∀ id p, (Finance.view ws before).payment? id = some p → bookedOn ws id = 0 ∨
      bookedOn ws id ≤ p.paymentAmount - sumWriteOffAmount (before.paymentWriteOffs id)) :
    PaymentsOk (Finance.view ws before) := by
  intro id p hp
  rw [sum_view_paymentWriteOffs]
  rcases hbooked id p hp with hzero | hle
  · rw [hzero]
    rw [view_payment?] at hp
    cases hold : before.payment? id with
    | some p₀ =>
      rw [hold, Option.some_or] at hp
      have := h id p₀ hold
      rw [Option.some.inj hp] at this
      omega
    | none =>
      rw [hold, Option.none_or] at hp
      have hpos := hmoves.payment_pos p (List.mem_of_find?_eq_some hp)
      rw [paymentWriteOffs_none hs hold]
      show (0 : Int) + 0 ≤ p.paymentAmount
      omega
  · omega

/-- The payment a call writes off. -/
def LedgerCall.writtenOff : LedgerCall → List Id
  | .writeOffPayment paymentId _ _ => [paymentId]
  | _ => []

/-- A write-off's reading of its payment is still current when it commits: no write-off of the payment
has been committed in between. -/
def WriteOffReadCurrent (c : Commit sig LedgerCall) : Prop :=
  ∀ id ∈ c.call.writtenOff, ∀ x ∈ c.seen, x.1 = Tag.paymentWriteOffs →
    x.2.paymentWriteOffs id = c.before.paymentWriteOffs id

instance (c : Commit sig LedgerCall) : Decidable (WriteOffReadCurrent c) :=
  inferInstanceAs (Decidable (∀ id ∈ c.call.writtenOff, ∀ x ∈ c.seen, x.1 = Tag.paymentWriteOffs →
    x.2.paymentWriteOffs id = c.before.paymentWriteOffs id))

theorem commit_paymentsOk {c : Commit sig LedgerCall} (hc : CommitOk LedgerCall.duty c)
    (hcur : WriteOffReadCurrent c) (hs : Scoped c.before) (h : PaymentsOk c.before) :
    PaymentsOk c.after := by
  obtain ⟨hduty, hafter⟩ := hc
  rw [hafter]
  refine h.view hs (LedgerCall.duty_moves hduty) fun id p hp => ?_
  have hplain : PlainDuty c.seen c.before c.writes → bookedOn c.writes id = 0 := fun hd =>
    bookedOn_none hd.2.1 id
  cases hcall : c.call with
  | createPayment dto user => rw [hcall] at hduty; exact .inl (hplain hduty)
  | deductDeposit orderId billId amount user => rw [hcall] at hduty; exact .inl (hplain hduty)
  | refundDeposit orderId amount user => rw [hcall] at hduty; exact .inl (hplain hduty)
  | writeOffPayment paymentId items user =>
    rw [hcall] at hduty
    obtain ⟨-, payment, snap, hpay, hsnap, hle, hb⟩ := hduty
    rw [hb.bookedOn rfl id]
    by_cases hid : id = paymentId
    · rw [if_pos hid]
      right
      have hread := hcur paymentId (by rw [hcall]; exact List.mem_singleton_self _) _ hsnap rfl
      rw [hread] at hle
      have hsame : p = payment := by
        rw [hid, view_payment?, hpay, Option.some_or] at hp
        exact (Option.some.inj hp).symm
      rw [hsame, hid]
      exact hle
    · exact .inl (if_neg hid)
  | settlePaymentOrder input =>
    rw [hcall] at hduty
    rcases hduty.2 with hrep | ⟨order, payment, a, u, blocked, paid, hset⟩
    · exact .inl (bookedOn_none hrep.tables.2.1 id)
    · obtain ⟨hpays, hoffs, -⟩ := hset.tables
      rw [hset.booked.bookedOn hoffs id]
      by_cases hid : id = payment.id
      · rw [if_pos hid]
        right
        rw [hid, view_payment?, hset.fresh, hpays] at hp
        have hsame : p = payment := by simpa using hp.symm
        rw [hid, paymentWriteOffs_none hs hset.fresh, hsame, hset.paymentAmount]
        have h1 := hset.conserved
        have h2 := hset.unallocated_nonneg
        show a ≤ input.paidAmount - 0
        omega
      · exact .inl (if_neg hid)

/-- What a database has to satisfy for a run to start on it. -/
structure Consistent (db : Db) : Prop where
  bills : BillsOk db
  payments : PaymentsOk db
  scope : Scoped db

/-- A check for `InScope`. -/
def Db.inScope (db : Db) (customerId orderId : Id) : Bool :=
  (db.order? orderId).any (·.customerId == customerId)

theorem InScope.of_check {db : Db} {c r : Id} (h : db.inScope c r = true) : InScope db c r := by
  obtain ⟨o, ho, hc⟩ := (Option.any_eq_true _ _).mp h
  exact ⟨o, ho, by simpa using hc⟩

/-- A check for `Consistent`. -/
def Db.consistent (db : Db) : Bool :=
  (db.bills.all fun b => decide (0 ≤ b.remainingAmount ∧ 0 ≤ b.paidAmount ∧
    b.paidAmount + b.remainingAmount = b.amount ∧
    b.paidAmount = sumWriteOffAmount (db.billWriteOffs b.id) + db.deducted b.id) &&
    db.inScope b.customerId b.orderId) &&
  (db.payments.all fun p =>
    decide (sumWriteOffAmount (db.paymentWriteOffs p.id) ≤ p.paymentAmount) &&
      db.inScope p.customerId p.orderId) &&
  (db.paymentOrders.all fun o => o.customerId.all fun c => o.orderId.all fun r => db.inScope c r) &&
  (db.writeOffs.all fun w =>
    db.inScope w.customerId w.orderId && (db.payment? w.paymentId).isSome) &&
  db.ledger.all fun l => db.inScope l.customerId l.orderId

theorem Consistent.of_check {db : Db} (h : db.consistent = true) : Consistent db := by
  simp only [Db.consistent, Bool.and_eq_true, List.all_eq_true, decide_eq_true_eq] at h
  obtain ⟨⟨⟨⟨hbills, hpays⟩, horders⟩, hoffs⟩, hledger⟩ := h
  refine ⟨fun id b hb => ?_, fun id p hp => ?_, ?_⟩
  · obtain ⟨⟨h1, h2, h3, h4⟩, -⟩ := hbills b (List.mem_of_find?_eq_some hb)
    exact ⟨h1, h2, h3, h4⟩
  · have := (hpays p (mem_of_payment? hp)).1
    rwa [Db.payment?_id hp] at this
  · refine ⟨fun id b hb => ?_, fun p hp => ?_, fun o ho c r hc hr => ?_, fun w hw => ?_, fun l hl => ?_⟩
    · exact .of_check (hbills b (List.mem_of_find?_eq_some hb)).2
    · exact .of_check (hpays p hp).2
    · have := horders o ho
      rw [hc, hr] at this
      exact .of_check this
    · exact ⟨.of_check (hoffs w hw).1, (hoffs w hw).2⟩
    · exact .of_check (hledger l hl)

/-- In every run every bill stays consistent. -/
theorem ledgerRun_billsOk {db₀ : Db} (h₀ : BillsOk db₀) (evs : List (Event sig LedgerCall)) :
    BillsOk (ledgerRun db₀ evs).db :=
  runs_invariant BillsOk (fun _ => True) wp_ledgerBody
    (fun _ hc _ h => hc.2 ▸ (LedgerCall.duty_moves hc.1).billsOk h) h₀ evs fun _ _ => trivial

/-- In every run in which write-offs commit on a current reading of their payment, no payment is
applied beyond its amount; and every bill is consistent. -/
theorem payments_never_over_applied {db₀ : Db} (h₀ : Consistent db₀)
    (evs : List (Event sig LedgerCall))
    (hcur : ∀ c ∈ (ledgerRun db₀ evs).history, WriteOffReadCurrent c) :
    (∀ id p, (ledgerRun db₀ evs).db.payment? id = some p →
      sumWriteOffAmount ((ledgerRun db₀ evs).db.paymentWriteOffs id) ≤ p.paymentAmount) ∧
    ∀ id b, (ledgerRun db₀ evs).db.bill? id = some b →
      0 ≤ b.remainingAmount ∧ b.paidAmount + b.remainingAmount = b.amount ∧
        b.paidAmount = sumWriteOffAmount ((ledgerRun db₀ evs).db.billWriteOffs id) +
          (ledgerRun db₀ evs).db.deducted id := by
  refine ⟨?_, fun id b hb => ?_⟩
  · have hinv : Scoped (ledgerRun db₀ evs).db ∧ PaymentsOk (ledgerRun db₀ evs).db :=
      runs_invariant (fun db => Scoped db ∧ PaymentsOk db) WriteOffReadCurrent wp_ledgerBody
        (fun c hc hgood h => ⟨hc.2 ▸ (LedgerCall.duty_moves hc.1).scoped h.1,
          commit_paymentsOk hc hgood h.1 h.2⟩) ⟨h₀.scope, h₀.payments⟩ evs hcur
    exact hinv.2
  · have hok := ledgerRun_billsOk h₀.bills evs id b hb
    have hid := Db.bill?_id hb
    exact ⟨hok.remaining, hok.balanced, hid ▸ hok.booked⟩

/-! A payment of 100 for two bills of 100 each. -/

/-- Answers of the outside world: the time and the next id. -/
def answers (now : Instant) (id : Id) : (q : Ask) → Ans q
  | .uuid => id
  | .now => now
  | .businessNo => "PYO"
  | .createPayment | .verifyCallback | .submitDebit | .queryDebit | .mandate => none
  | .closePayment | .openId | .operator => false

/-- Session `sid` executes its next `n` statements. -/
def Event.steps {Call : Type} (sid n : Nat) (now : Instant) (id : Id) : List (Event sig Call) :=
  List.replicate n (.run sid (answers now id))

def financeUser : RequestUser := ⟨1, ["FI"]⟩

def emptyDb : Db :=
  { orders := [], bills := [], payments := [], writeOffs := [], ledger := [], paymentOrders := [],
    callbackLogs := [], debitAttempts := [], closure := ⟨[], [], []⟩, settlements := [],
    submittedDebits := [] }

/-- An unpaid rent bill of order 1. -/
def rentBill (id : Id) (amount : Int) : ReceivableBill :=
  { id := id, orderId := 1, customerId := 1, billType := .monthlyRent, billStatus := .pending,
    amount := amount, paidAmount := 0, remainingAmount := amount, dueDate := 0, paidAt := none,
    createdAt := 0, deletedAt := none }

def onePayment : Db :=
  { emptyDb with
    orders := [⟨1, 1, .active, none, 1, none⟩]
    bills := [rentBill 1 100, rentBill 2 100]
    payments := [⟨1, 1, 1, 100, .cash, .confirmed, 0, none⟩] }

/-- Two write-offs of the same payment, one for each bill. -/
def twoWriteOffs : List (Event sig LedgerCall) :=
  [.begin (.writeOffPayment 1 [⟨1, 100⟩] financeUser),
    .begin (.writeOffPayment 1 [⟨2, 100⟩] financeUser)]

/-- The first write-off has read the payment when the second one runs to its end. -/
def crossedWriteOffs : List (Event sig LedgerCall) :=
  twoWriteOffs ++ Event.steps 0 3 0 0 ++ Event.steps 1 20 0 0 ++ Event.steps 0 20 0 0

/-- Both write-offs commit, and the payment of 100 is applied twice. -/
theorem payment_over_applied :
    Consistent onePayment ∧
      ∃ p, (ledgerRun onePayment crossedWriteOffs).db.payment? 1 = some p ∧ p.paymentAmount = 100 ∧
        sumWriteOffAmount ((ledgerRun onePayment crossedWriteOffs).db.paymentWriteOffs 1) = 200 :=
  ⟨.of_check (by decide), ⟨1, 1, 1, 100, .cash, .confirmed, 0, none⟩, by decide, rfl, by decide⟩

/-- One write-off after the other: the second one is refused. -/
theorem payments_never_over_applied_serial :
    let db := (ledgerRun onePayment (twoWriteOffs ++ Event.steps 0 20 0 0 ++ Event.steps 1 20 0 0)).db
    (∀ id p, db.payment? id = some p →
      sumWriteOffAmount (db.paymentWriteOffs id) ≤ p.paymentAmount) ∧
    ∀ id b, db.bill? id = some b →
      0 ≤ b.remainingAmount ∧ b.paidAmount + b.remainingAmount = b.amount ∧
        b.paidAmount = sumWriteOffAmount (db.billWriteOffs id) + db.deducted id :=
  payments_never_over_applied (.of_check (by decide)) _ (by decide)

end SubscriptionSaas.Finance
