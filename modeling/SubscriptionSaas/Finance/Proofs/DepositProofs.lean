import SubscriptionSaas.Finance.Proofs.LedgerProofs

/-!
# The deposit ledger of an order

A deposit row states the balance after it. The balance is computed from the rows of the order without
a lock, so the rows form a running balance as long as no other row of the order is committed between
that reading and the commit.
-/

namespace SubscriptionSaas.Finance

open Transaction RunningBalance

/-! ## Collected, deducted, refunded -/

/-- The balance is what was collected and neither deducted, refunded nor released. -/
theorem availableBalance_parts (rows : List DepositLedger) :
    (calculateDepositBalanceDetailsFromLedgers rows).availableBalance =
      (calculateDepositBalanceDetailsFromLedgers rows).collectedAmount -
        (calculateDepositBalanceDetailsFromLedgers rows).deductedAmount -
        (calculateDepositBalanceDetailsFromLedgers rows).refundedAmount -
        (calculateDepositBalanceDetailsFromLedgers rows).releasedAmount := by
  have key : ∀ (rows : List DepositLedger) (d : DepositBalanceDetails),
      d.availableBalance =
        d.collectedAmount - d.deductedAmount - d.refundedAmount - d.releasedAmount →
      (rows.foldl DepositBalanceDetails.add d).availableBalance =
        (rows.foldl DepositBalanceDetails.add d).collectedAmount -
          (rows.foldl DepositBalanceDetails.add d).deductedAmount -
          (rows.foldl DepositBalanceDetails.add d).refundedAmount -
          (rows.foldl DepositBalanceDetails.add d).releasedAmount := by
    intro rows
    induction rows with
    | nil => exact fun d h => h
    | cons l rows ih =>
      intro d h
      refine ih (d.add l) ?_
      unfold DepositBalanceDetails.add signedDepositLedgerAmount
      cases l.transactionType <;> (simp only; omega)
  exact key rows ⟨0, 0, 0, 0, 0⟩ rfl

theorem releasedAmount_eq_zero {rows : List DepositLedger}
    (h : ∀ l ∈ rows, l.transactionType ≠ .release) :
    (calculateDepositBalanceDetailsFromLedgers rows).releasedAmount = 0 := by
  have key : ∀ (rows : List DepositLedger) (d : DepositBalanceDetails),
      (∀ l ∈ rows, l.transactionType ≠ .release) →
      (rows.foldl DepositBalanceDetails.add d).releasedAmount = d.releasedAmount := by
    intro rows
    induction rows with
    | nil => exact fun d _ => rfl
    | cons l rows ih =>
      intro d h
      rw [List.foldl_cons, ih _ fun l' hl' => h l' (List.mem_cons_of_mem _ hl')]
      have hl := h l List.mem_cons_self
      unfold DepositBalanceDetails.add
      cases htype : l.transactionType with
      | release => exact absurd htype hl
      | _ => rfl
  exact key rows ⟨0, 0, 0, 0, 0⟩ h

/-- No move releases a deposit. -/
theorem Moves.no_release {seen : Seen} {before : Db} {ws : List Write}
    (h : Moves seen before ws) :
    ∀ l ∈ ws.filterMap Write.ledger?, l.transactionType ≠ .release := by
  induction h with
  | nil => intro l hl; simp at hl
  | addPayment _ _ _ _ _ ih => simpa [List.filterMap_append, Write.ledger?] using ih
  | pay _ _ _ ih => simpa [List.filterMap_append, Write.ledger?] using ih
  | collect _ _ _ _ _ _ _ _ _ ih =>
    intro l hl
    rw [List.filterMap_append, List.mem_append] at hl
    rcases hl with hl | hl
    · exact ih l hl
    · rw [show l = _ by simpa [Write.ledger?] using hl]
      exact DepositTransactionType.noConfusion
  | deduct _ _ _ _ _ _ ih =>
    intro l hl
    rw [List.filterMap_append, List.mem_append] at hl
    rcases hl with hl | hl
    · exact ih l hl
    · rw [show l = _ by simpa [Write.ledger?] using hl]
      exact DepositTransactionType.noConfusion
  | refund _ _ _ _ _ ih =>
    intro l hl
    rw [List.filterMap_append, List.mem_append] at hl
    rcases hl with hl | hl
    · exact ih l hl
    · rw [show l = _ by simpa [Write.ledger?] using hl]
      exact DepositTransactionType.noConfusion
  | @other ws w _ hw ih =>
    have hnone : [w].filterMap Write.ledger? = [] := by
      cases w with
      | insertLedger l => exact hw.elim
      | _ => rfl
    rw [List.filterMap_append, hnone, List.append_nil]
    exact ih

/-! ## Runs -/

/-- The deposits of an order are a running balance, and none has been released. -/
structure DepositOk (db : Db) (orderId : Id) : Prop where
  running : LedgerOk db orderId
  unreleased : ∀ l ∈ db.orderLedger orderId, l.transactionType ≠ .release

/-- A transaction that books a deposit of the order has read the order's deposits as they are when it
commits: no deposit of the order has been committed in between. -/
def DepositReadCurrent (orderId : Id) (c : Commit sig LedgerCall) : Prop :=
  (∃ l ∈ c.writes.filterMap Write.ledger?, l.orderId = orderId) →
    ∀ x ∈ c.seen, x.1 = Tag.depositBalance →
      x.2.orderLedger orderId = c.before.orderLedger orderId

instance (orderId : Id) (c : Commit sig LedgerCall) : Decidable (DepositReadCurrent orderId c) :=
  inferInstanceAs (Decidable ((∃ l ∈ c.writes.filterMap Write.ledger?, l.orderId = orderId) →
    ∀ x ∈ c.seen, x.1 = Tag.depositBalance →
      x.2.orderLedger orderId = c.before.orderLedger orderId))

/-- Writes that book no deposit of the order leave its deposits alone. -/
theorem orderLedger_view_none {ws : List Write} {db : Db} {orderId : Id}
    (h : ¬ ∃ l ∈ ws.filterMap Write.ledger?, l.orderId = orderId) :
    (view ws db).orderLedger orderId = db.orderLedger orderId := by
  rw [view_orderLedger, List.filter_eq_nil_iff.mpr, List.append_nil]
  intro l hl hc
  simp only [Bool.and_eq_true, beq_iff_eq] at hc
  exact h ⟨l, hl, hc.1.2⟩

theorem commit_depositOk {c : Commit sig LedgerCall} {orderId : Id}
    (hc : CommitOk LedgerCall.duty c) (hcur : DepositReadCurrent orderId c) (hs : Scoped c.before)
    (hb : BillsOk c.before) (h : DepositOk c.before orderId) : DepositOk c.after orderId := by
  obtain ⟨hduty, hafter⟩ := hc
  have hmoves := LedgerCall.duty_moves hduty
  have hview : c.after = view c.writes c.before := hafter
  rw [hview]
  by_cases hbooks : ∃ l ∈ c.writes.filterMap Write.ledger?, l.orderId = orderId
  · refine ⟨hmoves.ledgerOk hs hb (fun snap hsnap => hcur hbooks _ hsnap rfl) h.running, ?_⟩
    intro l hl
    rw [view_orderLedger, List.mem_append] at hl
    rcases hl with hl | hl
    · exact h.unreleased l hl
    · exact hmoves.no_release l (List.mem_filter.mp hl).1
  · obtain ⟨hrun, hrel⟩ := h
    rw [← orderLedger_view_none hbooks] at hrel
    refine ⟨?_, hrel⟩
    unfold LedgerOk
    rw [orderLedger_view_none hbooks]
    exact hrun

/-- In every run in which deposits are booked on current readings, the deposit balance of the order is
never negative, and each row states the sum of the rows up to it. -/
theorem deposit_ledger_runs {db₀ : Db} {orderId : Id} (h₀ : Consistent db₀)
    (hd : DepositOk db₀ orderId) (evs : List (Event sig LedgerCall))
    (hcur : ∀ c ∈ (ledgerRun db₀ evs).history, DepositReadCurrent orderId c) :
    let rows := (ledgerRun db₀ evs).db.orderLedger orderId
    let details := calculateDepositBalanceDetailsFromLedgers rows
    0 ≤ details.collectedAmount - details.deductedAmount - details.refundedAmount ∧
    ∀ pre row post, rows = pre ++ row :: post →
      row.balanceAfter = ((pre ++ [row]).map signedDepositLedgerAmount).sum := by
  have hinv := runs_invariant (fun db => (Scoped db ∧ BillsOk db) ∧ DepositOk db orderId)
    (DepositReadCurrent orderId) wp_ledgerBody
    (fun c hc hgood h => ⟨⟨hc.2 ▸ (LedgerCall.duty_moves hc.1).scoped h.1.1,
      hc.2 ▸ (LedgerCall.duty_moves hc.1).billsOk h.1.2⟩,
      commit_depositOk hc hgood h.1.1 h.1.2 h.2⟩) ⟨⟨h₀.scope, h₀.bills⟩, hd⟩ evs hcur
  obtain ⟨-, hrun, hrel⟩ := hinv
  intro rows details
  constructor
  · have hparts := availableBalance_parts rows
    have hzero := releasedAmount_eq_zero hrel
    have hnonneg := RunsFrom.total_nonneg (le_refl (0 : Int)) hrun
    rw [zero_add] at hnonneg
    rw [availableBalance_eq, hzero, Int.sub_zero] at hparts
    exact hparts ▸ hnonneg
  · intro pre row post hrows
    have hrun' : RunsFrom signedDepositLedgerAmount (·.balanceAfter) 0 (pre ++ row :: post) :=
      hrows ▸ hrun
    have hafter := hrun'.after_eq
    rw [zero_add] at hafter
    exact hafter

/-! A completed order with a deposit of 100, refunded twice. -/

def collectedDeposit : Db :=
  { emptyDb with
    orders := [⟨1, 1, .completed, none, 1, none⟩]
    bills := [{ rentBill 1 100 with
      billType := .deposit, billStatus := .paid, paidAmount := 100, remainingAmount := 0 }]
    payments := [⟨1, 1, 1, 100, .cash, .confirmed, 0, none⟩]
    writeOffs := [⟨1, 1, 1, 1, 100, 0, none⟩]
    ledger := [⟨1, 1, 1, some 1, some 1, .collect, .confirmed, 100, 100, 0, 0, none⟩] }

theorem collectedDeposit_ok : DepositOk collectedDeposit 1 :=
  ⟨show RunsFrom _ _ _ _ by decide, by decide⟩

def twoRefunds : List (Event sig LedgerCall) :=
  [.begin (.refundDeposit 1 100 financeUser), .begin (.refundDeposit 1 100 financeUser)]

/-- The second refund runs to its end after the first one has read the balance. -/
def crossedRefunds : List (Event sig LedgerCall) :=
  twoRefunds ++ Event.steps 0 2 0 2 ++ Event.steps 1 20 0 3 ++ Event.steps 0 20 0 2

/-- Both refunds commit: the balance is -100, and the last row states a balance of 0. -/
theorem deposit_refunded_twice :
    Consistent collectedDeposit ∧ DepositOk collectedDeposit 1 ∧
      let rows := (ledgerRun collectedDeposit crossedRefunds).db.orderLedger 1
      let details := calculateDepositBalanceDetailsFromLedgers rows
      details.collectedAmount - details.deductedAmount - details.refundedAmount = -100 ∧
      rows.map (·.balanceAfter) = [100, 0, 0] ∧
      (rows.map signedDepositLedgerAmount).sum = -100 :=
  ⟨.of_check (by decide), collectedDeposit_ok, by decide +kernel, by decide +kernel, by decide +kernel⟩

/-- One refund after the other: the second one is refused. -/
theorem deposit_ledger_runs_serial :
    let rows := (ledgerRun collectedDeposit
      (twoRefunds ++ Event.steps 0 20 0 2 ++ Event.steps 1 20 0 3)).db.orderLedger 1
    let details := calculateDepositBalanceDetailsFromLedgers rows
    0 ≤ details.collectedAmount - details.deductedAmount - details.refundedAmount ∧
    ∀ pre row post, rows = pre ++ row :: post →
      row.balanceAfter = ((pre ++ [row]).map signedDepositLedgerAmount).sum :=
  deposit_ledger_runs (.of_check (by decide)) collectedDeposit_ok _ (by decide)

end SubscriptionSaas.Finance
