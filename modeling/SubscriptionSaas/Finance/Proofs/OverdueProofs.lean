import SubscriptionSaas.Finance.Overdue
import SubscriptionSaas.Finance.Proofs.LedgerProofs
import Mathlib.Data.List.Induction

/-!
# Settled bills and the overdue mark

The money operations and the overdue marking, interleaved statement by statement. A bill is marked on
the strength of a reading under its lock, so the reading still holds when the mark is committed; and
a mark sets no amount. `BillCourse k b b'` is what any number of commits may do to a bill: they book
`k` more on it, leave it alone once nothing is left to pay, and never make a settled bill overdue.
-/

namespace SubscriptionSaas.Finance

open Transaction

/-! ## The course of a bill -/

/-- The bill has got from `b` to `b'` by payments of `k` in all, and maybe an overdue mark. -/
structure BillCourse (k : Int) (b b' : ReceivableBill) : Prop where
  paid : b'.paidAmount = b.paidAmount + k
  remaining : b'.remainingAmount = b.remainingAmount - k
  nonneg : 0 ≤ k
  closed : b.remainingAmount = 0 → b' = b
  overdue : b'.billStatus = .overdue → b'.remainingAmount = 0 → b' = b

theorem BillCourse.refl (b : ReceivableBill) : BillCourse 0 b b :=
  ⟨(Int.add_zero _).symm, (Int.sub_zero _).symm, Int.le_refl 0, fun _ => rfl, fun _ _ => rfl⟩

theorem BillCourse.trans {k k' : Int} {b b' b'' : ReceivableBill} (h : BillCourse k b b')
    (h' : BillCourse k' b' b'') : BillCourse (k + k') b b'' where
  paid := by rw [h'.paid, h.paid, Int.add_assoc]
  remaining := by rw [h'.remaining, h.remaining, Int.sub_sub]
  nonneg := Int.add_nonneg h.nonneg h'.nonneg
  closed hzero := by
    have hsame : b' = b := h.closed hzero
    rw [h'.closed (hsame ▸ hzero), hsame]
  overdue hstatus hzero := by
    have hsame : b'' = b' := h'.overdue hstatus hzero
    subst hsame
    exact h.overdue hstatus hzero

/-- A payment never leaves a bill overdue, and a settled bill takes none. -/
theorem BillCourse.pay {db : Db} {bill : ReceivableBill} {amount : Int} (at_ : Instant)
    (h : Payable db bill amount) :
    BillCourse amount bill ((paidPatch bill amount at_).apply bill) where
  paid := rfl
  remaining := rfl
  nonneg := Int.le_of_lt h.pos
  closed hzero := by
    have hpos := h.pos
    have hle := h.le
    omega
  overdue hstatus _ := by
    have hne : (paidPatch bill amount at_).billStatus ≠ .overdue := by
      simp only [paidPatch]
      split <;> simp
    exact absurd hstatus hne

/-- An overdue mark on a bill with something left to pay. -/
theorem BillCourse.mark {b : ReceivableBill} (h : b.remainingAmount ≠ 0) :
    BillCourse 0 b b.overdue :=
  ⟨(Int.add_zero _).symm, (Int.sub_zero _).symm, Int.le_refl 0, fun hzero => absurd hzero h,
    fun _ hzero => absurd hzero h⟩

theorem remaining_ne_zero {b : ReceivableBill} (h : settled b = false) : b.remainingAmount ≠ 0 := by
  intro hzero
  simp [settled, hzero] at h

/-! ## What the money operations do to a bill -/

/-- What the write books on the bill. -/
def Write.booksOn (id : Id) : Write → Int
  | .insertWriteOff w => if w.billId = id then w.writeOffAmount else 0
  | .insertLedger l => if l.billId = some id ∧ l.transactionType = .deduct then l.amount else 0
  | _ => 0

/-- What the writes book on the bill. -/
def bookedOnBill (ws : List (Write ⊕ OverdueWrite)) (id : Id) : Int :=
  (ws.map (Sum.elim (Write.booksOn id) fun _ => 0)).sum

theorem bookedOnBill_append (ws ws' : List (Write ⊕ OverdueWrite)) (id : Id) :
    bookedOnBill (ws ++ ws') id = bookedOnBill ws id + bookedOnBill ws' id := by
  rw [bookedOnBill, List.map_append, List.sum_append]
  rfl

/-- One payment of a bill, on top of the writes before it. -/
theorem course_paid {db db' : Db} {bill b₀ b : ReceivableBill} {amount k k' : Int} {id : Id}
    (at_ : Instant) (hbill : Payable db bill amount) (hb : db.bill? id = some b)
    (hafter : db'.bill? id = (db.bill? id).map fun b =>
      if b.id == bill.id then (paidPatch bill amount at_).apply b else b)
    (hk' : k' = k + if bill.id = id then amount else 0) (hc : BillCourse k b₀ b) :
    ∃ b', db'.bill? id = some b' ∧ BillCourse k' b₀ b' := by
  have hid := Db.bill?_id hb
  rw [hafter, hb, Option.map_some]
  refine ⟨_, rfl, ?_⟩
  by_cases hsame : bill.id = id
  · have heq : b = bill := by
      have hcur := hbill.current
      rw [hsame, hb] at hcur
      exact Option.some.inj hcur
    subst heq
    rw [if_pos hsame] at hk'
    simp only [beq_self_eq_true, if_true]
    exact hk' ▸ hc.trans (.pay at_ hbill)
  · have hne : (b.id == bill.id) = false := by
      rw [hid]
      simpa using fun heq : id = bill.id => hsame heq.symm
    rw [if_neg hsame, Int.add_zero] at hk'
    simp only [hne]
    exact hk' ▸ hc

theorem Moves.course {seen : Seen} {before : Db} {ws : List Write} (h : Moves seen before ws)
    {id : Id} {b : ReceivableBill} (hb : before.bill? id = some b) :
    ∃ b', (view ws before).bill? id = some b' ∧ BillCourse (bookedOnBill (ws.map .inl) id) b b' := by
  -- a write that leaves the bills alone and books nothing
  have hkeep : ∀ {ws : List Write} {w : Write}, (∃ b', (view ws before).bill? id = some b' ∧
      BillCourse (bookedOnBill (ws.map .inl) id) b b') → w.booksOn id = 0 →
      (∀ db : Db, (w.apply db).bill? id = db.bill? id) →
      ∃ b', (view (ws ++ [w]) before).bill? id = some b' ∧
        BillCourse (bookedOnBill ((ws ++ [w]).map .inl) id) b b' := by
    intro ws w ih hzero hsame
    obtain ⟨b', hb', hc⟩ := ih
    refine ⟨b', ?_, ?_⟩
    · rw [view_snoc, hsame, hb']
    · rw [List.map_append, bookedOnBill_append]
      simpa [bookedOnBill, hzero] using hc
  induction h with
  | nil => exact ⟨b, hb, .refl b⟩
  | addPayment _ _ _ _ _ ih => exact hkeep ih rfl fun _ => rfl
  | @pay ws ref bill amount at_ _ hbill _ ih =>
    obtain ⟨b₁, hb₁, hc⟩ := ih
    rw [view_append]
    refine course_paid at_ hbill hb₁ (bill?_updateBill (view ws before) bill.id id _) ?_ hc
    rw [List.map_append, bookedOnBill_append]
    simp [bookedOnBill, Write.booksOn, writeOffRow]
  | collect _ _ _ _ _ _ _ _ _ ih => exact hkeep ih (by simp [Write.booksOn, collectRow]) fun _ => rfl
  | @deduct ws order bill amount snap _ now createdAt _ hbill _ _ _ _ ih =>
    obtain ⟨b₁, hb₁, hc⟩ := ih
    rw [view_append]
    refine course_paid now hbill hb₁
      (bill?_updateBill ((Write.insertLedger _).apply (view ws before)) bill.id id _) ?_ hc
    rw [List.map_append, bookedOnBill_append]
    simp [bookedOnBill, Write.booksOn, spendRow]
  | refund _ _ _ _ _ ih => exact hkeep ih (by simp [Write.booksOn, spendRow]) fun _ => rfl
  | @other ws w _ hw ih =>
    cases w with
    | insertPayment p => exact hw.elim
    | insertWriteOff w => exact hw.elim
    | insertLedger l => exact hw.elim
    | updateBill id p => exact hw.elim
    | insertPaymentOrder o => exact hw.elim
    | _ => exact hkeep ih rfl fun _ => rfl

/-! ## What locks protect -/

@[simp] theorem ReceivableBill.overdue_id (b : ReceivableBill) : b.overdue.id = b.id := rfl

theorem OverdueWrite.bill?_apply (db : Db) (id id' : Id) :
    ((OverdueWrite.markOverdue id).apply db).bill? id' =
      (db.bill? id').map fun b => if b.id == id then b.overdue else b :=
  find?_updateWhere ReceivableBill.overdue_id id id' db.bills

/-- The rows of the finance tables guard what they always have; the lock of an order guards none of
the modelled columns. -/
def overdueIsolation : Isolation overdueSig where
  same
    | .inl r => fun d d' => Row.same d d' r
    | .inr _ => fun _ _ => True
  touches
    | .inl w => w.touches.map .inl
    | .inr (.markOverdue id) => [.inl (.bill id)]
  frame := Frame
  frame_refl := Frame.refl
  frame_trans _ _ _ := Frame.trans
  frame_apply
    | .inl w => Frame.apply w
    | .inr (.markOverdue _) => fun _ => ⟨rfl, List.prefix_rfl, List.prefix_rfl, List.prefix_rfl,
        fun o h => ⟨o, h, rfl, rfl⟩, fun _ a h => ⟨a, h, .refl a⟩⟩
  same_refl
    | .inl r => isolation.same_refl r
    | .inr _ => fun _ => trivial
  same_trans
    | .inl r => isolation.same_trans r
    | .inr _ => fun _ _ _ _ _ => trivial
  same_apply
    | .inl r, .inl w => fun db h => Row.same_apply r w db fun hmem => h (List.mem_map_of_mem hmem)
    | .inr _, _ => fun _ _ => trivial
    | .inl (.payment _), .inr (.markOverdue _) => fun _ _ => rfl
    | .inl (.paymentOrder _), .inr (.markOverdue _) => fun _ _ => rfl
    | .inl (.debitAttempt _), .inr (.markOverdue _) => fun _ _ => rfl
    | .inl (.bill id), .inr (.markOverdue id') => fun db h => by
      have hne : id ≠ id' := by simpa using h
      exact ⟨(find?_updateWhere_ne ReceivableBill.overdue_id hne db.bills).symm, rfl, rfl, rfl⟩

theorem overdueIsolation_extends : overdueIsolation.Extends isolation :=
  ⟨fun _ _ _ h => h, fun _ => rfl, fun _ _ h => h⟩

/-! ## What the marking commits -/

/-- The writes mark bills that have something left to pay. -/
def MarkDuty : Duty overdueSig := fun _ before ws =>
  ∀ w ∈ ws, ∃ b, w = .inr (.markOverdue b.id) ∧ before.bill? b.id = some b ∧ settled b = false

/-- The transaction has read the bill under its lock, and there is something left to pay. -/
structure Unsettled (c : Ctx overdueSig) (b : ReceivableBill) : Prop where
  held : Sum.inl (Row.bill b.id) ∈ c.held
  current : c.db.bill? b.id = some b
  unsettled : settled b = false

/-- The transaction has written nothing but marks on such bills. -/
def Marks (c : Ctx overdueSig) : Prop :=
  ∀ w ∈ c.pending, ∃ b, w = .inr (.markOverdue b.id) ∧ Unsettled c b

theorem Marks.fresh {c : Ctx overdueSig} (h : c.pending = []) : Marks c := by
  intro w hw
  rw [h] at hw
  cases hw

theorem Marks.mark {c : Ctx overdueSig} (h : Marks c) {b : ReceivableBill} (hb : Unsettled c b) :
    Marks { c with pending := c.pending ++ [.inr (.markOverdue b.id)] } := by
  intro w hw
  rcases List.mem_append.mp hw with hold | hnew
  · obtain ⟨b', hw', hb'⟩ := h w hold
    exact ⟨b', hw', hb'.held, hb'.current, hb'.unsettled⟩
  · exact ⟨b, List.mem_singleton.mp hnew, hb.held, hb.current, hb.unsettled⟩

/-- Whatever the environment does before the commit, the marked bills stay as they were read. -/
theorem Marks.duty {c : Ctx overdueSig} (h : Marks c) {db : Db}
    (hr : overdueIsolation.Rely c.held c.db db) : MarkDuty c.seen db c.pending := by
  intro w hw
  obtain ⟨b, hmark, hb⟩ := h w hw
  have hsame : c.db.bill? b.id = db.bill? b.id := (hr.2 _ hb.held).1
  exact ⟨b, hmark, hsame ▸ hb.current, hb.unsettled⟩

section Programs

variable {Q : Unit → Ctx overdueSig → Prop} {E : Err → Ctx overdueSig → Prop} {c : Ctx overdueSig}

/-- Orders and bills are locked; nothing has been written yet. -/
theorem wp_lockOrdersAndBills {α : Type} {orderIds billIds : List Id} {rest : OverdueTx α}
    {Q : α → Ctx overdueSig → Prop} (hpend : c.pending = [])
    (hQ : ∀ c', c'.pending = [] → (∀ id ∈ billIds, Sum.inl (Row.bill id) ∈ c'.held) →
      wp overdueIsolation MarkDuty rest Q E c') :
    wp overdueIsolation MarkDuty
      (lockSubscriptionOrders orderIds >>= fun _ => lockOverdueBills billIds >>= fun _ => rest)
      Q E c := by
  rw [wp_bind]
  refine wp_lockRows fun db _ => (wp_bind _).mpr (wp_lockRows fun db' _ => ?_)
  refine hQ _ hpend fun id hid => ?_
  refine List.mem_append_left _ (List.mem_reverse.mpr (List.mem_map.mpr ⟨id, ?_, rfl⟩))
  rw [List.mem_insertionSort, List.mem_dedup]
  exact hid

theorem wp_saveCollectionCase (hE : ∀ e c', E e c') (hQ : Q () c) :
    wp overdueIsolation MarkDuty saveCollectionCase Q E c := by
  unfold saveCollectionCase
  rw [wp_bind, wp_ask]
  intro taken
  rw [wp_ensure]
  exact ⟨fun _ => hQ, fun _ => hE _ _⟩

theorem wp_saveCollectionCases {orderIds : List Id} (hE : ∀ e c', E e c') (hQ : Q () c) :
    wp overdueIsolation MarkDuty (saveCollectionCases orderIds) Q E c := by
  induction orderIds with
  | nil => exact hQ
  | cons orderId orderIds ih =>
    rw [saveCollectionCases, wp_bind]
    exact wp_saveCollectionCase hE ih

/-- A mark on a bill that is locked. -/
theorem wp_markOverdue {b : ReceivableBill} (hb : Unsettled c b)
    (hQ : Q () { c with pending := c.pending ++ [.inr (.markOverdue b.id)] }) :
    wp overdueIsolation MarkDuty (exec (S := overdueSig) (.inr (.markOverdue b.id))) Q E c := by
  rw [wp_exec]
  refine ⟨fun r hr => ?_, hQ⟩
  rw [List.mem_singleton.mp hr]
  exact hb.held

theorem wp_markLockedBill {b : ReceivableBill} {asOfDate : Instant}
    {Q : OverdueAction × ReceivableBill → Ctx overdueSig → Prop} (hpend : c.pending = [])
    (hheld : Sum.inl (Row.bill b.id) ∈ c.held) (hcur : c.db.bill? b.id = some b)
    (hE : ∀ e c', E e c') (hQ : ∀ r c', Marks c' → Q r c') :
    wp overdueIsolation MarkDuty (markLockedBill b asOfDate) Q E c := by
  have hfresh : Marks c := .fresh hpend
  unfold markLockedBill
  split
  · exact hQ _ _ hfresh
  · rename_i hopen
    have hb : Unsettled c b := ⟨hheld, hcur, by simpa using hopen⟩
    split
    · exact hQ _ _ hfresh
    · split
      · rw [wp_bind]
        exact wp_saveCollectionCase hE (hQ _ _ hfresh)
      · rw [wp_bind]
        refine wp_markOverdue hb ((wp_bind _).mpr ?_)
        exact wp_saveCollectionCase hE (hQ _ _ (hfresh.mark hb))

theorem wp_markLockedBills {bills : List ReceivableBill} (hmarks : Marks c)
    (hbills : ∀ b ∈ bills, Unsettled c b) (hQ : ∀ c', Marks c' → Q () c') :
    wp overdueIsolation MarkDuty (markLockedBills bills) Q E c := by
  induction bills generalizing c with
  | nil => exact hQ c hmarks
  | cons b bills ih =>
    have hb := hbills b List.mem_cons_self
    have hrest : ∀ b' ∈ bills, Unsettled c b' := fun b' hb' =>
      hbills b' (List.mem_cons_of_mem _ hb')
    rw [markLockedBills]
    split
    · exact ih hmarks hrest
    · refine (wp_bind _).mpr (wp_markOverdue hb (ih (hmarks.mark hb) fun b' hb' => ?_))
      exact ⟨(hrest b' hb').held, (hrest b' hb').current, (hrest b' hb').unsettled⟩

/-- A bill that can be refreshed has something left to pay. -/
theorem unsettled_of_refreshable {asOfDate : Instant} {b : ReceivableBill}
    (h : refreshable asOfDate b = true) : settled b = false := by
  simp only [refreshable, Bool.and_eq_true, decide_eq_true_eq] at h
  obtain ⟨⟨⟨hstatus, -⟩, -⟩, hpos⟩ := h
  have hleft : b.remainingAmount ≠ 0 := by omega
  cases hs : b.billStatus with
  | paid => simp [hs, OVERDUE_BILL_STATUSES] at hstatus
  | cancelled => simp [hs, OVERDUE_BILL_STATUSES] at hstatus
  | _ => simp [settled, hs, hleft]

/-- One attempt of a refresh. -/
theorem wp_refreshLockedBills {asOfDate : Instant} {overdueBills : List ReceivableBill}
    (hpend : c.pending = []) (hE : ∀ e c', E e c') (hQ : ∀ c', Q () c') :
    wp overdueIsolation MarkDuty (refreshLockedBills asOfDate overdueBills) Q E c := by
  unfold refreshLockedBills findLockedBills
  refine wp_lockOrdersAndBills hpend fun c₁ hpend₁ hheld => ?_
  rw [wp_bind, wp_select]
  intro db hr
  have hlocked : ∀ b ∈ (overdueBills.map (·.id)).dedup.filterMap fun id =>
      ((applyAll overdueSig c₁.pending db).bill? id).filter (refreshable asOfDate),
      Unsettled { c₁ with db := db, seen := c₁.seen ++ [(.bills, db)] } b := by
    intro b hb
    obtain ⟨id, hid, hrow⟩ := List.mem_filterMap.mp hb
    obtain ⟨hrow, hopen⟩ := Option.filter_eq_some_iff.mp hrow
    rw [hpend₁] at hrow
    have heq := Db.bill?_id hrow
    subst heq
    exact ⟨hheld _ (List.mem_dedup.mp hid), hrow, unsettled_of_refreshable hopen⟩
  rw [wp_bind]
  refine wp_markLockedBills (.fresh hpend₁) hlocked fun c₂ hmarks => (wp_bind _).mpr ?_
  refine wp_saveCollectionCases hE ?_
  rw [wp_commitTx]
  exact fun db' hr' => ⟨hmarks.duty hr', hQ _⟩

/-- An attempt after another one starts with nothing written. -/
theorem wp_withUniqueBusinessNoRetry {operation : OverdueTx Unit}
    (hop : ∀ {Q : Unit → Ctx overdueSig → Prop} {E : Err → Ctx overdueSig → Prop}
      {c : Ctx overdueSig}, c.pending = [] → (∀ e c', E e c') → (∀ c', Q () c') →
      wp overdueIsolation MarkDuty operation Q E c) (attempts : Nat) (hpend : c.pending = [])
    (hE : ∀ e c', E e c') (hQ : ∀ c', Q () c') :
    wp overdueIsolation MarkDuty (withUniqueBusinessNoRetry operation attempts) Q E c := by
  induction attempts generalizing c with
  | zero => exact hE _ _
  | succ attempts ih =>
    rw [withUniqueBusinessNoRetry, wp_catchErr]
    refine hop hpend (fun e c' => ?_) hQ
    split
    · exact ih rfl
    · exact hE _ _

end Programs

/-- What each operation commits. -/
def OverdueCall.duty : OverdueCall → Duty overdueSig
  | .ledger call => call.duty.lift
  | .markBillOverdueForAutomation _ _ | .refreshOverdueBills _ _ _ => MarkDuty

theorem wp_overdueBody (call : OverdueCall) (db : Db) :
    wp overdueIsolation call.duty (overdueBody call) anyEnd anyEnd (Ctx.start db) := by
  cases call with
  | ledger call => exact wp_lift overdueIsolation_extends (wp_ledgerBody call db)
  | markBillOverdueForAutomation billId asOfDate =>
    simp only [overdueBody, markBillOverdueForAutomation, OverdueCall.duty]
    rw [wp_bind, wp_bind, wp_select]
    intro db₁ _
    cases Db.liveBill? _ billId with
    | none => trivial
    | some locator =>
      refine wp_lockOrdersAndBills rfl fun c hpend hheld => ?_
      rw [wp_bind, wp_select]
      intro db₂ _
      cases hbill : Db.liveBill? (applyAll overdueSig c.pending db₂) billId with
      | none => trivial
      | some bill =>
        obtain ⟨hrow, -⟩ := Option.filter_eq_some_iff.mp hbill
        rw [hpend] at hrow
        have heq := Db.bill?_id hrow
        subst heq
        refine wp_markLockedBill hpend (hheld _ (List.mem_singleton_self _)) hrow
          (fun _ _ => trivial) fun _ c' hmarks => ?_
        rw [wp_commitTx]
        exact fun db' hr => ⟨hmarks.duty hr, trivial⟩
  | refreshOverdueBills asOfDate dryRun user =>
    simp only [overdueBody, refreshOverdueBills, findRefreshableOverdueBills, OverdueCall.duty]
    rw [wp_bind, wp_bind, wp_select]
    intro db₁ _
    split
    · trivial
    · exact (wp_bind _).mpr <| wp_withUniqueBusinessNoRetry
        (fun hpend hE hQ => wp_refreshLockedBills hpend hE hQ) _ rfl (fun _ _ => trivial)
        fun _ => trivial

/-! ## Settled bills -/

/-- A mark books nothing. -/
theorem MarkDuty.booked {seen : Seen} {before : Db} {ws : List (Write ⊕ OverdueWrite)}
    (h : MarkDuty seen before ws) (id : Id) : bookedOnBill ws id = 0 := by
  refine List.sum_eq_zero fun k hk => ?_
  obtain ⟨w, hw, rfl⟩ := List.mem_map.mp hk
  obtain ⟨b, rfl, -, -⟩ := h w hw
  rfl

/-- A commit that marks bills overdue. -/
theorem MarkDuty.course {seen : Seen} {before : Db} {ws : List (Write ⊕ OverdueWrite)}
    (h : MarkDuty seen before ws) {id : Id} {b : ReceivableBill} (hb : before.bill? id = some b) :
    ∃ b', (applyAll overdueSig ws before).bill? id = some b' ∧ BillCourse 0 b b' := by
  induction ws using List.reverseRecOn with
  | nil => exact ⟨b, hb, .refl b⟩
  | append_singleton ws w ih =>
    obtain ⟨b₁, hb₁, hc⟩ := ih fun w' hw' => h w' (List.mem_append_left _ hw')
    obtain ⟨m, rfl, hm, hopen⟩ := h w (List.mem_append_right _ (List.mem_singleton_self _))
    have hview : (applyAll overdueSig (ws ++ [.inr (.markOverdue m.id)]) before).bill? id =
        some (if b₁.id == m.id then b₁.overdue else b₁) := by
      rw [applyAll, List.foldl_append]
      refine (OverdueWrite.bill?_apply _ m.id id).trans ?_
      exact congrArg (Option.map _) hb₁
    refine ⟨_, hview, ?_⟩
    by_cases hsame : b₁.id = m.id
    · have heq : b = m := by
        rw [← hsame, Db.bill?_id hb₁, hb] at hm
        exact Option.some.inj hm
      have hleft : b₁.remainingAmount ≠ 0 := by
        rw [hc.remaining, heq, Int.sub_zero]
        exact remaining_ne_zero hopen
      simp only [hsame, beq_self_eq_true, if_true]
      exact hc.trans (.mark hleft)
    · simpa [hsame] using hc

/-- Every commit. -/
theorem commit_course {c : Commit overdueSig OverdueCall} (hc : CommitOk OverdueCall.duty c)
    {id : Id} {b : ReceivableBill} (hb : c.before.bill? id = some b) :
    ∃ b', c.after.bill? id = some b' ∧ BillCourse (bookedOnBill c.writes id) b b' := by
  obtain ⟨hduty, hafter⟩ := hc
  have hmarks : MarkDuty c.seen c.before c.writes →
      ∃ b', c.after.bill? id = some b' ∧ BillCourse (bookedOnBill c.writes id) b b' := by
    intro hmark
    rw [hmark.booked, hafter]
    exact hmark.course hb
  cases hcall : c.call with
  | ledger call =>
    rw [hcall] at hduty
    obtain ⟨ws, hws, hold⟩ := hduty
    rw [hafter, hws, applyAll_lift]
    exact (LedgerCall.duty_moves hold).course hb
  | markBillOverdueForAutomation billId asOfDate => exact hmarks (by rwa [hcall] at hduty)
  | refreshOverdueBills asOfDate dryRun user => exact hmarks (by rwa [hcall] at hduty)

/-- What the commits of a run book on the bill. -/
def bookedByAll (cs : List (Commit overdueSig OverdueCall)) (id : Id) : Int :=
  (cs.map fun c => bookedOnBill c.writes id).sum

/-- Any number of commits. -/
theorem chain_course {db db' : Db} {cs : List (Commit overdueSig OverdueCall)}
    (h : Chain db cs db') (hcs : ∀ c ∈ cs, CommitOk OverdueCall.duty c) {id : Id}
    {b : ReceivableBill} (hb : db.bill? id = some b) :
    ∃ b', db'.bill? id = some b' ∧ BillCourse (bookedByAll cs id) b b' ∧
      ∀ c ∈ cs, 0 ≤ bookedOnBill c.writes id := by
  induction cs generalizing db b with
  | nil => exact ⟨b, h ▸ hb, .refl b, fun c hc => absurd hc List.not_mem_nil⟩
  | cons c cs ih =>
    obtain ⟨hbefore, hrest⟩ := h
    obtain ⟨b₁, hb₁, hc₁⟩ := commit_course (hcs c List.mem_cons_self) (hbefore ▸ hb)
    obtain ⟨b₂, hb₂, hc₂, hpos⟩ := ih hrest (fun c' hc' => hcs c' (List.mem_cons_of_mem _ hc')) hb₁
    refine ⟨b₂, hb₂, ?_, fun c' hc' => ?_⟩
    · exact hc₁.trans hc₂
    · rcases List.mem_cons.mp hc' with rfl | hmem
      · exact hc₁.nonneg
      · exact hpos c' hmem

/-- A run of the money operations and the overdue marking from `db₀`. -/
abbrev overdueRun (db₀ : Db) (evs : List (Event overdueSig OverdueCall)) :
    Machine overdueSig OverdueCall :=
  (Machine.init db₀).runs overdueBody evs

/-- Between any two moments of any run: a bill that is settled stays settled and is not overdue, and
its paid amount has grown by exactly what has been booked on it. -/
theorem settled_never_overdue {db₀ : Db} {id : Id} {b₀ : ReceivableBill}
    (h₀ : db₀.bill? id = some b₀) (hopen : b₀.remainingAmount = 0 → b₀.billStatus ≠ .overdue)
    (evs evs' : List (Event overdueSig OverdueCall)) :
    ∃ b b' cs, (overdueRun db₀ evs).db.bill? id = some b ∧
      (overdueRun db₀ (evs ++ evs')).db.bill? id = some b' ∧
      (overdueRun db₀ (evs ++ evs')).history = (overdueRun db₀ evs).history ++ cs ∧
      (b.remainingAmount = 0 → b'.remainingAmount = 0 ∧ b'.billStatus ≠ .overdue) ∧
      b'.paidAmount = b.paidAmount + bookedByAll cs id ∧
      ∀ c ∈ cs, 0 ≤ bookedOnBill c.writes id := by
  have hsplit : overdueRun db₀ (evs ++ evs') = (overdueRun db₀ evs).runs overdueBody evs' :=
    List.foldl_append
  obtain ⟨cs, hhist, hchain⟩ := runs_history overdueBody (overdueRun db₀ evs) evs'
  rw [← hsplit] at hhist hchain
  have hfirst := wp_history wp_overdueBody db₀ evs
  have hall := (wp_history wp_overdueBody db₀ (evs ++ evs')).commit
  rw [hhist] at hall
  obtain ⟨b, hb, hc, -⟩ := chain_course hfirst.chain hfirst.commit h₀
  obtain ⟨b', hb', hc', hpos⟩ :=
    chain_course hchain (fun c hmem => hall c (List.mem_append_right _ hmem)) hb
  refine ⟨b, b', cs, hb, hb', hhist, fun hzero => ?_, hc'.paid, hpos⟩
  have hsame : b' = b := hc'.closed hzero
  rw [hsame]
  refine ⟨hzero, fun hstatus => ?_⟩
  have hinit : b = b₀ := hc.overdue hstatus hzero
  exact hopen (hinit ▸ hzero) (hinit ▸ hstatus)

/-! A bill is marked, then paid while a refresh that has seen it overdue waits for its lock. -/

/-- Session `sid` executes its next `n` statements; no case number is taken. -/
def overdueSteps (sid n : Nat) : List (Event overdueSig OverdueCall) :=
  List.replicate n <| .run sid fun q =>
    match q with
    | .inl q => answers 0 0 q
    | .inr _ => false

/-- The tenth day of 1970. -/
def tenthDay : Instant := 9 * MS_PER_DAY

/-- The bill is marked; a write-off and a refresh begin, and the refresh reads its candidates. -/
def markedThenPaid : List (Event overdueSig OverdueCall) :=
  [.begin (.markBillOverdueForAutomation 1 tenthDay)] ++ overdueSteps 0 20 ++
    [.begin (.ledger (.writeOffPayment 1 [⟨1, 100⟩] financeUser)),
      .begin (.refreshOverdueBills tenthDay false financeUser)] ++
    overdueSteps 2 1 ++ overdueSteps 1 20

theorem settled_never_overdue_refresh :
    ((overdueRun onePayment (markedThenPaid.take 21)).db.bill? 1).map (·.billStatus) =
      some .overdue ∧
    ∃ b b' cs, (overdueRun onePayment markedThenPaid).db.bill? 1 = some b ∧
      (overdueRun onePayment (markedThenPaid ++ overdueSteps 2 20)).db.bill? 1 = some b' ∧
      (overdueRun onePayment (markedThenPaid ++ overdueSteps 2 20)).history =
        (overdueRun onePayment markedThenPaid).history ++ cs ∧
      (b.remainingAmount = 0 → b'.remainingAmount = 0 ∧ b'.billStatus ≠ .overdue) ∧
      b'.paidAmount = b.paidAmount + bookedByAll cs 1 ∧
      ∀ c ∈ cs, 0 ≤ bookedOnBill c.writes 1 :=
  ⟨by decide +kernel, settled_never_overdue
    (show onePayment.bill? 1 = some (rentBill 1 100) from rfl) (by decide) markedThenPaid _⟩

/-- The refresh then marks the bill that is still open, and only that one. -/
example : (overdueRun onePayment (markedThenPaid ++ overdueSteps 2 20)).db.bills.map
    (·.billStatus) = [.paid, .overdue] := by decide +kernel

end SubscriptionSaas.Finance
