import SubscriptionSaas.Billing.Proofs.ScheduleProofs

/-!
# No month of rent is billed twice

Whichever way a bill is made, its period is a cycle of the order's delivery, which does not change, and
its source key is made of the order and the first day of that cycle. The constraint on the source key
therefore leaves at most one bill for each cycle, and cycles do not overlap.
-/

namespace SubscriptionSaas.Billing

open Calendar

def Delivered (orders : List Order) (orderId : Id) (actualDeliveryAt : Int) : Prop :=
  ∃ order ∈ orders, order.id = orderId ∧ order.actualDeliveryAt = some actualDeliveryAt

/-- The days are those of a cycle of the order. -/
def IsCycle (orders : List Order) (orderId : Id) (first last : Int) : Prop :=
  ∃ actualDeliveryAt n cycle, Delivered orders orderId actualDeliveryAt ∧
    buildBillingCycleForDelivery actualDeliveryAt n = .ok cycle ∧
      cycle.periodStart = first ∧ cycle.periodEnd = last

/-- The period of a draft is a cycle, and the order it has read was delivered as it says. -/
def DraftOk (orders : List Order) : Draft → Prop
  | .order order _ => ∀ actualDeliveryAt, order.actualDeliveryAt = some actualDeliveryAt →
      Delivered orders order.id actualDeliveryAt
  | .period orderId _ _ period => IsCycle orders orderId period.start period.end

structure RentBillsOk (orders : List Order) (bills : List RentBill) (drafts : List Draft) : Prop where
  orderIds : (orders.map (·.id)).Nodup
  cycles : ∀ b ∈ bills, IsCycle orders b.orderId b.billPeriodStart b.billPeriodEnd
  keys : ∀ b ∈ bills, b.sourceKey = billingSourceKey b.orderId b.billPeriodStart
  sourceKeys : (bills.map (·.sourceKey)).Nodup
  drafts : ∀ d ∈ drafts, DraftOk orders d

abbrev State.BillsOk (s : State) : Prop := RentBillsOk s.orders s.bills s.drafts

theorem State.BillsOk.init (now : Int) : (State.init now).BillsOk := by
  constructor <;> simp [State.init]

variable {s : State} {orders : List Order} {bills : List RentBill} {drafts : List Draft}

/-- An order is delivered once. -/
theorem RentBillsOk.delivered_unique (h : RentBillsOk orders bills drafts) {orderId : Id} {t t' : Int}
    (ht : Delivered orders orderId t) (ht' : Delivered orders orderId t') : t = t' := by
  obtain ⟨order, horder, hid, hdelivery⟩ := ht
  obtain ⟨order', horder', hid', hdelivery'⟩ := ht'
  have hsame : order = order' :=
    List.inj_on_of_nodup_map h.orderIds horder horder' (hid.trans hid'.symm)
  rw [hsame, hdelivery'] at hdelivery
  exact (Option.some.inj hdelivery).symm

/-! ## Orders -/

theorem RentBillsOk.orderRows {orders' : List Order} (h : RentBillsOk orders bills drafts)
    (hids : (orders'.map (·.id)).Nodup)
    (hkept : ∀ orderId t, Delivered orders orderId t → Delivered orders' orderId t) :
    RentBillsOk orders' bills drafts := by
  have hcycle : ∀ orderId first last, IsCycle orders orderId first last →
      IsCycle orders' orderId first last := by
    rintro orderId first last ⟨t, n, cycle, hdelivered, hcycle⟩
    exact ⟨t, n, cycle, hkept orderId t hdelivered, hcycle⟩
  refine { h with orderIds := hids, cycles := ?_, drafts := ?_ }
  · intro b hb
    exact hcycle _ _ _ (h.cycles b hb)
  · intro d hd
    have hdraft := h.drafts d hd
    cases d with
    | order order source => exact fun t ht => hkept _ _ (hdraft t ht)
    | period orderId source amount period => exact hcycle _ _ _ hdraft

/-- A delivery that is recorded stays. -/
theorem State.BillsOk.putOrder (h : s.BillsOk) (order : Order) : (s.putOrder order).BillsOk := by
  unfold State.putOrder
  split
  · rename_i hnone
    refine RentBillsOk.orderRows h ?_ ?_
    · rw [List.map_append]
      refine List.nodup_append.2 ⟨h.orderIds, List.nodup_singleton _, ?_⟩
      intro a ha b hb
      obtain ⟨old, hold, rfl⟩ := List.mem_map.1 ha
      rw [List.mem_singleton.1 hb]
      simpa using List.find?_eq_none.1 hnone old hold
    · rintro orderId t ⟨old, hold, hdelivered⟩
      exact ⟨old, List.mem_append_left _ hold, hdelivered⟩
  · rename_i old hold
    obtain ⟨hmem, hid⟩ := State.order?_some hold
    split
    · exact h
    rename_i hkeeps
    refine RentBillsOk.orderRows h ?_ ?_
    · have hids : (s.orders.map fun row => if row.id == order.id then order else row).map (·.id) =
          s.orders.map (·.id) := by
        rw [List.map_map]
        refine List.map_congr_left fun row _ => ?_
        by_cases hrow : row.id = order.id <;> simp [hrow]
      rw [hids]
      exact h.orderIds
    · rintro orderId t ⟨row, hrow, hrowId, hdelivery⟩
      refine ⟨_, List.mem_map_of_mem hrow, ?_⟩
      by_cases hsame : row.id = order.id
      · have heq : row = old := List.inj_on_of_nodup_map h.orderIds hrow hmem (hsame.trans hid.symm)
        subst heq
        have hdelivered : order.actualDeliveryAt = some t := by
          by_contra hne
          exact hkeeps ⟨by simp [hdelivery], by rwa [hdelivery]⟩
        simp [hsame, hdelivered, ← hrowId]
      · rw [if_neg (by simpa using hsame)]
        exact ⟨hrowId, hdelivery⟩

/-! ## Bills -/

theorem createMonthlyRentBillForPeriodIfAbsent_cases {orderId : Id} {amount : Int}
    {period : MonthlyRentPeriod} {source : BillSource} {sourceKey : IdempotencyKey}
    {contractSegmentId : Option Id} {bill : RentBill} {created : Bool} {bills' : List RentBill}
    (h : createMonthlyRentBillForPeriodIfAbsent orderId amount period source sourceKey
      contractSegmentId bills = some (bill, created, bills')) :
    bills' = bills ∨ bills' = bills ++ [bill] ∧ (∀ b ∈ bills, b.sourceKey ≠ sourceKey) ∧
      bill.orderId = orderId ∧ bill.billPeriodStart = period.start ∧
        bill.billPeriodEnd = period.end ∧ bill.sourceKey = sourceKey := by
  unfold createMonthlyRentBillForPeriodIfAbsent at h
  split at h
  · cases h
    exact .inl rfl
  split at h
  · cases h
  · rename_i hfree
    cases h
    refine .inr ⟨rfl, fun b hb heq => hfree ?_, rfl, rfl, rfl, rfl⟩
    exact List.any_eq_true.2 ⟨b, hb, by simp [heq]⟩

/-- A bill is created for a cycle, under the key of that cycle. -/
theorem RentBillsOk.create (h : RentBillsOk orders bills drafts) {orderId : Id} {amount : Int}
    {period : MonthlyRentPeriod} {source : BillSource} {contractSegmentId : Option Id}
    {bill : RentBill} {created : Bool} {bills' : List RentBill}
    (hcycle : IsCycle orders orderId period.start period.end)
    (hcreate : createMonthlyRentBillForPeriodIfAbsent orderId amount period source
      (billingSourceKey orderId period.start) contractSegmentId bills = some (bill, created, bills')) :
    RentBillsOk orders bills' drafts := by
  rcases createMonthlyRentBillForPeriodIfAbsent_cases hcreate with
    rfl | ⟨rfl, hfree, horder, hstart, hend, hkey⟩
  · exact h
  refine { h with cycles := ?_, keys := ?_, sourceKeys := ?_ }
  · intro b hb
    rcases List.mem_append.1 hb with hb | hb
    · exact h.cycles b hb
    · rw [List.mem_singleton.1 hb, horder, hstart, hend]
      exact hcycle
  · intro b hb
    rcases List.mem_append.1 hb with hb | hb
    · exact h.keys b hb
    · rw [List.mem_singleton.1 hb, horder, hstart]
      exact hkey
  · rw [List.map_append]
    refine List.nodup_append.2 ⟨h.sourceKeys, List.nodup_singleton _, ?_⟩
    intro a ha b hb
    obtain ⟨old, hold, rfl⟩ := List.mem_map.1 ha
    rw [List.mem_singleton.1 hb]
    show old.sourceKey ≠ bill.sourceKey
    rw [hkey]
    exact hfree old hold

theorem State.BillsOk.updateBill (h : s.BillsOk) (id : Id) {patch : RentBill → RentBill}
    (horder : ∀ b, (patch b).orderId = b.orderId)
    (hstart : ∀ b, (patch b).billPeriodStart = b.billPeriodStart)
    (hend : ∀ b, (patch b).billPeriodEnd = b.billPeriodEnd)
    (hkey : ∀ b, (patch b).sourceKey = b.sourceKey) : (s.updateBill id patch).BillsOk := by
  have hrow : ∀ b : RentBill, ∀ b' : RentBill, b' = (if b.id == id then patch b else b) →
      b'.orderId = b.orderId ∧ b'.billPeriodStart = b.billPeriodStart ∧
        b'.billPeriodEnd = b.billPeriodEnd ∧ b'.sourceKey = b.sourceKey := by
    rintro b b' rfl
    split
    · exact ⟨horder b, hstart b, hend b, hkey b⟩
    · exact ⟨rfl, rfl, rfl, rfl⟩
  refine { h with cycles := ?_, keys := ?_, sourceKeys := ?_ }
  · intro b' hb'
    obtain ⟨b, hb, heq⟩ := List.mem_map.1 hb'
    obtain ⟨ho, hs, he, -⟩ := hrow b b' heq.symm
    rw [ho, hs, he]
    exact h.cycles b hb
  · intro b' hb'
    obtain ⟨b, hb, heq⟩ := List.mem_map.1 hb'
    obtain ⟨ho, hs, -, hk⟩ := hrow b b' heq.symm
    rw [ho, hs, hk]
    exact h.keys b hb
  · have hkeys : (s.updateBill id patch).bills.map (·.sourceKey) = s.bills.map (·.sourceKey) := by
      simp only [State.updateBill, List.map_map]
      exact List.map_congr_left fun b _ => (hrow b _ rfl).2.2.2
    rw [hkeys]
    exact h.sourceKeys

/-! ## Manual generations -/

/-- The period that is chosen is a cycle of the order. -/
theorem choosePeriod_ok {order : Order} {source : BillSource} {billingDate : Int}
    {rows : List RentBill} {d : Draft} (hdraft : DraftOk orders (.order order source))
    (h : choosePeriod order source billingDate rows = some d) : DraftOk orders d := by
  unfold choosePeriod at h
  split at h
  · rename_i t amount hdelivery hamount
    split at h
    · cases h
    simp only at h
    split at h
    · cases h
    rename_i period hperiod
    split at h
    · cases h
    obtain rfl := Option.some.inj h
    unfold buildNextMonthlyRentPeriod at hperiod
    simp only at hperiod
    generalize hbuild : buildBillingCycleForDelivery t _ = built at hperiod
    cases built with
    | error e => cases hperiod
    | ok cycle =>
      obtain rfl := Except.ok.inj hperiod
      exact ⟨t, _, cycle, hdraft t hdelivery, hbuild, rfl, rfl⟩
  · cases h

theorem RentBillsOk.draft (h : RentBillsOk orders bills drafts) {d : Draft} (hd : DraftOk orders d) :
    RentBillsOk orders bills (d :: drafts) := by
  refine { h with drafts := fun d' hd' => ?_ }
  rcases List.mem_cons.1 hd' with rfl | hd'
  · exact hd
  · exact h.drafts d' hd'

theorem State.BillsOk.readDraft (h : s.BillsOk) {d : Draft} (hd : d ∈ s.drafts) (billingDate : Int) :
    (s.readDraft billingDate d).BillsOk := by
  unfold State.readDraft
  split
  · rename_i order source
    split
    · rename_i d' hchosen
      exact RentBillsOk.draft h (choosePeriod_ok (h.drafts _ hd) hchosen)
    · exact h
  · exact h

theorem State.BillsOk.createManual (h : s.BillsOk) {d : Draft} (hd : d ∈ s.drafts) :
    (s.createManual d).BillsOk := by
  unfold State.createManual
  split
  · rename_i orderId source amount period
    split
    · rename_i bill created bills' hcreate
      exact RentBillsOk.create h (h.drafts _ hd) hcreate
    · exact h
  · exact h

/-! ## The automated generation -/

theorem State.BillsOk.generate (h : s.BillsOk) (claim : ClaimedJob) : (s.generate claim).BillsOk := by
  have hcases := generate_cases s claim
  generalize s.generate claim = s' at hcases
  cases hcases with
  | failed | blocked | closed => exact h
  | @billed r order t cycle nextCycle amount segmentId bill created completed bills hr hactive hkey
      horder hid hdelivery hcycle hstart hnext hbill =>
    rw [← hid] at hbill
    exact RentBillsOk.create h ⟨t, _, cycle, ⟨order, horder, rfl, hdelivery⟩, hcycle, rfl, rfl⟩ hbill

/-! ## The other operations -/

theorem State.BillsOk.ensureScheduleAtCycle (h : s.BillsOk) (orderId : Id) (cycle : BillingCycle)
    (completed : Bool) : (ensureScheduleAtCycle orderId cycle completed s).BillsOk := by
  unfold Billing.ensureScheduleAtCycle
  split <;> exact h

theorem State.BillsOk.pauseReconciliationBlockedSchedule (h : s.BillsOk)
    (snapshot : BillingSchedule) (code : Contract.ErrorCode) :
    (pauseReconciliationBlockedSchedule snapshot code s).BillsOk := by
  unfold Billing.pauseReconciliationBlockedSchedule
  split
  · exact h
  rename_i r _
  by_cases hcurrent : r.version = snapshot.version ∧
      r.status = (if snapshot.status = .active then .active else .paused)
  · rw [if_pos hcurrent]
    exact h
  · rw [if_neg hcurrent]
    split <;> exact h

theorem State.BillsOk.reconcileOrder (h : s.BillsOk) (read : Order)
    (snapshot : Option BillingSchedule) (rows : List RentBill) :
    (reconcileOrder read snapshot rows s).BillsOk := by
  unfold Billing.reconcileOrder
  split
  · exact h
  split
  · split
    · exact h.pauseReconciliationBlockedSchedule _ _
    · split
      · unfold resumeReconciledSchedule
        split
        · exact h
        · split <;> exact h
      · exact h
  · split
    · exact h
    split
    · exact h
    split
    · exact h
    · exact h.ensureScheduleAtCycle _ _ _

theorem State.BillsOk.step (e : Event) (h : s.BillsOk) : (step s e).BillsOk := by
  cases e with
  | order order => exact h.putOrder order
  | ensureActiveSchedule orderId =>
    simp only [Billing.step]
    split
    · unfold Billing.ensureActiveSchedule
      split
      · exact h.ensureScheduleAtCycle _ _ _
      · exact h
    · exact h
  | enqueueDueSchedule now id =>
    simp only [Billing.step, enqueueDueSchedule]
    split
    · exact h
    · split <;> exact h
  | generate claim =>
    simp only [Billing.step]
    split
    · exact h.generate claim
    · exact h
  | retryJob jobId =>
    simp only [Billing.step, retryJob]
    split
    · split <;> exact h
    · exact h
  | resumeSchedule id =>
    simp only [Billing.step, resumeSchedule]
    split
    · split <;> exact h
    · exact h
  | reconcileRead orderId =>
    simp only [Billing.step]
    split
    · split <;> exact h
    · exact h
  | reconcileApply order schedule rows =>
    simp only [Billing.step]
    split
    · exact h.reconcileOrder _ _ _
    · exact h
  | resumeForExtension orderId segmentId =>
    simp only [Billing.step, resumeForExtension]
    split
    · split <;> exact h
    · exact h
  | readOrder orderId source =>
    simp only [Billing.step]
    split
    · rename_i order horder
      obtain ⟨hmem, -⟩ := State.order?_some horder
      exact RentBillsOk.draft h fun t ht => ⟨order, hmem, rfl, ht⟩
    · exact h
  | readBills d billingDate =>
    simp only [Billing.step]
    split
    · rename_i hd
      exact h.readDraft hd billingDate
    · exact h
  | createBill d =>
    simp only [Billing.step]
    split
    · rename_i hd
      exact h.createManual hd
    · exact h
  | billStatus | deleteBill =>
    exact h.updateBill _ (fun _ => rfl) (fun _ => rfl) (fun _ => rfl) (fun _ => rfl)
  | complete | fail | enqueueOther | pauseCheck | pauseWrite =>
    simp only [Billing.step]
    split <;> exact h
  | claimDue | cancelPendingForBills | tick => exact h

/-! ## The bills of an order over whole runs -/

/-- The bills of an order that are not cancelled. -/
def rentBillsOf (orderId : Id) (bills : List RentBill) : List RentBill :=
  bills.filter fun bill => bill.orderId == orderId && bill.billStatus != .cancelled

/-- Two bills of an order bill different cycles of its delivery. -/
theorem RentBillsOk.disjoint (h : RentBillsOk orders bills drafts) {b b' : RentBill} (hb : b ∈ bills)
    (hb' : b' ∈ bills) (horder : b.orderId = b'.orderId) (hkey : b.sourceKey ≠ b'.sourceKey) :
    b.billPeriodEnd < b'.billPeriodStart ∨ b'.billPeriodEnd < b.billPeriodStart := by
  obtain ⟨t, m, cycle, hdelivered, hcycle, hstart, hend⟩ := h.cycles b hb
  obtain ⟨t', n, cycle', hdelivered', hcycle', hstart', hend'⟩ := h.cycles b' hb'
  have hsame : t' = t := h.delivered_unique hdelivered' (horder ▸ hdelivered)
  subst hsame
  obtain ⟨-, hfirst, hlast⟩ := buildBillingCycle_ok hcycle
  obtain ⟨-, hfirst', hlast'⟩ := buildBillingCycle_ok hcycle'
  have hne : m ≠ n := by
    rintro rfl
    refine hkey ?_
    rw [h.keys b hb, h.keys b' hb', horder, ← hstart, ← hstart', hfirst, hfirst']
  have hmono := (cycleStart_strictMono (toBillingBusinessDate t')).monotone
  rw [← hstart, ← hend, ← hstart', ← hend', hfirst, hlast, hfirst', hlast']
  rcases lt_or_gt_of_ne hne with hlt | hgt
  · have hle := hmono (show m + 1 ≤ n by omega)
    exact .inl (by omega)
  · have hle := hmono (show n + 1 ≤ m by omega)
    exact .inr (by omega)

theorem billingRun_billsOk (now : Int) (evs : List Event) : (billingRun now evs).BillsOk :=
  Runs.runs_always State.BillsOk (fun _ e h => h.step e) (State.BillsOk.init now) evs

/-- In every run: the periods of two bills of an order that are not cancelled do not overlap, each of
them is a cycle of the delivery, and no cycle has two of them. -/
theorem rent_billed_once (now : Int) (evs : List Event) (orderId : Id) :
    (rentBillsOf orderId (billingRun now evs).bills).Pairwise
      (fun b b' => b.billPeriodEnd < b'.billPeriodStart ∨ b'.billPeriodEnd < b.billPeriodStart) ∧
    (∀ b ∈ rentBillsOf orderId (billingRun now evs).bills,
      IsCycle (billingRun now evs).orders orderId b.billPeriodStart b.billPeriodEnd) ∧
    ∀ first last, IsCycle (billingRun now evs).orders orderId first last →
      (rentBillsOf orderId (billingRun now evs).bills).countP
        (fun b => b.billPeriodStart == first && b.billPeriodEnd == last) ≤ 1 := by
  have hok := billingRun_billsOk now evs
  set s := billingRun now evs
  have hrow : ∀ {b}, b ∈ rentBillsOf orderId s.bills → b ∈ s.bills ∧ b.orderId = orderId := by
    intro b hb
    rw [rentBillsOf, List.mem_filter, Bool.and_eq_true, beq_iff_eq] at hb
    exact ⟨hb.1, hb.2.1⟩
  have hpairs : (rentBillsOf orderId s.bills).Pairwise
      (fun b b' => b.billPeriodEnd < b'.billPeriodStart ∨ b'.billPeriodEnd < b.billPeriodStart) := by
    have hkeys : (rentBillsOf orderId s.bills).Pairwise (fun b b' => b.sourceKey ≠ b'.sourceKey) :=
      (List.pairwise_map.1 hok.sourceKeys).filter _
    refine hkeys.imp_of_mem fun hb hb' hkey => ?_
    exact hok.disjoint (hrow hb).1 (hrow hb').1 ((hrow hb).2.trans (hrow hb').2.symm) hkey
  refine ⟨hpairs, fun b hb => ?_, fun first last hcycle => ?_⟩
  · have hperiod := hok.cycles b (hrow hb).1
    rwa [(hrow hb).2] at hperiod
  · obtain ⟨t, n, cycle, -, hbuild, rfl, rfl⟩ := hcycle
    obtain ⟨-, hfirst, hlast⟩ := buildBillingCycle_ok hbuild
    have hlt : cycleStart (toBillingBusinessDate t) n < cycleStart (toBillingBusinessDate t) (n + 1) :=
      cycleStart_strictMono _ (by omega)
    rw [List.countP_eq_length_filter]
    have hone := hpairs.filter fun b => b.billPeriodStart == cycle.periodStart &&
      b.billPeriodEnd == cycle.periodEnd
    generalize hrows : List.filter _ (rentBillsOf orderId s.bills) = rows at hone ⊢
    rcases rows with _ | ⟨b, _ | ⟨b', rows⟩⟩
    · simp
    · simp
    -- two bills of the cycle would overlap
    exfalso
    have hsame : ∀ b₁ ∈ b :: b' :: rows, b₁.billPeriodStart = cycle.periodStart ∧
        b₁.billPeriodEnd = cycle.periodEnd := by
      intro b₁ hb₁
      rw [← hrows, List.mem_filter, Bool.and_eq_true, beq_iff_eq, beq_iff_eq] at hb₁
      exact hb₁.2
    obtain ⟨hs, he⟩ := hsame b (by simp)
    obtain ⟨hs', he'⟩ := hsame b' (by simp)
    have hapart := (List.pairwise_cons.1 hone).1 b' (by simp)
    rw [hs, he, hs', he', hfirst, hlast] at hapart
    omega

/-- The month whose generation is claimed is billed by hand before the worker gets to it. -/
def twoWaysRun : List Event :=
  secondMonthRun ++
    [.readOrder 1 .single, .readBills (.order (twoMonthOrder [baseSegment]) .single) 0,
      .createBill (.period 1 .single 500 ⟨1, 31, 58⟩)] ++
    (billingRun 0 secondMonthRun).queue.granted.map .generate

theorem rent_billed_once_twoWays :
    (billingRun 0 twoWaysRun).generated.length = 1 ∧
      (rentBillsOf 1 (billingRun 0 twoWaysRun).bills).map (·.source) = [.single] ∧
        (rentBillsOf 1 (billingRun 0 twoWaysRun).bills).countP
          (fun b => b.billPeriodStart == 31 && b.billPeriodEnd == 58) ≤ 1 := by
  refine ⟨by decide +kernel, by decide +kernel, ?_⟩
  refine (rent_billed_once 0 twoWaysRun 1).2.2 31 58 ?_
  have hdelivered : Delivered (billingRun 0 twoWaysRun).orders 1 0 :=
    ⟨twoMonthOrder [baseSegment], by decide +kernel, rfl, rfl⟩
  exact ⟨0, 1, ⟨0, 1, 31, 28, 36, 58, 31⟩, hdelivered, by decide +kernel, rfl, rfl⟩

end SubscriptionSaas.Billing
