import SubscriptionSaas.Finance.Proofs.MovesProofs

/-!
# What the finance operations commit

One specification for each operation of the finance service, proved with the rules for transactions:
whatever the other sessions do between its statements, what it commits is a sequence of moves on the
database it commits to, together with the few facts about its reads that the claims need.

`Step c c' new` relates two states of one transaction: no lock given up, more reads, and the writes
`new` on top. `Good c` says that the writes so far are moves on every database the environment can
still leave behind.
-/

namespace SubscriptionSaas.Finance

open Transaction

/-- The transaction has got from `c` to `c'` by the writes `new`. -/
structure Step (c c' : Ctx sig) (new : List Write) : Prop where
  held : ∀ r ∈ c.held, r ∈ c'.held
  rely : Rely c.held c.db c'.db
  seen : ∀ x ∈ c.seen, x ∈ c'.seen
  pending : c'.pending = c.pending ++ new

theorem Step.refl (c : Ctx sig) : Step c c [] :=
  ⟨fun _ h => h, isolation.rely_refl _ _, fun _ h => h, (List.append_nil _).symm⟩

theorem Step.trans {c c' c'' : Ctx sig} {new new' : List Write} (h : Step c c' new)
    (h' : Step c' c'' new') : Step c c'' (new ++ new') where
  held := fun r hr => h'.held r (h.held r hr)
  rely := h.rely.trans (h'.rely.mono h.held)
  seen := fun x hx => h'.seen x (h.seen x hx)
  pending := by rw [h'.pending, h.pending, List.append_assoc]

/-- A read. -/
theorem Step.query {c : Ctx sig} (t : Tag) {db : Db} (h : Rely c.held c.db db) :
    Step c { c with db := db, seen := c.seen ++ [(t, db)] } [] :=
  ⟨fun _ h => h, h, fun _ hx => List.mem_append_left _ hx, (List.append_nil _).symm⟩

/-- Some locks. -/
theorem Step.lock {c : Ctx sig} (rs : List Row) {db : Db} (h : Rely c.held c.db db) :
    Step c { c with db := db, held := rs ++ c.held } [] :=
  ⟨fun _ h => List.mem_append_right _ h, h, fun _ hx => hx, (List.append_nil _).symm⟩

/-- Some writes. -/
theorem Step.write (c : Ctx sig) (new : List Write) :
    Step c { c with pending := c.pending ++ new } new :=
  ⟨fun _ h => h, isolation.rely_refl _ _, fun _ hx => hx, rfl⟩

/-- The writes so far are moves on whatever database the transaction will commit to. -/
def Good (c : Ctx sig) : Prop := ∀ db, Rely c.held c.db db → Moves c.seen db c.pending

theorem Good.mono {c c' : Ctx sig} (h : Good c) (hstep : Step c c' []) : Good c' := by
  intro db hr
  rw [hstep.pending, List.append_nil]
  exact (h db (hstep.rely.trans (hr.mono hstep.held))).mono hstep.seen

/-- A read leaves the transaction in some later state. -/
theorem wp_read {α : Type} {C : Duty sig} {t : Tag} {f : Db → α} {Q : α → Ctx sig → Prop}
    {E : Err → Ctx sig → Prop} {c : Ctx sig}
    (hQ : ∀ c', Step c c' [] → (t, c'.db) ∈ c'.seen → Q (f (view c.pending c'.db)) c') :
    wp isolation C (select (S := sig) t f) Q E c :=
  fun _ hr => hQ _ (Step.query t hr) (List.mem_append_right _ (List.mem_singleton_self _))

/-- A lock leaves the transaction in some later state. -/
theorem wp_lock {C : Duty sig} {r : Row} {Q : Unit → Ctx sig → Prop} {E : Err → Ctx sig → Prop}
    {c : Ctx sig} (hQ : ∀ c', Step c c' [] → r ∈ c'.held → Q () c') :
    wp isolation C (lockRow (S := sig) r) Q E c :=
  fun _ hr => hQ _ (Step.lock [r] hr) List.mem_cons_self

/-- The bill of a locked row as the transaction sees it later. -/
theorem Step.bill? {c c' : Ctx sig} {new : List Write} (h : Step c c' new) {id : Id}
    (hheld : Row.bill id ∈ c.held) :
    (view c'.pending c'.db).bill? id =
      ((view c.pending c.db).bill? id).map (patchBills new) := by
  have hrow : c.db.bill? id = c'.db.bill? id := (h.rely.2 _ hheld).1
  rw [h.pending, view_append, view_bill? new, view_bill? c.pending c'.db,
    view_bill? c.pending c.db, hrow]

/-- The bill of a locked row on the database the transaction will commit to. -/
theorem bill?_rely {c : Ctx sig} {db : Db} (hr : Rely c.held c.db db) {id : Id}
    (hheld : Row.bill id ∈ c.held) :
    (view c.pending db).bill? id = (view c.pending c.db).bill? id := by
  have hrow : c.db.bill? id = db.bill? id := (hr.2 _ hheld).1
  rw [view_bill?, view_bill?, hrow]

/-! ## The payment of a transaction -/

theorem view_payment? (ws : List Write) (db : Db) (id : Id) :
    (view ws db).payment? id =
      (db.payment? id).or ((ws.filterMap Write.payment?).find? (·.id == id)) := by
  unfold Db.payment?
  rw [view_payments, List.find?_append]

/-- The payment a transaction pays from is known to it: it was read, or it is its own. -/
structure RefOk (c : Ctx sig) (ref : PaymentRef) : Prop where
  pinned : Row.payment ref.paymentId ∈ c.held ∨ (c.db.payment? ref.paymentId).isSome
  exists_ : ∃ p, (view c.pending c.db).payment? ref.paymentId = some p ∧ ref.Names p

theorem payment?_rely {c : Ctx sig} {ref : PaymentRef} (h : RefOk c ref) {db : Db}
    (hr : Rely c.held c.db db) (new : List Write) (hnew : new.filterMap Write.payment? = []) :
    (view (c.pending ++ new) db).payment? ref.paymentId =
      (view c.pending c.db).payment? ref.paymentId := by
  have hrow : db.payment? ref.paymentId = c.db.payment? ref.paymentId := by
    rcases h.pinned with hheld | hsome
    · exact (hr.2 _ hheld).symm
    · obtain ⟨p, hp⟩ := Option.isSome_iff_exists.mp hsome
      rw [hp]
      exact hr.1.payment? hp
  rw [view_payment?, view_payment?, hrow, List.filterMap_append, hnew, List.append_nil]

theorem RefOk.paysFor {c : Ctx sig} {ref : PaymentRef} (h : RefOk c ref) {db : Db}
    (hr : Rely c.held c.db db) (new : List Write) (hnew : new.filterMap Write.payment? = [])
    {bill : ReceivableBill} (hc : bill.customerId = ref.customerId)
    (ho : bill.orderId = ref.orderId) : PaysFor (view (c.pending ++ new) db) ref bill := by
  obtain ⟨p, hp, hnames⟩ := h.exists_
  exact ⟨⟨p, (payment?_rely h hr new hnew).trans hp, hnames⟩, hc, ho⟩

theorem RefOk.step {c c' : Ctx sig} {ref : PaymentRef} {new : List Write} (h : RefOk c ref)
    (hstep : Step c c' new) (hnew : new.filterMap Write.payment? = []) : RefOk c' ref where
  pinned := by
    rcases h.pinned with hheld | hsome
    · exact .inl (hstep.held _ hheld)
    · obtain ⟨p, hp⟩ := Option.isSome_iff_exists.mp hsome
      exact .inr (Option.isSome_iff_exists.mpr ⟨p, hstep.rely.1.payment? hp⟩)
  exists_ := by
    obtain ⟨p, hp, hnames⟩ := h.exists_
    refine ⟨p, ?_, hnames⟩
    rw [hstep.pending]
    exact (payment?_rely h hstep.rely new hnew).trans hp

/-! ## Paying and collecting -/

/-- The two statements that pay a bill. -/
def payWrites (ref : PaymentRef) (bill : ReceivableBill) (amount : Int) (at_ : Instant) :
    List Write :=
  [.updateBill bill.id (paidPatch bill amount at_),
    .insertWriteOff (writeOffRow ref bill amount at_)]

theorem patchBills_pay (ref : PaymentRef) (bill : ReceivableBill) (amount : Int) (at_ : Instant)
    (b : ReceivableBill) : patchBills (payWrites ref bill amount at_) b =
      if b.id == bill.id then (paidPatch bill amount at_).apply b else b := rfl

theorem wp_payBill {C : Duty sig} {ref : PaymentRef} {bill : ReceivableBill} {amount : Int}
    {at_ : Instant} {Q : ReceivableBill → Ctx sig → Prop} {E : Err → Ctx sig → Prop} {c : Ctx sig}
    (hgood : Good c) (hheld : Row.bill bill.id ∈ c.held)
    (hbill : Payable (view c.pending c.db) bill amount) (href : RefOk c ref)
    (hc : bill.customerId = ref.customerId) (ho : bill.orderId = ref.orderId)
    (hQ : ∀ c', Step c c' (payWrites ref bill amount at_) → Good c' →
      Q ((paidPatch bill amount at_).apply bill) c') :
    wp isolation C (payBill ref bill amount at_) Q E c := by
  have hstep := Step.write c (payWrites ref bill amount at_)
  have hgood' : Good { c with pending := c.pending ++ payWrites ref bill amount at_ } := by
    intro db hr
    have hcur := (bill?_rely (c := c) hr hheld).trans hbill.current
    have hpays := href.paysFor hr [] rfl hc ho
    rw [List.append_nil] at hpays
    exact (hgood db hr).pay ⟨hcur, hbill.live, hbill.open_, hbill.pos, hbill.le⟩ hpays
  have htouch : ∀ r ∈ [Row.bill bill.id], r ∈ c.held := by
    intro r hr
    rw [List.mem_singleton.mp hr]
    exact hheld
  simp only [payBill, wp_bind, wp_exec, wp_pure]
  refine ⟨htouch, htouch, ?_⟩
  have hQ' := hQ _ hstep hgood'
  simpa [payWrites] using hQ'

/-- What `collectDeposit` may write: nothing, or one collecting row. -/
def CollectWrites (ref : PaymentRef) (billId : Id) (new : List Write) : Prop :=
  new = [] ∨ ∃ l, new = [.insertLedger l] ∧ l.billId = some billId ∧
    l.paymentId = some ref.paymentId ∧ l.transactionType = .collect

theorem wp_collectDeposit {C : Duty sig} {ref : PaymentRef} {bill : ReceivableBill}
    {occurredAt : Instant} {Q : Unit → Ctx sig → Prop} {E : Err → Ctx sig → Prop} {c : Ctx sig}
    (hgood : Good c) (hheld : Row.bill bill.id ∈ c.held)
    (hbill : (view c.pending c.db).bill? bill.id = some bill) (hlive : bill.deletedAt = none)
    (hpos : ∀ db, Rely c.held c.db db → BillsOk db → 0 < bill.paidAmount) (href : RefOk c ref)
    (hc : bill.customerId = ref.customerId) (ho : bill.orderId = ref.orderId)
    (hQ : ∀ c' new, Step c c' new → Good c' → CollectWrites ref bill.id new → Q () c') :
    wp isolation C (collectDeposit ref bill occurredAt) Q E c := by
  unfold collectDeposit
  by_cases hdep : bill.billType = .deposit ∧ bill.billStatus = .paid
  · rw [if_pos hdep, wp_bind]
    refine wp_read fun c₁ hs₁ _ => ?_
    by_cases hex : (((view c.pending c₁.db).billLedger bill.id).find?
        (·.transactionType == .collect)).isSome = true
    · rw [if_pos hex]
      exact hQ c₁ [] hs₁ (hgood.mono hs₁) (.inl rfl)
    · rw [if_neg hex, wp_bind]
      refine wp_read fun c₂ hs₂ hmem => ?_
      have hs := hs₁.trans hs₂
      rw [availableBalance_eq]
      intro id createdAt
      have hpend : c₁.pending = c.pending := by rw [hs₁.pending, List.append_nil]
      have hpend₂ : c₂.pending = c.pending := by rw [hs.pending]; simp
      rw [hpend]
      set l := collectRow ref bill
        (balanceOf ((view c.pending c₂.db).confirmedLedger ref.customerId ref.orderId)) id
        occurredAt createdAt with hl
      have hnone : ∀ x ∈ (view c.pending c₁.db).billLedger bill.id,
          x.transactionType ≠ .collect := by
        intro x hx hcol
        rw [Option.not_isSome_iff_eq_none] at hex
        have := List.find?_eq_none.mp hex x hx
        simp [hcol] at this
      refine ⟨?_, hQ _ _ (hs.trans (Step.write c₂ [.insertLedger l])) ?_
        (.inr ⟨l, rfl, rfl, rfl, rfl⟩)⟩
      · intro r hr
        rw [show r = Row.bill bill.id by simpa [isolation, Write.touches, collectRow] using hr]
        exact hs.held _ hheld
      · intro db hr
        have hr₁ : Rely c₁.held c₁.db db := hs₂.rely.trans (hr.mono hs₂.held)
        have hr₀ : Rely c.held c.db db := hs₁.rely.trans (hr₁.mono hs₁.held)
        have hled : (view c.pending db).billLedger bill.id =
            (view c.pending c₁.db).billLedger bill.id := by
          have hrow := (hr₁.2 _ (hs₁.held _ hheld)).2.2.1
          rw [view_billLedger, view_billLedger, hrow]
        have hpays := href.paysFor hr₀ [] rfl hc ho
        rw [List.append_nil] at hpays
        show Moves c₂.seen db (c₂.pending ++ [.insertLedger l])
        rw [hpend₂]
        refine ((hgood db hr₀).mono hs.seen).collect ((bill?_rely hr₀ hheld).trans hbill) hlive
          hdep.1 hdep.2 ?_ hpays (hpos db hr₀) hmem
        rw [hled]
        exact hnone
  · rw [if_neg hdep]
    exact hQ c [] (Step.refl c) hgood (.inl rfl)

/-! ## What a run of payments books -/

/-- The writes pay bills among `ids` from one payment, `amount` in all, and collect deposits. -/
structure Booked (ids : List Id) (paymentId : Id) (amount : Int) (ws : List Write) : Prop where
  kind : ∀ w ∈ ws, (∃ id p, w = .updateBill id p) ∨ (∃ x, w = .insertWriteOff x) ∨
    ∃ l, w = .insertLedger l
  writeOff : ∀ x ∈ ws.filterMap Write.writeOff?, x.paymentId = paymentId ∧ x.deletedAt = none ∧
    x.billId ∈ ids
  ledger : ∀ l ∈ ws.filterMap Write.ledger?, l.transactionType = .collect ∧
    l.paymentId = some paymentId ∧ ∃ id ∈ ids, l.billId = some id
  sum : sumWriteOffAmount (ws.filterMap Write.writeOff?) = amount

theorem Booked.money {ids : List Id} {paymentId : Id} {amount : Int} {ws : List Write}
    (h : Booked ids paymentId amount ws) : ∀ w ∈ ws, w.IsMoney := by
  intro w hw
  rcases h.kind w hw with ⟨id, p, rfl⟩ | ⟨x, rfl⟩ | ⟨l, rfl⟩ <;> trivial

theorem sumWriteOffAmount_append (xs ys : List PaymentWriteOff) :
    sumWriteOffAmount (xs ++ ys) = sumWriteOffAmount xs + sumWriteOffAmount ys := by
  simp [sumWriteOffAmount]

theorem Booked.nil (ids : List Id) (paymentId : Id) : Booked ids paymentId 0 [] :=
  ⟨fun _ h => absurd h List.not_mem_nil, fun _ h => absurd h List.not_mem_nil,
    fun _ h => absurd h List.not_mem_nil, rfl⟩

theorem Booked.append {ids : List Id} {paymentId : Id} {a b : Int} {ws ws' : List Write}
    (h : Booked ids paymentId a ws) (h' : Booked ids paymentId b ws') :
    Booked ids paymentId (a + b) (ws ++ ws') where
  kind w hw := (List.mem_append.mp hw).elim (h.kind w) (h'.kind w)
  writeOff x hx := by
    rw [List.filterMap_append] at hx
    exact (List.mem_append.mp hx).elim (h.writeOff x) (h'.writeOff x)
  ledger l hl := by
    rw [List.filterMap_append] at hl
    exact (List.mem_append.mp hl).elim (h.ledger l) (h'.ledger l)
  sum := by rw [List.filterMap_append, sumWriteOffAmount_append, h.sum, h'.sum]

theorem Booked.noPayment {ids : List Id} {paymentId : Id} {a : Int} {ws : List Write}
    (h : Booked ids paymentId a ws) : ws.filterMap Write.payment? = [] := by
  rw [List.filterMap_eq_nil_iff]
  intro w hw
  rcases h.kind w hw with ⟨id, p, rfl⟩ | ⟨x, rfl⟩ | ⟨l, rfl⟩ <;> rfl

theorem Booked.pay {ids : List Id} {ref : PaymentRef} {bill : ReceivableBill} {amount : Int}
    {at_ : Instant} (hid : bill.id ∈ ids) :
    Booked ids ref.paymentId amount (payWrites ref bill amount at_) where
  kind w hw := by
    rcases List.mem_cons.mp hw with rfl | hw
    · exact .inl ⟨_, _, rfl⟩
    · rw [List.mem_singleton.mp hw]; exact .inr (.inl ⟨_, rfl⟩)
  writeOff x hx := by
    have : x = writeOffRow ref bill amount at_ := by
      simpa [payWrites, Write.writeOff?, List.filterMap_cons] using hx
    rw [this]
    exact ⟨rfl, rfl, hid⟩
  ledger l hl := by simp [payWrites, Write.ledger?, List.filterMap_cons] at hl
  sum := by simp [payWrites, Write.writeOff?, List.filterMap_cons, sumWriteOffAmount, writeOffRow]

theorem CollectWrites.booked {ids : List Id} {ref : PaymentRef} {billId : Id} {new : List Write}
    (h : CollectWrites ref billId new) (hid : billId ∈ ids) : Booked ids ref.paymentId 0 new := by
  rcases h with rfl | ⟨l, rfl, h1, h2, h3⟩
  · exact Booked.nil ids ref.paymentId
  · refine ⟨?_, ?_, ?_, ?_⟩
    · intro w hw; rw [List.mem_singleton.mp hw]; exact .inr (.inr ⟨l, rfl⟩)
    · intro x hx; simp [Write.writeOff?, List.filterMap_cons] at hx
    · intro x hx
      have : x = l := by simpa [Write.ledger?, List.filterMap_cons] using hx
      rw [this]
      exact ⟨h3, h2, billId, hid, h1⟩
    · simp [Write.writeOff?, List.filterMap_cons, sumWriteOffAmount]

theorem CollectWrites.patchBills {ref : PaymentRef} {billId : Id} {new : List Write}
    (h : CollectWrites ref billId new) (b : ReceivableBill) : Finance.patchBills new b = b := by
  rcases h with rfl | ⟨l, rfl, -, -, -⟩ <;> rfl

/-! ## writeOffPayment -/

/-- The transaction holds the bills `ids` and knows their rows. -/
structure Tracked (c : Ctx sig) (ids : List Id) (m : BillById) : Prop where
  held : ∀ id ∈ ids, Row.bill id ∈ c.held
  rows : ∀ id ∈ ids, ∀ b, m id = some b →
    (view c.pending c.db).bill? id = some b ∧ b.deletedAt = none

/-- After a bill has been paid and perhaps collected, its new row is the known one. -/
theorem Tracked.paid {c c' : Ctx sig} {ids : List Id} {m : BillById} (h : Tracked c ids m)
    {ref : PaymentRef} {bill : ReceivableBill} {amount : Int} {at_ : Instant} {new : List Write}
    (hid : bill.id ∈ ids) (hm : m bill.id = some bill)
    (hnew : CollectWrites ref bill.id new) (hstep : Step c c' (payWrites ref bill amount at_ ++ new)) :
    Tracked c' ids (m.set ((paidPatch bill amount at_).apply bill)) where
  held id hid := hstep.held _ (h.held id hid)
  rows := by
    intro id hid' b hb
    have hview := hstep.bill? (h.held id hid')
    have hpatch : ∀ x, patchBills (payWrites ref bill amount at_ ++ new) x =
        if x.id == bill.id then (paidPatch bill amount at_).apply x else x := by
      intro x
      rw [patchBills_append, hnew.patchBills, patchBills_pay]
    have hb : (if id = bill.id then some ((paidPatch bill amount at_).apply bill) else m id) =
        some b := hb
    by_cases hc : id = bill.id
    · rw [if_pos hc] at hb
      obtain ⟨h1, h2⟩ := h.rows bill.id hid bill hm
      rw [← Option.some.inj hb]
      refine ⟨?_, h2⟩
      rw [hview, hc, h1, Option.map_some, hpatch]
      simp
    · rw [if_neg hc] at hb
      obtain ⟨h1, h2⟩ := h.rows id hid' b hb
      refine ⟨?_, h2⟩
      have hne : (b.id == bill.id) = false := by
        have : b.id ≠ bill.id := fun heq => hc ((Db.bill?_id h1).symm.trans heq)
        simpa using this
      rw [hview, h1, Option.map_some, hpatch]
      simp [hne]

/-- Paying a known bill and collecting it if it is a settled deposit bill. -/
theorem wp_payAndCollect {α : Type} {C : Duty sig} {ref : PaymentRef} {bill : ReceivableBill}
    {amount : Int} {at_ : Instant} {k : ReceivableBill → α} {Q : α → Ctx sig → Prop}
    {E : Err → Ctx sig → Prop} {c : Ctx sig} {ids : List Id} {m : BillById}
    (hgood : Good c) (htrack : Tracked c ids m) (href : RefOk c ref) (hid : bill.id ∈ ids)
    (hm : m bill.id = some bill) (hopen : bill.billStatus ≠ .cancelled) (hpos : 0 < amount)
    (hle : amount ≤ bill.remainingAmount) (hc : bill.customerId = ref.customerId)
    (ho : bill.orderId = ref.orderId)
    (hQ : ∀ c' new, Step c c' new → Good c' →
      Tracked c' ids (m.set ((paidPatch bill amount at_).apply bill)) → RefOk c' ref →
      Booked [bill.id] ref.paymentId amount new →
      Q (k ((paidPatch bill amount at_).apply bill)) c') :
    wp isolation C (do
      let updatedBill ← payBill ref bill amount at_
      collectDeposit ref updatedBill at_
      pure (k updatedBill)) Q E c := by
  obtain ⟨hrow, hlive⟩ := htrack.rows bill.id hid bill hm
  have hheld := htrack.held bill.id hid
  rw [wp_bind]
  refine wp_payBill hgood hheld ⟨hrow, hlive, hopen, hpos, hle⟩ href hc ho fun c₁ hs₁ hg₁ => ?_
  rw [wp_bind]
  have hrow₁ : (view c₁.pending c₁.db).bill? bill.id =
      some ((paidPatch bill amount at_).apply bill) := by
    rw [hs₁.bill? hheld, hrow, Option.map_some, patchBills_pay]
    simp
  have hpaid : ∀ db, Rely c₁.held c₁.db db → BillsOk db →
      0 < ((paidPatch bill amount at_).apply bill).paidAmount := by
    intro db hr hok
    have hr' : Rely c.held c.db db := hs₁.rely.trans (hr.mono hs₁.held)
    have hbill := (hgood db hr').billsOk hok bill.id bill ((bill?_rely hr' hheld).trans hrow)
    have := hbill.paid
    show 0 < bill.paidAmount + amount
    omega
  have href₁ := href.step hs₁ rfl
  refine wp_collectDeposit hg₁
    (hs₁.held _ hheld) hrow₁ hlive hpaid href₁ hc ho fun c₂ new hs₂ hg₂ hnew => ?_
  have hs := hs₁.trans hs₂
  have hself : bill.id ∈ [bill.id] := List.mem_singleton_self _
  have hpay : Booked [bill.id] ref.paymentId amount
      [.updateBill bill.id (paidPatch bill amount at_),
        .insertWriteOff (writeOffRow ref bill amount at_)] := .pay hself
  have hbooked := hpay.append (CollectWrites.booked hnew hself)
  rw [Int.add_zero] at hbooked
  exact hQ c₂ _ hs hg₂ (htrack.paid hid hm hnew hs)
    (href₁.step hs₂ (CollectWrites.booked hnew hself).noPayment) hbooked

theorem Booked.mono {ids ids' : List Id} {paymentId : Id} {a : Int} {ws : List Write}
    (h : Booked ids paymentId a ws) (hsub : ∀ id ∈ ids, id ∈ ids') :
    Booked ids' paymentId a ws where
  kind := h.kind
  writeOff x hx := by
    obtain ⟨h1, h2, h3⟩ := h.writeOff x hx
    exact ⟨h1, h2, hsub _ h3⟩
  ledger l hl := by
    obtain ⟨h1, h2, id, hid, h3⟩ := h.ledger l hl
    exact ⟨h1, h2, id, hsub id hid, h3⟩
  sum := h.sum

/-- The payment of a write-off. -/
abbrev PaymentRecord.ref (p : PaymentRecord) : PaymentRef := ⟨p.id, p.customerId, p.orderId⟩

theorem wp_writeOffItem {C : Duty sig} {payment : PaymentRecord} {now : Instant}
    {item : WriteOffItem} {m : BillById} {ids : List Id} {Q : BillById → Ctx sig → Prop}
    {E : Err → Ctx sig → Prop} {c : Ctx sig} (hgood : Good c) (htrack : Tracked c ids m)
    (href : RefOk c payment.ref) (hid : item.billId ∈ ids) (hpos : 0 < item.writeOffAmount)
    (hE : ∀ e c', E e c')
    (hQ : ∀ c' m' new, Step c c' new → Good c' → Tracked c' ids m' → RefOk c' payment.ref →
      Booked ids payment.id item.writeOffAmount new → Q m' c') :
    wp isolation C (writeOffItem payment now item m) Q E c := by
  unfold writeOffItem
  cases hm : m item.billId with
  | none => exact hE _ _
  | some bill =>
    have hbid : bill.id = item.billId := Db.bill?_id (htrack.rows _ hid bill hm).1
    rw [wp_bind, wp_ensure]
    refine ⟨fun hscope => ?_, fun _ => hE _ _⟩
    rw [wp_bind, wp_ensure]
    refine ⟨fun hopen => ?_, fun _ => hE _ _⟩
    rw [wp_bind, wp_ensure]
    refine ⟨fun hle => ?_, fun _ => hE _ _⟩
    simp only [Bool.and_eq_true, beq_iff_eq] at hscope
    rw [← hbid] at hid hm
    refine wp_payAndCollect (m := m) hgood htrack href hid hm
      (by simpa using hopen) hpos (by simpa using hle) hscope.2 hscope.1
      fun c' new hs hg ht hr hb => ?_
    exact hQ c' _ new hs hg ht hr (hb.mono fun id hmem => List.mem_singleton.mp hmem ▸ hid)

theorem wp_writeOffItems {C : Duty sig} {payment : PaymentRecord} {now : Instant}
    {items : List WriteOffItem} {m : BillById} {ids : List Id} {Q : BillById → Ctx sig → Prop}
    {E : Err → Ctx sig → Prop} {c : Ctx sig} (hgood : Good c) (htrack : Tracked c ids m)
    (href : RefOk c payment.ref) (hid : ∀ item ∈ items, item.billId ∈ ids)
    (hpos : ∀ item ∈ items, 0 < item.writeOffAmount) (hE : ∀ e c', E e c')
    (hQ : ∀ c' m' new, Step c c' new → Good c' →
      Booked ids payment.id (items.map (·.writeOffAmount)).sum new → Q m' c') :
    wp isolation C (writeOffItems payment now items m) Q E c := by
  induction items generalizing m c with
  | nil => exact hQ c m [] (Step.refl c) hgood (Booked.nil ids payment.id)
  | cons item items ih =>
    unfold writeOffItems
    rw [wp_bind]
    refine wp_writeOffItem hgood htrack href (hid item List.mem_cons_self)
      (hpos item List.mem_cons_self) hE fun c₁ m₁ new₁ hs₁ hg₁ ht₁ hr₁ hb₁ => ?_
    refine ih hg₁ ht₁ hr₁ (fun i hi => hid i (List.mem_cons_of_mem _ hi))
      (fun i hi => hpos i (List.mem_cons_of_mem _ hi)) fun c₂ m₂ new₂ hs₂ hg₂ hb₂ => ?_
    rw [List.map_cons, List.sum_cons] at hQ
    exact hQ c₂ m₂ _ (hs₁.trans hs₂) hg₂ (hb₁.append hb₂)

/-! ## Reads and locks -/

theorem wp_findOrderOrThrow {C : Duty sig} {orderId : Id} {Q : SubscriptionOrder → Ctx sig → Prop}
    {E : Err → Ctx sig → Prop} {c : Ctx sig} (hE : ∀ e c', E e c')
    (hQ : ∀ c' order, Step c c' [] → c'.db.order? orderId = some order → Q order c') :
    wp isolation C (findOrderOrThrow orderId) Q E c := by
  unfold findOrderOrThrow
  rw [wp_bind]
  refine wp_read fun c' hs _ => ?_
  have hview : (view c.pending c'.db).order? orderId = c'.db.order? orderId := by
    unfold Db.order?
    rw [view_orders]
  cases hfind : (view c.pending c'.db).order? orderId with
  | none => exact hE _ _
  | some order =>
    by_cases hdel : order.deletedAt.isSome = true
    · simp only [hdel, if_true]
      exact hE _ _
    · simp only [hdel]
      exact hQ _ order hs (hview ▸ hfind)

/-- The order was read earlier; orders do not change. -/
theorem Step.order? {c c' : Ctx sig} {new : List Write} (h : Step c c' new) {id : Id}
    {order : SubscriptionOrder} (ho : c.db.order? id = some order) : c'.db.order? id = some order :=
  (h.rely.1.order? id) ▸ ho

theorem Db.order?_id {db : Db} {id : Id} {o : SubscriptionOrder} (h : db.order? id = some o) :
    o.id = id := by
  simpa using List.find?_some h

theorem wp_lockReceivableBills {C : Duty sig} {ids : List Id} {Q : Unit → Ctx sig → Prop}
    {E : Err → Ctx sig → Prop} {c : Ctx sig}
    (hQ : ∀ c', Step c c' [] → (∀ id ∈ ids, Row.bill id ∈ c'.held) → Q () c') :
    wp isolation C (lockReceivableBills ids) Q E c := by
  refine wp_lockRows fun db hr => hQ _ (Step.lock _ hr) fun id hid => ?_
  refine List.mem_append_left _ (List.mem_reverse.mpr (List.mem_map.mpr ⟨id, ?_, rfl⟩))
  rw [List.mem_insertionSort, List.mem_dedup]
  exact hid

/-- The bills just read, by id. -/
theorem findBills_rows {ids : List Id} {db : Db} {id : Id} {b : ReceivableBill}
    (h : BillById.of (ids.dedup.filterMap fun id => (db.bill? id).filter (·.deletedAt.isNone)) id =
      some b) : db.bill? id = some b ∧ b.deletedAt = none := by
  have hid : b.id = id := by simpa [BillById.of] using List.find?_some h
  obtain ⟨id', -, hrow⟩ := List.mem_filterMap.mp (List.mem_of_find?_eq_some h)
  obtain ⟨hrow, hlive⟩ := Option.filter_eq_some_iff.mp hrow
  have hid' := Db.bill?_id hrow
  rw [← hid'.symm.trans hid] at *
  exact ⟨hrow, by simpa using hlive⟩

theorem wp_findBills {C : Duty sig} {ids : List Id} {Q : List ReceivableBill → Ctx sig → Prop}
    {E : Err → Ctx sig → Prop} {c : Ctx sig} (hpend : c.pending = [])
    (hheld : ∀ id ∈ ids, Row.bill id ∈ c.held)
    (hQ : ∀ c' bills, Step c c' [] → Tracked c' ids (BillById.of bills) → Q bills c') :
    wp isolation C (findBills ids) Q E c := by
  refine wp_read fun c' hs _ => hQ c' _ hs ⟨fun id hid => hs.held _ (hheld id hid), ?_⟩
  intro id _ b hb
  rw [hs.pending, hpend]
  rw [hpend] at hb
  exact findBills_rows hb

/-! ## The commits of createPayment, writeOffPayment, deductDeposit and refundDeposit -/

/-- The writes are moves of money that book no write-off. -/
def PlainDuty : Duty sig := fun seen before ws =>
  Moves seen before ws ∧ ws.filterMap Write.writeOff? = [] ∧ ∀ w ∈ ws, w.IsMoney

/-- The writes pay bills from the payment, within what was left of it when its write-offs were
read. -/
def WriteOffDuty (paymentId : Id) (items : List WriteOffItem) : Duty sig := fun seen before ws =>
  Moves seen before ws ∧ ∃ payment snap, before.payment? paymentId = some payment ∧
    (.paymentWriteOffs, snap) ∈ seen ∧
    (items.map (·.writeOffAmount)).sum ≤
      payment.paymentAmount - sumWriteOffAmount (snap.paymentWriteOffs paymentId) ∧
    Booked (items.map (·.billId)) paymentId (items.map (·.writeOffAmount)).sum ws

/-- A transaction that has only read and locked. -/
theorem Good.fresh {c : Ctx sig} (h : c.pending = []) : Good c := fun _ _ => h ▸ .nil

theorem Step.pending_nil {c c' : Ctx sig} (h : Step c c' []) (hp : c.pending = []) :
    c'.pending = [] := by
  rw [h.pending, hp, List.append_nil]

theorem wp_writeOffPayment {C : Duty sig} {paymentId : Id} {items : List WriteOffItem}
    {user : RequestUser} {Q : Unit → Ctx sig → Prop} {E : Err → Ctx sig → Prop} {c : Ctx sig}
    (hpend : c.pending = [])
    (hC : ∀ seen before ws, WriteOffDuty paymentId items seen before ws → C seen before ws)
    (hE : ∀ e c', E e c') (hQ : ∀ a c', Q a c') :
    wp isolation C (writeOffPayment paymentId items user) Q E c := by
  unfold writeOffPayment
  rw [wp_bind, wp_ensure]
  refine ⟨fun hvalid => ?_, fun _ => hE _ _⟩
  have hpos : ∀ item ∈ items, 0 < item.writeOffAmount := by
    simp only [validateWriteOffDto, Bool.and_eq_true, List.all_eq_true, decide_eq_true_eq] at hvalid
    exact hvalid.1.2
  rw [wp_bind]
  refine wp_read fun c₁ hs₁ _ => ?_
  have hp₁ := hs₁.pending_nil hpend
  rw [hpend, view_nil]
  cases hfind : c₁.db.payment? paymentId with
  | none => exact hE _ _
  | some payment =>
    have hpid : payment.id = paymentId := Db.payment?_id hfind
    simp only []
    rw [wp_bind]
    refine wp_read fun c₂ hs₂ hsnap => ?_
    rw [wp_bind, wp_ensure]
    refine ⟨fun hlive => ?_, fun _ => hE _ _⟩
    rw [wp_bind]
    refine wp_findOrderOrThrow hE fun c₃ order hs₃ _ => ?_
    rw [wp_bind, wp_ensure]
    refine ⟨fun _ => ?_, fun _ => hE _ _⟩
    rw [wp_bind, wp_ensure]
    refine ⟨fun hconfirmed => ?_, fun _ => hE _ _⟩
    rw [wp_bind, wp_ensure]
    refine ⟨fun hbudget => ?_, fun _ => hE _ _⟩
    rw [wp_bind]
    refine wp_lockReceivableBills fun c₄ hs₄ hheld => ?_
    rw [wp_bind]
    have hs := (hs₂.trans hs₃).trans hs₄
    refine wp_findBills (hs.pending_nil hp₁) hheld fun c₅ bills hs₅ htrack => ?_
    rw [wp_bind, wp_ensure]
    refine ⟨fun _ => ?_, fun _ => hE _ _⟩
    rw [wp_bind, wp_ask]
    intro now
    rw [wp_bind]
    -- The payment was read without a lock, but payments are never changed.
    have hs := hs.trans hs₅
    have hp₅ := hs.pending_nil hp₁
    have hpay₅ : c₅.db.payment? paymentId = some payment := hs.rely.1.payment? hfind
    have hself : c₅.db.payment? payment.ref.paymentId = some payment := by
      rw [show payment.ref.paymentId = paymentId from hpid]
      exact hpay₅
    have href : RefOk c₅ payment.ref :=
      ⟨.inr (Option.isSome_of_eq_some hself), payment, by rw [hp₅]; exact hself, rfl, rfl,
        by simpa using hconfirmed, by simpa using hlive⟩
    refine wp_writeOffItems (Good.fresh hp₅) htrack href
      (fun item hitem => List.mem_map.mpr ⟨item, hitem, rfl⟩) hpos hE
      fun c₆ m' new hs₆ hg₆ hb => ?_
    rw [hpid] at hb
    intro db hr
    have hp₆ : c₆.pending = new := by rw [hs₆.pending, hp₅, List.nil_append]
    refine ⟨hC _ _ _ ⟨hg₆ db hr, payment, c₂.db, ?_, ?_, ?_, hp₆ ▸ hb⟩, hQ _ _⟩
    · exact hr.1.payment? (hs₆.rely.1.payment? hpay₅)
    · exact hs₆.seen _ (hs₅.seen _ (hs₄.seen _ (hs₃.seen _ hsnap)))
    · rw [hp₁, view_nil] at hbudget
      simpa using hbudget

theorem wp_insertPaymentRecord {C : Duty sig} {mk : Id → PaymentRecord}
    {Q : PaymentRecord → Ctx sig → Prop} {E : Err → Ctx sig → Prop} {c : Ctx sig} (hgood : Good c)
    (hid : ∀ id, (mk id).id = id) (hpos : ∀ id, 0 < (mk id).paymentAmount)
    (hlive : ∀ id, (mk id).deletedAt = none)
    (hscope : ∀ id db, Rely c.held c.db db → PaymentScope db (mk id))
    (hE : ∀ e c', E e c')
    (hQ : ∀ c' id, Step c c' [.insertPayment (mk id)] → Good c' →
      Row.payment id ∈ c'.held → c'.db.payment? id = none → Q (mk id) c') :
    wp isolation C (insertPaymentRecord mk) Q E c := by
  unfold insertPaymentRecord
  rw [wp_bind, wp_ask]
  intro id
  rw [wp_bind]
  refine wp_lock fun c₁ hs₁ hheld => ?_
  rw [wp_bind]
  refine wp_read fun c₂ hs₂ _ => ?_
  have hs := hs₁.trans hs₂
  have hheld₂ := hs₂.held _ hheld
  rw [wp_bind, wp_ensure]
  refine ⟨fun htaken => ?_, fun _ => hE _ _⟩
  have hnone : (view c₁.pending c₂.db).payment? id = none := by simpa using htaken
  have hpend : c₂.pending = c₁.pending := by rw [hs₂.pending, List.append_nil]
  have hrow : c₂.db.payment? id = none := by
    rw [view_payment?] at hnone
    exact (Option.or_eq_none_iff.mp hnone).1
  have hpend₀ : c₂.pending = c.pending := by rw [hs.pending]; simp
  refine ⟨?_, ?_⟩
  · intro r hr
    rw [show r = Row.payment id by simpa [isolation, Write.touches, hid] using hr]
    exact hheld₂
  · refine hQ _ id (hs.trans (Step.write c₂ _)) ?_ hheld₂ hrow
    intro db hr
    have hr₀ : Rely c.held c.db db := hs.rely.trans (hr.mono hs.held)
    show Moves c₂.seen db (c₂.pending ++ [.insertPayment (mk id)])
    rw [hpend₀]
    have hsame : db.payment? id = c₂.db.payment? id := (hr.2 _ hheld₂).symm
    refine ((hgood db hr₀).mono hs.seen).addPayment ?_ (hpos id) (hlive id) (hscope id db hr₀)
    rw [hid, ← hpend₀, hpend, view_payment?, hsame, ← view_payment?]
    exact hnone

theorem wp_createPayment {C : Duty sig} {dto : CreatePaymentDto} {user : RequestUser}
    {Q : Unit → Ctx sig → Prop} {E : Err → Ctx sig → Prop} {c : Ctx sig} (hpend : c.pending = [])
    (hC : ∀ seen before ws, PlainDuty seen before ws → C seen before ws)
    (hE : ∀ e c', E e c') (hQ : ∀ a c', Q a c') :
    wp isolation C (createPayment dto user) Q E c := by
  unfold createPayment
  rw [wp_bind, wp_ensure]
  refine ⟨fun hpos => ?_, fun _ => hE _ _⟩
  rw [wp_bind]
  refine wp_findOrderOrThrow hE fun c₁ order hs₁ horder => ?_
  have hp₁ := hs₁.pending_nil hpend
  rw [wp_bind, wp_ensure]
  refine ⟨fun _ => ?_, fun _ => hE _ _⟩
  rw [wp_bind, wp_ensure]
  refine ⟨fun hcust => ?_, fun _ => hE _ _⟩
  rw [wp_bind]
  refine wp_insertPaymentRecord (Good.fresh hp₁) (fun _ => rfl) (fun _ => by simpa using hpos) (fun _ => rfl)
    (fun id db hr => .inl ⟨order, hr.1.order? _ ▸ horder, by simpa using hcust⟩) hE
    fun c₂ id hs₂ hg₂ _ _ => ?_
  intro db hr
  refine ⟨hC _ _ _ ⟨hg₂ db hr, ?_⟩, hQ _ _⟩
  rw [hs₂.pending, hp₁]
  exact ⟨rfl, fun w hw => List.mem_singleton.mp hw ▸ trivial⟩

/-- The balance a transaction has just read. -/
theorem wp_calculateDepositBalanceDetails {C : Duty sig} {customerId orderId : Id}
    {Q : DepositBalanceDetails → Ctx sig → Prop} {E : Err → Ctx sig → Prop} {c : Ctx sig}
    (hpend : c.pending = [])
    (hQ : ∀ c' d, Step c c' [] → (.depositBalance, c'.db) ∈ c'.seen →
      d.availableBalance = balanceOf (c'.db.confirmedLedger customerId orderId) → Q d c') :
    wp isolation C (calculateDepositBalanceDetails customerId orderId) Q E c := by
  refine wp_read fun c' hs hmem => hQ c' _ hs hmem ?_
  rw [hpend, view_nil]
  exact availableBalance_eq _

theorem wp_deductDeposit {C : Duty sig} {orderId billId : Id} {amount : Int} {user : RequestUser}
    {Q : Unit → Ctx sig → Prop} {E : Err → Ctx sig → Prop} {c : Ctx sig} (hpend : c.pending = [])
    (hC : ∀ seen before ws, PlainDuty seen before ws → C seen before ws)
    (hE : ∀ e c', E e c') (hQ : ∀ a c', Q a c') :
    wp isolation C (deductDeposit orderId billId amount user) Q E c := by
  unfold deductDeposit
  rw [wp_bind, wp_ensure]
  refine ⟨fun hpos => ?_, fun _ => hE _ _⟩
  rw [wp_bind]
  refine wp_findOrderOrThrow hE fun c₁ order hs₁ horder => ?_
  have hoid : order.id = orderId := Db.order?_id horder
  have hp₁ := hs₁.pending_nil hpend
  rw [wp_bind, wp_ensure]
  refine ⟨fun _ => ?_, fun _ => hE _ _⟩
  rw [wp_bind]
  refine wp_lockReceivableBills fun c₂ hs₂ hheld => ?_
  have hp₂ := hs₂.pending_nil hp₁
  rw [wp_bind]
  refine wp_read fun c₃ hs₃ _ => ?_
  have hp₃ := hs₃.pending_nil hp₂
  rw [hp₂, view_nil]
  cases hfind : c₃.db.bill? billId with
  | none => exact hE _ _
  | some bill =>
    have hbid : bill.id = billId := Db.bill?_id hfind
    simp only []
    rw [wp_bind, wp_ensure]
    refine ⟨fun hded => ?_, fun _ => hE _ _⟩
    rw [wp_bind]
    refine wp_calculateDepositBalanceDetails hp₃ fun c₄ balance hs₄ hsnap hbal => ?_
    rw [wp_bind, wp_ensure]
    refine ⟨fun _ => ?_, fun _ => hE _ _⟩
    rw [wp_bind, wp_ensure]
    refine ⟨fun hle => ?_, fun _ => hE _ _⟩
    rw [wp_bind, wp_ensure]
    refine ⟨fun hleb => ?_, fun _ => hE _ _⟩
    simp only [decide_eq_true_eq] at hpos hle hleb
    rw [hbal] at hle
    intro now id createdAt
    rw [hbal]
    have hp₄ := hs₄.pending_nil hp₃
    have hheld₃ : Row.bill bill.id ∈ c₃.held :=
      hs₃.held _ (hbid ▸ hheld billId (List.mem_singleton_self _))
    have hbheld : Row.bill bill.id ∈ c₄.held := hs₄.held _ hheld₃
    have htouch : ∀ r ∈ [Row.bill bill.id], r ∈ c₄.held := by
      intro r hr
      rw [List.mem_singleton.mp hr]
      exact hbheld
    refine ⟨htouch, htouch, fun db hr => ⟨hC _ _ _ ⟨?_, ?_⟩, hQ _ _⟩⟩
    · have hr₃ : Rely c₃.held c₃.db db := hs₄.rely.trans (hr.mono hs₄.held)
      have hrow : db.bill? bill.id = some bill := by
        rw [← (hr₃.2 _ hheld₃).1, hbid]
        exact hfind
      have hord : db.order? order.id = some order := by
        have h₁ := ((hs₂.trans hs₃).trans hs₄).order? horder
        rw [hoid, ← hr.1.order? orderId]
        exact h₁
      have hlive : bill.deletedAt = none ∧ bill.billStatus ≠ .cancelled := by
        simp only [deductible, Bool.and_eq_true, bne_iff_ne, Option.isNone_iff_eq_none] at hded
        exact ⟨hded.1.1.1.1.1, hded.1.2⟩
      show Moves c₄.seen db (c₄.pending ++ [_] ++ [_])
      rw [hp₄]
      exact Moves.nil.deduct ⟨hrow, hlive.1, hlive.2, hpos, hleb⟩ hded hord hle hsnap
    · show (c₄.pending ++ [_] ++ [_]).filterMap Write.writeOff? = [] ∧
        ∀ w ∈ c₄.pending ++ [_] ++ [_], Write.IsMoney w
      rw [hp₄]
      refine ⟨rfl, fun w hw => ?_⟩
      rcases List.mem_append.mp hw with h | h <;> exact List.mem_singleton.mp h ▸ trivial

theorem wp_refundDeposit {C : Duty sig} {orderId : Id} {amount : Int} {user : RequestUser}
    {Q : Unit → Ctx sig → Prop} {E : Err → Ctx sig → Prop} {c : Ctx sig} (hpend : c.pending = [])
    (hC : ∀ seen before ws, PlainDuty seen before ws → C seen before ws)
    (hE : ∀ e c', E e c') (hQ : ∀ a c', Q a c') :
    wp isolation C (refundDeposit orderId amount user) Q E c := by
  unfold refundDeposit
  rw [wp_bind, wp_ensure]
  refine ⟨fun hpos => ?_, fun _ => hE _ _⟩
  rw [wp_bind]
  refine wp_findOrderOrThrow hE fun c₁ order hs₁ horder => ?_
  have hoid : order.id = orderId := Db.order?_id horder
  have hp₁ := hs₁.pending_nil hpend
  rw [wp_bind, wp_ensure]
  refine ⟨fun _ => ?_, fun _ => hE _ _⟩
  rw [wp_bind, wp_ensure]
  refine ⟨fun _ => ?_, fun _ => hE _ _⟩
  rw [wp_bind]
  refine wp_calculateDepositBalanceDetails hp₁ fun c₂ balance hs₂ hsnap hbal => ?_
  rw [wp_bind, wp_ensure]
  refine ⟨fun hle => ?_, fun _ => hE _ _⟩
  simp only [decide_eq_true_eq] at hpos hle
  rw [hbal] at hle
  intro now id createdAt
  rw [hbal]
  have hp₂ := hs₂.pending_nil hp₁
  refine ⟨fun r hr => absurd hr List.not_mem_nil, fun db hr => ⟨hC _ _ _ ⟨?_, ?_⟩, hQ _ _⟩⟩
  · have hord : db.order? order.id = some order := by
      rw [hoid, ← hr.1.order? orderId]
      exact hs₂.order? horder
    show Moves c₂.seen db (c₂.pending ++ [_])
    rw [hp₂]
    exact Moves.nil.refund hpos hord hle hsnap
  · show (c₂.pending ++ [_]).filterMap Write.writeOff? = [] ∧
      ∀ w ∈ c₂.pending ++ [_], Write.IsMoney w
    rw [hp₂]
    exact ⟨rfl, fun w hw => List.mem_singleton.mp hw ▸ trivial⟩

end SubscriptionSaas.Finance
