import SubscriptionSaas.Payment.Proofs.SettlementProofs
import SubscriptionSaas.Lib.Tables

/-!
# One unresolved debit attempt

What a commit does to the debit attempts, and what every run keeps: a resolved attempt stays resolved,
an attempt succeeds with its payment order and stays so, and the provider is always asked under the
attempt's own number. A new attempt is written when the latest one on its bill has been resolved; the
latest is the one with the latest `createdAt`, so that a bill has one unresolved attempt as long as the
clock reads a later time for every new attempt.
-/

namespace SubscriptionSaas.Payment

open Transaction SubscriptionSaas.Finance

/-! ## What a commit does to the attempts -/

/-- The attempts, and what the provider has been asked. -/
def debits (db : Db) : List DebitAttempt × List SubmittedDebit :=
  (db.debitAttempts, db.submittedDebits)

inductive DebitMove (seen : Seen) (before : Db) (ws : List Write) : Prop
  | same (h : debits (view ws before) = debits before)
  | outcome (attempt : DebitAttempt) (p : DebitAttemptPatch)
      (hattempt : before.debitAttempt? attempt.id = some attempt)
      (hopen : unresolved attempt.status = true) (hp : p.status ≠ .succeeded)
      (h : debits (view ws before) =
        debits ((Write.updateDebitAttempt attempt.id p).apply before))
  | settled (attempt : DebitAttempt) (p : DebitAttemptPatch)
      (hattempt : before.debitAttempt? attempt.id = some attempt) (hp : p.status = .succeeded)
      (hpaid : Paid attempt.paymentOrderId (view ws before))
      (h : debits (view ws before) =
        debits ((Write.updateDebitAttempt attempt.id p).apply before))
  | submit (attempt : DebitAttempt) (snap : Db) (hwrite : .insertDebitAttempt attempt ∈ ws)
      (hnew : before.debitAttempt? attempt.id = none) (hsubmitting : attempt.status = .submitting)
      (hsnap : (.debitAttempt, snap) ∈ seen)
      (hlatest : ∀ latest, latestAttempt attempt.billId snap = some latest →
        unresolved latest.status = false)
      (hbill : snap.billAttemptIds attempt.billId = before.billAttemptIds attempt.billId)
      (h : debits (view ws before) = debits ((Write.insertDebitAttempt attempt).apply before))
  | request (s : SubmittedDebit) (attempt : DebitAttempt)
      (hattempt : before.debitAttempt? s.debitAttemptId = some attempt)
      (hamount : s.amount = attempt.requestedAmount)
      (htradeNo : s.providerOutTradeNo = attempt.providerOutTradeNo)
      (h : debits (view ws before) = debits ((Write.submitDebit s).apply before))

theorem debits_money {ws : List Write} (h : ∀ w ∈ ws, w.IsMoney) (db : Db) :
    debits (view ws db) = debits db := by
  induction ws generalizing db with
  | nil => rfl
  | cons w ws ih =>
    rw [view_cons, ih fun w' hw' => h w' (List.mem_cons_of_mem _ hw')]
    have hw := h w List.mem_cons_self
    cases w <;> first | rfl | exact hw.elim

/-- Writes see the attempts and requests and nothing else of the database. -/
theorem debits_apply {db db' : Db} (h : debits db = debits db') (w : Write) :
    debits (w.apply db) = debits (w.apply db') := by
  obtain ⟨h₁, h₂⟩ := Prod.mk.inj h
  have h₁ : db.debitAttempts = db'.debitAttempts := h₁
  have h₂ : db.submittedDebits = db'.submittedDebits := h₂
  cases w <;> simp only [debits, Write.apply, h₁, h₂]

theorem settled_paid {input : SettlePaymentOrderInput} {seen : Seen} {before : Db}
    {ws : List Write} {order : PaymentOrder} {payment : PaymentRecord} {a u : Int}
    {blocked : List Id} {paid : List Write}
    (h : Settled input seen before ws order payment a u blocked paid) :
    Paid order.id (view ws before) := by
  have horder := h.order_eq
  rw [← Db.paymentOrder?_id horder] at horder
  refine ⟨_, view_paymentOrder? ws horder, ?_⟩
  obtain ⟨now, tradeNo, transactionId, hpatch⟩ := settled_patchOrders h order
  rcases patchOrder_update order order.id now (.settled payment.id input.paidAmount input.paidAt
    tradeNo transactionId blocked) with ⟨-, hne⟩ | ⟨heq, -⟩
  · exact absurd rfl hne
  · rw [hpatch, heq]
    rfl

theorem SettleDuty.debitMove {input : SettlePaymentOrderInput} {seen : Seen} {before : Db}
    {ws : List Write} (h : SettleDuty input seen before ws) : DebitMove seen before ws := by
  rcases h.2 with ⟨order, -, -, rfl | ⟨logId, -, rfl⟩⟩ | ⟨order, payment, a, u, blocked, paid, hset⟩
  · exact .same rfl
  · exact .same rfl
  have hpaid := settled_paid hset
  obtain ⟨debit, callback, now, tradeNo, transactionId, hdebit, hcallback, hws⟩ := hset.writes
  have hmoney := debits_money hset.money before
  have hview : debits (view ws before) =
      debits (view debit (view ([.insertPayment payment] ++ paid) before)) := by
    rw [hws, view_append, view_append, view_append, view_append]
    rcases hcallback with rfl | ⟨l, rfl⟩ | ⟨logId, -, rfl⟩ <;> rfl
  rcases hdebit with rfl | ⟨attempt, x, p, -, hx, hof, hp, rfl⟩
  · exact .same (hview.trans hmoney)
  · have hid := Db.debitAttempt?_id hx
    rw [← hid] at hx hview
    exact .settled x p hx hp (hof ▸ hpaid)
      (hview.trans (debits_apply hmoney (.updateDebitAttempt x.id p)))

theorem Effect.debitMove {seen : Seen} {before : Db} {ws : List Write} (h : Effect seen before ws) :
    DebitMove seen before ws := by
  cases h with
  | @callback w hw => cases w <;> first | exact .same rfl | exact hw.elim
  | settle input hduty => exact SettleDuty.debitMove hduty
  | @submit order attempt snap _ hnew _ _ _ hsubmitting hsnap hlatest hbill =>
    exact .submit attempt snap (List.mem_cons_of_mem _ (List.mem_singleton_self _)) hnew hsubmitting
      hsnap hlatest hbill rfl
  | @request s attempt hattempt hamount htradeNo =>
    exact .request s attempt hattempt hamount htradeNo rfl
  | @debit order attempt p q now _ hattempt _ hopen _ hp _ _ =>
    exact .outcome attempt p hattempt hopen hp rfl
  | @resubmit order attempt _ hattempt _ hopen _ =>
    exact .outcome attempt .submitting hattempt hopen nofun rfl
  | _ => exact .same rfl

theorem commit_debitMove {c : Commit sig PaymentCall} (hc : CommitOk PaymentCall.duty c) :
    DebitMove c.seen c.before c.writes := by
  rcases PaymentCall.duty_cases hc.1 with heffect | ⟨-, hmoney⟩ | ⟨facts, hws⟩
  · exact heffect.debitMove
  · exact .same (debits_money hmoney _)
  · rw [hws]
    exact .same rfl

/-! ## What holds of the attempts -/

/-- Attempt ids are unique, the order of an attempt that succeeded is paid, and the provider was asked
for an attempt's own amount under its own number. -/
structure AttemptsOk (db : Db) : Prop where
  ids : (db.debitAttempts.map (·.id)).Nodup
  succeeded : ∀ a ∈ db.debitAttempts, a.status = .succeeded → Paid a.paymentOrderId db
  submitted : ∀ s ∈ db.submittedDebits, ∃ a ∈ db.debitAttempts, a.id = s.debitAttemptId ∧
    s.amount = a.requestedAmount ∧ s.providerOutTradeNo = a.providerOutTradeNo

/-- An unresolved attempt is the newest one on its bill. -/
def Newest (db : Db) : Prop :=
  ∀ a ∈ db.debitAttempts, ∀ b ∈ db.debitAttempts, a.billId = b.billId → a.id ≠ b.id →
    unresolved a.status = true → b.createdAt < a.createdAt

/-- What a later database keeps of the attempts: an attempt stays the same request, one that has been
resolved stays resolved, and the order of a paid one and its attempts do not change any more. -/
structure Later (d d' : Db) : Prop where
  attempt : ∀ a, d.debitAttempt? a.id = some a → ∃ a', d'.debitAttempt? a.id = some a' ∧ a.Same a' ∧
    (unresolved a.status = false → unresolved a'.status = false)
  paid : ∀ id, Paid id d → d'.paymentOrder? id = d.paymentOrder? id ∧
    ∀ a, d.debitAttempt? a.id = some a → a.paymentOrderId = id → d'.debitAttempt? a.id = some a

theorem Later.refl (d : Db) : Later d d :=
  ⟨fun a ha => ⟨a, ha, .refl a, fun h => h⟩, fun _ _ => ⟨rfl, fun _ ha _ => ha⟩⟩

theorem Later.trans {a b c : Db} (h : Later a b) (h' : Later b c) : Later a c where
  attempt x hx := by
    obtain ⟨y, hy, hsame, hres⟩ := h.attempt x hx
    rw [← hsame.id] at hy
    obtain ⟨z, hz, hsame', hres'⟩ := h'.attempt y hy
    rw [hsame.id] at hz
    exact ⟨z, hz, hsame.trans hsame', fun hr => hres' (hres hr)⟩
  paid id hpaid := by
    obtain ⟨horder, hkeep⟩ := h.paid id hpaid
    have hpaid' : Paid id b := by
      obtain ⟨o, ho, hstatus⟩ := hpaid
      exact ⟨o, horder.trans ho, hstatus⟩
    obtain ⟨horder', hkeep'⟩ := h'.paid id hpaid'
    exact ⟨horder'.trans horder, fun x hx hof => hkeep' x (hkeep x hx hof) hof⟩

theorem AttemptsOk.find {db : Db} (h : AttemptsOk db) {a : DebitAttempt} (ha : a ∈ db.debitAttempts) :
    db.debitAttempt? a.id = some a :=
  find?_of_nodup h.ids ha

theorem AttemptsOk.eq {db : Db} (h : AttemptsOk db) {a b : DebitAttempt} (ha : a ∈ db.debitAttempts)
    (hb : b ∈ db.debitAttempts) (hid : a.id = b.id) : a = b := by
  have hfind := h.find ha
  rw [hid, h.find hb] at hfind
  exact (Option.some.inj hfind).symm

/-! ## An update of an attempt -/

theorem mem_updated {db : Db} {id : Id} {p : DebitAttemptPatch} {a' : DebitAttempt}
    (h : a' ∈ ((Write.updateDebitAttempt id p).apply db).debitAttempts) :
    ∃ a ∈ db.debitAttempts, a.Same a' ∧ (a' = a ∨ a.id = id ∧ a'.status = p.status) := by
  obtain ⟨a, ha, rfl⟩ := List.mem_map.mp h
  refine ⟨a, ha, ?_⟩
  by_cases hid : a.id = id
  · rw [if_pos (by simpa using hid)]
    exact ⟨p.apply_same a, .inr ⟨hid, p.apply_status a⟩⟩
  · rw [if_neg (by simpa using hid)]
    exact ⟨.refl a, .inl rfl⟩

theorem updated_mem {db : Db} (id : Id) (p : DebitAttemptPatch) {a : DebitAttempt}
    (h : a ∈ db.debitAttempts) :
    ∃ a' ∈ ((Write.updateDebitAttempt id p).apply db).debitAttempts, a.Same a' := by
  refine ⟨_, List.mem_map.mpr ⟨a, h, rfl⟩, ?_⟩
  split
  · exact p.apply_same a
  · exact .refl a

theorem updated_ids (db : Db) (id : Id) (p : DebitAttemptPatch) :
    ((Write.updateDebitAttempt id p).apply db).debitAttempts.map (·.id) =
      db.debitAttempts.map (·.id) := by
  show (updateWhere _ _ db.debitAttempts).map _ = _
  rw [updateWhere, List.map_map]
  refine List.map_congr_left fun a _ => ?_
  show (if a.id == id then p.apply a else a).id = a.id
  split <;> simp

/-- An update keeps the attempts sound when it leaves a success with a paid order. -/
theorem AttemptsOk.update {db db' : Db} (h : AttemptsOk db) {attempt : DebitAttempt}
    {p : DebitAttemptPatch} (hattempt : db.debitAttempt? attempt.id = some attempt)
    (hp : p.status = .succeeded → Paid attempt.paymentOrderId db')
    (hpaid : ∀ id, Paid id db → Paid id db')
    (hdb' : debits db' = debits ((Write.updateDebitAttempt attempt.id p).apply db)) :
    AttemptsOk db' := by
  obtain ⟨hrows, hrequests⟩ := Prod.mk.inj hdb'
  have hrows : db'.debitAttempts = _ := hrows
  have hrequests : db'.submittedDebits = db.submittedDebits := hrequests
  constructor
  · rw [hrows, updated_ids]
    exact h.ids
  · intro a' ha' hsucceeded
    rw [hrows] at ha'
    obtain ⟨a, ha, hsame, rfl | ⟨hid, hstatus⟩⟩ := mem_updated ha'
    · exact hpaid _ (h.succeeded _ ha hsucceeded)
    · have haeq : a = attempt := by
        have hfind := h.find ha
        rw [hid, hattempt] at hfind
        exact (Option.some.inj hfind).symm
      rw [hsame.paymentOrderId, haeq]
      exact hp (hstatus.symm.trans hsucceeded)
  · intro s hs
    rw [hrequests] at hs
    obtain ⟨a, ha, hid, hamount, hno⟩ := h.submitted s hs
    obtain ⟨a', ha', hsame⟩ := updated_mem attempt.id p ha
    rw [← hrows] at ha'
    exact ⟨a', ha', hsame.id.trans hid, hamount.trans hsame.requestedAmount.symm,
      hno.trans hsame.providerOutTradeNo.symm⟩

/-- The databases hold the same attempts and requests. -/
theorem AttemptsOk.congr {db db' : Db} (h : AttemptsOk db) (hdb' : debits db' = debits db)
    (hpaid : ∀ id, Paid id db → Paid id db') : AttemptsOk db' := by
  obtain ⟨hrows, hrequests⟩ := Prod.mk.inj hdb'
  have hrows : db'.debitAttempts = db.debitAttempts := hrows
  have hrequests : db'.submittedDebits = db.submittedDebits := hrequests
  constructor
  · rw [hrows]
    exact h.ids
  · intro a ha hsucceeded
    rw [hrows] at ha
    exact hpaid _ (h.succeeded a ha hsucceeded)
  · rw [hrows, hrequests]
    exact h.submitted

theorem AttemptsOk.insert {db db' : Db} (h : AttemptsOk db) {attempt : DebitAttempt}
    (hnew : db.debitAttempt? attempt.id = none) (hsubmitting : attempt.status = .submitting)
    (hpaid : ∀ id, Paid id db → Paid id db')
    (hdb' : debits db' = debits ((Write.insertDebitAttempt attempt).apply db)) :
    AttemptsOk db' := by
  obtain ⟨hrows, hrequests⟩ := Prod.mk.inj hdb'
  have hrows : db'.debitAttempts = db.debitAttempts ++ [attempt] := hrows
  have hrequests : db'.submittedDebits = db.submittedDebits := hrequests
  constructor
  · rw [hrows, List.map_append, List.nodup_append]
    refine ⟨h.ids, by simp, fun id hid id' hid' hc => ?_⟩
    obtain ⟨a, ha, rfl⟩ := List.mem_map.mp hid
    rw [List.map_singleton, List.mem_singleton] at hid'
    have hne := List.find?_eq_none.mp hnew a ha
    simp [hc, hid'] at hne
  · intro a ha hsucceeded
    rw [hrows, List.mem_append, List.mem_singleton] at ha
    rcases ha with ha | rfl
    · exact hpaid _ (h.succeeded a ha hsucceeded)
    · rw [hsubmitting] at hsucceeded
      cases hsucceeded
  · intro s hs
    rw [hrequests] at hs
    obtain ⟨a, ha, hrest⟩ := h.submitted s hs
    exact ⟨a, hrows ▸ List.mem_append_left _ ha, hrest⟩

theorem commit_paid {c : Commit sig PaymentCall} (hc : CommitOk PaymentCall.duty c) (id : Id)
    (h : Paid id c.before) : Paid id (view c.writes c.before) := by
  have hkeep := (commit_replays hc h).order
  obtain ⟨o, ho, hstatus⟩ := h
  refine ⟨o, ?_, hstatus⟩
  rw [ho, hc.2] at hkeep
  exact hkeep

theorem commit_attemptsOk {c : Commit sig PaymentCall} (hc : CommitOk PaymentCall.duty c)
    (hok : AttemptsOk c.before) : AttemptsOk c.after := by
  have hpaid := commit_paid hc
  have hafter : c.after = view c.writes c.before := hc.2
  rw [hafter]
  cases commit_debitMove hc with
  | same h => exact hok.congr h hpaid
  | outcome attempt p hattempt _ hp h => exact hok.update hattempt (fun hs => absurd hs hp) hpaid h
  | settled attempt p hattempt _ hpaid' h => exact hok.update hattempt (fun _ => hpaid') hpaid h
  | submit attempt _ _ hnew hsubmitting _ _ _ h => exact hok.insert hnew hsubmitting hpaid h
  | request s attempt hattempt hamount htradeNo h =>
    obtain ⟨hrows, hrequests⟩ := Prod.mk.inj h
    have hrows : (view c.writes c.before).debitAttempts = c.before.debitAttempts := hrows
    have hrequests : (view c.writes c.before).submittedDebits = c.before.submittedDebits ++ [s] :=
      hrequests
    constructor
    · rw [hrows]
      exact hok.ids
    · intro a ha hsucceeded
      rw [hrows] at ha
      exact hpaid _ (hok.succeeded a ha hsucceeded)
    · intro s' hs'
      rw [hrequests, List.mem_append, List.mem_singleton] at hs'
      rw [hrows]
      rcases hs' with hs' | rfl
      · exact hok.submitted s' hs'
      · exact ⟨attempt, List.mem_of_find?_eq_some hattempt, Db.debitAttempt?_id hattempt, hamount,
          htradeNo⟩

/-! ## What stays -/

theorem debitAttempt?_of_debits {db db' : Db} (h : debits db = debits db') (id : Id) :
    db.debitAttempt? id = db'.debitAttempt? id := by
  have hrows : db.debitAttempts = db'.debitAttempts := (Prod.mk.inj h).1
  rw [Db.debitAttempt?, Db.debitAttempt?, hrows]

/-- A resolved attempt stays resolved. -/
theorem DebitMove.attempt {seen : Seen} {before : Db} {ws : List Write}
    (h : DebitMove seen before ws) {a : DebitAttempt} (ha : before.debitAttempt? a.id = some a) :
    ∃ a', (view ws before).debitAttempt? a.id = some a' ∧ a.Same a' ∧
      (unresolved a.status = false → unresolved a'.status = false) := by
  have hupdate : ∀ (attempt : DebitAttempt) (p : DebitAttemptPatch),
      before.debitAttempt? attempt.id = some attempt →
      (unresolved attempt.status = false → unresolved p.status = false) →
      debits (view ws before) = debits ((Write.updateDebitAttempt attempt.id p).apply before) →
      ∃ a', (view ws before).debitAttempt? a.id = some a' ∧ a.Same a' ∧
        (unresolved a.status = false → unresolved a'.status = false) := by
    intro attempt p hattempt hp hdebits
    rw [debitAttempt?_of_debits hdebits, debitAttempt?_update, ha, Option.map_some]
    by_cases hid : a.id = attempt.id
    · rw [if_pos (by simpa using hid)]
      refine ⟨_, rfl, p.apply_same a, fun hres => ?_⟩
      rw [← hid, ha] at hattempt
      rw [p.apply_status]
      exact hp (Option.some.inj hattempt ▸ hres)
    · rw [if_neg (by simpa using hid)]
      exact ⟨a, rfl, .refl a, id⟩
  cases h with
  | same hdebits => exact ⟨a, (debitAttempt?_of_debits hdebits a.id).trans ha, .refl a, id⟩
  | outcome attempt p hattempt hopen _ hdebits =>
    refine hupdate attempt p hattempt (fun hres => ?_) hdebits
    rw [hopen] at hres
    cases hres
  | settled attempt p hattempt hp _ hdebits =>
    exact hupdate attempt p hattempt (fun _ => hp ▸ rfl) hdebits
  | submit attempt _ _ _ _ _ _ _ hdebits =>
    refine ⟨a, (debitAttempt?_of_debits hdebits a.id).trans ?_, .refl a, id⟩
    show (before.debitAttempts ++ [attempt]).find? (·.id == a.id) = some a
    rw [List.find?_append, show before.debitAttempts.find? _ = some a from ha, Option.some_or]
  | request s _ _ _ _ hdebits =>
    exact ⟨a, (debitAttempt?_of_debits hdebits a.id).trans ha, .refl a, id⟩

theorem commit_later {c : Commit sig PaymentCall} (hc : CommitOk PaymentCall.duty c) :
    Later c.before c.after where
  attempt a ha := by
    have hafter : c.after = view c.writes c.before := hc.2
    rw [hafter]
    exact (commit_debitMove hc).attempt ha
  paid id hpaid := by
    have hkeep := commit_replays hc hpaid
    exact ⟨hkeep.order, hkeep.attempts⟩

/-! ## The newest attempt on a bill -/

def insertedAttempt? : Write → Option DebitAttempt
  | .insertDebitAttempt attempt => some attempt
  | _ => none

/-- The commit stamps a new attempt with a later time than the other attempts on its bill bear. -/
def ClockAhead (c : Commit sig PaymentCall) : Prop :=
  ∀ attempt ∈ c.writes.filterMap insertedAttempt?, ∀ a ∈ c.before.debitAttempts,
    a.billId = attempt.billId → a.createdAt < attempt.createdAt

instance (c : Commit sig PaymentCall) : Decidable (ClockAhead c) :=
  inferInstanceAs (Decidable (∀ attempt ∈ c.writes.filterMap insertedAttempt?,
    ∀ a ∈ c.before.debitAttempts, a.billId = attempt.billId → a.createdAt < attempt.createdAt))

/-- The newest attempt is the latest one. -/
theorem Newest.latest {db : Db} (h : Newest db) (hok : AttemptsOk db) {a : DebitAttempt}
    (ha : a ∈ db.debitAttempts) (hopen : unresolved a.status = true) :
    latestAttempt a.billId db = some a := by
  refine Tables.head?_insertionSort (List.mem_filter.mpr ⟨ha, by simp⟩) fun b hb hle => ?_
  obtain ⟨hb, hbill⟩ := List.mem_filter.mp hb
  have hbill : b.billId = a.billId := by simpa using hbill
  by_contra hne
  have hid : a.id ≠ b.id := fun hid => hne (hok.eq hb ha hid.symm)
  exact Int.not_lt.mpr hle (h a ha b hb hbill.symm hid hopen)

theorem Newest.congr {db db' : Db} (h : Newest db) (hrows : db'.debitAttempts = db.debitAttempts) :
    Newest db' := by
  unfold Newest
  rw [hrows]
  exact h

theorem Newest.update {db db' : Db} (h : Newest db) (hok : AttemptsOk db) {attempt : DebitAttempt}
    {p : DebitAttemptPatch} (hattempt : db.debitAttempt? attempt.id = some attempt)
    (hp : unresolved p.status = true → unresolved attempt.status = true)
    (hdb' : debits db' = debits ((Write.updateDebitAttempt attempt.id p).apply db)) :
    Newest db' := by
  have hrows : db'.debitAttempts = _ := (Prod.mk.inj hdb').1
  intro a' ha' b' hb' hbill hne hopen
  rw [hrows] at ha' hb'
  obtain ⟨a, ha, hsame, hstatus⟩ := mem_updated ha'
  obtain ⟨b, hb, hsame', -⟩ := mem_updated hb'
  rw [hsame.billId, hsame'.billId] at hbill
  rw [hsame.id, hsame'.id] at hne
  rw [hsame.createdAt, hsame'.createdAt]
  refine h a ha b hb hbill hne ?_
  rcases hstatus with rfl | ⟨hid, hstatus⟩
  · exact hopen
  · rw [hstatus] at hopen
    have hfind := hok.find ha
    rw [hid, hattempt] at hfind
    exact Option.some.inj hfind ▸ hp hopen

/-- The new attempt is the newest one, and no other attempt on its bill is unresolved. -/
theorem Newest.insert {db db' : Db} (h : Newest db) {attempt : DebitAttempt}
    (hahead : ∀ a ∈ db.debitAttempts, a.billId = attempt.billId → a.createdAt < attempt.createdAt)
    (hresolved : ∀ a ∈ db.debitAttempts, a.billId = attempt.billId → unresolved a.status = false)
    (hdb' : debits db' = debits ((Write.insertDebitAttempt attempt).apply db)) : Newest db' := by
  have hrows : db'.debitAttempts = db.debitAttempts ++ [attempt] := (Prod.mk.inj hdb').1
  intro a ha b hb hbill hne hopen
  rw [hrows, List.mem_append, List.mem_singleton] at ha hb
  rcases ha with ha | rfl
  · rcases hb with hb | rfl
    · exact h a ha b hb hbill hne hopen
    · rw [hresolved a ha hbill] at hopen
      cases hopen
  · rcases hb with hb | rfl
    · exact hahead b hb hbill.symm
    · exact absurd rfl hne

theorem mem_billAttemptIds {db : Db} {billId id : Id} :
    id ∈ db.billAttemptIds billId ↔ ∃ a ∈ db.debitAttempts, a.billId = billId ∧ a.id = id := by
  simp [Db.billAttemptIds, and_assoc]

/-- When the latest attempt on the bill had been resolved, and the bill has the same attempts still,
all of them are resolved. -/
theorem all_resolved {snap before : Db} {billId : Id} (hok : AttemptsOk snap) (hnewest : Newest snap)
    (hlater : Later snap before) (hbefore : AttemptsOk before)
    (hlatest : ∀ latest, latestAttempt billId snap = some latest → unresolved latest.status = false)
    (hbill : snap.billAttemptIds billId = before.billAttemptIds billId) {a : DebitAttempt}
    (ha : a ∈ before.debitAttempts) (habill : a.billId = billId) : unresolved a.status = false := by
  have hid : a.id ∈ snap.billAttemptIds billId := by
    rw [hbill]
    exact mem_billAttemptIds.mpr ⟨a, ha, habill, rfl⟩
  obtain ⟨b, hb, hbbill, hbid⟩ := mem_billAttemptIds.mp hid
  have hresolved : unresolved b.status = false := by
    by_contra hopen
    rw [Bool.not_eq_false] at hopen
    have hread := hlatest b (hbbill ▸ hnewest.latest hok hb hopen)
    rw [hopen] at hread
    cases hread
  obtain ⟨a', ha', -, hkeep⟩ := hlater.attempt b (hok.find hb)
  rw [hbid, hbefore.find ha] at ha'
  rw [Option.some.inj ha']
  exact hkeep hresolved

theorem commit_newest {c : Commit sig PaymentCall} (hc : CommitOk PaymentCall.duty c)
    (hclock : ClockAhead c) (hok : AttemptsOk c.before) (h : Newest c.before)
    (hseen : ∀ x ∈ c.seen, (AttemptsOk x.2 ∧ Newest x.2) ∧ Later x.2 c.before) :
    Newest c.after := by
  have hafter : c.after = view c.writes c.before := hc.2
  rw [hafter]
  cases commit_debitMove hc with
  | same hdebits => exact h.congr (Prod.mk.inj hdebits).1
  | outcome attempt p hattempt hopen _ hdebits =>
    exact h.update hok hattempt (fun _ => hopen) hdebits
  | settled attempt p hattempt hp _ hdebits =>
    refine h.update hok hattempt (fun hopen => ?_) hdebits
    rw [hp] at hopen
    cases hopen
  | submit attempt snap hwrite _ _ hsnap hlatest hbill hdebits =>
    obtain ⟨⟨hsnapOk, hsnapNewest⟩, hlater⟩ := hseen _ hsnap
    have hinserted : attempt ∈ c.writes.filterMap insertedAttempt? :=
      List.mem_filterMap.mpr ⟨_, hwrite, rfl⟩
    refine h.insert (hclock attempt hinserted) (fun a ha habill => ?_) hdebits
    exact all_resolved hsnapOk hsnapNewest hlater hok hlatest hbill ha habill
  | request _ _ _ _ _ hdebits => exact h.congr (Prod.mk.inj hdebits).1

/-! ## Every run -/

theorem run_attemptsOk (config : PaymentRuntimeConfig) {db₀ : Db} (h₀ : AttemptsOk db₀)
    (evs : List (Event sig PaymentCall)) : AttemptsOk (paymentRun config db₀ evs).db :=
  runs_invariant AttemptsOk (fun _ => True) (wp_paymentBody config)
    (fun _ hc _ => commit_attemptsOk hc) h₀ evs fun _ _ => trivial

theorem run_later (config : PaymentRuntimeConfig) {db₀ : Db} (h₀ : AttemptsOk db₀)
    (evs evs' : List (Event sig PaymentCall)) :
    Later (paymentRun config db₀ evs).db (paymentRun config db₀ (evs ++ evs')).db :=
  runs_relation AttemptsOk Later (fun _ => True) Later.refl (fun _ _ _ => Later.trans)
    (wp_paymentBody config) (fun _ hc _ hok => ⟨commit_attemptsOk hc hok, commit_later hc⟩) h₀ evs
    evs' fun _ _ => trivial

theorem run_newest (config : PaymentRuntimeConfig) {db₀ : Db} (h₀ : AttemptsOk db₀)
    (hnewest : Newest db₀) (evs : List (Event sig PaymentCall))
    (hclock : ∀ c ∈ (paymentRun config db₀ evs).history, ClockAhead c) :
    Newest (paymentRun config db₀ evs).db := by
  have hrun := wp_history (wp_paymentBody config) db₀ evs
  have hreads : ReadsOk (fun db => AttemptsOk db ∧ Newest db) Later (paymentRun config db₀ evs) := by
    refine runs_reads (fun db => AttemptsOk db ∧ Newest db) Later Later.refl
      (fun _ _ _ => Later.trans) ⟨h₀, hnewest⟩ evs fun c hmem hinv hseen => ?_
    have hc := hrun.commit c hmem
    exact ⟨⟨commit_attemptsOk hc hinv.1, commit_newest hc (hclock c hmem) hinv.1 hinv.2 hseen⟩,
      commit_later hc⟩
  exact hreads.current.2

/-- In every run a resolved attempt stays resolved, an attempt that succeeded has a paid order and
neither changes any more, and the provider is asked for an attempt under one number; and when every
new attempt is stamped later than the attempts before it on its bill, the bill has at most one
unresolved attempt. -/
theorem one_unresolved_attempt (config : PaymentRuntimeConfig) {db₀ : Db} (h₀ : AttemptsOk db₀)
    (hnewest : Newest db₀) (evs : List (Event sig PaymentCall)) :
    ((∀ c ∈ (paymentRun config db₀ evs).history, ClockAhead c) →
      ∀ a ∈ (paymentRun config db₀ evs).db.debitAttempts,
        ∀ b ∈ (paymentRun config db₀ evs).db.debitAttempts, a.billId = b.billId →
          unresolved a.status = true → unresolved b.status = true → a = b) ∧
    (∀ s ∈ (paymentRun config db₀ evs).db.submittedDebits,
      ∀ s' ∈ (paymentRun config db₀ evs).db.submittedDebits, s.debitAttemptId = s'.debitAttemptId →
        s.providerOutTradeNo = s'.providerOutTradeNo) ∧
    ∀ a ∈ (paymentRun config db₀ evs).db.debitAttempts,
      (a.status = .succeeded → Paid a.paymentOrderId (paymentRun config db₀ evs).db) ∧
      ∀ evs', ∃ a' ∈ (paymentRun config db₀ (evs ++ evs')).db.debitAttempts, a.Same a' ∧
        (unresolved a.status = false → unresolved a'.status = false) ∧
        (a.status = .succeeded → a' = a ∧
          Paid a.paymentOrderId (paymentRun config db₀ (evs ++ evs')).db) := by
  have hok := run_attemptsOk config h₀ evs
  refine ⟨fun hclock a ha b hb hbill hopen hopen' => ?_, fun s hs s' hs' heq => ?_,
    fun a ha => ⟨hok.succeeded a ha, fun evs' => ?_⟩⟩
  · have hnew := run_newest config h₀ hnewest evs hclock
    by_contra hne
    have hid : a.id ≠ b.id := fun hid => hne (hok.eq ha hb hid)
    exact Int.lt_asymm (hnew a ha b hb hbill hid hopen) (hnew b hb a ha hbill.symm hid.symm hopen')
  · obtain ⟨a, ha, hid, -, hno⟩ := hok.submitted s hs
    obtain ⟨a', ha', hid', -, hno'⟩ := hok.submitted s' hs'
    have haeq : a = a' := hok.eq ha ha' (hid.trans (heq.trans hid'.symm))
    rw [hno, hno', haeq]
  · have hlater := run_later config h₀ evs evs'
    obtain ⟨a', ha', hsame, hresolved⟩ := hlater.attempt a (hok.find ha)
    refine ⟨a', List.mem_of_find?_eq_some ha', hsame, hresolved, fun hsucceeded => ?_⟩
    have hpaid := hok.succeeded a ha hsucceeded
    obtain ⟨horder, hkeep⟩ := hlater.paid _ hpaid
    obtain ⟨o, ho, hstatus⟩ := hpaid
    have hsame' := hkeep a (hok.find ha) rfl
    rw [ha'] at hsame'
    exact ⟨Option.some.inj hsame', o, horder.trans ho, hstatus⟩

/-! Three submissions for one bill. -/

theorem rentDb_attemptsOk : AttemptsOk rentDb where
  ids := by decide
  succeeded a ha := by cases ha
  submitted s hs := by cases hs

theorem rentDb_newest : Newest rentDb := fun a ha => by cases ha

/-- The clock reads `now`, the mandate is active, and the provider answers with `status`. -/
def debitAnswers (key : String) (now : Instant) (id : Id) (status : DebitProviderStatus) :
    (q : Ask) → Ans q
  | .businessNo => key
  | .mandate => some .mock
  | .submitDebit => some ⟨status, key, none, 0, none, none⟩
  | q => providerAnswers now id q

/-- The submission `sid` runs from its beginning to its end. -/
def submission (sid : Nat) (key : String) (slot : DebitRetrySlot) (now : Instant)
    (status : DebitProviderStatus) : List (Event sig PaymentCall) :=
  .begin (.submitBillDebit (some 1) key slot) ::
    List.replicate 60 (.run sid (debitAnswers key now (sid + 1) status))

/-- The first debit fails and may be tried again, the second one is being processed; the time of the
second is `now`. -/
def submissions (now : Instant) : List (Event sig PaymentCall) :=
  submission 0 "DUE" .due 10 .failedRetryable ++ submission 1 "D1" .d1 now .processing ++
    submission 2 "D3" .d3 20 .processing

def attemptsAfter (evs : List (Event sig PaymentCall)) : List (Id × DebitAttemptStatus) :=
  (paymentRun mockConfig rentDb evs).db.debitAttempts.map fun a => (a.id, a.status)

/-- The second attempt is stamped with an earlier time than the first: the third submission takes the
first attempt for the latest, and the bill is debited once more. -/
theorem two_unresolved_attempts :
    AttemptsOk rentDb ∧ Newest rentDb ∧
      attemptsAfter (submissions 5) =
        [(1, .failedRetryable), (2, .processing), (3, .processing)] ∧
      ∃ a ∈ (paymentRun mockConfig rentDb (submissions 5)).db.debitAttempts,
        ∃ b ∈ (paymentRun mockConfig rentDb (submissions 5)).db.debitAttempts,
          a.billId = b.billId ∧ unresolved a.status = true ∧ unresolved b.status = true ∧ a ≠ b :=
  ⟨rentDb_attemptsOk, rentDb_newest, by decide +kernel, by decide +kernel⟩

theorem one_unresolved_attempt_clock :
    attemptsAfter (submissions 15) = [(1, .failedRetryable), (2, .processing)] ∧
      ∀ a ∈ (paymentRun mockConfig rentDb (submissions 15)).db.debitAttempts,
        ∀ b ∈ (paymentRun mockConfig rentDb (submissions 15)).db.debitAttempts,
          a.billId = b.billId → unresolved a.status = true → unresolved b.status = true → a = b :=
  ⟨by decide +kernel, (one_unresolved_attempt mockConfig rentDb_attemptsOk rentDb_newest
    (submissions 15)).1 (by decide +kernel)⟩

end SubscriptionSaas.Payment
