import SubscriptionSaas.Finance.Views
import SubscriptionSaas.Lib.Proofs.TransactionProofs
import SubscriptionSaas.Mandate.PaymentMandateService

/-!
# A terminated mandate stays terminated

A status is only written on a row that is locked and that has been read under the lock, and a row that
is terminal is left as it is. So no interleaving of the operations, and no answer of the provider,
however late, changes a terminal status.
-/

namespace SubscriptionSaas.Mandate

open Transaction
open Finance (Id Instant find?_updateWhere find?_updateWhere_ne find?_append_ne find?_prefix)

/-! ## Statements -/

@[simp] theorem MandatePatch.apply_id (updatedBy : Id) (patch : MandatePatch)
    (mandate : PaymentMandate) : (patch.apply updatedBy mandate).id = mandate.id := by
  cases patch <;> rfl

theorem Db.mandate?_insert {db : Db} {id : Id} {mandate : PaymentMandate} (new : PaymentMandate)
    (h : db.mandate? id = some mandate) :
    ((Write.insertMandate new).apply db).mandate? id = some mandate :=
  find?_prefix (List.prefix_append _ _) h

theorem Db.mandate?_update (db : Db) (id id' updatedBy : Id) (patch : MandatePatch) :
    ((Write.updateMandate id updatedBy patch).apply db).mandate? id' =
      (db.mandate? id').map fun mandate =>
        if mandate.id == id then patch.apply updatedBy mandate else mandate :=
  find?_updateWhere (fun mandate => patch.apply_id updatedBy mandate) id id' db.mandates

/-- The row that a statement writes. -/
def Write.touches : Write → List Row
  | .insertMandate mandate => [.mandate mandate.id]
  | .updateMandate id _ _ => [.mandate id]

/-- The lock of a mandate protects its row. -/
def Row.same (db db' : Db) : Row → Prop
  | .mandate id => db.mandate? id = db'.mandate? id
  | .openMandate _ => True

theorem Row.same_apply (r : Row) (w : Write) (db : Db) (h : r ∉ w.touches) :
    r.same db (w.apply db) := by
  cases r with
  | openMandate orderId => trivial
  | mandate id =>
    cases w with
    | insertMandate mandate =>
      have hne : id ≠ mandate.id := by simpa [Write.touches] using h
      exact (find?_append_ne db.mandates hne).symm
    | updateMandate id' updatedBy patch =>
      have hne : id ≠ id' := by simpa [Write.touches] using h
      exact (find?_updateWhere_ne (fun m => patch.apply_id updatedBy m) hne db.mandates).symm

def isolation : Isolation sig where
  same r db db' := r.same db db'
  touches := Write.touches
  frame _ _ := True
  frame_refl _ := trivial
  frame_trans _ _ _ _ _ := trivial
  frame_apply _ _ := trivial
  same_refl r db := by cases r <;> simp [Row.same]
  same_trans r a b c h h' := by
    cases r with
    | mandate id => exact Eq.trans h h'
    | openMandate orderId => trivial
  same_apply := Row.same_apply

/-! ## What a transaction commits -/

/-- The statement leaves a terminal status as it is. -/
def Write.Keeps (db : Db) : Write → Prop
  | .insertMandate _ => True
  | .updateMandate id updatedBy patch => ∀ mandate, db.mandate? id = some mandate →
      terminal mandate.status = true → (patch.apply updatedBy mandate).status = mandate.status

/-- A transaction commits at most one statement, and that one leaves terminal statuses alone. -/
def Kept : Duty sig := fun _ before ws => ws = [] ∨ ∃ w, ws = [w] ∧ w.Keeps before

/-- The mandates that were terminal have the statuses that they had. -/
def TerminalKept (db db' : Db) : Prop :=
  ∀ id mandate, db.mandate? id = some mandate → terminal mandate.status = true →
    ∃ mandate', db'.mandate? id = some mandate' ∧ mandate'.status = mandate.status

theorem TerminalKept.refl (db : Db) : TerminalKept db db :=
  fun _ mandate h _ => ⟨mandate, h, rfl⟩

theorem TerminalKept.trans {a b c : Db} (h : TerminalKept a b) (h' : TerminalKept b c) :
    TerminalKept a c := by
  intro id mandate hmandate hterminal
  obtain ⟨mandate₁, hmandate₁, hstatus₁⟩ := h id mandate hmandate hterminal
  obtain ⟨mandate₂, hmandate₂, hstatus₂⟩ := h' id mandate₁ hmandate₁ (hstatus₁ ▸ hterminal)
  exact ⟨mandate₂, hmandate₂, hstatus₂.trans hstatus₁⟩

theorem Write.Keeps.terminalKept {db : Db} {w : Write} (h : w.Keeps db) :
    TerminalKept db (w.apply db) := by
  intro id mandate hmandate hterminal
  cases w with
  | insertMandate new => exact ⟨mandate, Db.mandate?_insert new hmandate, rfl⟩
  | updateMandate id' updatedBy patch =>
    rw [Db.mandate?_update, hmandate]
    refine ⟨_, rfl, ?_⟩
    have hid : mandate.id = id := by simpa using List.find?_some hmandate
    by_cases hsame : mandate.id = id'
    · have hrow : db.mandate? id' = some mandate := by rw [← hsame, hid, hmandate]
      simpa [hsame] using h mandate hrow hterminal
    · simp [hsame]

theorem Kept.terminalKept {seen : List (Tag × Db)} {before : Db} {ws : List Write}
    (h : Kept seen before ws) : TerminalKept before (applyAll sig ws before) := by
  rcases h with rfl | ⟨w, rfl, hkeeps⟩
  · exact .refl before
  · exact hkeeps.terminalKept

/-! ## The parts of the service -/

section Rules

variable {α : Type} {E : Err → Ctx sig → Prop} {c : Ctx sig}

/-- The program may be run outside any transaction; it ends outside any, or throws. -/
def Alone (p : Tx α) : Prop :=
  ∀ (Q : α → Ctx sig → Prop) (E : Err → Ctx sig → Prop) (c : Ctx sig), c.pending = [] →
    (∀ a c', c'.pending = [] → Q a c') → (∀ e c', E e c') → wp isolation Kept p Q E c

theorem Alone.bind {β : Type} {p : Tx α} {f : α → Tx β} (h : Alone p) (hf : ∀ a, Alone (f a)) :
    Alone (p >>= f) := by
  intro Q E c hpend hQ hE
  rw [wp_bind]
  exact h _ _ c hpend (fun a c' hpend' => hf a Q E c' hpend' hQ hE) hE

theorem alone_pure (a : α) : Alone (pure a : Tx α) := fun _ _ c hpend hQ _ => hQ a c hpend

theorem alone_fail (e : Err) : Alone (fail (S := sig) e : Tx α) := fun _ _ c _ _ hE => hE e c

theorem alone_ask (q : Ask) : Alone (ask (S := sig) q) := fun _ _ c hpend hQ _ a => hQ a c hpend

theorem alone_select (t : Tag) (f : Db → α) : Alone (select (S := sig) t f) :=
  fun _ _ _ hpend hQ _ _ _ => hQ _ _ hpend

theorem alone_ensure (b : Bool) (e : Err) : Alone (ensure (S := sig) b e) := by
  cases b with
  | false => exact alone_fail e
  | true => exact alone_pure ()

theorem alone_commitTx : Alone (commitTx (S := sig)) := by
  intro Q E c hpend hQ _ db _
  exact ⟨.inl hpend, hQ _ _ rfl⟩

theorem Alone.catchErr {p : Tx α} {h : Err → Tx α} (hp : Alone p) (hh : ∀ e, Alone (h e)) :
    Alone (Prog.catchErr p h) := by
  intro Q E c hpend hQ hE
  rw [wp_catchErr]
  exact hp _ _ c hpend hQ fun e c' => hh e Q E _ rfl hQ hE

/-- A statement on a row that is locked, and the end of the transaction. -/
theorem wp_write {w : Write} {a : α} {Q : α → Ctx sig → Prop} (hpend : c.pending = [])
    (hheld : ∀ r ∈ w.touches, r ∈ c.held) (hkeeps : ∀ db, isolation.Rely c.held c.db db → w.Keeps db)
    (hQ : ∀ a c', c'.pending = [] → Q a c') :
    wp isolation Kept (do exec (S := sig) w; commitTx (S := sig); pure a) Q E c := by
  rw [wp_bind, wp_exec]
  refine ⟨hheld, ?_⟩
  rw [wp_bind, wp_commitTx]
  intro db hr
  rw [hpend]
  exact ⟨.inr ⟨w, rfl, hkeeps db hr⟩, hQ a _ rfl⟩

end Rules

theorem alone_writeAudit : Alone writeAudit :=
  (alone_ask _).bind fun _ => alone_ensure _ _

theorem alone_providerResult {α : Type} (answer : Except String α) :
    Alone (providerResult answer) := by
  cases answer with
  | error message => exact alone_fail _
  | ok result => exact alone_pure result

theorem alone_findMandateOrThrow (id : Id) : Alone (findMandateOrThrow id) := by
  refine (alone_select _ _).bind fun row => ?_
  cases row with
  | none => exact alone_fail _
  | some mandate => exact alone_pure mandate

theorem alone_requiredProviderMandateId (mandate : PaymentMandate) :
    Alone (requiredProviderMandateId mandate) := by
  unfold requiredProviderMandateId
  split
  · exact alone_fail _
  · exact alone_pure _

theorem alone_providerSnapshot (mandate : PaymentMandate) : Alone (providerSnapshot mandate) := by
  unfold providerSnapshot
  split
  · exact alone_fail _
  · exact alone_pure _

theorem alone_createPendingMandate (config : AutoDebitConfig) (orderId customerId actorId : Id) :
    Alone (createPendingMandate config orderId customerId actorId) := by
  unfold createPendingMandate
  refine (alone_ask _).bind fun order => (alone_ensure _ _).bind fun _ => ?_
  refine (alone_select _ _).bind fun existing => (alone_ensure _ _).bind fun _ => ?_
  refine (alone_ask _).bind fun id => (alone_ask _).bind fun mandateNo => ?_
  intro Q E c hpend hQ hE
  rw [wp_bind, wp_lockRow]
  intro db₁ _
  rw [wp_bind, wp_select]
  intro db₂ _
  rw [wp_bind, wp_ensure]
  refine ⟨fun _ => ?_, fun _ => hE _ _⟩
  rw [wp_bind, wp_lockRow]
  intro db₃ _
  rw [wp_bind, wp_select]
  intro db₄ _
  rw [wp_bind, wp_ensure]
  refine ⟨fun _ => wp_write hpend ?_ (fun _ _ => trivial) hQ, fun _ => hE _ _⟩
  intro r hr
  obtain rfl := List.mem_singleton.1 hr
  exact List.mem_cons_of_mem _ List.mem_cons_self

/-- What is read of a row under its lock is what the commit finds. -/
theorem mandate?_current {held : List Row} {db db' : Db} {id : Id} (hheld : Row.mandate id ∈ held)
    (hr : isolation.Rely held db db') : db'.mandate? id = db.mandate? id :=
  (hr.2 (.mandate id) hheld).symm

theorem wp_assertMandateTransition {current next : PaymentMandateStatus}
    {Q : Unit → Ctx sig → Prop} {E : Err → Ctx sig → Prop} {c : Ctx sig} (hQ : Q () c)
    (hE : ∀ e c', E e c') : wp isolation Kept (assertMandateTransition current next) Q E c := by
  unfold assertMandateTransition
  split
  · exact hQ
  · rw [wp_ensure]
    exact ⟨fun _ => hQ, fun _ => hE _ _⟩

/-- The row has been read again under its lock and is not terminal. -/
theorem alone_persistProviderResult (current : PaymentMandate) (result : MandateProviderResult)
    (updatedBy : Id) : Alone (persistProviderResult current result updatedBy) := by
  unfold persistProviderResult
  refine (alone_ask _).bind fun now => ?_
  intro Q E c hpend hQ hE
  rw [wp_bind, wp_lockRow]
  intro db₁ _
  rw [wp_bind, wp_select]
  intro db₂ _
  simp only [hpend, applyAll, List.foldl_nil]
  cases hlocked : db₂.mandate? current.id with
  | none => exact hE _ _
  | some locked =>
    dsimp only
    by_cases hterminal : terminal locked.status = true
    · rw [if_pos hterminal]
      exact (alone_commitTx.bind fun _ => alone_pure locked) Q E _ rfl hQ hE
    · rw [if_neg hterminal, wp_bind]
      refine wp_assertMandateTransition ?_ hE
      rw [wp_bind, wp_select]
      intro db₃ hr₃
      rw [wp_bind, wp_ensure]
      refine ⟨fun _ => wp_write rfl ?_ ?_ hQ, fun _ => hE _ _⟩
      · intro r hr
        obtain rfl := List.mem_singleton.1 hr
        exact List.mem_cons_self
      · intro db₄ hr₄ mandate hmandate hterminal'
        rw [mandate?_current List.mem_cons_self hr₄, mandate?_current List.mem_cons_self hr₃,
          hlocked] at hmandate
        obtain rfl := Option.some.inj hmandate
        exact absurd hterminal' hterminal

/-- The statuses of the condition are not terminal, or the patch does not write the status. -/
theorem alone_updateMandateWhere (id updatedBy : Id) {p : PaymentMandateStatus → Bool}
    (patch : MandatePatch) (hp : ∀ status, p status = true → terminal status = false) :
    Alone (updateMandateWhere id updatedBy p patch) := by
  intro Q E c hpend hQ hE
  unfold updateMandateWhere
  rw [wp_bind, wp_lockRow]
  intro db₁ _
  rw [wp_bind, wp_select]
  intro db₂ _
  simp only [hpend, applyAll, List.foldl_nil]
  by_cases hfound : (db₂.mandate? id).any (p ·.status) = true
  · rw [if_pos hfound, wp_bind, wp_exec]
    constructor
    · intro r hr
      obtain rfl := List.mem_singleton.1 hr
      exact List.mem_cons_self
    · intro db₃ hr₃
      refine ⟨.inr ⟨_, rfl, ?_⟩, hQ () _ rfl⟩
      intro mandate hmandate hterminal
      rw [mandate?_current List.mem_cons_self hr₃] at hmandate
      rw [hmandate, Option.any_some] at hfound
      rw [hp mandate.status hfound] at hterminal
      cases hterminal
  · rw [if_neg hfound]
    exact ((alone_pure ()).bind fun _ => alone_commitTx) Q E _ rfl hQ hE

theorem alone_failPendingMandate (id : Id) (error : Err) (updatedBy : Id) :
    Alone (failPendingMandate id error updatedBy) := by
  refine (alone_ask _).bind fun now => (alone_updateMandateWhere id updatedBy _ ?_).bind fun _ =>
    alone_findMandateOrThrow id
  intro status hpending
  rw [beq_iff_eq.1 hpending]
  rfl

theorem alone_persistRevocationFailure (id : Id) (error : Err) (updatedBy : Id) :
    Alone (persistRevocationFailure id error updatedBy) := by
  refine (alone_ask _).bind fun now => (alone_updateMandateWhere id updatedBy _ ?_).bind fun _ =>
    alone_findMandateOrThrow id
  intro status hopen
  simpa using hopen

/-- The request of a revocation does not write the status. -/
theorem alone_persistRevocationIntent (id : Id) (customerId : Option Id) (actorId : Id) :
    Alone (persistRevocationIntent id customerId actorId) := by
  intro Q E c hpend hQ hE
  unfold persistRevocationIntent
  rw [wp_bind, wp_lockRow]
  intro db₁ _
  rw [wp_bind, wp_select]
  intro db₂ _
  simp only [hpend, applyAll, List.foldl_nil]
  split
  · exact hE _ _
  · next current _ =>
    by_cases hrevoked : current.status = .revoked
    · rw [if_pos hrevoked]
      exact (alone_commitTx.bind fun _ => alone_pure current) Q E _ rfl hQ hE
    · rw [if_neg hrevoked, wp_bind, wp_ensure]
      refine ⟨fun _ => ?_, fun _ => hE _ _⟩
      rw [wp_bind, wp_ask]
      intro now
      refine wp_write rfl ?_ (fun _ _ _ _ _ => rfl) hQ
      intro r hr
      obtain rfl := List.mem_singleton.1 hr
      exact List.mem_cons_self

/-! ## The operations -/

variable (config : AutoDebitConfig)

theorem alone_createPortalMandate (orderId customerId customerAccountId : Id) :
    Alone (createPortalMandate config orderId customerId customerAccountId) := by
  unfold createPortalMandate
  refine (alone_ensure _ _).bind fun _ => ?_
  refine (alone_createPendingMandate _ _ _ _).bind fun pending => ?_
  refine alone_writeAudit.bind fun _ => Alone.bind ?_ fun updated =>
    alone_writeAudit.bind fun _ => alone_pure updated
  refine Alone.catchErr ?_ fun error => ?_
  · refine (alone_ask _).bind fun answer => (alone_providerResult answer).bind fun result => ?_
    exact alone_persistProviderResult pending result customerAccountId
  · refine (alone_failPendingMandate _ _ _).bind fun _ => alone_writeAudit.bind fun _ => ?_
    exact alone_fail _

theorem alone_syncAdminMandate (id userId : Id) : Alone (syncAdminMandate config id userId) := by
  unfold syncAdminMandate
  refine (alone_ensure _ _).bind fun _ => (alone_findMandateOrThrow id).bind fun current => ?_
  refine (alone_ensure _ _).bind fun _ => ?_
  refine (alone_requiredProviderMandateId current).bind fun providerMandateId => ?_
  refine (alone_providerSnapshot current).bind fun snapshot => (alone_ask _).bind fun answer => ?_
  refine (alone_providerResult answer).bind fun result => ?_
  refine (alone_persistProviderResult current result userId).bind fun updated => ?_
  exact alone_writeAudit.bind fun _ => alone_pure updated

theorem alone_revokeMandate (id : Id) (customerId : Option Id) (actorId : Id) :
    Alone (revokeMandate config id customerId actorId) := by
  unfold revokeMandate
  refine (alone_ensure _ _).bind fun _ => ?_
  refine (alone_persistRevocationIntent id customerId actorId).bind fun current => ?_
  by_cases hrevoked : current.status = .revoked
  · rw [if_pos hrevoked]
    exact alone_pure current
  · rw [if_neg hrevoked]
    refine alone_writeAudit.bind fun _ => Alone.bind ?_ fun result => ?_
    · refine Alone.catchErr ?_ fun error => ?_
      · refine (alone_requiredProviderMandateId current).bind fun providerMandateId => ?_
        refine (alone_providerSnapshot current).bind fun snapshot => ?_
        exact (alone_ask _).bind fun answer => alone_providerResult answer
      · refine (alone_persistRevocationFailure _ _ _).bind fun _ => ?_
        exact alone_writeAudit.bind fun _ => alone_fail _
    · refine (alone_persistProviderResult current result actorId).bind fun updated => ?_
      exact alone_writeAudit.bind fun _ => alone_pure updated

theorem alone_mandateBody (call : MandateCall) : Alone (mandateBody config call) := by
  cases call with
  | createPortalMandate orderId customerId accountId =>
    exact (alone_createPortalMandate config orderId customerId accountId).bind fun _ => alone_pure ()
  | revokePortalMandate id customerId accountId =>
    exact (alone_revokeMandate config id (some customerId) accountId).bind fun _ => alone_pure ()
  | syncAdminMandate id userId =>
    exact (alone_syncAdminMandate config id userId).bind fun _ => alone_pure ()
  | revokeAdminMandate id userId =>
    exact (alone_revokeMandate config id none userId).bind fun _ => alone_pure ()

theorem wp_mandateBody (call : MandateCall) (db : Db) :
    wp isolation Kept (mandateBody config call) anyEnd anyEnd (Ctx.start db) :=
  alone_mandateBody config call anyEnd anyEnd _ rfl (fun _ _ _ => trivial) fun _ _ => trivial

theorem commit_terminalKept {commit : Commit sig MandateCall}
    (h : CommitOk (fun _ => Kept) commit) : TerminalKept commit.before commit.after := by
  obtain ⟨hkept, hafter⟩ := h
  rw [hafter]
  exact hkept.terminalKept

/-- A mandate that is terminal at some moment of an interleaving has the same status at every later
one, and is not active there. -/
theorem terminal_mandate_stays (db : Db) (evs later : List (Event sig MandateCall)) (id : Id)
    (mandate : PaymentMandate)
    (hmandate : ((Machine.init db).runs (mandateBody config) evs).db.mandate? id = some mandate)
    (hterminal : terminal mandate.status = true) :
    ∃ mandate', ((Machine.init db).runs (mandateBody config) (evs ++ later)).db.mandate? id =
      some mandate' ∧ mandate'.status = mandate.status ∧ mandate'.status ≠ .active := by
  have hkept : TerminalKept ((Machine.init db).runs (mandateBody config) evs).db
      ((Machine.init db).runs (mandateBody config) (evs ++ later)).db :=
    runs_relation (fun _ => True) TerminalKept (fun _ => True) TerminalKept.refl
      (fun _ _ _ => TerminalKept.trans) (wp_mandateBody config)
      (fun _ hcommit _ _ => ⟨trivial, commit_terminalKept hcommit⟩) trivial evs later
      fun _ _ => trivial
  obtain ⟨mandate', hmandate', hstatus⟩ := hkept id mandate hmandate hterminal
  refine ⟨mandate', hmandate', hstatus, ?_⟩
  intro hactive
  rw [← hstatus, hactive] at hterminal
  cases hterminal

/-! ## A late answer -/

def sampleConfig : AutoDebitConfig := ⟨true, .mock, none⟩

def sampleMandate : PaymentMandate :=
  { pendingMandate sampleConfig 1 2 3 7 "MDT1" with
    providerMandateId := some "p"
    responseSnapshot := some []
    status := .active }

def sampleDb : Db := ⟨[sampleMandate]⟩

def sampleResult (status : PaymentMandateStatus) : MandateProviderResult :=
  ⟨none, none, none, none, "p", [], none, status⟩

/-- The answers of the outside world; the provider says that the mandate has this status. -/
def sampleAnswers (status : PaymentMandateStatus) : (q : Ask) → Ans q
  | .uuid => (8 : Nat)
  | .businessNo => "MDT2"
  | .now => (0 : Int)
  | .activeOrder _ _ => true
  | .createMandate _ _ => .ok (sampleResult status)
  | .queryMandate _ _ => .ok (sampleResult status)
  | .revokeMandate _ _ => .ok (sampleResult status)
  | .audit => true

/-- The provider has told a synchronisation that the mandate is active; the customer revokes it. -/
def revokedMeanwhile : List (Event sig MandateCall) :=
  .begin (.syncAdminMandate 7 9) :: List.replicate 2 (.run 0 (sampleAnswers .active)) ++
    .begin (.revokePortalMandate 7 2 3) :: List.replicate 14 (.run 1 (sampleAnswers .revoked))

/-- The synchronisation goes on with its answer. -/
def lateAnswer : List (Event sig MandateCall) :=
  List.replicate 10 (.run 0 (sampleAnswers .active))

theorem terminal_mandate_stays_sample : ∃ mandate,
    ((Machine.init sampleDb).runs (mandateBody sampleConfig)
      (revokedMeanwhile ++ lateAnswer)).db.mandate? 7 = some mandate ∧
    mandate.status = .revoked := by
  obtain ⟨mandate, hmandate, hstatus⟩ : ∃ mandate,
      ((Machine.init sampleDb).runs (mandateBody sampleConfig) revokedMeanwhile).db.mandate? 7 =
        some mandate ∧ mandate.status = .revoked :=
    ⟨_, rfl, rfl⟩
  obtain ⟨mandate', hmandate', hsame, -⟩ := terminal_mandate_stays sampleConfig sampleDb
    revokedMeanwhile lateAnswer 7 mandate hmandate (by rw [hstatus]; rfl)
  exact ⟨mandate', hmandate', hsame.trans hstatus⟩

end SubscriptionSaas.Mandate
