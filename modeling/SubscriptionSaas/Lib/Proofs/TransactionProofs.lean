import SubscriptionSaas.Lib.Transaction

/-!
# Rules for transactions under row locks

`Isolation` says what a row lock protects: `same r` relates two databases that agree on everything
row `r` guards, and a write touches the rows whose protected part it may change. A program that
writes only under the locks of the rows it touches never disturbs another program's locked rows.
`frame` is what no write ever does, such as removing a row from a table that is only appended to.

`wp` is the weakest precondition of a program in an environment of other such programs. Between two
of its statements the committed database may change in any way that leaves its locked rows alone;
at a commit the obligation `C` on the snapshots read, the database and the writes must hold.
`wp_history` is the soundness theorem: if every call satisfies its `wp`, every commit of every
interleaving satisfies `C`. Invariants of the database then follow by `runs_invariant`, an induction
over the commits.
-/

namespace Transaction

variable {S : Sig} {α β Call : Type}

/-- What row locks protect. -/
structure Isolation (S : Sig) where
  /-- The two databases agree on what row `r` guards. -/
  same : S.Row → S.Db → S.Db → Prop
  /-- The rows whose guarded part a write may change. -/
  touches : S.Write → List S.Row
  /-- What every write keeps. -/
  frame : S.Db → S.Db → Prop
  frame_refl : ∀ db, frame db db
  frame_trans : ∀ a b c, frame a b → frame b c → frame a c
  frame_apply : ∀ w db, frame db (S.apply w db)
  same_refl : ∀ r db, same r db db
  same_trans : ∀ r a b c, same r a b → same r b c → same r a c
  same_apply : ∀ r w db, r ∉ touches w → same r db (S.apply w db)

/-- The environment of a session that holds `held` may turn `db` into `db'`. -/
def Isolation.Rely (I : Isolation S) (held : List S.Row) (db db' : S.Db) : Prop :=
  I.frame db db' ∧ ∀ r ∈ held, I.same r db db'

/-- The state of a transaction: its locks, its writes, what it has read, and the committed database
when it last looked. -/
structure Ctx (S : Sig) where
  held : List S.Row
  pending : List S.Write
  seen : List (S.Tag × S.Db)
  db : S.Db

/-- The state in which a session starts. -/
def Ctx.start (db : S.Db) : Ctx S := ⟨[], [], [], db⟩

/-- What a commit has to satisfy: snapshots read, committed database before, writes. -/
abbrev Duty (S : Sig) := List (S.Tag × S.Db) → S.Db → List S.Write → Prop

/-- The weakest precondition of a program for the duty `C`, the postcondition `Q` of a normal end
and the postcondition `E` of a throw. -/
def wp (I : Isolation S) (C : Duty S) :
    Prog S α → (α → Ctx S → Prop) → (S.Err → Ctx S → Prop) → Ctx S → Prop
  | .done a, Q, _, c => Q a c
  | .throw e, _, E, c => E e c
  | .query t k, Q, E, c => ∀ db, I.Rely c.held c.db db →
      wp I C (k (applyAll S c.pending db)) Q E { c with db := db, seen := c.seen ++ [(t, db)] }
  | .lock r k, Q, E, c => ∀ db, I.Rely c.held c.db db →
      wp I C k Q E { c with db := db, held := r :: c.held }
  | .write w k, Q, E, c => (∀ r ∈ I.touches w, r ∈ c.held) ∧
      wp I C k Q E { c with pending := c.pending ++ [w] }
  | .ask _ k, Q, E, c => ∀ a, wp I C (k a) Q E c
  | .commit k, Q, E, c => ∀ db, I.Rely c.held c.db db → C c.seen db c.pending ∧
      wp I C k Q E ⟨[], [], [], applyAll S c.pending db⟩
  | .rollback k, Q, E, c => wp I C k Q E { c with held := [], pending := [] }

/-- The postcondition that asks for nothing. -/
def anyEnd {γ : Type} : γ → Ctx S → Prop := fun _ _ => True

section Rules

variable {I : Isolation S} {C : Duty S}

theorem Isolation.rely_refl (held : List S.Row) (db : S.Db) : I.Rely held db db :=
  ⟨I.frame_refl db, fun r _ => I.same_refl r db⟩

theorem Isolation.Rely.trans {held : List S.Row} {a b c : S.Db} (h : I.Rely held a b)
    (h' : I.Rely held b c) : I.Rely held a c :=
  ⟨I.frame_trans a b c h.1 h'.1, fun r hr => I.same_trans r a b c (h.2 r hr) (h'.2 r hr)⟩

theorem Isolation.Rely.mono {held held' : List S.Row} {a b : S.Db} (h : I.Rely held' a b)
    (hsub : ∀ r ∈ held, r ∈ held') : I.Rely held a b :=
  ⟨h.1, fun r hr => h.2 r (hsub r hr)⟩

/-- Sequential composition. -/
theorem wp_bind {p : Prog S α} {f : α → Prog S β} {Q : β → Ctx S → Prop}
    {E : S.Err → Ctx S → Prop} (c : Ctx S) :
    wp I C (p >>= f) Q E c ↔ wp I C p (fun a c' => wp I C (f a) Q E c') E c := by
  show wp I C (p.bind f) Q E c ↔ _
  induction p generalizing c with
  | done a => exact Iff.rfl
  | throw e => exact Iff.rfl
  | query t k ih => exact forall_congr' fun db => imp_congr_right fun _ => ih _ _
  | lock r k ih => exact forall_congr' fun db => imp_congr_right fun _ => ih _
  | write w k ih => exact and_congr_right fun _ => ih _
  | ask q k ih => exact forall_congr' fun a => ih a _
  | commit k ih =>
    exact forall_congr' fun db => imp_congr_right fun _ => and_congr_right fun _ => ih _
  | rollback k ih => exact ih _

/-- A handler runs with the transaction rolled back. -/
theorem wp_catchErr {p : Prog S α} {h : S.Err → Prog S α} {Q : α → Ctx S → Prop}
    {E : S.Err → Ctx S → Prop} (c : Ctx S) :
    wp I C (p.catchErr h) Q E c ↔
      wp I C p Q (fun e c' => wp I C (h e) Q E { c' with held := [], pending := [] }) c := by
  induction p generalizing c with
  | done a => exact Iff.rfl
  | throw e => exact Iff.rfl
  | query t k ih => exact forall_congr' fun db => imp_congr_right fun _ => ih _ _
  | lock r k ih => exact forall_congr' fun db => imp_congr_right fun _ => ih _
  | write w k ih => exact and_congr_right fun _ => ih _
  | ask q k ih => exact forall_congr' fun a => ih a _
  | commit k ih =>
    exact forall_congr' fun db => imp_congr_right fun _ => and_congr_right fun _ => ih _
  | rollback k ih => exact ih _

@[simp] theorem wp_pure (a : α) (Q : α → Ctx S → Prop) (E : S.Err → Ctx S → Prop) (c : Ctx S) :
    wp I C (pure a) Q E c ↔ Q a c := Iff.rfl

@[simp] theorem wp_select (t : S.Tag) (f : S.Db → α) (Q : α → Ctx S → Prop)
    (E : S.Err → Ctx S → Prop) (c : Ctx S) :
    wp I C (select t f) Q E c ↔ ∀ db, I.Rely c.held c.db db →
      Q (f (applyAll S c.pending db)) { c with db := db, seen := c.seen ++ [(t, db)] } := Iff.rfl

@[simp] theorem wp_lockRow (r : S.Row) (Q : Unit → Ctx S → Prop) (E : S.Err → Ctx S → Prop)
    (c : Ctx S) : wp I C (lockRow r) Q E c ↔ ∀ db, I.Rely c.held c.db db →
      Q () { c with db := db, held := r :: c.held } := Iff.rfl

@[simp] theorem wp_exec (w : S.Write) (Q : Unit → Ctx S → Prop) (E : S.Err → Ctx S → Prop)
    (c : Ctx S) : wp I C (exec w) Q E c ↔ (∀ r ∈ I.touches w, r ∈ c.held) ∧
      Q () { c with pending := c.pending ++ [w] } := Iff.rfl

@[simp] theorem wp_ask (q : S.Ask) (Q : S.Ans q → Ctx S → Prop) (E : S.Err → Ctx S → Prop)
    (c : Ctx S) : wp I C (ask q) Q E c ↔ ∀ a, Q a c := Iff.rfl

@[simp] theorem wp_commitTx (Q : Unit → Ctx S → Prop) (E : S.Err → Ctx S → Prop) (c : Ctx S) :
    wp I C commitTx Q E c ↔ ∀ db, I.Rely c.held c.db db → C c.seen db c.pending ∧
      Q () ⟨[], [], [], applyAll S c.pending db⟩ := Iff.rfl

@[simp] theorem wp_ensure (b : Bool) (e : S.Err) (Q : Unit → Ctx S → Prop)
    (E : S.Err → Ctx S → Prop) (c : Ctx S) :
    wp I C (ensure b e) Q E c ↔ (b = true → Q () c) ∧ (b = false → E e c) := by
  cases b <;> simp [ensure, wp]

/-- Locking several rows: they are all held afterwards, and nothing but the environment has moved. -/
theorem wp_lockRows {rs : List S.Row} {Q : Unit → Ctx S → Prop} {E : S.Err → Ctx S → Prop}
    {c : Ctx S}
    (h : ∀ db, I.Rely c.held c.db db → Q () { c with db := db, held := rs.reverse ++ c.held }) :
    wp I C (lockRows rs) Q E c := by
  induction rs generalizing c with
  | nil => exact h c.db (I.rely_refl _ _)
  | cons r rs ih =>
    intro db hdb
    refine ih fun db' hdb' => ?_
    have hrely : I.Rely c.held c.db db' :=
      hdb.trans (hdb'.mono fun r' hr' => List.mem_cons_of_mem _ hr')
    simpa using h db' hrely

/-- The environment may move before a program starts. -/
theorem wp_env {p : Prog S α} {c : Ctx S} {db : S.Db} (h : wp I C p anyEnd anyEnd c)
    (hr : I.Rely c.held c.db db) : wp I C p anyEnd anyEnd { c with db := db } := by
  induction p generalizing c with
  | done a => trivial
  | throw e => trivial
  | query t k _ => exact fun db' hr' => h db' (hr.trans hr')
  | lock r k _ => exact fun db' hr' => h db' (hr.trans hr')
  | write w k ih => exact ⟨h.1, ih h.2 hr⟩
  | ask q k ih => exact fun a => ih a (h a) hr
  | commit k _ => exact fun db' hr' => h db' (hr.trans hr')
  | rollback k ih => exact ih h ⟨hr.1, fun r hr' => absurd hr' List.not_mem_nil⟩

end Rules

/-! ## Soundness -/

section Soundness

variable {I : Isolation S} {spec : Call → Duty S} {body : Call → Prog S Unit}

/-- The writes `ws` stay within the locks `held`. -/
def Within (I : Isolation S) (held : List S.Row) (ws : List S.Write) : Prop :=
  ∀ w ∈ ws, ∀ r ∈ I.touches w, r ∈ held

theorem rely_applyAll {held mine : List S.Row} {ws : List S.Write} (hw : Within I mine ws)
    (hdis : ∀ r ∈ held, r ∉ mine) (db : S.Db) : I.Rely held db (applyAll S ws db) := by
  induction ws generalizing db with
  | nil => exact I.rely_refl held db
  | cons w ws ih =>
    have hhead : I.Rely held db (S.apply w db) := ⟨I.frame_apply w db, fun r hr =>
      I.same_apply r w db fun hmem => hdis r hr (hw w List.mem_cons_self r hmem)⟩
    exact hhead.trans (ih (fun w' hw' => hw w' (List.mem_cons_of_mem _ hw')) _)

/-- What holds of every session of every reachable machine. -/
def SessionOk (I : Isolation S) (spec : Call → Duty S) (db : S.Db) (s : Session S Call) : Prop :=
  Within I s.held s.pending ∧
    wp I (spec s.call) s.prog anyEnd anyEnd ⟨s.held, s.pending, s.seen, db⟩

theorem SessionOk.stop {db : S.Db} {s : Session S Call} : SessionOk I spec db s.stop :=
  ⟨fun _ hw => absurd hw List.not_mem_nil, trivial⟩

theorem SessionOk.env {db db' : S.Db} {s : Session S Call} (h : SessionOk I spec db s)
    (hr : I.Rely s.held db db') : SessionOk I spec db' s :=
  ⟨h.1, wp_env (c := ⟨s.held, s.pending, s.seen, db⟩) h.2 hr⟩

/-- A recorded commit did what its call promises. -/
def CommitOk (spec : Call → Duty S) (c : Commit S Call) : Prop :=
  spec c.call c.seen c.before c.writes ∧ c.after = applyAll S c.writes c.before

/-- The commits lead from `db` to `db'`, one after the other. -/
def Chain : S.Db → List (Commit S Call) → S.Db → Prop
  | db, [], db' => db = db'
  | db, c :: cs, db' => db = c.before ∧ Chain c.after cs db'

theorem Chain.snoc {db db' : S.Db} {cs : List (Commit S Call)} {c : Commit S Call}
    (h : Chain db cs db') (hc : c.before = db') : Chain db (cs ++ [c]) c.after := by
  induction cs generalizing db with
  | nil => exact ⟨h.trans hc.symm, rfl⟩
  | cons c' cs ih => exact ⟨h.1, ih h.2⟩

/-- The invariant of the machine, started on `db₀`: no row is locked twice, every session is on
track, and the history is a chain of commits that kept their promise. -/
structure MachineOk (I : Isolation S) (spec : Call → Duty S) (db₀ : S.Db)
    (m : Machine S Call) : Prop where
  apart : ∀ (i j : Nat) (s t : Session S Call), i ≠ j → m.sessions[i]? = some s →
    m.sessions[j]? = some t → ∀ r ∈ s.held, r ∉ t.held
  session : ∀ s ∈ m.sessions, SessionOk I spec m.db s
  commit : ∀ c ∈ m.history, CommitOk spec c
  chain : Chain db₀ m.history m.db

theorem MachineOk.init (db : S.Db) : MachineOk I spec db (Machine.init db : Machine S Call) where
  apart := by intro i j s t _ hs; simp [Machine.init] at hs
  session := by intro s hs; simp [Machine.init] at hs
  commit := by intro c hc; simp [Machine.init] at hc
  chain := rfl

/-- The sessions after session `sid` has been replaced. -/
theorem getElem?_set_cases {sessions : List (Session S Call)} {sid i : Nat} {s t : Session S Call}
    (h : (sessions.set sid s)[i]? = some t) :
    (i = sid ∧ t = s) ∨ (i ≠ sid ∧ sessions[i]? = some t) := by
  rw [List.getElem?_set] at h
  by_cases hi : sid = i
  · simp only [hi, if_true] at h
    split at h
    · exact .inl ⟨hi.symm, (Option.some.inj h).symm⟩
    · cases h
  · simp only [hi, if_false] at h
    exact .inr ⟨fun hc => hi hc.symm, h⟩

/-- Replacing a session by one whose locks are its own old ones or free. -/
theorem MachineOk.put {db₀ : S.Db} {m : Machine S Call} (h : MachineOk I spec db₀ m) {sid : Nat}
    {s s' : Session S Call} (hs : m.sessions[sid]? = some s)
    (hheld : ∀ r ∈ s'.held, r ∈ s.held ∨ ∀ t ∈ m.sessions, r ∉ t.held)
    (hok : SessionOk I spec m.db s') : MachineOk I spec db₀ (m.put sid s') where
  apart := by
    intro i j a b hij ha hb r hra hrb
    rcases getElem?_set_cases ha with ⟨hi, rfl⟩ | ⟨hi, ha'⟩
    · rcases getElem?_set_cases hb with ⟨hj, rfl⟩ | ⟨hj, hb'⟩
      · exact hij (hi.trans hj.symm)
      · rcases hheld r hra with hold | hfree
        · exact h.apart sid j s b (fun hc => hj hc.symm) hs hb' r hold hrb
        · exact hfree b (List.mem_of_getElem? hb') hrb
    · rcases getElem?_set_cases hb with ⟨hj, rfl⟩ | ⟨hj, hb'⟩
      · rcases hheld r hrb with hold | hfree
        · exact h.apart i sid a s hi ha' hs r hra hold
        · exact hfree a (List.mem_of_getElem? ha') hra
      · exact h.apart i j a b hij ha' hb' r hra hrb
  session := by
    intro t ht
    rcases List.mem_or_eq_of_mem_set ht with h1 | h1
    · exact h.session t h1
    · exact h1 ▸ hok
  commit := h.commit
  chain := h.chain

theorem MachineOk.advance [DecidableEq S.Row] {db₀ : S.Db} {m : Machine S Call}
    (h : MachineOk I spec db₀ m) {sid : Nat} {s : Session S Call} (hs : m.sessions[sid]? = some s)
    (ans : (q : S.Ask) → S.Ans q) : MachineOk I spec db₀ (m.advance sid s ans) := by
  obtain ⟨hwithin, hwp⟩ := h.session s (List.mem_of_getElem? hs)
  have hrefl := I.rely_refl s.held m.db
  have hkeep : ∀ r ∈ s.held, r ∈ s.held ∨ ∀ t ∈ m.sessions, r ∉ t.held := fun r hr => .inl hr
  have hnone : ∀ r ∈ ([] : List S.Row), r ∈ s.held ∨ ∀ t ∈ m.sessions, r ∉ t.held :=
    fun r hr => absurd hr List.not_mem_nil
  unfold Machine.advance
  cases hp : s.prog with
  | done a => exact h.put hs hnone SessionOk.stop
  | throw e => exact h.put hs hnone SessionOk.stop
  | query t k =>
    rw [hp] at hwp
    exact h.put hs hkeep ⟨hwithin, hwp m.db hrefl⟩
  | lock r k =>
    rw [hp] at hwp
    by_cases hfree : r ∈ s.held ∨ m.unlocked r = true
    · simp only [hfree, if_true]
      refine h.put hs ?_ ⟨fun w hw r' hr' => List.mem_cons_of_mem _ (hwithin w hw r' hr'),
        hwp m.db hrefl⟩
      intro r' hr'
      rcases List.mem_cons.mp hr' with heq | hold
      · rcases hfree with hmine | hun
        · exact .inl (heq ▸ hmine)
        · right
          intro t ht
          have := List.all_eq_true.mp hun t ht
          simpa [heq] using this
      · exact .inl hold
    · simpa only [hfree, if_false] using h
  | write w k =>
    rw [hp] at hwp
    refine h.put hs hkeep ⟨?_, hwp.2⟩
    intro w' hw'
    rcases List.mem_append.mp hw' with hold | hnew
    · exact hwithin w' hold
    · rw [List.mem_singleton.mp hnew]; exact hwp.1
  | ask q k =>
    rw [hp] at hwp
    exact h.put hs hkeep ⟨hwithin, hwp _⟩
  | rollback k =>
    rw [hp] at hwp
    exact h.put hs hnone ⟨fun _ hw => absurd hw List.not_mem_nil, hwp⟩
  | commit k =>
    rw [hp] at hwp
    obtain ⟨hspec, hrest⟩ := hwp m.db hrefl
    refine ⟨?_, ?_, ?_, ?_⟩
    · intro i j a b hij ha hb r hra hrb
      rcases getElem?_set_cases ha with ⟨_, rfl⟩ | ⟨_, ha'⟩
      · exact absurd hra List.not_mem_nil
      · rcases getElem?_set_cases hb with ⟨_, rfl⟩ | ⟨_, hb'⟩
        · exact absurd hrb List.not_mem_nil
        · exact h.apart i j a b hij ha' hb' r hra hrb
    · intro t ht
      obtain ⟨i, hi⟩ := List.getElem?_of_mem ht
      rcases getElem?_set_cases hi with ⟨_, rfl⟩ | ⟨hne, hi'⟩
      · exact ⟨fun _ hw => absurd hw List.not_mem_nil, hrest⟩
      · refine (h.session t (List.mem_of_getElem? hi')).env ?_
        exact rely_applyAll hwithin (fun r hr hrs => h.apart i sid t s hne hi' hs r hr hrs) m.db
    · intro c hc
      rcases List.mem_append.mp hc with hold | hnew
      · exact h.commit c hold
      · rw [List.mem_singleton.mp hnew]; exact ⟨hspec, rfl⟩
    · exact h.chain.snoc rfl

theorem MachineOk.step [DecidableEq S.Row] {db₀ : S.Db} {m : Machine S Call}
    (hbody : ∀ call db, wp I (spec call) (body call) anyEnd anyEnd (Ctx.start db))
    (h : MachineOk I spec db₀ m) (ev : Event S Call) :
    MachineOk I spec db₀ (m.step body ev) := by
  cases ev with
  | begin call =>
    refine ⟨?_, ?_, h.commit, h.chain⟩
    · intro i j s t hij hs ht r hrs hrt
      simp only [Machine.step, List.getElem?_append, List.getElem?_singleton] at hs ht
      split at hs
      · split at ht
        · exact h.apart i j s t hij hs ht r hrs hrt
        · split at ht
          · rw [← Option.some.inj ht] at hrt; exact absurd hrt List.not_mem_nil
          · cases ht
      · split at hs
        · rw [← Option.some.inj hs] at hrs; exact absurd hrs List.not_mem_nil
        · cases hs
    · intro s hs
      rcases List.mem_append.mp hs with hold | hnew
      · exact h.session s hold
      · rw [List.mem_singleton.mp hnew]
        exact ⟨fun _ hw => absurd hw List.not_mem_nil, hbody call m.db⟩
  | run sid ans =>
    simp only [Machine.step]
    cases hs : m.sessions[sid]? with
    | none => exact h
    | some s => exact h.advance hs ans
  | crash sid =>
    simp only [Machine.step]
    cases hs : m.sessions[sid]? with
    | none => exact h
    | some s => exact h.put hs (fun r hr => absurd hr List.not_mem_nil) SessionOk.stop

/-- Soundness: in every interleaving every commit kept its call's promise, and the commits form a
chain from the initial database to the current one. -/
theorem wp_history [DecidableEq S.Row]
    (hbody : ∀ call db, wp I (spec call) (body call) anyEnd anyEnd (Ctx.start db))
    (db₀ : S.Db) (evs : List (Event S Call)) :
    MachineOk I spec db₀ ((Machine.init db₀).runs body evs) := by
  have key : ∀ (evs : List (Event S Call)) (m : Machine S Call), MachineOk I spec db₀ m →
      MachineOk I spec db₀ (m.runs body evs) := by
    intro evs
    induction evs with
    | nil => exact fun m h => h
    | cons ev evs ih => exact fun m h => ih _ (h.step hbody ev)
  exact key evs _ (MachineOk.init db₀)

theorem Chain.invariant {Inv : S.Db → Prop} {db db' : S.Db} {cs : List (Commit S Call)}
    (h : Chain db cs db') (hdb : Inv db) (hstep : ∀ c ∈ cs, Inv c.before → Inv c.after) :
    Inv db' := by
  induction cs generalizing db with
  | nil => exact h ▸ hdb
  | cons c cs ih =>
    refine ih h.2 (hstep c List.mem_cons_self (h.1 ▸ hdb)) ?_
    exact fun c' hc' => hstep c' (List.mem_cons_of_mem _ hc')

/-- An invariant that every good commit keeps holds in every run whose commits are all good. -/
theorem runs_invariant [DecidableEq S.Row] (Inv : S.Db → Prop) (Good : Commit S Call → Prop)
    (hbody : ∀ call db, wp I (spec call) (body call) anyEnd anyEnd (Ctx.start db))
    (hstep : ∀ c, CommitOk spec c → Good c → Inv c.before → Inv c.after)
    {db₀ : S.Db} (h₀ : Inv db₀) (evs : List (Event S Call))
    (hgood : ∀ c ∈ ((Machine.init db₀).runs body evs).history, Good c) :
    Inv ((Machine.init db₀).runs body evs).db := by
  have hok := wp_history hbody db₀ evs
  exact hok.chain.invariant h₀ fun c hc => hstep c (hok.commit c hc) (hgood c hc)

/-! ## A run and what follows it -/

theorem Chain.append {a b c : S.Db} {cs cs' : List (Commit S Call)} (h : Chain a cs b)
    (h' : Chain b cs' c) : Chain a (cs ++ cs') c := by
  induction cs generalizing a with
  | nil => exact h ▸ h'
  | cons c₁ cs ih => exact ⟨h.1, ih h.2⟩

/-- What commits that keep the invariant do to the database, taken together. -/
theorem Chain.relation {Inv : S.Db → Prop} {R : S.Db → S.Db → Prop} (hrefl : ∀ db, R db db)
    (htrans : ∀ a b c, R a b → R b c → R a c) {db db' : S.Db} {cs : List (Commit S Call)}
    (h : Chain db cs db') (hdb : Inv db)
    (hstep : ∀ c ∈ cs, Inv c.before → Inv c.after ∧ R c.before c.after) : R db db' := by
  induction cs generalizing db with
  | nil => exact h ▸ hrefl db
  | cons c cs ih =>
    obtain ⟨hinv, hR⟩ := hstep c List.mem_cons_self (h.1 ▸ hdb)
    have hrest := ih h.2 hinv fun c' hc' => hstep c' (List.mem_cons_of_mem _ hc')
    exact h.1 ▸ htrans _ _ _ hR hrest

/-- Every commit of a chain happens on a database that satisfies the invariant. -/
theorem Chain.before {Inv : S.Db → Prop} {db db' : S.Db} {cs : List (Commit S Call)}
    (h : Chain db cs db') (hdb : Inv db) (hstep : ∀ c ∈ cs, Inv c.before → Inv c.after) :
    ∀ c ∈ cs, Inv c.before := by
  induction cs generalizing db with
  | nil => exact fun c hc => absurd hc List.not_mem_nil
  | cons c cs ih =>
    intro c' hc'
    have hbefore : Inv c.before := h.1 ▸ hdb
    rcases List.mem_cons.mp hc' with rfl | hmem
    · exact hbefore
    · exact ih h.2 (hstep c List.mem_cons_self hbefore)
        (fun x hx => hstep x (List.mem_cons_of_mem _ hx)) c' hmem

/-- What commits yield only when they establish `A`, and not once `A` holds, they yield at most
once. -/
theorem Chain.once {γ : Type} {A : S.Db → Prop} {f : Commit S Call → List γ} {db db' : S.Db}
    {cs : List (Commit S Call)} (h : Chain db cs db')
    (hkeep : ∀ c ∈ cs, A c.before → A c.after ∧ f c = [])
    (hyield : ∀ c ∈ cs, f c = [] ∨ (f c).length = 1 ∧ A c.after) :
    (cs.flatMap f).length ≤ 1 ∧ (A db → cs.flatMap f = []) := by
  induction cs generalizing db with
  | nil => exact ⟨Nat.zero_le 1, fun _ => rfl⟩
  | cons c cs ih =>
    obtain ⟨hlen, hnone⟩ := ih h.2 (fun x hx => hkeep x (List.mem_cons_of_mem _ hx))
      fun x hx => hyield x (List.mem_cons_of_mem _ hx)
    rw [List.flatMap_cons, List.length_append]
    refine ⟨?_, fun hA => ?_⟩
    · rcases hyield c List.mem_cons_self with hnil | ⟨hone, hafter⟩
      · rw [hnil]
        simpa using hlen
      · rw [hone, hnone hafter]
        exact Nat.le_refl 1
    · obtain ⟨hafter, hnil⟩ := hkeep c List.mem_cons_self (h.1 ▸ hA)
      rw [hnil, hnone hafter]
      rfl

/-- One event commits at most on top of what has been committed. -/
theorem step_history [DecidableEq S.Row] (body : Call → Prog S Unit) (m : Machine S Call)
    (ev : Event S Call) :
    ∃ cs, (m.step body ev).history = m.history ++ cs ∧ Chain m.db cs (m.step body ev).db := by
  have hsame : ∃ cs, m.history = m.history ++ cs ∧ Chain m.db cs m.db :=
    ⟨[], (List.append_nil _).symm, rfl⟩
  cases ev with
  | begin call => exact hsame
  | crash sid =>
    simp only [Machine.step]
    cases m.sessions[sid]? with
    | none => exact hsame
    | some s => exact hsame
  | run sid ans =>
    simp only [Machine.step]
    cases m.sessions[sid]? with
    | none => exact hsame
    | some s =>
      simp only [Machine.advance]
      cases s.prog with
      | commit k => exact ⟨_, rfl, rfl, rfl⟩
      | lock r k =>
        by_cases hfree : r ∈ s.held ∨ m.unlocked r = true
        · simp only [hfree, if_true]
          exact hsame
        · simp only [hfree, if_false]
          exact hsame
      | _ => exact hsame

theorem runs_history [DecidableEq S.Row] (body : Call → Prog S Unit) (m : Machine S Call)
    (evs : List (Event S Call)) :
    ∃ cs, (m.runs body evs).history = m.history ++ cs ∧ Chain m.db cs (m.runs body evs).db := by
  induction evs generalizing m with
  | nil => exact ⟨[], (List.append_nil _).symm, rfl⟩
  | cons ev evs ih =>
    obtain ⟨cs, hh, hc⟩ := step_history body m ev
    obtain ⟨cs', hh', hc'⟩ := ih (m.step body ev)
    refine ⟨cs ++ cs', ?_, hc.append hc'⟩
    rw [← List.append_assoc, ← hh]
    exact hh'

/-- Between two moments of a run whose commits are all good, the database has moved as one commit
after another moves it. -/
theorem runs_relation [DecidableEq S.Row] (Inv : S.Db → Prop) (R : S.Db → S.Db → Prop)
    (Good : Commit S Call → Prop) (hrefl : ∀ db, R db db)
    (htrans : ∀ a b c, R a b → R b c → R a c)
    (hbody : ∀ call db, wp I (spec call) (body call) anyEnd anyEnd (Ctx.start db))
    (hstep : ∀ c, CommitOk spec c → Good c → Inv c.before → Inv c.after ∧ R c.before c.after)
    {db₀ : S.Db} (h₀ : Inv db₀) (evs evs' : List (Event S Call))
    (hgood : ∀ c ∈ ((Machine.init db₀).runs body (evs ++ evs')).history, Good c) :
    R ((Machine.init db₀).runs body evs).db ((Machine.init db₀).runs body (evs ++ evs')).db := by
  have hsplit : (Machine.init db₀).runs body (evs ++ evs') =
      ((Machine.init db₀).runs body evs).runs body evs' := List.foldl_append
  have hok := wp_history hbody db₀ (evs ++ evs')
  obtain ⟨cs, hh, hc⟩ := runs_history body ((Machine.init db₀).runs body evs) evs'
  rw [← hsplit] at hh hc
  have hkeep : ∀ c ∈ ((Machine.init db₀).runs body (evs ++ evs')).history,
      Inv c.before → Inv c.after ∧ R c.before c.after := fun c hmem =>
    hstep c (hok.commit c hmem) (hgood c hmem)
  rw [hh] at hkeep
  have hinv : Inv ((Machine.init db₀).runs body evs).db :=
    (wp_history hbody db₀ evs).chain.invariant h₀ fun c hmem hbefore =>
      (hkeep c (List.mem_append_left _ hmem) hbefore).1
  exact hc.relation hrefl htrans hinv fun c hmem => hkeep c (List.mem_append_right _ hmem)

/-! ## What has been read -/

/-- What a session has read since its last commit, and what a commit had read, is a database of the run
from which the later one follows. -/
structure ReadsOk (Inv : S.Db → Prop) (R : S.Db → S.Db → Prop) (m : Machine S Call) : Prop where
  current : Inv m.db
  session : ∀ s ∈ m.sessions, ∀ x ∈ s.seen, Inv x.2 ∧ R x.2 m.db
  commit : ∀ c ∈ m.history, Inv c.before ∧ ∀ x ∈ c.seen, Inv x.2 ∧ R x.2 c.before

theorem ReadsOk.put {Inv : S.Db → Prop} {R : S.Db → S.Db → Prop} {m : Machine S Call}
    (h : ReadsOk Inv R m) (hrefl : ∀ db, R db db) {sid : Nat} {s s' : Session S Call}
    (hs : m.sessions[sid]? = some s) (hseen : ∀ x ∈ s'.seen, x ∈ s.seen ∨ x.2 = m.db) :
    ReadsOk Inv R (m.put sid s') where
  current := h.current
  session t ht x hx := by
    rcases List.mem_or_eq_of_mem_set ht with hold | rfl
    · exact h.session t hold x hx
    · rcases hseen x hx with hold | hnew
      · exact h.session s (List.mem_of_getElem? hs) x hold
      · rw [hnew]
        exact ⟨h.current, hrefl m.db⟩
  commit := h.commit

/-- One event: a commit may rely on what it had read. -/
theorem ReadsOk.step [DecidableEq S.Row] {Inv : S.Db → Prop} {R : S.Db → S.Db → Prop}
    {m : Machine S Call} (h : ReadsOk Inv R m) (hrefl : ∀ db, R db db)
    (htrans : ∀ a b c, R a b → R b c → R a c) (ev : Event S Call)
    (hstep : ∀ c ∈ (m.step body ev).history, Inv c.before →
      (∀ x ∈ c.seen, Inv x.2 ∧ R x.2 c.before) → Inv c.after ∧ R c.before c.after) :
    ReadsOk Inv R (m.step body ev) := by
  have hkeep : ∀ {s : Session S Call}, ∀ x ∈ s.seen, x ∈ s.seen ∨ x.2 = m.db := fun x hx => .inl hx
  cases ev with
  | begin call =>
    refine ⟨h.current, fun s hs => ?_, h.commit⟩
    rcases List.mem_append.mp hs with hold | hnew
    · exact h.session s hold
    · rw [List.mem_singleton.mp hnew]
      exact fun x hx => absurd hx List.not_mem_nil
  | crash sid =>
    simp only [Machine.step]
    cases hs : m.sessions[sid]? with
    | none => exact h
    | some s => exact h.put hrefl hs hkeep
  | run sid ans =>
    simp only [Machine.step] at hstep ⊢
    cases hs : m.sessions[sid]? with
    | none => exact h
    | some s =>
      simp only [hs, Machine.advance] at hstep ⊢
      cases hprog : s.prog with
      | done a => exact h.put hrefl hs hkeep
      | throw e => exact h.put hrefl hs hkeep
      | query t k =>
        refine h.put hrefl hs fun x hx => ?_
        rcases List.mem_append.mp hx with hold | hnew
        · exact .inl hold
        · rw [List.mem_singleton.mp hnew]
          exact .inr rfl
      | lock r k =>
        dsimp only
        split
        · exact h.put hrefl hs hkeep
        · exact h
      | write w k => exact h.put hrefl hs hkeep
      | ask q k => exact h.put hrefl hs hkeep
      | rollback k => exact h.put hrefl hs hkeep
      | commit k =>
        simp only [hprog] at hstep ⊢
        have hread := h.session s (List.mem_of_getElem? hs)
        obtain ⟨hafter, hR⟩ := hstep _ (List.mem_append_right _ (List.mem_singleton_self _))
          h.current hread
        refine ⟨hafter, fun t ht x hx => ?_, fun c hc => ?_⟩
        · rcases List.mem_or_eq_of_mem_set ht with hold | rfl
          · obtain ⟨hinv, hbefore⟩ := h.session t hold x hx
            exact ⟨hinv, htrans _ _ _ hbefore hR⟩
          · exact absurd hx List.not_mem_nil
        · rcases List.mem_append.mp hc with hold | hnew
          · exact h.commit c hold
          · rw [List.mem_singleton.mp hnew]
            exact ⟨h.current, hread⟩

/-- A run keeps the invariant when every commit does, given what the commit had read. -/
theorem runs_reads [DecidableEq S.Row] (Inv : S.Db → Prop) (R : S.Db → S.Db → Prop)
    (hrefl : ∀ db, R db db) (htrans : ∀ a b c, R a b → R b c → R a c) {db₀ : S.Db} (h₀ : Inv db₀)
    (evs : List (Event S Call))
    (hstep : ∀ c ∈ ((Machine.init db₀).runs body evs).history, Inv c.before →
      (∀ x ∈ c.seen, Inv x.2 ∧ R x.2 c.before) → Inv c.after ∧ R c.before c.after) :
    ReadsOk Inv R ((Machine.init db₀).runs body evs) := by
  have key : ∀ (evs : List (Event S Call)) (m : Machine S Call), ReadsOk Inv R m →
      (∀ c ∈ (m.runs body evs).history, Inv c.before →
        (∀ x ∈ c.seen, Inv x.2 ∧ R x.2 c.before) → Inv c.after ∧ R c.before c.after) →
      ReadsOk Inv R (m.runs body evs) := by
    intro evs
    induction evs with
    | nil => exact fun m h _ => h
    | cons ev evs ih =>
      intro m h hstep
      obtain ⟨cs, hh, -⟩ := runs_history body (m.step body ev) evs
      have hhere : ∀ c ∈ (m.step body ev).history, c ∈ (m.runs body (ev :: evs)).history := by
        intro c hc
        show c ∈ ((m.step body ev).runs body evs).history
        rw [hh]
        exact List.mem_append_left _ hc
      exact ih _ (h.step hrefl htrans ev fun c hc => hstep c (hhere c hc)) hstep
  refine key evs _ ⟨h₀, ?_, ?_⟩ hstep
  · exact fun s hs => absurd hs List.not_mem_nil
  · exact fun c hc => absurd hc List.not_mem_nil

end Soundness

/-! ## One after the other -/

section Serial

variable (body : Call → Prog S Unit)

/-- The commit has read the database it happened on. -/
def ReadCurrent (c : Commit S Call) : Prop := ∀ x ∈ c.seen, x.2 = c.before

/-- Session `sid` has read the current database, and so had every commit its own. -/
structure SerialOk (m : Machine S Call) (sid : Nat) : Prop where
  session : ∀ s, m.sessions[sid]? = some s → ∀ x ∈ s.seen, x.2 = m.db
  commit : ∀ c ∈ m.history, ReadCurrent c

theorem SerialOk.put {m : Machine S Call} {sid : Nat} {s s' : Session S Call} (h : SerialOk m sid)
    (hs : m.sessions[sid]? = some s) (hseen : ∀ x ∈ s'.seen, x ∈ s.seen ∨ x.2 = m.db) :
    SerialOk (m.put sid s') sid where
  session t ht x hx := by
    rcases getElem?_set_cases ht with ⟨-, rfl⟩ | ⟨hne, -⟩
    · rcases hseen x hx with hold | hnew
      · exact h.session s hs x hold
      · exact hnew
    · exact absurd rfl hne
  commit := h.commit

theorem SerialOk.advance [DecidableEq S.Row] {m : Machine S Call} {sid : Nat} {s : Session S Call}
    (h : SerialOk m sid) (hs : m.sessions[sid]? = some s) (ans : (q : S.Ask) → S.Ans q) :
    SerialOk (m.advance sid s ans) sid := by
  have hkeep : ∀ x ∈ s.seen, x ∈ s.seen ∨ x.2 = m.db := fun x hx => .inl hx
  unfold Machine.advance
  cases s.prog with
  | done a => exact h.put hs hkeep
  | throw e => exact h.put hs hkeep
  | query t k =>
    refine h.put hs fun x hx => ?_
    rcases List.mem_append.mp hx with hold | hnew
    · exact .inl hold
    · rw [List.mem_singleton.mp hnew]
      exact .inr rfl
  | lock r k =>
    by_cases hfree : r ∈ s.held ∨ m.unlocked r = true
    · simp only [hfree, if_true]
      exact h.put hs hkeep
    · simpa only [hfree, if_false] using h
  | write w k => exact h.put hs hkeep
  | ask q k => exact h.put hs hkeep
  | rollback k => exact h.put hs hkeep
  | commit k =>
    refine ⟨fun t ht x hx => ?_, fun c hc => ?_⟩
    · rcases getElem?_set_cases ht with ⟨-, rfl⟩ | ⟨hne, -⟩
      · exact absurd hx List.not_mem_nil
      · exact absurd rfl hne
    · rcases List.mem_append.mp hc with hold | hnew
      · exact h.commit c hold
      · rw [List.mem_singleton.mp hnew]
        exact fun x hx => h.session s hs x hx

theorem length_advance [DecidableEq S.Row] (m : Machine S Call) (sid : Nat) (s : Session S Call)
    (ans : (q : S.Ask) → S.Ans q) : (m.advance sid s ans).sessions.length = m.sessions.length := by
  unfold Machine.advance
  cases s.prog with
  | lock r k =>
    by_cases hfree : r ∈ s.held ∨ m.unlocked r = true
    · simp [hfree, Machine.put]
    · simp [hfree]
  | _ => simp [Machine.put]

theorem SerialOk.runs [DecidableEq S.Row] {m : Machine S Call} {sid : Nat} (h : SerialOk m sid)
    (answers : List ((q : S.Ask) → S.Ans q)) :
    SerialOk (m.runs body (answers.map (.run sid))) sid ∧
      (m.runs body (answers.map (.run sid))).sessions.length = m.sessions.length := by
  induction answers generalizing m with
  | nil => exact ⟨h, rfl⟩
  | cons ans answers ih =>
    have hstep : SerialOk (m.step body (.run sid ans)) sid ∧
        (m.step body (.run sid ans)).sessions.length = m.sessions.length := by
      simp only [Machine.step]
      cases hs : m.sessions[sid]? with
      | none => exact ⟨h, rfl⟩
      | some s => exact ⟨h.advance hs ans, length_advance m sid s ans⟩
    obtain ⟨h1, h2⟩ := ih hstep.1
    exact ⟨h1, h2.trans hstep.2⟩

/-- When calls run one after the other, every commit has read the database it happens on. -/
theorem serial_readCurrent [DecidableEq S.Row] (db₀ : S.Db)
    (calls : List (Call × List ((q : S.Ask) → S.Ans q))) :
    ∀ c ∈ ((Machine.init db₀).runs body (serial calls)).history, ReadCurrent c := by
  have key : ∀ (calls : List (Call × List ((q : S.Ask) → S.Ans q))) (m : Machine S Call),
      (∀ c ∈ m.history, ReadCurrent c) →
      ∀ c ∈ (m.runs body (serialFrom m.sessions.length calls)).history, ReadCurrent c := by
    intro calls
    induction calls with
    | nil => exact fun m h => h
    | cons head calls ih =>
      intro m h
      obtain ⟨call, answers⟩ := head
      have hbegin : SerialOk (m.step body (.begin call)) m.sessions.length := by
        refine ⟨fun s hs x hx => ?_, h⟩
        rw [show s = Session.start body call by simpa [Machine.step] using hs.symm] at hx
        exact absurd hx List.not_mem_nil
      obtain ⟨hruns, hlen⟩ := hbegin.runs body answers
      have hlen' : (((m.step body (.begin call)).runs body
          (answers.map (.run m.sessions.length))).sessions.length) = m.sessions.length + 1 := by
        rw [hlen]
        simp [Machine.step]
      have hrest := ih _ hruns.commit
      rw [hlen'] at hrest
      rw [serialFrom, Machine.runs, List.foldl_append, List.foldl_cons]
      exact hrest
  exact key calls (Machine.init db₀) fun c hc => absurd hc List.not_mem_nil

end Serial

end Transaction
