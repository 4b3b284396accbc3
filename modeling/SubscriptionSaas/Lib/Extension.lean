import SubscriptionSaas.Lib.Proofs.TransactionProofs

/-!
# More statements on the same database

Two families of programs may share a database without sharing a signature: one of them issues write
statements, locks rows and asks questions that the other knows nothing about. `Sig.extend` adds what
the second family needs, and `Prog.lift` runs a program of the first family among them.

What has been shown of a program over the small signature carries over: `wp_lift` says that a lifted
program keeps its duty when the extended isolation protects at least what the small one does.
-/

namespace Transaction

/-- What a signature is extended with. -/
structure Addition (S : Sig) where
  /-- Further write statements. -/
  Write : Type
  /-- Their effect. -/
  apply : Write → S.Db → S.Db
  /-- Further rows that can be locked. -/
  Row : Type
  /-- Further questions. -/
  Ask : Type
  /-- Their answers. -/
  Ans : Ask → Type

/-- The signature with the statements of `X` added. -/
abbrev Sig.extend (S : Sig) (X : Addition S) : Sig where
  Db := S.Db
  Write := S.Write ⊕ X.Write
  apply := Sum.elim S.apply X.apply
  Row := S.Row ⊕ X.Row
  Tag := S.Tag
  Ask := S.Ask ⊕ X.Ask
  Ans := Sum.elim S.Ans X.Ans
  Err := S.Err

variable {S : Sig} {X : Addition S} {α : Type}

/-- The program among those of the extended signature. -/
def Prog.lift : Prog S α → Prog (S.extend X) α
  | .done a => .done a
  | .throw e => .throw e
  | .query t k => .query t fun db => (k db).lift
  | .lock r k => .lock (.inl r) k.lift
  | .write w k => .write (.inl w) k.lift
  | .ask q k => .ask (.inl q) fun a => (k a).lift
  | .commit k => .commit k.lift
  | .rollback k => .rollback k.lift

/-- The extended isolation protects at least what the small one does, and the old statements touch
the rows they always have. -/
structure Isolation.Extends (I' : Isolation (S.extend X)) (I : Isolation S) : Prop where
  same : ∀ r a b, I'.same (.inl r) a b → I.same r a b
  touches : ∀ w, I'.touches (.inl w) = (I.touches w).map .inl
  frame : ∀ a b, I'.frame a b → I.frame a b

/-- The duty of a program among those of the extended signature: its writes are old ones. -/
def Duty.lift (C : Duty S) : Duty (S.extend X) := fun seen before ws =>
  ∃ old, ws = old.map .inl ∧ C seen before old

/-- The state of a transaction that has used old statements only. -/
def Ctx.lift (c : Ctx S) : Ctx (S.extend X) :=
  ⟨c.held.map .inl, c.pending.map .inl, c.seen, c.db⟩

/-- Old writes do what they always have. -/
theorem applyAll_lift (ws : List S.Write) (db : S.Db) :
    applyAll (S.extend X) (ws.map .inl) db = applyAll S ws db := by
  rw [applyAll, List.foldl_map]
  rfl

theorem Isolation.Extends.rely {I : Isolation S} {I' : Isolation (S.extend X)} (h : I'.Extends I)
    {held : List S.Row} {a b : S.Db} (hr : I'.Rely (held.map .inl) a b) : I.Rely held a b :=
  ⟨h.frame a b hr.1, fun r hmem => h.same r a b (hr.2 (.inl r) (List.mem_map_of_mem hmem))⟩

/-- A lifted program keeps its duty. -/
theorem wp_lift {I : Isolation S} {I' : Isolation (S.extend X)} (h : I'.Extends I) {C : Duty S}
    {p : Prog S α} {c : Ctx S} :
    wp I C p anyEnd anyEnd c → wp I' C.lift p.lift anyEnd anyEnd c.lift := by
  induction p generalizing c with
  | done a => exact fun _ => trivial
  | throw e => exact fun _ => trivial
  | query t k ih =>
    intro hp db hr
    have hold := ih _ (hp db (h.rely hr))
    rw [Ctx.lift, applyAll_lift]
    exact hold
  | lock r k ih => exact fun hp db hr => ih (hp db (h.rely hr))
  | write w k ih =>
    intro hp
    refine ⟨fun r hr => ?_, ?_⟩
    · rw [h.touches] at hr
      obtain ⟨r₀, hr₀, rfl⟩ := List.mem_map.mp hr
      exact List.mem_map_of_mem (hp.1 r₀ hr₀)
    · have hold := ih hp.2
      rw [Ctx.lift, List.map_append] at hold
      exact hold
  | ask q k ih => exact fun hp a => ih a (hp a)
  | commit k ih =>
    intro hp db hr
    obtain ⟨hduty, hrest⟩ := hp db (h.rely hr)
    refine ⟨⟨c.pending, rfl, hduty⟩, ?_⟩
    have hold := ih hrest
    rw [Ctx.lift] at hold ⊢
    rw [applyAll_lift]
    exact hold
  | rollback k ih => exact fun hp => ih hp

end Transaction
