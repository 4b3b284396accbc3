/-!
# Procedures that throw

A procedure changes a state and ends with a result or with what it throws; the state that it has left
remains in either case.
-/

variable {S V α β : Type}

def Procedure (S V α : Type) := S → Except V α × S

namespace Procedure

instance : Monad (Procedure S V) where
  pure a := fun s => (.ok a, s)
  bind x g := fun s =>
    match x s with
    | (.ok a, s') => g a s'
    | (.error e, s') => (.error e, s')

def throw (e : V) : Procedure S V α := fun s => (.error e, s)

/-- What is computed without the state. -/
def lift (x : Except V α) : Procedure S V α := fun s => (x, s)

def require (condition : Bool) (e : V) : Procedure S V Unit :=
  if condition then pure () else throw e

def assign (change : S → S) : Procedure S V Unit := fun s => (.ok (), change s)

/-- `catch` with what the handler throws. -/
def rethrow (x : Procedure S V α) (handler : V → V) : Procedure S V α := fun s =>
  match x s with
  | (.ok a, s') => (.ok a, s')
  | (.error e, s') => (.error (handler e), s')

/-- `finally`, where what the last part throws takes the place of what came before. -/
def finallyDo (x : Procedure S V α) (last : Procedure S V Unit) : Procedure S V α := fun s =>
  match last (x s).2 with
  | (.ok _, s') => ((x s).1, s')
  | (.error e, s') => (.error e, s')

/-! ## Results -/

variable {x : Procedure S V α} {g : α → Procedure S V β} {s s' : S} {a : α} {b : β}

theorem bind_apply : (x >>= g) s =
    match x s with
    | (.ok a, s') => g a s'
    | (.error e, s') => (.error e, s') := rfl

theorem pure_ok {a' : α} (h : (pure a : Procedure S V α) s = (.ok a', s')) : a' = a ∧ s' = s := by
  cases h
  exact ⟨rfl, rfl⟩

theorem bind_ok (h : (x >>= g) s = (.ok b, s')) : ∃ a s₁, x s = (.ok a, s₁) ∧ g a s₁ = (.ok b, s') := by
  rw [bind_apply] at h
  cases hx : x s with
  | mk r s₁ =>
    rw [hx] at h
    cases r with
    | error e => cases h
    | ok a => exact ⟨a, s₁, rfl, h⟩

theorem lift_ok {r : Except V α} (h : (lift r : Procedure S V α) s = (.ok a, s')) :
    r = .ok a ∧ s' = s := by
  cases h
  exact ⟨rfl, rfl⟩

theorem lift_state {r t : Except V α} (h : (lift r : Procedure S V α) s = (t, s')) : s' = s := by
  cases h
  rfl

theorem require_ok {condition : Bool} {e : V} {u : Unit}
    (h : (require condition e : Procedure S V Unit) s = (.ok u, s')) : condition = true ∧ s' = s := by
  rw [require] at h
  split at h
  · next hc =>
    cases h
    exact ⟨hc, rfl⟩
  · cases h

/-! ## What every run keeps -/

/-- A property of states that holds after the procedure, however it ends. -/
def Keeps (I : S → Prop) (x : Procedure S V α) : Prop := ∀ s, I s → I (x s).2

namespace Keeps

variable {I : S → Prop}

theorem pure (a : α) : Keeps I (Pure.pure a : Procedure S V α) := fun _ hs => hs

theorem throw (e : V) : Keeps I (Procedure.throw e : Procedure S V α) := fun _ hs => hs

theorem lift (r : Except V α) : Keeps I (Procedure.lift r : Procedure S V α) := fun _ hs => hs

theorem require (condition : Bool) (e : V) :
    Keeps I (Procedure.require condition e : Procedure S V Unit) := by
  rw [Procedure.require]
  split
  · exact pure ()
  · exact throw e

theorem bind (hx : Keeps I x) (hg : ∀ a, Keeps I (g a)) : Keeps I (x >>= g) := by
  intro s hs
  have hmid := hx s hs
  rw [bind_apply]
  cases hr : x s with
  | mk r s₁ =>
    rw [hr] at hmid
    cases r with
    | error e => exact hmid
    | ok a => exact hg a s₁ hmid

end Keeps

end Procedure
