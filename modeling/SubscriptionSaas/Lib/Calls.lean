import SubscriptionSaas.Lib.Procedures

/-!
# Calls of asynchronous code

A run of asynchronous code, with its variables and a log of the calls that it has made of what is outside
of it. The environment responds to a call in view of the calls before it: with a promise that resolves or
rejects, or without one.
-/

namespace Calls

variable {C V σ α : Type}

/-- The response to a call, of which the first two are promises. -/
inductive Response (V : Type)
  | resolves (value : V)
  | rejects (error : V)
  | returns (value : V)
  | throws (error : V)
  deriving DecidableEq

namespace Response

def isPromise : Response V → Bool
  | resolves _ | rejects _ => true
  | returns _ | throws _ => false

def fails : Response V → Bool
  | rejects _ | throws _ => true
  | resolves _ | returns _ => false

/-- The result of `await` on the call. -/
def awaited : Response V → Except V V
  | resolves value | returns value => .ok value
  | rejects error | throws error => .error error

end Response

structure Frame (C V σ : Type) where
  calls : List (C × Response V)
  vars : σ

/-- A run up to its end or to what it throws. -/
abbrev Run (C V σ α : Type) := Procedure (Frame C V σ) V α

/-- The response to each call, given the calls before it. -/
abbrev Environment (C V : Type) := List (C × Response V) → C → Response V

namespace Run

def setVars (change : σ → σ) : Run C V σ Unit :=
  Procedure.assign fun f => { f with vars := change f.vars }

def getVars : Run C V σ σ := fun f => (.ok f.vars, f)

/-- A call with the response to it. -/
def call (E : Environment C V) (c : C) : Run C V σ (Response V) :=
  fun f => (.ok (E f.calls c), { f with calls := f.calls ++ [(c, E f.calls c)] })

/-- `await` on a call. -/
def await (E : Environment C V) (c : C) : Run C V σ V := do
  let response ← call E c
  Procedure.lift response.awaited

variable {I : Frame C V σ → Prop} {E : Environment C V} {c : C}

theorem keeps_call (hc : ∀ f, I f → ∀ r, I { f with calls := f.calls ++ [(c, r)] }) :
    Procedure.Keeps I (call E c) :=
  fun f hf => hc f hf _

theorem keeps_await (hc : ∀ f, I f → ∀ r, I { f with calls := f.calls ++ [(c, r)] }) :
    Procedure.Keeps I (await E c) :=
  .bind (keeps_call hc) fun _ => .lift _

end Run

end Calls
