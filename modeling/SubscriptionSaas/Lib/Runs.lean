import Mathlib.Data.List.Basic

/-!
# Runs of a deterministic machine

A machine is a step function on states; a run feeds it a list of events. `Along Good s evs` says that
every event of the run from `s` satisfies `Good` in the state in which it happens, which is how an
assumption about the environment of a machine is stated.
-/

namespace Runs

variable {σ ε : Type} (step : σ → ε → σ)

/-- The state after the events. -/
def runs (s : σ) (evs : List ε) : σ := evs.foldl step s

@[simp] theorem runs_nil (s : σ) : runs step s [] = s := rfl

@[simp] theorem runs_cons (s : σ) (e : ε) (evs : List ε) :
    runs step s (e :: evs) = runs step (step s e) evs := rfl

theorem runs_append (s : σ) (evs evs' : List ε) :
    runs step s (evs ++ evs') = runs step (runs step s evs) evs' := List.foldl_append

/-- Every event of the run happens in a state that suits it. -/
def Along (Good : σ → ε → Prop) : σ → List ε → Prop
  | _, [] => True
  | s, e :: evs => Good s e ∧ Along Good (step s e) evs

variable {step} {Good Good' : σ → ε → Prop}

instance [∀ s e, Decidable (Good s e)] : ∀ (s : σ) (evs : List ε), Decidable (Along step Good s evs)
  | _, [] => isTrue trivial
  | s, e :: evs =>
    have := instDecidableAlong (step s e) evs
    inferInstanceAs (Decidable (Good s e ∧ Along step Good (step s e) evs))

theorem Along.and {s : σ} {evs : List ε} (h : Along step Good s evs)
    (h' : Along step Good' s evs) : Along step (fun s e => Good s e ∧ Good' s e) s evs := by
  induction evs generalizing s with
  | nil => trivial
  | cons e evs ih => exact ⟨⟨h.1, h'.1⟩, ih h.2 h'.2⟩

theorem Along.mono {s : σ} {evs : List ε} (h : Along step Good s evs)
    (hgood : ∀ s e, Good s e → Good' s e) : Along step Good' s evs := by
  induction evs generalizing s with
  | nil => trivial
  | cons e evs ih => exact ⟨hgood s e h.1, ih h.2⟩

theorem Along.of_forall {s : σ} {evs : List ε} (h : ∀ e ∈ evs, ∀ s, Good s e) :
    Along step Good s evs := by
  induction evs generalizing s with
  | nil => trivial
  | cons e evs ih =>
    exact ⟨h e List.mem_cons_self s, ih fun e' he' => h e' (List.mem_cons_of_mem e he')⟩

theorem Along.append {s : σ} {evs evs' : List ε} :
    Along step Good s (evs ++ evs') ↔
      Along step Good s evs ∧ Along step Good (runs step s evs) evs' := by
  induction evs generalizing s with
  | nil => exact ⟨fun h => ⟨trivial, h⟩, fun h => h.2⟩
  | cons e evs ih =>
    show Good s e ∧ Along step Good (step s e) (evs ++ evs') ↔ _
    rw [ih, ← and_assoc]
    rfl

/-- What every suitable event preserves holds after every run of suitable events. -/
theorem runs_invariant (Inv : σ → Prop) (hstep : ∀ s e, Good s e → Inv s → Inv (step s e)) {s : σ}
    (hs : Inv s) {evs : List ε} (h : Along step Good s evs) : Inv (runs step s evs) := by
  induction evs generalizing s with
  | nil => exact hs
  | cons e evs ih => exact ih (hstep s e h.1 hs) h.2

/-- What every event preserves holds after every run. -/
theorem runs_always (Inv : σ → Prop) (hstep : ∀ s e, Inv s → Inv (step s e)) {s : σ} (hs : Inv s)
    (evs : List ε) : Inv (runs step s evs) := by
  induction evs generalizing s with
  | nil => exact hs
  | cons e evs ih => exact ih (hstep s e hs)

end Runs
