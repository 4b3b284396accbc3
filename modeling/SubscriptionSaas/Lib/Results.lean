/-!
# Results of operations

An operation that can fail yields an `Except`. These lemmas take an operation that has succeeded apart.
-/

namespace Results

variable {ε α β : Type}

/-- A sequence succeeds when its parts do. -/
theorem bind_ok {x : Except ε α} {f : α → Except ε β} {b : β} (h : x >>= f = .ok b) :
    ∃ a, x = .ok a ∧ f a = .ok b := by
  cases x with
  | error e => cases h
  | ok a => exact ⟨a, rfl, h⟩

theorem bind_eq {x : Except ε α} {f : α → Except ε β} {a : α} (h : x = .ok a) :
    (x >>= f) = f a := by
  rw [h]
  rfl

theorem bind_ok_iff {x : Except ε α} {f : α → Except ε β} {b : β} :
    x >>= f = .ok b ↔ ∃ a, x = .ok a ∧ f a = .ok b := by
  constructor
  · exact bind_ok
  · rintro ⟨a, hx, hf⟩
    exact (bind_eq hx).trans hf

/-- A guard that fails the operation did not apply. -/
theorem guard_ok {c : Prop} [Decidable c] {e : ε} {x : Except ε α} {a : α}
    (h : (if c then .error e else x) = .ok a) : ¬c ∧ x = .ok a := by
  by_cases hc : c
  · rw [if_pos hc] at h
    cases h
  · rw [if_neg hc] at h
    exact ⟨hc, h⟩

/-- A guard that the operation depends on did apply. -/
theorem check_ok {c : Prop} [Decidable c] {e : ε} {x : Except ε α} {a : α}
    (h : (if c then x else .error e) = .ok a) : c ∧ x = .ok a := by
  by_cases hc : c
  · rw [if_pos hc] at h
    exact ⟨hc, h⟩
  · rw [if_neg hc] at h
    cases h

/-- A result that satisfies a test is there. -/
theorem ok_of_any {x : Except ε α} {p : α → Bool} (h : x.toOption.any p = true) :
    ∃ a, x = .ok a ∧ p a = true := by
  cases x with
  | error e => cases h
  | ok a => exact ⟨a, rfl, h⟩

/-! ## Requirements -/

/-- `if (!condition) throw error`. -/
def require (condition : Bool) (error : ε) : Except ε Unit :=
  if condition then .ok () else .error error

theorem require_ok {c : Bool} {error : ε} {u : Unit} (h : require c error = .ok u) : c = true :=
  (check_ok h).1

/-- What follows a requirement succeeds exactly when the requirement is met. -/
@[simp] theorem require_bind {c : Bool} {error : ε} {f : Unit → Except ε α} {a : α} :
    (require c error >>= f) = .ok a ↔ c = true ∧ f () = .ok a := by
  cases c with
  | false =>
    constructor
    · intro h
      cases h
    · rintro ⟨h, -⟩
      cases h
  | true => exact ⟨fun h => ⟨rfl, h⟩, fun h => h.2⟩

/-! ## Folds -/

/-- A fold that succeeds has succeeded for each element, and what grows with each grows over all. -/
theorem foldlM_grows {f : β → α → Except ε β} {R : β → β → Prop} (hrefl : ∀ b, R b b)
    (htrans : ∀ a b c, R a b → R b c → R a c) (hstep : ∀ b a b', f b a = .ok b' → R b b') {xs : List α}
    {b b' : β} (h : xs.foldlM f b = .ok b') :
    R b b' ∧ ∀ a ∈ xs, ∃ c c', f c a = .ok c' ∧ R c' b' := by
  induction xs generalizing b with
  | nil =>
    obtain rfl := Except.ok.inj h
    exact ⟨hrefl b, nofun⟩
  | cons x xs ih =>
    rw [List.foldlM_cons] at h
    obtain ⟨c, hx, hrest⟩ := bind_ok h
    obtain ⟨hgrows, hall⟩ := ih hrest
    refine ⟨htrans _ _ _ (hstep _ _ _ hx) hgrows, List.forall_mem_cons.2 ⟨⟨b, c, hx, hgrows⟩, hall⟩⟩

end Results
