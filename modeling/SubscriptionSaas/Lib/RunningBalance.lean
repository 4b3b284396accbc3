import Mathlib.Algebra.BigOperators.Group.List.Basic
import Mathlib.Algebra.Order.BigOperators.Group.List
import Mathlib.Algebra.Order.Group.Int
import Mathlib.Algebra.Ring.Int.Defs

/-!
# Running balances

A statement of account: rows with a signed amount, each of which also states the balance after it.
`RunsFrom b rows` says that the stated balances are the running sums of the amounts, started at `b`,
and that none of them is negative.
-/

namespace RunningBalance

variable {α : Type} (signed after : α → Int)

/-- The stated balances are the running sums from `b` on, and none is negative. -/
def RunsFrom : Int → List α → Prop
  | _, [] => True
  | b, a :: as => after a = b + signed a ∧ 0 ≤ after a ∧ RunsFrom (after a) as

instance decidableRunsFrom : ∀ b rows, Decidable (RunsFrom signed after b rows)
  | _, [] => .isTrue trivial
  | b, a :: as =>
    have := decidableRunsFrom (after a) as
    inferInstanceAs (Decidable (after a = b + signed a ∧ 0 ≤ after a ∧ RunsFrom signed after _ as))

/-- The balance the rows add up to. -/
def total (rows : List α) : Int := (rows.map signed).sum

variable {signed after}

@[simp] theorem total_nil : total signed ([] : List α) = 0 := rfl

@[simp] theorem total_cons (a : α) (as : List α) :
    total signed (a :: as) = signed a + total signed as := by
  simp [total]

@[simp] theorem total_append (as bs : List α) :
    total signed (as ++ bs) = total signed as + total signed bs := by
  simp [total]

theorem runsFrom_append {b : Int} {as bs : List α} :
    RunsFrom signed after b (as ++ bs) ↔
      RunsFrom signed after b as ∧ RunsFrom signed after (b + total signed as) bs := by
  induction as generalizing b with
  | nil => simp [RunsFrom]
  | cons a as ih =>
    simp only [List.cons_append, RunsFrom, ih, total_cons]
    constructor
    · rintro ⟨h1, h2, h3, h4⟩
      rw [h1, add_assoc] at h4
      exact ⟨⟨h1, h2, h3⟩, h4⟩
    · rintro ⟨⟨h1, h2, h3⟩, h4⟩
      refine ⟨h1, h2, h3, ?_⟩
      rw [h1, add_assoc]
      exact h4

/-- A statement of account can be continued by a row that states the new balance. -/
theorem runsFrom_snoc {b : Int} {rows : List α} {a : α} (h : RunsFrom signed after b rows)
    (hafter : after a = b + total signed rows + signed a) (hpos : 0 ≤ after a) :
    RunsFrom signed after b (rows ++ [a]) :=
  runsFrom_append.mpr ⟨h, hafter, hpos, trivial⟩

/-- Each row states the sum of the rows up to and including it. -/
theorem RunsFrom.after_eq {b : Int} {as bs : List α} {a : α}
    (h : RunsFrom signed after b (as ++ a :: bs)) : after a = b + total signed (as ++ [a]) := by
  obtain ⟨-, h2, -, -⟩ := runsFrom_append.mp h
  rw [h2, total_append, total_cons, total_nil]
  omega

/-- The balance is never negative. -/
theorem RunsFrom.total_nonneg {b : Int} {rows : List α} (hb : 0 ≤ b)
    (h : RunsFrom signed after b rows) : 0 ≤ b + total signed rows := by
  induction rows generalizing b with
  | nil => simpa using hb
  | cons a as ih =>
    obtain ⟨h1, h2, h3⟩ := h
    have := ih h2 h3
    rw [total_cons]
    omega

/-- Without negative amounts the balances grow. -/
theorem RunsFrom.pairwise_le {b : Int} {rows : List α} (h : RunsFrom signed after b rows)
    (hpos : ∀ a ∈ rows, 0 ≤ signed a) : rows.Pairwise fun a a' => after a ≤ after a' := by
  have hfrom : ∀ (b : Int) (rows : List α), RunsFrom signed after b rows →
      (∀ a ∈ rows, 0 ≤ signed a) →
      (∀ a ∈ rows, b ≤ after a) ∧ rows.Pairwise fun a a' => after a ≤ after a' := by
    intro b rows h hpos
    induction rows generalizing b with
    | nil => exact ⟨nofun, .nil⟩
    | cons a as ih =>
      obtain ⟨hafter, -, hrest⟩ := h
      have ha := hpos a List.mem_cons_self
      obtain ⟨hle, hpair⟩ := ih (after a) hrest fun a' ha' => hpos a' (List.mem_cons_of_mem a ha')
      constructor
      · intro a' ha'
        rcases List.mem_cons.1 ha' with rfl | ha'
        · omega
        · have := hle a' ha'
          omega
      · exact List.pairwise_cons.2 ⟨hle, hpair⟩
  exact (hfrom b rows h hpos).2

/-- The last row states the balance of all. -/
theorem RunsFrom.last_eq {b : Int} {rows : List α} {a : α} (h : RunsFrom signed after b rows)
    (hlast : rows.getLast? = some a) : after a = b + total signed rows := by
  obtain ⟨as, rfl⟩ := List.getLast?_eq_some_iff.1 hlast
  rw [h.after_eq]

end RunningBalance
