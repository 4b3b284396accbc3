import Mathlib.Data.List.Sort
import SubscriptionSaas.Lib.Tables

/-!
# Logs that explain a value

A value changes by steps, and each step leaves an entry in a log: its number, the value before and
the value after. `History` says that the log explains the value: the entries are numbered from one
without a gap, each begins where the one before it ended, and the last ends at the value.
-/

namespace Histories

open Tables

variable {ε τ : Type}

/-- The rows are numbered from one, in their order. -/
def Numbered (number : ε → Nat) (rows : List ε) : Prop :=
  ∀ k row, rows[k]? = some row → number row = k + 1

/-- The log explains the current value. -/
structure History (number : ε → Nat) (before : ε → Option τ) (after : ε → τ) (log : List ε)
    (current : τ) : Prop where
  numbered : Numbered number log
  first : ∀ e, log[0]? = some e → before e = none
  linked : ∀ k e e', log[k]? = some e → log[k + 1]? = some e' → before e' = some (after e)
  last : log.getLast?.map after = some current

variable {number : ε → Nat} {before : ε → Option τ} {after : ε → τ} {log rows : List ε}
  {current : τ} {e row : ε}

theorem Numbered.nil : Numbered number [] := nofun

/-- A row with the next number keeps the rows numbered. -/
theorem Numbered.append (h : Numbered number rows) (hrow : number row = rows.length + 1) :
    Numbered number (rows ++ [row]) := by
  intro k r hr
  rcases get_append hr with hr | ⟨rfl, rfl⟩
  · exact h k r hr
  · exact hrow

/-- The last row of a numbered table bears the number of the rows. -/
theorem Numbered.last (h : Numbered number rows) : (rows.getLast?.map number).getD 0 = rows.length := by
  rcases List.eq_nil_or_concat rows with rfl | ⟨init, row, rfl⟩
  · rfl
  · rw [List.concat_eq_append] at h ⊢
    rw [List.getLast?_concat, List.length_append, List.length_singleton]
    exact h init.length row List.getElem?_concat_length

/-- Numbers tell the rows apart. -/
theorem Numbered.eq (h : Numbered number rows) {row' : ε} (hrow : row ∈ rows) (hrow' : row' ∈ rows)
    (heq : number row = number row') : row = row' := by
  obtain ⟨k, hk⟩ := List.mem_iff_getElem?.1 hrow
  obtain ⟨k', hk'⟩ := List.mem_iff_getElem?.1 hrow'
  rw [h k row hk, h k' row' hk', Nat.add_right_cancel_iff] at heq
  subst heq
  exact Option.some.inj (hk.symm.trans hk')

/-- The last row, where it is among those that are looked for, comes first from the highest number
down. -/
theorem Numbered.latest (h : Numbered number rows) {p : ε → Bool} (hlast : rows.getLast? = some row)
    (hp : p row = true) :
    ((rows.filter p).insertionSort fun a b => number b ≤ number a).head? = some row := by
  have hmem : row ∈ rows := List.mem_of_getLast? hlast
  have hnumber : number row = rows.length := by
    rw [← h.last, hlast]
    rfl
  refine head?_insertionSort (List.mem_filter.2 ⟨hmem, hp⟩) fun row' hrow' hle => ?_
  have hmem' : row' ∈ rows := (List.mem_filter.1 hrow').1
  obtain ⟨k, hk⟩ := List.mem_iff_getElem?.1 hmem'
  have hlt := get_lt hk
  have hk' := h k row' hk
  exact h.eq hmem' hmem (by omega)

/-- The first entry begins the history. -/
theorem History.single (hnumber : number e = 1) (hbefore : before e = none) :
    History number before after [e] (after e) where
  numbered := Numbered.nil.append hnumber
  first := by
    rintro e' he
    cases he
    exact hbefore
  linked := by
    rintro k e' e'' - he
    simp at he
  last := rfl

/-- An entry with the next number continues the history from the current value. -/
theorem History.append (h : History number before after log current)
    (hnumber : number e = log.length + 1) (hbefore : before e = some current) :
    History number before after (log ++ [e]) (after e) where
  numbered := h.numbered.append hnumber
  first := by
    intro e' he
    rcases get_append he with he | ⟨hlen, -⟩
    · exact h.first e' he
    · have hlast := h.last
      rw [List.length_eq_zero_iff.1 hlen.symm] at hlast
      cases hlast
  linked := by
    intro k e₁ e₂ he₁ he₂
    rcases get_append he₂ with hold₂ | ⟨hk, rfl⟩
    · rcases get_append he₁ with hold₁ | ⟨hk, -⟩
      · exact h.linked k e₁ e₂ hold₁ hold₂
      · have hlt := get_lt hold₂
        omega
    · rcases get_append he₁ with hold₁ | ⟨hk', -⟩
      · have hlast := h.last
        rw [List.getLast?_eq_getElem?, ← hk, Nat.add_sub_cancel, hold₁] at hlast
        rw [hbefore, ← hlast]
        rfl
      · omega
  last := by
    rw [List.getLast?_concat]
    rfl

end Histories
