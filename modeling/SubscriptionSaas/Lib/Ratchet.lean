import Mathlib.Data.List.Basic
import Mathlib.Order.Defs.Unbundled

/-!
# Registers that only move forward

A register takes a value only if its last value is behind it. Its log is then in order, and its last
value is behind none of the earlier ones.
-/

namespace Ratchet

variable {α : Type} (R : α → α → Prop) {log earlier : List α} {a b c : α}

/-- Each entry of the log is behind those that follow. -/
def Forward (log : List α) : Prop := log.Pairwise R

variable {R} [Std.Refl R]

/-- All entries are behind the last one. -/
theorem Forward.last (h : Forward R log) (hlast : log.getLast? = some b) (ha : a ∈ log) : R a b := by
  obtain ⟨init, rfl⟩ := List.getLast?_eq_some_iff.1 hlast
  rcases List.mem_append.1 ha with ha | ha
  · exact (List.pairwise_append.1 h).2.2 a ha b (List.mem_singleton_self b)
  · rw [List.mem_singleton.1 ha]
    exact refl b

/-- A value in front of the last entry can be added. -/
theorem Forward.add [IsTrans α R] (h : Forward R log) (hlast : log.getLast? = some b) (hbc : R b c) :
    Forward R (log ++ [c]) := by
  refine List.pairwise_append.2 ⟨h, List.pairwise_singleton R c, ?_⟩
  intro a ha c' hc'
  rw [List.mem_singleton.1 hc']
  exact Trans.trans (h.last hlast ha) hbc

/-- The last entry of a log is behind the last entry of a log that continues it. -/
theorem Forward.continued (h : Forward R log) (hbegins : earlier <+: log)
    (hearlier : earlier.getLast? = some b) (hlast : log.getLast? = some c) : R b c :=
  h.last hlast (hbegins.subset (List.mem_of_getLast? hearlier))

end Ratchet
