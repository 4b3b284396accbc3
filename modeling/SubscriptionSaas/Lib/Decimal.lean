import Mathlib.Data.Int.Basic
import Mathlib.Data.List.Basic

/-!
# Decimal texts of numbers

The decimal text of an integer gives the integer back, so that texts that begin with one can be
compared part by part.
-/

namespace Decimal

theorem natRepr_injective : Function.Injective Nat.repr := by
  intro m n h
  have hdigits : Nat.toDigits 10 m = Nat.toDigits 10 n := by
    rw [← Nat.toList_repr, ← Nat.toList_repr, h]
  rw [← @Nat.ofDigitChars_ten_toDigits m, hdigits, Nat.ofDigitChars_ten_toDigits]

theorem isDigit_of_mem_natRepr {n : Nat} {c : Char} (h : c ∈ n.repr.toList) : c.isDigit := by
  rw [Nat.toList_repr] at h
  exact Nat.isDigit_of_mem_toDigits (by decide) (by decide) h

/-- The text of a natural number has no sign. -/
theorem natRepr_ne_neg (m : Nat) (text : String) : m.repr ≠ "-" ++ text := by
  intro h
  have hsign : '-' ∈ m.repr.toList := by
    rw [h, String.toList_append]
    exact List.mem_append_left _ (by decide)
  exact absurd (isDigit_of_mem_natRepr hsign) (by decide)

theorem intRepr_injective : Function.Injective Int.repr := by
  intro a b h
  cases a with
  | ofNat m =>
    cases b with
    | ofNat n => exact congrArg Int.ofNat (natRepr_injective h)
    | negSucc n => exact absurd h (natRepr_ne_neg m _)
  | negSucc m =>
    cases b with
    | ofNat n => exact absurd h.symm (natRepr_ne_neg n _)
    | negSucc n =>
      have htail : (Nat.succ m).repr = (Nat.succ n).repr := by
        have hlist := congrArg String.toList h
        simp only [Int.repr, String.toList_append] at hlist
        exact String.toList_inj.mp (List.append_cancel_left hlist)
      rw [Nat.succ.inj (natRepr_injective htail)]

end Decimal
