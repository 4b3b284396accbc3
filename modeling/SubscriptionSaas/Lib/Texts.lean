import Mathlib.Algebra.GroupWithZero.Nat
import Mathlib.Data.List.Basic

/-!
# Texts of a request

The operations on strings that checks of a request use, with the meaning they have in JavaScript.
-/

namespace Texts

/-- The characters that `trim` removes. -/
def isWhiteSpace (c : Char) : Bool :=
  (9 ≤ c.toNat && c.toNat ≤ 13) || (0x2000 ≤ c.toNat && c.toNat ≤ 0x200A) ||
    [0x20, 0xA0, 0x1680, 0x2028, 0x2029, 0x202F, 0x205F, 0x3000, 0xFEFF].contains c.toNat

/-- `trim`. -/
def trim (text : String) : String :=
  String.ofList ((text.toList.dropWhile isWhiteSpace).reverse.dropWhile isWhiteSpace).reverse

/-- `length`, in UTF-16 units. -/
def length (text : String) : Nat :=
  (text.toList.map fun c => if 0x10000 ≤ c.toNat then 2 else 1).sum

/-- A property of the characters of a text, decided along the text. -/
theorem forall_chars {cs : List Char} {p : Char → Prop} [DecidablePred p]
    (h : (cs.all fun c => decide (p c)) = true) : ∀ c ∈ cs, p c := fun c hc =>
  of_decide_eq_true (List.all_eq_true.1 h c hc)

end Texts
