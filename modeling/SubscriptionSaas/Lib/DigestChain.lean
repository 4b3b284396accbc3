import Mathlib.Data.List.Basic
import Mathlib.Data.List.Induction

/-!
# Chains that are linked by digests

Each record of a chain names the digest of the one before it. Where digests do not collide, the last
record of a chain determines those before it: of two chains with the same last record, one is a suffix
of the other.
-/

namespace DigestChain

variable {α δ : Type} (digest previous : α → δ)

/-- The first record names the given digest, each later one the digest of its predecessor. -/
def Linked : δ → List α → Prop
  | _, [] => True
  | d, x :: xs => previous x = d ∧ Linked (digest x) xs

/-- The digest that the next record of the chain would name. -/
def head (d : δ) (xs : List α) : δ := (xs.getLast?.map digest).getD d

variable {digest previous} {d e : δ} {xs ys : List α}

theorem head_cons (x : α) : head digest d (x :: xs) = head digest (digest x) xs := by
  unfold head
  cases xs with
  | nil => rfl
  | cons y ys => rw [List.getLast?_cons_cons, List.getLast?_eq_some_getLast (List.cons_ne_nil y ys)]; rfl

theorem linked_append :
    Linked digest previous d (xs ++ ys) ↔
      Linked digest previous d xs ∧ Linked digest previous (head digest d xs) ys := by
  induction xs generalizing d with
  | nil => exact ⟨fun h => ⟨trivial, h⟩, fun h => h.2⟩
  | cons x xs ih =>
    show previous x = d ∧ Linked digest previous (digest x) (xs ++ ys) ↔ _
    rw [ih, head_cons, ← and_assoc]
    rfl

/-- Two chains with the same last record agree as far as the shorter one goes. -/
theorem Linked.suffix (hx : Linked digest previous d xs) (hy : Linked digest previous e ys)
    (hcollision : ∀ x ∈ xs, ∀ y ∈ ys, digest x = digest y → x = y)
    (hlast : xs.getLast? = ys.getLast?) : xs <:+ ys ∨ ys <:+ xs := by
  induction xs using List.reverseRecOn generalizing ys with
  | nil => exact .inl List.nil_suffix
  | append_singleton xs a ih =>
    rcases List.eq_nil_or_concat' ys with rfl | ⟨ys, b, rfl⟩
    · exact .inr List.nil_suffix
    · obtain rfl : a = b := by simpa using hlast
      obtain ⟨hx, hxa, -⟩ := linked_append.mp hx
      obtain ⟨hy, hya, -⟩ := linked_append.mp hy
      cases hxs : xs.getLast? with
      | none =>
        rw [List.getLast?_eq_none_iff.mp hxs]
        exact .inl (List.suffix_append ys [a])
      | some x =>
        cases hys : ys.getLast? with
        | none =>
          rw [List.getLast?_eq_none_iff.mp hys]
          exact .inr (List.suffix_append xs [a])
        | some y =>
          -- the last record names the digest of its predecessor in either chain
          have hsame : digest x = digest y := by
            have := hxa.symm.trans hya
            simpa [head, hxs, hys] using this
          obtain rfl : x = y :=
            hcollision x (List.mem_append_left _ (List.mem_of_getLast? hxs)) y
              (List.mem_append_left _ (List.mem_of_getLast? hys)) hsame
          have hrest := ih hx hy (fun x hx y hy => hcollision x (List.mem_append_left _ hx) y
            (List.mem_append_left _ hy)) (hxs.trans hys.symm)
          rcases hrest with hrest | hrest
          · obtain ⟨more, rfl⟩ := hrest
            exact .inl ⟨more, (List.append_assoc _ _ _).symm⟩
          · obtain ⟨more, rfl⟩ := hrest
            exact .inr ⟨more, (List.append_assoc _ _ _).symm⟩

end DigestChain
