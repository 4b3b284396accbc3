import Mathlib.Algebra.BigOperators.Group.List.Basic
import Mathlib.Data.List.Nodup

/-!
# Tallies

A record with a sum for each key, the keys in the order in which they came. A tally of a list of entries
does not depend on their order, except for the order of the keys that it did not have before.
-/

namespace Tally

variable {κ α : Type} [DecidableEq κ]

/-- The sum of a key. -/
def get : List (κ × α) → κ → Option α
  | [], _ => none
  | (k, a) :: rest, key => if k = key then some a else get rest key

theorem get_isSome {l : List (κ × α)} {key : κ} : (get l key).isSome ↔ key ∈ l.map (·.1) := by
  induction l with
  | nil => simp [get]
  | cons pair rest ih =>
    rw [get]
    by_cases hkey : pair.1 = key
    · simp [hkey]
    · simp [hkey, ih, Ne.symm hkey]

theorem mem_of_get {l : List (κ × α)} {key : κ} {a : α} (h : get l key = some a) :
    (key, a) ∈ l := by
  induction l with
  | nil => cases h
  | cons pair rest ih =>
    rw [get] at h
    by_cases hkey : pair.1 = key
    · rw [if_pos hkey] at h
      obtain rfl := Option.some.inj h
      exact hkey ▸ List.mem_cons_self
    · rw [if_neg hkey] at h
      exact List.mem_cons_of_mem _ (ih h)

theorem get_of_mem {l : List (κ × α)} (hnodup : (l.map (·.1)).Nodup) {key : κ} {a : α}
    (h : (key, a) ∈ l) : get l key = some a := by
  induction l with
  | nil => cases h
  | cons pair rest ih =>
    obtain ⟨hfirst, hrest⟩ := List.nodup_cons.1 hnodup
    rw [get]
    rcases List.mem_cons.1 h with rfl | hmem
    · exact if_pos rfl
    · have hkey : pair.1 ≠ key := fun heq => hfirst (List.mem_map.2 ⟨_, hmem, heq.symm⟩)
      rw [if_neg hkey]
      exact ih hrest hmem

/-- Two records of the same sums have the same pairs. -/
theorem perm_of_get {l l' : List (κ × α)} (hl : (l.map (·.1)).Nodup) (hl' : (l'.map (·.1)).Nodup)
    (h : ∀ key, get l key = get l' key) : l.Perm l' := by
  refine (List.perm_ext_iff_of_nodup hl.of_map hl'.of_map).2 fun pair => ⟨fun hmem => ?_,
    fun hmem => ?_⟩
  · exact mem_of_get ((h pair.1).symm.trans (get_of_mem hl hmem))
  · exact mem_of_get ((h pair.1).trans (get_of_mem hl' hmem))

/-- Two records of the same sums and the same keys in the same order are the same. -/
theorem eq_of_get {l l' : List (κ × α)} (hl : (l.map (·.1)).Nodup) (hkeys : l.map (·.1) = l'.map (·.1))
    (h : ∀ key, get l key = get l' key) : l = l' := by
  induction l generalizing l' with
  | nil => exact (List.map_eq_nil_iff.1 hkeys.symm).symm
  | cons pair rest ih =>
    cases l' with
    | nil => cases hkeys
    | cons pair' rest' =>
      obtain ⟨hkey, hrest⟩ : pair.1 = pair'.1 ∧ rest.map (·.1) = rest'.map (·.1) :=
        List.cons.inj hkeys
      obtain ⟨hfirst, hnodup⟩ := List.nodup_cons.1 hl
      have hsum : pair.2 = pair'.2 := by
        have hget := h pair.1
        rw [get, get, if_pos rfl, if_pos hkey.symm] at hget
        exact Option.some.inj hget
      rw [Prod.ext hkey hsum, ih hnodup hrest fun key => ?_]
      by_cases heq : pair.1 = key
      · have hnone : ∀ l : List (κ × α), key ∉ l.map (·.1) → get l key = none := fun l hnot =>
          Option.not_isSome_iff_eq_none.1 fun hsome => hnot (get_isSome.1 hsome)
        rw [hnone rest (heq ▸ hfirst), hnone rest' (hrest ▸ heq ▸ hfirst)]
      · have hget := h key
        rwa [get, get, if_neg heq, if_neg (hkey ▸ heq)] at hget

variable [AddCommMonoid α]

/-- The amount is added to the sum of the key. -/
def add : List (κ × α) → κ → α → List (κ × α)
  | [], key, amount => [(key, amount)]
  | (k, a) :: rest, key, amount =>
    if k = key then (k, a + amount) :: rest else (k, a) :: add rest key amount

theorem get_add (l : List (κ × α)) (key : κ) (amount : α) (k : κ) :
    get (add l key amount) k =
      if k = key then some ((get l key).getD 0 + amount) else get l k := by
  induction l with
  | nil => simp [add, get, eq_comm]
  | cons pair rest ih =>
    rw [add]
    by_cases hkey : pair.1 = key
    · by_cases hk : k = key
      · simp [get, hkey, hk]
      · simp [get, hkey, hk, Ne.symm hk]
    · by_cases hk : pair.1 = k
      · have hne : k ≠ key := hk ▸ hkey
        simp [get, hk, hne]
      · simp [get, hkey, hk, ih]

theorem sum_add (l : List (κ × α)) (key : κ) (amount : α) :
    ((add l key amount).map (·.2)).sum = (l.map (·.2)).sum + amount := by
  induction l with
  | nil => simp [add]
  | cons pair rest ih =>
    rw [add]
    split
    · simp only [List.map_cons, List.sum_cons]
      exact add_right_comm ..
    · simp only [List.map_cons, List.sum_cons, ih, add_assoc]

theorem keys_add (l : List (κ × α)) (key : κ) (amount : α) : (add l key amount).map (·.1) =
    if key ∈ l.map (·.1) then l.map (·.1) else l.map (·.1) ++ [key] := by
  induction l with
  | nil => simp [add]
  | cons pair rest ih =>
    rw [add]
    by_cases hkey : pair.1 = key
    · simp [hkey]
    · simp only [hkey, if_false, List.map_cons, ih, List.mem_cons, Ne.symm hkey, false_or]
      split <;> rfl

/-- All entries are added, one after the other. -/
def tally (l entries : List (κ × α)) : List (κ × α) :=
  entries.foldl (fun l entry => add l entry.1 entry.2) l

@[simp] theorem tally_nil (l : List (κ × α)) : tally l [] = l := rfl

theorem tally_cons (l : List (κ × α)) (entry : κ × α) (entries : List (κ × α)) :
    tally l (entry :: entries) = tally (add l entry.1 entry.2) entries := rfl

theorem tally_append (l entries entries' : List (κ × α)) :
    tally l (entries ++ entries') = tally (tally l entries) entries' := List.foldl_append

theorem sum_tally (l entries : List (κ × α)) :
    ((tally l entries).map (·.2)).sum = (l.map (·.2)).sum + (entries.map (·.2)).sum := by
  induction entries generalizing l with
  | nil => simp
  | cons entry entries ih =>
    rw [tally_cons, ih, sum_add, List.map_cons, List.sum_cons, add_assoc]

theorem nodup_tally {l : List (κ × α)} (h : (l.map (·.1)).Nodup) (entries : List (κ × α)) :
    ((tally l entries).map (·.1)).Nodup := by
  induction entries generalizing l with
  | nil => exact h
  | cons entry entries ih =>
    refine ih ?_
    rw [keys_add]
    split
    · exact h
    · next hnew =>
      exact List.nodup_append'.2 ⟨h, List.nodup_singleton _, List.disjoint_singleton.2 hnew⟩

/-- A record that has all keys keeps them. -/
theorem keys_tally {l : List (κ × α)} (h : ∀ key, key ∈ l.map (·.1)) (entries : List (κ × α)) :
    (tally l entries).map (·.1) = l.map (·.1) := by
  induction entries generalizing l with
  | nil => rfl
  | cons entry entries ih =>
    have hadd : (add l entry.1 entry.2).map (·.1) = l.map (·.1) := by rw [keys_add, if_pos (h entry.1)]
    rw [tally_cons, ih fun key => hadd ▸ h key, hadd]

/-- The sum of one key sees its own entries alone. -/
theorem get_tally (l entries : List (κ × α)) (key : κ) : get (tally l entries) key =
    entries.foldl (fun sum entry => if key = entry.1 then some (sum.getD 0 + entry.2) else sum)
      (get l key) := by
  induction entries generalizing l with
  | nil => rfl
  | cons entry entries ih =>
    rw [tally_cons, ih, get_add, List.foldl_cons]
    by_cases hkey : key = entry.1
    · rw [if_pos hkey, if_pos hkey, hkey]
    · rw [if_neg hkey, if_neg hkey]

theorem get_tally_perm (l : List (κ × α)) {entries entries' : List (κ × α)}
    (h : entries.Perm entries') (key : κ) : get (tally l entries) key = get (tally l entries') key := by
  rw [get_tally, get_tally]
  refine h.foldl_eq' (fun x _ y _ sum => ?_) _
  by_cases hx : key = x.1
  · by_cases hy : key = y.1
    · simp only [if_pos hx, if_pos hy, Option.getD_some]
      rw [add_right_comm]
    · simp only [if_pos hx, if_neg hy]
  · simp only [if_neg hx]

/-- The tally of the entries in another order has the same pairs. -/
theorem tally_perm {l : List (κ × α)} (hl : (l.map (·.1)).Nodup) {entries entries' : List (κ × α)}
    (h : entries.Perm entries') : (tally l entries).Perm (tally l entries') :=
  perm_of_get (nodup_tally hl entries) (nodup_tally hl entries') (get_tally_perm l h)

/-- With all keys there from the start, it is the same. -/
theorem tally_eq {l : List (κ × α)} (hl : (l.map (·.1)).Nodup) (hall : ∀ key, key ∈ l.map (·.1))
    {entries entries' : List (κ × α)} (h : entries.Perm entries') :
    tally l entries = tally l entries' :=
  eq_of_get (nodup_tally hl entries) ((keys_tally hall entries).trans (keys_tally hall entries').symm)
    (get_tally_perm l h)

end Tally
