import Mathlib.Data.List.Nodup
import SubscriptionSaas.Lib.Results

/-!
# Records that are collected one by one

A loop that adds a record for each entry, and fails at an entry that is not admissible or whose key is
there already, collects the records of all entries just if each is admissible and no two have one key.
-/

namespace KeyedFold

open Results

variable {α β κ ε : Type} {add : List β → α → Except ε (List β)} {P : α → Prop} {record : α → β}
  {key : β → κ} {collected collected' : List β} {entries : List α}

/-- What the loop does at an entry. -/
def Adds (add : List β → α → Except ε (List β)) (P : α → Prop) (record : α → β) (key : β → κ) : Prop :=
  ∀ collected a collected', add collected a = .ok collected' ↔
    P a ∧ key (record a) ∉ collected.map key ∧ collected' = collected ++ [record a]

theorem foldlM_iff (hadds : Adds add P record key) (h : (collected.map key).Nodup) :
    entries.foldlM add collected = .ok collected' ↔
      (∀ a ∈ entries, P a) ∧ ((collected ++ entries.map record).map key).Nodup ∧
        collected' = collected ++ entries.map record := by
  induction entries generalizing collected with
  | nil => simp [h, pure, Except.pure, eq_comm]
  | cons a entries ih =>
    have hsplit : collected ++ (a :: entries).map record =
        (collected ++ [record a]) ++ entries.map record := by simp
    rw [List.foldlM_cons, bind_ok_iff, hsplit, List.forall_mem_cons]
    constructor
    · rintro ⟨next, hadd, hrest⟩
      obtain ⟨ha, hnew, rfl⟩ := (hadds _ _ _).1 hadd
      have hnext : ((collected ++ [record a]).map key).Nodup := by
        rw [List.map_append]
        exact List.nodup_append'.2 ⟨h, List.nodup_singleton _, List.disjoint_singleton.2 hnew⟩
      obtain ⟨hentries, hnodup, hcollected⟩ := (ih hnext).1 hrest
      exact ⟨⟨ha, hentries⟩, hnodup, hcollected⟩
    · rintro ⟨⟨ha, hentries⟩, hnodup, hcollected⟩
      have hnext : ((collected ++ [record a]).map key).Nodup := by
        rw [List.map_append] at hnodup
        exact (List.nodup_append'.1 hnodup).1
      have hnew : key (record a) ∉ collected.map key := by
        rw [List.map_append] at hnext
        exact List.disjoint_singleton.1 (List.nodup_append'.1 hnext).2.2
      exact ⟨_, (hadds _ _ _).2 ⟨ha, hnew, rfl⟩, (ih hnext).2 ⟨hentries, hnodup, hcollected⟩⟩

/-- The whole loop. -/
theorem foldlM_nil_iff (hadds : Adds add P record key) :
    entries.foldlM add [] = .ok collected ↔
      (∀ a ∈ entries, P a) ∧ (entries.map fun a => key (record a)).Nodup ∧
        collected = entries.map record := by
  have hnil : (([] : List β).map key).Nodup := List.nodup_nil
  have hkeys : (entries.map record).map key = entries.map fun a => key (record a) := List.map_map
  rw [foldlM_iff hadds hnil, List.nil_append, hkeys]

end KeyedFold
