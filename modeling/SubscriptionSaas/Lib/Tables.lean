import Mathlib.Data.List.Basic
import Mathlib.Data.List.Sort

/-!
# Tables of numbered rows

A table is a list whose rows are numbered by their places. A row is modified in its place and a new
row is put at the end, so that a number once given keeps its row.
-/

namespace Tables

variable {α : Type} {l : List α} {a b : α} {i j : Nat} {f : α → α}

theorem get_lt (h : l[i]? = some a) : i < l.length := (List.getElem?_eq_some_iff.1 h).1

/-- A row of a modified table is a row that was there, or the modified one. -/
theorem get_modify (h : (l.modify i f)[j]? = some b) :
    (j ≠ i ∧ l[j]? = some b) ∨ (j = i ∧ ∃ a, l[i]? = some a ∧ b = f a) := by
  by_cases hij : i = j
  · subst hij
    simp only [List.getElem?_modify, if_true] at h
    obtain ⟨a, ha, rfl⟩ := Option.map_eq_some_iff.1 h
    exact .inr ⟨rfl, a, ha, rfl⟩
  · simp only [List.getElem?_modify, if_neg hij, Option.map_eq_map, Option.map_id'] at h
    exact .inl ⟨Ne.symm hij, h⟩

theorem get_modify_self (h : l[i]? = some a) : (l.modify i f)[i]? = some (f a) := by simp [h]

theorem get_modify_ne (hij : j ≠ i) : (l.modify i f)[j]? = l[j]? := by simp [Ne.symm hij]

/-- A row that was there is modified or not. -/
theorem get_of_modify (i : Nat) (f : α → α) (h : l[j]? = some a) :
    (l.modify i f)[j]? = some a ∨ (j = i ∧ (l.modify i f)[j]? = some (f a)) := by
  by_cases hij : j = i
  · subst hij
    exact .inr ⟨rfl, get_modify_self h⟩
  · rw [get_modify_ne hij]
    exact .inl h

/-- A row stays, or its modification is there. -/
theorem mem_modify (i : Nat) (f : α → α) (ha : a ∈ l) : a ∈ l.modify i f ∨ f a ∈ l.modify i f := by
  obtain ⟨j, hj⟩ := List.mem_iff_getElem?.1 ha
  rcases get_of_modify i f hj with h | ⟨-, h⟩
  · exact .inl (List.mem_of_getElem? h)
  · exact .inr (List.mem_of_getElem? h)

/-- A row of a table with a new row is a row that was there, or the new one. -/
theorem get_append (h : (l ++ [a])[j]? = some b) : l[j]? = some b ∨ (j = l.length ∧ b = a) := by
  by_cases hlt : j < l.length
  · rw [List.getElem?_append_left hlt] at h
    exact .inl h
  · have hj := get_lt h
    rw [List.length_append, List.length_singleton] at hj
    obtain rfl : j = l.length := by omega
    rw [List.getElem?_concat_length] at h
    exact .inr ⟨rfl, (Option.some.inj h).symm⟩

/-- A row that was there keeps its number. -/
theorem get_append_rows (rows : List α) (h : l[i]? = some a) : (l ++ rows)[i]? = some a := by
  rw [List.getElem?_append_left (get_lt h)]
  exact h

theorem get_append_old (h : l[i]? = some a) : (l ++ [b])[i]? = some a := get_append_rows [b] h

/-- A table around one of its rows. -/
theorem split (h : l[i]? = some a) : ∃ s t, l = s ++ a :: t ∧ s.length = i := by
  have hlt := get_lt h
  have hget : l[i] = a := (List.getElem?_eq_some_iff.1 h).2
  refine ⟨l.take i, l.drop (i + 1), ?_, List.length_take_of_le (Nat.le_of_lt hlt)⟩
  rw [← hget, List.getElem_cons_drop hlt, List.take_append_drop]

theorem modify_middle (s t : List α) (a : α) (f : α → α) :
    (s ++ a :: t).modify s.length f = s ++ f a :: t := by
  induction s with
  | nil => rfl
  | cons b s ih => exact congrArg (b :: ·) ih

/-- What is read of the rows stays when it does not read what is modified. -/
theorem filterMap_modify {β : Type} {g : α → Option β} (h : ∀ a, g (f a) = g a) :
    (l.modify i f).filterMap g = l.filterMap g := by
  induction l generalizing i with
  | nil => simp
  | cons a l ih =>
    cases i with
    | zero => rw [List.modify_zero_cons, List.filterMap_cons, List.filterMap_cons, h a]
    | succ i => rw [List.modify_succ_cons, List.filterMap_cons, List.filterMap_cons, ih]

/-! ## The rows that count -/

/-- The rows with the property, with their places. -/
def numbered (p : α → Bool) (l : List α) : List (α × Nat) := l.zipIdx.filter fun row => p row.1

variable {p : α → Bool}

theorem mem_numbered {row : α × Nat} :
    row ∈ numbered p l ↔ l[row.2]? = some row.1 ∧ p row.1 = true := by
  rw [numbered, List.mem_filter, List.mem_zipIdx_iff_getElem?]

theorem map_numbered : (numbered p l).map (·.1) = l.filter p := by
  have hrows : l.zipIdx.map (·.1) = l := by simp
  conv_rhs => rw [← hrows]
  exact List.filter_map.symm

theorem numbered_append (h : p a = true) : numbered p (l ++ [a]) = numbered p l ++ [(a, l.length)] := by
  simp [numbered, List.zipIdx_append, h]

theorem zipIdx_modify :
    (l.modify i f).zipIdx = l.zipIdx.map fun row => if row.2 = i then (f row.1, row.2) else row := by
  apply List.ext_getElem?
  intro j
  rw [List.getElem?_zipIdx, List.getElem?_map, List.getElem?_zipIdx, List.getElem?_modify]
  cases l[j]? with
  | none => simp
  | some reading => by_cases hij : i = j <;> simp [hij, eq_comm]

/-- A row that is modified so that it no longer counts is taken out. -/
theorem numbered_modify (hf : ∀ a, p (f a) = false) :
    numbered p (l.modify i f) = (numbered p l).filter (·.2 != i) := by
  rw [numbered, zipIdx_modify, List.filter_map, numbered, List.filter_filter]
  have hfilter : (l.zipIdx.filter ((fun row => p row.1) ∘
      fun row => if row.2 = i then (f row.1, row.2) else row)) =
      l.zipIdx.filter fun row => row.2 != i && p row.1 := by
    apply List.filter_congr
    intro row _
    by_cases hi : row.2 = i <;> simp [hi, hf]
  rw [hfilter]
  refine (List.map_congr_left ?_).trans (List.map_id _)
  intro row hrow
  have hrow := (List.mem_filter.1 hrow).2
  rw [Bool.and_eq_true, bne_iff_ne] at hrow
  simp [hrow.1]

/-- Nothing is taken out exactly when the row did not count. -/
theorem numbered_modify_iff (hf : ∀ a, p (f a) = false) :
    numbered p (l.modify i f) = numbered p l ↔ ∀ a, l[i]? = some a → p a = false := by
  rw [numbered_modify hf, List.filter_eq_self]
  constructor
  · intro h a ha
    by_contra hp
    have hrow := h (a, i) (mem_numbered.2 ⟨ha, eq_true_of_ne_false hp⟩)
    simp at hrow
  · rintro h ⟨a, j⟩ hrow
    obtain ⟨ha, hp⟩ := mem_numbered.1 hrow
    rw [bne_iff_ne]
    rintro rfl
    rw [h a ha] at hp
    cases hp

/-- A new row that counts and is modified so that it no longer does leaves no trace. -/
theorem numbered_append_modify (h : p a = true) (hf : ∀ a, p (f a) = false) :
    numbered p ((l ++ [a]).modify l.length f) = numbered p l := by
  rw [numbered_modify hf, numbered_append h, List.filter_append]
  have hnew : [(a, l.length)].filter (·.2 != l.length) = [] := by simp
  rw [hnew, List.append_nil, List.filter_eq_self]
  intro row hrow
  exact bne_iff_ne.2 (Nat.ne_of_lt (get_lt (mem_numbered.1 hrow).1))

/-- Rows that do not count can be added. -/
theorem numbered_append_of_not {rows : List α} (h : ∀ b ∈ rows, p b = false) :
    numbered p (l ++ rows) = numbered p l := by
  rw [numbered, List.zipIdx_append, List.filter_append, numbered, List.append_right_eq_self,
    List.filter_eq_nil_iff]
  intro row hrow
  have hmem : row.1 ∈ rows := by
    have hfst := List.mem_map_of_mem (f := Prod.fst) hrow
    rwa [List.zipIdx_map_fst] at hfst
  rw [h row.1 hmem]
  exact Bool.false_ne_true

/-- Rows that count are left, and no other comes to count. -/
theorem numbered_map_of_fixed (hp : ∀ b ∈ l, p (f b) = p b) (hf : ∀ b ∈ l, p b = true → f b = b) :
    numbered p (l.map f) = numbered p l := by
  rw [numbered, List.zipIdx_map, List.filter_map, numbered]
  have hmem : ∀ row ∈ l.zipIdx, row.1 ∈ l := by
    intro row hrow
    have hfst := List.mem_map_of_mem (f := Prod.fst) hrow
    rwa [List.zipIdx_map_fst] at hfst
  have hfilter : l.zipIdx.filter ((fun row => p row.1) ∘ Prod.map f id) =
      l.zipIdx.filter fun row => p row.1 :=
    List.filter_congr fun row hrow => hp row.1 (hmem row hrow)
  rw [hfilter]
  refine (List.map_congr_left ?_).trans (List.map_id _)
  intro row hrow
  obtain ⟨hrow, hcounts⟩ := List.mem_filter.1 hrow
  exact Prod.ext (hf row.1 (hmem row hrow) hcounts) rfl

/-- The places of the rows differ. -/
theorem numbered_places : ((numbered p l).map (·.2)).Nodup := by
  have hsub : ((numbered p l).map (·.2)).Sublist (l.zipIdx.map (·.2)) :=
    List.Sublist.map _ List.filter_sublist
  refine hsub.nodup ?_
  rw [List.zipIdx_map_snd]
  exact List.nodup_range' ..

/-! ## The highest row -/

section Highest

variable {κ : Type} [LinearOrder κ] {key : α → κ} [DecidableRel fun a b : α => key b ≤ key a]

/-- No row is higher than the one that comes first from the highest key down. -/
theorem le_head?_insertionSort (h : (l.insertionSort fun a b => key b ≤ key a).head? = some a)
    (hb : b ∈ l) : key b ≤ key a := by
  have : Std.Total fun a b : α => key b ≤ key a := ⟨fun a b => le_total (key b) (key a)⟩
  have : IsTrans α fun a b => key b ≤ key a := ⟨fun _ _ _ hab hbc => hbc.trans hab⟩
  have hsorted := List.pairwise_insertionSort (fun a b : α => key b ≤ key a) l
  have hmem : b ∈ l.insertionSort fun a b => key b ≤ key a := (List.mem_insertionSort _).2 hb
  obtain ⟨rest, hlist⟩ := List.head?_eq_some_iff.1 h
  rw [hlist] at hsorted hmem
  rcases List.mem_cons.1 hmem with rfl | hrest
  · exact le_rfl
  · exact List.rel_of_pairwise_cons hsorted hrest

/-- A row as high as which there is no other comes first. -/
theorem head?_insertionSort (ha : a ∈ l) (hmax : ∀ b ∈ l, key a ≤ key b → b = a) :
    (l.insertionSort fun a b => key b ≤ key a).head? = some a := by
  rcases hfirst : (l.insertionSort fun a b => key b ≤ key a).head? with _ | first
  · rw [List.head?_eq_none_iff] at hfirst
    have hmem : a ∈ l.insertionSort fun a b => key b ≤ key a := (List.mem_insertionSort _).2 ha
    rw [hfirst] at hmem
    cases hmem
  · have hmem : first ∈ l := (List.mem_insertionSort _).1 (List.mem_of_mem_head? hfirst)
    rw [hmax first hmem (le_head?_insertionSort hfirst ha)]

end Highest

/-- Rows in any order whose keys are those of a strictly ascending list are sorted to it. -/
theorem insertionSort_eq_of_perm {κ : Type} [LinearOrder κ] {key : α → κ} {l' : List α}
    (h : l.Perm l') (hl' : l'.Pairwise fun a b => key a < key b) :
    (l.insertionSort fun a b => key a ≤ key b) = l' := by
  have : Std.Total fun a b : α => key a ≤ key b := ⟨fun a b => le_total (key a) (key b)⟩
  have : IsTrans α fun a b => key a ≤ key b := ⟨fun _ _ _ hab hbc => hab.trans hbc⟩
  have hsorted := List.pairwise_insertionSort (fun a b : α => key a ≤ key b) l
  have hperm := (List.perm_insertionSort (fun a b : α => key a ≤ key b) l).trans h
  have hnodup : (l'.map key).Nodup := List.pairwise_map.2 (hl'.imp ne_of_lt)
  refine hperm.eq_of_pairwise (fun a b ha hb hab hba => ?_) hsorted (hl'.imp le_of_lt)
  exact List.inj_on_of_nodup_map hnodup (hperm.mem_iff.1 ha) hb (le_antisymm hab hba)

/-- Rows of which no two have one key are sorted alike, whatever order they are in. -/
theorem insertionSort_perm {κ : Type} [LinearOrder κ] {key : α → κ} {l' : List α}
    (h : l.Perm l') (hl' : (l'.map key).Nodup) :
    (l.insertionSort fun a b => key a ≤ key b) = l'.insertionSort fun a b => key a ≤ key b := by
  have : Std.Total fun a b : α => key a ≤ key b := ⟨fun a b => le_total (key a) (key b)⟩
  have : IsTrans α fun a b => key a ≤ key b := ⟨fun _ _ _ hab hbc => hab.trans hbc⟩
  have hsorted := List.pairwise_insertionSort (fun a b : α => key a ≤ key b) l'
  have hperm := List.perm_insertionSort (fun a b : α => key a ≤ key b) l'
  refine insertionSort_eq_of_perm (h.trans hperm.symm) ?_
  have hne := List.pairwise_map.1 ((hperm.map key).nodup_iff.2 hl')
  exact (hsorted.and hne).imp fun hboth => lt_of_le_of_ne hboth.1 hboth.2

/-! ## Rows by their key -/

section Keys

variable {κ : Type} [BEq κ] [LawfulBEq κ] {key : α → κ}

/-- The row of a key. -/
theorem find?_key (h : (l.map key).Nodup) {k : κ} :
    l.find? (key · == k) = some a ↔ a ∈ l ∧ key a = k := by
  constructor
  · intro hfind
    exact ⟨List.mem_of_find?_eq_some hfind, by simpa using List.find?_some hfind⟩
  · rintro ⟨hmem, rfl⟩
    cases hfind : l.find? (key · == key a) with
    | none => exact absurd (List.find?_eq_none.1 hfind a hmem) (by simp)
    | some found =>
      have hfound : found ∈ l := List.mem_of_find?_eq_some hfind
      have hkey : key found = key a := by simpa using List.find?_some hfind
      rw [List.inj_on_of_nodup_map h hfound hmem hkey]

/-- The rows of the key of a row are that row. -/
theorem filter_key (h : (l.map key).Nodup) (ha : a ∈ l) : l.filter (key · == key a) = [a] := by
  obtain ⟨s, t, rfl⟩ := List.append_of_mem ha
  rw [List.map_append, List.map_cons] at h
  obtain ⟨-, hcons, hdisjoint⟩ := List.nodup_append'.1 h
  have hbefore : s.filter (key · == key a) = [] := by
    refine List.filter_eq_nil_iff.2 fun b hb heq => ?_
    have hkey : key b = key a := by simpa using heq
    exact hdisjoint (List.mem_map_of_mem hb) (hkey ▸ List.mem_cons_self)
  have hafter : t.filter (key · == key a) = [] := by
    refine List.filter_eq_nil_iff.2 fun b hb heq => ?_
    have hkey : key b = key a := by simpa using heq
    exact (List.nodup_cons.1 hcons).1 (hkey ▸ List.mem_map_of_mem hb)
  rw [List.filter_append, List.filter_cons_of_pos (by simp), hbefore, hafter, List.nil_append]

/-- Tables with the same rows of a key find the same. -/
theorem find?_key_congr {l' : List α} (h : (l.map key).Nodup) (h' : (l'.map key).Nodup) {k : κ}
    (hmem : ∀ a, key a = k → (a ∈ l ↔ a ∈ l')) : l.find? (key · == k) = l'.find? (key · == k) := by
  ext a
  rw [find?_key h, find?_key h']
  exact ⟨fun ⟨ha, hk⟩ => ⟨(hmem a hk).1 ha, hk⟩, fun ⟨ha, hk⟩ => ⟨(hmem a hk).2 ha, hk⟩⟩

end Keys

end Tables
