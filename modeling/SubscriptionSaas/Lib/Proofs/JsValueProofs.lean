import SubscriptionSaas.Lib.JsValue
import SubscriptionSaas.Lib.Proofs.JsonProofs
import SubscriptionSaas.Lib.Results
import SubscriptionSaas.Lib.Tables

/-!
# Members by their keys

The members of an object in the order of their keys, and the content of what `JSON.parse` builds: it
is a different one for each canonical value.
-/

section Members

variable {α β : Type} {members members' : List (Text × α)}

theorem sortKeys_perm (members : List (Text × α)) : (sortKeys members).Perm members :=
  List.perm_insertionSort _ _

/-- The keys alone decide the order. -/
theorem sortKeys_map (f : Text × α → β) (members : List (Text × α)) :
    sortKeys (members.map fun m => (m.1, f m)) = (sortKeys members).map fun m => (m.1, f m) :=
  (List.map_insertionSort (fun a b : Text × α => a.1 ≤ b.1) (fun a b : Text × β => a.1 ≤ b.1)
    (fun m => (m.1, f m)) members fun _ _ _ _ => Iff.rfl).symm

theorem sortKeys_of_sorted (h : (members.map Prod.fst).Pairwise (· < ·)) : sortKeys members = members :=
  Tables.insertionSort_eq_of_perm (List.Perm.refl members) (List.pairwise_map.mp h)

theorem sortKeys_sorted (h : (members.map Prod.fst).Nodup) :
    ((sortKeys members).map Prod.fst).Pairwise (· < ·) := by
  have hsorted : (sortKeys members).Pairwise fun a b => a.1 ≤ b.1 :=
    List.pairwise_insertionSort (fun a b : Text × α => a.1 ≤ b.1) members
  have hnodup : (sortKeys members).Pairwise fun a b => a.1 ≠ b.1 :=
    List.pairwise_map.mp (((sortKeys_perm members).map Prod.fst).nodup_iff.mpr h)
  rw [List.pairwise_map]
  exact (hsorted.and hnodup).imp fun hboth => lt_of_le_of_ne hboth.1 hboth.2

theorem keys_filterMap_sublist (f : Text × α → Option β) (members : List (Text × α)) :
    ((members.filterMap fun m => (f m).map (m.1, ·)).map Prod.fst).Sublist (members.map Prod.fst) := by
  induction members with
  | nil => exact List.Sublist.slnil
  | cons m members ih =>
    cases hm : f m with
    | none =>
      rw [List.filterMap_cons_none (by rw [hm]; rfl)]
      exact ih.cons m.1
    | some b =>
      rw [List.filterMap_cons_some (by rw [hm]; rfl)]
      exact ih.cons_cons m.1

theorem lookup_eq_some_iff (h : (members.map Prod.fst).Nodup) {key : Text} {a : α} :
    members.lookup key = some a ↔ (key, a) ∈ members := by
  induction members with
  | nil => simp
  | cons m members ih =>
    obtain ⟨hm, hmembers⟩ := List.nodup_cons.mp h
    rw [List.lookup_cons]
    by_cases hkey : key = m.1
    · subst hkey
      have hfresh : (m.1, a) ∉ members := fun hmem => hm (List.mem_map.mpr ⟨(m.1, a), hmem, rfl⟩)
      simp only [beq_self_eq_true, Option.some.injEq, List.mem_cons, hfresh, or_false]
      exact ⟨fun ha => by rw [← ha], fun ha => (congrArg Prod.snd ha).symm⟩
    · have hne : (key, a) ≠ m := fun heq => hkey (congrArg Prod.fst heq)
      simp [beq_false_of_ne hkey, ih hmembers, hne]

theorem lookup_perm (h : (members.map Prod.fst).Nodup) (hperm : members.Perm members') (key : Text) :
    members.lookup key = members'.lookup key := by
  have h' : (members'.map Prod.fst).Nodup := (hperm.map Prod.fst).nodup_iff.mp h
  ext a
  rw [lookup_eq_some_iff h, lookup_eq_some_iff h', hperm.mem_iff]

/-- Members in the order of their keys are determined by what is found under each key. -/
theorem eq_of_lookup (h : (members.map Prod.fst).Pairwise (· < ·))
    (h' : (members'.map Prod.fst).Pairwise (· < ·))
    (hlookup : ∀ key, members.lookup key = members'.lookup key) : members = members' := by
  have hnodup : (members.map Prod.fst).Nodup := h.imp ne_of_lt
  have hnodup' : (members'.map Prod.fst).Nodup := h'.imp ne_of_lt
  have hperm : members.Perm members' := by
    refine (List.perm_ext_iff_of_nodup hnodup.of_map hnodup'.of_map).mpr fun m => ?_
    rw [← lookup_eq_some_iff hnodup, ← lookup_eq_some_iff hnodup', hlookup]
  calc
    members = sortKeys members := (sortKeys_of_sorted h).symm
    _ = members' := Tables.insertionSort_eq_of_perm hperm (List.pairwise_map.mp h')

end Members

/-- A loop over members that has gone through has accepted each of them, and what it gives is read
member by member. -/
theorem gather_ok {α β γ δ : Type} {P : β → Prop} (read : α → δ) (form : β → Option γ) (write : γ → δ)
    (f : Text × β → Except Text (Option α)) {members : List (Text × β)} {result : List (Text × α)}
    (hf : ∀ m ∈ members, ∀ r, f m = .ok r → P m.2 ∧ r.map read = (form m.2).map write)
    (h : gather (members.map fun m => (m.1, f m)) = .ok result) :
    (∀ m ∈ members, P m.2) ∧ result.map (fun m => (m.1, read m.2)) =
      (members.filterMap fun m => (form m.2).map (m.1, ·)).map fun m => (m.1, write m.2) := by
  induction members generalizing result with
  | nil =>
    cases h
    exact ⟨fun _ hm => absurd hm List.not_mem_nil, rfl⟩
  | cons m members ih =>
    rw [List.map_cons, gather] at h
    obtain ⟨r, hr, h⟩ := Results.bind_ok h
    obtain ⟨hm, hread⟩ := hf m List.mem_cons_self r hr
    have ih := fun result => @ih result fun m' hm' => hf m' (List.mem_cons_of_mem _ hm')
    cases r with
    | none =>
      have hform : form m.2 = none := by
        cases hform : form m.2 with
        | none => rfl
        | some c => rw [hform] at hread; cases hread
      obtain ⟨hP, hmap⟩ := ih result h
      refine ⟨List.forall_mem_cons.mpr ⟨hm, hP⟩, ?_⟩
      rw [hmap, List.filterMap_cons_none (by rw [hform]; rfl)]
    | some a =>
      obtain ⟨rest, hrest, h⟩ := Results.bind_ok h
      cases h
      obtain ⟨c, hform, hc⟩ : ∃ c, form m.2 = some c ∧ write c = read a := by
        cases hform : form m.2 with
        | none => rw [hform] at hread; cases hread
        | some c => rw [hform] at hread; exact ⟨c, rfl, (Option.some.inj hread).symm⟩
      obtain ⟨hP, hmap⟩ := ih rest hrest
      refine ⟨List.forall_mem_cons.mpr ⟨hm, hP⟩, ?_⟩
      rw [List.filterMap_cons_some (by rw [hform]; rfl), List.map_cons, List.map_cons, hmap, hc]

/-- A loop over members that are all accepted goes through. -/
theorem gather_of_ok {α β : Type} (f : Text × β → Except Text (Option α)) {members : List (Text × β)}
    (hf : ∀ m ∈ members, ∃ r, f m = .ok r) :
    ∃ result, gather (members.map fun m => (m.1, f m)) = .ok result := by
  induction members with
  | nil => exact ⟨[], rfl⟩
  | cons m members ih =>
    obtain ⟨r, hr⟩ := hf m List.mem_cons_self
    obtain ⟨rest, hrest⟩ := ih fun m' hm' => hf m' (List.mem_cons_of_mem _ hm')
    rw [List.map_cons, gather, Results.bind_eq hr]
    cases r with
    | none => exact ⟨rest, hrest⟩
    | some a => exact ⟨(m.1, a) :: rest, Results.bind_eq hrest⟩

namespace JsValue

theorem ofJsonValues_eq (values : List Json) :
    ofJsonValues values = values.map fun v => some (ofJson v) := by
  induction values with
  | nil => rfl
  | cons v values ih => rw [ofJsonValues, List.map_cons, ih]

theorem ofJsonMembers_eq (members : List (Text × Json)) :
    ofJsonMembers members = members.map fun m => (m.1, ofJson m.2) := by
  induction members with
  | nil => rfl
  | cons m members ih => rw [ofJsonMembers, List.map_cons, ih]

theorem sound_ofJson {j : Json} (hj : j.Canonical) : (ofJson j).Sound := by
  induction j with
  | null => exact .leaf _
  | boolean b => exact .leaf _
  | number x => exact .leaf _
  | string text => exact .leaf _
  | array values ih =>
    cases hj with
    | array hvalues =>
      rw [ofJson, ofJsonValues_eq]
      refine .array fun v hv => ?_
      obtain ⟨w, hw, heq⟩ := List.mem_map.mp hv
      exact Option.some.inj heq ▸ ih w hw (hvalues w hw)
  | object members ih =>
    cases hj with
    | object hkeys hmembers =>
      rw [ofJson, ofJsonMembers_eq]
      refine .object ?_ fun m hm => ?_
      · rw [List.map_map]
        exact hkeys.imp ne_of_lt
      · obtain ⟨w, hw, rfl⟩ := List.mem_map.mp hm
        exact ih w hw (hmembers w hw)

theorem dense_ofJson (j : Json) : (ofJson j).Dense := by
  induction j with
  | null => exact .leaf _
  | boolean b => exact .leaf _
  | number x => exact .leaf _
  | string text => exact .leaf _
  | array values ih =>
    rw [ofJson, ofJsonValues_eq]
    refine .array (by simp) fun v hv => ?_
    obtain ⟨w, hw, heq⟩ := List.mem_map.mp hv
    exact Option.some.inj heq ▸ ih w hw
  | object members ih =>
    rw [ofJson, ofJsonMembers_eq]
    refine .object fun m hm => ?_
    obtain ⟨w, hw, rfl⟩ := List.mem_map.mp hm
    exact ih w hw

/-! ## Content -/

variable {f : Leaf → Leaf}

/-- The content of a member, which is none when it is undefined. -/
def memberContent (f : Leaf → Leaf) : JsValue → Option Content
  | leaf .undefined => none
  | v => some (contentWith f v)

theorem contentMembers_eq (members : List (Text × JsValue)) :
    contentMembers f members =
      members.filterMap fun m => (memberContent f m.2).map (m.1, ·) := by
  induction members with
  | nil => rfl
  | cons m members ih =>
    obtain ⟨key, v⟩ := m
    rcases v with l | _ | _ | _
    · cases l <;> simp [contentMembers, memberContent, ih]
    all_goals simp [contentMembers, memberContent, ih]

theorem memberContent_ofJson (j : Json) : memberContent f (ofJson j) = some (contentWith f (ofJson j)) := by
  cases j <;> rfl

theorem contentMembers_ofJson (members : List (Text × Json)) :
    contentMembers f (ofJsonMembers members) =
      members.map fun m => (m.1, contentWith f (ofJson m.2)) := by
  induction members with
  | nil => rfl
  | cons m members ih =>
    rw [contentMembers_eq] at ih ⊢
    rw [ofJsonMembers, List.filterMap_cons_some (by rw [memberContent_ofJson]; rfl), ih, List.map_cons]

theorem contentEntries_ofJson (values : List Json) :
    contentEntries f (ofJsonValues values) = values.map fun v => contentWith f (ofJson v) := by
  induction values with
  | nil => rfl
  | cons v values ih => rw [ofJsonValues, contentEntries, List.map_cons, ih]

theorem eq_of_map_eq {α β : Type} {g : α → β} {l l' : List α} (h : l.map g = l'.map g)
    (hg : ∀ a ∈ l, ∀ b ∈ l', g a = g b → a = b) : l = l' := by
  induction l generalizing l' with
  | nil => exact (List.map_eq_nil_iff.mp h.symm).symm
  | cons a l ih =>
    cases l' with
    | nil => cases h
    | cons b l' =>
      obtain ⟨hhead, htail⟩ := List.cons.inj h
      rw [hg a List.mem_cons_self b List.mem_cons_self hhead,
        ih htail fun c hc d hd => hg c (List.mem_cons_of_mem _ hc) d (List.mem_cons_of_mem _ hd)]

/-- Canonical values with one content are one, when the content tells apart the values without parts
that JSON has. -/
theorem ofJson_injective (hnull : f .null = .null) (hboolean : ∀ b, f (.boolean b) = .boolean b)
    (hnumber : ∀ x : Numeral, x.isNegativeZero = false →
      f (.number (.finite x)) = .number (.finite x))
    (hstring : ∀ text, f (.string text) = .string text) {j k : Json} (hj : j.Canonical)
    (hk : k.Canonical) (h : contentWith f (ofJson j) = contentWith f (ofJson k)) : j = k := by
  induction j generalizing k with
  | array values ih =>
    cases hj with
    | array hvalues =>
      cases hk with
      | array hvalues' =>
        simp only [ofJson, contentWith, contentEntries_ofJson, Content.array.injEq] at h
        rw [eq_of_map_eq h fun v hv w hw => ih v hv (hvalues v hv) (hvalues' w hw)]
      | number hx => simp [ofJson, contentWith, hnumber _ hx] at h
      | _ => simp [ofJson, contentWith] at h
  | object members ih =>
    cases hj with
    | object hkeys hmembers =>
      cases hk with
      | @object members' hkeys' hmembers' =>
        simp only [ofJson, contentWith, contentMembers_ofJson, Content.object.injEq] at h
        have hmap := eq_of_lookup (by rw [List.map_map]; exact hkeys) (by rw [List.map_map]; exact hkeys')
          (congrFun h)
        have heq := eq_of_map_eq hmap fun m hm m' hm' heq =>
          Prod.ext (congrArg (fun c => c.1) heq)
            (ih m hm (hmembers m hm) (hmembers' m' hm') (congrArg (fun c => c.2) heq))
        rw [heq]
      | _ => simp [ofJson, contentWith] at h
  | number x =>
    cases hj with
    | number hx =>
      cases hk with
      | number hy => simpa [ofJson, contentWith, hnumber _ hx, hnumber _ hy] using h
      | _ => simp [ofJson, contentWith, hnull, hboolean, hnumber _ hx, hstring] at h
  | null =>
    cases hk with
    | null => rfl
    | number hy => simp [ofJson, contentWith, hnull, hnumber _ hy] at h
    | _ => simp [ofJson, contentWith, hnull, hboolean, hstring] at h
  | boolean b =>
    cases hk with
    | boolean c => simpa [ofJson, contentWith, hboolean] using h
    | number hy => simp [ofJson, contentWith, hboolean, hnumber _ hy] at h
    | _ => simp [ofJson, contentWith, hnull, hboolean, hstring] at h
  | string text =>
    cases hk with
    | string text' => simpa [ofJson, contentWith, hstring] using h
    | number hy => simp [ofJson, contentWith, hstring, hnumber _ hy] at h
    | _ => simp [ofJson, contentWith, hnull, hboolean, hstring] at h

end JsValue
