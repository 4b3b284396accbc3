import SubscriptionSaas.Closure.CanonicalForm
import SubscriptionSaas.Lib.Proofs.JsValueProofs

/-!
# The canonical form is the content

The canonical form of a value is a canonical JSON value with the content of the value as it is read, so
that two values have one form when they have one content.
-/

namespace SubscriptionSaas.Closure

theorem formEntries_eq (entries : List (Option JsValue)) :
    formEntries entries = entries.map fun entry => (entry.bind canonicalForm).getD .null := by
  induction entries with
  | nil => rfl
  | cons entry entries ih => cases entry <;> rw [formEntries, List.map_cons, ih] <;> rfl

theorem formMembers_eq (members : List (Text × JsValue)) :
    formMembers members = members.map fun m => (m.1, canonicalForm m.2) := by
  induction members with
  | nil => rfl
  | cons m members ih => rw [formMembers, List.map_cons, ih]

theorem canonicalForm_object (plain accessor : Bool) (members : List (Text × JsValue)) :
    canonicalForm (.object plain accessor members) =
      some (.object ((sortKeys members).filterMap fun m => (canonicalForm m.2).map (m.1, ·))) := by
  rw [canonicalForm, formMembers_eq, sortKeys_map fun m => canonicalForm m.2, List.filterMap_map]
  rfl

theorem unsigned_isNegativeZero (x : Numeral) : x.unsigned.isNegativeZero = false := by
  cases x with
  | mk negative ds point head last zero =>
    cases negative <;> simp [Numeral.unsigned, Numeral.isNegativeZero]

theorem unsigned_eq {x : Numeral} (h : x.isNegativeZero = false) : x.unsigned = x := by
  cases x with
  | mk negative ds point head last zero =>
    cases negative <;> simp_all [Numeral.unsigned, Numeral.isNegativeZero]

theorem leafForm_canonical {l : Leaf} {j : Json} (h : leafForm l = some j) : j.Canonical := by
  rcases l with _ | _ | b | (x | _ | _) | n | text | (_ | time) | _ <;> cases h
  · exact .null
  · exact .boolean b
  · exact .number (unsigned_isNegativeZero x)
  · exact .string _
  · exact .string text
  · exact .string _

theorem canonicalForm_canonical {v : JsValue} (hs : v.Sound) {j : Json}
    (h : canonicalForm v = some j) : j.Canonical := by
  induction v generalizing j with
  | leaf l => exact leafForm_canonical h
  | array accessor entries ih =>
    cases hs with
    | array hentries =>
      cases h
      rw [formEntries_eq]
      refine .array fun j hj => ?_
      obtain ⟨entry, hentry, rfl⟩ := List.mem_map.mp hj
      cases entry with
      | none => exact .null
      | some v =>
        simp only [Option.bind_some]
        cases hform : canonicalForm v with
        | none => exact .null
        | some j => exact ih v hentry (hentries v hentry) hform
  | object plain accessor members ih =>
    cases hs with
    | object hkeys hmembers =>
      rw [canonicalForm_object] at h
      cases h
      refine .object ((sortKeys_sorted hkeys).sublist
        (keys_filterMap_sublist (fun m => canonicalForm m.2) (sortKeys members))) fun m hm => ?_
      obtain ⟨member, hmember, hform⟩ := List.mem_filterMap.mp hm
      obtain ⟨j, hj, rfl⟩ := Option.map_eq_some_iff.mp hform
      have hmem := (sortKeys_perm members).mem_iff.mp hmember
      exact ih member hmem (hmembers member hmem) hj
  | ancestor => cases h

theorem content_leafForm {l : Leaf} (h : (leafForm l).isSome) :
    Content.leaf (read l) = JsValue.contentWith read (.ofJson ((leafForm l).getD .null)) := by
  rcases l with _ | _ | b | (x | _ | _) | n | text | (_ | time) | _ <;> try cases h
  all_goals simp [leafForm, JsValue.ofJson, JsValue.contentWith, read]
  rw [unsigned_eq (unsigned_isNegativeZero x)]

/-- A member without a form is one that is undefined. -/
theorem memberContent_eq {v : JsValue} (hr : Readable v)
    (h : JsValue.contentWith read v =
      JsValue.contentWith read (.ofJson ((canonicalForm v).getD .null))) :
    JsValue.memberContent read v =
      (canonicalForm v).map fun j => JsValue.contentWith read (.ofJson j) := by
  cases hr with
  | undefined => rfl
  | @leaf l hl =>
    obtain ⟨j, hj⟩ := Option.isSome_iff_exists.mp hl
    have hform : canonicalForm (.leaf l) = some j := hj
    rw [hform] at h ⊢
    cases l with
    | undefined => cases hj
    | _ => exact congrArg some h
  | array hentries => exact congrArg some h
  | object hmembers => exact congrArg some h

/-- A value that is accepted has the content of its form. -/
theorem content_canonicalForm {v : JsValue} (hs : v.Sound) (hr : Readable v) :
    JsValue.contentWith read v =
      JsValue.contentWith read (.ofJson ((canonicalForm v).getD .null)) := by
  induction v with
  | leaf l =>
    cases hr with
    | undefined => rfl
    | leaf hl => exact content_leafForm hl
  | array accessor entries ih =>
    cases hs with
    | array hsound =>
      cases hr with
      | array hreadable =>
        have hentries : JsValue.contentEntries read entries =
            JsValue.contentEntries read (JsValue.ofJsonValues (formEntries entries)) := by
          rw [JsValue.contentEntries_ofJson, formEntries_eq, List.map_map]
          induction entries with
          | nil => rfl
          | cons entry entries ihe =>
            have ihe := ihe (fun v hv => ih v (List.mem_cons_of_mem _ hv))
              (fun v hv => hsound v (List.mem_cons_of_mem _ hv))
              (fun v hv => hreadable v (List.mem_cons_of_mem _ hv))
            cases entry with
            | none => rw [JsValue.contentEntries, List.map_cons, ihe]; rfl
            | some v =>
              have hv := ih v List.mem_cons_self (hsound v List.mem_cons_self)
                (hreadable v List.mem_cons_self)
              rw [JsValue.contentEntries, List.map_cons, ihe, hv]
              rfl
        exact congrArg Content.array hentries
  | object plain accessor members ih =>
    cases hs with
    | object hkeys hsound =>
      cases hr with
      | object hreadable =>
        have hmembers : JsValue.contentMembers read members = members.filterMap fun m =>
            ((canonicalForm m.2).map fun j => JsValue.contentWith read (.ofJson j)).map (m.1, ·) := by
          rw [JsValue.contentMembers_eq]
          refine List.filterMap_congr fun m hm => ?_
          rw [memberContent_eq (hreadable m hm) (ih m hm (hsound m hm) (hreadable m hm))]
        have hform : JsValue.contentMembers read (JsValue.ofJsonMembers
            ((sortKeys members).filterMap fun m => (canonicalForm m.2).map (m.1, ·))) =
            (sortKeys members).filterMap fun m =>
              ((canonicalForm m.2).map fun j => JsValue.contentWith read (.ofJson j)).map (m.1, ·) := by
          rw [JsValue.contentMembers_ofJson, List.map_filterMap]
          refine List.filterMap_congr fun m _ => ?_
          rw [Option.map_map, Option.map_map]
          rfl
        rw [canonicalForm_object, Option.getD_some, JsValue.ofJson, JsValue.contentWith,
          JsValue.contentWith, hform, hmembers]
        refine congrArg Content.object (funext fun key => ?_)
        refine lookup_perm (hkeys.sublist (keys_filterMap_sublist _ members)) ?_ key
        exact ((sortKeys_perm members).filterMap _).symm
  | ancestor => cases hr

/-! ## Canonical values -/

theorem readable_ofJson (j : Json) : Readable (.ofJson j) := by
  induction j with
  | null => exact .leaf rfl
  | boolean b => exact .leaf rfl
  | number x => exact .leaf rfl
  | string text => exact .leaf rfl
  | array values ih =>
    rw [JsValue.ofJson, JsValue.ofJsonValues_eq]
    refine .array fun v hv => ?_
    obtain ⟨w, hw, heq⟩ := List.mem_map.mp hv
    exact Option.some.inj heq ▸ ih w hw
  | object members ih =>
    rw [JsValue.ofJson, JsValue.ofJsonMembers_eq]
    refine .object fun m hm => ?_
    obtain ⟨w, hw, rfl⟩ := List.mem_map.mp hm
    exact ih w hw

/-- Canonical values with one content, as it is read, are one. -/
theorem eq_of_content {j k : Json} (hj : j.Canonical) (hk : k.Canonical)
    (h : JsValue.contentWith read (.ofJson j) = JsValue.contentWith read (.ofJson k)) : j = k :=
  JsValue.ofJson_injective rfl (fun _ => rfl)
    (fun x hx => by rw [read, unsigned_eq hx]) (fun _ => rfl) hj hk h

/-- A canonical value is its own form. -/
theorem canonicalForm_ofJson {j : Json} (hj : j.Canonical) : canonicalForm (.ofJson j) = some j := by
  have hcontent := content_canonicalForm (JsValue.sound_ofJson hj) (readable_ofJson j)
  cases hform : canonicalForm (.ofJson j) with
  | none =>
    cases j <;> cases hform
  | some k =>
    rw [hform] at hcontent
    have hk := canonicalForm_canonical (JsValue.sound_ofJson hj) hform
    rw [eq_of_content hj hk hcontent]

/-- Accepted values have one form exactly when they are read with one content. -/
theorem canonicalForm_eq_iff {v w : JsValue} (hv : v.Sound) (hw : w.Sound) (hrv : Readable v)
    (hrw : Readable w) {j k : Json} (hj : canonicalForm v = some j) (hk : canonicalForm w = some k) :
    j = k ↔ JsValue.contentWith read v = JsValue.contentWith read w := by
  rw [content_canonicalForm hv hrv, content_canonicalForm hw hrw, hj, hk]
  exact ⟨fun h => by rw [h], eq_of_content (canonicalForm_canonical hv hj)
    (canonicalForm_canonical hw hk)⟩

end SubscriptionSaas.Closure
