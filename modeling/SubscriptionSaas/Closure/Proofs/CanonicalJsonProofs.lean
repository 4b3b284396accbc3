import SubscriptionSaas.AssetAccounting.CanonicalJson
import SubscriptionSaas.Closure.CanonicalJson
import SubscriptionSaas.Closure.Proofs.CanonicalFormProofs

/-!
# Canonical JSON is a fingerprint

Each of the two canonicalisers writes the canonical form of the value that it accepts. The texts are
therefore JSON texts, they are one for values that are read with one content and for no others, and the
text of what is frozen is the text it was frozen from.
-/

namespace SubscriptionSaas.Closure

/-- An entry stands in an array as its form, or as null when it has none. -/
theorem getD_null {α : Type} (write : α → Text) {null : α} {r : Option α} {form : Option Json}
    (hnull : write null = Json.null.write) (h : r.map write = form.map Json.write) :
    write (r.getD null) = (form.getD .null).write := by
  cases r <;> cases form
  · exact hnull
  · cases h
  · cases h
  · exact Option.some.inj h

/-- What is written for the members in the order of their keys. -/
theorem write_sortedMembers {members : List (Text × Json)}
    (h : (members.map Prod.fst).Pairwise (· < ·)) :
    (sortKeys (members.map fun m => (m.1, m.2.write))).map
        (fun m => m.1.quote ++ Text.ofString ":" ++ m.2) = Json.writeMembers members := by
  rw [sortKeys_map fun m : Text × Json => m.2.write, sortKeys_of_sorted h, Json.writeMembers_eq, List.map_map]
  rfl

/-! ## The canonicaliser of closures -/

theorem assertNoAccessors_ok {accessor : Bool} {path : Text} {u : Unit}
    (h : assertNoAccessors accessor path = .ok u) : accessor = false := by
  cases accessor with
  | false => rfl
  | true => cases h

theorem encodeMembers_eq (members : List (Text × MutableJsonValue)) :
    encodeMembers members = members.map fun m => (m.1, encode m.2) := by
  induction members with
  | nil => rfl
  | cons m members ih => rw [encodeMembers, List.map_cons, ih]

theorem canonicalizeMembers_eq (members : List (Text × JsValue)) (path : Text) :
    canonicalizeMembers members path =
      members.map fun m => (m.1, canonicalize m.2 (memberPath path m.1)) := by
  induction members with
  | nil => rfl
  | cons m members ih => rw [canonicalizeMembers, List.map_cons, ih]

theorem canonicalizeEntries_ok {entries : List (Option JsValue)} (hholes : none ∉ entries)
    (ih : ∀ v, some v ∈ entries → ∀ path r, canonicalize v path = .ok r →
      Readable v ∧ r.map encode = (canonicalForm v).map Json.write)
    {path : Text} {index : Nat} {result : List (Option MutableJsonValue)}
    (h : canonicalizeEntries entries path index = .ok result) :
    (∀ v, some v ∈ entries → Readable v) ∧
      encodeEntries result = Json.writeValues (formEntries entries) := by
  induction entries generalizing index result with
  | nil =>
    cases h
    exact ⟨fun v hv => absurd hv List.not_mem_nil, rfl⟩
  | cons entry entries ihe =>
    cases entry with
    | none => exact absurd List.mem_cons_self hholes
    | some v =>
      rw [canonicalizeEntries] at h
      obtain ⟨r, hr, h⟩ := Results.bind_ok h
      obtain ⟨rest, hrest, h⟩ := Results.bind_ok h
      cases h
      obtain ⟨hv, hform⟩ := ih v List.mem_cons_self _ r hr
      obtain ⟨hvs, hforms⟩ := ihe (fun hmem => hholes (List.mem_cons_of_mem _ hmem))
        (fun w hw => ih w (List.mem_cons_of_mem _ hw)) hrest
      refine ⟨fun w hw => ?_, ?_⟩
      · rcases List.mem_cons.mp hw with heq | hmem
        · exact Option.some.inj heq ▸ hv
        · exact hvs w hmem
      · rw [encodeEntries, formEntries, Json.writeValues, hforms, getD_null encode rfl hform]

/-- What is accepted is written as its canonical form. -/
theorem canonicalize_ok {v : JsValue} (hs : v.Sound) (hd : v.Dense) {path : Text}
    {r : Option MutableJsonValue} (h : canonicalize v path = .ok r) :
    Readable v ∧ r.map encode = (canonicalForm v).map Json.write := by
  induction v generalizing path r with
  | leaf l =>
    rcases l with _ | _ | b | (x | _ | _) | n | text | (_ | time) | _ <;> cases h
    · exact ⟨.undefined, rfl⟩
    all_goals exact ⟨.leaf rfl, rfl⟩
  | array accessor entries ih =>
    cases hs with
    | array hsound =>
      cases hd with
      | array hholes hdense =>
        rw [canonicalize] at h
        obtain ⟨u, hu, h⟩ := Results.bind_ok h
        obtain ⟨result, hresult, h⟩ := Results.bind_ok h
        cases h
        obtain ⟨hentries, hforms⟩ := canonicalizeEntries_ok hholes
          (fun v hv path r => ih v hv (hsound v hv) (hdense v hv)) hresult
        rw [assertNoAccessors_ok hu]
        refine ⟨.array hentries, ?_⟩
        rw [Option.map_some, encode, hforms]
        rfl
  | object plain accessor members ih =>
    cases hs with
    | object hkeys hsound =>
      cases hd with
      | object hdense =>
        rw [canonicalize] at h
        obtain ⟨u, hu, h⟩ := Results.bind_ok h
        cases plain with
        | false => cases h
        | true =>
          obtain ⟨result, hresult, h⟩ := Results.bind_ok h
          cases h
          rw [canonicalizeMembers_eq, sortKeys_map fun m => canonicalize m.2 (memberPath path m.1)]
            at hresult
          obtain ⟨hmembers, hforms⟩ := gather_ok (P := Readable) encode canonicalForm Json.write
            (fun m => canonicalize m.2 (memberPath path m.1)) (fun m hm r hr =>
              have hmem := (sortKeys_perm members).mem_iff.mp hm
              ih m hmem (hsound m hmem) (hdense m hmem) hr) hresult
          rw [assertNoAccessors_ok hu]
          refine ⟨.object fun m hm => hmembers m ((sortKeys_perm members).mem_iff.mpr hm), ?_⟩
          rw [Option.map_some, encode, encodeMembers_eq, hforms, write_sortedMembers, canonicalForm_object]
          · rfl
          · exact (sortKeys_sorted hkeys).sublist
              (keys_filterMap_sublist (fun m => canonicalForm m.2) (sortKeys members))
  | ancestor => cases h

/-- Every value of the accepted kind is accepted. -/
theorem canonicalize_of_readable {v : JsValue} (hr : Readable v) (path : Text) :
    ∃ r, canonicalize v path = .ok r := by
  induction v generalizing path with
  | leaf l =>
    cases hr with
    | undefined => exact ⟨none, rfl⟩
    | leaf hl => rcases l with _ | _ | b | (x | _ | _) | n | text | (_ | time) | _ <;>
        first | exact ⟨_, rfl⟩ | cases hl
  | array accessor entries ih =>
    cases hr with
    | array hentries =>
      have hwalk : ∀ index, ∃ result, canonicalizeEntries entries path index = .ok result := by
        induction entries with
        | nil => exact fun _ => ⟨[], rfl⟩
        | cons entry entries ihe =>
          intro index
          obtain ⟨rest, hrest⟩ := ihe (fun v hv => ih v (List.mem_cons_of_mem _ hv))
            (fun v hv => hentries v (List.mem_cons_of_mem _ hv)) (index + 1)
          cases entry with
          | none => exact ⟨none :: rest, Results.bind_eq hrest⟩
          | some v =>
            obtain ⟨r, hr⟩ := ih v List.mem_cons_self (hentries v List.mem_cons_self)
              (entryPath path index)
            exact ⟨some (r.getD .null) :: rest, (Results.bind_eq hr).trans (Results.bind_eq hrest)⟩
      obtain ⟨result, hresult⟩ := hwalk 0
      exact ⟨some (.array result), Results.bind_eq hresult⟩
  | object plain accessor members ih =>
    cases hr with
    | object hmembers =>
      obtain ⟨result, hresult⟩ := gather_of_ok (fun m => canonicalize m.2 (memberPath path m.1))
        fun m hm =>
          have hmem := (sortKeys_perm members).mem_iff.mp hm
          ih m hmem (hmembers m hmem) (memberPath path m.1)
      rw [← sortKeys_map fun m => canonicalize m.2 (memberPath path m.1), ← canonicalizeMembers_eq]
        at hresult
      exact ⟨some (.object result), Results.bind_eq hresult⟩
  | ancestor => cases hr

theorem freezeJson_eq (j : Json) : freezeJson j = j := by
  induction j with
  | array values ih =>
    have hvalues : freezeValues values = values := by
      induction values with
      | nil => rfl
      | cons v values ihv =>
        rw [freezeValues, ih v List.mem_cons_self, ihv fun w hw => ih w (List.mem_cons_of_mem _ hw)]
    rw [freezeJson, hvalues]
  | object members ih =>
    have hmembers : freezeMembers members = members := by
      induction members with
      | nil => rfl
      | cons m members ihm =>
        rw [freezeMembers, ih m List.mem_cons_self, ihm fun w hw => ih w (List.mem_cons_of_mem _ hw)]
    rw [freezeJson, hmembers]
  | _ => rfl

theorem canonicalize_object {plain accessor : Bool} {members : List (Text × JsValue)} {path : Text}
    {r : Option MutableJsonValue} (h : canonicalize (.object plain accessor members) path = .ok r) :
    ∃ members', r = some (.object members') := by
  rw [canonicalize] at h
  obtain ⟨u, hu, h⟩ := Results.bind_ok h
  cases plain with
  | false => cases h
  | true =>
    obtain ⟨result, hresult, h⟩ := Results.bind_ok h
    cases h
    exact ⟨result, rfl⟩

/-- The text of an accepted value is that of its canonical form. -/
theorem canonicalSubscriptionClosureJson_ok {v : JsValue} (hs : v.Sound) (hd : v.Dense) {text : Text}
    (h : canonicalSubscriptionClosureJson v = .ok text) :
    v.isObject = true ∧ Readable v ∧ ∃ j, canonicalForm v = some j ∧ text = j.write := by
  rw [canonicalSubscriptionClosureJson] at h
  cases hobject : v.isObject with
  | false => rw [hobject] at h; cases h
  | true =>
    rw [hobject] at h
    obtain ⟨r, hr, h⟩ := Results.bind_ok h
    obtain ⟨hreadable, hform⟩ := canonicalize_ok hs hd hr
    have htext : r.map encode = some text := by
      rcases r with _ | (_ | _ | _ | _ | _ | _) <;> cases h <;> rfl
    rw [htext] at hform
    obtain ⟨j, hj, hwrite⟩ := Option.map_eq_some_iff.mp hform.symm
    exact ⟨rfl, hreadable, j, hj, hwrite.symm⟩

/-- The canonical form of an object is accepted, and its text is what the form is written as. -/
theorem canonicalSubscriptionClosureJson_ofJson {members : List (Text × Json)}
    (hj : (Json.object members).Canonical) :
    canonicalSubscriptionClosureJson (.ofJson (.object members)) = .ok (Json.object members).write := by
  have hs := JsValue.sound_ofJson hj
  obtain ⟨r, hr⟩ := canonicalize_of_readable (readable_ofJson (.object members)) (Text.ofString "$")
  obtain ⟨members', hobject⟩ := canonicalize_object hr
  obtain ⟨-, hform⟩ := canonicalize_ok hs (JsValue.dense_ofJson _) hr
  rw [hobject, canonicalForm_ofJson hj] at hform
  rw [hobject] at hr
  rw [canonicalSubscriptionClosureJson]
  refine (Results.bind_eq hr).trans ?_
  exact congrArg Except.ok (Option.some.inj hform)

/-- What an object is frozen to is its canonical form. -/
theorem freezeSubscriptionClosureOutcome_eq {v : JsValue} {j : Json} (hj : j.Canonical)
    (h : canonicalSubscriptionClosureJson v = .ok j.write) :
    freezeSubscriptionClosureOutcome v = .ok j := by
  rw [freezeSubscriptionClosureOutcome, Results.bind_eq h, Json.parse_write hj]
  exact congrArg Except.ok (freezeJson_eq j)

/-! ## The canonicaliser of asset accounting -/

theorem serializeMembers_eq (members : List (Text × AssetAccounting.CanonicalValue)) :
    AssetAccounting.serializeMembers members =
      members.map fun m => (m.1, AssetAccounting.serializeCanonicalValue m.2) := by
  induction members with
  | nil => rfl
  | cons m members ih => rw [AssetAccounting.serializeMembers, List.map_cons, ih]

theorem canonicalizeMembers_eq_map (members : List (Text × JsValue)) (path : Text) :
    AssetAccounting.canonicalizeMembers members path = members.map fun m =>
      (m.1, AssetAccounting.canonicalizeValue m.2 (AssetAccounting.memberPath path m.1)) := by
  induction members with
  | nil => rfl
  | cons m members ih => rw [AssetAccounting.canonicalizeMembers, List.map_cons, ih]

/-- A negative zero is written like the zero that it is read as. -/
theorem serialize_number (x : Numeral) :
    AssetAccounting.serializeCanonicalValue (.number x) = x.unsigned.text := by
  rw [AssetAccounting.serializeCanonicalValue]
  cases hx : x.isNegativeZero with
  | false =>
    rw [unsigned_eq hx]
    rfl
  | true =>
    have hnil : x.digits = [] := List.isEmpty_iff.mp (Bool.and_eq_true_iff.mp hx).2
    simp [Numeral.text, Numeral.unsigned, hnil]

theorem assetEntries_ok {entries : List (Option JsValue)}
    (ih : ∀ v, some v ∈ entries → ∀ path r, AssetAccounting.canonicalizeValue v path = .ok r →
      r.map AssetAccounting.serializeCanonicalValue = (canonicalForm v).map Json.write)
    {path : Text} {index : Nat} {result : List AssetAccounting.CanonicalValue}
    (h : AssetAccounting.canonicalizeEntries entries path index = .ok result) :
    AssetAccounting.serializeValues result = Json.writeValues (formEntries entries) := by
  induction entries generalizing index result with
  | nil =>
    cases h
    rfl
  | cons entry entries ihe =>
    have ihe := fun index result => @ihe (fun v hv => ih v (List.mem_cons_of_mem _ hv)) index result
    cases entry with
    | none =>
      rw [AssetAccounting.canonicalizeEntries] at h
      obtain ⟨rest, hrest, h⟩ := Results.bind_ok h
      cases h
      rw [AssetAccounting.serializeValues, formEntries, Json.writeValues, ihe _ _ hrest]
      rfl
    | some v =>
      rw [AssetAccounting.canonicalizeEntries] at h
      obtain ⟨r, hr, h⟩ := Results.bind_ok h
      obtain ⟨rest, hrest, h⟩ := Results.bind_ok h
      cases h
      rw [AssetAccounting.serializeValues, formEntries, Json.writeValues, ihe _ _ hrest,
        getD_null AssetAccounting.serializeCanonicalValue rfl (ih v List.mem_cons_self _ r hr)]

/-- What asset accounting accepts is written as its canonical form too. -/
theorem canonicalizeValue_ok {v : JsValue} (hs : v.Sound) {path : Text}
    {r : Option AssetAccounting.CanonicalValue}
    (h : AssetAccounting.canonicalizeValue v path = .ok r) :
    r.map AssetAccounting.serializeCanonicalValue = (canonicalForm v).map Json.write := by
  induction v generalizing path r with
  | leaf l =>
    rcases l with _ | _ | b | (x | _ | _) | n | text | ⟨time, accessor⟩ | _
    · cases h; rfl
    · cases h; rfl
    · cases h; rfl
    · cases h
      exact congrArg some (serialize_number x)
    · cases h
    · cases h
    · cases h; rfl
    · cases h; rfl
    · cases accessor with
      | true => cases time <;> cases h
      | false =>
        cases time with
        | none => cases h
        | some time => cases h; rfl
    · cases h
  | array accessor entries ih =>
    cases hs with
    | array hsound =>
      rw [AssetAccounting.canonicalizeValue] at h
      obtain ⟨u, hu, h⟩ := Results.bind_ok h
      obtain ⟨result, hresult, h⟩ := Results.bind_ok h
      cases h
      have hentries := assetEntries_ok (fun v hv path r => ih v hv (hsound v hv)) hresult
      rw [Option.map_some, AssetAccounting.serializeCanonicalValue, hentries]
      rfl
  | object plain accessor members ih =>
    cases hs with
    | object hkeys hsound =>
      rw [AssetAccounting.canonicalizeValue] at h
      cases plain with
      | false => cases h
      | true =>
        obtain ⟨u, hu, h⟩ := Results.bind_ok h
        obtain ⟨result, hresult, h⟩ := Results.bind_ok h
        cases h
        rw [canonicalizeMembers_eq_map, sortKeys_map fun m =>
          AssetAccounting.canonicalizeValue m.2 (AssetAccounting.memberPath path m.1)] at hresult
        obtain ⟨-, hforms⟩ := gather_ok (P := fun _ => True) AssetAccounting.serializeCanonicalValue
          canonicalForm Json.write
          (fun m => AssetAccounting.canonicalizeValue m.2 (AssetAccounting.memberPath path m.1))
          (fun m hm r hr =>
            have hmem := (sortKeys_perm members).mem_iff.mp hm
            ⟨trivial, ih m hmem (hsound m hmem) hr⟩) hresult
        rw [Option.map_some, AssetAccounting.serializeCanonicalValue, serializeMembers_eq, hforms,
          write_sortedMembers, canonicalForm_object]
        · rfl
        · exact (sortKeys_sorted hkeys).sublist
            (keys_filterMap_sublist (fun m => canonicalForm m.2) (sortKeys members))
  | ancestor => cases h

theorem canonicalAssetAccountingJson_ok {v : JsValue} (hs : v.Sound) {text : Text}
    (h : AssetAccounting.canonicalAssetAccountingJson v = .ok text) :
    ∃ j, canonicalForm v = some j ∧ text = j.write := by
  rw [AssetAccounting.canonicalAssetAccountingJson] at h
  cases hobject : v.isObject with
  | false => rw [hobject] at h; cases h
  | true =>
    rw [hobject] at h
    obtain ⟨r, hr, h⟩ := Results.bind_ok h
    have hform := canonicalizeValue_ok hs hr
    have htext : r.map AssetAccounting.serializeCanonicalValue = some text := by
      rcases r with _ | (_ | _ | _ | _ | _ | _) <;> cases h
      rfl
    rw [htext] at hform
    obtain ⟨j, hj, hwrite⟩ := Option.map_eq_some_iff.mp hform.symm
    exact ⟨j, hj, hwrite.symm⟩

/-! ## The fingerprint -/

/-- The texts of values without holes in their arrays are a fingerprint: a text is a JSON text, it is
the text of another value exactly when the two are read with one content, what an object is frozen to
has the text of the object, and asset accounting gives no other text. -/
theorem canonicalJson_fingerprint (v w : Snapshot) (hv : v.value.Dense) (hw : w.value.Dense)
    {text text' : Text} (htext : canonicalSubscriptionClosureJson v.value = .ok text)
    (htext' : canonicalSubscriptionClosureJson w.value = .ok text') :
    (Json.parse text).isSome ∧
      (text = text' ↔
        JsValue.contentWith read v.value = JsValue.contentWith read w.value) ∧
      (v.value.isDate = false → ∃ frozen, freezeSubscriptionClosureOutcome v.value = .ok frozen ∧
        canonicalSubscriptionClosureJson (.ofJson frozen) = .ok text) ∧
      ∀ assetText, AssetAccounting.canonicalAssetAccountingJson v.value = .ok assetText →
        assetText = text := by
  obtain ⟨hobject, hreadable, j, hj, rfl⟩ := canonicalSubscriptionClosureJson_ok v.sound hv htext
  obtain ⟨-, hreadable', k, hk, rfl⟩ := canonicalSubscriptionClosureJson_ok w.sound hw htext'
  have hcj := canonicalForm_canonical v.sound hj
  have hck := canonicalForm_canonical w.sound hk
  refine ⟨by rw [Json.parse_write hcj]; rfl, ?_, fun hdate => ?_, fun assetText hasset => ?_⟩
  · rw [← canonicalForm_eq_iff v.sound w.sound hreadable hreadable' hj hk]
    exact ⟨Json.write_injective hcj hck, fun h => by rw [h]⟩
  · refine ⟨j, freezeSubscriptionClosureOutcome_eq hcj htext, ?_⟩
    obtain ⟨members, rfl⟩ : ∃ members, j = .object members := by
      cases hvalue : v.value with
      | leaf l => rw [hvalue] at hobject hdate; cases l <;> simp_all [JsValue.isObject, JsValue.isDate]
      | array accessor entries => rw [hvalue] at hobject; cases hobject
      | object plain accessor members =>
        rw [hvalue, canonicalForm_object] at hj
        exact ⟨_, (Option.some.inj hj).symm⟩
      | ancestor => rw [hvalue] at hj; cases hj
    exact canonicalSubscriptionClosureJson_ofJson hcj
  · obtain ⟨k, hk, rfl⟩ := canonicalAssetAccountingJson_ok v.sound hasset
    rw [hj] at hk
    rw [Option.some.inj hk]

/-- What is written as `{ z: 2n, nested: { when: new Date(0), a: true }, ignored: undefined }`. -/
def sampleSnapshot : Snapshot where
  value := .object true false
    [(Text.ofString "z", .leaf (.bigint 2)),
      (Text.ofString "nested", .object true false
        [(Text.ofString "when", .leaf (.date (some 0) false)),
          (Text.ofString "a", .leaf (.boolean true))]),
      (Text.ofString "ignored", .leaf .undefined)]
  sound := by
    refine .object (by decide) (List.forall_mem_cons.mpr ⟨.leaf _, List.forall_mem_cons.mpr
      ⟨.object (by decide) ?_, List.forall_mem_singleton.mpr (.leaf _)⟩⟩)
    exact List.forall_mem_cons.mpr ⟨.leaf _, List.forall_mem_singleton.mpr (.leaf _)⟩

/-- What the sample is read as, with its members in another order. -/
def sampleReading : Snapshot where
  value := .object true false
    [(Text.ofString "nested", .object true false
        [(Text.ofString "a", .leaf (.boolean true)),
          (Text.ofString "when", .leaf (.string (Text.ofString "1970-01-01T00:00:00.000Z")))]),
      (Text.ofString "z", .leaf (.string (Text.ofString "2")))]
  sound := by
    refine .object (by decide) (List.forall_mem_cons.mpr
      ⟨.object (by decide) ?_, List.forall_mem_singleton.mpr (.leaf _)⟩)
    exact List.forall_mem_cons.mpr ⟨.leaf _, List.forall_mem_singleton.mpr (.leaf _)⟩

theorem canonicalJson_fingerprint_sample :
    JsValue.contentWith read sampleSnapshot.value =
        JsValue.contentWith read sampleReading.value ∧
      ∃ frozen, freezeSubscriptionClosureOutcome sampleSnapshot.value = .ok frozen ∧
        canonicalSubscriptionClosureJson (.ofJson frozen) = .ok (Text.ofString
          "\x7b\"nested\":\x7b\"a\":true,\"when\":\"1970-01-01T00:00:00.000Z\"\x7d,\"z\":\"2\"\x7d") := by
  have hdense : sampleSnapshot.value.Dense :=
    .object (List.forall_mem_cons.mpr ⟨.leaf _, List.forall_mem_cons.mpr
      ⟨.object (List.forall_mem_cons.mpr ⟨.leaf _, List.forall_mem_singleton.mpr (.leaf _)⟩),
        List.forall_mem_singleton.mpr (.leaf _)⟩⟩)
  have hdense' : sampleReading.value.Dense :=
    .object (List.forall_mem_cons.mpr
      ⟨.object (List.forall_mem_cons.mpr ⟨.leaf _, List.forall_mem_singleton.mpr (.leaf _)⟩),
        List.forall_mem_singleton.mpr (.leaf _)⟩)
  obtain ⟨-, hcontent, hfrozen, -⟩ := canonicalJson_fingerprint sampleSnapshot sampleReading
    hdense hdense' rfl rfl
  exact ⟨hcontent.mp rfl, hfrozen rfl⟩

/-- `{ amount }`. -/
def amountOf (v : JsValue) : JsValue := .object true false [(Text.ofString "amount", v)]

/-- The amounts `1n` and `"1"` are different and have one text, and so have `[undefined]` and `[null]`.
The text of an array with a hole is no JSON text, and what a date is frozen to is rejected. -/
theorem canonicalJson_exceptions :
    (canonicalSubscriptionClosureJson (amountOf (.leaf (.bigint 1))) =
        .ok (Text.ofString "\x7b\"amount\":\"1\"\x7d") ∧
      canonicalSubscriptionClosureJson (amountOf (.leaf (.string (Text.ofString "1")))) =
        .ok (Text.ofString "\x7b\"amount\":\"1\"\x7d") ∧
      (amountOf (.leaf (.bigint 1))).content ≠
        (amountOf (.leaf (.string (Text.ofString "1")))).content) ∧
      (canonicalSubscriptionClosureJson (amountOf (.array false [some (.leaf .undefined)])) =
          .ok (Text.ofString "\x7b\"amount\":[null]\x7d") ∧
        canonicalSubscriptionClosureJson (amountOf (.array false [some (.leaf .null)])) =
          .ok (Text.ofString "\x7b\"amount\":[null]\x7d") ∧
        (amountOf (.array false [some (.leaf .undefined)])).content ≠
          (amountOf (.array false [some (.leaf .null)])).content) ∧
      (canonicalSubscriptionClosureJson
            (amountOf (.array false [some (.leaf .null), none, some (.leaf .null)])) =
          .ok (Text.ofString "\x7b\"amount\":[null,,null]\x7d") ∧
        (Json.parse (Text.ofString "\x7b\"amount\":[null,,null]\x7d")).isSome = false) ∧
      ∃ frozen, freezeSubscriptionClosureOutcome (.leaf (.date (some 0) false)) = .ok frozen ∧
        ∃ e, canonicalSubscriptionClosureJson (.ofJson frozen) = .error e := by
  have hmember : ∀ {v w : JsValue}, (amountOf v).content = (amountOf w).content →
      (JsValue.contentMembers id [(Text.ofString "amount", v)]).lookup (Text.ofString "amount") =
        (JsValue.contentMembers id [(Text.ofString "amount", w)]).lookup (Text.ofString "amount") :=
    fun h => congrFun (Content.object.inj h) (Text.ofString "amount")
  refine ⟨⟨rfl, rfl, fun h => ?_⟩, ⟨rfl, rfl, fun h => ?_⟩, ⟨rfl, by decide +kernel⟩, _, rfl, _, rfl⟩
  · simpa [JsValue.contentMembers, JsValue.contentWith] using hmember h
  · simpa [JsValue.contentMembers, JsValue.contentWith, JsValue.contentEntries] using hmember h

end SubscriptionSaas.Closure
