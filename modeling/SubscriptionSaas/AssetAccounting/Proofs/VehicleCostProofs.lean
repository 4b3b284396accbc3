import SubscriptionSaas.AssetAccounting.VehicleCosts
import SubscriptionSaas.Lib.Tables
import Mathlib.Tactic.Ring

/-!
# Vehicle cost summaries

An accepted list of entries is summed up to tallies of its classified amounts. Each breakdown adds up to
the total, the order of the entries does not matter, and an entry with its reversal adds nothing to any
amount.
-/

namespace SubscriptionSaas.AssetAccounting

open Results

variable {entries entries' : List VehicleCostLedgerEntrySnapshot}
  {entry : VehicleCostLedgerEntrySnapshot} {summary : VehicleCostLedgerSummary}

/-! ## Accepted entries -/

/-- What the checks of the summary come to. -/
structure Accepted (entries : List VehicleCostLedgerEntrySnapshot) : Prop where
  nonblank : ∀ entry ∈ entries, assertNonBlankField (some entry.id) "id" = .ok ()
  unique : (entries.map (·.id)).Nodup
  checked : ∀ entry ∈ entries, assertVehicleCostLedgerEntry entry entries = .ok ()

/-- The entry of an id. -/
theorem entryById_eq (h : (entries.map (·.id)).Nodup) {id : String} :
    entryById entries id = some entry ↔ entry ∈ entries ∧ entry.id = id :=
  Tables.find?_key h

theorem entryById_isNone {id : String} :
    (entryById entries id).isNone = true ↔ id ∉ entries.map (·.id) := by
  rw [Option.isNone_iff_eq_none, entryById, List.find?_eq_none, List.mem_map]
  constructor
  · rintro h ⟨entry, hentry, hid⟩
    exact h entry hentry (beq_iff_eq.2 hid)
  · intro h entry hentry hid
    exact h ⟨entry, hentry, beq_iff_eq.1 hid⟩

theorem indexEntry_ok {byId byId' : List VehicleCostLedgerEntrySnapshot} :
    indexEntry byId entry = .ok byId' ↔ assertNonBlankField (some entry.id) "id" = .ok () ∧
      entry.id ∉ byId.map (·.id) ∧ byId' = byId ++ [entry] := by
  rw [indexEntry, bind_ok_iff]
  constructor
  · rintro ⟨_, hblank, h⟩
    obtain ⟨hfree, h⟩ := require_bind.1 h
    exact ⟨hblank, entryById_isNone.1 hfree, (Except.ok.inj h).symm⟩
  · rintro ⟨hblank, hfree, rfl⟩
    exact ⟨(), hblank, require_bind.2 ⟨entryById_isNone.2 hfree, rfl⟩⟩

theorem indexEntries_ok {byId byId' : List VehicleCostLedgerEntrySnapshot}
    (hbyId : (byId.map (·.id)).Nodup) : entries.foldlM indexEntry byId = .ok byId' ↔
      (∀ entry ∈ entries, assertNonBlankField (some entry.id) "id" = .ok ()) ∧
        ((byId ++ entries).map (·.id)).Nodup ∧ byId' = byId ++ entries := by
  induction entries generalizing byId with
  | nil => simp [pure, Except.pure, hbyId, eq_comm]
  | cons entry rest ih =>
    have hsplit : byId ++ entry :: rest = (byId ++ [entry]) ++ rest := by simp
    rw [List.foldlM_cons, bind_ok_iff, List.forall_mem_cons, hsplit]
    constructor
    · rintro ⟨next, hnext, h⟩
      obtain ⟨hblank, hfree, rfl⟩ := indexEntry_ok.1 hnext
      have hnodup : ((byId ++ [entry]).map (·.id)).Nodup := by
        rw [List.map_append]
        exact List.nodup_append'.2 ⟨hbyId, List.nodup_singleton _, List.disjoint_singleton.2 hfree⟩
      obtain ⟨hrest, hunique, rfl⟩ := (ih hnodup).1 h
      exact ⟨⟨hblank, hrest⟩, hunique, rfl⟩
    · rintro ⟨⟨hblank, hrest⟩, hunique, rfl⟩
      have hnodup : ((byId ++ [entry]).map (·.id)).Nodup := by
        rw [List.map_append] at hunique
        exact (List.nodup_append'.1 hunique).1
      have hfree : entry.id ∉ byId.map (·.id) := by
        rw [List.map_append] at hnodup
        exact List.disjoint_singleton.1 (List.nodup_append'.1 hnodup).2.2
      exact ⟨_, indexEntry_ok.2 ⟨hblank, hfree, rfl⟩, (ih hnodup).2 ⟨hrest, hunique, rfl⟩⟩

/-! ## The tallies -/

/-- The amounts of the entries under what they are classified as. -/
def classifiedAmounts {κ : Type} (entries : List VehicleCostLedgerEntrySnapshot)
    (key : VehicleCostLedgerEntrySnapshot → κ) (of : List VehicleCostLedgerEntrySnapshot) : Buckets κ :=
  of.map fun entry => (key (classifiedAs entries entry), ⟨entry.amountCents, 1⟩)

/-- The summary to which the entries are added. -/
def VehicleCostLedgerSummary.plus (summary : VehicleCostLedgerSummary)
    (entries of : List VehicleCostLedgerEntrySnapshot) : VehicleCostLedgerSummary :=
  { totalAmountCents := summary.totalAmountCents + (of.map (·.amountCents)).sum
    byActionType := Tally.tally summary.byActionType (classifiedAmounts entries (·.actionType) of)
    byResponsibility :=
      Tally.tally summary.byResponsibility (classifiedAmounts entries (·.responsiblePartyType) of)
    byResponsibleParty :=
      Tally.tally summary.byResponsibleParty (classifiedAmounts entries responsibleParty of)
    byCategory := Tally.tally summary.byCategory (classifiedAmounts entries (·.costCategory) of) }

theorem addEntries_ok {of : List VehicleCostLedgerEntrySnapshot}
    {before after : VehicleCostLedgerSummary} :
    of.foldlM (addEntry entries) before = .ok after ↔
      (∀ entry ∈ of, assertVehicleCostLedgerEntry entry entries = .ok ()) ∧
        after = before.plus entries of := by
  induction of generalizing before with
  | nil => simp [pure, Except.pure, VehicleCostLedgerSummary.plus, classifiedAmounts, eq_comm]
  | cons entry rest ih =>
    have hplus : before.plus entries (entry :: rest) = VehicleCostLedgerSummary.plus
        { totalAmountCents := before.totalAmountCents + entry.amountCents
          byActionType := addBucket before.byActionType (classifiedAs entries entry).actionType
            entry.amountCents
          byResponsibility := addBucket before.byResponsibility
            (classifiedAs entries entry).responsiblePartyType entry.amountCents
          byResponsibleParty := addBucket before.byResponsibleParty
            (responsibleParty (classifiedAs entries entry)) entry.amountCents
          byCategory := addBucket before.byCategory (classifiedAs entries entry).costCategory
            entry.amountCents } entries rest := by
      simp only [VehicleCostLedgerSummary.plus, List.map_cons, List.sum_cons, add_assoc]
      rfl
    rw [List.foldlM_cons, bind_ok_iff, List.forall_mem_cons, hplus]
    constructor
    · rintro ⟨next, hnext, h⟩
      obtain ⟨_, hentry, hnext⟩ := bind_ok hnext
      obtain rfl := Except.ok.inj hnext
      obtain ⟨hrest, rfl⟩ := ih.1 h
      exact ⟨⟨hentry, hrest⟩, rfl⟩
    · rintro ⟨⟨hentry, hrest⟩, rfl⟩
      exact ⟨_, bind_eq hentry, ih.2 ⟨hrest, rfl⟩⟩

/-- The summary of accepted entries. -/
theorem summarizeVehicleCostEntries_ok : summarizeVehicleCostEntries entries = .ok summary ↔
    Accepted entries ∧ summary = emptySummary.plus entries entries := by
  have hnil : (([] : List VehicleCostLedgerEntrySnapshot).map (·.id)).Nodup := List.nodup_nil
  rw [summarizeVehicleCostEntries, bind_ok_iff]
  constructor
  · rintro ⟨byId, hindex, h⟩
    obtain ⟨hblank, hunique, rfl⟩ := (indexEntries_ok hnil).1 hindex
    obtain ⟨hchecked, rfl⟩ := addEntries_ok.1 h
    exact ⟨⟨hblank, hunique, hchecked⟩, rfl⟩
  · rintro ⟨haccepted, rfl⟩
    exact ⟨entries, (indexEntries_ok hnil).2 ⟨haccepted.nonblank, haccepted.unique, rfl⟩,
      addEntries_ok.2 ⟨haccepted.checked, rfl⟩⟩

/-! ## The order of the entries -/

/-- The checks of an entry look at its target alone. -/
theorem assertVehicleCostLedgerEntry_congr (h : ∀ id, entry.reversalOfEntryId = some id →
    entryById entries id = entryById entries' id) :
    assertVehicleCostLedgerEntry entry entries = assertVehicleCostLedgerEntry entry entries' := by
  have htarget : entry.reversalOfEntryId.bind (entryById entries) =
      entry.reversalOfEntryId.bind (entryById entries') := by
    cases hid : entry.reversalOfEntryId with
    | none => rfl
    | some id => exact h id hid
  simp only [assertVehicleCostLedgerEntry, assertReversal, htarget]

theorem classifiedAs_congr (h : ∀ id, entry.reversalOfEntryId = some id →
    entryById entries id = entryById entries' id) :
    classifiedAs entries entry = classifiedAs entries' entry := by
  have htarget : (entry.reversalOfEntryId.filter (· != "")).bind (entryById entries) =
      (entry.reversalOfEntryId.filter (· != "")).bind (entryById entries') := by
    cases hid : entry.reversalOfEntryId with
    | none => rfl
    | some id =>
      rw [Option.filter_some]
      split
      · exact h id hid
      · rfl
  simp only [classifiedAs, htarget]

theorem Accepted.perm (h : Accepted entries) (hperm : entries'.Perm entries) :
    Accepted entries' ∧ ∀ id, entryById entries id = entryById entries' id := by
  have hunique : (entries'.map (·.id)).Nodup := (hperm.map _).nodup_iff.2 h.unique
  have hfind : ∀ id, entryById entries id = entryById entries' id :=
    fun id => Tables.find?_key_congr h.unique hunique fun _ _ => hperm.mem_iff.symm
  refine ⟨⟨fun entry hentry => h.nonblank entry (hperm.mem_iff.1 hentry), hunique,
    fun entry hentry => ?_⟩, hfind⟩
  rw [← assertVehicleCostLedgerEntry_congr fun id _ => hfind id]
  exact h.checked entry (hperm.mem_iff.1 hentry)

/-- The same buckets, those of the parties in another order. -/
structure VehicleCostLedgerSummary.Same (summary summary' : VehicleCostLedgerSummary) : Prop where
  total : summary.totalAmountCents = summary'.totalAmountCents
  byActionType : summary.byActionType = summary'.byActionType
  byResponsibility : summary.byResponsibility = summary'.byResponsibility
  byResponsibleParty : summary.byResponsibleParty.Perm summary'.byResponsibleParty
  byCategory : summary.byCategory = summary'.byCategory

theorem classifiedAmounts_perm {κ : Type} (key : VehicleCostLedgerEntrySnapshot → κ)
    (hperm : entries'.Perm entries) (hfind : ∀ id, entryById entries id = entryById entries' id) :
    (classifiedAmounts entries' key entries').Perm (classifiedAmounts entries key entries) := by
  have hsame : classifiedAmounts entries' key entries' = classifiedAmounts entries key entries' := by
    refine List.map_congr_left fun entry _ => ?_
    rw [classifiedAs_congr fun id _ => hfind id]
  rw [hsame]
  exact hperm.map _

theorem emptyBuckets_keys {κ : Type} (keys : List κ) : (emptyBuckets keys).map (·.1) = keys := by
  rw [emptyBuckets, List.map_map]
  exact List.map_id keys

/-- The buckets of an enumeration do not depend on the order. -/
theorem tally_emptyBuckets {κ : Type} [DecidableEq κ] {keys : List κ} (hkeys : keys.Nodup)
    (hall : ∀ key, key ∈ keys) {amounts amounts' : Buckets κ} (h : amounts.Perm amounts') :
    Tally.tally (emptyBuckets keys) amounts = Tally.tally (emptyBuckets keys) amounts' :=
  Tally.tally_eq ((emptyBuckets_keys keys).symm ▸ hkeys)
    (fun key => (emptyBuckets_keys keys).symm ▸ hall key) h

theorem ACTION_TYPES_all : ACTION_TYPES.Nodup ∧ ∀ action, action ∈ ACTION_TYPES :=
  ⟨by decide, fun action => by cases action <;> decide⟩

theorem RESPONSIBILITY_TYPES_all : RESPONSIBILITY_TYPES.Nodup ∧ ∀ party, party ∈ RESPONSIBILITY_TYPES :=
  ⟨by decide, fun party => by cases party <;> decide⟩

theorem COST_CATEGORIES_all : COST_CATEGORIES.Nodup ∧ ∀ category, category ∈ COST_CATEGORIES :=
  ⟨by decide, fun category => by cases category <;> decide⟩

theorem summary_perm (hperm : entries'.Perm entries)
    (hfind : ∀ id, entryById entries id = entryById entries' id) :
    (emptySummary.plus entries' entries').Same (emptySummary.plus entries entries) where
  total := congrArg (emptySummary.totalAmountCents + ·) (hperm.map _).sum_eq
  byActionType := tally_emptyBuckets ACTION_TYPES_all.1 ACTION_TYPES_all.2
    (classifiedAmounts_perm _ hperm hfind)
  byResponsibility := tally_emptyBuckets RESPONSIBILITY_TYPES_all.1 RESPONSIBILITY_TYPES_all.2
    (classifiedAmounts_perm _ hperm hfind)
  byResponsibleParty := Tally.tally_perm (show (([] : Buckets String).map (·.1)).Nodup from
    List.nodup_nil) (classifiedAmounts_perm _ hperm hfind)
  byCategory := tally_emptyBuckets COST_CATEGORIES_all.1 COST_CATEGORIES_all.2
    (classifiedAmounts_perm _ hperm hfind)

/-! ## Balance -/

/-- The breakdown distributes the total, and the entries. -/
def Balanced {κ : Type} (buckets : Buckets κ) (total : Int) (count : Nat) : Prop :=
  (buckets.map (·.2)).sum = ⟨total, count⟩

theorem classifiedAmounts_sum {κ : Type} (key : VehicleCostLedgerEntrySnapshot → κ)
    (of : List VehicleCostLedgerEntrySnapshot) :
    ((classifiedAmounts entries key of).map (·.2)).sum =
      ⟨(of.map (·.amountCents)).sum, of.length⟩ := by
  induction of with
  | nil => rfl
  | cons entry rest ih =>
    have hcons : classifiedAmounts entries key (entry :: rest) =
        (key (classifiedAs entries entry), ⟨entry.amountCents, 1⟩) ::
          classifiedAmounts entries key rest := rfl
    rw [hcons, List.map_cons, List.sum_cons, ih]
    exact VehicleCostSummaryBucket.ext rfl (Nat.add_comm ..)

theorem emptyBuckets_sum {κ : Type} (keys : List κ) : ((emptyBuckets keys).map (·.2)).sum = 0 := by
  refine List.sum_eq_zero fun bucket hbucket => ?_
  obtain ⟨pair, hpair, rfl⟩ := List.mem_map.1 hbucket
  obtain ⟨key, -, rfl⟩ := List.mem_map.1 hpair
  rfl

theorem tally_balanced {κ : Type} [DecidableEq κ] {buckets : Buckets κ}
    (h : (buckets.map (·.2)).sum = 0) (key : VehicleCostLedgerEntrySnapshot → κ)
    (of : List VehicleCostLedgerEntrySnapshot) :
    Balanced (Tally.tally buckets (classifiedAmounts entries key of))
      (of.map (·.amountCents)).sum of.length := by
  rw [Balanced, Tally.sum_tally, h, zero_add, classifiedAmounts_sum]

/-! ## Reversals -/

/-- An accepted entry is an original, or it takes back the original that it names. -/
theorem checked_cases (h : assertVehicleCostLedgerEntry entry entries = .ok ()) :
    (entry.entryKind = .original ∧ entry.reversalOfEntryId = none) ∨
      entry.entryKind = .reversal ∧ ∃ id target, entry.reversalOfEntryId = some id ∧ id ≠ "" ∧
        entryById entries id = some target ∧ target.entryKind = .original ∧
        entry.amountCents = -target.amountCents := by
  rw [assertVehicleCostLedgerEntry] at h
  obtain ⟨_, -, h⟩ := bind_ok h
  obtain ⟨_, -, h⟩ := bind_ok h
  obtain ⟨_, -, h⟩ := bind_ok h
  obtain ⟨-, h⟩ := require_bind.1 h
  obtain ⟨_, -, h⟩ := bind_ok h
  cases hkind : entry.entryKind with
  | original =>
    rw [hkind] at h
    obtain ⟨-, h⟩ := require_bind.1 h
    exact .inl ⟨rfl, Option.isNone_iff_eq_none.1 (require_ok h)⟩
  | reversal =>
    rw [hkind] at h
    refine .inr ⟨rfl, ?_⟩
    obtain ⟨-, h⟩ := require_bind.1 h
    obtain ⟨_, hblank, h⟩ := bind_ok h
    split at h
    · cases h
    · next target htarget =>
      obtain ⟨hfind, horiginal⟩ := Option.filter_eq_some_iff.1 htarget
      obtain ⟨id, hid, hfind⟩ := Option.bind_eq_some_iff.1 hfind
      refine ⟨id, target, hid, ?_, hfind, by simpa using horiginal, by simpa using require_ok h⟩
      rintro rfl
      rw [hid] at hblank
      exact absurd (require_ok hblank) (by decide)

theorem classifiedAs_original (h : entry.entryKind = .original) : classifiedAs entries entry = entry := by
  simp [classifiedAs, h]

theorem classifiedAs_reversal {id : String} {target : VehicleCostLedgerEntrySnapshot}
    (h : entry.entryKind = .reversal) (hid : entry.reversalOfEntryId = some id) (hne : id ≠ "")
    (htarget : entryById entries id = some target) : classifiedAs entries entry = target := by
  have hfilter : (some id).filter (· != "") = some id := by
    rw [Option.filter_some, if_pos (bne_iff_ne.2 hne)]
  simp only [classifiedAs, h, if_true, hid, hfilter, Option.bind_some, htarget, Option.getD_some]

/-- In a longer list the entries of an accepted list are classified as before. -/
theorem Accepted.classifiedAs_extend (h : Accepted entries) {extended : List VehicleCostLedgerEntrySnapshot}
    (hextended : Accepted extended) (hsub : ∀ entry ∈ entries, entry ∈ extended)
    (hentry : entry ∈ entries) : classifiedAs extended entry = classifiedAs entries entry := by
  rcases checked_cases (h.checked entry hentry) with ⟨horiginal, -⟩ |
    ⟨hreversal, id, target, hid, hne, htarget, -, -⟩
  · rw [classifiedAs_original horiginal, classifiedAs_original horiginal]
  · obtain ⟨hmem, hkey⟩ := (entryById_eq h.unique).1 htarget
    have hfind : entryById extended id = some target :=
      (entryById_eq hextended.unique).2 ⟨hsub target hmem, hkey⟩
    rw [classifiedAs_reversal hreversal hid hne hfind, classifiedAs_reversal hreversal hid hne htarget]

/-- The bucket of a key, or an empty one. -/
def bucketOf {κ : Type} [DecidableEq κ] (buckets : Buckets κ) (key : κ) : VehicleCostSummaryBucket :=
  (Tally.get buckets key).getD 0

/-- No amount has changed, and two entries more are counted for the key. -/
def CountedOnly {κ : Type} [DecidableEq κ] (before after : Buckets κ) (key : κ) : Prop :=
  ∀ other, (bucketOf after other).amountCents = (bucketOf before other).amountCents ∧
    (bucketOf after other).count =
      (bucketOf before other).count + if other = key then 2 else 0

theorem tally_countedOnly {κ : Type} [DecidableEq κ] (buckets : Buckets κ) (key : κ) (amount : Int) :
    CountedOnly buckets (Tally.tally buckets [(key, ⟨amount, 1⟩), (key, ⟨-amount, 1⟩)]) key := by
  intro other
  have hget : bucketOf (Tally.tally buckets [(key, ⟨amount, 1⟩), (key, ⟨-amount, 1⟩)]) other =
      if other = key then bucketOf buckets other + ⟨amount, 1⟩ + ⟨-amount, 1⟩
      else bucketOf buckets other := by
    rw [bucketOf, Tally.tally_cons, Tally.tally_cons, Tally.tally_nil, Tally.get_add, Tally.get_add]
    by_cases hkey : other = key
    · subst hkey
      simp [bucketOf]
    · simp [Tally.get_add, hkey, bucketOf]
  rw [hget]
  by_cases hkey : other = key
  · simp [hkey]
  · simp [hkey]

/-- What an original and its reversal add to a breakdown. -/
theorem classifiedAmounts_reversed {κ : Type} (key : VehicleCostLedgerEntrySnapshot → κ)
    {original reversal : VehicleCostLedgerEntrySnapshot} {extended : List VehicleCostLedgerEntrySnapshot}
    (h : Accepted entries) (hextended : Accepted extended)
    (hperm : extended.Perm (entries ++ [original, reversal])) (hreversal : reversal.entryKind = .reversal)
    (htarget : reversal.reversalOfEntryId = some original.id) :
    reversal.amountCents = -original.amountCents ∧
      (classifiedAmounts extended key extended).Perm (classifiedAmounts entries key entries ++
        [(key original, ⟨original.amountCents, 1⟩), (key original, ⟨-original.amountCents, 1⟩)]) := by
  have hmem : ∀ entry, entry ∈ extended ↔ entry ∈ entries ∨ entry = original ∨ entry = reversal := by
    intro entry
    rw [hperm.mem_iff]
    simp
  have horiginal : original ∈ extended := (hmem original).2 (.inr (.inl rfl))
  obtain ⟨hkind, -⟩ | ⟨-, id, target, hid, hne, hfind, hkind, hamount⟩ :=
    checked_cases (hextended.checked reversal ((hmem reversal).2 (.inr (.inr rfl))))
  · rw [hreversal] at hkind
    cases hkind
  obtain rfl : original.id = id := Option.some.inj (htarget.symm.trans hid)
  obtain rfl : original = target :=
    Option.some.inj (((entryById_eq hextended.unique).2 ⟨horiginal, rfl⟩).symm.trans hfind)
  refine ⟨hamount, (hperm.map _).trans (List.Perm.of_eq ?_)⟩
  rw [List.map_append]
  congr 1
  · refine List.map_congr_left fun entry hentry => ?_
    rw [h.classifiedAs_extend hextended (fun entry hentry => (hmem entry).2 (.inl hentry)) hentry]
  · rw [List.map_cons, List.map_cons, List.map_nil, classifiedAs_original hkind,
      classifiedAs_reversal hreversal hid hne hfind, hamount]

theorem tally_reversed {κ : Type} [DecidableEq κ] {keys : Buckets κ} (key : VehicleCostLedgerEntrySnapshot → κ)
    {original reversal : VehicleCostLedgerEntrySnapshot} {extended : List VehicleCostLedgerEntrySnapshot}
    (h : Accepted entries) (hextended : Accepted extended)
    (hperm : extended.Perm (entries ++ [original, reversal])) (hreversal : reversal.entryKind = .reversal)
    (htarget : reversal.reversalOfEntryId = some original.id) :
    CountedOnly (Tally.tally keys (classifiedAmounts entries key entries))
      (Tally.tally keys (classifiedAmounts extended key extended)) (key original) := by
  obtain ⟨-, hamounts⟩ := classifiedAmounts_reversed key h hextended hperm hreversal htarget
  have hcounted := tally_countedOnly (Tally.tally keys (classifiedAmounts entries key entries))
    (key original) original.amountCents
  rw [← Tally.tally_append] at hcounted
  intro other
  rw [bucketOf, Tally.get_tally_perm keys hamounts]
  exact hcounted other

/-- Every breakdown of an accepted ledger adds up to its total, the order of the entries does not matter,
and an original with its reversal changes no amount but is counted, as two entries, where it belongs. -/
theorem cost_summary_balances (h : summarizeVehicleCostEntries entries = .ok summary) :
    (Balanced summary.byActionType summary.totalAmountCents entries.length ∧
      Balanced summary.byResponsibility summary.totalAmountCents entries.length ∧
      Balanced summary.byResponsibleParty summary.totalAmountCents entries.length ∧
      Balanced summary.byCategory summary.totalAmountCents entries.length) ∧
    (∀ entries', entries'.Perm entries → ∃ summary',
      summarizeVehicleCostEntries entries' = .ok summary' ∧ summary'.Same summary) ∧
    ∀ original reversal extended summary', extended.Perm (entries ++ [original, reversal]) →
      reversal.entryKind = .reversal → reversal.reversalOfEntryId = some original.id →
      summarizeVehicleCostEntries extended = .ok summary' →
      summary'.totalAmountCents = summary.totalAmountCents ∧
      CountedOnly summary.byActionType summary'.byActionType original.actionType ∧
      CountedOnly summary.byResponsibility summary'.byResponsibility original.responsiblePartyType ∧
      CountedOnly summary.byResponsibleParty summary'.byResponsibleParty
        (responsibleParty original) ∧
      CountedOnly summary.byCategory summary'.byCategory original.costCategory := by
  obtain ⟨haccepted, rfl⟩ := summarizeVehicleCostEntries_ok.1 h
  have htotal : (emptySummary.plus entries entries).totalAmountCents =
      (entries.map (·.amountCents)).sum := zero_add _
  refine ⟨?_, fun entries' hperm => ?_, ?_⟩
  · rw [htotal]
    exact ⟨tally_balanced (emptyBuckets_sum _) _ _, tally_balanced (emptyBuckets_sum _) _ _,
      tally_balanced rfl _ _, tally_balanced (emptyBuckets_sum _) _ _⟩
  · obtain ⟨haccepted', hfind⟩ := haccepted.perm hperm
    exact ⟨_, summarizeVehicleCostEntries_ok.2 ⟨haccepted', rfl⟩, summary_perm hperm hfind⟩
  · intro original reversal extended summary' hperm hreversal htarget h'
    obtain ⟨hextended, rfl⟩ := summarizeVehicleCostEntries_ok.1 h'
    obtain ⟨hamount, -⟩ :=
      classifiedAmounts_reversed (·.id) haccepted hextended hperm hreversal htarget
    refine ⟨?_, tally_reversed _ haccepted hextended hperm hreversal htarget,
      tally_reversed _ haccepted hextended hperm hreversal htarget,
      tally_reversed _ haccepted hextended hperm hreversal htarget,
      tally_reversed _ haccepted hextended hperm hreversal htarget⟩
    have hsum := (hperm.map (·.amountCents)).sum_eq
    simp only [List.map_append, List.sum_append, List.map_cons, List.map_nil, List.sum_cons,
      List.sum_nil, hamount] at hsum
    simp only [VehicleCostLedgerSummary.plus, hsum]
    ring

/-! ## A ledger of two entries -/

/-- Washing a car, which the customer is to pay. -/
def cleaningEntry : VehicleCostLedgerEntrySnapshot :=
  { id := "a"
    vehicleId := "v"
    entryKind := .original
    actionType := .actualCost
    costCategory := .cleaning
    amountCents := 500
    responsiblePartyType := .customer
    occurredOn := some 0
    accountingPeriod := "2024-02" }

def cleaningReversal : VehicleCostLedgerEntrySnapshot :=
  { cleaningEntry with
    id := "b"
    entryKind := .reversal
    amountCents := -500
    reversalOfEntryId := some "a" }

/-- The empty ledger and the two entries. -/
theorem cost_summary_balances_cleaning : ∃ summary summary',
    summarizeVehicleCostEntries [] = .ok summary ∧
    summarizeVehicleCostEntries [cleaningReversal, cleaningEntry] = .ok summary' ∧
    CountedOnly summary.byCategory summary'.byCategory .cleaning := by
  have h : summarizeVehicleCostEntries [] = .ok emptySummary := rfl
  obtain ⟨summary', h'⟩ : ∃ summary',
      summarizeVehicleCostEntries [cleaningReversal, cleaningEntry] = .ok summary' :=
    ⟨_, rfl⟩
  obtain ⟨-, -, hreversed⟩ := cost_summary_balances h
  exact ⟨_, summary', h, h', (hreversed cleaningEntry cleaningReversal _ summary'
    (List.Perm.swap ..) rfl rfl h').2.2.2.2⟩

/-- The bucket of the cleaning has counted both entries. -/
theorem reversal_is_counted : ¬∀ (entries : List VehicleCostLedgerEntrySnapshot)
    (original reversal : VehicleCostLedgerEntrySnapshot) (summary summary' : VehicleCostLedgerSummary),
    summarizeVehicleCostEntries entries = .ok summary →
    summarizeVehicleCostEntries (entries ++ [original, reversal]) = .ok summary' →
    reversal.entryKind = .reversal → reversal.reversalOfEntryId = some original.id →
    ∀ category, bucketOf summary'.byCategory category = bucketOf summary.byCategory category := by
  intro h
  obtain ⟨summary', h'⟩ : ∃ summary',
      summarizeVehicleCostEntries ([] ++ [cleaningEntry, cleaningReversal]) = .ok summary' :=
    ⟨_, rfl⟩
  have hcount : (summarizeVehicleCostEntries ([] ++ [cleaningEntry, cleaningReversal])).map
      (fun summary => (bucketOf summary.byCategory .cleaning).count) = .ok 2 := by decide +kernel
  rw [h'] at hcount
  have hsame := h [] cleaningEntry cleaningReversal _ summary' rfl h' rfl rfl .cleaning
  rw [Except.map, hsame] at hcount
  cases hcount

end SubscriptionSaas.AssetAccounting
