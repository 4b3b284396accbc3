import Mathlib.Data.List.Induction
import SubscriptionSaas.Lib.RunningBalance
import SubscriptionSaas.Lib.Runs
import SubscriptionSaas.Mileage.Proofs.ChainProofs

/-!
# The mileage readings of a vehicle are a chain

Appending a reading and voiding one keep the active readings in the order of their times
(`Db.LedgerOk`): each states the kilometres of the one before it and its own difference to them, and
the vehicle shows those of the last one. The source of a voided reading cannot be used again.
-/

namespace SubscriptionSaas.Mileage

open Results RunningBalance Runs Tables

variable {db db' : Db} {readings : List Reading}

/-! ## The active readings -/

/-- The active readings with their places, oldest first. -/
def liveReadings (readings : List Reading) : List (Reading × Nat) :=
  numbered (·.status == .active) readings

/-! ## The latest reading -/

/-- Of rows in the order of their times, the last is the latest. -/
theorem latest_of_sorted {rows : List (Reading × Nat)}
    (h : rows.Pairwise fun a b => a.1.recordedAt ≤ b.1.recordedAt) :
    rows.foldl (fun latest row => match latest with
      | none => some row
      | some best => if best.1.recordedAt ≤ row.1.recordedAt then some row else some best) none =
        rows.getLast? := by
  induction rows using List.reverseRecOn with
  | nil => rfl
  | append_singleton rows row ih =>
    rw [List.pairwise_append] at h
    rw [List.foldl_append, ih h.1, List.getLast?_concat]
    cases hlast : rows.getLast? with
    | none => rfl
    | some best =>
      have hle := h.2.2 best (List.mem_of_getLast? hlast) row (List.mem_singleton_self row)
      simp [hle]

theorem latestReading_eq
    (h : (liveReadings readings).Pairwise fun a b => a.1.recordedAt ≤ b.1.recordedAt) :
    latestReading (fun _ => true) readings = (liveReadings readings).getLast? := by
  have hfilter : (readings.zipIdx.filter fun row => row.1.status == .active && true) =
      liveReadings readings := by simp [liveReadings, numbered]
  rw [latestReading, hfilter]
  exact latest_of_sorted h

/-- The latest reading but one. -/
theorem latestReading_ne (i : Nat)
    (h : (liveReadings readings).Pairwise fun a b => a.1.recordedAt ≤ b.1.recordedAt) :
    latestReading (· != i) readings = ((liveReadings readings).filter (·.2 != i)).getLast? := by
  have hfilter : (readings.zipIdx.filter fun row => row.1.status == .active && row.2 != i) =
      (liveReadings readings).filter (·.2 != i) := by
    rw [liveReadings, numbered, List.filter_filter]
    apply List.filter_congr
    intro row _
    exact Bool.and_comm _ _
  rw [latestReading, hfilter]
  exact latest_of_sorted (h.sublist List.filter_sublist)

/-! ## The chain -/

/-- Each reading names the one before it. -/
def Linked : Option Nat → List (Reading × Nat) → Prop
  | _, [] => True
  | previous, row :: rows => row.1.previousReadingId = previous ∧ Linked (some row.2) rows

theorem linked_append {previous : Option Nat} {rows : List (Reading × Nat)} {row : Reading × Nat} :
    Linked previous (rows ++ [row]) ↔ Linked previous rows ∧
      row.1.previousReadingId = (rows.getLast?.map (·.2)).or previous := by
  induction rows generalizing previous with
  | nil => simp [Linked]
  | cons first rows ih =>
    rw [List.cons_append, Linked, Linked, ih, and_assoc]
    cases rows with
    | nil => simp
    | cons second rows =>
      obtain ⟨last, hlast⟩ := List.getLast?_isSome.2 (List.cons_ne_nil second rows) |>
        Option.isSome_iff_exists.1
      rw [List.getLast?_cons_cons, hlast]
      rfl

/-- What holds of the readings of a vehicle. -/
structure Db.LedgerOk (db : Db) : Prop where
  balance : RunsFrom (fun row : Reading × Nat => row.1.deltaKm) (fun row => row.1.mileageKm) 0
    (liveReadings db.readings)
  growing : ∀ row ∈ liveReadings db.readings, 0 ≤ row.1.deltaKm
  linked : Linked none (liveReadings db.readings)
  sorted : (liveReadings db.readings).Pairwise fun a b => a.1.recordedAt ≤ b.1.recordedAt
  current : ∀ row, (liveReadings db.readings).getLast? = some row →
    db.vehicle.currentMileageKm = row.1.mileageKm
  vehicle : db.readings ≠ [] → db.vehicle.deletedAt = none
  sources : ∀ (i j : Nat) (a b : Reading), db.readings[i]? = some a →
    db.readings[j]? = some b → a.sourceRecordId = b.sourceRecordId → a.sourceType = b.sourceType →
    i = j
  accepted : ∀ reading ∈ db.readings, isSafeInteger reading.mileageKm = true ∧ 0 ≤ reading.mileageKm

theorem ledgerOk_empty (h : db.readings = []) : db.LedgerOk := by
  constructor <;> simp [h, liveReadings, numbered, RunsFrom, Linked]

/-- The source of a reading that is to be appended. -/
def AppendReading.isSource (input : AppendReading) (reading : Reading) : Bool :=
  reading.sourceRecordId == input.sourceRecordId && reading.sourceType == input.sourceType

/-- The reading that an append creates after the latest one. -/
def AppendReading.reading (input : AppendReading) (latest : Option (Reading × Nat)) : Reading :=
  { ofOrder := input.ofOrder
    sourceType := input.sourceType
    sourceRecordId := input.sourceRecordId
    recordedAt := input.recordedAt
    mileageKm := input.mileageKm
    previousReadingId := latest.map (·.2)
    deltaKm := input.mileageKm - (latest.map (·.1.mileageKm)).getD 0
    status := .active }

/-- An append finds its reading or creates it. -/
theorem appendConfirmedReading_ok {input : AppendReading} {readingId : Nat}
    (h : appendConfirmedReading db input = .ok (readingId, db')) :
    (isSafeInteger input.mileageKm = true ∧ 0 ≤ input.mileageKm) ∧ db.vehicle.deletedAt = none ∧
    ((db' = db ∧ ∃ existing, findFirst input.isSource db.readings = some (existing, readingId) ∧
        existing.status = .active ∧ sameBusinessReading existing input = true) ∨
      (readingId = db.readings.length ∧ (∀ reading ∈ db.readings, input.isSource reading = false) ∧
        (∀ row, latestReading (fun _ => true) db.readings = some row →
          row.1.mileageKm ≤ input.mileageKm ∧ row.1.recordedAt ≤ input.recordedAt) ∧
        db' = { db with
          readings := db.readings ++
            [input.reading (latestReading (fun _ => true) db.readings)]
          vehicle := { db.vehicle with currentMileageKm := input.mileageKm } })) := by
  simp only [appendConfirmedReading, require_bind, Bool.and_eq_true, decide_eq_true_eq,
    Option.isNone_iff_eq_none] at h
  obtain ⟨hkm, hvehicle, h⟩ := h
  refine ⟨hkm, hvehicle, ?_⟩
  split at h
  · next existing id hfind =>
    simp only [require_bind, beq_iff_eq] at h
    obtain ⟨hactive, hsame, h⟩ := h
    obtain ⟨rfl, rfl⟩ := Prod.mk.inj (Except.ok.inj h)
    exact .inl ⟨rfl, existing, hfind, hactive, hsame⟩
  · next hfind =>
    simp only [require_bind, Bool.not_eq_true'] at h
    obtain ⟨hle, htime, h⟩ := h
    obtain ⟨rfl, rfl⟩ := Prod.mk.inj (Except.ok.inj h)
    refine .inr ⟨rfl, ?_, ?_, rfl⟩
    · exact findFirst_none hfind
    · intro row hrow
      rw [hrow, Option.any_some, decide_eq_false_iff_not] at hle htime
      omega

/-- A new reading continues the chain. -/
theorem Db.LedgerOk.append {input : AppendReading} (h : db.LedgerOk)
    (hkm : isSafeInteger input.mileageKm = true ∧ 0 ≤ input.mileageKm)
    (hvehicle : db.vehicle.deletedAt = none)
    (hnew : ∀ reading ∈ db.readings, input.isSource reading = false)
    (hlatest : ∀ row, latestReading (fun _ => true) db.readings = some row →
      row.1.mileageKm ≤ input.mileageKm ∧ row.1.recordedAt ≤ input.recordedAt) :
    Db.LedgerOk { db with
      readings := db.readings ++ [input.reading (latestReading (fun _ => true) db.readings)]
      vehicle := { db.vehicle with currentMileageKm := input.mileageKm } } := by
  rw [latestReading_eq h.sorted] at hlatest ⊢
  have hlive : liveReadings (db.readings ++ [input.reading (liveReadings db.readings).getLast?]) =
      liveReadings db.readings ++
        [(input.reading (liveReadings db.readings).getLast?, db.readings.length)] :=
    numbered_append rfl
  have hdelta : (input.reading (liveReadings db.readings).getLast?).deltaKm = input.mileageKm -
      total (fun row : Reading × Nat => row.1.deltaKm) (liveReadings db.readings) := by
    cases hlast : (liveReadings db.readings).getLast? with
    | none =>
      rw [List.getLast?_eq_none_iff.1 hlast]
      simp [AppendReading.reading]
    | some row =>
      have hrow := h.balance.last_eq hlast
      simp only [AppendReading.reading, Option.map_some, Option.getD_some]
      omega
  have hpos : 0 ≤ (input.reading (liveReadings db.readings).getLast?).deltaKm := by
    cases hlast : (liveReadings db.readings).getLast? with
    | none =>
      simp only [AppendReading.reading, Option.map_none, Option.getD_none]
      omega
    | some row =>
      have hrow := hlatest row hlast
      simp only [AppendReading.reading, Option.map_some, Option.getD_some]
      omega
  constructor <;> dsimp only
  · rw [hlive]
    refine runsFrom_snoc h.balance ?_ hkm.2
    show input.mileageKm = _
    rw [hdelta]
    omega
  · rw [hlive]
    intro row hrow
    rcases List.mem_append.1 hrow with hrow | hrow
    · exact h.growing row hrow
    · obtain rfl := List.mem_singleton.1 hrow
      exact hpos
  · rw [hlive, linked_append]
    refine ⟨h.linked, ?_⟩
    simp [AppendReading.reading]
  · rw [hlive, List.pairwise_append]
    refine ⟨h.sorted, List.pairwise_singleton _ _, ?_⟩
    intro row hrow new hnew'
    obtain rfl := List.mem_singleton.1 hnew'
    obtain ⟨last, hlast⟩ := List.getLast?_isSome.2 (List.ne_nil_of_mem hrow) |>
      Option.isSome_iff_exists.1
    have hle := (hlatest last hlast).2
    obtain ⟨rows, hrows⟩ := List.getLast?_eq_some_iff.1 hlast
    have hsorted := h.sorted
    rw [hrows] at hrow hsorted
    rcases List.mem_append.1 hrow with hrow | hrow
    · exact ((List.pairwise_append.1 hsorted).2.2 row hrow last (List.mem_singleton_self last)).trans
        hle
    · obtain rfl := List.mem_singleton.1 hrow
      exact hle
  · rw [hlive]
    intro row hrow
    rw [List.getLast?_concat] at hrow
    obtain rfl := Option.some.inj hrow
    rfl
  · intro _
    exact hvehicle
  · have hother (reading : Reading) (hmem : reading ∈ db.readings)
        (hid : reading.sourceRecordId = input.sourceRecordId)
        (htype : reading.sourceType = input.sourceType) : False := by
      have hne := hnew reading hmem
      simp [AppendReading.isSource, hid, htype] at hne
    intro i j a b ha hb hid htype
    rcases get_append ha with ha | ⟨hi, rfl⟩
    · rcases get_append hb with hb | ⟨hj, rfl⟩
      · exact h.sources i j a b ha hb hid htype
      · exact (hother a (List.mem_of_getElem? ha) hid htype).elim
    · rcases get_append hb with hb | ⟨hj, rfl⟩
      · exact (hother b (List.mem_of_getElem? hb) hid.symm htype.symm).elim
      · rw [hi, hj]
  · intro reading hreading
    rcases List.mem_append.1 hreading with hreading | hreading
    · exact h.accepted reading hreading
    · obtain rfl := List.mem_singleton.1 hreading
      exact hkm

/-- The reading that is voided is the last one, and there is one before it. -/
theorem voidReadingAndRestoreProjection_ok {readingId : Nat} {voidedAt : Int} (h : db.LedgerOk)
    (hvoid : voidReadingAndRestoreProjection db readingId voidedAt = .ok db') :
    ∃ rows previous reading,
      liveReadings db.readings = rows ++ [(previous : Reading × Nat), (reading, readingId)] ∧
      liveReadings db'.readings = rows ++ [previous] ∧
      db' = { db with
        readings := db.readings.modify readingId fun reading =>
          { reading with status := .voided, voidedAt := some voidedAt }
        vehicle := { db.vehicle with currentMileageKm := previous.1.mileageKm } } := by
  simp only [voidReadingAndRestoreProjection, found_bind, require_bind, beq_iff_eq] at hvoid
  obtain ⟨_, -, hlatest, ⟨previous, previousId⟩, hprevious, hvoid⟩ := hvoid
  rw [latestReading_eq h.sorted, Option.map_eq_some_iff] at hlatest
  obtain ⟨⟨reading, id⟩, hlast, rfl⟩ := hlatest
  obtain ⟨init, hinit⟩ := List.getLast?_eq_some_iff.1 hlast
  -- no other active reading has its place
  have hplaces : ((liveReadings db.readings).map (·.2)).Nodup := numbered_places
  rw [hinit, List.map_append, List.nodup_append] at hplaces
  have hrest : (liveReadings db.readings).filter (·.2 != id) = init := by
    rw [hinit, List.filter_append]
    have hself : List.filter (fun row : Reading × Nat => row.2 != id) [(reading, id)] = [] := by
      simp
    rw [hself, List.append_nil, List.filter_eq_self]
    intro row hrow
    exact bne_iff_ne.2 (hplaces.2.2 row.2 (List.mem_map_of_mem hrow) id (by simp))
  rw [latestReading_ne id h.sorted, hrest] at hprevious
  obtain ⟨rows, hrows⟩ := List.getLast?_eq_some_iff.1 hprevious
  cases hvoid
  refine ⟨rows, (previous, previousId), reading, ?_, ?_, rfl⟩
  · rw [hinit, hrows, List.append_assoc]
    rfl
  · dsimp only
    rw [liveReadings, numbered_modify fun _ => rfl]
    exact hrest.trans hrows

/-- Without its last reading the chain is still one. -/
theorem Db.LedgerOk.void {readingId : Nat} {voidedAt : Int} (h : db.LedgerOk)
    (hvoid : voidReadingAndRestoreProjection db readingId voidedAt = .ok db') : db'.LedgerOk := by
  obtain ⟨rows, previous, reading, hlive, hlive', rfl⟩ :=
    voidReadingAndRestoreProjection_ok h hvoid
  have happend : rows ++ [previous, (reading, readingId)] =
      (rows ++ [previous]) ++ [(reading, readingId)] := by simp
  rw [happend] at hlive
  have hmem (row : Reading × Nat) (hrow : row ∈ rows ++ [previous]) :
      row ∈ liveReadings db.readings := hlive ▸ List.mem_append_left _ hrow
  -- the source and the kilometres of a reading do not change
  have hsource (i : Nat) (b : Reading) (hb : (db.readings.modify readingId fun reading =>
      { reading with status := .voided, voidedAt := some voidedAt })[i]? = some b) :
      ∃ a, db.readings[i]? = some a ∧ b.sourceRecordId = a.sourceRecordId ∧
        b.sourceType = a.sourceType ∧ b.mileageKm = a.mileageKm := by
    rcases get_modify hb with ⟨-, hb⟩ | ⟨rfl, a, ha, rfl⟩
    · exact ⟨b, hb, rfl, rfl, rfl⟩
    · exact ⟨a, ha, rfl, rfl, rfl⟩
  constructor
  · rw [hlive']
    have hbalance := h.balance
    rw [hlive] at hbalance
    exact (runsFrom_append.1 hbalance).1
  · rw [hlive']
    exact fun row hrow => h.growing row (hmem row hrow)
  · rw [hlive']
    have hlinked := h.linked
    rw [hlive, linked_append] at hlinked
    exact hlinked.1
  · rw [hlive']
    have hsorted := h.sorted
    rw [hlive, List.pairwise_append] at hsorted
    exact hsorted.1
  · rw [hlive']
    intro row hrow
    rw [List.getLast?_concat] at hrow
    obtain rfl := Option.some.inj hrow
    rfl
  · intro _
    refine h.vehicle ?_
    rintro hnil
    rw [hnil] at hlive
    simp [liveReadings, numbered] at hlive
  · intro i j a b ha hb hid htype
    obtain ⟨a', ha', haid, hatype, -⟩ := hsource i a ha
    obtain ⟨b', hb', hbid, hbtype, -⟩ := hsource j b hb
    refine h.sources i j a' b' ha' hb' ?_ ?_
    · rw [← haid, ← hbid, hid]
    · rw [← hatype, ← hbtype, htype]
  · intro b hb
    obtain ⟨i, hi⟩ := List.mem_iff_getElem?.1 hb
    obtain ⟨a, ha, -, -, hkm⟩ := hsource i b hi
    rw [hkm]
    exact h.accepted a (List.mem_of_getElem? ha)

/-! ## Runs -/

inductive LedgerCall
  | append (input : AppendReading)
  | void (readingId : Nat) (voidedAt : Int)
  deriving DecidableEq

/-- A call that fails leaves the rows as they are. -/
def Db.ledgerStep (db : Db) : LedgerCall → Db
  | .append input =>
    match appendConfirmedReading db input with
    | .ok (_, db') => db'
    | .error _ => db
  | .void readingId voidedAt =>
    match voidReadingAndRestoreProjection db readingId voidedAt with
    | .ok db' => db'
    | .error _ => db

theorem ledgerStep_ok (call : LedgerCall) (h : db.LedgerOk) : (db.ledgerStep call).LedgerOk := by
  unfold Db.ledgerStep
  cases call with
  | append input =>
    dsimp only
    split
    · next readingId db' happend =>
      obtain ⟨hkm, hvehicle, ⟨rfl, -⟩ | ⟨-, hnew, hlatest, rfl⟩⟩ := appendConfirmedReading_ok happend
      · exact h
      · exact h.append hkm hvehicle hnew hlatest
    · exact h
  | void readingId voidedAt =>
    dsimp only
    split
    · next db' hvoid => exact h.void hvoid
    · exact h

/-- Appending the source of a reading again finds the reading while it is active. -/
theorem Db.LedgerOk.replay (h : db.LedgerOk) {readingId : Nat} {reading : Reading}
    {input : AppendReading} (hreading : db.readings[readingId]? = some reading)
    (hsource : input.isSource reading = true) :
    (reading.status = .active → sameBusinessReading reading input = true →
      appendConfirmedReading db input = .ok (readingId, db)) ∧
    (reading.status ≠ .active ∨ sameBusinessReading reading input = false →
      ∃ failure, appendConfirmedReading db input = .error failure) := by
  -- no other reading has the source
  have honly (id : Nat) (existing : Reading) (hexisting : db.readings[id]? = some existing)
      (hsame : input.isSource existing = true) : id = readingId ∧ existing = reading := by
    simp only [AppendReading.isSource, Bool.and_eq_true, beq_iff_eq] at hsource hsame
    obtain rfl := h.sources id readingId existing reading hexisting hreading
      (hsame.1.trans hsource.1.symm) (hsame.2.trans hsource.2.symm)
    rw [hreading] at hexisting
    exact ⟨rfl, (Option.some.inj hexisting).symm⟩
  have hmem := List.mem_of_getElem? hreading
  constructor
  · intro hactive hsame
    have hkm := h.accepted reading hmem
    have hinput : reading.mileageKm = input.mileageKm := by
      simp only [sameBusinessReading, Bool.and_eq_true, beq_iff_eq] at hsame
      exact hsame.2
    simp only [appendConfirmedReading, require_bind, Bool.and_eq_true, decide_eq_true_eq,
      h.vehicle (List.ne_nil_of_mem hmem), Option.isNone_none, true_and, ← hinput]
    refine ⟨hkm, ?_⟩
    split
    · next existing id hfind =>
      obtain ⟨hexisting, hp⟩ := findFirst_some hfind
      obtain ⟨rfl, rfl⟩ := honly id existing hexisting hp
      simp [hactive, hsame]
    · next hfind =>
      have hnone : input.isSource reading = false := findFirst_none hfind reading hmem
      rw [hsource] at hnone
      cases hnone
  · intro hdiffers
    cases happend : appendConfirmedReading db input with
    | error failure => exact ⟨failure, rfl⟩
    | ok result =>
      obtain ⟨-, -, ⟨-, existing, hexisting, hactive, hsame⟩ | ⟨-, hnew, -⟩⟩ :=
        appendConfirmedReading_ok (show appendConfirmedReading db input = .ok (result.1, result.2)
          from happend)
      · have hboth := hsame
        simp only [sameBusinessReading, Bool.and_eq_true, beq_iff_eq] at hboth
        obtain ⟨-, rfl⟩ := honly result.1 existing (findFirst_some hexisting).1 (by
          simp [AppendReading.isSource, hboth.1.1.1.2, hboth.1.1.2])
        rcases hdiffers with hdiffers | hdiffers
        · exact (hdiffers hactive).elim
        · rw [hsame] at hdiffers
          cases hdiffers
      · rw [hnew reading hmem] at hsource
        cases hsource

/-- The deltas of the readings after the first add up to what has been driven since. -/
theorem Db.LedgerOk.total_rest (h : db.LedgerOk) {first last : Reading × Nat}
    {rest : List (Reading × Nat)} (hlive : liveReadings db.readings = first :: rest)
    (hlast : (liveReadings db.readings).getLast? = some last) :
    total (fun row : Reading × Nat => row.1.deltaKm) rest =
      last.1.mileageKm - first.1.mileageKm := by
  have hall := h.balance.last_eq hlast
  have hbalance := h.balance
  rw [hlive] at hall hbalance
  have hfirst : first.1.mileageKm = 0 + first.1.deltaKm := hbalance.1
  rw [total_cons] at hall
  omega

/-- After every run the readings of the vehicle are a chain, and an append of a source that was used
either finds its active reading or is refused. -/
theorem mileage_ledger (hempty : db.readings = []) (calls : List LedgerCall) :
    let after := runs Db.ledgerStep db calls
    let live := liveReadings after.readings
    ((live.Pairwise fun a b => a.1.recordedAt ≤ b.1.recordedAt) ∧
      (live.Pairwise fun a b => a.1.mileageKm ≤ b.1.mileageKm) ∧ Linked none live) ∧
    RunsFrom (fun row : Reading × Nat => row.1.deltaKm) (fun row => row.1.mileageKm) 0 live ∧
    (∀ first rest last, live = first :: rest → live.getLast? = some last →
      total (fun row : Reading × Nat => row.1.deltaKm) live = last.1.mileageKm ∧
        total (fun row : Reading × Nat => row.1.deltaKm) rest =
          last.1.mileageKm - first.1.mileageKm ∧
        after.vehicle.currentMileageKm = last.1.mileageKm) ∧
    ∀ readingId reading input, after.readings[readingId]? = some reading →
      input.isSource reading = true →
      (reading.status = .active → sameBusinessReading reading input = true →
        appendConfirmedReading after input = .ok (readingId, after)) ∧
      (reading.status ≠ .active ∨ sameBusinessReading reading input = false →
        ∃ failure, appendConfirmedReading after input = .error failure) := by
  intro after live
  have h : after.LedgerOk :=
    runs_always Db.LedgerOk (fun _ call h => ledgerStep_ok call h) (ledgerOk_empty hempty) calls
  refine ⟨⟨h.sorted, h.balance.pairwise_le h.growing, h.linked⟩, h.balance, ?_, ?_⟩
  · intro first rest last hlive hlast
    have hall := h.balance.last_eq hlast
    rw [zero_add] at hall
    exact ⟨hall.symm, h.total_rest hlive hlast, h.current last hlast⟩
  · intro readingId reading input hreading hsource
    exact h.replay hreading hsource

def ledgerSample : Db := .created sampleOrder ⟨0, none⟩ []

def ledgerReading (id : String) (recordedAt mileageKm : Int) : AppendReading :=
  ⟨true, .monthlyReview, id, recordedAt, mileageKm⟩

/-- A vehicle with two readings, of which the second is replayed. -/
theorem mileage_ledger_sample :
    let after := runs Db.ledgerStep ledgerSample
      [.append (ledgerReading "r1" 1 100), .append (ledgerReading "r2" 2 250)]
    appendConfirmedReading after (ledgerReading "r2" 2 250) = .ok (1, after) ∧
      after.vehicle.currentMileageKm = 250 := by
  intro after
  obtain ⟨-, -, hsums, hreplay⟩ := @mileage_ledger ledgerSample rfl
    [.append (ledgerReading "r1" 1 100), .append (ledgerReading "r2" 2 250)]
  constructor
  · exact (hreplay 1 _ (ledgerReading "r2" 2 250) rfl (by decide)).1 (by decide) (by decide)
  · exact (hsums _ _ _ rfl rfl).2.2

/-- When the second reading has been voided, its source is refused, although its reading is there. -/
theorem voided_source_refused :
    let after := runs Db.ledgerStep ledgerSample
      [.append (ledgerReading "r1" 1 100), .append (ledgerReading "r2" 2 250), .void 1 3]
    (after.readings[1]?.map fun reading => sameBusinessReading reading (ledgerReading "r2" 2 250)) =
        some true ∧
      appendConfirmedReading after (ledgerReading "r2" 2 250) =
        .error (conflict "同一来源单据的车辆里程记录已失效") := by
  decide +kernel

end SubscriptionSaas.Mileage
