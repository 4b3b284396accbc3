import SubscriptionSaas.Change.SwapEntitlements
import SubscriptionSaas.Mileage.Proofs.CallProofs

/-!
# The entitlements of a vehicle swap: proofs

The map of the periods groups the future grants by their first days (`Grouped`), so that the loop over it
supersedes a grant just if it gives way (`Db.givesWay`). A swap then preserves what is used exactly when
the grants that live show the usage of their periods.
-/

namespace SubscriptionSaas.Change.SwapEntitlements

open Billing (Id)
open Mileage Results Tables

variable {db db' : Db} {input : SwapInput} {accountId customerId : Id} {day : Int}
  {grant grant' : SwapGrant} {period : Int × Option Int}

/-! ## The map of the periods -/

def startsWith (start : Int) (row : SwapGrant × Id) : Bool := row.1.grantPeriodStart == start

/-- The map after the rows. -/
structure Grouped (db : Db) (rows : List (SwapGrant × Id)) (periods : List FuturePeriod) : Prop where
  nodup : (periods.map (·.start)).Nodup
  total : ∀ row ∈ rows, ∃ p ∈ periods, p.start = row.1.grantPeriodStart
  ids : ∀ p ∈ periods, p.ids = (rows.filter (startsWith p.start)).map (·.2)
  usage : ∀ p ∈ periods, p.hasUsage = (rows.filter (startsWith p.start)).any fun row => db.isUsed row.2
  ends : ∀ p ∈ periods, ∃ row ∈ rows, row.1.period = (p.start, p.periodEnd)

theorem Grouped.empty (db : Db) : Grouped db [] [] where
  nodup := List.nodup_nil
  total := by simp
  ids := by simp
  usage := by simp
  ends := by simp

variable {rows : List (SwapGrant × Id)} {periods : List FuturePeriod} {row : SwapGrant × Id}

/-- A grant of a first day that the map has. -/
theorem Grouped.join (h : Grouped db rows periods)
    (hany : periods.any (·.start == row.1.grantPeriodStart) = true) :
    Grouped db (rows ++ [row]) (periods.map fun p =>
      if p.start = row.1.grantPeriodStart then p.push row.2 (db.isUsed row.2) else p) := by
  have hstarts : ∀ p : FuturePeriod, (if p.start = row.1.grantPeriodStart then
      p.push row.2 (db.isUsed row.2) else p).start = p.start := by
    intro p
    split
    · rfl
    · rfl
  refine ⟨?_, ?_, ?_, ?_, ?_⟩
  · rw [List.map_map]
    refine (congrArg List.Nodup (List.map_congr_left fun p _ => hstarts p)).mpr h.nodup
  · intro row' hrow'
    have hold : ∃ p ∈ periods, p.start = row'.1.grantPeriodStart := by
      rcases List.mem_append.1 hrow' with hrow' | hrow'
      · exact h.total row' hrow'
      · obtain ⟨p, hp, hstart⟩ := List.any_eq_true.1 hany
        rw [List.mem_singleton.1 hrow']
        exact ⟨p, hp, eq_of_beq hstart⟩
    obtain ⟨p, hp, hstart⟩ := hold
    exact ⟨_, List.mem_map_of_mem hp, (hstarts p).trans hstart⟩
  · intro p' hp'
    obtain ⟨p, hp, rfl⟩ := List.mem_map.1 hp'
    rw [hstarts, List.filter_append, List.map_append, ← h.ids p hp]
    by_cases hstart : p.start = row.1.grantPeriodStart
    · simp [hstart, startsWith, FuturePeriod.push]
    · simp [hstart, startsWith, Ne.symm hstart]
  · intro p' hp'
    obtain ⟨p, hp, rfl⟩ := List.mem_map.1 hp'
    rw [hstarts, List.filter_append, List.any_append, ← h.usage p hp]
    by_cases hstart : p.start = row.1.grantPeriodStart
    · simp [hstart, startsWith, FuturePeriod.push]
    · simp [hstart, startsWith, Ne.symm hstart]
  · intro p' hp'
    obtain ⟨p, hp, rfl⟩ := List.mem_map.1 hp'
    obtain ⟨row', hrow', hperiod⟩ := h.ends p hp
    refine ⟨row', List.mem_append_left _ hrow', hperiod.trans ?_⟩
    split
    · rfl
    · rfl

/-- A grant of a new first day. -/
theorem Grouped.start (h : Grouped db rows periods)
    (hany : periods.any (·.start == row.1.grantPeriodStart) = false) :
    Grouped db (rows ++ [row]) (periods ++
      [⟨row.1.grantPeriodStart, row.1.grantPeriodEnd, [row.2], db.isUsed row.2⟩]) := by
  have hother : ∀ p ∈ periods, p.start ≠ row.1.grantPeriodStart := by
    simpa using hany
  have hnone : rows.filter (startsWith row.1.grantPeriodStart) = [] := by
    rw [List.filter_eq_nil_iff]
    intro row' hrow' hstart
    obtain ⟨p, hp, hpstart⟩ := h.total row' hrow'
    exact hother p hp (hpstart.trans (eq_of_beq hstart))
  refine ⟨?_, ?_, ?_, ?_, ?_⟩
  · rw [List.map_append, List.nodup_append']
    refine ⟨h.nodup, List.nodup_singleton _, ?_⟩
    rw [List.map_singleton, List.disjoint_singleton, List.mem_map]
    rintro ⟨p, hp, hstart⟩
    exact hother p hp hstart
  · intro row' hrow'
    rcases List.mem_append.1 hrow' with hrow' | hrow'
    · obtain ⟨p, hp, hstart⟩ := h.total row' hrow'
      exact ⟨p, List.mem_append_left _ hp, hstart⟩
    · rw [List.mem_singleton.1 hrow']
      exact ⟨_, List.mem_append_right _ (List.mem_singleton_self _), rfl⟩
  · intro p hp
    rw [List.filter_append, List.map_append]
    rcases List.mem_append.1 hp with hp | hp
    · have hstart := hother p hp
      simp [← h.ids p hp, startsWith, Ne.symm hstart]
    · rw [List.mem_singleton.1 hp]
      simp [hnone, startsWith]
  · intro p hp
    rw [List.filter_append, List.any_append]
    rcases List.mem_append.1 hp with hp | hp
    · have hstart := hother p hp
      simp [← h.usage p hp, startsWith, Ne.symm hstart]
    · rw [List.mem_singleton.1 hp]
      simp [hnone, startsWith]
  · intro p hp
    rcases List.mem_append.1 hp with hp | hp
    · obtain ⟨row', hrow', hperiod⟩ := h.ends p hp
      exact ⟨row', List.mem_append_left _ hrow', hperiod⟩
    · rw [List.mem_singleton.1 hp]
      exact ⟨row, List.mem_append_right _ (List.mem_singleton_self _), rfl⟩

theorem Grouped.addToPeriod (h : Grouped db rows periods) (row : SwapGrant × Id) :
    Grouped db (rows ++ [row]) (db.addToPeriod periods row) := by
  rw [Db.addToPeriod]
  split
  · next hany => exact h.join hany
  · next hany => exact h.start (eq_false_of_ne_true hany)

theorem foldl_grouped (rows rows' : List (SwapGrant × Id)) {periods : List FuturePeriod}
    (h : Grouped db rows periods) : Grouped db (rows ++ rows') (rows'.foldl db.addToPeriod periods) := by
  induction rows' generalizing rows periods with
  | nil => simpa using h
  | cons row rows' ih =>
    have hnext := ih (rows ++ [row]) (h.addToPeriod row)
    simpa using hnext

theorem periods_grouped (db : Db) (accountId : Id) (day : Int) :
    Grouped db (db.futureGrants accountId day) (db.periods accountId day) := by
  have h := foldl_grouped [] (db.futureGrants accountId day) (Grouped.empty db)
  exact h

theorem mem_futureGrants : row ∈ db.futureGrants accountId day ↔
    db.grants[row.2]? = some row.1 ∧ isFuture accountId day row.1 = true := by
  rw [Db.futureGrants, List.mem_insertionSort, mem_numbered]

/-! ## The loop over the periods -/

/-- The grants that the loop supersedes. -/
def unusedIds (periods : List FuturePeriod) : List Id :=
  (periods.filter (!·.hasUsage)).flatMap (·.ids)

/-- The grants that the loop creates. -/
def newGrants (input : SwapInput) (accountId customerId : Id) (periods : List FuturePeriod) :
    List SwapGrant :=
  (periods.filter (!·.hasUsage)).flatMap fun period =>
    (buildGrantInputs input.planSnapshot).map
      (swapGrant input accountId customerId period.start period.periodEnd)

theorem supersedeGrants_append {ids : List Id} {old : List SwapGrant} (new : List SwapGrant)
    (h : ∀ id ∈ ids, id < old.length) :
    supersedeGrants input ids (old ++ new) = supersedeGrants input ids old ++ new := by
  rw [supersedeGrants, List.mapIdx_append, supersedeGrants]
  congr 1
  apply List.ext_getElem?
  intro i
  rw [List.getElem?_mapIdx]
  have hnot : i + old.length ∉ ids := by
    intro hmem
    exact Nat.not_lt_of_le (Nat.le_add_left ..) (h _ hmem)
  cases new[i]? with
  | none => rfl
  | some grant => simp [selected, hnot]

theorem supersedeGrants_twice (ids ids' : List Id) (grants : List SwapGrant) :
    supersedeGrants input ids' (supersedeGrants input ids grants) =
      supersedeGrants input (ids ++ ids') grants := by
  apply List.ext_getElem?
  intro i
  simp only [supersedeGrants, List.getElem?_mapIdx]
  cases grants[i]? with
  | none => rfl
  | some grant =>
    by_cases hactive : grant.status = .active
    · by_cases hid : i ∈ ids
      · simp [selected, hid, hactive, supersede]
      · simp [selected, hid, hactive]
    · simp [selected, hactive]

theorem supersedeGrants_nil (grants : List SwapGrant) : supersedeGrants input [] grants = grants := by
  apply List.ext_getElem?
  intro i
  rw [supersedeGrants, List.getElem?_mapIdx]
  cases grants[i]? with
  | none => rfl
  | some grant => rfl

theorem length_supersedeGrants (ids : List Id) (grants : List SwapGrant) :
    (supersedeGrants input ids grants).length = grants.length := by
  rw [supersedeGrants, List.length_mapIdx]

theorem foldl_replacePeriod (input : SwapInput) (accountId customerId : Id)
    (periods : List FuturePeriod) (ids : List Id) (old new : List SwapGrant) (cancelled created : Nat)
    (h : ∀ p ∈ periods, ∀ id ∈ p.ids, id < old.length) :
    (periods.foldl
        (replacePeriod input accountId customerId (buildGrantInputs input.planSnapshot))
        (supersedeGrants input ids old ++ new, cancelled, created)).1 =
      supersedeGrants input (ids ++ unusedIds periods) old ++
        (new ++ newGrants input accountId customerId periods) := by
  induction periods generalizing ids new cancelled created with
  | nil => simp [unusedIds, newGrants]
  | cons p periods ih =>
    have hrest : ∀ p ∈ periods, ∀ id ∈ p.ids, id < old.length :=
      fun p hp => h p (List.mem_cons_of_mem _ hp)
    rw [List.foldl_cons]
    by_cases hused : p.hasUsage = true
    · have hstep : replacePeriod input accountId customerId (buildGrantInputs input.planSnapshot)
          (supersedeGrants input ids old ++ new, cancelled, created) p =
          (supersedeGrants input ids old ++ new, cancelled, created) := by
        simp [replacePeriod, hused]
      rw [hstep, ih ids new cancelled created hrest]
      simp [unusedIds, newGrants, hused]
    · have hids : ∀ id ∈ p.ids, id < (supersedeGrants input ids old).length := by
        rw [length_supersedeGrants]
        exact h p List.mem_cons_self
      rw [replacePeriod]
      simp only [hused, Bool.false_eq_true, ↓reduceIte]
      rw [supersedeGrants_append new hids, supersedeGrants_twice, List.append_assoc,
        ih (ids ++ p.ids) _ _ _ hrest]
      simp [unusedIds, newGrants, hused]

/-! ## The grants after the swap -/

/-- An active grant that no used one begins with. -/
def Db.givesWay (db : Db) (accountId : Id) (day : Int) (grant : SwapGrant) : Bool :=
  isFuture accountId day grant && !(db.beginningWith accountId day grant).any fun row => db.isUsed row.2

theorem isFuture_iff : isFuture accountId day grant = true ↔
    grant.accountId = accountId ∧ grant.deletedAt = none ∧ day ≤ grant.grantPeriodStart ∧
      grant.status = .active := by
  simp [isFuture, Mileage.futureGrant, and_assoc]

theorem mem_beginningWith : row ∈ db.beginningWith accountId day grant ↔
    row ∈ db.futureGrants accountId day ∧ row.1.grantPeriodStart = grant.grantPeriodStart := by
  rw [Db.beginningWith, mem_numbered, mem_futureGrants, Bool.and_eq_true, beq_iff_eq, and_assoc]

theorem givesWay_iff : db.givesWay accountId day grant = true ↔
    isFuture accountId day grant = true ∧
      ∀ row ∈ db.beginningWith accountId day grant, db.isUsed row.2 = false := by
  rw [Db.givesWay, Bool.and_eq_true, Bool.not_eq_true', List.any_eq_false]
  simp only [Bool.not_eq_true]

/-- The entry of the map for a future grant. -/
theorem exists_period (hrow : row ∈ db.futureGrants accountId day) :
    ∃ p ∈ db.periods accountId day, p.start = row.1.grantPeriodStart ∧ row.2 ∈ p.ids ∧
      p.hasUsage = (db.beginningWith accountId day row.1).any fun row => db.isUsed row.2 := by
  have h := periods_grouped db accountId day
  obtain ⟨p, hp, hstart⟩ := h.total row hrow
  refine ⟨p, hp, hstart, ?_, ?_⟩
  · rw [h.ids p hp]
    exact List.mem_map_of_mem (List.mem_filter.2 ⟨hrow, beq_iff_eq.2 hstart.symm⟩)
  · rw [h.usage p hp, Bool.eq_iff_iff, List.any_eq_true, List.any_eq_true]
    have hmem : ∀ row', row' ∈ (db.futureGrants accountId day).filter (startsWith p.start) ↔
        row' ∈ db.beginningWith accountId day row.1 := by
      intro row'
      rw [List.mem_filter, mem_beginningWith, startsWith, beq_iff_eq, hstart]
    constructor
    · rintro ⟨row', hrow', hused⟩
      exact ⟨row', (hmem row').1 hrow', hused⟩
    · rintro ⟨row', hrow', hused⟩
      exact ⟨row', (hmem row').2 hrow', hused⟩

theorem mem_unusedIds {id : Id} : id ∈ unusedIds (db.periods accountId day) ↔
    ∃ grant, (grant, id) ∈ db.futureGrants accountId day ∧ db.givesWay accountId day grant = true := by
  have h := periods_grouped db accountId day
  rw [unusedIds, List.mem_flatMap]
  constructor
  · rintro ⟨p, hp, hid⟩
    obtain ⟨hp, hunused⟩ := List.mem_filter.1 hp
    rw [h.ids p hp, List.mem_map] at hid
    obtain ⟨⟨grant, id⟩, hrow, rfl⟩ := hid
    obtain ⟨hrow, hstart⟩ := List.mem_filter.1 hrow
    refine ⟨grant, hrow, givesWay_iff.2 ⟨(mem_futureGrants.1 hrow).2, ?_⟩⟩
    intro row' hrow'
    obtain ⟨hfuture, hsame⟩ := mem_beginningWith.1 hrow'
    rw [h.usage p hp, Bool.not_eq_true', List.any_eq_false] at hunused
    have hmem : row' ∈ (db.futureGrants accountId day).filter (startsWith p.start) :=
      List.mem_filter.2 ⟨hfuture, beq_iff_eq.2 (hsame.trans (eq_of_beq hstart))⟩
    exact eq_false_of_ne_true (hunused row' hmem)
  · rintro ⟨grant, hrow, hgives⟩
    obtain ⟨p, hp, -, hid, husage⟩ := exists_period hrow
    refine ⟨p, List.mem_filter.2 ⟨hp, ?_⟩, hid⟩
    rw [Db.givesWay, Bool.and_eq_true] at hgives
    rw [husage]
    exact hgives.2

/-- What becomes of a grant that was there. -/
def Db.outcomeOf (db : Db) (input : SwapInput) (accountId : Id) (day : Int) (grant : SwapGrant) :
    SwapGrant :=
  if db.givesWay accountId day grant then supersede input grant else grant

theorem supersedeGrants_unused :
    supersedeGrants input (unusedIds (db.periods accountId day)) db.grants =
      db.grants.map (db.outcomeOf input accountId day) := by
  apply List.ext_getElem?
  intro id
  rw [supersedeGrants, List.getElem?_mapIdx, List.getElem?_map]
  cases hgrant : db.grants[id]? with
  | none => rfl
  | some grant =>
    have hselected : selected (unusedIds (db.periods accountId day)) id grant =
        db.givesWay accountId day grant := by
      rw [Bool.eq_iff_iff, selected, Bool.and_eq_true, List.contains_iff_mem, mem_unusedIds, beq_iff_eq]
      constructor
      · rintro ⟨⟨grant', hrow, hgives⟩, -⟩
        have hsame := hgrant.symm.trans (mem_futureGrants.1 hrow).1
        rw [Option.some.inj hsame]
        exact hgives
      · intro hgives
        have hfuture := (givesWay_iff.1 hgives).1
        exact ⟨⟨grant, mem_futureGrants.2 ⟨hgrant, hfuture⟩, hgives⟩, (isFuture_iff.1 hfuture).2.2.2⟩
    simp only [Option.map_some, hselected, Db.outcomeOf]

theorem mem_newGrants : grant ∈ newGrants input accountId customerId (db.periods accountId day) →
    ∃ old ∈ db.grants, db.givesWay accountId day old = true ∧
      ∃ target ∈ buildGrantInputs input.planSnapshot,
        grant = swapGrant input accountId customerId old.grantPeriodStart old.grantPeriodEnd target := by
  have h := periods_grouped db accountId day
  rw [newGrants, List.mem_flatMap]
  rintro ⟨p, hp, hgrant⟩
  obtain ⟨target, htarget, rfl⟩ := List.mem_map.1 hgrant
  obtain ⟨hp, hunused⟩ := List.mem_filter.1 hp
  obtain ⟨row, hrow, hperiod⟩ := h.ends p hp
  obtain ⟨hstart, hend⟩ := Prod.mk.inj hperiod
  have hfuture := mem_futureGrants.1 hrow
  refine ⟨row.1, List.mem_of_getElem? hfuture.1, ?_, target, htarget, ?_⟩
  · refine givesWay_iff.2 ⟨hfuture.2, ?_⟩
    intro row' hrow'
    obtain ⟨hfuture', hsame⟩ := mem_beginningWith.1 hrow'
    rw [h.usage p hp, Bool.not_eq_true', List.any_eq_false] at hunused
    have hmem : row' ∈ (db.futureGrants accountId day).filter (startsWith p.start) :=
      List.mem_filter.2 ⟨hfuture', beq_iff_eq.2 (hsame.trans hstart)⟩
    exact eq_false_of_ne_true (hunused row' hmem)
  · rw [hstart, hend]

/-- All that a swap does to the grants. -/
theorem replaceFutureGrantsForVehicleSwap_grants {outcome : SwapOutcome}
    {account : SwapAccount} (hok : replaceFutureGrantsForVehicleSwap db input = .ok (db', outcome))
    (haccount : findLast (accountOf input.orderId) db.accounts = some (account, accountId)) :
    db'.grants = db.grants.map (db.outcomeOf input accountId (toBusinessDate input.effectiveDate)) ++
        newGrants input accountId account.customerId
          (db.periods accountId (toBusinessDate input.effectiveDate)) ∧
      buildGrantInputs input.planSnapshot ≠ [] := by
  rw [replaceFutureGrantsForVehicleSwap, haccount, found_bind] at hok
  obtain ⟨row, hrow, hok⟩ := hok
  cases hrow
  obtain ⟨htargets, hok⟩ := require_bind.1 hok
  cases hok
  have hids : ∀ p ∈ db.periods accountId (toBusinessDate input.effectiveDate), ∀ id ∈ p.ids,
      id < db.grants.length := by
    intro p hp id hid
    rw [(periods_grouped ..).ids p hp, List.mem_map] at hid
    obtain ⟨row, hrow, rfl⟩ := hid
    exact get_lt (mem_futureGrants.1 (List.mem_filter.1 hrow).1).1
  refine ⟨?_, ?_⟩
  · have hfold := foldl_replacePeriod input accountId account.customerId _ [] db.grants [] 0 0 hids
    rw [supersedeGrants_nil, List.append_nil, List.nil_append, List.nil_append, supersedeGrants_unused] at hfold
    exact hfold
  · intro hnil
    rw [hnil] at htargets
    cases htargets

/-! ## Periods -/

theorem liveIn_iff : liveIn accountId period grant = true ↔
    ofPeriod accountId period grant = true ∧ grant.status = .active := by
  rw [liveIn, Bool.and_eq_true, beq_iff_eq]

theorem ofPeriod_iff : ofPeriod accountId period grant = true ↔
    grant.accountId = accountId ∧ grant.deletedAt = none ∧ grant.period = period := by
  simp [ofPeriod, and_assoc]

theorem isFuture_of_liveIn (hday : day ≤ period.1) (hlive : liveIn accountId period grant = true) :
    isFuture accountId day grant = true := by
  obtain ⟨hperiod, hactive⟩ := liveIn_iff.1 hlive
  obtain ⟨haccount, hdeleted, rfl⟩ := ofPeriod_iff.1 hperiod
  exact isFuture_iff.2 ⟨haccount, hdeleted, hday, hactive⟩

theorem liveIn_of_isFuture (h : isFuture accountId day grant = true) :
    day ≤ grant.period.1 ∧ liveIn accountId grant.period grant = true := by
  obtain ⟨haccount, hdeleted, hday, hactive⟩ := isFuture_iff.1 h
  exact ⟨hday, liveIn_iff.2 ⟨ofPeriod_iff.2 ⟨haccount, hdeleted, rfl⟩, hactive⟩⟩

theorem hasUsage_of_isUsed (hrow : row ∈ db.futureGrants accountId day)
    (hused : db.isUsed row.2 = true) : db.hasUsage accountId row.1.period = true := by
  obtain ⟨hgrant, hfuture⟩ := mem_futureGrants.1 hrow
  have hperiod := (liveIn_iff.1 (liveIn_of_isFuture hfuture).2).1
  exact List.any_eq_true.2 ⟨row, mem_numbered.2 ⟨hgrant, hperiod⟩, hused⟩

theorem mem_beginningWith_self (hrow : row ∈ db.futureGrants accountId day) :
    row ∈ db.beginningWith accountId day row.1 :=
  mem_beginningWith.2 ⟨hrow, rfl⟩

theorem givesWay_congr (hgives : db.givesWay accountId day grant = true)
    (hfuture : isFuture accountId day grant' = true)
    (hstart : grant'.grantPeriodStart = grant.grantPeriodStart) :
    db.givesWay accountId day grant' = true := by
  refine givesWay_iff.2 ⟨hfuture, ?_⟩
  rw [Db.beginningWith, hstart]
  exact (givesWay_iff.1 hgives).2

/-- The row of a grant that gives way. -/
theorem exists_row (hgrant : grant ∈ db.grants) (hfuture : isFuture accountId day grant = true) :
    ∃ id, (grant, id) ∈ db.futureGrants accountId day := by
  obtain ⟨id, hid⟩ := List.mem_iff_getElem?.1 hgrant
  exact ⟨id, mem_futureGrants.2 ⟨hid, hfuture⟩⟩

/-! ## Grants under the swap -/

theorem ofPeriod_outcomeOf : ofPeriod accountId period (db.outcomeOf input accountId day grant) =
    ofPeriod accountId period grant := by
  rw [Db.outcomeOf]
  split
  · rfl
  · rfl

theorem liveIn_outcomeOf : liveIn accountId period (db.outcomeOf input accountId day grant) = true ↔
    liveIn accountId period grant = true ∧ db.givesWay accountId day grant = false := by
  rw [Db.outcomeOf]
  split
  · next hgives => simp [hgives, liveIn, supersede]
  · next hgives => simp [hgives]

theorem ofPeriod_swapGrant {start : Int} {periodEnd : Option Int} {target : GrantInput} :
    ofPeriod accountId period (swapGrant input accountId customerId start periodEnd target) = true ↔
      (start, periodEnd) = period := by
  simp [ofPeriod, swapGrant, grantOf, SwapGrant.period]

theorem liveIn_swapGrant {start : Int} {periodEnd : Option Int} {target : GrantInput} :
    liveIn accountId period (swapGrant input accountId customerId start periodEnd target) = true ↔
      (start, periodEnd) = period := by
  rw [liveIn_iff, ofPeriod_swapGrant]
  exact and_iff_left rfl

/-- A grant is created for a period only where one gives way. -/
theorem exists_givesWay
    (hgrant : grant ∈ newGrants input accountId customerId (db.periods accountId day))
    (hperiod : ofPeriod accountId period grant = true) :
    ∃ old ∈ db.grants, db.givesWay accountId day old = true ∧ old.period = period := by
  obtain ⟨old, hold, hgives, target, -, rfl⟩ := mem_newGrants hgrant
  exact ⟨old, hold, hgives, ofPeriod_swapGrant.1 hperiod⟩

/-- The grants that are created for a period. -/
theorem filter_newGrants (hgrant : grant ∈ db.grants) (hgives : db.givesWay accountId day grant = true)
    (hone : ∀ row ∈ db.beginningWith accountId day grant, row.1.period = grant.period) :
    (newGrants input accountId customerId (db.periods accountId day)).filter
        (liveIn accountId grant.period) =
      (buildGrantInputs input.planSnapshot).map
        (swapGrant input accountId customerId grant.grantPeriodStart grant.grantPeriodEnd) := by
  have h := periods_grouped db accountId day
  obtain ⟨id, hrow⟩ := exists_row hgrant (givesWay_iff.1 hgives).1
  obtain ⟨p, hp, hstart, -, husage⟩ := exists_period hrow
  have hend : (p.start, p.periodEnd) = grant.period := by
    obtain ⟨row', hrow', hperiod⟩ := h.ends p hp
    rw [← hperiod]
    refine hone row' (mem_beginningWith.2 ⟨hrow', ?_⟩)
    rw [← hstart]
    exact (Prod.mk.inj hperiod).1
  have hunused : (!p.hasUsage) = true := by
    rw [Db.givesWay, Bool.and_eq_true] at hgives
    rw [husage]
    exact hgives.2
  obtain ⟨before, after, hsplit⟩ := List.append_of_mem hp
  have hnodup := h.nodup
  rw [hsplit, List.map_append, List.map_cons] at hnodup
  have hothers : ∀ others : List FuturePeriod, (∀ q ∈ others, q.start ≠ p.start) →
      (newGrants input accountId customerId others).filter (liveIn accountId grant.period) = [] := by
    intro others hne
    rw [List.filter_eq_nil_iff]
    intro new hnew hlive
    obtain ⟨q, hq, hnew⟩ := List.mem_flatMap.1 hnew
    obtain ⟨target, -, rfl⟩ := List.mem_map.1 hnew
    have hsame := liveIn_swapGrant.1 hlive
    rw [← hend] at hsame
    exact hne q (List.mem_filter.1 hq).1 (Prod.mk.inj hsame).1
  have hbefore : ∀ q ∈ before, q.start ≠ p.start := by
    intro q hq hqp
    have hdisjoint := (List.nodup_append'.1 hnodup).2.2
    exact hdisjoint (List.mem_map_of_mem hq) (hqp ▸ List.mem_cons_self)
  have hafter : ∀ q ∈ after, q.start ≠ p.start := by
    intro q hq hqp
    have hnot := (List.nodup_cons.1 (List.nodup_append'.1 hnodup).2.1).1
    exact hnot (hqp ▸ List.mem_map_of_mem hq)
  have hparts : newGrants input accountId customerId (before ++ p :: after) =
      newGrants input accountId customerId before ++
        ((buildGrantInputs input.planSnapshot).map
            (swapGrant input accountId customerId p.start p.periodEnd) ++
          newGrants input accountId customerId after) := by
    simp [newGrants, List.filter_append, hunused]
  rw [hsplit, hparts, List.filter_append, List.filter_append, hothers before hbefore,
    hothers after hafter, List.nil_append, List.append_nil]
  obtain ⟨hpstart, hpend⟩ := Prod.mk.inj hend
  rw [hpstart, hpend, List.filter_eq_self]
  intro new hnew
  obtain ⟨target, -, rfl⟩ := List.mem_map.1 hnew
  exact liveIn_swapGrant.2 rfl

/-! ## What a swap preserves -/

theorem ShowsUsage.sole (h : db.ShowsUsage accountId day) (hgrant : grant ∈ db.grants)
    (hgives : db.givesWay accountId day grant = true) :
    ∀ row ∈ db.beginningWith accountId day grant,
      row.1.period = grant.period ∧ db.hasUsage accountId row.1.period = false := by
  obtain ⟨hfuture, hunused⟩ := givesWay_iff.1 hgives
  rcases h grant (List.mem_filter.2 ⟨hgrant, hfuture⟩) with ⟨⟨row, hrow, hused⟩, -⟩ | hsole
  · rw [hunused row hrow] at hused
    cases hused
  · exact hsole

/-- A grant gives way only where its period is not used. -/
theorem ShowsUsage.unused (h : db.ShowsUsage accountId day) (hgrant : grant ∈ db.grants)
    (hgives : db.givesWay accountId day grant = true) : db.hasUsage accountId grant.period = false := by
  obtain ⟨id, hrow⟩ := exists_row hgrant (givesWay_iff.1 hgives).1
  exact (ShowsUsage.sole h hgrant hgives _ (mem_beginningWith_self hrow)).2

/-- A live grant of a period that is not used gives way. -/
theorem ShowsUsage.givesWay (h : db.ShowsUsage accountId day) (hgrant : grant ∈ db.grants)
    (hfuture : isFuture accountId day grant = true)
    (hunused : db.hasUsage accountId grant.period = false) :
    db.givesWay accountId day grant = true := by
  refine givesWay_iff.2 ⟨hfuture, ?_⟩
  obtain ⟨id, hrow⟩ := exists_row hgrant hfuture
  rcases h grant (List.mem_filter.2 ⟨hgrant, hfuture⟩) with ⟨-, hall⟩ | hsole
  · have hself := hall _ (mem_beginningWith_self hrow)
    rw [hunused] at hself
    cases hself
  · intro row hmem
    by_contra hused
    have husage := hasUsage_of_isUsed (mem_beginningWith.1 hmem).1 (eq_true_of_ne_false hused)
    rw [(hsole row hmem).2] at husage
    cases husage

section Swapped

variable (hgrants : db'.grants = db.grants.map (db.outcomeOf input accountId day) ++
    newGrants input accountId customerId (db.periods accountId day))
include hgrants

theorem kept_of_showsUsage (h : db.ShowsUsage accountId day)
    (hused : db.hasUsage accountId period = true) :
    numbered (ofPeriod accountId period) db'.grants = numbered (ofPeriod accountId period) db.grants := by
  rw [hgrants, numbered_append_of_not, numbered_map_of_fixed]
  · intro grant _
    exact ofPeriod_outcomeOf
  · intro grant hgrant hperiod
    rw [Db.outcomeOf]
    split
    · next hgives =>
      have hunused := ShowsUsage.unused h hgrant hgives
      rw [(ofPeriod_iff.1 hperiod).2.2, hused] at hunused
      cases hunused
    · rfl
  · intro new hnew
    by_contra hperiod
    obtain ⟨old, hold, hgives, rfl⟩ := exists_givesWay hnew (eq_true_of_ne_false hperiod)
    rw [ShowsUsage.unused h hold hgives] at hused
    cases hused

/-- A live grant that was there still lives just if it does not give way. -/
theorem live_old {id : Id} (hlt : id < db.grants.length) :
    (grant', id) ∈ numbered (liveIn accountId period) db'.grants ↔
      (grant', id) ∈ numbered (liveIn accountId period) db.grants ∧
        db.givesWay accountId day grant' = false := by
  rw [mem_numbered, mem_numbered, hgrants, List.getElem?_append_left (by simpa using hlt),
    List.getElem?_map]
  constructor
  · rintro ⟨hget, hlive⟩
    obtain ⟨grant, hgrant, rfl⟩ := Option.map_eq_some_iff.1 hget
    obtain ⟨hlive, hkept⟩ := liveIn_outcomeOf.1 hlive
    have hsame : db.outcomeOf input accountId day grant = grant := by simp [Db.outcomeOf, hkept]
    rw [hsame]
    exact ⟨⟨hgrant, hlive⟩, hkept⟩
  · rintro ⟨⟨hget, hlive⟩, hkept⟩
    have hsame : db.outcomeOf input accountId day grant' = grant' := by simp [Db.outcomeOf, hkept]
    simp only at hget
    exact ⟨by rw [hget, Option.map_some, hsame], hlive⟩

theorem unmixed (hday : day ≤ period.1) :
    (∀ row ∈ numbered (liveIn accountId period) db'.grants, row.2 < db.grants.length) ∨
      ∀ row ∈ numbered (liveIn accountId period) db'.grants, db.grants.length ≤ row.2 := by
  by_cases hnew : ∃ new ∈ newGrants input accountId customerId (db.periods accountId day),
      liveIn accountId period new = true
  · right
    obtain ⟨new, hnew, hlive⟩ := hnew
    obtain ⟨old, hold, hgives, rfl⟩ := exists_givesWay hnew (liveIn_iff.1 hlive).1
    rintro ⟨grant', id⟩ hrow
    by_contra hlt
    obtain ⟨hold', hkept⟩ := (live_old hgrants (Nat.lt_of_not_le hlt)).1 hrow
    have hlive' := (mem_numbered.1 hold').2
    have hstart := congrArg Prod.fst (ofPeriod_iff.1 (liveIn_iff.1 hlive').1).2.2
    rw [givesWay_congr hgives (isFuture_of_liveIn hday hlive') hstart] at hkept
    cases hkept
  · left
    rintro ⟨grant', id⟩ hrow
    obtain ⟨hget, hlive⟩ := mem_numbered.1 hrow
    by_contra hlt
    rw [hgrants, List.getElem?_append_right (by simpa using hlt)] at hget
    exact hnew ⟨grant', List.mem_of_getElem? hget, hlive⟩

theorem replaced_of_givesWay (hgrant : grant ∈ db.grants)
    (hgives : db.givesWay accountId day grant = true)
    (hone : ∀ row ∈ db.beginningWith accountId day grant, row.1.period = grant.period) :
    (numbered (liveIn accountId grant.period) db'.grants).map (·.1) =
        (buildGrantInputs input.planSnapshot).map
          (swapGrant input accountId customerId grant.grantPeriodStart grant.grantPeriodEnd) ∧
      ∀ row ∈ numbered (liveIn accountId grant.period) db'.grants, db.grants.length ≤ row.2 := by
  have hday := (liveIn_of_isFuture (givesWay_iff.1 hgives).1).1
  have hgone : ∀ grant' ∈ db.grants, liveIn accountId grant.period grant' = true →
      db.givesWay accountId day grant' = true := by
    intro grant' _ hlive
    have hstart := congrArg Prod.fst (ofPeriod_iff.1 (liveIn_iff.1 hlive).1).2.2
    exact givesWay_congr hgives (isFuture_of_liveIn hday hlive) hstart
  refine ⟨?_, ?_⟩
  · rw [map_numbered, hgrants, List.filter_append, filter_newGrants hgrant hgives hone]
    rw [List.append_left_eq_self, List.filter_eq_nil_iff]
    intro grant' hgrant' hlive
    obtain ⟨old, hold, rfl⟩ := List.mem_map.1 hgrant'
    obtain ⟨hlive, hkept⟩ := liveIn_outcomeOf.1 hlive
    rw [hgone old hold hlive] at hkept
    cases hkept
  · rintro ⟨grant', id⟩ hrow
    by_contra hlt
    obtain ⟨hold, hkept⟩ := (live_old hgrants (Nat.lt_of_not_le hlt)).1 hrow
    obtain ⟨hget, hlive⟩ := mem_numbered.1 hold
    rw [hgone grant' (List.mem_of_getElem? hget) hlive] at hkept
    cases hkept

theorem preservesUsed_of_showsUsage (htargets : buildGrantInputs input.planSnapshot ≠ [])
    (h : db.ShowsUsage accountId day) : PreservesUsed input accountId customerId day db db' := by
  have hreplaced : ∀ period, day ≤ period.1 → (∃ grant ∈ db.grants, liveIn accountId period grant) →
      db.hasUsage accountId period = false →
        (numbered (liveIn accountId period) db'.grants).map (·.1) =
            (buildGrantInputs input.planSnapshot).map
              (swapGrant input accountId customerId period.1 period.2) ∧
          ∀ row ∈ numbered (liveIn accountId period) db'.grants, db.grants.length ≤ row.2 := by
    rintro period hday ⟨grant, hgrant, hlive⟩ hunused
    have hfuture := isFuture_of_liveIn hday hlive
    obtain ⟨-, -, rfl⟩ := ofPeriod_iff.1 (liveIn_iff.1 hlive).1
    have hgives := ShowsUsage.givesWay h hgrant hfuture hunused
    exact replaced_of_givesWay hgrants hgrant hgives fun row hrow =>
      (ShowsUsage.sole h hgrant hgives row hrow).1
  refine ⟨fun period _ hused => kept_of_showsUsage hgrants h hused, hreplaced, ?_,
    fun period hday => unmixed hgrants hday⟩
  intro period hday hexists
  by_cases hused : db.hasUsage accountId period = true
  · obtain ⟨grant, hgrant, hlive⟩ := hexists
    obtain ⟨id, hid⟩ := List.mem_iff_getElem?.1 hgrant
    have hrow : (grant, id) ∈ numbered (ofPeriod accountId period) db'.grants := by
      rw [kept_of_showsUsage hgrants h hused]
      exact mem_numbered.2 ⟨hid, (liveIn_iff.1 hlive).1⟩
    exact ⟨grant, List.mem_of_getElem? (mem_numbered.1 hrow).1, hlive⟩
  · obtain ⟨hlive, -⟩ := hreplaced period hday hexists (eq_false_of_ne_true hused)
    rw [map_numbered] at hlive
    obtain ⟨target, htarget⟩ := List.exists_mem_of_ne_nil _ htargets
    have hmem := List.mem_map_of_mem
      (f := swapGrant input accountId customerId period.1 period.2) htarget
    rw [← hlive] at hmem
    exact ⟨_, List.mem_filter.1 hmem⟩

/-- Where a live grant has been used none gives way, so that each is of a used period. -/
theorem PreservesUsed.hasUsage (h : PreservesUsed input accountId customerId day db db')
    (hfuture : isFuture accountId day grant = true)
    (hused : ∃ row ∈ db.beginningWith accountId day grant, db.isUsed row.2 = true) :
    ∀ row ∈ db.beginningWith accountId day grant, db.hasUsage accountId row.1.period = true := by
  rintro ⟨grant', id⟩ hrow
  by_contra hunused
  obtain ⟨hrow, hstart⟩ := mem_beginningWith.1 hrow
  obtain ⟨hget, hfuture'⟩ := mem_futureGrants.1 hrow
  obtain ⟨hday, hlive⟩ := liveIn_of_isFuture hfuture'
  have hkept : db.givesWay accountId day grant' = false := by
    rw [← Bool.not_eq_true]
    intro hgives
    obtain ⟨row, hmem, hrowUsed⟩ := hused
    rw [(givesWay_iff.1 (givesWay_congr hgives hfuture hstart.symm)).2 row hmem] at hrowUsed
    cases hrowUsed
  have hstill := (live_old hgrants (get_lt hget)).2 ⟨mem_numbered.2 ⟨hget, hlive⟩, hkept⟩
  have hnew := (h.replaced grant'.period hday ⟨grant', List.mem_of_getElem? hget, hlive⟩
    (eq_false_of_ne_true hunused)).2 _ hstill
  exact Nat.not_lt_of_le hnew (get_lt hget)

/-- A grant that gives way is of a period that is not used. -/
theorem PreservesUsed.unused (h : PreservesUsed input accountId customerId day db db')
    (hrow : row ∈ db.futureGrants accountId day) (hgives : db.givesWay accountId day row.1 = true) :
    db.hasUsage accountId row.1.period = false := by
  obtain ⟨hget, hfuture⟩ := mem_futureGrants.1 hrow
  obtain ⟨hday, hlive⟩ := liveIn_of_isFuture hfuture
  by_contra husage
  have hkept := h.kept row.1.period hday (eq_true_of_ne_false husage)
  have hstill : (row.1, row.2) ∈ numbered (liveIn accountId row.1.period) db'.grants := by
    have hmem : row ∈ numbered (ofPeriod accountId row.1.period) db'.grants := by
      rw [hkept]
      exact mem_numbered.2 ⟨hget, (liveIn_iff.1 hlive).1⟩
    exact mem_numbered.2 ⟨(mem_numbered.1 hmem).1, hlive⟩
  have hgone := ((live_old hgrants (get_lt hget)).1 hstill).2
  rw [hgives] at hgone
  cases hgone

/-- The period of a grant that gives way gets new grants from the map. -/
theorem PreservesUsed.exists_period (h : PreservesUsed input accountId customerId day db db')
    (hrow : row ∈ db.futureGrants accountId day) (hgives : db.givesWay accountId day row.1 = true) :
    ∃ p ∈ db.periods accountId day, (p.start, p.periodEnd) = row.1.period := by
  obtain ⟨hget, hfuture⟩ := mem_futureGrants.1 hrow
  obtain ⟨hday, hlive⟩ := liveIn_of_isFuture hfuture
  have hexists : ∃ grant ∈ db.grants, liveIn accountId row.1.period grant :=
    ⟨row.1, List.mem_of_getElem? hget, hlive⟩
  obtain ⟨new, hnew, hnewLive⟩ := h.covered row.1.period hday hexists
  obtain ⟨i, hi⟩ := List.mem_iff_getElem?.1 hnew
  have hplace := (h.replaced row.1.period hday hexists (h.unused hgrants hrow hgives)).2 (new, i)
    (mem_numbered.2 ⟨hi, hnewLive⟩)
  rw [hgrants, List.getElem?_append_right (by simpa using hplace)] at hi
  obtain ⟨p, hp, hmem⟩ := List.mem_flatMap.1 (List.mem_of_getElem? hi)
  obtain ⟨target, -, rfl⟩ := List.mem_map.1 hmem
  exact ⟨p, (List.mem_filter.1 hp).1, liveIn_swapGrant.1 hnewLive⟩

theorem showsUsage_of_preservesUsed (h : PreservesUsed input accountId customerId day db db') :
    db.ShowsUsage accountId day := by
  intro grant hgrant
  obtain ⟨hgrant, hfuture⟩ := List.mem_filter.1 hgrant
  by_cases hused : ∃ row ∈ db.beginningWith accountId day grant, db.isUsed row.2 = true
  · exact .inl ⟨hused, h.hasUsage hgrants hfuture hused⟩
  · have hgives : ∀ row ∈ db.beginningWith accountId day grant,
        db.givesWay accountId day row.1 = true := by
      intro row hrow
      obtain ⟨hrow, hstart⟩ := mem_beginningWith.1 hrow
      refine givesWay_iff.2 ⟨(mem_futureGrants.1 hrow).2, ?_⟩
      rw [Db.beginningWith, hstart]
      intro row' hrow'
      by_contra hrowUsed
      exact hused ⟨row', hrow', eq_true_of_ne_false hrowUsed⟩
    -- the map has one entry for a first day, which gives the last day
    obtain ⟨id, hself⟩ := exists_row hgrant hfuture
    obtain ⟨p, hp, hpself⟩ := h.exists_period hgrants hself (hgives _ (mem_beginningWith_self hself))
    refine .inr fun row hrow => ?_
    obtain ⟨hfutureRow, hstart⟩ := mem_beginningWith.1 hrow
    obtain ⟨q, hq, hqrow⟩ := h.exists_period hgrants hfutureRow (hgives row hrow)
    have hqstart : q.start = p.start :=
      (Prod.mk.inj hqrow).1.trans (hstart.trans (Prod.mk.inj hpself).1.symm)
    have hsame := List.inj_on_of_nodup_map (periods_grouped db accountId day).nodup hq hp hqstart
    refine ⟨?_, h.unused hgrants hfutureRow (hgives row hrow)⟩
    rw [← hqrow, hsame, hpself]

end Swapped

/-- A swap preserves what is used, and replaces exactly the rest, just when the live grants of each
future first day show the usage of their periods. -/
theorem replaceFutureGrantsForVehicleSwap_preserves_iff {outcome : SwapOutcome} {account : SwapAccount}
    (hok : replaceFutureGrantsForVehicleSwap db input = .ok (db', outcome))
    (haccount : findLast (accountOf input.orderId) db.accounts = some (account, accountId)) :
    PreservesUsed input accountId account.customerId (toBusinessDate input.effectiveDate) db db' ↔
      db.ShowsUsage accountId (toBusinessDate input.effectiveDate) := by
  obtain ⟨hgrants, htargets⟩ := replaceFutureGrantsForVehicleSwap_grants hok haccount
  exact ⟨showsUsage_of_preservesUsed hgrants, preservesUsed_of_showsUsage hgrants htargets⟩

/-! ## A period whose used grant is exhausted -/

def benefitGrantOf (status : EntitlementGrantStatus) (remaining used : Int) : SwapGrant :=
  { amountGrant "Car wash" .benefit .times 1 with
    accountId := 0
    grantSource := .monthlyRenewal
    grantPeriodStart := 10
    grantPeriodEnd := some 39
    status := status
    remainingAmount := some remaining
    usedAmount := some used
    orderId := 4
    customerId := 7 }

def mileageGrantOf (start periodEnd : Int) : SwapGrant :=
  { grantOf (amountGrant "Monthly mileage allowance" .mileage .km 1500) 0 .monthlyRenewal start
      (some periodEnd) with
    orderId := 4
    customerId := 7 }

def swapAccounts : List SwapAccount :=
  [{ accountStatus := .active, periodStart := -20, periodEnd := some 70, orderId := 4, customerId := 7 }]

/-- The one car wash of the first period has been used up on the day of the swap. -/
def exhaustedDb : Db where
  accounts := swapAccounts
  grants := [mileageGrantOf 10 39, benefitGrantOf .exhausted 0 1, mileageGrantOf 40 70]
  usages := [⟨1, 1, none, .confirmed, none⟩]

/-- No period has been used. -/
def unusedDb : Db where
  accounts := swapAccounts
  grants := [mileageGrantOf 10 39, benefitGrantOf .active 1 0, mileageGrantOf 40 70]
  usages := []

def targetPlan : PackageSnapshot := ⟨some 2000, none, none, some ⟨"Car wash", some 1⟩⟩

def swapOfDay10 : SwapInput := ⟨none, 3, 10 * 86400000, 4, targetPlan, none, 9⟩

/-- The swap cancels what is left of the used period and grants the used up car wash again. -/
theorem exhausted_not_preserved :
    ∃ db' outcome, replaceFutureGrantsForVehicleSwap exhaustedDb swapOfDay10 = .ok (db', outcome) ∧
      ¬ PreservesUsed swapOfDay10 0 7 10 exhaustedDb db' := by
  obtain ⟨⟨db', outcome⟩, hok, hchanged⟩ := ok_of_any
    (x := replaceFutureGrantsForVehicleSwap exhaustedDb swapOfDay10)
    (p := fun result => numbered (ofPeriod 0 (10, some 39)) result.1.grants !=
      numbered (ofPeriod 0 (10, some 39)) exhaustedDb.grants) (by decide +kernel)
  refine ⟨db', outcome, hok, fun h => ?_⟩
  exact bne_iff_ne.1 hchanged (h.kept (10, some 39) (by decide) (by decide))

theorem unused_preserves : ∃ db' outcome,
    replaceFutureGrantsForVehicleSwap unusedDb swapOfDay10 = .ok (db', outcome) ∧
      (PreservesUsed swapOfDay10 0 7 10 unusedDb db' ↔ unusedDb.ShowsUsage 0 10) := by
  obtain ⟨⟨db', outcome⟩, hok, -⟩ := ok_of_any
    (x := replaceFutureGrantsForVehicleSwap unusedDb swapOfDay10) (p := fun _ => true)
    (by decide +kernel)
  have haccount : findLast (accountOf swapOfDay10.orderId) unusedDb.accounts =
      some (swapAccounts.head (by decide), 0) := by decide
  exact ⟨db', outcome, hok, replaceFutureGrantsForVehicleSwap_preserves_iff hok haccount⟩

end SubscriptionSaas.Change.SwapEntitlements
