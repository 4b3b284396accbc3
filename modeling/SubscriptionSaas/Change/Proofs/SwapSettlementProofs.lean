import SubscriptionSaas.Change.SwapSettlement
import SubscriptionSaas.Lib.Excess
import SubscriptionSaas.Lib.Tables

/-!
# The deposit over a chain of swaps

No step moves the deposit that the differences are taken to, so every coordinated swap is billed its
excess over the deposit at the start (`Billed`). What is demanded is then what was billed; but the bills
add up to the rise of the highest deposit only while at most one of the swaps asks for more.
-/

namespace SubscriptionSaas.Change.SwapSettlement

open Billing Contract Results Runs Tables Excess

variable {db db' : Db} {order : SwapOrder} {change : SwapChange} {changeId : Id} {deposit : Int}

theorem positiveDepositDelta_eq :
    positiveDepositDelta order change = max 0 (quotedDeposit change - currentDeposit order) := by
  unfold positiveDepositDelta
  by_cases h : 0 < quotedDeposit change - currentDeposit order
  · simp only [if_pos h]
    exact (max_eq_right h.le).symm
  · simp only [if_neg h]
    exact (max_eq_left (not_lt.1 h)).symm

/-! ## The deposit differences billed -/

/-- The change and the amount of a deposit difference. -/
def depositEntry (bill : SettlementBill) : Option (Id × Int) :=
  match bill.sourceKey with
  | .depositDifference changeId => some (changeId, bill.amount)
  | .firstCyclePriceDifference _ => none

def Db.depositEntries (db : Db) : List (Id × Int) := db.bills.filterMap depositEntry

theorem billedDeposit_eq : db.billedDeposit = (db.depositEntries.map (·.2)).sum := by
  unfold Db.billedDeposit Db.depositEntries
  induction db.bills with
  | nil => rfl
  | cons bill bills ih =>
    rw [List.filterMap_cons]
    cases hkey : bill.sourceKey with
    | depositDifference changeId =>
      have hentry : depositEntry bill = some (changeId, bill.amount) := by simp [depositEntry, hkey]
      rw [List.filter_cons_of_pos (by simp [isDepositDifference, hkey]), hentry]
      simp [ih]
    | firstCyclePriceDifference changeId =>
      have hentry : depositEntry bill = none := by simp [depositEntry, hkey]
      rw [List.filter_cons_of_neg (by simp [isDepositDifference, hkey]), hentry, ih]

/-- The amount of the first entry of a change. -/
def amountOf (entries : List (Id × Int)) (changeId : Id) : Int :=
  ((entries.find? (·.1 == changeId)).map (·.2)).getD 0

theorem billedFor_eq : db.billedFor changeId = amountOf db.depositEntries changeId := by
  unfold Db.billedFor amountOf Db.depositEntries
  induction db.bills with
  | nil => rfl
  | cons bill bills ih =>
    rw [List.filterMap_cons]
    cases hkey : bill.sourceKey with
    | depositDifference billed =>
      have hentry : depositEntry bill = some (billed, bill.amount) := by simp [depositEntry, hkey]
      rw [hentry]
      by_cases hsame : billed = changeId
      · simp [hkey, hsame]
      · simpa [hkey, hsame] using ih
    | firstCyclePriceDifference other =>
      have hentry : depositEntry bill = none := by simp [depositEntry, hkey]
      rw [hentry]
      simpa [hkey] using ih

theorem mem_depositEntries {bill : SettlementBill} (hbill : bill ∈ db.bills)
    (hkey : bill.sourceKey = .depositDifference changeId) :
    (changeId, bill.amount) ∈ db.depositEntries :=
  List.mem_filterMap.2 ⟨bill, hbill, by simp [depositEntry, hkey]⟩

theorem requiredDeposits_eq : db.requiredDeposits =
    (db.changes.filter (·.workOrders.isSome)).map quotedDeposit := by
  have hrows : db.coordinated = numbered (·.workOrders.isSome) db.changes := rfl
  rw [Db.requiredDeposits, hrows, ← map_numbered, List.map_map]
  rfl

/-- What a difference of the amount adds to the entries. -/
def entriesFor (changeId : Id) (amount : Int) : List (Id × Int) :=
  if 0 < amount then [(changeId, amount)] else []

theorem mem_entriesFor {entry : Id × Int} {amount : Int} (h : entry ∈ entriesFor changeId amount) :
    entry.1 = changeId ∧ 0 < entry.2 := by
  unfold entriesFor at h
  by_cases hamount : 0 < amount
  · rw [if_pos hamount] at h
    rw [List.mem_singleton.1 h]
    exact ⟨rfl, hamount⟩
  · rw [if_neg hamount] at h
    cases h

theorem sum_entriesFor {amount : Int} (h : 0 ≤ amount) :
    ((entriesFor changeId amount).map (·.2)).sum = amount := by
  unfold entriesFor
  by_cases hamount : 0 < amount
  · simp [hamount]
  · have hzero : amount = 0 := by omega
    simp [hzero]

theorem amountOf_append_other {entries added : List (Id × Int)}
    (h : ∀ entry ∈ added, entry.1 ≠ changeId) :
    amountOf (entries ++ added) changeId = amountOf entries changeId := by
  have hnone : added.find? (·.1 == changeId) = none := by simpa using h
  rw [amountOf, List.find?_append, hnone, Option.or_none]
  rfl

theorem amountOf_append_fresh {entries : List (Id × Int)} {amount : Int} (hamount : 0 ≤ amount)
    (h : ∀ entry ∈ entries, entry.1 ≠ changeId) :
    amountOf (entries ++ entriesFor changeId amount) changeId = amount := by
  have hnone : entries.find? (·.1 == changeId) = none := by simpa using h
  rw [amountOf, List.find?_append, hnone, Option.none_or, entriesFor]
  by_cases hpos : 0 < amount
  · simp [hpos]
  · have hzero : amount = 0 := by omega
    simp [hzero]

/-! ## The invariant -/

/-- Each coordinated swap is billed its own excess over the deposit, and no other is billed. -/
structure Billed (deposit : Int) (db : Db) : Prop where
  base : currentDeposit db.order = deposit
  scheduled : ∀ change ∈ db.changes, change.status = .scheduled → change.workOrders = none
  keyed : ∀ entry ∈ db.depositEntries, 0 < entry.2 ∧
    ∃ change, db.changes[entry.1]? = some change ∧ change.workOrders.isSome
  each : ∀ i change, db.changes[i]? = some change → change.workOrders.isSome →
    db.billedFor i = max 0 (quotedDeposit change - deposit)
  all : db.billedDeposit = excess deposit db.requiredDeposits

theorem initial_billed (order : SwapOrder) (segments : List SwapSegment) (vehicles : List VehicleStatus) :
    Billed (currentDeposit order) (initial order segments vehicles) where
  base := rfl
  scheduled _ hmem := absurd hmem List.not_mem_nil
  keyed _ hmem := absurd hmem List.not_mem_nil
  each _ _ hget := by simp [initial] at hget
  all := rfl

/-- A change of a row that leaves its quote and its work orders, and does not schedule it again. -/
structure Aside (f : SwapChange → SwapChange) : Prop where
  quote : ∀ change, quotedDeposit (f change) = quotedDeposit change
  workOrders : ∀ change, (f change).workOrders = change.workOrders
  status : ∀ change, (f change).status = .scheduled → change.status = .scheduled

/-- A step that bills nothing and coordinates nothing. -/
structure Quiet (db db' : Db) : Prop where
  base : currentDeposit db'.order = currentDeposit db.order
  entries : db'.depositEntries = db.depositEntries
  changes : ∃ i f, Aside f ∧ db'.changes = db.changes.modify i f

theorem aside_id : Aside id := ⟨fun _ => rfl, fun _ => rfl, fun _ => id⟩

theorem Quiet.refl (db : Db) : Quiet db db :=
  ⟨rfl, rfl, 0, id, aside_id, (List.modify_id 0 db.changes).symm⟩

theorem Quiet.requiredDeposits (h : Quiet db db') : db'.requiredDeposits = db.requiredDeposits := by
  obtain ⟨i, f, hf, hchanges⟩ := h.changes
  rw [requiredDeposits_eq, requiredDeposits_eq, hchanges, ← List.filterMap_eq_map,
    List.filterMap_filter, List.filterMap_filter]
  refine filterMap_modify fun change => ?_
  simp only [hf.workOrders, Function.comp, hf.quote]

theorem Quiet.billed (h : Quiet db db') (hbilled : Billed deposit db) : Billed deposit db' := by
  have hrequired := h.requiredDeposits
  obtain ⟨hbase, hentries, i, f, hf, hchanges⟩ := h
  refine ⟨hbase.trans hbilled.base, fun change hmem hstatus => ?_, fun entry hentry => ?_,
    fun j change hget hsome => ?_, ?_⟩
  · obtain ⟨j, hget⟩ := List.mem_iff_getElem?.1 hmem
    rw [hchanges] at hget
    obtain ⟨-, hget⟩ | ⟨-, before, hbefore, rfl⟩ := get_modify hget
    · exact hbilled.scheduled change (List.mem_of_getElem? hget) hstatus
    · rw [hf.workOrders]
      exact hbilled.scheduled before (List.mem_of_getElem? hbefore) (hf.status before hstatus)
  · rw [hentries] at hentry
    obtain ⟨hpos, change, hget, hsome⟩ := hbilled.keyed entry hentry
    refine ⟨hpos, ?_⟩
    rw [hchanges]
    obtain hsame | ⟨-, hmoved⟩ := get_of_modify i f hget
    · exact ⟨change, hsame, hsome⟩
    · exact ⟨f change, hmoved, (hf.workOrders change).symm ▸ hsome⟩
  · rw [billedFor_eq, hentries, ← billedFor_eq]
    rw [hchanges] at hget
    obtain ⟨-, hget⟩ | ⟨rfl, before, hbefore, rfl⟩ := get_modify hget
    · exact hbilled.each j change hget hsome
    · rw [hf.workOrders] at hsome
      rw [hf.quote]
      exact hbilled.each j before hbefore hsome
  · rw [billedDeposit_eq, hentries, ← billedDeposit_eq, hrequired]
    exact hbilled.all

theorem scheduled_billed (hbilled : Billed deposit db) (change : SwapChange) :
    Billed deposit { db with changes := db.changes ++ [scheduledSwap change] } := by
  refine ⟨hbilled.base, fun row hmem hstatus => ?_, fun entry hentry => ?_,
    fun i row hget hsome => ?_, ?_⟩
  · rcases List.mem_append.1 hmem with hmem | hmem
    · exact hbilled.scheduled row hmem hstatus
    · rw [List.mem_singleton.1 hmem]
      rfl
  · obtain ⟨hpos, row, hget, hsome⟩ := hbilled.keyed entry hentry
    exact ⟨hpos, row, get_append_old hget, hsome⟩
  · rcases get_append hget with hget | ⟨-, rfl⟩
    · exact hbilled.each i row hget hsome
    · cases hsome
  · have hrequired : ({ db with changes := db.changes ++ [scheduledSwap change] } : Db).requiredDeposits =
        db.requiredDeposits := by
      rw [requiredDeposits_eq, requiredDeposits_eq, List.filter_append]
      have hnone : [scheduledSwap change].filter (·.workOrders.isSome) = [] := rfl
      rw [hnone, List.append_nil]
    rw [hrequired]
    exact hbilled.all

/-! ## The coordination -/

/-- The bill of a difference is not needed, is there, or is added. -/
theorem ensureDifference_ok {amount : Int} {billType : Finance.BillType} {label : String} {sourceKey : SourceKey}
    (h : ensureDifference db change amount billType label sourceKey = .ok db') :
    (db' = db ∧ (amount ≤ 0 ∨ ∃ bill ∈ db.bills, bill.sourceKey = sourceKey)) ∨
      (0 < amount ∧ ∃ bill : SettlementBill, bill.sourceKey = sourceKey ∧ bill.amount = amount ∧
        db' = { db with bills := db.bills ++ [bill] }) := by
  unfold ensureDifference at h
  by_cases hamount : 0 < amount
  · rw [if_pos hamount] at h
    unfold ensureSettlementBill at h
    cases hfind : db.bills.find? (·.sourceKey == sourceKey) with
    | some bill =>
      simp only [hfind, require_bind] at h
      obtain ⟨-, h⟩ := h
      obtain rfl := Except.ok.inj h
      have hkey : bill.sourceKey = sourceKey := by simpa using List.find?_some hfind
      exact .inl ⟨rfl, .inr ⟨bill, List.mem_of_find?_eq_some hfind, hkey⟩⟩
    | none =>
      simp only [hfind] at h
      obtain rfl := Except.ok.inj h
      exact .inr ⟨hamount, _, rfl, rfl, rfl⟩
  · rw [if_neg hamount] at h
    obtain rfl := Except.ok.inj h
    exact .inl ⟨rfl, .inl (not_lt.1 hamount)⟩

theorem depositEntries_append (bills : List SettlementBill) :
    ({ db with bills := db.bills ++ bills } : Db).depositEntries =
      db.depositEntries ++ bills.filterMap depositEntry := List.filterMap_append

/-- The deposit difference of a swap without one is billed with its amount. -/
theorem ensureDepositDifference_ok {amount : Int} {billType : Finance.BillType} {label : String}
    (hfresh : ∀ entry ∈ db.depositEntries, entry.1 ≠ changeId)
    (h : ensureDifference db change amount billType label (.depositDifference changeId) = .ok db') :
    (∃ bills, db' = { db with bills := bills }) ∧
      db'.depositEntries = db.depositEntries ++ entriesFor changeId amount := by
  obtain ⟨rfl, hnot | ⟨bill, hbill, hkey⟩⟩ | ⟨hamount, bill, hkey, rfl, rfl⟩ := ensureDifference_ok h
  · exact ⟨⟨_, rfl⟩, by rw [entriesFor, if_neg (not_lt.2 hnot), List.append_nil]⟩
  · exact absurd rfl (hfresh _ (mem_depositEntries hbill hkey))
  · refine ⟨⟨_, rfl⟩, ?_⟩
    rw [depositEntries_append, entriesFor, if_pos hamount]
    simp [depositEntry, hkey]

theorem ensureFeeDifference_ok {amount : Int} {billType : Finance.BillType} {label : String}
    (h : ensureDifference db change amount billType label (.firstCyclePriceDifference changeId) =
      .ok db') :
    (∃ bills, db' = { db with bills := bills }) ∧ db'.depositEntries = db.depositEntries := by
  obtain ⟨rfl, -⟩ | ⟨-, bill, hkey, -, rfl⟩ := ensureDifference_ok h
  · exact ⟨⟨_, rfl⟩, rfl⟩
  · refine ⟨⟨_, rfl⟩, ?_⟩
    rw [depositEntries_append]
    simp [depositEntry, hkey]

theorem ensureSettlementBills_ok (hfresh : ∀ entry ∈ db.depositEntries, entry.1 ≠ changeId)
    (h : ensureSettlementBills db changeId change = .ok db') :
    (∃ bills, db' = { db with bills := bills }) ∧
      db'.depositEntries =
        db.depositEntries ++ entriesFor changeId (positiveDepositDelta db.order change) := by
  obtain ⟨mid, hdeposit, hfee⟩ := bind_ok h
  obtain ⟨⟨bills, rfl⟩, hentries⟩ := ensureDepositDifference_ok hfresh hdeposit
  obtain ⟨⟨bills', rfl⟩, hsame⟩ := ensureFeeDifference_ok hfee
  exact ⟨⟨bills', rfl⟩, hsame.trans hentries⟩

/-- The change after its coordination. -/
def executing (workOrders : Id × Id) (change : SwapChange) : SwapChange :=
  { change with workOrders := some workOrders, status := .executing }

/-- A coordination repeats an earlier one, or bills a scheduled change and takes it on. -/
theorem coordinate_ok {workOrders : Id × Id} (h : coordinate db changeId workOrders = .ok db') :
    db' = db ∨ ∃ change mid, db.changes[changeId]? = some change ∧ change.status = .scheduled ∧
      ensureSettlementBills db changeId change = .ok mid ∧
      db' = { mid with changes := mid.changes.modify changeId (executing workOrders) } := by
  unfold coordinate at h
  cases hget : db.changes[changeId]? with
  | none => simp [hget] at h
  | some change =>
    simp only [hget] at h
    split at h
    · obtain rfl := Except.ok.inj h
      exact .inl rfl
    · obtain ⟨_, hassert, h⟩ := bind_ok h
      obtain ⟨mid, hmid, h⟩ := bind_ok h
      obtain rfl := Except.ok.inj h
      have hvalid := require_ok hassert
      simp only [Bool.and_eq_true, beq_iff_eq] at hvalid
      exact .inr ⟨change, mid, rfl, hvalid.1.1.1.1.1, hmid, rfl⟩

/-- A coordinated swap is billed its excess. -/
theorem coordinated_billed {workOrders : Id × Id} {mid : Db} (hbilled : Billed deposit db)
    (hget : db.changes[changeId]? = some change) (hstatus : change.status = .scheduled)
    (hmid : ensureSettlementBills db changeId change = .ok mid) :
    Billed deposit { mid with changes := mid.changes.modify changeId (executing workOrders) } := by
  have hnone : change.workOrders = none :=
    hbilled.scheduled change (List.mem_of_getElem? hget) hstatus
  have hfresh : ∀ entry ∈ db.depositEntries, entry.1 ≠ changeId := by
    rintro entry hentry rfl
    obtain ⟨-, row, hrow, hsome⟩ := hbilled.keyed entry hentry
    obtain rfl : row = change := Option.some.inj (hrow.symm.trans hget)
    rw [hnone] at hsome
    cases hsome
  obtain ⟨⟨bills, rfl⟩, hentries⟩ := ensureSettlementBills_ok hfresh hmid
  have hdelta : positiveDepositDelta db.order change = max 0 (quotedDeposit change - deposit) := by
    rw [positiveDepositDelta_eq, hbilled.base]
  have hnonneg : 0 ≤ max 0 (quotedDeposit change - deposit) := le_max_left _ _
  rw [hdelta] at hentries
  let after : Db := { db with
    bills := bills, changes := db.changes.modify changeId (executing workOrders) }
  have hafter : after.depositEntries =
    db.depositEntries ++ entriesFor changeId (max 0 (quotedDeposit change - deposit)) := hentries
  have hself : after.changes[changeId]? = some (executing workOrders change) := get_modify_self hget
  change Billed deposit after
  refine ⟨hbilled.base, fun row hmem hstatus => ?_, fun entry hentry => ?_, fun i row hrow hsome => ?_, ?_⟩
  · obtain ⟨i, hrow⟩ := List.mem_iff_getElem?.1 hmem
    obtain ⟨-, hrow⟩ | ⟨-, before, -, rfl⟩ := get_modify hrow
    · exact hbilled.scheduled row (List.mem_of_getElem? hrow) hstatus
    · cases hstatus
  · rw [hafter] at hentry
    rcases List.mem_append.1 hentry with hentry | hentry
    · obtain ⟨hpos, row, hrow, hsome⟩ := hbilled.keyed entry hentry
      refine ⟨hpos, ?_⟩
      obtain hrow | ⟨-, hrow⟩ := get_of_modify changeId (executing workOrders) hrow
      · exact ⟨row, hrow, hsome⟩
      · exact ⟨executing workOrders row, hrow, rfl⟩
    · obtain ⟨hkey, hpos⟩ := mem_entriesFor hentry
      rw [hkey]
      exact ⟨hpos, executing workOrders change, hself, rfl⟩
  · rw [billedFor_eq, hafter]
    obtain ⟨hother, hrow⟩ | ⟨rfl, before, hbefore, rfl⟩ := get_modify hrow
    · rw [amountOf_append_other fun entry hentry => (mem_entriesFor hentry).1 ▸ hother.symm,
        ← billedFor_eq]
      exact hbilled.each i row hrow hsome
    · obtain rfl : before = change := Option.some.inj (hbefore.symm.trans hget)
      exact amountOf_append_fresh hnonneg hfresh
  · obtain ⟨earlier, later, hchanges, hlength⟩ := split hget
    have hmodified : after.changes = earlier ++ executing workOrders change :: later := by
      change db.changes.modify changeId (executing workOrders) = _
      rw [hchanges, ← hlength, modify_middle]
    have hall := hbilled.all
    rw [billedDeposit_eq, requiredDeposits_eq, hchanges] at hall
    rw [billedDeposit_eq, hafter, requiredDeposits_eq, hmodified, List.map_append, List.sum_append, hall,
      sum_entriesFor hnonneg]
    have hbefore : (earlier ++ change :: later).filter (·.workOrders.isSome) =
        earlier.filter (·.workOrders.isSome) ++ later.filter (·.workOrders.isSome) := by
      rw [List.filter_append, List.filter_cons_of_neg (by simp [hnone])]
    have hnow : (earlier ++ executing workOrders change :: later).filter (·.workOrders.isSome) =
        earlier.filter (·.workOrders.isSome) ++
          executing workOrders change :: later.filter (·.workOrders.isSome) := by
      rw [List.filter_append, List.filter_cons_of_pos rfl]
    rw [hbefore, hnow]
    simp only [excess, List.map_append, List.map_cons, List.sum_append, List.sum_cons]
    have hquote : quotedDeposit (executing workOrders change) = quotedDeposit change := rfl
    rw [hquote]
    omega

/-! ## The activation -/

theorem switchVehicles_ok (h : switchVehicles db change = .ok db') :
    currentDeposit db'.order = currentDeposit db.order ∧ db'.bills = db.bills ∧
      db'.changes = db.changes := by
  unfold switchVehicles at h
  simp only [require_bind] at h
  obtain ⟨-, -, -, h⟩ := h
  obtain rfl := Except.ok.inj h
  exact ⟨rfl, rfl, rfl⟩

/-- The change after its activation. -/
def completed (now : Int) (change : SwapChange) : SwapChange :=
  { change with actualSwapAt := some now, status := .completed }

theorem completed_aside (now : Int) : Aside (completed now) := by
  refine ⟨fun _ => rfl, fun _ => rfl, fun change hstatus => ?_⟩
  cases hstatus

theorem switchVehicles_quiet {segments : List SwapSegment} {now : Int} {switched : Db}
    (h : switchVehicles { db with segments := segments } change = .ok switched) :
    Quiet db { switched with changes := switched.changes.modify changeId (completed now) } := by
  obtain ⟨hbase, hbills, hchanges⟩ := switchVehicles_ok h
  refine ⟨hbase, ?_, changeId, completed now, completed_aside now, ?_⟩
  · change switched.bills.filterMap depositEntry = _
    rw [hbills]
    rfl
  · change switched.changes.modify changeId (completed now) = _
    rw [hchanges]

/-- An activation switches the vehicle of the order and leaves its deposit. -/
theorem activateIfReady_quiet {now : Int} {assetBlockers : List String} {progress : Progress}
    (h : activateIfReady db changeId now assetBlockers = .ok (progress, db')) : Quiet db db' := by
  unfold activateIfReady at h
  cases hget : db.changes[changeId]? with
  | none => simp [hget] at h
  | some change =>
    simp only [hget] at h
    have hsame : ∀ {p : Progress}, (Except.ok (p, db) : Except ChangeError _) = .ok (progress, db') →
        Quiet db db' := by
      intro p hp
      obtain rfl : db = db' := congrArg Prod.snd (Except.ok.inj hp)
      exact Quiet.refl db
    split at h
    · exact hsame h
    split at h
    · exact hsame h
    split at h
    · exact hsame h
    split at h
    · split at h
      · exact hsame h
      · obtain ⟨switched, hswitch, h⟩ := bind_ok h
        obtain rfl := congrArg Prod.snd (Except.ok.inj h)
        exact switchVehicles_quiet hswitch
    · exact hsame h

/-! ## Runs -/

/-- The change after it is given up. -/
def given (status : ChangeStatus) (change : SwapChange) : SwapChange := { change with status := status }

theorem given_aside {status : ChangeStatus}
    (h : [ChangeStatus.manualTakeover, .cancelled, .failed].contains status) : Aside (given status) := by
  refine ⟨fun _ => rfl, fun _ => rfl, fun change hstatus => ?_⟩
  have hscheduled : status = .scheduled := hstatus
  rw [hscheduled] at h
  exact absurd h (by decide)

theorem step_billed (event : Event) (h : Billed deposit db) : Billed deposit (step db event) := by
  cases event with
  | schedule change =>
    change Billed deposit (if db.changes.any (·.status.live) then db else _)
    split
    · exact h
    · exact scheduled_billed h change
  | coordinate changeId workOrders =>
    simp only [step]
    split
    · rename_i db' hcoordinate
      rcases coordinate_ok hcoordinate with rfl | ⟨change, mid, hget, hstatus, hmid, rfl⟩
      · exact h
      · exact coordinated_billed h hget hstatus hmid
    · exact h
  | activate changeId now assetBlockers =>
    simp only [step]
    split
    · rename_i progress db' hactivate
      exact (activateIfReady_quiet hactivate).billed h
    · exact h
  | giveUp changeId status =>
    simp only [step]
    split
    · rename_i hgiven
      have hquiet : Quiet db { db with changes := db.changes.modify changeId (given status) } :=
        ⟨rfl, rfl, changeId, given status, given_aside hgiven, rfl⟩
      exact hquiet.billed h
    · exact h
  | pay place =>
    have hpaid : ∀ bill, depositEntry (payBill bill) = depositEntry bill := fun _ => rfl
    have hquiet : Quiet db { db with bills := db.bills.modify place payBill } :=
      ⟨rfl, filterMap_modify hpaid, (Quiet.refl db).changes⟩
    exact hquiet.billed h
  | moveVehicle vehicleId status =>
    have hquiet : Quiet db { db with vehicles := db.vehicles.set vehicleId status } :=
      ⟨rfl, rfl, (Quiet.refl db).changes⟩
    exact hquiet.billed h

theorem runs_billed (order : SwapOrder) (segments : List SwapSegment) (vehicles : List VehicleStatus)
    (evs : List Event) :
    Billed (currentDeposit order) (runs step (initial order segments vehicles) evs) :=
  runs_always (Billed (currentDeposit order)) (fun _ event => step_billed event)
    (initial_billed order segments vehicles) evs

/-! ## What is billed and what is required -/

theorem mem_coordinated {row : SwapChange × Nat} (h : row ∈ db.coordinated) :
    db.changes[row.2]? = some row.1 ∧ row.1.workOrders.isSome := by
  have hrow : row ∈ numbered (·.workOrders.isSome) db.changes := h
  exact mem_numbered.1 hrow

/-- In every state what activation demands for a coordinated swap is what was billed. -/
theorem Billed.demanded (h : Billed deposit db) {row : SwapChange × Nat} (hrow : row ∈ db.coordinated) :
    positiveDepositDelta db.order row.1 = db.billedFor row.2 := by
  obtain ⟨hget, hsome⟩ := mem_coordinated hrow
  rw [positiveDepositDelta_eq, h.base, h.each row.2 row.1 hget hsome]

/-- A swap with a deposit difference asks for more than the deposit. -/
theorem Billed.asks_more (h : Billed deposit db) {row : SwapChange × Nat} (hrow : row ∈ db.coordinated)
    {bill : SettlementBill} (hbill : bill ∈ db.bills)
    (hkey : bill.sourceKey = .depositDifference row.2) : deposit < quotedDeposit row.1 := by
  obtain ⟨hget, hsome⟩ := mem_coordinated hrow
  have heach := h.each row.2 row.1 hget hsome
  rw [billedFor_eq] at heach
  have hentry := mem_depositEntries hbill hkey
  cases hfind : db.depositEntries.find? (·.1 == row.2) with
  | none =>
    have hnone := List.find?_eq_none.1 hfind _ hentry
    simp at hnone
  | some entry =>
    have hpos := (h.keyed entry (List.mem_of_find?_eq_some hfind)).1
    have hamount : amountOf db.depositEntries row.2 = entry.2 := by simp [amountOf, hfind]
    rw [hamount] at heach
    by_contra hnot
    have hzero : max 0 (quotedDeposit row.1 - deposit) = 0 := max_eq_left (by omega)
    omega

/-- Two rows next to each other that count are two that count. -/
theorem two_le_filter {l : List Int} (p : Int → Bool) {k : Nat} {a b : Int} (ha : l[k]? = some a)
    (hb : l[k + 1]? = some b) (hpa : p a) (hpb : p b) : 2 ≤ (l.filter p).length := by
  obtain ⟨earlier, later, rfl, rfl⟩ := split ha
  cases later with
  | nil => simp at hb
  | cons c later =>
    obtain rfl : c = b := by simpa using hb
    rw [List.filter_append, List.filter_cons_of_pos hpa, List.filter_cons_of_pos hpb]
    simp only [List.length_append, List.length_cons]
    omega

/-- Over every run the differences telescope just if at most one coordinated swap asks for more than the
deposit that the order started with. -/
theorem runs_telescopes_iff (order : SwapOrder) (segments : List SwapSegment)
    (vehicles : List VehicleStatus) (evs : List Event) :
    Telescopes (currentDeposit order) (runs step (initial order segments vehicles) evs) ↔
      ((runs step (initial order segments vehicles) evs).requiredDeposits.filter
        (currentDeposit order < ·)).length ≤ 1 := by
  have hbilled := runs_billed order segments vehicles evs
  generalize runs step (initial order segments vehicles) evs = db at hbilled ⊢
  have hrise : db.billedDeposit = highest (currentDeposit order) db.requiredDeposits - currentDeposit order ↔
      (db.requiredDeposits.filter (currentDeposit order < ·)).length ≤ 1 := by
    rw [hbilled.all]
    exact excess_eq_rise_iff
  constructor
  · intro h
    exact hrise.1 h.rise
  · intro h
    refine ⟨hrise.2 h, fun k earlier later hearlier hlater hquote bill hbill hkey => ?_,
      fun row hrow => hbilled.demanded hrow⟩
    -- Both swaps would ask for more than the deposit.
    have hmore : currentDeposit order < quotedDeposit later.1 :=
      hbilled.asks_more (List.mem_of_getElem? hlater) hbill hkey
    have hfirst : db.requiredDeposits[k]? = some (quotedDeposit earlier.1) := by
      simp [Db.requiredDeposits, hearlier]
    have hsecond : db.requiredDeposits[k + 1]? = some (quotedDeposit later.1) := by
      simp [Db.requiredDeposits, hlater]
    have htwo := two_le_filter (currentDeposit order < ·) hfirst hsecond
      (decide_eq_true (hquote ▸ hmore)) (decide_eq_true hmore)
    omega

/-- A swap of the order's vehicle that asks for a deposit. -/
def asking (deposit : Int) (sourceSegmentId sourceVehicleId targetVehicleId : Id) : SwapChange where
  status := .scheduled
  contract := some ⟨.archived, some 0⟩
  confirmedQuote := some ⟨.customerConfirmed, deposit, 800⟩
  sourceSegmentId := some sourceSegmentId
  sourceVehicleId := sourceVehicleId
  targetVehicleId := targetVehicleId
  plannedSwapAt := 0
  workOrders := none
  actualSwapAt := none

/-- A swap is coordinated, its deposit difference is paid, and it is activated. -/
def swapEvents (change : SwapChange) (changeId : Id) (now : Int) : List Event :=
  [.schedule change, .coordinate changeId (0, 1), .pay changeId, .activate changeId now []]

/-- Two swaps ask for 5000 on an order with a deposit of 3000; each is coordinated, paid and activated in
turn, and each bills the whole difference. -/
theorem telescopes_counterexample :
    let order : SwapOrder := ⟨0, 0, false, none, 3000⟩
    let db := runs step
      (initial order [⟨0, .active, 0, 99, 800, none⟩] [.leased, .reviewReserved, .reviewReserved])
      (swapEvents (asking 5000 0 0 1) 0 864000000 ++ swapEvents (asking 5000 1 1 2) 1 1728000000)
    db.changes.map (·.status) = [.completed, .completed] ∧
      db.bills.map (fun bill => (bill.sourceKey, bill.amount, bill.billStatus)) =
        [(.depositDifference 0, 2000, .paid), (.depositDifference 1, 2000, .paid)] ∧
      highest 3000 db.requiredDeposits - 3000 = 2000 ∧ ¬ Telescopes (currentDeposit order) db := by
  refine ⟨by decide, by decide, by decide, fun h => ?_⟩
  exact absurd h.rise (by decide)

end SubscriptionSaas.Change.SwapSettlement
