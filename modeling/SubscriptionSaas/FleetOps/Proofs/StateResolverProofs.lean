import SubscriptionSaas.FleetOps.StateResolver
import Mathlib.Data.Prod.Lex

/-!
# What a resolved state rests on

The signals of a vehicle have their places in one order as soon as the ids of its records are distinct, so
that the result does not depend on the order of the records (`resolve_permuted`), except for the condition
report that is read: of several latest ones it is the first in the list. A restriction that governs the
vehicle outweighs what may be said against it, and with any other signal around a vehicle does not reach
the threshold as an available one.
-/

namespace SubscriptionSaas.FleetOps

variable {ι : Type} [LinearOrder ι]

/-! ## The order of the signals -/

/-- The priority, from the highest on, then the source, then the id. -/
def Signal.key (s : Signal ι) : Intᵒᵈ ×ₗ Nat ×ₗ ι :=
  toLex (OrderDual.toDual s.priority, toLex (s.source.rank, s.sourceId))

theorem comesBefore_iff {a b : Signal ι} : comesBefore a b ↔ a.key ≤ b.key := by
  unfold comesBefore Signal.key
  simp only [Prod.Lex.toLex_le_toLex, OrderDual.toDual_lt_toDual, OrderDual.toDual_inj]
  split_ifs with hpriority hrank
  · omega
  · omega
  · have heq : a.source.rank = b.source.rank := not_not.1 hrank
    have hsame : b.priority = a.priority := not_not.1 hpriority
    simp [heq, hsame]

instance : Std.Total (comesBefore : Signal ι → Signal ι → Prop) :=
  ⟨fun a b => by simpa only [comesBefore_iff] using le_total a.key b.key⟩

instance : IsTrans (Signal ι) comesBefore :=
  ⟨fun _ _ _ h h' => comesBefore_iff.2 ((comesBefore_iff.1 h).trans (comesBefore_iff.1 h'))⟩

theorem rank_injective {σ τ : VehicleOperationalStateSource} (h : σ.rank = τ.rank) : σ = τ := by
  cases σ <;> cases τ <;> first | rfl | cases h

omit [LinearOrder ι] in
theorem Signal.key_eq {a b : Signal ι} (h : a.key = b.key) :
    a.source = b.source ∧ a.sourceId = b.sourceId :=
  ⟨rank_injective (congrArg (fun k => (ofLex (ofLex k).2).1) h),
    congrArg (fun k => (ofLex (ofLex k).2).2) h⟩

theorem sortSignals_perm (signals : List (Signal ι)) : (sortSignals signals).Perm signals :=
  List.perm_insertionSort _ _

@[simp] theorem mem_sortSignals {signals : List (Signal ι)} {s : Signal ι} :
    s ∈ sortSignals signals ↔ s ∈ signals :=
  (sortSignals_perm signals).mem_iff

/-- Signals with different keys are sorted in one way. -/
theorem sortSignals_eq_of_perm {l l' : List (Signal ι)} (h : l.Perm l')
    (hkeys : ∀ a ∈ l, ∀ b ∈ l, a.source = b.source → a.sourceId = b.sourceId → a = b) :
    sortSignals l = sortSignals l' := by
  refine List.Perm.eq_of_pairwise (fun a b ha hb hab hba => ?_) (List.pairwise_insertionSort comesBefore l)
    (List.pairwise_insertionSort comesBefore l')
    ((sortSignals_perm l).trans (h.trans (sortSignals_perm l').symm))
  obtain ⟨hsource, hid⟩ := Signal.key_eq (le_antisymm (comesBefore_iff.1 hab) (comesBefore_iff.1 hba))
  exact hkeys a (mem_sortSignals.1 ha) b (h.mem_iff.2 (mem_sortSignals.1 hb)) hsource hid

/-- What comes first has the highest priority. -/
theorem priority_le_of_sorted {c : Signal ι} {rest signals : List (Signal ι)}
    (h : sortSignals signals = c :: rest) {s : Signal ι} (hs : s ∈ signals) : s.priority ≤ c.priority := by
  have hsorted : (c :: rest).Pairwise comesBefore := h ▸ List.pairwise_insertionSort comesBefore signals
  have hmem : s ∈ c :: rest := h ▸ mem_sortSignals.2 hs
  rcases List.mem_cons.1 hmem with rfl | hrest
  · exact le_refl _
  · have hbefore := (List.pairwise_cons.1 hsorted).1 s hrest
    unfold comesBefore at hbefore
    split_ifs at hbefore <;> omega

/-! ## The signals of a vehicle -/

/-- The signals of one source. -/
def signalsOf (input : VehicleOperationalStateInput ι) : VehicleOperationalStateSource → List (Signal ι)
  | .vehicle => vehicleSignals input
  | .lease => leaseSignals input
  | .operationalRestriction => operationalRestrictionSignals input
  | .order => orderSignals input
  | .serviceCase => serviceCaseSignals input
  | .conditionReport => conditionReportSignals input
  | .system => []

/-- The states of which a source can give a signal. -/
def gives : VehicleOperationalStateSource → VehicleComputedOperationalState → Bool
  | .vehicle, state => state ≠ .operationallyRestricted && state ≠ .conditionBlocked && state ≠ .unknown
  | .lease, state => state = .leasedActive
  | .operationalRestriction, state => state = .operationallyRestricted
  | .order, state => state = .leasedActive || state = .reservedOrOrderLocked
  | .serviceCase, state => state = .serviceBlocked
  | .conditionReport, state => state = .conditionBlocked
  | .system, _ => false

/-- What all signals have in common. -/
structure Signal.Sound (s : Signal ι) : Prop where
  direct : s.direct = true
  priority : s.priority = priorityForState s.state
  evidenceSource : s.evidence.source = s.source
  evidenceId : s.evidence.sourceId = some s.sourceId
  gives : gives s.source s.state = true

omit [LinearOrder ι] in
theorem sound_signal {fields : EvidenceFields ι} {reason : String} {date : Option Int}
    {source : VehicleOperationalStateSource} {sourceId : ι} {state : VehicleComputedOperationalState}
    (h : FleetOps.gives source state = true) : (signal fields reason date source sourceId state).Sound :=
  ⟨rfl, rfl, rfl, rfl, h⟩

variable {input input' : VehicleOperationalStateInput ι} {s : Signal ι}

/-- The vehicle is deleted or retired. -/
def VehicleOperationalStateInput.Inactive (input : VehicleOperationalStateInput ι) : Prop :=
  ∃ vehicle, input.vehicle = some vehicle ∧
    (vehicle.deletedAt.isSome ∨ isInactiveVehicleStatus vehicle.status = true)

omit [LinearOrder ι] in
theorem signalOfVehicle_cases {vehicle : VehicleSnapshot ι} (h : signalOfVehicle vehicle = some s) :
    s.source = .vehicle ∧ s.Sound ∧ (s.state = .retiredOrInactive →
      vehicle.deletedAt.isSome ∨ isInactiveVehicleStatus vehicle.status = true) := by
  unfold signalOfVehicle at h
  split_ifs at h with hinactive
  all_goals
    obtain rfl := Option.some.inj h
    refine ⟨rfl, sound_signal rfl, fun hstate => ?_⟩
  · exact (Bool.or_eq_true ..).mp hinactive
  · exact (Bool.or_eq_true ..).mp hinactive
  all_goals cases hstate

omit [LinearOrder ι] in
theorem orderSignal_cases {order : OrderSnapshot ι} (h : orderSignal order = some s) :
    s.source = .order ∧ s.sourceId = order.id ∧ s.Sound := by
  unfold orderSignal at h
  simp only at h
  split_ifs at h <;> obtain rfl := Option.some.inj h <;> exact ⟨rfl, rfl, sound_signal rfl⟩

omit [LinearOrder ι] in
theorem conditionReportSignals_cases (h : s ∈ conditionReportSignals input) : ∃ report,
    latestRelevantConditionReport input.conditionReports = some report ∧
      isBlockingConditionReport report = true ∧ s = conditionReportSignal report := by
  unfold conditionReportSignals at h
  cases hlatest : latestRelevantConditionReport input.conditionReports with
  | none =>
    rw [hlatest] at h
    cases h
  | some report =>
    simp only [hlatest] at h
    by_cases hblocking : isBlockingConditionReport report = true
    · rw [if_pos hblocking] at h
      exact ⟨report, rfl, hblocking, List.mem_singleton.1 h⟩
    · rw [if_neg hblocking] at h
      cases h

omit [LinearOrder ι] in
/-- A signal is among those of its source, and is sound. -/
theorem sound_of_mem {σ : VehicleOperationalStateSource} (h : s ∈ signalsOf input σ) :
    s.source = σ ∧ s.Sound := by
  cases σ with
  | vehicle =>
    obtain ⟨vehicle, -, hsignal⟩ := Option.bind_eq_some_iff.1 (Option.mem_toList.1 h)
    have hcases := signalOfVehicle_cases hsignal
    exact ⟨hcases.1, hcases.2.1⟩
  | lease =>
    obtain ⟨lease, -, rfl⟩ := List.mem_map.1 h
    exact ⟨rfl, sound_signal rfl⟩
  | operationalRestriction =>
    obtain ⟨restriction, -, rfl⟩ := List.mem_map.1 h
    exact ⟨rfl, sound_signal rfl⟩
  | order =>
    obtain ⟨order, -, hsignal⟩ := List.mem_filterMap.1 h
    have hcases := orderSignal_cases hsignal
    exact ⟨hcases.1, hcases.2.2⟩
  | serviceCase =>
    obtain ⟨serviceCase, -, rfl⟩ := List.mem_map.1 h
    exact ⟨rfl, sound_signal rfl⟩
  | conditionReport =>
    obtain ⟨report, -, -, rfl⟩ := conditionReportSignals_cases h
    exact ⟨rfl, sound_signal rfl⟩
  | system => cases h

/-- The records of one list have distinct ids. -/
structure VehicleOperationalStateInput.DistinctIds (input : VehicleOperationalStateInput ι) : Prop where
  leases : (input.leases.map (·.id)).Nodup
  operationalRestrictions : (input.operationalRestrictions.map (·.id)).Nodup
  orders : (input.orders.map (·.id)).Nodup
  serviceCases : (input.serviceCases.map (·.id)).Nodup
  conditionReports : (input.conditionReports.map (·.id)).Nodup

omit [LinearOrder ι] in
/-- The signals of one source are told apart by their ids. -/
theorem eq_of_sourceId (hids : input.DistinctIds) {σ : VehicleOperationalStateSource} {a b : Signal ι}
    (ha : a ∈ signalsOf input σ) (hb : b ∈ signalsOf input σ) (h : a.sourceId = b.sourceId) : a = b := by
  cases σ with
  | vehicle =>
    exact Option.some.inj ((Option.mem_toList.1 ha).symm.trans (Option.mem_toList.1 hb))
  | lease =>
    obtain ⟨left, hleft, rfl⟩ := List.mem_map.1 ha
    obtain ⟨right, hright, rfl⟩ := List.mem_map.1 hb
    rw [List.inj_on_of_nodup_map hids.leases (List.mem_of_mem_filter hleft)
      (List.mem_of_mem_filter hright) h]
  | operationalRestriction =>
    obtain ⟨left, hleft, rfl⟩ := List.mem_map.1 ha
    obtain ⟨right, hright, rfl⟩ := List.mem_map.1 hb
    rw [List.inj_on_of_nodup_map hids.operationalRestrictions (List.mem_of_mem_filter hleft)
      (List.mem_of_mem_filter hright) h]
  | order =>
    obtain ⟨left, hleft, hsignal⟩ := List.mem_filterMap.1 ha
    obtain ⟨right, hright, hsignal'⟩ := List.mem_filterMap.1 hb
    have hid := (orderSignal_cases hsignal).2.1
    have hid' := (orderSignal_cases hsignal').2.1
    obtain rfl := List.inj_on_of_nodup_map hids.orders (List.mem_of_mem_filter hleft)
      (List.mem_of_mem_filter hright) (hid.symm.trans (h.trans hid'))
    exact Option.some.inj (hsignal.symm.trans hsignal')
  | serviceCase =>
    obtain ⟨left, hleft, rfl⟩ := List.mem_map.1 ha
    obtain ⟨right, hright, rfl⟩ := List.mem_map.1 hb
    rw [List.inj_on_of_nodup_map hids.serviceCases (List.mem_of_mem_filter hleft)
      (List.mem_of_mem_filter hright) h]
  | conditionReport =>
    obtain ⟨left, hleft, -, rfl⟩ := conditionReportSignals_cases ha
    obtain ⟨right, hright, -, rfl⟩ := conditionReportSignals_cases hb
    rw [Option.some.inj (hleft.symm.trans hright)]
  | system => cases ha

/-- The signals before they are sorted. -/
def rawSignals (input : VehicleOperationalStateInput ι) : List (Signal ι) :=
  vehicleSignals input ++ leaseSignals input ++ operationalRestrictionSignals input ++
    orderSignals input ++ serviceCaseSignals input ++ conditionReportSignals input

omit [LinearOrder ι] in
theorem mem_rawSignals : s ∈ rawSignals input ↔ s ∈ signalsOf input s.source := by
  constructor
  · intro h
    simp only [rawSignals, List.mem_append] at h
    have hany : ∃ σ, s ∈ signalsOf input σ := by
      rcases h with ((((h | h) | h) | h) | h) | h
      exacts [⟨.vehicle, h⟩, ⟨.lease, h⟩, ⟨.operationalRestriction, h⟩, ⟨.order, h⟩, ⟨.serviceCase, h⟩,
        ⟨.conditionReport, h⟩]
    obtain ⟨σ, hσ⟩ := hany
    rwa [(sound_of_mem hσ).1]
  · intro h
    simp only [rawSignals, List.mem_append]
    cases hsource : s.source <;> rw [hsource] at h
    case vehicle => exact .inl (.inl (.inl (.inl (.inl h))))
    case lease => exact .inl (.inl (.inl (.inl (.inr h))))
    case operationalRestriction => exact .inl (.inl (.inl (.inr h)))
    case order => exact .inl (.inl (.inr h))
    case serviceCase => exact .inl (.inr h)
    case conditionReport => exact .inr h
    case system => cases h

theorem mem_buildSignals : s ∈ buildSignals input ↔ s ∈ signalsOf input s.source :=
  mem_sortSignals.trans mem_rawSignals

/-! ## The latest condition report -/

/-- A relevant report than which no relevant one is later. -/
def Latest (reports : List (ConditionReportSnapshot ι)) (report : ConditionReportSnapshot ι) : Prop :=
  report ∈ reports ∧ isRelevantConditionReport report = true ∧
    ∀ other ∈ reports, isRelevantConditionReport other = true →
      reportSortTime other ≤ reportSortTime report

/-- A report that blocks the vehicle and is one of the latest is the only latest one. -/
def LatestDecided (reports : List (ConditionReportSnapshot ι)) : Prop :=
  ∀ left right, Latest reports left → Latest reports right → isBlockingConditionReport left = true →
    left = right

section Reports

omit [LinearOrder ι]

variable {reports reports' : List (ConditionReportSnapshot ι)} {report : ConditionReportSnapshot ι}

theorem Latest.perm (h : reports.Perm reports') (hlatest : Latest reports report) :
    Latest reports' report :=
  ⟨h.mem_iff.1 hlatest.1, hlatest.2.1, fun other hother => hlatest.2.2 other (h.mem_iff.2 hother)⟩

/-- The first of the sorted list is at least as late as each other one. -/
theorem head_insertionSort {l : List (ConditionReportSnapshot ι)}
    (h : (l.insertionSort fun left right => reportSortTime right - reportSortTime left ≤ 0).head? =
      some report) :
    report ∈ l ∧ ∀ other ∈ l, reportSortTime other ≤ reportSortTime report := by
  have hperm := List.perm_insertionSort
    (fun left right : ConditionReportSnapshot ι => reportSortTime right - reportSortTime left ≤ 0) l
  have : Std.Total fun left right : ConditionReportSnapshot ι =>
      reportSortTime right - reportSortTime left ≤ 0 := ⟨fun _ _ => by omega⟩
  have : IsTrans (ConditionReportSnapshot ι) fun left right =>
      reportSortTime right - reportSortTime left ≤ 0 := ⟨fun _ _ _ _ _ => by omega⟩
  have hsorted := List.pairwise_insertionSort
    (fun left right : ConditionReportSnapshot ι => reportSortTime right - reportSortTime left ≤ 0) l
  obtain ⟨rest, hrest⟩ := List.head?_eq_some_iff.1 h
  rw [hrest] at hperm hsorted
  refine ⟨hperm.mem_iff.1 List.mem_cons_self, fun other hother => ?_⟩
  rcases List.mem_cons.1 (hperm.mem_iff.2 hother) with rfl | hmem
  · exact le_refl _
  · have hle := (List.pairwise_cons.1 hsorted).1 other hmem
    omega

theorem latest_of_some (h : latestRelevantConditionReport reports = some report) :
    Latest reports report := by
  obtain ⟨hmem, hmax⟩ := head_insertionSort h
  obtain ⟨hreport, hrelevant⟩ := List.mem_filter.1 hmem
  exact ⟨hreport, hrelevant, fun other hother hrel => hmax other (List.mem_filter.2 ⟨hother, hrel⟩)⟩

theorem not_relevant_of_none (h : latestRelevantConditionReport reports = none) :
    ∀ report ∈ reports, isRelevantConditionReport report = false := by
  have hnil := List.head?_eq_none_iff.1 h
  have hempty := (List.perm_insertionSort _ _).symm.trans (List.Perm.of_eq hnil)
  intro report hreport
  have hnot := List.filter_eq_nil_iff.1 hempty.eq_nil report hreport
  exact Bool.eq_false_iff.2 hnot

/-- Of the latest reports the first in the list is read. -/
theorem latest_cons (h : Latest (report :: reports) report) :
    latestRelevantConditionReport (report :: reports) = some report := by
  unfold latestRelevantConditionReport
  rw [List.filter_cons_of_pos h.2.1, List.insertionSort_cons]
  cases hsorted : (reports.filter isRelevantConditionReport).insertionSort fun left right =>
      reportSortTime right - reportSortTime left ≤ 0 with
  | nil => rfl
  | cons first rest =>
    have hmem : first ∈ reports.filter isRelevantConditionReport :=
      (List.perm_insertionSort _ _).mem_iff.1 (hsorted ▸ List.mem_cons_self)
    obtain ⟨hfirst, hrelevant⟩ := List.mem_filter.1 hmem
    have hle := h.2.2 first (List.mem_cons_of_mem _ hfirst) hrelevant
    rw [List.orderedInsert_cons_of_le _ _ (by omega)]
    rfl

theorem LatestDecided.perm (h : reports.Perm reports') (hdecided : LatestDecided reports) :
    LatestDecided reports' :=
  fun left right hleft hright => hdecided left right (hleft.perm h.symm) (hright.perm h.symm)

/-- When the latest report is decided, the order of the reports does not matter for the signal. -/
theorem conditionReportSignals_perm (h : input.conditionReports.Perm input'.conditionReports)
    (hdecided : LatestDecided input.conditionReports) :
    conditionReportSignals input = conditionReportSignals input' := by
  unfold conditionReportSignals
  cases hleft : latestRelevantConditionReport input.conditionReports with
  | none =>
    cases hright : latestRelevantConditionReport input'.conditionReports with
    | none => rfl
    | some right =>
      have hlatest := (latest_of_some hright).perm h.symm
      exact absurd hlatest.2.1 (by simp [not_relevant_of_none hleft right hlatest.1])
  | some left =>
    have hlatest := latest_of_some hleft
    cases hright : latestRelevantConditionReport input'.conditionReports with
    | none =>
      exact absurd hlatest.2.1 (by simp [not_relevant_of_none hright left (hlatest.perm h).1])
    | some right =>
      have hlatest' := (latest_of_some hright).perm h.symm
      by_cases hblocking : isBlockingConditionReport left = true
      · rw [hdecided left right hlatest hlatest' hblocking]
      · by_cases hblocking' : isBlockingConditionReport right = true
        · rw [hdecided right left hlatest' hlatest hblocking']
        · simp only [hblocking, hblocking', if_false, Bool.false_eq_true]

end Reports

/-! ## The order of the records -/

/-- The same records of one vehicle at one time, in other orders. -/
structure Permuted (input input' : VehicleOperationalStateInput ι) : Prop where
  asOf : input.asOf = input'.asOf
  vehicle : input.vehicle = input'.vehicle
  conditionReports : input.conditionReports.Perm input'.conditionReports
  leases : input.leases.Perm input'.leases
  operationalRestrictions : input.operationalRestrictions.Perm input'.operationalRestrictions
  orders : input.orders.Perm input'.orders
  serviceCases : input.serviceCases.Perm input'.serviceCases

omit [LinearOrder ι] in
theorem rawSignals_perm (h : Permuted input input') (hdecided : LatestDecided input.conditionReports) :
    (rawSignals input).Perm (rawSignals input') := by
  have hvehicle : vehicleSignals input = vehicleSignals input' := by
    rw [vehicleSignals, h.vehicle, vehicleSignals]
  have hleases : (leaseSignals input).Perm (leaseSignals input') := (h.leases.filter _).map _
  have hrestrictions : (operationalRestrictionSignals input).Perm
      (operationalRestrictionSignals input') := by
    rw [operationalRestrictionSignals, h.asOf]
    exact (h.operationalRestrictions.filter _).map _
  have horders : (orderSignals input).Perm (orderSignals input') := (h.orders.filter _).filterMap _
  have hcases : (serviceCaseSignals input).Perm (serviceCaseSignals input') :=
    (h.serviceCases.filter _).map _
  have hreports := List.Perm.of_eq (conditionReportSignals_perm h.conditionReports hdecided)
  exact (((((List.Perm.of_eq hvehicle).append hleases).append hrestrictions).append horders).append
    hcases).append hreports

theorem buildSignals_permuted (h : Permuted input input') (hids : input.DistinctIds)
    (hdecided : LatestDecided input.conditionReports) : buildSignals input = buildSignals input' := by
  refine sortSignals_eq_of_perm (rawSignals_perm h hdecided) fun a ha b hb hsource hid => ?_
  exact eq_of_sourceId hids (mem_rawSignals.1 ha) (hsource ▸ mem_rawSignals.1 hb) hid

/-- The records of a vehicle may come in any order. -/
theorem resolve_permuted (h : Permuted input input') (hids : input.DistinctIds)
    (hdecided : LatestDecided input.conditionReports) : resolve input = resolve input' := by
  have horders : (input.orders.filter activeLikeOrder).length =
      (input'.orders.filter activeLikeOrder).length := (h.orders.filter _).length_eq
  unfold resolve resolvedResult unknownResult buildWarnings
  simp only [buildSignals_permuted h hids hdecided, h.asOf, h.vehicle, horders]

/-! ## What the result accounts for -/

/-- Either a candidate is trusted or none is. -/
theorem resolve_cases (input : VehicleOperationalStateInput ι) :
    (∃ candidate ∈ buildSignals input, trusted input.asOf (buildSignals input) candidate = true ∧
      resolve input = resolvedResult input (buildSignals input) candidate) ∨
    resolve input = unknownResult input (buildSignals input) := by
  cases hfind : (sortSignals (buildSignals input)).find? (trusted input.asOf (buildSignals input)) with
  | none =>
    refine .inr ?_
    simp only [resolve, hfind]
  | some candidate =>
    refine .inl ⟨candidate, mem_sortSignals.1 (List.mem_of_find?_eq_some hfind),
      List.find?_some hfind, ?_⟩
    simp only [resolve, hfind]

/-- The candidate, what supports it and what is in conflict with it are all signals. -/
theorem signals_perm {candidate : Signal ι} {signals : List (Signal ι)} (h : candidate ∈ signals) :
    (candidate :: supportingSignals candidate signals ++ conflictingSignals candidate signals).Perm
      signals := by
  have herase := List.perm_cons_erase h
  have hconflicts : (signals.filter (·.state ≠ candidate.state)).Perm
      ((signals.erase candidate).filter (·.state ≠ candidate.state)) := by
    have hfilter := herase.filter (·.state ≠ candidate.state)
    rwa [List.filter_cons_of_neg (by simp)] at hfilter
  have hsplit : ((signals.erase candidate).filter (·.state = candidate.state) ++
      (signals.erase candidate).filter (·.state ≠ candidate.state)).Perm (signals.erase candidate) := by
    simpa only [ne_eq, decide_not] using List.filter_append_perm (·.state = candidate.state)
      (signals.erase candidate)
  have hrest := ((sortSignals_perm _).append ((sortSignals_perm _).trans hconflicts)).trans hsplit
  exact (hrest.cons candidate).trans herase.symm

/-- Each signal is the primary one, or supports it, or is in conflict with it, and just one of these; of an
unknown state all signals are conflicts. -/
structure Accounted (input : VehicleOperationalStateInput ι) (supporting conflicting : List (Signal ι)) :
    Prop where
  supports : (resolve input).supportingEvidence = supporting.map (·.evidence)
  conflicts : (resolve input).conflicts = conflicting.map toConflict
  all : (∃ primary, (resolve input).primaryEvidence = primary.evidence ∧
      (primary :: supporting ++ conflicting).Perm (buildSignals input)) ∨
    ((resolve input).primaryEvidence.source = .system ∧
      (supporting ++ conflicting).Perm (buildSignals input))

theorem exists_accounted (input : VehicleOperationalStateInput ι) :
    ∃ supporting conflicting, Accounted input supporting conflicting := by
  rcases resolve_cases input with ⟨candidate, hmem, -, hresolve⟩ | hresolve
  · refine ⟨_, _, ?_, ?_, .inl ⟨candidate, ?_, signals_perm hmem⟩⟩ <;> rw [hresolve] <;> rfl
  · refine ⟨[], sortSignals (buildSignals input), ?_, ?_, .inr ⟨?_, sortSignals_perm _⟩⟩ <;>
      rw [hresolve] <;> rfl

/-- The sources and ids that the result names. -/
def VehicleOperationalStateResult.named (result : VehicleOperationalStateResult ι) :
    List (VehicleOperationalStateSource × Option ι) :=
  (result.primaryEvidence.source, result.primaryEvidence.sourceId) ::
    (result.supportingEvidence.map fun evidence => (evidence.source, evidence.sourceId)) ++
    result.conflicts.map fun conflict => (conflict.source, some conflict.sourceId)

theorem named_resolve {σ : VehicleOperationalStateSource} (hσ : σ ≠ .system) {id : ι} :
    (σ, some id) ∈ (resolve input).named ↔ ∃ s ∈ signalsOf input σ, s.sourceId = id := by
  obtain ⟨supporting, conflicting, haccounted⟩ := exists_accounted input
  have hevidence : ∀ s ∈ buildSignals input,
      (s.evidence.source, s.evidence.sourceId) = (s.source, some s.sourceId) := fun s hs => by
    have hsound := (sound_of_mem (mem_buildSignals.1 hs)).2
    rw [hsound.evidenceSource, hsound.evidenceId]
  have hsignals : (σ, some id) ∈ (buildSignals input).map (fun s => (s.source, some s.sourceId)) ↔
      ∃ s ∈ signalsOf input σ, s.sourceId = id := by
    rw [List.mem_map]
    constructor
    · rintro ⟨s, hs, heq⟩
      obtain ⟨rfl, hid⟩ := Prod.ext_iff.1 heq
      exact ⟨s, mem_buildSignals.1 hs, Option.some.inj hid⟩
    · rintro ⟨s, hs, rfl⟩
      obtain ⟨rfl, -⟩ := sound_of_mem hs
      exact ⟨s, mem_buildSignals.2 hs, rfl⟩
  rw [← hsignals]
  unfold VehicleOperationalStateResult.named
  rw [haccounted.supports, haccounted.conflicts, List.map_map, List.map_map]
  rcases haccounted.all with ⟨primary, hprimary, hperm⟩ | ⟨hprimary, hperm⟩
  · rw [hprimary, ← (hperm.map _).mem_iff, List.map_append, List.map_cons,
      ← hevidence primary (hperm.mem_iff.1 (by simp))]
    have hsupports : supporting.map ((fun e => (e.source, e.sourceId)) ∘ (·.evidence)) =
        supporting.map fun s => (s.source, some s.sourceId) :=
      List.map_congr_left fun s hs => hevidence s (hperm.mem_iff.1 (by simp [hs]))
    rw [hsupports]
    rfl
  · have hsupports : supporting.map ((fun e => (e.source, e.sourceId)) ∘ (·.evidence)) =
        supporting.map fun s => (s.source, some s.sourceId) :=
      List.map_congr_left fun s hs => hevidence s (hperm.mem_iff.1 (by simp [hs]))
    rw [← (hperm.map _).mem_iff, List.map_append, hsupports, List.cons_append, List.mem_cons, hprimary]
    have hne : (σ, some id) ≠ (VehicleOperationalStateSource.system,
        (resolve input).primaryEvidence.sourceId) := fun h => hσ (congrArg Prod.fst h)
    rw [or_iff_right hne]
    rfl

/-! ## Scores -/

omit [LinearOrder ι] in
theorem trusted_iff {asOf : Int} {signals : List (Signal ι)} {candidate : Signal ι} :
    trusted asOf signals candidate = true ↔
      40 ≤ VEHICLE_OPERATIONAL_SOURCE_BASE_SCORE candidate.source +
        (if candidate.direct then 10 else 0) + (if 70 ≤ candidate.priority then 20 else 0) +
        agreementScore candidate signals + (freshnessScore candidate.freshnessDate asOf).score +
        (conflictScore candidate signals).1 := by
  unfold trusted
  rw [decide_eq_true_iff]
  simp only [calculateVehicleOperationalStateConfidence, MINIMUM_RESOLUTION_CONFIDENCE, clampScore]
  omega

theorem freshnessScore_bounds (date : Option Int) (asOf : Int) :
    -20 ≤ (freshnessScore date asOf).score ∧ (freshnessScore date asOf).score ≤ 15 := by
  unfold freshnessScore
  cases date with
  | none => simp
  | some date =>
    dsimp only
    split_ifs <;> simp

omit [LinearOrder ι] in
theorem agreementScore_nonneg (candidate : Signal ι) (signals : List (Signal ι)) :
    0 ≤ agreementScore candidate signals := by
  unfold agreementScore
  dsimp only
  split_ifs with h <;> omega

omit [LinearOrder ι] in
/-- Signals of one source do not agree with each other. -/
theorem agreementScore_eq_zero {candidate : Signal ι} {signals : List (Signal ι)}
    {σ : VehicleOperationalStateSource}
    (h : ∀ s ∈ signals, s.state = candidate.state → s.source = σ) : agreementScore candidate signals = 0 := by
  have hsub : ((signals.filter (·.state = candidate.state)).map (·.source)).dedup ⊆ [σ] := by
    intro τ hτ
    obtain ⟨s, hs, rfl⟩ := List.mem_map.1 (List.mem_dedup.1 hτ)
    obtain ⟨hmem, hstate⟩ := List.mem_filter.1 hs
    exact List.mem_singleton.2 (h s hmem (of_decide_eq_true hstate))
  have hlength := (List.subperm_of_subset (List.nodup_dedup _) hsub).length_le
  unfold agreementScore
  exact if_neg (Nat.not_lt.2 hlength)

omit [LinearOrder ι] in
/-- A signal of another state and of no lower priority tells against the candidate. -/
theorem conflictScore_of_higher {candidate : Signal ι} {signals : List (Signal ι)} (hs : s ∈ signals)
    (hstate : s.state ≠ candidate.state) (hpriority : candidate.priority ≤ s.priority) :
    (conflictScore candidate signals).1 = -40 := by
  have hmem : s ∈ signals.filter (·.state ≠ candidate.state) :=
    List.mem_filter.2 ⟨hs, decide_eq_true hstate⟩
  have hany : (signals.filter (·.state ≠ candidate.state)).any (candidate.priority ≤ ·.priority) = true :=
    List.any_eq_true.2 ⟨s, hmem, decide_eq_true hpriority⟩
  unfold conflictScore
  dsimp only
  rw [if_neg (by simpa using List.ne_nil_of_mem hmem), if_pos hany]

omit [LinearOrder ι] in
theorem conflictScore_nonneg {candidate : Signal ι} {signals : List (Signal ι)}
    (h : ∀ s ∈ signals, s.state ≠ candidate.state → s.priority < candidate.priority) :
    0 ≤ (conflictScore candidate signals).1 := by
  have hany : ¬ (signals.filter (·.state ≠ candidate.state)).any (candidate.priority ≤ ·.priority) = true := by
    intro hany
    obtain ⟨s, hs, hle⟩ := List.any_eq_true.1 hany
    obtain ⟨hmem, hstate⟩ := List.mem_filter.1 hs
    have hlt := h s hmem (of_decide_eq_true hstate)
    have hpriority := of_decide_eq_true hle
    omega
  unfold conflictScore
  dsimp only
  rw [if_neg hany]
  split_ifs <;> simp

/-! ## Safety -/

omit [LinearOrder ι] in
theorem source_of_state {signals : List (Signal ι)} {τ : VehicleOperationalStateSource}
    {state : VehicleComputedOperationalState} (hsound : ∀ s ∈ signals, s.Sound)
    (honly : ∀ σ, gives σ state = true → σ = τ) : ∀ s ∈ signals, s.state = state → s.source = τ :=
  fun s hs hstate => honly s.source (hstate ▸ (hsound s hs).gives)

theorem sound_of_mem_buildSignals : ∀ s ∈ buildSignals input, s.Sound :=
  fun _ hs => (sound_of_mem (mem_buildSignals.1 hs)).2

/-- A vehicle is taken for available, or in preparation, only with no signal of higher priority. -/
theorem available_only (h : (resolve input).computedState = .available ∨
    (resolve input).computedState = .preparation) :
    ∀ s ∈ buildSignals input, s.priority ≤ priorityForState (resolve input).computedState := by
  intro s hs
  rcases resolve_cases input with ⟨candidate, hmem, htrusted, hresolve⟩ | hresolve
  · rw [hresolve] at h ⊢
    have hcandidate : candidate.state = .available ∨ candidate.state = .preparation := h
    have hsound := sound_of_mem_buildSignals candidate hmem
    by_contra hhigher
    have hlt : candidate.priority < s.priority := by
      rw [hsound.priority]
      exact not_le.1 hhigher
    have hstate : s.state ≠ candidate.state := fun heq => by
      rw [(sound_of_mem_buildSignals s hs).priority, heq, ← hsound.priority] at hlt
      exact lt_irrefl _ hlt
    have hvehicle : ∀ σ, gives σ candidate.state = true → σ = .vehicle := by
      intro σ hgives
      cases σ <;> rcases hcandidate with heq | heq <;> simp_all [gives]
    have hagree : agreementScore candidate (buildSignals input) = 0 :=
      agreementScore_eq_zero (source_of_state sound_of_mem_buildSignals hvehicle)
    have hconflict := conflictScore_of_higher hs hstate hlt.le
    have hfresh := (freshnessScore_bounds candidate.freshnessDate input.asOf).2
    have hpriority : candidate.priority < 70 := by
      rw [hsound.priority]
      rcases hcandidate with heq | heq <;> rw [heq] <;> decide
    have hscore := trusted_iff.1 htrusted
    rw [hagree, hconflict, hvehicle _ hsound.gives, if_pos hsound.direct,
      if_neg (not_le.2 hpriority)] at hscore
    simp only [VEHICLE_OPERATIONAL_SOURCE_BASE_SCORE] at hscore
    omega
  · rw [hresolve] at h
    rcases h with h | h <;> cases h

/-- A restriction that governs a vehicle gives its state, unless it is retired or deleted. -/
theorem restricted_of_governs {restriction : RestrictionSnapshot ι}
    (hrestriction : restriction ∈ input.operationalRestrictions)
    (hgoverns : governs input.asOf restriction = true) (hactive : ¬ input.Inactive) :
    (resolve input).computedState = .operationallyRestricted := by
  obtain ⟨s, hs, hsstate⟩ : ∃ s ∈ buildSignals input, s.state = .operationallyRestricted :=
    ⟨operationalRestrictionSignal restriction, mem_buildSignals.2 (List.mem_map_of_mem
      (List.mem_filter.2 ⟨hrestriction, hgoverns⟩)), rfl⟩
  have hnotRetired : ∀ s ∈ buildSignals input, s.state ≠ .retiredOrInactive := by
    intro s hs hstate
    have hsource : s.source = .vehicle := source_of_state sound_of_mem_buildSignals
      (fun σ => by cases σ <;> simp [gives]) s hs hstate
    have hvehicle := mem_buildSignals.1 hs
    rw [hsource] at hvehicle
    obtain ⟨vehicle, hvehicle, hsignal⟩ := Option.bind_eq_some_iff.1 (Option.mem_toList.1 hvehicle)
    exact hactive ⟨vehicle, hvehicle, (signalOfVehicle_cases hsignal).2.2 hstate⟩
  have hbelow : ∀ s ∈ buildSignals input, s.state ≠ .operationallyRestricted → s.priority < 95 := by
    intro s hs hne
    rw [(sound_of_mem_buildSignals s hs).priority]
    have hnot := hnotRetired s hs
    cases hstate : s.state <;> simp_all [priorityForState]
  obtain ⟨candidate, rest, hsorted⟩ := List.exists_cons_of_ne_nil
    (List.ne_nil_of_mem (mem_sortSignals.2 hs))
  have hmem : candidate ∈ buildSignals input := mem_sortSignals.1 (hsorted ▸ List.mem_cons_self)
  have hsound := sound_of_mem_buildSignals candidate hmem
  have htop : 95 ≤ candidate.priority := by
    have hle := priority_le_of_sorted hsorted hs
    rwa [(sound_of_mem_buildSignals s hs).priority, hsstate] at hle
  have hstate : candidate.state = .operationallyRestricted := by
    by_contra hne
    exact absurd (hbelow candidate hmem hne) (not_lt.2 htop)
  have hsource : candidate.source = .operationalRestriction :=
    source_of_state sound_of_mem_buildSignals (fun σ => by cases σ <;> simp [gives]) candidate hmem hstate
  have hconflict : 0 ≤ (conflictScore candidate (buildSignals input)).1 :=
    conflictScore_nonneg fun s hs hne => lt_of_lt_of_le (hbelow s hs (hstate ▸ hne)) htop
  have htrusted : trusted input.asOf (buildSignals input) candidate = true := by
    have hfresh := (freshnessScore_bounds candidate.freshnessDate input.asOf).1
    have hagree := agreementScore_nonneg candidate (buildSignals input)
    rw [trusted_iff, hsource, if_pos hsound.direct, if_pos (by omega)]
    simp only [VEHICLE_OPERATIONAL_SOURCE_BASE_SCORE]
    omega
  have hresolve : resolve input = resolvedResult input (buildSignals input) candidate := by
    simp only [resolve, hsorted, List.find?_cons_of_pos htrusted]
  rw [hresolve]
  exact hstate

/-! ## Exactly when the order does not matter -/

/-- The state of a vehicle is safe and does not depend on the order of its records. -/
structure SafeAndOrderFree (input : VehicleOperationalStateInput ι) : Prop where
  orderFree : ∀ input', Permuted input input' → resolve input' = resolve input
  restricted : ∀ restriction ∈ input.operationalRestrictions, governs input.asOf restriction = true →
    ¬ input.Inactive → (resolve input).computedState = .operationallyRestricted
  available : (resolve input).computedState = .available ∨
    (resolve input).computedState = .preparation →
      ∀ s ∈ buildSignals input, s.priority ≤ priorityForState (resolve input).computedState
  accounted : ∃ supporting conflicting, Accounted input supporting conflicting

/-- With the report read first, a blocking report is named and no other one is. -/
theorem named_first {report : ConditionReportSnapshot ι} {reports : List (ConditionReportSnapshot ι)}
    (hreports : input.conditionReports = report :: reports)
    (hlatest : Latest (report :: reports) report) {id : ι} :
    (.conditionReport, some id) ∈ (resolve input).named ↔
      isBlockingConditionReport report = true ∧ report.id = id := by
  rw [named_resolve (by decide)]
  have hread : latestRelevantConditionReport input.conditionReports = some report :=
    hreports ▸ latest_cons hlatest
  constructor
  · rintro ⟨s, hs, rfl⟩
    obtain ⟨other, hother, hblocking, rfl⟩ := conditionReportSignals_cases hs
    obtain rfl := Option.some.inj (hread.symm.trans hother)
    exact ⟨hblocking, rfl⟩
  · rintro ⟨hblocking, rfl⟩
    refine ⟨conditionReportSignal report, ?_, rfl⟩
    show _ ∈ conditionReportSignals input
    simp [conditionReportSignals, hread, hblocking]

omit [LinearOrder ι] in
/-- The records with one of the reports in the first place. -/
theorem exists_permuted {report : ConditionReportSnapshot ι} (h : report ∈ input.conditionReports) :
    ∃ input' reports, Permuted input input' ∧ input'.conditionReports = report :: reports := by
  obtain ⟨before, after, hreports⟩ := List.append_of_mem h
  refine ⟨{ input with conditionReports := report :: (before ++ after) }, before ++ after,
    ⟨rfl, rfl, ?_, .refl _, .refl _, .refl _, .refl _⟩, rfl⟩
  rw [hreports]
  exact List.perm_middle

/-- The state is safe and free of the order of the records exactly when no two of the latest published
condition reports disagree on whether they block. -/
theorem resolve_safeAndOrderFree_iff (input : VehicleOperationalStateInput ι) (hids : input.DistinctIds) :
    SafeAndOrderFree input ↔ LatestDecided input.conditionReports := by
  constructor
  · intro hsafe left right hleft hright hblocking
    obtain ⟨first, reports, hperm, hreports⟩ := exists_permuted hleft.1
    obtain ⟨second, reports', hperm', hreports'⟩ := exists_permuted hright.1
    have hsame : resolve first = resolve second :=
      (hsafe.orderFree first hperm).trans (hsafe.orderFree second hperm').symm
    have hnamed : (.conditionReport, some left.id) ∈ (resolve first).named :=
      (named_first hreports (hreports ▸ hleft.perm hperm.conditionReports)).2 ⟨hblocking, rfl⟩
    rw [hsame, named_first hreports' (hreports' ▸ hright.perm hperm'.conditionReports)] at hnamed
    exact List.inj_on_of_nodup_map hids.conditionReports hleft.1 hright.1 hnamed.2.symm
  · intro hdecided
    exact ⟨fun _ hperm => (resolve_permuted hperm hids hdecided).symm,
      fun _ hmem hgoverns hactive => restricted_of_governs hmem hgoverns hactive, available_only,
      exists_accounted input⟩

/-- A report of the first day. -/
def firstDayReport (id : Nat) (hasMajorAccident : Bool) : ConditionReportSnapshot Nat :=
  { id, hasMajorAccident := some hasMajorAccident, publishedAt := some 0, reportStatus := .published }

/-- An available vehicle with some condition reports. -/
def availableInput (conditionReports : List (ConditionReportSnapshot Nat)) :
    VehicleOperationalStateInput Nat :=
  { asOf := 0
    conditionReports
    leases := []
    operationalRestrictions := []
    orders := []
    serviceCases := []
    vehicle := some { id := 9, status := .available, updatedAt := some 0 } }

/-- Of two reports of one time the first one in the list decides on the vehicle. -/
theorem tied_reports_in_order :
    (availableInput [firstDayReport 1 true, firstDayReport 2 false]).DistinctIds ∧
      ¬ SafeAndOrderFree (availableInput [firstDayReport 1 true, firstDayReport 2 false]) := by
  refine ⟨⟨.nil, .nil, .nil, .nil, by decide⟩, fun hsafe => ?_⟩
  have hsame := hsafe.orderFree (availableInput [firstDayReport 2 false, firstDayReport 1 true])
    ⟨rfl, rfl, .swap .., .refl _, .refl _, .refl _, .refl _⟩
  have hstates := congrArg (·.computedState) hsame
  revert hstates
  decide +kernel

theorem sole_report_safe : SafeAndOrderFree (availableInput [firstDayReport 1 true]) := by
  refine (resolve_safeAndOrderFree_iff (availableInput [firstDayReport 1 true])
    ⟨.nil, .nil, .nil, .nil, by decide⟩).2 fun left right hleft hright _ => ?_
  exact (List.mem_singleton.1 hleft.1).trans (List.mem_singleton.1 hright.1).symm

end SubscriptionSaas.FleetOps
