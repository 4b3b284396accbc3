import SubscriptionSaas.Depreciation.Proofs.LockProofs
import SubscriptionSaas.Lib.Decimal
import SubscriptionSaas.Lib.Proofs.CalendarProofs
import Mathlib.Algebra.BigOperators.Group.List.Basic
import Mathlib.Tactic.Ring

/-!
# Straight-line depreciation

The months of a straight-line policy follow one another, and their amounts add up to the basis less the
residual value, to the cent. The rows of a policy that is not changed are some of its months, whatever
has become of them in the meantime; a generation adds the others.
-/

namespace SubscriptionSaas.Depreciation

open Calendar Results Runs Tables

variable {policy : NormalizedPolicyValues}

/-! ## The months of a policy -/

theorem monthOf_monthStart (m : Int) : monthOf (monthStart m) = m :=
  monthOf_eq le_rfl (monthStart_strictMono (by omega))

/-- The twelve months are written differently and with two digits. -/
theorem pad2_months : ∀ a ∈ List.range 12, (pad2 (a + 1)).toList.length = 2 ∧
    ∀ b ∈ List.range 12, pad2 (a + 1) = pad2 (b + 1) → a = b := by
  decide +kernel

/-- The month of the year as a natural number below twelve. -/
theorem exists_monthOfYear (m : Int) : ∃ a ∈ List.range 12, m % 12 = (a : Int) :=
  ⟨(m % 12).toNat, List.mem_range.2 (by omega), by omega⟩

/-- The text of a cost period tells its month. -/
theorem formatCostPeriod_injective {m n : Int}
    (h : formatCostPeriod (monthStart m) = formatCostPeriod (monthStart n)) : m = n := by
  obtain ⟨a, ha, hma⟩ := exists_monthOfYear m
  obtain ⟨b, hb, hnb⟩ := exists_monthOfYear n
  obtain ⟨hlena, hinj⟩ := pad2_months a ha
  obtain ⟨hlenb, -⟩ := pad2_months b hb
  have hlist := congrArg String.toList h
  simp only [formatCostPeriod, getUTCFullYear, getUTCMonth, monthOf_monthStart, hma, hnb,
    String.toList_append] at hlist
  obtain ⟨hyears, hmonths⟩ := List.append_inj' hlist (hlena.trans hlenb.symm)
  have hmonth : a = b := hinj b hb (String.toList_inj.mp hmonths)
  have hyear : yearOf m = yearOf n :=
    Decimal.intRepr_injective (String.toList_inj.mp (List.append_cancel_right hyears))
  unfold yearOf at hyear
  omega

/-- What is depreciated in a month that is not the last. -/
def monthlyBaseAmount (policy : NormalizedPolicyValues) : Int :=
  (policy.depreciationBasisAmount - policy.residualValueAmount).tdiv
    (policy.usefulLifeMonths.getD 0)

/-- The month of the policy with the number, from zero on. The first begins with the depreciation, and
the last takes the remainder. -/
def candidateAt (policy : NormalizedPolicyValues) (index : Nat) : ScheduleCandidate :=
  { costPeriod := formatCostPeriod (monthStart (monthOf policy.depreciationStartDate + index))
    periodEnd := monthStart (monthOf policy.depreciationStartDate + index + 1) - 1
    periodStart := if index = 0 then policy.depreciationStartDate
      else monthStart (monthOf policy.depreciationStartDate + index)
    scheduledAmount := if (index : Int) + 1 = policy.usefulLifeMonths.getD 0 then
        monthlyBaseAmount policy + (policy.depreciationBasisAmount - policy.residualValueAmount -
          monthlyBaseAmount policy * policy.usefulLifeMonths.getD 0)
      else monthlyBaseAmount policy }

theorem buildStraightLineScheduleCandidates_eq (policy : NormalizedPolicyValues) :
    buildStraightLineScheduleCandidates policy =
      (List.range (policy.usefulLifeMonths.getD 0).toNat).map (candidateAt policy) := by
  unfold buildStraightLineScheduleCandidates
  simp only [List.bind_eq_flatMap, List.pure_def, ← List.map_eq_flatMap, List.map_map]
  refine List.map_congr_left fun index _ => ?_
  have hlast : ((index : Int) = policy.usefulLifeMonths.getD 0 - 1) ↔
      (index : Int) + 1 = policy.usefulLifeMonths.getD 0 := by omega
  simp only [Function.comp, candidateAt, monthlyBaseAmount, firstDayOfMonth, addMonthsUtc,
    lastDayOfMonth, monthOf_monthStart, hlast, Nat.cast_eq_zero]

/-- No two months have one cost period. -/
theorem costPeriods_nodup (policy : NormalizedPolicyValues) :
    ((buildStraightLineScheduleCandidates policy).map (·.costPeriod)).Nodup := by
  rw [buildStraightLineScheduleCandidates_eq, List.map_map]
  refine List.nodup_range.map fun i j h => ?_
  have hmonth := formatCostPeriod_injective h
  omega

/-- A month follows the month before it on the next day. -/
theorem candidateAt_follows (policy : NormalizedPolicyValues) (index : Nat) :
    (candidateAt policy (index + 1)).periodStart = (candidateAt policy index).periodEnd + 1 := by
  simp only [candidateAt, if_neg index.succ_ne_zero]
  push_cast
  rw [add_assoc, sub_add_cancel]

/-- No month ends before it begins. -/
theorem candidateAt_ordered (policy : NormalizedPolicyValues) (index : Nat) :
    (candidateAt policy index).periodStart ≤ (candidateAt policy index).periodEnd := by
  have hmonth := monthStart_strictMono (lt_add_one (monthOf policy.depreciationStartDate + index))
  simp only [candidateAt]
  split
  · next hzero =>
    have hlt := (monthOf_spec policy.depreciationStartDate).2
    subst hzero
    simp only [Nat.cast_zero, add_zero]
    omega
  · omega

/-- The months begin one after the other. -/
theorem candidates_ascending (policy : NormalizedPolicyValues) :
    (buildStraightLineScheduleCandidates policy).Pairwise
      fun a b => a.periodStart < b.periodStart := by
  rw [buildStraightLineScheduleCandidates_eq, List.pairwise_map]
  refine List.pairwise_lt_range.imp fun {i j} hij => ?_
  have hmonth : monthOf policy.depreciationStartDate + i + 1 ≤
      monthOf policy.depreciationStartDate + j := by omega
  have hstart := monthStart_strictMono.monotone hmonth
  have hordered := candidateAt_ordered policy i
  have hj : (candidateAt policy j).periodStart =
      monthStart (monthOf policy.depreciationStartDate + j) := if_neg (by omega)
  have hi : (candidateAt policy i).periodEnd =
      monthStart (monthOf policy.depreciationStartDate + i + 1) - 1 := rfl
  omega

/-! ## The amounts -/

/-- What the first months depreciate together. -/
def accumulatedDepreciation (months : List ScheduleCandidate) (count : Nat) : Int :=
  ((months.take count).map (·.scheduledAmount)).sum

/-- What is left of the basis after the first months. -/
def closingBookValue (policy : NormalizedPolicyValues) (months : List ScheduleCandidate)
    (count : Nat) : Int :=
  policy.depreciationBasisAmount - accumulatedDepreciation months count

theorem accumulatedDepreciation_succ {months : List ScheduleCandidate} {count : Nat}
    {month : ScheduleCandidate} (h : months[count]? = some month) :
    accumulatedDepreciation months (count + 1) =
      accumulatedDepreciation months count + month.scheduledAmount := by
  unfold accumulatedDepreciation
  rw [List.take_add_one, h, List.map_append, List.sum_append]
  simp

/-- The first months depreciate a multiple of the monthly amount, and all months the basis less the
residual value. -/
theorem accumulatedDepreciation_eq (policy : NormalizedPolicyValues) {life : Nat}
    (hlife : policy.usefulLifeMonths.getD 0 = (life : Int) + 1) {count : Nat} (h : count ≤ life + 1) :
    accumulatedDepreciation (buildStraightLineScheduleCandidates policy) count =
      if count = life + 1 then policy.depreciationBasisAmount - policy.residualValueAmount
      else count * monthlyBaseAmount policy := by
  have hlength : (policy.usefulLifeMonths.getD 0).toNat = life + 1 := by omega
  have hmonth : ∀ index < life + 1, (buildStraightLineScheduleCandidates policy)[index]? =
      some (candidateAt policy index) := by
    intro index hindex
    rw [buildStraightLineScheduleCandidates_eq, hlength, List.getElem?_map,
      List.getElem?_range hindex, Option.map_some]
  induction count with
  | zero => simp [accumulatedDepreciation]
  | succ count ih =>
    rw [accumulatedDepreciation_succ (hmonth count h), ih (Nat.le_of_succ_le h),
      if_neg (Nat.ne_of_lt h)]
    simp only [candidateAt, hlife]
    rcases Nat.lt_or_eq_of_le h with hlt | heq
    · rw [if_neg (by omega), if_neg (by omega)]
      push_cast
      ring
    · obtain rfl : count = life := by omega
      rw [if_pos rfl, if_pos rfl]
      ring

/-! ## The schedules of a policy -/

/-- What a schedule has of its month. -/
def VehicleDepreciationSchedule.candidate (schedule : VehicleDepreciationSchedule) :
    ScheduleCandidate :=
  { costPeriod := schedule.costPeriod
    periodEnd := schedule.periodEnd
    periodStart := schedule.periodStart
    scheduledAmount := schedule.scheduledAmount }

/-- What no action on a schedule changes. -/
def VehicleDepreciationSchedule.key (schedule : VehicleDepreciationSchedule) :
    Nat × Option Int × ScheduleCandidate :=
  (schedule.policyId, schedule.deletedAt, schedule.candidate)

def schedulesOf (db : Db) (policyId : Nat) : List VehicleDepreciationSchedule :=
  db.schedules.filter (·.policyId == policyId)

/-- The policy is there with the values. -/
def Stored (policyId : Nat) (policy : NormalizedPolicyValues) (db : Db) : Prop :=
  ∃ row, db.policies[policyId]? = some row ∧ row.deletedAt = none ∧ row.values = policy

/-- The policy is there with the values, and its schedules are live and some of its months, each at
most once. -/
structure SomeMonths (policyId : Nat) (policy : NormalizedPolicyValues) (db : Db) : Prop where
  stored : Stored policyId policy db
  live : ∀ schedule ∈ schedulesOf db policyId, schedule.deletedAt = none
  unique : ((schedulesOf db policyId).map (·.costPeriod)).Nodup
  months : ∀ schedule ∈ schedulesOf db policyId,
    schedule.candidate ∈ buildStraightLineScheduleCandidates policy

variable {policyId : Nat}

/-- The schedules of the policy are the same in what no action changes. -/
def SameSchedules (policyId : Nat) (db db' : Db) : Prop :=
  (schedulesOf db' policyId).map (·.key) = (schedulesOf db policyId).map (·.key)

theorem SameSchedules.costPeriods (h : SameSchedules policyId db db') :
    (schedulesOf db' policyId).map (·.costPeriod) =
      (schedulesOf db policyId).map (·.costPeriod) := by
  have hmap := congrArg (List.map fun key => key.2.2.costPeriod) h
  rwa [List.map_map, List.map_map] at hmap

theorem SameSchedules.back (h : SameSchedules policyId db db')
    {schedule' : VehicleDepreciationSchedule} (hschedule' : schedule' ∈ schedulesOf db' policyId) :
    ∃ schedule ∈ schedulesOf db policyId, schedule.key = schedule'.key :=
  List.mem_map.1 (h ▸ List.mem_map_of_mem hschedule')

theorem SomeMonths.same (h : SomeMonths policyId policy db) (hstored : Stored policyId policy db')
    (hsame : SameSchedules policyId db db') : SomeMonths policyId policy db' := by
  refine ⟨hstored, fun schedule' hschedule' => ?_, hsame.costPeriods ▸ h.unique,
    fun schedule' hschedule' => ?_⟩
  · obtain ⟨schedule, hschedule, hkey⟩ := hsame.back hschedule'
    have hdeleted : schedule.deletedAt = schedule'.deletedAt := congrArg (·.2.1) hkey
    exact hdeleted ▸ h.live schedule hschedule
  · obtain ⟨schedule, hschedule, hkey⟩ := hsame.back hschedule'
    have hcandidate : schedule.candidate = schedule'.candidate := congrArg (·.2.2) hkey
    exact hcandidate ▸ h.months schedule hschedule

/-! ## Generation -/

/-- The schedule that the generation creates for a month. -/
def generated (policyId : Nat) (row : VehicleDepreciationPolicy) (candidate : ScheduleCandidate) :
    VehicleDepreciationSchedule :=
  { policyId := policyId
    vehicleId := row.vehicleId
    costPeriod := candidate.costPeriod
    periodStart := candidate.periodStart
    periodEnd := candidate.periodEnd
    scheduledAmount := candidate.scheduledAmount
    currency := row.values.currency
    scheduleStatus := .scheduled }

/-- Months of which the policy has no schedule are all created. -/
theorem createSchedules_eq {row : VehicleDepreciationPolicy} {missing : List ScheduleCandidate}
    (hnodup : (missing.map (·.costPeriod)).Nodup)
    (hfree : ∀ candidate ∈ missing, candidate.costPeriod ∉
      (schedulesOf db policyId).map (·.costPeriod)) :
    createSchedules policyId row missing db =
      (.ok (), { db with schedules := db.schedules ++ missing.map (generated policyId row) }) := by
  induction missing generalizing db with
  | nil => simp [createSchedules]
  | cons candidate rest ih =>
    obtain ⟨hfirst, hrest⟩ := List.nodup_cons.1 hnodup
    have hnone : ¬(db.schedules.any fun schedule =>
        schedule.policyId == policyId && schedule.costPeriod == candidate.costPeriod) = true := by
      intro hany
      obtain ⟨schedule, hschedule, hkey⟩ := List.any_eq_true.1 hany
      obtain ⟨hpolicy, hperiod⟩ := Bool.and_eq_true_iff.1 hkey
      exact hfree candidate List.mem_cons_self (List.mem_map.2
        ⟨schedule, List.mem_filter.2 ⟨hschedule, hpolicy⟩, beq_iff_eq.1 hperiod⟩)
    rw [createSchedules, if_neg hnone, ih hrest]
    · simp [generated]
    · intro other hother hmem
      rw [schedulesOf, List.filter_append, List.map_append, List.mem_append] at hmem
      rcases hmem with hmem | hmem
      · exact hfree other (List.mem_cons_of_mem _ hother) hmem
      · have hperiod : other.costPeriod = candidate.costPeriod := by simpa using hmem
        exact hfirst (List.mem_map.2 ⟨other, hother, hperiod⟩)

/-- The months of which the policy has no schedule. -/
def missingMonths (policyId : Nat) (policy : NormalizedPolicyValues) (db : Db) :
    List ScheduleCandidate :=
  (buildStraightLineScheduleCandidates policy).filter fun candidate =>
    candidate.costPeriod ∉ (schedulesOf db policyId).map (·.costPeriod)

theorem SomeMonths.filter_eq (h : SomeMonths policyId policy db) :
    (db.schedules.filter fun schedule =>
      schedule.deletedAt.isNone && schedule.policyId == policyId) = schedulesOf db policyId := by
  refine List.filter_congr fun schedule hschedule => ?_
  by_cases hpolicy : schedule.policyId = policyId
  · rw [h.live schedule (List.mem_filter.2 ⟨hschedule, beq_iff_eq.2 hpolicy⟩)]
    rfl
  · simp [hpolicy]

theorem Stored.findPolicyOrThrow_eq (h : Stored policyId policy db) :
    ∃ row, findPolicyOrThrow db policyId = .ok row ∧ row.values = policy := by
  obtain ⟨row, hrow, hlive, hvalues⟩ := h
  refine ⟨row, ?_, hvalues⟩
  rw [findPolicyOrThrow, findOrThrow, hrow, Option.filter_some, hlive]
  rfl

/-- The generation for an accepted straight-line policy creates what is missing. -/
theorem SomeMonths.generateSchedules_eq (h : SomeMonths policyId policy db)
    (hmethod : policy.depreciationMethod = .straightLine)
    (haccepted : assertPolicyRules policy = .ok ()) : ∃ row, row.values = policy ∧
      generateSchedules db policyId false = (.ok (), { db with
        schedules := db.schedules ++
          (missingMonths policyId policy db).map (generated policyId row) }) := by
  obtain ⟨row, hfind, rfl⟩ := h.stored.findPolicyOrThrow_eq
  have hmissing : ((buildStraightLineScheduleCandidates row.values).filter fun candidate =>
      !(schedulesOf db policyId).any (·.costPeriod == candidate.costPeriod)) =
      missingMonths policyId row.values db := by
    refine List.filter_congr fun candidate _ => ?_
    rw [Bool.eq_iff_iff]
    simp
  refine ⟨row, rfl, ?_⟩
  unfold generateSchedules
  rw [hfind]
  simp only [hmethod, ne_eq, not_true_eq_false, if_false, haccepted, h.filter_eq, hmissing,
    Bool.false_eq_true]
  refine createSchedules_eq ?_ fun candidate hcandidate => ?_
  · exact (List.filter_sublist.map _).nodup (costPeriods_nodup row.values)
  · simpa using (List.mem_filter.1 hcandidate).2

theorem schedulesOf_generated (row : VehicleDepreciationPolicy) (months : List ScheduleCandidate) :
    schedulesOf { db with schedules := db.schedules ++ months.map (generated policyId row) } policyId =
      schedulesOf db policyId ++ months.map (generated policyId row) := by
  rw [schedulesOf, List.filter_append]
  congr 1
  refine List.filter_eq_self.2 fun schedule hschedule => ?_
  obtain ⟨candidate, -, rfl⟩ := List.mem_map.1 hschedule
  exact beq_self_eq_true policyId

/-- With the missing months the policy has some of its months, and none is missing. -/
theorem SomeMonths.with_missing (h : SomeMonths policyId policy db)
    (row : VehicleDepreciationPolicy) {db' : Db}
    (hdb' : db' = { db with schedules := db.schedules ++
      (missingMonths policyId policy db).map (generated policyId row) }) :
    SomeMonths policyId policy db' ∧ missingMonths policyId policy db' = [] := by
  have hof : schedulesOf db' policyId = schedulesOf db policyId ++
      (missingMonths policyId policy db).map (generated policyId row) := by
    subst hdb'
    exact schedulesOf_generated row _
  have hperiods : (schedulesOf db' policyId).map (·.costPeriod) =
      (schedulesOf db policyId).map (·.costPeriod) ++
        (missingMonths policyId policy db).map (·.costPeriod) := by
    rw [hof, List.map_append, List.map_map]
    rfl
  refine ⟨⟨hdb' ▸ h.stored, ?_, ?_, ?_⟩, ?_⟩
  · intro schedule hschedule
    rcases List.mem_append.1 (hof ▸ hschedule) with hold | hnew
    · exact h.live schedule hold
    · obtain ⟨candidate, -, rfl⟩ := List.mem_map.1 hnew
      rfl
  · rw [hperiods]
    refine List.nodup_append'.2 ⟨h.unique, (List.filter_sublist.map _).nodup
      (costPeriods_nodup policy), fun period hold hnew => ?_⟩
    obtain ⟨candidate, hcandidate, rfl⟩ := List.mem_map.1 hnew
    exact of_decide_eq_true (List.mem_filter.1 hcandidate).2 hold
  · intro schedule hschedule
    rcases List.mem_append.1 (hof ▸ hschedule) with hold | hnew
    · exact h.months schedule hold
    · obtain ⟨candidate, hcandidate, rfl⟩ := List.mem_map.1 hnew
      exact (List.mem_filter.1 hcandidate).1
  · refine List.filter_eq_nil_iff.2 fun candidate hcandidate hmissing => ?_
    have hnot := of_decide_eq_true hmissing
    rw [hperiods, List.mem_append, not_or] at hnot
    refine hnot.2 (List.mem_map_of_mem (List.mem_filter.2 ⟨hcandidate, ?_⟩))
    exact decide_eq_true hnot.1

/-- When no month is missing, the schedules of the policy in their order are its months. -/
theorem SomeMonths.listSchedules_eq (h : SomeMonths policyId policy db)
    (hall : missingMonths policyId policy db = []) : ∃ schedules,
      listSchedules db policyId = .ok schedules ∧
      schedules.map (·.candidate) = buildStraightLineScheduleCandidates policy := by
  obtain ⟨row, hfind, -⟩ := h.stored.findPolicyOrThrow_eq
  have hlist : listSchedules db policyId = .ok ((schedulesOf db policyId).insertionSort
      fun a b => a.periodStart ≤ b.periodStart) := by
    rw [listSchedules, hfind, ← h.filter_eq]
    rfl
  refine ⟨_, hlist, ?_⟩
  rw [List.map_insertionSort (fun a b : VehicleDepreciationSchedule => a.periodStart ≤ b.periodStart)
    (fun a b : ScheduleCandidate => a.periodStart ≤ b.periodStart) _ _ fun _ _ _ _ => Iff.rfl]
  refine insertionSort_eq_of_perm ?_ (candidates_ascending policy)
  have hperiods : ((schedulesOf db policyId).map (·.candidate)).map (·.costPeriod) =
      (schedulesOf db policyId).map (·.costPeriod) := by
    rw [List.map_map]
    rfl
  refine (List.perm_ext_iff_of_nodup (List.Nodup.of_map _ (hperiods ▸ h.unique))
    (List.Nodup.of_map _ (costPeriods_nodup policy))).2 fun candidate => ⟨fun hold => ?_,
      fun hcandidate => ?_⟩
  · obtain ⟨schedule, hschedule, rfl⟩ := List.mem_map.1 hold
    exact h.months schedule hschedule
  · have hpresent : candidate.costPeriod ∈ (schedulesOf db policyId).map (·.costPeriod) := by
      by_contra hnot
      exact List.filter_eq_nil_iff.1 hall candidate hcandidate (decide_eq_true hnot)
    obtain ⟨schedule, hschedule, hperiod⟩ := List.mem_map.1 hpresent
    have heq : schedule.candidate = candidate :=
      List.inj_on_of_nodup_map (costPeriods_nodup policy) (h.months schedule hschedule) hcandidate
        hperiod
    exact heq ▸ List.mem_map_of_mem hschedule

/-! ## Calls -/

theorem Stored.append (h : Stored policyId policy db) (new : VehicleDepreciationPolicy) :
    Stored policyId policy { db with policies := db.policies ++ [new] } := by
  obtain ⟨row, hrow, hkept⟩ := h
  exact ⟨row, get_append_old hrow, hkept⟩

/-- A policy is written that is another one, or that keeps its values. -/
theorem Stored.modify (h : Stored policyId policy db) (id : Nat)
    (f : VehicleDepreciationPolicy → VehicleDepreciationPolicy)
    (hf : id ≠ policyId ∨ ∀ row, (f row).deletedAt = row.deletedAt ∧ (f row).values = row.values) :
    Stored policyId policy { db with policies := db.policies.modify id f } := by
  obtain ⟨row, hrow, hlive, hvalues⟩ := h
  rcases get_of_modify id f hrow with hkept | ⟨rfl, hnew⟩
  · exact ⟨row, hkept, hlive, hvalues⟩
  · obtain hne | hsame := hf
    · exact absurd rfl hne
    · exact ⟨f row, hnew, (hsame row).1.trans hlive, (hsame row).2.trans hvalues⟩

theorem SameSchedules.updateSchedule (db : Db) (policyId id : Nat)
    (status : VehicleDepreciationScheduleStatus) (remark : Change String) :
    SameSchedules policyId db (updateSchedule db id status remark) := by
  have hfilter : ∀ db : Db, (schedulesOf db policyId).map (·.key) =
      (db.schedules.map (·.key)).filter (·.1 == policyId) := by
    intro db
    rw [List.filter_map]
    rfl
  unfold SameSchedules
  rw [hfilter, hfilter]
  congr 1
  refine List.ext_getElem? fun i => ?_
  simp only [Depreciation.updateSchedule, List.getElem?_map, List.getElem?_modify]
  cases db.schedules[i]? with
  | none => rfl
  | some schedule =>
    by_cases hi : id = i
    · simp [hi, VehicleDepreciationSchedule.key, VehicleDepreciationSchedule.candidate]
    · simp [hi]

/-- The generation for another policy creates none of its schedules. -/
theorem createSchedules_other {other : Nat} (hother : other ≠ policyId)
    (row : VehicleDepreciationPolicy) (missing : List ScheduleCandidate) (db : Db) :
    schedulesOf (createSchedules other row missing db).2 policyId = schedulesOf db policyId := by
  induction missing generalizing db with
  | nil => rfl
  | cons candidate rest ih =>
    rw [createSchedules]
    split
    · rfl
    · rw [ih, schedulesOf, List.filter_append]
      simp [schedulesOf, hother]

theorem createSchedules_policies {other : Nat} (row : VehicleDepreciationPolicy)
    (missing : List ScheduleCandidate) (db : Db) :
    (createSchedules other row missing db).2.policies = db.policies := by
  induction missing generalizing db with
  | nil => rfl
  | cons candidate rest ih =>
    rw [createSchedules]
    split
    · rfl
    · exact ih _

/-- The generation changes nothing, or inserts schedules of an accepted straight-line policy. -/
theorem generateSchedules_cases (db : Db) (id : Nat) (dryRun : Bool) :
    (generateSchedules db id dryRun).2 = db ∨ ∃ row missing, findPolicyOrThrow db id = .ok row ∧
      row.values.depreciationMethod = .straightLine ∧ assertPolicyRules row.values = .ok () ∧
      dryRun = false ∧ (generateSchedules db id dryRun).2 = (createSchedules id row missing db).2 := by
  unfold generateSchedules
  split
  · exact .inl rfl
  · next row hfind =>
    split
    · exact .inl rfl
    · next hmethod =>
      split
      · exact .inl rfl
      · next haccepted =>
        cases dryRun with
        | true => exact .inl rfl
        | false => exact .inr ⟨row, _, hfind, not_not.1 hmethod, haccepted, rfl, rfl⟩

/-- The policy has still the same values and some of its months, and no month more is missing. -/
def StillMonths (policyId : Nat) (policy : NormalizedPolicyValues) (db db' : Db) : Prop :=
  SomeMonths policyId policy db' ∧
    (missingMonths policyId policy db = [] → missingMonths policyId policy db' = [])

theorem SomeMonths.still (h : SomeMonths policyId policy db) (hstored : Stored policyId policy db')
    (hsame : SameSchedules policyId db db') : StillMonths policyId policy db db' := by
  refine ⟨h.same hstored hsame, fun hall => ?_⟩
  rwa [missingMonths, hsame.costPeriods]

theorem SomeMonths.answer (h : SomeMonths policyId policy db) {result : Except Failure Db}
    (hok : ∀ db', result = .ok db' → Stored policyId policy db' ∧ SameSchedules policyId db db') :
    StillMonths policyId policy db (answer db result).2 := by
  cases result with
  | error failure => exact ⟨h, id⟩
  | ok db' => exact h.still (hok db' rfl).1 (hok db' rfl).2

theorem generateSchedules_months {id : Nat} {dryRun : Bool} (h : SomeMonths policyId policy db) :
    StillMonths policyId policy db (generateSchedules db id dryRun).2 := by
  rcases generateSchedules_cases db id dryRun with hsame |
    ⟨row, missing, hfind, hmethod, haccepted, rfl, hcreate⟩
  · rw [hsame]
    exact ⟨h, fun hall => hall⟩
  by_cases hid : id = policyId
  · subst hid
    obtain ⟨row', hfind', rfl⟩ := h.stored.findPolicyOrThrow_eq
    obtain rfl := Except.ok.inj (hfind.symm.trans hfind')
    obtain ⟨row'', -, heq⟩ := h.generateSchedules_eq hmethod haccepted
    rw [heq]
    obtain ⟨hsome, hall⟩ := h.with_missing row'' rfl
    exact ⟨hsome, fun _ => hall⟩
  · rw [hcreate]
    refine h.still ?_ ?_
    · obtain ⟨stored, hrow, hkept⟩ := h.stored
      exact ⟨stored, (createSchedules_policies row missing db).symm ▸ hrow, hkept⟩
    · rw [SameSchedules, createSchedules_other hid]

theorem updatePolicyStatus_months {id : Nat} {status : VehicleDepreciationPolicyStatus}
    (h : SomeMonths policyId policy db) (hok : updatePolicyStatus db id status = .ok db') :
    Stored policyId policy db' ∧ SameSchedules policyId db db' := by
  obtain ⟨_, -, hok⟩ := bind_ok hok
  obtain rfl := Except.ok.inj hok
  exact ⟨h.stored.modify id _ (.inr fun _ => ⟨rfl, rfl⟩), rfl⟩

theorem step_months {call : Call} (hcall : ∀ dto, call ≠ .updatePolicy policyId dto)
    (h : SomeMonths policyId policy db) :
    StillMonths policyId policy db (db.step platform call) := by
  unfold Db.step
  cases call with
  | createPolicy vehicleId dto =>
    refine h.answer fun db' hok => ?_
    obtain ⟨-, hok⟩ := require_bind.1 hok
    obtain ⟨_, -, hok⟩ := bind_ok hok
    obtain ⟨_, -, hok⟩ := bind_ok hok
    obtain rfl := Except.ok.inj hok
    exact ⟨h.stored.append _, rfl⟩
  | updatePolicy id dto =>
    refine h.answer fun db' hok => ?_
    have hother : id ≠ policyId := fun hid => hcall dto (hid ▸ rfl)
    obtain ⟨_, -, hok⟩ := bind_ok hok
    obtain ⟨_, -, hok⟩ := bind_ok hok
    obtain ⟨_, -, hok⟩ := bind_ok hok
    obtain rfl := Except.ok.inj hok
    exact ⟨h.stored.modify id _ (.inl hother), rfl⟩
  | activatePolicy id =>
    refine h.answer fun db' hok => ?_
    obtain ⟨_, -, hok⟩ := bind_ok hok
    obtain ⟨_, -, hok⟩ := bind_ok hok
    obtain ⟨-, hok⟩ := require_bind.1 hok
    exact updatePolicyStatus_months h hok
  | suspendPolicy id | terminatePolicy id | archivePolicy id =>
    exact h.answer fun db' hok => updatePolicyStatus_months h hok
  | generateSchedules id dryRun => exact generateSchedules_months h
  | confirmSchedule id now remark =>
    refine h.answer fun db' hok => ?_
    obtain ⟨_, -, hok⟩ := bind_ok hok
    obtain ⟨-, hok⟩ := require_bind.1 hok
    obtain ⟨_, -, hok⟩ := bind_ok hok
    obtain rfl := Except.ok.inj hok
    exact ⟨h.stored, .updateSchedule db ..⟩
  | voidSchedule id remark =>
    refine h.answer fun db' hok => ?_
    obtain ⟨_, -, hok⟩ := bind_ok hok
    obtain ⟨-, hok⟩ := require_bind.1 hok
    obtain ⟨-, hok⟩ := require_bind.1 hok
    obtain rfl := Except.ok.inj hok
    exact ⟨h.stored, .updateSchedule db ..⟩
  | lockSchedule id remark =>
    refine h.answer fun db' hok => ?_
    obtain ⟨_, -, hok⟩ := bind_ok hok
    obtain ⟨-, hok⟩ := require_bind.1 hok
    obtain rfl := Except.ok.inj hok
    exact ⟨h.stored, .updateSchedule db ..⟩
  | createRecord id dto =>
    refine h.answer fun db' hok => ?_
    obtain ⟨_, -, hok⟩ := bind_ok hok
    obtain ⟨-, hok⟩ := require_bind.1 hok
    obtain ⟨-, hok⟩ := require_bind.1 hok
    obtain ⟨_, -, hok⟩ := bind_ok hok
    obtain ⟨_, -, hok⟩ := bind_ok hok
    obtain ⟨_, -, hok⟩ := bind_ok hok
    obtain ⟨_, -, hok⟩ := bind_ok hok
    obtain ⟨_, -, hok⟩ := bind_ok hok
    obtain rfl := Except.ok.inj hok
    exact ⟨h.stored, rfl⟩
  | updateRecord id dto =>
    refine h.answer fun db' hok => ?_
    obtain ⟨_, -, hok⟩ := bind_ok hok
    obtain ⟨-, hok⟩ := require_bind.1 hok
    obtain ⟨_, -, hok⟩ := bind_ok hok
    obtain ⟨_, -, hok⟩ := bind_ok hok
    obtain ⟨_, -, hok⟩ := bind_ok hok
    obtain ⟨_, -, hok⟩ := bind_ok hok
    obtain ⟨_, -, hok⟩ := bind_ok hok
    obtain rfl := Except.ok.inj hok
    exact ⟨h.stored, rfl⟩
  | confirmRecord id now remark | voidRecord id now remark | lockRecord id now remark =>
    refine h.answer fun db' hok => ?_
    obtain ⟨_, -, hok⟩ := bind_ok hok
    obtain ⟨-, hok⟩ := require_bind.1 hok
    obtain rfl := Except.ok.inj hok
    exact ⟨h.stored, rfl⟩

theorem runs_months {calls : List Call} (hcalls : ∀ dto, .updatePolicy policyId dto ∉ calls)
    (h : SomeMonths policyId policy db) :
    StillMonths policyId policy db (runs (Db.step platform) db calls) := by
  induction calls generalizing db with
  | nil => exact ⟨h, id⟩
  | cons call rest ih =>
    obtain ⟨hnext, hall⟩ : StillMonths policyId policy db (db.step platform call) :=
      step_months (fun dto hdto => hcalls dto (hdto ▸ List.mem_cons_self)) h
    obtain ⟨hend, hall'⟩ := ih (fun dto hdto => hcalls dto (List.mem_cons_of_mem _ hdto)) hnext
    exact ⟨hend, hall' ∘ hall⟩

/-! ## Exactness -/

/-- The months follow one another from the start on, each within its calendar month, and depreciate the
basis to the cent, so that the book value never falls below the residual value and ends there. -/
structure ExactMonths (policy : NormalizedPolicyValues) (months : List ScheduleCandidate) : Prop where
  length : (months.length : Int) = policy.usefulLifeMonths.getD 0
  start : months.head?.map (·.periodStart) = some policy.depreciationStartDate
  contiguous : ∀ (k : Nat) (month next : ScheduleCandidate), months[k]? = some month →
    months[k + 1]? = some next → next.periodStart = month.periodEnd + 1
  period : ∀ month ∈ months, month.periodStart ≤ month.periodEnd ∧
    month.periodEnd = lastDayOfMonth month.periodStart ∧
    month.costPeriod = formatCostPeriod month.periodStart
  total : (months.map (·.scheduledAmount)).sum =
    policy.depreciationBasisAmount - policy.residualValueAmount
  amounts : ∀ (k : Nat) (month : ScheduleCandidate), months[k]? = some month →
    0 ≤ month.scheduledAmount ∧
    accumulatedDepreciation months (k + 1) =
      accumulatedDepreciation months k + month.scheduledAmount ∧
    closingBookValue policy months (k + 1) =
      closingBookValue policy months k - month.scheduledAmount ∧
    policy.residualValueAmount ≤ closingBookValue policy months (k + 1)
  closing : closingBookValue policy months months.length = policy.residualValueAmount

/-- An accepted straight-line policy has a life of at least one month and something to depreciate. -/
theorem assertPolicyRules_straightLine (hmethod : policy.depreciationMethod = .straightLine)
    (haccepted : assertPolicyRules policy = .ok ()) :
    (∃ life : Nat, policy.usefulLifeMonths.getD 0 = (life : Int) + 1) ∧
      policy.residualValueAmount < policy.depreciationBasisAmount := by
  unfold assertPolicyRules at haccepted
  obtain ⟨-, haccepted⟩ := require_bind.1 haccepted
  rw [if_pos hmethod] at haccepted
  obtain ⟨hlife, haccepted⟩ := require_bind.1 haccepted
  obtain ⟨hbasis, -⟩ := require_bind.1 haccepted
  refine ⟨?_, of_decide_eq_true hbasis⟩
  cases hmonths : policy.usefulLifeMonths with
  | none => simp [hmonths] at hlife
  | some months =>
    have hpos : 0 < months := by simpa [hmonths] using hlife
    exact ⟨(months - 1).toNat, by simp only [Option.getD_some]; omega⟩

theorem candidateAt_period (policy : NormalizedPolicyValues) (index : Nat) :
    (candidateAt policy index).periodEnd = lastDayOfMonth (candidateAt policy index).periodStart ∧
      (candidateAt policy index).costPeriod =
        formatCostPeriod (candidateAt policy index).periodStart := by
  have hmonth : monthOf (candidateAt policy index).periodStart =
      monthOf policy.depreciationStartDate + index := by
    simp only [candidateAt]
    split
    · next hzero => simp [hzero]
    · exact monthOf_monthStart _
  have hformat : ∀ {a b : Int}, monthOf a = monthOf b → formatCostPeriod a = formatCostPeriod b := by
    intro a b hab
    simp only [formatCostPeriod, getUTCFullYear, getUTCMonth, hab]
  refine ⟨?_, hformat ((monthOf_monthStart _).trans hmonth.symm)⟩
  rw [lastDayOfMonth, hmonth]
  rfl

/-- The monthly amount times the months is at most what is depreciated. -/
theorem monthlyBaseAmount_bounds {life : Nat}
    (hlife : policy.usefulLifeMonths.getD 0 = (life : Int) + 1)
    (hbasis : policy.residualValueAmount < policy.depreciationBasisAmount) :
    0 ≤ monthlyBaseAmount policy ∧ monthlyBaseAmount policy * (life + 1) ≤
      policy.depreciationBasisAmount - policy.residualValueAmount := by
  have hdepreciable : 0 ≤ policy.depreciationBasisAmount - policy.residualValueAmount := by omega
  unfold monthlyBaseAmount
  rw [hlife, Int.tdiv_eq_ediv_of_nonneg hdepreciable]
  exact ⟨Int.ediv_nonneg hdepreciable (by omega), Int.ediv_mul_le _ (by omega)⟩

theorem exactMonths (hmethod : policy.depreciationMethod = .straightLine)
    (haccepted : assertPolicyRules policy = .ok ()) :
    ExactMonths policy (buildStraightLineScheduleCandidates policy) := by
  obtain ⟨⟨life, hlife⟩, hbasis⟩ := assertPolicyRules_straightLine hmethod haccepted
  obtain ⟨hbase, hbound⟩ := monthlyBaseAmount_bounds hlife hbasis
  have hmonths : buildStraightLineScheduleCandidates policy =
      (List.range (life + 1)).map (candidateAt policy) := by
    rw [buildStraightLineScheduleCandidates_eq, hlife]
    rfl
  have hlength : (buildStraightLineScheduleCandidates policy).length = life + 1 := by
    rw [hmonths, List.length_map, List.length_range]
  have hget : ∀ (k : Nat) (month : ScheduleCandidate),
      (buildStraightLineScheduleCandidates policy)[k]? = some month →
      k < life + 1 ∧ month = candidateAt policy k := by
    intro k month hmonth
    obtain ⟨hk, rfl⟩ := List.getElem?_eq_some_iff.1 hmonth
    refine ⟨hlength ▸ hk, ?_⟩
    simp only [hmonths, List.getElem_map, List.getElem_range]
  have hall : accumulatedDepreciation (buildStraightLineScheduleCandidates policy) (life + 1) =
      policy.depreciationBasisAmount - policy.residualValueAmount := by
    rw [accumulatedDepreciation_eq policy hlife le_rfl, if_pos rfl]
  refine ⟨?_, ?_, ?_, ?_, ?_, ?_, ?_⟩
  · rw [hlength, hlife]
    push_cast
    rfl
  · rw [hmonths, List.range_succ_eq_map]
    rfl
  · intro k month next hmonth hnext
    obtain ⟨-, rfl⟩ := hget k month hmonth
    obtain ⟨-, rfl⟩ := hget (k + 1) next hnext
    exact candidateAt_follows policy k
  · intro month hmonth
    rw [hmonths] at hmonth
    obtain ⟨k, -, rfl⟩ := List.mem_map.1 hmonth
    exact ⟨candidateAt_ordered policy k, candidateAt_period policy k⟩
  · rw [← hall, accumulatedDepreciation, ← hlength, List.take_length]
  · intro k month hmonth
    obtain ⟨hk, rfl⟩ := hget k month hmonth
    have hsucc := accumulatedDepreciation_succ hmonth
    refine ⟨?_, hsucc, ?_, ?_⟩
    · simp only [candidateAt, hlife]
      split
      · omega
      · exact hbase
    · unfold closingBookValue
      rw [hsucc, sub_sub]
    · unfold closingBookValue
      rw [accumulatedDepreciation_eq policy hlife (show k + 1 ≤ life + 1 from hk)]
      split
      · omega
      · have hle : ((k + 1 : Nat) : Int) * monthlyBaseAmount policy ≤
            monthlyBaseAmount policy * (life + 1) := by
          rw [mul_comm]
          exact mul_le_mul_of_nonneg_left (by omega) hbase
        omega
  · rw [hlength, closingBookValue, hall]
    omega

/-- A thousand cents over three months from the end of January. -/
def januaryPolicy : NormalizedPolicyValues :=
  { assetCostProfileId := none
    basisSource := .manual
    currency := "CNY"
    depreciationBasisAmount := 1000
    depreciationEndDate := none
    depreciationMethod := .straightLine
    depreciationStartDate := 30
    monthlyDepreciationAmount := some 333
    remark := none
    residualValueAmount := 0
    usefulLifeMonths := some 3 }

def januaryDb : Db := ⟨[0], [{ vehicleId := 0, policyStatus := .active, values := januaryPolicy }], [], []⟩

end SubscriptionSaas.Depreciation
