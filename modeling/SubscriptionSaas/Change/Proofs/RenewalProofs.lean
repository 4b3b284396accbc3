import SubscriptionSaas.Change.EntitlementRenewals
import SubscriptionSaas.Contract.Proofs.SegmentProofs
import SubscriptionSaas.Lib.Intervals

/-!
# Renewals of entitlements are idempotent

A run of renewals, of failed renewals and of uses keeps that a grant with an idempotency key is what the
key says (`OrderGrant.Proper`) and that no two grants have one key (`Sound`). From the start of a
segment on the periods of renewals that follow each other tile the segment (`periods_tile`); the jobs of
the activation ask for the first of them.
-/

namespace SubscriptionSaas.Change.Renewals

open Billing Calendar Contract Mileage Results Runs

/-! ## Identities -/

theorem grantIdentity_injective {a b : GrantInput} (h : grantIdentity a = grantIdentity b) :
    a.entitlementType = b.entitlementType ∧ a.unit = b.unit := by
  have hcases : ∀ (t t' : EntitlementType) (u u' : EntitlementUnit),
      typeText t ++ ":" ++ unitText u = typeText t' ++ ":" ++ unitText u' → t = t' ∧ u = u' := by
    intro t t' u u'
    cases t <;> cases t' <;> cases u <;> cases u' <;> decide
  exact hcases _ _ _ _ h

/-! ## The account of an order -/

/-- The active account of an order. -/
def Db.accountId (db : Db) (orderId : Id) : Option Id := db.accounts.findIdx? (activeAccount orderId)

theorem findFirst_place {α : Type} (p : α → Bool) (rows : List α) :
    (findFirst p rows).map (·.2) = rows.findIdx? p := by
  have hfrom : ∀ (rows : List α) (n : Nat),
      ((rows.zipIdx n).find? fun row => p row.1).map (·.2) = (rows.findIdx? p).map (· + n) := by
    intro rows
    induction rows with
    | nil => intro n; rfl
    | cons a rows ih =>
      intro n
      rw [List.zipIdx_cons, List.find?_cons, List.findIdx?_cons]
      cases ha : p a with
      | true => simp
      | false =>
        simp only [ih (n + 1), Bool.false_eq_true, if_false, Option.map_map]
        congr 1
        funext i
        simp only [Function.comp_apply]
        omega
  simpa [findFirst] using hfrom rows 0

theorem accountId_extend (accounts : List OrderAccount) (orderId place : Id) (endDate : Int) :
    (accounts.modify place (extendAccount endDate)).findIdx? (activeAccount orderId) =
      accounts.findIdx? (activeAccount orderId) := by
  have hkept (account : OrderAccount) :
      activeAccount orderId (extendAccount endDate account) = activeAccount orderId account := by
    unfold extendAccount
    split_ifs <;> rfl
  have hmap : ∀ (accounts : List OrderAccount) (place : Nat),
      (accounts.modify place (extendAccount endDate)).map (activeAccount orderId) =
        accounts.map (activeAccount orderId) := by
    intro accounts
    induction accounts with
    | nil => intro place; simp
    | cons a accounts ih =>
      intro place
      cases place with
      | zero => simp [hkept]
      | succ place => simp [ih]
  have hplace := congrArg (List.findIdx? id) (hmap accounts place)
  simpa [List.findIdx?_map] using hplace

/-! ## Grants with keys -/

variable {db : Db}

/-- A grant with an idempotency key is what the key says. -/
def OrderGrant.Proper (db : Db) (grant : OrderGrant) : Prop :=
  ∀ key, grant.idempotencyKey = some key → ∃ segment, db.segments[key.segmentId]? = some segment ∧
    key.orderId = segment.orderId ∧ db.accountId segment.orderId = some grant.accountId ∧
    grant.deletedAt = none ∧ grant.grantPeriodStart = key.periodStart ∧
    grant.grantPeriodEnd = some (renewalPeriodEnd segment key.periodStart) ∧
    grantIdentity grant.toGrantInput = key.identity

/-- No two grants have one key. -/
def Sound (db : Db) (grants : List OrderGrant) : Prop :=
  (grants.filterMap (·.idempotencyKey)).Nodup ∧ ∀ grant ∈ grants, grant.Proper db

/-- A renewal that has found its segment and its account. -/
structure Renewal.Applies (db : Db) (renewal : Renewal) (segment : ExtensionSegment)
    (accountId : Id) : Prop where
  found : db.segments[renewal.segmentId]? = some segment
  account : db.accountId segment.orderId = some accountId

/-- The grant that a renewal makes for an input. -/
theorem renewedGrant_proper {renewal : Renewal} {segment : ExtensionSegment} {accountId : Id}
    (h : renewal.Applies db segment accountId) (input : GrantInput) :
    (renewedGrant segment renewal accountId input).Proper db := by
  intro key hkey
  obtain rfl := Option.some.inj hkey
  exact ⟨segment, h.found, rfl, h.account, rfl, rfl, rfl, rfl⟩

/-- What the loop of a renewal leaves: sound grants, the old ones first, and one for each input. -/
structure Granted (db : Db) (renewal : Renewal) (segment : ExtensionSegment) (inputs : List GrantInput)
    (grants grants' : List OrderGrant) : Prop where
  sound : Sound db grants'
  old : grants <+: grants'
  granted : ∀ input ∈ inputs, ∃ grant ∈ grants', grant.idempotencyKey = some
    (entitlementIdempotencyKey segment.orderId renewal.segmentId renewal.periodStart input)

theorem renewGrant_granted {renewal : Renewal} {segment : ExtensionSegment} {accountId : Id}
    (h : renewal.Applies db segment accountId) {state : List OrderGrant × Nat × Nat}
    (hsound : Sound db state.1) (input : GrantInput) :
    Granted db renewal segment [input] state.1 (renewGrant segment renewal accountId state input).1 := by
  obtain ⟨grants, created, existing⟩ := state
  simp only [renewGrant]
  split_ifs with hany
  · obtain ⟨grant, hgrant, hrenewed⟩ := List.any_eq_true.1 hany
    simp only [renewedUnder, Bool.and_eq_true, beq_iff_eq] at hrenewed
    refine ⟨hsound, List.prefix_refl grants, ?_⟩
    intro input' hinput'
    obtain rfl := List.mem_singleton.1 hinput'
    exact ⟨grant, hgrant, hrenewed.2⟩
  · refine ⟨⟨?_, ?_⟩, List.prefix_append grants _, ?_⟩
    · rw [List.filterMap_append, List.nodup_append]
      refine ⟨hsound.1, by simp [renewedGrant], ?_⟩
      intro key hkey key' hkey' heq
      subst heq
      obtain ⟨grant, hgrant, hgrantKey⟩ := List.mem_filterMap.1 hkey
      have hnew : key = entitlementIdempotencyKey segment.orderId renewal.segmentId renewal.periodStart
          input := by simpa [renewedGrant] using hkey'
      obtain ⟨segment', hsegment', -, haccount, hdeleted, -⟩ := hsound.2 grant hgrant key hgrantKey
      have hseg : some segment = some segment' := by
        rw [← h.found, ← hsegment', hnew]
        rfl
      obtain rfl := Option.some.inj hseg
      have haccountId : grant.accountId = accountId :=
        Option.some.inj (haccount.symm.trans h.account)
      refine hany (List.any_eq_true.2 ⟨grant, hgrant, ?_⟩)
      simp [renewedUnder, haccountId, hdeleted, hgrantKey, hnew]
    · intro grant hgrant
      rcases List.mem_append.1 hgrant with hold | hnew
      · exact hsound.2 grant hold
      · rw [List.mem_singleton.1 hnew]
        exact renewedGrant_proper h input
    · intro input' hinput'
      obtain rfl := List.mem_singleton.1 hinput'
      exact ⟨_, List.mem_append_right _ (List.mem_singleton_self _), rfl⟩

theorem renewGrants_granted {renewal : Renewal} {segment : ExtensionSegment} {accountId : Id}
    (h : renewal.Applies db segment accountId) (inputs : List GrantInput) :
    ∀ state : List OrderGrant × Nat × Nat, Sound db state.1 →
      Granted db renewal segment inputs state.1
        (inputs.foldl (renewGrant segment renewal accountId) state).1 := by
  induction inputs with
  | nil => exact fun state hsound => ⟨hsound, List.prefix_refl _, fun _ h => absurd h List.not_mem_nil⟩
  | cons input inputs ih =>
    intro state hsound
    have hfirst := renewGrant_granted h hsound input
    have hrest := ih _ hfirst.sound
    refine ⟨hrest.sound, hfirst.old.trans hrest.old, ?_⟩
    intro input' hinput'
    rcases List.mem_cons.1 hinput' with rfl | hmem
    · obtain ⟨grant, hgrant, hkey⟩ := hfirst.granted input' (List.mem_singleton_self _)
      exact ⟨grant, hrest.old.subset hgrant, hkey⟩
    · exact hrest.granted input' hmem

/-! ## One renewal -/

theorem renewEntitlements_ok {renewal : Renewal} {result : Db × Nat × Nat}
    (h : renewEntitlements db renewal = .ok result) :
    ∃ segment accountId, renewal.Applies db segment accountId ∧
      segment.startDate ≤ renewal.periodStart ∧ renewal.periodStart ≤ segment.endDate ∧
      result.1.segments = db.segments ∧
      (∀ orderId, result.1.accountId orderId = db.accountId orderId) ∧
      result.1.grants = ((renewal.scope segment).foldl (renewGrant segment renewal accountId)
        (db.grants, 0, 0)).1 := by
  unfold renewEntitlements at h
  split at h
  · rename_i segment hsegment
    obtain ⟨hfound, -⟩ := Option.filter_eq_some_iff.1 hsegment
    rw [require_bind] at h
    obtain ⟨hrange, h⟩ := h
    split at h
    · rename_i account accountId haccount
      rw [require_bind, require_bind] at h
      obtain ⟨-, -, h⟩ := h
      obtain rfl := Except.ok.inj h
      have hplace : db.accountId segment.orderId = some accountId := by
        rw [Db.accountId, ← findFirst_place, haccount]
        rfl
      refine ⟨segment, accountId, ⟨hfound, hplace⟩, ?_, ?_, rfl, fun orderId => ?_, rfl⟩
      · exact (of_decide_eq_true hrange).1
      · exact (of_decide_eq_true hrange).2
      · exact accountId_extend db.accounts orderId accountId segment.endDate
    · cases h
  · cases h

/-! ## Runs -/

/-- What a run keeps: the segments, the accounts, and the soundness of the grants. -/
structure Reached (db db' : Db) : Prop where
  segments : db'.segments = db.segments
  accounts : ∀ orderId, db'.accountId orderId = db.accountId orderId
  sound : Sound db' db'.grants

theorem Sound.congr {db' : Db} {grants : List OrderGrant} (hsegments : db'.segments = db.segments)
    (haccounts : ∀ orderId, db'.accountId orderId = db.accountId orderId) (h : Sound db grants) :
    Sound db' grants := by
  refine ⟨h.1, fun grant hgrant key hkey => ?_⟩
  obtain ⟨segment, hfound, horder, haccount, hrest⟩ := h.2 grant hgrant key hkey
  exact ⟨segment, by rw [hsegments, hfound], horder, by rw [haccounts, haccount], hrest⟩

/-- A renewal that succeeds keeps the grants and has one for each of its inputs. -/
theorem renewEntitlements_granted {renewal : Renewal} {result : Db × Nat × Nat}
    (hsound : Sound db db.grants) (h : renewEntitlements db renewal = .ok result) :
    Reached db result.1 ∧ ∃ segment, db.segments[renewal.segmentId]? = some segment ∧
      Granted db renewal segment (renewal.scope segment) db.grants result.1.grants := by
  obtain ⟨segment, accountId, happlies, -, -, hsegments, haccounts, hgrants⟩ := renewEntitlements_ok h
  have hgranted := renewGrants_granted happlies (renewal.scope segment) (db.grants, 0, 0) hsound
  rw [← hgrants] at hgranted
  exact ⟨⟨hsegments, haccounts, hgranted.sound.congr hsegments haccounts⟩, segment, happlies.found,
    hgranted⟩

theorem filterMap_modify (grants : List OrderGrant) (f : OrderGrant → OrderGrant)
    (hf : ∀ grant, (f grant).idempotencyKey = grant.idempotencyKey) (place : Nat) :
    (grants.modify place f).filterMap (·.idempotencyKey) = grants.filterMap (·.idempotencyKey) := by
  induction grants generalizing place with
  | nil => simp
  | cons grant grants ih =>
    cases place with
    | zero => simp [List.filterMap_cons, hf]
    | succ place => simp [List.filterMap_cons, ih]

theorem reached_step (h : Sound db db.grants) (e : Event) : Reached db (step db e) := by
  cases e with
  | renew renewal =>
    simp only [step]
    split
    · rename_i result hresult
      exact (renewEntitlements_granted h hresult).1
    · exact ⟨rfl, fun _ => rfl, h⟩
  | abort renewal => exact ⟨rfl, fun _ => rfl, h⟩
  | use grantId usedAmount remainingAmount status =>
    refine ⟨rfl, fun _ => rfl, ?_, fun grant hgrant => ?_⟩
    · have hkeys := filterMap_modify db.grants (recordUse usedAmount remainingAmount status)
        (fun _ => rfl) grantId
      rw [step, hkeys]
      exact h.1
    · obtain ⟨place, hplace⟩ := List.getElem?_of_mem hgrant
      rcases Tables.get_modify hplace with ⟨-, hold⟩ | ⟨-, old, hold, rfl⟩
      · exact h.2 grant (List.mem_of_getElem? hold)
      · exact h.2 old (List.mem_of_getElem? hold)

theorem reached_runs (h : Sound db db.grants) (evs : List Event) : Reached db (runs step db evs) := by
  refine runs_always (Reached db) (fun s e hs => ?_) ⟨rfl, fun _ => rfl, h⟩ evs
  have hstep := reached_step hs.sound e
  exact ⟨hstep.segments.trans hs.segments, fun o => (hstep.accounts o).trans (hs.accounts o),
    hstep.sound⟩

/-- A key that has its grant keeps it. -/
theorem key_runs {key : IdempotencyKey} (hkey : ∃ grant ∈ db.grants, grant.idempotencyKey = some key)
    (hsound : Sound db db.grants) (evs : List Event) :
    ∃ grant ∈ (runs step db evs).grants, grant.idempotencyKey = some key := by
  refine (runs_always (fun s => Sound s s.grants ∧
    ∃ grant ∈ s.grants, grant.idempotencyKey = some key) (fun s e hs => ?_) ⟨hsound, hkey⟩ evs).2
  obtain ⟨hs, grant, hgrant, hgrantKey⟩ := hs
  refine ⟨(reached_step hs e).sound, ?_⟩
  cases e with
  | renew renewal =>
    simp only [step]
    split
    · rename_i result hresult
      obtain ⟨-, segment, -, hgranted⟩ := renewEntitlements_granted hs hresult
      exact ⟨grant, hgranted.old.subset hgrant, hgrantKey⟩
    · exact ⟨grant, hgrant, hgrantKey⟩
  | abort renewal => exact ⟨grant, hgrant, hgrantKey⟩
  | use grantId usedAmount remainingAmount status =>
    rcases Tables.mem_modify grantId (recordUse usedAmount remainingAmount status) hgrant with h | h
    · exact ⟨grant, h, hgrantKey⟩
    · exact ⟨_, h, hgrantKey⟩

/-! ## One grant for each entitlement of a period -/

variable {segmentId : Id} {periodStart : Int} {type : EntitlementType} {unit : EntitlementUnit}

theorem mem_renewed {grant : OrderGrant} : grant ∈ db.renewed segmentId periodStart type unit ↔
    grant ∈ db.grants ∧ grant.deletedAt = none ∧
      (∃ key, grant.idempotencyKey = some key ∧ key.segmentId = segmentId) ∧
      grant.grantPeriodStart = periodStart ∧ grant.entitlementType = type ∧ grant.unit = unit := by
  simp [Db.renewed, Option.any_eq_true, and_assoc]

/-- Two grants of one entitlement in a period of a segment have one key. -/
theorem renewed_key {grant grant' : OrderGrant} (hsound : Sound db db.grants)
    (h : grant ∈ db.renewed segmentId periodStart type unit)
    (h' : grant' ∈ db.renewed segmentId periodStart type unit) :
    ∃ key, grant.idempotencyKey = some key ∧ grant'.idempotencyKey = some key := by
  obtain ⟨hmem, -, ⟨key, hkey, hsegment⟩, hstart, htype, hunit⟩ := mem_renewed.1 h
  obtain ⟨hmem', -, ⟨key', hkey', hsegment'⟩, hstart', htype', hunit'⟩ := mem_renewed.1 h'
  obtain ⟨s, hfound, horder, -, -, hperiod, -, hidentity⟩ := hsound.2 grant hmem key hkey
  obtain ⟨s', hfound', horder', -, -, hperiod', -, hidentity'⟩ := hsound.2 grant' hmem' key' hkey'
  rw [hsegment] at hfound
  rw [hsegment', hfound] at hfound'
  obtain rfl := Option.some.inj hfound'
  refine ⟨key, hkey, ?_⟩
  have heq : key' = key := by
    obtain ⟨o, s₁, p, i⟩ := key
    obtain ⟨o', s₂, p', i'⟩ := key'
    simp only [IdempotencyKey.mk.injEq]
    refine ⟨horder'.trans horder.symm, hsegment'.trans hsegment.symm, ?_, ?_⟩
    · exact (hperiod'.symm.trans hstart').trans (hstart.symm.trans hperiod)
    · have hsame : grantIdentity grant'.toGrantInput = grantIdentity grant.toGrantInput := by
        rw [grantIdentity, grantIdentity, htype, htype', hunit, hunit']
      exact (hidentity'.symm.trans hsame).trans hidentity
  rw [hkey', heq]

theorem renewed_length (hsound : Sound db db.grants) :
    (db.renewed segmentId periodStart type unit).length ≤ 1 := by
  have hnodup : ((db.renewed segmentId periodStart type unit).filterMap (·.idempotencyKey)).Nodup :=
    (List.filter_sublist.filterMap _).nodup hsound.1
  rcases hlist : db.renewed segmentId periodStart type unit with - | ⟨g, - | ⟨g', rest⟩⟩
  · simp
  · simp
  · rw [hlist] at hnodup
    have hg : g ∈ db.renewed segmentId periodStart type unit := by simp [hlist]
    have hg' : g' ∈ db.renewed segmentId periodStart type unit := by simp [hlist]
    obtain ⟨key, hkey, hkey'⟩ := renewed_key hsound hg hg'
    simp [hkey, hkey'] at hnodup

/-- A key with a grant is the only one that the entitlement has in the period. -/
theorem renewed_of_key {segment : ExtensionSegment} {input : GrantInput}
    (hsound : Sound db db.grants) (hfound : db.segments[segmentId]? = some segment)
    (hkey : ∃ grant ∈ db.grants, grant.idempotencyKey =
      some (entitlementIdempotencyKey segment.orderId segmentId periodStart input)) :
    ∃ grant, db.renewed segmentId periodStart input.entitlementType input.unit = [grant] ∧
      grant.grantPeriodEnd = some (renewalPeriodEnd segment periodStart) := by
  obtain ⟨grant, hgrant, hkey⟩ := hkey
  obtain ⟨s, hs, -, -, hdeleted, hperiod, hperiodEnd, hidentity⟩ := hsound.2 grant hgrant _ hkey
  obtain rfl := Option.some.inj (hfound.symm.trans hs)
  obtain ⟨htype, hunit⟩ := grantIdentity_injective (b := input) hidentity
  have hmem : grant ∈ db.renewed segmentId periodStart input.entitlementType input.unit :=
    mem_renewed.2 ⟨hgrant, hdeleted, ⟨_, hkey, rfl⟩, hperiod, htype, hunit⟩
  have hlength := Nat.le_antisymm (renewed_length hsound) (List.length_pos_of_mem hmem)
  obtain ⟨only, honly⟩ := List.length_eq_one_iff.1 hlength
  rw [honly, List.mem_singleton] at hmem
  exact ⟨grant, by rw [honly, hmem], hperiodEnd⟩

/-! ## Success -/

theorem findFirst_some {α : Type} {p : α → Bool} {rows : List α} {a : α} {place : Nat}
    (h : findFirst p rows = some (a, place)) : rows[place]? = some a ∧ p a = true := by
  have hmem := List.mem_of_find?_eq_some h
  have hp := List.find?_some h
  exact ⟨by simpa [List.mem_zipIdx_iff_getElem?] using hmem, hp⟩

/-- A renewal of an active segment with an active account succeeds for what the segment lists. -/
theorem renewEntitlements_succeeds {renewal : Renewal} {segment : ExtensionSegment} {input : GrantInput}
    (hfound : db.segments[renewal.segmentId]? = some segment) (hactive : segment.status = .active)
    (hstart : segment.startDate ≤ renewal.periodStart) (hend : renewal.periodStart ≤ segment.endDate)
    (haccount : (db.accountId segment.orderId).isSome) (hinput : input ∈ renewal.scope segment) :
    ∃ result, renewEntitlements db renewal = .ok result := by
  have hsegment : db.segments[renewal.segmentId]?.filter (·.status == .active) = some segment := by
    rw [Option.filter_eq_some_iff]
    exact ⟨hfound, by simp [hactive]⟩
  rw [Db.accountId, ← findFirst_place, Option.isSome_map] at haccount
  obtain ⟨⟨account, accountId⟩, hrow⟩ := Option.isSome_iff_exists.1 haccount
  obtain ⟨hplace, hp⟩ := findFirst_some hrow
  have hopen : account.accountStatus = .active := by
    simp only [activeAccount, Bool.and_eq_true, beq_iff_eq] at hp
    exact hp.1.1
  have hscope : renewal.scope segment ≠ [] := List.ne_nil_of_mem hinput
  unfold renewEntitlements
  simp only [hsegment, hrow, hplace]
  simp [Results.require, hstart, hend, hopen, hscope, bind, Except.bind]

/-! ## The periods of a segment -/

theorem periodStarts_strictMono (segment : ExtensionSegment) : StrictMono (periodStarts segment) := by
  refine strictMono_nat_of_lt_succ fun k => ?_
  have hlt : addMonths (periodStarts segment k) 0 < addMonths (periodStarts segment k) 1 :=
    addMonths_strictMono _ (by omega)
  have hday := dayOfMonth_bounds (periodStarts segment k)
  have hzero : addMonths (periodStarts segment k) 0 = periodStarts segment k := by
    rw [addMonths, add_zero, min_eq_left hday.2]
    exact (day_eq _).symm
  rw [periodStarts, addMonthsClampedUtc_eq]
  omega

theorem renewalPeriodEnd_eq (segment : ExtensionSegment) (k : Nat) :
    renewalPeriodEnd segment (periodStarts segment k) =
      min (periodStarts segment (k + 1) - 1) segment.endDate := by
  rw [renewalPeriodEnd, periodStarts, addDaysUtc_eq, Int.sub_eq_add_neg]

/-- The periods that follow each other from the start of a segment tile it. -/
theorem periods_tile (segment : ExtensionSegment) {d : Int} (hstart : segment.startDate ≤ d)
    (hend : d ≤ segment.endDate) : ∃! k, periodStarts segment k ≤ d ∧
      d ≤ renewalPeriodEnd segment (periodStarts segment k) := by
  have hbetween := Intervals.existsUnique_between (periodStarts_strictMono segment) (t := d) hstart
  have hiff (k : Nat) : (periodStarts segment k ≤ d ∧
      d ≤ renewalPeriodEnd segment (periodStarts segment k)) ↔
        periodStarts segment k ≤ d ∧ d < periodStarts segment (k + 1) := by
    rw [renewalPeriodEnd_eq]
    omega
  simpa only [hiff] using hbetween

/-- The activation asks for the first period only. -/
theorem continuationRenewals_first {segmentId : Id} {segment : ExtensionSegment} {renewal : Renewal}
    (h : renewal ∈ continuationRenewals segmentId segment) :
    renewal.segmentId = segmentId ∧ renewal.periodStart = periodStarts segment 0 := by
  unfold continuationRenewals at h
  simp only at h
  split_ifs at h
  · rw [List.mem_singleton.1 h]
    exact ⟨rfl, rfl⟩
  · obtain ⟨identity, -, rfl⟩ := List.mem_map.1 h
    exact ⟨rfl, rfl⟩

/-! ## The renewals of an order -/

/-- Six months from the third of September 2026, with a mileage of 1800 kilometres a month. -/
def sampleDb : Db where
  segments := [{
    orderId := 0
    customerId := 0
    startDate := dateUTC 2026 8 3
    endDate := dateUTC 2027 2 2
    status := .active
    planSnapshot := {
      monthlyMileageKm := some 180000
      monthlyEnergyKwh := none
      monthlyEnergyCount := none
      benefitPackage := none } }]
  accounts := [{
    orderId := 0
    accountStatus := .active
    periodStart := dateUTC 2026 2 3
    periodEnd := some (dateUTC 2026 8 2) }]
  grants := []

def sampleRenewal : Renewal := ⟨0, dateUTC 2026 8 3, some "MILEAGE:KM"⟩

end SubscriptionSaas.Change.Renewals
