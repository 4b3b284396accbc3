import Mathlib.Data.List.Dedup
import SubscriptionSaas.Mileage.Proofs.ChainProofs

/-!
# Which grant the first settlement takes

The grants of an order are those made for its first month, which follow the delivery (`Prepared`),
and later ones. `GrantsOk` keeps apart the mileage grants that begin on the day of the delivery from
those that begin after it; a settlement of the first cycle then takes the grant of the order's start
unless the two calendars disagree (`settles_by_orderStart_iff`).
-/

namespace SubscriptionSaas.Mileage

open Results Tables Runs

variable {db db' : Db} {d : Int} {accounts accounts' : List Account} {grants grants' : List Grant}

/-! ## The grants of the first month -/

/-- A grant of kilometres. -/
def GrantInput.isMileage (input : GrantInput) : Prop :=
  input.entitlementType = .mileage ∧ input.unit = .km

def Grant.isStartMileage (grant : Grant) : Prop :=
  grant.isMileage ∧ grant.grantSource = .orderStart

instance (grant : Grant) : Decidable grant.isStartMileage :=
  inferInstanceAs (Decidable ((_ ∧ _) ∧ _))

def mileageName : String := "Monthly mileage allowance"

theorem positiveGrant_mem {name : String} {type : EntitlementType} {unit : EntitlementUnit}
    {amount : Option Int} {input : GrantInput} (h : input ∈ positiveGrant name type unit amount) :
    input.entitlementName = name ∧ input.entitlementType = type ∧ input.unit = unit := by
  simp only [positiveGrant, Option.mem_toList, Option.map_eq_some_iff] at h
  obtain ⟨a, -, rfl⟩ := h
  exact ⟨rfl, rfl, rfl⟩

theorem benefitGrant_mem {benefit : BenefitPackage} {input : GrantInput}
    (h : input ∈ benefitGrant benefit) : input.entitlementType = .benefit := by
  simp only [benefitGrant] at h
  split at h
  · obtain rfl := List.mem_singleton.1 h
    rfl
  · obtain rfl := List.mem_singleton.1 h
    rfl

/-- A package grants kilometres under one name. -/
theorem buildGrantInputs_mileage {snapshot : PackageSnapshot} {input : GrantInput}
    (h : input ∈ buildGrantInputs snapshot) (hmileage : input.isMileage) :
    input.entitlementName = mileageName := by
  simp only [buildGrantInputs, List.mem_append] at h
  rcases h with ((h | h) | h) | h
  · exact (positiveGrant_mem h).1
  · have htype := (positiveGrant_mem h).2.1
    rw [hmileage.1] at htype
    cases htype
  · have htype := (positiveGrant_mem h).2.1
    rw [hmileage.1] at htype
    cases htype
  · cases hbenefit : snapshot.benefitPackage with
    | none => simp [hbenefit] at h
    | some benefit =>
      have hmem : input ∈ benefitGrant benefit := by simpa [hbenefit] using h
      have htype := benefitGrant_mem hmem
      rw [hmileage.1] at htype
      cases htype

/-- A grant that was made for the first month `p`. -/
structure Grant.ForStart (p : Int × Int) (grant : Grant) : Prop where
  accountId : grant.accountId = 0
  source : grant.grantSource = .orderStart
  live : grant.deletedAt = none
  kept : grant.status ≠ .cancelled
  periodStart : grant.grantPeriodStart = p.1
  periodEnd : grant.grantPeriodEnd = some p.2
  name : grant.isMileage → grant.entitlementName = mileageName

/-- There is at most one mileage grant of the first month. -/
def StartOnce (grants : List Grant) : Prop :=
  ∀ (i j : Nat) (g g' : Grant), grants[i]? = some g → grants[j]? = some g' → g.isStartMileage →
    g'.isStartMileage → i = j

structure StartGrants (p : Int × Int) (grants : List Grant) : Prop where
  forStart (g : Grant) : g ∈ grants → g.ForStart p
  once : StartOnce grants

/-- The first account with the grants of the first month `p`, before it is activated. -/
structure Prepared (p : Int × Int) (accounts : List Account) (grants : List Grant) : Prop where
  account : ∃ a, accounts = [a] ∧ a.accountStatus = .suspended ∧ a.deletedAt = none ∧
    a.periodStart = p.1 ∧ a.periodEnd = some p.2
  grants : StartGrants p grants

/-- A new grant keeps the one grant of kilometres alone, when it is not another one. -/
theorem StartOnce.append (h : StartOnce grants) {g : Grant}
    (hg : g.isStartMileage → ∀ g' ∈ grants, ¬g'.isStartMileage) : StartOnce (grants ++ [g]) := by
  intro i j g₁ g₂ hi hj h₁ h₂
  rcases get_append hi with hi' | ⟨hi', rfl⟩
  · rcases get_append hj with hj' | ⟨-, rfl⟩
    · exact h i j g₁ g₂ hi' hj' h₁ h₂
    · exact absurd h₁ (hg h₂ g₁ (List.mem_of_getElem? hi'))
  · rcases get_append hj with hj' | ⟨hj', -⟩
    · exact absurd h₂ (hg h₁ g₂ (List.mem_of_getElem? hj'))
    · exact hi'.trans hj'.symm

theorem ensureGrant_start {p : Int × Int} {input : GrantInput}
    (hname : input.isMileage → input.entitlementName = mileageName)
    (h : StartGrants p db.grants) : StartGrants p (ensureGrant 0 p.1 p.2 db input).grants := by
  unfold ensureGrant
  split
  · exact h
  · rename_i hany
    simp only [List.any_eq_true, not_exists, not_and] at hany
    refine ⟨fun g hg => ?_, h.once.append fun hstart g hg hg' => ?_⟩
    · rcases List.mem_append.1 hg with hg | hg
      · exact h.forStart g hg
      · obtain rfl := List.mem_singleton.1 hg
        exact ⟨rfl, rfl, rfl, nofun, rfl, rfl, hname⟩
    · have hfor := h.forStart g hg
      refine hany g hg ?_
      simp only [sameGrant, orderStartGrant, hfor.accountId, hfor.live, hfor.source,
        hfor.periodStart, hfor.name hg'.1, hname hstart.1, hg'.1.1, hg'.1.2]
      have hunit : input.unit = .km := hstart.1.2
      have htype : input.entitlementType = .mileage := hstart.1.1
      simp [hunit, htype]

theorem ensureGrants_start {p : Int × Int} {inputs : List GrantInput}
    (hnames : ∀ input ∈ inputs, input.isMileage → input.entitlementName = mileageName)
    (h : StartGrants p db.grants) :
    StartGrants p (inputs.foldl (ensureGrant 0 p.1 p.2) db).grants := by
  induction inputs generalizing db with
  | nil => exact h
  | cons input inputs ih =>
    refine ih (fun i hi => hnames i (List.mem_cons_of_mem _ hi)) ?_
    exact ensureGrant_start (hnames input List.mem_cons_self) h

theorem ensureGrants_accounts {accountId : Nat} {periodStart periodEnd : Int}
    {inputs : List GrantInput} :
    (inputs.foldl (ensureGrant accountId periodStart periodEnd) db).accounts = db.accounts := by
  induction inputs generalizing db with
  | nil => rfl
  | cons input inputs ih =>
    rw [List.foldl_cons, ih]
    unfold ensureGrant
    split <;> rfl

/-- The rows before the entitlements of the order are made sure of. -/
def Ensurable (db : Db) : Prop :=
  (db.accounts = [] ∧ db.grants = []) ∨
    (db.order.actualDeliveryAt.isSome = true ∧ ∃ p, Prepared p db.accounts db.grants)

theorem ensureAccount_start (h : Ensurable db) (p : Int × Int) :
    (ensureAccount db p.1 p.2).1 = 0 ∧
      Prepared p (ensureAccount db p.1 p.2).2.accounts (ensureAccount db p.1 p.2).2.grants := by
  rcases h with ⟨haccounts, hgrants⟩ | ⟨hd, q, ⟨a, haccounts, hstatus, hlive, hstart, hend⟩, hq⟩
  · have hfind : findLast liveAccount db.accounts = none := by rw [haccounts]; rfl
    rw [ensureAccount, hfind]
    simp only [haccounts, hgrants]
    refine ⟨rfl, ⟨_, rfl, rfl, rfl, rfl, rfl⟩, fun g hg => ?_, ?_⟩
    · cases hg
    · intro i j g g' hi
      simp at hi
  · have hfind : findLast liveAccount db.accounts = some (a, 0) := by
      rw [haccounts]
      simp [findLast, liveAccount, hlive]
    rw [ensureAccount, hfind]
    simp only [hd, hstatus, beq_self_eq_true, Bool.true_and]
    split
    · refine ⟨rfl, ⟨{ a with periodStart := p.1, periodEnd := some p.2 }, ?_, hstatus, hlive, rfl,
        rfl⟩, ?_, ?_⟩
      · simp only [haccounts]
        rfl
      · intro g hg
        obtain ⟨g₀, hg₀, rfl⟩ := List.mem_map.1 hg
        have hfor := hq.forStart g₀ hg₀
        have hmatch : orderStartGrant 0 g₀ = true := by
          simp [orderStartGrant, hfor.accountId, hfor.live, hfor.source]
        rw [if_pos hmatch]
        exact ⟨hfor.accountId, hfor.source, hfor.live, hfor.kept, rfl, rfl, hfor.name⟩
      · intro i j g g' hi hj hg hg'
        simp only [List.getElem?_map, Option.map_eq_some_iff] at hi hj
        obtain ⟨g₁, hi, rfl⟩ := hi
        obtain ⟨g₂, hj, rfl⟩ := hj
        refine hq.once i j g₁ g₂ hi hj ?_ ?_
        · split at hg <;> exact hg
        · split at hg' <;> exact hg'
    · rename_i hsame
      simp only [Bool.or_eq_true, bne_iff_ne, not_or, not_not] at hsame
      have hp : q = p := Prod.ext (hstart.symm.trans hsame.1)
        (Option.some.inj (hend.symm.trans hsame.2))
      subst hp
      exact ⟨rfl, ⟨a, haccounts, hstatus, hlive, hstart, hend⟩, hq⟩

/-- The entitlements of the first month, counted from the start of the order. -/
theorem ensureInitialEntitlements_prepared (h : Ensurable db)
    (hok : ensureInitialEntitlements db = .ok db') :
    Prepared (orderStartPeriod (orderStartAt db.order)) db'.accounts db'.grants := by
  simp only [ensureInitialEntitlements, require_bind, found_bind] at hok
  obtain ⟨-, snapshot, -, -, hok⟩ := hok
  obtain rfl := Except.ok.inj hok
  obtain ⟨hid, hprepared⟩ := ensureAccount_start h (orderStartPeriod (orderStartAt db.order))
  rw [hid]
  refine ⟨?_, ensureGrants_start (fun _ => buildGrantInputs_mileage) hprepared.grants⟩
  rw [ensureGrants_accounts]
  exact hprepared.account

/-! ## The grants of a delivered order -/

/-- The grants of an order that was delivered at `d`. -/
structure GrantsOk (d : Int) (accounts : List Account) (grants : List Grant) : Prop where
  live (g : Grant) : g ∈ grants → g.deletedAt = none
  start (g : Grant) : g ∈ grants → g.isStartMileage → g.status ≠ .cancelled ∧
    g.grantPeriodStart = (orderStartPeriod d).1 ∧ g.grantPeriodEnd = some (orderStartPeriod d).2
  once : StartOnce grants
  /-- Other grants begin later, or took the place of one that was missing. -/
  other (g : Grant) : g ∈ grants → g.isMileage → g.grantSource ≠ .orderStart →
    toBusinessDate d < g.grantPeriodStart ∨ LateOnShortMonthEnd d ∨
      ∀ g' ∈ grants, ¬g'.isStartMileage
  account : (∀ a ∈ accounts, activeAccount a = false) → accounts = [] ∧ grants = []

/-- What may happen to a grant: one is cancelled only when it begins after the delivery. -/
structure Grant.Moved (d : Int) (g g' : Grant) : Prop where
  input : g'.entitlementType = g.entitlementType ∧ g'.unit = g.unit
  source : g'.grantSource = g.grantSource
  periodStart : g'.grantPeriodStart = g.grantPeriodStart
  periodEnd : g'.grantPeriodEnd = g.grantPeriodEnd
  deletedAt : g'.deletedAt = g.deletedAt
  cancelled : g'.status = .cancelled → g.status = .cancelled ∨ toBusinessDate d < g.grantPeriodStart

theorem Grant.Moved.refl (d : Int) (g : Grant) : g.Moved d g :=
  ⟨⟨rfl, rfl⟩, rfl, rfl, rfl, rfl, .inl⟩

theorem Grant.Moved.isMileage {g g' : Grant} (h : g.Moved d g') :
    g'.isMileage ↔ g.isMileage := by
  rw [GrantInput.isMileage, GrantInput.isMileage, h.input.1, h.input.2]

theorem Grant.Moved.isStartMileage {g g' : Grant} (h : g.Moved d g') :
    g'.isStartMileage ↔ g.isStartMileage := by
  rw [Grant.isStartMileage, Grant.isStartMileage, h.isMileage, h.source]

theorem get_of_forall₂ {α : Type} {R : α → α → Prop} {l l' : List α} (h : List.Forall₂ R l l')
    {i : Nat} {a' : α} (hi : l'[i]? = some a') : ∃ a, l[i]? = some a ∧ R a a' := by
  induction h generalizing i with
  | nil => simp at hi
  | @cons a b l₁ l₂ hab _ ih =>
    cases i with
    | zero =>
      obtain rfl : b = a' := by simpa using hi
      exact ⟨a, rfl, hab⟩
    | succ i => exact ih (by simpa using hi)

theorem GrantsOk.moved (h : GrantsOk d accounts grants)
    (hmoved : List.Forall₂ (Grant.Moved d) grants grants') : GrantsOk d accounts grants' where
  live g' hg' := by
    obtain ⟨g, hg, hm⟩ := exists_of_forall₂ hmoved g' hg'
    exact hm.deletedAt.trans (h.live g hg)
  start g' hg' hstart := by
    obtain ⟨g, hg, hm⟩ := exists_of_forall₂ hmoved g' hg'
    obtain ⟨hkept, hs, he⟩ := h.start g hg (hm.isStartMileage.1 hstart)
    refine ⟨fun hcancelled => ?_, hm.periodStart.trans hs, hm.periodEnd.trans he⟩
    rcases hm.cancelled hcancelled with hc | hlt
    · exact hkept hc
    · rw [hs, orderStartPeriod_eq] at hlt
      exact lt_irrefl _ hlt
  once i j g₁ g₂ hi hj h₁ h₂ := by
    obtain ⟨g₁', hi', hm₁⟩ := get_of_forall₂ hmoved hi
    obtain ⟨g₂', hj', hm₂⟩ := get_of_forall₂ hmoved hj
    exact h.once i j g₁' g₂' hi' hj' (hm₁.isStartMileage.1 h₁) (hm₂.isStartMileage.1 h₂)
  other g' hg' hmileage hsource := by
    obtain ⟨g, hg, hm⟩ := exists_of_forall₂ hmoved g' hg'
    rw [hm.source] at hsource
    rw [hm.periodStart]
    refine (h.other g hg (hm.isMileage.1 hmileage) hsource).imp_right fun hother =>
      hother.imp_right fun hnone g₂' hg₂' hstart => ?_
    obtain ⟨g₂, hg₂, hm₂⟩ := exists_of_forall₂ hmoved g₂' hg₂'
    exact hnone g₂ hg₂ (hm₂.isStartMileage.1 hstart)
  account hnone := by
    obtain ⟨haccounts, hgrants⟩ := h.account hnone
    subst hgrants
    exact ⟨haccounts, List.forall₂_nil_left_iff.1 hmoved⟩

/-- A grant is added that is not for the first month of the order. -/
theorem GrantsOk.append (h : GrantsOk d accounts grants) {g : Grant} (hlive : g.deletedAt = none)
    (hsource : g.grantSource ≠ .orderStart)
    (hother : g.isMileage → toBusinessDate d < g.grantPeriodStart ∨ LateOnShortMonthEnd d ∨
      ∀ g' ∈ grants, ¬g'.isStartMileage)
    (hactive : ∃ a ∈ accounts', activeAccount a = true) : GrantsOk d accounts' (grants ++ [g]) where
  live g' hg' := by
    rcases List.mem_append.1 hg' with hg' | hg'
    · exact h.live g' hg'
    · rw [List.mem_singleton.1 hg', hlive]
  start g' hg' hstart := by
    rcases List.mem_append.1 hg' with hg' | hg'
    · exact h.start g' hg' hstart
    · obtain rfl := List.mem_singleton.1 hg'
      exact absurd hstart.2 hsource
  once := h.once.append fun hstart => absurd hstart.2 hsource
  other g' hg' hmileage hsource' := by
    have hnone : (∀ g' ∈ grants, ¬g'.isStartMileage) → ∀ g' ∈ grants ++ [g], ¬g'.isStartMileage := by
      intro hnone g₂ hg₂ hstart
      rcases List.mem_append.1 hg₂ with hg₂ | hg₂
      · exact hnone g₂ hg₂ hstart
      · obtain rfl := List.mem_singleton.1 hg₂
        exact hsource hstart.2
    rcases List.mem_append.1 hg' with hg' | hg'
    · exact (h.other g' hg' hmileage hsource').imp_right fun h => h.imp_right hnone
    · obtain rfl := List.mem_singleton.1 hg'
      exact (hother hmileage).imp_right fun h => h.imp_right hnone
  account hnone := by
    obtain ⟨a, ha, hact⟩ := hactive
    rw [hnone a ha] at hact
    cases hact

theorem GrantsOk.appendLater (h : GrantsOk d accounts grants)
    (hactive : ∃ a ∈ accounts, activeAccount a = true) {later : List Grant}
    (hlater : ∀ g ∈ later, g.deletedAt = none ∧ g.grantSource ≠ .orderStart ∧
      toBusinessDate d < g.grantPeriodStart) : GrantsOk d accounts (grants ++ later) := by
  induction later generalizing grants with
  | nil => rwa [List.append_nil]
  | cons g later ih =>
    obtain ⟨hlive, hsource, hstart⟩ := hlater g List.mem_cons_self
    rw [List.append_cons]
    exact ih (h.append hlive hsource (fun _ => .inl hstart) hactive)
      fun g' hg' => hlater g' (List.mem_cons_of_mem _ hg')

/-- The accounts of an order may change while one of them stays active. -/
theorem GrantsOk.activated {p : Int × Int} (hp : p = orderStartPeriod d)
    (h : Prepared p accounts grants) (hactive : ∃ a ∈ accounts', activeAccount a = true) :
    GrantsOk d accounts' grants where
  live g hg := (h.grants.forStart g hg).live
  start g hg _ := by
    have hfor := h.grants.forStart g hg
    subst hp
    exact ⟨hfor.kept, hfor.periodStart, hfor.periodEnd⟩
  once := h.grants.once
  other g hg _ hsource := absurd (h.grants.forStart g hg).source hsource
  account hnone := by
    obtain ⟨a, ha, hact⟩ := hactive
    rw [hnone a ha] at hact
    cases hact

/-! ## Calls -/

theorem forall₂_moved_map {f : Grant → Grant} (hf : ∀ g ∈ grants, g.Moved d (f g)) :
    List.Forall₂ (Grant.Moved d) grants (grants.map f) := by
  rw [List.forall₂_map_right_iff]
  exact List.forall₂_same.2 hf

theorem forall₂_moved_modify {f : Grant → Grant} (i : Nat)
    (hf : ∀ g : Grant, g.Moved d (f g)) :
    List.Forall₂ (Grant.Moved d) grants (grants.modify i f) := by
  rw [List.forall₂_iff_get]
  refine ⟨by simp, fun j hj hj' => ?_⟩
  simp only [List.get_eq_getElem, List.getElem_modify]
  split
  · exact hf _
  · exact .refl d _

/-- Some account is active. -/
theorem GrantsOk.exists_active (h : GrantsOk d accounts grants) {a : Account} (ha : a ∈ accounts) :
    ∃ a ∈ accounts, activeAccount a = true := by
  by_contra hnone
  have hall : ∀ a ∈ accounts, activeAccount a = false := by
    intro a ha
    by_contra hact
    exact hnone ⟨a, ha, by simpa using hact⟩
  rw [(h.account hall).1] at ha
  cases ha

theorem expireEntitlements_grantsOk (h : GrantsOk d db.accounts db.grants) (asOfDate : Int) :
    GrantsOk d (expireEntitlements db asOfDate).accounts (expireEntitlements db asOfDate).grants := by
  refine h.moved (forall₂_moved_map fun g _ => ?_)
  split
  · exact ⟨⟨rfl, rfl⟩, rfl, rfl, rfl, rfl, nofun⟩
  · exact .refl d g

theorem consumeOrderEntitlement_grantsOk (h : GrantsOk d db.accounts db.grants)
    {input : ConsumeEntitlement} (hok : consumeOrderEntitlement db input = .ok db') :
    GrantsOk d db'.accounts db'.grants := by
  simp only [consumeOrderEntitlement, require_bind] at hok
  obtain ⟨-, -, hok⟩ := hok
  split at hok
  · obtain rfl := Except.ok.inj hok
    exact h
  · simp only [found_bind, require_bind] at hok
    obtain ⟨account, -, -, grant, -, -, -, periodEnd, -, -, remaining, -, -, hok⟩ := hok
    obtain rfl := Except.ok.inj hok
    refine h.moved (forall₂_moved_modify input.grantId fun g => ?_)
    refine ⟨⟨rfl, rfl⟩, rfl, rfl, rfl, rfl, fun hcancelled => ?_⟩
    simp only at hcancelled
    split at hcancelled <;> cases hcancelled

theorem ensureRenewalGrants_grantsOk (h : GrantsOk d db.accounts db.grants)
    (hactive : ∃ a ∈ db.accounts, activeAccount a = true) {accountId : Nat} {period : Int × Int}
    (hperiod : toBusinessDate d < period.1) (inputs : List GrantInput) :
    GrantsOk d (inputs.foldl (ensureRenewalGrant accountId period) db).accounts
      (inputs.foldl (ensureRenewalGrant accountId period) db).grants := by
  induction inputs generalizing db with
  | nil => exact h
  | cons input inputs ih =>
    rw [List.foldl_cons, ensureRenewalGrant]
    split
    · exact ih h hactive
    · exact ih (h.append rfl nofun (fun _ => .inl hperiod) hactive) hactive

theorem createMonthlyRenewalGrants_grantsOk (hd : db.order.actualDeliveryAt = some d)
    (h : GrantsOk d db.accounts db.grants) {asOfDate : Int} {inputs : List GrantInput}
    (hok : createMonthlyRenewalGrants db asOfDate inputs = .ok db') :
    GrantsOk d db'.accounts db'.grants := by
  rw [createMonthlyRenewalGrants] at hok
  obtain ⟨-, -, hok⟩ := bind_ok hok
  simp only [found_bind, require_bind] at hok
  obtain ⟨d', hd', ⟨account, accountId⟩, haccount, latest, -, -, hok⟩ := hok
  obtain rfl : d = d' := Option.some.inj (hd.symm.trans hd')
  obtain ⟨hrow, hact⟩ := findLast_some haccount
  split at hok
  · obtain rfl := Except.ok.inj hok
    exact h
  · obtain rfl := Except.ok.inj hok
    exact ensureRenewalGrants_grantsOk h ⟨account, List.mem_of_getElem? hrow, hact⟩
      (laterMonth_start d (by omega)) inputs

theorem generateOrderEntitlements_grantsOk (hd : db.order.actualDeliveryAt = some d)
    (h : GrantsOk d db.accounts db.grants) (hok : generateOrderEntitlements db = .ok db') :
    GrantsOk d db'.accounts db'.grants := by
  rw [generateOrderEntitlements] at hok
  obtain ⟨-, -, hok⟩ := bind_ok hok
  split at hok
  · obtain rfl := Except.ok.inj hok
    exact h
  · rename_i hnone
    obtain ⟨db₁, hensure, hok⟩ := bind_ok hok
    have hprepared := ensureInitialEntitlements_prepared (.inl (h.account (findLast_none hnone)))
      hensure
    rw [orderStartAt, hd] at hprepared
    obtain ⟨a, haccounts, -, hlive, -⟩ := hprepared.account
    have hfind : findLast liveAccount db₁.accounts = some (a, 0) := by
      rw [haccounts]
      simp [findLast, liveAccount, hlive]
    rw [hfind] at hok
    obtain rfl := Except.ok.inj hok
    refine .activated rfl hprepared ⟨{ a with accountStatus := .active }, ?_, ?_⟩
    · simp only [haccounts]
      exact List.mem_singleton_self _
    · simp [activeAccount, hlive]

/-- A swap replaces grants of months that begin after the delivery. -/
theorem replacePeriods_grantsOk (h : GrantsOk d db.accounts db.grants)
    (hactive : ∃ a ∈ db.accounts, activeAccount a = true) {accountId : Nat} {effectiveDate : Int}
    {targetGrants : List GrantInput} {starts : List Int}
    (hstarts : ∀ start ∈ starts, toBusinessDate d < start) :
    GrantsOk d (starts.foldl (replacePeriod accountId effectiveDate targetGrants) db).accounts
      (starts.foldl (replacePeriod accountId effectiveDate targetGrants) db).grants := by
  induction starts generalizing db with
  | nil => exact h
  | cons start starts ih =>
    have hstart := hstarts start List.mem_cons_self
    have hrest := fun s hs => hstarts s (List.mem_cons_of_mem _ hs)
    rw [List.foldl_cons]
    simp only [replacePeriod]
    split
    · exact ih h hactive hrest
    · refine ih (GrantsOk.appendLater (h.moved (forall₂_moved_map fun g _ => ?_)) hactive ?_)
        hactive hrest
      · split
        · rename_i hperiod
          simp only [Bool.and_eq_true, beq_iff_eq] at hperiod
          exact ⟨⟨rfl, rfl⟩, rfl, rfl, rfl, rfl, fun _ => .inr (hperiod.2 ▸ hstart)⟩
        · exact .refl d g
      · intro g hg
        obtain ⟨input, -, rfl⟩ := List.mem_map.1 hg
        exact ⟨rfl, EntitlementGrantSource.noConfusion, hstart⟩

theorem activateVehicleSwap_grantsOk (hd : db.order.actualDeliveryAt = some d)
    (h : GrantsOk d db.accounts db.grants) {source : Int × Int} {effectiveDate : Int}
    {targetGrants : List GrantInput}
    (hok : activateVehicleSwap db source effectiveDate targetGrants = .ok db') :
    GrantsOk d db'.accounts db'.grants := by
  rw [activateVehicleSwap] at hok
  split at hok
  · obtain rfl := Except.ok.inj hok
    exact h
  · rename_i hwaits
    simp only [hd, Option.any_some, Bool.or_eq_true, decide_eq_true_eq, Bool.not_eq_true',
      decide_eq_false_iff_not, not_or, not_le] at hwaits
    simp only [replaceFutureGrantsForVehicleSwap, found_bind, require_bind] at hok
    obtain ⟨⟨account, accountId⟩, haccount, -, hok⟩ := hok
    obtain rfl := Except.ok.inj hok
    have hmem := List.mem_of_getElem? (findLast_some haccount).1
    refine replacePeriods_grantsOk h (h.exists_active hmem) fun start hstart => ?_
    obtain ⟨g, hg, rfl⟩ := List.mem_map.1 (List.mem_dedup.1 ((List.mem_insertionSort _).1 hstart))
    have hfuture := (List.mem_filter.1 hg).2
    simp only [futureGrant, Bool.and_eq_true, decide_eq_true_eq] at hfuture
    have hday := toBusinessDate_le d
    omega

/-- The grant of the order's start covers what the settlement of the first cycle looks up. -/
theorem GrantsOk.covers_iff (h : GrantsOk d accounts grants) {g : Grant} (hg : g ∈ grants)
    (hstart : g.isStartMileage) : coversPeriod (reviewEntitlementPeriod
      (addShanghaiMonthsClamped d 0) (addShanghaiMonthsClamped d 1)) g = true ↔
        ¬LateOnShortMonthEnd d := by
  obtain ⟨hkept, hs, he⟩ := h.start g hg hstart
  obtain ⟨hfirst, hlast⟩ := orderStart_covers_iff d
  rw [← hlast]
  simp only [coversPeriod, h.live g hg, hs, he, hfirst, hstart.1.1, hstart.1.2, Option.any_some,
    Option.isNone_none, beq_self_eq_true, le_refl, decide_true, Bool.true_and, Bool.and_true,
    Bool.and_eq_true, decide_eq_true_eq, bne_iff_ne]
  exact ⟨fun h => h.1, fun h => ⟨h, hkept⟩⟩

/-- A settlement consumes the grant that it takes, and makes one only when none covers its period. -/
theorem settled_grantsOk (h : GrantsOk d db.accounts db.grants)
    (hd : ∀ r ∈ db.reviews, r.OfCycle d) {reviewId : Nat} (hsettled : SettledReview db db' reviewId) :
    GrantsOk d db'.accounts db'.grants := by
  obtain ⟨r, settled, submitted, next, hrow, -, -, -, -, ⟨db₁, hconsumed, haccounts, hgrants⟩, -⟩ :=
    hsettled.row
  obtain ⟨grant, db₂, status, used, hfind, hstatus, haccounts', hgrants'⟩ := hconsumed.grants
  have hof := hd r (List.mem_of_getElem? hrow)
  have hok : GrantsOk d db₂.accounts db₂.grants := by
    rcases findOrCreateMileageGrant_cases db r hfind with ⟨rfl, -⟩ |
      ⟨hnone, -, hnew, -, ⟨accountId, rfl⟩, -, hactive⟩
    · exact h
    · rw [hnew]
      refine h.append rfl nofun (fun _ => ?_) hactive
      rw [hof.periodStart, hof.scheduledReviewAt] at hnone ⊢
      by_cases hcycle : r.cycleNo = 1
      · right
        by_contra hcontra
        simp only [not_or, not_forall, not_not] at hcontra
        obtain ⟨hlate, g, hg, hstart⟩ := hcontra
        have hcovers := findLast_none hnone g hg
        rw [hcycle, Int.sub_self, (h.covers_iff hg hstart).2 hlate] at hcovers
        cases hcovers
      · left
        have hpos := hof.positive
        rw [backfilledGrant, grantOf, reviewEntitlementPeriod_eq]
        exact laterCycle_start d (by omega)
  rw [haccounts, haccounts', hgrants, hgrants']
  exact hok.moved (forall₂_moved_modify _ fun g =>
    ⟨⟨rfl, rfl⟩, rfl, rfl, rfl, rfl, fun hc => absurd hc hstatus⟩)

theorem voided_grantsOk (h : GrantsOk d db.accounts db.grants) {reviewId : Nat}
    (hvoided : VoidedReview db db' reviewId) : GrantsOk d db'.accounts db'.grants := by
  obtain ⟨r, voidedAt, -, -, -, -, ⟨haccounts, grantId, remaining, used, hgrants⟩, -⟩ :=
    hvoided.row
  rw [haccounts, hgrants]
  exact h.moved (forall₂_moved_modify _ fun g => ⟨⟨rfl, rfl⟩, rfl, rfl, rfl, rfl, nofun⟩)

/-! ### Calls that only concern reviews -/

/-- The accounts, the grants and the order, but for its status and its term, stay as they are. -/
structure Db.SameGrants (db db' : Db) : Prop where
  journey : db'.order.journey = db.order.journey
  actualDeliveryAt : db'.order.actualDeliveryAt = db.order.actualDeliveryAt
  accounts : db'.accounts = db.accounts
  grants : db'.grants = db.grants

theorem Db.Aside.sameGrants (h : db.Aside db') : db.SameGrants db' :=
  ⟨congrArg Order.journey h.order, congrArg Order.actualDeliveryAt h.order, h.accounts, h.grants⟩

theorem updateReview_sameGrants {reviewId : Nat} {lockVersion : Int} {portal : Bool}
    {expected : ReviewStatus → Bool} {data : Review → Review}
    (h : updateReview db reviewId lockVersion portal expected data = .ok db') :
    db.SameGrants db' := by
  simp only [updateReview, found_bind, require_bind] at h
  obtain ⟨review, -, -, h⟩ := h
  obtain rfl := Except.ok.inj h
  exact ⟨rfl, rfl, rfl, rfl⟩

theorem saveDraft_sameGrants {dto : Draft} (h : saveDraft db dto = .ok db') :
    db.SameGrants db' := by
  rw [saveDraft] at h
  obtain ⟨review, -, h⟩ := bind_ok h
  obtain ⟨-, -, h⟩ := bind_ok h
  obtain ⟨-, -, h⟩ := bind_ok h
  obtain ⟨-, -, h⟩ := bind_ok h
  exact updateReview_sameGrants h

theorem changeEvidence_sameGrants {reviewId : Nat} {lockVersion : Int} {portal : Bool}
    {change : EvidenceChange} (h : changeEvidence db reviewId lockVersion portal change = .ok db') :
    db.SameGrants db' := by
  rw [changeEvidence] at h
  obtain ⟨review, -, h⟩ := bind_ok h
  obtain ⟨-, -, h⟩ := bind_ok h
  cases change with
  | attach mimeType =>
    obtain ⟨-, -, h⟩ := bind_ok h
    exact updateReview_sameGrants h
  | remove evidenceId deletedAt =>
    obtain ⟨-, -, h⟩ := bind_ok h
    exact updateReview_sameGrants h

theorem submitReview_sameGrants {reviewId : Nat} {lockVersion : Int} {portal readable : Bool}
    (h : submitReview db reviewId lockVersion portal readable = .ok db') : db.SameGrants db' := by
  rw [submitReview] at h
  obtain ⟨review, -, h⟩ := bind_ok h
  obtain ⟨-, -, h⟩ := bind_ok h
  obtain ⟨-, -, h⟩ := bind_ok h
  obtain ⟨-, -, h⟩ := bind_ok h
  exact updateReview_sameGrants h

theorem returnReview_sameGrants {reviewId : Nat} {lockVersion : Int} {reason : String}
    (h : returnReview db reviewId lockVersion reason = .ok db') : db.SameGrants db' := by
  rw [returnReview] at h
  obtain ⟨-, -, h⟩ := bind_ok h
  exact updateReview_sameGrants h

theorem appendReading_sameGrants {input : AppendReading}
    (h : db.call (.appendReading input) = .ok db') : db.SameGrants db' := by
  rw [Db.call] at h
  cases hreading : appendConfirmedReading db input with
  | error failure =>
    rw [hreading] at h
    cases h
  | ok row =>
    rw [hreading] at h
    obtain rfl := Except.ok.inj h
    exact (appendConfirmedReading_aside hreading).sameGrants

theorem GrantsOk.same (h : GrantsOk d db.accounts db.grants) (hsame : db.SameGrants db') :
    GrantsOk d db'.accounts db'.grants := by
  rw [hsame.accounts, hsame.grants]
  exact h

/-! ## Runs -/

/-- What one call preserves after the delivery. -/
theorem call_grantsOk (hd : db.order.actualDeliveryAt = some d)
    (h : GrantsOk d db.accounts db.grants) (hof : ∀ r ∈ db.reviews, r.OfCycle d) {call : Call}
    (hok : db.call call = .ok db') : GrantsOk d db'.accounts db'.grants := by
  cases call with
  | prepareOrder =>
    rw [Db.call, prepareOrder] at hok
    have hcheck := (require_bind.1 hok).1
    simp [hd] at hcheck
  | confirmDeliveryLegacy input =>
    have hnone := (confirmDeliveryLegacy_ok hok).1.undelivered
    rw [hd] at hnone
    cases hnone
  | activateFromAuthoritativeHandover input =>
    have hnone := (activateFromAuthoritativeHandover_ok hok).1.undelivered
    rw [hd] at hnone
    cases hnone
  | generateOrderEntitlements => exact generateOrderEntitlements_grantsOk hd h hok
  | createMonthlyRenewalGrants asOfDate inputs =>
    exact createMonthlyRenewalGrants_grantsOk hd h hok
  | expireEntitlements asOfDate =>
    obtain rfl := Except.ok.inj hok
    exact expireEntitlements_grantsOk h asOfDate
  | consumeOrderEntitlement input => exact consumeOrderEntitlement_grantsOk h hok
  | activateVehicleSwap source effectiveDate targetGrants =>
    exact activateVehicleSwap_grantsOk hd h hok
  | activateDueReviews asOf =>
    obtain rfl := Except.ok.inj hok
    exact h
  | saveDraft dto => exact h.same (saveDraft_sameGrants hok)
  | changeEvidence reviewId lockVersion portal change =>
    exact h.same (changeEvidence_sameGrants hok)
  | submitReview reviewId lockVersion portal readable => exact h.same (submitReview_sameGrants hok)
  | returnReview reviewId lockVersion reason => exact h.same (returnReview_sameGrants hok)
  | settleReview input =>
    rcases settleReview_ok hok with ⟨rfl, -⟩ | ⟨-, hsettled⟩
    · exact h
    · exact settled_grantsOk h hof hsettled
  | voidAndReopenReview input => exact voided_grantsOk h (voidAndReopenReview_ok hok).2
  | setOrderStatus status =>
    obtain rfl := Except.ok.inj hok
    exact h
  | setPeriodMonths months =>
    obtain rfl := Except.ok.inj hok
    exact h
  | setBill billId bill =>
    obtain rfl := Except.ok.inj hok
    exact h
  | appendReading input => exact h.same (appendReading_sameGrants hok)

/-- Before the delivery the entitlements are those that a journey has prepared, if any. -/
def Undelivered (db : Db) : Prop :=
  db.reviews = [] ∧ ((db.accounts = [] ∧ db.grants = []) ∨
    (db.order.journey = true ∧ ∃ p, Prepared p db.accounts db.grants))

theorem Prepared.expire {p : Int × Int} (h : Prepared p db.accounts db.grants) (asOfDate : Int) :
    Prepared p (expireEntitlements db asOfDate).accounts (expireEntitlements db asOfDate).grants := by
  refine ⟨h.account, fun g hg => ?_, fun i j g g' hi hj hg hg' => ?_⟩
  · obtain ⟨g₀, hg₀, rfl⟩ := List.mem_map.1 hg
    have hfor := h.grants.forStart g₀ hg₀
    split
    · exact ⟨hfor.accountId, hfor.source, hfor.live, nofun, hfor.periodStart, hfor.periodEnd,
        hfor.name⟩
    · exact hfor
  · simp only [expireEntitlements, List.getElem?_map, Option.map_eq_some_iff] at hi hj
    obtain ⟨g₁, hi, rfl⟩ := hi
    obtain ⟨g₂, hj, rfl⟩ := hj
    refine h.grants.once i j g₁ g₂ hi hj ?_ ?_
    · split at hg <;> exact hg
    · split at hg' <;> exact hg'

/-- Entitlements are not consumed before the delivery: no account is active. -/
theorem Undelivered.not_consumed (h : Undelivered db) {input : ConsumeEntitlement}
    (hok : consumeOrderEntitlement db input = .ok db') : db' = db := by
  simp only [consumeOrderEntitlement, require_bind] at hok
  obtain ⟨-, -, hok⟩ := hok
  split at hok
  · exact (Except.ok.inj hok).symm
  · simp only [found_bind, require_bind] at hok
    obtain ⟨⟨account, accountId⟩, haccount, hactive, -⟩ := hok
    have hmem : account ∈ db.accounts := by
      cases hfind : findLast activeAccount db.accounts with
      | some row =>
        rw [hfind] at haccount
        obtain rfl := Option.some.inj haccount
        exact List.mem_of_getElem? (findLast_some hfind).1
      | none =>
        rw [hfind] at haccount
        exact List.mem_of_getElem? (findLast_some haccount).1
    rcases h.2 with ⟨hnil, -⟩ | ⟨-, p, ⟨a, ha, hsuspended, -⟩, -⟩
    · rw [hnil] at hmem
      cases hmem
    · rw [ha, List.mem_singleton] at hmem
      rw [hmem, hsuspended] at hactive
      cases hactive

/-- What is kept of the grants from the creation of an order on. -/
def GrantsAgree (db : Db) : Prop :=
  (db.order.actualDeliveryAt = none → Undelivered db) ∧
    ∀ d, db.order.actualDeliveryAt = some d → GrantsOk d db.accounts db.grants ∧
      ∃ baseline, ReviewsOk d baseline db

theorem Undelivered.grantsAgree (h : Undelivered db) (hd : db.order.actualDeliveryAt = none) :
    GrantsAgree db :=
  ⟨fun _ => h, fun d hd' => by rw [hd] at hd'; cases hd'⟩

theorem delivered_grantsAgree {input : Delivery} (hnil : db.reviews = [])
    (hdelivered : Delivered db db' input)
    (hgrants : GrantsOk input.deliveredAt db'.accounts db'.grants) : GrantsAgree db' := by
  refine ⟨fun hnone => ?_, fun d hd => ?_⟩
  · rw [hdelivered.actualDeliveryAt] at hnone
    cases hnone
  · obtain rfl := Option.some.inj (hdelivered.actualDeliveryAt.symm.trans hd)
    exact ⟨hgrants, input.handoverMileageKm, hdelivered.reviewsOk hnil⟩

theorem exists_active_of_activate {p : Int × Int} (h : Prepared p db.accounts db.grants) :
    ∃ a ∈ (activateAccounts db).accounts, activeAccount a = true := by
  obtain ⟨a, haccounts, -, hlive, -⟩ := h.account
  refine ⟨{ a with accountStatus := .active }, ?_, by simp [activeAccount, hlive]⟩
  simp [activateAccounts, haccounts, liveAccount, hlive]

theorem Undelivered.same (h : Undelivered db) (hd : db.order.actualDeliveryAt = none)
    (hsame : db.SameGrants db') {call : Call} (hok : db.call call = .ok db') : GrantsAgree db' := by
  have hd' := hsame.actualDeliveryAt.trans hd
  refine Undelivered.grantsAgree ⟨undelivered_call (fun _ => h.1) hok hd', ?_⟩ hd'
  rw [hsame.accounts, hsame.grants, hsame.journey]
  exact h.2

theorem GrantsOk.nil : GrantsOk d [] [] := by constructor <;> simp [StartOnce]

theorem prepareOrder_undelivered (hd : db.order.actualDeliveryAt = none) (h : Undelivered db)
    (hok : prepareOrder db = .ok db') : GrantsAgree db' := by
  simp only [prepareOrder, require_bind, Bool.and_eq_true, List.isEmpty_iff] at hok
  obtain ⟨⟨⟨hjourney, hempty⟩, -⟩, hok⟩ := hok
  have hsame := ensureInitialEntitlements_sameReviews hok
  have hgrants : db.grants = [] := by
    rcases h.2 with ⟨-, hgrants⟩ | ⟨-, p, ⟨a, ha, -⟩, -⟩
    · exact hgrants
    · rw [hempty] at ha
      cases ha
  have hprepared := ensureInitialEntitlements_prepared (.inl ⟨hempty, hgrants⟩) hok
  refine Undelivered.grantsAgree ⟨hsame.reviews.trans h.1, .inr ⟨?_, _, hprepared⟩⟩ ?_
  · rw [hsame.order, hjourney]
  · rw [hsame.order, hd]

theorem confirmDeliveryLegacy_undelivered (h : Undelivered db) {input : Delivery}
    (hok : confirmDeliveryLegacy db input = .ok db') : GrantsAgree db' := by
  obtain ⟨hdelivered, hjourney, haccounts, hgrants⟩ := confirmDeliveryLegacy_ok hok
  refine delivered_grantsAgree h.1 hdelivered ?_
  rcases h.2 with ⟨hnil, hnil'⟩ | ⟨hj, -⟩
  · rw [haccounts, hgrants, hnil, hnil']
    exact .nil
  · rw [hjourney] at hj
    cases hj

theorem activate_undelivered (h : Undelivered db) {input : Delivery}
    (hok : activateFromAuthoritativeHandover db input = .ok db') : GrantsAgree db' := by
  obtain ⟨hdelivered, db₁, db₂, hactivating, hensure, rfl⟩ :=
    activateFromAuthoritativeHandover_ok hok
  refine delivered_grantsAgree h.1 hdelivered ?_
  have hensurable : Ensurable db₁ := by
    rw [Ensurable, hactivating.accounts, hactivating.grants, hactivating.actualDeliveryAt]
    exact h.2.imp_right fun hprepared => ⟨rfl, hprepared.2⟩
  have hprepared := ensureInitialEntitlements_prepared hensurable hensure
  rw [orderStartAt, hactivating.actualDeliveryAt] at hprepared
  exact .activated rfl hprepared (exists_active_of_activate hprepared)

theorem expireEntitlements_undelivered (hd : db.order.actualDeliveryAt = none)
    (h : Undelivered db) (asOfDate : Int) : GrantsAgree (expireEntitlements db asOfDate) := by
  refine Undelivered.grantsAgree ⟨h.1, ?_⟩ hd
  rcases h.2 with ⟨hnil, hnil'⟩ | ⟨hjourney, p, hp⟩
  · exact .inl ⟨hnil, by simp [expireEntitlements, hnil']⟩
  · exact .inr ⟨hjourney, p, hp.expire asOfDate⟩

/-- What one call preserves before the delivery, and what the delivery starts with. -/
theorem call_undelivered (hd : db.order.actualDeliveryAt = none) (h : Undelivered db) {call : Call}
    (hok : db.call call = .ok db') : GrantsAgree db' := by
  have hrow : ∀ (i : Nat) (r : Review), db.reviews[i]? ≠ some r := by
    intro i r
    simp [h.1]
  cases call with
  | prepareOrder => exact prepareOrder_undelivered hd h hok
  | confirmDeliveryLegacy input => exact confirmDeliveryLegacy_undelivered h hok
  | activateFromAuthoritativeHandover input => exact activate_undelivered h hok
  | generateOrderEntitlements =>
    rw [Db.call, generateOrderEntitlements] at hok
    obtain ⟨_, hcan, -⟩ := bind_ok hok
    simp only [assertCanGenerateEntitlements, require_bind] at hcan
    have hsome := require_ok hcan.2
    rw [hd] at hsome
    cases hsome
  | createMonthlyRenewalGrants asOfDate inputs =>
    rw [Db.call, createMonthlyRenewalGrants] at hok
    obtain ⟨-, -, hok⟩ := bind_ok hok
    obtain ⟨d, hd', -⟩ := found_bind.1 hok
    rw [hd] at hd'
    cases hd'
  | expireEntitlements asOfDate =>
    obtain rfl := Except.ok.inj hok
    exact expireEntitlements_undelivered hd h asOfDate
  | consumeOrderEntitlement input =>
    rw [h.not_consumed hok]
    exact h.grantsAgree hd
  | activateVehicleSwap source effectiveDate targetGrants =>
    rw [Db.call, activateVehicleSwap, hd] at hok
    simp only [Option.any_none, Bool.not_false, Bool.or_true, if_true] at hok
    obtain rfl := Except.ok.inj hok
    exact h.grantsAgree hd
  | saveDraft dto => exact h.same hd (saveDraft_sameGrants hok) hok
  | changeEvidence reviewId lockVersion portal change =>
    exact h.same hd (changeEvidence_sameGrants hok) hok
  | submitReview reviewId lockVersion portal readable =>
    exact h.same hd (submitReview_sameGrants hok) hok
  | returnReview reviewId lockVersion reason => exact h.same hd (returnReview_sameGrants hok) hok
  | settleReview input =>
    rcases settleReview_ok hok with ⟨rfl, -⟩ | ⟨-, hsettled⟩
    · exact h.grantsAgree hd
    · obtain ⟨r, settled, submitted, next, hr, -⟩ := hsettled.row
      exact absurd hr (hrow _ r)
  | voidAndReopenReview input =>
    obtain ⟨r, voidedAt, hr, -⟩ := (voidAndReopenReview_ok hok).2.row
    exact absurd hr (hrow _ r)
  | appendReading input => exact h.same hd (appendReading_sameGrants hok) hok
  | activateDueReviews asOf =>
    exact h.same hd (by obtain rfl := Except.ok.inj hok; exact ⟨rfl, rfl, rfl, rfl⟩) hok
  | setOrderStatus status =>
    exact h.same hd (by obtain rfl := Except.ok.inj hok; exact ⟨rfl, rfl, rfl, rfl⟩) hok
  | setPeriodMonths months =>
    exact h.same hd (by obtain rfl := Except.ok.inj hok; exact ⟨rfl, rfl, rfl, rfl⟩) hok
  | setBill billId bill =>
    exact h.same hd (by obtain rfl := Except.ok.inj hok; exact ⟨rfl, rfl, rfl, rfl⟩) hok

theorem GrantsAgree.step (h : GrantsAgree db) (call : Call) : GrantsAgree (db.step call) := by
  cases hok : db.call call with
  | error failure =>
    rw [Db.step, hok]
    exact h
  | ok db' =>
    have hstep : db.step call = db' := by rw [Db.step, hok]
    cases hd : db.order.actualDeliveryAt with
    | none =>
      rw [hstep]
      exact call_undelivered hd (h.1 hd) hok
    | some d =>
      obtain ⟨hgrants, baseline, hreviews⟩ := h.2 d hd
      have hreviews' := hreviews.step call
      obtain ⟨-, chain, hchain⟩ := hreviews
      refine ⟨fun hnone => ?_, fun d' hd' => ?_⟩
      · rw [hreviews'.1] at hnone
        cases hnone
      · obtain rfl : d = d' := Option.some.inj (hreviews'.1.symm.trans hd')
        refine ⟨?_, baseline, hreviews'⟩
        rw [hstep]
        exact call_grantsOk hd hgrants hchain.ofCycle hok

theorem grantsAgree_runs (order : Order) (vehicle : Vehicle) (readings : List Reading)
    (calls : List Call) : GrantsAgree (runs Db.step (Db.created order vehicle readings) calls) :=
  runs_always GrantsAgree (fun _ call h => h.step call)
    (Undelivered.grantsAgree ⟨rfl, .inl ⟨rfl, rfl⟩⟩ rfl) calls

/-! ## The first settlement -/

/-- The settlement took this grant and made none. -/
def TookGrant (db db' : Db) (reviewId grantId : Nat) : Prop :=
  (∃ r, db'.reviews[reviewId]? = some r ∧ r.entitlementGrantId = some grantId) ∧
    db'.grants.length = db.grants.length

/-- Unless the delivery was late at the end of a short month, no other grant covers the period. -/
theorem GrantsOk.start_of_covers (h : GrantsOk d accounts grants) {g g' : Grant} (hg : g ∈ grants)
    (hcovers : coversPeriod (reviewEntitlementPeriod (addShanghaiMonthsClamped d 0)
      (addShanghaiMonthsClamped d 1)) g = true) (hlate : ¬LateOnShortMonthEnd d)
    (hg' : g' ∈ grants) (hstart : g'.isStartMileage) : g.isStartMileage := by
  simp only [coversPeriod, Bool.and_eq_true, beq_iff_eq, decide_eq_true_eq] at hcovers
  obtain ⟨⟨⟨⟨⟨-, htype⟩, -⟩, hbegin⟩, -⟩, hunit⟩ := hcovers
  rw [← (orderStart_covers_iff d).1, orderStartPeriod_eq] at hbegin
  refine ⟨⟨htype, hunit⟩, ?_⟩
  by_contra hsource
  rcases h.other g hg ⟨htype, hunit⟩ hsource with hlt | hlate' | hnone
  · omega
  · exact hlate hlate'
  · exact hnone g' hg' hstart

theorem settledReview_tookGrant_iff (h : GrantsOk d db.accounts db.grants) {review : Review}
    {grant : Grant} {reviewId grantId : Nat} (hgrant : db.grants[grantId]? = some grant)
    (hstart : grant.isStartMileage) (hreview : db.reviews[reviewId]? = some review)
    (hof : review.OfCycle d) (hcycle : review.cycleNo = 1)
    (hsettled : SettledReview db db' reviewId) :
    TookGrant db db' reviewId grantId ↔ ¬LateOnShortMonthEnd d := by
  obtain ⟨r, settled, submitted, next, hrow, -, -, -, -, ⟨db₁, hconsumed, -, hgrants⟩, hreviews,
    -⟩ := hsettled.row
  obtain rfl : review = r := Option.some.inj (hreview.symm.trans hrow)
  obtain ⟨taken, db₂, status, used, hfind, -, -, hgrants'⟩ := hconsumed.grants
  have hrow' : db'.reviews[reviewId]? = some (review.confirm settled) := by
    rw [hreviews, List.getElem?_append_left (by simpa using get_lt hrow)]
    exact get_modify_self hrow
  have htook : TookGrant db db' reviewId grantId ↔
      settled.grantId = grantId ∧ db₂.grants.length = db.grants.length := by
    rw [TookGrant, hgrants, hgrants', List.length_modify]
    refine and_congr_left fun _ => ⟨fun ⟨r', hr', hid⟩ => ?_, fun hid => ⟨_, hrow', ?_⟩⟩
    · obtain rfl := Option.some.inj (hrow'.symm.trans hr')
      exact Option.some.inj hid
    · rw [← hid]
      rfl
  have hcovers := h.covers_iff (List.mem_of_getElem? hgrant) hstart
  have hperiod : reviewEntitlementPeriod review.periodStart review.scheduledReviewAt =
      reviewEntitlementPeriod (addShanghaiMonthsClamped d 0) (addShanghaiMonthsClamped d 1) := by
    rw [hof.periodStart, hof.scheduledReviewAt, hcycle, Int.sub_self]
  rw [htook]
  rcases findOrCreateMileageGrant_cases db review hfind with ⟨rfl, hlast⟩ |
    ⟨hnone, -, hnew, -⟩
  · obtain ⟨hget, hcov⟩ := findLast_some hlast
    rw [hperiod] at hcov
    constructor
    · rintro ⟨rfl, -⟩
      obtain rfl : grant = taken := Option.some.inj (hgrant.symm.trans hget)
      exact hcovers.1 hcov
    · intro hlate
      have htaken := h.start_of_covers (List.mem_of_getElem? hget) hcov hlate
        (List.mem_of_getElem? hgrant) hstart
      exact ⟨h.once _ _ taken grant hget hgrant htaken hstart, rfl⟩
  · rw [hperiod] at hnone
    rw [hnew, List.length_append, List.length_singleton]
    have hnot := findLast_none hnone grant (List.mem_of_getElem? hgrant)
    constructor
    · rintro ⟨-, hlen⟩
      omega
    · intro hlate
      rw [hcovers.2 hlate] at hnot
      cases hnot

/-- In every run, a settlement of the first cycle takes the mileage grant that was made at the start of
the order, and makes no other one, exactly when the delivery was not late in UTC on the last day of a
month that is shorter than the next. -/
theorem settles_by_orderStart_iff (order : Order) (vehicle : Vehicle) (readings : List Reading)
    (calls : List Call) (db db' : Db) (d : Int) (grantId : Nat) (grant : Grant) (review : Review)
    (input : SettleMileageReview)
    (hdb : db = runs Db.step (Db.created order vehicle readings) calls)
    (hd : db.order.actualDeliveryAt = some d) (hgrant : db.grants[grantId]? = some grant)
    (hstart : grant.isStartMileage) (hreview : db.reviews[input.reviewId]? = some review)
    (hcycle : review.cycleNo = 1) (hopen : review.status ≠ .confirmed)
    (hsettle : settleReview db input = .ok db') :
    TookGrant db db' input.reviewId grantId ↔ ¬LateOnShortMonthEnd d := by
  subst hdb
  obtain ⟨hgrants, baseline, -, chain, hchain⟩ :=
    (grantsAgree_runs order vehicle readings calls).2 d hd
  have hof := hchain.ofCycle review (List.mem_of_getElem? hreview)
  rcases settleReview_ok hsettle with ⟨-, r, hr, hconfirmed⟩ | ⟨-, hsettled⟩
  · obtain rfl : review = r := Option.some.inj (hreview.symm.trans hr)
    exact absurd hconfirmed hopen
  · exact settledReview_tookGrant_iff hgrants hgrant hstart hreview hof hcycle hsettled

/-- The order of the sample, at the end of its first month. -/
def sampleDb (deliveredAt : Int) : Db :=
  runs Db.step (Db.created sampleOrder ⟨0, none⟩ [])
    (.activateFromAuthoritativeHandover ⟨deliveredAt, 100, "D"⟩ :: sampleMonth deliveredAt)

/-- The month of the sample ends with a submitted review of the first cycle. -/
theorem sampleDb_rows {t : Int}
    (hgrant : (sampleDb t).grants[0]?.any (fun g => decide g.isStartMileage) = true)
    (hreview : (sampleDb t).reviews[0]?.any
      (fun r => r.cycleNo == 1 && r.status == .pendingReview) = true) :
    ∃ grant review, (sampleDb t).grants[0]? = some grant ∧ grant.isStartMileage ∧
      (sampleDb t).reviews[0]? = some review ∧ review.cycleNo = 1 ∧ review.status ≠ .confirmed := by
  obtain ⟨grant, hg, hstart⟩ := (Option.any_eq_true _ _).1 hgrant
  obtain ⟨review, hr, hrow⟩ := (Option.any_eq_true _ _).1 hreview
  simp only [Bool.and_eq_true, beq_iff_eq] at hrow
  exact ⟨grant, review, hg, of_decide_eq_true hstart, hr, hrow.1, by simp [hrow.2]⟩

theorem settles_by_orderStart_sample : ∃ db',
    settleReview (sampleDb noon) (sampleSettlement noon) = .ok db' ∧
      (TookGrant (sampleDb noon) db' 0 0 ↔ ¬LateOnShortMonthEnd noon) := by
  obtain ⟨db', hdb', -⟩ := ok_of_any (x := settleReview (sampleDb noon) (sampleSettlement noon))
    (p := fun _ => true) (by decide +kernel)
  obtain ⟨grant, review, hgrant, hstart, hreview, hcycle, hopen⟩ :=
    sampleDb_rows (t := noon) (by decide +kernel) (by decide +kernel)
  exact ⟨db', hdb', settles_by_orderStart_iff sampleOrder ⟨0, none⟩ [] _ (sampleDb noon) db' noon 0
    grant review (sampleSettlement noon) rfl (by decide +kernel) hgrant hstart hreview hcycle hopen
    hdb'⟩

/-- An hour before the end of February 2026, in UTC: it is the first of March in Shanghai. -/
def lateFebruary : Int := 1772319600000

/-- The order of the sample, delivered late in February, is granted a second month of kilometres. -/
theorem settlement_backfills : ¬∀ (order : Order) (vehicle : Vehicle) (readings : List Reading)
    (calls : List Call) (db' : Db) (d : Int) (grantId : Nat) (grant : Grant) (review : Review)
    (input : SettleMileageReview),
    let db := runs Db.step (Db.created order vehicle readings) calls
    db.order.actualDeliveryAt = some d → db.grants[grantId]? = some grant →
    grant.isStartMileage → db.reviews[input.reviewId]? = some review → review.cycleNo = 1 →
    review.status ≠ .confirmed → settleReview db input = .ok db' →
    TookGrant db db' input.reviewId grantId := by
  intro h
  obtain ⟨db', hdb', hgrants⟩ := ok_of_any
    (x := settleReview (sampleDb lateFebruary) (sampleSettlement lateFebruary))
    (p := fun db' => db'.grants.length == 2) (by decide +kernel)
  obtain ⟨grant, review, hgrant, hstart, hreview, hcycle, hopen⟩ :=
    sampleDb_rows (t := lateFebruary) (by decide +kernel) (by decide +kernel)
  obtain ⟨-, hlen⟩ : TookGrant (sampleDb lateFebruary) db' 0 0 :=
    h sampleOrder ⟨0, none⟩ [] _ db' lateFebruary 0 grant review (sampleSettlement lateFebruary)
      (by decide +kernel) hgrant hstart hreview hcycle hopen hdb'
  have hone : (sampleDb lateFebruary).grants.length = 1 := by decide +kernel
  rw [beq_iff_eq.1 hgrants, hone] at hlen
  cases hlen

end SubscriptionSaas.Mileage
