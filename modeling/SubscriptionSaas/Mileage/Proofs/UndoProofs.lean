import SubscriptionSaas.Mileage.Proofs.GrantProofs
import SubscriptionSaas.Mileage.Proofs.LedgerProofs

/-!
# A settlement is undone

Voiding a review right after its settlement gives back the grant, the usages, the bills and the
kilometres of the vehicle. Each part of the settlement is undone by one part of the voiding, under a
condition of its own on the rows before the settlement; together they are `Undoable`.
-/

namespace SubscriptionSaas.Mileage

open Results Tables
open Finance (BillStatus)

variable {db db' db₁ : Db}

/-! ## The usage -/

def liveUsage (usage : Usage) : Bool := usage.deletedAt.isNone && usage.usageStatus == .confirmed

def Usage.cancelled (usage : Usage) : Usage := { usage with usageStatus := .cancelled }

theorem liveUsage_cancelled (usage : Usage) : liveUsage usage.cancelled = false := by
  simp [liveUsage, Usage.cancelled]

/-- The usage that a settlement creates. -/
def newUsage (reviewId version grantId : Nat) (km : Int) : Usage :=
  { grantId := grantId
    usedAmount := 100 * km
    externalRefNo := some (usageRefNo reviewId version)
    usageStatus := .confirmed }

theorem consumeAllowance_cases {reviewId version grantId : Nat} {km : Int} {usageId : Option Nat}
    (h : consumeAllowance db reviewId version grantId km = (usageId, db')) :
    (km ≤ 0 ∧ usageId = none ∧ db' = db) ∨
    (0 < km ∧ db' = db ∧ ∃ id usage, usageId = some id ∧ db.usages[id]? = some usage ∧
      liveUsage usage = true ∧ usage.externalRefNo = some (usageRefNo reviewId version)) ∨
    (0 < km ∧ usageId = some db.usages.length ∧
      (∀ usage ∈ db.usages, liveUsage usage = true →
        usage.externalRefNo ≠ some (usageRefNo reviewId version)) ∧
      db' = { db with usages := db.usages ++ [newUsage reviewId version grantId km] }) := by
  rw [consumeAllowance] at h
  split at h
  · next hpos =>
    right
    dsimp only at h
    split at h
    · next usage id hfind =>
      obtain ⟨rfl, rfl⟩ := Prod.mk.inj h
      obtain ⟨hrow, hp⟩ := findFirst_some hfind
      simp only [Bool.and_eq_true, beq_iff_eq] at hp
      exact .inl ⟨hpos, rfl, id, usage, rfl, hrow, by simp [liveUsage, hp.1.1, hp.2], hp.1.2⟩
    · next hfind =>
      obtain ⟨rfl, rfl⟩ := Prod.mk.inj h
      refine .inr ⟨hpos, rfl, ?_, rfl⟩
      intro usage husage hlive href
      have hnone := findFirst_none hfind usage husage
      simp only [liveUsage, Bool.and_eq_true] at hlive
      simp [hlive.1, beq_iff_eq.1 hlive.2, href] at hnone
  · next hpos =>
    obtain ⟨rfl, rfl⟩ := Prod.mk.inj h
    exact .inl ⟨by omega, rfl, rfl⟩

theorem decimalToSafeMileage_iff {value : Option Int} {message : String} {km : Int} :
    decimalToSafeMileage value message = .ok km ↔
      value = some (100 * km) ∧ isSafeInteger km = true ∧ 0 ≤ km := by
  cases value with
  | none =>
    constructor
    · intro h
      cases h
    · rintro ⟨h, -⟩
      cases h
  | some hundredths =>
    rw [decimalToSafeMileage]
    constructor
    · intro h
      obtain ⟨⟨hmod, hsafe, hpos⟩, h⟩ := check_ok h
      obtain rfl := Except.ok.inj h
      exact ⟨congrArg some (by omega), hsafe, by omega⟩
    · rintro ⟨h, hsafe, hpos⟩
      obtain rfl := Option.some.inj h
      have hdiv : 100 * km / 100 = km := by omega
      rw [hdiv, if_pos ⟨by omega, hsafe, by omega⟩]

theorem cancelUsage_iff {usageId : Option Nat} {used restored : Int} :
    cancelUsage db usageId used = .ok (restored, db') ↔
      (usageId = none ∧ restored = used ∧ db' = db) ∨
      ∃ id usage amount, usageId = some id ∧ db.usages[id]? = some usage ∧
        usage.usageStatus = .confirmed ∧ usage.usedAmount = 100 * amount ∧
        isSafeInteger amount = true ∧ 0 ≤ amount ∧ amount ≤ used ∧ restored = used - amount ∧
        db' = { db with usages := db.usages.modify id Usage.cancelled } := by
  cases usageId with
  | none =>
    constructor
    · intro h
      obtain ⟨rfl, rfl⟩ := Prod.mk.inj (Except.ok.inj h)
      exact .inl ⟨rfl, rfl, rfl⟩
    · rintro (⟨-, rfl, rfl⟩ | ⟨_, _, _, h, -⟩)
      · rfl
      · cases h
  | some id =>
    constructor
    · intro h
      simp only [cancelUsage, found_bind] at h
      obtain ⟨usage, hrow, h⟩ := h
      obtain ⟨amount, hamount, h⟩ := bind_ok h
      simp only [require_bind, decide_eq_true_eq] at h
      obtain ⟨hle, h⟩ := h
      obtain ⟨rfl, rfl⟩ := Prod.mk.inj (Except.ok.inj h)
      obtain ⟨hrow, hstatus⟩ := Option.filter_eq_some_iff.1 hrow
      obtain ⟨hused, hsafe, hpos⟩ := decimalToSafeMileage_iff.1 hamount
      exact .inr ⟨id, usage, amount, rfl, hrow, beq_iff_eq.1 hstatus, Option.some.inj hused, hsafe,
        hpos, hle, rfl, rfl⟩
    · rintro (⟨h, -⟩ | ⟨_, usage, amount, h, hrow, hstatus, hused, hsafe, hpos, hle, rfl, rfl⟩)
      · cases h
      · obtain rfl := Option.some.inj h
        refine found_bind.2 ⟨usage, Option.filter_eq_some_iff.2 ⟨hrow, beq_iff_eq.2 hstatus⟩, ?_⟩
        rw [bind_eq (decimalToSafeMileage_iff.2 ⟨congrArg some hused, hsafe, hpos⟩)]
        exact require_bind.2 ⟨decide_eq_true hle, rfl⟩

/-- The usage of a settlement is cancelled and leaves the live usages as they were, unless one of
them was taken for it. -/
theorem usage_undone_iff {reviewId version grantId : Nat} {km used : Int} {usageId : Option Nat}
    (h : consumeAllowance db reviewId version grantId km = (usageId, db'))
    (husages : db₁.usages = db'.usages) (hkm : isSafeInteger km = true ∧ 0 ≤ km)
    (hused : 0 ≤ used) :
    (∃ restored db₂, cancelUsage db₁ usageId (used + km) = .ok (restored, db₂) ∧
      restored = used ∧ numbered liveUsage db₂.usages = numbered liveUsage db.usages) ↔
    (0 < km → ∀ usage ∈ db.usages, liveUsage usage = true →
      usage.externalRefNo ≠ some (usageRefNo reviewId version)) := by
  simp only [cancelUsage_iff]
  rcases consumeAllowance_cases h with ⟨hle, rfl, rfl⟩ |
    ⟨hpos, rfl, id, usage, rfl, hrow, hlive, href⟩ | ⟨hpos, rfl, hnone, rfl⟩
  · constructor
    · intro _ hpos
      omega
    · intro _
      exact ⟨used + km, db₁, .inl ⟨rfl, rfl, rfl⟩, by omega, by rw [husages]⟩
  · constructor
    · rintro ⟨restored, db₂, ⟨hid, -⟩ | ⟨id', usage', amount, hid, hrow', -, -, -, -, -, -, rfl⟩, -,
        hsame⟩
      · cases hid
      · obtain rfl := Option.some.inj hid
        dsimp only at hsame
        rw [husages] at hsame
        have hdead := (numbered_modify_iff liveUsage_cancelled).1 hsame usage hrow
        rw [hlive] at hdead
        cases hdead
    · intro hnone
      exact absurd href (hnone hpos usage (List.mem_of_getElem? hrow) hlive)
  · constructor
    · intro _ _
      exact hnone
    · intro _
      refine ⟨used, _, .inr ⟨_, newUsage reviewId version grantId km, km, rfl, ?_, rfl, rfl, hkm.1,
        hkm.2, by omega, by omega, rfl⟩, rfl, ?_⟩
      · rw [husages]
        exact List.getElem?_concat_length
      · dsimp only
        rw [husages]
        exact numbered_append_modify rfl liveUsage_cancelled

/-! ## The grant -/

/-- The grant has the amounts and the status that it had. -/
def GrantBack (grant : Grant) (grantId : Nat) (db : Db) : Prop :=
  ∃ row, db.grants[grantId]? = some row ∧ row.usedAmount = grant.usedAmount ∧
    row.remainingAmount = grant.remainingAmount ∧ row.status = grant.status

theorem restoreEntitlement_iff {review : Review} : restoreEntitlement db review = .ok db' ↔
    ∃ grantId allowanceKm grant used restored db₂, review.entitlementGrantId = some grantId ∧
      review.allowanceKm = some allowanceKm ∧ db.grants[grantId]? = some grant ∧
      (grant.usedAmount = some (100 * used) ∧ isSafeInteger used = true ∧ 0 ≤ used) ∧
      cancelUsage db review.entitlementUsageId used = .ok (restored, db₂) ∧
      db' = { db₂ with
        grants := db₂.grants.modify grantId
          (Grant.restore (100 * allowanceKm) (100 * restored)) } := by
  simp only [restoreEntitlement, found_bind]
  constructor
  · rintro ⟨grantId, hid, allowanceKm, hallowance, grant, hgrant, h⟩
    obtain ⟨used, hused, h⟩ := bind_ok h
    obtain ⟨⟨restored, db₂⟩, hcancel, h⟩ := bind_ok h
    exact ⟨grantId, allowanceKm, grant, used, restored, db₂, hid, hallowance, hgrant,
      decimalToSafeMileage_iff.1 hused, hcancel, (Except.ok.inj h).symm⟩
  · rintro ⟨grantId, allowanceKm, grant, used, restored, db₂, hid, hallowance, hgrant, hused,
      hcancel, rfl⟩
    refine ⟨grantId, hid, allowanceKm, hallowance, grant, hgrant, ?_⟩
    rw [bind_eq (decimalToSafeMileage_iff.2 hused), bind_eq hcancel]
    rfl

/-- Giving back an entitlement leaves the bills and the readings alone. -/
theorem restoreEntitlement_rest {review : Review} (h : restoreEntitlement db review = .ok db') :
    db'.bills = db.bills ∧ db'.readings = db.readings ∧ db'.vehicle = db.vehicle := by
  obtain ⟨_, _, _, _, _, db₂, -, -, -, -, hcancel, rfl⟩ := restoreEntitlement_iff.1 h
  rcases cancelUsage_iff.1 hcancel with ⟨-, -, rfl⟩ | ⟨_, _, _, -, -, -, -, -, -, -, -, rfl⟩ <;>
    exact ⟨rfl, rfl, rfl⟩

/-- The parts of a settlement that concern the entitlement. -/
structure Drawn (db₀ db db' : Db) (review : Review) (reviewId : Nat) (grant : Grant)
    (settled : Settled) : Prop where
  row : db.grants[settled.grantId]? = some grant
  usages : db.usages = db₀.usages
  allowance : decimalToSafeMileage (grant.remainingAmount <|> grant.totalAmount)
    "Mileage allowance must be a non-negative integer." = .ok settled.allowanceKm
  consumed : 0 ≤ settled.settlement.consumedAllowanceKm ∧
    settled.settlement.consumedAllowanceKm ≤ settled.allowanceKm
  consume : consumeAndExpireGrant db review reviewId grant settled.grantId
    settled.settlement.consumedAllowanceKm settled.settlement.unusedAllowanceKm =
      .ok (settled.usageId, db')

/-- What was used of a grant, in kilometres. -/
def Grant.usedKm (grant : Grant) : Int := grant.usedAmount.getD 0 / 100

/-- No live usage has the key of the review. -/
def UsageFree (db : Db) (reviewId version : Nat) : Prop :=
  ∀ usage ∈ db.usages, liveUsage usage = true →
    usage.externalRefNo ≠ some (usageRefNo reviewId version)

theorem isSafeInteger_le {a b : Int} (h : isSafeInteger b = true) (ha : 0 ≤ a) (hle : a ≤ b) :
    isSafeInteger a = true := by
  simp only [isSafeInteger, Bool.and_eq_true, decide_eq_true_eq] at h ⊢
  omega

theorem Drawn.undone_iff {db₀ : Db} {review : Review} {reviewId : Nat} {grant : Grant}
    {settled : Settled} (h : Drawn db₀ db db' review reviewId grant settled)
    (hgrants : db₁.grants = db'.grants) (husages : db₁.usages = db'.usages) :
    (∃ db₂, restoreEntitlement db₁ (review.confirm settled) = .ok db₂ ∧
      GrantBack grant settled.grantId db₂ ∧
      numbered liveUsage db₂.usages = numbered liveUsage db₀.usages) ↔
    grant.status = .active ∧ grant.remainingAmount ≠ none ∧
      isSafeInteger (grant.usedKm + settled.settlement.consumedAllowanceKm) = true ∧
      (0 < settled.settlement.consumedAllowanceKm → UsageFree db₀ reviewId review.version) := by
  obtain ⟨hgrant, husages₀, hallowance, ⟨hpos, hle⟩, hconsume⟩ := h
  obtain ⟨hallowance, hsafe, hallowed⟩ := decimalToSafeMileage_iff.1 hallowance
  rw [consumeAndExpireGrant] at hconsume
  obtain ⟨used, hused, hconsume⟩ := bind_ok hconsume
  obtain ⟨hused, -, husedpos⟩ := decimalToSafeMileage_iff.1 hused
  generalize husage : consumeAllowance db reviewId review.version settled.grantId
    settled.settlement.consumedAllowanceKm = row at hconsume
  obtain ⟨usageId, dbU⟩ := row
  obtain ⟨rfl, rfl⟩ := Prod.mk.inj (Except.ok.inj hconsume)
  have haside := consumeAllowance_aside db reviewId review.version settled.grantId
    settled.settlement.consumedAllowanceKm
  rw [husage] at haside
  have husedKm : grant.usedKm = used := by
    rw [Grant.usedKm, hused, Option.getD_some]
    omega
  -- the row of the grant between the two
  obtain ⟨row, hrow, hrowUsed⟩ : ∃ row, db₁.grants[settled.grantId]? = some row ∧
      row.usedAmount = some (100 * (used + settled.settlement.consumedAllowanceKm)) := by
    rw [hgrants]
    dsimp only
    rw [haside.grants]
    exact ⟨_, get_modify_self hgrant, rfl⟩
  have hundone := usage_undone_iff husage husages ⟨isSafeInteger_le hsafe hpos hle, hpos⟩ husedpos
  rw [husages₀] at hundone
  rw [husedKm]
  constructor
  · rintro ⟨db₂, hrestore, ⟨back, hback, hbackUsed, hbackRemaining, hbackStatus⟩, hlive⟩
    obtain ⟨_, _, _, total, restored, db₃, hid, hallowanceKm, hrow', ⟨htotal, htotalSafe, -⟩,
      hcancel, rfl⟩ := restoreEntitlement_iff.1 hrestore
    obtain rfl := Option.some.inj hid
    obtain rfl := Option.some.inj hallowanceKm
    rw [hrow] at hrow'
    obtain rfl := Option.some.inj hrow'
    have htotal := Option.some.inj (htotal.symm.trans hrowUsed)
    obtain rfl : total = used + settled.settlement.consumedAllowanceKm := by omega
    dsimp only at hback
    rw [(cancelUsage_aside hcancel).grants, get_modify_self hrow] at hback
    obtain rfl := Option.some.inj hback
    have hrestored : some (100 * restored) = some (100 * used) := hbackUsed.trans hused
    refine ⟨hbackStatus.symm, ?_, htotalSafe, ?_⟩
    · rw [← hbackRemaining]
      exact Option.some_ne_none _
    · exact hundone.1 ⟨restored, db₃, hcancel, by injection hrestored; omega, hlive⟩
  · rintro ⟨hactive, hremaining, husedSafe, hfree⟩
    obtain ⟨restored, db₂, hcancel, rfl, hlive⟩ := hundone.2 hfree
    obtain ⟨remaining, hremaining⟩ := Option.ne_none_iff_exists'.1 hremaining
    have hback : some (100 * settled.allowanceKm) = grant.remainingAmount := by
      rw [hremaining] at hallowance ⊢
      exact hallowance.symm
    refine ⟨_, restoreEntitlement_iff.2 ⟨settled.grantId, settled.allowanceKm, row, _, _, db₂, rfl,
      rfl, hrow, ⟨hrowUsed, husedSafe, by omega⟩, hcancel, rfl⟩,
      ⟨row.restore (100 * settled.allowanceKm) (100 * restored), ?_, hused.symm, hback,
        hactive.symm⟩, hlive⟩
    dsimp only
    rw [(cancelUsage_aside hcancel).grants]
    exact get_modify_self hrow

/-! ## The bill -/

def liveBill (bill : Bill) : Bool := bill.billStatus != .cancelled

/-- The bill that stands for the review, if there is one. -/
def findOverMileageBill (bills : List Bill) (reviewId version : Nat) : Option (Bill × Nat) :=
  findFirst (fun bill => bill.sourceKey == overMileageKey reviewId version) bills

theorem createOverMileageBill_cases {review : Review} {reviewId : Nat} {amount confirmedAt : Int}
    {billId : Option Nat}
    (h : createOverMileageBill db review reviewId amount confirmedAt = .ok (billId, db')) :
    (amount ≤ 0 ∧ billId = none ∧ db' = db) ∨
    (0 < amount ∧ db' = db ∧ ∃ bill id, billId = some id ∧
      findOverMileageBill db.bills reviewId review.version = some (bill, id)) ∨
    (0 < amount ∧ findOverMileageBill db.bills reviewId review.version = none ∧
      billId = some db.bills.length ∧ ∃ bill, db' = { db with bills := db.bills ++ [bill] } ∧
        liveBill bill = true ∧ paidBill bill = false) := by
  rw [createOverMileageBill] at h
  split at h
  · next hle =>
    obtain ⟨rfl, rfl⟩ := Prod.mk.inj (Except.ok.inj h)
    exact .inl ⟨hle, rfl, rfl⟩
  · next hpos =>
    have hpos : 0 < amount := by omega
    right
    dsimp only at h
    split at h
    · next bill id hfind =>
      simp only [require_bind] at h
      obtain ⟨-, h⟩ := h
      obtain ⟨rfl, rfl⟩ := Prod.mk.inj (Except.ok.inj h)
      exact .inl ⟨hpos, rfl, bill, id, rfl, hfind⟩
    · next hfind =>
      obtain ⟨rfl, rfl⟩ := Prod.mk.inj (Except.ok.inj h)
      exact .inr ⟨hpos, hfind, rfl, _, rfl, rfl, rfl⟩

/-- A bill as it is cancelled. -/
def Bill.cancel (voidedAt : Int) (bill : Bill) : Bill :=
  { bill with billStatus := .cancelled, cancelledAt := some voidedAt, remainingAmount := 0 }

theorem liveBill_cancel (voidedAt : Int) (bill : Bill) : liveBill (bill.cancel voidedAt) = false :=
  rfl

/-- The bill of a settlement is cancelled and leaves the live bills as they were, unless there was
one. -/
theorem bill_undone_iff {review : Review} {reviewId : Nat} {amount confirmedAt : Int}
    {billId : Option Nat} {bills : List Bill}
    (h : createOverMileageBill db review reviewId amount confirmedAt = .ok (billId, db'))
    (hbills : bills = db'.bills) (voidedAt : Int) :
    ((billId.bind (bills[·]?)).any paidBill = false ∧
      numbered liveBill (cancelBill bills billId voidedAt) = numbered liveBill db.bills) ↔
    (0 < amount → ∀ bill id,
      findOverMileageBill db.bills reviewId review.version = some (bill, id) →
        liveBill bill = false ∧ paidBill bill = false) := by
  subst hbills
  rcases createOverMileageBill_cases h with ⟨hle, rfl, rfl⟩ | ⟨hpos, rfl, bill, id, rfl, hfind⟩ |
    ⟨hpos, hnone, rfl, bill, rfl, hlive, hpaid⟩
  · constructor
    · intro _ hpos
      omega
    · intro _
      exact ⟨rfl, rfl⟩
  · obtain ⟨hrow, -⟩ := findFirst_some hfind
    have hcancel : numbered liveBill (cancelBill db'.bills (some id) voidedAt) =
        numbered liveBill db'.bills ↔ ∀ bill, db'.bills[id]? = some bill → liveBill bill = false :=
      numbered_modify_iff (liveBill_cancel voidedAt)
    rw [hcancel, Option.bind_some, hrow, Option.any_some]
    constructor
    · rintro ⟨hpaid, hdead⟩ _ bill' id' hfind'
      rw [hfind] at hfind'
      obtain ⟨rfl, rfl⟩ := Prod.mk.inj (Option.some.inj hfind')
      exact ⟨hdead bill rfl, hpaid⟩
    · intro hall
      obtain ⟨hdead, hpaid⟩ := hall hpos bill id hfind
      refine ⟨hpaid, ?_⟩
      intro bill' hbill'
      obtain rfl := Option.some.inj hbill'
      exact hdead
  · constructor
    · intro _ _ bill' id' hfind
      rw [hnone] at hfind
      cases hfind
    · intro _
      refine ⟨?_, numbered_append_modify hlive (liveBill_cancel voidedAt)⟩
      rw [Option.bind_some, List.getElem?_concat_length, Option.any_some, hpaid]

/-! ## The reading -/

/-- The reading before the one of the source, when that one is or becomes the latest. -/
def precedingReading (input : AppendReading) (readings : List Reading) : Option (Reading × Nat) :=
  match findFirst input.isSource readings with
  | none => latestReading (fun _ => true) readings
  | some (_, id) =>
    if (latestReading (fun _ => true) readings).map (·.2) = some id then
      latestReading (· != id) readings
    else none

theorem latestReading_append {p : Nat → Bool} {readings : List Reading} {reading : Reading}
    (hactive : reading.status = .active) (hp : p readings.length = true)
    (hlatest : ∀ row, latestReading p readings = some row → row.1.recordedAt ≤ reading.recordedAt) :
    latestReading p (readings ++ [reading]) = some (reading, readings.length) := by
  rw [latestReading, List.zipIdx_append, List.filter_append]
  have hnew : ([reading].zipIdx (0 + readings.length)).filter
      (fun row => row.1.status == .active && p row.2) = [(reading, readings.length)] := by
    simp [hactive, hp]
  rw [hnew, List.foldl_append, List.foldl_cons, List.foldl_nil, ← latestReading]
  cases h : latestReading p readings with
  | none => rfl
  | some best => simp [hlatest best h]

/-- A reading that is appended is not before itself. -/
theorem latestReading_append_ne {readings : List Reading} {reading : Reading} :
    latestReading (· != readings.length) (readings ++ [reading]) =
      latestReading (fun _ => true) readings := by
  rw [latestReading, latestReading, List.zipIdx_append, List.filter_append]
  have hnew : ([reading].zipIdx (0 + readings.length)).filter
      (fun row => row.1.status == .active && row.2 != readings.length) = [] := by simp
  rw [hnew, List.append_nil]
  congr 1
  apply List.filter_congr
  intro row hrow
  have hlt := List.snd_lt_of_mem_zipIdx hrow
  have hne : row.2 ≠ readings.length := by omega
  simp [hne]

theorem voidReadingAndRestoreProjection_iff {readingId : Nat} {voidedAt : Int} :
    voidReadingAndRestoreProjection db readingId voidedAt = .ok db' ↔
      (∃ reading, db.readings[readingId]? = some reading ∧ reading.status = .active) ∧
      (latestReading (fun _ => true) db.readings).map (·.2) = some readingId ∧
      ∃ previous, latestReading (· != readingId) db.readings = some previous ∧
        db' = { db with
          readings := db.readings.modify readingId fun reading =>
            { reading with status := .voided, voidedAt := some voidedAt }
          vehicle := { db.vehicle with currentMileageKm := previous.1.mileageKm } } := by
  simp only [voidReadingAndRestoreProjection, found_bind, require_bind, beq_iff_eq,
    Option.filter_eq_some_iff]
  constructor
  · rintro ⟨reading, hreading, hlatest, previous, hprevious, h⟩
    exact ⟨⟨reading, hreading⟩, hlatest, previous, hprevious, (Except.ok.inj h).symm⟩
  · rintro ⟨⟨reading, hreading⟩, hlatest, previous, hprevious, rfl⟩
    exact ⟨reading, hreading, hlatest, previous, hprevious, rfl⟩

/-- The reading of a settlement is voided and gives the vehicle its kilometres back exactly when the
reading before has them. -/
theorem reading_undone_iff {input : AppendReading} {readingId : Nat}
    (h : appendConfirmedReading db input = .ok (readingId, db'))
    (hreadings : db₁.readings = db'.readings) (voidedAt : Int) :
    (∃ db₂, voidReadingAndRestoreProjection db₁ readingId voidedAt = .ok db₂ ∧
      db₂.vehicle.currentMileageKm = db.vehicle.currentMileageKm) ↔
    ∃ previous, precedingReading input db.readings = some previous ∧
      previous.1.mileageKm = db.vehicle.currentMileageKm := by
  simp only [voidReadingAndRestoreProjection_iff, hreadings]
  obtain ⟨-, -, ⟨rfl, existing, hfind, hactive, -⟩ | ⟨rfl, hnew, hlatest, rfl⟩⟩ :=
    appendConfirmedReading_ok h
  · rw [precedingReading, hfind]
    dsimp only
    constructor
    · rintro ⟨db₂, ⟨-, hlast, previous, hprevious, rfl⟩, hkm⟩
      rw [if_pos hlast]
      exact ⟨previous, hprevious, hkm⟩
    · rintro ⟨previous, hprevious, hkm⟩
      by_cases hlast : (latestReading (fun _ => true) db'.readings).map (·.2) = some readingId
      · rw [if_pos hlast] at hprevious
        exact ⟨_, ⟨⟨existing, (findFirst_some hfind).1, hactive⟩, hlast, previous, hprevious, rfl⟩,
          hkm⟩
      · rw [if_neg hlast] at hprevious
        cases hprevious
  · have hfind : findFirst input.isSource db.readings = none := by
      rw [findFirst, List.find?_eq_none]
      intro row hrow
      have hmem := (List.mem_zipIdx hrow).2.2 ▸ List.getElem_mem _
      simp [hnew row.1 hmem]
    have hlast := @latestReading_append (fun _ => true) db.readings
      (input.reading (latestReading (fun _ => true) db.readings)) rfl rfl
      fun row hrow => (hlatest row hrow).2
    rw [precedingReading, hfind]
    rw [latestReading_append_ne, hlast]
    constructor
    · rintro ⟨db₂, ⟨-, -, previous, hprevious, rfl⟩, hkm⟩
      exact ⟨previous, hprevious, hkm⟩
    · rintro ⟨previous, hprevious, hkm⟩
      exact ⟨_, ⟨⟨_, List.getElem?_concat_length, rfl⟩, rfl, previous, hprevious, rfl⟩, hkm⟩

/-! ## The settlement -/

/-- The kilometres that a grant allows. -/
def Grant.allowedKm (grant : Grant) : Int :=
  (grant.remainingAmount <|> grant.totalAmount).getD 0 / 100

/-- The kilometres that have been driven since the baseline of the review. -/
def Review.drivenKm (review : Review) : Int :=
  review.submittedMileageKm.getD 0 - review.baselineMileageKm

/-- The reading that the settlement of the review appends. -/
def Review.monthlyReading (review : Review) (reviewId : Nat) : AppendReading :=
  { ofOrder := true
    sourceType := .monthlyReview
    sourceRecordId := s!"{reviewId}:v{review.version}"
    recordedAt := review.readingAt.getD 0
    mileageKm := review.submittedMileageKm.getD 0 }

theorem calculateMileageSettlement_ok {baseline submitted allowance fee : Int}
    {settlement : MileageSettlement}
    (h : calculateMileageSettlement baseline submitted allowance fee = .ok settlement) :
    0 ≤ allowance ∧ baseline ≤ submitted ∧
      settlement.consumedAllowanceKm = min (submitted - baseline) allowance ∧
      settlement.overMileageAmount = max (submitted - baseline - allowance) 0 * fee := by
  simp only [calculateMileageSettlement, assertMileageValues, require_bind, List.all_cons,
    List.all_nil, Bool.and_eq_true, decide_eq_true_eq] at h
  obtain ⟨⟨-, -, ⟨-, hallowance⟩, -⟩, -, hle, h⟩ := h
  obtain rfl := Except.ok.inj h
  exact ⟨hallowance, hle, rfl, rfl⟩

/-- The tables that a search for a grant leaves alone. -/
theorem findOrCreateMileageGrant_rest {review : Review} {grant : Grant} {grantId : Nat}
    (h : findOrCreateMileageGrant db review = (grant, grantId, db')) :
    db'.grants[grantId]? = some grant ∧ db'.usages = db.usages ∧ db'.bills = db.bills ∧
      db'.readings = db.readings ∧ db'.vehicle = db.vehicle ∧ db'.order = db.order ∧
      db'.reviews = db.reviews := by
  simp only [findOrCreateMileageGrant] at h
  split at h
  · next existing id hfind =>
    obtain ⟨hexisting, h'⟩ := Prod.mk.inj h
    obtain ⟨hid, hdb⟩ := Prod.mk.inj h'
    subst hexisting hid hdb
    exact ⟨(findLast_some hfind).1, rfl, rfl, rfl, rfl, rfl, rfl⟩
  · obtain ⟨hgrant, h'⟩ := Prod.mk.inj h
    obtain ⟨hid, hdb⟩ := Prod.mk.inj h'
    subst hgrant hid hdb
    unfold findOrCreateAccount
    split <;> exact ⟨List.getElem?_concat_length, rfl, rfl, rfl, rfl, rfl, rfl⟩

/-- The tables that a new review leaves alone. -/
theorem createNextReview_rest {review : Review} {submitted : Int} {readingId : Nat}
    {confirmedAt : Int}
    (h : createNextReview db review submitted readingId confirmedAt = .ok db') :
    ∃ next, db' = { db with reviews := db.reviews ++ next } ∧
      ∀ r ∈ next, r.status ≠ .confirmed := by
  have hsame : db = { db with reviews := db.reviews ++ [] } := by rw [List.append_nil]
  rw [createNextReview] at h
  split at h
  · obtain rfl := Except.ok.inj h
    exact ⟨[], hsame, by simp⟩
  · split at h
    · obtain rfl := Except.ok.inj h
      exact ⟨[], hsame, by simp⟩
    · obtain ⟨cycle, -, h⟩ := bind_ok h
      dsimp only at h
      split at h
      · obtain rfl := Except.ok.inj h
        exact ⟨[], hsame, by simp⟩
      · obtain rfl := Except.ok.inj h
        refine ⟨_, rfl, ?_⟩
        intro r hr
        obtain rfl := List.mem_singleton.1 hr
        dsimp only
        split <;> simp

/-- The tables that a consumption leaves alone. -/
theorem consumeAndExpireGrant_rest {review : Review} {reviewId grantId : Nat} {grant : Grant}
    {consumed unused : Int} {usageId : Option Nat}
    (h : consumeAndExpireGrant db review reviewId grant grantId consumed unused =
      .ok (usageId, db')) :
    db'.bills = db.bills ∧ db'.readings = db.readings ∧ db'.vehicle = db.vehicle := by
  rw [consumeAndExpireGrant] at h
  obtain ⟨existingUsed, -, h⟩ := bind_ok h
  generalize husage : consumeAllowance db reviewId review.version grantId consumed = row at h
  obtain ⟨usageId', db₁⟩ := row
  obtain ⟨-, rfl⟩ := Prod.mk.inj (Except.ok.inj h)
  rcases consumeAllowance_cases husage with ⟨-, -, rfl⟩ | ⟨-, rfl, -⟩ | ⟨-, -, -, rfl⟩ <;>
    exact ⟨rfl, rfl, rfl⟩

/-- The tables that a reading leaves alone. -/
theorem appendConfirmedReading_rest {input : AppendReading} {readingId : Nat}
    (h : appendConfirmedReading db input = .ok (readingId, db')) :
    db'.grants = db.grants ∧ db'.usages = db.usages ∧ db'.bills = db.bills := by
  obtain ⟨-, -, ⟨rfl, -⟩ | ⟨-, -, -, rfl⟩⟩ := appendConfirmedReading_ok h <;> exact ⟨rfl, rfl, rfl⟩

/-- The tables that a bill leaves alone. -/
theorem createOverMileageBill_rest {review : Review} {reviewId : Nat} {amount confirmedAt : Int}
    {billId : Option Nat}
    (h : createOverMileageBill db review reviewId amount confirmedAt = .ok (billId, db')) :
    db'.grants = db.grants ∧ db'.usages = db.usages ∧ db'.readings = db.readings := by
  rcases createOverMileageBill_cases h with ⟨-, -, rfl⟩ | ⟨-, rfl, -⟩ | ⟨-, -, -, _, rfl, -⟩ <;>
    exact ⟨rfl, rfl, rfl⟩

/-- The results of the successive calls of a settlement. -/
structure Settling (db db' : Db) (input : SettleMileageReview) (review : Review) (grant : Grant)
    (settled : Settled) : Prop where
  row : (findOrCreateMileageGrant db review).1 = grant ∧
    (findOrCreateMileageGrant db review).2.1 = settled.grantId
  amounts : settled.settlement.consumedAllowanceKm = min review.drivenKm grant.allowedKm ∧
    settled.settlement.overMileageAmount =
      max (review.drivenKm - grant.allowedKm) 0 * db.order.overMileageFeeAmount
  entitlement : ∃ dbG dbC, Drawn db dbG dbC review input.reviewId grant settled ∧
    db'.grants = dbC.grants ∧ db'.usages = dbC.usages
  reading : ∃ dbC dbR, dbC.readings = db.readings ∧ dbC.vehicle = db.vehicle ∧
    appendConfirmedReading dbC (review.monthlyReading input.reviewId) =
      .ok (settled.readingId, dbR) ∧
    db'.readings = dbR.readings
  bill : ∃ dbR dbB, dbR.bills = db.bills ∧
    createOverMileageBill dbR review input.reviewId settled.settlement.overMileageAmount
      input.confirmedAt = .ok (settled.billId, dbB) ∧
    db'.bills = dbB.bills
  reviews : ∃ next, db'.reviews = db.reviews.modify input.reviewId (·.confirm settled) ++ next ∧
    ∀ r ∈ next, r.status ≠ .confirmed

/-- A voiding of the review that has just been settled. -/
structure VoidsSettled (review : Review) (reviewId : Nat) (input : VoidMileageReview) : Prop where
  reviewId : input.reviewId = reviewId
  reason : Texts.trim input.reason ≠ ""
  lockVersion : input.expectedLockVersion = review.lockVersion + 1
  safe : isSafeInteger input.expectedLockVersion = true

theorem settleReview_settling {input : SettleMileageReview} {review : Review}
    (hreview : findReview db input.reviewId = .ok review) (hopen : review.status ≠ .confirmed)
    (h : settleReview db input = .ok db') :
    ∃ grant settled, Settling db db' input review grant settled := by
  rw [settleReview] at h
  obtain ⟨-, -, h⟩ := bind_ok h
  rw [bind_eq hreview, if_neg (by simpa using hopen)] at h
  obtain ⟨⟨submitted, readingAt⟩, hconfirmable, h⟩ := bind_ok h
  simp only [require_bind] at h
  obtain ⟨-, h⟩ := h
  obtain ⟨⟨settled, dbS⟩, hparts, h⟩ := bind_ok h
  obtain ⟨next, rfl, hnext⟩ := createNextReview_rest h
  rw [settleParts] at hparts
  generalize hgrant : findOrCreateMileageGrant db review = row at hparts
  obtain ⟨grant, grantId, dbG⟩ := row
  obtain ⟨allowance, hallowance, hparts⟩ := bind_ok hparts
  obtain ⟨settlement, hsettlement, hparts⟩ := bind_ok hparts
  obtain ⟨⟨usageId, dbC⟩, hconsume, hparts⟩ := bind_ok hparts
  obtain ⟨⟨readingId, dbR⟩, hreading, hparts⟩ := bind_ok hparts
  obtain ⟨⟨billId, dbB⟩, hbill, hparts⟩ := bind_ok hparts
  obtain ⟨rfl, rfl⟩ := Prod.mk.inj (Except.ok.inj hparts)
  obtain ⟨-, hsubmitted, hreadingAt⟩ := assertConfirmable_ok hconfirmable
  have hdriven : review.drivenKm = submitted - review.baselineMileageKm := by
    rw [Review.drivenKm, hsubmitted, Option.getD_some]
  have hallowed : grant.allowedKm = allowance := by
    rw [Grant.allowedKm, (decimalToSafeMileage_iff.1 hallowance).1, Option.getD_some]
    omega
  have hmonthly : review.monthlyReading input.reviewId = ⟨true, .monthlyReview,
      s!"{input.reviewId}:v{review.version}", readingAt, submitted⟩ := by
    rw [Review.monthlyReading, hsubmitted, hreadingAt, Option.getD_some, Option.getD_some]
  obtain ⟨hrow, husages, hbills, hreadings, hvehicle, horder, -⟩ :=
    findOrCreateMileageGrant_rest hgrant
  obtain ⟨hconsumeBills, hconsumeReadings, hconsumeVehicle⟩ := consumeAndExpireGrant_rest hconsume
  obtain ⟨hreadingGrants, hreadingUsages, hreadingBills⟩ := appendConfirmedReading_rest hreading
  obtain ⟨hbillGrants, hbillUsages, hbillReadings⟩ := createOverMileageBill_rest hbill
  obtain ⟨hpos, hle, hconsumed, hover⟩ := calculateMileageSettlement_ok hsettlement
  have hreviews : dbB.reviews = db.reviews :=
    (createOverMileageBill_aside hbill).reviews.trans
      ((appendConfirmedReading_aside hreading).reviews.trans
        ((consumeAndExpireGrant_ok hconsume).1.reviews.trans
          (findOrCreateMileageGrant_sameReviews hgrant).reviews))
  refine ⟨grant, ⟨⟨input.confirmedAt, input.userId, input.idempotencyKey⟩, settlement, allowance,
    readingId, grantId, usageId, billId⟩, ?_⟩
  constructor
  · exact ⟨by rw [hgrant], by rw [hgrant]⟩
  · rw [hdriven, hallowed, ← horder]
    exact ⟨hconsumed, hover⟩
  · refine ⟨dbG, dbC, ⟨hrow, husages, hallowance, ?_, hconsume⟩, ?_, ?_⟩
    · dsimp only
      rw [hconsumed]
      omega
    · exact hbillGrants.trans hreadingGrants
    · exact hbillUsages.trans hreadingUsages
  · refine ⟨dbC, dbR, hconsumeReadings.trans hreadings, hconsumeVehicle.trans hvehicle, ?_,
      hbillReadings⟩
    rw [hmonthly]
    exact hreading
  · exact ⟨dbR, dbB, hreadingBills.trans (hconsumeBills.trans hbills), hbill, rfl⟩
  · refine ⟨next, ?_, hnext⟩
    dsimp only
    rw [hreviews]

/-! ## The voiding -/

/-- A voiding that is accepted comes down to its guards and its two parts that can fail. -/
theorem voidAndReopenReview_iff {input : VoidMileageReview} {review : Review}
    {reviewId readingId : Nat} (hinput : VoidsSettled review reviewId input) {settled : Review}
    (hreview : findReview db reviewId = .ok settled) (hstatus : settled.status = .confirmed)
    (hlock : settled.lockVersion = review.lockVersion + 1)
    (hreading : settled.mileageReadingId = some readingId) :
    voidAndReopenReview db input = .ok db' ↔
      (∀ row ∈ db.reviews, laterReview settled.cycleNo row = true → row.status ≠ .confirmed) ∧
      (settled.overMileageBillId.bind (db.bills[·]?)).any paidBill = false ∧
      ∃ dbE dbR, restoreEntitlement db settled = .ok dbE ∧
        voidReadingAndRestoreProjection
          { dbE with bills := cancelBill dbE.bills settled.overMileageBillId input.voidedAt }
          readingId input.voidedAt = .ok dbR ∧
        db' = { dbR with
          reviews := reopenReviews dbR.reviews settled reviewId input.voidedAt } := by
  obtain ⟨rfl, hreason, hversion, hsafe⟩ := hinput
  have hpos : 0 ≤ input.expectedLockVersion := by omega
  have hlock' : (settled.lockVersion : Int) = input.expectedLockVersion := by omega
  simp only [voidAndReopenReview, require_bind, bind_eq hreview, hstatus,
    bne_iff_ne, hreason, hsafe, hpos, hlock', Bool.and_eq_true, decide_eq_true_eq, beq_iff_eq,
    Bool.not_eq_true', List.any_eq_false, ne_eq, not_false_eq_true, true_and, and_self, not_and]
  refine and_congr_right fun _ => and_congr_right fun _ => ?_
  constructor
  · intro h
    obtain ⟨dbE, hentitlement, h⟩ := bind_ok h
    obtain ⟨_, hid, h⟩ := found_bind.1 h
    obtain rfl := Option.some.inj (hreading.symm.trans hid)
    obtain ⟨dbR, hvoid, h⟩ := bind_ok h
    exact ⟨dbE, dbR, hentitlement, hvoid, (Except.ok.inj h).symm⟩
  · rintro ⟨dbE, dbR, hentitlement, hvoid, rfl⟩
    rw [bind_eq hentitlement]
    refine found_bind.2 ⟨readingId, hreading, ?_⟩
    rw [bind_eq hvoid]

/-- What was there before the settlement is there after the voiding. -/
structure Restored (before after : Db) (grant : Grant) (grantId : Nat) : Prop where
  grant : GrantBack grant grantId after
  usages : numbered liveUsage after.usages = numbered liveUsage before.usages
  bills : numbered liveBill after.bills = numbered liveBill before.bills
  vehicle : after.vehicle.currentMileageKm = before.vehicle.currentMileageKm

/-- The rows before the settlement from which it can be undone. -/
structure Undoable (db : Db) (review : Review) (reviewId : Nat) (grant : Grant) : Prop where
  active : grant.status = .active
  remaining : grant.remainingAmount ≠ none
  used : isSafeInteger (grant.usedKm + min review.drivenKm grant.allowedKm) = true
  usage : 0 < min review.drivenKm grant.allowedKm → UsageFree db reviewId review.version
  bill : 0 < max (review.drivenKm - grant.allowedKm) 0 * db.order.overMileageFeeAmount →
    ∀ bill id, findOverMileageBill db.bills reviewId review.version = some (bill, id) →
      liveBill bill = false ∧ paidBill bill = false
  reading : ∃ previous, precedingReading (review.monthlyReading reviewId) db.readings =
    some previous ∧ previous.1.mileageKm = db.vehicle.currentMileageKm
  later : ∀ row ∈ db.reviews, laterReview review.cycleNo row = true → row.status ≠ .confirmed

/-- A settlement confirms no other review. -/
theorem later_settled_iff {reviews next : List Review} {review : Review} {reviewId : Nat}
    (settled : Settled) (hrow : reviews[reviewId]? = some review)
    (hnext : ∀ r ∈ next, r.status ≠ .confirmed) :
    (∀ row ∈ reviews.modify reviewId (·.confirm settled) ++ next,
      laterReview review.cycleNo row = true → row.status ≠ .confirmed) ↔
    ∀ row ∈ reviews, laterReview review.cycleNo row = true → row.status ≠ .confirmed := by
  constructor
  · intro h row hmem hlater
    rcases mem_modify reviewId (·.confirm settled) hmem with hmem | hmem
    · exact h row (List.mem_append_left _ hmem) hlater
    · exact absurd rfl (h _ (List.mem_append_left _ hmem) hlater)
  · intro h row hmem hlater
    rcases List.mem_append.1 hmem with hmem | hmem
    · obtain ⟨j, hj⟩ := List.mem_iff_getElem?.1 hmem
      rcases get_modify hj with ⟨-, hj⟩ | ⟨-, review', hrow', rfl⟩
      · exact h row (List.mem_of_getElem? hj) hlater
      · obtain rfl := Option.some.inj (hrow.symm.trans hrow')
        simp [laterReview, Review.confirm] at hlater
    · exact hnext row hmem

/-- A settlement that is voided leaves the grant, the live usages and bills and the vehicle as they
were exactly when the grant was active with an amount remaining of its own and nothing else stood
for the review. -/
theorem settlement_undone_iff {settle : SettleMileageReview} {void : VoidMileageReview}
    {review : Review} (hreview : findReview db settle.reviewId = .ok review)
    (hopen : review.status ≠ .confirmed) (hsettle : settleReview db settle = .ok db₁)
    (hvoid : VoidsSettled review settle.reviewId void) :
    (∃ db₂, voidAndReopenReview db₁ void = .ok db₂ ∧ Restored db db₂
        (findOrCreateMileageGrant db review).1 (findOrCreateMileageGrant db review).2.1) ↔
      Undoable db review settle.reviewId (findOrCreateMileageGrant db review).1 := by
  obtain ⟨grant, settled, h⟩ := settleReview_settling hreview hopen hsettle
  obtain ⟨⟨rfl, hgrantId⟩, ⟨hconsumed, hover⟩, ⟨dbG, dbC, hdrawn, hgrants, husages⟩, hreading,
    hbill, next, hreviews, hnext⟩ := h
  obtain ⟨dbC', dbR, hreadings₀, hvehicle₀, hreading, hreadings⟩ := hreading
  obtain ⟨dbR', dbB, hbills₀, hbill, hbills⟩ := hbill
  rw [hgrantId]
  obtain ⟨hrow, hlive⟩ := findReview_ok hreview
  have hsettled : findReview db₁ settle.reviewId = .ok (review.confirm settled) := by
    have hget := get_append_rows next (get_modify_self (f := (·.confirm settled)) hrow)
    rw [findReview, found_ok, hreviews, hget, Option.filter_eq_some_iff]
    exact ⟨rfl, Option.isNone_iff_eq_none.2 hlive⟩
  have hentitlement := hdrawn.undone_iff hgrants husages
  rw [hconsumed] at hentitlement
  have hbill := bill_undone_iff hbill hbills void.voidedAt
  rw [hover, hbills₀] at hbill
  have hread (dbE : Db) (bills : List Bill) (h : dbE.readings = db₁.readings) :=
    @reading_undone_iff _ _ { dbE with bills := bills } _ _ hreading (h.trans hreadings)
      void.voidedAt
  simp only [hreadings₀, hvehicle₀] at hread
  have hlater := later_settled_iff settled hrow hnext
  rw [← hreviews] at hlater
  simp only [voidAndReopenReview_iff hvoid hsettled rfl rfl rfl]
  constructor
  · rintro ⟨db₂, ⟨hnolater, hunpaid, dbE, dbV, hE, hV, rfl⟩, ⟨row, hback⟩, hlive, hliveBills, hkm⟩
    obtain ⟨hEbills, hEreadings, -⟩ := restoreEntitlement_rest hE
    have hkm' := (hread dbE _ hEreadings).1 ⟨dbV, hV, hkm⟩
    obtain ⟨-, -, _, -, rfl⟩ := voidReadingAndRestoreProjection_iff.1 hV
    obtain ⟨hactive, hremaining, hsafe, hfree⟩ := hentitlement.1 ⟨dbE, hE, ⟨row, hback⟩, hlive⟩
    rw [← hEbills] at hbill
    exact ⟨hactive, hremaining, hsafe, hfree, hbill.1 ⟨by rw [hEbills]; exact hunpaid, hliveBills⟩,
      hkm', hlater.1 hnolater⟩
  · rintro ⟨hactive, hremaining, hsafe, hfree, hbills', hkm, hnolater⟩
    obtain ⟨dbE, hE, hback, hlive⟩ := hentitlement.2 ⟨hactive, hremaining, hsafe, hfree⟩
    obtain ⟨hEbills, hEreadings, -⟩ := restoreEntitlement_rest hE
    obtain ⟨dbV, hV, hkm'⟩ := (hread dbE _ hEreadings).2 hkm
    obtain ⟨hunpaid, hliveBills⟩ := hbill.2 hbills'
    refine ⟨_, ⟨hlater.2 hnolater, hunpaid, dbE, dbV, hE, hV, rfl⟩, ?_⟩
    obtain ⟨-, -, _, -, rfl⟩ := voidReadingAndRestoreProjection_iff.1 hV
    rw [← hEbills] at hliveBills
    exact ⟨hback, hlive, hliveBills, hkm'⟩

/-- The settlement of the sample is voided a day later. -/
def sampleVoiding (deliveredAt : Int) : VoidMileageReview :=
  ⟨5, "typo", 0, deliveredAt + 33 * dayMs⟩

/-- The submitted review of a sample. -/
theorem sample_review {db : Db} (h : (findReview db 0).toOption.any
    (fun r => r.status == .pendingReview && r.lockVersion == 4) = true) :
    ∃ review, findReview db (sampleSettlement noon).reviewId = .ok review ∧
      review.status ≠ .confirmed ∧
      VoidsSettled review (sampleSettlement noon).reviewId (sampleVoiding noon) := by
  obtain ⟨review, hreview, hrow⟩ := ok_of_any h
  simp only [Bool.and_eq_true, beq_iff_eq] at hrow
  exact ⟨review, hreview, by simp [hrow.1], rfl, by decide +kernel, by simp [hrow.2, sampleVoiding],
    by decide +kernel⟩

/-- The order of the sample, whose grant is active. -/
theorem settlement_undone_sample : ∃ db₁ review grant grantId,
    settleReview (sampleDb noon) (sampleSettlement noon) = .ok db₁ ∧
    ((∃ db₂, voidAndReopenReview db₁ (sampleVoiding noon) = .ok db₂ ∧
        Restored (sampleDb noon) db₂ grant grantId) ↔
      Undoable (sampleDb noon) review (sampleSettlement noon).reviewId grant) := by
  obtain ⟨review, hreview, hopen, hvoid⟩ := @sample_review (sampleDb noon) (by decide +kernel)
  obtain ⟨db₁, hsettle, -⟩ := ok_of_any (x := settleReview (sampleDb noon) (sampleSettlement noon))
    (p := fun _ => true) (by decide +kernel)
  exact ⟨db₁, review, _, _, hsettle, settlement_undone_iff hreview hopen hsettle hvoid⟩

/-- The order of the sample after the expiry of its grants. -/
def expiredDb : Db := (sampleDb noon).step (.expireEntitlements (noon + 32 * dayMs))

/-- An expired grant that a settlement has drawn on is active after the voiding. -/
theorem expired_grant_not_undone : ¬∀ (db db₁ : Db) (settle : SettleMileageReview)
    (void : VoidMileageReview) (review : Review), findReview db settle.reviewId = .ok review →
    review.status ≠ .confirmed → settleReview db settle = .ok db₁ →
    VoidsSettled review settle.reviewId void →
    ∃ db₂, voidAndReopenReview db₁ void = .ok db₂ ∧ Restored db db₂
      (findOrCreateMileageGrant db review).1 (findOrCreateMileageGrant db review).2.1 := by
  intro h
  obtain ⟨review, hreview, hopen, hvoid⟩ := @sample_review expiredDb (by decide +kernel)
  obtain ⟨db₁, hsettle, hrow⟩ := ok_of_any (x := settleReview expiredDb (sampleSettlement noon))
    (p := fun db₁ => (voidAndReopenReview db₁ (sampleVoiding noon)).toOption.any fun db₂ =>
      (findReview expiredDb 0).toOption.any fun review =>
        (findOrCreateMileageGrant expiredDb review).1.status == .expired &&
          db₂.grants[(findOrCreateMileageGrant expiredDb review).2.1]?.all (·.status == .active))
    (by decide +kernel)
  obtain ⟨db₂, hdb₂, hrow⟩ := ok_of_any hrow
  have hreview' : findReview expiredDb 0 = .ok review := hreview
  rw [hreview'] at hrow
  simp only [Except.toOption, Option.any_some, Bool.and_eq_true, beq_iff_eq] at hrow
  obtain ⟨db₂', hdb₂', hback⟩ := h expiredDb db₁ (sampleSettlement noon) (sampleVoiding noon) review
    hreview hopen hsettle hvoid
  obtain rfl := Except.ok.inj (hdb₂.symm.trans hdb₂')
  obtain ⟨row, hget, -, -, hstatus⟩ := hback.grant
  rw [hget, Option.all_some, beq_iff_eq, hstatus, hrow.1] at hrow
  cases hrow.2

end SubscriptionSaas.Mileage
