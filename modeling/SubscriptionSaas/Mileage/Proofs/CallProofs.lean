import SubscriptionSaas.Mileage.Proofs.CalendarProofs
import SubscriptionSaas.Mileage.Reviews

/-!
# What a call does to the reviews

One call leaves the reviews alone, edits reviews that are not final, delivers the order, settles a
review or voids one (`call_reviews`). What holds of the reviews after every run is derived from these
cases only.
-/

namespace SubscriptionSaas.Mileage

open Results Tables

variable {db db' : Db}

@[simp] theorem found_ok {α : Type} {row : Option α} {failure : Failure} {a : α} :
    found row failure = .ok a ↔ row = some a := by
  cases row <;> simp [found]

/-- A row that was needed was there. -/
@[simp] theorem found_bind {α β : Type} {row : Option α} {failure : Failure}
    {f : α → Except Failure β} {b : β} :
    (found row failure >>= f) = .ok b ↔ ∃ a, row = some a ∧ f a = .ok b := by
  constructor
  · intro h
    obtain ⟨a, ha, hf⟩ := bind_ok h
    exact ⟨a, found_ok.1 ha, hf⟩
  · rintro ⟨a, rfl, hf⟩
    exact hf

theorem findLast_some {α : Type} {p : α → Bool} {rows : List α} {a : α} {i : Nat}
    (h : findLast p rows = some (a, i)) : rows[i]? = some a ∧ p a = true := by
  have hmem := List.mem_of_getLast? h
  obtain ⟨hmem, hp⟩ := List.mem_filter.1 hmem
  exact ⟨List.mk_mem_zipIdx_iff_getElem?.1 hmem, hp⟩

theorem findLast_none {α : Type} {p : α → Bool} {rows : List α} (h : findLast p rows = none) :
    ∀ a ∈ rows, p a = false := by
  intro a ha
  obtain ⟨i, hi⟩ := List.mem_iff_getElem?.1 ha
  rw [findLast, List.getLast?_eq_none_iff, List.filter_eq_nil_iff] at h
  exact Bool.eq_false_iff.2 (h (a, i) (List.mk_mem_zipIdx_iff_getElem?.2 hi))

theorem findFirst_some {α : Type} {p : α → Bool} {rows : List α} {a : α} {i : Nat}
    (h : findFirst p rows = some (a, i)) : rows[i]? = some a ∧ p a = true :=
  ⟨List.mk_mem_zipIdx_iff_getElem?.1 (List.mem_of_find?_eq_some h),
    @List.find?_some _ (fun row : α × Nat => p row.1) _ _ h⟩

theorem findFirst_none {α : Type} {p : α → Bool} {rows : List α} (h : findFirst p rows = none) :
    ∀ a ∈ rows, p a = false := by
  intro a ha
  obtain ⟨i, hi⟩ := List.mem_iff_getElem?.1 ha
  have hrow := List.find?_eq_none.1 h (a, i) (List.mk_mem_zipIdx_iff_getElem?.2 hi)
  exact Bool.eq_false_iff.2 hrow

/-! ## Frames -/

/-- Only usages, bills, readings and the vehicle differ. -/
structure Db.Aside (db db' : Db) : Prop where
  order : db'.order = db.order
  accounts : db'.accounts = db.accounts
  grants : db'.grants = db.grants
  reviews : db'.reviews = db.reviews

theorem Db.Aside.refl (db : Db) : db.Aside db := ⟨rfl, rfl, rfl, rfl⟩

/-- The reviews and the order stay as they are. -/
structure Db.SameReviews (db db' : Db) : Prop where
  order : db'.order = db.order
  reviews : db'.reviews = db.reviews

theorem Db.SameReviews.refl (db : Db) : db.SameReviews db := ⟨rfl, rfl⟩

theorem Db.SameReviews.trans {db₁ db₂ db₃ : Db} (h : db₁.SameReviews db₂)
    (h' : db₂.SameReviews db₃) : db₁.SameReviews db₃ :=
  ⟨h'.order.trans h.order, h'.reviews.trans h.reviews⟩

theorem Db.Aside.sameReviews (h : db.Aside db') : db.SameReviews db' := ⟨h.order, h.reviews⟩

theorem foldl_sameReviews {α : Type} {f : Db → α → Db} (hf : ∀ (db : Db) a, db.SameReviews (f db a))
    (db : Db) (inputs : List α) : db.SameReviews (inputs.foldl f db) := by
  induction inputs generalizing db with
  | nil => exact .refl db
  | cons input inputs ih => exact (hf db input).trans (ih _)

theorem ensureGrant_sameReviews (accountId : Nat) (periodStart periodEnd : Int) (db : Db)
    (input : GrantInput) : db.SameReviews (ensureGrant accountId periodStart periodEnd db input) := by
  unfold ensureGrant
  split <;> exact ⟨rfl, rfl⟩

theorem ensureRenewalGrant_sameReviews (accountId : Nat) (period : Int × Int) (db : Db)
    (input : GrantInput) : db.SameReviews (ensureRenewalGrant accountId period db input) := by
  unfold ensureRenewalGrant
  split <;> exact ⟨rfl, rfl⟩

theorem replacePeriod_sameReviews (accountId : Nat) (effectiveDate : Int)
    (targetGrants : List GrantInput) (db : Db) (periodStart : Int) :
    db.SameReviews (replacePeriod accountId effectiveDate targetGrants db periodStart) := by
  simp only [replacePeriod]
  split <;> exact ⟨rfl, rfl⟩

theorem ensureAccount_sameReviews (db : Db) (periodStart periodEnd : Int) :
    db.SameReviews (ensureAccount db periodStart periodEnd).2 := by
  unfold ensureAccount
  split
  · exact ⟨rfl, rfl⟩
  · split <;> exact ⟨rfl, rfl⟩

theorem ensureInitialEntitlements_sameReviews (h : ensureInitialEntitlements db = .ok db') :
    db.SameReviews db' := by
  simp only [ensureInitialEntitlements, require_bind, found_bind] at h
  obtain ⟨-, snapshot, -, -, h⟩ := h
  obtain rfl := Except.ok.inj h
  exact (ensureAccount_sameReviews _ _ _).trans
    (foldl_sameReviews (ensureGrant_sameReviews _ _ _) _ _)

theorem generateOrderEntitlements_sameReviews (h : generateOrderEntitlements db = .ok db') :
    db.SameReviews db' := by
  rw [generateOrderEntitlements] at h
  obtain ⟨-, -, h⟩ := bind_ok h
  split at h
  · obtain rfl := Except.ok.inj h
    exact .refl db
  · obtain ⟨db₁, hensure, h⟩ := bind_ok h
    refine (ensureInitialEntitlements_sameReviews hensure).trans ?_
    split at h <;> obtain rfl := Except.ok.inj h <;> exact ⟨rfl, rfl⟩

theorem createMonthlyRenewalGrants_sameReviews {asOfDate : Int} {inputs : List GrantInput}
    (h : createMonthlyRenewalGrants db asOfDate inputs = .ok db') : db.SameReviews db' := by
  rw [createMonthlyRenewalGrants] at h
  obtain ⟨-, -, h⟩ := bind_ok h
  simp only [found_bind, require_bind] at h
  obtain ⟨d, -, account, -, latest, -, -, h⟩ := h
  split at h
  · obtain rfl := Except.ok.inj h
    exact .refl db
  · obtain rfl := Except.ok.inj h
    exact foldl_sameReviews (ensureRenewalGrant_sameReviews _ _) _ _

theorem consumeOrderEntitlement_sameReviews {input : ConsumeEntitlement}
    (h : consumeOrderEntitlement db input = .ok db') : db.SameReviews db' := by
  simp only [consumeOrderEntitlement, require_bind] at h
  obtain ⟨-, -, h⟩ := h
  split at h
  · obtain rfl := Except.ok.inj h
    exact .refl db
  · simp only [found_bind, require_bind] at h
    obtain ⟨account, -, -, grant, -, -, -, periodEnd, -, -, remaining, -, -, h⟩ := h
    obtain rfl := Except.ok.inj h
    exact ⟨rfl, rfl⟩

theorem activateVehicleSwap_sameReviews {source : Int × Int} {effectiveDate : Int}
    {targetGrants : List GrantInput}
    (h : activateVehicleSwap db source effectiveDate targetGrants = .ok db') :
    db.SameReviews db' := by
  rw [activateVehicleSwap] at h
  split at h
  · obtain rfl := Except.ok.inj h
    exact .refl db
  · simp only [replaceFutureGrantsForVehicleSwap, found_bind, require_bind] at h
    obtain ⟨account, -, -, h⟩ := h
    obtain rfl := Except.ok.inj h
    exact foldl_sameReviews (replacePeriod_sameReviews _ _ _) _ _

theorem appendConfirmedReading_aside {input : AppendReading} {readingId : Nat}
    (h : appendConfirmedReading db input = .ok (readingId, db')) : db.Aside db' := by
  simp only [appendConfirmedReading, require_bind] at h
  obtain ⟨-, -, h⟩ := h
  split at h
  · simp only [require_bind] at h
    obtain ⟨-, -, h⟩ := h
    obtain ⟨-, rfl⟩ := Prod.mk.inj (Except.ok.inj h)
    exact .refl db
  · simp only [require_bind] at h
    obtain ⟨-, -, h⟩ := h
    obtain ⟨-, rfl⟩ := Prod.mk.inj (Except.ok.inj h)
    exact ⟨rfl, rfl, rfl, rfl⟩

theorem voidReadingAndRestoreProjection_aside {readingId : Nat} {voidedAt : Int}
    (h : voidReadingAndRestoreProjection db readingId voidedAt = .ok db') : db.Aside db' := by
  simp only [voidReadingAndRestoreProjection, found_bind, require_bind] at h
  obtain ⟨reading, -, -, previous, -, h⟩ := h
  obtain rfl := Except.ok.inj h
  exact ⟨rfl, rfl, rfl, rfl⟩

theorem createOverMileageBill_aside {review : Review} {reviewId : Nat} {amount confirmedAt : Int}
    {billId : Option Nat}
    (h : createOverMileageBill db review reviewId amount confirmedAt = .ok (billId, db')) :
    db.Aside db' := by
  rw [createOverMileageBill] at h
  split at h
  · obtain ⟨-, rfl⟩ := Prod.mk.inj (Except.ok.inj h)
    exact .refl db
  · dsimp only at h
    split at h
    · simp only [require_bind] at h
      obtain ⟨-, h⟩ := h
      obtain ⟨-, rfl⟩ := Prod.mk.inj (Except.ok.inj h)
      exact .refl db
    · obtain ⟨-, rfl⟩ := Prod.mk.inj (Except.ok.inj h)
      exact ⟨rfl, rfl, rfl, rfl⟩

theorem consumeAllowance_aside (db : Db) (reviewId version grantId : Nat) (km : Int) :
    db.Aside (consumeAllowance db reviewId version grantId km).2 := by
  simp only [consumeAllowance]
  split
  · split <;> exact ⟨rfl, rfl, rfl, rfl⟩
  · exact .refl db

/-- Either a grant covers the period of the review, or one is made for it. -/
theorem findOrCreateMileageGrant_cases (db : Db) (review : Review) {grant : Grant} {grantId : Nat}
    (h : findOrCreateMileageGrant db review = (grant, grantId, db')) :
    (db' = db ∧ findLast (coversPeriod (reviewEntitlementPeriod review.periodStart
        review.scheduledReviewAt)) db.grants = some (grant, grantId)) ∨
      (findLast (coversPeriod (reviewEntitlementPeriod review.periodStart
          review.scheduledReviewAt)) db.grants = none ∧ grantId = db.grants.length ∧
        db'.grants = db.grants ++ [grant] ∧ db.SameReviews db' ∧
        (∃ accountId, grant = backfilledGrant db.order accountId
          (reviewEntitlementPeriod review.periodStart review.scheduledReviewAt)) ∧
        (∀ a ∈ db.accounts, a ∈ db'.accounts) ∧ ∃ a ∈ db'.accounts, activeAccount a = true) := by
  simp only [findOrCreateMileageGrant] at h
  split at h
  · rename_i existing id hfind
    obtain ⟨hgrant, hrest⟩ := Prod.mk.inj h
    obtain ⟨hid, hdb⟩ := Prod.mk.inj hrest
    subst hgrant hid hdb
    exact .inl ⟨rfl, hfind⟩
  · rename_i hfind
    obtain ⟨hgrant, hrest⟩ := Prod.mk.inj h
    obtain ⟨hid, hdb⟩ := Prod.mk.inj hrest
    subst hgrant hid hdb
    right
    unfold findOrCreateAccount
    split
    · rename_i account id haccount
      obtain ⟨hmem, hactive⟩ := findLast_some haccount
      exact ⟨hfind, rfl, rfl, ⟨rfl, rfl⟩, ⟨id, rfl⟩, fun a ha => ha,
        account, List.mem_of_getElem? hmem, hactive⟩
    · exact ⟨hfind, rfl, rfl, ⟨rfl, rfl⟩, ⟨_, rfl⟩, fun a ha => List.mem_append_left _ ha,
        _, List.mem_append_right _ (List.mem_singleton_self _), rfl⟩

theorem findOrCreateMileageGrant_sameReviews {review : Review} {grant : Grant} {grantId : Nat}
    (h : findOrCreateMileageGrant db review = (grant, grantId, db')) : db.SameReviews db' := by
  rcases findOrCreateMileageGrant_cases db review h with ⟨rfl, -⟩ | ⟨-, -, -, hsame, -⟩
  · exact .refl db'
  · exact hsame

theorem calculateMileageSettlement_usage {baseline submitted allowance fee : Int}
    {settlement : MileageSettlement}
    (h : calculateMileageSettlement baseline submitted allowance fee = .ok settlement) :
    settlement.actualUsageKm = submitted - baseline := by
  rw [calculateMileageSettlement] at h
  obtain ⟨-, -, h⟩ := bind_ok h
  simp only [require_bind] at h
  obtain ⟨-, -, h⟩ := h
  obtain rfl := Except.ok.inj h
  rfl

/-- What a settlement does to its grant. -/
def Grant.consume (status : EntitlementGrantStatus) (used : Int) (grant : Grant) : Grant :=
  { grant with remainingAmount := some 0, status := status, usedAmount := some used }

theorem consumeAndExpireGrant_ok {review : Review} {reviewId grantId : Nat} {grant : Grant}
    {consumed unused : Int} {usageId : Option Nat}
    (h : consumeAndExpireGrant db review reviewId grant grantId consumed unused =
      .ok (usageId, db')) :
    db.SameReviews db' ∧ db'.accounts = db.accounts ∧ ∃ status used, status ≠ .cancelled ∧
      db'.grants = db.grants.modify grantId (Grant.consume status used) := by
  rw [consumeAndExpireGrant] at h
  obtain ⟨existingUsed, -, h⟩ := bind_ok h
  have haside := consumeAllowance_aside db reviewId review.version grantId consumed
  generalize consumeAllowance db reviewId review.version grantId consumed = row at h haside
  obtain ⟨usageId', db₁⟩ := row
  obtain ⟨-, rfl⟩ := Prod.mk.inj (Except.ok.inj h)
  refine ⟨⟨haside.order, haside.reviews⟩, haside.accounts, if 0 < unused then .expired
    else .exhausted, 100 * (existingUsed + consumed), ?_, ?_⟩
  · split <;> simp
  · exact congrArg (List.modify · grantId _) haside.grants

/-- What the parts of a settlement have done: they have taken a grant and consumed it. -/
structure Consumed (db db' : Db) (review : Review) (grantId : Nat) : Prop where
  same : db.SameReviews db'
  grants : ∃ (grant : Grant) (db₁ : Db) (status : EntitlementGrantStatus) (used : Int),
    findOrCreateMileageGrant db review = (grant, grantId, db₁) ∧ status ≠ .cancelled ∧
      db'.accounts = db₁.accounts ∧
      db'.grants = db₁.grants.modify grantId (Grant.consume status used)

theorem settleParts_ok {input : SettleMileageReview} {review : Review}
    {submittedMileageKm readingAt : Int} {settled : Settled}
    (h : settleParts db input review submittedMileageKm readingAt = .ok (settled, db')) :
    Consumed db db' review settled.grantId ∧
      settled.settlement.actualUsageKm = submittedMileageKm - review.baselineMileageKm := by
  rw [settleParts] at h
  generalize hgrant : findOrCreateMileageGrant db review = row at h
  obtain ⟨grant, grantId, db₁⟩ := row
  obtain ⟨allowance, -, h⟩ := bind_ok h
  obtain ⟨settlement, hsettlement, h⟩ := bind_ok h
  obtain ⟨⟨usageId, db₂⟩, hconsume, h⟩ := bind_ok h
  obtain ⟨⟨readingId, db₃⟩, hreading, h⟩ := bind_ok h
  obtain ⟨⟨billId, db₄⟩, hbill, h⟩ := bind_ok h
  obtain ⟨rfl, rfl⟩ := Prod.mk.inj (Except.ok.inj h)
  obtain ⟨hsame, haccounts, status, used, hstatus, hgrants⟩ := consumeAndExpireGrant_ok hconsume
  have hreading := appendConfirmedReading_aside hreading
  have hbill := createOverMileageBill_aside hbill
  refine ⟨⟨?_, grant, db₁, status, used, hgrant, hstatus, ?_, ?_⟩,
    calculateMileageSettlement_usage hsettlement⟩
  · exact (findOrCreateMileageGrant_sameReviews hgrant).trans
      (hsame.trans (hreading.sameReviews.trans hbill.sameReviews))
  · exact (hbill.accounts.trans hreading.accounts).trans haccounts
  · exact (hbill.grants.trans hreading.grants).trans hgrants

theorem cancelUsage_aside {usageId : Option Nat} {used restored : Int}
    (h : cancelUsage db usageId used = .ok (restored, db')) : db.Aside db' := by
  cases usageId with
  | none =>
    obtain ⟨-, rfl⟩ := Prod.mk.inj (Except.ok.inj h)
    exact .refl db
  | some usageId =>
    simp only [cancelUsage, found_bind] at h
    obtain ⟨usage, -, h⟩ := h
    obtain ⟨amount, -, h⟩ := bind_ok h
    simp only [require_bind] at h
    obtain ⟨-, h⟩ := h
    obtain ⟨-, rfl⟩ := Prod.mk.inj (Except.ok.inj h)
    exact ⟨rfl, rfl, rfl, rfl⟩

/-- Voiding gives back what the settlement took. -/
def Grant.restore (remaining used : Int) (grant : Grant) : Grant :=
  { grant with remainingAmount := some remaining, status := .active, usedAmount := some used }

theorem restoreEntitlement_ok {review : Review} (h : restoreEntitlement db review = .ok db') :
    db.SameReviews db' ∧ db'.accounts = db.accounts ∧ ∃ grantId remaining used,
      db'.grants = db.grants.modify grantId (Grant.restore remaining used) := by
  simp only [restoreEntitlement, found_bind] at h
  obtain ⟨grantId, -, allowanceKm, -, grant, -, h⟩ := h
  obtain ⟨used, -, h⟩ := bind_ok h
  obtain ⟨⟨restored, db₁⟩, hcancel, h⟩ := bind_ok h
  obtain rfl := Except.ok.inj h
  have haside := cancelUsage_aside hcancel
  exact ⟨⟨haside.order, haside.reviews⟩, haside.accounts, grantId, 100 * allowanceKm, 100 * restored,
    congrArg (List.modify · grantId _) haside.grants⟩

/-! ## The reviews -/

/-- The review is neither confirmed nor voided. -/
def Review.isOpen (review : Review) : Bool :=
  review.status != .confirmed && review.status != .voided

/-- The columns that are given to a review when it is created. -/
structure Review.Fixed (review review' : Review) : Prop where
  cycleNo : review'.cycleNo = review.cycleNo
  periodStart : review'.periodStart = review.periodStart
  periodEnd : review'.periodEnd = review.periodEnd
  scheduledReviewAt : review'.scheduledReviewAt = review.scheduledReviewAt
  baselineMileageKm : review'.baselineMileageKm = review.baselineMileageKm

/-- A review that is not final may be edited. -/
def Edited (review review' : Review) : Prop :=
  review' = review ∨ (review.isOpen = true ∧ review'.isOpen = true ∧
    review'.deletedAt = review.deletedAt ∧ review.Fixed review')

/-- The review is for this cycle of an order that was delivered at `d`. -/
structure Review.OfCycle (d : Int) (review : Review) : Prop where
  positive : 0 < review.cycleNo
  periodStart : review.periodStart = addShanghaiMonthsClamped d (review.cycleNo - 1)
  periodEnd : review.periodEnd = addShanghaiMonthsClamped d review.cycleNo - 1
  scheduledReviewAt : review.scheduledReviewAt = addShanghaiMonthsClamped d review.cycleNo

/-- A review that has just been created. -/
structure Review.Created (d cycleNo baseline : Int) (review : Review) : Prop where
  ofCycle : review.OfCycle d
  cycleNo : review.cycleNo = cycleNo
  baselineMileageKm : review.baselineMileageKm = baseline
  isOpen : review.isOpen = true
  live : review.deletedAt = none

/-- What a settlement does to the reviews. -/
structure SettledReview (db db' : Db) (reviewId : Nat) : Prop where
  row : ∃ (review : Review) (settled : Settled) (submitted : Int) (next : List Review),
    db.reviews[reviewId]? = some review ∧ review.deletedAt = none ∧ review.isOpen = true ∧
    review.submittedMileageKm = some submitted ∧
    settled.settlement.actualUsageKm = submitted - review.baselineMileageKm ∧
    (∃ db₁, Consumed db db₁ review settled.grantId ∧ db'.accounts = db₁.accounts ∧
      db'.grants = db₁.grants) ∧
    db'.reviews = db.reviews.modify reviewId (·.confirm settled) ++ next ∧
    ∀ r ∈ next, next = [r] ∧
      ∀ d, db.order.actualDeliveryAt = some d → r.Created d (review.cycleNo + 1) submitted

/-- What voiding does to the reviews. -/
structure VoidedReview (db db' : Db) (reviewId : Nat) : Prop where
  row : ∃ (review : Review) (voidedAt : Int), db.reviews[reviewId]? = some review ∧
    review.deletedAt = none ∧ review.status = .confirmed ∧
    (∀ row ∈ db.reviews, review.cycleNo < row.cycleNo → row.deletedAt = none →
      row.status ≠ .confirmed) ∧
    (db'.accounts = db.accounts ∧ ∃ grantId remaining used,
      db'.grants = db.grants.modify grantId (Grant.restore remaining used)) ∧
    db'.reviews = reopenReviews db.reviews review reviewId voidedAt

/-- What a delivery does to the reviews. -/
structure Delivered (db db' : Db) (input : Delivery) : Prop where
  undelivered : db.order.actualDeliveryAt = none
  actualDeliveryAt : db'.order.actualDeliveryAt = some input.deliveredAt
  reviews : db.reviews = [] →
    ∃ first, db'.reviews = [first] ∧ first.Created input.deliveredAt 1 input.handoverMileageKm

inductive ReviewsStep (db db' : Db) : Prop
  | kept (hdelivery : db'.order.actualDeliveryAt = db.order.actualDeliveryAt)
      (hreviews : db'.reviews = db.reviews)
  | edited (hdelivery : db'.order.actualDeliveryAt = db.order.actualDeliveryAt)
      (hreviews : List.Forall₂ Edited db.reviews db'.reviews)
  | delivered (input : Delivery) (h : Delivered db db' input)
  | settled (reviewId : Nat) (hdelivery : db'.order.actualDeliveryAt = db.order.actualDeliveryAt)
      (h : SettledReview db db' reviewId)
  | voided (reviewId : Nat) (hdelivery : db'.order.actualDeliveryAt = db.order.actualDeliveryAt)
      (h : VoidedReview db db' reviewId)

theorem Db.SameReviews.step (h : db.SameReviews db') : ReviewsStep db db' :=
  .kept (congrArg Order.actualDeliveryAt h.order) h.reviews

theorem forall₂_edited_modify {reviews : List Review} {i : Nat} {f : Review → Review}
    (hf : ∀ r, reviews[i]? = some r → Edited r (f r)) :
    List.Forall₂ Edited reviews (reviews.modify i f) := by
  rw [List.forall₂_iff_get]
  refine ⟨by simp, fun j hj hj' => ?_⟩
  simp only [List.get_eq_getElem, List.getElem_modify]
  split
  · rename_i hij
    subst hij
    exact hf _ (List.getElem?_eq_getElem hj)
  · exact .inl rfl

theorem findReview_ok {reviewId : Nat} {review : Review}
    (h : findReview db reviewId = .ok review) :
    db.reviews[reviewId]? = some review ∧ review.deletedAt = none := by
  obtain ⟨hrow, hlive⟩ := Option.filter_eq_some_iff.1 (found_ok.1 h)
  exact ⟨hrow, Option.isNone_iff_eq_none.1 hlive⟩

/-- An update of a review that is not final, to one that is not final. -/
theorem updateReview_step {reviewId : Nat} {lockVersion : Int} {portal : Bool}
    {expected : ReviewStatus → Bool} {data : Review → Review}
    (hexpected : ∀ review : Review, expected review.status = true → review.isOpen = true)
    (hdata : ∀ review, expected review.status = true → (data review).isOpen = true ∧
      (data review).deletedAt = review.deletedAt ∧ review.Fixed (data review))
    (h : updateReview db reviewId lockVersion portal expected data = .ok db') :
    ReviewsStep db db' := by
  simp only [updateReview, found_bind, require_bind, Bool.and_eq_true] at h
  obtain ⟨review, hrow, ⟨-, hstatus⟩, h⟩ := h
  obtain rfl := Except.ok.inj h
  refine .edited rfl (forall₂_edited_modify fun r hr => .inr ?_)
  obtain rfl : review = r := Option.some.inj (hrow.symm.trans hr)
  obtain ⟨hopen, hdeleted, hfixed⟩ := hdata review hstatus
  exact ⟨hexpected review hstatus, hopen, hdeleted, hfixed.cycleNo, hfixed.periodStart,
    hfixed.periodEnd, hfixed.scheduledReviewAt, hfixed.baselineMileageKm⟩

theorem editable_open (review : Review) (h : editable review.status = true) :
    review.isOpen = true := by
  simp only [editable, Bool.or_eq_true, beq_iff_eq] at h
  rcases h with h | h <;> simp [Review.isOpen, h]

theorem saveDraft_step {dto : Draft} (h : saveDraft db dto = .ok db') : ReviewsStep db db' := by
  rw [saveDraft] at h
  obtain ⟨review, -, h⟩ := bind_ok h
  obtain ⟨-, -, h⟩ := bind_ok h
  obtain ⟨-, -, h⟩ := bind_ok h
  obtain ⟨-, -, h⟩ := bind_ok h
  refine updateReview_step editable_open ?_ h
  exact fun r hr => ⟨editable_open r hr, rfl, rfl, rfl, rfl, rfl, rfl⟩

theorem changeEvidence_step {reviewId : Nat} {lockVersion : Int} {portal : Bool}
    {change : EvidenceChange} (h : changeEvidence db reviewId lockVersion portal change = .ok db') :
    ReviewsStep db db' := by
  rw [changeEvidence] at h
  obtain ⟨review, -, h⟩ := bind_ok h
  obtain ⟨-, -, h⟩ := bind_ok h
  cases change with
  | attach mimeType =>
    obtain ⟨-, -, h⟩ := bind_ok h
    refine updateReview_step editable_open ?_ h
    exact fun r hr => ⟨editable_open r hr, rfl, rfl, rfl, rfl, rfl, rfl⟩
  | remove evidenceId deletedAt =>
    obtain ⟨-, -, h⟩ := bind_ok h
    refine updateReview_step editable_open ?_ h
    exact fun r hr => ⟨editable_open r hr, rfl, rfl, rfl, rfl, rfl, rfl⟩

theorem submitReview_step {reviewId : Nat} {lockVersion : Int} {portal readable : Bool}
    (h : submitReview db reviewId lockVersion portal readable = .ok db') : ReviewsStep db db' := by
  rw [submitReview] at h
  obtain ⟨review, -, h⟩ := bind_ok h
  obtain ⟨-, -, h⟩ := bind_ok h
  obtain ⟨-, -, h⟩ := bind_ok h
  obtain ⟨-, -, h⟩ := bind_ok h
  refine updateReview_step editable_open ?_ h
  exact fun _ _ => ⟨rfl, rfl, rfl, rfl, rfl, rfl, rfl⟩

theorem returnReview_step {reviewId : Nat} {lockVersion : Int} {reason : String}
    (h : returnReview db reviewId lockVersion reason = .ok db') : ReviewsStep db db' := by
  rw [returnReview] at h
  obtain ⟨-, -, h⟩ := bind_ok h
  refine updateReview_step (fun r hr => ?_) ?_ h
  · simp [Review.isOpen, beq_iff_eq.1 hr]
  · exact fun _ _ => ⟨rfl, rfl, rfl, rfl, rfl, rfl, rfl⟩

theorem activateDueReviews_step (db : Db) (asOf : Int) :
    ReviewsStep db (activateDueReviews db asOf) := by
  refine .edited rfl ?_
  simp only [activateDueReviews, List.forall₂_map_right_iff]
  refine List.forall₂_same.2 fun review _ => ?_
  split
  · rename_i hdue
    simp only [Bool.and_eq_true, beq_iff_eq] at hdue
    exact .inr ⟨by simp [Review.isOpen, hdue.2], rfl, rfl, rfl, rfl, rfl, rfl, rfl⟩
  · exact .inl rfl

theorem mapError_ok {ε ε' α : Type} {x : Except ε α} {f : ε → ε'} {a : α}
    (h : x.mapError f = .ok a) : x = .ok a := by
  cases x with
  | error e => cases h
  | ok b => exact congrArg _ (Except.ok.inj h)

theorem ofCycle_of_build {d n : Int} {cycle : MileageReviewCycle} {review : Review}
    (h : buildMileageReviewCycle d n = .ok cycle) (hn : review.cycleNo = n)
    (hstart : review.periodStart = cycle.periodStart) (hend : review.periodEnd = cycle.periodEnd)
    (hscheduled : review.scheduledReviewAt = cycle.scheduledReviewAt) : review.OfCycle d := by
  obtain ⟨hpos, hs, hr, he⟩ := buildMileageReviewCycle_ok h
  subst hn
  exact ⟨hpos, hstart.trans hs, hend.trans he, hscheduled.trans hr⟩

/-- The reading of the delivery has the mileage of the handover. -/
theorem appendConfirmedReading_row {input : AppendReading} {readingId : Nat}
    (h : appendConfirmedReading db input = .ok (readingId, db')) :
    ∃ reading, db'.readings[readingId]? = some reading ∧ reading.mileageKm = input.mileageKm := by
  simp only [appendConfirmedReading, require_bind] at h
  obtain ⟨-, -, h⟩ := h
  split at h
  · rename_i existing id hfind
    simp only [require_bind, sameBusinessReading, Bool.and_eq_true, beq_iff_eq] at h
    obtain ⟨-, hsame, h⟩ := h
    obtain ⟨rfl, rfl⟩ := Prod.mk.inj (Except.ok.inj h)
    exact ⟨existing, List.mk_mem_zipIdx_iff_getElem?.1 (List.mem_of_find?_eq_some hfind), hsame.2⟩
  · simp only [require_bind] at h
    obtain ⟨-, -, h⟩ := h
    obtain ⟨rfl, rfl⟩ := Prod.mk.inj (Except.ok.inj h)
    exact ⟨_, List.getElem?_concat_length, rfl⟩

theorem recordDelivery_ok {input : Delivery} (h : recordDelivery db input = .ok db') :
    db'.order = db.order ∧ db'.accounts = db.accounts ∧ db'.grants = db.grants ∧
      (db.reviews = [] → ∃ first, db'.reviews = [first] ∧
        first.Created input.deliveredAt 1 input.handoverMileageKm) := by
  rw [recordDelivery] at h
  obtain ⟨⟨readingId, db₁⟩, hreading, h⟩ := bind_ok h
  obtain ⟨reading, hrow, hkm⟩ := appendConfirmedReading_row hreading
  have haside := appendConfirmedReading_aside hreading
  simp only [createFirstReview, found_bind, require_bind] at h
  obtain ⟨baseline, hbaseline, -, h⟩ := h
  obtain rfl : reading = baseline := Option.some.inj (hrow.symm.trans hbaseline)
  obtain ⟨cycle, hcycle, h⟩ := bind_ok h
  split at h
  · rename_i hany
    obtain rfl := Except.ok.inj h
    refine ⟨haside.order, haside.accounts, haside.grants, fun hnil => ?_⟩
    rw [haside.reviews, hnil] at hany
    cases hany
  · obtain rfl := Except.ok.inj h
    refine ⟨haside.order, haside.accounts, haside.grants, fun hnil => ?_⟩
    simp only [haside.reviews, hnil]
    exact ⟨_, rfl, ofCycle_of_build (mapError_ok hcycle) rfl rfl rfl rfl, rfl, hkm, rfl, rfl⟩

theorem assertDeliverable_ok {u : Unit} (h : assertDeliverable db = .ok u) :
    db.order.actualDeliveryAt = none := by
  have hcheck := require_ok h
  simp only [Bool.and_eq_true, Option.isNone_iff_eq_none] at hcheck
  exact hcheck.1

theorem confirmDeliveryLegacy_ok {input : Delivery}
    (h : confirmDeliveryLegacy db input = .ok db') : Delivered db db' input ∧
      db.order.journey = false ∧ db'.accounts = db.accounts ∧ db'.grants = db.grants := by
  rw [confirmDeliveryLegacy] at h
  obtain ⟨_, hdeliverable, h⟩ := bind_ok h
  simp only [require_bind, Bool.not_eq_true'] at h
  obtain ⟨hjourney, h⟩ := h
  obtain ⟨db₁, hrecord, h⟩ := bind_ok h
  obtain rfl := Except.ok.inj h
  obtain ⟨-, haccounts, hgrants, hreviews⟩ := recordDelivery_ok hrecord
  exact ⟨⟨assertDeliverable_ok hdeliverable, rfl, hreviews⟩, hjourney, haccounts, hgrants⟩

/-- The rows for which the entitlements are made sure of at the activation. -/
structure Activating (db db₁ : Db) (input : Delivery) : Prop where
  actualDeliveryAt : db₁.order.actualDeliveryAt = some input.deliveredAt
  accounts : db₁.accounts = db.accounts
  grants : db₁.grants = db.grants

theorem activateFromAuthoritativeHandover_ok {input : Delivery}
    (h : activateFromAuthoritativeHandover db input = .ok db') : Delivered db db' input ∧
      ∃ db₁ db₂, Activating db db₁ input ∧ ensureInitialEntitlements db₁ = .ok db₂ ∧
        db' = activateAccounts db₂ := by
  rw [activateFromAuthoritativeHandover] at h
  obtain ⟨_, hdeliverable, h⟩ := bind_ok h
  obtain ⟨db₁, hrecord, h⟩ := bind_ok h
  obtain ⟨db₂, hensure, h⟩ := bind_ok h
  obtain rfl := Except.ok.inj h
  obtain ⟨-, haccounts, hgrants, hreviews⟩ := recordDelivery_ok hrecord
  have hsame := ensureInitialEntitlements_sameReviews hensure
  refine ⟨⟨assertDeliverable_ok hdeliverable, congrArg Order.actualDeliveryAt hsame.order, ?_⟩,
    _, db₂, ?_, hensure, rfl⟩
  · intro hnil
    obtain ⟨first, hfirst, hcreated⟩ := hreviews hnil
    exact ⟨first, hsame.reviews.trans hfirst, hcreated⟩
  · exact ⟨rfl, haccounts, hgrants⟩

theorem createNextReview_ok {review : Review} {submitted : Int} {readingId : Nat}
    {confirmedAt : Int}
    (h : createNextReview db review submitted readingId confirmedAt = .ok db') :
    db'.order = db.order ∧ db'.accounts = db.accounts ∧ db'.grants = db.grants ∧
      ∃ next, db'.reviews = db.reviews ++ next ∧ ∀ r ∈ next, next = [r] ∧
        ∀ d, db.order.actualDeliveryAt = some d → r.Created d (review.cycleNo + 1) submitted := by
  rw [createNextReview] at h
  split at h
  · obtain rfl := Except.ok.inj h
    exact ⟨rfl, rfl, rfl, [], by simp, by simp⟩
  · rename_i d hd
    split at h
    · obtain rfl := Except.ok.inj h
      exact ⟨rfl, rfl, rfl, [], by simp, by simp⟩
    · obtain ⟨cycle, hcycle, h⟩ := bind_ok h
      dsimp only at h
      split at h
      · obtain rfl := Except.ok.inj h
        exact ⟨rfl, rfl, rfl, [], by simp, by simp⟩
      · obtain rfl := Except.ok.inj h
        refine ⟨rfl, rfl, rfl, _, rfl, fun r hr => ?_⟩
        obtain rfl := List.mem_singleton.1 hr
        refine ⟨rfl, fun d' hd' => ?_⟩
        obtain rfl : d = d' := Option.some.inj (hd.symm.trans hd')
        refine ⟨ofCycle_of_build (mapError_ok hcycle) rfl rfl rfl rfl, rfl, rfl, ?_, rfl⟩
        simp only [Review.isOpen]
        split <;> rfl

theorem assertConfirmable_ok {review : Review} {lockVersion confirmedAt submitted readingAt : Int}
    (h : assertConfirmable db review lockVersion confirmedAt = .ok (submitted, readingAt)) :
    review.status = .pendingReview ∧ review.submittedMileageKm = some submitted ∧
      review.readingAt = some readingAt := by
  simp only [assertConfirmable, require_bind, found_bind, Bool.and_eq_true, beq_iff_eq] at h
  obtain ⟨hstatus, -, km, hkm, at', hat, -, h⟩ := h
  obtain ⟨-, -, h⟩ := bind_ok h
  obtain ⟨-, h⟩ := require_bind.1 h
  obtain ⟨rfl, rfl⟩ := Prod.mk.inj (Except.ok.inj h)
  exact ⟨hstatus.1, hkm, hat⟩

/-- A call that settles a review leaves everything as it is when the review had been settled by it. -/
theorem settleReview_ok {input : SettleMileageReview} (h : settleReview db input = .ok db') :
    (db' = db ∧ ∃ r, db.reviews[input.reviewId]? = some r ∧ r.status = .confirmed) ∨
      (db'.order = db.order ∧ SettledReview db db' input.reviewId) := by
  rw [settleReview] at h
  obtain ⟨-, -, h⟩ := bind_ok h
  obtain ⟨review, hreview, h⟩ := bind_ok h
  obtain ⟨hrow, hlive⟩ := findReview_ok hreview
  split at h
  · rename_i hstatus
    simp only [require_bind] at h
    obtain ⟨-, h⟩ := h
    exact .inl ⟨(Except.ok.inj h).symm, review, hrow, beq_iff_eq.1 hstatus⟩
  · obtain ⟨⟨submitted, readingAt⟩, hconfirmable, h⟩ := bind_ok h
    simp only [require_bind] at h
    obtain ⟨-, h⟩ := h
    obtain ⟨⟨settled, db₁⟩, hparts, h⟩ := bind_ok h
    obtain ⟨hstatus, hsubmitted, -⟩ := assertConfirmable_ok hconfirmable
    obtain ⟨hconsumed, husage⟩ := settleParts_ok hparts
    obtain ⟨horder, haccounts, hgrants, next, hreviews, hnext⟩ := createNextReview_ok h
    refine .inr ⟨horder.trans hconsumed.same.order, ⟨review, settled, submitted, next, hrow, hlive,
      ?_, hsubmitted, husage, ⟨db₁, hconsumed, haccounts, hgrants⟩, ?_, fun r hr => ?_⟩⟩
    · simp [Review.isOpen, hstatus]
    · rw [hreviews]
      simp only [hconsumed.same.reviews]
    · simpa only [hconsumed.same.order] using hnext r hr

theorem voidAndReopenReview_ok {input : VoidMileageReview}
    (h : voidAndReopenReview db input = .ok db') :
    db'.order = db.order ∧ VoidedReview db db' input.reviewId := by
  simp only [voidAndReopenReview, require_bind] at h
  obtain ⟨-, -, h⟩ := h
  obtain ⟨review, hreview, h⟩ := bind_ok h
  obtain ⟨hrow, hlive⟩ := findReview_ok hreview
  simp only [require_bind, Bool.and_eq_true, beq_iff_eq, Bool.not_eq_true', List.any_eq_false]
    at h
  obtain ⟨hstatus, hlater, -, h⟩ := h
  obtain ⟨db₁, hrestore, h⟩ := bind_ok h
  obtain ⟨readingId, -, h⟩ := found_bind.1 h
  obtain ⟨db₂, hreading, h⟩ := bind_ok h
  obtain rfl := Except.ok.inj h
  obtain ⟨hsame, haccounts, hgrants⟩ := restoreEntitlement_ok hrestore
  have haside := voidReadingAndRestoreProjection_aside hreading
  refine ⟨haside.order.trans hsame.order, review, input.voidedAt, hrow, hlive, hstatus.1, ?_,
    ⟨haside.accounts.trans haccounts, ?_⟩, ?_⟩
  · intro row hmem hcycle hdeleted hconfirmed
    refine hlater row hmem ⟨?_, hconfirmed⟩
    simp [laterReview, hcycle, hdeleted]
  · obtain ⟨grantId, remaining, used, hgrants⟩ := hgrants
    exact ⟨grantId, remaining, used, haside.grants.trans hgrants⟩
  · simp only [haside.reviews, hsame.reviews]

theorem call_reviews {call : Call} (h : db.call call = .ok db') : ReviewsStep db db' := by
  cases call with
  | prepareOrder =>
    rw [Db.call, prepareOrder] at h
    exact (ensureInitialEntitlements_sameReviews (require_bind.1 h).2).step
  | confirmDeliveryLegacy input => exact .delivered input (confirmDeliveryLegacy_ok h).1
  | activateFromAuthoritativeHandover input =>
    exact .delivered input (activateFromAuthoritativeHandover_ok h).1
  | generateOrderEntitlements => exact (generateOrderEntitlements_sameReviews h).step
  | createMonthlyRenewalGrants asOfDate inputs =>
    exact (createMonthlyRenewalGrants_sameReviews h).step
  | expireEntitlements asOfDate =>
    obtain rfl := Except.ok.inj h
    exact .kept rfl rfl
  | consumeOrderEntitlement input => exact (consumeOrderEntitlement_sameReviews h).step
  | activateVehicleSwap source effectiveDate targetGrants =>
    exact (activateVehicleSwap_sameReviews h).step
  | activateDueReviews asOf =>
    obtain rfl := Except.ok.inj h
    exact activateDueReviews_step db asOf
  | saveDraft dto => exact saveDraft_step h
  | changeEvidence reviewId lockVersion portal change => exact changeEvidence_step h
  | submitReview reviewId lockVersion portal readable => exact submitReview_step h
  | returnReview reviewId lockVersion reason => exact returnReview_step h
  | settleReview input =>
    rcases settleReview_ok h with ⟨rfl, -⟩ | ⟨horder, hsettled⟩
    · exact .kept rfl rfl
    · exact .settled _ (congrArg Order.actualDeliveryAt horder) hsettled
  | voidAndReopenReview input =>
    obtain ⟨horder, hvoided⟩ := voidAndReopenReview_ok h
    exact .voided _ (congrArg Order.actualDeliveryAt horder) hvoided
  | setOrderStatus status =>
    obtain rfl := Except.ok.inj h
    exact .kept rfl rfl
  | setPeriodMonths months =>
    obtain rfl := Except.ok.inj h
    exact .kept rfl rfl
  | setBill billId bill =>
    obtain rfl := Except.ok.inj h
    exact .kept rfl rfl
  | appendReading input =>
    rw [Db.call] at h
    cases hreading : appendConfirmedReading db input with
    | error failure =>
      rw [hreading] at h
      cases h
    | ok row =>
      rw [hreading] at h
      obtain rfl := Except.ok.inj h
      exact (appendConfirmedReading_aside hreading).sameReviews.step

end SubscriptionSaas.Mileage
