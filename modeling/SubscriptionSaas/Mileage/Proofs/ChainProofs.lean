import SubscriptionSaas.Lib.Runs
import SubscriptionSaas.Mileage.Proofs.CallProofs

/-!
# The mileage review chain is gapless

After every run of calls on a delivered order its live confirmed reviews form a chain of cycles, in
which each review takes over where the one before it ended (`reviews_gapless`). The invariant
`Chaining` says besides where the review that comes next stands.
-/

namespace SubscriptionSaas.Mileage

open Results Tables Runs

variable {db db' : Db} {d baseline : Int} {chain : List Review}

/-! ## Chains of reviews -/

def Review.liveConfirmed (review : Review) : Bool :=
  review.deletedAt.isNone && review.status == .confirmed

def Review.liveOpen (review : Review) : Bool := review.deletedAt.isNone && review.isOpen

/-- The usage that the settlement of the review has worked out. -/
def Review.actualUsageKm (review : Review) : Int :=
  (review.settlement.map (·.actualUsageKm)).getD 0

/-- The last submitted reading, or the baseline of the delivery. -/
def lastMileage (baseline : Int) (chain : List Review) : Int :=
  (chain.getLast?.bind (·.submittedMileageKm)).getD baseline

/-- The confirmed reviews are a gapless chain from the delivery on. -/
structure Gapless (reviews : List Review) (deliveredAt baseline : Int) (chain : List Review) :
    Prop where
  confirmed : (reviews.filter Review.liveConfirmed).Perm chain
  cycles (i : Nat) (r : Review) : chain[i]? = some r → r.cycleNo = i + 1
  first (r : Review) : chain[0]? = some r →
    r.periodStart = deliveredAt ∧ r.baselineMileageKm = baseline
  next (i : Nat) (r r' : Review) : chain[i]? = some r → chain[i + 1]? = some r' →
    r'.periodStart = r.periodEnd + 1 ∧ r.submittedMileageKm = some r'.baselineMileageKm
  openOnce : ((reviews.filter Review.liveOpen).map (·.cycleNo)).Nodup
  openNext (r : Review) : r ∈ reviews → r.liveOpen = true →
    r.cycleNo = chain.length + 1 ∧ r.baselineMileageKm = lastMileage baseline chain
  usage : (chain.map (·.actualUsageKm)).sum = lastMileage baseline chain - baseline

/-- Reviews of consecutive cycles from `n` on, each with the mileage from which it starts. -/
def Chained (d : Int) : Int → Int → List Review → Prop
  | _, _, [] => True
  | n, b, r :: rs => r.OfCycle d ∧ r.cycleNo = n ∧ r.baselineMileageKm = b ∧
      ∃ s, r.submittedMileageKm = some s ∧ r.actualUsageKm = s - b ∧ Chained d (n + 1) s rs

theorem lastMileage_cons {b s : Int} {r : Review} {rs : List Review}
    (h : r.submittedMileageKm = some s) (hrs : ∀ r ∈ rs, ∃ s, r.submittedMileageKm = some s) :
    lastMileage b (r :: rs) = lastMileage s rs := by
  cases hlast : rs.getLast? with
  | none =>
    obtain rfl := List.getLast?_eq_none_iff.1 hlast
    simp [lastMileage, h]
  | some r' =>
    obtain ⟨s', hs'⟩ := hrs r' (List.mem_of_getLast? hlast)
    simp [lastMileage, List.getLast?_cons, hlast, hs']

theorem Chained.submitted {n b : Int} (h : Chained d n b chain) :
    ∀ r ∈ chain, ∃ s, r.submittedMileageKm = some s := by
  induction chain generalizing n b with
  | nil => simp
  | cons r rs ih =>
    obtain ⟨-, -, -, s, hs, -, hrest⟩ := h
    intro r' hr'
    rcases List.mem_cons.1 hr' with rfl | hmem
    · exact ⟨s, hs⟩
    · exact ih hrest r' hmem

/-- A chain goes on with the cycle and from the mileage with which it has ended. -/
theorem chained_snoc {n b : Int} {r : Review} : Chained d n b (chain ++ [r]) ↔
    Chained d n b chain ∧ r.OfCycle d ∧ r.cycleNo = n + chain.length ∧
      r.baselineMileageKm = lastMileage b chain ∧
      ∃ s, r.submittedMileageKm = some s ∧ r.actualUsageKm = s - lastMileage b chain := by
  induction chain generalizing n b with
  | nil => simp [Chained, lastMileage]
  | cons r' rs ih =>
    simp only [List.cons_append, Chained, ih, List.length_cons, Nat.cast_add, Nat.cast_one]
    constructor
    · rintro ⟨hof, hn, hb, s, hs, husage, hrest, hof', hn', hb', hlast⟩
      rw [lastMileage_cons hs hrest.submitted]
      exact ⟨⟨hof, hn, hb, s, hs, husage, hrest⟩, hof', by omega, hb', hlast⟩
    · rintro ⟨⟨hof, hn, hb, s, hs, husage, hrest⟩, hof', hn', hb', hlast⟩
      rw [lastMileage_cons hs hrest.submitted] at hb' hlast
      exact ⟨hof, hn, hb, s, hs, husage, hrest, hof', by omega, hb', hlast⟩

theorem Chained.get {n b : Int} (h : Chained d n b chain) {i : Nat} {r : Review}
    (hi : chain[i]? = some r) : r.OfCycle d ∧ r.cycleNo = n + i := by
  induction chain generalizing n b i with
  | nil => simp at hi
  | cons r' rs ih =>
    obtain ⟨hof, hn, -, s, -, -, hrest⟩ := h
    cases i with
    | zero =>
      obtain rfl : r' = r := by simpa using hi
      exact ⟨hof, by simpa using hn⟩
    | succ i =>
      obtain ⟨hof', hn'⟩ := ih hrest (by simpa using hi)
      refine ⟨hof', ?_⟩
      push_cast
      omega

theorem Chained.next {n b : Int} (h : Chained d n b chain) {i : Nat} {r r' : Review}
    (hi : chain[i]? = some r) (hi' : chain[i + 1]? = some r') :
    r.submittedMileageKm = some r'.baselineMileageKm := by
  induction chain generalizing n b i with
  | nil => simp at hi
  | cons r₀ rs ih =>
    obtain ⟨-, -, -, s, hs, -, hrest⟩ := h
    cases i with
    | zero =>
      obtain rfl : r₀ = r := by simpa using hi
      cases rs with
      | nil => simp at hi'
      | cons r₁ rs =>
        obtain rfl : r₁ = r' := by simpa using hi'
        rw [hs, hrest.2.2.1]
    | succ i => exact ih hrest (by simpa using hi) (by simpa using hi')

theorem Chained.usage {n b : Int} (h : Chained d n b chain) :
    (chain.map (·.actualUsageKm)).sum = lastMileage b chain - b := by
  induction chain generalizing n b with
  | nil => simp [lastMileage]
  | cons r rs ih =>
    obtain ⟨-, -, -, s, hs, husage, hrest⟩ := h
    rw [lastMileage_cons hs hrest.submitted, List.map_cons, List.sum_cons, ih hrest, husage]
    omega

/-! ## The invariant -/

structure Chaining (reviews : List Review) (d baseline : Int) (chain : List Review) : Prop where
  confirmed : (reviews.filter Review.liveConfirmed).Perm chain
  chained : Chained d 1 baseline chain
  ofCycle (r : Review) : r ∈ reviews → r.OfCycle d
  /-- No live review is for a cycle after the next one. -/
  bound (r : Review) : r ∈ reviews → r.deletedAt = none → r.cycleNo ≤ chain.length + 1
  openNext (r : Review) : r ∈ reviews → r.liveOpen = true →
    r.cycleNo = chain.length + 1 ∧ r.baselineMileageKm = lastMileage baseline chain
  openOnce : (reviews.filter Review.liveOpen).length ≤ 1

theorem Chaining.gapless {reviews : List Review} (h : Chaining reviews d baseline chain) :
    Gapless reviews d baseline chain where
  confirmed := h.confirmed
  cycles i r hi := by
    have hcycle := (h.chained.get hi).2
    omega
  first r hr := by
    cases chain with
    | nil => simp at hr
    | cons r' rs =>
      obtain rfl : r' = r := by simpa using hr
      obtain ⟨hof, hn, hb, -⟩ := h.chained
      refine ⟨?_, hb⟩
      rw [hof.periodStart, hn]
      exact addShanghaiMonthsClamped_zero d
  next i r r' hi hi' := by
    obtain ⟨hof, hn⟩ := h.chained.get hi
    obtain ⟨hof', hn'⟩ := h.chained.get hi'
    refine ⟨?_, h.chained.next hi hi'⟩
    rw [hof'.periodStart, hof.periodEnd, hn, hn', Int.sub_add_cancel]
    congr 1
    push_cast
    omega
  openOnce := by
    have hone := h.openOnce
    rcases hopen : reviews.filter Review.liveOpen with _ | ⟨r, _ | ⟨r', rs⟩⟩
    · exact List.nodup_nil
    · exact List.nodup_singleton _
    · rw [hopen] at hone
      simp at hone
  openNext := h.openNext
  usage := h.chained.usage

/-! ## Steps -/

theorem liveConfirmed_of_open {r : Review} (h : r.isOpen = true) : r.liveConfirmed = false := by
  rw [Review.liveConfirmed, Bool.and_eq_false_iff]
  right
  rw [Review.isOpen, Bool.and_eq_true, bne, Bool.not_eq_true'] at h
  exact h.1

theorem Edited.filter_confirmed {reviews reviews' : List Review}
    (h : List.Forall₂ Edited reviews reviews') :
    reviews'.filter Review.liveConfirmed = reviews.filter Review.liveConfirmed := by
  induction h with
  | nil => rfl
  | cons hedit _ ih =>
    rcases hedit with rfl | ⟨hopen, hopen', -, -⟩
    · simp only [List.filter_cons, ih]
    · rw [List.filter_cons_of_neg, List.filter_cons_of_neg, ih]
      · simp [liveConfirmed_of_open hopen]
      · simp [liveConfirmed_of_open hopen']

theorem Edited.liveOpen {r r' : Review} (h : Edited r r') : r'.liveOpen = r.liveOpen := by
  rcases h with rfl | ⟨hopen, hopen', hdeleted, -⟩
  · rfl
  · simp only [Review.liveOpen, hopen, hopen', hdeleted]

theorem Edited.length_open {reviews reviews' : List Review}
    (h : List.Forall₂ Edited reviews reviews') :
    (reviews'.filter Review.liveOpen).length = (reviews.filter Review.liveOpen).length := by
  induction h with
  | nil => rfl
  | cons hedit _ ih =>
    simp only [List.filter_cons, hedit.liveOpen]
    split
    · simp only [List.length_cons, ih]
    · exact ih

theorem Edited.fixed {r r' : Review} (h : Edited r r') :
    r.Fixed r' ∧ r'.deletedAt = r.deletedAt := by
  rcases h with rfl | ⟨-, -, hdeleted, hfixed⟩
  · exact ⟨⟨rfl, rfl, rfl, rfl, rfl⟩, rfl⟩
  · exact ⟨hfixed, hdeleted⟩

theorem Review.Fixed.ofCycle {r r' : Review} (h : r.Fixed r') (hof : r.OfCycle d) :
    r'.OfCycle d where
  positive := h.cycleNo ▸ hof.positive
  periodStart := by rw [h.periodStart, h.cycleNo, hof.periodStart]
  periodEnd := by rw [h.periodEnd, h.cycleNo, hof.periodEnd]
  scheduledReviewAt := by rw [h.scheduledReviewAt, h.cycleNo, hof.scheduledReviewAt]

theorem exists_of_forall₂ {α : Type} {R : α → α → Prop} {l l' : List α} (h : List.Forall₂ R l l') :
    ∀ a' ∈ l', ∃ a ∈ l, R a a' := by
  induction h with
  | nil => simp
  | @cons a b l₁ l₂ hab _ ih =>
    intro a' ha'
    rcases List.mem_cons.1 ha' with rfl | hmem
    · exact ⟨a, List.mem_cons_self, hab⟩
    · obtain ⟨a₀, ha₀, hr⟩ := ih a' hmem
      exact ⟨a₀, List.mem_cons_of_mem _ ha₀, hr⟩

theorem Chaining.edited {reviews reviews' : List Review} (h : Chaining reviews d baseline chain)
    (hedit : List.Forall₂ Edited reviews reviews') : Chaining reviews' d baseline chain where
  confirmed := by
    rw [Edited.filter_confirmed hedit]
    exact h.confirmed
  chained := h.chained
  ofCycle r' hr' := by
    obtain ⟨r, hr, he⟩ := exists_of_forall₂ hedit r' hr'
    exact he.fixed.1.ofCycle (h.ofCycle r hr)
  bound r' hr' hlive := by
    obtain ⟨r, hr, he⟩ := exists_of_forall₂ hedit r' hr'
    rw [he.fixed.1.cycleNo]
    exact h.bound r hr (he.fixed.2 ▸ hlive)
  openNext r' hr' hopen := by
    obtain ⟨r, hr, he⟩ := exists_of_forall₂ hedit r' hr'
    rw [he.fixed.1.cycleNo, he.fixed.1.baselineMileageKm]
    exact h.openNext r hr (he.liveOpen ▸ hopen)
  openOnce := by
    rw [Edited.length_open hedit]
    exact h.openOnce

/-- The first review of a delivered order. -/
theorem Chaining.first {r : Review} (h : r.Created d 1 baseline) : Chaining [r] d baseline [] where
  confirmed := by
    rw [List.filter_cons_of_neg (by simp [liveConfirmed_of_open h.isOpen])]
    exact .refl _
  chained := trivial
  ofCycle r' hr' := by
    obtain rfl := List.mem_singleton.1 hr'
    exact h.ofCycle
  bound r' hr' _ := by
    obtain rfl := List.mem_singleton.1 hr'
    rw [h.cycleNo]
    exact le_rfl
  openNext r' hr' _ := by
    obtain rfl := List.mem_singleton.1 hr'
    exact ⟨h.cycleNo, h.baselineMileageKm⟩
  openOnce := List.length_filter_le _ _

/-- The only live open review is the one in the middle. -/
theorem filter_open_alone {s t : List Review} {r : Review} (hr : r.liveOpen = true)
    (h : ((s ++ r :: t).filter Review.liveOpen).length ≤ 1) :
    s.filter Review.liveOpen = [] ∧ t.filter Review.liveOpen = [] := by
  rw [List.filter_append, List.filter_cons_of_pos hr, List.length_append, List.length_cons] at h
  exact ⟨List.length_eq_zero_iff.1 (by omega), List.length_eq_zero_iff.1 (by omega)⟩

theorem not_open_of_filter {s : List Review} {r : Review} (h : s.filter Review.liveOpen = [])
    (hr : r ∈ s) : ¬r.liveOpen = true := List.filter_eq_nil_iff.1 h r hr

theorem mem_middle {s t : List Review} {r r₀ r' : Review} (h : r' ∈ s ++ r₀ :: t) :
    r' = r₀ ∨ r' ∈ s ++ r :: t := by
  simp only [List.mem_append, List.mem_cons] at h ⊢
  tauto

/-- Settling appends the review to the chain; the next review starts from its reading. -/
theorem Chaining.settled {s t next : List Review} {r : Review} {settled : Settled} {submitted : Int}
    (h : Chaining (s ++ r :: t) d baseline chain) (hlive : r.deletedAt = none)
    (hopen : r.isOpen = true) (hsubmitted : r.submittedMileageKm = some submitted)
    (husage : settled.settlement.actualUsageKm = submitted - r.baselineMileageKm)
    (hnext : ∀ r' ∈ next, next = [r'] ∧ r'.Created d (r.cycleNo + 1) submitted) :
    Chaining (s ++ r.confirm settled :: t ++ next) d baseline (chain ++ [r.confirm settled]) := by
  have hmem : r ∈ s ++ r :: t := List.mem_append_right _ List.mem_cons_self
  have hliveOpen : r.liveOpen = true := by simp [Review.liveOpen, hlive, hopen]
  have hconfirmed : (r.confirm settled).liveConfirmed = true := by
    simp [Review.liveConfirmed, Review.confirm, hlive]
  have hclosed : ¬(r.confirm settled).liveOpen = true := by
    simp [Review.liveOpen, Review.isOpen, Review.confirm]
  obtain ⟨hcycle, hbase⟩ := h.openNext r hmem hliveOpen
  obtain ⟨hs, ht⟩ := filter_open_alone hliveOpen h.openOnce
  have hfixed : r.Fixed (r.confirm settled) := ⟨rfl, rfl, rfl, rfl, rfl⟩
  have hof := hfixed.ofCycle (h.ofCycle r hmem)
  have hlast : lastMileage baseline (chain ++ [r.confirm settled]) = submitted := by
    simp [lastMileage, Review.confirm, hsubmitted]
  have hnextFilter : next.filter Review.liveConfirmed = [] := by
    rw [List.filter_eq_nil_iff]
    intro r' hr'
    simp [liveConfirmed_of_open (hnext r' hr').2.isOpen]
  have hother : ∀ r' ∈ s ++ r.confirm settled :: t, ¬r'.liveOpen = true := by
    intro r' hr'
    rcases List.mem_append.1 hr' with hr' | hr'
    · exact not_open_of_filter hs hr'
    · rcases List.mem_cons.1 hr' with rfl | hr'
      · exact hclosed
      · exact not_open_of_filter ht hr'
  refine ⟨?_, ?_, fun r' hr' => ?_, fun r' hr' hlive' => ?_, fun r' hr' hopen' => ?_, ?_⟩
  · have hold := h.confirmed
    rw [List.filter_append, List.filter_cons_of_neg (by simp [liveConfirmed_of_open hopen])] at hold
    rw [List.filter_append, hnextFilter, List.append_nil, List.filter_append,
      List.filter_cons_of_pos hconfirmed]
    exact List.perm_middle.trans ((hold.cons _).trans (List.perm_append_singleton _ _).symm)
  · refine chained_snoc.2 ⟨h.chained, hof, hcycle.trans (by omega), hbase, submitted, hsubmitted, ?_⟩
    rw [← hbase]
    exact husage
  · rcases List.mem_append.1 hr' with hr' | hr'
    · rcases mem_middle hr' with rfl | hr'
      · exact hof
      · exact h.ofCycle r' hr'
    · exact (hnext r' hr').2.ofCycle
  · rw [List.length_append, List.length_singleton]
    push_cast
    rcases List.mem_append.1 hr' with hr' | hr'
    · rcases mem_middle hr' with rfl | hr'
      · exact hcycle.le.trans (by omega)
      · exact (h.bound r' hr' hlive').trans (by omega)
    · rw [(hnext r' hr').2.cycleNo, hcycle]
  · rcases List.mem_append.1 hr' with hr' | hr'
    · exact absurd hopen' (hother r' hr')
    · rw [(hnext r' hr').2.cycleNo, hcycle, hlast, List.length_append, List.length_singleton]
      exact ⟨by push_cast; rfl, (hnext r' hr').2.baselineMileageKm⟩
  · rw [List.filter_append, List.filter_eq_nil_iff.2 hother, List.nil_append]
    cases next with
    | nil => simp
    | cons r' rs =>
      rw [(hnext r' List.mem_cons_self).1]
      exact List.length_filter_le _ _

/-! ### Voiding -/

/-- A review that was not confirmed and came later is deleted. -/
def removeLater (cycleNo voidedAt : Int) (row : Review) : Review :=
  if laterReview cycleNo row && row.status != .confirmed then
    { row with deletedAt := some voidedAt }
  else row

theorem removeLater_fixed (cycleNo voidedAt : Int) (row : Review) :
    row.Fixed (removeLater cycleNo voidedAt row) := by
  unfold removeLater
  split <;> exact ⟨rfl, rfl, rfl, rfl, rfl⟩

/-- What is still live had been live, and is not a later review that is not confirmed. -/
theorem removeLater_live {cycleNo voidedAt : Int} {row : Review}
    (h : (removeLater cycleNo voidedAt row).deletedAt = none) :
    removeLater cycleNo voidedAt row = row ∧ row.deletedAt = none ∧
      (cycleNo < row.cycleNo → row.status = .confirmed) := by
  unfold removeLater at h ⊢
  split at h
  · cases h
  · rename_i hlater
    rw [if_neg hlater]
    refine ⟨rfl, h, fun hcycle => ?_⟩
    by_contra hstatus
    exact hlater (by simp [laterReview, hcycle, h, hstatus])

theorem removeLater_confirmed (cycleNo voidedAt : Int) (row : Review) :
    (removeLater cycleNo voidedAt row).liveConfirmed = row.liveConfirmed ∧
      (row.liveConfirmed = true → removeLater cycleNo voidedAt row = row) := by
  unfold removeLater
  split
  · rename_i hlater
    simp only [Bool.and_eq_true, bne_iff_ne] at hlater
    have hrow : row.liveConfirmed = false := by simp [Review.liveConfirmed, hlater.2]
    exact ⟨by simp [Review.liveConfirmed, hlater.2], fun h => by simp [hrow] at h⟩
  · exact ⟨rfl, fun _ => rfl⟩

theorem filter_removeLater (cycleNo voidedAt : Int) (rows : List Review) :
    (rows.map (removeLater cycleNo voidedAt)).filter Review.liveConfirmed =
      rows.filter Review.liveConfirmed := by
  induction rows with
  | nil => rfl
  | cons row rows ih =>
    obtain ⟨hsame, hkept⟩ := removeLater_confirmed cycleNo voidedAt row
    by_cases hrow : row.liveConfirmed = true
    · rw [List.map_cons, hkept hrow, List.filter_cons_of_pos hrow, List.filter_cons_of_pos hrow, ih]
    · rw [List.map_cons, List.filter_cons_of_neg (hsame ▸ hrow), List.filter_cons_of_neg hrow, ih]

/-- The review that can be voided is the last one of the chain. -/
theorem Chaining.last {reviews : List Review} {r : Review} (h : Chaining reviews d baseline chain)
    (hr : r ∈ reviews) (hlive : r.deletedAt = none) (hstatus : r.status = .confirmed)
    (hlater : ∀ row ∈ reviews, r.cycleNo < row.cycleNo → row.deletedAt = none →
      row.status ≠ .confirmed) : ∃ init, chain = init ++ [r] := by
  have hmem : r ∈ chain := h.confirmed.mem_iff.1
    (List.mem_filter.2 ⟨hr, by simp [Review.liveConfirmed, hlive, hstatus]⟩)
  obtain ⟨i, hi⟩ := List.mem_iff_getElem?.1 hmem
  have hcycle := (h.chained.get hi).2
  have hlast : chain[i + 1]? = none := by
    by_contra hsome
    obtain ⟨r', hr'⟩ := Option.ne_none_iff_exists'.1 hsome
    have hcycle' := (h.chained.get hr').2
    obtain ⟨hrow, hconfirmed⟩ :=
      List.mem_filter.1 (h.confirmed.mem_iff.2 (List.mem_of_getElem? hr'))
    simp only [Review.liveConfirmed, Bool.and_eq_true, Option.isNone_iff_eq_none, beq_iff_eq]
      at hconfirmed
    exact hlater r' hrow (by push_cast at hcycle'; omega) hconfirmed.1 hconfirmed.2
  have hlen : i = chain.length - 1 := by
    have hlt := get_lt hi
    have hle := List.getElem?_eq_none_iff.1 hlast
    omega
  have hget : chain.getLast? = some r := by rw [List.getLast?_eq_getElem?, ← hlen, hi]
  exact ⟨chain.dropLast, (List.dropLast_append_getLast? r hget).symm⟩

theorem Review.reopened_created {r : Review} (hof : r.OfCycle d) :
    r.reopened.Created d r.cycleNo r.baselineMileageKm :=
  ⟨⟨hof.positive, hof.periodStart, hof.periodEnd, hof.scheduledReviewAt⟩, rfl, rfl, rfl, rfl⟩

/-- Voiding takes the last review off the chain and opens its cycle again. -/
theorem Chaining.voided {s t : List Review} {r r' : Review} {voidedAt : Int}
    (h : Chaining (s ++ r :: t) d baseline chain) (hlive : r.deletedAt = none)
    (hstatus : r.status = .confirmed)
    (hlater : ∀ row ∈ s ++ r :: t, r.cycleNo < row.cycleNo → row.deletedAt = none →
      row.status ≠ .confirmed)
    (hvoid : r'.status = .voided) (hfixed : r.Fixed r') (hlive' : r'.deletedAt = none) :
    ∃ init, Chaining (s.map (removeLater r.cycleNo voidedAt) ++
      r' :: t.map (removeLater r.cycleNo voidedAt) ++ [r.reopened]) d baseline init := by
  have hmem : r ∈ s ++ r :: t := List.mem_append_right _ List.mem_cons_self
  obtain ⟨init, rfl⟩ := h.last hmem hlive hstatus hlater
  obtain ⟨hchained, hof, hcycle, hbase, -⟩ := chained_snoc.1 h.chained
  have hcreated := Review.reopened_created hof
  have hrow : ∀ row ∈ s.map (removeLater r.cycleNo voidedAt) ++
      r' :: t.map (removeLater r.cycleNo voidedAt), row = r' ∨
        ∃ row₀ ∈ s ++ r :: t, row = removeLater r.cycleNo voidedAt row₀ := by
    intro row hrow
    rcases mem_middle (r := removeLater r.cycleNo voidedAt r) hrow with rfl | hrow
    · exact .inl rfl
    · rw [← List.map_cons, ← List.map_append] at hrow
      obtain ⟨row₀, hrow₀, rfl⟩ := List.mem_map.1 hrow
      exact .inr ⟨row₀, hrow₀, rfl⟩
  have hbound : ∀ row₀ ∈ s ++ r :: t, (removeLater r.cycleNo voidedAt row₀).deletedAt = none →
      row₀.cycleNo ≤ r.cycleNo ∧ row₀.liveOpen = false := by
    intro row₀ hrow₀ hdeleted
    obtain ⟨-, hlive₀, hconfirmed⟩ := removeLater_live hdeleted
    have hle : row₀.cycleNo ≤ r.cycleNo := by
      by_contra hlt
      exact hlater row₀ hrow₀ (by omega) hlive₀ (hconfirmed (by omega))
    refine ⟨hle, ?_⟩
    by_contra hopen
    have hnext := (h.openNext row₀ hrow₀ (by simpa using hopen)).1
    rw [List.length_append, List.length_singleton] at hnext
    push_cast at hnext
    omega
  have hclosed : ∀ row ∈ s.map (removeLater r.cycleNo voidedAt) ++
      r' :: t.map (removeLater r.cycleNo voidedAt), ¬row.liveOpen = true := by
    intro row hmem' hopen
    rcases hrow row hmem' with rfl | ⟨row₀, hrow₀, rfl⟩
    · simp [Review.liveOpen, Review.isOpen, hvoid] at hopen
    · have hdeleted : (removeLater r.cycleNo voidedAt row₀).deletedAt = none := by
        simp only [Review.liveOpen, Bool.and_eq_true, Option.isNone_iff_eq_none] at hopen
        exact hopen.1
      rw [(removeLater_live hdeleted).1, (hbound row₀ hrow₀ hdeleted).2] at hopen
      cases hopen
  refine ⟨init, ?_, hchained, fun row hr => ?_, fun row hr hdeleted => ?_, fun row hr hopen => ?_, ?_⟩
  · have hold := h.confirmed
    have hr : r.liveConfirmed = true := by simp [Review.liveConfirmed, hlive, hstatus]
    rw [List.filter_append, List.filter_cons_of_pos hr] at hold
    rw [List.filter_append, List.filter_append, filter_removeLater, List.filter_cons_of_neg,
      filter_removeLater, List.filter_cons_of_neg, List.filter_nil, List.append_nil]
    · exact (List.perm_middle.symm.trans
        (hold.trans (List.perm_append_singleton r init))).cons_inv
    · simp [liveConfirmed_of_open hcreated.isOpen]
    · simp [Review.liveConfirmed, hvoid]
  · rcases List.mem_append.1 hr with hr | hr
    · rcases hrow row hr with rfl | ⟨row₀, hrow₀, rfl⟩
      · exact hfixed.ofCycle hof
      · exact (removeLater_fixed _ _ _).ofCycle (h.ofCycle row₀ hrow₀)
    · obtain rfl := List.mem_singleton.1 hr
      exact hcreated.ofCycle
  · rcases List.mem_append.1 hr with hr | hr
    · rcases hrow row hr with rfl | ⟨row₀, hrow₀, rfl⟩
      · rw [hfixed.cycleNo, hcycle]
        omega
      · rw [(removeLater_fixed _ _ _).cycleNo]
        have hle := (hbound row₀ hrow₀ hdeleted).1
        omega
    · obtain rfl := List.mem_singleton.1 hr
      rw [hcreated.cycleNo, hcycle]
      omega
  · rcases List.mem_append.1 hr with hr | hr
    · exact absurd hopen (hclosed row hr)
    · obtain rfl := List.mem_singleton.1 hr
      exact ⟨hcreated.cycleNo.trans (by omega), hcreated.baselineMileageKm.trans hbase⟩
  · rw [List.filter_append, List.filter_eq_nil_iff.2 hclosed, List.nil_append]
    exact List.length_filter_le _ _

/-! ## Runs -/

/-- The reviews of an order that was delivered are in a chain. -/
def ReviewsOk (d baseline : Int) (db : Db) : Prop :=
  db.order.actualDeliveryAt = some d ∧ ∃ chain, Chaining db.reviews d baseline chain

theorem settled_chaining (h : Chaining db.reviews d baseline chain) {reviewId : Nat}
    (hd : db.order.actualDeliveryAt = some d) (hsettled : SettledReview db db' reviewId) :
    ∃ chain, Chaining db'.reviews d baseline chain := by
  obtain ⟨r, settled, submitted, next, hrow, hlive, hopen, hsubmitted, husage, -, hreviews,
    hnext⟩ := hsettled.row
  obtain ⟨s, t, hsplit, rfl⟩ := split hrow
  rw [hsplit] at h
  rw [hreviews, hsplit, modify_middle]
  exact ⟨_, h.settled hlive hopen hsubmitted husage fun r' hr' =>
    ⟨(hnext r' hr').1, (hnext r' hr').2 d hd⟩⟩

theorem voided_chaining (h : Chaining db.reviews d baseline chain) {reviewId : Nat}
    (hvoided : VoidedReview db db' reviewId) : ∃ chain, Chaining db'.reviews d baseline chain := by
  obtain ⟨r, voidedAt, hrow, hlive, hstatus, hlater, -, hreviews⟩ := hvoided.row
  obtain ⟨s, t, hsplit, hlen⟩ := split hrow
  have hself : removeLater r.cycleNo voidedAt r = r := by simp [removeLater, laterReview]
  have hmap : db.reviews.map (removeLater r.cycleNo voidedAt) =
      s.map (removeLater r.cycleNo voidedAt) ++ r :: t.map (removeLater r.cycleNo voidedAt) := by
    rw [hsplit, List.map_append, List.map_cons, hself]
  have hreviews : db'.reviews = (db.reviews.map (removeLater r.cycleNo voidedAt)).modify reviewId
      (fun row => { row with lockVersion := row.lockVersion + 1, status := .voided,
                             voidedAt := some voidedAt }) ++ [r.reopened] := hreviews
  rw [hmap, ← hlen, ← List.length_map (f := removeLater r.cycleNo voidedAt), modify_middle]
    at hreviews
  rw [hsplit] at h hlater
  rw [hreviews]
  exact h.voided hlive hstatus hlater rfl ⟨rfl, rfl, rfl, rfl, rfl⟩ hlive

/-- What one step preserves. -/
theorem ReviewsOk.step (h : ReviewsOk d baseline db) (call : Call) :
    ReviewsOk d baseline (db.step call) := by
  rw [Db.step]
  split
  · rename_i db' hcall
    obtain ⟨hd, chain, hchain⟩ := h
    cases call_reviews hcall with
    | kept hdelivery hreviews => exact ⟨hdelivery.trans hd, chain, hreviews ▸ hchain⟩
    | edited hdelivery hedit => exact ⟨hdelivery.trans hd, chain, hchain.edited hedit⟩
    | delivered input hdelivered =>
      rw [hdelivered.undelivered] at hd
      cases hd
    | settled reviewId hdelivery hsettled =>
      exact ⟨hdelivery.trans hd, settled_chaining hchain hd hsettled⟩
    | voided reviewId hdelivery hvoided =>
      exact ⟨hdelivery.trans hd, voided_chaining hchain hvoided⟩
  · exact h

/-- An order that has not been delivered has no reviews. -/
theorem undelivered_call (h : db.order.actualDeliveryAt = none → db.reviews = []) {call : Call}
    (hcall : db.call call = .ok db') (hd : db'.order.actualDeliveryAt = none) :
    db'.reviews = [] := by
  cases call_reviews hcall with
  | kept hdelivery hreviews => exact hreviews.trans (h (hdelivery ▸ hd))
  | edited hdelivery hedit =>
    rw [h (hdelivery ▸ hd), List.forall₂_nil_left_iff] at hedit
    exact hedit
  | delivered input hdelivered =>
    rw [hdelivered.actualDeliveryAt] at hd
    cases hd
  | settled reviewId hdelivery hsettled =>
    obtain ⟨r, settled, submitted, next, hrow, -⟩ := hsettled.row
    rw [h (hdelivery ▸ hd)] at hrow
    simp at hrow
  | voided reviewId hdelivery hvoided =>
    obtain ⟨r, voidedAt, hrow, -⟩ := hvoided.row
    rw [h (hdelivery ▸ hd)] at hrow
    simp at hrow

theorem undelivered_step (h : db.order.actualDeliveryAt = none → db.reviews = []) (call : Call) :
    (db.step call).order.actualDeliveryAt = none → (db.step call).reviews = [] := by
  rw [Db.step]
  split
  · rename_i db' hcall
    exact undelivered_call h hcall
  · exact h

/-- The call delivers the order. -/
def Call.delivers (input : Delivery) (call : Call) : Prop :=
  call = .confirmDeliveryLegacy input ∨ call = .activateFromAuthoritativeHandover input

theorem delivers_ok {call : Call} {input : Delivery} (hdelivers : call.delivers input)
    (h : db.call call = .ok db') : Delivered db db' input := by
  rcases hdelivers with rfl | rfl
  · exact (confirmDeliveryLegacy_ok h).1
  · exact (activateFromAuthoritativeHandover_ok h).1

theorem Delivered.reviewsOk {input : Delivery} (h : Delivered db db' input)
    (hnil : db.reviews = []) : ReviewsOk input.deliveredAt input.handoverMileageKm db' := by
  obtain ⟨first, hfirst, hcreated⟩ := h.reviews hnil
  exact ⟨h.actualDeliveryAt, [], hfirst ▸ Chaining.first hcreated⟩

/-- In every run on an order, from its delivery on, the live confirmed reviews are a gapless chain of
cycles, and the one live review that is not final takes over where the chain ends. -/
theorem reviews_gapless (order : Order) (vehicle : Vehicle) (readings : List Reading)
    (before after : List Call) (call : Call) (input : Delivery) (hdelivers : call.delivers input)
    (hok : ((runs Db.step (Db.created order vehicle readings) before).call call).isOk = true) :
    ∃ chain, Gapless (runs Db.step (Db.created order vehicle readings)
      (before ++ call :: after)).reviews input.deliveredAt input.handoverMileageKm chain := by
  rw [runs_append, runs_cons]
  have hbefore := runs_always (fun db => db.order.actualDeliveryAt = none → db.reviews = [])
    (fun _ call h => undelivered_step h call) (s := Db.created order vehicle readings)
    (fun _ => rfl) before
  generalize runs Db.step (Db.created order vehicle readings) before = db at hbefore hok ⊢
  cases hcall : db.call call with
  | error failure =>
    rw [hcall] at hok
    cases hok
  | ok db' =>
    have hdelivered := delivers_ok hdelivers hcall
    have hstep : db.step call = db' := by rw [Db.step, hcall]
    have hafter := runs_always (ReviewsOk input.deliveredAt input.handoverMileageKm)
      (fun _ call h => ReviewsOk.step h call)
      (hdelivered.reviewsOk (hbefore hdelivered.undelivered)) after
    obtain ⟨-, chain, hchain⟩ := hafter
    rw [hstep]
    exact ⟨chain, hchain.gapless⟩

/-! ### A run -/

def sampleOrder : Order :=
  { journey := false
    orderStatus := .pendingDelivery
    actualDeliveryAt := none
    startDate := none
    customerConfirmedAt := none
    finalPlanConfirmedAt := none
    createdAt := 0
    periodMonths := 12
    mileageLimitKm := 1000
    overMileageFeeAmount := 50
    packageSnapshot := some ⟨some 100000, none, none, none⟩
    deletedAt := none }

def dayMs : Int := 86400000

/-- After its first month 600 km have been driven. -/
def sampleMonth (deliveredAt : Int) : List Call :=
  [.activateDueReviews (deliveredAt + 31 * dayMs),
    .saveDraft ⟨0, 1, false, deliveredAt + 30 * dayMs, 700, deliveredAt + 31 * dayMs⟩,
    .changeEvidence 0 2 false (.attach (some "image/png")),
    .submitReview 0 3 false true]

def sampleSettlement (deliveredAt : Int) : SettleMileageReview :=
  ⟨deliveredAt + 32 * dayMs, 4, "K", 0, 1⟩

/-- The noon of the first of March 2026, in UTC. -/
def noon : Int := 1772366400000

theorem reviews_gapless_sample : ∃ chain, Gapless
    (runs Db.step (Db.created sampleOrder ⟨0, none⟩ [])
      ([] ++ .activateFromAuthoritativeHandover ⟨noon, 100, "D"⟩ ::
        (sampleMonth noon ++ [.settleReview (sampleSettlement noon),
          .voidAndReopenReview ⟨5, "typo", 0, noon + 33 * dayMs⟩]))).reviews noon 100 chain :=
  reviews_gapless sampleOrder ⟨0, none⟩ [] [] _ _ ⟨noon, 100, "D"⟩ (.inr rfl) (by decide +kernel)

end SubscriptionSaas.Mileage
