import SubscriptionSaas.Change.Offers
import SubscriptionSaas.Change.Proofs.MoveProofs

/-!
# The operations move the offers

Where an operation succeeds, it moves the offer of one change, opens a fresh one or leaves them all
(`perform_offers`). A published or confirmed quote is the current one and stays it, and the approval of
a price is about the current quote.
-/

namespace SubscriptionSaas.Change

open Billing Contract Results

variable {s s' : State} {e : Event} {id : Id}

/-! ## The offers of an order -/

theorem offers_setChange_same {f : ChangeOrder → ChangeOrder} (hf : ∀ c, (f c).offer = c.offer) :
    (s.setChange id f).offers = s.offers := by
  refine List.ext_getElem? fun i => ?_
  by_cases hi : id = i
  · subst hi
    rcases hc : s.changes[id]? with _ | c
    · simp [State.offers, State.setChange, hc]
    · simp [State.offers, State.setChange, hc, hf]
  · simp [State.offers, State.setChange, hi]

theorem offers_setChange {c : ChangeOrder} {f : ChangeOrder → ChangeOrder}
    (hc : s.changes[id]? = some c) :
    (s.setChange id f).offers = s.offers.modify id fun _ => (f c).offer := by
  refine List.ext_getElem? fun i => ?_
  by_cases hi : id = i
  · subst hi
    simp [State.offers, State.setChange, hc]
  · simp [State.offers, State.setChange, hi]

theorem offers_get {c : ChangeOrder} (hc : s.changes[id]? = some c) :
    s.offers[id]? = some c.offer := by
  simp [State.offers, hc]

@[simp] theorem offers_setConsideration (s : State) (considerationId : Option Id)
    (f : RenewalConsideration → RenewalConsideration) :
    (s.setConsideration considerationId f).offers = s.offers := by
  cases considerationId <;> rfl

@[simp] theorem offers_enqueue (s : State) (jobType : JobType) (i cid : Id) :
    (s.enqueue jobType i cid).offers = s.offers := by
  unfold State.enqueue
  split <;> rfl

theorem offers_enqueueAll {i cid : Id} (types : List JobType) (s : State) :
    (types.foldl (fun s jobType => s.enqueue jobType i cid) s).offers = s.offers := by
  induction types generalizing s with
  | nil => rfl
  | cons jobType types ih => rw [List.foldl_cons, ih, offers_enqueue]

theorem Offering.of_eq {offers offers' : List Offer} (h : offers' = offers) :
    Offering e offers offers' := by
  rw [h]
  exact .same

theorem offering_setChange {c : ChangeOrder} {f : ChangeOrder → ChangeOrder}
    (hc : s.changes[id]? = some c) (hmove : OfferMove id e c.offer (f c).offer) :
    Offering e s.offers (s.setChange id f).offers := by
  rw [offers_setChange hc]
  exact .move id _ _ (offers_get hc) hmove

theorem offering_addChange {c : ChangeOrder} (hfresh : c.offer.Fresh)
    (h : s.addChange c = .ok s') : Offering e s.offers s'.offers := by
  obtain ⟨-, rfl⟩ := addChange_ok h
  simp only [State.offers, List.map_append, List.map_cons, List.map_nil]
  exact .opens _ hfresh

/-! ## The commands on a quote -/

theorem runChangeCommand_offers {version : Nat}
    {execute : ChangeOrder → ExtensionDetail → Except ChangeError State}
    (h : runChangeCommand s id version execute = .ok s')
    (hexecute : ∀ c d, s.changes[id]? = some c → c.detail = .extension d →
      execute c d = .ok s' → Offering e s.offers s'.offers) : Offering e s.offers s'.offers := by
  obtain ⟨c, d, hc, hd, -, hrun⟩ := runChangeCommand_ok h
  exact hexecute c d hc hd hrun

theorem currentQuote_eq {c : ChangeOrder} {quote : Quote} (h : c.currentQuote = some quote) :
    ∃ i, c.currentQuoteId = some i ∧ c.quotes[i]? = some quote :=
  Option.bind_eq_some_iff.1 h

theorem createFormalQuote_offers {version : Nat} {actorId : Id} {pricing : Pricing} {hours : Int}
    (h : createFormalQuote s id version actorId pricing hours = .ok s') :
    Offering e s.offers s'.offers := by
  obtain ⟨⟨c, d⟩, hfind, h⟩ := bind_ok h
  obtain ⟨hc, hd⟩ := findExtension_ok hfind
  simp only [assertVersionMatches, assertBeforeDeadline, require_bind] at h
  obtain ⟨-, h⟩ := h
  obtain ⟨u, hmutable, h⟩ := bind_ok h
  simp only [assertQuoteMutable, require_bind, Bool.and_eq_true,
    Option.isNone_iff_eq_none] at hmutable
  obtain ⟨⟨hconfirmed, -⟩, -, hopen⟩ := hmutable
  have hpublished : c.customerConfirmationPublished = false := by simpa using require_ok hopen
  simp only [require_bind] at h
  obtain rfl := Except.ok.inj h.2.2
  rw [offers_setConsideration]
  refine offering_setChange hc ?_
  have hmove : OfferMove id e c.offer _ := .formal d
    ⟨.formal, actorId, min (s.now + hours * 3600000) c.completionDeadlineAt, d.pricingMode, pricing⟩
    hd ⟨hpublished, hconfirmed⟩ ⟨rfl, rfl⟩
  convert hmove using 1
  simp only [ChangeOrder.offer, Offer.approved, superseded, show c.detail = _ from hd,
    List.length_modify, hpublished]

theorem approvePriceOverride_offers {version : Nat} {actorId : Id} {reason : String}
    (h : approvePriceOverride s id version actorId reason = .ok s') :
    Offering (.approvePriceOverride id version actorId reason) s.offers s'.offers := by
  refine runChangeCommand_offers h fun c d hc hd hrun => ?_
  simp only [require_bind, Option.any_eq_true, Bool.not_eq_true', Option.any_eq_false] at hrun
  obtain ⟨-, ⟨quote, hquote, -⟩, hother, -, hrun⟩ := hrun
  obtain rfl := Except.ok.inj hrun
  obtain ⟨i, hi, hget⟩ := currentQuote_eq hquote
  refine offering_setChange hc (.approve d version actorId reason i quote rfl hd ⟨hi, hget⟩ ?_)
  exact beq_eq_false_iff_ne.1 (hother quote hquote)

theorem submitCustomerConfirmation_offers {version : Nat}
    (h : submitCustomerConfirmation s id version = .ok s') : Offering e s.offers s'.offers := by
  refine runChangeCommand_offers h fun c d hc hd hrun => ?_
  simp only [require_bind, Option.any_eq_true, Bool.or_eq_true, beq_iff_eq] at hrun
  obtain ⟨-, -, hmode, ⟨quote, hquote, -⟩, hrun⟩ := hrun
  obtain rfl := Except.ok.inj hrun
  obtain ⟨i, hi, hget⟩ := currentQuote_eq hquote
  refine offering_setChange hc (.publish d i quote hd (hmode.imp_right fun hsome => ?_) ⟨hi, hget⟩)
  exact Option.isSome_iff_ne_none.1 hsome

theorem decideQuote_current {version quoteId : Nat} {update : ChangeOrder → ChangeOrder}
    {r : ChangeOrder × State} (h : decideQuote s id version quoteId update = .ok r) :
    r.1.customerConfirmationPublished = true ∧ r.1.currentQuoteId = some quoteId := by
  obtain ⟨⟨c, d⟩, hfind, h⟩ := bind_ok h
  simp only [require_bind, assertExactPublishableQuote, Bool.and_eq_true, beq_iff_eq] at h
  obtain ⟨-, -, hquote, h⟩ := h
  obtain rfl := Except.ok.inj h
  exact ⟨hquote.1.1.2, hquote.1.2⟩

theorem confirmQuote_offers {version quoteId : Nat}
    (h : confirmQuote s id version quoteId = .ok s') : Offering e s.offers s'.offers := by
  obtain ⟨⟨c, s₁⟩, hdecide, h⟩ := bind_ok h
  obtain rfl := Except.ok.inj h
  obtain ⟨hc, -, hs⟩ := decideQuote_ok hdecide
  obtain ⟨hpublished, hcurrent⟩ := decideQuote_current hdecide
  rw [show s₁ = _ from hs]
  exact offering_setChange hc (.confirm quoteId hpublished hcurrent)

theorem rejectQuote_offers {version quoteId : Nat} {reason : String}
    (h : rejectQuote s id version quoteId reason = .ok s') : Offering e s.offers s'.offers := by
  unfold rejectQuote at h
  rw [require_bind] at h
  obtain ⟨⟨c, s₁⟩, hdecide, h⟩ := bind_ok h.2
  obtain rfl := Except.ok.inj h
  obtain ⟨hc, -, hs⟩ := decideQuote_ok hdecide
  obtain ⟨hpublished, hcurrent⟩ := decideQuote_current hdecide
  rw [offers_setConsideration, show s₁ = _ from hs]
  exact offering_setChange hc (.reject quoteId hpublished hcurrent)

/-! ## The commands that open a change -/

theorem createExtension_offers {call : Nat} (h : createExtension s call = .ok s') :
    Offering e s.offers s'.offers := by
  unfold createExtension at h
  rcases hp : s.prepared[call]? with _ | p
  · simp [hp] at h
  · simp only [hp] at h
    obtain ⟨-, -, h⟩ := bind_ok h
    rw [require_bind] at h
    exact offering_addChange ⟨rfl, rfl, rfl, rfl, rfl⟩ h.2

theorem decideRenewal_offers {version : Nat} {decision : RenewalDecision} {periodMonths : Int}
    (h : decideRenewal s id version decision periodMonths = .ok s') :
    Offering e s.offers s'.offers := by
  obtain ⟨r, -, h⟩ := bind_ok h
  rcases hdecision : r.decision with _ | recorded
  · simp only [hdecision, require_bind] at h
    obtain ⟨-, -, h⟩ := h
    split at h
    · simp only [pure_bind, require_bind] at h
      obtain ⟨s₂, hadd, h⟩ := bind_ok h.2
      obtain rfl := Except.ok.inj h
      rw [offers_setConsideration]
      exact offering_addChange ⟨rfl, rfl, rfl, rfl, rfl⟩ hadd
    · cases h
    · simp only [pure_bind] at h
      obtain rfl := Except.ok.inj h
      exact .of_eq (offers_setConsideration _ _ _)
  · simp only [hdecision] at h
    obtain ⟨-, h⟩ := check_ok h
    obtain rfl := Except.ok.inj h
    exact .same

theorem createSwap_offers {deadline : Int} (h : createSwap s deadline = .ok s') :
    Offering e s.offers s'.offers := by
  simp only [createSwap, require_bind] at h
  exact offering_addChange ⟨rfl, rfl, rfl, rfl, rfl⟩ h.2

/-! ## The operations that leave the offers -/

theorem ensureBaseSegment_changes (h : ensureBaseSegment s = .ok s') : s'.changes = s.changes := by
  obtain ⟨source, -, h⟩ := bind_ok h
  rcases hfind : s.segments.find? (·.segmentType == .base) with _ | g
  · simp only [hfind] at h
    obtain ⟨-, -, -, -, rfl⟩ := addSegment_ok h
    rfl
  · simp only [hfind] at h
    obtain ⟨-, -, h⟩ := bind_ok h
    obtain rfl := Except.ok.inj h
    rfl

theorem prepareExtension_changes {months : Int} {mode : PricingMode} {considerationId : Option Id}
    (h : prepareExtension s months mode considerationId = .ok s') : s'.changes = s.changes := by
  unfold prepareExtension at h
  rw [require_bind] at h
  obtain ⟨-, -, h⟩ := bind_ok h.2
  obtain ⟨⟨s₁, source, start, endDate⟩, hsource, h⟩ := bind_ok h
  obtain ⟨s₂, hbase, hsource⟩ := bind_ok hsource
  obtain ⟨period, -, hsource⟩ := bind_ok hsource
  obtain ⟨rfl, -⟩ := Prod.mk.inj (Except.ok.inj hsource)
  obtain ⟨-, -, h⟩ := bind_ok h
  obtain rfl := Except.ok.inj h
  exact show s₂.changes = s.changes from ensureBaseSegment_changes hbase

theorem enrollSegment_changes {segmentId : Id} (h : enrollSegment s segmentId = .ok s') :
    s'.changes = s.changes := by
  unfold enrollSegment at h
  split at h
  · obtain rfl := Except.ok.inj h
    rfl
  · dsimp only at h
    split at h <;> obtain rfl := Except.ok.inj h <;> rfl

theorem cancel_offers {version : Nat} {reason : String} (h : cancel s id version reason = .ok s') :
    Offering e s.offers s'.offers := by
  refine runChangeCommand_offers h fun c d hc hd hrun => ?_
  obtain ⟨-, -, hrun⟩ := bind_ok hrun
  simp only [require_bind] at hrun
  obtain rfl := Except.ok.inj hrun.2.2
  exact .of_eq (offers_setChange_same fun c => rfl)

theorem manualTakeover_offers {version : Nat} {reason : String}
    (h : manualTakeover s id version reason = .ok s') : Offering e s.offers s'.offers := by
  refine runChangeCommand_offers h fun c d hc hd hrun => ?_
  obtain ⟨-, -, hrun⟩ := bind_ok hrun
  simp only [require_bind] at hrun
  obtain rfl := Except.ok.inj hrun.2.2.2
  exact .of_eq (offers_setChange_same fun c => rfl)

theorem reserveGeneration_offers {version : Nat} {contractId : Id} {snapshot : Json}
    (h : reserveGeneration s id version contractId snapshot = .ok s') : s'.offers = s.offers := by
  obtain ⟨⟨c, d⟩, -, h⟩ := bind_ok h
  simp only [assertVersionMatches, require_bind] at h
  obtain ⟨-, -, h⟩ := bind_ok h.2.2
  obtain rfl := Except.ok.inj h
  exact offers_setChange_same fun c => rfl

theorem finalizeGeneration_offers {version : Nat} {contractId : Id}
    (h : finalizeGeneration s id version contractId = .ok s') : s'.offers = s.offers := by
  obtain ⟨⟨c, d⟩, -, h⟩ := bind_ok h
  simp only [assertVersionMatches, require_bind] at h
  obtain ⟨-, -, h⟩ := bind_ok h.2.2
  obtain rfl := Except.ok.inj h
  exact offers_setChange_same fun c => rfl

theorem abortGenerationReservation_offers {contractId : Id}
    (h : abortGenerationReservation s id contractId = .ok s') : s'.offers = s.offers := by
  obtain ⟨⟨c, d⟩, -, h⟩ := bind_ok h
  simp only [require_bind] at h
  obtain rfl := Except.ok.inj h.2
  exact offers_setChange_same fun c => rfl

theorem finalizeArchivedContract_offers {evidence : Bool} {r : ArchiveOutcome × State}
    (h : finalizeArchivedContract s id evidence = .ok r) : r.2.offers = s.offers := by
  obtain ⟨⟨c, d⟩, -, h⟩ := bind_ok h
  rw [require_bind] at h
  obtain ⟨-, h⟩ := h
  have harchived : (s.setChange id archiveContract).offers = s.offers :=
    offers_setChange_same fun c => rfl
  split at h
  · obtain rfl := Except.ok.inj h
    rfl
  · dsimp only at h
    split at h
    · obtain rfl := Except.ok.inj h
      exact harchived
    · split at h
      · simp only [require_bind] at h
        obtain ⟨s₁, hadd, h⟩ := bind_ok h.2.2
        obtain rfl := Except.ok.inj h
        obtain ⟨-, -, -, -, rfl⟩ := addSegment_ok hadd
        rw [offers_setConsideration]
        exact (offers_setChange_same fun c => by rfl).trans
          ((offers_enqueue _ _ _ _).trans harchived)
      · cases h

theorem activate_offers {segmentId : Id} (h : activate s segmentId = .ok s') :
    s'.offers = s.offers := by
  unfold activate at h
  rcases hg : s.segments[segmentId]? with _ | g
  · simp [hg] at h
  · rcases horigin : g.sourceChangeOrderId with _ | cid
    · simp [hg, horigin] at h
    · simp only [hg, horigin] at h
      obtain ⟨⟨c, d⟩, -, h⟩ := bind_ok h
      rw [require_bind] at h
      obtain ⟨-, h⟩ := h
      split at h
      · simp only [require_bind] at h
        obtain rfl := Except.ok.inj h.2.2
        exact (offers_enqueueAll _ _).trans (offers_setChange_same fun c => by rfl)
      · simp only [require_bind] at h
        obtain rfl := Except.ok.inj h.2
        exact offers_enqueueAll _ _

theorem handle_offers {jobId : Id} {succeeds : Bool} (h : handle s jobId succeeds = .ok s') :
    s'.offers = s.offers := by
  unfold handle at h
  rcases hjob : s.jobs[jobId]? with _ | job
  · simp [hjob] at h
  · simp only [hjob, require_bind] at h
    obtain ⟨-, h⟩ := h
    split at h
    · obtain ⟨s₁, hactivate, h⟩ := bind_ok h
      obtain rfl := Except.ok.inj h
      exact show s₁.offers = s.offers from activate_offers hactivate
    · simp only [require_bind] at h
      obtain rfl := Except.ok.inj h.2
      rfl

theorem completeJob_changes {jobId : Id} (h : completeJob s jobId = .ok s') :
    s'.changes = s.changes := by
  unfold completeJob at h
  rcases hjob : s.jobs[jobId]? with _ | job
  · simp [hjob] at h
  · simp only [hjob, require_bind] at h
    obtain rfl := Except.ok.inj h.2
    rfl

theorem deadLetter_changes {jobId : Id} (h : deadLetter s jobId = .ok s') :
    s'.changes = s.changes := by
  unfold deadLetter at h
  rcases hjob : s.jobs[jobId]? with _ | job
  · simp [hjob] at h
  · simp only [hjob, require_bind] at h
    obtain rfl := Except.ok.inj h.2
    rfl

theorem markManualTakeover_offers {jobId : Id} (h : markManualTakeover s jobId = .ok s') :
    s'.offers = s.offers := by
  unfold markManualTakeover at h
  rcases hjob : s.jobs[jobId]? with _ | job
  · simp [hjob] at h
  · simp only [hjob, require_bind] at h
    obtain rfl := Except.ok.inj h.2
    refine offers_setChange_same (s := s) fun c => ?_
    split <;> rfl

theorem completeIfReady_offers (h : completeIfReady s id = .ok s') : s'.offers = s.offers := by
  unfold completeIfReady at h
  rcases hc : s.changes[id]? with _ | c
  · simp [hc] at h
  · simp only [hc, require_bind] at h
    obtain rfl := Except.ok.inj h.2
    exact offers_setChange_same fun c => rfl

theorem retryAutomationJob_offers {jobId : Id} {version : Nat}
    (h : retryAutomationJob s id jobId version = .ok s') : s'.offers = s.offers := by
  obtain ⟨⟨c, d⟩, -, h⟩ := bind_ok h
  simp only [assertVersionMatches, require_bind] at h
  obtain ⟨-, -, h⟩ := h
  rcases hjob : s.jobs[jobId]? with _ | job
  · simp [hjob] at h
  · simp only [hjob, require_bind] at h
    obtain rfl := Except.ok.inj h.2.2.2
    exact offers_setChange_same (s := s.setJob jobId Job.reopened) fun c => rfl

theorem failChange_offer (c : ChangeOrder) : (failChange c).offer = c.offer := by
  unfold failChange
  split <;> rfl

theorem expireSegment_offers {segmentId : Id} {closure : Bool} {r : ExpiryOutcome × State}
    (h : expireSegment s segmentId closure = .ok r) : r.2.offers = s.offers := by
  unfold expireSegment at h
  rcases hg : s.segments[segmentId]? with _ | g
  · simp [hg] at h
  · simp only [hg, require_bind] at h
    obtain ⟨-, h⟩ := h
    split at h
    · obtain rfl := Except.ok.inj h
      rfl
    · simp only [require_bind] at h
      obtain ⟨-, -, h⟩ := h
      split at h
      · obtain rfl := Except.ok.inj h
        rfl
      · simp only [require_bind] at h
        obtain rfl := Except.ok.inj h.2
        rcases hexpiring : expiringChange s segmentId with _ | c
        · rfl
        · exact show (s.setChange c.id failChange).offers = s.offers from
            offers_setChange_same failChange_offer

theorem moveSwap_offers {status : ChangeStatus} (h : moveSwap s id status = .ok s') :
    s'.offers = s.offers := by
  unfold moveSwap at h
  rcases hc : s.changes[id]? with _ | c
  · simp [hc] at h
  · simp only [hc, require_bind] at h
    obtain rfl := Except.ok.inj h.2.2
    exact offers_setChange_same fun c => rfl

theorem activateIfReady_offers {blockers : Bool} {pricing : Pricing} {contractId : Id}
    {snapshot : Json} (h : activateIfReady s id blockers pricing contractId snapshot = .ok s') :
    s'.offers = s.offers := by
  unfold activateIfReady at h
  rcases hc : s.changes[id]? with _ | c
  · simp [hc] at h
  · simp only [hc, require_bind] at h
    obtain ⟨-, h⟩ := h
    split at h
    · obtain rfl := Except.ok.inj h
      rfl
    · split at h
      · obtain rfl := Except.ok.inj h
        rfl
      · obtain ⟨s₁, hadd, h⟩ := bind_ok h
        obtain rfl := Except.ok.inj h
        obtain ⟨-, -, -, -, rfl⟩ := addSegment_ok hadd
        exact offers_setChange_same fun c => by rfl

theorem backfillSource_offers {segmentId : Id} (h : backfillSource s id segmentId = .ok s') :
    s'.offers = s.offers := by
  unfold backfillSource at h
  rcases hc : s.changes[id]? with _ | c
  · simp [hc] at h
  · simp only [hc, require_bind] at h
    obtain rfl := Except.ok.inj h.2
    exact offers_setChange_same fun c => rfl

theorem Offering.of_changes (h : s'.changes = s.changes) : Offering e s.offers s'.offers :=
  .of_eq (congrArg (List.map ChangeOrder.offer) h)

/-- What an operation does to the offers. -/
theorem perform_offers (h : perform s e = .ok s') : Offering e s.offers s'.offers := by
  cases e with
  | tick elapsed =>
    obtain rfl := Except.ok.inj h
    exact .same
  | vehicle status =>
    obtain rfl := Except.ok.inj h
    exact .same
  | ensureBaseSegment => exact .of_changes (ensureBaseSegment_changes h)
  | prepareExtension months mode considerationId => exact .of_changes (prepareExtension_changes h)
  | createExtension call => exact createExtension_offers h
  | enrollSegment segmentId => exact .of_changes (enrollSegment_changes h)
  | decideRenewal id version decision periodMonths => exact decideRenewal_offers h
  | createFormalQuote id version actorId pricing hours => exact createFormalQuote_offers h
  | approvePriceOverride id version actorId reason => exact approvePriceOverride_offers h
  | submitCustomerConfirmation id version => exact submitCustomerConfirmation_offers h
  | confirmQuote id version quoteId => exact confirmQuote_offers h
  | rejectQuote id version quoteId reason => exact rejectQuote_offers h
  | reserveGeneration id version contractId snapshot => exact .of_eq (reserveGeneration_offers h)
  | finalizeGeneration id version contractId => exact .of_eq (finalizeGeneration_offers h)
  | abortGenerationReservation id contractId => exact .of_eq (abortGenerationReservation_offers h)
  | finalizeArchivedContract id evidence =>
    obtain ⟨r, hr, rfl⟩ := map_ok h
    exact .of_eq (finalizeArchivedContract_offers hr)
  | cancel id version reason => exact cancel_offers h
  | manualTakeover id version reason => exact manualTakeover_offers h
  | retryAutomationJob id jobId version => exact .of_eq (retryAutomationJob_offers h)
  | handle jobId succeeds => exact .of_eq (handle_offers h)
  | completeJob jobId => exact .of_changes (completeJob_changes h)
  | deadLetter jobId => exact .of_changes (deadLetter_changes h)
  | markManualTakeover jobId => exact .of_eq (markManualTakeover_offers h)
  | completeIfReady id => exact .of_eq (completeIfReady_offers h)
  | expireSegment segmentId closure =>
    obtain ⟨r, hr, rfl⟩ := map_ok h
    exact .of_eq (expireSegment_offers hr)
  | createSwap deadline => exact createSwap_offers h
  | moveSwap id status => exact .of_eq (moveSwap_offers h)
  | activateIfReady id blockers pricing contractId snapshot =>
    exact .of_eq (activateIfReady_offers h)
  | backfillSource id segmentId => exact .of_eq (backfillSource_offers h)

end SubscriptionSaas.Change
