import SubscriptionSaas.Change.Proofs.AuthorityProofs
import SubscriptionSaas.Change.Proofs.OfferProofs
import Mathlib.Data.List.Induction

/-!
# Four eyes on a price override

A quote that has been published or confirmed is the current quote of its change and keeps its terms.
Unless it is priced by the current version, somebody other than its creator has approved it: the
approval was given when the quote was the current one, and a newer quote would have removed it.
-/

namespace SubscriptionSaas.Change

open Billing Contract Results

variable {s s' : State} {e : Event} {id : Id} {o o' : Offer}

/-! ## What an offer keeps -/

/-- All of a quote but its status. -/
def Quote.terms (quote : Quote) : Pricing × PricingMode × Id :=
  (quote.pricing, quote.pricingMode, quote.createdBy)

/-- The terms of the quotes that were there stay; what is published stays the last word. -/
structure Offer.Kept (o o' : Offer) : Prop where
  terms : o.quotes.map Quote.terms <+: o'.quotes.map Quote.terms
  published : o.published = true → o'.published = true ∧ o'.currentQuoteId = o.currentQuoteId ∧
    o'.quotes.length = o.quotes.length

theorem Offer.Kept.refl (o : Offer) : o.Kept o := ⟨List.prefix_rfl, fun h => ⟨h, rfl, rfl⟩⟩

theorem Offer.Kept.trans {o'' : Offer} (h : o.Kept o') (h' : o'.Kept o'') : o.Kept o'' where
  terms := h.terms.trans h'.terms
  published hpublished := by
    obtain ⟨hpublished, hcurrent, hlength⟩ := h.published hpublished
    obtain ⟨hpublished', hcurrent', hlength'⟩ := h'.published hpublished
    exact ⟨hpublished', hcurrent'.trans hcurrent, hlength'.trans hlength⟩

theorem mode_of_terms {q q' : Quote} (h : q.terms = q'.terms) : q.pricingMode = q'.pricingMode :=
  congrArg (·.2.1) h

theorem creator_of_terms {q q' : Quote} (h : q.terms = q'.terms) : q.createdBy = q'.createdBy :=
  congrArg (·.2.2) h

/-- A change of status keeps the terms. -/
theorem terms_modify {quotes : List Quote} {i : Nat} {f : Quote → Quote}
    (hf : ∀ q, (f q).terms = q.terms) :
    (quotes.modify i f).map Quote.terms = quotes.map Quote.terms := by
  refine List.ext_getElem? fun j => ?_
  by_cases hij : i = j
  · subst hij
    rcases hquote : quotes[i]? with _ | quote
    · simp [hquote]
    · simp [hquote, hf]
  · simp [hij]

theorem terms_superseded (quotes : List Quote) :
    (superseded quotes).map Quote.terms = quotes.map Quote.terms := by
  refine terms_modify fun quote => ?_
  split <;> rfl

theorem terms_decided (o : Offer) (i : Nat) (status : QuoteStatus) :
    (o.decided i status).quotes.map Quote.terms = o.quotes.map Quote.terms :=
  terms_modify fun _ => rfl

theorem prefix_decided (o : Offer) (i : Nat) (status : QuoteStatus) :
    o.quotes.map Quote.terms <+: (o.decided i status).quotes.map Quote.terms := by
  simp only [terms_decided, List.prefix_rfl]

/-- A quote keeps its place and its terms. -/
theorem get_of_terms {quotes quotes' : List Quote} {i : Nat} {quote : Quote}
    (h : quotes.map Quote.terms <+: quotes'.map Quote.terms) (hquote : quotes[i]? = some quote) :
    ∃ quote', quotes'[i]? = some quote' ∧ quote'.terms = quote.terms := by
  have hterms : (quotes.map Quote.terms)[i]? = some quote.terms := by simp [hquote]
  obtain ⟨rest, hrest⟩ := h
  have hget := Tables.get_append_rows rest hterms
  rw [hrest, List.getElem?_map] at hget
  exact Option.map_eq_some_iff.1 hget

theorem mem_of_terms {quotes quotes' : List Quote} {quote : Quote}
    (h : quotes'.map Quote.terms = quotes.map Quote.terms) (hquote : quote ∈ quotes') :
    ∃ quote' ∈ quotes, quote'.terms = quote.terms := by
  have hmem := List.mem_map_of_mem (f := Quote.terms) hquote
  rw [h] at hmem
  exact List.mem_map.1 hmem

theorem OfferMove.kept (h : OfferMove id e o o') : o.Kept o' := by
  cases h with
  | formal detail quote hdetail hopen hquote =>
    constructor
    · rw [List.map_append, terms_superseded]
      exact List.prefix_append _ _
    · intro hpublished
      rw [hopen.1] at hpublished
      cases hpublished
  | approve detail version approver reason i quote he hdetail hcurrent hother =>
    exact ⟨List.prefix_rfl, fun h => ⟨h, rfl, rfl⟩⟩
  | publish detail i quote hdetail hmode hcurrent =>
    exact ⟨List.prefix_rfl, fun h => ⟨rfl, rfl, rfl⟩⟩
  | confirm i hpublished hcurrent =>
    exact ⟨prefix_decided _ _ _, fun h => ⟨h, rfl, List.length_modify _ _ _⟩⟩
  | reject i hpublished hcurrent =>
    exact ⟨prefix_decided _ _ _, fun h => ⟨h, rfl, List.length_modify _ _ _⟩⟩

/-! ## The invariant of an offer -/

/-- `Approval i approver terms` tells that the price of the quote `i` has been approved. -/
structure Offer.Sound (Approval : Nat → Id → Pricing × PricingMode × Id → Prop) (o : Offer) :
    Prop where
  mode : ∀ detail, o.detail = .extension detail →
    ∀ quote ∈ o.quotes, quote.pricingMode = detail.pricingMode
  published : o.published = true → ∃ i, o.currentQuoteId = some i
  confirmed : ∀ i, o.confirmedQuoteId = some i → o.published = true ∧ o.currentQuoteId = some i
  status : ∀ i quote, o.quotes[i]? = some quote → quote.status = .customerConfirmed →
    o.confirmedQuoteId = some i
  override : o.published = true → ∀ detail, o.detail = .extension detail →
    detail.pricingMode = .currentVersion ∨ detail.priceOverrideApprovedBy ≠ none
  approved : ∀ approver, o.approvedBy = some approver → ∃ i quote, o.currentQuoteId = some i ∧
    o.quotes[i]? = some quote ∧ quote.createdBy ≠ approver ∧ Approval i approver quote.terms

variable {Approval Approval' : Nat → Id → Pricing × PricingMode × Id → Prop}

theorem Offer.Fresh.sound (h : o.Fresh) : o.Sound Approval := by
  obtain ⟨hquotes, hcurrent, hconfirmed, hpublished, happroved⟩ := h
  constructor <;> simp_all

theorem Offer.Sound.mono (h : o.Sound Approval)
    (hmono : ∀ i approver terms, Approval i approver terms → Approval' i approver terms) :
    o.Sound Approval' :=
  { h with
    approved := fun approver happroved => by
      obtain ⟨i, quote, hcurrent, hquote, hother, hgranted⟩ := h.approved approver happroved
      exact ⟨i, quote, hcurrent, hquote, hother, hmono _ _ _ hgranted⟩ }

/-- The decision on the current quote. -/
theorem Offer.Sound.decided (h : o.Sound Approval) {i : Nat} (status : QuoteStatus)
    (hpublished : o.published = true) (hcurrent : o.currentQuoteId = some i)
    {confirmedQuoteId : Option Nat} (hconfirmed : confirmedQuoteId = some i ∨
      confirmedQuoteId = o.confirmedQuoteId ∧ status ≠ .customerConfirmed) :
    Offer.Sound Approval { o.decided i status with confirmedQuoteId := confirmedQuoteId } where
  mode detail hdetail quote hquote := by
    obtain ⟨quote', hquote', hterms⟩ := mem_of_terms (terms_decided o i status) hquote
    rw [← mode_of_terms hterms]
    exact h.mode detail hdetail quote' hquote'
  published _ := ⟨i, hcurrent⟩
  confirmed j hj := by
    rcases hconfirmed with hconfirmed | ⟨hconfirmed, -⟩
    · obtain rfl : i = j := Option.some.inj (hconfirmed.symm.trans hj)
      exact ⟨hpublished, hcurrent⟩
    · exact h.confirmed j (hconfirmed.symm.trans hj)
  status j quote hquote hstatus := by
    rcases Tables.get_modify hquote with ⟨hne, hquote⟩ | ⟨rfl, quote', -, rfl⟩
    · -- another quote than the current one has not been confirmed
      have hother := (h.confirmed j (h.status j quote hquote hstatus)).2
      exact absurd (Option.some.inj (hother.symm.trans hcurrent)) hne
    · exact hconfirmed.resolve_right fun hrejected => hrejected.2 hstatus
  override _ detail hdetail := h.override hpublished detail hdetail
  approved approver happroved := by
    obtain ⟨j, quote, hj, hquote, hother, hgranted⟩ := h.approved approver happroved
    obtain ⟨quote', hquote', hterms⟩ := get_of_terms (prefix_decided o i status) hquote
    refine ⟨j, quote', hj, hquote', ?_, hterms ▸ hgranted⟩
    rw [creator_of_terms hterms]
    exact hother

/-- A newer quote, which waits for its approval. -/
theorem Offer.Sound.formal (h : o.Sound Approval) {detail : ExtensionDetail} {quote : Quote}
    (hdetail : o.detail = .extension detail)
    (hopen : o.published = false ∧ o.confirmedQuoteId = none)
    (hquote : quote.status = .formal ∧ quote.pricingMode = detail.pricingMode) :
    Offer.Sound Approval
      { o.approved detail none with
        quotes := superseded o.quotes ++ [quote]
        currentQuoteId := some o.quotes.length } where
  mode d hd q hq := by
    obtain rfl := Detail.extension.inj hd
    rcases List.mem_append.1 hq with hq | hq
    · obtain ⟨q', hq', hterms⟩ := mem_of_terms (terms_superseded o.quotes) hq
      rw [← mode_of_terms hterms]
      exact h.mode detail hdetail q' hq'
    · obtain rfl := List.mem_singleton.1 hq
      exact hquote.2
  published _ := ⟨_, rfl⟩
  confirmed i hi := absurd (hopen.2.symm.trans hi) nofun
  status i q hq hstatus := by
    have hnone (j : Nat) (q' : Quote) (hq' : o.quotes[j]? = some q') :
        q'.status ≠ .customerConfirmed := fun hstatus' =>
      absurd (hopen.2.symm.trans (h.status j q' hq' hstatus')) nofun
    rcases Tables.get_append hq with hq | ⟨-, rfl⟩
    · rcases Tables.get_modify hq with ⟨-, hq⟩ | ⟨-, q', hq', rfl⟩
      · exact absurd hstatus (hnone i q hq)
      · split at hstatus
        · cases hstatus
        · exact absurd hstatus (hnone _ q' hq')
    · rw [hquote.1] at hstatus
      cases hstatus
  override hpublished := absurd (hopen.1.symm.trans hpublished) nofun
  approved approver happroved := by cases happroved

/-- What the moves of an offer keep, when the approval that the event gives counts. -/
theorem OfferMove.sound (hmove : OfferMove id e o o') (h : o.Sound Approval)
    (happrove : ∀ version approver reason i quote, e = .approvePriceOverride id version approver reason →
      o.currentQuoteId = some i → o.quotes[i]? = some quote → Approval i approver quote.terms) :
    o'.Sound Approval := by
  cases hmove with
  | formal detail quote hdetail hopen hquote => exact h.formal hdetail hopen hquote
  | approve detail version approver reason i quote he hdetail hcurrent hother =>
    exact {
      mode := fun d hd q hq => by
        obtain rfl := Detail.extension.inj hd
        exact h.mode detail hdetail q hq
      published := h.published
      confirmed := h.confirmed
      status := h.status
      override := fun _ d hd => by
        obtain rfl := Detail.extension.inj hd
        exact .inr (Option.some_ne_none approver)
      approved := fun a ha => by
        obtain rfl : approver = a := Option.some.inj ha
        exact ⟨i, quote, hcurrent.1, hcurrent.2, hother,
          happrove version approver reason i quote he hcurrent.1 hcurrent.2⟩ }
  | publish detail i quote hdetail hmode hcurrent =>
    exact { h with
      published := fun _ => ⟨i, hcurrent.1⟩
      confirmed := fun j hj => ⟨rfl, (h.confirmed j hj).2⟩
      override := fun _ d hd => by
        obtain rfl := Detail.extension.inj (hdetail.symm.trans hd)
        exact hmode }
  | confirm i hpublished hcurrent =>
    exact h.decided .customerConfirmed hpublished hcurrent (.inl rfl)
  | reject i hpublished hcurrent =>
    exact h.decided .customerRejected hpublished hcurrent (.inr ⟨rfl, nofun⟩)

/-! ## The offers of an order in its history -/

/-- In the run, `approver` has approved the price of the quote `i` of the change `id` with these
terms, when the quote was the current one. -/
def Granted (now : Int) (order : Order) (lease : Option LeaseStatus) (evs : List Event) (id : Id)
    (i : Nat) (approver : Id) (terms : Pricing × PricingMode × Id) : Prop :=
  ∃ before after version reason change,
    evs = before ++ .approvePriceOverride id version approver reason :: after ∧
    (perform (history now order lease before)
      (.approvePriceOverride id version approver reason)).isOk ∧
    (history now order lease before).changes[id]? = some change ∧
    change.currentQuoteId = some i ∧ (change.quotes[i]?).map Quote.terms = some terms

theorem Granted.append {now : Int} {order : Order} {lease : Option LeaseStatus} {evs : List Event}
    {i : Nat} {approver : Id} {terms : Pricing × PricingMode × Id}
    (h : Granted now order lease evs id i approver terms) (later : List Event) :
    Granted now order lease (evs ++ later) id i approver terms := by
  obtain ⟨before, after, version, reason, change, rfl, hfound⟩ := h
  exact ⟨before, after ++ later, version, reason, change, by simp, hfound⟩

theorem change_of_offer (ho : s.offers[id]? = some o) :
    ∃ change, s.changes[id]? = some change ∧ change.offer = o := by
  rw [State.offers, List.getElem?_map] at ho
  exact Option.map_eq_some_iff.1 ho

theorem step_offers (s : State) (e : Event) : (step s e).offers = s.offers ∨
    ((perform s e).isOk ∧ Offering e s.offers (step s e).offers) := by
  unfold step
  rcases hs : perform s e with error | s'
  · exact .inl rfl
  · exact .inr ⟨rfl, perform_offers hs⟩

theorem history_sound (now : Int) (order : Order) (lease : Option LeaseStatus) (evs : List Event)
    (ho : (history now order lease evs).offers[id]? = some o) :
    o.Sound (Granted now order lease evs id) := by
  induction evs using List.reverseRecOn generalizing id o with
  | nil => cases ho
  | append_singleton evs e ih =>
    have hkeep {id : Id} {o : Offer} (ho : (history now order lease evs).offers[id]? = some o) :
        o.Sound (Granted now order lease (evs ++ [e]) id) :=
      (ih ho).mono fun _ _ _ hgranted => hgranted.append [e]
    have hlast : history now order lease (evs ++ [e]) = step (history now order lease evs) e :=
      Runs.runs_append step _ evs [e]
    rw [hlast] at ho
    rcases step_offers (history now order lease evs) e with hsame | ⟨hok, hoffering⟩
    · rw [hsame] at ho
      exact hkeep ho
    · generalize (step (history now order lease evs) e).offers = offers' at hoffering ho
      cases hoffering with
      | same => exact hkeep ho
      | move k o₁ o₂ hold hmove =>
        rcases Tables.get_modify ho with ⟨-, ho⟩ | ⟨rfl, o₃, -, rfl⟩
        · exact hkeep ho
        · refine hmove.sound (hkeep hold) fun version approver reason i quote he hcurrent hquote => ?_
          obtain ⟨change, hchange, rfl⟩ := change_of_offer hold
          subst he
          refine ⟨evs, [], version, reason, change, rfl, hok, hchange, hcurrent, ?_⟩
          rw [show change.quotes[i]? = some quote from hquote]
          rfl
      | opens o₁ hfresh =>
        rcases Tables.get_append ho with ho | ⟨-, rfl⟩
        · exact hkeep ho
        · exact hfresh.sound

theorem step_kept (e : Event) (ho : s.offers[id]? = some o) :
    ∃ o', (step s e).offers[id]? = some o' ∧ o.Kept o' := by
  rcases step_offers s e with hsame | ⟨-, hoffering⟩
  · exact ⟨o, by rw [hsame, ho], .refl o⟩
  · generalize (step s e).offers = offers' at hoffering
    cases hoffering with
    | same => exact ⟨o, ho, .refl o⟩
    | move k o₁ o₂ hold hmove =>
      by_cases hk : id = k
      · subst hk
        obtain rfl := Option.some.inj (ho.symm.trans hold)
        exact ⟨o₂, Tables.get_modify_self ho, hmove.kept⟩
      · exact ⟨o, by rw [Tables.get_modify_ne hk, ho], .refl o⟩
    | opens o₁ hfresh => exact ⟨o, Tables.get_append_rows [o₁] ho, .refl o⟩

theorem runs_kept (evs : List Event) (ho : s.offers[id]? = some o) :
    ∃ o', (Runs.runs step s evs).offers[id]? = some o' ∧ o.Kept o' := by
  induction evs generalizing s o with
  | nil => exact ⟨o, ho, .refl o⟩
  | cons e evs ih =>
    obtain ⟨o₁, ho₁, hkept⟩ := step_kept e ho
    obtain ⟨o', ho', hkept'⟩ := ih ho₁
    exact ⟨o', ho', hkept.trans hkept'⟩

/-- What the customer has been shown, or has confirmed, is the current quote. -/
theorem Offer.Sound.public {Approval : Nat → Id → Pricing × PricingMode × Id → Prop}
    (h : o.Sound Approval) {i : Nat} (hpublic : o.Public i) :
    o.published = true ∧ o.currentQuoteId = some i := by
  rcases hpublic with hpublished | hconfirmed | ⟨quote, hquote, hstatus⟩
  · exact hpublished
  · exact h.confirmed i hconfirmed
  · exact h.confirmed i (h.status i quote hquote hstatus)

/-- In every history, a published or confirmed quote that is not priced by the current version carries
the approval of somebody other than its creator, given when it was the current quote, for these terms;
and whatever happens later, it stays the current quote with its terms. -/
theorem public_quote_approved (now : Int) (order : Order) (lease : Option LeaseStatus)
    (evs : List Event) {change : ChangeOrder} {detail : ExtensionDetail} {i : Nat} {quote : Quote}
    (hchange : (history now order lease evs).changes[id]? = some change)
    (hdetail : change.detail = .extension detail) (hquote : change.quotes[i]? = some quote)
    (hpublic : change.offer.Public i) :
    (quote.pricingMode ≠ .currentVersion →
      ∃ approver, detail.priceOverrideApprovedBy = some approver ∧ approver ≠ quote.createdBy ∧
        Granted now order lease evs id i approver quote.terms) ∧
    ∀ later, ∃ change' quote', (history now order lease (evs ++ later)).changes[id]? = some change' ∧
      change'.quotes[i]? = some quote' ∧ quote'.terms = quote.terms ∧ change'.offer.Public i ∧
      change'.currentQuoteId = some i ∧ change'.quotes.length = change.quotes.length := by
  have hsound := history_sound now order lease evs (offers_get hchange)
  obtain ⟨hpublished, hcurrent⟩ := hsound.public hpublic
  constructor
  · intro hmode
    rw [hsound.mode detail hdetail quote (List.mem_of_getElem? hquote)] at hmode
    obtain ⟨approver, happrover⟩ := Option.ne_none_iff_exists'.1
      ((hsound.override hpublished detail hdetail).resolve_left hmode)
    have happroved : change.offer.approvedBy = some approver := by
      simp only [Offer.approvedBy, ChangeOrder.offer, hdetail, happrover]
    obtain ⟨j, quote', hj, hquote', hother, hgranted⟩ := hsound.approved approver happroved
    obtain rfl : j = i := Option.some.inj (hj.symm.trans hcurrent)
    obtain rfl : quote' = quote := Option.some.inj (hquote'.symm.trans hquote)
    exact ⟨approver, happrover, hother.symm, hgranted⟩
  · intro later
    obtain ⟨o', ho', hkept⟩ := runs_kept later (offers_get hchange)
    obtain ⟨change', hchange', rfl⟩ := change_of_offer ho'
    obtain ⟨hpublished', hcurrent', hlength⟩ := hkept.published hpublished
    obtain ⟨quote', hquote', hterms⟩ := get_of_terms hkept.terms hquote
    refine ⟨change', quote', ?_, hquote', hterms, .inl ⟨hpublished', ?_⟩, ?_, hlength⟩
    · rw [history, Runs.runs_append]
      exact hchange'
    · exact hcurrent'.trans hcurrent
    · exact hcurrent'.trans hcurrent

/-- An extension at its original price, quoted by one and approved by another. -/
def overridden : List Event :=
  [.prepareExtension 1 .originalPrice none, .createExtension 0,
    .createFormalQuote 0 0 1 monthPricing 48, .approvePriceOverride 0 1 2 "Kept customer",
    .submitCustomerConfirmation 0 2, .confirmQuote 0 3 0]

theorem public_quote_approved_sample : ∃ (approver : Id) (quote : Quote),
    approver ≠ quote.createdBy ∧
    quote.pricingMode = .originalPrice ∧
    Granted 0 leasedOrder (some .active) overridden 0 0 approver quote.terms := by
  have hfound : ((history 0 leasedOrder (some .active) overridden).changes[0]?).any fun change =>
      change.customerConfirmationPublished && change.currentQuoteId == some 0 &&
        change.extensionDetail.isSome &&
        (change.quotes[0]?).any fun quote => quote.pricingMode == .originalPrice := by
    decide +kernel
  simp only [Option.any_eq_true, Bool.and_eq_true, beq_iff_eq] at hfound
  obtain ⟨change, hchange, ⟨⟨hpublished, hcurrent⟩, hextension⟩, quote, hquote, hmode⟩ := hfound
  obtain ⟨detail, hdetail⟩ : ∃ detail, change.detail = .extension detail := by
    rcases hdetail : change.detail with detail | _
    · exact ⟨detail, rfl⟩
    · simp [ChangeOrder.extensionDetail, hdetail] at hextension
  have hpriced : quote.pricingMode ≠ .currentVersion := by
    rw [hmode]
    decide
  obtain ⟨approver, -, hother, hgranted⟩ := (public_quote_approved 0 leasedOrder (some .active)
    overridden hchange hdetail hquote (.inl ⟨hpublished, hcurrent⟩)).1 hpriced
  exact ⟨approver, quote, hother, hmode, hgranted⟩

end SubscriptionSaas.Change
