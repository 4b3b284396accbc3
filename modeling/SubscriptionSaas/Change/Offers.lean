import SubscriptionSaas.Change.Lifecycle

/-!
# What a change offers to the customer

The quotes of a change, the one that is current, the approval of its price, its publication and its
confirmation. An offer moves by formal quotes, approvals, publications and the decision of the
customer, and by nothing else.
-/

namespace SubscriptionSaas.Change

open Billing Contract

/-- What the price override approval and the customer's decision are about. -/
structure Offer where
  detail : Detail
  quotes : List Quote
  currentQuoteId : Option Nat
  confirmedQuoteId : Option Nat
  published : Bool

def ChangeOrder.offer (change : ChangeOrder) : Offer :=
  ⟨change.detail, change.quotes, change.currentQuoteId, change.confirmedQuoteId,
    change.customerConfirmationPublished⟩

/-- The offers of the changes, in their order. -/
def State.offers (s : State) : List Offer := s.changes.map ChangeOrder.offer

namespace Offer

variable (o : Offer)

/-- Who has approved the price of the current quote. -/
def approvedBy : Option Id :=
  match o.detail with
  | .extension detail => detail.priceOverrideApprovedBy
  | .vehicleSwap => none

/-- An offer without quotes. -/
def Fresh : Prop :=
  o.quotes = [] ∧ o.currentQuoteId = none ∧ o.confirmedQuoteId = none ∧ o.published = false ∧
    o.approvedBy = none

/-- The customer has been shown the quote `i`, or has confirmed it. -/
def Public (i : Nat) : Prop :=
  (o.published = true ∧ o.currentQuoteId = some i) ∨ o.confirmedQuoteId = some i ∨
    ∃ quote, o.quotes[i]? = some quote ∧ quote.status = .customerConfirmed

/-- The price override of the extension is approved by `approver`, or waits for an approval. -/
def approved (detail : ExtensionDetail) (approver : Option Id) : Offer :=
  { o with detail := .extension { detail with priceOverrideApprovedBy := approver } }

/-- The customer's decision on the quote `i`. -/
def decided (i : Nat) (status : QuoteStatus) : Offer :=
  { o with quotes := o.quotes.modify i fun quote => { quote with status := status } }

end Offer

/-- The quotes after a newer one. -/
def superseded (quotes : List Quote) : List Quote :=
  quotes.modify (quotes.length - 1) fun quote =>
    if quote.status = .formal then { quote with status := .superseded } else quote

/-- How the event `e` moves the offer `o` of the change `id`. -/
inductive OfferMove (id : Id) (e : Event) (o : Offer) : Offer → Prop
  | formal (detail : ExtensionDetail) (quote : Quote) (hdetail : o.detail = .extension detail)
      (hopen : o.published = false ∧ o.confirmedQuoteId = none)
      (hquote : quote.status = .formal ∧ quote.pricingMode = detail.pricingMode) :
      OfferMove id e o
        { o.approved detail none with
          quotes := superseded o.quotes ++ [quote]
          currentQuoteId := some o.quotes.length }
  | approve (detail : ExtensionDetail) (version : Nat) (approver : Id) (reason : String) (i : Nat)
      (quote : Quote) (he : e = .approvePriceOverride id version approver reason)
      (hdetail : o.detail = .extension detail)
      (hcurrent : o.currentQuoteId = some i ∧ o.quotes[i]? = some quote)
      (hother : quote.createdBy ≠ approver) :
      OfferMove id e o (o.approved detail (some approver))
  | publish (detail : ExtensionDetail) (i : Nat) (quote : Quote)
      (hdetail : o.detail = .extension detail)
      (hmode : detail.pricingMode = .currentVersion ∨ detail.priceOverrideApprovedBy ≠ none)
      (hcurrent : o.currentQuoteId = some i ∧ o.quotes[i]? = some quote) :
      OfferMove id e o { o with published := true }
  | confirm (i : Nat) (hpublished : o.published = true) (hcurrent : o.currentQuoteId = some i) :
      OfferMove id e o { o.decided i .customerConfirmed with confirmedQuoteId := some i }
  | reject (i : Nat) (hpublished : o.published = true) (hcurrent : o.currentQuoteId = some i) :
      OfferMove id e o (o.decided i .customerRejected)

/-- What the event `e` does to the offers of an order. -/
inductive Offering (e : Event) (offers : List Offer) : List Offer → Prop
  | same : Offering e offers offers
  | move (id : Id) (o o' : Offer) (ho : offers[id]? = some o) (hmove : OfferMove id e o o') :
      Offering e offers (offers.modify id fun _ => o')
  | opens (o : Offer) (hfresh : o.Fresh) : Offering e offers (offers ++ [o])

end SubscriptionSaas.Change
