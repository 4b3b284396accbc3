import SubscriptionSaas.Change.Proofs.RetryProofs

/-!
# The end of the service

An expiry finds the following segment or ends the service, and what it decides stands: what follows
can still become active, and what has ended is continued by no extension (`end_decided_once`).
-/

namespace SubscriptionSaas.Change

open Calendar Billing Contract Results Tables

variable {Good : State → Event → Prop} {s s' : State}

/-! ## Deadlines -/

/-- A deadline of an extension of the segment `k`: as long as the segment is the last one, it is the
beginning of the day after the segment's end. -/
def State.Fits (s : State) (k : Id) (deadline : Int) : Prop :=
  ∃ g, s.segments[k]? = some g ∧
    (k + 1 = s.segments.length → deadline = shanghaiStartOfDate (g.endDate + 1))

structure Fitting (s : State) : Prop where
  sound : Sound s
  prepared (p : PreparedExtension) : p ∈ s.prepared →
    s.Fits p.sourceSegmentId p.completionDeadlineAt
  considerations (r : RenewalConsideration) : r ∈ s.considerations →
    s.Fits r.segmentId r.completionDeadlineAt
  changes (c : ChangeOrder) (t : Id × Int × Int) : c ∈ s.changes → c.term = some t →
    s.Fits t.1 c.completionDeadlineAt

/-- The segments stay, and the last one with its end. -/
def Grows (segs segs' : List Segment) : Prop :=
  ∀ (k : Nat) (g : Segment), segs[k]? = some g → ∃ g', segs'[k]? = some g' ∧
    (k + 1 = segs'.length → k + 1 = segs.length ∧ g'.endDate = g.endDate)

theorem Grows.refl {segs : List Segment} : Grows segs segs := fun _ g hg =>
  ⟨g, hg, fun hlen => ⟨hlen, rfl⟩⟩

theorem Grows.trans {segs segs' segs'' : List Segment} (h : Grows segs segs')
    (h' : Grows segs' segs'') : Grows segs segs'' := by
  intro k g hg
  obtain ⟨g', hg', hlast⟩ := h k g hg
  obtain ⟨g'', hg'', hlast'⟩ := h' k g' hg'
  refine ⟨g'', hg'', fun hlen => ?_⟩
  obtain ⟨hlen', hend'⟩ := hlast' hlen
  obtain ⟨hlen'', hend⟩ := hlast hlen'
  exact ⟨hlen'', hend'.trans hend⟩

theorem Grows.modify {segs : List Segment} {i : Nat} {f : Segment → Segment}
    (hend : ∀ g : Segment, (f g).endDate = g.endDate) : Grows segs (segs.modify i f) := by
  intro k g hg
  rcases get_of_modify i f hg with hg' | ⟨-, hg'⟩
  · exact ⟨g, hg', fun hlen => ⟨by rwa [List.length_modify] at hlen, rfl⟩⟩
  · exact ⟨f g, hg', fun hlen => ⟨by rwa [List.length_modify] at hlen, hend g⟩⟩

/-- Behind a new segment no old one is the last. -/
theorem Grows.append {segs segs' : List Segment} {g : Segment} (hlen : segs'.length = segs.length)
    (hold : ∀ (k : Nat) (g : Segment), segs[k]? = some g → ∃ g', segs'[k]? = some g') :
    Grows segs (segs' ++ [g]) := by
  intro k g₀ hg
  obtain ⟨g', hg'⟩ := hold k g₀ hg
  refine ⟨g', get_append_old hg', fun hlast => ?_⟩
  have hlt := get_lt hg
  rw [List.length_append, List.length_singleton] at hlast
  omega

theorem State.Fits.grows {k : Id} {deadline : Int} (h : s.Fits k deadline)
    (hgrows : Grows s.segments s'.segments) : s'.Fits k deadline := by
  obtain ⟨g, hg, hdeadline⟩ := h
  obtain ⟨g', hg', hlast⟩ := hgrows k g hg
  refine ⟨g', hg', fun hlen => ?_⟩
  obtain ⟨hlen', hend⟩ := hlast hlen
  rw [hend]
  exact hdeadline hlen'

theorem Move.grows (h : Move Good s s') : Grows s.segments s'.segments := by
  cases h with
  | tick | vehicle | prepare | enroll | consideration | turn | opens | job | deadLetter | mark
  | retry => exact .refl
  | base => exact .append rfl fun _ g hg => ⟨g, hg⟩
  | schedule =>
    rw [show (State.setChange _ _ _).segments = _ from segments_enqueue _ _ _ _]
    exact .append rfl fun _ g hg => ⟨g, hg⟩
  | activate i cid k =>
    exact (Grows.modify (i := k) (f := Segment.completed) fun _ => rfl).trans
      (Grows.modify fun _ => rfl)
  | enqueue =>
    rw [segments_enqueue]
    exact .refl
  | expire _ i g closure hg hclosure hdue hnext hactive hsegments =>
    rw [hsegments]
    refine .modify fun g => ?_
    unfold completeActive
    split <;> rfl
  | swap =>
    refine .append (List.length_modify ..) fun k g hg => ?_
    rcases get_of_modify _ _ hg with hg' | ⟨-, hg'⟩
    · exact ⟨g, hg'⟩
    · exact ⟨_, hg'⟩

/-- The deadlines that a move does not set are those that were there. -/
theorem Fitting.keep (h : Fitting s) (hsound : Sound s') (hgrows : Grows s.segments s'.segments)
    (hprepared : ∀ p ∈ s'.prepared, p ∈ s.prepared ∨
      s'.Fits p.sourceSegmentId p.completionDeadlineAt)
    (hconsiderations : ∀ r ∈ s'.considerations, (∃ r₀ ∈ s.considerations,
      r.segmentId = r₀.segmentId ∧ r.completionDeadlineAt = r₀.completionDeadlineAt) ∨
      s'.Fits r.segmentId r.completionDeadlineAt)
    (hchanges : ∀ c ∈ s'.changes, (∃ c₀ ∈ s.changes, c.term = c₀.term ∧
      c.completionDeadlineAt = c₀.completionDeadlineAt) ∨
      ∀ t, c.term = some t → s'.Fits t.1 c.completionDeadlineAt) : Fitting s' where
  sound := hsound
  prepared p hp := by
    rcases hprepared p hp with hp | hfits
    · exact (h.prepared p hp).grows hgrows
    · exact hfits
  considerations r hr := by
    rcases hconsiderations r hr with ⟨r₀, hr₀, hsegment, hdeadline⟩ | hfits
    · rw [hsegment, hdeadline]
      exact (h.considerations r₀ hr₀).grows hgrows
    · exact hfits
  changes c t hc hterm := by
    rcases hchanges c hc with ⟨c₀, hc₀, hsame, hdeadline⟩ | hfits
    · rw [hdeadline]
      exact (h.changes c₀ t hc₀ (hsame ▸ hterm)).grows hgrows
    · exact hfits t hterm

/-- Every consideration after a move is one that was there, or a new one of the active order. -/
theorem Move.considerations (h : Move Good s s') {r : RenewalConsideration}
    (hr : r ∈ s'.considerations) : (∃ r₀ ∈ s.considerations, r.segmentId = r₀.segmentId ∧
      r.completionDeadlineAt = r₀.completionDeadlineAt) ∨
      (s.order.orderStatus = .active ∧ s'.Fits r.segmentId r.completionDeadlineAt) := by
  have hold (hr : r ∈ s.considerations) : ∃ r₀ ∈ s.considerations, r.segmentId = r₀.segmentId ∧
      r.completionDeadlineAt = r₀.completionDeadlineAt := ⟨r, hr, rfl, rfl⟩
  cases h with
  | tick | vehicle | base | prepare | turn | opens | activate | job | deadLetter | mark | retry
  | swap => exact .inl (hold hr)
  | enroll r' g hg hactive hlast hdeadline =>
    rcases List.mem_append.1 hr with hr | hr
    · exact .inl (hold hr)
    · obtain rfl := List.mem_singleton.1 hr
      exact .inr ⟨hactive, g, hg, fun _ => hdeadline⟩
  | consideration id f hkept =>
    obtain ⟨n, hn⟩ := List.mem_iff_getElem?.1 hr
    rcases get_modify hn with ⟨-, hn⟩ | ⟨-, r₀, hr₀, rfl⟩
    · exact .inl (hold (List.mem_of_getElem? hn))
    · exact .inl ⟨r₀, List.mem_of_getElem? hr₀, hkept r₀⟩
  | schedule =>
    rw [show (State.setChange _ _ _).considerations = _ from enqueue_considerations _ _ _ _] at hr
    exact .inl (hold hr)
  | enqueue =>
    rw [enqueue_considerations] at hr
    exact .inl (hold hr)
  | expire _ i g closure hg hclosure hdue hnext hactive hsegments hchanges hjobs htakeovers
      hconsiderations =>
    rw [hconsiderations] at hr
    obtain ⟨r₀, hr₀, rfl⟩ := List.mem_map.1 hr
    refine .inl ⟨r₀, hr₀, ?_⟩
    unfold expireConsideration
    split <;> exact ⟨rfl, rfl⟩

/-- What a move does to a change order: its source and its deadline stay, and it is live only if it
was or is before its deadline. A new one is as `Opens` says. -/
theorem Move.change (h : Move Good s s') {c' : ChangeOrder} (hc' : c' ∈ s'.changes) :
    (∃ c ∈ s.changes, c.Kept c' ∧ (c'.status.live = true → c.status.live = true ∨
      s.now < c.completionDeadlineAt)) ∨ Opens s c' := by
  have hold (hc' : c' ∈ s.changes) : (∃ c ∈ s.changes, c.Kept c' ∧ (c'.status.live = true →
      c.status.live = true ∨ s.now < c.completionDeadlineAt)) ∨ Opens s c' :=
    .inl ⟨c', hc', .of_eq rfl rfl rfl rfl, .inl⟩
  have hmodify {id : Nat} {f : ChangeOrder → ChangeOrder} (hkept : ∀ c, s.changes[id]? = some c →
      c.Kept (f c) ∧ ((f c).status.live = true → c.status.live = true ∨
        s.now < c.completionDeadlineAt)) (hc' : c' ∈ s.changes.modify id f) :
      (∃ c ∈ s.changes, c.Kept c' ∧ (c'.status.live = true → c.status.live = true ∨
        s.now < c.completionDeadlineAt)) ∨ Opens s c' := by
    obtain ⟨n, hn⟩ := List.mem_iff_getElem?.1 hc'
    rcases get_modify hn with ⟨-, hn⟩ | ⟨rfl, c, hc, rfl⟩
    · exact hold (List.mem_of_getElem? hn)
    · exact .inl ⟨c, List.mem_of_getElem? hc, hkept c hc⟩
  cases h with
  | tick | vehicle | base | prepare | enroll | consideration | job | deadLetter => exact hold hc'
  | turn id c f hc hkept hturn =>
    refine hmodify (fun c₀ hc₀ => ?_) hc'
    obtain rfl := Option.some.inj (hc.symm.trans hc₀)
    exact ⟨hkept, hturn.live_or_before⟩
  | opens c hid hstatus hsource hlive hopens =>
    rcases List.mem_append.1 hc' with hc' | hc'
    · exact hold hc'
    · obtain rfl := List.mem_singleton.1 hc'
      exact .inr hopens
  | schedule cid k c source segment f hfound hkept hstatus' =>
    rw [show (State.setChange _ cid f).changes = _ from
      congrArg (List.modify · cid f) (enqueue_changes _ _ _ _)] at hc'
    refine hmodify (fun c₀ hc₀ => ?_) hc'
    obtain rfl := Option.some.inj (hfound.change.symm.trans hc₀)
    exact ⟨hkept, fun _ => .inr hfound.deadline⟩
  | activate i cid k g source c f hfound hkept hstatus' =>
    refine hmodify (fun c₀ hc₀ => ?_) hc'
    obtain rfl := Option.some.inj (hfound.change.symm.trans hc₀)
    exact ⟨hkept, fun _ => .inl (by rw [hfound.scheduled]; rfl)⟩
  | enqueue =>
    rw [enqueue_changes] at hc'
    exact hold hc'
  | mark jobId job f hjob hmark hkept hturn =>
    refine hmodify (fun c₀ hc₀ => ⟨hkept c₀, fun hlive => .inl ?_⟩) hc'
    rcases hturn c₀ with ⟨hstatus, -⟩ | ⟨hstatus, -⟩
    · exact hstatus ▸ hlive
    · rcases hstatus with hstatus | hstatus <;> rw [hstatus] <;> rfl
  | retry id jobId c job f hc hjob hstatus hdead htarget hkept hstatus' =>
    refine hmodify (fun c₀ hc₀ => ?_) hc'
    obtain rfl := Option.some.inj (hc.symm.trans hc₀)
    exact ⟨hkept, fun _ => .inl (by rw [hstatus]; rfl)⟩
  | expire _ i g closure hg hclosure hdue hnext hactive hsegments hchanges hjobs =>
    rw [hchanges] at hc'
    split at hc'
    · refine hmodify (fun c₀ hc₀ => ⟨kept_failChange c₀, fun hlive => ?_⟩) hc'
      rw [failChange_live] at hlive
      cases hlive
    · exact hold hc'
  | swap cid k c source segment endDate f hc hterm hexecuting hsource hactive hsegment hcovers
      hnumber hsingle halone hkept hstatus' =>
    refine hmodify (fun c₀ hc₀ => ?_) hc'
    obtain rfl := Option.some.inj (hc.symm.trans hc₀)
    exact ⟨hkept, fun _ => .inl (by rw [hexecuting]; rfl)⟩

/-- A new change has the deadline of what it was prepared from. -/
theorem Fitting.opens (h : Fitting s) {c : ChangeOrder} (hopens : Opens s c) {t : Id × Int × Int}
    (hterm : c.term = some t) : s.Fits t.1 c.completionDeadlineAt := by
  cases hopens with
  | staff p hp hactive hlast hterm' hdeadline =>
    rw [hterm', Option.some.injEq] at hterm
    rw [← hterm, hdeadline]
    exact h.prepared p hp
  | customer r hr g hg endDate hterm' hdeadline hnow =>
    rw [hterm', Option.some.injEq] at hterm
    rw [← hterm, hdeadline]
    exact h.considerations r hr
  | swap hactive hnone =>
    rw [hnone] at hterm
    cases hterm

theorem Fitting.move (h : Fitting s) (hmove : Move Good s s') : Fitting s' := by
  have hgrows := hmove.grows
  refine h.keep (h.sound.move hmove) hgrows (fun p hp => ?_) (fun r hr => ?_) fun c hc => ?_
  · cases hmove with
    | prepare p' hlast hdates hdeadline =>
      rcases List.mem_append.1 hp with hp | hp
      · exact .inl hp
      · obtain rfl := List.mem_singleton.1 hp
        obtain ⟨g, hg, hid, hstart⟩ := hdates
        obtain ⟨n, hn⟩ := List.mem_iff_getElem?.1 hg
        refine .inr ⟨g, ?_, fun _ => by rw [hdeadline, hstart]⟩
        rw [← hid, (h.sound.segments.number n g hn).1]
        exact hn
    | schedule =>
      rw [show (State.setChange _ _ _).prepared = _ from enqueue_prepared _ _ _ _] at hp
      exact .inl hp
    | enqueue =>
      rw [enqueue_prepared] at hp
      exact .inl hp
    | expire _ i g closure hg hclosure hdue hnext hactive hsegments hchanges hjobs htakeovers
        hconsiderations hprepared => exact .inl (hprepared ▸ hp)
    | _ => exact .inl hp
  · exact (hmove.considerations hr).imp_right fun hfits => hfits.2
  · rcases hmove.change hc with ⟨c₀, hc₀, hkept, -⟩ | hopens
    · exact .inl ⟨c₀, hc₀, hkept.term, hkept.deadline⟩
    · exact .inr fun t hterm => (h.opens hopens hterm).grows hgrows

/-! ## What has ended -/

/-- A takeover or a cancellation is made only while the change has no scheduled segment; a segment
expires, with the order still active, only while the one after it is not completed and every live
extension of it is the change that the expiry finds. -/
def EndsOnce (s : State) : Event → Prop
  | .cancel id _ _ | .manualTakeover id _ _ =>
    ∀ g ∈ s.segments, g.sourceChangeOrderId = some id → g.status ≠ .scheduled
  | .expireSegment i _ => s.order.orderStatus = .active →
    (s.segments[i + 1]?).all (·.status != .completed) ∧
      ∀ c ∈ s.changes, c.status.live = true → c.term.map (·.1) = some i →
        (expiringChange s i).map (·.id) = some c.id
  | _ => True

instance (s : State) (e : Event) : Decidable (EndsOnce s e) :=
  match e with
  | .cancel id _ _ | .manualTakeover id _ _ =>
    inferInstanceAs
      (Decidable (∀ g ∈ s.segments, g.sourceChangeOrderId = some id → g.status ≠ .scheduled))
  | .expireSegment i _ =>
    inferInstanceAs (Decidable (s.order.orderStatus = .active →
      (s.segments[i + 1]?).all (·.status != .completed) ∧
        ∀ c ∈ s.changes, c.status.live = true → c.term.map (·.1) = some i →
          (expiringChange s i).map (·.id) = some c.id))
  | .tick _ | .vehicle _ | .ensureBaseSegment | .prepareExtension .. | .createExtension _
  | .enrollSegment _ | .decideRenewal .. | .createFormalQuote .. | .approvePriceOverride ..
  | .submitCustomerConfirmation .. | .confirmQuote .. | .rejectQuote .. | .reserveGeneration ..
  | .finalizeGeneration .. | .abortGenerationReservation .. | .finalizeArchivedContract ..
  | .retryAutomationJob .. | .handle .. | .completeJob _ | .deadLetter _ | .markManualTakeover _
  | .completeIfReady _ | .createSwap _ | .moveSwap .. | .activateIfReady .. | .backfillSource .. =>
    .isTrue trivial

/-- The segment `i` has ended: the deadlines of its extensions have passed, none of them is live and
none has a segment. -/
structure State.Ended (s : State) (i : Id) : Prop where
  considerations (r : RenewalConsideration) : r ∈ s.considerations → r.segmentId = i →
    r.completionDeadlineAt ≤ s.now
  changes (c : ChangeOrder) : c ∈ s.changes → c.term.map (·.1) = some i →
    c.status.live = false ∧ c.completionDeadlineAt ≤ s.now
  segments (g : Segment) : g ∈ s.segments → g.sourceSegmentId ≠ some i

structure Concluded (s : State) : Prop where
  tiled : Tiled s
  fitting : Fitting s
  order (i : Id) : i ∈ s.expired → s.order.orderStatus = .pendingReturn
  ended (i : Id) : i ∈ s.expired → s.Ended i

/-- The clock does not go back. -/
theorem Move.now (h : Move Good s s') : s.now ≤ s'.now := by
  cases h with
  | tick elapsed => exact Int.le_add_of_nonneg_right (Int.natCast_nonneg elapsed)
  | schedule =>
    rw [show (State.setChange _ _ _).now = _ from enqueue_now _ _ _ _]
  | enqueue => rw [enqueue_now]
  | expire _ i g closure hg hclosure hdue hnext hactive hsegments hchanges hjobs htakeovers
      hconsiderations hprepared hnow => exact hnow.ge
  | _ => exact le_rfl

/-- A segment that a move appends to the segment `k` comes from a live extension of `k`. -/
theorem Move.source (h : Move Good s s') {g' : Segment} {k : Id} (hg' : g' ∈ s'.segments)
    (hsource : g'.sourceSegmentId = some k) : (∃ g ∈ s.segments, g.sourceSegmentId = some k) ∨
      ∃ c ∈ s.changes, c.status.live = true ∧ c.term.map (·.1) = some k := by
  have hmodify {segs : List Segment} {i : Nat} {f : Segment → Segment}
      (hfixed : ∀ g : Segment, g.Fixed (f g)) (hg' : g' ∈ segs.modify i f) :
      ∃ g ∈ segs, g.sourceSegmentId = some k := by
    obtain ⟨n, hn⟩ := List.mem_iff_getElem?.1 hg'
    obtain ⟨g, hg, hsame⟩ := fixed_of_modify hfixed hn
    exact ⟨g, List.mem_of_getElem? hg, hsame.source ▸ hsource⟩
  cases h with
  | tick | vehicle | prepare | enroll | consideration | turn | opens | job | deadLetter | mark
  | retry => exact .inl ⟨g', hg', hsource⟩
  | base source =>
    rcases List.mem_append.1 hg' with hg' | hg'
    · exact .inl ⟨g', hg', hsource⟩
    · rw [List.mem_singleton.1 hg'] at hsource
      cases hsource
  | schedule cid k' c source segment f hfound hkept hstatus' =>
    rw [show (State.setChange _ cid f).segments = _ from segments_enqueue _ _ _ _] at hg'
    rcases List.mem_append.1 hg' with hg' | hg'
    · exact .inl ⟨g', hg', hsource⟩
    · rw [List.mem_singleton.1 hg', hfound.origin.1] at hsource
      obtain rfl := Option.some.inj hsource
      refine .inr ⟨c, List.mem_of_getElem? hfound.change, by rw [hfound.status]; rfl, ?_⟩
      rw [hfound.term]
      rfl
  | activate i cid k' =>
    obtain ⟨n, hn⟩ := List.mem_iff_getElem?.1 hg'
    obtain ⟨g, hg, hsame⟩ := fixed_of_modify (fixed_activated s.now) hn
    obtain ⟨g₀, hg₀, hsame₀⟩ := fixed_of_modify fixed_completed hg
    exact .inl ⟨g₀, List.mem_of_getElem? hg₀, hsame₀.source ▸ hsame.source ▸ hsource⟩
  | enqueue =>
    rw [segments_enqueue] at hg'
    exact .inl ⟨g', hg', hsource⟩
  | expire _ i g closure hg hclosure hdue hnext hactive hsegments =>
    rw [hsegments] at hg'
    exact .inl (hmodify fixed_completeActive hg')
  | swap cid k' c source segment endDate f hc hterm hexecuting hfound hactive hsegment =>
    rcases List.mem_append.1 hg' with hg' | hg'
    · exact .inl (hmodify (fixed_endedOn endDate) hg')
    · rw [List.mem_singleton.1 hg', hsegment.2.2.2.2.2.2.2] at hsource
      cases hsource

/-- What has ended stays so. -/
theorem State.Ended.move {i : Id} (h : s.Ended i) (horder : s.order.orderStatus ≠ .active)
    (hmove : Move Good s s') : s'.Ended i := by
  have hnow := hmove.now
  refine ⟨fun r hr hsegment => ?_, fun c hc hterm => ?_, fun g hg hsource => ?_⟩
  · rcases hmove.considerations hr with ⟨r₀, hr₀, hsame, hdeadline⟩ | ⟨hactive, -⟩
    · rw [hdeadline]
      exact (h.considerations r₀ hr₀ (hsame ▸ hsegment)).trans hnow
    · exact absurd hactive horder
  · rcases hmove.change hc with ⟨c₀, hc₀, hkept, hlive⟩ | hopens
    · obtain ⟨hdead, hpassed⟩ := h.changes c₀ hc₀ (hkept.term ▸ hterm)
      refine ⟨?_, hkept.deadline ▸ hpassed.trans hnow⟩
      by_contra hnot
      rcases hlive (Bool.not_eq_false _ ▸ hnot) with hwas | hbefore
      · rw [hdead] at hwas
        cases hwas
      · omega
    · cases hopens with
      | staff p hp hactive => exact absurd hactive horder
      | customer r hr g hg endDate hterm' hdeadline hbefore =>
        rw [hterm'] at hterm
        have hpassed := h.considerations r hr (Option.some.inj hterm)
        omega
      | swap hactive => exact absurd hactive horder
  · rcases hmove.source hg hsource with ⟨g₀, hg₀, hsource₀⟩ | ⟨c, hc, hlive, hterm⟩
    · exact h.segments g₀ hg₀ hsource₀
    · rw [(h.changes c hc hterm).1] at hlive
      cases hlive

/-- The segment after the one that expires is the next one found, unless it is completed. -/
theorem Sound.expiring_last (h : Sound s) {i : Nat} {g : Segment} (hg : s.segments[i]? = some g)
    (hnext : findEffectiveNextSegment s g = none)
    (hcompleted : (s.segments[i + 1]?).all (·.status != .completed) = true) :
    i + 1 = s.segments.length := by
  have hlt := get_lt hg
  by_contra hne
  obtain ⟨g', hg'⟩ : ∃ g', s.segments[i + 1]? = some g' :=
    ⟨_, List.getElem?_eq_getElem (by omega)⟩
  rw [hg', Option.all_some, bne_iff_ne] at hcompleted
  have hkept := h.segments.kept (i + 1) g' hg'
  have hnumber := (h.segments.number i g hg).2
  have hnumber' := (h.segments.number (i + 1) g' hg').2
  push_cast at hnumber'
  rw [findEffectiveNextSegment, List.find?_eq_none] at hnext
  refine hnext g' (List.mem_of_getElem? hg') ?_
  simp only [Bool.and_eq_true, decide_eq_true_eq, beq_iff_eq, Bool.or_eq_true, addUtcDays]
  refine ⟨⟨by omega, h.segments.next i g g' hg hg'⟩, ?_⟩
  rcases hstatus : g'.status with _ | _ | _ | _
  · exact .inl rfl
  · exact .inr rfl
  · exact absurd hstatus hcompleted
  · exact absurd hstatus hkept

/-- An expiry ends the last segment. -/
theorem Concluded.expire (h : Concluded s) {i : Id} {g : Segment}
    (hg : s.segments[i]? = some g) (hdue : shanghaiStartOfDate (g.endDate + 1) ≤ s.now)
    (hnext : findEffectiveNextSegment s g = none)
    (hcompleted : (s.segments[i + 1]?).all (·.status != .completed) = true)
    (hlive : ∀ c ∈ s.changes, c.status.live = true → c.term.map (·.1) = some i →
      (expiringChange s i).map (·.id) = some c.id)
    (hsegments : s'.segments = s.segments.modify i completeActive)
    (hchanges : s'.changes = match expiringChange s i with
      | some c => s.changes.modify c.id failChange
      | none => s.changes)
    (hconsiderations : s'.considerations = s.considerations.map (expireConsideration i))
    (hnow : s'.now = s.now) : s'.Ended i := by
  have hlast := h.tiled.sound.expiring_last hg hnext hcompleted
  have hpassed {deadline : Int} (hfits : s.Fits i deadline) : deadline ≤ s'.now := by
    obtain ⟨g₀, hg₀, hdeadline⟩ := hfits
    obtain rfl := Option.some.inj (hg.symm.trans hg₀)
    rw [hdeadline hlast, hnow]
    exact hdue
  have hids := h.tiled.sound.changes.id
  refine ⟨fun r hr hsegment => ?_, fun c' hc' hterm => ?_, fun g' hg' hsource => ?_⟩
  · rw [hconsiderations] at hr
    obtain ⟨r₀, hr₀, rfl⟩ := List.mem_map.1 hr
    have hkept : (expireConsideration i r₀).segmentId = r₀.segmentId ∧
        (expireConsideration i r₀).completionDeadlineAt = r₀.completionDeadlineAt := by
      unfold expireConsideration
      split <;> exact ⟨rfl, rfl⟩
    rw [hkept.1] at hsegment
    rw [hkept.2]
    exact hpassed (hsegment ▸ h.fitting.considerations r₀ hr₀)
  · have hdead (c : ChangeOrder) (hc : c ∈ s.changes) (hterm : c.term.map (·.1) = some i) :
        c.completionDeadlineAt ≤ s'.now := by
      obtain ⟨t, ht, hsource⟩ := Option.map_eq_some_iff.1 hterm
      exact hpassed (hsource ▸ h.fitting.changes c t hc ht)
    obtain ⟨n, hn⟩ := List.mem_iff_getElem?.1 hc'
    rcases hexpiring : expiringChange s i with _ | c₁
    · rw [hexpiring] at hchanges hlive
      rw [hchanges] at hn
      refine ⟨?_, hdead c' (List.mem_of_getElem? hn) hterm⟩
      by_contra hnot
      cases hlive c' (List.mem_of_getElem? hn) (Bool.not_eq_false _ ▸ hnot) hterm
    · rw [hexpiring] at hchanges hlive
      rw [hchanges] at hn
      rcases get_modify hn with ⟨hne, hn⟩ | ⟨-, c, hc, rfl⟩
      · refine ⟨?_, hdead c' (List.mem_of_getElem? hn) hterm⟩
        by_contra hnot
        have hfound := hlive c' (List.mem_of_getElem? hn) (Bool.not_eq_false _ ▸ hnot) hterm
        rw [Option.map_some, Option.some.injEq, hids n c' hn] at hfound
        exact hne hfound.symm
      · have hkept := kept_failChange c
        rw [hkept.term] at hterm
        refine ⟨failChange_live c, ?_⟩
        rw [hkept.deadline]
        exact hdead c (List.mem_of_getElem? hc) hterm
  · rw [hsegments] at hg'
    obtain ⟨n, hn⟩ := List.mem_iff_getElem?.1 hg'
    obtain ⟨g₀, hg₀, hsame⟩ := fixed_of_modify fixed_completeActive hn
    have hplace := h.tiled.sound.segments.source n g₀ i hg₀ (hsame.source ▸ hsource)
    have hlt := get_lt hg₀
    omega

theorem Concluded.move (hgood : ∀ s e, Good s e → EndsOnce s e) (h : Concluded s)
    (hmove : Move Good s s') : Concluded s' := by
  have htiled : Tiled s' := by
    refine h.tiled.move (fun s e he => ?_) hmove
    have hends := hgood s e he
    cases e <;> first | exact trivial | exact hends
  have hended (i : Id) (hi : i ∈ s.expired) : s'.Ended i := by
    refine (h.ended i hi).move ?_ hmove
    rw [h.order i hi]
    exact OrderStatus.noConfusion
  have hfitting := h.fitting.move hmove
  cases hmove with
  | schedule cid k c source segment f =>
    refine ⟨htiled, hfitting, fun i hi => ?_, fun i hi => hended i ?_⟩
    · rw [show (State.setChange _ cid f).expired = _ from enqueue_expired _ _ _ _] at hi
      rw [show (State.setChange _ cid f).order = _ from enqueue_order _ _ _ _]
      exact h.order i hi
    · rw [show (State.setChange _ cid f).expired = _ from enqueue_expired _ _ _ _] at hi
      exact hi
  | enqueue =>
    refine ⟨htiled, hfitting, fun i hi => ?_, fun i hi => hended i ?_⟩
    · rw [enqueue_expired] at hi
      rw [enqueue_order]
      exact h.order i hi
    · rwa [enqueue_expired] at hi
  | expire _ i g closure hg hclosure hdue hnext hactive hsegments hchanges hjobs htakeovers
      hconsiderations hprepared hnow horder hexpired =>
    refine ⟨htiled, hfitting, fun j _ => by rw [horder], fun j hj => ?_⟩
    rw [hexpired] at hj
    rcases List.mem_append.1 hj with hj | hj
    · exact hended j hj
    · obtain rfl := List.mem_singleton.1 hj
      obtain ⟨hcompleted, hlive⟩ := hgood s _ hclosure hactive
      exact h.expire hg hdue hnext hcompleted hlive hsegments hchanges hconsiderations hnow
  | _ => exact ⟨htiled, hfitting, h.order, hended⟩

/-! ## What follows -/

theorem Numbered.ends_before {segs : List Segment} (h : Numbered segs) {i : Nat} (n : Nat)
    {g g' : Segment} (hg : segs[i]? = some g) (hg' : segs[i + n + 1]? = some g') :
    g.endDate < g'.startDate := by
  induction n generalizing g' with
  | zero =>
    have hnext := h.next i g g' hg hg'
    omega
  | succ n ih =>
    have hlt := get_lt hg'
    have hmid : segs[i + n + 1]? = some segs[i + n + 1] := List.getElem?_eq_getElem (by omega)
    have hbefore := ih hmid
    have hdates := h.dates _ _ hmid
    have hnext := h.next (i + n + 1) _ g' hmid hg'
    omega

/-- The next segment that the expiry finds is the following one. -/
theorem Sound.next_place (h : Sound s) {i : Nat} {g g' : Segment} (hg : s.segments[i]? = some g)
    (hfind : findEffectiveNextSegment s g = some g') : s.segments[i + 1]? = some g' := by
  obtain ⟨j, hj⟩ := List.mem_iff_getElem?.1 (List.mem_of_find?_eq_some hfind)
  have hfound := List.find?_some hfind
  simp only [Bool.and_eq_true, decide_eq_true_eq, beq_iff_eq, addUtcDays] at hfound
  have hnumber := (h.segments.number i g hg).2
  have hnumber' := (h.segments.number j g' hj).2
  obtain ⟨n, rfl⟩ : ∃ n, j = i + n + 1 := ⟨j - i - 1, by omega⟩
  rcases n with _ | n
  · exact hj
  · have hlt := get_lt hj
    have hmid : s.segments[i + 1]? = some s.segments[i + 1] := List.getElem?_eq_getElem (by omega)
    have hnext := h.segments.next i g _ hg hmid
    have hdates := h.segments.dates _ _ hmid
    have hbefore := h.segments.ends_before (i := i + 1) n hmid (by
      rw [show i + 1 + n + 1 = i + (n + 1) + 1 by omega]
      exact hj)
    omega

/-- The segment is active, or its change is scheduled or a retry makes it so. -/
def State.Continues (s : State) (g : Segment) : Prop :=
  g.status = .active ∨ ∃ cid c, g.sourceChangeOrderId = some cid ∧ s.changes[cid]? = some c ∧
    (c.status = .scheduled ∨ ∃ jobId s', retryAutomationJob s cid jobId c.version = .ok s' ∧
      (s'.changes[cid]?).map (·.status) = some .scheduled)

theorem expireSegment_extended {i : Id} {closure : Bool}
    (h : expireSegment s i closure = .ok (.extended, s')) :
    ∃ g g', s.segments[i]? = some g ∧ findEffectiveNextSegment s g = some g' := by
  unfold expireSegment at h
  rcases hg : s.segments[i]? with _ | g
  · simp [hg] at h
  · simp only [hg, require_bind] at h
    obtain ⟨-, h⟩ := h
    split at h
    · rename_i hsome
      obtain ⟨g', hg'⟩ := Option.isSome_iff_exists.1 hsome
      exact ⟨g, g', rfl, hg'⟩
    · simp only [require_bind] at h
      obtain ⟨-, -, h⟩ := h
      split at h
      · cases (Prod.mk.inj (Except.ok.inj h)).1
      · simp only [require_bind] at h
        cases (Prod.mk.inj (Except.ok.inj h.2)).1

theorem Retryable.extended (h : Retryable s) {i : Id} {closure : Bool}
    (hextended : expireSegment s i closure = .ok (.extended, s')) :
    ∃ g, s.segments[i + 1]? = some g ∧ s.Continues g := by
  obtain ⟨g, g', hg, hfind⟩ := expireSegment_extended hextended
  have hplace := h.tiled.sound.next_place hg hfind
  refine ⟨g', hplace, ?_⟩
  have hfound := List.find?_some hfind
  simp only [Bool.and_eq_true, beq_iff_eq, Bool.or_eq_true] at hfound
  rcases hfound.2 with hscheduled | hactive
  · obtain ⟨cid, c, horigin, hawaits⟩ := h.tiled.pending (i + 1) g' hplace hscheduled
    refine .inr ⟨cid, c, horigin, hawaits.change, hawaits.status.imp_right fun hmanual => ?_⟩
    exact h.retry_scheduled hplace hscheduled horigin hawaits.change hmanual
  · exact .inl hactive

theorem retryable_history {now : Int} {order : Order} {lease : Option LeaseStatus}
    {evs : List Event} (h : Runs.Along step EndsOnce (initial now order lease) evs) :
    Retryable (history now order lease evs) := by
  refine history_invariant (Retryable.move fun s e he => ?_) ?_ h
  · cases e <;> first | exact trivial | exact he
  · refine ⟨⟨⟨Numbered.nil, OneLive.nil⟩, ?_, ?_, ?_⟩, List.nodup_nil, ?_, ?_⟩ <;> simp [initial]

theorem concluded_history {now : Int} {order : Order} {lease : Option LeaseStatus}
    {evs : List Event} (h : Runs.Along step EndsOnce (initial now order lease) evs) :
    Concluded (history now order lease evs) := by
  refine history_invariant (Concluded.move fun _ _ he => he) ?_ h
  have hsound : Sound (initial now order lease) := ⟨Numbered.nil, OneLive.nil⟩
  refine ⟨⟨hsound, ?_, ?_, ?_⟩, ⟨hsound, ?_, ?_, ?_⟩, ?_, ?_⟩ <;> simp [initial]

end SubscriptionSaas.Change
