import SubscriptionSaas.Change.Moves
import SubscriptionSaas.Contract.Proofs.SegmentProofs
import SubscriptionSaas.Lib.Tables

/-!
# The operations are moves

One lemma for each operation: where it succeeds, it makes a sequence of moves (`perform_moves`). The
invariants of the later modules are shown for the moves only.
-/

namespace SubscriptionSaas.Change

open Calendar Billing Contract Results

variable {Good : State → Event → Prop} {s s' : State}

/-! ## What a command has found -/

theorem findExtension_ok {id : Id} {r : ChangeOrder × ExtensionDetail}
    (h : findExtension s id = .ok r) :
    s.changes[id]? = some r.1 ∧ r.1.detail = .extension r.2 := by
  unfold findExtension at h
  rcases hc : s.changes[id]? with _ | c
  · rw [hc] at h
    cases h
  · rw [hc] at h
    rcases hd : c.detail with d | _
    · simp only [hd] at h
      obtain rfl := Except.ok.inj h
      exact ⟨rfl, hd⟩
    · simp only [hd] at h
      cases h

theorem findExtension_of {id : Id} {c : ChangeOrder} {d : ExtensionDetail}
    (hc : s.changes[id]? = some c) (hd : c.detail = .extension d) :
    findExtension s id = .ok (c, d) := by
  simp only [findExtension, hc, hd]

theorem extensionDetail_eq {c : ChangeOrder} {d : ExtensionDetail} (h : c.detail = .extension d) :
    c.extensionDetail = some d := by
  unfold ChangeOrder.extensionDetail
  rw [h]

theorem term_eq {c : ChangeOrder} {d : ExtensionDetail} (h : c.detail = .extension d) :
    c.term = some d.term := by
  rw [ChangeOrder.term, extensionDetail_eq h]
  rfl

theorem detail_of_term {c : ChangeOrder} {t : Id × Int × Int} (h : c.term = some t) :
    ∃ d, c.detail = .extension d := by
  rcases hd : c.detail with d | _
  · exact ⟨d, rfl⟩
  · rw [ChangeOrder.term, ChangeOrder.extensionDetail, hd] at h
    cases h

theorem term_none {c : ChangeOrder} (h : c.extensionDetail.isNone = true) : c.term = none := by
  rw [ChangeOrder.term, Option.isNone_iff_eq_none.1 h]
  rfl

theorem runChangeCommand_ok {id : Id} {version : Nat}
    {execute : ChangeOrder → ExtensionDetail → Except ChangeError State}
    (h : runChangeCommand s id version execute = .ok s') : ∃ c d, s.changes[id]? = some c ∧
      c.detail = .extension d ∧ s.now < c.completionDeadlineAt ∧ execute c d = .ok s' := by
  obtain ⟨⟨c, d⟩, hfind, h⟩ := bind_ok h
  obtain ⟨hc, hd⟩ := findExtension_ok hfind
  simp only [assertVersionMatches, assertBeforeDeadline, require_bind, decide_eq_true_eq] at h
  exact ⟨c, d, hc, hd, h.2.1, h.2.2⟩

theorem ChangeOrder.Kept.of_eq {c c' : ChangeOrder} (hid : c'.id = c.id)
    (hdeadline : c'.completionDeadlineAt = c.completionDeadlineAt) (hdetail : c'.detail = c.detail)
    (hsource : c'.sourceSegmentId = c.sourceSegmentId) : c.Kept c' where
  id := hid
  deadline := hdeadline
  term := by
    unfold ChangeOrder.term ChangeOrder.extensionDetail
    rw [hdetail]
  source := .inl hsource

/-! ## Segments and considerations -/

theorem ensureBaseSegment_moves (h : ensureBaseSegment s = .ok s') :
    s' = s ∨ Move Good s s' := by
  obtain ⟨source, hsource, h⟩ := bind_ok h
  rcases hfind : s.segments.find? (·.segmentType == .base) with _ | g
  · rw [hfind] at h
    simp only [State.addSegment, require_bind] at h
    obtain ⟨hnumber, -, hactive, hdates, h⟩ := h
    obtain rfl := Except.ok.inj h
    rw [List.find?_eq_none] at hfind
    refine .inr (.base s source hsource ?_ (of_decide_eq_true hdates) ?_ ?_)
    · intro g hg hbase
      exact hfind g hg (by rw [hbase]; rfl)
    · intro g hg hone
      refine absurd hnumber ?_
      simp only [Bool.not_eq_true', Bool.not_eq_false, List.any_eq_true]
      exact ⟨g, hg, by rw [hone]; rfl⟩
    · intro g hg hg'
      refine absurd hactive ?_
      simp only [baseSegment, bne_self_eq_false, Bool.false_or, Bool.not_eq_true', Bool.not_eq_false,
        List.any_eq_true]
      exact ⟨g, hg, by rw [hg']; rfl⟩
  · rw [hfind] at h
    obtain ⟨-, -, h⟩ := bind_ok h
    exact .inl (Except.ok.inj h).symm

/-- The source of an extension is the segment of the highest number. -/
theorem createExtension_ok {rows : List ContractSegment} {months : Int}
    {r : ContractSegment × Int × Int} (h : Contract.createExtension rows months = .ok r) :
    findLast effective rows = some r.1 ∧ r.2.1 = r.1.endDate + 1 := by
  unfold Contract.createExtension at h
  obtain ⟨-, h⟩ := guard_ok h
  rcases hlast : findLast effective rows with _ | source
  · rw [hlast] at h
    cases h
  · simp only [hlast] at h
    obtain ⟨-, -, h⟩ := bind_ok h
    obtain rfl := Except.ok.inj h
    exact ⟨rfl, rfl⟩

theorem mapError_ok {ε ε' α : Type} {x : Except ε α} {f : ε → ε'} {a : α}
    (h : x.mapError f = .ok a) : x = .ok a := by
  cases x with
  | error e => cases h
  | ok b => rw [Except.ok.inj h]

theorem prepareExtension_moves {months : Int} {mode : PricingMode} {considerationId : Option Id}
    (h : prepareExtension s months mode considerationId = .ok s') : Moves Good s s' := by
  unfold prepareExtension at h
  rw [require_bind] at h
  obtain ⟨-, -, h⟩ := bind_ok h.2
  obtain ⟨⟨s₁, source, start, endDate⟩, hsource, h⟩ := bind_ok h
  obtain ⟨s₂, hbase, hsource⟩ := bind_ok hsource
  obtain ⟨period, hperiod, hsource⟩ := bind_ok hsource
  obtain ⟨rfl, rfl⟩ := Prod.mk.inj (Except.ok.inj hsource)
  obtain ⟨hlast, hstart⟩ := createExtension_ok (mapError_ok hperiod)
  obtain ⟨-, -, h⟩ := bind_ok h
  obtain rfl := Except.ok.inj h
  obtain ⟨g, hg, hgs⟩ := List.mem_map.1 (findLast_mem hlast).1
  have hprepare : Move Good s₂ _ := .prepare s₂ ⟨months, mode, considerationId, source.id, start,
    endDate, shanghaiStartOfDate start⟩ (by rw [hlast]; rfl)
      ⟨g, hg, congrArg ContractSegment.id hgs, by
        rw [show g.endDate = source.endDate from congrArg ContractSegment.endDate hgs]
        exact hstart⟩ rfl
  have hensure : s₂ = s ∨ Move Good s s₂ := ensureBaseSegment_moves hbase
  rcases hensure with rfl | hmove
  · exact .single hprepare
  · exact .tail (.single hmove) hprepare

theorem enrollSegment_moves {segmentId : Id} (h : enrollSegment s segmentId = .ok s') :
    Moves Good s s' := by
  unfold enrollSegment at h
  rcases hg : s.segments[segmentId]? with _ | g
  · rw [hg] at h
    obtain rfl := Except.ok.inj h
    exact .refl
  · simp only [hg] at h
    split at h
    · obtain rfl := Except.ok.inj h
      exact .refl
    · rename_i hskip
      obtain rfl := Except.ok.inj h
      simp only [not_or, not_not] at hskip
      exact .single (.enroll s ⟨_, segmentId, .pendingDecision, none, _, 0⟩ g hg hskip.2.1
        hskip.2.2.2.1 rfl)

theorem setConsideration_moves (s : State) (id : Option Id)
    (f : RenewalConsideration → RenewalConsideration)
    (hkept : ∀ r, (f r).segmentId = r.segmentId ∧
      (f r).completionDeadlineAt = r.completionDeadlineAt) :
    Moves Good s (s.setConsideration id f) := by
  cases id with
  | none => exact .refl
  | some id => exact .single (.consideration s id f hkept)

/-! ## Change orders -/

theorem addChange_ok {c : ChangeOrder} (h : s.addChange c = .ok s') :
    s.NoLive ∧ s' = { s with changes := s.changes ++ [c] } := by
  simp only [State.addChange, require_bind] at h
  obtain ⟨hlive, -, h⟩ := h
  refine ⟨fun c' hc' => ?_, (Except.ok.inj h).symm⟩
  simp only [Bool.not_eq_true', List.any_eq_false, Bool.not_eq_true] at hlive
  exact hlive c' hc'

theorem assertExtensionSourceOrder_ok {order : Order} {u : Unit}
    (h : assertExtensionSourceOrder order = .ok u) : order.orderStatus = .active := by
  simp only [assertExtensionSourceOrder, require_bind, Bool.and_eq_true] at h
  exact eq_of_beq h.2.2.1.2

theorem createExtension_moves {call : Nat} (h : createExtension s call = .ok s') :
    Moves Good s s' := by
  unfold createExtension at h
  rcases hp : s.prepared[call]? with _ | p
  · rw [hp] at h
    cases h
  · simp only [hp] at h
    obtain ⟨u, hactive, h⟩ := bind_ok h
    rw [require_bind] at h
    obtain ⟨hlive, rfl⟩ := addChange_ok h.2
    exact .single (.opens s _ rfl rfl rfl hlive (.staff p (List.mem_of_getElem? hp)
      (assertExtensionSourceOrder_ok hactive) (eq_of_beq h.1) rfl rfl))

theorem decideRenewal_moves {id : Id} {version : Nat} {decision : RenewalDecision}
    {periodMonths : Int} (h : decideRenewal s id version decision periodMonths = .ok s') :
    Moves Good s s' := by
  obtain ⟨r, hr, h⟩ := bind_ok h
  have hfound : s.considerations[id]? = some r := by
    unfold findConsideration at hr
    split at hr
    · rename_i r' hr'
      rw [hr', Except.ok.inj hr]
    · cases hr
  rcases hdecision : r.decision with _ | recorded
  · simp only [hdecision, require_bind, decide_eq_true_eq] at h
    obtain ⟨-, hnow, h⟩ := h
    split at h
    · rename_i g hg _
      simp only [pure_bind, require_bind] at h
      obtain ⟨s₂, hadd, h⟩ := bind_ok h.2
      obtain rfl := Except.ok.inj h
      obtain ⟨hlive, rfl⟩ := addChange_ok hadd
      exact .trans (.single (.opens s _ rfl rfl rfl hlive
        (.customer r (List.mem_of_getElem? hfound) g hg _ rfl rfl hnow)))
        (setConsideration_moves _ (some id) _ fun r => ⟨rfl, rfl⟩)
    · cases h
    · simp only [pure_bind] at h
      obtain rfl := Except.ok.inj h
      exact setConsideration_moves s (some id) _ fun r => ⟨rfl, rfl⟩
  · simp only [hdecision] at h
    obtain ⟨-, h⟩ := check_ok h
    obtain rfl := Except.ok.inj h
    exact .refl

theorem createFormalQuote_moves {id : Id} {version : Nat} {actorId : Id} {pricing : Pricing}
    {hours : Int} (h : createFormalQuote s id version actorId pricing hours = .ok s') :
    Moves Good s s' := by
  obtain ⟨⟨c, d⟩, hfind, h⟩ := bind_ok h
  obtain ⟨hc, hd⟩ := findExtension_ok hfind
  simp only [assertVersionMatches, assertBeforeDeadline, require_bind] at h
  obtain ⟨-, h⟩ := h
  obtain ⟨u, hmutable, h⟩ := bind_ok h
  simp only [assertQuoteMutable, require_bind] at hmutable
  simp only [require_bind] at h
  obtain rfl := Except.ok.inj h.2.2
  have hearly : c.status.early = true := by
    rcases (Bool.or_eq_true _ _).mp hmutable.2.1 with hstatus | hstatus <;>
      rw [eq_of_beq hstatus] <;> rfl
  refine Relation.ReflTransGen.trans (.single (.turn s id c _ hc ?_ (.advance hearly rfl)))
    (setConsideration_moves _ _ _ fun r => ?_)
  · refine ⟨rfl, rfl, ?_, .inl rfl⟩
    simp only [ChangeOrder.term, ChangeOrder.extensionDetail, show c.detail = _ from hd]
    rfl
  · split <;> exact ⟨rfl, rfl⟩

theorem approvePriceOverride_moves {id : Id} {version : Nat} {actorId : Id} {reason : String}
    (h : approvePriceOverride s id version actorId reason = .ok s') : Moves Good s s' := by
  obtain ⟨c, d, hc, hd, -, h⟩ := runChangeCommand_ok h
  simp only [require_bind] at h
  obtain rfl := Except.ok.inj h.2.2.2.2
  refine .single (.turn s id c _ hc ⟨rfl, rfl, ?_, .inl rfl⟩ (.same rfl rfl))
  rw [term_eq hd]
  rfl

theorem submitCustomerConfirmation_moves {id : Id} {version : Nat}
    (h : submitCustomerConfirmation s id version = .ok s') : Moves Good s s' := by
  obtain ⟨c, d, hc, hd, -, h⟩ := runChangeCommand_ok h
  simp only [require_bind] at h
  obtain rfl := Except.ok.inj h.2.2.2.2
  exact .single (.turn s id c _ hc (.of_eq rfl rfl rfl rfl) (.same rfl rfl))

theorem decideQuote_ok {id : Id} {version quoteId : Nat} {update : ChangeOrder → ChangeOrder}
    {r : ChangeOrder × State} (h : decideQuote s id version quoteId update = .ok r) :
    s.changes[id]? = some r.1 ∧ r.1.status = .quoted ∧ r.2 = s.setChange id fun change =>
      { update change with version := change.version + 1 } := by
  obtain ⟨⟨c, d⟩, hfind, h⟩ := bind_ok h
  obtain ⟨hc, -⟩ := findExtension_ok hfind
  simp only [require_bind, assertExactPublishableQuote, Bool.and_eq_true] at h
  obtain ⟨-, -, hquote, h⟩ := h
  obtain rfl := Except.ok.inj h
  exact ⟨hc, eq_of_beq hquote.1.1.1, rfl⟩

theorem confirmQuote_moves {id : Id} {version quoteId : Nat}
    (h : confirmQuote s id version quoteId = .ok s') : Moves Good s s' := by
  obtain ⟨⟨c, s₁⟩, hdecide, h⟩ := bind_ok h
  obtain rfl := Except.ok.inj h
  obtain ⟨hc, hstatus, hs⟩ := decideQuote_ok hdecide
  rw [show s₁ = _ from hs]
  exact .single (.turn s id c _ hc (.of_eq rfl rfl rfl rfl)
    (.advance (by rw [show c.status = _ from hstatus]; rfl) rfl))

theorem rejectQuote_moves {id : Id} {version quoteId : Nat} {reason : String}
    (h : rejectQuote s id version quoteId reason = .ok s') : Moves Good s s' := by
  simp only [rejectQuote, require_bind] at h
  obtain ⟨⟨c, s₁⟩, hdecide, h⟩ := bind_ok h.2
  obtain rfl := Except.ok.inj h
  obtain ⟨hc, hstatus, hs⟩ := decideQuote_ok hdecide
  rw [show s₁ = _ from hs]
  exact Relation.ReflTransGen.trans
    (.single (.turn s id c _ hc (.of_eq rfl rfl rfl rfl) (.reject hstatus rfl)))
    (setConsideration_moves _ _ _ fun r => ⟨rfl, rfl⟩)

theorem cancel_moves {id : Id} {version : Nat} {reason : String}
    (hgood : Good s (.cancel id version reason)) (h : cancel s id version reason = .ok s') :
    Moves Good s s' := by
  obtain ⟨c, d, hc, hd, -, h⟩ := runChangeCommand_ok h
  obtain ⟨-, -, h⟩ := bind_ok h
  simp only [require_bind] at h
  obtain rfl := Except.ok.inj h.2.2
  exact .single (.turn s id c _ hc (.of_eq rfl rfl rfl rfl) (.cancel version reason hgood rfl))

theorem manualTakeover_moves {id : Id} {version : Nat} {reason : String}
    (hgood : Good s (.manualTakeover id version reason))
    (h : manualTakeover s id version reason = .ok s') : Moves Good s s' := by
  obtain ⟨c, d, hc, hd, hnow, h⟩ := runChangeCommand_ok h
  obtain ⟨-, -, h⟩ := bind_ok h
  simp only [require_bind, Bool.or_eq_true, Bool.not_eq_true'] at h
  obtain ⟨-, -, hlive, h⟩ := h
  obtain rfl := Except.ok.inj h
  refine .single (.turn s id c _ hc (.of_eq rfl rfl rfl rfl)
    (.takeover version reason hgood (hlive.imp_right fun hnone c' hc' => ?_) hnow rfl rfl))
  exact eq_false_of_ne_true (List.any_eq_false.1 hnone c' hc')

/-! ## The agreement -/

theorem assertGeneratable_ok {c : ChangeOrder} {d : ExtensionDetail} {u : Unit}
    (h : assertGeneratable s c d = .ok u) : c.status = .customerConfirmed := by
  simp only [assertGeneratable, require_bind] at h
  exact eq_of_beq h.1

theorem reserveGeneration_moves {id : Id} {version : Nat} {contractId : Id} {snapshot : Json}
    (h : reserveGeneration s id version contractId snapshot = .ok s') : Moves Good s s' := by
  obtain ⟨⟨c, d⟩, hfind, h⟩ := bind_ok h
  obtain ⟨hc, -⟩ := findExtension_ok hfind
  simp only [assertVersionMatches, require_bind] at h
  obtain ⟨-, -, h⟩ := bind_ok h.2.2
  obtain rfl := Except.ok.inj h
  exact .single (.turn s id c _ hc (.of_eq rfl rfl rfl rfl) (.same rfl rfl))

theorem finalizeGeneration_moves {id : Id} {version : Nat} {contractId : Id}
    (h : finalizeGeneration s id version contractId = .ok s') : Moves Good s s' := by
  obtain ⟨⟨c, d⟩, hfind, h⟩ := bind_ok h
  obtain ⟨hc, -⟩ := findExtension_ok hfind
  simp only [assertVersionMatches, require_bind] at h
  obtain ⟨u, hgeneratable, h⟩ := bind_ok h.2.2
  obtain rfl := Except.ok.inj h
  exact .single (.turn s id c _ hc (.of_eq rfl rfl rfl rfl)
    (.advance (by rw [assertGeneratable_ok hgeneratable]; rfl) rfl))

theorem abortGenerationReservation_moves {id contractId : Id}
    (h : abortGenerationReservation s id contractId = .ok s') : Moves Good s s' := by
  obtain ⟨⟨c, d⟩, hfind, h⟩ := bind_ok h
  obtain ⟨hc, -⟩ := findExtension_ok hfind
  simp only [require_bind] at h
  obtain rfl := Except.ok.inj h.2
  exact .single (.turn s id c _ hc (.of_eq rfl rfl rfl rfl) (.same rfl rfl))

/-! ## The archive -/

theorem addSegment_ok {g : Segment} (h : s.addSegment g = .ok s') :
    (∀ g' ∈ s.segments, g'.sequenceNo ≠ g.sequenceNo) ∧
    (g.sourceChangeOrderId ≠ none →
      ∀ g' ∈ s.segments, g'.sourceChangeOrderId ≠ g.sourceChangeOrderId) ∧
    (g.status = .active → ∀ g' ∈ s.segments, g'.status ≠ .active) ∧
    g.startDate ≤ g.endDate ∧ s' = { s with segments := s.segments ++ [g] } := by
  simp only [State.addSegment, require_bind, Bool.or_eq_true, Bool.not_eq_true',
    List.any_eq_false, beq_iff_eq, decide_eq_true_eq, Option.isNone_iff_eq_none, bne_iff_ne] at h
  obtain ⟨hnumber, hsingle, hactive, hdates, h⟩ := h
  exact ⟨hnumber, fun hsome => hsingle.resolve_left hsome,
    fun hstatus => hactive.resolve_left (not_not.2 hstatus), hdates, (Except.ok.inj h).symm⟩

theorem getElem?_setChange (s : State) (id : Id) (f : ChangeOrder → ChangeOrder) :
    (s.setChange id f).changes[id]? = (s.changes[id]?).map f := by
  simp [State.setChange]

theorem finalizeArchivedContract_moves {id : Id} {evidence : Bool} {r : ArchiveOutcome × State}
    (h : finalizeArchivedContract s id evidence = .ok r) : Moves Good s r.2 := by
  obtain ⟨⟨c, d⟩, hfind, h⟩ := bind_ok h
  obtain ⟨hc, hd⟩ := findExtension_ok hfind
  rw [require_bind] at h
  obtain ⟨-, h⟩ := h
  split at h
  · obtain rfl := Except.ok.inj h
    exact .refl
  · have harchived : Move Good s (s.setChange id archiveContract) :=
      .turn s id c _ hc (.of_eq rfl rfl rfl rfl) (.same rfl rfl)
    dsimp only at h
    split at h
    · obtain rfl := Except.ok.inj h
      exact .single harchived
    · rename_i hwins
      rcases hquote : c.confirmedQuote with _ | quote
      · simp [hquote] at h
      · rcases hcontract : c.contract with _ | contract
        · simp [hcontract] at h
        · rcases hsource : s.segments[d.sourceSegmentId]? with _ | source
          · simp [hsource] at h
          · simp only [hquote, hcontract, hsource, require_bind, Bool.and_eq_true] at h
            obtain ⟨⟨hstatus, hnext⟩, -, h⟩ := h
            obtain ⟨s₁, hadd, h⟩ := bind_ok h
            obtain rfl := Except.ok.inj h
            obtain ⟨hnumber, hsingle, -, hdates, rfl⟩ := addSegment_ok hadd
            have hfound : (s.setChange id archiveContract).Schedules id d.sourceSegmentId
                (archiveContract c) source (extensionSegment s c d source quote contract) :=
              { change := by rw [getElem?_setChange, hc]; rfl
                status := eq_of_beq hstatus
                deadline := by
                  simp only [expiryWins, Bool.or_eq_true, decide_eq_true_eq, not_or, not_le] at hwins
                  exact hwins.1.1
                found := hsource
                term := term_eq (c := archiveContract c) hd
                next := ⟨eq_of_beq hnext, rfl⟩
                origin := ⟨rfl, rfl⟩
                fresh := ⟨rfl, rfl, rfl⟩
                dates := hdates
                number := hnumber
                single := hsingle (Option.some_ne_none _) }
            exact .trans (.tail (.single harchived) (.schedule _ id d.sourceSegmentId _ source _ _
              hfound (.of_eq rfl rfl rfl rfl) rfl)) (setConsideration_moves _ _ _ fun r => ⟨rfl, rfl⟩)

/-! ## The jobs -/

@[simp] theorem segments_enqueue (s : State) (jobType : JobType) (i cid : Id) :
    (s.enqueue jobType i cid).segments = s.segments := by
  unfold State.enqueue
  split <;> rfl

theorem enqueueAll_moves {i cid : Id} (types : List JobType)
    (htypes : ∀ jobType ∈ types, jobType ≠ .extensionSegmentActivate) (s : State)
    (hactive : ∃ g ∈ s.segments, g.id = i ∧ g.status = .active ∧ g.sourceChangeOrderId = some cid) :
    Moves Good s (types.foldl (fun s jobType => s.enqueue jobType i cid) s) := by
  induction types generalizing s with
  | nil => exact .refl
  | cons jobType types ih =>
    exact .head (.enqueue s jobType i cid (htypes jobType List.mem_cons_self) hactive)
      (ih (fun t ht => htypes t (List.mem_cons_of_mem _ ht)) _ (by simpa using hactive))

theorem enqueueContinuationJobs_moves {segment : Segment} {changeId : Id}
    (hactive : ∃ g ∈ s.segments, g.id = segment.id ∧ g.status = .active ∧
      g.sourceChangeOrderId = some changeId) :
    Moves Good s (enqueueContinuationJobs s segment changeId) :=
  enqueueAll_moves _ (by simp [continuationJobs]) s hactive

theorem activate_moves {segmentId : Id} (h : activate s segmentId = .ok s') : Moves Good s s' := by
  unfold activate at h
  rcases hg : s.segments[segmentId]? with _ | g
  · simp [hg] at h
  · rcases horigin : g.sourceChangeOrderId with _ | cid
    · simp [hg, horigin] at h
    · simp only [hg, horigin] at h
      obtain ⟨⟨c, d⟩, hfind, h⟩ := bind_ok h
      obtain ⟨hc, hd⟩ := findExtension_ok hfind
      rw [require_bind] at h
      obtain ⟨-, h⟩ := h
      split at h
      · rename_i hscheduled
        simp only [require_bind, Option.any_eq_true, beq_iff_eq] at h
        obtain ⟨⟨source, hsource, hactive⟩, halone, h⟩ := h
        obtain rfl := Except.ok.inj h
        refine .trans (.single (.activate s segmentId cid d.sourceSegmentId g source c _
          ⟨hg, hscheduled.1, horigin, hc, hscheduled.2, by rw [term_eq hd]; rfl, hsource, hactive,
            by simpa [State.setSegment] using halone⟩
          (.of_eq rfl rfl rfl rfl) rfl)) (enqueueContinuationJobs_moves ?_)
        have hother : d.sourceSegmentId ≠ segmentId := by
          rintro heq
          rw [heq, hg, Option.some.injEq] at hsource
          rw [← hsource, hscheduled.1] at hactive
          cases hactive
        refine ⟨g.activated s.now,
          List.mem_of_getElem? (i := segmentId) ?_, rfl, rfl, horigin⟩
        simp [State.setSegment, State.setChange, hother, hg]
      · simp only [require_bind, Bool.and_eq_true, beq_iff_eq] at h
        obtain ⟨⟨hactive, -⟩, h⟩ := h
        obtain rfl := Except.ok.inj h
        exact enqueueContinuationJobs_moves
          ⟨g, List.mem_of_getElem? hg, rfl, hactive, horigin⟩

/-- The jobs that are there stay. -/
theorem jobs_enqueue {jobType : JobType} {i cid n : Id} {job : Job}
    (hjob : s.jobs[n]? = some job) : (s.enqueue jobType i cid).jobs[n]? = some job := by
  unfold State.enqueue
  split
  · exact hjob
  · have hlt := (List.getElem?_eq_some_iff.1 hjob).1
    rw [List.getElem?_append_left hlt]
    exact hjob

theorem jobs_enqueueAll {i cid n : Id} {job : Job} (types : List JobType) (s : State)
    (hjob : s.jobs[n]? = some job) :
    (types.foldl (fun s jobType => s.enqueue jobType i cid) s).jobs[n]? = some job := by
  induction types generalizing s with
  | nil => exact hjob
  | cons jobType types ih => exact ih _ (jobs_enqueue hjob)

theorem activate_job {segmentId n : Id} {job : Job} (h : activate s segmentId = .ok s')
    (hjob : s.jobs[n]? = some job) : s'.jobs[n]? = some job := by
  unfold activate at h
  rcases hg : s.segments[segmentId]? with _ | g
  · simp [hg] at h
  · rcases horigin : g.sourceChangeOrderId with _ | cid
    · simp [hg, horigin] at h
    · simp only [hg, horigin] at h
      obtain ⟨⟨c, d⟩, -, h⟩ := bind_ok h
      rw [require_bind] at h
      obtain ⟨-, h⟩ := h
      split at h
      · simp only [require_bind] at h
        obtain rfl := Except.ok.inj h.2.2
        exact jobs_enqueueAll _ _ hjob
      · simp only [require_bind] at h
        obtain rfl := Except.ok.inj h.2
        exact jobs_enqueueAll _ _ hjob

theorem handle_moves {jobId : Id} {succeeds : Bool} (h : handle s jobId succeeds = .ok s') :
    Moves Good s s' := by
  unfold handle at h
  rcases hjob : s.jobs[jobId]? with _ | job
  · simp [hjob] at h
  · simp only [hjob, require_bind] at h
    obtain ⟨hopen, h⟩ := h
    have hsettle (s₁ : State) (hjob : s₁.jobs[jobId]? = some job) : Move Good s₁ (s₁.setJob jobId
        fun job => { job with jobStatus := .processing, handled := true }) :=
      .job s₁ jobId job _ hjob hopen ⟨rfl, rfl, rfl⟩
    split at h
    · obtain ⟨s₁, hactivate, h⟩ := bind_ok h
      obtain rfl := Except.ok.inj h
      exact .tail (activate_moves hactivate) (hsettle s₁ (activate_job hactivate hjob))
    · simp only [require_bind] at h
      obtain rfl := Except.ok.inj h.2
      exact .single (hsettle s hjob)

theorem completeJob_moves {jobId : Id} (h : completeJob s jobId = .ok s') : Moves Good s s' := by
  unfold completeJob at h
  rcases hjob : s.jobs[jobId]? with _ | job
  · simp [hjob] at h
  · simp only [hjob, require_bind, Bool.and_eq_true, beq_iff_eq] at h
    obtain ⟨⟨hstatus, -⟩, h⟩ := h
    obtain rfl := Except.ok.inj h
    exact .single (.job s jobId job _ hjob (by rw [jobOpen, hstatus]; rfl) ⟨rfl, rfl, rfl⟩)

theorem deadLetter_moves {jobId : Id} (h : deadLetter s jobId = .ok s') : Moves Good s s' := by
  unfold deadLetter at h
  rcases hjob : s.jobs[jobId]? with _ | job
  · simp [hjob] at h
  · simp only [hjob, require_bind] at h
    obtain ⟨hopen, h⟩ := h
    obtain rfl := Except.ok.inj h
    exact .single (.deadLetter s jobId job hjob hopen)

theorem markManualTakeover_moves {jobId : Id} (h : markManualTakeover s jobId = .ok s') :
    Moves Good s s' := by
  unfold markManualTakeover at h
  rcases hjob : s.jobs[jobId]? with _ | job
  · simp [hjob] at h
  · simp only [hjob, require_bind, List.contains_iff_mem] at h
    obtain ⟨hmark, h⟩ := h
    obtain rfl := Except.ok.inj h
    refine .single (.mark s jobId job _ hjob hmark (fun c => ?_) fun c => ?_)
    · split <;> exact .of_eq rfl rfl rfl rfl
    · split
      · rename_i hstatus
        exact .inr ⟨hstatus, rfl, rfl⟩
      · exact .inl ⟨rfl, rfl⟩

theorem completeIfReady_moves {id : Id} (h : completeIfReady s id = .ok s') : Moves Good s s' := by
  unfold completeIfReady at h
  rcases hc : s.changes[id]? with _ | c
  · simp [hc] at h
  · simp only [hc, require_bind, Bool.and_eq_true, beq_iff_eq] at h
    obtain ⟨⟨⟨hstatus, -⟩, -⟩, h⟩ := h
    obtain rfl := Except.ok.inj h
    exact .single (.turn s id c _ hc (.of_eq rfl rfl rfl rfl) (.complete hstatus rfl))

theorem retryAutomationJob_moves {id jobId : Id} {version : Nat}
    (h : retryAutomationJob s id jobId version = .ok s') : Moves Good s s' := by
  obtain ⟨⟨c, d⟩, hfind, h⟩ := bind_ok h
  obtain ⟨hc, -⟩ := findExtension_ok hfind
  simp only [assertVersionMatches, require_bind] at h
  obtain ⟨-, hstatus, h⟩ := h
  rcases hjob : s.jobs[jobId]? with _ | job
  · simp [hjob] at h
  · simp only [hjob, require_bind, Bool.and_eq_true, beq_iff_eq] at h
    obtain ⟨-, hdead, ⟨⟨htarget, -⟩, -⟩, h⟩ := h
    obtain rfl := Except.ok.inj h
    exact .single (.retry s id jobId c job _ hc hjob (eq_of_beq hstatus) hdead htarget.symm
      (.of_eq rfl rfl rfl rfl) rfl)

/-! ## Expiry -/

theorem expireSegment_moves {segmentId : Id} {closure : Bool} {r : ExpiryOutcome × State}
    (hgood : Good s (.expireSegment segmentId closure))
    (h : expireSegment s segmentId closure = .ok r) : Moves Good s r.2 := by
  unfold expireSegment at h
  rcases hg : s.segments[segmentId]? with _ | g
  · simp [hg] at h
  · simp only [hg, require_bind, decide_eq_true_eq] at h
    obtain ⟨hdue, h⟩ := h
    split at h
    · obtain rfl := Except.ok.inj h
      exact .refl
    · rename_i hnext
      simp only [require_bind] at h
      obtain ⟨-, -, h⟩ := h
      split at h
      · obtain rfl := Except.ok.inj h
        exact .refl
      · rename_i hactive
        simp only [require_bind] at h
        obtain ⟨-, h⟩ := h
        obtain rfl := Except.ok.inj h
        exact .single (.expire s _ segmentId g closure hg hgood hdue (by simpa using hnext)
          (not_not.1 hactive) rfl rfl rfl rfl rfl rfl rfl rfl rfl)

/-! ## Vehicle swaps -/

theorem createSwap_moves {deadline : Int} (h : createSwap s deadline = .ok s') :
    Moves Good s s' := by
  simp only [createSwap, require_bind, Bool.and_eq_true, beq_iff_eq] at h
  obtain ⟨⟨-, hactive⟩, h⟩ := h
  obtain ⟨hlive, rfl⟩ := addChange_ok h
  exact .single (.opens s _ rfl rfl rfl hlive (.swap hactive rfl))

theorem moveSwap_moves {id : Id} {status : ChangeStatus} (h : moveSwap s id status = .ok s') :
    Moves Good s s' := by
  unfold moveSwap at h
  rcases hc : s.changes[id]? with _ | c
  · simp [hc] at h
  · simp only [hc, require_bind, Bool.and_eq_true, Bool.or_eq_true, Bool.not_eq_true'] at h
    obtain ⟨⟨hswap, -⟩, hlive, h⟩ := h
    obtain rfl := Except.ok.inj h
    exact .single (.turn s id c _ hc (.of_eq rfl rfl rfl rfl) (.swap (term_none hswap) hlive))

theorem activateIfReady_moves {id : Id} {blockers : Bool} {pricing : Pricing} {contractId : Id}
    {snapshot : Json} (h : activateIfReady s id blockers pricing contractId snapshot = .ok s') :
    Moves Good s s' := by
  unfold activateIfReady at h
  rcases hc : s.changes[id]? with _ | c
  · simp [hc] at h
  · simp only [hc, require_bind] at h
    obtain ⟨hswap, h⟩ := h
    split at h
    · obtain rfl := Except.ok.inj h
      exact .refl
    · rename_i source hsource
      obtain ⟨k, hk, hsource⟩ := Option.bind_eq_some_iff.1 hsource
      split at h
      · obtain rfl := Except.ok.inj h
        exact .refl
      · rename_i hskip
        simp only [not_or, not_not, not_le, not_lt] at hskip
        obtain ⟨hexecuting, -, hactive, hfrom, hto⟩ := hskip
        obtain ⟨s₁, hadd, h⟩ := bind_ok h
        obtain rfl := Except.ok.inj h
        obtain ⟨hnumber, hsingle, halone, -, rfl⟩ := addSegment_ok hadd
        have hsame (g : Segment) (hg : g ∈ s.segments) :
            g.sequenceNo ≠ source.sequenceNo + 1 ∧ g.sourceChangeOrderId ≠ some id := by
          rcases Tables.mem_modify source.id
            (Segment.endedOn (addUtcDays (toBillingBusinessDate s.now) (-1))) hg with hg | hg
          · exact ⟨hnumber g hg, hsingle (Option.some_ne_none _) g hg⟩
          · have hnumber := hnumber _ hg
            have hsingle := hsingle (Option.some_ne_none _) _ hg
            exact ⟨hnumber, hsingle⟩
        exact .single (.swap s id k c source _ (addUtcDays (toBillingBusinessDate s.now) (-1)) _ hc
          (term_none hswap) hexecuting hsource hactive
          ⟨by simp [swapSegment], rfl, rfl, rfl,
            (sub_add_cancel (toBillingBusinessDate s.now) 1).symm, rfl, rfl, rfl⟩
          ⟨by have := hfrom; simp only [addUtcDays]; omega, by simp only [addUtcDays]; omega⟩
          (fun g hg => (hsame g hg).1) (fun g hg => (hsame g hg).2) (halone rfl)
          (.of_eq rfl rfl rfl rfl) rfl)

theorem backfillSource_moves {id segmentId : Id} (h : backfillSource s id segmentId = .ok s') :
    Moves Good s s' := by
  unfold backfillSource at h
  rcases hc : s.changes[id]? with _ | c
  · simp [hc] at h
  · simp only [hc, require_bind] at h
    obtain ⟨hsource, h⟩ := h
    obtain rfl := Except.ok.inj h
    refine .single (.turn s id c _ hc ⟨rfl, rfl, rfl, .inr fun t ht => ?_⟩ (.same rfl rfl))
    obtain ⟨d, hd, rfl⟩ := Option.map_eq_some_iff.1 ht
    rw [hd] at hsource
    exact congrArg some (eq_of_beq hsource).symm

/-! ## The machine -/

theorem map_ok {ε α β : Type} {x : Except ε α} {f : α → β} {b : β} (h : x.map f = .ok b) :
    ∃ a, x = .ok a ∧ f a = b := by
  cases x with
  | error e => cases h
  | ok a => exact ⟨a, rfl, Except.ok.inj h⟩

theorem perform_moves {e : Event} (hgood : Good s e) (h : perform s e = .ok s') :
    Moves Good s s' := by
  cases e with
  | tick elapsed =>
    obtain rfl := Except.ok.inj h
    exact .single (.tick s elapsed)
  | vehicle status =>
    obtain rfl := Except.ok.inj h
    exact .single (.vehicle s status)
  | ensureBaseSegment =>
    rcases (ensureBaseSegment_moves h : s' = s ∨ Move Good s s') with rfl | hmove
    · exact .refl
    · exact .single hmove
  | prepareExtension months mode considerationId => exact prepareExtension_moves h
  | createExtension call => exact createExtension_moves h
  | enrollSegment segmentId => exact enrollSegment_moves h
  | decideRenewal id version decision periodMonths => exact decideRenewal_moves h
  | createFormalQuote id version actorId pricing hours => exact createFormalQuote_moves h
  | approvePriceOverride id version actorId reason => exact approvePriceOverride_moves h
  | submitCustomerConfirmation id version => exact submitCustomerConfirmation_moves h
  | confirmQuote id version quoteId => exact confirmQuote_moves h
  | rejectQuote id version quoteId reason => exact rejectQuote_moves h
  | reserveGeneration id version contractId snapshot => exact reserveGeneration_moves h
  | finalizeGeneration id version contractId => exact finalizeGeneration_moves h
  | abortGenerationReservation id contractId => exact abortGenerationReservation_moves h
  | finalizeArchivedContract id evidence =>
    obtain ⟨r, hr, rfl⟩ := map_ok h
    exact finalizeArchivedContract_moves hr
  | cancel id version reason => exact cancel_moves hgood h
  | manualTakeover id version reason => exact manualTakeover_moves hgood h
  | retryAutomationJob id jobId version => exact retryAutomationJob_moves h
  | handle jobId succeeds => exact handle_moves h
  | completeJob jobId => exact completeJob_moves h
  | deadLetter jobId => exact deadLetter_moves h
  | markManualTakeover jobId => exact markManualTakeover_moves h
  | completeIfReady id => exact completeIfReady_moves h
  | expireSegment segmentId closure =>
    obtain ⟨r, hr, rfl⟩ := map_ok h
    exact expireSegment_moves hgood hr
  | createSwap deadline => exact createSwap_moves h
  | moveSwap id status => exact moveSwap_moves h
  | activateIfReady id blockers pricing contractId snapshot => exact activateIfReady_moves h
  | backfillSource id segmentId => exact backfillSource_moves h

/-- What every move keeps is kept by a step. -/
theorem step_invariant {Inv : State → Prop}
    (hmove : ∀ {s s' : State}, Inv s → Move Good s s' → Inv s') {e : Event} (hgood : Good s e)
    (hs : Inv s) : Inv (step s e) := by
  unfold step
  split
  · rename_i s' hs'
    have hmoves := perform_moves hgood hs'
    clear hs'
    induction hmoves with
    | refl => exact hs
    | tail _ hlast ih => exact hmove ih hlast
  · exact hs

/-- What holds of an order without segments and is kept by every move holds after every run. -/
theorem history_invariant {Inv : State → Prop}
    (hmove : ∀ {s s' : State}, Inv s → Move Good s s' → Inv s') {now : Int} {order : Order}
    {lease : Option LeaseStatus} (hs : Inv (initial now order lease)) {evs : List Event}
    (hgood : Runs.Along step Good (initial now order lease) evs) :
    Inv (history now order lease evs) :=
  Runs.runs_invariant Inv (fun _ _ hgood hs => step_invariant hmove hgood hs) hs hgood

/-- Of an order on which anybody may cancel or take over. -/
theorem history_always {Inv : State → Prop}
    (hmove : ∀ {s s' : State}, Inv s → Move (fun _ _ => True) s s' → Inv s') {now : Int}
    {order : Order} {lease : Option LeaseStatus} (hs : Inv (initial now order lease))
    (evs : List Event) : Inv (history now order lease evs) :=
  history_invariant hmove hs (Runs.Along.of_forall fun _ _ _ => trivial)

end SubscriptionSaas.Change
