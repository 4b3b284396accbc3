import SubscriptionSaas.Change.Proofs.TableProofs

/-!
# The base segment and the order's authority

An extension is created only where the base segment still is what the order says, and active. The
first extension that becomes active completes the base segment, so that a second one is never
accepted (`extension_accepted_iff`).
-/

namespace SubscriptionSaas.Change

open Calendar Billing Contract Results Tables

variable {Good : State → Event → Prop} {s s' : State}

/-- The first segment is the base segment as the order has it, until another one has taken over. -/
structure Rooted (s : State) : Prop where
  sound : Sound s
  begun (g : Segment) : s.segments[0]? = some g → g.status ≠ .scheduled
  authority (g : Segment) : s.segments[0]? = some g → g.status = .active →
    ∃ source, assertBaseSourceComplete s.order = .ok source ∧
      baseMatchesAuthority g s.order source = true
  taken (i : Nat) (g b : Segment) : s.segments[i]? = some g → 0 < i → g.status ≠ .scheduled →
    s.segments[0]? = some b → b.status ≠ .active

/-- The segments that have become active after the base segment. -/
def State.activations (s : State) : Nat :=
  (s.segments.filter fun g => g.segmentType != .base && g.status != .scheduled).length

theorem activations_eq_zero : s.activations = 0 ↔
    ∀ g ∈ s.segments, g.segmentType ≠ .base → g.status = .scheduled := by
  simp only [State.activations, List.length_eq_zero_iff, List.filter_eq_nil_iff, Bool.and_eq_true,
    bne_iff_ne, not_and, not_not, ne_eq]

theorem baseMatchesAuthority_baseSegment (order : Order) (source : BaseSource) :
    baseMatchesAuthority (baseSegment order source) order source = true := by
  simp [baseMatchesAuthority, baseSegment, sameJson]

theorem Rooted.move (h : Rooted s) (hmove : Move Good s s') : Rooted s' := by
  have hsound := h.sound.move hmove
  cases hmove with
  | tick | vehicle | prepare | enroll | consideration | job | deadLetter | turn | opens | mark
  | retry => exact ⟨hsound, h.begun, h.authority, h.taken⟩
  | base source hsource hnone hdates hnumber hactive =>
    have hempty := h.sound.segments.eq_nil hnone
    refine ⟨hsound, fun g hg => ?_, fun g hg _ => ⟨source, hsource, ?_⟩, fun i g b hi hpos => ?_⟩
    · simp only [hempty, List.nil_append, List.getElem?_cons_zero, Option.some.injEq] at hg
      rw [← hg]
      exact SegmentStatus.noConfusion
    · simp only [hempty, List.nil_append, List.getElem?_cons_zero, Option.some.injEq] at hg
      rw [← hg]
      exact baseMatchesAuthority_baseSegment s.order source
    · have hlt := get_lt hi
      simp only [hempty, List.nil_append, List.length_singleton] at hlt
      omega
  | schedule cid k c source segment f hfound hkept hstatus' =>
    have hlt := get_lt hfound.found
    have hold {g : Segment} (hg : (s.segments ++ [segment])[0]? = some g) :
        s.segments[0]? = some g := by
      rcases get_append hg with hg | ⟨hlen, -⟩
      · exact hg
      · omega
    have hsegments : (State.setChange (State.enqueue { s with segments := s.segments ++ [segment] }
        .extensionSegmentActivate segment.id c.id) cid f).segments = s.segments ++ [segment] :=
      segments_enqueue _ _ _ _
    have horder : (State.setChange (State.enqueue { s with segments := s.segments ++ [segment] }
        .extensionSegmentActivate segment.id c.id) cid f).order = s.order :=
      enqueue_order _ _ _ _
    refine ⟨hsound, fun g hg => ?_, fun g hg hactive => ?_, fun i g b hg hpos hbegun hb => ?_⟩
    · rw [hsegments] at hg
      exact h.begun g (hold hg)
    · rw [hsegments] at hg
      rw [horder]
      exact h.authority g (hold hg) hactive
    · rw [hsegments] at hg hb
      rcases get_append hg with hg | ⟨-, rfl⟩
      · exact h.taken i g b hg hpos hbegun (hold hb)
      · exact absurd hfound.fresh.2.1 hbegun
  | activate i cid k g source c f hfound hkept hstatus' =>
    have hold {b : Segment} (hb : ((s.segments.modify k Segment.completed).modify i
        (Segment.activated s.now))[0]? = some b) :
        (s.segments.modify k Segment.completed)[0]? = some b := by
      rcases get_modify hb with ⟨-, hb⟩ | ⟨rfl, -⟩
      · exact hb
      · exact absurd hfound.status (h.begun g hfound.segment)
    refine ⟨hsound, fun b hb => ?_, fun b hb hactive => ?_, fun j g' b _ _ _ hb => ?_⟩
    · rcases get_modify (hold hb) with ⟨-, hb⟩ | ⟨-, b', -, rfl⟩
      · exact h.begun b hb
      · exact SegmentStatus.noConfusion
    · exact absurd hactive (hfound.alone b (List.mem_of_getElem? (hold hb)))
    · exact hfound.alone b (List.mem_of_getElem? (hold hb))
  | enqueue jobType i cid htype hactive =>
    refine ⟨hsound, ?_, ?_, ?_⟩
    · rw [segments_enqueue]
      exact h.begun
    · rw [segments_enqueue, enqueue_order]
      exact h.authority
    · rw [segments_enqueue]
      exact h.taken
  | expire _ i g closure hg hgood hdue hnext hactive hsegments hchanges hjobs htakeovers
      hconsiderations hprepared hnow horder =>
    refine ⟨hsound, fun b hb => ?_, fun b hb hactive' => ?_, fun j g' b hg' hpos hbegun hb => ?_⟩
    · rw [hsegments] at hb
      rcases get_modify hb with ⟨-, hb⟩ | ⟨rfl, b', hb', rfl⟩
      · exact h.begun b hb
      · exact fun hscheduled => h.begun b' hb' ((completeActive_status b').2.1 hscheduled)
    · rw [hsegments] at hb
      rw [horder]
      rcases get_modify hb with ⟨-, hb⟩ | ⟨-, b', -, rfl⟩
      · exact h.authority b hb hactive'
      · exact absurd hactive' (completeActive_status b').1
    · rw [hsegments] at hg' hb
      rcases get_modify hb with ⟨-, hb₀⟩ | ⟨-, b', -, rfl⟩
      · rcases get_modify hg' with ⟨-, hg₀⟩ | ⟨rfl, g₁, hg₁, rfl⟩
        · exact h.taken j g' b hg₀ hpos hbegun hb₀
        · rw [ne_eq, (completeActive_status g₁).2] at hbegun
          exact h.taken j g₁ b hg₁ hpos hbegun hb₀
      · exact (completeActive_status b').1
  | swap cid k c source segment endDate f hc hterm hexecuting hsource hactive hsegment hcovers
      hnumber hsingle halone hkept hstatus' =>
    have hlt := get_lt hsource
    have hold {b : Segment} (hb : (s.segments.modify source.id (Segment.endedOn endDate) ++
        [segment])[0]? = some b) :
        (s.segments.modify source.id (Segment.endedOn endDate))[0]? = some b := by
      rcases get_append hb with hb | ⟨hlen, -⟩
      · exact hb
      · rw [List.length_modify] at hlen
        omega
    refine ⟨hsound, fun b hb => ?_, fun b hb hactive => ?_, fun j g' b _ _ _ hb => ?_⟩
    · rcases get_modify (hold hb) with ⟨-, hb⟩ | ⟨-, b', -, rfl⟩
      · exact h.begun b hb
      · exact SegmentStatus.noConfusion
    · exact absurd hactive (halone b (List.mem_of_getElem? (hold hb)))
    · exact halone b (List.mem_of_getElem? (hold hb))

theorem rooted_history (now : Int) (order : Order) (lease : Option LeaseStatus)
    (evs : List Event) : Rooted (history now order lease evs) :=
  history_always Rooted.move ⟨⟨Numbered.nil, OneLive.nil⟩, by simp [initial], by simp [initial],
    by simp [initial]⟩ evs

/-! ## The preconditions of an extension -/

theorem Rooted.base_found (h : Rooted s) {g : Segment} (hg : s.segments[0]? = some g) :
    s.segments.find? (·.segmentType == .base) = some g := by
  obtain ⟨b, rest, hlist⟩ := List.exists_cons_of_ne_nil (List.ne_nil_of_mem (List.mem_of_getElem? hg))
  rw [hlist] at hg
  obtain rfl : b = g := Option.some.inj hg
  have hbase := (h.sound.segments.base 0 b (by rw [hlist]; rfl)).2 rfl
  rw [hlist, List.find?_cons_of_pos (by rw [hbase]; rfl)]

/-- The base segment is accepted as long as it is active. -/
theorem Rooted.ensureBaseSegment (h : Rooted s) {g : Segment} (hg : s.segments[0]? = some g) :
    (g.status = .active → ensureBaseSegment s = .ok s) ∧
      (g.status ≠ .active → ∃ e, ensureBaseSegment s = .error e) := by
  constructor
  · intro hactive
    obtain ⟨source, hsource, hmatch⟩ := h.authority g hg hactive
    simp only [Change.ensureBaseSegment, hsource, bind, Except.bind, h.base_found hg,
      assertBaseMatchesAuthority, hmatch]
    rfl
  · intro hnot
    unfold Change.ensureBaseSegment
    rcases hsource : assertBaseSourceComplete s.order with e | source
    · exact ⟨e, rfl⟩
    · have hmatch : baseMatchesAuthority g s.order source = false := by
        simp [baseMatchesAuthority, hnot]
      simp only [bind, Except.bind, h.base_found hg, assertBaseMatchesAuthority, hmatch]
      exact ⟨_, rfl⟩

/-- An extension of the base segment alone is accepted. -/
theorem createExtension_single {g : ContractSegment} {months : Int} (hmonths : 0 < months)
    (heffective : effective g = true) :
    ∃ period, Contract.createExtension [g] months = .ok period := by
  have hlast : findLast effective [g] = some g := by simp [findLast, heffective]
  have hlt := lt_addMonths (g.endDate + 1) hmonths
  have happendable : assertAppendableExtension [g] g (addUtcDays g.endDate 1)
      (addUtcDays (addCalendarMonths (addUtcDays g.endDate 1) months) (-1)) = .ok () := by
    simp only [assertAppendableExtension, addUtcDays, addCalendarMonths_eq, heffective, hlast]
    rw [if_neg (by omega)]
    simp
  refine ⟨(g, addUtcDays g.endDate 1,
    addUtcDays (addCalendarMonths (addUtcDays g.endDate 1) months) (-1)), ?_⟩
  rw [Contract.createExtension, if_neg (by omega)]
  simp only [hlast, happendable]
  rfl

/-- Where the last segment is the first one, it is the only one. -/
theorem Rooted.rows_single (h : Rooted s) {last : ContractSegment}
    (hlast : findLast effective s.rows = some last) (hactive : last.status = .active)
    (hnone : s.activations = 0) :
    ∃ g, s.segments = [g] ∧ g.toContractSegment = last := by
  obtain ⟨g, hg, rfl⟩ := List.mem_map.1 (findLast_mem hlast).1
  obtain ⟨i, hi⟩ := List.mem_iff_getElem?.1 hg
  have hbase : g.segmentType = .base := by
    by_contra hne
    rw [activations_eq_zero.1 hnone g hg hne] at hactive
    cases hactive
  obtain rfl := (h.sound.segments.base i g hi).1 hbase
  have hlen : s.segments.length = 1 := by
    have hlt := get_lt hi
    by_contra hne
    have hnext : s.segments[1]? = some s.segments[1] := List.getElem?_eq_getElem (by omega)
    have hle := findLast_le hlast (List.mem_map_of_mem (List.mem_of_getElem? hnext))
      (effective_iff.2 (h.sound.segments.kept 1 _ hnext))
    have hone := (h.sound.segments.number 0 g hi).2
    have htwo := (h.sound.segments.number 1 _ hnext).2
    push_cast at htwo
    omega
  obtain ⟨b, hlist⟩ := List.length_eq_one_iff.1 hlen
  rw [hlist] at hi
  exact ⟨g, by rw [hlist, Option.some.inj hi], rfl⟩

/-- An order is extended as long as no extension and no swap has become active, and no more after. -/
theorem extension_accepted_iff (now : Int) (order : Order) (lease : Option LeaseStatus)
    (evs : List Event) (months : Int) (last : ContractSegment) (hmonths : 0 < months)
    (hlast : findLast effective (history now order lease evs).rows = some last)
    (hactive : last.status = .active) :
    (∃ r, extensionSource (history now order lease evs) months = .ok r) ↔
      (history now order lease evs).activations = 0 := by
  have hrooted := rooted_history now order lease evs
  revert hlast hrooted
  generalize history now order lease evs = s
  intro hlast hrooted
  constructor
  · rintro ⟨r, hr⟩
    obtain ⟨s₁, hbase, -⟩ := bind_ok hr
    rw [activations_eq_zero]
    intro g hg htype
    by_contra hbegun
    obtain ⟨i, hi⟩ := List.mem_iff_getElem?.1 hg
    have hpos : 0 < i := Nat.pos_of_ne_zero fun h0 =>
      htype ((hrooted.sound.segments.base i g hi).2 h0)
    obtain ⟨b, hb⟩ : ∃ b, s.segments[0]? = some b :=
      ⟨_, List.getElem?_eq_getElem (Nat.lt_of_le_of_lt (Nat.zero_le i) (get_lt hi))⟩
    obtain ⟨e, he⟩ := (hrooted.ensureBaseSegment hb).2 (hrooted.taken i g b hi hpos hbegun hb)
    rw [he] at hbase
    cases hbase
  · intro hnone
    obtain ⟨g, hlist, rfl⟩ := hrooted.rows_single hlast hactive hnone
    have hbase := (hrooted.ensureBaseSegment (by rw [hlist]; rfl)).1 hactive
    obtain ⟨period, hperiod⟩ := createExtension_single hmonths (findLast_mem hlast).2
    refine ⟨(s, period), ?_⟩
    rw [extensionSource, bind_eq hbase, State.rows, hlist]
    simp only [List.map_cons, List.map_nil, hperiod]
    rfl

/-! ## An order that is extended once -/

def leasedOrder : Order where
  businessType := .subscription
  orderStatus := .active
  deleted := false
  vehicle := some .leased
  contract := some ⟨1, .archived, .obj []⟩
  startDate := some 0
  endDate := some 30
  productId := 1
  productVersionId := 1
  monthlyFeeAmount := 100
  mileageLimitKm := 1000
  overMileageFeeAmount := 1
  energyLimitKwh := none
  energyLimitCount := none
  finalPlanSnapshot := some (.obj [])
  quoteSnapshot := .obj []

def monthPricing : Pricing where
  productId := some 1
  productVersionId := some 1
  subscriptionPlanId := none
  monthlyFeeAmount := 100
  mileageLimitKm := 1000
  overMileageFeeAmount := 1
  energyLimitKwh := none
  energyLimitCount := none
  planSnapshot := .obj []
  entitlementKeys := []
  quoteSnapshot := .obj []

/-- The change `id` is created by the prepared call, quoted and confirmed, and its agreement signed. -/
def extend (call id : Nat) : List Event :=
  [.createExtension call, .createFormalQuote id 0 1 monthPricing 48,
    .submitCustomerConfirmation id 1, .confirmQuote id 2 0, .reserveGeneration id 3 2 (.obj []),
    .finalizeGeneration id 3 2, .finalizeArchivedContract id true]

def carryOut (jobId : Id) : List Event := [.handle jobId true, .completeJob jobId]

/-- The extension is archived, becomes active after its source's last day and is completed. -/
def extendedOnce : List Event :=
  .prepareExtension 1 .currentVersion none :: extend 0 0 ++ [.tick (31 * 86400000)] ++
    [0, 1, 2, 3].flatMap carryOut ++ [.completeIfReady 0]

theorem second_extension_refused :
    let s := history 0 leasedOrder (some .active) extendedOnce
    s.activations = 1 ∧ s.order.orderStatus = .active ∧ (∀ c ∈ s.changes, c.status = .completed) ∧
      (findLast effective s.rows).any (·.status = .active) ∧
      (extensionSource s 1).map (fun _ => ()) = .error ⟨"CONTRACT_SEGMENT_SOURCE_CONFLICT",
        "The existing BASE segment differs from the archived order authority."⟩ := by
  decide +kernel

theorem extension_accepted_iff_once :
    ¬∃ r, extensionSource (history 0 leasedOrder (some .active) extendedOnce) 1 = .ok r := by
  have hlast : findLast effective (history 0 leasedOrder (some .active) extendedOnce).rows =
      some ⟨1, 2, .active, 31, 58, 100, some 0, some 0⟩ := by decide +kernel
  rw [extension_accepted_iff 0 leasedOrder (some .active) extendedOnce 1 _ (by decide) hlast rfl]
  decide +kernel

end SubscriptionSaas.Change
