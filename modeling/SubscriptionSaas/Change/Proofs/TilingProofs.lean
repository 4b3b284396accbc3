import SubscriptionSaas.Change.Proofs.AuthorityProofs

/-!
# The segments tile the service

A scheduled segment keeps its change live, so that nothing is appended behind it, as long as nobody
cancels a change whose segment is scheduled (`segments_tile`). Such a cancellation lets a second
extension in, behind a segment that will never be active.
-/

namespace SubscriptionSaas.Change

open Calendar Billing Contract Results Tables

variable {Good : State → Event → Prop} {s s' : State}

/-- A change is cancelled only while it has no scheduled segment. -/
def CancelsUnscheduled (s : State) : Event → Prop
  | .cancel id _ _ => ∀ g ∈ s.segments, g.sourceChangeOrderId = some id → g.status ≠ .scheduled
  | _ => True

instance (s : State) (e : Event) : Decidable (CancelsUnscheduled s e) := by
  unfold CancelsUnscheduled
  split <;> infer_instance

/-- The change of a scheduled segment, which is the last segment `i`. -/
structure State.Awaits (s : State) (i : Nat) (cid : Id) (c : ChangeOrder) : Prop where
  last : i + 1 = s.segments.length
  change : s.changes[cid]? = some c
  status : c.status = .scheduled ∨ c.status = .manualTakeover
  term : ∃ t, c.term = some t ∧ t.1 + 1 = i

/-- The job of a segment and of the change that has appended it; the jobs that follow the activation
do not exist before it. -/
def State.Owns (s : State) (job : Job) : Prop :=
  ∃ g, s.segments[job.contractSegmentId]? = some g ∧
    g.sourceChangeOrderId = some job.changeOrderId ∧
      (job.jobType ≠ .extensionSegmentActivate → g.status ≠ .scheduled)

/-- What no operation changes in a job. -/
structure Job.Kept (job job' : Job) : Prop where
  jobType : job'.jobType = job.jobType
  segment : job'.contractSegmentId = job.contractSegmentId
  change : job'.changeOrderId = job.changeOrderId

theorem State.Owns.kept {job job' : Job} (h : s.Owns job) (hkept : job.Kept job') : s.Owns job' := by
  unfold State.Owns
  rw [hkept.jobType, hkept.segment, hkept.change]
  exact h

structure Tiled (s : State) : Prop where
  sound : Sound s
  pending (i : Nat) (g : Segment) : s.segments[i]? = some g → g.status = .scheduled →
    ∃ cid c, g.sourceChangeOrderId = some cid ∧ s.Awaits i cid c
  before (i j : Nat) (g g' : Segment) : s.segments[i]? = some g → s.segments[j]? = some g' →
    i < j → g'.status = .active → g.status = .completed
  jobs (job : Job) : job ∈ s.jobs → s.Owns job

theorem State.Awaits.live {i : Nat} {cid : Id} {c : ChangeOrder} (h : s.Awaits i cid c) :
    c.status.live = true := by
  rcases h.status with hstatus | hstatus <;> rw [hstatus] <;> rfl

/-- What an operation that leaves the segments as they are has to keep. -/
theorem Tiled.keep (h : Tiled s) (hsound : Sound s') (hsegments : s'.segments = s.segments)
    (hjobs : ∀ job ∈ s'.jobs, s.Owns job)
    (hchange : ∀ i g cid c, s.segments[i]? = some g → g.status = .scheduled →
      g.sourceChangeOrderId = some cid → s.Awaits i cid c →
      ∃ c', s'.changes[cid]? = some c' ∧ (c'.status = .scheduled ∨ c'.status = .manualTakeover) ∧
        c'.term = c.term) : Tiled s' where
  sound := hsound
  pending i g hi hstatus := by
    rw [hsegments] at hi
    obtain ⟨cid, c, horigin, hawaits⟩ := h.pending i g hi hstatus
    obtain ⟨c', hc', hstatus', hterm⟩ := hchange i g cid c hi hstatus horigin hawaits
    refine ⟨cid, c', horigin, ?_, hc', hstatus', ?_⟩
    · rw [hsegments]
      exact hawaits.last
    · rw [hterm]
      exact hawaits.term
  before i j g g' hi hj := by
    rw [hsegments] at hi hj
    exact h.before i j g g' hi hj
  jobs job hjob := by
    rw [State.Owns, hsegments]
    exact hjobs job hjob

/-- A job of the modified table has kept what no operation changes. -/
theorem kept_of_modify_job {jobs : List Job} {jobId : Id} {f : Job → Job}
    (hkept : ∀ job, jobs[jobId]? = some job → job.Kept (f job)) {job : Job}
    (hjob : job ∈ jobs.modify jobId f) : ∃ job₀ ∈ jobs, job₀.Kept job := by
  obtain ⟨n, hn⟩ := List.mem_iff_getElem?.1 hjob
  rcases get_modify hn with ⟨-, hn⟩ | ⟨rfl, job₀, hjob₀, rfl⟩
  · exact ⟨job, List.mem_of_getElem? hn, rfl, rfl, rfl⟩
  · exact ⟨job₀, List.mem_of_getElem? hjob₀, hkept job₀ hjob₀⟩

theorem Tiled.jobs_modify (h : Tiled s) {jobId : Id} {f : Job → Job}
    (hkept : ∀ job, s.jobs[jobId]? = some job → job.Kept (f job)) {job : Job}
    (hjob : job ∈ s.jobs.modify jobId f) : s.Owns job := by
  obtain ⟨job₀, hjob₀, hkept⟩ := kept_of_modify_job hkept hjob
  exact (h.jobs job₀ hjob₀).kept hkept

/-- The owner of a job is the same segment after an operation that does not bring it back. -/
theorem Tiled.owns (h : Tiled s) {job job' : Job} (hjob : job ∈ s.jobs) (hkept : job.Kept job')
    (hsegment : ∀ (i : Nat) (g : Segment), s.segments[i]? = some g → ∃ g', s'.segments[i]? = some g' ∧
      g'.sourceChangeOrderId = g.sourceChangeOrderId ∧
        (g'.status = .scheduled → g.status = .scheduled)) : s'.Owns job' := by
  obtain ⟨g, hg, horigin, hbegun⟩ := (h.jobs job hjob).kept hkept
  obtain ⟨g', hg', horigin', hstatus⟩ := hsegment _ g hg
  exact ⟨g', hg', horigin'.trans horigin, fun htype hscheduled => hbegun htype (hstatus hscheduled)⟩

/-- The change of a scheduled segment does not leave the two statuses. -/
theorem Turn.awaits {id i : Id} {c c' : ChangeOrder} {g : Segment} (hturn : Turn Good s id c c')
    (hgood : ∀ e, Good s e → CancelsUnscheduled s e) (hi : s.segments[i]? = some g)
    (hstatus : g.status = .scheduled) (horigin : g.sourceChangeOrderId = some id)
    (h : s.Awaits i id c) : c'.status = .scheduled ∨ c'.status = .manualTakeover := by
  have hwas := h.status
  cases hturn with
  | same hstatus' _ =>
    rw [hstatus']
    exact hwas
  | advance hearly _ =>
    rcases hwas with hwas | hwas <;> rw [hwas] at hearly <;> cases hearly
  | reject hquoted _ =>
    rcases hwas with hwas | hwas <;> rw [hwas] at hquoted <;> cases hquoted
  | cancel version reason hcancel _ =>
    exact absurd hstatus (hgood _ hcancel g (List.mem_of_getElem? hi) horigin)
  | takeover _ _ _ _ _ hstatus' _ => exact .inr hstatus'
  | complete hexecuting _ =>
    rcases hwas with hwas | hwas <;> rw [hwas] at hexecuting <;> cases hexecuting
  | swap hswap _ =>
    obtain ⟨t, ht, -⟩ := h.term
    rw [hswap] at ht
    cases ht

/-- No other change is live while a segment is scheduled. -/
theorem Tiled.none_scheduled (h : Tiled s) {cid : Id} {c : ChangeOrder}
    (hc : s.changes[cid]? = some c) (hlive : c.status.live = true) (hstatus : c.status ≠ .scheduled)
    (hstatus' : c.status ≠ .manualTakeover) {i : Nat} {g : Segment} (hi : s.segments[i]? = some g) :
    g.status ≠ .scheduled := by
  intro hscheduled
  obtain ⟨cid', c', -, hawaits⟩ := h.pending i g hi hscheduled
  obtain rfl := h.sound.changes.live cid' cid c' c hawaits.change hc hawaits.live hlive
  obtain rfl := Option.some.inj (hc.symm.trans hawaits.change)
  exact hawaits.status.elim hstatus hstatus'

/-- An extension is appended to the last segment, behind no scheduled one. -/
theorem Tiled.schedule (h : Tiled s) {cid k : Id} {c : ChangeOrder} {source segment : Segment}
    {f : ChangeOrder → ChangeOrder} {s₁ : State}
    (hs₁ : s₁ = (State.enqueue { s with segments := s.segments ++ [segment] }
      .extensionSegmentActivate segment.id c.id).setChange cid f)
    (hsound : Sound s₁) (hfound : s.Schedules cid k c source segment) (hkept : c.Kept (f c))
    (hstatus' : (f c).status = .scheduled) : Tiled s₁ := by
  have hsegments : s₁.segments = s.segments ++ [segment] := by
    rw [hs₁]
    exact segments_enqueue _ _ _ _
  have hchanges : s₁.changes = s.changes.modify cid f := by
    rw [hs₁]
    exact congrArg (List.modify · cid f) (enqueue_changes _ _ _ _)
  have hlast := h.sound.segments.last hfound.found hfound.next.2 hfound.number
  refine ⟨hsound, fun i g hi hscheduled => ?_, fun i j g g' hi hj hlt hactive => ?_,
    fun job hjob => ?_⟩
  · rw [hsegments] at hi
    rcases get_append hi with hi | ⟨rfl, rfl⟩
    · refine absurd hscheduled (h.none_scheduled hfound.change ?_ ?_ ?_ hi) <;>
        rw [hfound.status] <;> decide
    · refine ⟨cid, f c, ?_, ?_, ?_, .inl hstatus', (k, g.startDate, g.endDate), ?_, hlast⟩
      · rw [hfound.origin.2, h.sound.changes.id cid c hfound.change]
      · rw [hsegments, List.length_append, List.length_singleton]
      · rw [hchanges]
        exact get_modify_self hfound.change
      · rw [hkept.term]
        exact hfound.term
  · rw [hsegments] at hi hj
    rcases get_append hj with hj | ⟨rfl, rfl⟩
    · rcases get_append hi with hi | ⟨rfl, -⟩
      · exact h.before i j g g' hi hj hlt hactive
      · exact absurd (get_lt hj) (by omega)
    · rw [hfound.fresh.2.1] at hactive
      cases hactive
  · rw [hs₁] at hjob
    rcases mem_enqueue hjob with hjob | ⟨hactivate, hsegment, hchange⟩
    · refine h.owns hjob ⟨rfl, rfl, rfl⟩ fun i g hg => ⟨g, ?_, rfl, id⟩
      rw [hsegments]
      exact get_append_old hg
    · refine ⟨segment, ?_, by rw [hchange]; exact hfound.origin.2, fun htype => ?_⟩
      · rw [hsegments, hsegment, hfound.fresh.1, List.getElem?_concat_length]
      · exact absurd hactivate htype

/-- The scheduled segment takes over from the active one; all before it are completed. -/
theorem Tiled.activate (h : Tiled s) {i cid k : Id} {g source : Segment} {c : ChangeOrder}
    {f : ChangeOrder → ChangeOrder}
    (hsound : Sound (((s.setSegment k Segment.completed).setSegment i
      (Segment.activated s.now)).setChange cid f))
    (hfound : s.Activates i cid k g source c) :
    Tiled (((s.setSegment k Segment.completed).setSegment i
      (Segment.activated s.now)).setChange cid f) := by
  obtain ⟨_, _, -, hawaits⟩ := h.pending i g hfound.segment hfound.status
  have hlast := hawaits.last
  refine ⟨hsound, fun j g' hj hscheduled => ?_, fun a b g₁ g₂ ha hb hlt hactive => ?_,
    fun job hjob => h.owns hjob ⟨rfl, rfl, rfl⟩ fun n g₀ hg₀ => ?_⟩
  · rcases get_modify hj with ⟨hne, hj⟩ | ⟨-, g₀, -, rfl⟩
    · rcases get_modify hj with ⟨-, hj⟩ | ⟨-, g₀, -, rfl⟩
      · obtain ⟨_, _, -, hawaits'⟩ := h.pending j g' hj hscheduled
        have hlast' := hawaits'.last
        omega
      · cases hscheduled
    · cases hscheduled
  · rcases get_modify hb with ⟨-, hb⟩ | ⟨rfl, -⟩
    · exact absurd hactive (hfound.alone g₂ (List.mem_of_getElem? hb))
    · rcases get_modify ha with ⟨-, ha⟩ | ⟨rfl, -⟩
      · have hnotActive := hfound.alone g₁ (List.mem_of_getElem? ha)
        rcases get_modify ha with ⟨-, ha⟩ | ⟨-, g₀, -, rfl⟩
        · rcases hstatus : g₁.status with _ | _ | _ | _
          · obtain ⟨_, _, -, hawaits'⟩ := h.pending a g₁ ha hstatus
            have hlast' := hawaits'.last
            omega
          · exact absurd hstatus hnotActive
          · rfl
          · exact absurd hstatus (h.sound.segments.kept a g₁ ha)
        · rfl
      · omega
  · rcases get_of_modify k Segment.completed hg₀ with hg₁ | ⟨-, hg₁⟩ <;>
      rcases get_of_modify i (Segment.activated s.now) hg₁ with hg₂ | ⟨-, hg₂⟩
    · exact ⟨g₀, hg₂, rfl, id⟩
    · exact ⟨_, hg₂, rfl, SegmentStatus.noConfusion⟩
    · exact ⟨_, hg₂, rfl, SegmentStatus.noConfusion⟩
    · exact ⟨_, hg₂, rfl, SegmentStatus.noConfusion⟩

/-- The job that a retry reopens, where the segment of its change is scheduled, is the activation. -/
theorem Tiled.retries (h : Tiled s) {i : Nat} {g : Segment} {id : Id} {c : ChangeOrder} {job : Job}
    (hi : s.segments[i]? = some g) (hscheduled : g.status = .scheduled)
    (horigin : g.sourceChangeOrderId = some id) (hc : s.changes[id]? = some c) (hjob : job ∈ s.jobs)
    (htarget : (s.targetSegment c.id).map (·.id) = some job.contractSegmentId) :
    job.jobType = .extensionSegmentActivate := by
  by_contra htype
  obtain ⟨target, hfind, hid⟩ := Option.map_eq_some_iff.1 htarget
  obtain ⟨n, hn⟩ := List.mem_iff_getElem?.1 (List.mem_of_find?_eq_some hfind)
  have hsame := List.find?_some hfind
  rw [h.sound.changes.id id c hc, beq_iff_eq] at hsame
  obtain rfl := h.sound.segments.origin n i target g id hn hi hsame horigin
  obtain ⟨g', hg', -, hbegun⟩ := h.jobs job hjob
  rw [← hid, (h.sound.segments.number n target hn).1, hi] at hg'
  obtain rfl := Option.some.inj hg'
  exact hbegun htype hscheduled

theorem kept_cancelFutureJob (job : Job) : job.Kept (cancelFutureJob job) := by
  unfold cancelFutureJob
  split <;> exact ⟨rfl, rfl, rfl⟩

/-- The change that an expiry fails is not that of a scheduled segment, which would come next. -/
theorem Tiled.not_expiring (h : Tiled s) {i : Id} {g : Segment} {c₁ : ChangeOrder}
    (hg : s.segments[i]? = some g) (hnext : findEffectiveNextSegment s g = none)
    (hexpiring : expiringChange s i = some c₁) {j : Nat} {g' : Segment} {c : ChangeOrder}
    (hj : s.segments[j]? = some g') (hscheduled : g'.status = .scheduled)
    (hawaits : s.Awaits j c₁.id c) : False := by
  obtain ⟨n, hn⟩ := List.mem_iff_getElem?.1 (List.mem_reverse.1 (List.mem_of_find?_eq_some hexpiring))
  have hsource := List.find?_some hexpiring
  obtain rfl := h.sound.changes.id n c₁ hn
  obtain rfl := Option.some.inj (hn.symm.trans hawaits.change)
  obtain ⟨t, hterm, ht⟩ := hawaits.term
  rw [beq_iff_eq] at hsource
  rcases h.sound.changes.source c₁.id c₁ t hn hterm with hnone | hsome
  · rw [hnone] at hsource
    cases hsource
  · obtain rfl : i = t.1 := Option.some.inj (hsource.symm.trans hsome)
    subst ht
    have hstart := h.sound.segments.next t.1 g g' hg hj
    have hnumber := (h.sound.segments.number _ _ hg).2
    have hnumber' := (h.sound.segments.number _ _ hj).2
    push_cast at hnumber'
    rw [findEffectiveNextSegment, List.find?_eq_none] at hnext
    refine hnext g' (List.mem_of_getElem? hj) ?_
    simp only [Bool.and_eq_true, decide_eq_true_eq, beq_iff_eq, Bool.or_eq_true, addUtcDays]
    exact ⟨⟨by omega, hstart⟩, .inl hscheduled⟩

/-- The expiry does not touch the change of a scheduled segment. -/
theorem Tiled.expire (h : Tiled s) {i : Id} {g : Segment} {s' : State} (hsound : Sound s')
    (hg : s.segments[i]? = some g) (hnext : findEffectiveNextSegment s g = none)
    (hsegments : s'.segments = s.segments.modify i completeActive)
    (hchanges : s'.changes = match expiringChange s i with
      | some c => s.changes.modify c.id failChange
      | none => s.changes)
    (hjobs : s'.jobs = s.jobs.map cancelFutureJob) : Tiled s' := by
  refine ⟨hsound, fun j g' hj hscheduled => ?_, fun a b g₁ g₂ ha hb hlt hactive => ?_,
    fun job hjob => ?_⟩
  · rw [hsegments] at hj
    obtain ⟨g₀, hg₀, hstatus₀, horigin₀⟩ : ∃ g₀, s.segments[j]? = some g₀ ∧
        g₀.status = .scheduled ∧ g'.sourceChangeOrderId = g₀.sourceChangeOrderId := by
      rcases get_modify hj with ⟨-, hj⟩ | ⟨rfl, g₀, hg₀, rfl⟩
      · exact ⟨g', hj, hscheduled, rfl⟩
      · exact ⟨g₀, hg₀, (completeActive_status g₀).2.1 hscheduled, (fixed_completeActive g₀).origin⟩
    obtain ⟨cid, c, horigin, hawaits⟩ := h.pending j g₀ hg₀ hstatus₀
    refine ⟨cid, c, horigin₀.trans horigin, ?_, ?_, hawaits.status, hawaits.term⟩
    · rw [hsegments, List.length_modify]
      exact hawaits.last
    · rcases hexpiring : expiringChange s i with _ | c₁
      · rw [hexpiring] at hchanges
        rw [hchanges]
        exact hawaits.change
      · rw [hexpiring] at hchanges
        rw [hchanges, get_modify_ne]
        · exact hawaits.change
        · rintro rfl
          exact h.not_expiring hg hnext hexpiring hg₀ hstatus₀ hawaits
  · rw [hsegments] at ha hb
    rcases get_modify hb with ⟨-, hb₀⟩ | ⟨-, g₀, -, rfl⟩
    · rcases get_modify ha with ⟨-, ha₀⟩ | ⟨rfl, g₀, hg₀, rfl⟩
      · exact h.before a b g₁ g₂ ha₀ hb₀ hlt hactive
      · exact completeActive_completed (h.before a b g₀ g₂ hg₀ hb₀ hlt hactive)
    · exact absurd hactive (completeActive_status g₀).1
  · rw [hjobs] at hjob
    obtain ⟨job₀, hjob₀, rfl⟩ := List.mem_map.1 hjob
    refine h.owns hjob₀ (kept_cancelFutureJob job₀) fun n g₀ hg₀ => ?_
    rw [hsegments]
    rcases get_of_modify i completeActive hg₀ with hg₁ | ⟨-, hg₁⟩
    · exact ⟨g₀, hg₁, rfl, id⟩
    · exact ⟨_, hg₁, (fixed_completeActive g₀).origin, (completeActive_status g₀).2.1⟩

/-- A swap splits the last segment. -/
theorem Tiled.swap (h : Tiled s) {k : Nat} {cid : Id} {source segment : Segment} {endDate : Int}
    {f : ChangeOrder → ChangeOrder} {s' : State} (hsound : Sound s')
    (hs' : s' = State.setChange { s with
      segments := s.segments.modify k (Segment.endedOn endDate) ++ [segment] } cid f)
    (hsource : s.segments[k]? = some source) (hactive : source.status = .active)
    (hstatus : segment.status = .active) (hlast : k + 1 = s.segments.length)
    (halone : ∀ g ∈ s.segments.modify k (Segment.endedOn endDate), g.status ≠ .active) :
    Tiled s' := by
  subst hs'
  refine ⟨hsound, fun j g' hj hscheduled => ?_, fun a b g₁ g₂ ha hb hlt hactive' => ?_,
    fun job hjob => h.owns hjob ⟨rfl, rfl, rfl⟩ fun n g₀ hg₀ => ?_⟩
  · rcases get_append hj with hj | ⟨-, rfl⟩
    · rcases get_modify hj with ⟨hne, hj⟩ | ⟨-, g₀, -, rfl⟩
      · obtain ⟨_, _, -, hawaits⟩ := h.pending j g' hj hscheduled
        have hlast' := hawaits.last
        omega
      · cases hscheduled
    · rw [hstatus] at hscheduled
      cases hscheduled
  · rcases get_append hb with hb | ⟨rfl, rfl⟩
    · exact absurd hactive' (halone g₂ (List.mem_of_getElem? hb))
    · rcases get_append ha with ha | ⟨rfl, -⟩
      · rcases get_modify ha with ⟨hne, ha⟩ | ⟨-, g₀, -, rfl⟩
        · have hlt' := get_lt ha
          exact h.before a k g₁ source ha hsource (by omega) hactive
        · rfl
      · omega
  · rcases get_of_modify k (Segment.endedOn endDate) hg₀ with hg₁ | ⟨-, hg₁⟩
    · exact ⟨g₀, get_append_old hg₁, rfl, id⟩
    · exact ⟨_, get_append_old hg₁, rfl, SegmentStatus.noConfusion⟩

theorem Tiled.move (hgood : ∀ s e, Good s e → CancelsUnscheduled s e) (h : Tiled s)
    (hmove : Move Good s s') : Tiled s' := by
  have hsound := h.sound.move hmove
  cases hmove with
  | tick | vehicle | prepare | enroll | consideration =>
    exact h.keep hsound rfl h.jobs fun _ _ _ c _ _ _ hawaits =>
      ⟨c, hawaits.change, hawaits.status, rfl⟩
  | base source hsource hnone hdates hnumber hactive =>
    have hempty := h.sound.segments.eq_nil hnone
    refine ⟨hsound, fun i g hi hstatus => ?_, fun i j g g' hi hj hlt _ => ?_, fun job hjob => ?_⟩
    · rcases get_append hi with hi | ⟨-, rfl⟩
      · simp [hempty] at hi
      · cases hstatus
    · have hlen := get_lt hj
      simp only [hempty, List.nil_append, List.length_singleton] at hlen
      omega
    · obtain ⟨g, hg, -⟩ := h.jobs job hjob
      simp [hempty] at hg
  | turn id c f hc hkept hturn =>
    refine h.keep hsound rfl h.jobs fun i g cid c' hi hstatus horigin hawaits => ?_
    rcases get_of_modify id f hawaits.change with hsame | ⟨rfl, hmoved⟩
    · exact ⟨c', hsame, hawaits.status, rfl⟩
    · obtain rfl := Option.some.inj (hc.symm.trans hawaits.change)
      exact ⟨f c, hmoved, hturn.awaits (hgood s) hi hstatus horigin hawaits, hkept.term⟩
  | opens c hid hstatus hsource hlive hopens =>
    exact h.keep hsound rfl h.jobs fun _ _ _ c' _ _ _ hawaits =>
      ⟨c', get_append_old hawaits.change, hawaits.status, rfl⟩
  | schedule cid k c source segment f hfound hkept hstatus' =>
    exact h.schedule rfl hsound hfound hkept hstatus'
  | activate i cid k g source c f hfound hkept hstatus' =>
    exact h.activate hsound hfound
  | enqueue jobType i cid htype hactive =>
    refine h.keep hsound (segments_enqueue _ _ _ _) (fun job hjob => ?_)
      fun _ _ _ c' _ _ _ hawaits => ⟨c', ?_, hawaits.status, rfl⟩
    · rcases mem_enqueue hjob with hjob | ⟨-, hsegment, hchange⟩
      · exact h.jobs job hjob
      · obtain ⟨g, hg, hid, hstatus, horigin⟩ := hactive
        obtain ⟨n, hn⟩ := List.mem_iff_getElem?.1 hg
        refine ⟨g, ?_, by rw [hchange]; exact horigin,
          fun _ => by rw [hstatus]; exact SegmentStatus.noConfusion⟩
        rw [hsegment, ← hid, (h.sound.segments.number n g hn).1]
        exact hn
    · rw [enqueue_changes]
      exact hawaits.change
  | job jobId job f hjob hopen hkept =>
    refine h.keep hsound rfl (fun job' => h.jobs_modify fun job₀ hjob₀ => ?_)
      fun _ _ _ c' _ _ _ hawaits => ⟨c', hawaits.change, hawaits.status, rfl⟩
    obtain rfl := Option.some.inj (hjob.symm.trans hjob₀)
    exact ⟨hkept.1, hkept.2.1, hkept.2.2⟩
  | deadLetter jobId job hjob hopen =>
    exact h.keep hsound rfl (fun job' => h.jobs_modify (f := Job.deadLettered) fun _ _ => ⟨rfl, rfl, rfl⟩)
      fun _ _ _ c' _ _ _ hawaits => ⟨c', hawaits.change, hawaits.status, rfl⟩
  | mark jobId job f hjob hmark hkept hturn =>
    refine h.keep hsound rfl h.jobs fun i g cid c' hi hstatus horigin hawaits => ?_
    rcases get_of_modify job.changeOrderId f hawaits.change with hsame | ⟨rfl, hmoved⟩
    · exact ⟨c', hsame, hawaits.status, rfl⟩
    · refine ⟨f c', hmoved, ?_, (hkept c').term⟩
      rcases hturn c' with ⟨hsame, -⟩ | ⟨-, htakeover, -⟩
      · rw [hsame]
        exact hawaits.status
      · exact .inr htakeover
  | retry id jobId c job f hc hjob hstatus hdead htarget hkept hstatus' =>
    refine h.keep hsound rfl (fun job' => h.jobs_modify (f := Job.reopened) fun _ _ => ⟨rfl, rfl, rfl⟩)
      fun i g cid c' hi hscheduled horigin hawaits => ?_
    rcases get_of_modify id f hawaits.change with hsame | ⟨rfl, hmoved⟩
    · exact ⟨c', hsame, hawaits.status, rfl⟩
    · obtain rfl := Option.some.inj (hc.symm.trans hawaits.change)
      refine ⟨f c, hmoved, .inl ?_, hkept.term⟩
      rw [hstatus', if_pos]
      exact h.retries hi hscheduled horigin hc (List.mem_of_getElem? hjob) htarget
  | expire _ i g closure hg hclosure hdue hnext hactive hsegments hchanges hjobs =>
    exact h.expire hsound hg hnext hsegments hchanges hjobs
  | swap cid k c source segment endDate f hc hterm hexecuting hsource hactive hsegment hcovers
      hnumber hsingle halone hkept hstatus' =>
    obtain ⟨hid, hstatus, -, hseq, -⟩ := hsegment
    have hk := (h.sound.segments.number k source hsource).1
    subst hk
    exact h.swap hsound rfl hsource hactive hstatus (h.sound.segments.last hsource hseq hnumber) halone

/-! ## Every run without such a cancellation -/

/-- The segments that are not cancelled. -/
def State.effectiveSegments (s : State) : List Segment :=
  s.segments.filter fun g => effective g.toContractSegment

/-- The segments, in the order of their creation, tile the service: `i` is the place of a segment. -/
structure Tiles (segs : List Segment) : Prop where
  number (i : Nat) (g : Segment) : segs[i]? = some g → g.sequenceNo = i + 1
  dates (i : Nat) (g : Segment) : segs[i]? = some g → g.startDate ≤ g.endDate
  next (i : Nat) (g g' : Segment) : segs[i]? = some g → segs[i + 1]? = some g' →
    g'.startDate = g.endDate + 1
  active (i j : Nat) (g g' : Segment) : segs[i]? = some g → segs[j]? = some g' →
    g.status = .active → g'.status = .active → i = j
  before (i j : Nat) (g g' : Segment) : segs[i]? = some g → segs[j]? = some g' → i < j →
    g'.status = .active → g.status = .completed
  scheduled (i : Nat) (g : Segment) : segs[i]? = some g → g.status = .scheduled →
    i + 1 = segs.length

theorem Numbered.effectiveSegments (h : Numbered s.segments) : s.effectiveSegments = s.segments := by
  rw [State.effectiveSegments, List.filter_eq_self]
  intro g hg
  obtain ⟨i, hi⟩ := List.mem_iff_getElem?.1 hg
  exact effective_iff.2 (h.kept i g hi)

theorem Tiled.tiles (h : Tiled s) : Tiles s.effectiveSegments := by
  rw [h.sound.segments.effectiveSegments]
  exact {
    number := fun i g hi => (h.sound.segments.number i g hi).2
    dates := h.sound.segments.dates
    next := h.sound.segments.next
    active := h.sound.segments.active
    before := h.before
    scheduled := fun i g hi hscheduled => by
      obtain ⟨_, _, -, hawaits⟩ := h.pending i g hi hscheduled
      exact hawaits.last }

theorem tiled_history (hgood : ∀ s e, Good s e → CancelsUnscheduled s e) {now : Int}
    {order : Order} {lease : Option LeaseStatus} {evs : List Event}
    (h : Runs.Along step Good (initial now order lease) evs) :
    Tiled (history now order lease evs) := by
  refine history_invariant (Tiled.move hgood) ?_ h
  refine ⟨⟨Numbered.nil, OneLive.nil⟩, ?_, ?_, ?_⟩ <;> simp [initial]

/-- Where no change is cancelled whose segment is scheduled, the segments tile the service after
every run. -/
theorem segments_tile (now : Int) (order : Order) (lease : Option LeaseStatus) (evs : List Event)
    (h : Runs.Along step CancelsUnscheduled (initial now order lease) evs) :
    Tiles (history now order lease evs).effectiveSegments :=
  (tiled_history (fun _ _ hgood => hgood) h).tiles

theorem segments_tile_extended :
    Tiles (history 0 leasedOrder (some .active) extendedOnce).effectiveSegments :=
  segments_tile 0 leasedOrder (some .active) extendedOnce (by decide +kernel)

/-- A scheduled extension is taken over and cancelled, and a second one is archived behind it. -/
def cancelledScheduled : List Event :=
  .prepareExtension 1 .currentVersion none :: extend 0 0 ++
    [.manualTakeover 0 5 "stop", .cancel 0 6 "stop", .prepareExtension 1 .currentVersion none] ++
    extend 1 1

theorem cancelled_segments_do_not_tile :
    ¬Tiles (history 0 leasedOrder (some .active) cancelledScheduled).effectiveSegments := by
  intro h
  have hsecond : ((history 0 leasedOrder (some .active) cancelledScheduled).effectiveSegments[1]?).any
      (·.status == .scheduled) = true := by decide +kernel
  obtain ⟨g, hg, hscheduled⟩ := (Option.any_eq_true _ _).1 hsecond
  have hlast := h.scheduled 1 g hg (eq_of_beq hscheduled)
  revert hlast
  decide +kernel

end SubscriptionSaas.Change
