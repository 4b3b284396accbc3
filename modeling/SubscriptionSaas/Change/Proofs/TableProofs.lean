import SubscriptionSaas.Change.Proofs.MoveProofs

/-!
# The tables of every order

What holds of the segments and the change orders after every run, whoever cancels or takes over: the
segments are numbered from one, each begins on the day after the one before it ends, at most one is
active, only the first is of type BASE, and at most one change order is live (`sound_history`).
-/

namespace SubscriptionSaas.Change

open Calendar Billing Contract Results Tables

variable {Good : State → Event → Prop} {s s' : State}

/-! ## Segments -/

/-- The segments of an order; `i` is the place of a segment among them. -/
structure Numbered (segs : List Segment) : Prop where
  number (i : Nat) (g : Segment) : segs[i]? = some g → g.id = i ∧ g.sequenceNo = i + 1
  base (i : Nat) (g : Segment) : segs[i]? = some g → (g.segmentType = .base ↔ i = 0)
  dates (i : Nat) (g : Segment) : segs[i]? = some g → g.startDate ≤ g.endDate
  next (i : Nat) (g g' : Segment) : segs[i]? = some g → segs[i + 1]? = some g' →
    g'.startDate = g.endDate + 1
  origin (i j : Nat) (g g' : Segment) (cid : Id) : segs[i]? = some g → segs[j]? = some g' →
    g.sourceChangeOrderId = some cid → g'.sourceChangeOrderId = some cid → i = j
  active (i j : Nat) (g g' : Segment) : segs[i]? = some g → segs[j]? = some g' →
    g.status = .active → g'.status = .active → i = j
  kept (i : Nat) (g : Segment) : segs[i]? = some g → g.status ≠ .cancelled
  source (i : Nat) (g : Segment) (k : Id) : segs[i]? = some g → g.sourceSegmentId = some k → i = k + 1

theorem Numbered.nil : Numbered [] := by constructor <;> simp

/-- The columns of a segment that no operation changes. -/
structure Segment.Fixed (g g' : Segment) : Prop where
  id : g'.id = g.id
  sequenceNo : g'.sequenceNo = g.sequenceNo
  segmentType : g'.segmentType = g.segmentType
  startDate : g'.startDate = g.startDate
  origin : g'.sourceChangeOrderId = g.sourceChangeOrderId
  source : g'.sourceSegmentId = g.sourceSegmentId

/-- A row of the modified segments is the same segment, but for its status and its last day. -/
theorem fixed_of_modify {segs : List Segment} {k i : Nat} {f : Segment → Segment} {g' : Segment}
    (hfixed : ∀ g : Segment, g.Fixed (f g)) (h : (segs.modify k f)[i]? = some g') :
    ∃ g, segs[i]? = some g ∧ g.Fixed g' := by
  rcases get_modify h with ⟨-, hg⟩ | ⟨rfl, g, hg, rfl⟩
  · exact ⟨g', hg, rfl, rfl, rfl, rfl, rfl, rfl⟩
  · exact ⟨g, hg, hfixed g⟩

/-- One segment is moved to another status, and the last one may be cut. -/
theorem Numbered.modify {segs : List Segment} {k : Nat} {f : Segment → Segment} (h : Numbered segs)
    (hfixed : ∀ g : Segment, g.Fixed (f g))
    (hend : ∀ g, segs[k]? = some g → (f g).endDate = g.endDate ∨
      (k + 1 = segs.length ∧ g.startDate ≤ (f g).endDate))
    (hactive : ∀ g, segs[k]? = some g → (f g).status = .active →
      g.status = .active ∨ ∀ g ∈ segs, g.status ≠ .active)
    (hkept : ∀ g, segs[k]? = some g → (f g).status ≠ .cancelled) : Numbered (segs.modify k f) where
  number i g' hi := by
    obtain ⟨g, hg, hsame⟩ := fixed_of_modify hfixed hi
    rw [hsame.id, hsame.sequenceNo]
    exact h.number i g hg
  base i g' hi := by
    obtain ⟨g, hg, hsame⟩ := fixed_of_modify hfixed hi
    rw [hsame.segmentType]
    exact h.base i g hg
  dates i g' hi := by
    rcases get_modify hi with ⟨-, hg⟩ | ⟨rfl, g, hg, rfl⟩
    · exact h.dates i g' hg
    · rw [(hfixed g).startDate]
      rcases hend g hg with heq | ⟨-, hle⟩
      · rw [heq]
        exact h.dates i g hg
      · exact hle
  next i g₁ g₂ hi hnext := by
    obtain ⟨g₂', hg₂, hsame⟩ := fixed_of_modify hfixed hnext
    rw [hsame.startDate]
    rcases get_modify hi with ⟨-, hg⟩ | ⟨rfl, g, hg, rfl⟩
    · exact h.next i g₁ g₂' hg hg₂
    · rcases hend g hg with heq | ⟨hlast, -⟩
      · rw [heq]
        exact h.next i g g₂' hg hg₂
      · have hlt := get_lt hg₂
        omega
  origin i j g₁ g₂ cid hi hj h₁ h₂ := by
    obtain ⟨g₁', hg₁, hsame₁⟩ := fixed_of_modify hfixed hi
    obtain ⟨g₂', hg₂, hsame₂⟩ := fixed_of_modify hfixed hj
    exact h.origin i j g₁' g₂' cid hg₁ hg₂ (hsame₁.origin ▸ h₁) (hsame₂.origin ▸ h₂)
  active i j g₁ g₂ hi hj h₁ h₂ := by
    rcases get_modify hi with ⟨hik, hg₁⟩ | ⟨rfl, g, hg, rfl⟩ <;>
      rcases get_modify hj with ⟨hjk, hg₂⟩ | ⟨rfl, g', hg', rfl⟩
    · exact h.active i j g₁ g₂ hg₁ hg₂ h₁ h₂
    · rcases hactive g' hg' h₂ with hwas | hnone
      · exact h.active i j g₁ g' hg₁ hg' h₁ hwas
      · exact absurd h₁ (hnone g₁ (List.mem_of_getElem? hg₁))
    · rcases hactive g hg h₁ with hwas | hnone
      · exact h.active i j g g₂ hg hg₂ hwas h₂
      · exact absurd h₂ (hnone g₂ (List.mem_of_getElem? hg₂))
    · rfl
  kept i g' hi := by
    rcases get_modify hi with ⟨-, hg⟩ | ⟨rfl, g, hg, rfl⟩
    · exact h.kept i g' hg
    · exact hkept g hg
  source i g' k hi hsource := by
    obtain ⟨g, hg, hsame⟩ := fixed_of_modify hfixed hi
    exact h.source i g k hg (hsame.source ▸ hsource)

/-- A segment is appended. -/
theorem Numbered.append {segs : List Segment} {g : Segment} (h : Numbered segs)
    (hid : g.id = segs.length) (hnumber : g.sequenceNo = segs.length + 1)
    (hbase : g.segmentType = .base ↔ segs.length = 0) (hdates : g.startDate ≤ g.endDate)
    (hnext : ∀ i g', segs[i]? = some g' → i + 1 = segs.length → g.startDate = g'.endDate + 1)
    (horigin : ∀ g' ∈ segs, g.sourceChangeOrderId ≠ none →
      g'.sourceChangeOrderId ≠ g.sourceChangeOrderId)
    (hactive : g.status = .active → ∀ g' ∈ segs, g'.status ≠ .active)
    (hkept : g.status ≠ .cancelled) (hsource : ∀ k, g.sourceSegmentId = some k → k + 1 = segs.length) :
    Numbered (segs ++ [g]) where
  number i g' hi := by
    rcases get_append hi with hg | ⟨rfl, rfl⟩
    · exact h.number i g' hg
    · exact ⟨hid, hnumber⟩
  base i g' hi := by
    rcases get_append hi with hg | ⟨rfl, rfl⟩
    · exact h.base i g' hg
    · exact hbase
  dates i g' hi := by
    rcases get_append hi with hg | ⟨rfl, rfl⟩
    · exact h.dates i g' hg
    · exact hdates
  next i g₁ g₂ hi hj := by
    rcases get_append hj with hg₂ | ⟨hlen, rfl⟩
    · rcases get_append hi with hg₁ | ⟨rfl, -⟩
      · exact h.next i g₁ g₂ hg₁ hg₂
      · have hlt := get_lt hg₂
        omega
    · rcases get_append hi with hg₁ | ⟨rfl, -⟩
      · exact hnext i g₁ hg₁ hlen
      · omega
  origin i j g₁ g₂ cid hi hj h₁ h₂ := by
    rcases get_append hi with hg₁ | ⟨rfl, rfl⟩ <;> rcases get_append hj with hg₂ | ⟨rfl, rfl⟩
    · exact h.origin i j g₁ g₂ cid hg₁ hg₂ h₁ h₂
    · refine absurd (h₁.trans h₂.symm) (horigin g₁ (List.mem_of_getElem? hg₁) ?_)
      rw [h₂]
      exact Option.some_ne_none cid
    · refine absurd (h₂.trans h₁.symm) (horigin g₂ (List.mem_of_getElem? hg₂) ?_)
      rw [h₁]
      exact Option.some_ne_none cid
    · rfl
  active i j g₁ g₂ hi hj h₁ h₂ := by
    rcases get_append hi with hg₁ | ⟨rfl, rfl⟩ <;> rcases get_append hj with hg₂ | ⟨rfl, rfl⟩
    · exact h.active i j g₁ g₂ hg₁ hg₂ h₁ h₂
    · exact absurd h₁ (hactive h₂ g₁ (List.mem_of_getElem? hg₁))
    · exact absurd h₂ (hactive h₁ g₂ (List.mem_of_getElem? hg₂))
    · rfl
  kept i g' hi := by
    rcases get_append hi with hg | ⟨rfl, rfl⟩
    · exact h.kept i g' hg
    · exact hkept
  source i g' k hi hsource' := by
    rcases get_append hi with hg | ⟨rfl, rfl⟩
    · exact h.source i g' k hg hsource'
    · exact (hsource k hsource').symm

/-- The first segment is of type BASE. -/
theorem Numbered.eq_nil {segs : List Segment} (h : Numbered segs)
    (hnone : ∀ g ∈ segs, g.segmentType ≠ .base) : segs = [] := by
  by_contra hne
  obtain ⟨g, hg⟩ : ∃ g, segs[0]? = some g :=
    ⟨_, List.getElem?_eq_getElem (List.length_pos_of_ne_nil hne)⟩
  exact hnone g (List.mem_of_getElem? hg) ((h.base 0 g hg).2 rfl)

/-- Where the number after a segment is free, the segment is the last one. -/
theorem Numbered.last {segs : List Segment} {k : Nat} {g : Segment} (h : Numbered segs)
    (hg : segs[k]? = some g) {n : Int} (hn : n = g.sequenceNo + 1)
    (hfree : ∀ g' ∈ segs, g'.sequenceNo ≠ n) : k + 1 = segs.length := by
  have hlt := get_lt hg
  by_contra hne
  have hnext : segs[k + 1]? = some segs[k + 1] := List.getElem?_eq_getElem (by omega)
  refine hfree _ (List.mem_of_getElem? hnext) ?_
  have hnumber := (h.number _ _ hnext).2
  have hnumber' := (h.number _ _ hg).2
  push_cast at hnumber
  omega

theorem fixed_completed (g : Segment) : g.Fixed g.completed := ⟨rfl, rfl, rfl, rfl, rfl, rfl⟩

theorem fixed_activated (now : Int) (g : Segment) : g.Fixed (g.activated now) :=
  ⟨rfl, rfl, rfl, rfl, rfl, rfl⟩

theorem fixed_endedOn (date : Int) (g : Segment) : g.Fixed (g.endedOn date) :=
  ⟨rfl, rfl, rfl, rfl, rfl, rfl⟩

theorem completeActive_status (g : Segment) :
    (completeActive g).status ≠ .active ∧ ((completeActive g).status = .scheduled ↔
      g.status = .scheduled) := by
  unfold completeActive
  split
  · rename_i hactive
    rw [hactive]
    exact ⟨SegmentStatus.noConfusion, by simp [Segment.completed]⟩
  · rename_i hactive
    exact ⟨hactive, Iff.rfl⟩

theorem completeActive_completed {g : Segment} (h : g.status = .completed) :
    (completeActive g).status = .completed := by
  unfold completeActive
  split
  · rfl
  · exact h

theorem fixed_completeActive (g : Segment) : g.Fixed (completeActive g) := by
  unfold completeActive
  split <;> exact ⟨rfl, rfl, rfl, rfl, rfl, rfl⟩

/-! ## Change orders -/

/-- The change orders of an order. -/
structure OneLive (changes : List ChangeOrder) : Prop where
  id (i : Nat) (c : ChangeOrder) : changes[i]? = some c → c.id = i
  live (i j : Nat) (c c' : ChangeOrder) : changes[i]? = some c → changes[j]? = some c' →
    c.status.live = true → c'.status.live = true → i = j
  source (i : Nat) (c : ChangeOrder) (t : Id × Int × Int) : changes[i]? = some c →
    c.term = some t → c.sourceSegmentId = none ∨ c.sourceSegmentId = some t.1

theorem OneLive.nil : OneLive [] := by constructor <;> simp

/-- A row of the modified change orders has kept what no command changes. -/
theorem kept_of_modify {changes : List ChangeOrder} {k i : Nat} {f : ChangeOrder → ChangeOrder}
    {c' : ChangeOrder} (hkept : ∀ c, changes[k]? = some c → c.Kept (f c))
    (h : (changes.modify k f)[i]? = some c') : ∃ c, changes[i]? = some c ∧ c.Kept c' := by
  rcases get_modify h with ⟨-, hc⟩ | ⟨rfl, c, hc, rfl⟩
  · exact ⟨c', hc, .of_eq rfl rfl rfl rfl⟩
  · exact ⟨c, hc, hkept c hc⟩

theorem OneLive.modify {changes : List ChangeOrder} {k : Nat} {f : ChangeOrder → ChangeOrder}
    (h : OneLive changes) (hkept : ∀ c, changes[k]? = some c → c.Kept (f c))
    (hlive : ∀ c, changes[k]? = some c → (f c).status.live = true → c.status.live = true ∨
      ∀ c ∈ changes, c.status.live = false) : OneLive (changes.modify k f) where
  id i c' hi := by
    obtain ⟨c, hc, hsame⟩ := kept_of_modify hkept hi
    rw [hsame.id]
    exact h.id i c hc
  live i j c₁ c₂ hi hj h₁ h₂ := by
    rcases get_modify hi with ⟨-, hc₁⟩ | ⟨rfl, c, hc, rfl⟩ <;>
      rcases get_modify hj with ⟨-, hc₂⟩ | ⟨rfl, c', hc', rfl⟩
    · exact h.live i j c₁ c₂ hc₁ hc₂ h₁ h₂
    · rcases hlive c' hc' h₂ with hwas | hnone
      · exact h.live i j c₁ c' hc₁ hc' h₁ hwas
      · exact absurd h₁ (Bool.eq_false_iff.1 (hnone c₁ (List.mem_of_getElem? hc₁)))
    · rcases hlive c hc h₁ with hwas | hnone
      · exact h.live i j c c₂ hc hc₂ hwas h₂
      · exact absurd h₂ (Bool.eq_false_iff.1 (hnone c₂ (List.mem_of_getElem? hc₂)))
    · rfl
  source i c' t hi hterm := by
    obtain ⟨c, hc, hsame⟩ := kept_of_modify hkept hi
    rw [hsame.term] at hterm
    rcases hsame.source with heq | hset
    · rw [heq]
      exact h.source i c t hc hterm
    · exact .inr (hset t hterm)

theorem OneLive.append {changes : List ChangeOrder} {c : ChangeOrder} (h : OneLive changes)
    (hid : c.id = changes.length) (hnone : ∀ c ∈ changes, c.status.live = false)
    (hsource : c.sourceSegmentId = none) : OneLive (changes ++ [c]) where
  id i c' hi := by
    rcases get_append hi with hc | ⟨rfl, rfl⟩
    · exact h.id i c' hc
    · exact hid
  live i j c₁ c₂ hi hj h₁ h₂ := by
    rcases get_append hi with hc₁ | ⟨rfl, rfl⟩ <;> rcases get_append hj with hc₂ | ⟨rfl, rfl⟩
    · exact h.live i j c₁ c₂ hc₁ hc₂ h₁ h₂
    · exact absurd h₁ (Bool.eq_false_iff.1 (hnone c₁ (List.mem_of_getElem? hc₁)))
    · exact absurd h₂ (Bool.eq_false_iff.1 (hnone c₂ (List.mem_of_getElem? hc₂)))
    · rfl
  source i c' t hi hterm := by
    rcases get_append hi with hc | ⟨rfl, rfl⟩
    · exact h.source i c' t hc hterm
    · exact .inl hsource

/-- The status after a command is not a live one out of nothing. -/
theorem Turn.live {id : Id} {c c' : ChangeOrder} (h : Turn Good s id c c')
    (hlive : c'.status.live = true) : c.status.live = true ∨ s.NoLive := by
  cases h with
  | same hstatus _ => exact .inl (hstatus ▸ hlive)
  | advance hearly _ =>
    refine .inl ?_
    revert hearly
    cases c.status <;> decide
  | reject _ hstatus' =>
    rw [hstatus'] at hlive
    cases hlive
  | cancel _ _ _ hstatus' =>
    rw [hstatus'] at hlive
    cases hlive
  | takeover _ _ _ hwas _ _ _ => exact hwas
  | complete _ hstatus' =>
    rw [hstatus'] at hlive
    cases hlive
  | swap _ hwas => exact .inl (hwas.resolve_right (Bool.not_eq_false _ ▸ hlive))

/-- A change that was not live is taken over before its deadline only. -/
theorem Turn.live_or_before {id : Id} {c c' : ChangeOrder} (h : Turn Good s id c c')
    (hlive : c'.status.live = true) :
    c.status.live = true ∨ s.now < c.completionDeadlineAt := by
  cases h with
  | takeover _ _ _ _ hdeadline _ _ => exact .inr hdeadline
  | same hstatus _ => exact .inl (hstatus ▸ hlive)
  | advance hearly _ =>
    refine .inl ?_
    revert hearly
    cases c.status <;> decide
  | reject _ hstatus' | cancel _ _ _ hstatus' | complete _ hstatus' =>
    rw [hstatus'] at hlive
    cases hlive
  | swap _ hwas => exact .inl (hwas.resolve_right (Bool.not_eq_false _ ▸ hlive))

theorem kept_failChange (c : ChangeOrder) : c.Kept (failChange c) := by
  unfold failChange
  split <;> exact .of_eq rfl rfl rfl rfl

theorem failChange_live (c : ChangeOrder) : (failChange c).status.live = false := by
  unfold failChange
  split
  · rfl
  · exact eq_false_of_ne_true ‹_›

/-! ## Every run -/

structure Sound (s : State) : Prop where
  segments : Numbered s.segments
  changes : OneLive s.changes

theorem enqueue_order (s : State) (jobType : JobType) (i cid : Id) :
    (s.enqueue jobType i cid).order = s.order := by
  unfold State.enqueue
  split <;> rfl

theorem enqueue_takeovers (s : State) (jobType : JobType) (i cid : Id) :
    (s.enqueue jobType i cid).takeovers = s.takeovers := by
  unfold State.enqueue
  split <;> rfl

theorem enqueue_considerations (s : State) (jobType : JobType) (i cid : Id) :
    (s.enqueue jobType i cid).considerations = s.considerations := by
  unfold State.enqueue
  split <;> rfl

theorem enqueue_now (s : State) (jobType : JobType) (i cid : Id) :
    (s.enqueue jobType i cid).now = s.now := by
  unfold State.enqueue
  split <;> rfl

theorem enqueue_expired (s : State) (jobType : JobType) (i cid : Id) :
    (s.enqueue jobType i cid).expired = s.expired := by
  unfold State.enqueue
  split <;> rfl

theorem enqueue_prepared (s : State) (jobType : JobType) (i cid : Id) :
    (s.enqueue jobType i cid).prepared = s.prepared := by
  unfold State.enqueue
  split <;> rfl

theorem enqueue_changes (s : State) (jobType : JobType) (i cid : Id) :
    (s.enqueue jobType i cid).changes = s.changes := by
  unfold State.enqueue
  split <;> rfl

theorem mem_enqueue {jobType : JobType} {i cid : Id} {job : Job}
    (h : job ∈ (s.enqueue jobType i cid).jobs) : job ∈ s.jobs ∨
      (job.jobType = jobType ∧ job.contractSegmentId = i ∧ job.changeOrderId = cid) := by
  unfold State.enqueue at h
  split at h
  · exact .inl h
  · rcases List.mem_append.1 h with h | h
    · exact .inl h
    · obtain rfl := List.mem_singleton.1 h
      exact .inr ⟨rfl, rfl, rfl⟩

/-- What a move keeps of the segments and the changes. -/
theorem Sound.move (h : Sound s) (hmove : Move Good s s') : Sound s' := by
  cases hmove with
  | tick | vehicle | prepare | enroll | consideration | job | deadLetter => exact ⟨h.segments, h.changes⟩
  | base source hsource hnone hdates hnumber hactive =>
    have hempty := h.segments.eq_nil hnone
    rw [hempty]
    refine ⟨Numbered.nil.append rfl rfl ⟨fun _ => rfl, fun _ => rfl⟩ hdates ?_ ?_ ?_ ?_ ?_,
      h.changes⟩
    · simp
    · simp
    · simp
    · exact SegmentStatus.noConfusion
    · simp [baseSegment]
  | turn id c f hc hkept hturn =>
    refine ⟨h.segments, h.changes.modify (fun c' hc' => ?_) fun c' hc' hlive => ?_⟩
    · obtain rfl := Option.some.inj (hc.symm.trans hc')
      exact hkept
    · obtain rfl := Option.some.inj (hc.symm.trans hc')
      exact hturn.live hlive
  | opens c hid hstatus hsource hlive hopens =>
    exact ⟨h.segments, h.changes.append hid hlive hsource⟩
  | schedule cid k c source segment f hfound hkept hstatus' =>
    have hlast := h.segments.last hfound.found hfound.next.2 hfound.number
    have hnumber := (h.segments.number k source hfound.found).2
    obtain ⟨hid, hstatus, htype⟩ := hfound.fresh
    refine ⟨?_, ?_⟩
    · show Numbered ((State.enqueue _ _ _ _).segments)
      rw [segments_enqueue]
      refine h.segments.append hid ?_ ?_ hfound.dates (fun i g' hg' hi => ?_)
        (fun g' hg' _ => hfound.single g' hg') (fun hactive => ?_) ?_ fun k' hk' => ?_
      · rw [hfound.next.2]
        omega
      · rw [htype]
        simp only [reduceCtorEq, false_iff]
        omega
      · obtain rfl : i = k := by omega
        obtain rfl := Option.some.inj (hfound.found.symm.trans hg')
        exact hfound.next.1
      · rw [hstatus] at hactive
        cases hactive
      · rw [hstatus]
        exact SegmentStatus.noConfusion
      · rw [hfound.origin.1, Option.some.injEq] at hk'
        rw [← hk']
        exact hlast
    · show OneLive ((State.enqueue _ _ _ _).changes.modify cid f)
      rw [enqueue_changes]
      refine h.changes.modify (fun c' hc' => ?_) fun c' hc' hlive => .inl ?_
      · obtain rfl := Option.some.inj (hfound.change.symm.trans hc')
        exact hkept
      · obtain rfl := Option.some.inj (hfound.change.symm.trans hc')
        rw [hfound.status]
        rfl
  | activate i cid k g source c f hfound hkept hstatus' =>
    refine ⟨?_, h.changes.modify (fun c' hc' => ?_) fun c' hc' hlive => .inl ?_⟩
    · have hcompleted := h.segments.modify (k := k) fixed_completed (fun _ _ => .inl rfl)
        (fun _ _ hactive => SegmentStatus.noConfusion hactive) fun _ _ => SegmentStatus.noConfusion
      exact hcompleted.modify (fixed_activated s.now) (fun _ _ => .inl rfl)
        (fun _ _ _ => .inr hfound.alone) fun _ _ => SegmentStatus.noConfusion
    · obtain rfl := Option.some.inj (hfound.change.symm.trans hc')
      exact hkept
    · obtain rfl := Option.some.inj (hfound.change.symm.trans hc')
      rw [hfound.scheduled]
      rfl
  | enqueue jobType i cid htype hactive =>
    refine ⟨?_, ?_⟩
    · rw [segments_enqueue]
      exact h.segments
    · rw [enqueue_changes]
      exact h.changes
  | mark jobId job f hjob hmark hkept hturn =>
    refine ⟨h.segments, h.changes.modify (fun c' _ => hkept c') fun c' _ hlive => .inl ?_⟩
    rcases hturn c' with ⟨hstatus, -⟩ | ⟨hstatus, -⟩
    · exact hstatus ▸ hlive
    · rcases hstatus with hstatus | hstatus <;> rw [hstatus] <;> rfl
  | retry id jobId c job f hc hjob hstatus hdead htarget hkept hstatus' =>
    refine ⟨h.segments, h.changes.modify (fun c' hc' => ?_) fun c' hc' hlive => ?_⟩
    · obtain rfl := Option.some.inj (hc.symm.trans hc')
      exact hkept
    · obtain rfl := Option.some.inj (hc.symm.trans hc')
      exact .inl (by rw [hstatus]; rfl)
  | expire _ i g closure hg hgood hdue hnext hactive hsegments hchanges hjobs =>
    refine ⟨?_, ?_⟩
    · rw [hsegments]
      refine h.segments.modify fixed_completeActive (fun g _ => .inl ?_)
        (fun g _ hg' => absurd hg' (completeActive_status g).1) fun g hg => ?_
      · unfold completeActive
        split <;> rfl
      · unfold completeActive
        split
        · exact SegmentStatus.noConfusion
        · exact h.segments.kept i g hg
    · rw [hchanges]
      split
      · refine h.changes.modify (fun c _ => kept_failChange c) fun c _ hlive => ?_
        rw [failChange_live] at hlive
        cases hlive
      · exact h.changes
  | swap cid k c source segment endDate f hc hterm hexecuting hsource hactive hsegment hcovers
      hnumber hsingle halone hkept hstatus' =>
    obtain ⟨hid, hstatus, htype, hseq, hstart, hend, -, hsourceNone⟩ := hsegment
    have hlast := h.segments.last hsource hseq hnumber
    obtain ⟨hk, hsourceSeq⟩ := h.segments.number k source hsource
    refine ⟨?_, h.changes.modify (fun c' hc' => ?_) fun c' hc' hlive => ?_⟩
    · rw [hk]
      rw [hk] at halone
      have hcut := h.segments.modify (k := k) (fixed_endedOn endDate)
        (fun g hg => .inr ⟨hlast, ?_⟩)
        (fun _ _ hactive => SegmentStatus.noConfusion hactive) fun _ _ => SegmentStatus.noConfusion
      · refine hcut.append ?_ ?_ ?_ ?_ (fun i g' hg' hi => ?_) (fun g' hg' _ => ?_)
          (fun _ => halone) ?_ fun k' hk' => ?_
        · rw [List.length_modify]
          exact hid
        · rw [List.length_modify]
          omega
        · rw [List.length_modify, htype]
          simp only [reduceCtorEq, false_iff]
          omega
        · omega
        · rw [List.length_modify] at hi
          obtain rfl : i = k := by omega
          rw [get_modify_self hsource] at hg'
          obtain rfl := Option.some.inj hg'
          exact hstart
        · obtain ⟨n, hn⟩ := List.mem_iff_getElem?.1 hg'
          obtain ⟨g, hg, hsame⟩ := fixed_of_modify (fixed_endedOn endDate) hn
          rw [hsame.origin]
          exact hsingle g (List.mem_of_getElem? hg)
        · rw [hstatus]
          exact SegmentStatus.noConfusion
        · rw [hsourceNone] at hk'
          cases hk'
      · obtain rfl := Option.some.inj (hsource.symm.trans hg)
        exact hcovers.1
    · obtain rfl := Option.some.inj (hc.symm.trans hc')
      exact hkept
    · obtain rfl := Option.some.inj (hc.symm.trans hc')
      rw [hstatus'] at hlive
      cases hlive

end SubscriptionSaas.Change
