import SubscriptionSaas.Billing.Proofs.CalendarProofs
import SubscriptionSaas.Renewal.Enrollment

/-!
# Which segments get their expiry job

The job of the expiry is there exactly when the consideration of the segment is (`Sound`), and a
segment in time is enrolled exactly when its enrolment job is handled while the conditions hold
(`round_spec`). A job that was completed without effect stays completed, since the scan enqueues it
under the key that it has already.
-/

namespace SubscriptionSaas.Renewal

open Calendar Billing Contract

variable {s s' : State} {i k : Id} {e : Int} {key : JobKey} {g : Segment}

/-! ## Jobs -/

namespace State

theorem job_enqueue (job : Job) : (s.enqueue job).job key =
    (s.job key).or (if job.key = key then some job else none) := by
  unfold enqueue
  split
  · rename_i hthere
    by_cases hkey : job.key = key
    · obtain ⟨there, hthere⟩ := Option.isSome_iff_exists.1 hthere
      rw [← hkey, hthere]
      rfl
    · simp [hkey]
  · simp only [State.job, List.find?_append, List.find?_singleton, beq_iff_eq]

/-- Enqueueing keeps what is there. -/
theorem job_enqueue_ne {job : Job} (hkey : job.key ≠ key) : (s.enqueue job).job key = s.job key := by
  rw [job_enqueue, if_neg hkey, Option.or_none]

theorem job_setJob {f : Job → Job} (hf : ∀ job, (f job).key = job.key) (key' : JobKey) :
    (s.setJob key' f).job key = if key = key' then (s.job key).map f else s.job key := by
  have hkept (job : Job) : ((if job.key == key' then f job else job).key == key) = (job.key == key) := by
    split
    · rw [hf]
    · rfl
  simp only [setJob, State.job, List.find?_map, Function.comp_def, hkept]
  cases hfind : s.jobs.find? fun job => job.key == key with
  | none => simp
  | some job =>
    have hjob : job.key = key := by simpa using List.find?_some hfind
    by_cases hkey : key = key'
    · simp [hjob, hkey]
    · simp [hjob, hkey]

end State

/-! ## What an operation leaves alone -/

/-- Everything but the considerations, the reminders and the jobs is the same. -/
structure Kept (s s' : State) : Prop where
  now : s'.now = s.now
  extensionEnabled : s'.extensionEnabled = s.extensionEnabled
  orders : s'.orders = s.orders
  segments : s'.segments = s.segments

theorem Kept.refl (s : State) : Kept s s := ⟨rfl, rfl, rfl, rfl⟩

theorem Kept.trans {s'' : State} (h : Kept s s') (h' : Kept s' s'') : Kept s s'' where
  now := h'.now.trans h.now
  extensionEnabled := h'.extensionEnabled.trans h.extensionEnabled
  orders := h'.orders.trans h.orders
  segments := h'.segments.trans h.segments

theorem Kept.enqueue (s : State) (job : Job) : Kept s (s.enqueue job) := by
  unfold State.enqueue
  split
  · exact .refl s
  · exact ⟨rfl, rfl, rfl, rfl⟩

theorem Kept.setJob (s : State) (key : JobKey) (f : Job → Job) : Kept s (s.setJob key f) :=
  ⟨rfl, rfl, rfl, rfl⟩

theorem Kept.enrollable (h : Kept s s') : s'.enrollable i = s.enrollable i := by
  simp only [State.enrollable, State.latest, h.extensionEnabled, h.orders, h.segments]

@[simp] theorem considerationOf_enqueue (job : Job) :
    (s.enqueue job).considerationOf k = s.considerationOf k := by
  unfold State.enqueue
  split <;> rfl

@[simp] theorem considerationOf_setJob (f : Job → Job) :
    (s.setJob key f).considerationOf k = s.considerationOf k := rfl

/-- The reminders and their jobs are nobody else's concern. -/
structure Reminding (s s' : State) : Prop extends Kept s s' where
  considerations : s'.considerations = s.considerations
  jobs {key : JobKey} : (∀ considerationId slot, key ≠ .reminder considerationId slot) →
    s'.job key = s.job key

theorem Reminding.trans {s'' : State} (h : Reminding s s') (h' : Reminding s' s'') :
    Reminding s s'' where
  toKept := h.toKept.trans h'.toKept
  considerations := h'.considerations.trans h.considerations
  jobs hkey := (h'.jobs hkey).trans (h.jobs hkey)

theorem enrollReminder_reminding (considerationId : Id) (slot : ReminderSlot × Nat) :
    Reminding s (enrollReminder i g considerationId s slot) := by
  have hjob (s : State) (job : Job) (hjob : job.key = .reminder considerationId slot.1) :
      Reminding s (s.enqueue job) := by
    refine ⟨.enqueue s job, ?_, fun hkey => State.job_enqueue_ne fun heq => ?_⟩
    · unfold State.enqueue
      split <;> rfl
    · exact hkey _ _ (heq.symm.trans hjob)
  have hrow (s : State) (rows : List Reminder) : Reminding s { s with reminders := rows } :=
    ⟨⟨rfl, rfl, rfl, rfl⟩, rfl, fun _ => rfl⟩
  have hrefl (s : State) : Reminding s s := hrow s s.reminders
  unfold enrollReminder
  extract_lets schedule originalScheduledAt skippedLate created existing reminder s₁
  have hs₁ : Reminding s s₁ := by
    by_cases hthere : existing.isSome
    · rw [show s₁ = s from if_pos hthere]
      exact hrefl s
    · rw [show s₁ = { s with reminders := s.reminders ++ [created] } from if_neg hthere]
      exact hrow s _
  split
  · exact hs₁.trans (hjob s₁ _ rfl)
  · exact hs₁

theorem foldl_enrollReminder (considerationId : Id) (slots : List (ReminderSlot × Nat)) :
    Reminding s (slots.foldl (enrollReminder i g considerationId) s) := by
  induction slots generalizing s with
  | nil => exact ⟨.refl s, rfl, fun _ => rfl⟩
  | cons slot slots ih => exact (enrollReminder_reminding considerationId slot).trans ih

/-! ## The enrolment -/

/-- In time for its enrolment. -/
def State.inTime (s : State) (i : Id) : Prop :=
  ∃ g, s.segments[i]? = some g ∧ s.now < (renewalSchedule g.endDate).completionDeadlineAt

theorem Kept.inTime (h : Kept s s') : s'.inTime i ↔ s.inTime i := by
  simp only [State.inTime, h.segments, h.now]

theorem considerationOf_upsert :
    ((upsertConsideration s i g).1.considerationOf k).isSome ↔
      (s.considerationOf k).isSome ∨ k = i := by
  unfold upsertConsideration
  split
  · rename_i id hthere
    refine ⟨.inl, ?_⟩
    rintro (hk | rfl)
    · exact hk
    · rw [hthere]
      rfl
  · simp only [State.considerationOf, List.findIdx?_isSome, List.any_append, List.any_cons,
      List.any_nil, Bool.or_false, Bool.or_eq_true, beq_iff_eq]
    rw [eq_comm (a := i)]

theorem upsertConsideration_kept : Kept s (upsertConsideration s i g).1 := by
  unfold upsertConsideration
  split
  · exact .refl s
  · exact ⟨rfl, rfl, rfl, rfl⟩

theorem upsertConsideration_jobs : (upsertConsideration s i g).1.jobs = s.jobs := by
  unfold upsertConsideration
  split <;> rfl

/-- What becomes of a state when the segment is enrolled. -/
structure Enrolled (i : Id) (e : Int) (s s' : State) : Prop extends Kept s s' where
  considerations (k : Id) : (s'.considerationOf k).isSome ↔ (s.considerationOf k).isSome ∨ k = i
  enrollments (k : Id) : s'.job (.enroll k) = s.job (.enroll k)
  expiries (k : Id) (e' : Int) : (s'.job (.expiry k e')).isSome ↔
    (s.job (.expiry k e')).isSome ∨ k = i ∧ e' = e

theorem enroll_enrolled : Enrolled i g.endDate s (enroll s i g) := by
  have hkept := @upsertConsideration_kept s i g
  have hjobs := @upsertConsideration_jobs s i g
  have hconsiderations := fun k => @considerationOf_upsert s i k g
  unfold enroll
  generalize upsertConsideration s i g = upserted at hkept hjobs hconsiderations ⊢
  obtain ⟨s₁, considerationId⟩ := upserted
  have hreminding : Reminding s₁
      (reminderSlots.zipIdx.foldl (enrollReminder i g considerationId) s₁) :=
    foldl_enrollReminder considerationId _
  dsimp only
  generalize reminderSlots.zipIdx.foldl (enrollReminder i g considerationId) s₁ = s₂ at hreminding
  generalize hexpiry : newJob (.expiry i g.endDate) _ _ _ _ = expiry
  generalize hoverdue : newJob (.returnOverdue g.orderId g.endDate) _ _ _ _ = overdue
  have hjob (key : JobKey) (hkey : ∀ considerationId slot, key ≠ .reminder considerationId slot) :
      s₂.job key = s.job key := by
    rw [hreminding.jobs hkey, State.job, hjobs]
    rfl
  have hoverdue' (key : JobKey) (hkey : ∀ orderId e, key ≠ .returnOverdue orderId e) :
      ((s₂.enqueue expiry).enqueue overdue).job key = (s₂.enqueue expiry).job key :=
    State.job_enqueue_ne fun h => by
      rw [← hoverdue] at h
      exact hkey _ _ h.symm
  refine ⟨((hkept.trans hreminding.toKept).trans (.enqueue s₂ expiry)).trans (.enqueue _ overdue),
    fun k => ?_, fun k => ?_, fun k e => ?_⟩
  · rw [considerationOf_enqueue, considerationOf_enqueue, ← hconsiderations k]
    simp only [State.considerationOf, hreminding.considerations]
  · rw [hoverdue' _ (by simp), State.job_enqueue_ne (by rw [← hexpiry]; nofun),
      hjob _ (by simp)]
  · rw [hoverdue' _ (by simp), State.job_enqueue, hjob _ (by simp), ← hexpiry]
    by_cases hke : JobKey.expiry i g.endDate = .expiry k e
    · have hke' : k = i ∧ e = g.endDate := by
        injection hke with hi he
        exact ⟨hi.symm, he.symm⟩
      simp [newJob, hke']
    · have hke' : ¬(k = i ∧ e = g.endDate) := by
        rintro ⟨rfl, rfl⟩
        exact hke rfl
      simp [newJob, hke, hke']

theorem enrollable_iff : s.enrollable i = true ↔ s.extensionEnabled = true ∧
    ∃ g, s.segments[i]? = some g ∧ (g.status = .active ∧
      (s.orders[g.orderId]?).map (·.orderStatus) = some .active ∧
      (s.orders[g.orderId]?).bind (·.vehicle) = some .leased) ∧ s.latest g.orderId = some i := by
  unfold State.enrollable
  rw [Bool.and_eq_true]
  refine and_congr Iff.rfl ?_
  rcases s.segments[i]? with _ | g
  · simp
  · rcases ho : s.orders[g.orderId]? with _ | o
    · simp [ho]
    · simp [ho, and_assoc]

/-- The enrolment of a segment, by whether the conditions hold. -/
theorem enrollSegment_cases (s : State) (i : Id) :
    (∃ g, s.segments[i]? = some g ∧ (s.enrollable i = true ∧ s.inTime i) ∧
      enrollSegment s i = enroll s i g) ∨
    (¬(s.enrollable i = true ∧ s.inTime i) ∧ enrollSegment s i = s) := by
  unfold enrollSegment
  rw [enrollable_iff]
  by_cases hflag : s.extensionEnabled
  · rcases hg : s.segments[i]? with _ | g
    · simp [hflag, State.inTime, hg]
    · by_cases hchecks : g.status = .active ∧
          (s.orders[g.orderId]?).map (·.orderStatus) = some .active ∧
          (s.orders[g.orderId]?).bind (·.vehicle) = some .leased
      · by_cases hlatest : s.latest g.orderId = some i
        · by_cases htime : (renewalSchedule g.endDate).completionDeadlineAt ≤ s.now
          · simp [hflag, State.inTime, hg, hchecks, hlatest, htime]
          · have hnot : ¬(g.status ≠ .active ∨
                (s.orders[g.orderId]?).map (·.orderStatus) ≠ some .active ∨
                (s.orders[g.orderId]?).bind (·.vehicle) ≠ some .leased) := by tauto
            refine .inl ⟨g, rfl, ⟨⟨hflag, g, rfl, hchecks, hlatest⟩, g, hg, Int.not_le.1 htime⟩, ?_⟩
            rw [hflag, Bool.not_true, if_neg Bool.false_ne_true]
            dsimp only
            rw [if_neg hnot, if_neg (not_not_intro hlatest), if_neg htime]
        · simp [hflag, hchecks, hlatest]
      · have hnot : g.status ≠ .active ∨
            (s.orders[g.orderId]?).map (·.orderStatus) ≠ some .active ∨
            (s.orders[g.orderId]?).bind (·.vehicle) ≠ some .leased := by tauto
        refine .inr ⟨?_, ?_⟩
        · rintro ⟨⟨-, g', hg', hchecks', -⟩, -⟩
          cases hg'
          exact hchecks hchecks'
        · rw [hflag, Bool.not_true, if_neg Bool.false_ne_true]
          exact if_pos hnot
  · simp [hflag]

/-! ## The job of the expiry -/

/-- A consideration is that of a segment, and there with the job of its expiry. -/
structure Sound (s : State) : Prop where
  placed (k : Id) : (s.considerationOf k).isSome → (s.segments[k]?).isSome
  expiring (k : Id) (e : Int) : (s.job (.expiry k e)).isSome ↔
    (s.considerationOf k).isSome ∧ (s.segments[k]?).map (·.endDate) = some e

theorem Sound.congr (h : Sound s) (hsegments : ∀ k : Id,
      (s'.segments[k]?).map (·.endDate) = (s.segments[k]?).map (·.endDate))
    (hconsiderations : ∀ k, (s'.considerationOf k).isSome = (s.considerationOf k).isSome)
    (hexpiries : ∀ k e, (s'.job (.expiry k e)).isSome = (s.job (.expiry k e)).isSome) : Sound s' := by
  constructor
  · intro k hk
    have hplaced := h.placed k (by rwa [← hconsiderations])
    rwa [← Option.isSome_map (f := (·.endDate)), hsegments, Option.isSome_map]
  · intro k e
    rw [hexpiries, hconsiderations, hsegments]
    exact h.expiring k e

theorem Sound.enrolled (h : Sound s) (hg : s.segments[i]? = some g)
    (henrolled : Enrolled i g.endDate s s') : Sound s' := by
  constructor
  · intro k hk
    rw [henrolled.segments]
    rcases (henrolled.considerations k).1 hk with hk | rfl
    · exact h.placed k hk
    · rw [hg]
      rfl
  · intro k e
    rw [henrolled.expiries, henrolled.considerations, henrolled.segments, h.expiring]
    constructor
    · rintro (⟨hk, he⟩ | ⟨rfl, rfl⟩)
      · exact ⟨.inl hk, he⟩
      · exact ⟨.inr rfl, by rw [hg]; rfl⟩
    · rintro ⟨hk | rfl, he⟩
      · exact .inl ⟨hk, he⟩
      · rw [hg] at he
        cases he
        exact .inr ⟨rfl, rfl⟩

theorem Sound.enrollSegment (h : Sound s) : Sound (enrollSegment s i) := by
  rcases enrollSegment_cases s i with ⟨g, hg, -, heq⟩ | ⟨-, heq⟩
  · rw [heq]
    exact h.enrolled hg enroll_enrolled
  · rwa [heq]

theorem Sound.setJob (h : Sound s) {f : Job → Job} (hf : ∀ job, (f job).key = job.key) :
    Sound (s.setJob key f) := by
  refine h.congr (fun k => rfl) (fun k => rfl) fun k e => ?_
  rw [State.job_setJob hf]
  split
  · exact Option.isSome_map
  · rfl

theorem Sound.handleClaimedJob (h : Sound s) (outcome : Outcome) :
    Sound (handleClaimedJob s key outcome) := by
  have hhandled : Sound (handle s key) := by
    cases key with
    | enroll i => exact h.enrollSegment
    | reminder => exact h
    | expiry => exact h
    | returnOverdue => exact h
  unfold Renewal.handleClaimedJob
  split
  · cases outcome with
    | completed => exact hhandled.setJob fun _ => rfl
    | leaseLost => exact hhandled.setJob fun _ => rfl
    | failed => exact h.setJob fun _ => rfl
  · exact h

/-! ## The scan -/

/-- The enrolment jobs of the segments, as the scan leaves them. -/
structure Scanned (chosen : List Id) (s s' : State) : Prop extends Kept s s' where
  considerations (k : Id) : s'.considerationOf k = s.considerationOf k
  expiries (k : Id) (e : Int) : s'.job (.expiry k e) = s.job (.expiry k e)
  enqueued (k : Id) : (s'.job (.enroll k)).isSome ↔ (s.job (.enroll k)).isSome ∨ k ∈ chosen
  opened (k : Id) : (s'.job (.enroll k)).any jobOpen ↔
    (s.job (.enroll k)).any jobOpen ∨ k ∈ chosen ∧ s.job (.enroll k) = none

theorem enqueue_scanned (i : Id) (availableAt : Int) (orderId : Id) :
    Scanned [i] s (s.enqueue (newJob (.enroll i) availableAt orderId i none)) := by
  refine ⟨.enqueue s _, fun k => considerationOf_enqueue _,
    fun k e => State.job_enqueue_ne (by simp [newJob]), fun k => ?_, fun k => ?_⟩
  · rw [State.job_enqueue]
    by_cases hk : k = i
    · simp [newJob, hk]
    · simp [newJob, hk, Ne.symm hk]
  · rw [State.job_enqueue]
    by_cases hk : k = i
    · rcases hjob : s.job (.enroll k) with _ | job
      · simp [newJob, hk, jobOpen]
      · simp
    · simp [newJob, hk, Ne.symm hk]

theorem Scanned.cons {s'' : State} {chosen : List Id} (h : Scanned [i] s s')
    (h' : Scanned chosen s' s'') : Scanned (i :: chosen) s s'' := by
  refine ⟨h.toKept.trans h'.toKept, fun k => (h'.considerations k).trans (h.considerations k),
    fun k e => (h'.expiries k e).trans (h.expiries k e), fun k => ?_, fun k => ?_⟩
  · rw [h'.enqueued, h.enqueued, List.mem_singleton, List.mem_cons, or_assoc]
  · have hnone : s'.job (.enroll k) = none ↔ s.job (.enroll k) = none ∧ k ≠ i := by
      rw [← Option.not_isSome_iff_eq_none, h.enqueued, List.mem_singleton,
        ← Option.not_isSome_iff_eq_none, not_or]
    rw [h'.opened, h.opened, hnone, List.mem_singleton, List.mem_cons]
    tauto

theorem enqueueDueEnrollmentJobs_scanned (s : State) (chosen : List Id) :
    Scanned chosen s (enqueueDueEnrollmentJobs s chosen) := by
  unfold enqueueDueEnrollmentJobs
  induction chosen generalizing s with
  | nil => exact ⟨.refl s, fun _ => rfl, fun _ _ => rfl, by simp, by simp⟩
  | cons i chosen ih => exact (enqueue_scanned i _ _).cons (ih _)

theorem Sound.step (h : Sound s) (ev : Event) : Sound (step s ev) := by
  cases ev with
  | tick elapsed => exact h.congr (fun _ => rfl) (fun _ => rfl) fun _ _ => rfl
  | feature enabled => exact h.congr (fun _ => rfl) (fun _ => rfl) fun _ _ => rfl
  | addOrder order => exact h.congr (fun _ => rfl) (fun _ => rfl) fun _ _ => rfl
  | setOrder orderId order => exact h.congr (fun _ => rfl) (fun _ => rfl) fun _ _ => rfl
  | addSegment segment =>
    have hold (k : Id) (hk : (s.considerationOf k).isSome) :
        (s.segments ++ [segment])[k]? = s.segments[k]? :=
      List.getElem?_append_left (by simpa using h.placed k hk)
    constructor
    · intro k hk
      exact (congrArg _ (hold k hk)).trans (h.placed k hk)
    · intro k e
      refine (h.expiring k e).trans (and_congr_right fun hk => ?_)
      rw [show (Renewal.step s (.addSegment segment)).segments[k]? = _ from hold k hk]
  | setSegment segmentId status =>
    refine h.congr (fun k => ?_) (fun _ => rfl) fun _ _ => rfl
    simp only [Renewal.step, List.getElem?_modify]
    rcases s.segments[k]? with _ | g
    · rfl
    · by_cases hk : segmentId = k
      · simp [hk]
      · simp [hk]
  | scan segments =>
    simp only [Renewal.step]
    split
    · have hscanned := enqueueDueEnrollmentJobs_scanned s segments
      refine h.congr (fun k => ?_) (fun k => ?_) fun k e => ?_
      · rw [hscanned.segments]
      · rw [hscanned.considerations]
      · rw [hscanned.expiries]
    · exact h
  | handleClaimedJob key outcome => exact h.handleClaimedJob outcome
  | retryDeadLetter key =>
    refine h.setJob fun job => ?_
    split <;> rfl

theorem history_sound (now : Int) (evs : List Event) : Sound (history now evs) :=
  Runs.runs_always Sound (fun _ ev h => h.step ev)
    ⟨fun _ h => by simp [initial, State.considerationOf] at h, by
      simp [initial, State.considerationOf, State.job]⟩ evs

/-! ## A scan, and then the jobs -/

/-- The enrolment jobs of some segments are handled, if they are open. -/
structure Ran (handled : List Id) (s s' : State) : Prop extends Kept s s' where
  considerations (k : Id) : (s'.considerationOf k).isSome ↔ (s.considerationOf k).isSome ∨
    k ∈ handled ∧ (s.job (.enroll k)).any jobOpen ∧ s.enrollable k = true ∧ s.inTime k
  enqueued (k : Id) : (s'.job (.enroll k)).isSome = (s.job (.enroll k)).isSome
  opened (k : Id) : (s'.job (.enroll k)).any jobOpen ↔
    (s.job (.enroll k)).any jobOpen ∧ k ∉ handled

theorem job_complete : (s.setJob (.enroll i) complete).job (.enroll k) =
    if k = i then (s.job (.enroll k)).map complete else s.job (.enroll k) := by
  rw [State.job_setJob (f := complete) fun _ => rfl]
  simp only [JobKey.enroll.injEq]

theorem isSome_complete : ((s.setJob (.enroll i) complete).job (.enroll k)).isSome =
    (s.job (.enroll k)).isSome := by
  rw [job_complete]
  split
  · exact Option.isSome_map
  · rfl

theorem jobOpen_complete : ((s.setJob (.enroll i) complete).job (.enroll k)).any jobOpen ↔
    (s.job (.enroll k)).any jobOpen ∧ k ∉ [i] := by
  rw [job_complete]
  by_cases hk : k = i
  · rcases s.job (.enroll k) with _ | job
    · simp [hk]
    · simp [hk, jobOpen, complete]
  · simp [hk]

theorem handleClaimedJob_ran (s : State) (i : Id) :
    Ran [i] s (step s (.handleClaimedJob (.enroll i) .completed)) := by
  by_cases hopen : (s.job (.enroll i)).any jobOpen
  · have hstep : step s (.handleClaimedJob (.enroll i) .completed) =
        (enrollSegment s i).setJob (.enroll i) complete := if_pos hopen
    rw [hstep]
    rcases enrollSegment_cases s i with ⟨g, hg, hadmitted, heq⟩ | ⟨hrefused, heq⟩
    · have henrolled := @enroll_enrolled s i g
      rw [heq]
      refine ⟨henrolled.toKept.trans (.setJob _ _ _), fun k => ?_, fun k => ?_, fun k => ?_⟩
      · rw [considerationOf_setJob, henrolled.considerations]
        refine or_congr_right ⟨?_, fun h => List.mem_singleton.1 h.1⟩
        rintro rfl
        exact ⟨List.mem_singleton_self k, hopen, hadmitted⟩
      · rw [isSome_complete, henrolled.enrollments]
      · rw [jobOpen_complete, henrolled.enrollments]
    · rw [heq]
      refine ⟨.setJob _ _ _, fun k => ?_, fun k => isSome_complete, fun k => jobOpen_complete⟩
      rw [considerationOf_setJob]
      refine ⟨.inl, ?_⟩
      rintro (hk | ⟨hk, -, hadmitted⟩)
      · exact hk
      · rw [List.mem_singleton.1 hk] at hadmitted
        exact absurd hadmitted hrefused
  · have hstep : step s (.handleClaimedJob (.enroll i) .completed) = s := if_neg hopen
    rw [hstep]
    refine ⟨.refl s, fun k => ⟨.inl, ?_⟩, fun _ => rfl, fun k => ⟨fun hk => ⟨hk, ?_⟩, And.left⟩⟩
    · rintro (hk | ⟨hk, hk', -⟩)
      · exact hk
      · rw [List.mem_singleton.1 hk] at hk'
        exact absurd hk' hopen
    · intro hmem
      rw [List.mem_singleton.1 hmem] at hk
      exact hopen hk

theorem Ran.cons {s'' : State} {handled : List Id} (h : Ran [i] s s') (h' : Ran handled s' s'') :
    Ran (i :: handled) s s'' := by
  refine ⟨h.toKept.trans h'.toKept, fun k => ?_,
    fun k => (h'.enqueued k).trans (h.enqueued k), fun k => ?_⟩
  · rw [h'.considerations, h.considerations, h.opened, h.enrollable, h.inTime, List.mem_singleton,
      List.mem_cons]
    tauto
  · rw [h'.opened, h.opened, List.mem_singleton, List.mem_cons]
    tauto

theorem runEnrollments_ran (s : State) : Ran s.openEnrollments s (runEnrollments s) := by
  unfold runEnrollments
  induction s.openEnrollments generalizing s with
  | nil => exact ⟨.refl s, by simp, fun _ => rfl, by simp⟩
  | cons i handled ih => exact (handleClaimedJob_ran s i).cons (ih _)

/-- A round enrols the segments whose conditions hold and whose job is open, or enqueued now. -/
structure Round (chosen : List Id) (s s' : State) : Prop extends Kept s s' where
  considerations (k : Id) : (s'.considerationOf k).isSome ↔ (s.considerationOf k).isSome ∨
    (s.enrollable k = true ∧ s.inTime k) ∧ ((s.job (.enroll k)).any jobOpen ∨
      k ∈ chosen ∧ s.job (.enroll k) = none)
  enqueued (k : Id) : (s'.job (.enroll k)).isSome ↔ (s.job (.enroll k)).isSome ∨
    s.extensionEnabled = true ∧ k ∈ chosen
  opened (k : Id) : k < s.segments.length → ¬(s'.job (.enroll k)).any jobOpen

theorem inTime_lt (h : s.inTime i) : i < s.segments.length := by
  obtain ⟨g, hg, -⟩ := h
  exact (List.getElem?_eq_some_iff.1 hg).1

theorem mem_openEnrollments : i ∈ s.openEnrollments ↔
    i < s.segments.length ∧ (s.job (.enroll i)).any jobOpen := by
  simp only [State.openEnrollments, List.mem_filter, List.mem_range]

theorem round_spec {chosen : List Id} (h : Batches.Picks batchSize s.due chosen) :
    Round chosen s (round s chosen) := by
  by_cases hflag : s.extensionEnabled = true
  · have hscanned := enqueueDueEnrollmentJobs_scanned s chosen
    have hstep : step s (.scan chosen) = enqueueDueEnrollmentJobs s chosen := if_pos ⟨hflag, h⟩
    have hran := runEnrollments_ran (step s (.scan chosen))
    rw [hstep] at hran
    unfold round
    rw [hstep]
    refine ⟨hscanned.toKept.trans hran.toKept, fun k => ?_, fun k => ?_, fun k hk hopen => ?_⟩
    · rw [hran.considerations, hscanned.considerations, mem_openEnrollments, hscanned.opened,
        hscanned.enrollable, hscanned.inTime, hscanned.segments]
      refine or_congr_right ⟨?_, ?_⟩
      · rintro ⟨-, hopen, hadmitted⟩
        exact ⟨hadmitted, hopen⟩
      · rintro ⟨hadmitted, hopen⟩
        exact ⟨⟨inTime_lt hadmitted.2, hopen⟩, hopen, hadmitted⟩
    · rw [hran.enqueued, hscanned.enqueued]
      simp [hflag]
    · obtain ⟨hopen, hnot⟩ := (hran.opened k).1 hopen
      exact hnot (mem_openEnrollments.2 ⟨by rwa [hscanned.segments], hopen⟩)
  · have hstep : step s (.scan chosen) = s := if_neg fun hboth => hflag hboth.1
    have hnot (k : Id) : ¬s.enrollable k = true := fun hk => hflag (enrollable_iff.1 hk).1
    have hran := runEnrollments_ran s
    unfold round
    rw [hstep]
    refine ⟨hran.toKept, fun k => ?_, fun k => ?_, fun k hk hopen => ?_⟩
    · rw [hran.considerations]
      have := hnot k
      tauto
    · rw [hran.enqueued]
      simp [hflag]
    · obtain ⟨hopen, hunhandled⟩ := (hran.opened k).1 hopen
      exact hunhandled (mem_openEnrollments.2 ⟨hk, hopen⟩)

/-! ## Round after round -/

/-- What the query asks of the segment itself. -/
def State.inWindow (s : State) (i : Id) : Prop :=
  ∃ g, s.segments[i]? = some g ∧ g.status = .active ∧ toBillingBusinessDate s.now ≤ g.endDate ∧
    g.endDate ≤ addUtcDays (toBillingBusinessDate s.now) 30

theorem Kept.inWindow (h : Kept s s') : s'.inWindow i ↔ s.inWindow i := by
  simp only [State.inWindow, h.segments, h.now]

theorem mem_due : i ∈ s.due ↔ s.inWindow i ∧ (s.considerationOf i).isSome = false := by
  unfold State.due State.isDue State.inWindow
  rw [List.mem_filter, List.mem_range]
  rcases hg : s.segments[i]? with _ | g
  · simp
  · have hlt := (List.getElem?_eq_some_iff.1 hg).1
    simp only [hlt, true_and, Option.any_some, Bool.and_eq_true, decide_eq_true_eq, beq_iff_eq,
      Option.isNone_iff_eq_none, Option.some.injEq, exists_eq_left', Option.isSome_eq_false_iff]
    tauto

/-- The last business date of the query is the day before the deadline. -/
theorem businessDate_le_iff (now e : Int) : toBillingBusinessDate now ≤ e ↔
    now < (renewalSchedule e).completionDeadlineAt := by
  rw [toBillingBusinessDate_eq]
  simp only [renewalSchedule, atShanghaiHour, addUtcDays, dayOf, instantOf]
  omega

theorem State.inWindow.inTime (h : s.inWindow i) : s.inTime i := by
  obtain ⟨g, hg, -, hdate, -⟩ := h
  exact ⟨g, hg, (businessDate_le_iff _ _).1 hdate⟩

theorem ready_iff : s.ready i = true ↔ s.enrollable i = true ∧
    ((s.job (.enroll i)).any jobOpen ∨ s.job (.enroll i) = none) := by
  unfold State.ready
  rw [Bool.and_eq_true]
  rcases s.job (.enroll i) with _ | job <;> simp

/-- A round takes from the backlog what is ready and picked. -/
theorem serving : Batches.Serving State.due (fun s i => s.ready i = true) round batchSize where
  nodup s := List.nodup_range.filter _
  old s chosen k hpicks hk := by
    have hround := round_spec hpicks
    obtain ⟨hwindow, hnone⟩ := mem_due.1 hk
    refine mem_due.2 ⟨hround.inWindow.1 hwindow, ?_⟩
    rw [← Bool.not_eq_true] at hnone ⊢
    exact fun hsome => hnone ((hround.considerations k).2 (.inl hsome))
  serves s chosen k hpicks hk hready hdue := by
    have hround := round_spec hpicks
    obtain ⟨hwindow, hnone⟩ := mem_due.1 hdue
    obtain ⟨hcan, hjob⟩ := ready_iff.1 hready
    have htime := (hround.inWindow.1 hwindow).inTime
    have hsome := (hround.considerations k).2
      (.inr ⟨⟨hcan, htime⟩, hjob.imp_right fun hjob => ⟨hk, hjob⟩⟩)
    rw [hnone] at hsome
    exact Bool.false_ne_true hsome
  stuck s chosen k hpicks hk hready := by
    have hround := round_spec hpicks
    obtain ⟨hwindow, hnone⟩ := mem_due.1 hk
    have hlt := inTime_lt hwindow.inTime
    rw [ready_iff] at hready
    refine ⟨mem_due.2 ⟨hround.inWindow.2 hwindow, ?_⟩, ?_⟩
    · rw [← Bool.not_eq_true] at hnone ⊢
      rw [hround.considerations]
      tauto
    · rw [ready_iff, hround.enrollable]
      rintro ⟨hcan, hopen | hjob⟩
      · exact hround.opened k hlt hopen
      · -- the job, once enqueued, does not disappear
        have hjob' : ¬(s.job (.enroll k)).isSome := fun hsome => by
          have hsome' := (hround.enqueued k).2 (.inl hsome)
          rw [hjob] at hsome'
          exact Bool.false_ne_true hsome'
        exact hready ⟨hcan, .inr (Option.not_isSome_iff_eq_none.1 hjob')⟩
  waits s chosen k hpicks hdue hready := by
    have hround := round_spec hpicks
    obtain ⟨hwindow, hnone⟩ := mem_due.1 hdue
    obtain ⟨hcan, hjob⟩ := ready_iff.1 hready
    have htime := (hround.inWindow.1 hwindow).inTime
    have hunserved : ¬((s.job (.enroll k)).any jobOpen ∨
        k ∈ chosen ∧ s.job (.enroll k) = none) := fun hserved => by
      have hsome := (hround.considerations k).2 (.inr ⟨⟨hcan, htime⟩, hserved⟩)
      rw [hnone] at hsome
      exact Bool.false_ne_true hsome
    have hjob : s.job (.enroll k) = none := hjob.resolve_left fun hopen => hunserved (.inl hopen)
    refine ready_iff.2 ⟨hround.enrollable.trans hcan, .inr (Option.not_isSome_iff_eq_none.1 ?_)⟩
    rw [hround.enqueued, hjob]
    rintro (hsome | ⟨-, hchosen⟩)
    · exact Bool.false_ne_true hsome
    · exact hunserved (.inr ⟨hchosen, hjob⟩)

theorem stuckOf_eq (s : State) :
    Batches.stuckOf State.due (fun s i => s.ready i = true) s = s.stuck := by
  unfold Batches.stuckOf State.stuck
  refine List.filter_congr fun i _ => ?_
  cases h : s.ready i <;> simp [h]

/-! ## Who gets the job of the expiry -/

section Rounds

open Batches

variable {choices : Nat → List Id}

theorem round_sound (h : Sound s) (chosen : List Id) : Sound (round s chosen) :=
  List.foldlRecOn (motive := Sound) _ _ (h.step (.scan chosen)) fun _ ht _ _ => ht.step _

theorem rounds_kept (hchoices : Chosen State.due round batchSize s choices) (n : Nat) :
    Kept s (rounds round s choices n) := by
  induction n with
  | zero => exact .refl s
  | succ n ih =>
    rw [rounds_succ]
    exact ih.trans (round_spec (hchoices n)).toKept

theorem rounds_sound (h : Sound s) (n : Nat) : Sound (rounds round s choices n) := by
  induction n with
  | zero => exact h
  | succ n ih =>
    rw [rounds_succ]
    exact round_sound ih _

theorem Sound.expiry_iff (h : Sound s) (hg : s.segments[i]? = some g) :
    (s.job (.expiry i g.endDate)).isSome ↔ (s.considerationOf i).isSome := by
  rw [h.expiring, hg]
  exact and_iff_left rfl

/-- What is not enrolled, and is late or has an enrolment job that is done with, remains so. -/
theorem rounds_lost (hchoices : Chosen State.due round batchSize s choices)
    (hlt : i < s.segments.length) (hnone : ¬(s.considerationOf i).isSome)
    (hlost : ¬s.inTime i ∨ (s.job (.enroll i)).isSome ∧ ¬(s.job (.enroll i)).any jobOpen) (n : Nat) :
    ¬((rounds round s choices n).considerationOf i).isSome ∧
      (¬(rounds round s choices n).inTime i ∨ ((rounds round s choices n).job (.enroll i)).isSome ∧
        ¬((rounds round s choices n).job (.enroll i)).any jobOpen) := by
  induction n with
  | zero => exact ⟨hnone, hlost⟩
  | succ n ih =>
    obtain ⟨hnone, hlost⟩ := ih
    have hround := round_spec (hchoices n)
    have hlt' : i < (rounds round s choices n).segments.length := by
      rwa [(rounds_kept hchoices n).segments]
    rw [rounds_succ]
    generalize rounds round s choices n = t at hround hnone hlost hlt'
    refine ⟨fun hsome => ?_, hlost.imp (fun hlate => by rwa [hround.inTime]) fun hdone => ?_⟩
    · rcases (hround.considerations i).1 hsome with hsome | ⟨⟨-, htime⟩, hopen | ⟨-, hjob⟩⟩
      · exact hnone hsome
      · exact hlost.elim (fun hlate => hlate htime) fun hdone => hdone.2 hopen
      · refine hlost.elim (fun hlate => hlate htime) fun hdone => ?_
        rw [hjob] at hdone
        exact Bool.false_ne_true hdone.1
    · exact ⟨(hround.enqueued i).2 (.inl hdone.1), hround.opened i hlt'⟩

theorem rounds_expiry_iff (h : Sound s) (hchoices : Chosen State.due round batchSize s choices)
    (hg : s.segments[i]? = some g) (n : Nat) :
    ((rounds round s choices n).job (.expiry i g.endDate)).isSome ↔
      ((rounds round s choices n).considerationOf i).isSome :=
  (rounds_sound h n).expiry_iff (by rwa [(rounds_kept hchoices n).segments])

/-- Neither a late segment nor one whose enrolment job is done with gets its job in any round. -/
theorem never_expiry (h : Sound s) (hchoices : Chosen State.due round batchSize s choices)
    (hg : s.segments[i]? = some g) (hnone : ¬(s.job (.expiry i g.endDate)).isSome)
    (hlost : ¬s.inTime i ∨ (s.job (.enroll i)).isSome ∧ ¬(s.job (.enroll i)).any jobOpen) (n : Nat) :
    ¬((rounds round s choices n).job (.expiry i g.endDate)).isSome := by
  rw [h.expiry_iff hg] at hnone
  rw [rounds_expiry_iff h hchoices hg]
  exact (rounds_lost hchoices (List.getElem?_eq_some_iff.1 hg).1 hnone hlost n).1

/-- While the stuck are picked, no other segment is enqueued. -/
theorem rounds_starved (hchoices : Chosen State.due round batchSize s choices)
    (hstuck : ∀ n, choices n ⊆ s.stuck) (hready : s.ready i = true)
    (hjob : s.job (.enroll i) = none) (hnone : ¬(s.considerationOf i).isSome) (n : Nat) :
    (rounds round s choices n).job (.enroll i) = none ∧
      ¬((rounds round s choices n).considerationOf i).isSome := by
  have hnot (n : Nat) : i ∉ choices n := fun hi => by
    have hi := (List.mem_filter.1 (hstuck n hi)).2
    rw [hready] at hi
    exact Bool.false_ne_true hi
  induction n with
  | zero => exact ⟨hjob, hnone⟩
  | succ n ih =>
    obtain ⟨hjob, hnone⟩ := ih
    have hround := round_spec (hchoices n)
    rw [rounds_succ]
    generalize rounds round s choices n = t at hround hjob hnone
    refine ⟨Option.not_isSome_iff_eq_none.1 fun hsome => ?_, fun hsome => ?_⟩
    · rcases (hround.enqueued i).1 hsome with hsome | ⟨-, hi⟩
      · rw [hjob] at hsome
        exact Bool.false_ne_true hsome
      · exact hnot n hi
    · rcases (hround.considerations i).1 hsome with hsome | ⟨-, hopen | ⟨hi, -⟩⟩
      · exact hnone hsome
      · rw [hjob] at hopen
        exact Bool.false_ne_true hopen
      · exact hnot n hi

/-- A leased vehicle whose segment ends in ten days. -/
def enrollableEvents : List Event :=
  [.addOrder ⟨.active, some .leased⟩, .addSegment ⟨0, 1, .active, 10⟩, .feature true]

/-- The vehicle is in maintenance while the enrolment job runs, and is then leased again. -/
def skippedEvents : List Event :=
  [.addOrder ⟨.active, some .maintenance⟩, .addSegment ⟨0, 1, .active, 10⟩, .feature true,
    .scan [0], .handleClaimedJob (.enroll 0) .completed, .setOrder 0 ⟨.active, some .leased⟩]

end Rounds

end SubscriptionSaas.Renewal
