import SubscriptionSaas.Change.Proofs.TilingProofs

/-!
# What a retry needs

Where a change with a scheduled segment is in manual takeover because its activation job ran out of
attempts, and not because somebody took it over, a retry of the job makes it scheduled again
(`Retryable.retry`).
-/

namespace SubscriptionSaas.Change

open Calendar Billing Contract Results Tables

variable {Good : State → Event → Prop} {s s' : State}

/-- The change of the scheduled segment `i` has failed by its activation job, and is marked so. -/
structure State.Failed (s : State) (i : Nat) (cid : Id) (c : ChangeOrder) (jobId : Id) (job : Job) :
    Prop where
  code : c.failureCode = some jobFailed
  found : s.jobs[jobId]? = some job
  jobType : job.jobType = .extensionSegmentActivate
  segment : job.contractSegmentId = i
  change : job.changeOrderId = cid
  dead : job.jobStatus = .deadLetter
  lastError : job.lastErrorCode = some jobFailed
  marked : jobId ∉ s.takeovers

/-- The idempotency key of a job. -/
def Job.key (job : Job) : JobType × Id := (job.jobType, job.contractSegmentId)

def Keyed (s : State) : Prop := (s.jobs.map Job.key).Nodup

structure Retryable (s : State) : Prop where
  tiled : Tiled s
  keyed : Keyed s
  marked (jobId : Id) : jobId ∈ s.takeovers → ∃ job, s.jobs[jobId]? = some job ∧
    ∀ g, s.segments[job.contractSegmentId]? = some g → g.status = .scheduled →
      job.jobStatus = .deadLetter ∧ job.lastErrorCode = some jobFailed ∧
        s.takeovers.count jobId ≤ 1
  failed (i : Nat) (g : Segment) (cid : Id) (c : ChangeOrder) : s.segments[i]? = some g →
    g.status = .scheduled → g.sourceChangeOrderId = some cid → s.changes[cid]? = some c →
    c.status = .manualTakeover → ∃ jobId job, s.Failed i cid c jobId job

/-- A takeover or a cancellation is made only while the change has no scheduled segment. -/
def LeavesScheduled (s : State) : Event → Prop
  | .cancel id _ _ | .manualTakeover id _ _ =>
    ∀ g ∈ s.segments, g.sourceChangeOrderId = some id → g.status ≠ .scheduled
  | _ => True

/-- A command does not put the change of a scheduled segment in takeover. -/
theorem Turn.failed {id : Id} {i : Nat} {c c' : ChangeOrder} {g : Segment}
    (hturn : Turn Good s id c c') (hgood : ∀ e, Good s e → LeavesScheduled s e)
    (hi : s.segments[i]? = some g) (hscheduled : g.status = .scheduled)
    (horigin : g.sourceChangeOrderId = some id) (hawaits : s.Awaits i id c)
    (hstatus : c'.status = .manualTakeover) :
    c.status = .manualTakeover ∧ c'.failureCode = c.failureCode := by
  cases hturn with
  | same hsame hcode => exact ⟨hsame ▸ hstatus, hcode⟩
  | advance _ hearly' =>
    rw [hstatus] at hearly'
    cases hearly'
  | reject _ hcancelled | cancel _ _ _ hcancelled | complete _ hcancelled =>
    rw [hstatus] at hcancelled
    cases hcancelled
  | takeover version reason htakeover _ _ _ _ =>
    exact absurd hscheduled (hgood _ htakeover g (List.mem_of_getElem? hi) horigin)
  | swap hswap _ =>
    obtain ⟨t, ht, -⟩ := hawaits.term
    rw [hswap] at ht
    cases ht

/-- Jobs are changed while they are open only. -/
def DeadKept (jobs jobs' : List Job) : Prop :=
  ∀ (jobId : Nat) (job : Job), jobs[jobId]? = some job → ∃ job', jobs'[jobId]? = some job' ∧
    job.Kept job' ∧ (job.jobStatus = .deadLetter → job' = job)

theorem DeadKept.rfl {jobs : List Job} : DeadKept jobs jobs := fun _ job hjob =>
  ⟨job, hjob, ⟨Eq.refl _, Eq.refl _, Eq.refl _⟩, fun _ => Eq.refl _⟩

theorem DeadKept.append {jobs : List Job} {job : Job} : DeadKept jobs (jobs ++ [job]) :=
  fun _ job' hjob => ⟨job', get_append_old hjob, ⟨Eq.refl _, Eq.refl _, Eq.refl _⟩,
    fun _ => Eq.refl _⟩

theorem DeadKept.enqueue (s : State) (jobType : JobType) (i cid : Id) :
    DeadKept s.jobs (s.enqueue jobType i cid).jobs := by
  unfold State.enqueue
  split
  · exact .rfl
  · exact .append

theorem not_open_of_dead {job : Job} (h : job.jobStatus = .deadLetter) : jobOpen job = false := by
  rw [jobOpen, h]
  rfl

theorem DeadKept.modify {jobs : List Job} {jobId : Id} {job : Job} {f : Job → Job}
    (hjob : jobs[jobId]? = some job) (hopen : jobOpen job) (hkept : job.Kept (f job)) :
    DeadKept jobs (jobs.modify jobId f) := by
  intro n job' hn
  rcases get_of_modify jobId f hn with hn' | ⟨rfl, hn'⟩
  · exact ⟨job', hn', ⟨Eq.refl _, Eq.refl _, Eq.refl _⟩, fun _ => Eq.refl _⟩
  · obtain rfl := Option.some.inj (hjob.symm.trans hn)
    refine ⟨f job, hn', hkept, fun hdead => ?_⟩
    rw [not_open_of_dead hdead] at hopen
    cases hopen

theorem DeadKept.cancelled (jobs : List Job) : DeadKept jobs (jobs.map cancelFutureJob) := by
  intro n job hn
  refine ⟨cancelFutureJob job, by rw [List.getElem?_map, hn]; exact Eq.refl _,
    kept_cancelFutureJob job, fun hdead => ?_⟩
  rw [cancelFutureJob, if_neg (by rw [not_open_of_dead hdead]; exact Bool.false_ne_true)]

/-- What an operation has to keep that marks no change: a scheduled segment was so, or is new and its
change is not in takeover; the changes in takeover were so with their code; dead jobs stay. -/
theorem Retryable.keep (h : Retryable s) (htiled : Tiled s') (hkeyed : Keyed s')
    (hsegment : ∀ (i : Nat) (g' : Segment), s'.segments[i]? = some g' → g'.status = .scheduled →
      (∃ g, s.segments[i]? = some g ∧ g.status = .scheduled ∧
        g'.sourceChangeOrderId = g.sourceChangeOrderId) ∨
      (i = s.segments.length ∧ ∀ cid c', g'.sourceChangeOrderId = some cid →
        s'.changes[cid]? = some c' → c'.status ≠ .manualTakeover))
    (hchange : ∀ (i : Nat) (g : Segment) (cid : Id) (c c' : ChangeOrder), s.segments[i]? = some g →
      g.status = .scheduled → g.sourceChangeOrderId = some cid → s.Awaits i cid c →
      s'.changes[cid]? = some c' → c'.status = .manualTakeover →
      c.status = .manualTakeover ∧ c'.failureCode = c.failureCode)
    (hjobs : DeadKept s.jobs s'.jobs) (htakeovers : s'.takeovers = s.takeovers) :
    Retryable s' where
  tiled := htiled
  keyed := hkeyed
  marked jobId hjobId := by
    rw [htakeovers] at hjobId ⊢
    obtain ⟨job, hjob, hdead⟩ := h.marked jobId hjobId
    obtain ⟨job', hjob', hkept, hsame⟩ := hjobs jobId job hjob
    refine ⟨job', hjob', fun g' hg' hscheduled => ?_⟩
    rw [hkept.segment] at hg'
    rcases hsegment _ g' hg' hscheduled with ⟨g, hg, hscheduled, -⟩ | ⟨hnew, -⟩
    · have hall := hdead g hg hscheduled
      rw [hsame hall.1]
      exact hall
    · obtain ⟨g, hg, -⟩ := h.tiled.jobs job (List.mem_of_getElem? hjob)
      exact absurd (get_lt hg) (by omega)
  failed i g' cid c' hg' hscheduled' horigin' hc' hstatus := by
    rcases hsegment i g' hg' hscheduled' with ⟨g, hg, hscheduled, horigin⟩ | ⟨-, hnot⟩
    · rw [horigin] at horigin'
      obtain ⟨cid₀, c, horigin₀, hawaits⟩ := h.tiled.pending i g hg hscheduled
      obtain rfl := Option.some.inj (horigin'.symm.trans horigin₀)
      obtain ⟨hstatus, hcode⟩ := hchange i g cid c c' hg hscheduled horigin' hawaits hc' hstatus
      obtain ⟨jobId, job, hall⟩ := h.failed i g cid c hg hscheduled horigin' hawaits.change hstatus
      obtain ⟨job', hjob', -, hsame⟩ := hjobs jobId job hall.found
      obtain rfl := hsame hall.dead
      refine ⟨jobId, job', hcode.trans hall.code, hjob', hall.jobType, hall.segment, hall.change,
        hall.dead, hall.lastError, ?_⟩
      rw [htakeovers]
      exact hall.marked
    · exact absurd hstatus (hnot cid c' horigin' hc')

/-- The segments are the same. -/
theorem Retryable.same_segments (hsegments : s'.segments = s.segments) (i : Nat) (g' : Segment)
    (hg' : s'.segments[i]? = some g') (hscheduled : g'.status = .scheduled) :
    (∃ g, s.segments[i]? = some g ∧ g.status = .scheduled ∧
      g'.sourceChangeOrderId = g.sourceChangeOrderId) ∨
    (i = s.segments.length ∧ ∀ cid c', g'.sourceChangeOrderId = some cid →
      s'.changes[cid]? = some c' → c'.status ≠ .manualTakeover) := by
  rw [hsegments] at hg'
  exact .inl ⟨g', hg', hscheduled, rfl⟩

theorem Keyed.enqueue (h : Keyed s) (jobType : JobType) (i cid : Id) :
    Keyed (s.enqueue jobType i cid) := by
  unfold State.enqueue
  split
  · exact h
  · rename_i hnone
    show (List.map Job.key (s.jobs ++ [_])).Nodup
    rw [List.map_append, List.map_singleton, List.nodup_append]
    refine ⟨h, List.nodup_singleton _, fun key hkey key' hkey' => ?_⟩
    rw [List.mem_singleton.1 hkey']
    rintro rfl
    obtain ⟨job, hjob, hsame⟩ := List.mem_map.1 hkey
    refine hnone (List.any_eq_true.2 ⟨job, hjob, ?_⟩)
    obtain ⟨htype, hsegment⟩ := Prod.mk.inj hsame
    rw [htype, hsegment, beq_self_eq_true, beq_self_eq_true]
    rfl

theorem map_key_modify {jobs : List Job} {jobId : Id} {f : Job → Job}
    (hkept : ∀ job, jobs[jobId]? = some job → job.Kept (f job)) :
    (jobs.modify jobId f).map Job.key = jobs.map Job.key := by
  refine List.ext_getElem? fun n => ?_
  rw [List.getElem?_map, List.getElem?_map]
  by_cases hn : n = jobId
  · subst hn
    rcases hjob : jobs[n]? with _ | job
    · simp [hjob]
    · rw [get_modify_self hjob, Option.map_some, Option.map_some, Job.key, (hkept job hjob).jobType,
        (hkept job hjob).segment]
      rfl
  · rw [get_modify_ne hn]

theorem Keyed.modify (h : Keyed s) {jobId : Id} {f : Job → Job}
    (hkept : ∀ job, s.jobs[jobId]? = some job → job.Kept (f job)) :
    ((s.jobs.modify jobId f).map Job.key).Nodup := by
  rw [map_key_modify hkept]
  exact h

theorem Keyed.move (h : Keyed s) (hmove : Move Good s s') : Keyed s' := by
  cases hmove with
  | tick | vehicle | prepare | enroll | consideration | base | turn | opens | activate | mark
  | swap => exact h
  | schedule cid k c source segment f =>
    exact Keyed.enqueue (s := { s with segments := s.segments ++ [segment] }) h _ _ _
  | enqueue jobType i cid => exact h.enqueue jobType i cid
  | job jobId job f hjob hopen hkept =>
    refine h.modify fun job' hjob' => ?_
    obtain rfl := Option.some.inj (hjob.symm.trans hjob')
    exact ⟨hkept.1, hkept.2.1, hkept.2.2⟩
  | deadLetter jobId => exact h.modify (f := Job.deadLettered) fun _ _ => ⟨rfl, rfl, rfl⟩
  | retry id jobId => exact h.modify (f := Job.reopened) fun _ _ => ⟨rfl, rfl, rfl⟩
  | expire _ i g closure hg hclosure hdue hnext hactive hsegments hchanges hjobs =>
    have hkey : Job.key ∘ cancelFutureJob = Job.key := by
      funext job
      rw [Function.comp_apply, Job.key, (kept_cancelFutureJob job).jobType,
        (kept_cancelFutureJob job).segment]
      rfl
    rw [Keyed, hjobs, List.map_map, hkey]
    exact h

/-- Two jobs with one key are the same job. -/
theorem Keyed.inj (h : Keyed s) {n m : Nat} {job job' : Job} (hn : s.jobs[n]? = some job)
    (hm : s.jobs[m]? = some job') (hkey : job.key = job'.key) : n = m := by
  refine (List.getElem?_inj ?_ h).1 ?_
  · rw [List.length_map]
    exact get_lt hn
  · rw [List.getElem?_map, List.getElem?_map, hn, hm, Option.map_some, Option.map_some, hkey]

/-- A job runs out of attempts. -/
theorem Retryable.deadLetter (h : Retryable s) {jobId : Id} {job : Job}
    (htiled : Tiled { s.setJob jobId Job.deadLettered with takeovers := s.takeovers ++ [jobId] })
    (hkeyed : Keyed { s.setJob jobId Job.deadLettered with takeovers := s.takeovers ++ [jobId] })
    (hjob : s.jobs[jobId]? = some job) (hopen : jobOpen job) :
    Retryable { s.setJob jobId Job.deadLettered with takeovers := s.takeovers ++ [jobId] } where
  tiled := htiled
  keyed := hkeyed
  marked n hn := by
    by_cases heq : n = jobId
    · subst heq
      refine ⟨job.deadLettered, get_modify_self hjob, fun g hg hscheduled => ⟨rfl, rfl, ?_⟩⟩
      have hfresh : n ∉ s.takeovers := by
        intro hmem
        obtain ⟨job', hjob', hdead⟩ := h.marked n hmem
        obtain rfl := Option.some.inj (hjob.symm.trans hjob')
        rw [not_open_of_dead (hdead g hg hscheduled).1] at hopen
        cases hopen
      rw [List.count_append, List.count_eq_zero.2 hfresh, List.count_singleton_self]
    · have hmem : n ∈ s.takeovers := (List.mem_append.1 hn).resolve_right
        fun hsingle => heq (List.mem_singleton.1 hsingle)
      obtain ⟨job', hjob', hdead⟩ := h.marked n hmem
      refine ⟨job', (get_modify_ne heq).trans hjob', fun g hg hscheduled => ?_⟩
      obtain ⟨hstatus, hcode, hcount⟩ := hdead g hg hscheduled
      refine ⟨hstatus, hcode, ?_⟩
      rw [List.count_append, List.count_eq_zero.2 fun hsingle => heq (List.mem_singleton.1 hsingle)]
      exact hcount
  failed i g cid c hg hscheduled horigin hc hstatus := by
    obtain ⟨n, job', hall⟩ := h.failed i g cid c hg hscheduled horigin hc hstatus
    have hne : n ≠ jobId := by
      rintro rfl
      obtain rfl := Option.some.inj (hjob.symm.trans hall.found)
      rw [not_open_of_dead hall.dead] at hopen
      cases hopen
    refine ⟨n, job', hall.code, (get_modify_ne hne).trans hall.found, hall.jobType, hall.segment,
      hall.change, hall.dead, hall.lastError, fun hmem => ?_⟩
    rcases List.mem_append.1 hmem with hmem | hmem
    · exact hall.marked hmem
    · exact hne (List.mem_singleton.1 hmem)

/-- The worker marks the change of a job that is out of attempts. -/
theorem Retryable.mark (h : Retryable s) {jobId : Id} {job : Job} {f : ChangeOrder → ChangeOrder}
    (htiled : Tiled { s.setChange job.changeOrderId f with takeovers := s.takeovers.erase jobId })
    (hkeyed : Keyed { s.setChange job.changeOrderId f with takeovers := s.takeovers.erase jobId })
    (hjob : s.jobs[jobId]? = some job) (hmark : jobId ∈ s.takeovers)
    (hturn : ∀ c : ChangeOrder, ((f c).status = c.status ∧ (f c).failureCode = c.failureCode) ∨
      ((c.status = .scheduled ∨ c.status = .executing) ∧ (f c).status = .manualTakeover ∧
        (f c).failureCode = some jobFailed)) :
    Retryable { s.setChange job.changeOrderId f with takeovers := s.takeovers.erase jobId } where
  tiled := htiled
  keyed := hkeyed
  marked n hn := by
    obtain ⟨job', hjob', hdead⟩ := h.marked n (List.mem_of_mem_erase hn)
    refine ⟨job', hjob', fun g hg hscheduled => ?_⟩
    obtain ⟨hstatus, hcode, hcount⟩ := hdead g hg hscheduled
    exact ⟨hstatus, hcode, (List.erase_sublist.count_le n).trans hcount⟩
  failed i g cid c' hg hscheduled horigin hc' hstatus := by
    have hleft (c : ChangeOrder) (hc : s.changes[cid]? = some c) (hstatus : c.status = .manualTakeover)
        (hcode : c'.failureCode = c.failureCode) : ∃ jobId' job', State.Failed
          { s.setChange job.changeOrderId f with takeovers := s.takeovers.erase jobId } i cid c'
          jobId' job' := by
      obtain ⟨n, job', hall⟩ := h.failed i g cid c hg hscheduled horigin hc hstatus
      exact ⟨n, job', hcode.trans hall.code, hall.found, hall.jobType, hall.segment, hall.change,
        hall.dead, hall.lastError, fun hmem => hall.marked (List.mem_of_mem_erase hmem)⟩
    rcases get_modify hc' with ⟨-, hc'⟩ | ⟨rfl, c, hc, rfl⟩
    · exact hleft c' hc' hstatus rfl
    · rcases hturn c with ⟨hsame, hcode⟩ | ⟨-, -, hcode⟩
      · exact hleft c hc (hsame ▸ hstatus) hcode
      · obtain ⟨g', hg', horigin', hbegun⟩ := h.tiled.jobs job (List.mem_of_getElem? hjob)
        have hsegment := h.tiled.sound.segments.origin _ i g' g _ hg' hg horigin' horigin
        obtain ⟨job', hjob', hdead⟩ := h.marked jobId hmark
        obtain rfl := Option.some.inj (hjob.symm.trans hjob')
        have hg₀ : s.segments[i]? = some g := hg
        rw [hsegment, hg₀] at hg'
        obtain rfl := Option.some.inj hg'
        obtain ⟨hdeadStatus, hlast, hcount⟩ := hdead g (by rw [hsegment]; exact hg) hscheduled
        refine ⟨jobId, job, hcode, hjob, ?_, hsegment, rfl, hdeadStatus, hlast, ?_⟩
        · by_contra htype
          exact hbegun htype hscheduled
        · rw [← List.count_pos_iff, List.count_erase_self]
          omega

/-- A retry reopens the job; its change is no longer in takeover. -/
theorem Retryable.retry (h : Retryable s) {id jobId : Id} {c : ChangeOrder} {job : Job}
    {f : ChangeOrder → ChangeOrder}
    (htiled : Tiled ((s.setJob jobId Job.reopened).setChange id f))
    (hkeyed : Keyed ((s.setJob jobId Job.reopened).setChange id f))
    (hc : s.changes[id]? = some c) (hjob : s.jobs[jobId]? = some job)
    (hstatus : c.status = .manualTakeover)
    (htarget : (s.targetSegment c.id).map (·.id) = some job.contractSegmentId)
    (hstatus' : (f c).status ≠ .manualTakeover) :
    Retryable ((s.setJob jobId Job.reopened).setChange id f) := by
  -- where the job's segment is scheduled, its change is the one that is retried
  have howner {i : Nat} {g : Segment} {cid : Id} (hi : s.segments[i]? = some g)
      (horigin : g.sourceChangeOrderId = some cid) (hsegment : job.contractSegmentId = i) :
      cid = id := by
    obtain ⟨target, hfind, hid⟩ := Option.map_eq_some_iff.1 htarget
    obtain ⟨n, hn⟩ := List.mem_iff_getElem?.1 (List.mem_of_find?_eq_some hfind)
    have hsame := List.find?_some hfind
    rw [h.tiled.sound.changes.id id c hc, beq_iff_eq] at hsame
    rw [(h.tiled.sound.segments.number n target hn).1, hsegment] at hid
    rw [hid, hi, Option.some.injEq] at hn
    rw [← hn, horigin] at hsame
    exact Option.some.inj hsame
  refine ⟨htiled, hkeyed, fun n hn => ?_, fun i g cid c' hg hscheduled horigin hc' hmanual => ?_⟩
  · obtain ⟨job₀, hjob₀, hdead⟩ := h.marked n hn
    by_cases heq : n = jobId
    · subst heq
      obtain rfl := Option.some.inj (hjob.symm.trans hjob₀)
      refine ⟨job.reopened, get_modify_self hjob, fun g hg hscheduled => ?_⟩
      obtain ⟨cid, c', horigin, hawaits⟩ := h.tiled.pending _ g hg hscheduled
      obtain rfl := howner hg horigin rfl
      obtain ⟨m, job₁, hall⟩ := h.failed _ g cid c hg hscheduled horigin hc hstatus
      have htype := h.tiled.retries hg hscheduled horigin hc (List.mem_of_getElem? hjob) htarget
      obtain rfl : n = m := h.keyed.inj hjob hall.found (by
        rw [Job.key, Job.key, htype, hall.jobType, hall.segment]
        rfl)
      exact absurd hn hall.marked
    · exact ⟨job₀, (get_modify_ne heq).trans hjob₀, hdead⟩
  · rcases get_modify hc' with ⟨hne, hc'⟩ | ⟨rfl, c₁, hc₁, rfl⟩
    · obtain ⟨n, job₁, hall⟩ := h.failed i g cid c' hg hscheduled horigin hc' hmanual
      have hother : n ≠ jobId := by
        rintro rfl
        obtain rfl := Option.some.inj (hjob.symm.trans hall.found)
        exact hne (howner hg horigin hall.segment)
      exact ⟨n, job₁, hall.code, (get_modify_ne hother).trans hall.found, hall.jobType, hall.segment,
        hall.change, hall.dead, hall.lastError, hall.marked⟩
    · obtain rfl := Option.some.inj (hc.symm.trans hc₁)
      exact absurd hmanual hstatus'

theorem Retryable.move (hgood : ∀ s e, Good s e → LeavesScheduled s e) (h : Retryable s)
    (hmove : Move Good s s') : Retryable s' := by
  have hcancels (s : State) (e : Event) (he : Good s e) : CancelsUnscheduled s e := by
    have hleaves := hgood s e he
    cases e <;> first | exact trivial | exact hleaves
  have htiled := h.tiled.move hcancels hmove
  have hkeyed := h.keyed.move hmove
  have hsame (i : Nat) (g : Segment) (cid : Id) (c c' : ChangeOrder) (_ : s.segments[i]? = some g)
      (_ : g.status = .scheduled) (_ : g.sourceChangeOrderId = some cid) (hawaits : s.Awaits i cid c)
      (hc' : s.changes[cid]? = some c') (hstatus : c'.status = .manualTakeover) :
      c.status = .manualTakeover ∧ c'.failureCode = c.failureCode := by
    obtain rfl := Option.some.inj (hawaits.change.symm.trans hc')
    exact ⟨hstatus, rfl⟩
  cases hmove with
  | tick | vehicle | prepare | enroll | consideration =>
    exact h.keep htiled hkeyed (Retryable.same_segments rfl) hsame .rfl rfl
  | base source hsource hnone hdates hnumber hactive =>
    refine h.keep htiled hkeyed (fun i g' hg' hscheduled => ?_) hsame .rfl rfl
    rcases get_append hg' with hg' | ⟨-, rfl⟩
    · exact .inl ⟨g', hg', hscheduled, rfl⟩
    · cases hscheduled
  | turn id c f hc hkept hturn =>
    refine h.keep htiled hkeyed (Retryable.same_segments rfl)
      (fun i g cid c₀ c' hg hscheduled horigin hawaits hc' hstatus => ?_) .rfl rfl
    rcases get_modify hc' with ⟨-, hc'⟩ | ⟨rfl, c₁, hc₁, rfl⟩
    · exact hsame i g cid c₀ c' hg hscheduled horigin hawaits hc' hstatus
    · obtain rfl := Option.some.inj (hawaits.change.symm.trans hc₁)
      obtain rfl := Option.some.inj (hawaits.change.symm.trans hc)
      exact hturn.failed (hgood s) hg hscheduled horigin hawaits hstatus
  | opens c hid hstatus hsource hlive hopens =>
    refine h.keep htiled hkeyed (Retryable.same_segments rfl)
      (fun i g cid c₀ c' hg hscheduled horigin hawaits hc' hstatus' => ?_) .rfl rfl
    rcases get_append hc' with hc' | ⟨-, rfl⟩
    · exact hsame i g cid c₀ c' hg hscheduled horigin hawaits hc' hstatus'
    · rw [hstatus] at hstatus'
      cases hstatus'
  | schedule cid k c source segment f hfound hkept hstatus' =>
    have hnone {i : Nat} {g : Segment} (hg : s.segments[i]? = some g) : g.status ≠ .scheduled := by
      refine h.tiled.none_scheduled hfound.change ?_ ?_ ?_ hg <;> rw [hfound.status] <;> decide
    refine h.keep htiled hkeyed (fun i g' hg' hscheduled => ?_)
      (fun i g _ _ _ hg hscheduled => absurd hscheduled (hnone hg))
      (DeadKept.enqueue { s with segments := s.segments ++ [segment] } _ _ _)
      (enqueue_takeovers _ _ _ _)
    rw [show (State.setChange _ cid f).segments = _ from segments_enqueue _ _ _ _] at hg'
    rcases get_append hg' with hg' | ⟨hlen, rfl⟩
    · exact absurd hscheduled (hnone hg')
    · refine .inr ⟨hlen, fun cid' c' horigin hc' => ?_⟩
      rw [hfound.origin.2, h.tiled.sound.changes.id cid c hfound.change, Option.some.injEq] at horigin
      subst horigin
      rw [show (State.setChange _ cid f).changes = _ from
        congrArg (List.modify · cid f) (enqueue_changes _ _ _ _), get_modify_self hfound.change] at hc'
      rw [← Option.some.inj hc', hstatus']
      exact ChangeStatus.noConfusion
  | activate i cid k g source c f hfound hkept hstatus' =>
    refine h.keep htiled hkeyed (fun j g' hg' hscheduled => ?_)
      (fun j g₀ cid₀ c₀ c' hg hscheduled horigin hawaits hc' hstatus => ?_) .rfl rfl
    · rcases get_modify hg' with ⟨-, hg'⟩ | ⟨-, g₀, -, rfl⟩
      · rcases get_modify hg' with ⟨-, hg'⟩ | ⟨-, g₀, -, rfl⟩
        · exact .inl ⟨g', hg', hscheduled, rfl⟩
        · cases hscheduled
      · cases hscheduled
    · rcases get_modify hc' with ⟨-, hc'⟩ | ⟨rfl, c₁, hc₁, rfl⟩
      · exact hsame j g₀ cid₀ c₀ c' hg hscheduled horigin hawaits hc' hstatus
      · obtain rfl := Option.some.inj (hfound.change.symm.trans hc₁)
        rw [hstatus'] at hstatus
        cases hstatus
  | enqueue jobType i cid htype hactive =>
    refine h.keep htiled hkeyed (Retryable.same_segments (segments_enqueue _ _ _ _)) ?_
      (.enqueue s jobType i cid) (enqueue_takeovers _ _ _ _)
    rw [enqueue_changes]
    exact hsame
  | job jobId job f hjob hopen hkept =>
    exact h.keep htiled hkeyed (Retryable.same_segments rfl) hsame
      (.modify hjob hopen ⟨hkept.1, hkept.2.1, hkept.2.2⟩) rfl
  | deadLetter jobId job hjob hopen => exact h.deadLetter htiled hkeyed hjob hopen
  | mark jobId job f hjob hmark hkept hturn => exact h.mark htiled hkeyed hjob hmark hturn
  | retry id jobId c job f hc hjob hstatus hdead htarget hkept hstatus' =>
    exact h.retry htiled hkeyed hc hjob hstatus htarget (by rw [hstatus']; split <;> decide)
  | expire _ i g closure hg hclosure hdue hnext hactive hsegments hchanges hjobs htakeovers =>
    refine h.keep htiled hkeyed (fun j g' hg' hscheduled => ?_)
      (fun j g₀ cid₀ c₀ c' hg₀ hscheduled horigin hawaits hc' hstatus => ?_)
      (hjobs ▸ .cancelled s.jobs) htakeovers
    · rw [hsegments] at hg'
      rcases get_modify hg' with ⟨-, hg'⟩ | ⟨rfl, g₀, hg₀, rfl⟩
      · exact .inl ⟨g', hg', hscheduled, rfl⟩
      · exact .inl ⟨g₀, hg₀, (completeActive_status g₀).2.1 hscheduled,
          (fixed_completeActive g₀).origin⟩
    · refine hsame j g₀ cid₀ c₀ c' hg₀ hscheduled horigin hawaits ?_ hstatus
      rcases hexpiring : expiringChange s i with _ | c₁
      · rw [hexpiring] at hchanges
        rwa [hchanges] at hc'
      · rw [hexpiring] at hchanges
        rw [hchanges] at hc'
        rwa [get_modify_ne] at hc'
        rintro rfl
        exact h.tiled.not_expiring hg hnext hexpiring hg₀ hscheduled hawaits
  | swap cid k c source segment endDate f hc hterm hexecuting hsource hactive hsegment hcovers
      hnumber hsingle halone hkept hstatus' =>
    refine h.keep htiled hkeyed (fun j g' hg' hscheduled => ?_)
      (fun j g₀ cid₀ c₀ c' hg hscheduled horigin hawaits hc' hstatus => ?_) .rfl rfl
    · rcases get_append hg' with hg' | ⟨-, rfl⟩
      · rcases get_modify hg' with ⟨-, hg'⟩ | ⟨-, g₀, -, rfl⟩
        · exact .inl ⟨g', hg', hscheduled, rfl⟩
        · cases hscheduled
      · rw [hsegment.2.1] at hscheduled
        cases hscheduled
    · rcases get_modify hc' with ⟨-, hc'⟩ | ⟨rfl, c₁, hc₁, rfl⟩
      · exact hsame j g₀ cid₀ c₀ c' hg hscheduled horigin hawaits hc' hstatus
      · obtain rfl := Option.some.inj (hc.symm.trans hc₁)
        rw [hstatus'] at hstatus
        cases hstatus

/-- The change, in takeover, can be retried; it is scheduled again then. -/
theorem Retryable.retry_scheduled (h : Retryable s) {i : Nat} {g : Segment} {cid : Id}
    {c : ChangeOrder} (hg : s.segments[i]? = some g) (hscheduled : g.status = .scheduled)
    (horigin : g.sourceChangeOrderId = some cid) (hc : s.changes[cid]? = some c)
    (hstatus : c.status = .manualTakeover) :
    ∃ jobId s', retryAutomationJob s cid jobId c.version = .ok s' ∧
      (s'.changes[cid]?).map (·.status) = some .scheduled := by
  obtain ⟨jobId, job, hall⟩ := h.failed i g cid c hg hscheduled horigin hc hstatus
  obtain ⟨cid', c', horigin', hawaits⟩ := h.tiled.pending i g hg hscheduled
  obtain rfl := Option.some.inj (horigin.symm.trans horigin')
  obtain rfl := Option.some.inj (hc.symm.trans hawaits.change)
  obtain ⟨t, hterm, -⟩ := hawaits.term
  obtain ⟨d, hd⟩ := detail_of_term hterm
  have hid := h.tiled.sound.changes.id cid c hc
  have htarget : (s.targetSegment c.id).map (·.id) = some i := by
    rcases hfind : s.targetSegment c.id with _ | target
    · rw [State.targetSegment, List.find?_eq_none] at hfind
      refine absurd ?_ (hfind g (List.mem_of_getElem? hg))
      rw [hid, horigin]
      exact beq_self_eq_true _
    · obtain ⟨n, hn⟩ := List.mem_iff_getElem?.1 (List.mem_of_find?_eq_some hfind)
      have hsame := List.find?_some hfind
      rw [hid, beq_iff_eq] at hsame
      obtain rfl := h.tiled.sound.segments.origin n i target g cid hn hg hsame horigin
      rw [Option.map_some, (h.tiled.sound.segments.number n target hn).1]
  have hfind := findExtension_of hc hd
  refine ⟨jobId, (s.setJob jobId Job.reopened).setChange cid fun change => { change with
    failureCode := none
    status := if job.jobType = .extensionSegmentActivate then .scheduled else .executing
    version := change.version + 1 }, ?_, ?_⟩
  · rw [retryAutomationJob, bind_eq hfind]
    simp [assertVersionMatches, hstatus, hall.found, hall.change, hall.dead, hall.segment, htarget,
      hall.lastError, hall.code, pure, Except.pure]
  · rw [getElem?_setChange]
    show Option.map _ (Option.map _ s.changes[cid]?) = _
    rw [hc, Option.map_some, Option.map_some, if_pos hall.jobType]

end SubscriptionSaas.Change
