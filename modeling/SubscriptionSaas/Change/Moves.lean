import SubscriptionSaas.Change.Lifecycle
import Mathlib.Logic.Relation

/-!
# What an operation does to the segments and the changes

Every operation on an order is a sequence of moves. A move says what it has found, what it leaves as
it was and how the statuses change; the invariants are derived from the moves. `Good` restricts the
commands that carry it: those of a person who takes over or cancels a change, and the expiry.
-/

namespace SubscriptionSaas.Change

open Calendar Billing Contract Results

/-- The source segment and the first and last day. -/
def ExtensionDetail.term (detail : ExtensionDetail) : Id × Int × Int :=
  (detail.sourceSegmentId, detail.targetStartDate, detail.targetEndDate)

/-- The source segment and the days of an extension. -/
def ChangeOrder.term (change : ChangeOrder) : Option (Id × Int × Int) :=
  change.extensionDetail.map ExtensionDetail.term

/-- Before the agreement of a change is archived. -/
def ChangeStatus.early : ChangeStatus → Bool
  | .draft | .quoted | .customerConfirmed | .signingOrPayment => true
  | _ => false

/-- What no command changes in a change order. -/
structure ChangeOrder.Kept (c c' : ChangeOrder) : Prop where
  id : c'.id = c.id
  deadline : c'.completionDeadlineAt = c.completionDeadlineAt
  term : c'.term = c.term
  source : c'.sourceSegmentId = c.sourceSegmentId ∨
    ∀ t, c.term = some t → c'.sourceSegmentId = some t.1

def State.NoLive (s : State) : Prop := ∀ c ∈ s.changes, c.status.live = false

/-- How a command moves the status of the change order `id`. -/
inductive Turn (Good : State → Event → Prop) (s : State) (id : Id) (c c' : ChangeOrder) : Prop
  | same (hstatus : c'.status = c.status) (hcode : c'.failureCode = c.failureCode)
  | advance (hearly : c.status.early) (hearly' : c'.status.early)
  | reject (hstatus : c.status = .quoted) (hstatus' : c'.status = .cancelled)
  | cancel (version : Nat) (reason : String) (hgood : Good s (.cancel id version reason))
      (hstatus' : c'.status = .cancelled)
  | takeover (version : Nat) (reason : String)
      (hgood : Good s (.manualTakeover id version reason))
      (hlive : c.status.live ∨ s.NoLive) (hdeadline : s.now < c.completionDeadlineAt)
      (hstatus' : c'.status = .manualTakeover) (hcode : c'.failureCode = c.failureCode)
  | complete (hstatus : c.status = .executing) (hstatus' : c'.status = .completed)
  | swap (hswap : c.term = none) (hlive : c.status.live ∨ c'.status.live = false)

/-- How an extension comes about. -/
inductive Opens (s : State) (c : ChangeOrder) : Prop
  | staff (p : PreparedExtension) (hp : p ∈ s.prepared) (hactive : s.order.orderStatus = .active)
      (hlast : (findLast effective s.rows).map (·.id) = some p.sourceSegmentId)
      (hterm : c.term = some (p.sourceSegmentId, p.targetStartDate, p.targetEndDate))
      (hdeadline : c.completionDeadlineAt = p.completionDeadlineAt)
  | customer (r : RenewalConsideration) (hr : r ∈ s.considerations) (g : Segment)
      (hg : s.segments[r.segmentId]? = some g) (endDate : Int)
      (hterm : c.term = some (r.segmentId, g.endDate + 1, endDate))
      (hdeadline : c.completionDeadlineAt = r.completionDeadlineAt)
      (hnow : s.now < r.completionDeadlineAt)
  | swap (hactive : s.order.orderStatus = .active) (hterm : c.term = none)

/-- What the activation of the segment `i` finds. -/
structure State.Activates (s : State) (i cid k : Id) (g source : Segment) (c : ChangeOrder) :
    Prop where
  segment : s.segments[i]? = some g
  status : g.status = .scheduled
  origin : g.sourceChangeOrderId = some cid
  change : s.changes[cid]? = some c
  scheduled : c.status = .scheduled
  term : c.term.map (·.1) = some k
  found : s.segments[k]? = some source
  active : source.status = .active
  alone : ∀ g ∈ (s.setSegment k Segment.completed).segments, g.status ≠ .active

/-- What the archive of the agreement of the change `cid` finds, and the segment it appends to the
segment `k`. -/
structure State.Schedules (s : State) (cid k : Id) (c : ChangeOrder) (source segment : Segment) :
    Prop where
  change : s.changes[cid]? = some c
  status : c.status = .signingOrPayment
  deadline : s.now < c.completionDeadlineAt
  found : s.segments[k]? = some source
  term : c.term = some (k, segment.startDate, segment.endDate)
  next : segment.startDate = source.endDate + 1 ∧ segment.sequenceNo = source.sequenceNo + 1
  origin : segment.sourceSegmentId = some k ∧ segment.sourceChangeOrderId = some c.id
  fresh : segment.id = s.segments.length ∧ segment.status = .scheduled ∧
    segment.segmentType = .extension
  dates : segment.startDate ≤ segment.endDate
  number : ∀ g ∈ s.segments, g.sequenceNo ≠ segment.sequenceNo
  single : ∀ g ∈ s.segments, g.sourceChangeOrderId ≠ segment.sourceChangeOrderId

inductive Move (Good : State → Event → Prop) : State → State → Prop
  | tick (s : State) (elapsed : Nat) : Move Good s { s with now := s.now + elapsed }
  | vehicle (s : State) (status : Option VehicleStatus) :
      Move Good s { s with order := { s.order with vehicle := status } }
  | base (s : State) (source : BaseSource) (hsource : assertBaseSourceComplete s.order = .ok source)
      (hnone : ∀ g ∈ s.segments, g.segmentType ≠ .base)
      (hdates : source.startDate ≤ source.endDate) (hnumber : ∀ g ∈ s.segments, g.sequenceNo ≠ 1)
      (hactive : ∀ g ∈ s.segments, g.status ≠ .active) :
      Move Good s { s with segments := s.segments ++ [baseSegment s.order source] }
  | prepare (s : State) (p : PreparedExtension)
      (hlast : (findLast effective s.rows).map (·.id) = some p.sourceSegmentId)
      (hdates : ∃ g ∈ s.segments, g.id = p.sourceSegmentId ∧ p.targetStartDate = g.endDate + 1)
      (hdeadline : p.completionDeadlineAt = shanghaiStartOfDate p.targetStartDate) :
      Move Good s { s with prepared := s.prepared ++ [p] }
  | enroll (s : State) (r : RenewalConsideration) (g : Segment)
      (hg : s.segments[r.segmentId]? = some g) (hactive : s.order.orderStatus = .active)
      (hlast : (findLast effective s.rows).map (·.id) = some g.id)
      (hdeadline : r.completionDeadlineAt = shanghaiStartOfDate (g.endDate + 1)) :
      Move Good s { s with considerations := s.considerations ++ [r] }
  | consideration (s : State) (id : Id) (f : RenewalConsideration → RenewalConsideration)
      (hkept : ∀ r, (f r).segmentId = r.segmentId ∧
        (f r).completionDeadlineAt = r.completionDeadlineAt) :
      Move Good s { s with considerations := s.considerations.modify id f }
  | turn (s : State) (id : Id) (c : ChangeOrder) (f : ChangeOrder → ChangeOrder)
      (hc : s.changes[id]? = some c) (hkept : c.Kept (f c)) (hturn : Turn Good s id c (f c)) :
      Move Good s (s.setChange id f)
  | opens (s : State) (c : ChangeOrder) (hid : c.id = s.changes.length) (hstatus : c.status = .draft)
      (hsource : c.sourceSegmentId = none) (hlive : s.NoLive) (hopens : Opens s c) :
      Move Good s { s with changes := s.changes ++ [c] }
  | schedule (s : State) (cid k : Id) (c : ChangeOrder) (source segment : Segment)
      (f : ChangeOrder → ChangeOrder) (hfound : s.Schedules cid k c source segment)
      (hkept : c.Kept (f c)) (hstatus' : (f c).status = .scheduled) :
      Move Good s ((State.enqueue { s with segments := s.segments ++ [segment] }
        .extensionSegmentActivate segment.id c.id).setChange cid f)
  | activate (s : State) (i cid k : Id) (g source : Segment) (c : ChangeOrder)
      (f : ChangeOrder → ChangeOrder) (hfound : s.Activates i cid k g source c)
      (hkept : c.Kept (f c)) (hstatus' : (f c).status = .executing) :
      Move Good s (((s.setSegment k Segment.completed).setSegment i
        (Segment.activated s.now)).setChange cid f)
  | enqueue (s : State) (jobType : JobType) (i cid : Id) (htype : jobType ≠ .extensionSegmentActivate)
      (hactive : ∃ g ∈ s.segments, g.id = i ∧ g.status = .active ∧
        g.sourceChangeOrderId = some cid) :
      Move Good s (s.enqueue jobType i cid)
  | job (s : State) (jobId : Id) (job : Job) (f : Job → Job) (hjob : s.jobs[jobId]? = some job)
      (hopen : jobOpen job) (hkept : (f job).jobType = job.jobType ∧
        (f job).contractSegmentId = job.contractSegmentId ∧
        (f job).changeOrderId = job.changeOrderId) :
      Move Good s (s.setJob jobId f)
  | deadLetter (s : State) (jobId : Id) (job : Job) (hjob : s.jobs[jobId]? = some job)
      (hopen : jobOpen job) :
      Move Good s { s.setJob jobId Job.deadLettered with takeovers := s.takeovers ++ [jobId] }
  | mark (s : State) (jobId : Id) (job : Job) (f : ChangeOrder → ChangeOrder)
      (hjob : s.jobs[jobId]? = some job) (hmark : jobId ∈ s.takeovers)
      (hkept : ∀ c : ChangeOrder, c.Kept (f c))
      (hturn : ∀ c : ChangeOrder, ((f c).status = c.status ∧ (f c).failureCode = c.failureCode) ∨
        ((c.status = .scheduled ∨ c.status = .executing) ∧ (f c).status = .manualTakeover ∧
          (f c).failureCode = some jobFailed)) :
      Move Good s { s.setChange job.changeOrderId f with takeovers := s.takeovers.erase jobId }
  | retry (s : State) (id jobId : Id) (c : ChangeOrder) (job : Job) (f : ChangeOrder → ChangeOrder)
      (hc : s.changes[id]? = some c) (hjob : s.jobs[jobId]? = some job)
      (hstatus : c.status = .manualTakeover) (hdead : job.jobStatus = .deadLetter)
      (htarget : (s.targetSegment c.id).map (·.id) = some job.contractSegmentId)
      (hkept : c.Kept (f c)) (hstatus' : (f c).status =
        if job.jobType = .extensionSegmentActivate then .scheduled else .executing) :
      Move Good s ((s.setJob jobId Job.reopened).setChange id f)
  | expire (s s' : State) (i : Id) (g : Segment) (closure : Bool) (hg : s.segments[i]? = some g)
      (hgood : Good s (.expireSegment i closure))
      (hdue : shanghaiStartOfDate (g.endDate + 1) ≤ s.now)
      (hnext : findEffectiveNextSegment s g = none) (hactive : s.order.orderStatus = .active)
      (hsegments : s'.segments = s.segments.modify i completeActive)
      (hchanges : s'.changes = match expiringChange s i with
        | some c => s.changes.modify c.id failChange
        | none => s.changes)
      (hjobs : s'.jobs = s.jobs.map cancelFutureJob) (htakeovers : s'.takeovers = s.takeovers)
      (hconsiderations : s'.considerations = s.considerations.map (expireConsideration i))
      (hprepared : s'.prepared = s.prepared) (hnow : s'.now = s.now)
      (horder : s'.order = { s.order with orderStatus := .pendingReturn })
      (hexpired : s'.expired = s.expired ++ [i]) : Move Good s s'
  | swap (s : State) (cid k : Id) (c : ChangeOrder) (source segment : Segment) (endDate : Int)
      (f : ChangeOrder → ChangeOrder) (hc : s.changes[cid]? = some c) (hterm : c.term = none)
      (hexecuting : c.status = .executing)
      (hsource : s.segments[k]? = some source) (hactive : source.status = .active)
      (hsegment : segment.id = s.segments.length ∧ segment.status = .active ∧
        segment.segmentType = .vehicleSwap ∧ segment.sequenceNo = source.sequenceNo + 1 ∧
        segment.startDate = endDate + 1 ∧ segment.endDate = source.endDate ∧
        segment.sourceChangeOrderId = some cid ∧ segment.sourceSegmentId = none)
      (hcovers : source.startDate ≤ endDate ∧ endDate < source.endDate)
      (hnumber : ∀ g ∈ s.segments, g.sequenceNo ≠ segment.sequenceNo)
      (hsingle : ∀ g ∈ s.segments, g.sourceChangeOrderId ≠ segment.sourceChangeOrderId)
      (halone : ∀ g ∈ s.segments.modify source.id (Segment.endedOn endDate), g.status ≠ .active)
      (hkept : c.Kept (f c)) (hstatus' : (f c).status = .completed) :
      Move Good s (State.setChange { s with
        segments := s.segments.modify source.id (Segment.endedOn endDate) ++ [segment] } cid f)

/-- Some moves, one after the other. -/
abbrev Moves (Good : State → Event → Prop) : State → State → Prop :=
  Relation.ReflTransGen (Move Good)

end SubscriptionSaas.Change
