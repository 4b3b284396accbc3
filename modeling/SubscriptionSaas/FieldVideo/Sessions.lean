import Mathlib.Algebra.GroupWithZero.Nat
import Mathlib.Data.List.Range
import SubscriptionSaas.Lib.Runs

/-!
# Field video upload sessions

The repository of the video upload sessions. A session is known by its place in the table, and its
parts are kept in it. The statements that carry their condition with them are one step; the three
transactions that read without a lock before they write (`createOrResume`, `recordPart` and
`queueFinalization`) are `pending` between their reads and their commit. The clocks of the callers and
of the database are inputs.
-/

namespace SubscriptionSaas.FieldVideo

abbrev Id := Nat

/-- `FieldEvidenceVideoUploadStatus`. -/
inductive UploadStatus
  | uploading | finalizeQueued | ossCompleting | objectReady | processing | retryableFailed
  | validationFailed | completed | cancelled | expired
  deriving DecidableEq

def fieldVideoLiveStatuses : List UploadStatus :=
  [.uploading, .finalizeQueued, .ossCompleting, .objectReady, .processing, .retryableFailed]

def fieldVideoTerminalStatuses : List UploadStatus :=
  [.validationFailed, .completed, .cancelled, .expired]

def fieldVideoChunkSizeBytes : Nat := 8 * 1024 * 1024
def maxFieldVideoSizeBytes : Nat := 300 * 1024 * 1024
def maxFieldVideoParts : Nat := 38
def fieldVideoUploadTtlMs : Int := 24 * 60 * 60 * 1000
def fieldVideoFinalizeLeaseMs : Int := 5 * 60 * 1000

/-! ## Rows -/

structure Part where
  partNumber : Nat
  sizeBytes : Nat
  sha256 : String
  ossEtag : String
  deriving DecidableEq

/-- The owner of a lease: a fresh identifier, with a prefix for the leases that are not taken for a
finalization. -/
inductive LeaseOwner
  | finalizer (lease : Id)
  | cancel (lease : Id)
  | expire (lease : Id)
  deriving DecidableEq

structure Session where
  evidenceItemId : Id
  fingerprintHash : String
  sizeBytes : Nat
  totalParts : Nat
  status : UploadStatus
  objectKey : Option Id
  ossUploadId : Option Id
  objectEtag : Option String
  failureCode : Option String
  resumeStage : Option UploadStatus
  retryCount : Nat
  leaseOwner : Option LeaseOwner
  leaseExpiresAt : Option Int
  expiresAt : Int
  objectCompletedAt : Option Int
  processingCompletedAt : Option Int
  completedAt : Option Int
  cancelledAt : Option Int
  version : Nat
  parts : List Part
  deriving DecidableEq

def Session.live (u : Session) : Bool := u.status ∈ fieldVideoLiveStatuses

structure CreateInput where
  evidenceItemId : Id
  fingerprintHash : String
  objectKey : Id
  ossUploadId : Id
  sizeBytes : Nat
  totalParts : Nat
  deriving DecidableEq

/-- The row that `createOrResume` inserts. -/
def newSession (input : CreateInput) (expiresAt : Int) : Session where
  evidenceItemId := input.evidenceItemId
  fingerprintHash := input.fingerprintHash
  sizeBytes := input.sizeBytes
  totalParts := input.totalParts
  status := .uploading
  objectKey := some input.objectKey
  ossUploadId := some input.ossUploadId
  objectEtag := none
  failureCode := none
  resumeStage := none
  retryCount := 0
  leaseOwner := none
  leaseExpiresAt := none
  expiresAt := expiresAt
  objectCompletedAt := none
  processingCompletedAt := none
  completedAt := none
  cancelledAt := none
  version := 0
  parts := []

/-- The check constraints of a session. -/
def CreateInput.shapeOk (input : CreateInput) : Bool :=
  1 ≤ input.sizeBytes && input.sizeBytes ≤ maxFieldVideoSizeBytes && 1 ≤ input.totalParts &&
    input.totalParts ≤ maxFieldVideoParts

/-- The check constraints of a part. -/
def Part.shapeOk (part : Part) : Bool :=
  1 ≤ part.partNumber && part.partNumber ≤ maxFieldVideoParts && 1 ≤ part.sizeBytes &&
    part.sizeBytes ≤ fieldVideoChunkSizeBytes

/-! ## Transactions under way -/

/-- A transaction that has read what it needs and has not written yet. -/
inductive Pending
  | create (input : CreateInput) (expiresAt : Int)
  | resume (sessionId : Id) (expiresAt : Int)
  | part (sessionId : Id) (part : Part) (now : Int)
  | queue (sessionId : Id)
  deriving DecidableEq

/-- `nextLease` is the next identifier that no owner bears. -/
structure State where
  sessions : List Session
  pending : List Pending
  nextLease : Id
  deriving DecidableEq

/-- The last live session of an item. -/
def State.findLive (s : State) (evidenceItemId : Id) : Option Id :=
  ((List.range s.sessions.length).filter fun id =>
    s.sessions[id]?.any fun u => u.evidenceItemId == evidenceItemId && u.live).getLast?

/-- The reads of `createOrResume`. -/
def createOrResume (s : State) (input : CreateInput) (now : Int) : Option Pending :=
  let expiresAt := now + fieldVideoUploadTtlMs
  match s.findLive input.evidenceItemId with
  | some sessionId =>
    if s.sessions[sessionId]?.any (·.fingerprintHash == input.fingerprintHash) then
      some (.resume sessionId expiresAt)
    else none
  | none => some (.create input expiresAt)

/-- What the service asserts of a part before it is stored. The columns it reads never change. -/
def Session.assertPartMetadata (u : Session) (partNumber sizeBytes : Nat) : Bool :=
  1 ≤ partNumber && partNumber ≤ u.totalParts &&
    (sizeBytes : Int) == min (fieldVideoChunkSizeBytes : Int)
      ((u.sizeBytes : Int) - ((partNumber : Int) - 1) * (fieldVideoChunkSizeBytes : Int))

/-- A lease that has not run out. -/
def Session.leased (u : Session) (now : Int) : Bool :=
  u.leaseOwner.isSome && u.leaseExpiresAt.any (now < ·)

/-- The reads of `recordPart`. A part that is there already is answered or refused. -/
def recordPart (s : State) (sessionId : Id) (part : Part) (now : Int) : Option Pending :=
  match s.sessions[sessionId]? with
  | none => none
  | some u =>
    if u.assertPartMetadata part.partNumber part.sizeBytes && u.status == .uploading &&
        now < u.expiresAt && !u.leased now &&
        !u.parts.any (·.partNumber == part.partNumber) then
      some (.part sessionId part now)
    else none

/-- All parts are there. -/
def Session.uploaded (u : Session) : Bool :=
  u.parts.length == u.totalParts && (u.parts.map (·.sizeBytes)).sum == u.sizeBytes

/-- The reads of `queueFinalization`. -/
def queueFinalization (s : State) (sessionId : Id) : Option Pending :=
  match s.sessions[sessionId]? with
  | none => none
  | some u => if u.status == .uploading && u.uploaded then some (.queue sessionId) else none

/-- What a transaction writes and commits, or nothing if the database refuses it. -/
def State.write (s : State) : Pending → State
  | .create input expiresAt =>
    if input.shapeOk &&
        !s.sessions.any fun u => u.evidenceItemId == input.evidenceItemId && u.live then
      { s with sessions := s.sessions ++ [newSession input expiresAt] }
    else s
  | .resume sessionId expiresAt =>
    { s with sessions := s.sessions.modify sessionId fun u =>
        { u with
          expiresAt := expiresAt
          version := u.version + 1 } }
  | .part sessionId part now =>
    if part.shapeOk &&
        s.sessions[sessionId]?.all fun u => !u.parts.any (·.partNumber == part.partNumber) then
      { s with sessions := s.sessions.modify sessionId fun u =>
          { u with
            parts := u.parts ++ [part]
            expiresAt := now + fieldVideoUploadTtlMs
            version := u.version + 1 } }
    else s
  | .queue sessionId =>
    { s with sessions := s.sessions.modify sessionId fun u =>
        if u.status = .uploading then
          { u with
            status := .finalizeQueued
            version := u.version + 1 }
        else u }

/-! ## Claims -/

def claimDueStatuses : List UploadStatus :=
  [.finalizeQueued, .ossCompleting, .objectReady, .processing]

/-- The condition of the claim. -/
def Session.due (u : Session) (now : Int) : Bool :=
  (u.status ∈ claimDueStatuses && (u.leaseOwner.isNone || u.leaseExpiresAt.any (· ≤ now))) ||
    (u.status == .retryableFailed && u.leaseOwner.isNone && u.leaseExpiresAt.any (· ≤ now))

def Session.overdue (u : Session) (now : Int) : Bool :=
  u.status == .uploading && u.expiresAt ≤ now &&
    (u.leaseOwner.isNone || u.leaseExpiresAt.any (· ≤ now))

def Session.cancellable (u : Session) (now : Int) : Bool :=
  u.live && (u.leaseOwner.isNone || u.leaseExpiresAt.any (· ≤ now))

def Session.take (u : Session) (owner : LeaseOwner) (leaseExpiresAt : Int) : Session :=
  { u with
    leaseOwner := some owner
    leaseExpiresAt := some leaseExpiresAt
    version := u.version + 1 }

/-- A session that is claimed for its finalization. -/
def Session.claim (u : Session) (lease : Id) (leaseExpiresAt : Int) : Session :=
  { u.take (.finalizer lease) leaseExpiresAt with
    status := if u.status = .retryableFailed then u.resumeStage.getD .finalizeQueued else u.status }

/-- A write to the rows for which the condition holds, all under the next lease. -/
def State.lease (s : State) (chosen : Id → Session → Bool) (taken : Session → Session) : State :=
  { s with
    sessions := s.sessions.mapIdx fun id u => if chosen id u then taken u else u
    nextLease := s.nextLease + 1 }

/-- `candidates` are the rows that the query selects and locks: as many as its limit allows, and none
that another transaction has locked. -/
def claimDue (s : State) (candidates : List Id) (leaseMs now : Int) : State :=
  s.lease (fun id u => id ∈ candidates && u.due now) (·.claim s.nextLease (now + leaseMs))

/-- The sessions that `claimDue` returns, as it has written them. -/
def claimedSessions (s : State) (candidates : List Id) (leaseMs now : Int) : List (Id × Session) :=
  candidates.filterMap fun id =>
    (s.sessions[id]?.filter (·.due now)).map fun u => (id, u.claim s.nextLease (now + leaseMs))

def expireDue (s : State) (candidates : List Id) (leaseMs now : Int) : State :=
  s.lease (fun id u => id ∈ candidates && u.overdue now)
    (·.take (.expire s.nextLease) (now + leaseMs))

def claimCancellation (s : State) (sessionId : Id) (leaseMs now : Int) : State :=
  s.lease (fun id u => id == sessionId && u.cancellable now)
    (·.take (.cancel s.nextLease) (now + leaseMs))

/-! ## What the owner of a lease writes -/

/-- `UPDATE … WHERE "lease_owner" = owner`. -/
def State.owned (s : State) (owner : LeaseOwner) (sessionId : Id) (change : Session → Session) :
    State :=
  if s.sessions[sessionId]?.any (·.leaseOwner == some owner) then
    { s with sessions := s.sessions.modify sessionId change }
  else s

/-- The three advances of the finalizer. -/
inductive Advance
  | ossCompleting
  | objectReady (objectCompletedAt : Int) (objectEtag : String)
  | processing
  deriving DecidableEq

def advanceClaimed (s : State) (lease sessionId : Id) (advance : Advance) : State :=
  s.owned (.finalizer lease) sessionId fun u =>
    match advance with
    | .ossCompleting => { u with status := .ossCompleting, version := u.version + 1 }
    | .objectReady objectCompletedAt objectEtag =>
      { u with
        status := .objectReady
        objectCompletedAt := some objectCompletedAt
        objectEtag := some objectEtag
        version := u.version + 1 }
    | .processing => { u with status := .processing, version := u.version + 1 }

/-- The stages that the finalizer records. -/
inductive FailedStage
  | ossCompleting | processing
  deriving DecidableEq

def FailedStage.status : FailedStage → UploadStatus
  | .ossCompleting => .ossCompleting
  | .processing => .processing

def markRetryableFailure (s : State) (lease sessionId : Id) (stage : FailedStage) (code : String)
    (leaseExpiresAt : Int) : State :=
  s.owned (.finalizer lease) sessionId fun u =>
    { u with
      failureCode := some code
      leaseExpiresAt := some leaseExpiresAt
      leaseOwner := none
      resumeStage := some stage.status
      retryCount := u.retryCount + 1
      status := .retryableFailed
      version := u.version + 1 }

def retryFailed (s : State) (sessionId : Id) (now : Int) : State :=
  { s with sessions := s.sessions.modify sessionId fun u =>
      if u.leaseOwner = none ∧ u.status = .retryableFailed then
        { u with
          failureCode := none
          leaseExpiresAt := some now
          version := u.version + 1 }
      else u }

def releaseLease (s : State) (owner : LeaseOwner) (sessionId : Id) : State :=
  s.owned owner sessionId fun u =>
    { u with
      leaseExpiresAt := none
      leaseOwner := none
      version := u.version + 1 }

inductive TerminalStatus
  | validationFailed | completed | cancelled | expired
  deriving DecidableEq

def TerminalStatus.status : TerminalStatus → UploadStatus
  | .validationFailed => .validationFailed
  | .completed => .completed
  | .cancelled => .cancelled
  | .expired => .expired

def markTerminal (s : State) (owner : LeaseOwner) (sessionId : Id) (status : TerminalStatus)
    (code : Option String) (now : Int) : State :=
  s.owned owner sessionId fun u =>
    { u with
      cancelledAt := if status = .cancelled then some now else u.cancelledAt
      completedAt := if status = .completed then some now else u.completedAt
      failureCode := code
      leaseExpiresAt := none
      leaseOwner := none
      objectEtag := none
      objectKey := none
      ossUploadId := none
      resumeStage := none
      status := status.status
      version := u.version + 1 }

/-- The evidence is attached and the session completed, in one transaction. -/
def attachPreparedFieldVideo (s : State) (lease sessionId : Id) (now : Int) : State :=
  s.owned (.finalizer lease) sessionId fun u =>
    if u.status = .processing then
      { u with
        completedAt := some now
        failureCode := none
        leaseExpiresAt := none
        leaseOwner := none
        objectEtag := none
        objectKey := none
        ossUploadId := none
        processingCompletedAt := some now
        resumeStage := none
        status := .completed
        version := u.version + 1 }
    else u

/-! ## The machine -/

inductive Input
  | createOrResume (input : CreateInput) (now : Int)
  | recordPart (sessionId : Id) (part : Part) (now : Int)
  | queueFinalization (sessionId : Id)
  /-- A transaction under way writes and commits. -/
  | commit (place : Nat)
  | rollback (place : Nat)
  | claimDue (candidates : List Id) (leaseMs now : Int)
  | expireDue (candidates : List Id) (leaseMs now : Int)
  | claimCancellation (sessionId : Id) (leaseMs now : Int)
  | advanceClaimed (lease sessionId : Id) (advance : Advance)
  | markRetryableFailure (lease sessionId : Id) (stage : FailedStage) (code : String)
      (leaseExpiresAt : Int)
  | retryFailed (sessionId : Id) (now : Int)
  | releaseLease (owner : LeaseOwner) (sessionId : Id)
  | markTerminal (owner : LeaseOwner) (sessionId : Id) (status : TerminalStatus)
      (code : Option String) (now : Int)
  | attachPreparedFieldVideo (lease sessionId : Id) (now : Int)
  deriving DecidableEq

/-- A transaction has done its reads. -/
def State.begin (s : State) (pending : Option Pending) : State :=
  { s with pending := s.pending ++ pending.toList }

def step (s : State) : Input → State
  | .createOrResume input now => s.begin (createOrResume s input now)
  | .recordPart sessionId part now => s.begin (recordPart s sessionId part now)
  | .queueFinalization sessionId => s.begin (queueFinalization s sessionId)
  | .commit place =>
    match s.pending[place]? with
    | none => s
    | some pending => { s.write pending with pending := s.pending.eraseIdx place }
  | .rollback place => { s with pending := s.pending.eraseIdx place }
  | .claimDue candidates leaseMs now => claimDue s candidates leaseMs now
  | .expireDue candidates leaseMs now => expireDue s candidates leaseMs now
  | .claimCancellation sessionId leaseMs now => claimCancellation s sessionId leaseMs now
  | .advanceClaimed lease sessionId advance => advanceClaimed s lease sessionId advance
  | .markRetryableFailure lease sessionId stage code leaseExpiresAt =>
    markRetryableFailure s lease sessionId stage code leaseExpiresAt
  | .retryFailed sessionId now => retryFailed s sessionId now
  | .releaseLease owner sessionId => releaseLease s owner sessionId
  | .markTerminal owner sessionId status code now => markTerminal s owner sessionId status code now
  | .attachPreparedFieldVideo lease sessionId now => attachPreparedFieldVideo s lease sessionId now

def initial : State := ⟨[], [], 0⟩

def history (inputs : List Input) : State := Runs.runs step initial inputs

end SubscriptionSaas.FieldVideo
