import SubscriptionSaas.FieldVideo.Sessions

/-!
# Field video uploads and their remote data

The services around the sessions: the requests of the field operator, the finalizer and the expiry of
the worker, each a call that goes from one remote operation or statement to the next. Between any two
of them the others may run, the call may crash, its operation may fail, and the answer of an operation
that was done may be lost. The object storage is a multipart store: a part replaces the part that had
its number, completing asks for the entity tags of the parts, and aborting and deleting are final.
-/

namespace SubscriptionSaas.FieldVideo

/-! ## The store -/

/-- What the store has under one key: the parts of the multipart upload, the latest first, and the
parts of which the object was put together. -/
structure Upload where
  multipart : Option (List Part)
  object : Option (List Part)
  deriving DecidableEq

def newUpload : Upload := ⟨some [], none⟩

/-- The part that the store has under a number. -/
def partAt (stored : List Part) (partNumber : Nat) : Option Part :=
  stored.find? (·.partNumber == partNumber)

def uploadFieldVideoPart (part : Part) (r : Upload) : Option Upload :=
  r.multipart.map fun stored => { r with multipart := some (part :: stored) }

/-- Where there is no such upload any more, an object of the declared size is the answer. -/
def completeFieldVideoMultipart (parts : List Part) (sizeBytes : Nat) (r : Upload) : Option Upload :=
  match r.multipart with
  | some stored =>
    if parts.all fun p => (partAt stored p.partNumber).any (·.ossEtag == p.ossEtag) then
      some ⟨none, some (parts.filterMap fun p => partAt stored p.partNumber)⟩
    else none
  | none =>
    if r.object.any fun object => (object.map (·.sizeBytes)).sum == sizeBytes then some r else none

/-- An upload that is not there is aborted already. -/
def abortFieldVideoMultipart (r : Upload) : Option Upload := some { r with multipart := none }

def deleteFieldVideoUploadSource (r : Upload) : Option Upload := some { r with object := none }

/-! ## Calls -/

/-- Where the finalizer is. `merged` is between the completion of the multipart upload and the advance
to `OBJECT_READY`, and `rejecting` before the object of a video that is not valid is deleted. -/
inductive FinalizerPoint
  | queued | completing | merged | ready | processing | attaching
  | rejecting (code : String)
  | rejected (code : String)
  | failing (stage : FailedStage) (code : String)
  deriving DecidableEq

def startPoint : UploadStatus → Option FinalizerPoint
  | .finalizeQueued => some .queued
  | .ossCompleting => some .completing
  | .objectReady => some .ready
  | .processing => some .processing
  | _ => none

/-- Where a cancellation or an expiry is. -/
inductive EnderPoint
  | aborting | removing | marking | releasing
  deriving DecidableEq

/-- `claimed` is the session as it was when it was claimed. -/
inductive Call
  /-- A multipart upload that was begun for a session that is not created. -/
  | discarding (upload : Id)
  | storing (sessionId upload : Id) (part : Part)
  | recording (sessionId : Id) (part : Part)
  | finalizer (sessionId lease : Id) (claimed : Session) (point : FinalizerPoint)
  | ender (sessionId : Id) (owner : LeaseOwner) (claimed : Session) (status : TerminalStatus)
      (point : EnderPoint)
  deriving DecidableEq

structure Machine where
  db : State
  uploads : List Upload
  calls : List Call
  deriving DecidableEq

def Machine.on (m : Machine) (input : Input) : Machine := { m with db := step m.db input }

/-- An operation of the store on one key. -/
def Machine.remote (m : Machine) (key : Option Id) (operation : Upload → Option Upload) :
    Option Machine := do
  let id ← key
  let r ← m.uploads[id]?
  let r' ← operation r
  return { m with uploads := m.uploads.set id r' }

def Machine.owns (m : Machine) (owner : LeaseOwner) (sessionId : Id) : Bool :=
  m.db.sessions[sessionId]?.any (·.leaseOwner == some owner)

/-- What a step of a call learns from its surroundings: the clock, the entity tag of the object, and
what is wrong with the video, if anything is. -/
structure Answer where
  now : Int
  etag : String
  invalid : Option String
  deriving DecidableEq

def retryDelaysMs : List Int := [60000, 300000, 900000]

def retryDelayMs (retryCount : Nat) : Int :=
  retryDelaysMs.getD (min retryCount (retryDelaysMs.length - 1)) 0

/-- The next step of a finalizer, and where it is then. A step that throws has no result. -/
def finalize (m : Machine) (sessionId lease : Id) (claimed : Session) (answer : Answer) :
    FinalizerPoint → Option (Machine × Option FinalizerPoint)
  | .queued =>
    if m.owns (.finalizer lease) sessionId then
      some (m.on (.advanceClaimed lease sessionId .ossCompleting), some .completing)
    else some (m, none)
  | .completing =>
    (m.remote claimed.ossUploadId (completeFieldVideoMultipart
      (claimed.parts.mergeSort (·.partNumber ≤ ·.partNumber)) claimed.sizeBytes)).map
        fun m' => (m', some .merged)
  | .merged =>
    if m.owns (.finalizer lease) sessionId then
      some (m.on (.advanceClaimed lease sessionId (.objectReady answer.now answer.etag)), some .ready)
    else some (m, none)
  | .ready =>
    if m.owns (.finalizer lease) sessionId then
      some (m.on (.advanceClaimed lease sessionId .processing), some .processing)
    else some (m, none)
  | .processing =>
    if (claimed.objectKey.bind (m.uploads[·]?)).any (·.object.isSome) then
      match answer.invalid with
      | some code => some (m, some (.rejecting code))
      | none => some (m, some .attaching)
    else none
  | .attaching =>
    if m.db.sessions[sessionId]?.any fun u =>
        u.leaseOwner == some (.finalizer lease) && u.status == .processing then
      some (m.on (.attachPreparedFieldVideo lease sessionId answer.now), none)
    else none
  | .rejecting code =>
    (m.remote claimed.objectKey deleteFieldVideoUploadSource).map fun m' =>
      (m', some (.rejected code))
  | .rejected code =>
    some (m.on (.markTerminal (.finalizer lease) sessionId .validationFailed (some code) answer.now),
      none)
  | .failing stage code =>
    some (m.on (.markRetryableFailure lease sessionId stage code
      (answer.now + retryDelayMs claimed.retryCount)), none)

/-- Where a finalizer goes when its step throws. -/
def FinalizerPoint.thrown : FinalizerPoint → Option FinalizerPoint
  | .queued => none
  | .completing => some (.failing .ossCompleting "VIDEO_UPLOAD_OSS_COMPLETE_FAILED")
  | .merged => some (.failing .ossCompleting "VIDEO_UPLOAD_OSS_COMPLETE_FAILED")
  | .ready => none
  | .processing => some (.failing .processing "VIDEO_UPLOAD_PROCESSING_FAILED")
  | .attaching => some (.failing .processing "VIDEO_UPLOAD_PROCESSING_FAILED")
  | .rejecting _ => some (.failing .processing "VIDEO_UPLOAD_VALIDATION_CLEANUP_FAILED")
  | .rejected _ => some (.failing .processing "VIDEO_UPLOAD_VALIDATION_CLEANUP_FAILED")
  | .failing _ _ => none

/-- The code with which a session ends that is cancelled or expires. -/
def TerminalStatus.code : TerminalStatus → Option String
  | .expired => some "VIDEO_UPLOAD_EXPIRED"
  | _ => none

/-- The next step of a cancellation or an expiry. A cancellation that has lost its lease throws after
it has marked nothing. -/
def endSession (m : Machine) (sessionId : Id) (owner : LeaseOwner) (claimed : Session)
    (status : TerminalStatus) (answer : Answer) : EnderPoint → Option (Machine × Option EnderPoint)
  | .aborting =>
    let next : EnderPoint :=
      if claimed.objectCompletedAt.isSome && claimed.objectKey.isSome then .removing else .marking
    if claimed.ossUploadId.isSome && claimed.objectKey.isSome then
      (m.remote claimed.ossUploadId abortFieldVideoMultipart).map fun m' => (m', some next)
    else some (m, some next)
  | .removing =>
    (m.remote claimed.objectKey deleteFieldVideoUploadSource).map fun m' => (m', some .marking)
  | .marking =>
    if m.owns owner sessionId then
      some (m.on (.markTerminal owner sessionId status status.code answer.now), none)
    else if status = .cancelled then none
    else some (m, none)
  | .releasing => some (m.on (.releaseLease owner sessionId), none)

def EnderPoint.thrown : EnderPoint → Option EnderPoint
  | .aborting => some .releasing
  | .removing => some .releasing
  | .marking => some .releasing
  | .releasing => none

/-- The next step of a call, and what is left of the call. -/
def Call.run (m : Machine) (answer : Answer) : Call → Option (Machine × Option Call)
  | .discarding upload => (m.remote (some upload) abortFieldVideoMultipart).map fun m' => (m', none)
  | .storing sessionId upload part =>
    (m.remote (some upload) (uploadFieldVideoPart part)).map fun m' =>
      (m', some (.recording sessionId part))
  | .recording sessionId part => some (m.on (.recordPart sessionId part answer.now), none)
  | .finalizer sessionId lease claimed point =>
    (finalize m sessionId lease claimed answer point).map fun (m', next) =>
      (m', next.map (.finalizer sessionId lease claimed))
  | .ender sessionId owner claimed status point =>
    (endSession m sessionId owner claimed status answer point).map fun (m', next) =>
      (m', next.map (.ender sessionId owner claimed status))

def Call.thrown : Call → Option Call
  | .finalizer sessionId lease claimed point =>
    point.thrown.map (.finalizer sessionId lease claimed)
  | .ender sessionId owner claimed status point =>
    point.thrown.map (.ender sessionId owner claimed status)
  | _ => none

/-! ## Requests -/

/-- `Math.ceil(sizeBytes / FIELD_VIDEO_CHUNK_SIZE_BYTES)`. -/
def totalPartsOf (sizeBytes : Nat) : Nat :=
  (sizeBytes + fieldVideoChunkSizeBytes - 1) / fieldVideoChunkSizeBytes

/-- A request that has seen no live session of the item: a multipart upload is begun, and the
transaction reads. If it finds a session after all, or refuses, the upload is discarded. -/
def create (m : Machine) (evidenceItemId : Id) (fingerprintHash : String) (sizeBytes : Nat)
    (now : Int) : Machine :=
  let upload := m.uploads.length
  let input : CreateInput :=
    { evidenceItemId := evidenceItemId
      fingerprintHash := fingerprintHash
      objectKey := upload
      ossUploadId := upload
      sizeBytes := sizeBytes
      totalParts := totalPartsOf sizeBytes }
  let begun : Machine := { m with uploads := m.uploads ++ [newUpload] }
  match createOrResume m.db input now with
  | some (.create _ _) => begun.on (.createOrResume input now)
  | _ => { begun.on (.createOrResume input now) with calls := m.calls ++ [.discarding upload] }

/-- A request that has seen a live session of the item. If the session has ended by now, the insert
would bear its identifier and is refused. -/
def resume (m : Machine) (input : CreateInput) (now : Int) : Machine :=
  if (m.db.findLive input.evidenceItemId).isSome then m.on (.createOrResume input now) else m

/-- A request with a part that is not recorded yet. `part.ossEtag` is what the store will answer. -/
def uploadPart (m : Machine) (sessionId : Id) (part : Part) : Machine :=
  match m.db.sessions[sessionId]? with
  | none => m
  | some u =>
    match u.ossUploadId with
    | none => m
    | some upload =>
      if u.status == .uploading && u.assertPartMetadata part.partNumber part.sizeBytes &&
          !u.parts.any (·.partNumber == part.partNumber) then
        { m with calls := m.calls ++ [.storing sessionId upload part] }
      else m

def cancel (m : Machine) (sessionId : Id) (leaseMs now : Int) : Machine :=
  let owner := LeaseOwner.cancel m.db.nextLease
  let claimed := (m.db.sessions[sessionId]?.filter (·.cancellable now)).map
    (·.take owner (now + leaseMs))
  { m.on (.claimCancellation sessionId leaseMs now) with
    calls := m.calls ++ (claimed.map (.ender sessionId owner · .cancelled .aborting)).toList }

def claim (m : Machine) (candidates : List Id) (leaseMs now : Int) : Machine :=
  { m.on (.claimDue candidates leaseMs now) with
    calls := m.calls ++ (claimedSessions m.db candidates leaseMs now).filterMap
      fun (sessionId, claimed) =>
        (startPoint claimed.status).map (.finalizer sessionId m.db.nextLease claimed) }

def expire (m : Machine) (candidates : List Id) (leaseMs now : Int) : Machine :=
  let owner := LeaseOwner.expire m.db.nextLease
  { m.on (.expireDue candidates leaseMs now) with
    calls := m.calls ++ candidates.filterMap fun sessionId =>
      (m.db.sessions[sessionId]?.filter (·.overdue now)).map fun u =>
        .ender sessionId owner (u.take owner (now + leaseMs)) .expired .aborting }

/-- The upload of a session that is not created. -/
def Pending.discarded : Pending → Option Call
  | .create input _ => some (.discarding input.ossUploadId)
  | _ => none

/-- A transaction under way commits. A session that the database refuses leaves its upload behind. -/
def commit (m : Machine) (place : Nat) : Machine :=
  let m' := m.on (.commit place)
  if m'.db.sessions.length = m.db.sessions.length then
    { m' with calls := m.calls ++ (m.db.pending[place]?.bind Pending.discarded).toList }
  else m'

def rollback (m : Machine) (place : Nat) : Machine :=
  { m.on (.rollback place) with
    calls := m.calls ++ (m.db.pending[place]?.bind Pending.discarded).toList }

/-! ## The machine -/

inductive Event
  | create (evidenceItemId : Id) (fingerprintHash : String) (sizeBytes : Nat) (now : Int)
  | resume (input : CreateInput) (now : Int)
  | uploadPart (sessionId : Id) (part : Part)
  | complete (sessionId : Id)
  | retry (sessionId : Id) (now : Int)
  | cancel (sessionId : Id) (leaseMs now : Int)
  | claim (candidates : List Id) (leaseMs now : Int)
  | expire (candidates : List Id) (leaseMs now : Int)
  | commit (place : Nat)
  | rollback (place : Nat)
  /-- A call takes its next step. -/
  | next (place : Nat) (answer : Answer)
  /-- The step is done, but its answer is lost. -/
  | lost (place : Nat) (answer : Answer)
  /-- The operation of the step fails. -/
  | fail (place : Nat)
  | crash (place : Nat)
  deriving DecidableEq

/-- What is left of a call takes its place among the calls. -/
def Machine.goesOn (m : Machine) (place : Nat) (left : Option Call) : Machine :=
  { m with calls := m.calls.eraseIdx place ++ left.toList }

def Machine.step (m : Machine) : Event → Machine
  | .create evidenceItemId fingerprintHash sizeBytes now =>
    FieldVideo.create m evidenceItemId fingerprintHash sizeBytes now
  | .resume input now => FieldVideo.resume m input now
  | .uploadPart sessionId part => FieldVideo.uploadPart m sessionId part
  | .complete sessionId => m.on (.queueFinalization sessionId)
  | .retry sessionId now => m.on (.retryFailed sessionId now)
  | .cancel sessionId leaseMs now => FieldVideo.cancel m sessionId leaseMs now
  | .claim candidates leaseMs now => FieldVideo.claim m candidates leaseMs now
  | .expire candidates leaseMs now => FieldVideo.expire m candidates leaseMs now
  | .commit place => FieldVideo.commit m place
  | .rollback place => FieldVideo.rollback m place
  | .next place answer =>
    match m.calls[place]? with
    | none => m
    | some call =>
      match call.run m answer with
      | some (m', left) => m'.goesOn place left
      | none => m.goesOn place call.thrown
  | .lost place answer =>
    match m.calls[place]? with
    | none => m
    | some call =>
      match call.run m answer with
      | some (m', _) => m'.goesOn place call.thrown
      | none => m.goesOn place call.thrown
  | .fail place => m.goesOn place (m.calls[place]?.bind Call.thrown)
  | .crash place => m.goesOn place none

def Machine.initial : Machine := ⟨FieldVideo.initial, [], []⟩

/-- The machine after the events. -/
def Machine.after (events : List Event) : Machine :=
  Runs.runs Machine.step Machine.initial events

/-! ## What a live session needs -/

/-- The stage of a session: that at which it was left, if it has failed. -/
def Session.stage (u : Session) : UploadStatus :=
  if u.status = .retryableFailed then u.resumeStage.getD .finalizeQueued else u.status

/-- The multipart upload is there and has the recorded parts. -/
def Upload.holds (r : Upload) (parts : List Part) : Bool :=
  r.multipart.any fun stored => parts.all fun p => partAt stored p.partNumber == some p

/-- The object is there and was put together of the recorded parts. -/
def Upload.merged (r : Upload) (parts : List Part) : Bool :=
  r.object.any fun object => object.isPerm parts

/-- The store has what the stage of the session needs. -/
def Upload.serves (r : Upload) (u : Session) : Bool :=
  match u.stage with
  | .uploading | .finalizeQueued => r.holds u.parts
  | .ossCompleting => r.holds u.parts || r.merged u.parts
  | _ => r.merged u.parts

def Session.usable (uploads : List Upload) (u : Session) : Bool :=
  (u.ossUploadId.bind (uploads[·]?)).any (·.serves u)

/-- Every live session can be finished. -/
def Machine.Finishable (m : Machine) : Prop :=
  ∀ u ∈ m.db.sessions, u.live = true → u.usable m.uploads = true

instance (m : Machine) : Decidable m.Finishable := List.decidableBAll _ _

/-! ## Steps that destroy what is needed -/

/-- The multipart upload is not completed and not aborted. -/
def Machine.isOpen (m : Machine) (key : Option Id) : Bool :=
  (key.bind (m.uploads[·]?)).any (·.multipart.isSome)

def Machine.hasObject (m : Machine) (key : Option Id) : Bool :=
  (key.bind (m.uploads[·]?)).any (·.object.isSome)

/-- The session is live. -/
def Machine.isLive (m : Machine) (sessionId : Id) : Bool := m.db.sessions[sessionId]?.any (·.live)

/-- Another content is recorded for this part of the session. -/
def Machine.otherRecorded (m : Machine) (sessionId : Id) (part : Part) : Bool :=
  m.db.sessions[sessionId]?.any fun u =>
    u.parts.any fun p => p.partNumber == part.partNumber && p != part

/-- The step of the call leaves a live session what it needs: it does not abort an open multipart
upload, delete an object or replace a recorded part while the session is live. -/
def Call.harmless (m : Machine) : Call → Bool
  | .storing sessionId upload part =>
    !(m.isLive sessionId && m.isOpen (some upload) && m.otherRecorded sessionId part)
  | .finalizer sessionId _ claimed (.rejecting _) =>
    !(m.isLive sessionId && m.hasObject claimed.objectKey)
  | .ender sessionId _ claimed _ .aborting =>
    !(m.isLive sessionId && m.isOpen claimed.ossUploadId)
  | .ender sessionId _ claimed _ .removing =>
    !(m.isLive sessionId && m.hasObject claimed.objectKey)
  | _ => true

/-- The part that is recorded is still the one in the store, unless the record is refused or comes too
late. -/
def Pending.harmless (m : Machine) : Pending → Bool
  | .part sessionId recorded _ =>
    !recorded.shapeOk || m.db.sessions[sessionId]?.all fun u =>
      !u.live || u.parts.any (·.partNumber == recorded.partNumber) ||
        (u.ossUploadId.bind (m.uploads[·]?)).any fun r =>
          r.multipart.any fun stored => partAt stored recorded.partNumber == some recorded
  | _ => true

def Machine.Harmless (m : Machine) : Event → Prop
  | .next place _ => m.calls[place]?.all (·.harmless m)
  | .lost place _ => m.calls[place]?.all (·.harmless m)
  | .commit place => m.db.pending[place]?.all (·.harmless m)
  | _ => True

end SubscriptionSaas.FieldVideo
