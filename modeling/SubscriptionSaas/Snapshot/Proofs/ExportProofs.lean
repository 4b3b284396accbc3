import SubscriptionSaas.Snapshot.ExportSanitized

/-!
# The export of a sanitized snapshot: proofs

Up to the bundle nothing is closed or destroyed (`Quiet`), so that the cleaning up begins in one of few
ways (`Ending`). What it does then depends on the responses to its two calls.
-/

namespace SubscriptionSaas.Snapshot

open Calls Results

variable {P : Platform} {E : Env} {input : Preparation}

/-! ## Up to the bundle -/

/-- The variables are these, and only calls with the property have been made. -/
def Calling (vars : Flags) (p : Call → Prop) (f : Frame Call Value Flags) : Prop :=
  f.vars = vars ∧ ∀ e ∈ f.calls, p e.1

theorem Calling.log {vars : Flags} {p : Call → Prop} {c : Call} (hc : p c)
    (f : Frame Call Value Flags) (hf : Calling vars p f) (r : Response Value) :
    Calling vars p { f with calls := f.calls ++ [(c, r)] } := by
  refine ⟨hf.1, fun e he => ?_⟩
  rcases List.mem_append.1 he with he | he
  · exact hf.2 e he
  · rw [List.mem_singleton.1 he]
    exact hc

variable {vars : Flags} {p : Call → Prop}

theorem keeps_callNow (hnow : p .now) : Procedure.Keeps (Calling vars p) (callNow E) := by
  refine .bind (Run.keeps_call (Calling.log hnow)) fun response => ?_
  cases response with
  | resolves value => exact .pure _
  | rejects error => exact .pure _
  | returns value => exact .pure _
  | throws error => exact .throw _

theorem keeps_orSystemClock (hclock : p .systemClock) (value : Value) :
    Procedure.Keeps (Calling vars p) (orSystemClock E value) := by
  cases value with
  | undefined =>
    refine .bind (Run.keeps_call (Calling.log hclock)) fun response => ?_
    cases response with
    | resolves value => exact .pure _
    | rejects error => exact .pure _
    | returns value => exact .pure _
    | throws error => exact .pure _
  | _ => exact .pure _

/-- The calls that neither close the source nor destroy the workspace. -/
def Quiet (c : Call) : Prop := c.cleans = false

theorem keeps_clock : Procedure.Keeps (Calling vars Quiet) (clock E) :=
  .bind (keeps_callNow rfl) (keeps_orSystemClock rfl)

theorem keeps_assertReadOnlySnapshotSource {source : Source} {secretReference : Option String}
    {ownershipMap : OwnershipMap} {now : Value} :
    Procedure.Keeps (Calling vars Quiet)
      (assertReadOnlySnapshotSource P E source secretReference ownershipMap now) := by
  refine .bind (.require _ _) fun _ => .bind (.lift _) fun _ => .bind (Run.keeps_await (Calling.log rfl)) fun _ =>
    .bind (.lift _) fun _ => .bind (.require _ _) fun _ => ?_
  split
  · exact .throw _
  · exact .lift _

theorem keeps_fingerprintSourceSnapshot {source : Source} {snapshotId : String}
    {keyTables : List String} {now : Value} :
    Procedure.Keeps (Calling vars Quiet) (fingerprintSourceSnapshot P E source snapshotId keyTables now) :=
  .bind (.lift _) fun _ => .bind (.require _ _) fun _ => .bind (Run.keeps_await (Calling.log rfl)) fun _ => .lift _

theorem keeps_expand {workspace : Workspace} {archive : List UInt8} :
    Procedure.Keeps (Calling vars Quiet) (expand P E workspace archive) := by
  rw [expand]
  split
  · exact Run.keeps_await (Calling.log rfl)
  · exact .pure _

theorem keeps_scanDump {dump : List UInt8} : Procedure.Keeps (Calling vars Quiet) (scanDump P E input dump) := by
  rw [scanDump]
  split
  · exact .bind keeps_expand fun _ => .bind keeps_clock fun _ => .lift _
  · exact .bind keeps_clock fun _ => .lift _

theorem keeps_sanitize {observedAt created : Int} :
    Procedure.Keeps (Calling vars Quiet) (sanitize P E input observedAt created) := by
  refine .bind keeps_assertReadOnlySnapshotSource fun observation => ?_
  refine .bind (Run.keeps_await (Calling.log rfl)) fun snapshot => .bind (.lift _) fun snapshotId => ?_
  refine .bind keeps_clock fun _ => .bind keeps_fingerprintSourceSnapshot fun before => ?_
  refine .bind (Run.keeps_await (Calling.log rfl)) fun exported => .bind (.lift _) fun raw => ?_
  refine .bind (Run.keeps_await (Calling.log rfl)) fun _ => .bind (Run.keeps_await (Calling.log rfl)) fun _ => ?_
  refine .bind (Run.keeps_await (Calling.log rfl)) fun sanitized => .bind (.lift _) fun dump => ?_
  refine .bind keeps_scanDump fun scan => ?_
  refine .bind keeps_clock fun _ => .bind keeps_fingerprintSourceSnapshot fun after => ?_
  refine .bind (.lift _) fun _ => .bind (.lift _) fun _ => .bind (.require _ _) fun _ => ?_
  refine .bind (.lift _) fun metadata => .bind keeps_clock fun _ => .bind (.lift _) fun _ => ?_
  exact .pure _

/-! ## The bundle -/

/-- What holds of a bundle before anything has been cleaned up. -/
structure Made (P : Platform) (input : Preparation) (bundle : Bundle) : Prop where
  fingerprints : ∃ digest,
    sha256Canonical P bundle.fingerprintObservationBefore.identity.toValue = .ok digest ∧
      sha256Canonical P bundle.fingerprintObservation.identity.toValue = .ok digest
  scanned : ∃ scannedAt,
    scanSanitizedArtifact P bundle.dump input.contract scannedAt = .ok bundle.scan ∨
      ∃ expansion, scanSanitizedArchive P bundle.dump expansion input.contract scannedAt = .ok bundle.scan
  verified : ∃ now, verifySnapshotMetadata P bundle.metadata input.contract input.ownershipMap bundle.scan
    bundle.dump now = .ok ()

theorem scanDump_ok {dump : List UInt8} {scan : Scan} {f f' : Frame Call Value Flags}
    (h : scanDump P E input dump f = (.ok scan, f')) :
    ∃ scannedAt, scanSanitizedArtifact P dump input.contract scannedAt = .ok scan ∨
      ∃ expansion, scanSanitizedArchive P dump expansion input.contract scannedAt = .ok scan := by
  rw [scanDump] at h
  split at h
  · obtain ⟨expansion, f₁, -, h⟩ := Procedure.bind_ok h
    obtain ⟨scannedAt, f₂, -, h⟩ := Procedure.bind_ok h
    exact ⟨scannedAt, .inr ⟨expansion, (Procedure.lift_ok h).1⟩⟩
  · obtain ⟨scannedAt, f₂, -, h⟩ := Procedure.bind_ok h
    exact ⟨scannedAt, .inl (Procedure.lift_ok h).1⟩

theorem sanitize_ok {observedAt created : Int} {bundle : Bundle} {f f' : Frame Call Value Flags}
    (h : sanitize P E input observedAt created f = (.ok bundle, f')) : Made P input bundle := by
  rw [sanitize] at h
  obtain ⟨observation, _, -, h⟩ := Procedure.bind_ok h
  obtain ⟨snapshot, _, -, h⟩ := Procedure.bind_ok h
  obtain ⟨snapshotId, _, -, h⟩ := Procedure.bind_ok h
  obtain ⟨_, _, -, h⟩ := Procedure.bind_ok h
  obtain ⟨before, _, -, h⟩ := Procedure.bind_ok h
  obtain ⟨exported, _, -, h⟩ := Procedure.bind_ok h
  obtain ⟨raw, _, -, h⟩ := Procedure.bind_ok h
  obtain ⟨_, _, -, h⟩ := Procedure.bind_ok h
  obtain ⟨_, _, -, h⟩ := Procedure.bind_ok h
  obtain ⟨sanitized, _, -, h⟩ := Procedure.bind_ok h
  obtain ⟨dump, _, -, h⟩ := Procedure.bind_ok h
  obtain ⟨scan, _, hscan, h⟩ := Procedure.bind_ok h
  obtain ⟨_, _, -, h⟩ := Procedure.bind_ok h
  obtain ⟨after, _, -, h⟩ := Procedure.bind_ok h
  obtain ⟨beforeDigest, _, hbefore, h⟩ := Procedure.bind_ok h
  obtain ⟨afterDigest, _, hafter, h⟩ := Procedure.bind_ok h
  obtain ⟨_, _, hsame, h⟩ := Procedure.bind_ok h
  obtain ⟨metadata, _, -, h⟩ := Procedure.bind_ok h
  obtain ⟨now, _, -, h⟩ := Procedure.bind_ok h
  obtain ⟨_, _, hverified, h⟩ := Procedure.bind_ok h
  obtain ⟨rfl, -⟩ := Procedure.pure_ok h
  have hdigest : beforeDigest = afterDigest := eq_of_beq (Procedure.require_ok hsame).1
  refine ⟨⟨afterDigest, ?_, (Procedure.lift_ok hafter).1⟩, scanDump_ok hscan, now, (Procedure.lift_ok hverified).1⟩
  rw [← hdigest]
  exact (Procedure.lift_ok hbefore).1

/-- The metadata that pass at one time pass at every time of their lifetime. -/
theorem verified_at {metadata : SnapshotMetadata} {contract : SanitizationContract}
    {ownershipMap : OwnershipMap} {scan : Scan} {dump : List UInt8} {now : Value} {time : Int}
    (h : verifySnapshotMetadata P metadata contract ownershipMap scan dump now = .ok ())
    (hcreated : isAfter (P.dateParse metadata.createdAt) (some time) = false)
    (hexpires : notAfter (P.dateParse metadata.expiresAt) (some time) = false) :
    verifySnapshotMetadata P metadata contract ownershipMap scan dump (.date (some time)) = .ok () := by
  rw [verifySnapshotMetadata, verifySnapshotMetadataFields] at h ⊢
  obtain ⟨u, hsemantics, h⟩ := bind_ok h
  obtain ⟨u', hschema, h⟩ := bind_ok h
  obtain ⟨now, -, h⟩ := bind_ok h
  obtain ⟨u'', hlifetime, h⟩ := bind_ok h
  rw [assertLifetime, require_bind] at hlifetime
  have horder := require_ok hlifetime.2
  rw [Bool.not_eq_true', Bool.or_eq_false_iff, Bool.or_eq_false_iff] at horder
  have hlives : assertLifetime P metadata time = .ok () := by
    rw [assertLifetime, hexpires, hcreated, horder.1.2, horder.2]
    rfl
  have htime : assertTimestamp (.date (some time)) = .ok time := rfl
  rw [bind_eq hsemantics, bind_eq hschema, bind_eq htime, bind_eq hlives]
  exact h

/-! ## Cleaning up -/

/-- The log with one more call. -/
def logged (E : Env) (log : Log) (c : Call) : Log := log ++ [(c, E log c)]

/-- What remains to be said of a result and the frame with it. -/
theorem bind_ending {α β : Type} {motive : Except Value β → Frame Call Value Flags → Prop}
    {x : Export α} {g : α → Export β} {f : Frame Call Value Flags}
    (herror : ∀ e f', x f = (.error e, f') → motive (.error e) f')
    (hok : ∀ a f', x f = (.ok a, f') → motive (g a f').1 (g a f').2) :
    motive ((x >>= g) f).1 ((x >>= g) f).2 := by
  rw [Procedure.bind_apply]
  cases hx : x f with
  | mk r f' =>
    cases r with
    | error e => exact herror e f' hx
    | ok a => exact hok a f' hx

/-- The ways in which what is tried can end. -/
inductive Ending (P : Platform) (E : Env) (input : Preparation) :
    Except Value Bundle → Frame Call Value Flags → Prop
  | unobserved {error : Value} {f : Frame Call Value Flags}
      (h : Calling {} (fun c => c.cleans = false ∧ c.observes = false) f) :
      Ending P E input (.error error) f
  | quiet {error : Value} {f : Frame Call Value Flags} (h : Calling ⟨true, false⟩ Quiet f) :
      Ending P E input (.error error) f
  | closeFailed {error : Value} {log : Log} (h : ∀ e ∈ log, Quiet e.1)
      (hfails : (E log .closeSnapshot).fails = true)
      (hcode : hasCode "SNAPSHOT_SECURE_CLEANUP_FAILED" error = true) :
      Ending P E input (.error error) ⟨logged E log .closeSnapshot, true, false⟩
  | destroyFailed {error : Value} {log : Log} (h : ∀ e ∈ log, Quiet e.1)
      (hcloses : (E log .closeSnapshot).fails = false)
      (hfails : (E (logged E log .closeSnapshot) .destroy).fails = true)
      (hcode : hasCode "SNAPSHOT_SECURE_CLEANUP_FAILED" error = true) :
      Ending P E input (.error error)
        ⟨logged E (logged E log .closeSnapshot) .destroy, false, false⟩
  | done {bundle : Bundle} {log : Log} (h : ∀ e ∈ log, Quiet e.1) (hmade : Made P input bundle)
      (hcloses : (E log .closeSnapshot).fails = false)
      (hdestroys : (E (logged E log .closeSnapshot) .destroy).fails = false) :
      Ending P E input (.ok bundle) ⟨logged E (logged E log .closeSnapshot) .destroy, false, true⟩

theorem await_apply (c : Call) (f : Frame Call Value Flags) :
    (Run.await E c : Export Value) f = ((E f.calls c).awaited, ⟨logged E f.calls c, f.vars⟩) := by
  rfl

theorem awaited_cases (r : Response Value) :
    (∃ v, r.awaited = .ok v ∧ r.fails = false) ∨ ∃ e, r.awaited = .error e ∧ r.fails = true := by
  cases r with
  | resolves v => exact .inl ⟨v, rfl, rfl⟩
  | rejects e => exact .inr ⟨e, rfl, rfl⟩
  | returns v => exact .inl ⟨v, rfl, rfl⟩
  | throws e => exact .inr ⟨e, rfl, rfl⟩

theorem closeAndDestroy_ending {bundle : Bundle} {log : Log} (h : ∀ e ∈ log, Quiet e.1)
    (hmade : Made P input bundle) :
    Ending P E input ((closeAndDestroy E >>= fun _ => (pure bundle : Export Bundle)) ⟨log, true, false⟩).1
      ((closeAndDestroy E >>= fun _ => (pure bundle : Export Bundle)) ⟨log, true, false⟩).2 := by
  rw [Procedure.bind_apply, closeAndDestroy, Procedure.rethrow]
  rw [Procedure.bind_apply, await_apply]
  rcases awaited_cases (E log .closeSnapshot) with ⟨v, hclose, hcloses⟩ | ⟨e, hclose, hfails⟩
  · rw [hclose]
    simp only [Procedure.bind_apply, Run.setVars, Procedure.assign, await_apply]
    rcases awaited_cases (E (logged E log .closeSnapshot) .destroy) with
      ⟨v', hdestroy, hdestroys⟩ | ⟨e, hdestroy, hfails⟩
    · rw [hdestroy]
      exact .done h hmade hcloses hdestroys
    · rw [hdestroy]
      exact .destroyFailed h hcloses hfails rfl
  · rw [hclose]
    exact .closeFailed h hfails rfl

theorem attempt_ending :
    Ending P E input (attempt P E input ⟨[], {}⟩).1 (attempt P E input ⟨[], {}⟩).2 := by
  have hstart : Calling {} (fun c => c.cleans = false ∧ c.observes = false)
      (⟨[], {}⟩ : Frame Call Value Flags) := ⟨rfl, nofun⟩
  refine bind_ending (motive := Ending P E input) (fun e f hnow => ?_) fun now f hnow => ?_
  · have hkept := keeps_callNow (E := E) ⟨rfl, rfl⟩ _ hstart
    rw [hnow] at hkept
    exact .unobserved hkept
  have hkept := keeps_callNow (E := E) ⟨rfl, rfl⟩ _ hstart
  rw [hnow] at hkept
  refine bind_ending (motive := Ending P E input) (fun e f' h => ?_) fun observedAt f' h => ?_
  · obtain rfl := Procedure.lift_state h
    exact .unobserved hkept
  obtain rfl := Procedure.lift_state h
  refine bind_ending (motive := Ending P E input) (fun e f₁ h => ?_) fun created f₁ h => ?_
  · obtain rfl := Procedure.lift_state h
    exact .unobserved hkept
  obtain rfl := Procedure.lift_state h
  have hquiet : Calling ⟨true, false⟩ Quiet
      ({ f₁ with vars := { f₁.vars with sourceNeedsClose := true } } : Frame Call Value Flags) := by
    refine ⟨?_, fun e he => (hkept.2 e he).1⟩
    rw [hkept.1]
  refine bind_ending (motive := Ending P E input) (fun e f₂ h => ?_) fun _ f₂ h => ?_
  · cases h
  obtain rfl : { f₁ with vars := { f₁.vars with sourceNeedsClose := true } } = f₂ := by
    cases h
    rfl
  refine bind_ending (motive := Ending P E input) (fun e f₂ h => ?_) fun bundle f₂ h => ?_
  · have hkept : Calling ⟨true, false⟩ Quiet (sanitize P E input observedAt created _).2 :=
      keeps_sanitize _ hquiet
    rw [h] at hkept
    exact .quiet hkept
  · have hkept : Calling ⟨true, false⟩ Quiet (sanitize P E input observedAt created _).2 :=
      keeps_sanitize _ hquiet
    rw [h] at hkept
    obtain ⟨log, vars⟩ := f₂
    obtain ⟨rfl, hlog⟩ := hkept
    exact closeAndDestroy_ending hlog (sanitize_ok h)

/-! ## The last part -/

theorem mem_logged {log : Log} {c : Call} {e : Call × Response Value} :
    e ∈ logged E log c ↔ e ∈ log ∨ e = (c, E log c) := by
  rw [logged, List.mem_append, List.mem_singleton]

theorem attempted_logged {log : Log} {c c' : Call} :
    Attempted c (logged E log c') ↔ Attempted c log ∨ c' = c := by
  simp only [Attempted, mem_logged]
  constructor
  · rintro ⟨e, he | rfl, hc⟩
    · exact .inl ⟨e, he, hc⟩
    · exact .inr hc
  · rintro (⟨e, he, hc⟩ | rfl)
    · exact ⟨e, .inl he, hc⟩
    · exact ⟨_, .inr rfl, rfl⟩

theorem observed_logged {log : Log} {c : Call} (hc : c.observes = false) :
    Observed (logged E log c) ↔ Observed log := by
  simp only [Observed, mem_logged]
  constructor
  · rintro ⟨e, he | rfl, h⟩
    · exact ⟨e, he, h⟩
    · rw [hc] at h
      cases h
  · rintro ⟨e, he, h⟩
    exact ⟨e, .inl he, h⟩

theorem cleanupFailed_logged {log : Log} {c : Call} (hc : c.cleans = true) :
    CleanupFailed (logged E log c) ↔ CleanupFailed log ∨ (E log c).fails = true := by
  simp only [CleanupFailed, mem_logged]
  constructor
  · rintro ⟨e, he | rfl, h⟩
    · exact .inl ⟨e, he, h⟩
    · exact .inr h.2
  · rintro (⟨e, he, h⟩ | h)
    · exact ⟨e, .inl he, h⟩
    · exact ⟨_, .inr rfl, hc, h⟩

theorem quiet_log {log : Log} (h : ∀ e ∈ log, Quiet e.1) :
    ¬CleanupFailed log ∧ ¬Attempted .destroy log := by
  constructor
  · rintro ⟨e, he, hcleans, -⟩
    rw [h e he] at hcleans
    cases hcleans
  · rintro ⟨e, he, hc⟩
    have hquiet := h e he
    rw [hc] at hquiet
    cases hquiet

/-- The result in which the cleaning up has been reported. -/
def Reported (result : Except Value Bundle) : Prop :=
  ∃ error, result = .error error ∧ hasCode "SNAPSHOT_SECURE_CLEANUP_FAILED" error = true

/-- The result that the handler of errors leaves. -/
def handled : Except Value Bundle → Except Value Bundle
  | .ok bundle => .ok bundle
  | .error error => .error (rewrap error)

theorem handled_reported {result : Except Value Bundle} (h : Reported result) :
    Reported (handled result) := by
  obtain ⟨error, rfl, hcode⟩ := h
  refine ⟨rewrap error, rfl, ?_⟩
  have hkept : rewrap error = error := by
    rw [hasCode, Value.isText, beq_iff_eq] at hcode
    rw [rewrap]
    cases hc : codeOf error with
    | string code =>
      rw [hc] at hcode
      obtain rfl := Option.some.inj hcode
      rfl
    | _ =>
      rw [hc] at hcode
      cases hcode
  rwa [hkept]

/-- The result after the workspace has been asked to be destroyed. -/
def destroyed (result : Except Value Bundle) (closeFailed : Bool) (r : Response Value) :
    Except Value Bundle :=
  match caught r with
  | .error error => .error error
  | .ok destroyFailed =>
    if closeFailed || destroyFailed then .error (snapshotError "SNAPSHOT_SECURE_CLEANUP_FAILED")
    else handled result

/-- What is reported of the cleaning up depends on the last response. -/
theorem destroyed_reported {result : Except Value Bundle} {closeFailed : Bool} {log : Log}
    (h : closeFailed = false → CleanupFailed log → Reported result) :
    (CleanupFailed (logged E log .destroy) → Reported (destroyed result closeFailed (E log .destroy))) ↔
      Tolerable log (E log .destroy) := by
  rw [cleanupFailed_logged rfl]
  cases E log .destroy with
  | resolves v =>
    refine iff_of_true (fun hfailed => ?_) trivial
    have hfailed : CleanupFailed log := hfailed.resolve_right nofun
    cases closeFailed with
    | true => exact ⟨_, rfl, rfl⟩
    | false => exact handled_reported (h rfl hfailed)
  | rejects e =>
    refine iff_of_true (fun _ => ?_) trivial
    cases closeFailed with
    | true => exact ⟨_, rfl, rfl⟩
    | false => exact ⟨_, rfl, rfl⟩
  | returns v =>
    constructor
    · intro hreported hfailed
      obtain ⟨error, herror, hcode⟩ := hreported (.inl hfailed)
      cases herror
      cases hcode
    · rintro hclean (hfailed | hfailed)
      · exact absurd hfailed hclean
      · cases hfailed
  | throws e =>
    constructor
    · intro hreported
      obtain ⟨error, herror, hcode⟩ := hreported (.inr rfl)
      cases herror
      exact hcode
    · exact fun hcode _ => ⟨e, rfl, hcode⟩

/-! ## The export -/

/-- The result and the frame of a run whose last part begins at a frame. -/
def finished (E : Env) (result : Except Value Bundle) (f : Frame Call Value Flags) :
    Except Value Bundle × Frame Call Value Flags :=
  match cleanUp E f with
  | (.ok _, f') => (handled result, f')
  | (.error error, f') => (.error error, f')

theorem prepared_eq (h : assertInput P input = .ok ()) :
    prepared P E input = finished E (attempt P E input ⟨[], {}⟩).1 (attempt P E input ⟨[], {}⟩).2 := by
  have hbind : prepared P E input =
      Procedure.finallyDo (Procedure.rethrow (attempt P E input) rewrap) (cleanUp E) ⟨[], {}⟩ := by
    rw [prepared, prepareSanitizedSnapshotBundle, Procedure.bind_apply, Procedure.lift, h]
  have hrethrow : Procedure.rethrow (attempt P E input) rewrap ⟨[], {}⟩ =
      (handled (attempt P E input ⟨[], {}⟩).1, (attempt P E input ⟨[], {}⟩).2) := by
    rw [Procedure.rethrow]
    cases attempt P E input ⟨[], {}⟩ with
    | mk result f =>
      cases result with
      | error e => rfl
      | ok bundle => rfl
  rw [hbind, Procedure.finallyDo, hrethrow, finished]
  dsimp only
  cases cleanUp E (attempt P E input ⟨[], {}⟩).2 with
  | mk last f' =>
    cases last with
    | error e => rfl
    | ok u => rfl

theorem catchingIf_true (c : Call) (f : Frame Call Value Flags) :
    catchingIf true E c f = (caught (E f.calls c), ⟨logged E f.calls c, f.vars⟩) := rfl

theorem catchingIf_false (c : Call) (f : Frame Call Value Flags) :
    catchingIf false E c f = (.ok false, f) := rfl

theorem finished_destroy {result : Except Value Bundle} {log : Log} :
    finished E result ⟨log, false, false⟩ =
      (destroyed result false (E log .destroy), ⟨logged E log .destroy, false, false⟩) := by
  rw [finished, cleanUp, Procedure.bind_apply, destroyed]
  simp only [Run.getVars, Procedure.bind_apply, Bool.not_false, catchingIf_true, catchingIf_false]
  cases caught (E log .destroy) with
  | error e => rfl
  | ok failed => cases failed <;> rfl

theorem finished_close {result : Except Value Bundle} {log : Log} :
    finished E result ⟨log, true, false⟩ =
      match caught (E log .closeSnapshot) with
      | .error error => (.error error, ⟨logged E log .closeSnapshot, true, false⟩)
      | .ok failed =>
        (destroyed result failed (E (logged E log .closeSnapshot) .destroy),
          ⟨logged E (logged E log .closeSnapshot) .destroy, true, false⟩) := by
  rw [finished, cleanUp, Procedure.bind_apply]
  simp only [Run.getVars, Procedure.bind_apply, Bool.not_false, catchingIf_true]
  cases caught (E log .closeSnapshot) with
  | error e => rfl
  | ok failed =>
    simp only [destroyed]
    cases caught (E (logged E log .closeSnapshot) .destroy) with
    | error e => rfl
    | ok failed' =>
      cases failed <;> cases failed' <;> rfl

theorem afterClose_close {log : Log} :
    afterClose E ⟨log, true, false⟩ = logged E log .closeSnapshot := rfl

theorem afterClose_destroy {log : Log} : afterClose E ⟨log, false, false⟩ = log := by
  rw [afterClose]
  exact List.append_nil log

/-- Of a result and a log, what `Secure` says apart from bundles. -/
def Cleaned (result : Except Value Bundle) (log : Log) : Prop :=
  (Observed log → Attempted .closeSnapshot log ∧ Attempted .destroy log) ∧
    (Observed log → CleanupFailed log → Reported result)

/-- Where closing the source is left to the last part. -/
theorem cleaned_close {error : Value} {log : Log} (hobserved : Observed log)
    (hnever : ¬Attempted .destroy log)
    (h : CleanupFailed log → Reported (.error error)) :
    Cleaned (finished E (.error error) ⟨log, true, false⟩).1
        (finished E (.error error) ⟨log, true, false⟩).2.calls ↔
      CleansUp E ⟨log, true, false⟩ := by
  have hno : ∀ {e : Value}, caught (E log .closeSnapshot) = .error e →
      (E log .closeSnapshot).isPromise = false →
      (Cleaned (finished E (.error error) ⟨log, true, false⟩).1
        (finished E (.error error) ⟨log, true, false⟩).2.calls ↔ CleansUp E ⟨log, true, false⟩) := by
    intro e hcaught hpromise
    rw [finished_close, hcaught]
    refine iff_of_false (fun hcleaned => ?_) fun hclean => ?_
    · have hdestroy := (hcleaned.1 ((observed_logged rfl).2 hobserved)).2
      rcases attempted_logged.1 hdestroy with hdestroy | hdestroy
      · exact hnever hdestroy
      · cases hdestroy
    · rw [hclean.close rfl] at hpromise
      cases hpromise
  have hyes : ∀ {failed : Bool}, caught (E log .closeSnapshot) = .ok failed →
      (E log .closeSnapshot).isPromise = true → (failed = (E log .closeSnapshot).fails) →
      (Cleaned (finished E (.error error) ⟨log, true, false⟩).1
        (finished E (.error error) ⟨log, true, false⟩).2.calls ↔ CleansUp E ⟨log, true, false⟩) := by
    intro failed hcaught hpromise hfailed
    rw [finished_close, hcaught]
    have hlast : failed = false → CleanupFailed (logged E log .closeSnapshot) →
        Reported (.error error) := by
      intro hok hcleanup
      rcases (cleanupFailed_logged rfl).1 hcleanup with hcleanup | hcleanup
      · exact h hcleanup
      · rw [← hfailed, hok] at hcleanup
        cases hcleanup
    have hobserved' : Observed (logged E (logged E log .closeSnapshot) .destroy) :=
      (observed_logged rfl).2 ((observed_logged rfl).2 hobserved)
    have hattempted : Attempted .closeSnapshot (logged E (logged E log .closeSnapshot) .destroy) ∧
        Attempted .destroy (logged E (logged E log .closeSnapshot) .destroy) :=
      ⟨attempted_logged.2 (.inl (attempted_logged.2 (.inr rfl))), attempted_logged.2 (.inr rfl)⟩
    have hreported := destroyed_reported (E := E) hlast
    constructor
    · intro hcleaned
      refine ⟨fun _ => hpromise, fun _ => ?_⟩
      rw [afterClose_close]
      exact hreported.1 (hcleaned.2 hobserved')
    · intro hclean
      have htolerable := hclean.destroy rfl
      rw [afterClose_close] at htolerable
      exact ⟨fun _ => hattempted, fun _ => hreported.2 htolerable⟩
  cases hr : E log .closeSnapshot with
  | resolves v =>
    rw [hr] at hyes
    exact hyes rfl rfl rfl
  | rejects e =>
    rw [hr] at hyes
    exact hyes rfl rfl rfl
  | returns v =>
    rw [hr] at hno
    exact hno rfl rfl
  | throws e =>
    rw [hr] at hno
    exact hno rfl rfl

/-- Where only destroying the workspace is. -/
theorem cleaned_destroy {error : Value} {log : Log} (hobserved : Observed log)
    (hclosed : Attempted .closeSnapshot log) (h : CleanupFailed log → Reported (.error error)) :
    Cleaned (finished E (.error error) ⟨log, false, false⟩).1
        (finished E (.error error) ⟨log, false, false⟩).2.calls ↔
      CleansUp E ⟨log, false, false⟩ := by
  rw [finished_destroy]
  have hlast : false = false → CleanupFailed log → Reported (.error error) := fun _ => h
  have hreported := destroyed_reported (E := E) hlast
  have hobserved' : Observed (logged E log .destroy) := (observed_logged rfl).2 hobserved
  constructor
  · intro hcleaned
    refine ⟨nofun, fun _ => ?_⟩
    rw [afterClose_destroy]
    exact hreported.1 (hcleaned.2 hobserved')
  · intro hclean
    have htolerable := hclean.destroy rfl
    rw [afterClose_destroy] at htolerable
    refine ⟨fun _ => ⟨attempted_logged.2 (.inl hclosed), attempted_logged.2 (.inr rfl)⟩, fun _ => ?_⟩
    exact hreported.2 htolerable

theorem finished_error {error : Value} {f : Frame Call Value Flags} {bundle : Bundle} :
    (finished E (.error error) f).1 ≠ .ok bundle := by
  rw [finished]
  split
  · exact nofun
  · exact nofun

theorem keeps_catchingIf {I : Frame Call Value Flags → Prop} {condition : Bool} {c : Call}
    (hc : ∀ f, I f → ∀ r, I { f with calls := f.calls ++ [(c, r)] }) :
    Procedure.Keeps I (catchingIf condition E c) := by
  rw [catchingIf]
  split
  · exact .bind (Run.keeps_call hc) fun _ => .lift _
  · exact .pure _

/-- The last part observes nothing. -/
theorem observed_finished {result : Except Value Bundle} {f : Frame Call Value Flags} :
    Observed (finished E result f).2.calls ↔ Observed f.calls := by
  have hlog : ∀ (c : Call), c.observes = false → ∀ f' : Frame Call Value Flags,
      (Observed f'.calls ↔ Observed f.calls) →
        ∀ r, Observed (f'.calls ++ [(c, r)]) ↔ Observed f.calls := by
    intro c hc f' hf' r
    rw [← hf']
    exact observed_logged (E := fun _ _ => r) hc
  have hkeeps : Procedure.Keeps (fun f' => Observed f'.calls ↔ Observed f.calls) (cleanUp E) := by
    refine .bind (fun _ hf => hf) fun flags => .bind (keeps_catchingIf (hlog _ rfl)) fun closeFailed => ?_
    exact .bind (keeps_catchingIf (hlog _ rfl)) fun destroyFailed => .require _ _
  have hkept := hkeeps f Iff.rfl
  rw [finished]
  cases hclean : cleanUp E f with
  | mk last f' =>
    rw [hclean] at hkept
    cases last with
    | error e => exact hkept
    | ok u => exact hkept

theorem cleaned_of_unobserved {result : Except Value Bundle} {f : Frame Call Value Flags}
    (h : ¬Observed f.calls) : Cleaned (finished E result f).1 (finished E result f).2.calls :=
  ⟨fun hobserved => absurd (observed_finished.1 hobserved) h,
    fun hobserved => absurd (observed_finished.1 hobserved) h⟩

theorem secure_iff_cleaned (herror : ∀ bundle, (prepared P E input).1 ≠ .ok bundle) :
    Secure P E input ↔ Cleaned (prepared P E input).1 (prepared P E input).2.calls := by
  constructor
  · exact fun h => ⟨h.attempted, h.reported⟩
  · exact fun h => ⟨fun bundle hok => absurd hok (herror bundle), h.1, h.2⟩

/-- A run that fails before its last part. -/
theorem secure_iff_of_error {error : Value} {f : Frame Call Value Flags}
    (hprepared : prepared P E input = finished E (.error error) f)
    (h : Observed f.calls → (Cleaned (finished E (.error error) f).1
      (finished E (.error error) f).2.calls ↔ CleansUp E f)) :
    Secure P E input ↔ (Observed f.calls → CleansUp E f) := by
  rw [secure_iff_cleaned (by rw [hprepared]; exact fun _ => finished_error), hprepared]
  by_cases hobserved : Observed f.calls
  · rw [h hobserved]
    exact ⟨fun hclean _ => hclean, fun hclean => hclean hobserved⟩
  · exact iff_of_true (cleaned_of_unobserved hobserved) fun h => absurd h hobserved

/-- A bundle of a run that needs no more cleaning up. -/
theorem secure_of_done {bundle : Bundle} {log : Log} (h : ∀ e ∈ log, Quiet e.1)
    (hmade : Made P input bundle) (hcloses : (E log .closeSnapshot).fails = false)
    (hdestroys : (E (logged E log .closeSnapshot) .destroy).fails = false)
    (hprepared : prepared P E input =
      (.ok bundle, ⟨logged E (logged E log .closeSnapshot) .destroy, false, true⟩)) :
    Secure P E input := by
  have hclean : ¬CleanupFailed (logged E (logged E log .closeSnapshot) .destroy) := by
    rw [cleanupFailed_logged rfl, cleanupFailed_logged rfl, hcloses, hdestroys]
    rintro ((hfailed | hfailed) | hfailed)
    · exact (quiet_log h).1 hfailed
    · cases hfailed
    · cases hfailed
  have hclosed : Attempted .closeSnapshot (logged E (logged E log .closeSnapshot) .destroy) :=
    attempted_logged.2 (.inl (attempted_logged.2 (.inr rfl)))
  have hdestroyed : Attempted .destroy (logged E (logged E log .closeSnapshot) .destroy) :=
    attempted_logged.2 (.inr rfl)
  refine ⟨fun bundle' hok => ?_, fun _ => ?_, fun _ hfailed => ?_⟩
  · rw [hprepared] at hok ⊢
    obtain rfl := Except.ok.inj hok
    obtain ⟨now, hverified⟩ := hmade.verified
    exact ⟨hclosed, hdestroyed, hclean, hmade.fingerprints, hmade.scanned,
      fun time hcreated hexpires => verified_at hverified hcreated hexpires⟩
  · rw [hprepared]
    exact ⟨hclosed, hdestroyed⟩
  · rw [hprepared] at hfailed
    exact absurd hfailed hclean

/-- The export leaves nothing behind exactly when its last part is responded to in this way. -/
theorem prepareSanitizedSnapshotBundle_secure_iff : Secure P E input ↔
    (assertInput P input = .ok () → Observed (beforeCleanUp P E input).calls →
      CleansUp E (beforeCleanUp P E input)) := by
  cases hinput : assertInput P input with
  | error e =>
    have hprepared : prepared P E input = (.error e, ⟨[], {}⟩) := by
      rw [prepared, prepareSanitizedSnapshotBundle, Procedure.bind_apply, Procedure.lift, hinput]
    rw [secure_iff_cleaned (by rw [hprepared]; exact nofun), hprepared]
    refine iff_of_true ?_ nofun
    have hnone : ¬Observed [] := by rintro ⟨e, he, -⟩; cases he
    exact ⟨fun h => absurd h hnone, fun h => absurd h hnone⟩
  | ok u =>
    have hprepared := prepared_eq (E := E) hinput
    have hending : Ending P E input (attempt P E input ⟨[], {}⟩).1 (attempt P E input ⟨[], {}⟩).2 :=
      attempt_ending
    have htrue : ∀ {p : Prop}, (Except.ok u = (Except.ok () : Except Value Unit) → p) ↔ p :=
      ⟨fun h => h rfl, fun h _ => h⟩
    rw [beforeCleanUp, htrue]
    generalize (attempt P E input ⟨[], {}⟩).1 = result at hprepared hending
    generalize (attempt P E input ⟨[], {}⟩).2 = f at hprepared hending ⊢
    cases hending with
    | unobserved h =>
      refine secure_iff_of_error hprepared fun hobserved => ?_
      obtain ⟨e, he, hobserves⟩ := hobserved
      rw [(h.2 e he).2] at hobserves
      cases hobserves
    | quiet h =>
      obtain ⟨log, vars⟩ := f
      obtain ⟨rfl, hlog⟩ := h
      obtain ⟨hclean, hnever⟩ := quiet_log hlog
      exact secure_iff_of_error hprepared fun hobserved =>
        cleaned_close hobserved hnever fun hfailed => absurd hfailed hclean
    | @closeFailed error log h hfails hcode =>
      refine secure_iff_of_error hprepared fun hobserved => cleaned_close hobserved ?_ fun _ => ?_
      · intro hdestroy
        rcases attempted_logged.1 hdestroy with hdestroy | hdestroy
        · exact (quiet_log h).2 hdestroy
        · cases hdestroy
      · exact ⟨error, rfl, hcode⟩
    | @destroyFailed error log h hcloses hfails hcode =>
      exact secure_iff_of_error hprepared fun hobserved =>
        cleaned_destroy hobserved (attempted_logged.2 (.inl (attempted_logged.2 (.inr rfl))))
          fun _ => ⟨error, rfl, hcode⟩
    | done h hmade hcloses hdestroys =>
      exact iff_of_true (secure_of_done h hmade hcloses hdestroys hprepared) fun _ => ⟨nofun, nofun⟩

/-! ## A source that closes without a promise -/

def samplePlatform : Platform where
  canonicalize := fun _ => []
  sha256Bytes := fun _ => "sha256:" ++ String.ofList (List.replicate 64 'a')
  hmac := fun _ text => text
  schemaErrors := fun _ _ => none
  toText := fun value => value.text?.getD ""
  localeCompare := compare
  dateParse := fun _ => none
  bufferFrom := Value.bytes?
  decode := fun content => some (content.map fun b => Char.ofNat b.toNat)

def sampleContract : SanitizationContract where
  contractId := "stage1-staging-snapshot"
  contractVersion := "3"
  source := ⟨["public.customer"], ["20260901010000_stage1_schema_drift_convergence"]⟩
  transformations := [⟨"public.customer", "mobile", .nullOut, none, none, none⟩]
  scanRules := ["china-mobile"]
  tools := ⟨"exporter", "scanner"⟩
  lifecycle := ⟨"release", ["qa"], 7, 30, "policy"⟩

def samplePreparation : Preparation where
  contract := sampleContract
  ownershipMap := ⟨"map", "1", ["owner"], ["public"], ["table"], []⟩
  source := ⟨some "protected-snapshot-source/v1", true, true, true, true, true⟩
  workspace := ⟨some "isolated-sanitization-workspace/v1", true, true, true, true, true⟩
  secretReference := some "secret://stage1/source"
  tokenizationSecretReference := some "secret://stage1/key"
  workflowRunRef := some "run-1"

def sampleDigest : Value := .string ("sha256:" ++ String.ofList (List.replicate 64 'a'))

/-- A source and a workspace that do what they are asked to. -/
def orderly : Env := fun _ c =>
  match c with
  | .now => .returns (.date (some 1787277784005))
  | .observePrivileges _ =>
    .resolves (.object [("objectOwners", .texts ["owner"]), ("roleIdentityFingerprint", sampleDigest),
      ("databaseIdentityFingerprint", sampleDigest), ("superuser", .boolean false),
      ("createDatabase", .boolean false), ("createRole", .boolean false),
      ("bypassRls", .boolean false), ("schemaOwner", .boolean false),
      ("canCreateSchema", .boolean false), ("tableWritePrivileges", .array []),
      ("tableTruncatePrivileges", .array []), ("writableFunctionExecutePrivileges", .array [])])
  | .openReadOnlySnapshot _ =>
    .resolves (.object [("isolationLevel", .string "REPEATABLE READ"), ("readOnly", .boolean true),
      ("snapshotId", .string "snapshot")])
  | .readFingerprint _ _ =>
    .resolves (.object [("migrationHead", .string "20260901010000_stage1_schema_drift_convergence"),
      ("databaseIdentityFingerprint", sampleDigest), ("roleIdentityFingerprint", sampleDigest),
      ("tables", .array [.object [("table", .string "public.customer"), ("rowCount", .int 2),
        ("checksum", sampleDigest)]])])
  | .exportRaw _ => .resolves (.bytes true [1])
  | .exportSanitized => .resolves (.bytes true [65])
  | _ => .resolves .undefined

example : (prepared samplePlatform orderly samplePreparation).1.toOption.isSome = true := by
  decide +kernel

/-- The source does not let its privileges be observed, and closes with no promise. -/
def synchronousClose : Env := fun _ c =>
  match c with
  | .now => .returns (.date (some 1787277784005))
  | .observePrivileges _ => .rejects (codeError "SOURCE_UNAVAILABLE")
  | .closeSnapshot => .returns .undefined
  | _ => .resolves .undefined

theorem synchronousClose_not_secure : ¬Secure samplePlatform synchronousClose samplePreparation := by
  intro h
  have hcalls : (prepared samplePlatform synchronousClose samplePreparation).2.calls.map Prod.fst =
      [.now, .observePrivileges "secret://stage1/source", .closeSnapshot] := by
    decide +kernel
  have hmem : ∀ c, (∃ e ∈ (prepared samplePlatform synchronousClose samplePreparation).2.calls, e.1 = c) ↔
      c ∈ [Call.now, .observePrivileges "secret://stage1/source", .closeSnapshot] := by
    intro c
    rw [← hcalls, List.mem_map]
  obtain ⟨e, he, hc⟩ := (hmem (.observePrivileges "secret://stage1/source")).2 (by decide +kernel)
  have hattempted := (h.attempted ⟨e, he, by rw [hc]; rfl⟩).2
  have hdestroy := (hmem .destroy).1 hattempted
  revert hdestroy
  decide +kernel

end SubscriptionSaas.Snapshot
