import SubscriptionSaas.Lib.Ratchet
import SubscriptionSaas.Lib.Runs
import SubscriptionSaas.Release.DispatchAuthorization

/-!
# The revocation head of a dispatch

A call compares the online head with the journal's checkpoint, and the journal's checkpoint with the
online head. So the head of a decision is the journal's own, and none of the heads that were recorded
before the call began is in front of it.
-/

namespace SubscriptionSaas.Release

open Ratchet Results Runs Tables

/-! ## Comparisons -/

/-- The second head may follow the first one: it has a higher sequence, or is the same. -/
def Checkpoint.Behind (a b : Checkpoint) : Prop := a.sequence < b.sequence ∨ a = b

instance : Std.Refl Checkpoint.Behind := ⟨fun _ => .inr rfl⟩

instance : IsTrans Checkpoint Checkpoint.Behind where
  trans a b c hab hbc := by
    rcases hab with hab | rfl
    · rcases hbc with hbc | rfl
      · exact .inl (Int.lt_trans hab hbc)
      · exact .inl hab
    · exact hbc

theorem Checkpoint.Behind.sequence_le {a b : Checkpoint} (h : a.Behind b) :
    a.sequence ≤ b.sequence := by
  rcases h with h | rfl
  · exact Int.le_of_lt h
  · exact Int.le_refl a.sequence

/-- Heads that are behind each other are the same. -/
theorem Checkpoint.Behind.antisymm {a b : Checkpoint} (h : a.Behind b) (h' : b.Behind a) : a = b := by
  rcases h with h | h
  · have := h'.sequence_le
    omega
  · exact h

theorem not_overtaken {a b : Checkpoint}
    (h : (b.sequence < a.sequence || (b.sequence == a.sequence && b.headDigest != a.headDigest)) =
      false) : a.Behind b := by
  simp only [Bool.or_eq_false_iff, decide_eq_false_iff_not, Int.not_lt, Bool.and_eq_false_iff,
    beq_eq_false_iff_ne, bne_eq_false_iff_eq] at h
  obtain ⟨hle, hdigest⟩ := h
  rcases Int.lt_or_eq_of_le hle with hlt | heq
  · exact .inl hlt
  · rcases hdigest with hne | hdigest
    · exact absurd heq.symm hne
    · exact .inr (Checkpoint.ext heq hdigest.symm)

theorem monotonic_ok {head checkpoint : Checkpoint} {u : Unit} (h : monotonic head checkpoint = .ok u) :
    checkpoint.Behind head := by
  unfold monotonic at h
  obtain ⟨_, _, h⟩ := bind_ok h
  have hnot := require_ok h
  rw [Bool.not_eq_true'] at hnot
  exact not_overtaken hnot

theorem recordVerifiedHead_ok {journal journal' : List Checkpoint} {head : Checkpoint}
    (h : recordVerifiedHead journal head = .ok journal') :
    ∃ current, journal.getLast? = some current ∧ current.Behind head ∧ journal' = journal ++ [head] := by
  unfold recordVerifiedHead at h
  split at h
  · cases h
  · rename_i current hcurrent
    obtain ⟨hnot, h⟩ := guard_ok h
    rw [Bool.not_eq_true] at hnot
    exact ⟨current, hcurrent, not_overtaken hnot, (Except.ok.inj h).symm⟩

/-! ## What a call knows -/

section Calls

variable {C : Crypto} {trust : TrustPolicy} {Signed : String → List UInt8 → Prop}

/-- A head that the revocation signer has signed, with the digest of its own state. -/
structure SignedHead (C : Crypto) (trust : TrustPolicy) (Signed : String → List UInt8 → Prop)
    (response : RevocationResponse) : Prop where
  signed : Signed trust.revocation.signer.publicKey
    (C.canonicalJson (.signed "i0-revocation-read.v1" "response" (.response response)))
  digest : C.sha256Canonical (.state response.state) = response.headDigest

/-- A head that neither the initial checkpoint nor any of the given heads is in front of. -/
def Floor (trust : TrustPolicy) (heads : List Checkpoint) (head : Checkpoint) : Prop :=
  trust.revocation.initialCheckpoint.Behind head ∧ ∀ h ∈ heads, h.Behind head

theorem Floor.trans {heads : List Checkpoint} {a b : Checkpoint} (h : Floor trust heads a)
    (hab : a.Behind b) : Floor trust heads b :=
  ⟨Trans.trans h.1 hab, fun c hc => Trans.trans (h.2 c hc) hab⟩

/-- The call is about the authorization. -/
def DispatchFrame.Of (C : Crypto) (frame : DispatchFrame) (authorization : Authorization) : Prop :=
  frame.authorization = authorization ∧
    frame.authorizationDigest = C.sha256Canonical (.authorization authorization)

/-- The verified head of a call. -/
structure HeadFrame.Sound (C : Crypto) (trust : TrustPolicy)
    (Signed : String → List UInt8 → Prop) (authorization : Authorization) (heads : List Checkpoint)
    (frame : HeadFrame) : Prop where
  isOf : frame.toDispatchFrame.Of C authorization
  signed : SignedHead C trust Signed frame.response
  floor : Floor trust heads frame.response.head

/-- A decision that rests on a signed head which does not revoke the authorization. -/
structure DispatchDecision.Sound (C : Crypto) (trust : TrustPolicy)
    (Signed : String → List UInt8 → Prop) (authorization : Authorization) (heads : List Checkpoint)
    (decision : DispatchDecision) (response : RevocationResponse) : Prop where
  isOf : decision.authorization = authorization
  signed : SignedHead C trust Signed response
  floor : Floor trust heads response.head
  head : response.head = ⟨decision.revocationSequence, decision.revocationHeadDigest⟩
  stands : response.revokes authorization.authorizationId
    (C.sha256Canonical (.authorization authorization)) = false

/-- What a call about the authorization knows in a phase, when the given heads were recorded before it
began. -/
def Phase.Sound (C : Crypto) (trust : TrustPolicy) (Signed : String → List UInt8 → Prop)
    (authorization : Authorization) (heads : List Checkpoint) : Phase → Prop
  | .readingCheckpoint frame => frame.Of C authorization
  | .readingHead frame checkpoint _ => frame.Of C authorization ∧ Floor trust heads checkpoint
  | .readingState frame | .readingAuthorization frame | .rereadingCheckpoint frame
  | .recording frame | .readingBack frame => frame.Sound C trust Signed authorization heads
  | .returned decision => ∃ response, decision.Sound C trust Signed authorization heads response
  | .failed _ => True

/-- Also what the journal is asked to record is a signed head. -/
structure DispatchCall.Sound (C : Crypto) (trust : TrustPolicy)
    (Signed : String → List UInt8 → Prop) (authorization : Authorization) (heads : List Checkpoint)
    (call : DispatchCall) : Prop where
  phase : call.phase.Sound C trust Signed authorization heads
  outstanding : ∀ head, call.outstanding = some head →
    ∃ response, SignedHead C trust Signed response ∧ response.head = head

variable {authorization : Authorization} {heads : List Checkpoint} {call : DispatchCall}
  {phase : Phase} {checkpoint : Option Checkpoint} {readings : Readings}

theorem orFailUnlessExpired_ok {α : Type} {x : Except DispatchError α} {a : α}
    (h : orFailUnlessExpired x = .ok a) : x = .ok a := by
  unfold orFailUnlessExpired at h
  split at h
  · exact h
  · cases h
  · cases h

theorem shaped_ok {α : Type} {value : Option α} {error : DispatchError} {a : α}
    (h : shaped value error = .ok a) : value = some a := by
  cases value with
  | some b => rw [Except.ok.inj h]
  | none => cases h

/-! ### From request to request -/

theorem beginDispatch_ok {input : DispatchInput}
    (h : C.beginDispatch trust input readings = .ok phase) :
    ∃ frame : DispatchFrame, frame.Of C input.authorization ∧ phase = .readingCheckpoint frame := by
  unfold Crypto.beginDispatch at h
  obtain ⟨signature, _, h⟩ := bind_ok h
  obtain ⟨expected, _, h⟩ := bind_ok h
  obtain ⟨_, _, h⟩ := bind_ok h
  obtain ⟨_, _, h⟩ := bind_ok h
  obtain ⟨_, _, h⟩ := bind_ok h
  obtain ⟨startedAt, _, h⟩ := bind_ok h
  obtain ⟨issuedAt, _, h⟩ := bind_ok h
  obtain ⟨notAfter, _, h⟩ := bind_ok h
  obtain ⟨_, _, h⟩ := bind_ok h
  obtain ⟨_, _, h⟩ := bind_ok h
  cases h
  exact ⟨_, ⟨rfl, rfl⟩, rfl⟩

theorem afterCheckpoint_ok {frame : DispatchFrame}
    (h : afterCheckpoint trust frame checkpoint readings = .ok phase) :
    ∃ c request, checkpoint = some c ∧ trust.revocation.initialCheckpoint.Behind c ∧
      phase = .readingHead frame c request := by
  unfold afterCheckpoint at h
  obtain ⟨c, hc, h⟩ := bind_ok h
  obtain ⟨_, hinitial, h⟩ := bind_ok h
  obtain ⟨_, _, h⟩ := bind_ok h
  exact ⟨c, _, shaped_ok hc, monotonic_ok hinitial, (Except.ok.inj h).symm⟩

theorem responseValid_signed
    (unforgeable : ∀ key bytes signature, C.verify key bytes signature → Signed key bytes)
    {response : RevocationResponse} {signature : Signature} {request : ReadRequest} {now expiry : Int}
    (h : C.responseValid response signature request trust.revocation now = .ok expiry) :
    SignedHead C trust Signed response := by
  unfold Crypto.responseValid at h
  obtain ⟨_, hsignature, h⟩ := bind_ok h
  obtain ⟨_, _, h⟩ := bind_ok h
  obtain ⟨_, _, h⟩ := bind_ok h
  obtain ⟨_, _, h⟩ := bind_ok h
  obtain ⟨_, hdigest, h⟩ := bind_ok h
  unfold Crypto.signatureValid at hsignature
  obtain ⟨_, _, hsignature⟩ := bind_ok hsignature
  have hmatches := require_ok hsignature
  unfold Crypto.signatureMatches at hmatches
  rw [Bool.and_eq_true] at hmatches
  exact ⟨unforgeable _ _ _ hmatches.2, by simpa using require_ok hdigest⟩

theorem afterHead_ok
    (unforgeable : ∀ key bytes signature, C.verify key bytes signature → Signed key bytes)
    {frame : DispatchFrame} {c : Checkpoint} {request : ReadRequest} {online : Option OnlineHead}
    (h : C.afterHead trust frame c request online readings = .ok phase) :
    ∃ next : HeadFrame, next.toDispatchFrame = frame ∧ SignedHead C trust Signed next.response ∧
      c.Behind next.response.head ∧ phase = .readingState next := by
  unfold Crypto.afterHead at h
  obtain ⟨online, _, h⟩ := bind_ok h
  obtain ⟨now, _, h⟩ := bind_ok h
  obtain ⟨expiry, hexpiry, h⟩ := bind_ok h
  obtain ⟨_, hmonotonic, h⟩ := bind_ok h
  obtain ⟨_, _, h⟩ := bind_ok h
  have hsigned := responseValid_signed unforgeable (orFailUnlessExpired_ok hexpiry)
  have hbehind := monotonic_ok hmonotonic
  cases h
  exact ⟨_, rfl, hsigned, hbehind, rfl⟩

theorem afterState_ok {frame : HeadFrame} {raw : Option ArchivedFrame}
    (h : C.afterState trust frame raw readings = .ok phase) : phase = .readingAuthorization frame := by
  unfold Crypto.afterState at h
  obtain ⟨_, _, h⟩ := bind_ok h
  obtain ⟨_, _, h⟩ := bind_ok h
  exact (Except.ok.inj h).symm

theorem afterAuthorization_ok {frame : HeadFrame} {raw : Option ArchivedFrame}
    (h : C.afterAuthorization trust frame raw readings = .ok phase) :
    phase = .rereadingCheckpoint frame := by
  unfold Crypto.afterAuthorization at h
  obtain ⟨_, _, h⟩ := bind_ok h
  obtain ⟨_, _, h⟩ := bind_ok h
  obtain ⟨_, _, h⟩ := bind_ok h
  exact (Except.ok.inj h).symm

theorem afterReread_ok {frame : HeadFrame}
    (h : afterReread trust frame checkpoint readings = .ok phase) : phase = .recording frame := by
  unfold afterReread at h
  obtain ⟨_, _, h⟩ := bind_ok h
  obtain ⟨_, _, h⟩ := bind_ok h
  obtain ⟨_, _, h⟩ := bind_ok h
  obtain ⟨_, _, h⟩ := bind_ok h
  exact (Except.ok.inj h).symm

theorem afterRecord_ok {frame : HeadFrame} {reply : Except DispatchError Unit}
    (h : afterRecord trust frame reply readings = .ok phase) : phase = .readingBack frame := by
  unfold afterRecord at h
  obtain ⟨_, _, h⟩ := bind_ok h
  obtain ⟨_, _, h⟩ := bind_ok h
  exact (Except.ok.inj h).symm

/-- A call that returns has found its own head in the journal. -/
theorem afterReadback_ok {frame : HeadFrame}
    (h : afterReadback trust frame checkpoint readings = .ok phase) :
    ∃ decision : DispatchDecision, checkpoint = some frame.response.head ∧
      decision.authorization = frame.authorization ∧
      frame.response.head = ⟨decision.revocationSequence, decision.revocationHeadDigest⟩ ∧
      frame.revoked = false ∧ phase = .returned decision := by
  unfold afterReadback at h
  obtain ⟨recorded, hrecorded, h⟩ := bind_ok h
  obtain ⟨_, hfront, h⟩ := bind_ok h
  obtain ⟨_, hback, h⟩ := bind_ok h
  obtain ⟨verifiedAt, _, h⟩ := bind_ok h
  obtain ⟨_, hstands, h⟩ := bind_ok h
  have hsame : frame.response.head = recorded := (monotonic_ok hfront).antisymm (monotonic_ok hback)
  have hrevoked := require_ok hstands
  rw [Bool.not_eq_true'] at hrevoked
  refine ⟨_, ?_, rfl, hsame, hrevoked, (Except.ok.inj h).symm⟩
  rw [hsame]
  exact shaped_ok hrecorded

/-- A call that goes on knows what its new phase says. -/
theorem goes_sound {result : Except DispatchError Phase}
    (hcall : call.Sound C trust Signed authorization heads)
    (hresult : ∀ phase, result = .ok phase → phase.Sound C trust Signed authorization heads) :
    (call.goes result).Sound C trust Signed authorization heads := by
  cases result with
  | error error => exact ⟨trivial, hcall.outstanding⟩
  | ok phase =>
    have hphase := hresult phase rfl
    refine ⟨hphase, ?_⟩
    intro head hhead
    cases phase with
    | recording frame =>
      cases hhead
      exact ⟨frame.response, hphase.signed, rfl⟩
    | _ => cases hhead

/-- An answer keeps what a call knows, if the given heads are behind the journal's checkpoint. -/
theorem resume_sound
    (unforgeable : ∀ key bytes signature, C.verify key bytes signature → Signed key bytes)
    {answer : Answer} (hcall : call.Sound C trust Signed authorization heads)
    (hheads : ∀ c, checkpoint = some c → ∀ h ∈ heads, h.Behind c) :
    (C.resume trust checkpoint call answer readings).Sound C trust Signed authorization heads := by
  have hphase := hcall.phase
  unfold Crypto.resume
  split
  · rename_i frame hnow
    rw [hnow] at hphase
    refine goes_sound hcall fun phase h => ?_
    obtain ⟨c, request, hc, hinitial, rfl⟩ := afterCheckpoint_ok h
    exact ⟨hphase, hinitial, hheads c hc⟩
  · rename_i frame c request hnow
    rw [hnow] at hphase
    refine goes_sound hcall fun phase h => ?_
    obtain ⟨next, rfl, hsigned, hbehind, rfl⟩ := afterHead_ok unforgeable h
    exact ⟨hphase.1, hsigned, hphase.2.trans hbehind⟩
  · rename_i frame hnow
    rw [hnow] at hphase
    refine goes_sound hcall fun phase h => ?_
    rw [afterState_ok h]
    exact hphase
  · rename_i frame hnow
    rw [hnow] at hphase
    refine goes_sound hcall fun phase h => ?_
    rw [afterAuthorization_ok h]
    exact hphase
  · rename_i frame hnow
    rw [hnow] at hphase
    refine goes_sound hcall fun phase h => ?_
    rw [afterReread_ok h]
    exact hphase
  · rename_i frame hnow
    rw [hnow] at hphase
    split
    · refine goes_sound hcall fun phase h => ?_
      rw [afterRecord_ok h]
      exact hphase
    · exact hcall
  · rename_i frame hnow
    rw [hnow] at hphase
    refine goes_sound hcall fun phase h => ?_
    obtain ⟨decision, -, hof, hhead, hstands, rfl⟩ := afterReadback_ok h
    unfold HeadFrame.revoked at hstands
    rw [hphase.isOf.1, hphase.isOf.2] at hstands
    exact ⟨frame.response, hof.trans hphase.isOf.1, hphase.signed, hphase.floor, hhead, hstands⟩
  · split
    · refine goes_sound hcall fun phase h => ?_
      cases h
    · exact hcall
  · exact hcall

/-- A decision is the answer to the last reading of the journal. -/
theorem resume_returned
    (unforgeable : ∀ key bytes signature, C.verify key bytes signature → Signed key bytes)
    {answer : Answer} {decision : DispatchDecision} (hwaiting : call.phase.waiting)
    (h : (C.resume trust checkpoint call answer readings).phase = .returned decision) :
    answer = .journal ∧
      checkpoint = some ⟨decision.revocationSequence, decision.revocationHeadDigest⟩ := by
  have hgoes : ∀ {result}, (call.goes result).phase = .returned decision →
      result = .ok (.returned decision) := by
    intro result hresult
    cases result with
    | error error => cases hresult
    | ok phase => exact congrArg Except.ok hresult
  have hnot : call.phase ≠ .returned decision := by
    intro hreturned
    rw [hreturned] at hwaiting
    cases hwaiting
  unfold Crypto.resume at h
  split at h
  · obtain ⟨c, request, -, -, hphase⟩ := afterCheckpoint_ok (hgoes h)
    cases hphase
  · obtain ⟨next, -, -, -, hphase⟩ := afterHead_ok unforgeable (hgoes h)
    cases hphase
  · cases afterState_ok (hgoes h)
  · cases afterAuthorization_ok (hgoes h)
  · cases afterReread_ok (hgoes h)
  · split at h
    · cases afterRecord_ok (hgoes h)
    · exact absurd h hnot
  · obtain ⟨decision', hcheckpoint, -, hhead, -, hphase⟩ := afterReadback_ok (hgoes h)
    cases hphase
    rw [hhead] at hcheckpoint
    exact ⟨rfl, hcheckpoint⟩
  · rw [if_pos hwaiting] at h
    cases hgoes h
  · exact absurd h hnot

/-- A call that has ended takes no answer. -/
theorem resume_ended {answer : Answer} (hended : call.phase.waiting = false) :
    C.resume trust checkpoint call answer readings = call := by
  unfold Crypto.resume
  split
  case h_8 => rw [if_neg (by rw [hended]; exact Bool.false_ne_true)]
  case h_9 => rfl
  all_goals
    rename_i hnow
    rw [hnow] at hended
    cases hended

theorem begun_sound {input : DispatchInput} :
    (C.begun trust input readings).Sound C trust Signed input.authorization heads := by
  unfold Crypto.begun
  split
  · rename_i phase h
    obtain ⟨frame, hof, rfl⟩ := beginDispatch_ok h
    exact ⟨hof, nofun⟩
  · exact ⟨trivial, nofun⟩

end Calls

/-! ## The journal -/

section Worlds

variable {C : Crypto} {trust : TrustPolicy} {Signed : String → List UInt8 → Prop}
  {initial : Option Checkpoint} {w : DispatchWorld} {e : DispatchEvent} {i : Nat}
  {call call' : DispatchCall} {authorization : Authorization} {heads : List Checkpoint}

/-- What an event does to a call that has begun. -/
inductive CallStep (C : Crypto) (trust : TrustPolicy) (checkpoint : Option Checkpoint)
    (e : DispatchEvent) (i : Nat) (call : DispatchCall) : DispatchCall → Prop
  | unchanged : CallStep C trust checkpoint e i call call
  | answered {answer : Answer} {readings : Readings} (h : e = .answer i answer readings) :
      CallStep C trust checkpoint e i call (C.resume trust checkpoint call answer readings)
  | handled (reply : Except DispatchError Unit) :
      CallStep C trust checkpoint e i call { call with outstanding := none, reply := some reply }
  | timedOut (h : call.phase.waiting) :
      CallStep C trust checkpoint e i call { call with phase := .failed .evidenceUnavailable }

/-- What an event does to the calls: it begins one, or it changes them one by one. -/
theorem step_calls (C : Crypto) (trust : TrustPolicy) (e : DispatchEvent)
    (hcall : w.calls[i]? = some call) :
    ∃ call', (C.dispatchStep trust w e).calls[i]? = some call' ∧
      CallStep C trust w.journal.getLast? e i call call' := by
  have hset : ∀ j (c c' : DispatchCall), w.calls[j]? = some c →
      (j = i → CallStep C trust w.journal.getLast? e i c c') →
      ∃ call', (w.calls.set j c')[i]? = some call' ∧
        CallStep C trust w.journal.getLast? e i call call' := by
    intro j c c' hc hstep
    by_cases hij : j = i
    · subst hij
      obtain rfl : c = call := Option.some.inj (hc.symm.trans hcall)
      exact ⟨c', List.getElem?_set_self (get_lt hc), hstep rfl⟩
    · rw [List.getElem?_set_ne hij]
      exact ⟨call, hcall, .unchanged⟩
  cases e with
  | begin input readings => exact ⟨call, get_append_old hcall, .unchanged⟩
  | answer j answer readings =>
    dsimp only [Crypto.dispatchStep]
    cases hj : w.calls[j]? with
    | none => exact ⟨call, hcall, .unchanged⟩
    | some c =>
      refine hset j c _ hj fun hij => ?_
      subst hij
      exact .answered rfl
  | record j available =>
    dsimp only [Crypto.dispatchStep]
    cases hj : w.calls[j]? with
    | none => exact ⟨call, hcall, .unchanged⟩
    | some c =>
      dsimp only [DispatchWorld.record]
      cases c.outstanding with
      | none => exact ⟨call, hcall, .unchanged⟩
      | some head => exact hset j c _ hj fun _ => .handled _
  | timeout j =>
    dsimp only [Crypto.dispatchStep]
    cases hj : w.calls[j]? with
    | none => exact ⟨call, hcall, .unchanged⟩
    | some c =>
      by_cases hwaiting : c.phase.waiting
      · simp only [hwaiting, if_true]
        refine hset j c _ hj fun hij => ?_
        exact .timedOut hwaiting
      · simp only [hwaiting]
        exact ⟨call, hcall, .unchanged⟩

/-- A call is there already, or it is the one that begins. -/
theorem call_of_step (hcall' : (C.dispatchStep trust w e).calls[i]? = some call') :
    (∃ call, w.calls[i]? = some call) ∨
      (i = w.calls.length ∧ ∃ input readings, e = .begin input readings ∧
        call' = C.begun trust input readings) := by
  have hold : ∀ j (c : DispatchCall), (w.calls.set j c)[i]? = some call' →
      ∃ call, w.calls[i]? = some call := by
    intro j c h
    have hlt := get_lt h
    rw [List.length_set] at hlt
    exact ⟨w.calls[i], List.getElem?_eq_getElem hlt⟩
  cases e with
  | begin input readings =>
    rcases get_append hcall' with h | ⟨rfl, rfl⟩
    · exact .inl ⟨call', h⟩
    · exact .inr ⟨rfl, input, readings, rfl, rfl⟩
  | answer j answer readings =>
    left
    dsimp only [Crypto.dispatchStep] at hcall'
    split at hcall'
    · exact ⟨call', hcall'⟩
    · exact hold _ _ hcall'
  | record j available =>
    left
    dsimp only [Crypto.dispatchStep] at hcall'
    split at hcall'
    · exact ⟨call', hcall'⟩
    · dsimp only [DispatchWorld.record] at hcall'
      split at hcall'
      · exact ⟨call', hcall'⟩
      · exact hold _ _ hcall'
  | timeout j =>
    left
    dsimp only [Crypto.dispatchStep] at hcall'
    split at hcall'
    · exact ⟨call', hcall'⟩
    · split at hcall'
      · exact hold _ _ hcall'
      · exact ⟨call', hcall'⟩

/-- The journal takes nothing, or what a call has asked it to record behind its checkpoint. -/
theorem step_journal (C : Crypto) (trust : TrustPolicy) (w : DispatchWorld) (e : DispatchEvent) :
    (C.dispatchStep trust w e).journal = w.journal ∨
      ∃ call ∈ w.calls, ∃ head current, call.outstanding = some head ∧
        w.journal.getLast? = some current ∧ current.Behind head ∧
        (C.dispatchStep trust w e).journal = w.journal ++ [head] := by
  cases e with
  | begin input readings => exact .inl rfl
  | answer j answer readings =>
    left
    dsimp only [Crypto.dispatchStep]
    cases w.calls[j]? with
    | none => rfl
    | some c => rfl
  | record j available =>
    dsimp only [Crypto.dispatchStep]
    cases hj : w.calls[j]? with
    | none => exact .inl rfl
    | some c =>
      dsimp only [DispatchWorld.record]
      cases houtstanding : c.outstanding with
      | none => exact .inl rfl
      | some head =>
        cases available with
        | false => exact .inl rfl
        | true =>
          dsimp only [if_true]
          cases hresult : recordVerifiedHead w.journal head with
          | error error => exact .inl rfl
          | ok journal' =>
            obtain ⟨current, hcurrent, hbehind, rfl⟩ := recordVerifiedHead_ok hresult
            exact .inr ⟨c, List.mem_of_getElem? hj, head, current, houtstanding, hcurrent, hbehind,
              rfl⟩
  | timeout j =>
    left
    dsimp only [Crypto.dispatchStep]
    cases w.calls[j]? with
    | none => rfl
    | some c =>
      dsimp only
      split
      · rfl
      · rfl

theorem step_journal_grows : w.journal <+: (C.dispatchStep trust w e).journal := by
  rcases step_journal C trust w e with h | ⟨-, -, head, -, -, -, -, h⟩
  · exact h.symm ▸ List.prefix_rfl
  · exact h.symm ▸ List.prefix_append w.journal [head]

theorem CallStep.sound {checkpoint : Option Checkpoint}
    (unforgeable : ∀ key bytes signature, C.verify key bytes signature → Signed key bytes)
    (h : CallStep C trust checkpoint e i call call')
    (hcall : call.Sound C trust Signed authorization heads)
    (hheads : ∀ c, checkpoint = some c → ∀ h ∈ heads, h.Behind c) :
    call'.Sound C trust Signed authorization heads := by
  cases h with
  | unchanged => exact hcall
  | answered h => exact resume_sound unforgeable hcall hheads
  | handled reply => exact ⟨hcall.phase, nofun⟩
  | timedOut h => exact ⟨trivial, hcall.outstanding⟩

theorem CallStep.ended {checkpoint : Option Checkpoint} (h : CallStep C trust checkpoint e i call call')
    (hended : call.phase.waiting = false) : call'.phase = call.phase := by
  cases h with
  | unchanged => rfl
  | answered h => rw [resume_ended hended]
  | handled reply => rfl
  | timedOut h =>
    rw [hended] at h
    cases h

/-- The journal is in order and holds signed heads, but for the one it was set up with, and the calls
ask it to record signed heads only. -/
structure DispatchWorld.Sound (C : Crypto) (trust : TrustPolicy)
    (Signed : String → List UInt8 → Prop) (initial : Option Checkpoint) (w : DispatchWorld) :
    Prop where
  forward : Forward Checkpoint.Behind w.journal
  signed : ∀ head ∈ w.journal, initial = some head ∨
    ∃ response, SignedHead C trust Signed response ∧ response.head = head
  calls : ∀ (i : Nat) (call : DispatchCall), w.calls[i]? = some call →
    ∃ authorization, call.Sound C trust Signed authorization []

theorem initial_sound : DispatchWorld.Sound C trust Signed initial ⟨initial.toList, []⟩ := by
  refine ⟨?_, ?_, ?_⟩
  · cases initial with
    | none => exact List.Pairwise.nil
    | some c => exact List.pairwise_singleton Checkpoint.Behind c
  · intro head hhead
    exact .inl (Option.mem_toList.1 hhead)
  · intro i call hcall
    rw [List.getElem?_nil] at hcall
    cases hcall

theorem step_sound
    (unforgeable : ∀ key bytes signature, C.verify key bytes signature → Signed key bytes)
    (hw : w.Sound C trust Signed initial) :
    (C.dispatchStep trust w e).Sound C trust Signed initial := by
  have hcalls : ∀ (i : Nat) (call' : DispatchCall),
      (C.dispatchStep trust w e).calls[i]? = some call' →
      ∃ authorization, call'.Sound C trust Signed authorization [] := by
    intro i call' hcall'
    rcases call_of_step hcall' with ⟨call, hcall⟩ | ⟨-, input, readings, -, rfl⟩
    · obtain ⟨authorization, hsound⟩ := hw.calls i call hcall
      obtain ⟨call'', hcall'', hstep⟩ := step_calls C trust e hcall
      obtain rfl : call'' = call' := Option.some.inj (hcall''.symm.trans hcall')
      exact ⟨authorization, hstep.sound unforgeable hsound nofun⟩
    · exact ⟨input.authorization, begun_sound⟩
  rcases step_journal C trust w e with
    h | ⟨call, hmem, head, current, houtstanding, hcurrent, hbehind, h⟩
  · refine ⟨?_, ?_, hcalls⟩
    · rw [h]
      exact hw.forward
    · rw [h]
      exact hw.signed
  · obtain ⟨i, hi⟩ := List.mem_iff_getElem?.1 hmem
    obtain ⟨authorization, hsound⟩ := hw.calls i call hi
    refine ⟨?_, ?_, hcalls⟩
    · rw [h]
      exact hw.forward.add hcurrent hbehind
    · rw [h]
      intro c hc
      rcases List.mem_append.1 hc with hc | hc
      · exact hw.signed c hc
      · rw [List.mem_singleton.1 hc]
        exact .inr (hsound.outstanding head houtstanding)

/-! ## Runs -/

theorem runs_journal_grows (evs : List DispatchEvent) :
    w.journal <+: (runs (C.dispatchStep trust) w evs).journal := by
  induction evs generalizing w with
  | nil => exact List.prefix_rfl
  | cons e evs ih => exact step_journal_grows.trans ih

theorem runs_sound
    (unforgeable : ∀ key bytes signature, C.verify key bytes signature → Signed key bytes)
    (hw : w.Sound C trust Signed initial) (evs : List DispatchEvent) :
    (runs (C.dispatchStep trust) w evs).Sound C trust Signed initial :=
  runs_always _ (fun _ _ => step_sound unforgeable) hw evs

/-- A call goes on knowing that the heads are behind its own that the journal held when it began. -/
theorem runs_call_sound
    (unforgeable : ∀ key bytes signature, C.verify key bytes signature → Signed key bytes)
    (hw : w.Sound C trust Signed initial) (hheads : ∀ h ∈ heads, h ∈ w.journal)
    (hcall : w.calls[i]? = some call) (hsound : call.Sound C trust Signed authorization heads)
    (evs : List DispatchEvent) :
    ∃ call', (runs (C.dispatchStep trust) w evs).calls[i]? = some call' ∧
      call'.Sound C trust Signed authorization heads := by
  induction evs generalizing w call with
  | nil => exact ⟨call, hcall, hsound⟩
  | cons e evs ih =>
    obtain ⟨call', hcall', hstep⟩ := step_calls C trust e hcall
    have hbehind : ∀ c, w.journal.getLast? = some c → ∀ h ∈ heads, h.Behind c :=
      fun c hc h hh => hw.forward.last hc (hheads h hh)
    exact ih (step_sound unforgeable hw) (fun h hh => step_journal_grows.subset (hheads h hh)) hcall'
      (hstep.sound unforgeable hsound hbehind)

theorem runs_ended (hcall : w.calls[i]? = some call) (hended : call.phase.waiting = false)
    (evs : List DispatchEvent) :
    ∃ call', (runs (C.dispatchStep trust) w evs).calls[i]? = some call' ∧
      call'.phase = call.phase := by
  induction evs generalizing w call with
  | nil => exact ⟨call, hcall, rfl⟩
  | cons e evs ih =>
    obtain ⟨call', hcall', hstep⟩ := step_calls C trust e hcall
    have hphase := hstep.ended hended
    rw [← hphase] at hended ⊢
    exact ih hcall' hended

/-- The moment at which a call reads the journal for the last time: it waits for the answer, the
answer is the head of the decision, and with it the call returns. -/
def ReadsLast (C : Crypto) (trust : TrustPolicy) (w : DispatchWorld) (i : Nat)
    (readings : Readings) (decision : DispatchDecision) : Prop :=
  (∃ call, w.calls[i]? = some call ∧ call.phase.waiting) ∧
    w.journal.getLast? = some ⟨decision.revocationSequence, decision.revocationHeadDigest⟩ ∧
    ∃ call', (C.dispatchStep trust w (.answer i .journal readings)).calls[i]? = some call' ∧
      call'.phase = .returned decision

/-- A decision comes with the last reading of the journal. -/
theorem runs_returned
    (unforgeable : ∀ key bytes signature, C.verify key bytes signature → Signed key bytes)
    {decision : DispatchDecision} (hcall : w.calls[i]? = some call)
    (hnot : ∀ d, call.phase ≠ .returned d) (evs : List DispatchEvent)
    (hcall' : (runs (C.dispatchStep trust) w evs).calls[i]? = some call')
    (hreturned : call'.phase = .returned decision) :
    ∃ earlier readings later, evs = earlier ++ .answer i .journal readings :: later ∧
      ReadsLast C trust (runs (C.dispatchStep trust) w earlier) i readings decision := by
  induction evs generalizing w call with
  | nil =>
    obtain rfl : call = call' := Option.some.inj (hcall.symm.trans hcall')
    exact absurd hreturned (hnot decision)
  | cons e evs ih =>
    obtain ⟨next, hnext, hstep⟩ := step_calls C trust e hcall
    by_cases hends : ∃ d, next.phase = .returned d
    · obtain ⟨d, hd⟩ := hends
      -- what the call returns with it keeps to the end of the run
      obtain ⟨last, hlast, hphase⟩ := runs_ended hnext (by rw [hd]; rfl) evs
      obtain rfl : last = call' := Option.some.inj (hlast.symm.trans hcall')
      obtain rfl : d = decision := by
        rw [hd, hreturned] at hphase
        exact (Phase.returned.inj hphase).symm
      have hwaiting : call.phase.waiting = true := by
        by_contra hended
        rw [Bool.not_eq_true] at hended
        exact hnot d ((hstep.ended hended).symm.trans hd)
      cases hstep with
      | unchanged => exact absurd hd (hnot d)
      | @answered answer readings h =>
        subst h
        obtain ⟨rfl, hhead⟩ := resume_returned unforgeable hwaiting hd
        exact ⟨[], readings, evs, rfl, ⟨call, hcall, hwaiting⟩, hhead, _, hnext, hd⟩
      | handled reply => exact absurd hd (hnot d)
      | timedOut h => cases hd
    · obtain ⟨earlier, readings, later, rfl, hreads⟩ :=
        ih hnext (fun d hd => hends ⟨d, hd⟩) hcall'
      exact ⟨e :: earlier, readings, later, rfl, hreads⟩

/-! ## Every decision rests on a head that is not rolled back -/

/-- The calls of one trust policy on a journal that was set up with a checkpoint, or was not. -/
def DispatchWorld.run (C : Crypto) (trust : TrustPolicy) (initial : Option Checkpoint)
    (evs : List DispatchEvent) : DispatchWorld :=
  runs (C.dispatchStep trust) ⟨initial.toList, []⟩ evs

theorem run_append (evs evs' : List DispatchEvent) :
    DispatchWorld.run C trust initial (evs ++ evs') =
      runs (C.dispatchStep trust) (DispatchWorld.run C trust initial evs) evs' :=
  runs_append (C.dispatchStep trust) _ evs evs'

/-- In whatever order the calls of one trust policy read and record: the journal moves forward only
and records signed heads; a decision rests on a signed head that is the journal's when the call reads
it for the last time, with no head in front of it that was recorded before the call began; and if a
head that was recorded before revokes the authorization, then this head is newer and does not. -/
theorem dispatch_not_rolled_back (C : Crypto) (trust : TrustPolicy)
    (Signed : String → List UInt8 → Prop)
    (unforgeable : ∀ key bytes signature, C.verify key bytes signature → Signed key bytes)
    (collisionFree : ∀ response response', SignedHead C trust Signed response →
      SignedHead C trust Signed response' →
      C.sha256Canonical (.state response.state) = C.sha256Canonical (.state response'.state) →
      response.state = response'.state)
    (initial : Option Checkpoint) :
    (∀ evs more c c', (DispatchWorld.run C trust initial evs).journal.getLast? = some c →
      (DispatchWorld.run C trust initial (evs ++ more)).journal.getLast? = some c' →
      c.sequence ≤ c'.sequence) ∧
    (∀ evs, ∀ head ∈ (DispatchWorld.run C trust initial evs).journal,
      initial = some head ∨ ∃ response, SignedHead C trust Signed response ∧ response.head = head) ∧
    ∀ before input readings after decision call,
      let w := DispatchWorld.run C trust initial before
      (DispatchWorld.run C trust initial (before ++ .begin input readings :: after)).calls[
        w.calls.length]? = some call →
      call.phase = .returned decision →
      decision.authorization = input.authorization ∧
      ∃ response, SignedHead C trust Signed response ∧
        response.head = ⟨decision.revocationSequence, decision.revocationHeadDigest⟩ ∧
        trust.revocation.initialCheckpoint.sequence ≤ response.sequence ∧
        (∀ head ∈ w.journal, head.sequence ≤ response.sequence) ∧
        (∃ earlier readings' later, after = earlier ++ .answer w.calls.length .journal readings' :: later ∧
          ReadsLast C trust
            (DispatchWorld.run C trust initial (before ++ .begin input readings :: earlier))
            w.calls.length readings' decision) ∧
        ∀ revoking, SignedHead C trust Signed revoking → revoking.head ∈ w.journal →
          revoking.revokes input.authorization.authorizationId
            (C.sha256Canonical (.authorization input.authorization)) →
          revoking.sequence < response.sequence ∧
            response.revokes input.authorization.authorizationId
              (C.sha256Canonical (.authorization input.authorization)) = false := by
  have hsound : ∀ evs, (DispatchWorld.run C trust initial evs).Sound C trust Signed initial :=
    runs_sound unforgeable initial_sound
  refine ⟨?_, fun evs => (hsound evs).signed, ?_⟩
  · intro evs more c c' hc hc'
    rw [run_append] at hc'
    have hforward := (runs_sound unforgeable (hsound evs) more).forward
    exact (hforward.continued (runs_journal_grows more) hc hc').sequence_le
  · intro before input readings after decision call w hcall hreturned
    -- the call in the state in which it begins
    let w' := C.dispatchStep trust w (.begin input readings)
    have hbegun : w'.calls[w.calls.length]? = some (C.begun trust input readings) :=
      List.getElem?_concat_length
    have hw' : w'.Sound C trust Signed initial := step_sound unforgeable (hsound before)
    have hrun : ∀ evs, DispatchWorld.run C trust initial (before ++ .begin input readings :: evs) =
        runs (C.dispatchStep trust) w' evs := fun evs => run_append before (.begin input readings :: evs)
    rw [hrun] at hcall
    obtain ⟨call', hcall', hends⟩ :=
      runs_call_sound unforgeable hw' (fun h (hh : h ∈ w.journal) => hh) hbegun begun_sound after
    obtain rfl : call' = call := Option.some.inj (hcall'.symm.trans hcall)
    have hphase := hends.phase
    rw [hreturned] at hphase
    obtain ⟨response, hdecision⟩ := hphase
    have hnot : ∀ d, (C.begun trust input readings).phase ≠ .returned d := by
      intro d hd
      unfold Crypto.begun at hd
      split at hd
      · rename_i phase hbegin
        obtain ⟨frame, -, rfl⟩ := beginDispatch_ok hbegin
        cases hd
      · cases hd
    refine ⟨hdecision.isOf, response, hdecision.signed, hdecision.head,
      hdecision.floor.1.sequence_le, fun h hh => (hdecision.floor.2 h hh).sequence_le, ?_, ?_⟩
    · obtain ⟨earlier, readings', later, hafter, hreads⟩ :=
        runs_returned unforgeable hbegun hnot after hcall hreturned
      refine ⟨earlier, readings', later, hafter, ?_⟩
      rw [hrun]
      exact hreads
    · intro revoking hsigned hrecorded hrevokes
      refine ⟨?_, hdecision.stands⟩
      rcases hdecision.floor.2 revoking.head hrecorded with hlt | heq
      · exact hlt
      · -- the same head would be of the same state, which revokes the authorization
        have hdigest : revoking.headDigest = response.headDigest := congrArg Checkpoint.headDigest heq
        have hstate : revoking.state = response.state :=
          collisionFree revoking response hsigned hdecision.signed
            (hsigned.digest.trans (hdigest.trans hdecision.signed.digest.symm))
        have hstands := hdecision.stands
        unfold RevocationResponse.revokes at hrevokes hstands
        rw [← show revoking.revokedAuthorizationIds = response.revokedAuthorizationIds from
            congrArg RevocationState.revokedAuthorizationIds hstate,
          ← show revoking.revokedAuthorizationDigests = response.revokedAuthorizationDigests from
            congrArg RevocationState.revokedAuthorizationDigests hstate] at hstands
        rw [hstands] at hrevokes
        cases hrevokes

end Worlds

/-! ### A decision -/

def sampleDigest (c : Char) : String := "sha256:" ++ String.ofList (List.replicate 64 c)

def sampleBinding : Binding :=
  { executionPurpose := "qualification"
    releaseAttemptId := "attempt"
    sourceSha := "b0"
    producerWorkflow := ⟨".github/workflows/sanitized-snapshot.yml", "main", sampleDigest 'a'⟩
    rcWorkflow := ⟨".github/workflows/release-candidate-gate.yml", "main", sampleDigest 'a'⟩
    buildProofDigest := sampleDigest 'a'
    buildBundleDigest := sampleDigest 'a'
    repositoryContractDigest := sampleDigest 'a'
    adapterDigest := sampleDigest 'a'
    revocationPolicyDigest := sampleDigest 'a' }

def sampleAuthorization : Authorization :=
  { sampleBinding with
    schemaVersion := "rc-dispatch-authorization.v1"
    authorizationId := "authorization"
    issuer := "authority"
    issuedAt := "2026-09-04T00:00:00Z"
    notAfter := "2026-09-04T00:10:00.123456Z" }

def sampleArchive : Archive :=
  { reference := "archive"
    objectKey := "archive"
    objectVersion := "version-1"
    terminalAt := "2026-09-04T00:00:00.000Z"
    snapshotExpiresAt := none
    downstreamRetainUntil := "2027-03-03T00:00:00.000Z"
    legalHoldUntil := none }

def sampleResponse : RevocationResponse :=
  { schemaVersion := "i0-revocation-read.v1"
    issuer := "i0"
    keyId := "key"
    policyDigest := sampleDigest 'a'
    nonce := "nonce"
    authorizationDigest := sampleDigest '1'
    sequence := 2
    headDigest := sampleDigest '2'
    issuedAt := "2026-09-04T00:01:00.000Z"
    notAfter := "2026-09-04T00:03:00.000Z"
    revokedAuthorizationIds := ["another"]
    revokedAuthorizationDigests := []
    archive := sampleArchive }

/-- The texts of the sample's documents, each as one byte. -/
def sampleJson : Document → List UInt8
  | .authorization _ => [1]
  | .state _ => [2]
  | .response response => if response = sampleResponse then [3] else [0]
  | .observation _ => [4]
  | .receipt _ => [5]
  | .signed _ _ value => 6 :: sampleJson value

def sampleVerify (publicKey : String) (bytes : List UInt8) : Bool :=
  publicKey == "authority" && bytes == [6, 1] || publicKey == "observer" && bytes == [6, 4] ||
    publicKey == "i0" && (bytes == [6, 2] || bytes == [6, 3])

def sampleCrypto : Crypto where
  canonicalJson := sampleJson
  sha256Bytes bytes := sampleDigest (Char.ofNat (48 + (bytes.headD 0).toNat))
  createPublicKey _ := some .ed25519
  verify publicKey bytes _ := sampleVerify publicKey bytes
  validateContract _ := true

def sampleTrust : TrustPolicy where
  repository := ⟨"1253231368", "keqi119/subscription-Saas"⟩
  actorId := "275060624"
  dispatchSigner := ⟨"authority", "key", "authority"⟩
  workflow := ⟨"qualification", sampleBinding.producerWorkflow, sampleBinding.rcWorkflow⟩
  maxAuthorizationLifetimeMs := 3600000
  custody := ⟨⟨"observer", "key", "observer"⟩, "writer", "reader", "store", "owner", ["audit"]⟩
  revocation :=
    { policyDigest := sampleDigest 'a'
      signer := ⟨"i0", "key", "i0"⟩
      reader := ⟨"reader", "file"⟩
      initialCheckpoint := ⟨1, sampleDigest '0'⟩
      timeoutMs := 30000
      maxAgeMs := 120000 }

def sampleSignature (issuer subjectDigest : String) : Signature :=
  { algorithm := "Ed25519"
    issuer := issuer
    keyId := "key"
    subjectDigest := subjectDigest
    signature := String.ofList (List.replicate 86 'A') ++ "==" }

/-- What the archive answers for the document with the byte. -/
def sampleFrame (byte : UInt8) (issuer : String) : ArchivedFrame :=
  let digest := sampleCrypto.sha256Bytes [byte]
  { originalBytes := [byte]
    signature := sampleSignature issuer digest
    receipt :=
      { attestationRef := "attestation"
        contentDigest := digest
        contentSizeBytes := 1
        expiryDisposition := "review"
        owner := "owner"
        readbackAt := "2026-09-04T00:01:00.000Z"
        readbackDigest := digest
        readers := ["audit"]
        receiptId := "90d96a42-b007-4050-9c86-7d98a926a1d0"
        retainUntil := "2027-03-04T00:00:00.000Z"
        schemaVersion := "custody-receipt.v1"
        storeRef := "store"
        uploadedAt := "2026-09-04T00:00:00.000Z" }
    observation :=
      { schemaVersion := "authoritative-custody-observation.v1"
        issuer := "observer"
        keyId := "key"
        storeRef := "store"
        objectKey := "archive"
        objectVersion := "version-1"
        writerIdentity := "writer"
        readerIdentity := "reader"
        contentDigest := digest
        receiptDigest := sampleDigest '5'
        headDigest := digest
        getDigest := digest
        contentSizeBytes := 1
        conditionalCreate := "created"
        acl := "private"
        lastModified := "2026-09-04T00:00:00.000Z"
        readbackAt := "2026-09-04T00:01:00.000Z"
        terminalAt := "2026-09-04T00:00:00.000Z"
        downstreamRetainUntil := "2027-03-03T00:00:00.000Z"
        snapshotExpiresAt := none
        legalHoldUntil := none
        worm := ⟨"worm", "Locked", 181, "2027-03-04T00:00:00.000Z"⟩ }
    observationSignature := sampleSignature "observer" (sampleDigest '4') }

def sampleReadings : Readings := ⟨fun _ => "2026-09-04T00:01:00Z", fun _ => 0, "nonce"⟩

def sampleInput : DispatchInput :=
  { authorization := sampleAuthorization
    signature := some (sampleSignature "authority" (sampleDigest '1'))
    expected := some { sampleBinding with authorizationCustody := sampleArchive }
    source := ⟨"reader", "file"⟩ }

/-- The requests of one call are answered in turn. -/
def sampleAnswers : List DispatchEvent :=
  [.answer 0 .journal sampleReadings,
    .answer 0 (.online (some ⟨sampleResponse, sampleSignature "i0" (sampleDigest '3')⟩)) sampleReadings,
    .answer 0 (.archive (some (sampleFrame 2 "i0"))) sampleReadings,
    .answer 0 (.archive (some (sampleFrame 1 "authority"))) sampleReadings,
    .answer 0 .journal sampleReadings, .record 0 true, .answer 0 .journal sampleReadings,
    .answer 0 .journal sampleReadings]

def sampleDecision : DispatchDecision :=
  { authorization := sampleAuthorization
    authorizationDigest := sampleDigest '1'
    expected := { sampleBinding with authorizationCustody := sampleArchive }
    verifiedAt := 1788480060000
    notAfter := 1788480180000
    revocationSequence := 2
    revocationHeadDigest := sampleDigest '2' }

theorem sample_signed {response : RevocationResponse}
    (h : SignedHead sampleCrypto sampleTrust (fun key bytes => sampleVerify key bytes) response) :
    response = sampleResponse := by
  have hsigned := h.signed
  by_cases heq : response = sampleResponse
  · exact heq
  · dsimp only [sampleCrypto, sampleJson] at hsigned
    rw [if_neg heq] at hsigned
    exact absurd hsigned (by decide)

theorem dispatch_not_rolled_back_sample :
    ∃ call response, (DispatchWorld.run sampleCrypto sampleTrust (some ⟨1, sampleDigest '0'⟩)
        (.begin sampleInput sampleReadings :: sampleAnswers)).calls[0]? = some call ∧
      call.phase = .returned sampleDecision ∧
      SignedHead sampleCrypto sampleTrust (fun key bytes => sampleVerify key bytes) response ∧
      response.head = ⟨2, sampleDigest '2'⟩ ∧ 1 ≤ response.sequence := by
  have hrun : ((DispatchWorld.run sampleCrypto sampleTrust (some ⟨1, sampleDigest '0'⟩)
      (.begin sampleInput sampleReadings :: sampleAnswers)).calls[0]?.map (·.phase)) =
        some (.returned sampleDecision) := by decide +kernel
  obtain ⟨call, hcall, hphase⟩ := Option.map_eq_some_iff.1 hrun
  obtain ⟨-, -, hdecisions⟩ := dispatch_not_rolled_back sampleCrypto sampleTrust
    (fun key bytes => sampleVerify key bytes) (fun _ _ _ h => h)
    (fun response response' h h' _ => by rw [sample_signed h, sample_signed h'])
    (some ⟨1, sampleDigest '0'⟩)
  obtain ⟨-, response, hsigned, hhead, hinitial, -⟩ :=
    hdecisions [] sampleInput sampleReadings sampleAnswers sampleDecision call hcall hphase
  exact ⟨call, response, hcall, hphase, hsigned, hhead, hinitial⟩

end SubscriptionSaas.Release
