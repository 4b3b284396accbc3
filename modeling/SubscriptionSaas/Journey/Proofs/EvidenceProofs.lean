import SubscriptionSaas.Journey.Proofs.SignalProofs
import Mathlib.Data.List.Pairwise

/-!
# The rounds of the delivery evidence

The keys of a round (the completed handover, the decision's manual task, the decision itself) name the
work order or the step, but not the round. So the first round goes as it should, and the keys that it
leaves behind stand in the way of every round that follows a rejection.
-/

namespace SubscriptionSaas.Journey

open Results Runs

variable {cause : Cause} {s s' : State}

/-! ## Evidence, tasks and decisions -/

def Cause.carriesEvidence : Cause → Bool
  | .row payload => payload.evidence?.isSome
  | _ => false

/-- Once there is a task that decides about the delivery evidence, the row that has opened it is
settled. -/
def Settled (s : State) : Prop :=
  s.journey.status.terminal = false → s.rejected = false →
    (∃ task ∈ s.tasks, task.taskType = .deliveryEvidenceDecision) →
      ∀ row ∈ s.outbox, row.payload.evidence?.isSome → row.queued = false

structure EvidenceOk (s : State) : Prop where
  rows : ∀ row ∈ s.outbox, row.payload.evidence?.isSome → ∃ key, row.key = .event key ∧ key.isReady
  /-- The review of the evidence comes with its decision. -/
  reviewed : ∀ e ∈ s.events, ∀ workOrderId decision hashKey,
    e.key = .opsReviewed workOrderId decision hashKey →
      ∃ e' ∈ s.events, ∃ workOrderId hashKey decision, e'.key = .evidenceDecided workOrderId hashKey decision
  settled : Settled s

theorem Move.live (hmove : Move cause s s') (hlive : s'.journey.status.terminal = false) :
    s.journey.status.terminal = false := by
  by_contra hterminal
  rw [Bool.not_eq_false] at hterminal
  rw [hmove.moves.terminal hterminal, hterminal] at hlive
  cases hlive

theorem Moves.notRejected (hmoves : Moves cause s s') (h : s'.rejected = false) : s.rejected = false := by
  obtain ⟨new, heq⟩ := hmoves.events
  unfold State.rejected at h ⊢
  rw [heq, List.any_append, Bool.or_eq_false_iff] at h
  exact h.1

/-- The rows that a move writes. -/
theorem Move.newRow (hmove : Move cause s s') : ∀ row ∈ s'.outbox, row.payload.evidence?.isSome →
    (∃ row' ∈ s.outbox, row'.Same row ∧ (row.queued = true → row'.queued = true)) ∨
      ∃ event, s'.events = s.events ++ [event] ∧ Written cause s event s'.course ∧
        row.key = .event event.key ∧ event.key.isReady := by
  intro row hrow hevidence
  have hold : row ∈ s.outbox → (∃ row' ∈ s.outbox, row'.Same row ∧
      (row.queued = true → row'.queued = true)) := fun h => ⟨row, h, .refl row, id⟩
  have hadded : ∀ (s : State) (key : OutboxKey) (eventType : EventType) (payload : Payload),
      row ∈ (s.writeOutbox key eventType payload).outbox → row ∈ s.outbox ∨
        (row.key = key ∧ row.payload = payload) := by
    intro s key eventType payload hmem
    unfold State.writeOutbox at hmem
    split at hmem
    · exact .inl hmem
    · rcases List.mem_append.1 hmem with hmem | hmem
      · exact .inl hmem
      · rw [List.mem_singleton.1 hmem]
        exact .inr ⟨rfl, rfl⟩
  cases hmove with
  | quiet | touch | replan | attach | decide | openTask => exact .inl (hold hrow)
  | notify source =>
    rcases hadded _ _ _ _ hrow with hmem | ⟨-, hpayload⟩
    · exact .inl (hold hmem)
    · rw [hpayload] at hevidence
      cases hevidence
  | write journey steps event hversion horder hsteps hcourse hevent =>
    rcases hadded _ _ _ _ hrow with hmem | ⟨hkey, hpayload⟩
    · exact .inl (hold hmem)
    · refine .inr ⟨event, writeOutbox_events _ _ _ _, ?_, hkey, ?_⟩
      · rw [writeOutbox_course]
        exact hevent
      · rw [hpayload] at hevidence
        exact hevent.evidence hevidence
  | cancel journey steps jobs event hversion horder hsteps hlive hcourse hevent =>
    rcases hadded _ _ _ _ hrow with hmem | ⟨hkey, hpayload⟩
    · left
      obtain ⟨row', hrow', rfl⟩ := List.mem_map.1 hmem
      refine ⟨row', hrow', ?_⟩
      split
      · exact ⟨⟨rfl, rfl, rfl, rfl⟩, nofun⟩
      · exact ⟨.refl row', id⟩
    · refine .inr ⟨event, writeOutbox_events _ _ _ _, ?_, hkey, ?_⟩
      · rw [writeOutbox_course]
        exact hevent
      · rw [hpayload] at hevidence
        exact hevent.evidence hevidence

/-- A task that decides about evidence is opened by the row that carries it. -/
theorem Move.newTask (hmove : Move cause s s') (hcause : cause.carriesEvidence = false) :
    (∃ task ∈ s'.tasks, task.taskType = .deliveryEvidenceDecision) →
      ∃ task ∈ s.tasks, task.taskType = .deliveryEvidenceDecision := by
  rintro ⟨task, htask, htype⟩
  cases hmove with
  | quiet | touch | replan | attach => exact ⟨task, htask, htype⟩
  | notify source =>
    unfold enqueueNotificationOutbox at htask
    rw [writeOutbox_tasks] at htask
    exact ⟨task, htask, htype⟩
  | decide taskId version decision =>
    obtain ⟨task', htask', rfl⟩ := List.mem_map.1 htask
    refine ⟨task', htask', ?_⟩
    split at htype <;> exact htype
  | openTask step taskType input hstep htaskType hfree hevidence =>
    rcases List.mem_append.1 htask with htask | htask
    · exact ⟨task, htask, htype⟩
    · rw [List.mem_singleton.1 htask] at htype
      obtain ⟨-, payload, rfl, hsome, -⟩ := hevidence htype
      rw [show Cause.carriesEvidence (.row payload) = payload.evidence?.isSome from rfl, hsome] at hcause
      cases hcause
  | write =>
    rw [writeOutbox_tasks] at htask
    exact ⟨task, htask, htype⟩
  | cancel =>
    rw [writeOutbox_tasks] at htask
    obtain ⟨task', htask', rfl⟩ := List.mem_map.1 htask
    refine ⟨task', htask', ?_⟩
    split at htype <;> exact htype

theorem Move.settled (h : Settled s) (hok : s.Ok) (hmove : Move cause s s')
    (hcause : cause.carriesEvidence = false) : Settled s' := by
  intro hlive hrejected htask row hrow hevidence
  have hlive' := hmove.live hlive
  have hrejected' := hmove.moves.notRejected hrejected
  have htask' := hmove.newTask hcause htask
  rcases hmove.newRow row hrow hevidence with ⟨row', hrow', hsame, hqueued⟩ |
    ⟨event, -, hwritten, -, hready⟩
  · have hsettled := h hlive' hrejected' htask' row' hrow' (hsame.payload ▸ hevidence)
    by_contra hnot
    rw [hqueued (by simpa using hnot)] at hsettled
    cases hsettled
  · -- the step of the handover comes before the decision
    obtain ⟨task, htask, htype⟩ := htask'
    have hcode := hwritten.atStep _ (EventKey.stepCode_of_isReady hready)
    have hle := (hok.keys hlive').tasks hrejected' task htask htype
    rw [hcode] at hle
    exact absurd hle (by decide)

theorem Moves.settled (h : Settled s) (hok : s.Ok) (hmoves : Moves cause s s')
    (hcause : cause.carriesEvidence = false) : Settled s' := by
  induction hmoves with
  | refl => exact h
  | tail hbefore hmove ih => exact hmove.settled ih (hok.moves hbefore) hcause

theorem Moves.evidenceRows (hmoves : Moves cause s s')
    (h : ∀ row ∈ s.outbox, row.payload.evidence?.isSome → ∃ key, row.key = .event key ∧ key.isReady) :
    ∀ row ∈ s'.outbox, row.payload.evidence?.isSome → ∃ key, row.key = .event key ∧ key.isReady := by
  induction hmoves with
  | refl => exact h
  | tail _ hmove ih =>
    intro row hrow hevidence
    rcases hmove.newRow row hrow hevidence with ⟨row', hrow', hsame, -⟩ | ⟨event, -, -, hkey, hready⟩
    · obtain ⟨key, hkey, hready⟩ := ih row' hrow' (hsame.payload ▸ hevidence)
      exact ⟨key, hsame.key.trans hkey, hready⟩
    · exact ⟨event.key, hkey, hready⟩

/-- A review is written by the decision only. -/
theorem Moves.reviews (hmoves : Moves cause s s') (hcause : cause ≠ .review) :
    ∀ e ∈ s'.events, ∀ workOrderId decision hashKey,
      e.key = .opsReviewed workOrderId decision hashKey → e ∈ s.events := by
  induction hmoves with
  | refl => exact fun e he _ _ _ _ => he
  | tail _ hmove ih =>
    intro e he workOrderId decision hashKey hkey
    rcases hmove.written with ⟨hevents, -⟩ | ⟨event, hevents, -, hwritten, -⟩
    · exact ih e (hevents ▸ he) workOrderId decision hashKey hkey
    · rw [hevents] at he
      rcases List.mem_append.1 he with he | he
      · exact ih e he workOrderId decision hashKey hkey
      · rw [List.mem_singleton.1 he] at hkey
        exact absurd (hwritten.reviewed workOrderId decision hashKey hkey) hcause

/-! ## Every step -/

/-- An operation under a key leaves an event of the key, whether it is repeated or not. -/
theorem completeStep_key {key : EventKey} {expectedVersion : Nat} {stepId : Id} {payload : StepPayload}
    {factVersion : Option Nat}
    (h : completeStep key expectedVersion stepId payload factVersion s = .ok s') :
    ∃ e ∈ s'.events, e.key = key := by
  unfold completeStep at h
  split at h
  · rename_i duplicate hfound
    obtain ⟨_, -, h⟩ := bind_ok h
    rw [readStep_ok h]
    exact ⟨duplicate, List.mem_of_find?_eq_some hfound, by simpa using List.find?_some hfound⟩
  · obtain ⟨step, -, h⟩ := bind_ok h
    obtain ⟨_, -, h⟩ := bind_ok h
    obtain ⟨s₁, -, h⟩ := bind_ok h
    obtain ⟨-, rfl⟩ := writeEventAndOutbox_ok h
    rw [writeOutbox_events]
    exact ⟨_, List.mem_append_right _ (List.mem_singleton_self _), rfl⟩

theorem returnToHandoverEvidence_key {key : EventKey} {expectedVersion : Nat} {payload : StepPayload}
    {decisionStepId : Id}
    (h : returnToHandoverEvidence key expectedVersion payload decisionStepId s = .ok s') :
    ∃ e ∈ s'.events, e.key = key := by
  unfold returnToHandoverEvidence at h
  split at h
  · rename_i duplicate hfound
    obtain ⟨_, -, h⟩ := bind_ok h
    split at h
    · obtain rfl := Except.ok.inj h
      exact ⟨duplicate, List.mem_of_find?_eq_some hfound, by simpa using List.find?_some hfound⟩
    · cases h
  · obtain ⟨step, -, h⟩ := bind_ok h
    obtain ⟨_, -, h⟩ := bind_ok h
    obtain ⟨-, h⟩ := guard_ok h
    dsimp only at h
    obtain ⟨s₁, -, h⟩ := bind_ok h
    obtain ⟨-, rfl⟩ := writeEventAndOutbox_ok h
    rw [writeOutbox_events]
    exact ⟨_, List.mem_append_right _ (List.mem_singleton_self _), rfl⟩

theorem decideDeliveryEvidence_key {expectedVersion : Nat} {decision : Decision}
    {manifestHash : Hash} {workOrderId : Id}
    (h : decideDeliveryEvidence expectedVersion decision manifestHash workOrderId s = .ok s') :
    ∃ e ∈ s'.events, ∃ workOrderId hashKey decision, e.key = .evidenceDecided workOrderId hashKey decision := by
  unfold decideDeliveryEvidence completeHandoverEvidenceDecision at h
  obtain ⟨_, -, h⟩ := bind_ok h
  obtain ⟨_, -, h⟩ := bind_ok h
  obtain ⟨-, h⟩ := guard_ok h
  obtain ⟨_, -, h⟩ := bind_ok h
  dsimp only at h
  obtain ⟨-, h⟩ := guard_ok h
  obtain ⟨s₁, -, h⟩ := bind_ok h
  obtain ⟨s₂, -, h⟩ := bind_ok h
  split at h
  · obtain ⟨e, he, hkey⟩ := completeStep_key h
    exact ⟨e, he, _, _, _, hkey⟩
  · obtain ⟨e, he, hkey⟩ := returnToHandoverEvidence_key h
    exact ⟨e, he, _, _, _, hkey⟩

theorem EvidenceOk.moves (h : EvidenceOk s) (hok : s.Ok) (hmoves : Moves cause s s')
    (hcause : cause.carriesEvidence = false)
    (hreviewed : cause = .review → s' = s ∨
      ∃ e ∈ s'.events, ∃ workOrderId hashKey decision, e.key = .evidenceDecided workOrderId hashKey decision) :
    EvidenceOk s' := by
  refine ⟨hmoves.evidenceRows h.rows, ?_, hmoves.settled h.settled hok hcause⟩
  intro e he workOrderId decision hashKey hkey
  have hkept : e ∈ s.events → ∃ e' ∈ s'.events, ∃ workOrderId hashKey decision,
      e'.key = .evidenceDecided workOrderId hashKey decision := by
    intro hbefore
    obtain ⟨e', he', hdecided⟩ := h.reviewed e hbefore workOrderId decision hashKey hkey
    obtain ⟨new, heq⟩ := hmoves.events
    exact ⟨e', heq ▸ List.mem_append_left _ he', hdecided⟩
  by_cases hcause' : cause = .review
  · rcases hreviewed hcause' with rfl | hdecided
    · exact hkept he
    · exact hdecided
  · exact hkept (hmoves.reviews hcause' e he workOrderId decision hashKey hkey)

/-- A row that is returned has been under way. -/
theorem EvidenceOk.update (h : EvidenceOk s) {claim : OutboxRow} {data : OutboxRow → OutboxRow}
    (hdata : Returned data) (hupdate : updateOutbox claim data s = .ok s') : EvidenceOk s' := by
  obtain ⟨-, hupdate⟩ := check_ok hupdate
  obtain rfl := Except.ok.inj hupdate
  refine ⟨?_, h.reviewed, ?_⟩
  · intro row' hrow' hevidence
    obtain ⟨row, hrow, rfl⟩ := List.mem_map.1 hrow'
    have hsame := leased_row (p := claim.leased s.now) hdata.same row
    obtain ⟨key, hkey, hready⟩ := h.rows row hrow (hsame.payload ▸ hevidence)
    exact ⟨key, hsame.key.trans hkey, hready⟩
  · intro hlive hrejected htask row' hrow' hevidence
    obtain ⟨row, hrow, rfl⟩ := List.mem_map.1 hrow'
    have hsame := leased_row (p := claim.leased s.now) hdata.same row
    have hsettled := h.settled hlive hrejected htask row hrow (hsame.payload ▸ hevidence)
    have hnot : claim.leased s.now row = false := by
      by_contra hleased
      simp only [OutboxRow.leased, Bool.not_eq_false, Bool.and_eq_true, beq_iff_eq] at hleased
      simp [OutboxRow.queued, hleased.1.1.2] at hsettled
    rw [hnot]
    exact hsettled

theorem EvidenceOk.touch (h : EvidenceOk s) (steps : List Step) :
    EvidenceOk { s with steps := steps } := ⟨h.rows, h.reviewed, h.settled⟩

theorem EvidenceOk.claim (h : EvidenceOk s) (ids : List Id) (leaseMs : Int) (token : Token) :
    EvidenceOk (claimOutbox ids leaseMs token s) := by
  unfold claimOutbox
  split
  · exact h
  · have hlease : ∀ row : OutboxRow, row.Same
        (if (ids.contains row.id && row.claimable s.now) = true then
          { row with
            status := .processing
            leaseToken := some token
            leaseExpiresAt := some (s.now + leaseMs) }
        else row) := by
      intro row
      split
      · exact ⟨rfl, rfl, rfl, rfl⟩
      · exact .refl row
    refine ⟨?_, h.reviewed, ?_⟩
    · intro row' hrow' hevidence
      obtain ⟨row, hrow, rfl⟩ := List.mem_map.1 hrow'
      have hsame := hlease row
      obtain ⟨key, hkey, hready⟩ := h.rows row hrow (hsame.payload ▸ hevidence)
      exact ⟨key, hsame.key.trans hkey, hready⟩
    · intro hlive hrejected htask row' hrow' hevidence
      obtain ⟨row, hrow, rfl⟩ := List.mem_map.1 hrow'
      have hsettled := h.settled hlive hrejected htask row hrow ((hlease row).payload ▸ hevidence)
      dsimp only
      split
      · -- a settled row is not claimed
        rename_i hclaimed
        simp only [OutboxRow.queued, Bool.or_eq_false_iff] at hsettled
        simp [OutboxRow.claimable, hsettled.1, hsettled.2] at hclaimed
      · exact hsettled

/-- In the first round there is one row with evidence. -/
theorem EvidenceOk.unique (h : ∀ row ∈ s.outbox, row.payload.evidence?.isSome →
      ∃ key, row.key = .event key ∧ key.isReady) (hok : s.Ok)
    (hlive : s.journey.status.terminal = false) (hrejected : s.rejected = false) {row row' : OutboxRow}
    (hrow : row ∈ s.outbox) (hrow' : row' ∈ s.outbox) (hevidence : row.payload.evidence?.isSome)
    (hevidence' : row'.payload.evidence?.isSome) : row = row' := by
  obtain ⟨key, hkey, hready⟩ := h row hrow hevidence
  obtain ⟨key', hkey', hready'⟩ := h row' hrow' hevidence'
  obtain ⟨e, he, hekey, -⟩ := hok.outbox.events row hrow key hkey
  obtain ⟨e', he', hekey', -⟩ := hok.outbox.events row' hrow' key' hkey'
  have honce := (hok.keys hlive).once hrejected
  have hsame : e = e' := by
    by_contra hne
    have hsymmetric : Std.Symm fun event event' : JourneyEvent =>
        event.key.isReady = true → ¬event'.key.isReady = true :=
      ⟨fun _ _ himp hready hready' => himp hready' hready⟩
    exact honce.forall he he' hne (hekey ▸ hready) (hekey' ▸ hready')
  refine List.inj_on_of_nodup_map hok.outbox.keys hrow hrow' ?_
  rw [hkey, hkey', ← hekey, ← hekey', hsame]

theorem EvidenceOk.dispatch (h : EvidenceOk s) (hok : s.Ok) (hgrants : GrantsOk s)
    {handle : OutboxRow → State → Result} {claim : OutboxRow} (hclaim : claim ∈ s.grantedOutbox)
    (hcause : cause = .command ∨ cause = .row claim.payload)
    (hhandle : ∀ s', handle claim s = .ok s' →
      ∃ s₁, (s₁ = s ∨ (s.stepOf s.journey.currentStepCode = none ∧
        s₁ = s.touched s.journey.currentStepCode)) ∧ Moves cause s₁ s') :
    EvidenceOk (Journey.dispatch handle claim s) := by
  have hnotReview : cause ≠ .review := by
    rcases hcause with rfl | rfl <;> nofun
  rcases dispatch_eq handle claim s with ⟨s₂, hsucceeded, hcomplete⟩ | ⟨failure, -, hfailed⟩
  · obtain ⟨s₁, hs₁, hmoves⟩ := hhandle s₂ hsucceeded
    have hbefore : EvidenceOk s₁ ∧ s₁.Ok ∧ GrantsOk s₁ ∧ s₁.grantedOutbox = s.grantedOutbox := by
      rcases hs₁ with rfl | ⟨hnone, rfl⟩
      · exact ⟨h, hok, hgrants, rfl⟩
      · exact ⟨h.touch _, hok.touch hnone, ⟨hgrants.rows, hgrants.failed⟩, rfl⟩
    obtain ⟨h₁, hok₁, hgrants₁, hgranted⟩ := hbefore
    by_cases hcarries : cause.carriesEvidence = false
    · obtain ⟨data, hdata, hupdate⟩ := completeOutbox_ok hcomplete
      exact (h₁.moves hok₁ hmoves hcarries fun hreview => absurd hreview hnotReview).update hdata hupdate
    · -- the row that carries the evidence is delivered, and there is no other
      have hevidence : claim.payload.evidence?.isSome = true := by
        rw [Bool.not_eq_false] at hcarries
        rcases hcause with rfl | rfl
        · cases hcarries
        · exact hcarries
      have hrows := hmoves.evidenceRows h₁.rows
      have hok₂ := hok₁.moves hmoves
      obtain ⟨claimed, hclaimed, hsame⟩ := (hgrants₁.moves hmoves).rows claim
        (by rw [hmoves.record.granted, hgranted]; exact hclaim)
      obtain ⟨hleased, hupdate⟩ := check_ok hcomplete
      obtain ⟨row, hrow, hlease⟩ := List.any_eq_true.1 hleased
      have hid : row.id = claim.id := by
        simp only [OutboxRow.leased, Bool.and_eq_true, beq_iff_eq] at hlease
        exact hlease.1.1.1
      have heq : row = claimed :=
        List.inj_on_of_nodup_map hok₂.outbox.nodup_ids hrow hclaimed (hid.trans hsame.id)
      have hfinal := Except.ok.inj hupdate
      rw [← hfinal]
      refine ⟨?_, ?_, ?_⟩
      · intro row'' hrow'' hevidence''
        obtain ⟨row', hrow', rfl⟩ := List.mem_map.1 hrow''
        have hpayload : row'.payload.evidence?.isSome = true := by
          split at hevidence'' <;> exact hevidence''
        obtain ⟨key, hkey, hready⟩ := hrows row' hrow' hpayload
        refine ⟨key, ?_, hready⟩
        split <;> exact hkey
      · intro e he workOrderId decision hashKey hkey
        have hbefore := hmoves.reviews hnotReview e he workOrderId decision hashKey hkey
        obtain ⟨e', he', hdecided⟩ := h₁.reviewed e hbefore workOrderId decision hashKey hkey
        obtain ⟨new, hnew⟩ := hmoves.events
        refine ⟨e', ?_, hdecided⟩
        show e' ∈ s₂.events
        rw [hnew]
        exact List.mem_append_left _ he'
      · intro hlive hrejected _ row'' hrow'' hevidence''
        obtain ⟨row', hrow', rfl⟩ := List.mem_map.1 hrow''
        have hpayload : row'.payload.evidence?.isSome = true := by
          split at hevidence'' <;> exact hevidence''
        have hclaimedEvidence : claimed.payload.evidence?.isSome = true := by
          rw [← hsame.payload]
          exact hevidence
        have hunique := EvidenceOk.unique hrows hok₂ hlive hrejected hrow' hclaimed hpayload
          hclaimedEvidence
        rw [hunique, ← heq, hlease]
        rfl
  · rw [hfailed]
    exact ⟨h.rows, h.reviewed, h.settled⟩

theorem EvidenceOk.step (h : EvidenceOk s) (hok : s.Ok) (hgrants : GrantsOk s) {e : Command}
    (hretries : RetriesOnCourse s e) : EvidenceOk (step s e) := by
  by_cases hleases : e.leases = false
  · have hmoves := step_moves hok hretries hleases
    refine h.moves hok hmoves ?_ ?_
    · cases e <;> first | rfl | cases hleases
    · intro hreview
      cases e with
      | decideDeliveryEvidence expectedVersion decision manifestHash workOrderId =>
        exact (commit_eq s _).imp_right fun hdecided => decideDeliveryEvidence_key hdecided
      | _ => cases hreview
  · cases e with
    | claimOutbox ids leaseMs token => exact h.claim ids leaseMs token
    | dispatchSignal claim =>
      dsimp only [Journey.step]
      split
      · rename_i hclaim
        exact h.dispatch hok hgrants hclaim.1 (.inr rfl)
          fun _ hhandle => dispatchSignalOutbox_moves hok hhandle
      · exact h
    | dispatchNotification claim =>
      dsimp only [Journey.step]
      split
      · rename_i hclaim
        exact h.dispatch hok hgrants hclaim.1 (.inl rfl)
          fun _ hhandle => dispatchNotificationOutbox_moves hok hhandle
      · exact h
    | failOutbox claim failure delayMs =>
      dsimp only [Journey.step]
      split
      · rcases commit_eq s (handleOutboxFailure claim (sanitizeJourneyFailure failure) delayMs)
          with heq | hfailure
        · rw [heq]
          exact h
        · obtain ⟨data, hdata, hupdate⟩ := handleOutboxFailure_ok hfailure
          exact h.update hdata hupdate
      · exact h
    | claimJobs ids leaseMs token =>
      dsimp only [Journey.step]
      unfold claimJobs
      split
      · exact h
      · exact ⟨h.rows, h.reviewed, h.settled⟩
    | tick => exact ⟨h.rows, h.reviewed, h.settled⟩
    | _ => exact absurd rfl hleases

/-! ## The first round -/

/-- A task of a type that has no task yet is opened for the current step. -/
theorem openManualTask_opens (hok : s.Ok) {step : Step} (hcurrent : Current s step)
    {taskType : TaskType} (htype : manualTaskTypeFor step.code = some taskType)
    (hfree : ∀ task ∈ s.tasks, task.taskType ≠ taskType)
    (hfresh : ∀ e ∈ s.events, e.key ≠ .waitingManual step.code) (input : TaskInput) :
    ∃ s', openManualTask step.id input s = .ok s' ∧
      s'.tasks = s.tasks ++ [⟨s.tasks.length, step.id, taskType, .open, none, input, 0⟩] ∧
        (∀ row ∈ s.outbox, row ∈ s'.outbox) ∧ s'.now = s.now := by
  have hnone : ¬(s.tasks.any fun task => task.status == .open && task.taskType == taskType) = true := by
    rw [List.any_eq_true]
    rintro ⟨task, htask, hsame⟩
    rw [Bool.and_eq_true, beq_iff_eq, beq_iff_eq] at hsame
    exact hfree task htask hsame.2
  have hcreated : ∃ s', createOpenTask step.id taskType input step s = .ok s' ∧
      s'.tasks = s.tasks ++ [⟨s.tasks.length, step.id, taskType, .open, none, input, 0⟩] ∧
        (∀ row ∈ s.outbox, row ∈ s'.outbox) ∧ s'.now = s.now := by
    unfold createOpenTask State.createManualTask
    rw [if_neg hnone]
    dsimp only [bind, Except.bind]
    unfold State.updateJourneyVersion
    rw [if_pos rfl]
    dsimp only
    refine ⟨_, writeEventAndOutbox_succeeds hok (by rfl) hfresh _ _, ?_, ?_, ?_⟩
    · exact writeOutbox_tasks _ _ _ _
    · intro row hrow
      refine writeOutbox_rows _ _ _ _ row ?_
      exact hrow
    · refine (writeOutbox_record _ _ _ _).now.trans ?_
      rfl
  obtain ⟨s', hcreate, hrest⟩ := hcreated
  refine ⟨s', ?_, hrest⟩
  unfold openManualTask
  rw [lockJourneyStep_succeeds hok.steps hcurrent.mem]
  dsimp only [bind, Except.bind]
  rw [validateCurrentStep_succeeds hok.steps hcurrent]
  dsimp only
  rw [htype]
  dsimp only
  rw [if_neg hnone, hcreate]

/-- The row of a completed handover opens the only task of its kind. -/
theorem EvidenceOk.opens (h : EvidenceOk s) (hok : s.Ok) (hgrants : GrantsOk s) (hruns : s.Runs)
    (hrejected : s.rejected = false) (hcode : s.journey.currentStepCode = .deliveryEvidenceDecision)
    {claim : OutboxRow} {evidence : Evidence} (hpayload : claim.payload.evidence? = some evidence)
    (hheld : claim.Held s) :
    ∃ task, (Journey.dispatch dispatchSignalOutbox claim s).tasks.filter (fun task =>
        task.status == .open && task.taskType == .deliveryEvidenceDecision) = [task] ∧
      task.inputSnapshot.evidence = some evidence := by
  obtain ⟨hclaim, row, hrow, hlease⟩ := hheld
  -- no such task exists, since the row is under way
  have hfree : ∀ task ∈ s.tasks, task.taskType ≠ .deliveryEvidenceDecision := by
    intro task htask htype
    obtain ⟨claimed, hclaimed, hsame⟩ := hgrants.rows claim hclaim
    simp only [OutboxRow.leased, Bool.and_eq_true, beq_iff_eq] at hlease
    have heq : row = claimed := List.inj_on_of_nodup_map hok.outbox.nodup_ids hrow hclaimed
      (hlease.1.1.1.trans hsame.id)
    have hevidence : row.payload.evidence?.isSome = true := by
      rw [heq, ← hsame.payload, hpayload]
      rfl
    have hsettled := h.settled hruns.1 hrejected ⟨task, htask, htype⟩ row hrow hevidence
    simp [OutboxRow.queued, hlease.1.1.2] at hsettled
  have hfresh : ∀ e ∈ s.events, e.key ≠ .waitingManual .deliveryEvidenceDecision := by
    intro e he hkey
    obtain ⟨task, htask, htype⟩ := (hok.keys hruns.1).waiting e he _ hkey
    exact hfree task htask (Option.some.inj htype).symm
  obtain ⟨s₁, step, hread, hnotified⟩ := readCurrentJourney_notified hok claim
  have hjourney := hnotified.journey
  have hcurrent := hnotified.current hruns
  have hstepCode : step.code = .deliveryEvidenceDecision := by
    rw [← hnotified.code, hjourney, hcode]
  have htype : manualTaskTypeFor step.code = some .deliveryEvidenceDecision := by
    rw [hstepCode]
    rfl
  obtain ⟨s₂, hopened, htasks, hrows, hclock⟩ := openManualTask_opens hnotified.ok hcurrent htype
    (hnotified.tasks ▸ hfree) (by rw [hnotified.events, hstepCode]; exact hfresh)
    ⟨s.journey.applicationId, s.application.finalPlanRevision, some evidence, none⟩
  have hdispatch : dispatchSignalOutbox claim s = .ok s₂ := by
    have hsnapshot : readHandoverEvidenceSnapshot claim.payload = .ok evidence := by
      unfold Payload.evidence? at hpayload
      split at hpayload
      · rename_i hclaimPayload
        rw [hclaimPayload, ← Option.some.inj hpayload]
        rfl
      · cases hpayload
    have hnotSignal : ∀ signal version, claim.payload ≠ .signal signal version := by
      intro signal version hsignal
      rw [hsignal] at hpayload
      cases hpayload
    unfold dispatchSignalOutbox
    rw [hread]
    dsimp only
    split
    · rename_i hsignal
      exact absurd hsignal (hnotSignal _ _)
    · rw [hjourney, hcode]
      dsimp only
      unfold dispatchStep
      rw [hjourney, hcode, hnotified.application, hsnapshot]
      exact hopened
  have hstillLeased : ∃ row ∈ s₂.outbox, claim.leased s₂.now row := by
    refine ⟨row, hrows row (hnotified.rows row hrow), ?_⟩
    rw [hclock, hnotified.now]
    exact hlease
  have hsame := dispatch_succeeds hdispatch hstillLeased
  refine ⟨⟨s.tasks.length, step.id, .deliveryEvidenceDecision, .open, none,
    ⟨s.journey.applicationId, s.application.finalPlanRevision, some evidence, none⟩, 0⟩, ?_, rfl⟩
  rw [hsame.tasks, htasks, hnotified.tasks, List.filter_append]
  have hnone : s.tasks.filter (fun task =>
      task.status == .open && task.taskType == .deliveryEvidenceDecision) = [] := by
    refine List.filter_eq_nil_iff.2 fun task htask hsame => ?_
    rw [Bool.and_eq_true, beq_iff_eq, beq_iff_eq] at hsame
    exact hfree task htask hsame.2
  rw [hnone]
  rfl

/-- A rejection sends the journey back to the handover. -/
theorem returnToHandoverEvidence_succeeds (hok : s.Ok) {step : Step} (hcurrent : Current s step)
    (hcode : step.code = .deliveryEvidenceDecision) {key : EventKey}
    (hfresh : ∀ e ∈ s.events, e.key ≠ key) (payload : StepPayload) :
    ∃ s', returnToHandoverEvidence key s.journey.version payload step.id s = .ok s' ∧
      s'.journey.currentStepCode = .handoverAndStage2Creation ∧ s'.tasks = s.tasks := by
  obtain ⟨s₁, handoverStep, -, -, -, ⟨steps, rfl, -⟩, row, hupsert, -⟩ :=
    upsertStep_touch .review hok .handoverAndStage2Creation .running (by
      intro hcancelled
      have hlive := hcurrent.move.live
      rw [show s.course.status = _ from hcancelled] at hlive
      cases hlive)
  unfold returnToHandoverEvidence
  rw [event?_of_fresh hfresh]
  dsimp only
  rw [lockJourneyStep_succeeds hok.steps hcurrent.mem]
  dsimp only [bind, Except.bind]
  rw [validateCurrentStep_succeeds hok.steps hcurrent]
  dsimp only
  rw [if_neg (by rw [hcode]; simp), hupsert]
  dsimp only
  unfold State.updateJourneyVersion
  rw [if_pos (by rfl)]
  dsimp only
  refine ⟨_, writeEventAndOutbox_succeeds hok (by rfl) hfresh _ _, ?_, ?_⟩
  · exact congrArg Course.code (writeOutbox_course _ _ _ _)
  · exact writeOutbox_tasks _ _ _ _

/-- Only the decision about the delivery evidence has tasks of its type. -/
theorem manualTaskTypeFor_delivery {code : StepCode}
    (h : manualTaskTypeFor code = some .deliveryEvidenceDecision) : code = .deliveryEvidenceDecision := by
  cases code <;> first | rfl | cases h

/-- The step at which the evidence is decided, and its open task. -/
theorem requireManualTask_succeeds (hok : s.Ok)
    (hcode : s.journey.currentStepCode = .deliveryEvidenceDecision) {task : ManualTask}
    (htask : task ∈ s.tasks) (hopen : task.status = .open)
    (htype : task.taskType = .deliveryEvidenceDecision) (mismatch missing : String) :
    ∃ step ∈ s.steps, step.code = .deliveryEvidenceDecision ∧
      requireManualTask .deliveryEvidenceDecision mismatch missing s = .ok (step, task) := by
  obtain ⟨step, hstep, hid, hstepType⟩ := hok.tasks.steps task htask
  rw [htype] at hstepType
  have hstepCode := manualTaskTypeFor_delivery hstepType
  have hfound : s.stepOf .deliveryEvidenceDecision = some step := by
    rw [← hstepCode]
    exact hok.steps.find_code hstep
  have hopenTask : s.openTask? step.id = some task := by
    have hsome : (s.openTask? step.id).isSome := by
      refine List.find?_isSome.2 ⟨task, htask, ?_⟩
      simp [hopen, hid]
    obtain ⟨task', htask'⟩ := Option.isSome_iff_exists.1 hsome
    have hmem := List.mem_of_find?_eq_some htask'
    have hsame := List.find?_some htask'
    rw [Bool.and_eq_true, beq_iff_eq, beq_iff_eq] at hsame
    obtain ⟨step', hstep', hid', hstepType'⟩ := hok.tasks.steps task' hmem
    have hsteps : step' = step :=
      List.inj_on_of_nodup_map hok.steps.nodup_ids hstep' hstep (hid'.trans hsame.2)
    rw [hsteps, hstepType] at hstepType'
    have htasks : task' = task := by
      refine List.inj_on_of_nodup_map hok.tasks.types (List.mem_filter.2 ⟨hmem, ?_⟩)
        (List.mem_filter.2 ⟨htask, ?_⟩) ?_
      · simp [hsame.1]
      · simp [hopen]
      · rw [htype, ← Option.some.inj hstepType']
    rw [htask', htasks]
  refine ⟨step, hstep, hstepCode, ?_⟩
  unfold requireManualTask
  rw [if_neg (by simp [hcode]), hfound]
  dsimp only
  rw [hopenTask]

/-- The decision of the open task takes effect. -/
theorem EvidenceOk.decides (h : EvidenceOk s) (hok : s.Ok) (hruns : s.Runs)
    (hrejected : s.rejected = false) (hcode : s.journey.currentStepCode = .deliveryEvidenceDecision)
    {task : ManualTask} (htask : task ∈ s.tasks) (hopen : task.status = .open)
    (htype : task.taskType = .deliveryEvidenceDecision) {evidence : Evidence}
    (hevidence : task.inputSnapshot.evidence = some evidence) (decision : Decision) :
    ∃ s', decideDeliveryEvidence s.journey.version decision evidence.manifestHash
        evidence.workOrderId s = .ok s' ∧
      s'.journey.currentStepCode = (match decision with
        | .approved => .authoritativeActivation
        | .rejected => .handoverAndStage2Creation) ∧
      ∃ task' ∈ s'.tasks, task'.id = task.id ∧ task'.status = .completed ∧
        task'.decision = some decision := by
  have hkeys := hok.keys hruns.1
  -- neither the decision nor its review is there yet
  have hundecided : ∀ e ∈ s.events, ∀ workOrderId hashKey decision,
      e.key ≠ .evidenceDecided workOrderId hashKey decision := by
    intro e he workOrderId hashKey decision hkey
    have hlt := hkeys.decided hrejected e he workOrderId hashKey decision hkey
    rw [hcode] at hlt
    exact Nat.lt_irrefl _ hlt
  have hunreviewed : ∀ e ∈ s.events, e.key ≠
      Signal.eventKey (.handoverOpsReviewed decision evidence.manifestHash evidence.workOrderId) := by
    intro e he hkey
    obtain ⟨e', he', workOrderId, hashKey, decision, hdecided⟩ := h.reviewed e he _ _ _ hkey
    exact hundecided e' he' workOrderId hashKey decision hdecided
  obtain ⟨step, hstep, hstepCode, hrequire⟩ := requireManualTask_succeeds hok hcode htask hopen htype
    "The aggregate delivery-evidence decision does not match the current journey step."
    "The open delivery-evidence decision task was not found."
  have hfound : (s.stepOf .deliveryEvidenceDecision).isSome = true := by
    rw [← hstepCode]
    show (s.steps.find? (·.code == step.code)).isSome = true
    rw [hok.steps.find_code hstep]
    rfl
  have horder : ¬s.journey.orderId.isNone = true := by
    have hordered := hkeys.ordered (by rw [hcode]; decide)
    rw [Option.isNone_iff_eq_none]
    intro hnone
    rw [hnone] at hordered
    cases hordered
  -- the signal is recorded and the task decided
  let signal : Signal := .handoverOpsReviewed decision evidence.manifestHash evidence.workOrderId
  obtain ⟨s₁, hrecord, hjourney₁, hevents₁, hsteps₁, htasks₁⟩ : ∃ s₁,
      recordSignal signal s = .ok s₁ ∧
        s₁.journey = { s.journey with version := s.journey.version + 1 } ∧
          s₁.events = s.events ++ [⟨s.journey.version + 1, signal.eventKey, .domainFactObserved,
            .signal signal (s.journey.version + 1)⟩] ∧ s₁.steps = s.steps ∧ s₁.tasks = s.tasks := by
    refine ⟨_, recordSignal_succeeds hok hunreviewed, ?_⟩
    rw [writeOutbox_of_fresh]
    · exact ⟨rfl, rfl, rfl, rfl⟩
    · exact hok.outbox.event_fresh hunreviewed
  obtain ⟨s₂, hdecide, hjourney₂, hevents₂, hsteps₂, hdecided⟩ : ∃ s₂,
      decideManualTask task.id task.version decision s₁ = .ok s₂ ∧ s₂.journey = s₁.journey ∧
        s₂.events = s₁.events ∧ s₂.steps = s₁.steps ∧ ∃ task' ∈ s₂.tasks, task'.id = task.id ∧
          task'.status = .completed ∧ task'.decision = some decision := by
    have hmem : task ∈ s₁.tasks := htasks₁ ▸ htask
    refine ⟨_, if_pos (List.any_eq_true.2 ⟨task, hmem, by simp [hopen]⟩), rfl, rfl, rfl, ?_⟩
    refine ⟨_, List.mem_map_of_mem hmem, ?_⟩
    rw [if_pos (by simp [hopen])]
    exact ⟨rfl, rfl, rfl⟩
  have hrecorded : Moves .review s s₁ := recordSignal_moves (fun _ => ⟨rfl, hcode⟩) hrecord
  have hok₂ := hok.moves (hrecorded.trans (decideManualTask_moves hdecide))
  have hcode₂ : s₂.journey.currentStepCode = .deliveryEvidenceDecision := by
    rw [hjourney₂, hjourney₁]
    exact hcode
  have hruns₂ : s₂.Runs := by
    obtain ⟨hlive, hrunning⟩ := hruns
    unfold State.Runs State.Halted
    rw [hjourney₂, hjourney₁]
    exact ⟨hlive, hrunning⟩
  have hversion₂ : s₂.journey.version = s.journey.version + 1 := by rw [hjourney₂, hjourney₁]
  have hcurrent : Current s₂ step := by
    refine hok₂.canMove hruns₂.1 (fun hpaused => hruns₂.2 (.inl hpaused))
      (fun hexception => hruns₂.2 (.inr hexception)) ?_ (hcode₂.trans hstepCode.symm)
    rw [hsteps₂, hsteps₁]
    exact hstep
  have hfresh : ∀ e ∈ s₂.events, e.key ≠
      .evidenceDecided evidence.workOrderId (evidence.manifestHash.take 12) decision := by
    intro e he
    rw [hevents₂, hevents₁] at he
    rcases List.mem_append.1 he with he | he
    · exact hundecided e he _ _ _
    · rw [List.mem_singleton.1 he]
      nofun
  let finish : Decision → Result := fun outcome =>
    match outcome with
    | .approved => completeStep (.evidenceDecided evidence.workOrderId
        (evidence.manifestHash.take 12) decision) s₂.journey.version step.id
        (.decision decision evidence.manifestHash evidence.workOrderId) none s₂
    | .rejected => returnToHandoverEvidence (.evidenceDecided evidence.workOrderId
        (evidence.manifestHash.take 12) decision) s₂.journey.version
        (.decision decision evidence.manifestHash evidence.workOrderId) step.id s₂
  have hfinish : decideDeliveryEvidence s.journey.version decision evidence.manifestHash
      evidence.workOrderId s = finish decision := by
    unfold decideDeliveryEvidence lockAdminJourney requireCurrentStep completeHandoverEvidenceDecision
    rw [if_pos rfl, if_pos ⟨hcode, hfound⟩, if_neg horder]
    dsimp only [bind, Except.bind]
    rw [hrequire]
    dsimp only
    rw [hevidence, if_neg (by simp), hrecord]
    dsimp only
    rw [hdecide]
    cases decision <;> simp only [finish, hversion₂]
  rw [hfinish]
  cases decision with
  | approved =>
    obtain ⟨s', hcomplete, -, -, -, hnext, htasks⟩ := completeStep_succeeds hok₂ hcurrent hfresh
      (.decision .approved evidence.manifestHash evidence.workOrderId) none
    refine ⟨s', hcomplete, ?_, htasks ▸ hdecided⟩
    rw [hnext]
    exact hok₂.course.complete_code hcurrent.move .authoritativeActivation
      (by rw [show s₂.course.code = _ from hcode₂]; rfl)
  | rejected =>
    obtain ⟨s', hreturn, hreturned, htasks⟩ := returnToHandoverEvidence_succeeds hok₂ hcurrent hstepCode
      hfresh (.decision .rejected evidence.manifestHash evidence.workOrderId)
    exact ⟨s', hreturn, hreturned, htasks ▸ hdecided⟩

/-! ## Runs -/

theorem EvidenceOk.created (applicationId : Id) (application : Application) (now : Int) :
    EvidenceOk (.create applicationId application now) := by
  refine ⟨?_, ?_, ?_⟩
  · intro row hrow hevidence
    rw [List.mem_singleton.1 hrow] at hevidence
    cases hevidence
  · intro e he workOrderId decision hashKey hkey
    rw [List.mem_singleton.1 he] at hkey
    cases hkey
  · rintro - - ⟨task, htask, -⟩
    cases htask

/-- As long as no delivery evidence has been rejected, evidence that is ready moves the journey to its
decision, the row of the completed handover opens the one task of the decision, which is bound to the
evidence, and the decision of the task takes effect. -/
theorem first_round (applicationId : Id) (application : Application) (now : Int) {evs : List Command}
    (h : Along step RetriesOnCourse (.create applicationId application now) evs)
    (hrejected : (journeyRun applicationId application now evs).rejected = false)
    (hruns : (journeyRun applicationId application now evs).Runs) :
    let s := journeyRun applicationId application now evs
    (s.journey.currentStepCode = .handoverAndStage2Creation →
      ∀ claim evidence version, claim.payload = .signal (.handoverEvidenceReady evidence) version →
        !claim.key.isNotification → claim.Held s →
          (step s (.dispatchSignal claim)).journey.currentStepCode = .deliveryEvidenceDecision ∧
            ∃ event ∈ (step s (.dispatchSignal claim)).events,
              s.journey.version < event.sequence ∧ event.payload.evidence? = some evidence) ∧
      (s.journey.currentStepCode = .deliveryEvidenceDecision →
        (∀ claim evidence, claim.payload.evidence? = some evidence → !claim.key.isNotification →
          claim.Held s → ∃ task, (step s (.dispatchSignal claim)).tasks.filter (fun task =>
              task.status == .open && task.taskType == .deliveryEvidenceDecision) = [task] ∧
            task.inputSnapshot.evidence = some evidence) ∧
        ∀ task ∈ s.tasks, task.status = .open → task.taskType = .deliveryEvidenceDecision →
          ∀ evidence, task.inputSnapshot.evidence = some evidence → ∀ decision,
            let s' := step s (.decideDeliveryEvidence s.journey.version decision
              evidence.manifestHash evidence.workOrderId)
            s'.journey.currentStepCode = (match decision with
              | .approved => .authoritativeActivation
              | .rejected => .handoverAndStage2Creation) ∧
            ∃ task' ∈ s'.tasks, task'.id = task.id ∧ task'.status = .completed ∧
              task'.decision = some decision) := by
  obtain ⟨hok, hgrants, hevidenceOk⟩ := runs_invariant
    (fun s : State => s.Ok ∧ GrantsOk s ∧ EvidenceOk s)
    (fun _ _ hretries hs => ⟨hs.1.step hretries, hs.2.1.step hs.1 hretries,
      hs.2.2.step hs.1 hs.2.1 hretries⟩)
    ⟨.created applicationId application now, .created applicationId application now,
      .created applicationId application now⟩ h
  intro s
  refine ⟨?_, fun hcode => ⟨?_, ?_⟩⟩
  · intro hcode claim evidence version hpayload hkey hheld
    have hfresh : ∀ e ∈ s.events, e.key ≠ .handoverReady evidence.workOrderId := by
      intro e he hready
      have hlt := (hok.keys hruns.1).ready hrejected e he (by rw [hready]; rfl)
      have hcode' : (journeyRun applicationId application now evs).journey.currentStepCode = _ := hcode
      rw [hcode'] at hlt
      exact Nat.lt_irrefl _ hlt
    have hfacts : Signal.Matches s (.handoverEvidenceReady evidence) := hcode
    obtain ⟨stepId, hevent, hnext⟩ := hfacts.dispatch hok hruns rfl hfresh hpayload hheld.2
    dsimp only [step]
    rw [if_pos ⟨hheld.1, hkey⟩]
    refine ⟨?_, _, hevent, Nat.lt_succ_self _, rfl⟩
    rw [hcode] at hnext
    exact Option.some.inj hnext
  · intro claim evidence hpayload hkey hheld
    dsimp only [step]
    rw [if_pos ⟨hheld.1, hkey⟩]
    exact hevidenceOk.opens hok hgrants hruns hrejected hcode hpayload hheld
  · intro task htask hopen htype evidence hevidence decision
    obtain ⟨s', hdecided, hrest⟩ := hevidenceOk.decides hok hruns hrejected hcode htask hopen htype
      hevidence decision
    have hstep : step s (.decideDeliveryEvidence s.journey.version decision evidence.manifestHash
        evidence.workOrderId) = s' := by
      dsimp only [step]
      unfold State.commit
      rw [hdecided]
    dsimp only
    rw [hstep]
    exact hrest

/-- What a worker claims of all jobs, and handles. -/
def handleJobs (token : Token) (s : State) : List Command :=
  let ids := s.jobs.map (·.id)
  let claims := (claimJobs ids 1000 token s).grantedJobs.filter (·.leaseToken == some token)
  .claimJobs ids 1000 token :: claims.flatMap fun claim =>
    match claim.jobType with
    | .createOrderAndContract => [.createOrderAndContract claim (some (1, 2)), .completeJob claim]
    | .generateInitialBills => [.generateInitialBills claim [3], .completeJob claim]
    | .evaluatePaymentSettlement => [.evaluatePaymentSettlement claim none, .completeJob claim]
    | _ => []

/-- A run in which every part is chosen when the parts before it have happened. -/
def played (script : List (State → List Command)) (evs : List Command) : List Command :=
  script.foldl (fun evs part => evs ++ part (journeyRun 1 ⟨0, none, 0⟩ 0 evs)) evs

def firstEvidence : Evidence := ⟨4, List.replicate 64 'a', 5⟩

/-- The evidence of the delivery is ready, and its decision is open. -/
def evidenceReady : List Command :=
  played
    [fun _ => [.record (.customerPlanConfirmed 1 planHash)], dispatchRows 4, dispatchRows 5,
      handleJobs 6, dispatchRows 7, fun _ => [.record (.fadadaArtifactArchived 2 6 [] 7)],
      dispatchRows 8, dispatchRows 9, handleJobs 10, dispatchRows 11, handleJobs 12,
      fun _ => [.record (.handoverEvidenceReady firstEvidence)], dispatchRows 13, dispatchRows 14]
    planPublished

def Command.isRetry : Command → Bool
  | .retry .. => true
  | _ => false

theorem evidenceReady_rejected :
    let s := journeyRun 1 ⟨0, none, 0⟩ 0 evidenceReady
    (step s (.decideDeliveryEvidence 15 .rejected firstEvidence.manifestHash 5)).journey.currentStepCode =
      .handoverAndStage2Creation := by
  intro s
  have hretries : Along step RetriesOnCourse (.create 1 ⟨0, none, 0⟩ 0) evidenceReady := by
    have hcommands : ∀ e ∈ evidenceReady, e.isRetry = false := by decide +kernel
    refine Along.of_forall fun e he s => ?_
    have hretry := hcommands e he
    cases e <;> first | exact trivial | cases hretry
  have hcode : s.journey.currentStepCode = .deliveryEvidenceDecision := by decide +kernel
  have hversion : s.journey.version = 15 := by decide +kernel
  have htask : ∃ task ∈ s.tasks, task.status = .open ∧ task.taskType = .deliveryEvidenceDecision ∧
      task.inputSnapshot.evidence = some firstEvidence := by decide +kernel
  obtain ⟨task, hmem, hopen, htype, hevidence⟩ := htask
  have hround := first_round 1 ⟨0, none, 0⟩ 0 hretries (by decide +kernel) (by decide +kernel)
  have hdecided := (hround.2 hcode).2 task hmem hopen htype firstEvidence hevidence .rejected
  rw [← hversion]
  exact hdecided.1

/-- The decision rejects the evidence, evidence of the same work order is ready again, and a worker has
the row of its signal. -/
def secondRound : List Command :=
  played
    [fun _ => [.decideDeliveryEvidence 15 .rejected firstEvidence.manifestHash 5], dispatchRows 15,
      fun _ => [.record (.handoverEvidenceReady ⟨8, List.replicate 64 'b', 5⟩)],
      fun s => [.claimOutbox (s.outbox.map (·.id)) 1000 16]]
    evidenceReady

/-- The handover runs and the facts of the signal match, but its dispatch fails: the key of the completed
handover belongs to the first evidence. -/
theorem secondRound_blocked :
    let s := journeyRun 1 ⟨0, none, 0⟩ 0 secondRound
    s.Runs ∧ s.journey.currentStepCode = .handoverAndStage2Creation ∧
      ∃ claim ∈ s.outbox, claim.payload = .signal (.handoverEvidenceReady ⟨8, List.replicate 64 'b', 5⟩) 18 ∧
        claim.Held s ∧
          let s' := step s (.dispatchSignal claim)
          s'.failed = [(claim, idempotencyConflict)] ∧
            s'.journey.currentStepCode = .handoverAndStage2Creation ∧
              ∀ task ∈ s'.tasks, task.status ≠ .open := by
  decide +kernel

end SubscriptionSaas.Journey
