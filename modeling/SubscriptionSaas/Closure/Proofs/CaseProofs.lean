import SubscriptionSaas.Closure.Repository
import SubscriptionSaas.Lib.Histories

/-!
# A closure case is explained by its log

Every command on a case appends one event, numbered by the version that it raises (`Appended`). The
rest of a case follows from what the four commands write: the revisions are numbered, and what is set
once stays as long as no event is appended to a closed case at another time than it was closed
(`Timely`).
-/

namespace SubscriptionSaas.Closure

open Results Histories Tables
open Billing (Id)

variable {s s' : State} {f f' : CaseFile} {e : ClosureEvent} {outcome : Outcome} {startedAt : Int}
  {command : Command}

/-! ## One command on one case -/

theorem writeCase_ok {refs : References} (h : writeCase refs f = .ok f') :
    f' = f ∧ f.record.shapeOk = true ∧ refs.caseAuthority f.record = true := by
  unfold writeCase at h
  simp only [require_bind] at h
  obtain ⟨hshape, hauthority, -, h⟩ := h
  cases h
  exact ⟨rfl, hshape, hauthority⟩

/-- What each command does to the log of its case. -/
structure Appended (f f' : CaseFile) (e : ClosureEvent) : Prop where
  events : f'.events = f.events ++ [e]
  sequence : e.sequence = f.record.version + 2
  before : e.beforeStatus = some f.record.status
  after : e.afterStatus = f'.record.status
  version : f'.record.version = f.record.version + 1
  shape : f'.record.shapeOk = true

/-- A time that is not before the latest is not before any. -/
theorem le_of_latest {events : List ClosureEvent} {t : Int}
    (h : ∀ latest, latestOccurredAt events = some latest → latest ≤ t) :
    ∀ e ∈ events, e.occurredAt ≤ t := by
  intro e he
  have hmem : e.occurredAt ∈ events.map (·.occurredAt) := List.mem_map_of_mem he
  obtain ⟨latest, hlatest⟩ : ∃ latest, latestOccurredAt events = some latest := by
    rcases hmax : latestOccurredAt events with _ | latest
    · rw [latestOccurredAt, List.max?_eq_none_iff] at hmax
      rw [hmax] at hmem
      exact absurd hmem List.not_mem_nil
    · exact ⟨latest, rfl⟩
  exact le_trans ((List.max?_eq_some_iff.1 hlatest).2 _ hmem) (h latest hlatest)

theorem assertDatabaseEventTime_ok {clock occurredAt : Int} {events : List ClosureEvent} {u : Unit}
    (h : assertDatabaseEventTime clock events occurredAt = .ok u) :
    ∀ e ∈ events, e.occurredAt ≤ occurredAt := by
  unfold assertDatabaseEventTime at h
  obtain ⟨hnot, -⟩ := guard_ok h
  refine le_of_latest fun latest hlatest => ?_
  rw [not_or, hlatest] at hnot
  simpa using hnot.2

theorem databaseEventOccurrence_ok {clock occurredAt : Int} {events : List ClosureEvent}
    (h : databaseEventOccurrence clock events = .ok occurredAt) :
    occurredAt = clock ∧ ∀ e ∈ events, e.occurredAt ≤ occurredAt := by
  unfold databaseEventOccurrence at h
  obtain ⟨hnot, h⟩ := guard_ok h
  cases h
  refine ⟨rfl, le_of_latest fun latest hlatest => ?_⟩
  rw [hlatest] at hnot
  simpa using hnot

theorem asStatusConflict_ok {result : Except DomainErr Unit} {u : Unit}
    (h : asStatusConflict result = .ok u) : result = .ok () := by
  cases result with
  | error e => cases h
  | ok u => rfl

section Commands

variable {transition : EventCommand} {escalate : EscalateCommand} {document : DocumentCommand}
  {settlement : SettlementCommand}

theorem appendEvent_ok (h : appendEvent s f transition = .ok (f', outcome)) :
    (∀ e ∈ f.events, e.occurredAt ≤ transition.occurredAt) ∧
      validateEventTransition f transition = .ok () ∧
      f' = { f with
        record := transitioned f.record transition
        events := f.events ++ [{
          sequence := f.record.version + 2
          eventType := transition.eventType
          beforeStatus := some f.record.status
          afterStatus := transition.afterStatus
          occurredAt := transition.occurredAt
          actorId := transition.actorId
          source := transition.source
          detailSnapshot := transition.detailSnapshot }] } ∧
      f'.record.shapeOk = true := by
  unfold appendEvent at h
  obtain ⟨_, -, h⟩ := bind_ok h
  obtain ⟨_, htime, h⟩ := bind_ok h
  obtain ⟨_, hvalid, h⟩ := bind_ok h
  obtain ⟨_, -, h⟩ := bind_ok h
  obtain ⟨_, -, h⟩ := bind_ok h
  obtain ⟨g, hwrite, h⟩ := bind_ok h
  cases h
  obtain ⟨rfl, hshape, -⟩ := writeCase_ok hwrite
  exact ⟨assertDatabaseEventTime_ok htime, hvalid, rfl, hshape⟩

theorem escalateRecovery_ok (h : escalateRecovery s f escalate = .ok (f', outcome)) :
    (∀ e ∈ f.events, e.occurredAt ≤ escalate.occurredAt) ∧
      f.record.status = .preparingReturn ∧
      f' = { f with
        record := { f.record with
          profile := { f.record.profile with
            finalDisposition := .terminate
            physicalControlMode := .recovery }
          status := .recoveryAssessmentPending
          version := f.record.version + 1 }
        events := f.events ++ [{
          sequence := f.record.version + 2
          eventType := .recoveryEscalated
          beforeStatus := some f.record.status
          afterStatus := .recoveryAssessmentPending
          occurredAt := escalate.occurredAt
          actorId := escalate.actorId
          source := escalate.source
          detailSnapshot := escalate.detailSnapshot }] } ∧
      f'.record.shapeOk = true := by
  unfold escalateRecovery at h
  obtain ⟨_, -, h⟩ := bind_ok h
  obtain ⟨_, htime, h⟩ := bind_ok h
  obtain ⟨_, hescalation, h⟩ := bind_ok h
  obtain ⟨g, hwrite, h⟩ := bind_ok h
  cases h
  obtain ⟨rfl, hshape, -⟩ := writeCase_ok hwrite
  refine ⟨assertDatabaseEventTime_ok htime, ?_, rfl, hshape⟩
  by_contra hstatus
  rw [assertSubscriptionClosureEscalation, if_pos (.inr (.inl hstatus))] at hescalation
  cases hescalation

theorem appendDocumentRevision_ok
    (h : appendDocumentRevision s f document = .ok (f', outcome)) :
    ∃ occurredAt created, (∀ e ∈ f.events, e.occurredAt ≤ occurredAt) ∧
      created.content = document.content ∧
      created.revisionNumber = (((f.record.currentDocuments document.content.documentType).bind
        (f.documents[·]?)).map (·.revisionNumber)).getD 0 + 1 ∧
      f' = { f with
        record := { f.record with
          currentDocuments := fun t =>
            if t = document.content.documentType then some f.documents.length
            else f.record.currentDocuments t
          version := f.record.version + 1 }
        events := f.events ++ [{
          sequence := f.record.version + 2
          eventType := .documentRevisionCreated
          beforeStatus := some f.record.status
          afterStatus := f.record.status
          occurredAt := occurredAt
          actorId := document.actorId
          source := document.source
          detailSnapshot := documentDetail f.documents.length document.content.documentType
            created.revisionNumber }]
        documents := f.documents ++ [created] } ∧
      f'.record.shapeOk = true := by
  unfold appendDocumentRevision at h
  obtain ⟨_, -, h⟩ := bind_ok h
  simp only [require_bind] at h
  obtain ⟨-, -, -, h⟩ := h
  obtain ⟨occurredAt, htime, h⟩ := bind_ok h
  obtain ⟨g, hwrite, h⟩ := bind_ok h
  cases h
  obtain ⟨rfl, hshape, -⟩ := writeCase_ok hwrite
  exact ⟨occurredAt, ⟨document.content, _, f.record.currentDocuments document.content.documentType,
    document.actorId, document.source⟩, (databaseEventOccurrence_ok htime).2, rfl, rfl, rfl, hshape⟩

theorem appendSettlementRevision_ok
    (h : appendSettlementRevision s f settlement startedAt = .ok (f', outcome)) :
    ∃ created : SettlementRevision, created.revisionNumber =
        ((f.record.currentSettlementRevisionId.bind (f.settlements[·]?)).map
          (·.revisionNumber)).getD 0 + 1 ∧
      f' = { f with
        record := { f.record with
          currentSettlementRevisionId := some f.settlements.length
          version := f.record.version + 1 }
        events := f.events ++ [{
          sequence := f.record.version + 2
          eventType := .settlementRevisionCreated
          beforeStatus := some f.record.status
          afterStatus := f.record.status
          occurredAt := settlement.recordedAt.getD startedAt
          actorId := settlement.actorId
          source := settlement.source
          detailSnapshot := settlementDetail f.settlements.length settlement.content
            created.revisionNumber }]
        settlements := f.settlements ++ [created] } ∧
      f'.record.shapeOk = true := by
  unfold appendSettlementRevision at h
  obtain ⟨_, -, h⟩ := bind_ok h
  simp only [require_bind] at h
  obtain ⟨-, -, h⟩ := h
  obtain ⟨_, -, h⟩ := bind_ok h
  obtain ⟨g, hwrite, h⟩ := bind_ok h
  cases h
  obtain ⟨rfl, hshape, -⟩ := writeCase_ok hwrite
  exact ⟨⟨settlement.content, _, f.record.currentSettlementRevisionId,
    settlement.recordedAt.getD startedAt, settlement.actorId, settlement.source⟩, rfl, rfl, hshape⟩

end Commands

/-- A command has changed its case. -/
inductive Updated (s : State) (startedAt : Int) (f f' : CaseFile) (outcome : Outcome) :
    Command → Id → Prop
  | transition {c : EventCommand} : appendEvent s f c = .ok (f', outcome) →
    Updated s startedAt f f' outcome (.transitionCase c) c.closureCaseId
  | escalate {c : EscalateCommand} : escalateRecovery s f c = .ok (f', outcome) →
    Updated s startedAt f f' outcome (.escalateRecovery c) c.closureCaseId
  | document {c : DocumentCommand} : appendDocumentRevision s f c = .ok (f', outcome) →
    Updated s startedAt f f' outcome (.createDocumentRevision c) c.closureCaseId
  | settlement {c : SettlementCommand} :
    appendSettlementRevision s f c startedAt = .ok (f', outcome) →
    Updated s startedAt f f' outcome (.createSettlementRevision c) c.closureCaseId

/-- Every command on a case appends one event. -/
theorem Updated.appended {id : Id} (h : Updated s startedAt f f' outcome command id) :
    ∃ e, Appended f f' e := by
  cases h with
  | transition h =>
    obtain ⟨-, -, rfl, hshape⟩ := appendEvent_ok h
    exact ⟨_, rfl, rfl, rfl, rfl, rfl, hshape⟩
  | escalate h =>
    obtain ⟨-, -, rfl, hshape⟩ := escalateRecovery_ok h
    exact ⟨_, rfl, rfl, rfl, rfl, rfl, hshape⟩
  | document h =>
    obtain ⟨occurredAt, created, -, -, -, rfl, hshape⟩ := appendDocumentRevision_ok h
    exact ⟨_, rfl, rfl, rfl, rfl, rfl, hshape⟩
  | settlement h =>
    obtain ⟨created, -, rfl, hshape⟩ := appendSettlementRevision_ok h
    exact ⟨_, rfl, rfl, rfl, rfl, rfl, hshape⟩

theorem updateCase_ok {id : Id} {change : CaseFile → Res (CaseFile × Outcome)}
    (h : updateCase s command id change = .ok (s', outcome)) :
    ∃ f f', s.cases[id]? = some f ∧ change f = .ok (f', outcome) ∧
      s' = { s with
        cases := s.cases.set id f'
        receipts := s.receipts ++ [⟨command, outcome⟩] } := by
  unfold updateCase at h
  rcases hf : s.cases[id]? with _ | f
  · rw [hf] at h
    cases h
  · rw [hf] at h
    obtain ⟨⟨f', outcome'⟩, hchange, h⟩ := bind_ok h
    cases h
    exact ⟨f, f', rfl, hchange, rfl⟩

/-- A command whose source is new creates a case or changes one. -/
theorem perform_ok (h : perform s startedAt command = .ok (s', outcome)) :
    (∃ create f, command = .createCase create ∧ createCase s create = .ok (f, outcome) ∧
      s' = { s with
        cases := s.cases ++ [f]
        receipts := s.receipts ++ [⟨command, outcome⟩] }) ∨
    ∃ id f f', s.cases[id]? = some f ∧ Updated s startedAt f f' outcome command id ∧
      s' = { s with
        cases := s.cases.set id f'
        receipts := s.receipts ++ [⟨command, outcome⟩] } := by
  cases command with
  | createCase create =>
    obtain ⟨⟨f, outcome'⟩, hcreate, h⟩ := bind_ok h
    cases h
    exact .inl ⟨create, f, rfl, hcreate, rfl⟩
  | transitionCase c =>
    obtain ⟨f, f', hf, hchange, hs'⟩ := updateCase_ok h
    exact .inr ⟨_, f, f', hf, .transition hchange, hs'⟩
  | escalateRecovery c =>
    obtain ⟨f, f', hf, hchange, hs'⟩ := updateCase_ok h
    exact .inr ⟨_, f, f', hf, .escalate hchange, hs'⟩
  | createDocumentRevision c =>
    obtain ⟨f, f', hf, hchange, hs'⟩ := updateCase_ok h
    exact .inr ⟨_, f, f', hf, .document hchange, hs'⟩
  | createSettlementRevision c =>
    obtain ⟨f, f', hf, hchange, hs'⟩ := updateCase_ok h
    exact .inr ⟨_, f, f', hf, .settlement hchange, hs'⟩

/-- No receipt bears the source of the command. -/
def Fresh (s : State) (source : Source) : Prop :=
  ∀ receipt ∈ s.receipts, receipt.command.source ≠ source

theorem replayReceipt_none (h : replayReceipt s command = .ok none) : Fresh s command.source := by
  unfold replayReceipt at h
  rcases hfind : s.receipts.find? (·.command.source == command.source) with _ | receipt
  · intro receipt hmem
    simpa using List.find?_eq_none.1 hfind receipt hmem
  · rw [hfind] at h
    obtain ⟨-, h⟩ := check_ok h
    cases h

/-- A command that succeeds repeats a receipt, or is performed. -/
theorem execute_ok {wrote : Bool}
    (h : execute s startedAt command = .ok (s', outcome, wrote)) :
    normalize command = .ok () ∧ lifecycleAtDatabaseClock startedAt command = .ok () ∧
      ((wrote = false ∧ s' = s ∧ replayReceipt s command = .ok (some outcome)) ∨
        (wrote = true ∧ Fresh s command.source ∧
          perform s startedAt command = .ok (s', outcome))) := by
  unfold execute at h
  obtain ⟨_, hnormal, h⟩ := bind_ok h
  obtain ⟨_, hlifecycle, h⟩ := bind_ok h
  obtain ⟨replay, hreplay, h⟩ := bind_ok h
  refine ⟨hnormal, hlifecycle, ?_⟩
  cases replay with
  | some outcome' =>
    cases h
    exact .inl ⟨rfl, rfl, hreplay⟩
  | none =>
    obtain ⟨⟨s₁, outcome'⟩, hperform, h⟩ := bind_ok h
    cases h
    exact .inr ⟨rfl, replayReceipt_none hreplay, hperform⟩

/-- What a command of the machine may do. -/
theorem step_command (s : State) (startedAt : Int) (command : Command) :
    step s (.command startedAt command) = s ∨
      ∃ s' outcome, startedAt ≤ s.clock ∧ Fresh s command.source ∧
        perform s startedAt command = .ok (s', outcome) ∧
        step s (.command startedAt command) = s' := by
  simp only [step]
  split
  · rename_i hstarted
    rcases hexecute : execute s startedAt command with error | ⟨s', outcome, wrote⟩
    · exact .inl rfl
    · obtain ⟨-, -, ⟨-, rfl, -⟩ | ⟨-, hfresh, hperform⟩⟩ := execute_ok hexecute
      · exact .inl rfl
      · exact .inr ⟨s', outcome, hstarted, hfresh, hperform, rfl⟩
  · exact .inl rfl

/-- A command that is accepted is the next state of the machine. -/
theorem step_execute {wrote : Bool} (hle : startedAt ≤ s.clock)
    (h : execute s startedAt command = .ok (s', outcome, wrote)) :
    step s (.command startedAt command) = s' := by
  simp only [step, if_pos hle, h]

theorem get_set {cases : List CaseFile} {id j : Id} (h : (cases.set id f')[j]? = some f) :
    (j = id ∧ f = f') ∨ (j ≠ id ∧ cases[j]? = some f) := by
  rw [List.getElem?_set] at h
  split at h
  · rename_i hj
    split at h
    · exact .inl ⟨hj.symm, (Option.some.inj h).symm⟩
    · cases h
  · rename_i hj
    exact .inr ⟨Ne.symm hj, h⟩

/-- A case stays, and only a new command changes it. -/
theorem step_case {id : Id} (input : Input) (hf : s.cases[id]? = some f) :
    ∃ f', (step s input).cases[id]? = some f' ∧ (f' = f ∨ ∃ startedAt command outcome,
      input = .command startedAt command ∧ Fresh s command.source ∧
        Updated s startedAt f f' outcome command id) := by
  cases input with
  | tick elapsed => exact ⟨f, hf, .inl rfl⟩
  | refer references => exact ⟨f, hf, .inl rfl⟩
  | command startedAt command =>
    obtain hsame | ⟨s', outcome, -, hfresh, hperform, hstep⟩ := step_command s startedAt command
    · rw [hsame]
      exact ⟨f, hf, .inl rfl⟩
    · rw [hstep]
      rcases perform_ok hperform with ⟨create, g, rfl, hcreate, rfl⟩ | ⟨j, g, g', hg, h, rfl⟩
      · exact ⟨f, get_append_old hf, .inl rfl⟩
      · by_cases hj : j = id
        · subst hj
          obtain rfl : f = g := Option.some.inj (hf.symm.trans hg)
          exact ⟨g', List.getElem?_set_self (get_lt hg), .inr ⟨_, _, outcome, rfl, hfresh, h⟩⟩
        · exact ⟨f, by rwa [List.getElem?_set_ne hj], .inl rfl⟩

/-- A case that was not there has been created. -/
theorem step_new {id : Id} {input : Input} (hf : (step s input).cases[id]? = some f)
    (hnone : s.cases[id]? = none) : ∃ create outcome, createCase s create = .ok (f, outcome) := by
  cases input with
  | tick elapsed => exact absurd (hnone.symm.trans hf) (by simp)
  | refer references => exact absurd (hnone.symm.trans hf) (by simp)
  | command startedAt command =>
    obtain hsame | ⟨s', outcome, -, hfresh, hperform, hstep⟩ := step_command s startedAt command
    · rw [hsame, hnone] at hf
      cases hf
    · rw [hstep] at hf
      rcases perform_ok hperform with ⟨create, g, rfl, hcreate, rfl⟩ | ⟨j, g, g', hg, h, rfl⟩
      · rcases get_append hf with hf | ⟨-, rfl⟩
        · exact absurd (hnone.symm.trans hf) (by simp)
        · exact ⟨create, outcome, hcreate⟩
      · rcases get_set hf with ⟨rfl, -⟩ | ⟨-, hf⟩
        · exact absurd (hnone.symm.trans hg) (by simp)
        · exact absurd (hnone.symm.trans hf) (by simp)

/-! ## The log -/

/-- The log explains the status and the version. -/
structure Logged (f : CaseFile) : Prop where
  history : History (·.sequence) (·.beforeStatus) (·.afterStatus) f.events f.record.status
  version : f.events.length = f.record.version + 1

theorem Appended.logged (h : Appended f f' e) (hf : Logged f) : Logged f' where
  history := by
    rw [h.events, ← h.after]
    refine hf.history.append ?_ h.before
    rw [hf.version]
    exact h.sequence
  version := by
    rw [h.events, List.length_append, List.length_singleton, hf.version, h.version]

theorem createCase_ok {create : CreateCaseCommand} (h : createCase s create = .ok (f, outcome)) :
    ∃ e : ClosureEvent, f.events = [e] ∧ e.sequence = 1 ∧ e.beforeStatus = none ∧
      e.afterStatus = f.record.status ∧ f.record.version = 0 ∧ f.documents = [] ∧
      f.settlements = [] ∧ f.record.currentDocuments = (fun _ => none) ∧
      f.record.currentSettlementRevisionId = none ∧ f.record.settledAt = none ∧
      f.record.shapeOk = true := by
  unfold createCase at h
  obtain ⟨status, -, h⟩ := bind_ok h
  simp only [require_bind] at h
  obtain ⟨-, -, -, -, h⟩ := h
  obtain ⟨occurredAt, -, h⟩ := bind_ok h
  obtain ⟨g, hwrite, h⟩ := bind_ok h
  cases h
  obtain ⟨rfl, hshape, -⟩ := writeCase_ok hwrite
  exact ⟨_, rfl, rfl, rfl, rfl, rfl, rfl, rfl, rfl, rfl, rfl, hshape⟩

theorem createCase_logged {create : CreateCaseCommand}
    (h : createCase s create = .ok (f, outcome)) : Logged f := by
  obtain ⟨e, hevents, hsequence, hbefore, hafter, hversion, -⟩ := createCase_ok h
  constructor
  · rw [hevents, ← hafter]
    exact .single hsequence hbefore
  · rw [hevents, hversion]
    rfl

/-- What every case of a run has. -/
def AllLogged (s : State) : Prop :=
  ∀ (id : Id) (f : CaseFile), s.cases[id]? = some f → Logged f ∧ f.record.shapeOk = true

theorem step_logged (input : Input) (h : AllLogged s) : AllLogged (step s input) := by
  intro id f' hf'
  rcases hf : s.cases[id]? with _ | f
  · obtain ⟨create, outcome, hcreate⟩ := step_new hf' hf
    obtain ⟨e, -, -, -, -, -, -, -, -, -, -, hshape⟩ := createCase_ok hcreate
    exact ⟨createCase_logged hcreate, hshape⟩
  · obtain ⟨g, hg, hchange⟩ := step_case input hf
    obtain rfl : f' = g := Option.some.inj (hf'.symm.trans hg)
    rcases hchange with rfl | ⟨startedAt, command, outcome, -, -, hupdated⟩
    · exact h id f' hf
    · obtain ⟨e, happended⟩ := hupdated.appended
      exact ⟨happended.logged (h id f hf).1, happended.shape⟩

theorem runs_logged (inputs : List Input) (h : AllLogged s) :
    AllLogged (Runs.runs step s inputs) := by
  induction inputs generalizing s with
  | nil => exact h
  | cons input inputs ih => exact ih (step_logged input h)

theorem history_append (clock : Int) (references : References) (inputs inputs' : List Input) :
    history clock references (inputs ++ inputs') =
      Runs.runs step (history clock references inputs) inputs' := Runs.runs_append ..

theorem history_logged (clock : Int) (references : References) (inputs : List Input) :
    AllLogged (history clock references inputs) := by
  refine runs_logged inputs fun id f hf => ?_
  cases hf

/-! ## Commands on one case -/

/-- An order with its contract. -/
def oneOrder : References where
  order _ := some ⟨0, 0, 0⟩
  contract _ := some ⟨0, 0⟩
  vehicleReturn _ := none
  handover _ := none
  assetWorkOrder _ := none
  documentAuthority _ _ _ := false

def createOne (profile : ClosureProfile) : CreateCaseCommand where
  actorId := 0
  authoritySnapshot := {}
  profile := profile
  orderId := 0
  customerId := 0
  vehicleId := 0
  contractId := 0
  vehicleReturnId := none
  returnHandoverWorkOrderId := none
  returnAssetWorkOrderId := none
  recoveryAssetWorkOrderId := none
  reconditioningAssetWorkOrderId := none
  effectiveAt := 0
  source := ⟨"case", 0, "create"⟩

/-- An event of the one case, with the version as its source. -/
def eventOne (eventType : ClosureEventType) (expectedStatus afterStatus : ClosureStatus)
    (expectedVersion : Nat) (occurredAt : Int) (detailSnapshot : DetailSnapshot) : EventCommand where
  actorId := 0
  closureCaseId := 0
  eventType := eventType
  afterStatus := afterStatus
  detailSnapshot := detailSnapshot
  expectedStatus := expectedStatus
  expectedVersion := expectedVersion
  occurredAt := occurredAt
  reconditioningAssetWorkOrderId := none
  recoveryAssetWorkOrderId := none
  retireCase := false
  source := ⟨"event", expectedVersion, "event"⟩

/-- A proposed settlement revision of the one case, which is recorded by the clock. -/
def settlementOne (expectedVersion : Nat) : SettlementCommand where
  actorId := 0
  closureCaseId := 0
  content := {
    settlementType := .estimate
    stage := .proposed
    amounts := ⟨0, 0, 0, 0, 0, 0, 0, 0, 0⟩
    billInputSnapshot := ""
    depositInputSnapshot := ""
    ledgerInputSnapshot := ""
    responsibilitySnapshot := ""
    resultSnapshot := ""
    waiverApprovalId := none
    writeOffApprovalId := none
    finalizedBy := none
    finalizedAt := none
    settledBy := none
    settledAt := none }
  expectedCurrentRevisionId := none
  expectedVersion := expectedVersion
  managedOccurredAt := none
  recordedAt := none
  source := ⟨"settlement", expectedVersion, "settlement"⟩

end SubscriptionSaas.Closure
