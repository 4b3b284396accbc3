import SubscriptionSaas.Closure.Proofs.CaseProofs

/-!
# A closure case is the fold of its event log

`Folded` says what a case has from its log and its revisions. It holds in every run in which each
settlement revision is recorded no earlier than the events before it, and no event is appended to a
closed case at another time than that of its closing (`Timely`).
-/

namespace SubscriptionSaas.Closure

open Results Histories Tables
open Billing (Id)

variable {s s' : State} {f f' : CaseFile} {e : ClosureEvent} {outcome : Outcome} {startedAt : Int}
  {command : Command}

/-- The revisions of a family. -/
def CaseFile.family (f : CaseFile) (documentType : DocumentType) : List DocumentRevision :=
  f.documents.filter (·.content.documentType == documentType)

/-- The log explains the status and the version, and the pointers point at the last revisions. -/
structure Folded (f : CaseFile) : Prop extends Logged f where
  times : f.events.Pairwise fun e e' => e.occurredAt ≤ e'.occurredAt
  documents (t : DocumentType) : Numbered (·.revisionNumber) (f.family t)
  currentDocument (t : DocumentType) :
    (f.record.currentDocuments t).map (f.documents[·]?) = (f.family t).getLast?.map some
  settlements : Numbered (·.revisionNumber) f.settlements
  currentSettlement : f.record.currentSettlementRevisionId =
    if f.settlements = [] then none else some (f.settlements.length - 1)

/-- What is set once never changes. -/
structure OnceSet (c c' : CaseRecord) : Prop where
  physicalControlledAt (t : Int) : c.physicalControlledAt = some t → c'.physicalControlledAt = some t
  closedAt (t : Int) : c.closedAt = some t → c'.closedAt = some t
  settledAt (t : Int) : c.settledAt = some t → c'.settledAt = some t

theorem OnceSet.refl (c : CaseRecord) : OnceSet c c := ⟨fun _ => id, fun _ => id, fun _ => id⟩

theorem OnceSet.trans {a b c : CaseRecord} (h : OnceSet a b) (h' : OnceSet b c) : OnceSet a c where
  physicalControlledAt t ht := h'.physicalControlledAt t (h.physicalControlledAt t ht)
  closedAt t ht := h'.closedAt t (h.closedAt t ht)
  settledAt t ht := h'.settledAt t (h.settledAt t ht)

/-- The case is settled as it is closed. -/
structure Sound (f : CaseFile) : Prop extends Folded f where
  shape : f.record.shapeOk = true
  settled (t : Int) : f.record.settledAt = some t → f.record.closedAt = some t ∧
    (f.record.status = .completed ∨ f.record.status = .terminated)

/-! ## The times of a case -/

theorem closed_terminal {c : CaseRecord} {t : Int} (hshape : c.shapeOk = true)
    (hclosed : c.closedAt = some t) : terminalStatus c.status = true := by
  unfold CaseRecord.shapeOk at hshape
  simp only [Bool.and_eq_true] at hshape
  obtain ⟨⟨⟨-, hterminal⟩, -⟩, -⟩ := hshape
  rw [hclosed] at hterminal
  revert hterminal
  cases c.status <;> simp [terminalStatus]

/-- No transition leaves a terminal status. -/
theorem transition_terminal {profile : ClosureProfile} {fromStatus toStatus : ClosureStatus}
    {u : Unit} (hterminal : terminalStatus fromStatus = true) :
    assertSubscriptionClosureTransition profile fromStatus toStatus ≠ .ok u := by
  intro h
  obtain ⟨matrix, hmatrix, h⟩ := bind_ok h
  obtain ⟨hmem, -⟩ := check_ok h
  have hnone : matrix fromStatus = [] := by
    unfold allowedSubscriptionClosureTransitions at hmatrix
    split at hmatrix
    · obtain ⟨-, hmatrix⟩ := guard_ok hmatrix
      cases hmatrix
      cases fromStatus <;> simp_all [terminalStatus, recovery]
    · split at hmatrix
      · cases hmatrix
        cases fromStatus <;> simp_all [terminalStatus, normalVoluntary]
      · split at hmatrix
        · cases hmatrix
          cases fromStatus <;> simp_all [terminalStatus, earlyVoluntary, normalVoluntary]
        · cases hmatrix
  rw [hnone] at hmem
  exact List.not_mem_nil hmem

/-- An event leaves a terminal status as it is. -/
theorem validateEventTransition_terminal {c : EventCommand} {u : Unit}
    (h : validateEventTransition f c = .ok u) (hterminal : terminalStatus f.record.status = true) :
    c.afterStatus = f.record.status := by
  simp only [validateEventTransition] at h
  split at h
  · rename_i hphysical
    rw [hphysical.2.2.1] at hterminal
    simp [terminalStatus] at hterminal
  · split at h
    · simp only [require_bind] at h
      have hpause := asStatusConflict_ok h.2
      unfold assertRecoveryPauseTransition at hpause
      obtain ⟨-, hpause⟩ := guard_ok hpause
      split at hpause
      · rename_i hfrom
        cases hstatus : f.record.status <;>
          simp_all [terminalStatus, recoveryPausableStatuses]
      · obtain ⟨hfrom, -⟩ := check_ok hpause
        rw [hfrom.1] at hterminal
        simp [terminalStatus] at hterminal
    · split at h
      · rename_i hpaused
        rw [hpaused.2] at hterminal
        simp [terminalStatus] at hterminal
      · split at h
        · exact absurd (asStatusConflict_ok h) (transition_terminal hterminal)
        · simpa using require_ok h

theorem transitioned_once {c : EventCommand} (h : Sound f)
    (hvalid : validateEventTransition f c = .ok ())
    (htimely : terminalStatus f.record.status = true → f.record.closedAt = some c.occurredAt) :
    OnceSet f.record (transitioned f.record c) := by
  constructor
  · intro t ht
    simp [transitioned, ht]
  · intro t ht
    have hterminal := closed_terminal h.shape ht
    have hafter := validateEventTransition_terminal hvalid hterminal
    rw [htimely hterminal] at ht
    simp only [transitioned, hafter, hterminal, if_true, ht]
  · intro t ht
    obtain ⟨hclosed, hstatus⟩ := h.settled t ht
    have hterminal := closed_terminal h.shape hclosed
    have hafter := validateEventTransition_terminal hvalid hterminal
    rw [htimely hterminal] at hclosed
    simp only [transitioned, hafter, if_pos hstatus, hclosed]

/-! ## What a command keeps -/

theorem Folded.times_append (hf : Folded f) (htime : ∀ e' ∈ f.events, e'.occurredAt ≤ e.occurredAt) :
    (f.events ++ [e]).Pairwise fun e e' => e.occurredAt ≤ e'.occurredAt := by
  refine List.pairwise_append.2 ⟨hf.times, List.pairwise_singleton _ _, fun e' he' e'' he'' => ?_⟩
  rw [List.mem_singleton.1 he'']
  exact htime e' he'

/-- A command that appends an event and no revision. -/
theorem Folded.appended (hf : Folded f) (h : Appended f f' e)
    (htime : ∀ e' ∈ f.events, e'.occurredAt ≤ e.occurredAt)
    (hdocuments : f'.documents = f.documents)
    (hcurrent : f'.record.currentDocuments = f.record.currentDocuments)
    (hsettlements : f'.settlements = f.settlements)
    (hsettlement : f'.record.currentSettlementRevisionId = f.record.currentSettlementRevisionId) :
    Folded f' where
  toLogged := h.logged hf.toLogged
  times := by
    rw [h.events]
    exact hf.times_append htime
  documents t := by
    simpa only [CaseFile.family, hdocuments] using hf.documents t
  currentDocument t := by
    simpa only [CaseFile.family, hdocuments, hcurrent] using hf.currentDocument t
  settlements := by
    rw [hsettlements]
    exact hf.settlements
  currentSettlement := by
    rw [hsettlements, hsettlement]
    exact hf.currentSettlement

/-- The pointer of a family reads its last revision. -/
theorem Folded.current_bind (hf : Folded f) (t : DocumentType) :
    (f.record.currentDocuments t).bind (f.documents[·]?) = (f.family t).getLast? := by
  have h := hf.currentDocument t
  rcases hcurrent : f.record.currentDocuments t with _ | id
  · rw [hcurrent] at h
    rcases hlast : (f.family t).getLast? with _ | r
    · rfl
    · rw [hlast] at h
      cases h
  · rw [hcurrent] at h
    rcases hlast : (f.family t).getLast? with _ | r
    · rw [hlast] at h
      cases h
    · rw [hlast] at h
      exact Option.some.inj h

theorem Folded.settlement_bind (hf : Folded f) :
    f.record.currentSettlementRevisionId.bind (f.settlements[·]?) = f.settlements.getLast? := by
  rw [hf.currentSettlement]
  split
  · rename_i hnone
    rw [hnone]
    rfl
  · rw [List.getLast?_eq_getElem?]
    rfl

theorem family_append {documents : List DocumentRevision} {r : DocumentRevision} (t : DocumentType) :
    (documents ++ [r]).filter (·.content.documentType == t) =
      documents.filter (·.content.documentType == t) ++
        if r.content.documentType = t then [r] else [] := by
  rw [List.filter_append]
  by_cases ht : r.content.documentType = t
  · simp [ht]
  · simp [ht]

/-- A command that appends a document revision. -/
theorem Folded.document (hf : Folded f) {created : DocumentRevision}
    (hnumber : created.revisionNumber =
      (((f.record.currentDocuments created.content.documentType).bind (f.documents[·]?)).map
        (·.revisionNumber)).getD 0 + 1)
    (h : Appended f f' e) (htime : ∀ e' ∈ f.events, e'.occurredAt ≤ e.occurredAt)
    (hdocuments : f'.documents = f.documents ++ [created])
    (hcurrent : f'.record.currentDocuments = fun t =>
      if t = created.content.documentType then some f.documents.length
      else f.record.currentDocuments t)
    (hsettlements : f'.settlements = f.settlements)
    (hsettlement : f'.record.currentSettlementRevisionId = f.record.currentSettlementRevisionId) :
    Folded f' where
  toLogged := h.logged hf.toLogged
  times := by
    rw [h.events]
    exact hf.times_append htime
  documents t := by
    rw [CaseFile.family, hdocuments, family_append]
    split
    · rename_i ht
      refine (hf.documents t).append ?_
      rw [hnumber, hf.current_bind, ht, (hf.documents t).last]
    · rw [List.append_nil]
      exact hf.documents t
  currentDocument t := by
    rw [CaseFile.family, hdocuments, hcurrent, family_append]
    dsimp only
    by_cases ht : created.content.documentType = t
    · simp [ht]
    · have hold := hf.currentDocument t
      rw [if_neg ht, if_neg (Ne.symm ht), List.append_nil]
      rw [CaseFile.family] at hold
      rw [← hold]
      rcases hpointer : f.record.currentDocuments t with _ | id
      · rfl
      · -- the pointer is at a row that was there
        rw [hpointer] at hold
        rcases hlast : (f.documents.filter (·.content.documentType == t)).getLast? with _ | r
        · rw [hlast] at hold
          cases hold
        · rw [hlast] at hold
          have hid : f.documents[id]? = some r := Option.some.inj hold
          simp only [Option.map_some, get_append_old hid, hid]
  settlements := by
    rw [hsettlements]
    exact hf.settlements
  currentSettlement := by
    rw [hsettlements, hsettlement]
    exact hf.currentSettlement

/-- A command that appends a settlement revision. -/
theorem Folded.settlement (hf : Folded f) {created : SettlementRevision}
    (hnumber : created.revisionNumber =
      ((f.record.currentSettlementRevisionId.bind (f.settlements[·]?)).map
        (·.revisionNumber)).getD 0 + 1)
    (h : Appended f f' e) (htime : ∀ e' ∈ f.events, e'.occurredAt ≤ e.occurredAt)
    (hdocuments : f'.documents = f.documents)
    (hcurrent : f'.record.currentDocuments = f.record.currentDocuments)
    (hsettlements : f'.settlements = f.settlements ++ [created])
    (hsettlement : f'.record.currentSettlementRevisionId = some f.settlements.length) :
    Folded f' where
  toLogged := h.logged hf.toLogged
  times := by
    rw [h.events]
    exact hf.times_append htime
  documents t := by
    simpa only [CaseFile.family, hdocuments] using hf.documents t
  currentDocument t := by
    simpa only [CaseFile.family, hdocuments, hcurrent] using hf.currentDocument t
  settlements := by
    rw [hsettlements]
    refine hf.settlements.append ?_
    rw [hnumber, hf.settlement_bind, hf.settlements.last]
  currentSettlement := by
    rw [hsettlements, hsettlement]
    simp

/-! ## What a command may do to a case -/

/-- A settlement revision that is new is recorded no earlier than the events of its case, and an event
that is new is appended to a closed case at the time of its closing only. -/
def Timely (s : State) : Input → Prop
  | .command _ (.transitionCase c) => Fresh s c.source →
    ∀ f, s.cases[c.closureCaseId]? = some f → terminalStatus f.record.status = true →
      f.record.closedAt = some c.occurredAt
  | .command startedAt (.createSettlementRevision c) => Fresh s c.source →
    ∀ f, s.cases[c.closureCaseId]? = some f →
      ∀ latest, latestOccurredAt f.events = some latest → latest ≤ c.recordedAt.getD startedAt
  | _ => True

theorem Updated.sound {id : Id} (h : Updated s startedAt f f' outcome command id)
    (hfresh : Fresh s command.source) (hcase : s.cases[id]? = some f)
    (htimely : Timely s (.command startedAt command)) (hf : Sound f) :
    Sound f' ∧ OnceSet f.record f'.record := by
  obtain ⟨e, happended⟩ := h.appended
  cases h with
  | @transition c h =>
    obtain ⟨htime, hvalid, rfl, hshape⟩ := appendEvent_ok h
    have hclosed := htimely hfresh f hcase
    have honce := transitioned_once hf hvalid hclosed
    have happended' : Appended f _ _ := ⟨rfl, rfl, rfl, rfl, rfl, hshape⟩
    refine ⟨⟨hf.toFolded.appended happended' htime rfl rfl rfl rfl, hshape, fun t ht => ?_⟩, honce⟩
    simp only [transitioned] at ht ⊢
    split at ht
    · rename_i hafter
      have hterminal : terminalStatus c.afterStatus = true := by
        rcases hafter with hafter | hafter <;> rw [hafter] <;> rfl
      rw [if_pos hterminal]
      exact ⟨ht, hafter⟩
    · rename_i hafter
      obtain ⟨hclosedAt, hstatus⟩ := hf.settled t ht
      have hsame := validateEventTransition_terminal hvalid (closed_terminal hf.shape hclosedAt)
      rw [hsame] at hafter
      exact absurd hstatus hafter
  | @escalate c h =>
    obtain ⟨htime, hstatus, rfl, hshape⟩ := escalateRecovery_ok h
    have happended' : Appended f _ _ := ⟨rfl, rfl, rfl, rfl, rfl, hshape⟩
    refine ⟨⟨hf.toFolded.appended happended' htime rfl rfl rfl rfl, hshape, fun t ht => ?_⟩,
      ⟨fun _ => id, fun _ => id, fun _ => id⟩⟩
    have hsettled := (hf.settled t ht).2
    rw [hstatus] at hsettled
    rcases hsettled with h | h <;> cases h
  | @document c h =>
    obtain ⟨occurredAt, created, htime, hcontent, hnumber, rfl, hshape⟩ :=
      appendDocumentRevision_ok h
    have happended' : Appended f _ _ := ⟨rfl, rfl, rfl, rfl, rfl, hshape⟩
    rw [← hcontent] at hnumber
    refine ⟨⟨hf.toFolded.document hnumber happended' htime rfl ?_ rfl rfl, hshape, hf.settled⟩,
      ⟨fun _ => id, fun _ => id, fun _ => id⟩⟩
    rw [hcontent]
  | @settlement c h =>
    obtain ⟨created, hnumber, rfl, hshape⟩ := appendSettlementRevision_ok h
    have happended' : Appended f _ _ := ⟨rfl, rfl, rfl, rfl, rfl, hshape⟩
    have htime := le_of_latest (htimely hfresh f hcase)
    exact ⟨⟨hf.toFolded.settlement hnumber happended' htime rfl rfl rfl rfl, hshape, hf.settled⟩,
      ⟨fun _ => id, fun _ => id, fun _ => id⟩⟩

theorem createCase_sound {create : CreateCaseCommand}
    (h : createCase s create = .ok (f, outcome)) : Sound f := by
  obtain ⟨e, hevents, -, -, -, -, hdocuments, hsettlements, hcurrent, hsettlement, hsettledAt,
    hshape⟩ := createCase_ok h
  exact {
    toLogged := createCase_logged h
    times := by
      rw [hevents]
      exact List.pairwise_singleton _ _
    documents := fun t => by
      rw [CaseFile.family, hdocuments]
      exact .nil
    currentDocument := fun t => by
      rw [CaseFile.family, hdocuments, hcurrent]
      rfl
    settlements := by
      rw [hsettlements]
      exact .nil
    currentSettlement := by
      rw [hsettlements, hsettlement]
      rfl
    shape := hshape
    settled := fun t ht => by
      rw [hsettledAt] at ht
      cases ht }

/-! ## Runs -/

def AllSound (s : State) : Prop := ∀ (id : Id) (f : CaseFile), s.cases[id]? = some f → Sound f

/-- Every case is still there, with what was set once. -/
def Continues (s s' : State) : Prop :=
  ∀ (id : Id) (f : CaseFile), s.cases[id]? = some f →
    ∃ f', s'.cases[id]? = some f' ∧ OnceSet f.record f'.record

theorem Continues.refl (s : State) : Continues s s := fun _ f hf => ⟨f, hf, .refl _⟩

theorem Continues.trans {s'' : State} (h : Continues s s') (h' : Continues s' s'') :
    Continues s s'' := by
  intro id f hf
  obtain ⟨f', hf', honce⟩ := h id f hf
  obtain ⟨f'', hf'', honce'⟩ := h' id f' hf'
  exact ⟨f'', hf'', honce.trans honce'⟩

theorem step_sound {input : Input} (hsound : AllSound s) (htimely : Timely s input) :
    AllSound (step s input) ∧ Continues s (step s input) := by
  have hold (id : Id) (f : CaseFile) (hf : s.cases[id]? = some f) :
      ∃ f', (step s input).cases[id]? = some f' ∧ Sound f' ∧ OnceSet f.record f'.record := by
    obtain ⟨f', hf', hchange⟩ := step_case input hf
    refine ⟨f', hf', ?_⟩
    rcases hchange with rfl | ⟨startedAt, command, outcome, rfl, hfresh, hupdated⟩
    · exact ⟨hsound id f' hf, .refl _⟩
    · exact hupdated.sound hfresh hf htimely (hsound id f hf)
  refine ⟨fun id f' hf' => ?_, fun id f hf => ?_⟩
  · rcases hf : s.cases[id]? with _ | f
    · obtain ⟨create, outcome, hcreate⟩ := step_new hf' hf
      exact createCase_sound hcreate
    · obtain ⟨g, hg, hg', -⟩ := hold id f hf
      rwa [Option.some.inj (hf'.symm.trans hg)]
  · obtain ⟨f', hf', -, honce⟩ := hold id f hf
    exact ⟨f', hf', honce⟩

theorem runs_sound {inputs : List Input} (hsound : AllSound s)
    (h : Runs.Along step Timely s inputs) :
    AllSound (Runs.runs step s inputs) ∧ Continues s (Runs.runs step s inputs) := by
  induction inputs generalizing s with
  | nil => exact ⟨hsound, .refl s⟩
  | cons input inputs ih =>
    obtain ⟨hsound', hcontinues⟩ := step_sound hsound h.1
    obtain ⟨hlast, hrest⟩ := ih hsound' h.2
    exact ⟨hlast, hcontinues.trans hrest⟩

/-! ## Receipts -/

/-- A source has one receipt, and the receipts stay. -/
structure Receipted (s s' : State) : Prop where
  nodup : (s.receipts.map (·.command.source)).Nodup → (s'.receipts.map (·.command.source)).Nodup
  kept : s.receipts ⊆ s'.receipts
  clock : s.clock ≤ s'.clock

theorem Receipted.refl (s : State) : Receipted s s := ⟨id, fun _ => id, le_rfl⟩

theorem step_receipted (s : State) (input : Input) : Receipted s (step s input) := by
  cases input with
  | tick elapsed => exact ⟨id, fun _ => id, Int.le_add_of_nonneg_right (Int.natCast_nonneg _)⟩
  | refer references => exact ⟨id, fun _ => id, le_rfl⟩
  | command startedAt command =>
    obtain hsame | ⟨s', outcome, -, hfresh, hperform, hstep⟩ := step_command s startedAt command
    · rw [hsame]
      exact .refl s
    · rw [hstep]
      have hnodup (h : (s.receipts.map (·.command.source)).Nodup) :
          ((s.receipts ++ [Receipt.mk command outcome]).map (·.command.source)).Nodup := by
        rw [List.map_append, List.map_singleton]
        refine List.nodup_append.2 ⟨h, List.nodup_singleton _, fun a ha b hb => ?_⟩
        obtain ⟨receipt, hreceipt, rfl⟩ := List.mem_map.1 ha
        rw [List.mem_singleton.1 hb]
        exact hfresh receipt hreceipt
      rcases perform_ok hperform with ⟨create, f, rfl, hcreate, rfl⟩ | ⟨id, f, f', hcase, h, rfl⟩
      · exact ⟨hnodup, List.subset_append_left _ _, le_rfl⟩
      · exact ⟨hnodup, List.subset_append_left _ _, le_rfl⟩

theorem runs_receipted (s : State) (inputs : List Input) :
    Receipted s (Runs.runs step s inputs) := by
  induction inputs generalizing s with
  | nil => exact .refl s
  | cons input inputs ih =>
    have h := step_receipted s input
    have h' := ih (step s input)
    exact ⟨fun hs => h'.nodup (h.nodup hs), fun _ hr => h'.kept (h.kept hr), h.clock.trans h'.clock⟩

theorem find_receipt {receipt : Receipt} (hnodup : (s.receipts.map (·.command.source)).Nodup)
    (h : receipt ∈ s.receipts) :
    s.receipts.find? (·.command.source == receipt.command.source) = some receipt := by
  rcases hfind : s.receipts.find? (·.command.source == receipt.command.source) with _ | found
  · have := List.find?_eq_none.1 hfind receipt h
    simp at this
  · have hsource : found.command.source = receipt.command.source := by
      simpa using List.find?_some hfind
    rw [hfind]
    exact congrArg some
      (List.inj_on_of_nodup_map hnodup (List.mem_of_find?_eq_some hfind) h hsource)

/-- A command that has succeeded has a receipt with its outcome. -/
theorem execute_receipt {wrote : Bool} (h : execute s startedAt command = .ok (s', outcome, wrote)) :
    ⟨command, outcome⟩ ∈ s'.receipts := by
  obtain ⟨-, -, ⟨-, rfl, hreplay⟩ | ⟨-, -, hperform⟩⟩ := execute_ok h
  · unfold replayReceipt at hreplay
    rcases hfind : s'.receipts.find? (·.command.source == command.source) with _ | receipt
    · rw [hfind] at hreplay
      cases hreplay
    · rw [hfind] at hreplay
      obtain ⟨heq, hreplay⟩ := check_ok hreplay
      cases hreplay
      rw [← heq]
      exact List.mem_of_find?_eq_some hfind
  · rcases perform_ok hperform with ⟨create, f, rfl, hcreate, rfl⟩ | ⟨id, f, f', hcase, h, rfl⟩
    · exact List.mem_append_right _ (List.mem_singleton_self _)
    · exact List.mem_append_right _ (List.mem_singleton_self _)

/-- The clock at the beginning of a command only has to be late enough. -/
theorem lifecycleAtDatabaseClock_mono {startedAt' : Int} {u : Unit} (hle : startedAt ≤ startedAt')
    (h : lifecycleAtDatabaseClock startedAt command = .ok u) :
    lifecycleAtDatabaseClock startedAt' command = .ok () := by
  have hall (t : Option Int) (ht : t.all (· ≤ startedAt) = true) : t.all (· ≤ startedAt') = true := by
    rcases t with _ | t
    · rfl
    · simp only [Option.all_some, decide_eq_true_eq] at ht ⊢
      omega
  cases command with
  | createCase c => rfl
  | transitionCase c => rfl
  | escalateRecovery c => rfl
  | createDocumentRevision c =>
    simp only [lifecycleAtDatabaseClock, assertDocumentLifecycleAtDatabaseClock] at h ⊢
    have hok := require_ok h
    simp only [Bool.and_eq_true, decide_eq_true_eq] at hok
    obtain ⟨⟨hgenerated, hsigned⟩, harchived⟩ := hok
    have hgenerated' : c.content.generatedAt ≤ startedAt' := by omega
    simp [require, hgenerated', hall _ hsigned, hall _ harchived]
  | createSettlementRevision c =>
    simp only [lifecycleAtDatabaseClock, assertSettlementLifecycleAtDatabaseClock] at h ⊢
    have hok := require_ok h
    simp only [Bool.and_eq_true] at hok
    obtain ⟨⟨⟨hmanaged, hrecorded⟩, hfinalized⟩, hsettled⟩ := hok
    simp [require, hall _ hmanaged, hall _ hrecorded, hall _ hfinalized, hall _ hsettled]

theorem execute_replay {receipt : Receipt} (hnodup : (s.receipts.map (·.command.source)).Nodup)
    (hmem : receipt ∈ s.receipts) (hnormal : normalize receipt.command = .ok ())
    (hlifecycle : lifecycleAtDatabaseClock startedAt receipt.command = .ok ()) :
    execute s startedAt receipt.command = .ok (s, receipt.outcome, false) := by
  have hreplay : replayReceipt s receipt.command = .ok (some receipt.outcome) := by
    rw [replayReceipt, find_receipt hnodup hmem]
    exact if_pos rfl
  rw [execute, hnormal, bind_eq rfl, hlifecycle, bind_eq rfl, hreplay, bind_eq rfl]
  rfl

/-- A source that has a receipt takes no other command. -/
theorem execute_conflict {receipt : Receipt} (hnodup : (s.receipts.map (·.command.source)).Nodup)
    (hmem : receipt ∈ s.receipts) (hsource : command.source = receipt.command.source)
    (hne : command ≠ receipt.command) {result : State × Outcome × Bool} :
    execute s startedAt command ≠ .ok result := by
  obtain ⟨s', outcome, wrote⟩ := result
  intro h
  obtain ⟨-, -, ⟨-, -, hreplay⟩ | ⟨-, hfresh, -⟩⟩ := execute_ok h
  · rw [replayReceipt, hsource, find_receipt hnodup hmem] at hreplay
    obtain ⟨heq, -⟩ := check_ok hreplay
    exact hne heq.symm
  · exact hfresh receipt hmem hsource.symm

/-! ## Histories -/

theorem initial_sound (clock : Int) (references : References) :
    AllSound (initial clock references) := by
  intro id f hf
  cases hf

/-- A case is the fold of its log in a timely run, and in any run a command that was accepted is
answered from its receipt for ever. -/
theorem case_is_fold (clock : Int) (references : References) (inputs inputs' : List Input) :
    (Runs.Along step Timely (initial clock references) (inputs ++ inputs') →
      ∀ (id : Id) (f : CaseFile), (history clock references inputs).cases[id]? = some f →
        Folded f ∧ ∃ f', (history clock references (inputs ++ inputs')).cases[id]? = some f' ∧
          OnceSet f.record f'.record) ∧
    ∀ startedAt command s' outcome wrote, startedAt ≤ (history clock references inputs).clock →
      execute (history clock references inputs) startedAt command = .ok (s', outcome, wrote) →
      let now := history clock references (inputs ++ .command startedAt command :: inputs')
      (∀ startedAt', startedAt ≤ startedAt' →
        execute now startedAt' command = .ok (now, outcome, false)) ∧
      ∀ startedAt' other result, other.source = command.source → other ≠ command →
        execute now startedAt' other ≠ .ok result := by
  refine ⟨fun htimely id f hf => ?_, fun startedAt command s' outcome wrote hle hexecute => ?_⟩
  · rw [Runs.Along.append] at htimely
    obtain ⟨hsound, -⟩ := runs_sound (initial_sound clock references) htimely.1
    refine ⟨(hsound id f hf).toFolded, ?_⟩
    rw [history_append]
    exact (runs_sound hsound htimely.2).2 id f hf
  · intro now
    have hnow : now = Runs.runs step s' inputs' := by
      rw [← step_execute hle hexecute]
      exact history_append ..
    have hmem : (⟨command, outcome⟩ : Receipt) ∈ now.receipts := by
      rw [hnow]
      exact (runs_receipted s' inputs').kept (execute_receipt hexecute)
    have hnodup : (now.receipts.map (·.command.source)).Nodup :=
      (runs_receipted (initial clock references) _).nodup List.nodup_nil
    obtain ⟨hnormal, hlifecycle, -⟩ := execute_ok hexecute
    refine ⟨fun startedAt' hle' => ?_, fun startedAt' other result hsource hne => ?_⟩
    · exact execute_replay  hnodup hmem hnormal
        (lifecycleAtDatabaseClock_mono hle' hlifecycle)
    · exact execute_conflict  hnodup hmem hsource hne

def cancelOne : EventCommand := eventOne .statusTransitioned .preparingReturn .cancelled 0 10 {}

/-- A return is prepared and cancelled at 10. -/
def cancelledInputs : List Input :=
  [.command 0 (.createCase (createOne ⟨.normalCompletion, .voluntaryReturn, .complete⟩)), .tick 10,
    .command 10 (.transitionCase cancelOne)]

/-- A note is added at 20 to what is closed. -/
def lateNote : List Input :=
  [.tick 10, .command 20 (.transitionCase (eventOne .noteAdded .cancelled .cancelled 1 20 {}))]

/-- A settlement revision that began at 10 waits for a note that is added at 20. -/
def lateSettlement : List Input :=
  [.command 0 (.createCase (createOne ⟨.normalCompletion, .voluntaryReturn, .complete⟩)), .tick 20,
    .command 20 (.transitionCase
      (eventOne .noteAdded .preparingReturn .preparingReturn 0 20 {})),
    .command 10 (.createSettlementRevision (settlementOne 1))]

/-- The cancelled case is the fold of its log, and its cancelling is answered for ever. -/
theorem cancelled_is_fold :
    (∀ (id : Id) (f : CaseFile), (history 0 oneOrder cancelledInputs).cases[id]? = some f →
      Folded f) ∧
    ∃ outcome, ∀ startedAt, 10 ≤ startedAt →
      execute (history 0 oneOrder cancelledInputs) startedAt (.transitionCase cancelOne) =
        .ok (history 0 oneOrder cancelledInputs, outcome, false) := by
  have htimely : Runs.Along step Timely (initial 0 oneOrder) (cancelledInputs ++ []) := by
    refine ⟨trivial, trivial, fun _ f hf hterminal => ?_, trivial⟩
    have hopen : (history 0 oneOrder (cancelledInputs.take 2)).cases[0]?.map
        (fun f => terminalStatus f.record.status) = some false := by decide +kernel
    rw [show (history 0 oneOrder (cancelledInputs.take 2)).cases[0]? = some f from hf] at hopen
    rw [Option.map_some, hterminal] at hopen
    cases hopen
  have haccepted : (execute (history 0 oneOrder (cancelledInputs.take 2)) 10
      (.transitionCase cancelOne)).isOk = true := by decide +kernel
  rcases hexecute : execute (history 0 oneOrder (cancelledInputs.take 2)) 10
    (.transitionCase cancelOne) with error | ⟨s', outcome, wrote⟩
  · rw [hexecute] at haccepted
    cases haccepted
  · refine ⟨fun id f hf => ((case_is_fold 0 oneOrder cancelledInputs []).1 htimely id f hf).1,
      outcome, ?_⟩
    exact ((case_is_fold 0 oneOrder (cancelledInputs.take 2) []).2 10 (.transitionCase cancelOne)
      s' outcome wrote (by decide +kernel) hexecute).1

/-- The closing of the cancelled case moves, and the log of the other case runs backwards. -/
theorem late_command_breaks_fold :
    (∃ f f', (history 0 oneOrder cancelledInputs).cases[0]? = some f ∧
      (history 0 oneOrder (cancelledInputs ++ lateNote)).cases[0]? = some f' ∧
      ¬OnceSet f.record f'.record) ∧
    ∃ f, (history 0 oneOrder lateSettlement).cases[0]? = some f ∧ ¬Folded f := by
  have hbefore : (history 0 oneOrder cancelledInputs).cases[0]?.map (·.record.closedAt) =
      some (some 10) := by decide +kernel
  have hafter : (history 0 oneOrder (cancelledInputs ++ lateNote)).cases[0]?.map
      (·.record.closedAt) = some (some 20) := by decide +kernel
  have htimes : (history 0 oneOrder lateSettlement).cases[0]?.map
      (·.events.map (·.occurredAt)) = some [0, 20, 10] := by decide +kernel
  obtain ⟨f, hf, hclosed⟩ := Option.map_eq_some_iff.1 hbefore
  obtain ⟨f', hf', hclosed'⟩ := Option.map_eq_some_iff.1 hafter
  obtain ⟨g, hg, hoccurred⟩ := Option.map_eq_some_iff.1 htimes
  refine ⟨⟨f, f', hf, hf', fun honce => ?_⟩, g, hg, fun hfolded => ?_⟩
  · rw [honce.closedAt 10 hclosed] at hclosed'
    cases hclosed'
  · have hsorted := List.pairwise_map.2 hfolded.times
    rw [hoccurred] at hsorted
    exact absurd hsorted (by decide)

end SubscriptionSaas.Closure
