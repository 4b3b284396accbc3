import SubscriptionSaas.Journey.Moves
import SubscriptionSaas.Journey.Proofs.CourseProofs
import Mathlib.Data.List.Nodup

/-!
# Moves keep the tables of a journey

One lemma for each table, and one for each kind of move. A move that advances the journey completes
its step, which is what the keys of the events rest on.
-/

namespace SubscriptionSaas.Journey

variable {cause : Cause} {s s' s'' : State}

/-! ## Steps -/

theorem StepsOk.of_map {steps steps' : List Step} (h : StepsOk steps)
    (hsteps : steps'.map (fun step => (step.id, step.code)) =
      steps.map fun step => (step.id, step.code)) : StepsOk steps' := by
  have hids : steps'.map (·.id) = steps.map (·.id) := by
    simpa [List.map_map, Function.comp_def] using congrArg (List.map Prod.fst) hsteps
  have hcodes : steps'.map (·.code) = steps.map (·.code) := by
    simpa [List.map_map, Function.comp_def] using congrArg (List.map Prod.snd) hsteps
  have hlength : steps'.length = steps.length := by simpa using congrArg List.length hids
  refine ⟨?_, ?_⟩
  · rw [hids, hlength, h.ids]
  · rw [hcodes]
    exact h.codes

theorem StepsOk.touch {steps : List Step} {code : StepCode} (h : StepsOk steps)
    (hnone : steps.find? (·.code == code) = none) (status : StepStatus) :
    StepsOk (steps ++ [⟨steps.length, code, status⟩]) := by
  refine ⟨?_, ?_⟩
  · rw [List.map_append, h.ids, List.length_append, List.length_singleton, List.range_succ]
    rfl
  · rw [List.map_append]
    refine List.nodup_append.2 ⟨h.codes, List.nodup_singleton _, ?_⟩
    intro code' hcode' code'' hcode'' heq
    obtain ⟨step, hstep, rfl⟩ := List.mem_map.1 hcode'
    obtain rfl := List.mem_singleton.1 hcode''
    exact absurd (List.find?_eq_none.1 hnone step hstep) (by simp [heq])

/-- The row of a code is the row of the step with the code. -/
theorem StepsOk.find_code {steps : List Step} (h : StepsOk steps) {step : Step} (hstep : step ∈ steps) :
    steps.find? (·.code == step.code) = some step := by
  obtain ⟨found, hfound⟩ := Option.isSome_iff_exists.1
    (List.find?_isSome.2 ⟨step, hstep, by simp⟩ : (steps.find? (·.code == step.code)).isSome)
  have hcode : found.code = step.code := by simpa using List.find?_some hfound
  rw [hfound, List.inj_on_of_nodup_map h.codes (List.mem_of_find?_eq_some hfound) hstep hcode]

theorem StepsOk.nodup_ids {steps : List Step} (h : StepsOk steps) : (steps.map (·.id)).Nodup := by
  rw [h.ids]
  exact List.nodup_range

theorem StepsOk.find_id {steps : List Step} (h : StepsOk steps) {step : Step} (hstep : step ∈ steps) :
    steps.find? (·.id == step.id) = some step := by
  obtain ⟨found, hfound⟩ := Option.isSome_iff_exists.1
    (List.find?_isSome.2 ⟨step, hstep, by simp⟩ : (steps.find? (·.id == step.id)).isSome)
  have hid : found.id = step.id := by simpa using List.find?_some hfound
  rw [hfound, List.inj_on_of_nodup_map h.nodup_ids (List.mem_of_find?_eq_some hfound) hstep hid]

/-- A map that keeps the codes maps the rows. -/
theorem find_map_code {f : Step → Step} (hf : ∀ step, (f step).code = step.code) (steps : List Step)
    (code : StepCode) :
    (steps.map f).find? (·.code == code) = (steps.find? (·.code == code)).map f := by
  rw [List.find?_map]
  simp only [Function.comp_def, hf]

theorem rowsOf_map {f : Step → Step} (hf : ∀ step, (f step).code = step.code) (steps : List Step)
    (code : StepCode) :
    rowsOf (steps.map f) code = (steps.find? (·.code == code)).map fun step => (f step).status := by
  rw [rowsOf, find_map_code hf, Option.map_map]
  rfl

theorem rowsOf_append {steps : List Step} {code : StepCode}
    (hnone : steps.find? (·.code == code) = none) (id : Id) (status : StepStatus) :
    rowsOf (steps ++ [⟨id, code, status⟩]) = Function.update (rowsOf steps) code (some status) := by
  funext code'
  rw [rowsOf, List.find?_append]
  by_cases hcode : code' = code
  · subst hcode
    rw [Function.update_self, hnone]
    simp
  · rw [Function.update_of_ne hcode, rowsOf, List.find?_singleton, if_neg (by simpa using Ne.symm hcode)]
    simp

/-! ## Tasks -/

theorem TasksOk.steps_congr {steps steps' : List Step} {tasks : List ManualTask}
    (h : TasksOk steps tasks)
    (hsteps : ∀ step ∈ steps, ∃ step' ∈ steps', step'.id = step.id ∧ step'.code = step.code) :
    TasksOk steps' tasks := by
  refine ⟨h.ids, h.types, ?_⟩
  intro task htask
  obtain ⟨step, hstep, hid, htype⟩ := h.steps task htask
  obtain ⟨step', hstep', hid', hcode'⟩ := hsteps step hstep
  exact ⟨step', hstep', hid'.trans hid, hcode' ▸ htype⟩

/-- A map that opens no task keeps the open ones apart. -/
theorem TasksOk.map {steps : List Step} {tasks : List ManualTask} (h : TasksOk steps tasks)
    {f : ManualTask → ManualTask} (hid : ∀ task, (f task).id = task.id)
    (hstep : ∀ task, (f task).stepId = task.stepId)
    (htype : ∀ task, (f task).taskType = task.taskType)
    (hopen : ∀ task, (f task).status = .open → task.status = .open) :
    TasksOk steps (tasks.map f) := by
  refine ⟨?_, ?_, ?_⟩
  · rw [List.map_map, List.length_map, ← h.ids]
    exact List.map_congr_left fun task _ => hid task
  · have hsub : ∀ tasks : List ManualTask,
        (((tasks.map f).filter (·.status == .open)).map (·.taskType)).Sublist
          ((tasks.filter (·.status == .open)).map (·.taskType)) := by
      intro tasks
      induction tasks with
      | nil => exact .slnil
      | cons task tasks ih =>
        by_cases hfopen : (f task).status = .open
        · simpa [List.filter_cons, hfopen, hopen task hfopen, htype] using ih
        · by_cases htask : task.status = .open
          · simpa [List.filter_cons, hfopen, htask] using ih.trans (List.sublist_cons_self ..)
          · simpa [List.filter_cons, hfopen, htask] using ih
    exact h.types.sublist (hsub tasks)
  · intro task' htask'
    obtain ⟨task, htask, rfl⟩ := List.mem_map.1 htask'
    rw [hstep, htype]
    exact h.steps task htask

theorem TasksOk.open {steps : List Step} {tasks : List ManualTask} (h : TasksOk steps tasks)
    {step : Step} {taskType : TaskType} (hstep : step ∈ steps)
    (htype : manualTaskTypeFor step.code = some taskType)
    (hfree : ∀ task ∈ tasks, task.status = .open → task.taskType ≠ taskType) (input : TaskInput) :
    TasksOk steps (tasks ++ [⟨tasks.length, step.id, taskType, .open, none, input, 0⟩]) := by
  refine ⟨?_, ?_, ?_⟩
  · rw [List.map_append, h.ids, List.length_append, List.length_singleton, List.range_succ]
    rfl
  · rw [List.filter_append, List.map_append]
    refine List.nodup_append.2 ⟨h.types, List.nodup_singleton _, ?_⟩
    intro type hmapped type' htype' heq
    obtain ⟨task, htask, rfl⟩ := List.mem_map.1 hmapped
    obtain ⟨hmem, hopen⟩ := List.mem_filter.1 htask
    obtain rfl := List.mem_singleton.1 htype'
    exact hfree task hmem (by simpa using hopen) heq
  · intro task htask
    rcases List.mem_append.1 htask with htask | htask
    · exact h.steps task htask
    · obtain rfl := List.mem_singleton.1 htask
      exact ⟨step, hstep, rfl, htype⟩

/-! ## Outbox -/

/-- The columns of a row that no update changes. -/
structure OutboxRow.Same (row row' : OutboxRow) : Prop where
  id : row'.id = row.id
  key : row'.key = row.key
  eventType : row'.eventType = row.eventType
  payload : row'.payload = row.payload

theorem OutboxOk.nodup_ids {events : List JourneyEvent} {outbox : List OutboxRow}
    (h : OutboxOk events outbox) : (outbox.map (·.id)).Nodup := by
  rw [h.ids]
  exact List.nodup_range

theorem OutboxOk.map {events : List JourneyEvent} {outbox : List OutboxRow} (h : OutboxOk events outbox)
    {f : OutboxRow → OutboxRow} (hf : ∀ row : OutboxRow, row.Same (f row)) : OutboxOk events (outbox.map f) := by
  refine ⟨?_, ?_, ?_, ?_⟩
  · rw [List.map_map, List.length_map, ← h.ids]
    exact List.map_congr_left fun row _ => (hf row).id
  · rw [List.map_map]
    have hkeys : outbox.map ((·.key) ∘ f) = outbox.map (·.key) :=
      List.map_congr_left fun row _ => (hf row).key
    rw [hkeys]
    exact h.keys
  · intro event hevent
    obtain ⟨row, hrow, hkey, htype, hpayload⟩ := h.rows event hevent
    refine ⟨f row, List.mem_map_of_mem hrow, ?_, ?_, ?_⟩
    · rw [(hf row).key, hkey]
    · rw [(hf row).eventType, htype]
    · rw [(hf row).payload, hpayload]
  · intro row' hrow' key hkey
    obtain ⟨row, hrow, rfl⟩ := List.mem_map.1 hrow'
    rw [(hf row).key] at hkey
    rw [(hf row).eventType, (hf row).payload]
    exact h.events row hrow key hkey

/-- The row that a write adds. -/
def outboxRow (s : State) (key : OutboxKey) (eventType : EventType) (payload : Payload) : OutboxRow :=
  { id := s.outbox.length
    key := key
    eventType := eventType
    payload := payload
    status := .pending
    attemptCount := 0
    availableAt := s.now
    leaseToken := none
    leaseExpiresAt := none }

theorem writeOutbox_of_mem {key : OutboxKey} (h : ∃ row ∈ s.outbox, row.key = key)
    (eventType : EventType) (payload : Payload) : s.writeOutbox key eventType payload = s := by
  obtain ⟨row, hrow, hkey⟩ := h
  exact if_pos (List.any_eq_true.2 ⟨row, hrow, by simp [hkey]⟩)

theorem writeOutbox_of_fresh {key : OutboxKey} (h : ∀ row ∈ s.outbox, row.key ≠ key)
    (eventType : EventType) (payload : Payload) :
    s.writeOutbox key eventType payload =
      { s with outbox := s.outbox ++ [outboxRow s key eventType payload] } := by
  refine if_neg ?_
  rw [List.any_eq_true]
  rintro ⟨row, hrow, hkey⟩
  exact h row hrow (by simpa using hkey)

theorem OutboxOk.append_keys {events : List JourneyEvent} {outbox : List OutboxRow}
    (h : OutboxOk events outbox) (row : OutboxRow) (hid : row.id = outbox.length)
    (hfresh : ∀ row' ∈ outbox, row'.key ≠ row.key) :
    (outbox ++ [row]).map (·.id) = List.range (outbox ++ [row]).length ∧
      ((outbox ++ [row]).map (·.key)).Nodup := by
  refine ⟨?_, ?_⟩
  · rw [List.map_append, h.ids, List.length_append, List.length_singleton, List.range_succ]
    simp [hid]
  · rw [List.map_append]
    refine List.nodup_append.2 ⟨h.keys, List.nodup_singleton _, ?_⟩
    intro key hkey key' hkey' heq
    obtain ⟨row', hrow', rfl⟩ := List.mem_map.1 hkey
    obtain rfl := List.mem_singleton.1 hkey'
    exact hfresh row' hrow' heq

theorem OutboxOk.notify (h : OutboxOk s.events s.outbox) (source : OutboxRow) :
    OutboxOk s.events (enqueueNotificationOutbox source s).outbox := by
  unfold enqueueNotificationOutbox
  by_cases hmem : ∃ row ∈ s.outbox, row.key = .notification source.id
  · rw [writeOutbox_of_mem hmem]
    exact h
  · have hfresh : ∀ row ∈ s.outbox, row.key ≠ .notification source.id :=
      fun row hrow hkey => hmem ⟨row, hrow, hkey⟩
    rw [writeOutbox_of_fresh hfresh]
    obtain ⟨hids, hkeys⟩ := h.append_keys
      (outboxRow s _ source.eventType (.notification source.key source.eventType source.id))
      rfl hfresh
    refine ⟨hids, hkeys, ?_, ?_⟩
    · intro event hevent
      obtain ⟨row, hrow, hrow'⟩ := h.rows event hevent
      exact ⟨row, List.mem_append_left _ hrow, hrow'⟩
    · intro row hrow key hkey
      rcases List.mem_append.1 hrow with hrow | hrow
      · exact h.events row hrow key hkey
      · obtain rfl := List.mem_singleton.1 hrow
        cases hkey

/-- The row of an event whose key is new. -/
theorem OutboxOk.event_fresh {events : List JourneyEvent} {outbox : List OutboxRow}
    (h : OutboxOk events outbox) {key : EventKey} (hfresh : ∀ event ∈ events, event.key ≠ key) :
    ∀ row ∈ outbox, row.key ≠ .event key := by
  intro row hrow hkey
  obtain ⟨event, hevent, hkey', -⟩ := h.events row hrow key hkey
  exact hfresh event hevent hkey'

theorem OutboxOk.write {events : List JourneyEvent} (h : OutboxOk events s.outbox)
    {event : JourneyEvent} (hfresh : ∀ e ∈ events, e.key ≠ event.key) :
    OutboxOk (events ++ [event])
      (s.writeOutbox (.event event.key) event.eventType event.payload).outbox := by
  have hrows := h.event_fresh hfresh
  rw [writeOutbox_of_fresh hrows]
  obtain ⟨hids, hkeys⟩ := h.append_keys
    (outboxRow s (.event event.key) event.eventType event.payload) rfl hrows
  refine ⟨hids, hkeys, ?_, ?_⟩
  · intro e he
    rcases List.mem_append.1 he with he | he
    · obtain ⟨row, hrow, hrow'⟩ := h.rows e he
      exact ⟨row, List.mem_append_left _ hrow, hrow'⟩
    · obtain rfl := List.mem_singleton.1 he
      exact ⟨_, List.mem_append_right _ (List.mem_singleton_self _), rfl, rfl, rfl⟩
  · intro row hrow key hkey
    rcases List.mem_append.1 hrow with hrow | hrow
    · obtain ⟨e, he, he'⟩ := h.events row hrow key hkey
      exact ⟨e, List.mem_append_left _ he, he'⟩
    · obtain rfl := List.mem_singleton.1 hrow
      refine ⟨event, List.mem_append_right _ (List.mem_singleton_self _), ?_, rfl, rfl⟩
      simpa [outboxRow] using hkey

theorem cancelOutbox_ok {events : List JourneyEvent} {outbox : List OutboxRow}
    (h : OutboxOk events outbox) : OutboxOk events (cancelOutbox outbox) := by
  refine h.map fun row => ?_
  split <;> exact ⟨rfl, rfl, rfl, rfl⟩

/-! ## Keys -/

/-- The code of a live journey after a move of its course. -/
theorem Course.Step.code {c c' : Course} (h : c.Ok) (hstep : c.Step c') :
    c'.status.terminal = true ∨ c'.code = c.code ∨ c'.code.index = c.code.index + 1 ∨
      (c.code = .orderAndContractCreation ∧ c'.code = .finalPlanDecision) ∨
        (c.code = .deliveryEvidenceDecision ∧ c'.code = .handoverAndStage2Creation) := by
  cases hstep with
  | observe | waitCustomer | waitManual | fail | pause | resume | retry => exact .inr (.inl rfl)
  | cancel => exact .inl rfl
  | complete hmove =>
    rcases hnext : c.next with _ | following
    · exact .inl (by simp [Course.complete, hnext, JourneyStatus.terminal])
    · have hcode : c.complete.code = following := by simp [Course.complete, hnext]
      have hindex := h.next_index hmove.live hnext
      exact .inr (.inr (.inl (by rw [hcode, hindex])))
  | replan hmove hcode => exact .inr (.inr (.inr (.inl ⟨hcode, rfl⟩)))
  | reconfirm hmove hcode =>
    refine .inr (.inr (.inl ?_))
    rw [hcode]
    rfl
  | rehand hmove hcode => exact .inr (.inr (.inr (.inr ⟨hcode, rfl⟩)))

/-- A completion arrives at the next step, if the journey has not come to its end. -/
theorem Course.Ok.complete_index {c : Course} (h : c.Ok) (hmove : c.CanMove)
    (hlive : c.complete.status.terminal = false) : c.complete.code.index = c.code.index + 1 := by
  rcases hnext : c.next with _ | following
  · simp [Course.complete, hnext, JourneyStatus.terminal] at hlive
  · have hcode : c.complete.code = following := by simp [Course.complete, hnext]
    rw [hcode, h.next_index hmove.live hnext]

section Write

variable {journey : JourneyRow} {steps : List Step} {event : JourneyEvent}

/-- Where the journey arrives: at no earlier step, unless it returns. -/
theorem Written.index_le (hok : s.course.Ok) (hcourse : s.course.Step (courseOf journey steps))
    (hlive : journey.status.terminal = false) :
    s.journey.currentStepCode.index ≤ journey.currentStepCode.index ∨
      (s.journey.currentStepCode = .orderAndContractCreation ∧
        journey.currentStepCode = .finalPlanDecision) ∨
        (s.journey.currentStepCode = .deliveryEvidenceDecision ∧
          journey.currentStepCode = .handoverAndStage2Creation) := by
  rcases hcourse.code hok with hterminal | hcode | hindex | hreturns | hrejects
  · rw [show (courseOf journey steps).status = journey.status from rfl, hlive] at hterminal
    cases hterminal
  · exact .inl (Nat.le_of_eq (congrArg StepCode.index hcode).symm)
  · refine .inl ?_
    have hindex' : journey.currentStepCode.index = s.journey.currentStepCode.index + 1 := hindex
    omega
  · exact .inr (.inl hreturns)
  · exact .inr (.inr hrejects)

/-- What lies before the journey stays before it, unless the evidence is rejected. -/
theorem Written.still_before (hok : s.course.Ok)
    (hcourse : s.course.Step (courseOf journey steps))
    (hevent : Written cause s event (courseOf journey steps))
    (hlive : journey.status.terminal = false) (hrejects : event.payload.rejects = false) {n : Nat}
    (hn : StepCode.orderAndContractCreation.index < n)
    (hbefore : n ≤ s.journey.currentStepCode.index) : n ≤ journey.currentStepCode.index := by
  rcases Written.index_le hok hcourse hlive with hle | ⟨hcode, -⟩ | ⟨hcode, hcode'⟩
  · exact Nat.le_trans hbefore hle
  · rw [hcode] at hbefore
    omega
  · rw [hevent.rejects hcode hcode'] at hrejects
    cases hrejects

/-- A key that completes a step is written at the step, which the journey leaves. -/
theorem Written.key_left (hok : s.course.Ok)
    (hevent : Written cause s event (courseOf journey steps))
    (hlive : journey.status.terminal = false) {code : StepCode}
    (hkey : event.key.stepCode = some code) (htype : event.eventType = .stepCompleted) :
    s.journey.currentStepCode = code ∧ journey.currentStepCode.index = code.index + 1 := by
  have hcode := hevent.atStep code hkey
  obtain ⟨hmove, hcomplete⟩ := hevent.completed htype
  have hlive' : s.course.complete.status.terminal = false := hcomplete ▸ hlive
  have hindex := hok.complete_index hmove hlive'
  rw [← hcomplete] at hindex
  exact ⟨hcode, hcode ▸ hindex⟩

end Write

theorem EventKey.stepCode_of_isReady {key : EventKey} (h : key.isReady = true) :
    key.stepCode = some .handoverAndStage2Creation := by
  cases key <;> first | rfl | exact Bool.noConfusion h

theorem rejected_append {events : List JourneyEvent} {event : JourneyEvent}
    (h : (events ++ [event]).any (·.payload.rejects) = false) :
    events.any (·.payload.rejects) = false ∧ event.payload.rejects = false := by
  rw [List.any_append, Bool.or_eq_false_iff] at h
  exact ⟨h.1, by simpa using h.2⟩

/-- The keys after a move that has written an event. -/
theorem KeysOk.write (h : KeysOk s) (hok : s.course.Ok) {journey : JourneyRow} {steps : List Step}
    {event : JourneyEvent} (horder : journey.orderId = s.journey.orderId)
    (hcourse : s.course.Step (courseOf journey steps))
    (hevent : Written cause s event (courseOf journey steps))
    (hlive : journey.status.terminal = false) (htasks : s'.tasks = s.tasks)
    (happlication : s'.application = s.application) (hjourney : s'.journey = journey)
    (hevents : s'.events = s.events ++ [event]) : KeysOk s' := by
  have hrejected : s'.rejected = false → s.rejected = false ∧ event.payload.rejects = false := by
    intro hr
    rw [State.rejected, hevents] at hr
    exact rejected_append hr
  subst hjourney
  refine ⟨?_, ?_, ?_, ?_, ?_, ?_, ?_, ?_⟩
  · intro e he revision hashKey hkey
    rw [happlication]
    rw [hevents] at he
    rcases List.mem_append.1 he with he | he
    · obtain ⟨hle, hlt⟩ := h.confirmed e he revision hashKey hkey
      refine ⟨hle, fun hcode => ?_⟩
      by_cases hsame : s'.journey.currentStepCode = s.journey.currentStepCode
      · exact hlt (hsame ▸ hcode)
      · rcases hcourse.code hok with hterminal | hcode' | hindex | ⟨-, hcode'⟩ | ⟨-, hcode'⟩
        · rw [show (courseOf s'.journey steps).status = s'.journey.status from rfl, hlive] at hterminal
          cases hterminal
        · exact absurd hcode' hsame
        · -- the journey comes from the decision of the plan, or from the vehicle
          have hindex' : s'.journey.currentStepCode.index = s.journey.currentStepCode.index + 1 :=
            hindex
          rcases hcode with hcode | hcode
          · have hplan : s.journey.currentStepCode = .finalPlanDecision := by
              apply StepCode.index_inj
              rw [hcode] at hindex'
              exact (Nat.succ.inj hindex').symm
            rcases hevent.advanced (by show _ < s'.journey.currentStepCode.index; omega) with
              htype | hvehicle
            · exact hevent.published htype hplan e he revision hashKey hkey
            · exact hlt (.inl hvehicle)
          · refine hlt (.inl (StepCode.index_inj ?_))
            rw [hcode] at hindex'
            exact (Nat.succ.inj hindex').symm
        · have hcode'' : s'.journey.currentStepCode = .finalPlanDecision := hcode'
          rw [hcode''] at hcode
          rcases hcode with hcode | hcode <;> cases hcode
        · have hcode'' : s'.journey.currentStepCode = .handoverAndStage2Creation := hcode'
          rw [hcode''] at hcode
          rcases hcode with hcode | hcode <;> cases hcode
    · obtain rfl := List.mem_singleton.1 he
      refine ⟨Nat.le_of_eq (hevent.revision revision hashKey hkey), fun hcode => ?_⟩
      have htype := hevent.completing revision hashKey 0 (.inr (.inr hkey))
      have hstep : e.key.stepCode = some .customerPlanConfirmation := by
        rw [hkey]
        rfl
      obtain ⟨-, hindex⟩ := hevent.key_left hok hlive hstep htype
      rcases hcode with hcode | hcode <;> rw [hcode] at hindex <;> exact absurd hindex (by decide)
  · intro e he contractId hkey
    rw [hevents] at he
    rcases List.mem_append.1 he with he | he
    · have hbefore := h.archived e he contractId hkey
      rcases Written.index_le hok hcourse hlive with hle | ⟨hcode, -⟩ | ⟨hcode, hcode'⟩
      · exact Nat.lt_of_lt_of_le hbefore hle
      · rw [hcode] at hbefore
        exact absurd hbefore (by decide)
      · rw [hcode']
        decide
    · obtain rfl := List.mem_singleton.1 he
      have htype := hevent.completing 0 [] contractId (.inr (.inl hkey))
      have hstep : e.key.stepCode = some .fadadaSigningAndArchive := by
        rw [hkey]
        rfl
      obtain ⟨-, hindex⟩ := hevent.key_left hok hlive hstep htype
      omega
  · intro hr e he hready
    obtain ⟨hr', hrejects⟩ := hrejected hr
    rw [hevents] at he
    rcases List.mem_append.1 he with he | he
    · exact hevent.still_before hok hcourse hlive hrejects (by decide) (h.ready hr' e he hready)
    · obtain rfl := List.mem_singleton.1 he
      have htype := hevent.completing 0 [] 0 (.inl hready)
      obtain ⟨-, hindex⟩ := hevent.key_left hok hlive (EventKey.stepCode_of_isReady hready) htype
      omega
  · intro hr
    obtain ⟨hr', -⟩ := hrejected hr
    rw [hevents]
    refine List.pairwise_append.2 ⟨h.once hr', List.pairwise_singleton _ _, ?_⟩
    intro e he e' he' hready hready'
    obtain rfl := List.mem_singleton.1 he'
    have hbefore := h.ready hr' e he hready
    rw [hevent.atStep _ (EventKey.stepCode_of_isReady hready')] at hbefore
    exact absurd hbefore (Nat.lt_irrefl _)
  · intro e he code hkey
    rw [htasks]
    rw [hevents] at he
    rcases List.mem_append.1 he with he | he
    · exact h.waiting e he code hkey
    · obtain rfl := List.mem_singleton.1 he
      exact hevent.waiting code hkey
  · intro hr task htask htype
    obtain ⟨hr', hrejects⟩ := hrejected hr
    rw [htasks] at htask
    exact hevent.still_before hok hcourse hlive hrejects (by decide) (h.tasks hr' task htask htype)
  · intro hr e he workOrderId hashKey decision hkey
    obtain ⟨hr', hrejects⟩ := hrejected hr
    rw [hevents] at he
    rcases List.mem_append.1 he with he | he
    · exact hevent.still_before hok hcourse hlive hrejects (by decide)
        (h.decided hr' e he workOrderId hashKey decision hkey)
    · obtain rfl := List.mem_singleton.1 he
      exact hevent.decided workOrderId hashKey decision hkey hrejects
  · intro hordered
    rw [horder]
    rcases hcourse.code hok with hterminal | hcode | hindex | ⟨-, hcode⟩ | ⟨hcode, -⟩
    · rw [show (courseOf s'.journey steps).status = s'.journey.status from rfl, hlive] at hterminal
      cases hterminal
    · have hcode' : s'.journey.currentStepCode = s.journey.currentStepCode := hcode
      exact h.ordered (hcode' ▸ hordered)
    · have hindex' : s'.journey.currentStepCode.index = s.journey.currentStepCode.index + 1 := hindex
      by_cases hcode : s.journey.currentStepCode = .orderAndContractCreation
      · rcases hevent.advanced (by show _ < s'.journey.currentStepCode.index; omega) with
          htype | hvehicle
        · exact hevent.ordered htype hcode
        · rw [hcode] at hvehicle
          cases hvehicle
      · have hne : s.journey.currentStepCode.index ≠ StepCode.orderAndContractCreation.index :=
          fun heq => hcode (StepCode.index_inj heq)
        exact h.ordered (by omega)
    · have hcode' : s'.journey.currentStepCode = .finalPlanDecision := hcode
      rw [hcode'] at hordered
      exact absurd hordered (by decide)
    · refine h.ordered ?_
      rw [show s.journey.currentStepCode = .deliveryEvidenceDecision from hcode]
      decide

/-- The other moves leave the journey where it is and write no event. -/
theorem KeysOk.congr (h : KeysOk s) (hjourney : s'.journey.currentStepCode = s.journey.currentStepCode)
    (hevents : s'.events = s.events) (horder : s.journey.orderId.isSome → s'.journey.orderId.isSome)
    (htasks : ∀ task ∈ s.tasks, ∃ task' ∈ s'.tasks, task'.taskType = task.taskType)
    (htasks' : ∀ task' ∈ s'.tasks, task'.taskType = .deliveryEvidenceDecision →
      (∃ task ∈ s.tasks, task.taskType = .deliveryEvidenceDecision) ∨
        s.journey.currentStepCode = .deliveryEvidenceDecision)
    (happlication : s'.application.finalPlanRevision = s.application.finalPlanRevision ∨
      s'.application.finalPlanRevision = s.application.finalPlanRevision + 1) : KeysOk s' := by
  have hrejected : s'.rejected = s.rejected := congrArg (List.any · _) hevents
  refine ⟨?_, ?_, ?_, ?_, ?_, ?_, ?_, ?_⟩
  · intro e he revision hashKey hkey
    rw [hevents] at he
    obtain ⟨hle, hlt⟩ := h.confirmed e he revision hashKey hkey
    rw [hjourney]
    rcases happlication with hsame | hraised
    · rw [hsame]
      exact ⟨hle, hlt⟩
    · rw [hraised]
      exact ⟨Nat.le_succ_of_le hle, fun _ => Nat.lt_succ_of_le hle⟩
  · rw [hevents, hjourney]
    exact h.archived
  · rw [hrejected, hevents, hjourney]
    exact h.ready
  · rw [hrejected, hevents]
    exact h.once
  · intro e he code hkey
    rw [hevents] at he
    obtain ⟨task, htask, htype⟩ := h.waiting e he code hkey
    obtain ⟨task', htask', htype'⟩ := htasks task htask
    exact ⟨task', htask', htype.trans (congrArg some htype'.symm)⟩
  · intro hr task' htask' htype
    rw [hrejected] at hr
    rw [hjourney]
    rcases htasks' task' htask' htype with ⟨task, htask, htype'⟩ | hcode
    · exact h.tasks hr task htask htype'
    · exact Nat.le_of_eq (congrArg StepCode.index hcode.symm)
  · rw [hrejected, hevents, hjourney]
    exact h.decided
  · rw [hjourney]
    exact fun hordered => horder (h.ordered hordered)

/-! ## Moves -/

theorem State.Ok.touch (h : s.Ok) {code : StepCode} (hnone : s.stepOf code = none) :
    State.Ok { s with steps := s.steps ++ [⟨s.steps.length, code, .pending⟩] } := by
  have hcourse : courseOf s.journey (s.steps ++ [⟨s.steps.length, code, .pending⟩]) =
      { s.course with rows := Function.update s.course.rows code (some .pending) } := by
    rw [courseOf, rowsOf_append hnone]
    rfl
  refine ⟨h.steps.touch hnone _, ?_, h.sequences, ?_, h.outbox, fun hlive => ?_⟩
  · show (courseOf s.journey _).Ok
    rw [hcourse]
    refine h.course.touch ?_
    show (s.stepOf code).map _ = none
    rw [hnone]
    rfl
  · exact h.tasks.steps_congr fun step hstep => ⟨step, List.mem_append_left _ hstep, rfl, rfl⟩
  · exact (h.keys hlive).congr rfl rfl id (fun task htask => ⟨task, htask, rfl⟩)
      (fun task htask htype => .inl ⟨task, htask, htype⟩) (.inl rfl)

theorem sequences_append {events : List JourneyEvent} {event : JourneyEvent} {version : Nat}
    (h : events.map (·.sequence) = List.range (version + 1)) (hevent : event.sequence = version + 1) :
    (events ++ [event]).map (·.sequence) = List.range (version + 1 + 1) := by
  rw [List.map_append, h, List.range_succ (n := version + 1), List.map_singleton, hevent]

theorem mem_of_steps_map {steps steps' : List Step}
    (hsteps : steps'.map (fun step => (step.id, step.code)) =
      steps.map fun step => (step.id, step.code)) :
    ∀ step ∈ steps, ∃ step' ∈ steps', step'.id = step.id ∧ step'.code = step.code := by
  intro step hstep
  have hmem : (step.id, step.code) ∈ steps'.map fun step => (step.id, step.code) :=
    hsteps ▸ List.mem_map_of_mem hstep
  obtain ⟨step', hstep', heq⟩ := List.mem_map.1 hmem
  exact ⟨step', hstep', congrArg Prod.fst heq, congrArg Prod.snd heq⟩

theorem State.Ok.move (h : s.Ok) (hmove : Move cause s s') : s'.Ok := by
  cases hmove with
  | quiet jobs exceptions factVersion =>
    exact ⟨h.steps, h.course, h.sequences, h.tasks, h.outbox, fun hlive =>
      (h.keys hlive).congr rfl rfl id (fun task htask => ⟨task, htask, rfl⟩)
        (fun task htask htype => .inl ⟨task, htask, htype⟩) (.inl rfl)⟩
  | notify source =>
    have hother : ∃ outbox, enqueueNotificationOutbox source s = { s with outbox := outbox } := by
      unfold enqueueNotificationOutbox State.writeOutbox
      split
      · exact ⟨s.outbox, rfl⟩
      · exact ⟨_, rfl⟩
    have houtbox := h.outbox.notify source
    obtain ⟨outbox, hs'⟩ := hother
    rw [hs'] at houtbox ⊢
    exact ⟨h.steps, h.course, h.sequences, h.tasks, houtbox, fun hlive =>
      (h.keys hlive).congr rfl rfl id (fun task htask => ⟨task, htask, rfl⟩)
        (fun task htask htype => .inl ⟨task, htask, htype⟩) (.inl rfl)⟩
  | touch code hnone => exact h.touch hnone
  | replan commercialHash hcode =>
    exact ⟨h.steps, h.course, h.sequences, h.tasks, h.outbox, fun hlive =>
      (h.keys hlive).congr rfl rfl id (fun task htask => ⟨task, htask, rfl⟩)
        (fun task htask htype => .inl ⟨task, htask, htype⟩) (.inr rfl)⟩
  | attach orderId =>
    exact ⟨h.steps, h.course, h.sequences, h.tasks, h.outbox, fun hlive =>
      (h.keys hlive).congr rfl rfl (fun _ => rfl) (fun task htask => ⟨task, htask, rfl⟩)
        (fun task htask htype => .inl ⟨task, htask, htype⟩) (.inl rfl)⟩
  | decide taskId version decision =>
    have htype : ∀ task : ManualTask, (if task.isOpenAt taskId version then
        { task with decision := some decision, status := TaskStatus.completed,
                    version := task.version + 1 }
        else task).taskType = task.taskType := by
      intro task
      split <;> rfl
    refine ⟨h.steps, h.course, h.sequences, ?_, h.outbox, fun hlive => ?_⟩
    · refine h.tasks.map (fun task => ?_) (fun task => ?_) htype (fun task hopen => ?_)
      · split <;> rfl
      · split <;> rfl
      · split at hopen
        · cases hopen
        · exact hopen
    · refine (h.keys hlive).congr rfl rfl id ?_ ?_ (.inl rfl)
      · exact fun task htask => ⟨_, List.mem_map_of_mem htask, htype task⟩
      · intro task' htask' htype'
        obtain ⟨task, htask, rfl⟩ := List.mem_map.1 htask'
        exact .inl ⟨task, htask, (htype task).symm.trans htype'⟩
  | openTask step taskType input hstep htype hfree hevidence =>
    refine ⟨h.steps, h.course, h.sequences, h.tasks.open hstep htype hfree input, h.outbox,
      fun hlive => ?_⟩
    refine (h.keys hlive).congr rfl rfl id ?_ ?_ (.inl rfl)
    · exact fun task htask => ⟨task, List.mem_append_left _ htask, rfl⟩
    · intro task htask htype'
      rcases List.mem_append.1 htask with htask | htask
      · exact .inl ⟨task, htask, htype'⟩
      · obtain rfl := List.mem_singleton.1 htask
        exact .inr (hevidence htype').1
  | write journey steps event hversion horder hsteps hcourse hevent =>
    let t : State := { s with journey := journey, steps := steps, events := s.events ++ [event] }
    have houtbox : OutboxOk (s.events ++ [event]) _ := OutboxOk.write (s := t) h.outbox hevent.fresh
    have hrows := h.outbox.event_fresh hevent.fresh
    have hwrite := writeOutbox_of_fresh (s := t) hrows event.eventType event.payload
    show State.Ok (t.writeOutbox _ _ _)
    rw [hwrite] at houtbox ⊢
    refine ⟨h.steps.of_map hsteps, h.course.step hcourse, ?_,
      h.tasks.steps_congr (mem_of_steps_map hsteps), houtbox, fun hlive => ?_⟩
    · show (s.events ++ [event]).map _ = List.range (journey.version + 1)
      rw [hversion]
      exact sequences_append h.sequences hevent.sequence
    · have hbefore : s.journey.status.terminal = false := by
        by_contra hterminal
        have hended : s.journey.status.terminal = true := by simpa using hterminal
        have heq := hcourse.terminal hended
        have hstatus : journey.status = s.journey.status := congrArg Course.status heq
        rw [← hstatus] at hterminal
        exact hterminal hlive
      exact (h.keys hbefore).write h.course horder hcourse hevent hlive rfl rfl rfl rfl
  | cancel journey steps jobs event hversion horder hsteps hlive hcourse hevent =>
    let t : State :=
      { s with
        journey := journey
        steps := steps
        jobs := jobs
        tasks := cancelTasks s.tasks
        outbox := cancelOutbox s.outbox
        events := s.events ++ [event] }
    have houtbox : OutboxOk (s.events ++ [event]) _ :=
      OutboxOk.write (s := t) (cancelOutbox_ok h.outbox) hevent.fresh
    have hrows := (cancelOutbox_ok h.outbox).event_fresh hevent.fresh
    have hwrite := writeOutbox_of_fresh (s := t) hrows event.eventType event.payload
    show State.Ok (t.writeOutbox _ _ _)
    rw [hwrite] at houtbox ⊢
    have hstatus : journey.status = .cancelled := congrArg Course.status hcourse
    refine ⟨h.steps.of_map hsteps, ?_, ?_, ?_, houtbox, fun hlive' => ?_⟩
    · show (courseOf journey steps).Ok
      rw [hcourse]
      exact Course.Ok.cancel
    · show (s.events ++ [event]).map _ = List.range (journey.version + 1)
      rw [hversion]
      exact sequences_append h.sequences hevent.sequence
    · refine TasksOk.map (h.tasks.steps_congr (mem_of_steps_map hsteps)) (fun task => ?_)
        (fun task => ?_) (fun task => ?_) fun task hopen => ?_
      · split <;> rfl
      · split <;> rfl
      · split <;> rfl
      · split at hopen
        · cases hopen
        · exact hopen
    · exfalso
      have hlive'' : journey.status.terminal = false := hlive'
      rw [hstatus] at hlive''
      cases hlive''

theorem Moves.trans (h : Moves cause s s') (h' : Moves cause s' s'') : Moves cause s s'' := by
  induction h' with
  | refl => exact h
  | tail _ hmove ih => exact ih.tail hmove

theorem Move.moves (h : Move cause s s') : Moves cause s s' := (Moves.refl s).tail h

theorem State.Ok.moves (h : s.Ok) (hmoves : Moves cause s s') : s'.Ok := by
  induction hmoves with
  | refl => exact h
  | tail _ hmove ih => exact ih.move hmove

end SubscriptionSaas.Journey
