import SubscriptionSaas.Closure.Governance
import SubscriptionSaas.Closure.Proofs.CaseProofs

/-!
# A version without an event

The next number of a log is computed from the version, which the governance commands raise without an
event. The version runs ahead of the log by their number (`Counted`), so that a case is explained by
its log exactly as long as none of them has written to it.
-/

namespace SubscriptionSaas.Closure

open Results Histories Tables
open Billing (Id)

variable {s s' : State} {f f' : CaseFile} {command : GovernanceCommand} {permitted : Bool} {id : Id}

/-- The log has every number, it explains the status, and the next number is the one that the next
command computes from the version. -/
structure Explained (f : CaseFile) : Prop where
  numbered : Numbered (·.sequence) f.events
  status : f.events.getLast?.map (·.afterStatus) = some f.record.status
  next : f.record.version + 2 = f.events.length + 1

theorem govern_some (h : govern s id command permitted = some s') :
    ∃ f, s.cases[id]? = some f ∧
      s' = { s with cases := s.cases.set id { f with record := f.record.governed command } } := by
  unfold govern at h
  split at h
  · cases h
  · rename_i f hf
    split at h
    · split at h
      · rename_i f' hwrite
        obtain ⟨rfl, -, -⟩ := writeCase_ok hwrite
        cases h
        exact ⟨f, hf, rfl⟩
      · cases h
    · cases h

@[simp] theorem governed_version (c : CaseRecord) (command : GovernanceCommand) :
    (c.governed command).version = c.version + 1 := by
  cases command <;> rfl

/-- How many of the writes of an input to the case leave no event. -/
def silentWrites (id : Id) (s : State) : Write → Nat
  | .repository _ => 0
  | .governance closureCaseId command permitted =>
    if closureCaseId = id ∧ (govern s closureCaseId command permitted).isSome then 1 else 0

/-- No governance command writes to the case. -/
def Ungoverned (id : Id) (s : State) (w : Write) : Prop := silentWrites id s w = 0

/-- What an input may do to a case that is there. -/
theorem write_case (w : Write) (hf : s.cases[id]? = some f) :
    ∃ f', (write s w).cases[id]? = some f' ∧
      ((f' = f ∧ silentWrites id s w = 0) ∨ ((∃ e, Appended f f' e) ∧ silentWrites id s w = 0) ∨
        (∃ command, f' = { f with record := f.record.governed command }) ∧
          silentWrites id s w = 1) := by
  cases w with
  | repository input =>
    obtain ⟨f', hf', rfl | ⟨startedAt, command, outcome, -, -, hupdated⟩⟩ := step_case input hf
    · exact ⟨f', hf', .inl ⟨rfl, rfl⟩⟩
    · exact ⟨f', hf', .inr (.inl ⟨hupdated.appended, rfl⟩)⟩
  | governance j command permitted =>
    simp only [write, silentWrites]
    rcases hgovern : govern s j command permitted with _ | s'
    · exact ⟨f, hf, .inl ⟨rfl, by simp⟩⟩
    · obtain ⟨g, hg, rfl⟩ := govern_some hgovern
      by_cases hj : j = id
      · subst hj
        obtain rfl : f = g := Option.some.inj (hf.symm.trans hg)
        exact ⟨_, List.getElem?_set_self (get_lt hg), .inr (.inr ⟨⟨command, rfl⟩, by simp⟩)⟩
      · refine ⟨f, ?_, .inl ⟨rfl, by simp [hj]⟩⟩
        rwa [Option.getD_some, List.getElem?_set_ne hj]

/-- A case that was not there has its first event. -/
theorem write_new {w : Write} (hf : (write s w).cases[id]? = some f) (hnone : s.cases[id]? = none) :
    Logged f ∧ silentWrites id s w = 0 := by
  cases w with
  | repository input =>
    obtain ⟨create, outcome, hcreate⟩ := step_new hf hnone
    exact ⟨createCase_logged hcreate, rfl⟩
  | governance j command permitted =>
    simp only [write] at hf
    rcases hgovern : govern s j command permitted with _ | s'
    · rw [hgovern] at hf
      exact absurd (hnone.symm.trans hf) (by simp)
    · obtain ⟨g, hg, rfl⟩ := govern_some hgovern
      rw [hgovern] at hf
      rcases get_set hf with ⟨rfl, -⟩ | ⟨-, hf⟩
      · exact absurd (hnone.symm.trans hg) (by simp)
      · exact absurd (hnone.symm.trans hf) (by simp)

theorem write_none {w : Write} (hnone : (write s w).cases[id]? = none) :
    s.cases[id]? = none := by
  rcases hf : s.cases[id]? with _ | f
  · rfl
  · obtain ⟨f', hf', -⟩ := write_case w hf
    rw [hnone] at hf'
    cases hf'

/-! ## Counting -/

/-- The writes of a run to the case that leave no event. -/
def silentRun (id : Id) : State → List Write → Nat
  | _, [] => 0
  | s, w :: writes => silentWrites id s w + silentRun id (write s w) writes

theorem silentRun_eq_zero {writes : List Write} :
    silentRun id s writes = 0 ↔ Runs.Along write (Ungoverned id) s writes := by
  induction writes generalizing s with
  | nil => exact ⟨fun _ => trivial, fun _ => rfl⟩
  | cons w writes ih =>
    rw [silentRun, Nat.add_eq_zero_iff, ih]
    rfl

/-- The version is ahead of the log by the silent writes. -/
structure Counted (f : CaseFile) (silent : Nat) : Prop where
  version : f.record.version + 1 = f.events.length + silent
  logged : silent = 0 → Logged f

/-- What holds of a case, if there is one. -/
def CaseCounted (s : State) (id : Id) (silent : Nat) : Prop :=
  (∀ f, s.cases[id]? = some f → Counted f silent) ∧ (s.cases[id]? = none → silent = 0)

theorem write_counted {silent : Nat} (w : Write) (h : CaseCounted s id silent) :
    CaseCounted (write s w) id (silent + silentWrites id s w) := by
  refine ⟨fun f' hf' => ?_, fun hnone => ?_⟩
  · rcases hf : s.cases[id]? with _ | f
    · obtain ⟨hlogged, hzero⟩ := write_new hf' hf
      rw [hzero, h.2 hf]
      exact ⟨hlogged.version.symm, fun _ => hlogged⟩
    · obtain ⟨hversion, hlogged⟩ := h.1 f hf
      obtain ⟨g, hg, hchange⟩ := write_case w hf
      obtain rfl : f' = g := Option.some.inj (hf'.symm.trans hg)
      rcases hchange with ⟨rfl, hzero⟩ | ⟨⟨e, happended⟩, hzero⟩ | ⟨⟨command, rfl⟩, hone⟩
      · rw [hzero]
        exact ⟨hversion, hlogged⟩
      · rw [hzero]
        refine ⟨?_, fun hsilent => happended.logged (hlogged hsilent)⟩
        rw [happended.version, happended.events, List.length_append, List.length_singleton]
        omega
      · rw [hone]
        refine ⟨?_, fun hsilent => by omega⟩
        rw [governed_version]
        change f.record.version + 1 + 1 = f.events.length + (silent + 1)
        omega
  · have hnone' := write_none hnone
    rw [h.2 hnone']
    cases w with
    | repository input => rfl
    | governance j command permitted =>
      rw [silentWrites, Nat.zero_add]
      refine if_neg ?_
      rintro ⟨rfl, hsome⟩
      obtain ⟨s', hgovern⟩ := Option.isSome_iff_exists.1 hsome
      obtain ⟨g, hg, -⟩ := govern_some hgovern
      rw [hnone'] at hg
      cases hg

theorem runs_counted {silent : Nat} (writes : List Write) (h : CaseCounted s id silent) :
    CaseCounted (Runs.runs write s writes) id (silent + silentRun id s writes) := by
  induction writes generalizing s silent with
  | nil => exact h
  | cons w writes ih =>
    rw [silentRun, ← Nat.add_assoc]
    exact ih (write_counted w h)

theorem Counted.explained_iff {silent : Nat} (h : Counted f silent) : Explained f ↔ silent = 0 := by
  constructor
  · intro hexplained
    have hnext := hexplained.next
    have hversion := h.version
    omega
  · intro hzero
    have hlogged := h.logged hzero
    have hversion := hlogged.version
    exact ⟨hlogged.history.numbered, hlogged.history.last, by omega⟩

/-- A case of any run is explained by its log exactly when no governance command has written to it. -/
theorem explained_iff_ungoverned (clock : Int) (references : References) (writes : List Write)
    (hf : (mixedHistory clock references writes).cases[id]? = some f) :
    Explained f ↔ Runs.Along write (Ungoverned id) (initial clock references) writes := by
  have hinitial : CaseCounted (initial clock references) id 0 := by
    refine ⟨fun g hg => ?_, fun _ => rfl⟩
    cases hg
  have hcounted := (runs_counted writes hinitial).1 f hf
  rw [hcounted.explained_iff, Nat.zero_add, silentRun_eq_zero]

/-- A returned vehicle is inspected. -/
def inspectedWrites : List Write :=
  [.repository (.command 0 (.createCase
      (createOne ⟨.normalCompletion, .voluntaryReturn, .complete⟩))),
    .repository (.command 0 (.transitionCase
      (eventOne .physicalControlConfirmed .preparingReturn .returnInspection 0 0 {})))]

/-- Its log explains it. -/
theorem inspected_explained : ∃ f, (mixedHistory 0 oneOrder inspectedWrites).cases[0]? = some f ∧
    f.record.status = .returnInspection ∧ Explained f := by
  have hrow : (mixedHistory 0 oneOrder inspectedWrites).cases[0]?.map (·.record.status) =
      some .returnInspection := by decide +kernel
  obtain ⟨f, hf, hstatus⟩ := Option.map_eq_some_iff.1 hrow
  exact ⟨f, hf, hstatus, (explained_iff_ungoverned 0 oneOrder inspectedWrites hf).2
    ⟨rfl, rfl, trivial⟩⟩

/-- Its condition delta is generated, and a note is added. -/
def deltaWrites : List Write :=
  inspectedWrites ++ [.governance 0 .generateDelta true,
    .repository (.command 0 (.transitionCase
      (eventOne .noteAdded .returnInspection .returnInspection 2 0 {})))]

/-- The note has number four in a log of three. -/
theorem delta_leaves_gap : ∃ f, (mixedHistory 0 oneOrder deltaWrites).cases[0]? = some f ∧
    f.events.map (·.sequence) = [1, 2, 4] ∧ ¬Explained f := by
  have hlog : (mixedHistory 0 oneOrder deltaWrites).cases[0]?.map
      (·.events.map (·.sequence)) = some [1, 2, 4] := by decide +kernel
  obtain ⟨f, hf, hsequence⟩ := Option.map_eq_some_iff.1 hlog
  refine ⟨f, hf, hsequence, fun hexplained => ?_⟩
  have hthird : (f.events.map (·.sequence))[2]? = some 4 := by
    rw [hsequence]
    rfl
  rw [List.getElem?_map] at hthird
  obtain ⟨e, he, hfour⟩ := Option.map_eq_some_iff.1 hthird
  have hthree : e.sequence = 2 + 1 := hexplained.numbered 2 e he
  rw [hfour] at hthree
  cases hthree

end SubscriptionSaas.Closure
