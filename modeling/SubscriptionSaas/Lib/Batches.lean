import Mathlib.Data.List.Perm.Subperm
import Mathlib.Data.List.Nodup
import Mathlib.Logic.Function.Iterate

/-!
# Serving a backlog in bounded batches

A backlog is served in rounds. In each round at most `limit` of its members are picked, in whatever
way, and those of the picked that are ready leave it; the others are stuck. A member that is ready is
served in the end if fewer than `limit` members are stuck (`Serving.served`). If as many are stuck,
they can be picked in every round, and nothing else ever is (`Serving.starved`).
-/

namespace Batches

variable {σ ι : Type}

/-- A batch: members of the backlog, and as many as there are or as the limit allows. -/
structure Picks (limit : Nat) (backlog chosen : List ι) : Prop where
  nodup : chosen.Nodup
  subset : chosen ⊆ backlog
  length : chosen.length = min limit backlog.length

instance [DecidableEq ι] (limit : Nat) (backlog chosen : List ι) :
    Decidable (Picks limit backlog chosen) :=
  decidable_of_iff (chosen.Nodup ∧ (∀ i ∈ chosen, i ∈ backlog) ∧
    chosen.length = min limit backlog.length)
    ⟨fun h => ⟨h.1, h.2.1, h.2.2⟩, fun h => ⟨h.nodup, h.subset, h.length⟩⟩

/-- The state after the rounds with the given batches. -/
def rounds (next : σ → List ι → σ) (s : σ) (choices : Nat → List ι) : Nat → σ
  | 0 => s
  | n + 1 => rounds next (next s (choices 0)) (fun k => choices (k + 1)) n

/-- Every batch is one of the backlog at its time. -/
def Chosen (backlog : σ → List ι) (next : σ → List ι → σ) (limit : Nat) (s : σ)
    (choices : Nat → List ι) : Prop :=
  ∀ n, Picks limit (backlog (rounds next s choices n)) (choices n)

variable {backlog : σ → List ι} {ready : σ → ι → Prop} {next : σ → List ι → σ} {limit : Nat}
  {s : σ} {choices : Nat → List ι} {i : ι}

theorem rounds_succ (n : Nat) : rounds next s choices (n + 1) =
    next (rounds next s choices n) (choices n) := by
  induction n generalizing s choices with
  | zero => rfl
  | succ n ih => exact @ih (next s (choices 0)) fun k => choices (k + 1)

theorem Chosen.tail (h : Chosen backlog next limit s choices) :
    Chosen backlog next limit (next s (choices 0)) fun k => choices (k + 1) :=
  fun n => h (n + 1)

theorem picks_take (limit : Nat) {l : List ι} (h : l.Nodup) : Picks limit l (l.take limit) :=
  ⟨h.sublist (List.take_sublist limit l), List.take_subset limit l, List.length_take⟩

/-- What a round does to the backlog. -/
structure Serving (backlog : σ → List ι) (ready : σ → ι → Prop) (next : σ → List ι → σ)
    (limit : Nat) : Prop where
  nodup (s : σ) : (backlog s).Nodup
  old (s : σ) (chosen : List ι) (j : ι) : Picks limit (backlog s) chosen →
    j ∈ backlog (next s chosen) → j ∈ backlog s
  serves (s : σ) (chosen : List ι) (j : ι) : Picks limit (backlog s) chosen → j ∈ chosen →
    ready s j → j ∉ backlog (next s chosen)
  stuck (s : σ) (chosen : List ι) (j : ι) : Picks limit (backlog s) chosen → j ∈ backlog s →
    ¬ready s j → j ∈ backlog (next s chosen) ∧ ¬ready (next s chosen) j
  waits (s : σ) (chosen : List ι) (j : ι) : Picks limit (backlog s) chosen →
    j ∈ backlog (next s chosen) → ready s j → ready (next s chosen) j

/-- The members of the backlog that are stuck. -/
noncomputable def stuckOf (backlog : σ → List ι) (ready : σ → ι → Prop) (s : σ) : List ι :=
  open Classical in (backlog s).filter fun j => ¬ready s j

/-- The members of the backlog that are ready. -/
noncomputable def waiting (backlog : σ → List ι) (ready : σ → ι → Prop) (s : σ) : List ι :=
  open Classical in (backlog s).filter fun j => ready s j

theorem mem_stuck {j : ι} : j ∈ stuckOf backlog ready s ↔ j ∈ backlog s ∧ ¬ready s j := by
  simp [stuckOf]

theorem mem_waiting {j : ι} : j ∈ waiting backlog ready s ↔ j ∈ backlog s ∧ ready s j := by
  simp [waiting]

/-- A batch that leaves out a member of the backlog is full, and picks a ready one if fewer than the
limit are stuck. -/
theorem Picks.exists_free {l chosen : List ι} (h : Picks limit l chosen) (hi : i ∈ l) (hnot : i ∉ chosen)
    {stuck : List ι} (hstuck : stuck.length < limit) : ∃ j ∈ chosen, j ∉ stuck := by
  have hsub : chosen.Subperm l := h.nodup.subperm h.subset
  by_contra hall
  push Not at hall
  have hle := (h.nodup.subperm hall).length_le
  have hlen := h.length
  rcases Nat.le_total l.length limit with hshort | hfull
  · rw [Nat.min_eq_right hshort] at hlen
    exact hnot ((hsub.perm_of_length_le (Nat.le_of_eq hlen.symm)).mem_iff.2 hi)
  · rw [Nat.min_eq_left hfull] at hlen
    omega

/-- A ready member leaves the backlog after some rounds if fewer than the limit are stuck. -/
theorem Serving.served (h : Serving backlog ready next limit) (hready : ready s i)
    (hstuck : (stuckOf backlog ready s).length < limit)
    (hchoices : Chosen backlog next limit s choices) :
    ∃ n, i ∉ backlog (rounds next s choices n) := by
  obtain ⟨m, hm⟩ : ∃ m, (waiting backlog ready s).length < m := ⟨_, Nat.lt_succ_self _⟩
  induction m generalizing s choices with
  | zero => omega
  | succ m ih =>
    by_cases hi : i ∈ backlog s
    · by_cases hnext : i ∈ backlog (next s (choices 0))
      · have hpicks := hchoices 0
        have hnot : i ∉ choices 0 := fun hpicked => h.serves s _ i hpicks hpicked hready hnext
        obtain ⟨j, hj, hfree⟩ := hpicks.exists_free hi hnot hstuck
        have hjready : ready s j := by
          by_contra hstuckj
          exact hfree (mem_stuck.2 ⟨hpicks.subset hj, hstuckj⟩)
        have hleft := h.serves s _ j hpicks hj hjready
        -- the ready member that was picked is gone, and nobody has become ready or stuck
        have hwaiting : (waiting backlog ready (next s (choices 0))).length <
            (waiting backlog ready s).length := by
          have hsub : j :: waiting backlog ready (next s (choices 0)) ⊆ waiting backlog ready s := by
            intro k hk
            rcases List.mem_cons.1 hk with rfl | hk
            · exact mem_waiting.2 ⟨hpicks.subset hj, hjready⟩
            · obtain ⟨hkb, hkr⟩ := mem_waiting.1 hk
              have hold := h.old s _ k hpicks hkb
              refine mem_waiting.2 ⟨hold, ?_⟩
              by_contra hstuckk
              exact (h.stuck s _ k hpicks hold hstuckk).2 hkr
          have hnodup : (j :: waiting backlog ready (next s (choices 0))).Nodup :=
            List.nodup_cons.2 ⟨fun hmem => hleft (mem_waiting.1 hmem).1,
              (h.nodup _).sublist List.filter_sublist⟩
          exact (hnodup.subperm hsub).length_le
        have hstuck' : (stuckOf backlog ready (next s (choices 0))).length < limit := by
          have hsub : stuckOf backlog ready (next s (choices 0)) ⊆ stuckOf backlog ready s := by
            intro k hk
            obtain ⟨hkb, hks⟩ := mem_stuck.1 hk
            exact mem_stuck.2 ⟨h.old s _ k hpicks hkb, fun hkr => hks (h.waits s _ k hpicks hkb hkr)⟩
          have hnodup : (stuckOf backlog ready (next s (choices 0))).Nodup :=
            (h.nodup _).sublist List.filter_sublist
          exact Nat.lt_of_le_of_lt (hnodup.subperm hsub).length_le hstuck
        obtain ⟨n, hn⟩ := ih (h.waits s _ i hpicks hnext hready) hstuck' hchoices.tail (by omega)
        exact ⟨n + 1, hn⟩
      · exact ⟨1, hnext⟩
    · exact ⟨0, hi⟩

/-- If the limit is not above the number of the stuck, they may be picked for ever. -/
theorem Serving.starved (h : Serving backlog ready next limit)
    (hstuck : limit ≤ (stuckOf backlog ready s).length) :
    ∃ choices, Chosen backlog next limit s choices ∧
      ∀ n, choices n ⊆ stuckOf backlog ready s := by
  have hnodup : (stuckOf backlog ready s).Nodup := (h.nodup s).sublist List.filter_sublist
  refine ⟨fun _ => (stuckOf backlog ready s).take limit, ?_, fun _ => List.take_subset _ _⟩
  have hpicks (s' : σ) (hstill : ∀ j ∈ stuckOf backlog ready s, j ∈ backlog s') :
      Picks limit (backlog s') ((stuckOf backlog ready s).take limit) := by
    refine ⟨hnodup.sublist (List.take_sublist _ _),
      fun j hj => hstill j (List.take_subset _ _ hj), ?_⟩
    have hle := (hnodup.subperm hstill).length_le
    rw [List.length_take]
    omega
  have hstill (n : Nat) : ∀ j ∈ stuckOf backlog ready s,
      j ∈ backlog (rounds next s (fun _ => (stuckOf backlog ready s).take limit) n) ∧
        ¬ready (rounds next s (fun _ => (stuckOf backlog ready s).take limit) n) j := by
    induction n with
    | zero => exact fun j hj => mem_stuck.1 hj
    | succ n ih =>
      intro j hj
      rw [rounds_succ]
      exact h.stuck _ _ j (hpicks _ fun k hk => (ih k hk).1) (ih j hj).1 (ih j hj).2
  exact fun n => hpicks _ fun j hj => (hstill n j hj).1

/-- There are always batches to pick. -/
theorem Serving.exists_chosen (h : Serving backlog ready next limit) (s : σ) :
    ∃ choices, Chosen backlog next limit s choices := by
  let pick (s : σ) : List ι := (backlog s).take limit
  let states (n : Nat) : σ := (fun s => next s (pick s))^[n] s
  have hstates (n : Nat) : rounds next s (fun k => pick (states k)) n = states n := by
    induction n with
    | zero => rfl
    | succ n ih =>
      rw [rounds_succ, ih]
      exact (Function.iterate_succ_apply' (fun s => next s (pick s)) n s).symm
  refine ⟨fun k => pick (states k), fun n => ?_⟩
  rw [hstates]
  exact picks_take limit (h.nodup _)

end Batches
