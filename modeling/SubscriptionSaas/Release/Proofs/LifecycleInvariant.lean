import SubscriptionSaas.Lib.Runs
import SubscriptionSaas.Release.DatabaseLifecycle

/-!
# What calls on the same databases know

Where calls with the same names come one after the other, each role and each database belongs to the
call that created it, and a running call knows which of them are there. `LifecycleWorld.Sound` is this
invariant. A step of one call leaves alone what has other names, so that `Sound.advance` asks for the
call's own roles and database only.
-/

namespace SubscriptionSaas.Release

open Cluster Results Runs Tables

/-! ## Names -/

/-- The roles that share a suffix with the migration role `key`. -/
def InGroup (key name : String) : Prop :=
  ∃ suffix, key = "s1m_" ++ suffix ∧
    (name = "s1m_" ++ suffix ∨ name = "s1r_" ++ suffix ∨ name = "s1x_" ++ suffix)

/-- A role is in one group only. -/
theorem InGroup.eq {key key' name : String} (h : InGroup key name) (h' : InGroup key' name) :
    key = key' := by
  obtain ⟨a, rfl, ha⟩ := h
  obtain ⟨b, rfl, hb⟩ := h'
  -- two different prefixes never begin the same name
  rcases ha with rfl | rfl | rfl <;> rcases hb with hb | hb | hb <;>
    simp [← String.toList_inj] at hb ⊢ <;> exact hb

def Work.roles : Work → RoleNames
  | .provision plan _ _ => plan.roles
  | .cleanup record _ => record.roles

def Work.databaseName : Work → String
  | .provision plan _ _ => plan.databaseName
  | .cleanup record _ => record.databaseName

/-- The migration role, which tells calls with different names apart. -/
def Work.key (work : Work) : String := work.roles.migrate

/-- What a call is about, which its steps do not change. -/
def Work.task : Work → ProvisionPlan ⊕ DatabaseRecord
  | .provision plan _ _ => .inl plan
  | .cleanup record _ => .inr record

variable {P : LifecyclePlatform}

/-- The names of a call are those of its database. -/
def Work.Named (P : LifecyclePlatform) (work : Work) : Prop :=
  ∃ enableRestore, work.roles = roleNames P work.databaseName enableRestore

theorem Work.roles_eq {work work' : Work} (h : work'.task = work.task) : work'.roles = work.roles := by
  cases work <;> cases work' <;> cases h <;> rfl

theorem Work.key_eq {work work' : Work} (h : work'.task = work.task) : work'.key = work.key :=
  congrArg RoleNames.migrate (roles_eq h)

theorem Work.Named.congr {work work' : Work} (hnamed : work.Named P) (h : work'.task = work.task) :
    work'.Named P := by
  cases work <;> cases work' <;> cases h <;> exact hnamed

theorem Work.Named.key_eq {work : Work} (h : work.Named P) :
    work.key = "s1m_" ++ roleSuffix P work.databaseName := by
  obtain ⟨b, h⟩ := h
  exact congrArg RoleNames.migrate h

theorem Work.Named.inGroup {work : Work} (h : work.Named P) {name : String}
    (hname : name ∈ work.roles.all) : InGroup work.key name := by
  refine ⟨roleSuffix P work.databaseName, h.key_eq, ?_⟩
  obtain ⟨b, h⟩ := h
  rw [h] at hname
  cases b with
  | false =>
    rcases List.mem_cons.1 hname with rfl | hname
    · exact .inl rfl
    · exact .inr (.inl (List.mem_singleton.1 hname))
  | true =>
    rcases List.mem_cons.1 hname with rfl | hname
    · exact .inl rfl
    · rcases List.mem_cons.1 hname with rfl | hname
      · exact .inr (.inl rfl)
      · exact .inr (.inr (List.mem_singleton.1 hname))

theorem migrate_mem_all (roles : RoleNames) : roles.migrate ∈ roles.all := List.mem_cons_self

theorem mem_dropped {roles : RoleNames} {name : String} : name ∈ roles.dropped ↔ name ∈ roles.all := by
  unfold RoleNames.dropped RoleNames.all
  simp only [List.mem_append, List.mem_cons, List.not_mem_nil, or_false]
  tauto

/-! ## Roles and databases -/

/-- The call has created the roles of the names, and they are there. -/
def Owns (s : State) (call : Nat) (roles : RoleNames) : Prop :=
  ∀ name ∈ roles.all, ⟨name, call⟩ ∈ s.roles

/-- No database belongs to the migration role. -/
def NoDatabase (s : State) (key : String) : Prop := ∀ d ∈ s.databases, d.owner ≠ key

/-- None of the roles is there, or the migration role owns a database, so that it cannot be dropped. -/
def Settled (s : State) (roles : RoleNames) : Prop :=
  (∀ name ∈ roles.all, s.hasRole name = false) ∨ ∃ d ∈ s.databases, d.owner = roles.migrate

/-- The database of the record is there. -/
def Matches (s : State) (record : DatabaseRecord) : Prop :=
  ∃ d ∈ s.databases, d.name = record.databaseName ∧ d.oid = record.databaseOid ∧
    d.comment = record.marker

/-- The steps of a provisioning between the creation of its database and the end of its rollback. -/
def ProvisionStep.withDatabase : ProvisionStep → Bool
  | .describe | .ownSchema | .identify | .rollbackTerminate | .rollbackDatabase => true
  | _ => false

/-- A role that the call has created can be there. -/
def LifecycleCall.Holds (c : LifecycleCall) (name : String) : Prop :=
  match c.work with
  | .provision plan step _ =>
    name ∈ plan.roles.all ∧ step ≠ .createRoles ∧ ∀ error, c.status ≠ .failed error
  | .cleanup _ _ => False

/-- A database that the call has created can be there. -/
def LifecycleCall.HoldsDatabase (c : LifecycleCall) (d : Database) : Prop :=
  match c.work with
  | .provision plan step _ =>
    d.owner = plan.roles.migrate ∧ d.name = plan.databaseName ∧ step.withDatabase ∧
      ∀ error, c.status ≠ .failed error
  | .cleanup _ _ => False

/-- The call has returned the record. -/
def Returned (calls : List LifecycleCall) (p : Nat) (record : DatabaseRecord) : Prop :=
  ∃ c, calls[p]? = some c ∧ c.status = .returned record

/-- What a running call knows before its next statement. -/
def Ready (calls : List LifecycleCall) (s : State) (i : Nat) : Work → Prop
  | .provision plan .createRoles _ => Settled s plan.roles
  | .provision plan .createDatabase _ => Owns s i plan.roles ∧ NoDatabase s plan.roles.migrate
  | .provision plan .rollbackRoles _ =>
    ((∀ r ∈ s.roles, r.creator ≠ i) ∧ Settled s plan.roles) ∨
      (Owns s i plan.roles ∧ NoDatabase s plan.roles.migrate)
  | .provision _ _ _ => ∃ d ∈ s.databases, d.creator = i
  | .cleanup _ .identify => True
  | .cleanup record .terminate => Matches s record
  | .cleanup record .dropDatabase => Matches s record
  | .cleanup record .dropRoles =>
    NoDatabase s record.roles.migrate ∧ ∀ p < i, Returned calls p record → Owns s p record.roles

def Drop.call : Drop → Nat
  | .role call _ | .database call _ => call

def Drop.creator : Drop → Nat
  | .role _ r => r.creator
  | .database _ d => d.creator

/-- The role or database is one of the record's. -/
def Drop.Of (record : DatabaseRecord) : Drop → Prop
  | .role _ r => r.name ∈ record.roles.all
  | .database _ d => d.oid = record.databaseOid ∧ d.comment = record.marker

/-- A provisioning drops what it has created itself, a cleanup what is its record's and, if the record
was returned by a call before, what that call created. -/
def DropSound (calls : List LifecycleCall) (drop : Drop) : Prop :=
  ∃ c, calls[drop.call]? = some c ∧
    (∀ plan step cause, c.work = .provision plan step cause → drop.creator = drop.call) ∧
    ∀ record step, c.work = .cleanup record step → drop.Of record ∧
      ∀ p < drop.call, Returned calls p record → drop.creator = p

/-- The names of the databases, and who depends on which roles. -/
structure ClusterSound (P : LifecyclePlatform) (s : State) : Prop where
  owner : ∀ d ∈ s.databases, d.owner = "s1m_" ++ roleSuffix P d.name
  group : ∀ d ∈ s.databases, ∀ name,
    d.owner = name ∨ name ∈ d.connect ∨ d.schemaOwner = some name → InGroup d.owner name
  single : ∀ d ∈ s.databases, ∀ d' ∈ s.databases, d.owner = d'.owner → d = d'
  oid : ∀ d ∈ s.databases, d.oid < s.nextOid
  oids : ∀ d ∈ s.databases, ∀ d' ∈ s.databases, d.oid = d'.oid → d = d'
  roles : ∀ r ∈ s.roles, ∀ r' ∈ s.roles, r.name = r'.name → r = r'

/-- A cleanup that has ended after its identity check and before it was complete: if it was called with
a returned record, all of it can be done again. -/
structure InterruptedSound (calls : List LifecycleCall) (s : State) (i : Nat)
    (record : DatabaseRecord) (step : CleanupStep) : Prop where
  before : (∃ p < i, Returned calls p record) → step ≠ .dropRoles
  there : step ≠ .dropRoles →
    (∀ (j : Nat) c, i < j → calls[j]? = some c → c.work.key ≠ record.roles.migrate) → Matches s record

structure LifecycleWorld.Sound (P : LifecyclePlatform) (w : LifecycleWorld) : Prop where
  cluster : ClusterSound P w.cluster
  named : ∀ (i : Nat) c, w.calls[i]? = some c → c.work.Named P
  last : ∀ (i j : Nat) c c', i < j → w.calls[i]? = some c → w.calls[j]? = some c' →
    c.work.key = c'.work.key → c.status ≠ .running
  roles : ∀ r ∈ w.cluster.roles, ∃ c, w.calls[r.creator]? = some c ∧ c.Holds r.name
  databases : ∀ d ∈ w.cluster.databases, ∃ c, w.calls[d.creator]? = some c ∧ c.HoldsDatabase d ∧
    Owns w.cluster d.creator c.work.roles
  ready : ∀ (i : Nat) c, w.calls[i]? = some c → c.status = .running →
    Ready w.calls w.cluster i c.work
  returned : ∀ (p : Nat) c record, w.calls[p]? = some c → c.status = .returned record →
    (∃ plan step cause oid, c.work = .provision plan step cause ∧ record = plan.record oid) ∧
      record.databaseOid < w.cluster.nextOid ∧
      ∀ d ∈ w.cluster.databases, d.oid = record.databaseOid → d.creator = p
  dropped : ∀ drop ∈ w.dropped, DropSound w.calls drop
  interrupted : ∀ (i : Nat) c record step, w.calls[i]? = some c → c.work = .cleanup record step →
    c.status ≠ .running → c.status ≠ .cleaned → step ≠ .identify →
    InterruptedSound w.calls w.cluster i record step

/-! ## What other names leave alone -/

/-- The two clusters differ in the group of one migration role only. -/
structure Elsewhere (key : String) (s s' : State) : Prop where
  roles : ∀ r, ¬InGroup key r.name → (r ∈ s'.roles ↔ r ∈ s.roles)
  databases : ∀ d, d.owner ≠ key → (d ∈ s'.databases ↔ d ∈ s.databases)

section Frame

variable {key : String} {s s' : State} {i : Nat} {work : Work}

theorem Elsewhere.refl : Elsewhere key s s := ⟨fun _ _ => Iff.rfl, fun _ _ => Iff.rfl⟩

theorem Elsewhere.owns (h : Elsewhere key s s') (hnamed : work.Named P) (hkey : work.key ≠ key)
    (howns : Owns s i work.roles) : Owns s' i work.roles := by
  intro name hname
  refine (h.roles _ ?_).2 (howns name hname)
  intro hgroup
  exact hkey ((hnamed.inGroup hname).eq hgroup)

theorem Elsewhere.noDatabase (h : Elsewhere key s s') (hkey : work.key ≠ key)
    (hno : NoDatabase s work.key) : NoDatabase s' work.key := by
  intro d hd howner
  exact hno d ((h.databases d (by rw [howner]; exact hkey)).1 hd) howner

theorem Elsewhere.settled (h : Elsewhere key s s') (hnamed : work.Named P) (hkey : work.key ≠ key)
    (hsettled : Settled s work.roles) : Settled s' work.roles := by
  rcases hsettled with hnone | ⟨d, hd, howner⟩
  · left
    intro name hname
    rw [Bool.eq_false_iff, Ne, hasRole_iff]
    rintro ⟨r, hr, rfl⟩
    have hgroup : ¬InGroup key r.name := fun hgroup => hkey ((hnamed.inGroup hname).eq hgroup)
    have := hnone r.name hname
    rw [Bool.eq_false_iff, Ne, hasRole_iff] at this
    exact this ⟨r, (h.roles r hgroup).1 hr, rfl⟩
  · exact .inr ⟨d, (h.databases d (by rw [howner]; exact hkey)).2 hd, howner⟩

theorem Elsewhere.matches {record : DatabaseRecord} {step : CleanupStep} (h : Elsewhere key s s')
    (hcluster : ClusterSound P s) (hnamed : (Work.cleanup record step).Named P)
    (hkey : record.roles.migrate ≠ key) (hmatches : Matches s record) : Matches s' record := by
  obtain ⟨d, hd, hname, hoid, hcomment⟩ := hmatches
  refine ⟨d, (h.databases d ?_).2 hd, hname, hoid, hcomment⟩
  rw [hcluster.owner d hd, hname]
  exact fun heq => hkey (hnamed.key_eq.trans heq)

/-- A call with other names goes on knowing what it knows. -/
theorem Ready.frame {calls calls' : List LifecycleCall} (hready : Ready calls s i work)
    (h : Elsewhere key s s') (hcluster : ClusterSound P s) (hnamed : work.Named P)
    (hkey : work.key ≠ key) (hown : ∀ d ∈ s.databases, d.creator = i → d.owner = work.key)
    (hnew : ∀ r ∈ s'.roles, r.creator = i → r ∈ s.roles)
    (hreturned : ∀ p record, record.roles = work.roles → Returned calls' p record →
      Returned calls p record) : Ready calls' s' i work := by
  have hdatabase : (∃ d ∈ s.databases, d.creator = i) → ∃ d ∈ s'.databases, d.creator = i := by
    rintro ⟨d, hd, hcreator⟩
    exact ⟨d, (h.databases d (by rw [hown d hd hcreator]; exact hkey)).2 hd, hcreator⟩
  cases work with
  | provision plan step cause =>
    cases step with
    | createRoles => exact h.settled hnamed hkey hready
    | createDatabase => exact ⟨h.owns hnamed hkey hready.1, h.noDatabase hkey hready.2⟩
    | rollbackRoles =>
      rcases hready with ⟨hnone, hsettled⟩ | ⟨howns, hno⟩
      · refine .inl ⟨?_, h.settled hnamed hkey hsettled⟩
        intro r hr hcreator
        exact hnone r (hnew r hr hcreator) hcreator
      · exact .inr ⟨h.owns hnamed hkey howns, h.noDatabase hkey hno⟩
    | describe => exact hdatabase hready
    | ownSchema => exact hdatabase hready
    | identify => exact hdatabase hready
    | rollbackTerminate => exact hdatabase hready
    | rollbackDatabase => exact hdatabase hready
  | cleanup record step =>
    cases step with
    | identify => trivial
    | terminate => exact h.matches hcluster hnamed hkey hready
    | dropDatabase => exact h.matches hcluster hnamed hkey hready
    | dropRoles =>
      refine ⟨h.noDatabase hkey hready.1, ?_⟩
      intro p hp hp'
      exact h.owns hnamed hkey (hready.2 p hp (hreturned p record (rfl) hp'))

end Frame

/-! ## One call takes a step -/

theorem get_set {calls : List LifecycleCall} {i j : Nat} {c c' : LifecycleCall}
    (h : (calls.set i c)[j]? = some c') :
    (j = i ∧ c' = c) ∨ (j ≠ i ∧ calls[j]? = some c') := by
  by_cases hij : i = j
  · subst hij
    have hlt := get_lt h
    rw [List.length_set] at hlt
    rw [List.getElem?_set_self hlt] at h
    exact .inl ⟨rfl, (Option.some.inj h).symm⟩
  · rw [List.getElem?_set_ne hij] at h
    exact .inr ⟨Ne.symm hij, h⟩

theorem Ready.returned {calls calls' : List LifecycleCall} {s : State} {i : Nat} {work : Work}
    (h : Ready calls s i work)
    (hreturned : ∀ p < i, ∀ record, Returned calls' p record → Returned calls p record) :
    Ready calls' s i work := by
  cases work with
  | provision plan step cause => cases step <;> exact h
  | cleanup record step =>
    cases step with
    | dropRoles => exact ⟨h.1, fun p hp hp' => h.2 p hp (hreturned p hp record hp')⟩
    | _ => exact h

/-- What a step of the call makes of its own role: it is another call's, or its own to hold. -/
def OwnRole (w : LifecycleWorld) (i : Nat) (c' : LifecycleCall) (r : Role) : Prop :=
  (r ∈ w.cluster.roles ∧ r.creator ≠ i) ∨ (r.creator = i ∧ c'.Holds r.name)

/-- What a step of the call makes of the database with its names: it is another call's, and no role is
dropped, or it is its own, with all of its roles. -/
def OwnDatabase (w : LifecycleWorld) (i : Nat) (c' : LifecycleCall) (s' : State) (d : Database) :
    Prop :=
  (d ∈ w.cluster.databases ∧ d.creator ≠ i ∧ ∀ r ∈ w.cluster.roles, r ∈ s'.roles) ∨
    (d.creator = i ∧ c'.HoldsDatabase d ∧ Owns s' i c'.work.roles)

/-- What has to be known of a call's step for the invariant to go on. -/
structure Advance (P : LifecyclePlatform) (w : LifecycleWorld) (i : Nat) (c c' : LifecycleCall)
    (s' : State) (more : List Drop) : Prop where
  task : c'.work.task = c.work.task
  cluster : ClusterSound P s'
  elsewhere : Elsewhere c.work.key w.cluster s'
  nextOid : w.cluster.nextOid ≤ s'.nextOid
  oids : ∀ d ∈ s'.databases, w.cluster.nextOid ≤ d.oid ∨
    ∃ d₀ ∈ w.cluster.databases, d₀.oid = d.oid ∧ d₀.creator = d.creator
  roles : ∀ r ∈ s'.roles, InGroup c.work.key r.name → OwnRole w i c' r
  databases : ∀ d ∈ s'.databases, d.owner = c.work.key → OwnDatabase w i c' s' d
  ready : c'.status = .running → Ready w.calls s' i c'.work
  returned : ∀ record, c'.status = .returned record →
    (∃ plan step cause oid, c'.work = .provision plan step cause ∧ record = plan.record oid) ∧
      record.databaseOid < s'.nextOid ∧
      ∀ d ∈ s'.databases, d.oid = record.databaseOid → d.creator = i
  interrupted : ∀ record step, c'.work = .cleanup record step → c'.status ≠ .running →
    c'.status ≠ .cleaned → step ≠ .identify →
    ((∃ p < i, Returned w.calls p record) → step ≠ .dropRoles) ∧ (step ≠ .dropRoles → Matches s' record)
  more : ∀ drop ∈ more, DropSound w.calls drop

section Advances

variable {w : LifecycleWorld} {i : Nat} {c c' : LifecycleCall} {s' : State} {more : List Drop}

theorem Returned.roles (h : w.Sound P) {p : Nat} {record : DatabaseRecord} {c : LifecycleCall}
    (hc : w.calls[p]? = some c) (hreturned : c.status = .returned record) :
    record.roles = c.work.roles := by
  obtain ⟨⟨plan, step, cause, oid, hwork, rfl⟩, -, -⟩ := h.returned p c record hc hreturned
  rw [hwork]
  rfl

/-- A call that begins later than a running one has other names. -/
theorem LifecycleWorld.Sound.later (h : w.Sound P) (hi : w.calls[i]? = some c)
    (hrunning : c.status = .running) {j : Nat} {d : LifecycleCall} (hij : i < j)
    (hj : w.calls[j]? = some d) : d.work.key ≠ c.work.key :=
  fun heq => h.last i j c d hij hi hj heq.symm hrunning

/-- What another call has returned has been returned before, if it has the names of a call that
begins later, or of one with other names. -/
theorem Advance.returned_before (ha : Advance P w i c c' s' more) {p : Nat} {record : DatabaseRecord}
    (hne : p = i → record.roles.migrate ≠ c.work.key)
    (h : Returned (w.calls.set i c') p record) : Returned w.calls p record := by
  obtain ⟨d, hd, hreturned⟩ := h
  rcases get_set hd with ⟨rfl, rfl⟩ | ⟨-, hd⟩
  · obtain ⟨⟨plan, step, cause, oid, hwork, rfl⟩, -, -⟩ := ha.returned record hreturned
    refine absurd ?_ (hne rfl)
    rw [← Work.key_eq ha.task, hwork]
    rfl
  · exact ⟨d, hd, hreturned⟩

theorem Work.provision_of_task {work : Work} {plan : ProvisionPlan} (h : work.task = .inl plan) :
    ∃ step cause, work = .provision plan step cause := by
  rcases work with ⟨plan', step, cause⟩ | ⟨record, step⟩
  · cases h
    exact ⟨step, cause, rfl⟩
  · cases h

theorem Work.cleanup_of_task {work : Work} {record : DatabaseRecord} (h : work.task = .inr record) :
    ∃ step, work = .cleanup record step := by
  rcases work with ⟨plan', step, cause⟩ | ⟨record', step⟩
  · cases h
  · cases h
    exact ⟨step, rfl⟩

theorem Advance.dropSound (ha : Advance P w i c c' s' more) (h : w.Sound P)
    (hi : w.calls[i]? = some c) (hrunning : c.status = .running) {drop : Drop}
    (hdrop : DropSound w.calls drop) : DropSound (w.calls.set i c') drop := by
  obtain ⟨d, hd, hprovision, hcleanup⟩ := hdrop
  obtain ⟨d', hd', htask⟩ :
      ∃ d', (w.calls.set i c')[drop.call]? = some d' ∧ d'.work.task = d.work.task := by
    by_cases hij : i = drop.call
    · obtain rfl : d = c := Option.some.inj (hd.symm.trans (hij ▸ hi))
      rw [← hij]
      exact ⟨c', List.getElem?_set_self (get_lt hi), ha.task⟩
    · exact ⟨d, by rw [List.getElem?_set_ne hij]; exact hd, rfl⟩
  refine ⟨d', hd', ?_, ?_⟩
  · intro plan step cause hwork
    rw [hwork] at htask
    obtain ⟨step', cause', hwork'⟩ := Work.provision_of_task htask.symm
    exact hprovision plan step' cause' hwork'
  · intro record step hwork
    rw [hwork] at htask
    obtain ⟨step', hwork'⟩ := Work.cleanup_of_task htask.symm
    obtain ⟨hof, hcreator⟩ := hcleanup record step' hwork'
    refine ⟨hof, fun p hp hreturned => hcreator p hp (ha.returned_before ?_ hreturned)⟩
    -- a record that is returned now cannot be that of a cleanup which began after its call
    rintro rfl
    have hlater := h.later hi hrunning hp hd
    rw [hwork'] at hlater
    exact hlater

theorem holdsDatabase_key {c : LifecycleCall} {d : Database} (h : c.HoldsDatabase d) :
    c.work.key = d.owner := by
  unfold LifecycleCall.HoldsDatabase at h
  rcases hwork : c.work with ⟨plan, step, cause⟩ | ⟨record, step⟩
  · rw [hwork] at h
    exact h.1.symm
  · rw [hwork] at h
    cases h

/-- A step that is known to be sound goes on with the invariant. -/
theorem LifecycleWorld.Sound.advance (h : w.Sound P) (hi : w.calls[i]? = some c)
    (hrunning : c.status = .running) (ha : Advance P w i c c' s' more) :
    LifecycleWorld.Sound P ⟨s', w.calls.set i c', w.dropped ++ more⟩ := by
  have hkey : c'.work.key = c.work.key := Work.key_eq ha.task
  have hself : (w.calls.set i c')[i]? = some c' := List.getElem?_set_self (get_lt hi)
  have hother : ∀ {j : Nat} {d : LifecycleCall}, j ≠ i → w.calls[j]? = some d →
      (w.calls.set i c')[j]? = some d := by
    intro j d hij hd
    rw [List.getElem?_set_ne (Ne.symm hij)]
    exact hd
  -- the roles of the group are the call's own, the others are as they were
  have hroles : ∀ r ∈ s'.roles, OwnRole w i c' r := by
    intro r hr
    by_cases hgroup : InGroup c.work.key r.name
    · exact ha.roles r hr hgroup
    · have hr := (ha.elsewhere.roles r hgroup).1 hr
      refine .inl ⟨hr, ?_⟩
      intro hcreator
      obtain ⟨d, hd, hholds⟩ := h.roles r hr
      rw [hcreator] at hd
      obtain rfl : d = c := Option.some.inj (hd.symm.trans hi)
      refine hgroup ?_
      rcases hwork : d.work with ⟨plan, step, cause⟩ | ⟨record, step⟩
      · have hname : r.name ∈ d.work.roles.all := by
          unfold LifecycleCall.Holds at hholds
          rw [hwork] at hholds ⊢
          exact hholds.1
        rw [← hwork]
        exact (h.named i d hi).inGroup hname
      · unfold LifecycleCall.Holds at hholds
        rw [hwork] at hholds
        cases hholds
  refine ⟨ha.cluster, ?_, ?_, ?_, ?_, ?_, ?_, ?_, ?_⟩
  · intro j d hd
    rcases get_set hd with ⟨rfl, rfl⟩ | ⟨-, hd⟩
    · exact (h.named j c hi).congr ha.task
    · exact h.named j d hd
  · intro j k d e hjk hd he heq
    rcases get_set hd with ⟨rfl, rfl⟩ | ⟨hj, hd'⟩
    · rcases get_set he with ⟨rfl, -⟩ | ⟨-, he'⟩
      · exact absurd hjk (Nat.lt_irrefl k)
      · exact absurd (hkey.symm.trans heq).symm (h.later hi hrunning hjk he')
    · rcases get_set he with ⟨rfl, rfl⟩ | ⟨-, he'⟩
      · exact h.last j k d c hjk hd' hi (heq.trans hkey)
      · exact h.last j k d e hjk hd' he' heq
  · intro r hr
    rcases hroles r hr with ⟨hr, hne⟩ | ⟨rfl, hholds⟩
    · obtain ⟨d, hd, hholds⟩ := h.roles r hr
      exact ⟨d, hother hne hd, hholds⟩
    · exact ⟨c', hself, hholds⟩
  · intro d hd
    by_cases howner : d.owner = c.work.key
    · rcases ha.databases d hd howner with ⟨hd, hne, hkept⟩ | ⟨rfl, hholds, howns⟩
      · obtain ⟨e, he, hholds, howns⟩ := h.databases d hd
        exact ⟨e, hother hne he, hholds, fun name hname => hkept _ (howns name hname)⟩
      · exact ⟨c', hself, hholds, howns⟩
    · have hd := (ha.elsewhere.databases d howner).1 hd
      obtain ⟨e, he, hholds, howns⟩ := h.databases d hd
      have hkeys : e.work.key = d.owner := holdsDatabase_key hholds
      have hne : d.creator ≠ i := by
        intro hcreator
        rw [hcreator] at he
        obtain rfl : e = c := Option.some.inj (he.symm.trans hi)
        exact howner hkeys.symm
      refine ⟨e, hother hne he, hholds, ?_⟩
      exact ha.elsewhere.owns (h.named _ e he) (by rw [hkeys]; exact howner) howns
  · intro j d hd hd'
    rcases get_set hd with ⟨rfl, rfl⟩ | ⟨hj, hd⟩
    · refine (ha.ready hd').returned fun p hp record hreturned => ha.returned_before ?_ hreturned
      exact fun heq => absurd hp (heq ▸ Nat.lt_irrefl _)
    · have hne : d.work.key ≠ c.work.key := by
        intro heq
        rcases Nat.lt_or_gt_of_ne hj with hlt | hlt
        · exact h.last j i d c hlt hd hi heq hd'
        · exact h.later hi hrunning hlt hd heq
      refine (h.ready j d hd hd').frame ha.elsewhere h.cluster (h.named j d hd) hne ?_ ?_ ?_
      · intro e he hcreator
        obtain ⟨f, hf, hholds, -⟩ := h.databases e he
        rw [hcreator] at hf
        obtain rfl : f = d := Option.some.inj (hf.symm.trans hd)
        exact (holdsDatabase_key hholds).symm
      · intro r hr hcreator
        rcases hroles r hr with ⟨hr, -⟩ | ⟨heq, -⟩
        · exact hr
        · exact absurd (hcreator.symm.trans heq) hj
      · intro p record hrecord hreturned
        refine ha.returned_before (fun _ => ?_) hreturned
        rw [hrecord]
        exact hne
  · intro p d record hd hreturned
    rcases get_set hd with ⟨rfl, rfl⟩ | ⟨hp, hd⟩
    · exact ha.returned record hreturned
    · obtain ⟨hof, hoid, hcreator⟩ := h.returned p d record hd hreturned
      refine ⟨hof, Nat.lt_of_lt_of_le hoid ha.nextOid, ?_⟩
      intro e he heq
      rcases ha.oids e he with hnew | ⟨e₀, he₀, heq₀, hcreator₀⟩
      · exact absurd hnew (by rw [heq]; exact Nat.not_le_of_lt hoid)
      · rw [← hcreator₀]
        exact hcreator e₀ he₀ (heq₀.trans heq)
  · intro drop hdrop
    rcases List.mem_append.1 hdrop with hdrop | hdrop
    · exact ha.dropSound h hi hrunning (h.dropped drop hdrop)
    · exact ha.dropSound h hi hrunning (ha.more drop hdrop)
  · intro j d record step hd hwork hstopped hcleaned hstep
    rcases get_set hd with ⟨rfl, rfl⟩ | ⟨hj, hj'⟩
    · obtain ⟨hbefore, hthere⟩ := ha.interrupted record step hwork hstopped hcleaned hstep
      refine ⟨?_, fun hroles _ => hthere hroles⟩
      rintro ⟨p, hp, hreturned⟩
      exact hbefore ⟨p, hp, ha.returned_before (fun heq => absurd hp (heq ▸ Nat.lt_irrefl _)) hreturned⟩
    · have hsound := h.interrupted j d record step hj' hwork hstopped hcleaned hstep
      refine ⟨?_, ?_⟩
      · rintro ⟨p, hp, hreturned⟩
        refine hsound.before ⟨p, hp, ha.returned_before ?_ hreturned⟩
        rintro rfl
        have hlater := h.later hi hrunning hp hj'
        rw [hwork] at hlater
        exact hlater
      · intro hroles hnone
        -- the call that takes the step is none of those that began later with the same names
        have hne : record.roles.migrate ≠ c.work.key := by
          intro heq
          rcases Nat.lt_or_gt_of_ne hj with hlt | hlt
          · exact hnone i c' hlt hself (hkey.trans heq.symm)
          · refine h.later hi hrunning hlt hj' ?_
            rw [hwork]
            exact heq
        refine ha.elsewhere.matches h.cluster (hwork ▸ h.named j d hj') hne ?_
        refine hsound.there hroles fun k e hk he => ?_
        by_cases hki : k = i
        · subst hki
          obtain rfl : e = c := Option.some.inj (he.symm.trans hi)
          exact fun heq => hne heq.symm
        · exact hnone k e hk (hother hki he)

end Advances

end SubscriptionSaas.Release
