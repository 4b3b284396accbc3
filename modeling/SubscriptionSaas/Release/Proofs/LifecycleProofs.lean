import SubscriptionSaas.Release.Proofs.LifecycleInvariant

/-!
# Databases of test suites are made and dropped exactly

A provisioning that finds its roles there rolls them back as if it had made them, and a cleanup looks
at the identity once. Where calls with the same names do not overlap, no roles without a database are
met, and the last statements of a rollback or cleanup are not lost, a failed provisioning leaves nothing
and each call drops what is its own; otherwise they do not.
-/

namespace SubscriptionSaas.Release

open Cluster Results Runs Tables

variable {P : LifecyclePlatform} {w : LifecycleWorld} {i : Nat} {c c' : LifecycleCall}

/-! ## Steps that leave the cluster as it is -/

/-- Nothing is dropped where everything is still there. -/
theorem drops_none (i : Nat) {s s' : State} (hroles : ∀ r ∈ s.roles, r ∈ s'.roles)
    (hdatabases : ∀ d ∈ s.databases, ∃ d' ∈ s'.databases, d'.oid = d.oid) : drops i s s' = [] := by
  unfold drops
  rw [List.append_eq_nil_iff, List.map_eq_nil_iff, List.map_eq_nil_iff, List.filter_eq_nil_iff,
    List.filter_eq_nil_iff]
  constructor
  · intro r hr
    simpa using hroles r hr
  · intro d hd
    simpa using hdatabases d hd

theorem drops_self (i : Nat) (s : State) : drops i s s = [] :=
  drops_none i (fun _ hr => hr) fun d hd => ⟨d, hd, rfl⟩

/-- What is dropped was there, and no longer is. -/
theorem mem_drops {i : Nat} {s s' : State} {drop : Drop} (h : drop ∈ drops i s s') :
    (∃ r ∈ s.roles, r ∉ s'.roles ∧ drop = .role i r) ∨
      ∃ d ∈ s.databases, d ∉ s'.databases ∧ drop = .database i d := by
  rcases List.mem_append.1 h with h | h
  · obtain ⟨r, hr, rfl⟩ := List.mem_map.1 h
    obtain ⟨hr, hgone⟩ := List.mem_filter.1 hr
    exact .inl ⟨r, hr, by simpa using hgone, rfl⟩
  · obtain ⟨d, hd, rfl⟩ := List.mem_map.1 h
    obtain ⟨hd, hgone⟩ := List.mem_filter.1 hd
    refine .inr ⟨d, hd, ?_, rfl⟩
    intro hmem
    rw [Bool.not_eq_true', Bool.eq_false_iff, Ne, List.any_eq_true] at hgone
    exact hgone ⟨d, hmem, beq_self_eq_true d.oid⟩

/-- A step without effect on the cluster. -/
theorem Advance.stay (h : w.Sound P) (hi : w.calls[i]? = some c) {s' : State} {more : List Drop}
    (hs : s' = w.cluster) (hmore : more = []) (htask : c'.work.task = c.work.task)
    (hroles : ∀ r ∈ w.cluster.roles, r.creator = i → c.Holds r.name → c'.Holds r.name)
    (hdatabases : ∀ d ∈ w.cluster.databases, d.creator = i → c.HoldsDatabase d → c'.HoldsDatabase d)
    (hready : c'.status = .running → Ready w.calls w.cluster i c'.work)
    (hreturned : ∀ record, c'.status = .returned record →
      (∃ plan step cause oid, c'.work = .provision plan step cause ∧ record = plan.record oid) ∧
        record.databaseOid < w.cluster.nextOid ∧
        ∀ d ∈ w.cluster.databases, d.oid = record.databaseOid → d.creator = i)
    (hinterrupted : ∀ record step, c'.work = .cleanup record step → c'.status ≠ .running →
      c'.status ≠ .cleaned → step ≠ .identify →
      ((∃ p < i, Returned w.calls p record) → step ≠ .dropRoles) ∧
        (step ≠ .dropRoles → Matches w.cluster record)) :
    Advance P w i c c' s' more := by
  subst hs hmore
  refine ⟨htask, h.cluster, Elsewhere.refl, Nat.le_refl _, fun d hd => .inr ⟨d, hd, rfl, rfl⟩, ?_, ?_,
    hready, hreturned, hinterrupted, fun drop hdrop => absurd hdrop List.not_mem_nil⟩
  · intro r hr _
    by_cases hcreator : r.creator = i
    · obtain ⟨d, hd, hholds⟩ := h.roles r hr
      rw [hcreator] at hd
      obtain rfl : d = c := Option.some.inj (hd.symm.trans hi)
      exact .inr ⟨hcreator, hroles r hr hcreator hholds⟩
    · exact .inl ⟨hr, hcreator⟩
  · intro d hd _
    by_cases hcreator : d.creator = i
    · obtain ⟨e, he, hholds, howns⟩ := h.databases d hd
      rw [hcreator] at he howns
      obtain rfl : e = c := Option.some.inj (he.symm.trans hi)
      refine .inr ⟨hcreator, hdatabases d hd hcreator hholds, ?_⟩
      rw [Work.roles_eq htask]
      exact howns
    · exact .inl ⟨hd, hcreator, fun r hr => hr⟩

/-- A provisioning takes a step without effect on the cluster. -/
theorem Advance.stayProvision (h : w.Sound P) {plan : ProvisionPlan} {step step' : ProvisionStep}
    {cause cause' : Option LifecycleError} {status : Status} {s' : State} {more : List Drop}
    (hi : w.calls[i]? = some c) (hwork : c.work = .provision plan step cause) (hs : s' = w.cluster)
    (hmore : more = [])
    (hroles : (∃ r ∈ w.cluster.roles, r.creator = i) → step ≠ .createRoles →
      step' ≠ .createRoles ∧ ∀ error, status ≠ .failed error)
    (hdatabases : step.withDatabase → step'.withDatabase ∧ ∀ error, status ≠ .failed error)
    (hready : status = .running → Ready w.calls w.cluster i (.provision plan step' cause'))
    (hreturned : ∀ record, status = .returned record →
      (∃ oid, record = plan.record oid) ∧ record.databaseOid < w.cluster.nextOid ∧
        ∀ d ∈ w.cluster.databases, d.oid = record.databaseOid → d.creator = i) :
    Advance P w i c ⟨.provision plan step' cause', status⟩ s' more := by
  refine Advance.stay h hi hs hmore (by rw [hwork]; rfl) ?_ ?_ hready ?_ ?_
  · intro r hr hcreator hholds
    unfold LifecycleCall.Holds at hholds
    rw [hwork] at hholds
    exact ⟨hholds.1, hroles ⟨r, hr, hcreator⟩ hholds.2.1⟩
  · intro d hd hcreator hholds
    unfold LifecycleCall.HoldsDatabase at hholds
    rw [hwork] at hholds
    exact ⟨hholds.1, hholds.2.1, hdatabases hholds.2.2.1⟩
  · intro record hstatus
    obtain ⟨⟨oid, hrecord⟩, hrest⟩ := hreturned record hstatus
    exact ⟨⟨plan, step', cause', oid, rfl, hrecord⟩, hrest⟩
  · intro record step hcleanup
    cases hcleanup

/-- A cleanup takes a step without effect on the cluster. -/
theorem Advance.stayCleanup (h : w.Sound P) {record : DatabaseRecord} {step step' : CleanupStep}
    {status : Status} {s' : State} {more : List Drop} (hi : w.calls[i]? = some c)
    (hwork : c.work = .cleanup record step) (hs : s' = w.cluster) (hmore : more = [])
    (hready : status = .running → Ready w.calls w.cluster i (.cleanup record step'))
    (hreturned : ∀ record', status ≠ .returned record')
    (hinterrupted : status ≠ .running → status ≠ .cleaned → step' ≠ .identify →
      ((∃ p < i, Returned w.calls p record) → step' ≠ .dropRoles) ∧
        (step' ≠ .dropRoles → Matches w.cluster record)) :
    Advance P w i c ⟨.cleanup record step', status⟩ s' more := by
  refine Advance.stay h hi hs hmore (by rw [hwork]; rfl) ?_ ?_ hready ?_ ?_
  · intro r hr hcreator hholds
    unfold LifecycleCall.Holds at hholds
    rw [hwork] at hholds
    cases hholds
  · intro d hd hcreator hholds
    unfold LifecycleCall.HoldsDatabase at hholds
    rw [hwork] at hholds
    cases hholds
  · intro record' hstatus
    exact absurd hstatus (hreturned record')
  · intro record' step'' hcleanup hrunning hcleaned hstep
    cases hcleanup
    exact hinterrupted hrunning hcleaned hstep

/-! ## Statements that change the cluster -/

section Statements

variable {s : State} {key name owner : String} {names : List String} {creator : Nat}

theorem mem_newRoles {r : Role} (h : r ∈ names.map fun name => (⟨name, creator⟩ : Role)) :
    r.name ∈ names ∧ r.creator = creator := by
  obtain ⟨name, hname, rfl⟩ := List.mem_map.1 h
  exact ⟨hname, rfl⟩

theorem ClusterSound.createRoles (h : ClusterSound P s) (hnames : ∀ n ∈ names, s.hasRole n = false) :
    ClusterSound P { s with roles := s.roles ++ names.map (⟨·, creator⟩) } := by
  have hnew : ∀ r ∈ s.roles, r.name ∉ names := by
    intro r hr hname
    have := hnames r.name hname
    rw [Bool.eq_false_iff, Ne, hasRole_iff] at this
    exact this ⟨r, hr, rfl⟩
  refine ⟨h.owner, h.group, h.single, h.oid, h.oids, ?_⟩
  intro r hr r' hr' heq
  rcases List.mem_append.1 hr with hr | hr <;> rcases List.mem_append.1 hr' with hr' | hr'
  · exact h.roles r hr r' hr' heq
  · exact absurd (heq ▸ (mem_newRoles hr').1) (hnew r hr)
  · exact absurd (heq ▸ (mem_newRoles hr).1) (hnew r' hr')
  · exact Role.ext heq ((mem_newRoles hr).2.trans (mem_newRoles hr').2.symm)

theorem Elsewhere.createRoles (hgroup : ∀ n ∈ names, InGroup key n) :
    Elsewhere key s { s with roles := s.roles ++ names.map (⟨·, creator⟩) } := by
  refine ⟨?_, fun _ _ => Iff.rfl⟩
  intro r hr
  rw [List.mem_append]
  refine ⟨fun h => ?_, .inl⟩
  rcases h with h | h
  · exact h
  · exact absurd (hgroup _ (mem_newRoles h).1) hr

theorem ClusterSound.createDatabase (h : ClusterSound P s)
    (howner : owner = "s1m_" ++ roleSuffix P name) (hno : NoDatabase s owner) :
    ClusterSound P { s with databases := s.databases ++ [s.newDatabase creator name owner]
                            nextOid := s.nextOid + 1 } := by
  refine ⟨?_, ?_, ?_, ?_, ?_, h.roles⟩
  · intro d hd
    rcases List.mem_append.1 hd with hd | hd
    · exact h.owner d hd
    · rw [List.mem_singleton.1 hd]
      exact howner
  · intro d hd n hn
    rcases List.mem_append.1 hd with hd | hd
    · exact h.group d hd n hn
    · rw [List.mem_singleton.1 hd] at hn ⊢
      rcases hn with rfl | hn | hn
      · exact ⟨roleSuffix P name, howner, .inl howner⟩
      · cases hn
      · cases hn
  · intro d hd d' hd' heq
    rcases List.mem_append.1 hd with hd | hd <;> rcases List.mem_append.1 hd' with hd' | hd'
    · exact h.single d hd d' hd' heq
    · rw [List.mem_singleton.1 hd'] at heq
      exact absurd heq (hno d hd)
    · rw [List.mem_singleton.1 hd] at heq
      exact absurd heq.symm (hno d' hd')
    · rw [List.mem_singleton.1 hd, List.mem_singleton.1 hd']
  · intro d hd
    rcases List.mem_append.1 hd with hd | hd
    · exact Nat.lt_succ_of_lt (h.oid d hd)
    · rw [List.mem_singleton.1 hd]
      exact Nat.lt_succ_self _
  · intro d hd d' hd' heq
    rcases List.mem_append.1 hd with hd | hd <;> rcases List.mem_append.1 hd' with hd' | hd'
    · exact h.oids d hd d' hd' heq
    · rw [List.mem_singleton.1 hd'] at heq
      exact absurd (h.oid d hd) (by rw [heq]; exact Nat.lt_irrefl _)
    · rw [List.mem_singleton.1 hd] at heq
      exact absurd (h.oid d' hd') (by rw [← heq]; exact Nat.lt_irrefl _)
    · rw [List.mem_singleton.1 hd, List.mem_singleton.1 hd']

theorem Elsewhere.createDatabase :
    Elsewhere owner s { s with databases := s.databases ++ [s.newDatabase creator name owner]
                               nextOid := s.nextOid + 1 } := by
  refine ⟨fun _ _ => Iff.rfl, ?_⟩
  intro d hd
  rw [List.mem_append]
  refine ⟨fun h => ?_, .inl⟩
  rcases h with h | h
  · exact h
  · rw [List.mem_singleton.1 h] at hd
    exact absurd rfl hd

theorem ClusterSound.sub {s' : State} (h : ClusterSound P s) (hroles : ∀ r ∈ s'.roles, r ∈ s.roles)
    (hdatabases : ∀ d ∈ s'.databases, d ∈ s.databases) (hoid : s'.nextOid = s.nextOid) :
    ClusterSound P s' := by
  refine ⟨fun d hd => h.owner d (hdatabases d hd), fun d hd => h.group d (hdatabases d hd),
    fun d hd d' hd' => h.single d (hdatabases d hd) d' (hdatabases d' hd'), ?_,
    fun d hd d' hd' => h.oids d (hdatabases d hd) d' (hdatabases d' hd'),
    fun r hr r' hr' => h.roles r (hroles r hr) r' (hroles r' hr')⟩
  intro d hd
  rw [hoid]
  exact h.oid d (hdatabases d hd)

theorem mem_dropDatabase {d : Database} :
    d ∈ s.databases.filter (·.name != name) ↔ d ∈ s.databases ∧ d.name ≠ name := by
  rw [List.mem_filter, bne_iff_ne]

theorem mem_dropRoles {r : Role} :
    r ∈ s.roles.filter (!names.contains ·.name) ↔ r ∈ s.roles ∧ r.name ∉ names := by
  rw [List.mem_filter, Bool.not_eq_true', List.contains_eq_mem, decide_eq_false_iff_not]

theorem Elsewhere.dropDatabase (h : ClusterSound P s) (hkey : key = "s1m_" ++ roleSuffix P name) :
    Elsewhere key s { s with databases := s.databases.filter (·.name != name) } := by
  refine ⟨fun _ _ => Iff.rfl, ?_⟩
  intro d hd
  rw [mem_dropDatabase]
  refine ⟨And.left, fun hmem => ⟨hmem, ?_⟩⟩
  rintro rfl
  exact hd ((h.owner d hmem).trans hkey.symm)

theorem Elsewhere.dropRoles (hgroup : ∀ n ∈ names, InGroup key n) :
    Elsewhere key s { s with roles := s.roles.filter (!names.contains ·.name) } := by
  refine ⟨?_, fun _ _ => Iff.rfl⟩
  intro r hr
  rw [mem_dropRoles]
  exact ⟨And.left, fun hmem => ⟨hmem, fun hname => hr (hgroup _ hname)⟩⟩

/-- An alteration that leaves a database its name, number, owner and creator. -/
structure Keeps (f : Database → Database) : Prop where
  name : ∀ d, (f d).name = d.name
  oid : ∀ d, (f d).oid = d.oid
  owner : ∀ d, (f d).owner = d.owner
  creator : ∀ d, (f d).creator = d.creator

variable {f : Database → Database}

theorem Keeps.mem (hf : Keeps f) {d : Database} (h : d ∈ (s.alter name f).databases) :
    ∃ d₀ ∈ s.databases, d₀.name = d.name ∧ d₀.oid = d.oid ∧ d₀.owner = d.owner ∧
      d₀.creator = d.creator ∧ (d = d₀ ∨ d = f d₀) ∧ (d.name ≠ name → d = d₀) := by
  obtain ⟨d₀, hd₀, rfl⟩ := mem_alter h
  by_cases hname : d₀.name = name
  · rw [if_pos hname]
    refine ⟨d₀, hd₀, (hf.name d₀).symm, (hf.oid d₀).symm, (hf.owner d₀).symm, (hf.creator d₀).symm,
      .inr rfl, ?_⟩
    intro hne
    exact absurd ((hf.name d₀).trans hname) hne
  · rw [if_neg hname]
    exact ⟨d₀, hd₀, rfl, rfl, rfl, rfl, .inl rfl, fun _ => rfl⟩

theorem ClusterSound.alter (h : ClusterSound P s) (hf : Keeps f)
    (hgroup : ∀ d n, (f d).owner = n ∨ n ∈ (f d).connect ∨ (f d).schemaOwner = some n →
      (d.owner = n ∨ n ∈ d.connect ∨ d.schemaOwner = some n) ∨ InGroup key n)
    (hkey : key = "s1m_" ++ roleSuffix P name) : ClusterSound P (s.alter name f) := by
  refine ⟨?_, ?_, ?_, ?_, ?_, h.roles⟩
  · intro d hd
    obtain ⟨d₀, hd₀, hname, -, howner, -⟩ := hf.mem hd
    rw [← howner, ← hname]
    exact h.owner d₀ hd₀
  · intro d hd n hn
    obtain ⟨d₀, hd₀, hname, -, howner, -, -, hsame⟩ := hf.mem hd
    by_cases hd' : d.name = name
    · obtain ⟨d₁, hd₁, rfl⟩ := mem_alter hd
      by_cases hname₁ : d₁.name = name
      · rw [if_pos hname₁] at hn ⊢
        rw [hf.owner]
        rcases hgroup d₁ n hn with hn | hn
        · exact h.group d₁ hd₁ n hn
        · rw [h.owner d₁ hd₁, hname₁, ← hkey]
          exact hn
      · rw [if_neg hname₁] at hd'
        exact absurd hd' hname₁
    · rw [hsame hd'] at hn ⊢
      exact h.group d₀ hd₀ n hn
  · intro d hd d' hd' heq
    obtain ⟨d₀, hd₀, rfl⟩ := mem_alter hd
    obtain ⟨d₁, hd₁, rfl⟩ := mem_alter hd'
    have howner : ∀ d : Database, (if d.name = name then f d else d).owner = d.owner := by
      intro d
      split
      · exact hf.owner d
      · rfl
    rw [howner, howner] at heq
    rw [h.single d₀ hd₀ d₁ hd₁ heq]
  · intro d hd
    obtain ⟨d₀, hd₀, -, hoid, -⟩ := hf.mem hd
    rw [← hoid]
    exact h.oid d₀ hd₀
  · intro d hd d' hd' heq
    obtain ⟨d₀, hd₀, rfl⟩ := mem_alter hd
    obtain ⟨d₁, hd₁, rfl⟩ := mem_alter hd'
    have hoid : ∀ d : Database, (if d.name = name then f d else d).oid = d.oid := by
      intro d
      split
      · exact hf.oid d
      · rfl
    rw [hoid, hoid] at heq
    rw [h.oids d₀ hd₀ d₁ hd₁ heq]

theorem Elsewhere.alter (h : ClusterSound P s) (hf : Keeps f)
    (hkey : key = "s1m_" ++ roleSuffix P name) : Elsewhere key s (s.alter name f) := by
  refine ⟨fun _ _ => Iff.rfl, ?_⟩
  intro d hd
  constructor
  · intro hmem
    obtain ⟨d₀, hd₀, hname, -, howner, -, -, hsame⟩ := hf.mem hmem
    rw [hsame ?_]
    · exact hd₀
    · rintro hdname
      refine hd ?_
      rw [← howner, h.owner d₀ hd₀, hname, hdname, hkey]
  · intro hmem
    refine List.mem_map.2 ⟨d, hmem, if_neg ?_⟩
    rintro rfl
    exact hd ((h.owner d hmem).trans hkey.symm)

theorem drops_alter (i : Nat) (hf : Keeps f) : drops i s (s.alter name f) = [] := by
  refine drops_none i (fun _ hr => hr) fun d hd => ?_
  refine ⟨if d.name = name then f d else d, List.mem_map.2 ⟨d, hd, rfl⟩, ?_⟩
  split
  · exact hf.oid d
  · rfl

/-- Where no database belongs to the migration role, no role of its group is needed. -/
theorem depends_none (h : ClusterSound P s) (hno : NoDatabase s key) (hgroup : InGroup key name) :
    s.depends name = false := by
  rw [Bool.eq_false_iff, Ne, depends_iff]
  rintro ⟨d, hd, hdepends⟩
  exact hno d hd ((h.group d hd name hdepends).eq hgroup)

theorem depends_owner {d : Database} (hd : d ∈ s.databases) : s.depends d.owner = true :=
  depends_iff.2 ⟨d, hd, .inl rfl⟩

end Statements

/-! ## A provisioning -/

section Provision

variable {plan : ProvisionPlan} {step : ProvisionStep} {cause : Option LifecycleError} {s' : State}

theorem own_role (h : w.Sound P) (hi : w.calls[i]? = some c) (hwork : c.work = .provision plan step cause)
    {r : Role} (hr : r ∈ w.cluster.roles) (hcreator : r.creator = i) :
    r.name ∈ plan.roles.all ∧ step ≠ .createRoles := by
  obtain ⟨d, hd, hholds⟩ := h.roles r hr
  rw [hcreator] at hd
  obtain rfl : d = c := Option.some.inj (hd.symm.trans hi)
  unfold LifecycleCall.Holds at hholds
  rw [hwork] at hholds
  exact ⟨hholds.1, hholds.2.1⟩

theorem own_database (h : w.Sound P) (hi : w.calls[i]? = some c)
    (hwork : c.work = .provision plan step cause) {d : Database} (hd : d ∈ w.cluster.databases)
    (hcreator : d.creator = i) :
    d.owner = plan.roles.migrate ∧ d.name = plan.databaseName ∧ step.withDatabase ∧
      Owns w.cluster i plan.roles := by
  obtain ⟨e, he, hholds, howns⟩ := h.databases d hd
  rw [hcreator] at he howns
  obtain rfl : e = c := Option.some.inj (he.symm.trans hi)
  unfold LifecycleCall.HoldsDatabase at hholds
  rw [hwork] at hholds howns
  exact ⟨hholds.1, hholds.2.1, hholds.2.2.1, howns⟩

/-- The owner of a database is there. -/
theorem hasRole_owner (h : w.Sound P) {d : Database} (hd : d ∈ w.cluster.databases) :
    w.cluster.hasRole d.owner = true := by
  obtain ⟨e, -, hholds, howns⟩ := h.databases d hd
  refine hasRole_iff.2 ⟨_, howns d.owner ?_, rfl⟩
  rw [← holdsDatabase_key hholds]
  exact migrate_mem_all e.work.roles

theorem plan_key (h : w.Sound P) (hi : w.calls[i]? = some c) (hwork : c.work = .provision plan step cause) :
    plan.roles.migrate = "s1m_" ++ roleSuffix P plan.databaseName := by
  have hnamed := h.named i c hi
  rw [hwork] at hnamed
  exact hnamed.key_eq

theorem plan_group (h : w.Sound P) (hi : w.calls[i]? = some c)
    (hwork : c.work = .provision plan step cause) {name : String} (hname : name ∈ plan.roles.all) :
    InGroup plan.roles.migrate name := by
  have hnamed := h.named i c hi
  rw [hwork] at hnamed
  exact hnamed.inGroup hname

theorem advance_createRoles (h : w.Sound P) (hi : w.calls[i]? = some c)
    (hwork : c.work = .provision plan .createRoles cause)
    (hexecute : execute w.cluster i (.createRoles plan.roles.all) = some s') :
    Advance P w i c ⟨.provision plan .createDatabase cause, .running⟩ s' (drops i w.cluster s') := by
  obtain ⟨-, hnone, hs⟩ := createRoles_ok hexecute
  have hdrops : drops i w.cluster s' = [] := by
    subst hs
    exact drops_none i (fun r hr => List.mem_append_left _ hr) fun d hd => ⟨d, hd, rfl⟩
  have hkey : c.work.key = plan.roles.migrate := by rw [hwork]; rfl
  have hno : NoDatabase w.cluster plan.roles.migrate := by
    intro d hd howner
    have hrole := hasRole_owner h hd
    rw [howner, hnone _ (migrate_mem_all plan.roles)] at hrole
    cases hrole
  rw [hdrops]
  subst hs
  refine ⟨by rw [hwork]; rfl, h.cluster.createRoles hnone, ?_, Nat.le_refl _,
    fun d hd => .inr ⟨d, hd, rfl, rfl⟩, ?_, ?_, ?_, nofun, nofun,
    fun drop hdrop => absurd hdrop List.not_mem_nil⟩
  · rw [hkey]
    exact Elsewhere.createRoles fun name hname => plan_group h hi hwork hname
  · intro r hr _
    rcases List.mem_append.1 hr with hr | hr
    · refine .inl ⟨hr, ?_⟩
      intro hcreator
      exact (own_role h hi hwork hr hcreator).2 rfl
    · obtain ⟨hname, hcreator⟩ := mem_newRoles hr
      exact .inr ⟨hcreator, hname, nofun, nofun⟩
  · intro d hd howner
    rw [hkey] at howner
    exact absurd howner (hno d hd)
  · intro _
    refine ⟨?_, hno⟩
    intro name hname
    exact List.mem_append_right _ (List.mem_map.2 ⟨name, hname, rfl⟩)

theorem advance_createDatabase (h : w.Sound P) (hi : w.calls[i]? = some c)
    (hwork : c.work = .provision plan .createDatabase cause)
    (hready : Ready w.calls w.cluster i (.provision plan .createDatabase cause))
    (hexecute : execute w.cluster i (.createDatabase plan.databaseName plan.roles.migrate) = some s') :
    Advance P w i c ⟨.provision plan .describe cause, .running⟩ s' (drops i w.cluster s') := by
  obtain ⟨-, hs⟩ := createDatabase_ok hexecute
  obtain ⟨howns, hno⟩ := hready
  have hdrops : drops i w.cluster s' = [] := by
    subst hs
    exact drops_none i (fun r hr => hr) fun d hd => ⟨d, List.mem_append_left _ hd, rfl⟩
  have hkey : c.work.key = plan.roles.migrate := by rw [hwork]; rfl
  rw [hdrops]
  subst hs
  refine ⟨by rw [hwork]; rfl, h.cluster.createDatabase (plan_key h hi hwork) hno, ?_,
    Nat.le_succ _, ?_, ?_, ?_, ?_, nofun, nofun, fun drop hdrop => absurd hdrop List.not_mem_nil⟩
  · rw [hkey]
    exact Elsewhere.createDatabase
  · intro d hd
    rcases List.mem_append.1 hd with hd | hd
    · exact .inr ⟨d, hd, rfl, rfl⟩
    · rw [List.mem_singleton.1 hd]
      exact .inl (Nat.le_refl _)
  · intro r hr _
    by_cases hcreator : r.creator = i
    · exact .inr ⟨hcreator, (own_role h hi hwork hr hcreator).1, nofun, nofun⟩
    · exact .inl ⟨hr, hcreator⟩
  · intro d hd howner
    rw [hkey] at howner
    rcases List.mem_append.1 hd with hd | hd
    · exact absurd howner (hno d hd)
    · rw [List.mem_singleton.1 hd]
      exact .inr ⟨rfl, ⟨rfl, rfl, rfl, nofun⟩, howns⟩
  · intro _
    exact ⟨_, List.mem_append_right _ (List.mem_singleton_self _), rfl⟩

/-- The description of its database, and the change of its schema's owner. -/
theorem advance_alter (h : w.Sound P) (hi : w.calls[i]? = some c)
    (hwork : c.work = .provision plan step cause) (hready : ∃ d ∈ w.cluster.databases, d.creator = i)
    {step' : ProvisionStep} (hstep' : step'.withDatabase) {f : Database → Database} (hf : Keeps f)
    (hgroup : ∀ d n, (f d).owner = n ∨ n ∈ (f d).connect ∨ (f d).schemaOwner = some n →
      (d.owner = n ∨ n ∈ d.connect ∨ d.schemaOwner = some n) ∨ n ∈ plan.roles.all)
    (hnext : (∃ d ∈ (w.cluster.alter plan.databaseName f).databases, d.creator = i) →
      Ready w.calls (w.cluster.alter plan.databaseName f) i (.provision plan step' cause)) :
    Advance P w i c ⟨.provision plan step' cause, .running⟩
      (w.cluster.alter plan.databaseName f)
      (drops i w.cluster (w.cluster.alter plan.databaseName f)) := by
  have hkey : c.work.key = plan.roles.migrate := by rw [hwork]; rfl
  obtain ⟨own, hown, hcreator⟩ := hready
  obtain ⟨howner, hname, -, howns⟩ := own_database h hi hwork hown hcreator
  rw [drops_alter i hf]
  refine ⟨by rw [hwork]; rfl, ?_, ?_, Nat.le_refl _, ?_, ?_, ?_, ?_, nofun, nofun,
    fun drop hdrop => absurd hdrop List.not_mem_nil⟩
  · refine h.cluster.alter hf (fun d n hn => ?_) (plan_key h hi hwork)
    exact (hgroup d n hn).imp_right fun hn => plan_group h hi hwork hn
  · rw [hkey]
    exact Elsewhere.alter h.cluster hf (plan_key h hi hwork)
  · intro d hd
    obtain ⟨d₀, hd₀, -, hoid, -, hcreator₀, -⟩ := hf.mem hd
    exact .inr ⟨d₀, hd₀, hoid, hcreator₀⟩
  · intro r hr _
    by_cases hcreator : r.creator = i
    · refine .inr ⟨hcreator, (own_role h hi hwork hr hcreator).1, ?_, nofun⟩
      rintro rfl
      cases hstep'
    · exact .inl ⟨hr, hcreator⟩
  · intro d hd hdowner
    obtain ⟨d₀, hd₀, hname₀, -, howner₀, hcreator₀, -⟩ := hf.mem hd
    -- the altered database is the call's own
    obtain rfl : d₀ = own := h.cluster.single d₀ hd₀ own hown
      (howner₀.trans (hdowner.trans (hkey.trans howner.symm)))
    exact .inr ⟨hcreator₀.symm.trans hcreator, ⟨hdowner.trans hkey, hname₀.symm.trans hname, hstep',
      nofun⟩, howns⟩
  · intro _
    exact hnext ⟨f own, List.mem_map.2 ⟨own, hown, if_pos hname⟩, (hf.creator own).trans hcreator⟩

end Provision

/-! ## Drops -/

/-- A call drops the one database of its names. -/
theorem advance_dropDatabase (h : w.Sound P) (hi : w.calls[i]? = some c) {own : Database}
    (hown : own ∈ w.cluster.databases) (hname : own.name = c.work.databaseName) {s' : State}
    {ifExists : Bool}
    (hexecute : execute w.cluster i (.dropDatabase c.work.databaseName ifExists) = some s')
    (htask : c'.work.task = c.work.task) (hrunning : c'.status = .running)
    (hroles : ∀ r ∈ w.cluster.roles, r.creator = i → c.Holds r.name → c'.Holds r.name)
    (hready : NoDatabase s' c.work.key → s'.roles = w.cluster.roles → Ready w.calls s' i c'.work)
    (hdrop : DropSound w.calls (.database i own)) :
    Advance P w i c c' s' (drops i w.cluster s') := by
  have hs := dropDatabase_ok hexecute
  subst hs
  have hkey := (h.named i c hi).key_eq
  have howner : own.owner = c.work.key := by
    rw [h.cluster.owner own hown, hname, hkey]
  have hno : ∀ d ∈ w.cluster.databases.filter (·.name != c.work.databaseName),
      d.owner ≠ c.work.key := by
    intro d hd heq
    obtain ⟨hd, hne⟩ := mem_dropDatabase.1 hd
    obtain rfl := h.cluster.single d hd own hown (heq.trans howner.symm)
    exact hne hname
  have hne : ∀ {p : Prop}, c'.status ≠ .running → p := fun hne => absurd hrunning hne
  refine ⟨htask, h.cluster.sub (fun r hr => hr) (fun d hd => (mem_dropDatabase.1 hd).1) rfl,
    Elsewhere.dropDatabase h.cluster hkey, Nat.le_refl _,
    fun d hd => .inr ⟨d, (mem_dropDatabase.1 hd).1, rfl, rfl⟩, ?_,
    fun d hd heq => absurd heq (hno d hd), fun _ => hready hno rfl, ?_, ?_, ?_⟩
  · intro r hr _
    by_cases hcreator : r.creator = i
    · obtain ⟨d, hd, hholds⟩ := h.roles r hr
      rw [hcreator] at hd
      obtain rfl : d = c := Option.some.inj (hd.symm.trans hi)
      exact .inr ⟨hcreator, hroles r hr hcreator hholds⟩
    · exact .inl ⟨hr, hcreator⟩
  · intro record hstatus
    rw [hrunning] at hstatus
    cases hstatus
  · intro record step _ hstatus
    exact hne hstatus
  · intro drop hmem
    rcases mem_drops hmem with ⟨r, hr, hgone, -⟩ | ⟨d, hd, hgone, rfl⟩
    · exact absurd hr hgone
    · have hdname : d.name = c.work.databaseName := by
        by_contra hdname
        exact hgone (mem_dropDatabase.2 ⟨hd, hdname⟩)
      obtain rfl := h.cluster.single d hd own hown (by
        rw [h.cluster.owner d hd, hdname, h.cluster.owner own hown, hname])
      exact hdrop

/-- A call drops its roles, and with that it ends. -/
theorem advance_dropRoles (h : w.Sound P) (hi : w.calls[i]? = some c) {s' : State} {ifExists : Bool}
    (hexecute : execute w.cluster i (.dropRoles c.work.roles.dropped ifExists) = some s')
    (htask : c'.work.task = c.work.task) (hended : c'.status ≠ .running)
    (hunreturned : ∀ record, c'.status ≠ .returned record)
    (hcleaned : ∀ record step, c'.work = .cleanup record step → c'.status = .cleaned)
    (hmine : ∀ r ∈ w.cluster.roles, r.creator = i → r.name ∈ c.work.roles.all)
    (hdatabase : ∀ d ∈ w.cluster.databases, d.owner = c.work.key →
      d.creator ≠ i ∧ ∀ name ∈ c.work.roles.all, w.cluster.hasRole name = false)
    (hdrop : ∀ r ∈ w.cluster.roles, r.name ∈ c.work.roles.all → DropSound w.calls (.role i r)) :
    Advance P w i c c' s' (drops i w.cluster s') := by
  obtain ⟨-, hs⟩ := dropRoles_ok hexecute
  subst hs
  refine ⟨htask, h.cluster.sub (fun r hr => (mem_dropRoles.1 hr).1) (fun d hd => hd) rfl, ?_,
    Nat.le_refl _, fun d hd => .inr ⟨d, hd, rfl, rfl⟩, ?_, ?_,
    fun hrunning => absurd hrunning hended, fun record hstatus => absurd hstatus (hunreturned record),
    fun record step hwork _ hne => absurd (hcleaned record step hwork) hne, ?_⟩
  · refine Elsewhere.dropRoles fun name hname => ?_
    exact (h.named i c hi).inGroup (mem_dropped.1 hname)
  · intro r hr _
    obtain ⟨hr, hname⟩ := mem_dropRoles.1 hr
    refine .inl ⟨hr, ?_⟩
    intro hcreator
    exact hname (mem_dropped.2 (hmine r hr hcreator))
  · intro d hd howner
    obtain ⟨hne, hnone⟩ := hdatabase d hd howner
    refine .inl ⟨hd, hne, ?_⟩
    intro r hr
    refine mem_dropRoles.2 ⟨hr, fun hname => ?_⟩
    have hrole := hnone r.name (mem_dropped.1 hname)
    rw [hasRole_iff.2 ⟨r, hr, rfl⟩] at hrole
    cases hrole
  · intro drop hmem
    rcases mem_drops hmem with ⟨r, hr, hgone, rfl⟩ | ⟨d, hd, hgone, -⟩
    · refine hdrop r hr ?_
      by_contra hname
      exact hgone (mem_dropRoles.2 ⟨hr, fun hmem => hname (mem_dropped.1 hmem)⟩)
    · exact absurd hd hgone

/-! ## One event -/

/-- No running call has the names. -/
def LifecycleWorld.Free (w : LifecycleWorld) (key : String) : Prop :=
  ∀ c ∈ w.calls, c.status = .running → c.work.key ≠ key

/-- The statements of a rollback and the last one of a cleanup, which are not repeated. -/
def Work.mustSucceed : Work → Bool
  | .provision _ .rollbackTerminate _ | .provision _ .rollbackDatabase _
  | .provision _ .rollbackRoles _ | .cleanup _ .dropRoles => true
  | _ => false

/-- Calls with the same names come one after the other; a provisioning meets no roles without a
database; the statements of a rollback and the last one of a cleanup are executed; and a cleanup does
not stop before its last statement. -/
def Suits (P : LifecyclePlatform) (w : LifecycleWorld) : LifecycleEvent → Prop
  | .provision input => ∀ plan, prepareProvision P input = .ok plan →
    w.Free plan.roles.migrate ∧ Settled w.cluster plan.roles
  | .cleanup input => ∀ record, prepareCleanup P input = .ok record → w.Free record.roles.migrate
  | .run i works => ∀ c, w.running i = some c → c.work.mustSucceed → works
  | .stop i => ∀ c, w.running i = some c → ∀ record, c.work ≠ .cleanup record .dropRoles

theorem running_some (h : w.running i = some c) : w.calls[i]? = some c ∧ c.status = .running := by
  unfold LifecycleWorld.running at h
  obtain ⟨h, hstatus⟩ := Option.filter_eq_some_iff.1 h
  exact ⟨h, by simpa using hstatus⟩

/-- Where a call owns its roles and no database needs them, they can be dropped. -/
theorem dropRoles_owned {s : State} {p creator : Nat} {roles : RoleNames} {ifExists : Bool}
    (hcluster : ClusterSound P s) (hgroup : ∀ name ∈ roles.all, InGroup roles.migrate name)
    (hno : NoDatabase s roles.migrate) (howns : Owns s p roles) :
    execute s creator (.dropRoles roles.dropped ifExists) ≠ none := by
  rw [dropRoles_of]
  · exact Option.some_ne_none _
  · intro name hname
    exact .inl (hasRole_iff.2 ⟨_, howns name (mem_dropped.1 hname), rfl⟩)
  · intro name hname _
    exact depends_none hcluster hno (hgroup name (mem_dropped.1 hname))

/-- The statement of a call has failed. -/
theorem advance_failure (h : w.Sound P) (hi : w.calls[i]? = some c) (hrunning : c.status = .running)
    {works : Bool} (hsuits : c.work.mustSucceed → works)
    (hnone : (if works then execute w.cluster i c.work.statement else none) = none) :
    Advance P w i c c.work.afterFailure w.cluster [] := by
  have hready := h.ready i c hi hrunning
  have hgroup := fun (name : String) (hname : name ∈ c.work.roles.all) =>
    (h.named i c hi).inGroup hname
  rcases hwork : c.work with ⟨plan, step, cause⟩ | ⟨record, step⟩
  · rw [hwork] at hready hsuits hnone hgroup
    cases step with
    | createRoles =>
      refine Advance.stayProvision h hi hwork rfl rfl (fun _ hne => absurd rfl hne) nofun ?_ nofun
      intro _
      refine .inl ⟨?_, hready⟩
      intro r hr hcreator
      exact (own_role h hi hwork hr hcreator).2 rfl
    | createDatabase =>
      exact Advance.stayProvision h hi hwork rfl rfl (fun _ _ => ⟨nofun, nofun⟩) nofun
        (fun _ => .inr hready) nofun
    | describe =>
      exact Advance.stayProvision h hi hwork rfl rfl (fun _ _ => ⟨nofun, nofun⟩)
        (fun _ => ⟨rfl, nofun⟩) (fun _ => hready) nofun
    | ownSchema =>
      exact Advance.stayProvision h hi hwork rfl rfl (fun _ _ => ⟨nofun, nofun⟩)
        (fun _ => ⟨rfl, nofun⟩) (fun _ => hready) nofun
    | identify =>
      exact Advance.stayProvision h hi hwork rfl rfl (fun _ _ => ⟨nofun, nofun⟩)
        (fun _ => ⟨rfl, nofun⟩) (fun _ => hready) nofun
    | rollbackTerminate =>
      rw [if_pos (hsuits rfl)] at hnone
      cases hnone
    | rollbackDatabase =>
      rw [if_pos (hsuits rfl)] at hnone
      have hsome : execute w.cluster i (.dropDatabase plan.databaseName true) ≠ none := by
        rw [dropDatabase_of (.inr rfl)]
        exact Option.some_ne_none _
      exact absurd hnone hsome
    | rollbackRoles =>
      rw [if_pos (hsuits rfl)] at hnone
      refine Advance.stayProvision h hi hwork rfl rfl ?_ nofun nofun nofun
      rintro ⟨r, hr, hcreator⟩ -
      rcases hready with ⟨hfresh, -⟩ | ⟨howns, hno⟩
      · exact absurd hcreator (hfresh r hr)
      · exact absurd hnone (dropRoles_owned h.cluster hgroup hno howns)
  · rw [hwork] at hready hsuits hnone hgroup
    cases step with
    | identify =>
      exact Advance.stayCleanup h hi hwork rfl rfl nofun nofun fun _ _ hne => absurd rfl hne
    | terminate =>
      exact Advance.stayCleanup h hi hwork rfl rfl nofun nofun
        fun _ _ _ => ⟨fun _ => nofun, fun _ => hready⟩
    | dropDatabase =>
      exact Advance.stayCleanup h hi hwork rfl rfl nofun nofun
        fun _ _ _ => ⟨fun _ => nofun, fun _ => hready⟩
    | dropRoles =>
      rw [if_pos (hsuits rfl)] at hnone
      refine Advance.stayCleanup h hi hwork rfl rfl nofun nofun
        fun _ _ _ => ⟨?_, fun hne => absurd rfl hne⟩
      rintro ⟨p, hp, hreturned⟩
      exact absurd hnone (dropRoles_owned h.cluster hgroup hready.1 (hready.2 p hp hreturned))

/-- The last check of a provisioning leaves its database for the rollback, or returns its record. -/
theorem advance_identify (h : w.Sound P) (hi : w.calls[i]? = some c) {plan : ProvisionPlan}
    {cause : Option LifecycleError} (hwork : c.work = .provision plan .identify cause)
    (hready : ∃ d ∈ w.cluster.databases, d.creator = i) :
    Advance P w i c (plan.identified (w.cluster.row plan.databaseName)) w.cluster
      (drops i w.cluster w.cluster) := by
  have hback : ∀ error, Advance P w i c ⟨.provision plan .rollbackTerminate (some error), .running⟩
      w.cluster (drops i w.cluster w.cluster) := fun error =>
    Advance.stayProvision h hi hwork rfl (drops_self i w.cluster) (fun _ _ => ⟨nofun, nofun⟩)
      (fun _ => ⟨rfl, nofun⟩) (fun _ => hready) nofun
  unfold ProvisionPlan.identified
  split
  · exact hback .provisionIdentityMismatch
  · rename_i oid marker hrow
    split
    · exact hback .provisionIdentityMismatch
    · split
      · exact hback .recordContainsSecret
      · obtain ⟨own, hown, hcreator⟩ := hready
        obtain ⟨howner, hname, -, -⟩ := own_database h hi hwork hown hcreator
        obtain ⟨d, hd, hdname, hdrow⟩ := row_some hrow
        obtain rfl : d = own := h.cluster.single d hd own hown (by
          rw [h.cluster.owner d hd, h.cluster.owner own hown, hdname, hname])
        obtain ⟨rfl, -⟩ := Prod.mk.inj hdrow
        refine Advance.stayProvision h hi hwork rfl (drops_self i w.cluster) (fun _ _ => ⟨nofun, nofun⟩)
          (fun _ => ⟨rfl, nofun⟩) nofun ?_
        intro record hstatus
        obtain rfl := Status.returned.inj hstatus
        refine ⟨⟨d.oid, rfl⟩, h.cluster.oid d hd, ?_⟩
        intro e he heq
        rw [h.cluster.oids e he d hd heq]
        exact hcreator

/-- The statement of a provisioning is executed. -/
theorem advance_provision (h : w.Sound P) (hi : w.calls[i]? = some c) (hrunning : c.status = .running)
    {plan : ProvisionPlan} {step : ProvisionStep} {cause : Option LifecycleError} {s' : State}
    (hwork : c.work = .provision plan step cause)
    (hexecute : execute w.cluster i c.work.statement = some s') :
    Advance P w i c (c.work.afterSuccess (rowOf w.cluster c.work.statement)) s'
      (drops i w.cluster s') := by
  have hready := h.ready i c hi hrunning
  rw [hwork] at hready hexecute ⊢
  cases step with
  | createRoles => exact advance_createRoles h hi hwork hexecute
  | createDatabase => exact advance_createDatabase h hi hwork hready hexecute
  | describe =>
    have hs := describeDatabase_ok hexecute
    subst hs
    refine advance_alter h hi hwork hready rfl ⟨fun _ => rfl, fun _ => rfl, fun _ => rfl, fun _ => rfl⟩
      ?_ id
    intro d n hn
    rcases hn with hn | hn | hn
    · exact .inl (.inl hn)
    · rcases List.mem_append.1 hn with hn | hn
      · exact .inl (.inr (.inl hn))
      · exact .inr hn
    · exact .inl (.inr (.inr hn))
  | ownSchema =>
    have hs := alterSchemaOwner_ok hexecute
    subst hs
    refine advance_alter h hi hwork hready rfl ⟨fun _ => rfl, fun _ => rfl, fun _ => rfl, fun _ => rfl⟩
      ?_ id
    intro d n hn
    rcases hn with hn | hn | hn
    · exact .inl (.inl hn)
    · exact .inl (.inr (.inl hn))
    · obtain rfl := Option.some.inj hn
      exact .inr (migrate_mem_all plan.roles)
  | identify =>
    obtain rfl := Option.some.inj hexecute
    exact advance_identify h hi hwork hready
  | rollbackTerminate =>
    obtain rfl := Option.some.inj hexecute
    exact Advance.stayProvision h hi hwork rfl (drops_self i w.cluster) (fun _ _ => ⟨nofun, nofun⟩)
      (fun _ => ⟨rfl, nofun⟩) (fun _ => hready) nofun
  | rollbackDatabase =>
    obtain ⟨own, hown, hcreator⟩ := hready
    obtain ⟨howner, hname, -, howns⟩ := own_database h hi hwork hown hcreator
    have hexecute' : execute w.cluster i (.dropDatabase c.work.databaseName true) = some s' := by
      rw [hwork]
      exact hexecute
    refine advance_dropDatabase h hi hown (by rw [hwork]; exact hname) hexecute' (by rw [hwork]; rfl) rfl
      ?_ ?_ ?_
    · intro r hr hcreator' _
      exact ⟨(own_role h hi hwork hr hcreator').1, nofun, nofun⟩
    · intro hno hroles
      refine .inr ⟨?_, ?_⟩
      · intro name hname
        rw [hroles]
        exact howns name hname
      · rw [hwork] at hno
        exact hno
    · refine ⟨c, hi, fun _ _ _ _ => hcreator, ?_⟩
      intro record step hcleanup
      rw [hwork] at hcleanup
      cases hcleanup
  | rollbackRoles =>
    have hexecute' : execute w.cluster i (.dropRoles c.work.roles.dropped true) = some s' := by
      rw [hwork]
      exact hexecute
    have hroles : c.work.roles = plan.roles := by rw [hwork]; rfl
    have hkey : c.work.key = plan.roles.migrate := congrArg RoleNames.migrate hroles
    refine advance_dropRoles h hi hexecute' (by rw [hwork]; rfl) nofun nofun nofun ?_ ?_ ?_
    · intro r hr hcreator
      rw [hroles]
      exact (own_role h hi hwork hr hcreator).1
    · intro d hd howner
      rw [hkey] at howner
      rcases hready with ⟨-, hsettled⟩ | ⟨-, hno⟩
      · refine ⟨?_, ?_⟩
        · intro hcreator
          cases (own_database h hi hwork hd hcreator).2.2.1
        · rw [hroles]
          rcases hsettled with hnone | -
          · exact hnone
          · -- the owner of a database cannot be dropped
            have hfree := (dropRoles_ok hexecute).1 d.owner
              (mem_dropped.2 (howner ▸ migrate_mem_all plan.roles)) (hasRole_owner h hd)
            rw [depends_owner hd] at hfree
            cases hfree
      · exact absurd howner (hno d hd)
    · intro r hr hname
      rw [hroles] at hname
      refine ⟨c, hi, fun _ _ _ _ => ?_, ?_⟩
      · rcases hready with ⟨-, hnone | ⟨d, hd, howner⟩⟩ | ⟨howns, -⟩
        · have hrole := hnone r.name hname
          rw [hasRole_iff.2 ⟨r, hr, rfl⟩] at hrole
          cases hrole
        · have hfree := (dropRoles_ok hexecute).1 d.owner
            (mem_dropped.2 (howner ▸ migrate_mem_all plan.roles)) (hasRole_owner h hd)
          rw [depends_owner hd] at hfree
          cases hfree
        · exact congrArg Role.creator (h.cluster.roles r hr _ (howns r.name hname) rfl)
      · intro record step hcleanup
        rw [hwork] at hcleanup
        cases hcleanup

/-- The statement of a cleanup is executed. -/
theorem advance_cleanup (h : w.Sound P) (hi : w.calls[i]? = some c) (hrunning : c.status = .running)
    {record : DatabaseRecord} {step : CleanupStep} {s' : State} (hwork : c.work = .cleanup record step)
    (hexecute : execute w.cluster i c.work.statement = some s') :
    Advance P w i c (c.work.afterSuccess (rowOf w.cluster c.work.statement)) s'
      (drops i w.cluster s') := by
  have hready := h.ready i c hi hrunning
  have hroles : c.work.roles = record.roles := by rw [hwork]; rfl
  have hkey : c.work.key = record.roles.migrate := congrArg RoleNames.migrate hroles
  have hunheld : ∀ r ∈ w.cluster.roles, r.creator ≠ i := by
    intro r hr hcreator
    obtain ⟨d, hd, hholds⟩ := h.roles r hr
    rw [hcreator] at hd
    obtain rfl : d = c := Option.some.inj (hd.symm.trans hi)
    unfold LifecycleCall.Holds at hholds
    rw [hwork] at hholds
    cases hholds
  cases step with
  | identify =>
    rw [hwork] at hexecute ⊢
    obtain rfl := Option.some.inj hexecute
    dsimp only [Work.afterSuccess, Work.statement, rowOf]
    split
    · rename_i hrow
      obtain ⟨d, hd, hname, hdrow⟩ := row_some hrow
      obtain ⟨hoid, hcomment⟩ := Prod.mk.inj hdrow
      exact Advance.stayCleanup h hi hwork rfl (drops_self i w.cluster)
        (fun _ => ⟨d, hd, hname, hoid.symm, hcomment.symm⟩) nofun fun hne => absurd rfl hne
    · exact Advance.stayCleanup h hi hwork rfl (drops_self i w.cluster) nofun nofun
        fun _ _ hne => absurd rfl hne
  | terminate =>
    rw [hwork] at hready hexecute ⊢
    obtain rfl := Option.some.inj hexecute
    exact Advance.stayCleanup h hi hwork rfl (drops_self i w.cluster) (fun _ => hready) nofun
      fun hne => absurd rfl hne
  | dropDatabase =>
    rw [hwork] at hready
    obtain ⟨own, hown, hname, hoid, hcomment⟩ := hready
    have hcreator : ∀ p, Returned w.calls p record → own.creator = p := by
      rintro p ⟨d, hd, hreturned⟩
      exact (h.returned p d record hd hreturned).2.2 own hown hoid
    have hexecute' : execute w.cluster i (.dropDatabase c.work.databaseName false) = some s' := by
      rw [hwork] at hexecute ⊢
      exact hexecute
    rw [hwork]
    refine advance_dropDatabase h hi hown (by rw [hwork]; exact hname) hexecute' (by rw [hwork]; rfl)
      rfl (fun r hr hmine => absurd hmine (hunheld r hr)) ?_ ?_
    · intro hno hkept
      rw [hkey] at hno
      refine ⟨hno, ?_⟩
      rintro p - hreturned name hname'
      obtain ⟨e, he, -, howns⟩ := h.databases own hown
      rw [hcreator p hreturned] at he howns
      obtain ⟨d, hd, hstatus⟩ := hreturned
      obtain rfl : e = d := Option.some.inj (he.symm.trans hd)
      rw [hkept]
      rw [Returned.roles h hd hstatus] at hname'
      exact howns name hname'
    · refine ⟨c, hi, ?_, ?_⟩
      · intro plan step cause hprovision
        rw [hwork] at hprovision
        cases hprovision
      · intro record' step hcleanup
        rw [hwork] at hcleanup
        obtain ⟨rfl, -⟩ := Work.cleanup.inj hcleanup
        exact ⟨⟨hoid, hcomment⟩, fun p _ => hcreator p⟩
  | dropRoles =>
    have hready' : Ready w.calls w.cluster i (.cleanup record .dropRoles) := hwork ▸ hready
    have hexecute' : execute w.cluster i (.dropRoles c.work.roles.dropped false) = some s' := by
      rw [hroles]
      rw [hwork] at hexecute
      exact hexecute
    rw [hwork]
    refine advance_dropRoles h hi hexecute' (by rw [hwork]; rfl) nofun nofun (fun _ _ _ => rfl)
      (fun r hr hmine => absurd hmine (hunheld r hr)) ?_ ?_
    · intro d hd howner
      rw [hkey] at howner
      exact absurd howner (hready'.1 d hd)
    · intro r hr hname
      rw [hroles] at hname
      refine ⟨c, hi, ?_, ?_⟩
      · intro plan step cause hprovision
        rw [hwork] at hprovision
        cases hprovision
      · intro record' step hcleanup
        rw [hwork] at hcleanup
        obtain ⟨rfl, -⟩ := Work.cleanup.inj hcleanup
        refine ⟨hname, fun p hp hreturned => ?_⟩
        exact congrArg Role.creator (h.cluster.roles r hr _ (hready'.2 p hp hreturned r.name hname) rfl)

/-- A running call takes its step. -/
theorem sound_run (h : w.Sound P) (hi : w.calls[i]? = some c) (hrunning : c.status = .running)
    {works : Bool} (hsuits : c.work.mustSucceed → works) : (w.run i c.work works).Sound P := by
  unfold LifecycleWorld.run
  split
  · rename_i s' hexecute
    have hexecute : execute w.cluster i c.work.statement = some s' := by
      cases works with
      | true => exact hexecute
      | false => cases hexecute
    refine h.advance hi hrunning ?_
    rcases hwork : c.work with ⟨plan, step, cause⟩ | ⟨record, step⟩
    · rw [← hwork]
      exact advance_provision h hi hrunning hwork hexecute
    · rw [← hwork]
      exact advance_cleanup h hi hrunning hwork hexecute
  · rename_i hnone
    have hsound := h.advance hi hrunning (advance_failure h hi hrunning hsuits hnone)
    rw [List.append_nil] at hsound
    exact hsound

/-- The process of a running call stops. -/
theorem sound_stop (h : w.Sound P) (hi : w.calls[i]? = some c) (hrunning : c.status = .running)
    (hsuits : ∀ record, c.work ≠ .cleanup record .dropRoles) :
    LifecycleWorld.Sound P { w with calls := w.calls.set i { c with status := .stopped } } := by
  have hready := h.ready i c hi hrunning
  have hadvance : Advance P w i c { c with status := .stopped } w.cluster [] := by
    rcases hwork : c.work with ⟨plan, step, cause⟩ | ⟨record, step⟩
    · exact Advance.stayProvision h hi hwork rfl rfl (fun _ hne => ⟨hne, nofun⟩)
        (fun hwith => ⟨hwith, nofun⟩) nofun nofun
    · rw [hwork] at hready
      refine Advance.stayCleanup h hi hwork rfl rfl nofun nofun fun _ _ hne => ?_
      cases step with
      | identify => exact absurd rfl hne
      | terminate => exact ⟨fun _ => nofun, fun _ => hready⟩
      | dropDatabase => exact ⟨fun _ => nofun, fun _ => hready⟩
      | dropRoles => exact absurd hwork (hsuits record)
  have hsound := h.advance hi hrunning hadvance
  rw [List.append_nil] at hsound
  exact hsound

theorem Ready.append {calls : List LifecycleCall} {s : State} {work : Work} (hi : i ≤ calls.length)
    (h : Ready calls s i work) : Ready (calls ++ [c]) s i work := by
  refine h.returned ?_
  rintro p hp record ⟨d, hd, hstatus⟩
  rcases get_append hd with hd | ⟨rfl, -⟩
  · exact ⟨d, hd, hstatus⟩
  · exact absurd hp (Nat.not_lt_of_le hi)

/-- A call with free names begins. -/
theorem sound_begin (h : w.Sound P) {work : Work} (hnamed : work.Named P) (hfree : w.Free work.key)
    (hready : Ready w.calls w.cluster w.calls.length work) :
    LifecycleWorld.Sound P { w with calls := w.calls ++ [⟨work, .running⟩] } := by
  have hreturned : ∀ {p : Nat} {record : DatabaseRecord},
      Returned (w.calls ++ [⟨work, .running⟩]) p record → Returned w.calls p record := by
    rintro p record ⟨d, hd, hstatus⟩
    rcases get_append hd with hd | ⟨-, rfl⟩
    · exact ⟨d, hd, hstatus⟩
    · cases hstatus
  refine ⟨h.cluster, ?_, ?_, ?_, ?_, ?_, ?_, ?_, ?_⟩
  · intro i c hi
    rcases get_append hi with hi | ⟨-, rfl⟩
    · exact h.named i c hi
    · exact hnamed
  · intro i j c d hij hi hj heq
    rcases get_append hj with hj | ⟨rfl, rfl⟩
    · rw [List.getElem?_append_left (Nat.lt_trans hij (get_lt hj))] at hi
      exact h.last i j c d hij hi hj heq
    · rw [List.getElem?_append_left hij] at hi
      exact fun hrunning => hfree c (List.mem_of_getElem? hi) hrunning heq
  · intro r hr
    obtain ⟨d, hd, hholds⟩ := h.roles r hr
    exact ⟨d, get_append_old hd, hholds⟩
  · intro d hd
    obtain ⟨e, he, hrest⟩ := h.databases d hd
    exact ⟨e, get_append_old he, hrest⟩
  · intro i c hi hrunning
    rcases get_append hi with hi | ⟨rfl, rfl⟩
    · exact (h.ready i c hi hrunning).append (Nat.le_of_lt (get_lt hi))
    · exact hready.append (Nat.le_refl _)
  · intro p c record hc hstatus
    rcases get_append hc with hc | ⟨-, rfl⟩
    · exact h.returned p c record hc hstatus
    · cases hstatus
  · intro drop hdrop
    obtain ⟨d, hd, hprovision, hcleanup⟩ := h.dropped drop hdrop
    refine ⟨d, get_append_old hd, hprovision, fun record step hwork => ?_⟩
    obtain ⟨hof, hcreator⟩ := hcleanup record step hwork
    exact ⟨hof, fun p hp hp' => hcreator p hp (hreturned hp')⟩
  · intro i c record step hi hwork hrunning hcleaned hne
    rcases get_append hi with hi | ⟨-, rfl⟩
    · have hsound := h.interrupted i c record step hi hwork hrunning hcleaned hne
      refine ⟨fun ⟨p, hp, hp'⟩ => hsound.before ⟨p, hp, hreturned hp'⟩, fun hroles hnone => ?_⟩
      exact hsound.there hroles fun j d hij hd => hnone j d hij (get_append_old hd)
    · exact absurd rfl hrunning

theorem prepareProvision_ok {input : ProvisionInput} {plan : ProvisionPlan}
    (h : prepareProvision P input = .ok plan) :
    plan.roles = roleNames P plan.databaseName input.enableRestore := by
  unfold prepareProvision at h
  obtain ⟨_, _, h⟩ := bind_ok h
  obtain ⟨name, _, h⟩ := bind_ok h
  obtain ⟨_, _, h⟩ := bind_ok h
  obtain ⟨_, _, h⟩ := bind_ok h
  obtain ⟨_, _, h⟩ := bind_ok h
  obtain ⟨_, _, h⟩ := bind_ok h
  cases h
  rfl

theorem prepareCleanup_ok {input : CleanupInput} {record : DatabaseRecord}
    (h : prepareCleanup P input = .ok record) :
    record = input.record ∧
      record.roles = roleNames P record.databaseName record.roles.restore.isSome := by
  unfold prepareCleanup at h
  obtain ⟨_, _, h⟩ := bind_ok h
  obtain ⟨_, _, h⟩ := bind_ok h
  obtain ⟨name, _, h⟩ := bind_ok h
  obtain ⟨_, hchecks, h⟩ := bind_ok h
  have hchecks := require_ok hchecks
  simp only [Bool.and_eq_true, beq_iff_eq] at hchecks
  obtain rfl := Except.ok.inj h
  refine ⟨rfl, ?_⟩
  rw [hchecks.1.1.1]
  exact hchecks.1.2

theorem map_ok {ε α β : Type} {x : Except ε α} {f : α → β} {b : β} (h : f <$> x = .ok b) :
    ∃ a, x = .ok a ∧ f a = b := by
  cases x with
  | error e => cases h
  | ok a => exact ⟨a, rfl, Except.ok.inj h⟩

/-- What suits the calls keeps the invariant. -/
theorem sound_step (h : w.Sound P) {e : LifecycleEvent} (hsuits : Suits P w e) :
    (lifecycleStep P w e).Sound P := by
  cases e with
  | provision input =>
    dsimp only [lifecycleStep, LifecycleWorld.begin]
    split
    · rename_i work hwork
      obtain ⟨plan, hplan, rfl⟩ := map_ok hwork
      obtain ⟨hfree, hsettled⟩ := hsuits plan hplan
      exact sound_begin h ⟨_, prepareProvision_ok hplan⟩ hfree hsettled
    · exact h
  | cleanup input =>
    dsimp only [lifecycleStep, LifecycleWorld.begin]
    split
    · rename_i work hwork
      obtain ⟨record, hrecord, rfl⟩ := map_ok hwork
      exact sound_begin h ⟨_, (prepareCleanup_ok hrecord).2⟩ (hsuits record hrecord) trivial
    · exact h
  | run i works =>
    dsimp only [lifecycleStep]
    split
    · exact h
    · rename_i c hc
      obtain ⟨hi, hrunning⟩ := running_some hc
      exact sound_run h hi hrunning (hsuits c hc)
  | stop i =>
    dsimp only [lifecycleStep]
    split
    · exact h
    · rename_i c hc
      obtain ⟨hi, hrunning⟩ := running_some hc
      exact sound_stop h hi hrunning (hsuits c hc)

/-! ## A cleanup that is called again -/

/-- The four statements of one more cleanup, which are all executed. -/
def again (w : LifecycleWorld) (input : CleanupInput) : List LifecycleEvent :=
  .cleanup input :: List.replicate 4 (.run w.calls.length true)

/-- The cleanup is complete. -/
structure Cleaned (w : LifecycleWorld) (call : Nat) (record : DatabaseRecord) : Prop where
  status : ∃ c, w.calls[call]? = some c ∧ c.status = .cleaned
  database : w.cluster.hasDatabase record.databaseName = false
  roles : ∀ name ∈ record.roles.all, w.cluster.hasRole name = false

/-- The call that began last executes its statement. -/
theorem step_last {calls : List LifecycleCall} {dropped : List Drop} {s s' : State} {work : Work}
    (hexecute : execute s calls.length work.statement = some s') :
    lifecycleStep P ⟨s, calls ++ [⟨work, .running⟩], dropped⟩ (.run calls.length true) =
      ⟨s', calls ++ [work.afterSuccess (rowOf s work.statement)],
        dropped ++ drops calls.length s s'⟩ := by
  have hrunning : LifecycleWorld.running ⟨s, calls ++ [⟨work, .running⟩], dropped⟩ calls.length =
      some ⟨work, .running⟩ := by
    unfold LifecycleWorld.running
    rw [List.getElem?_concat_length]
    rfl
  dsimp only [lifecycleStep]
  rw [hrunning]
  dsimp only [LifecycleWorld.run]
  rw [if_pos rfl, hexecute]
  dsimp only
  rw [List.set_append_right _ _ (Nat.le_refl _), Nat.sub_self]
  rfl

/-- Where a returned record's database is there and no call with its names is running, a cleanup is
completed. -/
theorem cleaned_again (h : w.Sound P) {record : DatabaseRecord} {input : CleanupInput} {p : Nat}
    (hprepare : prepareCleanup P input = .ok record) (hreturned : Returned w.calls p record)
    (hmatches : Matches w.cluster record) :
    Cleaned (runs (lifecycleStep P) w (again w input)) w.calls.length record := by
  obtain ⟨own, hown, hname, hoid, hcomment⟩ := hmatches
  have hnamed : (Work.cleanup record .identify).Named P := ⟨_, (prepareCleanup_ok hprepare).2⟩
  have hkey : record.roles.migrate = "s1m_" ++ roleSuffix P record.databaseName := hnamed.key_eq
  have hsingle : ∀ d ∈ w.cluster.databases, d.owner = record.roles.migrate → d = own := by
    intro d hd howner
    refine h.cluster.single d hd own hown ?_
    rw [howner, h.cluster.owner own hown, hname, hkey]
  have howns : Owns w.cluster p record.roles := by
    obtain ⟨d, hd, hstatus⟩ := hreturned
    obtain ⟨e, he, -, howns⟩ := h.databases own hown
    rw [(h.returned p d record hd hstatus).2.2 own hown hoid] at he howns
    obtain rfl : e = d := Option.some.inj (he.symm.trans hd)
    rw [Returned.roles h hd hstatus]
    exact howns
  have hrow : w.cluster.row record.databaseName = some (record.databaseOid, record.marker) := by
    cases hrow : w.cluster.row record.databaseName with
    | none =>
      unfold State.row at hrow
      rw [Option.map_eq_none_iff, List.find?_eq_none] at hrow
      exact absurd (by rw [beq_iff_eq]; exact hname) (hrow own hown)
    | some row =>
      obtain ⟨d, hd, hdname, rfl⟩ := row_some hrow
      obtain rfl := hsingle d hd (by rw [h.cluster.owner d hd, hdname, hkey])
      rw [hoid, hcomment]
  let n := w.calls.length
  -- the cluster without the database, and without the roles
  let s₁ : State :=
    { w.cluster with databases := w.cluster.databases.filter (·.name != record.databaseName) }
  let s₂ : State := { s₁ with roles := s₁.roles.filter (!record.roles.dropped.contains ·.name) }
  have hno : NoDatabase s₁ record.roles.migrate := by
    intro d hd howner
    obtain ⟨hd, hne⟩ := mem_dropDatabase.1 hd
    obtain rfl := hsingle d hd howner
    exact hne hname
  have hcluster₁ : ClusterSound P s₁ :=
    h.cluster.sub (fun r hr => hr) (fun d hd => (mem_dropDatabase.1 hd).1) rfl
  have hbegin : lifecycleStep P w (.cleanup input) =
      { w with calls := w.calls ++ [⟨.cleanup record .identify, .running⟩] } := by
    dsimp only [lifecycleStep, LifecycleWorld.begin]
    rw [hprepare]
    rfl
  have hdropDatabase : execute w.cluster n (.dropDatabase record.databaseName false) = some s₁ :=
    dropDatabase_of (.inl (hasDatabase_iff.2 ⟨own, hown, hname⟩))
  have hdropRoles : execute s₁ n (.dropRoles record.roles.dropped false) = some s₂ := by
    refine dropRoles_of ?_ ?_
    · intro name hmem
      exact .inl (hasRole_iff.2 ⟨_, howns name (mem_dropped.1 hmem), rfl⟩)
    · intro name hmem _
      exact depends_none hcluster₁ hno (hnamed.inGroup (mem_dropped.1 hmem))
  have hend : ∃ dropped, runs (lifecycleStep P) w (again w input) =
      ⟨s₂, w.calls ++ [⟨.cleanup record .dropRoles, .cleaned⟩], dropped⟩ := by
    unfold again
    rw [runs_cons, hbegin]
    dsimp only [List.replicate_succ, List.replicate_zero, runs_cons, runs_nil]
    rw [step_last rfl]
    dsimp only [Work.statement, rowOf]
    rw [hrow]
    dsimp only [Work.afterSuccess]
    rw [if_pos rfl, step_last rfl]
    dsimp only [Work.statement, rowOf, Work.afterSuccess]
    rw [step_last hdropDatabase]
    dsimp only [Work.statement, rowOf, Work.afterSuccess]
    rw [step_last hdropRoles]
    exact ⟨_, rfl⟩
  obtain ⟨dropped, hend⟩ := hend
  rw [hend]
  refine ⟨⟨_, List.getElem?_concat_length, rfl⟩, ?_, ?_⟩
  · rw [Bool.eq_false_iff, Ne, hasDatabase_iff]
    rintro ⟨d, hd, hdname⟩
    exact (mem_dropDatabase.1 hd).2 hdname
  · intro name hmem
    rw [Bool.eq_false_iff, Ne, hasRole_iff]
    rintro ⟨r, hr, rfl⟩
    exact (mem_dropRoles.1 hr).2 (mem_dropped.2 hmem)

/-! ## Every run -/

/-- Databases are made and dropped exactly. -/
structure LifecycleExact (P : LifecyclePlatform) (w : LifecycleWorld) : Prop where
  /-- A provisioning that has failed has left nothing that it created. -/
  failed : ∀ (i : Nat) c plan step cause error, w.calls[i]? = some c →
    c.work = .provision plan step cause → c.status = .failed error →
    (∀ r ∈ w.cluster.roles, r.creator ≠ i) ∧ ∀ d ∈ w.cluster.databases, d.creator ≠ i
  dropped : ∀ drop ∈ w.dropped, DropSound w.calls drop
  /-- A cleanup that has ended after its identity check, and before it was complete, can be completed
  with its record, which a call had returned before, as long as no other call with its names began. -/
  completed : ∀ (i : Nat) c record step input, w.calls[i]? = some c → c.work = .cleanup record step →
    c.status ≠ .running → c.status ≠ .cleaned → step ≠ .identify →
    (∃ p < i, Returned w.calls p record) →
    (∀ (j : Nat) c, i < j → w.calls[j]? = some c → c.work.key ≠ record.roles.migrate) →
    prepareCleanup P input = .ok record →
    Cleaned (runs (lifecycleStep P) w (again w input)) w.calls.length record

theorem LifecycleWorld.Sound.exact (h : w.Sound P) : LifecycleExact P w := by
  refine ⟨?_, h.dropped, ?_⟩
  · intro i c plan step cause error hi hwork hfailed
    refine ⟨?_, ?_⟩
    · intro r hr hcreator
      obtain ⟨d, hd, hholds⟩ := h.roles r hr
      rw [hcreator] at hd
      obtain rfl : d = c := Option.some.inj (hd.symm.trans hi)
      unfold LifecycleCall.Holds at hholds
      rw [hwork] at hholds
      exact hholds.2.2 error hfailed
    · intro d hd hcreator
      obtain ⟨e, he, hholds, -⟩ := h.databases d hd
      rw [hcreator] at he
      obtain rfl : e = c := Option.some.inj (he.symm.trans hi)
      unfold LifecycleCall.HoldsDatabase at hholds
      rw [hwork] at hholds
      exact hholds.2.2.2 error hfailed
  · intro i c record step input hi hwork hrunning hcleaned hne hreturned hlast hprepare
    have hsound := h.interrupted i c record step hi hwork hrunning hcleaned hne
    obtain ⟨p, -, hp⟩ := id hreturned
    exact cleaned_again h hprepare hp (hsound.there (hsound.before hreturned) hlast)

/-- A cluster without suite databases, and no calls. -/
def LifecycleWorld.initial (oid : Nat) : LifecycleWorld := ⟨⟨[], [], oid⟩, [], []⟩

theorem initial_lifecycle (oid : Nat) : (LifecycleWorld.initial oid).Sound P := by
  have hnone : ∀ {i : Nat} {c : LifecycleCall} {p : Prop},
      (LifecycleWorld.initial oid).calls[i]? = some c → p := by
    intro i c p h
    cases (List.getElem?_nil.symm.trans h)
  refine ⟨⟨nofun, nofun, nofun, nofun, nofun, nofun⟩, fun i c h => hnone h,
    fun i j c d _ h => hnone h, nofun, nofun, fun i c h => hnone h, fun p c record h => hnone h, nofun,
    fun i c record step h => hnone h⟩

/-- As long as every event suits the calls, databases are made and dropped exactly. -/
theorem lifecycle_exact (P : LifecyclePlatform) (oid : Nat) (evs : List LifecycleEvent)
    (h : Along (lifecycleStep P) (Suits P) (LifecycleWorld.initial oid) evs) :
    LifecycleExact P (runs (lifecycleStep P) (LifecycleWorld.initial oid) evs) :=
  (runs_invariant (fun w : LifecycleWorld => w.Sound P) (fun _ _ hsuits h => sound_step h hsuits)
    (initial_lifecycle oid) h).exact

/-! ### Runs of two calls -/

def sampleLifecycle : LifecyclePlatform where
  sha256Text _ := String.ofList (List.replicate 64 '0')
  sha256Canonical text := "sha256:" ++ text
  canonicalJson marker := marker.runIdDigest ++ marker.suiteIdDigest ++ toString marker.shard

def sampleSuffix : String := String.ofList (List.replicate 24 '0')

def sampleProvision : ProvisionInput :=
  { target :=
      { policyId := "s1-release-ephemeral"
        environment := "ci"
        host := "127.0.0.1"
        clusterMarker := "subscription-s1-controlled/v1"
        clusterFingerprint := "sha256:" ++ String.ofList (List.replicate 64 'a')
        imageDigest := "sha256:" ++ String.ofList (List.replicate 64 'a')
        serverVersionNum := "170011" }
    policy :=
      { schemaVersion := "database-target-policy.v1"
        policyId := "s1-release-ephemeral"
        allowedEnvironments := ["ci", "local-controlled"]
        allowedHosts := ["127.0.0.1", "localhost", "::1"]
        requiredClusterMarker := "subscription-s1-controlled/v1"
        requiredEphemeralMarker := "subscription-s1-ephemeral/v1"
        requiredImageDigest := "sha256:" ++ String.ofList (List.replicate 64 'a')
        requiredServerVersionMajor := 17
        databaseNamePattern := "^s1ci_[0-9a-f]{24}$" }
    runId := "run-1"
    suiteId := "api.database.release"
    shard := 0
    createdAt := 1788307200000
    enableRestore := false
    migrateSecret := some ⟨"s1m_" ++ sampleSuffix, "migrate-private-password", "secret://migrate"⟩
    runtimeSecret := some ⟨"s1r_" ++ sampleSuffix, "runtime-private-password", "secret://runtime"⟩
    restoreSecret := none }

/-- The record of the sample's database. -/
def sampleRecord : DatabaseRecord :=
  { recordVersion := "provisioned-database.v1"
    targetFingerprint := sampleProvision.target.clusterFingerprint
    databaseName := "s1ci_" ++ sampleSuffix
    databaseOid := 19001
    marker := "sha256:run-1sha256:api.database.release0"
    runId := "run-1"
    suiteId := "api.database.release"
    shard := 0
    roles := ⟨"s1m_" ++ sampleSuffix, "s1r_" ++ sampleSuffix, none⟩
    secretReferences := ⟨"secret://migrate", "secret://runtime", none⟩
    createdAt := 1788307200000 }

def sampleCleanup : CleanupInput :=
  ⟨sampleRecord, sampleProvision.target, sampleProvision.policy⟩

/-- A database is provisioned, and its cleanup begins. -/
def sampleProvisioned : List LifecycleEvent :=
  .provision sampleProvision :: List.replicate 5 (.run 0 true) ++ [.cleanup sampleCleanup]

def sampleWorld (evs : List LifecycleEvent) : LifecycleWorld :=
  runs (lifecycleStep sampleLifecycle) (LifecycleWorld.initial 19001) evs

theorem lifecycle_exact_sample :
    LifecycleExact sampleLifecycle (sampleWorld (sampleProvisioned ++ List.replicate 4 (.run 1 true))) ∧
      ((sampleWorld (sampleProvisioned ++ List.replicate 4 (.run 1 true))).calls[1]?.map (·.status)) =
        some .cleaned := by
  have hrun : ∀ i w, Suits sampleLifecycle w (.run i true) := fun _ _ _ _ _ => rfl
  refine ⟨lifecycle_exact sampleLifecycle 19001 _ ?_, by decide +kernel⟩
  refine ⟨?_, hrun 0 _, hrun 0 _, hrun 0 _, hrun 0 _, hrun 0 _, ?_, hrun 1 _, hrun 1 _, hrun 1 _,
    hrun 1 _, trivial⟩
  · intro plan _
    exact ⟨fun c hc => absurd hc List.not_mem_nil, .inl fun _ _ => rfl⟩
  · intro record _ c hc hrunning
    have hall : (sampleWorld (sampleProvisioned.take 6)).calls.all (·.status != .running) = true := by
      decide +kernel
    have hc := List.all_eq_true.1 hall c hc
    rw [hrunning] at hc
    cases hc

/-- A call with the identity of another one finds the roles there and rolls back. -/
def sampleOverlap : List LifecycleEvent :=
  [.provision sampleProvision, .run 0 true, .provision sampleProvision, .run 1 true, .run 1 true]

/-- A cleanup stops when it has dropped the database. -/
def sampleInterrupted : List LifecycleEvent :=
  sampleProvisioned ++ List.replicate 3 (.run 1 true) ++ [.stop 1]

/-- The call provisions. -/
def Work.isProvision : Work → Bool
  | .provision _ _ _ => true
  | .cleanup _ _ => false

theorem lifecycle_not_exact :
    ¬LifecycleExact sampleLifecycle (sampleWorld sampleOverlap) ∧
      ¬LifecycleExact sampleLifecycle (sampleWorld sampleInterrupted) := by
  constructor
  · intro h
    -- the second call has dropped a role that the first one created
    have hdrop : Drop.role 1 ⟨"s1m_" ++ sampleSuffix, 0⟩ ∈ (sampleWorld sampleOverlap).dropped := by
      decide +kernel
    have hprovision : ((sampleWorld sampleOverlap).calls[1]?.all fun c => c.work.isProvision) = true := by
      decide +kernel
    obtain ⟨c, hc, hcreator, -⟩ := h.dropped _ hdrop
    dsimp only [Drop.call] at hc
    rw [hc] at hprovision
    rcases hwork : c.work with ⟨plan, step, cause⟩ | ⟨record, step⟩
    · cases hcreator plan step cause hwork
    · rw [Option.all_some, hwork] at hprovision
      cases hprovision
  · intro h
    have hcall : (sampleWorld sampleInterrupted).calls[1]? =
        some ⟨.cleanup sampleRecord .dropRoles, .stopped⟩ := by decide +kernel
    have hreturned : ((sampleWorld sampleInterrupted).calls[0]?.map (·.status)) =
        some (.returned sampleRecord) := by decide +kernel
    have hlength : (sampleWorld sampleInterrupted).calls.length = 2 := by decide +kernel
    have hstatus : ((runs (lifecycleStep sampleLifecycle) (sampleWorld sampleInterrupted)
        (again (sampleWorld sampleInterrupted) sampleCleanup)).calls[2]?.map (·.status)) =
          some (.failed .cleanupIdentityMismatch) := by decide +kernel
    obtain ⟨c, hc, hstatus'⟩ := Option.map_eq_some_iff.1 hreturned
    have hcleaned := h.completed 1 _ sampleRecord .dropRoles sampleCleanup hcall rfl
      (by decide) (by decide) (by decide) ⟨0, Nat.zero_lt_one, c, hc, hstatus'⟩ (by
        intro j d hj hd
        have := get_lt hd
        omega) (by decide +kernel)
    obtain ⟨d, hd, hcleaned⟩ := hcleaned.status
    rw [hlength] at hd
    rw [hd, Option.map_some, hcleaned] at hstatus
    cases hstatus

end SubscriptionSaas.Release
