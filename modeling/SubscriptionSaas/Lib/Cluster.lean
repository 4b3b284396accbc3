import Mathlib.Data.List.Basic

/-!
# A database cluster

The roles and databases of a PostgreSQL cluster, as far as statements on them fail or take effect. A
statement batch takes effect as a whole or fails without effect. Each role and each database is marked
with the session that created it; no statement looks at the mark.
-/

namespace Cluster

@[ext] structure Role where
  name : String
  creator : Nat
  deriving DecidableEq

structure Database where
  name : String
  oid : Nat
  owner : String
  /-- The empty text when there is no comment. -/
  comment : String
  /-- The roles to which `CONNECT` has been granted. -/
  connect : List String
  /-- The owner of the schema `public`, when it is no longer the built-in one. -/
  schemaOwner : Option String
  creator : Nat
  deriving DecidableEq

structure State where
  roles : List Role
  databases : List Database
  nextOid : Nat
  deriving DecidableEq

inductive Statement
  | createRoles (names : List String)
  | createDatabase (name owner : String)
  | describeDatabase (name comment : String) (grantees : List String)
  | alterSchemaOwner (database role : String)
  | selectDatabase (name : String)
  | terminateBackends (name : String)
  | dropDatabase (name : String) (ifExists : Bool)
  | dropRoles (names : List String) (ifExists : Bool)
  deriving DecidableEq

variable (s : State)

def State.hasRole (name : String) : Bool := s.roles.any (·.name == name)

def State.hasDatabase (name : String) : Bool := s.databases.any (·.name == name)

/-- The role cannot be dropped, because it owns a database or a schema or has a privilege. -/
def State.depends (name : String) : Bool :=
  s.databases.any fun d =>
    d.owner == name || d.connect.contains name || d.schemaOwner == some name

/-- The row of a database: its identifier and its comment. -/
def State.row (name : String) : Option (Nat × String) :=
  (s.databases.find? (·.name == name)).map fun d => (d.oid, d.comment)

/-- A new database. -/
def State.newDatabase (creator : Nat) (name owner : String) : Database :=
  { name := name
    oid := s.nextOid
    owner := owner
    comment := ""
    connect := []
    schemaOwner := none
    creator := creator }

/-- A change of one database. -/
def State.alter (name : String) (f : Database → Database) : State :=
  { s with databases := s.databases.map fun d => if d.name = name then f d else d }

def execute (creator : Nat) : Statement → Option State
  | .createRoles names =>
    if names.Nodup ∧ names.all (!s.hasRole ·) then
      some { s with roles := s.roles ++ names.map (⟨·, creator⟩) }
    else none
  | .createDatabase name owner =>
    if !s.hasDatabase name && s.hasRole owner then
      some { s with
        databases := s.databases ++ [s.newDatabase creator name owner]
        nextOid := s.nextOid + 1 }
    else none
  | .describeDatabase name comment grantees =>
    if s.hasDatabase name && grantees.all s.hasRole then
      some (s.alter name fun d => { d with comment := comment, connect := d.connect ++ grantees })
    else none
  | .alterSchemaOwner database role =>
    if s.hasDatabase database && s.hasRole role then
      some (s.alter database fun d => { d with schemaOwner := some role })
    else none
  | .selectDatabase _ => some s
  | .terminateBackends _ => some s
  | .dropDatabase name ifExists =>
    if s.hasDatabase name || ifExists then
      some { s with databases := s.databases.filter (·.name != name) }
    else none
  | .dropRoles names ifExists =>
    if names.all fun name => (s.hasRole name || ifExists) && !(s.hasRole name && s.depends name) then
      some { s with roles := s.roles.filter (!names.contains ·.name) }
    else none

/-! ## What a statement that is executed has found and done -/

variable {s} {s' : State} {creator : Nat} {name owner comment role : String} {names grantees : List String}
  {ifExists : Bool}

theorem hasRole_iff : s.hasRole name = true ↔ ∃ r ∈ s.roles, r.name = name := by
  unfold State.hasRole
  simp only [List.any_eq_true, beq_iff_eq]

theorem hasDatabase_iff : s.hasDatabase name = true ↔ ∃ d ∈ s.databases, d.name = name := by
  unfold State.hasDatabase
  simp only [List.any_eq_true, beq_iff_eq]

theorem depends_iff : s.depends name = true ↔
    ∃ d ∈ s.databases, d.owner = name ∨ name ∈ d.connect ∨ d.schemaOwner = some name := by
  unfold State.depends
  simp only [List.any_eq_true, Bool.or_eq_true, beq_iff_eq, List.contains_iff_mem, or_assoc]

/-- The row of a database is that of one with its name. -/
theorem row_some {row : Nat × String} (h : s.row name = some row) :
    ∃ d ∈ s.databases, d.name = name ∧ row = (d.oid, d.comment) := by
  unfold State.row at h
  obtain ⟨d, hd, rfl⟩ := Option.map_eq_some_iff.1 h
  exact ⟨d, List.mem_of_find?_eq_some hd, by simpa using List.find?_some hd, rfl⟩

theorem createRoles_ok (h : execute s creator (.createRoles names) = some s') :
    names.Nodup ∧ (∀ n ∈ names, s.hasRole n = false) ∧
      s' = { s with roles := s.roles ++ names.map (⟨·, creator⟩) } := by
  obtain ⟨⟨hnodup, hnames⟩, h⟩ := Option.ite_none_right_eq_some.1 h
  refine ⟨hnodup, ?_, (Option.some.inj h).symm⟩
  simpa using hnames

theorem createDatabase_ok (h : execute s creator (.createDatabase name owner) = some s') :
    s.hasDatabase name = false ∧
      s' = { s with databases := s.databases ++ [s.newDatabase creator name owner]
                    nextOid := s.nextOid + 1 } := by
  obtain ⟨hchecks, h⟩ := Option.ite_none_right_eq_some.1 h
  rw [Bool.and_eq_true, Bool.not_eq_true'] at hchecks
  exact ⟨hchecks.1, (Option.some.inj h).symm⟩

theorem describeDatabase_ok
    (h : execute s creator (.describeDatabase name comment grantees) = some s') :
    s' = s.alter name fun d => { d with comment := comment, connect := d.connect ++ grantees } :=
  (Option.some.inj (Option.ite_none_right_eq_some.1 h).2).symm

theorem alterSchemaOwner_ok (h : execute s creator (.alterSchemaOwner name role) = some s') :
    s' = s.alter name fun d => { d with schemaOwner := some role } :=
  (Option.some.inj (Option.ite_none_right_eq_some.1 h).2).symm

theorem dropDatabase_ok (h : execute s creator (.dropDatabase name ifExists) = some s') :
    s' = { s with databases := s.databases.filter (·.name != name) } :=
  (Option.some.inj (Option.ite_none_right_eq_some.1 h).2).symm

theorem dropRoles_ok (h : execute s creator (.dropRoles names ifExists) = some s') :
    (∀ n ∈ names, s.hasRole n = true → s.depends n = false) ∧
      s' = { s with roles := s.roles.filter (!names.contains ·.name) } := by
  obtain ⟨hnames, h⟩ := Option.ite_none_right_eq_some.1 h
  refine ⟨?_, (Option.some.inj h).symm⟩
  intro n hn hrole
  have hn := List.all_eq_true.1 hnames n hn
  rw [hrole] at hn
  simpa using hn

/-- Roles on which nothing depends can be dropped. -/
theorem dropRoles_of (hexists : ∀ n ∈ names, s.hasRole n = true ∨ ifExists = true)
    (hfree : ∀ n ∈ names, s.hasRole n = true → s.depends n = false) :
    execute s creator (.dropRoles names ifExists) =
      some { s with roles := s.roles.filter (!names.contains ·.name) } := by
  refine if_pos (List.all_eq_true.2 ?_)
  intro n hn
  rw [Bool.and_eq_true, Bool.or_eq_true, Bool.not_eq_true']
  refine ⟨hexists n hn, ?_⟩
  cases hrole : s.hasRole n with
  | false => rfl
  | true => rw [hfree n hn hrole, Bool.and_false]

theorem dropDatabase_of (hexists : s.hasDatabase name = true ∨ ifExists = true) :
    execute s creator (.dropDatabase name ifExists) =
      some { s with databases := s.databases.filter (·.name != name) } := by
  refine if_pos ?_
  rw [Bool.or_eq_true]
  exact hexists

/-- A database of an altered cluster is a database that was there, or its alteration. -/
theorem mem_alter {f : Database → Database} {d : Database} (h : d ∈ (s.alter name f).databases) :
    ∃ d₀ ∈ s.databases, d = if d₀.name = name then f d₀ else d₀ := by
  obtain ⟨d₀, hd₀, rfl⟩ := List.mem_map.1 h
  exact ⟨d₀, hd₀, rfl⟩

end Cluster
