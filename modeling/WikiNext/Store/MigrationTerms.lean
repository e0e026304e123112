import WikiNext.Store.PostgresSteps

/-!
# Migrating the database

`migrations/0001_schema_state.sql`, and `migrate` next to others that work on the same
database. What PostgreSQL is, and the migrator of `sqlx`, are parameters; what they
document is named where it is counted on.

§1 the migration, §2 what is documented, §3 the terms of a process, §4 `migrate` on
these terms.
-/

namespace WikiNext.Store.Migrations

open WikiNext.Foundation

/-! ## §1  The migration -/

abbrev Role : Type := String

/-- What a database holds of `public.wikinext_schema_state`, and who may read it. -/
structure Catalog where
  /-- component and version of each row, once there is a table -/
  schema_state : Option (List (String × Int))
  /-- who has `USAGE` on the schema `public` -/
  usage : List Role
  /-- who has `SELECT` on the table, or would have it by default -/
  select : List Role
deriving DecidableEq, Repr

inductive SqlError where
  | duplicateTable
  | raised (message : String)
deriving DecidableEq, Repr

/-- `CREATE TABLE public.wikinext_schema_state (..)` -/
def createSchemaState (catalog : Catalog) : Except SqlError Catalog :=
  match catalog.schema_state with
  | some _ => .error .duplicateTable
  | none => .ok { catalog with schema_state := some [] }

/-- `INSERT INTO public.wikinext_schema_state (component, version) VALUES ..` -/
def insertVersions (catalog : Catalog) : Catalog :=
  { catalog with schema_state := catalog.schema_state.map fun rows =>
      rows ++ [("database", 1), ("render", 1), ("search", 1), ("compat", 1)] }

/-- The `DO` block; the role is `current_setting('wikinext.application_role', true)`. -/
def grantToApplication (application_role : Option Role) (catalog : Catalog) :
    Except SqlError Catalog :=
  match application_role with
  | none => .error (.raised "wikinext.application_role is required")
  | some application_role =>
      if application_role = "" then .error (.raised "wikinext.application_role is required")
      else .ok { catalog with
        usage := application_role :: catalog.usage
        select := application_role :: catalog.select }

/-- `0001_schema_state.sql` -/
def schemaState (application_role : Option Role) (catalog : Catalog) : Except SqlError Catalog := do
  let catalog ← createSchemaState catalog
  grantToApplication application_role (insertVersions catalog)

section Script

variable {catalog after : Catalog} {role : Role}

theorem schemaState_ok (h : schemaState (some role) catalog = .ok after) :
    catalog.schema_state = none ∧
      after.schema_state = some [("database", 1), ("render", 1), ("search", 1), ("compat", 1)] ∧
      role ∈ after.usage ∧ role ∈ after.select := by
  cases htable : catalog.schema_state with
  | some rows => simp [schemaState, createSchemaState, htable, bind, Except.bind] at h
  | none =>
      simp only [schemaState, createSchemaState, htable, bind, Except.bind, grantToApplication] at h
      split at h
      · cases h
      · obtain rfl := Except.ok.inj h
        exact ⟨rfl, rfl, List.mem_cons_self, List.mem_cons_self⟩

/-- The migration is not applied where there is a table. -/
theorem schemaState_of_table {rows : List (String × Int)} (h : catalog.schema_state = some rows)
    (application_role : Option Role) :
    schemaState application_role catalog = .error .duplicateTable := by
  simp only [schemaState, createSchemaState, h, bind, Except.bind]

end Script

/-! ## §2  What is documented -/

/-- The parameters of a session, as they were set. -/
abbrev Session : Type := String → Option String

/-- `SET name = value` -/
def setParameter (name value : String) : Query := ⟨"SET " ++ name ++ " = " ++ value, []⟩

/-- The parameters that a migration sets itself. -/
def migrationParameters : List (String × String) :=
  [("lock_timeout", "'10s'"), ("statement_timeout", "'5min'"), ("search_path", "public")]

def APPLICATION_ROLE : String := "wikinext.application_role"

/-- `set_config('wikinext.application_role', $1, false)` -/
def setApplicationRole (application_role : Role) : Query :=
  ⟨"SELECT set_config('wikinext.application_role', $1, false)", [application_role]⟩

/-- A database with the processes that migrate it, and what is known of its states. -/
structure Cluster (ι δ : Type) where
  /-- how it answers the application -/
  server : δ → PostgresServer
  /-- `sqlx` in each process -/
  sqlx : ι → Sqlx δ
  catalog : δ → Catalog
  /-- whether `public._sqlx_migrations` has the migration -/
  recorded : δ → Prop
  session : δ → Connection → Session
  /-- whose pool a connection is out of -/
  owner : Connection → ι

namespace Cluster

variable {ι δ : Type} (cluster : Cluster ι δ)

/-- Nothing but sessions of process `i` has changed. -/
structure OwnSessions (i : ι) (d d' : δ) : Prop where
  catalog : cluster.catalog d' = cluster.catalog d
  recorded : cluster.recorded d' ↔ cluster.recorded d
  others : ∀ c, cluster.owner c ≠ i → cluster.session d' c = cluster.session d c

/-- A call of the migrator on connection `c`: it keeps its books, or it commits the
migration together with its record. -/
structure MigratorCall (c : Connection) (d d' : δ) : Prop where
  sessions : ∀ c', cluster.session d' c' = cluster.session d c'
  catalog : cluster.catalog d' = cluster.catalog d ∧ (cluster.recorded d' ↔ cluster.recorded d) ∨
    schemaState (cluster.session d c APPLICATION_ROLE) (cluster.catalog d) =
      .ok (cluster.catalog d') ∧ cluster.recorded d'

/-- What the migrator counts on: its own session, and that records stay. -/
def migratorTerms (c : Connection) : Terms δ where
  rely d d' := (cluster.recorded d → cluster.recorded d') ∧
    cluster.session d' c = cluster.session d c
  guarantee := cluster.MigratorCall c

/-- What PostgreSQL, the driver and the migrator document, as far as it is counted on. -/
structure Documented : Prop where
  acquire : ∀ i options d, Wp ((cluster.sqlx i).acquire options)
    (fun c d' => cluster.owner c = i ∧ cluster.OwnSessions i d d')
    (fun _ d' => cluster.OwnSessions i d d') d
  set : ∀ {i c}, cluster.owner c = i → ∀ {name value}, (name, value) ∈ migrationParameters →
    ∀ d, Wp ((cluster.sqlx i).execute c (setParameter name value))
      (fun _ d' => cluster.OwnSessions i d d' ∧
        cluster.session d' c = Function.update (cluster.session d c) name (some value))
      (fun _ d' => cluster.OwnSessions i d d') d
  set_config : ∀ {i c}, cluster.owner c = i → ∀ role d,
    Wp ((cluster.sqlx i).execute c (setApplicationRole role))
      (fun _ d' => cluster.OwnSessions i d d' ∧
        cluster.session d' c = Function.update (cluster.session d c) APPLICATION_ROLE (some role))
      (fun _ d' => cluster.OwnSessions i d d') d
  /-- It succeeds only once the migration is recorded where `search_path` says. -/
  runMigrator : ∀ {i c}, cluster.owner c = i → ∀ d,
    cluster.session d c "search_path" = some "public" →
      Under (cluster.migratorTerms c) ((cluster.sqlx i).runMigrator c)
        (fun _ d' => cluster.recorded d') (fun _ _ => True) d

/-! ## §3  The terms of a process -/

section Terms

variable (start : Catalog) (role : Role)

/-- Nothing has been applied. -/
def Pending (d : δ) : Prop := cluster.catalog d = start ∧ ¬ cluster.recorded d

/-- The migration has been applied for this role, and recorded. -/
def Migrated (d : δ) : Prop :=
  schemaState (some role) start = .ok (cluster.catalog d) ∧ cluster.recorded d

/-- Before the migration, or after it. -/
def Staged (d : δ) : Prop := cluster.Pending start d ∨ cluster.Migrated start role d

/-- From one stage to the same or the next. -/
structure Progress (d d' : δ) : Prop where
  staged : cluster.Staged start role d → cluster.Staged start role d'
  migrated : cluster.Migrated start role d → cluster.Migrated start role d'

def processTerms (i : ι) : Terms δ where
  rely d d' := cluster.Progress start role d d' ∧
    ∀ c, cluster.owner c = i → cluster.session d' c = cluster.session d c
  guarantee d d' := cluster.Progress start role d d' ∧
    ∀ c, cluster.owner c ≠ i → cluster.session d' c = cluster.session d c

variable {cluster start role} {d d' : δ} {i : ι} {c : Connection}

theorem Progress.refl : cluster.Progress start role d d := ⟨id, id⟩

theorem Progress.trans {d'' : δ} (h : cluster.Progress start role d d')
    (h' : cluster.Progress start role d' d'') : cluster.Progress start role d d'' :=
  ⟨h'.staged ∘ h.staged, h'.migrated ∘ h.migrated⟩

/-- Where neither the catalog nor the record has changed. -/
theorem Progress.of_same (hcatalog : cluster.catalog d' = cluster.catalog d)
    (hrecorded : cluster.recorded d' ↔ cluster.recorded d) :
    cluster.Progress start role d d' := by
  have hmigrated : cluster.Migrated start role d → cluster.Migrated start role d' := by
    rintro ⟨happlied, hrecord⟩
    exact ⟨hcatalog ▸ happlied, hrecorded.mpr hrecord⟩
  refine ⟨?_, hmigrated⟩
  rintro (⟨hstart, hopen⟩ | h)
  · exact .inl ⟨hcatalog.trans hstart, fun hrecord => hopen (hrecorded.mp hrecord)⟩
  · exact .inr (hmigrated h)

theorem OwnSessions.guarantee (h : cluster.OwnSessions i d d') :
    (cluster.processTerms start role i).guarantee d d' :=
  ⟨.of_same h.catalog h.recorded, h.others⟩

/-- **A call of the migrator is progress**: it applies the migration to a database on
which it has not been applied, or to none. -/
theorem MigratorCall.progress (h : cluster.MigratorCall c d d')
    (hrole : cluster.session d c APPLICATION_ROLE = some role)
    (hstaged : cluster.Staged start role d) : cluster.Progress start role d d' := by
  rcases h.catalog with ⟨hcatalog, hrecorded⟩ | ⟨hcommitted, hrecorded⟩
  · exact .of_same hcatalog hrecorded
  · rw [hrole] at hcommitted
    rcases hstaged with ⟨hstart, -⟩ | ⟨happlied, -⟩
    · rw [hstart] at hcommitted
      have hmigrated : cluster.Migrated start role d' := ⟨hcommitted, hrecorded⟩
      exact ⟨fun _ => .inr hmigrated, fun _ => hmigrated⟩
    · -- the table is there already
      obtain ⟨-, htable, -⟩ := schemaState_ok happlied
      rw [schemaState_of_table htable] at hcommitted
      cases hcommitted

end Terms

/-! ## §4  `migrate` on these terms -/

section Migrate

variable {cluster} {start : Catalog} {role : Role} {i : ι} {c : Connection} {d : δ}
  {store : PostgresStore}

/-- One of the four settings: what it sets, and what a session keeps. -/
theorem under_setUp {query : Query} {name : String} {value : Option String}
    (hquery : ∀ d, Wp ((cluster.sqlx i).execute c query)
      (fun _ d' => cluster.OwnSessions i d d' ∧
        cluster.session d' c = Function.update (cluster.session d c) name value)
      (fun _ d' => cluster.OwnSessions i d d') d)
    (howner : cluster.owner c = i) (hstaged : cluster.Staged start role d) :
    Under (cluster.processTerms start role i) (Stepwise.setUp (cluster.sqlx i) c query)
      (fun _ d' => cluster.Staged start role d' ∧
        cluster.session d' c = Function.update (cluster.session d c) name value)
      (fun _ _ => True) d := by
  apply under_mapErr
  apply under_call
  refine (hquery d).mono ?_ ?_
  · rintro _ d' ⟨hsessions, hset⟩
    refine ⟨hsessions.guarantee, fun t ht => ⟨?_, (ht.2 c howner).trans hset⟩⟩
    exact ht.1.staged (hsessions.guarantee.1.staged hstaged)
  · exact fun _ d' hsessions => ⟨hsessions.guarantee, fun _ _ => trivial⟩

theorem under_runMigrator (h : cluster.Documented) (howner : cluster.owner c = i)
    (hpath : cluster.session d c "search_path" = some "public")
    (hrole : cluster.session d c APPLICATION_ROLE = some role)
    (hstaged : cluster.Staged start role d) :
    Under (cluster.processTerms start role i) ((cluster.sqlx i).runMigrator c)
      (fun _ d' => cluster.Migrated start role d') (fun _ _ => True) d := by
  have hrun := h.runMigrator howner d hpath
  refine (Script.Safe.conseq (I := fun d => cluster.session d c APPLICATION_ROLE = some role ∧
    cluster.Staged start role d) hrun ⟨hrole, hstaged⟩ ?_ ?_).mono ?_
  · rintro s t ⟨hrole, hstaged⟩ ⟨hprogress, hsessions⟩
    have hsession := hsessions c howner
    refine ⟨⟨fun hrecorded => ?_, hsession⟩, hsession ▸ hrole, hprogress.staged hstaged⟩
    rcases hstaged with ⟨-, hopen⟩ | hmigrated
    · exact absurd hrecorded hopen
    · exact (hprogress.migrated hmigrated).2
  · rintro s t ⟨hrole, hstaged⟩ hcall
    have hprogress := hcall.progress hrole hstaged
    exact ⟨⟨hprogress, fun c' _ => hcall.sessions c'⟩, hcall.sessions c ▸ hrole,
      hprogress.staged hstaged⟩
  · rintro (e | a) t ⟨hrecorded, -, hstaged⟩
    · trivial
    · exact hstaged.resolve_left fun hpending => hpending.2 hrecorded

/-- The migrator is run in a session that names the schema and the application's role. -/
theorem under_migration (h : cluster.Documented) (hstaged : cluster.Staged start role d) :
    Under (cluster.processTerms start role i)
      (Stepwise.migration (cluster.sqlx i) store role)
      (fun _ d' => cluster.Migrated start role d') (fun _ _ => True) d := by
  rw [Stepwise.migration]
  have hacquire : Under (cluster.processTerms start role i)
      (.mapErr StoreError.migrationSetup (.call ((cluster.sqlx i).acquire store.pool)))
      (fun c d' => cluster.owner c = i ∧ cluster.Staged start role d') (fun _ _ => True) d := by
    apply under_mapErr
    apply under_call
    refine (h.acquire i store.pool d).mono ?_ ?_
    · rintro c d' ⟨howner, hsessions⟩
      refine ⟨hsessions.guarantee, fun t ht => ⟨howner, ?_⟩⟩
      exact ht.1.staged (hsessions.guarantee.1.staged hstaged)
    · exact fun _ d' hsessions => ⟨hsessions.guarantee, fun _ _ => trivial⟩
  apply hacquire.bind
  rintro c d₁ ⟨howner, hstaged⟩
  apply (under_setUp (h.set howner (.head _)) howner hstaged).bind
  rintro - d₂ ⟨hstaged, -⟩
  apply (under_setUp (h.set howner (.tail _ (.head _))) howner hstaged).bind
  rintro - d₃ ⟨hstaged, -⟩
  apply (under_setUp (h.set howner (.tail _ (.tail _ (.head _)))) howner hstaged).bind
  rintro - d₄ ⟨hstaged, hpath⟩
  apply (under_setUp (h.set_config howner role) howner hstaged).bind
  rintro - d₅ ⟨hstaged, hrole⟩
  apply under_mapErr
  apply under_runMigrator h howner _ _ hstaged
  · rw [hrole, hpath]
    rfl
  · rw [hrole]
    rfl

/-- **`migrate` next to others**: it succeeds only once the migration has been applied for
the role it was called with. -/
theorem under_migrate (h : cluster.Documented) {deadline : Option Nat}
    (hstaged : cluster.Staged start role d) :
    Under (cluster.processTerms start role i)
      (Stepwise.migrate (cluster.sqlx i) deadline store role)
      (fun _ d' => cluster.Migrated start role d') (fun _ _ => True) d := by
  have hstill : ∀ d, (cluster.processTerms start role i).guarantee d d :=
    fun d => ⟨.refl, fun _ _ => rfl⟩
  rw [Stepwise.migrate, Stepwise.diagnoseDatabase]
  apply under_bind
  apply under_ask hstill
  · intro version d₁ _ hrely
    apply under_bind
    apply under_within _ fun _ => trivial
    apply (under_migration h (hrely.1.staged hstaged)).mono _ fun _ _ _ => trivial
    intro _ d₂ hmigrated
    apply under_bind
    apply under_bind
    apply under_ask hstill
    · intro version' d₃ _ hrely
      apply under_bind
      apply under_ask hstill
      · intro schema d₄ _ hrely'
        split
        · exact under_throw trivial
        · exact under_pure (under_pure (hrely'.1.migrated (hrely.1.migrated hmigrated)))
      · exact fun _ _ _ _ => trivial
    · exact fun _ _ _ _ => trivial
  · exact fun _ _ _ _ => trivial

end Migrate

end Cluster

end WikiNext.Store.Migrations
