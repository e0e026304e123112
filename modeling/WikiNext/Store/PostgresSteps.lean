import WikiNext.Foundation.Joining
import WikiNext.Store.Postgres

/-!
# The PostgreSQL store call by call

`crates/store/src/postgres.rs` cut before each call of `sqlx`: connecting, the two
probes, and `migrate`. What the database is, how it answers and how it changes
is a parameter; so is the migrator, which makes calls of its own.

§1 `sqlx`, §2 connecting and `diagnose`, §3 `migrate`, §4 alone.
-/

namespace WikiNext.Store

open WikiNext.Foundation

/-! ## §1  `sqlx` -/

/-- A connection out of a pool. -/
structure Connection where
  id : Nat
deriving DecidableEq, Repr

/-- `sqlx::query(text)` with what is bound to it. -/
structure Query where
  text : String
  arguments : List String
deriving DecidableEq, Repr

/-- `sqlx` and the database behind it, whose states are `δ`. -/
structure Sqlx (δ : Type) where
  /-- how it answers while it stays as it is -/
  server : δ → PostgresServer
  /-- `pool.acquire()` -/
  acquire : DatabaseOptions → EStateM SqlxError δ Connection
  /-- `query.execute(&mut *connection)` -/
  execute : Connection → Query → EStateM SqlxError δ Unit
  /-- `MIGRATOR.run(&mut *connection)` -/
  runMigrator : Connection → Steps MigrateError δ Unit

namespace Stepwise

variable {δ : Type}

/-! ## §2  Connecting and `diagnose` -/

section Probes

variable (server : δ → PostgresServer)

/-- `PostgresStore::connect` -/
def connectDatabase (options : DatabaseOptions) : Steps StoreError δ PostgresStore :=
  .ask fun d => PostgresStore.connect (server d) options

/-- `PostgresStore::diagnose` -/
def diagnoseDatabase (store : PostgresStore) : Steps StoreError δ DatabaseStatus := do
  let server_version ← .ask fun d => store.ensureCompatibleServer (server d)
  let schema_version ← .ask fun d =>
    readProbe "schema probe" ((server d).schema_version store.pool)
  if schema_version ≠ DATABASE_SCHEMA_VERSION then
    throw (.incompatibleSchema DATABASE_SCHEMA_VERSION schema_version)
  else pure { server_version := server_version, schema_version := schema_version }

end Probes

/-! ## §3  `migrate` -/

/-- In seconds. -/
def MIGRATION_TIMEOUT : Nat := 300

section Migrate

variable (sqlx : Sqlx δ)

/-- `query.execute(&mut *connection).await.map_err(StoreError::MigrationSetup)?` -/
def setUp (connection : Connection) (query : Query) : Steps StoreError δ Unit :=
  .mapErr .migrationSetup (.call (sqlx.execute connection query))

/-- The future that has the deadline. -/
def migration (store : PostgresStore) (application_role : String) : Steps StoreError δ Unit := do
  let connection ← .mapErr .migrationSetup (.call (sqlx.acquire store.pool))
  setUp sqlx connection ⟨"SET lock_timeout = '10s'", []⟩
  setUp sqlx connection ⟨"SET statement_timeout = '5min'", []⟩
  setUp sqlx connection ⟨"SET search_path = public", []⟩
  setUp sqlx connection
    ⟨"SELECT set_config('wikinext.application_role', $1, false)", [application_role]⟩
  .mapErr .migration (sqlx.runMigrator connection)

/-- `PostgresStore::migrate`. `deadline` says after how many calls the deadline
passes, if it does. -/
def migrate (deadline : Option Nat) (store : PostgresStore) (application_role : String) :
    Steps StoreError δ Unit := do
  let _ ← .ask fun d => store.ensureCompatibleServer (sqlx.server d)
  .within deadline (.timeout "migration" MIGRATION_TIMEOUT) (migration sqlx store application_role)
  let _ ← diagnoseDatabase sqlx.server store
  pure ()

end Migrate

/-! ## §4  Alone -/

section Alone

variable (server : δ → PostgresServer)

theorem looks_diagnoseDatabase (store : PostgresStore) :
    (diagnoseDatabase server store).Looks fun d => store.diagnose (server d) := by
  refine (Steps.looks_ask _).bind fun version => (Steps.looks_ask _).bind fun schema => ?_
  exact (Steps.looks_ofExcept (.error _)).ite (Steps.looks_ofExcept (.ok _))

end Alone

end Stepwise

end WikiNext.Store
