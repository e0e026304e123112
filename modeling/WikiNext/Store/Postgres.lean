import Mathlib.Data.List.Basic

/-!
# The PostgreSQL store

`crates/store/src/postgres.rs` without `migrate`: connecting and the two probes
behind `diagnose`. What the server and the driver answer is a parameter, fixed for
a given set of options.
-/

namespace WikiNext.Store

def DATABASE_SCHEMA_VERSION : Int := 1
def EXPECTED_POSTGRES_VERSION : String := "18.4"

/-- In seconds. -/
def PROBE_TIMEOUT : Nat := 5

structure DatabaseOptions where
  url : String
  max_connections : Nat
  acquire_timeout_ms : Nat
deriving DecidableEq, Repr

structure DatabaseStatus where
  server_version : String
  schema_version : Int
deriving DecidableEq, Repr

/-- `sqlx::Error` -/
inductive SqlxError where
  | mk (detail : String)
deriving DecidableEq, Repr

/-- `sqlx::migrate::MigrateError` -/
inductive MigrateError where
  | mk (detail : String)
deriving DecidableEq, Repr

inductive StoreError where
  | connect (source : SqlxError)
  | probe (source : SqlxError)
  | incompatibleServer (expected actual : String)
  | incompatibleSchema (expected actual : Int)
  | migration (source : MigrateError)
  | migrationSetup (source : SqlxError)
  | timeout (operation : String) (seconds : Nat)
deriving DecidableEq, Repr

/-- The `Display` text. -/
def StoreError.message : StoreError → String
  | .connect _ => "не удалось подключиться к PostgreSQL"
  | .probe _ => "проверка PostgreSQL завершилась ошибкой"
  | .incompatibleServer expected actual =>
      "ожидался PostgreSQL " ++ expected ++ ", получена версия " ++ actual
  | .incompatibleSchema expected actual =>
      "ожидалась схема БД версии " ++ toString expected ++ ", получена версия " ++ toString actual
  | .migration _ => "не удалось применить миграции PostgreSQL"
  | .migrationSetup _ => "не удалось настроить deadline миграции PostgreSQL"
  | .timeout operation seconds =>
      "операция PostgreSQL " ++ operation ++ " превысила deadline " ++ toString seconds ++ "s"

/-- What comes of one query under a deadline: nothing in time, an error, or a
row whose column decodes or not. -/
inductive QueryOutcome (α : Type) where
  | elapsed
  | failed (error : SqlxError)
  | row (column : Except SqlxError α)

/-- The server as the driver sees it. -/
structure PostgresServer where
  connect : DatabaseOptions → Except SqlxError Unit
  server_version : DatabaseOptions → QueryOutcome String
  schema_version : DatabaseOptions → QueryOutcome Int

/-- A pool is known by the options it was opened with. -/
structure PostgresStore where
  pool : DatabaseOptions
deriving DecidableEq, Repr

/-- `tokio::time::timeout(PROBE_TIMEOUT, ..fetch_one(..))` and `try_get`. -/
def readProbe {α : Type} (operation : String) : QueryOutcome α → Except StoreError α
  | .elapsed => .error (.timeout operation PROBE_TIMEOUT)
  | .failed error => .error (.probe error)
  | .row (.error error) => .error (.probe error)
  | .row (.ok value) => .ok value

/-- `is_expected_postgres_version` -/
def isExpectedPostgresVersion (actual : String) : Bool :=
  actual == EXPECTED_POSTGRES_VERSION ||
    (EXPECTED_POSTGRES_VERSION.toList.isPrefixOf actual.toList &&
      match actual.toList.drop EXPECTED_POSTGRES_VERSION.length with
      | first :: _ => first == ' ' || first == '.'
      | [] => false)

namespace PostgresStore

variable (server : PostgresServer)

/-- `PostgresStore::connect` -/
def connect (options : DatabaseOptions) : Except StoreError PostgresStore :=
  match server.connect options with
  | .error error => .error (.connect error)
  | .ok () => .ok { pool := options }

/-- `ensure_compatible_server` -/
def ensureCompatibleServer (store : PostgresStore) : Except StoreError String := do
  let server_version ← readProbe "server version probe" (server.server_version store.pool)
  if !isExpectedPostgresVersion server_version then
    .error (.incompatibleServer EXPECTED_POSTGRES_VERSION server_version)
  else .ok server_version

/-- `PostgresStore::diagnose` -/
def diagnose (store : PostgresStore) : Except StoreError DatabaseStatus := do
  let server_version ← store.ensureCompatibleServer server
  let schema_version ← readProbe "schema probe" (server.schema_version store.pool)
  if schema_version ≠ DATABASE_SCHEMA_VERSION then
    .error (.incompatibleSchema DATABASE_SCHEMA_VERSION schema_version)
  else .ok { server_version := server_version, schema_version := schema_version }

end PostgresStore

/-- The server has the version that is expected. -/
def Compatible (server : PostgresServer) (options : DatabaseOptions) : Prop :=
  ∃ version, PostgresStore.ensureCompatibleServer server ⟨options⟩ = .ok version

/-- The schema has the version that is expected. -/
def SchemaCurrent (server : PostgresServer) (options : DatabaseOptions) : Prop :=
  readProbe "schema probe" (server.schema_version options) = .ok DATABASE_SCHEMA_VERSION

/-- The database lets in who connects and asks now. -/
structure LetsIn (server : PostgresServer) (options : DatabaseOptions) : Prop where
  connect : PostgresStore.connect server options = .ok ⟨options⟩
  compatible : Compatible server options
  current : SchemaCurrent server options

example : isExpectedPostgresVersion "18.4 (Debian 18.4-1)" = true ∧
    isExpectedPostgresVersion "18.40" = false := by decide

end WikiNext.Store
