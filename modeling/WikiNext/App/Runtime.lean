import WikiNext.App.Config
import WikiNext.Foundation.Transition
import WikiNext.Search.Client
import WikiNext.Store.Postgres
import WikiNext.Store.Storage

/-!
# Runtime services

`crates/app/src/runtime.rs`: diagnostic reports, the services behind the
server with their two report caches, and the `doctor` command. Programs act on
a `World`; the database, the search server and their libraries are an
`External` that does not change.
-/

namespace WikiNext.App

open WikiNext.Foundation WikiNext.Core WikiNext.Store WikiNext.Search

/-! ## §1  Reports -/

inductive CheckStatus where
  | ok
  | error
deriving DecidableEq, Repr

structure DiagnosticCheck where
  component : String
  status : CheckStatus
  detail : String
deriving DecidableEq, Repr

namespace DiagnosticCheck

def success (component detail : String) : DiagnosticCheck := ⟨component, .ok, detail⟩
def failure (component detail : String) : DiagnosticCheck := ⟨component, .error, detail⟩

def isOk (check : DiagnosticCheck) : Bool := check.status == .ok

@[simp] theorem isOk_success (component detail : String) :
    (success component detail).isOk = true := rfl

@[simp] theorem isOk_failure (component detail : String) :
    (failure component detail).isOk = false := rfl

end DiagnosticCheck

structure DiagnosticReport where
  healthy : Bool
  checks : List DiagnosticCheck
deriving DecidableEq, Repr

/-- `DiagnosticReport::new` -/
def DiagnosticReport.new (checks : List DiagnosticCheck) : DiagnosticReport where
  healthy := checks.all DiagnosticCheck.isOk
  checks := checks

@[simp] theorem DiagnosticReport.healthy_new (checks : List DiagnosticCheck) :
    (DiagnosticReport.new checks).healthy = true ↔ ∀ check ∈ checks, check.isOk = true := by
  simp [DiagnosticReport.new, List.all_eq_true]

/-- The check that a result turns into. -/
def checkOf {ε α : Type} (component : String) (detail : α → String) (message : ε → String) :
    Except ε α → DiagnosticCheck
  | .ok a => .success component (detail a)
  | .error e => .failure component (message e)

theorem isOk_checkOf {ε α : Type} {component : String} {detail : α → String}
    {message : ε → String} {result : Except ε α} :
    (checkOf component detail message result).isOk = true ↔ ∃ a, result = .ok a := by
  cases result <;> simp [checkOf]

/-! ## §2  Services -/

inductive StartupError where
  | database (source : StoreError)
  | search (source : SearchError)
  | storage (source : StorageError)
deriving DecidableEq, Repr

/-- Everything outside the process but the tree. -/
structure External where
  postgres : PostgresServer
  urls : UrlCrate
  http : HttpCrate
  json : JsonCrate
  /-- how Rust writes a string with its `Debug` -/
  debug : String → String
  meilisearch : Meilisearch

def External.backend (external : External) : SearchBackend :=
  ⟨external.urls, external.json, external.meilisearch⟩

def DIAGNOSTIC_CACHE_TTL : Nat := 5 * 10 ^ 9

structure CachedReport where
  checked_at : Instant
  report : DiagnosticReport
deriving DecidableEq, Repr

/-- `CachedReport::fresh`; `elapsed` is zero before `checked_at`. -/
def CachedReport.fresh (cached : CachedReport) (now : Instant) : Bool :=
  now - cached.checked_at < DIAGNOSTIC_CACHE_TTL

structure AppServices where
  database : PostgresStore
  search : SearchClient
  storage : LocalStorage
  readiness_cache : Option CachedReport
  search_cache : Option CachedReport
deriving DecidableEq, Repr

/-- `database_options` -/
def databaseOptions (config : DatabaseConfig) : DatabaseOptions where
  url := config.url
  max_connections := config.max_connections
  acquire_timeout_ms := config.acquire_timeout_ms

/-- `build_search_client` -/
def buildSearchClient (external : External) (config : Config) : Except SearchError SearchClient :=
  SearchClient.new external.urls external.http config.search.url config.search.api_key.expose
    config.search.request_timeout_ms

section Program

variable (external : External) (machine : Machine Uuid)

/-- `AppServices::connect`. Both joined futures run to their end. -/
def AppServices.connect (config : Config) : EStateM StartupError World AppServices := do
  let search ← ofExcept ((buildSearchClient external config).mapError .search)
  let database := PostgresStore.connect external.postgres (databaseOptions config.database)
  let storage ← attempt (LocalStorage.prepare machine config.storage.data_dir)
  let database ← ofExcept (database.mapError .database)
  let _ ← ofExcept ((database.diagnose external.postgres).mapError .database)
  let storage ← ofExcept (storage.mapError .storage)
  pure {
    database := database
    search := search
    storage := storage
    readiness_cache := none
    search_cache := none }

/-- The report of one readiness probe. -/
def readinessReport (database : Except StoreError DatabaseStatus)
    (storage : Except StorageError StorageStatus) : DiagnosticReport :=
  .new [
    checkOf "postgresql" (fun _ => "PostgreSQL доступен")
      (fun _ => "PostgreSQL недоступен или несовместим") database,
    checkOf "storage" (fun _ => "локальное хранилище доступно")
      (fun _ => "локальное хранилище недоступно") storage]

/-- The report of one search probe. -/
def searchReport (search : Except SearchError SearchStatus) : DiagnosticReport :=
  .new [
    checkOf "meilisearch" (fun _ => "Meilisearch доступен")
      (fun _ => "Meilisearch недоступен или несовместим") search]

/-- The services and the tree, between two requests. -/
structure Running where
  services : AppServices
  world : World

/-- `AppServices::readiness` when nobody else asks: the freshness check is made
at `now`, a probe is complete at `finished`. -/
def AppServices.readiness (now finished : Instant) (running : Running) :
    DiagnosticReport × Running :=
  match running.services.readiness_cache.filter (·.fresh now) with
  | some cached => (cached.report, running)
  | none =>
      let database := running.services.database.diagnose external.postgres
      let (storage, world) := outcome (running.services.storage.diagnose machine) running.world
      let report := readinessReport database storage
      (report, {
        services := { running.services with
          readiness_cache := some { checked_at := finished, report := report } }
        world := world })

/-- `AppServices::search_status`, likewise. -/
def AppServices.searchStatus (now finished : Instant) (running : Running) :
    DiagnosticReport × Running :=
  match running.services.search_cache.filter (·.fresh now) with
  | some cached => (cached.report, running)
  | none =>
      let report := searchReport (running.services.search.diagnose external.backend)
      (report, { running with
        services := { running.services with
          search_cache := some { checked_at := finished, report := report } } })

/-! ## §3  `doctor` -/

/-- The storage part of `run_doctor`. -/
def doctorStorage (config : Config) : EStateM StorageError World StorageStatus := do
  let storage ← LocalStorage.prepare machine config.storage.data_dir
  storage.status machine

/-- The database part of `run_doctor`. -/
def doctorDatabase (config : Config) : Except StoreError DatabaseStatus := do
  let database ← PostgresStore.connect external.postgres (databaseOptions config.database)
  database.diagnose external.postgres

/-- The search part of `run_doctor`. -/
def doctorSearch (config : Config) : Except SearchError SearchStatus := do
  let search ← buildSearchClient external config
  search.diagnose external.backend

/-- `run_doctor`. All three joined futures run to their end. -/
def runDoctor (config : Config) (world : World) : DiagnosticReport × World :=
  let database := doctorDatabase external config
  let search := doctorSearch external config
  let (storage, world) := outcome (doctorStorage machine config) world
  (.new [
    checkOf "postgresql" (fun status : DatabaseStatus =>
      "PostgreSQL " ++ status.server_version ++ ", схема " ++ toString status.schema_version)
      StoreError.message database,
    checkOf "meilisearch" (fun status : SearchStatus =>
      "Meilisearch " ++ status.version ++ " доступен") (SearchError.message external.debug) search,
    checkOf "storage" (fun status : StorageStatus =>
      "каталог " ++ String.ofList status.root.text ++ " доступен") StorageError.message storage],
    world)

end Program

end WikiNext.App
