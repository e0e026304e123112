import WikiNext.App.Runtime
import WikiNext.Store.PostgresSteps
import WikiNext.Store.StorageSteps

/-!
# The runtime services call by call

`AppServices::connect`, `readiness`, `search_status`, `migrate` and `run_doctor`, cut
before each query, request and system call, with the futures of every `join!` in
any order. The database, the search server and the tree may change between two
calls. With nobody else around, each is the program it was.

§1 the database and the search server, §2 the services, §3 alone.
-/

namespace WikiNext.App

open WikiNext.Foundation WikiNext.Core WikiNext.Store WikiNext.Search

namespace Stepwise

variable {δ ε : Type}

/-! ## §1  The database and the search server -/

/-- `migrate` -/
def migrate (sqlx : Sqlx δ) (deadline : Option Nat) (config : MigrationConfig) :
    Steps StartupError δ Unit := do
  let options : DatabaseOptions := {
    url := config.migration_url.expose
    max_connections := config.database.max_connections
    acquire_timeout_ms := config.database.acquire_timeout_ms }
  let database ← .mapErr .database (Store.Stepwise.connectDatabase sqlx.server options)
  .mapErr .database (Store.Stepwise.migrate sqlx deadline database config.application_role)

/-- The database part of `run_doctor`. -/
def doctorDatabase (postgres : δ → PostgresServer) (config : Config) :
    Steps StoreError δ DatabaseStatus := do
  let database ← Store.Stepwise.connectDatabase postgres (databaseOptions config.database)
  Store.Stepwise.diagnoseDatabase postgres database

section Search

variable (external : External)

/-- The search server is this one now. -/
def backend (replies : Meilisearch) : SearchBackend := ⟨external.urls, external.json, replies⟩

/-- `SearchClient::diagnose` -/
def diagnoseSearch (client : SearchClient) : Steps SearchError Meilisearch SearchStatus := do
  let status ← .ask fun m => client.getJson (backend external m) "health" "status"
  if status ≠ "available" then throw (.unhealthy status)
  else do
    let version ← .ask fun m => client.getJson (backend external m) "version" "pkgVersion"
    if version ≠ EXPECTED_MEILISEARCH_VERSION then
      throw (.incompatibleVersion EXPECTED_MEILISEARCH_VERSION version)
    else pure { version := version }

/-- The search part of `run_doctor`. -/
def doctorSearch (config : Config) : Steps SearchError Meilisearch SearchStatus := do
  let search ← MonadExcept.ofExcept (buildSearchClient external config)
  diagnoseSearch external search

end Search

/-! ## §2  The services -/

/-- What the commands call: the database, the search server, and the tree. -/
abbrev Outside (δ : Type) : Type := (δ × Meilisearch) × World

section Program

variable (postgres : δ → PostgresServer) (external : External) (machine : Machine Uuid)

/-- `AppServices::connect` -/
def connect (order : List Bool) (config : Config) : Steps StartupError (Outside δ) AppServices := do
  let search ← MonadExcept.ofExcept ((buildSearchClient external config).mapError .search)
  let (database, storage) ← .await (Script.both order
    (Steps.first (Store.Stepwise.connectDatabase postgres (databaseOptions config.database))).run
    (Store.Stepwise.prepare machine config.storage.data_dir).run)
  let database ← MonadExcept.ofExcept (database.mapError .database)
  let _ ← .mapErr .database
    (Steps.first (Steps.first (Store.Stepwise.diagnoseDatabase postgres database)))
  let storage ← MonadExcept.ofExcept (storage.mapError .storage)
  pure {
    database := database
    search := search
    storage := storage
    readiness_cache := none
    search_cache := none }

/-- The probe of `AppServices::readiness`. -/
def readiness (order : List Bool) (services : AppServices) :
    Steps ε (Outside δ) DiagnosticReport := do
  let (database, storage) ← .await (Script.both order
    (Steps.first (Store.Stepwise.diagnoseDatabase postgres services.database)).run
    (Store.Stepwise.diagnose machine services.storage).run)
  pure (readinessReport database storage)

/-- The probe of `AppServices::search_status`. -/
def searchStatus (services : AppServices) : Steps ε (Outside δ) DiagnosticReport := do
  let search ← .attempt (Steps.first (Steps.second (diagnoseSearch external services.search)))
  pure (searchReport search)

/-- The storage part of `run_doctor`. -/
def doctorStorage (config : Config) : Steps StorageError World StorageStatus := do
  let storage ← Store.Stepwise.prepare machine config.storage.data_dir
  Store.Stepwise.status machine storage

/-- `run_doctor`; `order` is about the database and the search server, `order'` about
these two and the storage. -/
def runDoctor (order order' : List Bool) (config : Config) :
    Steps ε (Outside δ) DiagnosticReport := do
  let ((database, search), storage) ← .await (Script.both order'
    (Script.both order (doctorDatabase postgres config).run (doctorSearch external config).run)
    (doctorStorage machine config).run)
  pure (.new [
    checkOf "postgresql" (fun status : DatabaseStatus =>
      "PostgreSQL " ++ status.server_version ++ ", схема " ++ toString status.schema_version)
      StoreError.message database,
    checkOf "meilisearch" (fun status : SearchStatus =>
      "Meilisearch " ++ status.version ++ " доступен") (SearchError.message external.debug) search,
    checkOf "storage" (fun status : StorageStatus =>
      "каталог " ++ String.ofList status.root.text ++ " доступен") StorageError.message storage])

/-- What a running server is asked. -/
inductive Asked where
  | readiness (order : List Bool)
  | search

/-- A report that is made afresh. -/
def answer (services : AppServices) : Asked → Steps ε (Outside δ) DiagnosticReport
  | .readiness order => readiness postgres machine order services
  | .search => searchStatus external services

/-- One probe after the other. -/
def reports (services : AppServices) : List Asked → Steps ε (Outside δ) (List DiagnosticReport)
  | [] => pure []
  | asked :: later => do
      let report ← answer postgres external machine services asked
      let reports ← reports services later
      pure (report :: reports)

end Program

/-! ## §3  Alone -/

section Alone

variable (postgres : δ → PostgresServer) (external : External) (machine : Machine Uuid)
  {d : δ} {replies : Meilisearch} {w : World}

/-- The libraries, and the servers as they are now. -/
def now (d : δ) (replies : Meilisearch) : External :=
  { external with postgres := postgres d, meilisearch := replies }

theorem looks_doctorDatabase (replies : Meilisearch) (config : Config) :
    (doctorDatabase postgres config).Looks fun d =>
      App.doctorDatabase (now postgres external d replies) config :=
  (Steps.looks_ask _).bind fun database => Store.Stepwise.looks_diagnoseDatabase postgres database

theorem looks_diagnoseSearch (client : SearchClient) :
    (diagnoseSearch external client).Looks fun m => client.diagnose (backend external m) := by
  refine (Steps.looks_ask _).bind fun status => (Steps.looks_ofExcept (.error _)).ite ?_
  refine (Steps.looks_ask _).bind fun version => ?_
  exact (Steps.looks_ofExcept (.error _)).ite (Steps.looks_ofExcept (.ok _))

theorem looks_doctorSearch (d : δ) (config : Config) :
    (doctorSearch external config).Looks fun m =>
      App.doctorSearch (now postgres external d m) config :=
  (Steps.looks_ofExcept _).bind fun client => looks_diagnoseSearch external client

theorem alone_doctorStorage (config : Config) :
    (doctorStorage machine config).alone = App.doctorStorage machine config := by
  simp only [doctorStorage, App.doctorStorage, Steps.alone_bind, Store.Stepwise.alone_prepare,
    Store.Stepwise.alone_status]

/-- **`run_doctor` alone**, in any order of its calls. -/
theorem alone_runDoctor (order order' : List Bool) (config : Config) (w : World) :
    outcome (runDoctor postgres external machine order order' config :
        Steps ε (Outside δ) DiagnosticReport).alone ((d, replies), w) =
      let (report, w') := App.runDoctor (now postgres external d replies) machine config w
      (.ok report, (d, replies), w') := by
  have hdatabase := looks_doctorDatabase postgres external replies config d
  have hsearch := looks_doctorSearch postgres external d config replies
  have hstorage := congrArg (outcome · w) (alone_doctorStorage machine config)
  simp only [Steps.outcome_alone] at hdatabase hsearch hstorage
  simp only [runDoctor, Steps.alone_bind, outcome_bind, Steps.outcome_alone_await,
    Script.run_both, hdatabase, hsearch, hstorage]
  rfl

/-- **`AppServices::connect` alone**, in any order of its calls. -/
theorem alone_connect (order : List Bool) (config : Config) (w : World) :
    outcome (connect postgres external machine order config).alone ((d, replies), w) =
      let (result, w') :=
        outcome (AppServices.connect (now postgres external d replies) machine config) w
      (result, (d, replies), w') := by
  have hconnect : ∀ options,
      Script.run (Steps.first (Store.Stepwise.connectDatabase postgres options)).run (d, replies) = (PostgresStore.connect (postgres d) options, d, replies) := by
    intro options
    rw [← Steps.outcome_alone, Steps.outcome_alone_first, Store.Stepwise.connectDatabase,
      Steps.looks_ask]
  have hprobe : ∀ store, outcome (Steps.first
      (Steps.first (Store.Stepwise.diagnoseDatabase postgres store) :
      Steps StoreError (δ × Meilisearch) DatabaseStatus)).alone = fun s : Outside δ =>
        (store.diagnose (postgres s.1.1), s) := by
    intro store
    funext s
    rw [Steps.outcome_alone_first, Steps.outcome_alone_first, Store.Stepwise.looks_diagnoseDatabase]
  have hstorage := congrArg (outcome · w)
    (Store.Stepwise.alone_prepare machine config.storage.data_dir)
  simp only [Steps.outcome_alone] at hstorage
  simp only [connect, AppServices.connect, Steps.alone_bind, Steps.alone_ofExcept,
    Steps.alone_mapErr, Steps.alone_pure, outcome_bind, outcome_ofExcept, outcome_mapErr,
    outcome_attempt, outcome_pure, Steps.outcome_alone_await, Script.run_both, hprobe]
  have hclient : buildSearchClient (now postgres external d replies) config =
    buildSearchClient external config := rfl
  rw [hclient]
  cases (buildSearchClient external config).mapError StartupError.search with
  | error e => rfl
  | ok search =>
      simp only [hconnect, hstorage]
      have hserver : (now postgres external d replies).postgres = postgres d := rfl
      rw [hserver]
      cases (PostgresStore.connect (postgres d) (databaseOptions config.database)).mapError
          StartupError.database with
      | error e => rfl
      | ok database =>
          simp only
          cases (database.diagnose (postgres d)).mapError StartupError.database with
          | error e => rfl
          | ok status =>
              simp only
              cases (outcome (LocalStorage.prepare machine config.storage.data_dir) w).1.mapError
                StartupError.storage <;> rfl

/-- **A readiness probe alone** makes the report that the service makes afresh. -/
theorem alone_readiness (order : List Bool) (running : Running) (time finished : Instant)
    (hstale : running.services.readiness_cache.filter (·.fresh time) = none) :
    outcome (readiness postgres machine order running.services :
        Steps ε (Outside δ) DiagnosticReport).alone ((d, replies), running.world) =
      let (report, running') := AppServices.readiness (now postgres external d replies) machine
        time finished running
      (.ok report, (d, replies), running'.world) := by
  have hdatabase : Script.run (Steps.first (Store.Stepwise.diagnoseDatabase postgres
      running.services.database)).run (d, replies) =
        (running.services.database.diagnose (postgres d), d, replies) := by
    rw [← Steps.outcome_alone, Steps.outcome_alone_first, Store.Stepwise.looks_diagnoseDatabase]
  have hstorage := congrArg (outcome · running.world)
    (Store.Stepwise.alone_diagnose machine running.services.storage)
  simp only [Steps.outcome_alone] at hstorage
  simp only [readiness, AppServices.readiness, hstale, Steps.alone_bind, Steps.alone_pure,
    outcome_bind, outcome_pure, Steps.outcome_alone_await, Script.run_both, hdatabase, hstorage]
  rfl

/-- A search probe alone makes the report that the service makes afresh. -/
theorem alone_searchStatus (running : Running) (time finished : Instant)
    (hstale : running.services.search_cache.filter (·.fresh time) = none) :
    outcome (searchStatus external running.services :
        Steps ε (Outside δ) DiagnosticReport).alone ((d, replies), running.world) =
      let (report, running') := AppServices.searchStatus (now postgres external d replies)
        time finished running
      (.ok report, (d, replies), running'.world) := by
  have hprobe : outcome (Steps.first (Steps.second (diagnoseSearch external
      running.services.search) : Steps SearchError (δ × Meilisearch) SearchStatus) :
        Steps SearchError (Outside δ) SearchStatus).alone ((d, replies), running.world) =
      (running.services.search.diagnose (backend external replies), (d, replies),
        running.world) := by
    rw [Steps.outcome_alone_first, Steps.outcome_alone_second, looks_diagnoseSearch]
  simp only [searchStatus, AppServices.searchStatus, hstale, Steps.alone_bind, Steps.alone_attempt,
    Steps.alone_pure, outcome_bind, outcome_attempt, outcome_pure, hprobe]
  rfl

end Alone

end Stepwise

end WikiNext.App
