import WikiNext.App.RuntimeSteps
import WikiNext.Server.HealthEndpoints
import WikiNext.Server.Shutdown

/-!
# The command line

`crates/server/src/main.rs`: the three commands, what they print and log and how
they end, with `init_tracing` and `serve` of `crates/server/src/lib.rs`. A command
acts on a `Process`; the libraries, the database and what happens to a server
once it runs are a `Host`.

§1 errors, §2 the log, §3 the process, §4 a running server, §5 the commands,
§6 what they come to.
-/

namespace WikiNext.Server

open WikiNext.Foundation WikiNext.Core WikiNext.App WikiNext.Store WikiNext.Search

/-! ## §1  Errors -/

inductive TelemetryError where
  | filter (detail : String)
  | alreadyInitialized
deriving DecidableEq, Repr

inductive CliError where
  | config (source : ConfigError)
  | telemetry (source : TelemetryError)
  | startup (source : StartupError)
  | server (source : Shutdown.ServerError)
  | serialize (detail : String)
  | doctorFailed
deriving DecidableEq, Repr

/-- The `Display` text; what a library says about its failure is no part of it. -/
def configMessage : ConfigError → String
  | .read path _ => "не удалось прочитать конфигурацию " ++ path
  | .tooLarge path limit =>
      "конфигурация " ++ path ++ " превышает предел " ++ toString limit ++ " байт"
  | .parse _ => "не удалось разобрать конфигурацию"
  | .environment key => "некорректная переменная окружения " ++ key
  | .forbiddenEnvironment key =>
      "переменная окружения " ++ key ++ " разрешена только для команды migrate"
  | .ambientPostgresEnvironment key =>
      "переменная окружения " ++ key ++ " может неявно изменить PostgreSQL DSN; " ++
        "используйте только WIKINEXT_DATABASE_URL"
  | .validation field reason => "некорректное поле конфигурации " ++ field ++ ": " ++ reason

def TelemetryError.message : TelemetryError → String
  | .filter _ => "некорректный фильтр логов"
  | .alreadyInitialized => "логирование уже инициализировано"

def startupMessage (debug : String → String) : StartupError → String
  | .database source => source.message
  | .search source => source.message debug
  | .storage source => source.message

/-- The `Debug` text of a duration of whole seconds. -/
def secondsText (seconds : Nat) : String :=
  if seconds = 0 then "0ns" else toString seconds ++ "s"

def serverMessage : Shutdown.ServerError → String
  | .bind _ => "не удалось открыть HTTP-сокет"
  | .serve _ => "HTTP-сервер завершился с ошибкой"
  | .shutdownTimeout limit =>
      "graceful shutdown превысил лимит " ++ secondsText (limit / 10 ^ 9)

def CliError.message (debug : String → String) : CliError → String
  | .config source => configMessage source
  | .telemetry source => source.message
  | .startup source => startupMessage debug source
  | .server source => serverMessage source
  | .serialize _ => "не удалось сериализовать диагностический отчёт"
  | .doctorFailed => "doctor обнаружил ошибки"

/-! ## §2  The log -/

inductive Level where
  | error
  | warn
  | info
deriving DecidableEq, Repr

/-- An event that this program logs. -/
structure LogEvent where
  level : Level
  target : String
  fields : List (String × String)
  message : String
deriving DecidableEq, Repr

/-- The global subscriber: its format, and what its filter lets through. -/
structure Subscriber where
  format : LogFormat
  passes : LogEvent → Bool

/-- What goes to the standard output. -/
inductive Output where
  | line (text : String)
  | logged (format : LogFormat) (event : LogEvent)
deriving DecidableEq, Repr

/-- `fmt()` writes to the standard output. -/
def Subscriber.write (subscriber : Subscriber) (event : LogEvent) : List Output :=
  if subscriber.passes event then [.logged subscriber.format event] else []

/-- `error!(%error, ..)` in `main` -/
def commandFailed (error : String) : LogEvent where
  level := .error
  target := "wikinext"
  fields := [("error", error)]
  message := "команда завершилась с ошибкой"

/-- `info!(..)` after `migrate` -/
def migrationsApplied : LogEvent where
  level := .info
  target := "wikinext"
  fields := []
  message := "миграции успешно применены"

/-- `info!(address = %local_address, ..)` in `serve` -/
def serverStarted (local_address : String) : LogEvent where
  level := .info
  target := "wikinext_server"
  fields := [("address", local_address)]
  message := "HTTP-сервер запущен"

/-- `warn!(?shutdown_timeout, ..)` in `serve` -/
def shutdownForced (shutdown_timeout : String) : LogEvent where
  level := .warn
  target := "wikinext_server"
  fields := [("shutdown_timeout", shutdown_timeout)]
  message := "принудительное завершение после истечения deadline"

/-- `warn!(%error, ..)` in `wait_for_shutdown_signal` -/
def handlerFailed (signal : Shutdown.Signal) (error : String) : LogEvent where
  level := .warn
  target := "wikinext_server"
  fields := [("error", error)]
  message :=
    match signal with
    | .interrupt => "не удалось установить обработчик Ctrl+C"
    | .terminate => "не удалось установить обработчик SIGTERM"

/-- `info!(..)` at the end of `wait_for_shutdown_signal` -/
def signalReceived : LogEvent where
  level := .info
  target := "wikinext_server"
  fields := []
  message := "получен сигнал завершения"

/-- `warn!(%error, ..)` when a probe fails -/
def probeFailed (message error : String) : LogEvent where
  level := .warn
  target := "wikinext_app::runtime"
  fields := [("error", error)]
  message := message

/-! ## §3  The process -/

inductive Command where
  | serve
  | migrate
  | doctor (json : Bool)
deriving DecidableEq, Repr

structure Cli where
  config : String
  command : Command
deriving DecidableEq, Repr

/-- The arguments of `wikinext_server::serve`. -/
structure Serving where
  bind : SocketAddr
  services : AppServices
  request_timeout_ms : Nat
  shutdown_timeout_seconds : Nat
deriving DecidableEq, Repr

structure Process (δ : Type) where
  /-- the global subscriber -/
  subscriber : Option Subscriber
  /-- What this program writes to its standard output; what its libraries log goes
  there too, and is left out. -/
  written : List Output
  /-- what is served, once there is a socket -/
  serving : Option Serving
  /-- the reports of the two status endpoints -/
  answered : List DiagnosticReport
  database : δ
  world : World

/-- A process that has just been started. -/
def Process.fresh {δ : Type} (database : δ) (world : World) : Process δ where
  subscriber := none
  written := []
  serving := none
  answered := []
  database := database
  world := world

/-- `TcpListener` -/
structure TcpListener where
  id : Nat
deriving DecidableEq, Repr

structure Network where
  /-- `TcpListener::bind` -/
  bind : SocketAddr → Except String TcpListener
  localAddr : TcpListener → Except String SocketAddr
  /-- how an address is displayed -/
  display : SocketAddr → String

/-- A socket, and the address it got. -/
def openSocket (network : Network) (address : SocketAddr) :
    Except Shutdown.ServerError SocketAddr := do
  let listener ← (network.bind address).mapError .bind
  (network.localAddr listener).mapError .bind

/-- A request for a status: when its freshness check is made, and when its probe is
complete if there is one. -/
structure StatusRequest where
  operation : Operation
  now : Instant
  finished : Instant

/-- What happens to a running server. -/
inductive Happening where
  | asked (request : StatusRequest)
  | handlerFailed (signal : Shutdown.Signal) (error : String)
  | notified

/-- Which branch of the last `select!` in `serve` is complete first. -/
inductive Ending where
  | finished (result : Except String Unit)
  | elapsed

structure Host (δ : Type) where
  toml : TomlCrate
  files : Files
  env : Environment
  /-- `EnvFilter::try_new`, and which events the filter lets through -/
  filter : String → Except String (LogEvent → Bool)
  /-- `serde_json::to_string_pretty` -/
  pretty : DiagnosticReport → Except String String
  /-- the libraries and the search server -/
  external : External
  sqlx : Sqlx δ
  machine : Machine Uuid
  network : Network
  /-- after how many calls the deadline of a migration passes -/
  deadline : Option Nat
  /-- what happens to the server once it runs, and how that ends -/
  life : List Happening
  ending : Ending

/-- The libraries and the servers, with the database as it is. -/
def Host.now {δ : Type} (host : Host δ) (d : δ) : External :=
  { host.external with postgres := host.sqlx.server d }

section Steps

variable {δ ε α : Type} {process : Process δ} {world : World}

/-- A step on the tree. -/
def onWorld (m : EStateM ε World α) : EStateM ε (Process δ) α := fun process =>
  match m process.world with
  | .ok a world => .ok a { process with world := world }
  | .error e world => .error e { process with world := world }

/-- A step on the database. -/
def onDatabase (m : EStateM ε δ α) : EStateM ε (Process δ) α := fun process =>
  match m process.database with
  | .ok a d => .ok a { process with database := d }
  | .error e d => .error e { process with database := d }

def Process.write (process : Process δ) (output : List Output) : Process δ :=
  { process with written := process.written ++ output }

/-- What the subscriber makes of an event, if there is one. -/
def Process.log (process : Process δ) (event : LogEvent) : Process δ :=
  match process.subscriber with
  | none => process
  | some subscriber => process.write (subscriber.write event)

def println (text : String) : EStateM ε (Process δ) Unit :=
  modify fun process => process.write [.line text]

def log (event : LogEvent) : EStateM ε (Process δ) Unit :=
  modify fun process => process.log event

theorem onWorld_of_ok {m : EStateM ε World α} {a : α} (h : m process.world = .ok a world) :
    onWorld m process = .ok a { process with world := world } := by
  simp only [onWorld, h]

theorem onWorld_of_error {m : EStateM ε World α} {e : ε} (h : m process.world = .error e world) :
    onWorld m process = .error e { process with world := world } := by
  simp only [onWorld, h]

theorem forM_println (line : α → String) (xs : List α) :
    ∀ process : Process δ,
      (xs.forM fun x => println (line x) : EStateM ε (Process δ) PUnit) process =
        .ok ⟨⟩ (process.write (xs.map fun x => .line (line x))) := by
  induction xs with
  | nil =>
      intro process
      rw [List.map_nil, Process.write, List.append_nil]
      rfl
  | cons x xs ih =>
      intro process
      refine (bind_run_of_ok rfl).trans ((ih _).trans ?_)
      simp [Process.write]

end Steps

/-! ## §4  A running server -/

section Running

/-- `readiness` or `search_status` of the services. -/
def giveStatus (external : External) (machine : Machine Uuid) (request : StatusRequest) :
    Running → DiagnosticReport × Running :=
  match request.operation with
  | .readiness => AppServices.readiness external machine request.now request.finished
  | .searchStatus => AppServices.searchStatus external request.now request.finished

/-- The event of a probe that came to this. -/
def probeEvents {ε α : Type} (message : String) (text : ε → String) : Except ε α → List LogEvent
  | .ok _ => []
  | .error error => [probeFailed message (text error)]

/-- What is logged while a status is found out. -/
def statusEvents (external : External) (machine : Machine Uuid) (request : StatusRequest)
    (running : Running) : List LogEvent :=
  match request.operation with
  | .readiness =>
      match running.services.readiness_cache.filter (·.fresh request.now) with
      | some _ => []
      | none =>
          probeEvents "readiness: PostgreSQL недоступен" StoreError.message
              (running.services.database.diagnose external.postgres) ++
            probeEvents "readiness: локальное хранилище недоступно" StorageError.message
              (outcome (running.services.storage.diagnose machine) running.world).1
  | .searchStatus =>
      match running.services.search_cache.filter (·.fresh request.now) with
      | some _ => []
      | none =>
          probeEvents "status: Meilisearch недоступен" (SearchError.message external.debug)
            (running.services.search.diagnose external.backend)

variable {δ ε : Type} (host : Host δ)

/-- A status request is answered. -/
def answerStatus (request : StatusRequest) (services : AppServices) :
    EStateM ε (Process δ) AppServices := do
  let process ← get
  let external := host.now process.database
  let running : Running := { services := services, world := process.world }
  (statusEvents external host.machine request running).forM log
  let (report, running) := giveStatus external host.machine request running
  modify fun process => { process with
    world := running.world
    answered := process.answered ++ [report] }
  pure running.services

/-- From one happening to the next. -/
def live : List Happening → AppServices → EStateM ε (Process δ) AppServices
  | [], services => pure services
  | .asked request :: later, services => do
      let services ← answerStatus host request services
      live later services
  | .handlerFailed signal error :: later, services => do
      log (handlerFailed signal error)
      live later services
  | .notified :: later, services => do
      log signalReceived
      live later services

/-- `wikinext_server::serve` -/
def serve (serving : Serving) : EStateM Shutdown.ServerError (Process δ) Unit := do
  let local_address ← ofExcept (openSocket host.network serving.bind)
  log (serverStarted (host.network.display local_address))
  modify fun process => { process with serving := some serving }
  let _ ← live host host.life serving.services
  match host.ending with
  | .finished result => ofExcept (result.mapError .serve)
  | .elapsed => do
      log (shutdownForced (secondsText serving.shutdown_timeout_seconds))
      throw (.shutdownTimeout (serving.shutdown_timeout_seconds * 10 ^ 9))

end Running

/-! ## §5  The commands -/

section Commands

variable {δ : Type} (host : Host δ)

/-- `init_tracing` -/
def initTracing (config : ObservabilityConfig) : EStateM TelemetryError (Process δ) Unit := do
  let passes ← ofExcept ((host.filter config.filter).mapError .filter)
  let process ← get
  if process.subscriber.isSome then throw .alreadyInitialized
  else set { process with subscriber := some { format := config.format, passes := passes } }

/-- The line for one check. -/
def checkLine (check : DiagnosticCheck) : String :=
  let marker := if check.isOk then "OK" else "ОШИБКА"
  "[" ++ marker ++ "] " ++ check.component ++ ": " ++ check.detail

/-- `run` -/
def run (cli : Cli) : EStateM CliError (Process δ) Unit := do
  match cli.command with
  | .serve =>
      let config ← ofExcept ((Config.load host.toml host.external.urls host.files host.env
        cli.config).mapError .config)
      mapErr .telemetry (initTracing host config.observability)
      let process ← get
      let services ← onWorld (mapErr .startup
        (AppServices.connect (host.now process.database) host.machine config))
      mapErr .server (serve host {
        bind := config.server.bind
        services := services
        request_timeout_ms := config.server.request_timeout_ms
        shutdown_timeout_seconds := config.server.shutdown_timeout_seconds })
  | .migrate =>
      let config ← ofExcept ((MigrationConfig.load host.toml host.external.urls host.files
        host.env cli.config).mapError .config)
      mapErr .telemetry (initTracing host config.observability)
      onDatabase (mapErr .startup (App.Stepwise.migrate host.sqlx host.deadline config).alone)
      log migrationsApplied
  | .doctor json =>
      let config ← ofExcept ((Config.load host.toml host.external.urls host.files host.env
        cli.config).mapError .config)
      mapErr .telemetry (initTracing host config.observability)
      let process ← get
      let report ← onWorld (modifyGet (runDoctor (host.now process.database) host.machine config))
      if json then
        let text ← ofExcept ((host.pretty report).mapError .serialize)
        println text
      else
        report.checks.forM fun check => println (checkLine check)
      if !report.healthy then throw .doctorFailed

inductive ExitCode where
  | success
  | failure
deriving DecidableEq, Repr

/-- How a process ended: its exit code, what it wrote to the standard error, and
what it left. -/
structure Ended (δ : Type) where
  code : ExitCode
  stderr : List String
  process : Process δ

/-- `main` -/
def main (cli : Cli) (database : δ) (world : World) : Ended δ :=
  match run host cli (.fresh database world) with
  | .ok () process => { code := .success, stderr := [], process := process }
  | .error error process => {
      code := .failure
      stderr := ["Ошибка: " ++ error.message host.external.debug]
      process := process.log (commandFailed (error.message host.external.debug)) }

end Commands

/-! ## §6  What they come to -/

section Outcomes

variable {δ : Type} {host : Host δ} {path : String} {config : Config} {d : δ}
  {world world' : World}

theorem main_of_ok {cli : Cli} {process : Process δ}
    (h : run host cli (.fresh d world) = .ok () process) :
    main host cli d world = ⟨.success, [], process⟩ := by
  rw [main, h]

theorem main_of_error {cli : Cli} {error : CliError} {process : Process δ}
    (h : run host cli (.fresh d world) = .error error process) :
    main host cli d world = ⟨.failure, ["Ошибка: " ++ error.message host.external.debug],
      process.log (commandFailed (error.message host.external.debug))⟩ := by
  rw [main, h]

/-- Configuration and logging are in order. -/
structure Configured (host : Host δ) (path : String) (config : Config)
    (passes : LogEvent → Bool) : Prop where
  load : Config.load host.toml host.external.urls host.files host.env path = .ok config
  filter : host.filter config.observability.filter = .ok passes

/-- The subscriber of such a process. -/
def subscriberOf (config : Config) (passes : LogEvent → Bool) : Subscriber where
  format := config.observability.format
  passes := passes

/-- A process after these first two steps. -/
def configuredProcess (config : Config) (passes : LogEvent → Bool) (d : δ) (world : World) :
    Process δ :=
  { Process.fresh d world with subscriber := some (subscriberOf config passes) }

variable {passes : LogEvent → Bool}

theorem Configured.initTracing (h : Configured host path config passes) :
    initTracing host config.observability (.fresh d world) =
      .ok () (configuredProcess config passes d world) := by
  rw [Server.initTracing, h.filter]
  rfl

/-- Without a configuration `doctor` ends before it has done anything. -/
theorem run_doctor_of_load_error {error : ConfigError}
    (h : Config.load host.toml host.external.urls host.files host.env path = .error error)
    (json : Bool) :
    run host ⟨path, .doctor json⟩ (.fresh d world) = .error (.config error) (.fresh d world) := by
  rw [run]
  simp only [h]
  exact bind_run_of_error rfl

theorem run_doctor_of_filter_error {detail : String}
    (hload : Config.load host.toml host.external.urls host.files host.env path = .ok config)
    (hfilter : host.filter config.observability.filter = .error detail) (json : Bool) :
    run host ⟨path, .doctor json⟩ (.fresh d world) =
      .error (.telemetry (.filter detail)) (.fresh d world) := by
  have htracing : Server.initTracing host config.observability (.fresh d world) =
      .error (.filter detail) (.fresh d world) := by
    rw [Server.initTracing, hfilter]
    rfl
  rw [run]
  simp only [hload]
  refine (bind_run_of_ok rfl).trans ?_
  exact bind_run_of_error (mapErr_run_of_error htracing)

/-- What `serve` is called with. -/
def servingOf (config : Config) (services : AppServices) : Serving where
  bind := config.server.bind
  services := services
  request_timeout_ms := config.server.request_timeout_ms
  shutdown_timeout_seconds := config.server.shutdown_timeout_seconds

/-- `serve` after configuration and logging. -/
theorem Configured.run_serve (h : Configured host path config passes) :
    run host ⟨path, .serve⟩ (.fresh d world) =
      (onWorld (mapErr .startup (AppServices.connect (host.now d) host.machine config)) >>=
        fun services => mapErr .server (serve host (servingOf config services)))
        (configuredProcess config passes d world) := by
  rw [run]
  simp only [h.load]
  refine (bind_run_of_ok rfl).trans ((bind_run_of_ok (mapErr_run_of_ok h.initTracing)).trans ?_)
  rw [get_bind_run]
  rfl

/-- A startup that fails ends `serve` before it asks for a socket. -/
theorem run_serve_of_error {error : StartupError} (h : Configured host path config passes)
    (hconnect : AppServices.connect (host.now d) host.machine config world =
      .error error world') :
    run host ⟨path, .serve⟩ (.fresh d world) =
      .error (.startup error) (configuredProcess config passes d world') := by
  rw [h.run_serve]
  exact bind_run_of_error (onWorld_of_error (mapErr_run_of_error hconnect))

theorem run_serve_of_ok {services : AppServices} (h : Configured host path config passes)
    (hconnect : AppServices.connect (host.now d) host.machine config world =
      .ok services world') :
    run host ⟨path, .serve⟩ (.fresh d world) =
      mapErr .server (serve host (servingOf config services))
        (configuredProcess config passes d world') := by
  rw [h.run_serve, bind_run_of_ok (onWorld_of_ok (mapErr_run_of_ok hconnect))]
  rfl

/-- What `doctor` prints. -/
def doctorOutput (host : Host δ) (json : Bool) (report : DiagnosticReport) :
    Except String (List String) :=
  if json then (host.pretty report).map fun text => [text]
  else .ok (report.checks.map checkLine)

theorem verdict_run (healthy : Bool) (process : Process δ) :
    (if !healthy then throw .doctorFailed else pure () : EStateM CliError (Process δ) Unit)
        process =
      if healthy then .ok () process else .error .doctorFailed process := by
  cases healthy <;> rfl

/-- **`doctor`** prints its report and fails if the report cannot be printed or is not healthy. -/
theorem run_doctor (h : Configured host path config passes) (json : Bool) :
    run host ⟨path, .doctor json⟩ (.fresh d world) =
      match runDoctor (host.now d) host.machine config world with
      | (report, world') =>
          match doctorOutput host json report with
          | .error detail => .error (.serialize detail) (configuredProcess config passes d world')
          | .ok lines =>
              let process := (configuredProcess config passes d world').write (lines.map .line)
              if report.healthy then .ok () process else .error .doctorFailed process := by
  rw [run]
  simp only [h.load]
  refine (bind_run_of_ok rfl).trans ((bind_run_of_ok (mapErr_run_of_ok h.initTracing)).trans ?_)
  rw [get_bind_run]
  cases hreport : runDoctor (host.now d) host.machine config world with
  | mk report world' =>
      have hdoctor : onWorld (modifyGet (runDoctor (host.now d) host.machine config) :
          EStateM CliError World DiagnosticReport) (configuredProcess config passes d world) =
            .ok report (configuredProcess config passes d world') := by
        refine onWorld_of_ok ?_
        show EStateM.Result.ok (runDoctor (host.now d) host.machine config world).1
          (runDoctor (host.now d) host.machine config world).2 = _
        rw [hreport]
        rfl
      refine (bind_run_of_ok hdoctor).trans ?_
      cases json with
      | true =>
          simp only [if_true, doctorOutput]
          cases host.pretty report with
          | error detail => exact bind_run_of_error rfl
          | ok text =>
              refine (bind_run_of_ok rfl).trans ((bind_run_of_ok rfl).trans ?_)
              exact verdict_run _ _
      | false =>
          simp only [Bool.false_eq_true, if_false, doctorOutput, List.map_map]
          refine (bind_run_of_ok (forM_println checkLine report.checks _)).trans ?_
          exact verdict_run _ _

end Outcomes

end WikiNext.Server
