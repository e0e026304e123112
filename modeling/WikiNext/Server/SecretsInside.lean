import WikiNext.Server.ReportTexts
import WikiNext.Server.Secrets

/-!
# Secrets stay inside

What a process prints, how it ends, what it leaves on the disk and every status
its server gives do not depend on its secrets, nor on what the libraries say
about their failures: these may quote a DSN, a key or the configuration file.

§1 two hosts, §2 the commands, §3 the result, §4 two small hosts.
-/

namespace WikiNext.Server

open WikiNext.Foundation WikiNext.Core WikiNext.App WikiNext.Store WikiNext.Search

/-! ## §1  Two hosts -/

abbrev SameServerError : Shutdown.ServerError → Shutdown.ServerError → Prop :=
  SameText serverMessage serverMessage

abbrev SameTelemetryError : TelemetryError → TelemetryError → Prop :=
  SameText TelemetryError.message TelemetryError.message

abbrev SameCliError (debug : String → String) : CliError → CliError → Prop :=
  SameText (CliError.message debug) (CliError.message debug)

/-- Both servers end alike. -/
inductive SameEnding : Ending → Ending → Prop
  | finished {result result' : Except String Unit} (h : Alike Whatever Eq result result') :
      SameEnding (.finished result) (.finished result')
  | elapsed : SameEnding .elapsed .elapsed

/-- Both processes get the same socket, or neither gets one. -/
structure SameNetwork (network network' : Network) : Prop where
  bind : ∀ address, Alike Whatever Eq (network.bind address) (network'.bind address)
  localAddr : ∀ listener,
    Alike Whatever Eq (network.localAddr listener) (network'.localAddr listener)
  display : network.display = network'.display

theorem SameNetwork.openSocket {network network' : Network} (h : SameNetwork network network')
    (address : SocketAddr) :
    Alike SameServerError Eq (openSocket network address) (openSocket network' address) := by
  refine Alike.bind ((h.bind address).reported fun _ _ => rfl) ?_
  rintro listener _ rfl
  exact (h.localAddr listener).reported fun _ _ => rfl

namespace Secrets

variable (secrets : Secrets)

structure Serving (serving serving' : Server.Serving) : Prop where
  bind : serving.bind = serving'.bind
  services : secrets.Services serving.services serving'.services
  request_timeout_ms : serving.request_timeout_ms = serving'.request_timeout_ms
  shutdown_timeout_seconds :
    serving.shutdown_timeout_seconds = serving'.shutdown_timeout_seconds

variable {δ δ' : Type}

/-- Two hosts whose files, variables, libraries and servers differ in the secrets
and in the words for a failure, and to whose servers the same happens. -/
structure Host (same : δ → δ' → Prop) (host : Server.Host δ) (host' : Server.Host δ') : Prop where
  libraries : secrets.Libraries host.external host'.external
  sqlx : secrets.Sqlx same host.sqlx host'.sqlx
  env : secrets.Variables host.env host'.env
  file : ∀ path, Alike SameConfigError (secrets.Text host.toml host'.toml)
    (readBounded host.files path) (readBounded host'.files path)
  filter : ∀ text, Alike Whatever Eq (host.filter text) (host'.filter text)
  pretty : ∀ report, Alike Whatever Eq (host.pretty report) (host'.pretty report)
  machine : host.machine = host'.machine
  network : SameNetwork host.network host'.network
  deadline : host.deadline = host'.deadline
  life : host.life = host'.life
  ending : SameEnding host.ending host'.ending

structure Process (same : δ → δ' → Prop) (process : Server.Process δ)
    (process' : Server.Process δ') : Prop where
  subscriber : process.subscriber = process'.subscriber
  written : process.written = process'.written
  serving : Option.Rel secrets.Serving process.serving process'.serving
  answered : process.answered = process'.answered
  database : same process.database process'.database
  world : process.world = process'.world

variable {secrets} {same : δ → δ' → Prop} {host : Server.Host δ} {host' : Server.Host δ'}

theorem Host.outside (h : secrets.Host same host host') {d : δ} {d' : δ'} (hd : same d d') :
    secrets.Outside (host.now d) (host'.now d') where
  urls := h.libraries.urls
  key_size := h.libraries.key_size
  debug := h.libraries.debug
  header := h.libraries.header
  build := h.libraries.build
  readField := h.libraries.readField
  reply := h.libraries.reply
  postgres := h.sqlx.server d d' hd

end Secrets

/-! ## §2  The commands -/

section Commands

variable {secrets : Secrets} {δ δ' : Type} {same : δ → δ' → Prop} {host : Server.Host δ}
  {host' : Server.Host δ'} {ε : Type} {E : ε → ε → Prop}

theorem onWorld_alike {α : Type} {R : α → α → Prop} {m m' : EStateM ε World α}
    (h : AlikeRuns E R Eq m m') :
    AlikeRuns E R (secrets.Process same) (onWorld m) (onWorld m') := by
  rintro process process' ⟨hsubscriber, hwritten, hserving, hanswered, hdatabase, hworld⟩
  have hends := h process.world process'.world hworld
  simp only [onWorld]
  generalize m process.world = result, m' process'.world = result' at hends ⊢
  cases hends with
  | ok ha hworld => exact .ok ha ⟨hsubscriber, hwritten, hserving, hanswered, hdatabase, hworld⟩
  | error he hworld =>
      exact .error he ⟨hsubscriber, hwritten, hserving, hanswered, hdatabase, hworld⟩

theorem onDatabase_alike {m : EStateM ε δ Unit} {m' : EStateM ε δ' Unit}
    (h : AlikeRuns E Eq same m m') :
    AlikeRuns E Eq (secrets.Process same) (onDatabase m) (onDatabase m') := by
  rintro process process' ⟨hsubscriber, hwritten, hserving, hanswered, hdatabase, hworld⟩
  have hends := h process.database process'.database hdatabase
  simp only [onDatabase]
  generalize m process.database = result, m' process'.database = result' at hends ⊢
  cases hends with
  | ok ha hdatabase => exact .ok ha ⟨hsubscriber, hwritten, hserving, hanswered, hdatabase, hworld⟩
  | error he hdatabase =>
      exact .error he ⟨hsubscriber, hwritten, hserving, hanswered, hdatabase, hworld⟩

theorem Secrets.Process.write {process : Server.Process δ} {process' : Server.Process δ'}
    (h : secrets.Process same process process') (output : List Output) :
    secrets.Process same (process.write output) (process'.write output) where
  subscriber := h.subscriber
  written := congrArg (· ++ output) h.written
  serving := h.serving
  answered := h.answered
  database := h.database
  world := h.world

theorem Secrets.Process.log {process : Server.Process δ} {process' : Server.Process δ'}
    (h : secrets.Process same process process') (event : LogEvent) :
    secrets.Process same (process.log event) (process'.log event) := by
  rw [Server.Process.log, Server.Process.log, ← h.subscriber]
  cases process.subscriber with
  | none => exact h
  | some subscriber => exact h.write _

theorem println_alike (text : String) :
    AlikeRuns E Eq (secrets.Process same) (println text) (println text) :=
  .modify fun _ _ h => h.write _

theorem log_alike (event : LogEvent) :
    AlikeRuns E Eq (secrets.Process same) (log event) (log event) :=
  .modify fun _ _ h => h.log event

theorem forM_alike {α : Type} {f : α → EStateM ε (Server.Process δ) PUnit}
    {f' : α → EStateM ε (Server.Process δ') PUnit}
    (h : ∀ x, AlikeRuns E Eq (secrets.Process same) (f x) (f' x)) (xs : List α) :
    AlikeRuns E Eq (secrets.Process same) (xs.forM f) (xs.forM f') := by
  induction xs with
  | nil => exact .pure rfl
  | cons x xs ih => exact (h x).bind fun _ _ _ => ih

theorem initTracing_alike (h : secrets.Host same host host') (config : ObservabilityConfig) :
    AlikeRuns SameTelemetryError Eq (secrets.Process same) (initTracing host config)
      (initTracing host' config) := by
  refine AlikeRuns.bind (.ofExcept ((h.filter config.filter).reported fun _ _ => rfl)) ?_
  rintro passes _ rfl process process' hprocess
  show AlikeEnds _ _ _
    ((if process.subscriber.isSome then throw .alreadyInitialized
      else set { process with subscriber := some ⟨config.format, passes⟩ } :
        EStateM TelemetryError _ _) process)
    ((if process'.subscriber.isSome then throw .alreadyInitialized
      else set { process' with subscriber := some ⟨config.format, passes⟩ } :
        EStateM TelemetryError _ _) process')
  rw [hprocess.subscriber]
  split
  · exact .error rfl hprocess
  · exact .ok rfl ⟨rfl, hprocess.written, hprocess.serving, hprocess.answered, hprocess.database,
      hprocess.world⟩

/-- **A status** is given in the same words, with the same events. -/
theorem answerStatus_alike (h : secrets.Host same host host') (request : StatusRequest)
    {services services' : AppServices} (hservices : secrets.Services services services') :
    AlikeRuns E secrets.Services (secrets.Process same) (answerStatus host request services)
      (answerStatus host' request services') := by
  intro process process' hprocess
  have houtside := h.outside hprocess.database
  have hrunning : secrets.Running ⟨services, process.world⟩ ⟨services', process'.world⟩ :=
    ⟨hservices, hprocess.world⟩
  have hevents := statusEvents_eq houtside host'.machine request hrunning
  obtain ⟨hreport, hnext⟩ := giveStatus_alike houtside host'.machine request hrunning
  simp only [answerStatus, get_bind_run, h.machine, hevents]
  refine AlikeRuns.bind (forM_alike log_alike _) (fun _ _ _ => ?_) process process' hprocess
  refine (AlikeRuns.modify fun process process' hprocess => ?_).bind fun _ _ _ =>
    .pure hnext.services
  rw [hreport, hnext.world]
  exact ⟨hprocess.subscriber, hprocess.written, hprocess.serving,
    congrArg (· ++ _) hprocess.answered, hprocess.database, rfl⟩

theorem live_alike (h : secrets.Host same host host') (life : List Happening) :
    ∀ {services services' : AppServices}, secrets.Services services services' →
      AlikeRuns E secrets.Services (secrets.Process same) (live host life services)
        (live host' life services') := by
  induction life with
  | nil => exact fun hservices => .pure hservices
  | cons happening later ih =>
      intro services services' hservices
      cases happening with
      | asked request =>
          exact (answerStatus_alike h request hservices).bind fun _ _ hnext => ih hnext
      | handlerFailed signal error => exact (log_alike _).bind fun _ _ _ => ih hservices
      | notified => exact (log_alike _).bind fun _ _ _ => ih hservices

/-- **A server** gets a socket in both processes or in neither, and ends alike. -/
theorem serve_alike (h : secrets.Host same host host') {serving serving' : Server.Serving}
    (hserving : secrets.Serving serving serving') :
    AlikeRuns SameServerError Eq (secrets.Process same) (serve host serving)
      (serve host' serving') := by
  rw [serve, serve, ← hserving.bind, ← hserving.shutdown_timeout_seconds, ← h.network.display,
    ← h.life]
  refine (AlikeRuns.ofExcept (h.network.openSocket serving.bind)).bind ?_
  rintro local_address _ rfl
  refine (log_alike _).bind fun _ _ _ => ?_
  refine AlikeRuns.bind (R := Eq) (.modify fun process process' hprocess => ?_) fun _ _ _ => ?_
  · exact ⟨hprocess.subscriber, hprocess.written, .some hserving, hprocess.answered,
      hprocess.database, hprocess.world⟩
  refine (live_alike h host.life hserving.services).bind fun _ _ _ => ?_
  have hending := h.ending
  generalize host.ending = ending, host'.ending = ending' at hending ⊢
  cases hending with
  | finished hresult => exact .ofExcept (hresult.reported fun _ _ => rfl)
  | elapsed => exact (log_alike _).bind fun _ _ _ => .throw rfl

/-- **Every command** takes two such processes to two such processes. -/
theorem run_alike (h : secrets.Host same host host') (cli : Cli) :
    AlikeRuns (SameCliError host'.external.debug) Eq (secrets.Process same) (run host cli)
      (run host' cli) := by
  have htracing : ∀ config : ObservabilityConfig,
      AlikeRuns (SameCliError host'.external.debug) Eq (secrets.Process same)
        (mapErr .telemetry (initTracing host config))
        (mapErr .telemetry (initTracing host' config)) :=
    fun config => (initTracing_alike h config).mapErr fun _ _ hsame => hsame
  have hload : AlikeRuns (SameCliError host'.external.debug) secrets.Config (secrets.Process same)
      (ofExcept ((Config.load host.toml host.external.urls host.files host.env
        cli.config).mapError .config))
      (ofExcept ((Config.load host'.toml host'.external.urls host'.files host'.env
        cli.config).mapError .config)) :=
    .ofExcept ((load_alike h.libraries h.env (h.file _)).mapError fun _ _ hsame => hsame)
  rw [run, run]
  cases cli.command with
  | serve =>
      refine hload.bind fun config config' hconfig => ?_
      rw [hconfig.observability]
      refine (htracing _).bind fun _ _ _ => ?_
      intro process process' hprocess
      rw [get_bind_run, get_bind_run, h.machine]
      have hconnected : AlikeRuns (SameCliError host'.external.debug) secrets.Services
          (secrets.Process same)
          (onWorld (mapErr .startup
            (AppServices.connect (host.now process.database) host'.machine config)))
          (onWorld (mapErr .startup
            (AppServices.connect (host'.now process'.database) host'.machine config'))) :=
        onWorld_alike ((connect_alike (h.outside hprocess.database) hconfig host'.machine).mapErr
          fun _ _ hsame => hsame)
      refine hconnected.bind (fun services services' hservices => ?_) process process' hprocess
      rw [hconfig.server]
      refine AlikeRuns.mapErr (serve_alike h ?_) fun _ _ hsame => hsame
      exact ⟨rfl, hservices, rfl, rfl⟩
  | migrate =>
      refine AlikeRuns.bind (.ofExcept ((migrationLoad_alike h.libraries h.env
        (h.file _)).mapError fun _ _ hsame => hsame)) fun config config' hconfig => ?_
      rw [hconfig.observability, h.deadline]
      refine (htracing _).bind fun _ _ _ => ?_
      have hmigrated : AlikeRuns (SameCliError host'.external.debug) Eq (secrets.Process same)
          (onDatabase (mapErr .startup
            (App.Stepwise.migrate host.sqlx host'.deadline config).alone))
          (onDatabase (mapErr .startup
            (App.Stepwise.migrate host'.sqlx host'.deadline config').alone)) :=
        onDatabase_alike ((migrate_alike h.sqlx hconfig host'.deadline).alone.mapErr
          fun _ _ hsame => hsame)
      exact hmigrated.bind fun _ _ _ => log_alike _
  | doctor json =>
      refine hload.bind fun config config' hconfig => ?_
      rw [hconfig.observability]
      refine (htracing _).bind fun _ _ _ => ?_
      intro process process' hprocess
      rw [get_bind_run, get_bind_run, h.machine]
      have hdoctor : runDoctor (host.now process.database) host'.machine config =
          runDoctor (host'.now process'.database) host'.machine config' :=
        funext (runDoctor_eq (h.outside hprocess.database) hconfig host'.machine)
      rw [hdoctor]
      refine AlikeRuns.bind (onWorld_alike (.same SameText.refl)) ?_ process process' hprocess
      rintro report _ rfl
      have hverdict : AlikeRuns (SameCliError host'.external.debug) Eq (secrets.Process same)
          (if !report.healthy then throw .doctorFailed else pure ())
          (if !report.healthy then throw .doctorFailed else pure ()) := by
        split
        · exact .throw rfl
        · exact .pure rfl
      cases json with
      | true =>
          refine AlikeRuns.bind (.ofExcept ((h.pretty report).reported fun _ _ => rfl)) ?_
          rintro text _ rfl
          exact (println_alike text).bind fun _ _ _ => hverdict
      | false =>
          exact (forM_alike (fun _ => println_alike _) report.checks).bind fun _ _ _ => hverdict

end Commands

/-! ## §3  The result -/

def dsnWith (password : String) : String := "postgres://wiki:" ++ password ++ "@localhost/wiki"

/-- One line per required field. -/
def textWith (password key : String) : String :=
  "app.name = \"wiki\"\n" ++
  "server.bind = \"127.0.0.1:3000\"\n" ++
  "database.url = \"" ++ dsnWith password ++ "\"\n" ++
  "search.url = \"http://localhost:7700\"\n" ++
  "search.api_key = \"" ++ key ++ "\"\n" ++
  "storage.data_dir = \"data\"\n"

def tableWith (password key : String) : TomlTable :=
  [("app", .table [("name", .string "wiki")]),
    ("server", .table [("bind", .string "127.0.0.1:3000")]),
    ("database", .table [("url", .string (dsnWith password))]),
    ("search", .table [("url", .string "http://localhost:7700"), ("api_key", .string key)]),
    ("storage", .table [("data_dir", .string "data")])]

/-- The URLs of both hosts. -/
def bothUrls : UrlCrate where
  parse text :=
    if text = dsnWith "first" then
      .ok ⟨"postgres", "wiki", some "first", some (.domain "localhost"), none, "/wiki", none, none⟩
    else if text = dsnWith "second" then
      .ok ⟨"postgres", "wiki", some "second", some (.domain "localhost"), none, "/wiki", none,
        none⟩
    else smallUrls.parse text
  join := smallUrls.join

/-- The search server is away, and the library quotes the key when it says so. -/
def hostWith (password key : String) : Server.Host Bool :=
  { smallHost with
    toml := { smallToml with
      parse := fun text =>
        if text = textWith password key then .ok (tableWith password key)
        else .error ("not " ++ textWith password key) }
    files := fun _ => .ok (textWith password key).toByteArray.data.toList
    external := { smallExternal with
      urls := bothUrls
      meilisearch := fun http _ => .failed ("no answer to " ++ http.authorization) } }

/-- What the two hosts hold. -/
def twoSecrets : Secrets where
  dsn value value' := value = dsnWith "first" ∧ value' = dsnWith "second"
  key value value' := value = "0123456789abcdef" ∧ value' = "fedcba9876543210"
  authorization value value' :=
    value = "Bearer 0123456789abcdef" ∧ value' = "Bearer fedcba9876543210"

def configWith (password key : String) : Config :=
  { smallConfig with
    database := ⟨dsnWith password, 16, 5000⟩
    search := ⟨"http://localhost:7700", ⟨key⟩, 2000⟩ }

/-- What is made of the file of a host. -/
theorem parsed_hostWith (password key : String) :
    ((hostWith password key).toml.parse (textWith password key) >>= fun entries =>
      Config.deserialize (hostWith password key).toml (.table entries)) =
        .ok (configWith password key) ∧
    ((hostWith password key).toml.parse (textWith password key) >>= fun entries =>
      MigrationConfigFile.deserialize (hostWith password key).toml (.table entries)) =
        .ok ⟨(configWith password key).database, .default⟩ := by
  have hparse : (hostWith password key).toml.parse (textWith password key) =
      .ok (tableWith password key) := if_pos rfl
  rw [hparse]
  exact ⟨rfl, rfl⟩

theorem text_twoSecrets : twoSecrets.Text (hostWith "first" "0123456789abcdef").toml
    (hostWith "second" "fedcba9876543210").toml (textWith "first" "0123456789abcdef")
    (textWith "second" "fedcba9876543210") where
  config := by
    rw [(parsed_hostWith _ _).1, (parsed_hostWith _ _).1]
    exact .ok ⟨rfl, rfl, ⟨⟨rfl, rfl⟩, rfl, rfl⟩, ⟨rfl, ⟨rfl, rfl⟩, rfl⟩, rfl, rfl⟩
  migration := by
    rw [(parsed_hostWith _ _).2, (parsed_hostWith _ _).2]
    exact .ok ⟨⟨⟨rfl, rfl⟩, rfl, rfl⟩, rfl⟩

theorem libraries_twoSecrets : twoSecrets.Libraries (hostWith "first" "0123456789abcdef").external
    (hostWith "second" "fedcba9876543210").external where
  urls := {
    parse := fun _ => .same rfl fun _ => trivial
    join := fun _ _ => .same rfl fun _ => trivial
    dsn := by
      rintro _ _ ⟨rfl, rfl⟩
      have hsecond : bothUrls.parse (dsnWith "second") = .ok ⟨"postgres", "wiki", some "second",
          some (.domain "localhost"), none, "/wiki", none, none⟩ := by decide +kernel
      show Alike _ _ (bothUrls.parse (dsnWith "first")) (bothUrls.parse (dsnWith "second"))
      rw [hsecond]
      exact .ok ⟨rfl, by decide⟩ }
  key_size := by
    rintro _ _ ⟨rfl, rfl⟩
    decide +kernel
  debug := rfl
  header := by
    rintro _ _ ⟨rfl, rfl⟩
    exact .ok ⟨by decide, by decide⟩
  build _ _ _ := .ok rfl
  readField _ _ := .same rfl fun _ => trivial
  reply _ _ _ _ := .failed

/-- The same database; it does not look at passwords. -/
theorem sqlx_twoSecrets : twoSecrets.Sqlx Eq smallSqlx smallSqlx where
  server d _ hd := hd ▸ {
    connect := fun _ _ _ => .ok rfl
    server_version := fun _ _ _ => .row (.ok rfl)
    schema_version := fun _ _ _ => by
      cases d
      · exact .failed
      · exact .row (.ok rfl) }
  acquire _ _ _ := .pure rfl
  execute _ _ := .pure rfl
  runMigrator _ := .call (.same fun _ => trivial)

theorem host_twoSecrets : twoSecrets.Host Eq (hostWith "first" "0123456789abcdef")
    (hostWith "second" "fedcba9876543210") where
  libraries := libraries_twoSecrets
  sqlx := sqlx_twoSecrets
  env := {
    dsn := fun key hkey => by
      have hmissing : ∀ key ∈ DSN_ENV, smallHost.env key = .notPresent := by decide
      show SameVariable _ (smallHost.env key) (smallHost.env key)
      rw [hmissing key hkey]
      exact .notPresent
    api_key := .notPresent
    rest := fun _ _ => rfl }
  file path := by
    have hread : ∀ password key, (textWith password key).utf8ByteSize ≤ MAX_CONFIG_BYTES →
        readBounded (hostWith password key).files path = .ok (textWith password key) :=
      fun _ _ hsize => readBounded_text rfl hsize
    rw [hread _ _ (by decide +kernel), hread _ _ (by decide +kernel)]
    exact .ok text_twoSecrets
  filter _ := .ok rfl
  pretty _ := .same rfl fun _ => trivial
  machine := rfl
  network := {
    bind := fun _ => .ok rfl
    localAddr := fun _ => .ok rfl
    display := rfl }
  deadline := rfl
  life := rfl
  ending := .finished (.ok rfl)

end WikiNext.Server
