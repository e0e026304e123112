import WikiNext.Foundation.Alike
import WikiNext.Server.Cli
import WikiNext.Server.HealthEndpoints

/-!
# Two processes with other secrets

The configuration holds two secrets, the DSN with its password and the key of
the search server; neither has a readable `Debug`, and no error has what a
library says about its failure in its text. Here two processes are compared
whose secrets differ, and whose libraries put their failures in other words.

§1 what goes with what, §2 the checks, §3 the loaders, §4 the services,
§5 `doctor` and the status endpoints.
-/

namespace WikiNext.Server

open WikiNext.Foundation WikiNext.Core WikiNext.App WikiNext.Store WikiNext.Search

/-! ## §1  What goes with what -/

/-- Which DSNs, keys and headers of the one process go with which of the other. -/
structure Secrets where
  dsn : String → String → Prop
  key : String → String → Prop
  authorization : String → String → Prop

/-- The same URL with another password; both passwords are missing or empty, or
neither is. -/
structure SameButPassword (url url' : Url) : Prop where
  rest : url' = { url with password := url'.password }
  given : url'.password.all String.isEmpty = url.password.all String.isEmpty

/-- The three ways to read a variable, with related values. -/
inductive SameVariable (R : String → String → Prop) : EnvVar → EnvVar → Prop
  | notPresent : SameVariable R .notPresent .notPresent
  | notUnicode : SameVariable R .notUnicode .notUnicode
  | value {text text' : String} (h : R text text') : SameVariable R (.value text) (.value text')

/-- The variables that hold a DSN. -/
def DSN_ENV : List String := ["WIKINEXT_DATABASE_URL", MIGRATION_URL_ENV]

def API_KEY_ENV : String := "WIKINEXT_MEILISEARCH_API_KEY"

/-- The outcomes of one query. -/
inductive SameQuery {α : Type} : QueryOutcome α → QueryOutcome α → Prop
  | elapsed : SameQuery .elapsed .elapsed
  | failed {error error' : SqlxError} : SameQuery (.failed error) (.failed error')
  | row {column column' : Except SqlxError α} (h : Alike Whatever Eq column column') :
      SameQuery (.row column) (.row column')

/-- The outcomes of one request. -/
inductive SameReply : SendOutcome → SendOutcome → Prop
  | failed {detail detail' : String} : SameReply (.failed detail) (.failed detail')
  | response {status : StatusCode} {content_length : Option Nat}
      {chunks chunks' : List (Except String (List UInt8))}
      (h : List.Forall₂ (Alike Whatever Eq) chunks chunks') :
      SameReply (.response status content_length chunks) (.response status content_length chunks')

namespace Secrets

variable (secrets : Secrets)

structure Database (database database' : DatabaseConfig) : Prop where
  url : secrets.dsn database.url database'.url
  max_connections : database.max_connections = database'.max_connections
  acquire_timeout_ms : database.acquire_timeout_ms = database'.acquire_timeout_ms

structure Search (search search' : SearchConfig) : Prop where
  url : search.url = search'.url
  api_key : secrets.key search.api_key.expose search'.api_key.expose
  request_timeout_ms : search.request_timeout_ms = search'.request_timeout_ms

structure Config (config config' : App.Config) : Prop where
  app : config.app = config'.app
  server : config.server = config'.server
  database : secrets.Database config.database config'.database
  search : secrets.Search config.search config'.search
  storage : config.storage = config'.storage
  observability : config.observability = config'.observability

structure MigrationFile (file file' : MigrationConfigFile) : Prop where
  database : secrets.Database file.database file'.database
  observability : file.observability = file'.observability

structure Migration (config config' : MigrationConfig) : Prop where
  database : secrets.Database config.database config'.database
  observability : config.observability = config'.observability
  migration_url : secrets.dsn config.migration_url.expose config'.migration_url.expose
  application_role : config.application_role = config'.application_role

/-- Two texts of a configuration file: they say the same but for the secrets, or
neither of them can be deserialised. -/
structure Text (toml toml' : TomlCrate) (text text' : String) : Prop where
  config : Alike Whatever secrets.Config
    (toml.parse text >>= fun entries => App.Config.deserialize toml (.table entries))
    (toml'.parse text' >>= fun entries => App.Config.deserialize toml' (.table entries))
  migration : Alike Whatever secrets.MigrationFile
    (toml.parse text >>= fun entries => MigrationConfigFile.deserialize toml (.table entries))
    (toml'.parse text' >>= fun entries => MigrationConfigFile.deserialize toml' (.table entries))

structure Variables (env env' : Environment) : Prop where
  dsn : ∀ key ∈ DSN_ENV, SameVariable secrets.dsn (env key) (env' key)
  api_key : SameVariable secrets.key (env API_KEY_ENV) (env' API_KEY_ENV)
  rest : ∀ key ∉ API_KEY_ENV :: DSN_ENV, env key = env' key

structure Urls (urls urls' : UrlCrate) : Prop where
  parse : ∀ value, Alike Whatever Eq (urls.parse value) (urls'.parse value)
  dsn : ∀ value value', secrets.dsn value value' →
    Alike Whatever SameButPassword (urls.parse value) (urls'.parse value')
  join : ∀ base path, Alike Whatever Eq (urls.join base path) (urls'.join base path)

structure Client (http http' : HttpClient) : Prop where
  authorization : secrets.authorization http.authorization http'.authorization
  request_timeout_ms : http.request_timeout_ms = http'.request_timeout_ms

structure Options (options options' : DatabaseOptions) : Prop where
  url : secrets.dsn options.url options'.url
  max_connections : options.max_connections = options'.max_connections
  acquire_timeout_ms : options.acquire_timeout_ms = options'.acquire_timeout_ms

/-- The database servers of both processes give the same answers. -/
structure Postgres (server server' : PostgresServer) : Prop where
  connect : ∀ options options', secrets.Options options options' →
    Alike Whatever Eq (server.connect options) (server'.connect options')
  server_version : ∀ options options', secrets.Options options options' →
    SameQuery (server.server_version options) (server'.server_version options')
  schema_version : ∀ options options', secrets.Options options options' →
    SameQuery (server.schema_version options) (server'.schema_version options')

/-- The libraries and the search servers of both processes do the same with what
goes together. -/
structure Libraries (external external' : External) : Prop where
  urls : secrets.Urls external.urls external'.urls
  key_size : ∀ key key', secrets.key key key' →
    (key.utf8ByteSize < 16 ↔ key'.utf8ByteSize < 16)
  debug : external.debug = external'.debug
  header : ∀ key key', secrets.key key key' → Alike Whatever secrets.authorization
    (external.http.headerValue ("Bearer " ++ key)) (external'.http.headerValue ("Bearer " ++ key'))
  build : ∀ http http', secrets.Client http http' →
    Alike Whatever Eq (external.http.build http) (external'.http.build http')
  readField : ∀ field body,
    Alike Whatever Eq (external.json.readField field body) (external'.json.readField field body)
  reply : ∀ http http' url, secrets.Client http http' →
    SameReply (external.meilisearch http url) (external'.meilisearch http' url)

structure Outside (external external' : External) : Prop
    extends secrets.Libraries external external' where
  postgres : secrets.Postgres external.postgres external'.postgres

/-- Databases in related states answer the same, and are in related states after
the same has been asked of both. -/
structure Sqlx {δ δ' : Type} (same : δ → δ' → Prop) (sqlx : Store.Sqlx δ)
    (sqlx' : Store.Sqlx δ') : Prop where
  server : ∀ d d', same d d' → secrets.Postgres (sqlx.server d) (sqlx'.server d')
  acquire : ∀ options options', secrets.Options options options' →
    AlikeRuns Whatever Eq same (sqlx.acquire options) (sqlx'.acquire options')
  execute : ∀ connection query,
    AlikeRuns Whatever Eq same (sqlx.execute connection query) (sqlx'.execute connection query)
  runMigrator : ∀ connection,
    AlikeSteps Whatever Eq same (sqlx.runMigrator connection) (sqlx'.runMigrator connection)

end Secrets

/-! ## §2  The checks -/

section Checks

variable {secrets : Secrets} {urls urls' : UrlCrate} {value value' : String}

theorem SameButPassword.checkDatabaseUrl {url url' : Url} (h : SameButPassword url url')
    (field : String) : checkDatabaseUrl field url = checkDatabaseUrl field url' := by
  obtain ⟨hrest, hgiven⟩ := h
  rw [hrest]
  simp only [App.checkDatabaseUrl, hgiven]
  rfl

theorem validateDatabaseUrl_eq (h : secrets.Urls urls urls') (hdsn : secrets.dsn value value')
    (field : String) : validateDatabaseUrl urls field value =
      validateDatabaseUrl urls' field value' := by
  have hparse := h.dsn value value' hdsn
  simp only [validateDatabaseUrl]
  generalize urls.parse value = result, urls'.parse value' = result' at hparse ⊢
  cases hparse with
  | ok hurl => exact hurl.checkDatabaseUrl field
  | error => rfl

theorem databaseRole_eq (h : secrets.Urls urls urls') (hdsn : secrets.dsn value value')
    (field : String) : databaseRole urls field value = databaseRole urls' field value' := by
  have hparse := h.dsn value value' hdsn
  simp only [databaseRole]
  generalize urls.parse value = result, urls'.parse value' = result' at hparse ⊢
  cases hparse with
  | ok hurl =>
      rw [hurl.rest]
  | error => rfl

theorem validateSearchUrl_eq (h : secrets.Urls urls urls') (value : String) :
    validateSearchUrl urls value = validateSearchUrl urls' value := by
  have hparse := h.parse value
  simp only [validateSearchUrl]
  generalize urls.parse value = result, urls'.parse value = result' at hparse ⊢
  cases hparse with
  | ok hurl =>
      subst hurl
      rfl
  | error => rfl

theorem validateDatabaseConfig_eq (h : secrets.Urls urls urls')
    {database database' : DatabaseConfig} (hdatabase : secrets.Database database database') :
    validateDatabaseConfig urls database = validateDatabaseConfig urls' database' := by
  rw [validateDatabaseConfig, validateDatabaseConfig, hdatabase.max_connections,
    hdatabase.acquire_timeout_ms, validateDatabaseUrl_eq h hdatabase.url,
    databaseRole_eq h hdatabase.url]

/-- **Both configurations are found in order, or fail the same check.** -/
theorem validate_eq {external external' : External} {config config' : App.Config}
    (h : secrets.Libraries external external') (hconfig : secrets.Config config config') :
    config.validate external.urls = config'.validate external'.urls := by
  have hkey : validateApiKey config.search.api_key = validateApiKey config'.search.api_key := by
    simp only [validateApiKey, h.key_size _ _ hconfig.search.api_key]
  rw [App.Config.validate, App.Config.validate, hconfig.app, hconfig.server,
    validateDatabaseConfig_eq h.urls hconfig.database, hconfig.search.url,
    validateSearchUrl_eq h.urls, hkey, hconfig.search.request_timeout_ms, hconfig.storage,
    hconfig.observability]

end Checks

/-! ## §3  The loaders -/

/-- The two errors are reported in the same words. -/
abbrev SameConfigError : ConfigError → ConfigError → Prop := SameText configMessage configMessage

section Loaders

variable {secrets : Secrets} {env env' : Environment} {R : String → String → Prop} {key : String}

theorem readEnvironment_eq (h : env key = env' key) :
    readEnvironment env key = readEnvironment env' key := by
  rw [readEnvironment, readEnvironment, h]

theorem readEnvironment_alike (h : SameVariable R (env key) (env' key)) :
    Alike SameConfigError (Option.Rel R) (readEnvironment env key) (readEnvironment env' key) := by
  rw [readEnvironment, readEnvironment]
  generalize env key = value, env' key = value' at h ⊢
  cases h with
  | notPresent => exact .ok .none
  | notUnicode => exact .error rfl
  | value h => exact .ok (.some h)

theorem readEnvironment_same (h : env key = env' key) :
    Alike SameConfigError Eq (readEnvironment env key) (readEnvironment env' key) :=
  .same (readEnvironment_eq h) fun _ => rfl

theorem overrideParsed_same {α : Type} {parse : String → Option α} {target : α}
    (h : env key = env' key) : Alike SameConfigError Eq (overrideParsed env parse key target)
      (overrideParsed env' parse key target) := by
  refine .same ?_ fun _ => rfl
  rw [overrideParsed, overrideParsed, readEnvironment_eq h]

theorem overrideString_same {target : String} (h : env key = env' key) :
    Alike SameConfigError Eq (overrideString env key target) (overrideString env' key target) := by
  refine .same ?_ fun _ => rfl
  rw [overrideString, overrideString, readEnvironment_eq h]

theorem overrideString_alike {target target' : String} (h : SameVariable R (env key) (env' key))
    (htarget : R target target') : Alike SameConfigError R (overrideString env key target)
      (overrideString env' key target') := by
  refine (readEnvironment_alike h).bind ?_
  rintro _ _ (hvalue | _)
  · exact .ok hvalue
  · exact .ok htarget

/-- **Every setting but the secrets comes out the same.** -/
theorem applyEnvironment_alike (henv : secrets.Variables env env') {config config' : App.Config}
    (h : secrets.Config config config') :
    Alike SameConfigError secrets.Config (config.applyEnvironment env)
      (config'.applyEnvironment env') := by
  have hrest : ∀ key ∉ API_KEY_ENV :: DSN_ENV, env key = env' key := henv.rest
  rw [App.Config.applyEnvironment, App.Config.applyEnvironment, h.app, h.server,
    h.database.max_connections, h.database.acquire_timeout_ms, h.search.url,
    h.search.request_timeout_ms, h.storage, h.observability]
  refine (overrideString_same (hrest _ (by decide))).bind ?_
  rintro name _ rfl
  refine (overrideParsed_same (hrest _ (by decide))).bind ?_
  rintro bind _ rfl
  refine (overrideParsed_same (hrest _ (by decide))).bind ?_
  rintro request _ rfl
  refine (overrideParsed_same (hrest _ (by decide))).bind ?_
  rintro shutdown _ rfl
  refine (overrideString_alike (henv.dsn _ (by decide)) h.database.url).bind ?_
  intro url url' hurl
  refine (overrideParsed_same (hrest _ (by decide))).bind ?_
  rintro connections _ rfl
  refine (overrideParsed_same (hrest _ (by decide))).bind ?_
  rintro acquire _ rfl
  refine (overrideString_same (hrest _ (by decide))).bind ?_
  rintro search _ rfl
  refine (readEnvironment_alike henv.api_key).bind ?_
  intro key key' hkey
  refine (overrideParsed_same (hrest _ (by decide))).bind ?_
  rintro timeout _ rfl
  refine (readEnvironment_same (hrest _ (by decide))).bind ?_
  rintro dir _ rfl
  refine (overrideString_same (hrest _ (by decide))).bind ?_
  rintro filter _ rfl
  refine (overrideParsed_same (hrest _ (by decide))).bind ?_
  rintro format _ rfl
  refine .ok ⟨rfl, rfl, ⟨hurl, rfl, rfl⟩, ⟨rfl, ?_, rfl⟩, rfl, rfl⟩
  cases hkey with
  | none => exact h.search.api_key
  | some hkey => exact hkey

theorem applyEnvironmentFile_alike (henv : secrets.Variables env env')
    {file file' : MigrationConfigFile} (h : secrets.MigrationFile file file') :
    Alike SameConfigError secrets.MigrationFile (file.applyEnvironment env)
      (file'.applyEnvironment env') := by
  have hrest : ∀ key ∉ API_KEY_ENV :: DSN_ENV, env key = env' key := henv.rest
  rw [MigrationConfigFile.applyEnvironment, MigrationConfigFile.applyEnvironment,
    h.database.max_connections, h.database.acquire_timeout_ms, h.observability]
  refine (overrideString_alike (henv.dsn _ (by decide)) h.database.url).bind ?_
  intro url url' hurl
  refine (overrideParsed_same (hrest _ (by decide))).bind ?_
  rintro connections _ rfl
  refine (overrideParsed_same (hrest _ (by decide))).bind ?_
  rintro acquire _ rfl
  refine (overrideString_same (hrest _ (by decide))).bind ?_
  rintro filter _ rfl
  refine (overrideParsed_same (hrest _ (by decide))).bind ?_
  rintro format _ rfl
  exact .ok ⟨⟨hurl, rfl, rfl⟩, rfl⟩

theorem rejectAmbientFrom_eq (keys : List String) (h : ∀ key ∈ keys, env key = env' key) :
    rejectAmbientFrom env keys = rejectAmbientFrom env' keys := by
  induction keys with
  | nil => rfl
  | cons key keys ih =>
      rw [List.forall_mem_cons] at h
      rw [rejectAmbientFrom, rejectAmbientFrom, readEnvironment_eq h.1, ih h.2]

theorem rejectAmbient_alike (henv : secrets.Variables env env') :
    Alike SameConfigError Eq (rejectAmbientPostgresEnvironment env)
      (rejectAmbientPostgresEnvironment env') := by
  refine .same (rejectAmbientFrom_eq _ fun key hkey => henv.rest key ?_) fun _ => rfl
  revert key
  decide

theorem fromStr_alike {α : Type} {R : α → α → Prop} {toml toml' : TomlCrate}
    {deserialize deserialize' : TomlValue → Except String α} {text text' : String}
    (h : Alike Whatever R (toml.parse text >>= fun entries => deserialize (.table entries))
      (toml'.parse text' >>= fun entries => deserialize' (.table entries))) :
    Alike SameConfigError R (fromStr toml deserialize text) (fromStr toml' deserialize' text') :=
  h.mapError fun _ _ _ => rfl

variable {external external' : External} {toml toml' : TomlCrate} {files files' : Files}
  {path : String}

/-- **`Config::load`** -/
theorem load_alike (h : secrets.Libraries external external') (henv : secrets.Variables env env')
    (hread : Alike SameConfigError (secrets.Text toml toml') (readBounded files path)
      (readBounded files' path)) :
    Alike SameConfigError secrets.Config (App.Config.load toml external.urls files env path)
      (App.Config.load toml' external'.urls files' env' path) := by
  refine (readEnvironment_alike (henv.dsn MIGRATION_URL_ENV (by decide))).bind ?_
  intro secret secret' hsecret
  have hreject : rejectRuntimeMigrationSecret secret = rejectRuntimeMigrationSecret secret' := by
    cases hsecret <;> rfl
  refine .bind_same SameText.refl hreject fun _ => ?_
  refine (rejectAmbient_alike henv).bind fun _ _ _ => ?_
  refine hread.bind fun text text' htext => ?_
  refine (fromStr_alike htext.config).bind fun file file' hfile => ?_
  refine (applyEnvironment_alike henv hfile).bind fun config config' hconfig => ?_
  exact .bind_same SameText.refl (validate_eq h hconfig) fun _ => .ok hconfig

theorem build_alike (h : secrets.Libraries external external') {file file' : MigrationConfigFile}
    (hfile : secrets.MigrationFile file file') {url url' : String} (hurl : secrets.dsn url url') :
    Alike SameConfigError secrets.Migration (MigrationConfig.build external.urls file url)
      (MigrationConfig.build external'.urls file' url') := by
  rw [MigrationConfig.build, MigrationConfig.build, validateDatabaseConfig_eq h.urls hfile.database,
    validateDatabaseUrl_eq h.urls hurl, databaseRole_eq h.urls hurl, hfile.observability,
    databaseRole_eq h.urls hfile.database.url]
  refine .bind_same SameText.refl rfl fun _ => ?_
  refine .bind_same SameText.refl rfl fun _ => ?_
  refine .bind_same SameText.refl rfl fun _ => ?_
  refine .bind_same SameText.refl rfl fun _ => ?_
  refine .bind_same SameText.refl rfl fun role => ?_
  exact .ok ⟨hfile.database, rfl, hurl, rfl⟩

/-- **`MigrationConfig::load`** -/
theorem migrationLoad_alike (h : secrets.Libraries external external')
    (henv : secrets.Variables env env')
    (hread : Alike SameConfigError (secrets.Text toml toml') (readBounded files path)
      (readBounded files' path)) :
    Alike SameConfigError secrets.Migration
      (MigrationConfig.load toml external.urls files env path)
      (MigrationConfig.load toml' external'.urls files' env' path) := by
  refine (rejectAmbient_alike henv).bind fun _ _ _ => ?_
  refine hread.bind fun text text' htext => ?_
  refine (fromStr_alike htext.migration).bind fun file file' hfile => ?_
  refine (applyEnvironmentFile_alike henv hfile).bind fun file file' hfile => ?_
  refine (readEnvironment_alike (henv.dsn MIGRATION_URL_ENV (by decide))).bind ?_
  rintro _ _ (hurl | _)
  · exact build_alike h hfile hurl
  · exact build_alike h hfile hfile.database.url

end Loaders

/-! ## §4  The services -/

abbrev SameSearchError (debug : String → String) : SearchError → SearchError → Prop :=
  SameText (SearchError.message debug) (SearchError.message debug)

abbrev SameStoreError : StoreError → StoreError → Prop :=
  SameText StoreError.message StoreError.message

abbrev SameStartupError (debug : String → String) : StartupError → StartupError → Prop :=
  SameText (startupMessage debug) (startupMessage debug)

namespace Secrets

variable (secrets : Secrets)

structure SearchClient (client client' : Search.SearchClient) : Prop where
  base_url : client.base_url = client'.base_url
  http : secrets.Client client.http client'.http

structure Services (services services' : AppServices) : Prop where
  database : secrets.Options services.database.pool services'.database.pool
  search : secrets.SearchClient services.search services'.search
  storage : services.storage = services'.storage
  readiness_cache : services.readiness_cache = services'.readiness_cache
  search_cache : services.search_cache = services'.search_cache

end Secrets

section Services

variable {secrets : Secrets} {external external' : External} {config config' : App.Config}
  {debug : String → String}

theorem normalizeBaseUrl_alike {urls urls' : UrlCrate} (h : secrets.Urls urls urls')
    (value : String) :
    Alike (SameSearchError debug) Eq (normalizeBaseUrl urls value)
      (normalizeBaseUrl urls' value) := by
  have hparse := h.parse value
  simp only [normalizeBaseUrl]
  generalize urls.parse value = result, urls'.parse value = result' at hparse ⊢
  cases hparse with
  | ok hurl =>
      subst hurl
      exact .same rfl fun _ => rfl
  | error => exact .error rfl

theorem buildSearchClient_alike (h : secrets.Libraries external external')
    (hconfig : secrets.Config config config') :
    Alike (SameSearchError debug) secrets.SearchClient (buildSearchClient external config)
      (buildSearchClient external' config') := by
  rw [buildSearchClient, buildSearchClient, SearchClient.new, SearchClient.new,
    hconfig.search.url, hconfig.search.request_timeout_ms]
  refine (normalizeBaseUrl_alike h.urls _).bind ?_
  rintro base _ rfl
  refine Alike.bind ((h.header _ _ hconfig.search.api_key).reported fun _ _ => rfl) ?_
  intro authorization authorization' hauthorization
  refine Alike.bind ((h.build ⟨authorization, _⟩ ⟨authorization', _⟩
    ⟨hauthorization, rfl⟩).reported fun _ _ => rfl) ?_
  exact fun _ _ _ => .ok ⟨rfl, ⟨hauthorization, rfl⟩⟩

theorem readChunks_alike {chunks chunks' : List (Except String (List UInt8))}
    (h : List.Forall₂ (Alike Whatever Eq) chunks chunks') :
    ∀ body, Alike (SameSearchError debug) Eq (readChunks body chunks)
      (readChunks body chunks') := by
  induction h with
  | nil => exact fun _ => .ok rfl
  | cons hchunk _ ih =>
      intro body
      cases hchunk with
      | error => exact .error rfl
      | ok hbytes =>
          subst hbytes
          simp only [readChunks]
          split
          · exact .error rfl
          · exact ih _

theorem receive_alike (h : secrets.Libraries external external') (field : String)
    {reply reply' : SendOutcome} (hreply : SameReply reply reply') :
    Alike (SameSearchError debug) Eq (SearchClient.receive external.json field reply)
      (SearchClient.receive external'.json field reply') := by
  cases hreply with
  | failed => exact .error rfl
  | response hchunks =>
      simp only [SearchClient.receive]
      split
      · exact .error rfl
      · refine Alike.bind (R := Eq) ?_ ?_
        · simp only [readResponse]
          split
          · exact .error rfl
          · exact readChunks_alike hchunks []
        · rintro body _ rfl
          exact (h.readField field body).reported fun _ _ => rfl

/-- **A request** goes to the same place with the header that goes with the key, and
what is made of the reply is the same. -/
theorem getJson_alike (h : secrets.Libraries external external')
    {client client' : SearchClient} (hclient : secrets.SearchClient client client')
    (path field : String) :
    Alike (SameSearchError debug) Eq (client.getJson external.backend path field)
      (client'.getJson external'.backend path field) := by
  rw [SearchClient.getJson, SearchClient.getJson, hclient.base_url]
  refine Alike.bind ((h.urls.join _ path).reported fun _ _ => rfl) ?_
  rintro url _ rfl
  exact receive_alike h field (h.reply _ _ url hclient.http)

theorem searchDiagnose_alike (h : secrets.Libraries external external')
    {client client' : SearchClient} (hclient : secrets.SearchClient client client') :
    Alike (SameSearchError debug) Eq (client.diagnose external.backend)
      (client'.diagnose external'.backend) := by
  refine (getJson_alike h hclient _ _).bind ?_
  rintro status _ rfl
  split
  · exact .error rfl
  · refine (getJson_alike h hclient _ _).bind ?_
    rintro version _ rfl
    exact .same rfl SameText.refl

theorem readProbe_alike {α : Type} (operation : String) {query query' : QueryOutcome α}
    (h : SameQuery query query') :
    Alike SameStoreError Eq (readProbe operation query) (readProbe operation query') := by
  cases h with
  | elapsed => exact .error rfl
  | failed => exact .error rfl
  | row hcolumn =>
      cases hcolumn with
      | ok hvalue => exact .ok hvalue
      | error => exact .error rfl

section Probes

variable {server server' : PostgresServer} {options options' : DatabaseOptions}

theorem ensureCompatibleServer_alike (h : secrets.Postgres server server')
    (hoptions : secrets.Options options options') :
    Alike SameStoreError Eq (PostgresStore.ensureCompatibleServer server ⟨options⟩)
      (PostgresStore.ensureCompatibleServer server' ⟨options'⟩) := by
  refine (readProbe_alike _ (h.server_version _ _ hoptions)).bind ?_
  rintro version _ rfl
  exact .same rfl SameText.refl

theorem databaseDiagnose_alike (h : secrets.Postgres server server')
    (hoptions : secrets.Options options options') :
    Alike SameStoreError Eq (PostgresStore.diagnose server ⟨options⟩)
      (PostgresStore.diagnose server' ⟨options'⟩) := by
  refine (ensureCompatibleServer_alike h hoptions).bind ?_
  rintro server _ rfl
  refine (readProbe_alike _ (h.schema_version _ _ hoptions)).bind ?_
  rintro schema _ rfl
  exact .same rfl SameText.refl

theorem databaseConnect_alike (h : secrets.Postgres server server')
    (hoptions : secrets.Options options options') :
    Alike SameStoreError (fun store store' => store = ⟨options⟩ ∧ store' = ⟨options'⟩)
      (PostgresStore.connect server options) (PostgresStore.connect server' options') := by
  have hconnect := h.connect _ _ hoptions
  simp only [PostgresStore.connect]
  generalize server.connect options = result, server'.connect options' = result' at hconnect ⊢
  cases hconnect with
  | ok => exact .ok ⟨rfl, rfl⟩
  | error => exact .error rfl

end Probes

theorem Secrets.Database.options {database database' : DatabaseConfig}
    (h : secrets.Database database database') :
    secrets.Options (databaseOptions database) (databaseOptions database') :=
  ⟨h.url, h.max_connections, h.acquire_timeout_ms⟩

/-- **`AppServices::connect`** leaves the same tree and comes to services that differ in
their secrets, or fails in the same words. -/
theorem connect_alike (h : secrets.Outside external external')
    (hconfig : secrets.Config config config') (machine : Machine Uuid) :
    AlikeRuns (SameStartupError debug) secrets.Services Eq
      (AppServices.connect external machine config)
      (AppServices.connect external' machine config') := by
  rw [AppServices.connect, AppServices.connect, hconfig.storage]
  refine AlikeRuns.bind (.ofExcept ((buildSearchClient_alike h.toLibraries hconfig).mapError
    fun _ _ hsame => hsame)) fun search search' hsearch => ?_
  refine (AlikeRuns.same SameText.refl).bind ?_
  rintro storage _ rfl
  have hoptions := hconfig.database.options
  refine AlikeRuns.bind (.ofExcept ((databaseConnect_alike h.postgres hoptions).mapError
    fun _ _ hsame => hsame)) ?_
  rintro _ _ ⟨rfl, rfl⟩
  refine AlikeRuns.bind (.ofExcept ((databaseDiagnose_alike h.postgres hoptions).mapError
    fun _ _ hsame => hsame)) fun _ _ _ => ?_
  refine (AlikeRuns.same SameText.refl).bind ?_
  rintro storage _ rfl
  exact .pure ⟨hoptions, hsearch, rfl, rfl, rfl⟩

section Migrate

variable {δ δ' : Type} {same : δ → δ' → Prop} {sqlx : Store.Sqlx δ} {sqlx' : Store.Sqlx δ'}

theorem setUp_alike (h : secrets.Sqlx same sqlx sqlx') (connection : Connection) (query : Query) :
    AlikeSteps SameStoreError Eq same (Store.Stepwise.setUp sqlx connection query)
      (Store.Stepwise.setUp sqlx' connection query) :=
  (AlikeSteps.call (h.execute connection query)).mapErr fun _ _ _ => rfl

/-- `PostgresStore::migrate` -/
theorem migrateDatabase_alike (h : secrets.Sqlx same sqlx sqlx')
    {options options' : DatabaseOptions} (hoptions : secrets.Options options options') (deadline : Option Nat)
    (application_role : String) :
    AlikeSteps SameStoreError Eq same
      (Store.Stepwise.migrate sqlx deadline ⟨options⟩ application_role)
      (Store.Stepwise.migrate sqlx' deadline ⟨options'⟩ application_role) := by
  have hmigration : AlikeSteps SameStoreError Eq same
      (Store.Stepwise.migration sqlx ⟨options⟩ application_role)
      (Store.Stepwise.migration sqlx' ⟨options'⟩ application_role) := by
    have hacquired : AlikeSteps SameStoreError Eq same
        (.mapErr .migrationSetup (.call (sqlx.acquire options)))
        (.mapErr .migrationSetup (.call (sqlx'.acquire options'))) :=
      (AlikeSteps.call (h.acquire _ _ hoptions)).mapErr fun _ _ _ => rfl
    refine hacquired.bind ?_
    rintro connection _ rfl
    refine (setUp_alike h connection _).bind fun _ _ _ => ?_
    refine (setUp_alike h connection _).bind fun _ _ _ => ?_
    refine (setUp_alike h connection _).bind fun _ _ _ => ?_
    refine (setUp_alike h connection _).bind fun _ _ _ => ?_
    exact (h.runMigrator connection).mapErr fun _ _ _ => rfl
  rw [Store.Stepwise.migrate, Store.Stepwise.migrate]
  refine (AlikeSteps.ask fun d d' hd =>
    ensureCompatibleServer_alike (h.server d d' hd) hoptions).bind fun _ _ _ => ?_
  refine (hmigration.within (SameText.refl _) deadline).bind fun _ _ _ => ?_
  refine AlikeSteps.bind (R := Eq) ?_ fun _ _ _ => AlikeSteps.pure rfl
  refine (AlikeSteps.ask fun d d' hd =>
    ensureCompatibleServer_alike (h.server d d' hd) hoptions).bind ?_
  rintro version _ rfl
  refine (AlikeSteps.ask fun d d' hd =>
    readProbe_alike _ ((h.server d d' hd).schema_version _ _ hoptions)).bind ?_
  rintro schema _ rfl
  split
  · exact AlikeSteps.throw rfl
  · exact AlikeSteps.pure rfl

/-- **`migrate`** asks the same of both databases. -/
theorem migrate_alike (h : secrets.Sqlx same sqlx sqlx') {config config' : MigrationConfig}
    (hconfig : secrets.Migration config config') (deadline : Option Nat) :
    AlikeSteps (SameStartupError debug) Eq same (App.Stepwise.migrate sqlx deadline config)
      (App.Stepwise.migrate sqlx' deadline config') := by
  rw [App.Stepwise.migrate, App.Stepwise.migrate, hconfig.application_role]
  have hoptions : secrets.Options
      ⟨config.migration_url.expose, config.database.max_connections,
        config.database.acquire_timeout_ms⟩
      ⟨config'.migration_url.expose, config'.database.max_connections,
        config'.database.acquire_timeout_ms⟩ :=
    ⟨hconfig.migration_url, hconfig.database.max_connections, hconfig.database.acquire_timeout_ms⟩
  refine AlikeSteps.bind (AlikeSteps.mapErr (AlikeSteps.ask fun d d' hd =>
    databaseConnect_alike (h.server d d' hd) hoptions) ?_) ?_
  · exact fun _ _ hsame => hsame
  rintro _ _ ⟨rfl, rfl⟩
  exact (migrateDatabase_alike h hoptions deadline _).mapErr fun _ _ hsame => hsame

end Migrate

end Services

/-! ## §5  `doctor` and the status endpoints -/

/-- What serves, between two requests. -/
structure Secrets.Running (secrets : Secrets) (running running' : App.Running) : Prop where
  services : secrets.Services running.services running'.services
  world : running.world = running'.world

section Reports

variable {secrets : Secrets} {external external' : External} {machine : Machine Uuid}
  {running running' : App.Running}

theorem checkOf_eq {ε α : Type} {E : ε → ε → Prop} {result result' : Except ε α}
    (h : Alike E Eq result result') {message : ε → String}
    (hmessage : ∀ e e', E e e' → message e = message e') (component : String)
    (detail : α → String) :
    checkOf component detail message result = checkOf component detail message result' := by
  cases h with
  | ok hvalue =>
      subst hvalue
      rfl
  | error herror => exact congrArg (DiagnosticCheck.failure component) (hmessage _ _ herror)

/-- **`run_doctor`** leaves the same tree and makes the same report. -/
theorem runDoctor_eq (h : secrets.Outside external external') {config config' : App.Config}
    (hconfig : secrets.Config config config') (machine : Machine Uuid) (world : World) :
    runDoctor external machine config world = runDoctor external' machine config' world := by
  have hdatabase : Alike SameStoreError Eq (doctorDatabase external config)
      (doctorDatabase external' config') := by
    refine (databaseConnect_alike h.postgres hconfig.database.options).bind ?_
    rintro _ _ ⟨rfl, rfl⟩
    exact databaseDiagnose_alike h.postgres hconfig.database.options
  have hsearch : Alike (SameSearchError external'.debug) Eq (doctorSearch external config)
      (doctorSearch external' config') :=
    (buildSearchClient_alike h.toLibraries hconfig).bind fun _ _ hclient =>
      searchDiagnose_alike h.toLibraries hclient
  have hstorage : doctorStorage machine config = doctorStorage machine config' := by
    rw [doctorStorage, doctorStorage, hconfig.storage]
  rw [runDoctor, runDoctor, h.debug, checkOf_eq hdatabase fun _ _ herror => herror,
    checkOf_eq hsearch fun _ _ herror => herror, hstorage]

/-- Both probes are logged, or neither is. -/
theorem probeEvents_eq {ε α : Type} {text : ε → String} {result result' : Except ε α}
    (h : Alike (SameText text text) Eq result result') (message : String) :
    probeEvents message text result = probeEvents message text result' := by
  cases h with
  | ok => rfl
  | error herror => exact congrArg (fun error => [probeFailed message error]) herror

/-- **The same is logged** while a status is found out. -/
theorem statusEvents_eq (h : secrets.Outside external external') (machine : Machine Uuid)
    (request : StatusRequest) (hrunning : secrets.Running running running') :
    statusEvents external machine request running =
      statusEvents external' machine request running' := by
  obtain ⟨⟨hdatabase, hsearch, hstorage, hreadiness, hstatus⟩, hworld⟩ := hrunning
  simp only [statusEvents, hreadiness, hstatus, hstorage, hworld, h.debug]
  rw [probeEvents_eq (databaseDiagnose_alike h.postgres hdatabase),
    probeEvents_eq (searchDiagnose_alike h.toLibraries hsearch)]

theorem giveStatus_alike (h : secrets.Outside external external') (machine : Machine Uuid)
    (request : StatusRequest) (hrunning : secrets.Running running running') :
    (giveStatus external machine request running).1 =
        (giveStatus external' machine request running').1 ∧
      secrets.Running (giveStatus external machine request running).2
        (giveStatus external' machine request running').2 := by
  obtain ⟨hservices, hworld⟩ := hrunning
  obtain ⟨hdatabase, hsearch, hstorage, hreadiness, hstatus⟩ := hservices
  cases hoperation : request.operation with
  | readiness =>
      simp only [giveStatus, hoperation, AppServices.readiness, hreadiness]
      cases running'.services.readiness_cache.filter (·.fresh request.now) with
      | some cached =>
          exact ⟨rfl, ⟨hdatabase, hsearch, hstorage, hreadiness, hstatus⟩, hworld⟩
      | none =>
          have hprobe := databaseDiagnose_alike h.postgres hdatabase
          have hreport : ∀ storage,
              readinessReport (running.services.database.diagnose external.postgres) storage =
                readinessReport (running'.services.database.diagnose external'.postgres)
                  storage := by
            intro storage
            rw [readinessReport, readinessReport, checkOf_eq hprobe fun _ _ _ => rfl]
          simp only [hstorage, hworld, hreport]
          exact ⟨trivial, ⟨hdatabase, hsearch, rfl, rfl, hstatus⟩, rfl⟩
  | searchStatus =>
      simp only [giveStatus, hoperation, AppServices.searchStatus, hstatus]
      cases running'.services.search_cache.filter (·.fresh request.now) with
      | some cached =>
          exact ⟨rfl, ⟨hdatabase, hsearch, hstorage, hreadiness, hstatus⟩, hworld⟩
      | none =>
          have hprobe := @searchDiagnose_alike secrets external external' external.debug
            h.toLibraries _ _ hsearch
          have hreport : searchReport (running.services.search.diagnose external.backend) =
              searchReport (running'.services.search.diagnose external'.backend) := by
            rw [searchReport, searchReport, checkOf_eq hprobe fun _ _ _ => rfl]
          simp only [hreport]
          exact ⟨trivial, ⟨hdatabase, hsearch, hstorage, hreadiness, rfl⟩, hworld⟩

end Reports

end WikiNext.Server
