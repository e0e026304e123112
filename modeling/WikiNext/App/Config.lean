import WikiNext.Foundation.Settings
import WikiNext.Foundation.UnixPath
import WikiNext.App.UrlPolicy

/-!
# Configuration

`Config` for the server and `MigrationConfig` for the `migrate` command, each
with its own loader: read the file, deserialise it, apply the environment,
check the result.

§1 the sections, §2 deserialisation, §3 reading, §4 overrides, §5 checks,
§6 the runtime loader, §7 the migration loader.
-/

namespace WikiNext.App

open WikiNext.Foundation

def MAX_CONFIG_BYTES : Nat := 1024 * 1024

def MIGRATION_URL_ENV : String := "WIKINEXT_DATABASE_MIGRATION_URL"

def AMBIENT_POSTGRES_ENV : List String :=
  ["PGPORT", "PGHOSTADDR", "PGHOST", "PGUSER", "PGDATABASE", "PGPASSWORD", "PGSSLROOTCERT",
    "PGSSLCERT", "PGSSLKEY", "PGSSLMODE", "PGAPPNAME", "PGOPTIONS", "PGPASSFILE"]

/-! ## §1  The sections -/

structure AppConfig where
  name : String
deriving DecidableEq, Repr

structure ServerConfig where
  bind : SocketAddr
  request_timeout_ms : Nat
  shutdown_timeout_seconds : Nat
deriving DecidableEq, Repr

structure DatabaseConfig where
  url : String
  max_connections : Nat
  acquire_timeout_ms : Nat
deriving DecidableEq, Repr

structure SecretString where
  expose : String
deriving DecidableEq, Repr

structure SearchConfig where
  url : String
  api_key : SecretString
  request_timeout_ms : Nat
deriving DecidableEq, Repr

structure StorageConfig where
  data_dir : PathBuf
deriving DecidableEq, Repr

inductive LogFormat where
  | pretty
  | json
deriving DecidableEq, Repr

/-- `LogFormat::from_str` -/
def LogFormat.fromStr (value : String) : Option LogFormat :=
  if value = "pretty" then some .pretty
  else if value = "json" then some .json
  else none

structure ObservabilityConfig where
  filter : String
  format : LogFormat
deriving DecidableEq, Repr

structure Config where
  app : AppConfig
  server : ServerConfig
  database : DatabaseConfig
  search : SearchConfig
  storage : StorageConfig
  observability : ObservabilityConfig
deriving DecidableEq, Repr

structure MigrationConfig where
  database : DatabaseConfig
  observability : ObservabilityConfig
  migration_url : SecretString
  application_role : String
deriving DecidableEq, Repr

structure MigrationConfigFile where
  database : DatabaseConfig
  observability : ObservabilityConfig
deriving DecidableEq, Repr

def defaultRequestTimeoutMs : Nat := 10000
def defaultShutdownTimeoutSeconds : Nat := 20
def defaultDatabaseConnections : Nat := 16
def defaultDatabaseAcquireTimeoutMs : Nat := 5000
def defaultSearchTimeoutMs : Nat := 2000
def defaultLogFilter : String := "wikinext=info,tower_http=info"

def ObservabilityConfig.default : ObservabilityConfig := ⟨defaultLogFilter, .pretty⟩

/-! ## §2  Deserialisation -/

section Deserialise

variable (toml : TomlCrate)

def AppConfig.deserialize (value : TomlValue) : Except String AppConfig := do
  let entries ← toml.structEntries ["name"] value
  denyUnknown ["name"] entries
  let name ← required readString entries "name"
  pure { name := name }

def ServerConfig.deserialize (value : TomlValue) : Except String ServerConfig := do
  let fields := ["bind", "request_timeout_ms", "shutdown_timeout_seconds"]
  let entries ← toml.structEntries fields value
  denyUnknown fields entries
  let bind ← required (readParsed SocketAddr.parse) entries "bind"
  let request ← withDefault (readUnsigned 64) defaultRequestTimeoutMs entries "request_timeout_ms"
  let shutdown ← withDefault (readUnsigned 64) defaultShutdownTimeoutSeconds entries
    "shutdown_timeout_seconds"
  pure { bind := bind, request_timeout_ms := request, shutdown_timeout_seconds := shutdown }

def DatabaseConfig.deserialize (value : TomlValue) : Except String DatabaseConfig := do
  let fields := ["url", "max_connections", "acquire_timeout_ms"]
  let entries ← toml.structEntries fields value
  denyUnknown fields entries
  let url ← required readString entries "url"
  let connections ← withDefault (readUnsigned 32) defaultDatabaseConnections entries
    "max_connections"
  let timeout ← withDefault (readUnsigned 64) defaultDatabaseAcquireTimeoutMs entries
    "acquire_timeout_ms"
  pure { url := url, max_connections := connections, acquire_timeout_ms := timeout }

def SearchConfig.deserialize (value : TomlValue) : Except String SearchConfig := do
  let fields := ["url", "api_key", "request_timeout_ms"]
  let entries ← toml.structEntries fields value
  denyUnknown fields entries
  let url ← required readString entries "url"
  let key ← required readString entries "api_key"
  let timeout ← withDefault (readUnsigned 64) defaultSearchTimeoutMs entries "request_timeout_ms"
  pure { url := url, api_key := ⟨key⟩, request_timeout_ms := timeout }

def StorageConfig.deserialize (value : TomlValue) : Except String StorageConfig := do
  let entries ← toml.structEntries ["data_dir"] value
  denyUnknown ["data_dir"] entries
  let dir ← required readString entries "data_dir"
  pure { data_dir := ⟨dir.toList⟩ }

def LogFormat.deserialize (value : TomlValue) : Except String LogFormat :=
  match (toml.unitVariant value).bind LogFormat.fromStr with
  | some format => .ok format
  | none => .error "unknown variant"

def ObservabilityConfig.deserialize (value : TomlValue) : Except String ObservabilityConfig := do
  let entries ← toml.structEntries ["filter", "format"] value
  denyUnknown ["filter", "format"] entries
  let filter ← withDefault readString defaultLogFilter entries "filter"
  let format ← withDefault (LogFormat.deserialize toml) .pretty entries "format"
  pure { filter := filter, format := format }

def Config.deserialize (value : TomlValue) : Except String Config := do
  let fields := ["app", "server", "database", "search", "storage", "observability"]
  let entries ← toml.structEntries fields value
  denyUnknown fields entries
  let app ← required (AppConfig.deserialize toml) entries "app"
  let server ← required (ServerConfig.deserialize toml) entries "server"
  let database ← required (DatabaseConfig.deserialize toml) entries "database"
  let search ← required (SearchConfig.deserialize toml) entries "search"
  let storage ← required (StorageConfig.deserialize toml) entries "storage"
  let observability ← withDefault (ObservabilityConfig.deserialize toml) .default entries
    "observability"
  pure {
    app := app, server := server, database := database, search := search, storage := storage
    observability := observability }

/-- Other sections are ignored. -/
def MigrationConfigFile.deserialize (value : TomlValue) : Except String MigrationConfigFile := do
  let entries ← toml.structEntries ["database", "observability"] value
  let database ← required (DatabaseConfig.deserialize toml) entries "database"
  let observability ← withDefault (ObservabilityConfig.deserialize toml) .default entries
    "observability"
  pure { database := database, observability := observability }

end Deserialise

/-! ## §3  Reading -/

/-- The bytes behind a path, or why they cannot be read. -/
abbrev Files : Type := String → Except String (List UInt8)

/-- `read_bounded`: at most one byte more than the limit is read. -/
def readBounded (files : Files) (path : String) : Except ConfigError String :=
  match files path with
  | .error detail => .error (.read path (.io detail))
  | .ok bytes =>
      match String.fromUTF8? ⟨(bytes.take (MAX_CONFIG_BYTES + 1)).toArray⟩ with
      | none => .error (.read path .invalidUtf8)
      | some text =>
          if text.utf8ByteSize > MAX_CONFIG_BYTES then .error (.tooLarge path MAX_CONFIG_BYTES)
          else .ok text

/-- `toml::from_str` -/
def fromStr {α : Type} (toml : TomlCrate) (deserialize : TomlValue → Except String α)
    (text : String) : Except ConfigError α :=
  (toml.parse text >>= fun entries => deserialize (.table entries)).mapError .parse

section Environment

variable (env : Environment)

/-- `read_environment` -/
def readEnvironment (key : String) : Except ConfigError (Option String) :=
  match env key with
  | .value text => .ok (some text)
  | .notPresent => .ok none
  | .notUnicode => .error (.environment key)

def rejectRuntimeMigrationSecret (value : Option String) : Except ConfigError Unit :=
  if value.isSome then .error (.forbiddenEnvironment MIGRATION_URL_ENV) else .ok ()

def rejectAmbientPostgresValue (key : String) (value : Option String) : Except ConfigError Unit :=
  if value.isSome then .error (.ambientPostgresEnvironment key) else .ok ()

/-- The loop of `reject_ambient_postgres_environment`. -/
def rejectAmbientFrom : List String → Except ConfigError Unit
  | [] => .ok ()
  | key :: rest => do
      let value ← readEnvironment env key
      rejectAmbientPostgresValue key value
      rejectAmbientFrom rest

def rejectAmbientPostgresEnvironment : Except ConfigError Unit :=
  rejectAmbientFrom env AMBIENT_POSTGRES_ENV

/-! ## §4  Overrides -/

/-- `override_parsed`; the result is the new value of the target. -/
def overrideParsed {α : Type} (parse : String → Option α) (key : String) (target : α) :
    Except ConfigError α := do
  match ← readEnvironment env key with
  | none => .ok target
  | some value =>
      match parse value with
      | some parsed => .ok parsed
      | none => .error (.environment key)

/-- `override_string` -/
def overrideString (key : String) (target : String) : Except ConfigError String := do
  match ← readEnvironment env key with
  | none => .ok target
  | some value => .ok value

/-- `Config::apply_environment` -/
def Config.applyEnvironment (config : Config) : Except ConfigError Config := do
  let name ← overrideString env "WIKINEXT_APP_NAME" config.app.name
  let bind ← overrideParsed env SocketAddr.parse "WIKINEXT_BIND" config.server.bind
  let request ← overrideParsed env (parseUnsigned 64) "WIKINEXT_REQUEST_TIMEOUT_MS"
    config.server.request_timeout_ms
  let shutdown ← overrideParsed env (parseUnsigned 64) "WIKINEXT_SHUTDOWN_TIMEOUT_SECONDS"
    config.server.shutdown_timeout_seconds
  let databaseUrl ← overrideString env "WIKINEXT_DATABASE_URL" config.database.url
  let connections ← overrideParsed env (parseUnsigned 32) "WIKINEXT_DATABASE_MAX_CONNECTIONS"
    config.database.max_connections
  let acquire ← overrideParsed env (parseUnsigned 64) "WIKINEXT_DATABASE_ACQUIRE_TIMEOUT_MS"
    config.database.acquire_timeout_ms
  let searchUrl ← overrideString env "WIKINEXT_MEILISEARCH_URL" config.search.url
  let key ← readEnvironment env "WIKINEXT_MEILISEARCH_API_KEY"
  let api_key := key.elim config.search.api_key SecretString.mk
  let searchTimeout ← overrideParsed env (parseUnsigned 64) "WIKINEXT_MEILISEARCH_TIMEOUT_MS"
    config.search.request_timeout_ms
  let dir ← readEnvironment env "WIKINEXT_DATA_DIR"
  let data_dir := dir.elim config.storage.data_dir fun value => PathBuf.mk value.toList
  let filter ← overrideString env "WIKINEXT_LOG_FILTER" config.observability.filter
  let format ← overrideParsed env LogFormat.fromStr "WIKINEXT_LOG_FORMAT"
    config.observability.format
  pure {
    app := { name := name }
    server := {
      bind := bind, request_timeout_ms := request, shutdown_timeout_seconds := shutdown }
    database := {
      url := databaseUrl, max_connections := connections, acquire_timeout_ms := acquire }
    search := { url := searchUrl, api_key := api_key, request_timeout_ms := searchTimeout }
    storage := { data_dir := data_dir }
    observability := { filter := filter, format := format } }

/-- `MigrationConfigFile::apply_environment` -/
def MigrationConfigFile.applyEnvironment (file : MigrationConfigFile) :
    Except ConfigError MigrationConfigFile := do
  let url ← overrideString env "WIKINEXT_DATABASE_URL" file.database.url
  let connections ← overrideParsed env (parseUnsigned 32) "WIKINEXT_DATABASE_MAX_CONNECTIONS"
    file.database.max_connections
  let acquire ← overrideParsed env (parseUnsigned 64) "WIKINEXT_DATABASE_ACQUIRE_TIMEOUT_MS"
    file.database.acquire_timeout_ms
  let filter ← overrideString env "WIKINEXT_LOG_FILTER" file.observability.filter
  let format ← overrideParsed env LogFormat.fromStr "WIKINEXT_LOG_FORMAT"
    file.observability.format
  pure {
    database := { url := url, max_connections := connections, acquire_timeout_ms := acquire }
    observability := { filter := filter, format := format } }

end Environment

/-! ## §5  Checks -/

/-- A bound check of a numeric field. -/
def checkRange (field reason : String) (low high value : Nat) : Except ConfigError Unit :=
  if low ≤ value ∧ value ≤ high then .ok () else .error (invalid field reason)

/-- `validate_database_config` -/
def validateDatabaseConfig (urls : UrlCrate) (database : DatabaseConfig) :
    Except ConfigError Unit := do
  checkRange "database.max_connections" "допустим диапазон 1..=128" 1 128 database.max_connections
  checkRange "database.acquire_timeout_ms" "допустим диапазон 1..=60000" 1 60000
    database.acquire_timeout_ms
  validateDatabaseUrl urls "database.url" database.url
  let _ ← databaseRole urls "database.url" database.url
  pure ()

/-- `validate_observability` -/
def validateObservability (config : ObservabilityConfig) : Except ConfigError Unit :=
  if trim config.filter = [] then
    .error (invalid "observability.filter" "фильтр логов не может быть пустым")
  else .ok ()

def validateAppName (name : String) : Except ConfigError Unit :=
  let app_name := trim name
  if app_name = [] ∨ app_name.length > 80 then
    .error (invalid "app.name" "нужна строка длиной от 1 до 80 символов")
  else .ok ()

def validateApiKey (key : SecretString) : Except ConfigError Unit :=
  if key.expose.utf8ByteSize < 16 then
    .error (invalid "search.api_key" "ключ Meilisearch должен содержать не менее 16 байт")
  else .ok ()

def validateDataDir (path : PathBuf) : Except ConfigError Unit :=
  if path.text = [] ∨ path.components.any (· == .parentDir) ∨
      ¬ path.components.any Component.isNormal then
    .error (invalid "storage.data_dir" "нужен отдельный каталог без переходов через ..")
  else .ok ()

/-- `Config::validate` -/
def Config.validate (urls : UrlCrate) (config : Config) : Except ConfigError Unit := do
  validateAppName config.app.name
  checkRange "server.request_timeout_ms" "допустим диапазон 1..=120000" 1 120000
    config.server.request_timeout_ms
  checkRange "server.shutdown_timeout_seconds" "допустим диапазон 1..=300" 1 300
    config.server.shutdown_timeout_seconds
  validateDatabaseConfig urls config.database
  validateSearchUrl urls config.search.url
  validateApiKey config.search.api_key
  checkRange "search.request_timeout_ms" "допустим диапазон 1..=60000" 1 60000
    config.search.request_timeout_ms
  validateDataDir config.storage.data_dir
  validateObservability config.observability

/-! ## §6  The runtime loader -/

/-- `Config::from_toml` -/
def Config.fromToml (toml : TomlCrate) (urls : UrlCrate) (text : String) :
    Except ConfigError Config := do
  let config ← fromStr toml (Config.deserialize toml) text
  config.validate urls
  pure config

/-- `Config::load` -/
def Config.load (toml : TomlCrate) (urls : UrlCrate) (files : Files) (env : Environment)
    (path : String) : Except ConfigError Config := do
  let secret ← readEnvironment env MIGRATION_URL_ENV
  rejectRuntimeMigrationSecret secret
  rejectAmbientPostgresEnvironment env
  let text ← readBounded files path
  let config ← fromStr toml (Config.deserialize toml) text
  let config ← config.applyEnvironment env
  config.validate urls
  pure config

/-! ## §7  The migration loader -/

/-- `MigrationConfig::build` -/
def MigrationConfig.build (urls : UrlCrate) (file : MigrationConfigFile)
    (migration_url : String) : Except ConfigError MigrationConfig := do
  validateDatabaseConfig urls file.database
  validateDatabaseUrl urls "migration.database_url" migration_url
  let _ ← databaseRole urls "migration.database_url" migration_url
  validateObservability file.observability
  let application_role ← databaseRole urls "database.url" file.database.url
  pure {
    database := file.database
    observability := file.observability
    migration_url := ⟨migration_url⟩
    application_role := application_role }

/-- `MigrationConfig::from_toml` -/
def MigrationConfig.fromToml (toml : TomlCrate) (urls : UrlCrate) (text : String) :
    Except ConfigError MigrationConfig := do
  let file ← fromStr toml (MigrationConfigFile.deserialize toml) text
  MigrationConfig.build urls file file.database.url

/-- `MigrationConfig::load` -/
def MigrationConfig.load (toml : TomlCrate) (urls : UrlCrate) (files : Files)
    (env : Environment) (path : String) : Except ConfigError MigrationConfig := do
  rejectAmbientPostgresEnvironment env
  let text ← readBounded files path
  let file ← fromStr toml (MigrationConfigFile.deserialize toml) text
  let file ← file.applyEnvironment env
  let migration ← readEnvironment env MIGRATION_URL_ENV
  MigrationConfig.build urls file (migration.getD file.database.url)

end WikiNext.App
