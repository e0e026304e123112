import WikiNext.Foundation.Url

/-!
# URL policy of the configuration

The checks `Config` makes on the two URLs it holds: the PostgreSQL DSN with
the role name in it, and the Meilisearch base URL. Every refusal names the
field and the reason.
-/

namespace WikiNext.App

open WikiNext.Foundation

/-! ## §1  Errors -/

/-- Why a configuration file could not be read. -/
inductive ReadSource where
  | io (detail : String)
  | invalidUtf8
deriving DecidableEq, Repr

inductive ConfigError where
  | read (path : String) (source : ReadSource)
  | tooLarge (path : String) (limit : Nat)
  | parse (detail : String)
  | environment (key : String)
  | forbiddenEnvironment (key : String)
  | ambientPostgresEnvironment (key : String)
  | validation (field reason : String)
deriving DecidableEq, Repr

def invalid (field reason : String) : ConfigError := .validation field reason

/-! ## §2  Hosts and roles -/

def urlHostIsLoopback (url : Url) : Bool :=
  match url.host with
  | some (.domain host) =>
      eqIgnoreAsciiCase host "localhost" ||
        match IpAddr.parse host with
        | some address => address.isLoopback
        | none => false
  | some (.ipv4 address) => address.isLoopback
  | some (.ipv6 address) => address.isLoopback
  | none => false

/-- A plain ASCII identifier of at most 63 bytes. -/
def roleIsValid (role : String) : Bool :=
  !role.isEmpty && decide (role.utf8ByteSize ≤ 63) &&
    (match role.toList.head? with
      | some character => character == '_' || character.isAlpha
      | none => false) &&
    role.toList.all (fun character => character == '_' || character.isAlphanum)

/-- The role name of a DSN. -/
def databaseRole (urls : UrlCrate) (field value : String) : Except ConfigError String :=
  match urls.parse value with
  | .error _ => .error (invalid field "некорректный PostgreSQL URL")
  | .ok url =>
      let role := url.username
      if !roleIsValid role then
        .error (invalid field "имя роли PostgreSQL должно быть простым ASCII identifier")
      else .ok role

/-! ## §3  The DSN -/

/-- Query keys that would override a part of the connection. -/
def OVERRIDE_KEYS : List String :=
  ["host", "hostaddr", "user", "password", "dbname", "port", "options"]

/-- The loop over the query pairs. The accumulator is the `sslmode` seen so
far; the guard of the source stores the value before it tests the old one, so
a second `sslmode` is the duplicate. -/
def checkQueryPairs (field : String) :
    Option String → List (String × String) → Except ConfigError (Option String)
  | ssl_mode, [] => .ok ssl_mode
  | ssl_mode, (key, value) :: rest =>
      if key ∈ OVERRIDE_KEYS ∨ startsWith key "options[" then
        .error (invalid field "query-переопределение параметров подключения запрещено")
      else if key = "ssl-mode" then
        .error (invalid field "используйте только параметр sslmode")
      else if key = "sslmode" then
        if ssl_mode.isSome then
          .error (invalid field "параметр sslmode нельзя дублировать")
        else checkQueryPairs field (some value) rest
      else .error (invalid field "из query-параметров разрешён только sslmode")

/-- The policy on a parsed DSN. -/
def checkDatabaseUrl (field : String) (url : Url) : Except ConfigError Unit :=
  if url.scheme ∉ ["postgres", "postgresql"] then
    .error (invalid field "ожидается postgres:// или postgresql://")
  else if url.host.isNone then
    .error (invalid field "PostgreSQL URL должен явно задавать host")
  else if url.password.all String.isEmpty then
    .error (invalid field "PostgreSQL URL должен явно задавать непустой password")
  else if (trimMatches '/' url.path).isEmpty then
    .error (invalid field "PostgreSQL URL должен явно задавать имя базы")
  else if url.fragment.isSome then
    .error (invalid field "fragment в PostgreSQL URL запрещён")
  else
    match checkQueryPairs field none url.query_pairs with
    | .error e => .error e
    | .ok ssl_mode =>
        if ¬ urlHostIsLoopback url ∧ ssl_mode ≠ some "verify-full" then
          .error (invalid field "удалённый PostgreSQL требует sslmode=verify-full")
        else .ok ()

def validateDatabaseUrl (urls : UrlCrate) (field value : String) : Except ConfigError Unit :=
  match urls.parse value with
  | .error _ => .error (invalid field "некорректный PostgreSQL URL")
  | .ok url => checkDatabaseUrl field url

/-! ## §4  The search URL -/

def validateSearchUrl (urls : UrlCrate) (value : String) : Except ConfigError Unit :=
  match urls.parse value with
  | .error _ => .error (invalid "search.url" "некорректный URL")
  | .ok url =>
      if url.scheme ∉ ["http", "https"] then
        .error (invalid "search.url" "ожидается http:// или https://")
      else if ¬ url.username.isEmpty ∨ url.password.isSome ∨ url.query.isSome ∨
          url.fragment.isSome then
        .error (invalid "search.url" "URL не должен содержать credentials, query или fragment")
      else if url.scheme = "http" ∧ ¬ urlHostIsLoopback url then
        .error (invalid "search.url" "удалённый Meilisearch требует HTTPS")
      else .ok ()

end WikiNext.App
