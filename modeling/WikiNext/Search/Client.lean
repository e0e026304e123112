import WikiNext.Foundation.Url

/-!
# The Meilisearch client

`crates/search/src/lib.rs`: building the client from its settings, reading a
bounded reply and the two probes behind `diagnose`. The HTTP library, the JSON
decoder and the replies themselves are parameters.
-/

namespace WikiNext.Search

open WikiNext.Foundation

def EXPECTED_MEILISEARCH_VERSION : String := "1.45.1"

def MAX_DIAGNOSTIC_RESPONSE_BYTES : Nat := 64 * 1024

structure SearchStatus where
  version : String
deriving DecidableEq, Repr

/-- `reqwest::StatusCode`: the code and how it is displayed. -/
structure StatusCode where
  code : Nat
  text : String
deriving DecidableEq, Repr

def StatusCode.is_success (status : StatusCode) : Bool := 200 ≤ status.code && status.code < 300

inductive SearchError where
  | invalidUrl (source : UrlParseError)
  | unsupportedScheme
  | insecureRemote
  | unsafeUrl
  | invalidApiKey (detail : String)
  | client (detail : String)
  | request (detail : String)
  | http (status : StatusCode)
  | responseTooLarge
  | decode (detail : String)
  | unhealthy (status : String)
  | incompatibleVersion (expected actual : String)
deriving DecidableEq, Repr

/-- The `Display` text; `debug` is how Rust writes a string with its `Debug`. -/
def SearchError.message (debug : String → String) : SearchError → String
  | .invalidUrl _ => "некорректный URL Meilisearch"
  | .unsupportedScheme => "URL Meilisearch должен использовать http или https"
  | .insecureRemote => "удалённый Meilisearch требует HTTPS"
  | .unsafeUrl => "URL Meilisearch не должен содержать логин, пароль, query или fragment"
  | .invalidApiKey _ => "ключ Meilisearch нельзя передать в HTTP-заголовке"
  | .client _ => "не удалось создать HTTP-клиент Meilisearch"
  | .request _ => "Meilisearch недоступен"
  | .http status => "Meilisearch вернул HTTP " ++ status.text
  | .responseTooLarge =>
      "ответ Meilisearch превышает предел " ++ toString MAX_DIAGNOSTIC_RESPONSE_BYTES ++ " байт"
  | .decode _ => "Meilisearch вернул некорректный JSON"
  | .unhealthy status => "Meilisearch сообщил состояние " ++ debug status
  | .incompatibleVersion expected actual =>
      "ожидался Meilisearch " ++ expected ++ ", получена версия " ++ actual

/-! ## §1  The libraries and the server -/

/-- A built HTTP client. -/
structure HttpClient where
  authorization : String
  request_timeout_ms : Nat
deriving DecidableEq, Repr

structure HttpCrate where
  /-- `HeaderValue::from_str` -/
  headerValue : String → Except String String
  /-- `Client::builder()..build()` with these headers and this timeout. -/
  build : HttpClient → Except String Unit

/-- What comes of one request: an error, or a response that arrives in chunks
until one of them fails. -/
inductive SendOutcome where
  | failed (detail : String)
  | response (status : StatusCode) (content_length : Option Nat)
      (chunks : List (Except String (List UInt8)))

/-- How the server answers a client's request. -/
abbrev Meilisearch : Type := HttpClient → Url → SendOutcome

structure JsonCrate where
  /-- `serde_json::from_slice` of a structure with one string field of this name. -/
  readField : String → List UInt8 → Except String String

/-! ## §2  Building the client -/

structure SearchClient where
  base_url : Url
  http : HttpClient
deriving DecidableEq, Repr

def urlHostIsLoopback (url : Url) : Bool :=
  match url.host with
  | some (.domain host) =>
      eqIgnoreAsciiCase host "localhost" ||
        match IpAddr.parse host with
        | some address => address.isLoopback
        | none => false
  | some (.ipv4 address) => address.isLoopback
  | some (.ipv6 address) => address.isLoopback
  | none => false

/-- `str::ends_with('/')` -/
def endsWithSlash (text : String) : Bool := text.toList.getLast? == some '/'

/-- `normalize_base_url` -/
def normalizeBaseUrl (urls : UrlCrate) (value : String) : Except SearchError Url :=
  match urls.parse value with
  | .error e => .error (.invalidUrl e)
  | .ok url =>
      if url.scheme ∉ ["http", "https"] then .error .unsupportedScheme
      else if url.scheme = "http" ∧ ¬ urlHostIsLoopback url then .error .insecureRemote
      else if ¬ url.username.isEmpty ∨ url.password.isSome ∨ url.query.isSome ∨
          url.fragment.isSome then
        .error .unsafeUrl
      else if !endsWithSlash url.path then .ok { url with path := url.path ++ "/" }
      else .ok url

/-- `SearchClient::new` -/
def SearchClient.new (urls : UrlCrate) (http : HttpCrate) (base_url api_key : String)
    (request_timeout_ms : Nat) : Except SearchError SearchClient := do
  let base_url ← normalizeBaseUrl urls base_url
  let authorization ← (http.headerValue ("Bearer " ++ api_key)).mapError .invalidApiKey
  let client : HttpClient :=
    { authorization := authorization, request_timeout_ms := request_timeout_ms }
  (http.build client).mapError .client
  pure { base_url := base_url, http := client }

/-! ## §3  Bounded reading -/

/-- `usize::checked_add` -/
def checkedAdd (a b : Nat) : Option Nat := if a + b < 2 ^ 64 then some (a + b) else none

/-- `append_bounded`; the result is the new buffer. -/
def appendBounded (body chunk : List UInt8) : Except SearchError (List UInt8) :=
  match (checkedAdd body.length chunk.length).filter (· ≤ MAX_DIAGNOSTIC_RESPONSE_BYTES) with
  | none => .error .responseTooLarge
  | some _ => .ok (body ++ chunk)

/-- The loop over the chunks of a response. -/
def readChunks : (body : List UInt8) → List (Except String (List UInt8)) →
    Except SearchError (List UInt8)
  | body, [] => .ok body
  | _, .error e :: _ => .error (.request e)
  | body, .ok chunk :: rest =>
      match appendBounded body chunk with
      | .error e => .error e
      | .ok body => readChunks body rest

/-- The reading part of `get_json`. -/
def readResponse (content_length : Option Nat) (chunks : List (Except String (List UInt8))) :
    Except SearchError (List UInt8) :=
  if content_length.any (· > MAX_DIAGNOSTIC_RESPONSE_BYTES) then .error .responseTooLarge
  else readChunks [] chunks

/-! ## §4  Probes -/

/-- Everything a probe depends on besides the client. -/
structure SearchBackend where
  urls : UrlCrate
  json : JsonCrate
  replies : Meilisearch

namespace SearchClient

variable (backend : SearchBackend)

/-- The part of `get_json` after `send`. -/
def receive (json : JsonCrate) (field : String) : SendOutcome → Except SearchError String
  | .failed e => .error (.request e)
  | .response status content_length chunks =>
      if !status.is_success then .error (.http status)
      else do
        let body ← readResponse content_length chunks
        (json.readField field body).mapError .decode

/-- `get_json` for a structure with one string field. -/
def getJson (client : SearchClient) (path field : String) : Except SearchError String := do
  let url ← (backend.urls.join client.base_url path).mapError .invalidUrl
  receive backend.json field (backend.replies client.http url)

/-- `get_json` sends one request, to the joined URL. -/
theorem getJson_eq (client : SearchClient) {path field : String} {url : Url}
    (h : backend.urls.join client.base_url path = .ok url) :
    client.getJson backend path field =
      receive backend.json field (backend.replies client.http url) := by
  rw [getJson, h]
  rfl

/-- `SearchClient::diagnose` -/
def diagnose (client : SearchClient) : Except SearchError SearchStatus := do
  let status ← client.getJson backend "health" "status"
  if status ≠ "available" then .error (.unhealthy status)
  else do
    let version ← client.getJson backend "version" "pkgVersion"
    if version ≠ EXPECTED_MEILISEARCH_VERSION then
      .error (.incompatibleVersion EXPECTED_MEILISEARCH_VERSION version)
    else .ok { version := version }

end SearchClient

end WikiNext.Search
