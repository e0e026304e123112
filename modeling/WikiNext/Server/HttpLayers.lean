import WikiNext.Foundation.Middleware
import WikiNext.Server.HealthEndpoints
import WikiNext.Store.UuidText

/-!
# The HTTP stack

`crates/server/src/lib.rs`: the routes and the layers around them. The layers
of `tower-http` and the router of `axum` are parameters, with what their
documentation says of them.

§1 requests and responses, §2 `tower-http`, §3 `axum`, §4 the server.
-/

namespace WikiNext.Server

open WikiNext.Foundation WikiNext.Core WikiNext.App WikiNext.Store

/-! ## §1  Requests and responses -/

inductive Method where
  | get
  | head
  | other (name : String)
deriving DecidableEq, Repr

structure Request where
  method : Method
  path : String
  version : String
  headers : HeaderMap
deriving DecidableEq

inductive Body where
  | empty
  | text (content : String)
  | liveness (status : String)
  | report (report : DiagnosticReport)
deriving DecidableEq, Repr

structure Response where
  status : Nat
  headers : HeaderMap
  body : Body
deriving DecidableEq

/-- What a call finds around it: the time, and a UUID that nobody has seen. -/
structure Surroundings where
  now : Instant
  uuid : Uuid

structure Span where
  name : String
  request_id : String
  method : Method
  path : String
  version : String
deriving DecidableEq, Repr

abbrev HttpService : Type := Service Surroundings Request Span Response
abbrev HttpLayer : Type := Layer Surroundings Request Span Response

def Request.withHeaders (request : Request) (headers : HeaderMap) : Request :=
  { request with headers := headers }

def Response.withHeaders (response : Response) (headers : HeaderMap) : Response :=
  { response with headers := headers }

def INTERNAL_SERVER_ERROR : Nat := 500
def GATEWAY_TIMEOUT : Nat := 504
def NOT_FOUND : Nat := 404
def METHOD_NOT_ALLOWED : Nat := 405

def CONTENT_TYPE : HeaderName := ⟨"content-type", by decide⟩
def CONTENT_LENGTH : HeaderName := ⟨"content-length", by decide⟩
def ALLOW : HeaderName := ⟨"allow", by decide⟩

/-- The headers that libraries put on responses they make themselves. -/
def LIBRARY_HEADERS : List HeaderName := [CONTENT_TYPE, CONTENT_LENGTH, ALLOW]

/-- No header but those. -/
def Response.Plain (response : Response) : Prop :=
  ∀ name ∉ LIBRARY_HEADERS, response.headers.get name = none

/-! ## §2  `tower-http` -/

structure TowerHttp where
  /-- `MakeRequestUuid` -/
  makeRequestUuid : Surroundings → HeaderValue
  /-- `SetRequestIdLayer`, with what makes an id -/
  setRequestId : HeaderName → (Surroundings → HeaderValue) → HttpLayer
  /-- `PropagateRequestIdLayer` -/
  propagateRequestId : HeaderName → HttpLayer
  /-- `SetResponseHeaderLayer::if_not_present` -/
  setResponseHeaderIfNotPresent : HeaderName → HeaderValue → HttpLayer
  /-- `TraceLayer`, with what makes a span -/
  trace : (Request → Span) → HttpLayer
  /-- `CatchPanicLayer` -/
  catchPanic : HttpLayer
  /-- `TimeoutLayer::with_status_code` -/
  timeout : Nat → Nat → HttpLayer
  /-- When a timer that is started now goes off. -/
  wake : Instant → Nat → Instant

/-- An id is set on a request that has none. -/
def setIfMissing (name : HeaderName) (value : HeaderValue) (request : Request) : Request :=
  request.withHeaders (request.headers.insertIfAbsent name value)

/-- The id of the request goes to a response that has none. -/
def propagate (name : HeaderName) (request : Request) (response : Response) : Response :=
  match request.headers.get name with
  | some value => response.withHeaders (response.headers.insertIfAbsent name value)
  | none => response

/-- What the documentation says of each layer. Which answer a call gets that is
over at the very poll that finds its time used up is left open. -/
structure TowerHttp.Documented (tower : TowerHttp) : Prop where
  make_request_uuid : ∀ surroundings,
    tower.makeRequestUuid surroundings = .ofText (uuidText surroundings.uuid)
  set_request_id : ∀ name make, tower.setRequestId name make =
    Layer.mapRequest fun surroundings request => setIfMissing name (make surroundings) request
  propagate_request_id : ∀ name, tower.propagateRequestId name =
    Layer.mapResponse fun _ request response => propagate name request response
  set_response_header : ∀ name value, tower.setResponseHeaderIfNotPresent name value =
    Layer.mapResponse fun _ _ response =>
      response.withHeaders (response.headers.insertIfAbsent name value)
  trace : ∀ make, tower.trace make = Layer.recording make
  catch_panic : ∃ response : Response, response.status = INTERNAL_SERVER_ERROR ∧
    response.Plain ∧ tower.catchPanic = Layer.catching response
  timeout_records : ∀ status duration inner surroundings request,
    (tower.timeout status duration inner surroundings request).records =
      (inner surroundings request).records
  timeout_before : ∀ status duration inner surroundings request moment,
    moment < tower.wake surroundings.now duration →
      (tower.timeout status duration inner surroundings request).future moment =
        (inner surroundings request).future moment
  timeout_after : ∀ status duration inner surroundings request moment,
    tower.wake surroundings.now duration ≤ moment →
      (tower.timeout status duration inner surroundings request).future moment =
          .ready ⟨status, [], .empty⟩ ∨
        (inner surroundings request).future moment ≠ .pending ∧
          (tower.timeout status duration inner surroundings request).future moment =
            (inner surroundings request).future moment
  wakes_late : ∀ start duration, start + duration ≤ tower.wake start duration

/-- Layers as documented; a call whose time is used up is not polled again. -/
def TowerHttp.reference : TowerHttp where
  makeRequestUuid surroundings := .ofText (uuidText surroundings.uuid)
  setRequestId name make :=
    Layer.mapRequest fun surroundings request => setIfMissing name (make surroundings) request
  propagateRequestId name :=
    Layer.mapResponse fun _ request response => propagate name request response
  setResponseHeaderIfNotPresent name value := Layer.mapResponse fun _ _ response =>
    response.withHeaders (response.headers.insertIfAbsent name value)
  trace := Layer.recording
  catchPanic := Layer.catching
    ⟨INTERNAL_SERVER_ERROR, [(CONTENT_TYPE, .ofText "text/plain")], .text "Service panicked"⟩
  timeout status duration inner surroundings request :=
    let call := inner surroundings request
    { call with
      future := fun moment =>
        if surroundings.now + duration ≤ moment then .ready ⟨status, [], .empty⟩
        else call.future moment }
  wake start duration := start + duration

theorem plain_of_content_type {status : Nat} {value : HeaderValue} {body : Body} :
    Response.Plain ⟨status, [(CONTENT_TYPE, value)], body⟩ := by
  intro name hname
  have hne : CONTENT_TYPE ≠ name := by
    rintro rfl
    exact hname List.mem_cons_self
  simp [HeaderMap.get, hne]

theorem TowerHttp.documented_reference : TowerHttp.reference.Documented where
  make_request_uuid _ := rfl
  set_request_id _ _ := rfl
  propagate_request_id _ := rfl
  set_response_header _ _ := rfl
  trace _ := rfl
  catch_panic := ⟨_, rfl, plain_of_content_type, rfl⟩
  timeout_records _ _ _ _ _ := rfl
  timeout_before _ _ _ _ _ _ hsoon := if_neg (not_le_of_gt hsoon)
  timeout_after _ _ _ _ _ _ hlate := Or.inl (if_pos hlate)
  wakes_late _ _ := le_refl _

/-! ## §3  `axum` -/

/-- A handler without extractors but `State`. -/
abbrev Handler : Type := Surroundings → Future Response

abbrev Routes : Type := List (String × Handler)

/-- The handler a path is routed to. -/
def Routes.find (routes : Routes) (path : String) : Option Handler :=
  (routes.find? fun route => route.1 == path).map Prod.snd

theorem Routes.find_cons {path path' : String} {handler : Handler} {routes : Routes} :
    Routes.find ((path', handler) :: routes) path =
      if path = path' then some handler else routes.find path := by
  by_cases h : path = path'
  · simp [Routes.find, h]
  · simp [Routes.find, h, Ne.symm h]

/-- `Router::new().route(path, get(handler))..` as a service. -/
structure Axum where
  serve : Routes → HttpService
  /-- What becomes of a response to `HEAD`. -/
  withoutBody : Response → Response

structure Axum.Documented (axum : Axum) : Prop where
  get : ∀ (routes : Routes) handler surroundings request,
    routes.find request.path = some handler → request.method = .get →
      axum.serve routes surroundings request = ⟨[], handler surroundings⟩
  head : ∀ (routes : Routes) handler surroundings request,
    routes.find request.path = some handler → request.method = .head →
      axum.serve routes surroundings request =
        ⟨[], fun moment => (handler surroundings moment).map axum.withoutBody⟩
  without_body : ∀ response, (axum.withoutBody response).status = response.status ∧
    (axum.withoutBody response).body = .empty ∧
      ∀ name ∉ LIBRARY_HEADERS,
        (axum.withoutBody response).headers.get name = response.headers.get name
  other_method : ∀ (routes : Routes) handler surroundings request,
    routes.find request.path = some handler → request.method ≠ .get → request.method ≠ .head →
      ∃ response : Response, response.status = METHOD_NOT_ALLOWED ∧ response.Plain ∧
        response.body = .empty ∧
        axum.serve routes surroundings request = ⟨[], fun _ => .ready response⟩
  unknown_path : ∀ (routes : Routes) surroundings request, routes.find request.path = none →
    ∃ response : Response, response.status = NOT_FOUND ∧ response.Plain ∧
      response.body = .empty ∧
      axum.serve routes surroundings request = ⟨[], fun _ => .ready response⟩

/-- Routing as documented. -/
def Axum.reference : Axum where
  withoutBody response := { response with body := .empty }
  serve routes surroundings request :=
    match routes.find request.path with
    | none => ⟨[], fun _ => .ready ⟨NOT_FOUND, [], .empty⟩⟩
    | some handler =>
        match request.method with
        | .get => ⟨[], handler surroundings⟩
        | .head => ⟨[], fun moment =>
            (handler surroundings moment).map fun response => { response with body := .empty }⟩
        | .other _ => ⟨[], fun _ =>
            .ready ⟨METHOD_NOT_ALLOWED, [(ALLOW, .ofText "GET,HEAD")], .empty⟩⟩

theorem Axum.documented_reference : Axum.reference.Documented where
  get routes handler surroundings request hfind hmethod := by
    simp only [reference, hfind, hmethod]
  head routes handler surroundings request hfind hmethod := by
    simp only [reference, hfind, hmethod]
  without_body _ := ⟨rfl, rfl, fun _ _ => rfl⟩
  other_method routes handler surroundings request hfind hget hhead := by
    cases hmethod : request.method with
    | get => exact absurd hmethod hget
    | head => exact absurd hmethod hhead
    | other method =>
        refine ⟨⟨METHOD_NOT_ALLOWED, [(ALLOW, .ofText "GET,HEAD")], .empty⟩, rfl, ?_, rfl, ?_⟩
        · intro name hname
          have hne : ALLOW ≠ name := by
            rintro rfl
            exact hname (by decide)
          simp [HeaderMap.get, hne]
        · simp only [reference, hfind, hmethod]
  unknown_path routes surroundings request hfind := by
    refine ⟨⟨NOT_FOUND, [], .empty⟩, rfl, fun _ _ => rfl, rfl, ?_⟩
    simp only [reference, hfind]

/-- `Json` with a status -/
def json (status : Nat) (body : Body) : Response where
  status := status
  headers := [(CONTENT_TYPE, .ofText "application/json")]
  body := body

/-! ## §4  The server -/

def REQUEST_ID_HEADER : HeaderName := ⟨"x-request-id", by decide⟩
def X_CONTENT_TYPE_OPTIONS : HeaderName := ⟨"x-content-type-options", by decide⟩
def REFERRER_POLICY : HeaderName := ⟨"referrer-policy", by decide⟩
def CONTENT_SECURITY_POLICY : HeaderName := ⟨"content-security-policy", by decide⟩
def PERMISSIONS_POLICY : HeaderName := ⟨"permissions-policy", by decide⟩

/-- `discard_client_request_id` -/
def discardClientRequestId : HttpLayer :=
  Layer.mapRequest fun _ request =>
    request.withHeaders (request.headers.remove REQUEST_ID_HEADER)

/-- `make_http_span` -/
def makeHttpSpan (request : Request) : Span where
  name := "http.request"
  request_id := ((request.headers.get REQUEST_ID_HEADER).bind HeaderValue.toStr).getD "<invalid>"
  method := request.method
  path := request.path
  version := request.version

/-- `apply_http_layers` -/
def applyHttpLayers (tower : TowerHttp) (router : HttpService) (request_timeout : Nat) :
    HttpService :=
  Layer.stack [
    discardClientRequestId,
    tower.setRequestId REQUEST_ID_HEADER tower.makeRequestUuid,
    tower.propagateRequestId REQUEST_ID_HEADER,
    tower.setResponseHeaderIfNotPresent X_CONTENT_TYPE_OPTIONS (.ofText "nosniff"),
    tower.setResponseHeaderIfNotPresent REFERRER_POLICY (.ofText "no-referrer"),
    tower.setResponseHeaderIfNotPresent CONTENT_SECURITY_POLICY (.ofText
      "default-src 'self'; object-src 'none'; base-uri 'self'; frame-ancestors 'none'"),
    tower.setResponseHeaderIfNotPresent PERMISSIONS_POLICY (.ofText
      "accelerometer=(), camera=(), geolocation=(), microphone=(), payment=()"),
    tower.trace makeHttpSpan,
    tower.catchPanic,
    tower.timeout GATEWAY_TIMEOUT request_timeout] router

/-- What the services make of their two operations, when a handler asks. -/
structure HttpState where
  readiness : Surroundings → Future DiagnosticReport
  search_status : Surroundings → Future DiagnosticReport

/-- `liveness` -/
def liveness : Handler := fun _ _ => .ready (json OK (.liveness "ok"))

/-- A handler that awaits a report: `report_response`, as JSON. -/
def reportHandler (future : Surroundings → Future DiagnosticReport) : Handler :=
  fun surroundings moment => (future surroundings moment).map fun report =>
    json (reportResponse report).1 (.report (reportResponse report).2)

/-- `readiness` -/
def readiness (state : HttpState) : Handler := reportHandler state.readiness

/-- `search_status` -/
def searchStatus (state : HttpState) : Handler := reportHandler state.search_status

/-- `liveness_router` -/
def livenessRouter : Routes := [("/healthz", liveness)]

/-- `router` -/
def router (axum : Axum) (tower : TowerHttp) (services : HttpState) (request_timeout : Nat) :
    HttpService :=
  let status_routes : Routes := [
    ("/readyz", readiness services),
    ("/status/search", searchStatus services)]
  applyHttpLayers tower (axum.serve (livenessRouter ++ status_routes)) request_timeout

end WikiNext.Server
