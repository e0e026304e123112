import WikiNext.Server.HttpLayers

/-!
# What every HTTP response carries

Whatever the router does with a request (it answers, panics, takes too long, or
does not know the path), the layers around it decide what leaves the server.

§1 one poll, §2 headers, §3 request ids, §4 the endpoints.
-/

namespace WikiNext.Server

open WikiNext.Foundation WikiNext.Core WikiNext.App WikiNext.Store

/-! ## §1  One poll -/

/-- The policy headers and their values. -/
def SECURITY_HEADERS : List (HeaderName × HeaderValue) := [
  (X_CONTENT_TYPE_OPTIONS, .ofText "nosniff"),
  (REFERRER_POLICY, .ofText "no-referrer"),
  (CONTENT_SECURITY_POLICY, .ofText
    "default-src 'self'; object-src 'none'; base-uri 'self'; frame-ancestors 'none'"),
  (PERMISSIONS_POLICY, .ofText
    "accelerometer=(), camera=(), geolocation=(), microphone=(), payment=()")]

/-- The id of a request: the text of the UUID drawn for it. -/
def requestId (surroundings : Surroundings) : HeaderValue :=
  .ofText (uuidText surroundings.uuid)

/-- The request as everything behind the id layers sees it. -/
def identify (surroundings : Surroundings) (request : Request) : Request :=
  request.withHeaders ((request.headers.remove REQUEST_ID_HEADER).insertIfAbsent
    REQUEST_ID_HEADER (requestId surroundings))

/-- What the header layers make of a response to that request. -/
def finish (request : Request) (response : Response) : Response :=
  propagate REQUEST_ID_HEADER request
    (response.withHeaders (response.headers.complete SECURITY_HEADERS))

/-- Where the response comes from that the header layers get, when the router's
poll came to this. -/
inductive Origin (late : Prop) (caught : Response) : Poll Response → Response → Prop where
  | handler (response : Response) : Origin late caught (.ready response) response
  | panic : Origin late caught .panicked caught
  | elapsed (poll : Poll Response) (h : late) :
      Origin late caught poll ⟨GATEWAY_TIMEOUT, [], .empty⟩

/-- One poll outside the panic layer, and the router's poll under it. `f` is
what the layers in between make of a response. -/
structure Polled (late : Prop) (caught : Response) (f : Response → Response)
    (routed poll : Poll Response) : Prop where
  calm : poll ≠ .panicked
  pending : poll = .pending ↔ routed = .pending ∧ ¬ late
  ready : ∀ response, poll = .ready response →
    ∃ core, Origin late caught routed core ∧ f core = response

theorem Polled.map {late : Prop} {caught : Response} {f : Response → Response}
    {routed poll : Poll Response} (h : Polled late caught id routed poll) :
    Polled late caught f routed (poll.map f) where
  calm := by
    rw [Ne, Poll.map_eq_panicked_iff]
    exact h.calm
  pending := by
    rw [Poll.map_eq_pending_iff]
    exact h.pending
  ready := by
    intro response hresponse
    obtain ⟨core, hcore, hf⟩ := Poll.map_eq_ready_iff.mp hresponse
    obtain ⟨_, horigin, rfl⟩ := h.ready core hcore
    exact ⟨_, horigin, hf⟩

variable {tower : TowerHttp} {router : HttpService} {request_timeout : Nat}

/-- The stack, with the layers of a kind joined. -/
theorem applyHttpLayers_eq (htower : tower.Documented) :
    ∃ caught : Response, caught.status = INTERNAL_SERVER_ERROR ∧ caught.Plain ∧
      applyHttpLayers tower router request_timeout =
        Layer.mapRequest identify (Layer.mapResponse (fun _ => finish)
          (Layer.recording makeHttpSpan (Layer.catching caught
            (tower.timeout GATEWAY_TIMEOUT request_timeout router)))) := by
  obtain ⟨caught, hstatus, hplain, hcatch⟩ := htower.catch_panic
  refine ⟨caught, hstatus, hplain, ?_⟩
  simp only [applyHttpLayers, Layer.stack_cons, Layer.stack_nil, discardClientRequestId,
    htower.set_request_id, htower.make_request_uuid, htower.propagate_request_id,
    htower.set_response_header, htower.trace,
    hcatch, Layer.mapRequest_mapRequest, Layer.mapResponse_mapResponse]
  rfl

/-- The timeout and panic layers, for one poll. -/
theorem polls_catching_timeout (htower : tower.Documented) (caught : Response) :
    Service.Polls (fun surroundings request moment =>
      Polled (tower.wake surroundings.now request_timeout ≤ moment) caught id
        ((router surroundings request).future moment))
      (Layer.catching caught (tower.timeout GATEWAY_TIMEOUT request_timeout router)) := by
  have htimeout : Service.Polls (fun surroundings request moment poll =>
      let late := tower.wake surroundings.now request_timeout ≤ moment
      let routed := (router surroundings request).future moment
      poll = routed ∧ (late → routed ≠ .pending) ∨
        late ∧ poll = .ready ⟨GATEWAY_TIMEOUT, [], .empty⟩)
      (tower.timeout GATEWAY_TIMEOUT request_timeout router) := by
    intro surroundings request moment
    rcases lt_or_ge moment (tower.wake surroundings.now request_timeout) with hsoon | hlate
    · exact Or.inl ⟨htower.timeout_before _ _ _ _ _ _ hsoon,
        fun hlate => absurd hsoon (not_lt_of_ge hlate)⟩
    · rcases htower.timeout_after GATEWAY_TIMEOUT request_timeout router surroundings request
        moment hlate with hgone | ⟨hover, hsame⟩
      · exact Or.inr ⟨hlate, hgone⟩
      · exact Or.inl ⟨hsame, fun _ => hover⟩
  refine htimeout.catching ?_
  rintro surroundings request moment poll (⟨rfl, hover⟩ | ⟨hlate, rfl⟩)
  · refine ⟨Poll.rescue_ne_panicked, ?_, ?_⟩
    · rw [Poll.rescue_eq_pending_iff]
      exact ⟨fun h => ⟨h, fun hlate => hover hlate h⟩, And.left⟩
    · intro response hresponse
      rcases Poll.rescue_eq_ready_iff.mp hresponse with hready | ⟨hpanicked, rfl⟩
      · exact ⟨response, hready ▸ .handler response, rfl⟩
      · exact ⟨caught, hpanicked ▸ .panic, rfl⟩
  · refine ⟨Poll.rescue_ne_panicked, ?_, ?_⟩
    · simp [Poll.rescue, hlate]
    · rintro response ⟨⟩
      exact ⟨_, .elapsed _ hlate, rfl⟩

/-- **One poll of the stack.** -/
theorem polls_applyHttpLayers (htower : tower.Documented) :
    ∃ caught : Response, caught.status = INTERNAL_SERVER_ERROR ∧ caught.Plain ∧
      Service.Polls (fun surroundings request moment =>
        Polled (tower.wake surroundings.now request_timeout ≤ moment) caught
          (finish (identify surroundings request))
          ((router surroundings (identify surroundings request)).future moment))
        (applyHttpLayers tower router request_timeout) := by
  obtain ⟨caught, hstatus, hplain, heq⟩ :=
    @applyHttpLayers_eq tower router request_timeout htower
  refine ⟨caught, hstatus, hplain, ?_⟩
  rw [heq]
  have hcore := (@polls_catching_timeout tower router request_timeout htower caught).recording
    (h := makeHttpSpan)
  exact (hcore.mapResponse (g := fun _ => finish) fun _ _ _ _ => Polled.map).mapRequest

/-! ## §2  Headers -/

/-- What every response carries: the id of its request, and the policies. -/
def serverHeaders (surroundings : Surroundings) : List (HeaderName × HeaderValue) :=
  (REQUEST_ID_HEADER, requestId surroundings) :: SECURITY_HEADERS

variable {surroundings : Surroundings} {request : Request} {name : HeaderName}
  {value : HeaderValue}

theorem get_identify :
    (identify surroundings request).headers.get REQUEST_ID_HEADER =
      some (requestId surroundings) := by
  simp [identify, Request.withHeaders, HeaderMap.get_insertIfAbsent_self]

theorem finish_identify (core : Response) :
    finish (identify surroundings request) core =
      core.withHeaders (core.headers.complete (serverHeaders surroundings)) := by
  simp only [finish, propagate, get_identify]
  rfl

theorem nodup_serverHeaders : ((serverHeaders surroundings).map Prod.fst).Nodup := by
  show [REQUEST_ID_HEADER, X_CONTENT_TYPE_OPTIONS, REFERRER_POLICY, CONTENT_SECURITY_POLICY,
    PERMISSIONS_POLICY].Nodup
  decide

/-- None of them is a header that a library sets. -/
theorem serverHeaders_not_library (h : (name, value) ∈ serverHeaders surroundings) :
    name ∉ LIBRARY_HEADERS := by
  have hnames : ∀ name ∈ (serverHeaders surroundings).map Prod.fst, name ∉ LIBRARY_HEADERS := by
    show ∀ name ∈ [REQUEST_ID_HEADER, X_CONTENT_TYPE_OPTIONS, REFERRER_POLICY,
      CONTENT_SECURITY_POLICY, PERMISSIONS_POLICY], name ∉ LIBRARY_HEADERS
    decide
  exact hnames name (List.mem_map.mpr ⟨_, h, rfl⟩)

/-- A header of ours is missing from what the libraries make themselves. -/
theorem Response.Plain.get_eq_none {response : Response} (hplain : response.Plain)
    (h : (name, value) ∈ serverHeaders surroundings) : response.headers.get name = none :=
  hplain name (serverHeaders_not_library h)

theorem get_finish (core : Response) (h : (name, value) ∈ serverHeaders surroundings) :
    (finish (identify surroundings request) core).headers.get name =
      some ((core.headers.get name).getD value) := by
  rw [finish_identify]
  exact HeaderMap.get_complete_of_mem nodup_serverHeaders h

/-- A header of a response that leaves the stack is ours, or the router's own. -/
theorem Origin.get_finish {late : Prop} {caught core : Response} {routed : Poll Response}
    (horigin : Origin late caught routed core) (hplain : caught.Plain)
    (h : (name, value) ∈ serverHeaders surroundings) :
    (finish (identify surroundings request) core).headers.get name = some value ∨
      ∃ own, routed = .ready own ∧ own.headers.get name ≠ none ∧
        (finish (identify surroundings request) core).headers.get name =
          own.headers.get name := by
  rw [Server.get_finish core h]
  cases horigin with
  | handler response =>
      cases hget : core.headers.get name with
      | none => exact Or.inl rfl
      | some own =>
          refine Or.inr ⟨core, rfl, ?_, ?_⟩
          · rw [hget]
            exact Option.some_ne_none own
          · rw [hget, Option.getD_some]
  | panic =>
      rw [hplain.get_eq_none h]
      exact Or.inl rfl
  | elapsed => exact Or.inl rfl

/-- **Every response is hardened**, and there is one. Whatever the router does with a
request and whenever the connection polls: no panic gets out; a call that is
polled once its time is used up is over; and the response carries an id and each
policy header, with the server's value unless the router's own response had
one. -/
theorem every_response_is_hardened (tower : TowerHttp) (htower : tower.Documented)
    (router : HttpService) (request_timeout : Nat) (surroundings : Surroundings)
    (request : Request) (moments : List Instant) :
    let future := (applyHttpLayers tower router request_timeout surroundings request).future
    future.drive moments ≠ .panicked ∧
    ((∃ moment ∈ moments, tower.wake surroundings.now request_timeout ≤ moment) →
      ∃ response, future.drive moments = .ready response) ∧
    ∀ response, future.drive moments = .ready response →
      ∀ name value, (name, value) ∈ serverHeaders surroundings →
        response.headers.get name = some value ∨
          ∃ moment ∈ moments, ∃ own,
            (router surroundings (identify surroundings request)).future moment = .ready own ∧
            own.headers.get name ≠ none ∧ response.headers.get name = own.headers.get name := by
  intro future
  obtain ⟨caught, -, hplain, hpolls⟩ :=
    @polls_applyHttpLayers tower router request_timeout htower
  have hcalm : future.drive moments ≠ .panicked := by
    intro hdrive
    obtain ⟨-, moment, -, -, -, hpolled⟩ := hpolls.of_drive hdrive (by simp)
    exact hpolled.calm rfl
  refine ⟨hcalm, ?_, ?_⟩
  · rintro ⟨moment, hmem, hlate⟩
    cases hdrive : future.drive moments with
    | ready response => exact ⟨response, rfl⟩
    | panicked => exact absurd hdrive hcalm
    | pending =>
        have hpending := Future.drive_eq_pending_iff.mp hdrive moment hmem
        exact absurd hlate ((hpolls surroundings request moment).pending.mp hpending).2
  · intro response hdrive name value hmem
    obtain ⟨before, moment, after, rfl, -, hpolled⟩ := hpolls.of_drive hdrive (by simp)
    obtain ⟨core, horigin, rfl⟩ := hpolled.ready response rfl
    rcases horigin.get_finish hplain hmem with hours | ⟨own, hrouted, hpresent, hget⟩
    · exact Or.inl hours
    · exact Or.inr ⟨moment, by simp, own, hrouted, hpresent, hget⟩

/-- A router that never answers, once the request timeout is over. -/
theorem timeout_response_is_hardened :
    ∃ response, (applyHttpLayers TowerHttp.reference (fun _ _ => ⟨[], fun _ => .pending⟩) 1000
      ⟨0, 7⟩ ⟨.get, "/slow", "HTTP/1.1", []⟩).future.drive [0, 2000] = .ready response ∧
        ∀ name value, (name, value) ∈ serverHeaders ⟨0, 7⟩ →
          response.headers.get name = some value := by
  obtain ⟨-, hover, hheaders⟩ := every_response_is_hardened TowerHttp.reference
    TowerHttp.documented_reference (fun _ _ => ⟨[], fun _ => .pending⟩) 1000 ⟨0, 7⟩
    ⟨.get, "/slow", "HTTP/1.1", []⟩ [0, 2000]
  obtain ⟨response, hdrive⟩ := hover ⟨2000, by simp, by decide⟩
  refine ⟨response, hdrive, ?_⟩
  intro name value hmem
  rcases hheaders response hdrive name value hmem with hours | ⟨_, -, own, hown, -⟩
  · exact hours
  · cases hown

/-! ## §3  Request ids -/

variable {axum : Axum} {services : HttpState} {routes : Routes}

theorem plain_json {status : Nat} {body : Body} : (json status body).Plain :=
  plain_of_content_type

/-- The routes as `router` puts them together. -/
def routesOf (services : HttpState) : Routes :=
  livenessRouter ++ [("/readyz", readiness services), ("/status/search", searchStatus services)]

theorem plain_reportHandler {future : Surroundings → Future DiagnosticReport} {moment : Instant}
    {response : Response} (h : reportHandler future surroundings moment = .ready response) :
    response.Plain := by
  obtain ⟨report, -, rfl⟩ := Poll.map_eq_ready_iff.mp h
  exact plain_json

theorem plain_routesOf {handler : Handler} (hmem : ∃ path, (path, handler) ∈ routesOf services)
    {moment : Instant} {response : Response} (h : handler surroundings moment = .ready response) :
    response.Plain := by
  obtain ⟨path, hmem⟩ := hmem
  simp only [routesOf, livenessRouter, List.cons_append, List.nil_append, List.mem_cons,
    Prod.mk.injEq, List.not_mem_nil, or_false] at hmem
  rcases hmem with ⟨-, rfl⟩ | ⟨-, rfl⟩ | ⟨-, rfl⟩
  · obtain rfl : json OK (.liveness "ok") = response := Poll.ready.inj h
    exact plain_json
  · exact plain_reportHandler h
  · exact plain_reportHandler h

theorem Routes.mem_of_find {handler : Handler} {path : String}
    (h : routes.find path = some handler) : ∃ path, (path, handler) ∈ routes := by
  obtain ⟨route, hfound, rfl⟩ := Option.map_eq_some_iff.mp h
  exact ⟨route.1, List.mem_of_find?_eq_some hfound⟩

/-- No response of the router carries a header of ours. -/
theorem plain_serve (haxum : axum.Documented)
    (hroutes : ∀ handler, (∃ path, (path, handler) ∈ routes) → ∀ surroundings moment response,
      handler surroundings moment = .ready response → response.Plain)
    {moment : Instant} {own : Response}
    (hready : (axum.serve routes surroundings request).future moment = .ready own) :
    own.Plain := by
  cases hfind : routes.find request.path with
  | none =>
      obtain ⟨response, -, hplain, -, heq⟩ := haxum.unknown_path _ surroundings _ hfind
      rw [heq] at hready
      exact Poll.ready.inj hready ▸ hplain
  | some handler =>
      have hhandler := hroutes handler (Routes.mem_of_find hfind) surroundings moment
      by_cases hget : request.method = .get
      · rw [haxum.get _ _ _ _ hfind hget] at hready
        exact hhandler own hready
      by_cases hhead : request.method = .head
      · rw [haxum.head _ _ _ _ hfind hhead] at hready
        obtain ⟨response, hresponse, rfl⟩ := Poll.map_eq_ready_iff.mp hready
        intro name hname
        rw [(haxum.without_body response).2.2 name hname]
        exact hhandler response hresponse name hname
      · obtain ⟨response, -, hplain, -, heq⟩ :=
          haxum.other_method _ _ surroundings _ hfind hget hhead
        rw [heq] at hready
        exact Poll.ready.inj hready ▸ hplain

/-- Every response of the server carries our headers, with our values. -/
theorem headers_of_drive (haxum : axum.Documented) (htower : tower.Documented)
    {moments : List Instant} {response : Response}
    (hdrive : (Server.router axum tower services request_timeout surroundings request).future.drive
      moments = .ready response)
    (hmem : (name, value) ∈ serverHeaders surroundings) :
    response.headers.get name = some value := by
  obtain ⟨caught, -, hplain, hpolls⟩ :=
    @polls_applyHttpLayers tower (axum.serve (routesOf services)) request_timeout htower
  obtain ⟨-, moment, -, -, -, hpolled⟩ := hpolls.of_drive hdrive (by simp)
  obtain ⟨core, horigin, rfl⟩ := hpolled.ready response rfl
  rcases horigin.get_finish hplain hmem with hours | ⟨own, hrouted, hpresent, -⟩
  · exact hours
  · have hown := plain_serve haxum (fun _ hroute _ _ _ => plain_routesOf hroute) hrouted
    exact absurd (hown.get_eq_none hmem) hpresent

/-- The client's header is forgotten before anything else happens. -/
theorem blind_applyHttpLayers (htower : tower.Documented) :
    Service.Blind (fun request request' : Request =>
      request.withHeaders (request.headers.remove REQUEST_ID_HEADER) =
        request'.withHeaders (request'.headers.remove REQUEST_ID_HEADER))
      (applyHttpLayers tower router request_timeout) := by
  obtain ⟨caught, -, -, heq⟩ := @applyHttpLayers_eq tower router request_timeout htower
  rw [heq]
  refine Service.blind_mapRequest ?_
  intro surroundings request request' hsame
  have hidentify : ∀ request : Request, identify surroundings request =
      setIfMissing REQUEST_ID_HEADER (requestId surroundings)
        (request.withHeaders (request.headers.remove REQUEST_ID_HEADER)) := fun _ => rfl
  rw [hidentify, hidentify, hsame]

theorem records_applyHttpLayers (htower : tower.Documented) :
    Service.Records (fun surroundings request => makeHttpSpan (identify surroundings request))
      (applyHttpLayers tower router request_timeout) := by
  obtain ⟨caught, -, -, heq⟩ := @applyHttpLayers_eq tower router request_timeout htower
  rw [heq]
  exact Service.records_recording.mapResponse.mapRequest

theorem toStr_requestId :
    (requestId surroundings).toStr = some (uuidText surroundings.uuid) :=
  HeaderValue.toStr_ofText visibleText_uuidText

theorem request_id_makeHttpSpan :
    (makeHttpSpan (identify surroundings request)).request_id = uuidText surroundings.uuid := by
  simp only [makeHttpSpan, get_identify, Option.bind_some, toStr_requestId,
    Option.getD_some]

/-- **The request id is the server's own.** What a client sends under
`x-request-id` changes nothing: neither what is logged nor any poll. The span
of a request is opened with the text of the UUID drawn for it, every response
carries that very text, and responses to requests with different UUIDs carry
different ids. -/
theorem request_id_is_the_servers (axum : Axum) (haxum : axum.Documented) (tower : TowerHttp)
    (htower : tower.Documented) (services : HttpState) (request_timeout : Nat) :
    let server := Server.router axum tower services request_timeout
    (∀ surroundings request headers,
      headers.remove REQUEST_ID_HEADER = request.headers.remove REQUEST_ID_HEADER →
        server surroundings (request.withHeaders headers) = server surroundings request) ∧
    (∀ surroundings request, ∃ span rest, (server surroundings request).records = span :: rest ∧
      span.request_id = uuidText surroundings.uuid ∧ span.path = request.path) ∧
    (∀ surroundings request moments response,
      (server surroundings request).future.drive moments = .ready response →
        (response.headers.get REQUEST_ID_HEADER).bind HeaderValue.toStr =
          some (uuidText surroundings.uuid)) ∧
    ∀ surroundings request moments response surroundings' request' moments' response',
      (server surroundings request).future.drive moments = .ready response →
      (server surroundings' request').future.drive moments' = .ready response' →
      surroundings.uuid ≠ surroundings'.uuid →
        response.headers.get REQUEST_ID_HEADER ≠ response'.headers.get REQUEST_ID_HEADER := by
  intro server
  have hid : ∀ surroundings request moments response,
      (server surroundings request).future.drive moments = .ready response →
        (response.headers.get REQUEST_ID_HEADER).bind HeaderValue.toStr =
          some (uuidText surroundings.uuid) := by
    intro surroundings request moments response hdrive
    rw [headers_of_drive haxum htower hdrive List.mem_cons_self, Option.bind_some,
      toStr_requestId]
  refine ⟨?_, ?_, hid, ?_⟩
  · intro surroundings request headers hsame
    refine blind_applyHttpLayers htower _ _ _ ?_
    simp only [Request.withHeaders, hsame]
  · intro surroundings request
    obtain ⟨rest, hrecords⟩ := @records_applyHttpLayers tower (axum.serve (routesOf services))
      request_timeout htower surroundings request
    exact ⟨_, rest, hrecords, request_id_makeHttpSpan, rfl⟩
  · intro surroundings request moments response surroundings' request' moments' response'
      hdrive hdrive' hne heq
    have htext := hid _ _ _ _ hdrive
    rw [heq, hid _ _ _ _ hdrive'] at htext
    exact hne (uuidText_injective (Option.some.inj htext)).symm

/-- Two requests to a server whose probes never come back. -/
theorem request_ids_differ :
    let server := Server.router Axum.reference TowerHttp.reference
      ⟨fun _ _ => .pending, fun _ _ => .pending⟩ 1000
    let call := server ⟨0, 7⟩ ⟨.get, "/healthz", "HTTP/1.1",
      [(.ofSpelling "X-Request-ID", .ofText "attacker-controlled")]⟩
    let call' := server ⟨0, 8⟩ ⟨.get, "/nowhere", "HTTP/1.1", []⟩
    ∃ response response', call.future.drive [0] = .ready response ∧
      call'.future.drive [5] = .ready response' ∧
      response.headers.get REQUEST_ID_HEADER ≠ response'.headers.get REQUEST_ID_HEADER := by
  intro server call call'
  obtain ⟨response, hresponse⟩ : ∃ response, call.future.drive [0] = .ready response := ⟨_, rfl⟩
  obtain ⟨response', hresponse'⟩ : ∃ response, call'.future.drive [5] = .ready response :=
    ⟨_, rfl⟩
  refine ⟨response, response', hresponse, hresponse', ?_⟩
  exact (request_id_is_the_servers Axum.reference Axum.documented_reference TowerHttp.reference
    TowerHttp.documented_reference ⟨fun _ _ => .pending, fun _ _ => .pending⟩ 1000).2.2.2
      _ _ _ _ _ _ _ _ hresponse hresponse' (by decide)

/-! ## §4  The endpoints -/

/-- What an endpoint says to a method, given what it says to `GET`. -/
def gate (method : Method) (answer : Future (Nat × Body)) : Future (Nat × Body) := fun moment =>
  match method with
  | .get => answer moment
  | .head => (answer moment).map fun (status, _) => (status, .empty)
  | .other _ => .ready (METHOD_NOT_ALLOWED, .empty)

/-- What a report makes of an endpoint's answer. -/
def reportAnswer (report : DiagnosticReport) : Nat × Body :=
  (if report.healthy then OK else SERVICE_UNAVAILABLE, .report report)

/-- The endpoints, without a thought for headers, panics and time. -/
def endpoint (services : HttpState) (surroundings : Surroundings) (request : Request) :
    Future (Nat × Body) :=
  if request.path = "/healthz" then
    gate request.method fun _ => .ready (OK, .liveness "ok")
  else if request.path = "/readyz" then
    gate request.method fun moment => (services.readiness surroundings moment).map reportAnswer
  else if request.path = "/status/search" then
    gate request.method fun moment =>
      (services.search_status surroundings moment).map reportAnswer
  else fun _ => .ready (NOT_FOUND, .empty)

/-- What is seen of a response besides its headers. -/
def Response.answer (response : Response) : Nat × Body := (response.status, response.body)

theorem answer_finish (core : Response) : (finish request core).answer = core.answer := by
  simp only [finish, propagate]
  split <;> rfl

/-- A path that is routed to a handler. -/
theorem answer_serve (haxum : axum.Documented) (handler : Handler) {moment : Instant}
    {answer : Future (Nat × Body)} (hfind : routes.find request.path = some handler)
    (hhandler : (handler surroundings moment).map Response.answer = answer moment) :
    ((axum.serve routes surroundings request).future moment).map Response.answer =
      gate request.method answer moment := by
  cases hmethod : request.method with
  | get =>
      rw [haxum.get _ _ _ _ hfind hmethod]
      exact hhandler
  | head =>
      rw [haxum.head _ _ _ _ hfind hmethod]
      simp only [gate, ← hhandler, Poll.map_map]
      congr 1
      funext response
      obtain ⟨hstatus, hbody, -⟩ := haxum.without_body response
      simp [Response.answer, hstatus, hbody]
  | other name =>
      obtain ⟨response, hstatus, -, hbody, heq⟩ :=
        haxum.other_method _ _ surroundings _ hfind (by simp [hmethod]) (by simp [hmethod])
      rw [heq]
      simp [gate, Response.answer, hstatus, hbody]

theorem answer_reportHandler (future : Surroundings → Future DiagnosticReport)
    (moment : Instant) : (reportHandler future surroundings moment).map Response.answer =
      (future surroundings moment).map reportAnswer := by
  simp only [reportHandler, Poll.map_map]
  rfl

/-- The router refines the endpoints. -/
theorem answer_routesOf (haxum : axum.Documented) (moment : Instant) :
    ((axum.serve (routesOf services) surroundings request).future moment).map Response.answer =
      endpoint services surroundings request moment := by
  have hfind : ∀ path, (routesOf services).find path =
      if path = "/healthz" then some liveness
      else if path = "/readyz" then some (readiness services)
      else if path = "/status/search" then some (searchStatus services) else none := by
    intro path
    simp only [routesOf, livenessRouter, List.cons_append, List.nil_append, Routes.find_cons]
    rfl
  unfold endpoint
  split_ifs with hhealthz hreadyz hsearch
  · refine answer_serve haxum liveness ?_ rfl
    rw [hfind, if_pos hhealthz]
  · refine answer_serve haxum (readiness services) ?_ (answer_reportHandler _ _)
    rw [hfind, if_neg hhealthz, if_pos hreadyz]
  · refine answer_serve haxum (searchStatus services) ?_ (answer_reportHandler _ _)
    rw [hfind, if_neg hhealthz, if_neg hreadyz, if_pos hsearch]
  · obtain ⟨response, hstatus, -, hbody, heq⟩ := haxum.unknown_path (routesOf services)
      surroundings request (by rw [hfind, if_neg hhealthz, if_neg hreadyz, if_neg hsearch])
    rw [heq]
    simp [Response.answer, hstatus, hbody]

/-- One poll of the server. -/
theorem polls_router (haxum : axum.Documented) (htower : tower.Documented) :
    Service.Polls (fun surroundings request moment poll =>
      let asked := endpoint services surroundings request moment
      let deadline := tower.wake surroundings.now request_timeout
      poll ≠ .panicked ∧ (poll = .pending ↔ asked = .pending ∧ moment < deadline) ∧
        ∀ response, poll = .ready response →
          asked = .ready response.answer ∨
            asked = .panicked ∧ response.status = INTERNAL_SERVER_ERROR ∨
            deadline ≤ moment ∧ response.answer = (GATEWAY_TIMEOUT, .empty))
      (Server.router axum tower services request_timeout) := by
  obtain ⟨caught, hstatus, -, hpolls⟩ :=
    @polls_applyHttpLayers tower (axum.serve (routesOf services)) request_timeout htower
  intro surroundings request moment
  have hpolled := hpolls surroundings request moment
  have hasked : endpoint services surroundings request moment = _ :=
    (@answer_routesOf surroundings (identify surroundings request) axum services haxum moment).symm
  refine ⟨hpolled.calm, ?_, ?_⟩
  · rw [hasked, Poll.map_eq_pending_iff, ← not_le]
    exact hpolled.pending
  · intro response hready
    obtain ⟨core, horigin, rfl⟩ := hpolled.ready response hready
    have hcore := @answer_finish (identify surroundings request) core
    rw [hasked, hcore]
    generalize (axum.serve (routesOf services) surroundings
      (identify surroundings request)).future moment = routed at horigin
    cases horigin with
    | handler => exact Or.inl rfl
    | panic => exact Or.inr (Or.inl ⟨rfl, (congrArg Prod.fst hcore).trans hstatus⟩)
    | elapsed _ hlate => exact Or.inr (Or.inr ⟨hlate, rfl⟩)

/-- **The server answers what its endpoints say, in time.** A response's status and
body are those of the first poll that finds the endpoint's answer (500 if it
panicked), or 504 if the time was used up by then; and an answer that is found
in time is the one that leaves. -/
theorem server_answers_endpoint (axum : Axum) (haxum : axum.Documented) (tower : TowerHttp)
    (htower : tower.Documented) (services : HttpState) (request_timeout : Nat)
    (surroundings : Surroundings) (request : Request) :
    let future := (Server.router axum tower services request_timeout surroundings request).future
    let asked := endpoint services surroundings request
    let deadline := tower.wake surroundings.now request_timeout
    (∀ moments response, future.drive moments = .ready response →
      ∃ before moment after, moments = before ++ moment :: after ∧
        (∀ earlier ∈ before, asked earlier = .pending ∧ earlier < deadline) ∧
        (asked moment = .ready response.answer ∨
          asked moment = .panicked ∧ response.status = INTERNAL_SERVER_ERROR ∨
          deadline ≤ moment ∧ response.answer = (GATEWAY_TIMEOUT, .empty))) ∧
    ∀ before moment after,
      (∀ earlier ∈ before, asked earlier = .pending ∧ earlier < deadline) →
      moment < deadline → asked moment ≠ .pending →
      ∃ response, future.drive (before ++ moment :: after) = .ready response ∧
        (asked moment = .ready response.answer ∨
          asked moment = .panicked ∧ response.status = INTERNAL_SERVER_ERROR) := by
  intro future asked deadline
  have hpolls := @polls_router tower request_timeout axum services haxum htower
  constructor
  · intro moments response hdrive
    obtain ⟨before, moment, after, rfl, hbefore, -, -, hready⟩ := hpolls.of_drive hdrive (by simp)
    exact ⟨before, moment, after, rfl, fun earlier h => (hbefore earlier h).2.1.mp rfl,
      hready response rfl⟩
  · intro before moment after hbefore hsoon hover
    obtain ⟨hcalm, hpending, hready⟩ := hpolls surroundings request moment
    have hmoment : future moment ≠ .pending := fun h => hover (hpending.mp h).1
    have hdrive : future.drive (before ++ moment :: after) = future moment := by
      rw [Future.drive_append fun earlier h =>
        (hpolls surroundings request earlier).2.1.mpr (hbefore earlier h), Future.drive_cons hmoment]
    cases hpoll : future moment with
    | pending => exact absurd hpoll hmoment
    | panicked => exact absurd hpoll hcalm
    | ready response =>
        refine ⟨response, hdrive.trans hpoll, ?_⟩
        rcases hready response hpoll with hanswer | hpanicked | ⟨hlate, -⟩
        · exact Or.inl hanswer
        · exact Or.inr hpanicked
        · exact absurd hsoon (not_lt_of_ge hlate)

/-- A search probe that panics at its second poll, asked in time and by `HEAD`. -/
theorem head_of_panicking_endpoint :
    ∃ response, (Server.router Axum.reference TowerHttp.reference
      ⟨fun _ _ => .pending, fun _ moment => if moment < 5 then .pending else .panicked⟩ 1000
      ⟨0, 7⟩ ⟨.head, "/status/search", "HTTP/1.1", []⟩).future.drive [1, 6, 2000] =
        .ready response ∧ response.status = INTERNAL_SERVER_ERROR := by
  obtain ⟨response, hdrive, hanswer⟩ := (server_answers_endpoint Axum.reference
    Axum.documented_reference TowerHttp.reference TowerHttp.documented_reference
    ⟨fun _ _ => .pending, fun _ moment => if moment < 5 then .pending else .panicked⟩ 1000
    ⟨0, 7⟩ ⟨.head, "/status/search", "HTTP/1.1", []⟩).2 [1] 6 [2000]
      (by
        intro earlier hearlier
        rw [List.mem_singleton.mp hearlier]
        exact ⟨rfl, by decide⟩) (by decide) (fun h => by cases h)
  refine ⟨response, hdrive, ?_⟩
  rcases hanswer with hready | ⟨-, hstatus⟩
  · cases hready
  · exact hstatus

end WikiNext.Server
