import WikiNext.App.ConfigLoaders
import WikiNext.Search.Client

/-!
# One policy for the search URL

The configuration and the search client each check the Meilisearch URL, in a
different order and with their own copy of the loopback test. §1 describes the
URLs that pass, §2 proves that both checks pass exactly these, §3 follows the
normalised URL into the requests.
-/

namespace WikiNext.App

open WikiNext.Foundation WikiNext.Search

/-! ## §1  Accepted URLs -/

/-- The URLs that pass, without reference to the checks. -/
structure AcceptedSearchUrl (url : Url) : Prop where
  scheme : url.scheme = "http" ∨ url.scheme = "https"
  username : url.username = ""
  password : url.password = none
  query : url.query = none
  fragment : url.fragment = none
  transport : url.scheme = "http" → urlHostIsLoopback url = true

/-- The path of the normalised URL. -/
def slashed (path : String) : String := if endsWithSlash path then path else path ++ "/"

theorem endsWithSlash_slashed (path : String) : endsWithSlash (slashed path) = true := by
  unfold slashed
  split
  · assumption
  · simp [endsWithSlash, String.toList_append]

theorem slashed_of_endsWithSlash {path : String} (h : endsWithSlash path = true) :
    slashed path = path :=
  if_pos h

/-- The same in the words of the checks. -/
theorem acceptedSearchUrl_iff (url : Url) :
    AcceptedSearchUrl url ↔
      url.scheme ∈ ["http", "https"] ∧
      ¬ (¬ url.username.isEmpty = true ∨ url.password.isSome = true ∨ url.query.isSome = true ∨
        url.fragment.isSome = true) ∧
      ¬ (url.scheme = "http" ∧ ¬ urlHostIsLoopback url = true) := by
  simp only [not_or, not_not, Bool.not_eq_true, Option.isSome_eq_false_iff,
    Option.isNone_iff_eq_none, String.isEmpty_iff, not_and, Bool.not_eq_false, List.mem_cons,
    List.not_mem_nil, or_false]
  constructor
  · intro h
    exact ⟨h.scheme, ⟨h.username, h.password, h.query, h.fragment⟩, h.transport⟩
  · rintro ⟨hscheme, ⟨husername, hpassword, hquery, hfragment⟩, htransport⟩
    exact ⟨hscheme, husername, hpassword, hquery, hfragment, htransport⟩

/-- Only the path changes, so acceptance does not. -/
theorem AcceptedSearchUrl.with_path {url : Url} (h : AcceptedSearchUrl url) (path : String) :
    AcceptedSearchUrl { url with path := path } :=
  ⟨h.scheme, h.username, h.password, h.query, h.fragment, h.transport⟩

/-! ## §2  The two checks -/

variable (urls : UrlCrate)

theorem validateSearchUrl_ok_iff (value : String) :
    validateSearchUrl urls value = .ok () ↔
      ∃ url, urls.parse value = .ok url ∧ AcceptedSearchUrl url := by
  unfold validateSearchUrl
  cases hparse : urls.parse value with
  | error e => simp
  | ok url =>
      simp only [Except.ok.injEq, exists_eq_left', acceptedSearchUrl_iff]
      split_ifs with hscheme hparts hinsecure
      · exact iff_of_false (by simp) (fun h => h.2.1 hparts)
      · exact iff_of_false (by simp) (fun h => h.2.2 hinsecure)
      · exact iff_of_true rfl ⟨hscheme, hparts, hinsecure⟩
      · exact iff_of_false (by simp) (fun h => hscheme h.1)

/-- The client turns to the transport before the other parts; both copies of
the loopback test are the same function. -/
theorem normalizeBaseUrl_ok_iff (value : String) (base : Url) :
    normalizeBaseUrl urls value = .ok base ↔
      ∃ url, urls.parse value = .ok url ∧ AcceptedSearchUrl url ∧
        base = { url with path := slashed url.path } := by
  unfold normalizeBaseUrl
  cases hparse : urls.parse value with
  | error e => simp
  | ok url =>
      have hloopback : Search.urlHostIsLoopback url = urlHostIsLoopback url := rfl
      have hslashed : (if !endsWithSlash url.path then .ok { url with path := url.path ++ "/" }
          else .ok url : Except SearchError Url) = .ok { url with path := slashed url.path } := by
        rw [slashed]
        cases endsWithSlash url.path with
        | false => rfl
        | true => rfl
      simp only [Except.ok.injEq, exists_eq_left', acceptedSearchUrl_iff, ← hloopback, hslashed]
      split_ifs with hscheme hinsecure hparts
      · exact iff_of_false (by simp) (fun h => h.1.2.2 hinsecure)
      · exact iff_of_false (by simp) (fun h => h.1.2.1 hparts)
      · constructor
        · intro h
          exact ⟨⟨hscheme, hparts, hinsecure⟩, (Except.ok.inj h).symm⟩
        · rintro ⟨-, rfl⟩
          rfl
      · exact iff_of_false (by simp) (fun h => hscheme h.1.1)

/-! ## §3  The requests -/

/-- `path` up to its last separator. -/
def directoryOf (path : String) : String :=
  String.ofList (path.toList.reverse.dropWhile (· ≠ '/')).reverse

theorem directoryOf_of_endsWithSlash {path : String} (h : endsWithSlash path = true) :
    directoryOf path = path := by
  rw [endsWithSlash, beq_iff_eq, List.getLast?_eq_some_iff] at h
  obtain ⟨front, hfront⟩ := h
  rw [directoryOf, hfront, List.reverse_append, List.reverse_singleton, List.singleton_append,
    List.dropWhile_cons_of_neg (by simp), List.reverse_cons, List.reverse_reverse, ← hfront,
    String.ofList_toList]

/-- Relative resolution of one plain segment: it replaces everything after the
last separator of the base path, and the reference brings no query and no
fragment. -/
def JoinsSegments : Prop :=
  ∀ (base : Url) (segment : String), base.scheme = "http" ∨ base.scheme = "https" →
    '/' ∈ base.path.toList → segment ≠ "" → (∀ c ∈ segment.toList, c.isAlpha = true) →
      urls.join base segment = .ok
        { base with path := directoryOf base.path ++ segment, query := none, fragment := none }

theorem mem_of_endsWithSlash {path : String} (h : endsWithSlash path = true) :
    '/' ∈ path.toList := by
  rw [endsWithSlash, beq_iff_eq] at h
  exact List.mem_of_getLast? h

variable {urls}

/-- `SearchClient::new` keeps the normalised URL. -/
theorem searchClient_base_url {http : HttpCrate} {value api_key : String} {timeout : Nat}
    {client : SearchClient} (h : SearchClient.new urls http value api_key timeout = .ok client) :
    normalizeBaseUrl urls value = .ok client.base_url := by
  obtain ⟨base, hbase, h⟩ := bind_eq_ok.mp h
  obtain ⟨authorization, -, h⟩ := bind_eq_ok.mp h
  obtain ⟨-, -, h⟩ := bind_eq_ok.mp h
  cases h
  exact hbase

/-- What is left to fail once the URL is accepted. -/
theorem searchClient_refused {http : HttpCrate} {value api_key : String} {timeout : Nat}
    {base : Url} {error : SearchError} (hbase : normalizeBaseUrl urls value = .ok base)
    (h : SearchClient.new urls http value api_key timeout = .error error) :
    ∃ detail, error = .invalidApiKey detail ∨ error = .client detail := by
  rw [SearchClient.new, hbase] at h
  cases hheader : http.headerValue ("Bearer " ++ api_key) with
  | error detail =>
      rw [hheader] at h
      exact ⟨detail, Or.inl (Except.error.inj h).symm⟩
  | ok authorization =>
      cases hbuild : http.build ⟨authorization, timeout⟩ with
      | error detail =>
          simp only [hheader, hbuild, bind, Except.bind, Except.mapError] at h
          exact ⟨detail, Or.inr (Except.error.inj h).symm⟩
      | ok built =>
          simp only [hheader, hbuild, bind, Except.bind, Except.mapError] at h
          cases h

/-- A request for one segment below an accepted, normalised base. -/
theorem join_slashed (hjoin : JoinsSegments urls) {url : Url} (h : AcceptedSearchUrl url)
    {segment : String} (hne : segment ≠ "") (hletters : ∀ c ∈ segment.toList, c.isAlpha = true) :
    urls.join { url with path := slashed url.path } segment =
      .ok { url with path := slashed url.path ++ segment } := by
  have hslash := endsWithSlash_slashed url.path
  rw [hjoin { url with path := slashed url.path } segment h.scheme (mem_of_endsWithSlash hslash) hne
    hletters, directoryOf_of_endsWithSlash hslash, h.query, h.fragment]

/-- **One policy for the search URL.** The configuration accepts a URL exactly
if the client does, so behind a validated configuration only the key and the
HTTP library can keep the client from being built. On an accepted URL normalisation appends a missing final
`/` to the path, changes nothing else, and has nothing to do on its own
result. The probes then request the configured scheme, host and port, without
credentials, query or fragment, at the whole configured path followed by their
one segment. -/
theorem search_url_policy (backend : SearchBackend) (http : HttpCrate) (value : String) :
    (validateSearchUrl backend.urls value = .ok () ↔
      ∃ base, normalizeBaseUrl backend.urls value = .ok base) ∧
    (∀ config : Config, config.search.url = value → config.validate backend.urls = .ok () →
      ∀ api_key timeout error,
        SearchClient.new backend.urls http value api_key timeout = .error error →
        ∃ detail, error = .invalidApiKey detail ∨ error = .client detail) ∧
    ∀ base, normalizeBaseUrl backend.urls value = .ok base →
      ∃ url, backend.urls.parse value = .ok url ∧ base = { url with path := base.path } ∧
        base.path = (if endsWithSlash url.path then url.path else url.path ++ "/") ∧
        (∀ text, backend.urls.parse text = .ok base →
          normalizeBaseUrl backend.urls text = .ok base) ∧
        ∀ api_key timeout client,
          SearchClient.new backend.urls http value api_key timeout = .ok client →
          JoinsSegments backend.urls → ∀ segment ∈ ["health", "version"], ∃ request : Url,
            (∀ field, client.getJson backend segment field =
              SearchClient.receive backend.json field (backend.replies client.http request)) ∧
            request.scheme = url.scheme ∧ request.host = url.host ∧ request.port = url.port ∧
            request.username = "" ∧ request.password = none ∧ request.query = none ∧
            request.fragment = none ∧ request.path = base.path ++ segment := by
  have hiff : validateSearchUrl backend.urls value = .ok () ↔
      ∃ base, normalizeBaseUrl backend.urls value = .ok base := by
    simp only [validateSearchUrl_ok_iff, normalizeBaseUrl_ok_iff]
    constructor
    · rintro ⟨url, hparse, h⟩
      exact ⟨_, url, hparse, h, rfl⟩
    · rintro ⟨-, url, hparse, h, -⟩
      exact ⟨url, hparse, h⟩
  refine ⟨hiff, ?_, fun base hbase => ?_⟩
  · rintro config rfl hvalid api_key timeout error herror
    obtain ⟨base, hbase⟩ :=
      hiff.mp ((validate_ok_iff backend.urls config).mp hvalid).search_url
    exact searchClient_refused hbase herror
  · obtain ⟨url, hparse, haccepted, rfl⟩ := (normalizeBaseUrl_ok_iff _ _ _).mp hbase
    refine ⟨url, hparse, rfl, rfl, fun text htext => ?_, ?_⟩
    · -- the normalised URL, parsed again
      refine (normalizeBaseUrl_ok_iff _ _ _).mpr ⟨_, htext, haccepted.with_path _, ?_⟩
      rw [slashed_of_endsWithSlash (endsWithSlash_slashed url.path)]
    · intro api_key timeout client hclient hjoin segment hsegment
      have hclient_url : client.base_url = { url with path := slashed url.path } :=
        (Except.ok.inj ((searchClient_base_url hclient).symm.trans hbase))
      have hplain : segment ≠ "" ∧ segment.toList.all Char.isAlpha = true := by
        simp only [List.mem_cons, List.not_mem_nil, or_false] at hsegment
        rcases hsegment with rfl | rfl
        · decide
        · decide
      have hrequest : backend.urls.join client.base_url segment =
          .ok { url with path := slashed url.path ++ segment } := by
        rw [hclient_url]
        exact join_slashed hjoin haccepted hplain.1 (List.all_eq_true.mp hplain.2)
      exact ⟨_, fun field => SearchClient.getJson_eq backend client hrequest, rfl, rfl, rfl,
        haccepted.username, haccepted.password, haccepted.query, haccepted.fragment, rfl⟩

/-! A server behind a path of its own. -/

def meiliUrl : Url :=
  ⟨"https", "", none, some (.domain "search.example.test"), some 7700, "/meili", none, none⟩

def meiliHttp : HttpCrate where
  headerValue value := .ok value
  build _ := .ok ()

def availableReply : List UInt8 := "\x7b\"status\":\"available\"\x7d".toUTF8.toList

def meiliBackend : SearchBackend where
  urls.parse text :=
    if text = "https://search.example.test:7700/meili" then .ok meiliUrl
    else .error (.mk "not this URL")
  urls.join base segment := .ok
    { base with path := directoryOf base.path ++ segment, query := none, fragment := none }
  json.readField field body :=
    if field = "status" ∧ body = availableReply then .ok "available"
    else .error "not this document"
  replies _ url :=
    if url.path = "/meili/health" then
      .response ⟨200, "200 OK"⟩ none [.ok availableReply]
    else .failed "no such route"

def meiliClient : SearchClient where
  base_url := { meiliUrl with path := "/meili/" }
  http := ⟨"Bearer 0123456789abcdef", 2000⟩

theorem search_url_policy_meili :
    validateSearchUrl meiliBackend.urls "https://search.example.test:7700/meili" = .ok () ∧
    ∃ request : Url, request.host = meiliUrl.host ∧ request.port = some 7700 ∧
      request.path = "/meili/health" ∧
      ∀ field, meiliClient.getJson meiliBackend "health" field =
        SearchClient.receive meiliBackend.json field
          (meiliBackend.replies meiliClient.http request) := by
  have hbase : normalizeBaseUrl meiliBackend.urls "https://search.example.test:7700/meili" =
      .ok meiliClient.base_url := by
    decide +kernel
  have hclient : SearchClient.new meiliBackend.urls meiliHttp
      "https://search.example.test:7700/meili" "0123456789abcdef" 2000 = .ok meiliClient := by
    decide +kernel
  obtain ⟨hiff, -, hrequests⟩ :=
    search_url_policy meiliBackend meiliHttp "https://search.example.test:7700/meili"
  obtain ⟨url, hparse, -, -, -, hrequests⟩ := hrequests _ hbase
  obtain ⟨request, hsent, -, hhost, hport, -, -, -, -, hpath⟩ :=
    hrequests _ _ _ hclient (fun _ _ _ _ _ _ => rfl) "health" (by decide)
  obtain rfl : meiliUrl = url := Except.ok.inj (.trans (by rfl) hparse)
  exact ⟨hiff.mpr ⟨_, hbase⟩, request, hhost, hport, hpath, hsent⟩

end WikiNext.App
