import WikiNext.App.UrlPolicy

/-!
# What an accepted DSN connects to

The policy is a refusal list, a prefix test and an allow list inside one loop.
§1 states what is left over as a plain description of the URL, §2 gives the
driver that interprets the same URL once more, §3 relates the two.
-/

namespace WikiNext.App

open WikiNext.Foundation

/-! ## §1  Accepted URLs -/

/-- `[A-Za-z_][A-Za-z0-9_]*` with at most 63 bytes. -/
structure IsRoleName (role : String) : Prop where
  size : role.utf8ByteSize ≤ 63
  shape : ∃ first rest, role.toList = first :: rest ∧
    (first = '_' ∨ first.isAlpha = true) ∧ ∀ c ∈ rest, c = '_' ∨ c.isAlphanum = true

/-- The URLs the policy lets through, without reference to the checks. -/
structure AcceptedDsn (url : Url) : Prop where
  scheme : url.scheme = "postgres" ∨ url.scheme = "postgresql"
  host : ∃ host, url.host = some host
  password : ∃ password, url.password = some password ∧ password ≠ ""
  database : ∃ c ∈ url.path.toList, c ≠ '/'
  fragment : url.fragment = none
  role : IsRoleName url.username
  keys : ∀ pair ∈ url.query_pairs, pair.1 = "sslmode"
  single : url.query_pairs.length ≤ 1
  transport : urlHostIsLoopback url = true ∨ ∃ pair ∈ url.query_pairs, pair.2 = "verify-full"

theorem alphanum_of_alpha {c : Char} (h : c.isAlpha = true) : c.isAlphanum = true := by
  simp [Char.isAlphanum, h]

theorem roleIsValid_iff (role : String) : roleIsValid role = true ↔ IsRoleName role := by
  rw [roleIsValid]
  cases hrole : role.toList with
  | nil =>
      have : role = "" := by rw [← String.toList_inj, hrole]; rfl
      subst this
      constructor
      · simp
      · rintro ⟨-, first, rest, h, -⟩
        simp at h
  | cons first rest =>
      have hne : role.isEmpty = false := by
        rw [Bool.eq_false_iff, ne_eq, String.isEmpty_iff, ← String.toList_inj, hrole]
        simp
      simp only [hne, List.head?_cons, List.all_cons, Bool.not_false, Bool.true_and,
        Bool.and_eq_true, Bool.or_eq_true, beq_iff_eq, decide_eq_true_eq, List.all_eq_true]
      constructor
      · rintro ⟨⟨hsize, hfirst⟩, -, hrest⟩
        exact ⟨hsize, first, rest, hrole, hfirst, hrest⟩
      · rintro ⟨hsize, first', rest', heq, hfirst, hrest⟩
        rw [hrole] at heq
        cases heq
        exact ⟨⟨hsize, hfirst⟩, hfirst.imp_right alphanum_of_alpha, hrest⟩

/-- Only `sslmode` gets past the three tests on the key. -/
theorem checkQueryPairs_cons (field : String) (ssl_mode : Option String) (key value : String)
    (rest : List (String × String)) (result : Option String) :
    checkQueryPairs field ssl_mode ((key, value) :: rest) = .ok result ↔
      key = "sslmode" ∧ ssl_mode = none ∧
        checkQueryPairs field (some value) rest = .ok result := by
  rw [checkQueryPairs]
  by_cases hkey : key = "sslmode"
  · subst hkey
    rw [if_neg (by decide), if_neg (by decide), if_pos rfl]
    cases ssl_mode <;> simp
  · simp only [hkey, if_false, false_and, iff_false]
    split_ifs <;> simp

/-- **The loop.** It ends well on no pair, or on a single `sslmode` pair, and
returns that pair's value. -/
theorem checkQueryPairs_ok_iff (field : String) (pairs : List (String × String))
    (result : Option String) :
    checkQueryPairs field none pairs = .ok result ↔
      (∀ pair ∈ pairs, pair.1 = "sslmode") ∧ pairs.length ≤ 1 ∧
        result = pairs.head?.map Prod.snd := by
  match pairs with
  | [] => simp [checkQueryPairs, eq_comm]
  | [(key, value)] =>
      rw [checkQueryPairs_cons]
      simp [checkQueryPairs, eq_comm]
  | (key, value) :: (key', value') :: rest =>
      rw [checkQueryPairs_cons, checkQueryPairs_cons]
      simp

/-- The parsed checks against the description; the role name is checked
separately. -/
theorem checkDatabaseUrl_ok_iff (field : String) (url : Url) :
    checkDatabaseUrl field url = .ok () ∧ roleIsValid url.username = true ↔ AcceptedDsn url := by
  -- with one pair at most, the loop's last `sslmode` is the only one
  have htransport : ∀ ssl_mode, ssl_mode = url.query_pairs.head?.map Prod.snd →
      url.query_pairs.length ≤ 1 →
      (ssl_mode = some "verify-full" ↔ ∃ pair ∈ url.query_pairs, pair.2 = "verify-full") := by
    rintro _ rfl hlen
    match hq : url.query_pairs, hlen with
    | [], _ => simp
    | [pair], _ => simp
  rw [roleIsValid_iff, checkDatabaseUrl]
  constructor
  · rintro ⟨h, hrole⟩
    split_ifs at h with hscheme hhost hpassword hpath hfragment
    cases hloop : checkQueryPairs field none url.query_pairs with
    | error e => simp [hloop] at h
    | ok ssl_mode =>
        obtain ⟨hkeys, hsingle, hmode⟩ := (checkQueryPairs_ok_iff _ _ _).mp hloop
        simp only [hloop, ite_eq_right_iff, reduceCtorEq, imp_false, not_and, not_not] at h
        exact {
          scheme := by simpa using hscheme
          host := Option.ne_none_iff_exists'.mp (by simpa using hhost)
          password := by
            cases hp : url.password with
            | none => simp [hp] at hpassword
            | some password => exact ⟨password, rfl, by simpa [hp] using hpassword⟩
          database := by
            rw [trimMatches_eq_empty_iff] at hpath
            simpa using hpath
          fragment := by simpa using hfragment
          role := hrole
          keys := hkeys
          single := hsingle
          transport := by
            by_cases hloop' : urlHostIsLoopback url = true
            · exact Or.inl hloop'
            · exact Or.inr ((htransport _ hmode hsingle).mp (h hloop')) }
  · intro h
    refine ⟨?_, h.role⟩
    have hpath : ¬ (trimMatches '/' url.path).isEmpty = true := by
      rw [trimMatches_eq_empty_iff]
      obtain ⟨c, hc, hne⟩ := h.database
      exact fun hall => hne (hall c hc)
    obtain ⟨host, hhost⟩ := h.host
    obtain ⟨password, hpassword, hne⟩ := h.password
    have hloop := (checkQueryPairs_ok_iff field url.query_pairs _).mpr ⟨h.keys, h.single, rfl⟩
    rw [if_neg (by simpa [or_iff_not_imp_left] using h.scheme), if_neg (by simp [hhost]),
      if_neg (by simpa [hpassword] using hne), if_neg hpath, if_neg (by simp [h.fragment]), hloop]
    refine if_neg ?_
    rintro ⟨hremote, hmode⟩
    rcases h.transport with hlocal | hfull
    · exact hremote hlocal
    · exact hmode ((htransport _ rfl h.single).mpr hfull)

/-! ## §2  The driver -/

/-- What the driver connects with: its `PgConnectOptions`. -/
structure ConnectOptions where
  host : Option Host
  /-- the directory of a Unix socket, taken before any host -/
  socket : Option String
  port : Option Nat
  username : String
  password : Option String
  database : Option String
  options : List String
  ssl_mode : Option String
deriving DecidableEq

/-- Where a connection goes. -/
inductive Endpoint where
  | tcp (host : Option Host)
  | unix (directory : String)
deriving DecidableEq

def ConnectOptions.endpoint (options : ConnectOptions) : Endpoint :=
  match options.socket with
  | some directory => .unix directory
  | none => .tcp options.host

/-- The driver reads the same URL once more: its parts, and on top of them the
query pairs, one by one. -/
structure Driver where
  /-- nothing for what is not UTF-8 -/
  percentDecode : String → Option String
  fromParts : Url → Except String ConnectOptions
  applyPair : ConnectOptions → String × String → Except String ConnectOptions

/-- The pairs from left to right. -/
def Driver.parse (driver : Driver) (url : Url) : Except String ConnectOptions := do
  let options ← driver.fromParts url
  url.query_pairs.foldlM driver.applyPair options

/-- The host is a name whose decoding is a path. -/
def Driver.HidesPath (driver : Driver) (host : Host) (path : String) : Prop :=
  ∃ name, host = .domain name ∧ driver.percentDecode name = some path ∧ startsWith path "/" = true

/-- What the driver promises of the parts of a URL, and of a pair that sets the
transport. What other pairs do is left open. -/
structure Driver.Documented (driver : Driver) : Prop where
  percentDecode_plain : ∀ text, '%' ∉ text.toList → driver.percentDecode text = some text
  username : ∀ {url options}, driver.fromParts url = .ok options → url.username ≠ "" →
    driver.percentDecode url.username = some options.username
  password : ∀ {url options}, driver.fromParts url = .ok options → ∀ password,
    url.password = some password →
      ∃ decoded, driver.percentDecode password = some decoded ∧ options.password = some decoded
  database : ∀ {url options}, driver.fromParts url = .ok options →
    trimStartMatches '/' url.path ≠ "" →
      ∃ decoded, driver.percentDecode (trimStartMatches '/' url.path) = some decoded ∧
        options.database = some decoded
  /-- the rest comes with query pairs -/
  rest : ∀ {url options}, driver.fromParts url = .ok options →
    options.port = url.port ∧ options.options = [] ∧ options.ssl_mode = none
  /-- a name that hides a path is a socket, every other host is kept as it is written -/
  host : ∀ {url options}, driver.fromParts url = .ok options → ∀ host, url.host = some host →
    (∃ path, driver.HidesPath host path ∧ options.socket = some path) ∨
      (∀ path, ¬ driver.HidesPath host path) ∧ options.socket = none ∧ options.host = some host
  ssl_mode : ∀ {options options' value},
    driver.applyPair options ("sslmode", value) = .ok options' →
      options' = { options with ssl_mode := some value }

/-! ## §3  The validated URL and the target -/

/-- A role name decodes to itself. -/
theorem percent_notMem_of_role {role : String} (h : IsRoleName role) : '%' ∉ role.toList := by
  obtain ⟨first, rest, hrole, hfirst, hrest⟩ := h.shape
  rw [hrole]
  intro hmem
  rcases List.mem_cons.mp hmem with rfl | hmem
  · rcases hfirst with h | h <;> exact absurd h (by decide)
  · rcases hrest _ hmem with h | h <;> exact absurd h (by decide)

theorem IsRoleName.ne_empty {role : String} (h : IsRoleName role) : role ≠ "" := by
  rintro rfl
  obtain ⟨first, rest, hrole, -⟩ := h.shape
  cases hrole

/-- The host is written without percent signs, and as any host without slashes. -/
def Host.Plain : Host → Prop
  | .domain name => '%' ∉ name.toList ∧ '/' ∉ name.toList
  | .ipv4 _ => True
  | .ipv6 _ => True

/-- No loopback host is written with a character that neither a name nor an address has. -/
theorem notMem_of_loopback {url : Url} {name : String} {c : Char}
    (hhost : url.host = some (.domain name)) (hloop : urlHostIsLoopback url = true)
    (hname : c.toLower ∉ "localhost".toList) (haddress : ¬ IpAddr.AddressChar c) :
    c ∉ name.toList := by
  intro hmem
  simp only [urlHostIsLoopback, hhost, Bool.or_eq_true] at hloop
  rcases hloop with hlocal | haddr
  · have hlower := List.mem_map_of_mem (f := Char.toLower) hmem
    rw [eqIgnoreAsciiCase, beq_iff_eq] at hlocal
    rw [hlocal] at hlower
    exact hname hlower
  · cases hparse : IpAddr.parse name with
    | none => simp [hparse] at haddr
    | some address => exact haddress (IpAddr.parse_addressChar hparse c hmem)

theorem plain_of_loopback {url : Url} {host : Host} (hhost : url.host = some host)
    (hloop : urlHostIsLoopback url = true) : Host.Plain host := by
  cases host with
  | domain name =>
      have hpercent : ¬ IpAddr.AddressChar '%' := by rw [IpAddr.AddressChar]; decide
      have hslash : ¬ IpAddr.AddressChar '/' := by rw [IpAddr.AddressChar]; decide
      exact ⟨notMem_of_loopback hhost hloop (by decide) hpercent,
        notMem_of_loopback hhost hloop (by decide) hslash⟩
  | ipv4 address => trivial
  | ipv6 address => trivial

section Documented

variable {driver : Driver} (hdriver : driver.Documented) {url : Url} {options : ConnectOptions}

include hdriver

theorem not_hidesPath_of_plain {host : Host} (h : Host.Plain host) (path : String) :
    ¬ driver.HidesPath host path := by
  rintro ⟨name, rfl, hdecode, hpath⟩
  rw [hdriver.percentDecode_plain name h.1] at hdecode
  obtain rfl := Option.some.inj hdecode
  exact h.2 (slash_mem_of_startsWith hpath)

/-- On an accepted URL the query pairs set nothing but `sslmode`. -/
theorem parse_of_accepted (h : AcceptedDsn url) (hparse : driver.parse url = .ok options) :
    ∃ parts, driver.fromParts url = .ok parts ∧
      options = { parts with ssl_mode := url.query_pairs.head?.map Prod.snd } := by
  have hkeys := h.keys
  have hsingle := h.single
  cases hparts : driver.fromParts url with
  | error e => simp [Driver.parse, hparts, bind, Except.bind] at hparse
  | ok parts =>
      refine ⟨parts, rfl, ?_⟩
      have hfold : url.query_pairs.foldlM driver.applyPair parts = .ok options := by
        simpa [Driver.parse, hparts, bind, Except.bind] using hparse
      match hq : url.query_pairs, hsingle with
      | [], _ =>
          rw [hq] at hfold
          obtain rfl : parts = options := Except.ok.inj hfold
          have hnone := (hdriver.rest hparts).2.2
          show parts = { parts with ssl_mode := none }
          rw [← hnone]
      | [(key, value)], _ =>
          obtain rfl : key = "sslmode" := hkeys (key, value) (by simp [hq])
          rw [hq] at hfold
          simp only [List.foldlM_cons, List.foldlM_nil] at hfold
          cases hpair : driver.applyPair parts ("sslmode", value) with
          | error e => simp [hpair, bind, Except.bind] at hfold
          | ok options' =>
              rw [hpair] at hfold
              obtain rfl : options' = options := Except.ok.inj hfold
              exact hdriver.ssl_mode hpair

/-- A session's role is the role that the URL was checked for. -/
theorem username_of_accepted (h : AcceptedDsn url) (hparse : driver.parse url = .ok options) :
    options.username = url.username := by
  obtain ⟨parts, hparts, rfl⟩ := parse_of_accepted hdriver h hparse
  have huser := hdriver.username hparts h.role.ne_empty
  rw [hdriver.percentDecode_plain _ (percent_notMem_of_role h.role)] at huser
  exact (Option.some.inj huser).symm

/-- A remote URL is dialled with the transport it was accepted for. -/
theorem ssl_mode_of_accepted (h : AcceptedDsn url) (hparse : driver.parse url = .ok options) :
    urlHostIsLoopback url = true ∨ options.ssl_mode = some "verify-full" := by
  obtain ⟨parts, -, rfl⟩ := parse_of_accepted hdriver h hparse
  -- the driver keeps the last `sslmode`, and there is only one pair
  refine h.transport.imp_right fun ⟨pair, hmem, hfull⟩ => ?_
  have hsingle := h.single
  match hq : url.query_pairs, hsingle with
  | [], _ => simp [hq] at hmem
  | [pair'], _ =>
      rw [hq, List.mem_singleton] at hmem
      subst hmem
      simp [hfull]

/-- Where an accepted URL leads. -/
theorem endpoint_of_accepted (h : AcceptedDsn url) (hparse : driver.parse url = .ok options)
    {host : Host} (hhost : url.host = some host) :
    (∃ path, driver.HidesPath host path ∧ options.endpoint = .unix path) ∨
      (∀ path, ¬ driver.HidesPath host path) ∧ options.endpoint = .tcp (some host) := by
  obtain ⟨parts, hparts, rfl⟩ := parse_of_accepted hdriver h hparse
  rcases hdriver.host hparts host hhost with ⟨path, hpath, hsocket⟩ | ⟨hnone, hsocket, hkept⟩
  · exact Or.inl ⟨path, hpath, by simp [ConnectOptions.endpoint, hsocket]⟩
  · exact Or.inr ⟨hnone, by simp [ConnectOptions.endpoint, hsocket, hkept]⟩

end Documented

/-- Acceptance of a DSN by the two checks of `validate_database_config`. -/
theorem validateDatabaseUrl_ok_iff (urls : UrlCrate) (field value : String) :
    (validateDatabaseUrl urls field value = .ok () ∧
      ∃ role, databaseRole urls field value = .ok role) ↔
      ∃ url, urls.parse value = .ok url ∧ AcceptedDsn url := by
  unfold validateDatabaseUrl databaseRole
  cases hparse : urls.parse value with
  | error e => simp
  | ok url =>
      simp only [Except.ok.injEq, exists_eq_left', ← checkDatabaseUrl_ok_iff field]
      refine and_congr_right fun _ => ?_
      cases hrole : roleIsValid url.username <;> simp

/-- **A validated DSN is neither redirected nor downgraded.** Acceptance is
exactly `AcceptedDsn`. Whatever the driver connects with for an accepted URL comes
from the URL itself: the user is the validated one to the letter, password and
database are decoded, no options are set, and a remote target is verified. The
target is the validated host to the letter, but for a host whose decoding is a
path: the driver takes that for a Unix socket, and only under `verify-full`. -/
theorem validated_dsn_target (urls : UrlCrate) (driver : Driver) (hdriver : driver.Documented)
    (field value : String) :
    ((validateDatabaseUrl urls field value = .ok () ∧
      ∃ role, databaseRole urls field value = .ok role) ↔
      ∃ url, urls.parse value = .ok url ∧ AcceptedDsn url) ∧
    ∀ url options, AcceptedDsn url → driver.parse url = .ok options →
      options.username = url.username ∧
      options.port = url.port ∧
      (∃ password, url.password.bind driver.percentDecode = some password ∧
        options.password = some password) ∧
      (∃ database, driver.percentDecode (trimStartMatches '/' url.path) = some database ∧
        options.database = some database) ∧
      options.options = [] ∧
      (urlHostIsLoopback url = true ∨ options.ssl_mode = some "verify-full") ∧
      ∃ host, url.host = some host ∧
        (urlHostIsLoopback url = true ∨ Host.Plain host →
          options.endpoint = .tcp (some host)) ∧
        ((∀ path, ¬ driver.HidesPath host path) → options.endpoint = .tcp (some host)) ∧
        ∀ path, driver.HidesPath host path → options.endpoint = .unix path ∧
          urlHostIsLoopback url = false ∧ options.ssl_mode = some "verify-full" := by
  refine ⟨validateDatabaseUrl_ok_iff urls field value, fun url options h hparse => ?_⟩
  obtain ⟨parts, hparts, hoptions⟩ := parse_of_accepted hdriver h hparse
  obtain ⟨hport, hnone, -⟩ := hdriver.rest hparts
  have hssl := ssl_mode_of_accepted hdriver h hparse
  obtain ⟨host, hhost⟩ := h.host
  have hend := endpoint_of_accepted hdriver h hparse hhost
  have hremote : ∀ path, driver.HidesPath host path → urlHostIsLoopback url = false := by
    intro path hpath
    refine Bool.eq_false_iff.mpr fun hloop => ?_
    exact not_hidesPath_of_plain hdriver (plain_of_loopback hhost hloop) path hpath
  refine ⟨?_, ?_, ?_, ?_, ?_, hssl, host, hhost, ?_, ?_, ?_⟩
  · exact username_of_accepted hdriver h hparse
  · rw [hoptions]
    exact hport
  · obtain ⟨password, hpassword, -⟩ := h.password
    obtain ⟨decoded, hdecoded, hsame⟩ := hdriver.password hparts password hpassword
    exact ⟨decoded, by rw [hpassword]; exact hdecoded, by rw [hoptions]; exact hsame⟩
  · obtain ⟨decoded, hdecoded, hsame⟩ := hdriver.database hparts
      (trimStartMatches_ne_empty h.database)
    exact ⟨decoded, hdecoded, by rw [hoptions]; exact hsame⟩
  · rw [hoptions]
    exact hnone
  · intro hplain
    have hnot := not_hidesPath_of_plain hdriver
      (hplain.elim (plain_of_loopback hhost) id)
    rcases hend with ⟨path, hpath, -⟩ | ⟨-, htcp⟩
    · exact absurd hpath (hnot path)
    · exact htcp
  · intro hnot
    rcases hend with ⟨path, hpath, -⟩ | ⟨-, htcp⟩
    · exact absurd hpath (hnot path)
    · exact htcp
  · rintro path ⟨name, rfl, hdecode, hslash⟩
    have hpath : driver.HidesPath (.domain name) path := ⟨name, rfl, hdecode, hslash⟩
    refine ⟨?_, hremote path hpath, hssl.resolve_left (by simp [hremote path hpath])⟩
    rcases hend with ⟨path', ⟨name', heq, hdecode', -⟩, hunix⟩ | ⟨hnot, -⟩
    · cases heq
      rw [hdecode] at hdecode'
      rw [hunix, Option.some.inj hdecode']
    · exact absurd hpath (hnot path)

/-! ## §4  A driver -/

/-- The parts as `PgConnectOptions::from_str` takes them, for texts that decode to UTF-8. -/
def referenceParts (decode : String → String) (url : Url) : ConnectOptions :=
  let socket :=
    match url.host with
    | some (.domain name) => if startsWith (decode name) "/" then some (decode name) else none
    | _ => none
  let path := trimStartMatches '/' url.path
  { host := if socket.isSome then none else url.host
    socket := socket
    port := url.port
    username := decode url.username
    password := url.password.map decode
    database := if path = "" then none else some (decode path)
    options := []
    ssl_mode := none }

/-- A later pair overrides what was set before; unknown keys are ignored. -/
def referencePair (options : ConnectOptions) (pair : String × String) :
    Except String ConnectOptions :=
  let (key, value) := pair
  if key = "sslmode" ∨ key = "ssl-mode" then .ok { options with ssl_mode := some value }
  else if key = "host" then
    if startsWith value "/" then .ok { options with socket := some value }
    else .ok { options with host := some (.domain value) }
  else if key = "hostaddr" then
    match IpAddr.parse value with
    | some _ => .ok { options with host := some (.domain value) }
    | none => .error "invalid address"
  else if key = "port" then
    match value.toNat? with
    | some port => .ok { options with port := some port }
    | none => .error "invalid port"
  else if key = "user" then .ok { options with username := value }
  else if key = "password" then .ok { options with password := some value }
  else if key = "dbname" then .ok { options with database := some value }
  else if key = "options" ∨ startsWith key "options[" then
    .ok { options with options := options.options ++ [value] }
  else .ok options

def referenceDriver (decode : String → String) : Driver where
  percentDecode text := some (decode text)
  fromParts url := .ok (referenceParts decode url)
  applyPair := referencePair

/-- It keeps the promises. -/
theorem documented_reference {decode : String → String}
    (hplain : ∀ text, '%' ∉ text.toList → decode text = text) :
    (referenceDriver decode).Documented where
  percentDecode_plain text h := congrArg some (hplain text h)
  username h _ := by
    obtain rfl := Except.ok.inj h
    rfl
  password h text htext := by
    obtain rfl := Except.ok.inj h
    exact ⟨decode text, rfl, congrArg (Option.map decode) htext⟩
  database h hne := by
    obtain rfl := Except.ok.inj h
    exact ⟨_, rfl, if_neg hne⟩
  rest h := by
    obtain rfl := Except.ok.inj h
    exact ⟨rfl, rfl, rfl⟩
  host {url options} h host hhost := by
    obtain rfl := Except.ok.inj h
    simp only [referenceParts, hhost]
    cases host with
    | domain name =>
        by_cases hpath : startsWith (decode name) "/" = true
        · exact Or.inl ⟨decode name, ⟨name, rfl, rfl, hpath⟩, if_pos hpath⟩
        · refine Or.inr ⟨?_, by simp [hpath], by simp [hpath]⟩
          rintro path ⟨name', heq, hdecode, hslash⟩
          cases heq
          exact hpath (Option.some.inj hdecode ▸ hslash)
    | ipv4 address => exact Or.inr ⟨fun path ⟨_, heq, _⟩ => (nomatch heq), rfl, rfl⟩
    | ipv6 address => exact Or.inr ⟨fun path ⟨_, heq, _⟩ => (nomatch heq), rfl, rfl⟩
  ssl_mode h := by simpa [referenceDriver, referencePair, eq_comm] using h

/-- A name that hides a path. -/
def hiddenPathUrl : Url where
  scheme := "postgres"
  username := "wikinext"
  password := some "secret"
  host := some (.domain "%2Ftmp%2Fpg")
  port := none
  path := "/wikinext"
  query := some [("sslmode", "verify-full")]
  fragment := none

def hiddenPathDsn : String :=
  "postgres://wikinext:secret@%2Ftmp%2Fpg/wikinext?sslmode=verify-full"

/-- The URL library on `hiddenPathDsn`; other texts do not parse here. -/
def hiddenPathCrate : UrlCrate where
  parse value := if value = hiddenPathDsn then .ok hiddenPathUrl else .error (.mk "")
  join url _ := .ok url

/-- Percent-decoding on the texts of `hiddenPathUrl`. -/
def hiddenPathDecode (text : String) : String :=
  if text = "%2Ftmp%2Fpg" then "/tmp/pg" else text

theorem documented_hiddenPath : (referenceDriver hiddenPathDecode).Documented := by
  refine documented_reference fun text hplain => ?_
  rw [hiddenPathDecode, if_neg]
  rintro rfl
  exact hplain (by decide)

/-- What the driver connects with for it. -/
def hiddenPathOptions : ConnectOptions where
  host := none
  socket := some "/tmp/pg"
  port := none
  username := "wikinext"
  password := some "secret"
  database := some "wikinext"
  options := []
  ssl_mode := some "verify-full"

theorem parse_hiddenPath : (referenceDriver hiddenPathDecode).parse hiddenPathUrl =
    .ok hiddenPathOptions := by decide

theorem validated_dsn_target_hiddenPath :
    hiddenPathOptions.username = hiddenPathUrl.username ∧
      hiddenPathOptions.endpoint = .unix "/tmp/pg" ∧
      hiddenPathOptions.ssl_mode = some "verify-full" := by
  obtain ⟨haccepts, htarget⟩ := validated_dsn_target hiddenPathCrate
    (referenceDriver hiddenPathDecode) documented_hiddenPath "database.url" hiddenPathDsn
  have hvalid : validateDatabaseUrl hiddenPathCrate "database.url" hiddenPathDsn = .ok () ∧
      ∃ role, databaseRole hiddenPathCrate "database.url" hiddenPathDsn = .ok role :=
    ⟨by decide, "wikinext", by decide⟩
  obtain ⟨url, hurl, haccepted⟩ := haccepts.mp hvalid
  obtain rfl : hiddenPathUrl = url := Except.ok.inj hurl
  obtain ⟨huser, -, -, -, -, -, host, hhost, -, -, hunix⟩ :=
    htarget hiddenPathUrl hiddenPathOptions haccepted parse_hiddenPath
  obtain rfl := Option.some.inj hhost
  obtain ⟨hend, -, hssl⟩ := hunix "/tmp/pg" ⟨_, rfl, rfl, by decide⟩
  exact ⟨huser, hend, hssl⟩

/-- The DSN is accepted, and no host is dialled: the driver opens a socket. -/
theorem hiddenPathDsn_redirected :
    validateDatabaseUrl hiddenPathCrate "database.url" hiddenPathDsn = .ok () ∧
    databaseRole hiddenPathCrate "database.url" hiddenPathDsn = .ok "wikinext" ∧
    (referenceDriver hiddenPathDecode).Documented ∧
    (referenceDriver hiddenPathDecode).parse hiddenPathUrl = .ok hiddenPathOptions ∧
    hiddenPathOptions.endpoint = .unix "/tmp/pg" ∧
    hiddenPathOptions.endpoint ≠ .tcp hiddenPathUrl.host := by
  refine ⟨by decide, by decide, documented_hiddenPath, parse_hiddenPath, rfl, by decide⟩

end WikiNext.App
