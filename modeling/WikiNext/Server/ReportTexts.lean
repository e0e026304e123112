import WikiNext.App.RuntimeAgreement
import WikiNext.Foundation.Json
import WikiNext.Server.Cli
import WikiNext.Server.HttpHardening
import WikiNext.Store.StorageAcceptance

/-!
# Reports as texts

What leaves the process is a JSON text of a `DiagnosticReport`: the body of the
two status endpoints, and the output of `doctor --json`. The fields and names
are those of the `Serialize` derivations in `crates/app/src/runtime.rs` and
`crates/server/src/lib.rs`; how a text is laid out is the JSON library's
business.

§1 the derivations, §2 a reader's view, §3 over HTTP, §4 `doctor`.
-/

namespace WikiNext.Server

open WikiNext.Foundation WikiNext.Core WikiNext.App WikiNext.Store

/-! ## §1  The derivations -/

/-- `#[serde(rename_all = "snake_case")]` -/
def checkStatusName : CheckStatus → String
  | .ok => "ok"
  | .error => "error"

def checkJson (check : DiagnosticCheck) : Json := .object [
  ("component", .string check.component),
  ("status", .string (checkStatusName check.status)),
  ("detail", .string check.detail)]

def reportJson (report : DiagnosticReport) : Json := .object [
  ("healthy", .bool report.healthy),
  ("checks", .array (report.checks.map checkJson))]

/-- `Liveness` -/
def livenessJson (status : String) : Json := .object [("status", .string status)]

/-- `serde_json`, on what these derivations produce. -/
structure SerdeJson where
  toString : Json → Except String String
  toStringPretty : Json → Except String String

/-- Both functions write a JSON text of their argument. -/
structure SerdeJson.Documented (serde : SerdeJson) : Prop where
  toString : ∀ value, ∃ text, serde.toString value = .ok text ∧ Json.Denotes text.toList value
  toStringPretty : ∀ value, ∃ text, serde.toStringPretty value = .ok text ∧
    Json.Denotes text.toList value

/-- Without blanks, and with two blanks for each level. -/
def SerdeJson.reference : SerdeJson where
  toString value := .ok (String.ofList (Json.write Json.compact 0 value))
  toStringPretty value := .ok (String.ofList (Json.write Json.pretty 0 value))

theorem SerdeJson.documented_reference : SerdeJson.reference.Documented where
  toString value := ⟨_, rfl, by
    rw [String.toList_ofList]
    exact Json.denotes_write Json.blank_compact value⟩
  toStringPretty value := ⟨_, rfl, by
    rw [String.toList_ofList]
    exact Json.denotes_write Json.blank_pretty value⟩

/-- What is sent for a body. -/
def Body.written (serde : SerdeJson) : Body → Except String String
  | .empty => .ok ""
  | .text content => .ok content
  | .liveness status => serde.toString (livenessJson status)
  | .report content => serde.toString (reportJson content)

/-! ## §2  A reader's view -/

def memberOf (name : String) : Json → Option Json
  | .object members => (members.find? fun member => member.1 == name).map Prod.snd
  | _ => none

def boolOf : Json → Option Bool
  | .bool value => some value
  | _ => none

def stringOf : Json → Option String
  | .string value => some value
  | _ => none

def arrayOf : Json → Option (List Json)
  | .array items => some items
  | _ => none

def checkStatusOf (name : String) : Option CheckStatus :=
  if name = "ok" then some .ok else if name = "error" then some .error else none

def checkOfJson (json : Json) : Option DiagnosticCheck := do
  let component ← memberOf "component" json >>= stringOf
  let status ← memberOf "status" json >>= stringOf >>= checkStatusOf
  let detail ← memberOf "detail" json >>= stringOf
  return ⟨component, status, detail⟩

def reportOfJson (json : Json) : Option DiagnosticReport := do
  let healthy ← memberOf "healthy" json >>= boolOf
  let checks ← memberOf "checks" json >>= arrayOf
  let checks ← checks.mapM checkOfJson
  return ⟨healthy, checks⟩

/-- What somebody who knows the fields makes of a text. -/
def reportOfText (text : String) : Option DiagnosticReport :=
  Json.read text.toList >>= reportOfJson

theorem checkOfJson_checkJson (check : DiagnosticCheck) :
    checkOfJson (checkJson check) = some check := by
  obtain ⟨component, status, detail⟩ := check
  cases status <;> rfl

theorem mapM_checkOfJson (checks : List DiagnosticCheck) :
    (checks.map checkJson).mapM checkOfJson = some checks := by
  induction checks with
  | nil => rfl
  | cons check checks ih =>
      rw [List.map_cons, List.mapM_cons, checkOfJson_checkJson, ih]
      rfl

theorem reportOfJson_reportJson (report : DiagnosticReport) :
    reportOfJson (reportJson report) = some report := by
  show (((report.checks.map checkJson).mapM checkOfJson) >>= fun checks =>
    some ⟨report.healthy, checks⟩) = some report
  rw [mapM_checkOfJson]
  rfl

/-- **A text of a report is read back.** -/
theorem reportOfText_of_denotes {text : String} {report : DiagnosticReport}
    (h : Json.Denotes text.toList (reportJson report)) : reportOfText text = some report := by
  rw [reportOfText, Json.read_of_denotes h]
  exact reportOfJson_reportJson report

/-! ## §3  Over HTTP -/

section Http

variable {tower : TowerHttp} {axum : Axum} {services : HttpState} {surroundings : Surroundings}
  {request : Request} {moment : Instant} {answer : Nat × Body}

/-- The service behind a status endpoint. -/
def HttpState.operation (services : HttpState) (path : String) :
    Surroundings → Future DiagnosticReport :=
  if path = "/readyz" then services.readiness else services.search_status

theorem endpoint_status (hget : request.method = .get)
    (hpath : request.path = "/readyz" ∨ request.path = "/status/search") :
    endpoint services surroundings request moment =
      (services.operation request.path surroundings moment).map reportAnswer := by
  rcases hpath with hpath | hpath <;>
    simp [endpoint, gate, hget, hpath, HttpState.operation]

/-- **A monitor reads the report.** Whatever a `GET` of a status endpoint is answered
with, at whatever moments it is polled: with the status 200 or 503 comes a text
that is read back as the report the service gave at one of these moments, and
the status is 200 exactly if that report is healthy; otherwise it is 500 or 504. -/
theorem monitor_reads_report (axum : Axum) (haxum : axum.Documented) (tower : TowerHttp)
    (htower : tower.Documented) (serde : SerdeJson) (hserde : serde.Documented)
    (services : HttpState) (request_timeout : Nat) (surroundings : Surroundings)
    (request : Request) (hget : request.method = .get)
    (hpath : request.path = "/readyz" ∨ request.path = "/status/search")
    (moments : List Instant) (response : Response)
    (hdrive : (Server.router axum tower services request_timeout surroundings request).future.drive
      moments = .ready response) :
    (∃ moment ∈ moments, ∃ report text,
      services.operation request.path surroundings moment = .ready report ∧
      response.body.written serde = .ok text ∧ reportOfText text = some report ∧
      (response.status = OK ↔ report.healthy = true) ∧
      (response.status = SERVICE_UNAVAILABLE ↔ report.healthy = false)) ∨
    response.status = INTERNAL_SERVER_ERROR ∨ response.status = GATEWAY_TIMEOUT := by
  have hpolls := @polls_router tower request_timeout axum services haxum htower
  obtain ⟨before, moment, after, rfl, -, -, -, hready⟩ := hpolls.of_drive hdrive (by simp)
  rcases hready response rfl with hanswer | ⟨-, hstatus⟩ | ⟨-, hanswer⟩
  · left
    rw [endpoint_status hget hpath, Poll.map_eq_ready_iff] at hanswer
    obtain ⟨report, hreport, hanswer⟩ := hanswer
    obtain ⟨hstatus, hbody⟩ := Prod.mk.inj hanswer
    obtain ⟨text, htext, hdenotes⟩ := hserde.toString (reportJson report)
    refine ⟨moment, by simp, report, text, hreport, ?_, reportOfText_of_denotes hdenotes, ?_⟩
    · rw [← hbody]
      exact htext
    · rw [← hstatus]
      cases report.healthy <;> simp [OK, SERVICE_UNAVAILABLE]
  · exact Or.inr (Or.inl hstatus)
  · exact Or.inr (Or.inr (congrArg Prod.fst hanswer))

/-- The storage has a name that has to be escaped. -/
def unhealthyServices : HttpState where
  readiness _ _ := .ready (.new [.failure "storage" "\"wiki\"\n"])
  search_status _ _ := .pending

theorem monitor_reads_unhealthy :
    ∃ response text, (Server.router Axum.reference TowerHttp.reference unhealthyServices 1000
        ⟨0, 7⟩ ⟨.get, "/readyz", "HTTP/1.1", []⟩).future.drive [0] = .ready response ∧
      response.status = SERVICE_UNAVAILABLE ∧
      response.body.written SerdeJson.reference = .ok text ∧
      reportOfText text = some (.new [.failure "storage" "\"wiki\"\n"]) := by
  have hdrive : ∃ response, (Server.router Axum.reference TowerHttp.reference unhealthyServices
      1000 ⟨0, 7⟩ ⟨.get, "/readyz", "HTTP/1.1", []⟩).future.drive [0] = .ready response ∧
        response.status = SERVICE_UNAVAILABLE := ⟨_, rfl, rfl⟩
  obtain ⟨response, hdrive, hstatus⟩ := hdrive
  rcases monitor_reads_report Axum.reference Axum.documented_reference TowerHttp.reference
      TowerHttp.documented_reference SerdeJson.reference SerdeJson.documented_reference
      unhealthyServices 1000 ⟨0, 7⟩ ⟨.get, "/readyz", "HTTP/1.1", []⟩ rfl (Or.inl rfl) [0] response
      hdrive with ⟨_, _, report, text, hreport, htext, hread, -, -⟩ | herror | htimeout
  · obtain rfl : _ = report := Poll.ready.inj hreport
    exact ⟨response, text, hdrive, hstatus, htext, hread⟩
  · rw [hstatus] at herror
    exact absurd herror (by decide)
  · rw [hstatus] at htimeout
    exact absurd htimeout (by decide)

end Http

/-! ## §4  `doctor` -/

section Doctor

variable {δ : Type} {host : Host δ} {path : String} {d : δ} {world : World} {serde : SerdeJson}

/-- The report of a `doctor` that gets so far, and the subscriber it has then. -/
def doctorReport (host : Host δ) (path : String) (d : δ) (world : World) :
    Option (Subscriber × DiagnosticReport) :=
  match Config.load host.toml host.external.urls host.files host.env path with
  | .error _ => none
  | .ok config =>
      match host.filter config.observability.filter with
      | .error _ => none
      | .ok passes =>
          some (subscriberOf config passes, (runDoctor (host.now d) host.machine config world).1)

/-- What is logged of the verdict. -/
def verdictLog (host : Host δ) (subscriber : Subscriber) (report : DiagnosticReport) :
    List Output :=
  if report.healthy then []
  else subscriber.write (commandFailed (CliError.doctorFailed.message host.external.debug))

theorem healthy_iff_statuses (host : Host δ) (config : Config) (d : δ) (world : World) :
    (runDoctor (host.now d) host.machine config world).1.healthy = true ↔
      ∀ check ∈ (runDoctor (host.now d) host.machine config world).1.checks,
        check.status = .ok := by
  unfold runDoctor
  refine (DiagnosticReport.healthy_new _).trans (forall₂_congr fun check _ => ?_)
  rw [DiagnosticCheck.isOk, beq_iff_eq]

/-- How a `doctor` ends whose report can be printed. -/
theorem main_doctor {config : Config} {passes : LogEvent → Bool} {report : DiagnosticReport}
    {world' : World} {json : Bool} {lines : List String}
    (hconfigured : Configured host path config passes)
    (hreport : runDoctor (host.now d) host.machine config world = (report, world'))
    (hlines : doctorOutput host json report = .ok lines) :
    let ended := main host ⟨path, .doctor json⟩ d world
    ended.process.written = lines.map .line ++ verdictLog host (subscriberOf config passes) report ∧
      (ended.code = .success ↔ report.healthy = true) ∧
      ended.process.database = d ∧ ended.process.world = world' := by
  intro ended
  have hrun := @run_doctor δ host path config d world passes hconfigured json
  rw [hreport] at hrun
  simp only [hlines] at hrun
  cases hhealthy : report.healthy with
  | true =>
      rw [hhealthy, if_pos rfl] at hrun
      have hended : ended = _ := main_of_ok hrun
      rw [hended, verdictLog, if_pos hhealthy, List.append_nil]
      exact ⟨rfl, ⟨fun _ => rfl, fun _ => rfl⟩, rfl, rfl⟩
  | false =>
      rw [hhealthy, if_neg (by decide)] at hrun
      have hended : ended = _ := main_of_error hrun
      rw [hended, verdictLog, hhealthy, if_neg (by decide)]
      refine ⟨rfl, ⟨fun h => ?_, fun h => ?_⟩, rfl, rfl⟩ <;> cases h

/-- **Both formats of `doctor` carry the same report.** Without a configuration or a
log filter nothing is written and both fail. Otherwise `--json` writes one text
that is read back as the report, the plain format writes a line for each of its
checks, and both succeed exactly if the report is healthy, that is if every
check is passed; if it is not, both log their failure after that. -/
theorem doctor_formats (host : Host δ) (serde : SerdeJson) (hserde : serde.Documented)
    (hpretty : ∀ report, host.pretty report = serde.toStringPretty (reportJson report))
    (path : String) (d : δ) (world : World) :
    let json := main host ⟨path, .doctor true⟩ d world
    let plain := main host ⟨path, .doctor false⟩ d world
    match doctorReport host path d world with
    | none => json.code = .failure ∧ json.process.written = [] ∧
        plain.code = .failure ∧ plain.process.written = []
    | some (subscriber, report) =>
        (∃ text, json.process.written = .line text :: verdictLog host subscriber report ∧
          reportOfText text = some report) ∧
        plain.process.written = (report.checks.map fun check => .line (checkLine check)) ++
          verdictLog host subscriber report ∧
        (json.code = .success ↔ report.healthy = true) ∧
        (plain.code = .success ↔ report.healthy = true) ∧
        (report.healthy = true ↔ ∀ check ∈ report.checks, check.status = .ok) := by
  intro json plain
  -- before there is a subscriber
  have hfailed : ∀ {error} {process : Process δ},
      (∀ format, run host ⟨path, .doctor format⟩ (.fresh d world) = .error error process) →
        process.written = [] → process.subscriber = none →
          json.code = .failure ∧ json.process.written = [] ∧
            plain.code = .failure ∧ plain.process.written = [] := by
    intro error process hrun hnothing hnobody
    have hjson : json = _ := main_of_error (hrun true)
    have hplain : plain = _ := main_of_error (hrun false)
    rw [hjson, hplain, Process.log, hnobody]
    exact ⟨rfl, hnothing, rfl, hnothing⟩
  cases hload : Config.load host.toml host.external.urls host.files host.env path with
  | error error =>
      simp only [doctorReport, hload]
      exact hfailed (run_doctor_of_load_error hload) rfl rfl
  | ok config =>
      cases hfilter : host.filter config.observability.filter with
      | error detail =>
          simp only [doctorReport, hload, hfilter]
          exact hfailed (run_doctor_of_filter_error hload hfilter) rfl rfl
      | ok passes =>
          simp only [doctorReport, hload, hfilter]
          have hconfigured : Configured host path config passes := ⟨hload, hfilter⟩
          have hhealthy := healthy_iff_statuses host config d world
          cases hreport : runDoctor (host.now d) host.machine config world with
          | mk report world' =>
              rw [hreport] at hhealthy
              obtain ⟨text, htext, hdenotes⟩ := hserde.toStringPretty (reportJson report)
              have houtput : doctorOutput host true report = .ok [text] := by
                rw [doctorOutput, if_pos rfl, hpretty, htext]
                rfl
              obtain ⟨hwritten, hcode, -⟩ := main_doctor hconfigured hreport houtput
              obtain ⟨hwritten', hcode', -⟩ := @main_doctor δ host path d world config passes report
                world' false _ hconfigured hreport rfl
              rw [List.map_map] at hwritten'
              exact ⟨⟨text, hwritten, reportOfText_of_denotes hdenotes⟩, hwritten', hcode, hcode',
                hhealthy⟩

end Doctor

/-- The database of a small host: whether the migration has been applied. -/
def smallSqlx : Sqlx Bool where
  server migrated := {
    connect := fun _ => .ok ()
    server_version := fun _ => .row (.ok "18.4")
    schema_version := fun _ =>
      if migrated then .row (.ok 1) else .failed (.mk "relation does not exist") }
  acquire _ := pure ⟨0⟩
  execute _ _ := pure ()
  runMigrator _ := .call (set true)

/-- Every library behaves, and the data directory is named in the environment. -/
def smallHost : Host Bool where
  toml := smallToml
  files := smallFiles
  env := fun key => if key = "WIKINEXT_DATA_DIR" then .value "/srv/wiki" else .notPresent
  filter := fun _ => .ok fun event => event.level == .error
  pretty := fun report => SerdeJson.reference.toStringPretty (reportJson report)
  external := smallExternal
  sqlx := smallSqlx
  machine := linuxMachine
  network := {
    bind := fun _ => .ok ⟨3⟩
    localAddr := fun _ => .ok ⟨.v4 127 0 0 1, 3000, 0⟩
    display := fun _ => "127.0.0.1:3000" }
  deadline := none
  life := []
  ending := .finished (.ok ())

def smallDeployed : Config := { smallConfig with storage := ⟨⟨"/srv/wiki".toList⟩⟩ }

theorem load_smallHost : Config.load smallToml smallUrls smallFiles smallHost.env
    "config.toml" = .ok smallDeployed := by
  have hread : readBounded smallFiles "config.toml" = .ok smallText :=
    readBounded_text rfl (by decide +kernel)
  have hfile : fromStr smallToml (Config.deserialize smallToml) smallText = .ok smallConfig := by
    decide +kernel
  have happly : smallConfig.applyEnvironment smallHost.env = .ok smallDeployed := by
    decide +kernel
  have hvalid : smallDeployed.validate smallUrls = .ok () := by
    decide +kernel
  simp only [Config.load, hread, bind_eq_ok]
  exact ⟨none, rfl, (), rfl, (), rfl, smallText, rfl, smallConfig, hfile, smallDeployed, happly,
    (), hvalid, rfl⟩

/-- On a database that has not been migrated, the JSON text is not all that is written. -/
theorem doctor_formats_smallHost :
    ∃ text report,
      (main smallHost ⟨"config.toml", .doctor true⟩ false
        (freshWorld (bareTree 0o755))).process.written =
          [.line text, .logged .pretty (commandFailed "doctor обнаружил ошибки")] ∧
      reportOfText text = some report ∧ report.healthy = false := by
  have hpretty : ∀ report, smallHost.pretty report =
      SerdeJson.reference.toStringPretty (reportJson report) := fun _ => rfl
  have hreport : ∃ subscriber report, doctorReport smallHost "config.toml" false
      (freshWorld (bareTree 0o755)) = some (subscriber, report) ∧
        report.healthy = false ∧ verdictLog smallHost subscriber report =
          [.logged .pretty (commandFailed "doctor обнаружил ошибки")] := by
    rw [doctorReport, show smallHost.external.urls = smallUrls from rfl,
      show smallHost.toml = smallToml from rfl, show smallHost.files = smallFiles from rfl,
      load_smallHost]
    have hunhealthy : (runDoctor (smallHost.now false) smallHost.machine smallDeployed
        (freshWorld (bareTree 0o755))).1.healthy = false := by
      decide +kernel
    refine ⟨_, _, rfl, hunhealthy, ?_⟩
    rw [verdictLog, hunhealthy]
    rfl
  obtain ⟨subscriber, report, hreport, hunhealthy, hverdict⟩ := hreport
  -- a host that is known is evaluated
  generalize smallHost = host at hpretty hreport hverdict ⊢
  have hformats := doctor_formats host SerdeJson.reference SerdeJson.documented_reference hpretty
    "config.toml" false (freshWorld (bareTree 0o755))
  simp only [hreport, hverdict] at hformats
  obtain ⟨⟨text, hwritten, hread⟩, -⟩ := hformats
  exact ⟨text, report, hwritten, hread, hunhealthy⟩

end WikiNext.Server
