import WikiNext.App.ConfigLoaders
import WikiNext.App.Runtime
import WikiNext.Store.StorageBootstrap

/-!
# `doctor`, startup and the health endpoints agree

Three orchestrations run the same checks in different order and with different
short cuts. For a fixed external state they come to the same verdict.

§1 when each of them succeeds, §2 a storage that stays as it is, §3 requests to
the health endpoints, §4 the agreement.
-/

namespace WikiNext.App

open WikiNext.Foundation WikiNext.Core WikiNext.Store WikiNext.Search

variable {external : External} {machine : Machine Uuid} {config : Config} {w w' : World}
  {storage : LocalStorage}

/-! ## §1  When each of them succeeds -/

/-- The database accepts the connection and passes both probes. -/
def DatabaseUp (external : External) (config : Config) (database : PostgresStore) : Prop :=
  PostgresStore.connect external.postgres (databaseOptions config.database) = .ok database ∧
    ∃ status, database.diagnose external.postgres = .ok status

/-- **Startup** succeeds exactly if the search client can be built, the database
is up and the storage is prepared. -/
theorem connect_ok_iff (services : AppServices) :
    AppServices.connect external machine config w = .ok services w' ↔
      ∃ search database storage, buildSearchClient external config = .ok search ∧
        DatabaseUp external config database ∧
        LocalStorage.prepare machine config.storage.data_dir w = .ok storage w' ∧
        services = ⟨database, search, storage, none, none⟩ := by
  simp only [AppServices.connect, bind_run_ok_iff, ofExcept_run_ok_iff, attempt_run_ok_iff,
    pure_run_ok_iff, mapError_eq_ok]
  constructor
  · rintro ⟨search, _, ⟨hsearch, rfl⟩, prepared, _, hprepare, database, _, ⟨hdatabase, rfl⟩,
      status, _, ⟨hstatus, rfl⟩, storage, _, ⟨rfl, rfl⟩, rfl, rfl⟩
    exact ⟨search, database, storage, hsearch, ⟨hdatabase, status, hstatus⟩,
      outcome_eq_ok_iff.mp hprepare, rfl⟩
  · rintro ⟨search, database, storage, hsearch, ⟨hdatabase, status, hstatus⟩, hprepare, rfl⟩
    exact ⟨search, w, ⟨hsearch, rfl⟩, .ok storage, w', outcome_of_ok hprepare, database, w',
      ⟨hdatabase, rfl⟩, status, w', ⟨hstatus, rfl⟩, storage, w', ⟨rfl, rfl⟩, rfl, rfl⟩

/-- **`doctor`** is healthy exactly if the database is up, the search server
passes its probes and the storage is prepared and then checked. -/
theorem doctor_healthy_iff :
    (runDoctor external machine config w).1.healthy = true ↔
      (∃ database, DatabaseUp external config database) ∧
      (∃ search status, buildSearchClient external config = .ok search ∧
        search.diagnose external.backend = .ok status) ∧
      ∃ storage w₁ status w₂, LocalStorage.prepare machine config.storage.data_dir w =
        .ok storage w₁ ∧ storage.status machine w₁ = .ok status w₂ := by
  have hdatabase : (∃ status, doctorDatabase external config = .ok status) ↔
      ∃ database, DatabaseUp external config database := by
    simp only [doctorDatabase, bind_eq_ok, DatabaseUp]
    constructor
    · rintro ⟨status, database, hconnect, hstatus⟩
      exact ⟨database, hconnect, status, hstatus⟩
    · rintro ⟨database, hconnect, status, hstatus⟩
      exact ⟨status, database, hconnect, hstatus⟩
  have hsearch : (∃ status, doctorSearch external config = .ok status) ↔
      ∃ search status, buildSearchClient external config = .ok search ∧
        search.diagnose external.backend = .ok status := by
    simp only [doctorSearch, bind_eq_ok]
    constructor
    · rintro ⟨status, search, hbuild, hstatus⟩
      exact ⟨search, status, hbuild, hstatus⟩
    · rintro ⟨search, status, hbuild, hstatus⟩
      exact ⟨status, search, hbuild, hstatus⟩
  have hstorage : (∃ status, (outcome (doctorStorage machine config) w).1 = .ok status) ↔
      ∃ storage w₁ status w₂, LocalStorage.prepare machine config.storage.data_dir w =
        .ok storage w₁ ∧ storage.status machine w₁ = .ok status w₂ := by
    rw [exists_outcome_ok_iff]
    simp only [doctorStorage, bind_run_ok_iff]
    constructor
    · rintro ⟨status, w₂, storage, w₁, hprepare, hstatus⟩
      exact ⟨storage, w₁, status, w₂, hprepare, hstatus⟩
    · rintro ⟨storage, w₁, status, w₂, hprepare, hstatus⟩
      exact ⟨status, w₂, storage, w₁, hprepare, hstatus⟩
  unfold runDoctor
  simp only [DiagnosticReport.healthy_new, List.forall_mem_cons, isOk_checkOf, hdatabase, hsearch,
    hstorage]
  simp

/-- The first readiness report of fresh services. -/
theorem readiness_healthy_iff {services : AppServices} (hcache : services.readiness_cache = none)
    (now finished : Instant) :
    (AppServices.readiness external machine now finished ⟨services, w⟩).1.healthy = true ↔
      (∃ status, services.database.diagnose external.postgres = .ok status) ∧
      ∃ status w', services.storage.diagnose machine w = .ok status w' := by
  have hstorage := exists_outcome_ok_iff (m := services.storage.diagnose machine) (s := w)
  rw [AppServices.readiness, hcache]
  simp only [Option.filter_none, readinessReport, DiagnosticReport.healthy_new,
    List.forall_mem_cons, isOk_checkOf, hstorage]
  simp

/-- The first search report of fresh services. -/
theorem searchStatus_healthy_iff {services : AppServices} (hcache : services.search_cache = none)
    (now finished : Instant) :
    (AppServices.searchStatus external now finished ⟨services, w⟩).1.healthy = true ↔
      ∃ status, services.search.diagnose external.backend = .ok status := by
  rw [AppServices.searchStatus, hcache]
  simp only [Option.filter_none, searchReport, DiagnosticReport.healthy_new,
    List.forall_mem_cons, isOk_checkOf]
  simp

/-! ## §2  A storage that stays as it is -/

/-- From `w` on no call is turned down, and every probe name to come is unused. -/
structure Settled (machine : Machine Uuid) (w : World) (names : List Name) : Prop where
  calm : machine.Calm w.calls
  fresh : ∀ n, w.drawn ≤ n →
    w.fs.node (names ++ [tmpName] ++ [probeName (machine.random n)]) = none

theorem Settled.probeFree {names : List Name} (h : Settled machine w names) :
    ProbeFree machine w names :=
  h.fresh w.drawn (le_refl _)

theorem Settled.later {names : List Name} (h : Settled machine w names) (hmoved : w.Unmoved w') :
    Settled machine w' names where
  calm := h.calm.mono hmoved.after.calls
  fresh n hn := by
    rw [hmoved.fs]
    exact h.fresh n (hmoved.after.drawn ▸ hn)

/-- What a successful `prepare` hands over. -/
theorem prepared (h : LocalStorage.prepare machine config.storage.data_dir w = .ok storage w') :
    storage = preparedStorage (storageNames machine config.storage.data_dir) ∧
      ValidShape config.storage.data_dir ∧
      RootNames (storageNames machine config.storage.data_dir) ∧
      PrivateTree w'.fs (storageNames machine config.storage.data_dir) := by
  obtain ⟨-, -, hshape, hnames, -, -, hstorage, htree, -⟩ :=
    (wp_prepare config.storage.data_dir).of_ok h
  exact ⟨hstorage, hshape, hnames, htree⟩

/-- A machine that turns nothing down leaves a settled storage, if no probe name
was used before. -/
theorem settled_of_calm (hcalm : ∀ n syscall, machine.refuses n syscall = none)
    (hfresh : ∀ n, w.fs.node (storageNames machine config.storage.data_dir ++ [tmpName] ++
      [probeName (machine.random n)]) = none)
    (h : LocalStorage.prepare machine config.storage.data_dir w = .ok storage w') :
    Settled machine w' (storageNames machine config.storage.data_dir) where
  calm n _ := hcalm n
  fresh n _ := by
    obtain ⟨-, -, -, -, -, hgrown, -⟩ := (wp_prepare config.storage.data_dir).of_ok h
    exact hgrown.none_of_not_target (hfresh n) (not_bootstrapNames_probe _ _)

/-! ## §3  Requests to the health endpoints -/

/-- A request with the times of its freshness check and of the end of its probe. -/
inductive Request where
  | readiness (now finished : Instant)
  | searchStatus (now finished : Instant)

/-- The readiness reports of a sequence of requests. -/
def readinessReports (external : External) (machine : Machine Uuid) :
    List Request → Running → List DiagnosticReport
  | [], _ => []
  | .readiness now finished :: requests, running =>
      let answered := AppServices.readiness external machine now finished running
      answered.1 :: readinessReports external machine requests answered.2
  | .searchStatus now finished :: requests, running =>
      readinessReports external machine requests
        (AppServices.searchStatus external now finished running).2

/-- Two processes that agree on all that readiness reads and writes. -/
structure SameReadiness (running running' : Running) : Prop where
  database : running'.services.database = running.services.database
  storage : running'.services.storage = running.services.storage
  cache : running'.services.readiness_cache = running.services.readiness_cache
  world : running'.world = running.world

variable {running running' : Running}

theorem SameReadiness.refl (running : Running) : SameReadiness running running :=
  ⟨rfl, rfl, rfl, rfl⟩

theorem SameReadiness.symm (h : SameReadiness running running') : SameReadiness running' running :=
  ⟨h.database.symm, h.storage.symm, h.cache.symm, h.world.symm⟩

theorem SameReadiness.trans {running'' : Running} (h : SameReadiness running running')
    (h' : SameReadiness running' running'') : SameReadiness running running'' where
  database := h'.database.trans h.database
  storage := h'.storage.trans h.storage
  cache := h'.cache.trans h.cache
  world := h'.world.trans h.world

/-- A search request is invisible to readiness. -/
theorem sameReadiness_searchStatus (external : External) (now finished : Instant)
    (running : Running) :
    SameReadiness running (AppServices.searchStatus external now finished running).2 := by
  unfold AppServices.searchStatus
  split
  · exact .refl running
  · exact ⟨rfl, rfl, rfl, rfl⟩

/-- A readiness request does not see the search server's replies. -/
theorem readiness_congr (external : External) (machine : Machine Uuid) (replies : Meilisearch)
    (now finished : Instant) (h : SameReadiness running running') :
    (AppServices.readiness { external with meilisearch := replies } machine now finished
        running').1 = (AppServices.readiness external machine now finished running).1 ∧
      SameReadiness (AppServices.readiness external machine now finished running).2
        (AppServices.readiness { external with meilisearch := replies } machine now finished
          running').2 := by
  simp only [AppServices.readiness, h.database, h.storage, h.cache, h.world]
  split
  · exact ⟨rfl, h⟩
  · exact ⟨rfl, rfl, rfl, rfl, rfl⟩

/-- **Independence.** However requests follow each other, the search server's
replies have no influence on a readiness report. -/
theorem readinessReports_congr (external : External) (machine : Machine Uuid)
    (replies : Meilisearch) (requests : List Request) :
    ∀ {running running'}, SameReadiness running running' →
      readinessReports { external with meilisearch := replies } machine requests running' =
        readinessReports external machine requests running := by
  induction requests with
  | nil =>
      intro running running' h
      rfl
  | cons request requests ih =>
      intro running running' h
      cases request with
      | readiness now finished =>
          obtain ⟨hreport, hafter⟩ := readiness_congr external machine replies now finished h
          simp only [readinessReports, hreport, ih hafter]
      | searchStatus now finished =>
          have hleft := sameReadiness_searchStatus external now finished running
          have hright := sameReadiness_searchStatus { external with meilisearch := replies }
            now finished running'
          exact ih ((hleft.symm.trans h).trans hright)

/-- Search requests before it do not matter to the first readiness report. -/
theorem first_readinessReport (requests : List Request) :
    ∀ {running report}, (readinessReports external machine requests running).head? = some report →
      ∃ now finished, report = (AppServices.readiness external machine now finished running).1 := by
  induction requests with
  | nil =>
      intro running report h
      cases h
  | cons request requests ih =>
      intro running report h
      cases request with
      | readiness now finished =>
          simp only [readinessReports, List.head?_cons, Option.some.injEq] at h
          exact ⟨now, finished, h.symm⟩
      | searchStatus now finished =>
          obtain ⟨now', finished', hreport⟩ := ih h
          have hsame := sameReadiness_searchStatus external now finished running
          have hcongr := readiness_congr external machine external.meilisearch now' finished' hsame
          exact ⟨now', finished', hreport.trans hcongr.1⟩

/-! ## §4  The agreement -/

/-- **One verdict.** Let the external state be fixed: once `prepare` got all its
calls through, no further call is turned down and no further probe name is taken.

`doctor` is healthy exactly if startup succeeds and the search report then served
is healthy. After a startup the first readiness report is healthy. After a
healthy `doctor` startup succeeds on the tree it left, with the root it reported.
The search server's replies influence neither startup nor any readiness report. -/
theorem orchestrations_agree (external : External) (machine : Machine Uuid) (config : Config)
    (w : World)
    (hfixed : ∀ storage w', LocalStorage.prepare machine config.storage.data_dir w =
      .ok storage w' → Settled machine w' (storageNames machine config.storage.data_dir)) :
    ((runDoctor external machine config w).1.healthy = true ↔
      ∃ services w', AppServices.connect external machine config w = .ok services w' ∧
        ∀ now finished,
          (AppServices.searchStatus external now finished ⟨services, w'⟩).1.healthy = true) ∧
    (∀ services w', AppServices.connect external machine config w = .ok services w' →
      ∀ requests report,
        (readinessReports external machine requests ⟨services, w'⟩).head? = some report →
          report.healthy = true) ∧
    ((runDoctor external machine config w).1.healthy = true →
      ∃ status services w', (outcome (doctorStorage machine config) w).1 = .ok status ∧
        AppServices.connect external machine config (runDoctor external machine config w).2 =
          .ok services w' ∧ services.storage.root = status.root) ∧
    ∀ replies,
      AppServices.connect { external with meilisearch := replies } machine config w =
        AppServices.connect external machine config w ∧
      ∀ services w', AppServices.connect external machine config w = .ok services w' →
        ∀ requests,
          readinessReports { external with meilisearch := replies } machine requests
            ⟨services, w'⟩ = readinessReports external machine requests ⟨services, w'⟩ := by
  refine ⟨?_, ?_, ?_, fun replies => ⟨rfl, fun services w' _ requests =>
    readinessReports_congr external machine replies requests (.refl _)⟩⟩
  · rw [doctor_healthy_iff]
    constructor
    · rintro ⟨⟨database, hdatabase⟩, ⟨search, status, hsearch, hprobe⟩, storage, w₁, -, -,
        hprepare, -⟩
      have hconnect := (connect_ok_iff _).mpr
        ⟨search, database, storage, hsearch, hdatabase, hprepare, rfl⟩
      refine ⟨_, _, hconnect, fun now finished => ?_⟩
      rw [searchStatus_healthy_iff rfl]
      exact ⟨status, hprobe⟩
    · rintro ⟨services, w₁, hconnect, hhealthy⟩
      obtain ⟨search, database, storage, hsearch, hdatabase, hprepare, rfl⟩ :=
        (connect_ok_iff _).mp hconnect
      obtain ⟨status, hprobe⟩ := (searchStatus_healthy_iff rfl 0 0).mp (hhealthy 0 0)
      -- `status` repeats checks that `prepare` has just made
      have hsettled := hfixed storage w₁ hprepare
      obtain ⟨rfl, -, hnames, htree⟩ := prepared hprepare
      obtain ⟨w₂, hstatus, -⟩ := status_returns hsettled.calm hnames htree
      exact ⟨⟨database, hdatabase⟩, ⟨search, status, hsearch, hprobe⟩,
        _, w₁, _, w₂, hprepare, hstatus⟩
  · intro services w₁ hconnect requests report hfirst
    obtain ⟨search, database, storage, -, ⟨-, hdatabase⟩, hprepare, rfl⟩ :=
      (connect_ok_iff _).mp hconnect
    have hsettled := hfixed storage w₁ hprepare
    obtain ⟨rfl, -, hnames, htree⟩ := prepared hprepare
    obtain ⟨w₂, hdiagnose, -⟩ := diagnose_returns hsettled.calm hnames htree hsettled.probeFree
    obtain ⟨now, finished, rfl⟩ := first_readinessReport requests hfirst
    rw [readiness_healthy_iff rfl]
    exact ⟨hdatabase, _, w₂, hdiagnose⟩
  · intro hdoctor
    obtain ⟨⟨database, hdatabase⟩, ⟨search, -, hsearch, -⟩, storage, w₁, status, w₂, hprepare,
      hstatus⟩ := doctor_healthy_iff.mp hdoctor
    -- `doctor` leaves the tree of its `prepare`, and the second one finds nothing to do
    have hsettled := hfixed storage w₁ hprepare
    obtain ⟨rfl, hshape, hnames, htree⟩ := prepared hprepare
    obtain ⟨hunmoved, rfl, -⟩ := (wp_status machine _).of_ok hstatus
    have hrun : outcome (doctorStorage machine config) w = (.ok _, w₂) :=
      outcome_of_ok (bind_run_ok_iff.mpr ⟨_, w₁, hprepare, hstatus⟩)
    have hleft : (runDoctor external machine config w).2 = w₂ := by
      rw [runDoctor, hrun]
    have hlater := hsettled.later hunmoved
    obtain ⟨w₃, hagain, -⟩ := prepare_again hlater.calm hshape (hunmoved.fs ▸ htree)
      hlater.probeFree
    have hconnect := (connect_ok_iff _).mpr
      ⟨search, database, _, hsearch, hdatabase, hagain, rfl⟩
    rw [hleft]
    exact ⟨_, _, w₃, congrArg Prod.fst hrun, hconnect, rfl⟩

/-- The body of a reply with one string field. -/
def replyBody (field value : String) : List UInt8 :=
  ("\x7b\"" ++ field ++ "\":\"" ++ value ++ "\"\x7d").toByteArray.data.toList

/-- A server of each kind that answers as expected. -/
def smallExternal : External where
  postgres := {
    connect := fun _ => .ok ()
    server_version := fun _ => .row (.ok "18.4")
    schema_version := fun _ => .row (.ok 1) }
  urls := smallUrls
  http := {
    headerValue := fun text => .ok text
    build := fun _ => .ok () }
  debug := String.quote
  json := {
    readField := fun field body =>
      if body = replyBody field "available" then .ok "available"
      else if body = replyBody field "1.45.1" then .ok "1.45.1"
      else .error "not one of these replies" }
  meilisearch := fun _ url =>
    if url.path = "/health" then
      .response ⟨200, "200 OK"⟩ none [.ok (replyBody "status" "available")]
    else .response ⟨200, "200 OK"⟩ none [.ok (replyBody "pkgVersion" "1.45.1")]

theorem orchestrations_agree_bareTree :
    (runDoctor smallExternal plainMachine
        { smallConfig with storage := ⟨⟨"/srv/wiki".toList⟩⟩ }
        (freshWorld (bareTree 0o755))).1.healthy = true ∧
      ∃ services w', AppServices.connect smallExternal plainMachine
        { smallConfig with storage := ⟨⟨"/srv/wiki".toList⟩⟩ }
        (freshWorld (bareTree 0o755)) = .ok services w' := by
  obtain ⟨w', hprepare⟩ := prepare_bareTree
  have hsearch : ∃ search status, buildSearchClient smallExternal
      { smallConfig with storage := ⟨⟨"/srv/wiki".toList⟩⟩ } = .ok search ∧
        search.diagnose smallExternal.backend = .ok status :=
    ⟨⟨⟨"http", "", none, some (.domain "localhost"), some 7700, "/", none, none⟩,
      ⟨"Bearer 0123456789abcdef", 2000⟩⟩, ⟨"1.45.1"⟩, by decide +kernel, by decide +kernel⟩
  have hunused : ∀ n, (bareTree 0o755).node (storageNames plainMachine ⟨"/srv/wiki".toList⟩ ++
      [tmpName] ++ [probeName (plainMachine.random n)]) = none := by
    intro n
    exact bareTree_node_of_ne_nil _ (by simp)
  have hagree := orchestrations_agree smallExternal plainMachine
    { smallConfig with storage := ⟨⟨"/srv/wiki".toList⟩⟩ } (freshWorld (bareTree 0o755))
    (fun storage w' h => settled_of_calm (fun _ _ => rfl) hunused h)
  obtain ⟨search, status, hbuild, hprobe⟩ := hsearch
  have hconnect := (connect_ok_iff _).mpr ⟨search, ⟨_⟩, _, hbuild,
    ⟨rfl, ⟨"18.4", 1⟩, by decide +kernel⟩, hprepare, rfl⟩
  refine ⟨hagree.1.mpr ⟨_, _, hconnect, fun now finished => ?_⟩, _, _, hconnect⟩
  rw [searchStatus_healthy_iff rfl]
  exact ⟨status, hprobe⟩

end WikiNext.App
