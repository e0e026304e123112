import WikiNext.Server.DeploymentSharing
import WikiNext.Store.StorageSessions

/-!
# Doctors and servers, shared

Each command on the terms of its process: what its reports say, and what its end
says about the database, the search server, the socket and the tree.

§1 what a report says, §2 the checks, §3 each command.
-/

namespace WikiNext.Server

open WikiNext.Foundation WikiNext.Core WikiNext.App WikiNext.Store WikiNext.Search

variable {ι δ : Type} {host : Host δ} {config : Config} {search : SearchClient}
  {possible : δ → Prop} {allowed : Meilisearch → Prop} {clean : Prop}
  {machine : ι → Machine Uuid} {network : ι → Network} {umask : ι → Mode} {names : List Name}
  {fs : FileSystem} {i : ι}

/-! ## §1  What a report says -/

/-- The components of the report that answers a question. -/
def askedComponents : App.Stepwise.Asked → List String
  | .readiness _ => ["postgresql", "storage"]
  | .search => ["meilisearch"]

/-- The components of the reports that a command makes. -/
def commandComponents : Stepwise.Command → List (List String)
  | .doctor _ _ => [["postgresql", "meilisearch", "storage"]]
  | .serve _ asked => asked.map askedComponents

theorem commandComponents_known (command : Stepwise.Command) :
    ∀ components ∈ commandComponents command,
      components ⊆ ["postgresql", "meilisearch", "storage"] := by
  intro components hmember
  cases command with
  | doctor order order' => exact List.mem_singleton.mp hmember ▸ List.Subset.refl _
  | serve order asked =>
      obtain ⟨first, -, rfl⟩ := List.mem_map.mp hmember
      cases first <;> simp [askedComponents]

def isServe : Stepwise.Command → Bool
  | .doctor _ _ => false
  | .serve _ _ => true

/-- Processes of one configuration, for which a client of the search server can be built,
on machines that share a storage nothing stands in the way of. -/
structure SideBySide (host : Host δ) (config : Config) (search : SearchClient)
    (machine : ι → Machine Uuid) (umask : ι → Mode) (names : List Name) (fs : FileSystem) :
    Prop where
  client : buildSearchClient host.external config = .ok search
  shape : ValidShape config.storage.data_dir
  linux : ∀ i, Linux (machine i) (umask i)
  keeps : ∀ i, KeepsOwner (umask i)
  storage : ∀ i, storageNames (machine i) config.storage.data_dir = names
  distinct : ∀ i j, i ≠ j → ∀ m n, (machine i).random m ≠ (machine j).random n
  ready : Ready fs names

/-- What a check says: the states it met, for which it was passed or failed. -/
structure Shown (host : Host δ) (options : DatabaseOptions) (search : SearchClient)
    (possible : δ → Prop) (allowed : Meilisearch → Prop) (clean : Prop)
    (check : DiagnosticCheck) : Prop where
  passed : check.isOk = true →
    (check.component = "postgresql" →
      (∃ d, possible d ∧ Compatible (host.sqlx.server d) options) ∧
        ∃ d, possible d ∧ SchemaCurrent (host.sqlx.server d) options) ∧
    (check.component = "meilisearch" → (∃ m, allowed m ∧ Available host search m) ∧
      ∃ m, allowed m ∧ Current host search m)
  failed : check.isOk = false →
    (check.component = "postgresql" →
      ∃ d, possible d ∧ ¬ LetsIn (host.sqlx.server d) options) ∧
    (check.component = "storage" → ¬ clean) ∧
    (check.component = "meilisearch" →
      ∃ m, allowed m ∧ ¬ (Available host search m ∧ Current host search m))

/-- What a report on these components says. -/
structure Told (host : Host δ) (options : DatabaseOptions) (search : SearchClient)
    (possible : δ → Prop) (allowed : Meilisearch → Prop) (clean : Prop)
    (components : List String) (report : DiagnosticReport) : Prop where
  components : report.checks.map DiagnosticCheck.component = components
  healthy : report.healthy = true ↔ ∀ check ∈ report.checks, check.isOk = true
  checks : ∀ check ∈ report.checks, Shown host options search possible allowed clean check

/-- What the error of a start says. -/
def Explained (host : Host δ) (config : Config) (network : Network) (possible : δ → Prop)
    (clean : Prop) : CliError → Prop
  | .startup (.database _) =>
      ∃ d, possible d ∧ ¬ LetsIn (host.sqlx.server d) (databaseOptions config.database)
  | .startup (.storage _) => ¬ clean
  | .server error => openSocket network config.server.bind = .error error
  | _ => False

/-- What a process knows. -/
structure Knows (possible : δ → Prop) (allowed : Meilisearch → Prop)
    (machine : ι → Machine Uuid) (names : List Name) (fs : FileSystem) (i : ι)
    (made : List (List Name)) (s : App.Stepwise.Outside δ) : Prop where
  possible : possible s.1.1
  allowed : allowed s.1.2
  working : Working machine names fs i made none s.2

/-- Where a part of a process that works on the storage may end. -/
def StorageEnds {α : Type} (machine : ι → Machine Uuid) (names : List Name) (fs : FileSystem)
    (i : ι) (made : List (List Name)) : Except StorageError α → World → Prop :=
  Ends (fun _ w => Working machine names fs i (storageDirs names) none w)
    (Spoiled machine names fs i made)

theorem stable_working {made : List (List Name)} : (storageTerms machine names fs i).Stable
    (Working machine names fs i made none) := fun _ _ hrely h => h.relied hrely

theorem stable_storageEnds {α : Type} {made : List (List Name)} (r : Except StorageError α) :
    (storageTerms machine names fs i).Stable (StorageEnds machine names fs i made r) := by
  refine Terms.Stable.ends (fun _ => stable_working) (fun _ => ?_) r
  exact stable_working.and (Terms.stable_const _)

/-! ## §2  The checks -/

section Checks

variable {options : DatabaseOptions}

/-- Where nothing is down, nothing is reported. -/
theorem Told.healthy_of_up {components : List String} {report : DiagnosticReport}
    (h : Told host options search possible allowed clean components report)
    (hknown : components ⊆ ["postgresql", "meilisearch", "storage"])
    (hdatabase : ∀ d, possible d → LetsIn (host.sqlx.server d) options) (hclean : clean)
    (hsearch : ∀ m, allowed m → Available host search m ∧ Current host search m) :
    report.healthy = true := by
  refine h.healthy.mpr fun check hcheck => ?_
  by_contra hfailed
  obtain ⟨hpostgresql, hstorage, hmeilisearch⟩ :=
    (h.checks check hcheck).failed (Bool.eq_false_of_not_eq_true hfailed)
  have hmember : check.component ∈ components := h.components ▸ List.mem_map_of_mem hcheck
  rcases List.mem_cons.mp (hknown hmember) with hcomponent | hmember
  · obtain ⟨d, hpossible, hdown⟩ := hpostgresql hcomponent
    exact hdown (hdatabase d hpossible)
  rcases List.mem_pair.mp hmember with hcomponent | hcomponent
  · obtain ⟨m, hallowed, hdown⟩ := hmeilisearch hcomponent
    exact hdown (hsearch m hallowed)
  · exact hstorage hcomponent hclean

theorem healthy_reports {components : List (List String)} {reports : List DiagnosticReport}
    (h : List.Forall₂ (Told host options search possible allowed clean) components reports)
    (hknown : ∀ these ∈ components, these ⊆ ["postgresql", "meilisearch", "storage"])
    (hdatabase : ∀ d, possible d → LetsIn (host.sqlx.server d) options) (hclean : clean)
    (hsearch : ∀ m, allowed m → Available host search m ∧ Current host search m) :
    ∀ report ∈ reports, report.healthy = true := by
  induction h with
  | nil => exact fun report hreport => absurd hreport List.not_mem_nil
  | cons htold _ ih =>
      obtain ⟨hfirst, hlater⟩ := List.forall_mem_cons.mp hknown
      refine List.forall_mem_cons.mpr ⟨?_, ih hlater⟩
      exact htold.healthy_of_up hfirst hdatabase hclean hsearch

theorem component_checkOf {ε α : Type} {component : String} {r : Except ε α}
    {detail : α → String} {message : ε → String} :
    (checkOf component detail message r).component = component := by
  cases r <;> rfl

theorem told_new {checks : List DiagnosticCheck} {components : List String}
    (hcomponents : checks.map DiagnosticCheck.component = components)
    (h : ∀ check ∈ checks, Shown host options search possible allowed clean check) :
    Told host options search possible allowed clean components (.new checks) :=
  ⟨hcomponents, DiagnosticReport.healthy_new checks, h⟩

/-- A check made of a result. -/
theorem shown_checkOf {ε α : Type} {component : String} {r : Except ε α} {detail : α → String}
    {message : ε → String}
    (hok : ∀ a, r = .ok a →
      (component = "postgresql" → (∃ d, possible d ∧ Compatible (host.sqlx.server d) options) ∧
        ∃ d, possible d ∧ SchemaCurrent (host.sqlx.server d) options) ∧
      (component = "meilisearch" → (∃ m, allowed m ∧ Available host search m) ∧
        ∃ m, allowed m ∧ Current host search m))
    (herror : ∀ e, r = .error e →
      (component = "postgresql" → ∃ d, possible d ∧ ¬ LetsIn (host.sqlx.server d) options) ∧
      (component = "storage" → ¬ clean) ∧
      (component = "meilisearch" →
        ∃ m, allowed m ∧ ¬ (Available host search m ∧ Current host search m))) :
    Shown host options search possible allowed clean (checkOf component detail message r) := by
  cases r with
  | ok a =>
      refine ⟨fun _ => hok a rfl, fun hfailed => ?_⟩
      rw [checkOf, DiagnosticCheck.isOk_success] at hfailed
      cases hfailed
  | error e =>
      refine ⟨fun hpassed => ?_, fun _ => herror e rfl⟩
      rw [checkOf, DiagnosticCheck.isOk_failure] at hpassed
      cases hpassed

theorem DatabaseEnds.shown {α : Type} {r : Except StoreError α} {detail : α → String}
    {message : StoreError → String} {d : δ} (h : DatabaseEnds host options possible r d) :
    Shown host options search possible allowed clean
      (checkOf "postgresql" detail message r) := by
  apply shown_checkOf
  · rintro a rfl
    exact ⟨fun _ => h.2, fun hother => absurd hother (by decide)⟩
  · rintro e rfl
    exact ⟨fun _ => h.2, fun hother => absurd hother (by decide),
      fun hother => absurd hother (by decide)⟩

theorem SearchEnds.shown {α : Type} {r : Except SearchError α} {detail : α → String}
    {message : SearchError → String} {m : Meilisearch} (h : SearchEnds host search allowed r m) :
    Shown host options search possible allowed clean
      (checkOf "meilisearch" detail message r) := by
  apply shown_checkOf
  · rintro a rfl
    exact ⟨fun hother => absurd hother (by decide), fun _ => h.2⟩
  · rintro e rfl
    exact ⟨fun hother => absurd hother (by decide), fun hother => absurd hother (by decide),
      fun _ => h.2⟩

theorem StorageEnds.shown {α : Type} {r : Except StorageError α} {detail : α → String}
    {message : StorageError → String} {made : List (List Name)} {w : World}
    (h : StorageEnds machine names fs i made r w) :
    Shown host options search possible allowed (Clean (machine i) names fs)
      (checkOf "storage" detail message r) := by
  apply shown_checkOf
  · rintro a rfl
    exact ⟨fun hother => absurd hother (by decide), fun hother => absurd hother (by decide)⟩
  · rintro e rfl
    exact ⟨fun hother => absurd hother (by decide), fun _ => h.2.2,
      fun hother => absurd hother (by decide)⟩

end Checks

/-! ## §3  Each command -/

section Commands

variable {made : List (List Name)} {ε : Type} {s : App.Stepwise.Outside δ}
  {order order' : List Bool} {services : AppServices} {options : DatabaseOptions}
  {E : ε → App.Stepwise.Outside δ → Prop}

theorem stable_knows : (processTerms possible allowed machine names fs i).Stable
    (Knows possible allowed machine names fs i made) := by
  rintro s t ⟨⟨hdatabase, hsearch⟩, hstorage⟩ h
  exact ⟨hdatabase h.possible, hsearch h.allowed, h.working.relied hstorage⟩

/-- A part of a process that asks the database, next to the search server. -/
theorem safe_first {α : Type} {p : Steps StoreError δ α} {Q : Except StoreError α → δ → Prop}
    {c : δ × Meilisearch} (hp : p.run.Safe (Terms.watching possible) Q c.1)
    (hallowed : allowed c.2) :
    (Steps.first p).run.Safe (serverTerms possible allowed)
      (fun r c => Q r c.1 ∧ allowed c.2) c :=
  hp.first (Terms.idle_watching allowed).still (Terms.stable_watching allowed) hallowed

theorem stable_first {α : Type} {Q : α → δ → Prop}
    (hQ : ∀ r, (Terms.watching possible).Stable (Q r)) (r : α) :
    (serverTerms possible allowed).Stable fun c => Q r c.1 ∧ allowed c.2 :=
  (hQ r).prod (Terms.stable_watching allowed)

theorem under_readiness (hnames : RootNames names) (hstore : services.database = ⟨options⟩)
    (hstorage : services.storage = preparedStorage names)
    (hs : Knows possible allowed machine names fs i (storageDirs names) s) :
    Under (processTerms possible allowed machine names fs i)
      (App.Stepwise.readiness host.sqlx.server (machine i) order services)
      (fun report t => Told host options search possible allowed (Clean (machine i) names fs)
          ["postgresql", "storage"] report ∧
        Knows possible allowed machine names fs i (storageDirs names) t) E s := by
  rw [App.Stepwise.readiness, hstore, hstorage]
  apply under_bind
  apply under_await
  have hdatabase : (Steps.first (Store.Stepwise.diagnoseDatabase host.sqlx.server
      ⟨options⟩)).run.Lasting (serverTerms possible allowed) _ s.1 :=
    fun _ hrely =>
      safe_first (under_diagnoseDatabase (hrely.1 hs.possible)) (hrely.2 hs.allowed)
  have hdiagnose : (Store.Stepwise.diagnose (machine i) (preparedStorage names)).run.Lasting
      (storageTerms machine names fs i)
      (StorageEnds machine names fs i (storageDirs names)) s.2 := by
    intro w hrely
    refine (under_diagnose hnames (hs.working.relied hrely)).mono ?_ fun _ _ hspoiled => hspoiled
    exact fun _ _ hworking => hworking.2
  refine (Script.Safe.both idle_serverTerms idle_storageTerms (stable_first stable_databaseEnds)
    order hdatabase hdiagnose).mono ?_
  rintro ⟨database, storage⟩ t ⟨⟨hdatabase, hallowed⟩, hstorage⟩
  have hworking : Working machine names fs i (storageDirs names) none t.2 := by
    cases storage with
    | ok status => exact hstorage
    | error e => exact hstorage.1
  refine under_pure ⟨told_new ?_ ?_, hdatabase.reachable, hallowed, hworking⟩
  · simp only [List.map_cons, component_checkOf, List.map_nil]
  · simp only [List.forall_mem_cons, List.not_mem_nil, false_implies, implies_true, and_true]
    exact ⟨hdatabase.shown, hstorage.shown⟩

theorem under_searchStatus (hclient : services.search = search)
    (hs : Knows possible allowed machine names fs i made s) :
    Under (processTerms possible allowed machine names fs i)
      (App.Stepwise.searchStatus host.external services)
      (fun report t => Told host options search possible allowed (Clean (machine i) names fs)
          ["meilisearch"] report ∧
        Knows possible allowed machine names fs i made t) E s := by
  rw [App.Stepwise.searchStatus, hclient]
  apply under_bind
  apply under_attempt
  have hsearch : Script.Safe (serverTerms possible allowed)
      (fun r c => possible c.1 ∧ SearchEnds host search allowed r c.2)
      (Steps.second (App.Stepwise.diagnoseSearch host.external search)).run s.1 :=
    Script.Safe.second (Terms.idle_watching possible).still (Terms.stable_watching possible)
      (show Script.Safe _ _ _ _ from under_diagnoseSearch hs.allowed) hs.possible
  refine Script.Safe.mono (Script.Safe.first idle_storageTerms.still stable_working hsearch
    hs.working) ?_
  rintro r t ⟨⟨hpossible, hends⟩, hworking⟩
  have hknows : Knows possible allowed machine names fs i made t :=
    ⟨hpossible, hends.permitted, hworking⟩
  have htold : Told host options search possible allowed (Clean (machine i) names fs)
      ["meilisearch"] (searchReport r) := by
    refine told_new ?_ fun check hcheck => List.mem_singleton.mp hcheck ▸ hends.shown
    simp only [List.map_cons, component_checkOf, List.map_nil]
  cases r with
  | ok a => exact under_pure ⟨htold, hknows⟩
  | error e => exact under_pure ⟨htold, hknows⟩

theorem under_doctorStorage (h : SideBySide host config search machine umask names fs)
    {w : World} (hw : Working machine names fs i [] none w) :
    Under (storageTerms machine names fs i) (App.Stepwise.doctorStorage (machine i) config)
      (fun _ w => Working machine names fs i (storageDirs names) none w)
      (Spoiled machine names fs i []) w := by
  have hnames : RootNames names := h.storage i ▸ rootNames_storageNames h.shape
  rw [App.Stepwise.doctorStorage]
  apply Under.bind (under_prepare hnames (h.linux i) (h.keeps i) h.shape (h.storage i) hw)
  rintro storage w' ⟨rfl, hw'⟩
  refine (under_status hnames hw').mono (fun _ _ hworking => hworking.2) ?_
  exact fun _ _ hspoiled => hspoiled.forget (List.nil_subset _)

theorem under_runDoctor (h : SideBySide host config search machine umask names fs)
    (hs : Knows possible allowed machine names fs i [] s) :
    Under (processTerms possible allowed machine names fs i)
      (App.Stepwise.runDoctor host.sqlx.server host.external (machine i) order order' config)
      (fun report t => Told host (databaseOptions config.database) search possible allowed
          (Clean (machine i) names fs) ["postgresql", "meilisearch", "storage"] report ∧
        (Clean (machine i) names fs → Working machine names fs i (storageDirs names) none t.2)) E
      s := by
  rw [App.Stepwise.runDoctor]
  apply under_bind
  apply under_await
  have hsearch : (App.Stepwise.doctorSearch host.external config).run.Lasting
      (Terms.watching allowed) (SearchEnds host search allowed) s.1.2 := by
    intro m hrely
    have hunder : Under (Terms.watching allowed)
        (App.Stepwise.doctorSearch host.external config) _ _ m :=
      under_bind (under_ofExcept h.client (under_diagnoseSearch (hrely hs.allowed)))
    exact hunder
  have hdatabase : (App.Stepwise.doctorDatabase host.sqlx.server config).run.Lasting
      (Terms.watching possible) _ s.1.1 :=
    fun _ hrely => under_doctorDatabase (hrely hs.possible)
  have hstable : ∀ r : Except StoreError DatabaseStatus × Except SearchError SearchStatus,
      (serverTerms possible allowed).Stable fun c =>
        DatabaseEnds host (databaseOptions config.database) possible r.1 c.1 ∧
          SearchEnds host search allowed r.2 c.2 :=
    fun r => (stable_databaseEnds r.1).prod (stable_searchEnds r.2)
  have hservers : Script.Lasting (serverTerms possible allowed) _ _ s.1 :=
    Script.Lasting.both (Terms.idle_watching possible) (Terms.idle_watching allowed)
      stable_databaseEnds order hdatabase hsearch
  have hstorage : (App.Stepwise.doctorStorage (machine i) config).run.Lasting
      (storageTerms machine names fs i) (StorageEnds machine names fs i []) s.2 :=
    fun w hrely => under_doctorStorage h (hs.working.relied hrely)
  refine (Script.Safe.both idle_serverTerms idle_storageTerms hstable order' hservers
    hstorage).mono ?_
  rintro ⟨⟨database, client⟩, storage⟩ t ⟨⟨hdatabase, hclient⟩, hstorage⟩
  refine under_pure ⟨told_new ?_ ?_, fun hclean => ?_⟩
  · simp only [List.map_cons, component_checkOf, List.map_nil]
  · simp only [List.forall_mem_cons, List.not_mem_nil, false_implies, implies_true, and_true]
    exact ⟨hdatabase.shown, hclient.shown, hstorage.shown⟩
  · cases storage with
    | ok status => exact hstorage
    | error e => exact absurd hclean hstorage.2.2

/-- The services that a start hands over. -/
structure Started (config : Config) (search : SearchClient) (names : List Name)
    (services : AppServices) : Prop where
  database : services.database = ⟨databaseOptions config.database⟩
  search : services.search = search
  storage : services.storage = preparedStorage names

theorem lasting_prepare (h : SideBySide host config search machine umask names fs) {w : World}
    (hw : Working machine names fs i [] none w) :
    (Store.Stepwise.prepare (machine i) config.storage.data_dir).run.Lasting
      (storageTerms machine names fs i) (fun r w => StorageEnds machine names fs i [] r w ∧
        ∀ storage, r = .ok storage → storage = preparedStorage names) w := by
  intro w' hrely
  have hnames : RootNames names := h.storage i ▸ rootNames_storageNames h.shape
  refine Script.Safe.mono (under_prepare hnames (h.linux i) (h.keeps i) h.shape (h.storage i)
    (hw.relied hrely)) ?_
  rintro (e | storage) w'' hends
  · exact ⟨hends, fun storage hother => by cases hother⟩
  · exact ⟨hends.2, fun storage' hsame => Except.ok.inj hsame ▸ hends.1⟩

theorem under_connect (network : Network)
    (h : SideBySide host config search machine umask names fs)
    (hs : Knows possible allowed machine names fs i [] s) :
    Under (processTerms possible allowed machine names fs i)
      (App.Stepwise.connect host.sqlx.server host.external (machine i) order config)
      (fun services t => Started config search names services ∧
        Knows possible allowed machine names fs i (storageDirs names) t)
      (fun e _ => Explained host config network possible (Clean (machine i) names fs)
        (.startup e)) s := by
  have hclient : (buildSearchClient host.external config).mapError StartupError.search =
      .ok search := congrArg _ h.client
  rw [App.Stepwise.connect]
  apply under_bind
  refine under_ofExcept hclient ?_
  apply under_bind
  apply under_await
  have hpool : (Steps.first (Store.Stepwise.connectDatabase host.sqlx.server
      (databaseOptions config.database))).run.Lasting (serverTerms possible allowed) _ s.1 :=
    fun _ hrely =>
      safe_first (under_connectDatabase (hrely.1 hs.possible)) (hrely.2 hs.allowed)
  refine (Script.Safe.both idle_serverTerms idle_storageTerms (stable_first stable_poolEnds)
    order hpool (lasting_prepare h hs.working)).mono ?_
  rintro ⟨database, storage⟩ t ⟨⟨hdatabase, hallowed⟩, hstorage, hprepared⟩
  cases database with
  | error e => exact under_bind (under_throw hdatabase.2)
  | ok store =>
      obtain ⟨rfl, hpossible⟩ := hdatabase
      apply under_bind
      refine under_ofExcept rfl ?_
      apply under_bind
      apply under_mapErr
      -- what came of the storage waits for the database
      have hprobe : Script.Safe (processTerms possible allowed machine names fs i)
          (fun r t => (DatabaseEnds host (databaseOptions config.database) possible r t.1.1 ∧
            allowed t.1.2) ∧ StorageEnds machine names fs i [] storage t.2)
          (Steps.first (Steps.first (Store.Stepwise.diagnoseDatabase host.sqlx.server
            ⟨databaseOptions config.database⟩))).run t :=
        (safe_first (under_diagnoseDatabase hpossible) hallowed).first idle_storageTerms.still
          (stable_storageEnds storage) hstorage
      refine Script.Safe.mono hprobe ?_
      rintro (e | status) u ⟨⟨hdatabase, hallowed⟩, hstorage⟩
      · exact hdatabase.2
      · apply under_bind
        cases storage with
        | error e => exact under_throw hstorage.2.2
        | ok storage =>
            refine under_ofExcept rfl (under_pure ⟨⟨rfl, rfl, hprepared _ rfl⟩, ?_⟩)
            exact ⟨hdatabase.1, hallowed, hstorage⟩

/-- A running server. -/
theorem under_reports (hnames : RootNames names) (hstarted : Started config search names services)
    (asked : List App.Stepwise.Asked)
    (hs : Knows possible allowed machine names fs i (storageDirs names) s) :
    Under (processTerms possible allowed machine names fs i)
      (App.Stepwise.reports host.sqlx.server host.external (machine i) services asked)
      (fun reports t => List.Forall₂
          (Told host (databaseOptions config.database) search possible allowed
            (Clean (machine i) names fs)) (asked.map askedComponents) reports ∧
        Knows possible allowed machine names fs i (storageDirs names) t) E s := by
  induction asked generalizing s with
  | nil => exact under_pure ⟨.nil, hs⟩
  | cons first later ih =>
      rw [App.Stepwise.reports]
      have hfirst : Under (processTerms possible allowed machine names fs i)
          (App.Stepwise.answer host.sqlx.server host.external (machine i) services first)
          (fun report t => Told host (databaseOptions config.database) search possible allowed
              (Clean (machine i) names fs) (askedComponents first) report ∧
            Knows possible allowed machine names fs i (storageDirs names) t) E s := by
        cases first with
        | readiness order =>
            exact under_readiness hnames hstarted.database hstarted.storage hs
        | search => exact under_searchStatus hstarted.search hs
      apply Under.bind hfirst
      rintro report t ⟨htold, ht⟩
      apply Under.bind (ih ht)
      rintro reports u ⟨hreports, hu⟩
      exact under_pure ⟨.cons htold hreports, hu⟩

/-- Where a command may end. -/
def CommandEnds (host : Host δ) (config : Config) (search : SearchClient) (possible : δ → Prop)
    (allowed : Meilisearch → Prop) (machine : ι → Machine Uuid) (network : ι → Network)
    (names : List Name) (fs : FileSystem) (i : ι) (command : Stepwise.Command) :
    Except CliError (List DiagnosticReport) → App.Stepwise.Outside δ → Prop :=
  Ends
    (fun reports t => List.Forall₂
        (Told host (databaseOptions config.database) search possible allowed
          (Clean (machine i) names fs)) (commandComponents command) reports ∧
      (isServe command = true → ∃ address, openSocket (network i) config.server.bind =
        .ok address) ∧
      (isServe command = true ∨ Clean (machine i) names fs →
        Working machine names fs i (storageDirs names) none t.2))
    (fun error _ => isServe command = true ∧
      Explained host config (network i) possible (Clean (machine i) names fs) error)

theorem under_command (h : SideBySide host config search machine umask names fs)
    (command : Stepwise.Command) (hs : Knows possible allowed machine names fs i [] s) :
    Script.Safe (processTerms possible allowed machine names fs i)
      (CommandEnds host config search possible allowed machine network names fs i command)
      (Stepwise.command host (machine i) (network i) config command).run s := by
  show Under (processTerms possible allowed machine names fs i)
    (Stepwise.command host (machine i) (network i) config command) _ _ s
  have hnames : RootNames names := h.storage i ▸ rootNames_storageNames h.shape
  cases command with
  | doctor order order' =>
      apply Under.bind (under_runDoctor h hs)
      rintro report t ⟨htold, hclean⟩
      refine under_pure ⟨.cons htold .nil, fun hserve => ?_, fun hor => ?_⟩
      · cases hserve
      · exact hclean (hor.resolve_left Bool.false_ne_true)
  | serve order asked =>
      apply under_bind
      apply under_mapErr
      apply (under_connect (network i) h hs).mono ?_ fun _ _ he => ⟨rfl, he⟩
      rintro services t ⟨hstarted, ht⟩
      apply under_bind
      cases hsocket : openSocket (network i) config.server.bind with
      | error error =>
          exact under_throw ⟨rfl, hsocket⟩
      | ok address =>
          refine under_ofExcept rfl ?_
          apply (under_reports (E := fun _ _ => False) hnames hstarted asked ht).mono
          · rintro reports u ⟨hreports, hu⟩
            exact ⟨hreports, fun _ => ⟨address, rfl⟩, fun _ => hu.working⟩
          · exact fun _ _ hfalse => hfalse.elim

end Commands

end WikiNext.Server
