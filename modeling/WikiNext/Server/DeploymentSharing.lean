import WikiNext.Server.Cli
import WikiNext.Store.StorageSharing

/-!
# The servers of a deployment, shared

Doctors and servers of one deployment call by call: every query, request and
system call is an event of its own. The database and the search server change in
between in any way: migrations, restarts and failures are among that. What a
process may count on while others move, and what it finds out when it asks the
database and the search server.

§1 the processes, §2 what a process counts on, §3 probes.
-/

namespace WikiNext.Server

open WikiNext.Foundation WikiNext.Core WikiNext.App WikiNext.Store WikiNext.Search

/-! ## §1  The processes -/

namespace Stepwise

/-- A command, with the order of its joined futures; a server with the reports it is
asked for, each of which it makes afresh. -/
inductive Command where
  | doctor (order order' : List Bool)
  | serve (order : List Bool) (asked : List App.Stepwise.Asked)

variable {δ : Type} (host : Host δ) (machine : Machine Uuid) (network : Network) (config : Config)

/-- The reports that a command makes. -/
def command : Command → Steps CliError (App.Stepwise.Outside δ) (List DiagnosticReport)
  | .doctor order order' => do
      let report ← App.Stepwise.runDoctor host.sqlx.server host.external machine order order' config
      pure [report]
  | .serve order asked => do
      let services ← .mapErr .startup
        (App.Stepwise.connect host.sqlx.server host.external machine order config)
      let _ ← MonadExcept.ofExcept ((openSocket network config.server.bind).mapError .server)
      App.Stepwise.reports host.sqlx.server host.external machine services asked

end Stepwise

variable {ι δ : Type} {host : Host δ} {config : Config} {possible : δ → Prop}
  {allowed : Meilisearch → Prop}

/-- What changes without a process of ours: the database and the search server, within
what is possible and allowed. -/
def surroundings (possible : δ → Prop) (allowed : Meilisearch → Prop) (d : δ)
    (replies : Meilisearch) (fs : FileSystem) :
    System ((δ × Meilisearch) × FileSystem) (δ ⊕ Meilisearch) where
  start := ((d, replies), fs)
  enabled _
    | .inl d => possible d
    | .inr replies => allowed replies
  next s
    | .inl d => ((d, s.1.2), s.2)
    | .inr replies => ((s.1.1, replies), s.2)

/-- An event: a call of a process, another state of the database, another search server. -/
abbrev SharedEvent (ι δ : Type) : Type := ι ⊕ (δ ⊕ Meilisearch)

/-- The state of all processes together. -/
abbrev Shared (ι δ : Type) : Type :=
  Joint ι ((δ × Meilisearch) × FileSystem) (Nat × Nat) (App.Stepwise.Outside δ)
    (Except CliError (List DiagnosticReport))

/-- The processes: each with its command, and its own view of machine and network. -/
def processesAmong [DecidableEq ι] (host : Host δ) (config : Config) (possible : δ → Prop)
    (allowed : Meilisearch → Prop) (d : δ) (fs : FileSystem) (machine : ι → Machine Uuid)
    (network : ι → Network) (commands : ι → Stepwise.Command) :
    System (Shared ι δ) (SharedEvent ι δ) :=
  Joint.within (Joint.beside worldView)
    (surroundings possible allowed d host.external.meilisearch fs)
    (fun _ => ((0, 0) : Nat × Nat))
    fun i => (Stepwise.command host (machine i) (network i) config (commands i)).run

/-- Anything may become of the servers. -/
abbrev processes [DecidableEq ι] (host : Host δ) (config : Config) (d : δ) (fs : FileSystem)
    (machine : ι → Machine Uuid) (network : ι → Network) (commands : ι → Stepwise.Command) :
    System (Shared ι δ) (SharedEvent ι δ) :=
  processesAmong host config (fun _ => True) (fun _ => True) d fs machine network commands

/-! ## §2  What a process counts on -/

/-- The terms of the servers. -/
abbrev serverTerms (possible : δ → Prop) (allowed : Meilisearch → Prop) : Terms (δ × Meilisearch) :=
  (Terms.watching possible).prod (Terms.watching allowed)

abbrev processTerms (possible : δ → Prop) (allowed : Meilisearch → Prop)
    (machine : ι → Machine Uuid) (names : List Name) (fs : FileSystem) (i : ι) :
    Terms (App.Stepwise.Outside δ) :=
  (serverTerms possible allowed).prod (storageTerms machine names fs i)

variable {machine : ι → Machine Uuid} {names : List Name} {fs : FileSystem} {i : ι} {d₀ : δ}
  {replies₀ : Meilisearch}

theorem idle_storageTerms : (storageTerms machine names fs i).Idle where
  refl _ := ⟨⟨rfl, rfl⟩, .refl⟩
  trans _ _ _ hst htu :=
    ⟨⟨htu.1.1.trans hst.1.1, htu.1.2.trans hst.1.2⟩, hst.2.trans htu.2⟩
  still _ := Leaves.refl

theorem idle_serverTerms : (serverTerms possible allowed).Idle :=
  (Terms.idle_watching possible).prod (Terms.idle_watching allowed)

theorem process_agreement
    (hdistinct : ∀ i j, i ≠ j → ∀ m n, (machine i).random m ≠ (machine j).random n) :
    Agreement (Joint.beside worldView) (processTerms possible allowed machine names fs) := by
  refine Agreement.beside idle_serverTerms ?_ (storage_agreement hdistinct)
  rintro c c' ⟨hdatabase, hsearch⟩
  obtain rfl : c' = c := Prod.ext hdatabase hsearch
  exact idle_serverTerms.refl _

/-- The surroundings are within the terms. -/
theorem surroundings_relied (i : ι) (c : (δ × Meilisearch) × FileSystem) (event : δ ⊕ Meilisearch)
    (own : Nat × Nat)
    (henabled : (surroundings possible allowed d₀ replies₀ fs).enabled c event) :
    (processTerms possible allowed machine names fs i).rely
      ((Joint.beside worldView).symm (c, own))
      ((Joint.beside worldView).symm
        ((surroundings possible allowed d₀ replies₀ fs).next c event, own)) := by
  cases event with
  | inl d => exact ⟨⟨fun _ => henabled, id⟩, idle_storageTerms.refl _⟩
  | inr replies => exact ⟨⟨id, fun _ => henabled⟩, idle_storageTerms.refl _⟩

/-! ## §3  Probes -/

/-- What a probe of the database has found out: if it was passed, then two possible states
passed its halves; if not, one possible state would not have let it in. -/
def DatabaseEnds {α : Type} (host : Host δ) (options : DatabaseOptions) (possible : δ → Prop) :
    Except StoreError α → δ → Prop :=
  Ends
    (fun _ d => possible d ∧ (∃ d', possible d' ∧ Compatible (host.sqlx.server d') options) ∧
      ∃ d', possible d' ∧ SchemaCurrent (host.sqlx.server d') options)
    (fun _ d => possible d ∧ ∃ d', possible d' ∧ ¬ LetsIn (host.sqlx.server d') options)

theorem DatabaseEnds.reachable {α : Type} {options : DatabaseOptions} {r : Except StoreError α}
    {d : δ} (h : DatabaseEnds host options possible r d) : possible d := by
  cases r with
  | ok a => exact h.1
  | error e => exact h.1

theorem stable_databaseEnds {α : Type} {options : DatabaseOptions} (r : Except StoreError α) :
    (Terms.watching possible).Stable (DatabaseEnds host options possible r) := by
  refine Terms.Stable.ends (fun _ => ?_) (fun _ => ?_) r
  · exact (Terms.stable_watching possible).and (Terms.stable_const _)
  · exact (Terms.stable_watching possible).and (Terms.stable_const _)

theorem under_diagnoseDatabase {options : DatabaseOptions} {d : δ} (h : possible d) :
    Script.Safe (Terms.watching possible) (DatabaseEnds host options possible)
      (Store.Stepwise.diagnoseDatabase host.sqlx.server ⟨options⟩).run d := by
  show Under (Terms.watching possible)
    (Store.Stepwise.diagnoseDatabase host.sqlx.server ⟨options⟩) _ _ d
  rw [Store.Stepwise.diagnoseDatabase]
  apply under_bind
  apply under_ask fun _ => rfl
  · intro version d' hversion hrely
    apply under_bind
    apply under_ask fun _ => rfl
    · intro schema d'' hschema hrely'
      split
      · rename_i hother
        refine under_throw ⟨hrely' (hrely h), d', hrely h, fun hlets => hother ?_⟩
        exact Except.ok.inj (hschema.symm.trans hlets.current)
      · rename_i hsame
        rw [not_not.mp hsame] at hschema
        exact under_pure ⟨hrely' (hrely h), ⟨d, h, version, hversion⟩, d', hrely h, hschema⟩
    · intro e d'' he hrely'
      refine ⟨hrely' (hrely h), d', hrely h, fun hlets => ?_⟩
      cases hlets.current.symm.trans he
  · intro e d' he hrely
    refine ⟨hrely h, d, h, fun hlets => ?_⟩
    obtain ⟨version, hversion⟩ := hlets.compatible
    cases hversion.symm.trans he

/-- A pool that is opened has the options it was opened with. -/
theorem eq_of_connect {server : PostgresServer} {options : DatabaseOptions} {store : PostgresStore}
    (h : PostgresStore.connect server options = .ok store) : store = ⟨options⟩ := by
  rw [PostgresStore.connect] at h
  cases hconnect : server.connect options with
  | error e =>
      rw [hconnect] at h
      cases h
  | ok _ =>
      rw [hconnect] at h
      exact (Except.ok.inj h).symm

/-- A pool is opened, or one possible state would not have let it in. -/
def PoolEnds (host : Host δ) (options : DatabaseOptions) (possible : δ → Prop) :
    Except StoreError PostgresStore → δ → Prop :=
  Ends (fun store d => store = ⟨options⟩ ∧ possible d)
    (fun _ d => possible d ∧ ∃ d', possible d' ∧ ¬ LetsIn (host.sqlx.server d') options)

theorem stable_poolEnds {options : DatabaseOptions} (r : Except StoreError PostgresStore) :
    (Terms.watching possible).Stable (PoolEnds host options possible r) := by
  refine Terms.Stable.ends (fun _ => ?_) (fun _ => ?_) r
  · exact (Terms.stable_const _).and (Terms.stable_watching possible)
  · exact (Terms.stable_watching possible).and (Terms.stable_const _)

theorem under_connectDatabase {options : DatabaseOptions} {d : δ} (h : possible d) :
    Script.Safe (Terms.watching possible) (PoolEnds host options possible)
      (Store.Stepwise.connectDatabase host.sqlx.server options).run d := by
  show Under (Terms.watching possible)
    (Store.Stepwise.connectDatabase host.sqlx.server options) _ _ d
  apply under_ask fun _ => rfl
  · exact fun store d' hstore hrely => ⟨eq_of_connect hstore, hrely h⟩
  · intro e d' he hrely
    refine ⟨hrely h, d, h, fun hlets => ?_⟩
    cases hlets.connect.symm.trans he

theorem under_doctorDatabase {d : δ} (h : possible d) :
    Script.Safe (Terms.watching possible)
      (DatabaseEnds host (databaseOptions config.database) possible)
      (App.Stepwise.doctorDatabase host.sqlx.server config).run d := by
  show Under (Terms.watching possible) (App.Stepwise.doctorDatabase host.sqlx.server config) _ _ d
  rw [App.Stepwise.doctorDatabase]
  apply under_bind
  have hconnect : Script.Safe (Terms.watching possible)
      (PoolEnds host (databaseOptions config.database) possible) _ d := under_connectDatabase h
  refine hconnect.mono ?_
  rintro (e | store) d' hends
  · exact hends
  · obtain ⟨rfl, hpossible⟩ := hends
    exact under_diagnoseDatabase hpossible

section Search

/-- The search server says that it is available. -/
def Available (host : Host δ) (search : SearchClient) (replies : Meilisearch) : Prop :=
  search.getJson (App.Stepwise.backend host.external replies) "health" "status" = .ok "available"

/-- The search server has the version that is expected. -/
def Current (host : Host δ) (search : SearchClient) (replies : Meilisearch) : Prop :=
  search.getJson (App.Stepwise.backend host.external replies) "version" "pkgVersion" =
    .ok EXPECTED_MEILISEARCH_VERSION

/-- Where a probe of the search server may end. The two requests may meet two servers. -/
def SearchEnds {α : Type} (host : Host δ) (search : SearchClient) (allowed : Meilisearch → Prop) :
    Except SearchError α → Meilisearch → Prop :=
  Ends
    (fun _ m => allowed m ∧ (∃ m', allowed m' ∧ Available host search m') ∧
      ∃ m', allowed m' ∧ Current host search m')
    (fun _ m => allowed m ∧
      ∃ m', allowed m' ∧ ¬ (Available host search m' ∧ Current host search m'))

variable {search : SearchClient}

theorem stable_searchEnds {α : Type} (r : Except SearchError α) :
    (Terms.watching allowed).Stable (SearchEnds host search allowed r) := by
  refine Terms.Stable.ends (fun _ => ?_) (fun _ => ?_) r
  · exact (Terms.stable_watching allowed).and (Terms.stable_const _)
  · exact (Terms.stable_watching allowed).and (Terms.stable_const _)

theorem SearchEnds.permitted {α : Type} {r : Except SearchError α} {m : Meilisearch}
    (h : SearchEnds host search allowed r m) : allowed m := by
  cases r with
  | ok a => exact h.1
  | error e => exact h.1

theorem under_diagnoseSearch {m : Meilisearch} (h : allowed m) :
    Under (Terms.watching allowed) (App.Stepwise.diagnoseSearch host.external search)
      (fun _ m => allowed m ∧ (∃ m', allowed m' ∧ Available host search m') ∧
        ∃ m', allowed m' ∧ Current host search m')
      (fun _ m => allowed m ∧
        ∃ m', allowed m' ∧ ¬ (Available host search m' ∧ Current host search m')) m := by
  rw [App.Stepwise.diagnoseSearch]
  apply under_bind
  apply under_ask fun _ => rfl
  · intro status m' hstatus hrely
    split
    · rename_i hother
      refine under_throw ⟨hrely h, m, h, fun hpasses => hother ?_⟩
      exact Except.ok.inj (hstatus.symm.trans hpasses.1)
    · rename_i hsame
      rw [not_not.mp hsame] at hstatus
      apply under_bind
      apply under_ask fun _ => rfl
      · intro version m'' hversion hrely'
        split
        · rename_i hother
          refine under_throw ⟨hrely' (hrely h), m', hrely h, fun hpasses => hother ?_⟩
          exact Except.ok.inj (hversion.symm.trans hpasses.2)
        · rename_i hsame
          rw [not_not.mp hsame] at hversion
          exact under_pure ⟨hrely' (hrely h), ⟨m, h, hstatus⟩, m', hrely h, hversion⟩
      · intro e m'' he hrely'
        refine ⟨hrely' (hrely h), m', hrely h, fun hpasses => ?_⟩
        rw [hpasses.2] at he
        cases he
  · intro e m' he hrely
    refine ⟨hrely h, m, h, fun hpasses => ?_⟩
    rw [hpasses.1] at he
    cases he

end Search

end WikiNext.Server
