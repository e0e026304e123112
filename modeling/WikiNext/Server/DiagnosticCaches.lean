import WikiNext.Server.HealthEndpoints

/-!
# The report caches over whole runs

What the mutex around each cached report buys, however the handlers follow each
other, however long a probe takes, and whoever is dropped.

§1 single steps, §2 whole runs, §3 the guarantees, §4 a handler that is alone.
-/

namespace WikiNext.Server

open WikiNext.Foundation WikiNext.App WikiNext.Store WikiNext.Search

variable {operation : Operation} {run : List Event} {event : Event} {caller : Caller}
  {report : DiagnosticReport} {now time : Instant} {guarded : Guarded}

/-! ## §1  Single steps -/

/-- Only a completed probe changes a cache. -/
theorem next_cache_eq {action : Action operation} (h : ∀ outcome, action ≠ .finish outcome) :
    (guarded.next caller time action).cache = guarded.cache := by
  cases action with
  | finish outcome => exact absurd rfl (h outcome)
  | check =>
      simp only [Guarded.next]
      split <;> rfl
  | respond =>
      simp only [Guarded.next]
      split <;> rfl
  | call => rfl
  | lock => rfl
  | drop => rfl

/-- A probe starts where the cache has no fresh report. -/
theorem stale_of_starts {actor : Caller} {action : Action operation}
    (hbefore : guarded.phase caller ≠ .probing)
    (hafter : (guarded.next actor time action).phase caller = .probing) :
    guarded.cache.filter (·.fresh time) = none := by
  by_cases hactor : caller = actor
  · subst hactor
    cases action with
    | check =>
        simp only [Guarded.next] at hafter
        split at hafter
        · simp [Guarded.move] at hafter
        · assumption
    | respond =>
        simp only [Guarded.next] at hafter
        split at hafter
        · simp [Guarded.move] at hafter
        · exact absurd hafter hbefore
    | call => simp [Guarded.next, Guarded.move] at hafter
    | lock => simp [Guarded.next, Guarded.move] at hafter
    | finish outcome => simp [Guarded.next, Guarded.move] at hafter
    | drop => simp [Guarded.next, Guarded.move] at hafter
  · -- another handler's action
    have hsame : (guarded.next actor time action).phase caller = guarded.phase caller := by
      cases action with
      | check =>
          simp only [Guarded.next]
          split <;> simp [Guarded.move, hactor]
      | respond =>
          simp only [Guarded.next]
          split <;> simp [Guarded.move, hactor]
      | call => simp [Guarded.next, Guarded.move, hactor]
      | lock => simp [Guarded.next, Guarded.move, hactor]
      | finish outcome => simp [Guarded.next, Guarded.move, hactor]
      | drop => simp [Guarded.next, Guarded.move, hactor]
    exact absurd (hsame ▸ hafter) hbefore

/-- Without a fresh report, every probe so far was over a lifetime ago. -/
theorem Sound.all_old (h : Sound operation run now guarded)
    (hstale : guarded.cache.filter (·.fresh time) = none) {probe : Completion}
    (hprobe : probe ∈ completions operation run) :
    probe.time + DIAGNOSTIC_CACHE_TTL ≤ time := by
  obtain ⟨cached, hcached, hle⟩ := h.latest probe hprobe
  have hnotFresh : ¬ cached.fresh time = true :=
    fun hfresh => Option.filter_eq_none_iff.mp hstale cached hcached hfresh
  rw [fresh_iff, not_lt] at hnotFresh
  exact (Nat.add_le_add_right hle _).trans hnotFresh

/-! ## §2  Whole runs -/

/-- The cached report of `operation` is never older in `s'` than in `s`. -/
def NotOlder (operation : Operation) (s s' : Health) : Prop :=
  ∀ cached ∈ (s.guarded operation).cache,
    ∃ cached' ∈ (s'.guarded operation).cache, cached.checked_at ≤ cached'.checked_at

theorem notOlder_step (hrun : health.Run run) (henabled : health.enabled (health.state run) event) :
    NotOlder operation (health.state run) (health.next (health.state run) event) := by
  intro cached hcached
  have hsound := sound_run operation hrun
  by_cases hop : event.operation = operation
  · obtain ⟨_, caller, time, action⟩ := event
    subst hop
    rw [guarded_next_own]
    by_cases hfinish : ∃ outcome, action = .finish outcome
    · obtain ⟨outcome, rfl⟩ := hfinish
      obtain ⟨probe, hprobe, htime, -⟩ := hsound.recorded cached hcached
      exact ⟨_, rfl, htime ▸ (hsound.clock probe hprobe).trans henabled.1⟩
    · rw [next_cache_eq (fun outcome h => hfinish ⟨outcome, h⟩)]
      exact ⟨cached, hcached, le_refl _⟩
  · rw [guarded_next_foreign _ hop]
    exact ⟨cached, hcached, le_refl _⟩

theorem notOlder_run {before after : List Event} (hrun : health.Run (before ++ after)) :
    NotOlder operation (health.state before) (health.state (before ++ after)) := by
  refine System.Run.related (R := NotOlder operation) ?_ ?_ ?_ hrun
  · intro s cached hcached
    exact ⟨cached, hcached, le_refl _⟩
  · intro s t u hst htu cached hcached
    obtain ⟨cached', hcached', hle⟩ := hst cached hcached
    obtain ⟨cached'', hcached'', hle'⟩ := htu cached' hcached'
    exact ⟨cached'', hcached'', hle.trans hle'⟩
  · intro run event hsofar henabled
    exact notOlder_step hsofar henabled

/-- Every report a probe makes is healthy exactly if all its checks are. -/
theorem healthy_report_iff (outcome : operation.Outcome) :
    (operation.report outcome).healthy = true ↔
      ∀ check ∈ (operation.report outcome).checks, check.isOk = true := by
  cases operation with
  | readiness => exact DiagnosticReport.healthy_new _
  | searchStatus => exact DiagnosticReport.healthy_new _

theorem completion_report {probe : Completion} (h : probe ∈ completions operation run) :
    ∃ outcome, probe.report = operation.report outcome := by
  obtain ⟨event, -, hevent⟩ := List.mem_filterMap.mp h
  by_cases hop : event.operation = operation
  swap
  · simp [Event.completion?, hop] at hevent
  obtain ⟨_, caller, time, action⟩ := event
  subst hop
  cases action with
  | finish outcome =>
      simp only [Event.completion?, if_true, Option.some.injEq] at hevent
      exact ⟨outcome, by rw [← hevent]⟩
  | _ => simp [Event.completion?] at hevent

theorem Justified.healthy_iff (h : Justified operation run caller report) :
    report.healthy = true ↔ ∀ check ∈ report.checks, check.isOk = true := by
  have hprobe : ∃ probe ∈ completions operation run, probe.report = report := by
    rcases h with ⟨probe, hprobe, -, hreport⟩ | ⟨-, -, probe, hprobe, -, hreport, -⟩
    · exact ⟨probe, hprobe, hreport⟩
    · exact ⟨probe, hprobe, hreport⟩
  obtain ⟨probe, hmem, rfl⟩ := hprobe
  obtain ⟨outcome, hreport⟩ := completion_report hmem
  rw [hreport]
  exact healthy_report_iff outcome

theorem status_reportResponse (report : DiagnosticReport) :
    (reportResponse report).1 = OK ↔ report.healthy = true := by
  cases h : report.healthy <;> simp [reportResponse, h, OK, SERVICE_UNAVAILABLE]

/-- The steps of a dropped handler changed nothing but its phase and the mutex. -/
theorem dropped_cache_eq {before after : List Event}
    (hrun : health.Run (before ++ event :: after))
    (hdropped : ((health.state (before ++ event :: after)).guarded operation).phase caller =
      .dropped) (hop : event.operation = operation) (hcaller : event.caller = caller) :
    ((health.state (before ++ [event])).guarded operation).cache =
      ((health.state before).guarded operation).cache := by
  have hsound := sound_run operation hrun
  obtain ⟨_, actor, time, action⟩ := event
  subst hop hcaller
  rw [System.state_snoc, guarded_next_own]
  apply next_cache_eq
  rintro outcome rfl
  have hsettled := hsound.settled _ (mem_completions_of_finish (List.mem_append_right before
    List.mem_cons_self))
  simp [hdropped, Phase.settled] at hsettled

/-! ## §3  The guarantees -/

/-- **The caches are sound.** In every run of the endpoints and for each of the
two operations:
at most one probe is in flight;
the cached report stays and never gets older;
a probe starts only when every completed one was over at least a lifetime ago;
a returned report is justified and its status is 200 exactly if every check is ok;
no step of a dropped handler touched the cache, and it does not hold the mutex;
an event of one operation leaves the other's mutex, cache and handlers alone. -/
theorem diagnostic_caches_sound (run : List Event) (hrun : health.Run run)
    (operation : Operation) :
    (∀ a b, ((health.state run).guarded operation).phase a = .probing →
      ((health.state run).guarded operation).phase b = .probing → a = b) ∧
    (∀ before after, run = before ++ after →
      ∀ cached, ((health.state before).guarded operation).cache = some cached →
        ∃ cached', ((health.state run).guarded operation).cache = some cached' ∧
          cached.checked_at ≤ cached'.checked_at) ∧
    (∀ before event after, run = before ++ event :: after →
      ∀ caller, ((health.state before).guarded operation).phase caller ≠ .probing →
        ((health.state (before ++ [event])).guarded operation).phase caller = .probing →
          ∀ probe ∈ completions operation before,
            probe.time + DIAGNOSTIC_CACHE_TTL ≤ event.time) ∧
    (∀ caller response, ((health.state run).guarded operation).phase caller = .answered response →
      Justified operation run caller response.2 ∧
        (response.1 = 200 ↔ ∀ check ∈ response.2.checks, check.isOk = true)) ∧
    (∀ caller, ((health.state run).guarded operation).phase caller = .dropped →
      ((health.state run).guarded operation).holder ≠ some caller ∧
        ∀ before event after, run = before ++ event :: after → event.operation = operation →
          event.caller = caller →
            ((health.state (before ++ [event])).guarded operation).cache =
              ((health.state before).guarded operation).cache) ∧
    (∀ before event after, run = before ++ event :: after → event.operation ≠ operation →
      (health.state (before ++ [event])).guarded operation =
        (health.state before).guarded operation) := by
  have hsound := sound_run operation hrun
  refine ⟨?_, ?_, ?_, ?_, ?_, ?_⟩
  · -- whoever probes holds the mutex
    intro a b ha hb
    have hholder := (hsound.mutex a).mp (by simp [ha, Phase.holds])
    have hholder' := (hsound.mutex b).mp (by simp [hb, Phase.holds])
    exact Option.some.inj (hholder.symm.trans hholder')
  · rintro before after rfl cached hcached
    obtain ⟨cached', hcached', hle⟩ := notOlder_run hrun cached hcached
    exact ⟨cached', hcached', hle⟩
  · rintro before event after rfl caller hbefore hafter probe hprobe
    obtain ⟨hsofar, -⟩ := hrun.at_event
    rw [System.state_snoc] at hafter
    by_cases hop : event.operation = operation
    · obtain ⟨_, actor, time, action⟩ := event
      subst hop
      rw [guarded_next_own] at hafter
      exact (sound_run _ hsofar).all_old (stale_of_starts hbefore hafter) hprobe
    · rw [guarded_next_foreign _ hop] at hafter
      exact absurd hafter hbefore
  · intro caller response hphase
    obtain ⟨report, hreport, rfl⟩ := hsound.answered caller response hphase
    exact ⟨hreport, (status_reportResponse report).trans hreport.healthy_iff⟩
  · intro caller hdropped
    constructor
    · intro hholder
      have hholds := (hsound.mutex caller).mpr hholder
      simp [hdropped, Phase.holds] at hholds
    · rintro before event after rfl hop hcaller
      exact dropped_cache_eq hrun hdropped hop hcaller
  · rintro before event after rfl hop
    rw [System.state_snoc]
    exact guarded_next_foreign _ hop

/-- The first handler probes for a second, the second gives up waiting, the
third gets the cached report. -/
def threeHandlers : List Event := [
  ⟨.readiness, 0, 0, .call⟩,
  ⟨.readiness, 0, 0, .lock⟩,
  ⟨.readiness, 0, 0, .check⟩,
  ⟨.readiness, 1, 10 ^ 8, .call⟩,
  ⟨.readiness, 1, 9 * 10 ^ 8, .drop⟩,
  ⟨.readiness, 0, 10 ^ 9, .finish (.ok ⟨"18.4", 1⟩, .ok ⟨⟨"/srv/wiki".toList⟩⟩)⟩,
  ⟨.readiness, 2, 10 ^ 9, .call⟩,
  ⟨.readiness, 0, 10 ^ 9, .respond⟩,
  ⟨.readiness, 2, 2 * 10 ^ 9, .lock⟩,
  ⟨.readiness, 2, 2 * 10 ^ 9, .check⟩,
  ⟨.readiness, 2, 2 * 10 ^ 9, .respond⟩]

theorem diagnostic_caches_sound_threeHandlers :
    Justified .readiness threeHandlers 2
        (readinessReport (.ok ⟨"18.4", 1⟩) (.ok ⟨⟨"/srv/wiki".toList⟩⟩)) ∧
      ((health.state threeHandlers).guarded .readiness).holder ≠ some 1 := by
  have hrun : health.Run threeHandlers := by decide +kernel
  obtain ⟨-, -, -, hanswered, hdropped, -⟩ := diagnostic_caches_sound threeHandlers hrun .readiness
  have hthird : ((health.state threeHandlers).guarded .readiness).phase 2 = .answered
      (200, readinessReport (.ok ⟨"18.4", 1⟩) (.ok ⟨⟨"/srv/wiki".toList⟩⟩)) := by
    decide +kernel
  have hsecond : ((health.state threeHandlers).guarded .readiness).phase 1 = .dropped := by
    decide +kernel
  exact ⟨(hanswered 2 _ hthird).1, (hdropped 1 hsecond).1⟩

/-! ## §4  A handler that is alone -/

/-- What a handler does that nobody disturbs: its check is made at `now`, its
probe, if it needs one, is over at `finished`. -/
def alone (operation : Operation) (cache : Option CachedReport) (caller : Caller)
    (now finished : Instant) (outcome : operation.Outcome) : List Event :=
  match cache.filter (·.fresh now) with
  | some _ => [⟨operation, caller, now, .call⟩, ⟨operation, caller, now, .lock⟩,
      ⟨operation, caller, now, .check⟩, ⟨operation, caller, now, .respond⟩]
  | none => [⟨operation, caller, now, .call⟩, ⟨operation, caller, now, .lock⟩,
      ⟨operation, caller, now, .check⟩, ⟨operation, caller, finished, .finish outcome⟩,
      ⟨operation, caller, finished, .respond⟩]

/-- The report it gets and the cache it leaves. -/
def answer (operation : Operation) (cache : Option CachedReport) (now finished : Instant)
    (outcome : operation.Outcome) : DiagnosticReport × Option CachedReport :=
  match cache.filter (·.fresh now) with
  | some cached => (cached.report, cache)
  | none => (operation.report outcome,
      some { checked_at := finished, report := operation.report outcome })

/-- It runs to its end, with that report and that cache. -/
theorem alone_answer {s : Health} {finished : Instant} (outcome : operation.Outcome)
    (hfree : (s.guarded operation).holder = none)
    (habsent : (s.guarded operation).phase caller = .absent) (hnow : s.now ≤ now)
    (hfinished : now ≤ finished) :
    let events := alone operation (s.guarded operation).cache caller now finished outcome
    let answered := answer operation (s.guarded operation).cache now finished outcome
    health.Path s events ∧
      ((events.foldl health.next s).guarded operation).phase caller =
        .answered (reportResponse answered.1) ∧
      ((events.foldl health.next s).guarded operation).cache = answered.2 := by
  intro events answered
  cases hcache : (s.guarded operation).cache.filter (·.fresh now) with
  | some cached =>
      simp [events, answered, alone, answer, hcache, System.Path, health, Guarded.enabled,
        Guarded.next, Guarded.move, hfree, habsent, hnow, Phase.report?]
  | none =>
      simp [events, answered, alone, answer, hcache, System.Path, health, Guarded.enabled,
        Guarded.next, Guarded.move, hfree, habsent, hnow, hfinished, Phase.report?]

/-- **Refinement.** Alone, a handler computes what `AppServices::readiness` computes. -/
theorem answer_readiness (external : External) (machine : Machine Core.Uuid)
    (now finished : Instant) (running : Running) :
    let served := AppServices.readiness external machine now finished running
    answer .readiness running.services.readiness_cache now finished
        (running.services.database.diagnose external.postgres,
          (outcome (running.services.storage.diagnose machine) running.world).1) =
      (served.1, served.2.services.readiness_cache) := by
  intro served
  simp only [served, AppServices.readiness, answer]
  cases running.services.readiness_cache.filter (·.fresh now) with
  | some cached => rfl
  | none => rfl

/-- Alone, a handler computes what `AppServices::search_status` computes. -/
theorem answer_searchStatus (external : External) (now finished : Instant) (running : Running) :
    let served := AppServices.searchStatus external now finished running
    answer .searchStatus running.services.search_cache now finished
        (running.services.search.diagnose external.backend) =
      (served.1, served.2.services.search_cache) := by
  intro served
  simp only [served, AppServices.searchStatus, answer]
  cases running.services.search_cache.filter (·.fresh now) with
  | some cached => rfl
  | none => rfl

end WikiNext.Server
