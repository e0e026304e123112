import WikiNext.Server.DeploymentCommands
import WikiNext.Server.ReportTexts

/-!
# One deployment, call by call

Doctors and servers of a deployment next to each other, while the database and the
search server change in any way. Nobody waits for anybody else. A process that
nobody disturbs is a command.

§1 all processes, §2 alone, §3 a doctor next to a server.
-/

namespace WikiNext.Server

open WikiNext.Foundation WikiNext.Core WikiNext.App WikiNext.Store WikiNext.Search

variable {ι δ : Type} {host : Host δ} {config : Config} {search : SearchClient} {d : δ}
  {fs : FileSystem} {machine : ι → Machine Uuid} {network : ι → Network}
  {commands : ι → Stepwise.Command} {umask : ι → Mode} {names : List Name}

/-! ## §1  All processes -/

section Results

variable [DecidableEq ι]

/-- A process can always be carried to its end, by its own calls alone. -/
theorem processes_finishes (s : Shared ι δ) (i : ι) :
    ∃ n, (processes host config d fs machine network commands).Path s
        (List.replicate n (.inl i)) ∧
      let t := (List.replicate n (.inl i)).foldl
        (processes host config d fs machine network commands).next s
      t.left i = .done ((s.left i).run (s.seen (Joint.beside worldView) i)).1 ∧
        t.seen (Joint.beside worldView) i =
          ((s.left i).run (s.seen (Joint.beside worldView) i)).2 :=
  Joint.within_finishes _ _ _ _ s i

/-- What every process knows at first. -/
theorem knows_start (h : SideBySide host config search machine umask names fs) (i : ι) :
    Knows (fun _ => True) (fun _ => True) machine names fs i []
      ((processes host config d fs machine network commands).start.seen
        (Joint.beside worldView) i) where
  possible := trivial
  allowed := trivial
  working := by
    refine ⟨⟨h.ready, fun _ _ hnode => hnode, fun _ hnone hthere => absurd hnone hthere⟩,
      ?_, ?_, ?_⟩
    · exact fun p hp => absurd hp List.not_mem_nil
    · exact fun uuid huuid => absurd huuid.symm (Option.some_ne_none _)
    · exact fun hclean n _ => hclean.unused n

theorem safe_start (h : SideBySide host config search machine umask names fs) :
    (processes host config d fs machine network commands).start.Safe (Joint.beside worldView)
      (processTerms (fun _ => True) (fun _ => True) machine names fs)
      fun i => CommandEnds host config search (fun _ => True) (fun _ => True) machine network
        names fs i (commands i) :=
  fun i t ht => under_command h (commands i) (stable_knows _ t ht (knows_start h i))

/-- The tree after any run. -/
theorem standing_processes (h : SideBySide host config search machine umask names fs)
    {run : List (SharedEvent ι δ)}
    (hrun : (processes host config d fs machine network commands).Run run) :
    Store.Standing machine names fs
      ((processes host config d fs machine network commands).state run).shared.2 := by
  have hagreement : Agreement (Joint.beside worldView)
      (processTerms (fun _ : δ => True) (fun _ => True) machine names fs) :=
    process_agreement h.distinct
  refine hagreement.within_kept (I := fun c => Store.Standing machine names fs c.2)
    surroundings_relied ?_ ?_ (safe_start h) ?_ hrun
  · exact fun i s s' hguarantee => hguarantee.2.standing
  · intro c event _ hstanding
    cases event with
    | inl d => exact hstanding
    | inr replies => exact hstanding
  · exact ⟨h.ready, fun _ _ hnode => hnode, fun _ hnone hthere => absurd hnone hthere⟩

/-- The database and the search server after an event. -/
def changed (servers : δ × Meilisearch) : SharedEvent ι δ → δ × Meilisearch
  | .inl _ => servers
  | .inr (.inl d) => (d, servers.2)
  | .inr (.inr replies) => (servers.1, replies)

/-- No process changes the database or the search server. -/
theorem servers_processes (h : SideBySide host config search machine umask names fs)
    {run : List (SharedEvent ι δ)}
    (hrun : (processes host config d fs machine network commands).Run run) :
    ((processes host config d fs machine network commands).state run).shared.1 =
      run.foldl changed (d, host.external.meilisearch) := by
  have hagreement : Agreement (Joint.beside worldView)
      (processTerms (fun _ : δ => True) (fun _ => True) machine names fs) :=
    process_agreement h.distinct
  refine hrun.invariant (I := fun run s => s.shared.1 =
    run.foldl changed (d, host.external.meilisearch)) rfl ?_
  intro run event hrun ih henabled
  rw [List.foldl_append, ← ih]
  match event with
  | .inr (.inl d') => rfl
  | .inr (.inr replies) => rfl
  | .inl i =>
      obtain ⟨update, next, hleft⟩ := Joint.exists_step_within henabled
      have hsafe := hagreement.within_safe surroundings_relied (safe_start h) hrun
      refine hagreement.move_kept (I := fun c =>
        c.1 = ((processes host config d fs machine network commands).state run).shared.1)
        hsafe hleft ?_ rfl
      exact fun _ _ _ hguarantee hsame => (Prod.ext hguarantee.1.1 hguarantee.1.2).trans hsame

variable (host config d fs machine network commands) in
/-- The database between `before` and the end of `after`. -/
abbrev DatabaseDuring (before after : List (SharedEvent ι δ)) : δ → Prop :=
  (processes host config d fs machine network commands).During (·.shared.1.1) before after

variable (host config d fs machine network commands) in
/-- The search server between `before` and the end of `after`. -/
abbrev SearchDuring (before after : List (SharedEvent ι δ)) : Meilisearch → Prop :=
  (processes host config d fs machine network commands).During (·.shared.1.2) before after

variable {before after : List (SharedEvent ι δ)}

/-- What happens in `after` leads to what is met in `after`. -/
theorem path_during (h : (processes host config d fs machine network commands).Run
    (before ++ after)) :
    (processesAmong host config
      (DatabaseDuring host config d fs machine network commands before after)
      (SearchDuring host config d fs machine network commands before after)
      d fs machine network commands).Path
      ((processes host config d fs machine network commands).state before) after := by
  obtain ⟨-, hpath⟩ := System.run_append_iff.mp h
  have hnext : (processesAmong host config
      (DatabaseDuring host config d fs machine network commands before after)
      (SearchDuring host config d fs machine network commands before after)
      d fs machine network commands).next =
      (processes host config d fs machine network commands).next := rfl
  refine System.Path.imp hnext ?_ hpath
  rintro earlier event later s hsplit henabled
  have hprefix : earlier ++ [event] <+: after := by
    rw [hsplit]
    exact ⟨later, List.append_assoc ..⟩
  have hstate := (processes host config d fs machine network commands).state_snoc
    (before ++ earlier) event
  rw [List.append_assoc] at hstate
  match event with
  | .inl i => exact henabled
  | .inr (.inl d') => exact ⟨_, hprefix, by rw [hstate]; rfl⟩
  | .inr (.inr replies) => exact ⟨_, hprefix, by rw [hstate]; rfl⟩

/-- From a moment on at which process `i` has made no call yet, it meets what is met
after this moment. -/
theorem safe_later (h : SideBySide host config search machine umask names fs)
    (hbefore : (processes host config d fs machine network commands).Run before) {i : ι}
    (hi : .inl i ∉ before) (after : List (SharedEvent ι δ)) :
    let possible := DatabaseDuring host config d fs machine network commands before after
    let allowed := SearchDuring host config d fs machine network commands before after
    ((processes host config d fs machine network commands).state before).Safe
      (Joint.beside worldView) (processTerms possible allowed machine names fs)
      fun j result t => j = i → CommandEnds host config search possible allowed machine network
        names fs j (commands j) result t := by
  intro possible allowed j t ht
  have hagreement : Agreement (Joint.beside worldView)
      (processTerms (fun _ : δ => True) (fun _ => True) machine names fs) :=
    process_agreement h.distinct
  have hwider : ∀ {s t}, (processTerms possible allowed machine names fs j).rely s t →
      (processTerms (fun _ => True) (fun _ => True) machine names fs j).rely s t :=
    fun hrely => ⟨⟨fun _ => trivial, fun _ => trivial⟩, hrely.2⟩
  by_cases hji : j = i
  · subst hji
    have hfresh : ((processes host config d fs machine network commands).state before).left j = _ :=
      (Joint.unmoved hi).1
    have hstarted := stable_knows _ _ (hagreement.within_relied surroundings_relied (safe_start h)
      hbefore hi) (knows_start h j)
    have hknows : Knows possible allowed machine names fs j [] _ :=
      ⟨System.During.start, System.During.start, hstarted.working⟩
    rw [hfresh]
    exact (under_command h (commands j) (stable_knows _ t ht hknows)).mono fun _ _ hends _ => hends
  · -- of the others only their promises matter
    have hsafe := hagreement.within_safe surroundings_relied (safe_start h) hbefore j t (hwider ht)
    refine (hsafe.conseq (I := fun _ => True) trivial (fun _ _ _ hrely => ⟨hwider hrely, trivial⟩)
      fun _ _ _ hguarantee => ⟨hguarantee, trivial⟩).mono ?_
    exact fun _ _ _ hsame => absurd hsame hji

/-- Where a process ends that made its first call after `before`. -/
theorem command_ended (h : SideBySide host config search machine umask names fs)
    (hrun : (processes host config d fs machine network commands).Run (before ++ after)) {i : ι}
    (hi : .inl i ∉ before) {result : Except CliError (List DiagnosticReport)}
    (hdone : ((processes host config d fs machine network commands).state
      (before ++ after)).left i = .done result) :
    CommandEnds host config search
      (DatabaseDuring host config d fs machine network commands before after)
      (SearchDuring host config d fs machine network commands before after)
      machine network names fs i (commands i) result
      (((processes host config d fs machine network commands).state (before ++ after)).seen
        (Joint.beside worldView) i) := by
  obtain ⟨hbefore, -⟩ := System.run_append_iff.mp hrun
  have hagreement : Agreement (Joint.beside worldView)
      (processTerms (DatabaseDuring host config d fs machine network commands before after)
        (SearchDuring host config d fs machine network commands before after) machine names fs) :=
    process_agreement h.distinct
  have hsafe := hagreement.within_safe surroundings_relied (safe_later h hbefore hi after)
    (path_during hrun)
  rw [System.state_append] at hdone ⊢
  exact hagreement.ended hsafe hdone rfl

variable (host config d fs machine network commands)

/-- **The commands need not wait for each other.** Doctors and servers make their calls in
any order, while the database and the search server become anything, with any call
turned down and any process stopped for good anywhere. No process changes these servers.
Nothing that was in the tree changes, and what is new there is a storage directory or an
empty probe. Every process
can be carried to its end. Of a process that makes its first call after `before`, what it
ends with is about what was so during `after`: each check of its reports, and its error. -/
theorem commands_interleave (h : SideBySide host config search machine umask names fs)
    (before after : List (SharedEvent ι δ))
    (hrun : (processes host config d fs machine network commands).Run (before ++ after)) :
    let t := (processes host config d fs machine network commands).state (before ++ after)
    let possible := DatabaseDuring host config d fs machine network commands before after
    let allowed := SearchDuring host config d fs machine network commands before after
    t.shared.1 = (before ++ after).foldl changed (d, host.external.meilisearch) ∧
    (∀ p node, fs.node p = some node → t.shared.2.node p = some node) ∧
    (∀ p, fs.node p = none → t.shared.2.node p ≠ none →
      t.shared.2.IsDir p ∧ BootstrapNames names p ∨
        ∃ i n mode, p = probeNames names ((machine i).random n) ∧
          t.shared.2.node p = some (.file mode [])) ∧
    ∀ i,
      (∃ n result, (processes host config d fs machine network commands).Run
          (before ++ after ++ List.replicate n (.inl i)) ∧
        ((processes host config d fs machine network commands).state
          (before ++ after ++ List.replicate n (.inl i))).left i = .done result) ∧
      (.inl i ∉ before → ∀ result, t.left i = .done result →
        (∀ error, result = .error error → isServe (commands i) = true ∧
          Explained host config (network i) possible (Clean (machine i) names fs) error) ∧
        (∀ reports, result = .ok reports →
          List.Forall₂ (Told host (databaseOptions config.database) search possible allowed
            (Clean (machine i) names fs)) (commandComponents (commands i)) reports ∧
          (isServe (commands i) = true → ∃ address, openSocket (network i) config.server.bind =
            .ok address) ∧
          (isServe (commands i) = true ∨ Clean (machine i) names fs →
            PrivateTree t.shared.2 names))) := by
  intro t possible allowed
  -- the tree: what every process guarantees to the others
  have hstanding := standing_processes h hrun
  refine ⟨servers_processes h hrun, hstanding.kept, hstanding.added,
    fun i => ⟨?_, fun hi result hdone => ?_⟩⟩
  · obtain ⟨n, hpath, hend, -⟩ := @processes_finishes ι δ host config d fs machine network
      commands _ t i
    refine ⟨n, ((t.left i).run (t.seen (Joint.beside worldView) i)).1,
      System.run_append_iff.mpr ⟨hrun, hpath⟩, ?_⟩
    rw [System.state_append]
    exact hend
  · have hends := command_ended h hrun hi hdone
    refine ⟨?_, ?_⟩
    · rintro error rfl
      exact hends
    · rintro reports rfl
      obtain ⟨htold, hsocket, hworking⟩ := hends
      exact ⟨htold, hsocket, fun hor => (hworking hor).privateTree⟩

end Results

/-! ## §2  Alone -/

section Alone

/-- The host of a process of its own, while the search server is this one and nothing
happens to a server that runs. -/
def Host.quiet (host : Host δ) (machine : Machine Uuid) (network : Network)
    (replies : Meilisearch) : Host δ :=
  { host with
    external := { host.external with meilisearch := replies }
    machine := machine
    network := network
    life := []
    ending := .finished (.ok ()) }

/-- How a `serve` ends that came to this. -/
def StartEnded (debug : String → String) (ended : Ended δ) :
    Except CliError (List DiagnosticReport) → Prop
  | .ok reports => reports = [] ∧ ended.code = .success ∧ ended.stderr = [] ∧
      ended.process.serving ≠ none
  | .error error => ended.code = .failure ∧ ended.stderr = ["Ошибка: " ++ error.message debug] ∧
      ended.process.serving = none

variable {path : String} {passes : LogEvent → Bool} {machine : Machine Uuid} {network : Network}
  {replies : Meilisearch} {world : World} {order order' : List Bool}

theorem Configured.quiet (h : Configured host path config passes) :
    Configured (host.quiet machine network replies) path config passes :=
  ⟨h.load, h.filter⟩

@[simp] theorem Process.log_world (process : Process δ) (event : LogEvent) :
    (process.log event).world = process.world := by
  rw [Process.log]
  cases process.subscriber <;> rfl

@[simp] theorem Process.log_serving (process : Process δ) (event : LogEvent) :
    (process.log event).serving = process.serving := by
  rw [Process.log]
  cases process.subscriber <;> rfl

/-- The tree that `doctor` leaves, whatever becomes of its output. -/
theorem world_doctor (h : Configured host path config passes) (json : Bool) :
    (main host ⟨path, .doctor json⟩ d world).process.world =
      (runDoctor (host.now d) host.machine config world).2 := by
  cases hreport : runDoctor (host.now d) host.machine config world with
  | mk report world' =>
      cases hlines : doctorOutput host json report with
      | ok lines => exact (main_doctor h hreport hlines).2.2.2
      | error detail =>
          have hrun := @run_doctor δ host path config d world passes h json
          simp only [hreport, hlines] at hrun
          rw [main_of_error hrun, Process.log_world]
          rfl

/-- A doctor whose calls nobody comes between is a `doctor`, in any order of its calls. -/
theorem doctor_alone (h : Configured host path config passes) :
    ∃ report, ∀ json,
      let ended := main (host.quiet machine network replies) ⟨path, .doctor json⟩ d world
      outcome (Stepwise.command host machine network config (.doctor order order')).alone
          ((d, replies), world) = (.ok [report], (d, replies), ended.process.world) ∧
        ∀ lines, doctorOutput host json report = .ok lines →
          ended.process.written = lines.map .line ++
              verdictLog host (subscriberOf config passes) report ∧
            (ended.code = .success ↔ report.healthy = true) := by
  have hdoctor : outcome (App.Stepwise.runDoctor host.sqlx.server host.external machine
      order order' config : Steps CliError _ _).alone ((d, replies), world) = _ :=
    App.Stepwise.alone_runDoctor ..
  have hnow : App.Stepwise.now host.sqlx.server host.external d replies =
      (host.quiet machine network replies).now d := rfl
  rw [hnow] at hdoctor
  have hquiet : Configured (host.quiet machine network replies) path config passes := h.quiet
  cases hreport : runDoctor ((host.quiet machine network replies).now d) machine config world with
  | mk report world' =>
      rw [hreport] at hdoctor
      refine ⟨report, fun json => ⟨?_, fun lines hlines => ?_⟩⟩
      · rw [world_doctor hquiet]
        show _ = (_, _, (runDoctor ((host.quiet machine network replies).now d) machine config
          world).2)
        rw [hreport, Stepwise.command, Steps.alone_bind, outcome_bind, hdoctor]
        rfl
      · obtain ⟨hwritten, hcode, -⟩ := main_doctor hquiet hreport hlines
        exact ⟨hwritten, hcode⟩

theorem serve_quiet (serving : Serving) (process : Process δ) :
    serve (host.quiet machine network replies) serving process =
      match openSocket network serving.bind with
      | .error error => .error error process
      | .ok address =>
          .ok () { process.log (serverStarted (network.display address)) with
            serving := some serving } := by
  rw [serve]
  show (ofExcept (openSocket network serving.bind) >>= fun address =>
    _ : EStateM Shutdown.ServerError (Process δ) Unit) process = _
  cases openSocket network serving.bind with
  | error error => rfl
  | ok address => rfl

/-- A server whose calls nobody comes between starts as `serve` does. -/
theorem serve_alone (h : Configured host path config passes) :
    let ended := main (host.quiet machine network replies) ⟨path, .serve⟩ d world
    ∃ result, outcome (Stepwise.command host machine network config (.serve order [])).alone
          ((d, replies), world) = (result, (d, replies), ended.process.world) ∧
        StartEnded host.external.debug ended result := by
  intro ended
  have hquiet : Configured (host.quiet machine network replies) path config passes := h.quiet
  have hconnect : outcome (App.Stepwise.connect host.sqlx.server host.external machine
      order config).alone ((d, replies), world) = _ := App.Stepwise.alone_connect ..
  have hnow : App.Stepwise.now host.sqlx.server host.external d replies =
      (host.quiet machine network replies).now d := rfl
  rw [hnow] at hconnect
  rw [Stepwise.command, Steps.alone_bind, outcome_bind, Steps.alone_mapErr, outcome_mapErr,
    hconnect]
  cases hstart : AppServices.connect ((host.quiet machine network replies).now d) machine config
      world with
  | error error world' =>
      have hended : ended = _ := main_of_error (run_serve_of_error hquiet hstart)
      rw [hended, Process.log_world]
      refine ⟨.error (.startup error), ?_, rfl, rfl, ?_⟩
      · simp only [outcome, hstart]
        rfl
      · rw [Process.log_serving]
        rfl
  | ok services world' =>
      have hrun := run_serve_of_ok hquiet hstart
      have hserve := @serve_quiet δ host machine network replies (servingOf config services)
        (configuredProcess config passes d world')
      simp only [outcome_of_ok hstart]
      cases hsocket : openSocket network config.server.bind with
      | error error =>
          rw [servingOf, hsocket] at hserve
          have hended : ended = _ :=
            main_of_error (hrun.trans (mapErr_run_of_error hserve))
          rw [hended, Process.log_world]
          refine ⟨.error (.server error), rfl, rfl, rfl, ?_⟩
          rw [Process.log_serving]
          rfl
      | ok address =>
          rw [servingOf, hsocket] at hserve
          have hended : ended = _ := main_of_ok (hrun.trans (mapErr_run_of_ok hserve))
          rw [hended]
          refine ⟨.ok [], ?_, rfl, rfl, rfl, Option.some_ne_none _⟩
          rw [Process.log_world]
          rfl

end Alone

section Undisturbed

variable [DecidableEq ι] {path : String} {passes : LogEvent → Bool}
  (host config d fs machine network commands)

/-- **A command that nobody disturbs is one command.** At any moment of any run, a
process that has made no call yet and now makes its calls without an event of others in
between ends as `main` does on its machine and network, with the database, the search
server and the tree of that moment, in any order of its joined futures: a doctor with the
report that either format writes and with that exit code, a server with the error that
its start prints or with a socket, and both with that tree. -/
theorem commands_undisturbed (i : ι) (hconfigured : Configured host path config passes)
    (before : List (SharedEvent ι δ))
    (hrun : (processes host config d fs machine network commands).Run before)
    (hi : .inl i ∉ before) :
    let s := (processes host config d fs machine network commands).state before
    let ended := fun command => main (host.quiet (machine i) (network i) s.shared.1.2)
      ⟨path, command⟩ s.shared.1.1 ⟨s.shared.2, 0, 0⟩
    ∃ n, (processes host config d fs machine network commands).Run
        (before ++ List.replicate n (.inl i)) ∧
      let t := (processes host config d fs machine network commands).state
        (before ++ List.replicate n (.inl i))
      (∀ order order', commands i = .doctor order order' → ∃ report,
        t.left i = .done (.ok [report]) ∧ ∀ json,
          t.shared = (s.shared.1, (ended (.doctor json)).process.world.fs) ∧
          ∀ lines, doctorOutput host json report = .ok lines →
            (ended (.doctor json)).process.written = lines.map .line ++
                verdictLog host (subscriberOf config passes) report ∧
              ((ended (.doctor json)).code = .success ↔ report.healthy = true)) ∧
      ∀ order, commands i = .serve order [] → ∃ result,
        t.left i = .done result ∧
          t.shared = (s.shared.1, (ended .serve).process.world.fs) ∧
          StartEnded host.external.debug (ended .serve) result := by
  intro s ended
  obtain ⟨n, hpath, hend, hseen⟩ := @processes_finishes ι δ host config d fs machine network
    commands _ s i
  obtain ⟨hleft, hown⟩ : s.left i = (Stepwise.command host (machine i) (network i) config
      (commands i)).run ∧ s.own i = (0, 0) := Joint.unmoved hi
  have hnow : s.seen (Joint.beside worldView) i =
      ((s.shared.1.1, s.shared.1.2), ⟨s.shared.2, 0, 0⟩) := by
    show ((s.shared.1, ⟨s.shared.2, (s.own i).1, (s.own i).2⟩) : App.Stepwise.Outside _) = _
    rw [hown]
  rw [hleft, hnow, ← Steps.outcome_alone] at hend hseen
  refine ⟨n, System.run_append_iff.mpr ⟨hrun, hpath⟩, ?_⟩
  rw [System.state_append]
  generalize (List.replicate n (Sum.inl i)).foldl _ s = t at hend hseen
  -- what it sees at its end is all that is left
  have hshared : t.shared = ((t.seen (Joint.beside worldView) i).1,
    (t.seen (Joint.beside worldView) i).2.fs) := rfl
  refine ⟨?_, ?_⟩
  · intro order order' hcommand
    obtain ⟨report, hreport⟩ := @doctor_alone δ host config s.shared.1.1 path passes (machine i)
      (network i) s.shared.1.2 ⟨s.shared.2, 0, 0⟩ order order' hconfigured
    rw [hcommand] at hend hseen
    refine ⟨report, hend.trans (congrArg (fun ended => Script.done ended.1) (hreport true).1), ?_⟩
    intro json
    obtain ⟨hended, hlines⟩ := hreport json
    refine ⟨?_, hlines⟩
    rw [hshared, hseen]
    exact congrArg (fun ended => (ended.2.1, ended.2.2.fs)) hended
  · intro order hcommand
    obtain ⟨result, hended, hstarted⟩ := @serve_alone δ host config s.shared.1.1 path passes
      (machine i) (network i) s.shared.1.2 ⟨s.shared.2, 0, 0⟩ order hconfigured
    rw [hcommand] at hend hseen
    refine ⟨result, hend.trans (congrArg (fun ended => Script.done ended.1) hended), ?_, hstarted⟩
    rw [hshared, hseen]
    exact congrArg (fun ended => (ended.2.1, ended.2.2.fs)) hended

end Undisturbed

/-! ## §3  A doctor next to a server -/

theorem sideBySide_smallHost : ∃ search, SideBySide smallHost smallDeployed search serverOrDoctor
    (fun _ => 0o022) srvWikiNames (oneDirectory "srv".toList 0o755) ∧
      Available smallHost search smallHost.external.meilisearch ∧
        Current smallHost search smallHost.external.meilisearch := by
  have hclient : ∃ search, buildSearchClient smallHost.external smallDeployed = .ok search ∧
      search.getJson smallHost.external.backend "health" "status" = .ok "available" ∧
      search.getJson smallHost.external.backend "version" "pkgVersion" =
        .ok EXPECTED_MEILISEARCH_VERSION := by
    refine ⟨_, rfl, ?_, ?_⟩ <;> decide +kernel
  obtain ⟨search, hclient, hsearch⟩ := hclient
  refine ⟨search, ⟨hclient, by decide, fun _ _ _ => rfl, by decide, by decide,
    serverOrDoctor_distinct, ?_⟩, hsearch⟩
  exact ⟨unobstructed_oneDirectory 0o755, acceptable_oneDirectory 0o755,
    noInheritedSetgid_oneDirectory⟩

/-- The server is asked for both of its reports. -/
def serverOrDoctorCommands : Bool → Stepwise.Command
  | false => .serve [true, false] [.readiness [false, true], .search]
  | true => .doctor [false, true] [true, false, true]

/-- On a database that has not been migrated yet. -/
abbrev smallProcesses : System (Shared Bool Bool) (SharedEvent Bool Bool) :=
  processes smallHost smallDeployed false (oneDirectory "srv".toList 0o755) serverOrDoctor
    (fun _ => smallHost.network) serverOrDoctorCommands

/-- The migration is applied. -/
def migratedFirst : List (SharedEvent Bool Bool) := [.inr (.inl true)]

/-- Their calls, in turns until the doctor is through. -/
def callsInTurns : List Bool :=
  (List.replicate 25 [true, false]).flatten ++ List.replicate 11 false

/-- Every one of these calls is made, and then both are through. -/
theorem callsInTurns_done :
    let s := smallProcesses.state migratedFirst
    (Joint.system (Joint.beside worldView) s).Run callsInTurns ∧
      ∀ i, (((Joint.system (Joint.beside worldView) s).state callsInTurns).left
        i).result.isSome := by
  decide +kernel

theorem run_callsInTurns :
    smallProcesses.Run (migratedFirst ++ callsInTurns.map .inl) ∧
      ∀ i, ((smallProcesses.state (migratedFirst ++ callsInTurns.map .inl)).left
        i).result.isSome := by
  obtain ⟨hcalls, hdone⟩ := callsInTurns_done
  rw [System.run_append_iff, System.state_append]
  have hbefore : smallProcesses.Run migratedFirst := ⟨trivial, trivial⟩
  generalize smallProcesses.state migratedFirst = s at hcalls hdone ⊢
  obtain ⟨hiff, hstate⟩ := Joint.path_calls (Joint.beside worldView)
    (surroundings (fun _ => True) (fun _ => True) false smallHost.external.meilisearch
      (oneDirectory "srv".toList 0o755))
    (fun _ => ((0, 0) : Nat × Nat)) smallProcesses.start.left s callsInTurns s
  refine ⟨⟨hbefore, hiff.mpr hcalls⟩, fun i => ?_⟩
  exact (congrArg (fun t => (t.left i).result.isSome = true) hstate).mpr (hdone i)

theorem foldl_changed_of_calls {servers : δ × Meilisearch} {events : List (SharedEvent ι δ)}
    (h : ∀ event ∈ events, ∃ i, event = .inl i) : events.foldl changed servers = servers := by
  induction events with
  | nil => rfl
  | cons event events ih =>
      obtain ⟨hfirst, hlater⟩ := List.forall_mem_cons.mp h
      obtain ⟨i, rfl⟩ := hfirst
      exact ih hlater

/-- After the migration the servers are as they are. -/
theorem servers_callsInTurns {middle : List (SharedEvent Bool Bool)}
    (h : middle <+: callsInTurns.map .inl) :
    (smallProcesses.state (migratedFirst ++ middle)).shared.1 =
      (true, smallHost.external.meilisearch) := by
  obtain ⟨search, hside, -⟩ := sideBySide_smallHost
  obtain ⟨later, hsplit⟩ := h
  have hrun := run_callsInTurns.1
  rw [← hsplit, ← List.append_assoc] at hrun
  rw [servers_processes hside hrun.before, List.foldl_append]
  refine foldl_changed_of_calls fun event hevent => ?_
  obtain ⟨i, -, hi⟩ := List.mem_map.mp (hsplit ▸ List.mem_append_left later hevent)
  exact ⟨i, hi.symm⟩

theorem letsIn_smallHost :
    LetsIn (smallHost.sqlx.server true) (databaseOptions smallDeployed.database) :=
  ⟨rfl, ⟨_, rfl⟩, rfl⟩

theorem commands_interleave_inTurns :
    let s := smallProcesses.state (migratedFirst ++ callsInTurns.map .inl)
    PrivateTree s.shared.2 srvWikiNames ∧
      ∀ i, ∃ reports, s.left i = .done (.ok reports) ∧
        List.Forall₂ (fun components report =>
            report.checks.map DiagnosticCheck.component = components ∧ report.healthy = true)
          (commandComponents (serverOrDoctorCommands i)) reports := by
  obtain ⟨hrun, hdone⟩ := run_callsInTurns
  obtain ⟨search, hside, hsearch⟩ := sideBySide_smallHost
  have hdatabase : ∀ d, DatabaseDuring smallHost smallDeployed false
      (oneDirectory "srv".toList 0o755) serverOrDoctor (fun _ => smallHost.network) serverOrDoctorCommands migratedFirst
      (callsInTurns.map .inl) d → LetsIn (smallHost.sqlx.server d)
        (databaseOptions smallDeployed.database) := by
    rintro d ⟨middle, hprefix, rfl⟩
    simp only [servers_callsInTurns hprefix]
    exact letsIn_smallHost
  have hreplies : ∀ m, SearchDuring smallHost smallDeployed false
      (oneDirectory "srv".toList 0o755) serverOrDoctor (fun _ => smallHost.network) serverOrDoctorCommands migratedFirst
      (callsInTurns.map .inl) m → Available smallHost search m ∧ Current smallHost search m := by
    rintro m ⟨middle, hprefix, rfl⟩
    simp only [servers_callsInTurns hprefix]
    exact hsearch
  obtain ⟨-, -, -, hcommands⟩ := commands_interleave smallHost smallDeployed false
    (oneDirectory "srv".toList 0o755) serverOrDoctor (fun _ => smallHost.network)
    serverOrDoctorCommands hside migratedFirst (callsInTurns.map .inl) hrun
  have hclean : ∀ i, Clean (serverOrDoctor i) srvWikiNames (oneDirectory "srv".toList 0o755) :=
    fun _ => ⟨fun _ _ _ => rfl, fun _ =>
      FileSystem.node_append_eq_none (FileSystem.node_append_eq_none rfl _) _⟩
  have hcalls : ∀ i, Sum.inl i ∉ migratedFirst := by
    rintro i hi
    cases List.mem_singleton.mp hi
  generalize smallProcesses.state (migratedFirst ++ callsInTurns.map .inl) = s at hcommands hdone
  have hends := fun i => (hcommands i).2 (hcalls i)
  have hended : ∀ i, ∃ reports, s.left i = .done (.ok reports) := by
    intro i
    cases hleft : s.left i with
    | step update next =>
        have hsome := hdone i
        rw [hleft] at hsome
        cases hsome
    | done result =>
        cases result with
        | ok reports => exact ⟨reports, rfl⟩
        | error error =>
            obtain ⟨-, hexplained⟩ := (hends i _ hleft).1 error rfl
            match error, hexplained with
            | .startup (.database _), ⟨d, hpossible, hdown⟩ =>
                exact absurd (hdatabase d hpossible) hdown
            | .startup (.storage _), hdown => exact absurd (hclean i) hdown
            | .server error, hsocket => cases hsocket
  refine ⟨?_, fun i => ?_⟩
  · obtain ⟨reports, hreports⟩ := hended true
    exact ((hends true _ hreports).2 reports rfl).2.2 (.inr (hclean true))
  · obtain ⟨reports, hreports⟩ := hended i
    have htold := (List.forall₂_and_left _ _).mpr
      ⟨commandComponents_known (serverOrDoctorCommands i), ((hends i _ hreports).2 reports rfl).1⟩
    refine ⟨reports, hreports, htold.imp ?_⟩
    rintro components report ⟨hknown, htold⟩
    exact ⟨htold.components, htold.healthy_of_up hknown hdatabase (hclean i) hreplies⟩

/-- After the migration a doctor alone succeeds. -/
theorem commands_undisturbed_migrated :
    ∃ n report, smallProcesses.Run (migratedFirst ++ List.replicate n (.inl true)) ∧
      (smallProcesses.state (migratedFirst ++ List.replicate n (.inl true))).left true =
        .done (.ok [report]) ∧ report.healthy = true := by
  have hconfigured : Configured smallHost "config.toml" smallDeployed (·.level == .error) :=
    ⟨load_smallHost, rfl⟩
  obtain ⟨n, hrun, hdoctor, -⟩ := commands_undisturbed smallHost smallDeployed false
    (oneDirectory "srv".toList 0o755) serverOrDoctor (fun _ => smallHost.network)
    serverOrDoctorCommands true hconfigured migratedFirst ⟨trivial, trivial⟩
    (fun hi => by cases List.mem_singleton.mp hi)
  obtain ⟨report, hdone, hended⟩ := hdoctor _ _ rfl
  have hsuccess : (main (smallHost.quiet (serverOrDoctor true) smallHost.network
      smallHost.external.meilisearch) ⟨"config.toml", .doctor false⟩ true
        ⟨oneDirectory "srv".toList 0o755, 0, 0⟩).code = .success := by
    decide +kernel
  exact ⟨n, report, hrun, hdone, ((hended false).2 _ rfl).2.mp hsuccess⟩

end WikiNext.Server
