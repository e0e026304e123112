import WikiNext.App.Runtime
import WikiNext.Foundation.Transition

/-!
# The health endpoints under load

`crates/server/src/lib.rs` puts two endpoints in front of the services: any
number of handlers run side by side, and the request timeout may drop each of
them where it waits. Handlers of one operation share a mutex around its cached
report.

§1 the response, §2 handlers, §3 what a run has done, §4 the invariant.
-/

namespace WikiNext.Server

open WikiNext.Foundation WikiNext.App WikiNext.Store WikiNext.Search

/-! ## §1  The response -/

def OK : Nat := 200
def SERVICE_UNAVAILABLE : Nat := 503

/-- `report_response` -/
def reportResponse (report : DiagnosticReport) : Nat × DiagnosticReport :=
  let status := if report.healthy then OK else SERVICE_UNAVAILABLE
  (status, report)

/-! ## §2  Handlers -/

inductive Operation where
  | readiness
  | searchStatus
deriving DecidableEq, Repr

/-- What a probe brings back. -/
def Operation.Outcome : Operation → Type
  | .readiness => Except StoreError DatabaseStatus × Except StorageError StorageStatus
  | .searchStatus => Except SearchError SearchStatus

def Operation.report : (operation : Operation) → operation.Outcome → DiagnosticReport
  | .readiness, (database, storage) => readinessReport database storage
  | .searchStatus, search => searchReport search

abbrev Caller : Type := Nat

/-- Where a handler stands. It can be dropped where it waits: for the mutex and
for its probe. -/
inductive Phase where
  | absent
  | waiting
  | locked
  | probing
  | returning (report : DiagnosticReport)
  | answered (response : Nat × DiagnosticReport)
  | dropped
deriving DecidableEq, Repr

namespace Phase

/-- The guard of the mutex is alive. -/
def holds : Phase → Bool
  | .locked | .probing | .returning _ => true
  | _ => false

/-- The report a handler is about to return. -/
def report? : Phase → Option DiagnosticReport
  | .returning report => some report
  | _ => none

/-- The handler has its report. -/
def settled : Phase → Bool
  | .returning _ | .answered _ => true
  | _ => false

theorem report?_eq_some_iff {phase : Phase} {report : DiagnosticReport} :
    phase.report? = some report ↔ phase = .returning report := by
  cases phase <;> simp [report?]

end Phase

/-- The mutex of one operation, the report under it, and the handlers. -/
structure Guarded where
  cache : Option CachedReport
  holder : Option Caller
  phase : Caller → Phase

inductive Action (operation : Operation) where
  | call
  | lock
  | check
  | finish (outcome : operation.Outcome)
  | respond
  | drop

namespace Guarded

variable {operation : Operation}

def enabled (guarded : Guarded) (caller : Caller) : Action operation → Prop
  | .call => guarded.phase caller = .absent
  | .lock => guarded.phase caller = .waiting ∧ guarded.holder = none
  | .check => guarded.phase caller = .locked
  | .finish _ => guarded.phase caller = .probing
  | .respond => (guarded.phase caller).report?.isSome
  | .drop => guarded.phase caller = .waiting ∨ guarded.phase caller = .probing

instance (guarded : Guarded) (caller : Caller) (action : Action operation) :
    Decidable (guarded.enabled caller action) := by
  cases action <;> simp only [enabled] <;> infer_instance

/-- The handler moves on. -/
def move (guarded : Guarded) (caller : Caller) (phase : Phase) : Guarded :=
  { guarded with phase := Function.update guarded.phase caller phase }

/-- One action of a handler at a moment of the clock: `AppServices::readiness`
and `AppServices::search_status`, cut at their points of waiting and at the two
places where they read the clock. -/
def next (guarded : Guarded) (caller : Caller) (time : Instant) : Action operation → Guarded
  | .call => guarded.move caller .waiting
  | .lock => { guarded.move caller .locked with holder := some caller }
  | .check =>
      match guarded.cache.filter (·.fresh time) with
      | some cached => guarded.move caller (.returning cached.report)
      | none => guarded.move caller .probing
  | .finish outcome =>
      let report := operation.report outcome
      { guarded.move caller (.returning report) with
        cache := some { checked_at := time, report := report } }
  | .respond =>
      match (guarded.phase caller).report? with
      | some report =>
          { guarded.move caller (.answered (reportResponse report)) with holder := none }
      | none => guarded
  | .drop =>
      -- the guard goes with the future, if there is one
      { guarded.move caller .dropped with holder := guarded.holder.filter (· ≠ caller) }

end Guarded

/-- Both operations and the clock they read. -/
structure Health where
  now : Instant
  guarded : Operation → Guarded

structure Event where
  operation : Operation
  caller : Caller
  time : Instant
  action : Action operation

/-- The endpoints from `AppServices::connect` on. Time passes between events. -/
def health : System Health Event where
  start := {
    now := 0
    guarded := fun _ => { cache := none, holder := none, phase := fun _ => .absent } }
  enabled := fun s event =>
    s.now ≤ event.time ∧ (s.guarded event.operation).enabled event.caller event.action
  next := fun s event => {
    now := event.time
    guarded := Function.update s.guarded event.operation
      ((s.guarded event.operation).next event.caller event.time event.action) }

instance (s : Health) (event : Event) : Decidable (health.enabled s event) :=
  inferInstanceAs (Decidable (s.now ≤ event.time ∧
    (s.guarded event.operation).enabled event.caller event.action))

/-! ## §3  What a run has done -/

structure Completion where
  caller : Caller
  time : Instant
  report : DiagnosticReport

/-- The probe of `operation` that an event completes. -/
def Event.completion? (operation : Operation) (event : Event) : Option Completion :=
  if event.operation = operation then
    match event.action with
    | .finish outcome => some ⟨event.caller, event.time, event.operation.report outcome⟩
    | _ => none
  else none

/-- The probes of `operation` that were completed, in their order. -/
def completions (operation : Operation) (run : List Event) : List Completion :=
  run.filterMap (Event.completion? operation)

variable {operation : Operation} {run : List Event} {event : Event} {caller : Caller}
  {report : DiagnosticReport} {now time : Instant} {guarded : Guarded}

theorem completions_snoc : completions operation (run ++ [event]) =
    completions operation run ++ (event.completion? operation).toList := by
  cases h : event.completion? operation <;> simp [completions, h]

theorem mem_completions_of_finish {outcome : operation.Outcome}
    (h : ⟨operation, caller, time, .finish outcome⟩ ∈ run) :
    ⟨caller, time, operation.report outcome⟩ ∈ completions operation run :=
  List.mem_filterMap.mpr ⟨_, h, by simp [Event.completion?]⟩

/-- Where a report comes from: from the caller's own probe, or from one earlier
probe that was over less than the lifetime of a cached report before the check. -/
def Justified (operation : Operation) (run : List Event) (caller : Caller)
    (report : DiagnosticReport) : Prop :=
  (∃ probe ∈ completions operation run, probe.caller = caller ∧ probe.report = report) ∨
    ∃ time, ⟨operation, caller, time, .check⟩ ∈ run ∧
      ∃ probe ∈ completions operation run, probe.caller ≠ caller ∧ probe.report = report ∧
        probe.time ≤ time ∧ time < probe.time + DIAGNOSTIC_CACHE_TTL

theorem Justified.snoc (h : Justified operation run caller report) (event : Event) :
    Justified operation (run ++ [event]) caller report := by
  have hmem : ∀ {probe}, probe ∈ completions operation run →
      probe ∈ completions operation (run ++ [event]) := by
    intro probe hprobe
    rw [completions_snoc]
    exact List.mem_append_left _ hprobe
  rcases h with ⟨probe, hprobe, hown⟩ | ⟨time, hcheck, probe, hprobe, hother⟩
  · exact Or.inl ⟨probe, hmem hprobe, hown⟩
  · exact Or.inr ⟨time, List.mem_append_left _ hcheck, probe, hmem hprobe, hother⟩

/-! ## §4  The invariant -/

/-- What a run, the clock and one guarded cache have to do with each other. -/
structure Sound (operation : Operation) (run : List Event) (now : Instant) (guarded : Guarded) :
    Prop where
  clock : ∀ probe ∈ completions operation run, probe.time ≤ now
  mutex : ∀ caller, (guarded.phase caller).holds = true ↔ guarded.holder = some caller
  latest : ∀ probe ∈ completions operation run,
    ∃ cached ∈ guarded.cache, probe.time ≤ cached.checked_at
  recorded : ∀ cached ∈ guarded.cache, ∃ probe ∈ completions operation run,
    probe.time = cached.checked_at ∧ probe.report = cached.report
  settled : ∀ probe ∈ completions operation run, (guarded.phase probe.caller).settled = true
  returning : ∀ caller report, guarded.phase caller = .returning report →
    Justified operation run caller report
  answered : ∀ caller response, guarded.phase caller = .answered response →
    ∃ report, Justified operation run caller report ∧ response = reportResponse report

theorem sound_start : Sound operation [] health.start.now (health.start.guarded operation) where
  clock := by simp [completions]
  mutex := by simp [health, Phase.holds]
  latest := by simp [completions]
  recorded := by simp [health]
  settled := by simp [completions]
  returning := by simp [health]
  answered := by simp [health]

/-- An event of the other operation. -/
theorem Sound.snoc (h : Sound operation run now guarded) (event : Event)
    (hnow : now ≤ event.time) (hnone : event.completion? operation = none) :
    Sound operation (run ++ [event]) event.time guarded := by
  have hsame : completions operation (run ++ [event]) = completions operation run := by
    simp [completions_snoc, hnone]
  constructor
  · intro probe hprobe
    exact (h.clock probe (hsame ▸ hprobe)).trans hnow
  · exact h.mutex
  · rw [hsame]
    exact h.latest
  · rw [hsame]
    exact h.recorded
  · rw [hsame]
    exact h.settled
  · intro caller report hphase
    exact (h.returning caller report hphase).snoc event
  · intro caller response hphase
    obtain ⟨report, hreport, heq⟩ := h.answered caller response hphase
    exact ⟨report, hreport.snoc event, heq⟩

/-- An event that takes one handler to another phase and leaves the cache alone. -/
theorem Sound.move (h : Sound operation run now guarded) (event : Event)
    (hnow : now ≤ event.time) (hnone : event.completion? operation = none) {caller : Caller}
    {phase : Phase} {holder : Option Caller} (hself : phase.holds = true ↔ holder = some caller)
    (hother : ∀ other ≠ caller, holder = some other ↔ guarded.holder = some other)
    (hsettled : (guarded.phase caller).settled = true → phase.settled = true)
    (hreturning : ∀ report, phase = .returning report →
      Justified operation (run ++ [event]) caller report)
    (hanswered : ∀ response, phase = .answered response →
      ∃ report, Justified operation (run ++ [event]) caller report ∧
        response = reportResponse report) :
    Sound operation (run ++ [event]) event.time
      { guarded.move caller phase with holder := holder } := by
  have h' := h.snoc event hnow hnone
  constructor
  · exact h'.clock
  · intro other
    by_cases hsame : other = caller
    · subst hsame
      simpa [Guarded.move] using hself
    · rw [hother other hsame, ← h.mutex other]
      simp [Guarded.move, hsame]
  · exact h'.latest
  · exact h'.recorded
  · intro probe hprobe
    have hbefore := h'.settled probe hprobe
    by_cases hsame : probe.caller = caller
    · subst hsame
      simpa [Guarded.move] using hsettled hbefore
    · simpa [Guarded.move, hsame] using hbefore
  · intro other report hphase
    by_cases hsame : other = caller
    · subst hsame
      exact hreturning report (by simpa [Guarded.move] using hphase)
    · exact h'.returning other report (by simpa [Guarded.move, hsame] using hphase)
  · intro other response hphase
    by_cases hsame : other = caller
    · subst hsame
      exact hanswered response (by simpa [Guarded.move] using hphase)
    · exact h'.answered other response (by simpa [Guarded.move, hsame] using hphase)

theorem fresh_iff {cached : CachedReport} :
    cached.fresh now = true ↔ now < cached.checked_at + DIAGNOSTIC_CACHE_TTL := by
  have helapsed : ∀ a b : Nat, a - b < 5 * 10 ^ 9 ↔ a < b + 5 * 10 ^ 9 := by
    intro a b
    omega
  rw [CachedReport.fresh, decide_eq_true_iff]
  exact helapsed now cached.checked_at

/-- A completed probe becomes the cached report. -/
theorem Sound.finish (h : Sound operation run now guarded) (hnow : now ≤ time)
    (hprobing : guarded.phase caller = .probing) (outcome : operation.Outcome) :
    Sound operation (run ++ [⟨operation, caller, time, .finish outcome⟩]) time
      (guarded.next caller time (.finish outcome)) := by
  have hsplit : completions operation (run ++ [⟨operation, caller, time, .finish outcome⟩]) =
      completions operation run ++ [⟨caller, time, operation.report outcome⟩] := by
    simp [completions_snoc, Event.completion?]
  have hmem : ∀ probe, probe ∈ completions operation
      (run ++ [⟨operation, caller, time, .finish outcome⟩]) ↔
        probe ∈ completions operation run ∨ probe = ⟨caller, time, operation.report outcome⟩ := by
    simp [hsplit]
  have hclock : ∀ probe ∈ completions operation
      (run ++ [⟨operation, caller, time, .finish outcome⟩]), probe.time ≤ time := by
    intro probe hprobe
    rcases (hmem probe).mp hprobe with hold | rfl
    · exact (h.clock probe hold).trans hnow
    · exact le_refl time
  constructor
  · exact hclock
  · intro other
    by_cases hsame : other = caller
    · subst hsame
      have hholder := (h.mutex other).mp (by simp [hprobing, Phase.holds])
      simp [Guarded.next, Guarded.move, Phase.holds, hholder]
    · simpa [Guarded.next, Guarded.move, hsame] using h.mutex other
  · -- the new entry is the latest
    intro probe hprobe
    exact ⟨_, rfl, hclock probe hprobe⟩
  · rintro cached ⟨⟩
    exact ⟨_, (hmem _).mpr (Or.inr rfl), rfl, rfl⟩
  · intro probe hprobe
    by_cases hsame : probe.caller = caller
    · simp [Guarded.next, Guarded.move, hsame, Phase.settled]
    · rcases (hmem probe).mp hprobe with hold | rfl
      · simpa [Guarded.next, Guarded.move, hsame] using h.settled probe hold
      · exact absurd rfl hsame
  · intro other report hphase
    by_cases hsame : other = caller
    · subst hsame
      obtain rfl : operation.report outcome = report := by
        simpa [Guarded.next, Guarded.move] using hphase
      exact Or.inl ⟨_, (hmem _).mpr (Or.inr rfl), rfl, rfl⟩
    · have hbefore : guarded.phase other = .returning report := by
        simpa [Guarded.next, Guarded.move, hsame] using hphase
      exact (h.returning other report hbefore).snoc _
  · intro other response hphase
    by_cases hsame : other = caller
    · subst hsame
      simp [Guarded.next, Guarded.move] at hphase
    · have hbefore : guarded.phase other = .answered response := by
        simpa [Guarded.next, Guarded.move, hsame] using hphase
      obtain ⟨report, hreport, heq⟩ := h.answered other response hbefore
      exact ⟨report, hreport.snoc _, heq⟩

/-- A fresh cached report comes from somebody else's probe. -/
theorem Sound.hit (h : Sound operation run now guarded) (hnow : now ≤ time)
    (hlocked : guarded.phase caller = .locked) {cached : CachedReport}
    (hhit : guarded.cache.filter (·.fresh time) = some cached) :
    Justified operation (run ++ [⟨operation, caller, time, .check⟩]) caller cached.report := by
  obtain ⟨hcached, hfresh⟩ := Option.filter_eq_some_iff.mp hhit
  obtain ⟨probe, hprobe, htime, hreport⟩ := h.recorded cached hcached
  have hother : probe.caller ≠ caller := by
    -- who has completed a probe has its report and does not check again
    rintro rfl
    have hsettled := h.settled probe hprobe
    simp [hlocked, Phase.settled] at hsettled
  refine Or.inr ⟨time, by simp, probe, ?_, hother, hreport, (h.clock probe hprobe).trans hnow, ?_⟩
  · rw [completions_snoc]
    exact List.mem_append_left _ hprobe
  · rw [htime]
    exact fresh_iff.mp hfresh

/-- **One step** of a handler of this operation. -/
theorem Sound.next (h : Sound operation run now guarded) (hnow : now ≤ time)
    {action : Action operation} (henabled : guarded.enabled caller action) :
    Sound operation (run ++ [⟨operation, caller, time, action⟩]) time
      (guarded.next caller time action) := by
  have hmutex := h.mutex caller
  cases action with
  | call =>
      have habsent : guarded.phase caller = .absent := henabled
      have hfree : guarded.holder ≠ some caller := by
        simpa [habsent, Phase.holds] using hmutex
      exact h.move ⟨operation, caller, time, .call⟩ hnow (by simp [Event.completion?])
        (by simp [Phase.holds, hfree]) (fun _ _ => Iff.rfl) (by simp [habsent, Phase.settled])
        (by simp) (by simp)
  | lock =>
      obtain ⟨hwaiting, hfree⟩ := henabled
      exact h.move ⟨operation, caller, time, .lock⟩ hnow (by simp [Event.completion?])
        (by simp [Phase.holds]) (fun other hother => by simp [hfree, hother.symm])
        (by simp [hwaiting, Phase.settled]) (by simp) (by simp)
  | check =>
      have hlocked : guarded.phase caller = .locked := henabled
      have hholder : guarded.holder = some caller := by
        simpa [hlocked, Phase.holds] using hmutex
      simp only [Guarded.next]
      split
      next cached hhit =>
        exact h.move ⟨operation, caller, time, .check⟩ hnow
          (by simp [Event.completion?]) (by simp [Phase.holds, hholder]) (fun _ _ => Iff.rfl)
          (by simp [hlocked, Phase.settled]) (by
            rintro report ⟨⟩
            exact h.hit hnow hlocked hhit) (by simp)
      next =>
        exact h.move ⟨operation, caller, time, .check⟩ hnow
          (by simp [Event.completion?]) (by simp [Phase.holds, hholder]) (fun _ _ => Iff.rfl)
          (by simp [hlocked, Phase.settled]) (by simp) (by simp)
  | finish outcome => exact h.finish hnow henabled outcome
  | respond =>
      obtain ⟨report, hreport⟩ := Option.isSome_iff_exists.mp henabled
      have hreturning := Phase.report?_eq_some_iff.mp hreport
      have hholder : guarded.holder = some caller := by
        simpa [hreturning, Phase.holds] using hmutex
      simp only [Guarded.next, hreport]
      exact h.move ⟨operation, caller, time, .respond⟩ hnow
        (by simp [Event.completion?]) (by simp [Phase.holds])
        (fun other hother => by simp [hholder, hother.symm]) (by simp [Phase.settled]) (by simp)
        (by
          rintro response ⟨⟩
          exact ⟨report, (h.returning caller report hreturning).snoc _, rfl⟩)
  | drop =>
      have hunsettled : (guarded.phase caller).settled = false := by
        rcases henabled with hphase | hphase <;> simp [hphase, Phase.settled]
      exact h.move ⟨operation, caller, time, .drop⟩ hnow (by simp [Event.completion?])
        (by simp [Phase.holds]) (fun other hother => by simp [hother])
        (by simp [hunsettled]) (by simp) (by simp)

theorem guarded_next_foreign (s : Health) (hne : event.operation ≠ operation) :
    (health.next s event).guarded operation = s.guarded operation :=
  Function.update_of_ne (Ne.symm hne) _ _

theorem guarded_next_own (s : Health) (action : Action operation) :
    (health.next s ⟨operation, caller, time, action⟩).guarded operation =
      (s.guarded operation).next caller time action :=
  Function.update_self _ _ _

/-- **Every run** keeps the invariant of both caches. -/
theorem sound_run (operation : Operation) (hrun : health.Run run) :
    Sound operation run (health.state run).now ((health.state run).guarded operation) := by
  refine System.Run.invariant
    (I := fun run s => Sound operation run s.now (s.guarded operation)) sound_start ?_ hrun
  intro run event _ hsound henabled
  obtain ⟨hnow, haction⟩ := henabled
  by_cases hop : event.operation = operation
  · obtain ⟨_, caller, time, action⟩ := event
    subst hop
    rw [guarded_next_own]
    exact hsound.next hnow haction
  · rw [guarded_next_foreign _ hop]
    exact hsound.snoc event hnow (if_neg hop)

end WikiNext.Server
