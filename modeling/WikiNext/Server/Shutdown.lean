import WikiNext.Foundation.Transition
import Mathlib.Logic.Function.Basic

/-!
# Shutting the server down

`serve` in `crates/server/src/lib.rs`: a spawned task waits for a signal and
then raises a flag in a watch channel; one receiver starts the graceful
shutdown, another one a deadline; `serve` itself waits for the server and for
the deadline.

§1 the parties, §2 what they do, §3 handlers and the flag, §4 the deadline,
§5 shutdown and signals.
-/

namespace WikiNext.Server.Shutdown

open WikiNext.Foundation

/-! ## §1  The parties -/

inductive ServerError where
  | bind (source : String)
  | serve (source : String)
  | shutdownTimeout (limit : Nat)
deriving DecidableEq, Repr

inductive Signal where
  | interrupt
  | terminate
deriving DecidableEq, Repr

/-- The handler behind one branch of `wait_for_shutdown_signal`. -/
inductive Handler where
  | unpolled
  | listening
  | delivered
  | failed
deriving DecidableEq, Repr

/-- The branch is complete. Without a handler the interrupt branch logs a
warning and ends; the terminate branch stays pending. -/
def Handler.complete : Signal → Handler → Bool
  | _, .delivered => true
  | .interrupt, .failed => true
  | .terminate, .failed => false
  | _, .unpolled => false
  | _, .listening => false

/-- The spawned task, which owns the sender. -/
inductive SignalTask where
  | unspawned
  | waiting
  | woken
  | sent
  | closed
deriving DecidableEq, Repr

inductive Graceful where
  | waiting
  | begun
  | forgotten
deriving DecidableEq, Repr

inductive Deadline where
  | waiting
  | counting (since : Instant)
deriving DecidableEq, Repr

inductive Serving where
  | binding
  | running
  | returned (result : Except ServerError Unit)
deriving DecidableEq

structure Parties where
  now : Instant
  serving : Serving
  handler : Signal → Handler
  task : SignalTask
  flag : Bool
  graceful : Graceful
  deadline : Deadline

namespace Parties

/-- The channel has a receiver left. -/
def watched (s : Parties) : Bool :=
  s.graceful == .waiting || s.deadline == .waiting && s.serving == .running

/-- `wait_for_notification` is over: the flag is set, or the sender is gone. -/
def notified (s : Parties) : Bool := s.flag || s.task == .closed

def setHandler (s : Parties) (signal : Signal) (handler : Handler) : Parties :=
  { s with handler := Function.update s.handler signal handler }

end Parties

/-! ## §2  What they do -/

inductive Action where
  | bind (result : Except String Unit)
  | install (signal : Signal) (installed : Bool)
  | deliver (signal : Signal)
  | wake (signal : Signal)
  | send
  | close
  | beginGraceful
  | forgetGraceful
  | startDeadline
  | finishServer (result : Except String Unit)
  | elapse
deriving DecidableEq

structure Event where
  time : Instant
  action : Action
deriving DecidableEq

def enabled (shutdown_timeout : Nat) (s : Parties) (time : Instant) : Action → Prop
  | .bind _ => s.serving = .binding
  | .install signal _ => s.task = .waiting ∧ s.handler signal = .unpolled
  | .deliver signal => s.handler signal = .listening ∨ s.handler signal = .delivered
  | .wake signal => s.task = .waiting ∧ (s.handler signal).complete signal = true
  | .send => s.task = .woken
  | .close => s.task = .sent
  | .beginGraceful => s.graceful = .waiting ∧ s.notified = true
  -- the server future is gone, and the library may drop what it was given
  | .forgetGraceful => s.graceful = .waiting ∧ s.serving ≠ .binding ∧ s.serving ≠ .running
  | .startDeadline => s.serving = .running ∧ s.deadline = .waiting ∧ s.notified = true
  | .finishServer _ => s.serving = .running
  | .elapse => s.serving = .running ∧
      match s.deadline with
      | .waiting => False
      | .counting since => since + shutdown_timeout ≤ time

def next (shutdown_timeout : Nat) (s : Parties) (time : Instant) : Action → Parties
  | .bind (.ok ()) => { s with serving := .running, task := .waiting }
  | .bind (.error e) => { s with serving := .returned (.error (.bind e)) }
  | .install signal installed => s.setHandler signal (if installed then .listening else .failed)
  | .deliver signal => s.setHandler signal .delivered
  | .wake _ => { s with task := .woken }
  -- without a receiver `send` fails and leaves the value
  | .send => { s with task := .sent, flag := s.flag || s.watched }
  | .close => { s with task := .closed }
  | .beginGraceful => { s with graceful := .begun }
  | .forgetGraceful => { s with graceful := .forgotten }
  | .startDeadline => { s with deadline := .counting time }
  | .finishServer result => { s with serving := .returned (result.mapError .serve) }
  | .elapse => { s with serving := .returned (.error (.shutdownTimeout shutdown_timeout)) }

/-- `serve`, its spawned task, its library and the operating system. -/
def serve (shutdown_timeout : Nat) : System Parties Event where
  start := {
    now := 0
    serving := .binding
    handler := fun _ => .unpolled
    task := .unspawned
    flag := false
    graceful := .waiting
    deadline := .waiting }
  enabled := fun s event => s.now ≤ event.time ∧
    Shutdown.enabled shutdown_timeout s event.time event.action
  next := fun s event =>
    { Shutdown.next shutdown_timeout s event.time event.action with now := event.time }

instance (shutdown_timeout : Nat) (s : Parties) (time : Instant) (action : Action) :
    Decidable (enabled shutdown_timeout s time action) := by
  cases action with
  | elapse =>
      simp only [enabled]
      cases s.deadline <;> infer_instance
  | _ =>
      simp only [enabled]
      infer_instance

instance (shutdown_timeout : Nat) (s : Parties) (event : Event) :
    Decidable ((serve shutdown_timeout).enabled s event) :=
  inferInstanceAs (Decidable (s.now ≤ event.time ∧
    Shutdown.enabled shutdown_timeout s event.time event.action))

/-- An action has happened, at some time. -/
def Happened (run : List Event) (action : Action) : Prop := ∃ time, ⟨time, action⟩ ∈ run

variable {run : List Event} {event : Event} {action : Action} {shutdown_timeout : Nat}
  {s s' : Parties}

theorem Happened.snoc (h : Happened run action) (event : Event) :
    Happened (run ++ [event]) action := by
  obtain ⟨time, hmem⟩ := h
  exact ⟨time, List.mem_append_left _ hmem⟩

theorem happened_last (run : List Event) (time : Instant) (action : Action) :
    Happened (run ++ [⟨time, action⟩]) action :=
  ⟨time, by simp⟩

/-! ## §3  Handlers and the flag -/

theorem Handler.complete_iff {signal : Signal} {handler : Handler} :
    handler.complete signal = true ↔
      handler = .delivered ∨ handler = .failed ∧ signal = .interrupt := by
  cases handler <;> cases signal <;> simp [complete]

/-- The `select!` over both branches is over. -/
def SignalTask.isOver : SignalTask → Bool
  | .woken | .sent | .closed => true
  | _ => false

/-- A signal was delivered to a handler. -/
def Signalled (run : List Event) : Prop := ∃ signal, Happened run (.deliver signal)

theorem Signalled.snoc (h : Signalled run) (event : Event) : Signalled (run ++ [event]) := by
  obtain ⟨signal, hsignal⟩ := h
  exact ⟨signal, hsignal.snoc event⟩

/-- The `select!` was completed by the Ctrl+C branch, whose handler could not be
installed, before any signal was delivered. -/
def WokenUnasked (shutdown_timeout : Nat) (run : List Event) : Prop :=
  ∃ before time after, run = before ++ ⟨time, .wake .interrupt⟩ :: after ∧
    ((serve shutdown_timeout).state before).handler .interrupt = .failed ∧ ¬ Signalled before

theorem WokenUnasked.snoc (h : WokenUnasked shutdown_timeout run) (event : Event) :
    WokenUnasked shutdown_timeout (run ++ [event]) := by
  obtain ⟨before, time, after, rfl, hunasked⟩ := h
  exact ⟨before, time, after ++ [event], by simp, hunasked⟩

/-- Where the handlers and the task stand, and what that says of the run. -/
structure Heard (shutdown_timeout : Nat) (run : List Event) (s : Parties) : Prop where
  delivered : ∀ signal, s.handler signal = .delivered → Happened run (.deliver signal)
  failed : ∀ signal, s.handler signal = .failed → Happened run (.install signal false)
  asked : s.task.isOver = true → Signalled run ∨ WokenUnasked shutdown_timeout run

/-- An action of the other parties. -/
theorem Heard.frame (h : Heard shutdown_timeout run s) (hhandler : s'.handler = s.handler)
    (htask : s'.task.isOver = true → s.task.isOver = true) :
    Heard shutdown_timeout (run ++ [event]) s' := by
  constructor
  · intro signal hdelivered
    exact (h.delivered signal (hhandler ▸ hdelivered)).snoc event
  · intro signal hfailed
    exact (h.failed signal (hhandler ▸ hfailed)).snoc event
  · intro hover
    exact (h.asked (htask hover)).imp (·.snoc event) (·.snoc event)

/-- A handler that is installed, turned down or reached by a signal. -/
theorem Heard.setHandler (h : Heard shutdown_timeout run s) (event : Event) {signal : Signal}
    {handler : Handler} (hdelivered : handler = .delivered → event.action = .deliver signal)
    (hfailed : handler = .failed → event.action = .install signal false) :
    Heard shutdown_timeout (run ++ [event])
      { s.setHandler signal handler with now := event.time } := by
  have h' : Heard shutdown_timeout (run ++ [event]) s := h.frame rfl id
  obtain ⟨time, action⟩ := event
  constructor
  · intro other hother
    by_cases hsame : other = signal
    · subst hsame
      obtain rfl : action = .deliver other := hdelivered (by simpa [Parties.setHandler] using hother)
      exact happened_last run time _
    · exact h'.delivered other (by simpa [Parties.setHandler, hsame] using hother)
  · intro other hother
    by_cases hsame : other = signal
    · subst hsame
      obtain rfl : action = .install other false :=
        hfailed (by simpa [Parties.setHandler] using hother)
      exact happened_last run time _
    · exact h'.failed other (by simpa [Parties.setHandler, hsame] using hother)
  · exact h'.asked

theorem Heard.next (h : Heard shutdown_timeout run ((serve shutdown_timeout).state run))
    (henabled : (serve shutdown_timeout).enabled ((serve shutdown_timeout).state run) event) :
    Heard shutdown_timeout (run ++ [event])
      ((serve shutdown_timeout).next ((serve shutdown_timeout).state run) event) := by
  obtain ⟨time, action⟩ := event
  obtain ⟨-, haction⟩ := henabled
  cases action with
  | bind result =>
      cases result with
      | ok => exact h.frame rfl (fun hover => by cases hover)
      | error e => exact h.frame rfl id
  | install signal installed =>
      refine h.setHandler ⟨time, .install signal installed⟩ ?_ ?_
      · cases installed <;> simp
      · cases installed <;> simp
  | deliver signal =>
      exact h.setHandler ⟨time, .deliver signal⟩ (fun _ => rfl) (fun hne => by cases hne)
  | wake signal =>
      -- the only way out of the `select!`: a signal, or a Ctrl+C branch without a handler
      obtain ⟨-, hcomplete⟩ := haction
      have h' : Heard shutdown_timeout (run ++ [⟨time, .wake signal⟩])
          ((serve shutdown_timeout).state run) := h.frame rfl id
      refine ⟨h'.delivered, h'.failed, fun _ => ?_⟩
      rcases Handler.complete_iff.mp hcomplete with hdelivered | ⟨hfailed, rfl⟩
      · exact Or.inl ⟨signal, h'.delivered signal hdelivered⟩
      · by_cases hsignalled : Signalled run
        · exact Or.inl (hsignalled.snoc _)
        · exact Or.inr ⟨run, time, [], rfl, hfailed, hsignalled⟩
  | send =>
      have hwoken : ((serve shutdown_timeout).state run).task = .woken := haction
      exact h.frame rfl (fun _ => by rw [hwoken]; rfl)
  | close =>
      have hsent : ((serve shutdown_timeout).state run).task = .sent := haction
      exact h.frame rfl (fun _ => by rw [hsent]; rfl)
  | beginGraceful => exact h.frame rfl id
  | forgetGraceful => exact h.frame rfl id
  | startDeadline => exact h.frame rfl id
  | finishServer result => exact h.frame rfl id
  | elapse => exact h.frame rfl id

theorem heard_run (hrun : (serve shutdown_timeout).Run run) :
    Heard shutdown_timeout run ((serve shutdown_timeout).state run) := by
  refine System.Run.invariant (I := Heard shutdown_timeout) ?_ ?_ hrun
  · constructor <;> simp [serve, SignalTask.isOver]
  · intro run event _ hheard henabled
    exact hheard.next henabled

/-- The flag, the task that sets it and the receivers that wait for it. -/
structure Flagged (s : Parties) : Prop where
  unspawned : s.serving = .binding → s.task = .unspawned
  sent : s.flag = true → s.task = .sent ∨ s.task = .closed
  unwatched : s.flag = false → s.task = .sent ∨ s.task = .closed → s.watched = false
  quiet : s.flag = false → s.graceful ≠ .begun ∧ s.deadline = .waiting

/-- A receiver that is notified finds the flag set: the sender is never gone
before it has sent. -/
theorem Flagged.flag_of_notified (h : Flagged s) (hwatched : s.watched = true)
    (hnotified : s.notified = true) : s.flag = true := by
  by_contra hflag
  rw [Bool.not_eq_true] at hflag
  have hclosed : s.task = .closed := by simpa [Parties.notified, hflag] using hnotified
  have hunwatched := h.unwatched hflag (Or.inr hclosed)
  rw [hwatched] at hunwatched
  cases hunwatched

/-- `serve` returns: its deadline future is dropped. -/
theorem Flagged.returns (h : Flagged s) (result : Except ServerError Unit) (time : Instant) :
    Flagged { s with serving := .returned result, now := time } := by
  refine ⟨fun hserving => (by cases hserving), h.sent, fun hset hover => ?_, h.quiet⟩
  have hunwatched := h.unwatched hset hover
  simp only [Parties.watched, Bool.or_eq_false_iff] at hunwatched ⊢
  exact ⟨hunwatched.1, by simp⟩

theorem Flagged.not_binding (h : Flagged s) (htask : s.task ≠ .unspawned) :
    s.serving ≠ .binding :=
  fun hserving => htask (h.unspawned hserving)

/-- Before the task has sent, the flag is not set. -/
theorem Flagged.unset (h : Flagged s) (hsent : s.task ≠ .sent) (hclosed : s.task ≠ .closed) :
    s.flag = false := by
  by_contra hflag
  rw [Bool.not_eq_false] at hflag
  rcases h.sent hflag with htask | htask
  · exact hsent htask
  · exact hclosed htask

theorem Flagged.next (h : Flagged s) (henabled : (serve shutdown_timeout).enabled s event) :
    Flagged ((serve shutdown_timeout).next s event) := by
  obtain ⟨time, action⟩ := event
  obtain ⟨-, haction⟩ := henabled
  cases action with
  | bind result =>
      have hunspawned := h.unspawned haction
      have hunset := h.unset (by simp [hunspawned]) (by simp [hunspawned])
      cases result with
      | ok =>
          refine ⟨fun hserving => (by cases hserving), fun hset => ?_, fun _ hover => ?_, h.quiet⟩
          · exact absurd hset (by simp [serve, Shutdown.next, hunset])
          · simp [serve, Shutdown.next] at hover
      | error e => exact h.returns (.error (.bind e)) time
  | install signal installed => exact ⟨h.unspawned, h.sent, h.unwatched, h.quiet⟩
  | deliver signal => exact ⟨h.unspawned, h.sent, h.unwatched, h.quiet⟩
  | wake signal =>
      have hwaiting : s.task = .waiting := haction.1
      have hunset := h.unset (by simp [hwaiting]) (by simp [hwaiting])
      refine ⟨fun hserving => ?_, fun hset => ?_, fun _ hover => ?_, h.quiet⟩
      · exact absurd hserving (h.not_binding (by simp [hwaiting]))
      · exact absurd hset (by simp [serve, Shutdown.next, hunset])
      · simp [serve, Shutdown.next] at hover
  | send =>
      have hwoken : s.task = .woken := haction
      refine ⟨fun hserving => ?_, fun _ => Or.inl rfl, fun hset _ => ?_, fun hset => ?_⟩
      · exact absurd hserving (h.not_binding (by simp [hwoken]))
      · -- the value stays only if nobody watches
        exact (Bool.or_eq_false_iff.mp hset).2
      · exact h.quiet (Bool.or_eq_false_iff.mp hset).1
  | close =>
      have hsent : s.task = .sent := haction
      refine ⟨fun hserving => ?_, fun _ => Or.inr rfl, fun hset _ => ?_, h.quiet⟩
      · exact absurd hserving (h.not_binding (by simp [hsent]))
      · exact h.unwatched hset (Or.inl hsent)
  | beginGraceful =>
      obtain ⟨hwaiting, hnotified⟩ := haction
      have hflag : s.flag = true :=
        h.flag_of_notified (by simp [Parties.watched, hwaiting]) hnotified
      refine ⟨h.unspawned, h.sent, fun hset => ?_, fun hset => ?_⟩
      · exact absurd hset (by simp [serve, Shutdown.next, hflag])
      · exact absurd hset (by simp [serve, Shutdown.next, hflag])
  | forgetGraceful =>
      obtain ⟨-, -, hreturned⟩ := haction
      refine ⟨h.unspawned, h.sent, fun _ _ => ?_, fun hset => ?_⟩
      · simp [serve, Shutdown.next, Parties.watched, hreturned]
      · exact ⟨by simp [serve, Shutdown.next], (h.quiet hset).2⟩
  | startDeadline =>
      obtain ⟨hrunning, hwaiting, hnotified⟩ := haction
      have hflag : s.flag = true :=
        h.flag_of_notified (by simp [Parties.watched, hrunning, hwaiting]) hnotified
      refine ⟨h.unspawned, h.sent, fun hset => ?_, fun hset => ?_⟩
      · exact absurd hset (by simp [serve, Shutdown.next, hflag])
      · exact absurd hset (by simp [serve, Shutdown.next, hflag])
  | finishServer result => exact h.returns (result.mapError .serve) time
  | elapse => exact h.returns (.error (.shutdownTimeout shutdown_timeout)) time

theorem flagged_run (hrun : (serve shutdown_timeout).Run run) :
    Flagged ((serve shutdown_timeout).state run) := by
  refine System.Run.invariant (I := fun _ => Flagged) ?_ ?_ hrun
  · constructor <;> simp [serve]
  · intro run event _ hflagged henabled
    exact hflagged.next henabled

/-! ## §4  The deadline -/

/-- The flag and the countdown in time. -/
structure Timed (run : List Event) (s : Parties) : Prop where
  clock : ∀ event ∈ run, event.time ≤ s.now
  sent : s.flag = true → Happened run .send
  counting : ∀ since, s.deadline = .counting since →
    s.flag = true ∧ ∃ set ≤ since, ⟨set, .send⟩ ∈ run

/-- An action that leaves flag and countdown alone. -/
theorem Timed.frame (h : Timed run s) (hnow : s.now ≤ event.time) (hnow' : s'.now = event.time)
    (hflag : s'.flag = s.flag) (hdeadline : s'.deadline = s.deadline) :
    Timed (run ++ [event]) s' := by
  constructor
  · intro other hother
    rw [hnow']
    rcases List.mem_append.mp hother with hold | hlast
    · exact Nat.le_trans (h.clock other hold) hnow
    · exact Nat.le_of_eq (congrArg Event.time (List.mem_singleton.mp hlast))
  · intro hset
    exact (h.sent (hflag ▸ hset)).snoc event
  · intro since hsince
    obtain ⟨hset, set, hle, hmem⟩ := h.counting since (hdeadline ▸ hsince)
    exact ⟨hflag ▸ hset, set, hle, List.mem_append_left _ hmem⟩

theorem Timed.next (h : Timed run s) (hflagged : Flagged s)
    (henabled : (serve shutdown_timeout).enabled s event) :
    Timed (run ++ [event]) ((serve shutdown_timeout).next s event) := by
  obtain ⟨time, action⟩ := event
  obtain ⟨hnow, haction⟩ := henabled
  cases action with
  | bind result =>
      cases result with
      | ok => exact h.frame hnow rfl rfl rfl
      | error e => exact h.frame hnow rfl rfl rfl
  | install signal installed => exact h.frame hnow rfl rfl rfl
  | deliver signal => exact h.frame hnow rfl rfl rfl
  | wake signal => exact h.frame hnow rfl rfl rfl
  | send =>
      have hframe : Timed (run ++ [⟨time, .send⟩]) { s with now := time } :=
        h.frame hnow rfl rfl rfl
      refine ⟨hframe.clock, fun _ => happened_last run time .send, fun since hsince => ?_⟩
      obtain ⟨hset, hmem⟩ := hframe.counting since hsince
      exact ⟨Bool.or_eq_true_iff.mpr (Or.inl hset), hmem⟩
  | close => exact h.frame hnow rfl rfl rfl
  | beginGraceful => exact h.frame hnow rfl rfl rfl
  | forgetGraceful => exact h.frame hnow rfl rfl rfl
  | startDeadline =>
      -- the channel may also be closed, but never before the flag is set
      obtain ⟨hrunning, hwaiting, hnotified⟩ := haction
      have hframe : Timed (run ++ [⟨time, .startDeadline⟩]) { s with now := time } :=
        h.frame hnow rfl rfl rfl
      have hflag : s.flag = true :=
        hflagged.flag_of_notified (by simp [Parties.watched, hrunning, hwaiting]) hnotified
      refine ⟨hframe.clock, hframe.sent, fun since hsince => ?_⟩
      obtain rfl : time = since := Deadline.counting.inj hsince
      obtain ⟨set, hmem⟩ := hframe.sent hflag
      exact ⟨hflag, set, hframe.clock _ hmem, hmem⟩
  | finishServer result => exact h.frame hnow rfl rfl rfl
  | elapse => exact h.frame hnow rfl rfl rfl

theorem timed_run (hrun : (serve shutdown_timeout).Run run) :
    Timed run ((serve shutdown_timeout).state run) := by
  refine System.Run.invariant (I := Timed) ?_ ?_ hrun
  · constructor <;> simp [serve]
  · intro run event hsofar htimed henabled
    exact htimed.next (flagged_run hsofar) henabled

/-- `serve` gave up: the flag was set, the whole limit passed after that, and the
server future never finished. -/
structure TimedOut (shutdown_timeout : Nat) (run : List Event) (limit : Nat) : Prop where
  limit : limit = shutdown_timeout
  elapsed : ∃ set passed, ⟨set, .send⟩ ∈ run ∧ ⟨passed, .elapse⟩ ∈ run ∧
    set + shutdown_timeout ≤ passed
  unfinished : ∀ result, ¬ Happened run (.finishServer result)

/-- What `serve` returns, and what that says of the run. -/
structure Returned (shutdown_timeout : Nat) (run : List Event) (s : Parties) : Prop where
  unfinished : s.serving = .binding ∨ s.serving = .running →
    ∀ result, ¬ Happened run (.finishServer result)
  timedOut : ∀ limit, s.serving = .returned (.error (.shutdownTimeout limit)) →
    TimedOut shutdown_timeout run limit ∧ s.flag = true

theorem not_happened_snoc {time : Instant} {other : Action} (h : ¬ Happened run action)
    (hne : action ≠ other) : ¬ Happened (run ++ [⟨time, other⟩]) action := by
  rintro ⟨time', hmem⟩
  rcases List.mem_append.mp hmem with hold | hlast
  · exact h ⟨time', hold⟩
  · simp only [List.mem_singleton, Event.mk.injEq] at hlast
    exact hne hlast.2

/-- An action that does not come from `serve`. -/
theorem Returned.frame (h : Returned shutdown_timeout run s) {time : Instant}
    (hother : ∀ result, action ≠ .finishServer result) (hserving : s'.serving = s.serving)
    (hflag : s.flag = true → s'.flag = true) :
    Returned shutdown_timeout (run ++ [⟨time, action⟩]) s' := by
  constructor
  · intro hopen result
    exact not_happened_snoc (h.unfinished (hserving ▸ hopen) result) (hother result).symm
  · intro limit hlimit
    obtain ⟨htimedOut, hset⟩ := h.timedOut limit (hserving ▸ hlimit)
    obtain ⟨set, passed, hsent, hpassed, hle⟩ := htimedOut.elapsed
    refine ⟨⟨htimedOut.limit, ?_, fun result => ?_⟩, hflag hset⟩
    · exact ⟨set, passed, List.mem_append_left _ hsent, List.mem_append_left _ hpassed, hle⟩
    · exact not_happened_snoc (htimedOut.unfinished result) (hother result).symm

theorem Returned.next (h : Returned shutdown_timeout run s) (htimed : Timed run s)
    (henabled : (serve shutdown_timeout).enabled s event) :
    Returned shutdown_timeout (run ++ [event]) ((serve shutdown_timeout).next s event) := by
  obtain ⟨time, action⟩ := event
  obtain ⟨-, haction⟩ := henabled
  cases action with
  | bind result =>
      have hbinding : s.serving = .binding := haction
      cases result with
      | ok =>
          refine ⟨fun _ result => ?_, fun limit hlimit => (by cases hlimit)⟩
          exact not_happened_snoc (h.unfinished (Or.inl hbinding) result) (by simp)
      | error e =>
          refine ⟨fun hopen => ?_, fun limit hlimit => (by cases hlimit)⟩
          simp [serve, Shutdown.next] at hopen
  | install signal installed => exact h.frame (by simp) rfl id
  | deliver signal => exact h.frame (by simp) rfl id
  | wake signal => exact h.frame (by simp) rfl id
  | send => exact h.frame (by simp) rfl (fun hset => Bool.or_eq_true_iff.mpr (Or.inl hset))
  | close => exact h.frame (by simp) rfl id
  | beginGraceful => exact h.frame (by simp) rfl id
  | forgetGraceful => exact h.frame (by simp) rfl id
  | startDeadline => exact h.frame (by simp) rfl id
  | finishServer result =>
      -- a result of the server is never `ShutdownTimeout`
      constructor
      · intro hopen
        simp [serve, Shutdown.next] at hopen
      · intro limit hlimit
        cases result with
        | ok => cases hlimit
        | error e => cases hlimit
  | elapse =>
      obtain ⟨hrunning, hdeadline⟩ := haction
      refine ⟨fun hopen => (by simp [serve, Shutdown.next] at hopen), fun limit hlimit => ?_⟩
      obtain rfl : shutdown_timeout = limit := by
        simpa [serve, Shutdown.next] using hlimit
      cases hsince : s.deadline with
      | waiting => simp [hsince] at hdeadline
      | counting since =>
          obtain ⟨hset, set, hle, hsent⟩ := htimed.counting since hsince
          have hpassed : since + shutdown_timeout ≤ time := by simpa [hsince] using hdeadline
          have hwhole : set + shutdown_timeout ≤ time :=
            Nat.le_trans (Nat.add_le_add_right hle _) hpassed
          refine ⟨⟨rfl, ⟨set, time, List.mem_append_left _ hsent, by simp, hwhole⟩,
            fun result => ?_⟩, hset⟩
          exact not_happened_snoc (h.unfinished (Or.inr hrunning) result) (by simp)

theorem returned_run (hrun : (serve shutdown_timeout).Run run) :
    Returned shutdown_timeout run ((serve shutdown_timeout).state run) := by
  refine System.Run.invariant (I := Returned shutdown_timeout) ?_ ?_ hrun
  · constructor <;> simp [serve, Happened]
  · intro run event hsofar hreturned henabled
    exact hreturned.next (timed_run hsofar) henabled

/-! ## §5  Shutdown and signals -/

/-- With a Ctrl+C handler nobody is woken unasked. -/
theorem not_wokenUnasked (hrun : (serve shutdown_timeout).Run run)
    (hinstalled : ¬ Happened run (.install .interrupt false)) :
    ¬ WokenUnasked shutdown_timeout run := by
  rintro ⟨before, time, after, rfl, hfailed, -⟩
  obtain ⟨time', hmem⟩ := (heard_run hrun.before).failed .interrupt hfailed
  exact hinstalled ⟨time', List.mem_append_left _ hmem⟩

/-- A flag that is set was asked for, unless the task was woken unasked. -/
theorem signalled_of_flag (hrun : (serve shutdown_timeout).Run run)
    (hasked : ¬ WokenUnasked shutdown_timeout run)
    (hflag : ((serve shutdown_timeout).state run).flag = true) : Signalled run := by
  have hover : ((serve shutdown_timeout).state run).task.isOver = true := by
    rcases (flagged_run hrun).sent hflag with hsent | hclosed
    · rw [hsent]
      rfl
    · rw [hclosed]
      rfl
  exact ((heard_run hrun).asked hover).resolve_right hasked

/-- A graceful shutdown that has begun found the flag set. -/
theorem flag_of_begun (hrun : (serve shutdown_timeout).Run run)
    (hbegun : ((serve shutdown_timeout).state run).graceful = .begun) :
    ((serve shutdown_timeout).state run).flag = true := by
  by_contra hflag
  rw [Bool.not_eq_true] at hflag
  exact ((flagged_run hrun).quiet hflag).1 hbegun

/-- A task that was woken unasked sets the flag in its next action. -/
theorem flag_of_wokenUnasked {time : Instant}
    (hrun : (serve shutdown_timeout).Run (run ++ [⟨time, .wake .interrupt⟩]))
    (hunsignalled : ¬ Signalled run)
    (hrunning : ((serve shutdown_timeout).state run).serving = .running) :
    (serve shutdown_timeout).Run (run ++ [⟨time, .wake .interrupt⟩] ++ [⟨time, .send⟩]) ∧
      ((serve shutdown_timeout).state
        (run ++ [⟨time, .wake .interrupt⟩] ++ [⟨time, .send⟩])).flag = true ∧
      ¬ Signalled (run ++ [⟨time, .wake .interrupt⟩] ++ [⟨time, .send⟩]) := by
  refine ⟨System.run_snoc_iff.mpr ⟨hrun, ?_⟩, ?_, ?_⟩
  · rw [System.state_snoc]
    exact ⟨Nat.le_refl time, rfl⟩
  · have hquiet := (flagged_run hrun.before).quiet
    rw [System.state_snoc, System.state_snoc]
    show (((serve shutdown_timeout).state run).flag ||
      ((serve shutdown_timeout).state run).watched) = true
    cases hflag : ((serve shutdown_timeout).state run).flag with
    | true => rfl
    | false => simp [Parties.watched, hrunning, (hquiet hflag).2]
  · rintro ⟨signal, time', hmem⟩
    simp only [List.append_assoc, List.mem_append, List.mem_singleton, Event.mk.injEq,
      reduceCtorEq, and_false, or_false] at hmem
    exact hunsignalled ⟨signal, time', hmem⟩

/-- **Shutdown after a signal.** In every run of `serve`:
unless its task was woken by a Ctrl+C branch without a handler before any signal
was delivered, the flag is set and the graceful shutdown has begun only after a
signal, and so it is whenever the Ctrl+C handler could be installed;
the deadline counts only from a moment after the flag was set;
`ShutdownTimeout` is returned only after the flag was set and the whole limit
then passed, while the server future did not finish.
A task that is woken unasked can set the flag at once. -/
theorem shutdown_after_signal (shutdown_timeout : Nat) (run : List Event)
    (hrun : (serve shutdown_timeout).Run run) :
    (¬ WokenUnasked shutdown_timeout run →
      (((serve shutdown_timeout).state run).flag = true → Signalled run) ∧
      (((serve shutdown_timeout).state run).graceful = .begun → Signalled run)) ∧
    (¬ Happened run (.install .interrupt false) →
      (((serve shutdown_timeout).state run).flag = true → Signalled run) ∧
      (((serve shutdown_timeout).state run).graceful = .begun → Signalled run)) ∧
    (∀ since, ((serve shutdown_timeout).state run).deadline = .counting since →
      ((serve shutdown_timeout).state run).flag = true ∧ ∃ set ≤ since, ⟨set, .send⟩ ∈ run) ∧
    (∀ limit, ((serve shutdown_timeout).state run).serving =
        .returned (.error (.shutdownTimeout limit)) →
      ((serve shutdown_timeout).state run).flag = true ∧
        TimedOut shutdown_timeout run limit) ∧
    (∀ before time, run = before ++ [⟨time, .wake .interrupt⟩] →
      ((serve shutdown_timeout).state before).handler .interrupt = .failed →
      ¬ Signalled before → ((serve shutdown_timeout).state before).serving = .running →
        (serve shutdown_timeout).Run (run ++ [⟨time, .send⟩]) ∧
          ((serve shutdown_timeout).state (run ++ [⟨time, .send⟩])).flag = true ∧
          ¬ Signalled (run ++ [⟨time, .send⟩])) := by
  have hsignalled : ¬ WokenUnasked shutdown_timeout run →
      (((serve shutdown_timeout).state run).flag = true → Signalled run) ∧
      (((serve shutdown_timeout).state run).graceful = .begun → Signalled run) := by
    intro hasked
    refine ⟨fun hflag => signalled_of_flag hrun hasked hflag, fun hbegun => ?_⟩
    exact signalled_of_flag hrun hasked (flag_of_begun hrun hbegun)
  refine ⟨hsignalled, fun hinstalled => hsignalled (not_wokenUnasked hrun hinstalled),
    (timed_run hrun).counting, ?_, ?_⟩
  · intro limit hlimit
    obtain ⟨htimedOut, hflag⟩ := (returned_run hrun).timedOut limit hlimit
    exact ⟨hflag, htimedOut⟩
  · rintro before time rfl - hunsignalled hrunning
    exact flag_of_wokenUnasked hrun hunsignalled hrunning

/-- Ctrl+C arrives, a connection stays open, and the limit of twenty seconds passes. -/
def interruptedRun : List Event := [
  ⟨0, .bind (.ok ())⟩,
  ⟨0, .install .interrupt true⟩,
  ⟨0, .install .terminate true⟩,
  ⟨10 ^ 9, .deliver .interrupt⟩,
  ⟨10 ^ 9, .wake .interrupt⟩,
  ⟨10 ^ 9, .send⟩,
  ⟨10 ^ 9, .startDeadline⟩,
  ⟨10 ^ 9, .beginGraceful⟩,
  ⟨10 ^ 9, .close⟩,
  ⟨21 * 10 ^ 9, .elapse⟩]

theorem shutdown_after_signal_interruptedRun :
    Signalled interruptedRun ∧ TimedOut (20 * 10 ^ 9) interruptedRun (20 * 10 ^ 9) := by
  have hrun : (serve (20 * 10 ^ 9)).Run interruptedRun := by decide
  have hinstalled : ¬ Happened interruptedRun (.install .interrupt false) := by
    rintro ⟨time, hmem⟩
    simp [interruptedRun] at hmem
  obtain ⟨-, hsignalled, -, htimedOut, -⟩ := shutdown_after_signal _ _ hrun
  exact ⟨(hsignalled hinstalled).1 (by decide), (htimedOut _ (by decide)).2⟩

/-- The Ctrl+C handler cannot be installed, and nobody sends a signal. -/
def unaskedRun : List Event := [
  ⟨0, .bind (.ok ())⟩,
  ⟨0, .install .interrupt false⟩,
  ⟨0, .wake .interrupt⟩,
  ⟨0, .send⟩,
  ⟨0, .beginGraceful⟩]

/-- It shuts down all the same. -/
theorem shutdown_unasked :
    (serve (20 * 10 ^ 9)).Run unaskedRun ∧
      ((serve (20 * 10 ^ 9)).state unaskedRun).flag = true ∧
      ((serve (20 * 10 ^ 9)).state unaskedRun).graceful = .begun ∧
      ¬ Signalled unaskedRun := by
  refine ⟨by decide, by decide, by decide, ?_⟩
  rintro ⟨signal, time, hmem⟩
  simp [unaskedRun] at hmem

end WikiNext.Server.Shutdown
