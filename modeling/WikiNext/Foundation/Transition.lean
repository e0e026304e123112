import Mathlib.Algebra.Group.Nat.Defs
import Mathlib.Data.List.Induction

/-!
# Transition systems

A system has a start, and events that are enabled in some states and change
them. A run is the list of its events: each is enabled in the state the events
before it lead to. What holds of all runs is proved event by event.
-/

namespace WikiNext.Foundation

/-- A moment of a monotone clock, in nanoseconds. -/
abbrev Instant : Type := Nat

variable {σ ℓ : Type*}

structure System (σ ℓ : Type*) where
  start : σ
  enabled : σ → ℓ → Prop
  next : σ → ℓ → σ

namespace System

variable (M : System σ ℓ)

/-- From `s` on, each event is enabled where it happens. -/
def Path : σ → List ℓ → Prop
  | _, [] => True
  | s, event :: events => M.enabled s event ∧ Path (M.next s event) events

instance decidablePath [∀ s event, Decidable (M.enabled s event)] :
    ∀ s events, Decidable (M.Path s events)
  | _, [] => .isTrue trivial
  | s, event :: events =>
      have := decidablePath (M.next s event) events
      inferInstanceAs (Decidable (M.enabled s event ∧ M.Path (M.next s event) events))

/-- Each event is enabled where it happens, from the start on. -/
def Run (run : List ℓ) : Prop := M.Path M.start run

instance [∀ s event, Decidable (M.enabled s event)] (run : List ℓ) : Decidable (M.Run run) :=
  inferInstanceAs (Decidable (M.Path M.start run))

/-- The state a run leads to. -/
def state (run : List ℓ) : σ := run.foldl M.next M.start

@[simp] theorem state_nil : M.state [] = M.start := rfl

@[simp] theorem state_snoc (run : List ℓ) (event : ℓ) :
    M.state (run ++ [event]) = M.next (M.state run) event := by
  simp [state, List.foldl_append]

theorem state_append (run events : List ℓ) :
    M.state (run ++ events) = events.foldl M.next (M.state run) :=
  List.foldl_append

variable {M}

theorem path_append {events events' : List ℓ} :
    ∀ {s}, M.Path s (events ++ events') ↔
      M.Path s events ∧ M.Path (events.foldl M.next s) events' := by
  induction events with
  | nil =>
      intro s
      simp [Path]
  | cons event events ih =>
      intro s
      simp only [List.cons_append, Path, List.foldl_cons, ih, and_assoc]

/-- A path in a system with the same steps, whose events are all enabled there too. -/
theorem Path.imp {N : System σ ℓ} (hnext : N.next = M.next) {events : List ℓ}
    (henabled : ∀ before event after s, events = before ++ event :: after →
      M.enabled s event → N.enabled s event) :
    ∀ {s}, M.Path s events → N.Path s events := by
  induction events with
  | nil => exact fun _ => trivial
  | cons event events ih =>
      intro s h
      refine ⟨henabled [] event events s rfl h.1, ?_⟩
      rw [hnext]
      refine ih ?_ h.2
      rintro before other after t rfl
      exact henabled (event :: before) other after t rfl

/-- A run goes on by an event that is enabled at its end. -/
theorem run_snoc_iff {run : List ℓ} {event : ℓ} :
    M.Run (run ++ [event]) ↔ M.Run run ∧ M.enabled (M.state run) event := by
  simp only [Run, path_append, Path, and_true, state]

/-- A run goes on by a path from its end. -/
theorem run_append_iff {run events : List ℓ} :
    M.Run (run ++ events) ↔ M.Run run ∧ M.Path (M.state run) events :=
  path_append

theorem Run.before {run rest : List ℓ} (h : M.Run (run ++ rest)) : M.Run run :=
  (path_append.mp h).1

/-- What `view` shows at some moment of the stretch `after` that follows `before`. -/
def During (M : System σ ℓ) {α : Type*} (view : σ → α) (before after : List ℓ) (a : α) : Prop :=
  ∃ middle, middle <+: after ∧ view (M.state (before ++ middle)) = a

theorem During.start {α : Type*} {view : σ → α} {before after : List ℓ} :
    M.During view before after (view (M.state before)) :=
  ⟨[], List.nil_prefix, by rw [List.append_nil]⟩

/-- An event in the middle of a run. -/
theorem Run.at_event {before after : List ℓ} {event : ℓ} (h : M.Run (before ++ event :: after)) :
    M.Run before ∧ M.enabled (M.state before) event := by
  rw [List.append_cons] at h
  exact run_snoc_iff.mp h.before

/-- **The invariant rule.** -/
theorem Run.invariant {I : List ℓ → σ → Prop} (hstart : I [] M.start)
    (hstep : ∀ run event, M.Run run → I run (M.state run) → M.enabled (M.state run) event →
      I (run ++ [event]) (M.next (M.state run) event))
    {run : List ℓ} (h : M.Run run) : I run (M.state run) := by
  induction run using List.reverseRecOn with
  | nil => exact hstart
  | append_singleton run event ih =>
      obtain ⟨hrun, henabled⟩ := run_snoc_iff.mp h
      rw [state_snoc]
      exact hstep run event hrun (ih hrun) henabled

/-- **The progress rule.** What every event of a run keeps related is related
over any stretch of it. -/
theorem Run.related {R : σ → σ → Prop} (hrefl : ∀ s, R s s)
    (htrans : ∀ {s t u}, R s t → R t u → R s u)
    (hstep : ∀ run event, M.Run run → M.enabled (M.state run) event →
      R (M.state run) (M.next (M.state run) event))
    {before after : List ℓ} (h : M.Run (before ++ after)) :
    R (M.state before) (M.state (before ++ after)) := by
  induction after using List.reverseRecOn with
  | nil =>
      rw [List.append_nil]
      exact hrefl _
  | append_singleton after event ih =>
      rw [← List.append_assoc] at h ⊢
      obtain ⟨hrun, henabled⟩ := run_snoc_iff.mp h
      rw [state_snoc]
      exact htrans (ih hrun) (hstep _ event hrun henabled)

end System

end WikiNext.Foundation
