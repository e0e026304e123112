/-!
# Weakest preconditions for fallible stateful programs

A program in `EStateM ε σ` ends in a value or in an error, and in a state
either way. `Wp m Q E s` says where it may end when it starts in `s`: in a
value and a state that satisfy `Q`, or in an error and a state that satisfy
`E`. The rules follow the program text; a specification of a part is used
through `Wp.mono`.
-/

namespace WikiNext.Foundation

variable {ε ε' σ α β : Type}

/-- From `s`, every value ends in `Q` and every error ends in `E`. -/
def Wp (m : EStateM ε σ α) (Q : α → σ → Prop) (E : ε → σ → Prop) (s : σ) : Prop :=
  match m s with
  | .ok a s' => Q a s'
  | .error e s' => E e s'

/-- The error a run ends in. -/
def errorOf (m : EStateM ε σ α) (s : σ) : Option ε :=
  match m s with
  | .ok _ _ => none
  | .error e _ => some e

/-- What a run ends in, and the state it leaves. -/
def outcome (m : EStateM ε σ α) (s : σ) : Except ε α × σ :=
  match m s with
  | .ok a s' => (.ok a, s')
  | .error e s' => (.error e, s')

/-- Turn an error into a value, as in `match f().await { Ok(..) => .., Err(..) => .. }`. -/
def attempt (m : EStateM ε' σ α) : EStateM ε σ (Except ε' α) := fun s =>
  match m s with
  | .ok a s' => .ok (.ok a) s'
  | .error e s' => .ok (.error e) s'

/-- `.map_err(f)?` -/
def mapErr (f : ε' → ε) (m : EStateM ε' σ α) : EStateM ε σ α := fun s =>
  match m s with
  | .ok a s' => .ok a s'
  | .error e s' => .error (f e) s'

section Rules

variable {Q : α → σ → Prop} {E : ε → σ → Prop} {s : σ}

@[simp] theorem wp_pure (a : α) : Wp (pure a : EStateM ε σ α) Q E s ↔ Q a s := Iff.rfl

@[simp] theorem wp_throw (e : ε) : Wp (throw e : EStateM ε σ α) Q E s ↔ E e s := Iff.rfl

@[simp] theorem wp_get {Q : σ → σ → Prop} : Wp (get : EStateM ε σ σ) Q E s ↔ Q s s := Iff.rfl

@[simp] theorem wp_set {Q : PUnit → σ → Prop} (s' : σ) :
    Wp (set s' : EStateM ε σ PUnit) Q E s ↔ Q ⟨⟩ s' := Iff.rfl

@[simp] theorem wp_bind (m : EStateM ε σ β) (f : β → EStateM ε σ α) :
    Wp (m >>= f) Q E s ↔ Wp m (fun b s' => Wp (f b) Q E s') E s := by
  simp only [Wp, bind, EStateM.bind]
  cases m s <;> rfl

@[simp] theorem wp_mapErr (f : ε' → ε) (m : EStateM ε' σ α) :
    Wp (mapErr f m) Q E s ↔ Wp m Q (fun e s' => E (f e) s') s := by
  simp only [Wp, mapErr]
  cases m s <;> rfl

@[simp] theorem wp_attempt (m : EStateM ε' σ α) {Q : Except ε' α → σ → Prop} :
    Wp (attempt m) Q E s ↔ Wp m (fun a => Q (.ok a)) (fun e => Q (.error e)) s := by
  simp only [Wp, attempt]
  cases m s <;> rfl

/-- `r?` for a result that is already there. -/
theorem wp_ofExcept {r : Except ε α} (hok : ∀ a, r = .ok a → Q a s)
    (herror : ∀ e, r = .error e → E e s) : Wp (ofExcept r) Q E s := by
  cases r with
  | ok a => exact hok a rfl
  | error e => exact herror e rfl

/-- Consequence: both postconditions may be weakened. -/
theorem Wp.mono {m : EStateM ε σ α} {Q Q' : α → σ → Prop} {E E' : ε → σ → Prop}
    (h : Wp m Q E s) (hQ : ∀ a s', Q a s' → Q' a s') (hE : ∀ e s', E e s' → E' e s') :
    Wp m Q' E' s := by
  revert h
  simp only [Wp]
  cases m s with
  | ok a s' => exact hQ a s'
  | error e s' => exact hE e s'

theorem Wp.of_ok {m : EStateM ε σ α} {a : α} {s' : σ} (h : Wp m Q E s) (hm : m s = .ok a s') :
    Q a s' := by
  simpa only [Wp, hm] using h

theorem Wp.of_error {m : EStateM ε σ α} {e : ε} {s' : σ} (h : Wp m Q E s)
    (hm : m s = .error e s') : E e s' := by
  simpa only [Wp, hm] using h

/-- A program whose errors are excluded returns. -/
theorem Wp.returns {m : EStateM ε σ α} (h : Wp m Q (fun _ _ => False) s) :
    ∃ a s', m s = .ok a s' ∧ Q a s' := by
  simp only [Wp] at h
  cases hm : m s with
  | ok a s' =>
      rw [hm] at h
      exact ⟨a, s', rfl, h⟩
  | error e s' =>
      rw [hm] at h
      exact h.elim

end Rules

/-! ## Exact runs -/

section Runs

variable {s s' : σ}

theorem bind_run_of_ok {m : EStateM ε σ α} {f : α → EStateM ε σ β} {a : α} (h : m s = .ok a s') :
    (m >>= f) s = f a s' := by
  simp only [bind, EStateM.bind, h]

theorem bind_run_of_error {m : EStateM ε σ α} {f : α → EStateM ε σ β} {e : ε}
    (h : m s = .error e s') : (m >>= f) s = .error e s' := by
  simp only [bind, EStateM.bind, h]

theorem get_bind_run (f : σ → EStateM ε σ α) (s : σ) : (get >>= f) s = f s s := rfl

theorem mapErr_run_of_ok {f : ε' → ε} {m : EStateM ε' σ α} {a : α} (h : m s = .ok a s') :
    mapErr f m s = .ok a s' := by
  simp only [mapErr, h]

theorem mapErr_run_of_error {f : ε' → ε} {m : EStateM ε' σ α} {e : ε'} (h : m s = .error e s') :
    mapErr f m s = .error (f e) s' := by
  simp only [mapErr, h]

theorem bind_run_ok_iff {m : EStateM ε σ α} {f : α → EStateM ε σ β} {b : β} :
    (m >>= f) s = .ok b s' ↔ ∃ a t, m s = .ok a t ∧ f a t = .ok b s' := by
  simp only [bind, EStateM.bind]
  cases m s with
  | ok a t =>
      constructor
      · intro h
        exact ⟨a, t, rfl, h⟩
      · rintro ⟨_, _, ⟨⟩, h⟩
        exact h
  | error e t =>
      constructor
      · intro h
        cases h
      · rintro ⟨_, _, h, -⟩
        cases h

theorem pure_run_ok_iff {a b : α} :
    (pure a : EStateM ε σ α) s = .ok b s' ↔ b = a ∧ s' = s := by
  simp [pure, EStateM.pure, eq_comm]

theorem ofExcept_run_ok_iff {r : Except ε α} {a : α} :
    (MonadExcept.ofExcept r : EStateM ε σ α) s = .ok a s' ↔ r = .ok a ∧ s' = s := by
  cases r with
  | ok b =>
      show EStateM.Result.ok b s = .ok a s' ↔ _
      simp [eq_comm]
  | error e =>
      show EStateM.Result.error e s = .ok a s' ↔ _
      simp

theorem attempt_run_ok_iff {m : EStateM ε' σ α} {r : Except ε' α} :
    (attempt m : EStateM ε σ (Except ε' α)) s = .ok r s' ↔ outcome m s = (r, s') := by
  simp only [attempt, outcome]
  cases m s <;> simp

theorem outcome_eq_ok_iff {m : EStateM ε σ α} {a : α} :
    outcome m s = (.ok a, s') ↔ m s = .ok a s' := by
  simp only [outcome]
  cases m s <;> simp

theorem outcome_of_ok {m : EStateM ε σ α} {a : α} (h : m s = .ok a s') :
    outcome m s = (.ok a, s') :=
  outcome_eq_ok_iff.mpr h

theorem outcome_bind (m : EStateM ε σ β) (f : β → EStateM ε σ α) (s : σ) :
    outcome (m >>= f) s =
      match outcome m s with
      | (.ok b, s') => outcome (f b) s'
      | (.error e, s') => (.error e, s') := by
  simp only [outcome, bind, EStateM.bind]
  cases m s <;> rfl

theorem outcome_pure (a : α) (s : σ) : outcome (pure a : EStateM ε σ α) s = (.ok a, s) := rfl

theorem outcome_ofExcept (r : Except ε α) (s : σ) :
    outcome (MonadExcept.ofExcept r : EStateM ε σ α) s = (r, s) := by
  cases r <;> rfl

theorem outcome_attempt (m : EStateM ε' σ α) (s : σ) :
    outcome (attempt m : EStateM ε σ (Except ε' α)) s = (.ok (outcome m s).1, (outcome m s).2) := by
  simp only [outcome, attempt]
  cases m s <;> rfl

theorem outcome_mapErr (f : ε' → ε) (m : EStateM ε' σ α) (s : σ) :
    outcome (mapErr f m) s = ((outcome m s).1.mapError f, (outcome m s).2) := by
  simp only [outcome, mapErr]
  cases m s <;> rfl

/-- Whether a run succeeds can be read off its outcome. -/
theorem exists_outcome_ok_iff {m : EStateM ε σ α} :
    (∃ a, (outcome m s).1 = .ok a) ↔ ∃ a s', m s = .ok a s' := by
  simp only [outcome]
  cases m s <;> simp

end Runs

end WikiNext.Foundation
