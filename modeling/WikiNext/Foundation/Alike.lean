import WikiNext.Foundation.Joining

/-!
# Two runs compared

Two results are alike when both are values or both are errors, related in each
case. Two programs are alike when from related states they end in alike results
and related states. The rules follow the program text, as those of `Wp` do: a
program is taken apart on both sides at once.

§1 results, §2 programs, §3 programs call by call.
-/

namespace WikiNext.Foundation

/-- Nothing is asked. -/
def Whatever {α α' : Type} (_ : α) (_ : α') : Prop := True

/-- The two errors read the same. -/
def SameText {ε ε' : Type} (text : ε → String) (text' : ε' → String) (e : ε) (e' : ε') : Prop :=
  text e = text' e'

theorem SameText.refl {ε : Type} {text : ε → String} (e : ε) : SameText text text e e := rfl

/-! ## §1  Results -/

section Results

variable {ε ε' ε₂ ε₂' α α' β β' : Type}

inductive Alike (E : ε → ε' → Prop) (R : α → α' → Prop) : Except ε α → Except ε' α' → Prop
  | ok {a : α} {a' : α'} (h : R a a') : Alike E R (.ok a) (.ok a')
  | error {e : ε} {e' : ε'} (h : E e e') : Alike E R (.error e) (.error e')

namespace Alike

variable {E : ε → ε' → Prop} {E₂ : ε₂ → ε₂' → Prop} {R : α → α' → Prop} {S : β → β' → Prop}
  {r : Except ε α} {r' : Except ε' α'}

theorem bind {f : α → Except ε β} {f' : α' → Except ε' β'} (h : Alike E R r r')
    (hf : ∀ a a', R a a' → Alike E S (f a) (f' a')) : Alike E S (r >>= f) (r' >>= f') := by
  cases h with
  | ok h => exact hf _ _ h
  | error h => exact .error h

theorem mapError {g : ε → ε₂} {g' : ε' → ε₂'} (h : Alike E R r r')
    (hg : ∀ e e', E e e' → E₂ (g e) (g' e')) : Alike E₂ R (r.mapError g) (r'.mapError g') := by
  cases h with
  | ok h => exact .ok h
  | error h => exact .error (hg _ _ h)

/-- What depends on nothing that differs is the same on both sides. -/
theorem same {E : ε → ε → Prop} {r r' : Except ε α} (h : r = r') (hE : ∀ e, E e e) :
    Alike E Eq r r' := by
  subst h
  cases r with
  | ok a => exact .ok rfl
  | error e => exact .error (hE e)

/-- A step that is the same on both sides. -/
theorem bind_same {E : ε → ε → Prop} (hE : ∀ e, E e e) {r r' : Except ε α} (h : r = r')
    {f : α → Except ε β} {f' : α → Except ε β'} (hf : ∀ a, Alike E S (f a) (f' a)) :
    Alike E S (r >>= f) (r' >>= f') := by
  refine (same h hE).bind ?_
  rintro a _ rfl
  exact hf a

/-- Whatever the errors were, they are replaced by errors that read the same. -/
theorem reported {text : ε₂ → String} {g : ε → ε₂} {g' : ε' → ε₂} (h : Alike Whatever R r r')
    (hg : ∀ e e', text (g e) = text (g' e')) :
    Alike (SameText text text) R (r.mapError g) (r'.mapError g') :=
  h.mapError fun e e' _ => hg e e'

end Alike

end Results

/-! ## §2  Programs -/

section Programs

variable {ε ε' ε₂ ε₂' σ σ' α α' β β' : Type}

inductive AlikeEnds (E : ε → ε' → Prop) (R : α → α' → Prop) (S : σ → σ' → Prop) :
    EStateM.Result ε σ α → EStateM.Result ε' σ' α' → Prop
  | ok {a : α} {a' : α'} {s : σ} {s' : σ'} (h : R a a') (hs : S s s') :
      AlikeEnds E R S (.ok a s) (.ok a' s')
  | error {e : ε} {e' : ε'} {s : σ} {s' : σ'} (h : E e e') (hs : S s s') :
      AlikeEnds E R S (.error e s) (.error e' s')

def AlikeRuns (E : ε → ε' → Prop) (R : α → α' → Prop) (S : σ → σ' → Prop)
    (m : EStateM ε σ α) (m' : EStateM ε' σ' α') : Prop :=
  ∀ s s', S s s' → AlikeEnds E R S (m s) (m' s')

namespace AlikeRuns

variable {E : ε → ε' → Prop} {E₂ : ε₂ → ε₂' → Prop} {R : α → α' → Prop} {Q : β → β' → Prop}
  {S : σ → σ' → Prop} {m : EStateM ε σ α} {m' : EStateM ε' σ' α'}

theorem bind {f : α → EStateM ε σ β} {f' : α' → EStateM ε' σ' β'} (h : AlikeRuns E R S m m')
    (hf : ∀ a a', R a a' → AlikeRuns E Q S (f a) (f' a')) :
    AlikeRuns E Q S (m >>= f) (m' >>= f') := by
  intro s s' hs
  have hends := h s s' hs
  simp only [Bind.bind, EStateM.bind]
  generalize m s = result, m' s' = result' at hends ⊢
  cases hends with
  | ok ha ht => exact hf _ _ ha _ _ ht
  | error he ht => exact .error he ht

theorem pure {a : α} {a' : α'} (h : R a a') :
    AlikeRuns E R S (Pure.pure a : EStateM ε σ α) (Pure.pure a' : EStateM ε' σ' α') :=
  fun _ _ hs => .ok h hs

theorem throw {e : ε} {e' : ε'} (h : E e e') :
    AlikeRuns E R S (throw e : EStateM ε σ α) (throw e' : EStateM ε' σ' α') :=
  fun _ _ hs => .error h hs

theorem modify {f : σ → σ} {f' : σ' → σ'} (h : ∀ s s', S s s' → S (f s) (f' s')) :
    AlikeRuns E Eq S (modify f : EStateM ε σ PUnit) (modify f' : EStateM ε' σ' PUnit) :=
  fun _ _ hs => .ok rfl (h _ _ hs)

theorem ofExcept {r : Except ε α} {r' : Except ε' α'} (h : Alike E R r r') :
    AlikeRuns E R S (MonadExcept.ofExcept r : EStateM ε σ α)
      (MonadExcept.ofExcept r' : EStateM ε' σ' α') := by
  intro s s' hs
  cases h with
  | ok h => exact .ok h hs
  | error h => exact .error h hs

theorem mapErr {g : ε → ε₂} {g' : ε' → ε₂'} (h : AlikeRuns E R S m m')
    (hg : ∀ e e', E e e' → E₂ (g e) (g' e')) :
    AlikeRuns E₂ R S (mapErr g m) (mapErr g' m') := by
  intro s s' hs
  have hends := h s s' hs
  simp only [Foundation.mapErr]
  generalize m s = result, m' s' = result' at hends ⊢
  cases hends with
  | ok ha ht => exact .ok ha ht
  | error he ht => exact .error (hg _ _ he) ht

/-- A program that depends on nothing that differs is the same on both sides. -/
theorem same {E : ε → ε → Prop} {m : EStateM ε σ α} (hE : ∀ e, E e e) :
    AlikeRuns E Eq Eq m m := by
  rintro s _ rfl
  cases m s with
  | ok a t => exact .ok rfl rfl
  | error e t => exact .error (hE e) rfl

end AlikeRuns

end Programs

/-! ## §3  Programs call by call -/

section Calls

variable {ε ε' ε₂ ε₂' σ σ' α α' β β' : Type}

/-- The two make their calls in step. -/
def Script.InStep (S : σ → σ' → Prop) (R : α → α' → Prop) : Script σ α → Script σ' α' → Prop
  | .done a, .done a' => R a a'
  | .step update next, .step update' next' => ∀ s s', S s s' →
      S (update s) (update' s') ∧ Script.InStep S R (next s) (next' s')
  | .done _, .step _ _ => False
  | .step _ _, .done _ => False

namespace Script.InStep

variable {S : σ → σ' → Prop} {R : α → α' → Prop} {Q : β → β' → Prop} {p : Script σ α}
  {p' : Script σ' α'}

theorem bind {f : α → Script σ β} {f' : α' → Script σ' β'} (h : p.InStep S R p')
    (hf : ∀ a a', R a a' → (f a).InStep S Q (f' a')) : (p >>= f).InStep S Q (p' >>= f') := by
  induction p generalizing p' with
  | done a =>
      cases p' with
      | done a' => exact hf a a' h
      | step update' next' => exact h.elim
  | step update next ih =>
      cases p' with
      | done a' => exact h.elim
      | step update' next' => exact fun s s' hs => ⟨(h s s' hs).1, ih s (h s s' hs).2⟩

/-- Both are cut off at once. -/
theorem cut (n : Nat) (h : p.InStep S R p') :
    (p.cut n).InStep S (Option.Rel R) (p'.cut n) := by
  induction p generalizing p' n with
  | done a =>
      cases p' with
      | done a' => cases n <;> exact .some h
      | step update' next' => exact h.elim
  | step update next ih =>
      cases p' with
      | done a' => exact h.elim
      | step update' next' =>
          cases n with
          | zero => exact Option.Rel.none
          | succ n => exact fun s s' hs => ⟨(h s s' hs).1, ih s n (h s s' hs).2⟩

/-- All calls in one go. -/
theorem run (h : p.InStep S R p') {s : σ} {s' : σ'} (hs : S s s') :
    R (p.run s).1 (p'.run s').1 ∧ S (p.run s).2 (p'.run s').2 := by
  induction p generalizing p' s s' with
  | done a =>
      cases p' with
      | done a' => exact ⟨h, hs⟩
      | step update' next' => exact h.elim
  | step update next ih =>
      cases p' with
      | done a' => exact h.elim
      | step update' next' => exact ih s (h s s' hs).2 (h s s' hs).1

end Script.InStep

/-- Both end in a value or both in an error, after calls in step. -/
def AlikeSteps (E : ε → ε' → Prop) (R : α → α' → Prop) (S : σ → σ' → Prop) (p : Steps ε σ α)
    (p' : Steps ε' σ' α') : Prop :=
  Script.InStep S (Alike E R) p.run p'.run

namespace AlikeSteps

variable {E : ε → ε' → Prop} {E₂ : ε₂ → ε₂' → Prop} {R : α → α' → Prop} {Q : β → β' → Prop}
  {S : σ → σ' → Prop} {p : Steps ε σ α} {p' : Steps ε' σ' α'}

theorem pure {a : α} {a' : α'} (h : R a a') :
    AlikeSteps E R S (Pure.pure a : Steps ε σ α) (Pure.pure a' : Steps ε' σ' α') :=
  Alike.ok h

theorem throw {e : ε} {e' : ε'} (h : E e e') :
    AlikeSteps E R S (throw e : Steps ε σ α) (throw e' : Steps ε' σ' α') :=
  Alike.error h

theorem bind {f : α → Steps ε σ β} {f' : α' → Steps ε' σ' β'} (h : AlikeSteps E R S p p')
    (hf : ∀ a a', R a a' → AlikeSteps E Q S (f a) (f' a')) :
    AlikeSteps E Q S (p >>= f) (p' >>= f') := by
  refine Script.InStep.bind h ?_
  intro r r' hr
  cases hr with
  | ok ha => exact hf _ _ ha
  | error he => exact Alike.error he

theorem mapErr {g : ε → ε₂} {g' : ε' → ε₂'} (h : AlikeSteps E R S p p')
    (hg : ∀ e e', E e e' → E₂ (g e) (g' e')) :
    AlikeSteps E₂ R S (.mapErr g p) (.mapErr g' p') :=
  Script.InStep.bind h fun _ _ hr => hr.mapError hg

theorem ask {f : σ → Except ε α} {f' : σ' → Except ε' α'}
    (h : ∀ s s', S s s' → Alike E R (f s) (f' s')) :
    AlikeSteps E R S (.ask f) (.ask f') :=
  fun s s' hs => ⟨hs, h s s' hs⟩

theorem call {m : EStateM ε σ α} {m' : EStateM ε' σ' α'} (h : AlikeRuns E R S m m') :
    AlikeSteps E R S (.call m) (.call m') := by
  intro s s' hs
  have hends := h s s' hs
  simp only [outcome]
  generalize m s = result, m' s' = result' at hends ⊢
  cases hends with
  | ok ha ht => exact ⟨ht, Alike.ok ha⟩
  | error he ht => exact ⟨ht, Alike.error he⟩

theorem within {late : ε} {late' : ε'} (h : AlikeSteps E R S p p') (hlate : E late late')
    (deadline : Option Nat) :
    AlikeSteps E R S (.within deadline late p) (.within deadline late' p') := by
  cases deadline with
  | none => exact h
  | some n =>
      refine Script.InStep.bind (Script.InStep.cut n h) ?_
      rintro _ _ (hr | _)
      · exact hr
      · exact Alike.error hlate

theorem alone (h : AlikeSteps E R S p p') : AlikeRuns E R S p.alone p'.alone := by
  intro s s' hs
  obtain ⟨hresult, hstate⟩ := Script.InStep.run h hs
  simp only [Steps.alone]
  generalize p.run.run s = ended, p'.run.run s' = ended' at hresult hstate ⊢
  obtain ⟨result, t⟩ := ended
  obtain ⟨result', t'⟩ := ended'
  cases hresult with
  | ok ha => exact .ok ha hstate
  | error he => exact .error he hstate

end AlikeSteps

end Calls

end WikiNext.Foundation
