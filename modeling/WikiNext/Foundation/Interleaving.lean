import Mathlib.Logic.Equiv.Defs
import Mathlib.Logic.Function.Basic
import WikiNext.Foundation.Effect
import WikiNext.Foundation.Transition

/-!
# Interleaved programs

A `Script` is a program cut at its calls. Alone it runs through; next to others
it makes one call at a time, and between two of its calls the others may have
changed what they share. What a party counts on and what it promises are its
`Terms`; if the promises of all others imply what each one counts on, a program
may be verified by itself.

§1 scripts, §2 scripts that may fail, §3 a script alone, §4 a script on terms,
§5 parties, §6 parties that agree.
-/

namespace WikiNext.Foundation

variable {σ α β ε ε' : Type}

/-! ## §1  Scripts -/

/-- A program in calls: each updates the state, and what it read decides how the
program goes on. -/
inductive Script (σ α : Type) where
  | done (result : α)
  | step (update : σ → σ) (next : σ → Script σ α)

namespace Script

def bind : Script σ α → (α → Script σ β) → Script σ β
  | done a, f => f a
  | step update next, f => step update fun s => (next s).bind f

instance : Monad (Script σ) where
  pure := done
  bind := bind

/-- The result, if no call is left. -/
def result : Script σ α → Option α
  | done a => some a
  | step _ _ => none

/-- All calls in one go. -/
def run : Script σ α → σ → α × σ
  | done a, s => (a, s)
  | step update next, s => (next s).run (update s)

/-- At most so many calls; no result if the program is not through then. -/
def cut : Nat → Script σ α → Script σ (Option α)
  | _, done a => done (some a)
  | 0, step _ _ => done none
  | n + 1, step update next => step update fun s => (next s).cut n

theorem run_bind (p : Script σ α) (f : α → Script σ β) (s : σ) :
    (p >>= f).run s = (f (p.run s).1).run (p.run s).2 := by
  induction p generalizing s with
  | done a => rfl
  | step update next ih => exact ih s (update s)

end Script

/-! ## §2  Scripts that may fail -/

abbrev Steps (ε σ α : Type) : Type := ExceptT ε (Script σ) α

namespace Steps

/-- A program that is one call. -/
def call (m : EStateM ε σ α) : Steps ε σ α :=
  ExceptT.mk (.step (fun s => (outcome m s).2) fun s => .done (outcome m s).1)

/-- Turn an error into a value. -/
def attempt (p : Steps ε' σ α) : Steps ε σ (Except ε' α) :=
  ExceptT.mk (p.run >>= fun r => .done (.ok r))

/-- `.map_err(f)?` -/
def mapErr (f : ε' → ε) (p : Steps ε' σ α) : Steps ε σ α :=
  ExceptT.mk (p.run >>= fun r => .done (r.mapError f))

/-- `timeout(..)`: a program that is dropped after so many calls, if it is not
through then. -/
def within (deadline : Option Nat) (late : ε) (p : Steps ε σ α) : Steps ε σ α :=
  match deadline with
  | none => p
  | some n => ExceptT.mk (p.run.cut n >>= fun r => .done (r.getD (.error late)))

/-! ## §3  A script alone -/

/-- The program without anybody in between. -/
def alone (p : Steps ε σ α) : EStateM ε σ α := fun s =>
  match Script.run p.run s with
  | (.ok a, s') => .ok a s'
  | (.error e, s') => .error e s'

theorem outcome_alone (p : Steps ε σ α) (s : σ) : outcome p.alone s = Script.run p.run s := by
  simp only [outcome, alone]
  rcases p.run.run s with ⟨a | e, s'⟩ <;> rfl

theorem alone_pure (a : α) : (pure a : Steps ε σ α).alone = pure a := rfl

theorem alone_throw (e : ε) : (throw e : Steps ε σ α).alone = throw e := rfl

theorem alone_bind (p : Steps ε σ α) (f : α → Steps ε σ β) :
    (p >>= f).alone = p.alone >>= fun a => (f a).alone := by
  funext s
  have hrun : Script.run (p >>= f).run s = _ :=
    Script.run_bind p.run (ExceptT.bindCont f) s
  simp only [alone, bind, EStateM.bind] at hrun ⊢
  rw [hrun]
  rcases p.run.run s with ⟨a | e, s'⟩ <;> rfl

theorem alone_call (m : EStateM ε σ α) : (call m).alone = m := by
  funext s
  show (match outcome m s with | (.ok a, s') => _ | (.error e, s') => _) = m s
  rw [outcome]
  cases m s <;> rfl

theorem alone_attempt (p : Steps ε' σ α) :
    (attempt p : Steps ε σ (Except ε' α)).alone = Foundation.attempt p.alone := by
  funext s
  simp only [alone, attempt, Foundation.attempt, ExceptT.run_mk, Script.run_bind, Script.run]
  rcases p.run.run s with ⟨a | e, s'⟩ <;> rfl

theorem alone_mapErr (f : ε' → ε) (p : Steps ε' σ α) :
    (mapErr f p).alone = Foundation.mapErr f p.alone := by
  funext s
  simp only [alone, mapErr, Foundation.mapErr, ExceptT.run_mk, Script.run_bind, Script.run]
  rcases p.run.run s with ⟨a | e, s'⟩ <;> rfl

theorem alone_ofExcept (r : Except ε α) :
    (MonadExcept.ofExcept r : Steps ε σ α).alone = MonadExcept.ofExcept r := by
  cases r <;> rfl

end Steps

/-! ## §4  A script on terms -/

/-- What a party counts on while it does not move, and what it promises of each
of its calls. -/
structure Terms (σ : Type) where
  rely : σ → σ → Prop
  guarantee : σ → σ → Prop

variable {terms : Terms σ}

/-- From `s` every call is within the guarantee, and the script ends in `Q`,
whatever the others do between the calls within what the party counts on. -/
def Script.Safe (terms : Terms σ) (Q : α → σ → Prop) : Script σ α → σ → Prop
  | .done a, s => Q a s
  | .step update next, s =>
      terms.guarantee s (update s) ∧
        ∀ t, terms.rely (update s) t → Script.Safe terms Q (next s) t

theorem Script.Safe.bind {Q : β → σ → Prop} {p : Script σ α} {f : α → Script σ β} {s : σ}
    (h : p.Safe terms (fun a t => (f a).Safe terms Q t) s) : (p >>= f).Safe terms Q s := by
  induction p generalizing s with
  | done a => exact h
  | step update next ih => exact ⟨h.1, fun t ht => ih s (h.2 t ht)⟩

theorem Script.Safe.mono {Q Q' : α → σ → Prop} {p : Script σ α} {s : σ} (h : p.Safe terms Q s)
    (hQ : ∀ a t, Q a t → Q' a t) : p.Safe terms Q' s := by
  induction p generalizing s with
  | done a => exact hQ a s h
  | step update next ih => exact ⟨h.1, fun t ht => ih s (h.2 t ht)⟩

/-- Consequence: a script that keeps `I` is safe on other terms if, where `I` holds, these
let the others do less and the script do more. -/
theorem Script.Safe.conseq {terms' : Terms σ} {I : σ → Prop} {Q : α → σ → Prop} {p : Script σ α}
    {s : σ} (h : p.Safe terms Q s) (hs : I s)
    (hrely : ∀ s t, I s → terms'.rely s t → terms.rely s t ∧ I t)
    (hguarantee : ∀ s t, I s → terms.guarantee s t → terms'.guarantee s t ∧ I t) :
    p.Safe terms' (fun a t => Q a t ∧ I t) s := by
  induction p generalizing s with
  | done a => exact ⟨h, hs⟩
  | step update next ih =>
      obtain ⟨hcall, hnext⟩ := hguarantee _ _ hs h.1
      refine ⟨hcall, fun t ht => ?_⟩
      obtain ⟨hothers, hkept⟩ := hrely _ _ hnext ht
      exact ih s (h.2 t hothers) hkept

/-- A script that is cut off somewhere. -/
theorem Script.Safe.cut {Q : α → σ → Prop} {p : Script σ α} {s : σ} (h : p.Safe terms Q s) :
    ∀ n, (p.cut n).Safe terms (fun r t => ∀ a, r = some a → Q a t) s := by
  induction p generalizing s with
  | done a =>
      intro n
      have hdone : ∀ b, some a = some b → Q b s := fun b hb => Option.some.inj hb ▸ h
      cases n <;> exact hdone
  | step update next ih =>
      intro n
      cases n with
      | zero => exact fun a ha => absurd ha.symm (Option.some_ne_none a)
      | succ n => exact ⟨h.1, fun t ht => ih s (h.2 t ht) n⟩

/-- Where a script that may fail may end. -/
def Ends (Q : α → σ → Prop) (E : ε → σ → Prop) : Except ε α → σ → Prop
  | .ok a, s => Q a s
  | .error e, s => E e s

/-- `Wp` on terms. -/
def Under (terms : Terms σ) (p : Steps ε σ α) (Q : α → σ → Prop) (E : ε → σ → Prop) (s : σ) :
    Prop :=
  Script.Safe terms (Ends Q E) p.run s

section Rules

variable {Q Q' : α → σ → Prop} {E E' : ε → σ → Prop} {s : σ}

theorem under_pure {a : α} (h : Q a s) : Under terms (pure a : Steps ε σ α) Q E s := h

theorem under_throw {e : ε} (h : E e s) : Under terms (throw e : Steps ε σ α) Q E s := h

theorem under_ofExcept {r : Except ε α} {a : α} (hr : r = .ok a) (h : Q a s) :
    Under terms (MonadExcept.ofExcept r : Steps ε σ α) Q E s := by
  rw [hr]
  exact h

theorem under_bind {p : Steps ε σ β} {f : β → Steps ε σ α}
    (h : Under terms p (fun b t => Under terms (f b) Q E t) E s) :
    Under terms (p >>= f) Q E s := by
  refine Script.Safe.bind (Script.Safe.mono h ?_)
  rintro (e | b) t ht
  · exact ht
  · exact ht

theorem under_mapErr {f : ε' → ε} {p : Steps ε' σ α}
    (h : Under terms p Q (fun e t => E (f e) t) s) : Under terms (.mapErr f p) Q E s := by
  refine Script.Safe.bind (Script.Safe.mono h ?_)
  rintro (e | a) t ht
  · exact ht
  · exact ht

theorem under_attempt {p : Steps ε' σ α} {Q : Except ε' α → σ → Prop}
    (h : Under terms p (fun a => Q (.ok a)) (fun e => Q (.error e)) s) :
    Under terms (.attempt p : Steps ε σ (Except ε' α)) Q E s := by
  refine Script.Safe.bind (Script.Safe.mono h ?_)
  rintro (e | a) t ht
  · exact ht
  · exact ht

theorem under_within {p : Steps ε σ α} {deadline : Option Nat} {late : ε}
    (h : Under terms p Q E s) (hlate : ∀ t, E late t) :
    Under terms (.within deadline late p) Q E s := by
  cases deadline with
  | none => exact h
  | some n =>
      refine Script.Safe.bind (Script.Safe.mono (Script.Safe.cut h n) ?_)
      rintro (_ | r) t ht
      · exact hlate t
      · exact ht r rfl

/-- A call is specified as a program alone; what it leaves must survive the others. -/
theorem under_call {m : EStateM ε σ α}
    (h : Wp m (fun a s' => terms.guarantee s s' ∧ ∀ t, terms.rely s' t → Q a t)
      (fun e s' => terms.guarantee s s' ∧ ∀ t, terms.rely s' t → E e t) s) :
    Under terms (.call m) Q E s := by
  show terms.guarantee s (outcome m s).2 ∧
    ∀ t, terms.rely (outcome m s).2 t → Ends Q E (outcome m s).1 t
  unfold Wp at h
  unfold outcome
  cases hm : m s with
  | ok a s' =>
      rw [hm] at h
      exact h
  | error e s' =>
      rw [hm] at h
      exact h

/-- Consequence: both postconditions may be weakened. -/
theorem Under.mono {p : Steps ε σ α} (h : Under terms p Q E s) (hQ : ∀ a t, Q a t → Q' a t)
    (hE : ∀ e t, E e t → E' e t) : Under terms p Q' E' s := by
  refine Script.Safe.mono h ?_
  rintro (e | a) t ht
  · exact hE e t ht
  · exact hQ a t ht

/-- A specified part, and what comes after it. -/
theorem Under.bind {p : Steps ε σ β} {f : β → Steps ε σ α} {P : β → σ → Prop}
    (h : Under terms p P E s) (hnext : ∀ b t, P b t → Under terms (f b) Q E t) :
    Under terms (p >>= f) Q E s :=
  under_bind (h.mono hnext fun _ _ he => he)

end Rules

/-! ## §5  Parties -/

variable {ι S κ : Type}

/-- Parties with a shared state, each with a state of its own and a script. -/
structure Joint (ι S κ σ α : Type) where
  shared : S
  own : ι → κ
  left : ι → Script σ α

namespace Joint

variable (view : σ ≃ S × κ)

/-- The state that party `i` works on. -/
def seen (s : Joint ι S κ σ α) (i : ι) : σ := view.symm (s.shared, s.own i)

variable [DecidableEq ι]

/-- Party `i` makes its next call. -/
def move (s : Joint ι S κ σ α) (i : ι) : Joint ι S κ σ α :=
  match s.left i with
  | .done _ => s
  | .step update next =>
      let after := view (update (s.seen view i))
      { shared := after.1
        own := Function.update s.own i after.2
        left := Function.update s.left i (next (s.seen view i)) }

/-- The parties side by side: an event is a call of the party it names. -/
def system (start : Joint ι S κ σ α) : System (Joint ι S κ σ α) ι where
  start := start
  enabled s i := (s.left i).result = none
  next := move view

instance (start s : Joint ι S κ σ α) (i : ι) : Decidable ((system view start).enabled s i) :=
  inferInstanceAs (Decidable ((s.left i).result = none))

variable {view} {s : Joint ι S κ σ α} {i j : ι} {update : σ → σ} {next : σ → Script σ α}

theorem seen_move_self (h : s.left i = .step update next) :
    (s.move view i).seen view i = update (s.seen view i) := by
  rw [move, h]
  simp only [seen, Function.update_self]
  exact view.symm_apply_apply _

theorem seen_move_of_ne (h : s.left i = .step update next) (hij : j ≠ i) :
    (s.move view i).seen view j = view.symm ((view (update (s.seen view i))).1, s.own j) := by
  rw [move, h]
  simp [seen, hij]

theorem left_move_self (h : s.left i = .step update next) :
    (s.move view i).left i = next (s.seen view i) := by
  rw [move, h]
  simp

theorem left_move_of_ne (h : s.left i = .step update next) (hij : j ≠ i) :
    (s.move view i).left j = s.left j := by
  rw [move, h]
  simp [hij]

theorem shared_move (h : s.left i = .step update next) :
    (s.move view i).shared = (view (update (s.seen view i))).1 := by
  rw [move, h]

theorem exists_step_of_enabled {start : Joint ι S κ σ α} (h : (system view start).enabled s i) :
    ∃ update next, s.left i = .step update next := by
  have hresult : (s.left i).result = none := h
  cases hleft : s.left i with
  | done a =>
      rw [hleft] at hresult
      cases hresult
  | step update next => exact ⟨update, next, rfl⟩

/-- **A party can always be carried to its end**: by its own calls alone, which then
run as the program does alone. -/
theorem finishes (view : σ ≃ S × κ) (start : Joint ι S κ σ α) (s : Joint ι S κ σ α) (i : ι) :
    ∃ n, (system view start).Path s (List.replicate n i) ∧
      let s' := (List.replicate n i).foldl (system view start).next s
      s'.left i = .done ((s.left i).run (s.seen view i)).1 ∧
        s'.seen view i = ((s.left i).run (s.seen view i)).2 := by
  generalize hleft : s.left i = p
  induction p generalizing s with
  | done a => exact ⟨0, trivial, hleft, rfl⟩
  | step update next ih =>
      obtain ⟨n, hpath, hdone, hseen⟩ := ih (s.seen view i) (s.move view i) (left_move_self hleft)
      rw [seen_move_self hleft] at hdone hseen
      refine ⟨n + 1, ⟨?_, hpath⟩, hdone, hseen⟩
      show (s.left i).result = none
      rw [hleft, Script.result]

end Joint

/-! ## §6  Parties that agree -/

/-- Every party's script is safe, whatever the others have done since its last call. -/
def Joint.Safe (view : σ ≃ S × κ) (terms : ι → Terms σ) (Q : ι → α → σ → Prop)
    (s : Joint ι S κ σ α) : Prop :=
  ∀ i t, (terms i).rely (s.seen view i) t → (s.left i).Safe (terms i) (Q i) t

/-- What one party promises is what the others count on. -/
structure Agreement (view : σ ≃ S × κ) (terms : ι → Terms σ) : Prop where
  refl : ∀ i s, (terms i).rely s s
  trans : ∀ i {s t u}, (terms i).rely s t → (terms i).rely t u → (terms i).rely s u
  promised : ∀ i j, j ≠ i → ∀ s s' own, (terms i).guarantee s s' →
    (terms j).rely (view.symm ((view s).1, own)) (view.symm ((view s').1, own))

namespace Agreement

open Joint

variable {view : σ ≃ S × κ} {terms : ι → Terms σ} {Q : ι → α → σ → Prop}
  {start : Joint ι S κ σ α} {run : List ι}

/-- A party that is through has what its script ends in. -/
theorem ended (h : Agreement view terms) {s : Joint ι S κ σ α} (hs : s.Safe view terms Q) {i : ι}
    {a : α} (hdone : s.left i = .done a) : Q i a (s.seen view i) := by
  have hsafe := hs i _ (h.refl i _)
  rw [hdone] at hsafe
  exact hsafe

variable [DecidableEq ι]

/-- One call leaves everybody safe. -/
theorem move (h : Agreement view terms) {s : Joint ι S κ σ α} {j : ι} {update : σ → σ}
    {next : σ → Script σ α} (hs : s.Safe view terms Q) (hleft : s.left j = .step update next) :
    (s.move view j).Safe view terms Q := by
  intro i t ht
  have hmoved := hs j _ (h.refl j (s.seen view j))
  rw [hleft] at hmoved
  obtain ⟨hguarantee, hnext⟩ := hmoved
  by_cases hij : i = j
  · -- the party that moved
    subst hij
    rw [seen_move_self hleft] at ht
    rw [left_move_self hleft]
    exact hnext t ht
  · rw [seen_move_of_ne hleft hij] at ht
    rw [left_move_of_ne hleft hij]
    have hothers := h.promised j i hij _ _ (s.own i) hguarantee
    rw [seen, Equiv.apply_symm_apply] at hothers
    exact hs i t (h.trans i hothers ht)

/-- What every call keeps of the shared state. -/
theorem move_kept (h : Agreement view terms) {s : Joint ι S κ σ α} {i : ι} {update : σ → σ}
    {next : σ → Script σ α} {I : S → Prop} (hs : s.Safe view terms Q)
    (hleft : s.left i = .step update next)
    (hkept : ∀ i s s', (terms i).guarantee s s' → I (view s).1 → I (view s').1)
    (hshared : I s.shared) : I (s.move view i).shared := by
  have hmoved := hs i _ (h.refl i _)
  rw [hleft] at hmoved
  rw [shared_move hleft]
  refine hkept i _ _ hmoved.1 ?_
  rw [seen, Equiv.apply_symm_apply]
  exact hshared

/-- **Scripts that are safe by themselves are safe together**, after any run. -/
theorem safe (h : Agreement view terms)
    (hstart : ∀ i t, (terms i).rely (start.seen view i) t →
      (start.left i).Safe (terms i) (Q i) t)
    (hrun : (system view start).Run run) :
    ((system view start).state run).Safe view terms Q := by
  refine hrun.invariant (I := fun _ s => s.Safe view terms Q) hstart ?_
  intro run j _ ih henabled
  obtain ⟨update, next, hleft⟩ := exists_step_of_enabled henabled
  exact h.move ih hleft

theorem finished (h : Agreement view terms)
    (hstart : ∀ i t, (terms i).rely (start.seen view i) t →
      (start.left i).Safe (terms i) (Q i) t)
    (hrun : (system view start).Run run) {i : ι} {a : α}
    (hdone : ((system view start).state run).left i = .done a) :
    Q i a (((system view start).state run).seen view i) :=
  h.ended (h.safe hstart hrun) hdone

/-- What every call keeps of the shared state holds after any run. -/
theorem kept (h : Agreement view terms)
    (hstart : ∀ i t, (terms i).rely (start.seen view i) t →
      (start.left i).Safe (terms i) (Q i) t)
    {I : S → Prop} (hshared : I start.shared)
    (hkept : ∀ i s s', (terms i).guarantee s s' → I (view s).1 → I (view s').1)
    (hrun : (system view start).Run run) : I ((system view start).state run).shared := by
  refine hrun.invariant (I := fun _ s => I s.shared) hshared ?_
  intro run i hrun ih henabled
  obtain ⟨update, next, hleft⟩ := exists_step_of_enabled henabled
  exact h.move_kept (h.safe hstart hrun) hleft hkept ih

end Agreement

end WikiNext.Foundation
