import Mathlib.Logic.Equiv.Prod
import WikiNext.Foundation.Interleaving

/-!
# Joined scripts

A task that joins two futures makes the calls of both in some order and goes on
when both are through. If each works on a part of the state of its own, the
order makes no difference to it alone; next to others, each may be verified by
itself.

§1 scripts on a part of the state, §2 joined scripts, §3 on terms, §4 parties in
surroundings.
-/

namespace WikiNext.Foundation

variable {σ τ ρ α β ε : Type}

/-! ## §1  Scripts on a part of the state -/

namespace Script

/-- On the first part. -/
def first : Script τ α → Script (τ × ρ) α
  | done a => done a
  | step update next => step (fun s => (update s.1, s.2)) fun s => (next s.1).first

/-- On the second part. -/
def second : Script ρ α → Script (τ × ρ) α
  | done a => done a
  | step update next => step (fun s => (s.1, update s.2)) fun s => (next s.2).second

theorem run_first (p : Script τ α) (s : τ × ρ) :
    (p.first).run s = ((p.run s.1).1, (p.run s.1).2, s.2) := by
  induction p generalizing s with
  | done a => rfl
  | step update next ih => exact ih s.1 _

theorem run_second (p : Script ρ α) (s : τ × ρ) :
    (p.second).run s = ((p.run s.2).1, s.1, (p.run s.2).2) := by
  induction p generalizing s with
  | done a => rfl
  | step update next ih => exact ih s.2 _

/-! ## §2  Joined scripts -/

/-- One after the other. -/
def inTurn (p : Script σ α) (q : Script σ β) : Script σ (α × β) := do
  let a ← p
  let b ← q
  return (a, b)

/-- Both scripts. `order` says whether the first makes the next call; where it says
nothing, or names a script that is through, the first goes before the second. -/
def join : (order : List Bool) → Script σ α → Script σ β → Script σ (α × β)
  | true :: order, step update next, q => step update fun s => join order (next s) q
  | false :: order, p, step update next => step update fun s => join order p (next s)
  | _, p, q => inTurn p q

/-- Both scripts, each on its part. -/
def both (order : List Bool) (p : Script τ α) (q : Script ρ β) : Script (τ × ρ) (α × β) :=
  join order p.first q.second

/-- **The order makes no difference**: each ends as it does alone. -/
theorem run_both (order : List Bool) (p : Script τ α) (q : Script ρ β) (s : τ × ρ) :
    (both order p q).run s = (((p.run s.1).1, (q.run s.2).1), (p.run s.1).2, (q.run s.2).2) := by
  have hturn : ∀ (p : Script τ α) (q : Script ρ β) s, (inTurn p.first q.second).run s =
      (((p.run s.1).1, (q.run s.2).1), (p.run s.1).2, (q.run s.2).2) := by
    intro p q s
    simp only [inTurn, run_bind, run_first, run_second]
    rfl
  induction order generalizing p q s with
  | nil => exact hturn p q s
  | cons goes order ih =>
      cases goes with
      | true =>
          cases p with
          | done a => exact hturn (done a) q s
          | step update next => exact ih (next s.1) q (update s.1, s.2)
      | false =>
          cases q with
          | done b => exact hturn p (done b) s
          | step update next => exact ih p (next s.2) (s.1, update s.2)

end Script

namespace Steps

/-- A call that only looks. -/
def ask (f : σ → Except ε α) : Steps ε σ α := ExceptT.mk (.step id fun s => .done (f s))

/-- Wait for what cannot fail. -/
def await (p : Script σ α) : Steps ε σ α := ExceptT.mk (p >>= fun a => .done (.ok a))

def first (p : Steps ε τ α) : Steps ε (τ × ρ) α := ExceptT.mk (Script.first p.run)

def second (p : Steps ε ρ α) : Steps ε (τ × ρ) α := ExceptT.mk (Script.second p.run)

theorem outcome_alone_ask (f : σ → Except ε α) (s : σ) : outcome (ask f).alone s = (f s, s) :=
  outcome_alone _ s

theorem outcome_alone_await (p : Script σ α) (s : σ) :
    outcome (await p : Steps ε σ α).alone s = (.ok (p.run s).1, (p.run s).2) := by
  rw [outcome_alone, await, ExceptT.run_mk, Script.run_bind, Script.run]

/-- Alone, the script finds `f` of the state, and leaves the state as it is. -/
def Looks (p : Steps ε σ α) (f : σ → Except ε α) : Prop := ∀ s, outcome p.alone s = (f s, s)

theorem looks_ask (f : σ → Except ε α) : (ask f).Looks f := outcome_alone_ask f

theorem looks_ofExcept (r : Except ε α) :
    (MonadExcept.ofExcept r : Steps ε σ α).Looks fun _ => r := by
  intro s
  rw [alone_ofExcept]
  cases r <;> rfl

theorem Looks.bind {p : Steps ε σ α} {f : σ → Except ε α} {q : α → Steps ε σ β}
    {g : α → σ → Except ε β} (hp : p.Looks f) (hq : ∀ a, (q a).Looks (g a)) :
    (p >>= q).Looks fun s => f s >>= fun a => g a s := by
  intro s
  rw [alone_bind, outcome_bind, hp s]
  show _ = (f s >>= fun a => g a s, s)
  cases f s with
  | error e => rfl
  | ok a => exact hq a s

theorem Looks.ite {c : Prop} [Decidable c] {p q : Steps ε σ α} {f g : σ → Except ε α}
    (hp : p.Looks f) (hq : q.Looks g) :
    (if c then p else q).Looks fun s => if c then f s else g s := by
  split
  · exact hp
  · exact hq

theorem outcome_alone_first (p : Steps ε τ α) (s : τ × ρ) :
    outcome (first p).alone s = ((outcome p.alone s.1).1, (outcome p.alone s.1).2, s.2) := by
  rw [outcome_alone, outcome_alone]
  exact Script.run_first p.run s

theorem outcome_alone_second (p : Steps ε ρ α) (s : τ × ρ) :
    outcome (second p).alone s = ((outcome p.alone s.2).1, s.1, (outcome p.alone s.2).2) := by
  rw [outcome_alone, outcome_alone]
  exact Script.run_second p.run s

end Steps

/-! ## §3  On terms -/

/-- What holds goes on holding while the others move. -/
def Terms.Stable (terms : Terms σ) (P : σ → Prop) : Prop := ∀ s t, terms.rely s t → P s → P t

/-- Nobody has to move. -/
structure Terms.Idle (terms : Terms σ) : Prop where
  refl : ∀ s, terms.rely s s
  trans : ∀ s t u, terms.rely s t → terms.rely t u → terms.rely s u
  still : ∀ s, terms.guarantee s s

/-- Terms for each part. -/
def Terms.prod (terms : Terms τ) (terms' : Terms ρ) : Terms (τ × ρ) where
  rely s t := terms.rely s.1 t.1 ∧ terms'.rely s.2 t.2
  guarantee s t := terms.guarantee s.1 t.1 ∧ terms'.guarantee s.2 t.2

/-- Terms of a part that is only looked at, and goes through these states. -/
def Terms.watching (P : σ → Prop) : Terms σ where
  rely s t := P s → P t
  guarantee s t := t = s

/-- The script is safe, also once the others have moved. -/
def Script.Lasting (terms : Terms σ) (Q : α → σ → Prop) (p : Script σ α) (s : σ) : Prop :=
  ∀ t, terms.rely s t → p.Safe terms Q t

section Rules

variable {terms : Terms τ} {terms' : Terms ρ} {Q : α → τ → Prop} {Q' : β → ρ → Prop}
  {p : Script τ α} {q : Script ρ β}

theorem Terms.Idle.prod (h : terms.Idle) (h' : terms'.Idle) : (terms.prod terms').Idle where
  refl _ := ⟨h.refl _, h'.refl _⟩
  trans _ _ _ hst htu := ⟨h.trans _ _ _ hst.1 htu.1, h'.trans _ _ _ hst.2 htu.2⟩
  still _ := ⟨h.still _, h'.still _⟩

theorem Terms.idle_watching (P : τ → Prop) : (Terms.watching P).Idle where
  refl _ := id
  trans _ _ _ hst htu := htu ∘ hst
  still _ := rfl

theorem Terms.stable_const (P : Prop) : terms.Stable fun _ => P := fun _ _ _ hp => hp

theorem Terms.stable_watching (P : τ → Prop) : (Terms.watching P).Stable P :=
  fun _ _ hrely hp => hrely hp

theorem Terms.Stable.and {P P' : τ → Prop} (h : terms.Stable P) (h' : terms.Stable P') :
    terms.Stable fun s => P s ∧ P' s :=
  fun s t hrely hs => ⟨h s t hrely hs.1, h' s t hrely hs.2⟩

theorem Terms.Stable.prod {P : τ → Prop} {P' : ρ → Prop} (h : terms.Stable P)
    (h' : terms'.Stable P') : (terms.prod terms').Stable fun s => P s.1 ∧ P' s.2 :=
  fun s t hrely hs => ⟨h s.1 t.1 hrely.1 hs.1, h' s.2 t.2 hrely.2 hs.2⟩

/-- A result and what it says wait for others. -/
theorem Terms.Stable.ends {E : ε → τ → Prop} (hQ : ∀ a, terms.Stable (Q a))
    (hE : ∀ e, terms.Stable (E e)) (r : Except ε α) : terms.Stable (Ends Q E r) := by
  cases r with
  | ok a => exact hQ a
  | error e => exact hE e

theorem Script.Lasting.stable (h : terms.Idle) : terms.Stable (p.Lasting terms Q) :=
  fun _ _ hst hp u htu => hp u (h.trans _ _ u hst htu)

theorem Script.Lasting.safe (h : terms.Idle) {s : τ} (hp : p.Lasting terms Q s) :
    p.Safe terms Q s :=
  hp s (h.refl s)

/-- The frame: what is known of the other part stays known. -/
theorem Script.Safe.first {R : ρ → Prop} (hstill : ∀ r, terms'.guarantee r r)
    (hR : terms'.Stable R) {s : τ × ρ} (h : p.Safe terms Q s.1) (hr : R s.2) :
    p.first.Safe (terms.prod terms') (fun a t => Q a t.1 ∧ R t.2) s := by
  induction p generalizing s with
  | done a => exact ⟨h, hr⟩
  | step update next ih =>
      refine ⟨⟨h.1, hstill s.2⟩, ?_⟩
      rintro t ⟨ht, ht'⟩
      exact ih s.1 (h.2 t.1 ht) (hR _ _ ht' hr)

theorem Script.Safe.second {R : τ → Prop} (hstill : ∀ t, terms.guarantee t t)
    (hR : terms.Stable R) {s : τ × ρ} (h : q.Safe terms' Q' s.2) (hr : R s.1) :
    q.second.Safe (terms.prod terms') (fun b t => R t.1 ∧ Q' b t.2) s := by
  induction q generalizing s with
  | done b => exact ⟨hr, h⟩
  | step update next ih =>
      refine ⟨⟨hstill s.1, h.1⟩, ?_⟩
      rintro t ⟨ht, ht'⟩
      exact ih s.2 (h.2 t.2 ht') (hR _ _ ht hr)

/-- **Joined scripts are safe if each is**, in any order of their calls. -/
theorem Script.Safe.both (h : terms.Idle) (h' : terms'.Idle) (hQ : ∀ a, terms.Stable (Q a))
    (order : List Bool) {s : τ × ρ} (hp : p.Lasting terms Q s.1) (hq : q.Lasting terms' Q' s.2) :
    (Script.both order p q).Safe (terms.prod terms') (fun c t => Q c.1 t.1 ∧ Q' c.2 t.2) s := by
  have hturn : ∀ (p : Script τ α) (q : Script ρ β) s, p.Lasting terms Q s.1 →
      q.Lasting terms' Q' s.2 → (Script.inTurn p.first q.second).Safe (terms.prod terms')
        (fun c t => Q c.1 t.1 ∧ Q' c.2 t.2) s := by
    intro p q s hp hq
    -- the second waits while the first goes, then the result of the first is kept
    refine Script.Safe.bind (((hp.safe h).first h'.still (Script.Lasting.stable h') hq).mono ?_)
    rintro a t ⟨ha, hq⟩
    exact Script.Safe.bind ((hq.safe h').second h.still (hQ a) ha)
  induction order generalizing p q s with
  | nil => exact hturn p q s hp hq
  | cons goes order ih =>
      cases goes with
      | true =>
          cases p with
          | done a => exact hturn (.done a) q s hp hq
          | step update next =>
              obtain ⟨hguarantee, hnext⟩ := hp.safe h
              refine ⟨⟨hguarantee, h'.still s.2⟩, ?_⟩
              rintro t ⟨ht, ht'⟩
              exact ih (Script.Lasting.stable h _ _ ht hnext) (Script.Lasting.stable h' _ _ ht' hq)
      | false =>
          cases q with
          | done b => exact hturn p (.done b) s hp hq
          | step update next =>
              obtain ⟨hguarantee, hnext⟩ := hq.safe h'
              refine ⟨⟨h.still s.1, hguarantee⟩, ?_⟩
              rintro t ⟨ht, ht'⟩
              exact ih (Script.Lasting.stable h _ _ ht hp) (Script.Lasting.stable h' _ _ ht' hnext)

theorem Script.Lasting.both (h : terms.Idle) (h' : terms'.Idle) (hQ : ∀ a, terms.Stable (Q a))
    (order : List Bool) {s : τ × ρ} (hp : p.Lasting terms Q s.1) (hq : q.Lasting terms' Q' s.2) :
    (Script.both order p q).Lasting (terms.prod terms')
      (fun c t => Q c.1 t.1 ∧ Q' c.2 t.2) s :=
  fun _ ht => .both h h' hQ order (stable h _ _ ht.1 hp) (stable h' _ _ ht.2 hq)

end Rules

section Calls

variable {terms : Terms σ} {terms' : Terms ρ} {Q : α → σ → Prop} {E : ε → σ → Prop} {s : σ}

theorem under_ask {f : σ → Except ε α} (hstill : ∀ s, terms.guarantee s s)
    (hok : ∀ a t, f s = .ok a → terms.rely s t → Q a t)
    (herror : ∀ e t, f s = .error e → terms.rely s t → E e t) : Under terms (.ask f) Q E s := by
  refine ⟨hstill s, fun t ht => ?_⟩
  show Ends Q E (f s) t
  cases hf : f s with
  | ok a => exact hok a t hf ht
  | error e => exact herror e t hf ht

theorem under_await {p : Script σ α} (h : p.Safe terms Q s) :
    Under terms (.await p : Steps ε σ α) Q E s :=
  Script.Safe.bind h

end Calls

/-! ## §4  Parties in surroundings -/

variable {ι S C E κ : Type} [DecidableEq ι]

/-- The parties side by side, and events around them that change the shared state. -/
def Joint.within (view : σ ≃ S × κ) (around : System S E) (own : ι → κ)
    (left : ι → Script σ α) : System (Joint ι S κ σ α) (ι ⊕ E) where
  start := ⟨around.start, own, left⟩
  enabled s
    | .inl i => (s.left i).result = none
    | .inr event => around.enabled s.shared event
  next s
    | .inl i => s.move view i
    | .inr event => { s with shared := around.next s.shared event }

namespace Joint

variable {view : σ ≃ S × κ} {around : System S E} {own : ι → κ} {left : ι → Script σ α}
  {s : Joint ι S κ σ α} {i : ι}

theorem exists_step_within (h : (within view around own left).enabled s (.inl i)) :
    ∃ update next, s.left i = .step update next := by
  have henabled : (system view s).enabled s i := h
  exact exists_step_of_enabled henabled

/-- The calls of parties alone. -/
theorem path_calls (view : σ ≃ S × κ) (around : System S E) (own : ι → κ)
    (left : ι → Script σ α) (start : Joint ι S κ σ α) (calls : List ι) (s : Joint ι S κ σ α) :
    ((within view around own left).Path s (calls.map .inl) ↔ (system view start).Path s calls) ∧
      (calls.map Sum.inl).foldl (within view around own left).next s =
        calls.foldl (system view start).next s := by
  induction calls generalizing s with
  | nil => exact ⟨Iff.rfl, rfl⟩
  | cons i calls ih =>
      exact ⟨and_congr_right fun _ => (ih (s.move view i)).1, (ih (s.move view i)).2⟩

/-- **A party can always be carried to its end**, by its own calls alone. -/
theorem within_finishes (view : σ ≃ S × κ) (around : System S E) (own : ι → κ)
    (left : ι → Script σ α) (s : Joint ι S κ σ α) (i : ι) :
    ∃ n, (within view around own left).Path s (List.replicate n (.inl i)) ∧
      let t := (List.replicate n (.inl i)).foldl (within view around own left).next s
      t.left i = .done ((s.left i).run (s.seen view i)).1 ∧
        t.seen view i = ((s.left i).run (s.seen view i)).2 := by
  obtain ⟨n, hpath, hdone, hseen⟩ := finishes view s s i
  obtain ⟨hiff, hstate⟩ := path_calls view around own left s (List.replicate n i) s
  rw [List.map_replicate] at hiff hstate
  refine ⟨n, hiff.mpr hpath, ?_⟩
  rw [hstate]
  exact ⟨hdone, hseen⟩

theorem move_of_ne {j : ι} (hij : i ≠ j) :
    (s.move view j).left i = s.left i ∧ (s.move view j).own i = s.own i := by
  rw [move]
  cases s.left j with
  | done a => exact ⟨rfl, rfl⟩
  | step update next => simp [hij]

/-- A party that has made no call is where it began. -/
theorem unmoved {events : List (ι ⊕ E)} (h : .inl i ∉ events) :
    let t := events.foldl (within view around own left).next s
    t.left i = s.left i ∧ t.own i = s.own i := by
  induction events generalizing s with
  | nil => exact ⟨rfl, rfl⟩
  | cons event events ih =>
      obtain ⟨hne, hrest⟩ := not_or.mp (List.mem_cons.not.mp h)
      obtain ⟨hleft, hown⟩ := ih (s := (within view around own left).next s event) hrest
      cases event with
      | inr event => exact ⟨hleft, hown⟩
      | inl j =>
          have hij : i ≠ j := fun heq => hne (heq ▸ rfl)
          have hsame : (s.move view j).left i = s.left i ∧ (s.move view j).own i = s.own i :=
            move_of_ne hij
          exact ⟨hleft.trans hsame.1, hown.trans hsame.2⟩

/-- A shared part that no party changes, next to what the parties work on. -/
def beside (view : σ ≃ S × κ) : C × σ ≃ (C × S) × κ :=
  ((Equiv.refl C).prodCongr view).trans (Equiv.prodAssoc C S κ).symm

end Joint

namespace Agreement

open Joint

variable {view : σ ≃ S × κ} {terms : ι → Terms σ} {Q : ι → α → σ → Prop} {around : System S E}
  {own : ι → κ} {left : ι → Script σ α} {s : Joint ι S κ σ α} {events : List (ι ⊕ E)}

omit [DecidableEq ι] in
theorem beside {common : Terms C} (hcommon : common.Idle)
    (hpromised : ∀ c c', common.guarantee c c' → common.rely c c') (h : Agreement view terms) :
    Agreement (Joint.beside view) fun i => common.prod (terms i) where
  refl i s := ⟨hcommon.refl s.1, h.refl i s.2⟩
  trans i _ _ _ hst htu := ⟨hcommon.trans _ _ _ hst.1 htu.1, h.trans i hst.2 htu.2⟩
  promised i j hij s s' own hguarantee :=
    ⟨hpromised _ _ hguarantee.1, h.promised i j hij s.2 s'.2 own hguarantee.2⟩

/-- **Parties that agree stay safe in surroundings** that they can count on. -/
theorem within_safe (h : Agreement view terms)
    (hrelied : ∀ i c event own, around.enabled c event →
      (terms i).rely (view.symm (c, own)) (view.symm (around.next c event, own)))
    (hs : s.Safe view terms Q) (hpath : (within view around own left).Path s events) :
    (events.foldl (within view around own left).next s).Safe view terms Q := by
  induction events generalizing s with
  | nil => exact hs
  | cons event events ih =>
      refine ih ?_ hpath.2
      cases event with
      | inl i =>
          obtain ⟨update, next, hleft⟩ := exists_step_within hpath.1
          exact h.move hs hleft
      | inr event => exact fun i t ht => hs i t (h.trans i (hrelied i _ event _ hpath.1) ht)

/-- A party that makes no call sees what it counts on. -/
theorem within_relied (h : Agreement view terms)
    (hrelied : ∀ i c event own, around.enabled c event →
      (terms i).rely (view.symm (c, own)) (view.symm (around.next c event, own)))
    (hs : s.Safe view terms Q) (hpath : (within view around own left).Path s events) {i : ι}
    (hi : .inl i ∉ events) :
    (terms i).rely (s.seen view i)
      ((events.foldl (within view around own left).next s).seen view i) := by
  induction events generalizing s with
  | nil => exact h.refl i _
  | cons event events ih =>
      obtain ⟨hne, hrest⟩ := not_or.mp (List.mem_cons.not.mp hi)
      have hnext := h.within_safe hrelied hs
        (show (within view around own left).Path s [event] from ⟨hpath.1, trivial⟩)
      refine h.trans i ?_ (ih hnext hpath.2 hrest)
      cases event with
      | inr event => exact hrelied i _ event _ hpath.1
      | inl j =>
          have hij : i ≠ j := fun heq => hne (heq ▸ rfl)
          obtain ⟨update, next, hleft⟩ := exists_step_within hpath.1
          have hmoved := hs j _ (h.refl j _)
          rw [hleft] at hmoved
          have hothers := h.promised j i hij _ _ (s.own i) hmoved.1
          rw [seen, Equiv.apply_symm_apply] at hothers
          show (terms i).rely (s.seen view i) ((s.move view j).seen view i)
          rw [seen_move_of_ne hleft hij]
          exact hothers

/-- What parties and surroundings keep of the shared state. -/
theorem within_kept (h : Agreement view terms)
    (hrelied : ∀ i c event own, around.enabled c event →
      (terms i).rely (view.symm (c, own)) (view.symm (around.next c event, own)))
    {I : S → Prop} (hkept : ∀ i s s', (terms i).guarantee s s' → I (view s).1 → I (view s').1)
    (haround : ∀ c event, around.enabled c event → I c → I (around.next c event))
    (hs : s.Safe view terms Q) (hshared : I s.shared)
    (hpath : (within view around own left).Path s events) :
    I (events.foldl (within view around own left).next s).shared := by
  induction events generalizing s with
  | nil => exact hshared
  | cons event events ih =>
      have hnext := h.within_safe hrelied hs
        (show (within view around own left).Path s [event] from ⟨hpath.1, trivial⟩)
      refine ih hnext ?_ hpath.2
      cases event with
      | inl i =>
          obtain ⟨update, next, hleft⟩ := exists_step_within hpath.1
          exact h.move_kept hs hleft hkept hshared
      | inr event => exact haround _ event hpath.1 hshared

end Agreement

end WikiNext.Foundation
