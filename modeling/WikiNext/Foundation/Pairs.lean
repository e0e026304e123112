import Mathlib.Data.List.Basic

/-!
# Two readers of one list of pairs

An ordered list of named values can be read in two ways. One reader asks for a
name and takes the *first* pair that carries it. The other folds every pair
into a record from left to right, so that the *last* pair with a name wins.
Checks written against the first reader bind the second one only as far as the
two agree.
-/

namespace WikiNext.Foundation

variable {K V : Type} [DecidableEq K]

/-- The value of the first pair named `k`. -/
def firstValue (k : K) : List (K × V) → Option V
  | [] => none
  | (k', v) :: rest => if k' = k then some v else firstValue k rest

/-- The value of the last pair named `k`. -/
def lastValue (k : K) : List (K × V) → Option V
  | [] => none
  | (k', v) :: rest => (lastValue k rest).or (if k' = k then some v else none)

theorem lastValue_isSome_iff (k : K) : ∀ pairs : List (K × V),
    (lastValue k pairs).isSome = (firstValue k pairs).isSome
  | [] => rfl
  | (k', v) :: rest => by
      by_cases hk : k' = k
      · simp [lastValue, firstValue, hk]
      · simp [lastValue, firstValue, hk, lastValue_isSome_iff k rest]

/-- Where a name occurs at most once the readers agree. -/
theorem lastValue_eq_firstValue (k : K) : ∀ {pairs : List (K × V)},
    (pairs.map Prod.fst).Nodup → lastValue k pairs = firstValue k pairs
  | [], _ => rfl
  | (k', v) :: rest, hnd => by
      rw [List.map_cons, List.nodup_cons] at hnd
      by_cases hk : k' = k
      · have hrest : firstValue k rest = none := by
          rw [← Option.not_isSome_iff_eq_none]
          intro hsome
          exact hnd.1 (hk ▸ mem_of_firstValue_isSome hsome)
        rw [lastValue, firstValue, lastValue_eq_firstValue k hnd.2, hrest]
        simp [hk]
      · rw [lastValue, firstValue, lastValue_eq_firstValue k hnd.2]
        simp [hk]
where
  mem_of_firstValue_isSome {k : K} : ∀ {pairs : List (K × V)},
      (firstValue k pairs).isSome = true → k ∈ pairs.map Prod.fst
    | (k', v) :: rest, h => by
        by_cases hk : k' = k
        · simp [hk]
        · simp only [firstValue, if_neg hk] at h
          exact List.mem_cons_of_mem _ (mem_of_firstValue_isSome h)

/-- **The last pair wins.** In a left-to-right fold, a field that only the
name `k` writes ends with what the last pair named `k` decodes to, and keeps
its initial value when no pair has the name. -/
theorem foldlM_lastValue {S W E : Type} {step : S → K × V → Except E S} {field : S → W}
    {decode : V → Option W} {k : K}
    (hit : ∀ s v s', step s (k, v) = .ok s' → decode v = some (field s'))
    (miss : ∀ s k' v s', k' ≠ k → step s (k', v) = .ok s' → field s' = field s) :
    ∀ {pairs : List (K × V)} {s out : S}, pairs.foldlM step s = .ok out →
      some (field out) = ((lastValue k pairs).map decode).getD (some (field s))
  | [], s, out, h => by
      have heq : s = out := by simpa [pure, Except.pure] using h
      simp [lastValue, heq]
  | (k', v) :: rest, s, out, h => by
      rw [List.foldlM_cons] at h
      cases hs : step s (k', v) with
      | error e => simp [hs, bind, Except.bind] at h
      | ok s' =>
          have hrest : rest.foldlM step s' = .ok out := by
            simpa [hs, bind, Except.bind] using h
          rw [foldlM_lastValue hit miss hrest, lastValue]
          cases lastValue k rest with
          | some w => simp
          | none =>
              by_cases hk : k' = k
              · subst hk
                simp [hit s v s' hs]
              · simp [hk, miss s k' v s' hk hs]

end WikiNext.Foundation
