import Mathlib.Data.Finmap
import Mathlib.Data.Finset.Sort
import Mathlib.Order.Bounds.Basic

/-!
# Keyed indexes and first-writer-wins merges

Two accumulator loops over a keyed map, stated over arbitrary types:

- `indexBy` files a list under its keys and stops at the first entry that is
  rejected or repeats a key;
- `firstWins` lets a sequence of bidders claim slots, where a claimed slot is
  never claimed again.

The map is an extensional finite map, so the results do not depend on how an
ordered map lays out its nodes.
-/

namespace WikiNext.Foundation

/-- A map from keys to values: finite, extensional, no repeated key. -/
abbrev KeyMap (K V : Type) : Type := Finmap (fun _ : K => V)

variable {K V A E : Type} [DecidableEq K]

/-! ## §1  Indexing a list by key -/

/-- File every entry under its key. The loop stops at the first entry that
`reject` refuses or whose key has been filed before. -/
def indexBy (key : A → K) (reject : A → Option E) (repeated : A → E) :
    KeyMap K A → List A → Except E (KeyMap K A)
  | index, [] => .ok index
  | index, x :: rest =>
      match reject x with
      | some e => .error e
      | none =>
          if key x ∈ index then .error (repeated x)
          else indexBy key reject repeated (index.insert (key x) x) rest

section IndexBy

variable {key : A → K} {reject : A → Option E} {repeated : A → E}

/-- An entry the loop can file after the keys in `seen`. -/
def Fileable (key : A → K) (reject : A → Option E) (seen : KeyMap K A) (xs : List A) : Prop :=
  (∀ x ∈ xs, reject x = none ∧ key x ∉ seen) ∧ (xs.map key).Nodup

omit [DecidableEq K] in
theorem fileable_nil (seen : KeyMap K A) : Fileable key reject seen [] := by
  simp [Fileable]

theorem fileable_cons {seen : KeyMap K A} {x : A} {xs : List A} :
    Fileable key reject seen (x :: xs) ↔
      (reject x = none ∧ key x ∉ seen) ∧
        Fileable key reject (seen.insert (key x) x) xs := by
  simp only [Fileable, List.forall_mem_cons, List.map_cons, List.nodup_cons, List.mem_map,
    Finmap.mem_insert]
  constructor
  · rintro ⟨⟨hx, hxs⟩, hnot, hnd⟩
    refine ⟨hx, fun y hy => ⟨(hxs y hy).1, ?_⟩, hnd⟩
    rintro (heq | hmem)
    · exact hnot ⟨y, hy, heq⟩
    · exact (hxs y hy).2 hmem
  · rintro ⟨hx, hxs, hnd⟩
    refine ⟨⟨hx, fun y hy => ⟨(hxs y hy).1, fun h => (hxs y hy).2 (Or.inr h)⟩⟩, ?_, hnd⟩
    rintro ⟨y, hy, heq⟩
    exact (hxs y hy).2 (Or.inl heq)

/-- **Acceptance.** The loop succeeds exactly when every entry is fileable. -/
theorem indexBy_isOk_iff : ∀ (xs : List A) (seen : KeyMap K A),
    (∃ index, indexBy key reject repeated seen xs = .ok index) ↔
      Fileable key reject seen xs
  | [], seen => by simp [indexBy, fileable_nil]
  | x :: xs, seen => by
      rw [fileable_cons, indexBy]
      cases hr : reject x with
      | some e => simp
      | none =>
          by_cases hmem : key x ∈ seen
          · simp [hmem]
          · simpa [hmem] using indexBy_isOk_iff xs (seen.insert (key x) x)

/-- **Content.** A successful index answers with the entry filed under the
key, or with what was there before the loop. -/
theorem indexBy_lookup : ∀ {xs : List A} {seen index : KeyMap K A},
    indexBy key reject repeated seen xs = .ok index → ∀ k,
      index.lookup k = (seen.lookup k).or (xs.find? (fun x => decide (key x = k)))
  | [], seen, index, h, k => by
      have heq : seen = index := by simpa [indexBy] using h
      simp [heq]
  | x :: xs, seen, index, h, k => by
      unfold indexBy at h
      cases hr : reject x with
      | some e => simp [hr] at h
      | none =>
          by_cases hmem : key x ∈ seen
          · simp [hr, hmem] at h
          · simp only [hr, if_neg hmem] at h
            rw [indexBy_lookup h k, List.find?_cons]
            by_cases hk : key x = k
            · subst hk
              rw [Finmap.lookup_insert, Finmap.lookup_eq_none.mpr hmem]
              simp
            · rw [Finmap.lookup_insert_of_ne _ (Ne.symm hk)]
              simp [hk]

/-! ### The entry that stops the loop -/

/-- `k` stands at the first `bad` position of `ks`, where `bad` may look at
what comes before a position. -/
def FirstAt (bad : List K → K → Prop) (ks : List K) (k : K) : Prop :=
  ∃ front back, ks = front ++ k :: back ∧ bad front k ∧
    ∀ front' k' back', front = front' ++ k' :: back' → ¬ bad front' k'

omit [DecidableEq K] in
theorem not_firstAt_nil (bad : List K → K → Prop) (k : K) : ¬ FirstAt bad [] k := by
  rintro ⟨front, back, heq, -, -⟩
  simp at heq

omit [DecidableEq K] in
/-- Either the head is bad, or the first bad position lies behind it. -/
theorem firstAt_cons {bad : List K → K → Prop} {x k : K} {ks : List K} :
    FirstAt bad (x :: ks) k ↔
      (bad [] x ∧ k = x) ∨ (¬ bad [] x ∧ FirstAt (fun front => bad (x :: front)) ks k) := by
  constructor
  · rintro ⟨front, back, heq, hbad, hfirst⟩
    cases front with
    | nil =>
        obtain ⟨rfl, -⟩ := List.cons.inj heq
        exact Or.inl ⟨hbad, rfl⟩
    | cons y front =>
        obtain ⟨rfl, rfl⟩ := List.cons.inj heq
        refine Or.inr ⟨hfirst [] x front rfl, front, back, rfl, hbad, ?_⟩
        rintro front' k' back' rfl
        exact hfirst (x :: front') k' back' rfl
  · rintro (⟨hbad, rfl⟩ | ⟨hgood, front, back, rfl, hbad, hfirst⟩)
    · exact ⟨[], ks, rfl, hbad, by simp⟩
    · refine ⟨x :: front, back, rfl, hbad, ?_⟩
      intro front' k' back' heq
      cases front' with
      | nil =>
          obtain ⟨rfl, -⟩ := List.cons.inj heq
          exact hgood
      | cons y front' =>
          obtain ⟨rfl, hrest⟩ := List.cons.inj heq
          exact hfirst front' k' back' hrest

/-- **Refusal.** When entries are judged by their keys, the loop stops at the
first key that is refused, filed before, or repeated, and answers with the
refusal if there is one. -/
theorem indexBy_error_iff (key : A → K) (rejectKey : K → Option E) (repeatedKey : K → E) {e : E} :
    ∀ (xs : List A) (seen : KeyMap K A),
      indexBy key (fun x => rejectKey (key x)) (fun x => repeatedKey (key x)) seen xs = .error e ↔
        ∃ k, FirstAt (fun front k => rejectKey k ≠ none ∨ k ∈ seen ∨ k ∈ front) (xs.map key) k ∧
          e = (rejectKey k).getD (repeatedKey k)
  | [], seen => by simp [indexBy, not_firstAt_nil]
  | x :: xs, seen => by
      rw [indexBy, List.map_cons]
      simp only [firstAt_cons]
      cases hr : rejectKey (key x) with
      | some e' =>
          simp only [Except.error.injEq]
          constructor
          · rintro rfl
            exact ⟨key x, Or.inl ⟨Or.inl (by simp), rfl⟩, by simp [hr]⟩
          · rintro ⟨k, ⟨-, rfl⟩ | ⟨hgood, -⟩, rfl⟩
            · simp [hr]
            · exact absurd (Or.inl (by simp)) hgood
      | none =>
          by_cases hmem : key x ∈ seen
          · simp only [if_pos hmem, Except.error.injEq]
            constructor
            · rintro rfl
              exact ⟨key x, Or.inl ⟨Or.inr (Or.inl hmem), rfl⟩, by simp [hr]⟩
            · rintro ⟨k, ⟨-, rfl⟩ | ⟨hgood, -⟩, rfl⟩
              · simp [hr]
              · exact absurd (Or.inr (Or.inl hmem)) hgood
          · -- filing the head and moving it to the processed keys is the same
            have hbad : (fun front k => rejectKey k ≠ none ∨ k ∈ seen.insert (key x) x ∨ k ∈ front) =
                fun front k => rejectKey k ≠ none ∨ k ∈ seen ∨ k ∈ key x :: front := by
              funext front k
              simp only [Finmap.mem_insert, List.mem_cons]
              exact propext (by tauto)
            simp only [if_neg hmem]
            rw [indexBy_error_iff key rejectKey repeatedKey xs (seen.insert (key x) x), hbad]
            simp [hmem]

end IndexBy

/-- When no key repeats, a key search finds the one entry with the key. -/
theorem find?_key_eq_some_iff {key : A → K} {xs : List A} (hnd : (xs.map key).Nodup)
    {k : K} {x : A} :
    xs.find? (fun y => decide (key y = k)) = some x ↔ x ∈ xs ∧ key x = k := by
  constructor
  · intro h
    exact ⟨List.mem_of_find?_eq_some h, by simpa using List.find?_some h⟩
  · rintro ⟨hx, rfl⟩
    cases hf : xs.find? (fun y => decide (key y = key x)) with
    | none =>
        have := List.find?_eq_none.mp hf x hx
        simp at this
    | some y =>
        have hkey : key y = key x := by simpa using List.find?_some hf
        rw [List.inj_on_of_nodup_map hnd (List.mem_of_find?_eq_some hf) hx hkey]

/-! ## §2  First writer wins -/

/-- `entry(k).or_insert(v)`: claim a free slot, leave a taken one alone. -/
def orInsert (k : K) (v : V) (slots : KeyMap K V) : KeyMap K V :=
  if k ∈ slots then slots else slots.insert k v

theorem lookup_orInsert (k k' : K) (v : V) (slots : KeyMap K V) :
    (orInsert k v slots).lookup k' =
      (slots.lookup k').or (if k' = k then some v else none) := by
  unfold orInsert
  by_cases hk : k' = k
  · subst hk
    by_cases hmem : k' ∈ slots
    · obtain ⟨w, hw⟩ := Finmap.mem_iff.mp hmem
      simp [hmem, hw]
    · simp [hmem, Finmap.lookup_eq_none.mpr hmem, Finmap.lookup_insert]
  · by_cases hmem : k ∈ slots
    · simp [hmem, hk]
    · simp [hmem, hk, Finmap.lookup_insert_of_ne]

/-- One bidder claims every slot it wants. -/
def claim (v : V) (wanted : List K) (slots : KeyMap K V) : KeyMap K V :=
  wanted.foldl (fun slots k => orInsert k v slots) slots

theorem lookup_claim (v : V) (k : K) : ∀ (wanted : List K) (slots : KeyMap K V),
    (claim v wanted slots).lookup k =
      (slots.lookup k).or (if k ∈ wanted then some v else none)
  | [], slots => by simp [claim]
  | k' :: rest, slots => by
      rw [claim, List.foldl_cons, ← claim, lookup_claim v k rest, lookup_orInsert]
      cases slots.lookup k with
      | some w => simp
      | none =>
          by_cases hk : k = k'
          · simp [hk]
          · simp [hk]

/-- Bidders claim slots in turn. -/
def firstWins (wants : V → List K) (bidders : List V) (slots : KeyMap K V) : KeyMap K V :=
  bidders.foldl (fun slots v => claim v (wants v) slots) slots

/-- **First writer wins.** A slot that was free goes to the first bidder in
the sequence that wants it. -/
theorem lookup_firstWins (wants : V → List K) (k : K) :
    ∀ (bidders : List V) (slots : KeyMap K V),
      (firstWins wants bidders slots).lookup k =
        (slots.lookup k).or (bidders.find? (fun v => decide (k ∈ wants v)))
  | [], slots => by simp [firstWins]
  | v :: rest, slots => by
      rw [firstWins, List.foldl_cons, ← firstWins, lookup_firstWins wants k rest, lookup_claim,
        List.find?_cons]
      cases slots.lookup k with
      | some w => simp
      | none =>
          by_cases hk : k ∈ wants v
          · simp [hk]
          · simp [hk]

/-! ## §3  The first of an ascending sequence is the least -/

section Least

variable {L : Type} [LinearOrder L]

/-- The elements of an ordered set in iteration order. By insertion sort, so
that the enumeration of a concrete set evaluates. -/
def ascending (s : Finset L) : List L :=
  Quot.liftOn s.1 (List.insertionSort (· ≤ ·)) fun l l' h =>
    List.Perm.eq_of_pairwise' (r := (· ≤ ·))
      (List.pairwise_insertionSort _ l) (List.pairwise_insertionSort _ l')
      ((List.perm_insertionSort _ l).trans (h.trans (List.perm_insertionSort _ l').symm))

theorem ascending_eq_sort (s : Finset L) : ascending s = s.sort (· ≤ ·) := by
  obtain ⟨⟨l⟩, _⟩ := s
  exact (List.mergeSort_eq_insertionSort (· ≤ ·) l).symm

@[simp] theorem mem_ascending {s : Finset L} {x : L} : x ∈ ascending s ↔ x ∈ s := by
  rw [ascending_eq_sort, Finset.mem_sort]

theorem pairwise_ascending (s : Finset L) : (ascending s).Pairwise (· ≤ ·) := by
  rw [ascending_eq_sort]
  exact s.pairwise_sort (· ≤ ·)

theorem isLeast_of_find?_ascending {s : Finset L} {p : L → Prop} [DecidablePred p] {x : L}
    (h : (ascending s).find? (fun y => decide (p y)) = some x) :
    IsLeast {y | y ∈ s ∧ p y} x := by
  have hp : p x := by simpa using List.find?_some h
  refine ⟨⟨mem_ascending.mp (List.mem_of_find?_eq_some h), hp⟩, ?_⟩
  rintro y ⟨hys, hpy⟩
  obtain ⟨-, pre, post, hsplit, hpre⟩ := List.find?_eq_some_iff_append.mp h
  have hsorted := pairwise_ascending s
  have hmem : y ∈ pre ++ x :: post := hsplit ▸ mem_ascending.mpr hys
  rw [hsplit] at hsorted
  -- nothing before `x` satisfies `p`, so `y` is `x` or comes after it
  rcases List.mem_append.mp hmem with hy | hy
  · exact absurd hpy (by simpa using hpre y hy)
  · rcases List.mem_cons.mp hy with rfl | hy
    · exact le_rfl
    · exact List.rel_of_pairwise_cons (List.pairwise_append.mp hsorted).2.1 hy

theorem find?_ascending_eq_some_iff (s : Finset L) (p : L → Prop) [DecidablePred p] (x : L) :
    (ascending s).find? (fun y => decide (p y)) = some x ↔ IsLeast {y | y ∈ s ∧ p y} x := by
  constructor
  · exact isLeast_of_find?_ascending
  · rintro hx
    cases hf : (ascending s).find? (fun y => decide (p y)) with
    | none =>
        have := List.find?_eq_none.mp hf x (mem_ascending.mpr hx.1.1)
        exact absurd hx.1.2 (by simpa using this)
    | some z => rw [(isLeast_of_find?_ascending hf).unique hx]

theorem find?_ascending_eq_none_iff (s : Finset L) (p : L → Prop) [DecidablePred p] :
    (ascending s).find? (fun y => decide (p y)) = none ↔ ∀ y ∈ s, ¬ p y := by
  simp [List.find?_eq_none]

end Least

end WikiNext.Foundation
