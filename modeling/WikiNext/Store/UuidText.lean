import Mathlib.Data.List.Basic
import WikiNext.Foundation.Headers
import WikiNext.Store.Storage

/-!
# The text of a UUID

The hyphenated form names probe files and requests. Different UUIDs have
different texts, and a text can stand in a header.
-/

namespace WikiNext.Store

open WikiNext.Foundation WikiNext.Core

/-- `Uuid::to_string` -/
def uuidText (uuid : Uuid) : String := String.ofList (hyphenated uuid)

theorem digitChar_hex : ∀ digit < 16, Nat.digitChar digit ≠ '-' ∧
    32 ≤ (Nat.digitChar digit).toNat ∧ (Nat.digitChar digit).toNat < 127 := by
  decide

theorem digitChar_injective : ∀ digit < 16, ∀ digit' < 16,
    Nat.digitChar digit = Nat.digitChar digit' → digit = digit' := by
  decide

/-- Numbers with the same digits up to a width agree up to that width. -/
theorem mod_pow_eq_of_digits {base n m width : Nat}
    (h : ∀ i < width, n / base ^ i % base = m / base ^ i % base) :
    n % base ^ width = m % base ^ width := by
  induction width with
  | zero => simp [Nat.mod_one]
  | succ width ih =>
      rw [Nat.mod_pow_succ, Nat.mod_pow_succ, ih fun i hi => h i (Nat.lt_succ_of_lt hi),
        h width (Nat.lt_succ_self width)]

variable {u v : Uuid} {c : Char}

theorem mem_hyphenated (h : c ∈ hyphenated u) :
    c = '-' ∨ ∃ digit < 16, c = Nat.digitChar digit := by
  obtain ⟨i, -, hmem⟩ := List.mem_flatMap.mp h
  rcases List.mem_append.mp hmem with hhyphen | hdigit
  · split at hhyphen
    · exact Or.inl (List.mem_singleton.mp hhyphen)
    · cases hhyphen
  · exact Or.inr ⟨_, Nat.mod_lt _ (by decide), List.mem_singleton.mp hdigit⟩

/-- The digits without the hyphens. -/
theorem filter_hyphenated : (hyphenated u).filter (· ≠ '-') =
    (List.range 32).map fun i => Nat.digitChar (u.val / 16 ^ (31 - i) % 16) := by
  rw [hyphenated, List.filter_flatMap, List.map_eq_flatMap]
  refine congrArg (fun f => List.flatMap f (List.range 32)) ?_
  funext i
  have hdigit := (digitChar_hex (u.val / 16 ^ (31 - i) % 16) (Nat.mod_lt _ (by decide))).1
  rw [List.filter_append]
  split <;> simp [hdigit]

theorem uuidText_injective : Function.Injective uuidText := by
  intro u v h
  have hdigits := congrArg (List.filter (· ≠ '-')) (String.ofList_injective h)
  rw [filter_hyphenated, filter_hyphenated, List.map_inj_left] at hdigits
  have hsame : u.val % 16 ^ 32 = v.val % 16 ^ 32 := by
    refine mod_pow_eq_of_digits fun i hi => ?_
    have hchar := hdigits (31 - i) (List.mem_range.mpr (by omega))
    rw [Nat.sub_sub_self (by omega : i ≤ 31)] at hchar
    exact digitChar_injective _ (Nat.mod_lt _ (by decide)) _ (Nat.mod_lt _ (by decide)) hchar
  have hbound : ∀ w : Uuid, w.val % 16 ^ 32 = w.val := by
    intro w
    exact Nat.mod_eq_of_lt (w.isLt.trans_eq (by decide))
  rw [hbound, hbound] at hsame
  exact Fin.ext hsame

theorem visibleText_uuidText : visibleText (uuidText u) = true := by
  rw [visibleText, uuidText, String.toList_ofList, List.all_eq_true]
  intro c hc
  rw [Bool.and_eq_true, decide_eq_true_eq, decide_eq_true_eq]
  rcases mem_hyphenated hc with rfl | ⟨digit, hdigit, rfl⟩
  · decide
  · exact (digitChar_hex digit hdigit).2

end WikiNext.Store
