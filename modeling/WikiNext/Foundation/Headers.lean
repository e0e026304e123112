import Mathlib.Data.List.Basic
import Mathlib.Data.UInt

/-!
# Header maps

Names in lower case, values as bytes, several values under one name.

§1 names and values, §2 maps.
-/

namespace WikiNext.Foundation

/-! ## §1  Names and values -/

theorem isUpper_toLower (c : Char) : c.toLower.isUpper = false := by
  unfold Char.toLower Char.isUpper
  split
  · rename_i h
    have hupper : 65 ≤ c.toNat ∧ c.toNat ≤ 90 :=
      ⟨UInt32.le_iff_toNat_le.mp h.1, UInt32.le_iff_toNat_le.mp h.2⟩
    simp [UInt32.le_iff_toNat_le, UInt32.toNat_add]
    omega
  · rename_i h
    simpa using h

/-- Names are kept in lower case, so that equal names are equal. -/
structure HeaderName where
  text : String
  lower : text.toList.all (fun c => !c.isUpper) = true
deriving DecidableEq

/-- The name that a request line spells in any case. -/
def HeaderName.ofSpelling (spelling : String) : HeaderName where
  text := String.ofList (spelling.toList.map Char.toLower)
  lower := by
    rw [String.toList_ofList, List.all_map, List.all_eq_true]
    intro c _
    rw [Function.comp_apply, isUpper_toLower, Bool.not_false]

structure HeaderValue where
  bytes : List UInt8
deriving DecidableEq

/-- Visible ASCII, the blank and the tab. -/
def visible (byte : UInt8) : Bool := (32 ≤ byte && byte < 127) || byte == 9

/-- Text of visible ASCII characters. -/
def visibleText (text : String) : Bool :=
  text.toList.all fun c => 32 ≤ c.toNat && c.toNat < 127

namespace HeaderValue

def ofText (text : String) : HeaderValue := ⟨text.toList.map fun c => UInt8.ofNat c.toNat⟩

/-- `HeaderValue::to_str` -/
def toStr (value : HeaderValue) : Option String :=
  if value.bytes.all visible then
    some (String.ofList (value.bytes.map fun byte => Char.ofNat byte.toNat))
  else none

theorem toStr_ofText {text : String} (h : visibleText text = true) :
    (ofText text).toStr = some text := by
  have hchar : ∀ c ∈ text.toList, 32 ≤ c.toNat ∧ c.toNat < 127 := by
    simpa [visibleText, List.all_eq_true] using h
  have hvisible : (ofText text).bytes.all visible = true := by
    simp only [ofText, List.all_map, List.all_eq_true, Function.comp_apply, visible,
      Bool.or_eq_true, Bool.and_eq_true, decide_eq_true_eq]
    intro c hc
    obtain ⟨hlow, hhigh⟩ := hchar c hc
    refine Or.inl ⟨?_, ?_⟩
    · rw [UInt8.le_iff_toNat_le, UInt8.toNat_ofNat']
      simp
      omega
    · rw [UInt8.lt_iff_toNat_lt, UInt8.toNat_ofNat']
      simp
      omega
  have hback : (ofText text).bytes.map (fun byte => Char.ofNat byte.toNat) = text.toList := by
    simp only [ofText, List.map_map]
    refine (List.map_congr_left ?_).trans (List.map_id _)
    intro c hc
    obtain ⟨-, hhigh⟩ := hchar c hc
    have hsmall : c.toNat % 2 ^ 8 = c.toNat := Nat.mod_eq_of_lt (by omega)
    simp only [Function.comp_apply, UInt8.toNat_ofNat', hsmall, id_eq]
    exact Char.ofNat_toNat c
  rw [toStr, if_pos hvisible, hback, String.ofList_toList]

end HeaderValue

/-! ## §2  Maps -/

/-- In the order of insertion. -/
abbrev HeaderMap : Type := List (HeaderName × HeaderValue)

namespace HeaderMap

/-- The first value under a name. -/
def get (headers : HeaderMap) (name : HeaderName) : Option HeaderValue :=
  (headers.find? fun entry => entry.1 = name).map Prod.snd

def contains (headers : HeaderMap) (name : HeaderName) : Bool :=
  headers.any fun entry => entry.1 = name

/-- All values under the name go. -/
def remove (headers : HeaderMap) (name : HeaderName) : HeaderMap :=
  headers.filter fun entry => entry.1 ≠ name

/-- The value replaces all others under its name. -/
def insert (headers : HeaderMap) (name : HeaderName) (value : HeaderValue) : HeaderMap :=
  headers.remove name ++ [(name, value)]

def insertIfAbsent (headers : HeaderMap) (name : HeaderName) (value : HeaderValue) : HeaderMap :=
  if headers.contains name then headers else headers.insert name value

variable {headers : HeaderMap} {name other : HeaderName} {value : HeaderValue}

theorem contains_iff : headers.contains name = true ↔ ∃ value, headers.get name = some value := by
  simp only [contains, get, List.any_eq_true, Option.map_eq_some_iff]
  constructor
  · rintro ⟨entry, hmem, hname⟩
    have hsome : (headers.find? fun entry => entry.1 = name).isSome := by
      rw [List.find?_isSome]
      exact ⟨entry, hmem, hname⟩
    obtain ⟨found, hfound⟩ := Option.isSome_iff_exists.mp hsome
    exact ⟨found.2, found, hfound, rfl⟩
  · rintro ⟨-, found, hfound, -⟩
    have hname := List.find?_some hfound
    exact ⟨found, List.mem_of_find?_eq_some hfound, hname⟩

theorem get_eq_none_iff : headers.get name = none ↔ headers.contains name = false := by
  rw [← Bool.not_eq_true, contains_iff, not_exists, Option.eq_none_iff_forall_ne_some]

@[simp] theorem contains_remove_self : (headers.remove name).contains name = false := by
  simp [contains, remove]

@[simp] theorem get_remove_self : (headers.remove name).get name = none :=
  get_eq_none_iff.mpr contains_remove_self

theorem get_remove_of_ne (h : other ≠ name) :
    (headers.remove name).get other = headers.get other := by
  simp only [get, remove, List.find?_filter]
  congr 2
  funext entry
  by_cases hentry : entry.1 = other
  · simp [hentry, h]
  · simp [hentry]

theorem get_append {headers headers' : HeaderMap} :
    get (headers ++ headers') name = (headers.get name).or (headers'.get name) := by
  simp only [get, List.find?_append]
  cases headers.find? fun entry => entry.1 = name <;> rfl

@[simp] theorem get_insert_self : (headers.insert name value).get name = some value := by
  rw [insert, get_append, get_remove_self]
  simp [get]

theorem get_insert_of_ne (h : other ≠ name) :
    (headers.insert name value).get other = headers.get other := by
  rw [insert, get_append, get_remove_of_ne h]
  simp [get, h.symm]

theorem get_insertIfAbsent_of_ne (h : other ≠ name) :
    (headers.insertIfAbsent name value).get other = headers.get other := by
  rw [insertIfAbsent]
  split
  · rfl
  · exact get_insert_of_ne h

theorem get_insertIfAbsent_self :
    (headers.insertIfAbsent name value).get name = some ((headers.get name).getD value) := by
  rw [insertIfAbsent]
  split
  · rename_i hpresent
    obtain ⟨present, hget⟩ := contains_iff.mp hpresent
    rw [hget, Option.getD_some]
  · rename_i habsent
    rw [get_insert_self, get_eq_none_iff.mpr (by simpa using habsent), Option.getD_none]

/-- Every default is put in where it is missing, the last one first. -/
def complete (defaults : List (HeaderName × HeaderValue)) (headers : HeaderMap) : HeaderMap :=
  defaults.foldr (fun entry headers => headers.insertIfAbsent entry.1 entry.2) headers

theorem get_complete_of_not_mem {defaults : List (HeaderName × HeaderValue)}
    (h : name ∉ defaults.map Prod.fst) :
    (headers.complete defaults).get name = headers.get name := by
  induction defaults with
  | nil => rfl
  | cons entry defaults ih =>
      simp only [List.map_cons, List.mem_cons, not_or] at h
      show ((headers.complete defaults).insertIfAbsent entry.1 entry.2).get name = _
      rw [get_insertIfAbsent_of_ne h.1, ih h.2]

theorem get_complete_of_mem {defaults : List (HeaderName × HeaderValue)}
    (hnodup : (defaults.map Prod.fst).Nodup) (h : (name, value) ∈ defaults) :
    (headers.complete defaults).get name = some ((headers.get name).getD value) := by
  induction defaults with
  | nil => cases h
  | cons entry defaults ih =>
      rw [List.map_cons, List.nodup_cons] at hnodup
      show ((headers.complete defaults).insertIfAbsent entry.1 entry.2).get name = _
      rcases List.mem_cons.mp h with rfl | hmem
      · rw [get_insertIfAbsent_self, get_complete_of_not_mem hnodup.1]
      · have hne : name ≠ entry.1 := by
          rintro rfl
          exact hnodup.1 (List.mem_map.mpr ⟨_, hmem, rfl⟩)
        rw [get_insertIfAbsent_of_ne hne, ih hnodup.2 hmem]

end HeaderMap

end WikiNext.Foundation
