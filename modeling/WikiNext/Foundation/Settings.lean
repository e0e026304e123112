import Mathlib.Algebra.Group.Int.Defs
import Mathlib.Algebra.Group.Nat.Defs
import Mathlib.Data.List.Basic

/-!
# Settings from a file and from the environment

What a program reads its settings from: bytes of a file, a TOML document and
the variables of the process. The TOML grammar itself is a parameter; typed
reading of a parsed document follows the derived deserialisers of `serde`.

§1 results, §2 text, §3 TOML values, §4 the environment.
-/

namespace WikiNext.Foundation

/-! ## §1  Results -/

theorem bind_eq_ok {ε α β : Type} {x : Except ε α} {f : α → Except ε β} {b : β} :
    (x >>= f) = .ok b ↔ ∃ a, x = .ok a ∧ f a = .ok b := by
  cases x with
  | error e => simp [bind, Except.bind]
  | ok a => simp [bind, Except.bind]

/-- A check in front of a computation. -/
theorem check_bind_eq_ok {ε β : Type} {x : Except ε Unit} {f : Unit → Except ε β} {b : β} :
    (x >>= f) = .ok b ↔ x = .ok () ∧ f () = .ok b := by
  rw [bind_eq_ok]
  constructor
  · rintro ⟨⟨⟩, hx, hf⟩
    exact ⟨hx, hf⟩
  · rintro ⟨hx, hf⟩
    exact ⟨(), hx, hf⟩

theorem mapError_eq_ok {ε ε' α : Type} {g : ε → ε'} {x : Except ε α} {a : α} :
    x.mapError g = .ok a ↔ x = .ok a := by
  cases x <;> simp [Except.mapError]

/-! ## §2  Text -/

/-- `char::is_whitespace`: the Unicode property `White_Space`. -/
def isWhitespace (c : Char) : Bool :=
  let n := c.toNat
  (9 ≤ n && n ≤ 13) || n == 0x20 || n == 0x85 || n == 0xA0 || n == 0x1680 ||
    (0x2000 ≤ n && n ≤ 0x200A) || n == 0x2028 || n == 0x2029 || n == 0x202F || n == 0x205F ||
    n == 0x3000

/-- The characters of `str::trim`. -/
def trim (text : String) : List Char :=
  ((text.toList.dropWhile isWhitespace).reverse.dropWhile isWhitespace).reverse

/-- The value of decimal digits, if there are only digits. -/
def decimalValue : (acc : Nat) → List Char → Option Nat
  | acc, [] => some acc
  | acc, c :: rest => if c.isDigit then decimalValue (acc * 10 + (c.toNat - 48)) rest else none

theorem decimalValue_eq {digits : List Char} (h : ∀ c ∈ digits, c.isDigit = true) :
    ∀ acc, decimalValue acc digits = some (Nat.ofDigitChars 10 digits acc) := by
  induction digits with
  | nil => exact fun _ => rfl
  | cons c rest ih =>
      intro acc
      rw [decimalValue, if_pos (h c List.mem_cons_self),
        ih fun x hx => h x (List.mem_cons_of_mem c hx), Nat.ofDigitChars_cons, Nat.mul_comm acc]
      rfl

/-- What is printed in decimal is read back. -/
theorem decimalValue_toString (n : Nat) : decimalValue 0 (toString n).toList = some n := by
  show decimalValue 0 n.repr.toList = some n
  rw [Nat.toList_repr, decimalValue_eq
    (fun c hc => Nat.isDigit_of_mem_toDigits (by decide) (by decide) hc),
    Nat.ofDigitChars_ten_toDigits]

/-- `str::parse` for an unsigned integer of `bits` bits: digits, after an
optional plus sign, of a value that fits. -/
def parseUnsigned (bits : Nat) (text : String) : Option Nat :=
  let digits := match text.toList with
    | '+' :: digits => digits
    | digits => digits
  if digits = [] then none else (decimalValue 0 digits).filter (· < 2 ^ bits)

/-- The first `n` bytes of a text, as a file read up to `n` has them. -/
theorem take_toByteArray (text : String) (n : Nat) :
    (⟨(text.toByteArray.data.toList.take n).toArray⟩ : ByteArray) =
      text.toByteArray.extract 0 n := by
  apply ByteArray.ext
  rw [ByteArray.data_extract, ← Array.toList_inj, List.toList_toArray, Array.toList_extract]
  simp

/-- Cut between two characters, the first part of a text is read. -/
theorem fromUTF8?_take_append (front rest : String) :
    String.fromUTF8? ⟨((front ++ rest).toByteArray.data.toList.take
      front.utf8ByteSize).toArray⟩ = some front := by
  rw [take_toByteArray, String.toByteArray_append, ← String.size_toByteArray,
    ByteArray.extract_append_size_left,
    ByteArray.extract_zero_size]
  exact dif_pos front.isValidUTF8

/-- Cut anywhere else, there is nothing to read. -/
theorem fromUTF8?_take_eq_none {text : String} {n : Nat} (hn : n ≤ text.utf8ByteSize)
    (hcut : ¬ ∃ front rest : String, text = front ++ rest ∧ front.utf8ByteSize = n) :
    String.fromUTF8? ⟨(text.toByteArray.data.toList.take n).toArray⟩ = none := by
  rw [take_toByteArray]
  refine dif_neg fun hvalid => hcut ?_
  have hpos : (⟨n⟩ : String.Pos.Raw).IsValid text :=
    String.Pos.Raw.isValid_iff_isValidUTF8_extract_zero.mpr ⟨hn, hvalid⟩
  obtain ⟨front, rest, happend, hfront⟩ := String.Pos.Raw.isValid_iff_exists_append.mp hpos
  exact ⟨front, rest, happend, (congrArg String.Pos.Raw.byteIdx hfront).symm⟩

/-! ## §3  TOML values -/

inductive TomlValue where
  | string (text : String)
  | integer (value : Int)
  | float (literal : String)
  | boolean (value : Bool)
  | datetime (literal : String)
  | array (items : List TomlValue)
  | table (entries : List (String × TomlValue))

abbrev TomlTable : Type := List (String × TomlValue)

/-- What the TOML library provides. -/
structure TomlCrate where
  parse : String → Except String TomlTable
  /-- The entries a value shows to the deserialiser of a struct with these fields. -/
  structEntries : List String → TomlValue → Except String TomlTable
  /-- The unit variant a value selects in an enumeration. -/
  unitVariant : TomlValue → Option String
  /-- A table shows its own entries. -/
  structEntries_table : ∀ fields entries, structEntries fields (.table entries) = .ok entries

/-- `#[serde(deny_unknown_fields)]` -/
def denyUnknown (fields : List String) (entries : TomlTable) : Except String Unit :=
  match entries.find? (fun entry => decide (entry.1 ∉ fields)) with
  | none => .ok ()
  | some entry => .error ("unknown field " ++ entry.1)

def required {α : Type} (read : TomlValue → Except String α) (entries : TomlTable)
    (field : String) : Except String α :=
  match entries.lookup field with
  | none => .error ("missing field " ++ field)
  | some value => read value

/-- `#[serde(default = ...)]` -/
def withDefault {α : Type} (read : TomlValue → Except String α) (default : α)
    (entries : TomlTable) (field : String) : Except String α :=
  match entries.lookup field with
  | none => .ok default
  | some value => read value

def readString : TomlValue → Except String String
  | .string text => .ok text
  | _ => .error "expected a string"

def readUnsigned (bits : Nat) : TomlValue → Except String Nat
  | .integer value =>
      if 0 ≤ value ∧ value < 2 ^ bits then .ok value.toNat else .error "integer out of range"
  | _ => .error "expected an integer"

/-- A value that is written as a string. -/
def readParsed {α : Type} (parse : String → Option α) (value : TomlValue) : Except String α := do
  let text ← readString value
  match parse text with
  | some result => .ok result
  | none => .error "invalid value"

/-! ## §4  The environment -/

/-- `std::env::var` -/
inductive EnvVar where
  | notPresent
  | notUnicode
  | value (text : String)
deriving DecidableEq, Repr

abbrev Environment : Type := String → EnvVar

/-- A setting after its override: the variable's value if the variable is set,
otherwise the value from the file. -/
def Overridden {α : Type} (env : Environment) (key : String) (parse : String → Option α)
    (file actual : α) : Prop :=
  match env key with
  | .notPresent => actual = file
  | .notUnicode => False
  | .value text => parse text = some actual

/-- One variable and one file make one setting. -/
theorem Overridden.unique {α : Type} {env env' : Environment} {key : String}
    {parse : String → Option α} {file actual actual' : α} (henv : env key = env' key)
    (h : Overridden env key parse file actual) (h' : Overridden env' key parse file actual') :
    actual = actual' := by
  unfold Overridden at h h'
  rw [henv] at h
  cases hkey : env' key with
  | notPresent =>
      rw [hkey] at h h'
      exact h.trans h'.symm
  | notUnicode =>
      rw [hkey] at h
      exact h.elim
  | value text =>
      rw [hkey] at h h'
      exact Option.some.inj (h.symm.trans h')

end WikiNext.Foundation
