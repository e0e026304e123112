import Mathlib.Algebra.Group.Nat.Defs
import Mathlib.Data.List.Basic
import Mathlib.Tactic.Common

/-!
# IP addresses in text

The textual forms of IPv4, IPv6 and socket addresses as a backtracking
recursive-descent reader, following the standard library's `net` parser: at
most three decimal digits and no leading zero in an IPv4 octet, at most four
hexadecimal digits in an IPv6 group, one `::`, an optional trailing IPv4 part.

The only fact about the grammar that is needed elsewhere is which characters
an address may contain.
-/

namespace WikiNext.Foundation

inductive IpAddr where
  | v4 (a b c d : Nat)
  | v6 (groups : List Nat)
deriving DecidableEq, Repr

structure SocketAddr where
  ip : IpAddr
  port : Nat
  /-- Only an IPv6 address carries one; 0 otherwise. -/
  scope_id : Nat
deriving DecidableEq, Repr

/-- `127.0.0.0/8` and `::1`. -/
def IpAddr.isLoopback : IpAddr → Bool
  | .v4 a _ _ _ => a == 127
  | .v6 groups => groups == [0, 0, 0, 0, 0, 0, 0, 1]

namespace IpAddr

/-- A reader takes a prefix of the input or fails without taking any. -/
abbrev Reader (α : Type) : Type := List Char → Option (α × List Char)

/-! ## §1  Readers -/

/-- `char::to_digit` -/
def toDigit (radix : Nat) (c : Char) : Option Nat :=
  let value :=
    if '0' ≤ c ∧ c ≤ '9' then some (c.toNat - '0'.toNat)
    else if 'a' ≤ c ∧ c ≤ 'z' then some (c.toNat - 'a'.toNat + 10)
    else if 'A' ≤ c ∧ c ≤ 'Z' then some (c.toNat - 'A'.toNat + 10)
    else none
  value.filter (· < radix)

/-- The longest run of digits. -/
def takeDigits (radix : Nat) : List Char → List Nat × List Char
  | [] => ([], [])
  | c :: rest =>
      match toDigit radix c with
      | some d => let (ds, rest') := takeDigits radix rest; (d :: ds, rest')
      | none => ([], c :: rest)

def readNumber (radix maxDigits bound : Nat) (allowZeroPrefix : Bool) : Reader Nat := fun input =>
  let (digits, rest) := takeDigits radix input
  let value := digits.foldl (fun acc d => acc * radix + d) 0
  if digits = [] ∨ maxDigits < digits.length then none
  else if allowZeroPrefix = false ∧ input.head? = some '0' ∧ 1 < digits.length then none
  else if value < bound then some (value, rest)
  else none

def readGivenChar (sep : Char) : Reader Unit
  | c :: rest => if c = sep then some ((), rest) else none
  | [] => none

/-- A separator stands before every item but the first. -/
def readSeparator {α : Type} (sep : Char) (index : Nat) (inner : Reader α) : Reader α :=
  fun input =>
    if index = 0 then inner input
    else (readGivenChar sep input).bind fun read => inner read.2

def readOctet (index : Nat) : Reader Nat := readSeparator '.' index (readNumber 10 3 256 false)

def readIpv4 : Reader (Nat × Nat × Nat × Nat) := fun input => do
  let (a, rest) ← readOctet 0 input
  let (b, rest) ← readOctet 1 rest
  let (c, rest) ← readOctet 2 rest
  let (d, rest) ← readOctet 3 rest
  pure ((a, b, c, d), rest)

/-- Reads up to `left` groups from group `index` on; the flag tells whether a
trailing IPv4 part was read. Two groups must be left for such a part. -/
def readGroups (index : Nat) : Nat → List Char → (List Nat × Bool) × List Char
  | 0, input => (([], false), input)
  | left + 1, input =>
      match if left = 0 then none else readSeparator ':' index readIpv4 input with
      | some ((a, b, c, d), rest) => (([a * 256 + b, c * 256 + d], true), rest)
      | none =>
          match readSeparator ':' index (readNumber 16 4 65536 true) input with
          | some (group, rest) =>
              let ((groups, embedded), rest') := readGroups (index + 1) left rest
              ((group :: groups, embedded), rest')
          | none => (([], false), input)

def readIpv6 : Reader (List Nat) := fun input =>
  let ((head, embedded), rest) := readGroups 0 8 input
  if head.length = 8 then some (head, rest)
  else if embedded then none
  else do
    let ((), rest) ← readGivenChar ':' rest
    let ((), rest) ← readGivenChar ':' rest
    let ((tail, _), rest) := readGroups 0 (7 - head.length) rest
    pure (head ++ List.replicate (8 - head.length - tail.length) 0 ++ tail, rest)

def readIpAddr : Reader IpAddr := fun input =>
  match readIpv4 input with
  | some ((a, b, c, d), rest) => some (.v4 a b c d, rest)
  | none => (readIpv6 input).map fun (groups, rest) => (.v6 groups, rest)

/-- The whole text must be read. -/
def parseWith {α : Type} (reader : Reader α) (text : List Char) : Option α :=
  match reader text with
  | some (value, []) => some value
  | _ => none

/-- `str::parse::<IpAddr>` -/
def parse (text : String) : Option IpAddr := parseWith readIpAddr text.toList

end IpAddr

open IpAddr in
/-- `str::parse::<SocketAddr>`: `ip:port`, with an IPv6 address in brackets
and an optional numeric scope. -/
def SocketAddr.parse (text : String) : Option SocketAddr :=
  let readPort : Reader Nat := fun input =>
    (readGivenChar ':' input).bind fun read => readNumber 10 read.2.length 65536 true read.2
  let readV4 : Reader SocketAddr := fun input => do
    let ((a, b, c, d), rest) ← readIpv4 input
    let (port, rest) ← readPort rest
    pure (⟨.v4 a b c d, port, 0⟩, rest)
  let readScope : Reader Nat := fun input =>
    (readGivenChar '%' input).bind fun read =>
      readNumber 10 read.2.length (2 ^ 32) true read.2
  let readV6 : Reader SocketAddr := fun input => do
    let ((), rest) ← readGivenChar '[' input
    let (groups, rest) ← readIpv6 rest
    let (scope_id, rest) := (readScope rest).getD (0, rest)
    let ((), rest) ← readGivenChar ']' rest
    let (port, rest) ← readPort rest
    pure (⟨.v6 groups, port, scope_id⟩, rest)
  parseWith (fun input => (readV4 input).or (readV6 input)) text.toList

namespace IpAddr

/-! ## §2  Which characters an address contains -/

/-- Digits of either radix and the two separators. -/
def AddressChar (c : Char) : Prop := (toDigit 16 c).isSome = true ∨ c = '.' ∨ c = ':'

/-- What a reader takes consists of address characters. -/
def Takes (input rest : List Char) : Prop :=
  ∃ used, input = used ++ rest ∧ ∀ c ∈ used, AddressChar c

theorem Takes.refl (input : List Char) : Takes input input := ⟨[], rfl, by simp⟩

theorem Takes.trans {input mid rest : List Char} (h₁ : Takes input mid) (h₂ : Takes mid rest) :
    Takes input rest := by
  obtain ⟨u₁, rfl, hu₁⟩ := h₁
  obtain ⟨u₂, rfl, hu₂⟩ := h₂
  refine ⟨u₁ ++ u₂, (List.append_assoc ..).symm, fun c hc => ?_⟩
  rcases List.mem_append.mp hc with hc | hc
  · exact hu₁ c hc
  · exact hu₂ c hc

theorem takes_cons {c : Char} {rest : List Char} (hc : AddressChar c) : Takes (c :: rest) rest :=
  ⟨[c], rfl, by simpa using hc⟩

theorem toDigit_mono {radix : Nat} (hradix : radix ≤ 16) {c : Char} {d : Nat}
    (h : toDigit radix c = some d) : AddressChar c := by
  unfold toDigit at h
  rw [Option.filter_eq_some_iff] at h
  refine Or.inl ?_
  unfold toDigit
  rw [h.1, Option.filter_some, if_pos]
  · rfl
  · have := of_decide_eq_true h.2
    exact decide_eq_true (by omega)

theorem takeDigits_takes {radix : Nat} (hradix : radix ≤ 16) :
    ∀ input : List Char, Takes input (takeDigits radix input).2
  | [] => Takes.refl []
  | c :: rest => by
      unfold takeDigits
      cases hd : toDigit radix c with
      | none => exact Takes.refl _
      | some d => exact (takes_cons (toDigit_mono hradix hd)).trans (takeDigits_takes hradix rest)

/-- The readers of this grammar. -/
def TakesAddressChars {α : Type} (reader : Reader α) : Prop :=
  ∀ input value rest, reader input = some (value, rest) → Takes input rest

theorem readNumber_takes {radix : Nat} (hradix : radix ≤ 16) (maxDigits bound : Nat) (zero : Bool) :
    TakesAddressChars (readNumber radix maxDigits bound zero) := by
  intro input value rest h
  simp only [readNumber] at h
  split_ifs at h
  cases h
  exact takeDigits_takes hradix input

theorem readGivenChar_takes {sep : Char} (hsep : AddressChar sep) :
    TakesAddressChars (readGivenChar sep) := by
  rintro (_ | ⟨c, input⟩) value rest h
  · cases h
  · simp only [readGivenChar] at h
    split_ifs at h with hc
    cases h
    exact takes_cons (hc ▸ hsep)

theorem readSeparator_takes {α : Type} {sep : Char} (hsep : AddressChar sep) (index : Nat)
    {inner : Reader α} (hinner : TakesAddressChars inner) :
    TakesAddressChars (readSeparator sep index inner) := by
  intro input value rest h
  simp only [readSeparator] at h
  split_ifs at h
  · exact hinner _ _ _ h
  · obtain ⟨⟨_, mid⟩, hmid, hrest⟩ := Option.bind_eq_some_iff.mp h
    exact (readGivenChar_takes hsep _ _ _ hmid).trans (hinner _ _ _ hrest)

theorem readOctet_takes (index : Nat) : TakesAddressChars (readOctet index) :=
  readSeparator_takes (Or.inr (Or.inl rfl)) index (readNumber_takes (by omega) 3 256 false)

theorem readIpv4_takes : TakesAddressChars readIpv4 := by
  intro input value rest h
  simp only [readIpv4, Option.bind_eq_bind, Option.pure_def, Option.bind_eq_some_iff,
    Prod.exists, Option.some.injEq, Prod.mk.injEq] at h
  obtain ⟨a, r₁, h₁, b, r₂, h₂, c, r₃, h₃, d, r₄, h₄, -, rfl⟩ := h
  exact (readOctet_takes 0 _ _ _ h₁).trans <| (readOctet_takes 1 _ _ _ h₂).trans <|
    (readOctet_takes 2 _ _ _ h₃).trans (readOctet_takes 3 _ _ _ h₄)

theorem readGroups_takes : ∀ (left index : Nat) (input : List Char),
    Takes input (readGroups index left input).2
  | 0, _, input => Takes.refl input
  | left + 1, index, input => by
      have hcolon : AddressChar ':' := Or.inr (Or.inr rfl)
      unfold readGroups
      split
      · rename_i a b c d rest hv4
        split_ifs at hv4
        exact readSeparator_takes hcolon index readIpv4_takes _ _ _ hv4
      · split
        · rename_i group rest hgroup
          exact (readSeparator_takes hcolon index (readNumber_takes (Nat.le_refl 16) 4 65536 true) _ _ _
            hgroup).trans (readGroups_takes left (index + 1) rest)
        · exact Takes.refl _

theorem readIpv6_takes : TakesAddressChars readIpv6 := by
  intro input value rest h
  have hcolon : AddressChar ':' := Or.inr (Or.inr rfl)
  have hhead := readGroups_takes 8 0 input
  simp only [readIpv6] at h
  split_ifs at h
  · cases h
    exact hhead
  · simp only [Option.bind_eq_bind, Option.pure_def, Option.bind_eq_some_iff, Prod.exists,
      Option.some.injEq, Prod.mk.injEq] at h
    obtain ⟨_, r₁, h₁, _, r₂, h₂, -, rfl⟩ := h
    exact hhead.trans <| (readGivenChar_takes hcolon _ _ _ h₁).trans <|
      (readGivenChar_takes hcolon _ _ _ h₂).trans (readGroups_takes _ _ _)

theorem readIpAddr_takes : TakesAddressChars readIpAddr := by
  intro input value rest h
  simp only [readIpAddr] at h
  split at h
  · rename_i a b c d rest' hv4
    cases h
    exact readIpv4_takes _ _ _ hv4
  · obtain ⟨⟨groups, rest'⟩, hv6, heq⟩ := Option.map_eq_some_iff.mp h
    cases heq
    exact readIpv6_takes _ _ _ hv6

/-- **Alphabet.** A text that parses as an address consists of digits, dots
and colons. -/
theorem parse_addressChar {text : String} {address : IpAddr} (h : parse text = some address) :
    ∀ c ∈ text.toList, AddressChar c := by
  simp only [parse, parseWith] at h
  split at h
  · rename_i value hread
    obtain ⟨used, hsplit, hused⟩ := readIpAddr_takes _ _ _ hread
    rw [List.append_nil] at hsplit
    exact hsplit ▸ hused
  · cases h

example : parse "127.0.0.1" = some (.v4 127 0 0 1) := by decide
example : parse "::ffff:10.0.0.1" = some (.v6 [0, 0, 0, 0, 0, 65535, 2560, 1]) := by decide
example : parse "127.00.0.1" = none := by decide

end IpAddr

end WikiNext.Foundation
