import Mathlib.Data.List.Basic
import Mathlib.Tactic.Common

/-!
# JSON texts

The JSON grammar as a relation between a value and the texts that denote it, a
reader, and two writers. A value has many texts: blanks between tokens, and
several ways to write a character. The reader finds the value of every text, so
a text denotes one value only.

Numbers are left out; nothing that uses this library writes one.

§1 values, §2 characters, §3 texts, §4 the reader, §5 the reader is complete,
§6 the writers.
-/

namespace WikiNext.Foundation

/-! ## §1  Values -/

inductive Json where
  | null
  | bool (value : Bool)
  | string (value : String)
  | array (items : List Json)
  | object (members : List (String × Json))

namespace Json

/-! ## §2  Characters -/

def isBlank (c : Char) : Bool := c == ' ' || c == '\n' || c == '\r' || c == '\t'

/-- What a letter behind a backslash stands for. -/
def escaped (letter : Char) : Option Char :=
  if letter = '"' ∨ letter = '\\' ∨ letter = '/' then some letter
  else if letter = 'b' then some '\x08'
  else if letter = 'f' then some '\x0c'
  else if letter = 'n' then some '\n'
  else if letter = 'r' then some '\r'
  else if letter = 't' then some '\t'
  else none

def hexValue (c : Char) : Option Nat :=
  if '0' ≤ c ∧ c ≤ '9' then some (c.toNat - 48)
  else if 'a' ≤ c ∧ c ≤ 'f' then some (c.toNat - 87)
  else if 'A' ≤ c ∧ c ≤ 'F' then some (c.toNat - 55)
  else none

/-- Four hexadecimal digits. -/
def hexUnit (a b c d : Char) : Option Nat := do
  let a ← hexValue a
  let b ← hexValue b
  let c ← hexValue c
  let d ← hexValue d
  return ((a * 16 + b) * 16 + c) * 16 + d

def isLead (unit : Nat) : Bool := 0xD800 ≤ unit && unit < 0xDC00
def isTrail (unit : Nat) : Bool := 0xDC00 ≤ unit && unit < 0xE000

/-- The code point of a surrogate pair. -/
def pairValue (lead trail : Nat) : Nat := 0x10000 + (lead - 0xD800) * 0x400 + (trail - 0xDC00)

/-- The ways to write a character between quotes. -/
inductive Spells (character : Char) : List Char → Prop where
  | plain (hquote : character ≠ '"') (hbackslash : character ≠ '\\')
      (hcontrol : 0x20 ≤ character.toNat) : Spells character [character]
  | letter {letter : Char} (h : escaped letter = some character) :
      Spells character ['\\', letter]
  | unit {a b c d : Char} (h : hexUnit a b c d = some character.toNat) :
      Spells character ['\\', 'u', a, b, c, d]
  | pair {a b c d a' b' c' d' : Char} {lead trail : Nat} (hlead : hexUnit a b c d = some lead)
      (htrail : hexUnit a' b' c' d' = some trail) (hl : isLead lead = true)
      (ht : isTrail trail = true) (h : pairValue lead trail = character.toNat) :
      Spells character ['\\', 'u', a, b, c, d, '\\', 'u', a', b', c', d']

/-- What may stand between the quotes of a string. -/
inductive Unquoted : List Char → List Char → Prop where
  | nil : Unquoted [] []
  | cons {character : Char} {characters spelling text : List Char}
      (hspells : Spells character spelling) (hrest : Unquoted characters text) :
      Unquoted (character :: characters) (spelling ++ text)

/-! ## §3  Texts -/

def Blank (text : List Char) : Prop := ∀ c ∈ text, isBlank c = true

/-- A string with its quotes. -/
def Quoted (value : String) (text : List Char) : Prop :=
  ∃ inner, Unquoted value.toList inner ∧ text = '"' :: inner ++ ['"']

mutual

/-- A text, without blanks around it, denotes a value. -/
inductive Text : Json → List Char → Prop where
  | null : Text .null ['n', 'u', 'l', 'l']
  | falsehood : Text (.bool false) ['f', 'a', 'l', 's', 'e']
  | truth : Text (.bool true) ['t', 'r', 'u', 'e']
  | string {value : String} {text : List Char} (h : Quoted value text) :
      Text (.string value) text
  | noItems {blank : List Char} (hblank : Blank blank) : Text (.array []) ('[' :: blank ++ [']'])
  | items {items : List Json} {text : List Char} (h : Items items text) :
      Text (.array items) ('[' :: text ++ [']'])
  | noMembers {blank : List Char} (hblank : Blank blank) :
      Text (.object []) ('\x7b' :: blank ++ ['\x7d'])
  | members {members : List (String × Json)} {text : List Char} (h : Members members text) :
      Text (.object members) ('\x7b' :: text ++ ['\x7d'])

/-- One or more values with commas between them. -/
inductive Items : List Json → List Char → Prop where
  | one {item : Json} {before text after : List Char} (hbefore : Blank before)
      (hitem : Text item text) (hafter : Blank after) : Items [item] (before ++ text ++ after)
  | cons {item : Json} {items : List Json} {before text after rest : List Char}
      (hbefore : Blank before) (hitem : Text item text) (hafter : Blank after)
      (hrest : Items items rest) : Items (item :: items) (before ++ text ++ after ++ ',' :: rest)

/-- One or more members with commas between them. -/
inductive Members : List (String × Json) → List Char → Prop where
  | one {name : String} {value : Json} {before key between colon text after : List Char}
      (hbefore : Blank before) (hkey : Quoted name key) (hbetween : Blank between)
      (hcolon : Blank colon) (hvalue : Text value text) (hafter : Blank after) :
      Members [(name, value)] (before ++ key ++ between ++ ':' :: colon ++ text ++ after)
  | cons {name : String} {value : Json} {members : List (String × Json)}
      {before key between colon text after rest : List Char}
      (hbefore : Blank before) (hkey : Quoted name key) (hbetween : Blank between)
      (hcolon : Blank colon) (hvalue : Text value text) (hafter : Blank after)
      (hrest : Members members rest) :
      Members ((name, value) :: members)
        (before ++ key ++ between ++ ':' :: colon ++ text ++ after ++ ',' :: rest)

end

/-- A whole document: a value and blanks around it. -/
def Denotes (text : List Char) (value : Json) : Prop :=
  ∃ before middle after, Blank before ∧ Text value middle ∧ Blank after ∧
    text = before ++ middle ++ after

/-! ## §4  The reader -/

/-- `\uXXXX` from behind the `u` on, maybe the first half of a pair. -/
def readUnit : List Char → Option (Char × List Char)
  | a :: b :: c :: d :: rest =>
      match hexUnit a b c d with
      | none => none
      | some unit =>
          if isLead unit then
            match rest with
            | backslash :: u :: a' :: b' :: c' :: d' :: rest =>
                if backslash = '\\' ∧ u = 'u' then
                  match hexUnit a' b' c' d' with
                  | none => none
                  | some trail =>
                      if isTrail trail then some (Char.ofNat (pairValue unit trail), rest) else none
                else none
            | _ => none
          else if isTrail unit then none
          else some (Char.ofNat unit, rest)
  | _ => none

/-- One character of a string, which does not end here. -/
def readCharacter : List Char → Option (Char × List Char)
  | [] => none
  | c :: rest =>
      if c = '\\' then
        match rest with
        | [] => none
        | letter :: rest =>
            if letter = 'u' then readUnit rest
            else (escaped letter).map fun character => (character, rest)
      else if c.toNat < 0x20 then none
      else some (c, rest)

/-- A string from behind its first quote on. -/
def readString : (fuel : Nat) → List Char → Option (List Char × List Char)
  | 0, _ => none
  | _, [] => none
  | fuel + 1, c :: rest =>
      if c = '"' then some ([], rest)
      else do
        let (character, rest) ← readCharacter (c :: rest)
        let (characters, rest) ← readString fuel rest
        return (character :: characters, rest)

def skipBlank (text : List Char) : List Char := text.dropWhile isBlank

/-- A fixed character, after blanks. -/
def expect (c : Char) (text : List Char) : Option (List Char) :=
  match skipBlank text with
  | [] => none
  | c' :: rest => if c' = c then some rest else none

mutual

/-- A value, without blanks before it. -/
def readValue : (fuel : Nat) → List Char → Option (Json × List Char)
  | 0, _ => none
  | _, [] => none
  | fuel + 1, c :: rest =>
      if c = 'n' then
        if rest.take 3 = ['u', 'l', 'l'] then some (.null, rest.drop 3) else none
      else if c = 'f' then
        if rest.take 4 = ['a', 'l', 's', 'e'] then some (.bool false, rest.drop 4) else none
      else if c = 't' then
        if rest.take 3 = ['r', 'u', 'e'] then some (.bool true, rest.drop 3) else none
      else if c = '"' then do
        let (characters, rest) ← readString fuel rest
        return (.string (String.ofList characters), rest)
      else if c = '[' then
        match expect ']' rest with
        | some rest => some (.array [], rest)
        | none => do
            let (items, rest) ← readItems fuel rest
            return (.array items, rest)
      else if c = '\x7b' then
        match expect '\x7d' rest with
        | some rest => some (.object [], rest)
        | none => do
            let (members, rest) ← readMembers fuel rest
            return (.object members, rest)
      else none

/-- Items up to the closing bracket. -/
def readItems : (fuel : Nat) → List Char → Option (List Json × List Char)
  | 0, _ => none
  | fuel + 1, text => do
      let (item, rest) ← readValue fuel (skipBlank text)
      match expect ',' rest with
      | some rest => do
          let (items, rest) ← readItems fuel rest
          return (item :: items, rest)
      | none => do
          let rest ← expect ']' rest
          return ([item], rest)

/-- Members up to the closing brace. -/
def readMembers : (fuel : Nat) → List Char → Option (List (String × Json) × List Char)
  | 0, _ => none
  | fuel + 1, text => do
      let rest ← expect '"' text
      let (name, rest) ← readString fuel rest
      let rest ← expect ':' rest
      let (value, rest) ← readValue fuel (skipBlank rest)
      match expect ',' rest with
      | some rest => do
          let (members, rest) ← readMembers fuel rest
          return ((String.ofList name, value) :: members, rest)
      | none => do
          let rest ← expect '\x7d' rest
          return ([(String.ofList name, value)], rest)

end

/-- A whole document. -/
def read (text : List Char) : Option Json :=
  match readValue (text.length + 1) (skipBlank text) with
  | some (value, rest) => if (skipBlank rest).isEmpty then some value else none
  | none => none

/-! ## §5  The reader is complete -/

variable {blank text rest : List Char} {value : Json} {c : Char}

theorem skipBlank_append (h : Blank blank) : skipBlank (blank ++ rest) = skipBlank rest := by
  rw [skipBlank, List.dropWhile_append_of_pos h, skipBlank]

theorem skipBlank_cons (h : isBlank c = false) : skipBlank (c :: rest) = c :: rest := by
  rw [skipBlank, List.dropWhile_cons_of_neg (by simp [h])]

theorem expect_eq (hblank : Blank blank) (h : isBlank c = false) :
    expect c (blank ++ c :: rest) = some rest := by
  rw [expect, skipBlank_append hblank, skipBlank_cons h]
  exact if_pos rfl

theorem expect_ne {c' : Char} (hblank : Blank blank) (h : isBlank c = false) (hne : c ≠ c') :
    expect c' (blank ++ c :: rest) = none := by
  rw [expect, skipBlank_append hblank, skipBlank_cons h]
  exact if_neg hne

theorem blank_nil : Blank [] := by simp [Blank]

/-- A character is no half of a pair. -/
theorem toNat_valid (c : Char) : c.toNat < 0xD800 ∨ 0xE000 ≤ c.toNat := by
  rcases c.valid with h | ⟨h, -⟩
  · exact Or.inl h
  · exact Or.inr h

theorem readCharacter_spells {spelling : List Char} (h : Spells c spelling) :
    readCharacter (spelling ++ rest) = some (c, rest) := by
  cases h with
  | plain hquote hbackslash hcontrol =>
      simp only [List.cons_append, List.nil_append, readCharacter]
      rw [if_neg hbackslash, if_neg (by omega)]
  | @letter letter h =>
      have hu : letter ≠ 'u' := by
        rintro rfl
        cases h
      simp [readCharacter, hu, h]
  | unit h =>
      have hvalid := toNat_valid c
      have hlead : isLead c.toNat = false := by
        simp only [isLead, Bool.and_eq_false_iff, decide_eq_false_iff_not]
        omega
      have htrail : isTrail c.toNat = false := by
        simp only [isTrail, Bool.and_eq_false_iff, decide_eq_false_iff_not]
        omega
      simp [readCharacter, readUnit, h, hlead, htrail, Char.ofNat_toNat]
  | pair hlead htrail hl ht h =>
      simp [readCharacter, readUnit, hlead, htrail, hl, ht, h, Char.ofNat_toNat]

theorem Spells.head {spelling : List Char} (h : Spells c spelling) :
    ∃ first more, spelling = first :: more ∧ first ≠ '"' := by
  cases h with
  | plain hquote => exact ⟨_, _, rfl, hquote⟩
  | _ => exact ⟨'\\', _, rfl, by decide⟩

theorem readString_unquoted {characters : List Char} (h : Unquoted characters text) :
    ∀ fuel, text.length < fuel →
      readString fuel (text ++ '"' :: rest) = some (characters, rest) := by
  induction h with
  | nil =>
      intro fuel hfuel
      cases fuel with
      | zero => omega
      | succ fuel => simp [readString]
  | @cons character characters spelling text hspells _ ih =>
      intro fuel hfuel
      obtain ⟨first, more, rfl, hfirst⟩ := hspells.head
      cases fuel with
      | zero => omega
      | succ fuel =>
          rw [List.length_append, List.length_cons] at hfuel
          have hcharacter : readCharacter (first :: (more ++ (text ++ '"' :: rest))) =
              some (character, text ++ '"' :: rest) := readCharacter_spells hspells
          simp only [List.cons_append, List.append_assoc, readString, if_neg hfirst,
            hcharacter, Option.bind_eq_bind, Option.bind_some]
          rw [ih fuel (by omega)]
          rfl

/-- A text begins with none of the characters that end or part other texts. -/
theorem Text.head (h : Text value text) :
    ∃ first more, text = first :: more ∧ isBlank first = false ∧ first ≠ ']' := by
  cases h with
  | string h =>
      obtain ⟨inner, -, rfl⟩ := h
      exact ⟨'"', _, rfl, by decide, by decide⟩
  | _ => exact ⟨_, _, rfl, by decide, by decide⟩

theorem Text.skip (hblank : Blank blank) (h : Text value text) :
    skipBlank (blank ++ (text ++ rest)) = text ++ rest := by
  obtain ⟨first, more, rfl, hfirst, -⟩ := h.head
  rw [skipBlank_append hblank]
  exact skipBlank_cons hfirst

theorem Items.not_closed {items : List Json} (h : Items items text) :
    expect ']' (text ++ rest) = none := by
  cases h with
  | one hbefore hitem _ =>
      obtain ⟨first, more, rfl, hfirst, hne⟩ := hitem.head
      simp only [List.append_assoc]
      exact expect_ne hbefore hfirst hne
  | cons hbefore hitem _ _ =>
      obtain ⟨first, more, rfl, hfirst, hne⟩ := hitem.head
      simp only [List.append_assoc]
      exact expect_ne hbefore hfirst hne

theorem Members.not_closed {members : List (String × Json)} (h : Members members text) :
    expect '\x7d' (text ++ rest) = none := by
  cases h with
  | one hbefore hkey _ _ _ _ =>
      obtain ⟨inner, -, rfl⟩ := hkey
      simp only [List.append_assoc]
      exact expect_ne hbefore (by decide) (by decide)
  | cons hbefore hkey _ _ _ _ _ =>
      obtain ⟨inner, -, rfl⟩ := hkey
      simp only [List.append_assoc]
      exact expect_ne hbefore (by decide) (by decide)

theorem Text.fuel (h : Text value text) {fuel : Nat} (hfuel : text.length ≤ fuel) :
    ∃ fuel', fuel = fuel' + 1 := by
  obtain ⟨first, more, rfl, -⟩ := h.head
  exact Nat.exists_eq_succ_of_ne_zero (Nat.ne_of_gt (Nat.lt_of_lt_of_le (Nat.succ_pos _) hfuel))

/-- A member is read up to what comes behind its value. -/
theorem readMembers_member {name : String} {before key between colon tail : List Char} {fuel : Nat}
    (hbefore : Blank before) (hkey : Quoted name key) (hbetween : Blank between)
    (hcolon : Blank colon) (htext : Text value text) (hfuel : key.length ≤ fuel + 1)
    (hvalue : readValue fuel (text ++ tail) = some (value, tail)) :
    readMembers (fuel + 1)
        (before ++ (key ++ (between ++ ':' :: (colon ++ (text ++ tail))))) =
      match expect ',' tail with
      | some rest => (readMembers fuel rest).map fun (members, rest) => ((name, value) :: members, rest)
      | none => (expect '\x7d' tail).map fun rest => ([(name, value)], rest) := by
  obtain ⟨inner, hinner, rfl⟩ := hkey
  simp only [List.cons_append, List.length_cons, List.length_append, List.length_nil] at hfuel
  have hopen : expect '"' (before ++ '"' :: (inner ++ '"' :: (between ++ ':' :: (colon ++
      (text ++ tail))))) = some (inner ++ '"' :: (between ++ ':' :: (colon ++ (text ++ tail)))) :=
    expect_eq hbefore (by decide)
  have hname : readString fuel (inner ++ '"' :: (between ++ ':' :: (colon ++ (text ++ tail)))) =
      some (name.toList, between ++ ':' :: (colon ++ (text ++ tail))) :=
    readString_unquoted hinner fuel (by omega)
  have hmiddle : expect ':' (between ++ ':' :: (colon ++ (text ++ tail))) =
      some (colon ++ (text ++ tail)) := expect_eq hbetween (by decide)
  simp only [List.append_assoc, List.cons_append, List.nil_append, readMembers, hopen, hname,
    hmiddle, htext.skip hcolon, hvalue, Option.bind_eq_bind, Option.bind_some, String.ofList_toList]
  cases expect ',' tail with
  | none => cases expect '\x7d' tail <;> rfl
  | some rest =>
      dsimp only
      cases readMembers fuel rest <;> rfl

mutual

theorem Text.read : ∀ {value text}, Text value text → ∀ {rest : List Char} {fuel : Nat},
    text.length ≤ fuel → readValue fuel (text ++ rest) = some (value, rest)
  | _, _, .null, rest, fuel, hfuel => by
      obtain ⟨fuel, rfl⟩ := Text.null.fuel hfuel
      simp [readValue]
  | _, _, .falsehood, rest, fuel, hfuel => by
      obtain ⟨fuel, rfl⟩ := Text.falsehood.fuel hfuel
      simp [readValue]
  | _, _, .truth, rest, fuel, hfuel => by
      obtain ⟨fuel, rfl⟩ := Text.truth.fuel hfuel
      simp [readValue]
  | _, _, .string h, rest, fuel, hfuel => by
      obtain ⟨fuel, rfl⟩ := (Text.string h).fuel hfuel
      obtain ⟨inner, hinner, rfl⟩ := h
      simp only [List.cons_append, List.length_cons, List.length_append, List.length_nil] at hfuel
      have hread : readString fuel (inner ++ '"' :: rest) = some (_, rest) :=
        readString_unquoted hinner fuel (by omega)
      simp [readValue, hread]
  | _, _, @Text.noItems blank hblank, rest, fuel, hfuel => by
      obtain ⟨fuel, rfl⟩ := (Text.noItems hblank).fuel hfuel
      have hclosed : expect ']' (blank ++ ']' :: rest) = some rest := expect_eq hblank (by decide)
      simp [readValue, hclosed]
  | _, _, @Text.items items text h, rest, fuel, hfuel => by
      obtain ⟨fuel, rfl⟩ := (Text.items h).fuel hfuel
      simp only [List.cons_append, List.length_cons, List.length_append, List.length_nil] at hfuel
      have hitems : readItems fuel (text ++ ']' :: rest) = some (items, rest) := h.read (by omega)
      have hopen : expect ']' (text ++ ']' :: rest) = none := h.not_closed
      simp [readValue, hopen, hitems]
  | _, _, @Text.noMembers blank hblank, rest, fuel, hfuel => by
      obtain ⟨fuel, rfl⟩ := (Text.noMembers hblank).fuel hfuel
      have hclosed : expect '\x7d' (blank ++ '\x7d' :: rest) = some rest :=
        expect_eq hblank (by decide)
      simp [readValue, hclosed]
  | _, _, @Text.members members text h, rest, fuel, hfuel => by
      obtain ⟨fuel, rfl⟩ := (Text.members h).fuel hfuel
      simp only [List.cons_append, List.length_cons, List.length_append, List.length_nil] at hfuel
      have hmembers : readMembers fuel (text ++ '\x7d' :: rest) = some (members, rest) :=
        h.read (by omega)
      have hopen : expect '\x7d' (text ++ '\x7d' :: rest) = none := h.not_closed
      simp [readValue, hopen, hmembers]

theorem Items.read : ∀ {items text}, Items items text → ∀ {rest : List Char} {fuel : Nat},
    text.length < fuel → readItems fuel (text ++ ']' :: rest) = some (items, rest)
  | _, _, @Items.one item before text after hbefore hitem hafter, rest, fuel, hfuel => by
      cases fuel with
      | zero => omega
      | succ fuel =>
          simp only [List.length_append] at hfuel
          have hread : readValue fuel (text ++ (after ++ ']' :: rest)) =
              some (item, after ++ ']' :: rest) := hitem.read (by omega)
          have hlast : expect ',' (after ++ ']' :: rest) = none :=
            expect_ne hafter (by decide) (by decide)
          have hclosed : expect ']' (after ++ ']' :: rest) = some rest :=
            expect_eq hafter (by decide)
          simp only [List.append_assoc, readItems, hitem.skip hbefore, hread, hlast, hclosed,
            Option.bind_eq_bind, Option.bind_some]
          rfl
  | _, _, @Items.cons item items before text after more hbefore hitem hafter hmore, rest, fuel,
      hfuel => by
      cases fuel with
      | zero => omega
      | succ fuel =>
          simp only [List.length_append, List.length_cons] at hfuel
          have hread : readValue fuel (text ++ (after ++ ',' :: (more ++ ']' :: rest))) =
              some (item, after ++ ',' :: (more ++ ']' :: rest)) := hitem.read (by omega)
          have hcomma : expect ',' (after ++ ',' :: (more ++ ']' :: rest)) =
              some (more ++ ']' :: rest) := expect_eq hafter (by decide)
          have hitems : readItems fuel (more ++ ']' :: rest) = some (items, rest) :=
            hmore.read (by omega)
          simp only [List.append_assoc, List.cons_append, readItems, hitem.skip hbefore, hread,
            hcomma, hitems, Option.bind_eq_bind, Option.bind_some]
          rfl

theorem Members.read : ∀ {members text}, Members members text → ∀ {rest : List Char} {fuel : Nat},
    text.length < fuel → readMembers fuel (text ++ '\x7d' :: rest) = some (members, rest)
  | _, _, @Members.one name value before key between colon text after hbefore hkey hbetween hcolon
      hvalue hafter, rest, fuel, hfuel => by
      cases fuel with
      | zero => omega
      | succ fuel =>
          simp only [List.length_append, List.length_cons] at hfuel
          have hread : readValue fuel (text ++ (after ++ '\x7d' :: rest)) =
              some (value, after ++ '\x7d' :: rest) := hvalue.read (by omega)
          have hlast : expect ',' (after ++ '\x7d' :: rest) = none :=
            expect_ne hafter (by decide) (by decide)
          have hclosed : expect '\x7d' (after ++ '\x7d' :: rest) = some rest :=
            expect_eq hafter (by decide)
          simp only [List.append_assoc, List.cons_append]
          rw [readMembers_member hbefore hkey hbetween hcolon hvalue (by omega) hread, hlast, hclosed]
          rfl
  | _, _, @Members.cons name value members before key between colon text after more hbefore hkey
      hbetween hcolon hvalue hafter hmore, rest, fuel, hfuel => by
      cases fuel with
      | zero => omega
      | succ fuel =>
          simp only [List.length_append, List.length_cons] at hfuel
          have hread : readValue fuel (text ++ (after ++ ',' :: (more ++ '\x7d' :: rest))) =
              some (value, after ++ ',' :: (more ++ '\x7d' :: rest)) := hvalue.read (by omega)
          have hcomma : expect ',' (after ++ ',' :: (more ++ '\x7d' :: rest)) =
              some (more ++ '\x7d' :: rest) := expect_eq hafter (by decide)
          have hmembers : readMembers fuel (more ++ '\x7d' :: rest) = some (members, rest) :=
            hmore.read (by omega)
          simp only [List.append_assoc, List.cons_append]
          rw [readMembers_member hbefore hkey hbetween hcolon hvalue (by omega) hread, hcomma]
          simp only [hmembers, Option.map_some]

end

/-- **The reader finds the value of every text.** -/
theorem read_of_denotes (h : Denotes text value) : read text = some value := by
  obtain ⟨before, middle, after, hbefore, hmiddle, hafter, rfl⟩ := h
  have hread : readValue ((before ++ middle ++ after).length + 1) (middle ++ after) =
      some (value, after) := by
    refine hmiddle.read ?_
    simp only [List.length_append]
    omega
  have hover : skipBlank after = [] := by
    have hskip : skipBlank (after ++ []) = skipBlank [] := skipBlank_append hafter
    rwa [List.append_nil] at hskip
  rw [read, List.append_assoc, hmiddle.skip hbefore, ← List.append_assoc]
  simp only [hread, hover]
  rfl

/-- **A text denotes one value.** -/
theorem Denotes.unique {value' : Json} (h : Denotes text value) (h' : Denotes text value') :
    value = value' :=
  Option.some.inj ((read_of_denotes h).symm.trans (read_of_denotes h'))

/-! ## §6  The writers -/

/-- The shortest way to write a character. -/
def spell (c : Char) : List Char :=
  if c = '"' then ['\\', '"']
  else if c = '\\' then ['\\', '\\']
  else if c = '\x08' then ['\\', 'b']
  else if c = '\x0c' then ['\\', 'f']
  else if c = '\n' then ['\\', 'n']
  else if c = '\r' then ['\\', 'r']
  else if c = '\t' then ['\\', 't']
  else if c.toNat < 0x20 then
    ['\\', 'u', '0', '0', Nat.digitChar (c.toNat / 16), Nat.digitChar (c.toNat % 16)]
  else [c]

def quote (value : String) : List Char := '"' :: value.toList.flatMap spell ++ ['"']

/-- Where the blanks go. -/
structure Layout where
  /-- before an item at this depth, and before the bracket that closes one level less -/
  newline : Nat → List Char
  colon : List Char

def compact : Layout where
  newline _ := []
  colon := []

def pretty : Layout where
  newline depth := '\n' :: List.replicate (2 * depth) ' '
  colon := [' ']

section Writer

variable (layout : Layout)

mutual

def write (depth : Nat) : Json → List Char
  | .null => ['n', 'u', 'l', 'l']
  | .bool false => ['f', 'a', 'l', 's', 'e']
  | .bool true => ['t', 'r', 'u', 'e']
  | .string value => quote value
  | .array [] => ['[', ']']
  | .array (item :: items) =>
      '[' :: writeItems (depth + 1) (item :: items) ++ layout.newline depth ++ [']']
  | .object [] => ['\x7b', '\x7d']
  | .object (member :: members) =>
      '\x7b' :: writeMembers (depth + 1) (member :: members) ++ layout.newline depth ++ ['\x7d']

def writeItems (depth : Nat) : List Json → List Char
  | [] => []
  | item :: items =>
      layout.newline depth ++ write depth item ++
        match items with
        | [] => []
        | _ :: _ => ',' :: writeItems depth items

def writeMembers (depth : Nat) : List (String × Json) → List Char
  | [] => []
  | (name, value) :: members =>
      layout.newline depth ++ quote name ++ ':' :: layout.colon ++ write depth value ++
        match members with
        | [] => []
        | _ :: _ => ',' :: writeMembers depth members

end

end Writer

theorem hexUnit_control : ∀ n < 0x20,
    hexUnit '0' '0' (Nat.digitChar (n / 16)) (Nat.digitChar (n % 16)) = some n := by decide

theorem spells_spell (c : Char) : Spells c (spell c) := by
  unfold spell
  split_ifs with hquote hbackslash hb hf hn hr ht hcontrol
  · subst hquote
    exact .letter (by decide)
  · subst hbackslash
    exact .letter (by decide)
  · subst hb
    exact .letter (by decide)
  · subst hf
    exact .letter (by decide)
  · subst hn
    exact .letter (by decide)
  · subst hr
    exact .letter (by decide)
  · subst ht
    exact .letter (by decide)
  · exact .unit (hexUnit_control _ hcontrol)
  · exact .plain hquote hbackslash (by omega)

theorem quoted_quote (value : String) : Quoted value (quote value) := by
  refine ⟨value.toList.flatMap spell, ?_, rfl⟩
  induction value.toList with
  | nil => exact .nil
  | cons c characters ih => exact .cons (spells_spell c) ih

structure Layout.Blank (layout : Layout) : Prop where
  newline : ∀ depth, Json.Blank (layout.newline depth)
  colon : Json.Blank layout.colon

theorem blank_compact : compact.Blank where
  newline _ := blank_nil
  colon := blank_nil

theorem blank_pretty : pretty.Blank where
  newline depth := by
    intro c hc
    rcases List.mem_cons.mp hc with rfl | hc
    · decide
    · rw [List.eq_of_mem_replicate hc]
      decide
  colon := by simp [Json.Blank, pretty, isBlank]

section Written

variable {layout : Layout}

mutual

theorem text_write (h : layout.Blank) : ∀ (value : Json) (depth : Nat),
    Text value (write layout depth value)
  | .null, _ => .null
  | .bool false, _ => .falsehood
  | .bool true, _ => .truth
  | .string value, _ => .string (quoted_quote value)
  | .array [], _ => .noItems blank_nil
  | .array (item :: items), depth =>
      .items (items_write h (item :: items) (depth + 1) (by simp) (h.newline depth))
  | .object [], _ => .noMembers blank_nil
  | .object (member :: members), depth =>
      .members (members_write h (member :: members) (depth + 1) (by simp) (h.newline depth))

theorem items_write (h : layout.Blank) : ∀ (items : List Json) (depth : Nat) {after : List Char},
    items ≠ [] → Blank after → Items items (writeItems layout depth items ++ after)
  | [], _, _, hne, _ => absurd rfl hne
  | [item], depth, after, _, hafter => by
      rw [writeItems, List.append_nil]
      exact .one (h.newline depth) (text_write h item depth) hafter
  | item :: next :: items, depth, after, _, hafter => by
      have hmore := items_write h (next :: items) depth (by simp) hafter
      have hitem := Items.cons (h.newline depth) (text_write h item depth) blank_nil hmore
      rw [writeItems]
      simpa only [List.append_assoc, List.append_nil, List.nil_append, List.cons_append] using hitem

theorem members_write (h : layout.Blank) : ∀ (members : List (String × Json)) (depth : Nat)
    {after : List Char}, members ≠ [] → Blank after →
      Members members (writeMembers layout depth members ++ after)
  | [], _, _, hne, _ => absurd rfl hne
  | [(name, value)], depth, after, _, hafter => by
      have hmember := Members.one (h.newline depth) (quoted_quote name) blank_nil h.colon
        (text_write h value depth) hafter
      rw [writeMembers]
      simpa only [List.append_assoc, List.append_nil, List.nil_append, List.cons_append]
        using hmember
  | (name, value) :: next :: members, depth, after, _, hafter => by
      have hmore := members_write h (next :: members) depth (by simp) hafter
      have hmember := Members.cons (h.newline depth) (quoted_quote name) blank_nil h.colon
        (text_write h value depth) blank_nil hmore
      rw [writeMembers]
      simpa only [List.append_assoc, List.append_nil, List.nil_append, List.cons_append]
        using hmember

end

/-- **What is written denotes the value.** -/
theorem denotes_write (h : layout.Blank) (value : Json) : Denotes (write layout 0 value) value :=
  ⟨[], _, [], blank_nil, text_write h value 0, blank_nil, by simp⟩

end Written

example : read (write pretty 0 (.object [("status", .string "\"ok\"\n")])) =
    some (.object [("status", .string "\"ok\"\n")]) :=
  read_of_denotes (denotes_write blank_pretty _)

end Json

end WikiNext.Foundation
