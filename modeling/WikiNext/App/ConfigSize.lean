import WikiNext.App.ConfigLoaders

/-!
# The size limit of the configuration

`read_bounded` cuts a file one byte after the limit and decodes what is left of
it before it looks at the size.
-/

namespace WikiNext.App

open WikiNext.Foundation

/-- What the limit is for, at a file that holds `text`: the size alone decides
whether the text is read, and a longer file is reported as too large. -/
def SizeDecides (files : Files) (path text : String) : Prop :=
  (readBounded files path = .ok text ↔ text.utf8ByteSize ≤ MAX_CONFIG_BYTES) ∧
  (MAX_CONFIG_BYTES < text.utf8ByteSize →
    readBounded files path = .error (.tooLarge path MAX_CONFIG_BYTES))

/-- No character of `text` lies across the cut. -/
def CutBetweenCharacters (text : String) : Prop :=
  text.utf8ByteSize ≤ MAX_CONFIG_BYTES ∨
    ∃ front rest : String, text = front ++ rest ∧ front.utf8ByteSize = MAX_CONFIG_BYTES + 1

section Reading

variable {files : Files} {path text : String}

theorem readBounded_tooLarge {front rest : String}
    (hsize : front.utf8ByteSize = MAX_CONFIG_BYTES + 1)
    (h : files path = .ok (front ++ rest).toByteArray.data.toList) :
    readBounded files path = .error (.tooLarge path MAX_CONFIG_BYTES) := by
  rw [readBounded, h, ← hsize]
  simp only [fromUTF8?_take_append]
  rw [if_pos (by omega)]

/-- A character across the cut hides the size. -/
theorem readBounded_split (h : files path = .ok text.toByteArray.data.toList)
    (hcut : ¬ CutBetweenCharacters text) :
    readBounded files path = .error (.read path .invalidUtf8) := by
  obtain ⟨hsize, hcut⟩ := not_or.mp hcut
  rw [readBounded, h]
  simp only [fromUTF8?_take_eq_none (Nat.lt_of_not_le hsize) hcut]

theorem cut_of_sizeDecides (h : files path = .ok text.toByteArray.data.toList)
    (hdecides : SizeDecides files path text) : CutBetweenCharacters text := by
  by_contra hcut
  have hlarge : MAX_CONFIG_BYTES < text.utf8ByteSize :=
    Nat.lt_of_not_le fun hsize => hcut (Or.inl hsize)
  have hread := hdecides.2 hlarge
  rw [readBounded_split h hcut] at hread
  cases hread

theorem sizeDecides_of_cut (h : files path = .ok text.toByteArray.data.toList)
    (hcut : CutBetweenCharacters text) : SizeDecides files path text := by
  rcases hcut with hsize | ⟨front, rest, rfl, hfront⟩
  · exact ⟨iff_of_true (readBounded_text h hsize) hsize,
      fun hlarge => absurd hsize (Nat.not_le_of_lt hlarge)⟩
  · have hlarge : MAX_CONFIG_BYTES < (front ++ rest).utf8ByteSize := by
      rw [String.utf8ByteSize_append]
      omega
    have hread := readBounded_tooLarge hfront h
    exact ⟨iff_of_false (by simp [hread]) (Nat.not_le_of_lt hlarge), fun _ => hread⟩

end Reading

/-- **When size alone decides.** Exactly when no character of the file lies
across the cut; a file that is cut through a character is reported as
unreadable instead of too large. -/
theorem config_size_limit (files : Files) (path text : String)
    (h : files path = .ok text.toByteArray.data.toList) :
    (SizeDecides files path text ↔ CutBetweenCharacters text) ∧
    (¬ CutBetweenCharacters text →
      readBounded files path = .error (.read path .invalidUtf8)) :=
  ⟨⟨cut_of_sizeDecides h, sizeDecides_of_cut h⟩, readBounded_split h⟩

theorem config_size_limit_smallFile : SizeDecides smallFiles "config.toml" smallText :=
  (config_size_limit smallFiles "config.toml" smallText rfl).1.mpr (Or.inl (by decide +kernel))

/-! A comment as long as the limit, and one Cyrillic letter behind it. -/

/-- A wide character that begins at the limit lies across the cut. -/
theorem not_cut_push {front : String} (hfront : front.utf8ByteSize = MAX_CONFIG_BYTES) {c : Char}
    (hwide : 1 < c.utf8Size) : ¬ CutBetweenCharacters (front.push c) := by
  rintro (hsize | ⟨before, rest, happend, hbefore⟩)
  · rw [String.utf8ByteSize_push] at hsize
    omega
  · have hpos : (⟨MAX_CONFIG_BYTES + 1⟩ : String.Pos.Raw).IsValid (front.push c) :=
      String.Pos.Raw.isValid_iff_exists_append.mpr
        ⟨before, rest, happend, String.Pos.Raw.ext hbefore.symm⟩
    rcases String.Pos.Raw.isValid_push.mp hpos with hpos | hpos
    · have hle : MAX_CONFIG_BYTES + 1 ≤ front.utf8ByteSize := hpos.le_rawEndPos
      omega
    · have heq : MAX_CONFIG_BYTES + 1 = front.utf8ByteSize + c.utf8Size :=
        congrArg String.Pos.Raw.byteIdx hpos
      omega

def hashes (n : Nat) : String := String.ofList (List.replicate n '#')

theorem utf8ByteSize_hashes (n : Nat) : (hashes n).utf8ByteSize = n := by
  induction n with
  | zero => rfl
  | succ n ih =>
      rw [hashes, List.replicate_succ', String.ofList_append, String.utf8ByteSize_append]
      show (hashes n).utf8ByteSize + 1 = n + 1
      rw [ih]

def straddlingText : String := (hashes MAX_CONFIG_BYTES).push 'ы'

def straddlingFiles : Files := fun _ => .ok straddlingText.toByteArray.data.toList

theorem straddlingText_not_cut : ¬ CutBetweenCharacters straddlingText := by
  rw [straddlingText]
  exact not_cut_push (utf8ByteSize_hashes MAX_CONFIG_BYTES) (by decide)

theorem straddlingText_not_sizeDecides :
    ¬ SizeDecides straddlingFiles "config.toml" straddlingText := by
  have hfile : straddlingFiles "config.toml" = .ok straddlingText.toByteArray.data.toList := rfl
  exact fun hdecides => straddlingText_not_cut (cut_of_sizeDecides hfile hdecides)

end WikiNext.App
