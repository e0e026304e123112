import Mathlib.Data.List.Basic
import Mathlib.Tactic.Common

/-!
# Unix paths

A path is its text. `components` reads the text the way `std::path` does:
repeated and trailing separators and interior `.` disappear, a leading `.` of
a relative path and every `..` stay. `push` appends one component, or replaces
the whole text when the component is absolute.

The main result is that on absolute paths `push` of a plain name is `++` on
components.
-/

namespace WikiNext.Foundation

/-- A file name, as characters. -/
abbrev Name : Type := List Char

inductive Component where
  | rootDir
  | curDir
  | parentDir
  | normal (name : Name)
deriving DecidableEq, Repr

def Component.asOsStr : Component → List Char
  | .rootDir => ['/']
  | .curDir => ['.']
  | .parentDir => ['.', '.']
  | .normal name => name

def Component.isNormal : Component → Bool
  | .normal _ => true
  | _ => false

structure PathBuf where
  text : List Char
deriving DecidableEq, Repr

/-! ## §1  Splitting at separators -/

/-- The pieces between separators; never empty. -/
def segments : List Char → List Name
  | [] => [[]]
  | c :: rest =>
      if c = '/' then [] :: segments rest
      else
        match segments rest with
        | piece :: pieces => (c :: piece) :: pieces
        | [] => [[c]]

theorem segments_ne_nil : ∀ text : List Char, segments text ≠ []
  | [] => by simp [segments]
  | c :: rest => by
      unfold segments
      split
      · simp
      · split <;> simp

theorem segments_cons_of_ne {c : Char} (hc : c ≠ '/') (rest : List Char) :
    ∃ piece pieces, segments rest = piece :: pieces ∧
      segments (c :: rest) = (c :: piece) :: pieces := by
  cases h : segments rest with
  | nil => exact absurd h (segments_ne_nil rest)
  | cons piece pieces =>
      refine ⟨piece, pieces, rfl, ?_⟩
      rw [segments, if_neg hc, h]

/-- A separator between two texts separates their pieces. -/
theorem segments_append_slash (text rest : List Char) :
    segments (text ++ '/' :: rest) = segments text ++ segments rest := by
  induction text with
  | nil => simp [segments]
  | cons c text ih =>
      by_cases hc : c = '/'
      · subst hc
        simp [segments, ih]
      · obtain ⟨piece, pieces, htext, hcons⟩ := segments_cons_of_ne hc text
        rw [List.cons_append, segments, if_neg hc, ih, htext, hcons]
        rfl

theorem segments_of_notMem {name : Name} (h : '/' ∉ name) : segments name = [name] := by
  induction name with
  | nil => rfl
  | cons c rest ih =>
      rw [List.mem_cons, not_or] at h
      rw [segments, if_neg (Ne.symm h.1), ih h.2]

theorem notMem_of_mem_segments {text : List Char} {name : Name} (h : name ∈ segments text) :
    '/' ∉ name := by
  induction text generalizing name with
  | nil => simp_all [segments]
  | cons c rest ih =>
      by_cases hc : c = '/'
      · rw [segments, if_pos hc, List.mem_cons] at h
        rcases h with rfl | h
        · simp
        · exact ih h
      · obtain ⟨piece, pieces, hrest, hcons⟩ := segments_cons_of_ne hc rest
        rw [hcons, List.mem_cons] at h
        rcases h with rfl | h
        · rw [List.mem_cons, not_or]
          exact ⟨Ne.symm hc, ih (by simp [hrest])⟩
        · exact ih (by simp [hrest, h])

/-! ## §2  Components -/

/-- What one piece contributes. -/
def segmentComponent (piece : Name) : Option Component :=
  if piece = [] ∨ piece = ['.'] then none
  else if piece = ['.', '.'] then some .parentDir
  else some (.normal piece)

namespace PathBuf

def isAbsolute (path : PathBuf) : Bool := path.text.head? == some '/'

def components (path : PathBuf) : List Component :=
  let body := (segments path.text).filterMap segmentComponent
  if path.isAbsolute then .rootDir :: body
  else if (segments path.text).head? = some ['.'] then .curDir :: body
  else body

/-- `PathBuf::push` -/
def push (path : PathBuf) (piece : List Char) : PathBuf :=
  if piece.head? = some '/' then ⟨piece⟩
  else if path.text = [] ∨ path.text.getLast? = some '/' then ⟨path.text ++ piece⟩
  else ⟨path.text ++ '/' :: piece⟩

/-- `Path::join` -/
def join (path : PathBuf) (piece : List Char) : PathBuf := path.push piece

end PathBuf

/-- A name that stands for itself as one component. -/
structure PlainName (name : Name) : Prop where
  nonempty : name ≠ []
  not_cur : name ≠ ['.']
  not_parent : name ≠ ['.', '.']
  no_slash : '/' ∉ name

theorem segmentComponent_plain {name : Name} (h : PlainName name) :
    segmentComponent name = some (.normal name) := by
  simp [segmentComponent, h.nonempty, h.not_cur, h.not_parent]

theorem plainName_of_mem_components {path : PathBuf} {name : Name}
    (h : .normal name ∈ path.components) : PlainName name := by
  have hbody : Component.normal name ∈ (segments path.text).filterMap segmentComponent := by
    simp only [PathBuf.components] at h
    split_ifs at h <;> simpa using h
  obtain ⟨piece, hmem, hpiece⟩ := List.mem_filterMap.mp hbody
  simp only [segmentComponent] at hpiece
  split_ifs at hpiece with hskip hparent
  · exact absurd (Option.some.inj hpiece) (by simp)
  · obtain rfl : piece = name := by simpa using hpiece
    exact {
      nonempty := fun h => hskip (Or.inl h)
      not_cur := fun h => hskip (Or.inr h)
      not_parent := hparent
      no_slash := notMem_of_mem_segments hmem }

theorem components_of_absolute {path : PathBuf} (h : path.isAbsolute = true) :
    path.components = .rootDir :: (segments path.text).filterMap segmentComponent := by
  simp [PathBuf.components, h]

theorem rootDir_notMem_pieces (pieces : List Name) :
    Component.rootDir ∉ pieces.filterMap segmentComponent := by
  intro h
  obtain ⟨piece, -, hpiece⟩ := List.mem_filterMap.mp h
  simp only [segmentComponent] at hpiece
  split_ifs at hpiece <;> simp at hpiece

theorem rootDir_mem_components_iff {path : PathBuf} :
    .rootDir ∈ path.components ↔ path.isAbsolute = true := by
  have hbody := rootDir_notMem_pieces (segments path.text)
  simp only [PathBuf.components]
  split_ifs with habs hcur <;> simp [habs, hbody]

/-! ## §3  `push` is append -/

theorem PlainName.head?_ne {name : Name} (h : PlainName name) : name.head? ≠ some '/' := by
  intro hhead
  cases name with
  | nil => simp at hhead
  | cons c rest =>
      have : c = '/' := by simpa using hhead
      exact h.no_slash (by simp [this])

/-- **`push` is append.** A plain name pushed on an absolute path becomes its
last component. -/
theorem components_push {path : PathBuf} (habs : path.isAbsolute = true) {name : Name}
    (hname : PlainName name) :
    (path.push name).isAbsolute = true ∧
      (path.push name).components = path.components ++ [.normal name] := by
  have hne : path.text ≠ [] := by
    rintro hnil
    simp [PathBuf.isAbsolute, hnil] at habs
  have habs' : (path.push name).isAbsolute = true := by
    obtain ⟨c, rest, htext⟩ := List.exists_cons_of_ne_nil hne
    simp only [PathBuf.push, if_neg hname.head?_ne]
    split_ifs <;> simpa [PathBuf.isAbsolute, htext] using habs
  refine ⟨habs', ?_⟩
  have hpiece : (segments name).filterMap segmentComponent = [.normal name] := by
    rw [segments_of_notMem hname.no_slash]
    simp [segmentComponent_plain hname]
  rw [components_of_absolute habs', components_of_absolute habs, List.cons_append]
  congr 1
  rw [PathBuf.push, if_neg hname.head?_ne]
  by_cases hlast : path.text.getLast? = some '/'
  · -- the text ends in a separator, whose empty piece contributes nothing
    obtain ⟨front, hfront⟩ := List.getLast?_eq_some_iff.mp hlast
    rw [if_pos (Or.inr hlast), hfront]
    show (segments (front ++ ['/'] ++ name)).filterMap segmentComponent = _
    rw [List.append_assoc, List.singleton_append, segments_append_slash,
      segments_append_slash, List.filterMap_append, List.filterMap_append, hpiece]
    simp [segments, segmentComponent]
  · rw [if_neg (by simp [hne, hlast])]
    show (segments (path.text ++ '/' :: name)).filterMap segmentComponent = _
    rw [segments_append_slash, List.filterMap_append, hpiece]

/-! ## §4  Plain absolute paths -/

/-- `path` is the absolute path that names `names` from the root, without `.`
and `..`. -/
def PathBuf.At (path : PathBuf) (names : List Name) : Prop :=
  path.components = .rootDir :: names.map .normal

namespace PathBuf.At

variable {path : PathBuf} {names : List Name}

theorem isAbsolute (h : path.At names) : path.isAbsolute = true :=
  rootDir_mem_components_iff.mp (by rw [h]; simp)

theorem plainName (h : path.At names) {name : Name} (hmem : name ∈ names) : PlainName name := by
  have hcomponent : Component.normal name ∈ path.components := by
    rw [h]
    simpa using hmem
  exact plainName_of_mem_components hcomponent

theorem push (h : path.At names) {name : Name} (hname : PlainName name) :
    (path.push name).At (names ++ [name]) := by
  have := (components_push h.isAbsolute hname).2
  rw [h] at this
  simpa [PathBuf.At] using this

theorem unique {names' : List Name} (h : path.At names) (h' : path.At names') :
    names = names' := by
  have heq : names.map Component.normal = names'.map Component.normal :=
    (List.cons.inj (h.symm.trans h')).2
  exact List.map_injective_iff.mpr (fun _ _ hc => by simpa using hc) heq

end PathBuf.At

/-- The root path names the root. -/
theorem at_root : PathBuf.At ⟨['/']⟩ [] := by
  show PathBuf.components ⟨['/']⟩ = [.rootDir]
  decide

/-- An absolute path without `..` names a list of plain names. -/
theorem exists_at_of_absolute {path : PathBuf} (habs : path.isAbsolute = true)
    (hclean : .parentDir ∉ path.components) : ∃ names, path.At names := by
  rw [components_of_absolute habs] at hclean
  have hall : ∀ pieces : List Name,
      Component.parentDir ∉ pieces.filterMap segmentComponent →
        ∃ names : List Name,
          pieces.filterMap segmentComponent = names.map Component.normal := by
    intro pieces
    induction pieces with
    | nil => exact fun _ => ⟨[], rfl⟩
    | cons piece pieces ih =>
        intro hnot
        rw [List.filterMap_cons] at hnot ⊢
        cases hpiece : segmentComponent piece with
        | none =>
            simp only [hpiece] at hnot ⊢
            exact ih hnot
        | some c =>
            simp only [hpiece, List.mem_cons, not_or] at hnot ⊢
            obtain ⟨names, hnames⟩ := ih hnot.2
            simp only [segmentComponent] at hpiece
            split_ifs at hpiece with hskip hparent
            · exact absurd (Option.some.inj hpiece) hnot.1
            · cases hpiece
              exact ⟨piece :: names, by simp [hnames]⟩
  obtain ⟨names, hnames⟩ := hall _ (fun h => hclean (List.mem_cons_of_mem _ h))
  exact ⟨names, by rw [PathBuf.At, components_of_absolute habs, hnames]⟩

/-- The plain names among components. -/
def normalNames (parts : List Component) : List Name :=
  parts.filterMap fun
    | .normal name => some name
    | _ => none

theorem mem_normalNames {parts : List Component} {name : Name} :
    name ∈ normalNames parts ↔ .normal name ∈ parts := by
  rw [normalNames, List.mem_filterMap]
  constructor
  · rintro ⟨c, hc, hsome⟩
    cases c with
    | normal n =>
        cases hsome
        exact hc
    | _ => cases hsome
  · exact fun h => ⟨.normal name, h, rfl⟩

@[simp] theorem normalNames_map (names : List Name) :
    normalNames (names.map .normal) = names := by
  rw [normalNames, List.filterMap_map]
  exact List.filterMap_some

theorem filter_isNormal (parts : List Component) :
    parts.filter Component.isNormal = (normalNames parts).map .normal := by
  induction parts with
  | nil => rfl
  | cons c parts ih =>
      cases c with
      | normal name =>
          rw [List.filter_cons_of_pos rfl, ih]
          rfl
      | _ => exact ih

def PathBuf.names (path : PathBuf) : List Name := normalNames path.components

theorem PathBuf.any_parentDir_iff (path : PathBuf) :
    path.components.any (· == .parentDir) = true ↔ .parentDir ∈ path.components := by
  simp [List.any_eq_true]

theorem PathBuf.any_isNormal_iff (path : PathBuf) :
    path.components.any Component.isNormal = true ↔ path.names ≠ [] := by
  rw [List.any_eq_true]
  constructor
  · rintro ⟨c, hc, hnormal⟩ hnil
    cases c with
    | normal name =>
        have hmem : name ∈ path.names := mem_normalNames.mpr hc
        rw [hnil] at hmem
        simp at hmem
    | _ => simp [Component.isNormal] at hnormal
  · intro hne
    obtain ⟨name, hname⟩ := List.exists_mem_of_ne_nil _ hne
    exact ⟨.normal name, mem_normalNames.mp hname, rfl⟩

theorem PathBuf.At.names_eq {path : PathBuf} {names : List Name} (h : path.At names) :
    path.names = names := by
  rw [PathBuf.names, h]
  exact normalNames_map names

theorem at_names_of_absolute {path : PathBuf} (habs : path.isAbsolute = true)
    (hclean : .parentDir ∉ path.components) : path.At path.names := by
  obtain ⟨names, hnames⟩ := exists_at_of_absolute habs hclean
  rwa [hnames.names_eq]

/-! ## §5  Paths from components, and parents -/

/-- `components.iter().collect::<PathBuf>()` -/
def PathBuf.ofComponents (parts : List Component) : PathBuf :=
  parts.foldl (fun path component => path.push component.asOsStr) ⟨[]⟩

/-- `Path::parent`: the path without its last component, and nothing for `/`
and for the empty path. -/
def PathBuf.parent (path : PathBuf) : Option PathBuf :=
  match path.components.getLast? with
  | none | some .rootDir => none
  | some _ => some (.ofComponents path.components.dropLast)

/-- Pushing plain names one by one appends them all. -/
theorem PathBuf.At.foldl_push {path : PathBuf} {front : List Name} (h : path.At front)
    {back : List Name} (hback : ∀ name ∈ back, PlainName name) :
    ((back.map Component.normal).foldl (fun path c => path.push c.asOsStr) path).At
      (front ++ back) := by
  induction back generalizing path front with
  | nil => simpa using h
  | cons name back ih =>
      rw [List.map_cons, List.foldl_cons]
      have hpush := h.push (hback name (List.mem_cons_self ..))
      have := ih hpush (fun n hn => hback n (List.mem_cons_of_mem _ hn))
      rwa [List.append_assoc, List.singleton_append] at this

/-- The path of a list of plain names from the root. -/
theorem at_ofComponents {names : List Name} (h : ∀ name ∈ names, PlainName name) :
    (PathBuf.ofComponents (.rootDir :: names.map .normal)).At names :=
  at_root.foldl_push h

theorem PathBuf.At.parent {path : PathBuf} {front : List Name} {name : Name}
    (h : path.At (front ++ [name])) : ∃ parent, path.parent = some parent ∧ parent.At front := by
  refine ⟨.ofComponents (.rootDir :: front.map .normal), ?_, ?_⟩
  · have hlast : path.components = (.rootDir :: front.map .normal) ++ [.normal name] := by
      rw [h]
      simp
    rw [PathBuf.parent, hlast, List.getLast?_concat, List.dropLast_concat]
  · exact at_ofComponents (fun n hn => h.plainName (List.mem_append_left _ hn))

example : (PathBuf.mk "/srv//wiki/./data/".toList).components =
    [.rootDir, .normal "srv".toList, .normal "wiki".toList, .normal "data".toList] := by decide

end WikiNext.Foundation
