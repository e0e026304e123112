import Mathlib.Algebra.Group.Nat.Defs
import Mathlib.Data.List.Infix
import WikiNext.Foundation.UnixPath

/-!
# File trees

A tree of directories, files and symbolic links, as a map from the list of
names that leads to a node. Two fields keep it a tree: the root is a
directory, and so is the parent of every node.

§1 the tree, §2 obstructions on the way to a name, §3 path lookup with links,
§4 metadata, §5 nodes that are added and removed, §6 lookup of plain paths,
§7 trees that grew by directories only.
-/

namespace WikiNext.Foundation

/-- Permission bits: set-id and sticky bits above the nine `rwx` bits. -/
abbrev Mode : Type := BitVec 12

inductive Node where
  | dir (mode : Mode)
  | file (mode : Mode) (content : List UInt8)
  | symlink (target : PathBuf)
deriving DecidableEq

def Node.isDir : Node → Bool
  | .dir _ => true
  | _ => false

/-! ## §1  The tree -/

@[ext] structure FileSystem where
  node : List Name → Option Node
  root_dir : ∃ mode, node [] = some (.dir mode)
  parent_dir : ∀ front name, node (front ++ [name]) ≠ none → ∃ mode, node front = some (.dir mode)

namespace FileSystem

variable {fs : FileSystem}

def IsDir (fs : FileSystem) (names : List Name) : Prop :=
  ∃ mode, fs.node names = some (.dir mode)

instance (fs : FileSystem) (names : List Name) : Decidable (fs.IsDir names) :=
  match h : fs.node names with
  | some (.dir mode) => .isTrue ⟨mode, h⟩
  | none => .isFalse (by rintro ⟨_, h'⟩; simp [h] at h')
  | some (.file ..) => .isFalse (by rintro ⟨_, h'⟩; simp [h] at h')
  | some (.symlink _) => .isFalse (by rintro ⟨_, h'⟩; simp [h] at h')

theorem IsDir.ne_none {names : List Name} (h : fs.IsDir names) : fs.node names ≠ none := by
  obtain ⟨mode, hmode⟩ := h
  simp [hmode]

theorem isDir_iff {names : List Name} {node : Node} (h : fs.node names = some node) :
    fs.IsDir names ↔ node.isDir = true := by
  cases node <;> simp [IsDir, h, Node.isDir]

/-- Every proper prefix of a node's names is a directory. -/
theorem isDir_of_append {front back : List Name} (hback : back ≠ [])
    (h : fs.node (front ++ back) ≠ none) : fs.IsDir front := by
  induction back using List.reverseRecOn with
  | nil => exact absurd rfl hback
  | append_singleton back name ih =>
      rw [← List.append_assoc] at h
      have hparent : fs.IsDir (front ++ back) := fs.parent_dir _ _ h
      by_cases hnil : back = []
      · simpa [hnil] using hparent
      · exact ih hnil hparent.ne_none

theorem IsDir.above {names front : List Name} (h : fs.IsDir names) (hfront : front <+: names) :
    fs.IsDir front := by
  obtain ⟨back, rfl⟩ := hfront
  by_cases hback : back = []
  · simpa [hback] using h
  · exact isDir_of_append hback h.ne_none

theorem node_append_eq_none {front : List Name} (h : fs.node front = none) (back : List Name) :
    fs.node (front ++ back) = none := by
  by_cases hback : back = []
  · simpa [hback] using h
  · by_contra hne
    exact (isDir_of_append hback hne).ne_none h

/-! ## §2  Unobstructed names -/

/-- Whatever exists on the way to `names`, the last one included, is a directory. -/
def Unobstructed (fs : FileSystem) (names : List Name) : Prop :=
  ∀ front, front <+: names → fs.node front ≠ none → fs.IsDir front

theorem Unobstructed.above {names front : List Name} (h : fs.Unobstructed names)
    (hfront : front <+: names) : fs.Unobstructed front :=
  fun p hp => h p (hp.trans hfront)

theorem IsDir.unobstructed {names : List Name} (h : fs.IsDir names) : fs.Unobstructed names :=
  fun _ hfront _ => h.above hfront

theorem unobstructed_append_singleton {front : List Name} {name : Name}
    (h : fs.Unobstructed front)
    (hlast : fs.node (front ++ [name]) ≠ none → fs.IsDir (front ++ [name])) :
    fs.Unobstructed (front ++ [name]) := by
  intro p hp hnode
  rcases List.prefix_concat_iff.mp hp with rfl | hp
  · exact hlast hnode
  · exact h p hp hnode

/-- Names that leave the tree below a directory are unobstructed. -/
theorem unobstructed_of_leaves {front : List Name} {name : Name} (hdir : fs.IsDir front)
    (hnone : fs.node (front ++ [name]) = none) (back : List Name) :
    fs.Unobstructed (front ++ name :: back) := by
  intro p hp hnode
  by_cases hlen : p.length ≤ front.length
  · exact hdir.above (List.prefix_of_prefix_length_le hp (List.prefix_append ..) hlen)
  · have hlonger : (front ++ [name]).length ≤ p.length := by
      simp only [List.length_append, List.length_singleton]
      omega
    have hsub : front ++ [name] <+: p :=
      List.prefix_of_prefix_length_le ⟨back, by simp⟩ hp hlonger
    obtain ⟨rest, rfl⟩ := hsub
    exact absurd (node_append_eq_none hnone rest) hnode

/-- Unobstructed names lead to a directory, or leave the tree below one. -/
theorem Unobstructed.isDir_or_leaves {names : List Name} (h : fs.Unobstructed names) :
    fs.IsDir names ∨ ∃ front name back, names = front ++ name :: back ∧ fs.IsDir front ∧
      fs.node (front ++ [name]) = none := by
  induction names using List.reverseRecOn with
  | nil => exact Or.inl fs.root_dir
  | append_singleton names name ih =>
      by_cases hnode : fs.node (names ++ [name]) = none
      · rcases ih (h.above (List.prefix_append ..)) with hdir | ⟨front, n, back, rfl, hdir, hn⟩
        · exact Or.inr ⟨names, name, [], rfl, hdir, hnode⟩
        · exact Or.inr ⟨front, n, back ++ [name], by simp, hdir, hn⟩
      · exact Or.inl (h _ (List.prefix_refl _) hnode)

end FileSystem

/-! ## §3  Path lookup -/

/-- A system call the machine turns down for a reason outside the tree: denied
permission, a full or read-only disk, an interrupted or oversized request. -/
inductive Refusal where
  | permissionDenied
  | storageFull
  | readOnlyFilesystem
  | other (code : Nat)
deriving DecidableEq, Repr

/-- `std::io::Error`, by kind. -/
inductive IoError where
  | notFound
  | alreadyExists
  | notADirectory
  | isADirectory
  | filesystemLoop
  | refused (refusal : Refusal)
deriving DecidableEq, Repr

/-- Where a path leads: a directory that is already there, or an entry of one. -/
inductive Place where
  | directory (names : List Name)
  | entry (parent : List Name) (name : Name)
deriving DecidableEq

def Place.names : Place → List Name
  | .directory names => names
  | .entry parent name => parent ++ [name]

namespace FileSystem

/-- Follow components from `dir`; `onLink` continues behind a symbolic link. -/
def walkUntilLink (fs : FileSystem) (follow : Bool)
    (onLink : List Component → List Name → Except IoError Place) :
    List Component → List Name → Except IoError Place
  | [], dir => .ok (.directory dir)
  | .rootDir :: rest, _ => walkUntilLink fs follow onLink rest []
  | .curDir :: rest, dir => walkUntilLink fs follow onLink rest dir
  | .parentDir :: rest, dir => walkUntilLink fs follow onLink rest dir.dropLast
  | .normal name :: rest, dir =>
      match fs.node (dir ++ [name]) with
      | some (.symlink target) =>
          if rest = [] ∧ follow = false then .ok (.entry dir name)
          else onLink (target.components ++ rest) dir
      | some (.dir _) =>
          if rest = [] then .ok (.entry dir name)
          else walkUntilLink fs follow onLink rest (dir ++ [name])
      | some (.file ..) => if rest = [] then .ok (.entry dir name) else .error .notADirectory
      | none => if rest = [] then .ok (.entry dir name) else .error .notFound

/-- At most `links` symbolic links are followed on the way. -/
def walk (fs : FileSystem) (follow : Bool) :
    (links : Nat) → List Component → List Name → Except IoError Place
  | 0 => walkUntilLink fs follow (fun _ _ => .error .filesystemLoop)
  | links + 1 => walkUntilLink fs follow (walk fs follow links)

/-- Resolve `path` from the working directory `cwd`; a link in last position
is followed only if `follow` says so. -/
def lookup (fs : FileSystem) (follow : Bool) (cwd : List Name) (path : PathBuf) :
    Except IoError Place :=
  if path.text = [] then .error .notFound
  else fs.walk follow 40 path.components cwd

/-- The node at `names`, or the reason that there is none. -/
def found (fs : FileSystem) (names : List Name) : Except IoError Node :=
  match fs.node names with
  | none => .error .notFound
  | some node => .ok node

/-- The node a path names. -/
def nodeAt (fs : FileSystem) (follow : Bool) (cwd : List Name) (path : PathBuf) :
    Except IoError Node := do
  let place ← fs.lookup follow cwd path
  fs.found place.names

end FileSystem

/-! ## §4  Metadata -/

inductive FileType where
  | dir
  | file
  | symlink
deriving DecidableEq, Repr

/-- `std::fs::Metadata`: the type of the node and its `st_mode` word. -/
structure Metadata where
  file_type : FileType
  st_mode : BitVec 32
deriving DecidableEq, Repr

namespace Metadata

def is_dir (metadata : Metadata) : Bool := metadata.file_type == .dir
def is_symlink (metadata : Metadata) : Bool := metadata.file_type == .symlink

/-- The permission bits of the `st_mode` word. -/
def mode (metadata : Metadata) : BitVec 32 := metadata.st_mode

end Metadata

def Node.metadata : Node → Metadata
  | .dir mode => ⟨.dir, 0o040000#32 ||| mode.setWidth 32⟩
  | .file mode _ => ⟨.file, 0o100000#32 ||| mode.setWidth 32⟩
  | .symlink _ => ⟨.symlink, 0o120777#32⟩

/-- Masking with `0o7777` drops the file type of a directory. -/
theorem dir_mode_masked (mode : Mode) :
    (Node.dir mode).metadata.mode &&& 0o7777#32 = mode.setWidth 32 := by
  apply BitVec.eq_of_toNat_eq
  have hlt : mode.toNat < 2 ^ 12 := mode.isLt
  have hmask : ∀ n : Nat, n &&& 4095 = n % 2 ^ 12 := fun n => Nat.and_two_pow_sub_one_eq_mod n 12
  simp only [Node.metadata, Metadata.mode, BitVec.toNat_and, BitVec.toNat_or,
    BitVec.toNat_setWidth, BitVec.toNat_ofNat]
  rw [Nat.mod_eq_of_lt (show mode.toNat < 2 ^ 32 by omega)]
  show (16384 ||| mode.toNat) &&& 4095 = mode.toNat
  rw [hmask, Nat.or_mod_two_pow, Nat.mod_eq_of_lt hlt]
  simp

theorem setWidth_mode_inj {mode mode' : Mode} (h : mode.setWidth 32 = mode'.setWidth 32) :
    mode = mode' := by
  apply BitVec.eq_of_toNat_eq
  have hnat := congrArg BitVec.toNat h
  simp only [BitVec.toNat_setWidth] at hnat
  have hlt := mode.isLt
  have hlt' := mode'.isLt
  omega

/-! ## §5  Adding and removing nodes -/

namespace FileSystem

variable {fs : FileSystem}

/-- The permission bits of the directory at `names`. -/
def modeAt (fs : FileSystem) (names : List Name) : Mode :=
  match fs.node names with
  | some (.dir mode) => mode
  | _ => 0

theorem modeAt_eq {names : List Name} {mode : Mode} (h : fs.node names = some (.dir mode)) :
    fs.modeAt names = mode := by
  simp [modeAt, h]

theorem IsDir.node_eq {names : List Name} (h : fs.IsDir names) :
    fs.node names = some (.dir (fs.modeAt names)) := by
  obtain ⟨mode, hmode⟩ := h
  rw [modeAt_eq hmode, hmode]

/-- Put a node where none was, into a directory. -/
def add (fs : FileSystem) (parent : List Name) (name : Name) (node : Node)
    (hparent : fs.IsDir parent) (hfree : fs.node (parent ++ [name]) = none) : FileSystem where
  node names := if names = parent ++ [name] then some node else fs.node names
  root_dir := by
    obtain ⟨mode, hmode⟩ := fs.root_dir
    exact ⟨mode, by simpa using hmode⟩
  parent_dir := by
    intro front n hnode
    have hfront : fs.IsDir front := by
      by_cases heq : front ++ [n] = parent ++ [name]
      · rw [(List.append_inj' heq rfl).1]
        exact hparent
      · rw [if_neg heq] at hnode
        exact fs.parent_dir _ _ hnode
    obtain ⟨mode, hmode⟩ := hfront
    refine ⟨mode, ?_⟩
    rw [if_neg, hmode]
    rintro rfl
    simp [hmode] at hfree

@[simp] theorem add_node (parent : List Name) (name : Name) (node : Node)
    (hparent : fs.IsDir parent) (hfree : fs.node (parent ++ [name]) = none) (names : List Name) :
    (fs.add parent name node hparent hfree).node names =
      if names = parent ++ [name] then some node else fs.node names := rfl

/-- Remove a node that is not a directory. -/
def remove (fs : FileSystem) (names : List Name) (h : ¬ fs.IsDir names) : FileSystem where
  node names' := if names' = names then none else fs.node names'
  root_dir := by
    obtain ⟨mode, hmode⟩ := fs.root_dir
    refine ⟨mode, ?_⟩
    rw [if_neg, hmode]
    rintro rfl
    exact h ⟨mode, hmode⟩
  parent_dir := by
    intro front name hnode
    split at hnode
    · exact absurd rfl hnode
    · obtain ⟨mode, hmode⟩ := fs.parent_dir _ _ hnode
      refine ⟨mode, ?_⟩
      rw [if_neg, hmode]
      rintro rfl
      exact h ⟨mode, hmode⟩

@[simp] theorem remove_node (names : List Name) (h : ¬ fs.IsDir names) (names' : List Name) :
    (fs.remove names h).node names' = if names' = names then none else fs.node names' := rfl

/-- Create an entry; the new node may depend on the mode of its directory. -/
def create (fs : FileSystem) (node : Mode → Node) : Place → Except IoError FileSystem
  | .directory _ => .error .alreadyExists
  | .entry parent name =>
      if h : fs.IsDir parent ∧ fs.node (parent ++ [name]) = none then
        .ok (fs.add parent name (node (fs.modeAt parent)) h.1 h.2)
      else .error .alreadyExists

/-- A node that was added and removed again leaves no trace. -/
theorem remove_add {parent : List Name} {name : Name} {node : Node} (hparent : fs.IsDir parent)
    (hfree : fs.node (parent ++ [name]) = none)
    (h : ¬ (fs.add parent name node hparent hfree).IsDir (parent ++ [name])) :
    (fs.add parent name node hparent hfree).remove (parent ++ [name]) h = fs := by
  ext1
  funext names
  rw [remove_node, add_node]
  by_cases hnames : names = parent ++ [name]
  · rw [if_pos hnames, hnames, hfree]
  · rw [if_neg hnames, if_neg hnames]

/-- `unlink` -/
def unlink (fs : FileSystem) (place : Place) : Except IoError FileSystem :=
  if fs.node place.names = none then .error .notFound
  else if h : fs.IsDir place.names then .error .isADirectory
  else .ok (fs.remove place.names h)

theorem unlink_of_file {place : Place} (hthere : fs.node place.names ≠ none)
    (hfile : ¬ fs.IsDir place.names) : fs.unlink place = .ok (fs.remove place.names hfile) := by
  rw [unlink, if_neg hthere, dif_neg hfile]

/-! ## §6  Lookup of plain paths -/

/-- Names that stay inside real directories are walked one by one. -/
theorem walkUntilLink_normal {follow : Bool}
    {onLink : List Component → List Name → Except IoError Place} (front : List Name)
    {back : List Name} (hdir : fs.IsDir (front ++ back)) {rest : List Component}
    (hrest : rest ≠ []) :
    fs.walkUntilLink follow onLink (back.map .normal ++ rest) front =
      fs.walkUntilLink follow onLink rest (front ++ back) := by
  induction back generalizing front with
  | nil => simp
  | cons name back ih =>
      have hname : fs.IsDir (front ++ [name]) := hdir.above (by simp)
      obtain ⟨mode, hmode⟩ := hname
      rw [List.map_cons, List.cons_append, walkUntilLink, hmode]
      simp only [List.append_eq_nil_iff, hrest, and_false, if_false]
      rw [ih _ (by simpa using hdir)]
      simp

/-- How every walk of a plain path begins. -/
theorem lookup_at {path : PathBuf} {names : List Name} (h : path.At names) (follow : Bool)
    (cwd : List Name) :
    fs.lookup follow cwd path =
      fs.walkUntilLink follow (fs.walk follow 39) (names.map .normal) [] := by
  have htext : path.text ≠ [] := by
    intro hnil
    have := h.isAbsolute
    simp [PathBuf.isAbsolute, hnil] at this
  rw [lookup, if_neg htext, h]
  rfl

theorem lookup_root {path : PathBuf} (h : path.At []) (follow : Bool) (cwd : List Name) :
    fs.lookup follow cwd path = .ok (.directory []) := by
  rw [lookup_at h]
  rfl

theorem lookup_entry {path : PathBuf} {front : List Name} {name : Name}
    (h : path.At (front ++ [name])) (hdir : fs.IsDir front) {follow : Bool}
    (hlink : follow = true → ∀ target, fs.node (front ++ [name]) ≠ some (.symlink target))
    (cwd : List Name) : fs.lookup follow cwd path = .ok (.entry front name) := by
  rw [lookup_at h, List.map_append, walkUntilLink_normal [] hdir (by simp)]
  simp only [List.map_cons, List.map_nil, List.nil_append, walkUntilLink]
  cases hnode : fs.node (front ++ [name]) with
  | none => simp
  | some node =>
      cases node with
      | dir mode => simp
      | file mode content => simp
      | symlink target =>
          have hfollow : follow = false := by
            by_contra hf
            exact hlink (by simpa using hf) target hnode
          simp [hfollow]

theorem lookup_missing {path : PathBuf} {front back : List Name} {name : Name}
    (h : path.At (front ++ name :: back)) (hback : back ≠ []) (hdir : fs.IsDir front)
    (hnone : fs.node (front ++ [name]) = none) (follow : Bool) (cwd : List Name) :
    fs.lookup follow cwd path = .error .notFound := by
  rw [lookup_at h, List.map_append, walkUntilLink_normal [] hdir (by simp)]
  simp [walkUntilLink, hnone, hback]

/-- Below real directories a plain path names the node of its names. -/
theorem nodeAt_of_unobstructed {path : PathBuf} {front : List Name} {name : Name}
    (h : path.At (front ++ [name])) (hclear : fs.Unobstructed front) (cwd : List Name) :
    fs.nodeAt false cwd path = fs.found (front ++ [name]) := by
  rcases hclear.isDir_or_leaves with hdir | ⟨p, n, back, rfl, hdir, hnone⟩
  · rw [nodeAt, lookup_entry h hdir (by simp)]
    rfl
  · have hmissing : fs.node (p ++ n :: back ++ [name]) = none := by
      have := node_append_eq_none hnone (back ++ [name])
      simpa using this
    rw [nodeAt, lookup_missing (by simpa using h) (by simp) hdir hnone, found, hmissing]
    rfl

/-! ## §7  Growth -/

/-- From `fs` to `fs'` nothing changed but that directories appeared at some of
the `targets`, each with the mode `mkMode` gives it under its parent. -/
structure Grown (mkMode : Mode → Mode) (targets : List Name → Prop) (fs fs' : FileSystem) :
    Prop where
  kept : ∀ names node, fs.node names = some node → fs'.node names = some node
  added : ∀ names, fs.node names = none → fs'.node names ≠ none →
    targets names ∧ ∃ front name, names = front ++ [name] ∧ fs'.IsDir front ∧
      fs'.node names = some (.dir (mkMode (fs'.modeAt front)))

namespace Grown

variable {mkMode : Mode → Mode} {targets targets' : List Name → Prop} {fs fs' fs'' : FileSystem}

theorem refl (fs : FileSystem) : Grown mkMode targets fs fs :=
  ⟨fun _ _ h => h, fun _ hnone hne => absurd hnone hne⟩

theorem isDir (h : Grown mkMode targets fs fs') {names : List Name} (hdir : fs.IsDir names) :
    fs'.IsDir names := by
  obtain ⟨mode, hmode⟩ := hdir
  exact ⟨mode, h.kept _ _ hmode⟩

theorem modeAt_kept (h : Grown mkMode targets fs fs') {names : List Name} (hdir : fs.IsDir names) :
    fs'.modeAt names = fs.modeAt names := by
  obtain ⟨mode, hmode⟩ := hdir
  rw [FileSystem.modeAt_eq hmode, FileSystem.modeAt_eq (h.kept _ _ hmode)]

theorem trans (h : Grown mkMode targets fs fs') (h' : Grown mkMode targets fs' fs'') :
    Grown mkMode targets fs fs'' where
  kept names node hnode := h'.kept _ _ (h.kept _ _ hnode)
  added := by
    intro names hnone hne
    by_cases hmid : fs'.node names = none
    · exact h'.added names hmid hne
    · obtain ⟨htarget, front, name, rfl, hfront, hnode⟩ := h.added names hnone hmid
      refine ⟨htarget, front, name, rfl, h'.isDir hfront, ?_⟩
      rw [h'.modeAt_kept hfront]
      exact h'.kept _ _ hnode

theorem mono (h : Grown mkMode targets fs fs') (hsub : ∀ names, targets names → targets' names) :
    Grown mkMode targets' fs fs' where
  kept := h.kept
  added names hnone hne := (h.added names hnone hne).imp_left (hsub names)

theorem none_of_not_target (h : Grown mkMode targets fs fs') {names : List Name}
    (hnone : fs.node names = none) (hnot : ¬ targets names) : fs'.node names = none := by
  by_contra hne
  exact hnot (h.added names hnone hne).1

theorem none_before (h : Grown mkMode targets fs fs') {names : List Name}
    (hnone : fs'.node names = none) : fs.node names = none := by
  cases hnode : fs.node names with
  | none => rfl
  | some node =>
      rw [h.kept names node hnode] at hnone
      cases hnone

/-- What creation hands down from parent to child reaches every new directory
below the last old one. -/
theorem inherited {X : Type} {f : Mode → X} (hf : ∀ mode, f (mkMode mode) = f mode)
    (h : Grown mkMode targets fs fs') {front back : List Name} (hdir : fs.IsDir front)
    (hnew : ∀ p, p <+: back → p ≠ [] → fs.node (front ++ p) = none)
    (hthere : fs'.IsDir (front ++ back)) : f (fs'.modeAt (front ++ back)) = f (fs.modeAt front) := by
  induction back using List.reverseRecOn with
  | nil => rw [List.append_nil, h.modeAt_kept hdir]
  | append_singleton back name ih =>
      have hnone := hnew (back ++ [name]) (List.prefix_refl _) (by simp)
      obtain ⟨-, parent, last, heq, -, hmode⟩ := h.added _ hnone hthere.ne_none
      rw [← List.append_assoc] at heq hmode hthere ⊢
      obtain ⟨rfl, -⟩ := List.append_inj' heq rfl
      rw [FileSystem.modeAt_eq hmode, hf]
      exact ih (fun p hp hne => hnew p (hp.trans (List.prefix_append ..)) hne)
        (hthere.above (List.prefix_append ..))

theorem of_add {parent : List Name} {name : Name} (hparent : fs.IsDir parent)
    (hfree : fs.node (parent ++ [name]) = none) (htarget : targets (parent ++ [name])) :
    Grown mkMode targets fs
      (fs.add parent name (.dir (mkMode (fs.modeAt parent))) hparent hfree) where
  kept := by
    intro names node hnode
    rw [add_node, if_neg, hnode]
    rintro rfl
    simp [hnode] at hfree
  added := by
    intro names hnone hne
    rw [add_node] at hne
    have hnames : names = parent ++ [name] := by
      by_contra hother
      exact hne (by rw [if_neg hother, hnone])
    obtain ⟨mode, hmode⟩ := id hparent
    have hsame : (fs.add parent name (.dir (mkMode (fs.modeAt parent))) hparent hfree).node
        parent = some (.dir mode) := by
      simp [hmode]
    subst hnames
    refine ⟨htarget, parent, name, rfl, ⟨mode, hsame⟩, ?_⟩
    rw [add_node, if_pos rfl, FileSystem.modeAt_eq hsame, FileSystem.modeAt_eq hmode]

end Grown

end FileSystem

end WikiNext.Foundation
