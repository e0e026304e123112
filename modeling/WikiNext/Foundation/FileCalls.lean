import WikiNext.Foundation.Effect
import WikiNext.Foundation.FileTree

/-!
# File system calls

Programs act on a `World`: the tree, the number of calls made so far and the
number of random draws so far. A `Machine` says how the calls answer: it may
turn down any call it likes, in which case nothing happens, and it decides the
mode of a new node. Nobody else touches the tree.

§1 machine and world, §2 the calls, §3 recursive creation as `std` does it,
§4 specifications at plain paths.
-/

namespace WikiNext.Foundation

/-! ## §1  Machine and world -/

/-- The answer of `getcwd`: an absolute path without `..`. -/
structure CurrentDir where
  path : PathBuf
  absolute : path.isAbsolute = true
  clean : .parentDir ∉ path.components

theorem CurrentDir.at_names (cwd : CurrentDir) : cwd.path.At cwd.path.names :=
  at_names_of_absolute cwd.absolute cwd.clean

/-- A call, with the path it is about. -/
inductive Syscall
  | currentDir
  | symlinkMetadata (path : PathBuf)
  | metadata (path : PathBuf)
  | canonicalize (path : PathBuf)
  | mkdir (path : PathBuf)
  | createNew (path : PathBuf)
  | syncAll
  | removeFile (path : PathBuf)

structure Machine (τ : Type) where
  cwd : CurrentDir
  /-- The reason why the `n`-th call is turned down if it is this one, if there is one. -/
  refuses : Nat → Syscall → Option Refusal
  /-- The `n`-th value drawn from the random source. -/
  random : Nat → τ
  /-- The mode of a new directory, from the requested mode and the mode of its parent. -/
  mkdirMode : Mode → Mode → Mode
  /-- The mode of a new regular file. -/
  createMode : Mode

structure World where
  fs : FileSystem
  calls : Nat
  drawn : Nat

namespace World

/-- The world after one call that left `fs`. -/
def tickTo (w : World) (fs : FileSystem) : World := ⟨fs, w.calls + 1, w.drawn⟩

/-- The world after one call that changed nothing. -/
abbrev tick (w : World) : World := w.tickTo w.fs

@[simp] theorem tickTo_fs (w : World) (fs : FileSystem) : (w.tickTo fs).fs = fs := rfl
@[simp] theorem tickTo_calls (w : World) (fs : FileSystem) :
    (w.tickTo fs).calls = w.calls + 1 := rfl
@[simp] theorem tickTo_drawn (w : World) (fs : FileSystem) : (w.tickTo fs).drawn = w.drawn := rfl

end World

/-- `w'` comes after `w` by calls, without draws. -/
structure World.After (w w' : World) : Prop where
  calls : w.calls ≤ w'.calls
  drawn : w'.drawn = w.drawn

theorem World.After.refl (w : World) : w.After w := ⟨le_refl _, rfl⟩

theorem World.After.trans {w w' w'' : World} (h : w.After w') (h' : w'.After w'') : w.After w'' :=
  ⟨h.calls.trans h'.calls, h'.drawn.trans h.drawn⟩

theorem World.after_tickTo (w : World) (fs : FileSystem) : w.After (w.tickTo fs) :=
  ⟨Nat.le_succ _, rfl⟩

/-- `w'` comes after `w`, and the tree is the same. -/
structure World.Unmoved (w w' : World) : Prop where
  fs : w'.fs = w.fs
  after : w.After w'

theorem World.Unmoved.refl (w : World) : w.Unmoved w := ⟨rfl, .refl w⟩

theorem World.Unmoved.trans {w w' w'' : World} (h : w.Unmoved w') (h' : w'.Unmoved w'') :
    w.Unmoved w'' :=
  ⟨h'.fs.trans h.fs, h.after.trans h'.after⟩

theorem World.unmoved_tick (w : World) : w.Unmoved w.tick := ⟨rfl, w.after_tickTo w.fs⟩

variable {τ α : Type}

/-- No call from the `n`-th on is turned down. -/
def Machine.Calm (machine : Machine τ) (n : Nat) : Prop :=
  ∀ k, n ≤ k → ∀ syscall, machine.refuses k syscall = none

theorem Machine.Calm.mono {machine : Machine τ} {n m : Nat} (h : machine.Calm n) (hnm : n ≤ m) :
    machine.Calm m :=
  fun k hk => h k (hnm.trans hk)

theorem Machine.Calm.not_refused {machine : Machine τ} {n : Nat} (h : machine.Calm n)
    {syscall : Syscall} {refusal : Refusal} : machine.refuses n syscall ≠ some refusal := by
  simp [h n (le_refl n)]

/-! ## §2  The calls -/

/-- The path of the directory or file at `names`. -/
def realPath (names : List Name) : PathBuf :=
  .ofComponents (.rootDir :: names.map .normal)

namespace Machine

variable (machine : Machine τ)

/-- One call: counted, turned down or run on the tree. -/
def call (syscall : Syscall) (run : FileSystem → Except IoError (α × FileSystem)) :
    EStateM IoError World α := fun w =>
  match machine.refuses w.calls syscall with
  | some refusal => .error (.refused refusal) w.tick
  | none =>
      match run w.fs with
      | .ok (a, fs) => .ok a (w.tickTo fs)
      | .error e => .error e w.tick

def query (syscall : Syscall) (read : FileSystem → Except IoError α) : EStateM IoError World α :=
  machine.call syscall fun fs => (read fs).map fun a => (a, fs)

def update (syscall : Syscall) (write : FileSystem → Except IoError FileSystem) :
    EStateM IoError World Unit :=
  machine.call syscall fun fs => (write fs).map fun fs' => ((), fs')

/-- `std::env::current_dir` -/
def currentDir : EStateM IoError World PathBuf :=
  machine.query .currentDir fun _ => .ok machine.cwd.path

/-- `fs::symlink_metadata` -/
def symlinkMetadata (path : PathBuf) : EStateM IoError World Metadata :=
  machine.query (.symlinkMetadata path) fun fs =>
    (fs.nodeAt false machine.cwd.path.names path).map Node.metadata

/-- `fs::metadata` -/
def metadata (path : PathBuf) : EStateM IoError World Metadata :=
  machine.query (.metadata path) fun fs =>
    (fs.nodeAt true machine.cwd.path.names path).map Node.metadata

/-- `Path::is_dir` -/
def isDir (path : PathBuf) : EStateM IoError World Bool := do
  match ← attempt (machine.metadata path) with
  | .ok metadata => pure metadata.is_dir
  | .error _ => pure false

/-- `fs::canonicalize` -/
def canonicalize (path : PathBuf) : EStateM IoError World PathBuf :=
  machine.query (.canonicalize path) fun fs => do
    let place ← fs.lookup true machine.cwd.path.names path
    match fs.node place.names with
    | none => .error .notFound
    | some _ => .ok (realPath place.names)

/-- `mkdir` -/
def mkdir (requested : Mode) (path : PathBuf) : EStateM IoError World Unit :=
  machine.update (.mkdir path) fun fs => do
    let place ← fs.lookup false machine.cwd.path.names path
    fs.create (fun parent => .dir (machine.mkdirMode requested parent)) place

/-- `OpenOptions::new().create_new(true).write(true).open(path)` -/
def createNew (path : PathBuf) : EStateM IoError World Unit :=
  machine.update (.createNew path) fun fs => do
    let place ← fs.lookup false machine.cwd.path.names path
    fs.create (fun _ => .file machine.createMode []) place

/-- `File::sync_all` -/
def syncAll : EStateM IoError World Unit :=
  machine.query .syncAll fun _ => .ok ()

/-- `fs::remove_file` -/
def removeFile (path : PathBuf) : EStateM IoError World Unit :=
  machine.update (.removeFile path) fun fs => do
    let place ← fs.lookup false machine.cwd.path.names path
    fs.unlink place

/-- Draw from the random source. -/
def draw {ε : Type} : EStateM ε World τ := fun w =>
  .ok (machine.random w.drawn) { w with drawn := w.drawn + 1 }

/-! ## §3  Recursive creation -/

/-- An existing directory is as good as a new one. -/
def keepDirectory (path : PathBuf) (error : IoError) : EStateM IoError World Unit := do
  if error = .alreadyExists then
    if ← machine.isDir path then pure () else throw error
  else throw error

/-- Create a directory and, where they are missing, its parents first. The path
is given by its components, last one first. -/
def createDirAll (requested : Mode) : List Component → EStateM IoError World Unit
  | [] => pure ()
  | component :: parents => do
      let path := PathBuf.ofComponents (component :: parents).reverse
      if path.parent = none then pure ()
      else
        match ← attempt (machine.mkdir requested path) with
        | .ok () => pure ()
        | .error .notFound => do
            createDirAll requested parents
            match ← attempt (machine.mkdir requested path) with
            | .ok () => pure ()
            | .error error => machine.keepDirectory path error
        | .error error => machine.keepDirectory path error

end Machine

/-- `std::fs::DirBuilder` -/
structure DirBuilder where
  recursive : Bool
  mode : Mode

/-- `DirBuilder::create` -/
def DirBuilder.create (builder : DirBuilder) (machine : Machine τ) (path : PathBuf) :
    EStateM IoError World Unit :=
  if builder.recursive then machine.createDirAll builder.mode path.components.reverse
  else machine.mkdir builder.mode path

/-! ## §4  Specifications at plain paths -/

namespace Machine

variable {machine : Machine τ} {w : World}

section Calls

variable {syscall : Syscall} {E : IoError → World → Prop}

theorem wp_call {run : FileSystem → Except IoError (α × FileSystem)} {Q : α → World → Prop}
    (hok : ∀ a fs, run w.fs = .ok (a, fs) → Q a (w.tickTo fs))
    (herror : ∀ e, run w.fs = .error e → E e w.tick)
    (hrefused : ∀ r, machine.refuses w.calls syscall = some r → E (.refused r) w.tick) :
    Wp (machine.call syscall run) Q E w := by
  simp only [Wp, call]
  cases hcall : machine.refuses w.calls syscall with
  | some refusal => exact hrefused refusal hcall
  | none =>
      cases hrun : run w.fs with
      | ok result =>
          obtain ⟨a, fs⟩ := result
          exact hok a fs hrun
      | error e => exact herror e hrun

theorem wp_query {read : FileSystem → Except IoError α} {Q : α → World → Prop}
    (hok : ∀ a, read w.fs = .ok a → Q a w.tick)
    (herror : ∀ e, read w.fs = .error e → E e w.tick)
    (hrefused : ∀ r, machine.refuses w.calls syscall = some r → E (.refused r) w.tick) :
    Wp (machine.query syscall read) Q E w := by
  apply wp_call _ _ hrefused
  · intro a fs hrun
    cases hread : read w.fs with
    | error e => simp [hread, Except.map] at hrun
    | ok b =>
        simp only [hread, Except.map, Except.ok.injEq, Prod.mk.injEq] at hrun
        obtain ⟨rfl, rfl⟩ := hrun
        exact hok b hread
  · intro e hrun
    cases hread : read w.fs with
    | ok b => simp [hread, Except.map] at hrun
    | error e' =>
        simp only [hread, Except.map, Except.error.injEq] at hrun
        exact hrun ▸ herror e' hread

theorem wp_update {write : FileSystem → Except IoError FileSystem} {Q : Unit → World → Prop}
    (hok : ∀ fs, write w.fs = .ok fs → Q () (w.tickTo fs))
    (herror : ∀ e, write w.fs = .error e → E e w.tick)
    (hrefused : ∀ r, machine.refuses w.calls syscall = some r → E (.refused r) w.tick) :
    Wp (machine.update syscall write) Q E w := by
  apply wp_call _ _ hrefused
  · intro a fs hrun
    cases hwrite : write w.fs with
    | error e => simp [hwrite, Except.map] at hrun
    | ok fs' =>
        simp only [hwrite, Except.map, Except.ok.injEq, Prod.mk.injEq] at hrun
        obtain ⟨-, rfl⟩ := hrun
        exact hok fs' hwrite
  · intro e hrun
    cases hwrite : write w.fs with
    | ok fs' => simp [hwrite, Except.map] at hrun
    | error e' =>
        simp only [hwrite, Except.map, Except.error.injEq] at hrun
        exact hrun ▸ herror e' hwrite

/-- A query whose answer is known. -/
theorem wp_query_of_ok {read : FileSystem → Except IoError α} {Q : α → World → Prop} {a : α}
    (hread : read w.fs = .ok a) (hok : Q a w.tick)
    (hrefused : ∀ r, machine.refuses w.calls syscall = some r → E (.refused r) w.tick) :
    Wp (machine.query syscall read) Q E w := by
  apply wp_query _ _ hrefused
  · intro b hb
    cases hread.symm.trans hb
    exact hok
  · intro e he
    cases hread.symm.trans he

theorem wp_query_of_error {read : FileSystem → Except IoError α} {Q : α → World → Prop}
    {e : IoError} (hread : read w.fs = .error e) (herror : E e w.tick)
    (hrefused : ∀ r, machine.refuses w.calls syscall = some r → E (.refused r) w.tick) :
    Wp (machine.query syscall read) Q E w := by
  apply wp_query _ _ hrefused
  · intro b hb
    cases hread.symm.trans hb
  · intro e' he
    cases hread.symm.trans he
    exact herror

/-- An update whose outcome is known. -/
theorem wp_update_of_ok {write : FileSystem → Except IoError FileSystem} {Q : Unit → World → Prop}
    {fs : FileSystem} (hwrite : write w.fs = .ok fs) (hok : Q () (w.tickTo fs))
    (hrefused : ∀ r, machine.refuses w.calls syscall = some r → E (.refused r) w.tick) :
    Wp (machine.update syscall write) Q E w := by
  apply wp_update _ _ hrefused
  · intro fs' hfs'
    cases hwrite.symm.trans hfs'
    exact hok
  · intro e he
    cases hwrite.symm.trans he

theorem wp_update_of_error {write : FileSystem → Except IoError FileSystem}
    {Q : Unit → World → Prop} {e : IoError} (hwrite : write w.fs = .error e) (herror : E e w.tick)
    (hrefused : ∀ r, machine.refuses w.calls syscall = some r → E (.refused r) w.tick) :
    Wp (machine.update syscall write) Q E w := by
  apply wp_update _ _ hrefused
  · intro fs' hfs'
    cases hwrite.symm.trans hfs'
  · intro e' he
    cases hwrite.symm.trans he
    exact herror

variable {path : PathBuf} {front : List Name} {name : Name}

/-- `lstat` of any path sees the node it names. -/
theorem wp_lstat {Q : Metadata → World → Prop}
    (hfound : ∀ node, w.fs.nodeAt false machine.cwd.path.names path = .ok node →
      Q node.metadata w.tick)
    (hmissing : ∀ e, w.fs.nodeAt false machine.cwd.path.names path = .error e → E e w.tick)
    (hrefused : ∀ r, machine.refuses w.calls (.symlinkMetadata path) = some r →
      E (.refused r) w.tick) :
    Wp (machine.symlinkMetadata path) Q E w := by
  cases hnode : w.fs.nodeAt false machine.cwd.path.names path with
  | ok node =>
      apply wp_query_of_ok _ (hfound node hnode) hrefused
      rw [hnode]
      rfl
  | error e =>
      apply wp_query_of_error _ (hmissing e hnode) hrefused
      rw [hnode]
      rfl

/-- `lstat` below real directories sees the node of the path's names. -/
theorem wp_symlinkMetadata {Q : Metadata → World → Prop} (h : path.At (front ++ [name]))
    (hclear : w.fs.Unobstructed front)
    (hfound : ∀ node, w.fs.node (front ++ [name]) = some node → Q node.metadata w.tick)
    (hmissing : w.fs.node (front ++ [name]) = none → E .notFound w.tick)
    (hrefused : ∀ r, machine.refuses w.calls (.symlinkMetadata path) = some r →
      E (.refused r) w.tick) :
    Wp (machine.symlinkMetadata path) Q E w := by
  have hnode := FileSystem.nodeAt_of_unobstructed h hclear machine.cwd.path.names
  unfold FileSystem.found at hnode
  cases hfs : w.fs.node (front ++ [name]) with
  | none =>
      apply wp_query_of_error _ (hmissing hfs) hrefused
      rw [hnode, hfs]
      rfl
  | some node =>
      apply wp_query_of_ok _ (hfound node hfs) hrefused
      rw [hnode, hfs]
      rfl

/-- `lstat` of the root directory. -/
theorem wp_symlinkMetadata_root {Q : Metadata → World → Prop} (h : path.At [])
    (hfound : ∀ mode, w.fs.node [] = some (.dir mode) → Q (Node.dir mode).metadata w.tick)
    (hrefused : ∀ r, machine.refuses w.calls (.symlinkMetadata path) = some r →
      E (.refused r) w.tick) :
    Wp (machine.symlinkMetadata path) Q E w := by
  obtain ⟨mode, hmode⟩ := w.fs.root_dir
  have hnode : w.fs.nodeAt false machine.cwd.path.names path = .ok (.dir mode) := by
    rw [FileSystem.nodeAt, FileSystem.lookup_root h]
    show w.fs.found [] = _
    rw [FileSystem.found, hmode]
  apply wp_query_of_ok _ (hfound mode hmode) hrefused
  rw [hnode]
  rfl

/-- `mkdir` of a missing entry: its parent is a directory, or it is missing too. -/
theorem wp_mkdir {Q : Unit → World → Prop} {requested : Mode} (h : path.At (front ++ [name]))
    (hclear : w.fs.Unobstructed front) (hfree : w.fs.node (front ++ [name]) = none)
    (hmade : ∀ hdir : w.fs.IsDir front, Q () (w.tickTo
      (w.fs.add front name (.dir (machine.mkdirMode requested (w.fs.modeAt front))) hdir hfree)))
    (hmissing : ¬ w.fs.IsDir front → E .notFound w.tick)
    (hrefused : ∀ r, machine.refuses w.calls (.mkdir path) = some r → E (.refused r) w.tick) :
    Wp (machine.mkdir requested path) Q E w := by
  rcases hclear.isDir_or_leaves with hdir | ⟨p, n, back, rfl, hdir, hnone⟩
  · have hlookup : w.fs.lookup false machine.cwd.path.names path = .ok (.entry front name) :=
      FileSystem.lookup_entry h hdir (by simp) _
    apply wp_update_of_ok _ (hmade hdir) hrefused
    rw [hlookup]
    simp only [bind, Except.bind]
    rw [FileSystem.create, dif_pos ⟨hdir, hfree⟩]
  · -- the way leaves the tree above the parent
    have hlookup := FileSystem.lookup_missing (by simpa using h) (by simp) hdir hnone false
      machine.cwd.path.names
    have hnot : ¬ w.fs.IsDir (p ++ n :: back) := by
      intro hd
      have hbelow := FileSystem.node_append_eq_none hnone back
      exact hd.ne_none (by simpa using hbelow)
    apply wp_update_of_error _ (hmissing hnot) hrefused
    rw [hlookup]
    rfl

/-- `mkdir` of an entry that is there. -/
theorem wp_mkdir_taken {Q : Unit → World → Prop} {requested : Mode}
    (h : path.At (front ++ [name])) (hthere : w.fs.node (front ++ [name]) ≠ none)
    (htaken : E .alreadyExists w.tick)
    (hrefused : ∀ r, machine.refuses w.calls (.mkdir path) = some r → E (.refused r) w.tick) :
    Wp (machine.mkdir requested path) Q E w := by
  have hdir : w.fs.IsDir front := FileSystem.isDir_of_append (by simp) hthere
  have hlookup : w.fs.lookup false machine.cwd.path.names path = .ok (.entry front name) :=
    FileSystem.lookup_entry h hdir (by simp) _
  apply wp_update_of_error _ htaken hrefused
  rw [hlookup]
  simp only [bind, Except.bind]
  rw [FileSystem.create, dif_neg (fun h => hthere h.2)]

/-- A directory is kept, unless the look at it is turned down. -/
theorem wp_keepDirectory {Q : Unit → World → Prop} (h : path.At (front ++ [name]))
    (hdir : w.fs.IsDir (front ++ [name])) (hkept : Q () w.tick)
    (hrefused : ∀ r, machine.refuses w.calls (.metadata path) = some r → E .alreadyExists w.tick) :
    Wp (machine.keepDirectory path .alreadyExists) Q E w := by
  have hfront : w.fs.IsDir front := FileSystem.isDir_of_append (by simp) hdir.ne_none
  obtain ⟨mode, hmode⟩ := hdir
  have hnode : w.fs.nodeAt true machine.cwd.path.names path = .ok (.dir mode) := by
    rw [FileSystem.nodeAt, FileSystem.lookup_entry h hfront (by simp [hmode])]
    show w.fs.found (front ++ [name]) = _
    rw [FileSystem.found, hmode]
  simp only [keepDirectory, isDir, if_true, wp_bind, wp_attempt]
  refine wp_query_of_ok (a := (Node.dir mode).metadata) ?_ hkept hrefused
  rw [hnode]
  rfl

/-- `open` with `create_new` of a missing entry of a directory. -/
theorem wp_createNew {Q : Unit → World → Prop} (h : path.At (front ++ [name]))
    (hdir : w.fs.IsDir front)
    (hmade : ∀ hfree : w.fs.node (front ++ [name]) = none, Q () (w.tickTo
      (w.fs.add front name (.file machine.createMode []) hdir hfree)))
    (htaken : w.fs.node (front ++ [name]) ≠ none → E .alreadyExists w.tick)
    (hrefused : ∀ r, machine.refuses w.calls (.createNew path) = some r → E (.refused r) w.tick) :
    Wp (machine.createNew path) Q E w := by
  have hlookup : w.fs.lookup false machine.cwd.path.names path = .ok (.entry front name) :=
    FileSystem.lookup_entry h hdir (by simp) _
  by_cases hfree : w.fs.node (front ++ [name]) = none
  · apply wp_update_of_ok _ (hmade hfree) hrefused
    rw [hlookup]
    simp only [bind, Except.bind]
    rw [FileSystem.create, dif_pos ⟨hdir, hfree⟩]
  · apply wp_update_of_error _ (htaken hfree) hrefused
    rw [hlookup]
    simp only [bind, Except.bind]
    rw [FileSystem.create, dif_neg (fun h => hfree h.2)]

/-- `unlink` of an entry that is not a directory. -/
theorem wp_removeFile {Q : Unit → World → Prop} (h : path.At (front ++ [name]))
    (hdir : w.fs.IsDir front) (hthere : w.fs.node (front ++ [name]) ≠ none)
    (hfile : ¬ w.fs.IsDir (front ++ [name]))
    (hgone : Q () (w.tickTo (w.fs.remove (front ++ [name]) hfile)))
    (hrefused : ∀ r, machine.refuses w.calls (.removeFile path) = some r → E (.refused r) w.tick) :
    Wp (machine.removeFile path) Q E w := by
  have hlookup : w.fs.lookup false machine.cwd.path.names path = .ok (.entry front name) :=
    FileSystem.lookup_entry h hdir (by simp) _
  apply wp_update_of_ok _ hgone hrefused
  rw [hlookup]
  exact FileSystem.unlink_of_file hthere hfile

/-- `realpath` of a directory that no link leads to. -/
theorem wp_canonicalize {Q : PathBuf → World → Prop} {names : List Name} (h : path.At names)
    (hdir : w.fs.IsDir names)
    (hpath : Q (realPath names) w.tick)
    (hrefused : ∀ r, machine.refuses w.calls (.canonicalize path) = some r →
      E (.refused r) w.tick) :
    Wp (machine.canonicalize path) Q E w := by
  obtain ⟨mode, hmode⟩ := hdir
  apply wp_query_of_ok _ hpath hrefused
  rcases List.eq_nil_or_concat names with rfl | ⟨front, name, rfl⟩
  · rw [FileSystem.lookup_root h]
    show (match w.fs.node [] with | none => _ | some _ => _) = _
    rw [hmode]
    rfl
  · rw [List.concat_eq_append] at h hmode ⊢
    have hthere : w.fs.node (front ++ [name]) ≠ none := by simp [hmode]
    have hfront : w.fs.IsDir front := FileSystem.isDir_of_append (by simp) hthere
    rw [FileSystem.lookup_entry h hfront (by simp [hmode])]
    show (match w.fs.node (front ++ [name]) with | none => _ | some _ => _) = _
    rw [hmode]
    rfl

theorem wp_currentDir {Q : PathBuf → World → Prop} (hpath : Q machine.cwd.path w.tick)
    (hrefused : ∀ r, machine.refuses w.calls .currentDir = some r → E (.refused r) w.tick) :
    Wp machine.currentDir Q E w :=
  wp_query_of_ok rfl hpath hrefused

theorem wp_syncAll {Q : Unit → World → Prop} (hdone : Q () w.tick)
    (hrefused : ∀ r, machine.refuses w.calls .syncAll = some r → E (.refused r) w.tick) :
    Wp machine.syncAll Q E w :=
  wp_query_of_ok rfl hdone hrefused

@[simp] theorem wp_draw {ε : Type} {Q : τ → World → Prop} {E : ε → World → Prop} :
    Wp machine.draw Q E w ↔ Q (machine.random w.drawn) { w with drawn := w.drawn + 1 } := Iff.rfl

end Calls

/-- **Recursive creation.** Where nothing obstructs the way to missing names,
they and their missing parents become directories and nothing else changes; it
fails only where the machine turns a call down, and then leaves what it made so
far. -/
theorem wp_createDirAll {requested : Mode} {names : List Name}
    (hplain : ∀ name ∈ names, PlainName name) (hclear : w.fs.Unobstructed names)
    (hfree : w.fs.node names = none) :
    Wp (machine.createDirAll requested (Component.rootDir :: names.map .normal).reverse)
      (fun _ w' => w.After w' ∧ w'.fs.IsDir names ∧
        FileSystem.Grown (machine.mkdirMode requested) (· <+: names) w.fs w'.fs)
      (fun _ w' => w.After w' ∧ ¬ machine.Calm w.calls ∧
        FileSystem.Grown (machine.mkdirMode requested) (· <+: names) w.fs w'.fs) w := by
  -- from the end of the path, as the recursion goes: the world at the parent is another one
  induction names using List.reverseRecOn generalizing w with
  | nil =>
      obtain ⟨mode, hmode⟩ := w.fs.root_dir
      simp [hmode] at hfree
  | append_singleton front name ih =>
      have hfront : w.fs.Unobstructed front := hclear.above (List.prefix_append ..)
      have hfrontPlain : ∀ n ∈ front, PlainName n := fun n hn => hplain n (by simp [hn])
      have hpath : (realPath (front ++ [name])).At (front ++ [name]) := at_ofComponents hplain
      obtain ⟨parent, hparent, -⟩ := hpath.parent
      have hrev : (Component.rootDir :: (front ++ [name]).map .normal).reverse =
          .normal name :: (Component.rootDir :: front.map .normal).reverse := by simp
      have hself : PathBuf.ofComponents
          (.normal name :: (Component.rootDir :: front.map .normal).reverse).reverse =
          realPath (front ++ [name]) := by
        rw [realPath, ← hrev, List.reverse_reverse]
      have hrefused : ∀ {w' : World} {syscall : Syscall} {r : Refusal}, w.After w' →
          machine.refuses w'.calls syscall = some r → ¬ machine.Calm w.calls :=
        fun hafter hr hcalm => (hcalm.mono hafter.calls).not_refused hr
      rw [hrev, createDirAll, hself]
      simp only [hparent, reduceCtorEq, if_false, wp_bind, wp_attempt]
      apply wp_mkdir hpath hfront hfree
      · -- the parent is there
        intro hdir
        refine ⟨w.after_tickTo _, ⟨machine.mkdirMode requested (w.fs.modeAt front), ?_⟩,
          .of_add hdir hfree (List.prefix_refl _)⟩
        simp
      · -- the parent is missing too, and is made first
        intro hnot
        have hfrontFree : w.fs.node front = none := by
          by_contra hne
          exact hnot (hfront front (List.prefix_refl _) hne)
        have hsub : ∀ p, p <+: front → p <+: front ++ [name] :=
          fun p hp => hp.trans (List.prefix_append ..)
        have hbind : Wp (machine.createDirAll requested
            (Component.rootDir :: front.map .normal).reverse) _ _ w.tick :=
          ih hfrontPlain hfront hfrontFree
        simp only [wp_bind, wp_attempt]
        apply hbind.mono
        · rintro - w' ⟨hafter, hdir, hgrown⟩
          have hafter' : w.After w' := (w.after_tickTo _).trans hafter
          have hnot : ¬ front ++ [name] <+: front := by
            intro hp
            have hlen := hp.length_le
            simp only [List.length_append, List.length_singleton] at hlen
            omega
          have hfree' : w'.fs.node (front ++ [name]) = none :=
            hgrown.none_of_not_target hfree hnot
          apply wp_mkdir hpath hdir.unobstructed hfree'
          · intro hdir'
            refine ⟨hafter'.trans (w'.after_tickTo _),
              ⟨machine.mkdirMode requested (w'.fs.modeAt front), by simp⟩, ?_⟩
            exact (hgrown.mono hsub).trans (.of_add hdir' hfree' (List.prefix_refl _))
          · intro hnone
            exact absurd hdir hnone
          · intro r hr
            simp only [keepDirectory, reduceCtorEq, if_false, wp_throw]
            exact ⟨hafter'.trans (w'.after_tickTo _), hrefused hafter' hr, hgrown.mono hsub⟩
        · -- a parent could not be made
          rintro e w' ⟨hafter, hcalm, hgrown⟩
          exact ⟨(w.after_tickTo _).trans hafter,
            fun h => hcalm (h.mono (Nat.le_succ _)), hgrown.mono hsub⟩
      · intro r hr
        simp only [keepDirectory, reduceCtorEq, if_false, wp_throw]
        exact ⟨w.after_tickTo _, hrefused (.refl w) hr, .refl _⟩

end Machine

end WikiNext.Foundation
