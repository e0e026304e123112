import WikiNext.Store.Storage

/-!
# Specifications of the storage functions

One weakest-precondition lemma per function of the storage code. Each says
what an `Ok` result guarantees, and each names every way to fail: a call that
the machine turned down, or a defect of the tree.

§1 the requested path, §2 the directory checks, §3 creation, §4 the write
probe, §5 `status`, `diagnose` and `prepare`.
-/

namespace WikiNext.Store

open WikiNext.Foundation WikiNext.Core

variable {machine : Machine Uuid} {w w' : World}

/-- The error reports a call that the machine turned down. -/
def Interrupted (machine : Machine Uuid) (w : World) (error : StorageError) : Prop :=
  ¬ machine.Calm w.calls ∧ error.source ≠ none

theorem Interrupted.earlier {error : StorageError} (h : Interrupted machine w' error)
    (hcalls : w.calls ≤ w'.calls) : Interrupted machine w error :=
  ⟨fun hcalm => h.1 (hcalm.mono hcalls), h.2⟩

theorem interrupted_of_refused {error : StorageError} {syscall : Syscall} {r : Refusal}
    (hcalls : w.calls ≤ w'.calls) (hr : machine.refuses w'.calls syscall = some r)
    (hsource : error.source ≠ none) : Interrupted machine w error :=
  Interrupted.earlier ⟨fun hcalm => hcalm.not_refused hr, hsource⟩ hcalls

/-! ## §1  The requested path -/

/-- The loop appends the plain names, in order. -/
theorem wp_pushComponents {requested : PathBuf} {parts : List Component}
    {E : StorageError → World → Prop} (hparts : ∀ c ∈ parts, c ≠ .parentDir ∧ c ≠ .rootDir)
    (hplain : ∀ name, .normal name ∈ parts → PlainName name) :
    ∀ {absolute : PathBuf} {front : List Name}, absolute.At front →
      Wp (pushComponents requested parts absolute)
        (fun root w' => w' = w ∧ root.At (front ++ normalNames parts)) E w := by
  induction parts with
  | nil =>
      intro absolute front h
      exact ⟨rfl, by simpa [normalNames] using h⟩
  | cons c parts ih =>
      intro absolute front h
      have hrest : ∀ c ∈ parts, c ≠ .parentDir ∧ c ≠ .rootDir :=
        fun c hc => hparts c (List.mem_cons_of_mem _ hc)
      have hrestPlain : ∀ name, .normal name ∈ parts → PlainName name :=
        fun n hn => hplain n (List.mem_cons_of_mem _ hn)
      cases c with
      | rootDir => exact absurd rfl (hparts .rootDir (List.mem_cons_self ..)).2
      | parentDir => exact absurd rfl (hparts .parentDir (List.mem_cons_self ..)).1
      | curDir => exact ih hrest hrestPlain h
      | normal name =>
          have hpush := ih hrest hrestPlain (h.push (hplain name (List.mem_cons_self ..)))
          rw [List.append_assoc, List.singleton_append] at hpush
          exact hpush

theorem rejected_iff (path : PathBuf) :
    (path.text = [] ∨ path.components.any (· == .parentDir) = true ∨
      ¬ path.components.any Component.isNormal = true) ↔ ¬ ValidShape path := by
  rw [PathBuf.any_parentDir_iff, PathBuf.any_isNormal_iff, ValidShape]
  tauto

/-- The loop on the components of a clean path, from where the path starts. -/
theorem wp_pushComponents_path (machine : Machine Uuid) {path start : PathBuf}
    {E : StorageError → World → Prop} (hclean : .parentDir ∉ path.components)
    (hstart : if path.isAbsolute then start = ⟨[]⟩ else start.At machine.cwd.path.names) :
    Wp (pushComponents path path.components start)
      (fun root w' => w' = w ∧ root.At (storageNames machine path)) E w := by
  unfold storageNames
  have hplain : ∀ name, .normal name ∈ path.components → PlainName name :=
    fun name => plainName_of_mem_components
  by_cases habs : path.isAbsolute = true
  · rw [if_pos habs] at hstart ⊢
    subst hstart
    -- the root component replaces the empty start
    have hcomponents := components_of_absolute habs
    have hnames : path.names = normalNames ((segments path.text).filterMap segmentComponent) := by
      rw [PathBuf.names, hcomponents]
      rfl
    rw [hcomponents] at hclean hplain
    rw [hcomponents, hnames]
    show Wp (pushComponents path _ ⟨['/']⟩) _ _ _
    refine wp_pushComponents (fun c hc => ⟨?_, ?_⟩) (fun n hn => ?_) at_root
    · rintro rfl
      exact hclean (List.mem_cons_of_mem _ hc)
    · rintro rfl
      exact rootDir_notMem_pieces _ hc
    · exact hplain n (List.mem_cons_of_mem _ hn)
  · rw [if_neg habs] at hstart ⊢
    refine wp_pushComponents (fun c hc => ⟨?_, ?_⟩) hplain hstart
    · rintro rfl
      exact hclean hc
    · rintro rfl
      exact habs (rootDir_mem_components_iff.mp hc)

/-- **The accepted path.** `absolute_storage_path` accepts exactly the paths of
valid shape, and appends their names to the root or to the working directory. -/
theorem wp_absoluteStoragePath (path : PathBuf) :
    Wp (absoluteStoragePath machine path)
      (fun root w' => w.Unmoved w' ∧ ValidShape path ∧ root.At (storageNames machine path))
      (fun e w' => w.Unmoved w' ∧
        (Interrupted machine w e ∨ ¬ ValidShape path ∧ e = .unsafePath path)) w := by
  unfold absoluteStoragePath
  by_cases hshape : ValidShape path
  swap
  · rw [if_pos ((rejected_iff path).mpr hshape)]
    exact ⟨.refl w, Or.inr ⟨hshape, rfl⟩⟩
  rw [if_neg (fun h => (rejected_iff path).mp h hshape)]
  have hnames : path.names ≠ [] := hshape.2.2
  -- the last check never fires
  have hfinish : ∀ {w' : World} {root : PathBuf}, w.Unmoved w' →
      root.At (storageNames machine path) →
        Wp (if root.parent = none then throw (StorageError.unsafePath path) else pure root)
          (fun root w' => w.Unmoved w' ∧ ValidShape path ∧ root.At (storageNames machine path))
          (fun e w' => w.Unmoved w' ∧
            (Interrupted machine w e ∨ ¬ ValidShape path ∧ e = .unsafePath path)) w' := by
    intro w' root hunmoved hroot
    have hne : storageNames machine path ≠ [] := by simp [storageNames, hnames]
    rw [← List.dropLast_append_getLast hne] at hroot
    obtain ⟨parent, hparent, -⟩ := hroot.parent
    rw [if_neg (by simp [hparent])]
    rw [List.dropLast_append_getLast hne] at hroot
    exact ⟨hunmoved, hshape, hroot⟩
  rw [wp_bind, pushBase]
  by_cases habs : path.isAbsolute = true
  · rw [if_pos habs, wp_pure, wp_bind]
    apply (wp_pushComponents_path machine hshape.2.1 (by simp [habs])).mono
    · rintro root w' ⟨rfl, hroot⟩
      exact hfinish (.refl _) hroot
    · exact fun _ _ h => h
  · rw [if_neg habs, wp_mapErr]
    apply Machine.wp_currentDir
    · rw [wp_bind]
      apply (wp_pushComponents_path machine hshape.2.1
        (by simpa [habs] using machine.cwd.at_names)).mono
      · rintro root w' ⟨rfl, hroot⟩
        exact hfinish w.unmoved_tick hroot
      · exact fun _ _ h => h
    · intro r hr
      have hsource : (StorageError.inspect path (.refused r)).source ≠ none := by
        simp [StorageError.source]
      exact ⟨w.unmoved_tick, Or.inl (interrupted_of_refused (le_refl _) hr hsource)⟩

/-! ## §2  The directory checks -/

/-- Something on the way to `names` is not a directory, and the error says so. -/
def BlockedBy (fs : FileSystem) (names : List Name) (error : StorageError) : Prop :=
  ∃ front path node, front <+: names ∧ path.At front ∧ fs.node front = some node ∧
    node.isDir = false ∧ Defect (.ok node) path error

theorem BlockedBy.not_unobstructed {fs : FileSystem} {names : List Name} {error : StorageError}
    (h : BlockedBy fs names error) : ¬ fs.Unobstructed names := by
  obtain ⟨front, path, node, hfront, -, hnode, hkind, -⟩ := h
  intro hclear
  have hdir := (FileSystem.isDir_iff hnode).mp (hclear front hfront (by simp [hnode]))
  rw [hkind] at hdir
  cases hdir

/-- One node of the ancestor walk. -/
theorem wp_validateMetadata {path : PathBuf} {node : Node} {Q : Unit → World → Prop}
    {E : StorageError → World → Prop} (hdir : node.isDir = true → Q () w)
    (hother : ∀ e, node.isDir = false → Defect (.ok node) path e → E e w) :
    Wp (MonadExcept.ofExcept (validateMetadata path node.metadata)) Q E w := by
  apply wp_ofExcept
  · rintro ⟨⟩ hok
    rw [validateMetadata_node] at hok
    cases node with
    | dir mode => exact hdir rfl
    | file mode content => cases hok
    | symlink target => cases hok
  · intro e herror
    rw [validateMetadata_node] at herror
    cases node with
    | dir mode => cases herror
    | file mode content =>
        cases herror
        exact hother _ rfl rfl
    | symlink target =>
        cases herror
        exact hother _ rfl rfl

/-- The walk from a real directory: it passes only if nothing obstructs the
rest of the way. -/
theorem wp_inspectFrom {back : List Name} (hplain : ∀ name ∈ back, PlainName name) :
    ∀ {w : World} {current : PathBuf} {front : List Name}, current.At front → w.fs.IsDir front →
      Wp (inspectFrom machine current (back.map .normal))
        (fun _ w' => w.Unmoved w' ∧ w.fs.Unobstructed (front ++ back))
        (fun e w' => w.Unmoved w' ∧
          (Interrupted machine w e ∨ BlockedBy w.fs (front ++ back) e)) w := by
  induction back with
  | nil =>
      intro w current front h hdir
      exact ⟨.refl w, by simpa using hdir.unobstructed⟩
  | cons name back ih =>
      intro w current front h hdir
      have hpush : (current.push name).At (front ++ [name]) :=
        h.push (hplain name (List.mem_cons_self ..))
      have hsplit : front ++ name :: back = front ++ [name] ++ back := by simp
      rw [List.map_cons, inspectFrom]
      simp only [Component.asOsStr, wp_bind, wp_attempt]
      apply Machine.wp_symlinkMetadata hpush hdir.unobstructed
      · intro node hnode
        apply wp_validateMetadata
        · -- a directory: go on below it
          intro hkind
          have hdir' : w.tick.fs.IsDir (front ++ [name]) :=
            (FileSystem.isDir_iff hnode).mpr hkind
          have hrest := ih (fun n hn => hplain n (List.mem_cons_of_mem _ hn)) hpush hdir'
          rw [hsplit]
          apply hrest.mono
          · rintro - w' ⟨hunmoved, hclear⟩
            exact ⟨w.unmoved_tick.trans hunmoved, hclear⟩
          · rintro e w' ⟨hunmoved, hcause⟩
            exact ⟨w.unmoved_tick.trans hunmoved,
              hcause.imp_left (fun h => h.earlier w.unmoved_tick.after.calls)⟩
        · intro e hkind hdefect
          refine ⟨w.unmoved_tick, Or.inr ⟨front ++ [name], _, node, ?_, hpush, hnode, hkind,
            hdefect⟩⟩
          exact ⟨back, by simp⟩
      · -- the first missing component ends the walk
        intro hmissing
        exact ⟨w.unmoved_tick, FileSystem.unobstructed_of_leaves hdir hmissing back⟩
      · intro r hr
        exact ⟨w.unmoved_tick, Or.inl (interrupted_of_refused (le_refl _) hr (by
          simp [StorageError.source]))⟩

/-- **The ancestor walk** of a plain path. -/
theorem wp_inspectExistingAncestors {path : PathBuf} {names : List Name} (h : path.At names) :
    Wp (inspectExistingAncestors machine path)
      (fun _ w' => w.Unmoved w' ∧ w.fs.Unobstructed names)
      (fun e w' => w.Unmoved w' ∧ (Interrupted machine w e ∨ BlockedBy w.fs names e)) w := by
  have hplain : ∀ name ∈ names, PlainName name := fun _ => h.plainName
  rw [inspectExistingAncestors, h, inspectFrom]
  simp only [Component.asOsStr, wp_bind, wp_attempt]
  have hroot : PathBuf.At ((PathBuf.mk []).push ['/']) [] := at_root
  apply Machine.wp_symlinkMetadata_root hroot
  · intro mode hmode
    apply wp_validateMetadata
    · intro _
      apply (wp_inspectFrom hplain hroot w.tick.fs.root_dir).mono
      · rintro - w' ⟨hunmoved, hclear⟩
        exact ⟨w.unmoved_tick.trans hunmoved, hclear⟩
      · rintro e w' ⟨hunmoved, hcause⟩
        exact ⟨w.unmoved_tick.trans hunmoved,
          hcause.imp_left (fun h => h.earlier w.unmoved_tick.after.calls)⟩
    · intro e hkind _
      cases hkind
  · intro r hr
    exact ⟨w.unmoved_tick, Or.inl (interrupted_of_refused (le_refl _) hr (by
      simp [StorageError.source]))⟩

/-- **The privacy check** of any path. -/
theorem wp_inspectPrivateDirectory (path : PathBuf) :
    Wp (inspectPrivateDirectory machine path)
      (fun _ w' => w.Unmoved w' ∧ PrivateAt machine w.fs path)
      (fun e w' => w.Unmoved w' ∧ (Interrupted machine w e ∨
        Defect (w.fs.nodeAt false machine.cwd.path.names path) path e)) w := by
  unfold inspectPrivateDirectory
  simp only [wp_bind, wp_mapErr]
  apply Machine.wp_lstat
  · intro node hnode
    apply wp_checkPrivate
    · intro hprivate
      exact ⟨w.unmoved_tick, by rw [PrivateAt, hnode, hprivate]⟩
    · intro e hdefect
      exact ⟨w.unmoved_tick, Or.inr (hnode ▸ hdefect)⟩
  · intro e hnode
    exact ⟨w.unmoved_tick, Or.inr (by rw [hnode]; rfl)⟩
  · intro r hr
    exact ⟨w.unmoved_tick, Or.inl (interrupted_of_refused (le_refl _) hr (by
      simp [StorageError.source]))⟩

/-! ## §3  Creation -/

/-- How a directory check can fail at `names` when the run began in `w`. -/
def FailsAt (machine : Machine Uuid) (w w' : World) (names : List Name) (path : PathBuf)
    (error : StorageError) : Prop :=
  Interrupted machine w error ∨
    Defect (w'.fs.found names) path error ∧ w'.fs.node names ≠ none ∧
      (w.fs.node names ≠ none → w'.fs = w.fs)

variable (machine) in
/-- **`ensure_directory`** below real directories: it ends with a private
directory, and adds nothing but that directory and its missing parents. -/
theorem wp_ensureDirectory {path : PathBuf} {front : List Name} {name : Name}
    (h : path.At (front ++ [name])) (hclear : w.fs.Unobstructed front) :
    Wp (ensureDirectory machine path)
      (fun _ w' => w.After w' ∧
        FileSystem.Grown (machine.mkdirMode 0o700) (· <+: front ++ [name]) w.fs w'.fs ∧
        w'.fs.node (front ++ [name]) = some (.dir 0o700))
      (fun e w' => w.After w' ∧
        FileSystem.Grown (machine.mkdirMode 0o700) (· <+: front ++ [name]) w.fs w'.fs ∧
        FailsAt machine w w' (front ++ [name]) path e) w := by
  have hsource : ∀ {p : PathBuf} {r : IoError}, (StorageError.inspect p r).source ≠ none := by
    simp [StorageError.source]
  unfold ensureDirectory
  simp only [wp_bind, wp_attempt]
  apply Machine.wp_symlinkMetadata h hclear
  · -- present
    intro node hnode
    apply wp_checkPrivate
    · intro hprivate
      exact ⟨w.after_tickTo _, .refl _, by rw [← hprivate]; exact hnode⟩
    · intro e hdefect
      refine ⟨w.after_tickTo _, .refl _, Or.inr ⟨?_, by simp [hnode], fun _ => rfl⟩⟩
      unfold FileSystem.found
      simpa [hnode] using hdefect
  · -- absent: create it and look at it again
    intro hmissing
    have hclear' : w.tick.fs.Unobstructed (front ++ [name]) :=
      FileSystem.unobstructed_append_singleton hclear (fun hne => absurd hmissing hne)
    have hcreate : (DirBuilder.mk true 0o700).create machine path =
        machine.createDirAll 0o700 (Component.rootDir :: (front ++ [name]).map .normal).reverse := by
      rw [DirBuilder.create, h]
      rfl
    rw [wp_bind, wp_mapErr, hcreate]
    apply (Machine.wp_createDirAll (fun _ => h.plainName) hclear' hmissing).mono
    · rintro - w' ⟨hafter, hdir, hgrown⟩
      have hafter' : w.After w' := (w.after_tickTo _).trans hafter
      have hfront : w'.fs.Unobstructed front :=
        hdir.unobstructed.above (List.prefix_append ..)
      have hat := FileSystem.nodeAt_of_unobstructed h hfront machine.cwd.path.names
      apply (wp_inspectPrivateDirectory path).mono
      · rintro - w'' ⟨hunmoved, hprivate⟩
        refine ⟨hafter'.trans hunmoved.after, by rw [hunmoved.fs]; exact hgrown, ?_⟩
        rw [PrivateAt, hat, FileSystem.found] at hprivate
        rw [hunmoved.fs]
        split at hprivate
        · cases hprivate
        · rename_i node hnode
          cases hprivate
          exact hnode
      · rintro e w'' ⟨hunmoved, hcause⟩
        refine ⟨hafter'.trans hunmoved.after, by rw [hunmoved.fs]; exact hgrown, ?_⟩
        rcases hcause with hcut | hdefect
        · exact Or.inl (hcut.earlier hafter'.calls)
        · rw [hat] at hdefect
          refine Or.inr ⟨by rw [hunmoved.fs]; exact hdefect, ?_, fun hne => absurd hmissing hne⟩
          rw [hunmoved.fs]
          exact hdir.ne_none
    · rintro e w' ⟨hafter, hcalm, hgrown⟩
      refine ⟨(w.after_tickTo _).trans hafter, hgrown, Or.inl ⟨?_, by simp [StorageError.source]⟩⟩
      exact fun hc => hcalm (hc.mono (Nat.le_succ _))
  · intro r hr
    exact ⟨w.after_tickTo _, .refl _, Or.inl (interrupted_of_refused (le_refl _) hr hsource)⟩

/-! ## §4  The write probe -/

theorem digitChar_ne_slash (n : Nat) : Nat.digitChar (n % 16) ≠ '/' := by
  have hlt : n % 16 < 16 := Nat.mod_lt _ (by decide)
  have hall : ∀ m < 16, Nat.digitChar m ≠ '/' := by decide
  exact hall _ hlt

theorem slash_notMem_hyphenated (uuid : Uuid) : '/' ∉ hyphenated uuid := by
  rw [hyphenated, List.mem_flatMap]
  rintro ⟨i, -, hmem⟩
  rw [List.mem_append, List.mem_singleton] at hmem
  rcases hmem with hhyphen | hdigit
  · split at hhyphen <;> simp at hhyphen
  · exact digitChar_ne_slash _ hdigit.symm

theorem probeName_eq (uuid : Uuid) :
    ∃ rest, probeName uuid = '.' :: 'w' :: rest ∧ '/' ∉ rest := by
  have hpiece : ∀ text : List Char, ".wikinext-probe-".toList ++ text =
      '.' :: 'w' :: ("ikinext-probe-".toList ++ text) := fun _ => rfl
  refine ⟨_, hpiece _, ?_⟩
  rw [List.mem_append, not_or]
  exact ⟨by decide, slash_notMem_hyphenated uuid⟩

theorem plainName_probeName (uuid : Uuid) : PlainName (probeName uuid) := by
  obtain ⟨rest, hname, hslash⟩ := probeName_eq uuid
  rw [hname]
  exact {
    nonempty := by simp
    not_cur := by simp
    not_parent := by simp
    no_slash := by simp [hslash] }

/-- What a probe that failed may leave behind: itself. -/
def ProbeLeft (machine : Machine Uuid) (directory : List Name) (uuid : Uuid)
    (fs fs' : FileSystem) : Prop :=
  ∃ hdir hfree, fs' = fs.add directory (probeName uuid) (.file machine.createMode []) hdir hfree

/-- The last call of the run that ended in `w'` was turned down as a removal of
`probe`. A machine may turn down every other call and let removals through. -/
def RemovalRefused (machine : Machine Uuid) (probe : PathBuf) (w' : World) : Prop :=
  ∃ n refusal, w'.calls = n + 1 ∧ machine.refuses n (.removeFile probe) = some refusal

/-- `probe_writable` of a real directory, with the last call of a run that
leaves the probe behind. -/
theorem wp_probeWritable_removal {directory : PathBuf} {names : List Name} (h : directory.At names)
    (hdir : w.fs.IsDir names) :
    Wp (probeWritable machine directory)
      (fun _ w' => w.calls ≤ w'.calls ∧ w'.drawn = w.drawn + 1 ∧ w'.fs = w.fs ∧
        w.fs.node (names ++ [probeName (machine.random w.drawn)]) = none)
      (fun e w' => w.calls ≤ w'.calls ∧ w'.drawn = w.drawn + 1 ∧
        (∃ source, e = .notWritable directory source) ∧
        (w'.fs = w.fs ∧ (Interrupted machine w e ∨
            w.fs.node (names ++ [probeName (machine.random w.drawn)]) ≠ none) ∨
          Interrupted machine w e ∧
            ProbeLeft machine names (machine.random w.drawn) w.fs w'.fs ∧
            RemovalRefused machine (directory.join (probeName (machine.random w.drawn))) w')) w := by
  have hsource : ∀ {r : IoError}, (StorageError.notWritable directory r).source ≠ none := by
    simp [StorageError.source]
  unfold probeWritable
  simp only [wp_bind, Machine.wp_draw, wp_mapErr, wp_attempt]
  generalize hname : probeName (machine.random w.drawn) = probe
  have hplain : PlainName probe := hname ▸ plainName_probeName _
  have hpath : (directory.join probe).At (names ++ [probe]) := h.push hplain
  have hdrawn : (World.mk w.fs w.calls (w.drawn + 1)).fs.IsDir names := hdir
  apply Machine.wp_createNew hpath hdrawn
  · intro hfree
    -- the probe is there: flush it, then remove it
    have hremove : ∀ {Q : Unit → World → Prop} {E : IoError → World → Prop} {w' : World},
        w'.fs = w.fs.add names probe (.file machine.createMode []) hdir hfree →
          Q () (w'.tickTo w.fs) →
            (∀ r, machine.refuses w'.calls (.removeFile (directory.join probe)) = some r →
              E (.refused r) w'.tick) →
              Wp (machine.removeFile (directory.join probe)) Q E w' := by
      rintro Q E ⟨fs', calls', drawn'⟩ rfl hgone hrefused
      have hthere : (w.fs.add names probe (.file machine.createMode []) hdir hfree).node
          (names ++ [probe]) = some (.file machine.createMode []) := by simp
      have hfile : ¬ (w.fs.add names probe (.file machine.createMode []) hdir hfree).IsDir
          (names ++ [probe]) := by
        simp [FileSystem.isDir_iff hthere, Node.isDir]
      have hparent : (w.fs.add names probe (.file machine.createMode []) hdir hfree).IsDir
          names := by
        obtain ⟨mode, hmode⟩ := id hdir
        exact ⟨mode, by simp [hmode]⟩
      apply Machine.wp_removeFile hpath hparent (by simp) hfile
      · rw [FileSystem.remove_add]
        exact hgone
      · exact hrefused
    apply Machine.wp_syncAll
    · apply hremove rfl
      · exact ⟨by simp; omega, rfl, rfl, hfree⟩
      · intro r hr
        refine ⟨by simp; omega, rfl, ⟨_, rfl⟩, Or.inr ⟨?_, ⟨hdir, ?_⟩, _, r, rfl, hr⟩⟩
        · exact interrupted_of_refused (by simp; omega) hr hsource
        · rw [hname]
          exact ⟨hfree, rfl⟩
    · -- the flush is turned down; the probe is removed all the same, if that call gets through
      intro r hr
      have hcut : Interrupted machine w (.notWritable directory (.refused r)) :=
        interrupted_of_refused (by simp) hr hsource
      simp only [wp_throw]
      apply hremove rfl
      · exact ⟨by simp; omega, rfl, ⟨_, rfl⟩, Or.inl ⟨rfl, Or.inl hcut⟩⟩
      · intro r' hr'
        refine ⟨by simp; omega, rfl, ⟨_, rfl⟩, Or.inr ⟨hcut, ⟨hdir, ?_⟩, _, r', rfl, hr'⟩⟩
        rw [hname]
        exact ⟨hfree, rfl⟩
  · intro htaken
    exact ⟨by simp, rfl, ⟨_, rfl⟩, Or.inl ⟨rfl, Or.inr htaken⟩⟩
  · intro r hr
    refine ⟨by simp, rfl, ⟨_, rfl⟩, Or.inl ⟨rfl, Or.inl ?_⟩⟩
    have hcut : Interrupted machine ⟨w.fs, w.calls, w.drawn + 1⟩
        (.notWritable directory (.refused r)) :=
      interrupted_of_refused (le_refl _) hr hsource
    exact hcut.earlier (le_refl _)

/-- **`probe_writable`** of a real directory: an `Ok` result leaves the tree as
it was; on an error either the tree is as it was, or the probe is still there
because a call was turned down. -/
theorem wp_probeWritable {directory : PathBuf} {names : List Name} (h : directory.At names)
    (hdir : w.fs.IsDir names) :
    Wp (probeWritable machine directory)
      (fun _ w' => w.calls ≤ w'.calls ∧ w'.drawn = w.drawn + 1 ∧ w'.fs = w.fs ∧
        w.fs.node (names ++ [probeName (machine.random w.drawn)]) = none)
      (fun e w' => w.calls ≤ w'.calls ∧ w'.drawn = w.drawn + 1 ∧
        (∃ source, e = .notWritable directory source) ∧
        (w'.fs = w.fs ∧ (Interrupted machine w e ∨
            w.fs.node (names ++ [probeName (machine.random w.drawn)]) ≠ none) ∨
          Interrupted machine w e ∧
            ProbeLeft machine names (machine.random w.drawn) w.fs w'.fs)) w := by
  apply (wp_probeWritable_removal h hdir).mono (fun _ _ hok => hok)
  rintro e w' ⟨hcalls, hdrawn, hsource, hcause⟩
  exact ⟨hcalls, hdrawn, hsource, hcause.imp_right fun ⟨hcut, hleft, _⟩ => ⟨hcut, hleft⟩⟩

/-! ## §5  `status`, `diagnose` and `prepare` -/

/-- What `status` checks. -/
def LocalStorage.Private (storage : LocalStorage) (machine : Machine Uuid) (fs : FileSystem) :
    Prop :=
  PrivateAt machine fs storage.root ∧ PrivateAt machine fs (storage.root.join blobsName) ∧
    PrivateAt machine fs storage.temporary

variable (machine) in
/-- **`status`** of any storage in any tree: the three directories are private,
and nothing is touched. -/
theorem wp_status (storage : LocalStorage) :
    Wp (storage.status machine)
      (fun status w' => w.Unmoved w' ∧ status = { root := storage.root } ∧
        storage.Private machine w.fs)
      (fun e w' => w.Unmoved w' ∧
        (Interrupted machine w e ∨ ¬ storage.Private machine w.fs)) w := by
  have hdefect : ∀ {path : PathBuf} {e : StorageError},
      Defect (w.fs.nodeAt false machine.cwd.path.names path) path e →
        ¬ PrivateAt machine w.fs path := by
    intro path e hdefect hprivate
    unfold PrivateAt at hprivate
    rw [hprivate] at hdefect
    exact hdefect.ne_private
  unfold LocalStorage.status
  simp only [wp_bind]
  apply (wp_inspectPrivateDirectory storage.root).mono
  · rintro - w₁ ⟨h₁, hroot⟩
    apply (wp_inspectPrivateDirectory (storage.root.join blobsName)).mono
    · rintro - w₂ ⟨h₂, hblobs⟩
      apply (wp_inspectPrivateDirectory storage.temporary).mono
      · rintro - w₃ ⟨h₃, htmp⟩
        rw [h₂.fs, h₁.fs] at htmp
        rw [h₁.fs] at hblobs
        exact ⟨(h₁.trans h₂).trans h₃, rfl, hroot, hblobs, htmp⟩
      · rintro e w₃ ⟨h₃, hcause⟩
        rw [h₂.fs, h₁.fs] at hcause
        exact ⟨(h₁.trans h₂).trans h₃, hcause.imp
          (fun h => h.earlier (h₁.trans h₂).after.calls) (fun h hp => hdefect h hp.2.2)⟩
    · rintro e w₂ ⟨h₂, hcause⟩
      rw [h₁.fs] at hcause
      exact ⟨h₁.trans h₂, hcause.imp
        (fun h => h.earlier h₁.after.calls) (fun h hp => hdefect h hp.2.1)⟩
  · rintro e w₁ ⟨h₁, hcause⟩
    exact ⟨h₁, hcause.imp_right (fun h hp => hdefect h hp.1)⟩

/-- The storage that `prepare` returns for a root at `names`. -/
def preparedStorage (names : List Name) : LocalStorage where
  root := realPath names
  temporary := (realPath names).join tmpName

/-- Root, `blobs` and `tmp` are private directories. -/
structure PrivateTree (fs : FileSystem) (names : List Name) : Prop where
  root : fs.node names = some (.dir 0o700)
  blobs : fs.node (names ++ [blobsName]) = some (.dir 0o700)
  tmp : fs.node (names ++ [tmpName]) = some (.dir 0o700)

theorem plainName_blobs : PlainName blobsName := ⟨by decide, by decide, by decide, by decide⟩

theorem plainName_tmp : PlainName tmpName := ⟨by decide, by decide, by decide, by decide⟩

variable (machine) in
theorem privateAt_iff {fs : FileSystem} {path : PathBuf} {front : List Name} {name : Name}
    (h : path.At (front ++ [name])) (hclear : fs.Unobstructed front) :
    PrivateAt machine fs path ↔ fs.node (front ++ [name]) = some (.dir 0o700) := by
  rw [PrivateAt, FileSystem.nodeAt_of_unobstructed h hclear, FileSystem.found]
  cases fs.node (front ++ [name]) <;> simp

/-- Names that lead somewhere else than the root directory itself. -/
structure RootNames (names : List Name) : Prop where
  plain : ∀ name ∈ names, PlainName name
  nonempty : names ≠ []

variable (machine) in
/-- Where the root is a real directory, the check of the prepared storage is a
check of three nodes. -/
theorem preparedStorage_private_iff {fs : FileSystem} {names : List Name} (h : RootNames names)
    (hdir : fs.IsDir names) :
    (preparedStorage names).Private machine fs ↔ PrivateTree fs names := by
  have hroot : (realPath names).At names := at_ofComponents h.plain
  have hself : PrivateAt machine fs (realPath names) ↔ fs.node names = some (.dir 0o700) := by
    have hsplit := List.dropLast_append_getLast h.nonempty
    rw [← hsplit] at hroot hdir
    have hclear : fs.Unobstructed names.dropLast :=
      hdir.unobstructed.above (List.prefix_append ..)
    have := privateAt_iff machine hroot hclear
    rwa [hsplit] at this
  have hblobs := privateAt_iff machine (hroot.push plainName_blobs) hdir.unobstructed
  have htmp := privateAt_iff machine (hroot.push plainName_tmp) hdir.unobstructed
  constructor
  · rintro ⟨h₁, h₂, h₃⟩
    exact ⟨hself.mp h₁, hblobs.mp h₂, htmp.mp h₃⟩
  · rintro ⟨h₁, h₂, h₃⟩
    exact ⟨hself.mpr h₁, hblobs.mpr h₂, htmp.mpr h₃⟩

/-- The probe that a run from `w` draws next has an unused name. -/
def ProbeFree (machine : Machine Uuid) (w : World) (names : List Name) : Prop :=
  w.fs.node (names ++ [tmpName] ++ [probeName (machine.random w.drawn)]) = none

/-- How `diagnose` of the prepared storage can fail. -/
structure DiagnoseFailure (machine : Machine Uuid) (w w' : World) (names : List Name)
    (error : StorageError) : Prop where
  calls : w.calls ≤ w'.calls
  drawn : w.drawn ≤ w'.drawn
  frame : w'.fs = w.fs ∨ Interrupted machine w error ∧
    ProbeLeft machine (names ++ [tmpName]) (machine.random w.drawn) w.fs w'.fs
  cause : Interrupted machine w error ∨ ¬ PrivateTree w.fs names ∨
    ¬ ProbeFree machine w names ∧ error.source ≠ none

/-- **`diagnose`** of the prepared storage. -/
theorem wp_diagnose {names : List Name} (h : RootNames names) (hdir : w.fs.IsDir names) :
    Wp ((preparedStorage names).diagnose machine)
      (fun status w' => w.calls ≤ w'.calls ∧ w'.drawn = w.drawn + 1 ∧ w'.fs = w.fs ∧
        status = { root := realPath names } ∧ PrivateTree w.fs names ∧
        ProbeFree machine w names)
      (fun e w' => DiagnoseFailure machine w w' names e) w := by
  have hroot : (realPath names).At names := at_ofComponents h.plain
  unfold LocalStorage.diagnose
  simp only [wp_bind]
  apply (wp_status machine (preparedStorage names)).mono
  · rintro status w₁ ⟨h₁, rfl, hprivate⟩
    have htree : PrivateTree w.fs names := (preparedStorage_private_iff machine h hdir).mp hprivate
    have htmp : w₁.fs.IsDir (names ++ [tmpName]) := ⟨0o700, by rw [h₁.fs, htree.tmp]⟩
    apply (wp_probeWritable (hroot.push plainName_tmp) htmp).mono
    · rintro - w₂ ⟨hcalls, hdrawn, hfs, hfree⟩
      rw [h₁.after.drawn] at hdrawn
      rw [h₁.fs] at hfs
      rw [h₁.fs, h₁.after.drawn] at hfree
      exact ⟨h₁.after.calls.trans hcalls, hdrawn, hfs, rfl, htree, hfree⟩
    · rintro e w₂ ⟨hcalls, hdrawn, ⟨source, rfl⟩, hcause⟩
      rw [h₁.after.drawn] at hdrawn
      have hcalls' : w.calls ≤ w₂.calls := h₁.after.calls.trans hcalls
      have hdrawn' : w.drawn ≤ w₂.drawn := by omega
      rw [h₁.fs, h₁.after.drawn] at hcause
      rcases hcause with ⟨hfs, hcut | htaken⟩ | ⟨hcut, hleft⟩
      · exact ⟨hcalls', hdrawn', Or.inl hfs, Or.inl (hcut.earlier h₁.after.calls)⟩
      · exact ⟨hcalls', hdrawn', Or.inl hfs,
          Or.inr (Or.inr ⟨htaken, by simp [StorageError.source]⟩)⟩
      · have hcut' := hcut.earlier h₁.after.calls
        exact ⟨hcalls', hdrawn', Or.inr ⟨hcut', hleft⟩, Or.inl hcut'⟩
  · rintro e w₁ ⟨h₁, hcause⟩
    refine ⟨h₁.after.calls, h₁.after.drawn.ge, Or.inl h₁.fs, ?_⟩
    rcases hcause with hcut | hprivate
    · exact Or.inl hcut
    · exact Or.inr (Or.inl fun htree =>
        hprivate ((preparedStorage_private_iff machine h hdir).mpr htree))

/-- The names a bootstrap may add directories at. -/
def BootstrapNames (names p : List Name) : Prop :=
  p <+: names ∨ p = names ++ [blobsName] ∨ p = names ++ [tmpName]

theorem not_bootstrapNames_probe (names : List Name) (probe : Name) :
    ¬ BootstrapNames names (names ++ [tmpName] ++ [probe]) := by
  rintro (hp | heq | heq)
  · have hlen := hp.length_le
    simp only [List.length_append, List.length_singleton] at hlen
    omega
  · have hlen := congrArg List.length heq
    simp at hlen
  · have hlen := congrArg List.length heq
    simp at hlen

/-- The tree of a bootstrap run grew at the bootstrap names. -/
abbrev Bootstrapped (machine : Machine Uuid) (names : List Name) (fs fs' : FileSystem) : Prop :=
  FileSystem.Grown (machine.mkdirMode 0o700) (BootstrapNames names) fs fs'

section Growth

variable {names : List Name} {fs fs' : FileSystem}

theorem bootstrapped_root
    (h : FileSystem.Grown (machine.mkdirMode 0o700) (· <+: names) fs fs') :
    Bootstrapped machine names fs fs' :=
  h.mono fun _ hp => Or.inl hp

theorem bootstrapped_blobs
    (h : FileSystem.Grown (machine.mkdirMode 0o700) (· <+: names ++ [blobsName]) fs fs') :
    Bootstrapped machine names fs fs' := by
  refine h.mono fun p hp => ?_
  rcases List.prefix_concat_iff.mp hp with rfl | hp
  · exact Or.inr (Or.inl rfl)
  · exact Or.inl hp

theorem bootstrapped_tmp
    (h : FileSystem.Grown (machine.mkdirMode 0o700) (· <+: names ++ [tmpName]) fs fs') :
    Bootstrapped machine names fs fs' := by
  refine h.mono fun p hp => ?_
  rcases List.prefix_concat_iff.mp hp with rfl | hp
  · exact Or.inr (Or.inr rfl)
  · exact Or.inl hp

end Growth

/-- Growth, or growth and a probe that a refused call left behind. -/
def BootstrapFrame (machine : Machine Uuid) (w : World) (names : List Name)
    (error : StorageError) (fs' : FileSystem) : Prop :=
  Bootstrapped machine names w.fs fs' ∨ Interrupted machine w error ∧
    ∃ fs, Bootstrapped machine names w.fs fs ∧
      ProbeLeft machine (names ++ [tmpName]) (machine.random w.drawn) fs fs'

theorem probeFree_iff {names : List Name} (hgrown : Bootstrapped machine names w.fs w'.fs)
    (hafter : w.After w') : ProbeFree machine w' names ↔ ProbeFree machine w names := by
  rw [ProbeFree, ProbeFree, hafter.drawn]
  exact ⟨hgrown.none_before,
    fun hnone => hgrown.none_of_not_target hnone (not_bootstrapNames_probe _ _)⟩

theorem BootstrapFrame.earlier {names : List Name} {error : StorageError} {fs : FileSystem}
    (h : BootstrapFrame machine w' names error fs)
    (hgrown : Bootstrapped machine names w.fs w'.fs) (hafter : w.After w') :
    BootstrapFrame machine w names error fs := by
  rcases h with hgrown' | ⟨hcut, fs', hgrown', hleft⟩
  · exact Or.inl (hgrown.trans hgrown')
  · rw [hafter.drawn] at hleft
    exact Or.inr ⟨hcut.earlier hafter.calls, fs', hgrown.trans hgrown', hleft⟩

/-- A directory of the storage stands in `fs` with the wrong kind or mode, below a
root that is right. -/
def WrongDirectory (fs : FileSystem) (names p : List Name) (error : StorageError) : Prop :=
  (p = names ∨ (p = names ++ [blobsName] ∨ p = names ++ [tmpName]) ∧
      fs.node names = some (.dir 0o700)) ∧
    fs.node p ≠ none ∧ ∃ path, path.At p ∧ Defect (fs.found p) path error

variable (machine) in
/-- `prepareBelow` from a private root. -/
theorem wp_prepareBelow {names : List Name} (h : RootNames names)
    (hprivate : w.fs.node names = some (.dir 0o700)) :
    Wp (LocalStorage.prepareBelow machine (realPath names))
      (fun storage w' => w.calls ≤ w'.calls ∧ w'.drawn = w.drawn + 1 ∧
        Bootstrapped machine names w.fs w'.fs ∧ storage = preparedStorage names ∧
        PrivateTree w'.fs names ∧ ProbeFree machine w names)
      (fun e w' => w.calls ≤ w'.calls ∧ w.drawn ≤ w'.drawn ∧
        BootstrapFrame machine w names e w'.fs ∧
        (Interrupted machine w e ∨ ¬ ProbeFree machine w names ∧ e.source ≠ none ∨
          ∃ p ≠ names, WrongDirectory w'.fs names p e)) w := by
  have hroot : (realPath names).At names := at_ofComponents h.plain
  have hne : ∀ name : Name, names ++ [name] ≠ names := by simp
  unfold LocalStorage.prepareBelow
  simp only [wp_bind, wp_pure]
  apply (wp_ensureDirectory machine (hroot.push plainName_blobs)
    (FileSystem.IsDir.unobstructed ⟨_, hprivate⟩)).mono
  · rintro - w₁ ⟨h₁, hgrown₁, hblobs⟩
    have hgrown₁ : Bootstrapped machine names w.fs w₁.fs := bootstrapped_blobs hgrown₁
    have hprivate₁ : w₁.fs.node names = some (.dir 0o700) := hgrown₁.kept _ _ hprivate
    apply (wp_ensureDirectory machine (hroot.push plainName_tmp)
      (FileSystem.IsDir.unobstructed ⟨_, hprivate₁⟩)).mono
    · rintro - w₂ ⟨h₂, hgrown₂, htmp⟩
      have hgrown₂ : Bootstrapped machine names w₁.fs w₂.fs := bootstrapped_tmp hgrown₂
      have hgrown : Bootstrapped machine names w.fs w₂.fs := hgrown₁.trans hgrown₂
      have hafter : w.After w₂ := h₁.trans h₂
      have htree : PrivateTree w₂.fs names :=
        ⟨hgrown.kept _ _ hprivate, hgrown₂.kept _ _ hblobs, htmp⟩
      have hfree : ProbeFree machine w₂ names ↔ ProbeFree machine w names :=
        probeFree_iff hgrown hafter
      apply (wp_diagnose h ⟨_, htree.root⟩).mono
      · rintro status w₃ ⟨hcalls, hdrawn, hfs, -, -, hprobe⟩
        rw [hfs]
        exact ⟨hafter.calls.trans hcalls, hdrawn.trans (by rw [hafter.drawn]), hgrown, rfl, htree,
          hfree.mp hprobe⟩
      · rintro e w₃ hfail
        have hdrawn : w.drawn ≤ w₃.drawn := hafter.drawn ▸ hfail.drawn
        refine ⟨hafter.calls.trans hfail.calls, hdrawn, ?_, ?_⟩
        · have hframe : BootstrapFrame machine w₂ names e w₃.fs :=
            hfail.frame.imp (fun hfs => by rw [hfs]; exact .refl _)
              (fun hcut => ⟨hcut.1, w₂.fs, .refl _, hcut.2⟩)
          exact hframe.earlier hgrown hafter
        · rcases hfail.cause with hcut | hnot | ⟨htaken, hsource⟩
          · exact Or.inl (hcut.earlier hafter.calls)
          · exact absurd htree hnot
          · exact Or.inr (Or.inl ⟨fun hprobe => htaken (hfree.mpr hprobe), hsource⟩)
    · -- `tmp` fails, the root stays private
      rintro e w₂ ⟨h₂, hgrown₂, hcause⟩
      have hgrown₂ : Bootstrapped machine names w₁.fs w₂.fs := bootstrapped_tmp hgrown₂
      refine ⟨(h₁.trans h₂).calls, (h₁.trans h₂).drawn.ge, Or.inl (hgrown₁.trans hgrown₂), ?_⟩
      rcases hcause with hcut | ⟨hdefect, hthere, -⟩
      · exact Or.inl (hcut.earlier h₁.calls)
      · exact Or.inr (Or.inr ⟨_, hne tmpName, Or.inr ⟨Or.inr rfl, hgrown₂.kept _ _ hprivate₁⟩,
          hthere, _, hroot.push plainName_tmp, hdefect⟩)
  · -- `blobs` fails
    rintro e w₁ ⟨h₁, hgrown₁, hcause⟩
    have hgrown₁ : Bootstrapped machine names w.fs w₁.fs := bootstrapped_blobs hgrown₁
    refine ⟨h₁.calls, h₁.drawn.ge, Or.inl hgrown₁, ?_⟩
    rcases hcause with hcut | ⟨hdefect, hthere, -⟩
    · exact Or.inl hcut
    · exact Or.inr (Or.inr ⟨_, hne blobsName, Or.inr ⟨Or.inl rfl, hgrown₁.kept _ _ hprivate⟩,
        hthere, _, hroot.push plainName_blobs, hdefect⟩)

/-- How `prepare` can fail. -/
structure PrepareFailure (machine : Machine Uuid) (w w' : World) (requested : PathBuf)
    (error : StorageError) : Prop where
  calls : w.calls ≤ w'.calls
  drawn : w.drawn ≤ w'.drawn
  frame : BootstrapFrame machine w (storageNames machine requested) error w'.fs
  cause : Interrupted machine w error ∨
    ¬ ProbeFree machine w (storageNames machine requested) ∧ error.source ≠ none ∨
    w'.fs = w.fs ∧ (¬ ValidShape requested ∧ error = .unsafePath requested ∨
      BlockedBy w.fs (storageNames machine requested) error) ∨
    ∃ p, WrongDirectory w'.fs (storageNames machine requested) p error ∧
      (p = storageNames machine requested → w.fs.node p ≠ none → w'.fs = w.fs)

theorem rootNames_of_at {requested root : PathBuf} (hshape : ValidShape requested)
    (h : root.At (storageNames machine requested)) :
    RootNames (storageNames machine requested) where
  plain := fun _ => h.plainName
  nonempty := by simp [storageNames, hshape.2.2]

/-- **`prepare`**, from any tree: an `Ok` result leaves a private tree below
unobstructed names and nothing else new, and every error has one of four
causes. -/
theorem wp_prepare (requested : PathBuf) :
    Wp (LocalStorage.prepare machine requested)
      (fun storage w' => w.calls ≤ w'.calls ∧ w'.drawn = w.drawn + 1 ∧ ValidShape requested ∧
        RootNames (storageNames machine requested) ∧
        w.fs.Unobstructed (storageNames machine requested) ∧
        Bootstrapped machine (storageNames machine requested) w.fs w'.fs ∧
        storage = preparedStorage (storageNames machine requested) ∧
        PrivateTree w'.fs (storageNames machine requested) ∧
        ProbeFree machine w (storageNames machine requested))
      (fun e w' => PrepareFailure machine w w' requested e) w := by
  unfold LocalStorage.prepare
  simp only [wp_bind, wp_mapErr]
  apply (wp_absoluteStoragePath requested).mono
  swap
  · -- the requested path is turned down: nothing has happened yet
    rintro e w₁ ⟨h₁, hcause⟩
    refine ⟨h₁.after.calls, h₁.after.drawn.ge, Or.inl (by rw [h₁.fs]; exact .refl _), ?_⟩
    rcases hcause with hcut | hshape
    · exact Or.inl hcut
    · exact Or.inr (Or.inr (Or.inl ⟨h₁.fs, Or.inl hshape⟩))
  rintro root w₁ ⟨h₁, hshape, hroot⟩
  have hnames := rootNames_of_at hshape hroot
  apply (wp_inspectExistingAncestors hroot).mono
  swap
  · -- the way is obstructed: still nothing has happened
    rintro e w₂ ⟨h₂, hcause⟩
    have h := h₁.trans h₂
    rw [h₁.fs] at hcause
    refine ⟨h.after.calls, h.after.drawn.ge, Or.inl (by rw [h.fs]; exact .refl _), ?_⟩
    rcases hcause with hcut | hblocked
    · exact Or.inl (hcut.earlier h₁.after.calls)
    · exact Or.inr (Or.inr (Or.inl ⟨h.fs, Or.inr hblocked⟩))
  rintro - w₂ ⟨h₂, hclear⟩
  rw [h₁.fs] at hclear
  have h : w.Unmoved w₂ := h₁.trans h₂
  have hclear₂ : w₂.fs.Unobstructed (storageNames machine requested) := by rwa [h.fs]
  have hsplit := List.dropLast_append_getLast hnames.nonempty
  have hensure := wp_ensureDirectory machine (hsplit.symm ▸ hroot)
    (hclear₂.above (List.dropLast_prefix _))
  rw [hsplit] at hensure
  apply hensure.mono
  swap
  · -- the root is not what it should be, or could not be made
    rintro e w₃ ⟨h₃, hgrown₃, hcause⟩
    have hafter : w.After w₃ := h.after.trans h₃
    rw [h.fs] at hgrown₃
    refine ⟨hafter.calls, hafter.drawn.ge, Or.inl (bootstrapped_root hgrown₃), ?_⟩
    rcases hcause with hcut | ⟨hdefect, hthere, hsame⟩
    · exact Or.inl (hcut.earlier h.after.calls)
    · rw [h.fs] at hsame
      exact Or.inr (Or.inr (Or.inr ⟨_, ⟨Or.inl rfl, hthere, root, hroot, hdefect⟩,
        fun _ => hsame⟩))
  rintro - w₃ ⟨h₃, hgrown₃, hprivate⟩
  have hafter : w.After w₃ := h.after.trans h₃
  rw [h.fs] at hgrown₃
  apply Machine.wp_canonicalize hroot ⟨_, hprivate⟩
  · -- the canonical path has the same components
    have hcanonical : (realPath (storageNames machine requested)).components = root.components := by
      rw [hroot]
      exact at_ofComponents hnames.plain
    rw [if_neg (not_not.mpr hcanonical)]
    have hafter' : w.After w₃.tick := hafter.trans (w₃.after_tickTo _)
    have hgrown : Bootstrapped machine (storageNames machine requested) w.fs w₃.tick.fs :=
      bootstrapped_root hgrown₃
    have hprobe := probeFree_iff hgrown hafter'
    have hbelow := wp_prepareBelow machine (w := w₃.tick) hnames hprivate
    apply hbelow.mono
    · rintro storage w₄ ⟨hcalls, hdrawn, hgrown₄, hstorage, htree, hfree⟩
      rw [hafter'.drawn] at hdrawn
      exact ⟨hafter'.calls.trans hcalls, hdrawn, hshape, hnames, hclear, hgrown.trans hgrown₄,
        hstorage, htree, hprobe.mp hfree⟩
    · rintro e w₄ ⟨hcalls, hdrawn, hframe, hcause⟩
      refine ⟨hafter'.calls.trans hcalls, hafter'.drawn ▸ hdrawn, hframe.earlier hgrown hafter', ?_⟩
      rcases hcause with hcut | ⟨htaken, hsource⟩ | ⟨p, hp, hwrong⟩
      · exact Or.inl (hcut.earlier hafter'.calls)
      · exact Or.inr (Or.inl ⟨fun hfree => htaken (hprobe.mpr hfree), hsource⟩)
      · exact Or.inr (Or.inr (Or.inr ⟨p, hwrong, fun heq => absurd heq hp⟩))
  · intro r hr
    refine ⟨hafter.calls.trans (Nat.le_succ _), hafter.drawn.ge, Or.inl (bootstrapped_root hgrown₃),
      Or.inl ?_⟩
    exact interrupted_of_refused hafter.calls hr (by simp [StorageError.source])

end WikiNext.Store
