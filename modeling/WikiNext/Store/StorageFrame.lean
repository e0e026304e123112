import WikiNext.Store.StorageSpec

/-!
# The storage bootstrap damages nothing

What `LocalStorage::prepare` leaves alone, however it ends and whichever of its
calls are turned down: old nodes stay as they are, and new nodes are the
directories of the storage, or one probe file whose removal failed.

§1 follows the probe through the program, §2 says which errors come before any
creation, §3 puts the frame together.
-/

namespace WikiNext.Store

open WikiNext.Foundation WikiNext.Core

variable {machine : Machine Uuid} {w w' : World} {requested : PathBuf} {names : List Name}

/-! ## §1  The probe -/

/-- Where the write probe with this UUID stands. -/
def probeNames (names : List Name) (uuid : Uuid) : List Name :=
  names ++ [tmpName] ++ [probeName uuid]

/-- The path the write probe is created and removed by. -/
def probePath (names : List Name) (uuid : Uuid) : PathBuf :=
  (preparedStorage names).temporary.join (probeName uuid)

/-- The run from `fs` to `w'` left nothing new where its probe stood, unless it
ended with a removal of the probe that was turned down. -/
def ProbeAccounted (machine : Machine Uuid) (names : List Name) (uuid : Uuid) (fs : FileSystem)
    (w' : World) : Prop :=
  w'.fs.node (probeNames names uuid) = fs.node (probeNames names uuid) ∨
    RemovalRefused machine (probePath names uuid) w'

/-- Directories that a bootstrap adds do not stand where the probe does. -/
theorem Bootstrapped.node_probe {fs fs' : FileSystem} (h : Bootstrapped machine names fs fs')
    (uuid : Uuid) : fs'.node (probeNames names uuid) = fs.node (probeNames names uuid) := by
  cases hnode : fs.node (probeNames names uuid) with
  | some node => exact h.kept _ _ hnode
  | none => exact h.none_of_not_target hnode (not_bootstrapNames_probe _ _)

theorem ProbeAccounted.earlier {uuid : Uuid} {fs fs' : FileSystem}
    (h : ProbeAccounted machine names uuid fs' w') (hgrown : Bootstrapped machine names fs fs') :
    ProbeAccounted machine names uuid fs w' :=
  h.imp_left fun hsame => hsame.trans (hgrown.node_probe uuid)

theorem wp_diagnose_probe (h : RootNames names) (hdir : w.fs.IsDir names) :
    Wp ((preparedStorage names).diagnose machine) (fun _ _ => True)
      (fun _ w' => ProbeAccounted machine names (machine.random w.drawn) w.fs w') w := by
  have hroot : (realPath names).At names := at_ofComponents h.plain
  unfold LocalStorage.diagnose
  simp only [wp_bind]
  apply (wp_status machine (preparedStorage names)).mono
  · rintro status w₁ ⟨h₁, -, hprivate⟩
    have htree : PrivateTree w.fs names := (preparedStorage_private_iff machine h hdir).mp hprivate
    have htmp : w₁.fs.IsDir (names ++ [tmpName]) := ⟨0o700, by rw [h₁.fs, htree.tmp]⟩
    apply (wp_probeWritable_removal (hroot.push plainName_tmp) htmp).mono
    · exact fun _ _ _ => trivial
    · rintro e w₂ ⟨-, -, -, hcause⟩
      rw [h₁.fs, h₁.after.drawn] at hcause
      rcases hcause with ⟨hfs, -⟩ | ⟨-, -, hfailed⟩
      · exact Or.inl (by rw [hfs])
      · exact Or.inr hfailed
  · rintro e w₁ ⟨h₁, -⟩
    exact Or.inl (by rw [h₁.fs])

variable (machine) in
theorem wp_prepareBelow_probe (h : RootNames names)
    (hprivate : w.fs.node names = some (.dir 0o700)) :
    Wp (LocalStorage.prepareBelow machine (realPath names)) (fun _ _ => True)
      (fun _ w' => ProbeAccounted machine names (machine.random w.drawn) w.fs w') w := by
  have hroot : (realPath names).At names := at_ofComponents h.plain
  unfold LocalStorage.prepareBelow
  simp only [wp_bind, wp_pure]
  apply (wp_ensureDirectory machine (hroot.push plainName_blobs)
    (FileSystem.IsDir.unobstructed ⟨_, hprivate⟩)).mono
  swap
  · rintro e w₁ ⟨-, hgrown₁, -⟩
    exact Or.inl ((bootstrapped_blobs hgrown₁).node_probe _)
  rintro - w₁ ⟨h₁, hgrown₁, -⟩
  have hgrown₁ : Bootstrapped machine names w.fs w₁.fs := bootstrapped_blobs hgrown₁
  have hprivate₁ : w₁.fs.node names = some (.dir 0o700) := hgrown₁.kept _ _ hprivate
  apply (wp_ensureDirectory machine (hroot.push plainName_tmp)
    (FileSystem.IsDir.unobstructed ⟨_, hprivate₁⟩)).mono
  swap
  · rintro e w₂ ⟨-, hgrown₂, -⟩
    exact (ProbeAccounted.earlier (Or.inl ((bootstrapped_tmp hgrown₂).node_probe _)) hgrown₁)
  rintro - w₂ ⟨h₂, hgrown₂, -⟩
  have hgrown : Bootstrapped machine names w.fs w₂.fs := hgrown₁.trans (bootstrapped_tmp hgrown₂)
  apply (wp_diagnose_probe h ⟨_, hgrown.kept _ _ hprivate⟩).mono
  · exact fun _ _ _ => trivial
  · intro e w₃ hprobe
    rw [(h₁.trans h₂).drawn] at hprobe
    exact hprobe.earlier hgrown

/-- The probe of a whole bootstrap run. -/
theorem wp_prepare_probe (machine : Machine Uuid) (requested : PathBuf) (w : World) :
    Wp (LocalStorage.prepare machine requested) (fun _ _ => True)
      (fun _ w' => ProbeAccounted machine (storageNames machine requested)
        (machine.random w.drawn) w.fs w') w := by
  unfold LocalStorage.prepare
  simp only [wp_bind, wp_mapErr]
  apply (wp_absoluteStoragePath requested).mono
  swap
  · rintro e w₁ ⟨h₁, -⟩
    exact Or.inl (by rw [h₁.fs])
  rintro root w₁ ⟨h₁, hshape, hroot⟩
  have hnames := rootNames_of_at hshape hroot
  apply (wp_inspectExistingAncestors hroot).mono
  swap
  · rintro e w₂ ⟨h₂, -⟩
    exact Or.inl (by rw [(h₁.trans h₂).fs])
  rintro - w₂ ⟨h₂, hclear⟩
  have h := h₁.trans h₂
  have hclear₂ : w₂.fs.Unobstructed (storageNames machine requested) := by rwa [h₂.fs]
  have hsplit := List.dropLast_append_getLast hnames.nonempty
  have hensure := wp_ensureDirectory machine (hsplit.symm ▸ hroot)
    (hclear₂.above (List.dropLast_prefix _))
  rw [hsplit, h.fs] at hensure
  apply hensure.mono
  swap
  · rintro e w₃ ⟨-, hgrown₃, -⟩
    exact Or.inl ((bootstrapped_root hgrown₃).node_probe _)
  rintro - w₃ ⟨h₃, hgrown₃, hprivate⟩
  have hgrown₃ := bootstrapped_root hgrown₃
  apply Machine.wp_canonicalize hroot ⟨_, hprivate⟩
  · have hcanonical : (realPath (storageNames machine requested)).components = root.components := by
      rw [hroot]
      exact at_ofComponents hnames.plain
    rw [if_neg (not_not.mpr hcanonical)]
    have hbelow := wp_prepareBelow_probe machine (w := w₃.tick) hnames hprivate
    apply hbelow.mono
    · exact fun _ _ _ => trivial
    · intro e w₄ hprobe
      rw [World.tickTo_drawn, (h.after.trans h₃).drawn] at hprobe
      exact hprobe.earlier hgrown₃
  · intro r _
    exact Or.inl (hgrown₃.node_probe _)

/-! ## §2  Errors that come before any creation -/

/-- The errors about what was there already: the requested path, a component
of the root path, or the mode of the root. -/
inductive EarlyError (fs : FileSystem) (names : List Name) : StorageError → Prop
  | unsafePath (path : PathBuf) : EarlyError fs names (.unsafePath path)
  | symlink (path : PathBuf) (front : List Name) (component : front <+: names)
      (at_front : path.At front) (existed : fs.node front ≠ none) :
      EarlyError fs names (.symlink path)
  | notDirectory (path : PathBuf) (front : List Name) (component : front <+: names)
      (at_front : path.At front) (existed : fs.node front ≠ none) :
      EarlyError fs names (.notDirectory path)
  | unsafePermissions (path : PathBuf) (actual : BitVec 32) (at_root : path.At names)
      (existed : fs.node names ≠ none) : EarlyError fs names (.unsafePermissions path actual)

theorem EarlyError.source_eq_none {fs : FileSystem} {error : StorageError}
    (h : EarlyError fs names error) : error.source = none := by
  cases h <;> rfl

/-- A defect of `blobs` or `tmp` is no early error: its path names neither the
root nor a component above it. -/
theorem EarlyError.defect_at_root {fs fs' : FileSystem} {p : List Name} {path : PathBuf}
    {error : StorageError} (h : EarlyError fs names error) (hpath : path.At p)
    (hdefect : Defect (fs'.found p) path error) (hp : ∃ back, p = names ++ back) :
    p = names ∧ fs.node p ≠ none := by
  obtain ⟨back, rfl⟩ := hp
  have hshort : ∀ {front : List Name}, front <+: names → names ++ back = front →
      names ++ back = names := by
    rintro front hfront rfl
    exact (List.prefix_append names back).eq_of_length
      (le_antisymm (List.prefix_append names back).length_le hfront.length_le) |>.symm
  have hsame : ∀ {front : List Name}, front <+: names → path.At front → fs.node front ≠ none →
      names ++ back = names ∧ fs.node (names ++ back) ≠ none := by
    intro front hfront hat hexisted
    have heq := hpath.unique hat
    exact ⟨hshort hfront heq, by rwa [heq]⟩
  unfold FileSystem.found at hdefect
  -- the error of a defect carries the path it was found at
  cases hnode : fs'.node (names ++ back) with
  | none =>
      rw [hnode] at hdefect
      cases hdefect
      cases h
  | some node =>
      rw [hnode] at hdefect
      cases node with
      | symlink target =>
          cases hdefect
          cases h with
          | symlink _ front component at_front existed => exact hsame component at_front existed
      | file mode content =>
          cases hdefect
          cases h with
          | notDirectory _ front component at_front existed =>
              exact hsame component at_front existed
      | dir mode =>
          obtain ⟨-, rfl⟩ := hdefect
          cases h with
          | unsafePermissions _ _ at_root existed =>
              exact hsame (List.prefix_refl names) at_root existed

/-- **Early errors change nothing.** -/
theorem PrepareFailure.fs_eq_of_early {error : StorageError}
    (h : PrepareFailure machine w w' requested error)
    (hearly : EarlyError w.fs (storageNames machine requested) error) : w'.fs = w.fs := by
  have hsource := hearly.source_eq_none
  rcases h.cause with hcut | ⟨-, hcut⟩ | ⟨hfs, -⟩ | ⟨p, hwrong, hroot⟩
  · exact absurd hsource hcut.2
  · exact absurd hsource hcut
  · exact hfs
  · obtain ⟨hp, -, path, hpath, hdefect⟩ := hwrong
    have hbelow : ∃ back, p = storageNames machine requested ++ back := by
      rcases hp with rfl | ⟨rfl | rfl, -⟩
      · exact ⟨[], (List.append_nil _).symm⟩
      · exact ⟨_, rfl⟩
      · exact ⟨_, rfl⟩
    obtain ⟨heq, hexisted⟩ := hearly.defect_at_root hpath hdefect hbelow
    exact hroot heq hexisted

/-- An `UnsafePath` error is about the shape of the requested path. -/
theorem PrepareFailure.unsafePath {path : PathBuf}
    (h : PrepareFailure machine w w' requested (.unsafePath path)) :
    ¬ ValidShape requested ∧ path = requested := by
  have hdefect : ∀ {found : Except IoError Node} {p : PathBuf},
      ¬ Defect found p (.unsafePath path) := by
    intro found p hdefect
    unfold Defect at hdefect
    split at hdefect <;> simp at hdefect
  rcases h.cause with hcut | ⟨-, hcut⟩ | ⟨-, ⟨hshape, heq⟩ | hblocked⟩ | ⟨p, hwrong, -⟩
  · exact absurd rfl hcut.2
  · exact absurd rfl hcut
  · exact ⟨hshape, StorageError.unsafePath.inj heq⟩
  · obtain ⟨_, _, _, _, _, _, _, h⟩ := hblocked
    exact absurd h hdefect
  · obtain ⟨-, -, _, -, h⟩ := hwrong
    exact absurd h hdefect

/-! ## §3  The frame -/

/-- What a bootstrap run from `fs` for the root at `names` did to the tree,
given how it ended. -/
structure Undamaged (machine : Machine Uuid) (names : List Name) (uuid : Uuid) (fs : FileSystem)
    (result : Except StorageError LocalStorage) (w' : World) : Prop where
  /-- Old nodes keep their kind, mode and content. -/
  kept : ∀ p node, fs.node p = some node → w'.fs.node p = some node
  /-- New nodes are directories of the storage or the one probe, which is left
  only by a run whose last call was a removal of it that was turned down. -/
  added : ∀ p, fs.node p = none → w'.fs.node p ≠ none →
    (w'.fs.IsDir p ∧ (p <+: names ∨ p = names ++ [blobsName] ∨ p = names ++ [tmpName])) ∨
    (p = probeNames names uuid ∧ (∃ mode, w'.fs.node p = some (.file mode [])) ∧
      RemovalRefused machine (probePath names uuid) w')
  /-- Complaints about what was there before come before any creation. -/
  early : ∀ error, result = .error error → EarlyError fs names error → w'.fs = fs

theorem Bootstrapped.isDir_of_added {fs fs' : FileSystem} (h : Bootstrapped machine names fs fs')
    {p : List Name} (hnone : fs.node p = none) (hne : fs'.node p ≠ none) :
    fs'.IsDir p ∧ BootstrapNames names p := by
  obtain ⟨htarget, front, name, rfl, -, hmode⟩ := h.added p hnone hne
  exact ⟨⟨_, hmode⟩, htarget⟩

/-- Growth and a probe left behind, as one step of the tree. -/
theorem ProbeLeft.undamaged {fs fs₁ fs' : FileSystem} {uuid : Uuid}
    (hleft : ProbeLeft machine (names ++ [tmpName]) uuid fs₁ fs')
    (hgrown : Bootstrapped machine names fs fs₁) :
    (∀ p node, fs.node p = some node → fs'.node p = some node) ∧
    ∀ p, fs.node p = none → fs'.node p ≠ none →
      (fs'.IsDir p ∧ BootstrapNames names p) ∨
        p = probeNames names uuid ∧ ∃ mode, fs'.node p = some (.file mode []) := by
  obtain ⟨hdir, hfree, rfl⟩ := hleft
  have hother : ∀ {p node}, fs₁.node p = some node →
      (fs₁.add (names ++ [tmpName]) (probeName uuid) (.file machine.createMode []) hdir
        hfree).node p = some node := by
    intro p node hnode
    rw [FileSystem.add_node, if_neg, hnode]
    rintro rfl
    rw [hfree] at hnode
    cases hnode
  refine ⟨fun p node hnode => hother (hgrown.kept p node hnode), fun p hnone hne => ?_⟩
  by_cases hp : p = probeNames names uuid
  · exact Or.inr ⟨hp, machine.createMode, by rw [hp, FileSystem.add_node]; exact if_pos rfl⟩
  · have hne : fs₁.node p ≠ none := by
      rwa [FileSystem.add_node, if_neg (fun heq => hp (heq.trans rfl))] at hne
    obtain ⟨⟨mode, hmode⟩, htarget⟩ := hgrown.isDir_of_added hnone hne
    exact Or.inl ⟨⟨mode, hother hmode⟩, htarget⟩

/-- **The bootstrap never damages what exists.** From any tree, for any
requested path and whichever calls are turned down, `prepare` leaves every
node as it was, adds nothing but storage directories and at most one probe
whose removal failed, and adds nothing at all before it complains about
something that was there. -/
theorem prepare_undamaged (machine : Machine Uuid) (requested : PathBuf) (w : World) :
    Undamaged machine (storageNames machine requested) (machine.random w.drawn) w.fs
      (outcome (LocalStorage.prepare machine requested) w).1
      (outcome (LocalStorage.prepare machine requested) w).2 := by
  unfold outcome
  cases hrun : LocalStorage.prepare machine requested w with
  | ok storage w' =>
      obtain ⟨-, -, -, -, -, hgrown, -⟩ := (wp_prepare requested).of_ok hrun
      exact {
        kept := hgrown.kept
        added := fun p hnone hne => Or.inl (hgrown.isDir_of_added hnone hne)
        early := fun error herror => by cases herror }
  | error e w' =>
      have hfail := (wp_prepare requested).of_error hrun
      have hearly : ∀ error, (.error e : Except StorageError LocalStorage) = .error error →
          EarlyError w.fs (storageNames machine requested) error → w'.fs = w.fs := by
        rintro error ⟨⟩
        exact hfail.fs_eq_of_early
      rcases hfail.frame with hgrown | ⟨-, fs₁, hgrown, hleft⟩
      · exact {
          kept := hgrown.kept
          added := fun p hnone hne => Or.inl (hgrown.isDir_of_added hnone hne)
          early := hearly }
      · obtain ⟨hkept, hadded⟩ := hleft.undamaged hgrown
        refine ⟨hkept, fun p hnone hne => ?_, hearly⟩
        rcases hadded p hnone hne with hdir | ⟨hp, hfile⟩
        · exact Or.inl hdir
        · -- a new node under the probe's name: the run ended with its removal
          have hprobe := (wp_prepare_probe machine requested w).of_error hrun
          rw [ProbeAccounted, ← hp] at hprobe
          exact Or.inr ⟨hp, hfile, hprobe.resolve_left (fun hsame => hne (hsame.trans hnone))⟩

/-- Where removals of the probe go through, no probe stays, whatever else is
turned down. -/
theorem Undamaged.no_probe {fs : FileSystem} {uuid : Uuid}
    {result : Except StorageError LocalStorage} (h : Undamaged machine names uuid fs result w')
    (hremoves : ∀ n, machine.refuses n (.removeFile (probePath names uuid)) = none)
    {p : List Name} (hnone : fs.node p = none) (hthere : w'.fs.node p ≠ none) :
    w'.fs.IsDir p ∧ BootstrapNames names p := by
  rcases h.added p hnone hthere with hdir | ⟨-, -, n, refusal, -, hrefused⟩
  · exact hdir
  · rw [hremoves n] at hrefused
    cases hrefused

end WikiNext.Store
