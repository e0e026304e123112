import WikiNext.Store.StorageSpec

/-!
# The storage bootstrap keeps its promise

What holds after `LocalStorage::prepare` returned `Ok`, whatever the tree was
before and whatever mode new directories get: private directories without
links on the way, nothing else new, and a second bootstrap that finds nothing
to do.
-/

namespace WikiNext.Store

open WikiNext.Foundation WikiNext.Core

variable {machine : Machine Uuid} {w w' : World} {requested : PathBuf} {names : List Name}

/-! ## §1  When nothing is missing, nothing changes -/

theorem PrivateTree.isDir (h : PrivateTree w.fs names) : w.fs.IsDir names := ⟨_, h.root⟩

/-- Below a complete storage there is nothing left to add. -/
theorem Bootstrapped.eq_of_privateTree {fs fs' : FileSystem}
    (h : Bootstrapped machine names fs fs') (htree : PrivateTree fs names) : fs' = fs := by
  have hdir : fs.IsDir names := ⟨_, htree.root⟩
  ext1
  funext p
  cases hnode : fs.node p with
  | some node => exact h.kept p node hnode
  | none =>
      refine h.none_of_not_target hnode ?_
      rintro (hp | rfl | rfl)
      · exact (hdir.above hp).ne_none hnode
      · simp [htree.blobs] at hnode
      · simp [htree.tmp] at hnode

/-- A complete storage has no wrong directory. -/
theorem PrivateTree.not_wrongDirectory {fs : FileSystem} (h : PrivateTree fs names)
    {p : List Name} {error : StorageError} : ¬ WrongDirectory fs names p error := by
  rintro ⟨hp, -, path, -, hdefect⟩
  have hprivate : fs.found p = .ok (.dir 0o700) := by
    rcases hp with rfl | ⟨rfl | rfl, -⟩
    · rw [FileSystem.found, h.root]
    · rw [FileSystem.found, h.blobs]
    · rw [FileSystem.found, h.tmp]
  rw [hprivate] at hdefect
  exact hdefect.ne_private

/-- Each of root, `blobs` and `tmp` is missing or already private. -/
def Acceptable (fs : FileSystem) (names : List Name) : Prop :=
  ∀ p, p = names ∨ p = names ++ [blobsName] ∨ p = names ++ [tmpName] →
    fs.node p = none ∨ fs.node p = some (.dir 0o700)

/-- A bootstrap of an acceptable tree goes wrong only at a new root. -/
theorem Bootstrapped.not_wrongDirectory {fs fs' : FileSystem}
    (h : Bootstrapped machine names fs fs') (hold : Acceptable fs names)
    (hroot : fs.node names = none → fs'.IsDir names → fs'.modeAt names = 0o700)
    (hchild : machine.mkdirMode 0o700 0o700 = 0o700) {p : List Name} {error : StorageError} :
    ¬ WrongDirectory fs' names p error := by
  rintro ⟨hp, hthere, path, -, hdefect⟩
  have hmember : p = names ∨ p = names ++ [blobsName] ∨ p = names ++ [tmpName] :=
    hp.imp_right And.left
  have hprivate : fs'.node p = some (.dir 0o700) := by
    rcases hold p hmember with hnone | hsome
    swap
    · exact h.kept _ _ hsome
    obtain ⟨-, front, name, heq, hfront, hmode⟩ := h.added p hnone hthere
    rcases hp with rfl | ⟨hchildName, hprivateRoot⟩
    · -- the root itself is new
      have hdir : fs'.IsDir p := ⟨_, hmode⟩
      rw [hdir.node_eq, hroot hnone hdir]
    · -- a new child of a private root
      have hparent : front = names := by
        rcases hchildName with rfl | rfl
        · exact (List.append_inj' heq rfl).1.symm
        · exact (List.append_inj' heq rfl).1.symm
      rw [hmode, hparent, FileSystem.modeAt_eq hprivateRoot, hchild]
  rw [FileSystem.found, hprivate] at hdefect
  exact hdefect.ne_private

/-! ## §2  Calls that are not turned down -/

variable (machine w requested) in
/-- **Acceptance.** Without refused calls, with a fresh probe name and an
unobstructed way, `prepare` returns unless it would leave a wrong directory. -/
theorem prepare_returns (hcalm : machine.Calm w.calls) (hshape : ValidShape requested)
    (hclear : w.fs.Unobstructed (storageNames machine requested))
    (hfree : ProbeFree machine w (storageNames machine requested))
    (hright : ∀ fs' p error, Bootstrapped machine (storageNames machine requested) w.fs fs' →
      ¬ WrongDirectory fs' (storageNames machine requested) p error) :
    ∃ w', LocalStorage.prepare machine requested w =
        .ok (preparedStorage (storageNames machine requested)) w' ∧
      Bootstrapped machine (storageNames machine requested) w.fs w'.fs := by
  have hcut : ∀ {e : StorageError}, ¬ Interrupted machine w e := fun h => h.1 hcalm
  have hrun : Wp (LocalStorage.prepare machine requested)
      (fun storage w' => storage = preparedStorage (storageNames machine requested) ∧
        Bootstrapped machine (storageNames machine requested) w.fs w'.fs)
      (fun _ _ => False) w := by
    apply (wp_prepare requested).mono
    · rintro storage w' ⟨-, -, -, -, -, hgrown, hstorage, -, -⟩
      exact ⟨hstorage, hgrown⟩
    · intro e w' hfail
      have hgrown : Bootstrapped machine (storageNames machine requested) w.fs w'.fs :=
        hfail.frame.resolve_right (fun h => hcut h.1)
      rcases hfail.cause with hint | ⟨htaken, -⟩ | ⟨-, ⟨hbad, -⟩ | hblocked⟩ | ⟨p, hwrong, -⟩
      · exact hcut hint
      · exact htaken hfree
      · exact hbad hshape
      · exact hblocked.not_unobstructed hclear
      · exact hright _ _ _ hgrown hwrong
  obtain ⟨storage, w', hok, rfl, hgrown⟩ := hrun.returns
  exact ⟨w', hok, hgrown⟩

/-- `status` of any storage, without refused calls. -/
theorem status_ok_iff (hcalm : machine.Calm w.calls) (storage : LocalStorage) :
    (∃ status w', storage.status machine w = .ok status w') ↔ storage.Private machine w.fs := by
  have hspec := wp_status machine (w := w) storage
  constructor
  · rintro ⟨status, w', hok⟩
    exact (hspec.of_ok hok).2.2
  · intro hprivate
    cases hrun : storage.status machine w with
    | ok status w' => exact ⟨status, w', rfl⟩
    | error e w' =>
        rcases (hspec.of_error hrun).2 with hcut | hnot
        · exact absurd hcalm hcut.1
        · exact absurd hprivate hnot

/-- `status` of a complete storage succeeds and changes nothing. -/
theorem status_returns (hcalm : machine.Calm w.calls) (hnames : RootNames names)
    (htree : PrivateTree w.fs names) :
    ∃ w', (preparedStorage names).status machine w = .ok { root := realPath names } w' ∧
      w'.fs = w.fs := by
  have hprivate := (preparedStorage_private_iff machine hnames htree.isDir).mpr htree
  obtain ⟨status, w', hok⟩ := (status_ok_iff hcalm _).mpr hprivate
  obtain ⟨hunmoved, rfl, -⟩ := (wp_status machine (preparedStorage names)).of_ok hok
  exact ⟨w', hok, hunmoved.fs⟩

/-- `diagnose` of a complete storage succeeds and changes nothing. -/
theorem diagnose_returns (hcalm : machine.Calm w.calls) (hnames : RootNames names)
    (htree : PrivateTree w.fs names) (hfree : ProbeFree machine w names) :
    ∃ w', (preparedStorage names).diagnose machine w = .ok { root := realPath names } w' ∧
      w'.fs = w.fs := by
  have hrun : Wp ((preparedStorage names).diagnose machine)
      (fun status w' => status = { root := realPath names } ∧ w'.fs = w.fs)
      (fun _ _ => False) w := by
    apply (wp_diagnose hnames htree.isDir).mono
    · rintro status w' ⟨-, -, hfs, hstatus, -, -⟩
      exact ⟨hstatus, hfs⟩
    · intro e w' hfail
      rcases hfail.cause with hcut | hnot | ⟨htaken, -⟩
      · exact hcut.1 hcalm
      · exact hnot htree
      · exact htaken hfree
  obtain ⟨status, w', hok, rfl, hfs⟩ := hrun.returns
  exact ⟨w', hok, hfs⟩

/-- `prepare` on a complete storage finds nothing to do. -/
theorem prepare_again (hcalm : machine.Calm w.calls) (hshape : ValidShape requested)
    (htree : PrivateTree w.fs (storageNames machine requested))
    (hfree : ProbeFree machine w (storageNames machine requested)) :
    ∃ w', LocalStorage.prepare machine requested w =
        .ok (preparedStorage (storageNames machine requested)) w' ∧ w'.fs = w.fs := by
  have hright : ∀ fs' p error, Bootstrapped machine (storageNames machine requested) w.fs fs' →
      ¬ WrongDirectory fs' (storageNames machine requested) p error := by
    intro fs' p error hgrown
    rw [hgrown.eq_of_privateTree htree]
    exact htree.not_wrongDirectory
  obtain ⟨w', hok, hgrown⟩ :=
    prepare_returns machine w requested hcalm hshape htree.isDir.unobstructed hfree hright
  exact ⟨w', hok, hgrown.eq_of_privateTree htree⟩

/-! ## §3  The postcondition -/

/-- **Bootstrap postcondition and idempotence.** After an `Ok` of `prepare`,
from any tree and with any calls turned down:
every prefix of the root's names is a real directory, root, `blobs` and `tmp`
have mode `0o700`, every probe file of the run is gone, and only directories
at the missing root names, at `blobs` and at `tmp` are new.

From any world with that tree, whose calls are no longer turned down, `status`,
`diagnose` and a second `prepare` succeed without a change, the last two with a
fresh probe name. In any later tree `status` succeeds exactly if the three paths
still name real directories of mode `0o700`. -/
theorem prepare_postcondition (machine : Machine Uuid) (requested : PathBuf)
    (w w' : World) (storage : LocalStorage)
    (h : LocalStorage.prepare machine requested w = .ok storage w') :
    ∃ names, storage.root.At names ∧ storage.temporary = storage.root.join tmpName ∧
      (∀ front, front <+: names → w'.fs.IsDir front) ∧
      PrivateTree w'.fs names ∧
      (∀ n, w.drawn ≤ n → n < w'.drawn →
        w'.fs.node (names ++ [tmpName] ++ [probeName (machine.random n)]) = none) ∧
      (∀ p, w'.fs.node p = w.fs.node p ∨ w.fs.node p = none ∧ w'.fs.IsDir p ∧
        (p <+: names ∨ p = names ++ [blobsName] ∨ p = names ++ [tmpName])) ∧
      (∀ w₁, w₁.fs = w'.fs → machine.Calm w₁.calls →
        (∃ w₂, storage.status machine w₁ = .ok { root := storage.root } w₂ ∧ w₂.fs = w₁.fs) ∧
        (ProbeFree machine w₁ names →
          (∃ w₂, storage.diagnose machine w₁ = .ok { root := storage.root } w₂ ∧
            w₂.fs = w₁.fs) ∧
          ∃ w₂, LocalStorage.prepare machine requested w₁ = .ok storage w₂ ∧
            w₂.fs = w₁.fs)) ∧
      (∀ w₁, machine.Calm w₁.calls →
        ((∃ status w₂, storage.status machine w₁ = .ok status w₂) ↔
          PrivateAt machine w₁.fs storage.root ∧
          PrivateAt machine w₁.fs (storage.root.join blobsName) ∧
          PrivateAt machine w₁.fs (storage.root.join tmpName))) := by
  obtain ⟨-, hdrawn, hshape, hnames, -, hgrown, rfl, htree, hfree⟩ := (wp_prepare requested).of_ok h
  refine ⟨storageNames machine requested, at_ofComponents hnames.plain, rfl,
    fun front hfront => htree.isDir.above hfront, htree, ?_, ?_, ?_, ?_⟩
  · -- a run draws one name
    intro n hle hlt
    obtain rfl : n = w.drawn := by omega
    exact hgrown.none_of_not_target hfree (not_bootstrapNames_probe _ _)
  · intro p
    cases hnode : w.fs.node p with
    | some node => exact Or.inl (hgrown.kept p node hnode)
    | none =>
        by_cases hp : w'.fs.node p = none
        · exact Or.inl hp
        · obtain ⟨htarget, front, name, rfl, -, hmode⟩ := hgrown.added p hnode hp
          exact Or.inr ⟨rfl, ⟨_, hmode⟩, htarget⟩
  · -- nothing is left to do in the same tree
    intro w₁ hfs hcalm
    have htree₁ : PrivateTree w₁.fs (storageNames machine requested) := hfs ▸ htree
    refine ⟨status_returns hcalm hnames htree₁, fun hfree₁ => ⟨?_, ?_⟩⟩
    · exact diagnose_returns hcalm hnames htree₁ hfree₁
    · exact prepare_again hcalm hshape htree₁ hfree₁
  · intro w₁ hcalm
    exact status_ok_iff hcalm _

/-- An otherwise empty tree. -/
def bareTree (mode : Mode) : FileSystem where
  node names := if names = [] then some (.dir mode) else none
  root_dir := ⟨mode, rfl⟩
  parent_dir := by
    intro front name h
    simp at h

theorem bareTree_node_of_ne_nil (mode : Mode) {p : List Name} (hp : p ≠ []) :
    (bareTree mode).node p = none :=
  if_neg hp

/-- A machine that turns nothing down and gives every directory the requested mode. -/
def plainMachine : Machine Uuid where
  cwd := ⟨⟨['/']⟩, by decide, by decide⟩
  refuses _ _ := none
  random n := ⟨n % 2 ^ 128, Nat.mod_lt _ (Nat.two_pow_pos 128)⟩
  mkdirMode requested _ := requested
  createMode := 0o600

/-- A world in which nothing has happened. -/
def freshWorld (fs : FileSystem) : World := ⟨fs, 0, 0⟩

theorem prepare_bareTree :
    ∃ w', LocalStorage.prepare plainMachine ⟨"/srv/wiki".toList⟩ (freshWorld (bareTree 0o755)) =
      .ok (preparedStorage ["srv".toList, "wiki".toList]) w' := by
  have hempty : ∀ p, p ≠ [] → (bareTree 0o755).node p = none :=
    fun p hp => bareTree_node_of_ne_nil _ hp
  have hnames : storageNames plainMachine ⟨"/srv/wiki".toList⟩ =
      ["srv".toList, "wiki".toList] := by decide
  have hclear : (bareTree 0o755).Unobstructed ([] ++ ["srv".toList, "wiki".toList]) :=
    FileSystem.unobstructed_of_leaves ⟨_, rfl⟩ (hempty _ (by simp)) _
  rw [← hnames]
  have hrun := prepare_returns plainMachine (freshWorld (bareTree 0o755))
    ⟨"/srv/wiki".toList⟩ (fun _ _ _ => rfl) (by decide) (by rw [hnames]; exact hclear)
    (hempty _ (by simp)) (fun fs' p error hgrown => hgrown.not_wrongDirectory
      (fun p hp => Or.inl (hempty p (by
        rw [hnames] at hp
        rcases hp with rfl | rfl | rfl <;> simp)))
      (fun hnone hdir => by
        obtain ⟨-, front, name, -, -, hmode⟩ := hgrown.added _ hnone hdir.ne_none
        exact FileSystem.modeAt_eq hmode) rfl)
  obtain ⟨w', hok, -⟩ := hrun
  exact ⟨w', hok⟩

theorem prepare_postcondition_bareTree :
    ∃ w', PrivateTree w'.fs ["srv".toList, "wiki".toList] ∧
      LocalStorage.prepare plainMachine ⟨"/srv/wiki".toList⟩ (freshWorld (bareTree 0o755)) =
        .ok (preparedStorage ["srv".toList, "wiki".toList]) w' := by
  obtain ⟨w', hok⟩ := prepare_bareTree
  obtain ⟨names, hat, -, -, htree, -⟩ := prepare_postcondition _ _ _ _ _ hok
  have hroot : (preparedStorage ["srv".toList, "wiki".toList]).root.At
      ["srv".toList, "wiki".toList] := by
    show PathBuf.components _ = _
    decide
  exact ⟨w', hat.unique hroot ▸ htree, hok⟩

end WikiNext.Store
