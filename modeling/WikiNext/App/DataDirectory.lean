import WikiNext.App.ConfigLoaders
import WikiNext.Store.StorageBootstrap
import WikiNext.Store.StorageFrame

/-!
# One rule for the data directory

`Config::validate` and `absolute_storage_path` decide separately which paths
may hold the storage. §1 runs the path program to its end, §2 shows what it
returns, §3 compares the two checks.
-/

namespace WikiNext.App

open WikiNext.Foundation WikiNext.Core WikiNext.Store

variable {machine : Machine Uuid} {path : PathBuf} {w w' : World}

/-! ## §1  The run of the path program -/

/-- The components that are pushed. -/
def pushedParts (path : PathBuf) : List Component := path.components.filter (· ≠ .curDir)

theorem pushComponents_run {requested : PathBuf} {parts : List Component}
    (hclean : .parentDir ∉ parts) : ∀ (absolute : PathBuf) (w : World),
      pushComponents requested parts absolute w =
        .ok ((parts.filter (· ≠ .curDir)).foldl (fun path c => path.push c.asOsStr) absolute)
          w := by
  induction parts with
  | nil => exact fun _ _ => rfl
  | cons c parts ih =>
      intro absolute w
      rw [List.mem_cons, not_or] at hclean
      cases c with
      | curDir => exact ih hclean.2 absolute w
      | parentDir => exact absurd rfl hclean.1
      | rootDir => exact ih hclean.2 _ w
      | normal name => exact ih hclean.2 _ w

/-- What the components are pushed on, and the call this takes. -/
theorem pushBase_ok_iff {base : PathBuf} :
    pushBase machine path w = .ok base w' ↔
      (path.isAbsolute = true ∧ base = ⟨[]⟩ ∧ w' = w) ∨
      (path.isAbsolute = false ∧ machine.refuses w.calls .currentDir = none ∧
        base = machine.cwd.path ∧ w' = w.tick) := by
  unfold pushBase
  cases habs : path.isAbsolute with
  | true =>
      rw [if_pos rfl, pure_run_ok_iff]
      simp
  | false =>
      rw [if_neg (by simp)]
      simp only [mapErr, Machine.currentDir, Machine.query, Machine.call]
      cases hcall : machine.refuses w.calls .currentDir with
      | some refusal => simp
      | none => simp [Except.map, eq_comm]

/-- The accepted path. -/
def pushedPath (path base : PathBuf) : PathBuf :=
  (pushedParts path).foldl (fun path c => path.push c.asOsStr) base

theorem pushedPath_at (hclean : .parentDir ∉ path.components) {base : PathBuf}
    (hbase : pushBase machine path w = .ok base w') :
    (pushedPath path base).At (storageNames machine path) := by
  have hstart : if path.isAbsolute then base = ⟨[]⟩ else base.At machine.cwd.path.names := by
    rcases pushBase_ok_iff.mp hbase with ⟨habs, rfl, -⟩ | ⟨habs, -, rfl, -⟩
    · rw [if_pos habs]
    · rw [if_neg (by simp [habs])]
      exact machine.cwd.at_names
  have hspec := wp_pushComponents_path machine (w := w') (E := fun _ _ => True) hclean hstart
  exact (hspec.of_ok (pushComponents_run hclean base w')).2

theorem storageNames_ne_nil (machine : Machine Uuid) (hshape : ValidShape path) :
    storageNames machine path ≠ [] := by
  simp [storageNames, hshape.2.2]

/-- The path is not `/` and not empty, so the last guard lets it through. -/
theorem pushedPath_parent (hshape : ValidShape path) {base : PathBuf}
    (hbase : pushBase machine path w = .ok base w') : (pushedPath path base).parent ≠ none := by
  have hat := pushedPath_at hshape.2.1 hbase
  rw [← List.dropLast_append_getLast (storageNames_ne_nil machine hshape)] at hat
  obtain ⟨parent, hparent, -⟩ := hat.parent
  simp [hparent]

/-- **The run.** A path of valid shape is taken apart and pushed together. -/
theorem absoluteStoragePath_run (hshape : ValidShape path) {base : PathBuf}
    (hbase : pushBase machine path w = .ok base w') :
    absoluteStoragePath machine path w = .ok (pushedPath path base) w' := by
  unfold absoluteStoragePath
  rw [if_neg (fun h => (rejected_iff path).mp h hshape), bind_run_ok_iff]
  refine ⟨base, w', hbase, bind_run_ok_iff.mpr ⟨pushedPath path base, w', ?_, ?_⟩⟩
  · exact pushComponents_run hshape.2.1 base w'
  · rw [if_neg (pushedPath_parent hshape hbase)]
    rfl

/-- Every accepted path comes from such a run. -/
theorem absoluteStoragePath_ok {root : PathBuf}
    (h : absoluteStoragePath machine path w = .ok root w') :
    ValidShape path ∧
      ∃ base, pushBase machine path w = .ok base w' ∧ root = pushedPath path base := by
  have hshape := ((wp_absoluteStoragePath path).of_ok h).2.1
  refine ⟨hshape, ?_⟩
  have hrun := h
  unfold absoluteStoragePath at hrun
  rw [if_neg (fun h => (rejected_iff path).mp h hshape), bind_run_ok_iff] at hrun
  obtain ⟨base, w₁, hbase, -⟩ := hrun
  have hexact := absoluteStoragePath_run hshape hbase
  rw [h] at hexact
  cases hexact
  exact ⟨base, hbase, rfl⟩

/-! ## §2  The accepted path -/

/-- An accepted path is again of valid shape, and absolute. -/
theorem validShape_of_at {root : PathBuf} {names : List Name} (h : root.At names)
    (hne : names ≠ []) : ValidShape root := by
  refine ⟨?_, ?_, by rwa [h.names_eq]⟩
  · intro htext
    have habs := h.isAbsolute
    simp [PathBuf.isAbsolute, htext] at habs
  · rw [h]
    simp

/-- The parts pushed for an absolute path without dots. -/
theorem pushedPath_of_at {root : PathBuf} {names : List Name} (h : root.At names) :
    pushedPath root ⟨[]⟩ = realPath names := by
  have hparts : pushedParts root = .rootDir :: names.map .normal := by
    rw [pushedParts, h, List.filter_eq_self]
    simp
  rw [pushedPath, hparts]
  rfl

/-- Under a working directory that is written without superfluous separators,
so is the accepted path. -/
theorem pushedPath_eq_realPath (hshape : ValidShape path) {base : PathBuf}
    (hbase : pushBase machine path w = .ok base w')
    (hcwd : path.isAbsolute = true ∨ machine.cwd.path = realPath machine.cwd.path.names) :
    pushedPath path base = realPath (storageNames machine path) := by
  rcases pushBase_ok_iff.mp hbase with ⟨habs, rfl, -⟩ | ⟨habs, -, rfl, -⟩
  · have hat := at_names_of_absolute habs hshape.2.1
    rw [pushedPath_of_at hat, storageNames, if_pos habs, List.nil_append]
  · have hparts : pushedParts path = path.names.map .normal := by
      rw [pushedParts, PathBuf.names, ← filter_isNormal]
      refine List.filter_congr fun c hc => ?_
      cases c with
      | normal name => rfl
      | curDir => rfl
      | parentDir => exact absurd hc hshape.2.1
      | rootDir =>
          rw [rootDir_mem_components_iff] at hc
          simp [hc] at habs
    have hwritten := hcwd.resolve_left (by simp [habs])
    rw [pushedPath, hparts, storageNames, if_neg (by simp [habs])]
    generalize machine.cwd.path.names = names at hwritten ⊢
    rw [hwritten, realPath, realPath, PathBuf.ofComponents, PathBuf.ofComponents, List.map_append,
      ← List.cons_append, List.foldl_append]

/-! ## §3  The two checks -/

theorem validateDataDir_iff_shape (path : PathBuf) :
    validateDataDir path = .ok () ↔ ValidShape path :=
  validateDataDir_ok_iff path

/-- **One rule for the data directory.** Where the working directory can be
read, `Config::validate` accepts a path exactly if `absolute_storage_path`
does; then `prepare` never fails with `UnsafePath` and the last guard never
fires. The accepted path is absolute, free of dots, made of the components of
`/` or of the working directory and then of the path's own names, and a fixed
point: taking it apart again gives an equal path, letter by letter unless the
working directory is written with superfluous separators. -/
theorem dataDir_checks_agree (machine : Machine Uuid) (path : PathBuf) (w : World)
    (hcwd : path.isAbsolute = true ∨ machine.refuses w.calls .currentDir = none) :
    (validateDataDir path = .ok () ↔
      ∃ root w', absoluteStoragePath machine path w = .ok root w') ∧
    (validateDataDir path = .ok () →
      (∀ w₁ e w₂, LocalStorage.prepare machine path w₁ = .error e w₂ →
        ∀ p, e ≠ .unsafePath p) ∧
      ∀ base w₁ absolute w₂, pushBase machine path w = .ok base w₁ →
        pushComponents path path.components base w₁ = .ok absolute w₂ → absolute.parent ≠ none) ∧
    ∀ root w', absoluteStoragePath machine path w = .ok root w' →
      root.isAbsolute = true ∧
      (∀ c ∈ root.components, c ≠ .curDir ∧ c ≠ .parentDir) ∧
      root.components = (if path.isAbsolute then [.rootDir] else machine.cwd.path.components) ++
        path.components.filter Component.isNormal ∧
      ∀ w₁, ∃ root', absoluteStoragePath machine root w₁ = .ok root' w₁ ∧
        root'.components = root.components ∧
        (path.isAbsolute = true ∨ machine.cwd.path = realPath machine.cwd.path.names →
          root' = root) := by
  rw [validateDataDir_iff_shape]
  refine ⟨⟨fun hshape => ?_, ?_⟩, fun hshape => ⟨?_, ?_⟩, ?_⟩
  · have hbase : ∃ base w', pushBase machine path w = .ok base w' := by
      cases habs : path.isAbsolute with
      | true => exact ⟨⟨[]⟩, w, pushBase_ok_iff.mpr (Or.inl ⟨habs, rfl, rfl⟩)⟩
      | false =>
          have hread := hcwd.resolve_left (by simp [habs])
          exact ⟨_, _, pushBase_ok_iff.mpr (Or.inr ⟨habs, hread, rfl, rfl⟩)⟩
    obtain ⟨base, w', hbase⟩ := hbase
    exact ⟨_, w', absoluteStoragePath_run hshape hbase⟩
  · rintro ⟨root, w', h⟩
    exact (absoluteStoragePath_ok h).1
  · rintro w₁ e w₂ hprepare p rfl
    exact ((wp_prepare path).of_error hprepare).unsafePath.1 hshape
  · intro base w₁ absolute w₂ hbase hpush
    rw [pushComponents_run hshape.2.1] at hpush
    cases hpush
    exact pushedPath_parent hshape hbase
  · intro root w' h
    obtain ⟨hshape, base, hbase, rfl⟩ := absoluteStoragePath_ok h
    have hat := pushedPath_at hshape.2.1 hbase
    refine ⟨hat.isAbsolute, ?_, ?_, fun w₁ => ?_⟩
    · rw [hat]
      simp
    · have hcwd : machine.cwd.path.components = .rootDir :: machine.cwd.path.names.map .normal :=
        machine.cwd.at_names
      have hnames : path.components.filter Component.isNormal = path.names.map .normal :=
        filter_isNormal _
      rw [hat, hnames, hcwd, storageNames]
      split_ifs <;> simp
    · -- the accepted path is absolute, so it is read without a call
      have hroot := validShape_of_at hat (storageNames_ne_nil machine hshape)
      have hbase₁ : pushBase machine (pushedPath path base) w₁ = .ok ⟨[]⟩ w₁ :=
        pushBase_ok_iff.mpr (Or.inl ⟨hat.isAbsolute, rfl, rfl⟩)
      have hagain := absoluteStoragePath_run hroot hbase₁
      rw [pushedPath_of_at hat] at hagain
      refine ⟨_, hagain, ?_, fun hwritten => ?_⟩
      · rw [hat]
        exact at_ofComponents fun _ => hat.plainName
      · exact (pushedPath_eq_realPath hshape hbase hwritten).symm

/-- A relative path with every kind of superfluous piece. -/
theorem dataDir_checks_agree_relative :
    validateDataDir ⟨"./data//wiki/./".toList⟩ = .ok () ∧
    ∃ root w', absoluteStoragePath plainMachine ⟨"./data//wiki/./".toList⟩
        (freshWorld (bareTree 0o755)) = .ok root w' ∧
      root.components = [.rootDir, .normal "data".toList, .normal "wiki".toList] := by
  have hvalid : validateDataDir ⟨"./data//wiki/./".toList⟩ = .ok () := by decide
  obtain ⟨hiff, -, hform⟩ := dataDir_checks_agree plainMachine ⟨"./data//wiki/./".toList⟩
    (freshWorld (bareTree 0o755)) (Or.inr rfl)
  obtain ⟨root, w', hrun⟩ := hiff.mp hvalid
  exact ⟨hvalid, root, w', hrun, (hform root w' hrun).2.2.1.trans (by decide)⟩

end WikiNext.App
