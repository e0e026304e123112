import WikiNext.Core.Id
import WikiNext.Foundation.FileCalls

/-!
# Local storage

`crates/store/src/storage.rs` on Unix: the directory checks, the bootstrap of
the data directory and the write probe, as programs on a `World`. The random
source of the machine yields the UUIDs of the probe files.
-/

namespace WikiNext.Store

open WikiNext.Foundation WikiNext.Core

structure StorageStatus where
  root : PathBuf
deriving DecidableEq, Repr

inductive StorageError where
  | create (path : PathBuf) (source : IoError)
  | inspect (path : PathBuf) (source : IoError)
  | symlink (path : PathBuf)
  | notDirectory (path : PathBuf)
  | unsafePath (path : PathBuf)
  | unsafePermissions (path : PathBuf) (actual : BitVec 32)
  | notWritable (path : PathBuf) (source : IoError)
deriving DecidableEq, Repr

namespace StorageError

/-- The `Display` text. -/
def message : StorageError → String
  | .create path _ => "не удалось создать каталог " ++ String.ofList path.text
  | .inspect path _ => "не удалось проверить каталог " ++ String.ofList path.text
  | .symlink path => "путь " ++ String.ofList path.text ++ " является символической ссылкой"
  | .notDirectory path => "путь " ++ String.ofList path.text ++ " не является каталогом"
  | .unsafePath path => "небезопасный путь локального хранилища " ++ String.ofList path.text
  | .unsafePermissions path actual =>
      "каталог " ++ String.ofList path.text ++ " имеет небезопасные права 0o" ++
        String.ofList (Nat.toDigits 8 actual.toNat) ++
        "; ожидается отдельный приватный каталог с правами 0o700"
  | .notWritable path _ => "каталог " ++ String.ofList path.text ++ " недоступен для записи"

/-- The `#[source]` field. -/
def source : StorageError → Option IoError
  | .create _ source | .inspect _ source | .notWritable _ source => some source
  | _ => none

end StorageError

structure LocalStorage where
  root : PathBuf
  temporary : PathBuf
deriving DecidableEq, Repr

/-! ## §1  The requested path -/

/-- The component loop at the end of `absolute_storage_path`. -/
def pushComponents (requested : PathBuf) :
    List Component → PathBuf → EStateM StorageError World PathBuf
  | [], absolute => pure absolute
  | .curDir :: rest, absolute => pushComponents requested rest absolute
  | .parentDir :: _, _ => throw (.unsafePath requested)
  | component :: rest, absolute =>
      pushComponents requested rest (absolute.push component.asOsStr)

/-- A path the storage accepts: not empty, no `..`, and at least one name. -/
def ValidShape (path : PathBuf) : Prop :=
  path.text ≠ [] ∧ .parentDir ∉ path.components ∧ path.names ≠ []

instance (path : PathBuf) : Decidable (ValidShape path) := inferInstanceAs (Decidable (_ ∧ _))

section Program

variable (machine : Machine Uuid)

/-- What the components of `path` are pushed on: nothing, or the working directory. -/
def pushBase (path : PathBuf) : EStateM StorageError World PathBuf :=
  if path.isAbsolute then pure ⟨[]⟩ else mapErr (.inspect path) machine.currentDir

/-- `absolute_storage_path` -/
def absoluteStoragePath (path : PathBuf) : EStateM StorageError World PathBuf :=
  if path.text = [] ∨ path.components.any (· == .parentDir) ∨
      ¬ path.components.any Component.isNormal then
    throw (.unsafePath path)
  else do
    let absolute ← pushBase machine path
    let absolute ← pushComponents path path.components absolute
    if absolute.parent = none then throw (.unsafePath path) else pure absolute

/-! ## §2  Checks -/

/-- `validate_metadata` -/
def validateMetadata (path : PathBuf) (metadata : Metadata) : Except StorageError Unit :=
  if metadata.is_symlink then .error (.symlink path)
  else if !metadata.is_dir then .error (.notDirectory path)
  else .ok ()

/-- `validate_directory_permissions` -/
def validateDirectoryPermissions (path : PathBuf) (metadata : Metadata) :
    Except StorageError Unit :=
  let actual := metadata.mode &&& 0o7777#32
  if actual ≠ 0o700#32 then .error (.unsafePermissions path actual) else .ok ()

/-- The loop of `inspect_existing_ancestors`, from the prefix read so far. -/
def inspectFrom (current : PathBuf) : List Component → EStateM StorageError World Unit
  | [] => pure ()
  | component :: rest => do
      let current := current.push component.asOsStr
      match ← attempt (machine.symlinkMetadata current) with
      | .ok metadata => do
          ofExcept (validateMetadata current metadata)
          inspectFrom current rest
      | .error .notFound => pure ()
      | .error source => throw (.inspect current source)

/-- `inspect_existing_ancestors` -/
def inspectExistingAncestors (path : PathBuf) : EStateM StorageError World Unit :=
  inspectFrom machine ⟨[]⟩ path.components

/-- `inspect_private_directory` -/
def inspectPrivateDirectory (path : PathBuf) : EStateM StorageError World Unit := do
  let metadata ← mapErr (.inspect path) (machine.symlinkMetadata path)
  ofExcept (validateMetadata path metadata)
  ofExcept (validateDirectoryPermissions path metadata)

/-- `ensure_directory` -/
def ensureDirectory (path : PathBuf) : EStateM StorageError World Unit := do
  match ← attempt (machine.symlinkMetadata path) with
  | .ok metadata => do
      ofExcept (validateMetadata path metadata)
      ofExcept (validateDirectoryPermissions path metadata)
  | .error .notFound => do
      let builder : DirBuilder := ⟨true, 0o700⟩
      mapErr (.create path) (builder.create machine path)
      inspectPrivateDirectory machine path
  | .error source => throw (.inspect path source)

/-! ## §3  The write probe -/

/-- The hyphenated lower-case form of a UUID. -/
def hyphenated (uuid : Uuid) : List Char :=
  (List.range 32).flatMap fun i =>
    (if i ∈ [8, 12, 16, 20] then ['-'] else []) ++
      [Nat.digitChar (uuid.val / 16 ^ (31 - i) % 16)]

def probeName (uuid : Uuid) : Name := ".wikinext-probe-".toList ++ hyphenated uuid

/-- `probe_writable` -/
def probeWritable (directory : PathBuf) : EStateM StorageError World Unit := do
  let uuid ← machine.draw
  let probe := directory.join (probeName uuid)
  mapErr (.notWritable directory) (machine.createNew probe)
  match ← attempt machine.syncAll with
  | .error source => do
      let _ ← attempt (machine.removeFile probe)
      throw (.notWritable directory source)
  | .ok () => mapErr (.notWritable directory) (machine.removeFile probe)

/-! ## §4  `LocalStorage` -/

def blobsName : Name := "blobs".toList
def tmpName : Name := "tmp".toList

namespace LocalStorage

/-- `LocalStorage::status` -/
def status (storage : LocalStorage) : EStateM StorageError World StorageStatus := do
  inspectPrivateDirectory machine storage.root
  inspectPrivateDirectory machine (storage.root.join blobsName)
  inspectPrivateDirectory machine storage.temporary
  pure { root := storage.root }

/-- `LocalStorage::diagnose` -/
def diagnose (storage : LocalStorage) : EStateM StorageError World StorageStatus := do
  let status ← storage.status machine
  probeWritable machine storage.temporary
  pure status

/-- `LocalStorage::prepare` from the canonical root on. -/
def prepareBelow (canonicalRoot : PathBuf) : EStateM StorageError World LocalStorage := do
  let blobs := canonicalRoot.join blobsName
  ensureDirectory machine blobs
  let temporary := canonicalRoot.join tmpName
  ensureDirectory machine temporary
  let storage : LocalStorage := { root := canonicalRoot, temporary := temporary }
  let _ ← storage.diagnose machine
  pure storage

/-- `LocalStorage::prepare` -/
def prepare (requestedRoot : PathBuf) : EStateM StorageError World LocalStorage := do
  let root ← absoluteStoragePath machine requestedRoot
  inspectExistingAncestors machine root
  ensureDirectory machine root
  let canonicalRoot ← mapErr (.inspect root) (machine.canonicalize root)
  -- paths are compared by components
  if canonicalRoot.components ≠ root.components then throw (.symlink requestedRoot)
  else prepareBelow machine canonicalRoot

end LocalStorage

end Program

/-! ## §5  What the checks accept -/

/-- The names of the storage root: those of the working directory if the
requested path is relative, then its own. -/
def storageNames (machine : Machine Uuid) (requested : PathBuf) : List Name :=
  (if requested.isAbsolute then [] else machine.cwd.path.names) ++ requested.names

/-- At `path` stands a real directory of mode exactly `0o700`. -/
def PrivateAt (machine : Machine Uuid) (fs : FileSystem) (path : PathBuf) : Prop :=
  fs.nodeAt false machine.cwd.path.names path = .ok (.dir 0o700)

/-- What the directory checks say about a node that is not a private directory. -/
def Defect (found : Except IoError Node) (path : PathBuf) (error : StorageError) : Prop :=
  match found with
  | .error source => error = .inspect path source
  | .ok (.symlink _) => error = .symlink path
  | .ok (.file ..) => error = .notDirectory path
  | .ok (.dir mode) => mode ≠ 0o700 ∧ error = .unsafePermissions path (mode.setWidth 32)

theorem Defect.ne_private {path : PathBuf} {error : StorageError}
    (h : Defect (.ok (.dir 0o700)) path error) : False :=
  h.1 rfl

@[simp] theorem validateMetadata_node (path : PathBuf) (node : Node) :
    validateMetadata path node.metadata =
      match node with
      | .symlink _ => .error (.symlink path)
      | .file .. => .error (.notDirectory path)
      | .dir _ => .ok () := by
  cases node <;> rfl

@[simp] theorem validateDirectoryPermissions_dir (path : PathBuf) (mode : Mode) :
    validateDirectoryPermissions path (Node.dir mode).metadata =
      if mode ≠ 0o700 then .error (.unsafePermissions path (mode.setWidth 32)) else .ok () := by
  have hexact : mode.setWidth 32 ≠ 0o700#32 ↔ mode ≠ 0o700 :=
    not_congr ⟨fun h => setWidth_mode_inj (h.trans (by decide)), fun h => h ▸ (by decide)⟩
  simp only [validateDirectoryPermissions, dir_mode_masked, hexact]

/-- Both checks on the metadata of one node. -/
theorem wp_checkPrivate {path : PathBuf} {node : Node} {w : World}
    {Q : Unit → World → Prop} {E : StorageError → World → Prop}
    (hok : node = .dir 0o700 → Q () w) (herror : ∀ e, Defect (.ok node) path e → E e w) :
    Wp (ofExcept (validateMetadata path node.metadata))
      (fun _ => Wp (ofExcept (validateDirectoryPermissions path node.metadata)) Q E) E w := by
  apply wp_ofExcept
  · rintro ⟨⟩ hmetadata
    rw [validateMetadata_node] at hmetadata
    cases node with
    | symlink target => cases hmetadata
    | file mode content => cases hmetadata
    | dir mode =>
        -- the kind is right, now the mode
        apply wp_ofExcept
        · rintro ⟨⟩ hpermissions
          rw [validateDirectoryPermissions_dir] at hpermissions
          split at hpermissions
          · cases hpermissions
          · rename_i hmode
            exact hok (by rw [not_not.mp hmode])
        · intro e hpermissions
          rw [validateDirectoryPermissions_dir] at hpermissions
          split at hpermissions
          · rename_i hmode
            cases hpermissions
            exact herror _ ⟨hmode, rfl⟩
          · cases hpermissions
  · intro e hmetadata
    rw [validateMetadata_node] at hmetadata
    cases node with
    | symlink target =>
        cases hmetadata
        exact herror _ rfl
    | file mode content =>
        cases hmetadata
        exact herror _ rfl
    | dir mode => cases hmetadata

end WikiNext.Store
