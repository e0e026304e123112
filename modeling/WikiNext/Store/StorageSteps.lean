import WikiNext.Foundation.Interleaving
import WikiNext.Store.Storage

/-!
# The storage functions call by call

The functions of `crates/store/src/storage.rs` again, cut where another process
may come in between: before each system call. A function that makes one call at
most is that call. Alone, each is the program it was.

A session is what one process does with the storage: `serve` and `doctor` both
begin with `LocalStorage::prepare`; then come the checks, `diagnose` with its
write probe for each report of `serve` and one `status` for `doctor`.
-/

namespace WikiNext.Store

open WikiNext.Foundation WikiNext.Core

/-! ## §1  The functions -/

namespace Stepwise

section Program

variable (machine : Machine Uuid)

/-- `Machine.createDirAll` -/
def createDirAll (requested : Mode) : List Component → Steps IoError World Unit
  | [] => pure ()
  | component :: parents => do
      let path := PathBuf.ofComponents (component :: parents).reverse
      if path.parent = none then pure ()
      else
        match ← .call (attempt (machine.mkdir requested path)) with
        | .ok () => pure ()
        | .error .notFound => do
            createDirAll requested parents
            match ← .call (attempt (machine.mkdir requested path)) with
            | .ok () => pure ()
            | .error error => .call (machine.keepDirectory path error)
        | .error error => .call (machine.keepDirectory path error)

/-- `inspectFrom` -/
def inspectFrom (current : PathBuf) : List Component → Steps StorageError World Unit
  | [] => pure ()
  | component :: rest => do
      let current := current.push component.asOsStr
      match ← .call (attempt (machine.symlinkMetadata current)) with
      | .ok metadata => do
          ofExcept (validateMetadata current metadata)
          inspectFrom current rest
      | .error .notFound => pure ()
      | .error source => throw (.inspect current source)

/-- `inspect_existing_ancestors` -/
def inspectExistingAncestors (path : PathBuf) : Steps StorageError World Unit :=
  inspectFrom machine ⟨[]⟩ path.components

/-- `ensure_directory`; its builder is recursive. -/
def ensureDirectory (path : PathBuf) : Steps StorageError World Unit := do
  match ← .call (attempt (machine.symlinkMetadata path)) with
  | .ok metadata => do
      ofExcept (validateMetadata path metadata)
      ofExcept (validateDirectoryPermissions path metadata)
  | .error .notFound => do
      .mapErr (.create path) (createDirAll machine 0o700 path.components.reverse)
      .call (inspectPrivateDirectory machine path)
  | .error source => throw (.inspect path source)

/-- `probe_writable` -/
def probeWritable (directory : PathBuf) : Steps StorageError World Unit := do
  let uuid ← .call machine.draw
  let probe := directory.join (probeName uuid)
  .call (mapErr (.notWritable directory) (machine.createNew probe))
  match ← .call (attempt machine.syncAll) with
  | .error source => do
      let _ ← .call (attempt (machine.removeFile probe))
      throw (.notWritable directory source)
  | .ok () => .call (mapErr (.notWritable directory) (machine.removeFile probe))

/-- `LocalStorage::status` -/
def status (storage : LocalStorage) : Steps StorageError World StorageStatus := do
  .call (inspectPrivateDirectory machine storage.root)
  .call (inspectPrivateDirectory machine (storage.root.join blobsName))
  .call (inspectPrivateDirectory machine storage.temporary)
  pure { root := storage.root }

/-- `LocalStorage::diagnose` -/
def diagnose (storage : LocalStorage) : Steps StorageError World StorageStatus := do
  let status ← status machine storage
  probeWritable machine storage.temporary
  pure status

/-- `LocalStorage::prepare` from the canonical root on. -/
def prepareBelow (canonicalRoot : PathBuf) : Steps StorageError World LocalStorage := do
  let blobs := canonicalRoot.join blobsName
  ensureDirectory machine blobs
  let temporary := canonicalRoot.join tmpName
  ensureDirectory machine temporary
  let storage : LocalStorage := { root := canonicalRoot, temporary := temporary }
  let _ ← diagnose machine storage
  pure storage

/-- `LocalStorage::prepare` -/
def prepare (requestedRoot : PathBuf) : Steps StorageError World LocalStorage := do
  let root ← .call (absoluteStoragePath machine requestedRoot)
  inspectExistingAncestors machine root
  ensureDirectory machine root
  let canonicalRoot ← .call (mapErr (.inspect root) (machine.canonicalize root))
  if canonicalRoot.components ≠ root.components then throw (.symlink requestedRoot)
  else prepareBelow machine canonicalRoot

end Program

/-! ## §2  Alone they are what they were -/

variable (machine : Machine Uuid)

theorem alone_createDirAll (requested : Mode) (components : List Component) :
    (createDirAll machine requested components).alone =
      machine.createDirAll requested components := by
  induction components with
  | nil => rfl
  | cons component parents ih =>
      rw [createDirAll, Machine.createDirAll]
      split
      · rfl
      · rw [Steps.alone_bind, Steps.alone_call]
        congr 1
        funext made
        rcases made with error | _
        swap
        · rfl
        cases error with
        | notFound =>
            simp only [Steps.alone_bind, Steps.alone_call, ih]
            congr 1
            funext _
            congr 1
            funext made
            rcases made with error | _
            · exact Steps.alone_call _
            · rfl
        | _ => exact Steps.alone_call _

theorem alone_inspectFrom (current : PathBuf) (components : List Component) :
    (inspectFrom machine current components).alone =
      Store.inspectFrom machine current components := by
  induction components generalizing current with
  | nil => rfl
  | cons component rest ih =>
      rw [inspectFrom, Store.inspectFrom, Steps.alone_bind, Steps.alone_call]
      congr 1
      funext read
      rcases read with error | metadata
      · cases error <;> rfl
      · simp only [Steps.alone_bind, Steps.alone_ofExcept, ih]

theorem alone_ensureDirectory (path : PathBuf) :
    (ensureDirectory machine path).alone = Store.ensureDirectory machine path := by
  rw [ensureDirectory, Store.ensureDirectory, Steps.alone_bind, Steps.alone_call]
  congr 1
  funext read
  rcases read with error | metadata
  · cases error with
    | notFound =>
        simp only [Steps.alone_bind, Steps.alone_mapErr, alone_createDirAll, Steps.alone_call,
          DirBuilder.create, if_true]
    | _ => rfl
  · simp only [Steps.alone_bind, Steps.alone_ofExcept]

theorem alone_probeWritable (directory : PathBuf) :
    (probeWritable machine directory).alone = Store.probeWritable machine directory := by
  simp only [probeWritable, Store.probeWritable, Steps.alone_bind, Steps.alone_call]
  congr 1
  funext uuid
  congr 1
  funext _
  congr 1
  funext flushed
  rcases flushed with source | _
  · simp only [Steps.alone_bind, Steps.alone_call, Steps.alone_throw]
  · exact Steps.alone_call _

theorem alone_status (storage : LocalStorage) :
    (status machine storage).alone = storage.status machine := by
  simp only [status, LocalStorage.status, Steps.alone_bind, Steps.alone_call, Steps.alone_pure]

theorem alone_diagnose (storage : LocalStorage) :
    (diagnose machine storage).alone = storage.diagnose machine := by
  simp only [diagnose, LocalStorage.diagnose, Steps.alone_bind, Steps.alone_pure, alone_status,
    alone_probeWritable]

/-- **One party alone** runs the bootstrap that the sequential model describes. -/
theorem alone_prepare (requested : PathBuf) :
    (prepare machine requested).alone = LocalStorage.prepare machine requested := by
  simp only [prepare, LocalStorage.prepare, inspectExistingAncestors,
    Store.inspectExistingAncestors, Steps.alone_bind, Steps.alone_call, alone_inspectFrom,
    alone_ensureDirectory]
  congr 1
  funext root
  congr 1
  funext _
  congr 1
  funext _
  congr 1
  funext canonicalRoot
  split
  · rfl
  · simp only [prepareBelow, LocalStorage.prepareBelow, Steps.alone_bind, Steps.alone_pure,
      alone_ensureDirectory, alone_diagnose]

/-! ## §3  Sessions -/

/-- What a process asks of the storage it prepared. -/
inductive Check where
  | status
  | diagnose
deriving DecidableEq

def check (storage : LocalStorage) : Check → Steps StorageError World StorageStatus
  | .status => status machine storage
  | .diagnose => diagnose machine storage

/-- One check after the other; a check that fails is reported and the next one made. -/
def reports (storage : LocalStorage) :
    List Check → Steps StorageError World (List (Except StorageError StorageStatus))
  | [] => pure []
  | first :: checks => do
      let report ← .attempt (check machine storage first)
      let later ← reports storage checks
      pure (report :: later)

/-- What one process does with the storage. -/
def session (requested : PathBuf) (checks : List Check) :
    Steps StorageError World (List (Except StorageError StorageStatus)) := do
  let storage ← prepare machine requested
  reports machine storage checks

theorem alone_check (storage : LocalStorage) (asked : Check) :
    (check machine storage asked).alone =
      match asked with
      | .status => storage.status machine
      | .diagnose => storage.diagnose machine := by
  cases asked with
  | status => exact alone_status machine storage
  | diagnose => exact alone_diagnose machine storage

/-- **A session alone** is the bootstrap and the checks, one after the other. -/
theorem alone_session (requested : PathBuf) (checks : List Check) :
    (session machine requested checks).alone = (do
      let storage ← LocalStorage.prepare machine requested
      checks.mapM fun asked => attempt (check machine storage asked).alone) := by
  rw [session, Steps.alone_bind, alone_prepare]
  congr 1
  funext storage
  induction checks with
  | nil => rfl
  | cons first checks ih =>
      simp only [reports, List.mapM_cons, Steps.alone_bind, Steps.alone_attempt, Steps.alone_pure,
        ih]

end Stepwise

end WikiNext.Store
