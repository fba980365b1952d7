import NastyEngine.Pools.Keys

/-!
An operation finds the pool by its name and then looks again at the devices and mount points it is about
to change, since the list may be old.
-/

namespace NastyEngine.Pools
open Lib Rust Fallible
open Storage (FilesystemError CreateFilesystemRequest)

def umountAt (mountPoint : String) : Fallible String (Faulty Host) Unit :=
  possibly (fun host => host.machine.mountedAt mountPoint) (mountPoint ++ ": not mounted")
    (Host.onMachine (Machine.unmount (·.target = mountPoint)))

def umount (mountPoint : String) : Op Unit := mapError .commandFailed (umountAt mountPoint)

def umountUuid (uuid : String) : Fallible String (Faulty Host) Unit :=
  possibly (fun host => host.machine.isMounted uuid) ("UUID=" ++ uuid ++ ": not mounted")
    (Host.onMachine (Machine.unmount (·.pool = some uuid)))

def Host.newMount (host : Host) (devices : List String) (target : String) : Mount where
  target := target
  source := if host.showsByUuid then ((host.machine.poolOf devices).map (byUuidDir ++ ·)).toList else devices
  pool := host.machine.poolOf devices
  devices := devices

def Host.mountable (host : Host) (devices : List String) : Bool :=
  (host.machine.poolOf devices).any (!host.isLocked ·)

def bcachefsMount (devices : List String) (target : String) : Op Unit :=
  commandIf (fun host => host.mountable devices) "bcachefs mount failed"
    fun host => host.onMachine (Machine.mount (host.newMount devices target))

/-- Every failure is recorded with its reason, which makes the list old. -/
def failMount {α : Type} (e : FilesystemError) : Op α := do
  let _ ← tried id
  invalidateListCache
  check (.error e)

def identityMismatch (name expectedUuid : String) (actualUuid : Option String) : String :=
  "Mount point " ++ mountPointOf name ++ " belongs to " ++
    actualUuid.getD "an unknown or non-bcachefs filesystem" ++ ", but '" ++ name ++ "' is tracked as UUID " ++
    expectedUuid ++ ". NASty refused to use this mount."

section
variable (name uuid : String)

def relist : Op Filesystem := do
  invalidateListCache
  let filesystems ← list
  check (selectFilesystemForMount filesystems name (some uuid))

/-- The kernel may have the key already; a stored key is tried only where the pool cannot be read. -/
def unlockForMount (device : String) : Op Bool := do
  match ← probeNeedsUnlock device with
  | .no | .unknown => return false
  | .yes =>
    match ← readUnlockKey name with
    | some bytes => do
      bcachefsUnlock device bytes
      return true
    | none => do
      let loaded ← isBcachefsKeyLoaded uuid
      check (require (loaded = true) (.commandFailed ("encrypted filesystem '" ++ name ++
        "' is locked — unlock it first, then mount.")))
      return false

def undoMount (actualUuid : Option String) : Op Filesystem := do
  let rollback ← attempt (umountAt (mountPointOf name))
  failMount (.commandFailed (identityMismatch name uuid actualUuid ++ match rollback with
    | .ok _ => ""
    | .error e => " Rollback unmount also failed: " ++ e))

end

def mountDevices (looks : Nat) (name : String) (opts : FsMountOptions) (fs : Filesystem) : Op Filesystem := do
  let unlocked ← unlockForMount name fs.uuid (fs.devices.head?.getD "")
  match ← attempt (bcachefsMount fs.devices (mountPointOf name)) with
  | .error e => failMount e
  | .ok _ => do
    let mountedUuid ← mountedFsUuidAfterMount looks (mountPointOf name)
    if mountedUuid = some fs.uuid then do
      saveFsMountedWithOpts name { opts with
        uuid := some fs.uuid, devices := fs.devices, encrypted := if unlocked then some true else opts.encrypted }
      relist name fs.uuid
    else undoMount name fs.uuid mountedUuid

def mountSelected (looks : Nat) (name : String) (opts : FsMountOptions) (fs : Filesystem) : Op Filesystem := do
  let occupied ← isMountpoint (mountPointOf name)
  if occupied then do
    let actualUuid ← mountedFsUuidAt (mountPointOf name)
    if actualUuid = some fs.uuid then relist name fs.uuid
    else failMount (.commandFailed (identityMismatch name fs.uuid actualUuid))
  else do
    fileSystem fun host => { host with dirs := mountPointOf name :: host.dirs }
    match ← attempt (verifyFilesystemDeviceIdentity fs) with
    | .error e => failMount e
    | .ok _ => mountDevices looks name opts fs

def failSelection (expected : Option String) (e : FilesystemError) : Op Filesystem :=
  match expected with
  | some _ => failMount e
  | none => check (.error e)

def mountWithOpts (looks : Nat) (name : String) (opts : FsMountOptions) : Op Filesystem := do
  let expected := opts.uuid.filter (· ≠ "")
  let filesystems ← list
  match selectFilesystemForMount filesystems name expected with
  | .error e => failSelection expected e
  | .ok fs => if fs.mounted then return fs else mountSelected looks name opts fs

def mountMaybeDegraded (looks : Nat) (name : String) (forceDegraded : Bool) : Op Filesystem := do
  let state ← loadFsState
  let _ ← check ((expectedUuid state name).mapError fun _ => .commandFailed ("filesystem '" ++ name ++
    "' has legacy state without a UUID; refusing a name-only mount"))
  let opts := (state.lookup name).getD {}
  mountWithOpts looks name (if forceDegraded then { opts with degraded := some true } else opts)

def unmountListed (fs : Filesystem) : Op Unit :=
  match fs.mounted, fs.mountPoint with
  | true, some mountPoint => do
    verifyMountpointIdentity mountPoint fs.uuid
    umount mountPoint
  | _, _ => pure ()

def unmount (name : String) : Op Unit := do
  let fs ← get name
  unmountListed fs
  saveFsUnmounted name fs
  invalidateListCache

def unlock (name passphrase : String) : Op Filesystem := do
  let fs ← get name
  let device ← check (okOr fs.devices.head? (.commandFailed "no devices"))
  bcachefsUnlock device passphrase
  invalidateListCache
  get name

def revokeKey (uuid : String) : Op Unit := do
  let loaded ← isBcachefsKeyLoaded uuid
  if loaded then command fun host => { host with keyring := host.keyring.filter (· ≠ uuid) } else pure ()

def unmountIf (mounted : Bool) (name : String) : Op Unit := if mounted then unmount name else pure ()

def lock (name : String) : Op Filesystem := do
  let fs ← get name
  check (requireEncrypted fs name)
  unmountIf fs.mounted name
  revokeKey fs.uuid
  invalidateListCache
  get name

structure UpdateFilesystemOptionsRequest where
  name : String
  compression : Option String := none
  backgroundCompression : Option String := none
  foregroundTarget : Option String := none
  backgroundTarget : Option String := none
  promoteTarget : Option String := none
  metadataTarget : Option String := none
  errorAction : Option String := none
  erasureCode : Option Bool := none
  versionUpgrade : Option String := none
  degraded : Option Bool := none
  verbose : Option Bool := none
  fsck : Option Bool := none
  journalFlushDisabled : Option Bool := none
  journalFlushDelay : Option Nat := none
  dataChecksum : Option String := none
  metadataChecksum : Option String := none
  dataReplicas : Option Nat := none
  metadataReplicas : Option Nat := none
  moveIosInFlight : Option Nat := none
  moveBytesInFlight : Option String := none
  deriving DecidableEq

namespace UpdateFilesystemOptionsRequest

variable (req : UpdateFilesystemOptionsRequest)

def runtimeOptions : List (String × String) :=
  [("compression", req.compression), ("background_compression", req.backgroundCompression),
    ("foreground_target", req.foregroundTarget), ("background_target", req.backgroundTarget),
    ("promote_target", req.promoteTarget), ("metadata_target", req.metadataTarget), ("errors", req.errorAction),
    ("erasure_code", req.erasureCode.map fun on => if on then "1" else "0"), ("data_checksum", req.dataChecksum),
    ("metadata_checksum", req.metadataChecksum), ("data_replicas", req.dataReplicas.map toString),
    ("metadata_replicas", req.metadataReplicas.map toString),
    ("move_ios_in_flight", req.moveIosInFlight.map toString), ("move_bytes_in_flight", req.moveBytesInFlight),
    ("journal_flush_delay", req.journalFlushDelay.map toString)].filterMap fun (name, value) => value.map (name, ·)

def mountChanged (current : FsMountOptions) : Bool :=
  (req.versionUpgrade.isSome && req.versionUpgrade ≠ current.versionUpgrade) ||
    (req.degraded.isSome && req.degraded ≠ current.degraded) ||
    (req.verbose.isSome && req.verbose ≠ current.verbose) || (req.fsck.isSome && req.fsck ≠ current.fsck) ||
    (req.journalFlushDisabled.isSome && req.journalFlushDisabled ≠ current.journalFlushDisabled) ||
    (req.journalFlushDelay.isSome && req.journalFlushDelay ≠ current.journalFlushDelay)

def apply (fs : Filesystem) (opts : FsMountOptions) : FsMountOptions :=
  { opts with
    uuid := some fs.uuid
    devices := fs.devices
    versionUpgrade := req.versionUpgrade.or opts.versionUpgrade
    degraded := req.degraded.or opts.degraded
    verbose := req.verbose.or opts.verbose
    fsck := req.fsck.or opts.fsck
    journalFlushDisabled := req.journalFlushDisabled.or opts.journalFlushDisabled
    journalFlushDelay := req.journalFlushDelay.or opts.journalFlushDelay }

end UpdateFilesystemOptionsRequest

def writeOption (entry : String × String) : Op Unit :=
  mapError (fun e => .commandFailed ("failed to set " ++ entry.1 ++ ": " ++ e)) (external id)

/-- The options are saved before the pool is mounted anew with them. -/
def remount (req : UpdateFilesystemOptionsRequest) (fs : Filesystem) : Op Unit := do
  editFsState fun entries => entries.insert req.name (req.apply fs ((entries.lookup req.name).getD {}))
  let mountPoint ← check (okOr fs.mountPoint (.commandFailed ("filesystem '" ++ req.name ++
    "' has no active mount point to remount")))
  verifyMountpointIdentity mountPoint fs.uuid
  let _ ← loadFsState
  command id

def remountIfChanged (req : UpdateFilesystemOptionsRequest) (fs : Filesystem) : Op Unit := do
  let state ← loadFsState
  if req.mountChanged ((state.lookup req.name).getD {}) then remount req fs else pure ()

def updateOptions (req : UpdateFilesystemOptionsRequest) : Op Filesystem := do
  let fs ← get req.name
  check (require (fs.mounted = true) (.commandFailed "filesystem must be mounted to update options"))
  check ([req.compression, req.backgroundCompression].forM fun spec =>
    spec.elim (.ok ()) fun spec => (Storage.validateCompression spec).mapError .invalidInput)
  req.runtimeOptions.forM writeOption
  remountIfChanged req fs
  invalidateListCache
  get req.name

def verifyIfMounted (mountPoint uuid : String) : Op Unit := do
  let occupied ← isMountpoint mountPoint
  if occupied then verifyMountpointIdentity mountPoint uuid else pure ()

def unmountForDestroy (fs : Filesystem) : Op Unit :=
  match fs.mounted, fs.mountPoint with
  | true, some mountPoint => do
    verifyMountpointIdentity mountPoint fs.uuid
    -- the loop devices over files of the pool are detached
    command id
    umount mountPoint
  | _, _ => pure ()

def wipeDevice (device : String) : Op Unit :=
  mapError (fun e => .commandFailed ("failed to wipe " ++ device ++ ": " ++ e))
    (possibly (fun host => (host.machine.uuidOf device).all (!host.machine.isMounted ·)) "Device or resource busy"
      (Host.onMachine (Machine.wipe device)))

def removeDir (path : String) : Op Bool := tried fun host => { host with dirs := host.dirs.filter (· ≠ path) }

def destroy (name confirmName : String) : Op Unit := do
  check (require (confirmName = name) (.invalidInput "confirmation name does not match filesystem name"))
  let fs ← get name
  verifyFilesystemDeviceIdentity fs
  verifyIfMounted (mountPointOf name) fs.uuid
  unmountForDestroy fs
  let _ ← attempt (umountUuid fs.uuid)
  let still ← isMountpoint (mountPointOf name)
  check (require (still = false) (.commandFailed ("mount point " ++ mountPointOf name ++
    " is still occupied; refusing to remove it")))
  let _ ← removeDir (mountPointOf name)
  fs.devices.forM wipeDevice
  forgetFs name
  let _ ← tried id
  let _ ← tried id
  invalidateListCache

def validateForgetUnavailable (state : FsState) (name expected confirmName : String) : Except FilesystemError Unit := do
  require (confirmName = name) (.invalidInput "confirmation name does not match filesystem name")
  let opts ← okOr (state.lookup name) (.notFound name)
  let persisted ← okOr (opts.uuid.filter (· ≠ "")) (.invalidInput ("filesystem '" ++ name ++
    "' has legacy state without a UUID and cannot be safely forgotten"))
  require (persisted = expected) (.invalidInput ("expected UUID does not match the persisted UUID for filesystem '" ++
    name ++ "'"))

/-- `blkid`, and `lsblk` where that finds nothing; a failure is not an answer. -/
def filesystemUuidIsVisible (uuid : String) : Op Bool := do
  command id
  let visible ← observe fun host : Host => decide (host.machine.membersOf uuid ≠ [])
  if visible then return true
  else do
    command id
    return false

def forgetUnavailable (name expected confirmName : String) : Op Unit := do
  let state ← loadFsStateStrict
  check (validateForgetUnavailable state name expected confirmName)
  let occupied ← isMountpoint (mountPointOf name)
  check (require (occupied = false) (.commandFailed ("mount point " ++ mountPointOf name ++
    " is occupied; refusing to forget the filesystem")))
  let visible ← filesystemUuidIsVisible expected
  check (require (visible = false) (.commandFailed ("filesystem UUID " ++ expected ++
    " is visible or mounted; refusing to forget it")))
  saveFsState (state.erase name)
  invalidateListCache

structure Made where
  devices : List String
  uuid : String
  deriving DecidableEq

def checkTpm (req : CreateFilesystemRequest) : Op Unit :=
  if req.bindToTpm = some true then do
    check (require (req.encryption = some true) (.invalidInput "bind_to_tpm requires encryption=true"))
    check (require (req.storeKey ≠ some false) (.invalidInput "bind_to_tpm requires store_key=true"))
    let available ← tried id
    check (require (available = true) (.invalidInput "bind_to_tpm requested but no TPM2 is available on this host"))
  else pure ()

def checkMountPoint (name : String) : Op Unit := do
  let taken ← observe fun host : Host => decide (mountPointOf name ∈ host.dirs)
  check (require (taken = false) (.alreadyExists name))

def reserveMountPoint (name : String) : Op Unit := do
  fileSystem id
  checkMountPoint name
  fileSystem fun host => { host with dirs := mountPointOf name :: host.dirs }

def orRemove {α : Type} (path : String) (p : Op α) : Op α := do
  match ← attempt p with
  | .ok a => return a
  | .error e => do
    let _ ← removeDir path
    check (.error e)

/-- Before the format, no device may have a signature. -/
def revalidateTargets (devices : List String) : Op Unit := do
  command id
  let blank ← observe fun host : Host => devices.all fun device => (host.machine.members.lookup device).isNone
  check (require (blank = true) (.deviceInUse "a signature appeared before format"))

section
variable (req : CreateFilesystemRequest)

def newSuperblock (made : Made) : Superblock where
  uuid := made.uuid
  passphrase := if req.encryption = some true then req.passphrase.map firstLine else none

/-- The passphrase is given twice, and what is read are the first two lines, which must be the same. -/
def readsTwice (passphrase : String) : Bool :=
  match (passphrase ++ "\n" ++ passphrase ++ "\n").toList.splitOn '\n' with
  | first :: second :: _ => first = second
  | _ => false

def formatDevices (made : Made) : Op Unit :=
  commandIf (fun _ => req.encryption ≠ some true || req.passphrase.all readsTwice) "bcachefs format failed"
    (Host.onMachine (Machine.format made.devices (newSuperblock req made)))

def storeNewKey : Op Unit :=
  if req.encryption = some true ∧ req.storeKey ≠ some false then storeKey req.name (req.passphrase.getD "") else pure ()

def unlockCreated (device : String) : Op Unit :=
  if req.encryption = some true then do
    match ← readUnlockKey req.name with
    | some bytes => bcachefsUnlock device bytes
    | none => req.passphrase.elim (pure ()) (bcachefsUnlock device)
  else pure ()

end

def undoCreated (name uuid : String) : Op Unit := do
  let rollback ← attempt (umountAt (mountPointOf name))
  check (.error (.commandFailed ("mounted filesystem UUID did not match expected UUID " ++ uuid ++ match rollback with
    | .ok _ => ""
    | .error e => "; rollback unmount also failed: " ++ e)))

def mountCreated (looks : Nat) (name : String) (made : Made) (uuid : String) : Op Unit := do
  bcachefsMount made.devices (mountPointOf name)
  let mountedUuid ← mountedFsUuidAfterMount looks (mountPointOf name)
  if mountedUuid = some uuid then pure () else undoCreated name uuid

def createdOptions (req : CreateFilesystemRequest) (made : Made) (uuid : String) : FsMountOptions where
  uuid := some uuid
  devices := made.devices
  encrypted := if req.encryption = some true then some true else none
  versionUpgrade := req.versionUpgrade
  journalFlushDelay := req.journalFlushDelay

def bindCreated (req : CreateFilesystemRequest) : Op Unit :=
  if req.bindToTpm = some true then do
    match ← attempt (tpmBind req.name) with
    | .ok _ => pure ()
    | .error e => check (.error (.commandFailed ("filesystem '" ++ req.name ++ "' created but TPM seal failed: " ++
        display e)))
  else pure ()

def prepareDevices (humanBytes : String → Option Nat) (req : CreateFilesystemRequest) (made : Made) : Op Unit := do
  check (Storage.validateCreateRequest humanBytes req)
  checkTpm req
  checkMountPoint req.name
  -- the devices are looked at and a plan is made
  command id
  let state ← loadFsState
  check (require (req.name ∉ state) (.alreadyExists req.name))
  reserveMountPoint req.name
  orRemove (mountPointOf req.name) (command id)
  orRemove (mountPointOf req.name) (revalidateTargets made.devices)
  orRemove (mountPointOf req.name) (formatDevices req made)

def create (humanBytes : String → Option Nat) (looks : Nat) (req : CreateFilesystemRequest) (made : Made) : Op Filesystem := do
  prepareDevices humanBytes req made
  storeNewKey req
  let uuid ← getFsUuid (made.devices.head?.getD "")
  let uuid ← check (okOr uuid (.commandFailed ("filesystem '" ++ req.name ++
    "' was formatted, but its UUID could not be verified; refusing to mount it")))
  verifyDevicePathsUuid made.devices uuid
  unlockCreated req (made.devices.head?.getD "")
  mountCreated looks req.name made uuid
  saveFsMountedWithOpts req.name (createdOptions req made uuid)
  invalidateListCache
  bindCreated req
  return { name := req.name, uuid := uuid, devices := made.devices, mountPoint := some (mountPointOf req.name)
           mounted := true, encrypted := some (req.encryption = some true) }

inductive Request where
  | create (req : CreateFilesystemRequest) (made : Made)
  | destroy (name confirmName : String)
  | forgetUnavailable (name expectedUuid confirmName : String)
  | mount (name : String) (forceDegraded : Bool)
  | unmount (name : String)
  | unlock (name passphrase : String)
  | lock (name : String)
  | updateOptions (req : UpdateFilesystemOptionsRequest)
  | deleteKey (name : String)
  | tpmBind (name : String)
  | tpmUnbind (name : String)
  deriving DecidableEq

def Request.name : Request → String
  | create req _ => req.name
  | updateOptions req => req.name
  | destroy name _ | forgetUnavailable name _ _ | mount name _ | unmount name | unlock name _ | lock name
  | deleteKey name | tpmBind name | tpmUnbind name => name

section
variable (humanBytes : String → Option Nat) (looks : Nat)

def serve : Request → Op (Option Filesystem)
  | .create req made => some <$> create humanBytes looks req made
  | .destroy name confirmName => do
    destroy name confirmName
    return none
  | .forgetUnavailable name expected confirmName => do
    forgetUnavailable name expected confirmName
    return none
  | .mount name forceDegraded => some <$> mountMaybeDegraded looks name forceDegraded
  | .unmount name => do
    unmount name
    return none
  | .unlock name passphrase => some <$> unlock name passphrase
  | .lock name => some <$> lock name
  | .updateOptions req => some <$> updateOptions req
  | .deleteKey name => do
    deleteKey name
    return none
  | .tpmBind name => do
    tpmBind name
    return none
  | .tpmUnbind name => do
    tpmUnbind name
    return none

end

end NastyEngine.Pools
