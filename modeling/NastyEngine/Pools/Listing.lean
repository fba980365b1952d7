import Mathlib.Data.List.Sort
import NastyEngine.Pools.Host

/-!
Pools are found in `/proc/mounts` and by `blkid`, and get their names from the directory they are mounted
on or from the state file. A list is kept for three seconds. A name with an entry in the state file means
the UUID of the entry; any other name has to be unique in the list.
-/

namespace NastyEngine.Pools
open Lib Rust Fallible
open Storage (FilesystemError)

/-- `blkid`, or `lsblk` where that says nothing. -/
def getFsUuid (device : String) : Op (Option String) := do
  let uuid ← observe fun host : Host => host.machine.uuidOf device
  let blkid ← tried id
  if blkid && uuid.isSome then return uuid
  else do
    let lsblk ← tried id
    return if lsblk then uuid else none

/-- There are no mounts if `/proc/mounts` cannot be read. -/
def readBcachefsMounts : Op (Keyed String (List String)) := do
  let read ← tried id
  observe fun host : Host => if read then host.machine.bcachefsMounts else ∅

/-- `mountinfo`, or the device number of the path where that cannot be read. -/
def isMountpoint (path : String) : Op Bool := do
  let mounted ← observe fun host : Host => host.machine.mountedAt path
  let read ← tried id
  if read && mounted then return true
  else do
    let stat ← tried id
    return stat && mounted

def sourceUuid (devices : List String) : Op (Option String) :=
  match byUuidSource devices, devices with
  | some uuid, _ => return some uuid
  | none, [] => return none
  | none, first :: _ => getFsUuid first

def mountedFsUuidAt (mountPoint : String) : Op (Option String) := do
  let mounts ← readBcachefsMounts
  sourceUuid ((mounts.lookup mountPoint).getD [])

/-- The UUID may take a while to be known after a mount; there is time for so many more looks. -/
def mountedFsUuidAfterMount : Nat → String → Op (Option String)
  | 0, mountPoint => mountedFsUuidAt mountPoint
  | looks + 1, mountPoint => do
    match ← mountedFsUuidAt mountPoint with
    | some uuid => return some uuid
    | none => mountedFsUuidAfterMount looks mountPoint

def verifyMountpointIdentity (mountPoint expectedUuid : String) : Op Unit := do
  let actualUuid ← mountedFsUuidAt mountPoint
  check (require (actualUuid = some expectedUuid) (.commandFailed ("mount point " ++ mountPoint ++
    " does not contain expected filesystem UUID " ++ expectedUuid ++ "; refusing the operation")))

def verifyDevicePath (expectedUuid path : String) : Op Unit := do
  let actualUuid ← getFsUuid path
  check (require (actualUuid = some expectedUuid) (.commandFailed ("device " ++ path ++
    " no longer belongs to filesystem UUID " ++ expectedUuid ++ "; refusing the operation")))

def verifyDevicePathsUuid (paths : List String) (expectedUuid : String) : Op Unit :=
  paths.forM (verifyDevicePath expectedUuid)

def verifyFilesystemDeviceIdentity (fs : Filesystem) : Op Unit := verifyDevicePathsUuid fs.devices fs.uuid

def findFsNameByUuid (state : FsState) (uuid : String) : Option String :=
  (state.pairs.find? (·.2.uuid = some uuid)).map (·.1)

def filesystemNameForUuid (state : FsState) (uuid : String) : String :=
  (findFsNameByUuid state uuid).getD (String.ofList (uuid.toList.take 8))

def mountedFilesystemName (state : FsState) (mountName uuid : String) : String :=
  match ((state.lookup mountName).bind (·.uuid)).filter (· ≠ uuid) with
  | some _ => filesystemNameForUuid state uuid
  | none => mountName

def fileName (path : String) : String := String.ofList ((path.toList.splitOn '/').getLast?.getD [])

def isNasty (mountPoint : String) : Bool := startsWith mountPoint (nastyMountBase ++ "/")

def addPrimary (primary : Keyed String String) (found : String × String) : Keyed String String :=
  if found.1 = "" then primary
  else match primary.lookup found.1 with
    | none => primary.insert found.1 found.2
    | some existing =>
      if isNasty found.2 && !isNasty existing then primary.insert found.1 found.2 else primary

def identifyMount (mount : String × List String) : Op (String × String) := do
  let uuid ← getFsUuid (mount.2.head?.getD "")
  return (uuid.getD "", mount.1)

def Host.isEncrypted (host : Host) (uuid : String) : Bool :=
  ((host.machine.membersOf uuid).head?.bind host.machine.members.lookup).any (·.passphrase.isSome)

def Host.isLocked (host : Host) (uuid : String) : Bool := host.isEncrypted uuid && uuid ∉ host.keyring

def listMounted (state : FsState) (mounts : Keyed String (List String)) (entry : String × String) : Op Filesystem := do
  let read ← tried id
  let encrypted ← observe fun host : Host => host.isEncrypted entry.1
  return { name := mountedFilesystemName state (fileName entry.2) entry.1, uuid := entry.1
           devices := (mounts.lookup entry.2).getD [], mountPoint := some entry.2, mounted := true
           encrypted := if read then some encrypted else none }

def Machine.unmounted (machine : Machine) (seen : List String) : List String :=
  ((machine.members.pairs.map (·.2.uuid)).filter fun uuid => uuid ≠ "" && uuid ∉ seen).eraseDups

def discoverUnmounted (seen : List String) : Op (List String) := do
  let blkid ← tried id
  observe fun host : Host => if blkid then host.machine.unmounted seen else []

def listUnmounted (state : FsState) (uuid : String) : Op Filesystem := do
  let read ← tried id
  observe fun host : Host =>
    let mountPoint := mountPointOf (filesystemNameForUuid state uuid)
    { name := filesystemNameForUuid state uuid, uuid := uuid, devices := host.machine.membersOf uuid
      mountPoint := if mountPoint ∈ host.dirs then some mountPoint else none, mounted := false
      encrypted := if read && !host.isLocked uuid then some (host.isEncrypted uuid) else none }

/-- The entry of the pool says that it is encrypted where the pool itself does not. -/
def overlay (state : FsState) (fs : Filesystem) : Filesystem :=
  match state.lookup fs.name with
  | some opts =>
    if opts.uuid = some fs.uuid ∧ fs.uuid ≠ "" ∧ opts.encrypted = some true ∧ fs.encrypted = none then
      { fs with encrypted := some true }
    else fs
  | none => fs

def listUncached : Op (List Filesystem) := do
  let mounts ← readBcachefsMounts
  let state ← loadFsState
  let identified ← mounts.pairs.mapM' identifyMount
  let primary := identified.foldl addPrimary ∅
  let mounted ← primary.pairs.mapM' (listMounted state mounts)
  let others ← discoverUnmounted primary.keys
  let unmounted ← others.mapM' (listUnmounted state)
  return ((mounted ++ unmounted).map (overlay state)).insertionSort fun a b => a.name ≤ b.name

def refreshList : Op (List Filesystem) := do
  let listed ← listUncached
  assign fun host : Host => { host with listCache := some listed }
  return listed

/-- The script also says whether the list is still young enough. -/
def list : Op (List Filesystem) := do
  let cached ← observe fun host : Host => host.listCache
  let young ← tried id
  match cached with
  | some listed => if young then return listed else refreshList
  | none => refreshList

def selectFilesystemByName (filesystems : List Filesystem) (name : String) : Except FilesystemError Filesystem :=
  match filesystems.filter (·.name = name) with
  | [] => .error (.notFound name)
  | [fs] => .ok fs
  | _ => .error (.invalidInput ("filesystem name '" ++ name ++ "' is ambiguous; identify the filesystem by UUID"))

def selectFilesystemForMount (filesystems : List Filesystem) (name : String) :
    Option String → Except FilesystemError Filesystem
  | some expectedUuid => okOr (filesystems.find? (·.uuid = expectedUuid)) (.commandFailed ("filesystem '" ++ name ++
      "' with expected UUID " ++ expectedUuid ++ " is not available; refusing to mount a different filesystem"))
  | none => selectFilesystemByName filesystems name

def expectedUuid (state : FsState) (name : String) : Except FilesystemError (Option String) :=
  match state.lookup name with
  | some opts => (okOr (opts.uuid.filter (· ≠ "")) (.commandFailed ("filesystem '" ++ name ++
      "' has legacy state without a UUID; refusing a name-only operation"))).map some
  | none => .ok none

def get (name : String) : Op Filesystem := do
  let state ← loadFsState
  let expected ← check (expectedUuid state name)
  let filesystems ← list
  check (selectFilesystemForMount filesystems name expected)

end NastyEngine.Pools
