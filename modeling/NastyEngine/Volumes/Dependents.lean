import Mathlib.Data.List.Sort
import NastyEngine.Volumes.Operations

/-!
Before a subvolume is deleted, and before a pool is destroyed, the services are asked whether they use
it. The same question for all subvolumes at once fills a column in the web interface.
-/

namespace NastyEngine.Volumes
open Lib Rust Fallible

variable {α : Type}

def readableItems (stored : List (Stored α)) : List α := (stored.filter (·.readable)).map (·.item)

def loadAll (items : Services → List (Stored α)) : Op (List α) :=
  observe fun host : Host => readableItems (items host.services)

def allReadable (stored : List (Stored α)) : Except String (List α) :=
  if stored.all (·.readable) then .ok (stored.map (·.item)) else .error "parse"

def loadAllStrict (items : Services → List (Stored α)) : Op (Except String (List α)) := do
  let stored ← observe fun host : Host => items host.services
  let answer ← attempt (external id)
  return answer.bind fun _ => allReadable stored

def orElse (first second : Op (Option String)) : Op (Option String) := do
  match ← first with
  | some reason => return some reason
  | none => second

def refersTo (sv : Subvolume) (path : String) (backing : Option BlockVolumeId) : Bool :=
  sv.blockDevice.any (path = ·) || sv.blockVolumeId.any (backing = some ·)

def inSubvolume (sv : Subvolume) (path : String) : Bool := path = sv.path || startsWith path (sv.path ++ "/")

def vmConflict (sv : Subvolume) (vms : List Vm) : Option String :=
  (vms.find? fun vm => vm.disks.any fun disk => sv.blockDevice.any (disk.path = ·)).map fun vm =>
    "subvolume is in use as a disk by VM '" ++ vm.name ++ "'. Detach the disk first."

/-- The first item that uses the subvolume; a list that cannot be read is a conflict. -/
def strictConflict (uses : α → Bool) (message : α → String) (unreadable : String) :
    Except String (List α) → Option String
  | .ok items => (items.find? uses).map message
  | .error e => some (unreadable ++ e)

section
variable (sv : Subvolume)

def iscsiConflict : Except String (List IscsiTarget) → Option String :=
  strictConflict (fun target => target.luns.any fun lun => refersTo sv lun.backstorePath lun.backingVolume)
    (fun target => "subvolume is in use by iSCSI target '" ++ target.iqn ++ "'. Delete the target first.")
    "cannot verify iSCSI dependencies because state failed to load: "

def nvmeofConflict : Except String (List NvmeSubsystem) → Option String :=
  strictConflict (fun subsys => subsys.namespaces.any fun ns => refersTo sv ns.devicePath ns.backingVolume)
    (fun subsys => "subvolume is in use by NVMe-oF subsystem '" ++ subsys.nqn ++ "'. Delete the subsystem first.")
    "cannot verify NVMe-oF dependencies because state failed to load: "

def shareConflict (message : Share → String) (shares : List Share) : Option String :=
  (shares.find? fun share => inSubvolume sv share.path).map message

def nfsConflict : List Share → Option String :=
  shareConflict sv fun share => "subvolume is shared via NFS (path: " ++ share.path ++ "). Delete the NFS share first."

def smbConflict : List Share → Option String :=
  shareConflict sv fun share => "subvolume is shared via SMB as '" ++ share.name ++ "'. Delete the SMB share first."

end

section
variable (projectIdFor : String → String → Nat)

def vmsInUse (sv : Subvolume) : Op (Option String) :=
  if sv.blockDevice.isSome then do
    let vms ← loadAll (·.vms)
    return vmConflict sv vms
  else return none

def conflicts (sv : Subvolume) : Op (Option String) :=
  orElse (vmsInUse sv) <|
  orElse (do return iscsiConflict sv (← loadAllStrict (·.iscsi))) <|
  orElse (do return nvmeofConflict sv (← loadAllStrict (·.nvmeof))) <|
  orElse (do return nfsConflict sv (← loadAll (·.nfs))) (do return smbConflict sv (← loadAll (·.smb)))

def checkSubvolumeInUse (fs name : String) : Op (Option String) := do
  match ← attempt (get projectIdFor fs name none) with
  | .ok sv => conflicts sv
  | .error _ => return none

def firstConflict (fs : String) : List Subvolume → Op (Option String)
  | [] => return none
  | sv :: rest => do
    match ← checkSubvolumeInUse projectIdFor fs sv.name with
    | some reason => return some ("filesystem '" ++ fs ++ "' cannot be destroyed: subvolume '" ++ sv.name ++
        "' is in use — " ++ reason)
    | none => firstConflict fs rest

/-- `load_config`: the default configuration, which has no storage path, if the file cannot be read. -/
def AppsConfig.loaded (apps : AppsConfig) : Option String := if apps.readable then apps.storagePath else none

def appsConflict (fs : String) : Op (Option String) :=
  observe fun host : Host =>
    if host.services.apps.enabled && host.services.apps.loaded.any (startsWith · ("/fs/" ++ fs ++ "/")) then
      some ("filesystem '" ++ fs ++
        "' cannot be destroyed: apps runtime storage is on this filesystem. Disable Apps first.")
    else none

def checkFilesystemInUse (fs : String) : Op (Option String) := do
  let listed ← attempt (listAll projectIdFor none none)
  let subvols := (match listed with
    | .ok subvols => subvols
    | .error _ => []).filter (·.filesystem = fs)
  if subvols = [] then return none
  else orElse (firstConflict projectIdFor fs subvols) (appsConflict fs)

structure SubvolumeDependents where
  filesystem : String
  name : String
  path : String
  apps : List String := []
  vms : List String := []
  backupJobs : List String := []
  nfsShares : List String := []
  smbShares : List String := []
  iscsiTargets : List String := []
  nvmeofSubsystems : List String := []
  stateErrors : List String := []
  deriving DecidableEq

def owningSubvol (pathsDesc : List String) (target : String) : Option String :=
  pathsDesc.find? fun p => target = p || startsWith target (p ++ "/")

/-- The rows and what they are found by. -/
structure Index where
  byPath : Keyed String SubvolumeDependents := ∅
  byBlockDev : Keyed String String := ∅
  byBlockId : Keyed BlockVolumeId String := ∅
  pathsDesc : List String := []

def Index.seed (index : Index) (sv : Subvolume) : Index where
  byPath := index.byPath.insert sv.path { filesystem := sv.filesystem, name := sv.name, path := sv.path }
  byBlockDev := sv.blockDevice.elim index.byBlockDev (index.byBlockDev.insert · sv.path)
  byBlockId := sv.blockVolumeId.elim index.byBlockId (index.byBlockId.insert · sv.path)
  pathsDesc := index.pathsDesc ++ [sv.path]

/-- A stable sort from the longest path on. -/
def sortDesc (paths : List String) : List String := paths.insertionSort fun a b => b.utf8ByteSize ≤ a.utf8ByteSize

def Index.of (subvols : List Subvolume) : Index :=
  let index := subvols.foldl Index.seed {}
  { index with pathsDesc := sortDesc index.pathsDesc }

/-- `owners`: a set, which what each lookup finds is inserted into. -/
def ownersOf (finds : α → List (Option String)) (items : List α) : List String :=
  items.foldl (fun owners item =>
    (finds item).foldl (fun owners found => found.elim owners fun path => owners.insert path) owners) []

namespace Index
variable (index : Index)

def diskOwners (vm : Vm) : List String :=
  ownersOf (fun disk => [owningSubvol index.pathsDesc disk.path, index.byBlockDev.lookup disk.path]) vm.disks

def sourceOwners (job : BackupJob) : List String :=
  ownersOf (fun source => [owningSubvol index.pathsDesc source]) job.sources

def deviceOwners (path : α → String) (backing : α → Option BlockVolumeId) (items : List α) : List String :=
  ownersOf (fun item => [owningSubvol index.pathsDesc (path item), index.byBlockDev.lookup (path item),
    (backing item).bind index.byBlockId.lookup]) items

def shareOwner (share : Share) : List String := (owningSubvol index.pathsDesc share.path).toList

end Index

abbrev Rows := Keyed String SubvolumeDependents

/-- The name of each item goes into the rows of its owners. The order of the owners makes no difference. -/
def bucket (push : String → SubvolumeDependents → SubvolumeDependents) (name : α → String)
    (owners : α → List String) (items : List α) (rows : Rows) : Rows :=
  items.foldl (fun rows item => rows.modifyAll (owners item) (push (name item))) rows

def bucketStrict (push : String → SubvolumeDependents → SubvolumeDependents) (name : α → String)
    (owners : α → List String) (unreadable : String) (loaded : Except String (List α)) (rows : Rows) : Rows :=
  match loaded with
  | .ok items => bucket push name owners items rows
  | .error e => rows.modifyAll rows.keys fun deps => { deps with stateErrors := deps.stateErrors ++ [unreadable ++ e] }

/-- All apps count for the subvolume that their storage is in. -/
def bucketApps (index : Index) (apps : AppsConfig) : Op Rows :=
  match apps.loaded.bind (owningSubvol index.pathsDesc) with
  | none => return index.byPath
  | some owning =>
    if owning ∈ index.byPath then do
      if ← tried id then return index.byPath.modify owning fun deps => { deps with apps := apps.apps }
      else return index.byPath
    else return index.byPath

/-- Each row once, where its subvolume comes first. -/
def takeRows : List Subvolume → Rows → List SubvolumeDependents
  | [], _ => []
  | sv :: rest, rows =>
    match rows.lookup sv.path with
    | some deps => deps :: takeRows rest (rows.erase sv.path)
    | none => takeRows rest rows

section
variable (index : Index)

def bucketVms : List Vm → Rows → Rows :=
  bucket (fun n deps => { deps with vms := deps.vms ++ [n] }) (·.name) index.diskOwners

def bucketBackups : List BackupJob → Rows → Rows :=
  bucket (fun n deps => { deps with backupJobs := deps.backupJobs ++ [n] }) (·.name) index.sourceOwners

def bucketNfs : List Share → Rows → Rows :=
  bucket (fun n deps => { deps with nfsShares := deps.nfsShares ++ [n] }) (·.name) index.shareOwner

def bucketSmb : List Share → Rows → Rows :=
  bucket (fun n deps => { deps with smbShares := deps.smbShares ++ [n] }) (·.name) index.shareOwner

def bucketIscsi : Except String (List IscsiTarget) → Rows → Rows :=
  bucketStrict (fun n deps => { deps with iscsiTargets := deps.iscsiTargets ++ [n] }) (·.iqn)
    (fun target => index.deviceOwners (·.backstorePath) (·.backingVolume) target.luns) "iSCSI state failed to load: "

def bucketNvmeof : Except String (List NvmeSubsystem) → Rows → Rows :=
  bucketStrict (fun n deps => { deps with nvmeofSubsystems := deps.nvmeofSubsystems ++ [n] }) (·.nqn)
    (fun subsys => index.deviceOwners (·.devicePath) (·.backingVolume) subsys.namespaces)
    "NVMe-oF state failed to load: "

end

def findAllSubvolumeDependents : Op (List SubvolumeDependents) := do
  let listed ← attempt (listAll projectIdFor none none)
  let subvols := match listed with
    | .ok subvols => subvols
    | .error _ => []
  let index := Index.of subvols
  let services ← observe fun host : Host => host.services
  let rows ← bucketApps index services.apps
  let rows := bucketVms index (← loadAll (·.vms)) rows
  let rows := bucketBackups index services.backups rows
  let rows := bucketNfs index (← loadAll (·.nfs)) rows
  let rows := bucketSmb index (← loadAll (·.smb)) rows
  let rows := bucketIscsi index (← loadAllStrict (·.iscsi)) rows
  let rows := bucketNvmeof index (← loadAllStrict (·.nvmeof)) rows
  return takeRows subvols rows

end

end NastyEngine.Volumes
