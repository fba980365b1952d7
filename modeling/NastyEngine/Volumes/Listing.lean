import Mathlib.Data.List.Sort
import NastyEngine.Lib.Assoc
import NastyEngine.Volumes.Host

/-!
A description is put together from the list that `bcachefs` prints, the attributes of the directory and
of its parent, the project quotas and the loop devices. Project numbers are hashes of the name.
-/

namespace NastyEngine.Volumes
open Lib Rust Fallible

structure Subvolume where
  name : String
  filesystem : String
  subvolumeType : SubvolumeType
  path : String
  usedBytes : Option Nat
  quotaBytes : Option Nat
  compression : Option String
  comments : Option String
  volsizeBytes : Option Nat
  blockDevice : Option String
  blockVolumeId : Option BlockVolumeId
  blockFilesystem : Option BlockFilesystem
  blockFilesystemUuid : Option String
  snapshots : List String
  owner : Option String
  properties : List (String × String)
  parent : Option String
  directIo : Bool
  bcachefsOptions : List (String × String)
  bcachefsOverrides : List (String × String)
  bcachefsInheritedOptions : List (String × String)
  created : Bool := false
  deriving DecidableEq

structure Snapshot where
  name : String
  subvolume : String
  filesystem : String
  path : String
  readOnly : Bool
  parent : Option String
  blockDevice : Option String := none
  createdAt : Option Int
  deriving DecidableEq

structure View where
  filesystem : String
  pool : Pool
  mountPoint : String
  quotas : Keyed Nat Quota
  loops : Keyed String String
  deriving DecidableEq

def blockFileName : String := "vol.img"

def imagePath (mountPoint name : String) : String := subvolPath mountPoint name ++ "/" ++ blockFileName

/-- The file that a line of `losetup --list` shows: the second word of the line. -/
def shownFile (backing : String) : Option String := (splitWhitespace backing.toList).head?.map String.ofList

def losetupMap (loops : Keyed String String) : List (String × String) :=
  loops.pairs.filterMap fun (device, backing) => (shownFile backing).map (·, device)

def addStorageDefaults (options : List (String × String)) (dataReplicas : Nat) (erasureCode : Bool) :
    List (String × String) :=
  let orInsert (options : List (String × String)) (key value : String) :=
    if options.any (·.1 = key) then options else options ++ [(key, value)]
  orInsert (orInsert options "data_replicas" (toString dataReplicas)) "erasure_code" (if erasureCode then "1" else "0")

def ownedBy (filter : Option String) (owner : Option String) : Bool := filter.all fun required => owner = some required

/-- A path that is listed as a subvolume: no snapshot and nothing internal. -/
def shownName (path : String) : Bool :=
  path ≠ "" && '@' ∉ path.toList && !startsWith path ".nasty/" && path ≠ ".nasty"

/-- What follows `name@`, if it is one component. -/
def snapshotOf (name path : String) : Option String := (stripStart (name ++ "@") path).filter ('/' ∉ ·.toList)

section
variable (projectIdFor : String → String → Nat)

namespace View

def snapshotNames (view : View) (filter : Option String) (name : String) : List String :=
  view.pool.nodes.pairs.filterMap fun (path, node) =>
    if node.isSnapshot && ownedBy filter node.owner then snapshotOf name path else none

def size (view : View) (name : String) (node : Node) : Option Nat × Option Nat :=
  match node.readMeta.subvolumeType with
  | .block => (node.image.map (·.allocated), none)
  | .filesystem => match view.quotas.lookup (projectIdFor view.filesystem name) with
    | some quota => (some quota.usedBytes, if 0 < quota.hardBytes then some quota.hardBytes else none)
    | none => (none, none)

/-- The file must be there for its path to be made canonical. -/
def blockDevice (view : View) (name : String) (node : Node) : Option String :=
  if node.readMeta.subvolumeType = .block && node.image.isSome then
    collect (losetupMap view.loops) (imagePath view.mountPoint name)
  else none

def describe (view : View) (filter : Option String) (name : String) (node : Node) : Subvolume where
  name := name
  filesystem := view.filesystem
  subvolumeType := node.readMeta.subvolumeType
  path := subvolPath view.mountPoint name
  usedBytes := (view.size projectIdFor name node).1
  quotaBytes := (view.size projectIdFor name node).2
  compression := node.readMeta.compression
  comments := node.readMeta.comments
  volsizeBytes := node.readMeta.volsizeBytes
  blockDevice := view.blockDevice name node
  blockVolumeId := if node.readMeta.subvolumeType = .block then node.subvolid.map (⟨view.pool.uuid, ·⟩) else none
  blockFilesystem := node.readMeta.blockFilesystem
  blockFilesystemUuid := node.readMeta.blockFilesystemUuid
  snapshots := view.snapshotNames filter name
  owner := node.owner
  properties := node.xattrs.properties
  parent := node.parentName
  directIo := node.readMeta.directIo
  bcachefsOptions := node.xattrs.bcachefsOptions
  bcachefsOverrides := node.xattrs.bcachefsOverrides
  bcachefsInheritedOptions := addStorageDefaults (view.pool.optionsAt (parentPath name))
    (view.pool.dataReplicas.getD 1) (view.pool.erasureCode.getD false)

def shown (filter : Option String) (path : String) (node : Node) : Bool :=
  !node.isSnapshot && shownName path && !node.creating && ownedBy filter node.owner

def subvolumes (view : View) (filter : Option String) : List Subvolume :=
  view.pool.nodes.pairs.filterMap fun (path, node) =>
    if shown filter path node then some (view.describe projectIdFor filter path node) else none

end View

/-- The snapshot at a path, if its subvolume is in `owned`, where that is given, and the filter lets it through. -/
def snapshotAt (filesystem mountPoint : String) (filter : Option String) (owned : Option (List String)) (path : String)
    (node : Node) : Option Snapshot := do
  let (subvolume, snapshot) ← splitOnce '@' path.toList
  if node.isSnapshot && !subvolume.isEmpty && !snapshot.isEmpty && '/' ∉ snapshot &&
      owned.all (String.ofList subvolume ∈ ·) && ownedBy filter node.owner then
    some { name := String.ofList snapshot, subvolume := String.ofList subvolume, filesystem := filesystem
           path := snapPath mountPoint (String.ofList subvolume) (String.ofList snapshot)
           readOnly := node.readOnly, parent := node.parentName, createdAt := node.otimeUnix }
  else none

def snapshotsOf (filesystem mountPoint : String) (pool : Pool) (filter : Option String) (owned : Option (List String)) :
    List Snapshot :=
  pool.nodes.pairs.filterMap fun (path, node) => snapshotAt filesystem mountPoint filter owned path node

/-- The paths that `bcachefs subvolume list -R` shows below `name`: the first word of each line, sorted. -/
def childSubvolumes (pool : Pool) (name : String) : List String :=
  ((pool.nodes.pairs.filter (!·.2.isSnapshot)).filterMap fun (path, _) =>
    ((splitWhitespace path.toList).head?.map String.ofList).filter (Below name ·)).insertionSort (· ≤ ·)

abbrev Op (α : Type) := Fallible SubvolumeError (Faulty Host) α

abbrev check {α : Type} (r : Except SubvolumeError α) : Op α := Fallible.ofExcept r

def command (effect : Host → Host) : Op Unit := mapError .commandFailed (external effect)

def tried (effect : Host → Host) : Op Bool := succeeds (external effect)

def commandIf (possible : Host → Bool) (refusal : String) (effect : Host → Host) : Op Unit := do
  let can ← observe possible
  check (require (can = true) (.commandFailed refusal))
  command effect

def findPool (fs : String) : Op Pool := do
  let answered ← tried id
  check (require (answered = true) (.filesystemNotFound fs))
  let pool ← observe fun host : Host => host.pools.lookup fs
  check (okOr pool (.filesystemNotFound fs))

def fsMountPoint (fs : String) : Op String := do
  let pool ← findPool fs
  check (okOr pool.mountPoint (.filesystemNotMounted fs))

/-- `bcachefs subvolume list` has to answer; the quotas and the loop devices are empty if they cannot be read. -/
def look (fs : String) : Op View := do
  let pool ← findPool fs
  let mountPoint ← check (okOr pool.mountPoint (.filesystemNotMounted fs))
  command id
  let quotas ← tried id
  let loops ← tried id
  let attached ← observe fun host : Host => host.loops
  return { filesystem := fs, pool := pool, mountPoint := mountPoint
           quotas := if quotas then pool.quotas else ∅, loops := if loops then attached else ∅ }

def list (fs : String) (filter : Option String) : Op (List Subvolume) := do
  let view ← look fs
  return view.subvolumes projectIdFor filter

def requireOwner (actual required : Option String) : Except SubvolumeError Unit :=
  require (ownedBy required actual = true) .accessDenied

def get (fs name : String) (filter : Option String) : Op Subvolume := do
  let all ← list projectIdFor fs none
  let subvolume ← check (okOr (all.find? (·.name = name)) (.notFound name))
  check (requireOwner subvolume.owner filter)
  return subvolume

def mountedPools (host : Host) : List String := (host.pools.pairs.filter (·.2.mountPoint.isSome)).map (·.1)

def listAll (fsFilter filter : Option String) : Op (List Subvolume) := do
  let answered ← tried id
  check (require (answered = true) (.commandFailed "bcachefs"))
  let pools ← observe mountedPools
  let lists ← (pools.filter fun fs => fsFilter.all (· = fs)).mapM' fun fs => list projectIdFor fs filter
  return lists.flatten

def ownedNames (fs : String) : Option String → Op (Option (List String))
  | some owner => do
    let subvolumes ← list projectIdFor fs (some owner)
    return some (subvolumes.map (·.name))
  | none => return none

/-- There are no snapshots if `bcachefs` does not answer. -/
def listSnapshots (fs : String) (filter : Option String) : Op (List Snapshot) := do
  let mountPoint ← fsMountPoint fs
  let owned ← ownedNames projectIdFor fs filter
  let answered ← tried id
  let pool ← observe fun host : Host => host.pools.lookup fs
  return if answered then pool.elim [] (snapshotsOf fs mountPoint · filter owned) else []

end

/-- There are no children if `bcachefs` does not answer. -/
def findChildSubvolumes (fs name : String) : Op (List String) := do
  let answered ← tried id
  let pool ← observe fun host : Host => host.pools.lookup fs
  return if answered then pool.elim [] (childSubvolumes · name) else []

def listChildren (fs name : String) : Op (List String) := do
  let _ ← fsMountPoint fs
  findChildSubvolumes fs name

/-- A line of `losetup --list` shows the file as it is. -/
def Unspaced (file : String) : Prop := file ≠ "" ∧ file.toList.all (!isWhitespace ·) = true

theorem shownFile_unspaced {file : String} (unspaced : Unspaced file) : shownFile file = some file := by
  have whole : file.toList.splitOnP isWhitespace = [file.toList] := by
    rw [List.splitOnP_eq_singleton]
    intro c mem
    have other := List.all_eq_true.mp unspaced.2 c mem
    simpa using other
  have full : file.toList ≠ [] := fun empty => unspaced.1 (String.toList_inj.mp empty)
  have kept : splitWhitespace file.toList = [file.toList] := by
    rw [splitWhitespace, whole]
    simp [full]
  rw [shownFile, kept, List.head?_cons, Option.map_some, String.ofList_toList]

end NastyEngine.Volumes
