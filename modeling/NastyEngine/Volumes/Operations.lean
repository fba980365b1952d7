import NastyEngine.Volumes.Listing

/-!
Each operation looks at the host, checks, and then issues commands one after another. Any command can
fail, and what was done before it stays.
-/

namespace NastyEngine.Volumes
open Lib Rust Fallible

namespace Host

def modifyPool (host : Host) (fs : String) (f : Pool → Pool) : Host := { host with pools := host.pools.modify fs f }

section
variable (fs path : String)

def modifyNode (f : Node → Node) (host : Host) : Host :=
  host.modifyPool fs fun pool => { pool with nodes := pool.nodes.modify path f }

def insertNode (node : Node) (host : Host) : Host :=
  host.modifyPool fs fun pool => { pool with nodes := pool.nodes.insert path node }

def addDir (host : Host) : Host :=
  host.modifyPool fs fun pool => { pool with dirs := pool.dirs.insert path (pool.optionsAt (parentPath path)) }

def eraseNode (host : Host) : Host :=
  host.modifyPool fs fun pool => { pool with
    nodes := pool.nodes.erase path
    dirs := Keyed.ofPairs (pool.dirs.pairs.filter fun (dir, _) => ¬ Below path dir) }

end

/-- The usage that is accounted to the project stays. -/
def setQuota (fs : String) (project hardBytes : Nat) (host : Host) : Host :=
  host.modifyPool fs fun pool => { pool with
    quotas := pool.quotas.insert project
      { usedBytes := ((pool.quotas.lookup project).map (·.usedBytes)).getD 0, hardBytes := hardBytes } }

def attachLoop (device file : String) (host : Host) : Host := { host with loops := host.loops.insert device file }

def detachLoop (device : String) (host : Host) : Host := { host with loops := host.loops.erase device }

variable (host : Host) (fs path : String)

def occupied : Bool := (host.pools.lookup fs).any (·.occupied path)

def node? : Option Node := (host.pools.lookup fs).bind (·.nodes.lookup path)

def hasImage : Bool := ((host.node? fs path).bind (·.image)).isSome

def childless : Bool := (host.pools.lookup fs).all fun pool => pool.nodes.keys.all fun other => ¬ Below path other

end Host

/-- What the system chooses for a new subvolume: its number, its inode, when it was made, and the number of its
loop device and the identity of a file system in it. -/
structure Fresh where
  subvolid : Nat
  inode : String
  otimeUnix : Int
  loopDevice : String
  uuid : String
  deriving DecidableEq

def commandAs (what : String) (effect : Host → Host) : Op Unit :=
  mapError (fun e => .commandFailed (what ++ ": " ++ e)) (external effect)

section
variable (fs path : String)

def xattrSet (key value : String) : Host → Host :=
  Host.modifyNode fs path fun node => { node with xattrs := node.xattrs.insert key value }

def setXattr (what key value : String) : Op Unit := commandAs ("setxattr " ++ what) (xattrSet fs path key value)

def removeXattr (key : String) : Host → Host :=
  Host.modifyNode fs path fun node => { node with xattrs := node.xattrs.erase key }

def setMode (mode : Nat) : Host → Host := Host.modifyNode fs path fun node => { node with mode := mode }

/-- `set-file-option`; the value `-` removes the override. -/
def setFileOption (option value : String) : Host → Host :=
  Host.modifyNode fs path fun node => { node with
    xattrs := if value = "-" then node.xattrs.erase ("bcachefs." ++ option)
      else (node.xattrs.insert ("bcachefs." ++ option) value).insert ("bcachefs_effective." ++ option) value }

def createSubvolume (fresh : Fresh) : Op Unit :=
  commandIf (fun host => !host.occupied fs path && host.occupied fs (parentPath path)) "File exists"
    (Host.insertNode fs path
      { subvolid := some fresh.subvolid, inode := fresh.inode, otimeUnix := some fresh.otimeUnix })

end

def snapshotNode (source : String) (node : Node) (readOnly : Bool) (fresh : Fresh) : Node :=
  { node with subvolid := some fresh.subvolid, otimeUnix := some fresh.otimeUnix, readOnly := readOnly
              snapshotParent := some ("/" ++ source) }

def snapshotSubvolume (fs source dest : String) (readOnly : Bool) (fresh : Fresh) : Op Unit := do
  let node ← observe fun host => Host.node? host fs source
  let node ← check (okOr node (.commandFailed "No such file or directory"))
  commandIf (fun host => !host.occupied fs dest && host.occupied fs (parentPath dest)) "File exists"
    (Host.insertNode fs dest (snapshotNode source node readOnly fresh))

/-- `bcachefs` does not delete a subvolume that has subvolumes in it. -/
def deleteSubvolume (fs path : String) : Fallible String (Faulty Host) Unit := do
  let there ← observe fun host => (Host.node? host fs path).isSome
  Fallible.ofExcept (require (there = true) "No such file or directory")
  let childless ← observe fun host => Host.childless host fs path
  Fallible.ofExcept (require (childless = true) "Directory not empty")
  external (Host.eraseNode fs path)

/-- The image of the subvolume has to be there. -/
def losetup (fs name device file : String) : Op Unit :=
  commandIf (fun host => host.hasImage fs name) "No such file or directory" (Host.attachLoop device file)

structure CreateSubvolumeRequest where
  filesystem : String
  name : String
  subvolumeType : SubvolumeType := .filesystem
  volsizeBytes : Option Nat := none
  compression : Option String := none
  comments : Option String := none
  directIo : Option Bool := none
  foregroundTarget : Option String := none
  backgroundTarget : Option String := none
  promoteTarget : Option String := none
  metadataTarget : Option String := none
  dataReplicas : Option Nat := none
  blockFilesystem : Option BlockFilesystem := none
  deriving DecidableEq

def maxVolsizeBytes : Nat := 256 * 1024 * 1024 * 1024 * 1024

def validateVolsizeBytes (bytes : Nat) : Except SubvolumeError Unit := do
  require (bytes ≠ 0) (.invalidVolsize "volsize must be greater than zero")
  require (bytes ≤ maxVolsizeBytes)
    (.invalidVolsize ("volsize " ++ toString bytes ++ " exceeds maximum " ++ toString maxVolsizeBytes ++ " (256 TiB)"))

def quotaBytesFromRequest (bytes : Nat) : Nat := (bytes + 1023) / 1024 * 1024

def debugOption {α : Type} (debug : α → String) : Option α → String
  | some a => "Some(" ++ debug a ++ ")"
  | none => "None"

def SubvolumeType.debug : SubvolumeType → String
  | .filesystem => "Filesystem"
  | .block => "Block"

def BlockFilesystem.debug : BlockFilesystem → String
  | .ext3 => "Ext3"
  | .ext4 => "Ext4"
  | .xfs => "Xfs"

namespace CreateSubvolumeRequest

variable (req : CreateSubvolumeRequest)

def validate : Except SubvolumeError Unit := do
  validateSubvolumeName req.name
  require (¬ (req.subvolumeType = .block ∧ req.volsizeBytes = none)) .volsizeRequired
  require (¬ (req.subvolumeType = .block ∧ '/' ∈ req.name.toList))
    (.invalidName "nested block subvolumes are not supported")
  require (¬ (req.subvolumeType ≠ .block ∧ req.blockFilesystem.isSome)) .blockFilesystemRequiresBlock
  req.volsizeBytes.elim (.ok ()) validateVolsizeBytes

def effectiveVolsizeBytes : Option Nat :=
  req.volsizeBytes.map fun bytes => if req.subvolumeType = .filesystem then quotaBytesFromRequest bytes else bytes

def options : List (String × String) :=
  [("compression", req.compression), ("foreground_target", req.foregroundTarget),
    ("background_target", req.backgroundTarget), ("promote_target", req.promoteTarget),
    ("metadata_target", req.metadataTarget), ("data_replicas", req.dataReplicas.map toString)].filterMap
    fun (option, value) => value.map (option, ·)

def compatible (existing : Subvolume) : Except SubvolumeError Unit := do
  require (existing.subvolumeType = req.subvolumeType)
    (.existingIncompatible ("requested " ++ req.subvolumeType.debug ++ ", existing " ++ existing.subvolumeType.debug))
  require (req.effectiveVolsizeBytes.all fun expected => existing.volsizeBytes = some expected)
    (.existingIncompatible ("requested capacity " ++ toString (req.effectiveVolsizeBytes.getD 0) ++
      ", existing capacity " ++ debugOption toString existing.volsizeBytes))
  require (req.blockFilesystem.all fun expected => existing.blockFilesystem = some expected &&
      existing.blockFilesystemUuid.any (· ≠ ""))
    (.existingIncompatible ("requested initialized " ++ (req.blockFilesystem.map (·.asStr)).getD "" ++
      ", existing type=" ++ debugOption BlockFilesystem.debug existing.blockFilesystem ++ ", uuid_present=" ++
      toString (existing.blockFilesystemUuid.any (· ≠ ""))))

end CreateSubvolumeRequest

section
variable (projectIdFor : String → String → Nat)

def assignProject (fs path : String) (current : Option Nat) (project : Nat) : Op Bool :=
  if current = some project then pure true
  else tried (Host.modifyNode fs path fun node => { node with project := project })

/-- A quota needs the project to be read and set; a failure is only logged. -/
def setProjectQuota (fs path : String) (project bytes : Nat) : Op Unit := do
  let current ← observe fun host => (Host.node? host fs path).map (·.project)
  if ← tried id then
    if ← assignProject fs path current project then
      let _ ← tried (Host.setQuota fs project (quotaBytesFromRequest bytes))

def quarantineFailedCreate (device : Option String) : Op Unit :=
  match device with
  | some device => do
    let _ ← tried (Host.detachLoop device)
    pure ()
  | none => pure ()

/-- A step of a create; after a failure a block subvolume is quarantined. -/
def orQuarantine {α : Type} (type : SubvolumeType) (device : Option String) (step : Op α) : Op α := do
  match ← attempt step with
  | .ok a => pure a
  | .error e => do
    if type = .block then quarantineFailedCreate device
    check (.error e)

def metaXattrs (m : SubvolumeMeta) : List (String × String × String) :=
  [some ("type", "user.nasty.type", if m.subvolumeType = .block then "block" else "filesystem"),
    m.volsizeBytes.map ("volsize", "user.nasty.volsize", toString ·),
    m.compression.map ("compression", "user.nasty.compression", ·),
    m.comments.map ("comment", "user.nasty.comment", ·),
    m.owner.map ("owner", "user.nasty.owner", ·),
    if m.directIo then some ("direct_io", "user.nasty.direct_io", "true") else none,
    m.blockFilesystem.map ("block filesystem", "trusted.nasty.block_filesystem", ·.asStr),
    m.blockFilesystemUuid.map ("block filesystem UUID", "trusted.nasty.block_filesystem_uuid", ·)].filterMap id

def writeMetaXattrs (fs path : String) (m : SubvolumeMeta) : Op Unit :=
  (metaXattrs m).forM fun (what, key, value) => setXattr fs path what key value

/-- The directories that are missing above `path`, the lowest first. -/
def missingDirs (occupied : String → Bool) (path : String) : Nat → List String
  | 0 => []
  | fuel + 1 => if occupied path then [] else path :: missingDirs occupied (parentPath path) fuel

/-- `create_dir_all`; a path has at most as many directories above it as it has characters. -/
def createDirAll (fs path : String) : Op Unit := do
  let missing ← observe fun host => missingDirs (Host.occupied host fs) path (path.length + 1)
  missing.reverse.forM fun dir => mapError .io (external (Host.addDir fs dir))

section
variable (req : CreateSubvolumeRequest)

/-- An image, its loop device, and a file system in it if one is asked for. -/
def createImage (mountPoint : String) (fresh : Fresh) : Op (Option String × Option String) := do
  let path := imagePath mountPoint req.name
  orQuarantine .block none <| commandAs ("create block image " ++ path) <|
    Host.modifyNode req.filesystem req.name fun node => { node with image := some ⟨0, 0⟩ }
  orQuarantine .block none <| commandAs ("resize block image " ++ path) <|
    Host.modifyNode req.filesystem req.name fun node =>
      { node with image := some ⟨req.effectiveVolsizeBytes.getD 0, 0⟩ }
  -- `--nocow` on the image, unless the pool is encrypted
  let _ ← tried id
  orQuarantine .block none (losetup req.filesystem req.name fresh.loopDevice path)
  match req.blockFilesystem with
  | none => return (some fresh.loopDevice, none)
  | some _ => do
    -- `mkfs`, a flush, and two calls of `blkid`
    orQuarantine .block (some fresh.loopDevice) (command id)
    orQuarantine .block (some fresh.loopDevice) (command id)
    orQuarantine .block (some fresh.loopDevice) (command id)
    orQuarantine .block (some fresh.loopDevice) (command id)
    return (some fresh.loopDevice, some fresh.uuid)

def createExisting (mountPoint : String) : Op Subvolume := do
  let creating ← observe fun host => (Host.node? host req.filesystem req.name).any (·.creating)
  check (require (creating = false)
    (.existingIncompatible "a previous create was interrupted before provisioning completed"))
  let existing ← get projectIdFor req.filesystem req.name none
  check (req.compatible existing)
  if existing.subvolumeType = .filesystem then
    commandAs ("chmod 0777 " ++ subvolPath mountPoint req.name ++ " during idempotent create")
      (setMode req.filesystem req.name 0o777)
    return existing
  else return existing

def limitNew : Op Unit :=
  if req.subvolumeType = .filesystem then
    setProjectQuota req.filesystem req.name (projectIdFor req.filesystem req.name) (req.effectiveVolsizeBytes.getD 0)
  else pure ()

def backingOf (mountPoint : String) (fresh : Fresh) : Op (Option String × Option String) :=
  if req.subvolumeType = .block then createImage req mountPoint fresh else pure (none, none)

def openToAll : Op Bool :=
  if req.subvolumeType = .filesystem then tried (setMode req.filesystem req.name 0o777) else pure true

def createNew (owner : Option String) (mountPoint : String) (fresh : Fresh) : Op Subvolume := do
  let fs := req.filesystem
  let path := subvolPath mountPoint req.name
  createDirAll fs (parentPath req.name)
  createSubvolume fs req.name fresh
  orQuarantine req.subvolumeType none (commandAs ("chmod 0700 " ++ path) (setMode fs req.name 0o700))
  orQuarantine req.subvolumeType none (commandAs ("set provisioning state on " ++ path)
    (xattrSet fs req.name "trusted.nasty.provisioning_state" "creating"))
  req.options.forM fun (option, value) => do
    let _ ← tried (setFileOption fs req.name option value)
    pure ()
  limitNew projectIdFor req
  let (device, uuid) ← backingOf req mountPoint fresh
  orQuarantine req.subvolumeType device <| writeMetaXattrs fs req.name
    { subvolumeType := req.subvolumeType, volsizeBytes := req.effectiveVolsizeBytes, compression := req.compression
      comments := req.comments, owner := owner, directIo := req.directIo.getD false
      blockFilesystem := req.blockFilesystem, blockFilesystemUuid := uuid }
  orQuarantine req.subvolumeType device (commandAs ("mark provisioning complete on " ++ path)
    (xattrSet fs req.name "trusted.nasty.provisioning_state" "ready"))
  let _ ← openToAll req
  let subvolume ← get projectIdFor fs req.name none
  return { subvolume with created := true }

def create (owner : Option String) (fresh : Fresh) : Op Subvolume := do
  check req.validate
  let mountPoint ← fsMountPoint req.filesystem
  let occupied ← observe fun host => Host.occupied host req.filesystem req.name
  if occupied then createExisting projectIdFor req mountPoint else createNew projectIdFor req owner mountPoint fresh

end

def isAlreadyDetached (e : String) : Bool :=
  let lower := e.toList.map toAsciiLowercase
  lower.tails.any fun tail => "no such device".toList.isPrefixOf tail || "not in use".toList.isPrefixOf tail

def detachForDelete (device : String) : Op Unit := do
  match ← attempt (external (Host.detachLoop device)) with
  | .ok _ => pure ()
  | .error e => check (require (isAlreadyDetached e = true) (.loopDetachFailed device e))

def deleteChildren (fs : String) (children : List String) : Op (List String) := do
  let stuck ← children.mapM' fun child => do
    match ← attempt (deleteSubvolume fs child) with
    | .ok _ => pure none
    | .error e => pure (some (child ++ " (" ++ e ++ ")"))
  return stuck.filterMap id

def releaseDevice (subvol : Subvolume) : Op Unit :=
  if subvol.subvolumeType = .block then subvol.blockDevice.elim (pure ()) detachForDelete else pure ()

section
variable (fs name : String) (filter : Option String)

def delete : Op Unit := do
  let subvol ← get projectIdFor fs name filter
  releaseDevice subvol
  let _ ← fsMountPoint fs
  let children ← findChildSubvolumes fs name
  let stuck ← deleteChildren fs children.reverse
  check (require (stuck = []) (.childrenStuck ("; ".intercalate stuck)))
  mapError .commandFailed (deleteSubvolume fs name)

def attach (fresh : Fresh) : Op Subvolume := do
  let subvol ← get projectIdFor fs name filter
  check (require (subvol.subvolumeType = .block) (.commandFailed "only block subvolumes can be attached"))
  if subvol.blockDevice.isSome then return subvol
  else
    losetup fs name fresh.loopDevice (subvol.path ++ "/" ++ blockFileName)
    get projectIdFor fs name filter

def detach : Op Subvolume := do
  let subvol ← get projectIdFor fs name filter
  subvol.blockDevice.elim (pure ()) fun device => command (Host.detachLoop device)
  get projectIdFor fs name filter

end

def validateGrowOnly (current requested : Nat) : Except SubvolumeError Unit :=
  require (current ≤ requested) (.shrinkNotSupported current requested)

def filesystemCapacityBound (quotaBytes recordedBytes usedBytes : Option Nat) : Option Nat :=
  match quotaBytes, recordedBytes with
  | none, none => none
  | quota, recorded => some (max (max (quota.getD 0) (recorded.getD 0)) (usedBytes.getD 0))

section
variable (fs name : String) (subvol : Subvolume) (volsizeBytes : Nat)

def resizeBlock : Op Nat := do
  let image ← observe fun host => (Host.node? host fs name).bind (·.image)
  let image ← check (okOr image (.commandFailed ("stat block image " ++ subvol.path ++ "/" ++ blockFileName)))
  check (validateGrowOnly image.size volsizeBytes)
  command (Host.modifyNode fs name fun node =>
    { node with image := node.image.map fun image => { image with size := volsizeBytes } })
  -- `losetup --set-capacity`
  subvol.blockDevice.elim (pure ()) fun _ => command id
  return volsizeBytes

def resizeFilesystem : Op Nat := do
  let requested := quotaBytesFromRequest volsizeBytes
  let bound ← check (okOr (filesystemCapacityBound subvol.quotaBytes subvol.volsizeBytes subvol.usedBytes)
    (.invalidVolsize "current filesystem capacity is unavailable; refusing resize"))
  check (validateGrowOnly bound requested)
  let _ ← fsMountPoint fs
  command (Host.setQuota fs (projectIdFor fs name) requested)
  return requested

def resizeTo : Op Nat :=
  match subvol.subvolumeType with
  | .block => resizeBlock fs name subvol volsizeBytes
  | .filesystem => resizeFilesystem projectIdFor fs name subvol volsizeBytes

end

def resize (fs name : String) (volsizeBytes : Nat) (filter : Option String) : Op Subvolume := do
  check (validateVolsizeBytes volsizeBytes)
  let subvol ← get projectIdFor fs name filter
  let effective ← resizeTo projectIdFor fs name subvol volsizeBytes
  let _ ← fsMountPoint fs
  setXattr fs name "volsize" "user.nasty.volsize" (toString effective)
  get projectIdFor fs name filter

inductive SubvolumeErasureCode where
  | inherit
  | enabled
  | disabled
  deriving DecidableEq

def SubvolumeErasureCode.value : SubvolumeErasureCode → String
  | .inherit => "-"
  | .enabled => "1"
  | .disabled => "0"

structure UpdateSubvolumeRequest where
  filesystem : String
  name : String
  compression : Option String := none
  comments : Option String := none
  foregroundTarget : Option String := none
  backgroundTarget : Option String := none
  promoteTarget : Option String := none
  metadataTarget : Option String := none
  dataReplicas : Option Nat := none
  erasureCode : Option SubvolumeErasureCode := none
  deriving DecidableEq

def optionEnabled (value : Option String) : Bool := value.any (· ∈ ["1", "true", "yes", "on"])

def optionReplicas (options : List (String × String)) : Option Nat :=
  (options.lookup "data_replicas").bind fun value => fromStrRadix 10 (2 ^ 32) value.toList

def validateStoragePolicy (dataReplicas : Nat) (erasureCode : Bool) : Except SubvolumeError Unit :=
  require (¬ (erasureCode = true ∧ ¬ (2 ≤ dataReplicas ∧ dataReplicas ≤ 3)))
    (.invalidStoragePolicy ("erasure coding requires 2 or 3 data replicas (got " ++ toString dataReplicas ++ ")"))

def compressionFileOption : String → String × Bool
  | "inherit" | "-" => ("-", true)
  | "none" | "" => ("none", true)
  | value => (value, false)

namespace UpdateSubvolumeRequest

variable (req : UpdateSubvolumeRequest)

def policy (subvol : Subvolume) : Nat × Bool :=
  let inherited := (optionReplicas subvol.bcachefsInheritedOptions).getD 1
  (match req.dataReplicas with
    | some 0 => inherited
    | some replicas => replicas
    | none => (optionReplicas subvol.bcachefsOptions).getD inherited,
    match req.erasureCode with
    | some .inherit => optionEnabled (subvol.bcachefsInheritedOptions.lookup "erasure_code")
    | some .enabled => true
    | some .disabled => false
    | none => match subvol.bcachefsOptions.lookup "erasure_code" with
      | some value => optionEnabled (some value)
      | none => optionEnabled (subvol.bcachefsInheritedOptions.lookup "erasure_code"))

def checkPolicy (subvol : Subvolume) : Except SubvolumeError Unit :=
  if req.dataReplicas.isSome || req.erasureCode.isSome then
    validateStoragePolicy (req.policy subvol).1 (req.policy subvol).2
  else .ok ()

def targets : List (String × String) :=
  [("foreground_target", req.foregroundTarget), ("background_target", req.backgroundTarget),
    ("promote_target", req.promoteTarget), ("metadata_target", req.metadataTarget)].filterMap
    fun (option, value) => value.map (option, ·)

end UpdateSubvolumeRequest

section
variable (fs name : String)

def updateCompression (compression : String) : Op Unit := do
  let (value, clear) := compressionFileOption compression
  command (setFileOption fs name "compression" value)
  if clear then
    let _ ← tried (removeXattr fs name "user.nasty.compression")
    pure ()
  else setXattr fs name "compression" "user.nasty.compression" value

def updateComments (comments : String) : Op Unit :=
  if comments = "" then do
    let _ ← tried (removeXattr fs name "user.nasty.comment")
    pure ()
  else setXattr fs name "comment" "user.nasty.comment" comments

/-- After a failure the number of replicas is put back, if it was changed. -/
def updateErasureCode (changedReplicas : Bool) (previous : String) (code : SubvolumeErasureCode) : Op Unit := do
  match ← attempt (external (setFileOption fs name "erasure_code" code.value)) with
  | .ok _ => pure ()
  | .error e => do
    if changedReplicas then
      mapError (fun e' => .commandFailed (e ++ "; restoring data replicas also failed: " ++ e'))
        (external (setFileOption fs name "data_replicas" previous))
    check (.error (.commandFailed e))

end

def update (req : UpdateSubvolumeRequest) (filter : Option String) : Op Subvolume := do
  let fs := req.filesystem
  let subvol ← get projectIdFor fs req.name filter
  check (req.checkPolicy subvol)
  req.compression.elim (pure ()) (updateCompression fs req.name)
  req.comments.elim (pure ()) (updateComments fs req.name)
  req.targets.forM fun (option, value) => command (setFileOption fs req.name option value)
  req.dataReplicas.elim (pure ()) fun replicas =>
    command (setFileOption fs req.name "data_replicas" (if replicas = 0 then "-" else toString replicas))
  req.erasureCode.elim (pure ()) (updateErasureCode fs req.name req.dataReplicas.isSome
    ((subvol.bcachefsOverrides.lookup "data_replicas").getD "-"))
  get projectIdFor fs req.name filter

def reserved (key : String) : Bool := startsWith key "nasty."

def setProperties (fs name : String) (properties : List (String × String)) (filter : Option String) : Op Subvolume := do
  let _ ← get projectIdFor fs name filter
  properties.forM fun (key, value) => do
    check (require (reserved key = false) (.reservedProperty key))
    setXattr fs name ("user." ++ key) ("user." ++ key) value
  get projectIdFor fs name filter

def removeProperties (fs name : String) (keys : List String) (filter : Option String) : Op Subvolume := do
  let _ ← get projectIdFor fs name filter
  keys.forM fun key => do
    check (require (reserved key = false) (.reservedProperty key))
    commandAs ("removexattr user." ++ key) (removeXattr fs name ("user." ++ key))
  get projectIdFor fs name filter

def createSnapshotLocked (fs subvolume name : String) (filter : Option String) (fresh : Fresh) : Op Snapshot := do
  let _ ← get projectIdFor fs subvolume filter
  let mountPoint ← fsMountPoint fs
  let there ← observe fun host => Host.occupied host fs subvolume
  check (require (there = true) (.notFound subvolume))
  let taken ← observe fun host => Host.occupied host fs (snapName subvolume name)
  check (require (taken = false) (.alreadyExists name))
  let _ ← get projectIdFor fs subvolume filter
  -- a flush of the loop device
  let _ ← tried id
  snapshotSubvolume fs subvolume (snapName subvolume name) true fresh
  let answered ← tried id
  let node ← observe fun host => Host.node? host fs (snapName subvolume name)
  return { name := name, subvolume := subvolume, filesystem := fs, path := snapPath mountPoint subvolume name
           readOnly := true, parent := some subvolume
           createdAt := if answered then (node.filter (·.isSnapshot)).bind (·.otimeUnix) else none }

def createSnapshot (fs subvolume name : String) (filter : Option String) (fresh : Fresh) : Op Snapshot := do
  check (validateSnapshotName subvolume name)
  createSnapshotLocked projectIdFor fs subvolume name filter fresh

def ifFound : Except SubvolumeError Subvolume → Except SubvolumeError (Option Subvolume)
  | .ok parent => .ok (some parent)
  | .error (.notFound _) => .ok none
  | .error e => .error e

def snapshotParent (fs subvolume : String) (filter : Option String) (adminOverride : Bool) : Op (Option Subvolume) := do
  let answer ← attempt (get projectIdFor fs subvolume filter)
  let parent ← check (ifFound answer)
  check (require (¬ (parent = none ∧ filter = none ∧ adminOverride = false)) .accessDenied)
  return parent

section
variable (snapshotOwner : Option String)

def authorizeSnapshotProvenance (parentOwner filter : Option String) (adminOverride : Bool) :
    Except SubvolumeError Unit :=
  if adminOverride then .ok ()
  else do
    requireOwner parentOwner filter
    requireOwner snapshotOwner filter
    require (snapshotOwner = parentOwner) .accessDenied

def authorizeOrphanSnapshot (filter : Option String) (adminOverride : Bool) : Except SubvolumeError Unit :=
  if adminOverride then .ok ()
  else do
    let owner ← okOr filter .accessDenied
    requireOwner snapshotOwner (some owner)

def authorizeSnapshot (parent : Option Subvolume) (filter : Option String)
    (adminOverride : Bool) : Except SubvolumeError Unit :=
  match parent with
  | some parent => authorizeSnapshotProvenance snapshotOwner parent.owner filter adminOverride
  | none => authorizeOrphanSnapshot snapshotOwner filter adminOverride

end

section
variable (fs : String)

def findSnapshot (subvolume snapshot : String) (filter : Option String) (adminOverride : Bool)
    (missing : SubvolumeError) : Op Node := do
  let parent ← snapshotParent projectIdFor fs subvolume filter adminOverride
  let _ ← fsMountPoint fs
  let node ← observe fun host => Host.node? host fs (snapName subvolume snapshot)
  let node ← check (okOr node missing)
  check (authorizeSnapshot node.owner parent filter adminOverride)
  return node

def deleteSnapshot (subvolume name : String) (filter : Option String) (adminOverride : Bool) : Op Unit := do
  check (validateExistingSnapshotName subvolume name)
  let _ ← findSnapshot projectIdFor fs subvolume name filter adminOverride (.notFound name)
  mapError .commandFailed (deleteSubvolume fs (snapName subvolume name))

/-- A clone that is there already must have the same source. -/
def checkCloneSource (newName source : String) : Op Unit := do
  let recorded ← observe fun host =>
    (Host.node? host fs newName).bind (·.xattrs.lookup "trusted.nasty.clone_source")
  check (require (recorded = some source) (.existingIncompatible ("clone destination " ++ newName ++ " has source " ++
    debugOption String.quote recorded ++ ", requested " ++ source)))

def recordCloneSource (newName mountPoint source : String) : Op Unit :=
  commandAs ("record clone source on " ++ subvolPath mountPoint newName)
    (xattrSet fs newName "trusted.nasty.clone_source" source)

/-- The image of a block subvolume that was cloned gets a loop device of its own. -/
def attachClone (mountPoint newName : String) (type : SubvolumeType) (fresh : Fresh) : Op Unit :=
  if type = .block then do
    let there ← observe fun host => Host.hasImage host fs newName
    if there then losetup fs newName fresh.loopDevice (imagePath mountPoint newName) else pure ()
  else pure ()

def materializeSubvolFromSnapshot (snapshot dest mountPoint : String) (node : Node) (filter : Option String)
    (fresh : Fresh) : Op Unit := do
  snapshotSubvolume fs snapshot dest false fresh
  filter.elim (pure ()) fun owner =>
    commandAs ("set owner on " ++ subvolPath mountPoint dest) (xattrSet fs dest "user.nasty.owner" owner)
  attachClone fs mountPoint dest node.readMeta.subvolumeType fresh

def cloneSnapshot (subvolume snapshot newName : String) (filter : Option String) (adminOverride : Bool)
    (fresh : Fresh) : Op Subvolume := do
  check (validateExistingSnapshotName subvolume snapshot)
  check (validateSubvolumeName newName)
  let node ← findSnapshot projectIdFor fs subvolume snapshot filter adminOverride
    (.notFound ("snapshot " ++ snapName subvolume snapshot))
  let mountPoint ← fsMountPoint fs
  let source := "snapshot:" ++ node.inode
  let taken ← observe fun host => Host.occupied host fs newName
  if taken then
    let existing ← get projectIdFor fs newName filter
    checkCloneSource fs newName source
    return existing
  else
    materializeSubvolFromSnapshot fs (snapName subvolume snapshot) newName mountPoint node filter fresh
    recordCloneSource fs newName mountPoint source
    get projectIdFor fs newName filter

def cloneSubvolume (name newName : String) (filter : Option String) (fresh : Fresh) : Op Subvolume := do
  check (validateSubvolumeName name)
  check (validateSubvolumeName newName)
  let parent ← get projectIdFor fs name filter
  let mountPoint ← fsMountPoint fs
  let node ← observe fun host => Host.node? host fs name
  let node ← check (okOr node (.notFound name))
  let source := "subvolume:" ++ node.inode
  let taken ← observe fun host => Host.occupied host fs newName
  if taken then
    checkCloneSource fs newName source
    get projectIdFor fs newName none
  else
    -- a flush of the loop device
    let _ ← tried id
    snapshotSubvolume fs name newName false fresh
    writeMetaXattrs fs newName
      { subvolumeType := parent.subvolumeType, volsizeBytes := parent.volsizeBytes, compression := parent.compression
        comments := none, owner := filter, directIo := parent.directIo, blockFilesystem := parent.blockFilesystem
        blockFilesystemUuid := parent.blockFilesystemUuid }
    recordCloneSource fs newName mountPoint source
    attachClone fs mountPoint newName parent.subvolumeType fresh
    get projectIdFor fs newName none

end

structure RollbackSnapshotRequest where
  filesystem : String
  subvolume : String
  snapshot : String
  deriving DecidableEq

structure RollbackResult where
  subvolume : Subvolume
  safetySnapshot : String
  deriving DecidableEq

/-- The seconds since the epoch when the rollback was asked for, and what the system chooses for the safety
snapshot and for the subvolume that is made again. -/
structure RollbackTime where
  now : Nat
  safety : Fresh
  recreated : Fresh
  deriving DecidableEq

def safetyName (now : Nat) : String := "pre-rollback-" ++ toString now

def rollbackTarget (req : RollbackSnapshotRequest) (subvol : Subvolume) (filter : Option String)
    (adminOverride : Bool) : Op Node := do
  let node ← observe fun host => Host.node? host req.filesystem (snapName req.subvolume req.snapshot)
  let node ← check (okOr node (.notFound ("snapshot " ++ snapName req.subvolume req.snapshot)))
  check (authorizeSnapshotProvenance node.owner subvol.owner filter adminOverride)
  let children ← findChildSubvolumes req.filesystem req.subvolume
  check (require (children = []) (.commandFailed ("rollback refused: '" ++ req.subvolume ++
    "' has nested subvolumes (" ++ ", ".intercalate children ++ "). Roll those back individually.")))
  return node

def swap (req : RollbackSnapshotRequest) (mountPoint safety : String) (target : Node) (filter : Option String)
    (fresh : Fresh) : Op Unit := do
  let safetyPath := snapName req.subvolume safety
  mapError (fun e => .commandFailed ("rollback: deleting live subvolume failed (" ++ e ++
    "). Your data is intact in safety snapshot '" ++ safetyPath ++ "'."))
    (deleteSubvolume req.filesystem req.subvolume)
  mapError (fun e => .commandFailed ("rollback: recreating from snapshot failed (" ++ e.display ++
    "). Recover from safety snapshot '" ++ safetyPath ++ "' or the target '@" ++ req.snapshot ++ "'."))
    (materializeSubvolFromSnapshot req.filesystem (snapName req.subvolume req.snapshot) req.subvolume mountPoint target
      filter fresh)

def rollback (req : RollbackSnapshotRequest) (filter : Option String) (adminOverride : Bool) (time : RollbackTime) :
    Op RollbackResult := do
  check (validateExistingSnapshotName req.subvolume req.snapshot)
  let subvol ← get projectIdFor req.filesystem req.subvolume filter
  check (require (subvol.subvolumeType ≠ .block)
    (.commandFailed "rollback is not yet supported for block subvolumes (iSCSI / NVMe-oF / VM disks)"))
  let mountPoint ← fsMountPoint req.filesystem
  let target ← rollbackTarget req subvol filter adminOverride
  let _ ← createSnapshotLocked projectIdFor req.filesystem req.subvolume (safetyName time.now) filter time.safety
  swap req mountPoint (safetyName time.now) target filter time.recreated
  setProjectQuota req.filesystem req.subvolume (projectIdFor req.filesystem req.subvolume) (subvol.quotaBytes.getD 0)
  let recreated ← get projectIdFor req.filesystem req.subvolume none
  return { subvolume := recreated, safetySnapshot := safetyName time.now }

end

end NastyEngine.Volumes
