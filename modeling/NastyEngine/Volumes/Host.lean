import Mathlib.Data.List.TakeWhile
import NastyEngine.Lib.Faults
import NastyEngine.Lib.Keyed
import NastyEngine.Rust.Text

/-!
A pool has subvolumes and snapshots, each at a path relative to the mount point, and plain directories.
What the engine knows about a subvolume is in the extended attributes of its directory.
-/

namespace NastyEngine.Volumes
open Lib Rust List

inductive SubvolumeType where
  | filesystem
  | block
  deriving DecidableEq

inductive BlockFilesystem where
  | ext3
  | ext4
  | xfs
  deriving DecidableEq

namespace BlockFilesystem

def asStr : BlockFilesystem → String
  | ext3 => "ext3"
  | ext4 => "ext4"
  | xfs => "xfs"

def parse : String → Option BlockFilesystem
  | "ext3" => some ext3
  | "ext4" => some ext4
  | "xfs" => some xfs
  | _ => none

end BlockFilesystem

inductive SubvolumeError where
  | filesystemNotFound (fs : String)
  | filesystemNotMounted (fs : String)
  | alreadyExists (name : String)
  | notFound (name : String)
  | accessDenied
  | volsizeRequired
  | blockFilesystemRequiresBlock
  | reservedProperty (key : String)
  | existingIncompatible (reason : String)
  | invalidName (reason : String)
  | invalidVolsize (reason : String)
  | invalidStoragePolicy (reason : String)
  | shrinkNotSupported (current requested : Nat)
  | childrenStuck (children : String)
  | loopDetachFailed (device reason : String)
  | commandFailed (message : String)
  | io (message : String)
  deriving DecidableEq

def SubvolumeError.display : SubvolumeError → String
  | filesystemNotFound fs => "filesystem not found: " ++ fs
  | filesystemNotMounted fs => "filesystem not mounted: " ++ fs
  | alreadyExists name => "subvolume already exists: " ++ name
  | notFound name => "subvolume not found: " ++ name
  | accessDenied => "access denied"
  | volsizeRequired => "volsize is required for block subvolumes"
  | blockFilesystemRequiresBlock => "block_filesystem is only valid for block subvolumes"
  | reservedProperty key => "property key is reserved for internal metadata: " ++ key
  | existingIncompatible reason => "existing subvolume is incompatible with the create request: " ++ reason
  | invalidName reason => "invalid name: " ++ reason
  | invalidVolsize reason => "invalid volsize: " ++ reason
  | invalidStoragePolicy reason => "invalid storage policy: " ++ reason
  | shrinkNotSupported current requested =>
    "cannot shrink subvolume from " ++ toString current ++ " to " ++ toString requested ++ " bytes"
  | childrenStuck children => "could not delete child subvolume(s): " ++ children
  | loopDetachFailed device reason => "could not detach loop device " ++ device ++ ": " ++ reason
  | commandFailed message => "command failed: " ++ message
  | io message => "io error: " ++ message

def validateComponent (component : List Char) : Except SubvolumeError Unit := do
  require (component ≠ []) (.invalidName "name must not contain empty path components ('//')")
  require (component ≠ ['.', '.'] ∧ component ≠ ['.']) (.invalidName "name must not contain '.' or '..' components")
  require ('@' ∉ component) (.invalidName "name must not contain '@' (reserved for snapshot syntax)")
  require (component.all (!isControl ·) = true) (.invalidName "name must not contain control characters")

def validateSubvolumeName (name : String) : Except SubvolumeError Unit := do
  require (name ≠ "") (.invalidName "name is empty")
  require (strLen name.toList ≤ 200) (.invalidName "name exceeds 200 chars")
  require (startsWith name "/" = false) (.invalidName "name must not start with '/'")
  require (startsWith name "." = false) (.invalidName "name must not start with '.'")
  (name.toList.splitOn '/').forM validateComponent

def lastComponent (path : String) : List Char := (path.toList.splitOn '/').getLast?.getD []

/-- For a snapshot that may be older than the rules for new ones. -/
def validateExistingSnapshotName (subvolume snapshot : String) : Except SubvolumeError Unit := do
  validateSubvolumeName subvolume
  require (snapshot ≠ "") (.invalidName "snapshot name is empty")
  require ('/' ∉ snapshot.toList) (.invalidName "snapshot name must be one path component")
  require (snapshot.toList.all (!isControl ·) = true) (.invalidName "snapshot name must not contain control characters")
  require (strLen (lastComponent subvolume) + 1 + strLen snapshot.toList ≤ 255)
    (.invalidName "combined subvolume@snapshot name exceeds 255 bytes")

def validateSnapshotName (subvolume snapshot : String) : Except SubvolumeError Unit := do
  validateExistingSnapshotName subvolume snapshot
  require (strLen snapshot.toList ≤ 200) (.invalidName "snapshot name exceeds 200 bytes")
  require (startsWith snapshot "." = false) (.invalidName "snapshot name must not start with '.'")
  require ('@' ∉ snapshot.toList) (.invalidName "snapshot name must not contain '@'")

def subvolPath (mountPoint name : String) : String := mountPoint ++ "/" ++ name

def snapName (subvolume snapshot : String) : String := subvolume ++ "@" ++ snapshot

def snapPath (mountPoint subvolume snapshot : String) : String := subvolPath mountPoint (snapName subvolume snapshot)

/-- `lower` is a path below the directory `upper`. -/
def Below (upper lower : String) : Prop := startsWith lower (upper ++ "/") = true

instance (upper lower : String) : Decidable (Below upper lower) := inferInstanceAs (Decidable (_ = _))

/-- The directory that has the entry; the mount point is the empty path. -/
def parentPath (path : String) : String := String.ofList (path.toList.reverse.dropWhile (· ≠ '/')).tail.reverse

theorem below_iff {upper lower : String} : Below upper lower ↔ upper.toList ++ ['/'] <+: lower.toList := by
  rw [Below, startsWith, isPrefixOf_iff_prefix, String.toList_append]
  rfl

theorem below_trans {a b c : String} (first : Below a b) (second : Below b c) : Below a c := by
  rw [below_iff] at first second ⊢
  exact first.trans ((prefix_append _ _).trans second)

theorem below_total {a b c : String} (first : Below a c) (second : Below b c) : a = b ∨ Below a b ∨ Below b a := by
  rw [below_iff] at first second
  have shorter : ∀ {a b : String}, a.toList ++ ['/'] <+: b.toList ++ ['/'] → a = b ∨ Below a b := by
    intro a b within
    rcases prefix_concat_iff.mp within with eq | within
    · exact .inl (String.toList_inj.mp (append_cancel_right eq))
    · exact .inr (below_iff.mpr within)
  rcases prefix_or_prefix_of_prefix first second with within | within
  · exact (shorter within).imp_right .inl
  · rcases shorter within with eq | below
    · exact .inl eq.symm
    · exact .inr (.inr below)

variable {path : String}

theorem parentPath_of_split {dir name : List Char} (split : path.toList = dir ++ '/' :: name)
    (single : '/' ∉ name) : parentPath path = String.ofList dir := by
  have stop : (path.toList.reverse.dropWhile (· ≠ '/')) = '/' :: dir.reverse := by
    rw [split, reverse_append, reverse_cons, append_assoc, singleton_append, dropWhile_append_of_pos]
    · rfl
    · intro c mem
      have ne : c ≠ '/' := fun eq => single (eq ▸ mem_reverse.mp mem)
      simpa using ne
  rw [parentPath, stop, tail_cons, reverse_reverse]

theorem exists_last_split {path : List Char} (mem : '/' ∈ path) : ∃ dir name, path = dir ++ '/' :: name ∧ '/' ∉ name := by
  obtain ⟨name, dir, eq, single⟩ := eq_append_cons_of_mem (mem_reverse.mpr mem)
  refine ⟨dir.reverse, name.reverse, ?_, fun mem => single (mem_reverse.mp mem)⟩
  rw [← reverse_reverse path, eq, reverse_append, reverse_cons, append_assoc]
  rfl

theorem below_parentPath (inner : parentPath path ≠ "") : Below (parentPath path) path := by
  by_cases mem : '/' ∈ path.toList
  · obtain ⟨dir, name, split, single⟩ := exists_last_split mem
    rw [below_iff, parentPath_of_split split single, split, String.toList_ofList]
    exact ⟨name, by simp⟩
  · exfalso
    apply inner
    have none : path.toList.reverse.dropWhile (· ≠ '/') = [] := by
      rw [dropWhile_eq_nil_iff]
      intro c mem'
      have ne : c ≠ '/' := fun eq => mem (eq ▸ mem_reverse.mp mem')
      simpa using ne
    rw [parentPath, none]
    rfl

theorem below_parent {upper : String} (below : Below upper path) :
    upper = parentPath path ∨ Below upper (parentPath path) := by
  obtain ⟨rest, eq⟩ := below_iff.mp below
  rw [append_assoc, singleton_append] at eq
  by_cases mem : '/' ∈ rest
  · obtain ⟨dir, name, rfl, single⟩ := exists_last_split mem
    have split : path.toList = (upper.toList ++ '/' :: dir) ++ '/' :: name := by
      rw [← eq, append_assoc]
      rfl
    right
    rw [below_iff, parentPath_of_split split single, String.toList_ofList]
    exact ⟨dir, by simp⟩
  · left
    rw [parentPath_of_split eq.symm mem, String.ofList_toList]

abbrev Xattrs := Keyed String String

namespace Xattrs

variable (xattrs : Xattrs)

def within (ns : String) : List (String × String) :=
  xattrs.pairs.filterMap fun (key, value) => (stripStart ns key).map (·, value)

def properties : List (String × String) :=
  (xattrs.within "user.").filter fun (key, _) => !startsWith key "nasty."

def bcachefsOptions : List (String × String) := xattrs.within "bcachefs_effective."

def bcachefsOverrides : List (String × String) := xattrs.within "bcachefs."

end Xattrs

structure SubvolumeMeta where
  subvolumeType : SubvolumeType
  volsizeBytes : Option Nat
  compression : Option String
  comments : Option String
  owner : Option String
  directIo : Bool
  blockFilesystem : Option BlockFilesystem
  blockFilesystemUuid : Option String
  deriving DecidableEq

structure Image where
  size : Nat
  allocated : Nat
  deriving DecidableEq

structure Node where
  subvolid : Option Nat := none
  readOnly : Bool := false
  snapshotParent : Option String := none
  otimeUnix : Option Int := none
  inode : String := ""
  xattrs : Xattrs := ∅
  mode : Nat := 0o755
  project : Nat := 0
  image : Option Image := none
  files : List (String × String) := []
  deriving DecidableEq

structure Quota where
  usedBytes : Nat
  hardBytes : Nat
  deriving DecidableEq

structure Pool where
  uuid : String
  mountPoint : Option String
  dataReplicas : Option Nat := none
  erasureCode : Option Bool := none
  encrypted : Option Bool := none
  nodes : Keyed String Node := ∅
  /-- The plain directories, each with the options that take effect in it. -/
  dirs : Keyed String (List (String × String)) := ∅
  quotas : Keyed Nat Quota := ∅
  deriving DecidableEq

structure BlockVolumeId where
  filesystemUuid : String
  subvolumeId : Nat
  deriving DecidableEq

structure Lun where
  backstorePath : String
  backingVolume : Option BlockVolumeId := none
  deriving DecidableEq

structure IscsiTarget where
  iqn : String
  luns : List Lun
  deriving DecidableEq

structure NvmeNamespace where
  devicePath : String
  backingVolume : Option BlockVolumeId := none
  deriving DecidableEq

structure NvmeSubsystem where
  nqn : String
  namespaces : List NvmeNamespace
  deriving DecidableEq

/-- `path` may be a loop device, which has another number after a boot; `source` is then the file behind it. -/
structure VmDisk where
  path : String
  source : Option String := none
  deriving DecidableEq

structure Vm where
  name : String
  disks : List VmDisk
  cdroms : List String := []
  deriving DecidableEq

/-- Known by the id of an NFS share or the name of an SMB share. -/
structure Share where
  name : String
  path : String
  deriving DecidableEq

structure BackupJob where
  name : String
  sources : List String
  deriving DecidableEq

structure AppsConfig where
  enabled : Bool := false
  readable : Bool := true
  storagePath : Option String := none
  appdataPath : Option String := none
  apps : List String := []
  deriving DecidableEq

/-- A file in the state directory of a service, which may not be readable now. -/
structure Stored (α : Type) where
  item : α
  readable : Bool := true
  deriving DecidableEq

/-- What the other services keep, and what may refer to a subvolume. -/
structure Services where
  vms : List (Stored Vm) := []
  iscsi : List (Stored IscsiTarget) := []
  nvmeof : List (Stored NvmeSubsystem) := []
  nfs : List (Stored Share) := []
  smb : List (Stored Share) := []
  apps : AppsConfig := {}
  backups : List BackupJob := []
  deriving DecidableEq

structure Host where
  pools : Keyed String Pool := ∅
  loops : Keyed String String := ∅
  services : Services := {}
  /-- The volume behind each loop device when the engine looked first after the boot. -/
  evidence : Option (Keyed String BlockVolumeId) := none
  deriving DecidableEq

namespace Node

def readMeta (node : Node) : SubvolumeMeta where
  subvolumeType := match node.xattrs.lookup "user.nasty.type" with
    | some "block" => .block
    | some "filesystem" => .filesystem
    | _ => if node.image.isSome then .block else .filesystem
  volsizeBytes := (node.xattrs.lookup "user.nasty.volsize").bind fun s => fromStrRadix 10 (2 ^ 64) s.toList
  compression := node.xattrs.lookup "user.nasty.compression"
  comments := node.xattrs.lookup "user.nasty.comment"
  owner := node.xattrs.lookup "user.nasty.owner"
  directIo := node.xattrs.lookup "user.nasty.direct_io" = some "true"
  blockFilesystem := (node.xattrs.lookup "trusted.nasty.block_filesystem").bind BlockFilesystem.parse
  blockFilesystemUuid := node.xattrs.lookup "trusted.nasty.block_filesystem_uuid"

def owner (node : Node) : Option String := node.readMeta.owner

/-- A read-only snapshot; a writable one counts as a subvolume. -/
def isSnapshot (node : Node) : Bool := node.snapshotParent.isSome && node.readOnly

def parentName (node : Node) : Option String :=
  node.snapshotParent.map fun parent => (stripStart "/" parent).getD parent

def creating (node : Node) : Bool := node.xattrs.lookup "trusted.nasty.provisioning_state" = some "creating"

end Node

namespace Pool

def occupied (pool : Pool) (path : String) : Bool := path = "" || path ∈ pool.nodes || path ∈ pool.dirs

def optionsAt (pool : Pool) (path : String) : List (String × String) :=
  match pool.nodes.lookup path with
  | some node => node.xattrs.bcachefsOptions
  | none => (pool.dirs.lookup path).getD []

end Pool

end NastyEngine.Volumes
