import NastyEngine.Rust.Path
import NastyEngine.Volumes.Host

/-!
The persisted targets, and what the kernel shows below `/sys/kernel/config/target`: the backstores by their host
bus adapters, and the targets with their portal groups. An operation on the tree is refused with a text, or takes effect.
-/

namespace NastyEngine.Exports
open Lib Rust
open Volumes (BlockVolumeId)

inductive IscsiError where
  | notFound (what : String)
  | alreadyExists (what : String)
  | backstoreNotFound (path : String)
  | invalidBackingVolume (why : String)
  | configFs (text : String)
  | commandFailed (text : String)
  | io (text : String)
  deriving DecidableEq

def IscsiError.display : IscsiError → String
  | notFound what => "target not found: " ++ what
  | alreadyExists what => "target already exists: " ++ what
  | backstoreNotFound path => "backing device/file not found: " ++ path
  | invalidBackingVolume why => "LUN backing volume cannot be repaired: " ++ why
  | configFs text => "configfs error: " ++ text
  | commandFailed text => "command failed: " ++ text
  | io text => "io error: " ++ text

structure Portal where
  ip : String
  port : Nat
  iser : Bool := false
  deriving DecidableEq

structure Lun where
  lunId : Nat
  backstorePath : String
  backstoreName : String
  backstoreType : String
  sizeBytes : Option Nat := none
  backingVolume : Option BlockVolumeId := none
  backingVolumeUnresolved : Bool := false
  deriving DecidableEq

structure Acl where
  initiatorIqn : String
  userid : Option String := none
  password : Option String := none
  passwordEncrypted : Option String := none
  deriving DecidableEq

structure IscsiTarget where
  id : String
  iqn : String
  aliasName : Option String := none
  portals : List Portal := []
  luns : List Lun := []
  acls : List Acl := []
  enabled : Bool := true
  deriving DecidableEq

def Acl.redacted (acl : Acl) : Acl :=
  { acl with
    password := if acl.password.isSome || acl.passwordEncrypted.isSome then some "***" else none
    passwordEncrypted := none }

def IscsiTarget.redacted (target : IscsiTarget) : IscsiTarget := { target with acls := target.acls.map (·.redacted) }

inductive HbaType where
  | iblock
  | fileio
  deriving DecidableEq

structure Hba where
  type : HbaType
  index : Nat
  deriving DecidableEq

structure Backstore where
  control : String := ""
  enable : Bool := false
  deriving DecidableEq

structure NodeAcl where
  authentication : Bool := false
  userid : String := ""
  password : String := ""
  deriving DecidableEq

structure Tpg where
  authentication : Bool := true
  generateNodeAcls : Bool := false
  demoModeWriteProtect : Bool := true
  enable : Bool := false
  portals : Keyed String Bool := ∅
  acls : Keyed String NodeAcl := ∅
  luns : Keyed Nat (Keyed String (Hba × String)) := ∅
  deriving DecidableEq

structure Lio where
  core : Keyed Hba (Keyed String Backstore) := ∅
  /-- By their names; a target may have no portal group. -/
  targets : Keyed String (Option Tpg) := ∅
  deriving DecidableEq

inductive TpgAttr where
  | authentication
  | generateNodeAcls
  | demoModeWriteProtect
  | enable
  deriving DecidableEq

namespace TpgAttr

def path : TpgAttr → String
  | authentication => "attrib/authentication"
  | generateNodeAcls => "attrib/generate_node_acls"
  | demoModeWriteProtect => "attrib/demo_mode_write_protect"
  | enable => "enable"

end TpgAttr

def enoent : String := "No such file or directory (os error 2)"
def eperm : String := "Operation not permitted (os error 1)"
def ebusy : String := "Device or resource busy (os error 16)"
def eexist : String := "File exists (os error 17)"
def enotempty : String := "Directory not empty (os error 39)"

namespace Tpg

def get (tpg : Tpg) : TpgAttr → Bool
  | .authentication => tpg.authentication
  | .generateNodeAcls => tpg.generateNodeAcls
  | .demoModeWriteProtect => tpg.demoModeWriteProtect
  | .enable => tpg.enable

def set (tpg : Tpg) (value : Bool) : TpgAttr → Tpg
  | .authentication => { tpg with authentication := value }
  | .generateNodeAcls => { tpg with generateNodeAcls := value }
  | .demoModeWriteProtect => { tpg with demoModeWriteProtect := value }
  | .enable => { tpg with enable := value }

/-- Whoever has an access list entry may log in, and everybody if entries are generated. -/
def Admits (tpg : Tpg) (initiator : String) : Prop :=
  tpg.enable = true ∧ (tpg.generateNodeAcls = true ∨ initiator ∈ tpg.acls)

instance (tpg : Tpg) (initiator : String) : Decidable (tpg.Admits initiator) :=
  inferInstanceAs (Decidable (_ ∧ (_ ∨ _)))

variable (tpg : Tpg)

def mkdirAcl (initiator : String) : Tpg :=
  if initiator ∈ tpg.acls then tpg else { tpg with acls := tpg.acls.insert initiator {} }

def rmdirAcl (initiator : String) : Except String Tpg :=
  if initiator ∈ tpg.acls then .ok { tpg with acls := tpg.acls.erase initiator } else .error enoent

def writeAcl (initiator : String) (f : NodeAcl → NodeAcl) : Except String Tpg :=
  if initiator ∈ tpg.acls then .ok { tpg with acls := tpg.acls.modify initiator f } else .error enoent

def mkdirLun (lun : Nat) : Tpg := if lun ∈ tpg.luns then tpg else { tpg with luns := tpg.luns.insert lun ∅ }

def symlinkLun (lun : Nat) (link : String) (backstore : Hba × String) : Except String Tpg :=
  match tpg.luns.lookup lun with
  | none => .error enoent
  | some links =>
    if link ∈ links then .error eexist
    else .ok { tpg with luns := tpg.luns.insert lun (links.insert link backstore) }

def unlinkLun (lun : Nat) (link : String) : Except String Tpg :=
  match tpg.luns.lookup lun with
  | none => .error enoent
  | some links =>
    if link ∈ links then .ok { tpg with luns := tpg.luns.insert lun (links.erase link) } else .error enoent

def rmdirLun (lun : Nat) : Except String Tpg :=
  match tpg.luns.lookup lun with
  | none => .error enoent
  | some links => if links.entries = [] then .ok { tpg with luns := tpg.luns.erase lun } else .error ebusy

def mkdirNp (np : String) : Tpg :=
  if np ∈ tpg.portals then tpg else { tpg with portals := tpg.portals.insert np false }

def writeNp (np : String) (iser : Bool) : Except String Tpg :=
  if np ∈ tpg.portals then .ok { tpg with portals := tpg.portals.insert np iser } else .error enoent

def rmdirNp (np : String) : Except String Tpg :=
  if np ∈ tpg.portals then .ok { tpg with portals := tpg.portals.erase np } else .error enoent

def empty : Bool := tpg.portals.entries.isEmpty && tpg.acls.entries.isEmpty && tpg.luns.entries.isEmpty

end Tpg

namespace Lio

variable (lio : Lio)

section
variable (iqn : String)

def tpg? : Option Tpg := (lio.targets.lookup iqn).join

def setTpg (tpg : Tpg) : Lio := { lio with targets := lio.targets.insert iqn (some tpg) }

def onTpg (f : Tpg → Except String Tpg) : Except String Lio :=
  match lio.tpg? iqn with
  | none => .error enoent
  | some tpg => (f tpg).map (lio.setTpg iqn)

/-- `create_dir_all` makes the portal group where it is missing. -/
def inTpg (f : Tpg → Tpg) : Lio := lio.setTpg iqn (f ((lio.tpg? iqn).getD {}))

def mkdirTarget : Except String Lio :=
  if iqn ∈ lio.targets then .error eexist else .ok { lio with targets := lio.targets.insert iqn none }

def rmdirTpg : Except String Lio :=
  match lio.tpg? iqn with
  | none => .error enoent
  | some tpg => if tpg.empty then .ok { lio with targets := lio.targets.insert iqn none } else .error enotempty

def rmdirTarget : Except String Lio :=
  match lio.targets.lookup iqn with
  | none => .error enoent
  | some (some _) => .error enotempty
  | some none => .ok { lio with targets := lio.targets.erase iqn }

end

section
variable (hba : Hba) (name : String)

def backstore? : Option Backstore := (lio.core.lookup hba).bind (·.lookup name)

def mkdirBackstore : Lio :=
  let stores := (lio.core.lookup hba).getD ∅
  if name ∈ stores then lio else { lio with core := lio.core.insert hba (stores.insert name {}) }

def onBackstore (f : Backstore → Backstore) : Except String Lio :=
  match lio.core.lookup hba with
  | none => .error enoent
  | some stores =>
    if name ∈ stores then .ok { lio with core := lio.core.insert hba (stores.modify name f) } else .error enoent

def linked : Bool :=
  lio.targets.pairs.any fun (_, tpg) => tpg.any fun tpg =>
    tpg.luns.pairs.any fun (_, links) => links.pairs.any fun (_, backstore) => backstore = (hba, name)

def rmdirBackstore : Except String Lio :=
  match lio.core.lookup hba with
  | none => .error enoent
  | some stores =>
    if name ∉ stores then .error enoent
    else if lio.linked hba name then .error ebusy
    else .ok { lio with core := lio.core.insert hba (stores.erase name) }

end

def rmdirHba (hba : Hba) : Except String Lio :=
  match lio.core.lookup hba with
  | none => .error enoent
  | some stores => if stores.entries = [] then .ok { lio with core := lio.core.erase hba } else .error enotempty

def hbas (type : HbaType) : List (Nat × Keyed String Backstore) :=
  lio.core.pairs.filterMap fun (hba, stores) => if hba.type = type then some (hba.index, stores) else none

/-- `next_hba_index`, on a directory that was read. -/
def nextHbaIndex (type : HbaType) : Nat :=
  match ((lio.hbas type).map (·.1)).max? with
  | none => 0
  | some index => (index + 1) % 2 ^ 32

/-- `find_backstore_hba`, on a directory that was read: the first adapter that has the name. -/
def findBackstoreHba (type : HbaType) (name : String) : Option Hba :=
  ((lio.hbas type).find? fun (_, stores) => name ∈ stores).map fun (index, _) => ⟨type, index⟩

end Lio

def defaultIqnPrefix : String := "iqn.2137-04.storage.nasty"
def iscsiBase : String := "/sys/kernel/config/target/iscsi"
def coreBase : String := "/sys/kernel/config/target/core"

def digit (value : Bool) : String := if value then "1" else "0"

def HbaType.name : HbaType → String
  | .iblock => "iblock"
  | .fileio => "fileio"

def targetPath (iqn : String) : String := iscsiBase ++ "/" ++ iqn
def tpgPath (iqn : String) : String := targetPath iqn ++ "/tpgt_1"
def aclPath (iqn initiator : String) : String := tpgPath iqn ++ "/acls/" ++ initiator
def lunPath (iqn : String) (lun : Nat) : String := tpgPath iqn ++ "/lun/lun_" ++ toString lun
def hbaPath (hba : Hba) : String := coreBase ++ "/" ++ hba.type.name ++ "_" ++ toString hba.index
def bsPath (hba : Hba) (name : String) : String := hbaPath hba ++ "/" ++ name

def npName (portal : Portal) : String :=
  if ':' ∈ portal.ip.toList then "[" ++ portal.ip ++ "]:" ++ toString portal.port
  else portal.ip ++ ":" ++ toString portal.port

def npPathFor (iqn : String) (portal : Portal) : String := tpgPath iqn ++ "/np/" ++ npName portal

def backstoreHbaType (type : String) : HbaType := if type = "fileio" then .fileio else .iblock

def afterColon (iqn : String) : String := String.ofList ((iqn.toList.splitOn ':').getLastD [])

def backstoreName (iqn : String) (lun : Nat) : String := "nasty_" ++ afterColon iqn ++ "_lun" ++ toString lun

end NastyEngine.Exports
