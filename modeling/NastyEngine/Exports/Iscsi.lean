import NastyEngine.Exports.Lio
import NastyEngine.Lib.Always
import NastyEngine.Rust.Uuid

/-!
Every operation loads the target, changes the kernel's tree step by step and saves the target. Each step may fail.
-/

namespace NastyEngine.Exports
open Lib Rust Fallible
open Volumes (BlockVolumeId)

structure IscsiHost where
  files : Keyed String IscsiTarget := ∅
  /-- What is read under a name that leads out of the directory. -/
  planted : String → Option IscsiTarget := fun _ => none
  lio : Lio := {}
  saved : Lio := {}
  exists? : String → Bool := fun _ => true
  isFile : String → Bool := fun _ => false
  globalIpv6 : Bool := false
  /-- `secrets::encrypt`, by the name of the secret. -/
  encrypt : String → String → String := fun name plain => name ++ ":" ++ plain

abbrev IscsiOp (α : Type) := Fallible IscsiError (Faulty IscsiHost) α

def look : IscsiOp Bool := succeeds (perform fun host : IscsiHost => .ok ((), host))

def configfs (text : String) (op : Lio → Except String Lio) : IscsiOp Unit :=
  mapError (fun e => .configFs (text ++ ": " ++ e))
    (perform fun host => (op host.lio).map fun lio => ((), { host with lio := lio }))

namespace IscsiHost

def stored (host : IscsiHost) (id : String) : Option IscsiTarget :=
  if '/' ∈ id.toList then host.planted id else host.files.lookup id

def put (host : IscsiHost) (target : IscsiTarget) : IscsiHost :=
  if '/' ∈ target.id.toList then { host with planted := Function.update host.planted target.id (some target) }
  else { host with files := host.files.insert target.id target }

def drop (host : IscsiHost) (id : String) : IscsiHost :=
  if '/' ∈ id.toList then { host with planted := Function.update host.planted id none }
  else { host with files := host.files.erase id }

end IscsiHost

def loadAllStrict : IscsiOp (List IscsiTarget) :=
  mapError .io (perform fun host => .ok (host.files.pairs.map (·.2), host))

def load (id : String) : IscsiOp IscsiTarget := do
  let read ← look
  let found ← observe fun host => if read then host.stored id else none
  Fallible.ofExcept (okOr found (.notFound id))

def save (target : IscsiTarget) : IscsiOp Unit := mapError .io (perform fun host => .ok ((), host.put target))

def removeState (id : String) : IscsiOp Unit := mapError .io (perform fun host => .ok ((), host.drop id))

def saveLioConfigChecked : IscsiOp Unit :=
  mapError (fun e => .commandFailed ("targetcli saveconfig: " ++ e))
    (perform fun host => .ok ((), { host with saved := host.lio }))

def saveLioConfig : IscsiOp Unit := ignoreError saveLioConfigChecked

def readTpg (iqn : String) (attr : TpgAttr) : IscsiOp Bool :=
  mapError .io (perform fun host => (okOr (host.lio.tpg? iqn) enoent).map fun tpg => (tpg.get attr, host))

def writeTpg (iqn : String) (attr : TpgAttr) (value : Bool) : IscsiOp Unit :=
  configfs ("write " ++ tpgPath iqn ++ "/" ++ attr.path ++ "=" ++ digit value)
    (·.onTpg iqn fun tpg => .ok (tpg.set value attr))

def aclParts (initiator : String) : List (List Char) :=
  (initiator.toList.splitOn '/').filter fun part => part ≠ [] ∧ part ≠ ['.']

/-- `create_dir_all`: a name with slashes leaves the first part behind and is refused. -/
def mkdirAcl (iqn initiator : String) : IscsiOp Unit :=
  let text := "mkdir " ++ aclPath iqn initiator
  match aclParts initiator with
  | [] => pure ()
  | [part] =>
    if part = ['.', '.'] then pure ()
    else configfs text (·.onTpg iqn fun tpg => .ok (tpg.mkdirAcl (String.ofList part)))
  | part :: _ :: _ => do
    configfs text (·.onTpg iqn fun tpg => .ok (tpg.mkdirAcl (String.ofList part)))
    throw (.configFs (text ++ ": " ++ eperm))

def rmdirEntry (initiator : String) (tpg : Tpg) : Except String Tpg :=
  match aclParts initiator with
  | [part] => tpg.rmdirAcl (String.ofList part)
  | _ => .error enotempty

section
variable (iqn : String)

def rmdirAcl (initiator : String) : IscsiOp Unit :=
  configfs ("rmdir " ++ aclPath iqn initiator) (·.onTpg iqn (rmdirEntry initiator))

def writeAcl (initiator file shown : String) (f : NodeAcl → NodeAcl) : IscsiOp Unit :=
  configfs ("write " ++ aclPath iqn initiator ++ "/" ++ file ++ "=" ++ shown) (·.onTpg iqn fun tpg =>
    match aclParts initiator with
    | [part] => tpg.writeAcl (String.ofList part) f
    | _ => .error enoent)

def mkdirNp (portal : Portal) : IscsiOp Unit :=
  configfs ("mkdir " ++ npPathFor iqn portal) fun lio => .ok (lio.inTpg iqn (·.mkdirNp (npName portal)))

def rmdirNp (portal : Portal) : IscsiOp Unit :=
  configfs ("rmdir " ++ npPathFor iqn portal) (·.onTpg iqn (·.rmdirNp (npName portal)))

def rmdirTpg : IscsiOp Unit := configfs ("rmdir " ++ tpgPath iqn) (·.rmdirTpg iqn)

def rmdirTarget : IscsiOp Unit := configfs ("rmdir " ++ targetPath iqn) (·.rmdirTarget iqn)

end

def nextHbaIndex (type : HbaType) : IscsiOp Nat := do
  let read ← look
  observe fun host => if read then host.lio.nextHbaIndex type else 0

def findBackstoreHba (type : HbaType) (name : String) : IscsiOp (Option Hba) := do
  let read ← look
  observe fun host => if read then host.lio.findBackstoreHba type name else none

def hbaIsEmpty (hba : Hba) : IscsiOp Bool := do
  let read ← look
  observe fun host => if read then ((host.lio.core.lookup hba).getD ∅).entries.isEmpty else true

def removeHba (hba : Hba) : IscsiOp Unit := do
  let unused ← hbaIsEmpty hba
  if unused then ignoreError (configfs ("rmdir " ++ hbaPath hba) (·.rmdirHba hba)) else pure ()

def removeBackstore (lun : Lun) : IscsiOp Unit := do
  let found ← findBackstoreHba (backstoreHbaType lun.backstoreType) lun.backstoreName
  match found with
  | none => pure ()
  | some hba => do
    ignoreError (configfs ("write " ++ bsPath hba lun.backstoreName ++ "/enable=0")
      (·.onBackstore hba lun.backstoreName fun store => { store with enable := false }))
    ignoreError (configfs ("rmdir " ++ bsPath hba lun.backstoreName) (·.rmdirBackstore hba lun.backstoreName))
    removeHba hba

def removeLunDir (iqn : String) (lun : Lun) : IscsiOp Unit := do
  ignoreError (configfs ("unlink " ++ lunPath iqn lun.lunId ++ "/" ++ lun.backstoreName)
    (·.onTpg iqn (·.unlinkLun lun.lunId lun.backstoreName)))
  ignoreError (configfs ("rmdir " ++ lunPath iqn lun.lunId) (·.onTpg iqn (·.rmdirLun lun.lunId)))

structure AddLunRequest where
  targetId : String
  backstorePath : String
  backstoreType : Option String := none
  sizeBytes : Option Nat := none
  backingVolume : Option BlockVolumeId := none
  deriving DecidableEq

def parentOf (path : String) : Option String :=
  match components path with
  | [] => none
  | [['/']] => none
  | parts => some (String.ofList (List.intercalate ['/'] (parts.dropLast.map fun part => if part = ['/'] then [] else part)))

def checkBackstore (host : IscsiHost) (type path : String) : Except IscsiError Unit :=
  if type = "block" then require (host.exists? path = true) (.backstoreNotFound path)
  else if type = "fileio" then
    match parentOf path with
    | none => .ok ()
    | some parent => require (host.exists? parent = true) (.backstoreNotFound parent)
  else .error (.commandFailed ("Unknown backstore type: " ++ type))

def nextLunId (luns : List Lun) : Nat :=
  match (luns.map (·.lunId)).max? with
  | none => 0
  | some highest => (highest + 1) % 2 ^ 32

def controlText (type path : String) (size : Option Nat) : String :=
  if type = "fileio" then "fd_dev_name=" ++ path ++ ",fd_dev_size=" ++ toString (size.getD 1073741824)
  else "udev_path=" ++ path

def makeBackstore (hba : Hba) (name control : String) : IscsiOp Unit := do
  configfs ("mkdir " ++ bsPath hba name) fun lio => .ok (lio.mkdirBackstore hba name)
  configfs ("write " ++ bsPath hba name ++ "/control=" ++ control)
    (·.onBackstore hba name fun store => { store with control := control })
  configfs ("write " ++ bsPath hba name ++ "/enable=1") (·.onBackstore hba name fun store => { store with enable := true })

def linkLun (iqn : String) (lun : Nat) (hba : Hba) (name : String) : IscsiOp Unit := do
  configfs ("mkdir " ++ lunPath iqn lun) fun lio => .ok (lio.inTpg iqn (·.mkdirLun lun))
  configfs ("symlink " ++ lunPath iqn lun ++ "/" ++ name ++ " -> " ++ bsPath hba name) fun lio =>
    if (lio.backstore? hba name).isSome then lio.onTpg iqn (·.symlinkLun lun name (hba, name)) else .error enoent

def addLun (req : AddLunRequest) : IscsiOp IscsiTarget := do
  let target ← load req.targetId
  let type ← observe fun host =>
    req.backstoreType.getD (if host.isFile req.backstorePath then "fileio" else "block")
  let checked ← observe fun host => checkBackstore host type req.backstorePath
  Fallible.ofExcept checked
  let lunId := nextLunId target.luns
  let name := backstoreName target.iqn lunId
  let index ← nextHbaIndex (backstoreHbaType type)
  let hba : Hba := ⟨backstoreHbaType type, index⟩
  makeBackstore hba name (controlText type req.backstorePath req.sizeBytes)
  linkLun target.iqn lunId hba name
  let lun : Lun :=
    { lunId := lunId, backstorePath := req.backstorePath, backstoreName := name, backstoreType := type
      sizeBytes := req.sizeBytes, backingVolume := req.backingVolume }
  let target := { target with luns := target.luns ++ [lun] }
  save target
  saveLioConfig
  return target.redacted

def removeLun (targetId : String) (lunId : Nat) : IscsiOp IscsiTarget := do
  let target ← load targetId
  let lun ← Fallible.ofExcept (okOr (target.luns.find? (·.lunId = lunId)) (.notFound ("LUN " ++ toString lunId ++ " not found")))
  removeLunDir target.iqn lun
  removeBackstore lun
  let target := { target with luns := target.luns.eraseP (·.lunId = lunId) }
  save target
  saveLioConfig
  return target.redacted

structure AddAclRequest where
  targetId : String
  initiatorIqn : String
  userid : Option String := none
  password : Option String := none
  deriving DecidableEq

def chapEnabled (userid password : Option String) : Except IscsiError Bool :=
  match userid, password with
  | none, none => .ok false
  | some userid, some password =>
    if userid ≠ "" ∧ password ≠ "" then .ok true
    else .error (.commandFailed "CHAP username and password must be provided together and must not be empty")
  | _, _ => .error (.commandFailed "CHAP username and password must be provided together and must not be empty")

def sealChapPassword (targetId initiator : String) (plain : Option String) : IscsiOp (Option String × Option String) :=
  match plain.filter (· ≠ "") with
  | none => return (none, none)
  | some plain => do
    let healthy ← look
    let name := "nasty.iscsi." ++ targetId ++ "." ++ initiator ++ ".password"
    let blob ← observe fun host => host.encrypt name plain
    return if healthy then (none, some blob) else (some plain, none)

def configureChap (iqn : String) (req : AddAclRequest) (enableChap : Bool) : IscsiOp Unit :=
  match enableChap, req.userid, req.password with
  | true, some userid, some password => do
    writeAcl iqn req.initiatorIqn "attrib/authentication" "1" fun acl => { acl with authentication := true }
    writeAcl iqn req.initiatorIqn "auth/userid" userid fun acl => { acl with userid := userid }
    writeAcl iqn req.initiatorIqn "auth/password" "<redacted>" fun acl => { acl with password := password }
  | _, _, _ => pure ()

def configureAcl (iqn : String) (req : AddAclRequest) (enableChap : Bool) : IscsiOp Unit := do
  configureChap iqn req enableChap
  writeTpg iqn .generateNodeAcls false
  writeTpg iqn .authentication false

def rollbackNewAcl (iqn initiator : String) (generate enable : Bool) : IscsiOp Unit := do
  writeTpg iqn .enable false
  rmdirAcl iqn initiator
  writeTpg iqn .generateNodeAcls generate
  writeTpg iqn .enable enable

/-- Undo something and report the error; an undoing that fails is reported with its text. -/
def undoing {α : Type} (error : IscsiError) (text : String) (undo : IscsiOp Unit) (rest : IscsiOp α) : IscsiOp α := do
  let undone ← attempt undo
  match undone with
  | .error further => throw (.configFs (error.display ++ text ++ further.display))
  | .ok () => rest

structure Before where
  target : IscsiTarget
  generate : Bool
  enable : Bool

def undoAcl {α : Type} (before : Before) (initiator : String) (error : IscsiError) (rest : IscsiOp α) : IscsiOp α :=
  undoing error "; ACL rollback failed with the TPG disabled: "
    (rollbackNewAcl before.target.iqn initiator before.generate before.enable) rest

def enableAcl (before : Before) (initiator : String) (target : IscsiTarget) : IscsiOp IscsiTarget := do
  let enabled ← attempt (writeTpg target.iqn .enable before.enable)
  match enabled with
  | .error error =>
    undoing error "; failed to restore target state with the TPG disabled: " (save before.target)
      (undoAcl before initiator error (throw error))
  | .ok () => do
    let saved ← attempt saveLioConfigChecked
    match saved with
    | .error error =>
      undoing error "; failed to disable TPG for rollback: " (writeTpg target.iqn .enable false)
        (undoing error "; failed to restore target state with the TPG disabled: " (save before.target)
          (undoAcl before initiator error
            (undoing error "; failed to persist ACL rollback: " saveLioConfigChecked (throw error))))
    | .ok () => return target.redacted

def finishAcl (before : Before) (req : AddAclRequest) (enableChap : Bool) : IscsiOp IscsiTarget := do
  let configured ← attempt (configureAcl before.target.iqn req enableChap)
  match configured with
  | .error error => undoAcl before req.initiatorIqn error (throw error)
  | .ok () => do
    let (password, passwordEncrypted) ← sealChapPassword before.target.id req.initiatorIqn req.password
    let acl : Acl :=
      { initiatorIqn := req.initiatorIqn, userid := req.userid, password := password
        passwordEncrypted := passwordEncrypted }
    let target := { before.target with acls := before.target.acls ++ [acl] }
    let saved ← attempt (save target)
    match saved with
    | .error error => undoAcl before req.initiatorIqn error (throw error)
    | .ok () => enableAcl before req.initiatorIqn target

def addAclLoaded (target : IscsiTarget) (req : AddAclRequest) (enableChap : Bool) : IscsiOp IscsiTarget := do
  Fallible.ofExcept (require (∀ acl ∈ target.acls, eqIgnoreAsciiCase acl.initiatorIqn req.initiatorIqn = false)
    (.alreadyExists req.initiatorIqn))
  let generate ← readTpg target.iqn .generateNodeAcls
  let enable ← readTpg target.iqn .enable
  writeTpg target.iqn .enable false
  let made ← attempt (mkdirAcl target.iqn req.initiatorIqn)
  match made with
  | .error error =>
    undoing error "; failed to restore TPG enable state: " (writeTpg target.iqn .enable enable) (throw error)
  | .ok () => finishAcl ⟨target, generate, enable⟩ req enableChap

def addAcl (req : AddAclRequest) : IscsiOp IscsiTarget := do
  let enableChap ← Fallible.ofExcept (chapEnabled req.userid req.password)
  let target ← load req.targetId
  addAclLoaded target req enableChap

def reopen (target : IscsiTarget) : IscsiOp Unit :=
  if target.acls = [] then writeTpg target.iqn .generateNodeAcls true else pure ()

def saveWithout (target : IscsiTarget) : IscsiOp IscsiTarget := do
  reopen target
  save target
  saveLioConfig
  return target.redacted

def removeAcl (targetId initiator : String) : IscsiOp IscsiTarget := do
  let target ← load targetId
  ignoreError (rmdirAcl target.iqn initiator)
  saveWithout { target with acls := target.acls.filter (·.initiatorIqn ≠ initiator) }

def dismantle (target : IscsiTarget) : IscsiOp Unit := do
  ignoreError (writeTpg target.iqn .enable false)
  target.acls.forM fun acl => ignoreError (rmdirAcl target.iqn acl.initiatorIqn)
  target.luns.forM fun lun => removeLunDir target.iqn lun
  target.portals.forM fun portal => ignoreError (rmdirNp target.iqn portal)
  ignoreError (rmdirTpg target.iqn)
  ignoreError (rmdirTarget target.iqn)
  target.luns.forM removeBackstore

def delete (id : String) : IscsiOp Unit := do
  let target ← load id
  dismantle target
  removeState id
  saveLioConfig

structure AclEntry where
  initiatorIqn : String
  userid : Option String := none
  password : Option String := none
  deriving DecidableEq

structure CreateTargetRequest where
  name : String
  aliasName : Option String := none
  portals : Option (List Portal) := none
  devicePath : Option String := none
  backingVolume : Option BlockVolumeId := none
  acls : Option (List AclEntry) := none
  deriving DecidableEq

def validateTargetName (name : String) : Except IscsiError Unit := do
  require (name ≠ "") (.commandFailed "iSCSI target name is empty")
  require (strLen name.toList ≤ 200) (.commandFailed "iSCSI target name exceeds 200 chars")
  require (name.toList.all fun c => isAsciiAlphanumeric c || c ∈ ['-', '.', '_', ':'])
    (.commandFailed ("iSCSI target name '" ++ name ++
      "' contains invalid characters (allowed: A-Z, a-z, 0-9, '-', '.', '_', ':')"))

def checkAcls : List String → List AclEntry → Except IscsiError Unit
  | _, [] => .ok ()
  | seen, acl :: rest => do
    let _ ← chapEnabled acl.userid acl.password
    let lower := String.ofList (acl.initiatorIqn.toList.map toAsciiLowercase)
    require (lower ∉ seen) (.alreadyExists acl.initiatorIqn)
    checkAcls (lower :: seen) rest

def createNp (iqn : String) (portal : Portal) : IscsiOp Unit := do
  mkdirNp iqn portal
  if portal.iser then do
    let flipped ← attempt (configfs ("write " ++ npPathFor iqn portal ++ "/iser=1")
      (·.onTpg iqn (·.writeNp (npName portal) true)))
    match flipped with
    | .error error => do
      ignoreError (rmdirNp iqn portal)
      throw error
    | .ok () => pure ()
  else pure ()

def cleanupUnpersistedTarget (iqn : String) (portals : List Portal) : IscsiOp Unit := do
  ignoreError (writeTpg iqn .enable false)
  portals.reverse.forM fun portal => ignoreError (rmdirNp iqn portal)
  ignoreError (rmdirTpg iqn)
  ignoreError (rmdirTarget iqn)

/-- What fails before the target is saved takes the target's directories with it. -/
def orUnpersisted {α : Type} (iqn : String) (portals : List Portal) (p : IscsiOp α) : IscsiOp α := do
  let done ← attempt p
  match done with
  | .error error => do
    cleanupUnpersistedTarget iqn portals
    throw error
  | .ok a => return a

def createTargetDirs (iqn : String) : IscsiOp Unit := do
  configfs ("mkdir " ++ iscsiBase) .ok
  configfs ("mkdir " ++ targetPath iqn) (·.mkdirTarget iqn)
  let made ← attempt (configfs ("mkdir " ++ tpgPath iqn) fun lio => .ok (lio.inTpg iqn id))
  match made with
  | .error error => do
    ignoreError (rmdirTarget iqn)
    throw error
  | .ok () => pure ()

def createPortals (iqn : String) : List Portal → List Portal → IscsiOp (List Portal)
  | created, [] => return created
  | created, portal :: rest => do
    orUnpersisted iqn created (createNp iqn portal)
    createPortals iqn (created ++ [portal]) rest

/-- The portal on all IPv6 addresses is only tried. -/
def opportunisticPortal (iqn : String) (wanted : Bool) (created : List Portal) : IscsiOp (List Portal) :=
  if wanted then do
    let portal : Portal := { ip := "::", port := 3260 }
    let made ← succeeds (mkdirNp iqn portal)
    return if made then created ++ [portal] else created
  else return created

def configureTpg (iqn : String) (explicit : Bool) : IscsiOp Unit := do
  writeTpg iqn .authentication false
  writeTpg iqn .generateNodeAcls (!explicit)
  writeTpg iqn .demoModeWriteProtect false
  writeTpg iqn .enable true

def cleanupFailedCreate (id : String) (error : IscsiError) : IscsiOp IscsiError := do
  let deleted ← attempt (delete id)
  match deleted with
  | .error further => return .configFs (error.display ++ "; failed to clean up target: " ++ further.display)
  | .ok () => do
    let saved ← attempt saveLioConfigChecked
    match saved with
    | .error further => return .configFs (error.display ++ "; failed to persist target cleanup: " ++ further.display)
    | .ok () => return error

/-- What fails after the target is saved deletes it. -/
def orCleanUp {α : Type} (id : String) (p : IscsiOp α) : IscsiOp α := do
  let done ← attempt p
  match done with
  | .error error => do
    let error ← cleanupFailedCreate id error
    throw error
  | .ok a => return a

def firstLun (target : IscsiTarget) (req : CreateTargetRequest) : IscsiOp IscsiTarget :=
  match req.devicePath with
  | none => return target
  | some device => orCleanUp target.id (addLun
      { targetId := target.id, backstorePath := device, backstoreType := some "block", backingVolume := req.backingVolume })

def firstAcls : IscsiTarget → List AclEntry → IscsiOp IscsiTarget
  | target, [] => return target
  | target, entry :: rest => do
    let target ← orCleanUp target.id (addAcl
      { targetId := target.id, initiatorIqn := entry.initiatorIqn, userid := entry.userid, password := entry.password })
    firstAcls target rest

def createNew (uuid : List UInt8) (iqn : String) (req : CreateTargetRequest) : IscsiOp IscsiTarget := do
  let globalIpv6 ← observe fun host => host.globalIpv6
  createTargetDirs iqn
  let created ← createPortals iqn [] (req.portals.getD [{ ip := "0.0.0.0", port := 3260 }])
  let created ← opportunisticPortal iqn (req.portals.isNone && globalIpv6) created
  orUnpersisted iqn created (configureTpg iqn req.acls.isSome)
  let target : IscsiTarget := { id := hyphenated uuid, iqn := iqn, aliasName := req.aliasName, portals := created }
  orUnpersisted iqn created (save target)
  saveLioConfig
  let target ← firstLun target req
  let target ← firstAcls target (req.acls.getD [])
  return target.redacted

def targetIqn (name : String) : String := defaultIqnPrefix ++ ":" ++ name

/-- A target that is there already is returned as it is. -/
def create (uuid : List UInt8) (req : CreateTargetRequest) : IscsiOp IscsiTarget := do
  Fallible.ofExcept (validateTargetName req.name)
  Fallible.ofExcept (checkAcls [] (req.acls.getD []))
  let targets ← loadAllStrict
  match targets.find? fun target => eqIgnoreAsciiCase target.iqn (targetIqn req.name) with
  | some existing => return existing.redacted
  | none => createNew uuid (targetIqn req.name) req

end NastyEngine.Exports
