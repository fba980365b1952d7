import NastyEngine.Auth.Operations
import NastyEngine.Volumes.Dependents

/-!
The dispatcher checks the role of the session. The handlers check the filesystem that a session is
restricted to, and hand the owner it is restricted to on to the operations.
-/

namespace NastyEngine.Volumes
open Lib Rust Auth Fallible

inductive Request where
  | listAll
  | listDependents
  | list (fs : String)
  | get (fs name : String)
  | children (fs name : String)
  | findByProperty (fs : Option String) (key value : String)
  | listSnapshots (fs : String)
  | create (req : CreateSubvolumeRequest)
  | delete (fs name : String)
  | attach (fs name : String)
  | detach (fs name : String)
  | resize (fs name : String) (volsizeBytes : Nat)
  | update (req : UpdateSubvolumeRequest)
  | clone (fs name newName : String)
  | setProperties (fs name : String) (properties : List (String × String))
  | removeProperties (fs name : String) (keys : List String)
  | createSnapshot (fs subvolume name : String)
  | deleteSnapshot (fs subvolume name : String)
  | cloneSnapshot (fs subvolume snapshot newName : String)
  | rollback (fs subvolume snapshot : String)
  deriving DecidableEq

inductive Response where
  | subvolumes (list : List Subvolume)
  | subvolume (subvolume : Subvolume)
  | names (names : List String)
  | snapshots (list : List Snapshot)
  | snapshot (snapshot : Snapshot)
  | dependents (list : List SubvolumeDependents)
  | done
  deriving DecidableEq

inductive ApiError where
  | refused (message : String)
  | storage (e : SubvolumeError)
  deriving DecidableEq

abbrev Api (α : Type) := Fallible ApiError (Faulty Host) α

abbrev storage {α : Type} (p : Op α) : Api α := mapError .storage p

abbrev grant (r : Except ApiError Unit) : Api Unit := Fallible.ofExcept r

def Request.isReadOnly : Request → Bool
  | .listAll | .listDependents | .list _ | .get _ _ | .children _ _ | .findByProperty _ _ _ | .listSnapshots _ => true
  | _ => false

def Request.isOperatorAllowed : Request → Bool
  | .rollback _ _ _ => false
  | _ => true

def Request.allowed (req : Request) : Role → Bool
  | .admin => true
  | .readOnly => req.isReadOnly
  | .operator => req.isOperatorAllowed
  | .user => false

def dispatch (session : Session) (req : Request) : Except ApiError Unit := do
  require (session.mustChangePassword = false) (.refused "Password change required")
  require (req.allowed session.role = true) (.refused "Permission denied")

abbrev Covers (session : Session) (fs : String) : Prop := session.filesystem.all (· = fs) = true

def filesystemScope (session : Session) (fs : String) : Except ApiError Unit :=
  require (session.filesystem.all (· = fs)) (.refused "access denied")

def effectiveFs (session : Session) (requested : Option String) : Except ApiError (Option String) :=
  match session.filesystem, requested with
  | some scope, some fs => if scope = fs then .ok (some fs) else .error (.refused "access denied")
  | some scope, none => .ok (some scope)
  | none, requested => .ok requested

def requireRootEquivalent (session : Session) : Except ApiError Unit := do
  require (session.mustChangePassword = false) (.refused "Password change required")
  require (session.role = .admin) (.refused "Permission denied")
  require (session.filesystem = none ∧ session.owner = none) (.refused "Scoped credentials cannot access this endpoint")

def refuseInUse (conflict : Option String) : Except ApiError Unit :=
  match conflict with
  | some reason => .error (.refused reason)
  | none => .ok ()

section
variable (projectIdFor : String → String → Nat)
variable (rollbackWithDependents : String → String → String → Api Response)

def findByProperty (fs : Option String) (key value : String) (filter : Option String) : Op (List Subvolume) := do
  let all ← listAll projectIdFor fs filter
  return all.filter fun sv => sv.properties.lookup key = some value

def route (session : Session) (fresh : Fresh) : Request → Api Response
  | .listAll => return .subvolumes (← storage (listAll projectIdFor session.filesystem session.owner))
  | .listDependents => do
    let all ← storage (findAllSubvolumeDependents projectIdFor)
    return .dependents (all.filter fun d => session.filesystem.all (d.filesystem = ·))
  | .list fs => do
    grant (filesystemScope session fs)
    return .subvolumes (← storage (list projectIdFor fs session.owner))
  | .get fs name => do
    grant (filesystemScope session fs)
    return .subvolume (← storage (get projectIdFor fs name session.owner))
  | .children fs name => return .names (← storage (listChildren fs name))
  | .findByProperty requested key value => do
    let fs ← Fallible.ofExcept (effectiveFs session requested)
    return .subvolumes (← storage (findByProperty projectIdFor fs key value session.owner))
  | .listSnapshots fs => do
    grant (filesystemScope session fs)
    return .snapshots (← storage (listSnapshots projectIdFor fs session.owner))
  | .create req => do
    grant (filesystemScope session req.filesystem)
    return .subvolume (← storage (create projectIdFor req session.owner fresh))
  | .delete fs name => do
    grant (filesystemScope session fs)
    let conflict ← storage (checkSubvolumeInUse projectIdFor fs name)
    grant (refuseInUse conflict)
    storage (delete projectIdFor fs name session.owner)
    return .done
  | .attach fs name => do
    grant (filesystemScope session fs)
    return .subvolume (← storage (attach projectIdFor fs name session.owner fresh))
  | .detach fs name => do
    grant (filesystemScope session fs)
    return .subvolume (← storage (detach projectIdFor fs name session.owner))
  | .resize fs name volsizeBytes => do
    grant (filesystemScope session fs)
    return .subvolume (← storage (resize projectIdFor fs name volsizeBytes session.owner))
  | .update req => do
    grant (filesystemScope session req.filesystem)
    return .subvolume (← storage (update projectIdFor req session.owner))
  | .clone fs name newName => do
    grant (filesystemScope session fs)
    return .subvolume (← storage (cloneSubvolume projectIdFor fs name newName session.owner fresh))
  | .setProperties fs name properties => do
    grant (filesystemScope session fs)
    return .subvolume (← storage (setProperties projectIdFor fs name properties session.owner))
  | .removeProperties fs name keys => do
    grant (filesystemScope session fs)
    return .subvolume (← storage (removeProperties projectIdFor fs name keys session.owner))
  | .createSnapshot fs subvolume name => do
    grant (filesystemScope session fs)
    return .snapshot (← storage (createSnapshot projectIdFor fs subvolume name session.owner fresh))
  | .deleteSnapshot fs subvolume name => do
    grant (filesystemScope session fs)
    storage (deleteSnapshot projectIdFor fs subvolume name session.owner (session.role = .admin))
    return .done
  | .cloneSnapshot fs subvolume snapshot newName => do
    grant (filesystemScope session fs)
    return .subvolume (← storage
      (cloneSnapshot projectIdFor fs subvolume snapshot newName session.owner (session.role = .admin) fresh))
  | .rollback fs subvolume snapshot => do
    grant (requireRootEquivalent session)
    grant (filesystemScope session fs)
    rollbackWithDependents fs subvolume snapshot

def serve (session : Session) (fresh : Fresh) (req : Request) : Api Response := do
  grant (dispatch session req)
  route projectIdFor rollbackWithDependents session fresh req

def Host.unmountPool (fs : String) (host : Host) : Host := host.modifyPool fs fun pool => { pool with mountPoint := none }

def Host.erasePool (fs : String) (host : Host) : Host := { host with pools := host.pools.erase fs }

/-- The devices whose file is below the mount point; `--raw` shows a file as one word. -/
def loopDevicesBackedBy (loops : Keyed String String) (mountPoint : String) : List String :=
  let trimmed := String.ofList (mountPoint.toList.reverse.dropWhile (· = '/')).reverse
  loops.pairs.filterMap fun (device, file) => if Below trimmed file then some device else none

def detachFilesystemLoopDevices (mountPoint : String) : Fallible String (Faulty Host) Unit := do
  external id
  let devices ← observe fun host : Host => loopDevicesBackedBy host.loops mountPoint
  devices.forM fun device => mapError
    (fun e => "failed to detach " ++ device ++ " before unmounting " ++ mountPoint ++ ": " ++ e)
    (external (Host.detachLoop device))

def unmountForDestroy (fs mountPoint : String) : Fallible String (Faulty Host) Unit := do
  -- the mount point has the UUID of the pool
  external id
  detachFilesystemLoopDevices mountPoint
  external (Host.unmountPool fs)

/-- The steps of `destroy`; the superblocks of the members are wiped as one step. -/
def destroyFilesystem (fs confirmName : String) : Fallible String (Faulty Host) Unit := do
  Fallible.ofExcept (require (confirmName = fs) "confirmation name does not match filesystem name")
  external id
  let pool ← observe fun host : Host => host.pools.lookup fs
  let pool ← Fallible.ofExcept (okOr pool ("filesystem not found: " ++ fs))
  -- the members have the UUID of the pool
  external id
  pool.mountPoint.elim (pure ()) (unmountForDestroy fs)
  let _ ← succeeds (external (Host.unmountPool fs))
  external (Host.erasePool fs)

def serveDestroy (fs confirmName : String) : Api Unit := do
  let conflict ← storage (checkFilesystemInUse projectIdFor fs)
  grant (refuseInUse conflict)
  mapError .refused (destroyFilesystem fs confirmName)

end

end NastyEngine.Volumes
