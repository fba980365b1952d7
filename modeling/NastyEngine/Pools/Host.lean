import NastyEngine.Lib.Faults
import NastyEngine.Pools.Machine
import NastyEngine.Storage.Requests

/-!
`fs-state.json` has an entry for each pool that the engine knows by name, with the UUID it is bound to.
Every change loads the whole file and writes it again. A file that cannot be read or parsed counts as
empty, except where a pool is forgotten.
-/

namespace NastyEngine.Pools
open Lib Rust Fallible
open Storage (FilesystemError CreateFilesystemRequest)

structure FsMountOptions where
  uuid : Option String := none
  devices : List String := []
  mounted : Option Bool := none
  encrypted : Option Bool := none
  versionUpgrade : Option String := none
  degraded : Option Bool := none
  verbose : Option Bool := none
  fsck : Option Bool := none
  journalFlushDisabled : Option Bool := none
  journalFlushDelay : Option Nat := none
  legacyIoScheduler : Option String := none
  deriving DecidableEq

abbrev FsState := Keyed String FsMountOptions

/-- What is in the file: nothing, a state, or what cannot be read or parsed as one, with the entries still in it. -/
inductive Content where
  | missing
  | broken (held : FsState)
  | state (entries : FsState)
  deriving DecidableEq

def Content.readable : Content → Bool
  | broken _ => false
  | missing | state _ => true

structure Registry where
  content : Content := .missing
  writers : Nat := 0
  deriving DecidableEq

structure Filesystem where
  name : String
  uuid : String
  devices : List String
  mountPoint : Option String
  mounted : Bool
  encrypted : Option Bool := none
  deriving DecidableEq

structure Host where
  machine : Machine := .blank
  registry : Registry := {}
  dirs : List String := []
  keyring : List String := []
  keys : Keyed String String := ∅
  /-- The files `<name>.tpm`, each with what was sealed. -/
  sealedKeys : Keyed String String := ∅
  listCache : Option (List Filesystem) := none
  /-- Whether the kernel shows a source as one path by UUID. -/
  showsByUuid : Bool := false

def display : FilesystemError → String
  | .commandFailed message => "bcachefs command failed: " ++ message
  | .notFound name => "filesystem not found: " ++ name
  | .alreadyExists name => "filesystem already exists: " ++ name
  | .deviceInUse device => "device " ++ device ++ " is already in use"
  | .invalidInput message => "invalid input: " ++ message
  | .noDevices => "no devices specified"
  | .deviceNotFound path => "device not found: " ++ path
  | .io message => "io error: " ++ message

def nastyMountBase : String := "/fs"

def mountPointOf (name : String) : String := nastyMountBase ++ "/" ++ name

abbrev Op (α : Type) := Fallible FilesystemError (Faulty Host) α

abbrev check {α : Type} (r : Except FilesystemError α) : Op α := Fallible.ofExcept r

def command (effect : Host → Host) : Op Unit := mapError .commandFailed (external effect)

def fileSystem (effect : Host → Host) : Op Unit := mapError .io (external effect)

/-- A command whose failure is only logged, or is an answer. -/
def tried (effect : Host → Host) : Op Bool := succeeds (external effect)

/-- What fails where it is not possible. -/
def possibly (possible : Host → Bool) (refusal : String) (effect : Host → Host) : Fallible String (Faulty Host) Unit := do
  let can ← observe possible
  Fallible.ofExcept (require (can = true) refusal)
  external effect

def commandIf (possible : Host → Bool) (refusal : String) (effect : Host → Host) : Op Unit :=
  mapError .commandFailed (possibly possible refusal effect)

def Host.onMachine (f : Machine → Machine) (host : Host) : Host := { host with machine := f host.machine }

def invalidateListCache : Op Unit := assign fun host : Host => { host with listCache := none }

namespace Registry

section
variable (registry : Registry)

def load : FsState :=
  match registry.content with
  | .state entries => entries
  | .missing | .broken _ => ∅

def held : FsState :=
  match registry.content with
  | .state entries | .broken entries => entries
  | .missing => ∅

def loadStrict : Except FilesystemError FsState :=
  match registry.content with
  | .state entries => .ok entries
  | .missing => .ok ∅
  | .broken _ => .error (.commandFailed "parse /var/lib/nasty/fs-state.json failed")

def truncate : Registry := ⟨.broken ∅, registry.writers + 1⟩

def close : Registry := { registry with writers := registry.writers - 1 }

end

def write (entries : FsState) (registry : Registry) : Registry := ⟨.state entries, registry.writers - 1⟩

end Registry

def Host.onRegistry (f : Registry → Registry) (host : Host) : Host := { host with registry := f host.registry }

def Host.registered (host : Host) (name : String) : Option FsMountOptions := host.registry.load.lookup name

def loadFsState : Op FsState := observe fun host : Host => host.registry.load

def loadFsStateStrict : Op FsState := do
  let loaded ← observe fun host : Host => host.registry.loadStrict
  check loaded

def saveFsState (entries : FsState) : Op Unit := do
  fileSystem (Host.onRegistry Registry.truncate)
  mapError .io (externalOr (Host.onRegistry (Registry.write entries)) (Host.onRegistry Registry.close))

def editFsState (change : FsState → FsState) : Op Unit := do
  let entries ← loadFsState
  let _ ← succeeds (saveFsState (change entries))

def saveFsMountedWithOpts (name : String) (opts : FsMountOptions) : Op Unit :=
  editFsState fun entries => entries.insert name { opts with mounted := some true }

def saveFsUnmounted (name : String) (fs : Filesystem) : Op Unit :=
  editFsState fun entries => entries.insert name
    { (entries.lookup name).getD {} with uuid := some fs.uuid, devices := fs.devices, mounted := some false }

def forgetFs (name : String) : Op Unit := do
  let entries ← loadFsState
  if name ∈ entries then do
    let _ ← succeeds (saveFsState (entries.erase name))
  else pure ()

end NastyEngine.Pools
