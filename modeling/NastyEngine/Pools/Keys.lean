import NastyEngine.Pools.Listing

/-! A key may be stored in a file, and the TPM may seal a copy of it. Both files have the name of the pool. -/

namespace NastyEngine.Pools
open Lib Rust Fallible
open Storage (FilesystemError)

def keysDir : String := "/var/lib/nasty/keys"

def keyPath (name : String) : String := keysDir ++ "/" ++ name ++ ".key"

/-- What is sealed cannot be had where there is nothing or where the TPM refuses. -/
def unsealKeyFile (name : String) : Op (Option String) := do
  let blob ← observe fun host : Host => host.sealedKeys.lookup name
  let unsealed ← tried id
  return if unsealed then blob else none

def readKeyFile (name : String) : Op (Option String) := do
  let key ← observe fun host : Host => host.keys.lookup name
  match key with
  | some bytes => do
    mapError (fun e => .commandFailed ("read key for '" ++ name ++ "' at " ++ keyPath name ++ ": " ++ e)) (external id)
    return some bytes
  | none => return none

def readUnlockKey (name : String) : Op (Option String) := do
  match ← unsealKeyFile name with
  | some bytes => return some bytes
  | none => readKeyFile name

/-- The passphrase is read up to the end of the line. -/
def firstLine (text : String) : String := String.ofList (text.toList.takeWhile (· ≠ '\n'))

def Host.unlocks (host : Host) (device passphrase : String) : Bool :=
  (host.machine.members.lookup device).any (·.passphrase = some passphrase)

def Host.loadKey (device : String) (host : Host) : Host :=
  { host with keyring := (host.machine.uuidOf device).toList ++ host.keyring }

def bcachefsUnlock (device text : String) : Op Unit :=
  commandIf (fun host => host.unlocks device (firstLine text)) "bcachefs unlock: incorrect passphrase"
    (Host.loadKey device)

def isBcachefsKeyLoaded (uuid : String) : Op Bool := do
  let read ← tried id
  observe fun host : Host => read && uuid ∈ host.keyring

inductive NeedsUnlock where
  | no
  | yes
  | unknown
  deriving DecidableEq

/-- `bcachefs show-super` cannot read a locked pool; it may also fail for another reason. -/
def probeNeedsUnlock (device : String) : Op NeedsUnlock := do
  let locked ← observe fun host : Host => (host.machine.uuidOf device).any host.isLocked
  let ran ← tried id
  return if ran then (if locked then .yes else .no) else .unknown

def storeKey (name passphrase : String) : Op Unit := do
  fileSystem id
  fileSystem fun host => { host with keys := host.keys.insert name passphrase }

def deleteKey (name : String) : Op Unit := do
  let stored ← observe fun host : Host => decide (name ∈ host.keys)
  check (require (stored = true) (.commandFailed ("delete key for '" ++ name ++ "' at " ++ keyPath name ++ ": not found")))
  command fun host => { host with keys := host.keys.erase name }

def requireEncrypted (fs : Filesystem) (name : String) : Except FilesystemError Unit :=
  require (fs.encrypted = some true) (.invalidInput ("filesystem '" ++ name ++ "' is not encrypted"))

def tpmBind (name : String) : Op Unit := do
  let fs ← get name
  check (requireEncrypted fs name)
  let available ← tried id
  check (require (available = true) (.commandFailed "TPM2 not available on this host"))
  let plaintext ← readKeyFile name
  let plaintext ← check (okOr plaintext
    (.commandFailed ("no stored key for '" ++ name ++ "' at " ++ keyPath name ++ " — bind requires an existing .key")))
  -- the TPM seals
  command id
  command fun host => { host with sealedKeys := host.sealedKeys.insert name plaintext }

def tpmUnbind (name : String) : Op Unit := do
  let bound ← observe fun host : Host => decide (name ∈ host.sealedKeys)
  if bound then command fun host => { host with sealedKeys := host.sealedKeys.erase name } else pure ()

end NastyEngine.Pools
