import NastyEngine.Lib.Result
import NastyEngine.Rust.Text

/-! The request to create a pool, and the checks of its fields that look at nothing else. -/

namespace NastyEngine.Storage
open Lib Rust

inductive FilesystemError where
  | commandFailed (message : String)
  | notFound (name : String)
  | alreadyExists (name : String)
  | deviceInUse (device : String)
  | invalidInput (message : String)
  | noDevices
  | deviceNotFound (path : String)
  | io (message : String)
  deriving DecidableEq

structure DeviceSpec where
  path : String
  label : Option String := none
  durability : Option Nat := none
  deriving DecidableEq

structure CreateFilesystemRequest where
  name : String
  devices : List DeviceSpec
  replicas : Nat := 1
  compression : Option String := none
  encryption : Option Bool := none
  passphrase : Option String := none
  storeKey : Option Bool := some true
  bindToTpm : Option Bool := none
  label : Option String := none
  foregroundTarget : Option String := none
  metadataTarget : Option String := none
  backgroundTarget : Option String := none
  promoteTarget : Option String := none
  erasureCode : Option Bool := none
  dataChecksum : Option String := none
  metadataChecksum : Option String := none
  bucketSize : Option String := none
  encodedExtentMax : Option String := none
  versionUpgrade : Option String := none
  journalFlushDelay : Option Nat := none
  deriving DecidableEq

namespace CreateFilesystemRequest

def targets (req : CreateFilesystemRequest) : List (String × Option String) :=
  [("foreground_target", req.foregroundTarget), ("metadata_target", req.metadataTarget),
    ("background_target", req.backgroundTarget), ("promote_target", req.promoteTarget)]

end CreateFilesystemRequest

def nameChar (c : Char) : Bool := isAsciiAlphanumeric c || c = '-' || c = '_' || c = '.'

def validateCreateName (name : String) : Except FilesystemError Unit := do
  require (name ≠ "" ∧ strLen name.toList ≤ 32) (.invalidInput "filesystem name must be between 1 and 32 bytes")
  require (name ≠ "." ∧ name ≠ ".." ∧ name.toList.all nameChar)
    (.invalidInput "filesystem name may contain only ASCII letters, digits, '.', '-', and '_'")

def validateCreateLabel (field label : String) : Except FilesystemError Unit :=
  require (label ≠ "" ∧ strLen label.toList ≤ 32 ∧ label.toList.all nameChar)
    (.invalidInput (field ++ " must be 1-32 ASCII letters, digits, '.', '-', or '_'"))

def validateCompression (spec : String) : Except String Unit :=
  let spec := trim spec.toList
  if spec = [] ∨ spec = "none".toList then .ok ()
  else do
    let (algo, level) := match splitOnce ':' spec with
      | some (algo, level) => (String.ofList algo, some level)
      | none => (String.ofList spec, none)
    let maxLevel ← match algo with
      | "lz4" => Except.ok none
      | "zstd" => .ok (some 22)
      | "gzip" => .ok (some 9)
      | other => .error ("unknown compression algorithm '" ++ other ++ "'")
    match level with
    | none => return ()
    | some level =>
      let max ← okOr maxLevel (algo ++ " does not take a compression level")
      let n ← okOr (fromStrRadix 10 (2 ^ 32) level) ("compression level '" ++ String.ofList level ++ "' is not a number")
      require (1 ≤ n ∧ n ≤ max)
        (algo ++ " compression level must be between 1 and " ++ toString max ++ " (got " ++ toString n ++ ")")

def validateDevice (dev : DeviceSpec) : Except FilesystemError Unit := do
  require (dev.path ≠ "") (.invalidInput "device path must not be empty")
  let durability := dev.durability.getD 1
  require (durability ≤ 2) (.invalidInput ("device " ++ dev.path ++ " has invalid durability " ++ toString durability ++
    "; expected 0, 1, or 2"))
  dev.label.elim (.ok ()) (validateCreateLabel "device label")

def optional (check : String → Except FilesystemError Unit) (value : Option String) : Except FilesystemError Unit :=
  value.elim (.ok ()) check

def validateSize (humanBytes : String → Option Nat) (field value : String) : Except FilesystemError Unit := do
  let bytes ← okOr (humanBytes value) (.invalidInput ("invalid " ++ field ++ " value '" ++ value ++ "'"))
  require (bytes.isPowerOfTwo) (.invalidInput (field ++ " must be a non-zero power-of-two size"))

def validateErasureCode (req : CreateFilesystemRequest) : Except FilesystemError Unit :=
  if req.erasureCode = some true then do
    require (2 ≤ req.replicas) (.invalidInput "erasure coding requires replicas >= 2")
    require (req.replicas + 1 ≤ req.devices.length)
      (.invalidInput ("erasure coding with " ++ toString req.replicas ++ " replicas requires at least " ++
        toString (req.replicas + 1) ++ " devices (got " ++ toString req.devices.length ++ ")"))
  else .ok ()

/-- Each tiering target must be the label of a device, or a part of one. -/
def validateTargets (req : CreateFilesystemRequest) : Except FilesystemError Unit :=
  let labels := req.devices.map fun device => device.label.getD (req.label.getD req.name)
  (req.targets.filterMap (·.2)).forM fun target =>
    require (∃ label ∈ labels, label = target ∨ startsWith label (target ++ "."))
      (.invalidInput ("tiering target '" ++ target ++ "' does not match any selected device label"))

def validateCreateRequest (humanBytes : String → Option Nat) (req : CreateFilesystemRequest) :
    Except FilesystemError Unit := do
  validateCreateName req.name
  require (req.devices ≠ []) .noDevices
  optional (fun spec => (validateCompression spec).mapError .invalidInput) req.compression
  require (req.encryption = some true → ∃ passphrase ∈ req.passphrase, passphrase ≠ "")
    (.invalidInput "passphrase is required when encryption=true")
  require (req.replicas ≠ 0) (.invalidInput "replicas must be at least 1")
  req.devices.forM validateDevice
  let totalDurability := (req.devices.map (·.durability.getD 1)).sum
  require (req.replicas ≤ totalDurability) (.invalidInput (toString req.replicas ++
    " replicas require at least that much total device durability (got " ++ toString totalDurability ++ ")"))
  validateErasureCode req
  optional (validateCreateLabel "filesystem label") req.label
  optional (validateCreateLabel "foreground target") req.foregroundTarget
  optional (validateCreateLabel "metadata target") req.metadataTarget
  optional (validateCreateLabel "background target") req.backgroundTarget
  optional (validateCreateLabel "promote target") req.promoteTarget
  validateTargets req
  for (field, value) in [("data_checksum", req.dataChecksum), ("metadata_checksum", req.metadataChecksum)] do
    optional (fun value => require (value ∈ ["none", "crc32c", "crc64", "xxhash"])
      (.invalidInput ("invalid " ++ field ++ " value '" ++ value ++ "'"))) value
  optional (validateSize humanBytes "bucket_size") req.bucketSize
  optional (validateSize humanBytes "encoded_extent_max") req.encodedExtentMax
  optional (fun value => require (value ∈ ["compatible", "incompatible", "none"])
    (.invalidInput ("invalid version_upgrade value '" ++ value ++ "'"))) req.versionUpgrade

end NastyEngine.Storage
