import NastyEngine.Machines.Disks

/-!
Configurations are kept as files named by the id of the machine. What a request finds on the host
(`Host`) may be different for every request: the tree of files, the loop devices, what runs.
-/

namespace NastyEngine.Machines
open Lib Rust

structure VmNetwork where
  mode : String := "user"
  bridge : Option String := none
  mac : Option String := none
  deriving DecidableEq

structure PassthroughDevice where
  address : String
  label : Option String := none
  deriving DecidableEq

structure UsbPassthrough where
  vendorId : String
  productId : String
  label : Option String := none
  deriving DecidableEq

structure VmConfig where
  id : String
  name : String
  cpus : Nat := 1
  memoryMib : Nat := 1024
  disks : List VmDisk
  networks : List VmNetwork := [{ mode := "user" }]
  passthroughDevices : List PassthroughDevice := []
  usbDevices : List UsbPassthrough := []
  cdroms : List String := []
  bootIso : Option String := none
  bootOrder : String := "disk"
  uefi : Bool := true
  description : Option String := none
  autostart : Bool := false
  cpuModel : Option String := none
  machineType : Option String := none
  vga : Option String := none
  extraArgs : Option (List String) := none
  deriving DecidableEq

structure CreateVmRequest where
  name : String
  cpus : Option Nat := none
  memoryMib : Option Nat := none
  disks : Option (List VmDisk) := none
  networks : Option (List VmNetwork) := none
  passthroughDevices : Option (List PassthroughDevice) := none
  usbDevices : Option (List UsbPassthrough) := none
  cdroms : Option (List String) := none
  bootIso : Option String := none
  bootOrder : Option String := none
  uefi : Option Bool := none
  description : Option String := none
  autostart : Option Bool := none

structure UpdateVmRequest where
  id : String
  name : Option String := none
  cpus : Option Nat := none
  memoryMib : Option Nat := none
  disks : Option (List VmDisk) := none
  networks : Option (List VmNetwork) := none
  passthroughDevices : Option (List PassthroughDevice) := none
  usbDevices : Option (List UsbPassthrough) := none
  cdroms : Option (List String) := none
  bootIso : Option String := none
  bootOrder : Option String := none
  uefi : Option Bool := none
  description : Option String := none
  autostart : Option Bool := none
  cpuModel : Option String := none
  machineType : Option String := none
  vga : Option String := none
  extraArgs : Option (List String) := none

/-- Older state files have only `boot_iso`. -/
def VmConfig.migrateCdroms (config : VmConfig) : VmConfig :=
  match config.cdroms, config.bootIso with
  | [], some iso => if iso = "" then config else { config with cdroms := [iso] }
  | _, _ => config

structure Host where
  /-- where a path leads when its links are followed -/
  canonicalize : String → Option String
  regular : String → Bool
  table : LoopTable
  /-- the width of the first column that `losetup` prints; none if it fails -/
  losetup : Option Nat
  kvm : Bool
  running : String → Bool
  bridge : String → Bool
  writable : String → Bool
  /-- the configurations in files that an id with a slash leads to -/
  planted : String → Option VmConfig
  /-- what else has to be done before QEMU is started -/
  prepare : VmConfig → Except VmError Unit

namespace Host
variable (host : Host)

def exists? (path : String) : Bool := (host.canonicalize path).isSome

def losetupPairs : List (String × String) := Machines.losetupPairs (host.losetup.map host.table.output)

end Host

abbrev Store := Keyed String VmConfig

/-- An id is not checked for slashes. -/
def load (host : Host) (store : Store) (id : String) : Option VmConfig :=
  if '/' ∈ id.toList then host.planted id else store.lookup id

/-- With a slash in the id the file is elsewhere, as that of `/x`, and so is no machine of the store. -/
def put (store : Store) (id : String) (config : VmConfig) : Store :=
  if '/' ∈ id.toList then store else store.insert id config

def save (host : Host) (store : Store) (id : String) (config : VmConfig) : Except VmError Store := do
  require (host.writable id = true) (.io "write failed")
  pure (put store id config)

section
variable (host : Host)

def validateVmPath (path : String) : Except VmError Unit := do
  let canonical ← okOr (host.canonicalize path) (.invalidDiskPath (path ++ " does not exist or cannot be resolved"))
  require (startsWith canonical "/fs/" = true ∨ startsWith canonical "/dev/" = true)
    (.invalidDiskPath (path ++ " resolves to " ++ canonical ++ " which is not under /fs/ or /dev/"))

def validateQemuDriveValue (field value : String) : Except VmError Unit :=
  require ([',', '\n', '\r', Char.ofNat 0].all (· ∉ value.toList))
    (.invalidDiskPath (field ++ " contains characters that alter QEMU drive options"))

def validateVmDisk (disk : VmDisk) : Except VmError Unit := do
  validateQemuDriveValue "disk path" disk.path
  require (disk.interface ∈ ["", "virtio", "scsi", "ide"])
    (.invalidDiskPath ("unsupported disk interface '" ++ disk.interface ++ "'"))
  require (∀ value ∈ disk.cache, value ∈ ["writeback", "writethrough", "none", "unsafe"])
    (.invalidDiskPath "unsupported cache mode")
  require (∀ value ∈ disk.aio, value ∈ ["threads", "native"]) (.invalidDiskPath "unsupported I/O mode")
  require (∀ value ∈ disk.discard, value ∈ ["unmap", "ignore"]) (.invalidDiskPath "unsupported discard mode")

def validBridge (bridge : String) : Bool :=
  bridge ≠ "" && strLen bridge.toList ≤ 15 && bridge.toList.all fun c => isAsciiAlphanumeric c || c ∈ ['.', '_', '-']

def validMac (mac : String) : Bool :=
  let octets := mac.toList.splitOn ':'
  octets.length = 6 && octets.all fun octet => strLen octet = 2 && octet.all isAsciiHexdigit

def validateVmNetworkValues (networks : List VmNetwork) : Except VmError Unit :=
  networks.forM fun network => do
    require (network.mode ∈ ["user", "bridge"]) (.invalidNetwork ("unsupported network mode '" ++ network.mode ++ "'"))
    require (∀ bridge ∈ network.bridge, validBridge bridge = true)
      (.invalidNetwork "bridge name contains unsupported characters")
    require (∀ mac ∈ network.mac, validMac mac = true) (.invalidNetwork "MAC address must contain six hexadecimal octets")

def validateBridgeNetworks (networks : List VmNetwork) : Except VmError Unit :=
  networks.forM fun network =>
    let bridge := network.bridge.getD "br0"
    require (network.mode ≠ "bridge" ∨ host.bridge bridge = true) (.invalidNetwork ("bridge '" ++ bridge ++
      "' does not exist — create it under Network settings (or pick another) before starting this VM"))

def validateUsbId (id : String) : Except VmError Unit :=
  require (strLen id.toList = 4 ∧ id.toList.all isAsciiHexdigit = true)
    (.invalidUsbDevice ("USB id '" ++ id ++ "' must be 4 hex digits"))

def validateUsbPassthroughs (devices : List UsbPassthrough) : Except VmError Unit :=
  devices.forM fun device => do
    validateUsbId device.vendorId
    validateUsbId device.productId

def checkDisk (disk : VmDisk) : Except VmError Unit := do
  validateVmDisk disk
  require (host.exists? disk.path = true) (.invalidDiskPath ("disk path " ++ disk.path ++ " does not exist"))
  validateVmPath host disk.path

def checkCdrom (iso : String) : Except VmError Unit := do
  validateQemuDriveValue "CD-ROM path" iso
  require (host.exists? iso = true) (.invalidDiskPath ("CD-ROM ISO " ++ iso ++ " does not exist"))
  validateVmPath host iso

def withoutBlank (cdroms : List String) : List String := cdroms.filter (trim ·.toList ≠ [])

/-- The discs of a request: the old field counts only if the new one is not there. -/
def requestedCdroms (cdroms : Option (List String)) (bootIso : Option String) : Option (List String) :=
  match cdroms, bootIso with
  | some list, _ => some list
  | none, some iso => some (if iso = "" then [] else [iso])
  | none, none => none

def create (id : String) (req : CreateVmRequest) (store : Store) : Except VmError Store := do
  require (host.kvm = true) .kvmNotAvailable
  require (store.pairs.all (·.2.name ≠ req.name) = true) (.alreadyExists req.name)
  (req.disks.getD []).forM (checkDisk host)
  let cdroms := withoutBlank ((requestedCdroms req.cdroms req.bootIso).getD [])
  cdroms.forM (checkCdrom host)
  validateUsbPassthroughs (req.usbDevices.getD [])
  validateVmNetworkValues (req.networks.getD [])
  save host store id
    { id, name := req.name, cpus := req.cpus.getD 1, memoryMib := req.memoryMib.getD 1024
      disks := backfillDiskSources host.losetupPairs (req.disks.getD [])
      networks := req.networks.getD [{ mode := "user" }]
      passthroughDevices := req.passthroughDevices.getD [], usbDevices := req.usbDevices.getD []
      bootIso := cdroms.head?, cdroms, bootOrder := req.bootOrder.getD "disk", uefi := req.uefi.getD true
      description := req.description, autostart := req.autostart.getD false }

def UpdateVmRequest.changesHardware (req : UpdateVmRequest) : Bool :=
  req.cpus.isSome || req.memoryMib.isSome || req.disks.isSome || req.networks.isSome ||
    req.passthroughDevices.isSome || req.usbDevices.isSome || req.cdroms.isSome || req.bootIso.isSome ||
    req.bootOrder.isSome || req.uefi.isSome || req.cpuModel.isSome || req.machineType.isSome || req.vga.isSome ||
    req.extraArgs.isSome

def updateDisks (disks : Option (List VmDisk)) (old : List VmDisk) : Except VmError (List VmDisk) :=
  match disks with
  | none => .ok old
  | some disks => do
    -- Whether the paths are there is not asked here.
    disks.forM validateVmDisk
    pure (backfillDiskSources host.losetupPairs disks)

def updateCdroms (cdroms : Option (List String)) (config : VmConfig) : Except VmError VmConfig :=
  match cdroms with
  | none => .ok config
  | some list => do
    let list := withoutBlank list
    list.forM (checkCdrom host)
    pure { config with cdroms := list, bootIso := list.head? }

section
variable (req : UpdateVmRequest) (config : VmConfig)

def updateHardware : Except VmError VmConfig := do
  let disks ← updateDisks host req.disks config.disks
  validateVmNetworkValues (req.networks.getD [])
  validateUsbPassthroughs (req.usbDevices.getD [])
  let config ← updateCdroms host (requestedCdroms req.cdroms req.bootIso) config
  pure { config with
    cpus := req.cpus.getD config.cpus, memoryMib := req.memoryMib.getD config.memoryMib, disks
    networks := req.networks.getD config.networks
    passthroughDevices := req.passthroughDevices.getD config.passthroughDevices
    usbDevices := req.usbDevices.getD config.usbDevices
    bootOrder := req.bootOrder.getD config.bootOrder, uefi := req.uefi.getD config.uefi
    cpuModel := req.cpuModel.or config.cpuModel, machineType := req.machineType.or config.machineType
    vga := req.vga.or config.vga, extraArgs := req.extraArgs.or config.extraArgs }

def updateText : VmConfig :=
  { config with
    name := req.name.getD config.name, description := req.description.or config.description
    autostart := req.autostart.getD config.autostart }

def updateConfig : Except VmError VmConfig :=
  if host.running req.id then
    (require (req.changesHardware = false) (.alreadyRunning "stop the VM before changing hardware settings")).map
      fun _ => updateText req config
  else updateHardware host req (updateText req config)

end

def update (req : UpdateVmRequest) (store : Store) : Except VmError Store := do
  let config ← okOr (load host store req.id) (.notFound req.id)
  let config ← updateConfig host req config.migrateCdroms
  save host store config.id config

def delete (id : String) (store : Store) : Except VmError Store := do
  let _ ← okOr (load host store id) (.notFound id)
  require (host.running id = false) (.alreadyRunning "stop the VM before deleting")
  pure (store.erase id)

def resolvedDisks (disks : List VmDisk) : Except VmError (List VmDisk) :=
  resolveDiskPaths host.losetupPairs (backfillDiskSources host.losetupPairs disks)

def checkLaunch (config : VmConfig) : Except VmError Unit := do
  config.disks.forM (checkDisk host)
  config.cdroms.forM (checkCdrom host)
  validateVmNetworkValues config.networks
  validateBridgeNetworks host config.networks
  host.prepare config

/-- The configuration is the one that QEMU is launched with. What was found out about the disks is
kept, also if the machine is not launched in the end. -/
def start (id : String) (store : Store) : Store × Except VmError VmConfig :=
  match load host store id with
  | none => (store, .error (.notFound id))
  | some config =>
    let config := config.migrateCdroms
    if host.running id then (store, .error (.alreadyRunning config.name))
    else if host.kvm = false then (store, .error .kvmNotAvailable)
    else match resolvedDisks host config.disks with
      | .error error => (store, .error error)
      | .ok disks =>
        let healed := { config with disks }
        if disks = config.disks then (store, (checkLaunch host healed).map fun _ => healed)
        else match save host store id healed with
          | .error error => (store, .error error)
          | .ok store => (store, (checkLaunch host healed).map fun _ => healed)

structure Launch where
  stored : VmConfig
  config : VmConfig

def startLaunch (id : String) (store : Store) : Store × Option Launch :=
  ((start host id store).1, match load host store id, (start host id store).2 with
    | some config, .ok launched => some ⟨config.migrateCdroms, launched⟩
    | _, _ => none)

/-- One after the other; one that fails is passed over. -/
def startAll (ids : List String) (store : Store) : Store × List Launch :=
  ids.foldl (fun done id => ((startLaunch host id done.1).1, done.2 ++ (startLaunch host id done.1).2.toList)) (store, [])

/-- The machines that start by themselves. -/
def restore (store : Store) : Store × List Launch :=
  startAll host ((store.pairs.filter (·.2.autostart)).map (·.2.id)) store

end

def cloneRequest (src : VmConfig) (newName : String) (devices : List (Option String)) : CreateVmRequest where
  name := newName
  cpus := some src.cpus
  memoryMib := some src.memoryMib
  disks := if devices = [] then none else some (devices.map fun device => { path := device.getD "" })
  networks := some src.networks
  bootOrder := some src.bootOrder
  uefi := some src.uefi
  description := some ("Clone of " ++ src.name)
  autostart := some false

def vmClone (host : Host) (id source newName : String) (devices : List (Option String)) (store : Store) :
    Except VmError Store := do
  let src ← okOr (load host store source) (.notFound source)
  require (host.running source = false) (.alreadyRunning "stop the VM before cloning")
  create host id (cloneRequest src.migrateCdroms newName devices) store

end NastyEngine.Machines
