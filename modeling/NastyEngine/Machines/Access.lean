import NastyEngine.Machines.Service
import NastyEngine.Rust.Path
import NastyEngine.Volumes.Requests

/-!
Sessions other than those of unscoped admins may give a machine only image files and the block
volumes of their scope. A request is checked with the machine that it names as it is stored.
-/

namespace NastyEngine.Machines
open Lib Rust Auth
open Volumes (requireRootEquivalent ApiError blockFileName)

structure Volume where
  filesystem : String
  owner : Option String
  path : String
  block : Bool
  identified : Bool
  deriving DecidableEq

def Volume.image (volume : Volume) : String := volume.path ++ "/" ++ blockFileName

structure Site extends Host where
  volumes : Option (List Volume)
  /-- The nodes of the loop devices are there. -/
  nodes : ∀ device file, table.loops.lookup device = some file → canonicalize device = some device
  /-- The kernel names an attached file as it is found, and marks one that was deleted. -/
  attached : ∀ device file, table.loops.lookup device = some file → file.toList.all (!isWhitespace ·) = true →
    canonicalize file = some file
  /-- Canonical paths are written in one way. -/
  canonical : ∀ one two c d, canonicalize one = some c → canonicalize two = some d → components c = components d → c = d

def isScoped (session : Session) : Bool := session.filesystem.isSome || session.owner.isSome

def resourceMatchesScope (session : Session) (filesystem : String) (owner : Option String) : Bool :=
  session.filesystem.all (· = filesystem) && session.owner.all fun filter => owner = some filter

section
variable (site : Site) (session : Session)

def listAll : Except String (List Volume) := okOr site.volumes "cannot list subvolumes"

/-- The last line of `losetup` that shows the image counts. -/
def Volume.device (volume : Volume) : Option String :=
  if volume.block then
    (site.canonicalize volume.image).bind (collect (site.losetupPairs.map Prod.swap))
  else none

structure ManagedVmDisk where
  device : Option String
  source : String

def managedVmDisks : Except String (List ManagedVmDisk) := do
  let volumes ← listAll site
  pure ((volumes.filter fun v => resourceMatchesScope session v.filesystem v.owner && v.block && v.identified).map
    fun v => ⟨v.device site, v.image⟩)

/-- `max_by_key`: the last of the longest. -/
def deepest (candidates : List (String × Volume)) : Option (String × Volume) :=
  candidates.foldl (fun best candidate =>
    if best.all fun b => (components b.1).length ≤ (components candidate.1).length then some candidate else best) none

def pathSourceMatchesScope (requested : String) (candidates : List (String × Volume)) : Bool :=
  let containing := deepest (candidates.filter fun c => pathStartsWith requested c.1)
  let nested := candidates.filter fun c => pathStartsWith c.1 requested
  containing.any (fun c => resourceMatchesScope session c.2.filesystem c.2.owner) &&
    nested.all fun c => resourceMatchesScope session c.2.filesystem c.2.owner

def authorizePathSource (requested : String) : Except String String :=
  if isScoped session then do
    let canonical ← okOr (site.canonicalize requested) "access denied"
    let volumes ← listAll site
    let candidates := volumes.filterMap fun v => (site.canonicalize v.path).map (·, v)
    require (pathSourceMatchesScope session canonical candidates = true) "access denied"
    pure canonical
  else .ok requested

structure VmSecurityFields where
  disks : List VmDisk
  cdroms : List String
  legacyBootIso : Option String
  passthroughDevices : List PassthroughDevice
  usbDevices : List UsbPassthrough
  extraArgs : Option (List String) := none
  cpuModel : Option String := none
  machineType : Option String := none
  vga : Option String := none

def VmConfig.securityFields (config : VmConfig) : VmSecurityFields where
  disks := config.disks
  cdroms := config.cdroms
  legacyBootIso := config.bootIso
  passthroughDevices := config.passthroughDevices
  usbDevices := config.usbDevices
  extraArgs := config.extraArgs
  cpuModel := config.cpuModel
  machineType := config.machineType
  vga := config.vga

def resolve (path : String) : String := (site.canonicalize path).getD path

def pathsMatch (left right : String) : Bool := components (resolve site left) = components (resolve site right)

def pathResolvesUnderDev (path : String) : Bool := pathStartsWith (resolve site path) "/dev"

def operatorDiskIsSafe (disk : VmDisk) (managed : List ManagedVmDisk) : Bool :=
  match disk.source with
  | some source => managed.any fun candidate => pathsMatch site source candidate.source
  | none => !pathResolvesUnderDev site disk.path ||
    managed.any fun candidate => candidate.device.any fun device => pathsMatch site disk.path device

def vmSecurityReason (fields : VmSecurityFields) (managed : List ManagedVmDisk) : Option String :=
  if fields.passthroughDevices ≠ [] then some "pci_passthrough"
  else if fields.usbDevices ≠ [] then some "usb_passthrough"
  else if fields.extraArgs.any (· ≠ []) then some "raw_qemu_arguments"
  else if fields.cpuModel.any (· ∉ ["", "host", "max", "qemu64"]) || fields.machineType.any (· ∉ ["", "q35", "i440fx"]) ||
      fields.vga.any (· ∉ ["", "virtio", "qxl", "std", "none"]) then some "custom_qemu_hardware"
  else if fields.cdroms.any (pathResolvesUnderDev site) || fields.legacyBootIso.any (pathResolvesUnderDev site) then
    some "raw_vm_cdrom"
  else if fields.disks.any fun disk => !operatorDiskIsSafe site disk managed then some "unmanaged_vm_disk"
  else none

def refusal : ApiError → String
  | .refused message => message
  | .storage error => error.display

def requireRoot : Except String Unit := (requireRootEquivalent session).mapError refusal

def requireUnscopedMutation : Except String Unit := do
  require (session.mustChangePassword = false) "Password change required"
  require (session.role = .admin ∨ session.role = .operator) "Permission denied"
  require (isScoped session = false) "Scoped credentials cannot access this endpoint"

def VmSecurityFields.files (fields : VmSecurityFields) : List String :=
  (fields.disks.filter fun disk => disk.source = none && !pathResolvesUnderDev site disk.path).map (·.path) ++
    fields.cdroms ++ fields.legacyBootIso.toList

def requireScopedFiles (fields : VmSecurityFields) : Except String Unit :=
  if isScoped session then do
    if fields.disks = [] then requireUnscopedMutation session
    (fields.files site).forM fun path => (authorizePathSource site session path).map fun _ => ()
  else .ok ()

def isUnscopedAdmin : Bool := session.role = .admin && !isScoped session

def requireHardwareAccess (fields : VmSecurityFields) : Except String Unit :=
  match vmSecurityReason site fields [] with
  | none => .ok ()
  | some reason =>
    -- Only disks that look raw are worth a look at the volumes.
    if reason ≠ "unmanaged_vm_disk" ∨ isUnscopedAdmin session then requireRoot session
    else do
      let managed ← managedVmDisks site session
      match vmSecurityReason site fields managed with
      | none => .ok ()
      | some _ => requireRoot session

def requireVmPayloadAccess (fields : VmSecurityFields) : Except String Unit := do
  requireScopedFiles site session fields
  requireHardwareAccess site session fields

def vmError {α : Type} (result : Except VmError α) : Except String α := result.mapError VmError.display

def getConfig (id : String) (store : Store) : Except String VmConfig :=
  vmError ((okOr (load site.toHost store id) (.notFound id)).map VmConfig.migrateCdroms)

def existingVmAccess (id : String) (store : Store) : Except String Unit :=
  if isScoped session then do
    let config ← getConfig site id store
    requireVmPayloadAccess site session config.securityFields
  else .ok ()

def handleCreate (id : String) (req : CreateVmRequest) (store : Store) : Except String Store := do
  requireVmPayloadAccess site session
    { disks := req.disks.getD [], cdroms := req.cdroms.getD [], legacyBootIso := req.bootIso
      passthroughDevices := req.passthroughDevices.getD [], usbDevices := req.usbDevices.getD [] }
  vmError (create site.toHost id req store)

def UpdateVmRequest.changesSecurity (req : UpdateVmRequest) : Bool :=
  req.disks.isSome || req.passthroughDevices.isSome || req.usbDevices.isSome || req.cdroms.isSome ||
    req.bootIso.isSome || req.extraArgs.isSome || req.cpuModel.isSome || req.machineType.isSome || req.vga.isSome ||
    req.autostart = some true

def UpdateVmRequest.effective (req : UpdateVmRequest) (existing : VmConfig) : VmSecurityFields where
  disks := req.disks.getD existing.disks
  cdroms := req.cdroms.getD (if req.bootIso.isSome then [] else existing.cdroms)
  legacyBootIso := if req.cdroms.isSome || req.bootIso.isSome then req.bootIso else existing.bootIso
  passthroughDevices := req.passthroughDevices.getD existing.passthroughDevices
  usbDevices := req.usbDevices.getD existing.usbDevices
  extraArgs := req.extraArgs.or existing.extraArgs
  cpuModel := req.cpuModel.or existing.cpuModel
  machineType := req.machineType.or existing.machineType
  vga := req.vga.or existing.vga

def handleUpdate (req : UpdateVmRequest) (store : Store) : Except String Store := do
  existingVmAccess site session req.id store
  if req.changesSecurity then do
    let existing ← getConfig site req.id store
    requireVmPayloadAccess site session (req.effective existing)
  vmError (update site.toHost req store)

def handleDelete (id : String) (store : Store) : Except String Store := do
  existingVmAccess site session id store
  vmError (delete site.toHost id store)

def handleStart (id : String) (store : Store) : Store × Except String Launch :=
  let allowed := do
    let config ← getConfig site id store
    requireVmPayloadAccess site session config.securityFields
    pure config
  match allowed with
  | .error error => (store, .error error)
  | .ok config =>
    ((start site.toHost id store).1, (vmError (start site.toHost id store).2).map fun launched => ⟨config, launched⟩)

def handleClone (id source newName : String) (devices : List (Option String)) (store : Store) : Except String Store := do
  requireUnscopedMutation session
  vmError (vmClone site.toHost id source newName devices store)

/-- The dispatcher: only admins and operators may change machines. -/
def dispatch : Except String Unit := do
  require (session.mustChangePassword = false) "Password change required"
  require (session.role = .admin ∨ session.role = .operator) "Permission denied"

end

end NastyEngine.Machines
