import NastyEngine.Pools.Operations

/-! A look changes nothing but the list that is kept, and what it tells about devices and mount points is so. -/

namespace NastyEngine.Pools
open Lib Fallible
open Storage (FilesystemError CreateFilesystemRequest)

structure Outer (effect : Host → Host) : Prop where
  machine : ∀ s, (effect s).machine = s.machine
  registry : ∀ s, (effect s).registry = s.registry

/-- The same without the files of keys. -/
structure Light (effect : Host → Host) : Prop extends Outer effect where
  keys : ∀ s, (effect s).keys = s.keys
  sealedKeys : ∀ s, (effect s).sealedKeys = s.sealedKeys

theorem light_listCache {listed : Option (List Filesystem)} : Light fun s => { s with listCache := listed } :=
  ⟨⟨fun _ => rfl, fun _ => rfl⟩, fun _ => rfl, fun _ => rfl⟩

variable {effect : Host → Host}

section
variable {Allowed : (Host → Host) → Prop} {K : ∀ {ε α : Type}, Fallible ε (Faulty Host) α → Prop}
  {name uuid device path mountPoint text passphrase : String} (closed : Closed Allowed @K) {α : Type}
include closed

theorem command_closed (allowed : Allowed effect) : K (command effect) := closed.mapError (closed.external allowed)

theorem fileSystem_closed (allowed : Allowed effect) : K (fileSystem effect) :=
  closed.mapError (closed.external allowed)

theorem tried_closed (allowed : Allowed effect) : K (tried effect) := closed.succeeds (closed.external allowed)

theorem look_closed : K (tried id) := tried_closed closed closed.idle

theorem looked {f : Bool → Op α} (further : ∀ b, K (f b)) : K (tried id >>= f) :=
  closed.bind (look_closed closed) further

section
variable (possible : Host → Bool) (refusal : String) (allowed : Allowed effect)
include allowed

theorem possibly_closed : K (possibly possible refusal effect) :=
  closed.observed fun _ => closed.checked fun _ => closed.external allowed

theorem commandIf_closed : K (commandIf possible refusal effect) :=
  closed.mapError (possibly_closed closed possible refusal allowed)

end

theorem getFsUuid_closed : K (getFsUuid device) := by
  refine closed.observed fun uuid => looked closed fun blkid => ?_
  split
  · exact closed.pure _
  · exact looked closed fun _ => closed.pure _

theorem readBcachefsMounts_closed : K readBcachefsMounts := looked closed fun _ => closed.observe _

theorem isMountpoint_closed : K (isMountpoint path) := by
  refine closed.observed fun mounted => looked closed fun read => ?_
  split
  · exact closed.pure _
  · exact looked closed fun _ => closed.pure _

theorem sourceUuid_closed (devices : List String) : K (sourceUuid devices) := by
  unfold sourceUuid
  split
  · exact closed.pure _
  · exact closed.pure _
  · exact getFsUuid_closed closed

theorem mountedFsUuidAt_closed : K (mountedFsUuidAt mountPoint) :=
  closed.bind (readBcachefsMounts_closed closed) fun _ => sourceUuid_closed closed _

theorem mountedFsUuidAfterMount_closed {looks : Nat} :
    K (mountedFsUuidAfterMount looks mountPoint) := by
  induction looks with
  | zero => exact mountedFsUuidAt_closed closed
  | succ looks ih =>
    refine closed.bind (mountedFsUuidAt_closed closed) fun found => ?_
    cases found with
    | some uuid => exact closed.pure _
    | none => exact ih

theorem verifyMountpointIdentity_closed : K (verifyMountpointIdentity mountPoint uuid) :=
  closed.bind (mountedFsUuidAt_closed closed) fun _ => closed.ofExcept _

theorem verifyDevicePathsUuid_closed {paths : List String} : K (verifyDevicePathsUuid paths uuid) :=
  closed.forM fun _ _ => closed.bind (getFsUuid_closed closed) fun _ => closed.ofExcept _

theorem verifyIfMounted_closed : K (verifyIfMounted mountPoint uuid) := by
  refine closed.bind (isMountpoint_closed closed) fun occupied => ?_
  split
  · exact verifyMountpointIdentity_closed closed
  · exact closed.pure ()

theorem loadFsState_closed : K loadFsState := closed.observe _

theorem listUncached_closed : K listUncached := by
  refine closed.bind (readBcachefsMounts_closed closed) fun mounts => ?_
  refine closed.bind (loadFsState_closed closed) fun state => ?_
  refine closed.bind (closed.mapM fun mount _ => ?_) fun identified => ?_
  · exact closed.bind (getFsUuid_closed closed) fun _ => closed.pure _
  refine closed.bind (closed.mapM fun entry _ => ?_) fun mounted => ?_
  · exact looked closed fun _ => closed.observed fun _ => closed.pure _
  refine closed.bind (looked closed fun _ => closed.observe _) fun others => ?_
  refine closed.bind (closed.mapM fun uuid _ => ?_) fun unmounted => closed.pure _
  exact looked closed fun _ => closed.observe _

theorem readKeyFile_closed : K (readKeyFile name) := by
  refine closed.observed fun key => ?_
  cases key with
  | some bytes => exact closed.bind (closed.mapError (closed.external closed.idle)) fun _ => closed.pure _
  | none => exact closed.pure _

theorem readUnlockKey_closed : K (readUnlockKey name) := by
  refine closed.bind (closed.observed fun _ => looked closed fun _ =>
    closed.pure _) fun found => ?_
  cases found with
  | some bytes => exact closed.pure _
  | none => exact readKeyFile_closed closed

theorem isBcachefsKeyLoaded_closed : K (isBcachefsKeyLoaded uuid) :=
  looked closed fun _ => closed.observe _

theorem probeNeedsUnlock_closed : K (probeNeedsUnlock device) :=
  closed.observed fun _ => looked closed fun _ => closed.pure _

theorem checkTpm_closed {req : CreateFilesystemRequest} : K (checkTpm req) := by
  unfold checkTpm
  split
  · exact closed.checked fun _ => closed.checked fun _ =>
      looked closed fun _ => closed.ofExcept _
  · exact closed.pure ()

theorem checkMountPoint_closed : K (checkMountPoint name) :=
  closed.observed fun _ => closed.ofExcept _

theorem revalidateTargets_closed (devices : List String) : K (revalidateTargets devices) :=
  closed.bind (command_closed closed closed.idle) fun _ => closed.observed fun _ => closed.ofExcept _

theorem filesystemUuidIsVisible_closed : K (filesystemUuidIsVisible uuid) := by
  refine closed.bind (command_closed closed closed.idle) fun _ => closed.observed fun visible => ?_
  split
  · exact closed.pure _
  · exact closed.bind (command_closed closed closed.idle) fun _ => closed.pure _

section
variable (light : ∀ effect, Light effect → Allowed effect)
include light

theorem invalidateListCache_closed : K invalidateListCache := closed.assign (light _ light_listCache)

theorem list_closed : K list := by
  have refreshed : K refreshList :=
    closed.bind (listUncached_closed closed) fun listed =>
      closed.bind (closed.assign (light _ light_listCache)) fun _ => closed.pure _
  refine closed.observed fun cached => looked closed fun young => ?_
  cases cached with
  | none => exact refreshed
  | some listed =>
    dsimp only
    split
    · exact closed.pure _
    · exact refreshed

theorem get_closed : K (get name) :=
  closed.bind (loadFsState_closed closed) fun _ => closed.checked fun _ =>
    closed.bind (list_closed closed light) fun _ => closed.ofExcept _

theorem relist_closed : K (relist name uuid) :=
  closed.bind (invalidateListCache_closed closed light) fun _ => closed.bind (list_closed closed light) fun _ =>
    closed.ofExcept _

theorem failMount_closed {e : FilesystemError} : K (failMount e : Op α) :=
  looked closed fun _ => closed.bind (invalidateListCache_closed closed light) fun _ =>
    closed.ofExcept _

theorem removeDir_closed : K (removeDir path) :=
  tried_closed closed (light _ ⟨⟨fun _ => rfl, fun _ => rfl⟩, fun _ => rfl, fun _ => rfl⟩)

theorem makeDir_closed : K (fileSystem fun host => { host with dirs := path :: host.dirs }) :=
  fileSystem_closed closed (light _ ⟨⟨fun _ => rfl, fun _ => rfl⟩, fun _ => rfl, fun _ => rfl⟩)

theorem reserveMountPoint_closed : K (reserveMountPoint name) :=
  closed.bind (fileSystem_closed closed closed.idle) fun _ => closed.bind (checkMountPoint_closed closed) fun _ =>
    makeDir_closed closed light

theorem orRemove_closed {p : Op α} (part : K p) : K (orRemove path p) := by
  refine closed.bind (closed.attempt part) fun result => ?_
  cases result with
  | ok a => exact closed.pure a
  | error e => exact closed.bind (removeDir_closed closed light) fun _ => closed.ofExcept _

theorem bcachefsUnlock_closed : K (bcachefsUnlock device text) :=
  commandIf_closed closed _ _ (light _ ⟨⟨fun _ => rfl, fun _ => rfl⟩, fun _ => rfl, fun _ => rfl⟩)

theorem revokeKey_closed : K (revokeKey uuid) := by
  refine closed.bind (isBcachefsKeyLoaded_closed closed) fun loaded => ?_
  split
  · exact command_closed closed (light _ ⟨⟨fun _ => rfl, fun _ => rfl⟩, fun _ => rfl, fun _ => rfl⟩)
  · exact closed.pure ()

theorem unlock_closed : K (unlock name passphrase) := by
  refine closed.bind (get_closed closed light) fun fs => closed.checked fun device => ?_
  refine closed.bind (bcachefsUnlock_closed closed light) fun _ => ?_
  exact closed.bind (invalidateListCache_closed closed light) fun _ => get_closed closed light

theorem unlockForMount_closed : K (unlockForMount name uuid device) := by
  refine closed.bind (probeNeedsUnlock_closed closed) fun needed => ?_
  cases needed with
  | no => exact closed.pure _
  | unknown => exact closed.pure _
  | yes =>
    refine closed.bind (readUnlockKey_closed closed) fun found => ?_
    cases found with
    | some bytes => exact closed.bind (bcachefsUnlock_closed closed light) fun _ => closed.pure _
    | none =>
      refine closed.bind (isBcachefsKeyLoaded_closed closed) fun loaded => ?_
      exact closed.checked fun _ => closed.pure _

theorem unlockCreated_closed (req : CreateFilesystemRequest) (device : String) : K (unlockCreated req device) := by
  unfold unlockCreated
  split
  · refine closed.bind (readUnlockKey_closed closed) fun found => ?_
    cases found with
    | some bytes => exact bcachefsUnlock_closed closed light
    | none =>
      cases req.passphrase with
      | none => exact closed.pure ()
      | some passphrase => exact bcachefsUnlock_closed closed light
  · exact closed.pure ()

end

section
variable (outer : ∀ effect, Outer effect → Allowed effect)
include outer

theorem storeNewKey_closed (req : CreateFilesystemRequest) : K (storeNewKey req) := by
  unfold storeNewKey
  split
  · exact closed.bind (fileSystem_closed closed closed.idle) fun _ =>
      fileSystem_closed closed (outer _ ⟨fun _ => rfl, fun _ => rfl⟩)
  · exact closed.pure ()

theorem deleteKey_closed (name : String) : K (deleteKey name) :=
  closed.observed fun _ => closed.checked fun _ =>
    command_closed closed (outer _ ⟨fun _ => rfl, fun _ => rfl⟩)

theorem tpmBind_closed : K (tpmBind name) := by
  refine closed.bind (get_closed closed (fun effect light => outer effect light.toOuter)) fun fs => ?_
  refine closed.checked fun _ => looked closed fun _ => ?_
  refine closed.checked fun _ => closed.bind (readKeyFile_closed closed) fun _ => ?_
  refine closed.checked fun plaintext => closed.bind (command_closed closed closed.idle) fun _ => ?_
  exact command_closed closed (outer _ ⟨fun _ => rfl, fun _ => rfl⟩)

theorem tpmUnbind_closed : K (tpmUnbind name) := by
  refine closed.observed fun bound => ?_
  split
  · exact command_closed closed (outer _ ⟨fun _ => rfl, fun _ => rfl⟩)
  · exact closed.pure ()

theorem bindCreated_closed {req : CreateFilesystemRequest} : K (bindCreated req) := by
  unfold bindCreated
  split
  · refine closed.bind (closed.attempt (tpmBind_closed closed outer)) fun result => ?_
    cases result with
    | ok _ => exact closed.pure ()
    | error e => exact closed.ofExcept _
  · exact closed.pure ()

end

end

section
variable {J : Host → Prop} {α : Type}

theorem check_preserves {r : Except FilesystemError α} : Preserves J (check r) := .ofExcept r

theorem look_preserves : Preserves J (tried id) := look_closed preserves_closed

variable {possible : Host → Bool} {refusal : String}

theorem possibly_stays {Q : Unit → Host → Prop}
    {s : Host} (inv : J s) (after : possible s = true → J (effect s)) (post : possible s = true → Q () (effect s)) :
    Stays J (possibly possible refusal effect) Q s := by
  refine .observed inv ?_
  refine .checked inv fun _ can => ?_
  have can := require_ok can
  exact .external inv (after can) (post can)

theorem possibly_preserves
    (stable : ∀ s, J s → possible s = true → J (effect s)) : Preserves J (possibly possible refusal effect) :=
  fun s inv => possibly_stays inv (stable s inv) fun _ => trivial

theorem failMount_stays {Q : α → Host → Prop} (light : ∀ effect, Light effect → ∀ s, J s → J (effect s))
    {e : FilesystemError} {s : Host} (inv : J s) : Stays J (failMount e) Q s := by
  refine .bind (look_preserves s inv) fun _ s inv _ => ?_
  refine .bind (invalidateListCache_closed preserves_closed light s inv) fun _ s inv _ => ?_
  exact .ofExcept inv fun a impossible => by cases impossible

end

section
variable {s : Host} {uuid : String}

theorem look_quiet : Stays (· = s) (tried id) (fun _ _ => True) s := look_preserves s rfl

theorem getFsUuid_tells {device : String} : Stays (· = s) (getFsUuid device)
    (fun told _ => ∀ uuid, told = some uuid → s.machine.uuidOf device = some uuid) s := by
  refine .observed rfl ?_
  refine .quiet look_quiet rfl fun blkid _ => ?_
  split
  · exact .pure rfl fun _ told => told
  · refine .quiet look_quiet rfl fun lsblk _ => .pure rfl fun uuid told => ?_
    split at told
    · exact told
    · cases told

theorem sourceUuid_tells (devices : List String) : Stays (· = s) (sourceUuid devices)
    (fun told _ => ∀ uuid, told = some uuid →
      (byUuidSource devices).or (devices.head?.bind s.machine.uuidOf) = some uuid) s := by
  unfold sourceUuid
  cases byUuidSource devices with
  | some named => exact .pure rfl fun _ told => told
  | none =>
    cases devices with
    | nil => exact .pure rfl fun _ told => by cases told
    | cons first rest => exact getFsUuid_tells

theorem mountedFsUuidAt_tells {mountPoint : String} : Stays (· = s) (mountedFsUuidAt mountPoint)
    (fun told _ => ∀ uuid, told = some uuid → s.machine.toldAt mountPoint = some uuid) s := by
  refine .quiet (R := fun mounts _ => mounts = s.machine.bcachefsMounts ∨ mounts = ∅) ?_ rfl ?_
  · refine .quiet look_quiet rfl fun read _ => .observe rfl ?_
    cases read with
    | true => exact .inl rfl
    | false => exact .inr rfl
  · rintro mounts known
    refine .mono (sourceUuid_tells _) fun told _ _ tells uuid eq => ?_
    have told := tells uuid eq
    rcases known with rfl | rfl
    · rw [Machine.toldAt]
      cases hit : s.machine.bcachefsMounts.lookup mountPoint with
      | none =>
        rw [hit] at told
        cases told
      | some devices =>
        rw [hit] at told
        exact told
    · cases told

theorem verifyMountpointIdentity_tells {mountPoint uuid : String} : Stays (· = s)
    (verifyMountpointIdentity mountPoint uuid) (fun _ _ => s.machine.toldAt mountPoint = some uuid) s := by
  refine .quiet mountedFsUuidAt_tells rfl fun actual told => ?_
  exact .ofExcept rfl fun _ eq => told uuid (require_ok eq)

theorem verifyDevicePathsUuid_tells {paths : List String} {uuid : String} : Stays (· = s)
    (verifyDevicePathsUuid paths uuid) (fun _ _ => ∀ path ∈ paths, s.machine.uuidOf path = some uuid) s := by
  induction paths with
  | nil => exact .pure rfl fun path mem => by cases mem
  | cons first rest ih =>
    have one : Stays (· = s) (verifyDevicePath uuid first) (fun _ _ => s.machine.uuidOf first = some uuid) s := by
      refine .quiet getFsUuid_tells rfl fun actual told => ?_
      exact .ofExcept rfl fun _ eq => told uuid (require_ok eq)
    refine .quiet one rfl fun _ known => .mono ih fun _ _ _ others path mem => ?_
    rcases List.mem_cons.mp mem with rfl | mem
    · exact known
    · exact others path mem

end

end NastyEngine.Pools
