import NastyEngine.Machines.Service

/-! The filesystems of a running guest are frozen before the snapshots of its disks and thawed after the last one. -/

namespace NastyEngine.Machines
open Lib Volumes Fallible

structure VmDiskSubvolume where
  filesystem : String
  subvolume : String
  device : String
  deriving DecidableEq

def resolveVmDisks (allSubvols : List Subvolume) (vm : VmConfig) : List VmDiskSubvolume :=
  vm.disks.filterMap fun disk =>
    (allSubvols.find? (·.blockDevice = some disk.path)).map fun sv => ⟨sv.filesystem, sv.name, disk.path⟩

structure SnapshotVmRequest where
  id : String
  name : String

structure VmStatus where
  config : VmConfig
  running : Bool

/-- What the other services answer; no subvolumes if they cannot be listed. -/
structure Services where
  vm : String → Except VmError VmStatus
  subvolumes : List Subvolume
  get : String → String → Option String → Except SubvolumeError Subvolume

/-- What has become of the guest: its filesystems were frozen, a thaw was sent to it, its disks have these snapshots. -/
structure Guest where
  froze : Bool := false
  thawSent : Bool := false
  snapshots : List (String × String) := []
  deriving DecidableEq

abbrev GuestOp := Fallible String (Faulty Guest)

def guestFsfreezeFreeze : GuestOp Unit := external fun guest => { guest with froze := true }

def guestFsfreezeThaw : GuestOp Unit :=
  externalOr (fun guest => { guest with thawSent := true }) fun guest => { guest with thawSent := true }

def snapshotDisk (name : String) (disk : VmDiskSubvolume) : GuestOp Unit :=
  mapError (fun e => "failed to snapshot " ++ disk.filesystem ++ "/" ++ disk.subvolume ++ ": " ++ e)
    (external fun guest =>
      { guest with snapshots := (disk.filesystem, snapName disk.subvolume name) :: guest.snapshots })

section
variable (services : Services) (req : SnapshotVmRequest) (filesystemFilter ownerFilter : Option String)

def checkSnapshotDisk (disk : VmDiskSubvolume) : Except String Unit := do
  require (filesystemFilter.all (· = disk.filesystem) = true) "access denied"
  let _ ← (services.get disk.filesystem disk.subvolume ownerFilter).mapError SubvolumeError.display
  (validateSnapshotName disk.subvolume req.name).mapError SubvolumeError.display

def checkVmSnapshot : Except String (VmStatus × List VmDiskSubvolume) := do
  let vmStatus ← (services.vm req.id).mapError VmError.display
  let disks := resolveVmDisks services.subvolumes vmStatus.config
  require (disks ≠ []) "no block subvolumes found for this VM"
  disks.forM (checkSnapshotDisk services req filesystemFilter ownerFilter)
  pure (vmStatus, disks)

def vmSnapshot : GuestOp (List VmDiskSubvolume) := do
  let (vmStatus, disks) ← Fallible.ofExcept (checkVmSnapshot services req filesystemFilter ownerFilter)
  if vmStatus.running then ignoreError guestFsfreezeFreeze
  disks.forM (snapshotDisk req.name)
  if vmStatus.running then ignoreError guestFsfreezeThaw
  pure disks

end

section
variable (name : String) (disks : List VmDiskSubvolume) (guest : Guest) (faults : List (Option String))

theorem run_snapshots :
    ∃ r snapshots rest, run (disks.forM (snapshotDisk name)) ⟨guest, faults⟩ = (r, ⟨{ guest with snapshots }, rest⟩) ∧
      (r = .ok () ↔ ∀ fault ∈ faults.take disks.length, fault = none) := by
  induction disks generalizing guest faults with
  | nil => exact ⟨.ok (), _, faults, rfl, by simp⟩
  | cons disk disks ih =>
    have next (rest : List (Option String)) := ih
      { guest with snapshots := (disk.filesystem, snapName disk.subvolume name) :: guest.snapshots } rest
    rcases faults with _ | ⟨_ | e, rest⟩
    · obtain ⟨r, snapshots, rest, ran, ok⟩ := next []
      exact ⟨r, snapshots, rest, ran, by simpa using ok⟩
    · obtain ⟨r, snapshots, rest', ran, ok⟩ := next rest
      exact ⟨r, snapshots, rest', ran, by simpa using ok⟩
    · exact ⟨_, guest.snapshots, rest, rfl, by simp⟩

/-- What follows the freeze of a running guest: it gets a thaw if all snapshots are made. -/
theorem run_frozen (unsent : guest.thawSent = false) : let after := (run (do
      disks.forM (snapshotDisk name)
      ignoreError guestFsfreezeThaw
      pure disks : GuestOp (List VmDiskSubvolume)) ⟨guest, faults⟩).2.state
    after.froze = guest.froze ∧ (after.thawSent = true ↔ ∀ fault ∈ faults.take disks.length, fault = none) := by
  obtain ⟨r, snapshots, rest, ran, returned⟩ := run_snapshots name disks guest faults
  rw [← returned]
  cases r with
  | error e =>
    rw [run_bind_error ran]
    simpa using unsent
  | ok =>
    rw [run_bind_ok ran]
    rcases rest with _ | ⟨_ | e, rest⟩ <;> exact ⟨rfl, iff_of_true rfl rfl⟩

end

variable (services : Services) (req : SnapshotVmRequest) (filesystemFilter ownerFilter : Option String)

/-- A running guest that took the freeze is left frozen exactly if one of the snapshots fails: the error returns before the
thaw. -/
theorem vmSnapshot_thaws_iff (faults : List (Option String)) :
    ((run (vmSnapshot services req filesystemFilter ownerFilter) ⟨{}, faults⟩).2.state.froze = true →
      (run (vmSnapshot services req filesystemFilter ownerFilter) ⟨{}, faults⟩).2.state.thawSent = true) ↔
    ∀ vmStatus disks, checkVmSnapshot services req filesystemFilter ownerFilter = .ok (vmStatus, disks) →
      vmStatus.running = true → faults.head?.join = none → ∀ fault ∈ faults.tail.take disks.length, fault = none := by
  unfold vmSnapshot
  rw [run_bind, run_ofExcept]
  cases checkVmSnapshot services req filesystemFilter ownerFilter with
  | error e => simp
  | ok checked =>
    obtain ⟨⟨config, running⟩, disks⟩ := checked
    refine Iff.trans ?_ (b := running = true → faults.head?.join = none → ∀ fault ∈ faults.tail.take disks.length,
      fault = none) ⟨fun held _ _ same => by cases same; exact held, fun held => held _ _ rfl⟩
    cases running with
    | false =>
      obtain ⟨r, snapshots, rest, ran, -⟩ := run_snapshots req.name disks {} faults
      refine iff_of_true (fun froze => ?_) nofun
      change (run (disks.forM (snapshotDisk req.name) >>= fun _ => pure disks) ⟨{}, faults⟩).2.state.froze = true at froze
      rw [run_bind, ran] at froze
      cases r <;> cases froze
    | true =>
      rcases faults with _ | ⟨_ | e, rest⟩
      · obtain ⟨froze, thawed⟩ := run_frozen req.name disks { froze := true } [] rfl
        exact ⟨fun h _ _ => thawed.mp (h froze), fun h _ => thawed.mpr (h rfl rfl)⟩
      · obtain ⟨froze, thawed⟩ := run_frozen req.name disks { froze := true } rest rfl
        exact ⟨fun h _ _ => thawed.mp (h froze), fun h _ => thawed.mpr (h rfl rfl)⟩
      · obtain ⟨froze, -⟩ := run_frozen req.name disks {} rest rfl
        refine iff_of_true (fun same => ?_) (by simp)
        cases froze.symm.trans same

def loopVolume (name device : String) : Subvolume :=
  { name, filesystem := "tank", subvolumeType := .block, path := "/fs/tank/" ++ name, usedBytes := none, quotaBytes := none
    compression := none, comments := none, volsizeBytes := none, blockDevice := some device, blockVolumeId := none
    blockFilesystem := none, blockFilesystemUuid := none, snapshots := [], owner := none, properties := [], parent := none
    directIo := false, bcachefsOptions := [], bcachefsOverrides := [], bcachefsInheritedOptions := [] }

def twoDisks : Services where
  vm _ := .ok ⟨{ id := "m", name := "m", disks := [{ path := "/dev/loop0" }, { path := "/dev/loop1" }] }, true⟩
  subvolumes := [loopVolume "a" "/dev/loop0", loopVolume "b" "/dev/loop1"]
  get _ name _ := .ok (loopVolume name "/dev/loop0")

/-- The snapshot of the second disk fails. -/
theorem guest_left_frozen :
    (run (vmSnapshot twoDisks ⟨"m", "nightly"⟩ none none) ⟨{}, [none, none, some "No space left on device"]⟩).2.state =
      { froze := true, thawSent := false, snapshots := [("tank", "a@nightly")] } := by
  decide +kernel

end NastyEngine.Machines
