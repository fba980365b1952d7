import NastyEngine.Machines.Access
import NastyEngine.Machines.Identity
import NastyEngine.Volumes.Reads

/-!
A machine is launched on request, after a check for the session, or when the engine starts or a rollback has ended,
with no check but those of the service, which let every device pass.
-/

namespace NastyEngine.Machines
open Lib Rust Auth List
open Volumes (Unspaced shownFile shownFile_unspaced requireRootEquivalent)

inductive Event where
  | create (session : Session) (id : String) (req : CreateVmRequest)
  | update (session : Session) (req : UpdateVmRequest)
  | delete (session : Session) (id : String)
  | start (session : Session) (id : String)
  | clone (session : Session) (id source newName : String) (devices : List (Option String))
  | boot
  /-- The machines that a rollback of their volume has stopped are started again. -/
  | resume (ids : List String)

def Event.session : Event → Option Session
  | .create session _ _ | .update session _ | .delete session _ | .start session _ | .clone session _ _ _ _ => some session
  | .boot | .resume _ => none

structure Launched where
  site : Site
  asker : Option Session
  launch : Launch

def settle (store : Store) (result : Except String Store) : Store :=
  match result with
  | .ok store => store
  | .error _ => store

def step (site : Site) (event : Event) (store : Store) : Store × List Launched :=
  match event with
  | .create session id req => (settle store (dispatch session *> handleCreate site session id req store), [])
  | .update session req => (settle store (dispatch session *> handleUpdate site session req store), [])
  | .delete session id => (settle store (dispatch session *> handleDelete site session id store), [])
  | .clone session id source newName devices =>
    (settle store (dispatch session *> handleClone site session id source newName devices store), [])
  | .start session id => match dispatch session with
    | .error _ => (store, [])
    | .ok _ => ((handleStart site session id store).1, match (handleStart site session id store).2 with
      | .ok launch => [⟨site, some session, launch⟩]
      | .error _ => [])
  | .boot => ((restore site.toHost store).1, (restore site.toHost store).2.map fun launch => ⟨site, none, launch⟩)
  | .resume ids =>
    ((startAll site.toHost ids store).1, (startAll site.toHost ids store).2.map fun launch => ⟨site, none, launch⟩)

def launches : List (Site × Event) → Store → List Launched
  | [], _ => []
  | (site, event) :: rest, store => (step site event store).2 ++ launches rest (step site event store).1

def VmConfig.paths (config : VmConfig) : List String := config.disks.map (·.path) ++ config.cdroms

/-- A path leads to a regular file in a pool or to the loop device of a managed volume of the session's scope. -/
def Confined (site : Site) (session : Session) (path : String) : Prop :=
  ∃ canonical, site.canonicalize path = some canonical ∧
    ((startsWith canonical "/fs/" = true ∧ site.regular canonical = true) ∨
      ∃ volumes volume, site.volumes = some volumes ∧ volume ∈ volumes ∧ volume.block = true ∧
        volume.identified = true ∧ resourceMatchesScope session volume.filesystem volume.owner = true ∧
        site.table.loops.lookup canonical = some volume.image)

/-- The loop devices are listed with their files as they are, the images of the managed volumes are in
their places, and what the machine names in a pool are regular files. -/
structure Undisturbed (site : Site) (stored : VmConfig) : Prop where
  plain : ∀ device file, site.table.loops.lookup device = some file → Unspaced file
  inPlace : ∀ volumes, site.volumes = some volumes → ∀ volume ∈ volumes, volume.block = true →
    volume.identified = true → site.canonicalize volume.image = some volume.image
  regular : ∀ path ∈ stored.paths, ∀ canonical, site.canonicalize path = some canonical →
    startsWith canonical "/fs/" = true → site.regular canonical = true

section
variable {site : Site} {session : Session} {fields : VmSecurityFields}

theorem requireRoot_ok (granted : requireRoot session = .ok ()) : isUnscopedAdmin session = true := by
  unfold requireRoot at granted
  cases root : requireRootEquivalent session with
  | error error =>
    rw [root] at granted
    cases granted
  | ok _ =>
    obtain ⟨_, _, root⟩ := bind_ok root
    obtain ⟨_, admin, root⟩ := bind_ok root
    have admin := require_ok admin
    have unscoped := require_ok root
    simp [isUnscopedAdmin, isScoped, admin, unscoped.1, unscoped.2]

theorem payload_admitted (restricted : isUnscopedAdmin session = false)
    (ok : requireVmPayloadAccess site session fields = .ok ()) :
    ∃ managed, vmSecurityReason site fields managed = none ∧
      (managed = [] ∨ managedVmDisks site session = .ok managed) := by
  have refused : ∀ {α : Prop}, requireRoot session = .ok () → α := by
    intro α granted
    rw [requireRoot_ok granted] at restricted
    cases restricted
  obtain ⟨_, _, hardware⟩ := bind_ok ok
  unfold requireHardwareAccess at hardware
  split at hardware
  next none =>
    exact ⟨[], none, .inl rfl⟩
  · split at hardware
    · exact refused hardware
    · obtain ⟨managed, listed, hardware⟩ := bind_ok hardware
      split at hardware
      next none =>
        exact ⟨managed, none, .inr listed⟩
      · exact refused hardware

variable {managed : List ManagedVmDisk} {path id : String} {stored : VmConfig} {disk resolved : VmDisk}
  {store : Store} {launch : Launch}

theorem vmSecurityReason_none (none : vmSecurityReason site fields managed = none) :
    (∀ path ∈ fields.cdroms, pathResolvesUnderDev site path = false) ∧
      ∀ disk ∈ fields.disks, operatorDiskIsSafe site disk managed = true := by
  unfold vmSecurityReason at none
  split at none
  · cases none
  split at none
  · cases none
  split at none
  · cases none
  split at none
  · cases none
  split at none
  · cases none
  rename_i discs
  split at none
  · cases none
  rename_i disks
  simp only [Bool.or_eq_true, not_or, Bool.not_eq_true, any_eq_false] at discs disks
  refine ⟨fun path mem => by simpa using discs.1 path mem, ?_⟩
  intro disk mem
  simpa using disks disk mem

theorem mem_managedVmDisks (listed : managedVmDisks site session = .ok managed)
    {candidate : ManagedVmDisk} (mem : candidate ∈ managed) :
    ∃ volumes volume, site.volumes = some volumes ∧ volume ∈ volumes ∧ volume.block = true ∧
      volume.identified = true ∧ resourceMatchesScope session volume.filesystem volume.owner = true ∧
      candidate.device = volume.device site ∧ candidate.source = volume.image := by
  obtain ⟨volumes, all, done⟩ := bind_ok listed
  cases done
  obtain ⟨volume, kept, rfl⟩ := mem_map.mp mem
  obtain ⟨hm, matching⟩ := mem_filter.mp kept
  simp only [Bool.and_eq_true] at matching
  exact ⟨volumes, volume, okOr_ok all, hm, matching.1.2, matching.2, matching.1.1, rfl, rfl⟩

section
variable {device file shown : String}

section
variable (plain : ∀ device file, site.table.loops.lookup device = some file → Unspaced file)
include plain

theorem mem_losetupPairs_plain (mem : (device, shown) ∈ site.losetupPairs) :
    site.table.loops.lookup device = some shown := by
  cases works : site.losetup with
  | none =>
    rw [Host.losetupPairs, works] at mem
    cases mem
  | some width =>
    obtain ⟨file, attached, shows⟩ := (mem_losetupPairs works).mp mem
    rw [shownFile_unspaced (plain device file attached)] at shows
    cases shows
    exact attached

theorem device_attached {volume : Volume}
    (inPlace : site.canonicalize volume.image = some volume.image) (hit : volume.device site = some device) :
    site.table.loops.lookup device = some volume.image := by
  unfold Volume.device at hit
  split at hit
  · rw [inPlace] at hit
    obtain ⟨pair, mem, eq⟩ := mem_map.mp (collect_mem hit)
    obtain ⟨d, shown⟩ := pair
    cases eq
    exact mem_losetupPairs_plain plain mem
  · cases hit

theorem deviceForBackingFile_attached (hit : deviceForBackingFile site.losetupPairs shown = some device) :
    site.table.loops.lookup device = some shown := by
  obtain ⟨pair, first, rfl⟩ := Option.map_eq_some_iff.mp hit
  have eq : pair.2 = shown := by simpa using find?_some first
  rw [← eq]
  exact mem_losetupPairs_plain plain (mem_of_find?_eq_some first)

end

end

theorem pathsMatch_canonical {left right c d : String} (matching : pathsMatch site left right = true)
    (one : site.canonicalize left = some c) (two : site.canonicalize right = some d) : c = d := by
  have eq : components c = components d := by
    simpa [pathsMatch, resolve, one, two] using matching
  exact site.canonical left right c d one two eq

theorem checkLocation (checked : validateVmPath site.toHost path = .ok ()) :
    ∃ canonical, site.canonicalize path = some canonical ∧
      (startsWith canonical "/fs/" = true ∨ startsWith canonical "/dev/" = true) := by
  obtain ⟨canonical, eq, located⟩ := bind_ok checked
  exact ⟨canonical, okOr_ok eq, require_ok located⟩

theorem confined_of_file (checked : validateVmPath site.toHost path = .ok ())
    (outside : pathResolvesUnderDev site path = false)
    (regular : ∀ canonical, site.canonicalize path = some canonical → startsWith canonical "/fs/" = true →
      site.regular canonical = true) : Confined site session path := by
  obtain ⟨canonical, eq, pool | dev⟩ := checkLocation checked
  · exact ⟨canonical, eq, .inl ⟨pool, regular canonical eq pool⟩⟩
  · rw [pathResolvesUnderDev, resolve, eq, Option.getD_some, pathStartsWith_dev dev] at outside
    cases outside

theorem sourceless_path (plain : ∀ device file, site.table.loops.lookup device = some file → Unspaced file)
    (bare : disk.source = none)
    (ok : resolveDiskPath site.losetupPairs (backfillDiskSource site.losetupPairs disk) = .ok resolved) :
    resolved.path = disk.path := by
  unfold backfillDiskSource at ok
  split at ok
  · cases backing : backingFileForDevice site.losetupPairs disk.path with
    | none =>
      rw [backing] at ok
      cases ok
      rfl
    | some file =>
      rw [backing] at ok
      obtain ⟨dev, eq, done⟩ := bind_ok ok
      cases done
      have here := deviceForBackingFile_attached plain (okOr_ok eq)
      obtain ⟨pair, first, rfl⟩ := Option.map_eq_some_iff.mp backing
      have named : pair.1 = disk.path := by simpa using find?_some first
      have there := mem_losetupPairs_plain plain (mem_of_find?_eq_some first)
      rw [named] at there
      exact site.table.distinct _ _ _ here there
  · rw [resolveDiskPath, bare] at ok
    cases ok
    rfl

theorem confined_source {source : String}
    (calm : Undisturbed site stored) (listed : managedVmDisks site session = .ok managed)
    (given : disk.source = some source)
    (safe : managed.any (fun candidate => pathsMatch site source candidate.source) = true)
    (ok : resolveDiskPath site.losetupPairs disk = .ok resolved) : Confined site session resolved.path := by
  rw [resolveDiskPath, given] at ok
  obtain ⟨dev, hit, done⟩ := bind_ok ok
  cases done
  have attached := deviceForBackingFile_attached calm.plain (okOr_ok hit)
  obtain ⟨candidate, mem, matching⟩ := any_eq_true.mp safe
  obtain ⟨volumes, volume, all, hm, block, identified, scope, _, image⟩ := mem_managedVmDisks listed mem
  rw [image] at matching
  have eq : source = volume.image := pathsMatch_canonical matching
    (site.attached dev source attached (calm.plain dev source attached).2)
    (calm.inPlace volumes all volume hm block identified)
  rw [eq] at attached
  exact ⟨dev, site.nodes _ _ attached, .inr ⟨volumes, volume, all, hm, block, identified, scope, attached⟩⟩

theorem confined_disk (calm : Undisturbed site stored) (known : managed = [] ∨ managedVmDisks site session = .ok managed)
    (mem : disk ∈ stored.disks) (safe : operatorDiskIsSafe site disk managed = true)
    (ok : resolveDiskPath site.losetupPairs (backfillDiskSource site.losetupPairs disk) = .ok resolved)
    (checked : validateVmPath site.toHost resolved.path = .ok ()) : Confined site session resolved.path := by
  have listed : ∀ {p : ManagedVmDisk → Bool}, managed.any p = true → managedVmDisks site session = .ok managed := by
    intro p hit
    rcases known with rfl | listed
    · cases hit
    · exact listed
  unfold operatorDiskIsSafe at safe
  split at safe
  next source given =>
    rw [backfill_source (by rw [given]; exact Option.some_ne_none source)] at ok
    exact confined_source calm (listed safe) given safe ok
  next bare =>
    have eq := sourceless_path calm.plain bare ok
    rw [eq] at checked ⊢
    cases under : pathResolvesUnderDev site disk.path with
    | false =>
      refine confined_of_file checked under (calm.regular disk.path ?_)
      exact mem_append_left _ (mem_map.mpr ⟨disk, mem, rfl⟩)
    | true =>
      rw [under, Bool.not_true, Bool.false_or] at safe
      obtain ⟨candidate, hm, matching⟩ := any_eq_true.mp safe
      cases hit : candidate.device with
      | none =>
        rw [hit] at matching
        cases matching
      | some device =>
        rw [hit, Option.any_some] at matching
        obtain ⟨volumes, volume, all, there, block, identified, scope, own, _⟩ := mem_managedVmDisks (listed safe) hm
        have attached := device_attached calm.plain (calm.inPlace volumes all volume there block identified)
          (own.symm.trans hit)
        obtain ⟨canonical, leads, _⟩ := checkLocation checked
        rw [pathsMatch_canonical matching leads (site.nodes _ _ attached)] at leads
        exact ⟨_, leads, .inr ⟨volumes, volume, all, there, block, identified, scope, attached⟩⟩

variable {stored : VmConfig}

theorem checkDisk_path (checked : checkDisk site.toHost disk = .ok ()) :
    validateVmPath site.toHost disk.path = .ok () := by
  obtain ⟨_, _, checked⟩ := bind_ok checked
  obtain ⟨_, _, checked⟩ := bind_ok checked
  exact checked

theorem checkCdrom_path {iso : String} (checked : checkCdrom site.toHost iso = .ok ()) :
    validateVmPath site.toHost iso = .ok () := by
  obtain ⟨_, _, checked⟩ := bind_ok checked
  obtain ⟨_, _, checked⟩ := bind_ok checked
  exact checked

theorem confined_launch (restricted : isUnscopedAdmin session = false)
    (ok : requireVmPayloadAccess site session stored.securityFields = .ok ()) (calm : Undisturbed site stored)
    {disks : List VmDisk} (passes : resolvedDisks site.toHost stored.disks = .ok disks)
    (checked : checkLaunch site.toHost { stored with disks } = .ok ()) :
    ∀ path ∈ ({ stored with disks } : VmConfig).paths, Confined site session path := by
  obtain ⟨managed, none, known⟩ := payload_admitted restricted ok
  obtain ⟨discs, safe⟩ := vmSecurityReason_none none
  obtain ⟨_, disksOk, checked⟩ := bind_ok checked
  obtain ⟨_, discsOk, _⟩ := bind_ok checked
  intro path mem
  rcases mem_append.mp mem with disk | disc
  · obtain ⟨after, hm, rfl⟩ := mem_map.mp disk
    obtain ⟨before, held, resolves⟩ := resolvedDisks_mem passes hm
    exact confined_disk calm known held (safe before held) resolves (checkDisk_path (forM_ok disksOk after hm))
  · refine confined_of_file (checkCdrom_path (forM_ok discsOk path disc)) (discs path disc) (calm.regular path ?_)
    exact mem_append_right _ disc

/-- What a launch shows: QEMU was given the stored machine, its disks resolved and checked. -/
def Proper (site : Site) (launch : Launch) : Prop :=
  ∃ disks, resolvedDisks site.toHost launch.stored.disks = .ok disks ∧
    launch.config = { launch.stored with disks } ∧ checkLaunch site.toHost launch.config = .ok ()

theorem startLaunch_proper (launched : (startLaunch site.toHost id store).2 = some launch) : Proper site launch := by
  unfold startLaunch at launched
  split at launched
  next config result loaded started =>
    cases launched
    obtain ⟨other, disks, again, ok, eq, checked⟩ := start_launched started
    rw [loaded] at again
    cases again
    exact ⟨disks, ok, eq, checked⟩
  · cases launched

theorem startAll_proper {ids : List String} (mem : launch ∈ (startAll site.toHost ids store).2) : Proper site launch := by
  revert launch
  refine List.foldlRecOn (motive := fun done : Store × List Launch => ∀ {launch}, launch ∈ done.2 → Proper site launch) _ _
    (fun none => by cases none) ?_
  intro done before machine _ launch hm
  rcases mem_append.mp hm with old | new
  · exact before old
  · exact startLaunch_proper (Option.mem_toList.mp new)

theorem handleStart_proper (launched : (handleStart site session id store).2 = .ok launch) :
    Proper site launch ∧ requireVmPayloadAccess site session launch.stored.securityFields = .ok () := by
  unfold handleStart at launched
  dsimp only at launched
  split at launched
  · cases launched
  next config allowed =>
    obtain ⟨found, got, allowed⟩ := bind_ok allowed
    obtain ⟨_, admitted, eq⟩ := bind_ok allowed
    cases eq
    obtain ⟨result, started, rfl⟩ := map_ok launched
    refine ⟨?_, admitted⟩
    cases run : (start site.toHost id store).2 with
    | error error =>
      rw [run] at started
      cases started
    | ok other =>
      rw [run] at started
      cases started
      obtain ⟨config, disks, loaded, passes, rfl, checked⟩ := start_launched run
      rw [getConfig, loaded] at got
      cases got
      exact ⟨disks, passes, rfl, checked⟩

theorem step_proper {event : Event} {launched : Launched} (mem : launched ∈ (step site event store).2) :
    launched.asker = event.session ∧ Proper launched.site launched.launch ∧ ∀ session, launched.asker = some session →
        requireVmPayloadAccess launched.site session launched.launch.stored.securityFields = .ok () := by
  cases event with
  | create | update | delete | clone => cases mem
  | start session id =>
    unfold step at mem
    dsimp only at mem
    split at mem
    · cases mem
    · split at mem
      next launch started =>
        cases mem_singleton.mp mem
        obtain ⟨proper, ok⟩ := handleStart_proper started
        refine ⟨rfl, proper, ?_⟩
        rintro _ ⟨⟩
        exact ok
      · cases mem
  | boot | resume =>
    obtain ⟨launch, hm, rfl⟩ := mem_map.mp mem
    refine ⟨rfl, startAll_proper hm, ?_⟩
    rintro _ ⟨⟩

end

/-- **In every run of requests by sessions that are not those of unscoped admins: where the loop devices are
listed as they are, the images are in their places and the machine's files are regular, every machine
that is launched on request has only paths that are confined to the scope of the session. One that is
launched with no request has if the policy would still admit it for a session. A file is attached to one loop
device at most (`LoopTable.distinct`).** -/
theorem launches_confined (run : List (Site × Event)) (store : Store)
    (restricted : ∀ move ∈ run, ∀ session, move.2.session = some session → isUnscopedAdmin session = false) :
    ∀ launched ∈ launches run store, ∀ session, (launched.asker = some session ∨ isUnscopedAdmin session = false ∧
        requireVmPayloadAccess launched.site session launched.launch.stored.securityFields = .ok ()) →
      Undisturbed launched.site launched.launch.stored →
      ∀ path ∈ launched.launch.config.paths, Confined launched.site session path := by
  induction run generalizing store with
  | nil =>
    intro launched none
    cases none
  | cons move run ih =>
    intro launched member session admitted calm
    rcases mem_append.mp member with now | later
    · obtain ⟨asker, ⟨disks, passes, same, checked⟩, checkedFor⟩ := step_proper now
      have both : isUnscopedAdmin session = false ∧
          requireVmPayloadAccess launched.site session launched.launch.stored.securityFields = .ok () := by
        rcases admitted with asked | both
        · exact ⟨restricted _ mem_cons_self session (asker.symm.trans asked), checkedFor session asked⟩
        · exact both
      rw [same] at checked ⊢
      exact confined_launch both.1 both.2 calm passes checked
    · exact ih _ (fun move inside => restricted move (mem_cons_of_mem _ inside)) launched later session admitted calm

def diskPaths (target : String) : List String :=
  [target, "/dev/loop0", "/dev/loop1", "/fs/tank/vol/vol.img", "/fs/tank/other/vol.img"]

/-- A disk image, which may have been replaced by a link, and two volumes with their loop devices. -/
def diskSite (target : String) (single : ∀ c ∈ diskPaths target, ∀ d ∈ diskPaths target,
    components c = components d → c = d) : Site where
  canonicalize path := if path = "/fs/tank/disk.img" then some target else (diskPaths target).tail.find? (· = path)
  regular _ := true
  table := loopTable "/fs/tank/vol/vol.img" "/fs/tank/other/vol.img" (by decide) (by decide)
  losetup := some 10
  kvm := true
  running _ := false
  bridge _ := true
  writable := fun _ => true
  planted _ := none
  prepare _ := .ok ()
  volumes := some [⟨"tank", none, "/fs/tank/vol", true, true⟩]
  nodes := by
    intro device file there
    rcases lookup_two there with ⟨rfl, -⟩ | ⟨rfl, -⟩ <;> rfl
  attached := by
    intro device file there _
    rcases lookup_two there with ⟨-, rfl⟩ | ⟨-, rfl⟩ <;> rfl
  canonical := by
    have listed : ∀ path c, (if path = "/fs/tank/disk.img" then some target
        else (diskPaths target).tail.find? (· = path)) = some c → c ∈ diskPaths target := by
      intro path c found
      split at found
      · cases found
        exact mem_cons_self
      · exact mem_cons_of_mem _ (mem_of_find?_eq_some found)
    exact fun one two c d left right same => single c (listed one c left) d (listed two d right) same

def fileSite : Site := diskSite "/fs/tank/disk.img" (by decide +kernel)

def linkSite : Site := diskSite "/dev/sda" (by decide +kernel)

def operator : Session where
  token := "t"
  username := "operator"
  role := .operator
  filePrincipal := none
  createdAt := 0
  mustChangePassword := false
  clientIp := none

def autostarted : Event :=
  .create operator "m" { name := "guest", disks := some [{ path := "/fs/tank/disk.img" }, { path := "/dev/loop0" }]
                         autostart := some true }

def guest : VmConfig :=
  { id := "m", name := "guest", autostart := true
    disks := [{ path := "/fs/tank/disk.img" }, { path := "/dev/loop0", source := some "/fs/tank/vol/vol.img" }] }

theorem fileSite_undisturbed (stored : VmConfig) : Undisturbed fileSite stored where
  plain device file there := by
    unfold Unspaced
    rcases lookup_two there with ⟨-, rfl⟩ | ⟨-, rfl⟩ <;> decide
  inPlace volumes all := by
    cases all
    intro volume mem _ _
    cases mem_singleton.mp mem
    rfl
  regular _ _ _ _ _ := rfl

theorem launches_confined_operator :
    ∃ launched ∈ launches [(fileSite, autostarted), (fileSite, .start operator "m")] ∅,
      launched.launch.config = guest ∧ ∀ path ∈ ["/fs/tank/disk.img", "/dev/loop0"], Confined fileSite operator path := by
  have member : ⟨fileSite, some operator, ⟨guest, guest⟩⟩ ∈
      launches [(fileSite, autostarted), (fileSite, .start operator "m")] ∅ := by
    have all : launches [(fileSite, autostarted), (fileSite, .start operator "m")] ∅ =
        [⟨fileSite, some operator, ⟨guest, guest⟩⟩] := by rfl
    exact all ▸ mem_singleton_self _
  have restricted : ∀ move ∈ [(fileSite, autostarted), (fileSite, Event.start operator "m")], ∀ session,
      move.2.session = some session → isUnscopedAdmin session = false := by
    intro move inside session asked
    simp only [mem_cons, not_mem_nil, or_false] at inside
    rcases inside with rfl | rfl <;> (cases asked; decide)
  exact ⟨_, member, rfl,
    launches_confined _ ∅ restricted _ member operator (.inl rfl) (fileSite_undisturbed _)⟩

/-- **The image file is replaced by a link to a disk before the engine starts the machine by itself.** -/
theorem boot_launches_disk :
    ∃ launched ∈ launches [(fileSite, autostarted), (linkSite, .boot)] ∅,
      "/fs/tank/disk.img" ∈ launched.launch.config.paths ∧
        launched.site.canonicalize "/fs/tank/disk.img" = some "/dev/sda" ∧
        ∀ session, ¬ Confined launched.site session "/fs/tank/disk.img" := by
  have all : launches [(fileSite, autostarted), (linkSite, .boot)] ∅ = [⟨linkSite, none, ⟨guest, guest⟩⟩] := by rfl
  refine ⟨_, all ▸ mem_singleton_self _, mem_cons_self, rfl, ?_⟩
  rintro session ⟨canonical, there, ⟨pool, _⟩ | ⟨_, _, _, _, _, _, _, attached⟩⟩
  · cases there
    exact absurd pool (by decide)
  · cases there
    cases attached

end NastyEngine.Machines
