import NastyEngine.Pools.Looks

/-!
An operation on a name changes one pool at most, and if the name has an entry then it is the pool whose
UUID is in the entry, whatever the list that was kept says. What is mounted at a path is known by the superblock on its
first device, so the mounts of another pool are safe only where no such device now shows the pool of the entry.
-/

namespace NastyEngine.Pools
open Lib Fallible
open Storage (FilesystemError CreateFilesystemRequest)

def Bound (s : Host) (name uuid : String) : Prop := ∀ opts, s.registered name = some opts → opts.uuid = some uuid

structure Idle (s t : Host) : Prop where
  machine : t.machine = s.machine
  registry : t.registry = s.registry

structure Acting (uuid : String) (s t : Host) : Prop where
  machine : Apart (s.machine.Genuine uuid) uuid s.machine t.machine
  registry : t.registry = s.registry

/-- One pool may have changed, and the entry of one name. A file that could not be written is lost as a whole. -/
structure Acted (name uuid : String) (s t : Host) : Prop where
  machine : Apart (s.machine.Genuine uuid) uuid s.machine t.machine
  others : t.registry.content = .broken ∅ ∨ ∀ other, other ≠ name → t.registered other = s.registered other
  own : t.registered name = s.registered name ∨ Bound t name uuid

/-- It is about devices, mounts and entries only. -/
def Blind (J : Host → Prop) : Prop := ∀ s t, t.machine = s.machine → t.registry = s.registry → J s → J t

variable {J : Host → Prop}

theorem Blind.outer (blind : Blind J) (effect : Host → Host) (outer : Outer effect) (s : Host)
    (inv : J s) : J (effect s) := blind s _ (outer.machine s) (outer.registry s) inv

theorem Blind.light (blind : Blind J) (effect : Host → Host) (light : Light effect) (s : Host)
    (inv : J s) : J (effect s) := blind.outer effect light.toOuter s inv

theorem Blind.onMachine (blind : Blind J) (machine : Machine) : Blind fun s => J s ∧ s.machine = machine :=
  fun s t eq registry inv => ⟨blind s t eq registry inv.1, eq.trans inv.2⟩

section
variable {s t : Host} {name uuid : String}

theorem Idle.refl : Idle s s := ⟨rfl, rfl⟩

variable {u : Host} {fs : Filesystem} {looks : Nat} {opts : FsMountOptions} {made : Made}
  {req : CreateFilesystemRequest}

theorem Idle.trans (first : Idle s t) (second : Idle t u) : Idle s u :=
  ⟨second.machine.trans first.machine, second.registry.trans first.registry⟩

theorem idle_blind (s : Host) : Blind (Idle s) := fun _ _ machine registry idle => idle.trans ⟨machine, registry⟩

theorem Idle.acting (idle : Idle s t) : Acting uuid s t := ⟨idle.machine ▸ Apart.refl, idle.registry⟩

theorem Acting.onMachine {f : Machine → Machine} (acting : Acting uuid s t)
    (apart : Apart (s.machine.Genuine uuid) uuid t.machine (f t.machine)) :
    Acting uuid s (t.onMachine f) := ⟨acting.machine.trans apart, acting.registry⟩

theorem registered_congr (registry : t.registry = s.registry) : t.registered = s.registered := by
  funext other
  rw [Host.registered, registry]
  rfl

theorem Acting.acted (acting : Acting uuid s t) : Acted name uuid s t := by
  have eq := registered_congr acting.registry
  exact ⟨acting.machine, .inr fun other _ => congrFun eq other, .inl (congrFun eq name)⟩

theorem Acted.idle (acted : Acted name uuid s t) (idle : Idle t u) : Acted name uuid s u := by
  have eq := registered_congr idle.registry
  refine ⟨idle.machine ▸ acted.machine, ?_, ?_⟩
  · rw [idle.registry, eq]
    exact acted.others
  · rw [Bound, eq]
    exact acted.own

theorem acted_blind (name uuid : String) (s : Host) : Blind (Acted name uuid s) :=
  fun _ _ machine registry acted => acted.idle ⟨machine, registry⟩

theorem acting_blind (uuid : String) (s : Host) : Blind (Acting uuid s) :=
  fun _ _ machine registry acting => ⟨machine ▸ acting.machine, registry.trans acting.registry⟩

/-! ### The state file -/

theorem Acted.broken {registry : Registry} (apart : Apart (s.machine.Genuine uuid) uuid s.machine t.machine)
    (broken : registry.content = .broken ∅) : Acted name uuid s { t with registry := registry } := by
  refine ⟨apart, .inl broken, .inr fun opts eq => ?_⟩
  rw [Host.registered, Registry.load] at eq
  rw [broken] at eq
  cases eq

theorem Acting.written {entries : FsState} {writers : Nat} (acting : Acting uuid s t)
    (others : ∀ other, other ≠ name → entries.lookup other = t.registered other)
    (own : ∀ opts, entries.lookup name = some opts → opts.uuid = some uuid) :
    Acted name uuid s { t with registry := ⟨.state entries, writers⟩ } := by
  refine ⟨acting.machine, .inr fun other ne => ?_, .inr own⟩
  change entries.lookup other = s.registry.load.lookup other
  rw [← acting.registry]
  exact others other ne

theorem saveFsState_stays {entries : FsState} (inv : J t)
    (emptied : ∀ writers, J { t with registry := ⟨.broken ∅, writers⟩ })
    (written : ∀ writers, J { t with registry := ⟨.state entries, writers⟩ }) :
    Stays J (saveFsState entries) (fun _ _ => True) t := by
  refine .then (I := fun u => u = t ∨ u = t.onRegistry Registry.truncate)
    (R := fun _ u => u = t.onRegistry Registry.truncate) ?_ ?_ ?_
  · exact .mapError (.external (.inl rfl) (.inr rfl) rfl)
  · rintro u (rfl | rfl)
    · exact inv
    · exact emptied _
  · rintro _ _ _ rfl
    exact .mapError (.externalOr (written _) (emptied _) trivial)

theorem editFsState_stays {change : FsState → FsState} (inv : J t)
    (emptied : ∀ writers, J { t with registry := ⟨.broken ∅, writers⟩ })
    (written : ∀ writers, J { t with registry := ⟨.state (change t.registry.load), writers⟩ }) :
    Stays J (editFsState change) (fun _ _ => True) t := by
  refine .observed inv ?_
  refine .bind (.succeeds (saveFsState_stays inv emptied written)) fun _ u inv _ => ?_
  exact .pure inv trivial

section
variable (acting : Acting uuid s t)
include acting

theorem insert_acted {make : FsState → FsMountOptions} (own : ∀ entries, (make entries).uuid = some uuid) :
    Stays (fun u => Acted name uuid s u ∧ u.machine = t.machine)
      (editFsState fun entries => entries.insert name (make entries)) (fun _ _ => True) t := by
  refine editFsState_stays ⟨acting.acted, rfl⟩ (fun writers => ⟨?_, rfl⟩) fun writers => ⟨?_, rfl⟩
  · exact .broken acting.machine rfl
  · refine acting.written (fun other ne => AList.lookup_insert_ne ne) fun opts eq => ?_
    rw [AList.lookup_insert] at eq
    cases eq
    exact own _

theorem erase_acted : Stays (Acted name uuid s) (saveFsState (t.registry.load.erase name)) (fun _ _ => True) t := by
  refine saveFsState_stays acting.acted (fun _ => .broken acting.machine rfl) fun _ => ?_
  refine acting.written (fun other ne => AList.lookup_erase_ne ne) fun opts eq => ?_
  rw [AList.lookup_erase] at eq
  cases eq

theorem forgetFs_acted : Stays (Acted name uuid s) (forgetFs name) (fun _ _ => True) t := by
  refine .observed acting.acted ?_
  split
  · exact .bind (.succeeds (erase_acted acting)) fun _ u inv _ => .pure inv trivial
  · exact .pure acting.acted trivial

end

/-! ### Finding the pool -/

theorem expectedUuid_ok {state : FsState} {expected : Option String} (ok : expectedUuid state name = .ok expected) :
    ∀ opts, state.lookup name = some opts → ∃ uuid, opts.uuid = some uuid ∧ expected = some uuid ∧ uuid ≠ "" := by
  intro opts there
  rw [expectedUuid, there] at ok
  dsimp only at ok
  cases known : opts.uuid.filter (· ≠ "") with
  | none =>
    rw [known] at ok
    cases ok
  | some uuid =>
    rw [known] at ok
    cases ok
    obtain ⟨eq, filled⟩ := Option.filter_eq_some_iff.mp known
    exact ⟨uuid, eq, rfl, of_decide_eq_true filled⟩

theorem selectFilesystemForMount_ok {filesystems : List Filesystem}
    (ok : selectFilesystemForMount filesystems name (some uuid) = .ok fs) : fs.uuid = uuid := by
  have hit := okOr_ok ok
  have eq := List.find?_some hit
  exact of_decide_eq_true eq

theorem get_bound : Stays (Idle s) (get name) (fun fs _ => Bound s name fs.uuid) s := by
  refine .observed .refl ?_
  refine .checked .refl fun expected ok => ?_
  refine .bind (list_closed preserves_closed (idle_blind s).light s .refl) fun filesystems t idle _ => ?_
  refine .ofExcept idle fun fs selected opts there => ?_
  obtain ⟨uuid, eq, rfl, _⟩ := expectedUuid_ok ok opts there
  rw [selectFilesystemForMount_ok selected]
  exact eq

def ActedOn (s : Host) (name : String) (t : Host) : Prop := Idle s t ∨ ∃ uuid, Bound s name uuid ∧ Acted name uuid s t

theorem actedOn_blind (s : Host) (name : String) : Blind (ActedOn s name) := by
  rintro t u machine registry (idle | ⟨uuid, bound, acted⟩)
  · exact .inl (idle.trans ⟨machine, registry⟩)
  · exact .inr ⟨uuid, bound, acted.idle ⟨machine, registry⟩⟩

theorem Idle.actedOn (idle : Idle s t) (acted : ActedOn t name u) : ActedOn s name u := by
  have eq := registered_congr idle.registry
  rcases acted with idle' | ⟨uuid, bound, acted⟩
  · exact .inl (idle.trans idle')
  · rw [Bound, eq] at bound
    refine .inr ⟨uuid, bound, idle.machine ▸ acted.machine, ?_, ?_⟩
    · rw [← eq]
      exact acted.others
    · rw [← eq]
      exact acted.own

theorem on_pool {α : Type} {rest : Filesystem → Op α} {Q : α → Host → Prop}
    (acts : ∀ fs t, Bound s name fs.uuid → Idle s t → Stays (Acted name fs.uuid s) (rest fs) Q t) :
    Stays (ActedOn s name) (get name >>= rest) Q s :=
  .then get_bound (fun _ => .inl) fun fs t idle bound =>
    .weaken (acts fs t bound idle) fun _ acted => .inr ⟨fs.uuid, bound, acted⟩

/-! ### Unmounting -/

theorem Idle.genuine_at {mountPoint : String} (idle : Idle s t) (told : t.machine.toldAt mountPoint = some uuid)
    (genuine : s.machine.Genuine uuid) : t.machine.poolAt mountPoint = some uuid := by
  rw [idle.machine] at told ⊢
  exact genuine mountPoint told

theorem umountAt_acting {mountPoint : String} (acting : Acting uuid s t)
    (own : s.machine.Genuine uuid → t.machine.poolAt mountPoint = some uuid) :
    Stays (Acting uuid s) (umountAt mountPoint) (fun _ u => u.machine.members = t.machine.members) t :=
  possibly_stays acting (fun _ => acting.onMachine (.unmount_target own)) fun _ => rfl

theorem unmountListed_acting (fs : Filesystem) (idle : Idle s t) :
    Stays (Acting fs.uuid s) (unmountListed fs) (fun _ _ => True) t := by
  unfold unmountListed
  split
  next mountPoint _ _ =>
    refine .quiet verifyMountpointIdentity_tells idle.acting fun _ told => ?_
    exact .mono (.mapError (umountAt_acting idle.acting (idle.genuine_at told))) fun _ _ _ _ => trivial
  · exact .pure idle.acting trivial

theorem unmount_acts : Stays (ActedOn s name) (unmount name) (fun _ _ => True) s := by
  refine on_pool fun fs t bound idle => ?_
  refine .then (unmountListed_acting fs idle) (fun _ acting => acting.acted) fun _ t acting _ => ?_
  refine .then (insert_acted acting fun _ => rfl) (fun _ inv => inv.1) fun _ t inv _ => ?_
  exact invalidateListCache_closed preserves_closed (acted_blind name fs.uuid s).light t inv.1

/-! ### Destroying -/

def Own (uuid : String) (devices : List String) (machine : Machine) : Prop :=
  ∀ device ∈ devices, ∀ superblock, machine.members.lookup device = some superblock → superblock.uuid = uuid

theorem own_of_known {devices : List String} (known : ∀ device ∈ devices, t.machine.uuidOf device = some uuid) :
    Own uuid devices t.machine := by
  intro device mem superblock there
  obtain ⟨other, there', eq⟩ := Machine.uuidOf_some (known device mem)
  cases there.symm.trans there'
  exact eq

structure Clearing (fs : Filesystem) (s t : Host) : Prop where
  acting : Acting fs.uuid s t
  own : Own fs.uuid fs.devices t.machine

theorem Clearing.unmount {kind : Mount → Bool} (clearing : Clearing fs s t)
    (apart : Apart (s.machine.Genuine fs.uuid) fs.uuid t.machine (t.machine.unmount kind)) :
    Clearing fs s (t.onMachine (Machine.unmount kind)) :=
  ⟨clearing.acting.onMachine apart, clearing.own⟩

theorem unmountForDestroy_clearing (idle : Idle s t) (clearing : Clearing fs s t) :
    Stays (Clearing fs s) (unmountForDestroy fs) (fun _ _ => True) t := by
  unfold unmountForDestroy
  split
  next mountPoint _ _ =>
    refine .quiet verifyMountpointIdentity_tells clearing fun _ told => ?_
    refine .quiet (command_closed preserves_closed (fun _ eq => eq) t rfl) clearing fun _ _ => ?_
    have own := idle.genuine_at told
    exact .mapError (possibly_stays clearing (fun _ => clearing.unmount (.unmount_target own)) fun _ => trivial)
  · exact .pure clearing trivial

theorem wipeDevices_clearing (fs : Filesystem) : Preserves (Clearing fs s) (fs.devices.forM wipeDevice) := by
  refine Preserves.forM fun device mem => Preserves.mapError (possibly_preserves fun t clearing _ => ?_)
  refine ⟨clearing.acting.onMachine (.wipe (clearing.own device mem)), fun other listed superblock eq => ?_⟩
  exact clearing.own other listed superblock (Keyed.lookup_of_erase eq)

theorem destroy_acts {confirmName : String} : Stays (ActedOn s name) (destroy name confirmName) (fun _ _ => True) s := by
  refine .checked (.inl .refl) fun _ _ => on_pool fun fs t bound idle => ?_
  have acting : Acting fs.uuid s t := idle.acting
  refine .quiet verifyDevicePathsUuid_tells acting.acted fun _ known => ?_
  have acted : ∀ u, Clearing fs s u → Acted name fs.uuid s u := fun _ clearing => clearing.acting.acted
  have clearing : Clearing fs s t := ⟨acting, own_of_known known⟩
  refine .quiet (verifyIfMounted_closed preserves_closed t rfl) acting.acted fun _ _ => ?_
  refine .then (unmountForDestroy_clearing idle clearing) acted fun _ t clearing _ => ?_
  have unmounted : Preserves (Clearing fs s) (umountUuid fs.uuid) :=
    possibly_preserves fun _ clearing _ => clearing.unmount .unmount_pool
  refine Stays.then (Preserves.attempt unmounted t clearing) acted fun _ t clearing _ => ?_
  refine .then (isMountpoint_closed preserves_closed t clearing) acted fun _ t clearing _ => ?_
  refine .then (check_preserves t clearing) acted fun _ t clearing _ => ?_
  have removed : Preserves (Clearing fs s) (removeDir (mountPointOf name)) :=
    tried_closed preserves_closed fun _ clearing => ⟨⟨clearing.acting.machine, clearing.acting.registry⟩, clearing.own⟩
  refine .then (removed t clearing) acted fun _ t clearing _ => ?_
  refine .then (wipeDevices_clearing fs t clearing) acted fun _ t clearing _ => ?_
  refine .bind (forgetFs_acted clearing.acting) fun _ t acted _ => ?_
  refine .bind (look_preserves t acted) fun _ t acted _ => ?_
  refine .bind (look_preserves t acted) fun _ t acted _ => ?_
  exact invalidateListCache_closed preserves_closed (acted_blind name fs.uuid s).light t acted

/-! ### Forgetting -/

theorem validateForgetUnavailable_ok {state : FsState} {expected confirmName : String}
    (ok : validateForgetUnavailable state name expected confirmName = .ok ()) :
    ∃ opts, state.lookup name = some opts ∧ opts.uuid = some expected := by
  obtain ⟨_, _, ok⟩ := bind_ok ok
  obtain ⟨opts, there, ok⟩ := bind_ok ok
  obtain ⟨persisted, known, ok⟩ := bind_ok ok
  have eq : persisted = expected := require_ok ok
  subst eq
  exact ⟨opts, okOr_ok there, (Option.filter_eq_some_iff.mp (okOr_ok known)).1⟩

theorem loadFsStateStrict_tells : Stays (· = s) loadFsStateStrict (fun state _ => state = s.registry.load) s := by
  refine .observed rfl ?_
  refine .ofExcept rfl fun state ok => ?_
  unfold Registry.loadStrict at ok
  unfold Registry.load
  split at ok <;> cases ok <;> rfl

theorem forgetUnavailable_acts {expected confirmName : String} :
    Stays (ActedOn s name) (forgetUnavailable name expected confirmName) (fun _ _ => True) s := by
  refine .quiet loadFsStateStrict_tells (.inl .refl) ?_
  rintro _ rfl
  refine .checked (.inl .refl) fun _ ok => ?_
  obtain ⟨opts, there, eq⟩ := validateForgetUnavailable_ok ok
  have bound : Bound s name expected := by
    intro other there'
    cases there.symm.trans there'
    exact eq
  refine .quiet (isMountpoint_closed preserves_closed s rfl) (.inl .refl) fun _ _ => ?_
  refine .checked (.inl .refl) fun _ _ => ?_
  refine .quiet (filesystemUuidIsVisible_closed preserves_closed s rfl) (.inl .refl) fun _ _ => ?_
  refine .checked (.inl .refl) fun _ _ => ?_
  refine .weaken (I := Acted name expected s) ?_ fun _ acted => .inr ⟨expected, bound, acted⟩
  exact .bind (erase_acted Idle.refl.acting) fun _ t acted _ =>
    invalidateListCache_closed preserves_closed (acted_blind name expected s).light t acted

/-! ### Mounting -/

theorem bcachefsMount_acting {devices : List String} (target : String) (acting : Acting uuid s t)
    (known : ∀ device ∈ devices, t.machine.uuidOf device = some uuid) :
    Stays (Acting uuid s) (bcachefsMount devices target)
      (fun _ u => u.machine.poolAt target = some uuid ∧ devices ≠ []) t := by
  have pool : t.mountable devices = true → t.machine.poolOf devices = some uuid := by
    intro can
    rcases Machine.poolOf_of_members known with none | eq
    · rw [Host.mountable, none] at can
      cases can
    · exact eq
  refine .mapError (possibly_stays acting (fun can => acting.onMachine (Apart.mount (pool can))) fun can => ⟨?_, ?_⟩)
  case refine_2 =>
    rintro rfl
    cases pool can
  exact Machine.poolAt_mount (m := t.newMount devices target) (pool can)

theorem relist_stays (name uuid : String) (blind : Blind J) (inv : J t) :
    Stays J (relist name uuid) (fun found _ => found.uuid = uuid) t := by
  refine .bind (invalidateListCache_closed preserves_closed blind.light t inv) fun _ t inv _ => ?_
  refine .bind (list_closed preserves_closed blind.light t inv) fun filesystems t inv _ => ?_
  exact .ofExcept inv fun found ok => selectFilesystemForMount_ok ok

def Placed (s : Host) (name uuid : String) (found : Filesystem) (t : Host) : Prop :=
  found.uuid = uuid ∧ (s.machine.Genuine uuid → t.machine.poolAt (mountPointOf name) = some uuid)

theorem mountDevices_acted (idle : Idle s t) (known : ∀ device ∈ fs.devices, s.machine.uuidOf device = some fs.uuid) :
    Stays (Acted name fs.uuid s) (mountDevices looks name opts fs) (Placed s name fs.uuid) t := by
  refine .then (unlockForMount_closed preserves_closed (idle_blind s).light t idle)
    (fun _ idle => idle.acting.acted) fun unlocked t idle _ => ?_
  have mounts := bcachefsMount_acting (mountPointOf name) idle.acting (fun device mem => idle.machine ▸ known device mem)
  refine .then (.attempt mounts) (fun _ acting => acting.acted) fun result t acting mounted => ?_
  cases result with
  | error e => exact failMount_stays (acted_blind name fs.uuid s).light acting.acted
  | ok _ =>
    have placed : t.machine.poolAt (mountPointOf name) = some fs.uuid := (mounted () rfl).1
    refine .quiet (mountedFsUuidAfterMount_closed preserves_closed t rfl) acting.acted fun mountedUuid _ => ?_
    split
    · refine .then (insert_acted acting fun _ => rfl) (fun _ inv => inv.1) fun _ u inv _ => ?_
      have listed := relist_stays name fs.uuid ((acted_blind name fs.uuid s).onMachine t.machine) inv
      refine .weaken (.mono listed fun found u inv eq => ⟨eq, fun _ => ?_⟩) fun _ inv => inv.1
      rw [inv.2]
      exact placed
    · refine .then (.attempt (umountAt_acting acting fun _ => placed)) (fun _ acting => acting.acted) fun _ u acting _ => ?_
      exact failMount_stays (acted_blind name fs.uuid s).light acting.acted

theorem mountSelected_acted (idle : Idle s t) :
    Stays (Acted name fs.uuid s) (mountSelected looks name opts fs) (Placed s name fs.uuid) t := by
  have acted : Acted name fs.uuid s t := idle.acting.acted
  refine .quiet (isMountpoint_closed preserves_closed t rfl) acted fun occupied _ => ?_
  split
  · refine .quiet mountedFsUuidAt_tells acted fun actual told => ?_
    split
    next eq =>
      have listed := relist_stays name fs.uuid (idle_blind s) idle
      refine .weaken (.mono listed fun found u idle' same' => ⟨same', fun genuine => ?_⟩) fun _ idle => idle.acting.acted
      rw [idle'.machine, ← idle.machine]
      exact idle.genuine_at (told fs.uuid eq) genuine
    · exact failMount_stays (acted_blind name fs.uuid s).light acted
  · have made : Preserves (Idle s) (fileSystem fun host => { host with dirs := mountPointOf name :: host.dirs }) :=
      fileSystem_closed preserves_closed fun _ idle => ⟨idle.machine, idle.registry⟩
    refine .then (made t idle) (fun _ idle => idle.acting.acted) fun _ t idle _ => ?_
    refine .quiet (.attempt verifyDevicePathsUuid_tells) idle.acting.acted fun result known => ?_
    cases result with
    | error e => exact failMount_stays (acted_blind name fs.uuid s).light idle.acting.acted
    | ok _ => exact mountDevices_acted idle fun device mem => idle.machine ▸ known () rfl device mem

/-- Where a mount leaves the pool that it returns, unless the list said that the pool is mounted. -/
def MountEnded (s : Host) (name : String) (found : Filesystem) (t : Host) : Prop :=
  Bound s name found.uuid ∧
    ((s.machine.Genuine found.uuid → t.machine.poolAt (mountPointOf name) = some found.uuid) ∨
      found.mounted = true ∧ t.machine = s.machine)

theorem mountWithOpts_acts (expected : ∀ entry, s.registered name = some entry → ∃ uuid, entry.uuid = some uuid ∧
      opts.uuid.filter (· ≠ "") = some uuid) :
    Stays (ActedOn s name) (mountWithOpts looks name opts) (MountEnded s name) s := by
  refine .then (list_closed preserves_closed (idle_blind s).light s .refl) (fun _ => .inl) fun filesystems t idle _ => ?_
  split
  next e _ =>
    unfold failSelection
    split
    · exact failMount_stays (actedOn_blind s name).light (.inl idle)
    · exact .ofExcept (.inl idle) fun a impossible => by cases impossible
  next fs selected =>
    have bound : Bound s name fs.uuid := by
      intro entry there
      obtain ⟨uuid, eq, known⟩ := expected entry there
      rw [known] at selected
      rw [selectFilesystemForMount_ok selected]
      exact eq
    split
    next mounted =>
      exact .pure (.inl idle) ⟨bound, .inr ⟨mounted, idle.machine⟩⟩
    · refine .weaken (.mono (mountSelected_acted idle) ?_) fun _ acted => .inr ⟨fs.uuid, bound, acted⟩
      rintro found t _ ⟨eq, placed⟩
      rw [MountEnded, eq]
      exact ⟨bound, .inl placed⟩

theorem mountMaybeDegraded_acts {looks : Nat} {forceDegraded : Bool} :
    Stays (ActedOn s name) (mountMaybeDegraded looks name forceDegraded) (MountEnded s name) s := by
  refine .observed (.inl .refl) ?_
  refine .quiet (R := fun _ _ => ∃ expected, expectedUuid s.registry.load name = .ok expected)
    (.ofExcept rfl fun expected ok => ?_) (.inl .refl) fun _ ok => mountWithOpts_acts fun entry there => ?_
  · cases known : expectedUuid s.registry.load name with
    | error e =>
      rw [known] at ok
      cases ok
    | ok expected => exact ⟨expected, rfl⟩
  · obtain ⟨expected, ok⟩ := ok
    obtain ⟨uuid, eq, _, filled⟩ := expectedUuid_ok ok entry there
    refine ⟨uuid, eq, ?_⟩
    have unchanged : (if forceDegraded then { ((s.registry.load.lookup name).getD {}) with degraded := some true }
        else (s.registry.load.lookup name).getD {}).uuid = some uuid := by
      rw [show s.registry.load.lookup name = some entry from there]
      cases forceDegraded
      · exact eq
      · exact eq
    rw [unchanged, Option.filter_some, if_pos (decide_eq_true filled)]

/-! ### Keys and options -/

theorem lock_acts : Stays (ActedOn s name) (lock name) (fun _ _ => True) s := by
  have blind := actedOn_blind s name
  refine .then (get_closed preserves_closed (idle_blind s).light s .refl) (fun _ => .inl) fun fs t idle _ => ?_
  refine .checked (.inl idle) fun _ _ => ?_
  have unmounts : Stays (ActedOn s name) (unmountIf fs.mounted name) (fun _ _ => True) t := by
    unfold unmountIf
    split
    · exact .weaken unmount_acts fun _ acted => idle.actedOn acted
    · exact .pure (.inl idle) trivial
  refine .bind unmounts fun _ t inv _ => ?_
  refine .bind (revokeKey_closed preserves_closed blind.light t inv) fun _ t inv _ => ?_
  refine .bind (invalidateListCache_closed preserves_closed blind.light t inv) fun _ t inv _ => ?_
  exact get_closed preserves_closed blind.light t inv

theorem updateOptions_acts (req : UpdateFilesystemOptionsRequest) :
    Stays (ActedOn s req.name) (updateOptions req) (fun _ _ => True) s := by
  refine on_pool fun fs t bound idle => ?_
  have blind := acted_blind req.name fs.uuid s
  have acted : Acted req.name fs.uuid s t := idle.acting.acted
  refine .checked acted fun _ _ => ?_
  refine .checked acted fun _ _ => ?_
  have written : Preserves (· = t) (req.runtimeOptions.forM writeOption) :=
    .forM fun entry _ => .mapError (.external fun _ eq => eq)
  refine .quiet (written t rfl) acted fun _ _ => ?_
  have remounted : Stays (Acted req.name fs.uuid s) (remountIfChanged req fs) (fun _ _ => True) t := by
    refine .quiet (loadFsState_closed preserves_closed t rfl) acted fun state _ => ?_
    split
    · refine .then (insert_acted idle.acting fun _ => rfl) (fun _ inv => inv.1) fun _ t inv _ => ?_
      refine .bind (check_preserves t inv.1) fun mountPoint t acted _ => ?_
      refine .bind (verifyMountpointIdentity_closed preserves_closed t acted) fun _ t acted _ => ?_
      refine .bind (loadFsState_closed preserves_closed t acted) fun _ t acted _ => ?_
      exact command_closed preserves_closed (fun _ acted => acted) t acted
    · exact .pure acted trivial
  refine .bind remounted fun _ t acted _ => ?_
  refine .bind (invalidateListCache_closed preserves_closed blind.light t acted) fun _ t acted _ => ?_
  exact get_closed preserves_closed blind.light t acted

/-! ### Creation -/

theorem orRemove_stays {α : Type} {Q : α → Host → Prop} {path : String} {p : Op α} (blind : Blind J)
    (stays : Stays J p Q t) : Stays J (orRemove path p) Q t := by
  refine .bind (.attempt stays) fun result t inv returned => ?_
  cases result with
  | ok a => exact .pure inv (returned a rfl)
  | error e =>
    refine .bind (removeDir_closed preserves_closed blind.light t inv) fun _ t inv _ => ?_
    exact .ofExcept inv fun a impossible => by cases impossible

theorem revalidateTargets_blank {devices : List String} : Stays (· = s) (revalidateTargets devices)
    (fun _ _ => ∀ device ∈ devices, s.machine.members.lookup device = none) s := by
  refine .quiet (command_closed preserves_closed (fun _ eq => eq) s rfl) rfl fun _ _ => ?_
  refine .quiet (.observe (Q := fun blank _ => blank = true → ∀ device ∈ devices,
    s.machine.members.lookup device = none) rfl fun blank device mem => ?_) rfl fun _ blank => ?_
  · exact Option.isNone_iff_eq_none.mp (List.all_eq_true.mp blank device mem)
  · exact .ofExcept rfl fun _ ok => blank (require_ok ok)

structure Formatted (req : CreateFilesystemRequest) (made : Made) (s t : Host) : Prop where
  acting : Acting made.uuid s t
  ready : ∀ device ∈ made.devices, t.machine.members.lookup device = some (newSuperblock req made)

theorem formatted_blind (req : CreateFilesystemRequest) (made : Made) (s : Host) : Blind (Formatted req made s) :=
  fun _ _ machine registry formatted =>
    ⟨acting_blind made.uuid s _ _ machine registry formatted.acting, machine ▸ formatted.ready⟩

theorem formatDevices_stays (idle : Idle s t) (blank : ∀ device ∈ made.devices, t.machine.members.lookup device = none) :
    Stays (Acting made.uuid s) (formatDevices req made) (fun _ u => Formatted req made s u) t := by
  have acting : Acting made.uuid s (t.onMachine (Machine.format made.devices (newSuperblock req made))) :=
    idle.acting.onMachine (.format rfl blank)
  refine .mapError (possibly_stays idle.acting (fun _ => acting) fun _ => ⟨acting, fun device mem => ?_⟩)
  change (t.machine.members.insertAll made.devices (newSuperblock req made)).lookup device = _
  rw [Keyed.lookup_insertAll, if_pos mem]

def CreatedOn (s : Host) (name uuid : String) (t : Host) : Prop :=
  Idle s t ∨ s.registered name = none ∧ Acted name uuid s t

theorem CreatedOn.actedOn (created : CreatedOn s name uuid t) : ActedOn s name t := by
  rcases created with idle | ⟨unknown, acted⟩
  · exact .inl idle
  · refine .inr ⟨uuid, fun opts eq => ?_, acted⟩
    cases unknown.symm.trans eq

theorem validateCreateRequest_passphrase {humanBytes : String → Option Nat}
    (ok : Storage.validateCreateRequest humanBytes req = .ok ()) :
    req.encryption = some true → ∃ passphrase, req.passphrase = some passphrase := by
  obtain ⟨_, _, ok⟩ := bind_ok ok
  obtain ⟨_, _, ok⟩ := bind_ok ok
  obtain ⟨_, _, ok⟩ := bind_ok ok
  obtain ⟨_, given, _⟩ := bind_ok ok
  intro encrypted
  obtain ⟨passphrase, given, _⟩ := require_ok given encrypted
  exact ⟨passphrase, given⟩

theorem prepareDevices_acts (humanBytes : String → Option Nat) (req : CreateFilesystemRequest) (made : Made) :
    Stays (CreatedOn s req.name made.uuid) (prepareDevices humanBytes req made)
      (fun _ t => s.registered req.name = none ∧ Formatted req made s t ∧
        (req.encryption = some true → ∃ passphrase, req.passphrase = some passphrase)) s := by
  have here : CreatedOn s req.name made.uuid s := .inl .refl
  refine .checked here fun _ valid => ?_
  refine .quiet (checkTpm_closed preserves_closed s rfl) here fun _ _ => ?_
  refine .quiet (checkMountPoint_closed preserves_closed s rfl) here fun _ _ => ?_
  refine .quiet (command_closed preserves_closed (fun _ eq => eq) s rfl) here fun _ _ => ?_
  refine .observed here ?_
  refine .checked here fun _ absent => ?_
  have absent := require_ok absent
  have unknown : s.registered req.name = none := AList.lookup_eq_none.mpr absent
  have acts : ∀ t, Acting made.uuid s t → CreatedOn s req.name made.uuid t :=
    fun _ acting => .inr ⟨unknown, acting.acted⟩
  refine .then (reserveMountPoint_closed preserves_closed (idle_blind s).light s .refl)
    (fun _ => .inl) fun _ t idle _ => ?_
  refine .then (orRemove_stays (idle_blind s) (command_closed preserves_closed (fun _ idle => idle) t idle))
    (fun _ => .inl) fun _ t idle _ => ?_
  have revalidated : Stays (Idle s) (revalidateTargets made.devices)
      (fun _ u => ∀ device ∈ made.devices, u.machine.members.lookup device = none) t := by
    refine .weaken (.mono revalidateTargets_blank fun _ u eq blank => ?_) fun _ eq => eq ▸ idle
    rw [eq]
    exact blank
  refine .then (orRemove_stays (idle_blind s) revalidated) (fun _ => .inl) fun _ t idle blank => ?_
  refine .weaken (.mono ?_ fun _ _ _ formatted =>
    ⟨unknown, formatted, validateCreateRequest_passphrase valid⟩) acts
  exact orRemove_stays (acting_blind made.uuid s) (formatDevices_stays idle blank)

theorem Formatted.uuid_eq (formatted : Formatted req made s t)
    {device : String} (mem : device ∈ made.devices) (known : t.machine.uuidOf device = some uuid) : uuid = made.uuid := by
  obtain ⟨superblock, there, eq⟩ := Machine.uuidOf_some known
  cases (formatted.ready device mem).symm.trans there
  exact eq.symm

theorem mountCreated_stays (acting : Acting made.uuid s t)
    (known : ∀ device ∈ made.devices, t.machine.uuidOf device = some uuid)
    (own : ∀ device ∈ made.devices, uuid = made.uuid) :
    Stays (Acting made.uuid s) (mountCreated looks name made uuid) (fun _ _ => uuid = made.uuid) t := by
  have known : ∀ device ∈ made.devices, t.machine.uuidOf device = some made.uuid :=
    fun device mem => own device mem ▸ known device mem
  refine .bind (bcachefsMount_acting _ acting known) fun _ t acting mounted => ?_
  obtain ⟨placed, filled⟩ := mounted
  obtain ⟨first, mem⟩ := List.exists_mem_of_ne_nil _ filled
  refine .quiet (mountedFsUuidAfterMount_closed preserves_closed t rfl) acting fun mountedUuid _ => ?_
  split
  · exact .pure acting (own first mem)
  · refine .bind (.attempt (umountAt_acting acting fun _ => placed)) fun _ t acting _ => ?_
    exact .ofExcept acting fun a impossible => by cases impossible

theorem create_acts (humanBytes : String → Option Nat) (looks : Nat) (req : CreateFilesystemRequest) (made : Made) :
    Stays (CreatedOn s req.name made.uuid) (create humanBytes looks req made) (fun _ _ => True) s := by
  refine .bind (prepareDevices_acts humanBytes req made) fun _ t _ prepared => ?_
  obtain ⟨unknown, formatted, _⟩ := prepared
  refine .weaken (I := Acted req.name made.uuid s) ?_ fun _ acted => .inr ⟨unknown, acted⟩
  have acted : ∀ t, Formatted req made s t → Acted req.name made.uuid s t := fun _ formatted => formatted.acting.acted
  have blind := formatted_blind req made s
  refine .then (storeNewKey_closed preserves_closed blind.outer req t formatted) acted fun _ t formatted _ => ?_
  refine .then (getFsUuid_closed preserves_closed t formatted) acted fun told t formatted _ => ?_
  refine .then (check_preserves t formatted) acted fun uuid t formatted _ => ?_
  refine .quiet verifyDevicePathsUuid_tells (acted t formatted) fun _ known => ?_
  have own : ∀ device ∈ made.devices, uuid = made.uuid := fun device mem => formatted.uuid_eq mem (known device mem)
  have unlocks := unlockCreated_closed preserves_closed ((acting_blind made.uuid s).onMachine t.machine).light req
    (made.devices.head?.getD "")
  refine .then (unlocks t ⟨formatted.acting, rfl⟩) (fun _ inv => inv.1.acted) fun _ u inv _ => ?_
  have known : ∀ device ∈ made.devices, u.machine.uuidOf device = some uuid := by
    rw [inv.2]
    exact known
  refine .then (mountCreated_stays inv.1 known own) (fun _ acting => acting.acted) fun _ t acting eq => ?_
  subst eq
  refine .then (insert_acted acting fun _ => rfl) (fun _ inv => inv.1) fun _ t inv _ => ?_
  have blind := acted_blind req.name made.uuid s
  refine .bind (invalidateListCache_closed preserves_closed blind.light t inv.1) fun _ t acted _ => ?_
  refine .bind (bindCreated_closed preserves_closed blind.outer t acted) fun _ t acted _ => ?_
  exact .pure acted trivial

/-! ### All operations -/

theorem stays_none {p : Op Unit} (stays : Stays J p (fun _ _ => True) s) :
    Stays J (p >>= fun _ => (pure none : Op (Option Filesystem))) (fun _ _ => True) s :=
  .bind stays fun _ _ inv _ => .pure inv trivial

theorem serve_acts {humanBytes : String → Option Nat} {looks : Nat} {request : Request} :
    Stays (ActedOn s request.name) (serve humanBytes looks request)
      (fun result t => ∀ name forceDegraded found, request = .mount name forceDegraded → result = some found →
        MountEnded s name found t) s := by
  have here : ActedOn s request.name s := .inl .refl
  have blind := actedOn_blind s request.name
  cases request
  case mount name forceDegraded =>
    refine .map (.mono mountMaybeDegraded_acts ?_)
    rintro found t _ ended other forced shown eq returned
    cases eq
    cases returned
    exact ended
  all_goals refine .mono (R := fun _ _ => True) ?_ fun _ _ _ _ _ _ _ eq => by cases eq
  case create req made =>
    exact .map (.weaken (create_acts humanBytes looks req made) fun _ created => created.actedOn)
  case destroy name confirmName => exact stays_none destroy_acts
  case forgetUnavailable name expected confirmName => exact stays_none forgetUnavailable_acts
  case unmount name => exact stays_none unmount_acts
  case unlock name passphrase => exact .map (unlock_closed preserves_closed blind.light s here)
  case lock name => exact .map lock_acts
  case updateOptions req => exact .map (updateOptions_acts req)
  case deleteKey name => exact stays_none (deleteKey_closed preserves_closed blind.outer name s here)
  case tpmBind name => exact stays_none (tpmBind_closed preserves_closed blind.outer s here)
  case tpmUnbind name => exact stays_none (tpmUnbind_closed preserves_closed blind.outer s here)

end

def oneDisk : Machine := Machine.blank.format ["/dev/sda"] ⟨"7e1a", none⟩

def mountedAtTank (pool : String) (registry : Registry) : Host where
  machine := oneDisk.mount { target := "/fs/tank", source := ["/dev/sda"], pool := some pool }
  registry

def knownTank : Registry := ⟨.state (Keyed.ofPairs [("tank", { uuid := some "7e1a", devices := ["/dev/sda"] })]), 0⟩

def knownUnmounted : Host where
  machine := oneDisk
  registry := knownTank

end NastyEngine.Pools
