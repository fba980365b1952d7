import NastyEngine.Lib.Keyed
import NastyEngine.Lib.Lists
import NastyEngine.Rust.Text

/-!
A pool is known by the UUID in the superblocks of its member devices. The kernel keeps a list of what is
mounted where; the last entry for a path is on top. The devices of a mounted pool may since have been swapped for
others, whose superblocks are of another pool.
-/

namespace NastyEngine.Pools
open Lib Rust List Keyed

structure Superblock where
  uuid : String
  /-- There is one if the pool is encrypted. -/
  passphrase : Option String := none
  deriving DecidableEq

/-- A line of `/proc/mounts`, with the pool that is mounted if it is one. -/
structure Mount where
  target : String
  source : List String
  pool : Option String
  /-- The members that `sysfs` shows. -/
  devices : List String := source
  deriving DecidableEq

def byUuidDir : String := "/dev/disk/by-uuid/"

/-- The source in its newer form is one path that names the pool. -/
def byUuidSource : List String → Option String
  | [only] => stripStart byUuidDir only
  | _ => none

structure Machine where
  members : Keyed String Superblock := ∅
  mounts : List Mount := []

variable {devices : List String} {m : Mount} {superblock : Superblock}

namespace Machine

def blank : Machine := {}

section
variable (machine : Machine)

def uuidOf (device : String) : Option String := ((machine.members.lookup device).map (·.uuid)).filter (· ≠ "")

def membersOf (uuid : String) : List String := (machine.members.pairs.filter (·.2.uuid = uuid)).map (·.1)

def sysfsFsMembers (uuid : String) : List String :=
  ((machine.mounts.find? (·.pool = some uuid)).map (·.devices)).getD []

/-- What `sysfs` shows as members, if it shows any, stands for a source that names the pool. -/
def resolveMountDevices (source : List String) : List String :=
  match byUuidSource source with
  | some uuid => if machine.sysfsFsMembers uuid = [] then source else machine.sysfsFsMembers uuid
  | none => source

/-- `/proc/mounts` by mount point, where a later line stands for an earlier one. -/
def bcachefsMounts : Keyed String (List String) :=
  Keyed.ofPairs ((machine.mounts.reverse.filter (·.pool.isSome)).map fun m => (m.target, machine.resolveMountDevices m.source))

def mountedAt (target : String) : Bool := machine.mounts.any (·.target = target)

def poolAt (target : String) : Option String :=
  (machine.mounts.reverse.find? fun m => m.target = target && m.pool.isSome).bind (·.pool)

def isMounted (uuid : String) : Bool := machine.mounts.any (·.pool = some uuid)

def poolOf (devices : List String) : Option String :=
  match devices.map machine.uuidOf with
  | some uuid :: rest => if rest.all (· = some uuid) then some uuid else none
  | _ => none

/-- What the table of mounts and the superblocks tell of a mount point. -/
def toldAt (target : String) : Option String :=
  (machine.bcachefsMounts.lookup target).bind fun devices =>
    (byUuidSource devices).or (devices.head?.bind machine.uuidOf)

/-- No mount point of another pool is shown as one of this pool. -/
def Genuine (uuid : String) : Prop := ∀ target, machine.toldAt target = some uuid → machine.poolAt target = some uuid

end

def mount (m : Mount) (machine : Machine) : Machine := { machine with mounts := machine.mounts ++ [m] }

def unmount (kind : Mount → Bool) (machine : Machine) : Machine :=
  { machine with mounts := (machine.mounts.reverse.eraseP kind).reverse }

def wipe (device : String) (machine : Machine) : Machine := { machine with members := machine.members.erase device }

def format (devices : List String) (superblock : Superblock) (machine : Machine) : Machine :=
  { machine with members := machine.members.insertAll devices superblock }

variable {machine : Machine} {uuid target device : String}

theorem uuidOf_some (known : machine.uuidOf device = some uuid) :
    ∃ superblock, machine.members.lookup device = some superblock ∧ superblock.uuid = uuid := by
  obtain ⟨superblock, there, eq⟩ := Option.map_eq_some_iff.mp (Option.filter_eq_some_iff.mp known).1
  exact ⟨superblock, there, eq⟩

theorem poolOf_of_members (known : ∀ device ∈ devices, machine.uuidOf device = some uuid) :
    machine.poolOf devices = none ∨ machine.poolOf devices = some uuid := by
  cases devices with
  | nil => exact .inl rfl
  | cons first rest =>
    right
    have eq : rest.map machine.uuidOf = rest.map fun _ => some uuid :=
      map_congr_left fun device mem => known device (mem_cons_of_mem _ mem)
    rw [poolOf, map_cons, known first mem_cons_self, eq]
    simp

theorem poolAt_mount (own : m.pool = some uuid) : (machine.mount m).poolAt m.target = some uuid := by
  rw [mount, poolAt, reverse_append, reverse_singleton, singleton_append, find?_cons_of_pos]
  · exact own
  · rw [own]
    simp

end Machine

def Mount.ofOther (uuid : String) (m : Mount) : Bool := m.pool.any (· ≠ uuid)

/-- Devices of other pools are as they were, and so are their mounts if that is `sure`. -/
structure Apart (sure : Prop) (uuid : String) (s t : Machine) : Prop where
  members : ∀ device superblock, superblock.uuid ≠ uuid →
    (t.members.lookup device = some superblock ↔ s.members.lookup device = some superblock)
  mounts : sure → t.mounts.filter (·.ofOther uuid) = s.mounts.filter (·.ofOther uuid)

namespace Apart
variable {sure : Prop} {uuid : String} {s t u : Machine}

theorem refl : Apart sure uuid s s := ⟨fun _ _ _ => Iff.rfl, fun _ => rfl⟩

theorem trans (first : Apart sure uuid s t) (second : Apart sure uuid t u) : Apart sure uuid s u :=
  ⟨fun device superblock ne => (second.members device superblock ne).trans (first.members device superblock ne),
    fun holds => (second.mounts holds).trans (first.mounts holds)⟩

theorem mount (own : m.pool = some uuid) : Apart sure uuid s (s.mount m) := by
  refine ⟨fun _ _ _ => Iff.rfl, fun _ => ?_⟩
  have hidden : m.ofOther uuid = false := by
    rw [Mount.ofOther, own]
    simp
  rw [Machine.mount, filter_append, filter_singleton, hidden]
  exact append_nil _

theorem unmount {kind : Mount → Bool}
    (own : sure → ∀ m, s.mounts.reverse.find? kind = some m → m.ofOther uuid = false) :
    Apart sure uuid s (s.unmount kind) := by
  refine ⟨fun _ _ _ => Iff.rfl, fun holds => ?_⟩
  change ((s.mounts.reverse.eraseP kind).reverse).filter _ = _
  rw [filter_reverse, filter_eraseP (own holds), filter_reverse, reverse_reverse]

theorem unmount_pool : Apart sure uuid s (s.unmount (·.pool = some uuid)) := by
  refine unmount fun _ m hit => ?_
  have eq := find?_some hit
  rw [Mount.ofOther, of_decide_eq_true eq]
  simp

theorem unmount_target {target : String} (told : sure → s.poolAt target = some uuid) :
    Apart sure uuid s (s.unmount (·.target = target)) := by
  refine unmount fun holds m eq => ?_
  have told := told holds
  cases mounted : m.pool with
  | none =>
    rw [Mount.ofOther, mounted]
    rfl
  | some pool =>
    have last := find?_and eq (q := (·.pool.isSome)) (by rw [mounted]; rfl)
    rw [Machine.poolAt, last, Option.bind_some, mounted] at told
    rw [Mount.ofOther, mounted, Option.some.inj told]
    simp

theorem wipe {device : String} (own : ∀ superblock, s.members.lookup device = some superblock → superblock.uuid = uuid) :
    Apart sure uuid s (s.wipe device) := by
  refine ⟨fun other found ne => ⟨lookup_of_erase, fun kept => ?_⟩, fun _ => rfl⟩
  change (s.members.erase device).lookup other = some found
  rw [AList.lookup_erase_ne]
  · exact kept
  · rintro rfl
    exact ne (own found kept)

theorem format (own : superblock.uuid = uuid)
    (blank : ∀ device ∈ devices, s.members.lookup device = none) : Apart sure uuid s (s.format devices superblock) := by
  refine ⟨fun device found ne => ?_, fun _ => rfl⟩
  rw [Machine.format, lookup_insertAll]
  split
  next mem =>
    rw [blank device mem]
    constructor
    · intro eq
      cases eq
      exact absurd own ne
    · intro impossible
      cases impossible
  · exact Iff.rfl

end Apart

end NastyEngine.Pools
