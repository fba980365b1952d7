import NastyEngine.Lib.Lists
import NastyEngine.Volumes.Guard

/-!
The usage column: which subvolume each virtual machine, backup job, share and target is counted under. Of a
virtual machine only the paths of its disks are compared, not the files behind them and not its CD images.
-/

namespace NastyEngine.Volumes
open Lib Rust Fallible List

/-- Of the subvolumes that contain the path, the one inside all others. -/
def Nearest (subvols : List Subvolume) (path : String) (sv : Subvolume) : Prop :=
  inSubvolume sv path = true ∧ ∀ c ∈ subvols, inSubvolume c path = true → inSubvolume c sv.path = true

/-- A reference is a path and the recorded identity of a volume. -/
def Uses (subvols : List Subvolume) (sv : Subvolume) (references : List (String × Option BlockVolumeId)) : Prop :=
  ∃ reference ∈ references, Nearest subvols reference.1 sv ∨ sv.blockDevice = some reference.1 ∨
    ∃ identity, reference.2 = some identity ∧ sv.blockVolumeId = some identity

/-- The names of exactly the items with the property, each item once and in order. -/
def Selects {α : Type} (P : α → Prop) (name : α → String) (items : List α) (names : List String) : Prop :=
  ∃ keep : α → Bool, (∀ a, keep a = true ↔ P a) ∧ names = (items.filter keep).map name

def Vm.diskPaths (vm : Vm) : List (String × Option BlockVolumeId) := vm.disks.map fun disk => (disk.path, none)

/-- All paths that the configuration of the machine has. -/
def Vm.configured (vm : Vm) : List (String × Option BlockVolumeId) :=
  vm.diskPaths ++ (vm.disks.filterMap (·.source) ++ vm.cdroms).map (·, none)

structure Attributed (services : Services) (subvols : List Subvolume) (sv : Subvolume) (row : SubvolumeDependents) : Prop where
  filesystem : row.filesystem = sv.filesystem
  name : row.name = sv.name
  path : row.path = sv.path
  backupJobs : Selects (fun job => ∃ source ∈ job.sources, Nearest subvols source sv) (·.name) services.backups row.backupJobs
  nfsShares : Selects (fun share => Nearest subvols share.path sv) (·.name) (readableItems services.nfs) row.nfsShares
  smbShares : Selects (fun share => Nearest subvols share.path sv) (·.name) (readableItems services.smb) row.smbShares
  iscsiTargets : Selects (fun target => Uses subvols sv (target.luns.map fun lun => (lun.backstorePath, lun.backingVolume)))
    (·.iqn) (services.iscsi.map (·.item)) row.iscsiTargets
  nvmeofSubsystems : Selects (fun subsys => Uses subvols sv (subsys.namespaces.map fun ns => (ns.devicePath, ns.backingVolume)))
    (·.nqn) (services.nvmeof.map (·.item)) row.nvmeofSubsystems

/-- The machines of the row are those with such references to the subvolume. -/
def VmsOf (references : Vm → List (String × Option BlockVolumeId)) (services : Services) (subvols : List Subvolume)
    (sv : Subvolume) (row : SubvolumeDependents) : Prop :=
  Selects (fun vm => Uses subvols sv (references vm)) (·.name) (readableItems services.vms) row.vms

section
variable {subvols : List Subvolume} {sv c : Subvolume} {path : String}

theorem inSubvolume_iff : inSubvolume sv path = true ↔ path = sv.path ∨ Below sv.path path := by
  rw [inSubvolume, Bool.or_eq_true, decide_eq_true_eq, Below]

theorem below_size {upper lower : String} (below : Below upper lower) : upper.utf8ByteSize < lower.utf8ByteSize := by
  obtain ⟨rest, eq⟩ := below_iff.mp below
  have split : lower = upper ++ "/" ++ String.ofList rest := String.toList_inj.mp (by simp [← eq])
  rw [split, String.utf8ByteSize_append, String.utf8ByteSize_append, show "/".utf8ByteSize = 1 from rfl]
  omega

/-- Of two subvolumes that contain a path, the shorter one contains the longer one. -/
theorem inSubvolume_of_size (one : inSubvolume c path = true) (two : inSubvolume sv path = true)
    (size : c.path.utf8ByteSize ≤ sv.path.utf8ByteSize) : inSubvolume c sv.path = true := by
  have longer : ¬ Below sv.path c.path := fun below => absurd (below_size below) (by omega)
  rw [inSubvolume_iff] at one two ⊢
  rcases one with rfl | one
  · exact .inl (two.resolve_right longer).symm
  · rcases two with rfl | two
    · exact .inr one
    · rcases below_total one two with eq | below | below
      · exact .inl eq.symm
      · exact .inr below
      · exact absurd below longer

theorem pairwise_sortDesc (paths : List String) : (sortDesc paths).Pairwise fun a b => b.utf8ByteSize ≤ a.utf8ByteSize := by
  have total : Std.Total fun a b : String => b.utf8ByteSize ≤ a.utf8ByteSize := ⟨fun a b => Nat.le_total _ _⟩
  have trans : IsTrans String fun a b => b.utf8ByteSize ≤ a.utf8ByteSize := ⟨fun _ _ _ one two => two.trans one⟩
  exact pairwise_insertionSort _ paths

theorem mem_sortDesc {paths : List String} {p : String} : p ∈ sortDesc paths ↔ p ∈ paths := mem_insertionSort _

/-- The first match of a search from the longest path on. -/
theorem owningSubvol_longest {paths : List String} {p : String} (hit : owningSubvol (sortDesc paths) path = some p) :
    p ∈ paths ∧ (path = p || startsWith path (p ++ "/")) = true ∧
      ∀ q ∈ paths, (path = q || startsWith path (q ++ "/")) = true → q.utf8ByteSize ≤ p.utf8ByteSize := by
  obtain ⟨contains, before, after, split, missed⟩ := find?_eq_some_iff_append.mp hit
  have sorted := pairwise_sortDesc paths
  rw [split] at sorted
  refine ⟨mem_sortDesc.mp (split ▸ mem_append_right _ mem_cons_self), contains, fun q mem within => ?_⟩
  rw [← mem_sortDesc, split, mem_append, mem_cons] at mem
  rcases mem with earlier | rfl | later
  · have apart := missed q earlier
    rw [within] at apart
    cases apart
  · exact Nat.le_refl _
  · exact (pairwise_cons.mp (pairwise_append.mp sorted).2.1).1 q later

theorem owningSubvol_exists {paths : List String} {p : String} (mem : p ∈ paths)
    (contains : (path = p || startsWith path (p ++ "/")) = true) : ∃ q, owningSubvol (sortDesc paths) path = some q :=
  Option.isSome_iff_exists.mp (find?_isSome.mpr ⟨p, mem_sortDesc.mpr mem, contains⟩)

theorem foldl_seed (subvols : List Subvolume) (index : Index) : subvols.foldl Index.seed index =
    { byPath := (subvols.map fun sv => (sv.path, ({ filesystem := sv.filesystem, name := sv.name, path := sv.path } :
        SubvolumeDependents))).foldl (fun m e => m.insert e.1 e.2) index.byPath
      byBlockDev := (subvols.filterMap fun sv => sv.blockDevice.map (·, sv.path)).foldl (fun m e => m.insert e.1 e.2)
        index.byBlockDev
      byBlockId := (subvols.filterMap fun sv => sv.blockVolumeId.map (·, sv.path)).foldl (fun m e => m.insert e.1 e.2)
        index.byBlockId
      pathsDesc := index.pathsDesc ++ subvols.map (·.path) } := by
  induction subvols generalizing index with
  | nil => simp
  | cons sv rest ih =>
    rw [foldl_cons, ih]
    cases device : sv.blockDevice <;> cases identity : sv.blockVolumeId <;>
      simp [Index.seed, device, identity]

theorem lookup_byPath (paths : (subvols.map (·.path)).Nodup) (mem : sv ∈ subvols) : (Index.of subvols).byPath.lookup sv.path =
    some { filesystem := sv.filesystem, name := sv.name, path := sv.path } := by
  rw [Index.of, foldl_seed]
  dsimp only
  rw [Keyed.lookup_foldl_insert]
  refine Option.or_eq_some_iff.mpr (.inl (collect_of_mem ?_ (mem_map_of_mem mem)))
  rwa [map_map]

theorem owningSubvol_eq_some (mem : sv ∈ subvols) :
    owningSubvol (Index.of subvols).pathsDesc path = some sv.path ↔ Nearest subvols path sv := by
  rw [Index.of, foldl_seed]
  dsimp only
  rw [nil_append]
  constructor
  · intro hit
    obtain ⟨-, contains, longest⟩ := owningSubvol_longest hit
    exact ⟨contains, fun c there within => inSubvolume_of_size within contains (longest c.path (mem_map_of_mem there) within)⟩
  · intro nearest
    obtain ⟨best, hit⟩ := owningSubvol_exists (mem_map_of_mem mem) nearest.1
    obtain ⟨there, contains, longest⟩ := owningSubvol_longest hit
    obtain ⟨c, listed, rfl⟩ := mem_map.mp there
    rcases inSubvolume_iff.mp (nearest.2 c listed contains) with eq | below
    · rw [hit, eq]
    · exact absurd (below_size below) (Nat.not_lt.mpr (longest sv.path (mem_map_of_mem mem) nearest.1))

/-- An index by a key that no two subvolumes share. -/
theorem collect_path {K : Type} [DecidableEq K] {key : Subvolume → Option K} {k : K} (paths : (subvols.map (·.path)).Nodup)
    (unique : (subvols.filterMap key).Nodup) (mem : sv ∈ subvols) :
    collect (subvols.filterMap fun sv => (key sv).map (·, sv.path)) k = some sv.path ↔ key sv = some k := by
  have keys : (subvols.filterMap fun sv => (key sv).map (·, sv.path)).map Prod.fst = subvols.filterMap key := by
    rw [map_filterMap]
    refine filterMap_congr fun sv _ => ?_
    cases key sv <;> rfl
  rw [collect_eq_some (keys ▸ unique), mem_filterMap]
  constructor
  · rintro ⟨c, hm, eq⟩
    obtain ⟨_, own, eq⟩ := Option.map_eq_some_iff.mp eq
    have eq := Prod.mk.inj eq
    rwa [← inj_on_of_nodup_map paths hm mem eq.2, ← eq.1]
  · intro own
    exact ⟨sv, mem, by rw [own]; rfl⟩

structure Distinct (subvols : List Subvolume) : Prop where
  paths : (subvols.map (·.path)).Nodup
  devices : (subvols.filterMap (·.blockDevice)).Nodup
  identities : (subvols.filterMap (·.blockVolumeId)).Nodup

theorem lookup_blocks (distinct : Distinct subvols) (mem : sv ∈ subvols) :
    (∀ device, (Index.of subvols).byBlockDev.lookup device = some sv.path ↔ sv.blockDevice = some device) ∧
      ∀ identity, (Index.of subvols).byBlockId.lookup identity = some sv.path ↔ sv.blockVolumeId = some identity := by
  rw [Index.of, foldl_seed]
  simp only [Keyed.lookup_foldl_insert, AList.lookup_empty, Option.or_none]
  exact ⟨fun _ => collect_path distinct.paths distinct.devices mem,
    fun _ => collect_path distinct.paths distinct.identities mem⟩

theorem foldl_found (founds : List (Option String)) {set : List String} (unique : set.Nodup) {p : String} :
    (founds.foldl (fun owners found => found.elim owners fun path => owners.insert path) set).Nodup ∧
      (p ∈ founds.foldl (fun owners found => found.elim owners fun path => owners.insert path) set ↔
        p ∈ set ∨ some p ∈ founds) := by
  induction founds generalizing set with
  | nil => simpa using unique
  | cons found rest ih =>
    rw [foldl_cons]
    cases found with
    | none => simpa using ih unique
    | some path =>
      have inserted : (set.insert path).Nodup := unique.insert
      obtain ⟨still, mem⟩ := ih inserted
      refine ⟨still, mem.trans ?_⟩
      rw [mem_insert_iff, mem_cons, Option.some.injEq]
      tauto

theorem mem_ownersOf {α : Type} (finds : α → List (Option String)) (items : List α) {p : String} :
    (ownersOf finds items).Nodup ∧ (p ∈ ownersOf finds items ↔ ∃ item ∈ items, some p ∈ finds item) := by
  have folded := foldl_found (items.flatMap finds) (p := p) nodup_nil
  rw [foldl_flatMap, mem_flatMap] at folded
  simpa [ownersOf] using folded

variable {rows : Rows} {α : Type} {name : α → String}

/-- A row before and after, as a function of the column that is filled. -/
theorem lookup_bucket {push : String → SubvolumeDependents → SubvolumeDependents} {owners : α → List String}
    (set : List String → SubvolumeDependents) (unique : ∀ item, (owners item).Nodup)
    (pushes : ∀ l n, push n (set l) = set (l ++ [n])) (items : List α) {l : List String}
    (there : rows.lookup path = some (set l)) : (bucket push name owners items rows).lookup path =
      some (set (l ++ (items.filter (path ∈ owners ·)).map name)) := by
  induction items generalizing rows l with
  | nil => simpa [bucket] using there
  | cons item rest ih =>
    change (bucket push name owners rest (rows.modifyAll (owners item) (push (name item)))).lookup path = _
    have next := Keyed.lookup_modifyAll (m := rows) (k := path) (f := push (name item)) (.inr (unique item))
    by_cases mem : path ∈ owners item
    · rw [if_pos mem, there, Option.map_some, pushes] at next
      rw [ih next, filter_cons_of_pos (by simpa using mem), map_cons, append_assoc, singleton_append]
    · rw [if_neg mem, there] at next
      rw [ih next, filter_cons_of_neg (by simpa using mem)]

theorem takeRows_eq {row : Subvolume → SubvolumeDependents} (paths : (subvols.map (·.path)).Nodup)
    (there : ∀ sv ∈ subvols, rows.lookup sv.path = some (row sv)) : takeRows subvols rows = subvols.map row := by
  induction subvols generalizing rows with
  | nil => rfl
  | cons sv rest ih =>
    obtain ⟨fresh, paths⟩ := nodup_cons.mp paths
    rw [takeRows, there sv mem_cons_self, map_cons]
    refine congrArg (row sv :: ·) (ih paths fun c mem => ?_)
    have apart : c.path ≠ sv.path := fun eq => fresh (mem_map.mpr ⟨c, mem, eq⟩)
    rw [AList.lookup_erase_ne apart]
    exact there c (mem_cons_of_mem _ mem)

theorem readAll_clear {α : Type} {s : Host} (items : Services → List (Stored α)) :
    Clear 1 (loadAllStrict items) s (allReadable (items s.services)) s :=
  .bind (n := 0) (m := 1) .observe (.bind (n := 1) (m := 0) (.attempt .external) .pure)

theorem bucketApps_clear {s : Host} (paths : (subvols.map (·.path)).Nodup) (apps : AppsConfig) : ∃ n rows, n ≤ 1 ∧
    Clear n (bucketApps (Index.of subvols) apps) s rows s ∧ ∀ sv ∈ subvols, ∃ apps, rows.lookup sv.path =
      some { filesystem := sv.filesystem, name := sv.name, path := sv.path, apps } := by
  have seeded : ∀ sv ∈ subvols, ∃ apps, (Index.of subvols).byPath.lookup sv.path =
      some { filesystem := sv.filesystem, name := sv.name, path := sv.path, apps } :=
    fun sv mem => ⟨[], lookup_byPath paths mem⟩
  unfold bucketApps
  split
  · exact ⟨0, _, Nat.zero_le 1, .pure, seeded⟩
  next owning eq =>
    split
    · refine ⟨1, _, Nat.le_refl 1, .bind (n := 1) (m := 0) tried_id_clear .pure, fun sv mem => ?_⟩
      rw [Keyed.lookup_modify, lookup_byPath paths mem]
      split
      next same =>
        rw [← same, lookup_byPath paths mem]
        exact ⟨_, rfl⟩
      · exact ⟨[], rfl⟩
    · exact ⟨0, _, Nat.zero_le 1, .pure, seeded⟩

/-- What the seven loops leave in the row of a subvolume. -/
def rowOf (index : Index) (services : Services) (sv : Subvolume) (apps : List String) : SubvolumeDependents where
  filesystem := sv.filesystem
  name := sv.name
  path := sv.path
  apps := apps
  vms := ((readableItems services.vms).filter (sv.path ∈ index.diskOwners ·)).map (·.name)
  backupJobs := (services.backups.filter (sv.path ∈ index.sourceOwners ·)).map (·.name)
  nfsShares := ((readableItems services.nfs).filter (sv.path ∈ index.shareOwner ·)).map (·.name)
  smbShares := ((readableItems services.smb).filter (sv.path ∈ index.shareOwner ·)).map (·.name)
  iscsiTargets := ((services.iscsi.map (·.item)).filter fun target =>
    sv.path ∈ index.deviceOwners (·.backstorePath) (·.backingVolume) target.luns).map (·.iqn)
  nvmeofSubsystems := ((services.nvmeof.map (·.item)).filter fun subsys =>
    sv.path ∈ index.deviceOwners (·.devicePath) (·.backingVolume) subsys.namespaces).map (·.nqn)

theorem lookup_rows {index : Index} (services : Services) {apps : List String} (there : rows.lookup sv.path =
      some { filesystem := sv.filesystem, name := sv.name, path := sv.path, apps }) :
    (bucketNvmeof index (.ok (services.nvmeof.map (·.item))) (bucketIscsi index (.ok (services.iscsi.map (·.item)))
      (bucketSmb index (readableItems services.smb) (bucketNfs index (readableItems services.nfs)
        (bucketBackups index services.backups (bucketVms index (readableItems services.vms) rows)))))).lookup sv.path =
      some (rowOf index services sv apps) := by
  have single (share : Share) : (index.shareOwner share).Nodup := by
    unfold Index.shareOwner
    cases owningSubvol index.pathsDesc share.path <;> simp
  have owned {β : Type} {finds : β → List (Option String)} {items : List β} : (ownersOf finds items).Nodup :=
    (mem_ownersOf finds items (p := "")).1
  have vms : (bucketVms index (readableItems services.vms) rows).lookup sv.path = _ := lookup_bucket (l := [])
    (fun l => { filesystem := sv.filesystem, name := sv.name, path := sv.path, apps, vms := l })
    (fun _ => owned) (fun _ _ => rfl) _ there
  have backups : (bucketBackups index services.backups _).lookup sv.path = _ := lookup_bucket (l := [])
    (fun l => { rowOf index services sv apps with
      backupJobs := l, nfsShares := [], smbShares := [], iscsiTargets := [], nvmeofSubsystems := [] })
    (fun _ => owned) (fun _ _ => rfl) _ vms
  have nfs : (bucketNfs index (readableItems services.nfs) _).lookup sv.path = _ := lookup_bucket (l := [])
    (fun l => { rowOf index services sv apps with
      nfsShares := l, smbShares := [], iscsiTargets := [], nvmeofSubsystems := [] })
    single (fun _ _ => rfl) _ backups
  have smb : (bucketSmb index (readableItems services.smb) _).lookup sv.path = _ := lookup_bucket (l := [])
    (fun l => { rowOf index services sv apps with smbShares := l, iscsiTargets := [], nvmeofSubsystems := [] })
    single (fun _ _ => rfl) _ nfs
  have iscsi : (bucketIscsi index (.ok (services.iscsi.map (·.item))) _).lookup sv.path = _ := lookup_bucket (l := [])
    (fun l => { rowOf index services sv apps with iscsiTargets := l, nvmeofSubsystems := [] })
    (fun _ => owned) (fun _ _ => rfl) _ smb
  have nvmeof : (bucketNvmeof index (.ok (services.nvmeof.map (·.item))) _).lookup sv.path = _ := lookup_bucket (l := [])
    (fun l => { rowOf index services sv apps with nvmeofSubsystems := l }) (fun _ => owned) (fun _ _ => rfl) _ iscsi
  exact nvmeof

theorem exists_mem_map {β : Type} {f : α → β} {P : β → Prop} {items : List α} :
    (∃ b ∈ items.map f, P b) ↔ ∃ a ∈ items, P (f a) := by simp

theorem mem_deviceOwners (distinct : Distinct subvols) (mem : sv ∈ subvols) {path : α → String}
    {backing : α → Option BlockVolumeId} (items : List α) :
    sv.path ∈ (Index.of subvols).deviceOwners path backing items ↔
      Uses subvols sv (items.map fun item => (path item, backing item)) := by
  rw [Index.deviceOwners, (mem_ownersOf _ _).2, Uses, exists_mem_map]
  refine exists_congr fun item => and_congr_right fun _ => ?_
  simp only [mem_cons, not_mem_nil, or_false, @eq_comm _ (some sv.path), owningSubvol_eq_some mem,
    lookup_blocks distinct mem, Option.bind_eq_some_iff]

theorem mem_diskOwners (distinct : Distinct subvols) (mem : sv ∈ subvols) (vm : Vm) :
    sv.path ∈ (Index.of subvols).diskOwners vm ↔ Uses subvols sv vm.diskPaths := by
  rw [Index.diskOwners, (mem_ownersOf _ _).2, Uses, Vm.diskPaths, exists_mem_map]
  refine exists_congr fun disk => and_congr_right fun _ => ?_
  simp only [mem_cons, not_mem_nil, or_false, @eq_comm _ (some sv.path), owningSubvol_eq_some mem,
    lookup_blocks distinct mem, reduceCtorEq, false_and, exists_false]

theorem mem_sourceOwners (mem : sv ∈ subvols) (job : BackupJob) :
    sv.path ∈ (Index.of subvols).sourceOwners job ↔ ∃ source ∈ job.sources, Nearest subvols source sv := by
  rw [Index.sourceOwners, (mem_ownersOf _ _).2]
  simp only [mem_singleton, @eq_comm _ (some sv.path), owningSubvol_eq_some mem]

theorem mem_shareOwner (mem : sv ∈ subvols) (share : Share) :
    sv.path ∈ (Index.of subvols).shareOwner share ↔ Nearest subvols share.path sv := by
  rw [Index.shareOwner, Option.mem_toList, owningSubvol_eq_some mem]

/-- A narrower property selects the same items only if no item has the wider one alone. -/
theorem selects_wider {P Q : α → Prop} {items : List α} {names : List String} (wider : ∀ a, P a → Q a)
    (selects : Selects P name items names) : Selects Q name items names ↔ ∀ a ∈ items, Q a → P a := by
  obtain ⟨keep, kept, rfl⟩ := selects
  constructor
  · rintro ⟨keep', kept', same⟩ a mem wide
    have sub : items.filter keep <+ items.filter keep' :=
      monotone_filter_right items fun a narrow => (kept' a).mpr (wider a ((kept a).mp narrow))
    have whole := sub.eq_of_length (by simpa using congrArg List.length same)
    exact (kept a).mp (mem_filter.mp (whole ▸ mem_filter.mpr ⟨mem, (kept' a).mpr wide⟩)).2
  · intro covered
    classical
    refine ⟨fun a => decide (Q a), fun _ => decide_eq_true_iff, congrArg (map name) (filter_congr fun a mem => ?_)⟩
    rw [Bool.eq_iff_iff, kept, decide_eq_true_iff]
    exact ⟨wider a, covered a mem⟩

/-- Every subvolume has one row in which all backup jobs, shares, targets and subsystems that use it are named, and
the machines with a disk path to it. These are all that have any path to it exactly if no machine has the file
behind a disk, or a CD image, in a subvolume that none of its disk paths leads to. -/
theorem usage_exact {projectIdFor : String → String → Nat} {s : Host} {faults : List (Option String)} {w : Faulty Host}
    (listed : run (listAll projectIdFor none none) ⟨s, faults⟩ = (.ok subvols, w)) (distinct : Distinct subvols)
    (succeed : ∀ fault ∈ w.faults.take 3, fault = none) (iscsi : s.services.iscsi.all (·.readable) = true)
    (nvmeof : s.services.nvmeof.all (·.readable) = true) :
    ∃ rows, (run (findAllSubvolumeDependents projectIdFor) ⟨s, faults⟩).1 = .ok rows ∧
      Forall₂ (Attributed s.services subvols) subvols rows ∧
      Forall₂ (VmsOf Vm.diskPaths s.services subvols) subvols rows ∧
      (Forall₂ (VmsOf Vm.configured s.services subvols) subvols rows ↔ ∀ sv ∈ subvols,
        ∀ vm ∈ readableItems s.services.vms, Uses subvols sv vm.configured → Uses subvols sv vm.diskPaths) := by
  obtain ⟨t, rest⟩ := w
  obtain rfl : t = s := (stays_ok (listAll_preserves (J := (· = s)) s rfl) listed).1
  obtain ⟨n, rows, few, apps, there⟩ := bucketApps_clear (s := t) distinct.paths t.services.apps
  choose! appsOf there using there
  rw [findAllSubvolumeDependents, run_bind_ok (run_attempt_of listed)]
  have reads : ∀ {p : Op (List SubvolumeDependents)} {rows}, Clear (0 + (n + 2)) p t rows t →
      (run p ⟨t, rest⟩).1 = .ok rows := fun clear => congrArg Prod.fst
    (clear rest fun fault mem => succeed fault (take_subset_take_left _ (by omega) mem))
  refine ⟨_, reads (.bind .observe (.bind apps (.bind (n := 0) (m := 2) .observe (.bind (n := 0) (m := 2) .observe
    (.bind (n := 0) (m := 2) .observe (.bind (n := 1) (m := 1) (readAll_clear _)
      (.bind (n := 1) (m := 0) (readAll_clear _) .pure))))))), ?_⟩
  simp only [allReadable, if_pos iscsi, if_pos nvmeof]
  rw [takeRows_eq distinct.paths fun sv mem => lookup_rows t.services (there sv mem)]
  simp only [forall₂_map_right_iff, forall₂_same]
  have vms (sv : Subvolume) (mem : sv ∈ subvols) :
      VmsOf Vm.diskPaths t.services subvols sv (rowOf (Index.of subvols) t.services sv (appsOf sv)) :=
    ⟨_, fun _ => decide_eq_true_iff.trans (mem_diskOwners distinct mem _), rfl⟩
  refine ⟨fun sv mem => ?_, vms, forall₂_congr fun sv mem => selects_wider (fun vm => ?_) (vms sv mem)⟩
  · exact {
      filesystem := rfl
      name := rfl
      path := rfl
      backupJobs := ⟨_, fun _ => decide_eq_true_iff.trans (mem_sourceOwners mem _), rfl⟩
      nfsShares := ⟨_, fun _ => decide_eq_true_iff.trans (mem_shareOwner mem _), rfl⟩
      smbShares := ⟨_, fun _ => decide_eq_true_iff.trans (mem_shareOwner mem _), rfl⟩
      iscsiTargets := ⟨_, fun _ => decide_eq_true_iff.trans (mem_deviceOwners distinct mem _), rfl⟩
      nvmeofSubsystems := ⟨_, fun _ => decide_eq_true_iff.trans (mem_deviceOwners distinct mem _), rfl⟩ }
  · rintro ⟨reference, among, uses⟩
    exact ⟨reference, mem_append_left _ among, uses⟩

end

theorem sharedBeside_listed : (run (listAll (fun _ _ => 1) none none) ⟨sharedBeside, []⟩).1.map (fun l =>
    (l.map (·.path), l.filterMap (·.blockDevice), l.filterMap (·.blockVolumeId))) =
      .ok (["/fs/tank/a", "/fs/tank/b"], [], []) := by
  decide +kernel

theorem usage_exact_beside : ∃ subvols rows, subvols.map (·.path) = ["/fs/tank/a", "/fs/tank/b"] ∧
    (run (findAllSubvolumeDependents fun _ _ => 1) ⟨sharedBeside, []⟩).1 = .ok rows ∧
      Forall₂ (Attributed sharedBeside.services subvols) subvols rows := by
  obtain ⟨subvols, listed, eq⟩ := map_ok sharedBeside_listed
  obtain ⟨rows, ran, attributed, -⟩ := usage_exact (Prod.ext listed rfl) ⟨by simp_all, by simp_all, by simp_all⟩
    (by decide +kernel) rfl rfl
  exact ⟨subvols, rows, by simp_all, ran, attributed⟩

/-- The machine is in neither row, though the file behind its disk is in the second subvolume. -/
theorem usage_misses_source :
    (run (findAllSubvolumeDependents fun _ _ => 1) ⟨sharedBeside, []⟩).1.map
        (·.map fun row => (row.path, row.nfsShares, row.vms)) = .ok [("/fs/tank/a", [], []), ("/fs/tank/b", ["1"], [])] ∧
      ∃ subvols sv vm, (run (listAll (fun _ _ => 1) none none) ⟨sharedBeside, []⟩).1 = .ok subvols ∧ sv ∈ subvols ∧
        sv.path = "/fs/tank/b" ∧ vm ∈ readableItems sharedBeside.services.vms ∧
        vm.configured = [("/dev/loop7", none), ("/fs/tank/b/vol.img", none)] ∧ Uses subvols sv vm.configured := by
  refine ⟨by decide +kernel, ?_⟩
  obtain ⟨subvols, listed, eq⟩ := map_ok sharedBeside_listed
  have paths : subvols.map (·.path) = ["/fs/tank/a", "/fs/tank/b"] := (Prod.mk.inj eq).1
  obtain ⟨sv, mem, named⟩ : ∃ sv ∈ subvols, sv.path = "/fs/tank/b" := mem_map.mp (paths ▸ by simp)
  refine ⟨subvols, sv, _, listed, mem, named, mem_cons_self, rfl, ("/fs/tank/b/vol.img", none),
    by simp [Vm.configured, Vm.diskPaths], .inl ⟨?_, ?_⟩⟩
  · rw [inSubvolume, named]
    decide +kernel
  · intro c there within
    have among : c.path ∈ ["/fs/tank/a", "/fs/tank/b"] := paths ▸ mem_map_of_mem there
    rcases mem_cons.mp among with first | second
    · rw [inSubvolume, first] at within
      exact absurd within (by decide +kernel)
    · rw [inSubvolume, named, mem_singleton.mp second]
      decide +kernel

end NastyEngine.Volumes
