import NastyEngine.Machines.Service

/-!
With every machine goes what its disks were attached to when they were added (`origins`); this is
no part of the engine's state. The source that is recorded for a disk is what `losetup` shows of the
file, which is the file up to its first blank.
-/

namespace NastyEngine.Machines
open Lib Rust Volumes List

inductive Action where
  | create (id : String) (req : CreateVmRequest)
  | update (req : UpdateVmRequest)
  | delete (id : String)
  | start (id : String)
  | clone (id source newName : String) (devices : List (Option String))
  | restore

structure World where
  store : Store
  origins : Keyed String (List (Option String))

def Host.backing (host : Host) (disk : VmDisk) : Option String :=
  if disk.source = none ∧ host.losetup.isSome then host.table.loops.lookup disk.path else none

def originOf (host : Host) (old : List (VmDisk × Option String)) (disk : VmDisk) : Option String :=
  match disk.source with
  | none => host.backing disk
  | some _ => (old.find? fun had => had.1.path = disk.path ∧ had.1.source = disk.source).bind (·.2)

namespace World

def empty : World := ⟨∅, ∅⟩

def disksOf (w : World) (id : String) (config : VmConfig) : List (VmDisk × Option String) :=
  if '/' ∈ id.toList then config.disks.map (·, none) else config.disks.zip ((w.origins.lookup id).getD [])

def added (w : World) (host : Host) (id : String) (req : CreateVmRequest) (store : Store) : World :=
  ⟨store, w.origins.insert id ((req.disks.getD []).map (originOf host []))⟩

def step (host : Host) (action : Action) (w : World) : World :=
  match action with
  | .create id req => match create host id req w.store with
    | .ok store => w.added host id req store
    | .error _ => w
  | .update req => match load host w.store req.id, update host req w.store with
    | some config, .ok store =>
      let old := w.disksOf req.id config
      let origins := match req.disks with
        | some disks => disks.map (originOf host old)
        | none => old.map (·.2)
      ⟨store, w.origins.insert config.id origins⟩
    | _, _ => w
  | .delete id => match delete host id w.store with
    | .ok store => { w with store }
    | .error _ => w
  | .start id => { w with store := (Machines.start host id w.store).1 }
  | .clone id source newName devices => match load host w.store source, vmClone host id source newName devices w.store with
    | some src, .ok store => w.added host id (cloneRequest src.migrateCdroms newName devices) store
    | _, _ => w
  | .restore => { w with store := (Machines.restore host w.store).1 }

def run (moves : List (Host × Action)) (w : World) : World := moves.foldl (fun w move => w.step move.1 move.2) w

end World

section
variable {host : Host} {device file shown : String}

variable {width : Nat}

theorem losetupPairs_eq (works : host.losetup = some width) :
    host.losetupPairs = host.table.loops.pairs.filterMap fun pair => (shownFile pair.2).map (pair.1, ·) := by
  rw [Host.losetupPairs, works]
  exact host.table.parse_output

variable (works : host.losetup = some width)
include works

theorem mem_losetupPairs :
    (device, shown) ∈ host.losetupPairs ↔ ∃ file, host.table.loops.lookup device = some file ∧ shownFile file = some shown := by
  rw [losetupPairs_eq works, mem_filterMap]
  constructor
  · rintro ⟨⟨d, file⟩, mem, read⟩
    obtain ⟨word, shows, eq⟩ := Option.map_eq_some_iff.mp read
    cases eq
    exact ⟨file, Keyed.mem_pairs.mp mem, shows⟩
  · rintro ⟨file, attached, shows⟩
    exact ⟨(device, file), Keyed.mem_pairs.mpr attached, by simp [shows]⟩

theorem backingFileForDevice_eq
    (attached : host.table.loops.lookup device = some file) (shows : shownFile file = some shown) :
    backingFileForDevice host.losetupPairs device = some shown := by
  have mem := (mem_losetupPairs works).mpr ⟨file, attached, shows⟩
  cases hit : host.losetupPairs.find? (·.1 = device) with
  | none =>
    have missing := find?_eq_none.mp hit _ mem
    simp at missing
  | some pair =>
    have eq := find?_some hit
    obtain ⟨other, attached', shows'⟩ := (mem_losetupPairs works).mp (mem_of_find?_eq_some hit)
    rw [of_decide_eq_true eq, attached] at attached'
    cases attached'
    rw [backingFileForDevice, hit]
    exact shows'.symm.trans shows

theorem deviceForBackingFile_eq : deviceForBackingFile host.losetupPairs shown =
      (host.table.loops.pairs.find? fun pair => shownFile pair.2 = some shown).map (·.1) := by
  have test : (fun pair : String × String => ((shownFile pair.2).map (pair.1, ·)).any (·.2 = shown)) =
      fun pair => decide (shownFile pair.2 = some shown) := by
    funext pair
    cases shownFile pair.2 <;> simp
  rw [deviceForBackingFile, losetupPairs_eq works, find?_filterMap, test]
  cases eq : host.table.loops.pairs.find? fun pair => shownFile pair.2 = some shown with
  | none => rfl
  | some pair =>
    have shows : shownFile pair.2 = some shown := by simpa using find?_some eq
    rw [Option.bind_some, shows]
    rfl

end

/-- The source is what is shown of the file that was there when the disk was added. -/
def Recorded (disk : VmDisk) (origin : Option String) : Prop :=
  ∀ file, origin = some file → ∃ shown, shownFile file = some shown ∧ disk.source = some shown

variable {disk : VmDisk} {pairs : List (String × String)} {host : Host} {after store : Store} {config : VmConfig}
  {id : String} {origins : List (Option String)} {req : UpdateVmRequest} {disks : List VmDisk}

theorem Recorded.of_source {other : VmDisk} {origin : Option String} (recorded : Recorded disk origin)
    (kept : disk.source ≠ none → other.source = disk.source) : Recorded other origin := by
  intro file eq
  obtain ⟨shown, shows, source⟩ := recorded file eq
  refine ⟨shown, shows, ?_⟩
  rw [kept (by rw [source]; exact Option.some_ne_none shown)]
  exact source

theorem backfill_source (known : disk.source ≠ none) : (backfillDiskSource pairs disk) = disk := by
  rw [backfillDiskSource, if_neg fun both => known both.1]

theorem resolve_source {resolved : VmDisk}
    (ok : resolveDiskPath pairs disk = .ok resolved) : resolved.source = disk.source := by
  rw [resolveDiskPath] at ok
  split at ok
  · cases ok
    rfl
  · obtain ⟨dev, _, done⟩ := bind_ok ok
    cases done
    rfl

theorem recorded_backing : Recorded (backfillDiskSource host.losetupPairs disk) (host.backing disk) := by
  intro file eq
  rw [Host.backing] at eq
  split at eq
  next asks =>
    obtain ⟨width, works⟩ := Option.isSome_iff_exists.mp asks.2
    obtain ⟨shown, shows⟩ := shownFile_isSome (host.table.absolute _ _ eq).1
    refine ⟨shown, shows, ?_⟩
    rw [backfillDiskSource, if_pos ⟨asks.1, (host.table.named _ _ eq).1⟩]
    exact backingFileForDevice_eq works eq shows
  · cases eq

theorem recorded_originOf {old : List (VmDisk × Option String)} (before : ∀ had ∈ old, Recorded had.1 had.2) :
    Recorded (backfillDiskSource host.losetupPairs disk) (originOf host old disk) := by
  rw [originOf]
  split
  · exact recorded_backing
  next source given =>
    have known : disk.source ≠ none := by
      rw [given]
      exact Option.some_ne_none source
    rw [backfill_source known]
    intro file there
    obtain ⟨had, eq, origin⟩ := Option.bind_eq_some_iff.mp there
    have same : had.1.path = disk.path ∧ had.1.source = disk.source := by simpa using find?_some eq
    obtain ⟨shown, shows, recorded⟩ := before had (mem_of_find?_eq_some eq) file origin
    exact ⟨shown, shows, same.2.symm.trans recorded⟩

structure Kept (w : World) (id : String) (config : VmConfig) : Prop where
  own : config.id = id
  plain : '/' ∉ id.toList
  recorded : ∃ origins, w.origins.lookup id = some origins ∧ List.Forall₂ Recorded config.disks origins

def World.Sound (w : World) : Prop := ∀ id config, w.store.lookup id = some config → Kept w id config

theorem save_ok (saved : save host store id config = .ok after) : after = put store id config := by
  obtain ⟨_, _, done⟩ := bind_ok saved
  cases done
  rfl

theorem sound_put {w : World} (sound : w.Sound) (own : config.id = id)
    (recorded : List.Forall₂ Recorded config.disks origins) :
    World.Sound ⟨put w.store id config, w.origins.insert id origins⟩ := by
  intro other found eq
  have cases : other = id ∧ found = config ∧ '/' ∉ id.toList ∨ other ≠ id ∧ w.store.lookup other = some found := by
    unfold put at eq
    split at eq
    next slash => exact .inr ⟨fun same => (sound other found eq).plain (same ▸ slash), eq⟩
    next plain => exact (Keyed.lookup_of_insert eq).imp_left fun ⟨same, new⟩ => ⟨same, new, plain⟩
  rcases cases with ⟨rfl, rfl, plain⟩ | ⟨ne, stored⟩
  · exact ⟨own, plain, origins, AList.lookup_insert _, recorded⟩
  · obtain ⟨own, plain, before, known, kept⟩ := sound other found stored
    exact ⟨own, plain, before, (AList.lookup_insert_ne ne).trans known, kept⟩

theorem sound_store {w : World} (sound : w.Sound) (own : config.id = id) (plain : '/' ∉ id.toList)
    (recorded : ∃ origins, w.origins.lookup id = some origins ∧ List.Forall₂ Recorded config.disks origins) :
    World.Sound { w with store := w.store.insert id config } := by
  intro other found eq
  rcases Keyed.lookup_of_insert eq with ⟨rfl, rfl⟩ | ⟨-, stored⟩
  · exact ⟨own, plain, recorded⟩
  · obtain ⟨own, plain, known⟩ := sound other found stored
    exact ⟨own, plain, known⟩

section
variable {host : Host} {w : World}

theorem create_ok {req : CreateVmRequest} (created : create host id req store = .ok after) :
    ∃ config, config.id = id ∧ config.disks = backfillDiskSources host.losetupPairs (req.disks.getD []) ∧
      after = put store id config := by
  obtain ⟨_, _, created⟩ := bind_ok created
  obtain ⟨_, _, created⟩ := bind_ok created
  obtain ⟨_, _, created⟩ := bind_ok created
  obtain ⟨_, _, created⟩ := bind_ok created
  obtain ⟨_, _, created⟩ := bind_ok created
  obtain ⟨_, _, created⟩ := bind_ok created
  exact ⟨_, rfl, rfl, save_ok created⟩

theorem sound_added {req : CreateVmRequest} (sound : w.Sound)
    (created : create host id req w.store = .ok store) : (w.added host id req store).Sound := by
  obtain ⟨config, own, disks, rfl⟩ := create_ok created
  apply sound_put sound own
  rw [disks, backfillDiskSources, forall₂_map_left_iff, forall₂_map_right_iff, forall₂_same]
  intro disk _
  exact recorded_originOf (by simp)

theorem migrateCdroms_kept {config : VmConfig} :
    config.migrateCdroms.id = config.id ∧ config.migrateCdroms.disks = config.disks := by
  rw [VmConfig.migrateCdroms]
  split
  · split <;> exact ⟨rfl, rfl⟩
  · exact ⟨rfl, rfl⟩

theorem updateCdroms_ok {cdroms : Option (List String)} {after : VmConfig}
    (updated : updateCdroms host cdroms config = .ok after) : after.id = config.id := by
  unfold updateCdroms at updated
  split at updated
  · cases updated
    rfl
  · obtain ⟨_, _, done⟩ := bind_ok updated
    cases done
    rfl

theorem updateHardware_ok {after : VmConfig} (updated : updateHardware host req config = .ok after) :
    after.id = config.id ∧ after.disks = (req.disks.map (backfillDiskSources host.losetupPairs)).getD config.disks := by
  obtain ⟨disks, given, updated⟩ := bind_ok updated
  obtain ⟨_, _, updated⟩ := bind_ok updated
  obtain ⟨_, _, updated⟩ := bind_ok updated
  obtain ⟨changed, discs, done⟩ := bind_ok updated
  cases done
  have own := updateCdroms_ok discs
  refine ⟨own, ?_⟩
  unfold updateDisks at given
  split at given
  next nothing =>
    cases given
    rw [nothing]
    rfl
  next asked =>
    obtain ⟨_, _, done⟩ := bind_ok given
    cases done
    rw [asked]
    rfl

theorem update_ok (loaded : load host store req.id = some config) (updated : update host req store = .ok after) :
    ∃ new, new.id = config.id ∧
      new.disks = (req.disks.map (backfillDiskSources host.losetupPairs)).getD config.disks ∧
      after = put store config.id new := by
  rw [update, loaded] at updated
  obtain ⟨_, eq, updated⟩ := bind_ok updated
  cases eq
  obtain ⟨new, changed, saved⟩ := bind_ok updated
  have parts : new.id = config.id ∧
      new.disks = (req.disks.map (backfillDiskSources host.losetupPairs)).getD config.disks := by
    unfold updateConfig at changed
    split at changed
    · obtain ⟨_, quiet, rfl⟩ := map_ok changed
      have nothing : req.disks = none := by
        have off := require_ok quiet
        simp only [UpdateVmRequest.changesHardware, Bool.or_eq_false_iff] at off
        simpa using off.1.1.1.1.1.1.1.1.1.1.1.2
      rw [nothing]
      exact migrateCdroms_kept
    · obtain ⟨own, disks⟩ := updateHardware_ok changed
      refine ⟨own.trans migrateCdroms_kept.1, disks.trans ?_⟩
      show (req.disks.map _).getD config.migrateCdroms.disks = _
      rw [migrateCdroms_kept.2]
  have saved := save_ok saved
  rw [parts.1] at saved
  exact ⟨new, parts.1, parts.2, saved⟩

end

section
variable {host : Host} {w : World}

theorem load_plain (plain : '/' ∉ id.toList) : load host store id = store.lookup id := if_neg plain

theorem recorded_disksOf (sound : w.Sound) (loaded : load host w.store id = some config) :
    (∀ had ∈ w.disksOf id config, Recorded had.1 had.2) ∧ (w.disksOf id config).map (·.1) = config.disks := by
  rw [World.disksOf]
  split
  · refine ⟨?_, ?_⟩
    · intro had mem
      obtain ⟨disk, _, rfl⟩ := mem_map.mp mem
      intro file eq
      cases eq
    · rw [map_map]
      exact map_id _
  next plain =>
    rw [load_plain plain] at loaded
    obtain ⟨_, _, origins, known, recorded⟩ := sound id config loaded
    rw [known, Option.getD_some]
    refine ⟨?_, map_fst_zip recorded.length_eq.le⟩
    intro had mem
    exact (forall₂_iff_zip.mp recorded).2 mem

theorem sound_update (sound : w.Sound) : (w.step host (.update req)).Sound := by
  rw [World.step]
  split
  next config store loaded updated =>
    obtain ⟨new, own, disks, rfl⟩ := update_ok loaded updated
    obtain ⟨before, eq⟩ := recorded_disksOf sound loaded
    apply sound_put sound own
    rw [disks]
    split
    next given asked =>
      rw [asked, Option.map_some, Option.getD_some, backfillDiskSources, forall₂_map_left_iff,
        forall₂_map_right_iff, forall₂_same]
      intro disk _
      exact recorded_originOf before
    next asked =>
      rw [asked, Option.map_none, Option.getD_none, ← eq, forall₂_map_left_iff, forall₂_map_right_iff, forall₂_same]
      exact before
  · exact sound

variable {resolved : List VmDisk}

theorem resolvedDisks_ok : resolvedDisks host disks = .ok resolved ↔ List.Forall₂ (fun disk after =>
      resolveDiskPath host.losetupPairs (backfillDiskSource host.losetupPairs disk) = .ok after) disks resolved := by
  rw [resolvedDisks, resolveDiskPaths, backfillDiskSources, mapM_ok, forall₂_map_left_iff]

theorem resolvedDisks_mem (ok : resolvedDisks host disks = .ok resolved)
    {after : VmDisk} (mem : after ∈ resolved) :
    ∃ disk ∈ disks, resolveDiskPath host.losetupPairs (backfillDiskSource host.losetupPairs disk) = .ok after := by
  have each := resolvedDisks_ok.mp ok
  obtain ⟨k, bound, rfl⟩ := getElem_of_mem mem
  exact ⟨_, getElem_mem (each.length_eq ▸ bound), each.get _ bound⟩

theorem recorded_resolved (ok : resolvedDisks host disks = .ok resolved)
    (recorded : List.Forall₂ Recorded disks origins) :
    List.Forall₂ Recorded resolved origins := by
  refine forall₂_join (fun disk after origin here first => ?_) (resolvedDisks_ok.mp ok) recorded
  refine first.of_source fun known => ?_
  rw [resolve_source here, backfill_source known]

theorem start_store (host : Host) (id : String) {store : Store} :
    (start host id store).1 = store ∨ ∃ config disks, load host store id = some config ∧
      resolvedDisks host config.disks = .ok disks ∧ '/' ∉ id.toList ∧
      (start host id store).1 = store.insert id { config.migrateCdroms with disks } := by
  unfold start
  split
  · exact .inl rfl
  next config loaded =>
    dsimp only
    split
    · exact .inl rfl
    split
    · exact .inl rfl
    rw [migrateCdroms_kept.2]
    split
    · exact .inl rfl
    next disks ok =>
      split
      · exact .inl rfl
      · split
        · exact .inl rfl
        next saved =>
          cases save_ok saved
          unfold put
          split
          · exact .inl rfl
          next plain => exact .inr ⟨config, disks, loaded, ok, plain, rfl⟩

theorem start_launched {launched : VmConfig} (started : (start host id store).2 = .ok launched) :
    ∃ config disks, load host store id = some config ∧ resolvedDisks host config.migrateCdroms.disks = .ok disks ∧
      launched = { config.migrateCdroms with disks } ∧ checkLaunch host launched = .ok () := by
  unfold start at started
  split at started
  · cases started
  rename_i config loaded
  dsimp only at started
  split at started
  · cases started
  split at started
  · cases started
  split at started
  · cases started
  rename_i disks ok
  split at started
  · obtain ⟨_, checked, rfl⟩ := map_ok started
    exact ⟨config, disks, loaded, ok, rfl, checked⟩
  · split at started
    · cases started
    · obtain ⟨_, checked, rfl⟩ := map_ok started
      exact ⟨config, disks, loaded, ok, rfl, checked⟩

theorem sound_start {host : Host} {id : String} (sound : w.Sound) :
    World.Sound { w with store := (start host id w.store).1 } := by
  rcases start_store host id with eq | ⟨config, disks, loaded, ok, plain, after⟩
  · rw [eq]
    exact sound
  · rw [load_plain plain] at loaded
    obtain ⟨own, _, origins, known, recorded⟩ := sound id config loaded
    rw [after]
    have healed : ({ config.migrateCdroms with disks } : VmConfig).id = id := migrateCdroms_kept.1.trans own
    exact sound_store sound healed plain ⟨origins, known, recorded_resolved ok recorded⟩

theorem sound_restore (sound : w.Sound) : World.Sound { w with store := (restore host w.store).1 } := by
  -- The list is that of the store before; the store changes with every start.
  refine List.foldlRecOn (motive := fun done : Store × List Launch => World.Sound { w with store := done.1 }) _ _ sound ?_
  exact fun _ sound machine _ => sound_start sound

theorem sound_step {action : Action} (sound : w.Sound) : (w.step host action).Sound := by
  cases action with
  | create id req =>
    rw [World.step]
    split
    · exact sound_added sound ‹_›
    · exact sound
  | update req => exact sound_update sound
  | delete id =>
    rw [World.step]
    split
    next store deleted =>
      obtain ⟨_, _, deleted⟩ := bind_ok deleted
      obtain ⟨_, _, done⟩ := bind_ok deleted
      cases done
      intro other config there
      obtain ⟨own, plain, known⟩ := sound other config (Keyed.lookup_of_erase there)
      exact ⟨own, plain, known⟩
    · exact sound
  | start id => exact sound_start sound
  | clone id source newName devices =>
    rw [World.step]
    split
    next src store loaded cloned =>
      rw [vmClone, loaded] at cloned
      obtain ⟨_, eq, cloned⟩ := bind_ok cloned
      cases eq
      obtain ⟨_, _, created⟩ := bind_ok cloned
      exact sound_added sound created
    · exact sound
  | restore => exact sound_restore sound

theorem sound_run {moves : List (Host × Action)} (sound : w.Sound) : (w.run moves).Sound := by
  induction moves generalizing w with
  | nil => exact sound
  | cons move moves ih => exact ih (sound_step sound)

end

/-- The first line that shows the same as the file is the one of the file. -/
def Clear (table : LoopTable) (file : String) : Prop :=
  ∀ first, table.loops.pairs.find? (fun pair => shownFile pair.2 = shownFile file) = some first → first.2 = file

instance (table : LoopTable) (file : String) : Decidable (Clear table file) := by
  unfold Clear
  cases table.loops.pairs.find? fun pair => shownFile pair.2 = shownFile file with
  | none => exact isTrue (by rintro _ ⟨⟩)
  | some first => exact decidable_of_iff (first.2 = file) (by simp)

section
variable {host : Host} {disk resolved : VmDisk} {file : String}

section
variable (recorded : Recorded disk (some file)) (passes : resolveDiskPath host.losetupPairs disk = .ok resolved)
include recorded passes

theorem resolveDiskPath_recorded :
    ∃ first, host.table.loops.pairs.find? (fun pair => shownFile pair.2 = shownFile file) = some first ∧
      resolved.path = first.1 := by
  obtain ⟨shown, shows, source⟩ := recorded file rfl
  rw [resolveDiskPath, source] at passes
  obtain ⟨dev, found, done⟩ := bind_ok passes
  cases done
  have device := okOr_ok found
  cases works : host.losetup with
  | none =>
    rw [Host.losetupPairs, works] at device
    cases device
  | some width =>
    rw [deviceForBackingFile_eq works] at device
    obtain ⟨first, here, same⟩ := Option.map_eq_some_iff.mp device
    rw [shows]
    exact ⟨first, here, same.symm⟩

theorem attached_iff_clear : host.table.loops.lookup resolved.path = some file ↔ Clear host.table file := by
  obtain ⟨first, found, path⟩ := resolveDiskPath_recorded recorded passes
  have attached := Keyed.mem_pairs.mp (mem_of_find?_eq_some found)
  rw [path, attached, Clear, found]
  simp

end

theorem resolve_again (ok : resolveDiskPath pairs (backfillDiskSource pairs disk) = .ok resolved) :
    resolveDiskPath pairs (backfillDiskSource pairs resolved) = .ok resolved := by
  cases source : (backfillDiskSource pairs disk).source with
  | none =>
    rw [resolveDiskPath, source] at ok
    cases ok
    have eq : backfillDiskSource pairs (backfillDiskSource pairs disk) = backfillDiskSource pairs disk := by
      by_cases asks : disk.source = none ∧ startsWith disk.path "/dev/loop" = true
      · simp only [backfillDiskSource, if_pos asks] at source ⊢
        split <;> rfl
      · rw [backfillDiskSource, backfillDiskSource, if_neg asks, if_neg asks]
    rw [eq, resolveDiskPath, source]
  | some known =>
    rw [resolveDiskPath, source] at ok
    obtain ⟨dev, hit, done⟩ := bind_ok ok
    cases done
    rw [backfill_source (Option.some_ne_none known), resolveDiskPath]
    dsimp only
    rw [hit]
    rfl

theorem resolvedDisks_again {after : List VmDisk} (ok : resolvedDisks host disks = .ok after) :
    resolvedDisks host after = .ok after := by
  refine resolvedDisks_ok.mpr (forall₂_same.mpr fun disk mem => ?_)
  obtain ⟨_, -, here⟩ := resolvedDisks_mem ok mem
  exact resolve_again here

theorem resolved_exact {after : List VmDisk} (ok : resolvedDisks host disks = .ok after)
    (recorded : List.Forall₂ Recorded disks origins) (k : Nat)
    (file : String) (origin : origins[k]? = some (some file)) :
    ∃ disk, after[k]? = some disk ∧ (host.table.loops.lookup disk.path = some file ↔ Clear host.table file) := by
  have each : List.Forall₂ (fun disk origin => ∀ file, origin = some file →
      (host.table.loops.lookup disk.path = some file ↔ Clear host.table file)) after origins := by
    refine forall₂_join (fun disk after origin here first => ?_) (resolvedDisks_ok.mp ok) recorded
    rintro file rfl
    exact attached_iff_clear (first.of_source fun known => by rw [backfill_source known]) here
  obtain ⟨bound, eq⟩ := List.getElem?_eq_some_iff.mp origin
  have inv : k < after.length := each.length_eq ▸ bound
  exact ⟨after[k], getElem?_eq_getElem inv, each.get inv bound file eq⟩

theorem start_disks {launched : VmConfig} (plain : '/' ∉ id.toList) (stored : store.lookup id = some config)
    (ok : resolvedDisks host config.disks = .ok disks) (started : (start host id store).2 = .ok launched) :
    launched.disks = disks := by
  obtain ⟨_, _, loaded, again, rfl, -⟩ := start_launched started
  rw [load_plain plain, stored] at loaded
  cases loaded
  rw [migrateCdroms_kept.2, ok] at again
  exact (Except.ok.inj again).symm

end

/-- **When a machine is started, in any run, each disk whose image was recorded when it was added gets the
loop device of that image exactly if the image is clear in the list of the loop devices. Disks over
different images then have different devices, the disks are those that QEMU is launched with, and
to resolve them once more changes nothing.** -/
theorem disk_identity (moves : List (Host × Action)) (host : Host) (id : String) (config : VmConfig)
    (origins : List (Option String)) (disks : List VmDisk)
    (stored : (World.empty.run moves).store.lookup id = some config)
    (known : (World.empty.run moves).origins.lookup id = some origins)
    (passes : resolvedDisks host config.disks = .ok disks) :
    ((∀ (k : Nat) (file : String), origins[k]? = some (some file) →
        ∃ disk, disks[k]? = some disk ∧ host.table.loops.lookup disk.path = some file) ↔
      ∀ file, some file ∈ origins → Clear host.table file) ∧
    ((∀ file, some file ∈ origins → Clear host.table file) →
      ∀ (j k : Nat) (one two : String) (first second : VmDisk), origins[j]? = some (some one) →
        origins[k]? = some (some two) → disks[j]? = some first → disks[k]? = some second → one ≠ two →
        first.path ≠ second.path) ∧
    (∀ launched, (start host id (World.empty.run moves).store).2 = .ok launched → launched.disks = disks) ∧
    resolvedDisks host disks = .ok disks := by
  have sound : (World.empty.run moves).Sound := sound_run fun _ _ there => by cases there
  obtain ⟨_, plain, same, recorded, all⟩ := sound id config stored
  rw [known] at recorded
  cases recorded
  have each := resolved_exact passes all
  have clear : (∀ file, some file ∈ origins → Clear host.table file) → ∀ (k : Nat) (file : String) (disk : VmDisk),
      origins[k]? = some (some file) → disks[k]? = some disk → host.table.loops.lookup disk.path = some file := by
    intro clear k file disk origin there
    obtain ⟨other, here, iff⟩ := each k file origin
    rw [there] at here
    cases here
    exact iff.mpr (clear file (mem_of_getElem? origin))
  refine ⟨⟨?_, ?_⟩, ?_, ?_, resolvedDisks_again passes⟩
  · intro right file member
    obtain ⟨k, origin⟩ := mem_iff_getElem?.mp member
    obtain ⟨disk, here, attached⟩ := right k file origin
    obtain ⟨other, there, iff⟩ := each k file origin
    rw [here] at there
    cases there
    exact iff.mp attached
  · intro clears k file origin
    obtain ⟨disk, here, iff⟩ := each k file origin
    exact ⟨disk, here, iff.mpr (clears file (mem_of_getElem? origin))⟩
  · intro clears j k one two first second origin₁ origin₂ at₁ at₂ different equal
    have attached₁ := clear clears j one first origin₁ at₁
    have attached₂ := clear clears k two second origin₂ at₂
    rw [equal, attached₂] at attached₁
    cases attached₁
    exact different rfl
  · intro launched started
    exact start_disks plain stored passes started

def plainHost (table : LoopTable) : Host where
  canonicalize := some
  regular _ := true
  table := table
  losetup := some 10
  kvm := true
  running _ := false
  bridge _ := true
  writable := fun _ => true
  planted _ := none
  prepare _ := .ok ()

theorem lookup_two {one two device file : String}
    (attached : (Keyed.ofPairs [("/dev/loop0", one), ("/dev/loop1", two)]).lookup device = some file) :
    device = "/dev/loop0" ∧ file = one ∨ device = "/dev/loop1" ∧ file = two := by
  rw [Keyed.lookup_ofPairs] at attached
  obtain ⟨pair, eq, rfl⟩ := Option.map_eq_some_iff.mp attached
  have named : pair.1 = device := by simpa using find?_some eq
  have member := mem_of_find?_eq_some eq
  rw [mem_cons, mem_singleton] at member
  rcases member with rfl | rfl
  · exact .inl ⟨named.symm, rfl⟩
  · exact .inr ⟨named.symm, rfl⟩

def loopTable (one two : String) (ok : ∀ file ∈ [one, two], startsWith file "/" = true ∧
    file.toList.all (!isControl ·) = true) (apart : one ≠ two) : LoopTable where
  loops := Keyed.ofPairs [("/dev/loop0", one), ("/dev/loop1", two)]
  named := by
    intro device file attached
    rcases lookup_two attached with ⟨rfl, -⟩ | ⟨rfl, -⟩ <;> decide
  absolute := by
    intro device file attached
    rcases lookup_two attached with ⟨-, rfl⟩ | ⟨-, rfl⟩
    · exact ok _ (by simp)
    · exact ok _ (by simp)
  distinct := by
    intro first second file attached₁ attached₂
    rcases lookup_two attached₁ with ⟨rfl, rfl⟩ | ⟨rfl, rfl⟩
    · exact ((lookup_two attached₂).resolve_right fun other => apart other.2).1.symm
    · exact ((lookup_two attached₂).resolve_left fun other => apart other.2.symm).1.symm

def soleDisk : Action := .create "m" { name := "guest", disks := some [{ path := "/dev/loop1" }] }

def webFirst : Host := plainHost (loopTable "/fs/tank/web/vol.img" "/fs/tank/db/vol.img" (by decide) (by decide))

def dbFirst : Host := plainHost (loopTable "/fs/tank/db/vol.img" "/fs/tank/web/vol.img" (by decide) (by decide))

def dbGuest : VmConfig :=
  { id := "m", name := "guest", disks := [{ path := "/dev/loop1", source := some "/fs/tank/db/vol.img" }] }

theorem disk_identity_renumbered : ∃ disk, resolvedDisks dbFirst dbGuest.disks = .ok [disk] ∧
      dbFirst.table.loops.lookup disk.path = some "/fs/tank/db/vol.img" := by
  have passes : resolvedDisks dbFirst dbGuest.disks =
      .ok [{ path := "/dev/loop0", source := some "/fs/tank/db/vol.img" }] := by decide +kernel
  have clear : ∀ file, some file ∈ [some "/fs/tank/db/vol.img"] → Clear dbFirst.table file := by
    intro file member
    cases mem_singleton.mp member
    decide +kernel
  have right := (disk_identity [(webFirst, soleDisk)] dbFirst "m" dbGuest [some "/fs/tank/db/vol.img"] _
    (by decide +kernel) (by decide +kernel) passes).1.mpr clear
  obtain ⟨disk, here, attached⟩ := right 0 "/fs/tank/db/vol.img" rfl
  cases here
  exact ⟨_, passes, attached⟩

def spaced : Host := plainHost (loopTable "/fs/tank/vm one/vol.img" "/fs/tank/vm two/vol.img" (by decide) (by decide))

/-- **Two subvolumes with a blank in their names: the machine is launched with the image of the other one.** -/
theorem disk_misplaced : validateSubvolumeName "vm one" = .ok () ∧ validateSubvolumeName "vm two" = .ok () ∧
      (World.empty.run [(spaced, soleDisk)]).origins.lookup "m" = some [some "/fs/tank/vm two/vol.img"] ∧
      ∃ launched, (start spaced "m" (World.empty.run [(spaced, soleDisk)]).store).2 = .ok launched ∧
        launched.disks = [{ path := "/dev/loop0", source := some "/fs/tank/vm" }] ∧
        spaced.table.loops.lookup "/dev/loop0" = some "/fs/tank/vm one/vol.img" := by
  refine ⟨by decide +kernel, by decide +kernel, by decide +kernel, ?_⟩
  refine ⟨{ id := "m", name := "guest", disks := [{ path := "/dev/loop0", source := some "/fs/tank/vm" }] }, ?_, rfl,
    by decide +kernel⟩
  decide +kernel

end NastyEngine.Machines
