import NastyEngine.Volumes.Dependents

/-!
The engine stops the apps and the virtual machines that use a subvolume and disables its exports, has the storage
layer swap the subvolume, and then resumes what it stopped.
-/

namespace NastyEngine.Volumes
open Lib Rust List Keyed

@[ext]
structure Machine where
  name : String
  running : Bool
  deriving DecidableEq

@[ext]
structure Export where
  path : String
  enabled : Bool
  deriving DecidableEq

/-- Apps by name, and whether they run; machines and exports by id. -/
structure Workloads where
  apps : Keyed String Bool := ∅
  vms : Keyed String Machine := ∅
  smb : Keyed String Export := ∅
  nfs : Keyed String Export := ∅
  deriving DecidableEq

/-- A stop that fails; what was to be stopped may have ended all the same. -/
structure Failure where
  error : String
  stays : Bool := true

/-- An update of a share saves it before the steps that make the daemon follow. -/
inductive UpdateAnswer where
  | done
  | unsaved
  | saved
  deriving DecidableEq

/-- What the services answer: which stops fail, whether a machine follows the request to shut down within its time,
and how far the update of each share gets. Restarts do not fail. -/
structure Answers where
  appStop : String → Option Failure := fun _ => none
  vmStop : String → Option String := fun _ => none
  vmShutsDown : String → Bool := fun _ => true
  vmKill : String → Option Failure := fun _ => none
  smbListed : Bool := true
  smbUpdate : String → UpdateAnswer := fun _ => .done
  nfsListed : Bool := true
  nfsUpdate : String → UpdateAnswer := fun _ => .done

/-- What the storage layer answers, and what `findAllSubvolumeDependents` finds. -/
structure StorageAnswers where
  get : Except SubvolumeError Subvolume
  dependents : List SubvolumeDependents
  rollback : Except SubvolumeError RollbackResult

def dependentsOf (req : RollbackSnapshotRequest) (all : List SubvolumeDependents) : SubvolumeDependents :=
  (all.find? fun d => d.filesystem = req.filesystem ∧ d.name = req.subvolume).getD
    { filesystem := "", name := "", path := "" }

def pathInSubvol (path subvolPath : String) : Bool := path = subvolPath || Below subvolPath path

def stopApps (answers : Answers) : List String → Workloads → Except String Unit × Workloads
  | [], s => (.ok (), s)
  | app :: rest, s => match answers.appStop app with
    | some failure => (.error ("rollback aborted before any change: app '" ++ app ++ "' failed to stop (" ++
        failure.error ++ ")"), { s with apps := s.apps.modify app (· && failure.stays) })
    | none => stopApps answers rest { s with apps := s.apps.modify app fun _ => false }

def resumeApps (apps : List String) (s : Workloads) : Workloads := { s with apps := s.apps.modifyAll apps fun _ => true }

def resolveVmIds (vms : Keyed String Machine) (names : List String) : List (String × String) :=
  names.filterMap fun name => (vms.pairs.find? (·.2.name = name)).map fun entry => (entry.1, name)

def isVmRunning (vms : Keyed String Machine) (id : String) : Bool := ((vms.lookup id).map (·.running)).getD false

def Machine.off (vm : Machine) : Machine := { vm with running := false }

def Machine.keep (stays : Bool) (vm : Machine) : Machine := { vm with running := vm.running && stays }

def Machine.on (vm : Machine) : Machine := { vm with running := true }

/-- A machine that does not shut down is killed. If that fails, the apps are started again. -/
def stopVms (answers : Answers) (apps : List String) : List (String × String) → Workloads → Except String Unit × Workloads
  | [], s => (.ok (), s)
  | (id, name) :: rest, s =>
    if isVmRunning s.vms id = false then stopVms answers apps rest s
    else if answers.vmStop id = none ∧ answers.vmShutsDown id = true then
      stopVms answers apps rest { s with vms := s.vms.modify id Machine.off }
    else match answers.vmKill id with
      | some failure => (.error ("rollback aborted: VM '" ++ name ++ "' wouldn't shut down and force-kill failed (" ++
          failure.error ++ "). Stopped apps were restarted; manually stop the VM and retry."),
          resumeApps apps { s with vms := s.vms.modify id (Machine.keep failure.stays) })
      | none => stopVms answers apps rest { s with vms := s.vms.modify id Machine.off }

/-- A machine that runs already refuses to be started, and runs on. -/
def startVms (ids : List (String × String)) (s : Workloads) : Workloads :=
  { s with vms := s.vms.modifyAll (ids.map (·.1)) Machine.on }

def Export.toggle (enabled : Bool) (share : Export) : Export := { share with enabled := enabled }

/-- The shares that the loop updates. -/
def sharesToToggle (listed : Bool) (subvolPath : String) (enabled : Bool) (shares : Keyed String Export) :
    List (String × Export) :=
  if listed then shares.pairs.filter fun (_, share) => share.enabled ≠ enabled && pathInSubvol share.path subvolPath
  else []

/-- The ids whose update succeeded, and the shares with every update that got as far as saving. -/
def toggleShares (listed : Bool) (updates : String → UpdateAnswer) (subvolPath : String) (enabled : Bool)
    (shares : Keyed String Export) : List String × Keyed String Export :=
  let ids := (sharesToToggle listed subvolPath enabled shares).map (·.1)
  (ids.filter (updates · = .done), shares.modifyAll (ids.filter (updates · ≠ .unsaved)) (Export.toggle enabled))

def setSmbSharesEnabled (answers : Answers) (subvolPath : String) (enabled : Bool) (s : Workloads) : List String × Workloads :=
  let (touched, smb) := toggleShares answers.smbListed answers.smbUpdate subvolPath enabled s.smb
  (touched, { s with smb })

def setNfsSharesEnabled (answers : Answers) (subvolPath : String) (enabled : Bool) (s : Workloads) : List String × Workloads :=
  let (touched, nfs) := toggleShares answers.nfsListed answers.nfsUpdate subvolPath enabled s.nfs
  (touched, { s with nfs })

def reenableSmbShares (ids : List String) (s : Workloads) : Workloads :=
  { s with smb := s.smb.modifyAll ids (Export.toggle true) }

def reenableNfsShares (ids : List String) (s : Workloads) : Workloads :=
  { s with nfs := s.nfs.modifyAll ids (Export.toggle true) }

def admitRollback (req : RollbackSnapshotRequest) (storage : StorageAnswers) : Except String Subvolume := do
  (validateExistingSnapshotName req.subvolume req.snapshot).mapError (·.display)
  let sv ← storage.get.mapError (·.display)
  require (sv.subvolumeType ≠ .block ∧ sv.blockDevice = none)
    "rollback is not yet supported for block subvolumes (iSCSI / NVMe-oF / VM disks)"
  return sv

def rollbackWithDependents (answers : Answers) (storage : StorageAnswers) (req : RollbackSnapshotRequest) (s : Workloads) :
    Except String RollbackResult × Workloads :=
  match admitRollback req storage with
  | .error e => (.error e, s)
  | .ok sv =>
    let deps := dependentsOf req storage.dependents
    match stopApps answers deps.apps s with
    | (.error e, s) => (.error e, s)
    | (.ok _, s) =>
      let vmIds := resolveVmIds s.vms deps.vms
      match stopVms answers deps.apps vmIds s with
      | (.error e, s) => (.error e, s)
      | (.ok _, s) =>
        let (smbIds, s) := setSmbSharesEnabled answers sv.path false s
        let (nfsIds, s) := setNfsSharesEnabled answers sv.path false s
        let result := storage.rollback.mapError (·.display)
        let s := reenableNfsShares nfsIds s
        let s := reenableSmbShares smbIds s
        (result, resumeApps deps.apps (startVms vmIds s))

structure Workloads.Same (s t : Workloads) : Prop where
  apps : ∀ app, t.apps.lookup app = s.apps.lookup app
  vms : ∀ id, t.vms.lookup id = s.vms.lookup id
  smb : ∀ id, t.smb.lookup id = s.smb.lookup id
  nfs : ∀ id, t.nfs.lookup id = s.nfs.lookup id

section
variable {answers : Answers} {storage : StorageAnswers} {req : RollbackSnapshotRequest} {s t : Workloads}
  {apps : List String}

variable {apps' : Keyed String Bool} {app : String}

theorem stopApps_spec (answers : Answers) (apps : List String) (s : Workloads) :
    if ∀ app ∈ apps, answers.appStop app = none then
      stopApps answers apps s = (.ok (), { s with apps := s.apps.modifyAll apps fun _ => false })
    else ∃ e app failure, (apps.dropWhile (answers.appStop · |>.isNone)).head? = some app ∧
      answers.appStop app = some failure ∧ stopApps answers apps s = (.error e, { s with
        apps := (s.apps.modifyAll (apps.takeWhile (answers.appStop · |>.isNone)) fun _ => false).modify app
          (· && failure.stays) }) := by
  induction apps generalizing s with
  | nil => exact rfl
  | cons app rest ih =>
    cases fails : answers.appStop app with
    | some failure =>
      have some : ¬∀ other ∈ app :: rest, answers.appStop other = none := fun all => by
        cases fails.symm.trans (all app mem_cons_self)
      rw [if_neg some, stopApps, fails, takeWhile_cons_of_neg (by simp [fails]),
        dropWhile_cons_of_neg (by simp [fails])]
      exact ⟨_, app, failure, rfl, fails, rfl⟩
    | none =>
      have later := ih { s with apps := s.apps.modify app fun _ => false }
      rw [stopApps, fails, takeWhile_cons_of_pos (by simp [fails]), dropWhile_cons_of_pos (by simp [fails])]
      simp only [forall_mem_cons, fails, true_and]
      exact later

def stubborn (answers : Answers) (vms : Keyed String Machine) (id : String) : Bool :=
  isVmRunning vms id && !(answers.vmStop id = none && answers.vmShutsDown id) && (answers.vmKill id).isSome

variable {id : String} {vms vms' : Keyed String Machine} {names ids : List String}

theorem running_iff : isVmRunning vms id = true ↔ ∃ vm, vms.lookup id = some vm ∧ vm.running = true := by
  rw [isVmRunning]
  cases vms.lookup id with
  | none => simp
  | some vm => simp

theorem stopVms_yields (name : String) (rest : List (String × String)) (yields : stubborn answers s.vms id = false) :
    ∃ vms, stopVms answers apps ((id, name) :: rest) s = stopVms answers apps rest { s with vms := vms } ∧
      ∀ other, vms.lookup other = if other = id then (s.vms.lookup id).map Machine.off else s.vms.lookup other := by
  rw [stopVms]
  by_cases stopped : isVmRunning s.vms id = false
  · refine ⟨s.vms, if_pos stopped, fun other => ?_⟩
    split
    next eq =>
      rw [eq]
      cases there : s.vms.lookup id with
      | none => rfl
      | some vm =>
        have off : vm.running = false := by
          rw [isVmRunning, there] at stopped
          exact stopped
        exact congrArg some (Machine.ext rfl off)
    · rfl
  · refine ⟨s.vms.modify id Machine.off, ?_, fun other => lookup_modify⟩
    rw [if_neg stopped]
    split
    · rfl
    next refuses =>
      cases kill : answers.vmKill id with
      | none => rfl
      | some e =>
        have running : isVmRunning s.vms id = true := by simpa using stopped
        simp [stubborn, running, kill] at yields
        exact absurd yields refuses

theorem stopVms_refuses {name : String} {rest : List (String × String)} (refuses : stubborn answers s.vms id = true) :
    ∃ e failure, answers.vmKill id = some failure ∧ stopVms answers apps ((id, name) :: rest) s =
      (.error e, resumeApps apps { s with vms := s.vms.modify id (Machine.keep failure.stays) }) := by
  simp only [stubborn, Bool.and_eq_true, Bool.not_eq_true'] at refuses
  obtain ⟨⟨running, stays⟩, killed⟩ := refuses
  obtain ⟨failure, kill⟩ := Option.isSome_iff_exists.mp killed
  have graceful : ¬ (answers.vmStop id = none ∧ answers.vmShutsDown id = true) := by
    intro both
    simp [both.1, both.2] at stays
  rw [stopVms, if_neg (by simp [running]), if_neg graceful, kill]
  exact ⟨_, failure, rfl, rfl⟩

theorem stopVms_spec (answers : Answers) (apps : List String) (s : Workloads) (ids : List (String × String)) : ∃ vms,
    (∀ id, vms.lookup id = if id ∈ (ids.takeWhile fun vm => !stubborn answers s.vms vm.1).map (·.1) then
      (s.vms.lookup id).map Machine.off else s.vms.lookup id) ∧
    if ∀ vm ∈ ids, stubborn answers s.vms vm.1 = false then stopVms answers apps ids s = (.ok (), { s with vms := vms })
    else ∃ e vm failure, (ids.dropWhile fun vm => !stubborn answers s.vms vm.1).head? = some vm ∧
      answers.vmKill vm.1 = some failure ∧ stopVms answers apps ids s =
        (.error e, resumeApps apps { s with vms := vms.modify vm.1 (Machine.keep failure.stays) }) := by
  induction ids generalizing s with
  | nil => exact ⟨s.vms, fun id => (if_neg not_mem_nil).symm, rfl⟩
  | cons vm rest ih =>
    obtain ⟨id, name⟩ := vm
    cases refuses : stubborn answers s.vms id with
    | true =>
      rw [takeWhile_cons_of_neg (by simp [refuses]), dropWhile_cons_of_neg (by simp [refuses])]
      refine ⟨s.vms, fun id => (if_neg not_mem_nil).symm, ?_⟩
      rw [if_neg]
      · obtain ⟨e, failure, kill, ended⟩ := stopVms_refuses refuses
        exact ⟨e, (id, name), failure, rfl, kill, ended⟩
      · intro all
        have none := all (id, name) mem_cons_self
        rw [refuses] at none
        cases none
    | false =>
      obtain ⟨vms, eq, off⟩ := stopVms_yields name rest refuses
      obtain ⟨vms', after, ended⟩ := ih { s with vms := vms }
      -- stopping one machine makes no other one stubborn, and itself not either
      have same : ∀ other, stubborn answers vms other = stubborn answers s.vms other := by
        intro other
        by_cases mine : other = id
        · subst mine
          rw [refuses, stubborn, Bool.and_assoc, isVmRunning, off, if_pos rfl]
          cases s.vms.lookup other with
          | none => rfl
          | some vm => rfl
        · rw [stubborn, stubborn, isVmRunning, isVmRunning, (off other).trans (if_neg mine)]
      simp only [same] at after ended
      rw [takeWhile_cons_of_pos (by simp [refuses]), dropWhile_cons_of_pos (by simp [refuses])]
      refine ⟨vms', fun other => ?_, ?_⟩
      · rw [after, off, map_cons]
        by_cases mine : other = id
        · subst mine
          rw [if_pos rfl, if_pos mem_cons_self, Option.map_map]
          exact ite_self _
        · rw [if_neg mine]
          exact if_congr (by rw [mem_cons, or_iff_right mine]) rfl rfl
      · rw [eq]
        simp only [forall_mem_cons, refuses, true_and]
        exact ended

/-- Updates that failed after the share had been saved as disabled; their ids were not noted. -/
def leftDisabled (listed : Bool) (updates : String → UpdateAnswer) (path : String) (shares : Keyed String Export) :
    List String :=
  ((sharesToToggle listed path false shares).map (·.1)).filter (updates · = .saved)

theorem toToggle_enabled {listed : Bool} {path : String} {shares : Keyed String Export} {id : String}
    (mem : id ∈ (sharesToToggle listed path false shares).map (·.1)) :
    ∃ share, shares.lookup id = some share ∧ share.enabled = true := by
  obtain ⟨⟨id, share⟩, listed, rfl⟩ := mem_map.mp mem
  unfold sharesToToggle at listed
  split at listed
  · obtain ⟨entry, kept⟩ := mem_filter.mp listed
    refine ⟨share, mem_pairs.mp entry, ?_⟩
    simp only [Bool.and_eq_true, decide_eq_true_eq] at kept
    simpa using kept.1
  · cases listed

theorem reenabled_iff {listed : Bool} {updates : String → UpdateAnswer} {path : String} {shares : Keyed String Export} :
    (∀ id, ((toggleShares listed updates path false shares).2.modifyAll (toggleShares listed updates path false shares).1
      (Export.toggle true)).lookup id = shares.lookup id) ↔ leftDisabled listed updates path shares = [] := by
  rw [leftDisabled, toggleShares, filter_eq_nil_iff]
  dsimp only
  have same (id : String) : (((shares.modifyAll (((sharesToToggle listed path false shares).map (·.1)).filter
      (updates · ≠ .unsaved)) (Export.toggle false)).modifyAll (((sharesToToggle listed path false shares).map
        (·.1)).filter (updates · = .done)) (Export.toggle true)).lookup id = shares.lookup id) ↔
      (id ∈ (sharesToToggle listed path false shares).map (·.1) → updates id ≠ .saved) := by
    rw [lookup_modifyAll (f := Export.toggle true) (.inl fun _ => rfl),
      lookup_modifyAll (f := Export.toggle false) (.inl fun _ => rfl)]
    simp only [mem_filter, decide_eq_true_eq]
    by_cases mem : id ∈ (sharesToToggle listed path false shares).map (·.1)
    · obtain ⟨share, there, on⟩ := toToggle_enabled mem
      have back : Export.toggle true (Export.toggle false share) = share := Export.ext rfl on.symm
      have off : Export.toggle false share ≠ share := fun eq => by
        have running := congrArg Export.enabled eq
        rw [on] at running
        cases running
      cases answer : updates id <;> simp [mem, there, back, off]
    · simp [mem]
  simp only [same, decide_eq_true_eq]

/-- Nothing was left stopped or disabled by a failure, or started that did not run. If an app fails to stop, it still
runs if it ran, and none before it ran; otherwise all apps ran. If a machine is stubborn, it still runs, and none before
it ran; otherwise all machines ran, and no share was saved as disabled by an update that then failed. -/
def Recovers (answers : Answers) (storage : StorageAnswers) (req : RollbackSnapshotRequest) (s : Workloads) : Prop :=
  let deps := dependentsOf req storage.dependents
  let ids := (resolveVmIds s.vms deps.vms).map (·.1)
  match admitRollback req storage with
  | .error _ => True
  | .ok sv =>
    if ∀ app ∈ deps.apps, answers.appStop app = none then
      (∀ app ∈ deps.apps, s.apps.lookup app ≠ some false) ∧
        if ∀ id ∈ ids, stubborn answers s.vms id = false then
          (∀ id ∈ ids, isVmRunning s.vms id = true) ∧
            leftDisabled answers.smbListed answers.smbUpdate sv.path s.smb = [] ∧
            leftDisabled answers.nfsListed answers.nfsUpdate sv.path s.nfs = []
        else (∀ id ∈ ids.takeWhile (!stubborn answers s.vms ·), isVmRunning s.vms id = false) ∧
          ∀ id ∈ (ids.dropWhile (!stubborn answers s.vms ·)).head?, (answers.vmKill id).all (·.stays) = true
    else (∀ app ∈ deps.apps.takeWhile (answers.appStop · |>.isNone), s.apps.lookup app ≠ some true) ∧
      ∀ app ∈ (deps.apps.dropWhile (answers.appStop · |>.isNone)).head?, s.apps.lookup app = some true →
        (answers.appStop app).all (·.stays) = true

theorem resolved_there (mem : id ∈ (resolveVmIds vms names).map (·.1)) : ∃ vm, vms.lookup id = some vm := by
  obtain ⟨entry, found, rfl⟩ := mem_map.mp mem
  obtain ⟨name, _, resolved⟩ := mem_filterMap.mp found
  obtain ⟨pair, first, rfl⟩ := Option.map_eq_some_iff.mp resolved
  exact ⟨pair.2, mem_pairs.mp (mem_of_find?_eq_some first)⟩

theorem apps_fixed_iff {apps : Keyed String Bool} (running : Bool) :
    (∀ app, (apps.modifyAll names fun _ => running).lookup app = apps.lookup app) ↔
      ∀ app ∈ names, apps.lookup app ≠ some (!running) := by
  simp only [lookup_modifyAll (f := fun _ : Bool => running) (.inl fun _ => rfl)]
  rw [Keyed.map_eq_iff]
  refine forall₂_congr fun app _ => ⟨fun fixed there => ?_, fun ne v there => ?_⟩
  · have eq := fixed _ there
    cases running <;> cases eq
  · cases v <;> cases running <;> simp_all

/-- Some were stopped, and then another one was not. -/
theorem failed_fixed_iff {V : Type} {m m' : Keyed String V} {f g : V → V} {bad : String} (apart : bad ∉ names)
    (after : ∀ k, m'.lookup k = if k ∈ names then (m.lookup k).map f else m.lookup k) :
    (∀ k, (m'.modify bad g).lookup k = m.lookup k) ↔
      (∀ k, m'.lookup k = m.lookup k) ∧ (m.lookup bad).map g = m.lookup bad := by
  have there := (after bad).trans (if_neg apart)
  refine ⟨fun fixed => ⟨fun k => ?_, ?_⟩, fun ⟨fixed, still⟩ k => ?_⟩
  · by_cases mine : k = bad
    · rw [mine, there]
    · simpa [lookup_modify, mine] using fixed k
  · simpa [lookup_modify, there] using fixed bad
  · rw [lookup_modify, there]
    split
    next mine => rw [mine, still]
    · exact fixed k

theorem resumed_fixed_iff {apps : Keyed String Bool} :
    (∀ app, ((apps.modifyAll names fun _ => false).modifyAll names fun _ => true).lookup app = apps.lookup app) ↔
      ∀ app ∈ names, apps.lookup app ≠ some false := by
  refine (forall_congr' fun app => ?_).trans (apps_fixed_iff true)
  rw [lookup_modifyAll (f := fun _ : Bool => true) (.inl fun _ => rfl),
    lookup_modifyAll (f := fun _ : Bool => false) (.inl fun _ => rfl),
    lookup_modifyAll (f := fun _ : Bool => true) (.inl fun _ => rfl)]
  split
  · rw [Option.map_map]
    rfl
  · rfl

theorem off_fixed_iff : (∀ id, (if id ∈ ids then (vms.lookup id).map Machine.off else vms.lookup id) = vms.lookup id) ↔
      ∀ id ∈ ids, isVmRunning vms id = false := by
  rw [Keyed.map_eq_iff]
  refine forall₂_congr fun id _ => ⟨fun fixed => ?_, fun stopped vm eq => ?_⟩
  · rw [Bool.eq_false_iff]
    intro running
    obtain ⟨vm, eq, on⟩ := running_iff.mp running
    have off := congrArg Machine.running (fixed vm eq)
    rw [on] at off
    cases off
  · rw [isVmRunning, eq] at stopped
    exact Machine.ext rfl (Eq.symm stopped)

theorem on_fixed_iff (there : ∀ id ∈ ids, ∃ vm, vms.lookup id = some vm) :
    (∀ id, (if id ∈ ids then (vms.lookup id).map Machine.on else vms.lookup id) = vms.lookup id) ↔
      ∀ id ∈ ids, isVmRunning vms id = true := by
  rw [Keyed.map_eq_iff]
  refine forall₂_congr fun id mem => ⟨fun fixed => ?_, fun running vm eq => ?_⟩
  · obtain ⟨vm, eq⟩ := there id mem
    exact running_iff.mpr ⟨vm, eq, (congrArg Machine.running (fixed vm eq)).symm⟩
  · rw [isVmRunning, eq] at running
    exact Machine.ext rfl (Eq.symm running)

theorem restarted (off : ∀ id, vms'.lookup id = if id ∈ ids then (vms.lookup id).map Machine.off else vms.lookup id)
    (id : String) :
    (vms'.modifyAll ids Machine.on).lookup id = if id ∈ ids then (vms.lookup id).map Machine.on else vms.lookup id := by
  rw [lookup_modifyAll (f := Machine.on) (.inl fun _ => rfl), off]
  split
  · rw [Option.map_map]
    rfl
  · rfl

theorem map_takeWhile {ids : List (String × String)} : (ids.takeWhile fun vm => !stubborn answers s.vms vm.1).map (·.1) =
      (ids.map (·.1)).takeWhile (!stubborn answers s.vms ·) := by
  rw [takeWhile_map]
  rfl

theorem head?_dropWhile {α : Type} {p : α → Bool} {l : List α} {a : α} (first : (l.dropWhile p).head? = some a) :
    a ∈ l ∧ p a = false ∧ a ∉ l.takeWhile p := by
  have fails : p a = false := by
    have found := head?_dropWhile_not p l
    rw [first] at found
    simpa using found
  refine ⟨(dropWhile_sublist p).subset (mem_of_mem_head? first), fails, fun mem => ?_⟩
  rw [mem_takeWhile_imp mem] at fails
  cases fails

theorem Workloads.same_iff : s.Same t ↔ (∀ app, t.apps.lookup app = s.apps.lookup app) ∧
    (∀ id, t.vms.lookup id = s.vms.lookup id) ∧ (∀ id, t.smb.lookup id = s.smb.lookup id) ∧
      ∀ id, t.nfs.lookup id = s.nfs.lookup id :=
  ⟨fun same => ⟨same.apps, same.vms, same.smb, same.nfs⟩, fun ⟨apps, vms, smb, nfs⟩ => ⟨apps, vms, smb, nfs⟩⟩

/-- After the call everything is as it was exactly in these cases. -/
theorem rollback_restores (answers : Answers) (storage : StorageAnswers) (req : RollbackSnapshotRequest) (s : Workloads) :
    s.Same (rollbackWithDependents answers storage req s).2 ↔ Recovers answers storage req s := by
  unfold rollbackWithDependents Recovers
  generalize dependentsOf req storage.dependents = deps
  cases admitted : admitRollback req storage with
  | error e => exact iff_of_true ⟨fun _ => rfl, fun _ => rfl, fun _ => rfl, fun _ => rfl⟩ trivial
  | ok sv =>
    dsimp only
    have stopped := stopApps_spec answers deps.apps s
    by_cases all : ∀ app ∈ deps.apps, answers.appStop app = none
    · rw [if_pos all] at stopped ⊢
      rw [stopped]
      dsimp only
      obtain ⟨vms, after, ended⟩ := stopVms_spec answers deps.apps
        { s with apps := s.apps.modifyAll deps.apps fun _ => false } (resolveVmIds s.vms deps.vms)
      rw [map_takeWhile] at after
      by_cases yields : ∀ vm ∈ resolveVmIds s.vms deps.vms, stubborn answers s.vms vm.1 = false
      · rw [if_pos yields] at ended
        rw [ended, if_pos (forall_mem_map.mpr yields)]
        rw [takeWhile_eq_self_iff.mpr (forall_mem_map.mpr fun vm mem => by simp [yields vm mem])] at after
        rw [Workloads.same_iff]
        refine and_congr resumed_fixed_iff (and_congr ?_ (and_congr reenabled_iff reenabled_iff))
        refine (forall_congr' fun id => ?_).trans (on_fixed_iff fun id mem => resolved_there mem)
        exact Eq.congr_left (restarted after id)
      · rw [if_neg yields] at ended
        obtain ⟨e, vm, failure, first, kill, ended⟩ := ended
        rw [ended, if_neg fun all => yields (forall_mem_map.mp all), Workloads.same_iff]
        have bad : (((resolveVmIds s.vms deps.vms).map (·.1)).dropWhile (!stubborn answers s.vms ·)).head? = some vm.1 := by
          rw [dropWhile_map, head?_map]
          exact congrArg (Option.map _) first
        obtain ⟨-, refuses, apart⟩ := head?_dropWhile bad
        have running : isVmRunning s.vms vm.1 = true := by
          simp only [stubborn, Bool.not_eq_false', Bool.and_eq_true] at refuses
          exact refuses.1.1
        rw [bad]
        refine and_congr resumed_fixed_iff ?_
        refine ((and_iff_left ⟨fun _ => rfl, fun _ => rfl⟩).trans (failed_fixed_iff apart after)).trans (and_congr ?_ ?_)
        · simp only [after, off_fixed_iff]
        · obtain ⟨machine, there, on⟩ := running_iff.mp running
          simp [kill, there, Machine.keep, Machine.ext_iff, on]
    · rw [if_neg all] at stopped ⊢
      obtain ⟨e, app, failure, first, fails, stopped⟩ := stopped
      rw [stopped, first, Workloads.same_iff]
      refine (and_iff_left ⟨fun _ => rfl, fun _ => rfl, fun _ => rfl⟩).trans ?_
      refine (failed_fixed_iff (head?_dropWhile first).2.2 fun _ =>
        lookup_modifyAll (f := fun _ => false) (.inl fun _ => rfl)).trans (and_congr (apps_fixed_iff false) ?_)
      cases there : s.apps.lookup app <;> simp [fails, there]

end

def photos : Subvolume :=
  { name := "photos", filesystem := "tank", subvolumeType := .filesystem, path := "/fs/tank/photos", usedBytes := none
    quotaBytes := none, compression := none, comments := none, volsizeBytes := none, blockDevice := none
    blockVolumeId := none, blockFilesystem := none, blockFilesystemUuid := none, snapshots := ["s1"], owner := none
    properties := [], parent := none, directIo := false, bcachefsOptions := [], bcachefsOverrides := []
    bcachefsInheritedOptions := [] }

def photosStorage : StorageAnswers where
  get := .ok photos
  dependents := [{ filesystem := "tank", name := "photos", path := "/fs/tank/photos", apps := ["web", "db"], vms := ["v", "w"] }]
  rollback := .ok ⟨photos, "safety"⟩

def photosUsers (web v : Bool) : Workloads where
  apps := Keyed.ofPairs [("web", web), ("db", true)]
  vms := Keyed.ofPairs [("1", ⟨"v", v⟩), ("2", ⟨"w", true⟩)]
  smb := Keyed.ofPairs [("s", ⟨"/fs/tank/photos", true⟩)]
  nfs := Keyed.ofPairs [("n", ⟨"/fs/tank/photos/2024", true⟩)]

theorem rollback_restores_running :
    (photosUsers true true).Same (rollbackWithDependents {} photosStorage ⟨"tank", "photos", "s1"⟩ (photosUsers true true)).2 :=
  (rollback_restores {} photosStorage ⟨"tank", "photos", "s1"⟩ (photosUsers true true)).mpr (by
    rw [Recovers, show admitRollback _ photosStorage = .ok photos from rfl]
    decide +kernel)

/-- An app that cannot be stopped leaves the one before it stopped, a machine that cannot be killed the one before it
off, an export that cannot be reloaded stays disabled, and a rollback that succeeds starts an app that did not run. -/
theorem rollback_leaves_stopped :
    let after := fun (answers : Answers) s => (rollbackWithDependents answers photosStorage ⟨"tank", "photos", "s1"⟩ s).2
    (after { appStop := fun app => if app = "db" then some { error := "timeout" } else none }
        (photosUsers true true)).apps.lookup "web" = some false ∧
      (after { vmStop := fun id => if id = "2" then some "no answer" else none
               vmKill := fun id => if id = "2" then some { error := "not permitted" } else none }
        (photosUsers true true)).vms.lookup "1" = some ⟨"v", false⟩ ∧
      (after { nfsUpdate := fun _ => .saved } (photosUsers true true)).nfs.lookup "n" =
        some ⟨"/fs/tank/photos/2024", false⟩ ∧
      (after {} (photosUsers false true)).apps.lookup "web" = some true := by
  decide +kernel

end NastyEngine.Volumes
