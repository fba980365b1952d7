import NastyEngine.Pools.Looks

/-!
What holds of a program if it holds of its parts holds of an operation, if it holds of the commands that
the operation may give and of the changes that it may make to its own entry.
-/

namespace NastyEngine.Pools
open Lib Fallible
open Storage (FilesystemError CreateFilesystemRequest)

structure Commands (Allowed : (Host → Host) → Prop) (K : ∀ {ε α : Type}, Fallible ε (Faulty Host) α → Prop) : Prop
    extends Closed Allowed @K where
  light : ∀ effect, Light effect → Allowed effect
  unmount : ∀ kind, Allowed (Host.onMachine (Machine.unmount kind))
  mount : ∀ devices target, Allowed fun host => host.onMachine (Machine.mount (host.newMount devices target))
  wipe : ∀ device, Allowed (Host.onMachine (Machine.wipe device))

structure Admits (name : String) (Allowed : (Host → Host) → Prop)
    (K : ∀ {ε α : Type}, Fallible ε (Faulty Host) α → Prop) : Prop extends Commands Allowed @K where
  insert : ∀ make : FsState → FsMountOptions, K (editFsState fun entries => entries.insert name (make entries))
  forget : K (forgetFs name)

section
variable {Allowed : (Host → Host) → Prop} {K : ∀ {ε α : Type}, Fallible ε (Faulty Host) α → Prop} {name : String}

section
variable (admits : Admits name Allowed @K)
include admits

theorem unmount_parts : K (Pools.unmount name) := by
  have closed := admits.toClosed
  refine closed.bind (get_closed closed admits.light) fun fs => closed.bind ?_ fun _ => ?_
  · unfold unmountListed
    split
    · exact closed.bind (verifyMountpointIdentity_closed closed) fun _ =>
        closed.mapError (possibly_closed closed _ _ (admits.unmount _))
    · exact closed.pure ()
  · exact closed.bind (admits.insert _) fun _ => invalidateListCache_closed closed admits.light

theorem mountDevices_parts {looks : Nat} (opts : FsMountOptions) (fs : Filesystem) :
    K (mountDevices looks name opts fs) := by
  have closed := admits.toClosed
  refine closed.bind (unlockForMount_closed closed admits.light) fun unlocked => ?_
  refine closed.bind (closed.attempt (commandIf_closed closed _ _ (admits.mount _ _))) fun result => ?_
  cases result with
  | error e => exact failMount_closed closed admits.light
  | ok _ =>
    refine closed.bind (mountedFsUuidAfterMount_closed closed) fun mountedUuid => ?_
    split
    · exact closed.bind (admits.insert _) fun _ => relist_closed closed admits.light
    · exact closed.bind (closed.attempt (possibly_closed closed _ _ (admits.unmount _))) fun _ =>
        failMount_closed closed admits.light

theorem mountMaybeDegraded_parts {looks : Nat} {forceDegraded : Bool} :
    K (mountMaybeDegraded looks name forceDegraded) := by
  have closed := admits.toClosed
  refine closed.bind (loadFsState_closed closed) fun state => closed.checked fun _ => ?_
  refine closed.bind (list_closed closed admits.light) fun filesystems => ?_
  split
  · unfold failSelection
    split
    · exact failMount_closed closed admits.light
    · exact closed.ofExcept _
  · split
    · exact closed.pure _
    · refine closed.bind (isMountpoint_closed closed) fun occupied => ?_
      split
      · refine closed.bind (mountedFsUuidAt_closed closed) fun actualUuid => ?_
        split
        · exact relist_closed closed admits.light
        · exact failMount_closed closed admits.light
      · refine closed.bind (makeDir_closed closed admits.light) fun _ => ?_
        refine closed.bind (closed.attempt (verifyDevicePathsUuid_closed closed)) fun result => ?_
        cases result with
        | error e => exact failMount_closed closed admits.light
        | ok _ => exact mountDevices_parts admits _ _

theorem lock_parts : K (lock name) := by
  have closed := admits.toClosed
  refine closed.bind (get_closed closed admits.light) fun fs => closed.checked fun _ => ?_
  refine closed.bind ?_ fun _ => closed.bind (revokeKey_closed closed admits.light) fun _ => ?_
  · unfold unmountIf
    split
    · exact unmount_parts admits
    · exact closed.pure ()
  · exact closed.bind (invalidateListCache_closed closed admits.light) fun _ => get_closed closed admits.light

end

theorem updateOptions_parts {req : UpdateFilesystemOptionsRequest} (admits : Admits req.name Allowed @K) :
    K (updateOptions req) := by
  have closed := admits.toClosed
  refine closed.bind (get_closed closed admits.light) fun fs => closed.checked fun _ => ?_
  refine closed.checked fun _ => closed.bind
    (closed.forM fun _ _ => closed.mapError (closed.external closed.idle)) fun _ => ?_
  refine closed.bind (closed.bind (loadFsState_closed closed) fun state => ?_) fun _ =>
    closed.bind (invalidateListCache_closed closed admits.light) fun _ => get_closed closed admits.light
  split
  · refine closed.bind (admits.insert _) fun _ => closed.checked fun mountPoint => ?_
    refine closed.bind (verifyMountpointIdentity_closed closed) fun _ => ?_
    exact closed.bind (loadFsState_closed closed) fun _ => command_closed closed closed.idle
  · exact closed.pure ()

theorem destroy_parts (commands : Commands Allowed @K) (forget : K (forgetFs name)) {confirmName : String} :
    K (destroy name confirmName) := by
  have closed := commands.toClosed
  refine closed.checked fun _ => closed.bind (get_closed closed commands.light) fun fs => ?_
  refine closed.bind (verifyDevicePathsUuid_closed closed) fun _ => ?_
  refine closed.bind (verifyIfMounted_closed closed) fun _ => closed.bind ?_ fun _ => ?_
  · unfold unmountForDestroy
    split
    · refine closed.bind (verifyMountpointIdentity_closed closed) fun _ => ?_
      exact closed.bind (command_closed closed closed.idle) fun _ =>
        closed.mapError (possibly_closed closed _ _ (commands.unmount _))
    · exact closed.pure ()
  refine closed.bind (closed.attempt (possibly_closed closed _ _ (commands.unmount _))) fun _ => ?_
  refine closed.bind (isMountpoint_closed closed) fun _ => closed.checked fun _ => ?_
  refine closed.bind (removeDir_closed closed commands.light) fun _ => ?_
  refine closed.bind (closed.forM fun device _ => closed.mapError (possibly_closed closed _ _ (commands.wipe device)))
    fun _ => ?_
  refine closed.bind forget fun _ => ?_
  exact looked closed fun _ => looked closed fun _ =>
    invalidateListCache_closed closed commands.light

theorem forgetUnavailable_parts (commands : Commands Allowed @K)
    (erase : ∀ state : FsState, K (saveFsState (state.erase name))) {expected confirmName : String} :
    K (forgetUnavailable name expected confirmName) := by
  have closed := commands.toClosed
  refine closed.bind (closed.observed fun _ => closed.ofExcept _) fun state => ?_
  refine closed.checked fun _ => closed.bind (isMountpoint_closed closed) fun _ => ?_
  refine closed.checked fun _ => closed.bind (filesystemUuidIsVisible_closed closed) fun _ => ?_
  exact closed.checked fun _ => closed.bind (erase state) fun _ => invalidateListCache_closed closed commands.light

theorem prepareDevices_parts (closed : Closed Allowed @K) (light : ∀ effect, Light effect → Allowed effect)
    {humanBytes : String → Option Nat} {req : CreateFilesystemRequest} {made : Made}
    (format : Allowed (Host.onMachine (Machine.format made.devices (newSuperblock req made)))) :
    K (prepareDevices humanBytes req made) := by
  refine closed.checked fun _ => closed.bind (checkTpm_closed closed) fun _ => ?_
  refine closed.bind (checkMountPoint_closed closed) fun _ => closed.bind (command_closed closed closed.idle) fun _ => ?_
  refine closed.bind (loadFsState_closed closed) fun _ => closed.checked fun _ => ?_
  refine closed.bind (reserveMountPoint_closed closed light) fun _ => ?_
  refine closed.bind (orRemove_closed closed light (command_closed closed closed.idle)) fun _ => ?_
  refine closed.bind (orRemove_closed closed light (revalidateTargets_closed closed _)) fun _ => ?_
  exact orRemove_closed closed light (commandIf_closed closed _ _ format)

theorem mountCreated_parts (admits : Admits name Allowed @K) {looks : Nat} {made : Made} {uuid : String} :
    K (mountCreated looks name made uuid) := by
  have closed := admits.toClosed
  refine closed.bind (commandIf_closed closed _ _ (admits.mount _ _)) fun _ => ?_
  refine closed.bind (mountedFsUuidAfterMount_closed closed) fun mountedUuid => ?_
  split
  · exact closed.pure ()
  · exact closed.bind (closed.attempt (possibly_closed closed _ _ (admits.unmount _))) fun _ => closed.ofExcept _

end

end NastyEngine.Pools
