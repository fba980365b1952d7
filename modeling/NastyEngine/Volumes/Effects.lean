import NastyEngine.Volumes.Nodes

/-!
A property of hosts that the changes to one subvolume keep is kept by the operations on it, wherever a
command fails.
-/

namespace NastyEngine.Volumes
open Lib Rust Fallible

structure Stable (J : Host → Prop) (fs path : String) (project : Nat) : Prop where
  modify : ∀ {f : Node → Node}, (∀ node, (f node).project = node.project) → ∀ t, J t → J (Host.modifyNode fs path f t)
  assign : ∀ t, J t → J (Host.modifyNode fs path (fun node => { node with project := project }) t)
  loops : ∀ loops t, J t → J { t with loops := loops }

section
variable {J : Host → Prop} {fs path : String} {project : Nat}

theorem setProjectQuota_preserves {bytes : Nat}
    (assign : ∀ t, J t → J (Host.modifyNode fs path (fun node => { node with project := project }) t))
    (quota : ∀ limit t, J t → J (Host.setQuota fs project limit t)) :
    Preserves J (setProjectQuota fs path project bytes) := by
  have assigned : ∀ current, Preserves J (assignProject fs path current project) := by
    intro current
    unfold assignProject
    split
    · exact .pure
    · exact tried_preserves assign
  refine .observed fun current => ?_
  refine .bind (tried_preserves fun _ inv => inv) fun readable => ?_
  split
  · refine .bind (assigned current) fun set => ?_
    split
    · exact .bind (tried_preserves (quota _)) fun _ => .pure
    · exact .pure
  · exact .pure

theorem elim_preserves {α : Type} {value : Option α} {rest : α → Op Unit} (each : ∀ a, Preserves J (rest a)) :
    Preserves J (value.elim (pure ()) rest) := by
  cases value with
  | none => exact .pure
  | some a => exact each a

variable {projectIdFor : String → String → Nat}

variable {filter : Option String} {R : Host → Prop}

theorem createSnapshotLocked_takes {subvolume name : String} {fresh : Fresh} {s : Host} (inv : J s)
    (taken : Stays J (snapshotSubvolume fs subvolume (snapName subvolume name) true fresh) (fun _ => R) s) :
    Stays J (createSnapshotLocked projectIdFor fs subvolume name filter fresh) (fun _ => R) s := by
  refine .quiet (get_preserves s rfl) inv fun _ _ => ?_
  refine .quiet (fsMountPoint_preserves s rfl) inv fun _ _ => ?_
  refine .observed inv (.checked inv fun _ _ => ?_)
  refine .observed inv (.checked inv fun _ _ => ?_)
  refine .quiet (get_preserves s rfl) inv fun _ _ => ?_
  refine .quiet tried_id_quiet inv fun _ _ => .bind taken fun _ t inv reached => ?_
  refine .quiet tried_id_quiet inv fun _ _ => ?_
  exact .observed inv (.pure inv reached)

theorem delete_takes {name : String}
    {s : Host} (inv : J s) (detach : ∀ device t, J t → J (Host.detachLoop device t))
    (each : ∀ child, Below name child → Preserves J (deleteSubvolume fs child))
    (last : ∀ sv view node, Found projectIdFor s fs name filter sv view node →
      ∀ t, J t → Stays J (deleteSubvolume fs name) (fun _ => R) t) :
    Stays J (delete projectIdFor fs name filter) (fun _ => R) s := by
  refine .quiet get_found inv ?_
  rintro sv ⟨view, node, found⟩
  refine .bind (releaseDevice_preserves detach s inv) fun _ t inv _ => ?_
  refine .bind (fsMountPoint_preserves t inv) fun _ t inv _ => ?_
  refine .bind (findChildSubvolumes_below inv) fun children t inv below => ?_
  refine .bind (deleteChildren_preserves (fun child mem => ?_) t inv) fun _ t inv _ => ?_
  · exact each child (below child (List.mem_reverse.mp mem))
  refine .bind (check_preserves t inv) fun _ t inv _ => ?_
  exact .mapError (last sv view node found t inv)

namespace Stable
variable (stable : Stable J fs path project)
include stable

theorem setXattr {what key value : String} : Preserves J (setXattr fs path what key value) :=
  commandAs_preserves (stable.modify fun _ => rfl)

theorem writeMetaXattrs {m : SubvolumeMeta} : Preserves J (writeMetaXattrs fs path m) :=
  .forM fun _ _ => stable.setXattr

theorem losetup {other name device file : String} : Preserves J (losetup other name device file) :=
  commandIf_preserves fun t inv _ => stable.loops _ t inv

theorem orQuarantine {α : Type} {type : SubvolumeType} {device : Option String} {step : Op α} (kept : Preserves J step) :
    Preserves J (orQuarantine type device step) := by
  refine .bind (.attempt kept) fun result => ?_
  cases result with
  | ok a => exact .pure
  | error e =>
    have detached : Preserves J (quarantineFailedCreate device) := by
      cases device with
      | none => exact .pure
      | some device =>
        exact .bind (tried_preserves fun t inv => stable.loops _ t inv) fun _ => .pure
    dsimp only
    split
    · exact .bind detached fun _ => check_preserves
    · exact .bind .pure fun _ => check_preserves

theorem attachClone {other mountPoint newName : String} {type : SubvolumeType} {fresh : Fresh} :
    Preserves J (attachClone other mountPoint newName type fresh) := by
  unfold Volumes.attachClone
  split
  · refine .observed fun there => ?_
    split
    · exact stable.losetup
    · exact .pure
  · exact .pure

theorem materialize {snapshot mountPoint : String} {node : Node} {filter : Option String} {fresh : Fresh}
    (made : Preserves J (snapshotSubvolume fs snapshot path false fresh)) :
    Preserves J (materializeSubvolFromSnapshot fs snapshot path mountPoint node filter fresh) := by
  refine .bind made fun _ => ?_
  refine .bind (elim_preserves fun _ => commandAs_preserves (stable.modify fun _ => rfl)) fun _ => ?_
  exact stable.attachClone

theorem resizeTo {projectIdFor : String → String → Nat} {sv : Subvolume} {volsizeBytes : Nat}
    (quota : sv.subvolumeType = .filesystem → ∀ limit t, J t → J (Host.setQuota fs (projectIdFor fs path) limit t)) :
    Preserves J (resizeTo projectIdFor fs path sv volsizeBytes) := by
  unfold Volumes.resizeTo
  split
  · refine .observed fun _ => .checked fun _ => ?_
    refine .checked fun _ => ?_
    refine .bind (command_preserves (stable.modify fun _ => rfl)) fun _ => ?_
    refine .bind (elim_preserves fun _ => command_preserves fun _ inv => inv) fun _ => .pure
  next type =>
    refine .checked fun _ => .checked fun _ => ?_
    refine .bind fsMountPoint_preserves fun _ => ?_
    exact .bind (command_preserves (quota type _)) fun _ => .pure

end Stable

end

section
variable {projectIdFor : String → String → Nat} {J : Host → Prop} {req : CreateSubvolumeRequest} {mountPoint : String}
  {fresh : Fresh}

variable {project : Nat}

theorem Stable.createImage (stable : Stable J req.filesystem req.name project) :
    Preserves J (createImage req mountPoint fresh) := by
  refine .bind (stable.orQuarantine (commandAs_preserves (stable.modify fun _ => rfl))) fun _ => ?_
  refine .bind (stable.orQuarantine (commandAs_preserves (stable.modify fun _ => rfl))) fun _ => ?_
  refine .bind (tried_preserves fun _ inv => inv) fun _ => ?_
  refine .bind (stable.orQuarantine stable.losetup) fun _ => ?_
  split
  · exact .pure
  · have quiet : Preserves J (Volumes.orQuarantine .block (some fresh.loopDevice) (command id)) :=
      stable.orQuarantine (command_preserves fun _ inv => inv)
    exact .bind quiet fun _ => .bind quiet fun _ => .bind quiet fun _ =>
      .bind quiet fun _ => .pure

theorem Stable.backingOf (stable : Stable J req.filesystem req.name project) :
    Preserves J (backingOf req mountPoint fresh) := by
  unfold Volumes.backingOf
  split
  · exact stable.createImage
  · exact .pure

theorem Stable.openToAll (stable : Stable J req.filesystem req.name project) : Preserves J (openToAll req) := by
  unfold Volumes.openToAll
  split
  · exact tried_preserves (stable.modify fun _ => rfl)
  · exact .pure

section
variable (stable : Stable J req.filesystem req.name (projectIdFor req.filesystem req.name))
include stable

theorem Stable.limitNew (quota : req.subvolumeType = .filesystem → ∀ limit t, J t →
      J (Host.setQuota req.filesystem (projectIdFor req.filesystem req.name) limit t)) :
    Preserves J (limitNew projectIdFor req) := by
  unfold Volumes.limitNew
  split
  next type =>
    exact setProjectQuota_preserves stable.assign (quota type)
  · exact .pure

theorem Stable.createNew {owner : Option String} {s : Host}
    (dirs : Stays J (createDirAll req.filesystem (parentPath req.name)) (fun _ _ => True) s)
    (made : Preserves J (createSubvolume req.filesystem req.name fresh))
    (quota : req.subvolumeType = .filesystem → ∀ limit t, J t →
      J (Host.setQuota req.filesystem (projectIdFor req.filesystem req.name) limit t)) :
    Stays J (createNew projectIdFor req owner mountPoint fresh) (fun _ _ => True) s := by
  refine .bind dirs fun _ t inv _ => ?_
  refine Preserves.bind made (fun _ => ?_) t inv
  refine Preserves.bind (stable.orQuarantine (commandAs_preserves (stable.modify fun _ => rfl))) fun _ => ?_
  refine .bind (stable.orQuarantine (commandAs_preserves (stable.modify fun _ => rfl))) fun _ => ?_
  refine .bind (.forM fun option _ => .bind (tried_preserves (stable.modify fun _ => rfl)) fun _ => .pure) fun _ => ?_
  refine .bind (stable.limitNew quota) fun _ => ?_
  refine .bind stable.backingOf fun backing => ?_
  refine .bind (stable.orQuarantine stable.writeMetaXattrs) fun _ => ?_
  refine .bind (stable.orQuarantine (commandAs_preserves (stable.modify fun _ => rfl))) fun _ => ?_
  refine .bind stable.openToAll fun _ => ?_
  exact .bind get_preserves fun _ => .pure

end

end

end NastyEngine.Volumes
