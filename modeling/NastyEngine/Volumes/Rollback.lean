import NastyEngine.Volumes.Effects

/-! A rollback takes a safety snapshot, deletes the live subvolume and makes it again from the target. -/

namespace NastyEngine.Volumes
open Lib Rust Fallible

theorem snapName_ne {subvolume snapshot : String} : snapName subvolume snapshot ≠ subvolume := by
  intro eq
  have lengths := congrArg String.length eq
  rw [snapName, String.length_append, String.length_append] at lengths
  have single : "@".length = 1 := rfl
  omega

section
variable {fs path : String} {s t : Host}

theorem isSome_modifyPool {f : Pool → Pool} :
    ((s.modifyPool fs f).pools.lookup fs).isSome = (s.pools.lookup fs).isSome := by
  rw [Host.lookup_modifyPool, if_pos rfl, Option.isSome_map]

structure Beside (fs path : String) (s t : Host) : Prop where
  pools : (t.pools.lookup fs).isSome = (s.pools.lookup fs).isSome
  nodes : ∀ inner, inner ≠ path → t.node? fs inner = s.node? fs inner

theorem Beside.refl (fs path : String) (s : Host) : Beside fs path s s := ⟨rfl, fun _ _ => rfl⟩

theorem Beside.modifyNode (f : Node → Node) (beside : Beside fs path s t) :
    Beside fs path s (Host.modifyNode fs path f t) where
  pools := isSome_modifyPool.trans beside.pools
  nodes inner ne := by
    rw [Host.node?_modifyNode, if_neg fun both => ne both.2]
    exact beside.nodes inner ne

theorem Beside.setQuota {project bytes : Nat} (beside : Beside fs path s t) :
    Beside fs path s (Host.setQuota fs project bytes t) where
  pools := isSome_modifyPool.trans beside.pools
  nodes inner ne := by
    rw [Host.node?_setQuota]
    exact beside.nodes inner ne

end

structure SameFiles (fs path : String) (s t : Host) : Prop extends Beside fs path s t where
  files : t.contents fs path = s.contents fs path

namespace SameFiles
variable {fs path : String} {s t : Host}

theorem refl (fs path : String) (s : Host) : SameFiles fs path s s := ⟨Beside.refl fs path s, rfl⟩

theorem modifyNode {f : Node → Node} (keeps : ∀ node, (f node).files = node.files) (same : SameFiles fs path s t) :
    SameFiles fs path s (Host.modifyNode fs path f t) where
  toBeside := same.toBeside.modifyNode f
  files := by
    rw [← same.files, Host.contents, Host.contents, Host.node?_modifyNode, if_pos ⟨rfl, rfl⟩, Option.map_map]
    congr 1
    funext node
    exact keeps node

theorem setQuota {project bytes : Nat} (same : SameFiles fs path s t) :
    SameFiles fs path s (Host.setQuota fs project bytes t) where
  toBeside := same.toBeside.setQuota
  files := by
    rw [← same.files, Host.contents, Host.contents, Host.node?_setQuota]

theorem contents (same : SameFiles fs path s t) (inner : String) : t.contents fs inner = s.contents fs inner := by
  by_cases here : inner = path
  · rw [here]
    exact same.files
  · rw [Host.contents, Host.contents, same.nodes inner here]

end SameFiles

theorem stampOwner_files (s : Host) (fs dest mountPoint : String) (filter : Option String) :
    Preserves (SameFiles fs dest s) (filter.elim (pure ()) fun owner =>
      commandAs ("set owner on " ++ subvolPath mountPoint dest) (xattrSet fs dest "user.nasty.owner" owner)) :=
  elim_preserves fun _ => commandAs_preserves fun _ same => same.modifyNode fun _ => rfl

theorem attachClone_files (s : Host) (fs path mountPoint dest : String) (type : SubvolumeType) (fresh : Fresh) :
    Preserves (SameFiles fs path s) (attachClone fs mountPoint dest type fresh) := by
  unfold attachClone
  split
  · refine .observed fun there => ?_
    split
    · exact commandIf_preserves fun t same _ => ⟨⟨same.pools, same.nodes⟩, same.files⟩
    · exact .pure
  · exact .pure

variable {filter : Option String} {fresh : Fresh} {node : Node}

section
variable {projectIdFor : String → String → Nat} {fs subvolume : String} {live target : Node} {t : Host}

/-- The target is as it was, and what the subvolume held is in it or in the safety snapshot. -/
structure Undoable (fs subvolume snapshot safety : String) (live target : Node) (t : Host) : Prop where
  held : t.contents fs subvolume = some live.files ∨ t.contents fs (snapName subvolume safety) = some live.files
  target : t.node? fs (snapName subvolume snapshot) = some target

theorem insertNode_beside {path : String} (eq : (t.pools.lookup fs).isSome) :
    Beside fs path t (Host.insertNode fs path node t) where
  pools := isSome_modifyPool
  nodes inner ne := by rw [Host.node?_insertNode eq, if_neg fun both => ne both.2]

theorem createSnapshotLocked_stays {name : String} (here : t.node? fs subvolume = some live) :
    Stays (fun u => u = t ∨ t.node? fs (snapName subvolume name) = none ∧ Beside fs (snapName subvolume name) t u)
      (createSnapshotLocked projectIdFor fs subvolume name filter fresh)
      (fun _ u => t.node? fs (snapName subvolume name) = none ∧ Beside fs (snapName subvolume name) t u ∧
        u.contents fs (snapName subvolume name) = some live.files) t := by
  have there := Host.isSome_of_node? here
  refine createSnapshotLocked_takes (.inl rfl) (snapshotSubvolume_stays (.inl rfl) fun node hit free => ?_)
  have eq : node = live := Option.some.inj (hit.symm.trans here)
  subst eq
  have absent := Host.node?_of_free free
  refine ⟨.inr ⟨absent, insertNode_beside there⟩, absent, insertNode_beside there, ?_⟩
  rw [Host.contents, Host.node?_insertNode there, if_pos ⟨rfl, rfl⟩]
  rfl

theorem materialize_stays {snapshot dest mountPoint : String} (hit : t.node? fs snapshot = some target) :
    Stays (fun u => Beside fs dest t u) (materializeSubvolFromSnapshot fs snapshot dest mountPoint node filter fresh)
      (fun _ u => u.contents fs dest = some target.files) t := by
  have there := Host.isSome_of_node? hit
  refine Stays.bind (R := fun _ u => u.contents fs dest = some target.files) ?_ fun _ u beside post => ?_
  · refine snapshotSubvolume_stays (.refl fs dest t) fun source same _ => ?_
    have eq : source = target := Option.some.inj (same.symm.trans hit)
    subst eq
    refine ⟨insertNode_beside there, ?_⟩
    rw [Host.contents, Host.node?_insertNode there, if_pos ⟨rfl, rfl⟩]
    rfl
  -- what follows changes the owner and the loop devices
  have further := Preserves.bind (stampOwner_files u fs dest mountPoint filter) fun _ =>
    attachClone_files u fs dest mountPoint dest node.readMeta.subvolumeType fresh
  refine fun faults => ⟨?_, fun _ _ => ?_⟩
  · have same := (further u (.refl fs dest u) faults).1
    exact ⟨same.pools.trans beside.pools, fun inner ne => (same.nodes inner ne).trans (beside.nodes inner ne)⟩
  · have same := (further u (.refl fs dest u) faults).1
    exact same.files.trans post

end

section
variable (projectIdFor : String → String → Nat)

theorem rollbackTarget_preserves {J : Host → Prop} {req : RollbackSnapshotRequest} {subvol : Subvolume}
    {filter : Option String} {adminOverride : Bool} : Preserves J (rollbackTarget req subvol filter adminOverride) :=
  .observed fun _ => .checked fun _ =>
    .checked fun _ => .bind findChildSubvolumes_preserves fun _ =>
    .checked fun _ => .pure

theorem swap_stays {req : RollbackSnapshotRequest} {mountPoint safety : String} {live target : Node} {t : Host}
    (held : t.contents req.filesystem (snapName req.subvolume safety) = some live.files)
    (eq : t.node? req.filesystem (snapName req.subvolume req.snapshot) = some target) :
    Stays (Undoable req.filesystem req.subvolume req.snapshot safety live target)
      (swap req mountPoint safety node filter fresh)
      (fun _ u => u.contents req.filesystem req.subvolume = some target.files) t := by
  have undoable : ∀ u, Beside req.filesystem req.subvolume t u →
      Undoable req.filesystem req.subvolume req.snapshot safety live target u := by
    intro u beside
    refine ⟨.inr ?_, (beside.nodes _ snapName_ne).trans eq⟩
    rw [Host.contents, beside.nodes _ snapName_ne]
    exact held
  have erased : ∀ u, Beside req.filesystem req.subvolume t u →
      Beside req.filesystem req.subvolume t (Host.eraseNode req.filesystem req.subvolume u) := by
    intro u beside
    refine ⟨?_, fun inner ne => ?_⟩
    · exact isSome_modifyPool.trans beside.pools
    · rw [Host.node?_eraseNode, if_neg fun both => ne both.2]
      exact beside.nodes inner ne
  refine .then (.mapError (deleteSubvolume_stays (.refl _ _ t) erased)) undoable fun _ u beside _ => ?_
  have kept := (beside.nodes _ snapName_ne).trans eq
  refine .weaken (.mapError (materialize_stays kept)) fun v further => undoable v ?_
  exact ⟨further.pools.trans beside.pools, fun inner ne => (further.nodes inner ne).trans (beside.nodes inner ne)⟩

theorem rollback_stays (req : RollbackSnapshotRequest) (filter : Option String) (adminOverride : Bool)
    (time : RollbackTime) {s : Host} {live target : Node} (here : s.node? req.filesystem req.subvolume = some live)
    (eq : s.node? req.filesystem (snapName req.subvolume req.snapshot) = some target) :
    Stays (Undoable req.filesystem req.subvolume req.snapshot (safetyName time.now) live target)
      (rollback projectIdFor req filter adminOverride time)
      (fun result t => result.safetySnapshot = safetyName time.now ∧
        t.contents req.filesystem req.subvolume = some target.files) s := by
  have start : Undoable req.filesystem req.subvolume req.snapshot (safetyName time.now) live target s := by
    refine ⟨.inl ?_, eq⟩
    rw [Host.contents, here]
    rfl
  refine .checked start fun _ _ => ?_
  refine .quiet (get_preserves s rfl) start fun subvol _ => ?_
  refine .checked start fun _ _ => ?_
  refine .quiet (fsMountPoint_preserves s rfl) start fun mountPoint _ => ?_
  refine .quiet (rollbackTarget_preserves s rfl) start fun node _ => ?_
  -- the safety snapshot is a path of its own, because the target is there already
  have kept : ∀ t, s.node? req.filesystem (snapName req.subvolume (safetyName time.now)) = none →
      Beside req.filesystem (snapName req.subvolume (safetyName time.now)) s t →
      t.node? req.filesystem (snapName req.subvolume req.snapshot) = some target := by
    intro t absent beside
    refine (beside.nodes _ fun same => ?_).trans eq
    rw [← same, eq] at absent
    cases absent
  refine .then (createSnapshotLocked_stays here) ?_ ?_
  · rintro t (rfl | ⟨absent, beside⟩)
    · exact start
    · refine ⟨.inl ?_, kept t absent beside⟩
      rw [Host.contents, beside.nodes _ (snapName_ne).symm, here]
      rfl
  · rintro _ t _ ⟨absent, beside, held⟩
    refine .bind (swap_stays held (kept t absent beside)) fun _ u inv swapped => ?_
    have undoable : ∀ v, SameFiles req.filesystem req.subvolume u v →
        Undoable req.filesystem req.subvolume req.snapshot (safetyName time.now) live target v := by
      intro v same
      refine ⟨?_, (same.nodes _ snapName_ne).trans inv.target⟩
      rw [same.contents, same.contents]
      exact inv.held
    refine .then (setProjectQuota_preserves (fun _ same => same.modifyNode fun _ => rfl)
      (fun limit _ same => same.setQuota) u (.refl _ _ u)) undoable fun _ v same _ => ?_
    refine .quiet (get_preserves v rfl) (undoable v same) fun _ _ => ?_
    refine .pure (undoable v same) ⟨rfl, ?_⟩
    rw [same.contents]
    exact swapped

/-- Whatever fails: what the subvolume held is in it or in the safety snapshot, the target is as it was, and
after a success the subvolume holds what the target holds. -/
theorem rollback_loses_nothing (req : RollbackSnapshotRequest) (filter : Option String) (adminOverride : Bool)
    (time : RollbackTime) (s : Host) (faults : List (Option String)) (live target : Node)
    (here : s.node? req.filesystem req.subvolume = some live)
    (found : s.node? req.filesystem (snapName req.subvolume req.snapshot) = some target) :
    let ended := run (rollback projectIdFor req filter adminOverride time) ⟨s, faults⟩
    (ended.2.state.contents req.filesystem req.subvolume = some live.files ∨
      ended.2.state.contents req.filesystem (snapName req.subvolume (safetyName time.now)) = some live.files) ∧
    ended.2.state.node? req.filesystem (snapName req.subvolume req.snapshot) = some target ∧
    ∀ result, ended.1 = .ok result → result.safetySnapshot = safetyName time.now ∧
      ended.2.state.contents req.filesystem req.subvolume = some target.files := by
  intro ended
  have undoable := rollback_stays projectIdFor req filter adminOverride time here found faults
  exact ⟨undoable.1.held, undoable.1.target, undoable.2⟩

end

def docsHost : Host where
  pools := Keyed.ofPairs [("tank", {
    uuid := "u", mountPoint := some "/fs/tank"
    nodes := Keyed.ofPairs [ ("docs", { subvolid := some 1, files := [("a.txt", "new")] }),
      ("docs@mon", { subvolid := some 2, readOnly := true, snapshotParent := some "/docs", files := [("a.txt", "old")] })] })]

def docsRollback : Op RollbackResult :=
  rollback (fun _ _ => 7) ⟨"tank", "docs", "mon"⟩ none true ⟨5, ⟨3, "i", 0, "", ""⟩, ⟨4, "j", 0, "", ""⟩⟩

theorem rollback_loses_nothing_docs : (run docsRollback ⟨docsHost, []⟩).1.toOption.map (·.safetySnapshot) =
      some "pre-rollback-5" ∧
    ((run docsRollback ⟨docsHost, []⟩).2.state.contents "tank" "docs" = some [("a.txt", "new")] ∨
      (run docsRollback ⟨docsHost, []⟩).2.state.contents "tank" "docs@pre-rollback-5" = some [("a.txt", "new")]) := by
  refine ⟨by decide +kernel, ?_⟩
  exact (rollback_loses_nothing (fun _ _ => 7) ⟨"tank", "docs", "mon"⟩ none true _ docsHost [] _ _ (by rfl) (by rfl)).1

end NastyEngine.Volumes
