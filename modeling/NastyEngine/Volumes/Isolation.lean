import NastyEngine.Rust.Hash
import NastyEngine.Volumes.Rollback

/-!
The limit of a subvolume is that of a project, and the kernel accounts to a project what the subvolumes
and snapshots in it hold.
-/

namespace NastyEngine.Volumes
open Lib Rust Fallible

/-- 32 bits of a hash of the filesystem and the name; the kernel keeps `0` for itself. -/
def projectIdFor (filesystem name : String) : Nat :=
  max ((defaultHash (strHashBytes filesystem ++ strHashBytes name)).toNat % 2 ^ 32) 1

theorem projectIdFor_pos (filesystem name : String) : 1 ≤ projectIdFor filesystem name := Nat.le_max_right _ _

example : projectIdFor "tank" "vol-31817" = 2924331700 ∧ projectIdFor "tank" "vol-107452" = 2924331700 := by
  decide +kernel

def Host.charged (host : Host) (fs : String) (project : Nat) : String → Option Node :=
  fun path => (host.node? fs path).filter fun node => node.project = project

inductive QuotaRequest where
  | create (req : CreateSubvolumeRequest) (owner : Option String) (fresh : Fresh)
  | resize (fs name : String) (volsizeBytes : Nat) (filter : Option String)
  | rollback (req : RollbackSnapshotRequest) (filter : Option String) (adminOverride : Bool) (time : RollbackTime)
  | delete (fs name : String) (filter : Option String)
  deriving DecidableEq

namespace QuotaRequest

def filesystem : QuotaRequest → String
  | .create req _ _ => req.filesystem
  | .rollback req _ _ _ => req.filesystem
  | .resize fs _ _ _ | .delete fs _ _ => fs

def name : QuotaRequest → String
  | .create req _ _ => req.name
  | .rollback req _ _ _ => req.subvolume
  | .resize _ name _ _ | .delete _ name _ => name

def perform : QuotaRequest → Op Unit
  | .create req owner fresh => do
    let _ ← Volumes.create projectIdFor req owner fresh
  | .resize fs name volsizeBytes filter => do
    let _ ← Volumes.resize projectIdFor fs name volsizeBytes filter
  | .rollback req filter adminOverride time => do
    let _ ← Volumes.rollback projectIdFor req filter adminOverride time
  | .delete fs name filter => Volumes.delete projectIdFor fs name filter

/-- The subvolumes and snapshots that the request is about: a rollback reads its target and takes a safety
snapshot, and a subvolume is deleted with those below it. -/
def Touches : QuotaRequest → String → Prop
  | .create req _ _, path => path = req.name
  | .resize _ name _ _, path => path = name
  | .rollback req _ _ time, path => path = req.subvolume ∨ path = snapName req.subvolume req.snapshot ∨
      path = snapName req.subvolume (safetyName time.now)
  | .delete _ name _, path => Doomed name path

end QuotaRequest

structure Elsewhere (fs : String) (Touches : String → Prop) (project : Nat) (s t : Host) : Prop where
  limit : t.limit fs project = s.limit fs project
  others : ∀ path, ¬ Touches path → t.node? fs path = s.node? fs path
  uncharged : ∀ path node, Touches path → t.node? fs path = some node → node.project ≠ project

namespace Elsewhere
variable {fs path : String} {Touches : String → Prop} {project : Nat} {s t : Host}

section
variable (elsewhere : Elsewhere fs Touches project s t)
include elsewhere

theorem charged (before : ∀ path node, Touches path → s.node? fs path = some node → node.project ≠ project) :
    t.charged fs project = s.charged fs project := by
  funext path
  by_cases touched : Touches path
  · have none : ∀ host : Host, (∀ node, host.node? fs path = some node → node.project ≠ project) →
        host.charged fs project path = none := by
      intro host other
      rw [Host.charged, Option.filter_eq_none_iff]
      intro node there eq
      exact other node there (of_decide_eq_true eq)
    rw [none t fun node => elsewhere.uncharged path node touched, none s fun node => before path node touched]
  · rw [Host.charged, Host.charged, elsewhere.others path touched]

/-- Nodes stay as they are, except those that the request is about, which do not get the project. -/
theorem step {u : Host} (limit : u.limit fs project = t.limit fs project)
    (nodes : ∀ inner, u.node? fs inner = t.node? fs inner ∨
      Touches inner ∧ ∀ node, u.node? fs inner = some node → node.project ≠ project) :
    Elsewhere fs Touches project s u where
  limit := limit.trans elsewhere.limit
  others inner outside := by
    obtain same | ⟨touched, -⟩ := nodes inner
    · exact same.trans (elsewhere.others inner outside)
    · exact absurd touched outside
  uncharged inner node touched there := by
    obtain same | ⟨-, uncharged⟩ := nodes inner
    · exact elsewhere.uncharged inner node touched (same ▸ there)
    · exact uncharged node there

theorem modifyNode (touched : Touches path) {f : Node → Node}
    (keeps : ∀ node, node.project ≠ project → (f node).project ≠ project) :
    Elsewhere fs Touches project s (Host.modifyNode fs path f t) := by
  refine elsewhere.step (Host.limit_modifyNode ..) fun inner => ?_
  rw [Host.node?_modifyNode]
  split
  next both =>
    refine .inr ⟨both.2 ▸ touched, fun node there => ?_⟩
    obtain ⟨old, hit, rfl⟩ := Option.map_eq_some_iff.mp there
    exact keeps old (elsewhere.uncharged path old touched hit)
  · exact .inl rfl

theorem insertNode (touched : Touches path) {node : Node} (ne : node.project ≠ project) :
    Elsewhere fs Touches project s (Host.insertNode fs path node t) := by
  refine elsewhere.step (Host.limit_insertNode ..) fun inner => ?_
  cases eq : t.pools.lookup fs with
  | none =>
    rw [Host.insertNode, Host.node?_modifyPool, if_pos rfl, Host.node?, eq]
    exact .inl rfl
  | some pool =>
    rw [Host.node?_insertNode (by rw [eq]; rfl)]
    split
    next both => exact .inr ⟨both.2 ▸ touched, fun _ same => Option.some.inj same ▸ ne⟩
    · exact .inl rfl

theorem eraseNode (touched : Touches path) : Elsewhere fs Touches project s (Host.eraseNode fs path t) := by
  refine elsewhere.step (Host.limit_eraseNode ..) fun inner => ?_
  rw [Host.node?_eraseNode]
  split
  next both => exact .inr ⟨both.2 ▸ touched, nofun⟩
  · exact .inl rfl

theorem setQuota {other bytes : Nat} (ne : project ≠ other) :
    Elsewhere fs Touches project s (Host.setQuota fs other bytes t) := by
  refine elsewhere.step ?_ fun inner => .inl (by rw [Host.node?_setQuota])
  rw [Host.limit, Host.limit, Host.setQuota, Host.quota?_modifyPool, if_pos rfl, Host.quota?]
  cases t.pools.lookup fs with
  | none => rfl
  | some pool => rw [Option.bind_some, Option.bind_some, AList.lookup_insert_ne ne]

theorem addDir (dir : String) : Elsewhere fs Touches project s (Host.addDir fs dir t) := by
  refine elsewhere.step (Host.limit_addDir ..) fun inner => .inl ?_
  rw [Host.addDir, Host.node?_modifyPool, if_pos rfl, Host.node?]

end

theorem stable {own : Nat} (touched : Touches path) (apart : project ≠ own) :
    Stable (Elsewhere fs Touches project s) fs path own where
  modify keeps _ elsewhere := elsewhere.modifyNode touched fun node ne => (keeps node).symm ▸ ne
  assign _ elsewhere := elsewhere.modifyNode touched fun _ _ => apart.symm
  loops _ _ elsewhere := { elsewhere with }

theorem snapshotSubvolume {source dest : String} {readOnly : Bool} {fresh : Fresh} (from_ : Touches source)
    (touched : Touches dest) :
    Preserves (Elsewhere fs Touches project s) (snapshotSubvolume fs source dest readOnly fresh) := by
  intro t elsewhere
  refine snapshotSubvolume_stays elsewhere fun node eq _ => ⟨elsewhere.insertNode touched ?_, trivial⟩
  exact elsewhere.uncharged source node from_ eq

theorem deleteSubvolume (touched : Touches path) :
    Preserves (Elsewhere fs Touches project s) (deleteSubvolume fs path) := fun _ elsewhere =>
  .mono (deleteSubvolume_stays elsewhere fun _ elsewhere => elsewhere.eraseNode touched) fun _ _ _ _ => trivial

end Elsewhere

section
variable {fs name : String} {project : Nat} {s : Host}

theorem create_elsewhere {req : CreateSubvolumeRequest} {owner : Option String} {fresh : Fresh}
    (positive : project ≠ 0) (ne : project ≠ projectIdFor req.filesystem req.name) :
    Preserves (Elsewhere req.filesystem (· = req.name) project s) (create projectIdFor req owner fresh) := by
  have stable : Stable (Elsewhere req.filesystem (· = req.name) project s) req.filesystem req.name
      (projectIdFor req.filesystem req.name) := Elsewhere.stable rfl ne
  refine .checked fun _ => .bind fsMountPoint_preserves fun mountPoint => ?_
  refine .observed fun occupied => ?_
  split
  · refine .observed fun _ => .checked fun _ => ?_
    refine .bind get_preserves fun existing => .checked fun _ => ?_
    split
    · exact .bind (commandAs_preserves (stable.modify fun _ => rfl)) fun _ => .pure
    · exact Preserves.pure
  · intro t elsewhere
    refine stable.createNew ?_ ?_ fun _ limit t elsewhere => elsewhere.setQuota ne
    · refine Preserves.observed (fun missing => ?_) t elsewhere
      exact .forM fun dir _ => .mapError (.external fun _ elsewhere => elsewhere.addDir dir)
    · exact commandIf_preserves fun t elsewhere _ => elsewhere.insertNode rfl (Ne.symm positive)

variable {filter : Option String}

theorem resize_elsewhere {volsizeBytes : Nat} (ne : project ≠ projectIdFor fs name) :
    Preserves (Elsewhere fs (· = name) project s) (resize projectIdFor fs name volsizeBytes filter) := by
  have stable : Stable (Elsewhere fs (· = name) project s) fs name (projectIdFor fs name) := Elsewhere.stable rfl ne
  refine .checked fun _ => .bind get_preserves fun sv => ?_
  refine .bind (stable.resizeTo fun _ _ _ elsewhere => elsewhere.setQuota ne) fun _ => ?_
  refine .bind fsMountPoint_preserves fun _ => ?_
  exact .bind stable.setXattr fun _ => get_preserves

theorem delete_elsewhere : Preserves (Elsewhere fs (Doomed name) project s) (delete projectIdFor fs name filter) := by
  intro t elsewhere
  apply delete_takes elsewhere
  · exact fun _ _ elsewhere => { elsewhere with }
  · exact fun child below => Elsewhere.deleteSubvolume (.inr below)
  · exact fun _ _ _ _ => Elsewhere.deleteSubvolume (.inl rfl)

theorem rollback_elsewhere {req : RollbackSnapshotRequest} {adminOverride : Bool}
    {time : RollbackTime} (ne : project ≠ projectIdFor req.filesystem req.subvolume) :
    Preserves (Elsewhere req.filesystem (QuotaRequest.rollback req filter adminOverride time).Touches project s)
      (rollback projectIdFor req filter adminOverride time) := by
  have live : (QuotaRequest.rollback req filter adminOverride time).Touches req.subvolume := .inl rfl
  have target : (QuotaRequest.rollback req filter adminOverride time).Touches (snapName req.subvolume req.snapshot) :=
    .inr (.inl rfl)
  have safety : (QuotaRequest.rollback req filter adminOverride time).Touches
      (snapName req.subvolume (safetyName time.now)) := .inr (.inr rfl)
  have stable : Stable (Elsewhere req.filesystem (QuotaRequest.rollback req filter adminOverride time).Touches project s)
      req.filesystem req.subvolume (projectIdFor req.filesystem req.subvolume) := Elsewhere.stable live ne
  refine .checked fun _ => .bind get_preserves fun sv => ?_
  refine .checked fun _ => .bind fsMountPoint_preserves fun mountPoint => ?_
  refine .bind rollbackTarget_preserves fun node => ?_
  refine .bind ?_ fun _ => .bind ?_ fun _ => .bind ?_ fun _ =>
    .bind get_preserves fun _ => .pure
  · exact fun t elsewhere => createSnapshotLocked_takes elsewhere (Elsewhere.snapshotSubvolume live safety t elsewhere)
  · exact .bind (.mapError (Elsewhere.deleteSubvolume live)) fun _ =>
      .mapError (stable.materialize (Elsewhere.snapshotSubvolume target live))
  · exact setProjectQuota_preserves stable.assign fun _ _ elsewhere => elsewhere.setQuota ne

theorem QuotaRequest.elsewhere (request : QuotaRequest) (positive : project ≠ 0)
    (ne : project ≠ projectIdFor request.filesystem request.name) :
    Preserves (Elsewhere request.filesystem request.Touches project s) request.perform := by
  cases request with
  | create req owner fresh => exact .bind (create_elsewhere positive ne) fun _ => .pure
  | resize fs name volsizeBytes filter => exact .bind (resize_elsewhere ne) fun _ => .pure
  | rollback req filter adminOverride time => exact .bind (rollback_elsewhere ne) fun _ => .pure
  | delete fs name filter => exact delete_elsewhere

end

/-- Whatever fails: a subvolume of another project keeps its limit and, if nothing that the request is about is
charged to it, the space that is accounted to it, which is a function of what is charged to its project. -/
theorem quota_isolated (request : QuotaRequest) (s : Host) (faults : List (Option String)) (other : String)
    (apart : projectIdFor request.filesystem other ≠ projectIdFor request.filesystem request.name)
    (uncharged : ∀ path node, request.Touches path → s.node? request.filesystem path = some node →
      node.project ≠ projectIdFor request.filesystem other) (space : (String → Option Node) → Nat) :
    let t := (run request.perform ⟨s, faults⟩).2.state
    let project := projectIdFor request.filesystem other
    t.limit request.filesystem project = s.limit request.filesystem project ∧
      space (t.charged request.filesystem project) = space (s.charged request.filesystem project) := by
  have positive : projectIdFor request.filesystem other ≠ 0 := Nat.one_le_iff_ne_zero.mp (projectIdFor_pos _ _)
  have start : Elsewhere request.filesystem request.Touches (projectIdFor request.filesystem other) s s :=
    ⟨rfl, fun _ _ => rfl, uncharged⟩
  have ended := (request.elsewhere positive apart s start faults).1
  exact ⟨ended.limit, congrArg space (ended.charged uncharged)⟩

def limitedHost : Host where
  pools := Keyed.ofPairs [("tank", {
    uuid := "u", mountPoint := some "/fs/tank"
    nodes := Keyed.ofPairs [("vol-107452", {
      subvolid := some 1, project := 2924331700
      xattrs := Keyed.ofPairs [("user.nasty.type", "filesystem"), ("user.nasty.volsize", "1048576")] })]
    quotas := Keyed.ofPairs [(2924331700, { usedBytes := 4096, hardBytes := 1048576 })] })]

def createIn (name : String) : QuotaRequest :=
  .create { filesystem := "tank", name := name, volsizeBytes := some 4194304 } none ⟨2, "i", 0, "", ""⟩

theorem quota_isolated_docs : let t := (run (createIn "docs").perform ⟨limitedHost, []⟩).2.state
    let held (charged : String → Option Node) : Nat := ((charged "vol-107452").map (·.files.length)).getD 0
    t.limit "tank" (projectIdFor "tank" "vol-107452") = 1048576 ∧
      held (t.charged "tank" (projectIdFor "tank" "vol-107452")) =
        held (limitedHost.charged "tank" (projectIdFor "tank" "vol-107452")) := by
  intro t held
  have isolated := quota_isolated (createIn "docs") limitedHost [] "vol-107452" (by decide +kernel)
    (fun path node touched there => by
      cases touched
      cases there) held
  exact ⟨isolated.1.trans (by decide +kernel), isolated.2⟩

/-- Two names with one project: the limit of the first subvolume becomes that of the second. -/
theorem create_takes_limit : projectIdFor "tank" "vol-31817" = projectIdFor "tank" "vol-107452" ∧
    limitedHost.limit "tank" (projectIdFor "tank" "vol-107452") = 1048576 ∧
    (run (createIn "vol-31817").perform ⟨limitedHost, []⟩).1 = .ok () ∧
    (run (createIn "vol-31817").perform ⟨limitedHost, []⟩).2.state.limit "tank" (projectIdFor "tank" "vol-107452") =
      4194304 := by
  decide +kernel

end NastyEngine.Volumes
