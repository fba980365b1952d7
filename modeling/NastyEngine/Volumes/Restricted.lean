import NastyEngine.Lib.Run
import NastyEngine.Volumes.Confinement
import NastyEngine.Volumes.Effects

/-!
Each operation keeps what is foreign as it was, if it does not reach into it: a `create` over a
subvolume of another owner or inside one, a `delete` with one below, and a quota on a project number
that is in use twice are the ways in which it can.
-/

namespace NastyEngine.Volumes
open Lib Rust Auth Fallible

variable {owner : String}

section
variable {session : Session} {s : Host} {fs name path : String} {projectIdFor : String → String → Nat}

abbrev Confines {ε α : Type} (session : Session) (s : Host) (p : Fallible ε (Faulty Host) α) : Prop :=
  Stays (Confined session s) p (fun _ _ => True) s

theorem Confined.stable (project : Nat) (mine : Mine session s fs path) : Stable (Confined session s) fs path project where
  modify _ := Confined.modifyNode mine
  assign := Confined.modifyNode mine
  loops _ _ confined := confined.loops

variable {fresh : Fresh} {subvolume : String}

theorem createSubvolume_confined (free : Free session s fs path) :
    Preserves (Confined session s) (createSubvolume fs path fresh) := by
  refine commandIf_preserves fun t confined possible => confined.insertNode free _ ?_
  simpa using (Bool.and_eq_true_iff.mp possible).1

theorem snapshotSubvolume_confined {source dest : String} {readOnly : Bool} (free : Free session s fs dest) :
    Preserves (Confined session s) (snapshotSubvolume fs source dest readOnly fresh) := by
  refine .observed fun _ => .checked fun node => ?_
  refine commandIf_preserves fun t confined possible => confined.insertNode free _ ?_
  simpa using (Bool.and_eq_true_iff.mp possible).1

theorem deleteSubvolume_confined (mine : Mine session s fs path) :
    Preserves (Confined session s) (deleteSubvolume fs path) := by
  intro t inv
  refine .observed inv ?_
  refine .checked inv fun _ eq => ?_
  have eq := require_ok eq
  refine .observed inv ?_
  refine .checked inv fun _ childless => ?_
  have childless := require_ok childless
  exact Stays.external inv (inv.eraseNode mine eq childless) trivial

theorem createDirAll_confined (free : Free session s fs name) :
    Confines session s (createDirAll fs (parentPath name)) := by
  refine Stays.observed (.refl session s) ?_
  refine Preserves.forM (fun dir mem => ?_) s (.refl session s)
  refine Preserves.mapError (.external (Confined.addDir fun p eq => ?_))
  intro path node listed outside held
  refine free p eq path node listed outside ?_
  have occupied : Host.occupied s fs = p.occupied := by
    funext path
    rw [Host.occupied, eq, Option.any_some]
  rw [occupied] at mem
  refine Pool.holds_of_missing (by simp [Pool.occupied]) (fun path mem => ?_) (List.mem_reverse.mp mem) held
  simp [Pool.occupied, mem]

theorem Found.mine {sv : Subvolume} {view : View} {node : Node}
    (found : Found projectIdFor s fs name session.owner sv view node)
    (within : Covers session fs) : Mine session s fs name := by
  intro p there other listed
  have eq : view.pool = p := Option.some.inj (found.looked.pool.symm.trans there)
  subst eq
  have eq : node = other := Option.some.inj (found.there.symm.trans listed)
  subst eq
  exact fun foreign => foreign ⟨found.owned, within⟩

theorem mine_of_absent (absent : s.occupied fs path = false) : Mine session s fs path := by
  intro p eq node listed
  rw [Host.occupied, eq, Option.any_some, Pool.occupied] at absent
  have mem := Pool.mem_nodes listed
  simp [mem] at absent

/-- A name that is not taken is the session's to make. -/
theorem occupied_confined {α : Type} {p q : Op α} (taken : s.occupied fs path = true → Confines session s p)
    (new : s.occupied fs path = false → Mine session s fs path → Confines session s q) :
    Confines session s (Fallible.observe (·.occupied fs path) >>= fun taken => if taken = true then p else q) := by
  refine .observed (.refl session s) ?_
  split
  next occupied =>
    exact taken occupied
  next absent =>
    have absent := Bool.eq_false_iff.mpr absent
    exact new absent (mine_of_absent absent)

theorem create_confined {req : CreateSubvolumeRequest} {owner : Option String}
    (existing : ∀ node, s.node? req.filesystem req.name = some node → Foreign session req.filesystem node →
      node.readMeta.subvolumeType = .block)
    (new : s.occupied req.filesystem req.name = false → Free session s req.filesystem req.name ∧
      (req.subvolumeType = .filesystem → Alone session s req.filesystem (projectIdFor req.filesystem req.name))) :
    Confines session s (create projectIdFor req owner fresh) := by
  have start := Confined.refl session s
  refine .checked start fun _ _ => ?_
  refine Stays.quiet (fsMountPoint_preserves s rfl) start fun mountPoint _ => ?_
  refine occupied_confined (fun _ => ?_) fun absent mine => ?_
  · refine Stays.quiet (Preserves.observe _ s rfl) start fun creating _ => ?_
    refine .checked start fun _ _ => ?_
    refine .quiet get_found start ?_
    rintro sv ⟨view, node, found⟩
    refine .checked start fun _ _ => ?_
    split
    next type =>
      have mine : Mine session s req.filesystem req.name := by
        intro p there other listed outside
        have block := existing other (by rw [Host.node?, there]; exact listed) outside
        have eq : view.pool = p := Option.some.inj (found.looked.pool.symm.trans there)
        have known := found.there
        rw [eq, listed] at known
        cases known
        rw [found.described] at type
        exact absurd (type.symm.trans block) (by decide)
      exact Preserves.bind (commandAs_preserves (.modifyNode mine)) (fun _ => .pure) s start
    · exact Stays.pure start trivial
  · obtain ⟨free, alone⟩ := new absent
    exact (Confined.stable _ mine).createNew (createDirAll_confined free) (createSubvolume_confined free)
      fun type limit => .setQuota (alone type)

section
variable (within : Covers session fs)
include within

theorem delete_confined (apart : On s fs fun p => ∀ path node, p.nodes.lookup path = some node → Foreign session fs node →
      ¬ Below name path) :
    Confines session s (delete projectIdFor fs name session.owner) := by
  apply delete_takes (.refl session s)
  · exact fun _ _ confined => confined.loops
  · intro child below
    have mine : Mine session s fs child := fun p eq node listed outside =>
      apart p eq child node listed outside below
    exact deleteSubvolume_confined mine
  · exact fun _ _ _ found => deleteSubvolume_confined (found.mine within)

theorem get_then_confined {α : Type} {rest : Subvolume → Op α}
    (kept : ∀ sv view node, Found projectIdFor s fs name session.owner sv view node →
      Mine session s fs name → Preserves (Confined session s) (rest sv)) :
    Confines session s (get projectIdFor fs name session.owner >>= rest) := by
  refine .quiet get_found (.refl session s) ?_
  rintro sv ⟨view, node, found⟩
  exact kept sv view node found (found.mine within) s (.refl session s)

theorem attach_confined : Confines session s (attach projectIdFor fs name session.owner fresh) := by
  refine get_then_confined within fun sv _ _ _ _ => .checked fun _ => ?_
  split
  · exact .pure
  · refine .bind (commandIf_preserves fun _ confined _ => ?_) fun _ => get_preserves
    exact .loops confined

theorem detach_confined : Confines session s (detach projectIdFor fs name session.owner) := by
  refine get_then_confined within fun sv _ _ _ _ => ?_
  refine .bind (J := Confined session s) ?_ fun _ => get_preserves
  cases sv.blockDevice with
  | none => exact .pure
  | some device => exact command_preserves fun _ confined => confined.loops

theorem resize_confined {volsizeBytes : Nat}
    (alone : ∀ node, s.node? fs name = some node → node.readMeta.subvolumeType = .filesystem →
      Alone session s fs (projectIdFor fs name)) :
    Confines session s (resize projectIdFor fs name volsizeBytes session.owner) := by
  refine .checked (.refl session s) fun _ _ => ?_
  refine get_then_confined within fun sv view node found mine => ?_
  have stable := Confined.stable (projectIdFor fs name) mine
  refine .bind (stable.resizeTo fun type limit => .setQuota ?_) fun effective => ?_
  · rw [found.described] at type
    refine alone node ?_ type
    rw [Host.node?, found.looked.pool]
    exact found.there
  · refine .bind fsMountPoint_preserves fun _ => ?_
    exact .bind stable.setXattr fun _ => get_preserves

end

section
variable (mine : Mine session s fs name)
include mine

theorem updateCompression_confined {compression : String} :
    Preserves (Confined session s) (updateCompression fs name compression) := by
  unfold updateCompression
  rcases compressionFileOption compression with ⟨value, clear⟩
  refine .bind (command_preserves (.modifyNode mine)) fun _ => ?_
  split
  · exact .bind (tried_preserves (.modifyNode mine)) fun _ => .pure
  · exact commandAs_preserves (.modifyNode mine)

theorem updateComments_confined {comments : String} :
    Preserves (Confined session s) (updateComments fs name comments) := by
  unfold updateComments
  split
  · exact .bind (tried_preserves (.modifyNode mine)) fun _ => .pure
  · exact commandAs_preserves (.modifyNode mine)

theorem updateErasureCode_confined {changedReplicas : Bool} {previous : String} {code : SubvolumeErasureCode} :
    Preserves (Confined session s) (updateErasureCode fs name changedReplicas previous code) := by
  refine .bind (.attempt (.external (.modifyNode mine))) fun result => ?_
  cases result with
  | ok _ => exact .pure
  | error e =>
    dsimp only
    split
    · refine .bind (.mapError (.external (.modifyNode mine))) fun _ => ?_
      exact check_preserves
    · exact .bind .pure fun _ => check_preserves

end

theorem update_confined {req : UpdateSubvolumeRequest} (within : Covers session req.filesystem) :
    Confines session s (update projectIdFor req session.owner) := by
  refine get_then_confined within fun sv _ _ _ mine => ?_
  refine .checked fun _ => ?_
  refine .bind (elim_preserves fun _ => updateCompression_confined mine) fun _ => ?_
  refine .bind (elim_preserves fun _ => updateComments_confined mine) fun _ => ?_
  refine .bind (.forM fun _ _ => command_preserves (.modifyNode mine)) fun _ => ?_
  refine .bind (elim_preserves fun _ => command_preserves (.modifyNode mine)) fun _ => ?_
  refine .bind (elim_preserves fun _ => updateErasureCode_confined mine) fun _ => ?_
  exact get_preserves

theorem properties_confined (within : Covers session fs) (properties : List (String × String)) (keys : List String) :
    Confines session s (setProperties projectIdFor fs name properties session.owner) ∧
      Confines session s (removeProperties projectIdFor fs name keys session.owner) := by
  constructor <;>
  · refine get_then_confined within fun _ _ _ _ mine => ?_
    refine .bind (.forM fun property _ => ?_) fun _ => get_preserves
    exact .checked fun _ => commandAs_preserves (.modifyNode mine)

theorem createSnapshot_confined (free : Free session s fs (snapName subvolume name)) :
    Confines session s (createSnapshot projectIdFor fs subvolume name session.owner fresh) := by
  have start := Confined.refl session s
  refine .checked start fun _ _ => ?_
  exact createSnapshotLocked_takes start (snapshotSubvolume_confined free s start)

variable {snapshot : String}

theorem findSnapshot_found {missing : SubvolumeError} (restricted : session.owner = some owner) :
    Stays (· = s) (findSnapshot projectIdFor fs subvolume snapshot session.owner false missing)
      (fun node _ => s.node? fs (snapName subvolume snapshot) = some node ∧ ownedBy session.owner node.owner = true)
      s := by
  refine .quiet (snapshotParent_parts preserves_closed s rfl) rfl fun parent _ => ?_
  refine .quiet (fsMountPoint_preserves s rfl) rfl fun _ _ => ?_
  refine .observed rfl ?_
  refine .checked rfl fun node hit => ?_
  have hit := okOr_ok hit
  refine .quiet (R := fun _ _ => ownedBy session.owner node.owner = true) (.ofExcept rfl fun _ granted => ?_)
    rfl fun _ owned => .pure rfl ⟨hit, owned⟩
  rw [restricted] at granted ⊢
  cases parent with
  | some parent =>
    obtain ⟨_, _, granted⟩ := bind_ok granted
    obtain ⟨_, owned, _⟩ := bind_ok granted
    exact require_ok owned
  | none =>
    obtain ⟨required, eq, owned⟩ := bind_ok granted
    cases okOr_ok eq
    exact require_ok owned

theorem mine_of_owned {node : Node} (eq : s.node? fs path = some node) (owned : ownedBy session.owner node.owner = true)
    (within : Covers session fs) : Mine session s fs path := by
  intro p there other listed outside
  rw [Host.node?, there] at eq
  cases eq.symm.trans listed
  exact outside ⟨owned, within⟩

theorem deleteSnapshot_confined (restricted : session.owner = some owner) (within : Covers session fs) :
    Confines session s (deleteSnapshot projectIdFor fs subvolume name session.owner false) := by
  have start := Confined.refl session s
  refine .checked start fun _ _ => ?_
  refine .quiet (findSnapshot_found restricted) start ?_
  rintro node ⟨eq, owned⟩
  exact Preserves.mapError (deleteSubvolume_confined (mine_of_owned eq owned within)) s start

variable {newName : String} {filter : Option String}

theorem cloneSnapshot_confined {admin : Bool} (free : s.occupied fs newName = false → Free session s fs newName) :
    Confines session s (cloneSnapshot projectIdFor fs subvolume snapshot newName filter admin fresh) := by
  have start := Confined.refl session s
  refine .checked start fun _ _ => ?_
  refine .checked start fun _ _ => ?_
  refine .quiet (findSnapshot_parts preserves_closed _ _ _ s rfl) start fun node _ => ?_
  refine Stays.quiet (fsMountPoint_preserves s rfl) start fun mountPoint _ => ?_
  refine occupied_confined (fun _ => ?_) fun absent mine => ?_
  · refine Preserves.bind get_preserves (fun _ => .bind (J := Confined session s) ?_ fun _ =>
      Preserves.pure) s start
    exact .observed fun _ => check_preserves
  · have stable := Confined.stable 0 mine
    refine Preserves.bind (stable.materialize (snapshotSubvolume_confined (free absent))) (fun _ => ?_) s start
    exact Preserves.bind (commandAs_preserves (.modifyNode mine)) fun _ => get_preserves

theorem cloneSubvolume_confined (free : s.occupied fs newName = false → Free session s fs newName) :
    Confines session s (cloneSubvolume projectIdFor fs name newName filter fresh) := by
  have start := Confined.refl session s
  refine .checked start fun _ _ => ?_
  refine .checked start fun _ _ => ?_
  refine .quiet (get_preserves s rfl) start fun parent _ => ?_
  refine Stays.quiet (fsMountPoint_preserves s rfl) start fun mountPoint _ => ?_
  refine Stays.quiet (Preserves.observe _ s rfl) start fun _ _ => ?_
  refine .checked start fun node _ => ?_
  refine occupied_confined (fun _ => ?_) fun absent mine => ?_
  · refine Preserves.bind (J := Confined session s) ?_ (fun _ => get_preserves) s start
    exact Preserves.observed fun _ => check_preserves
  · have stable := Confined.stable 0 mine
    refine Preserves.bind (tried_preserves fun _ confined => confined) (fun _ => ?_) s start
    refine Preserves.bind (snapshotSubvolume_confined (free absent)) fun _ => ?_
    refine .bind stable.writeMetaXattrs fun _ => ?_
    refine .bind (commandAs_preserves (.modifyNode mine)) fun _ => ?_
    exact .bind stable.attachClone fun _ => get_preserves

end

def Request.Contained (projectIdFor : String → String → Nat) (session : Session) (s : Host) : Request → Prop
  | .create req =>
    if s.occupied req.filesystem req.name then
      ∀ node ∈ s.node? req.filesystem req.name, Foreign session req.filesystem node → node.readMeta.subvolumeType = .block
    else Free session s req.filesystem req.name ∧ (req.subvolumeType = .filesystem →
      Alone session s req.filesystem (projectIdFor req.filesystem req.name))
  | .delete fs name => On s fs fun p => ∀ path node, p.nodes.lookup path = some node → Foreign session fs node →
      ¬ Below name path
  | .resize fs name _ => ∀ node ∈ s.node? fs name, node.readMeta.subvolumeType = .filesystem →
      Alone session s fs (projectIdFor fs name)
  | .clone fs _ newName => s.occupied fs newName = false → Free session s fs newName
  | .createSnapshot fs subvolume name => Free session s fs (snapName subvolume name)
  | .cloneSnapshot fs _ _ newName => s.occupied fs newName = false → Free session s fs newName
  | _ => True

instance (projectIdFor : String → String → Nat) (session : Session) (s : Host) :
    DecidablePred (Request.Contained projectIdFor session s) := fun request => by
  cases request <;> dsimp only [Request.Contained] <;> infer_instance

section
variable {projectIdFor : String → String → Nat} {rollbackWithDependents : String → String → String → Api Response}
variable {session : Session} {s : Host} {fresh : Fresh}

theorem storage_pure {α β : Type} {J : Host → Prop} {p : Op α} {f : α → β} (first : Stays J p (fun _ _ => True) s) :
    Stays J (storage p >>= fun a => pure (f a)) (fun _ _ => True) s :=
  Stays.bind (Stays.mapError first) fun _ t inv _ => Preserves.pure t inv

theorem scoped_confined {fs : String} {rest : Unit → Api Response}
    (granted : Covers session fs → Confines session s (rest ())) :
    Confines session s (grant (filesystemScope session fs) >>= rest) :=
  Stays.quiet (R := fun _ _ => Covers session fs)
    (.ofExcept rfl fun _ within => require_ok within) (.refl session s) fun _ within => granted within

theorem route_confined (restricted : session.owner = some owner) (operator : session.role = .operator)
    {request : Request} (contained : request.Contained projectIdFor session s) :
    Confines session s (route projectIdFor rollbackWithDependents session fresh request) := by
  have start := Confined.refl session s
  have admin : decide (session.role = .admin) = false := by rw [operator]; rfl
  cases request with
  | listAll => exact storage_pure (listAll_preserves s start)
  | listDependents => exact storage_pure (findAllSubvolumeDependents_preserves s start)
  | list fs => exact scoped_confined fun _ => storage_pure (list_preserves s start)
  | get fs name => exact scoped_confined fun _ => storage_pure (get_preserves s start)
  | children fs name =>
    refine storage_pure (Preserves.bind fsMountPoint_preserves (fun _ => ?_) s start)
    exact findChildSubvolumes_preserves
  | findByProperty requested key value =>
    refine Stays.checked start fun fs _ => ?_
    exact storage_pure (Preserves.bind listAll_preserves (fun _ => .pure) s start)
  | listSnapshots fs => exact scoped_confined fun _ => storage_pure (listSnapshots_preserves _ _ s start)
  | create req =>
    refine scoped_confined fun _ => storage_pure (create_confined (fun node there => ?_) fun absent => ?_)
    · rw [Request.Contained] at contained
      split at contained
      · exact contained node there
      next absent =>
        intro outside
        have mine : Mine session s req.filesystem req.name := mine_of_absent (Bool.eq_false_iff.mpr absent)
        obtain ⟨p, eq, listed⟩ := Option.bind_eq_some_iff.mp there
        exact absurd outside (mine p eq node listed)
    · rw [Request.Contained, absent] at contained
      exact contained
  | delete fs name =>
    refine scoped_confined fun within => ?_
    refine .quiet (.mapError (checkSubvolumeInUse_preserves fs name s rfl)) start fun conflict _ => ?_
    refine .checked start fun _ _ => ?_
    exact storage_pure (delete_confined within contained)
  | attach fs name => exact scoped_confined fun within => storage_pure (attach_confined within)
  | detach fs name => exact scoped_confined fun within => storage_pure (detach_confined within)
  | resize fs name volsizeBytes => exact scoped_confined fun within => storage_pure (resize_confined within contained)
  | update req => exact scoped_confined fun within => storage_pure (update_confined within)
  | clone fs name newName => exact scoped_confined fun _ => storage_pure (cloneSubvolume_confined contained)
  | setProperties fs name properties =>
    exact scoped_confined fun within => storage_pure (properties_confined within properties []).1
  | removeProperties fs name keys => exact scoped_confined fun within => storage_pure (properties_confined within [] keys).2
  | createSnapshot fs subvolume name => exact scoped_confined fun _ => storage_pure (createSnapshot_confined contained)
  | deleteSnapshot fs subvolume name =>
    refine scoped_confined fun within => ?_
    rw [admin]
    exact storage_pure (deleteSnapshot_confined restricted within)
  | cloneSnapshot fs subvolume snapshot newName => exact scoped_confined fun _ => storage_pure (cloneSnapshot_confined contained)
  | rollback fs subvolume snapshot =>
    -- only for sessions without restriction
    refine .quiet (R := fun _ _ => False) (.ofExcept rfl fun _ granted => ?_) start fun _ impossible =>
      impossible.elim
    obtain ⟨_, _, granted⟩ := bind_ok granted
    obtain ⟨_, admin, _⟩ := bind_ok granted
    rw [operator] at admin
    cases admin

end

structure Call where
  request : Request
  fresh : Fresh
  faults : List (Option String) := []

def Served (projectIdFor : String → String → Nat) (rollbackWithDependents : String → String → String → Api Response)
    (session : Session) (s : Host) (call : Call) (t : Host) : Prop :=
  t = (run (serve projectIdFor rollbackWithDependents session call.fresh call.request) ⟨s, call.faults⟩).2.state

def operatorToken (owner : String) : ApiToken where
  id := owner
  name := owner
  token := ""
  role := .operator
  createdAt := 0

def ownedNode (owner : String) : Node where
  xattrs := Keyed.ofPairs [("user.nasty.owner", owner)]

def tank (nodes : List (String × Node)) : Pool where
  uuid := "u"
  mountPoint := some "/fs/tank"
  nodes := Keyed.ofPairs nodes

def onePool (nodes : List (String × Node)) : Host where
  pools := Keyed.ofPairs [("tank", tank nodes)]

def anyFresh : Fresh := { subvolid := 1, inode := "1", otimeUnix := 0, loopDevice := "/dev/loop0", uuid := "f" }

end NastyEngine.Volumes
