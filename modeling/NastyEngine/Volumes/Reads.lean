import NastyEngine.Volumes.Requests

/-!
What `list` and `get` return is said in terms of the host they looked at: the pool, and the quotas and
loop devices as far as they could be read.
-/

namespace NastyEngine.Volumes
open Lib Rust Fallible

section
variable {J : Host → Prop} {α : Type}

theorem check_preserves {r : Except SubvolumeError α} : Preserves J (check r) := .ofExcept r

variable {effect : Host → Host}

theorem command_preserves (stable : ∀ s, J s → J (effect s)) : Preserves J (command effect) :=
  .mapError (.external stable)

theorem commandAs_preserves {what : String} (stable : ∀ s, J s → J (effect s)) :
    Preserves J (commandAs what effect) := .mapError (.external stable)

theorem tried_preserves (stable : ∀ s, J s → J (effect s)) : Preserves J (tried effect) :=
  .succeeds (.external stable)

theorem commandIf_preserves {possible : Host → Bool} {refusal : String}
    (stable : ∀ s, J s → possible s = true → J (effect s)) : Preserves J (commandIf possible refusal effect) := by
  intro s inv
  refine .bind (R := fun can t => t = s ∧ can = possible s) (.observe inv ⟨rfl, rfl⟩) ?_
  rintro can t inv ⟨rfl, rfl⟩
  refine .bind (R := fun _ u => u = t ∧ possible t = true) (.ofExcept inv fun _ can => ⟨rfl, require_ok can⟩) ?_
  rintro _ u inv ⟨rfl, can⟩
  exact .mapError (.external inv (stable u inv can) trivial)

theorem tried_id_quiet {s : Host} : Stays (· = s) (tried id) (fun _ _ => True) s :=
  tried_preserves (fun _ eq => eq) s rfl

end

section
variable {Allowed : (Host → Host) → Prop} {K : ∀ {ε α : Type}, Fallible ε (Faulty Host) α → Prop} {filter : Option String}
  {fs name subvolume : String} (closed : Closed Allowed @K)
include closed

theorem tried_id_parts : K (tried id) := closed.succeeds (closed.external closed.idle)

theorem findPool_parts : K (findPool fs) :=
  closed.bind (tried_id_parts closed) fun _ => closed.checked fun _ =>
    closed.observed fun _ => closed.ofExcept _

theorem fsMountPoint_parts : K (fsMountPoint fs) :=
  closed.bind (findPool_parts closed) fun _ => closed.ofExcept _

theorem look_parts (fs : String) : K (look fs) :=
  closed.bind (findPool_parts closed) fun _ => closed.checked fun _ =>
    closed.bind (closed.mapError (closed.external closed.idle)) fun _ => closed.bind (tried_id_parts closed) fun _ =>
    closed.bind (tried_id_parts closed) fun _ => closed.observed fun _ => closed.pure _

variable {projectIdFor : String → String → Nat}

theorem list_parts : K (list projectIdFor fs filter) :=
  closed.bind (look_parts closed fs) fun _ => closed.pure _

theorem get_parts : K (get projectIdFor fs name filter) :=
  closed.bind (list_parts closed) fun _ => closed.checked fun _ =>
    closed.checked fun _ => closed.pure _

theorem snapshotParent_parts {adminOverride : Bool} :
    K (snapshotParent projectIdFor fs subvolume filter adminOverride) :=
  closed.bind (closed.attempt (get_parts closed)) fun _ =>
    closed.checked fun _ => closed.checked fun _ => closed.pure _

theorem findSnapshot_parts {snapshot : String} (filter : Option String) (adminOverride : Bool)
    (missing : SubvolumeError) : K (findSnapshot projectIdFor fs subvolume snapshot filter adminOverride missing) :=
  closed.bind (snapshotParent_parts closed) fun _ =>
    closed.bind (fsMountPoint_parts closed) fun _ => closed.observed fun _ =>
    closed.checked fun _ => closed.checked fun _ => closed.pure _

end

section
variable {J : Host → Prop} {α : Type} {filter : Option String} {fs name : String}

theorem fsMountPoint_preserves : Preserves J (fsMountPoint fs) := fsMountPoint_parts preserves_closed

theorem findChildSubvolumes_preserves : Preserves J (findChildSubvolumes fs name) :=
  .bind (tried_id_parts preserves_closed) fun _ => .observed fun _ => .pure

variable {projectIdFor : String → String → Nat}

theorem list_preserves : Preserves J (list projectIdFor fs filter) :=
  list_parts preserves_closed

theorem get_preserves : Preserves J (get projectIdFor fs name filter) :=
  get_parts preserves_closed

theorem listAll_preserves {fs : Option String} : Preserves J (listAll projectIdFor fs filter) :=
  .bind (tried_id_parts preserves_closed) fun _ => .checked fun _ => .observed fun _ =>
    .bind (.mapM fun _ _ => list_preserves) fun _ => .pure

theorem ownedNames_preserves (fs : String) : Preserves J (ownedNames projectIdFor fs filter) := by
  cases filter with
  | none => exact .pure
  | some owner => exact .bind list_preserves fun _ => .pure

theorem listSnapshots_preserves (fs : String) (filter : Option String) :
    Preserves J (listSnapshots projectIdFor fs filter) :=
  .bind fsMountPoint_preserves fun _ =>
    .bind (ownedNames_preserves fs) fun _ =>
    .bind (tried_preserves fun _ inv => inv) fun _ =>
    .observed fun _ => .pure

theorem loadAll_preserves {items : Services → List (Stored α)} : Preserves J (loadAll items) := .observe _

theorem loadAllStrict_preserves {items : Services → List (Stored α)} : Preserves J (loadAllStrict items) :=
  .observed fun _ =>
    .bind (.attempt (.external fun _ inv => inv)) fun _ => .pure

theorem orElse_preserves {first second : Op (Option String)} (one : Preserves J first) (two : Preserves J second) :
    Preserves J (orElse first second) := by
  refine .bind one fun found => ?_
  cases found with
  | none => exact two
  | some reason => exact .pure

theorem vmsInUse_preserves (sv : Subvolume) : Preserves J (vmsInUse sv) := by
  unfold vmsInUse
  split
  · exact .bind loadAll_preserves fun _ => .pure
  · exact .pure

theorem conflicts_preserves (sv : Subvolume) : Preserves J (conflicts sv) := by
  refine orElse_preserves (vmsInUse_preserves sv) ?_
  refine orElse_preserves (.bind loadAllStrict_preserves fun _ => .pure) ?_
  refine orElse_preserves (.bind loadAllStrict_preserves fun _ => .pure) ?_
  refine orElse_preserves (.bind loadAll_preserves fun _ => .pure) ?_
  exact .bind loadAll_preserves fun _ => .pure

theorem checkSubvolumeInUse_preserves (fs name : String) : Preserves J (checkSubvolumeInUse projectIdFor fs name) := by
  refine .bind (.attempt get_preserves) fun found => ?_
  cases found with
  | ok sv => exact conflicts_preserves sv
  | error e => exact .pure

theorem firstConflict_preserves (fs : String) (subvols : List Subvolume) :
    Preserves J (firstConflict projectIdFor fs subvols) := by
  induction subvols with
  | nil => exact .pure
  | cons sv rest ih =>
    refine .bind (checkSubvolumeInUse_preserves fs sv.name) fun found => ?_
    cases found with
    | some reason => exact .pure
    | none => exact ih

theorem checkFilesystemInUse_preserves (fs : String) : Preserves J (checkFilesystemInUse projectIdFor fs) := by
  refine .bind (.attempt listAll_preserves) fun listed => ?_
  generalize List.filter _ _ = subvols
  by_cases empty : subvols = []
  · rw [if_pos empty]
    exact .pure
  · rw [if_neg empty]
    exact orElse_preserves (firstConflict_preserves fs _) (.observe _)

theorem bucketApps_preserves (index : Index) (apps : AppsConfig) : Preserves J (bucketApps index apps) := by
  unfold bucketApps
  split
  · exact .pure
  · split
    · refine .bind (tried_preserves fun _ inv => inv) fun listed => ?_
      split <;> exact .pure
    · exact .pure

theorem findAllSubvolumeDependents_preserves : Preserves J (findAllSubvolumeDependents projectIdFor) :=
  .bind (.attempt listAll_preserves) fun _ =>
    .observed fun _ =>
    .bind (bucketApps_preserves _ _) fun _ =>
    .bind loadAll_preserves fun _ => .bind loadAll_preserves fun _ =>
    .bind loadAll_preserves fun _ => .bind loadAllStrict_preserves fun _ =>
    .bind loadAllStrict_preserves fun _ => .pure

theorem deleteChildren_preserves {children : List String}
    (each : ∀ child ∈ children, Preserves J (deleteSubvolume fs child)) : Preserves J (deleteChildren fs children) := by
  refine .bind (.mapM fun child mem => ?_) fun _ => .pure
  refine .bind (.attempt (each child mem)) fun result => ?_
  cases result <;> exact .pure

theorem releaseDevice_preserves {sv : Subvolume} (stable : ∀ device s, J s → J (Host.detachLoop device s)) :
    Preserves J (releaseDevice sv) := by
  have detached : ∀ device, Preserves J (detachForDelete device) := by
    intro device
    refine .bind (.attempt (.external (stable device))) fun result => ?_
    cases result with
    | ok _ => exact .pure
    | error e => exact check_preserves
  unfold releaseDevice
  split
  · cases sv.blockDevice with
    | none => exact .pure
    | some device => exact detached device
  · exact .pure

end

structure Looked (host : Host) (fs : String) (view : View) : Prop where
  filesystem : view.filesystem = fs
  pool : host.pools.lookup fs = some view.pool
  mounted : view.pool.mountPoint = some view.mountPoint
  quotas : view.quotas = view.pool.quotas ∨ view.quotas = ∅
  loops : view.loops = host.loops ∨ view.loops = ∅

theorem findPool_found (host : Host) (fs : String) :
    Stays (· = host) (findPool fs) (fun pool _ => host.pools.lookup fs = some pool) host := by
  refine .quiet tried_id_quiet rfl fun _ _ => ?_
  refine .checked rfl fun _ _ => ?_
  refine .observed rfl ?_
  exact .ofExcept rfl fun pool eq => okOr_ok eq

theorem read_or_empty {K V : Type} [DecidableEq K] {read : Bool} {m : Keyed K V} :
    (if read then m else ∅) = m ∨ (if read then m else ∅) = ∅ := by
  cases read
  · exact .inr rfl
  · exact .inl rfl

theorem look_found (host : Host) (fs : String) : Stays (· = host) (look fs) (fun view _ => Looked host fs view) host := by
  refine .quiet (findPool_found host fs) rfl fun pool hit => ?_
  refine .checked rfl fun mountPoint mounted => ?_
  have mounted := okOr_ok mounted
  refine .quiet (command_preserves (fun _ eq => eq) _ rfl) rfl fun _ _ => ?_
  refine .quiet tried_id_quiet rfl fun quotas _ => ?_
  refine .quiet tried_id_quiet rfl fun loops _ => ?_
  refine .observed rfl ?_
  exact .pure rfl ⟨rfl, hit, mounted, read_or_empty, read_or_empty⟩

section
variable {projectIdFor : String → String → Nat} {filter : Option String}

theorem list_found (host : Host) (fs : String) (filter : Option String) : Stays (· = host) (list projectIdFor fs filter)
    (fun all _ => ∃ view, Looked host fs view ∧ all = view.subvolumes projectIdFor filter) host := by
  refine .quiet (look_found host fs) rfl fun view looked => ?_
  exact .pure rfl ⟨view, looked, rfl⟩

structure Found (projectIdFor : String → String → Nat) (host : Host) (fs name : String) (filter : Option String)
    (sv : Subvolume) (view : View) (node : Node) : Prop where
  looked : Looked host fs view
  there : view.pool.nodes.lookup name = some node
  shown : View.shown none name node = true
  owned : ownedBy filter node.owner = true
  described : sv = view.describe projectIdFor none name node

theorem mem_subvolumes {view : View} {sv : Subvolume}
    (mem : sv ∈ view.subvolumes projectIdFor filter) : ∃ node, view.pool.nodes.lookup sv.name = some node ∧
      View.shown filter sv.name node = true ∧ sv = view.describe projectIdFor filter sv.name node := by
  obtain ⟨⟨path, node⟩, entry, eq⟩ := List.mem_filterMap.mp mem
  dsimp only at eq
  split at eq
  next shown =>
    cases eq
    exact ⟨node, Keyed.mem_pairs.mp entry, shown, rfl⟩
  · cases eq

theorem find_subvolume {projectIdFor : String → String → Nat} {name : String} {v : View} :
    (∃ node, v.pool.nodes.lookup name = some node ∧ View.shown none name node = true ∧
      (v.subvolumes projectIdFor none).find? (·.name = name) = some (v.describe projectIdFor none name node)) ∨
    (∀ node, v.pool.nodes.lookup name = some node → View.shown none name node = false) ∧
      (v.subvolumes projectIdFor none).find? (·.name = name) = none := by
  cases eq : (v.subvolumes projectIdFor none).find? (·.name = name) with
  | some sv =>
    left
    have named := List.find?_some eq
    obtain ⟨node, there, shown, described⟩ := mem_subvolumes (List.mem_of_find?_eq_some eq)
    rw [of_decide_eq_true named] at there shown described
    exact ⟨node, there, shown, congrArg some described⟩
  | none =>
    refine .inr ⟨fun node there => ?_, rfl⟩
    rw [Bool.eq_false_iff]
    intro shown
    have mem : v.describe projectIdFor none name node ∈ v.subvolumes projectIdFor none :=
      List.mem_filterMap.mpr ⟨(name, node), Keyed.mem_pairs.mpr there, if_pos shown⟩
    exact List.find?_eq_none.mp eq _ mem (decide_eq_true rfl)

theorem below_of_child {pool : Option Pool} {answered : Bool} {name child : String}
    (mem : child ∈ if answered then pool.elim [] (childSubvolumes · name) else []) : Below name child := by
  cases answered with
  | false => cases mem
  | true =>
    cases pool with
    | none => cases mem
    | some pool =>
      change child ∈ childSubvolumes pool name at mem
      rw [childSubvolumes, List.mem_insertionSort] at mem
      obtain ⟨entry, _, listed⟩ := List.mem_filterMap.mp mem
      have kept := (Option.mem_filter_iff.mp (Option.mem_def.mpr listed)).2
      exact of_decide_eq_true kept

theorem findChildSubvolumes_below {J : Host → Prop} {t : Host} {fs name : String} (inv : J t) :
    Stays J (findChildSubvolumes fs name) (fun children _ => ∀ child ∈ children, Below name child) t := by
  refine Stays.bind (tried_preserves (fun _ inv => inv) t inv) fun answered t inv _ => ?_
  refine Stays.bind (Preserves.observe _ t inv) fun pool t inv _ => Stays.pure inv ?_
  exact fun child mem => below_of_child mem

theorem get_found {host : Host} {fs name : String} :
    Stays (· = host) (get projectIdFor fs name filter)
      (fun sv _ => ∃ view node, Found projectIdFor host fs name filter sv view node) host := by
  refine .quiet (list_found host fs none) rfl ?_
  rintro all ⟨view, looked, rfl⟩
  refine .checked rfl fun sv eq => ?_
  have eq := okOr_ok eq
  have named : sv.name = name := by
    have holds := List.find?_some eq
    exact of_decide_eq_true holds
  obtain ⟨node, there, shown, described⟩ := mem_subvolumes (List.mem_of_find?_eq_some eq)
  rw [named] at there shown described
  have owner : sv.owner = node.owner := by rw [described]; rfl
  refine .quiet (R := fun _ _ => ownedBy filter node.owner = true) (.ofExcept rfl fun _ owned => ?_) rfl ?_
  · rw [← owner]
    exact require_ok owned
  · intro _ owned
    exact .pure rfl ⟨view, node, looked, there, shown, owned, described⟩

end

end NastyEngine.Volumes
