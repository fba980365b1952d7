import NastyEngine.Volumes.Restricted

/-! Before a subvolume is deleted or a pool is destroyed, the services are asked whether they use it. -/

namespace NastyEngine.Volumes
open Lib Rust Fallible Auth List

/-- The directories that a path goes through: an empty component and `.` stay, `..` goes up. -/
def pathSteps (path : String) : List (List Char) :=
  (path.toList.splitOn '/').foldl (fun steps component =>
    if component = [] ∨ component = ['.'] then steps
    else if component = ['.', '.'] then steps.dropLast
    else steps ++ [component]) []

/-- The path is `dir` or below it, however it is spelled. -/
def Within (dir path : String) : Prop := startsWith path "/" = true ∧ pathSteps dir <+: pathSteps path

instance (dir path : String) : Decidable (Within dir path) := inferInstanceAs (Decidable (_ ∧ _))

inductive Ref where
  | disk (readable : Bool) (path : String) (source : Option String)
  | backstore (path : String) (backing : Option BlockVolumeId)
  | share (readable : Bool) (path : String)
  | appsStorage (readable : Bool) (path : String)
  | appdata (path : String)
  deriving DecidableEq

def Services.refs (services : Services) : List Ref :=
  List.flatten [ services.vms.flatMap fun vm => vm.item.disks.map fun disk => Ref.disk vm.readable disk.path disk.source,
    services.iscsi.flatMap fun target => target.item.luns.map fun lun => Ref.backstore lun.backstorePath lun.backingVolume,
    services.nvmeof.flatMap fun subsys => subsys.item.namespaces.map fun ns => Ref.backstore ns.devicePath ns.backingVolume,
    services.nfs.map fun share => Ref.share share.readable share.item.path,
    services.smb.map fun share => Ref.share share.readable share.item.path,
    if services.apps.enabled then services.apps.storagePath.toList.map (Ref.appsStorage services.apps.readable) else [],
    if services.apps.enabled then services.apps.appdataPath.toList.map Ref.appdata else []]

def Host.root (s : Host) (fs : String) : Option String :=
  (s.pools.lookup fs).map fun pool => pool.mountPoint.getD ("/fs/" ++ fs)

/-- The path is in the subvolume, or it is a loop device over a file in it. The pool itself is the empty path. -/
def Reaches (s : Host) (fs path target : String) : Prop :=
  ∃ root file, s.root fs = some root ∧ (file = target ∨ s.loops.lookup target = some file) ∧
    Within (subvolPath root path) file

namespace Ref

def paths : Ref → List String
  | disk _ path source => path :: source.toList
  | backstore path _ | share _ path | appsStorage _ path | appdata path => [path]

def backing : Ref → Option BlockVolumeId
  | backstore _ backing => backing
  | _ => none

def RefersTo (s : Host) (fs path : String) (node : Node) (ref : Ref) : Prop :=
  (∃ target ∈ ref.paths, Reaches s fs path target) ∨
    ∃ pool number, s.pools.lookup fs = some pool ∧ node.subvolid = some number ∧ ref.backing = some ⟨pool.uuid, number⟩

end Ref

def Ref.InPool (s : Host) (fs : String) (ref : Ref) : Prop :=
  (∃ target ∈ ref.paths, Reaches s fs "" target) ∨ ∃ path node, s.node? fs path = some node ∧ ref.RefersTo s fs path node

/-- Nothing that the services keep refers to a subvolume or to a pool that is gone. -/
def Clean (s t : Host) : Prop :=
  ∀ ref ∈ t.services.refs, ∀ fs,
    (∀ path node, s.node? fs path = some node → t.node? fs path = none → ¬ ref.RefersTo s fs path node) ∧
    (t.pools.lookup fs = none → ¬ ref.InPool s fs)

def Ref.Checked (sv : Subvolume) : Ref → Prop
  | .disk readable target _ => readable = true ∧ sv.blockDevice = some target
  | .backstore target backing => refersTo sv target backing = true
  | .share readable target => readable = true ∧ inSubvolume sv target = true
  | .appsStorage _ _ | .appdata _ => False

/-- What the check says if no listing fails as a whole. -/
def Services.conflict (services : Services) (sv : Subvolume) : Option String :=
  (if sv.blockDevice.isSome then vmConflict sv (readableItems services.vms) else none).or <|
  (iscsiConflict sv (allReadable services.iscsi)).or <|
  (nvmeofConflict sv (allReadable services.nvmeof)).or <|
  (nfsConflict sv (readableItems services.nfs)).or (smbConflict sv (readableItems services.smb))

variable {α β : Type} {message : α → String} {stored : List (Stored α)}

variable {record : Stored α}

theorem mem_readableItems (mem : record ∈ stored)
    (readable : record.readable = true) : record.item ∈ readableItems stored :=
  mem_map.mpr ⟨record, mem_filter.mpr ⟨mem, readable⟩, rfl⟩

theorem unfound {items : List α} {p : α → Bool} {item : α}
    (none : (items.find? p).map message = none) (mem : item ∈ items) : p item = false := by
  rw [Option.map_eq_none_iff] at none
  exact Bool.eq_false_iff.mpr (find?_eq_none.mp none item mem)

theorem allReadable_ok {items : List α} (ok : allReadable stored = .ok items) : items = stored.map (·.item) := by
  unfold allReadable at ok
  split at ok
  · exact (Except.ok.inj ok).symm
  · cases ok

theorem strictConflict_none {parts : α → List β} {uses : β → Bool}
    {unreadable : String} {part : β}
    (none : strictConflict (fun item => (parts item).any uses) message unreadable (allReadable stored) = none)
    (mem : record ∈ stored) (listed : part ∈ parts record.item) : ¬ uses part = true := by
  cases loaded : allReadable stored with
  | error e =>
    rw [loaded] at none
    cases none
  | ok items =>
    rw [loaded, allReadable_ok loaded] at none
    have unused := unfound none (mem_map.mpr ⟨record, mem, rfl⟩)
    exact any_eq_false.mp unused part listed

variable {sv : Subvolume} {services : Services}

theorem vmConflict_none {vm : Stored Vm} {disk : VmDisk}
    (none : (if sv.blockDevice.isSome then vmConflict sv (readableItems services.vms) else none) = none)
    (mem : vm ∈ services.vms) (readable : vm.readable = true) (listed : disk ∈ vm.item.disks) :
    sv.blockDevice ≠ some disk.path := by
  intro device
  rw [device, Option.isSome_some, if_pos rfl] at none
  have unused := unfound none (mem_readableItems mem readable)
  rw [any_eq_false] at unused
  have ne := unused disk listed
  rw [device] at ne
  exact ne (decide_eq_true rfl)

theorem conflict_none (none : services.conflict sv = none) : ∀ ref ∈ services.refs, ¬ ref.Checked sv := by
  unfold Services.conflict at none
  simp only [Option.or_eq_none_iff] at none
  obtain ⟨vms, iscsi, nvmeof, nfs, smb⟩ := none
  intro ref mem checked
  unfold Services.refs at mem
  simp only [flatten_cons, flatten_nil, append_nil, mem_append, mem_flatMap, mem_map] at mem
  rcases mem with ⟨vm, mem, disk, listed, rfl⟩ | ⟨target, mem, lun, listed, rfl⟩ | ⟨subsys, mem, ns, listed, rfl⟩ |
    ⟨share, mem, rfl⟩ | ⟨share, mem, rfl⟩ | apps | apps
  · exact vmConflict_none vms mem checked.1 listed checked.2
  · exact strictConflict_none iscsi mem listed checked
  · exact strictConflict_none nvmeof mem listed checked
  · exact Bool.eq_false_iff.mp (unfound nfs (mem_readableItems mem checked.1)) checked.2
  · exact Bool.eq_false_iff.mp (unfound smb (mem_readableItems mem checked.1)) checked.2
  all_goals
    split at apps
    · obtain ⟨path, _, rfl⟩ := mem_map.mp apps
      exact checked
    · cases apps

section
variable {s : Host} {fs name : String} {projectIdFor : String → String → Nat}

variable {first : Op (Option String)} {second : Op (Option String)} {a : Option String} {b : Option String}

theorem orElse_stays (one : Stays (· = s) first (fun c _ => c = none → a = none) s)
    (two : Stays (· = s) second (fun c _ => c = none → b = none) s) :
    Stays (· = s) (orElse first second) (fun c _ => c = none → a.or b = none) s := by
  refine .quiet one rfl fun c passed => ?_
  cases c with
  | some reason => exact .pure rfl fun impossible => by cases impossible
  | none => exact .mono two fun c _ _ passed' none => Option.or_eq_none_iff.mpr ⟨passed rfl, passed' none⟩

variable {items : Services → List (Stored α)}

theorem loadAllStrict_stays {uses : α → Bool} {unreadable : String} :
    Stays (· = s) (do return strictConflict uses message unreadable (← loadAllStrict items))
      (fun c _ => c = none → strictConflict uses message unreadable (allReadable (items s.services)) = none) s := by
  refine .quiet (R := fun loaded _ => (∃ e, loaded = .error e) ∨ loaded = allReadable (items s.services)) ?_ rfl ?_
  · refine Stays.observed rfl ?_
    refine Stays.quiet (Preserves.attempt (Preserves.external fun _ inv => inv) s rfl) rfl fun answer _ => ?_
    cases answer with
    | error e => exact .pure rfl (.inl ⟨e, rfl⟩)
    | ok _ => exact .pure rfl (.inr rfl)
  · rintro _ (⟨e, rfl⟩ | rfl)
    · exact .pure rfl fun impossible => by cases impossible
    · exact .pure rfl fun none => none

theorem loadAll_stays {conflict : List α → Option String} : Stays (· = s) (do return conflict (← loadAll items))
      (fun c _ => c = none → conflict (readableItems (items s.services)) = none) s := by
  refine .observed rfl ?_
  exact .pure rfl fun none => none

theorem conflicts_stays (s : Host) (sv : Subvolume) :
    Stays (· = s) (conflicts sv) (fun c _ => c = none → s.services.conflict sv = none) s := by
  refine orElse_stays ?_ (orElse_stays loadAllStrict_stays (orElse_stays loadAllStrict_stays
    (orElse_stays loadAll_stays loadAll_stays)))
  unfold vmsInUse
  split
  · exact loadAll_stays
  · exact .pure rfl fun none => none

theorem orElse_clear {n m : Nat} (one : Clear n first s a s)
    (two : Clear m second s b s) : ∃ k, Clear k (orElse first second) s (a.or b) s := by
  cases a with
  | some reason => exact ⟨n + 0, .bind one .pure⟩
  | none => exact ⟨n + m, .bind one two⟩

theorem loadAll_clear {items : Services → List (Stored α)} {conflict : List α → β} :
    Clear 0 (do return conflict (← loadAll items)) s (conflict (readableItems (items s.services))) s :=
  .bind (n := 0) (m := 0) .observe .pure

theorem loadAllStrict_clear {items : Services → List (Stored α)} {conflict : Except String (List α) → β} :
    Clear 1 (do return conflict (← loadAllStrict items)) s (conflict (allReadable (items s.services))) s :=
  .bind (n := 1) (m := 0) (.bind (n := 0) (m := 1) .observe (.bind (n := 1) (m := 0) (.attempt .external) .pure)) .pure

theorem conflicts_clear (s : Host) {sv : Subvolume} : ∃ n, Clear n (conflicts sv) s (s.services.conflict sv) s := by
  obtain ⟨_, shares⟩ := orElse_clear (s := s) loadAll_clear loadAll_clear
  obtain ⟨_, nvmeof⟩ := orElse_clear loadAllStrict_clear shares
  obtain ⟨_, iscsi⟩ := orElse_clear loadAllStrict_clear nvmeof
  refine orElse_clear (n := 0) ?_ iscsi
  unfold vmsInUse
  split
  · exact loadAll_clear
  · exact .pure

/-! The lookup before the check. -/

def Host.view (s : Host) (fs : String) : Option View := do
  let pool ← s.pools.lookup fs
  let mountPoint ← pool.mountPoint
  return { filesystem := fs, pool := pool, mountPoint := mountPoint, quotas := pool.quotas, loops := s.loops }

variable {view : View} {node : Node} {faults : List (Option String)} {w : Faulty Host} {t : Host}

theorem view_found (seen : s.view fs = some view) : s.pools.lookup fs = some view.pool ∧
    view.pool.mountPoint = some view.mountPoint ∧ view.filesystem = fs := by
  obtain ⟨pool, eq, seen⟩ := Option.bind_eq_some_iff.mp seen
  obtain ⟨mountPoint, mounted, seen⟩ := Option.bind_eq_some_iff.mp seen
  cases seen
  exact ⟨eq, mounted, rfl⟩

theorem tried_id_clear : Clear 1 (tried id) s true s := .succeeds .external

section
variable (seen : s.view fs = some view)
include seen

theorem look_clear : Clear 4 (look fs) s view s := by
  obtain ⟨pool, eq, seen⟩ := Option.bind_eq_some_iff.mp seen
  obtain ⟨mountPoint, mounted, seen⟩ := Option.bind_eq_some_iff.mp seen
  cases seen
  have pooled : Clear 1 (findPool fs) s pool s := by
    refine .bind (n := 1) (m := 0) tried_id_clear ?_
    refine .bind (n := 0) (m := 0) (.ofExcept rfl) (.bind (n := 0) (m := 0) .observe ?_)
    rw [eq]
    exact .ofExcept rfl
  refine .bind (n := 1) (m := 3) pooled ?_
  refine .bind (n := 0) (m := 3) (.ofExcept (by rw [mounted]; rfl)) ?_
  refine .bind (n := 1) (m := 2) (.mapError .external) ?_
  refine .bind (n := 1) (m := 1) tried_id_clear (.bind (n := 1) (m := 0) tried_id_clear ?_)
  exact .bind (n := 0) (m := 0) .observe .pure

theorem list_clear {filter : Option String} :
    Clear 4 (list projectIdFor fs filter) s (view.subvolumes projectIdFor filter) s :=
  .bind (n := 4) (m := 0) (look_clear seen) .pure

variable (there : view.pool.nodes.lookup name = some node) (shown : View.shown none name node = true)
include there shown

theorem get_clear : Clear 4 (get projectIdFor fs name none) s (view.describe projectIdFor none name node) s := by
  refine .bind (n := 4) (m := 0) (list_clear seen) ?_
  rcases find_subvolume with ⟨other, listed, _, found⟩ | ⟨unshown, _⟩
  · cases there.symm.trans listed
    refine .bind (n := 0) (m := 0) (.ofExcept (by rw [found]; rfl)) ?_
    exact .bind (n := 0) (m := 0) (.ofExcept rfl) .pure
  · cases shown.symm.trans (unshown node there)

theorem checkSubvolumeInUse_clear {projectIdFor : String → String → Nat} :
    ∃ n, Clear n (checkSubvolumeInUse projectIdFor fs name) s
      (s.services.conflict (view.describe projectIdFor none name node)) s := by
  obtain ⟨n, compared⟩ := conflicts_clear s
  exact ⟨4 + n, .bind (.attempt (get_clear seen there shown)) compared⟩

theorem checkSubvolumeInUse_passed (clear : ∀ fault ∈ faults.take 4, fault = none)
    (ran : run (checkSubvolumeInUse projectIdFor fs name) ⟨s, faults⟩ = (.ok none, w)) :
    s.services.conflict (view.describe projectIdFor none name node) = none := by
  rw [checkSubvolumeInUse, run_bind_ok (run_attempt_of (get_clear seen there shown faults clear))] at ran
  have ended := (conflicts_stays s (view.describe projectIdFor none name node) (faults.drop 4)).2
  exact ended none (congrArg Prod.fst ran) rfl

end

structure Spared (s : Host) (fs name : String) (t : Host) : Prop where
  services : t.services = s.services
  pools : ∀ other, t.pools.lookup other = none → s.pools.lookup other = none
  nodes : ∀ other path, ¬ (other = fs ∧ Doomed name path) → t.node? other path = s.node? other path

theorem Spared.erase {path : String} (spared : Spared s fs name t) (doomed : Doomed name path) :
    Spared s fs name (Host.eraseNode fs path t) where
  services := spared.services
  pools := by
    intro other gone
    rw [Host.eraseNode, Host.lookup_modifyPool] at gone
    split at gone
    next eq =>
      exact spared.pools other (eq ▸ Option.map_eq_none_iff.mp gone)
    · exact spared.pools other gone
  nodes := by
    intro other inner ne
    rw [Host.node?_eraseNode, if_neg]
    · exact spared.nodes other inner ne
    · rintro ⟨rfl, rfl⟩
      exact ne ⟨rfl, doomed⟩

theorem delete_stays {filter : Option String} : Stays (Spared s fs name) (delete projectIdFor fs name filter)
    (fun _ t => ∀ path, Doomed name path → t.node? fs path = none) s := by
  have start : Spared s fs name s := ⟨rfl, fun _ gone => gone, fun _ _ _ => rfl⟩
  apply delete_takes start
  · exact fun _ _ spared => { spared with }
  · intro child below t inv
    exact .mono (deleteSubvolume_stays inv fun t spared => spared.erase (.inr below)) fun _ _ _ _ => trivial
  · exact fun _ _ _ _ t inv => deleteSubvolume_stays inv fun t spared => spared.erase (.inl rfl)

/-- Every reference to the subvolume or to what is below it is one that the check of it finds, and the commands that
the check looks it up with succeed. -/
def DeleteCovered (projectIdFor : String → String → Nat) (s : Host) (fs name : String) (faults : List (Option String)) :
    Prop :=
  ∀ ref ∈ s.services.refs, ∀ path node, s.node? fs path = some node → Doomed name path → ref.RefersTo s fs path node →
    (∀ fault ∈ faults.take 4, fault = none) ∧ ∃ view named, s.view fs = some view ∧
      view.pool.nodes.lookup name = some named ∧ View.shown none name named = true ∧
      ref.Checked (view.describe projectIdFor none name named)

theorem not_inPool {ref : Ref} (missing : s.pools.lookup fs = none) : ¬ ref.InPool s fs := by
  rintro (⟨_, _, root, _, placed, _⟩ | ⟨path, node, eq, _⟩)
  · rw [Host.root, missing] at placed
    cases placed
  · rw [Host.node?, missing] at eq
    cases eq

theorem clean_of_deleted (spared : Spared s fs name t) (gone : ∀ path, Doomed name path → t.node? fs path = none) :
    Clean s t ↔ ∀ ref ∈ s.services.refs, ∀ path node, s.node? fs path = some node → Doomed name path →
      ¬ ref.RefersTo s fs path node := by
  unfold Clean
  rw [spared.services]
  constructor
  · intro clean ref mem path node eq doomed
    exact (clean ref mem fs).1 path node eq (gone path doomed)
  · intro unused ref mem other
    refine ⟨fun path node eq missing => ?_, fun lost => ?_⟩
    · by_cases inv : other = fs ∧ Doomed name path
      · obtain ⟨rfl, doomed⟩ := inv
        exact unused ref mem path node eq doomed
      · cases eq.symm.trans ((spared.nodes other path inv).symm.trans missing)
    · exact not_inPool (spared.pools other lost)

theorem deleted_clean_iff {rollbackWithDependents : String → String → String → Api Response} {session : Session}
    {fresh : Fresh} {response : Response}
    (ran : run (serve projectIdFor rollbackWithDependents session fresh (.delete fs name)) ⟨s, faults⟩ =
      (.ok response, w)) : Clean s w.state ↔ DeleteCovered projectIdFor s fs name faults := by
  obtain ⟨_, _, ran⟩ := ok_of_ofExcept_bind ran
  obtain ⟨_, _, ran⟩ := ok_of_ofExcept_bind ran
  obtain ⟨conflict, u, checked, ran⟩ := ok_of_bind ran
  have checked := ok_of_mapError checked
  obtain ⟨_, passed, ran⟩ := ok_of_ofExcept_bind ran
  obtain ⟨_, v, deleted, ran⟩ := ok_of_bind ran
  have deleted := ok_of_mapError deleted
  obtain ⟨_, rfl⟩ := Prod.mk.inj ran
  have eq : u.state = s := (stays_ok (checkSubvolumeInUse_preserves (J := (· = s)) fs name s rfl) checked).1
  cases conflict with
  | some reason => cases passed
  | none =>
    have deleted : run (delete projectIdFor fs name session.owner) ⟨s, u.faults⟩ = (.ok (), v) := eq ▸ deleted
    obtain ⟨spared, gone⟩ := stays_ok delete_stays deleted
    rw [clean_of_deleted spared gone]
    constructor
    · intro unused ref mem path node there doomed refers
      exact absurd refers (unused ref mem path node there doomed)
    · intro covered ref mem path node there doomed refers
      obtain ⟨clear, view, named, seen, listed, shown, found⟩ := covered ref mem path node there doomed refers
      exact conflict_none (checkSubvolumeInUse_passed seen listed shown clear checked) ref mem found

theorem listAll_clear (projectIdFor : String → String → Nat) : ∃ n, Clear n (listAll projectIdFor none none) s
    ((mountedPools s).map fun fs => (s.view fs).elim [] (·.subvolumes projectIdFor none)).flatten s := by
  have each : ∀ fs ∈ mountedPools s, Clear 4 (list projectIdFor fs none) s
      ((s.view fs).elim [] (·.subvolumes projectIdFor none)) s := by
    intro fs mem
    obtain ⟨⟨fs, pool⟩, listed, rfl⟩ := mem_map.mp mem
    obtain ⟨listed, mounted⟩ := mem_filter.mp listed
    obtain ⟨mountPoint, mounted⟩ := Option.isSome_iff_exists.mp mounted
    have seen : s.view fs = some ⟨fs, pool, mountPoint, pool.quotas, s.loops⟩ := by
      rw [Host.view, Keyed.mem_pairs.mp listed]
      show pool.mountPoint.bind _ = _
      rw [mounted]
      rfl
    rw [seen]
    exact list_clear seen
  refine ⟨1 + (4 * (mountedPools s).length), .bind tried_id_clear ?_⟩
  rw [← Nat.zero_add (4 * _)]
  refine .bind (.ofExcept rfl) ?_
  rw [← Nat.zero_add (4 * _)]
  refine .bind .observe ?_
  simp only [Option.all_none, filter_true]
  exact .bind (m := 0) (.mapM each) .pure

theorem firstConflict_clear (projectIdFor : String → String → Nat) (seen : s.view fs = some view) :
    ∀ subvols : List Subvolume,
    (∀ sv ∈ subvols, sv ∈ view.subvolumes projectIdFor none) → ∃ n conflict,
      Clear n (firstConflict projectIdFor fs subvols) s conflict s ∧
        (conflict = none → ∀ sv ∈ subvols, s.services.conflict sv = none)
  | [], _ => ⟨0, none, .pure, fun _ sv mem => by cases mem⟩
  | sv :: rest, listed => by
    obtain ⟨node, there, shown, eq⟩ := mem_subvolumes (listed sv mem_cons_self)
    obtain ⟨n, checked⟩ := checkSubvolumeInUse_clear seen there shown
    rw [← eq] at checked
    cases used : s.services.conflict sv with
    | some reason =>
      rw [used] at checked
      exact ⟨n + 0, _, .bind checked .pure, fun impossible => by cases impossible⟩
    | none =>
      rw [used] at checked
      obtain ⟨m, conflict, further, unused⟩ :=
        firstConflict_clear projectIdFor seen rest fun sv mem => listed sv (mem_cons_of_mem _ mem)
      refine ⟨n + m, conflict, .bind checked further, fun none other mem => ?_⟩
      rcases mem_cons.mp mem with rfl | mem
      · exact used
      · exact unused none other mem

def Services.appsOn (services : Services) (fs : String) : Bool :=
  services.apps.enabled && services.apps.loaded.any (startsWith · ("/fs/" ++ fs ++ "/"))

theorem listed_of_pool {sv : Subvolume} (seen : s.view fs = some view) :
    sv ∈ (((mountedPools s).map fun fs => (s.view fs).elim [] (·.subvolumes projectIdFor none)).flatten).filter
      (·.filesystem = fs) ↔ sv ∈ view.subvolumes projectIdFor none := by
  rw [mem_filter, mem_flatten, decide_eq_true_iff]
  obtain ⟨hit, mounted, named⟩ := view_found seen
  have filesystem : ∀ {v : View}, sv ∈ v.subvolumes projectIdFor none → sv.filesystem = v.filesystem := by
    intro v listed
    obtain ⟨node, _, _, eq⟩ := mem_subvolumes listed
    rw [eq]
    rfl
  constructor
  · rintro ⟨⟨_, mem, listed⟩, eq⟩
    obtain ⟨other, _, rfl⟩ := mem_map.mp mem
    cases otherSeen : s.view other with
    | none =>
      rw [otherSeen] at listed
      cases listed
    | some otherView =>
      rw [otherSeen] at listed
      have here : other = fs := (view_found otherSeen).2.2.symm.trans ((filesystem listed).symm.trans eq)
      subst here
      cases seen.symm.trans otherSeen
      exact listed
  · intro listed
    have among : fs ∈ mountedPools s := by
      refine mem_map.mpr ⟨(fs, view.pool), mem_filter.mpr ⟨Keyed.mem_pairs.mpr hit, ?_⟩, rfl⟩
      rw [mounted]
      rfl
    exact ⟨⟨_, mem_map.mpr ⟨fs, among, rfl⟩, by rw [seen]; exact listed⟩, (filesystem listed).trans named⟩

/-- If all commands answer, a check that passes has looked at every subvolume of a mounted pool; where there is none,
it has not looked at the apps either. -/
theorem checkFilesystemInUse_clear {projectIdFor : String → String → Nat} (seen : s.view fs = some view) : ∃ n conflict,
    Clear n (checkFilesystemInUse projectIdFor fs) s conflict s ∧ (conflict = none →
      ∀ sv ∈ view.subvolumes projectIdFor none, s.services.conflict sv = none ∧ s.services.appsOn fs = false) := by
  obtain ⟨n, listed⟩ := listAll_clear (s := s) projectIdFor
  generalize eq : ((mountedPools s).map fun fs => (s.view fs).elim []
    (·.subvolumes projectIdFor none)).flatten = all at listed
  have own : ∀ sv, sv ∈ all.filter (·.filesystem = fs) ↔ sv ∈ view.subvolumes projectIdFor none :=
    fun sv => eq ▸ listed_of_pool seen
  by_cases empty : all.filter (·.filesystem = fs) = []
  · refine ⟨n + 0, none, .bind (.attempt listed) (by rw [if_pos empty]; exact .pure), fun _ sv mem => ?_⟩
    have mem := (own sv).mpr mem
    rw [empty] at mem
    cases mem
  · obtain ⟨m, first, checked, unused⟩ := firstConflict_clear projectIdFor seen
      (all.filter (·.filesystem = fs)) fun sv mem => (own sv).mp mem
    have apps : Clear 0 (appsConflict fs) s _ s := .observe
    obtain ⟨k, ended⟩ := orElse_clear checked apps
    refine ⟨n + k, _, .bind (.attempt listed) (by rwa [if_neg empty]), fun none sv mem => ?_⟩
    obtain ⟨passed, apps⟩ := Option.or_eq_none_iff.mp none
    refine ⟨unused passed sv ((own sv).mpr mem), ?_⟩
    split at apps
    · cases apps
    next off =>
      exact Bool.eq_false_iff.mpr off

structure Ousted (s : Host) (fs : String) (t : Host) : Prop where
  services : t.services = s.services
  pools : ∀ other, other ≠ fs → t.pools.lookup other = s.pools.lookup other

theorem Ousted.unmount (ousted : Ousted s fs t) : Ousted s fs (Host.unmountPool fs t) := by
  refine ⟨ousted.services, fun other ne => ?_⟩
  rw [Host.unmountPool, Host.lookup_modifyPool, if_neg ne]
  exact ousted.pools other ne

theorem Ousted.erase (ousted : Ousted s fs t) : Ousted s fs (Host.erasePool fs t) :=
  ⟨ousted.services, fun other ne => (AList.lookup_erase_ne ne).trans (ousted.pools other ne)⟩

theorem unmountForDestroy_ousts {mountPoint : String} : Preserves (Ousted s fs) (unmountForDestroy fs mountPoint) := by
  refine .bind (.external fun _ ousted => ousted) fun _ => .bind ?_ fun _ =>
    .external fun _ ousted => ousted.unmount
  refine Preserves.bind (Preserves.external fun _ ousted => ousted) fun _ => ?_
  refine Preserves.observed fun devices => Preserves.forM fun device _ => ?_
  exact Preserves.mapError (Preserves.external fun _ ousted => ⟨ousted.services, ousted.pools⟩)

theorem destroyFilesystem_stays {confirmName : String} :
    Stays (Ousted s fs) (destroyFilesystem fs confirmName) (fun _ t => t.pools.lookup fs = none) s := by
  have start : Ousted s fs s := ⟨rfl, fun _ _ => rfl⟩
  refine Stays.bind (Preserves.ofExcept _ s start) fun _ t inv _ => ?_
  refine Stays.bind (Preserves.external (fun _ ousted => ousted) t inv) fun _ t inv _ => ?_
  refine Stays.bind (Preserves.observe _ t inv) fun _ t inv _ => ?_
  refine Stays.bind (Preserves.ofExcept _ t inv) fun pool t inv _ => ?_
  refine Stays.bind (Preserves.external (fun _ ousted => ousted) t inv) fun _ t inv _ => ?_
  have unmounted : Preserves (Ousted s fs) (pool.mountPoint.elim (pure ()) (unmountForDestroy fs)) := by
    cases pool.mountPoint with
    | none => exact Preserves.pure
    | some mountPoint => exact unmountForDestroy_ousts
  refine Stays.bind (unmounted t inv) fun _ t inv _ => ?_
  refine Stays.bind (Preserves.succeeds (Preserves.external fun _ ousted => ousted.unmount) t inv) fun _ t inv _ => ?_
  exact .external inv inv.erase (AList.lookup_erase fs _)

theorem clean_of_destroyed (ousted : Ousted s fs t) (gone : t.pools.lookup fs = none) :
    Clean s t ↔ ∀ ref ∈ s.services.refs, ¬ ref.InPool s fs := by
  unfold Clean
  rw [ousted.services]
  constructor
  · intro clean ref mem
    exact (clean ref mem fs).2 gone
  · intro unused ref mem other
    by_cases here : other = fs
    · subst here
      exact ⟨fun path node there _ refers => unused ref mem (.inr ⟨path, node, there, refers⟩), fun _ => unused ref mem⟩
    · have eq := ousted.pools other here
      refine ⟨fun path node there missing => ?_, fun lost => not_inPool (eq.symm.trans lost)⟩
      rw [Host.node?, eq] at missing
      cases there.symm.trans missing

/-- Every reference into the pool is one that a check of one of its subvolumes finds, or the place of the apps in a
pool that has subvolumes, and the commands succeed. -/
def DestroyCovered (projectIdFor : String → String → Nat) (s : Host) (fs : String) (faults : List (Option String)) : Prop :=
  ∀ ref ∈ s.services.refs, ref.InPool s fs →
    (∀ fault ∈ faults, fault = none) ∧ ∃ view sv, s.view fs = some view ∧ sv ∈ view.subvolumes projectIdFor none ∧
      (ref.Checked sv ∨ ∃ path, ref = .appsStorage true path ∧ startsWith path ("/fs/" ++ fs ++ "/") = true)

theorem appsOn_of_ref {path : String} (mem : Ref.appsStorage true path ∈ services.refs)
    (inv : startsWith path ("/fs/" ++ fs ++ "/") = true) : services.appsOn fs = true := by
  unfold Services.refs at mem
  simp only [flatten_cons, flatten_nil, append_nil, mem_append, mem_flatMap, mem_map,
    reduceCtorEq, and_false, exists_false, false_or] at mem
  rcases mem with mem | mem
  case inr =>
    split at mem
    · obtain ⟨_, _, eq⟩ := mem_map.mp mem
      cases eq
    · cases mem
  split at mem
  next enabled =>
    obtain ⟨stored, kept, eq⟩ := mem_map.mp mem
    obtain ⟨readable, rfl⟩ := Ref.appsStorage.inj eq
    rw [Option.mem_toList] at kept
    rw [Services.appsOn, AppsConfig.loaded, enabled, readable, if_pos rfl, kept, Option.any_some, inv]
    rfl
  · cases mem

theorem destroyed_clean_iff {confirmName : String}
    (ran : run (serveDestroy projectIdFor fs confirmName) ⟨s, faults⟩ = (.ok (), w)) :
    Clean s w.state ↔ DestroyCovered projectIdFor s fs faults := by
  obtain ⟨conflict, u, checked, ran⟩ := ok_of_bind ran
  have checked := ok_of_mapError checked
  obtain ⟨_, passed, ran⟩ := ok_of_ofExcept_bind ran
  have destroyed := ok_of_mapError ran
  have eq : u.state = s := (stays_ok (checkFilesystemInUse_preserves (J := (· = s)) fs s rfl) checked).1
  cases conflict with
  | some reason => cases passed
  | none =>
    have destroyed : run (destroyFilesystem fs confirmName) ⟨s, u.faults⟩ = (.ok (), w) := eq ▸ destroyed
    obtain ⟨ousted, gone⟩ := stays_ok destroyFilesystem_stays destroyed
    rw [clean_of_destroyed ousted gone]
    constructor
    · intro unused ref mem refers
      exact absurd refers (unused ref mem)
    · intro covered ref mem refers
      obtain ⟨clear, view, sv, seen, listed, found⟩ := covered ref mem refers
      obtain ⟨n, conflict, answered, unused⟩ := checkFilesystemInUse_clear seen
      have none := (answered faults fun fault mem => clear fault (mem_of_mem_take mem)).symm.trans checked
      obtain ⟨unchecked, off⟩ := unused (Except.ok.inj (Prod.mk.inj none).1) sv listed
      rcases found with found | ⟨path, rfl, inv⟩
      · exact conflict_none unchecked ref mem found
      · exact Bool.eq_false_iff.mp off (appsOn_of_ref mem inv)

end

def adminToken : ApiToken := { operatorToken "root" with role := .admin }

def appsOnTank : Host :=
  { onePool [("apps", {})] with services := { apps := { enabled := true, storagePath := some "/fs/tank/apps" } } }

/-- A share, a disk that is found by its source and the data of the apps, all in the other subvolume. -/
def sharedBeside : Host :=
  { onePool [("a", {}), ("b", {})] with
    services := { vms := [⟨{ name := "vm", disks := [⟨"/dev/loop7", some "/fs/tank/b/vol.img"⟩] }, true⟩]
                  nfs := [⟨⟨"1", "/fs/tank/b"⟩, true⟩]
                  apps := { enabled := true, appdataPath := some "/fs/tank/b/appdata" } } }

end NastyEngine.Volumes
