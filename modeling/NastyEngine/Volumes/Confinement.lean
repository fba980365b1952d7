import NastyEngine.Volumes.Nodes

/-!
A session that is restricted to an owner, and perhaps to one filesystem, is to leave everything of
others alone: their subvolumes and snapshots, the limits on these, and what is in them.
-/

namespace NastyEngine.Volumes
open Lib Rust Auth Fallible

namespace Pool

/-- `inner` is in the subvolume at `path` and in no subvolume below that. -/
def Holds (pool : Pool) (path inner : String) : Prop :=
  Below path inner ∧ ∀ mid ∈ pool.nodes.keys, Below path mid → ¬ Below mid inner

instance (pool : Pool) (path inner : String) : Decidable (pool.Holds path inner) :=
  inferInstanceAs (Decidable (_ ∧ _))

/-- From one pool to the other, the subvolumes and snapshots that are foreign are the same, with the
limits on them and the directories in them, and there is nothing new in them. -/
structure Confined (foreign : Node → Prop) (p q : Pool) : Prop where
  nodes : ∀ path node, p.nodes.lookup path = some node → foreign node → q.nodes.lookup path = some node
  limits : ∀ path node, p.nodes.lookup path = some node → foreign node →
    q.quotas.lookup node.project = p.quotas.lookup node.project
  dirs : ∀ path node dir options, p.nodes.lookup path = some node → foreign node → p.Holds path dir →
    p.dirs.lookup dir = some options → q.dirs.lookup dir = some options
  noNodes : ∀ path node inner, p.nodes.lookup path = some node → foreign node → p.Holds path inner →
    inner ∈ q.nodes → inner ∈ p.nodes
  noDirs : ∀ path node inner, p.nodes.lookup path = some node → foreign node → p.Holds path inner →
    inner ∈ q.dirs → inner ∈ p.dirs

variable {foreign : Node → Prop} {p q r : Pool}

variable {path : String}

theorem mem_nodes {pool : Pool} {node : Node} (eq : pool.nodes.lookup path = some node) : path ∈ pool.nodes :=
  AList.lookup_isSome.mp (by rw [eq]; rfl)

theorem Confined.refl (foreign : Node → Prop) (p : Pool) : p.Confined foreign p :=
  ⟨fun _ _ eq _ => eq, fun _ _ _ _ => rfl, fun _ _ _ _ _ _ _ eq => eq, fun _ _ _ _ _ _ mem => mem,
    fun _ _ _ _ _ _ mem => mem⟩

variable {inner : String}

theorem Holds.between {mid : String} (held : p.Holds path inner) (above : Below path mid)
    (below : Below mid inner) : p.Holds path mid :=
  ⟨above, fun other mem upper lower => held.2 other mem upper (below_trans lower below)⟩

theorem Confined.holds (confined : p.Confined foreign q) {node : Node}
    (eq : p.nodes.lookup path = some node) (other : foreign node) (held : p.Holds path inner) :
    q.Holds path inner := by
  refine ⟨held.1, fun mid mem above below => ?_⟩
  have old := confined.noNodes path node mid eq other (held.between above below) mem
  exact held.2 mid old above below

theorem Confined.trans (first : p.Confined foreign q) (second : q.Confined foreign r) : p.Confined foreign r where
  nodes path node eq other := second.nodes path node (first.nodes path node eq other) other
  limits path node eq other :=
    (second.limits path node (first.nodes path node eq other) other).trans (first.limits path node eq other)
  dirs path node dir options eq other held listed :=
    second.dirs path node dir options (first.nodes path node eq other) other (first.holds eq other held)
      (first.dirs path node dir options eq other held listed)
  noNodes path node inner eq other held mem :=
    first.noNodes path node inner eq other held
      (second.noNodes path node inner (first.nodes path node eq other) other (first.holds eq other held) mem)
  noDirs path node inner eq other held mem :=
    first.noDirs path node inner eq other held
      (second.noDirs path node inner (first.nodes path node eq other) other (first.holds eq other held) mem)

section
variable (foreign : Node → Prop) (p : Pool)

def Mine (path : String) : Prop :=
  ∀ node, p.nodes.lookup path = some node → ¬ foreign node

def Free (inner : String) : Prop :=
  ∀ path node, p.nodes.lookup path = some node → foreign node → ¬ p.Holds path inner

def Alone (project : Nat) : Prop :=
  ∀ path node, p.nodes.lookup path = some node → foreign node → node.project ≠ project

end

section
variable [DecidablePred foreign]

instance (inner : String) : Decidable (p.Free foreign inner) :=
  inferInstanceAs (Decidable (∀ path node, p.nodes.lookup path = some node → foreign node → ¬ p.Holds path inner))

instance (project : Nat) : Decidable (p.Alone foreign project) :=
  inferInstanceAs (Decidable (∀ path node, p.nodes.lookup path = some node → foreign node → node.project ≠ project))

end

namespace Confined
variable {path : String}

section
variable (confined : p.Confined foreign q)
include confined

theorem modify (mine : p.Mine foreign path) (f : Node → Node) :
    p.Confined foreign { q with nodes := q.nodes.modify path f } := { confined with
  nodes other node eq outside := by
    have ne : other ≠ path := by
      rintro rfl
      exact mine node eq outside
    rw [Keyed.lookup_modify, if_neg ne]
    exact confined.nodes other node eq outside
  noNodes other node inner eq outside held mem :=
    confined.noNodes other node inner eq outside held (Keyed.mem_modify.mp mem) }

theorem insert (absent : path ∉ q.nodes) (free : p.Free foreign path) (node : Node) :
    p.Confined foreign { q with nodes := q.nodes.insert path node } := { confined with
  nodes other old eq outside := by
    have kept := confined.nodes other old eq outside
    have ne : other ≠ path := by
      rintro rfl
      exact absent (mem_nodes kept)
    exact (AList.lookup_insert_ne ne).trans kept
  noNodes other old inner eq outside held mem := by
    rcases AList.mem_insert _ |>.mp mem with rfl | mem
    · exact absurd held (free other old eq outside)
    · exact confined.noNodes other old inner eq outside held mem }

theorem addDir (free : p.Free foreign path) (options : List (String × String)) :
    p.Confined foreign { q with dirs := q.dirs.insert path options } := { confined with
  dirs other node dir old eq outside held listed := by
    have ne : dir ≠ path := by
      rintro rfl
      exact free other node eq outside held
    exact (AList.lookup_insert_ne ne).trans (confined.dirs other node dir old eq outside held listed)
  noDirs other node inner eq outside held mem := by
    rcases AList.mem_insert _ |>.mp mem with rfl | mem
    · exact absurd held (free other node eq outside)
    · exact confined.noDirs other node inner eq outside held mem }

theorem setQuota {project : Nat} (alone : p.Alone foreign project) (quota : Quota) :
    p.Confined foreign { q with quotas := q.quotas.insert project quota } := { confined with
  limits other node eq outside :=
    (AList.lookup_insert_ne (alone other node eq outside)).trans (confined.limits other node eq outside) }

theorem erase (mine : p.Mine foreign path) (hm : path ∈ q.nodes)
    (childless : ∀ other ∈ q.nodes, ¬ Below path other) : p.Confined foreign { q with
      nodes := q.nodes.erase path
      dirs := Keyed.ofPairs (q.dirs.pairs.filter fun (dir, _) => ¬ Below path dir) }  where
  nodes other node listed outside := by
    have ne : other ≠ path := by
      rintro rfl
      exact mine node listed outside
    exact (AList.lookup_erase_ne ne).trans (confined.nodes other node listed outside)
  limits := confined.limits
  dirs other node dir options listed outside held old := by
    rw [Keyed.lookup_ofPairs_filter, confined.dirs other node dir options listed outside held old]
    have kept : ¬ Below path dir := by
      intro below
      rcases below_total held.1 below with rfl | above | under
      · exact mine node listed outside
      · -- the erased subvolume would be between the two
        have old := confined.noNodes other node path listed outside (held.between above below) hm
        exact held.2 path old above below
      · exact childless other (mem_nodes (confined.nodes other node listed outside)) under
    simp [kept]
  noNodes other node inner listed outside held mem :=
    confined.noNodes other node inner listed outside held (AList.mem_erase.mp mem).2
  noDirs other node inner listed outside held mem := by
    refine confined.noDirs other node inner listed outside held ?_
    rw [← AList.lookup_isSome, Keyed.lookup_ofPairs_filter] at mem
    rw [← AList.lookup_isSome]
    exact Option.isSome_of_isSome_filter _ _ mem

end

end Confined

theorem holds_of_missing {occupied : String → Bool} (root : occupied "" = true)
    (nodes : ∀ path ∈ p.nodes, occupied path = true) {dir : String} {fuel : Nat}
    (missing : dir ∈ missingDirs occupied (parentPath inner) fuel) (held : p.Holds path dir) : p.Holds path inner := by
  induction fuel generalizing inner with
  | zero => cases missing
  | succ fuel ih =>
    rw [missingDirs] at missing
    split at missing
    · cases missing
    next absent =>
      have higher : p.Holds path (parentPath inner) := by
        rcases List.mem_cons.mp missing with rfl | deeper
        · exact held
        · exact ih deeper
      have named : parentPath inner ≠ "" := fun eq => absent (eq ▸ root)
      refine ⟨below_trans higher.1 (below_parentPath named), fun mid mem above below => ?_⟩
      rcases below_parent below with eq | below
      · exact absent (eq ▸ nodes mid mem)
      · exact higher.2 mid mem above below

end Pool

def InScope (session : Session) (fs : String) (node : Node) : Prop :=
  ownedBy session.owner node.owner = true ∧ session.filesystem.all (· = fs) = true

instance (session : Session) (fs : String) (node : Node) : Decidable (InScope session fs node) :=
  inferInstanceAs (Decidable (_ ∧ _))

abbrev Foreign (session : Session) (fs : String) (node : Node) : Prop := ¬ InScope session fs node

def Confined (session : Session) (s t : Host) : Prop :=
  ∀ fs p, s.pools.lookup fs = some p → ∃ q, t.pools.lookup fs = some q ∧ p.Confined (Foreign session fs) q

def On (s : Host) (fs : String) (P : Pool → Prop) : Prop := ∀ p, s.pools.lookup fs = some p → P p

instance (s : Host) (fs : String) (P : Pool → Prop) [DecidablePred P] : Decidable (On s fs P) :=
  decidable_of_iff (∀ p ∈ s.pools.lookup fs, P p) Iff.rfl

abbrev Mine (session : Session) (s : Host) (fs path : String) : Prop := On s fs (Pool.Mine (Foreign session fs) · path)

abbrev Free (session : Session) (s : Host) (fs path : String) : Prop := On s fs (Pool.Free (Foreign session fs) · path)

abbrev Alone (session : Session) (s : Host) (fs : String) (project : Nat) : Prop :=
  On s fs (Pool.Alone (Foreign session fs) · project)

namespace Confined
variable {session : Session} {s t u : Host} {fs path : String}

theorem refl (session : Session) (s : Host) : Confined session s s := fun _ p eq => ⟨p, eq, .refl _ p⟩

theorem trans (first : Confined session s t) (second : Confined session t u) : Confined session s u := by
  intro fs p there
  obtain ⟨q, eq, confined⟩ := first fs p there
  obtain ⟨r, last, further⟩ := second fs q eq
  exact ⟨r, last, confined.trans further⟩

theorem modifyPool {f : Pool → Pool} (confined : Confined session s t)
    (step : ∀ p q, s.pools.lookup fs = some p → t.pools.lookup fs = some q →
      p.Confined (Foreign session fs) q → p.Confined (Foreign session fs) (f q)) :
    Confined session s (t.modifyPool fs f) := by
  intro other p there
  obtain ⟨q, eq, kept⟩ := confined other p there
  have changed : (t.modifyPool fs f).pools.lookup other =
      if other = fs then (t.pools.lookup fs).map f else t.pools.lookup other := Keyed.lookup_modify
  by_cases same : other = fs
  · subst same
    refine ⟨f q, ?_, step p q there eq kept⟩
    rw [changed, if_pos rfl, eq]
    rfl
  · refine ⟨q, ?_, kept⟩
    rw [changed, if_neg same, eq]

theorem modifyNode (mine : Mine session s fs path) {f : Node → Node} (t : Host) (confined : Confined session s t) :
    Confined session s (Host.modifyNode fs path f t) :=
  confined.modifyPool fun p _ eq _ kept => kept.modify (mine p eq) f

theorem insertNode (free : Free session s fs path) (node : Node) (confined : Confined session s t)
    (absent : t.occupied fs path = false) : Confined session s (Host.insertNode fs path node t) := by
  refine confined.modifyPool fun p q there eq kept => kept.insert (fun mem => ?_) (free p there) node
  have occupied : t.occupied fs path = true := by
    rw [Host.occupied, eq, Option.any_some, Pool.occupied]
    simp [mem]
  rw [absent] at occupied
  cases occupied

theorem addDir (free : Free session s fs path) (t : Host) (confined : Confined session s t) :
    Confined session s (Host.addDir fs path t) :=
  confined.modifyPool fun p _ eq _ kept => kept.addDir (free p eq) _

theorem setQuota {project : Nat} (alone : Alone session s fs project) {hardBytes : Nat} (t : Host)
    (confined : Confined session s t) : Confined session s (Host.setQuota fs project hardBytes t) :=
  confined.modifyPool fun p _ eq _ kept => kept.setQuota (alone p eq) _

theorem eraseNode (mine : Mine session s fs path) (confined : Confined session s t)
    (there : (t.node? fs path).isSome = true) (childless : t.childless fs path = true) :
    Confined session s (Host.eraseNode fs path t) := by
  refine confined.modifyPool fun p q known eq kept => kept.erase (mine p known) ?_ ?_
  · rw [Host.node?, eq] at there
    exact AList.lookup_isSome.mp there
  · rw [Host.childless, eq, Option.all_some, List.all_eq_true] at childless
    intro other mem
    exact of_decide_eq_true (childless other mem)

theorem node? {node : Node} (confined : Confined session s t) (there : s.node? fs path = some node)
    (other : Foreign session fs node) : t.node? fs path = some node := by
  obtain ⟨p, known, listed⟩ := Option.bind_eq_some_iff.mp there
  obtain ⟨q, eq, kept⟩ := confined fs p known
  rw [Host.node?, eq]
  exact kept.nodes path node listed other

theorem loops (confined : Confined session s t) {loops : Keyed String String} :
    Confined session s { t with loops := loops } := confined

end Confined

end NastyEngine.Volumes
