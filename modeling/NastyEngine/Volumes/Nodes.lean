import NastyEngine.Volumes.Reads

/-!
Each effect on a host, said in terms of the subvolume at a path and the quota of a project, and
the commands that are possible only in some states.
-/

namespace NastyEngine.Volumes
open Lib Rust Fallible

variable {path : String}

namespace Host
variable {host : Host} {fs : String}

def quota? (host : Host) (fs : String) (project : Nat) : Option Quota :=
  (host.pools.lookup fs).bind (·.quotas.lookup project)

def contents (host : Host) (fs path : String) : Option (List (String × String)) := (host.node? fs path).map (·.files)

variable (f : Pool → Pool) (other : String)

theorem lookup_modifyPool : (host.modifyPool fs f).pools.lookup other =
    if other = fs then (host.pools.lookup fs).map f else host.pools.lookup other := Keyed.lookup_modify

theorem node?_modifyPool (other path : String) : (host.modifyPool fs f).node? other path =
    if other = fs then (host.pools.lookup fs).bind fun pool => (f pool).nodes.lookup path else host.node? other path := by
  rw [node?, lookup_modifyPool]
  split
  · rw [Option.bind_map]
    rfl
  · rfl

theorem quota?_modifyPool (project : Nat) : (host.modifyPool fs f).quota? other project =
      if other = fs then (host.pools.lookup fs).bind fun pool => (f pool).quotas.lookup project
      else host.quota? other project := by
  rw [quota?, lookup_modifyPool]
  split
  · rw [Option.bind_map]
    rfl
  · rfl

variable {inner other : String}

theorem node?_eraseNode : (eraseNode fs path host).node? other inner =
    if other = fs ∧ inner = path then none else host.node? other inner := by
  rw [eraseNode, node?_modifyPool]
  by_cases same : other = fs
  · subst same
    rw [if_pos rfl, node?]
    by_cases here : inner = path
    · subst here
      rw [if_pos ⟨rfl, rfl⟩]
      cases host.pools.lookup other with
      | none => rfl
      | some pool => exact AList.lookup_erase inner _
    · rw [if_neg fun both => here both.2]
      cases host.pools.lookup other with
      | none => rfl
      | some pool => exact AList.lookup_erase_ne here
  · rw [if_neg same, if_neg fun both => same both.1]

theorem node?_modifyNode {f : Node → Node} : (modifyNode fs path f host).node? other inner =
    if other = fs ∧ inner = path then (host.node? fs path).map f else host.node? other inner := by
  rw [modifyNode, node?_modifyPool]
  by_cases same : other = fs
  · subst same
    rw [if_pos rfl, node?, node?]
    cases host.pools.lookup other with
    | none => simp
    | some pool => simp only [Option.bind_some, Keyed.lookup_modify, true_and]
  · rw [if_neg same, if_neg fun both => same both.1]

theorem node?_insertNode {node : Node} (there : (host.pools.lookup fs).isSome) :
    (insertNode fs path node host).node? other inner =
      if other = fs ∧ inner = path then some node else host.node? other inner := by
  rw [insertNode, node?_modifyPool]
  obtain ⟨pool, eq⟩ := Option.isSome_iff_exists.mp there
  by_cases same : other = fs
  · subst same
    rw [if_pos rfl, node?, eq, Option.bind_some, Option.bind_some]
    by_cases here : inner = path
    · subst here
      rw [if_pos ⟨rfl, rfl⟩]
      exact AList.lookup_insert _
    · rw [if_neg fun both => here both.2]
      exact AList.lookup_insert_ne here
  · rw [if_neg same, if_neg fun both => same both.1]

@[simp] theorem node?_setQuota {project bytes : Nat} (other path : String) :
    (setQuota fs project bytes host).node? other path = host.node? other path := by
  rw [setQuota, node?_modifyPool]
  split
  next eq =>
    rw [eq, node?]
  · rfl

theorem isSome_of_node? {node : Node} (there : host.node? fs path = some node) : (host.pools.lookup fs).isSome := by
  rw [node?] at there
  cases eq : host.pools.lookup fs with
  | none =>
    rw [eq] at there
    cases there
  | some pool => rfl

theorem node?_of_free (free : host.occupied fs path = false) : host.node? fs path = none := by
  rw [node?]
  cases eq : host.pools.lookup fs with
  | none => rfl
  | some pool =>
    rw [occupied, eq, Option.any_some, Pool.occupied, Bool.or_eq_false_iff, Bool.or_eq_false_iff] at free
    exact AList.lookup_eq_none.mpr (of_decide_eq_false free.1.2)

end Host

section
variable {fs : String} {J : Host → Prop} {Q : Unit → Host → Prop} {t : Host}

variable {effect : Host → Host}

theorem commandIf_stays {possible : Host → Bool} {refusal : String} (inv : J t)
    (after : possible t = true → J (effect t) ∧ Q () (effect t)) : Stays J (commandIf possible refusal effect) Q t := by
  refine .observed inv ?_
  refine .checked inv fun _ can => ?_
  have can := require_ok can
  exact .mapError (.external inv (after can).1 (after can).2)

theorem snapshotSubvolume_stays {source dest : String} {readOnly : Bool} {fresh : Fresh} (inv : J t)
    (made : ∀ node, t.node? fs source = some node → t.occupied fs dest = false →
      J (Host.insertNode fs dest (snapshotNode source node readOnly fresh) t) ∧
        Q () (Host.insertNode fs dest (snapshotNode source node readOnly fresh) t)) :
    Stays J (snapshotSubvolume fs source dest readOnly fresh) Q t := by
  refine .observed inv ?_
  refine Stays.checked inv fun node eq => ?_
  have eq := okOr_ok eq
  refine commandIf_stays inv fun possible => made node eq ?_
  simpa using (Bool.and_eq_true_iff.mp possible).1

def Doomed (name path : String) : Prop := path = name ∨ Below name path

instance (name path : String) : Decidable (Doomed name path) := inferInstanceAs (Decidable (_ ∨ _))

theorem deleteSubvolume_stays (inv : J t) (stable : ∀ t, J t → J (Host.eraseNode fs path t)) :
    Stays J (deleteSubvolume fs path) (fun _ u => ∀ inner, Doomed path inner → u.node? fs inner = none) t := by
  refine Stays.quiet (Preserves.observe _ t rfl) inv fun _ _ => ?_
  refine .checked inv fun _ _ => ?_
  refine .observed inv ?_
  refine .checked inv fun _ childless => ?_
  have childless := require_ok childless
  refine .external inv (stable t inv) fun inner doomed => ?_
  rw [Host.node?_eraseNode]
  split
  · rfl
  next ne =>
    have below : Below path inner := doomed.resolve_left fun eq => ne ⟨rfl, eq⟩
    rw [Host.node?]
    cases hit : t.pools.lookup fs with
    | none => rfl
    | some pool =>
      rw [Host.childless, hit, Option.all_some, List.all_eq_true] at childless
      refine AList.lookup_eq_none.mpr fun mem => ?_
      exact of_decide_eq_true (childless inner mem) below

end

namespace Host
variable {host : Host} {fs : String}

def limit (host : Host) (fs : String) (project : Nat) : Nat := ((host.quota? fs project).map (·.hardBytes)).getD 0

theorem limit_modifyPool {f : Pool → Pool} (keeps : ∀ pool, (f pool).quotas = pool.quotas) (other : String)
    (project : Nat) : (host.modifyPool fs f).limit other project = host.limit other project := by
  rw [limit, quota?_modifyPool]
  split
  next eq =>
    subst eq
    simp only [limit, quota?, keeps]
  · rfl

section
variable (path other : String) (node : Node) (f : Node → Node) (project : Nat)

@[simp] theorem limit_modifyNode : (modifyNode fs path f host).limit other project = host.limit other project := by
  rw [modifyNode, limit_modifyPool]
  exact fun _ => rfl

@[simp] theorem limit_insertNode : (insertNode fs path node host).limit other project = host.limit other project := by
  rw [insertNode, limit_modifyPool]
  exact fun _ => rfl

@[simp] theorem limit_eraseNode : (eraseNode fs path host).limit other project = host.limit other project := by
  rw [eraseNode, limit_modifyPool]
  exact fun _ => rfl

@[simp] theorem limit_addDir : (addDir fs path host).limit other project = host.limit other project := by
  rw [addDir, limit_modifyPool]
  exact fun _ => rfl

end

end Host

end NastyEngine.Volumes
