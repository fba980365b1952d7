import Mathlib.Data.List.AList

/-!
# Maps as association lists

A `Keyed K V` has one value at most for each key. `modify` changes the value of a key that is there.
-/

namespace NastyEngine.Lib
open List

abbrev Keyed (K V : Type) := AList fun _ : K => V

namespace Keyed
variable {K V : Type} [DecidableEq K]

-- the instance of `AList` is made by rewriting and does not evaluate
instance [DecidableEq V] : DecidableEq (Keyed K V) := fun m n => decidable_of_iff (m.entries = n.entries) AList.ext_iff.symm

def pairs (m : Keyed K V) : List (K × V) := m.entries.map fun e => (e.1, e.2)

def ofPairs (l : List (K × V)) : Keyed K V := (l.map fun e => (⟨e.1, e.2⟩ : Sigma fun _ : K => V)).toAList

def modify (m : Keyed K V) (k : K) (f : V → V) : Keyed K V :=
  match m.lookup k with
  | some v => m.insert k (f v)
  | none => m

def insertAll (m : Keyed K V) (ks : List K) (v : V) : Keyed K V := ks.foldl (fun m k => m.insert k v) m

def modifyAll (m : Keyed K V) (ks : List K) (f : V → V) : Keyed K V := ks.foldl (fun m k => m.modify k f) m

variable {m : Keyed K V} {k k' : K} {v : V}

theorem mem_pairs : (k, v) ∈ m.pairs ↔ m.lookup k = some v := by
  rw [pairs, mem_map, ← Option.mem_def, AList.mem_lookup_iff]
  constructor
  · rintro ⟨⟨k', v'⟩, mem, eq⟩
    cases eq
    exact mem
  · intro mem
    exact ⟨⟨k, v⟩, mem, rfl⟩

theorem lookup_ofPairs (l : List (K × V)) : (ofPairs l).lookup k = (l.find? (·.1 = k)).map (·.2) := by
  rw [ofPairs, AList.lookup_to_alist]
  induction l with
  | nil => rfl
  | cons first rest ih =>
    rw [map_cons, find?_cons]
    by_cases same : first.1 = k
    · subst same
      rw [dlookup_cons_eq, decide_eq_true rfl]
      rfl
    · rw [dlookup_cons_ne _ _ fun back => same back.symm, decide_eq_false same]
      exact ih

instance decidableAll {P : K → V → Prop} [∀ k v, Decidable (P k v)] (m : Keyed K V) :
    Decidable (∀ k v, m.lookup k = some v → P k v) :=
  decidable_of_iff (∀ e ∈ m.pairs, P e.1 e.2)
    ⟨fun all k v there => all (k, v) (mem_pairs.mpr there), fun all e mem => all e.1 e.2 (mem_pairs.mp mem)⟩

theorem lookup_ofPairs_filter (keep : K × V → Bool) :
    (ofPairs (m.pairs.filter keep)).lookup k = (m.lookup k).filter fun v => keep (k, v) := by
  have entries : (m.pairs.filter keep).map (fun e => (⟨e.1, e.2⟩ : Sigma fun _ : K => V)) =
      m.entries.filter fun e => keep (e.1, e.2) := by
    rw [pairs, filter_map, map_map]
    exact map_id _
  rw [ofPairs, entries, AList.lookup_to_alist]
  ext v
  have unique := List.NodupKeys.sublist (filter_sublist (p := fun e => keep (e.1, e.2))) m.nodupKeys
  rw [← Option.mem_def, ← Option.mem_def, mem_dlookup_iff unique, mem_filter, Option.mem_filter_iff, AList.mem_lookup_iff]

theorem lookup_modify {f : V → V} : (m.modify k f).lookup k' = if k' = k then (m.lookup k).map f else m.lookup k' := by
  by_cases same : k' = k
  · subst same
    rw [if_pos rfl, modify]
    split
    next v eq =>
      rw [AList.lookup_insert, eq]
      rfl
    next absent =>
      rw [absent]
      rfl
  · rw [if_neg same, modify]
    split
    · exact AList.lookup_insert_ne same
    · rfl

theorem mem_modify {f : V → V} : k' ∈ m.modify k f ↔ k' ∈ m := by
  rw [← AList.lookup_isSome, ← AList.lookup_isSome, lookup_modify]
  split
  next eq =>
    rw [eq, Option.isSome_map]
  · rfl

theorem lookup_insertAll (ks : List K) : (m.insertAll ks v).lookup k = if k ∈ ks then some v else m.lookup k := by
  induction ks generalizing m with
  | nil => rw [if_neg not_mem_nil]; rfl
  | cons first rest ih =>
    change (insertAll (m.insert first v) rest v).lookup k = _
    rw [ih]
    by_cases later : k ∈ rest
    · rw [if_pos later, if_pos (mem_cons_of_mem _ later)]
    · rw [if_neg later]
      by_cases same : k = first
      · rw [same, AList.lookup_insert, if_pos mem_cons_self]
      · rw [AList.lookup_insert_ne same, if_neg fun mem => (mem_cons.mp mem).elim same later]

theorem lookup_modifyAll {f : V → V} {ks : List K} (once : (∀ v, f (f v) = f v) ∨ ks.Nodup) :
    (m.modifyAll ks f).lookup k = if k ∈ ks then (m.lookup k).map f else m.lookup k := by
  induction ks generalizing m with
  | nil => rw [if_neg not_mem_nil]; rfl
  | cons first rest ih =>
    change (modifyAll (m.modify first f) rest f).lookup k = _
    rw [ih (once.imp_right fun unique => (nodup_cons.mp unique).2), lookup_modify]
    by_cases same : k = first
    · subst same
      rw [if_pos rfl, if_pos mem_cons_self, Option.map_map]
      split
      next again =>
        refine congrArg (Option.map · _) (funext (once.resolve_right fun unique => ?_))
        exact (nodup_cons.mp unique).1 again
      · rfl
    · rw [if_neg same]
      exact if_congr (by rw [mem_cons, or_iff_right same]) rfl rfl

/-- Of several insertions at a key the last one counts. -/
theorem lookup_foldl_insert (l : List (K × V)) : (l.foldl (fun m e => m.insert e.1 e.2) m).lookup k =
    ((l.reverse.find? (·.1 = k)).map (·.2)).or (m.lookup k) := by
  induction l generalizing m with
  | nil => rfl
  | cons first rest ih =>
    rw [foldl_cons, ih, reverse_cons, find?_append, Option.map_or, Option.or_assoc, find?_singleton]
    by_cases same : first.1 = k
    · rw [same, AList.lookup_insert, if_pos (decide_eq_true rfl)]
      rfl
    · rw [AList.lookup_insert_ne (Ne.symm same), if_neg (by simpa using same)]
      rfl

theorem map_eq_iff {f : V → V} {ks : List K} : (∀ k, (if k ∈ ks then (m.lookup k).map f else m.lookup k) = m.lookup k) ↔
    ∀ k ∈ ks, ∀ v, m.lookup k = some v → f v = v := by
  refine ⟨fun same k mem v eq => ?_, fun fixed k => ?_⟩
  · have here := same k
    rw [if_pos mem, eq] at here
    exact Option.some.inj here
  · split
    next mem =>
      cases eq : m.lookup k with
      | none => rfl
      | some v => exact congrArg some (fixed k mem v eq)
    · rfl

theorem lookup_of_insert {w : V} (eq : (m.insert k v).lookup k' = some w) :
    k' = k ∧ w = v ∨ k' ≠ k ∧ m.lookup k' = some w := by
  by_cases same : k' = k
  · rw [same, AList.lookup_insert] at eq
    exact .inl ⟨same, (Option.some.inj eq).symm⟩
  · rw [AList.lookup_insert_ne same] at eq
    exact .inr ⟨same, eq⟩

theorem lookup_of_erase (eq : (m.erase k').lookup k = some v) : m.lookup k = some v := by
  by_cases same : k = k'
  · rw [same, AList.lookup_erase] at eq
    cases eq
  · rwa [AList.lookup_erase_ne same] at eq

end Keyed

end NastyEngine.Lib
