import Mathlib.Data.Finmap

/-!
# Maps collected from lists

`collect` is the map built by inserting pairs one after another; `grouped` is the map that a loop
of `entry(key).or_default()` updates builds. The last part compares finite maps entry by entry.
-/

namespace NastyEngine.Lib
open List

variable {K V A : Type} [DecidableEq K]

def collect (entries : List (K × V)) (key : K) : Option V := (entries.reverse.find? fun e => e.1 = key).map Prod.snd

variable {entries : List (K × V)} {key : K} {value : V}

theorem collect_mem (hit : collect entries key = some value) : (key, value) ∈ entries := by
  obtain ⟨⟨k, v⟩, hfind, rfl⟩ := Option.map_eq_some_iff.mp hit
  have eq : k = key := by simpa using find?_some hfind
  subst eq
  exact mem_reverse.mp (mem_of_find?_eq_some hfind)

theorem collect_eq_none : collect entries key = none ↔ key ∉ entries.map Prod.fst := by
  simp only [collect, Option.map_eq_none_iff, find?_eq_none, mem_reverse, decide_eq_true_eq, mem_map, not_exists, not_and]

theorem collect_of_mem (unique : (entries.map Prod.fst).Nodup) (mem : (key, value) ∈ entries) :
    collect entries key = some value := by
  cases hit : collect entries key with
  | none => exact absurd (mem_map_of_mem mem) (collect_eq_none.mp hit)
  | some other =>
    have eq := inj_on_of_nodup_map unique (collect_mem hit) mem rfl
    exact congrArg some (Prod.mk.inj eq).2

theorem collect_eq_some (unique : (entries.map Prod.fst).Nodup) :
    collect entries key = some value ↔ (key, value) ∈ entries :=
  ⟨collect_mem, collect_of_mem unique⟩

theorem collect_map {W : Type} (g : V → W) (entries : List (K × V)) (key : K) :
    collect (entries.map fun e => (e.1, g e.2)) key = (collect entries key).map g := by
  unfold collect
  rw [← map_reverse, find?_map, Option.map_map, Option.map_map]
  rfl

theorem collect_filter (keep : K → Bool) (entries : List (K × V)) (key : K) :
    collect (entries.filter fun e => keep e.1) key =
      if keep key then collect entries key else none := by
  unfold collect
  rw [← filter_reverse, find?_filter]
  by_cases kept : keep key
  · simp only [kept, if_true]
    congr 2
    funext e
    by_cases same : e.1 = key
    · simp [same, kept]
    · simp [same]
  · simp only [kept, Bool.false_eq_true, if_false, Option.map_eq_none_iff, find?_eq_none]
    rintro e - hit
    simp only [decide_eq_true_eq] at hit
    exact kept (hit.2 ▸ hit.1)

/-- `for x in xs { update(map.entry(key(x)).or_insert(init), x) }`. -/
def grouped (key : A → K) (init : V) (update : V → A → V) (xs : List A) : K → Option V :=
  xs.foldl (fun m x => Function.update m (key x) (some (update ((m (key x)).getD init) x))) fun _ => none

theorem grouped_getD (key : A → K) (init : V) (update : V → A → V) (xs : List A) (k : K) :
    (grouped key init update xs k).getD init = (xs.filter fun x => key x = k).foldl update init := by
  have folded : ∀ m : K → Option V, ((xs.foldl (fun m x =>
        Function.update m (key x) (some (update ((m (key x)).getD init) x))) m) k).getD init =
        (xs.filter fun x => key x = k).foldl update ((m k).getD init) := by
    induction xs with
    | nil => intro m; rfl
    | cons x rest ih =>
      intro m
      rw [foldl_cons, ih]
      by_cases same : key x = k
      · subst same
        simp
      · rw [filter_cons_of_neg (by simpa using same), Function.update_of_ne (Ne.symm same)]
  exact folded _

theorem filter_flatMap_other {B : Type} (f : B → List A) (p : A → Bool) {bs : List B}
    (other : ∀ b ∈ bs, ∀ a ∈ f b, p a = false) : (bs.flatMap f).filter p = [] := by
  rw [filter_eq_nil_iff]
  intro a mem
  obtain ⟨b, hb, ha⟩ := mem_flatMap.mp mem
  simp [other b hb a ha]

theorem filter_flatMap_block {B : Type} {key : A → K} {name : B → K} {f : B → List A}
    (named : ∀ b, ∀ a ∈ f b, key a = name b) {bs : List B} (unique : (bs.map name).Nodup)
    {b : B} (mem : b ∈ bs) : ((bs.flatMap f).filter fun a => key a = name b) = f b := by
  induction bs with
  | nil => cases mem
  | cons c rest ih =>
    rw [map_cons, nodup_cons] at unique
    rw [flatMap_cons, filter_append]
    rcases mem_cons.mp mem with rfl | inRest
    · have own : (f b).filter (fun a => key a = name b) = f b :=
        filter_eq_self.mpr fun a ha => by simp [named b a ha]
      rw [own, filter_flatMap_other, append_nil]
      intro c hc a ha
      have different : name c ≠ name b := fun e => unique.1 (e ▸ mem_map_of_mem hc)
      simp [named c a ha, different]
    · have different : name c ≠ name b := fun e => unique.1 (e ▸ mem_map_of_mem inRest)
      have nothing : (f c).filter (fun a => key a = name b) = [] :=
        filter_eq_nil_iff.mpr fun a ha => by simp [named c a ha, different]
      rw [nothing, nil_append]
      exact ih unique.2 inRest

def insertSome (key : K) (value : Option V) (m : Finmap fun _ : K => V) : Finmap fun _ : K => V :=
  match value with
  | some v => m.insert key v
  | none => m

theorem lookup_insertSome (key k : K) (value : Option V) (m : Finmap fun _ : K => V) :
    (insertSome key value m).lookup k = if k = key then value.or (m.lookup k) else m.lookup k := by
  cases value with
  | none => simp [insertSome]
  | some v =>
    by_cases same : k = key
    · subst same
      simp [insertSome]
    · simp [insertSome, same]

theorem finmap_eq_iff_entries {a b : Finmap fun _ : K => V} :
    a = b ↔ a.keys.card = b.keys.card ∧ ∀ k ∈ a.keys, a.lookup k = b.lookup k := by
  refine ⟨fun eq => by subst eq; exact ⟨rfl, fun _ _ => rfl⟩, fun ⟨sizes, entries⟩ => ?_⟩
  have subset : a.keys ⊆ b.keys := by
    intro k hk
    rw [Finmap.mem_keys, ← Finmap.lookup_isSome] at hk ⊢
    rwa [← entries k (Finmap.mem_keys.mpr (Finmap.lookup_isSome.mp hk))]
  have keys : a.keys = b.keys := Finset.eq_of_subset_of_card_le subset (Nat.le_of_eq sizes.symm)
  refine Finmap.ext_lookup fun k => ?_
  by_cases member : k ∈ a.keys
  · exact entries k member
  · have absent : k ∉ b.keys := keys ▸ member
    rw [Finmap.lookup_eq_none.mpr member, Finmap.lookup_eq_none.mpr absent]

end NastyEngine.Lib
