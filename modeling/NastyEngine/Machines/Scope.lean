import NastyEngine.Machines.Access

/-!
The check of a path against the scope of a session, as a statement about all paths below it.
-/

namespace NastyEngine.Machines
open Rust Auth List

/-- Of the candidates that contain the path, the one inside all others. -/
def Nearest (candidates : List (String × Volume)) (path : String) (nearest : String × Volume) : Prop :=
  nearest ∈ candidates ∧ pathStartsWith path nearest.1 = true ∧
    ∀ c ∈ candidates, pathStartsWith path c.1 = true → pathStartsWith nearest.1 c.1 = true

section
variable {session : Session} {requested : String} {candidates : List (String × Volume)}

abbrev depth (c : String × Volume) : Nat := (components c.1).length

theorem deepest_spec (candidates : List (String × Volume)) :
    match deepest candidates with
    | none => candidates = []
    | some best => best ∈ candidates ∧ ∀ c ∈ candidates, depth c ≤ depth best := by
  induction candidates using List.reverseRecOn with
  | nil => rfl
  | append_singleton earlier candidate ih =>
    have step : deepest (earlier ++ [candidate]) =
        if (deepest earlier).all fun b => depth b ≤ depth candidate then some candidate else deepest earlier := by
      rw [deepest, foldl_append]
      rfl
    rw [step]
    cases best : deepest earlier with
    | none =>
      rw [best] at ih
      simp [ih]
    | some b =>
      rw [best] at ih
      obtain ⟨mem, longest⟩ := ih
      by_cases longer : depth b ≤ depth candidate
      · have all : ∀ c ∈ earlier, depth c ≤ depth candidate := fun c found => (longest c found).trans longer
        simpa [longer, or_imp, forall_and] using fun a v => all (a, v)
      · simp only [Option.all_some, longer, decide_false, Bool.false_eq_true, if_false]
        refine ⟨mem_append_left _ mem, fun c found => ?_⟩
        rcases mem_append.mp found with old | new
        · exact longest c old
        · rw [mem_singleton.mp new]
          omega

theorem pathStartsWith_iff {path base : String} : pathStartsWith path base = true ↔ components base <+: components path :=
  isPrefixOf_iff_prefix

theorem deepest_nearest {best : String × Volume}
    (eq : deepest (candidates.filter fun c => pathStartsWith requested c.1) = some best) :
    Nearest candidates requested best := by
  have spec := deepest_spec (candidates.filter fun c => pathStartsWith requested c.1)
  rw [eq] at spec
  obtain ⟨mem, longest⟩ := spec
  rw [mem_filter] at mem
  refine ⟨mem.1, mem.2, fun c hm contains => pathStartsWith_iff.mpr ?_⟩
  exact prefix_of_prefix_length_le (pathStartsWith_iff.mp contains) (pathStartsWith_iff.mp mem.2)
    (longest c (mem_filter.mpr ⟨hm, contains⟩))

/-- Two candidates that both are nearest to a path are one, when no two have the same path. -/
theorem Nearest.unique {path : String} {one two : String × Volume}
    (distinct : (candidates.map fun c => components c.1).Nodup)
    (first : Nearest candidates path one) (second : Nearest candidates path two) : one = two := by
  have above := pathStartsWith_iff.mp (first.2.2 two second.1 second.2.1)
  have below := pathStartsWith_iff.mp (second.2.2 one first.1 first.2.1)
  exact inj_on_of_nodup_map distinct first.1 second.1 (below.eq_of_length_le above.length_le)

/-- A source is in the session's scope exactly if everything below it is in a subvolume that is. -/
theorem pathSourceMatchesScope_iff (session : Session) (requested : String)
    (distinct : (candidates.map fun c => components c.1).Nodup) :
    pathSourceMatchesScope session requested candidates = true ↔ (∃ c ∈ candidates, pathStartsWith requested c.1 = true) ∧
        ∀ path c, pathStartsWith path requested = true → Nearest candidates path c →
          resourceMatchesScope session c.2.filesystem c.2.owner = true := by
  simp only [pathSourceMatchesScope, Bool.and_eq_true, Option.any_eq_true, all_eq_true, mem_filter]
  constructor
  · rintro ⟨⟨best, found, matching⟩, nested⟩
    have near := deepest_nearest found
    refine ⟨⟨best, near.1, near.2.1⟩, fun path c below nearest => ?_⟩
    rw [pathStartsWith_iff] at below
    -- the nearest candidate lies below the request, or it is the nearest one of the request
    rcases prefix_or_prefix_of_prefix below (pathStartsWith_iff.mp nearest.2.1) with inside | outside
    · exact nested c ⟨nearest.1, pathStartsWith_iff.mpr inside⟩
    · have own : Nearest candidates requested c :=
        ⟨nearest.1, pathStartsWith_iff.mpr outside, fun d mem contains =>
          nearest.2.2 d mem (pathStartsWith_iff.mpr ((pathStartsWith_iff.mp contains).trans below))⟩
      rwa [own.unique distinct near]
  · rintro ⟨⟨c, mem, contains⟩, all⟩
    constructor
    · cases found : deepest (candidates.filter fun c => pathStartsWith requested c.1) with
      | none =>
        have empty := deepest_spec (candidates.filter fun c => pathStartsWith requested c.1)
        rw [found] at empty
        exact (filter_eq_nil_iff.mp empty c mem contains).elim
      | some best =>
        exact ⟨best, rfl, all requested best (pathStartsWith_iff.mpr prefix_rfl) (deepest_nearest found)⟩
    · rintro nested ⟨there, below⟩
      exact all nested.1 nested below
        ⟨there, pathStartsWith_iff.mpr prefix_rfl, fun d _ contains => contains⟩

end

def alice : Session := ⟨"t", "alice", .operator, none, none, some "alice", 0, false, none⟩

def nested (owner : String) : List (String × Volume) :=
  [("/fs/tank/a", ⟨"tank", some "alice", "/fs/tank/a", false, true⟩),
    ("/fs/tank/a/b", ⟨"tank", some owner, "/fs/tank/a/b", false, true⟩)]

theorem alice_below : pathSourceMatchesScope alice "/fs/tank/a" (nested "bob") = false ∧
    ∀ path c, pathStartsWith path "/fs/tank/a" = true → Nearest (nested "alice") path c →
      resourceMatchesScope alice c.2.filesystem c.2.owner = true :=
  ⟨by decide, ((pathSourceMatchesScope_iff alice "/fs/tank/a" (by decide)).mp (by decide)).2⟩

end NastyEngine.Machines
