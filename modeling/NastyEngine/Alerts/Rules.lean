import NastyEngine.Alerts.State

/-!
The changes of the rules save the state that is already the one in memory, so the file agrees with the
memory as long as their writes succeed.
-/

namespace NastyEngine.Alerts
open Lib List

def Covers (defaults rules : List AlertRule) : Prop := ∀ default ∈ defaults, ∃ rule ∈ rules, rule.id = default.id

variable {rules : List AlertRule}

theorem backfill_covered {defaults : List AlertRule} (covered : Covers defaults rules) :
    backfill defaults rules = rules := by
  induction defaults with
  | nil => rfl
  | cons default rest ih =>
    have present : rules.any (·.id = default.id) = true := by simpa using covered default mem_cons_self
    rw [backfill, foldl_cons, if_pos present]
    exact ih fun other mem => covered other (mem_cons_of_mem _ mem)

theorem subset_backfill (defaults rules : List AlertRule) : rules ⊆ backfill defaults rules := by
  induction defaults generalizing rules with
  | nil => exact fun _ mem => mem
  | cons default rest ih =>
    intro rule mem
    rw [backfill, foldl_cons]
    apply ih
    split
    · exact mem
    · exact mem_append_left _ mem

theorem backfill_covers (defaults rules : List AlertRule) : Covers defaults (backfill defaults rules) := by
  induction defaults generalizing rules with
  | nil =>
    intro default mem
    cases mem
  | cons default rest ih =>
    intro other mem
    rw [backfill, foldl_cons]
    rcases mem_cons.mp mem with rfl | later
    · split
      next present =>
        obtain ⟨rule, held, eq⟩ := any_eq_true.mp present
        exact ⟨rule, subset_backfill rest _ held, of_decide_eq_true eq⟩
      · exact ⟨other, subset_backfill rest _ (mem_append_right _ mem_cons_self), rfl⟩
    · exact ih _ other later

theorem seeded_covers (rules : List AlertRule) : Covers defaultRules (seeded rules) := by
  rw [seeded]
  split
  · exact fun default mem => ⟨default, mem, rfl⟩
  · exact backfill_covers _ _

theorem seeded_covered (covered : Covers defaultRules rules) : seeded rules = rules := by
  have some_rule : rules ≠ [] := by
    rintro rfl
    obtain ⟨rule, mem, _⟩ := covered _ mem_cons_self
    cases mem
  rw [seeded, if_neg some_rule, backfill_covered covered]

namespace AlertService

def restartRules (s : AlertService) : List AlertRule := seeded (loadState s.file).rules

structure Agrees (s : AlertService) : Prop where
  covered : Covers defaultRules s.state.rules
  restart : s.restartRules = s.state.rules

variable {s : AlertService}

variable {state : AlertState}

theorem agrees_saved (covered : Covers defaultRules s.state.rules)
    (rules : state.rules = s.state.rules) (file : s.file = some state) : s.Agrees := by
  refine ⟨covered, ?_⟩
  rw [restartRules, file]
  change seeded state.rules = _
  rw [rules]
  exact seeded_covered covered

theorem new_agrees {saved : Except String Unit} (file : Option AlertState) : (new saved file).Agrees := by
  have covered : Covers defaultRules (new saved file).state.rules := seeded_covers _
  -- Without a change or a successful write, the restart reads the same file and seeds it the same way.
  by_cases same : seeded (loadState file).rules = (loadState file).rules
  · refine ⟨covered, ?_⟩
    have kept : (new saved file).file = file := if_pos same
    rw [restartRules, kept]
    rfl
  · have written : (new saved file).file = saveState saved (new saved file).state file := if_neg same
    cases saved with
    | ok _ => exact agrees_saved covered rfl written
    | error e =>
      refine ⟨covered, ?_⟩
      rw [restartRules, written]
      rfl

theorem agrees_of_eq {t : AlertService} (agrees : s.Agrees) (rules : t.state.rules = s.state.rules)
    (file : t.file = s.file) : t.Agrees := by
  refine ⟨rules ▸ agrees.covered, ?_⟩
  rw [restartRules, file, rules]
  exact agrees.restart

theorem commit_agrees {α : Type} {answer : α} (covered : Covers defaultRules state.rules) :
    (s.commit (.ok ()) state answer).2.Agrees :=
  agrees_saved covered rfl rfl

variable {saved : Except String Unit}

/-- The occurrences may be saved or not: the rules they are saved with are those in memory. -/
theorem reconcileActive_agrees {fresh : Nat → String} {alerts : List ActiveAlert}
    {isObserved : ActiveAlert → Bool} (agrees : s.Agrees) :
    (s.reconcileActive saved fresh alerts isObserved).2.Agrees := by
  simp only [reconcileActive]
  split
  · exact agrees_of_eq agrees rfl rfl
  · cases saved with
    | ok _ => exact agrees_saved agrees.covered rfl rfl
    | error e => exact agrees_of_eq agrees rfl rfl

theorem acknowledge_agrees {now instanceId username : String} (agrees : s.Agrees) :
    (s.acknowledge saved now instanceId username).2.Agrees := by
  rw [acknowledge]
  split
  · exact agrees
  · cases saved with
    | ok _ => exact agrees_saved agrees.covered rfl rfl
    | error e => exact agrees

end AlertService

/-- A change of the rules that comes to its write has it succeed, and deletes no default rule. The
writes of the other requests may fail. -/
def AlertRequest.Commits : AlertRequest → AlertService → Prop
  | .create saved _ rule, s => s.state.rules.any (·.id = rule.id) = false → saved = .ok ()
  | .update saved id _, s => (s.state.rules.find? (·.id = id)).isSome → saved = .ok ()
  | .delete saved id, s =>
    (∃ rule ∈ s.state.rules, rule.id = id) → saved = .ok () ∧ ∀ default ∈ defaultRules, default.id ≠ id
  | .reconcile .., _ => True
  | .acknowledge .., _ => True

namespace AlertService
variable {s : AlertService} {saved : Except String Unit}

theorem covers_append {more : List AlertRule} (covered : Covers defaultRules rules) :
    Covers defaultRules (rules ++ more) := by
  intro default mem
  obtain ⟨rule, held, eq⟩ := covered default mem
  exact ⟨rule, mem_append_left _ held, eq⟩

theorem covers_of_ids {other : List AlertRule} (covered : Covers defaultRules rules)
    (ids : other.map (·.id) = rules.map (·.id)) : Covers defaultRules other := by
  intro default mem
  obtain ⟨rule, held, eq⟩ := covered default mem
  have named : rule.id ∈ other.map (·.id) := ids ▸ mem_map_of_mem held
  obtain ⟨kept, found, equal⟩ := mem_map.mp named
  exact ⟨kept, found, equal.trans eq⟩

variable {id : String}

theorem covers_filter (covered : Covers defaultRules rules)
    (other : ∀ default ∈ defaultRules, default.id ≠ id) : Covers defaultRules (rules.filter (·.id ≠ id)) := by
  intro default mem
  obtain ⟨rule, held, eq⟩ := covered default mem
  have kept : rule.id ≠ id := eq ▸ other default mem
  exact ⟨rule, mem_filter.mpr ⟨held, decide_eq_true kept⟩, eq⟩

theorem filter_length (absent : ¬∃ rule ∈ rules, rule.id = id) : (rules.filter (·.id ≠ id)).length = rules.length := by
  rw [filter_eq_self.mpr]
  intro rule mem
  exact decide_eq_true fun eq => absent ⟨rule, mem, eq⟩

section
variable (agrees : s.Agrees)
include agrees

theorem createRule_agrees {uuid : String} {rule : AlertRule}
    (commits : AlertRequest.Commits (.create saved uuid rule) s) : (s.createRule saved uuid rule).2.Agrees := by
  rw [createRule]
  split
  · exact agrees
  next absent =>
    rw [commits (Bool.eq_false_iff.mpr absent)]
    exact commit_agrees (covers_append agrees.covered)

theorem updateRule_agrees {update : AlertRuleUpdate}
    (commits : AlertRequest.Commits (.update saved id update) s) : (s.updateRule saved id update).2.Agrees := by
  rw [updateRule]
  split
  · exact agrees
  next rule eq =>
    rw [commits (by rw [eq]; rfl)]
    refine commit_agrees (covers_of_ids agrees.covered ?_)
    apply map_replaceF
    exact fun _ => rfl

theorem deleteRule_agrees (commits : AlertRequest.Commits (.delete saved id) s) : (s.deleteRule saved id).2.Agrees := by
  by_cases present : ∃ rule ∈ s.state.rules, rule.id = id
  · obtain ⟨succeeds, other⟩ := commits present
    subst succeeds
    rw [deleteRule]
    split
    · exact agrees
    · exact commit_agrees (covers_filter agrees.covered other)
  · rw [deleteRule, if_pos (filter_length present)]
    exact agrees

theorem serve_agrees {request : AlertRequest} (commits : request.Commits s) : (s.serve request).2.Agrees := by
  cases request with
  | create saved uuid rule => exact createRule_agrees agrees commits
  | update saved id update => exact updateRule_agrees agrees commits
  | delete saved id => exact deleteRule_agrees agrees commits
  | reconcile saved fresh alerts isObserved => exact reconcileActive_agrees agrees
  | acknowledge saved now instanceId username => exact acknowledge_agrees agrees

end

theorem serve_refused {request : AlertRequest} {e : String} (commits : request.Commits s)
    (refused : (s.serve request).1 = some e) : (s.serve request).2 = s := by
  cases request with
  | create saved uuid rule =>
    simp only [serve, serve.failure, createRule] at refused ⊢
    split
    · rfl
    next absent =>
      rw [if_neg absent, commits (Bool.eq_false_iff.mpr absent)] at refused
      cases refused
  | update saved id update =>
    simp only [serve, serve.failure, updateRule] at refused ⊢
    split
    · rfl
    next rule eq =>
      simp only [eq, commits (by rw [eq]; rfl)] at refused
      cases refused
  | delete saved id =>
    by_cases present : ∃ rule ∈ s.state.rules, rule.id = id
    · have succeeds := (commits present).1
      subst succeeds
      simp only [serve, serve.failure, deleteRule] at refused ⊢
      split
      · rfl
      next shorter =>
        rw [if_neg shorter] at refused
        cases refused
    · simp only [serve, serve.failure, deleteRule, if_pos (filter_length present)]
  | reconcile saved fresh alerts isObserved => cases refused
  | acknowledge saved now instanceId username =>
    simp only [serve, serve.failure, acknowledge] at refused ⊢
    split
    · rfl
    next marked =>
      cases saved with
      | ok _ =>
        rw [marked] at refused
        cases refused
      | error e => rfl

end AlertService

def CommittedStep (s : AlertService) (request : AlertRequest) (t : AlertService) : Prop :=
  request.Commits s ∧ t = (s.serve request).2

/-- While the writes of changed rules succeed and no default rule is deleted, a restart loads the rules
in memory, and a refused request leaves both as they were. -/
theorem rules_committed {saved : Except String Unit} {file : Option AlertState} {requests : List AlertRequest}
    {s : AlertService} (ran : Run CommittedStep (.new saved file) requests s) :
    (∀ saved', (AlertService.new saved' s.file).listRules = s.listRules) ∧
      ∀ request t, CommittedStep s request t → (s.serve request).1.isSome →
        t.listRules = s.listRules ∧ t.file = s.file := by
  have agrees : s.Agrees := by
    apply ran.invariant (AlertService.new_agrees file)
    intro s request t agrees step
    obtain ⟨commits, rfl⟩ := step
    exact AlertService.serve_agrees agrees commits
  refine ⟨fun saved' => agrees.restart, ?_⟩
  intro request t step refused
  obtain ⟨commits, rfl⟩ := step
  obtain ⟨e, failed⟩ := Option.isSome_iff_exists.mp refused
  rw [AlertService.serve_refused commits failed]
  exact ⟨rfl, rfl⟩

def hotRule : AlertRule := ⟨"hot", "Hot disk", true, .diskTemperature, .above, 70, .critical⟩

theorem hot_created : Run CommittedStep (.new (.ok ()) none) [.create (.ok ()) "u" hotRule]
    ((AlertService.new (.ok ()) none).serve (.create (.ok ()) "u" hotRule)).2 := by
  apply Run.snoc (Run.nil _)
  exact ⟨fun _ => rfl, rfl⟩

theorem rules_committed_hot : let s := ((AlertService.new (.ok ()) none).serve (.create (.ok ()) "u" hotRule)).2
    (∀ saved', (AlertService.new saved' s.file).listRules = s.listRules) ∧
      ∀ request t, CommittedStep s request t → (s.serve request).1.isSome → t.listRules = s.listRules ∧ t.file = s.file :=
  rules_committed hot_created

/-- A rule whose save failed is in force until the restart, and a deleted default comes back with it. -/
theorem rules_not_committed : (let start := AlertService.new (.ok ()) none
     let (failed, s) := start.serve (.create (.error "No space left on device") "u" hotRule)
     failed = some "No space left on device" ∧ hotRule ∈ s.listRules ∧ hotRule ∉ start.listRules ∧
       hotRule ∉ s.restartRules) ∧
    (let (failed, s) := (AlertService.new (.ok ()) none).serve (.delete (.ok ()) "kernel-errors")
     failed = none ∧ "kernel-errors" ∉ s.listRules.map (·.id) ∧ "kernel-errors" ∈ s.restartRules.map (·.id)) := by
  decide +kernel

end NastyEngine.Alerts
