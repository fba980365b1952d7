import NastyEngine.Backup.Workers

/-! The end of a backup clears the marker without looking at it. -/

namespace NastyEngine.Backup
open Lib Function

/-- The marker names the last backup of those that have begun, or nothing. -/
structure Marked (workers : Workers) (running setBy : Option String) (active : List String) : Prop where
  unique : active.Nodup
  begun : ∀ id ∈ active, ∃ w, workers id = some w ∧ (w.phase = .backingUp ∨ w.phase = .dead)
  last : ∀ profileId, running = some profileId →
    ∃ id w, active.head? = some id ∧ setBy = some id ∧ workers id = some w ∧ w.profileId = profileId

namespace Marked
variable {workers : Workers} {running setBy running' : Option String} {active : List String} {id : String} {w : Worker}

theorem empty : Marked (fun _ => none) none none [] := by constructor <;> simp

section
variable (marked : Marked workers running setBy active)
include marked

theorem not_active (worker : workers id = some w) (phase : w.phase ≠ .backingUp ∧ w.phase ≠ .dead) : id ∉ active := by
  intro mem
  obtain ⟨w', eq, begun⟩ := marked.begun id mem
  cases eq.symm.trans worker
  exact begun.elim phase.1 phase.2

theorem walk (stays : id ∈ active → ∃ v, workers id = some v ∧ w.profileId = v.profileId ∧
      (w.phase = .backingUp ∨ w.phase = .dead)) :
    Marked (update workers id (some w)) running setBy active := by
  refine ⟨marked.unique, ?_, ?_⟩
  · intro id' mem
    by_cases same : id' = id
    · subst same
      obtain ⟨-, -, -, begun⟩ := stays mem
      exact ⟨w, update_self .., begun⟩
    · rw [update_of_ne same]
      exact marked.begun id' mem
  · intro profileId isRunning
    obtain ⟨id', v, head, setter, worker, profile⟩ := marked.last profileId isRunning
    by_cases same : id' = id
    · subst same
      obtain ⟨v', worker', kept, -⟩ := stays (List.mem_of_head? head)
      cases worker.symm.trans worker'
      exact ⟨id', w, head, setter, update_self .., kept.trans profile⟩
    · exact ⟨id', v, head, setter, by rw [update_of_ne same, worker], profile⟩

theorem begin (worker : workers id = some w) (phase : w.phase = .working) :
    Marked (update workers id (some { w with phase := .backingUp })) (some w.profileId) (some id) (id :: active) := by
  have fresh : id ∉ active := marked.not_active worker (by simp [phase])
  refine ⟨List.nodup_cons.mpr ⟨fresh, marked.unique⟩, ?_, ?_⟩
  · intro id' mem
    by_cases same : id' = id
    · subst same
      exact ⟨_, update_self .., .inl rfl⟩
    · rw [update_of_ne same]
      exact marked.begun id' ((List.mem_cons.mp mem).resolve_left same)
  · rintro profileId ⟨⟩
    exact ⟨id, _, rfl, rfl, update_self .., rfl⟩

theorem leave (stays : ∀ profileId, running' = some profileId → running = some profileId ∧ setBy ≠ some id) :
    Marked (update workers id (some w)) running' setBy (active.erase id) := by
  refine ⟨marked.unique.erase id, ?_, ?_⟩
  · intro id' mem
    obtain ⟨differs, mem⟩ := (marked.unique.mem_erase_iff).mp mem
    rw [update_of_ne differs]
    exact marked.begun id' mem
  · intro profileId isRunning
    obtain ⟨before, ne⟩ := stays profileId isRunning
    obtain ⟨id', v, head, setter, worker, profile⟩ := marked.last profileId before
    have differs : id' ≠ id := by
      rintro rfl
      exact ne setter
    refine ⟨id', v, ?_, setter, by rw [update_of_ne differs, worker], profile⟩
    obtain ⟨rest, rfl⟩ := List.head?_eq_some_iff.mp head
    rw [List.erase_cons_tail (by simpa using differs)]
    rfl

end

end Marked

namespace System
variable {parse : String → Option Int} {s s' : System} {event : Event} {events : List Event}

def InOrder (s : System) (event : Event) : Prop := ∀ id, event = .endRun id → s.active.head? = some id

def StepInOrder (parse : String → Option Int) (s : System) (event : Event) (s' : System) : Prop :=
  Step parse s event s' ∧ InOrder s event

def MarkerKept (s : System) (event : Event) (s' : System) : Prop :=
  ∀ profileId, s.running = some profileId → s'.running = some profileId ∨ (∃ id, event = .begin id) ∨
    ∃ id, (event = .endRun id ∨ event = .recover id) ∧ s.setBy = some id

theorem setBy_of_profile {id profileId : String} {w : Worker} (agree : Agree s.jobs s.workers)
    (marked : Marked s.workers s.running s.setBy s.active) (worker : s.workers id = some w) (isOpen : w.phase.Open)
    (isRunning : s.running = some profileId) : s.setBy = some id ↔ profileId = w.profileId := by
  obtain ⟨id', v, head, setter, worker', rfl⟩ := marked.last profileId isRunning
  constructor
  · intro eq
    cases setter.symm.trans eq
    cases worker.symm.trans worker'
    rfl
  · intro eq
    obtain ⟨v', hit, begun⟩ := marked.begun id' (List.mem_of_head? head)
    cases hit.symm.trans worker'
    have isOpen' : v.phase.Open := by rcases begun with phase | phase <;> (rw [phase]; trivial)
    obtain ⟨job, mem, rfl, own, active⟩ := agree.open_job worker isOpen
    obtain ⟨other, mem', rfl, own', active'⟩ := agree.open_job worker' isOpen'
    rw [setter, agree.single job mem other mem' (own.trans (eq.symm.trans own'.symm)) active active']

theorem Step.marked (agree : Agree s.jobs s.workers) (marked : Marked s.workers s.running s.setBy s.active)
    (step : Step parse s event s') (inOrder : InOrder s event) :
    Marked s'.workers s'.running s'.setBy s'.active ∧ MarkerKept s event s' := by
  -- most steps do not touch the marker
  have kept : ∀ {id : String} {w : Worker}, id ∉ s.active →
      Marked (update s.workers id (some w)) s.running s.setBy s.active :=
    fun ne => marked.walk fun mem => absurd mem ne
  cases step with
  | started now id createdAt profileId kind fresh ok =>
    refine ⟨kept fun mem => ?_, fun _ isRunning => .inl isRunning⟩
    obtain ⟨w, hit, -⟩ := marked.begun id mem
    rw [fresh] at hit
    cases hit
  | refused | get | list => exact ⟨marked, fun _ isRunning => .inl isRunning⟩
  | markRunning id _ worker phase =>
    exact ⟨kept (marked.not_active worker (by simp [phase])), fun _ isRunning => .inl isRunning⟩
  | begin id worker phase => exact ⟨marked.begin worker phase, fun _ _ => .inr (.inl ⟨id, rfl⟩)⟩
  | endRun id worker phase =>
    refine ⟨marked.leave nofun, fun profileId isRunning => .inr (.inr ⟨id, .inl rfl, ?_⟩)⟩
    obtain ⟨id', v, head, setter, -⟩ := marked.last profileId isRunning
    cases head.symm.trans (inOrder id rfl)
    exact setter
  | succeed id _ _ worker phase =>
    refine ⟨kept (marked.not_active worker ?_), fun _ isRunning => .inl isRunning⟩
    rcases phase with phase | ⟨phase, -⟩ <;> simp [phase]
  | fail id _ _ worker phase =>
    refine ⟨kept (marked.not_active worker ?_), fun _ isRunning => .inl isRunning⟩
    rcases phase with phase | phase <;> simp [phase]
  | die id worker alive =>
    exact ⟨marked.walk fun _ => ⟨_, worker, rfl, .inr rfl⟩, fun _ isRunning => .inl isRunning⟩
  | @recover w jobs running recovered id time worker phase out =>
    rcases phase with finished | dead
    · rw [recover_finished agree worker finished] at out
      cases out
      refine ⟨marked.leave fun profileId isRunning => ⟨isRunning, fun eq => ?_⟩, fun _ isRunning => .inl isRunning⟩
      obtain ⟨id', -, head, setter, -⟩ := marked.last profileId isRunning
      cases setter.symm.trans eq
      exact marked.not_active worker (by simp [finished]) (List.mem_of_head? head)
    · rw [recover_dead agree worker dead] at out
      cases out
      have isOpen : w.phase.Open := by rw [dead]; trivial
      refine ⟨marked.leave fun profileId isRunning => ?_, fun profileId isRunning => ?_⟩
      · split at isRunning
        · cases isRunning
        next ne =>
          refine ⟨isRunning, fun eq => ne ?_⟩
          rw [isRunning, (setBy_of_profile agree marked worker isOpen isRunning).mp eq]
      · by_cases own : profileId = w.profileId
        · exact .inr (.inr ⟨id, .inr rfl, (setBy_of_profile agree marked worker isOpen isRunning).mpr own⟩)
        · refine .inl ((if_neg ?_).trans isRunning)
          rw [isRunning]
          simpa using own

theorem agree_run (run : Run (Step parse) {} events s) : Agree s.jobs s.workers :=
  run.invariant (I := fun s => Agree s.jobs s.workers) .empty fun _ _ _ agree step =>
    agree.step (step.effect agree)

theorem closed_run {more : List Event} {t : System} {job : BackupJob} (agree : Agree s.jobs s.workers)
    (run : Run (Step parse) s more t) (mem : job ∈ s.jobs) (terminal : job.state.isTerminal = true) :
    ∀ after ∈ t.jobs, after.id = job.id → after = job := by
  obtain ⟨w, worker, -, state⟩ := agree.worker job mem
  have closed : ¬ w.phase.Open := fun isOpen => by simp [terminal] at state; exact state isOpen
  have kept := run.invariant (I := fun t => Agree t.jobs t.workers ∧
      (∃ w, t.workers job.id = some w ∧ ¬ w.phase.Open) ∧ ∀ after ∈ t.jobs, after.id = job.id → after = job)
    ⟨agree, ⟨w, worker, closed⟩, fun after hm same => List.inj_on_of_nodup_map agree.unique hm mem same⟩ ?_
  · exact kept.2.2
  · rintro t event t' ⟨agree, ⟨w, worker, closed⟩, same⟩ step
    obtain ⟨closed', old⟩ := (step.effect agree).closed worker closed
    exact ⟨agree.step (step.effect agree), closed', fun after hm id => same after (old after hm id) id⟩

theorem marked_run (run : Run (StepInOrder parse) {} events s) :
    Agree s.jobs s.workers ∧ Marked s.workers s.running s.setBy s.active := by
  refine run.invariant (I := fun s => Agree s.jobs s.workers ∧ Marked s.workers s.running s.setBy s.active)
    ⟨.empty, .empty⟩ ?_
  rintro s event s' ⟨agree, marked⟩ ⟨step, inOrder⟩
  exact ⟨agree.step (step.effect agree), (step.marked agree marked inOrder).1⟩

/-- A profile has one open job at most. A closed job is not changed any more, only closed jobs leave the
registry, and a job is closed when its monitor has returned. If backups that overlap end in the reverse
order of their starts, no end of a backup takes the marker from another one. -/
theorem registry_and_marker (run : Run (Step parse) {} events s) :
    (∀ job ∈ s.jobs, ∀ other ∈ s.jobs, job.profileId = other.profileId → job.state.isTerminal = false →
      other.state.isTerminal = false → job = other) ∧
    (∀ job ∈ s.jobs, job.state.isTerminal = true → ∀ more t, Run (Step parse) s more t →
      ∀ after ∈ t.jobs, after.id = job.id → after = job) ∧
    (∀ event s', Step parse s event s' → ∀ job ∈ s.jobs, (∀ after ∈ s'.jobs, after.id ≠ job.id) →
      job.state.isTerminal = true) ∧
    (∀ id w, s.workers id = some w → w.phase = .monitored → ∀ job ∈ s.jobs, job.id = id → job.state.isTerminal = true) ∧
    (Run (StepInOrder parse) {} events s →
      ∀ event s', Step parse s event s' → InOrder s event → MarkerKept s event s') := by
  have agree := agree_run run
  refine ⟨?_, ?_, ?_, ?_, ?_⟩
  · intro job mem other mem' same active active'
    exact List.inj_on_of_nodup_map agree.unique mem mem' (agree.single job mem other mem' same active active')
  · intro job mem terminal more t later
    exact closed_run agree later mem terminal
  · intro event s' step job mem gone
    by_contra active
    obtain ⟨after, there, same⟩ := (step.effect agree).keeps_open mem (by simpa using active)
    exact gone after there same
  · intro id w worker monitored
    exact agree.closed_job worker (by rw [monitored]; exact not_false)
  · intro ordered event s' step inOrder
    exact (step.marked agree (marked_run ordered).2 inOrder).2

def twoBackups : List Event :=
  [.start "1" "p" .runBackup, .start "2" "q" .runBackup, .markRunning "1", .markRunning "2", .begin "1", .begin "2"]

def threeBackups : List Event :=
  twoBackups ++ [.endRun "2", .start "3" "r" .runBackup, .markRunning "3", .begin "3"]

/-- Two backups run. In the longer run the second has ended before the first, and a third has begun. -/
theorem some_backups : ∃ s t, (Run (StepInOrder fun _ => none) {} twoBackups s ∧ s.running = some "q" ∧
      s.setBy = some "2" ∧ s.workers "1" = some ⟨"p", .runBackup, .backingUp⟩ ∧
      s.workers "2" = some ⟨"q", .runBackup, .backingUp⟩) ∧
    Run (StepInOrder fun _ => none) {} threeBackups t ∧ t.running = some "r" ∧ t.setBy = some "3" ∧
      t.workers "1" = some ⟨"p", .runBackup, .backingUp⟩ := by
  have run : Run (StepInOrder fun _ => none) {} [] {} := .nil _
  have run := run.snoc ⟨.started 0 "1" "t" "p" .runBackup rfl rfl, nofun⟩
  have run := run.snoc ⟨.started 0 "2" "t" "q" .runBackup rfl rfl, nofun⟩
  have run := run.snoc ⟨.markRunning "1" "t" rfl rfl, nofun⟩
  have run := run.snoc ⟨.markRunning "2" "t" rfl rfl, nofun⟩
  have run := run.snoc ⟨.begin "1" rfl rfl rfl, nofun⟩
  have two := run.snoc ⟨.begin "2" rfl rfl rfl, nofun⟩
  have run := two.snoc ⟨.endRun "2" rfl rfl, fun id ends => by cases ends; rfl⟩
  have run := run.snoc ⟨.started 0 "3" "t" "r" .runBackup rfl rfl, nofun⟩
  have run := run.snoc ⟨.markRunning "3" "t" rfl rfl, nofun⟩
  have run := run.snoc ⟨.begin "3" rfl rfl rfl, nofun⟩
  exact ⟨_, _, ⟨two, rfl, rfl, rfl, rfl⟩, run, rfl, rfl, rfl⟩

/-- The first backup ends and takes the marker from the second, which still runs. -/
theorem end_takes_marker : ∃ s s', Run (Step fun _ => none) {} twoBackups s ∧ Step (fun _ => none) s (.endRun "1") s' ∧
    s.running = some "q" ∧ s.setBy = some "2" ∧ s'.running = none ∧
    s'.workers "2" = some ⟨"q", .runBackup, .backingUp⟩ := by
  obtain ⟨s, -, ⟨run, running, setBy, first, second⟩, -⟩ := some_backups
  refine ⟨s, _, run.mono fun _ _ _ step => step.1, .endRun "1" first rfl, running, setBy, rfl, ?_⟩
  have other : ("2" : String) ≠ "1" := by decide
  exact (update_of_ne other (some ⟨"p", .runBackup, .backedUp⟩) s.workers).trans second

theorem registry_and_marker_after_death : ∃ s s', Run (StepInOrder fun _ => none) {} (threeBackups ++ [.die "1"]) s ∧
    Step (fun _ => none) s (.recover "1") s' ∧ s'.running = some "r" := by
  obtain ⟨-, s, -, run, running, setBy, first⟩ := some_backups
  have died : Run (StepInOrder fun _ => none) {} (threeBackups ++ [.die "1"]) _ :=
    run.snoc ⟨.die "1" first trivial, nofun⟩
  have dead : (s.move "1" ⟨"p", .runBackup, .backingUp⟩ .dead).workers "1" = some ⟨"p", .runBackup, .dead⟩ :=
    update_self "1" _ s.workers
  have recovered : Step (fun _ => none) _ (.recover "1") _ := .recover "1" "t" dead (.inr rfl) rfl
  obtain ⟨-, -, -, -, marker⟩ := registry_and_marker (died.mono fun _ _ _ step => step.1)
  refine ⟨_, _, died, recovered, ?_⟩
  rcases marker died _ _ recovered nofun "r" running with kept | ⟨id, begins⟩ | ⟨id, ends, set⟩
  · exact kept
  · cases begins
  · rcases ends with ends | ends
    · cases ends
    · cases ends
      exact absurd (setBy.symm.trans set) (by decide)

end System

end NastyEngine.Backup
