import NastyEngine.Backup.Jobs
import NastyEngine.Lib.Run

/-!
A job is created together with a worker and a monitor. The worker moves its job on and, for a backup,
sets and clears the marker that says which profile is being backed up. It may stop at any point; its
monitor then closes the job. All of them run at once, and each step takes one lock.
-/

namespace NastyEngine.Backup
open Lib List Function

inductive Phase where
  | spawned
  | working
  | backingUp
  /-- The marker is cleared; the result is recorded. -/
  | backedUp
  | finished
  /-- The worker panicked or was cancelled before it finished. -/
  | dead
  | monitored
  deriving DecidableEq

def Phase.Open : Phase → Prop
  | .finished | .monitored => False
  | .spawned | .working | .backingUp | .backedUp | .dead => True

def Phase.Alive : Phase → Prop
  | .spawned | .working | .backingUp | .backedUp => True
  | .finished | .dead | .monitored => False

theorem Phase.Alive.isOpen {phase : Phase} (alive : phase.Alive) : phase.Open := by
  cases phase <;> trivial

structure Worker where
  profileId : String
  kind : BackupJobKind
  phase : Phase := .spawned

structure System where
  jobs : Jobs := []
  running : Option String := none
  workers : String → Option Worker := fun _ => none
  /-- The job that set the marker last. -/
  setBy : Option String := none
  /-- The backups that have begun and not ended, the last first. -/
  active : List String := []

inductive Event where
  | start (id profileId : String) (kind : BackupJobKind)
  | get (id : String)
  | list (profileId : Option String)
  | markRunning (id : String)
  | begin (id : String)
  | endRun (id : String)
  | succeed (id : String)
  | fail (id : String)
  | die (id : String)
  | recover (id : String)
  deriving DecidableEq

namespace System

def move (s : System) (id : String) (w : Worker) (phase : Phase) : System :=
  { s with workers := update s.workers id (some { w with phase }) }

section Steps
variable (parse : String → Option Int)

inductive Step : System → Event → System → Prop
  | started {s : System} {jobs : Jobs} {job : BackupJob} (now : Int) (id createdAt profileId : String)
      (kind : BackupJobKind) (fresh : s.workers id = none)
      (ok : s.jobs.start parse now id createdAt profileId kind = (jobs, .ok job)) :
      Step s (.start id profileId kind)
        { s with jobs, workers := update s.workers id (some { profileId, kind }) }
  | refused {s : System} {jobs : Jobs} {e : JobError} (now : Int) (id createdAt profileId : String)
      (kind : BackupJobKind) (error : s.jobs.start parse now id createdAt profileId kind = (jobs, .error e)) :
      Step s (.start id profileId kind) { s with jobs }
  | get {s : System} (now : Int) (id : String) : Step s (.get id) { s with jobs := (s.jobs.get parse now id).1 }
  | list {s : System} (now : Int) (profileId : Option String) :
      Step s (.list profileId) { s with jobs := (s.jobs.list parse now profileId).1 }
  | markRunning {s : System} {w : Worker} (id time : String) (worker : s.workers id = some w)
      (phase : w.phase = .spawned) :
      Step s (.markRunning id) { s.move id w .working with jobs := s.jobs.markRunning time id }
  | begin {s : System} {w : Worker} (id : String) (worker : s.workers id = some w) (phase : w.phase = .working)
      (kind : w.kind = .runBackup) :
      Step s (.begin id)
        { s.move id w .backingUp with running := some w.profileId, setBy := some id, active := id :: s.active }
  | endRun {s : System} {w : Worker} (id : String) (worker : s.workers id = some w) (phase : w.phase = .backingUp) :
      Step s (.endRun id) { s.move id w .backedUp with running := none, active := s.active.erase id }
  | succeed {s : System} {w : Worker} (id time result : String) (worker : s.workers id = some w)
      (phase : w.phase = .backedUp ∨ w.phase = .working ∧ w.kind ≠ .runBackup) :
      Step s (.succeed id) { s.move id w .finished with jobs := s.jobs.markSucceeded time id result }
  | fail {s : System} {w : Worker} (id time error : String) (worker : s.workers id = some w)
      (phase : w.phase = .backedUp ∨ w.phase = .working) :
      Step s (.fail id) { s.move id w .finished with jobs := s.jobs.markFailed time id error }
  | die {s : System} {w : Worker} (id : String) (worker : s.workers id = some w) (phase : w.phase.Alive) :
      Step s (.die id) (s.move id w .dead)
  | recover {s : System} {w : Worker} {jobs : Jobs} {running : Option String} {recovered : Bool} (id time : String)
      (worker : s.workers id = some w) (phase : w.phase = .finished ∨ w.phase = .dead)
      (out : s.jobs.recoverAbandoned time s.running id = (jobs, running, recovered)) :
      Step s (.recover id) { s.move id w .monitored with jobs, running, active := s.active.erase id }

end Steps

end System

abbrev Workers := String → Option Worker

structure Agree (jobs : Jobs) (workers : Workers) : Prop where
  unique : (jobs.map (·.id)).Nodup
  worker : ∀ job ∈ jobs, ∃ w, workers job.id = some w ∧ w.profileId = job.profileId ∧
    (job.state.isTerminal = false ↔ w.phase.Open)
  job : ∀ id w, workers id = some w → w.phase.Open → ∃ job ∈ jobs, job.id = id
  single : ∀ job ∈ jobs, ∀ other ∈ jobs, job.profileId = other.profileId → job.state.isTerminal = false →
    other.state.isTerminal = false → job.id = other.id

inductive Effect (jobs : Jobs) (workers : Workers) : Jobs → Workers → Prop
  | swept (parse : String → Option Int) (now : Int) : Effect jobs workers (jobs.gcLocked parse now) workers
  | opened (parse : String → Option Int) (now : Int) (job : BackupJob) (kind : BackupJobKind)
      (fresh : workers job.id = none) (active : job.state.isTerminal = false)
      (alone : ∀ other ∈ jobs, other.profileId = job.profileId → other.state.isTerminal = true) :
      Effect jobs workers (jobs.gcLocked parse now ++ [job])
        (update workers job.id (some { profileId := job.profileId, kind }))
  | moved (id : String) (w : Worker) (phase : Phase) (f : BackupJob → BackupJob) (worker : workers id = some w)
      (isOpen : w.phase.Open) (keeps : Jobs.Keeps f)
      (state : ∀ job, job.state.isTerminal = false → ((f job).state.isTerminal = false ↔ phase.Open)) :
      Effect jobs workers (jobs.modify id f) (update workers id (some { w with phase }))
  | watched (id : String) (w : Worker) (worker : workers id = some w) (finished : w.phase = .finished) :
      Effect jobs workers jobs (update workers id (some { w with phase := .monitored }))

section Effects
variable {jobs jobs' : Jobs} {workers workers' : Workers} {id : String} {w : Worker}

theorem Effect.walked {phase : Phase} (worker : workers id = some w) (isOpen : w.phase.Open) (stays : phase.Open) :
    Effect jobs workers jobs (update workers id (some { w with phase })) := by
  have moved : Effect jobs workers (jobs.modify id fun job => job) _ :=
    .moved id w phase (fun job => job) worker isOpen (fun _ => ⟨rfl, rfl⟩) fun _ active => iff_of_true active stays
  rwa [Jobs.modify_self] at moved

theorem Effect.closed (effect : Effect jobs workers jobs' workers') (worker : workers id = some w)
    (closed : ¬ w.phase.Open) :
    (∃ w', workers' id = some w' ∧ ¬ w'.phase.Open) ∧ ∀ job ∈ jobs', job.id = id → job ∈ jobs := by
  cases effect with
  | swept parse now => exact ⟨⟨w, worker, closed⟩, fun job mem _ => (Jobs.mem_gcLocked.mp mem).1⟩
  | opened parse now opened kind fresh =>
    have ne : id ≠ opened.id := by
      intro same
      rw [← same, worker] at fresh
      cases fresh
    refine ⟨⟨w, by rw [update_of_ne ne, worker], closed⟩, fun job mem same => ?_⟩
    rcases mem_append.mp mem with mem | mem
    · exact (Jobs.mem_gcLocked.mp mem).1
    · cases mem_singleton.mp mem
      exact absurd same.symm ne
  | moved moving v phase f worker' isOpen keeps =>
    have ne : id ≠ moving := by
      rintro rfl
      cases worker'.symm.trans worker
      exact closed isOpen
    refine ⟨⟨w, by rw [update_of_ne ne, worker], closed⟩, fun job mem same => ?_⟩
    obtain ⟨before, hm, rfl⟩ := mem_modifyKey.mp mem
    by_cases hit : before.id = moving
    · rw [if_pos hit, (keeps before).1, hit] at same
      exact absurd same.symm ne
    · rwa [if_neg hit]
  | watched watched v worker' =>
    refine ⟨?_, fun job mem _ => mem⟩
    by_cases same : id = watched
    · subst same
      exact ⟨_, update_self .., not_false⟩
    · exact ⟨w, by rw [update_of_ne same, worker], closed⟩

theorem Effect.keeps_open (effect : Effect jobs workers jobs' workers') {job : BackupJob} (mem : job ∈ jobs)
    (active : job.state.isTerminal = false) : ∃ after ∈ jobs', after.id = job.id := by
  have kept : ∀ parse now, job ∈ jobs.gcLocked parse now := fun parse now =>
    Jobs.mem_gcLocked.mpr ⟨mem, Jobs.keeps_of_not_terminal active⟩
  cases effect with
  | swept parse now => exact ⟨job, kept parse now, rfl⟩
  | opened parse now => exact ⟨job, mem_append_left _ (kept parse now), rfl⟩
  | moved id w phase f worker isOpen keeps =>
    refine ⟨_, mem_modifyKey.mpr ⟨job, mem, rfl⟩, ?_⟩
    split
    · exact (keeps job).1
    · rfl
  | watched => exact ⟨job, mem, rfl⟩

end Effects

namespace Agree
variable {jobs jobs' : Jobs} {workers workers' : Workers} {id : String} {w : Worker}

theorem empty : Agree [] fun _ => none := by constructor <;> simp

section
variable (agree : Agree jobs workers)
include agree

theorem open_job (worker : workers id = some w) (isOpen : w.phase.Open) :
    ∃ job ∈ jobs, job.id = id ∧ job.profileId = w.profileId ∧ job.state.isTerminal = false := by
  obtain ⟨job, mem, rfl⟩ := agree.job id w worker isOpen
  obtain ⟨w', eq, profile, state⟩ := agree.worker job mem
  cases eq.symm.trans worker
  exact ⟨job, mem, rfl, profile.symm, state.mpr isOpen⟩

theorem closed_job (worker : workers id = some w) (closed : ¬ w.phase.Open) :
    ∀ job ∈ jobs, job.id = id → job.state.isTerminal = true := by
  rintro job mem rfl
  obtain ⟨w', eq, -, state⟩ := agree.worker job mem
  cases eq.symm.trans worker
  by_contra active
  exact closed (state.mp (by simpa using active))

theorem sweep {parse : String → Option Int} {now : Int} : Agree (jobs.gcLocked parse now) workers  where
  unique := agree.unique.sublist (filter_sublist.map _)
  worker job mem := agree.worker job (Jobs.mem_gcLocked.mp mem).1
  job id w worker isOpen := by
    obtain ⟨job, mem, eq, -, active⟩ := agree.open_job worker isOpen
    exact ⟨job, Jobs.mem_gcLocked.mpr ⟨mem, Jobs.keeps_of_not_terminal active⟩, eq⟩
  single job mem other mem' := agree.single job (Jobs.mem_gcLocked.mp mem).1 other (Jobs.mem_gcLocked.mp mem').1

theorem add {job : BackupJob} (kind : BackupJobKind) (fresh : workers job.id = none)
    (active : job.state.isTerminal = false)
    (alone : ∀ other ∈ jobs, other.profileId = job.profileId → other.state.isTerminal = true) :
    Agree (jobs ++ [job]) (update workers job.id (some { profileId := job.profileId, kind })) := by
  have differs : ∀ other ∈ jobs, other.id ≠ job.id := by
    intro other mem same
    obtain ⟨w, eq, -⟩ := agree.worker other mem
    rw [same, fresh] at eq
    cases eq
  refine ⟨?_, ?_, ?_, ?_⟩
  · rw [map_append, nodup_append]
    refine ⟨agree.unique, nodup_singleton _, ?_⟩
    intro a mem b mem' same
    obtain ⟨other, hm, rfl⟩ := mem_map.mp mem
    cases mem_singleton.mp mem'
    exact differs other hm same
  · intro other mem
    rcases mem_append.mp mem with mem | mem
    · rw [update_of_ne (differs other mem)]
      exact agree.worker other mem
    · cases mem_singleton.mp mem
      exact ⟨_, update_self .., rfl, iff_of_true active trivial⟩
  · intro id w worker isOpen
    by_cases same : id = job.id
    · exact ⟨job, by simp, same.symm⟩
    · rw [update_of_ne same] at worker
      obtain ⟨other, mem, eq⟩ := agree.job id w worker isOpen
      exact ⟨other, mem_append_left _ mem, eq⟩
  · intro a mem b mem' same openA openB
    rcases mem_append.mp mem with mem | mem <;> rcases mem_append.mp mem' with mem' | mem'
    · exact agree.single a mem b mem' same openA openB
    · cases mem_singleton.mp mem'
      exact absurd (alone a mem same) (by simp [openA])
    · cases mem_singleton.mp mem
      exact absurd (alone b mem' same.symm) (by simp [openB])
    · cases mem_singleton.mp mem
      cases mem_singleton.mp mem'
      rfl

theorem move {phase : Phase} {f : BackupJob → BackupJob} (worker : workers id = some w)
    (isOpen : w.phase.Open) (keeps : Jobs.Keeps f)
    (state : ∀ job, job.state.isTerminal = false → ((f job).state.isTerminal = false ↔ phase.Open)) :
    Agree (jobs.modify id f) (update workers id (some { w with phase })) := by
  -- a job of the new registry is one of the old, and the one that changed was open
  have old : ∀ job ∈ jobs.modify id f, ∃ before ∈ jobs, job.id = before.id ∧ job.profileId = before.profileId ∧
      (job.state.isTerminal = false → before.state.isTerminal = false) := by
    intro job mem
    obtain ⟨before, hm, rfl⟩ := mem_modifyKey.mp mem
    refine ⟨before, hm, ?_⟩
    by_cases same : before.id = id
    · obtain ⟨w', eq, -, open_iff⟩ := agree.worker before hm
      rw [same, worker] at eq
      cases eq
      rw [if_pos same]
      exact ⟨(keeps before).1, (keeps before).2, fun _ => open_iff.mpr isOpen⟩
    · rw [if_neg same]
      exact ⟨rfl, rfl, fun active => active⟩
  refine ⟨?_, ?_, ?_, ?_⟩
  · rw [Jobs.map_id_modify keeps]
    exact agree.unique
  · intro job mem
    obtain ⟨before, hm, rfl⟩ := mem_modifyKey.mp mem
    obtain ⟨w', eq, profile, open_iff⟩ := agree.worker before hm
    by_cases same : before.id = id
    · rw [same, worker] at eq
      cases eq
      rw [if_pos same, (keeps before).1, (keeps before).2, same, update_self]
      exact ⟨_, rfl, profile, state before (open_iff.mpr isOpen)⟩
    · rw [if_neg same, update_of_ne same]
      exact ⟨w', eq, profile, open_iff⟩
  · intro id' w' worker' isOpen'
    by_cases same : id' = id
    · subst same
      obtain ⟨job, mem, rfl, -⟩ := agree.open_job worker isOpen
      exact ⟨f job, mem_modifyKey.mpr ⟨job, mem, if_pos rfl⟩, (keeps job).1⟩
    · rw [update_of_ne same] at worker'
      obtain ⟨job, mem, rfl⟩ := agree.job id' w' worker' isOpen'
      exact ⟨job, mem_modifyKey.mpr ⟨job, mem, if_neg same⟩, rfl⟩
  · intro job mem other mem' same active active'
    obtain ⟨a, memA, idA, profileA, openA⟩ := old job mem
    obtain ⟨b, memB, idB, profileB, openB⟩ := old other mem'
    rw [idA, idB]
    exact agree.single a memA b memB (profileA.symm.trans (same.trans profileB)) (openA active) (openB active')

theorem watch (worker : workers id = some w) (finished : w.phase = .finished) :
    Agree jobs (update workers id (some { w with phase := .monitored })) := by
  refine ⟨agree.unique, ?_, ?_, agree.single⟩
  · intro job mem
    obtain ⟨w', eq, profile, state⟩ := agree.worker job mem
    by_cases same : job.id = id
    · rw [same, worker] at eq
      cases eq
      rw [same, update_self]
      rw [finished] at state
      exact ⟨_, rfl, profile, state⟩
    · rw [update_of_ne same]
      exact ⟨w', eq, profile, state⟩
  · intro id' w' worker' isOpen
    by_cases same : id' = id
    · subst same
      rw [update_self] at worker'
      cases worker'
      exact isOpen.elim
    · rw [update_of_ne same] at worker'
      exact agree.job id' w' worker' isOpen

theorem step (effect : Effect jobs workers jobs' workers') : Agree jobs' workers' := by
  cases effect with
  | swept parse now => exact agree.sweep
  | opened parse now job kind fresh active alone =>
    exact (agree.sweep).add kind fresh active fun other mem => alone other (Jobs.mem_gcLocked.mp mem).1
  | moved id w phase f worker isOpen keeps state => exact agree.move worker isOpen keeps state
  | watched id w worker finished => exact agree.watch worker finished

end

end Agree

namespace System
variable {parse : String → Option Int} {s s' : System} {event : Event} {id : String} {w : Worker}

variable (agree : Agree s.jobs s.workers)
include agree

theorem recover_dead (worker : s.workers id = some w) (dead : w.phase = .dead) (time : String) :
    s.jobs.recoverAbandoned time s.running id =
      (s.jobs.markFailed time id unexpectedTaskError, if s.running = some w.profileId then none else s.running,
        true) := by
  obtain ⟨job, mem, rfl, profile, active⟩ := agree.open_job worker (by rw [dead]; trivial)
  have eq : s.jobs.find? (·.id = job.id) = some job := find?_key agree.unique mem
  simp [Jobs.recoverAbandoned, eq, active, profile]

theorem recover_finished (worker : s.workers id = some w) (finished : w.phase = .finished) (time : String) :
    s.jobs.recoverAbandoned time s.running id = (s.jobs, s.running, false) := by
  unfold Jobs.recoverAbandoned
  split
  · rfl
  next job hit =>
    have closed : ¬ w.phase.Open := by rw [finished]; exact not_false
    have eq : job.id = id := by simpa using find?_some hit
    rw [if_pos (agree.closed_job worker closed job (mem_of_find?_eq_some hit) eq)]

theorem Step.effect (step : Step parse s event s') : Effect s.jobs s.workers s'.jobs s'.workers := by
  cases step with
  | started now id createdAt profileId kind fresh ok =>
    obtain ⟨rfl, rfl, alone⟩ := Jobs.start_ok ok
    exact .opened parse now (.new id createdAt profileId kind) kind fresh rfl alone
  | refused now _ _ _ _ error =>
    cases Jobs.start_error error
    exact .swept parse now
  | get now | list now => exact .swept parse now
  | markRunning id _ worker phase =>
    exact .moved id _ .working _ worker (by rw [phase]; trivial) (fun _ => ⟨rfl, rfl⟩) fun _ _ => iff_of_true rfl trivial
  | begin id worker phase | endRun id worker phase => exact .walked worker (by rw [phase]; trivial) trivial
  | @succeed w id _ _ worker phase =>
    have isOpen : w.phase.Open := by rcases phase with phase | ⟨phase, -⟩ <;> (rw [phase]; trivial)
    exact .moved id _ .finished _ worker isOpen (fun _ => ⟨rfl, rfl⟩) fun _ _ => iff_of_false nofun not_false
  | @fail w id _ _ worker phase =>
    have isOpen : w.phase.Open := by rcases phase with phase | phase <;> (rw [phase]; trivial)
    exact .moved id _ .finished _ worker isOpen (fun _ => ⟨rfl, rfl⟩) fun _ _ => iff_of_false nofun not_false
  | die id worker alive => exact .walked worker alive.isOpen trivial
  | recover id time worker phase out =>
    rcases phase with finished | dead
    · rw [recover_finished agree worker finished] at out
      cases out
      exact .watched id _ worker finished
    · rw [recover_dead agree worker dead] at out
      cases out
      exact .moved id _ .monitored _ worker (by rw [dead]; trivial) (fun _ => ⟨rfl, rfl⟩)
        fun _ _ => iff_of_false nofun not_false

end System

end NastyEngine.Backup
