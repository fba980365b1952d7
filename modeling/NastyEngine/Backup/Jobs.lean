import NastyEngine.Lib.Lists
import Mathlib.Data.List.Sort

/-!
Every function here runs under the lock of the registry. Texts of moments are read back by `parse`,
the library's RFC 3339 parser; ids of new jobs and texts of moments are arguments.
-/

namespace NastyEngine.Backup
open Lib

inductive BackupJobKind where
  | initRepo
  | runBackup
  | checkRepo
  | restore
  deriving DecidableEq

inductive BackupJobState where
  | pending
  | running
  | succeeded
  | failed
  deriving DecidableEq

def BackupJobState.isTerminal : BackupJobState → Bool
  | .succeeded | .failed => true
  | .pending | .running => false

structure BackupJob where
  id : String
  profileId : String
  kind : BackupJobKind
  state : BackupJobState := .pending
  createdAt : String
  startedAt : Option String := none
  finishedAt : Option String := none
  result : Option String := none
  error : Option String := none
  deriving DecidableEq

def BackupJob.new (id createdAt profileId : String) (kind : BackupJobKind) : BackupJob :=
  { id, profileId, kind, createdAt }

inductive JobError where
  | alreadyRunning (profileId jobId : String)
  deriving DecidableEq

def jobRetention : Int := 3600000000000

def unexpectedTaskError : String := "Backup operation stopped unexpectedly; retry the operation"

abbrev Jobs := List BackupJob

namespace Jobs

def modify (jobs : Jobs) (id : String) (f : BackupJob → BackupJob) : Jobs := modifyKey BackupJob.id id f jobs

section Collect
variable (parse : String → Option Int)

def keeps (now : Int) (job : BackupJob) : Bool :=
  !job.state.isTerminal ||
    match job.finishedAt.bind parse with
    | some ts => now - jobRetention < ts
    | none => true

def gcLocked (now : Int) (jobs : Jobs) : Jobs := jobs.filter (keeps parse now)

def start (now : Int) (fresh createdAt : String) (jobs : Jobs) (profileId : String) (kind : BackupJobKind) :
    Jobs × Except JobError BackupJob :=
  let jobs := gcLocked parse now jobs
  match jobs.find? fun job => job.profileId = profileId ∧ job.state.isTerminal = false with
  | some existing => (jobs, .error (.alreadyRunning profileId existing.id))
  | none =>
    let job := BackupJob.new fresh createdAt profileId kind
    (jobs ++ [job], .ok job)

def get (now : Int) (jobs : Jobs) (id : String) : Jobs × Option BackupJob :=
  let jobs := gcLocked parse now jobs
  (jobs, jobs.find? (·.id = id))

def list (now : Int) (jobs : Jobs) (profileId : Option String) : Jobs × List BackupJob :=
  let jobs := gcLocked parse now jobs
  (jobs, (jobs.filter fun job => profileId.all (job.profileId = ·)).mergeSort fun a b => b.createdAt ≤ a.createdAt)

end Collect

section
variable (time : String) (jobs : Jobs)

def markRunning (id : String) : Jobs :=
  jobs.modify id fun job => { job with state := .running, startedAt := some time }

def markSucceeded (id result : String) : Jobs :=
  jobs.modify id fun job => { job with state := .succeeded, finishedAt := some time, result := some result }

def markFailed (id error : String) : Jobs :=
  jobs.modify id fun job => { job with state := .failed, finishedAt := some time, error := some error }

/-- The registry and the marker of the running profile are locked together. -/
def recoverAbandoned (running : Option String) (id : String) : Jobs × Option String × Bool :=
  match jobs.find? (·.id = id) with
  | none => (jobs, running, false)
  | some job =>
    if job.state.isTerminal then (jobs, running, false)
    else
      (markFailed time jobs id unexpectedTaskError, if running = some job.profileId then none else running, true)

end

section Facts
variable {jobs : Jobs} {job : BackupJob} {id : String} {f : BackupJob → BackupJob}
  {parse : String → Option Int} {now : Int}

theorem mem_gcLocked : job ∈ gcLocked parse now jobs ↔ job ∈ jobs ∧ keeps parse now job = true := List.mem_filter

theorem keeps_of_not_terminal (active : job.state.isTerminal = false) : keeps parse now job = true := by
  simp [keeps, active]

def Keeps (f : BackupJob → BackupJob) : Prop := ∀ job, (f job).id = job.id ∧ (f job).profileId = job.profileId

theorem map_id_modify (keeps : Keeps f) : (jobs.modify id f).map (·.id) = jobs.map (·.id) :=
  map_modifyKey fun job eq => (keeps job).1.trans eq

@[simp] theorem modify_self : (jobs.modify id fun job => job) = jobs := by simp [modify, modifyKey]

variable {createdAt : String} {profileId : String} {kind : BackupJobKind}

theorem start_ok {fresh : String} {after : Jobs}
    (ok : jobs.start parse now fresh createdAt profileId kind = (after, .ok job)) :
    job = BackupJob.new fresh createdAt profileId kind ∧ after = jobs.gcLocked parse now ++ [job] ∧
      ∀ other ∈ jobs, other.profileId = profileId → other.state.isTerminal = true := by
  unfold start at ok
  dsimp only at ok
  split at ok
  · cases ok
  next none =>
    cases ok
    refine ⟨rfl, rfl, fun other mem eq => ?_⟩
    by_contra active
    have active : other.state.isTerminal = false := by simpa using active
    have kept : other ∈ jobs.gcLocked parse now := mem_gcLocked.mpr ⟨mem, keeps_of_not_terminal active⟩
    exact List.find?_eq_none.mp none other kept (decide_eq_true ⟨eq, active⟩)

theorem start_error {fresh : String} {after : Jobs} {e : JobError}
    (error : jobs.start parse now fresh createdAt profileId kind = (after, .error e)) :
    after = jobs.gcLocked parse now := by
  unfold start at error
  dsimp only at error
  split at error
  · cases error
    rfl
  · cases error

end Facts

end Jobs

end NastyEngine.Backup
