import NastyEngine.Auth.Accounts
import NastyEngine.Auth.Commit
import NastyEngine.Lib.Run
import Mathlib.Data.List.Induction

/-! The service is started on a disk and then serves calls. -/

namespace NastyEngine.Auth
open Lib Fallible

inductive Starts (d : Disk) : Service → Prop
  | intro {faults : Faults} {temp : String} {hashed : Except AuthError String} {state : AuthState} {disk : Disk}
      (ran : run (initializeState faults temp hashed) d = (.ok state, disk)) : Starts d ⟨state, disk⟩

/-- The disks that a first boot finds: no `auth.json`, or what an attempt to start has left. -/
inductive Disk.Installed : Disk → Prop
  | fresh {d : Disk} (missing : d.auth = none) : Installed d
  | tried {d : Disk} (installed : Installed d) (faults : Faults) (temp : String)
      (hashed : Except AuthError String) (n : Nat) : Installed (cut n (initializeState faults temp hashed) d)

namespace Service
variable (verifyPassword : String → String → Except AuthError Unit)

inductive Step : Service → Option Op → Service → Prop
  | call (svc : Service) (op : Op) (temp : String) (faults : Faults) :
      Step svc (some op) (execute verifyPassword op temp faults svc).2
  | cancelled {svc : Service} {op : Op} {next : AuthState} (planned : op.plan verifyPassword svc.state = .ok next)
      (temp : String) (faults : Faults) (n : Nat) :
      Step svc (some op) { svc with disk := cut n (writeTemp faults temp next) svc.disk }
  | killed {svc svc' : Service} {op : Op} {next : AuthState}
      (planned : op.plan verifyPassword svc.state = .ok next) (temp : String) (faults : Faults) (n : Nat)
      (starts : Starts (cut n (saveStateWithTemp faults temp next true) svc.disk) svc') :
      Step svc (some op) svc'
  | restarted {svc svc' : Service} (starts : Starts svc.disk svc') : Step svc none svc'

structure Agrees (svc : Service) : Prop where
  loads : loadStateFrom svc.disk.auth (some 0) = .ok (some svc.state)
  initialized : svc.state.initialized = true

end Service

variable {faults : Faults} {temp : String} {hashed : Except AuthError String} {d : Disk} {state : AuthState}

@[simp] theorem load_saved {state : AuthState} :
    loadStateFrom (some { content := some state }) (some 0) = .ok (some state) := by
  simp [loadStateFrom, require, okOr, bind, Except.bind, pure, Except.pure]

theorem initialize_loaded (loads : loadStateFrom d.auth (some 0) = .ok (some state))
    (initialized : state.initialized = true) :
    run (initializeState faults temp hashed) d = (.ok state, d) := by
  unfold initializeState
  rw [run_bind_ok run_read, loads, run_bind_ok (run_ofExcept _ d), run_bind_ok]
  · rfl
  · rw [run_ofExcept, require, if_pos initialized]

theorem initialize_along {J : Option StateFile → Prop} (old : J d.auth)
    (new : ∀ hash, J (some { content := some (firstBoot hash) })) :
    Along (fun d => J d.auth) (initializeState faults temp hashed) d := by
  refine along_read_bind old (along_ofExcept_bind old fun found _ => ?_)
  cases found with
  | some state => exact along_ofExcept_bind old fun _ _ => old
  | none =>
    refine along_ofExcept_bind old fun hash _ => ?_
    exact .seq (.mapError (save_along old (new hash) false)) fun _ _ _ either => either

theorem installed_auth (installed : d.Installed) :
    d.auth = none ∨ ∃ hash, d.auth = some { content := some (firstBoot hash) } := by
  induction installed with
  | fresh missing => exact .inl missing
  | tried _ faults temp hashed n ih =>
    exact along_cut (initialize_along (J := fun auth => auth = none ∨
      ∃ hash, auth = some { content := some (firstBoot hash) }) ih fun hash => .inr ⟨hash, rfl⟩)

variable {svc : Service}

theorem starts_cases (starts : Starts d svc) :
    (loadStateFrom d.auth (some 0) = .ok (some svc.state) ∧ svc.state.initialized = true ∧ svc.disk = d) ∨
      (loadStateFrom d.auth (some 0) = .ok none ∧ ∃ hash, svc.state = firstBoot hash ∧
        svc.disk.auth = some { content := some (firstBoot hash) }) := by
  obtain ⟨ran⟩ := starts
  unfold initializeState at ran
  obtain ⟨found, loaded, ran⟩ := ok_of_ofExcept_bind ran
  cases found with
  | some state =>
    obtain ⟨_, checked, ran⟩ := ok_of_ofExcept_bind ran
    cases ran
    exact .inl ⟨loaded, require_ok checked, rfl⟩
  | none =>
    obtain ⟨hash, -, ran⟩ := ok_of_ofExcept_bind ran
    obtain ⟨_, _, saved, ran⟩ := ok_of_bind ran
    cases ran
    exact .inr ⟨loaded, hash, rfl, save_ok (ok_of_mapError saved)⟩

theorem starts_agrees (starts : Starts d svc) : svc.Agrees := by
  rcases starts_cases starts with ⟨loads, initialized, eq⟩ | ⟨-, hash, booted, saved⟩
  · exact ⟨eq ▸ loads, initialized⟩
  · refine ⟨?_, booted ▸ rfl⟩
    rw [saved, booted]
    exact load_saved

theorem starts_installed (installed : d.Installed) (starts : Starts d svc) : ∃ hash, svc.state = firstBoot hash := by
  rcases starts_cases starts with ⟨loads, -, -⟩ | ⟨-, hash, booted, -⟩
  · rcases installed_auth installed with missing | ⟨hash, eq⟩
    · rw [missing] at loads
      cases loads
    · rw [eq, load_saved] at loads
      exact ⟨hash, (Option.some.inj (Except.ok.inj loads)).symm⟩
  · exact ⟨hash, booted⟩

theorem starts_again (starts : Starts d svc)
    (loads : loadStateFrom d.auth (some 0) = .ok (some state)) : svc.state = state := by
  rcases starts_cases starts with ⟨loaded, -, -⟩ | ⟨missing, -⟩
  · rw [loaded] at loads
    cases loads
    rfl
  · rw [missing] at loads
    cases loads

section Calls
variable {verifyPassword : String → String → Except AuthError Unit} {op : Op} {svc : Service} {next : AuthState}

theorem plan_initialized (op : Op) (state : AuthState) :
    Returns (·.initialized = state.initialized) (op.plan verifyPassword state) := by
  cases op <;> repeat' first | exact returns_ok rfl | refine returns_bind fun _ => ?_

theorem execute_refused {e : AuthError} (refused : op.plan verifyPassword svc.state = .error e) :
    execute verifyPassword op temp faults svc = (.error e, svc) := by
  unfold execute
  rw [refused]

theorem execute_before (plan : op.plan verifyPassword svc.state = .ok next) (fails : FailsBefore faults temp svc.disk) :
    ∃ e disk, execute verifyPassword op temp faults svc = (.error (.state e), { svc with disk }) ∧
      disk.auth = svc.disk.auth := by
  obtain ⟨e, disk, saved, eq⟩ := save_before fails next
  refine ⟨e, disk, ?_, eq⟩
  unfold execute commitState
  simp only [plan, saved]
  rfl

theorem execute_after (plan : op.plan verifyPassword svc.state = .ok next) (works : ¬ FailsBefore faults temp svc.disk) :
    ∃ answer disk, execute verifyPassword op temp faults svc = (answer, ⟨next, disk⟩) ∧
      disk.auth = some { content := some next } ∧ (answer = .ok () ↔ ¬ FailsAfter faults) := by
  obtain ⟨result, disk, saved, written, ended⟩ := save_after works next
  unfold execute commitState
  simp only [plan, saved]
  rcases ended with ⟨synced, rfl⟩ | ⟨unsynced, e, rfl⟩
  · exact ⟨.ok (), disk, rfl, written, by simp [synced]⟩
  · exact ⟨.error (.state e), disk, rfl, written, by simp [unsynced]⟩

theorem execute_ok {svc' : Service} (returned : execute verifyPassword op temp faults svc = (.ok (), svc')) :
    op.plan verifyPassword svc.state = .ok svc'.state := by
  cases plan : op.plan verifyPassword svc.state with
  | error e =>
    rw [execute_refused plan] at returned
    cases returned
  | ok next =>
    by_cases fails : FailsBefore faults temp svc.disk
    · obtain ⟨e, disk, executed, -⟩ := execute_before plan fails
      rw [executed] at returned
      cases returned
    · obtain ⟨answer, disk, executed, -⟩ := execute_after plan fails
      rw [executed] at returned
      cases returned
      rfl

theorem execute_state {op : Op} {temp : String} {faults : Faults} (agrees : svc.Agrees) :
    (execute verifyPassword op temp faults svc).2.Agrees ∧
      ((execute verifyPassword op temp faults svc).2.state = svc.state ∨
        op.plan verifyPassword svc.state = .ok (execute verifyPassword op temp faults svc).2.state) := by
  cases plan : op.plan verifyPassword svc.state with
  | error e =>
    rw [execute_refused plan]
    exact ⟨agrees, .inl rfl⟩
  | ok next =>
    by_cases fails : FailsBefore faults temp svc.disk
    · obtain ⟨e, disk, ran, eq⟩ := execute_before plan fails
      rw [ran]
      exact ⟨⟨eq ▸ agrees.loads, agrees.initialized⟩, .inl rfl⟩
    · obtain ⟨answer, disk, ran, written, -⟩ := execute_after plan fails
      rw [ran]
      refine ⟨⟨?_, (plan_initialized op _ _ plan).trans agrees.initialized⟩, .inr rfl⟩
      rw [written]
      exact load_saved

theorem Service.Step.effect {svc' : Service} {label : Option Op} (agrees : svc.Agrees)
    (step : Service.Step verifyPassword svc label svc') :
    svc'.Agrees ∧ (svc'.state = svc.state ∨
      ∃ op, label = some op ∧ op.plan verifyPassword svc.state = .ok svc'.state) := by
  cases step with
  | call op temp faults =>
    obtain ⟨agrees', unchanged | plan⟩ := execute_state agrees
    · exact ⟨agrees', .inl unchanged⟩
    · exact ⟨agrees', .inr ⟨op, rfl, plan⟩⟩
  | @cancelled op next plan temp faults n =>
    have eq : (cut n (writeTemp faults temp next) svc.disk).auth = svc.disk.auth :=
      along_cut (writeTemp_along (J := (· = svc.disk.auth)) rfl)
    exact ⟨⟨eq ▸ agrees.loads, agrees.initialized⟩, .inl rfl⟩
  | @killed _ op next plan temp faults n starts =>
    have either : (cut n (saveStateWithTemp faults temp next true) svc.disk).auth = svc.disk.auth ∨
        (cut n (saveStateWithTemp faults temp next true) svc.disk).auth = some { content := some next } :=
      along_cut (save_along (J := fun auth =>
        auth = svc.disk.auth ∨ auth = some { content := some next }) (.inl rfl) (.inr rfl) true)
    refine ⟨starts_agrees starts, ?_⟩
    rcases either with old | new
    · exact .inl (starts_again starts (old ▸ agrees.loads))
    · have loaded : svc'.state = next := starts_again starts (new ▸ load_saved)
      exact .inr ⟨op, rfl, loaded ▸ plan⟩
  | restarted starts => exact ⟨starts_agrees starts, .inl (starts_again starts agrees.loads)⟩

theorem Service.agrees_run {first : Service} {labels : List (Option Op)} (starts : Starts d first)
    (ran : Run (Service.Step verifyPassword) first labels svc) : svc.Agrees :=
  Run.invariant (starts_agrees starts) (fun _ _ _ agrees step => (step.effect agrees).1) ran

end Calls

section Runs
variable (verifyPassword : String → String → Except AuthError Unit)

def Service.StepWhen (Meets : AuthState → Op → Prop) (svc : Service) (label : Option Op) (svc' : Service) : Prop :=
  Service.Step verifyPassword svc label svc' ∧ ∀ op ∈ label, Meets svc.state op

variable {verifyPassword}

theorem Service.invariant {I : AuthState → Prop} {Meets : AuthState → Op → Prop}
    (kept : ∀ op s t, I s → Meets s op → op.plan verifyPassword s = .ok t → I t)
    {first svc : Service} {labels : List (Option Op)} (agrees : first.Agrees) (holds : I first.state)
    (ran : Run (Service.StepWhen verifyPassword Meets) first labels svc) : I svc.state := by
  have both : svc.Agrees ∧ I svc.state := by
    refine Run.invariant (I := fun svc => svc.Agrees ∧ I svc.state) ⟨agrees, holds⟩ ?_ ran
    intro s label t ⟨agrees, holds⟩ ⟨step, meets⟩
    obtain ⟨agrees', unchanged | ⟨op, rfl, plan⟩⟩ := step.effect agrees
    · exact ⟨agrees', unchanged ▸ holds⟩
    · exact ⟨agrees', kept op s.state t.state holds (meets op rfl) plan⟩
  exact both.2

end Runs

def Service.Restartable (svc : Service) : Prop :=
  ∀ faults temp hashed, run (initializeState faults temp hashed) svc.disk = (.ok svc.state, svc.disk)

theorem Service.Agrees.restartable (agrees : svc.Agrees) : svc.Restartable :=
  fun _ _ _ => initialize_loaded agrees.loads agrees.initialized

/-- A refused operation and one whose save fails change nothing; one whose save reaches the disk is in force in memory
and on disk, also where the answer is an error. -/
theorem execute_commits {verifyPassword : String → String → Except AuthError Unit} {d : Disk}
    {first svc : Service} {labels : List (Option Op)} (starts : Starts d first)
    (ran : Run (Service.Step verifyPassword) first labels svc) (op : Op) (temp : String) (faults : Faults) :
    ∃ answer svc', execute verifyPassword op temp faults svc = (answer, svc') ∧ svc'.Restartable ∧
      match op.plan verifyPassword svc.state with
      | .error e => answer = .error e ∧ svc' = svc
      | .ok next =>
        (FailsBefore faults temp svc.disk →
          (∃ e, answer = .error (.state e)) ∧ svc'.state = svc.state ∧ svc'.disk.auth = svc.disk.auth) ∧
        (¬ FailsBefore faults temp svc.disk → svc'.state = next ∧ svc'.disk.auth = some { content := some next } ∧
            (answer = .ok () ↔ ¬ FailsAfter faults)) := by
  have agrees : svc.Agrees := Service.agrees_run starts ran
  have restartable : (execute verifyPassword op temp faults svc).2.Restartable :=
    (execute_state agrees).1.restartable
  refine ⟨(execute verifyPassword op temp faults svc).1, (execute verifyPassword op temp faults svc).2, rfl,
    restartable, ?_⟩
  cases planned : op.plan verifyPassword svc.state with
  | error e =>
    rw [execute_refused planned]
    exact ⟨rfl, rfl⟩
  | ok next =>
    constructor
    · intro fails
      obtain ⟨e, disk, executed, same⟩ := execute_before planned fails
      rw [executed]
      exact ⟨⟨e, rfl⟩, rfl, same⟩
    · intro works
      obtain ⟨answer, disk, executed, written, ended⟩ := execute_after planned works
      rw [executed]
      exact ⟨rfl, written, ended⟩

def booted (hash : String) : Service := ⟨firstBoot hash, (run (initializeState (fun _ => none) "0" (.ok hash)) {}).2⟩

theorem starts_booted {hash : String} : Starts {} (booted hash) :=
  .intro (show run (initializeState (fun _ => none) "0" (.ok hash)) {} = _ from rfl)

def Service.serve (verifyPassword : String → String → Except AuthError Unit) (svc : Service) (ops : List Op) :
    Service :=
  ops.foldl (fun svc op => (execute verifyPassword op "0" (fun _ => none) svc).2) svc

section
variable (verifyPassword : String → String → Except AuthError Unit)

theorem Service.serve_runWhen {svc : Service}
    {Meets : AuthState → Op → Prop} {ops : List Op} (meets : ∀ op ∈ ops, ∀ s, Meets s op) :
    Run (Service.StepWhen verifyPassword Meets) svc (ops.map some) (svc.serve verifyPassword ops) := by
  induction ops using List.reverseRecOn with
  | nil => exact .nil svc
  | append_singleton ops op ih =>
    have last : Meets (svc.serve verifyPassword ops).state op := meets op (by simp) _
    rw [List.map_append, Service.serve, List.foldl_append]
    refine .snoc (ih fun op mem => meets op (List.mem_append_left _ mem)) ⟨.call _ op "0" _, ?_⟩
    intro op' same
    cases same
    exact last

theorem Service.serve_run {svc : Service}
    (ops : List Op) : Run (Service.Step verifyPassword) svc (ops.map some) (svc.serve verifyPassword ops) := by
  have ran : Run (Service.StepWhen verifyPassword fun _ _ => True) svc (ops.map some)
      (svc.serve verifyPassword ops) := Service.serve_runWhen verifyPassword fun _ _ _ => trivial
  exact ran.mono fun _ _ _ step => step.1

end

theorem execute_commits_at_boot : Starts {} (booted "hash") ∧ ∃ answer svc',
      execute (fun _ _ => .ok ()) (.mintSessionForWebauthn "admin" "10.0.0.2" 7 "token") "1"
        (fun point => if point = .syncParent then some "Input/output error" else none) (booted "hash") =
          (answer, svc') ∧ svc'.Restartable ∧ svc'.state.sessions.map (·.token) = ["token"] ∧ answer ≠ .ok () := by
  refine ⟨starts_booted, ?_⟩
  have ran : Run (Service.Step fun _ _ => .ok ()) (booted "hash") [] (booted "hash") := .nil _
  obtain ⟨answer, svc', executed, restartable, -, after⟩ := execute_commits starts_booted ran
    (.mintSessionForWebauthn "admin" "10.0.0.2" 7 "token") "1"
    (fun point => if point = .syncParent then some "Input/output error" else none)
  refine ⟨answer, svc', executed, restartable, ?_⟩
  obtain ⟨same, -, ended⟩ := after (by unfold FailsBefore FailsWriting; decide)
  rw [same]
  exact ⟨rfl, fun ok => ended.mp ok (by unfold FailsAfter; decide)⟩

end NastyEngine.Auth
