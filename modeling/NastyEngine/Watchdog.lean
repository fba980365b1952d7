import NastyEngine.Lib.Faults
import NastyEngine.Lib.Run

/-!
The watchdog's configuration is kept twice: saved by the engine, and rendered for the daemon, which reads
it when it starts. An update that does not go through puts both back. Only a daemon that the update found
running is restarted, and a status query that could not be made counts as one that is not running.
-/

namespace NastyEngine.Watchdog
open Lib Fallible

structure Host (Config : Type) where
  stored : Option (Except String Config)
  conf : Option String
  /-- What the daemon has read, if it runs. -/
  running : Option String

abbrev Op (Config : Type) := Fallible String (Faulty (Host Config))

inductive UpdateError where
  | refused (message : String)
  | notSaved (error : String) (rollback : Except String Unit)
  | notRestarted (error : String) (rollback : List String)

/-- `amend` sets the fields of an update and validates; `left` is what a failed restart leaves running. -/
structure Service (Config Update : Type) where
  default : Config
  amend : Update → Config → Except String Config
  renderConfig : Config → Except String String
  left : Host Config → Option String

variable {Config Update : Type}

/-- A temporary file that is renamed, as the one `saveConfig` writes. -/
def writeConfigContent (content : String) : Op Config Unit := external fun host => { host with conf := some content }

def saveConfig (config : Config) : Op Config Unit := external fun host => { host with stored := some (.ok config) }

def rollbackError (what : String) : Except String Unit → List String
  | .ok _ => []
  | .error e => [what ++ ": " ++ e]

/-- The answer does not report a failed rollback. -/
def Restored : Except UpdateError Config → Prop
  | .ok _ | .error (.refused _) => True
  | .error (.notSaved _ rollback) => rollback = .ok ()
  | .error (.notRestarted _ rollback) => rollback = []

namespace Service
variable (w : Service Config Update)

def restartAndVerify : Op Config Unit :=
  externalOr (fun host => { host with running := host.conf }) fun host => { host with running := w.left host }

/-- `systemctl is-active`; a query that fails answers as for a daemon that is not running. -/
def systemctlIsActive (answered : Bool) : Op Config Bool := observe fun host => answered && host.running.isSome

/-- What `update_config` finds out before it changes anything. -/
def prepare (update : Update) (answered : Bool) : Op Config (Bool × Config × Config × String × String) := do
  external id
  let stored ← observe (·.stored)
  let previous ← Fallible.ofExcept (stored.getD (.ok w.default))
  let candidate ← Fallible.ofExcept (w.amend update previous)
  let wasActive ← systemctlIsActive answered
  if wasActive then external id
  let candidateConfig ← Fallible.ofExcept (w.renderConfig candidate)
  let previousConfig ← Fallible.ofExcept (w.renderConfig previous)
  return (wasActive, candidate, previous, candidateConfig, previousConfig)

def replaceConfig (wasActive : Bool) (candidate previous : Config) (candidateConfig previousConfig : String) :
    Fallible UpdateError (Faulty (Host Config)) Config := do
  mapError .refused (writeConfigContent candidateConfig)
  match ← attempt (saveConfig candidate) with
  | .error e =>
    let rollback ← attempt (writeConfigContent previousConfig)
    throw (.notSaved e rollback)
  | .ok _ =>
    if wasActive then
      match ← attempt w.restartAndVerify with
      | .ok _ => return candidate
      | .error e =>
        let written ← attempt (writeConfigContent previousConfig)
        let saved ← attempt (saveConfig previous)
        let restarted ← attempt w.restartAndVerify
        throw (.notRestarted e (rollbackError "restore daemon config" written ++
          rollbackError "restore persisted config" saved ++ rollbackError "restart previous config" restarted))
    else return candidate

def updateConfig (update : Update) (answered : Bool) : Fallible UpdateError (Faulty (Host Config)) Config := do
  let (wasActive, candidate, previous, candidateConfig, previousConfig) ← mapError .refused (w.prepare update answered)
  w.replaceConfig wasActive candidate previous candidateConfig previousConfig

/-- Engine and daemon have the configuration. -/
structure Saved (config : Config) (host : Host Config) : Prop where
  stored : host.stored.getD (.ok w.default) = .ok config
  conf : ∃ content, w.renderConfig config = .ok content ∧ host.conf = some content

/-- The daemon runs with the file it has if it is to run. -/
def UpToDate (active : Bool) (host : Host Config) : Prop := host.running = if active then host.conf else none

def Settles (config : Config) (r : Except UpdateError Config) (host : Host Config) : Prop :=
  Restored r → w.Saved (r.toOption.getD config) host

/-- One call, whether the daemon's status could be asked for, and what was answered. -/
structure Call (Config Update : Type) where
  update : Update
  answered : Bool
  result : Except UpdateError Config

def Step (s : Host Config) (call : Call Config Update) (t : Host Config) : Prop :=
  ∃ faults rest, run (w.updateConfig call.update call.answered) ⟨s, faults⟩ = (call.result, ⟨t, rest⟩)

variable {w} {s t : Host Config} {active answered : Bool} {config candidate : Config} {update : Update}

theorem prepare_spec : Stays (· = s) (w.prepare update answered) (fun (wasActive, candidate, previous, new, old) _ =>
    wasActive = (answered && s.running.isSome) ∧ s.stored.getD (.ok w.default) = .ok previous ∧
      w.renderConfig candidate = .ok new ∧ w.renderConfig previous = .ok old) s := by
  refine .quiet (R := fun _ _ => True) (.external rfl rfl trivial) rfl fun _ _ => .observed rfl ?_
  refine .checked rfl fun previous stored => .checked rfl fun candidate _ => .observed rfl ?_
  dsimp only
  split
  · refine .quiet (R := fun _ _ => True) (.external rfl rfl trivial) rfl fun _ _ => ?_
    exact .checked rfl fun new rendered => .checked rfl fun old rendered' => .pure rfl ⟨rfl, stored, rendered, rendered'⟩
  · exact .checked rfl fun new rendered => .checked rfl fun old rendered' => .pure rfl ⟨rfl, stored, rendered, rendered'⟩

theorem under_restart {Q : Except String Unit → Host Config → Prop} (ok : Q (.ok ()) { s with running := s.conf })
    (failed : ∀ e, Q (.error e) { s with running := w.left s }) : Under w.restartAndVerify Q s := by
  intro faults
  rcases faults with _ | ⟨_ | e, rest⟩
  · exact ok
  · exact ok
  · exact failed e

/-- With the answer that the daemon's status query gave, right or not, the two copies agree at the end;
with the right one the daemon has read what they hold. -/
theorem replaceConfig_settles {new old : String} {wasActive : Bool} (active : Bool) (saved : w.Saved config s)
    (rendered : w.renderConfig candidate = .ok new) (rendered' : w.renderConfig config = .ok old) :
    Under (w.replaceConfig wasActive candidate config new old) (fun r t => w.Settles config r t ∧
      (Restored r → wasActive = active → UpToDate active s → UpToDate active t)) s := by
  refine under_bind (under_mapError (under_external ?_ fun _ => ⟨fun _ => saved, fun _ _ current => current⟩))
  refine under_attempt (under_external ?_ fun e => ?_)
  · cases wasActive with
    | false =>
      refine under_pure ⟨fun _ => ⟨rfl, new, rendered, rfl⟩, fun _ inactive current => ?_⟩
      subst inactive
      exact current
    | true =>
      refine under_attempt (under_restart (under_pure ⟨fun _ => ⟨rfl, new, rendered, rfl⟩, ?_⟩) fun e => ?_)
      · rintro _ rfl _
        rfl
      -- each of the three steps back may fail, and is then reported
      refine under_attempt (under_external ?_ fun _ => ?_) <;> refine under_attempt (under_external ?_ fun _ => ?_) <;>
        refine under_attempt (under_restart (under_throw ?_) fun _ => under_throw ?_)
      all_goals simp [rollbackError, Restored, Settles]
      exact ⟨⟨rfl, old, rendered', rfl⟩, fun isActive _ => by subst isActive; rfl⟩
  · refine under_attempt (under_external (under_throw ⟨fun _ => ?_, fun _ _ current => ?_⟩) fun _ =>
      under_throw ⟨nofun, nofun⟩)
    · exact ⟨saved.stored, old, rendered', rfl⟩
    · obtain ⟨content, rendered, conf⟩ := saved.conf
      cases rendered'.symm.trans rendered
      rw [UpToDate, conf] at current
      exact current

theorem updateConfig_settles (active : Bool) (update : Update) (answered : Bool) (saved : w.Saved config s) :
    Under (w.updateConfig update answered) (fun r t => w.Settles config r t ∧
      (Restored r → answered = true → UpToDate active s → UpToDate active t)) s := by
  refine under_bind (under_mapError (under_mono prepare_spec ?_))
  rintro (e | ⟨wasActive, candidate, previous, new, old⟩) t ⟨rfl, returned⟩
  · exact ⟨fun _ => saved, fun _ _ current => current⟩
  · obtain ⟨rfl, stored, rendered, rendered'⟩ := returned _ rfl
    cases saved.stored.symm.trans stored
    refine under_mono (replaceConfig_settles active saved rendered rendered') ?_
    rintro r u ⟨settles, kept⟩
    refine ⟨settles, fun restored asked current => kept restored ?_ current⟩
    obtain ⟨_, _, conf⟩ := saved.conf
    rw [UpToDate, conf] at current
    rw [asked, current]
    cases active <;> rfl

/-- Over any run of updates in which every rollback went through, the engine and the daemon's file hold the
configuration of the last update that succeeded. The daemon has read it if its status could be asked for in
each of the updates: one whose query fails saves a configuration that the running daemon does not get. -/
theorem updates_settle {calls : List (Call Config Update)} (ran : Run w.Step s calls t) (saved : w.Saved config s)
    (current : UpToDate active s) (restored : ∀ call ∈ calls, Restored call.result) :
    w.Saved (calls.foldl (fun config call => call.result.toOption.getD config) config) t ∧
      ((∀ call ∈ calls, call.answered = true) → UpToDate active t) := by
  refine Run.history (I := fun calls t => (∀ call ∈ calls, Restored call.result) →
    w.Saved (calls.foldl (fun config call => call.result.toOption.getD config) config) t ∧
      ((∀ call ∈ calls, call.answered = true) → UpToDate active t))
    (fun _ => ⟨saved, fun _ => current⟩) ?_ ran restored
  intro calls s call t ih ⟨faults, rest, ended⟩ restored
  obtain ⟨saved, current⟩ := ih fun call mem => restored call (List.mem_append_left _ mem)
  have settles := updateConfig_settles active call.update call.answered saved faults
  rw [ended] at settles
  rw [List.foldl_append]
  refine ⟨settles.1 (restored call (by simp)), fun asked => ?_⟩
  exact settles.2 (restored call (by simp)) (asked call (by simp))
    (current fun call mem => asked call (List.mem_append_left _ mem))

def plain : Service String String := { default := "", amend := fun new _ => .ok new, renderConfig := .ok, left := fun _ => none }

/-- An update that goes through, one whose daemon exits and is brought back, and one whose query fails. -/
theorem updates_settle_exited : ∃ s t, Run plain.Step ⟨some (.ok "a"), some "a", some "a"⟩
      [⟨"b", true, .ok "b"⟩, ⟨"c", true, .error (.notRestarted "exited" [])⟩] s ∧
    s.stored = some (.ok "b") ∧ s.running = some "b" ∧ plain.Step s ⟨"d", false, .ok "d"⟩ t ∧
    t.stored = some (.ok "d") ∧ t.running = some "b" := by
  have ran : Run plain.Step ⟨some (.ok "a"), some "a", some "a"⟩
      (([] ++ [⟨"b", true, .ok "b"⟩]) ++ [⟨"c", true, .error (.notRestarted "exited" [])⟩]) _ :=
    .snoc (.snoc (.nil _) ⟨[], _, rfl⟩) ⟨[none, none, none, none, some "exited"], _, rfl⟩
  have current : UpToDate true (⟨some (.ok "a"), some "a", some "a"⟩ : Host String) := rfl
  have holds := updates_settle ran ⟨rfl, "a", rfl, rfl⟩ current (by simp [Restored])
  exact ⟨_, _, ran, rfl, holds.2 (by simp), ⟨[], _, rfl⟩, rfl, rfl⟩

end Service

end NastyEngine.Watchdog
