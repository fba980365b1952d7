import NastyEngine.Network.Effects

/-!
A request that a check refuses leaves no trace, unless the layered validator refuses it after the
rollback snapshot was written.
-/

namespace NastyEngine.Network
open Lib Fallible

structure World.Untouched (before after : World) : Prop where
  networking : after.files .networking = before.files .networking
  pendingRevert : after.files .pendingRevert = before.files .pendingRevert
  transactions : after.transactions = before.transactions

/-- The request passes every check before the rollback window opens, gets a window, and is then
refused by the layered validator. -/
def LateRejection (w : World) (request : UpdateRequest) (mgmtIface : Option String) : Prop :=
  ∃ config, admission request.config w.loadConfig mgmtIface w.topology w.live = .ok config ∧
    (rollbackSecs request.confirmWithinSecs (classifyRisk w.loadConfig config mgmtIface)).isSome = true ∧
    ∃ e, validate (toLayered config) = .error e

def ServiceError.IsFailure : ServiceError → Prop
  | .rejected _ => False
  | .failed _ => True

variable {config : NetworkConfig} {e : String}

theorem persistConfig_rejects (refused : validate (toLayered config) = .error e) (w : World) :
    run (persistConfig config) w = (.error (.rejected ("network config rejected by validator: " ++ e)), w) := by
  refine run_bind_error ?_
  rw [run_ofExcept, checkLayered, refused]
  rfl

section
variable (accepted : validate (toLayered config) = .ok ())
include accepted

theorem persistConfig_raises : Raises ServiceError.IsFailure (persistConfig config) := by
  refine raises_bind ?_ fun _ => raises_bind ?_ fun _ => raises_bind ?_ fun _ => ?_
  · refine raises_ofOk fun w => ⟨(), w, ?_⟩
    rw [run_ofExcept, checkLayered, accepted]
    rfl
  · exact raises_ofOk fun w => ⟨_, _, run_ignoreError _ w⟩
  · exact raises_mapError (fun _ => trivial)
  · exact raises_ofOk fun w => ⟨_, _, run_ignoreError _ w⟩

variable {mgmtIface : Option String} {liveNames : List String}

theorem updateWithWindow_raises {prev : NetworkConfig} {risk : Option String} {secs : Nat} : Raises ServiceError.IsFailure
      (updateWithWindow config prev mgmtIface liveNames risk secs) := by
  refine raises_bind (raises_mapError (fun _ => trivial)) fun _ =>
    raises_bind (persistConfig_raises accepted) fun _ =>
    raises_bind (raises_mapError (fun _ => trivial)) fun _ => ?_
  exact raises_ofOk fun w => ⟨_, _, rfl⟩

theorem updateDirectly_raises : Raises ServiceError.IsFailure (updateDirectly config mgmtIface liveNames) := by
  refine raises_bind (persistConfig_raises accepted) fun _ =>
    raises_bind (raises_mapError (fun _ => trivial)) fun _ => ?_
  exact raises_ofOk fun w => ⟨_, _, rfl⟩

end

theorem updateDirectly_rejects (refused : validate (toLayered config) = .error e) (mgmtIface : Option String)
    (liveNames : List String) (w : World) :
    run (updateDirectly config mgmtIface liveNames) w =
      (.error (.rejected ("network config rejected by validator: " ++ e)), w) :=
  run_bind_error (persistConfig_rejects refused w)

theorem updateWithWindow_rejects (refused : validate (toLayered config) = .error e) (prev : NetworkConfig)
    (mgmtIface : Option String) (liveNames : List String) (risk : Option String) (secs : Nat)
    {w : World} (quiet : w.faults = []) :
    run (updateWithWindow config prev mgmtIface liveNames risk secs) w =
      (.error (.rejected ("network config rejected by validator: " ++ e)), w.written .pendingRevert (.config prev)) := by
  have snapshot := Ensures.mapError
    (f := fun e => ServiceError.failed ("write /var/lib/nasty/networking.json.pending-revert: " ++ e))
    (ensures_atomicWrite (K := fun _ => True) quiet .pendingRevert (.config prev) trivial trivial)
  obtain ⟨-, a, t, ran, rfl⟩ := snapshot
  unfold updateWithWindow
  rw [run_bind_ok ran]
  exact run_bind_error (persistConfig_rejects refused _)

section idle
variable {w : World} {request : UpdateRequest} {mgmtIface : Option String} {config : NetworkConfig}

theorem refuseWhenBusy_idle (idle : w.transactions = []) (clear : w.files .pendingRevert = none) :
    refuseWhenBusy w = .ok () := by
  simp [refuseWhenBusy, idle, clear]

theorem update_refused (free : refuseWhenBusy w = .ok ())
    (refused : admission request.config w.loadConfig mgmtIface w.topology w.live = .error e) :
    run (update request mgmtIface) w = (.error (.rejected e), w) := by
  unfold update
  rw [run_bind_ok run_read, run_bind_ok (by rw [run_ofExcept, free]), run_bind_error (by rw [run_ofExcept, refused]; rfl)]

theorem update_admitted (free : refuseWhenBusy w = .ok ())
    (ok : admission request.config w.loadConfig mgmtIface w.topology w.live = .ok config)
    {window : Option Nat} (opened : rollbackSecs request.confirmWithinSecs
      (classifyRisk w.loadConfig config mgmtIface) = window) :
    run (update request mgmtIface) w = run (commitUpdate config w.loadConfig mgmtIface (w.live.map (·.name))
        (classifyRisk w.loadConfig config mgmtIface) window) w := by
  unfold update
  rw [run_bind_ok run_read, run_bind_ok (by rw [run_ofExcept, free]), run_bind_ok (by rw [run_ofExcept, ok]; rfl)]
  dsimp only
  rw [opened]

end idle

/-- From an idle service, whatever faults the file system has in store: a refused request leaves
`networking.json`, the snapshot and the transaction table as they were, unless the refusal comes
from the layered validator after a rollback window was opened. -/
theorem update_refusal_untouched_iff (w : World) (idle : w.transactions = [])
    (clear : w.files .pendingRevert = none) (request : UpdateRequest) (mgmtIface : Option String) :
    (∀ faults message t, run (update request mgmtIface) { w with faults } =
        (.error (.rejected message), t) → w.Untouched t) ↔
      ¬ LateRejection w request mgmtIface := by
  have free : ∀ faults, refuseWhenBusy { w with faults } = .ok () := fun faults =>
    refuseWhenBusy_idle idle clear
  constructor
  · rintro untouched ⟨config, admitted, window, e, refused⟩
    obtain ⟨secs, opened⟩ := Option.isSome_iff_exists.mp window
    have late := (update_admitted (free []) admitted opened).trans (updateWithWindow_rejects refused _ _ _ _ _ rfl)
    have file := (untouched [] _ _ late).pendingRevert
    rw [clear] at file
    simp [World.written] at file
  · intro early faults message t refused
    cases admitted : admission request.config w.loadConfig mgmtIface w.topology w.live with
    | error e =>
      rw [update_refused (free faults) admitted] at refused
      obtain ⟨-, rfl⟩ := Prod.mk.inj refused
      exact ⟨rfl, rfl, rfl⟩
    | ok config =>
      cases opened : rollbackSecs request.confirmWithinSecs (classifyRisk w.loadConfig config mgmtIface) with
      | none =>
        rw [update_admitted (free faults) admitted opened] at refused
        cases validated : validate (toLayered config) with
        | error e =>
          rw [commitUpdate, updateDirectly_rejects validated] at refused
          obtain ⟨-, rfl⟩ := Prod.mk.inj refused
          exact ⟨rfl, rfl, rfl⟩
        | ok _ => exact (updateDirectly_raises validated _ _ _ refused).elim
      | some secs =>
        rw [update_admitted (free faults) admitted opened] at refused
        cases validated : validate (toLayered config) with
        | error e => exact absurd ⟨config, admitted, by rw [opened]; rfl, e, validated⟩ early
        | ok _ => exact (updateWithWindow_raises validated _ _ _ refused).elim

def emptyBond : UpdateRequest :=
  { config := { bonds := [{ name := "bond0", members := [], mode := .lacp }] }
    confirmWithinSecs := some 60 }

theorem update_refusal_emptyBond : (run (update emptyBond none) {}).1 = .error (.rejected "Bond 'bond0' has no members") ∧
      ∀ faults message t, run (update emptyBond none) { ({} : World) with faults } =
        (.error (.rejected message), t) → World.Untouched {} t := by
  refine ⟨by decide, (update_refusal_untouched_iff {} rfl rfl emptyBond none).mpr ?_⟩
  rintro ⟨config, admitted, -⟩
  have refused : admission emptyBond.config (World.loadConfig {}) none {} [] =
    .error "Bond 'bond0' has no members" := by decide
  cases refused.symm.trans admitted

def danglingVlan : UpdateRequest :=
  { config := { vlans := [{ parent := "eth9", vlanId := 5 }] }, confirmWithinSecs := some 60 }

/-- The request is refused, its snapshot stays, and the next request is turned away because of it. -/
theorem update_refusal_blocks_next : (run (update danglingVlan none) {}).1 = .error (.rejected
        "network config rejected by validator: vlan 'eth9.5' references missing parent 'eth9'") ∧
      (run (update danglingVlan none) {}).2.files .pendingRevert = some (.config {}) ∧
      (run (update { config := {} } none) (run (update danglingVlan none) {}).2).1 =
        .error (.failed "a pending network rollback snapshot requires recovery before another update") := by
  decide

end NastyEngine.Network
