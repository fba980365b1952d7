import NastyEngine.Network.Converge
import NastyEngine.Network.Lifecycle

/-!
The rollback renders the snapshot again, with the live MACs and without a management interface. The profiles come back
as they were when this picks the same MAC for every master as whatever rendered them last: the update, an earlier
rollback, or a start of the engine.
-/

namespace NastyEngine.Network
open Lib Fallible

def ownedProfiles (nm : Nm) : Set SettingsDict := { d | ∃ e ∈ nasty nm, e.settings = d }

variable {nm : Nm} {config : NetworkConfig} {mgmtIface : Option String} {start : World}

theorem mem_ownedProfiles (unique : ((nasty nm).map (·.id)).Nodup) {d : SettingsDict} :
    d ∈ ownedProfiles nm ↔ ∃ id, profiles nm id = some d := by
  constructor
  · rintro ⟨e, mem, rfl⟩
    refine ⟨e.id, ?_⟩
    have eq : existingById (nasty nm) e.id = some e :=
      collect_of_mem (by simpa [Function.comp_def] using unique) (List.mem_map.mpr ⟨e, mem, rfl⟩)
    rw [profiles, eq]
    rfl
  · rintro ⟨id, eq⟩
    obtain ⟨e, here, rfl⟩ := Option.map_eq_some_iff.mp eq
    exact ⟨e, (existingById_some here).1, rfl⟩

theorem profiles_id {id : String} {d : SettingsDict} (eq : profiles nm id = some d) :
    readString d "connection" "id" = some id := by
  obtain ⟨e, here, rfl⟩ := Option.map_eq_some_iff.mp eq
  obtain ⟨mem, rfl⟩ := existingById_some here
  exact (nastyEntry_some (mem_nasty mem).2).2.2.1

theorem ownedProfiles_eq_iff {nm' : Nm} (unique : ((nasty nm).map (·.id)).Nodup)
    (unique' : ((nasty nm').map (·.id)).Nodup) :
    ownedProfiles nm = ownedProfiles nm' ↔ profiles nm = profiles nm' := by
  have member := @mem_ownedProfiles nm unique
  have member' := @mem_ownedProfiles nm' unique'
  constructor
  · intro eq
    funext id
    have forth : ∀ d, profiles nm id = some d ↔ profiles nm' id = some d := by
      intro d
      constructor
      · intro hit
        obtain ⟨other, there⟩ := member'.mp (eq ▸ member.mpr ⟨id, hit⟩)
        obtain rfl := Option.some.inj ((profiles_id hit).symm.trans (profiles_id there))
        exact there
      · intro hit
        obtain ⟨other, there⟩ := member.mp (eq.symm ▸ member'.mpr ⟨id, hit⟩)
        obtain rfl := Option.some.inj ((profiles_id hit).symm.trans (profiles_id there))
        exact there
    exact Option.ext forth
  · intro eq
    ext d
    rw [member, member', eq]

def acknowledge (response : UpdateResponse) : Fallible String World Unit :=
  match response.txnId with
  | some id => confirm id
  | none => pure ()

/-- The network phases of the start of the engine. -/
def startup : Fallible String World Unit := do
  ignoreError (δ := String) restorePendingRevert
  let _ ← reconcileOrphans

/-- What has rendered the profiles in force. -/
inductive Source where
  | update (mgmtIface : Option String)
  | rollback
  | startup

def Source.context (live : List LiveInterface) : Source → MacContext
  | .update mgmtIface => applyContext live mgmtIface
  | .rollback => applyContext live none
  | .startup => previewContext live

/-- An update runs out of its window, while the same interfaces are live. -/
inductive RunsOut : World → World → Prop
  | mk {before after rolledBack : World} {request : UpdateRequest} {response : UpdateResponse}
      {mgmtIface : Option String} {id : String}
      (updated : run (update request mgmtIface) before = (.ok response, after))
      (window : response.txnId = some id) (same : after.live = before.live)
      (expired : Proc.run (expireTimer id) after = ((), rolledBack)) : RunsOut before rolledBack

/-- An update through `mgmtIface` is applied and acknowledged. Until the later update the engine may be restarted and
other updates may run out of their windows, in any order. -/
inductive Interim (mgmtIface : Option String) (start : World) : World → Source → Prop
  | applied {applied before : World} {request : UpdateRequest} {response : UpdateResponse}
      (updated : run (update request mgmtIface) start = (.ok response, applied))
      (confirmed : run (acknowledge response) applied = (.ok (), before)) :
      Interim mgmtIface start before (.update mgmtIface)
  | restarted {w t : World} {source : Source} (earlier : Interim mgmtIface start w source)
      (started : run startup w.restart = (.ok (), t)) : Interim mgmtIface start t .startup
  | rolledBack {w t : World} {source : Source} (earlier : Interim mgmtIface start w source)
      (expired : RunsOut w t) : Interim mgmtIface start t .rollback

structure World.Settled (w : World) (config : NetworkConfig) (source : Source) : Prop where
  quiet : w.Quiet
  accepted : validate (toLayered config) = .ok ()
  persisted : w.files .networking = some (.config config)
  free : refuseWhenBusy w = .ok ()
  store : profiles w.nm = desiredProfiles (desiredWith config w.live (source.context w.live))
  unique : ((nasty w.nm).map (·.id)).Nodup

variable {w t : World} {source : Source}

theorem World.Settled.loadConfig (settled : w.Settled config source) : w.loadConfig = config := by
  simp [World.loadConfig, settled.persisted, Contents.toConfig]

theorem txn_of_opened (free : refuseWhenBusy w = .ok ()) {prev : NetworkConfig}
    {id : String} {txn : PendingTxn} (core : t.core = w.core.opened config prev id txn) :
    t.transactions = [(id, txn)] ∧ t.txn id = some txn := by
  have table : t.transactions = [(id, txn)] :=
    (congrArg Core.transactions core).trans (Core.opened_idle (refuseWhenBusy_ok free).1 _ _ _ _)
  simp [World.txn, table]

theorem acknowledge_settled {applied before : World} {request : UpdateRequest}
    {response : UpdateResponse} (quiet : start.Quiet) (unique : ((nasty start.nm).map (·.id)).Nodup)
    (updated : run (update request mgmtIface) start = (.ok response, applied))
    (confirmed : run (acknowledge response) applied = (.ok (), before)) :
    ∃ config, before.Settled config (.update mgmtIface) := by
  obtain ⟨free, config, ok, running, ⟨id, txn, txnId, isOpen, core⟩ | ⟨txnId, core⟩⟩ :=
    update_succeeded quiet updated
  · have networking : applied.files .networking = some (.config config) := congrArg Core.networking core
    obtain ⟨table, found⟩ := txn_of_opened free core
    rw [acknowledge, txnId] at confirmed
    obtain ⟨_, -, rfl⟩ := ensures_run (ensures_confirm (K := fun _ => True) found
      isOpen running.quiet trivial trivial trivial) confirmed
    refine ⟨config, ⟨running.quiet.files, running.quiet.nm⟩, ok, ?_, refuseWhenBusy_idle ?_ ?_, running.store,
      running.unique unique⟩
    · simpa [World.dropTxn, World.put] using networking
    · simp [World.dropTxn, World.put, table]
    · simp [World.dropTxn, World.put]
  · have networking : applied.files .networking = some (.config config) := congrArg Core.networking core
    obtain ⟨idle, clear⟩ := refuseWhenBusy_ok free
    rw [acknowledge, txnId] at confirmed
    cases confirmed
    exact ⟨config, running.quiet, ok, networking, refuseWhenBusy_idle ((congrArg Core.transactions core).trans idle)
      ((congrArg Core.pendingRevert core).trans clear), running.store, running.unique unique⟩

theorem RunsOut.settled (settled : w.Settled config source) (expired : RunsOut w t) :
    t.Settled config .rollback ∧ t.live = w.live := by
  obtain ⟨updated, window, same, expired⟩ := expired
  rename_i after request response mgmtIface id
  obtain ⟨free, next, ok, running, ⟨id', txn, txnId, isOpen, core⟩ | ⟨txnId, core⟩⟩ :=
    update_succeeded settled.quiet updated
  swap
  · cases window.symm.trans txnId
  obtain rfl := Option.some.inj (window.symm.trans txnId)
  have snapshot : after.files .pendingRevert = some (.config config) := by
    rw [← settled.loadConfig]
    exact congrArg Core.pendingRevert core
  obtain ⟨table, found⟩ := txn_of_opened free core
  obtain ⟨-, u, ran, coreU, liveU, rolled⟩ := expireTimer_open (K := fun _ => True)
    found settled.accepted running.quiet snapshot trivial trivial trivial trivial trivial
  obtain ⟨-, rfl⟩ := Prod.mk.inj (expired.symm.trans ran)
  have idle : t.transactions = [] := by
    refine (congrArg Core.transactions coreU).trans ?_
    simp [Core.dropped, Core.reinstated, Core.closed, World.core, table]
  refine ⟨⟨rolled.quiet, settled.accepted, congrArg Core.networking coreU,
    refuseWhenBusy_idle idle (congrArg Core.pendingRevert coreU), rolled.store, ?_⟩, liveU.trans same⟩
  exact rolled.unique (running.unique settled.unique)

theorem startup_settled (settled : w.Settled config source) : ∃ t, run startup w.restart = (.ok (), t) ∧
    t.Settled config .startup ∧ t = { w.restart with files := t.files, nm := t.nm } := by
  have clear : w.restart.files .pendingRevert = none := (refuseWhenBusy_ok settled.free).2
  have quiet : w.restart.Quiet := ⟨settled.quiet.files, settled.quiet.nm⟩
  have loaded : w.restart.loadConfig = config := settled.loadConfig
  obtain ⟨out, t, ran, shape, core, applied⟩ := reconcileOrphans_run quiet (by rw [loaded]; exact settled.accepted)
  rw [loaded] at applied
  have live : t.live = w.live := by
    rw [shape]
    rfl
  refine ⟨t, ?_, ⟨⟨?_, applied.quiet⟩, settled.accepted, (congrArg Core.networking core).trans settled.persisted,
    refuseWhenBusy_idle (congrArg Core.transactions core) ((congrArg Core.pendingRevert core).trans clear), ?_,
    applied.unique settled.unique⟩, shape⟩
  · unfold startup
    rw [run_bind_ok (by rw [run_ignoreError, (restorePendingRevert_clear clear).1]), run_bind_ok ran]
    rfl
  · rw [shape]
    exact settled.quiet.files
  · rw [applied.store, live]
    rfl

theorem Interim.settled (quiet : start.Quiet) (unique : ((nasty start.nm).map (·.id)).Nodup)
    (interim : Interim mgmtIface start w source) : ∃ config, w.Settled config source := by
  -- the config stays what the update persisted; what rendered the profiles is the last event
  induction interim with
  | applied updated confirmed => exact acknowledge_settled quiet unique updated confirmed
  | restarted _ started ih =>
    obtain ⟨config, settled⟩ := ih
    obtain ⟨t, ran, after, -⟩ := startup_settled settled
    obtain ⟨-, rfl⟩ := Prod.mk.inj (started.symm.trans ran)
    exact ⟨config, after⟩
  | rolledBack _ expired ih =>
    obtain ⟨config, settled⟩ := ih
    exact ⟨config, (expired.settled settled).1⟩

/-- For every master that inherits a MAC, the first member leads to the MAC bytes the master has now. -/
def SameMacSource (config : NetworkConfig) (live : List LiveInterface) (source : Source) : Prop :=
  ∀ link ∈ (toLayered config).links, inheritsMemberMac link.kind = true →
    ((pickPrimaryMember link.kind none).bind (liveBy (·.mac) live)).bind macToBytes =
      ((pickPrimaryMember link.kind (source.context live).mgmtIface).bind (source.context live).liveMacs).bind macToBytes

instance (config : NetworkConfig) (live : List LiveInterface) (source : Source) :
    Decidable (SameMacSource config live source) := by
  unfold SameMacSource
  infer_instance

theorem desiredProfiles_sameMacSource (ok : validate (toLayered config) = .ok ()) {live : List LiveInterface} :
    desiredProfiles (desiredWith config live (applyContext live none)) =
        desiredProfiles (desiredWith config live (source.context live)) ↔ SameMacSource config live source := by
  have ib : (applyContext live none).infinibandIfaces = (source.context live).infinibandIfaces := by
    cases source <;> rfl
  rw [desiredProfiles_contexts ok ib, forall_adoptedBytes_iff]
  rfl

theorem ownedProfiles_runsOut_iff (settled : w.Settled config source) (expired : RunsOut w t) :
    ownedProfiles t.nm = ownedProfiles w.nm ↔ SameMacSource w.loadConfig w.live source := by
  obtain ⟨rolled, live⟩ := expired.settled settled
  rw [ownedProfiles_eq_iff rolled.unique settled.unique, rolled.store, settled.store, live, settled.loadConfig]
  exact desiredProfiles_sameMacSource settled.accepted

def twoPorts : World :=
  let live := [{ name := "eth0", mac := "52:54:00:00:00:01" }, { name := "eth1", mac := "52:54:00:00:00:02" }]
  { live, settled := live }

def bridgedPorts : NetworkConfig :=
  { interfaces := [{ name := "eth0" }, { name := "eth1" }]
    bridges := [{ name := "br0", members := ["eth0", "eth1"], ipv4 := { method := .dhcp }, ipv6 := {} }] }

def separatePorts : NetworkConfig :=
  { interfaces := [{ name := "eth0", ipv4 := { method := .dhcp } }, { name := "eth1" }] }

theorem twoPorts_quiet : twoPorts.Quiet := ⟨rfl, rfl⟩

theorem twoPorts_unique : ((nasty twoPorts.nm).map (·.id)).Nodup := List.nodup_nil

/-- The ports are bridged; the kernel shows the same ports since. -/
structure World.Bridged (w : World) (source : Source) : Prop extends w.Settled bridgedPorts source where
  live : w.live = twoPorts.live
  settled : w.settled = twoPorts.live
  topology : w.topology = {}

theorem twoPorts_bridged (mgmtIface : Option String)
    (admitted : admission bridgedPorts {} mgmtIface {} twoPorts.live = .ok bridgedPorts) :
    ∃ before, Interim mgmtIface twoPorts before (.update mgmtIface) ∧ before.Bridged (.update mgmtIface) := by
  obtain ⟨-, response, before, updated, txnId, core, running⟩ := @ensures_update_direct (fun _ => True)
    twoPorts ⟨bridgedPorts, some 0⟩ mgmtIface bridgedPorts rfl admitted (by decide) twoPorts_quiet rfl trivial trivial
  have confirmed : run (acknowledge response) before = (.ok (), before) := by
    rw [acknowledge, txnId]
    rfl
  refine ⟨before, .applied updated confirmed, ⟨running.quiet, by decide, congrArg Core.networking core,
    refuseWhenBusy_idle (congrArg Core.transactions core) (congrArg Core.pendingRevert core), running.store,
    running.unique twoPorts_unique⟩, ?_, running.settled, running.topology⟩
  exact running.live.elim id id

theorem World.Bridged.restart (bridged : w.Bridged source) :
    ∃ t, run startup w.restart = (.ok (), t) ∧ t.Bridged .startup := by
  obtain ⟨t, ran, settled, shape⟩ := startup_settled bridged.toSettled
  refine ⟨t, ran, settled, ?_, ?_, ?_⟩
  · rw [shape]
    exact bridged.live
  · rw [shape]
    exact bridged.settled
  · rw [shape]
    exact bridged.topology

/-- The ports are to be separated again, which is not confirmed. -/
theorem World.Bridged.runsOut (bridged : w.Bridged source) : ∃ t, RunsOut w t := by
  have admitted : admission separatePorts w.loadConfig none w.topology w.live = .ok separatePorts := by
    rw [bridged.loadConfig, bridged.topology, bridged.live]
    decide
  obtain ⟨-, response, after, updated, id, txn, txnId, -, core, running⟩ := @ensures_update_window (fun _ => True) w
    ⟨separatePorts, some 60⟩ none separatePorts bridged.free admitted (by decide) bridged.quiet 60 rfl
    trivial trivial trivial fun _ _ _ => trivial
  refine ⟨_, .mk updated txnId ?_ rfl⟩
  rw [bridged.live]
  exact running.live.elim (·.trans bridged.live) (·.trans bridged.settled)

end NastyEngine.Network
