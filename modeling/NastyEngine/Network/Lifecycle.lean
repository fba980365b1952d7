import NastyEngine.Network.Rejection

/-!
For each operation of the transaction protocol: the protocol states it passes through, which is
where a crash can leave it, and what it has done at its end when file operations and D-Bus calls
succeed.
-/

namespace NastyEngine.Network
open Lib Fallible

/-- What applying a config comes down to: its profiles are in force for the interfaces that are
live now, and nothing outside the engine has changed but the settle pause. -/
structure World.Running (config : NetworkConfig) (mgmtIface : Option String) (w t : World) : Prop where
  quiet : t.Quiet
  topology : t.topology = w.topology
  settled : t.settled = w.settled
  live : t.live = w.live ∨ t.live = w.settled
  store : profiles t.nm = desiredProfiles (desiredWith config t.live (applyContext t.live mgmtIface))
  unique : ((nasty w.nm).map (·.id)).Nodup → ((nasty t.nm).map (·.id)).Nodup

section
variable (c : Core) (config : NetworkConfig)

def Core.replaced (prev : NetworkConfig) : Core :=
  { c with networking := some (.config config), pendingRevert := some (.config prev) }

def Core.opened (prev : NetworkConfig) (id : String) (txn : PendingTxn) : Core :=
  { c.replaced config prev with
    transactions := c.transactions.filter (·.1 ≠ id) ++ [(id, txn)]
    timers := c.timers ++ [id] }

def Core.reinstated : Core :=
  { c with networking := some (.config config), pendingRevert := none }

end

def Core.dropped (c : Core) (id : String) : Core := { c with transactions := c.transactions.filter (·.1 ≠ id) }

def Core.closed (c : Core) (id : String) : Core :=
  { c with
    transactions := c.transactions.map fun e => if e.1 = id then (e.1, { e.2 with cancel := false }) else e
    timers := c.timers.erase id }

theorem Core.opened_idle {c : Core} (idle : c.transactions = []) (config prev : NetworkConfig)
    (id : String) (txn : PendingTxn) : (c.opened config prev id txn).transactions = [(id, txn)] := by
  simp [Core.opened, idle]

@[simp] theorem core_dropTxn (w : World) (id : String) : (w.dropTxn id).core = w.core.dropped id := rfl

@[simp] theorem core_closeWindow (w : World) (id : String) : (w.closeWindow id).core = w.core.closed id := rfl

variable {K : Core → Prop} {w : World}

variable {config : NetworkConfig} {mgmtIface : Option String} {t : World} {request : UpdateRequest} {id : String}

theorem World.Running.frame {u : World}
    (running : w.Running config mgmtIface t) (faults : u.faults = t.faults) (nm : u.nm = t.nm)
    (live : u.live = t.live) (topology : u.topology = t.topology) (settled : u.settled = t.settled) :
    w.Running config mgmtIface u :=
  { quiet := ⟨faults.trans running.quiet.files, by rw [nm]; exact running.quiet.nm⟩
    topology := topology.trans running.topology
    settled := settled.trans running.settled
    live := by rw [live]; exact running.live
    store := by rw [nm, live]; exact running.store
    unique := by rw [nm]; exact running.unique }

theorem running_of_settled {v : World}
    (shape : v = { w with files := v.files }) (settled : v.SettledTo config mgmtIface t) :
    w.Running config mgmtIface t := by
  have live : v.live = w.live := by
    rw [shape]
  have pause : v.settled = w.settled := by
    rw [shape]
  refine ⟨settled.quiet, ?_, ?_, ?_, settled.store, ?_⟩
  · rw [settled.shape, shape]
  · rw [settled.shape, shape]
  · rw [← live, ← pause]
    exact settled.live
  · intro distinct
    refine settled.unique ?_
    rw [shape]
    exact distinct

section update
variable {config prev : NetworkConfig} (accepted : validate (toLayered config) = .ok ())
  (quiet : w.Quiet) (mgmtIface : Option String) (liveNames : List String)

include accepted quiet

theorem ensures_updateWithWindow (risk : Option String) (secs : Nat) (start : K w.core)
    (snapshot : K { w.core with pendingRevert := some (.config prev) })
    (persisted : K (w.core.replaced config prev))
    (opened : ∀ id txn, txn.cancel = true → K (w.core.opened config prev id txn)) :
    Ensures (fun v => K v.core) (updateWithWindow config prev mgmtIface liveNames risk secs)
      (fun r t => ∃ id txn, r.txnId = some id ∧ txn.cancel = true ∧
        t.core = w.core.opened config prev id txn ∧ w.Running config mgmtIface t) w := by
  refine .bind (.mapError (ensures_atomicWrite quiet.files .pendingRevert (.config prev)
    start (by rw [core_written_pendingRevert]; exact snapshot))) fun _ u hu => ?_
  have coreU : u.core = { w.core with pendingRevert := some (.config prev) } := by
    rw [hu, core_written_pendingRevert]
  have quietU : u.Quiet := by
    rw [hu]
    exact ⟨quiet.files, quiet.nm⟩
  have shapeU : u = { w with files := u.files } := by
    rw [hu]
    rfl
  refine .bind (ensures_persistConfig quietU accepted (by rw [coreU]; exact snapshot)
    (by rw [coreU]; exact persisted)) fun _ v ⟨shape, core⟩ => ?_
  have coreV : v.core = w.core.replaced config prev := by
    rw [core, coreU]
    rfl
  have quietV : v.Quiet := by
    rw [shape]
    exact ⟨quietU.files, quietU.nm⟩
  have shapeV : v = { w with files := v.files } := by
    conv_lhs => rw [shape, shapeU]
  refine .bind (.mapError (ensures_applyWithVfSettle quietV accepted
    (by rw [coreV]; exact persisted))) fun out t settled => ?_
  have coreT : t.core = w.core.replaced config prev := settled.core.trans coreV
  have insideT : K t.core := by
    rw [coreT]
    exact persisted
  have running : w.Running config mgmtIface t := running_of_settled shapeV settled
  -- the id, the clock and the table entry
  refine .bind (.lift (Q := fun _ x => x = { t with counter := t.counter + 1 })
    ⟨insideT, insideT⟩ rfl) fun id x hx => ?_
  subst hx
  refine ensures_read_bind insideT ?_
  have entered : ∀ txn : PendingTxn, ({ t with
      counter := t.counter + 1
      transactions := t.transactions.filter (·.1 ≠ id) ++ [(id, txn)]
      timers := t.timers ++ [id] } : World).core = w.core.opened config prev id txn := by
    intro txn
    have files := coreT
    simp only [World.core, Core.replaced, Core.mk.injEq] at files
    obtain ⟨networking, pendingRevert, transactions, timers⟩ := files
    simp [World.core, Core.opened, Core.replaced, networking, pendingRevert, transactions, timers]
  refine .bind (.modify insideT (by rw [entered]; exact opened _ _ rfl)
    (Q := fun _ x => ∃ txn : PendingTxn, txn.cancel = true ∧ x.core = w.core.opened config prev id txn ∧
      w.Running config mgmtIface x) ⟨_, rfl, entered _, running.frame rfl rfl rfl rfl rfl⟩) ?_
  rintro _ x ⟨txn, isOpen, core, result⟩
  exact .pure (by rw [core]; exact opened _ _ isOpen) ⟨id, txn, rfl, isOpen, core, result⟩

theorem ensures_updateDirectly (start : K w.core) (persisted : K { w.core with networking := some (.config config) }) :
    Ensures (fun v => K v.core) (updateDirectly config mgmtIface liveNames)
      (fun r t => r.txnId = none ∧ t.core = { w.core with networking := some (.config config) } ∧
        w.Running config mgmtIface t) w := by
  refine .bind (ensures_persistConfig quiet accepted start persisted) fun _ v ⟨shape, core⟩ => ?_
  have quietV : v.Quiet := by
    rw [shape]
    exact ⟨quiet.files, quiet.nm⟩
  refine .bind (.mapError (ensures_applyWithVfSettle quietV accepted
    (by rw [core]; exact persisted))) fun out t settled => ?_
  exact .pure (by rw [settled.core, core]; exact persisted)
    ⟨rfl, settled.core.trans core, running_of_settled shape settled⟩

end update

theorem along_update {J : World → Prop} (inside : J w) (commit : refuseWhenBusy w = .ok () → ∀ config,
      admission request.config w.loadConfig mgmtIface w.topology w.live = .ok config →
      Along J (commitUpdate config w.loadConfig mgmtIface (w.live.map (·.name))
        (classifyRisk w.loadConfig config mgmtIface) (rollbackSecs request.confirmWithinSecs
          (classifyRisk w.loadConfig config mgmtIface))) w) :
    Along J (update request mgmtIface) w := by
  refine along_read_bind inside (along_ofExcept_bind inside fun _ free =>
    along_ofExcept_bind inside fun config admitted => commit free config ?_)
  cases checked : admission request.config w.loadConfig mgmtIface w.topology w.live with
  | error e => rw [checked] at admitted; cases admitted
  | ok c => rw [checked] at admitted; cases admitted; rfl

theorem refuseWhenBusy_ok (free : refuseWhenBusy w = .ok ()) : w.transactions = [] ∧ w.files .pendingRevert = none := by
  unfold refuseWhenBusy at free
  split at free
  · cases free
  next idle =>
    split at free
    · cases free
    next clear =>
      exact ⟨List.head?_eq_none_iff.mp idle, by simpa using clear⟩

section admitted
variable {request : UpdateRequest} {mgmtIface : Option String} {config : NetworkConfig} (free : refuseWhenBusy w = .ok ())
  (admitted : admission request.config w.loadConfig mgmtIface w.topology w.live = .ok config)

include free admitted

theorem ensures_update {J : World → Prop} {Q : UpdateResponse → World → Prop} {window : Option Nat}
    (opened : rollbackSecs request.confirmWithinSecs (classifyRisk w.loadConfig config mgmtIface) = window)
    (commit : Ensures J (commitUpdate config w.loadConfig mgmtIface (w.live.map (·.name))
      (classifyRisk w.loadConfig config mgmtIface) window) Q w) :
    Ensures J (update request mgmtIface) Q w := by
  refine ⟨along_update (along_start commit.1) fun _ other same => ?_, ?_⟩
  · obtain rfl := Except.ok.inj (admitted.symm.trans same)
    rw [opened]
    exact commit.1
  · obtain ⟨-, response, t, ran, post⟩ := commit
    exact ⟨response, t, (update_admitted free admitted opened).trans ran, post⟩

variable (accepted : validate (toLayered config) = .ok ()) (quiet : w.Quiet)

include accepted quiet

theorem ensures_update_window {secs : Nat} (opened : rollbackSecs request.confirmWithinSecs
      (classifyRisk w.loadConfig config mgmtIface) = some secs) (start : K w.core)
    (snapshot : K { w.core with pendingRevert := some (.config w.loadConfig) })
    (persisted : K (w.core.replaced config w.loadConfig))
    (entered : ∀ id txn, txn.cancel = true → K (w.core.opened config w.loadConfig id txn)) :
    Ensures (fun v => K v.core) (update request mgmtIface) (fun r t => ∃ id txn, r.txnId = some id ∧
      txn.cancel = true ∧ t.core = w.core.opened config w.loadConfig id txn ∧
      w.Running config mgmtIface t) w :=
  ensures_update free admitted opened (ensures_updateWithWindow accepted quiet _ _ _ _ start snapshot persisted entered)

theorem ensures_update_direct (direct : rollbackSecs request.confirmWithinSecs
      (classifyRisk w.loadConfig config mgmtIface) = none) (start : K w.core)
    (persisted : K { w.core with networking := some (.config config) }) :
    Ensures (fun v => K v.core) (update request mgmtIface) (fun r t => r.txnId = none ∧
      t.core = { w.core with networking := some (.config config) } ∧ w.Running config mgmtIface t) w :=
  ensures_update free admitted direct (ensures_updateDirectly accepted quiet _ _ start persisted)

end admitted

/-- The ways an update can go: turned away without a trace, refused after its snapshot was written,
or carried out, with a window or without. -/
inductive UpdatePath (w : World) (request : UpdateRequest) (mgmtIface : Option String) : Prop
  | refused {e : ServiceError} (ran : run (update request mgmtIface) w = (.error e, w))
      (along : ∀ J : World → Prop, J w → Along J (update request mgmtIface) w)
  | late {config : NetworkConfig} {e : ServiceError} (free : refuseWhenBusy w = .ok ())
      (admitted : admission request.config w.loadConfig mgmtIface w.topology w.live = .ok config)
      (ran : run (update request mgmtIface) w = (.error e, w.written .pendingRevert (.config w.loadConfig)))
      (along : ∀ K : Core → Prop, K w.core → K { w.core with pendingRevert := some (.config w.loadConfig) } →
        Along (fun v => K v.core) (update request mgmtIface) w)
  | direct {config : NetworkConfig} (free : refuseWhenBusy w = .ok ())
      (admitted : admission request.config w.loadConfig mgmtIface w.topology w.live = .ok config)
      (accepted : validate (toLayered config) = .ok ())
      (window : rollbackSecs request.confirmWithinSecs (classifyRisk w.loadConfig config mgmtIface) = none)
  | windowed {config : NetworkConfig} {secs : Nat} (free : refuseWhenBusy w = .ok ())
      (admitted : admission request.config w.loadConfig mgmtIface w.topology w.live = .ok config)
      (accepted : validate (toLayered config) = .ok ())
      (window : rollbackSecs request.confirmWithinSecs (classifyRisk w.loadConfig config mgmtIface) = some secs)

theorem updatePath_of_rejected {e : String} (quiet : w.Quiet) (free : refuseWhenBusy w = .ok ())
    (admitted : admission request.config w.loadConfig mgmtIface w.topology w.live = .ok config)
    (rejected : validate (toLayered config) = .error e) : UpdatePath w request mgmtIface := by
  have checked : ∀ {J : World → Prop} {v : World}, J v → Along J (persistConfig config) v := by
    intro J v inv
    refine along_ofExcept_bind inv fun _ ok => ?_
    rw [checkLayered, rejected] at ok
    cases ok
  have same : ∀ {other}, admission request.config w.loadConfig mgmtIface w.topology w.live = .ok other →
      other = config := fun h => Except.ok.inj (h.symm.trans admitted)
  cases window : rollbackSecs request.confirmWithinSecs (classifyRisk w.loadConfig config mgmtIface) with
  | none =>
    refine .refused ((update_admitted free admitted window).trans
      (updateDirectly_rejects rejected _ _ w)) fun J inv => along_update inv ?_
    rintro - other again
    obtain rfl := same again
    rw [window]
    refine .bind (checked inv) fun _ v ran => ?_
    rw [persistConfig_rejects rejected] at ran
    cases ran
  | some secs =>
    refine .late free admitted ((update_admitted free admitted window).trans
      (updateWithWindow_rejects rejected _ _ _ _ _ quiet.files)) fun K start snapshot =>
      along_update start ?_
    rintro - other again
    obtain rfl := same again
    rw [window]
    have wrote := ensures_atomicWrite (K := K) quiet.files .pendingRevert (.config w.loadConfig) start
      (by rw [core_written_pendingRevert]; exact snapshot)
    refine .bind (.mapError wrote.1) fun _ v ran => .bind (checked ?_) fun _ _ ran => ?_
    · obtain ⟨_, -, rfl⟩ := ensures_run (.mapError wrote) ran
      exact snapshot
    · rw [persistConfig_rejects rejected] at ran
      cases ran

theorem updatePath (quiet : w.Quiet) {request : UpdateRequest} {mgmtIface : Option String} :
    UpdatePath w request mgmtIface := by
  cases free : refuseWhenBusy w with
  | error e =>
    refine .refused (e := e) ?_ fun J inv => along_update inv ?_
    · unfold update
      rw [run_bind_ok run_read, run_bind_error (by rw [run_ofExcept, free])]
    · rw [free]
      rintro ⟨⟩
  | ok =>
    cases admitted : admission request.config w.loadConfig mgmtIface w.topology w.live with
    | error e =>
      refine .refused (update_refused free admitted) fun J inv => along_update inv ?_
      rw [admitted]
      rintro - _ ⟨⟩
    | ok config =>
      cases accepted : validate (toLayered config) with
      | error e => exact updatePath_of_rejected quiet free admitted accepted
      | ok =>
        cases window : rollbackSecs request.confirmWithinSecs (classifyRisk w.loadConfig config mgmtIface) with
        | none => exact .direct free admitted accepted window
        | some secs => exact .windowed free admitted accepted window

theorem update_succeeded (quiet : w.Quiet) {response : UpdateResponse}
    (succeeded : run (update request mgmtIface) w = (.ok response, t)) :
    refuseWhenBusy w = .ok () ∧ ∃ config, validate (toLayered config) = .ok () ∧ w.Running config mgmtIface t ∧
      ((∃ id txn, response.txnId = some id ∧ txn.cancel = true ∧ t.core = w.core.opened config w.loadConfig id txn) ∨
        response.txnId = none ∧ t.core = { w.core with networking := some (.config config) }) := by
  cases updatePath quiet with
  | refused ran | late _ _ ran => cases succeeded.symm.trans ran
  | direct free admitted accepted window =>
    obtain ⟨_, ok, txnId, core, running⟩ := ensures_run (ensures_update_direct (K := fun _ => True)
      free admitted accepted quiet window trivial trivial) succeeded
    cases ok
    exact ⟨free, _, accepted, running, .inr ⟨txnId, core⟩⟩
  | windowed free admitted accepted window =>
    obtain ⟨_, ok, id, txn, txnId, isOpen, core, running⟩ := ensures_run
      (ensures_update_window (K := fun _ => True) free admitted accepted quiet window trivial
        trivial trivial fun _ _ _ => trivial) succeeded
    cases ok
    exact ⟨free, _, accepted, running, .inl ⟨id, txn, txnId, isOpen, core⟩⟩

variable {txn : PendingTxn}

theorem ensures_confirm (eq : w.txn id = some txn) (isOpen : txn.cancel = true) (quiet : w.Quiet) (start : K w.core)
    (removed : K { w.core with pendingRevert := none })
    (dropped : K (({ w.core with pendingRevert := none } : Core).dropped id)) :
    Ensures (fun v => K v.core) (confirm id) (fun _ t => t = (w.put .pendingRevert none).dropTxn id) w := by
  refine ensures_read_bind start ?_
  simp only [eq, isOpen, if_true]
  have gone : (w.put .pendingRevert none).core = { w.core with pendingRevert := none } :=
    core_put_pendingRevert w none
  refine .bind (.mapError (ensures_fileOp quiet.files start (by rw [gone]; exact removed))) fun _ u hu => ?_
  subst hu
  exact .modify (by rw [gone]; exact removed) (by rw [core_dropTxn, gone]; exact dropped) rfl

theorem confirm_refused (closed : ∀ txn, w.txn id = some txn → txn.cancel = false) :
    (∃ e, run (confirm id) w = (.error e, w)) ∧ ∀ J : World → Prop, J w → Along J (confirm id) w := by
  unfold confirm
  cases found : w.txn id with
  | none =>
    refine ⟨⟨"unknown or already-completed txn_id " ++ id, ?_⟩, fun J inside => ?_⟩
    · rw [run_bind_ok run_read, found]
      rfl
    · refine along_read_bind inside ?_
      rw [found]
      exact inside
  | some txn =>
    have shut := closed txn found
    refine ⟨⟨"network txn " ++ id ++ " rollback is already in progress or failed", ?_⟩, fun J inside => ?_⟩
    · rw [run_bind_ok run_read, found]
      simp only [shut]
      rfl
    · refine along_read_bind inside ?_
      rw [found]
      simp only [shut]
      exact inside

section reinstate
variable {prev : NetworkConfig} (accepted : validate (toLayered prev) = .ok ()) (quiet : w.Quiet)
  (start : K w.core) (persisted : K { w.core with networking := some (.config prev) })

include accepted quiet start persisted

theorem ensures_reapply (f : ServiceError → String) (g : String → String) {α : Type}
    {rest : Fallible String World α} {Q : α → World → Prop}
    (finish : ∀ t, t.core = { w.core with networking := some (.config prev) } → t.live = w.live →
      w.Running prev none t → Ensures (fun v => K v.core) rest Q t) :
    Ensures (fun v => K v.core) (do
      mapError f (persistConfig prev)
      let _ ← mapError g (applyConfig prev none)
      rest) Q w := by
  refine .bind (.mapError (ensures_persistConfig quiet accepted start persisted)) fun _ v ⟨shape, core⟩ => ?_
  have quietV : v.Quiet := by
    rw [shape]
    exact ⟨quiet.files, quiet.nm⟩
  refine .bind (.mapError (ensures_applyConfig quietV accepted none
    (by rw [core]; exact persisted))) fun out t applied => ?_
  have live : t.live = w.live := by
    rw [applied.shape, shape]
  have liveV : v.live = w.live := by
    rw [shape]
  refine finish t (applied.core.trans core) live
    ⟨applied.quiet quietV, ?_, ?_, .inl live, ?_, fun distinct => applied.applied.unique ?_⟩
  · rw [applied.shape, shape]
  · rw [applied.shape, shape]
  · rw [applied.applied.store, liveV, live]
  · rw [shape]
    exact distinct

def World.Reinstated (w : World) (prev : NetworkConfig) (t : World) : Prop :=
  t.core = w.core.reinstated prev ∧ t.live = w.live ∧ w.Running prev none t

variable (snapshot : w.files .pendingRevert = some (.config prev)) (removed : K (w.core.reinstated prev))

include snapshot removed

omit accepted quiet start persisted snapshot in
theorem ensures_removeSnapshot (core : t.core = { w.core with networking := some (.config prev) })
    (live : t.live = w.live) (running : w.Running prev none t)
    (persisted : K { w.core with networking := some (.config prev) }) :
    Ensures (fun v => K v.core) (removeFile .pendingRevert) (fun _ => w.Reinstated prev) t := by
  have gone : (t.put .pendingRevert none).core = w.core.reinstated prev := by
    rw [core_put_pendingRevert, core]
    rfl
  refine .mono (ensures_fileOp running.quiet.files (by rw [core]; exact persisted) (by rw [gone]; exact removed)) ?_
  rintro _ _ rfl
  exact ⟨gone, live, running.frame rfl rfl rfl rfl rfl⟩

theorem ensures_performRollback : Ensures (fun v => K v.core) performRollback (fun _ => w.Reinstated prev) w := by
  refine ensures_read_bind start ?_
  rw [snapshot]
  refine ensures_reapply accepted quiet start persisted _ _ fun u core live running => ?_
  exact .mapError (ensures_removeSnapshot removed core live running persisted)

theorem ensures_restorePendingRevert : Ensures (fun v => K v.core) restorePendingRevert (fun _ => w.Reinstated prev) w := by
  refine ensures_read_bind start ?_
  rw [snapshot]
  refine ensures_reapply accepted quiet start persisted _ _ fun u core live running => ?_
  exact .ignoreError (ensures_removeSnapshot removed core live running persisted)

end reinstate

theorem expireTimer_open (eq : w.txn id = some txn)
    {prev : NetworkConfig} (ok : validate (toLayered prev) = .ok ()) (quiet : w.Quiet)
    (snapshot : w.files .pendingRevert = some (.config prev)) (start : K w.core) (closed : K (w.core.closed id))
    (persisted : K { w.core.closed id with networking := some (.config prev) })
    (removed : K ((w.core.closed id).reinstated prev))
    (dropped : K (((w.core.closed id).reinstated prev).dropped id)) :
    Proc.Along (fun v => K v.core) (expireTimer id) w ∧ ∃ t, Proc.run (expireTimer id) w = ((), t) ∧
      t.core = ((w.core.closed id).reinstated prev).dropped id ∧ t.live = w.live ∧
      w.Running prev none t := by
  have rolled := ensures_performRollback (K := K) (w := w.closeWindow id) ok
    ⟨quiet.files, quiet.nm⟩ closed persisted snapshot removed
  obtain ⟨along, ⟨⟩, u, ran, core, live, running⟩ := rolled
  have result : Proc.run (ExceptT.run performRollback) (w.closeWindow id) = (.ok (), u) := ran
  have ended : (u.dropTxn id).core = ((w.core.closed id).reinstated prev).dropped id := by
    rw [core_dropTxn, core, core_closeWindow]
  unfold expireTimer
  constructor
  · refine .bind ((Proc.along_act).mpr ⟨start, closed⟩) ?_
    simp only [Proc.run_act, eq, Option.isSome_some, if_true]
    refine .bind along ?_
    rw [result]
    exact (Proc.along_modify _ _ _).mpr ⟨by rw [core]; exact removed, by rw [ended]; exact dropped⟩
  · refine ⟨u.dropTxn id, ?_, ended, live, ⟨running.quiet.files, running.quiet.nm⟩, running.topology,
      running.settled, running.live, running.store, running.unique⟩
    simp only [Proc.run_bind, Proc.run_act, eq, Option.isSome_some, if_true, result, Proc.run_modify]

theorem expireTimer_gone (gone : w.txn id = none) : Proc.run (expireTimer id) w = ((), w.closeWindow id) ∧
      ∀ J : World → Prop, J w → J (w.closeWindow id) → Proc.Along J (expireTimer id) w := by
  unfold expireTimer
  refine ⟨by simp [gone], fun J before after => ?_⟩
  refine .bind ((Proc.along_act).mpr ⟨before, after⟩) ?_
  simpa [gone] using after

theorem restorePendingRevert_clear (clear : w.files .pendingRevert = none) : run restorePendingRevert w = (.ok (), w) ∧
      ∀ J : World → Prop, J w → Along J restorePendingRevert w := by
  unfold restorePendingRevert
  refine ⟨?_, fun J inv => ?_⟩
  · rw [run_bind_ok run_read, clear]
    rfl
  · refine along_read_bind inv ?_
    rw [clear]
    exact inv

end NastyEngine.Network
