import NastyEngine.Network.Lifecycle

/-!
Runs of the service under updates, confirmations, timers, crashes and restarts, with the history of its
transactions.
-/

namespace NastyEngine.Network
open Lib Fallible List

inductive Outcome where
  | confirmed
  | rolledBack
  deriving DecidableEq

/-- `id` is what the update returned; an update that was cut off returned nothing. -/
structure Txn where
  serial : Nat
  before : NetworkConfig
  after : NetworkConfig
  id : Option String

def Outcome.config : Outcome → Txn → NetworkConfig
  | .confirmed, txn => txn.after
  | .rolledBack, txn => txn.before

structure Ending where
  txn : Txn
  outcome : Outcome
  networking : Option Contents
  pendingRevert : Option Contents

structure Sys where
  world : World
  up : Bool := true
  begun : Nat := 0
  pending : Option Txn := none
  ended : List Ending := []

def World.quieted (w : World) : World := { w with faults := [], nm := { w.nm with faults := [] } }

namespace Sys

section
variable (s : Sys)

def begin (up : Bool) (request : UpdateRequest) (mgmtIface : Option String) (id : Option String) (world : World) : Sys :=
  match admission request.config s.world.loadConfig mgmtIface s.world.topology s.world.live with
  | .ok after =>
    { s with world, up, begun := s.begun + 1
             pending := some ⟨s.begun, s.world.loadConfig, after, id⟩ }
  | .error _ => { s with world, up }

def settle (up : Bool) (outcome : Outcome) (world : World) : Sys :=
  match s.pending, world.files .pendingRevert with
  | some txn, none =>
    { s with world, up, pending := none
             ended := s.ended ++ [⟨txn, outcome, world.files .networking, world.files .pendingRevert⟩] }
  | _, _ => { s with world, up }

def updated (request : UpdateRequest) (mgmtIface : Option String) : Sys :=
  match run (update request mgmtIface) s.world with
  | (.ok { txnId := some id, .. }, world) => s.begin true request mgmtIface (some id) world
  | (_, world) => { s with world }

def updateCut (request : UpdateRequest) (mgmtIface : Option String) (steps : Nat) : Sys :=
  let world := (cut steps (update request mgmtIface) s.world).quieted
  if s.world.files .pendingRevert = none ∧ world.files .pendingRevert ≠ none then
    s.begin false request mgmtIface none world
  else { s with world, up := false }

def confirmed (id : String) : Sys := s.settle true .confirmed (run (confirm id) s.world).2

def confirmCut (id : String) (steps : Nat) : Sys := s.settle false .confirmed (cut steps (confirm id) s.world).quieted

def expired (id : String) : Sys := s.settle true .rolledBack (Proc.run (expireTimer id) s.world).2

def expireCut (id : String) (steps : Nat) : Sys :=
  s.settle false .rolledBack (Proc.cut steps (expireTimer id) s.world).quieted

/-- `restore_pending_revert` ends before the engine serves requests. -/
def restarted : Sys := s.settle true .rolledBack (run restorePendingRevert s.world.restart).2

def restartCut (steps : Nat) : Sys :=
  s.settle false .rolledBack (cut steps restorePendingRevert s.world.restart).quieted

def outside (now : Nat) (live settled : List LiveInterface) (topology : LiveTopology) (nm : Nm) : Sys :=
  { s with world := { s.world with now, live, settled, topology, nm } }

end

structure Initial (s : Sys) : Prop where
  quiet : s.world.Quiet
  accepted : validate (toLayered s.world.loadConfig) = .ok ()
  idle : s.world.transactions = []
  clear : s.world.files .pendingRevert = none
  up : s.up = true
  fresh : s.begun = 0 ∧ s.pending = none ∧ s.ended = []

end Sys

/-- One operation of the service, or one operation cut off by a crash. A timer may run out at any
time after it was started, also when its transaction has ended. -/
inductive Step : Sys → Sys → Prop
  | update {s : Sys} (up : s.up = true) (request : UpdateRequest) (mgmtIface : Option String) :
      Step s (s.updated request mgmtIface)
  | updateCut {s : Sys} (up : s.up = true) (request : UpdateRequest) (mgmtIface : Option String)
      (steps : Nat) : Step s (s.updateCut request mgmtIface steps)
  | confirm {s : Sys} (up : s.up = true) (id : String) : Step s (s.confirmed id)
  | confirmCut {s : Sys} (up : s.up = true) (id : String) (steps : Nat) : Step s (s.confirmCut id steps)
  | expire {s : Sys} (up : s.up = true) {id : String} (armed : id ∈ s.world.timers) : Step s (s.expired id)
  | expireCut {s : Sys} (up : s.up = true) {id : String} (armed : id ∈ s.world.timers) (steps : Nat) :
      Step s (s.expireCut id steps)
  | restart {s : Sys} (down : s.up = false) : Step s s.restarted
  | restartCut {s : Sys} (down : s.up = false) (steps : Nat) : Step s (s.restartCut steps)
  | outside {s : Sys} (now : Nat) (live settled : List LiveInterface) (topology : LiveTopology) {nm : Nm}
      (quiet : nm.faults = []) : Step s (s.outside now live settled topology nm)

def Core.loadConfig (c : Core) : NetworkConfig := (c.networking.bind Contents.toConfig).getD {}

/-- A running engine holds the pending transaction in its table, with its window open and its timer
started. -/
structure Txn.Armed (txn : Txn) (c : Core) : Prop where
  persisted : c.networking = some (.config txn.after)
  entry : ∃ id open_, txn.id = some id ∧ c.transactions = [(id, open_)] ∧ open_.cancel = true ∧ id ∈ c.timers

inductive Reflects (up : Bool) (c : Core) : Option Txn → Prop
  | idle (table : up = true → c.transactions = [])
      -- a refused update may have left a snapshot of the config in force
      (snapshot : c.pendingRevert = none ∨ c.pendingRevert = some (.config c.loadConfig)) :
      Reflects up c none
  | busy {txn : Txn} (snapshot : c.pendingRevert = some (.config txn.before))
      (restorable : validate (toLayered txn.before) = .ok ()) (armed : up = true → txn.Armed c) :
      Reflects up c (some txn)

structure Consistent (up : Bool) (pending : Option Txn) (c : Core) : Prop where
  accepted : validate (toLayered c.loadConfig) = .ok ()
  one : c.transactions.length ≤ 1
  reflects : Reflects up c pending

/-- Every transaction ends once, in the order in which they began, and leaves the files as its outcome says. -/
structure Sys.Recorded (s : Sys) : Prop where
  accounted : s.ended.map (·.txn.serial) ++ s.pending.toList.map (·.serial) = List.range s.begun
  endings : ∀ e ∈ s.ended, e.pendingRevert = none ∧ e.networking = some (.config (e.outcome.config e.txn))

structure Sys.Inv (s : Sys) : Prop extends s.Recorded where
  quiet : s.world.Quiet
  consistent : Consistent s.up s.pending s.world.core

variable {up : Bool}

theorem Consistent.down {pending : Option Txn} {c : Core} (h : Consistent up pending c) : Consistent false pending c := by
  refine ⟨h.accepted, h.one, ?_⟩
  cases h.reflects with
  | idle _ snapshot => exact .idle nofun snapshot
  | busy snapshot restorable _ => exact .busy snapshot restorable nofun

def Settling (up : Bool) (pending : Option Txn) (outcome : Outcome) (c : Core) : Prop :=
  Consistent up pending c ∨ ∃ txn, pending = some txn ∧
    c.networking = some (.config (outcome.config txn)) ∧ c.pendingRevert = none ∧ Consistent up none c

variable {s : Sys} {world : World} {outcome : Outcome} {id : String} {txn : Txn}

theorem Sys.settle_kept (kept : ∀ txn, s.pending = some txn → world.files .pendingRevert = some (.config txn.before)) :
    s.settle up outcome world = { s with world, up } := by
  unfold Sys.settle
  cases pending : s.pending with
  | none => rfl
  | some txn => simp [kept txn pending]

theorem Sys.settle_over (pending : s.pending = some txn)
    (networking : world.files .networking = some (.config (outcome.config txn)))
    (cleared : world.files .pendingRevert = none) : s.settle up outcome world =
      { s with world, up, pending := none
               ended := s.ended ++ [⟨txn, outcome, some (.config (outcome.config txn)), none⟩] } := by
  simp [Sys.settle, pending, networking, cleared]

section
variable (recorded : s.Recorded) (quiet : world.Quiet)
include recorded quiet

theorem Sys.keep_inv (consistent : Consistent up s.pending world.core) : ({ s with world, up } : Sys).Inv :=
  ⟨⟨recorded.accounted, recorded.endings⟩, quiet, consistent⟩

theorem Sys.settle_inv (settling : Settling up s.pending outcome world.core) : (s.settle up outcome world).Inv := by
  rcases settling with kept | ⟨txn, pending, networking, cleared, consistent⟩
  · have reflects := kept.reflects
    rw [Sys.settle_kept fun txn pending => ?_]
    · exact Sys.keep_inv recorded quiet kept
    · rw [pending] at reflects
      cases reflects with
      | busy snapshot => exact snapshot
  · rw [Sys.settle_over pending networking cleared]
    refine ⟨⟨?_, ?_⟩, quiet, consistent⟩
    · simpa [pending] using recorded.accounted
    · intro e mem
      rcases mem_append.mp mem with old | new
      · exact recorded.endings e old
      · obtain rfl := mem_singleton.mp new
        exact ⟨rfl, rfl⟩

theorem Sys.begin_inv {request : UpdateRequest} {mgmtIface id : Option String}
    {after : NetworkConfig} (idle : s.pending = none)
    (ok : admission request.config s.world.loadConfig mgmtIface s.world.topology s.world.live = .ok after)
    (consistent : Consistent up (some ⟨s.begun, s.world.loadConfig, after, id⟩) world.core) :
    (s.begin up request mgmtIface id world).Inv := by
  have begun : s.begin up request mgmtIface id world =
      { s with world, up, begun := s.begun + 1
               pending := some ⟨s.begun, s.world.loadConfig, after, id⟩ } := by
    rw [Sys.begin, ok]
  rw [begun]
  refine ⟨⟨?_, recorded.endings⟩, quiet, consistent⟩
  have accounted := recorded.accounted
  rw [idle, Option.toList_none, map_nil, append_nil] at accounted
  simp [range_succ, accounted]

end

theorem quieted_quiet {w : World} : w.quieted.Quiet := ⟨rfl, rfl⟩

section steps
variable {s : Sys} (inv : s.Inv) (up : s.up = true) {request : UpdateRequest} {mgmtIface : Option String} {steps : Nat}

include inv

theorem Sys.Inv.running (up : s.up = true) : Consistent true s.pending s.world.core := up ▸ inv.consistent

theorem Sys.Inv.idle (pending : s.pending = none) : (s.up = true → s.world.transactions = []) ∧
      (s.world.files .pendingRevert = none ∨ s.world.files .pendingRevert = some (.config s.world.loadConfig)) := by
  have reflects := inv.consistent.reflects
  rw [pending] at reflects
  cases reflects with
  | idle table snapshot => exact ⟨table, snapshot⟩

theorem Sys.Inv.busy (pending : s.pending = some txn) :
    s.world.files .pendingRevert = some (.config txn.before) ∧ validate (toLayered txn.before) = .ok () ∧
      (s.up = true → txn.Armed s.world.core) := by
  have reflects := inv.consistent.reflects
  rw [pending] at reflects
  cases reflects with
  | busy snapshot restorable armed => exact ⟨snapshot, restorable, armed⟩

theorem Sys.Inv.free_idle (free : refuseWhenBusy s.world = .ok ()) : s.pending = none := by
  cases pending : s.pending with
  | none => rfl
  | some txn => cases (refuseWhenBusy_ok free).2.symm.trans (inv.busy pending).1

theorem Sys.Inv.consistent_networking (free : refuseWhenBusy s.world = .ok ()) {config : NetworkConfig}
    (ok : validate (toLayered config) = .ok ()) {up : Bool} :
    Consistent up none { s.world.core with networking := some (.config config) } := by
  obtain ⟨idle, clear⟩ := refuseWhenBusy_ok free
  exact ⟨ok, inv.consistent.one, .idle (fun _ => idle) (.inl clear)⟩

theorem Sys.Inv.updated (up : s.up = true) :
    (s.updated request mgmtIface).Inv := by
  have consistent := inv.running up
  cases updatePath inv.quiet with
  | refused ran =>
    rw [Sys.updated, ran]
    exact inv
  | late free _ ran =>
    rw [Sys.updated, ran]
    have pending := inv.free_idle free
    refine Sys.keep_inv inv.toRecorded ⟨inv.quiet.files, inv.quiet.nm⟩ ?_
    rw [core_written_pendingRevert, up, pending]
    exact ⟨consistent.accepted, consistent.one, .idle (fun _ => (refuseWhenBusy_ok free).1) (.inr rfl)⟩
  | direct free admitted ok window =>
    obtain ⟨-, ⟨_, _, _, _⟩, t, ran, rfl, core, running⟩ := ensures_update_direct (K := fun _ => True)
      free admitted ok inv.quiet window trivial trivial
    rw [Sys.updated, ran]
    refine Sys.keep_inv inv.toRecorded running.quiet ?_
    rw [core, inv.free_idle free]
    exact inv.consistent_networking free ok
  | @windowed config _ free admitted ok window =>
    obtain ⟨-, ⟨_, _, _, _⟩, t, ran, id, txn, rfl, isOpen, core, running⟩ := ensures_update_window
      (K := fun _ => True) free admitted ok inv.quiet window trivial trivial trivial
      fun _ _ _ => trivial
    rw [Sys.updated, ran]
    refine Sys.begin_inv inv.toRecorded running.quiet (inv.free_idle free) admitted ?_
    have table := Core.opened_idle (c := s.world.core) (refuseWhenBusy_ok free).1 config s.world.loadConfig id txn
    rw [core]
    refine ⟨ok, by rw [table]; rfl, .busy rfl consistent.accepted fun _ => ⟨rfl, ?_⟩⟩
    exact ⟨id, txn, rfl, table, isOpen, by simp [Core.opened]⟩

/-- Where an update from rest can be cut off: before its snapshot is in place, or after. -/
def Sys.Starting (s : Sys) (after : NetworkConfig) (c : Core) : Prop :=
  c.pendingRevert = none ∧ Consistent false none c ∨ Consistent false (some ⟨s.begun, s.world.loadConfig, after, none⟩) c

theorem Sys.Inv.updateCut_starting
    (free : refuseWhenBusy s.world = .ok ()) {after : NetworkConfig}
    (ok : admission request.config s.world.loadConfig mgmtIface s.world.topology s.world.live = .ok after)
    (along : Along (fun v => s.Starting after v.core) (update request mgmtIface) s.world) :
    (s.updateCut request mgmtIface steps).Inv := by
  have starting : s.Starting after (cut steps (update request mgmtIface) s.world).quieted.core :=
    along_cut along
  have idle := inv.free_idle free
  unfold Sys.updateCut
  rcases starting with ⟨clear, consistent⟩ | consistent
  · rw [if_neg fun appeared => appeared.2 clear]
    refine Sys.keep_inv inv.toRecorded quieted_quiet ?_
    rw [idle]
    exact consistent
  · rw [if_pos]
    · exact Sys.begin_inv inv.toRecorded quieted_quiet idle ok consistent
    · refine ⟨(refuseWhenBusy_ok free).2, ?_⟩
      cases consistent.reflects with
      | busy snapshot =>
        intro clear
        cases clear.symm.trans snapshot

theorem Sys.Inv.updateCut :
    (s.updateCut request mgmtIface steps).Inv := by
  have resting : ∀ after, refuseWhenBusy s.world = .ok () → s.Starting after s.world.core :=
    fun after free => .inl ⟨(refuseWhenBusy_ok free).2, inv.free_idle free ▸ inv.consistent.down⟩
  have begun : ∀ {after : NetworkConfig} {c : Core}, refuseWhenBusy s.world = .ok () →
      validate (toLayered c.loadConfig) = .ok () → c.transactions.length ≤ 1 →
      c.pendingRevert = some (.config s.world.loadConfig) → s.Starting after c :=
    fun free ok one snapshot =>
      .inr ⟨ok, one, .busy snapshot inv.consistent.accepted nofun⟩
  cases updatePath inv.quiet with
  | refused _ along =>
    have eq : (cut steps (update request mgmtIface) s.world).quieted.core = s.world.core :=
      along_cut (along (fun v => v.core = s.world.core) rfl)
    have file := congrArg Core.pendingRevert eq
    unfold Sys.updateCut
    rw [if_neg fun appeared => appeared.2 (file.trans appeared.1)]
    refine Sys.keep_inv inv.toRecorded quieted_quiet ?_
    rw [eq]
    exact inv.consistent.down
  | late free admitted _ along =>
    exact inv.updateCut_starting free admitted (along _ (resting _ free)
      (begun free inv.consistent.accepted inv.consistent.one rfl))
  | direct free admitted ok window =>
    refine inv.updateCut_starting free admitted (ensures_update_direct (K := s.Starting _) free admitted
      ok inv.quiet window (resting _ free) (.inl ⟨(refuseWhenBusy_ok free).2, ?_⟩)).1
    exact inv.consistent_networking free ok
  | windowed free admitted ok window =>
    refine inv.updateCut_starting free admitted (ensures_update_window (K := s.Starting _) free admitted
      ok inv.quiet window (resting _ free)
      (begun free inv.consistent.accepted inv.consistent.one rfl)
      (begun free ok inv.consistent.one rfl) fun id txn _ => begun free ok ?_ rfl).1
    rw [Core.opened_idle (refuseWhenBusy_ok free).1]
    rfl

theorem Sys.Inv.table (up : s.up = true) : s.pending = none ∧ s.world.transactions = [] ∨
      ∃ txn id open_, s.pending = some txn ∧ txn.id = some id ∧ txn.Armed s.world.core ∧
        s.world.transactions = [(id, open_)] ∧ open_.cancel = true := by
  cases pending : s.pending with
  | none => exact .inl ⟨rfl, (inv.idle pending).1 up⟩
  | some txn =>
    have armed := (inv.busy pending).2.2 up
    obtain ⟨id, open_, named, table, isOpen, -⟩ := armed.entry
    exact .inr ⟨txn, id, open_, rfl, named, armed, table, isOpen⟩

variable {open_ : PendingTxn}

theorem Sys.Inv.txn_pending (up : s.up = true) (hit : s.world.txn id = some open_) :
    ∃ txn, s.pending = some txn ∧ txn.id = some id ∧ txn.Armed s.world.core ∧ open_.cancel = true ∧
      s.world.transactions = [(id, open_)] := by
  rcases inv.table up with ⟨-, empty⟩ | ⟨txn, id', open', pending, named, armed, table, isOpen⟩
  · simp [World.txn, empty] at hit
  · rw [World.txn, table, lookup_cons] at hit
    split at hit
    next eq =>
      obtain rfl := beq_iff_eq.mp eq
      obtain rfl := Option.some.inj hit
      exact ⟨txn, pending, named, armed, isOpen, table⟩
    · cases hit

omit inv in
theorem Settling.ended {up : Bool} {c : Core}
    (pending : s.pending = some txn) (networking : c.networking = some (.config (outcome.config txn)))
    (ok : validate (toLayered (outcome.config txn)) = .ok ()) (cleared : c.pendingRevert = none)
    (one : c.transactions.length ≤ 1) (table : up = true → c.transactions = []) :
    Settling up s.pending outcome c := by
  refine .inr ⟨txn, pending, networking, cleared, ?_, one, .idle table (.inl cleared)⟩
  rw [Core.loadConfig, networking]
  exact ok

theorem Sys.Inv.confirm_settling (up : s.up = true) {id : String} :
    Along (fun v => Settling false s.pending .confirmed v.core) (confirm id) s.world ∧
      Settling true s.pending .confirmed (run (confirm id) s.world).2.core ∧
      (run (confirm id) s.world).2.Quiet := by
  have consistent := inv.running up
  by_cases found : ∃ open_, s.world.txn id = some open_
  · obtain ⟨open_, found⟩ := found
    obtain ⟨txn, pending, -, armed, isOpen, table⟩ := inv.txn_pending up found
    have ok : validate (toLayered txn.after) = .ok () := by
      have loaded := consistent.accepted
      rwa [Core.loadConfig, armed.persisted] at loaded
    have dropped : (s.world.transactions.filter fun e => e.1 ≠ id) = [] := by
      simp [table]
    -- the snapshot goes first, then the table entry
    obtain ⟨along, _, t, ran, rfl⟩ := ensures_confirm (K := Settling false s.pending .confirmed) found
      isOpen inv.quiet (.inl consistent.down)
      (.ended pending armed.persisted ok rfl consistent.one nofun)
      (.ended pending armed.persisted ok rfl ((length_filter_le _ _).trans consistent.one) nofun)
    refine ⟨along, ?_, ?_⟩
    · rw [ran, core_dropTxn, core_put_pendingRevert]
      exact .ended pending armed.persisted ok rfl ((length_filter_le _ _).trans consistent.one) fun _ => dropped
    · rw [ran]
      exact ⟨inv.quiet.files, inv.quiet.nm⟩
  · obtain ⟨⟨e, ran⟩, along⟩ := confirm_refused fun open_ h => absurd ⟨open_, h⟩ found
    rw [ran]
    exact ⟨along _ (.inl consistent.down), .inl consistent, inv.quiet⟩

omit inv in
theorem txn_only {w : World} (table : w.transactions = [(id, open_)]) : w.txn id = some open_ := by
  rw [World.txn, table, lookup_cons_self]

omit inv in
theorem closed_of_gone {w : World} (gone : w.txn id = none) :
    w.core.closed id = { w.core with timers := w.timers.erase id } := by
  have table : (w.transactions.map fun e =>
      if e.1 = id then (e.1, ({ e.2 with cancel := false } : PendingTxn)) else e) = w.transactions := by
    refine (map_congr_left fun e mem => ?_).trans (map_id _)
    have other := lookup_eq_none_iff.mp gone e mem
    rw [if_neg fun eq => by simp [eq] at other]
    rfl
  simp [Core.closed, World.core, table]

theorem Sys.Inv.consistent_closed (up : s.up = true) (gone : s.world.txn id = none) :
    Consistent true s.pending (s.world.core.closed id) := by
  rw [closed_of_gone gone]
  refine ⟨inv.consistent.accepted, inv.consistent.one, ?_⟩
  cases pending : s.pending with
  | none =>
    obtain ⟨table, snapshot⟩ := inv.idle pending
    exact .idle (fun _ => table up) snapshot
  | some txn =>
    obtain ⟨snapshot, restorable, armed⟩ := inv.busy pending
    refine .busy snapshot restorable fun _ => ⟨(armed up).persisted, ?_⟩
    obtain ⟨id', open_, named, table, isOpen, timer⟩ := (armed up).entry
    have ne : id' ≠ id := by
      rintro rfl
      cases gone.symm.trans (txn_only table)
    exact ⟨id', open_, named, table, isOpen, (mem_erase_of_ne ne).mpr timer⟩

theorem Sys.Inv.expire_settling (up : s.up = true) (id : String) :
    Proc.Along (fun v => Settling false s.pending .rolledBack v.core) (expireTimer id) s.world ∧
      Settling true s.pending .rolledBack (Proc.run (expireTimer id) s.world).2.core ∧
      (Proc.run (expireTimer id) s.world).2.Quiet := by
  have consistent := inv.running up
  cases eq : s.world.txn id with
  | none =>
    obtain ⟨ran, along⟩ := expireTimer_gone eq
    have closed := inv.consistent_closed up eq
    rw [ran]
    exact ⟨along _ (.inl consistent.down) (.inl closed.down), .inl closed, inv.quiet.files, inv.quiet.nm⟩
  | some open_ =>
    obtain ⟨txn, pending, -, armed, isOpen, table⟩ := inv.txn_pending up eq
    obtain ⟨snapshot, ok, -⟩ := inv.busy pending
    have closed : (s.world.core.closed id).transactions.length ≤ 1 := by
      rw [Core.closed, length_map]
      exact consistent.one
    have rolling : ∀ c : Core, validate (toLayered c.loadConfig) = .ok () → c.transactions.length ≤ 1 →
        c.pendingRevert = some (.config txn.before) → Settling false s.pending .rolledBack c := by
      intro c loaded one file
      rw [pending]
      exact .inl ⟨loaded, one, .busy file ok nofun⟩
    obtain ⟨along, t, ran, core, -, running⟩ := expireTimer_open
      (K := Settling false s.pending .rolledBack) eq ok inv.quiet snapshot
      (.inl consistent.down) (rolling _ consistent.accepted closed snapshot)
      (rolling _ ok closed snapshot) (.ended pending rfl ok rfl closed nofun)
      (.ended pending rfl ok rfl ((length_filter_le _ _).trans closed) nofun)
    refine ⟨along, ?_, ?_⟩
    · rw [ran, core]
      refine .ended pending rfl ok rfl ((length_filter_le _ _).trans closed) fun _ => ?_
      change List.filter _ (List.map _ s.world.transactions) = []
      simp [table]
    · rw [ran]
      exact running.quiet

theorem Sys.Inv.restore_settling :
    Along (fun v => Settling false s.pending .rolledBack v.core) restorePendingRevert s.world.restart ∧
      Settling true s.pending .rolledBack (run restorePendingRevert s.world.restart).2.core ∧
      (run restorePendingRevert s.world.restart).2.Quiet := by
  have quiet : s.world.restart.Quiet := ⟨inv.quiet.files, inv.quiet.nm⟩
  cases pending : s.pending with
  | none =>
    have resting : ∀ {up : Bool} {c : Core}, validate (toLayered c.loadConfig) = .ok () →
        c.transactions = [] → (c.pendingRevert = none ∨ c.pendingRevert = some (.config c.loadConfig)) →
        Settling up none .rolledBack c := fun loaded table file =>
      .inl ⟨loaded, by rw [table]; exact Nat.zero_le 1, .idle (fun _ => table) file⟩
    have ok : validate (toLayered s.world.restart.loadConfig) = .ok () := inv.consistent.accepted
    rcases (inv.idle pending).2 with clear | left
    · obtain ⟨ran, along⟩ := restorePendingRevert_clear (w := s.world.restart) clear
      rw [ran]
      exact ⟨along _ (resting ok rfl (.inl clear)), resting ok rfl (.inl clear), quiet⟩
    · obtain ⟨along, _, t, ran, core, -, running⟩ := ensures_restorePendingRevert
        (K := Settling false none .rolledBack) ok quiet (resting ok rfl (.inr left))
        (resting ok rfl (.inr left)) left (resting ok rfl (.inl rfl))
      rw [ran]
      refine ⟨along, ?_, running.quiet⟩
      rw [core]
      exact resting ok rfl (.inl rfl)
  | some txn =>
    obtain ⟨snapshot, ok, -⟩ := inv.busy pending
    have restoring : ∀ c : Core, validate (toLayered c.loadConfig) = .ok () → c.transactions = [] →
        c.pendingRevert = some (.config txn.before) → Settling false (some txn) .rolledBack c :=
      fun c loaded table file => .inl ⟨loaded, by rw [table]; exact Nat.zero_le 1, .busy file ok nofun⟩
    obtain ⟨along, _, t, ran, core, -, running⟩ := ensures_restorePendingRevert
      (K := Settling false (some txn) .rolledBack) ok quiet
      (restoring _ inv.consistent.accepted rfl snapshot) (restoring _ ok rfl snapshot) snapshot
      (pending ▸ .ended pending rfl ok rfl (Nat.zero_le 1) nofun)
    rw [ran]
    refine ⟨along, ?_, running.quiet⟩
    rw [core]
    exact pending ▸ .ended pending rfl ok rfl (Nat.zero_le 1) fun _ => rfl

end steps

theorem step_inv {t : Sys} (inv : s.Inv) (step : Step s t) : t.Inv := by
  cases step with
  | update up request mgmtIface => exact inv.updated up
  | updateCut up request mgmtIface steps => exact inv.updateCut
  | confirm up id =>
    obtain ⟨-, settling, quiet⟩ := inv.confirm_settling up
    exact Sys.settle_inv inv.toRecorded quiet settling
  | confirmCut up id steps =>
    exact Sys.settle_inv inv.toRecorded quieted_quiet (along_cut (inv.confirm_settling up).1)
  | expire up =>
    obtain ⟨-, settling, quiet⟩ := inv.expire_settling up _
    exact Sys.settle_inv inv.toRecorded quiet settling
  | expireCut up _ steps =>
    exact Sys.settle_inv inv.toRecorded quieted_quiet (Proc.along_cut (inv.expire_settling up _).1 steps)
  | restart down =>
    obtain ⟨-, settling, quiet⟩ := inv.restore_settling
    exact Sys.settle_inv inv.toRecorded quiet settling
  | restartCut down steps =>
    exact Sys.settle_inv inv.toRecorded quieted_quiet (along_cut inv.restore_settling.1)
  | outside now live settled topology quiet =>
    exact Sys.keep_inv inv.toRecorded ⟨inv.quiet.files, quiet⟩ inv.consistent

theorem reached_inv {t : Sys} (reached : Relation.ReflTransGen Step s t) (inv : s.Inv) : t.Inv := by
  induction reached with
  | refl => exact inv
  | tail _ step ih => exact step_inv ih step

theorem Sys.Initial.inv (initial : s.Initial) : s.Inv := by
  obtain ⟨begun, pending, ended⟩ := initial.fresh
  refine ⟨⟨by simp [begun, pending, ended], by simp [ended]⟩, initial.quiet, initial.accepted, ?_, ?_⟩
  · rw [show s.world.core.transactions = [] from initial.idle]
    exact Nat.zero_le 1
  · rw [pending]
    exact .idle (fun _ => initial.idle) (.inl initial.clear)

/-- Nothing is pending any more, and the last ending is that of `txn`, with this outcome and what it
leaves in the two files. -/
def Sys.Over (s t : Sys) (txn : Txn) (outcome : Outcome) : Prop :=
  t.pending = none ∧ t.ended = s.ended ++ [⟨txn, outcome, some (.config (outcome.config txn)), none⟩]

def Sys.Awaits (s : Sys) (id : String) : Prop := ∃ txn, s.pending = some txn ∧ txn.id = some id

structure Sys.Safe (s : Sys) : Prop extends s.Recorded where
  /-- The table never holds two transactions, and a running engine's only the pending one. -/
  one : s.world.transactions.length ≤ 1
  table : s.up = true → ∀ entry ∈ s.world.transactions, s.Awaits entry.1
  snapshot : ∀ txn, s.pending = some txn → s.world.files .pendingRevert = some (.config txn.before)
  /-- A confirm succeeds for the pending transaction only, which is then over as confirmed; one that
  is refused changes no record. -/
  confirms : s.up = true → ∀ id, (run (confirm id) s.world).1 = .ok () ↔ s.Awaits id
  confirmed : s.up = true → ∀ id txn, s.pending = some txn → txn.id = some id →
    s.Over (s.confirmed id) txn .confirmed ∧ ∀ e ∈ s.ended, e.txn.serial ≠ txn.serial
  refused : s.up = true → ∀ id, (run (confirm id) s.world).1 ≠ .ok () → s.confirmed id = s
  expires : s.up = true → ∀ txn, s.pending = some txn →
    ∃ id ∈ s.world.timers, txn.id = some id ∧ s.Over (s.expired id) txn .rolledBack
  /-- A timer of no pending transaction changes neither a record nor a file. -/
  stale : s.up = true → ∀ id, ¬ s.Awaits id → s.expired id = { s with world := s.world.closeWindow id }
  restarts : s.up = false → s.restarted.pending = none
  restored : s.up = false → ∀ txn, s.pending = some txn → s.Over s.restarted txn .rolledBack

theorem Sys.settle_pending (cleared : world.files .pendingRevert = none) :
    (s.settle up outcome world).pending = none := by
  unfold Sys.settle
  rw [cleared]
  cases pending : s.pending with
  | none => rfl
  | some txn => rfl

theorem Sys.Over.settled (pending : s.pending = some txn)
    (networking : world.files .networking = some (.config (outcome.config txn)))
    (cleared : world.files .pendingRevert = none) : s.Over (s.settle up outcome world) txn outcome := by
  rw [Sys.settle_over pending networking cleared]
  exact ⟨rfl, rfl⟩

theorem Sys.Inv.expires (inv : s.Inv) (up : s.up = true) (pending : s.pending = some txn) :
    ∃ id ∈ s.world.timers, txn.id = some id ∧ s.Over (s.expired id) txn .rolledBack := by
  obtain ⟨snapshot, ok, armed⟩ := inv.busy pending
  obtain ⟨id, open_, named, table, -, timer⟩ := (armed up).entry
  obtain ⟨-, t, ran, core, -⟩ := expireTimer_open (K := fun _ => True) (txn_only table) ok inv.quiet snapshot
    trivial trivial trivial trivial trivial
  refine ⟨id, timer, named, ?_⟩
  rw [Sys.expired, ran]
  exact .settled pending (congrArg Core.networking core) (congrArg Core.pendingRevert core)

theorem Sys.Inv.reinstated {prev : NetworkConfig} (inv : s.Inv) (snapshot : s.world.files .pendingRevert = some (.config prev))
    (ok : validate (toLayered prev) = .ok ()) :
    let world := (run restorePendingRevert s.world.restart).2
    world.files .networking = some (.config prev) ∧ world.files .pendingRevert = none := by
  obtain ⟨-, _, t, ran, core, -⟩ := ensures_restorePendingRevert (K := fun _ => True)
    (w := s.world.restart) ok ⟨inv.quiet.files, inv.quiet.nm⟩ trivial trivial snapshot trivial
  rw [ran]
  exact ⟨congrArg Core.networking core, congrArg Core.pendingRevert core⟩

theorem Sys.Inv.restarts (inv : s.Inv) : s.restarted.pending = none := by
  refine Sys.settle_pending ?_
  cases pending : s.pending with
  | some txn =>
    obtain ⟨snapshot, ok, -⟩ := inv.busy pending
    exact (inv.reinstated snapshot ok).2
  | none =>
    rcases (inv.idle pending).2 with clear | left
    · rw [(restorePendingRevert_clear (w := s.world.restart) clear).1]
      exact clear
    · exact (inv.reinstated left inv.consistent.accepted).2

theorem Sys.Inv.restored (inv : s.Inv) (pending : s.pending = some txn) : s.Over s.restarted txn .rolledBack := by
  obtain ⟨snapshot, ok, -⟩ := inv.busy pending
  obtain ⟨networking, cleared⟩ := inv.reinstated snapshot ok
  exact .settled pending networking cleared

theorem Sys.Inv.unended (inv : s.Inv) (pending : s.pending = some txn) :
    ∀ e ∈ s.ended, e.txn.serial ≠ txn.serial := by
  intro e ended eq
  have distinct : (s.ended.map (·.txn.serial) ++ s.pending.toList.map (·.serial)).Nodup := by
    rw [inv.accounted]
    exact nodup_range
  rw [pending, nodup_append] at distinct
  exact distinct.2.2 _ (mem_map.mpr ⟨e, ended, rfl⟩) txn.serial (by simp) eq

theorem Sys.Inv.confirmed (inv : s.Inv) (up : s.up = true) (pending : s.pending = some txn)
    (named : txn.id = some id) :
    (run (confirm id) s.world).1 = .ok () ∧ s.Over (s.confirmed id) txn .confirmed := by
  have armed := (inv.busy pending).2.2 up
  obtain ⟨id', open_, named', table, isOpen, -⟩ := armed.entry
  obtain rfl : id = id' := Option.some.inj (named.symm.trans named')
  obtain ⟨-, _, t, ran, rfl⟩ := ensures_confirm (K := fun _ => True) (txn_only table) isOpen inv.quiet
    trivial trivial trivial
  rw [Sys.confirmed, ran]
  exact ⟨rfl, .settled pending armed.persisted rfl⟩

section
variable (inv : s.Inv) (on : s.up = true) (unknown : ¬ s.Awaits id)
include inv on unknown

theorem Sys.Inv.txn_unknown : s.world.txn id = none := by
  refine Option.eq_none_iff_forall_ne_some.mpr fun open_ hit => ?_
  obtain ⟨txn, pending, named, -⟩ := inv.txn_pending on hit
  exact unknown ⟨txn, pending, named⟩

theorem Sys.Inv.confirm_unknown :
    (∃ e, run (confirm id) s.world = (.error e, s.world)) ∧ s.confirmed id = s := by
  have gone := inv.txn_unknown on unknown
  obtain ⟨⟨e, ran⟩, -⟩ := confirm_refused fun open_ hit => by cases gone.symm.trans hit
  refine ⟨⟨e, ran⟩, ?_⟩
  rw [Sys.confirmed, ran, Sys.settle_kept fun txn pending => (inv.busy pending).1, ← on]

theorem Sys.Inv.stale : s.expired id = { s with world := s.world.closeWindow id } := by
  rw [Sys.expired, (expireTimer_gone (inv.txn_unknown on unknown)).1, ← on]
  exact Sys.settle_kept fun txn pending => (inv.busy pending).1

end

theorem Sys.Inv.confirms (inv : s.Inv) (up : s.up = true) (id : String) :
    (run (confirm id) s.world).1 = .ok () ↔ s.Awaits id := by
  constructor
  · intro succeeded
    by_contra unknown
    obtain ⟨⟨e, ran⟩, -⟩ := inv.confirm_unknown up unknown
    rw [ran] at succeeded
    cases succeeded
  · rintro ⟨txn, pending, named⟩
    exact (inv.confirmed up pending named).1

theorem Sys.Inv.safe (inv : s.Inv) : s.Safe where
  toRecorded := inv.toRecorded
  one := inv.consistent.one
  table := by
    intro up entry mem
    rcases inv.table up with ⟨-, empty⟩ | ⟨txn, id, open_, pending, named, -, table, -⟩
    · simp [empty] at mem
    · rw [table] at mem
      obtain rfl := mem_singleton.mp mem
      exact ⟨txn, pending, named⟩
  snapshot := fun _ pending => (inv.busy pending).1
  confirms := fun up id => inv.confirms up id
  confirmed := fun up _ _ pending named => ⟨(inv.confirmed up pending named).2, inv.unended pending⟩
  refused := fun up id failed => (inv.confirm_unknown up (mt (inv.confirms up id).mpr failed)).2
  expires := fun up _ pending => inv.expires up pending
  stale := fun up _ unknown => inv.stale up unknown
  restarts := fun _ => inv.restarts
  restored := fun _ _ pending => inv.restored pending

/-- In every run of updates, confirmations, timers, crashes at any step and restarts, from a service
at rest whose config the validator accepts and whose file operations and applies succeed. -/
theorem transactions_safe {start s : Sys} (initial : start.Initial)
    (reached : Relation.ReflTransGen Step start s) : s.Safe :=
  (reached_inv reached initial.inv).safe

def taggedPort : UpdateRequest :=
  { config := { interfaces := [{ name := "eth0" }]
                vlans := [{ parent := "eth0", vlanId := 5, ipv4 := { method := .dhcp }, ipv6 := {} }] }
    confirmWithinSecs := some 60 }

def resting : Sys := { world := {} }

theorem resting_initial : resting.Initial := ⟨⟨rfl, rfl⟩, by decide, rfl, rfl, rfl, rfl, rfl, rfl⟩

/-- One update with a confirm window, confirmed in time in one run and left to its timer in the other. -/
theorem transactions_safe_taggedPort : (resting.updated taggedPort none).pending.map (·.id) = some (some "0-0") ∧
      (resting.updated taggedPort none).Safe ∧
      (run (confirm "0-0") (resting.updated taggedPort none).world).1 = .ok () ∧
      ((resting.updated taggedPort none).confirmed "0-0").ended.map (·.outcome) = [.confirmed] ∧
      ((resting.updated taggedPort none).confirmed "0-0").Safe ∧
      ((resting.updated taggedPort none).expired "0-0").ended.map (·.outcome) = [.rolledBack] ∧
      ((resting.updated taggedPort none).expired "0-0").Safe := by
  have opened : Relation.ReflTransGen Step resting (resting.updated taggedPort none) :=
    .single (.update rfl taggedPort none)
  have confirmed : Relation.ReflTransGen Step resting ((resting.updated taggedPort none).confirmed "0-0") :=
    opened.tail (.confirm (by decide) "0-0")
  have expired : Relation.ReflTransGen Step resting ((resting.updated taggedPort none).expired "0-0") :=
    opened.tail (.expire (by decide) (by decide))
  exact ⟨by decide, transactions_safe resting_initial opened, by decide, by decide,
    transactions_safe resting_initial confirmed, by decide, transactions_safe resting_initial expired⟩

end NastyEngine.Network
