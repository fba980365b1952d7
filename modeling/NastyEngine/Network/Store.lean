import NastyEngine.Network.Dbus

/-! `profiles nm` is what the engine owns in NetworkManager: one dictionary per connection id. -/

namespace NastyEngine.Network
open Lib Rust Fallible List

theorem sectionChanged_eq_false {a b : Option Section} : sectionChanged a b = false ↔ a = b := by
  rcases a with _ | a <;> rcases b with _ | b
  · simp [sectionChanged]
  · simp [sectionChanged]
  · simp [sectionChanged]
  · rw [Option.some.injEq, finmap_eq_iff_entries]
    simp [sectionChanged]

theorem diffSections_eq_nil {a b : SettingsDict} : diffSections a b = [] ↔ a = b := by
  simp only [diffSections, filter_eq_nil_iff, Finset.mem_sort, Finset.mem_union,
    Finmap.mem_keys, Bool.not_eq_true, sectionChanged_eq_false]
  refine ⟨fun same => Finmap.ext_lookup fun k => ?_, fun same => by simp [same]⟩
  by_cases present : k ∈ a ∨ k ∈ b
  · exact same k present
  · rw [not_or] at present
    rw [Finmap.lookup_eq_none.mpr present.1, Finmap.lookup_eq_none.mpr present.2]

variable (existing : List NmExisting) (p : NmConnection)

theorem lookup_connection : (toSettingsDict p).lookup "connection" = some (connectionSection p) := by
  unfold toSettingsDict typeSection
  cases p.typeSpecific <;> simp [lookup_insertSome]

theorem lookup_ethernet : (toSettingsDict p).lookup "802-3-ethernet" = ethernetSection p := by
  unfold toSettingsDict typeSection
  cases p.typeSpecific <;> simp [lookup_insertSome]

variable {k : Keeping} {p d : NmConnection} {e : NmExisting} {nm : NetworkManager k} {existing : List NmExisting}
  {desired : List NmConnection}

def nasty (nm : NetworkManager k) : List NmExisting := nm.connections.filterMap fun c => nastyEntry c.1 c.2

def profiles (nm : NetworkManager k) (id : String) : Option SettingsDict := (existingById (nasty nm) id).map (·.settings)

theorem nastyEntry_some {path : Nat} {settings : SettingsDict} (h : nastyEntry path settings = some e) :
    e.path = path ∧ e.settings = settings ∧ readString settings "connection" "id" = some e.id ∧
      startsWith e.id "nasty-" = true := by
  unfold nastyEntry at h
  split at h
  next id named =>
    split at h
    next owned =>
      obtain rfl := Option.some.inj h
      exact ⟨rfl, rfl, named, owned⟩
    · cases h
  · cases h

theorem nastyEntry_own (owned : startsWith p.id "nasty-" = true) (path : Nat) :
    nastyEntry path (k.kept (toSettingsDict p)) = some ⟨path, p.id, k.kept (toSettingsDict p)⟩ := by
  have named : readString (k.kept (toSettingsDict p)) "connection" "id" = some p.id := k.named
    (by simp [readString, lookup_connection, connectionSection, lookup_insertSome])
  simp [nastyEntry, named, owned]

theorem mem_nasty (mem : e ∈ nasty nm) :
    (e.path, e.settings) ∈ nm.connections ∧ nastyEntry e.path e.settings = some e := by
  obtain ⟨c, hc, entry⟩ := mem_filterMap.mp mem
  obtain ⟨path, settings, -⟩ := nastyEntry_some entry
  rw [path, settings]
  exact ⟨hc, entry⟩

theorem existingById_some {id : String} (hit : existingById existing id = some e) : e ∈ existing ∧ e.id = id := by
  obtain ⟨x, hx, eq⟩ := mem_map.mp (collect_mem hit)
  obtain ⟨rfl, rfl⟩ := Prod.mk.inj eq
  exact ⟨hx, rfl⟩

theorem nasty_paths {x y : NmExisting} (hx : x ∈ nasty nm) (hy : y ∈ nasty nm) (eq : x.path = y.path) : x = y := by
  have here := mem_nasty hx
  have there := mem_nasty hy
  have entry := inj_on_of_nodup_map nm.distinct here.1 there.1 eq
  have settings : x.settings = y.settings := (Prod.mk.inj entry).2
  rw [eq, settings] at here
  exact Option.some.inj (here.2.symm.trans there.2)

theorem nasty_add {nm : NetworkManager k} (owned : startsWith p.id "nasty-" = true) :
    nasty (nm.add (toSettingsDict p)) = nasty nm ++ [⟨nm.nextPath, p.id, k.kept (toSettingsDict p)⟩] := by
  simp [nasty, NetworkManager.add, filterMap_append, nastyEntry_own owned]

def NmExisting.renew (path : Nat) (settings : SettingsDict) (e : NmExisting) : NmExisting :=
  if e.path = path then { e with settings } else e

theorem nasty_update (mem : e ∈ nasty nm) (eq : p.id = e.id) : nasty (nm.update e.path (toSettingsDict p)) =
      (nasty nm).map (NmExisting.renew e.path (k.kept (toSettingsDict p))) := by
  have here := mem_nasty mem
  have owned := (nastyEntry_some here.2).2.2.2
  unfold nasty NetworkManager.update
  rw [filterMap_map, map_filterMap]
  refine filterMap_congr fun c hc => ?_
  simp only [Function.comp_apply, NetworkManager.replace]
  by_cases hit : c.1 = e.path
  · -- the connection with this path is the listed one
    obtain rfl := inj_on_of_nodup_map nm.distinct hc here.1 hit
    rw [if_pos rfl, here.2]
    simp only [nastyEntry_own (eq ▸ owned), Option.map_some, NmExisting.renew, if_true, eq]
  · rw [if_neg hit]
    cases entry : nastyEntry c.1 c.2 with
    | none => rfl
    | some x =>
      have path := (nastyEntry_some entry).1
      simp [NmExisting.renew, path, hit]

theorem nasty_delete (nm : NetworkManager k) (path : Nat) : nasty (nm.delete path) = (nasty nm).filter (·.path ≠ path) := by
  unfold nasty NetworkManager.delete
  rw [filterMap_filter, filter_filterMap]
  refine filterMap_congr fun c _ => ?_
  cases entry : nastyEntry c.1 c.2 with
  | none => simp
  | some x =>
    have eq := (nastyEntry_some entry).1
    by_cases hit : c.1 = path <;> simp [Option.filter, eq, hit]

theorem existingById_concat (e : NmExisting) (id : String) :
    existingById (existing ++ [e]) id = if e.id = id then some e else existingById existing id := by
  unfold existingById collect
  by_cases same : e.id = id <;> simp [same]

theorem existingById_renew (path : Nat) (settings : SettingsDict) (id : String) :
    existingById (existing.map (NmExisting.renew path settings)) id =
      (existingById existing id).map (NmExisting.renew path settings) := by
  have keeps : ∀ e : NmExisting, (e.renew path settings).id = e.id := by
    intro e
    unfold NmExisting.renew
    split <;> rfl
  unfold existingById
  rw [← collect_map, map_map, map_map]
  congr 1
  exact map_congr_left fun e _ => by simp [keeps]

theorem existingById_filter (keep : String → Bool) (existing : List NmExisting) (id : String) :
    existingById (existing.filter fun e => keep e.id) id =
      if keep id then existingById existing id else none := by
  unfold existingById
  rw [← collect_filter, filter_map]
  rfl

theorem existingById_eq_none {id : String} : existingById existing id = none ↔ id ∉ existing.map (·.id) := by
  unfold existingById
  rw [collect_eq_none, map_map]
  rfl

theorem run_dbusCall {α : Type} {context : String} {effect : NetworkManager k → α × NetworkManager k} (quiet : nm.faults = []) :
    run (dbusCall context effect) nm = (.ok (effect nm).1, (effect nm).2) := by
  simp [dbusCall, quiet]

theorem readNasty_run (quiet : nm.faults = []) {cs : List (Nat × SettingsDict)} (stored : ∀ c ∈ cs, c ∈ nm.connections) :
    run (readNasty (cs.map Prod.fst)) nm = (.ok (cs.filterMap fun c => nastyEntry c.1 c.2), nm) := by
  induction cs with
  | nil => rfl
  | cons c rest ih =>
    have first : run (attempt (getSettings c.1) : Fallible String (NetworkManager k) _) nm = (.ok (.ok (some c.2)), nm) := by
      rw [run_attempt, getSettings, run_dbusCall quiet, collect_of_mem nm.distinct (stored c mem_cons_self)]
    have others := ih fun c hc => stored c (mem_cons_of_mem _ hc)
    rw [map_cons, readNasty, run_bind_ok first]
    rw [run_bind_ok others, run_pure, filterMap_cons]
    cases nastyEntry c.1 c.2 <;> rfl

theorem listNastyConnections_run (quiet : nm.faults = []) : run listNastyConnections nm = (.ok (nasty nm), nm) := by
  unfold listNastyConnections listConnections
  rw [run_bind_ok (run_dbusCall quiet)]
  exact readNasty_run quiet fun _ hc => hc

structure Announces (diff : NmDiff) (out : NmApplyOutcome) : Prop where
  added : out.added = diff.toAdd
  updated : out.updated = diff.toUpdate.map (·.id)
  deleted : out.deleted = diff.toDelete

structure Announced (diff : NmDiff) (out : NmApplyOutcome) : Prop extends Announces diff out where
  unchanged : out.unchanged.length = diff.summary.unchanged

def settled (existing : List NmExisting) (d : NmConnection) : Bool :=
  (existingById existing d.id).any fun e => (diffSections (toSettingsDict d) e.settings).isEmpty

def written (existing : List NmExisting) (nm : NetworkManager k) (d : NmConnection) : NetworkManager k :=
  match existingById existing d.id with
  | none => nm.add (toSettingsDict d)
  | some e => if settled existing d then nm else nm.update e.path (toSettingsDict d)

def erased (ids : List String) (nm : NetworkManager k) (e : NmExisting) : NetworkManager k :=
  if e.id ∈ ids then nm else nm.delete e.path

/-- What NetworkManager has of a profile once it is dealt with. -/
def taken (k : Keeping) (existing : List NmExisting) (d : NmConnection) : SettingsDict :=
  if settled existing d then toSettingsDict d else k.kept (toSettingsDict d)

/-- One or more turns of the loop over the desired profiles: the profiles dealt with are in force
afterwards, and connections with other ids are as they were. -/
structure Turned (existing : List NmExisting) (desired : List NmConnection) (before after : NetworkManager k) :
    Prop where
  quiet : after.faults = []
  own : ∀ d ∈ desired, profiles after d.id = some (taken k existing d)
  others : ∀ id, id ∉ desired.map (·.id) → existingById (nasty after) id = existingById (nasty before) id
  kept : ∀ x : NmExisting, x.id ∉ desired.map (·.id) → (x ∈ nasty after ↔ x ∈ nasty before)
  ids : (nasty after).map (·.id) = (nasty before).map (·.id) ++
    (desired.filter fun d => (existingById existing d.id).isNone).map (·.id)

theorem ApplyProgress.target_outcome (p : ApplyProgress) (d : NmConnection) : (p.target d).outcome = p.outcome := by
  unfold ApplyProgress.target
  split <;> rfl

theorem Turned.add (quiet : nm.faults = []) (owned : startsWith d.id "nasty-" = true)
    (eq : existingById existing d.id = none) :
    Turned existing [d] nm (nm.add (toSettingsDict d)) := by
  refine ⟨quiet, ?_, ?_, ?_, ?_⟩
  · simp [profiles, nasty_add owned, existingById_concat, taken, settled, eq]
  · intro id ne
    simp only [map_singleton, mem_singleton] at ne
    simp [nasty_add owned, existingById_concat, Ne.symm ne]
  · intro x ne
    simp only [map_singleton, mem_singleton] at ne
    rw [nasty_add owned, mem_append, mem_singleton, or_iff_left]
    rintro rfl
    exact ne rfl
  · simp [nasty_add owned, eq]

theorem Turned.update (quiet : nm.faults = []) (current : existingById (nasty nm) d.id = some e)
    (found : existingById existing d.id = some e) (changed : settled existing d = false) :
    Turned existing [d] nm (nm.update e.path (toSettingsDict d)) := by
  obtain ⟨mem, eq⟩ := existingById_some current
  have renewed := nasty_update mem eq.symm
  have apart : ∀ x ∈ nasty nm, x.id ≠ d.id → x.path ≠ e.path := by
    intro x hx ne clash
    rw [nasty_paths hx mem clash] at ne
    exact ne eq
  refine ⟨quiet, ?_, ?_, ?_, ?_⟩
  · simp [profiles, renewed, existingById_renew, current, NmExisting.renew, taken, changed]
  · intro id ne
    rw [renewed, existingById_renew]
    cases entry : existingById (nasty nm) id with
    | none => rfl
    | some x =>
      obtain ⟨hx, rfl⟩ := existingById_some entry
      simp [NmExisting.renew, apart x hx (by simpa using ne)]
  · intro x ne
    simp only [map_singleton, mem_singleton] at ne
    rw [renewed, mem_map]
    constructor
    · rintro ⟨y, hy, rfl⟩
      by_cases hit : y.path = e.path
      · rw [nasty_paths hy mem hit] at ne
        simp [NmExisting.renew, eq] at ne
      · simpa [NmExisting.renew, hit] using hy
    · exact fun hx => ⟨x, hx, by simp [NmExisting.renew, apart x hx ne]⟩
  · rw [renewed, map_map]
    simp only [found, Option.isNone_some, Bool.false_eq_true, not_false_eq_true,
      filter_cons_of_neg, filter_nil, map_nil, append_nil]
    refine map_congr_left fun x _ => ?_
    simp only [Function.comp_apply, NmExisting.renew]
    split <;> rfl

theorem Turned.cons {rest : List NmConnection} {before mid after : NetworkManager k} (turned : Turned existing [d] before mid)
    (done : Turned existing rest mid after) (fresh : d.id ∉ rest.map (·.id)) :
    Turned existing (d :: rest) before after := by
  refine ⟨done.quiet, ?_, ?_, ?_, ?_⟩
  · intro x hx
    rcases mem_cons.mp hx with rfl | hx
    · rw [profiles, done.others x.id fresh]
      exact turned.own x mem_cons_self
    · exact done.own x hx
  · intro id other
    simp only [map_cons, mem_cons, not_or] at other
    rw [done.others id other.2, turned.others id (by simpa using other.1)]
  · intro x other
    simp only [map_cons, mem_cons, not_or] at other
    rw [done.kept x other.2, turned.kept x (by simpa using other.1)]
  · rw [done.ids, turned.ids, append_assoc, ← map_append, ← filter_append]
    rfl

section
variable (quiet : nm.faults = [])
include quiet

theorem applyDesired_run (p : ApplyProgress) : ∃ q, run (applyDesired existing p d) nm = (.ok q, written existing nm d) ∧
      ∀ diff, Announced diff p.outcome → Announced (diffDesired existing diff d) q.outcome := by
  unfold applyDesired written
  cases eq : existingById existing d.id with
  | none =>
    rw [run_bind, run_attempt, addConnection, run_dbusCall quiet]
    refine ⟨_, rfl, fun diff before => ?_⟩
    simp only [diffDesired, eq, ApplyProgress.target_outcome]
    exact ⟨⟨by simp [before.added], before.updated, before.deleted⟩, before.unchanged⟩
  | some e =>
    simp only [settled, eq, Option.any_some]
    split
    next unchanged =>
      refine ⟨_, rfl, fun diff before => ?_⟩
      simp only [diffDesired, eq, unchanged, if_true, ApplyProgress.target_outcome]
      exact ⟨{ before.1 with }, by simp [before.unchanged]⟩
    next changed =>
      rw [run_bind, run_attempt, updateConnection, run_dbusCall quiet]
      refine ⟨_, rfl, fun diff before => ?_⟩
      simp only [diffDesired, eq, changed, Bool.false_eq_true, if_false, ApplyProgress.target_outcome]
      exact ⟨⟨before.added, by simp [before.updated], before.deleted⟩, before.unchanged⟩

theorem Turned.written (owned : startsWith d.id "nasty-" = true)
    (current : existingById (nasty nm) d.id = existingById existing d.id) :
    Turned existing [d] nm (written existing nm d) := by
  unfold Network.written
  cases eq : existingById existing d.id with
  | none => exact .add quiet owned eq
  | some e =>
    dsimp only
    split
    next unchanged =>
      refine ⟨quiet, ?_, fun _ _ => rfl, fun _ _ => Iff.rfl, by simp [eq]⟩
      have same : toSettingsDict d = e.settings := by
        simpa [settled, eq, List.isEmpty_iff, diffSections_eq_nil] using unchanged
      simp [profiles, current, eq, taken, unchanged, same]
    next changed =>
      exact .update quiet (current.trans eq) eq (by simpa using changed)

theorem written_quiet : (written existing nm d).faults = [] := by
  unfold written
  split
  · exact quiet
  · split <;> exact quiet

theorem applyDesiredAll_run (p : ApplyProgress) :
    ∃ q, run (applyDesiredAll existing p desired) nm = (.ok q, desired.foldl (written existing) nm) ∧
      ∀ diff, Announced diff p.outcome → Announced (desired.foldl (diffDesired existing) diff) q.outcome := by
  induction desired generalizing nm p with
  | nil => exact ⟨p, rfl, fun _ before => before⟩
  | cons d rest ih =>
    obtain ⟨q, first, announced⟩ := @applyDesired_run _ d _ existing quiet p
    obtain ⟨r, others, announcedRest⟩ := ih (written_quiet quiet) q
    refine ⟨r, ?_, fun diff before => announcedRest _ (announced diff before)⟩
    rw [applyDesiredAll, run_bind_ok first]
    exact others

end

theorem Turned.all (unique : (desired.map (·.id)).Nodup) (owned : ∀ d ∈ desired, startsWith d.id "nasty-" = true)
    (quiet : nm.faults = []) (current : ∀ d ∈ desired, existingById (nasty nm) d.id = existingById existing d.id) :
    Turned existing desired nm (desired.foldl (Network.written existing) nm) := by
  induction desired generalizing nm with
  | nil => exact ⟨quiet, by simp, fun _ _ => rfl, fun _ _ => Iff.rfl, by simp⟩
  | cons d rest ih =>
    obtain ⟨fresh, unique⟩ := nodup_cons.mp unique
    have turned := Turned.written quiet (owned d mem_cons_self) (current d mem_cons_self)
    have apart : ∀ x ∈ rest, x.id ≠ d.id := fun x hx eq =>
      fresh (mem_map.mpr ⟨x, hx, eq⟩)
    refine turned.cons (ih unique (fun x hx => owned x (mem_cons_of_mem _ hx)) turned.quiet ?_) fresh
    exact fun x hx => (turned.others x.id (by simpa using apart x hx)).trans (current x (mem_cons_of_mem _ hx))

variable {ids : List String}

theorem deleteStale_run (quiet : nm.faults = []) (out : NmApplyOutcome) :
    ∃ res, run (deleteStale ids out existing) nm = (.ok res, existing.foldl (erased ids) nm) ∧
      ∀ diff, Announced diff out → Announced (existing.foldl (diffExisting ids) diff) res := by
  induction existing generalizing nm out with
  | nil => exact ⟨out, rfl, fun _ before => before⟩
  | cons e rest ih =>
    unfold deleteStale
    simp only [foldl_cons, diffExisting, erased]
    split
    · exact ih quiet out
    · obtain ⟨res, ran, announced⟩ := @ih (nm.delete e.path) quiet { out with deleted := out.deleted ++ [e.id] }
      refine ⟨res, ?_, fun diff before => announced _ ?_⟩
      · rw [run_bind, run_attempt, deleteConnection, run_dbusCall quiet]
        exact ran
      · exact ⟨⟨before.added, before.updated, by simp [before.deleted]⟩, before.unchanged⟩

theorem nasty_erased (listed : ∀ x ∈ nasty nm, x.id ∉ ids → x ∈ existing)
    (stale : ∀ e ∈ existing, e.id ∉ ids → ∀ x ∈ nasty nm, x.path = e.path → x.id ∉ ids) :
    nasty (existing.foldl (erased ids) nm) = (nasty nm).filter (fun x => x.id ∈ ids) := by
  induction existing generalizing nm with
  | nil =>
    refine (filter_eq_self.mpr fun x hx => ?_).symm
    by_contra ne
    exact not_mem_nil (listed x hx (by simpa using ne))
  | cons e rest ih =>
    rw [foldl_cons, erased]
    split
    next wanted =>
      exact ih (fun x hx ne => (mem_cons.mp (listed x hx ne)).resolve_left fun eq => ne (eq ▸ wanted))
        (fun x hx => stale x (mem_cons_of_mem _ hx))
    next unwanted =>
      have remaining := nasty_delete nm e.path
      rw [@ih (nm.delete e.path), remaining, filter_filter]
      · refine filter_congr fun x hx => ?_
        by_cases mine : x.id ∈ ids
        · have apart : x.path ≠ e.path := fun eq =>
            stale e mem_cons_self unwanted x hx eq mine
          simp [mine, apart]
        · simp [mine]
      · intro x hx ne
        rw [remaining, mem_filter] at hx
        refine (mem_cons.mp (listed x hx.1 ne)).resolve_left ?_
        rintro rfl
        simp at hx
      · intro y hy ne x hx
        rw [remaining, mem_filter] at hx
        exact stale y (mem_cons_of_mem _ hy) ne x hx.1

theorem activateAll_run (quiet : nm.faults = []) {targets : List (String × String)} (out : NmApplyOutcome) :
    ∃ res, run (activateAll out targets) nm = (.ok res, nm) ∧ ∀ diff, Announced diff out → Announced diff res := by
  induction targets generalizing out with
  | nil => exact ⟨out, rfl, fun _ before => before⟩
  | cons t rest ih =>
    obtain ⟨id, iface⟩ := t
    unfold activateAll
    rw [run_bind, run_attempt, findDeviceByName, run_dbusCall quiet]
    by_cases managed : iface ∈ nm.devices
    · obtain ⟨res, ran, announced⟩ := ih { out with activated := out.activated ++ [id] }
      refine ⟨res, ?_, fun diff before => announced diff ⟨{ before.1 with }, before.2⟩⟩
      simp only [managed, decide_true]
      rw [run_bind, run_attempt, activateConnection, run_dbusCall quiet]
      exact ran
    · obtain ⟨res, ran, announced⟩ :=
        ih (out.fail id ("no NM-managed device matches interface '" ++ iface ++ "'"))
      refine ⟨res, ?_, fun diff before => announced diff ⟨{ before.1 with }, before.2⟩⟩
      simp only [managed, decide_false]
      exact ran

def desiredProfiles (desired : List NmConnection) : String → Option SettingsDict :=
  collect (desired.map fun d => (d.id, toSettingsDict d))

def takenProfiles (k : Keeping) (existing : List NmExisting) (desired : List NmConnection) :
    String → Option SettingsDict :=
  collect (desired.map fun d => (d.id, taken k existing d))

structure Renderable (desired : List NmConnection) : Prop where
  unique : (desired.map (·.id)).Nodup
  owned : ∀ d ∈ desired, startsWith d.id "nasty-" = true

theorem Renderable.found (renderable : Renderable desired) (f : NmConnection → SettingsDict) (mem : d ∈ desired) :
    collect (desired.map fun d => (d.id, f d)) d.id = some (f d) := by
  refine collect_of_mem ?_ (mem_map.mpr ⟨d, mem, rfl⟩)
  simpa [Function.comp_def] using renderable.unique

structure Applied (desired : List NmConnection) (before after : NetworkManager k) (out : NmApplyOutcome) : Prop where
  quiet : after.faults = []
  kept : profiles after = takenProfiles k (nasty before) desired
  owned : ∀ e ∈ nasty after, e.id ∈ desired.map (·.id)
  announced : Announces (computeDiff desired (nasty before)) out
  unique : ((nasty before).map (·.id)).Nodup → ((nasty after).map (·.id)).Nodup

theorem Applied.store {before after : Nm} {out : NmApplyOutcome} (applied : Applied desired before after out) :
    profiles after = desiredProfiles desired := by
  rw [applied.kept]
  simp [takenProfiles, desiredProfiles, taken]

def stored (desired : List NmConnection) (nm : NetworkManager k) : NetworkManager k :=
  (nasty nm).foldl (erased (desired.map (·.id))) (desired.foldl (written (nasty nm)) nm)

theorem applyProfiles_stored {desired : List NmConnection} (quiet : nm.faults = []) : (stored desired nm).faults = [] ∧
    ∃ out, run (applyProfiles desired) nm = (.ok out, stored desired nm) ∧
      Announced (computeDiff desired (nasty nm)) out := by
  have quietMid := List.foldlRecOn (motive := fun mid : NetworkManager k => mid.faults = []) desired (written (nasty nm)) quiet
    fun mid quiet d _ => written_quiet quiet
  obtain ⟨p, first, announced⟩ := @applyDesiredAll_run _ _ (nasty nm) desired quiet {}
  obtain ⟨out, second, announcedAll⟩ := @deleteStale_run _ _ (nasty nm) (desired.map (·.id)) quietMid p.outcome
  have quietAfter := List.foldlRecOn (motive := fun mid : NetworkManager k => mid.faults = []) (nasty nm)
    (erased (desired.map (·.id))) quietMid fun mid quiet e _ => by unfold erased; split <;> exact quiet
  obtain ⟨res, third, announcedLast⟩ := activateAll_run quietAfter out
  refine ⟨quietAfter, res, ?_, announcedLast _ (announcedAll _ (announced {} ⟨⟨rfl, rfl, rfl⟩, rfl⟩))⟩
  unfold applyProfiles
  rw [run_bind_ok (listNastyConnections_run quiet), run_bind_ok first, run_bind_ok second]
  exact third

theorem applyProfiles_run (renderable : Renderable desired) (quiet : nm.faults = []) :
    ∃ out after, run (applyProfiles desired) nm = (.ok out, after) ∧ Applied desired nm after out := by
  obtain ⟨quietAfter, out, ran, announced⟩ := applyProfiles_stored quiet
  have turned := Turned.all renderable.unique renderable.owned quiet (fun _ _ => rfl)
  have left := @nasty_erased _ _ (nasty nm) (desired.map (·.id))
    (fun x hx ne => (turned.kept x ne).mp hx) fun e he ne x hx eq => by
      rw [nasty_paths hx ((turned.kept e ne).mpr he) eq]
      exact ne
  refine ⟨out, _, ran, ⟨quietAfter, ?_, ?_, announced.toAnnounces, ?_⟩⟩
  · funext id
    have kept := existingById_filter (fun i => decide (i ∈ desired.map (·.id)))
      (nasty (desired.foldl (written (nasty nm)) nm)) id
    rw [profiles, stored, left, kept]
    by_cases wanted : id ∈ desired.map (·.id)
    · obtain ⟨d, hd, rfl⟩ := mem_map.mp wanted
      rw [if_pos (by simpa using wanted)]
      exact (turned.own d hd).trans (renderable.found (taken k (nasty nm)) hd).symm
    · rw [if_neg (by simpa using wanted)]
      refine (collect_eq_none.mpr ?_).symm
      simpa [Function.comp_def] using wanted
  · intro e he
    rw [stored, left, mem_filter] at he
    simpa using he.2
  · intro unique
    rw [stored, left]
    refine List.Nodup.sublist (filter_sublist.map _) ?_
    rw [turned.ids, nodup_append]
    refine ⟨unique, renderable.unique.sublist (filter_sublist.map _), ?_⟩
    rintro a ha b hb rfl
    obtain ⟨d, hd, rfl⟩ := mem_map.mp hb
    have absent := (mem_filter.mp hd).2
    rw [Option.isNone_iff_eq_none, existingById_eq_none] at absent
    exact absent ha

structure NmDiff.Empty (diff : NmDiff) : Prop where
  toAdd : diff.toAdd = []
  toUpdate : diff.toUpdate = []
  toDelete : diff.toDelete = []

theorem diffExisting_empty {diff : NmDiff} :
    (existing.foldl (diffExisting ids) diff).Empty ↔ diff.Empty ∧ ∀ e ∈ existing, e.id ∈ ids := by
  induction existing generalizing diff with
  | nil => simp
  | cons e rest ih =>
    rw [foldl_cons, ih, forall_mem_cons]
    by_cases wanted : e.id ∈ ids
    · simp [diffExisting, wanted]
    · have busy : ¬ (diffExisting ids diff e).Empty := by
        intro h
        have nothing := h.toDelete
        simp [diffExisting, wanted] at nothing
      simp [busy, wanted]

theorem diffDesired_empty {diff : NmDiff} : (desired.foldl (diffDesired existing) diff).Empty ↔ diff.Empty ∧
      ∀ d ∈ desired, (existingById existing d.id).map (·.settings) = some (toSettingsDict d) := by
  induction desired generalizing diff with
  | nil => simp
  | cons d rest ih =>
    rw [foldl_cons, ih, forall_mem_cons, ← and_assoc]
    refine and_congr_left fun _ => ?_
    unfold diffDesired
    cases existingById existing d.id with
    | none =>
      simp only [Option.map_none, reduceCtorEq, and_false, iff_false]
      intro h
      have nothing := h.toAdd
      simp at nothing
    | some e =>
      simp only [Option.map_some, Option.some.injEq, List.isEmpty_iff, diffSections_eq_nil]
      split
      next eq =>
        simp only [eq, and_true]
        exact ⟨fun h => { h with }, fun h => { h with }⟩
      next changed =>
        refine ⟨fun h => ?_, fun h => absurd h.2.symm changed⟩
        have nothing := h.toUpdate
        simp at nothing

theorem computeDiff_empty : (computeDiff desired existing).Empty ↔
      (∀ d ∈ desired, (existingById existing d.id).map (·.settings) = some (toSettingsDict d)) ∧
        ∀ e ∈ existing, e.id ∈ desired.map (·.id) := by
  unfold computeDiff
  rw [diffExisting_empty, diffDesired_empty]
  exact ⟨fun h => ⟨h.1.2, h.2⟩, fun h => ⟨⟨⟨rfl, rfl, rfl⟩, h.1⟩, h.2⟩⟩

def foreign (nm : NetworkManager k) : List (Nat × SettingsDict) := nm.connections.filter fun c => (nastyEntry c.1 c.2).isNone

theorem foreign_written (owned : startsWith d.id "nasty-" = true)
    (apart : ∀ e ∈ existing, ∀ c ∈ foreign nm, c.1 ≠ e.path) :
    foreign (written existing nm d) = foreign nm := by
  unfold written
  split
  · simp [foreign, NetworkManager.add, nastyEntry_own owned]
  next e eq =>
    split
    · rfl
    · have other := apart e (existingById_some eq).1
      simp only [foreign, NetworkManager.update, mem_filter] at other ⊢
      generalize nm.connections = cs at other
      induction cs with
      | nil => rfl
      | cons c rest ih => grind [NetworkManager.replace, nastyEntry_own owned]

theorem foreign_erased (mem : e ∈ existing)
    (apart : ∀ e ∈ existing, ∀ c ∈ foreign nm, c.1 ≠ e.path) : foreign (erased ids nm e) = foreign nm := by
  unfold erased
  split
  · rfl
  · have other := apart e mem
    simp only [foreign, NetworkManager.delete, mem_filter, filter_filter] at other ⊢
    exact filter_congr fun c hc => by grind

theorem foreign_stored (renderable : Renderable desired) : foreign (stored desired nm) = foreign nm := by
  have apart : ∀ e ∈ nasty nm, ∀ c ∈ foreign nm, c.1 ≠ e.path := by
    intro e he c hc same
    have here := mem_nasty he
    obtain ⟨stored, other⟩ := mem_filter.mp hc
    obtain rfl := inj_on_of_nodup_map nm.distinct stored here.1 same
    simp [here.2] at other
  have mid := List.foldlRecOn (motive := fun mid => foreign mid = foreign nm) desired (written (nasty nm)) rfl
    fun mid same d hd => (foreign_written (renderable.owned d hd) (by rwa [same])).trans same
  exact List.foldlRecOn (motive := fun after => foreign after = foreign nm) (nasty nm) (erased _) mid
    fun after same e he => (foreign_erased he (by rwa [same])).trans same

theorem stored_of_empty (empty : (computeDiff desired (nasty nm)).Empty) : stored desired nm = nm := by
  obtain ⟨there, wanted⟩ := computeDiff_empty.mp empty
  have same := List.foldlRecOn (motive := fun mid => mid = nm) desired (written (nasty nm)) rfl fun mid same d hd => by
      obtain ⟨e, found, settings⟩ := Option.map_eq_some_iff.mp (there d hd)
      simp [written, settled, found, diffSections_eq_nil.mpr settings.symm, same]
  rw [stored, same]
  exact List.foldlRecOn (motive := fun mid => mid = nm) (nasty nm) (erased _) rfl
    fun mid same e he => (if_pos (wanted e he)).trans same

/-! The calls that are made, against the preview. -/

def NmCall.added : NmCall → Option SettingsDict
  | .add settings => some settings
  | _ => none

def NmCall.updated : NmCall → Option (Nat × SettingsDict)
  | .update path settings => some (path, settings)
  | _ => none

def NmCall.deleted : NmCall → Option Nat
  | .delete path => some path
  | _ => none

/-- Of each kind, the calls are those the preview lists, in its order: the new profiles with their dictionaries, the
changed ones with the path of the connection they replace, the stale connections with their paths. -/
structure Carried (desired : List NmConnection) (existing : List NmExisting) (diff : NmDiff) (calls : List NmCall) :
    Prop where
  added : ∃ fresh, fresh <+ desired ∧ diff.toAdd = fresh.map (·.id) ∧ calls.filterMap NmCall.added = fresh.map toSettingsDict
  updated : ∃ changed : List (NmConnection × NmExisting),
    (∀ c ∈ changed, c.1 ∈ desired ∧ c.2 ∈ existing ∧ c.2.id = c.1.id) ∧
    diff.toUpdate.map (·.id) = changed.map (·.1.id) ∧
    calls.filterMap NmCall.updated = changed.map fun c => (c.2.path, toSettingsDict c.1)
  deleted : ∃ stale, stale <+ existing ∧ diff.toDelete = stale.map (·.id) ∧ calls.filterMap NmCall.deleted = stale.map (·.path)

section
variable (existing : List NmExisting)

def fresh (desired : List NmConnection) : List NmConnection :=
  desired.filter fun d => (existingById existing d.id).isNone

def changed (desired : List NmConnection) : List (NmConnection × NmExisting) :=
  desired.filterMap fun d => ((existingById existing d.id).filter fun _ => !settled existing d).map (d, ·)

def stale (ids : List String) : List NmExisting := existing.filter (·.id ∉ ids)

/-- The turn of one profile. -/
def writeCall (d : NmConnection) : Option NmCall :=
  match existingById existing d.id with
  | none => some (.add (toSettingsDict d))
  | some e => if settled existing d then none else some (.update e.path (toSettingsDict d))

theorem written_calls (nm : NetworkManager k) (d : NmConnection) :
    (written existing nm d).calls = nm.calls ++ (writeCall existing d).toList := by
  unfold written writeCall
  cases existingById existing d.id with
  | none => rfl
  | some e => cases settled existing d <;> simp [NetworkManager.update]

theorem foldl_written_calls (nm : NetworkManager k) :
    (desired.foldl (written existing) nm).calls = nm.calls ++ desired.filterMap (writeCall existing) := by
  induction desired generalizing nm with
  | nil => simp
  | cons d rest ih =>
    rw [foldl_cons, ih, written_calls, append_assoc, filterMap_cons]
    cases writeCall existing d <;> rfl

theorem foldl_erased_calls (nm : NetworkManager k) : (existing.foldl (erased ids) nm).calls =
    nm.calls ++ (stale existing ids).map fun e => NmCall.delete e.path := by
  induction existing generalizing nm with
  | nil => simp [stale]
  | cons e rest ih =>
    rw [foldl_cons, ih]
    by_cases wanted : e.id ∈ ids <;> simp [erased, stale, wanted, NetworkManager.delete]

theorem foldl_diffDesired (diff : NmDiff) :
    (desired.foldl (diffDesired existing) diff).toAdd = diff.toAdd ++ (fresh existing desired).map (·.id) ∧
      (desired.foldl (diffDesired existing) diff).toUpdate.map (·.id) =
        diff.toUpdate.map (·.id) ++ (changed existing desired).map (·.1.id) ∧
      (desired.foldl (diffDesired existing) diff).toDelete = diff.toDelete := by
  induction desired generalizing diff with
  | nil => simp [fresh, changed]
  | cons d rest ih =>
    obtain ⟨added, updated, deleted⟩ := ih (diffDesired existing diff d)
    rw [foldl_cons, added, updated, deleted]
    unfold diffDesired fresh changed settled
    cases eq : existingById existing d.id with
    | none => simp [eq]
    | some e => by_cases same : (diffSections (toSettingsDict d) e.settings).isEmpty <;> simp [eq, same]

theorem foldl_diffExisting (diff : NmDiff) :
    (existing.foldl (diffExisting ids) diff).toAdd = diff.toAdd ∧
      (existing.foldl (diffExisting ids) diff).toUpdate = diff.toUpdate ∧
      (existing.foldl (diffExisting ids) diff).toDelete = diff.toDelete ++ (stale existing ids).map (·.id) := by
  induction existing generalizing diff with
  | nil => simp [stale]
  | cons e rest ih =>
    obtain ⟨added, updated, deleted⟩ := ih (diffExisting ids diff e)
    rw [foldl_cons, added, updated, deleted]
    by_cases wanted : e.id ∈ ids <;> simp [diffExisting, stale, wanted]

theorem writeCalls_added : (desired.filterMap (writeCall existing)).filterMap NmCall.added =
    (fresh existing desired).map toSettingsDict := by
  induction desired with
  | nil => rfl
  | cons d rest ih =>
    unfold fresh writeCall at *
    cases eq : existingById existing d.id with
    | none => simp [eq, NmCall.added, ih]
    | some e => cases same : settled existing d <;> simp [eq, same, filterMap_cons, NmCall.added, ih]

theorem writeCalls_updated : (desired.filterMap (writeCall existing)).filterMap NmCall.updated =
    (changed existing desired).map fun c => (c.2.path, toSettingsDict c.1) := by
  induction desired with
  | nil => rfl
  | cons d rest ih =>
    unfold changed writeCall at *
    cases eq : existingById existing d.id with
    | none => simp [eq, filterMap_cons, NmCall.updated, ih]
    | some e => cases same : settled existing d <;> simp [eq, same, NmCall.updated, ih]

theorem writeCalls_deleted : (desired.filterMap (writeCall existing)).filterMap NmCall.deleted = [] := by
  refine filterMap_eq_nil_iff.mpr fun call there => ?_
  obtain ⟨d, -, turn⟩ := mem_filterMap.mp there
  unfold writeCall at turn
  cases existingById existing d.id <;> grind [NmCall.deleted]

end

theorem mem_changed {c : NmConnection × NmExisting} (there : c ∈ changed existing desired) :
    c.1 ∈ desired ∧ c.2 ∈ existing ∧ c.2.id = c.1.id := by
  obtain ⟨d, hd, turn⟩ := mem_filterMap.mp there
  obtain ⟨e, found, rfl⟩ := Option.map_eq_some_iff.mp turn
  exact ⟨hd, existingById_some (Option.filter_eq_some_iff.mp found).1⟩

theorem stored_carried (nm : NetworkManager k) (desired : List NmConnection) :
    ∃ calls, (stored desired nm).calls = nm.calls ++ calls ∧
      Carried desired (nasty nm) (computeDiff desired (nasty nm)) calls := by
  obtain ⟨added, updated, nothing⟩ := @foldl_diffDesired desired (nasty nm) {}
  obtain ⟨added', updated', deleted⟩ := @foldl_diffExisting (desired.map (·.id)) (nasty nm)
    (desired.foldl (diffDesired (nasty nm)) {})
  refine ⟨_, by rw [stored, foldl_erased_calls, foldl_written_calls, append_assoc], ?_, ?_, ?_⟩
  · refine ⟨fresh (nasty nm) desired, filter_sublist, by rw [computeDiff, added', added]; rfl, ?_⟩
    simp [filterMap_append, writeCalls_added, filterMap_map, Function.comp_def, NmCall.added]
  · refine ⟨changed (nasty nm) desired, fun _ => mem_changed, by rw [computeDiff, updated', updated]; rfl, ?_⟩
    simp [filterMap_append, writeCalls_updated, filterMap_map, Function.comp_def, NmCall.updated]
  · refine ⟨stale (nasty nm) (desired.map (·.id)), filter_sublist, by rw [computeDiff, deleted, nothing]; rfl, ?_⟩
    simp [filterMap_append, writeCalls_deleted, filterMap_map, Function.comp_def, NmCall.deleted]

/-- The profiles that are written come to be kept as they are rendered. -/
def KeptAsGiven (k : Keeping) (existing : List NmExisting) (desired : List NmConnection) : Prop :=
  ∀ d ∈ desired, settled existing d = false → k.kept (toSettingsDict d) = toSettingsDict d

theorem takenProfiles_found_iff (renderable : Renderable desired) :
    (∀ d ∈ desired, takenProfiles k existing desired d.id = some (toSettingsDict d)) ↔ KeptAsGiven k existing desired := by
  refine forall₂_congr fun d hd => ?_
  rw [takenProfiles, renderable.found _ hd, taken]
  cases settled existing d <;> simp

theorem takenProfiles_eq_iff (renderable : Renderable desired) :
    takenProfiles k existing desired = desiredProfiles desired ↔ KeptAsGiven k existing desired := by
  constructor
  · intro same
    rw [← takenProfiles_found_iff renderable, same]
    exact fun d hd => renderable.found toSettingsDict hd
  · intro verbatim
    unfold takenProfiles desiredProfiles
    congr 1
    refine map_congr_left fun d hd => ?_
    cases unchanged : settled existing d <;> simp [taken, unchanged, verbatim d hd]

/-- Applying finds nothing to change. -/
def Idle (desired : List NmConnection) (nm : NetworkManager k) : Prop :=
  ∃ out, run (applyProfiles desired) nm = (.ok out, nm) ∧ out.added = [] ∧ out.updated = [] ∧ out.deleted = []

theorem idle_iff (quiet : nm.faults = []) : Idle desired nm ↔ (computeDiff desired (nasty nm)).Empty := by
  obtain ⟨-, out, ran, told⟩ := @applyProfiles_stored _ _ desired quiet
  constructor
  · rintro ⟨out', ran', added, updated, deleted⟩
    cases (Prod.mk.inj (ran.symm.trans ran')).1
    exact ⟨told.added ▸ added, map_eq_nil_iff.mp (told.updated ▸ updated), told.deleted ▸ deleted⟩
  · intro empty
    rw [stored_of_empty empty] at ran
    refine ⟨out, ran, ?_⟩
    rw [told.added, told.updated, told.deleted, empty.toAdd, empty.toUpdate, empty.toDelete]
    exact ⟨rfl, rfl, rfl⟩

theorem Applied.exact {after : NetworkManager k} {out : NmApplyOutcome} (renderable : Renderable desired)
    (applied : Applied desired nm after out) :
    (profiles after = desiredProfiles desired ↔ KeptAsGiven k (nasty nm) desired) ∧
      (Idle desired after ↔ KeptAsGiven k (nasty nm) desired) := by
  rw [applied.kept, idle_iff applied.quiet, computeDiff_empty]
  refine ⟨takenProfiles_eq_iff renderable, (and_iff_left applied.owned).trans ?_⟩
  change (∀ d ∈ desired, profiles after d.id = _) ↔ _
  rw [applied.kept, takenProfiles_found_iff renderable]

def plainLink (name : String) : List NmConnection := toNmProfilesWithMacs { links := [{ name }] } {}

/-- A foreign connection and one of a link that is gone. -/
def staleNm : Nm :=
  { connections := (0, ∅) :: (plainLink "eth9").map fun p => (1, toSettingsDict p)
    nextPath := 2 }

/-- NetworkManager that gives every profile a proxy section. -/
def Keeping.proxied : Keeping :=
  ⟨Finmap.insert "proxy" ∅, fun named => by rwa [readString, Finmap.lookup_insert_of_ne _ (by decide)]⟩

end NastyEngine.Network
