import Mathlib.Data.Finset.Sort
import Mathlib.Data.String.Basic
import NastyEngine.Lib.Proc
import NastyEngine.Network.Profiles

/-! `network/nm/dbus.rs`: the stored connections, `compute_diff` and `apply_profiles`. -/

namespace NastyEngine.Network
open Lib Rust

def readString (settings : SettingsDict) (sec key : String) : Option String := do
  let s ← settings.lookup sec
  match ← s.lookup key with
  | .str text => some text
  | _ => none

/-- What becomes of a dictionary given to `AddConnection` or `Update`: `GetSettings` answers with `kept d` from then on.
NetworkManager may add to it what it likes, but a connection keeps the id it was given. -/
structure Keeping where
  kept : SettingsDict → SettingsDict
  named : ∀ {d : SettingsDict} {id : String}, readString d "connection" "id" = some id →
    readString (kept d) "connection" "id" = some id

def Keeping.verbatim : Keeping := ⟨fun d => d, fun named => named⟩

@[simp] theorem verbatim_kept (d : SettingsDict) : Keeping.verbatim.kept d = d := rfl

inductive NmCall where
  | add (settings : SettingsDict)
  | update (path : Nat) (settings : SettingsDict)
  | delete (path : Nat)

/-- NetworkManager as the client sees it. It never reuses an object path, and answers each coming call with the next
entry of `faults`: an error text, or success. When the list is exhausted calls succeed. `calls` are the changes it has
carried out. -/
structure NetworkManager (k : Keeping) where
  connections : List (Nat × SettingsDict) := []
  nextPath : Nat := 0
  devices : List String := []
  faults : List (Option String) := []
  calls : List NmCall := []
  distinct : (connections.map Prod.fst).Nodup := by decide
  fresh : ∀ c ∈ connections, c.1 < nextPath := by decide

/-- NetworkManager that keeps dictionaries as they are given. -/
abbrev Nm := NetworkManager .verbatim

def Nm.blank : Nm := {}

variable {k : Keeping}

namespace NetworkManager

def add (nm : NetworkManager k) (settings : SettingsDict) : NetworkManager k :=
  { nm with
    connections := nm.connections ++ [(nm.nextPath, k.kept settings)]
    nextPath := nm.nextPath + 1
    calls := nm.calls ++ [.add settings]
    distinct := by
      rw [List.map_append, List.nodup_append]
      refine ⟨nm.distinct, by simp, ?_⟩
      intro p hp q hq
      obtain ⟨c, hc, rfl⟩ := List.mem_map.mp hp
      obtain rfl : q = nm.nextPath := by simpa using hq
      exact Nat.ne_of_lt (nm.fresh c hc)
    fresh := by
      intro c hc
      rcases List.mem_append.mp hc with hc | hc
      · exact Nat.lt_succ_of_lt (nm.fresh c hc)
      · obtain rfl : c = (nm.nextPath, k.kept settings) := by simpa using hc
        exact Nat.lt_succ_self _ }

def replace (path : Nat) (settings : SettingsDict) (c : Nat × SettingsDict) : Nat × SettingsDict :=
  if c.1 = path then (path, settings) else c

theorem replace_path (path : Nat) {settings : SettingsDict} (c : Nat × SettingsDict) :
    (replace path settings c).1 = c.1 := by
  unfold replace
  split
  next eq =>
    exact eq.symm
  · rfl

def update (nm : NetworkManager k) (path : Nat) (settings : SettingsDict) : NetworkManager k :=
  { nm with
    connections := nm.connections.map (replace path (k.kept settings))
    calls := nm.calls ++ [.update path settings]
    distinct := by
      rw [List.map_map, show Prod.fst ∘ replace path (k.kept settings) = Prod.fst from funext (replace_path path)]
      exact nm.distinct
    fresh := by
      intro c hc
      obtain ⟨d, hd, rfl⟩ := List.mem_map.mp hc
      rw [replace_path]
      exact nm.fresh d hd }

def delete (nm : NetworkManager k) (path : Nat) : NetworkManager k :=
  { nm with
    connections := nm.connections.filter (·.1 ≠ path)
    calls := nm.calls ++ [.delete path]
    distinct := nm.distinct.sublist (List.filter_sublist.map _)
    fresh := fun c hc => nm.fresh c (List.mem_of_mem_filter hc) }

end NetworkManager

def dbusCall {α : Type} (context : String) (effect : NetworkManager k → α × NetworkManager k) :
    Fallible String (NetworkManager k) α :=
  ExceptT.mk (Proc.act fun nm =>
    match nm.faults with
    | some e :: rest => (.error (context ++ e), { nm with faults := rest })
    | none :: rest =>
      let (a, nm) := effect { nm with faults := rest }
      (.ok a, nm)
    | [] =>
      let (a, nm) := effect nm
      (.ok a, nm))

def connect : Fallible String (NetworkManager k) Unit := dbusCall "connect to system DBus: " fun nm => ((), nm)

def listConnections : Fallible String (NetworkManager k) (List Nat) :=
  dbusCall "list_connections: " fun nm => (nm.connections.map Prod.fst, nm)

def getSettings (path : Nat) : Fallible String (NetworkManager k) (Option SettingsDict) :=
  dbusCall "get_settings: " fun nm => (collect nm.connections path, nm)

def addConnection (settings : SettingsDict) : Fallible String (NetworkManager k) Nat :=
  dbusCall "add_connection: " fun nm => (nm.nextPath, nm.add settings)

def updateConnection (path : Nat) (settings : SettingsDict) : Fallible String (NetworkManager k) Unit :=
  dbusCall "update: " fun nm => ((), nm.update path settings)

def deleteConnection (path : Nat) : Fallible String (NetworkManager k) Unit := dbusCall "delete: " fun nm => ((), nm.delete path)

def findDeviceByName (iface : String) : Fallible String (NetworkManager k) Bool :=
  dbusCall "get_devices: " fun nm => (decide (iface ∈ nm.devices), nm)

def activateConnection : Fallible String (NetworkManager k) Unit := dbusCall "activate_connection: " fun nm => ((), nm)

structure NmExisting where
  path : Nat
  id : String
  settings : SettingsDict
  deriving DecidableEq

def nastyEntry (path : Nat) (settings : SettingsDict) : Option NmExisting :=
  match readString settings "connection" "id" with
  | some id => if startsWith id "nasty-" then some { path, id, settings } else none
  | none => none

def readNasty : List Nat → Fallible String (NetworkManager k) (List NmExisting)
  | [] => pure []
  | path :: rest => do
    match ← Fallible.attempt (getSettings path) with
    | .ok (some settings) =>
      let others ← readNasty rest
      return (nastyEntry path settings).toList ++ others
    | _ => readNasty rest

def listNastyConnections : Fallible String (NetworkManager k) (List NmExisting) := do
  readNasty (← listConnections)

structure NmDiffUpdate where
  id : String
  changedSections : List String
  deriving DecidableEq

structure NmDiffSummary where
  add : Nat := 0
  update : Nat := 0
  delete : Nat := 0
  unchanged : Nat := 0
  deriving DecidableEq

structure NmDiff where
  toAdd : List String := []
  toUpdate : List NmDiffUpdate := []
  toDelete : List String := []
  summary : NmDiffSummary := {}
  deriving DecidableEq

/-- The debug text of a value names its variant and payload: texts differ when values do. -/
def sectionChanged : Option Section → Option Section → Bool
  | none, none => false
  | some a, some b =>
    decide (a.keys.card ≠ b.keys.card) || decide (∃ k ∈ a.keys, a.lookup k ≠ b.lookup k)
  | _, _ => true

def diffSections (a b : SettingsDict) : List String :=
  ((a.keys ∪ b.keys).sort (· ≤ ·)).filter fun s => sectionChanged (a.lookup s) (b.lookup s)

def existingById (existing : List NmExisting) : String → Option NmExisting :=
  collect (existing.map fun e => (e.id, e))

def diffDesired (existing : List NmExisting) (out : NmDiff) (desired : NmConnection) : NmDiff :=
  match existingById existing desired.id with
  | none =>
    { out with
      toAdd := out.toAdd ++ [desired.id]
      summary := { out.summary with add := out.summary.add + 1 } }
  | some e =>
    let changed := diffSections (toSettingsDict desired) e.settings
    if changed.isEmpty then
      { out with summary := { out.summary with unchanged := out.summary.unchanged + 1 } }
    else
      { out with
        toUpdate := out.toUpdate ++ [{ id := desired.id, changedSections := changed }]
        summary := { out.summary with update := out.summary.update + 1 } }

def diffExisting (desiredIds : List String) (out : NmDiff) (e : NmExisting) : NmDiff :=
  if e.id ∈ desiredIds then out
  else
    { out with
      toDelete := out.toDelete ++ [e.id]
      summary := { out.summary with delete := out.summary.delete + 1 } }

def computeDiff (desired : List NmConnection) (existing : List NmExisting) : NmDiff :=
  existing.foldl (diffExisting (desired.map (·.id))) (desired.foldl (diffDesired existing) {})

structure NmApplyOutcome where
  added : List String := []
  updated : List String := []
  deleted : List String := []
  unchanged : List String := []
  activated : List String := []
  errors : List (String × String) := []
  deriving DecidableEq

def NmApplyOutcome.fail (out : NmApplyOutcome) (id message : String) : NmApplyOutcome :=
  { out with errors := out.errors.filter (·.1 ≠ id) ++ [(id, message)] }

structure ApplyProgress where
  outcome : NmApplyOutcome := {}
  activateTargets : List (String × String) := []

def ApplyProgress.target (p : ApplyProgress) (d : NmConnection) : ApplyProgress :=
  if d.autoconnect then { p with activateTargets := p.activateTargets ++ [(d.id, d.interfaceName)] } else p

def applyDesired (existing : List NmExisting) (p : ApplyProgress) (d : NmConnection) :
    Fallible String (NetworkManager k) ApplyProgress :=
  match existingById existing d.id with
  | none => do
    match ← Fallible.attempt (addConnection (toSettingsDict d)) with
    | .ok _ => return { p with outcome := { p.outcome with added := p.outcome.added ++ [d.id] } }.target d
    | .error e => return { p with outcome := p.outcome.fail d.id e }
  | some e =>
    if (diffSections (toSettingsDict d) e.settings).isEmpty then
      return { p with outcome := { p.outcome with unchanged := p.outcome.unchanged ++ [d.id] } }.target d
    else do
      match ← Fallible.attempt (updateConnection e.path (toSettingsDict d)) with
      | .ok _ =>
        return { p with outcome := { p.outcome with updated := p.outcome.updated ++ [d.id] } }.target d
      | .error e => return { p with outcome := p.outcome.fail d.id e }

def applyDesiredAll (existing : List NmExisting) :
    ApplyProgress → List NmConnection → Fallible String (NetworkManager k) ApplyProgress
  | p, [] => pure p
  | p, d :: rest => do applyDesiredAll existing (← applyDesired existing p d) rest

def deleteStale (desiredIds : List String) :
    NmApplyOutcome → List NmExisting → Fallible String (NetworkManager k) NmApplyOutcome
  | out, [] => pure out
  | out, e :: rest =>
    if e.id ∈ desiredIds then deleteStale desiredIds out rest
    else do
      match ← Fallible.attempt (deleteConnection e.path) with
      | .ok _ => deleteStale desiredIds { out with deleted := out.deleted ++ [e.id] } rest
      | .error err => deleteStale desiredIds (out.fail e.id err) rest

def activateAll : NmApplyOutcome → List (String × String) → Fallible String (NetworkManager k) NmApplyOutcome
  | out, [] => pure out
  | out, (id, iface) :: rest => do
    match ← Fallible.attempt (findDeviceByName iface) with
    | .error e => activateAll (out.fail id e) rest
    | .ok false =>
      activateAll (out.fail id ("no NM-managed device matches interface '" ++ iface ++ "'")) rest
    | .ok true =>
      match ← Fallible.attempt activateConnection with
      | .ok _ => activateAll { out with activated := out.activated ++ [id] } rest
      | .error e => activateAll (out.fail id ("activate: " ++ e)) rest

def applyProfiles (desired : List NmConnection) : Fallible String (NetworkManager k) NmApplyOutcome := do
  let existing ← listNastyConnections
  let p ← applyDesiredAll existing {} desired
  let out ← deleteStale (desired.map (·.id)) p.outcome existing
  activateAll out p.activateTargets

end NastyEngine.Network
