import NastyEngine.Network.Admission
import NastyEngine.Network.Dbus
import NastyEngine.Network.Risk

/-!
`NetworkService` of `network.rs` over an explicit world: the files, the transaction table, the
rollback timers, NetworkManager and the kernel's interfaces. Every file operation and every D-Bus
call is one step, so that a crash can fall between any two of them. `update`, `confirm` and the
rollback of an expired timer hold the lifecycle lock from start to end and run one at a time.
-/

namespace NastyEngine.Network
open Lib Rust Fallible

inductive Path where
  | networking
  | pendingRevert
  | layered
  | history (secs : Nat)
  | ibUnmanaged
  | tmp (path : Path)
  deriving DecidableEq

/-- What a file holds: a serialized value, a text, or the start of an unfinished write. -/
inductive Contents where
  | config (c : NetworkConfig)
  | layered (c : LayeredConfig)
  | text (s : String)
  | torn
  deriving DecidableEq

/-- `cancel` says whether the confirmation window is still open. -/
structure PendingTxn where
  revertAtUnix : Nat
  riskReason : String
  cancel : Bool := true
  deriving DecidableEq

structure World where
  files : Path → Option Contents := fun _ => none
  transactions : List (String × PendingTxn) := []
  timers : List String := []
  /-- `COUNTER` of `new_txn_id`. -/
  counter : Nat := 0
  now : Nat := 0
  live : List LiveInterface := []
  settled : List LiveInterface := []
  topology : LiveTopology := {}
  nm : Nm := .blank
  faults : List (Option String) := []

/-- A refused request, apart from every other failure; both carry the text of the error. -/
inductive ServiceError where
  | rejected (message : String)
  | failed (message : String)
  deriving DecidableEq

def ServiceError.message : ServiceError → String
  | .rejected message => message
  | .failed message => message

def fileOp (effect : World → World) : Fallible String World Unit :=
  ExceptT.mk (Proc.act fun w =>
    match w.faults with
    | some e :: rest => (.error e, { w with faults := rest })
    | none :: rest => (.ok (), effect { w with faults := rest })
    | [] => (.ok (), effect w))

def World.put (w : World) (path : Path) (contents : Option Contents) : World :=
  { w with files := Function.update w.files path contents }

def World.publish (w : World) (path : Path) : World := (w.put path (w.files (.tmp path))).put (.tmp path) none

def atomicWrite (path : Path) (contents : Contents) : Fallible String World Unit := do
  fileOp id -- create_dir_all
  fileOp fun w => w.put (.tmp path) (some .torn)
  fileOp fun w => w.put (.tmp path) (some contents)
  fileOp id -- sync_all
  fileOp fun w => w.publish path

def removeFile (path : Path) : Fallible String World Unit := fileOp fun w => w.put path none

def Contents.toConfig : Contents → Option NetworkConfig
  | .config c => some c
  | _ => none

/-- `load_config`: defaults when the file is missing or does not parse. -/
def World.loadConfig (w : World) : NetworkConfig := ((w.files .networking).bind Contents.toConfig).getD {}

/-- `snapshot_history`, without the pruning of old entries. -/
def snapshotHistory (prev : Contents) : Fallible String World Unit := do
  fileOp id -- create_dir_all
  let secs ← Fallible.read World.now
  fileOp fun w => w.put (.history secs) (some .torn)
  fileOp fun w => w.put (.history secs) (some prev)

def keepHistory : Fallible String World Unit := do
  match ← Fallible.read fun w : World => w.files .networking with
  | some prev => snapshotHistory prev
  | none => pure ()

def checkLayered (config : NetworkConfig) : Except ServiceError Unit :=
  (validate (toLayered config)).mapError fun e =>
    .rejected ("network config rejected by validator: " ++ e)

/-- The layered validator runs before anything is written; the history entry and the layered copy
are best effort. -/
def persistConfig (config : NetworkConfig) : Fallible ServiceError World Unit := do
  Fallible.ofExcept (checkLayered config)
  ignoreError keepHistory
  mapError (fun e => .failed ("failed to write /var/lib/nasty/networking.json: " ++ e))
    (atomicWrite .networking (.config config))
  ignoreError (atomicWrite .layered (.layered (toLayered config)))

def onNm {α : Type} (p : Fallible String Nm α) : Fallible String World α :=
  zoom World.nm (fun nm w => { w with nm }) p

def infinibandNames (live : List LiveInterface) : List String :=
  (live.filter fun i => i.kind = "infiniband").map (·.name)

def retainLivePhysicalProfiles (profiles : List NmConnection) (liveNames : List String) : List NmConnection :=
  profiles.filter fun p =>
    ¬ (p.connType = .ethernet ∨ p.connType = .infiniband) ∨ p.interfaceName ∈ liveNames

def desiredWith (config : NetworkConfig) (live : List LiveInterface) (ctx : MacContext) : List NmConnection :=
  retainLivePhysicalProfiles (toNmProfilesWithMacs (toLayered config) ctx) (live.map (·.name))

def applyContext (live : List LiveInterface) (mgmtIface : Option String) : MacContext :=
  { liveMacs := liveBy (·.mac) live, mgmtIface, infinibandIfaces := infinibandNames live }

def previewContext (live : List LiveInterface) : MacContext := { infinibandIfaces := infinibandNames live }

/-- The globs first, then every live port they miss, then the configured ports carved out. -/
def renderIbUnmanagedConf (liveIb configured : List String) : Option String :=
  if liveIb = [] then none
  else
    let globs := ["interface-name:ib*", "interface-name:ibp*"]
    let named := liveIb.foldl (fun entries name =>
      let byName := "interface-name:" ++ name
      if byName ∉ entries ∧ !startsWith name "ib" then entries ++ [byName] else entries) globs
    let carved := (liveIb.filter (· ∈ configured)).map fun name => "except:interface-name:" ++ name
    some ("# Generated by nasty-engine. InfiniBand ports are operator-managed\n" ++
      "# (systemd-networkd, manual) unless configured through NASty's\n" ++
      "# network settings — the except: entries below. Re-rendered on\n" ++
      "# every network apply; edits here are overwritten.\n" ++
      "[keyfile]\n" ++
      "unmanaged-devices=" ++ String.intercalate ";" (named ++ carved) ++ "\n")

def writeIbUnmanagedConf (content : Option String) : Fallible String World Bool := do
  let current ← Fallible.read fun w : World => w.files .ibUnmanaged
  match content with
  | some content =>
    if current = some (.text content) then pure false
    else succeeds (atomicWrite .ibUnmanaged (.text content))
  | none => if current = none then pure false else succeeds (removeFile .ibUnmanaged)

def reloadConf : Fallible String Nm Unit := dbusCall "NM Reload(CONF): " fun nm => ((), nm)

def syncIbUnmanagedConf (live : List LiveInterface) (config : NetworkConfig) : Fallible String World Unit := do
  let changed ← writeIbUnmanagedConf
    (renderIbUnmanagedConf (infinibandNames live) (config.interfaces.map (·.name)))
  if changed then ignoreError (onNm reloadConf) else pure ()

/-- Restarting the discovery daemons and re-issuing the certificate are left out. -/
def applyConfig (config : NetworkConfig) (mgmtIface : Option String) : Fallible String World NmApplyOutcome := do
  let live ← Fallible.read World.live
  let profiles := desiredWith config live (applyContext live mgmtIface)
  mapError (fun e => "connect to NetworkManager: " ++ e) (onNm connect)
  syncIbUnmanagedConf live config
  onNm (applyProfiles profiles)

def applyWithVfSettle (config : NetworkConfig) (mgmtIface : Option String)
    (liveNamesAtValidate : List String) : Fallible String World NmApplyOutcome := do
  let outcome ← applyConfig config mgmtIface
  let createsVfs := config.interfaces.any fun i => decide (0 < i.sriovNumVfs.getD 0)
  let hasAbsentConfig := config.interfaces.any fun i => decide (i.name ∉ liveNamesAtValidate)
  if createsVfs && hasAbsentConfig then
    Fallible.modify fun w : World => { w with live := w.settled }
    applyConfig config mgmtIface
  else return outcome

def nmPreview : Fallible String World NmDiff := do
  let w ← Fallible.read fun w : World => w
  let desired := desiredWith w.loadConfig w.live (previewContext w.live)
  onNm connect
  let existing ← onNm listNastyConnections
  return computeDiff desired existing

def reconcileOrphans : Fallible String World (Option NmApplyOutcome) := do
  let w ← Fallible.read fun w : World => w
  let desired := desiredWith w.loadConfig w.live (previewContext w.live)
  if ← succeeds (onNm connect) then
    syncIbUnmanagedConf w.live w.loadConfig
    let outcome ← attempt (onNm (applyProfiles desired))
    return outcome.toOption
  else return none

structure UpdateRequest where
  config : NetworkConfig
  confirmWithinSecs : Option Nat := none

structure UpdateResponse where
  txnId : Option String := none
  revertAtUnix : Option Nat := none
  riskReason : Option String := none
  applyErrors : List (String × String) := []
  deriving DecidableEq

def rollbackSecs : Option Nat → Option String → Option Nat
  | some 0, _ => none
  | some n, _ => some n
  | none, some _ => some 30
  | none, none => none

def newTxnId : Proc World String :=
  Proc.act fun w => (hex w.now ++ "-" ++ hex w.counter, { w with counter := w.counter + 1 })

def scheduleRollback (txnId : String) (revertAtUnix : Nat) (riskReason : String) : Fallible ServiceError World Unit :=
  Fallible.modify fun w =>
    { w with
      transactions := w.transactions.filter (·.1 ≠ txnId) ++ [(txnId, { revertAtUnix, riskReason })]
      timers := w.timers ++ [txnId] }

def updateWithWindow (config prev : NetworkConfig) (mgmtIface : Option String) (liveNames : List String)
    (risk : Option String) (secs : Nat) : Fallible ServiceError World UpdateResponse := do
  mapError (fun e => .failed ("write /var/lib/nasty/networking.json.pending-revert: " ++ e))
    (atomicWrite .pendingRevert (.config prev))
  persistConfig config
  let outcome ← mapError .failed (applyWithVfSettle config mgmtIface liveNames)
  let txnId ← liftM newTxnId
  let now ← Fallible.read World.now
  let revertAt := (now + secs) % 2 ^ 64
  let reason := risk.getD "explicit confirm requested"
  scheduleRollback txnId revertAt reason
  return { txnId := some txnId, revertAtUnix := some revertAt, riskReason := some reason,
           applyErrors := outcome.errors }

def updateDirectly (config : NetworkConfig) (mgmtIface : Option String) (liveNames : List String) :
    Fallible ServiceError World UpdateResponse := do
  persistConfig config
  let outcome ← mapError .failed (applyWithVfSettle config mgmtIface liveNames)
  return { applyErrors := outcome.errors }

def commitUpdate (config prev : NetworkConfig) (mgmtIface : Option String) (liveNames : List String)
    (risk : Option String) : Option Nat → Fallible ServiceError World UpdateResponse
  | some secs => updateWithWindow config prev mgmtIface liveNames risk secs
  | none => updateDirectly config mgmtIface liveNames

def refuseWhenBusy (w : World) : Except ServiceError Unit :=
  match w.transactions.head? with
  | some (id, _) => .error (.failed ("network transaction " ++ id ++ " is still awaiting confirmation"))
  | none =>
    if (w.files .pendingRevert).isSome then
      .error (.failed "a pending network rollback snapshot requires recovery before another update")
    else .ok ()

def update (request : UpdateRequest) (mgmtIface : Option String) : Fallible ServiceError World UpdateResponse := do
  let w ← Fallible.read fun w : World => w
  Fallible.ofExcept (refuseWhenBusy w)
  let prev := w.loadConfig
  let config ← Fallible.ofExcept
    ((admission request.config prev mgmtIface w.topology w.live).mapError ServiceError.rejected)
  let risk := classifyRisk prev config mgmtIface
  commitUpdate config prev mgmtIface (w.live.map (·.name)) risk (rollbackSecs request.confirmWithinSecs risk)

def World.txn (w : World) (txnId : String) : Option PendingTxn := w.transactions.lookup txnId

def World.dropTxn (w : World) (txnId : String) : World :=
  { w with transactions := w.transactions.filter (·.1 ≠ txnId) }

/-- `send` on the cancel channel only wakes the task; one that is already past its timer finds the
table entry gone. -/
def confirm (txnId : String) : Fallible String World Unit := do
  match ← Fallible.read fun w : World => w.txn txnId with
  | none => throw ("unknown or already-completed txn_id " ++ txnId)
  | some txn =>
    if txn.cancel then do
      mapError (fun e => "remove pending network rollback snapshot: " ++ e) (removeFile .pendingRevert)
      Fallible.modify fun w : World => w.dropTxn txnId
    else throw ("network txn " ++ txnId ++ " rollback is already in progress or failed")

def performRollback : Fallible String World Unit := do
  match ← Fallible.read fun w : World => w.files .pendingRevert with
  | none => throw "pending-revert file disappeared: No such file or directory (os error 2)"
  | some contents =>
    match contents.toConfig with
    | none => throw "unparseable pending-revert"
    | some prev => do
      mapError (fun e : ServiceError => "persist failed: " ++ e.message) (persistConfig prev)
      let _ ← mapError (fun e => "apply failed: " ++ e) (applyConfig prev none)
      mapError (fun e => "remove pending-revert after apply: " ++ e) (removeFile .pendingRevert)

section
variable (w : World) (txnId : String)

def World.setTxn (f : PendingTxn → PendingTxn) : World :=
  { w with transactions := w.transactions.map fun e => if e.1 = txnId then (e.1, f e.2) else e }

def World.closeWindow : World :=
  let closed := w.setTxn txnId fun txn => { txn with cancel := false }
  { closed with timers := w.timers.erase txnId }

def World.noteFailure (error : String) : World :=
  w.setTxn txnId fun txn => { txn with riskReason := "Automatic rollback failed: " ++ error }

end

def expireTimer (txnId : String) : Proc World Unit := do
  let found ← Proc.act fun w : World => ((w.txn txnId).isSome, w.closeWindow txnId)
  if found then
    match ← ExceptT.run performRollback with
    | .ok _ => Proc.modify fun w : World => w.dropTxn txnId
    | .error e => Proc.modify fun w : World => w.noteFailure txnId e

def restorePendingRevert : Fallible String World Unit := do
  match ← Fallible.read fun w : World => w.files .pendingRevert with
  | none => pure ()
  | some contents =>
    match contents.toConfig with
    | none => ignoreError (removeFile .pendingRevert)
    | some prev => do
      mapError (fun e : ServiceError => "restore: persist failed: " ++ e.message) (persistConfig prev)
      let _ ← mapError (fun e => "restore: apply failed: " ++ e) (applyConfig prev none)
      ignoreError (removeFile .pendingRevert)

def World.restart (w : World) : World := { w with transactions := [], timers := [], counter := 0 }

end NastyEngine.Network
