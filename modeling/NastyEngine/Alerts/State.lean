import NastyEngine.Lib.Lists
import NastyEngine.Lib.Run
import Mathlib.Data.Rat.Defs

/-!
A reading is a rational number: the rounding of `f64` is left out. Every function takes the write
lock of the state, so it is one step; how its write of the state file ends is an argument, as are
the ids that `uuid_v4` draws.
-/

namespace NastyEngine.Alerts
open Lib

inductive AlertMetric where
  | fsUsagePercent
  | cpuLoadPercent
  | memoryUsagePercent
  | diskTemperature
  | smartHealth
  | smartAttribute
  | swapUsagePercent
  | bcachefsDegraded
  | bcachefsDeviceError
  | bcachefsDeviceState
  | bcachefsIOErrors
  | bcachefsScrubErrors
  | bcachefsReconcileStalled
  | rootDiskFreeGb
  | bootDiskFreeMb
  | certificateExpiryDays
  | certificateRenewalFailure
  | backupFailure
  | kernelErrors
  deriving DecidableEq

inductive AlertCondition where
  | above
  | below
  | equals
  deriving DecidableEq

inductive AlertSeverity where
  | warning
  | critical
  deriving DecidableEq

structure AlertRule where
  id : String
  name : String
  enabled : Bool
  metric : AlertMetric
  condition : AlertCondition
  threshold : ℚ
  severity : AlertSeverity
  deriving DecidableEq

structure ActiveAlert where
  ruleId : String
  ruleName : String
  severity : AlertSeverity
  metric : AlertMetric
  message : String
  currentValue : ℚ
  threshold : ℚ
  source : String
  deriving DecidableEq

structure AlertInstanceState where
  instanceId : String
  alert : ActiveAlert
  acknowledgedAt : Option String
  acknowledgedBy : Option String
  deriving DecidableEq

structure AlertOccurrence where
  alert : ActiveAlert
  instanceId : String
  acknowledged : Bool
  acknowledgedAt : Option String
  acknowledgedBy : Option String
  deriving DecidableEq

structure AlertAcknowledgement where
  instanceId : String
  acknowledgedAt : String
  acknowledgedBy : String
  deriving DecidableEq

structure AlertState where
  rules : List AlertRule := []
  activeInstances : List AlertInstanceState := []
  dirty : Bool := false
  deriving DecidableEq

/-- The service, beside the state file; a missing, unreadable or corrupt file is `none`. -/
structure AlertService where
  state : AlertState
  revision : UInt64
  file : Option AlertState
  deriving DecidableEq

def defaultRules : List AlertRule :=
  [⟨"fs-usage-warn", "Filesystem usage warning", true, .fsUsagePercent, .above, 80, .warning⟩,
   ⟨"fs-usage-crit", "Filesystem usage critical", true, .fsUsagePercent, .above, 95, .critical⟩,
   ⟨"disk-temp-warn", "Disk temperature warning", true, .diskTemperature, .above, 50, .warning⟩,
   ⟨"disk-temp-crit", "Disk temperature critical", true, .diskTemperature, .above, 60, .critical⟩,
   ⟨"smart-health", "SMART health failure", true, .smartHealth, .equals, 1, .critical⟩,
   ⟨"smart-attribute", "SMART critical attribute non-zero", true, .smartAttribute, .above, 0, .warning⟩,
   ⟨"memory-warn", "Memory usage warning", true, .memoryUsagePercent, .above, 90, .warning⟩,
   ⟨"cpu-load-warn", "CPU load warning", true, .cpuLoadPercent, .above, 90, .warning⟩,
   ⟨"bcachefs-degraded", "bcachefs degraded (missing device)", true, .bcachefsDegraded, .equals, 1, .critical⟩,
   ⟨"bcachefs-device-state", "bcachefs device not read-write", true, .bcachefsDeviceState, .equals, 1, .warning⟩,
   ⟨"bcachefs-device-errors", "bcachefs device IO errors", true, .bcachefsDeviceError, .equals, 1, .critical⟩,
   ⟨"bcachefs-io-errors", "bcachefs filesystem IO errors", true, .bcachefsIOErrors, .above, 0, .critical⟩,
   ⟨"bcachefs-scrub-errors", "bcachefs scrub found corruption", true, .bcachefsScrubErrors, .equals, 1, .critical⟩,
   ⟨"bcachefs-reconcile-stalled", "bcachefs reconcile stalled", true, .bcachefsReconcileStalled, .equals, 1, .warning⟩,
   ⟨"root-disk-low", "Root partition low on space", true, .rootDiskFreeGb, .below, 10, .warning⟩,
   ⟨"root-disk-crit", "Root partition critically low", true, .rootDiskFreeGb, .below, 3, .critical⟩,
   ⟨"boot-disk-low", "/boot partition low on space", true, .bootDiskFreeMb, .below, 100, .warning⟩,
   ⟨"boot-disk-crit", "/boot partition critically low", true, .bootDiskFreeMb, .below, 30, .critical⟩,
   ⟨"certificate-expiry-warn", "TLS certificate expiring soon", true, .certificateExpiryDays, .below, 31, .warning⟩,
   ⟨"certificate-expiry-crit", "TLS certificate expiry critical", true, .certificateExpiryDays, .below, 8, .critical⟩,
   ⟨"certificate-renewal-failure", "TLS certificate renewal failed", true, .certificateRenewalFailure, .equals, 1,
     .critical⟩,
   ⟨"backup-failure", "Backup failed", true, .backupFailure, .equals, 1, .warning⟩,
   ⟨"kernel-errors", "Kernel errors detected", true, .kernelErrors, .above, 0, .warning⟩]

def loadState (file : Option AlertState) : AlertState := { file.getD {} with dirty := false }

/-- The file is written beside the old one and renamed over it, so a failed write leaves the old file. -/
def saveState (saved : Except String Unit) (state : AlertState) (file : Option AlertState) : Option AlertState :=
  match saved with
  | .ok () => some { state with dirty := false }
  | .error _ => file

def backfill (defaults rules : List AlertRule) : List AlertRule :=
  defaults.foldl (fun rules default => if rules.any (·.id = default.id) then rules else rules ++ [default]) rules

def seeded (rules : List AlertRule) : List AlertRule :=
  if rules = [] then defaultRules else backfill defaultRules rules

def AlertService.new (saved : Except String Unit) (file : Option AlertState) : AlertService :=
  let loaded := loadState file
  let state := { loaded with rules := seeded loaded.rules }
  -- An outcome of the write is only looked at where there is one: nothing new means nothing to save.
  { state, revision := 0, file := if state.rules = loaded.rules then file else saveState saved state file }

namespace AlertService
variable {α : Type}

def listRules (s : AlertService) : List AlertRule := s.state.rules

def commit (saved : Except String Unit) (state : AlertState) (answer : α) (s : AlertService) :
    Except String α × AlertService :=
  match saved with
  | .error e => (.error e, { s with state })
  | .ok () =>
    (.ok answer, { state := { state with dirty := false }, revision := s.revision + 1,
                   file := saveState saved state s.file })

def createRule (saved : Except String Unit) (uuid : String) (rule : AlertRule) (s : AlertService) :
    Except String AlertRule × AlertService :=
  if s.state.rules.any (·.id = rule.id) then (.error "rule ID already exists", s) else
    let rule := { rule with id := if rule.id = "" then uuid else rule.id }
    s.commit saved { s.state with rules := s.state.rules ++ [rule] } rule

end AlertService

structure AlertRuleUpdate where
  name : Option String := none
  enabled : Option Bool := none
  threshold : Option ℚ := none
  severity : Option AlertSeverity := none

def AlertRuleUpdate.apply (update : AlertRuleUpdate) (rule : AlertRule) : AlertRule :=
  { rule with
    name := update.name.getD rule.name
    enabled := update.enabled.getD rule.enabled
    threshold := update.threshold.getD rule.threshold
    severity := update.severity.getD rule.severity }

namespace AlertService

def updateRule (saved : Except String Unit) (id : String) (update : AlertRuleUpdate) (s : AlertService) :
    Except String AlertRule × AlertService :=
  match s.state.rules.find? (·.id = id) with
  | none => (.error "rule not found", s)
  | some rule =>
    let rules := s.state.rules.replaceF fun r => if r.id = id then some (update.apply r) else none
    s.commit saved { s.state with rules } (update.apply rule)

def deleteRule (saved : Except String Unit) (id : String) (s : AlertService) : Except String Unit × AlertService :=
  let rules := s.state.rules.filter (·.id ≠ id)
  -- Without the rule the list is kept as it was.
  if rules.length = s.state.rules.length then (.error "rule not found", s) else
    s.commit saved { s.state with rules } ()

end AlertService

section
variable (held : AlertInstanceState)

/-- The occurrence is the one that `alert` goes on with; for a failed backup only the same failure does. -/
def AlertInstanceState.continues (alert : ActiveAlert) : Bool :=
  held.alert.ruleId = alert.ruleId && held.alert.source = alert.source &&
    (alert.metric != .backupFailure || held.alert.message = alert.message)

def occurrenceWithAlert (alert : ActiveAlert) : AlertOccurrence :=
  { alert, instanceId := held.instanceId, acknowledged := held.acknowledgedAt.isSome,
    acknowledgedAt := held.acknowledgedAt, acknowledgedBy := held.acknowledgedBy }

def occurrenceFrom : AlertOccurrence := occurrenceWithAlert held held.alert

end

/-- The loop over the alerts: the occurrences they fire, and what is left of `remaining`. The `k`-th
alert draws its id, if it needs one, from `fresh`. -/
def consume (fresh : Nat → String) :
    Nat → List AlertInstanceState → List ActiveAlert → List AlertInstanceState × List AlertInstanceState
  | _, remaining, [] => ([], remaining)
  | k, remaining, alert :: alerts =>
    let found := (remaining.find? (·.continues alert)).getD ⟨fresh k, alert, none, none⟩
    let rest := consume fresh (k + 1) (remaining.eraseP (·.continues alert)) alerts
    ({ found with alert } :: rest.1, rest.2)

def reconcileInstances (fresh : Nat → String) (existing : List AlertInstanceState) (alerts : List ActiveAlert)
    (isObserved : ActiveAlert → Bool) : List AlertInstanceState × List AlertOccurrence :=
  let consumed := consume fresh 0 existing alerts
  let instances := consumed.1 ++ consumed.2.filter fun held => !isObserved held.alert
  (instances, instances.map occurrenceFrom)

def sameInstanceLifecycle (left right : List AlertInstanceState) : Bool :=
  left.length = right.length && left.all fun l => right.any fun r =>
    l.instanceId = r.instanceId && l.alert.ruleId = r.alert.ruleId && l.alert.source = r.alert.source &&
      l.acknowledgedAt = r.acknowledgedAt && l.acknowledgedBy = r.acknowledgedBy

/-- Alerts about pools that failed to mount have no rule. -/
def isEnabled (rules : List AlertRule) (ruleId : String) : Bool :=
  ruleId = "mount-failure" || rules.any fun rule => rule.enabled && rule.id = ruleId

def AlertInstanceState.acknowledge (username now : String) (held : AlertInstanceState) : AlertInstanceState :=
  { held with
    acknowledgedAt := some (held.acknowledgedAt.getD now)
    acknowledgedBy := some (held.acknowledgedBy.getD username) }

def markAcknowledged (instances : List AlertInstanceState) (instanceId username acknowledgedAt : String) :
    Except String (AlertAcknowledgement × List AlertInstanceState) :=
  match instances.find? (·.instanceId = instanceId) with
  | none => .error "alert is no longer active"
  | some found =>
    let answer := ⟨found.instanceId, found.acknowledgedAt.getD acknowledgedAt, found.acknowledgedBy.getD username⟩
    .ok (answer, instances.replaceF fun i =>
      if i.instanceId = instanceId then some (i.acknowledge username acknowledgedAt) else none)

namespace AlertService

def reconcileActive (saved : Except String Unit) (fresh : Nat → String) (alerts : List ActiveAlert)
    (isObserved : ActiveAlert → Bool) (s : AlertService) : List AlertOccurrence × AlertService :=
  let existing := s.state.activeInstances.filter (isEnabled s.state.rules ·.alert.ruleId)
  let alerts := alerts.filter (isEnabled s.state.rules ·.ruleId)
  let reconciled := reconcileInstances fresh existing alerts isObserved
  let changed := !sameInstanceLifecycle reconciled.1 s.state.activeInstances
  let state := { s.state with activeInstances := reconciled.1, dirty := s.state.dirty || changed }
  let next : AlertService :=
    if !state.dirty then { s with state, revision := s.revision + 1 } else
      match saved with
      | .ok () => { state := { state with dirty := false }, revision := s.revision + 1,
                    file := saveState saved state s.file }
      | .error _ => { s with state, revision := s.revision + 1 }
  (reconciled.2, next)

def acknowledge (saved : Except String Unit) (now instanceId username : String) (s : AlertService) :
    Except String AlertAcknowledgement × AlertService :=
  match markAcknowledged s.state.activeInstances instanceId username now with
  | .error e => (.error e, s)
  | .ok (acknowledgement, activeInstances) =>
    let candidate := { s.state with activeInstances, dirty := false }
    match saved with
    | .error e => (.error e, s)
    | .ok () => (.ok acknowledgement, { state := candidate, revision := s.revision + 1,
                                        file := saveState saved candidate s.file })

end AlertService

inductive AlertRequest where
  | create (saved : Except String Unit) (uuid : String) (rule : AlertRule)
  | update (saved : Except String Unit) (id : String) (update : AlertRuleUpdate)
  | delete (saved : Except String Unit) (id : String)
  | reconcile (saved : Except String Unit) (fresh : Nat → String) (alerts : List ActiveAlert)
      (isObserved : ActiveAlert → Bool)
  | acknowledge (saved : Except String Unit) (now instanceId username : String)

namespace AlertService

def serve : AlertRequest → AlertService → Option String × AlertService
  | .create saved uuid rule, s => failure (s.createRule saved uuid rule)
  | .update saved id update, s => failure (s.updateRule saved id update)
  | .delete saved id, s => failure (s.deleteRule saved id)
  | .reconcile saved fresh alerts isObserved, s => (none, (s.reconcileActive saved fresh alerts isObserved).2)
  | .acknowledge saved now instanceId username, s => failure (s.acknowledge saved now instanceId username)
where
  failure {α : Type} (answer : Except String α × AlertService) : Option String × AlertService :=
    (match answer.1 with | .ok _ => none | .error e => some e, answer.2)

end AlertService

end NastyEngine.Alerts
