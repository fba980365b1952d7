import NastyEngine.Firewall.Rules
import NastyEngine.Lib.Faults

/-!
`FirewallService` over an explicit host: the configuration in memory, the batch the kernel last
accepted and the two state files. A mutator decides on a candidate under the configuration lock;
`transact` stages the file it changes, applies the candidate and publishes the file. Staging, both
runs of `nft` and the publishing rename may fail; temporary files are left out.
-/

namespace NastyEngine.Firewall
open Rust Fallible

inductive File (α : Type) where
  | missing
  | json (value : α)
  | unreadable (error : String)

def File.load {α : Type} (file : File α) (default : α) : Except String α :=
  match file with
  | .missing => .ok default
  | .json value => .ok value
  | .unreadable error => .error error

inductive Dest where
  | restrictions
  | custom
  deriving DecidableEq

structure Host where
  kernel : Option String := none
  config : FirewallConfig := {}
  restrictionsFile : File FirewallRestrictions := .missing
  customFile : File (List CustomRule) := .missing

/-- An error that left the service as it was, apart from the one after which the candidate is live
and in memory but not on disk. Both carry the text of the error. -/
inductive FirewallError where
  | refused (message : String)
  | degraded (message : String)
  deriving DecidableEq

abbrev Task (α : Type) := Fallible FirewallError (Faulty Host) α

def applyNftablesWith (config : FirewallConfig) : Fallible String (Faulty Host) Unit := do
  external id -- nft --check
  external fun h => { h with kernel := some (renderTransaction config) } -- nft --file

def Host.publish (h : Host) (dest : Dest) (candidate : FirewallConfig) : Host :=
  match dest with
  | .restrictions => { h with restrictionsFile := .json candidate.restrictions }
  | .custom => { h with customFile := .json candidate.custom }

def adopt (candidate : FirewallConfig) : Task Unit := assign fun h => { h with config := candidate }

def commitCandidate (current candidate : FirewallConfig) (staged : Option Dest) : Task Unit := do
  mapError .refused (applyNftablesWith candidate)
  match staged with
  | none => adopt candidate
  | some dest => do
    match ← attempt (external fun h => h.publish dest candidate) with
    | .ok _ => adopt candidate
    | .error persistError => do
      match ← attempt (applyNftablesWith current) with
      | .ok _ => throw (.refused ("persist firewall state: " ++ persistError ++ "; previous live rules restored"))
      | .error rollbackError => do
        adopt candidate
        throw (.degraded ("persist firewall state: " ++ persistError ++
          "; live rollback also failed: " ++ rollbackError ++
          "; in-memory state reflects the live candidate"))

inductive Change where
  | keep
  | apply (candidate : FirewallConfig)
  | persist (candidate : FirewallConfig) (dest : Dest)

abbrev Plan (α : Type) := Host → Except String α

def perform (current : FirewallConfig) : Change → Task Unit
  | .keep => pure ()
  | .apply candidate => commitCandidate current candidate none
  | .persist candidate dest => do
    mapError .refused (external id) -- StagedJson::stage
    commitCandidate current candidate (some dest)

def transact (plan : Plan Change) : Task Unit := do
  let h ← observe fun h => h
  match plan h with
  | .error e => throw (.refused e)
  | .ok change => perform h.config change

def FirewallRestrictions.ruleFor (r : FirewallRestrictions) (service : String) (ports : List PortSpec)
    (active : Bool) : FirewallRule :=
  { service, ports := applyRestrictions ports (r.sourcesOf service) (r.ifacesOf service), active }

structure InitArgs where
  enabledProtocols : List (Protocol × Bool)
  rdmaEnabled : Bool := false
  dcEnabled : Bool := false
  iscsiPorts : List PortSpec
  nvmeofPorts : List PortSpec
  published : List PublishedAppPort := []

def initialRules (args : InitArgs) (r : FirewallRestrictions) : FirewallState :=
  let protocols := args.enabledProtocols.filterMap fun (proto, enabled) =>
    if portsForProtocol proto = [] then none
    else some (r.ruleFor proto.name (portsForProtocol proto) enabled)
  [r.ruleFor "webui" webuiPorts true] ++ protocols ++
    (if args.rdmaEnabled then [r.ruleFor "rdma" rdmaPorts true] else []) ++
    (if args.dcEnabled then [r.ruleFor "dc" dcPorts true] else [])

def FirewallState.withPorts (state : FirewallState) (r : FirewallRestrictions) (proto : Protocol)
    (ports : List PortSpec) : FirewallState :=
  (replaceRulePorts state r proto.name ports).getD state

def init (args : InitArgs) : Plan Change := fun h => do
  let restrictions ← h.restrictionsFile.load {}
  let custom ← h.customFile.load []
  let state := ((initialRules args restrictions).withPorts restrictions .iscsi args.iscsiPorts).withPorts
    restrictions .nvmeof args.nvmeofPorts
  return .apply { state, restrictions, custom, published := args.published }

def setRuleActive (service : String) (base : List PortSpec) (active : Bool) : Plan Change := fun h =>
  let c := h.config
  if base = [] then .ok .keep
  else match c.state.rule service with
    | some rule =>
      if rule.active = active then .ok .keep
      else .ok (.apply { c with state := c.state.updateRule service ({ · with active }) })
    | none => .ok (.apply { c with state := c.state ++ [c.restrictions.ruleFor service base active] })

def openService (proto : Protocol) : Plan Change := setRuleActive proto.name (portsForProtocol proto) true

def closeService (proto : Protocol) : Plan Change := setRuleActive proto.name (portsForProtocol proto) false

def openRdma : Plan Change := setRuleActive "rdma" rdmaPorts true

def closeRdma : Plan Change := setRuleActive "rdma" rdmaPorts false

def openDc : Plan Change := setRuleActive "dc" dcPorts true

def closeDc : Plan Change := setRuleActive "dc" dcPorts false

def protocolStates (state : FirewallState) (enabledProtocols : List (Protocol × Bool)) : FirewallState × Bool :=
  enabledProtocols.foldl (fun (state, changed) (proto, active) =>
    match state.rule proto.name with
    | some rule =>
      if rule.active = active then (state, changed)
      else (state.updateRule proto.name ({ · with active }), true)
    | none => (state, changed)) (state, false)

def setProtocolStates (enabledProtocols : List (Protocol × Bool)) : Plan Change := fun h =>
  let (state, changed) := protocolStates h.config.state enabledProtocols
  if changed then .ok (.apply { h.config with state }) else .ok .keep

/-- `Vec::dedup_by`: drop what equals the last element kept. -/
def dedupBy {α : Type} (same : α → α → Bool) : List α → List α
  | [] => []
  | a :: rest => a :: go a rest
where
  go (last : α) : List α → List α
    | [] => []
    | b :: rest => if same b last then go last rest else b :: go b rest

def normalizePublished (published : List PublishedAppPort) : List PublishedAppPort :=
  let le (a b : PublishedAppPort) : Bool :=
    ((compare a.transport b.transport).then ((compare a.hostPort b.hostPort).then (compare a.app b.app))).isLE
  dedupBy (fun a b => a.transport = b.transport ∧ a.hostPort = b.hostPort ∧ a.app = b.app) (published.mergeSort le)

def setPublishedAppPorts (published : List PublishedAppPort) : Plan Change := fun h =>
  let published := normalizePublished published
  if h.config.published = published then .ok .keep else .ok (.apply { h.config with published })

def defaultPorts (service : String) : Option (List PortSpec) :=
  if service = "webui" then some webuiPorts
  else if service = "rdma" then some rdmaPorts
  else if service = "dc" then some dcPorts
  else (Protocol.fromName service).map portsForProtocol

def setEntry (m : Finmap fun _ : String => List String) (service : String) (values : List String) :
    Finmap fun _ : String => List String :=
  if values = [] then m.erase service else m.insert service values

def FirewallRestrictions.set (r : FirewallRestrictions) (service : String) (sources ifaces : List String) :
    FirewallRestrictions :=
  { services := setEntry r.services service sources, interfaces := setEntry r.interfaces service ifaces }

def setRestriction (service : String) (sources ifaces : List String) : Plan Change := fun h =>
  match sources.find? (!validSource ·), ifaces.find? (!validIface ·), defaultPorts service with
  | some source, _, _ => .error ("invalid source (expected an IP or CIDR): " ++ source)
  | none, some iface, _ => .error ("invalid interface name: " ++ iface)
  | none, none, none => .error ("unknown service: " ++ service)
  | none, none, some _ =>
    -- the rule that is updated is the one the base ports are read from
    let state := h.config.state.updateRule service fun rule =>
      { rule with ports := applyRestrictions (basePorts rule.ports) sources ifaces }
    .ok (.persist { h.config with state, restrictions := h.config.restrictions.set service sources ifaces } .restrictions)

def setServicePorts (proto : Protocol) (ports : List PortSpec) : Plan Change := fun h =>
  match replaceRulePorts h.config.state h.config.restrictions proto.name ports with
  | none => .ok .keep
  | some state => .ok (.apply { h.config with state })

def setPortalPorts (iscsiPorts nvmeofPorts : List PortSpec) : Plan Change := fun h =>
  let r := h.config.restrictions
  let iscsi := replaceRulePorts h.config.state r Protocol.iscsi.name iscsiPorts
  let nvmeof := replaceRulePorts (iscsi.getD h.config.state) r Protocol.nvmeof.name nvmeofPorts
  if iscsi = none ∧ nvmeof = none then .ok .keep
  else .ok (.apply { h.config with state := nvmeof.getD (iscsi.getD h.config.state) })

def CustomRuleInput.toRule (input : CustomRuleInput) (id : String) : CustomRule :=
  { id, label := String.ofList (trim input.label.toList), transport := input.transport
    fromPort := input.fromPort, toPort := input.toPort, source := input.source, iface := input.iface
    enabled := input.enabled }

def refuseServicePorts (state : FirewallState) (input : CustomRuleInput) : Except String Unit :=
  match servicePortConflict state input.transport input.fromPort input.toPort with
  | some owner => .error (input.transport.str ++ "/" ++ toString input.fromPort ++ "-" ++
      toString input.toPort ++ " overlaps ports managed by " ++ owner ++ " — enable " ++ owner ++
      " to open them")
  | none => .ok ()

def addCustomRule (input : CustomRuleInput) (id : String) : Plan (CustomRule × Change) := fun h => do
  validateCustomInput input
  refuseServicePorts h.config.state input
  if h.config.custom.any (sameRule · input) then throw "an identical custom rule already exists"
  let rule := input.toRule id
  return (rule, .persist { h.config with custom := h.config.custom ++ [rule] } .custom)

def replaceCustom (custom : List CustomRule) (rule : CustomRule) : List CustomRule :=
  match custom with
  | [] => []
  | r :: rest => if r.id = rule.id then rule :: rest else r :: replaceCustom rest rule

def updateCustomRule (id : String) (input : CustomRuleInput) : Plan (CustomRule × Change) := fun h => do
  validateCustomInput input
  refuseServicePorts h.config.state input
  if h.config.custom.any fun r => r.id ≠ id ∧ sameRule r input then
    throw "an identical custom rule already exists"
  if h.config.custom.all (·.id ≠ id) then throw ("custom rule not found: " ++ id)
  let rule := input.toRule id
  return (rule, .persist { h.config with custom := replaceCustom h.config.custom rule } .custom)

def removeCustomRule (id : String) : Plan Change := fun h =>
  let custom := h.config.custom.filter (·.id ≠ id)
  if custom.length = h.config.custom.length then .error ("custom rule not found: " ++ id)
  else .ok (.persist { h.config with custom } .custom)

inductive Op where
  | init (args : InitArgs)
  | openService (proto : Protocol)
  | closeService (proto : Protocol)
  | openRdma
  | closeRdma
  | openDc
  | closeDc
  | setProtocolStates (enabledProtocols : List (Protocol × Bool))
  | setPublishedAppPorts (published : List PublishedAppPort)
  | setRestriction (service : String) (sources ifaces : List String)
  | setServicePorts (proto : Protocol) (ports : List PortSpec)
  | setPortalPorts (iscsiPorts nvmeofPorts : List PortSpec)
  | addCustomRule (input : CustomRuleInput) (id : String)
  | updateCustomRule (id : String) (input : CustomRuleInput)
  | removeCustomRule (id : String)

def Op.plan : Op → Plan Change
  | .init args => Firewall.init args
  | .openService proto => Firewall.openService proto
  | .closeService proto => Firewall.closeService proto
  | .openRdma => Firewall.openRdma
  | .closeRdma => Firewall.closeRdma
  | .openDc => Firewall.openDc
  | .closeDc => Firewall.closeDc
  | .setProtocolStates enabled => Firewall.setProtocolStates enabled
  | .setPublishedAppPorts published => Firewall.setPublishedAppPorts published
  | .setRestriction service sources ifaces => Firewall.setRestriction service sources ifaces
  | .setServicePorts proto ports => Firewall.setServicePorts proto ports
  | .setPortalPorts iscsiPorts nvmeofPorts => Firewall.setPortalPorts iscsiPorts nvmeofPorts
  | .addCustomRule input id => fun h => (Firewall.addCustomRule input id h).map Prod.snd
  | .updateCustomRule id input => fun h => (Firewall.updateCustomRule id input h).map Prod.snd
  | .removeCustomRule id => Firewall.removeCustomRule id

def Op.task (op : Op) : Task Unit := transact op.plan

end NastyEngine.Firewall
