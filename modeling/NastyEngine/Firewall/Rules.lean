import NastyEngine.Rust.IpAddr
import Mathlib.Data.Finmap

/-!
The pure part of `firewall.rs`: the types, the ports services own, the checks on user input, the
expansion of restrictions and the ruleset text.
-/

namespace NastyEngine.Firewall
open Rust

inductive Transport where
  | tcp
  | udp
  deriving DecidableEq

structure PortSpec where
  port : UInt16
  toPort : Option UInt16 := none
  transport : Transport
  source : Option String := none
  iface : Option String := none
  deriving DecidableEq

structure FirewallRule where
  service : String
  ports : List PortSpec
  active : Bool
  deriving DecidableEq

abbrev FirewallState := List FirewallRule

structure FirewallRestrictions where
  services : Finmap fun _ : String => List String := ∅
  interfaces : Finmap fun _ : String => List String := ∅
  deriving DecidableEq

def FirewallRestrictions.sourcesOf (r : FirewallRestrictions) (service : String) : List String :=
  (r.services.lookup service).getD []

def FirewallRestrictions.ifacesOf (r : FirewallRestrictions) (service : String) : List String :=
  (r.interfaces.lookup service).getD []

structure CustomRule where
  id : String
  label : String
  transport : Transport
  fromPort : UInt16
  toPort : UInt16
  source : Option String := none
  iface : Option String := none
  enabled : Bool
  deriving DecidableEq

structure CustomRuleInput where
  label : String
  transport : Transport
  fromPort : UInt16
  toPort : UInt16
  source : Option String := none
  iface : Option String := none
  enabled : Bool := true
  deriving DecidableEq

structure PublishedAppPort where
  app : String
  hostPort : UInt16
  containerPort : UInt16
  transport : String
  deriving DecidableEq

structure FirewallConfig where
  state : FirewallState := []
  restrictions : FirewallRestrictions := {}
  custom : List CustomRule := []
  published : List PublishedAppPort := []

inductive Protocol where
  | nfs
  | smb
  | iscsi
  | nvmeof
  | nut
  | ssh
  | avahi
  | smart
  | watchdog
  | restServer
  deriving DecidableEq

def Protocol.all : List Protocol := [.nfs, .smb, .iscsi, .nvmeof, .nut, .ssh, .avahi, .smart, .watchdog, .restServer]

def Protocol.name : Protocol → String
  | .nfs => "nfs"
  | .smb => "smb"
  | .iscsi => "iscsi"
  | .nvmeof => "nvmeof"
  | .nut => "nut"
  | .ssh => "ssh"
  | .avahi => "avahi"
  | .smart => "smart"
  | .watchdog => "watchdog"
  | .restServer => "rest-server"

def Protocol.fromName : String → Option Protocol
  | "nfs" => some .nfs
  | "smb" => some .smb
  | "iscsi" => some .iscsi
  | "nvmeof" => some .nvmeof
  | "nut" => some .nut
  | "ssh" => some .ssh
  | "avahi" => some .avahi
  | "smart" => some .smart
  | "watchdog" => some .watchdog
  | "rest-server" => some .restServer
  | _ => none

def tcp (port : UInt16) : PortSpec := { port, transport := .tcp }

def udp (port : UInt16) : PortSpec := { port, transport := .udp }

def tcpRange (fromPort toPort : UInt16) : PortSpec := { port := fromPort, toPort := some toPort, transport := .tcp }

def portsForProtocol : Protocol → List PortSpec
  | .nfs => [tcp 2049]
  | .smb => [tcp 445, tcp 139, udp 3702, tcp 5357]
  | .iscsi => [tcp 3260]
  | .nvmeof => [tcp 4420]
  | .nut => [tcp 3493]
  | .ssh => [tcp 22]
  | .avahi => [udp 5353]
  | .smart => []
  | .watchdog => []
  | .restServer => [tcp 8000]

def webuiPorts : List PortSpec := [tcp 80, tcp 443]

def rdmaPorts : List PortSpec := [udp 4791, tcp 20049]

def dcPorts : List PortSpec :=
  ([53, 88, 389, 464].flatMap fun p => [tcp p, udp p]) ++
    [135, 139, 445, 636, 3268, 3269].map tcp ++ [137, 138].map udp ++ [tcpRange 49152 65535]

def validSource (s : String) : Bool :=
  let (addr, bits) := match splitOnce '/' s.toList with
    | some (a, p) => (a, some p)
    | none => (s.toList, none)
  match parseIpAddr addr, bits with
  | none, _ => false
  | some _, none => true
  | some ip, some p =>
    match fromStrRadix 10 256 p with
    | none => false
    | some n => match ip with
      | .v4 _ => n ≤ 32
      | .v6 _ => n ≤ 128

def validIface (s : String) : Bool :=
  !s.isEmpty && strLen s.toList ≤ 15 && s.toList.all fun c => isAsciiAlphanumeric c || c ∈ ['.', '_', '-', '@']

def validateCustomInput (input : CustomRuleInput) : Except String Unit := do
  if input.fromPort = 0 then throw "port must be ≥ 1"
  if input.toPort < input.fromPort then throw "range start must be ≤ range end"
  let label := trim input.label.toList
  if label = [] then throw "label is required"
  if 64 < strLen label then throw "label must be ≤ 64 characters"
  if input.label.toList.any isControl then throw "label must not contain control characters"
  if let some src := input.source then
    if !validSource src then throw ("invalid source (expected an IP or CIDR): " ++ src)
  if let some iface := input.iface then
    if !validIface iface then throw ("invalid interface name: " ++ iface)

def PortSpec.last (p : PortSpec) : UInt16 := p.toPort.getD p.port

/-- The owner of the first port that meets the range, among active and inactive rules. -/
def servicePortConflict (state : FirewallState) (transport : Transport) (fromPort toPort : UInt16) : Option String :=
  (state.find? fun rule => rule.ports.any fun p =>
    p.transport = transport ∧ p.port ≤ toPort ∧ fromPort ≤ p.last).map (·.service)

def sameRule (r : CustomRule) (input : CustomRuleInput) : Bool :=
  r.transport = input.transport ∧ r.fromPort = input.fromPort ∧ r.toPort = input.toPort ∧
    r.source = input.source ∧ r.iface = input.iface

def applyRestrictions (ports : List PortSpec) (sources ifaces : List String) : List PortSpec :=
  if sources = [] ∧ ifaces = [] then ports
  else ports.flatMap fun p =>
    if sources ≠ [] ∧ ifaces ≠ [] then
      sources.flatMap fun src => ifaces.map fun iface => { p with source := some src, iface := some iface }
    else if sources ≠ [] then sources.map fun src => { p with source := some src, iface := none }
    else ifaces.map fun iface => { p with source := none, iface := some iface }

def FirewallState.updateRule (state : FirewallState) (service : String) (f : FirewallRule → FirewallRule) :
    FirewallState :=
  match state with
  | [] => []
  | rule :: rest =>
    if rule.service = service then f rule :: rest else rule :: FirewallState.updateRule rest service f

def FirewallState.rule (state : FirewallState) (service : String) : Option FirewallRule :=
  state.find? (·.service = service)

/-- `none` when nothing changes. -/
def replaceRulePorts (state : FirewallState) (restrictions : FirewallRestrictions) (service : String)
    (ports : List PortSpec) : Option FirewallState :=
  let ports := applyRestrictions ports (restrictions.sourcesOf service) (restrictions.ifacesOf service)
  match state.rule service with
  | some rule =>
    if rule.ports = ports then none else some (state.updateRule service ({ · with ports }))
  | none => some (state ++ [{ service, ports, active := false }])

def basePorts (ports : List PortSpec) : List PortSpec :=
  ports.foldl (fun base p =>
    let p := { p with source := none, iface := none }
    if p ∈ base then base else base ++ [p]) []

def Transport.str : Transport → String
  | .tcp => "tcp"
  | .udp => "udp"

def saddrClause (src : String) : String :=
  let addr := ((splitOnce '/' src.toList).map Prod.fst).getD src.toList
  match parseIpAddr addr with
  | some (.v6 _) => "ip6 saddr " ++ src
  | _ => "ip saddr " ++ src

def originClauses (iface source : Option String) : List String :=
  (iface.toList.map fun i => "iifname \"" ++ i ++ "\"") ++ source.toList.map saddrClause

def acceptLine (conditions : List String) (comment : String) : String :=
  "        " ++ String.intercalate " " conditions ++ " accept # " ++ comment ++ "\n"

def renderPort (service : String) (p : PortSpec) : String :=
  let ports := match p.toPort with
    | some toPort => toString p.port ++ "-" ++ toString toPort
    | none => toString p.port
  acceptLine (originClauses p.iface p.source ++ [p.transport.str ++ " dport " ++ ports]) service

def CustomRule.portText (r : CustomRule) : String :=
  if r.fromPort = r.toPort then toString r.fromPort
  else toString r.fromPort ++ "-" ++ toString r.toPort

def renderCustomInput (r : CustomRule) : String :=
  acceptLine (originClauses r.iface r.source ++ [r.transport.str ++ " dport " ++ r.portText]) ("custom:" ++ r.id)

def renderCustomForward (r : CustomRule) : String :=
  acceptLine (["ct direction original", "ct status dnat"] ++ originClauses r.iface r.source ++
    ["meta l4proto " ++ r.transport.str, "ct original proto-dst " ++ r.portText]) ("custom:" ++ r.id)

def renderPublished (p : PublishedAppPort) : String :=
  let line (proto : String) := "        ct direction original ct status dnat meta l4proto " ++ proto ++
    " ct original proto-dst " ++ toString p.hostPort ++ " accept # app-published\n"
  if eqIgnoreAsciiCase p.transport "tcp" then line "tcp"
  else if eqIgnoreAsciiCase p.transport "udp" then line "udp"
  else ""

def renderRulesetWithPublished (state : FirewallState) (custom : List CustomRule)
    (published : List PublishedAppPort) : String :=
  let enabled := custom.filter (·.enabled)
  String.join ([ "table inet nasty \x7b\n", "    chain input \x7b\n",
    "        type filter hook input priority 0; policy drop;\n",
    "        ct state established,related accept\n",
    "        ct state invalid drop\n",
    "        iif lo accept\n",
    "        # ICMP/ICMPv6 — always allow\n",
    "        ip protocol icmp accept\n",
    "        ip6 nexthdr icmpv6 accept\n",
    "        # DHCPv6 client\n",
    "        udp dport 546 accept\n"] ++
    ((state.filter (·.active)).flatMap fun rule => rule.ports.map (renderPort rule.service)) ++
    enabled.map renderCustomInput ++ [
    "    \x7d\n",
    "    chain forward \x7b\n",
    "        type filter hook forward priority -10; policy accept;\n",
    "        # Explicitly allowed Docker-published host ports\n"] ++
    published.map renderPublished ++
    enabled.map renderCustomForward ++ [
    "        ct direction original ct status dnat drop\n",
    "    \x7d\n",
    "\x7d\n"])

def renderTransaction (config : FirewallConfig) : String :=
  "destroy table inet nasty\n" ++ renderRulesetWithPublished config.state config.custom config.published

end NastyEngine.Firewall
