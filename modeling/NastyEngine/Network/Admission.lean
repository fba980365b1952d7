import NastyEngine.Lib.Assoc
import NastyEngine.Network.Config

/-!
The pure part of `NetworkService::update`, in its order: the request checks, `resolve_inherit`,
the InfiniBand and SR-IOV checks, and the superseding of stale interface entries.
-/

namespace NastyEngine.Network
open Lib Rust

def validateIpConfig (ip : IpConfig) (label : String) : Except String Unit :=
  if ip.method = .static ∧ ip.addresses = [] then
    .error (label ++ " static mode requires at least one address")
  else .ok ()

def checkRequest (config : NetworkConfig) (mgmtIface : Option String) : Except String Unit := do
  config.interfaces.forM fun iface => do
    validateIpConfig iface.ipv4 "IPv4"
    validateIpConfig iface.ipv6 "IPv6"
  config.bonds.forM fun bond => do
    if bond.members = [] then throw ("Bond '" ++ bond.name ++ "' has no members")
    validateIpConfig bond.ipv4 "IPv4"
    validateIpConfig bond.ipv6 "IPv6"
  config.vlans.forM fun vlan => do
    if vlan.vlanId = 0 ∨ vlan.vlanId > 4094 then
      throw ("VLAN ID " ++ toString vlan.vlanId ++ " is invalid (1-4094)")
    validateIpConfig vlan.ipv4 "IPv4"
    validateIpConfig vlan.ipv6 "IPv6"
  config.bridges.forM fun bridge => do
    if bridge.name = "" then throw "Bridge name is required"
    validateIpConfig bridge.ipv4 "IPv4"
    validateIpConfig bridge.ipv6 "IPv6"
  config.macvlans.forM fun mv => do
    if mv.name = "" ∨ mv.parent = "" then throw "macvlan name and parent are required"
    -- never put a host shim on the management interface
    if mgmtIface = some mv.parent then
      throw ("refusing macvlan shim on management interface '" ++ mv.parent ++ "'")
    validateIpConfig mv.ipv4 "IPv4"

def inheritFromConfig (ip : IpConfig) (v6 : Bool) : Option IpConfig :=
  match ip.method with
  | .dhcp => some { method := .dhcp }
  | .static => if ip.addresses = [] then none else some ip
  | .slaac => if v6 then some { method := .slaac } else none
  | _ => none

/-- A leased address is not made static. -/
def inheritFromLive (live : LiveTopology) (member : String) (v6 : Bool) : Option IpConfig :=
  if !v6 ∧ live.dhcpManagedV4 member then some { method := .dhcp }
  else if live.addrs member v6 = [] then none
  else some { method := .static, addresses := live.addrs member v6, gateway := live.defaultVia member v6 }

def resolveInheritOne (members : List String) (prev : NetworkConfig) (live : LiveTopology) (v6 : Bool) : IpConfig :=
  let inherited := members.findSome? fun member =>
    let configured := (prev.interfaces.find? (·.name = member)).bind fun iface =>
      inheritFromConfig (if v6 then iface.ipv6 else iface.ipv4) v6
    configured.or (inheritFromLive live member v6)
  inherited.getD {}

def BridgeConfig.resolve (bridge : BridgeConfig) (prev : NetworkConfig) (live : LiveTopology) : BridgeConfig :=
  let bridge := if bridge.ipv4.method = .inherit then
    { bridge with ipv4 := resolveInheritOne bridge.members prev live false } else bridge
  if bridge.ipv6.method = .inherit then
    { bridge with ipv6 := resolveInheritOne bridge.members prev live true } else bridge

def resolveInherit (config prev : NetworkConfig) (live : LiveTopology) : NetworkConfig :=
  { config with bridges := config.bridges.map fun bridge => bridge.resolve prev live }

def liveBy {V : Type} (f : LiveInterface → V) (live : List LiveInterface) : String → Option V :=
  collect (live.map fun i => (i.name, f i))

def isInfiniband (live : List LiveInterface) (name : String) : Bool := liveBy (·.kind) live name == some "infiniband"

def rejectInfinibandRefs (config : NetworkConfig) (live : List LiveInterface) : Except String Unit := do
  config.bonds.forM fun bond =>
    match bond.members.find? (isInfiniband live) with
    | some m => throw ("'" ++ m ++ "' is an InfiniBand (IPoIB) interface — it cannot be a member of bond '" ++
        bond.name ++ "' (bonds are Ethernet-only; InfiniBand bonding is not yet supported, see #602)")
    | none => pure ()
  config.bridges.forM fun bridge =>
    match bridge.members.find? (isInfiniband live) with
    | some m => throw ("'" ++ m ++ "' is an InfiniBand (IPoIB) interface — it cannot be enslaved to bridge '" ++
        bridge.name ++ "' (bridges are Ethernet-only)")
    | none => pure ()
  config.vlans.forM fun vlan =>
    if isInfiniband live vlan.parent then
      throw ("'" ++ vlan.parent ++ "' is an InfiniBand (IPoIB) interface — VLANs on InfiniBand are not " ++
        "supported (IB partitions use P_Keys, not 802.1Q; see #602)")
    else pure ()
  config.macvlans.forM fun mv =>
    if isInfiniband live mv.parent then
      throw ("'" ++ mv.parent ++ "' is an InfiniBand (IPoIB) interface — macvlan requires an Ethernet parent")
    else pure ()

def isValidMac (mac : String) : Bool :=
  let parts := mac.toList.splitOn ':'
  decide (parts.length = 6) && parts.all fun p => strLen p == 2 && p.all isAsciiHexdigit

def checkVf (iface : String) (count : UInt32) (seen : List UInt32) (vf : VfConfig) : Except String Unit := do
  if vf.index ≥ count then
    throw ("'" ++ iface ++ "' creates " ++ toString count ++ " VFs — VF index " ++ toString vf.index ++
      " is out of range (0–" ++ toString (count.toNat - 1) ++ ")")
  if vf.index ∈ seen then
    throw ("'" ++ iface ++ "' has duplicate configuration for VF index " ++ toString vf.index)
  match vf.vlan with
  | some vlan =>
    if vlan < 1 ∨ 4094 < vlan then
      throw ("VF " ++ toString vf.index ++ " on '" ++ iface ++ "': VLAN " ++ toString vlan ++
        " is not a valid 802.1Q id (1–4094)")
  | none => pure ()
  match vf.mac with
  | some mac =>
    if !isValidMac mac then
      throw ("VF " ++ toString vf.index ++ " on '" ++ iface ++ "': '" ++ mac ++
        "' is not a valid MAC address (expected six colon-separated hex octets)")
  | none => pure ()

def checkVfs (iface : String) (count : UInt32) : List UInt32 → List VfConfig → Except String Unit
  | _, [] => pure ()
  | seen, vf :: rest => do
    checkVf iface count seen vf
    checkVfs iface count (vf.index :: seen) rest

def validateVfProperties (iface : InterfaceConfig) : Except String Unit :=
  if iface.vfs = [] then pure ()
  else match iface.sriovNumVfs with
    | none => throw ("'" ++ iface.name ++ "' has per-VF properties but no VF count — set the VF count " ++
        "on the interface first")
    | some count => checkVfs iface.name count [] iface.vfs

def validateSriov (config : NetworkConfig) (live : List LiveInterface) : Except String Unit :=
  config.interfaces.forM fun iface => do
    validateVfProperties iface
    match iface.sriovNumVfs with
    | none => pure ()
    | some n =>
      match liveBy (·.sriovTotalVfs) live iface.name with
      | some (some total) =>
        if n > total then
          throw ("'" ++ iface.name ++ "' supports at most " ++ toString total ++
            " virtual functions (requested " ++ toString n ++ ")")
      | some none =>
        throw ("'" ++ iface.name ++ "' is not SR-IOV capable — it exposes no sriov_totalvfs; " ++
          "VF count cannot be configured on it")
      | none => pure ()

/-- Interface entries of absent devices whose name a virtual device takes over are dropped. -/
def supersedeAbsentPhysicalEntries (config : NetworkConfig) (liveNames : List String) : NetworkConfig :=
  let virtualNames := config.bonds.map (·.name) ++ config.bridges.map (·.name) ++
    config.macvlans.map (·.name) ++ config.vlans.map (·.name)
  let superseded := (config.interfaces.filter fun i => i.name ∈ virtualNames ∧ i.name ∉ liveNames).map (·.name)
  { config with interfaces := config.interfaces.filter fun i => i.name ∉ superseded }

/-- Everything between the busy checks and the risk classification: the config to persist, or the
message of the check that refused the request. -/
def admission (config prev : NetworkConfig) (mgmtIface : Option String) (topology : LiveTopology)
    (live : List LiveInterface) : Except String NetworkConfig := do
  checkRequest config mgmtIface
  let config := resolveInherit config prev topology
  rejectInfinibandRefs config live
  validateSriov config live
  return supersedeAbsentPhysicalEntries config (live.map (·.name))

end NastyEngine.Network
