import NastyEngine.Network.Layered
import NastyEngine.Rust.IpAddr
import NastyEngine.Rust.Uuid

/-! `network/nm.rs`: the typed profile of each link and the settings dictionary sent over D-Bus. -/

namespace NastyEngine.Network
open Lib Rust

inductive NmConnectionType where
  | ethernet | infiniband | bond | bridge | vlan | macvlan
  deriving DecidableEq

def NmConnectionType.keyfileStr : NmConnectionType → String
  | .ethernet => "802-3-ethernet"
  | .infiniband => "infiniband"
  | .bond => "bond"
  | .bridge => "bridge"
  | .vlan => "vlan"
  | .macvlan => "macvlan"

inductive NmIpMethod where
  | auto | manual | linkLocal | disabled | ignore
  deriving DecidableEq

def NmIpMethod.keyfileStr : NmIpMethod → String
  | .auto => "auto"
  | .manual => "manual"
  | .linkLocal => "link-local"
  | .disabled => "disabled"
  | .ignore => "ignore"

structure NmIpSettings where
  method : NmIpMethod := .disabled
  addresses : List String := []
  gateway : Option String := none
  dns : List String := []
  routes : List String := []
  deriving DecidableEq

inductive NmTypeSpecific where
  | none
  | bond (mode : String)
  | bridge (stp : Bool) (forwardDelay : Option UInt8)
  | vlan (parent : String) (id : UInt16)
  | macvlan (parent : String) (mode : String)
  deriving DecidableEq

structure NmConnection where
  id : String
  uuid : String
  connType : NmConnectionType
  interfaceName : String
  controller : Option String
  portType : Option String
  mtu : Option UInt16
  sriovNumVfs : Option UInt32
  vfs : List VfConfig
  mac : Option String
  autoconnect : Bool
  ipv4 : NmIpSettings
  ipv6 : NmIpSettings
  typeSpecific : NmTypeSpecific
  deriving DecidableEq

/-- What rendering needs besides the config; `{}` is `MacContext::default()`. -/
structure MacContext where
  liveMacs : String → Option String := fun _ => none
  mgmtIface : Option String := none
  infinibandIfaces : List String := []

def addressMethodToNm : IpMethod → Family → NmIpMethod
  | .dhcp, _ => .auto
  | .static, _ => .manual
  | .slaac, .v4 => .auto
  | .slaac, .v6 => .auto
  | .disabled, _ => .disabled
  | .inherit, _ => .auto

def addressToNmSettings (addr : Address) : NmIpSettings :=
  { method := addressMethodToNm addr.method addr.family, addresses := addr.cidr, gateway := addr.gateway }

def assignNmSettings (entry : NmIpSettings × NmIpSettings) (addr : Address) : NmIpSettings × NmIpSettings :=
  match addr.family with
  | .v4 => (addressToNmSettings addr, entry.2)
  | .v6 => (entry.1, addressToNmSettings addr)

def addrsByLink (layered : LayeredConfig) : String → Option (NmIpSettings × NmIpSettings) :=
  grouped (·.link) ({}, {}) assignNmSettings layered.addresses

def memberships (link : Link) : List (String × String × String) :=
  match link.kind with
  | .bond members .. => members.map fun m => (m, link.name, "bond")
  | .bridge members .. => members.map fun m => (m, link.name, "bridge")
  | _ => []

def masterOf (links : List Link) : String → Option (String × String) := collect (links.flatMap memberships)

def isV6 (s : String) : Bool := ':' ∈ s.toList

def pushRoute (entry : List String × List String) (r : Route) : List String × List String :=
  if isV6 r.dst then (entry.1, entry.2 ++ [r.dst]) else (entry.1 ++ [r.dst], entry.2)

def familyRoutesByDev (layered : LayeredConfig) : String → Option (List String × List String) :=
  grouped (·.dev) ([], []) pushRoute layered.routes

def splitDnsByFamily (dns : List String) : List String × List String := (dns.filter fun s => !isV6 s, dns.filter isV6)

def nastyUuidNamespace : List UInt8 :=
  [0x8d, 0x1f, 0x3a, 0x4e, 0x4c, 0x8b, 0x5e, 0x9f, 0x9a, 0x1b, 0x7c, 0x2e, 0x3d, 0x4f, 0x5a, 0x6b]

def deterministicUuidFor (name : String) : String := hyphenated (newV5 nastyUuidNamespace name.toUTF8.toList)

def connectionId (link : String) : String := "nasty-" ++ link

def connTypeOf (link : Link) (ctx : MacContext) : NmConnectionType :=
  match link.kind with
  | .physical => if link.name ∈ ctx.infinibandIfaces then .infiniband else .ethernet
  | .bond .. => .bond
  | .bridge .. => .bridge
  | .vlan .. => .vlan
  | .macvlan .. => .macvlan

def typeSpecificOf (kind : LinkKind) : NmTypeSpecific :=
  match kind with
  | .physical => .none
  | .bond _ mode _ => .bond mode.toKernel
  | .bridge _ stp forwardDelayS _ => .bridge stp forwardDelayS
  | .vlan parent id => .vlan parent id
  | .macvlan parent mode => .macvlan parent mode

def profileForLink (link : Link) (addrs : String → Option (NmIpSettings × NmIpSettings))
    (master : String → Option (String × String)) (ctx : MacContext) : NmConnection :=
  -- member ports never carry IP; the master does
  let (ipv4, ipv6) := if (master link.name).isSome then ({}, {}) else (addrs link.name).getD ({}, {})
  { id := connectionId link.name
    uuid := deterministicUuidFor link.name
    connType := connTypeOf link ctx
    interfaceName := link.name
    controller := (master link.name).map (·.1)
    portType := (master link.name).map (·.2)
    mtu := link.mtu
    sriovNumVfs := link.sriovNumVfs
    vfs := link.vfs
    mac := link.mac
    autoconnect := link.enabled
    ipv4
    ipv6
    typeSpecific := typeSpecificOf link.kind }

def inheritsMemberMac : LinkKind → Bool
  | .bond _ _ inheritMemberMac => inheritMemberMac
  | .bridge _ _ _ inheritMemberMac => inheritMemberMac
  | _ => false

def pickPrimaryMember (kind : LinkKind) (mgmt : Option String) : Option String :=
  match kind with
  | .bond members .. | .bridge members .. =>
    match mgmt with
    | some m => if m ∈ members then some m else members.head?
    | none => members.head?
  | _ => none

def inheritedMac (kind : LinkKind) (ctx : MacContext) : Option String :=
  if inheritsMemberMac kind then (pickPrimaryMember kind ctx.mgmtIface).bind ctx.liveMacs else none

def NmConnection.withDns (conn : NmConnection) (dns : List String × List String) : NmConnection :=
  if conn.controller.isNone then
    { conn with ipv4 := { conn.ipv4 with dns := dns.1 }, ipv6 := { conn.ipv6 with dns := dns.2 } }
  else conn

def NmConnection.withRoutes (conn : NmConnection) : Option (List String × List String) → NmConnection
  | some (v4, v6) =>
    { conn with
      ipv4 := { conn.ipv4 with routes := v4 }
      ipv6 := { conn.ipv6 with routes := v6 } }
  | none => conn

section
variable (layered : LayeredConfig) (ctx : MacContext)

def plainProfile (link : Link) : NmConnection :=
  let conn := profileForLink link (addrsByLink layered) (masterOf layered.links) ctx
  let conn := conn.withDns (splitDnsByFamily layered.dns)
  conn.withRoutes (familyRoutesByDev layered link.name)

def linkProfile (link : Link) : NmConnection :=
  match inheritedMac link.kind ctx with
  | some mac => { plainProfile layered ctx link with mac := some mac }
  | none => plainProfile layered ctx link

def toNmProfilesWithMacs : List NmConnection := layered.links.map (linkProfile layered ctx)

end

inductive RowValue where
  | str (s : String)
  | bool (b : Bool)
  | u32 (n : UInt32)
  | rows (entries : List (List (String × UInt32)))
  deriving DecidableEq

/-- The variants the engine sends; dictionaries inside a value are listed in key order. -/
inductive OwnedValue where
  | str (s : String)
  | bool (b : Bool)
  | u32 (n : UInt32)
  | bytes (b : List UInt8)
  | u32s (ns : List UInt32)
  | byteArrays (bs : List (List UInt8))
  | strings (entries : List (String × String))
  | rows (entries : List (List (String × RowValue)))
  deriving DecidableEq

abbrev Section := Finmap fun _ : String => OwnedValue

abbrev SettingsDict := Finmap fun _ : String => Section

def parseCidr (cidr : String) : Option (String × UInt32) := do
  let (addr, len) ← splitOnce '/' cidr.toList
  let bits ← fromStrRadix 10 (2 ^ 32) len
  some (String.ofList addr, UInt32.ofNat bits)

def macToBytes (mac : String) : Option (List UInt8) :=
  let parts := mac.toList.splitOn ':'
  if parts.length ≠ 6 then none
  else parts.mapM fun p => if strLen p ≠ 2 then none else (fromStrRadix 16 256 p).map UInt8.ofNat

def macvlanModeNum : String → UInt32
  | "vepa" => 1
  | "bridge" => 2
  | "private" => 3
  | "passthru" => 4
  | "source" => 5
  | _ => 2

/-- `u32::from_ne_bytes` on a little-endian machine. -/
def Ipv4Addr.packed (a : Ipv4Addr) : UInt32 := UInt32.ofNat (a.octets.foldr (fun octet acc => octet + 256 * acc) 0)

def Ipv6Addr.octets (a : Ipv6Addr) : List UInt8 :=
  a.segments.flatMap fun segment => [UInt8.ofNat (segment / 256), UInt8.ofNat (segment % 256)]

def unlessEmpty {α β : Type} (f : List α → β) (xs : List α) : Option β := if xs.isEmpty then none else some (f xs)

/-- The rows of `address-data` (key `address`) and `route-data` (key `dest`). -/
def cidrRows (key : String) (cidrs : List String) : List (List (String × RowValue)) :=
  (cidrs.filterMap parseCidr).map fun (addr, bits) => [(key, .str addr), ("prefix", .u32 bits)]

def dnsValue (dns : List String) : Family → Option OwnedValue
  | .v4 => unlessEmpty .u32s
      ((dns.filterMap fun s => parseIpv4Addr s.toList).map Ipv4Addr.packed)
  | .v6 => unlessEmpty .byteArrays
      ((dns.filterMap fun s => parseIpv6Addr s.toList).map Ipv6Addr.octets)

def ipSectionDict (ip : NmIpSettings) (family : Family) : Section :=
  (∅ : Section)
    |> Finmap.insert "method" (.str ip.method.keyfileStr)
    |> insertSome "address-data" (unlessEmpty .rows (cidrRows "address" ip.addresses))
    |> insertSome "gateway" (ip.gateway.map .str)
    |> insertSome "dns" (dnsValue ip.dns family)
    |> insertSome "route-data" (unlessEmpty .rows (cidrRows "dest" ip.routes))

def connectionSection (p : NmConnection) : Section :=
  (∅ : Section)
    |> Finmap.insert "id" (.str p.id)
    |> Finmap.insert "uuid" (.str p.uuid)
    |> Finmap.insert "type" (.str p.connType.keyfileStr)
    |> Finmap.insert "interface-name" (.str p.interfaceName)
    |> Finmap.insert "autoconnect" (.bool p.autoconnect)
    |> insertSome "controller" (p.controller.map .str)
    |> insertSome "port-type" (p.portType.map .str)

/-- A MAC that does not parse is left out, so that NetworkManager uses its default. -/
def NmConnection.macBytes (p : NmConnection) : Option (List UInt8) := p.mac.bind macToBytes

def bridgeSection (stp : Bool) (forwardDelay : Option UInt8) (mac : Option (List UInt8)) : Section :=
  (∅ : Section)
    |> Finmap.insert "stp" (.bool stp)
    |> insertSome "forward-delay" (forwardDelay.map fun fd => .u32 fd.toUInt32)
    |> Finmap.insert "multicast-snooping" (.bool false)
    |> insertSome "mac-address" (mac.map .bytes)

def typeSection (p : NmConnection) : Option (String × Section) :=
  match p.typeSpecific with
  | .none => none
  | .bond mode => some ("bond", Finmap.insert "options" (.strings [("mode", mode)]) ∅)
  | .bridge stp forwardDelay => some ("bridge", bridgeSection stp forwardDelay p.macBytes)
  | .vlan parent id => some ("vlan",
      (∅ : Section) |> Finmap.insert "parent" (.str parent) |> Finmap.insert "id" (.u32 id.toUInt32))
  | .macvlan parent mode => some ("macvlan", (∅ : Section) |> Finmap.insert "parent" (.str parent)
        |> Finmap.insert "mode" (.u32 (macvlanModeNum mode)))

def infinibandSection (p : NmConnection) : Option Section :=
  if p.connType = .infiniband then some <|
    (∅ : Section)
      |> Finmap.insert "transport-mode" (.str "datagram")
      |> insertSome "mtu" (p.mtu.map fun mtu => .u32 mtu.toUInt32)
  else none

/-- MTU for the Ethernet-like types and bridges, cloned MAC for all of these but bridges. -/
def ethernetSection (p : NmConnection) : Option Section :=
  if p.connType ∈ [.ethernet, .bond, .vlan, .bridge] then
    let cloned := if p.connType = .bridge then none else p.macBytes
    let eth := (∅ : Section)
      |> insertSome "mtu" (p.mtu.map fun mtu => .u32 mtu.toUInt32)
      |> insertSome "cloned-mac-address" (cloned.map .bytes)
    if p.connType = .ethernet ∨ p.mtu.isSome ∨ cloned.isSome then some eth else none
  else none

def vfRow (vf : VfConfig) : List (String × RowValue) :=
  [("index", .u32 vf.index)] ++ (vf.mac.map fun mac => ("mac", .str mac)).toList ++
    (vf.spoofCheck.map fun sc => ("spoof-check", .bool sc)).toList ++
    (vf.trust.map fun t => ("trust", .bool t)).toList ++
    (vf.vlan.map fun vlan =>
      ("vlans", .rows [[("id", vlan.toUInt32), ("protocol", 0), ("qos", 0)]])).toList

def sriovSection (p : NmConnection) : Option Section :=
  p.sriovNumVfs.map fun n =>
    (∅ : Section)
      |> Finmap.insert "total-vfs" (.u32 n)
      |> insertSome "vfs" (unlessEmpty .rows (p.vfs.map vfRow))

def toSettingsDict (p : NmConnection) : SettingsDict :=
  let out : SettingsDict := Finmap.insert "connection" (connectionSection p) ∅
  let out := match typeSection p with
    | some (name, typed) => Finmap.insert name typed out
    | none => out
  out
    |> insertSome "infiniband" (infinibandSection p)
    |> insertSome "802-3-ethernet" (ethernetSection p)
    |> insertSome "sriov" (sriovSection p)
    |> Finmap.insert "ipv4" (ipSectionDict p.ipv4 .v4)
    |> Finmap.insert "ipv6" (ipSectionDict p.ipv6 .v6)

end NastyEngine.Network
