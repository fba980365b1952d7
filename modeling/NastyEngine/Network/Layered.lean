import NastyEngine.Lib.Assoc
import NastyEngine.Network.Config

/-!
`network/layered.rs`: links and addresses apart, the converters in both directions, and the
structural validator.
-/

namespace NastyEngine.Network
open Lib

inductive LinkKind where
  | physical
  | bond (members : List String) (mode : BondMode) (inheritMemberMac : Bool)
  | bridge (members : List String) (stp : Bool) (forwardDelayS : Option UInt8)
      (inheritMemberMac : Bool)
  | vlan (parent : String) (id : UInt16)
  | macvlan (parent : String) (mode : String)
  deriving DecidableEq

structure Link where
  name : String
  enabled : Bool := true
  mtu : Option UInt16 := none
  mac : Option String := none
  sriovNumVfs : Option UInt32 := none
  vfs : List VfConfig := []
  kind : LinkKind := .physical
  deriving DecidableEq

inductive Family where
  | v4 | v6
  deriving DecidableEq

structure Address where
  link : String
  family : Family
  method : IpMethod
  cidr : List String := []
  gateway : Option String := none
  deriving DecidableEq

structure Route where
  table : UInt32 := 254
  dst : String
  via : Option String := none
  dev : String
  metric : Option UInt32 := none
  deriving DecidableEq

/-- Policy routing rules are always empty in produced configs and have no field here. -/
structure LayeredConfig where
  links : List Link := []
  addresses : List Address := []
  routes : List Route := []
  dns : List String := []
  deriving DecidableEq

def LinkKind.members : LinkKind → List String
  | .bond members .. | .bridge members .. => members
  | _ => []

def isEmptyIp (ip : IpConfig) : Bool := ip.method == .disabled && ip.addresses.isEmpty && ip.gateway.isNone

def pushAddresses (link : String) (v4 v6 : IpConfig) : List Address :=
  (if isEmptyIp v4 then [] else
    [{ link, family := .v4, method := v4.method, cidr := v4.addresses, gateway := v4.gateway }]) ++
  (if isEmptyIp v6 then [] else
    [{ link, family := .v6, method := v6.method, cidr := v6.addresses, gateway := v6.gateway }])

def InterfaceConfig.link (iface : InterfaceConfig) : Link :=
  { name := iface.name, enabled := iface.enabled, mtu := iface.mtu,
    sriovNumVfs := iface.sriovNumVfs, vfs := iface.vfs, kind := .physical }

def BondConfig.link (bond : BondConfig) : Link :=
  { name := bond.name, mtu := bond.mtu, kind := .bond bond.members bond.mode bond.inheritMemberMac }

def BridgeConfig.link (bridge : BridgeConfig) : Link :=
  { name := bridge.name, mtu := bridge.mtu,
    kind := .bridge bridge.members bridge.stp bridge.forwardDelayS bridge.inheritMemberMac }

def VlanConfig.link (vlan : VlanConfig) : Link :=
  { name := vlan.name, mtu := vlan.mtu, kind := .vlan vlan.parent vlan.vlanId }

def MacvlanConfig.link (mv : MacvlanConfig) : Link :=
  { name := mv.name, mtu := mv.mtu, kind := .macvlan mv.parent mv.mode }

def MacvlanConfig.onLinkRoutes (mv : MacvlanConfig) : List Route := mv.routes.map fun dst => { dst, dev := mv.name }

def declaredLinks (legacy : NetworkConfig) : List Link :=
  legacy.interfaces.map (·.link) ++ legacy.bonds.map (·.link) ++ legacy.bridges.map (·.link) ++
    legacy.vlans.map (·.link) ++ legacy.macvlans.map (·.link)

def declaredAddresses (legacy : NetworkConfig) : List Address :=
  legacy.interfaces.flatMap (fun i => pushAddresses i.name i.ipv4 i.ipv6) ++
  legacy.bonds.flatMap (fun b => pushAddresses b.name b.ipv4 b.ipv6) ++
  legacy.bridges.flatMap (fun b => pushAddresses b.name b.ipv4 b.ipv6) ++
  legacy.vlans.flatMap (fun v => pushAddresses v.name v.ipv4 v.ipv6) ++
  legacy.macvlans.flatMap (fun m => pushAddresses m.name m.ipv4 {})

/-- The synthesis loop: member names that are neither declared nor already seen. -/
def synthesizeNames (declared : List String) : List String → List String → List String
  | _, [] => []
  | seen, m :: rest =>
    if m ∈ declared ∨ m ∈ seen then synthesizeNames declared seen rest
    else m :: synthesizeNames declared (m :: seen) rest

def synthesizedLinks (links : List Link) : List Link :=
  (synthesizeNames (links.map (·.name)) [] (links.flatMap fun l => l.kind.members)).map fun m => { name := m }

def toLayered (legacy : NetworkConfig) : LayeredConfig :=
  { links := declaredLinks legacy ++ synthesizedLinks (declaredLinks legacy)
    addresses := declaredAddresses legacy
    routes := legacy.macvlans.flatMap (·.onLinkRoutes)
    dns := legacy.dns }

def Address.ip (addr : Address) : IpConfig :=
  { method := addr.method, addresses := addr.cidr, gateway := addr.gateway }

def assignAddress (entry : IpConfig × IpConfig) (addr : Address) : IpConfig × IpConfig :=
  match addr.family with
  | .v4 => (addr.ip, entry.2)
  | .v6 => (entry.1, addr.ip)

def groupAddresses (addrs : List Address) : String → Option (IpConfig × IpConfig) :=
  grouped (·.link) ({}, {}) assignAddress addrs

def routesByDev (routes : List Route) : String → Option (List String) :=
  grouped (·.dev) [] (fun entry r => entry ++ [r.dst]) routes

/-! The arms of the match in `from_layered`, one per list of the result. -/

section
variable (link : Link) (ip : IpConfig × IpConfig)

def Link.toInterface : Option InterfaceConfig :=
  match link.kind with
  | .physical => some
      { name := link.name, enabled := link.enabled, ipv4 := ip.1, ipv6 := ip.2, mtu := link.mtu,
        sriovNumVfs := link.sriovNumVfs, vfs := link.vfs }
  | _ => none

def Link.toBond : Option BondConfig :=
  match link.kind with
  | .bond members mode inheritMemberMac => some
      { name := link.name, members, mode, ipv4 := ip.1, ipv6 := ip.2, mtu := link.mtu,
        inheritMemberMac }
  | _ => none

def Link.toBridge : Option BridgeConfig :=
  match link.kind with
  | .bridge members stp forwardDelayS inheritMemberMac => some
      { name := link.name, members, ipv4 := ip.1, ipv6 := ip.2, mtu := link.mtu, stp,
        forwardDelayS, inheritMemberMac }
  | _ => none

def Link.toVlan : Option VlanConfig :=
  match link.kind with
  | .vlan parent id => some { parent, vlanId := id, ipv4 := ip.1, ipv6 := ip.2, mtu := link.mtu }
  | _ => none

def Link.toMacvlan (routes : List String) : Option MacvlanConfig :=
  match link.kind with
  | .macvlan parent mode => some
      { name := link.name, parent, mode, ipv4 := ip.1, mtu := link.mtu, routes }
  | _ => none

end

def fromLayered (layered : LayeredConfig) : NetworkConfig :=
  let ip (link : Link) := (groupAddresses layered.addresses link.name).getD ({}, {})
  let routes (link : Link) := (routesByDev layered.routes link.name).getD []
  { interfaces := layered.links.filterMap fun link => link.toInterface (ip link)
    dns := layered.dns
    bonds := layered.links.filterMap fun link => link.toBond (ip link)
    vlans := layered.links.filterMap fun link => link.toVlan (ip link)
    bridges := layered.links.filterMap fun link => link.toBridge (ip link)
    macvlans := layered.links.filterMap fun link => link.toMacvlan (ip link) (routes link) }

def checkNames : List String → List Link → Except String (List String)
  | names, [] => .ok names
  | names, link :: rest =>
    if link.name ∈ names then .error ("duplicate link name '" ++ link.name ++ "'")
    else checkNames (link.name :: names) rest

def checkMembers (names : List String) (link : String) : List String → Except String Unit
  | [] => .ok ()
  | m :: rest =>
    if m = link then .error ("link '" ++ link ++ "' enslaves itself")
    else if m ∉ names then .error ("link '" ++ link ++ "' references missing member '" ++ m ++ "'")
    else checkMembers names link rest

def checkReference (names : List String) (link : Link) : Except String Unit :=
  match link.kind with
  | .bond members .. | .bridge members .. => checkMembers names link.name members
  | .vlan parent _ =>
    if parent = link.name then .error ("vlan '" ++ link.name ++ "' is its own parent")
    else if parent ∉ names then
      .error ("vlan '" ++ link.name ++ "' references missing parent '" ++ parent ++ "'")
    else .ok ()
  | .macvlan parent _ =>
    if parent = link.name then .error ("macvlan '" ++ link.name ++ "' is its own parent")
    else if parent ∉ names then
      .error ("macvlan '" ++ link.name ++ "' references missing parent '" ++ parent ++
        "' (declare the parent interface/bridge first)")
    else .ok ()
  | .physical => .ok ()

def checkReferences (names : List String) : List Link → Except String Unit
  | [] => .ok ()
  | link :: rest => do
    checkReference names link
    checkReferences names rest

def checkAddresses (names : List String) : List Address → Except String Unit
  | [] => .ok ()
  | addr :: rest =>
    if addr.link ∉ names then .error ("address references missing link '" ++ addr.link ++ "'")
    else checkAddresses names rest

def checkMastersOf (link : String) : (String → Option String) → List String → Except String (String → Option String)
  | masterOf, [] => .ok masterOf
  | masterOf, m :: rest =>
    match masterOf m with
    | some existing =>
      .error ("link '" ++ m ++ "' is a member of both '" ++ existing ++ "' and '" ++ link ++ "'")
    | none => checkMastersOf link (Function.update masterOf m (some link)) rest

def checkMasters : (String → Option String) → List Link → Except String Unit
  | _, [] => .ok ()
  | masterOf, link :: rest => do
    let masterOf ← checkMastersOf link.name masterOf link.kind.members
    checkMasters masterOf rest

inductive Color where
  | gray | black
  deriving DecidableEq

abbrev Colors := String → Option Color

def deps (link : Link) : List String :=
  match link.kind with
  | .bond members .. | .bridge members .. => members
  | .vlan parent _ => [parent]
  | .macvlan parent _ => [parent]
  | .physical => []

def linkByName (links : List Link) : String → Option Link := collect (links.map fun l => (l.name, l))

/-- A loop of visits that stops at the first error, or when a visit does not return. -/
def visitEach (visit : String → Colors → Option (Except String Colors)) :
    List String → Colors → Option (Except String Colors)
  | [], color => some (.ok color)
  | node :: rest, color =>
    match visit node color with
    | some (.ok color) => visitEach visit rest color
    | stopped => stopped

/-- The depth-first search with at most `fuel` nested calls; `none` when they do not suffice. -/
def visitForCycles (byName : String → Option Link) : Nat → String → Colors → Option (Except String Colors)
  | 0, _, _ => none
  | fuel + 1, node, color =>
    match color node with
    | some .black => some (.ok color)
    | some .gray => some (.error ("cycle detected through link '" ++ node ++ "'"))
    | none =>
      let color := Function.update color node (some .gray)
      let visited := match byName node with
        | some link => visitEach (visitForCycles byName fuel) (deps link) color
        | none => some (.ok color)
      match visited with
      | some (.ok color) => some (.ok (Function.update color node (some .black)))
      | stopped => stopped

/-- Nesting never exceeds one call per declared link and one for a missing name. -/
def detectCycles (links : List Link) : Except String Unit :=
  match visitEach (visitForCycles (linkByName links) (links.length + 1)) (links.map (·.name))
      fun _ => none with
  | some (.ok _) => .ok ()
  | some (.error e) => .error e
  | none => .error "recursion limit"

def validate (layered : LayeredConfig) : Except String Unit := do
  let names ← checkNames [] layered.links
  checkReferences names layered.links
  checkAddresses names layered.addresses
  checkMasters (fun _ => none) layered.links
  detectCycles layered.links

end NastyEngine.Network
