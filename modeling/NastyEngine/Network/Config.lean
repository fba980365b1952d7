import NastyEngine.Rust.Text

/-! The types of `network.rs` that `networking.json` holds, with their serde defaults. -/

namespace NastyEngine.Network

inductive IpMethod where
  | dhcp | static | slaac | inherit | disabled
  deriving DecidableEq

structure IpConfig where
  method : IpMethod := .disabled
  addresses : List String := []
  gateway : Option String := none
  deriving DecidableEq

structure VfConfig where
  index : UInt32
  vlan : Option UInt16 := none
  mac : Option String := none
  trust : Option Bool := none
  spoofCheck : Option Bool := none
  deriving DecidableEq

structure InterfaceConfig where
  name : String
  enabled : Bool := true
  ipv4 : IpConfig := {}
  ipv6 : IpConfig := {}
  mtu : Option UInt16 := none
  sriovNumVfs : Option UInt32 := none
  vfs : List VfConfig := []
  deriving DecidableEq

inductive BondMode where
  | lacp | activeBackup | balanceRr | balanceXor
  deriving DecidableEq

def BondMode.toKernel : BondMode → String
  | .lacp => "802.3ad"
  | .activeBackup => "active-backup"
  | .balanceRr => "balance-rr"
  | .balanceXor => "balance-xor"

structure BondConfig where
  name : String
  members : List String
  mode : BondMode
  ipv4 : IpConfig := {}
  ipv6 : IpConfig := {}
  mtu : Option UInt16 := none
  inheritMemberMac : Bool := true
  deriving DecidableEq

structure VlanConfig where
  parent : String
  vlanId : UInt16
  ipv4 : IpConfig := {}
  ipv6 : IpConfig := {}
  mtu : Option UInt16 := none
  deriving DecidableEq

def inheritIp : IpConfig := { method := .inherit }

structure BridgeConfig where
  name : String
  members : List String := []
  ipv4 : IpConfig := inheritIp
  ipv6 : IpConfig := inheritIp
  mtu : Option UInt16 := none
  stp : Bool := false
  forwardDelayS : Option UInt8 := none
  inheritMemberMac : Bool := true
  deriving DecidableEq

structure MacvlanConfig where
  name : String
  parent : String
  mode : String := "bridge"
  ipv4 : IpConfig := {}
  mtu : Option UInt16 := none
  routes : List String := []
  deriving DecidableEq

structure NetworkConfig where
  interfaces : List InterfaceConfig := []
  dns : List String := []
  bonds : List BondConfig := []
  vlans : List VlanConfig := []
  bridges : List BridgeConfig := []
  macvlans : List MacvlanConfig := []
  deriving DecidableEq

def VlanConfig.name (vlan : VlanConfig) : String := vlan.parent ++ "." ++ toString vlan.vlanId

structure LiveInterface where
  name : String
  mac : String := ""
  kind : String := "physical"
  sriovTotalVfs : Option UInt32 := none
  deriving DecidableEq

structure LiveTopology where
  addrsV4 : String → List String := fun _ => []
  addrsV6 : String → List String := fun _ => []
  defaultViaV4 : String → Option String := fun _ => none
  defaultViaV6 : String → Option String := fun _ => none
  dhcpManagedV4 : String → Bool := fun _ => false

def LiveTopology.addrs (live : LiveTopology) (iface : String) (v6 : Bool) : List String :=
  if v6 then live.addrsV6 iface else live.addrsV4 iface

def LiveTopology.defaultVia (live : LiveTopology) (iface : String) (v6 : Bool) : Option String :=
  if v6 then live.defaultViaV6 iface else live.defaultViaV4 iface

end NastyEngine.Network
