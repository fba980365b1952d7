import Mathlib.Data.LawfulXor.Basic
import Mathlib.Data.Set.Basic
import NastyEngine.Lib.Result
import NastyEngine.Rust.IpAddr

/-!
Networks that the apps' containers are attached to. The validation compares masked addresses; what it is to
ensure is about sets of addresses.
-/

namespace NastyEngine.Apps
open Lib Rust

def isIpv4 : IpAddr → Bool
  | .v4 _ => true
  | .v6 _ => false

def width (ip : IpAddr) : Nat := if isIpv4 ip then 32 else 128

/-- `u32::from` and `u128::from`. -/
def bits : IpAddr → Nat
  | .v4 a => a.octets.foldl (fun n o => n * 256 + o) 0 % 2 ^ 32
  | .v6 a => a.segments.foldl (fun n s => n * 65536 + s) 0 % 2 ^ 128

def parseCidr (s : String) : Option (IpAddr × Nat) := do
  let (addr, length) ← splitOnce '/' s.toList
  let ip ← parseIpAddr (trim addr)
  let length ← fromStrRadix 10 256 (trim length)
  if length ≤ width ip then some (ip, length) else none

def maskIp (ip : IpAddr) (length : Nat) : Nat :=
  if length = 0 then 0 else (bits ip >>> (width ip - length)) <<< (width ip - length)

def cidrContainsIp (cidr ip : String) : Option Bool := do
  let net ← parseCidr cidr
  let addr ← parseIpAddr (trim ip.toList)
  if isIpv4 net.1 ≠ isIpv4 addr then some false else some (maskIp net.1 net.2 = maskIp addr net.2)

/-- `IpAddr::to_string`: what is parsed is printed so that it is parsed again. -/
structure Printer where
  text : IpAddr → String
  reads : ∀ s ip, parseIpAddr (trim s) = some ip → parseIpAddr (trim (text ip).toList) = some ip

open Classical in
instance : Nonempty Printer :=
  ⟨{ text := fun ip => if h : ∃ s, parseIpAddr (trim s) = some ip then String.ofList h.choose else ""
     reads := fun s ip parsed => by
      have h : ∃ s, parseIpAddr (trim s) = some ip := ⟨s, parsed⟩
      rw [dif_pos h, String.toList_ofList]
      exact h.choose_spec }⟩

structure IfaceInfo where
  name : String
  kind : String
  bridgeMember : Bool

structure ManagedNetwork where
  name : String
  driver : String
  parent : Option String
  subnet : Option String
  gateway : Option String
  ipRange : Option String
  vlan : Option Nat
  hostShim : Bool
  shimIp : Option String

def outside (what value subnet : String) : String := what ++ " '" ++ value ++ "' is not within subnet '" ++ subnet ++ "'"

/-- The part before the first slash. -/
def bareAddress (shimIp : String) : String := String.ofList (shimIp.toList.takeWhile (· ≠ '/'))

def checkShim (spec : ManagedNetwork) : Except String Unit := do
  require (spec.driver = "macvlan") "host shim is only supported on macvlan networks"
  let subnet ← okOr spec.subnet "host shim requires the network to have a subnet"
  let shimIp ← okOr (spec.shimIp.filter (· ≠ ""))
    "host shim requires a shim_ip (the host's address on the subnet)"
  require (cidrContainsIp subnet (bareAddress shimIp) = some true) (outside "shim_ip" shimIp subnet)
  require (spec.gateway ≠ some (bareAddress shimIp)) "shim_ip must differ from the gateway"

def checkParent (spec : ManagedNetwork) (ifaces : List IfaceInfo) : Except String Unit :=
  match spec.parent, decide (spec.driver = "macvlan" ∨ spec.driver = "ipvlan") with
  | some p, true => do
    require (spec.vlan.all fun v => 1 ≤ v ∧ v ≤ 4094) "vlan tag must be 1-4094"
    let iface ← okOr (ifaces.find? (·.name = p)) ("parent interface '" ++ p ++ "' not found")
    require (iface.bridgeMember = false) ("'" ++ p ++ "' is enslaved to a bridge; use the bridge itself as the parent")
    require (iface.kind ≠ "infiniband")
      ("'" ++ p ++ "' is an InfiniBand (IPoIB) interface — macvlan/ipvlan require an Ethernet parent")
  | some _, false => .error "bridge driver does not take a parent"
  | none, true => .error (spec.driver ++ " requires a parent interface")
  | none, false => .ok ()

namespace Printer
variable (printer : Printer)

def cidrContainsNet (outer inner : String) : Option Bool := do
  let (_, outerLength) ← parseCidr outer
  let (innerIp, innerLength) ← parseCidr inner
  if innerLength < outerLength then some false else cidrContainsIp outer (printer.text innerIp)

def checkSubnet (spec : ManagedNetwork) : Except String Unit :=
  match spec.subnet with
  | some subnet => do
    require (parseCidr subnet).isSome ("invalid subnet CIDR '" ++ subnet ++ "'")
    spec.gateway.elim (pure ()) fun gw =>
      require (cidrContainsIp subnet gw = some true) (outside "gateway" gw subnet)
    spec.ipRange.elim (pure ()) fun range =>
      require (printer.cidrContainsNet subnet range = some true) (outside "ip_range" range subnet)
  | none => require (spec.gateway = none ∧ spec.ipRange = none) "gateway/ip_range require a subnet"

def validateNetworkSpec (spec : ManagedNetwork) (ifaces : List IfaceInfo) : Except String Unit := do
  require (spec.name ≠ "" ∧ spec.name.utf8ByteSize ≤ 64 ∧
    spec.name.toList.all fun c => c.isAlphanum || c ∈ ['_', '-', '.'])
    "network name must be 1-64 chars of [A-Za-z0-9._-]"
  require (spec.driver ∈ ["bridge", "macvlan", "ipvlan"]) "driver must be bridge, macvlan, or ipvlan"
  (if spec.hostShim then checkShim spec else pure ())
  checkParent spec ifaces
  printer.checkSubnet spec

end Printer

/-! ### Sets of addresses -/

/-- The addresses that begin with the bits of the network. -/
def addresses (net : IpAddr × Nat) : Set Nat :=
  {x | x < 2 ^ width net.1 ∧ x / 2 ^ (width net.1 - net.2) = bits net.1 / 2 ^ (width net.1 - net.2)}

def Holds (cidr text : String) : Prop :=
  ∃ net ∈ parseCidr cidr, ∃ ip ∈ parseIpAddr (trim text.toList), isIpv4 net.1 = isIpv4 ip ∧ bits ip ∈ addresses net

def Includes (outer inner : String) : Prop :=
  ∃ o ∈ parseCidr outer, ∃ i ∈ parseCidr inner, isIpv4 o.1 = isIpv4 i.1 ∧ addresses i ⊆ addresses o

theorem bits_lt {ip : IpAddr} : bits ip < 2 ^ width ip := by
  cases ip <;> exact Nat.mod_lt _ (by decide)

theorem parseCidr_some {s : String} {net : IpAddr × Nat} (parsed : parseCidr s = some net) :
    (∃ addr, parseIpAddr (trim addr) = some net.1) ∧ net.2 ≤ width net.1 := by
  simp only [parseCidr, Option.bind_eq_bind, Option.bind_eq_some_iff, Option.ite_none_right_eq_some] at parsed
  obtain ⟨parts, _, ip, read, length, _, le, eq⟩ := parsed
  cases eq
  exact ⟨⟨parts.1, read⟩, le⟩

theorem maskIp_eq {a b : IpAddr} {length : Nat} (eq : width a = width b) :
    maskIp a length = maskIp b length ↔ bits b / 2 ^ (width b - length) = bits a / 2 ^ (width b - length) := by
  rw [maskIp, maskIp, eq, eq_comm]
  split
  next none =>
    rw [none, Nat.sub_zero, Nat.div_eq_of_lt bits_lt, Nat.div_eq_of_lt (eq ▸ bits_lt)]
  · rw [Nat.shiftLeft_eq, Nat.shiftLeft_eq, Nat.shiftRight_eq_div_pow, Nat.shiftRight_eq_div_pow]
    exact Nat.mul_left_inj (Nat.two_pow_pos _).ne'

theorem cidrContainsIp_true {cidr text : String} : cidrContainsIp cidr text = some true ↔ Holds cidr text := by
  unfold cidrContainsIp Holds
  cases parseCidr cidr with
  | none => simp
  | some net =>
    cases parseIpAddr (trim text.toList) with
    | none => simp
    | some ip =>
      by_cases same : isIpv4 net.1 = isIpv4 ip
      · have widths : width net.1 = width ip := by rw [width, width, same]
        simp [same, maskIp_eq widths, addresses, widths, bits_lt]
      · simp [same]

/-- The numbers that agree with `b` in the first `q` of `w` bits agree with `a` in the first `p`. -/
theorem block_subset {w p q a b : Nat} (small : b < 2 ^ w) :
    (∀ x < 2 ^ w, x / 2 ^ (w - q) = b / 2 ^ (w - q) → x / 2 ^ (w - p) = a / 2 ^ (w - p)) ↔
      w - q ≤ w - p ∧ b / 2 ^ (w - p) = a / 2 ^ (w - p) := by
  constructor
  · intro all
    refine ⟨?_, all b small rfl⟩
    by_contra wider
    -- otherwise `b` can be changed in the last bit that `a` has a say in
    have other : b ^^^ 2 ^ (w - p) < 2 ^ w := Nat.xor_lt_two_pow small (Nat.pow_lt_pow_right (by decide) (by omega))
    have flipped := (all _ other ?_).trans (all b small rfl).symm
    · rw [Nat.xor_div_two_pow] at flipped
      simp at flipped
    · have gone : 2 ^ (w - p) / 2 ^ (w - q) = 0 := Nat.div_eq_of_lt (Nat.pow_lt_pow_right (by decide) (by omega))
      rw [Nat.xor_div_two_pow, gone, Nat.xor_zero]
  · rintro ⟨le, eq⟩ x _ shared
    obtain ⟨d, split⟩ := Nat.exists_eq_add_of_le le
    rw [← eq, split, Nat.pow_add, ← Nat.div_div_eq_div_mul, ← Nat.div_div_eq_div_mul, shared]

theorem addresses_subset {o i : IpAddr × Nat} (eq : isIpv4 o.1 = isIpv4 i.1) (outer : o.2 ≤ width o.1)
    (inner : i.2 ≤ width i.1) : addresses i ⊆ addresses o ↔ o.2 ≤ i.2 ∧ bits i.1 ∈ addresses o := by
  have widths : width i.1 = width o.1 := by rw [width, width, eq]
  have small := widths ▸ bits_lt
  have le : o.2 ≤ i.2 ↔ width o.1 - i.2 ≤ width o.1 - o.2 := by omega
  rw [le, addresses, addresses, widths, Set.mem_ofPred_eq, and_iff_right small, ← block_subset small]
  exact ⟨fun subset x lt shared => (subset ⟨lt, shared⟩).2, fun all x mem => ⟨mem.1, all x mem.1 mem.2⟩⟩

variable {printer : Printer}

theorem cidrContainsNet_true {outer inner : String} :
    printer.cidrContainsNet outer inner = some true ↔ Includes outer inner := by
  unfold Printer.cidrContainsNet Includes
  cases parsed : parseCidr outer with
  | none => simp
  | some o =>
    cases parsed' : parseCidr inner with
    | none => simp
    | some i =>
      obtain ⟨_, fits⟩ := parseCidr_some parsed
      obtain ⟨⟨addr, read⟩, fits'⟩ := parseCidr_some parsed'
      have held : Holds outer (printer.text i.1) ↔ isIpv4 o.1 = isIpv4 i.1 ∧ bits i.1 ∈ addresses o := by
        simp [Holds, parsed, printer.reads addr i.1 read]
      have nested := fun eq => addresses_subset eq fits fits'
      by_cases shorter : i.2 < o.2
      · simp +contextual [shorter, nested]
      · simp +contextual [shorter, cidrContainsIp_true, held, nested, not_lt.mp shorter]

variable {spec : ManagedNetwork}

theorem checkShim_ok {u : Unit} (ok : checkShim spec = .ok u) :
    ∃ subnet ∈ spec.subnet, ∃ shim ∈ spec.shimIp, Holds subnet (bareAddress shim) := by
  obtain ⟨_, _, ok⟩ := bind_ok ok
  obtain ⟨subnet, eq, ok⟩ := bind_ok ok
  obtain ⟨shim, filled, ok⟩ := bind_ok ok
  obtain ⟨_, within, _⟩ := bind_ok ok
  exact ⟨subnet, okOr_ok eq, shim, (Option.filter_eq_some_iff.mp (okOr_ok filled)).1,
    cidrContainsIp_true.mp (require_ok within)⟩

theorem checkSubnet_ok {u : Unit} (ok : printer.checkSubnet spec = .ok u) :
    (∀ gateway ∈ spec.gateway, ∃ subnet ∈ spec.subnet, Holds subnet gateway) ∧
      ∀ range ∈ spec.ipRange, ∃ subnet ∈ spec.subnet, Includes subnet range := by
  unfold Printer.checkSubnet at ok
  split at ok
  next subnet eq =>
    obtain ⟨_, _, ok⟩ := bind_ok ok
    obtain ⟨_, gateway, range⟩ := bind_ok ok
    constructor
    · intro gw given
      rw [given] at gateway
      exact ⟨subnet, eq, cidrContainsIp_true.mp (require_ok gateway)⟩
    · intro ipRange given
      rw [given] at range
      exact ⟨subnet, eq, cidrContainsNet_true.mp (require_ok range)⟩
  · obtain ⟨gateway, range⟩ := require_ok ok
    simp [gateway, range]

/-- A network contains another one as its addresses contain those of the other; and in a network that is accepted the
gateway, the shim's address and the range are all in the subnet. -/
theorem networks_contained (printer : Printer) :
    (∀ outer inner, printer.cidrContainsNet outer inner = some true ↔ Includes outer inner) ∧
      ∀ spec ifaces, printer.validateNetworkSpec spec ifaces = .ok () →
        (∀ gateway ∈ spec.gateway, ∃ subnet ∈ spec.subnet, Holds subnet gateway) ∧
        (spec.hostShim = true → ∃ subnet ∈ spec.subnet, ∃ shim ∈ spec.shimIp, Holds subnet (bareAddress shim)) ∧
        ∀ range ∈ spec.ipRange, ∃ subnet ∈ spec.subnet, Includes subnet range := by
  refine ⟨fun _ _ => cidrContainsNet_true, fun spec ifaces ok => ?_⟩
  obtain ⟨_, _, ok⟩ := bind_ok ok
  obtain ⟨_, _, ok⟩ := bind_ok ok
  obtain ⟨_, shim, ok⟩ := bind_ok ok
  obtain ⟨_, _, subnet⟩ := bind_ok ok
  obtain ⟨gateway, range⟩ := checkSubnet_ok subnet
  refine ⟨gateway, fun enabled => ?_, range⟩
  rw [if_pos enabled] at shim
  exact checkShim_ok shim

/-- The range is the upper half of the subnet, with the gateway in the lower. -/
example : printer.validateNetworkSpec ⟨"lan", "bridge", none, some "10.0.0.0/24", some "10.0.0.1", some "10.0.0.128/25",
    none, false, none⟩ [] = .ok () := by
  have range : printer.cidrContainsNet "10.0.0.0/24" "10.0.0.128/25" = some true := by
    refine cidrContainsNet_true.mpr ⟨(.v4 ⟨[10, 0, 0, 0]⟩, 24), by decide +kernel, (.v4 ⟨[10, 0, 0, 128]⟩, 25),
      by decide +kernel, rfl, (addresses_subset ?_ ?_ ?_).mpr ⟨?_, ?_, ?_⟩⟩ <;> decide
  simp only [Printer.validateNetworkSpec, Printer.checkSubnet, Option.elim_some, range]
  decide +kernel

end NastyEngine.Apps
