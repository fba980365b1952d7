import NastyEngine.Network.Profiles
import NastyEngine.Network.RoundTrip

/-! `classify_risk` decides whether an update gets a rollback window without asking for one. -/

namespace NastyEngine.Network
open Lib List

section
variable {A : Type} (name : A → String) (members : A → List String)

def listsMember (masters : List A) (master member : String) : Bool :=
  match collect (masters.map fun a => (name a, a)) master with
  | some a => decide (member ∈ members a)
  | none => false

def enslavedInto (kind mgmt : String) (prev next : List A) : Option String :=
  next.findSome? fun a =>
    if mgmt ∈ members a ∧ !listsMember name members prev (name a) mgmt then
      some ("management iface " ++ mgmt ++ " is being enslaved into " ++ kind ++ " " ++ name a)
    else none

/-- The management bridge or bond, or one the management interface is in, goes away. -/
def releasedFrom (kind mgmt : String) (prev next : List A) : Option String :=
  prev.findSome? fun a =>
    if name a ∈ next.map name then none
    else if name a = mgmt then some ("management " ++ kind ++ " " ++ mgmt ++ " is being removed")
    else if mgmt ∈ members a then
      some ("management iface " ++ mgmt ++ " is being released from " ++ kind ++ " " ++ name a ++ " that's being removed")
    else none

end

def interfaceRisk (mgmt : String) (prev next : List InterfaceConfig) : Option String :=
  match prev.find? (·.name = mgmt), next.find? (·.name = mgmt) with
  | some p, some n =>
    if p.ipv4 ≠ n.ipv4 ∨ p.ipv6 ≠ n.ipv6 then
      some ("IP config of management iface " ++ mgmt ++ " is changing")
    else if p.mtu ≠ n.mtu then some ("MTU of management iface " ++ mgmt ++ " is changing")
    else if p.enabled ∧ !n.enabled then
      some ("management iface " ++ mgmt ++ " is being disabled")
    else none
  | some _, none => some ("management iface " ++ mgmt ++ " is being removed from config")
  | _, _ => none

def classifyRisk (prev next : NetworkConfig) (mgmtIface : Option String) : Option String :=
  match mgmtIface with
  | none =>
    if prev.bonds ≠ next.bonds ∨ prev.bridges ≠ next.bridges ∨ prev.vlans ≠ next.vlans then
      some "management iface unknown — applying topology change with rollback safety net"
    else none
  | some mgmt =>
    (enslavedInto BridgeConfig.name BridgeConfig.members "bridge" mgmt prev.bridges next.bridges).or <|
    (enslavedInto BondConfig.name BondConfig.members "bond" mgmt prev.bonds next.bonds).or <|
    (interfaceRisk mgmt prev.interfaces next.interfaces).or <|
    (releasedFrom BridgeConfig.name BridgeConfig.members "bridge" mgmt prev.bridges next.bridges).or <|
    releasedFrom BondConfig.name BondConfig.members "bond" mgmt prev.bonds next.bonds

variable {A : Type} {members : A → List String} {name : A → String} {kind mgmt : String} {c : NetworkConfig}
  {l : Link}

theorem listsMember_eq_true {masters : List A} (unique : (masters.map name).Nodup) {master member : String} :
    listsMember name members masters master member = true ↔ ∃ a ∈ masters, name a = master ∧ member ∈ members a := by
  unfold listsMember
  cases hit : collect (masters.map fun a => (name a, a)) master with
  | none =>
    simp only [Bool.false_eq_true, false_iff, not_exists, not_and]
    intro a ha named
    have absent := collect_eq_none.mp hit
    simp only [map_map, Function.comp_def, mem_map, not_exists, not_and] at absent
    exact absurd named (absent a ha)
  | some a =>
    obtain ⟨b, hb, eq⟩ := mem_map.mp (collect_mem hit)
    obtain ⟨rfl, rfl⟩ := Prod.mk.inj eq
    simp only [decide_eq_true_eq]
    refine ⟨fun h => ⟨b, hb, rfl, h⟩, ?_⟩
    rintro ⟨c, hc, named, h⟩
    rwa [inj_on_of_nodup_map unique hc hb named] at h

theorem enslavedInto_eq_none {prev next : List A} (unique : (prev.map name).Nodup) :
    enslavedInto name members kind mgmt prev next = none ↔
      ∀ a ∈ next, mgmt ∈ members a → ∃ b ∈ prev, name b = name a ∧ mgmt ∈ members b := by
  unfold enslavedInto
  rw [findSome?_eq_none_iff]
  refine forall₂_congr fun a _ => ?_
  rw [ite_eq_right_iff, ← listsMember_eq_true unique]
  simp

theorem releasedFrom_eq_none {prev next : List A} : releasedFrom name members kind mgmt prev next = none ↔
      ∀ a ∈ prev, name a = mgmt ∨ mgmt ∈ members a → name a ∈ next.map name := by
  unfold releasedFrom
  rw [findSome?_eq_none_iff]
  refine forall₂_congr fun a _ => ?_
  split_ifs with stays isMgmt isMember
  · simp only [stays, implies_true]
  · exact iff_of_false (by simp) fun kept => stays (kept (.inl isMgmt))
  · exact iff_of_false (by simp) fun kept => stays (kept (.inr isMember))
  · simp [isMgmt, isMember]

def InterfaceKept (mgmt : String) (prev next : List InterfaceConfig) : Prop :=
  ∀ p ∈ prev, p.name = mgmt → ∃ n ∈ next, n.name = mgmt ∧ n.ipv4 = p.ipv4 ∧ n.ipv6 = p.ipv6 ∧
    n.mtu = p.mtu ∧ (p.enabled = true → n.enabled = true)

theorem interfaceRisk_eq_none {prev next : List InterfaceConfig}
    (uniquePrev : (prev.map (·.name)).Nodup) (uniqueNext : (next.map (·.name)).Nodup) :
    interfaceRisk mgmt prev next = none ↔ InterfaceKept mgmt prev next := by
  unfold interfaceRisk InterfaceKept
  cases before : prev.find? (·.name = mgmt) with
  | none =>
    simp only [true_iff]
    intro p hp named
    exact absurd (find?_eq_none.mp before p hp) (by simpa using named)
  | some p =>
    have named : p.name = mgmt := by simpa using find?_some before
    have only : ∀ q ∈ prev, q.name = mgmt → q = p := fun q hq eq =>
      inj_on_of_nodup_map uniquePrev hq (mem_of_find?_eq_some before) (eq.trans named.symm)
    cases after : next.find? (·.name = mgmt) with
    | none =>
      refine iff_of_false (by simp) fun kept => ?_
      obtain ⟨n, hn, eq, -⟩ := kept p (mem_of_find?_eq_some before) named
      exact absurd (find?_eq_none.mp after n hn) (by simpa using eq)
    | some n =>
      have here : n.name = mgmt := by simpa using find?_some after
      have mem := mem_of_find?_eq_some after
      constructor
      · intro unflagged q hq eq
        refine ⟨n, mem, here, ?_⟩
        simp only [ne_eq] at unflagged
        split_ifs at unflagged with ip mtu off
        grind
      · intro kept
        obtain ⟨x, hx, eq, v4, v6, mtu, on⟩ := kept p (mem_of_find?_eq_some before) named
        obtain rfl := inj_on_of_nodup_map uniqueNext hx mem (eq.trans here.symm)
        simp only [v4, v6, mtu, ne_eq, not_true_eq_false, or_self, if_false]
        grind

structure Unflagged (prev next : NetworkConfig) (mgmt : String) : Prop where
  interface : InterfaceKept mgmt prev.interfaces next.interfaces
  bridges : ∀ a ∈ next.bridges, mgmt ∈ a.members → ∃ b ∈ prev.bridges, b.name = a.name ∧ mgmt ∈ b.members
  bonds : ∀ a ∈ next.bonds, mgmt ∈ a.members → ∃ b ∈ prev.bonds, b.name = a.name ∧ mgmt ∈ b.members
  bridgesStay : ∀ b ∈ prev.bridges, b.name = mgmt ∨ mgmt ∈ b.members → b.name ∈ next.bridges.map (·.name)
  bondsStay : ∀ b ∈ prev.bonds, b.name = mgmt ∨ mgmt ∈ b.members → b.name ∈ next.bonds.map (·.name)

theorem classifyRisk_eq_none {prev next : NetworkConfig} (uniquePrev : prev.declaredNames.Nodup)
    (uniqueNext : next.declaredNames.Nodup) :
    classifyRisk prev next (some mgmt) = none ↔ Unflagged prev next mgmt := by
  simp only [NetworkConfig.declaredNames, nodup_append] at uniquePrev uniqueNext
  simp only [classifyRisk, Option.or_eq_none_iff, releasedFrom_eq_none,
    enslavedInto_eq_none uniquePrev.1.1.2.1, enslavedInto_eq_none uniquePrev.1.1.1.2.1,
    interfaceRisk_eq_none uniquePrev.1.1.1.1 uniqueNext.1.1.1.1]
  constructor
  · rintro ⟨bridges, bonds, interface, bridgesStay, bondsStay⟩
    exact ⟨interface, bridges, bonds, bridgesStay, bondsStay⟩
  · intro h
    exact ⟨h.bridges, h.bonds, h.interface, h.bridgesStay, h.bondsStay⟩

theorem accepted_names (ok : validate (toLayered c) = .ok ()) : c.declaredNames.Nodup := by
  have unique := (validate_wellFormed ok).names
  rw [toLayered_names] at unique
  exact unique.sublist (sublist_append_left _ _)

theorem mem_toLayered_links : l ∈ (toLayered c).links ↔ (∃ i ∈ c.interfaces, i.link = l) ∨ (∃ b ∈ c.bonds, b.link = l) ∨
      (∃ b ∈ c.bridges, b.link = l) ∨ (∃ v ∈ c.vlans, v.link = l) ∨ (∃ m ∈ c.macvlans, m.link = l) ∨
      ∃ m ∈ c.undeclaredMembers, ({ name := m } : Link) = l := by
  rw [show (toLayered c).links = declaredLinks c ++ synthesizedLinks (declaredLinks c) from rfl,
    synthesizedLinks_eq, declaredLinks]
  simp

theorem linkByName_of_mem (ok : validate (toLayered c) = .ok ()) (mem : l ∈ (toLayered c).links) :
    linkByName (toLayered c).links l.name = some l := by
  refine collect_of_mem ?_ (mem_map.mpr ⟨l, mem, rfl⟩)
  simpa [Function.comp_def] using (validate_wellFormed ok).names

theorem memberships_members (l : Link) : (memberships l).map Prod.fst = l.kind.members := by
  unfold memberships LinkKind.members
  cases l.kind <;> simp [Function.comp_def]

theorem masterOf_eq_some (ok : validate (toLayered c) = .ok ()) {m master : String} :
    masterOf (toLayered c).links m = some (master, kind) ↔
      (kind = "bond" ∧ ∃ b ∈ c.bonds, b.name = master ∧ m ∈ b.members) ∨
        (kind = "bridge" ∧ ∃ b ∈ c.bridges, b.name = master ∧ m ∈ b.members) := by
  have keys : (((toLayered c).links.flatMap memberships).map Prod.fst).Nodup := by
    rw [map_flatMap]
    simpa only [memberships_members] using (validate_wellFormed ok).masters
  unfold masterOf
  rw [collect_eq_some keys, mem_flatMap]
  constructor
  · rintro ⟨l, hl, hm⟩
    rcases mem_toLayered_links.mp hl with ⟨x, hx, rfl⟩ | ⟨x, hx, rfl⟩ | ⟨x, hx, rfl⟩ | ⟨x, hx, rfl⟩ |
      ⟨x, hx, rfl⟩ | ⟨x, hx, rfl⟩
    · simp [memberships, InterfaceConfig.link] at hm
    · simp only [memberships, BondConfig.link, mem_map, Prod.mk.injEq] at hm
      obtain ⟨_, h, rfl, rfl, rfl⟩ := hm
      exact .inl ⟨rfl, x, hx, rfl, h⟩
    · simp only [memberships, BridgeConfig.link, mem_map, Prod.mk.injEq] at hm
      obtain ⟨_, h, rfl, rfl, rfl⟩ := hm
      exact .inr ⟨rfl, x, hx, rfl, h⟩
    · simp [memberships, VlanConfig.link] at hm
    · simp [memberships, MacvlanConfig.link] at hm
    · simp [memberships] at hm
  · rintro (⟨rfl, b, hb, rfl, h⟩ | ⟨rfl, b, hb, rfl, h⟩)
    · exact ⟨b.link, mem_toLayered_links.mpr (.inr (.inl ⟨b, hb, rfl⟩)), by simpa [memberships, BondConfig.link] using h⟩
    · exact ⟨b.link, mem_toLayered_links.mpr (.inr (.inr (.inl ⟨b, hb, rfl⟩))),
        by simpa [memberships, BridgeConfig.link] using h⟩

def addressesOf (layered : LayeredConfig) (link : String) : List Address :=
  layered.addresses.filter fun a => a.link = link

theorem addressesOf_interface (ok : validate (toLayered c) = .ok ())
    {i : InterfaceConfig} (mem : i ∈ c.interfaces) :
    addressesOf (toLayered c) i.name = pushAddresses i.name i.ipv4 i.ipv6 := by
  have block : (i.name, i.ipv4, i.ipv6) ∈ l3Blocks c := by grind [l3Blocks]
  have unique : ((l3Blocks c).map Prod.fst).Nodup := by
    rw [l3Blocks_names]
    exact accepted_names ok
  have rows := filter_flatMap_block blockAddresses_link unique block
  unfold addressesOf
  rw [show (toLayered c).addresses = declaredAddresses c from rfl, declaredAddresses_eq]
  exact rows

def masterKind : LinkKind → Option String
  | .bond .. => some "bond"
  | .bridge .. => some "bridge"
  | _ => none

theorem masterKind_link (mem : l ∈ (toLayered c).links) (master : masterKind l.kind = some kind) :
    (kind = "bond" ∧ ∃ b ∈ c.bonds, b.name = l.name) ∨ (kind = "bridge" ∧ ∃ b ∈ c.bridges, b.name = l.name) := by
  rcases mem_toLayered_links.mp mem with ⟨x, hx, rfl⟩ | ⟨x, hx, rfl⟩ | ⟨x, hx, rfl⟩ |
    ⟨x, hx, rfl⟩ | ⟨x, hx, rfl⟩ | ⟨x, hx, rfl⟩
  · cases master
  · exact .inl ⟨(Option.some.inj master).symm, x, hx, rfl⟩
  · exact .inr ⟨(Option.some.inj master).symm, x, hx, rfl⟩
  all_goals cases master

theorem master_link (ok : validate (toLayered c) = .ok ()) {name : String}
    (declared : (kind = "bond" ∧ name ∈ c.bonds.map (·.name)) ∨ (kind = "bridge" ∧ name ∈ c.bridges.map (·.name))) :
    ∃ l, linkByName (toLayered c).links name = some l ∧ masterKind l.kind = some kind := by
  rcases declared with ⟨rfl, h⟩ | ⟨rfl, h⟩
  · obtain ⟨b, hb, rfl⟩ := mem_map.mp h
    exact ⟨b.link, linkByName_of_mem ok (mem_toLayered_links.mpr (.inr (.inl ⟨b, hb, rfl⟩))), rfl⟩
  · obtain ⟨b, hb, rfl⟩ := mem_map.mp h
    exact ⟨b.link, linkByName_of_mem ok (mem_toLayered_links.mpr (.inr (.inr (.inl ⟨b, hb, rfl⟩)))), rfl⟩

/-- Between accepted configs, a change of the management link `m` that is not flagged keeps a
declared interface `m` with its kind, MTU and address rows and does not switch it off, gives `m` no
master it did not have, and keeps every bridge and bond that is `m` or has `m` as a member. -/
theorem classifyRisk_none_keeps (prev next : NetworkConfig) (m : String)
    (acceptedPrev : validate (toLayered prev) = .ok ())
    (acceptedNext : validate (toLayered next) = .ok ())
    (unflagged : classifyRisk prev next (some m) = none) :
    (m ∈ prev.interfaces.map (·.name) → ∃ l l', linkByName (toLayered prev).links m = some l ∧
      linkByName (toLayered next).links m = some l' ∧ l'.kind = l.kind ∧ l'.mtu = l.mtu ∧
      (l.enabled = true → l'.enabled = true) ∧
      addressesOf (toLayered next) m = addressesOf (toLayered prev) m) ∧
    (∀ master, masterOf (toLayered next).links m = some master → masterOf (toLayered prev).links m = some master) ∧
    (∀ b kind, masterOf (toLayered prev).links m = some (b, kind) ∨
        (b = m ∧ ∃ l, linkByName (toLayered prev).links m = some l ∧ masterKind l.kind = some kind) →
      ∃ l', linkByName (toLayered next).links b = some l' ∧ masterKind l'.kind = some kind) := by
  have kept := (classifyRisk_eq_none (accepted_names acceptedPrev) (accepted_names acceptedNext)).mp unflagged
  refine ⟨?_, ?_, ?_⟩
  · intro declared
    obtain ⟨p, hp, rfl⟩ := mem_map.mp declared
    obtain ⟨n, hn, named, v4, v6, mtu, on⟩ := kept.interface p hp rfl
    have found := linkByName_of_mem acceptedNext (mem_toLayered_links.mpr (.inl ⟨n, hn, rfl⟩))
    refine ⟨p.link, n.link, linkByName_of_mem acceptedPrev (mem_toLayered_links.mpr (.inl ⟨p, hp, rfl⟩)), ?_, rfl, mtu,
      on, ?_⟩
    · rw [← named]
      exact found
    · rw [addressesOf_interface acceptedPrev hp, ← v4, ← v6, ← named]
      exact addressesOf_interface acceptedNext hn
  · rintro ⟨master, kind⟩ attached
    rw [masterOf_eq_some acceptedNext] at attached
    rw [masterOf_eq_some acceptedPrev]
    rcases attached with ⟨rfl, b, hb, rfl, h⟩ | ⟨rfl, b, hb, rfl, h⟩
    · exact .inl ⟨rfl, kept.bonds b hb h⟩
    · exact .inr ⟨rfl, kept.bridges b hb h⟩
  · rintro b kind (attached | ⟨rfl, l, found, isMaster⟩)
    · rw [masterOf_eq_some acceptedPrev] at attached
      apply master_link acceptedNext
      rcases attached with ⟨rfl, b, hb, rfl, h⟩ | ⟨rfl, b, hb, rfl, h⟩
      · exact .inl ⟨rfl, kept.bondsStay b hb (.inr h)⟩
      · exact .inr ⟨rfl, kept.bridgesStay b hb (.inr h)⟩
    · obtain ⟨x, hx, same⟩ := mem_map.mp (collect_mem found)
      obtain ⟨rfl, rfl⟩ := Prod.mk.inj same
      apply master_link acceptedNext
      rcases masterKind_link hx isMaster with ⟨rfl, b, hb, named⟩ | ⟨rfl, b, hb, named⟩
      · exact .inl ⟨rfl, named ▸ kept.bondsStay b hb (.inl named)⟩
      · exact .inr ⟨rfl, named ▸ kept.bridgesStay b hb (.inl named)⟩

def portAndBridge (dns : List String) (enabled : Bool) : NetworkConfig :=
  { interfaces := [{ name := "eth0", enabled, ipv4 := { method := .dhcp } }, { name := "eth1" }]
    bridges := [{ name := "br0", members := ["eth1"], ipv4 := {}, ipv6 := {} }]
    dns }

theorem classifyRisk_keeps_port :
    classifyRisk (portAndBridge [] true) (portAndBridge ["9.9.9.9"] true) (some "eth0") = none ∧
      addressesOf (toLayered (portAndBridge ["9.9.9.9"] true)) "eth0" =
        addressesOf (toLayered (portAndBridge [] true)) "eth0" := by
  have unflagged : classifyRisk (portAndBridge [] true) (portAndBridge ["9.9.9.9"] true) (some "eth0") = none := by
    decide
  have kept := classifyRisk_none_keeps _ _ "eth0" (by decide) (by decide) unflagged
  obtain ⟨_, _, _, _, _, _, _, rows⟩ := kept.1 (by decide)
  exact ⟨unflagged, rows⟩

def Unnoticed (prev next : NetworkConfig) (m : String) : Prop :=
  validate (toLayered prev) = .ok () ∧ validate (toLayered next) = .ok () ∧ classifyRisk prev next (some m) = none

instance (prev next : NetworkConfig) (m : String) : Decidable (Unnoticed prev next m) := by
  unfold Unnoticed
  infer_instance

def bridgeOver (members : List String) (ipv4 : IpConfig) : NetworkConfig :=
  { interfaces := [{ name := "eth0" }, { name := "eth1" }]
    bridges := [{ name := "br0", members, ipv4, ipv6 := {} }] }

def tagged (vlans : List VlanConfig) : NetworkConfig := { interfaces := [{ name := "eth0" }], vlans }

/-- Not flagged: a port that is switched on (only `p.enabled && !n.enabled` is), one that is newly
declared, one that leaves a bridge that stays, a new address on the management bridge itself, and a
management VLAN that goes away. -/
theorem classifyRisk_misses : (Unnoticed (portAndBridge [] false) (portAndBridge [] true) "eth0" ∧
      (linkByName (toLayered (portAndBridge [] false)).links "eth0").map (·.enabled) = some false ∧
      (linkByName (toLayered (portAndBridge [] true)).links "eth0").map (·.enabled) = some true) ∧
    (Unnoticed {} (portAndBridge [] true) "eth0" ∧ linkByName (toLayered {}).links "eth0" = none ∧
      linkByName (toLayered (portAndBridge [] true)).links "eth0" ≠ none) ∧
    (Unnoticed (bridgeOver ["eth0", "eth1"] {}) (bridgeOver ["eth1"] {}) "eth0" ∧
      masterOf (toLayered (bridgeOver ["eth0", "eth1"] {})).links "eth0" = some ("br0", "bridge") ∧
      masterOf (toLayered (bridgeOver ["eth1"] {})).links "eth0" = none) ∧
    (Unnoticed (bridgeOver ["eth0"] { method := .dhcp })
        (bridgeOver ["eth0"] { method := .static, addresses := ["10.0.0.2/24"] }) "br0" ∧
      addressesOf (toLayered (bridgeOver ["eth0"] { method := .dhcp })) "br0" ≠
        addressesOf (toLayered (bridgeOver ["eth0"] { method := .static, addresses := ["10.0.0.2/24"] })) "br0") ∧
    (Unnoticed (tagged [{ parent := "eth0", vlanId := 5 }]) (tagged []) "eth0.5" ∧
      linkByName (toLayered (tagged [{ parent := "eth0", vlanId := 5 }])).links "eth0.5" ≠ none ∧
      linkByName (toLayered (tagged [])).links "eth0.5" = none) := by
  decide

end NastyEngine.Network
