import NastyEngine.Network.Validator

/-!
`fromLayered (toLayered c)` is `c` with the undeclared bond and bridge members promoted to
interfaces. The addresses of a link are found again because link names are unique.
-/

namespace NastyEngine.Network
open Lib List

section
variable (c : NetworkConfig)

def NetworkConfig.declaredNames : List String :=
  c.interfaces.map (·.name) ++ c.bonds.map (·.name) ++ c.bridges.map (·.name) ++
    c.vlans.map (·.name) ++ c.macvlans.map (·.name)

def NetworkConfig.memberNames : List String :=
  c.bonds.flatMap (·.members) ++ c.bridges.flatMap (·.members)

def NetworkConfig.undeclaredMembers : List String :=
  (c.memberNames.filter (· ∉ c.declaredNames)).eraseDups

def NetworkConfig.withMembers : NetworkConfig :=
  { c with interfaces := c.interfaces ++ c.undeclaredMembers.map fun m => { name := m } }

end

theorem declaredLinks_names (c : NetworkConfig) : (declaredLinks c).map (·.name) = c.declaredNames := by
  simp [declaredLinks, NetworkConfig.declaredNames, Function.comp_def, InterfaceConfig.link,
    BondConfig.link, BridgeConfig.link, VlanConfig.link, MacvlanConfig.link]

theorem declaredLinks_members (c : NetworkConfig) :
    ((declaredLinks c).flatMap fun l => l.kind.members) = c.memberNames := by
  have nothing : ∀ {A : Type} (xs : List A), xs.flatMap (fun _ => ([] : List String)) = [] :=
    fun xs => flatMap_eq_nil_iff.mpr fun _ _ => rfl
  simp [declaredLinks, NetworkConfig.memberNames, flatMap_append, flatMap_map,
    InterfaceConfig.link, BondConfig.link, BridgeConfig.link, VlanConfig.link, MacvlanConfig.link,
    LinkKind.members, nothing]

theorem synthesizeNames_eq (declared seen members : List String) : synthesizeNames declared seen members =
      ((members.filter (· ∉ declared)).filter (· ∉ seen)).eraseDups := by
  induction members generalizing seen with
  | nil => rfl
  | cons m rest ih =>
    unfold synthesizeNames
    by_cases known : m ∈ declared
    · simp [known, ih]
    · by_cases old : m ∈ seen
      · simp [known, old, ih]
      · simp only [known, old, or_self, if_false, ih, filter_cons, decide_not, decide_false,
          Bool.not_false, if_true, eraseDups_cons, filter_filter, List.cons.injEq, true_and]
        congr 1
        apply filter_congr
        intro x _
        by_cases same : x = m <;> simp [same]

theorem synthesizedLinks_eq (c : NetworkConfig) :
    synthesizedLinks (declaredLinks c) = c.undeclaredMembers.map fun m => { name := m } := by
  unfold synthesizedLinks
  rw [declaredLinks_names, declaredLinks_members, synthesizeNames_eq]
  simp [NetworkConfig.undeclaredMembers]

theorem toLayered_names (c : NetworkConfig) :
    (toLayered c).links.map (·.name) = c.declaredNames ++ c.undeclaredMembers := by
  rw [show (toLayered c).links = declaredLinks c ++ synthesizedLinks (declaredLinks c) from rfl,
    map_append, declaredLinks_names, synthesizedLinks_eq, map_map]
  simp [Function.comp_def]

variable {c : NetworkConfig}

theorem mem_undeclaredMembers {m : String} : m ∈ c.undeclaredMembers ↔ m ∈ c.memberNames ∧ m ∉ c.declaredNames := by
  simp [NetworkConfig.undeclaredMembers, mem_eraseDups]

def l3Blocks (c : NetworkConfig) : List (String × IpConfig × IpConfig) :=
  c.interfaces.map (fun i => (i.name, i.ipv4, i.ipv6)) ++
  c.bonds.map (fun b => (b.name, b.ipv4, b.ipv6)) ++
  c.bridges.map (fun b => (b.name, b.ipv4, b.ipv6)) ++
  c.vlans.map (fun v => (v.name, v.ipv4, v.ipv6)) ++
  c.macvlans.map (fun m => (m.name, m.ipv4, ({} : IpConfig)))

def blockAddresses (block : String × IpConfig × IpConfig) : List Address := pushAddresses block.1 block.2.1 block.2.2

theorem l3Blocks_names (c : NetworkConfig) : (l3Blocks c).map Prod.fst = c.declaredNames := by
  simp [l3Blocks, NetworkConfig.declaredNames, Function.comp_def]

theorem declaredAddresses_eq (c : NetworkConfig) : declaredAddresses c = (l3Blocks c).flatMap blockAddresses := by
  simp [declaredAddresses, l3Blocks, blockAddresses, flatMap_append, flatMap_map]

theorem isEmptyIp_eq {ip : IpConfig} (empty : isEmptyIp ip = true) : ip = {} := by
  obtain ⟨method, addresses, gateway⟩ := ip
  simp only [isEmptyIp, Bool.and_eq_true, beq_iff_eq, List.isEmpty_iff, Option.isNone_iff_eq_none] at empty
  obtain ⟨⟨rfl, rfl⟩, rfl⟩ := empty
  rfl

/-- Reading a link's own rows gives back the two blocks; a skipped row stood for a default. -/
theorem pushAddresses_assign (link : String) (v4 v6 : IpConfig) :
    (pushAddresses link v4 v6).foldl assignAddress ({}, {}) = (v4, v6) := by
  unfold pushAddresses
  split <;> split
  next none4 none6 =>
    rw [isEmptyIp_eq none4, isEmptyIp_eq none6]
    rfl
  next none4 _ =>
    rw [isEmptyIp_eq none4]
    rfl
  next _ none6 =>
    rw [isEmptyIp_eq none6]
    rfl
  · rfl

theorem blockAddresses_link (block : String × IpConfig × IpConfig) (a : Address)
    (mem : a ∈ blockAddresses block) : a.link = block.1 := by
  rcases mem_append.mp mem with h | h <;> split at h <;> simp_all

theorem groupAddresses_block (unique : c.declaredNames.Nodup)
    {block : String × IpConfig × IpConfig} (mem : block ∈ l3Blocks c) :
    (groupAddresses (toLayered c).addresses block.1).getD ({}, {}) = block.2 := by
  rw [show (toLayered c).addresses = declaredAddresses c from rfl, declaredAddresses_eq, groupAddresses, grouped_getD,
    filter_flatMap_block blockAddresses_link (by rw [l3Blocks_names]; exact unique) mem]
  exact pushAddresses_assign _ _ _

theorem groupAddresses_undeclared {name : String} (undeclared : name ∉ c.declaredNames) :
    (groupAddresses (toLayered c).addresses name).getD ({}, {}) = ({}, {}) := by
  rw [show (toLayered c).addresses = declaredAddresses c from rfl, declaredAddresses_eq,
    groupAddresses, grouped_getD, filter_flatMap_other]
  · rfl
  · intro block hb a ha
    rw [blockAddresses_link block a ha, decide_eq_false_iff_not]
    rintro rfl
    exact undeclared (l3Blocks_names c ▸ mem_map_of_mem hb)

theorem routesByDev_own (unique : (c.macvlans.map (·.name)).Nodup) {mv : MacvlanConfig} (mem : mv ∈ c.macvlans) :
    (routesByDev (toLayered c).routes mv.name).getD [] = mv.routes := by
  have collected : ∀ (dsts acc : List String), (dsts.map fun dst => ({ dst, dev := mv.name } : Route)).foldl
        (fun entry r => entry ++ [r.dst]) acc = acc ++ dsts := by
    intro dsts
    induction dsts with
    | nil => simp
    | cons d rest ih => intro acc; simp [ih]
  rw [show (toLayered c).routes = c.macvlans.flatMap (·.onLinkRoutes) from rfl, routesByDev,
    grouped_getD, filter_flatMap_block (by intro m r hr; obtain ⟨_, _, rfl⟩ := mem_map.mp hr; rfl) unique mem]
  exact (collected mv.routes []).trans (nil_append _)

theorem filterMap_restores {A B : Type} {f : B → Option A} {g : A → B} {xs : List A}
    (inverse : ∀ x ∈ xs, f (g x) = some x) : (xs.map g).filterMap f = xs := by
  rw [filterMap_map]
  exact (filterMap_congr inverse).trans filterMap_some

theorem filterMap_skips {A B C : Type} {f : B → Option C} {g : A → B} (xs : List A)
    (skips : ∀ x, f (g x) = none) : (xs.map g).filterMap f = [] := by
  rw [filterMap_map, filterMap_eq_nil_iff]
  exact fun x _ => skips x

theorem roundTrip_of_unique (unique : ((toLayered c).links.map (·.name)).Nodup) :
    fromLayered (toLayered c) = c.withMembers := by
  rw [toLayered_names, nodup_append] at unique
  have declared := unique.1
  have ip : ∀ name v4 v6, (name, v4, v6) ∈ l3Blocks c →
      (groupAddresses (toLayered c).addresses name).getD ({}, {}) = (v4, v6) :=
    fun name v4 v6 mem => groupAddresses_block declared mem
  have links : (toLayered c).links = declaredLinks c ++ c.undeclaredMembers.map fun m => { name := m } := by
    rw [← synthesizedLinks_eq]
    rfl
  have macvlanNames : (c.macvlans.map (·.name)).Nodup := declared.sublist (sublist_append_right _ _)
  unfold fromLayered NetworkConfig.withMembers
  simp only [links, declaredLinks, filterMap_append]
  congr 1
  · rw [filterMap_restores, filterMap_skips, filterMap_skips, filterMap_skips, filterMap_skips,
      filterMap_map, ← filterMap_eq_map]
    · simp only [append_nil, append_cancel_left_eq]
      refine filterMap_congr fun m hm => ?_
      simp [Link.toInterface, groupAddresses_undeclared (mem_undeclaredMembers.mp hm).2]
    iterate 4 exact fun x => rfl
    · intro i hi
      simp [InterfaceConfig.link, Link.toInterface, ip i.name i.ipv4 i.ipv6 (by grind [l3Blocks])]
  · rw [filterMap_skips, filterMap_restores, filterMap_skips, filterMap_skips, filterMap_skips, filterMap_skips]
    · simp only [nil_append, append_nil]
    iterate 4 exact fun x => rfl
    · intro b hb
      simp [BondConfig.link, Link.toBond, ip b.name b.ipv4 b.ipv6 (by grind [l3Blocks])]
    · exact fun x => rfl
  · rw [filterMap_skips, filterMap_skips, filterMap_skips, filterMap_restores, filterMap_skips, filterMap_skips]
    · simp only [nil_append, append_nil]
    iterate 2 exact fun x => rfl
    · intro v hv
      simp [VlanConfig.link, Link.toVlan, ip v.name v.ipv4 v.ipv6 (by grind [l3Blocks])]
    iterate 3 exact fun x => rfl
  · rw [filterMap_skips, filterMap_skips, filterMap_restores, filterMap_skips, filterMap_skips, filterMap_skips]
    · simp only [nil_append, append_nil]
    iterate 3 exact fun x => rfl
    · intro b hb
      simp [BridgeConfig.link, Link.toBridge, ip b.name b.ipv4 b.ipv6 (by grind [l3Blocks])]
    iterate 2 exact fun x => rfl
  · rw [filterMap_skips, filterMap_skips, filterMap_skips, filterMap_skips, filterMap_restores, filterMap_skips]
    · simp only [nil_append, append_nil]
    · exact fun x => rfl
    · intro m hm
      simp [MacvlanConfig.link, Link.toMacvlan, ip m.name m.ipv4 {} (by grind [l3Blocks]),
        routesByDev_own macvlanNames hm]
    iterate 4 exact fun x => rfl

theorem withMembers_of_declared (declares : ∀ m ∈ c.memberNames, m ∈ c.declaredNames) : c.withMembers = c := by
  have none : c.undeclaredMembers = [] := eq_nil_iff_forall_not_mem.mpr fun m hm =>
    (mem_undeclaredMembers.mp hm).2 (declares m (mem_undeclaredMembers.mp hm).1)
  simp [NetworkConfig.withMembers, none]

theorem withMembers_names (c : NetworkConfig) :
    c.withMembers.declaredNames.Perm (c.declaredNames ++ c.undeclaredMembers) := by
  simp only [NetworkConfig.declaredNames, NetworkConfig.withMembers, map_append, map_map,
    Function.comp_def, map_id', append_assoc]
  refine List.Perm.append_left _ ?_
  simpa only [append_assoc] using @List.perm_append_comm _ c.undeclaredMembers
    (c.bonds.map (·.name) ++ (c.bridges.map (·.name) ++ (c.vlans.map (·.name) ++ c.macvlans.map (·.name))))

theorem withMembers_declares (c : NetworkConfig) : ∀ m ∈ c.withMembers.memberNames, m ∈ c.withMembers.declaredNames := by
  intro m hm
  rw [(withMembers_names c).mem_iff, mem_append, mem_undeclaredMembers]
  by_cases known : m ∈ c.declaredNames
  · exact .inl known
  · exact .inr ⟨hm, known⟩

theorem toLayered_withMembers_unique (unique : ((toLayered c).links.map (·.name)).Nodup) :
    ((toLayered c.withMembers).links.map (·.name)).Nodup := by
  have none : c.withMembers.undeclaredMembers = [] := eq_nil_iff_forall_not_mem.mpr fun m hm =>
    (mem_undeclaredMembers.mp hm).2 (withMembers_declares c m (mem_undeclaredMembers.mp hm).1)
  rw [toLayered_names] at unique ⊢
  rw [none, append_nil]
  exact (withMembers_names c).nodup_iff.mpr unique

/-- On an accepted config the round trip adds a default interface for each undeclared member, in
order of first occurrence, and nothing else; a config that declares its members comes back
unchanged, and a second round trip adds nothing. -/
theorem roundTrip_accepted (c : NetworkConfig) (accepted : validate (toLayered c) = .ok ()) : fromLayered (toLayered c) =
        { c with interfaces := c.interfaces ++ c.undeclaredMembers.map fun m => { name := m } } ∧
      ((∀ m ∈ c.memberNames, m ∈ c.declaredNames) → fromLayered (toLayered c) = c) ∧
      fromLayered (toLayered (fromLayered (toLayered c))) = fromLayered (toLayered c) := by
  have unique := (validate_wellFormed accepted).names
  have once := roundTrip_of_unique unique
  refine ⟨once, fun declares => once.trans (withMembers_of_declared declares), ?_⟩
  rw [once, roundTrip_of_unique (toLayered_withMembers_unique unique)]
  exact withMembers_of_declared (withMembers_declares c)

def bondedBridge : NetworkConfig :=
  { bonds := [{ name := "bond0", members := ["eth0", "eth1"], mode := .lacp }]
    bridges := [{ name := "br0", members := ["bond0"], ipv4 := { method := .dhcp }, ipv6 := {} }]
    macvlans := [{ name := "shim0", parent := "br0", routes := ["10.1.0.0/24"] }] }

theorem roundTrip_bondedBridge : validate (toLayered bondedBridge) = .ok () ∧
      (fromLayered (toLayered bondedBridge)).interfaces = [{ name := "eth0" }, { name := "eth1" }] := by
  have accepted : validate (toLayered bondedBridge) = .ok () := by decide
  refine ⟨accepted, ?_⟩
  rw [(roundTrip_accepted bondedBridge accepted).1]
  decide

end NastyEngine.Network
