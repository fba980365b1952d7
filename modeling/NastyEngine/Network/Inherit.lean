import NastyEngine.Lib.Result
import NastyEngine.Network.Lifecycle

/-!
What `update` persists of the blocks that ask to inherit. A bridge is to take over the block of its first member that
has one: as configured, or, for a member the config does not know, as the kernel has it.
-/

namespace NastyEngine.Network
open Lib Fallible

def InterfaceConfig.ip (iface : InterfaceConfig) (v6 : Bool) : IpConfig := if v6 then iface.ipv6 else iface.ipv4

def BridgeConfig.ip (bridge : BridgeConfig) (v6 : Bool) : IpConfig := if v6 then bridge.ipv6 else bridge.ipv4

abbrev Block := String × Bool × IpConfig

def blocksOf (link : String) (ipv4 ipv6 : IpConfig) : List Block := [(link, false, ipv4), (link, true, ipv6)]

def NetworkConfig.plainBlocks (config : NetworkConfig) : List Block :=
  config.interfaces.flatMap (fun i => blocksOf i.name i.ipv4 i.ipv6) ++
    config.bonds.flatMap (fun b => blocksOf b.name b.ipv4 b.ipv6) ++
    config.vlans.flatMap (fun v => blocksOf v.name v.ipv4 v.ipv6) ++ config.macvlans.map fun m => (m.name, false, m.ipv4)

def NetworkConfig.bridgeBlocks (config : NetworkConfig) : List Block :=
  config.bridges.flatMap fun b => blocksOf b.name b.ipv4 b.ipv6

/-- By which method each link came by its addresses. The engine learns of it from the protocol of the IPv4 routes only. -/
abbrev Origins := String → Bool → IpMethod

def IpConfig.Carries (ip : IpConfig) (v6 : Bool) : Prop :=
  ip.method = .dhcp ∨ ip.method = .static ∧ ip.addresses ≠ [] ∨ ip.method = .slaac ∧ v6 = true

instance (ip : IpConfig) (v6 : Bool) : Decidable (ip.Carries v6) := by
  unfold IpConfig.Carries
  infer_instance

section
variable (prev : NetworkConfig) (live : LiveTopology) (origins : Origins) (v6 : Bool)

def lent (member : String) : Option IpConfig :=
  ((prev.interfaces.find? (·.name = member)).bind fun iface => inheritFromConfig (iface.ip v6) v6).or
    (inheritFromLive live member v6)

def configured (member : String) : Option IpConfig :=
  ((prev.interfaces.find? (·.name = member)).map (·.ip v6)).filter (·.Carries v6)

/-- A static link has its addresses and its gateway; those of a lease or an advertisement are not its own. -/
def inKernel (member : String) : IpConfig :=
  if origins member v6 = .static then
    { method := .static, addresses := live.addrs member v6, gateway := live.defaultVia member v6 }
  else { method := origins member v6 }

def had (member : String) : IpConfig := (configured prev v6 member).getD (inKernel live origins v6 member)

def Lends (member : String) : Prop :=
  (configured prev v6 member).isSome ∨ v6 = false ∧ live.dhcpManagedV4 member ∨ live.addrs member v6 ≠ []

instance : DecidablePred (Lends prev live v6) := fun member => by
  unfold Lends
  infer_instance

def BridgeConfig.carrier (bridge : BridgeConfig) : Option String := bridge.members.find? (Lends prev live v6 ·)

/-- The member's block can be read: no addresses are left in a configured block that leases its own, and the addresses
of a member the config does not know are leased if a route says so and static if not. -/
def Readable (member : String) : Prop :=
  match configured prev v6 member with
  | some ip => ip.method ≠ .static → ip.addresses = [] ∧ ip.gateway = none
  | none => origins member v6 = if v6 = false ∧ live.dhcpManagedV4 member then .dhcp else .static

def BridgeConfig.Vacant (bridge : BridgeConfig) : Prop :=
  isEmptyIp (bridge.ip v6) = true ∨ (bridge.ip v6).method = .inherit ∧ bridge.carrier prev live v6 = none

end

variable {request prev config : NetworkConfig} {live : LiveTopology} {origins : Origins} {v6 : Bool} {member : String}
  {bridge : BridgeConfig}

theorem inheritFromConfig_isSome {ip : IpConfig} : (inheritFromConfig ip v6).isSome ↔ ip.Carries v6 := by
  rcases ip with ⟨method, addresses, gateway⟩
  cases method <;> cases v6 <;> simp [inheritFromConfig, IpConfig.Carries]

theorem lent_of_configured {ip : IpConfig} (eq : configured prev v6 member = some ip) :
    lent prev live v6 member = inheritFromConfig ip v6 ∧ ip.Carries v6 := by
  obtain ⟨found, carries⟩ := Option.filter_eq_some_iff.mp eq
  obtain ⟨iface, entry, rfl⟩ := Option.map_eq_some_iff.mp found
  have carries : (iface.ip v6).Carries v6 := of_decide_eq_true carries
  obtain ⟨given, eq⟩ := Option.isSome_iff_exists.mp (inheritFromConfig_isSome.mpr carries)
  simp [lent, entry, eq, carries]

theorem lent_of_unconfigured (eq : configured prev v6 member = none) :
    lent prev live v6 member = inheritFromLive live member v6 := by
  unfold lent
  cases entry : prev.interfaces.find? (·.name = member) with
  | none => rfl
  | some iface =>
    have idle : ¬ (iface.ip v6).Carries v6 := by simpa [configured, entry] using eq
    rw [← inheritFromConfig_isSome, Option.not_isSome_iff_eq_none] at idle
    simp [idle]

theorem lent_isSome : (lent prev live v6 member).isSome ↔ Lends prev live v6 member := by
  cases eq : configured prev v6 member with
  | some ip =>
    obtain ⟨same, carries⟩ := @lent_of_configured _ live _ _ _ eq
    simp [Lends, eq, same, inheritFromConfig_isSome, carries]
  | none =>
    rw [lent_of_unconfigured eq]
    cases v6 <;> grind [inheritFromLive, Lends]

theorem lent_concrete {ip : IpConfig} (eq : lent prev live v6 member = some ip) :
    ip.method ≠ .inherit ∧ ip.method ≠ .disabled := by
  rcases Option.or_eq_some_iff.mp eq with configured | ⟨-, kernel⟩
  · obtain ⟨iface, -, configured⟩ := Option.bind_eq_some_iff.mp configured
    grind [inheritFromConfig]
  · grind [inheritFromLive]

theorem lent_eq_had (lends : Lends prev live v6 member) :
    lent prev live v6 member = some (had prev live origins v6 member) ↔ Readable prev live origins v6 member := by
  unfold Readable had
  cases eq : configured prev v6 member with
  | some ip =>
    obtain ⟨same, carries⟩ := @lent_of_configured _ live _ _ _ eq
    rcases ip with ⟨method, addresses, gateway⟩
    rw [same]
    cases method <;> grind [inheritFromConfig, IpConfig.Carries]
  | none =>
    have addressed : (v6 = false ∧ live.dhcpManagedV4 member) ∨ live.addrs member v6 ≠ [] := by
      simpa [Lends, eq] using lends
    rw [lent_of_unconfigured eq]
    unfold inheritFromLive inKernel
    cases v6 <;> grind

theorem findSome?_eq {α β : Type} (f : α → Option β) (l : List α) :
    l.findSome? f = (l.find? fun a => (f a).isSome).bind f := by
  induction l with
  | nil => rfl
  | cons a rest ih => cases eq : f a <;> simp [eq, ih]

theorem resolve_ip : (bridge.resolve prev live).ip v6 = if (bridge.ip v6).method = .inherit then
    ((bridge.carrier prev live v6).bind (lent prev live v6)).getD {} else bridge.ip v6 := by
  have carried : bridge.carrier prev live v6 = bridge.members.find? fun member => (lent prev live v6 member).isSome := by
    simp only [BridgeConfig.carrier, ← lent_isSome, Bool.decide_eq_true]
  rw [carried, ← findSome?_eq]
  change _ = if _ then resolveInheritOne bridge.members prev live v6 else _
  cases v6 <;> by_cases four : bridge.ipv4.method = .inherit <;> by_cases six : bridge.ipv6.method = .inherit <;>
    simp [BridgeConfig.resolve, BridgeConfig.ip, four, six]

theorem resolve_concrete : ((bridge.resolve prev live).ip v6).method ≠ .inherit := by
  rw [resolve_ip]
  split
  · cases carried : (bridge.carrier prev live v6).bind (lent prev live v6) with
    | none => simp
    | some ip =>
      obtain ⟨member, -, eq⟩ := Option.bind_eq_some_iff.mp carried
      exact (lent_concrete eq).1
  · assumption

theorem carrier_lends (carried : bridge.carrier prev live v6 = some member) : Lends prev live v6 member := by
  have lends := List.find?_some carried
  exact of_decide_eq_true lends

theorem resolve_vacant : isEmptyIp ((bridge.resolve prev live).ip v6) = true ↔ bridge.Vacant prev live v6 := by
  rw [resolve_ip, BridgeConfig.Vacant]
  split
  next asked =>
    cases carried : bridge.carrier prev live v6 with
    | none => simp [asked, isEmptyIp]
    | some member =>
      obtain ⟨ip, eq⟩ := Option.isSome_iff_exists.mp (lent_isSome.mpr (carrier_lends carried))
      simp [asked, isEmptyIp, eq, (lent_concrete eq).2]
  next own =>
    simp [own]

section
variable (request prev : NetworkConfig) (live : LiveTopology) (origins : Origins)

/-- No block asks to inherit any more. A bridge that did has the block of its member, which has none. -/
structure Resolved (config : NetworkConfig) : Prop where
  concrete : ∀ block ∈ config.plainBlocks ++ config.bridgeBlocks, block.2.2.method ≠ .inherit
  moved : List.Forall₂ (fun asking given => ∀ v6 member, (asking.ip v6).method = .inherit →
    asking.carrier prev live v6 = some member → given.ip v6 = had prev live origins v6 member ∧
      ∀ ip, (member, v6, ip) ∈ config.plainBlocks ++ config.bridgeBlocks → isEmptyIp ip = true)
    request.bridges config.bridges

/-- Only bridges ask to inherit, from members that can be read and at which the request leaves nothing. -/
structure Inheritable (liveNames : List String) : Prop where
  concrete : ∀ block ∈ (supersedeAbsentPhysicalEntries request liveNames).plainBlocks, block.2.2.method ≠ .inherit
  moved : ∀ bridge ∈ request.bridges, ∀ v6 member, (bridge.ip v6).method = .inherit →
    bridge.carrier prev live v6 = some member → Readable prev live origins v6 member ∧
      (∀ ip, (member, v6, ip) ∈ (supersedeAbsentPhysicalEntries request liveNames).plainBlocks → isEmptyIp ip = true) ∧
      ∀ other ∈ request.bridges, other.name = member → other.Vacant prev live v6

end

theorem resolve_name : (bridge.resolve prev live).name = bridge.name := by
  unfold BridgeConfig.resolve
  grind

section
variable (resolved : config.bridges = request.bridges.map (·.resolve prev live))
include resolved

theorem mem_bridgeBlocks {block : Block} : block ∈ config.bridgeBlocks ↔
      ∃ bridge ∈ request.bridges, block = (bridge.name, block.2.1, (bridge.resolve prev live).ip block.2.1) := by
  obtain ⟨link, v6, ip⟩ := block
  cases v6 <;> simp [NetworkConfig.bridgeBlocks, resolved, blocksOf, BridgeConfig.ip, resolve_name]

theorem moved_iff {blocks : List Block}
    (asked : (bridge.ip v6).method = .inherit) (carried : bridge.carrier prev live v6 = some member) :
    ((bridge.resolve prev live).ip v6 = had prev live origins v6 member ∧
      ∀ ip, (member, v6, ip) ∈ blocks ++ config.bridgeBlocks → isEmptyIp ip = true) ↔
    Readable prev live origins v6 member ∧ (∀ ip, (member, v6, ip) ∈ blocks → isEmptyIp ip = true) ∧
      ∀ other ∈ request.bridges, other.name = member → other.Vacant prev live v6 := by
  have lends := carrier_lends carried
  obtain ⟨ip, eq⟩ := Option.isSome_iff_exists.mp (lent_isSome.mpr lends)
  have taken : some ((bridge.resolve prev live).ip v6) = lent prev live v6 member := by
    simp [resolve_ip, asked, carried, eq]
  rw [← Option.some.injEq, taken, lent_eq_had lends]
  simp only [List.mem_append, mem_bridgeBlocks resolved, or_imp, forall_and, ← resolve_vacant]
  grind

end

theorem resolved_iff {mgmtIface : Option String} {liveIfaces : List LiveInterface}
    (admitted : admission request prev mgmtIface live liveIfaces = .ok config) :
    Resolved request prev live origins config ↔ Inheritable request prev live origins (liveIfaces.map (·.name)) := by
  obtain ⟨_, -, admitted⟩ := bind_ok admitted
  obtain ⟨_, -, admitted⟩ := bind_ok admitted
  obtain ⟨_, -, admitted⟩ := bind_ok admitted
  have bridges : config.bridges = request.bridges.map (·.resolve prev live) := by
    rw [← Except.ok.inj admitted]
    rfl
  have plain : config.plainBlocks = (supersedeAbsentPhysicalEntries request (liveIfaces.map (·.name))).plainBlocks := by
    rw [← Except.ok.inj admitted]
    simp [supersedeAbsentPhysicalEntries, resolveInherit, NetworkConfig.plainBlocks, Function.comp_def, resolve_name]
  constructor
  · rintro ⟨concrete, moved⟩
    rw [bridges, List.forall₂_map_right_iff, List.forall₂_same, plain] at moved
    refine ⟨fun block there => concrete block (List.mem_append_left _ (plain ▸ there)), ?_⟩
    exact fun bridge hb v6 member asked carried =>
      (moved_iff bridges asked carried).mp (moved bridge hb v6 member asked carried)
  · rintro ⟨concrete, moved⟩
    refine ⟨fun block there => ?_, ?_⟩
    · rcases List.mem_append.mp there with there | there
      · exact concrete block (plain ▸ there)
      · obtain ⟨bridge, -, same⟩ := (mem_bridgeBlocks bridges).mp there
        rw [same]
        exact resolve_concrete
    · rw [bridges, List.forall₂_map_right_iff, List.forall₂_same, plain]
      exact fun bridge hb v6 member asked carried =>
        (moved_iff bridges asked carried).mpr (moved bridge hb v6 member asked carried)

/-! What an accepted update has persisted, whichever best-effort step failed on the way. -/

def World.Holds (contents : Contents) (w : World) : Prop := w.files .networking = some contents

section
variable {w t : World} {contents : Contents}

theorem fileOp_ok {effect : World → World} (ran : run (fileOp effect) w = (.ok (), t)) :
    ∃ rest, t = effect { w with faults := rest } := by
  simp only [fileOp, run_mk, Proc.run_act] at ran
  split at ran
  · cases ran
  next rest _ =>
    exact ⟨rest, (Prod.mk.inj ran).2.symm⟩
  · exact ⟨w.faults, (Prod.mk.inj ran).2.symm⟩

theorem atomicWrite_ok {path : Path} (ran : run (atomicWrite path contents) w = (.ok (), t)) :
    t.files path = some contents := by
  obtain ⟨_, u, -, ran⟩ := ok_of_bind ran
  obtain ⟨_, v, -, ran⟩ := ok_of_bind ran
  obtain ⟨_, x, wrote, ran⟩ := ok_of_bind ran
  obtain ⟨_, y, synced, ran⟩ := ok_of_bind ran
  obtain ⟨_, rfl⟩ := fileOp_ok wrote
  obtain ⟨_, rfl⟩ := fileOp_ok synced
  obtain ⟨_, rfl⟩ := fileOp_ok ran
  have ne : path ≠ .tmp path := fun loop => by
    have := congrArg sizeOf loop
    simp at this
  simp [World.publish, World.put, ne]

variable (inside : w.Holds contents)
include inside

theorem along_fileOp {effect : World → World} (keeps : ∀ v : World, v.Holds contents → (effect v).Holds contents) :
    Along (World.Holds contents) (fileOp effect) w := by
  refine Proc.along_act.mpr ⟨inside, ?_⟩
  split
  · exact inside
  · exact keeps _ inside
  · exact keeps _ inside

theorem along_atomicWrite {path : Path} {other : Contents} (apart : path ≠ .networking) :
    Along (World.Holds contents) (atomicWrite path other) w := by
  have published : ∀ v : World, v.Holds contents → (v.publish path).Holds contents := fun v held => by
    simpa [World.Holds, World.publish, World.put, apart.symm] using held
  have scratch : ∀ (v : World) (c : Option Contents), v.Holds contents → (v.put (.tmp path) c).Holds contents :=
    fun v c held => by simpa [World.Holds, World.put] using held
  refine .seq (along_fileOp inside fun _ => id) fun _ t _ inside => ?_
  refine .seq (along_fileOp inside fun v => scratch v _) fun _ t _ inside => ?_
  refine .seq (along_fileOp inside fun v => scratch v _) fun _ t _ inside => ?_
  exact .seq (along_fileOp inside fun _ => id) fun _ t _ inside => along_fileOp inside published

theorem along_onNm {α : Type} (p : Fallible String Nm α) : Along (World.Holds contents) (onNm p) w := by
  refine .zoom ?_ p inside
  exact fun _ _ held => held

theorem along_syncIbUnmanagedConf (live : List LiveInterface) (config : NetworkConfig) :
    Along (World.Holds contents) (syncIbUnmanagedConf live config) w := by
  refine .seq ?_ fun changed t _ inside => ?_
  · refine along_read_bind inside ?_
    cases renderIbUnmanagedConf (infinibandNames live) (config.interfaces.map (·.name)) with
    | some content =>
      dsimp only
      split
      · exact inside
      · exact .succeeds (along_atomicWrite inside (by decide))
    | none =>
      dsimp only
      split
      · exact inside
      · refine .succeeds (along_fileOp inside fun v held => ?_)
        simpa [World.Holds, World.put] using held
  · split
    · exact .ignoreError (along_onNm inside _)
    · exact inside

theorem along_applyConfig (config : NetworkConfig) (mgmtIface : Option String) :
    Along (World.Holds contents) (applyConfig config mgmtIface) w := by
  refine along_read_bind inside (.seq (.mapError (along_onNm inside _)) fun _ t _ inside => ?_)
  exact .seq (along_syncIbUnmanagedConf inside _ _) fun _ u _ inside => along_onNm inside _

theorem along_applyWithVfSettle (config : NetworkConfig) (mgmtIface : Option String) (liveNames : List String) :
    Along (World.Holds contents) (applyWithVfSettle config mgmtIface liveNames) w := by
  refine .seq (along_applyConfig inside config mgmtIface) fun _ t _ inside => ?_
  dsimp only
  split
  · exact .seq (Proc.along_act.mpr ⟨inside, inside⟩) fun _ u _ inside => along_applyConfig inside config mgmtIface
  · exact inside

end

variable {mgmtIface : Option String} {w t : World} {response : UpdateResponse}

theorem persistConfig_ok (ran : run (persistConfig config) w = (.ok (), t)) : t.Holds (.config config) := by
  obtain ⟨_, -, ran⟩ := ok_of_ofExcept_bind ran
  obtain ⟨_, u, -, ran⟩ := ok_of_bind ran
  obtain ⟨_, v, wrote, ran⟩ := ok_of_bind ran
  have held : v.Holds (.config config) := atomicWrite_ok (ok_of_mapError wrote)
  have copied := @along_atomicWrite v _ held .layered (.layered (toLayered config)) (by decide)
  have kept := along_run (.ignoreError (δ := ServiceError) copied)
  rwa [ran] at kept

theorem applied_holds {u : World} {liveNames : List String} {outcome : NmApplyOutcome}
    (persisted : run (persistConfig config) w = (.ok (), u))
    (applied : run (mapError ServiceError.failed (applyWithVfSettle config mgmtIface liveNames)) u = (.ok outcome, t)) :
    t.Holds (.config config) := by
  have kept := along_run (along_applyWithVfSettle (persistConfig_ok persisted) config mgmtIface liveNames)
  rwa [ok_of_mapError applied] at kept

theorem commit_persists {liveNames : List String} {risk : Option String}
    {window : Option Nat}
    (ran : run (commitUpdate config prev mgmtIface liveNames risk window) w = (.ok response, t)) :
    t.Holds (.config config) := by
  cases window with
  | none =>
    obtain ⟨_, u, persisted, ran⟩ := ok_of_bind ran
    obtain ⟨outcome, v, applied, ran⟩ := ok_of_bind ran
    have held := applied_holds persisted applied
    cases ran
    exact held
  | some secs =>
    obtain ⟨_, u, -, ran⟩ := ok_of_bind ran
    obtain ⟨_, v, persisted, ran⟩ := ok_of_bind ran
    obtain ⟨outcome, x, applied, ran⟩ := ok_of_bind ran
    have held := applied_holds persisted applied
    cases ran
    exact held

theorem update_persists {request : UpdateRequest}
    (ran : run (update request mgmtIface) w = (.ok response, t)) :
    admission request.config w.loadConfig mgmtIface w.topology w.live = .ok t.loadConfig := by
  obtain ⟨_, _, read, ran⟩ := ok_of_bind ran
  cases read
  obtain ⟨_, -, ran⟩ := ok_of_ofExcept_bind ran
  obtain ⟨config, admitted, ran⟩ := ok_of_ofExcept_bind ran
  have loaded : t.loadConfig = config := by
    rw [World.loadConfig, show t.files .networking = _ from commit_persists ran]
    rfl
  rw [loaded]
  cases checked : admission request.config w.loadConfig mgmtIface w.topology w.live with
  | error e => rw [checked] at admitted; cases admitted
  | ok c => rw [checked] at admitted; cases admitted; rfl

/-- Of every accepted update, over what it has persisted: the origins of the live addresses are any. -/
theorem inherit_resolved_iff {w t : World} {request : UpdateRequest} {mgmtIface : Option String}
    {response : UpdateResponse} (accepted : run (update request mgmtIface) w = (.ok response, t)) (origins : Origins) :
    Resolved request.config w.loadConfig w.topology origins t.loadConfig ↔
      Inheritable request.config w.loadConfig w.topology origins (w.live.map (·.name)) :=
  resolved_iff (update_persists accepted)

/-- `br0` over `eth0`, `br1` over `eth1`, of which the config says nothing. -/
def moveEth0 (ipv4 : IpConfig) : NetworkConfig :=
  { interfaces := [{ name := "eth0", ipv4 }]
    bridges := [{ name := "br0", members := ["eth0"] }, { name := "br1", members := ["eth1"] }] }

/-- `eth0` is configured as given, `eth1` has an address in the kernel. -/
def twoMembers (ipv4 : IpConfig) : World :=
  { files := Function.update (fun _ => none) .networking (some (.config { interfaces := [{ name := "eth0", ipv4 }] }))
    topology := { addrsV4 := fun link => if link = "eth1" then ["10.0.0.2/24"] else []
                  defaultViaV4 := fun link => if link = "eth1" then some "10.0.0.1" else none } }

theorem moveEth0_accepted {ipv4 prev : IpConfig}
    (admitted : admission (moveEth0 ipv4) (twoMembers prev).loadConfig none (twoMembers prev).topology [] = .ok config)
    (accepted : validate (toLayered config) = .ok ()) :
    ∃ response t, run (update ⟨moveEth0 ipv4, some 0⟩ none) (twoMembers prev) = (.ok response, t) := by
  obtain ⟨-, response, t, ran, -⟩ := @ensures_update_direct (fun _ => True) (twoMembers prev) ⟨moveEth0 ipv4, some 0⟩ none
    config (by simp [refuseWhenBusy, twoMembers]) admitted accepted ⟨rfl, rfl⟩ rfl trivial trivial
  exact ⟨response, t, ran⟩

theorem inherit_resolved_eth0 : ∃ response t,
    run (update ⟨moveEth0 {}, some 0⟩ none) (twoMembers { method := .dhcp }) = (.ok response, t) ∧
      Resolved (moveEth0 {}) (twoMembers { method := .dhcp }).loadConfig (twoMembers { method := .dhcp }).topology
        (fun _ _ => .static) t.loadConfig := by
  obtain ⟨response, t, ran⟩ := @moveEth0_accepted _ {} { method := .dhcp } rfl (by decide)
  refine ⟨response, t, ran, (inherit_resolved_iff ran _).mpr ⟨by decide, fun bridge hb v6 member _ carried => ?_⟩⟩
  have vacated : ∀ block ∈ (supersedeAbsentPhysicalEntries (moveEth0 {}) []).plainBlocks, isEmptyIp block.2.2 = true := by
    decide
  suffices (member = "eth0" ∨ member = "eth1") ∧ Readable (twoMembers { method := .dhcp }).loadConfig
      (twoMembers { method := .dhcp }).topology (fun _ _ => .static) v6 member by
    refine ⟨this.2, fun ip there => vacated _ there, ?_⟩
    rcases this.1 with rfl | rfl <;> simp [moveEth0]
  cases v6 with
  | true => rcases List.mem_pair.mp hb with rfl | rfl <;> cases carried
  | false =>
    rcases List.mem_pair.mp hb with rfl | rfl
    · obtain rfl : "eth0" = member := Option.some.inj carried
      exact ⟨.inl rfl, fun _ => ⟨rfl, rfl⟩⟩
    · obtain rfl : "eth1" = member := Option.some.inj carried
      exact ⟨.inr rfl, rfl⟩

/-- A block of another link that asks to inherit is stored as it is. -/
theorem inherit_persists : ∃ response t,
    run (update ⟨moveEth0 inheritIp, some 0⟩ none) (twoMembers {}) = (.ok response, t) ∧ ∀ origins,
      ¬Resolved (moveEth0 inheritIp) (twoMembers {}).loadConfig (twoMembers {}).topology origins t.loadConfig := by
  obtain ⟨response, t, ran⟩ := @moveEth0_accepted _ inheritIp {} rfl (by decide)
  refine ⟨response, t, ran, fun origins resolved => ?_⟩
  exact ((resolved_iff (update_persists ran)).mp resolved).concrete ("eth0", false, inheritIp) (by decide) rfl

end NastyEngine.Network
