import NastyEngine.Firewall.Service

/-!
Which packets a rule accepts, as the rendered ruleset says it to `nft`, and how the expansion of restrictions and the
edits of the rule list show in that.
-/

namespace NastyEngine.Firewall
open Rust List

structure Packet where
  transport : Transport
  port : UInt16
  source : IpAddr
  iface : String

def addrBits : IpAddr → Nat × Nat
  | .v4 a => (a.octets.foldl (fun n o => n * 256 + o) 0, 32)
  | .v6 a => (a.segments.foldl (fun n s => n * 65536 + s) 0, 128)

/-- `ip saddr` and `ip6 saddr`: same family, same leading bits. -/
def cidrContains (cidr : String) (addr : IpAddr) : Bool :=
  let (base, length) := match splitOnce '/' cidr.toList with
    | some (a, p) => (a, fromStrRadix 10 256 p)
    | none => (cidr.toList, none)
  match parseIpAddr base with
  | none => false
  | some net =>
    let (value, width) := addrBits addr
    let (netValue, netWidth) := addrBits net
    let rest := width - length.getD width
    width = netWidth ∧ value / 2 ^ rest = netValue / 2 ^ rest

/-! ### The input chain -/

/-- The matches of the accept lines. -/
inductive Match where
  | iifname (name : String)
  | saddr (family : String) (src : String)
  | dport (transport : Transport) (port : UInt16) (toPort : Option UInt16)

def Match.text : Match → String
  | .iifname name => "iifname \"" ++ name ++ "\""
  | .saddr family src => family ++ " saddr " ++ src
  | .dport transport port toPort => transport.str ++ " dport " ++ match toPort with
    | some toPort => toString port ++ "-" ++ toString toPort
    | none => toString port

/-- As `nft` has it: the name of the interface the packet came in on, a source of that family in the prefix, the
transport and a port or a range of ports. -/
def Match.Holds (packet : Packet) : Match → Prop
  | .iifname name => name = packet.iface
  | .saddr family src => (family = match packet.source with
      | .v4 _ => "ip"
      | .v6 _ => "ip6") ∧ cidrContains src packet.source = true
  | .dport transport port toPort =>
    transport = packet.transport ∧ port ≤ packet.port ∧ packet.port ≤ toPort.getD port

/-- A line of the input chain: a packet for which all matches hold is accepted. -/
structure InputRule where
  conditions : List Match
  comment : String

def InputRule.text (rule : InputRule) : String := acceptLine (rule.conditions.map Match.text) rule.comment

def InputRule.Accepts (rule : InputRule) (packet : Packet) : Prop := ∀ m ∈ rule.conditions, m.Holds packet

def sourceMatch (src : String) : Match :=
  match parseIpAddr (((splitOnce '/' src.toList).map Prod.fst).getD src.toList) with
  | some (.v6 _) => .saddr "ip6" src
  | _ => .saddr "ip" src

def originMatches (iface source : Option String) : List Match := iface.toList.map .iifname ++ source.toList.map sourceMatch

def PortSpec.inputRule (service : String) (p : PortSpec) : InputRule :=
  ⟨originMatches p.iface p.source ++ [.dport p.transport p.port p.toPort], service⟩

def CustomRule.inputRule (r : CustomRule) : InputRule :=
  ⟨originMatches r.iface r.source ++ [.dport r.transport r.fromPort (if r.fromPort = r.toPort then none else some r.toPort)],
    "custom:" ++ r.id⟩

def inputRules (state : FirewallState) (custom : List CustomRule) : List InputRule :=
  ((state.filter (·.active)).flatMap fun rule => rule.ports.map (·.inputRule rule.service)) ++
    (custom.filter (·.enabled)).map CustomRule.inputRule

/-- The chain accepts the packet on a line of the service. -/
def AcceptedFor (chain : List InputRule) (service : String) (packet : Packet) : Prop :=
  ∃ rule ∈ chain, rule.comment = service ∧ rule.Accepts packet

instance (packet : Packet) (m : Match) : Decidable (m.Holds packet) := by
  cases m <;> unfold Match.Holds <;> infer_instance

instance (chain : List InputRule) (service : String) (packet : Packet) : Decidable (AcceptedFor chain service packet) := by
  unfold AcceptedFor InputRule.Accepts
  infer_instance

/-- What stands before and behind the accept lines of services and custom rules. -/
def inputHead : List String :=
  [ "table inet nasty \x7b\n", "    chain input \x7b\n",
    "        type filter hook input priority 0; policy drop;\n",
    "        ct state established,related accept\n",
    "        ct state invalid drop\n",
    "        iif lo accept\n",
    "        # ICMP/ICMPv6 — always allow\n",
    "        ip protocol icmp accept\n",
    "        ip6 nexthdr icmpv6 accept\n",
    "        # DHCPv6 client\n",
    "        udp dport 546 accept\n"]

theorem sourceMatch_text (src : String) : (sourceMatch src).text = saddrClause src := by
  unfold sourceMatch saddrClause
  dsimp only
  cases parseIpAddr (((splitOnce '/' src.toList).map Prod.fst).getD src.toList) with
  | none => rfl
  | some addr => cases addr <;> rfl

theorem originMatches_text (iface source : Option String) :
    (originMatches iface source).map Match.text = originClauses iface source := by
  unfold originMatches originClauses
  simp only [map_append, map_map, Function.comp_def, sourceMatch_text]
  rfl

theorem renderPort_eq (service : String) (p : PortSpec) : renderPort service p = (p.inputRule service).text := by
  unfold renderPort InputRule.text PortSpec.inputRule
  rw [map_append, originMatches_text]
  cases p.toPort <;> rfl

theorem renderCustomInput_eq (r : CustomRule) : renderCustomInput r = r.inputRule.text := by
  unfold renderCustomInput InputRule.text CustomRule.inputRule CustomRule.portText
  rw [map_append, originMatches_text]
  split <;> rfl

/-- The text given to `nft` has the lines of `inputRules` in the input chain, behind the fixed ones, and no others. -/
theorem renderRuleset_eq (state : FirewallState) (custom : List CustomRule) (published : List PublishedAppPort) :
    ∃ behind, renderRulesetWithPublished state custom published =
      String.join (inputHead ++ (inputRules state custom).map InputRule.text ++ "    \x7d\n" :: behind) := by
  refine ⟨"    chain forward \x7b\n" :: "        type filter hook forward priority -10; policy accept;\n" ::
    "        # Explicitly allowed Docker-published host ports\n" :: (published.map renderPublished ++
    (custom.filter (·.enabled)).map renderCustomForward ++
    ["        ct direction original ct status dnat drop\n", "    \x7d\n", "\x7d\n"]), congrArg String.join ?_⟩
  simp only [inputRules, map_append, map_flatMap, map_map, Function.comp_def, ← renderPort_eq, ← renderCustomInput_eq,
    append_assoc, cons_append, nil_append]
  rfl

def PortSpec.Covers (p : PortSpec) (packet : Packet) : Prop :=
  p.transport = packet.transport ∧ p.port ≤ packet.port ∧ packet.port ≤ p.last

def PortSpec.Accepts (p : PortSpec) (packet : Packet) : Prop :=
  p.Covers packet ∧ p.source.all (cidrContains · packet.source) = true ∧ p.iface.all (· = packet.iface) = true

instance (p : PortSpec) (packet : Packet) : Decidable (p.Covers packet) := by
  unfold PortSpec.Covers
  infer_instance

def FirewallState.Accepts (state : FirewallState) (service : String) (packet : Packet) : Prop :=
  ∃ rule ∈ state, rule.service = service ∧ rule.active = true ∧ ∃ p ∈ rule.ports, p.Accepts packet

theorem width_of_cidrContains {src : String} {addr : IpAddr} (inside : cidrContains src addr = true) :
    ∃ net, parseIpAddr (((splitOnce '/' src.toList).map Prod.fst).getD src.toList) = some net ∧
      (addrBits addr).2 = (addrBits net).2 := by
  unfold cidrContains at inside
  cases split : splitOnce '/' src.toList with
  | none | some parts =>
    simp only [split] at inside
    split at inside
    · cases inside
    next net parsed => exact ⟨net, parsed, (of_decide_eq_true inside).1⟩

/-- An address in the prefix is of the family the line names. -/
theorem sourceMatch_holds {src : String} {packet : Packet} :
    (sourceMatch src).Holds packet ↔ cidrContains src packet.source = true := by
  constructor
  · unfold sourceMatch
    split <;> exact And.right
  · intro inside
    obtain ⟨net, parsed, width⟩ := width_of_cidrContains inside
    obtain ⟨transport, port, source, iface⟩ := packet
    unfold sourceMatch
    rw [parsed]
    cases net <;> cases source <;> first | exact ⟨rfl, inside⟩ | cases width

theorem PortSpec.inputRule_accepts {p : PortSpec} {packet : Packet} {service : String} :
    (p.inputRule service).Accepts packet ↔ p.Accepts packet := by
  have origin : (∀ m ∈ originMatches p.iface p.source, m.Holds packet) ↔
      p.source.all (cidrContains · packet.source) = true ∧ p.iface.all (· = packet.iface) = true := by
    have named : ∀ name, (Match.iifname name).Holds packet ↔ name = packet.iface := fun _ => Iff.rfl
    unfold originMatches
    cases p.source <;> cases p.iface <;> simp [sourceMatch_holds, named, and_comm]
  unfold InputRule.Accepts PortSpec.inputRule
  rw [forall_mem_append, origin, forall_mem_singleton]
  exact and_comm

/-- The lines of a service accept what its rules do, whatever the custom rules are. -/
theorem acceptedFor_iff {state : FirewallState} {custom : List CustomRule} {service : String} {packet : Packet}
    (named : ∀ id : String, "custom:" ++ id ≠ service) :
    AcceptedFor (inputRules state custom) service packet ↔ state.Accepts service packet := by
  unfold AcceptedFor FirewallState.Accepts inputRules
  constructor
  · rintro ⟨line, mem, comment, accepts⟩
    rcases mem_append.1 mem with mem | mem
    · obtain ⟨rule, mem, line⟩ := mem_flatMap.1 mem
      obtain ⟨listed, active⟩ := mem_filter.1 mem
      obtain ⟨p, given, rfl⟩ := mem_map.1 line
      exact ⟨rule, listed, comment, active, p, given, PortSpec.inputRule_accepts.1 accepts⟩
    · obtain ⟨r, -, rfl⟩ := mem_map.1 mem
      exact absurd comment (named r.id)
  · rintro ⟨rule, listed, name, active, p, given, accepts⟩
    refine ⟨p.inputRule rule.service, mem_append_left _ (mem_flatMap.2 ⟨rule, mem_filter.2 ⟨listed, active⟩, ?_⟩), name, ?_⟩
    · exact mem_map_of_mem given
    · exact PortSpec.inputRule_accepts.2 accepts

def PortSpec.Bare (p : PortSpec) : Prop := p.source = none ∧ p.iface = none

instance (p : PortSpec) : Decidable p.Bare := by
  unfold PortSpec.Bare
  infer_instance

def PortSpec.strip (p : PortSpec) : PortSpec := { p with source := none, iface := none }

/-- An empty list stands for any. -/
def allowed (values : List String) : List (Option String) := if values = [] then [none] else values.map some

theorem PortSpec.Bare.strip {p : PortSpec} (bare : p.Bare) : p.strip = p := by
  obtain ⟨port, toPort, transport, source, iface⟩ := p
  obtain ⟨rfl, rfl⟩ := bare
  rfl

variable {ports : List PortSpec} {service : String} {state : FirewallState}

theorem mem_applyRestrictions (bare : ∀ p ∈ ports, p.Bare) {sources ifaces : List String} (q : PortSpec) :
    q ∈ applyRestrictions ports sources ifaces ↔
      ∃ p ∈ ports, ∃ s ∈ allowed sources, ∃ i ∈ allowed ifaces, q = { p with source := s, iface := i } := by
  unfold applyRestrictions allowed
  by_cases noSources : sources = [] <;> by_cases noIfaces : ifaces = []
  · simp only [noSources, noIfaces, and_self, if_true, mem_singleton, exists_eq_left]
    constructor
    · intro mem
      exact ⟨q, mem, (bare q mem).strip.symm⟩
    · rintro ⟨p, mem, rfl⟩
      exact (bare p mem).strip.symm ▸ mem
  · simp [noSources, noIfaces, eq_comm]
  · simp [noSources, noIfaces, eq_comm]
  · simp [noSources, noIfaces, eq_comm]

theorem allowed_nonempty {values : List String} : ∃ v, v ∈ allowed values := by
  unfold allowed
  split
  · exact ⟨none, by simp⟩
  next some_ =>
    obtain ⟨v, hv⟩ := exists_mem_of_ne_nil values some_
    exact ⟨some v, mem_map_of_mem hv⟩

theorem exists_allowed {values : List String} {P : String → Prop} :
    (∃ v ∈ allowed values, ∀ x, v = some x → P x) ↔ values = [] ∨ ∃ x ∈ values, P x := by
  unfold allowed
  by_cases empty : values = []
  · simp [empty]
  · simp [empty]

/-- The expanded ports accept what the base ports cover, from an allowed source and interface. -/
theorem accepts_applyRestrictions (bare : ∀ p ∈ ports, p.Bare) (sources ifaces : List String) (packet : Packet) :
    (∃ q ∈ applyRestrictions ports sources ifaces, q.Accepts packet) ↔ (∃ p ∈ ports, p.Covers packet) ∧
        (sources = [] ∨ ∃ s ∈ sources, cidrContains s packet.source = true) ∧
        (ifaces = [] ∨ packet.iface ∈ ifaces) := by
  have source := @exists_allowed sources (cidrContains · packet.source = true)
  have iface := @exists_allowed ifaces (· = packet.iface)
  have present : (∃ x ∈ ifaces, x = packet.iface) ↔ packet.iface ∈ ifaces := by simp
  rw [← source, ← present, ← iface]
  simp only [mem_applyRestrictions bare]
  constructor
  · rintro ⟨_, ⟨p, hp, s, hs, i, hi, rfl⟩, covers, fromSource, onIface⟩
    refine ⟨⟨p, hp, covers⟩, ⟨s, hs, ?_⟩, ⟨i, hi, ?_⟩⟩
    · rintro x rfl
      exact fromSource
    · rintro x rfl
      simpa using onIface
  · rintro ⟨⟨p, hp, covers⟩, ⟨s, hs, fromSource⟩, ⟨i, hi, onIface⟩⟩
    refine ⟨_, ⟨p, hp, s, hs, i, hi, rfl⟩, covers, ?_, ?_⟩
    · cases s with
      | none => rfl
      | some x => exact fromSource x rfl
    · cases i with
      | none => rfl
      | some x => simpa using onIface x rfl

theorem mem_basePorts {q : PortSpec} : q ∈ basePorts ports ↔ ∃ p ∈ ports, p.strip = q := by
  have loop : ∀ (ports base : List PortSpec),
      q ∈ ports.foldl (fun base p => if p.strip ∈ base then base else base ++ [p.strip]) base ↔
        q ∈ base ∨ ∃ p ∈ ports, p.strip = q := by
    intro ports
    induction ports with
    | nil => simp
    | cons p rest ih =>
      intro base
      rw [foldl_cons, ih]
      split
      next seen =>
        simp only [mem_cons, exists_eq_or_imp]
        constructor
        · rintro (old | new)
          · exact .inl old
          · exact .inr (.inr new)
        · rintro (old | rfl | new)
          · exact .inl old
          · exact .inl seen
          · exact .inr new
      · rw [mem_append, mem_singleton, eq_comm, exists_mem_cons_iff, or_assoc]
  exact (loop ports []).trans (by simp)

theorem basePorts_applyRestrictions {base : List PortSpec} (bare : ∀ p ∈ base, p.Bare) {sources ifaces : List String}
    (expanded : ∀ q, q ∈ ports ↔ q ∈ applyRestrictions base sources ifaces) (p : PortSpec) :
    p ∈ basePorts ports ↔ p ∈ base := by
  rw [mem_basePorts]
  constructor
  · rintro ⟨q, hq, rfl⟩
    obtain ⟨p, hp, s, hs, i, hi, rfl⟩ := (mem_applyRestrictions bare q).mp ((expanded q).mp hq)
    exact (bare p hp).strip.symm ▸ hp
  · intro hp
    obtain ⟨s, hs⟩ := allowed_nonempty
    obtain ⟨i, hi⟩ := allowed_nonempty
    refine ⟨{ p with source := s, iface := i }, ?_, (bare p hp).strip⟩
    exact (expanded _).mpr ((mem_applyRestrictions bare _).mpr ⟨p, hp, s, hs, i, hi, rfl⟩)

variable {rule : FirewallRule}

theorem rule_mem (eq : state.rule service = some rule) : rule ∈ state ∧ rule.service = service :=
  ⟨mem_of_find?_eq_some eq, by simpa using find?_some eq⟩

theorem rule_eq_none : state.rule service = none ↔ ∀ rule ∈ state, rule.service ≠ service := by
  simp [FirewallState.rule]

theorem rule_of_mem (distinct : (state.map (·.service)).Nodup) (mem : rule ∈ state) : state.rule rule.service = some rule := by
  cases hit : state.rule rule.service with
  | none => exact absurd rfl (rule_eq_none.mp hit rule mem)
  | some other =>
    obtain ⟨hm, eq⟩ := rule_mem hit
    rw [inj_on_of_nodup_map distinct hm mem eq]

theorem accepts_iff_rule (distinct : (state.map (·.service)).Nodup) {packet : Packet} :
    state.Accepts service packet ↔ ∃ rule, state.rule service = some rule ∧ rule.active = true ∧
      ∃ p ∈ rule.ports, p.Accepts packet := by
  constructor
  · rintro ⟨rule, mem, rfl, active, accepts⟩
    exact ⟨rule, rule_of_mem distinct mem, active, accepts⟩
  · rintro ⟨rule, eq, active, accepts⟩
    exact ⟨rule, (rule_mem eq).1, (rule_mem eq).2, active, accepts⟩

section updateRule
variable {f : FirewallRule → FirewallRule} (keeps : ∀ rule, (f rule).service = rule.service)
include keeps

theorem services_updateRule (state : FirewallState) (service : String) :
    (state.updateRule service f).map (·.service) = state.map (·.service) := by
  induction state with
  | nil => rfl
  | cons rule rest ih =>
    unfold FirewallState.updateRule
    split
    · simp [keeps]
    · simp [ih]

theorem rule_updateRule (state : FirewallState) (service other : String) : (state.updateRule service f).rule other =
      if other = service then (state.rule service).map f else state.rule other := by
  induction state with
  | nil => simp [FirewallState.updateRule, FirewallState.rule]
  | cons rule rest ih =>
    unfold FirewallState.updateRule
    unfold FirewallState.rule at ih ⊢
    by_cases own : rule.service = service
    · by_cases same : other = service
      · simp [own, same, keeps]
      · simp [own, keeps, same, Ne.symm same]
    · by_cases same : other = service
      · subst same
        simpa [own] using ih
      · by_cases here : rule.service = other
        · simp [here, same]
        · simpa [own, here, same] using ih

end updateRule

theorem rule_append (state : FirewallState) (rule : FirewallRule) (service : String) :
    FirewallState.rule (state ++ [rule]) service =
      (state.rule service).or (if rule.service = service then some rule else none) := by
  simp [FirewallState.rule, find?_append]

end NastyEngine.Firewall
