import NastyEngine.Firewall.Policy

/-!
A custom rule may not take a port that a service owns: it would stay open when the service is closed or
restricted.
-/

namespace NastyEngine.Firewall
open Lib Fallible List

/-- The test of `service_port_conflict`. -/
def PortSpec.Meets (p : PortSpec) (r : CustomRule) : Prop :=
  p.transport = r.transport ∧ p.port ≤ r.toPort ∧ r.fromPort ≤ p.last

instance (p : PortSpec) (r : CustomRule) : Decidable (p.Meets r) := by
  unfold PortSpec.Meets
  infer_instance

def CustomRule.Covers (r : CustomRule) (packet : Packet) : Prop :=
  r.transport = packet.transport ∧ r.fromPort ≤ packet.port ∧ packet.port ≤ r.toPort

def CustomRule.Accepts (r : CustomRule) (packet : Packet) : Prop :=
  r.enabled = true ∧ r.Covers packet ∧ r.source.all (cidrContains · packet.source) = true ∧
    r.iface.all (· = packet.iface) = true

instance (r : CustomRule) (packet : Packet) : Decidable (r.Covers packet) := by
  unfold CustomRule.Covers
  infer_instance

instance (r : CustomRule) (packet : Packet) : Decidable (r.Accepts packet) := by
  unfold CustomRule.Accepts
  infer_instance

def FirewallConfig.Admits (c : FirewallConfig) (packet : Packet) : Prop :=
  (∃ service, c.state.Accepts service packet) ∨ ∃ r ∈ c.custom, r.Accepts packet

structure FirewallConfig.Owned (c : FirewallConfig) : Prop where
  apart : ∀ rule ∈ c.state, ∀ p ∈ rule.ports, ∀ r ∈ c.custom, ∀ packet : Packet, p.Covers packet → ¬ r.Covers packet
  admits : ∀ rule ∈ c.state, ∀ p ∈ rule.ports, ∀ packet : Packet, p.Covers packet →
    (c.Admits packet ↔ ∃ service, c.state.Accepts service packet)

def Clear (ports : List PortSpec) (custom : List CustomRule) : Prop := ∀ p ∈ ports, ∀ r ∈ custom, ¬ p.Meets r

instance (ports : List PortSpec) (custom : List CustomRule) : Decidable (Clear ports custom) := by
  unfold Clear
  infer_instance

theorem meets_strip (p : PortSpec) (r : CustomRule) : p.strip.Meets r ↔ p.Meets r := Iff.rfl

section
variable {ports : List PortSpec} {custom : List CustomRule}

theorem Clear.append {ports' : List PortSpec} :
    Clear (ports ++ ports') custom ↔ Clear ports custom ∧ Clear ports' custom := forall_mem_append

theorem Clear.of_strip {ports' : List PortSpec} (clear : Clear ports custom)
    (from_ : ∀ q ∈ ports', ∃ p ∈ ports, q.strip = p.strip) : Clear ports' custom := by
  intro q hq r hr meets
  obtain ⟨p, hp, eq⟩ := from_ q hq
  rw [← meets_strip, eq, meets_strip] at meets
  exact clear p hp r hr meets

theorem strip_of_mem_applyRestrictions {sources ifaces : List String} {q : PortSpec}
    (mem : q ∈ applyRestrictions ports sources ifaces) : ∃ p ∈ ports, q.strip = p.strip := by
  unfold applyRestrictions at mem
  split at mem
  · exact ⟨q, mem, rfl⟩
  · obtain ⟨p, hp, expanded⟩ := mem_flatMap.mp mem
    refine ⟨p, hp, ?_⟩
    split at expanded
    · obtain ⟨s, -, inner⟩ := mem_flatMap.mp expanded
      obtain ⟨i, -, rfl⟩ := mem_map.mp inner
      rfl
    · split at expanded <;> obtain ⟨x, -, rfl⟩ := mem_map.mp expanded <;> rfl

theorem Clear.applyRestrictions (clear : Clear ports custom) (sources ifaces : List String) :
    Clear (applyRestrictions ports sources ifaces) custom :=
  clear.of_strip fun _ mem => strip_of_mem_applyRestrictions mem

theorem Clear.basePorts (clear : Clear ports custom) : Clear (basePorts ports) custom :=
  clear.of_strip fun q mem => by
    obtain ⟨p, hp, rfl⟩ := mem_basePorts.mp mem
    exact ⟨p, hp, rfl⟩

end

def Separate (state : FirewallState) (custom : List CustomRule) : Prop := ∀ rule ∈ state, Clear rule.ports custom

theorem Separate.owned {c : FirewallConfig} (separate : Separate c.state c.custom) : c.Owned := by
  have apart : ∀ rule ∈ c.state, ∀ p ∈ rule.ports, ∀ r ∈ c.custom, ∀ packet : Packet,
      p.Covers packet → ¬ r.Covers packet :=
    fun rule mem p hp r hr _ service custom =>
      separate rule mem p hp r hr ⟨service.1.trans custom.1.symm, UInt16.le_trans service.2.1 custom.2.2,
        UInt16.le_trans custom.2.1 service.2.2⟩
  refine ⟨apart, fun rule mem p hp packet covers => ⟨?_, .inl⟩⟩
  rintro (service | ⟨r, hr, -, custom, -⟩)
  · exact service
  · exact absurd custom (apart rule mem p hp r hr packet covers)

variable {rule : FirewallRule} {service : String} {state : FirewallState}

theorem mem_updateRule {f : FirewallRule → FirewallRule} (mem : rule ∈ state.updateRule service f) :
    rule ∈ state ∨ ∃ old ∈ state, rule = f old := by
  induction state with
  | nil => cases mem
  | cons head rest ih =>
    unfold FirewallState.updateRule at mem
    split at mem
    · rcases mem_cons.mp mem with rfl | there
      · exact .inr ⟨head, mem_cons_self, rfl⟩
      · exact .inl (mem_cons_of_mem _ there)
    · rcases mem_cons.mp mem with rfl | there
      · exact .inl mem_cons_self
      · rcases ih there with same | ⟨old, hm, rfl⟩
        · exact .inl (mem_cons_of_mem _ same)
        · exact .inr ⟨old, mem_cons_of_mem _ hm, rfl⟩

section separate
variable {state : FirewallState} {custom : List CustomRule} (separate : Separate state custom)
include separate

theorem Separate.updateRule {f : FirewallRule → FirewallRule}
    (clear : ∀ rule, Clear rule.ports custom → Clear (f rule).ports custom) :
    Separate (state.updateRule service f) custom := by
  intro rule mem
  rcases mem_updateRule mem with same | ⟨old, hm, rfl⟩
  · exact separate rule same
  · exact clear old (separate old hm)

theorem Separate.appendRule (clear : Clear rule.ports custom) : Separate (state ++ [rule]) custom :=
  forall_mem_append.mpr ⟨separate, forall_mem_singleton.mpr clear⟩

theorem Separate.replaceRulePorts (r : FirewallRestrictions) (service : String) {ports : List PortSpec}
    (clear : Clear ports custom) :
    Separate ((replaceRulePorts state r service ports).getD state) custom := by
  have expanded := clear.applyRestrictions (r.sourcesOf service) (r.ifacesOf service)
  unfold Firewall.replaceRulePorts
  dsimp only
  split
  · split
    · exact separate
    · exact separate.updateRule fun _ _ => expanded
  · exact separate.appendRule expanded

theorem Separate.setRuleActive {h : Host} (config : h.config.state = state ∧ h.config.custom = custom)
    {base : List PortSpec} {active : Bool}
    (clear : h.config.state.rule service = none → Clear base custom) {change : Change}
    (plan : setRuleActive service base active h = .ok change) :
    Separate (change.result h.config).state (change.result h.config).custom := by
  obtain ⟨rfl, rfl⟩ := config
  unfold Firewall.setRuleActive at plan
  split at plan
  · cases plan
    exact separate
  · dsimp only at plan
    split at plan
    · split at plan <;> cases plan
      · exact separate
      · exact separate.updateRule fun _ old => old
    next absent =>
      cases plan
      exact separate.appendRule ((clear absent).applyRestrictions _ _)

theorem Separate.protocolStates {enabled : List (Protocol × Bool)} :
    Separate (protocolStates state enabled).1 custom := by
  unfold Firewall.protocolStates
  generalize false = changed
  induction enabled generalizing state changed with
  | nil => exact separate
  | cons entry rest ih =>
    obtain ⟨proto, active⟩ := entry
    rw [foldl_cons]
    dsimp only
    split
    · split
      · exact ih separate _
      · refine ih ?_ true
        exact separate.updateRule fun _ old => old
    · exact ih separate _

end separate

theorem clear_of_refuseServicePorts {input : CustomRuleInput}
    (free : refuseServicePorts state input = .ok ()) {id : String} :
    Separate state [input.toRule id] := by
  unfold refuseServicePorts servicePortConflict at free
  cases eq : state.find? fun rule => rule.ports.any fun p =>
      p.transport = input.transport ∧ p.port ≤ input.toPort ∧ input.fromPort ≤ p.last with
  | some rule =>
    rw [eq] at free
    cases free
  | none =>
    intro rule mem p hp r hr meets
    rw [mem_singleton.mp hr] at meets
    have clear := find?_eq_none.mp eq rule mem
    exact clear (any_eq_true.mpr ⟨p, hp, decide_eq_true meets⟩)

theorem mem_replaceCustom {custom : List CustomRule} {rule r : CustomRule}
    (mem : r ∈ replaceCustom custom rule) : r ∈ custom ∨ r = rule := by
  induction custom with
  | nil => cases mem
  | cons head rest ih =>
    unfold replaceCustom at mem
    split at mem
    · rcases mem_cons.mp mem with rfl | hm
      · exact .inr rfl
      · exact .inl (mem_cons_of_mem _ hm)
    · rcases mem_cons.mp mem with rfl | hm
      · exact .inl mem_cons_self
      · exact (ih hm).imp (mem_cons_of_mem _) id

theorem Separate.custom {custom custom' : List CustomRule} {rule : CustomRule}
    (separate : Separate state custom) (fresh : Separate state [rule])
    (from_ : ∀ r ∈ custom', r ∈ custom ∨ r = rule) : Separate state custom' := by
  intro owner mem p hp r hr
  rcases from_ r hr with old | rfl
  · exact separate owner mem p hp r old
  · exact fresh owner mem p hp r (mem_singleton_self r)

def InitArgs.ports (args : InitArgs) : List PortSpec :=
  webuiPorts ++ args.iscsiPorts ++ args.nvmeofPorts ++
    ((args.enabledProtocols.map Prod.fst).filter fun proto => proto ≠ .iscsi ∧ proto ≠ .nvmeof).flatMap
      portsForProtocol ++
    (if args.rdmaEnabled then rdmaPorts else []) ++ (if args.dcEnabled then dcPorts else [])

def Op.Spares (op : Op) (h : Host) : Prop :=
  match op with
  | .init args => (args.enabledProtocols.map Prod.fst).Nodup ∧
      match h.customFile.load [] with
      | .ok custom => Clear args.ports custom
      | .error _ => True
  | .setServicePorts _ ports => Clear ports h.config.custom
  | .setPortalPorts iscsiPorts nvmeofPorts => Clear (iscsiPorts ++ nvmeofPorts) h.config.custom
  | op => match op.toggle with
    | some (service, base, _) => h.config.state.rule service = none → Clear base h.config.custom
    | none => True

theorem init_separate {args : InitArgs} (once : (args.enabledProtocols.map Prod.fst).Nodup)
    {custom : List CustomRule} (clear : Clear args.ports custom) {r : FirewallRestrictions} :
    Separate (((initialRules args r).withPorts r .iscsi args.iscsiPorts).withPorts r .nvmeof
      args.nvmeofPorts) custom := by
  simp only [InitArgs.ports, Clear.append] at clear
  obtain ⟨⟨⟨⟨⟨webui, iscsi⟩, nvmeof⟩, protocols⟩, rdma⟩, dc⟩ := clear
  obtain ⟨distinct, first⟩ := rule_replaceRulePorts (distinct_initialRules once r) r Protocol.iscsi.name args.iscsiPorts
  obtain ⟨distinct, second⟩ := rule_replaceRulePorts distinct r Protocol.nvmeof.name args.nvmeofPorts
  intro rule mem
  have hit := (second rule.service).symm.trans (rule_of_mem distinct mem)
  split at hit
  · cases hit
    exact nvmeof.applyRestrictions _ _
  next notNvmeof =>
  replace hit := (first rule.service).symm.trans hit
  split at hit
  · cases hit
    exact iscsi.applyRestrictions _ _
  next notIscsi =>
  rcases mem_initialRules.mp (rule_mem hit).1 with rfl | ⟨e, listed, -, rfl⟩ | ⟨enabled, rfl⟩ |
    ⟨enabled, rfl⟩
  · exact webui.applyRestrictions _ _
  · have kept : e.1 ≠ .iscsi ∧ e.1 ≠ .nvmeof :=
      ⟨fun eq => notIscsi (congrArg Protocol.name eq), fun eq => notNvmeof (congrArg Protocol.name eq)⟩
    refine .applyRestrictions (fun p hp => protocols p ?_) _ _
    exact mem_flatMap.mpr ⟨e.1, mem_filter.mpr ⟨mem_map_of_mem listed, by simpa using kept⟩, hp⟩
  · rw [if_pos enabled] at rdma
    exact rdma.applyRestrictions _ _
  · rw [if_pos enabled] at dc
    exact dc.applyRestrictions _ _

theorem Separate.plan {op : Op} {h : Host} (separate : Separate h.config.state h.config.custom)
    (spares : op.Spares h) {change : Change} (plan : op.plan h = .ok change) :
    Separate (change.result h.config).state (change.result h.config).custom := by
  cases op with
  | init args =>
    obtain ⟨once, clear⟩ := spares
    obtain ⟨c, rfl, -, custom, state⟩ := init_ok plan
    rw [show h.customFile.load [] = .ok c.custom from custom] at clear
    rw [Change.result, state]
    exact init_separate once clear
  | openService proto | closeService proto | openRdma | closeRdma | openDc | closeDc =>
    exact separate.setRuleActive ⟨rfl, rfl⟩ spares plan
  | setProtocolStates enabled =>
    simp only [Op.plan, setProtocolStates] at plan
    split at plan <;> cases plan
    · exact separate.protocolStates
    · exact separate
  | setPublishedAppPorts published =>
    simp only [Op.plan, setPublishedAppPorts] at plan
    split at plan <;> cases plan <;> exact separate
  | setRestriction service sources ifaces =>
    obtain ⟨-, rfl⟩ := setRestriction_ok plan
    exact separate.updateRule fun _ old => old.basePorts.applyRestrictions _ _
  | setServicePorts proto ports =>
    have moved := separate.replaceRulePorts h.config.restrictions proto.name spares
    simp only [Op.plan, setServicePorts] at plan
    split at plan <;> rename_i replaced <;> cases plan <;> rw [replaced] at moved <;> exact moved
  | setPortalPorts iscsiPorts nvmeofPorts =>
    obtain ⟨iscsi, nvmeof⟩ := Clear.append.mp spares
    simp only [Op.plan, setPortalPorts] at plan
    split at plan <;> cases plan
    · exact separate
    · exact (separate.replaceRulePorts _ _ iscsi).replaceRulePorts _ _ nvmeof
  | addCustomRule input id =>
    obtain ⟨rule, planned⟩ := map_snd_ok plan
    obtain ⟨free, rfl⟩ := addCustomRule_ok planned
    exact separate.custom (clear_of_refuseServicePorts free) fun r hr =>
      (mem_append.mp hr).imp_right mem_singleton.mp
  | updateCustomRule id input =>
    obtain ⟨rule, planned⟩ := map_snd_ok plan
    obtain ⟨free, rfl⟩ := updateCustomRule_ok planned
    exact separate.custom (clear_of_refuseServicePorts free) fun r hr => mem_replaceCustom hr
  | removeCustomRule id =>
    simp only [Op.plan, removeCustomRule] at plan
    split at plan <;> cases plan
    exact fun rule mem p hp r hr => separate rule mem p hp r (mem_of_mem_filter hr)

inductive Reached (Meets : Op → Host → Prop) : Host → Prop
  | fresh (h : Host) (empty : h.config = {}) : Reached Meets h
  | step (op : Op) (faults : List (Option String)) {h : Host} (reached : Reached Meets h)
      (meets : Meets op h) : Reached Meets (run op.task ⟨h, faults⟩).2.state

/-- As long as no port is given to a service that a custom rule has, closing or restricting the
services always closes or restricts their ports. -/
theorem ports_owned {h : Host} (reached : Reached Op.Spares h) : h.config.Owned := by
  refine Separate.owned ?_
  induction reached with
  | fresh h empty =>
    rw [empty]
    exact fun _ => nofun
  | step op faults reached meets ih =>
    rcases (op.under_task _ faults).config with ⟨-, -, same⟩ | ⟨-, change, plan, same⟩
    · rw [same]
      exact ih
    · rw [same]
      exact ih.plan meets plan

def dnsRule : CustomRuleInput := { label := "dns", transport := .tcp, fromPort := 53, toPort := 53 }

def Host.after (h : Host) (op : Op) : Host := (run op.task ⟨h, []⟩).2.state

def dnsHost : Host := (({} : Host).after (.init bootArgs)).after (.addCustomRule dnsRule "1")

theorem ports_owned_rdma : (dnsHost.after .openRdma).config.custom ≠ [] ∧ (dnsHost.after .openRdma).config.Owned := by
  refine ⟨by decide, ports_owned (.step .openRdma [] (.step _ [] (.step _ [] (.fresh {} rfl) ?_) ?_) ?_)⟩
  · exact ⟨by decide, show Clear bootArgs.ports [] by decide⟩
  · trivial
  · exact fun _ => by decide

def dnsPacket : Packet := { transport := .tcp, port := 53, source := .v4 ⟨[10, 0, 0, 1]⟩, iface := "eth0" }

def dnsTaken : FirewallConfig := ((dnsHost.after .openDc).after .closeDc).config

/-- The domain controller takes port 53, and closing it leaves the port open. -/
theorem ports_not_owned_dc : (∃ rule ∈ dnsTaken.state, rule.service = "dc" ∧ rule.active = false ∧
        ∃ p ∈ rule.ports, p.Covers dnsPacket) ∧
      (∃ r ∈ dnsTaken.custom, r.Accepts dnsPacket) ∧ ¬ dnsTaken.Owned := by
  have overlap : ∃ rule ∈ dnsTaken.state, (∃ p ∈ rule.ports, p.Covers dnsPacket) ∧
      ∃ r ∈ dnsTaken.custom, r.Covers dnsPacket := by decide
  refine ⟨by decide, by decide, fun owned => ?_⟩
  obtain ⟨rule, there, ⟨p, hp, service⟩, r, hr, custom⟩ := overlap
  exact owned.apart rule there p hp r hr dnsPacket service custom

end NastyEngine.Firewall
