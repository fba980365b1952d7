import NastyEngine.Firewall.Agreement
import NastyEngine.Firewall.Packets

/-!
A policy says what the operator has asked for: for each service its ports, the allowed sources and
interfaces, and whether it is open.
-/

namespace NastyEngine.Firewall
open Lib Rust Fallible List Function

structure Policy where
  base : String → List PortSpec
  sources : String → List String
  ifaces : String → List String
  isOpen : String → Bool

namespace Policy

def Accepts (π : Policy) (service : String) (packet : Packet) : Prop :=
  π.isOpen service = true ∧ (∃ p ∈ π.base service, p.Covers packet) ∧
    (π.sources service = [] ∨ ∃ s ∈ π.sources service, cidrContains s packet.source = true) ∧
    (π.ifaces service = [] ∨ packet.iface ∈ π.ifaces service)

instance (π : Policy) (service : String) (packet : Packet) : Decidable (π.Accepts service packet) := by
  unfold Accepts
  infer_instance

section
variable (π : Policy) (service : String)

def toggle (active : Bool) : Policy :=
  { π with isOpen := update π.isOpen service active }

def setBase (ports : List PortSpec) : Policy :=
  { π with base := update π.base service ports }

def restrict (sources ifaces : List String) : Policy :=
  { π with sources := update π.sources service sources
           ifaces := update π.ifaces service ifaces }

end

def initial (args : InitArgs) (r : FirewallRestrictions) : Policy :=
  { base := fun service => (defaultPorts service).getD []
    sources := r.sourcesOf
    ifaces := r.ifacesOf
    isOpen := fun service => service = "webui" || (service = "rdma" && args.rdmaEnabled) ||
      (service = "dc" && args.dcEnabled) ||
      args.enabledProtocols.any fun (proto, enabled) => proto.name = service && enabled }

def init (args : InitArgs) (r : FirewallRestrictions) : Policy :=
  ((initial args r).setBase Protocol.iscsi.name args.iscsiPorts).setBase Protocol.nvmeof.name args.nvmeofPorts

end Policy

def Op.effect (r : FirewallRestrictions) : Op → Policy → Policy
  | .init args, _ => .init args r
  | .openService proto, π => π.toggle proto.name true
  | .closeService proto, π => π.toggle proto.name false
  | .openRdma, π => π.toggle "rdma" true
  | .closeRdma, π => π.toggle "rdma" false
  | .openDc, π => π.toggle "dc" true
  | .closeDc, π => π.toggle "dc" false
  | .setRestriction service sources ifaces, π => π.restrict service sources ifaces
  | .setServicePorts proto ports, π => π.setBase proto.name ports
  | .setPortalPorts iscsiPorts nvmeofPorts, π =>
    (π.setBase Protocol.iscsi.name iscsiPorts).setBase Protocol.nvmeof.name nvmeofPorts
  | _, π => π

/-- The port lists carry no restriction of their own, each protocol is listed once, and the
reconciliation pass after service restoration is left out. -/
def Op.Plain : Op → Prop
  | .init args => (args.enabledProtocols.map Prod.fst).Nodup ∧ (∀ p ∈ args.iscsiPorts, p.Bare) ∧
      ∀ p ∈ args.nvmeofPorts, p.Bare
  | .setServicePorts _ ports => ∀ p ∈ ports, p.Bare
  | .setPortalPorts iscsiPorts nvmeofPorts => (∀ p ∈ iscsiPorts, p.Bare) ∧ ∀ p ∈ nvmeofPorts, p.Bare
  | .setProtocolStates _ => False
  | _ => True

def Ported (service : String) : Prop := (defaultPorts service).getD [] ≠ []

/-! ### Refinement -/

def Fits (π : Policy) (service : String) : Option FirewallRule → Prop
  | some rule => (∀ q, q ∈ rule.ports ↔
        q ∈ applyRestrictions (π.base service) (π.sources service) (π.ifaces service)) ∧
      (Ported service → rule.active = π.isOpen service)
  | none => Ported service → π.isOpen service = false ∧ π.base service = (defaultPorts service).getD []

structure Refines (state : FirewallState) (r : FirewallRestrictions) (π : Policy) : Prop where
  distinct : (state.map (·.service)).Nodup
  sources : π.sources = r.sourcesOf
  ifaces : π.ifaces = r.ifacesOf
  webui : π.isOpen "webui" = true
  bare : ∀ service, ∀ p ∈ π.base service, p.Bare
  fits : ∀ service, Fits π service (state.rule service)

variable {state state' : FirewallState} {r r' : FirewallRestrictions} {π π' : Policy}

variable {service other : String} {rule : FirewallRule} {active : Bool} {π : Policy} {ports base : List PortSpec}
  {ifaces sources : List String} {op : Op} {h : Host} {args : InitArgs} {faults : List (Option String)}

theorem Refines.accepts (refines : Refines state r π) (ported : Ported service)
    {packet : Packet} : state.Accepts service packet ↔ π.Accepts service packet := by
  rw [accepts_iff_rule refines.distinct]
  have fits := refines.fits service
  cases eq : state.rule service with
  | none =>
    rw [eq] at fits
    simp [Policy.Accepts, (fits ported).1]
  | some rule =>
    rw [eq] at fits
    obtain ⟨ports, active⟩ := fits
    simp only [Option.some.injEq, exists_eq_left', active ported, ports, Policy.Accepts,
      accepts_applyRestrictions (refines.bare service)]

structure Policy.SameAt (π π' : Policy) (service : String) : Prop where
  base : π'.base service = π.base service
  sources : π'.sources service = π.sources service
  ifaces : π'.ifaces service = π.ifaces service
  isOpen : π'.isOpen service = π.isOpen service

theorem Policy.SameAt.accepts (same : π.SameAt π' service) {packet : Packet} :
    π'.Accepts service packet ↔ π.Accepts service packet := by
  simp only [Policy.Accepts, same.base, same.sources, same.ifaces, same.isOpen]

structure Edit (π π' : Policy) (r : FirewallRestrictions) (service : String) : Prop where
  sources : π'.sources = r.sourcesOf
  ifaces : π'.ifaces = r.ifacesOf
  webui : π'.isOpen "webui" = true
  others : ∀ other, other ≠ service → π.SameAt π' other
  bare : ∀ p ∈ π'.base service, p.Bare

theorem Refines.change (refines : Refines state r π) (edit : Edit π π' r' service)
    (distinct : (state'.map (·.service)).Nodup)
    (others : ∀ other, other ≠ service → state'.rule other = state.rule other)
    (fits : Fits π' service (state'.rule service)) : Refines state' r' π' := by
  refine ⟨distinct, edit.sources, edit.ifaces, edit.webui, fun other => ?_, fun other => ?_⟩
  · by_cases own : other = service
    · exact own ▸ edit.bare
    · rw [(edit.others other own).base]
      exact refines.bare other
  · by_cases own : other = service
    · exact own ▸ fits
    · have same := edit.others other own
      have before := refines.fits other
      rw [others other own]
      cases eq : state.rule other with
      | none =>
        rw [eq] at before
        simpa only [Fits, same.isOpen, same.base] using before
      | some rule =>
        rw [eq] at before
        simpa only [Fits, same.isOpen, same.base, same.sources, same.ifaces] using before

theorem nodup_append_rule (distinct : (state.map (·.service)).Nodup) (absent : state.rule rule.service = none) :
    ((state ++ [rule]).map (·.service)).Nodup := by
  rw [map_append, map_singleton, nodup_append]
  refine ⟨distinct, nodup_singleton _, ?_⟩
  intro s hs t ht
  obtain ⟨other, mem, rfl⟩ := mem_map.mp hs
  rw [mem_singleton.mp ht]
  exact rule_eq_none.mp absent other mem

section
variable (refines : Refines state r π)
include refines

theorem Refines.keepRules (edit : Edit π π' r' service)
    (fits : Fits π' service (state.rule service)) : Refines state r' π' :=
  refines.change edit refines.distinct (fun _ _ => rfl) fits

theorem Refines.updateRule (edit : Edit π π' r' service)
    {f : FirewallRule → FirewallRule} (keeps : ∀ rule, (f rule).service = rule.service)
    (fits : Fits π' service ((state.rule service).map f)) :
    Refines (state.updateRule service f) r' π' := by
  refine refines.change edit ?_ (fun other distinct => ?_) ?_
  · rw [services_updateRule keeps]
    exact refines.distinct
  · rw [rule_updateRule keeps, if_neg distinct]
  · rw [rule_updateRule keeps, if_pos rfl]
    exact fits

theorem Refines.appendRule (edit : Edit π π' r' rule.service) (absent : state.rule rule.service = none)
    (fits : Fits π' rule.service (some rule)) : Refines (state ++ [rule]) r' π' := by
  refine refines.change edit ?_ (fun other distinct => ?_) ?_
  · exact nodup_append_rule refines.distinct absent
  · rw [rule_append, if_neg (Ne.symm distinct), Option.or_none]
  · rw [rule_append, absent, if_pos rfl, Option.none_or]
    exact fits

end

/-! ### Opening and closing -/

theorem Policy.setBase_others (distinct : other ≠ service) : π.SameAt (π.setBase service ports) other :=
  ⟨update_of_ne distinct _ _, rfl, rfl, rfl⟩

theorem Policy.setBase_self (π : Policy) (service : String) (ports : List PortSpec) :
    (π.setBase service ports).base service = ports := update_self ..

variable (proto : Protocol)

theorem defaultPorts_name : defaultPorts proto.name = some (portsForProtocol proto) := by
  cases proto <;> rfl

theorem Op.toggle_default (toggle : op.toggle = some (service, base, active)) :
    defaultPorts service = some base ∧ service ≠ "webui" := by
  cases op <;> cases toggle
  case openService proto | closeService proto =>
    exact ⟨defaultPorts_name proto, by cases proto <;> decide⟩
  all_goals exact ⟨rfl, by decide⟩

theorem Refines.toggled (refines : Refines state r π) (ne : service ≠ "webui")
    (active : Bool) : Edit π (π.toggle service active) r service where
  sources := refines.sources
  ifaces := refines.ifaces
  webui := (update_of_ne (Ne.symm ne) _ _).trans refines.webui
  others _ distinct := ⟨rfl, rfl, rfl, update_of_ne distinct _ _⟩
  bare := refines.bare service

variable {change : Change}

theorem Refines.setRuleActive (refines : Refines h.config.state h.config.restrictions π)
    (default : defaultPorts service = some base) (ne : service ≠ "webui")
    (plan : setRuleActive service base active h = .ok change) :
    Refines (change.result h.config).state (change.result h.config).restrictions (π.toggle service active) := by
  have isOpen : (π.toggle service active).isOpen service = active := update_self ..
  have edit := refines.toggled ne active
  have fits := refines.fits service
  unfold Firewall.setRuleActive at plan
  split at plan
  next empty =>
    cases plan
    have bare : ¬ Ported service := by simp [Ported, default, empty]
    refine refines.keepRules edit ?_
    cases hit : h.config.state.rule service with
    | none => exact fun ported => absurd ported bare
    | some rule =>
      rw [hit] at fits
      exact ⟨fits.1, fun ported => absurd ported bare⟩
  next some_ =>
    have ported : Ported service := by simpa [Ported, default] using some_
    dsimp only at plan
    split at plan
    next rule hit =>
      rw [hit] at fits
      split at plan
      next eq =>
        cases plan
        refine refines.keepRules edit ?_
        rw [hit]
        exact ⟨fits.1, fun _ => by rw [isOpen]; exact eq⟩
      · cases plan
        refine refines.updateRule edit (fun _ => rfl) ?_
        rw [hit]
        exact ⟨fits.1, fun _ => isOpen.symm⟩
    next absent =>
      cases plan
      rw [absent] at fits
      refine refines.appendRule edit absent ⟨fun q => ?_, fun _ => isOpen.symm⟩
      change _ ↔ q ∈ applyRestrictions (π.base service) (π.sources service) (π.ifaces service)
      rw [(fits ported).2, default, refines.sources, refines.ifaces]
      rfl

theorem Refines.toggle (refines : Refines h.config.state h.config.restrictions π)
    (toggle : op.toggle = some (service, base, active)) (plan : op.plan h = .ok change) :
    Refines (change.result h.config).state (change.result h.config).restrictions (π.toggle service active) := by
  obtain ⟨default, ne⟩ := op.toggle_default toggle
  rw [op.plan_toggle toggle] at plan
  exact refines.setRuleActive default ne plan

/-! ### Ports and restrictions -/

/-- The rule of the service gets the ports, and is made if there is none; the others stay. -/
theorem rule_replaceRulePorts (distinct : (state.map (·.service)).Nodup) (r : FirewallRestrictions) (service : String)
    (ports : List PortSpec) : (((replaceRulePorts state r service ports).getD state).map (·.service)).Nodup ∧
      ∀ other, FirewallState.rule ((replaceRulePorts state r service ports).getD state) other =
        if other = service then some { (state.rule service).getD { service, ports := [], active := false } with
          ports := applyRestrictions ports (r.sourcesOf service) (r.ifacesOf service) }
        else state.rule other := by
  unfold replaceRulePorts
  dsimp only
  split
  next rule hit =>
    split
    next eq =>
      refine ⟨distinct, fun other => ?_⟩
      split
      next own => rw [own, Option.getD_none, hit, ← eq, Option.getD_some]
      · rfl
    · constructor
      · rw [Option.getD_some, services_updateRule]
        · exact distinct
        · exact fun _ => rfl
      · intro other
        rw [Option.getD_some, rule_updateRule, hit]
        · rfl
        · exact fun _ => rfl
  next absent =>
    refine ⟨nodup_append_rule distinct absent, fun other => ?_⟩
    rw [Option.getD_some, rule_append]
    by_cases own : other = service
    · simp [own, absent]
    · rw [if_neg own, if_neg (Ne.symm own), Option.or_none]

theorem Refines.replaceRulePorts (refines : Refines state r π) (service : String) (bare : ∀ p ∈ ports, p.Bare) :
    Refines ((replaceRulePorts state r service ports).getD state) r (π.setBase service ports) := by
  have base := π.setBase_self service ports
  have edit : Edit π (π.setBase service ports) r service :=
    ⟨refines.sources, refines.ifaces, refines.webui, fun _ distinct => Policy.setBase_others distinct,
      by rw [base]; exact bare⟩
  obtain ⟨distinct, replaced⟩ := rule_replaceRulePorts refines.distinct r service ports
  refine refines.change edit distinct (fun other ne => (replaced other).trans (if_neg ne)) ?_
  rw [replaced, if_pos rfl]
  refine ⟨fun q => ?_, fun ported => ?_⟩
  · rw [base, ← refines.sources, ← refines.ifaces]
    rfl
  · have fits := refines.fits service
    cases hit : state.rule service with
    | none =>
      rw [hit] at fits
      exact (fits ported).1.symm
    | some rule =>
      rw [hit] at fits
      exact fits.2 ported

theorem lookup_setEntry {m : Finmap fun _ : String => List String} {service : String} {values : List String} :
    (fun s => ((setEntry m service values).lookup s).getD []) =
      update (fun s => (m.lookup s).getD []) service values := by
  funext s
  unfold setEntry
  by_cases own : s = service
  · subst own
    split
    next empty =>
      simp [empty]
    · simp
  · rw [update_of_ne own]
    split
    · rw [Finmap.lookup_erase_ne own]
    · rw [Finmap.lookup_insert_of_ne _ own]

theorem Refines.restricted (refines : Refines h.config.state h.config.restrictions π)
    {service : String} {sources ifaces : List String} :
    Edit π (π.restrict service sources ifaces) (h.config.restrictions.set service sources ifaces) service where
  sources := by
    rw [Policy.restrict, refines.sources]
    exact (lookup_setEntry).symm
  ifaces := by
    rw [Policy.restrict, refines.ifaces]
    exact (lookup_setEntry).symm
  webui := refines.webui
  others _ distinct := ⟨rfl, update_of_ne distinct _ _, update_of_ne distinct _ _, rfl⟩
  bare := refines.bare service

theorem Refines.setRestriction (refines : Refines h.config.state h.config.restrictions π)
    (plan : setRestriction service sources ifaces h = .ok change) :
    Refines (change.result h.config).state (change.result h.config).restrictions (π.restrict service sources ifaces) := by
  obtain ⟨-, rfl⟩ := setRestriction_ok plan
  have fits := refines.fits service
  refine refines.updateRule refines.restricted (fun _ => rfl) ?_
  cases eq : h.config.state.rule service with
  | none =>
    rw [eq] at fits
    exact fits
  | some rule =>
    rw [eq] at fits
    refine ⟨fun q => ?_, fits.2⟩
    have base := basePorts_applyRestrictions (refines.bare service) fits.1
    simp only [Policy.restrict, update_self, mem_applyRestrictions (refines.bare service),
      mem_applyRestrictions fun p hp => refines.bare service p ((base p).mp hp), base]

/-! ### Starting up -/

theorem Protocol.fromName_name : Protocol.fromName proto.name = some proto := by
  cases proto <;> rfl

theorem Protocol.name_injective : Function.Injective Protocol.name := by
  intro p q eq
  have there := Protocol.fromName_name p
  rw [eq, Protocol.fromName_name] at there
  exact (Option.some.inj there).symm

theorem Protocol.name_ne : proto.name ≠ "webui" ∧ proto.name ≠ "rdma" ∧ proto.name ≠ "dc" := by
  cases proto <;> decide

theorem mem_initialRules {r : FirewallRestrictions} :
    rule ∈ initialRules args r ↔ rule = r.ruleFor "webui" webuiPorts true ∨
      (∃ e ∈ args.enabledProtocols, portsForProtocol e.1 ≠ [] ∧ rule = r.ruleFor e.1.name (portsForProtocol e.1) e.2) ∨
      (args.rdmaEnabled = true ∧ rule = r.ruleFor "rdma" rdmaPorts true) ∨
      (args.dcEnabled = true ∧ rule = r.ruleFor "dc" dcPorts true) := by
  unfold initialRules
  simp only [mem_append, mem_singleton, mem_filterMap, or_assoc]
  refine or_congr Iff.rfl (or_congr ?_ (or_congr ?_ ?_))
  · refine exists_congr fun e => and_congr Iff.rfl ?_
    by_cases empty : portsForProtocol e.1 = [] <;> simp [empty, eq_comm]
  · cases args.rdmaEnabled <;> simp
  · cases args.dcEnabled <;> simp

theorem services_initialRules (args : InitArgs) (r : FirewallRestrictions) :
    (initialRules args r).map (·.service) = ["webui"] ++ ((args.enabledProtocols.map Prod.fst).filterMap fun proto =>
        if portsForProtocol proto = [] then none else some proto.name) ++
      (if args.rdmaEnabled then ["rdma"] else []) ++ (if args.dcEnabled then ["dc"] else []) := by
  unfold initialRules
  simp only [map_append, map_filterMap, filterMap_map]
  congr 1
  · congr 1
    · congr 1
      refine filterMap_congr fun e _ => ?_
      by_cases empty : portsForProtocol e.1 = [] <;> simp [empty, FirewallRestrictions.ruleFor]
    · cases args.rdmaEnabled <;> rfl
  · cases args.dcEnabled <;> rfl

theorem distinct_initialRules (once : (args.enabledProtocols.map Prod.fst).Nodup)
    (r : FirewallRestrictions) : ((initialRules args r).map (·.service)).Nodup := by
  rw [services_initialRules]
  have names : ((args.enabledProtocols.map Prod.fst).filterMap fun proto =>
      if portsForProtocol proto = [] then none else some proto.name).Nodup := by
    refine once.filterMap fun p q name hp hq => Protocol.name_injective ?_
    split at hp <;> split at hq <;> simp_all
  have protocols : ∀ name ∈ (args.enabledProtocols.map Prod.fst).filterMap fun proto =>
      if portsForProtocol proto = [] then none else some proto.name,
      name ≠ "webui" ∧ name ≠ "rdma" ∧ name ≠ "dc" := by
    intro name mem
    obtain ⟨proto, -, named⟩ := mem_filterMap.mp mem
    split at named
    · cases named
    · exact Option.some.inj named ▸ proto.name_ne
  generalize (args.enabledProtocols.map Prod.fst).filterMap _ = list at names protocols
  have all : (["webui"] ++ list ++ ["rdma"] ++ ["dc"]).Nodup := by
    grind [nodup_append]
  refine all.sublist (List.Sublist.append (List.Sublist.append (List.Sublist.refl _) ?_) ?_)
  · split <;> simp
  · split <;> simp

theorem initial_isOpen (once : (args.enabledProtocols.map Prod.fst).Nodup)
    (r : FirewallRestrictions) {e : Protocol × Bool} (mem : e ∈ args.enabledProtocols) :
    (Policy.initial args r).isOpen e.1.name = e.2 := by
  obtain ⟨webui, rdma, dc⟩ := e.1.name_ne
  have here : (args.enabledProtocols.any fun (proto, enabled) =>
      decide (proto.name = e.1.name) && enabled) = e.2 := by
    rw [Bool.eq_iff_iff, any_eq_true]
    constructor
    · rintro ⟨other, hm, listed⟩
      rw [Bool.and_eq_true, decide_eq_true_iff] at listed
      have eq := inj_on_of_nodup_map once hm mem (Protocol.name_injective listed.1)
      rw [← eq]
      exact listed.2
    · exact fun enabled => ⟨e, mem, by simp [enabled]⟩
  simp [Policy.initial, webui, rdma, dc, here]

theorem initial_isOpen_roles (args : InitArgs) (r : FirewallRestrictions) :
    (Policy.initial args r).isOpen "rdma" = args.rdmaEnabled ∧ (Policy.initial args r).isOpen "dc" = args.dcEnabled := by
  have rdma : ∀ proto : Protocol, decide (proto.name = "rdma") = false := fun proto => by
    simp [proto.name_ne.2.1]
  have dc : ∀ proto : Protocol, decide (proto.name = "dc") = false := fun proto => by
    simp [proto.name_ne.2.2]
  simp only [Policy.initial, rdma, dc]
  simp

theorem defaultPorts_bare (service : String) : ∀ p ∈ (defaultPorts service).getD [], p.Bare := by
  have protocols : ∀ proto, ∀ p ∈ portsForProtocol proto, p.Bare := by
    intro proto
    cases proto <;> decide
  unfold defaultPorts
  split
  · decide
  · split
    · decide
    · split
      · decide
      · cases Protocol.fromName service with
        | none => simp
        | some proto => exact protocols proto

theorem initial_refines (once : (args.enabledProtocols.map Prod.fst).Nodup)
    {r : FirewallRestrictions} : Refines (initialRules args r) r (Policy.initial args r) := by
  refine ⟨distinct_initialRules once r, rfl, rfl, rfl, defaultPorts_bare, fun service => ?_⟩
  cases eq : (initialRules args r).rule service with
  | some rule =>
    obtain ⟨mem, rfl⟩ := rule_mem eq
    rcases mem_initialRules.mp mem with rfl | ⟨e, listed, -, rfl⟩ | ⟨enabled, rfl⟩ | ⟨enabled, rfl⟩
    · exact ⟨fun q => Iff.rfl, fun _ => rfl⟩
    · refine ⟨fun q => ?_, fun _ => (initial_isOpen once r listed).symm⟩
      have base : (Policy.initial args r).base e.1.name = portsForProtocol e.1 := by
        simp [Policy.initial, defaultPorts_name]
      change _ ↔ q ∈ applyRestrictions ((Policy.initial args r).base e.1.name) _ _
      rw [base]
      rfl
    · exact ⟨fun q => Iff.rfl, fun _ => by simp [Policy.initial, FirewallRestrictions.ruleFor, enabled]⟩
    · exact ⟨fun q => Iff.rfl, fun _ => by simp [Policy.initial, FirewallRestrictions.ruleFor, enabled]⟩
  | none =>
    refine fun ported => ⟨?_, rfl⟩
    -- an open service with ports has a rule
    have absent := rule_eq_none.mp eq
    rw [Bool.eq_false_iff]
    intro isOpen
    simp only [Policy.initial, Bool.or_eq_true, Bool.and_eq_true, decide_eq_true_eq, any_eq_true] at isOpen
    rcases isOpen with ((rfl | ⟨rfl, enabled⟩) | ⟨rfl, enabled⟩) | ⟨e, listed, rfl, -⟩
    · exact absent _ (mem_initialRules.mpr (.inl rfl)) rfl
    · exact absent _ (mem_initialRules.mpr (.inr (.inr (.inl ⟨enabled, rfl⟩)))) rfl
    · exact absent _ (mem_initialRules.mpr (.inr (.inr (.inr ⟨enabled, rfl⟩)))) rfl
    · refine absent _ (mem_initialRules.mpr (.inr (.inl ⟨e, listed, ?_, rfl⟩))) rfl
      simpa [Ported, defaultPorts_name] using ported

theorem init_refines (plain : (Op.init args).Plain) (plan : init args h = .ok change) :
    Refines (change.result h.config).state (change.result h.config).restrictions
      (Policy.init args (change.result h.config).restrictions) := by
  obtain ⟨once, iscsi, nvmeof⟩ := plain
  obtain ⟨c, rfl, -, -, state⟩ := init_ok plan
  rw [Change.result, state]
  exact ((initial_refines once).replaceRulePorts _ iscsi).replaceRulePorts _ nvmeof

/-! ### Runs -/

theorem Refines.plan (plain : op.Plain) (refines : Refines h.config.state h.config.restrictions π)
    (plan : op.plan h = .ok change) :
    Refines (change.result h.config).state (change.result h.config).restrictions
      (op.effect (change.result h.config).restrictions π) := by
  cases op with
  | init args => exact init_refines plain plan
  | openService | closeService | openRdma | closeRdma | openDc | closeDc =>
    exact refines.toggle rfl plan
  | setProtocolStates enabled => exact plain.elim
  | setPublishedAppPorts published =>
    simp only [Op.plan, setPublishedAppPorts] at plan
    split at plan <;> cases plan <;> exact refines
  | setRestriction service sources ifaces => exact refines.setRestriction plan
  | setServicePorts proto ports =>
    have moved := refines.replaceRulePorts proto.name plain
    simp only [Op.plan, setServicePorts] at plan
    split at plan <;> rename_i replaced <;> cases plan <;> rw [replaced] at moved <;> exact moved
  | setPortalPorts iscsiPorts nvmeofPorts =>
    have moved := (refines.replaceRulePorts Protocol.iscsi.name plain.1).replaceRulePorts Protocol.nvmeof.name plain.2
    simp only [Op.plan, setPortalPorts] at plan
    split at plan
    next same =>
      cases plan
      rw [same.1, Option.getD_none] at moved same
      rw [same.2] at moved
      exact moved
    · cases plan
      exact moved
  | addCustomRule input id =>
    obtain ⟨rule, planned⟩ := map_snd_ok plan
    obtain ⟨-, rfl⟩ := addCustomRule_ok planned
    exact refines
  | updateCustomRule id input =>
    obtain ⟨rule, planned⟩ := map_snd_ok plan
    obtain ⟨-, rfl⟩ := updateCustomRule_ok planned
    exact refines
  | removeCustomRule id =>
    simp only [Op.plan, removeCustomRule] at plan
    split at plan <;> cases plan
    exact refines

def Op.MovesPorts : Op → Prop
  | .setServicePorts .. | .setPortalPorts .. => True
  | _ => False

structure Tracked where
  service : Service
  policy : Policy

variable {s : Tracked}

namespace Tracked

def rules (s : Tracked) : FirewallState := s.service.host.config.state

def result (s : Tracked) (call : Op × List (Option String)) : Except FirewallError Unit :=
  (run call.1.task ⟨s.service.host, call.2⟩).1

def step (s : Tracked) (call : Op × List (Option String)) : Tracked :=
  { service := s.service.step call
    policy := match s.result call with
      | .error (.refused _) => s.policy
      | _ => call.1.effect (s.service.step call).host.config.restrictions s.policy }

def start (h : Host) (args : InitArgs) (faults : List (Option String)) : Tracked :=
  { service := .start h args faults
    policy := .init args (Service.start h args faults).host.config.restrictions }

structure Inv (s : Tracked) : Prop where
  agrees : s.service.Agrees
  refines : Refines s.rules s.service.host.config.restrictions s.policy

theorem Inv.step (inv : s.Inv) (call : Op × List (Option String)) (plain : call.1.Plain) : (s.step call).Inv := by
  refine ⟨inv.agrees.step, ?_⟩
  have leads := call.1.under_task s.service.host call.2
  have config : (s.step call).service.host = (run call.1.task ⟨s.service.host, call.2⟩).2.state := rfl
  rw [Tracked.rules, config]
  rcases leads.config with ⟨e, refused, eq⟩ | ⟨taken, change, plan, eq⟩
  · have policy : (s.step call).policy = s.policy := by
      simp only [Tracked.step, Tracked.result, refused]
    rw [eq, policy]
    exact inv.refines
  · have policy : (s.step call).policy =
        call.1.effect (run call.1.task ⟨s.service.host, call.2⟩).2.state.config.restrictions s.policy := by
      unfold Tracked.step Tracked.result
      split
      next e refused =>
        exact absurd refused (taken e)
      · rfl
    rw [policy, eq]
    exact inv.refines.plan plain plan

theorem Inv.steps (inv : s.Inv) {calls : List (Op × List (Option String))}
    (plain : ∀ call ∈ calls, call.1.Plain) : (calls.foldl Tracked.step s).Inv := by
  induction calls generalizing s with
  | nil => exact inv
  | cons call rest ih =>
    exact ih (inv.step call (plain call mem_cons_self)) fun c mem =>
      plain c (mem_cons_of_mem _ mem)

theorem start_planned (started : (run (Op.init args).task ⟨h, faults⟩).1 = .ok ()) : ∃ change,
    init args h = .ok change ∧ (Tracked.start h args faults).service.host.config = change.result h.config := by
  rcases ((Op.init args).under_task h faults).config with ⟨e, refused, -⟩ | ⟨-, change, plan, eq⟩
  · cases started.symm.trans refused
  · exact ⟨change, plan, eq⟩

theorem start_inv (plain : (Op.init args).Plain) (started : (run (Op.init args).task ⟨h, faults⟩).1 = .ok ()) :
    (Tracked.start h args faults).Inv := by
  refine ⟨Service.start_agrees started, ?_⟩
  obtain ⟨change, plan, eq⟩ := start_planned started
  rw [rules, eq]
  change Refines _ _ (.init args (Tracked.start h args faults).service.host.config.restrictions)
  rw [eq]
  exact init_refines plain plan

end Tracked

/-! ### Restarts -/

def Policy.bootArgs (π : Policy) (published : List PublishedAppPort) : InitArgs :=
  { enabledProtocols := Protocol.all.map fun proto => (proto, π.isOpen proto.name)
    rdmaEnabled := π.isOpen "rdma"
    dcEnabled := π.isOpen "dc"
    iscsiPorts := π.base Protocol.iscsi.name
    nvmeofPorts := π.base Protocol.nvmeof.name
    published }

def Policy.PortalsOnly (π : Policy) : Prop :=
  ∀ service, service ≠ Protocol.iscsi.name → service ≠ Protocol.nvmeof.name → Ported service →
    π.base service = (defaultPorts service).getD []

theorem ported_cases (ported : Ported service) :
    service = "webui" ∨ service = "rdma" ∨ service = "dc" ∨ ∃ proto : Protocol, service = proto.name := by
  have named : ∀ proto, Protocol.fromName service = some proto → service = proto.name := by
    intro proto eq
    unfold Protocol.fromName at eq
    split at eq <;> cases eq <;> rfl
  unfold Ported defaultPorts at ported
  by_cases webui : service = "webui"
  · exact .inl webui
  by_cases rdma : service = "rdma"
  · exact .inr (.inl rdma)
  by_cases dc : service = "dc"
  · exact .inr (.inr (.inl dc))
  rw [if_neg webui, if_neg rdma, if_neg dc] at ported
  cases eq : Protocol.fromName service with
  | none => simp [eq] at ported
  | some proto => exact .inr (.inr (.inr ⟨proto, named proto eq⟩))

theorem Ported.not_custom (ported : Ported service) (id : String) : "custom:" ++ id ≠ service := by
  intro same
  have chars := congrArg String.toList same
  rw [String.toList_append] at chars
  rcases ported_cases ported with rfl | rfl | rfl | ⟨proto, rfl⟩
  · simp at chars
  · simp at chars
  · simp at chars
  · cases proto <;> simp [Protocol.name] at chars

variable {published : List PublishedAppPort}

theorem bootArgs_isOpen (webui : π.isOpen "webui" = true) (r : FirewallRestrictions) (ported : Ported service) :
    (Policy.init (π.bootArgs published) r).isOpen service = π.isOpen service := by
  have once : ((π.bootArgs published).enabledProtocols.map Prod.fst).Nodup := by
    simpa [Policy.bootArgs, comp_def] using (by decide : Protocol.all.Nodup)
  rcases ported_cases ported with rfl | rfl | rfl | ⟨proto, rfl⟩
  · exact webui.symm
  · exact (initial_isOpen_roles _ r).1
  · exact (initial_isOpen_roles _ r).2
  · exact initial_isOpen once r (e := (proto, π.isOpen proto.name)) (mem_map.mpr ⟨proto, by cases proto <;> decide, rfl⟩)

theorem bootArgs_base (portals : π.PortalsOnly) (r : FirewallRestrictions) (ported : Ported service) :
    (Policy.init (π.bootArgs published) r).base service = π.base service := by
  by_cases nvmeof : service = Protocol.nvmeof.name
  · rw [nvmeof]
    exact Policy.setBase_self ..
  · rw [Policy.init, (Policy.setBase_others nvmeof).base]
    by_cases iscsi : service = Protocol.iscsi.name
    · rw [iscsi]
      exact Policy.setBase_self ..
    · rw [(Policy.setBase_others iscsi).base, portals service iscsi nvmeof ported]
      rfl

theorem bootArgs_plain (bare : ∀ service, ∀ p ∈ π.base service, p.Bare) : (Op.init (π.bootArgs published)).Plain := by
  refine ⟨?_, bare _, bare _⟩
  simpa [Policy.bootArgs, comp_def] using (by decide : Protocol.all.Nodup)

namespace Tracked

theorem start_loads (started : (run (Op.init args).task ⟨h, faults⟩).1 = .ok ()) :
    h.restrictionsFile.load {} = .ok (Tracked.start h args faults).service.host.config.restrictions := by
  obtain ⟨change, plan, eq⟩ := start_planned started
  obtain ⟨c, rfl, restrictions, -⟩ := init_ok plan
  rw [eq]
  exact restrictions

/-- The accept lines of services and custom rules. -/
def chain (s : Tracked) : List InputRule := inputRules s.rules s.service.host.config.custom

theorem Inv.acceptedFor (inv : s.Inv) (ported : Ported service) {packet : Packet} :
    AcceptedFor s.chain service packet ↔ s.policy.Accepts service packet :=
  (acceptedFor_iff ported.not_custom).trans (inv.refines.accepts ported)

def rebooted (s : Tracked) : Host := { s.service.host with config := {} }

theorem step_policy {call : Op × List (Option String)} (ok : s.result call = .ok ()) :
    (s.step call).policy = call.1.effect (s.service.step call).host.config.restrictions s.policy := by
  simp only [Tracked.step, ok]

structure Enforced (s : Tracked) : Prop where
  /-- The table in the kernel: its input chain has the lines of `chain` behind the fixed ones, and no others. -/
  loaded : ∃ behind, s.service.host.kernel = some ("destroy table inet nasty\n" ++
    String.join (inputHead ++ s.chain.map InputRule.text ++ "    \x7d\n" :: behind))
  /-- Ports, sources and interfaces in every combination, while the last toggle was open. -/
  accepts : ∀ service, Ported service → ∀ packet,
    AcceptedFor s.chain service packet ↔ s.policy.Accepts service packet
  commutes : ∀ (service : String) (sources ifaces : List String) (move : Op), move.MovesPorts → move.Plain →
    ∀ f₁ f₂ f₃ f₄ : List (Option String), s.result (.setRestriction service sources ifaces, f₁) = .ok () →
      (s.step (.setRestriction service sources ifaces, f₁)).result (move, f₂) = .ok () →
      s.result (move, f₃) = .ok () →
      (s.step (move, f₃)).result (.setRestriction service sources ifaces, f₄) = .ok () →
      ∀ other, Ported other → ∀ packet,
        AcceptedFor ((s.step (.setRestriction service sources ifaces, f₁)).step (move, f₂)).chain other packet ↔
          AcceptedFor ((s.step (move, f₃)).step (.setRestriction service sources ifaces, f₄)).chain other packet
  restarts : s.service.stale .restrictions = false → s.policy.PortalsOnly →
    ∀ (published : List PublishedAppPort) (faults : List (Option String)),
      (run (Op.init (s.policy.bootArgs published)).task ⟨s.rebooted, faults⟩).1 = .ok () →
      ∀ service, Ported service → ∀ packet,
        AcceptedFor (Tracked.start s.rebooted (s.policy.bootArgs published) faults).chain service packet ↔
          AcceptedFor s.chain service packet

theorem Inv.enforced (inv : s.Inv) : s.Enforced where
  loaded := by
    obtain ⟨behind, text⟩ := renderRuleset_eq s.rules s.service.host.config.custom s.service.host.config.published
    exact ⟨behind, inv.agrees.kernel.trans (congrArg (fun t => some ("destroy table inet nasty\n" ++ t)) text)⟩
  accepts _ ported packet := inv.acceptedFor ported
  commutes service sources ifaces move moves plain f₁ f₂ f₃ f₄ ok₁ ok₂ ok₃ ok₄ _ ported packet := by
    have restrictFirst := (inv.step (.setRestriction service sources ifaces, f₁) trivial).step (move, f₂) plain
    have moveFirst := (inv.step (move, f₃) plain).step (.setRestriction service sources ifaces, f₄) trivial
    rw [restrictFirst.acceptedFor ported, moveFirst.acceptedFor ported, step_policy ok₂,
      step_policy ok₁, step_policy ok₄, step_policy ok₃]
    -- the two effects touch different parts of the policy
    cases move with
    | setServicePorts | setPortalPorts => exact Iff.rfl
    | _ => exact moves.elim
  restarts fresh portals published faults started _ ported packet := by
    have again := start_inv (bootArgs_plain inv.refines.bare) started
    have reloaded : (Tracked.start s.rebooted (s.policy.bootArgs published) faults).service.host.config.restrictions =
          s.service.host.config.restrictions :=
      Except.ok.inj ((start_loads started).symm.trans (inv.agrees.disk .restrictions fresh))
    rw [again.acceptedFor ported, inv.acceptedFor ported]
    refine Policy.SameAt.accepts ⟨bootArgs_base portals _ ported, ?_, ?_, bootArgs_isOpen inv.refines.webui _ ported⟩
    · rw [inv.refines.sources, ← reloaded]
      rfl
    · rw [inv.refines.ifaces, ← reloaded]
      rfl

/-- After a successful start, through every sequence of operations and failures, a service with
default ports accepts the packets of its last ports, sources and interfaces while it is open. -/
theorem policy_enforced (h : Host) (args : InitArgs) (faults : List (Option String))
    (first : (Op.init args).Plain) (started : (run (Op.init args).task ⟨h, faults⟩).1 = .ok ())
    (calls : List (Op × List (Option String))) (plain : ∀ call ∈ calls, call.1.Plain) :
    (calls.foldl Tracked.step (.start h args faults)).Enforced :=
  ((start_inv first started).steps plain).enforced

def restrictedCalls : List (Op × List (Option String)) :=
  [(.setRestriction "ssh" ["10.0.0.0/8"] [], []),
    (.setPortalPorts [{ port := 3261, transport := .tcp }] [{ port := 4421, transport := .tcp }], [])]

def sshFrom (octets : List Nat) : Packet := { transport := .tcp, port := 22, source := .v4 ⟨octets⟩, iface := "eth0" }

theorem policy_enforced_restricted : (restrictedCalls.foldl Tracked.step (.start {} bootArgs [])).Enforced ∧
      AcceptedFor (restrictedCalls.foldl Tracked.step (.start {} bootArgs [])).chain "ssh" (sshFrom [10, 1, 2, 3]) ∧
      ¬ AcceptedFor (restrictedCalls.foldl Tracked.step (.start {} bootArgs [])).chain "ssh" (sshFrom [192, 168, 1, 2]) := by
  refine ⟨policy_enforced {} bootArgs [] ?_ (by decide) restrictedCalls ?_, by decide, by decide⟩
  · exact ⟨by decide, by decide, by decide⟩
  · simp only [restrictedCalls, forall_mem_cons, not_mem_nil, false_implies, implies_true, and_true]
    exact ⟨trivial, by decide, by decide⟩

def smartOpened : Tracked :=
  [(Op.setServicePorts .smart [{ port := 9000, transport := .tcp }], []),
    (Op.openService .smart, [])].foldl Tracked.step (.start {} bootArgs [])

def sshMoved : Tracked :=
  (Tracked.start {} bootArgs []).step (.setServicePorts .ssh [{ port := 2222, transport := .tcp }], [])

def sshSourced : Tracked :=
  (Tracked.start {} bootArgs []).step
    (.setServicePorts .ssh [{ port := 22, transport := .tcp, source := some "10.0.0.0/8" }], [])

def sshTwice : Tracked :=
  (Tracked.start {} { bootArgs with enabledProtocols := [(.ssh, false), (.ssh, true)] } []).step (.closeService .ssh, [])

def sshDegraded : Tracked := (Tracked.start {} bootArgs []).step degradedCall

/-- What the theorem leaves out: a service without default ports does not open, ports may bring a
source of their own, of two rules only the first is closed, and a restart takes the default ports of
SSH and a file that was left behind. -/
theorem policy_not_enforced : (smartOpened.policy.Accepts "smart" { sshFrom [10, 0, 0, 1] with port := 9000 } ∧
      ¬ AcceptedFor smartOpened.chain "smart" { sshFrom [10, 0, 0, 1] with port := 9000 }) ∧
    (sshSourced.policy.Accepts "ssh" (sshFrom [192, 168, 1, 2]) ∧
      ¬ AcceptedFor sshSourced.chain "ssh" (sshFrom [192, 168, 1, 2])) ∧
    (¬ sshTwice.policy.Accepts "ssh" (sshFrom [10, 0, 0, 1]) ∧ AcceptedFor sshTwice.chain "ssh" (sshFrom [10, 0, 0, 1])) ∧
    (¬ AcceptedFor sshMoved.chain "ssh" (sshFrom [10, 0, 0, 1]) ∧
      AcceptedFor (Tracked.start sshMoved.rebooted (sshMoved.policy.bootArgs []) []).chain "ssh" (sshFrom [10, 0, 0, 1])) ∧
    (¬ AcceptedFor sshDegraded.chain "ssh" (sshFrom [192, 168, 1, 2]) ∧
      AcceptedFor (Tracked.start sshDegraded.rebooted (sshDegraded.policy.bootArgs []) []).chain "ssh"
        (sshFrom [192, 168, 1, 2])) := by
  decide

end Tracked

end NastyEngine.Firewall
