import NastyEngine.Firewall.Service

/-!
After every operation, whatever failed in it, the kernel runs the configuration in memory, and the
state files describe it except where publishing and the compensating re-apply both failed.
-/

namespace NastyEngine.Firewall
open Lib Rust Fallible

def Host.live (h : Host) (candidate : FirewallConfig) : Host :=
  { h with kernel := some (renderTransaction candidate), config := candidate }

def Host.restored (h : Host) : Host := { h with kernel := some (renderTransaction h.config) }

inductive Outcome (h : Host) : Change → Except FirewallError Unit → Host → Prop
  | kept : Outcome h .keep (.ok ()) h
  | applied (c : FirewallConfig) : Outcome h (.apply c) (.ok ()) (h.live c)
  | published (c : FirewallConfig) (dest : Dest) :
      Outcome h (.persist c dest) (.ok ()) ((h.publish dest c).live c)
  | unchanged (change : Change) (e : String) : Outcome h change (.error (.refused e)) h
  | restored (c : FirewallConfig) (dest : Dest) (e : String) :
      Outcome h (.persist c dest) (.error (.refused e)) h.restored
  | degraded (c : FirewallConfig) (dest : Dest) (e : String) :
      Outcome h (.persist c dest) (.error (.degraded e)) (h.live c)

variable {h : Host} {op : Op} {service : String} {change : Change}

theorem under_applyNftablesWith {c : FirewallConfig} {Q : Except String Unit → Host → Prop}
    (ok : Q (.ok ()) { h with kernel := some (renderTransaction c) }) (failed : ∀ e, Q (.error e) h) :
    Under (applyNftablesWith c) Q h := by
  exact under_bind (under_external (under_external ok failed) failed)

theorem under_commitCandidate_published (c : FirewallConfig) (dest : Dest) :
    Under (commitCandidate h.config c (some dest)) (Outcome h (.persist c dest)) h := by
  refine under_bind (under_mapError (under_applyNftablesWith ?_ fun e => .unchanged _ e))
  refine under_attempt (under_external ?_ fun persistError => ?_)
  · refine under_assign ?_
    have published := Outcome.published (h := h) c dest
    cases dest <;> exact published
  · refine under_attempt (under_applyNftablesWith (under_throw (.restored c dest _)) fun e => ?_)
    exact under_bind (under_assign (under_throw (.degraded c dest _)))

theorem under_perform (h : Host) {change : Change} : Under (perform h.config change) (Outcome h change) h := by
  cases change with
  | keep => exact under_pure .kept
  | apply c =>
    refine under_bind (under_mapError (under_applyNftablesWith ?_ fun e => .unchanged _ e))
    exact under_assign (.applied c)
  | persist c dest =>
    exact under_bind (under_mapError (under_external (under_commitCandidate_published c dest) fun e => .unchanged _ e))

def Change.result (current : FirewallConfig) : Change → FirewallConfig
  | .keep => current
  | .apply candidate => candidate
  | .persist candidate _ => candidate

inductive Op.Leads (op : Op) (h : Host) : Except FirewallError Unit → Host → Prop
  | refused {e : String} (plan : op.plan h = .error e) : Op.Leads op h (.error (.refused e)) h
  | performed {change : Change} {r : Except FirewallError Unit} {t : Host} (plan : op.plan h = .ok change)
      (outcome : Outcome h change r t) : Op.Leads op h r t

theorem Op.under_task (op : Op) (h : Host) : Under op.task (op.Leads h) h := by
  refine under_observe ?_
  cases plan : op.plan h with
  | error e => exact under_throw (.refused plan)
  | ok change => exact under_mono (under_perform h) fun _ _ outcome => .performed plan outcome

theorem Op.Leads.config {t : Host} {r : Except FirewallError Unit} (leads : op.Leads h r t) :
    (∃ e, r = .error (.refused e) ∧ t.config = h.config) ∨ (∀ e, r ≠ .error (.refused e)) ∧
        ∃ change, op.plan h = .ok change ∧ t.config = change.result h.config := by
  cases leads with
  | refused => exact .inl ⟨_, rfl, rfl⟩
  | performed plan outcome =>
    cases outcome with
    | unchanged | restored => exact .inl ⟨_, rfl, rfl⟩
    | kept | applied | published | degraded => exact .inr ⟨nofun, _, plan, rfl⟩

def File.Describes {α : Type} (file : File α) (default value : α) : Prop := file.load default = .ok value

def Host.Describes (h : Host) (dest : Dest) (c : FirewallConfig) : Prop :=
  match dest with
  | .restrictions => h.restrictionsFile.Describes {} c.restrictions
  | .custom => h.customFile.Describes [] c.custom

def SamePart (dest : Dest) (c c' : FirewallConfig) : Prop :=
  match dest with
  | .restrictions => c.restrictions = c'.restrictions
  | .custom => c.custom = c'.custom

def Op.dest : Op → Option Dest
  | .setRestriction .. => some .restrictions
  | .addCustomRule .. | .updateCustomRule .. | .removeCustomRule .. => some .custom
  | _ => none

def Op.reloads : Op → Bool
  | .init _ => true
  | _ => false

def Change.Framed (h : Host) (op : Op) : Change → Prop
  | .keep => op.dest = none ∧ op.reloads = false
  | .apply c => op.dest = none ∧
      ∀ dest, if op.reloads = true then h.Describes dest c else SamePart dest c h.config
  | .persist c dest => op.dest = some dest ∧ op.reloads = false ∧
      ∀ other, other ≠ dest → SamePart other c h.config

theorem framed_of_state (dest : op.dest = none) (reloads : op.reloads = false)
    {state : FirewallState} : (Change.apply { h.config with state }).Framed h op := by
  refine ⟨dest, fun part => ?_⟩
  rw [reloads, if_neg (by decide)]
  cases part <;> rfl

def Op.toggle : Op → Option (String × List PortSpec × Bool)
  | .openService proto => some (proto.name, portsForProtocol proto, true)
  | .closeService proto => some (proto.name, portsForProtocol proto, false)
  | .openRdma => some ("rdma", rdmaPorts, true)
  | .closeRdma => some ("rdma", rdmaPorts, false)
  | .openDc => some ("dc", dcPorts, true)
  | .closeDc => some ("dc", dcPorts, false)
  | _ => none

theorem Op.plan_toggle {base : List PortSpec} {active : Bool}
    (toggle : op.toggle = some (service, base, active)) : op.plan = setRuleActive service base active := by
  cases op <;> cases toggle <;> rfl

theorem toggle_framed {base : List PortSpec} {active : Bool}
    (toggle : op.toggle = some (service, base, active)) (plan : op.plan h = .ok change) : change.Framed h op := by
  obtain ⟨dest, reloads⟩ : op.dest = none ∧ op.reloads = false := by
    cases op <;> cases toggle <;> exact ⟨rfl, rfl⟩
  rw [op.plan_toggle toggle, setRuleActive] at plan
  split at plan
  · cases plan
    exact ⟨dest, reloads⟩
  · split at plan
    · split at plan
      · cases plan
        exact ⟨dest, reloads⟩
      · cases plan
        exact framed_of_state dest reloads
    · cases plan
      exact framed_of_state dest reloads

theorem custom_framed (dest : op.dest = some .custom) (reloads : op.reloads = false)
    {custom : List CustomRule} : (Change.persist { h.config with custom } .custom).Framed h op := by
  refine ⟨dest, reloads, fun other distinct => ?_⟩
  cases other with
  | restrictions => rfl
  | custom => exact absurd rfl distinct

theorem addCustomRule_ok {input : CustomRuleInput} {id : String} {rule : CustomRule}
    (plan : addCustomRule input id h = .ok (rule, change)) :
    refuseServicePorts h.config.state input = .ok () ∧
      change = .persist { h.config with custom := h.config.custom ++ [input.toRule id] } .custom := by
  obtain ⟨_, -, plan⟩ := bind_ok plan
  obtain ⟨_, free, plan⟩ := bind_ok plan
  split at plan
  · cases plan
  · cases plan
    exact ⟨free, rfl⟩

theorem updateCustomRule_ok {input : CustomRuleInput} {id : String} {rule : CustomRule}
    (plan : updateCustomRule id input h = .ok (rule, change)) :
    refuseServicePorts h.config.state input = .ok () ∧
      change = .persist
        { h.config with custom := replaceCustom h.config.custom (input.toRule id) } .custom := by
  obtain ⟨_, -, plan⟩ := bind_ok plan
  obtain ⟨_, free, plan⟩ := bind_ok plan
  dsimp only at plan
  split at plan
  · cases plan
  · split at plan
    · cases plan
    · cases plan
      exact ⟨free, rfl⟩

theorem map_snd_ok {α : Type} {x : Except String (α × Change)} (h : x.map Prod.snd = .ok change) :
    ∃ a, x = .ok (a, change) := by
  rcases x with e | ⟨a, c⟩
  · cases h
  · cases h
    exact ⟨a, rfl⟩

theorem init_ok {args : InitArgs} (plan : init args h = .ok change) :
    ∃ c : FirewallConfig, change = .apply c ∧ h.Describes .restrictions c ∧ h.Describes .custom c ∧
      c.state = ((initialRules args c.restrictions).withPorts c.restrictions .iscsi args.iscsiPorts).withPorts
        c.restrictions .nvmeof args.nvmeofPorts := by
  obtain ⟨restrictions, loaded, plan⟩ := bind_ok plan
  obtain ⟨custom, loaded', plan⟩ := bind_ok plan
  cases plan
  exact ⟨_, rfl, loaded, loaded', rfl⟩

theorem setRestriction_ok {sources ifaces : List String} (plan : setRestriction service sources ifaces h = .ok change) :
    (defaultPorts service).isSome = true ∧ change = .persist { h.config with
      state := h.config.state.updateRule service fun rule =>
        { rule with ports := applyRestrictions (basePorts rule.ports) sources ifaces }
      restrictions := h.config.restrictions.set service sources ifaces } .restrictions := by
  unfold setRestriction at plan
  split at plan
  · cases plan
  · cases plan
  · cases plan
  next known =>
    cases plan
    exact ⟨by rw [known]; rfl, rfl⟩

theorem Op.plan_framed (op : Op) (plan : op.plan h = .ok change) : change.Framed h op := by
  cases op with
  | init args =>
    obtain ⟨c, rfl, restrictions, custom, -⟩ := init_ok plan
    exact ⟨rfl, fun dest => by cases dest <;> assumption⟩
  | openService proto | closeService proto | openRdma | closeRdma | openDc | closeDc =>
    exact toggle_framed rfl plan
  | setProtocolStates | setServicePorts | setPortalPorts =>
    simp only [Op.plan, Firewall.setProtocolStates, Firewall.setServicePorts, Firewall.setPortalPorts] at plan
    split at plan <;> cases plan
    all_goals first
      | exact ⟨rfl, rfl⟩
      | exact framed_of_state rfl rfl
  | setPublishedAppPorts published =>
    simp only [Op.plan, Firewall.setPublishedAppPorts] at plan
    split at plan
    · cases plan
      exact ⟨rfl, rfl⟩
    · cases plan
      exact ⟨rfl, fun dest => by cases dest <;> rfl⟩
  | setRestriction service sources ifaces =>
    obtain ⟨-, rfl⟩ := setRestriction_ok plan
    refine ⟨rfl, rfl, fun other distinct => ?_⟩
    cases other with
    | restrictions => exact absurd rfl distinct
    | custom => rfl
  | addCustomRule input id =>
    obtain ⟨rule, planned⟩ := map_snd_ok plan
    obtain ⟨-, rfl⟩ := addCustomRule_ok planned
    exact custom_framed rfl rfl
  | updateCustomRule id input =>
    obtain ⟨rule, planned⟩ := map_snd_ok plan
    obtain ⟨-, rfl⟩ := updateCustomRule_ok planned
    exact custom_framed rfl rfl
  | removeCustomRule id =>
    simp only [Op.plan, Firewall.removeCustomRule] at plan
    split at plan
    · cases plan
    · cases plan
      exact custom_framed rfl rfl

structure Service where
  host : Host
  stale : Dest → Bool := fun _ => false

/-- A successful write repairs its file, a degraded one leaves it behind, starting up reads both. -/
def Op.staleAfter (op : Op) (r : Except FirewallError Unit) (stale : Dest → Bool) (dest : Dest) : Bool :=
  match r with
  | .ok _ => if op.reloads = true ∨ op.dest = some dest then false else stale dest
  | .error (.degraded _) => if op.dest = some dest then true else stale dest
  | .error (.refused _) => stale dest

def Service.step (s : Service) (call : Op × List (Option String)) : Service :=
  let (r, t) := run call.1.task ⟨s.host, call.2⟩
  { host := t.state, stale := call.1.staleAfter r s.stale }

/-- The kernel runs what is in memory, and the files that are not stale describe it. -/
structure Service.Agrees (s : Service) : Prop where
  kernel : s.host.kernel = some (renderTransaction s.host.config)
  disk : ∀ dest, s.stale dest = false → s.host.Describes dest s.host.config

/-- A failed operation leaves kernel, memory and disk unchanged, except that a degraded one has put
its candidate into the kernel and into memory. -/
def Service.FailsCleanly (s : Service) (call : Op × List (Option String)) : Prop :=
  match run call.1.task ⟨s.host, call.2⟩ with
  | (.ok _, _) => True
  | (.error (.refused _), t) => t.state = s.host
  | (.error (.degraded _), t) => ∃ candidate dest, call.1.plan s.host = .ok (.persist candidate dest) ∧
      t.state = s.host.live candidate

theorem describes_of_samePart {dest : Dest} {c c' : FirewallConfig}
    (same : SamePart dest c c') (describes : h.Describes dest c') : h.Describes dest c := by
  cases dest with
  | restrictions =>
    unfold Host.Describes
    rw [show c.restrictions = c'.restrictions from same]
    exact describes
  | custom =>
    unfold Host.Describes
    rw [show c.custom = c'.custom from same]
    exact describes

theorem describes_publish_other {dest other : Dest} (distinct : other ≠ dest)
    (written c : FirewallConfig) (describes : h.Describes other c) :
    (h.publish dest written).Describes other c := by
  cases dest <;> cases other
  · exact absurd rfl distinct
  · exact describes
  · exact describes
  · exact absurd rfl distinct

variable {s : Service}

section
variable (agrees : s.Agrees)
include agrees

theorem Service.Agrees.restored : s.host.restored = s.host := by
  unfold Host.restored
  rw [← agrees.kernel]

theorem Service.Agrees.leads {r : Except FirewallError Unit} {t : Host} (leads : op.Leads s.host r t) :
    ({ host := t, stale := op.staleAfter r s.stale } : Service).Agrees := by
  cases leads with
  | refused => exact ⟨agrees.kernel, agrees.disk⟩
  | performed plan outcome =>
    have framed := op.plan_framed plan
    cases outcome with
    | unchanged => exact ⟨agrees.kernel, agrees.disk⟩
    | restored =>
      rw [agrees.restored]
      exact ⟨agrees.kernel, agrees.disk⟩
    | kept =>
      obtain ⟨writes, reloads⟩ := framed
      refine ⟨agrees.kernel, fun dest current => agrees.disk dest ?_⟩
      simpa [Op.staleAfter, writes, reloads] using current
    | applied c =>
      obtain ⟨writes, parts⟩ := framed
      refine ⟨rfl, fun dest current => ?_⟩
      have part := parts dest
      cases reloads : op.reloads with
      | true =>
        rw [if_pos reloads] at part
        exact part
      | false =>
        rw [reloads, if_neg (by decide)] at part
        refine @describes_of_samePart s.host dest c s.host.config part (agrees.disk dest ?_)
        simpa [Op.staleAfter, writes, reloads] using current
    | published c dest =>
      obtain ⟨writes, reloads, parts⟩ := framed
      refine ⟨rfl, fun other current => ?_⟩
      by_cases own : other = dest
      · subst own
        cases other <;> rfl
      · refine describes_publish_other own c c (describes_of_samePart (parts other own) (agrees.disk other ?_))
        simpa [Op.staleAfter, writes, reloads, Ne.symm own] using current
    | degraded c dest e =>
      obtain ⟨writes, -, parts⟩ := framed
      refine ⟨rfl, fun other current => ?_⟩
      by_cases own : other = dest
      · simp [Op.staleAfter, writes, own] at current
      · refine describes_of_samePart (parts other own) (agrees.disk other ?_)
        simpa [Op.staleAfter, writes, Ne.symm own] using current

theorem Service.Agrees.step {call : Op × List (Option String)} : (s.step call).Agrees :=
  agrees.leads (call.1.under_task s.host call.2)

theorem Service.Agrees.failsCleanly (call : Op × List (Option String)) : s.FailsCleanly call := by
  have leads := call.1.under_task s.host call.2
  unfold Service.FailsCleanly
  rcases ran : run call.1.task ⟨s.host, call.2⟩ with ⟨r, host, rest⟩
  rw [ran] at leads
  cases leads with
  | refused => rfl
  | performed plan outcome =>
    cases outcome with
    | kept | applied | published => trivial
    | unchanged => rfl
    | restored => exact agrees.restored
    | degraded c dest e => exact ⟨c, dest, plan, rfl⟩

theorem Service.Agrees.steps (calls : List (Op × List (Option String))) : (calls.foldl Service.step s).Agrees := by
  induction calls generalizing s with
  | nil => exact agrees
  | cons call rest ih => exact ih agrees.step

end

def Service.start (h : Host) (args : InitArgs) (faults : List (Option String)) : Service :=
  { host := (run (Op.init args).task ⟨h, faults⟩).2.state }

theorem Service.start_agrees {args : InitArgs} {faults : List (Option String)}
    (started : (run (Op.init args).task ⟨h, faults⟩).1 = .ok ()) :
    (Service.start h args faults).Agrees := by
  have leads := (Op.init args).under_task h faults
  rw [started] at leads
  unfold Service.start
  generalize (run (Op.init args).task ⟨h, faults⟩).2.state = host at leads
  cases leads with
  | performed plan outcome =>
    obtain ⟨c, rfl, restrictions, custom, -⟩ := init_ok plan
    cases outcome with
    | applied => exact ⟨rfl, fun dest _ => by cases dest <;> assumption⟩

/-- After a successful start, through any operations and any failures: kernel, memory and disk agree
except where a degraded operation was reported, and every other failing operation changes nothing. -/
theorem firewall_agreement (h : Host) (args : InitArgs) (faults : List (Option String))
    (started : (run (Op.init args).task ⟨h, faults⟩).1 = .ok ())
    (calls : List (Op × List (Option String))) :
    (calls.foldl Service.step (.start h args faults)).Agrees ∧
      ∀ call, (calls.foldl Service.step (.start h args faults)).FailsCleanly call := by
  have agrees := (Service.start_agrees started).steps calls
  exact ⟨agrees, agrees.failsCleanly⟩

def bootArgs : InitArgs :=
  { enabledProtocols := Protocol.all.map fun proto => (proto, true)
    iscsiPorts := portsForProtocol .iscsi, nvmeofPorts := portsForProtocol .nvmeof }

def degradedCall : Op × List (Option String) :=
  (.setRestriction "ssh" ["10.0.0.0/8"] [], [none, none, none, some "rename", some "check"])

theorem firewall_agreement_degraded : (Service.step (.start {} bootArgs []) degradedCall).stale .restrictions = true ∧
      (Service.step (.start {} bootArgs []) degradedCall).Agrees ∧
      (Service.start {} bootArgs []).FailsCleanly degradedCall := by
  have started : (run (Op.init bootArgs).task ⟨{}, []⟩).1 = .ok () := by decide
  exact ⟨by decide, (firewall_agreement {} bootArgs [] started [degradedCall]).1,
    (firewall_agreement {} bootArgs [] started []).2 degradedCall⟩

end NastyEngine.Firewall
