import NastyEngine.Auth.Lifetime

/-!
A WebSocket is authenticated when it is opened. `handle_socket` then serves RPC requests over it and
`handle_terminal` a root shell, while logouts, deletions and the clock go on beside them.
-/

namespace NastyEngine.Auth
open Lib

inductive EndpointAccess where
  | read
  | mutation
  | unscopedMutation
  | rootEquivalent
  | selfService
  | portalFiles
  deriving DecidableEq

inductive AccessDenied where
  | passwordChangeRequired
  | insufficientRole
  | scopedCredential
  | missingFilePrincipal
  | interactiveSessionRequired
  deriving DecidableEq

def roleAllowed (role : Role) : EndpointAccess → Bool
  | .read => role ≠ .user
  | .selfService => true
  | .mutation | .unscopedMutation => role = .admin ∨ role = .operator
  | .rootEquivalent => role = .admin
  | .portalFiles => role = .user

def authorizeSession (session : Session) (access : EndpointAccess) : Except AccessDenied Unit := do
  require (session.mustChangePassword = false ∨ access = .selfService) .passwordChangeRequired
  require (roleAllowed session.role access = true) .insufficientRole
  require (access ∈ [.unscopedMutation, .rootEquivalent, .portalFiles] →
    session.filesystem = none ∧ session.owner = none) .scopedCredential
  require (access = .portalFiles → session.clientIp ≠ none) .interactiveSessionRequired
  require (access = .portalFiles → session.filePrincipal.any (· ≠ "") = true) .missingFilePrincipal

namespace Sockets

inductive Message where
  | text (text : String)
  | binary (data : List UInt8)
  | ping
  | pong
  | close
  deriving DecidableEq

inductive Turn where
  | stay
  | stop
  | execute (request : String) (session : Session)
  | resize (rows cols : Nat)
  | write (input : List UInt8)
  deriving DecidableEq

def Turn.Acts : Turn → Prop
  | .stay | .stop => False
  | .execute .. | .resize .. | .write _ => True

def sessionSecurityContextUnchanged (initial fresh : Session) : Bool :=
  initial.token = fresh.token ∧ initial.username = fresh.username ∧ initial.role = fresh.role ∧
    initial.filePrincipal = fresh.filePrincipal ∧ initial.filesystem = fresh.filesystem ∧
    initial.owner = fresh.owner ∧ initial.createdAt = fresh.createdAt ∧ initial.clientIp = fresh.clientIp

variable (verifyPassword : String → String → Except AuthError Unit) (hashToken : String → String)

def revalidate (state : AuthState) (now : Nat) (onFilesDomain : Bool) (session : Session) (clientIp : String) :
    Option Session :=
  match validate hashToken state session.token clientIp now with
  | .ok fresh =>
    if sessionSecurityContextUnchanged session fresh ∧ (onFilesDomain = false ∨ fresh.role = .user) then some fresh
    else none
  | .error _ => none

def handleSocket (revalidated : Option Session) : Message → Turn
  | .text request =>
    match revalidated with
    | some fresh => .execute request fresh
    | none => .stop
  | .close => .stop
  | .ping | .pong | .binary _ => .stay

structure ControlMessage where
  msgType : String
  cols : Nat := 80
  rows : Nat := 24
  deriving DecidableEq

def handleTerminal (parseControl : String → Option ControlMessage) : Message → Turn
  | .text text =>
    match (parseControl text).filter (·.msgType = "resize") with
    | some control => .resize control.rows control.cols
    | none => .write text.toUTF8.data.toList
  | .binary data => .write data
  | .close => .stop
  | .ping | .pong => .stay

inductive Endpoint where
  | rpc (onFilesDomain : Bool)
  | terminal
  deriving DecidableEq

/-- `session` is the one that the connection was opened with. The loop of a terminal does not have it. -/
structure Connection where
  endpoint : Endpoint
  session : Session
  clientIp : String
  deriving DecidableEq

structure Wired where
  svc : Service
  clock : Nat
  connections : List Connection := []

def Wired.dropIf (s : Wired) (ended : Prop) [Decidable ended] (c : Connection) : Wired :=
  { s with connections := if ended then s.connections.erase c else s.connections }

/-- `resolve_session` with the check for the files domain, and `wait_for_terminal_auth`. -/
def Wired.accept (s : Wired) (endpoint : Endpoint) (token clientIp : String) : Option Connection :=
  match validate hashToken s.svc.state token clientIp s.clock with
  | .error _ => none
  | .ok session =>
    match endpoint with
    | .rpc onFilesDomain => if onFilesDomain = true ∧ session.role ≠ .user then none else some ⟨endpoint, session, clientIp⟩
    | .terminal => (authorizeSession session .rootEquivalent).toOption.map fun _ => ⟨endpoint, session, clientIp⟩

def Connection.revalidated (c : Connection) (s : Wired) (onFilesDomain : Bool) : Option Session :=
  revalidate hashToken s.svc.state s.clock onFilesDomain c.session c.clientIp

section System
variable (parseControl : String → Option ControlMessage)

def Connection.turn (c : Connection) (s : Wired) (message : Message) : Turn :=
  match c.endpoint with
  | .rpc onFilesDomain => handleSocket (c.revalidated hashToken s onFilesDomain) message
  | .terminal => handleTerminal parseControl message

inductive Event where
  | auth (label : Option Op)
  | advance
  | connect (endpoint : Endpoint) (token clientIp : String)
  | message (c : Connection) (message : Message)
  | ping (c : Connection)
  | close (c : Connection)

/-- A connection ends by its loop, or from outside at any time: by the peer, an idle timeout, a
failed write or with the engine. -/
inductive Step : Wired → Event → Wired → Prop
  | auth {s : Wired} {label : Option Op} {svc : Service} (step : s.svc.Step verifyPassword label svc) :
      Step s (.auth label) { s with svc }
  | advance {s : Wired} {now : Nat} (later : s.clock ≤ now) (bounded : now < 2 ^ 64) :
      Step s .advance { s with clock := now }
  | connect (s : Wired) (endpoint : Endpoint) (token clientIp : String) :
      Step s (.connect endpoint token clientIp)
        { s with connections := (s.accept hashToken endpoint token clientIp).toList ++ s.connections }
  | message {s : Wired} {c : Connection} (member : c ∈ s.connections) (message : Message) :
      Step s (.message c message) (s.dropIf (c.turn hashToken parseControl s message = .stop) c)
  | ping {s : Wired} {c : Connection} {onFilesDomain : Bool} (member : c ∈ s.connections)
      (rpc : c.endpoint = .rpc onFilesDomain) :
      Step s (.ping c) (s.dropIf (c.revalidated hashToken s onFilesDomain = none) c)
  | close (s : Wired) (c : Connection) : Step s (.close c) (s.dropIf True c)

end System

/-- The auth state grants the session to this address: the same user, role, scope and principal under
the same token, and not for longer than it lasts. -/
def InForce (state : AuthState) (now : Nat) (x : Session) (clientIp : String) : Prop :=
  (∃ y ∈ state.sessions, y.core = x.core ∧ now - y.createdAt ≤ sessionTtlSecs ∧ ∀ ip ∈ y.clientIp, ip = clientIp) ∨
    ∃ a ∈ state.apiTokens, a.token = hashToken x.token ∧ (a.session x.token).core = x.core ∧
      (∀ ends ∈ a.expiresAt, now < ends) ∧ (a.allowedIps = [] ∨ clientIp ∈ a.allowedIps)

/-- The operation hands the token out: to a login, or as an API token, of which it stores the hash. -/
def Draws (token : String) : Op → Prop
  | .createApiToken _ _ _ tokenHash _ => tokenHash = hashToken token
  | op => op.opens = some token

def Event.Draws (token : String) : Event → Prop
  | .auth (some op) => Sockets.Draws hashToken token op
  | _ => False

def Connection.InForce (c : Connection) (s : Wired) : Prop :=
  Sockets.InForce hashToken s.svc.state s.clock c.session c.clientIp

variable {verifyPassword hashToken} {parseControl : String → Option ControlMessage} {state next : AuthState} {now : Nat}
  {x fresh : Session} {token clientIp : String}

theorem validate_ok (ok : validate hashToken state token clientIp now = .ok fresh) : fresh.token = token ∧
      ((fresh ∈ state.sessions ∧ ¬ sessionTtlSecs < wrappingSub now fresh.createdAt ∧
          ∀ ip ∈ fresh.clientIp, ip = clientIp) ∨
        ∃ a ∈ state.apiTokens, a.token = hashToken token ∧ fresh = a.session token ∧
          (∀ ends ∈ a.expiresAt, now < ends) ∧ (a.allowedIps = [] ∨ clientIp ∈ a.allowedIps)) := by
  unfold validate at ok
  cases stored : validateSession state token clientIp now with
  | some answer =>
    rw [stored, Option.getD_some] at ok
    obtain ⟨session, eq, answered⟩ := Option.map_eq_some_iff.mp stored
    rw [ok] at answered
    split at answered
    · cases answered
    next recent =>
      split at answered
      · cases answered
      next bound =>
        cases answered
        refine ⟨by simpa using List.find?_some eq, .inl ⟨List.mem_of_find?_eq_some eq, recent, ?_⟩⟩
        intro ip mem
        rw [Option.mem_def.mp mem] at bound
        simpa using bound
  | none =>
    rw [stored, Option.getD_none] at ok
    obtain ⟨a, eq, ok⟩ := bind_ok ok
    have eq := okOr_ok eq
    obtain ⟨_, lasts, ok⟩ := bind_ok ok
    obtain ⟨_, allowed, ok⟩ := bind_ok ok
    cases ok
    have named : a.token = hashToken token := by simpa using List.find?_some eq
    refine ⟨rfl, .inr ⟨a, List.mem_of_find?_eq_some eq, named, rfl, ?_, require_ok allowed⟩⟩
    intro ends mem
    have lasts := require_ok lasts
    rw [Option.mem_def.mp mem] at lasts
    simpa using lasts

theorem validate_inForce (bounded : now < 2 ^ 64) (ok : validate hashToken state token clientIp now = .ok fresh) :
    InForce hashToken state now fresh clientIp := by
  obtain ⟨rfl, ⟨mem, recent, bound⟩ | ⟨a, mem, named, eq, lasts, allowed⟩⟩ := validate_ok ok
  · refine .inl ⟨fresh, mem, rfl, ?_, bound⟩
    by_cases past : fresh.createdAt ≤ now
    · rw [wrappingSub_of_le past bounded] at recent
      omega
    · omega
  · exact .inr ⟨a, mem, named, congrArg Session.core eq.symm, lasts, allowed⟩

theorem InForce.earlier {before : Nat} (le : before ≤ now) (holds : InForce hashToken state now x clientIp) :
    InForce hashToken state before x clientIp := by
  rcases holds with ⟨y, mem, eq, recent, bound⟩ | ⟨a, mem, named, eq, lasts, allowed⟩
  · exact .inl ⟨y, mem, eq, by omega, bound⟩
  · exact .inr ⟨a, mem, named, eq, fun ends h => le.trans_lt (lasts ends h), allowed⟩

theorem apiTokens_origin {op : Op} (plan : op.plan verifyPassword state = .ok next) :
    ∀ a ∈ next.apiTokens, a ∈ state.apiTokens ∨ ∀ token, a.token = hashToken token → Draws hashToken token op := by
  intro a mem
  cases op with
  | createApiToken =>
    iterate 3 obtain ⟨_, _, plan⟩ := bind_ok plan
    cases plan
    rcases List.mem_append.mp mem with old | new
    · exact .inl old
    · rw [List.mem_singleton.mp new]
      exact .inr fun _ eq => eq
  | deleteApiToken =>
    iterate 2 obtain ⟨_, _, plan⟩ := bind_ok plan
    cases plan
    exact .inl (List.mem_of_mem_filter mem)
  | _ =>
    have eq : next.apiTokens = state.apiTokens := by
      refine (?_ : Returns (fun t => t.apiTokens = state.apiTokens) _) next plan
      repeat' first | exact returns_ok rfl | refine returns_bind fun _ => ?_
    exact .inl (eq ▸ mem)

/-- What is not in force comes back only under a token that is handed out again. -/
theorem InForce.before {op : Op} (plan : op.plan verifyPassword state = .ok next)
    (ne : ¬ Draws hashToken x.token op) (holds : InForce hashToken next now x clientIp) :
    InForce hashToken state now x clientIp := by
  rcases holds with ⟨z, mem, eq, recent, bound⟩ | ⟨a, mem, named, rest⟩
  · rcases (Op.plan_turns plan).origin z mem with ⟨y, earlier, continued⟩ | opened
    · refine .inl ⟨y, earlier, continued.symm.trans eq, ?_, ?_⟩
      · rwa [← Session.createdAt_of_core continued]
      · rwa [← Session.clientIp_of_core continued]
    · rw [Session.token_of_core eq] at opened
      refine absurd ?_ ne
      cases op <;> first | exact opened | cases opened
  · rcases apiTokens_origin plan a mem with earlier | drawn
    · exact .inr ⟨a, earlier, named, rest⟩
    · exact absurd (drawn _ named) ne

structure Inv (s : Wired) : Prop where
  agrees : s.svc.Agrees
  bounded : s.clock < 2 ^ 64

variable {s t : Wired} {event : Event} {c : Connection}

theorem Inv.step (inv : Inv s) (step : Step verifyPassword hashToken parseControl s event t) : Inv t := by
  cases step with
  | auth step => exact ⟨(step.effect inv.agrees).1, inv.bounded⟩
  | advance _ bounded => exact ⟨inv.agrees, bounded⟩
  | connect | message | ping | close => exact ⟨inv.agrees, inv.bounded⟩

theorem Connection.InForce.before (inv : Inv s) (step : Step verifyPassword hashToken parseControl s event t)
    (ne : ¬ event.Draws hashToken c.session.token) (holds : c.InForce hashToken t) : c.InForce hashToken s := by
  cases step with
  | auth step =>
    obtain ⟨-, unchanged | ⟨op, rfl, plan⟩⟩ := step.effect inv.agrees
    · unfold Connection.InForce at holds ⊢
      rwa [unchanged] at holds
    · exact .before plan ne holds
  | advance later => exact holds.earlier later
  | connect | message | ping | close => exact holds

theorem unchanged_core (same : sessionSecurityContextUnchanged x fresh = true) : fresh.core = x.core := by
  simp only [sessionSecurityContextUnchanged, decide_eq_true_eq] at same
  obtain ⟨h₁, h₂, h₃, h₄, h₅, h₆, h₇, h₈⟩ := same
  simp only [Session.core, h₁, h₂, h₃, h₄, h₅, h₆, h₇, h₈]

theorem revalidate_some {onFilesDomain : Bool}
    (eq : revalidate hashToken state now onFilesDomain x clientIp = some fresh) :
    validate hashToken state x.token clientIp now = .ok fresh ∧ fresh.core = x.core := by
  unfold revalidate at eq
  split at eq
  next ok =>
    split at eq
    next same =>
      cases eq
      exact ⟨ok, unchanged_core same.1⟩
    · cases eq
  · cases eq

def Message.IsInput : Message → Prop
  | .text _ | .binary _ => True
  | .ping | .pong | .close => False

theorem handleTerminal_acts (message : Message) : (handleTerminal parseControl message).Acts ↔ message.IsInput := by
  cases message with
  | text text =>
    simp only [handleTerminal]
    split <;> exact Iff.rfl
  | binary | ping | pong | close => exact Iff.rfl

theorem execute_revalidated {request : String} {message : Message}
    (executed : c.turn hashToken parseControl s message = .execute request fresh) :
    message = .text request ∧ ∃ onFilesDomain, c.revalidated hashToken s onFilesDomain = some fresh := by
  unfold Connection.turn at executed
  split at executed
  next onFilesDomain _ =>
    unfold handleSocket at executed
    split at executed
    · split at executed
      next eq =>
        cases executed
        exact ⟨rfl, onFilesDomain, eq⟩
      · cases executed
    all_goals cases executed
  · unfold handleTerminal at executed
    split at executed
    · split at executed <;> cases executed
    all_goals cases executed

/-- After its session has ended or changed a connection acts on nothing, unless it is a terminal, which acts
on every input. What is executed runs with the session that the auth state has. -/
theorem revocation_reaches {d : Disk} {svc : Service} {clock : Nat} {earlier later : List Event}
    (starts : Starts d svc) (bounded : clock < 2 ^ 64)
    (before : Run (Step verifyPassword hashToken parseControl) { svc, clock } earlier s)
    (ended : ¬ c.InForce hashToken s)
    (after : Run (fun s event t => Step verifyPassword hashToken parseControl s event t ∧
      ¬ event.Draws hashToken c.session.token) s later t) :
    (∀ message, (c.turn hashToken parseControl t message).Acts ↔ c.endpoint = .terminal ∧ message.IsInput) ∧
      ∀ (open' : Connection) (message : Message) (request : String) (session : Session),
        open'.turn hashToken parseControl t message = .execute request session →
          message = .text request ∧ open'.InForce hashToken t ∧ session.core = open'.session.core ∧
          (session ∈ t.svc.state.sessions ∨ ∃ a ∈ t.svc.state.apiTokens, session = a.session open'.session.token) := by
  have inv : Inv s := Run.invariant (I := Inv) ⟨starts_agrees starts, bounded⟩ (fun _ _ _ inv step => inv.step step)
    before
  obtain ⟨inv, ended⟩ : Inv t ∧ ¬ c.InForce hashToken t := by
    refine Run.invariant (I := fun s => Inv s ∧ ¬ c.InForce hashToken s) ⟨inv, ended⟩ ?_ after
    intro s event t ⟨inv, ended⟩ ⟨step, other⟩
    exact ⟨inv.step step, fun holds => ended (holds.before inv step other)⟩
  have inForce {c : Connection} {onFilesDomain : Bool} {fresh : Session}
      (found : c.revalidated hashToken t onFilesDomain = some fresh) : c.InForce hashToken t := by
    obtain ⟨ok, same⟩ := revalidate_some found
    have holds := validate_inForce inv.bounded ok
    unfold InForce at holds
    rwa [same, Session.token_of_core same] at holds
  constructor
  · intro message
    unfold Connection.turn
    split
    next onFilesDomain rpc =>
      rw [rpc]
      refine ⟨fun acts => ?_, fun terminal => by cases terminal.1⟩
      cases found : c.revalidated hashToken t onFilesDomain with
      | none =>
        rw [found] at acts
        cases message <;> exact False.elim acts
      | some fresh => exact absurd (inForce found) ended
    next terminal =>
      rw [terminal, handleTerminal_acts]
      exact (and_iff_right rfl).symm
  · intro c message request session executed
    obtain ⟨rfl, onFilesDomain, found⟩ := execute_revalidated executed
    obtain ⟨ok, same⟩ := revalidate_some found
    refine ⟨rfl, inForce found, same, ?_⟩
    obtain ⟨-, ⟨member, -⟩ | ⟨a, member, -, session, -⟩⟩ := validate_ok ok
    · exact .inl member
    · exact .inr ⟨a, member, session⟩

def adminLogin : Op := .mintSessionForWebauthn "admin" "10.0.0.2" 7 "token"

def loggedIn : Service := (booted "hash").serve (fun _ _ => .ok ()) [adminLogin]

def loggedOut : Service := loggedIn.serve (fun _ _ => .ok ()) [.logout "token"]

def shell : Connection :=
  ⟨.terminal, ⟨"token", "admin", .admin, none, none, none, 7, false, some "10.0.0.2"⟩, "10.0.0.2"⟩

def connected : Wired := { svc := loggedIn, clock := 7, connections := [shell] }

def disconnected : Wired := { connected with svc := loggedOut }

theorem loggedOut_ended : ¬ shell.InForce id disconnected := by
  rintro (⟨y, mem, -⟩ | ⟨a, mem, -⟩)
  · cases mem
  · cases mem

theorem disconnected_reached : Run (Step (fun _ _ => .ok ()) id fun _ => none) { svc := booted "hash", clock := 7 }
    [.auth (some adminLogin), .connect .terminal "token" "10.0.0.2", .auth (some (.logout "token"))] disconnected :=
  .snoc (.snoc (.snoc (.nil _) (.auth (.call _ adminLogin "0" fun _ => none)))
    (show Step _ _ _ _ _ connected from .connect _ .terminal "token" "10.0.0.2"))
      (.auth (.call _ (.logout "token") "0" fun _ => none))

/-- The terminal of a session that has logged out still types. -/
theorem shell_outlives_logout : Run (Step (fun _ _ => .ok ()) id fun _ => none) { svc := booted "hash", clock := 7 }
      [.auth (some adminLogin), .connect .terminal "token" "10.0.0.2", .auth (some (.logout "token"))] disconnected ∧
      shell ∈ disconnected.connections ∧ ¬ shell.InForce id disconnected ∧
      shell.turn id (fun _ => none) disconnected (.binary [0x69, 0x64, 0x0a]) = .write [0x69, 0x64, 0x0a] :=
  ⟨disconnected_reached, List.mem_singleton_self _, loggedOut_ended, rfl⟩

def rpc : Connection := { shell with endpoint := .rpc false }

theorem revocation_reaches_rpc : ¬ (rpc.turn id (fun _ => none) disconnected (.text "request")).Acts := by
  intro acts
  have exact := (revocation_reaches (c := rpc) starts_booted (by decide) disconnected_reached loggedOut_ended (.nil _)).1
  cases ((exact (.text "request")).mp acts).1

end Sockets

end NastyEngine.Auth
