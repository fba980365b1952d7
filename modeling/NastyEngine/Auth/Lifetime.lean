import NastyEngine.Auth.Service

/-!
A login reads the clock when it arrives and commits later, when it gets the write lock. A validation
that finds a session too old drops it under a later write lock. Other calls run in between.
-/

namespace NastyEngine.Auth
open Lib List

/-- What stays the same in a session: a password change lifts the demand for one. -/
def Session.core (x : Session) : Session := { x with mustChangePassword := false }

def Op.Revokes (s : AuthState) (x : Session) : Op → Prop
  | .logout token => x.token = token
  | .changePassword session username _ _ =>
    x.username = username ∧ ¬ (username = session.username ∧ x.token = session.token)
  | .deleteUser _ username => x.username = username
  | .loginOrProvisionOidc identity derivedRole _ _ _ _ =>
    ∃ u role, s.users.find? identity.matches = some u ∧ derivedRole = some role ∧ u.role ≠ role ∧ x.username = u.username
  | _ => False

def Op.Prunes (x : Session) : Op → Prop
  | .login call _ => sessionTtlSecs < wrappingSub call.now x.createdAt
  | .loginOrProvisionOidc _ _ _ _ now _ | .mintSessionForWebauthn _ _ now _ =>
    sessionTtlSecs < wrappingSub now x.createdAt
  | .dropSession token => x.token = token
  | _ => False

def Op.opens : Op → Option String
  | .login _ token | .loginOrProvisionOidc _ _ _ _ _ token | .mintSessionForWebauthn _ _ _ token => some token
  | _ => none

structure Op.Turns (op : Op) (s t : AuthState) : Prop where
  kept : ∀ y ∈ s.sessions, ¬ op.Revokes s y → ¬ op.Prunes y → ∃ z ∈ t.sessions, z.core = y.core
  origin : ∀ z ∈ t.sessions, (∃ y ∈ s.sessions, z.core = y.core) ∨ op.opens = some z.token

variable {verifyPassword : String → String → Except AuthError Unit} {op : Op} {s t : AuthState}

theorem turns_same (eq : t.sessions = s.sessions) : op.Turns s t := by
  constructor
  · intro y hy _ _
    exact ⟨y, eq ▸ hy, rfl⟩
  · intro z hz
    exact .inl ⟨z, eq ▸ hz, rfl⟩

theorem turns_filter {keep : Session → Bool} (filtered : t.sessions = s.sessions.filter keep)
    (keeps : ∀ y, ¬ op.Revokes s y → ¬ op.Prunes y → keep y = true) : op.Turns s t := by
  constructor
  · intro y hy valid live
    exact ⟨y, filtered ▸ mem_filter.mpr ⟨hy, keeps y valid live⟩, rfl⟩
  · intro z hz
    rw [filtered] at hz
    exact .inl ⟨z, mem_of_mem_filter hz, rfl⟩

variable {now : Nat} {token : String} {svc : Service}

theorem turns_opened {left : List Session} {opened : Session}
    (committed : t.sessions = retainLive now left ++ [opened]) (token : op.opens = some opened.token)
    (fewer : ∀ y ∈ left, y ∈ s.sessions) (keeps : ∀ y ∈ s.sessions, ¬ op.Revokes s y → y ∈ left)
    (prunes : ∀ y, sessionTtlSecs < wrappingSub now y.createdAt → op.Prunes y) : op.Turns s t := by
  constructor
  · intro y hy valid live
    have recent : ¬ sessionTtlSecs < wrappingSub now y.createdAt := fun old => live (prunes y old)
    refine ⟨y, ?_, rfl⟩
    rw [committed]
    exact mem_append_left _ (mem_filter.mpr ⟨keeps y hy valid, by simpa using recent⟩)
  · intro z hz
    rw [committed] at hz
    rcases mem_append.mp hz with old | new
    · exact .inl ⟨z, fewer z (mem_of_mem_filter old), rfl⟩
    · rw [mem_singleton.mp new]
      exact .inr token

theorem oidc_turns {identity : OidcIdentity} {derivedRole : Option Role} {autoProvision : Bool}
    {clientIp : String} (h : loginOrProvisionOidc identity derivedRole autoProvision clientIp now token s = .ok t) :
    (Op.loginOrProvisionOidc identity derivedRole autoProvision clientIp now token).Turns s t := by
  obtain ⟨role, derived, h⟩ := bind_ok h
  have derived := okOr_ok derived
  obtain ⟨_, -, h⟩ := bind_ok h
  obtain ⟨⟨users, prior⟩, resolved, h⟩ := bind_ok h
  cases h
  refine turns_opened rfl rfl ?_ ?_ fun _ old => old
  · intro y hy
    split at hy
    · exact mem_of_mem_filter hy
    · exact hy
  · intro y hy valid
    split
    next changed =>
      refine mem_filter.mpr ⟨hy, ?_⟩
      unfold resolveOidcUser at resolved
      split at resolved
      next hit =>
        cases resolved
        exact decide_eq_true fun eq => valid ⟨prior, role, hit, derived, changed, eq⟩
      · split at resolved
        · cases resolved
          exact absurd rfl changed
        · cases resolved
    · exact hy

theorem changePassword_turns {session : Session} {username newPassword : String}
    {hashed : Except AuthError String} (h : changePassword session username newPassword hashed s = .ok t) :
    (Op.changePassword session username newPassword hashed).Turns s t := by
  iterate 3 obtain ⟨_, _, h⟩ := bind_ok h
  obtain ⟨_, _, h⟩ := bind_ok h
  obtain ⟨hash, _, h⟩ := bind_ok h
  cases h
  have cores := map_after_password_change (f := Session.core) (fun _ => rfl) s.sessions username session.username
    session.token
  constructor
  · intro y hy valid _
    have kept : y ∈ s.sessions.filter fun s =>
        s.username ≠ username ∨ (username = session.username ∧ s.token = session.token) := by
      refine mem_filter.mpr ⟨hy, decide_eq_true ?_⟩
      by_cases same : y.username = username
      · exact .inr (not_not.mp fun ne => valid ⟨same, ne⟩)
      · exact .inl same
    have mem := mem_map_of_mem (f := Session.core) kept
    rw [← cores] at mem
    exact mem_map.mp mem
  · intro z hz
    have mem := mem_map_of_mem (f := Session.core) hz
    rw [cores] at mem
    obtain ⟨y, hy, same⟩ := mem_map.mp mem
    exact .inl ⟨y, mem_of_mem_filter hy, same.symm⟩

theorem Op.plan_turns (planned : op.plan verifyPassword s = .ok t) : op.Turns s t := by
  cases op with
  | loginOrProvisionOidc => exact oidc_turns planned
  | login | mintSessionForWebauthn =>
    obtain ⟨user, _, h⟩ := bind_ok planned
    cases h
    exact turns_opened rfl rfl (fun _ hy => hy) (fun _ hy _ => hy) fun _ old => old
  | dropSession =>
    cases planned
    exact turns_filter rfl fun _ _ live => decide_eq_true live
  | logout =>
    obtain ⟨_, _, h⟩ := bind_ok planned
    cases h
    exact turns_filter rfl fun _ valid _ => decide_eq_true valid
  | changePassword => exact changePassword_turns planned
  | deleteUser =>
    iterate 3 obtain ⟨_, _, planned⟩ := bind_ok planned
    cases planned
    exact turns_filter rfl fun _ valid _ => decide_eq_true valid
  | createApiToken | deleteApiToken | createUser | addWebauthnCredential | removeWebauthnCredential
  | resetWebauthnCredentials | updateWebauthnSignCount =>
    refine turns_same ((?_ : Returns (fun t => t.sessions = s.sessions) _) t planned)
    repeat' first | exact returns_ok rfl | refine returns_bind fun _ => ?_

theorem Service.Step.turns {svc' : Service} (agrees : svc.Agrees)
    (step : Service.Step verifyPassword svc (some op) svc') : op.Turns svc.state svc'.state := by
  obtain ⟨-, unchanged | ⟨op', same, planned⟩⟩ := step.effect agrees
  · exact turns_same (congrArg AuthState.sessions unchanged)
  · cases same
    exact Op.plan_turns planned

section Core
variable {x y : Session}

section
variable (same : y.core = x.core)
include same

theorem Session.token_of_core : y.token = x.token := show y.core.token = x.core.token from congrArg Session.token same

theorem Session.createdAt_of_core : y.createdAt = x.createdAt :=
  show y.core.createdAt = x.core.createdAt from congrArg Session.createdAt same

theorem Session.clientIp_of_core : y.clientIp = x.clientIp :=
  show y.core.clientIp = x.core.clientIp from congrArg Session.clientIp same

theorem Op.revokes_core : op.Revokes s y ↔ op.Revokes s x := by
  have name : y.username = x.username := show y.core.username = x.core.username from congrArg Session.username same
  have token : y.token = x.token := Session.token_of_core same
  cases op <;> simp only [Op.Revokes, name, token]

theorem Op.prunes_core : op.Prunes y ↔ op.Prunes x := by
  have created : y.createdAt = x.createdAt := Session.createdAt_of_core same
  have token : y.token = x.token := Session.token_of_core same
  cases op <;> simp only [Op.Prunes, created, token]

end

end Core

theorem wrappingSub_of_le {a b : Nat} (le : b ≤ a) (bounded : a < 2 ^ 64) : wrappingSub a b = a - b := by
  unfold wrappingSub
  omega

inductive LoginCall where
  | password (username password clientIp : String)
  | oidc (identity : OidcIdentity) (derivedRole : Option Role) (autoProvision : Bool) (clientIp : String)
  | webauthn (username clientIp : String)
  deriving DecidableEq

namespace LoginCall

def clientIp : LoginCall → String
  | password _ _ clientIp | oidc _ _ _ clientIp | webauthn _ clientIp => clientIp

/-- What the call does under the write lock, with the clock as it read it on arrival. -/
def locked (now : Nat) (token : String) : LoginCall → Op
  | .password username given clientIp => .login ⟨username, given, clientIp, now⟩ token
  | .oidc identity derivedRole autoProvision clientIp =>
    .loginOrProvisionOidc identity derivedRole autoProvision clientIp now token
  | .webauthn username clientIp => .mintSessionForWebauthn username clientIp now token

end LoginCall

/-- `waiting` are logins with their reading of the clock, `expired` the tokens that validations have
found too old but not dropped yet, and `drawn` counts the tokens generated so far. -/
structure Clocked where
  svc : Service
  clock : Nat
  waiting : List (LoginCall × Nat) := []
  expired : List String := []
  drawn : Nat := 0

namespace Clocked

inductive Event where
  | advance
  | arrive (call : LoginCall)
  | refuse (call : LoginCall) (now : Nat)
  | commit (call : LoginCall) (now : Nat)
  | validate (token clientIp : String)
  | drop (token : String)
  | serve (op : Op)
  | restart

def committed (s : Clocked) (call : LoginCall) (now : Nat) (svc : Service) : Clocked :=
  { s with svc, waiting := s.waiting.erase (call, now), drawn := s.drawn + 1 }

def validated (s : Clocked) (token clientIp : String) : Clocked :=
  if validateSession s.svc.state token clientIp s.clock = some (.error .tokenExpired) then
    { s with expired := token :: s.expired }
  else s

def IsServed : Op → Prop
  | .login .. | .loginOrProvisionOidc .. | .mintSessionForWebauthn .. | .dropSession _ => False
  | _ => True

/-- The clock does not go back. A login is refused, or commits a session under the next token. -/
inductive Step (verifyPassword : String → String → Except AuthError Unit) (tokens : Nat → String) :
    Clocked → Event → Clocked → Prop
  | advance {s : Clocked} {now : Nat} (later : s.clock ≤ now) (bounded : now < 2 ^ 64) :
      Step verifyPassword tokens s .advance { s with clock := now }
  | arrive (s : Clocked) (call : LoginCall) :
      Step verifyPassword tokens s (.arrive call) { s with waiting := (call, s.clock) :: s.waiting }
  | refuse {s : Clocked} {call : LoginCall} {now : Nat} (waits : (call, now) ∈ s.waiting) :
      Step verifyPassword tokens s (.refuse call now) { s with waiting := s.waiting.erase (call, now) }
  | commit {s : Clocked} {call : LoginCall} {now : Nat} {svc : Service} (waits : (call, now) ∈ s.waiting)
      (step : s.svc.Step verifyPassword (some (call.locked now (tokens s.drawn))) svc) :
      Step verifyPassword tokens s (.commit call now) (s.committed call now svc)
  | validate (s : Clocked) (token clientIp : String) :
      Step verifyPassword tokens s (.validate token clientIp) (s.validated token clientIp)
  | drop {s : Clocked} {token : String} {svc : Service} (found : token ∈ s.expired)
      (step : s.svc.Step verifyPassword (some (.dropSession token)) svc) :
      Step verifyPassword tokens s (.drop token) { s with svc, expired := s.expired.erase token }
  | serve {s : Clocked} {op : Op} {svc : Service} (served : IsServed op)
      (step : s.svc.Step verifyPassword (some op) svc) :
      Step verifyPassword tokens s (.serve op) { s with svc }
  | restart {s : Clocked} {svc : Service} (step : s.svc.Step verifyPassword none svc) :
      Step verifyPassword tokens s .restart { s with svc, waiting := [], expired := [] }

def Ends (x : Session) (s : Clocked) : Event → Prop
  | .commit call now => (call.locked now "").Revokes s.svc.state x
  | .serve op => op.Revokes s.svc.state x
  | _ => False

def InOrder (x : Session) : Event → Prop
  | .commit _ now => x.createdAt ≤ now
  | _ => True

structure Inv (tokens : Nat → String) (s : Clocked) : Prop where
  agrees : s.svc.Agrees
  bounded : s.clock < 2 ^ 64
  past : ∀ w ∈ s.waiting, w.2 ≤ s.clock
  unused : ∀ x ∈ s.svc.state.sessions, ∀ i, s.drawn ≤ i → x.token ≠ tokens i
  gone : ∀ token ∈ s.expired, ∀ i, s.drawn ≤ i → token ≠ tokens i

variable {tokens : Nat → String} {s t : Clocked} {event : Event}

theorem locked_opens (call : LoginCall) (now : Nat) (token : String) : (call.locked now token).opens = some token := by
  cases call <;> rfl

variable {op : Op} {call : LoginCall}

theorem served_opens (served : IsServed op) : op.opens = none := by
  cases op <;> first | rfl | exact served.elim

theorem unused_turns {drawn : Nat} (turns : op.Turns s.svc.state svc.state)
    (unused : ∀ x ∈ s.svc.state.sessions, ∀ i, drawn ≤ i → x.token ≠ tokens i)
    (opened : ∀ token, op.opens = some token → ∀ i, drawn ≤ i → token ≠ tokens i) :
    ∀ x ∈ svc.state.sessions, ∀ i, drawn ≤ i → x.token ≠ tokens i := by
  intro x hx
  rcases turns.origin x hx with ⟨y, hy, eq⟩ | new
  · rw [Session.token_of_core eq]
    exact unused y hy
  · exact opened _ new

theorem Inv.step (distinct : Function.Injective tokens) (inv : s.Inv tokens)
    (step : Step verifyPassword tokens s event t) : t.Inv tokens := by
  cases step with
  | advance later bounded => exact { inv with bounded, past := fun w hw => (inv.past w hw).trans later }
  | arrive call =>
    refine { inv with past := ?_ }
    intro w hw
    rcases mem_cons.mp hw with rfl | old
    · exact le_rfl
    · exact inv.past w old
  | refuse waits => exact { inv with past := fun w hw => inv.past w (mem_of_mem_erase hw) }
  | commit waits step =>
    refine ⟨(step.effect inv.agrees).1, inv.bounded, fun w hw => inv.past w (mem_of_mem_erase hw),
      unused_turns (step.turns inv.agrees) ?_ ?_, ?_⟩
    · intro x hx i le
      exact inv.unused x hx i (Nat.le_of_succ_le le)
    · intro token opened i le eq
      rw [locked_opens] at opened
      cases opened
      have : s.drawn = i := distinct eq
      exact absurd le (by subst this; exact Nat.not_succ_le_self _)
    · intro token mem i le
      exact inv.gone token mem i (Nat.le_of_succ_le le)
  | validate token clientIp =>
    unfold validated
    split
    next tooOld =>
      refine { inv with gone := ?_ }
      intro token' mem
      rcases mem_cons.mp mem with rfl | old
      · obtain ⟨session, found, -⟩ := Option.map_eq_some_iff.mp tooOld
        have named : session.token = token' := by simpa using find?_some found
        rw [← named]
        exact inv.unused session (mem_of_find?_eq_some found)
      · exact inv.gone token' old
    · exact inv
  | drop found step =>
    refine ⟨(step.effect inv.agrees).1, inv.bounded, inv.past,
      unused_turns (step.turns inv.agrees) inv.unused (fun _ opened => by cases opened), ?_⟩
    intro token mem
    exact inv.gone token (mem_of_mem_erase mem)
  | serve served step =>
    refine ⟨(step.effect inv.agrees).1, inv.bounded, inv.past,
      unused_turns (step.turns inv.agrees) inv.unused ?_, inv.gone⟩
    intro token opened
    rw [served_opens served] at opened
    cases opened
  | restart step =>
    obtain ⟨agrees, unchanged | ⟨op, impossible, -⟩⟩ := step.effect inv.agrees
    · exact ⟨agrees, inv.bounded, by simp, unchanged ▸ inv.unused, by simp⟩
    · cases impossible

structure Held (tokens : Nat → String) (x : Session) (s : Clocked) : Prop where
  used : ∃ i < s.drawn, x.token = tokens i
  past : x.createdAt ≤ s.clock
  late : x.token ∈ s.expired → sessionTtlSecs < s.clock - x.createdAt
  only : ∀ z ∈ s.svc.state.sessions, z.token = x.token → z.core = x.core
  present : s.clock - x.createdAt ≤ sessionTtlSecs → ∃ z ∈ s.svc.state.sessions, z.core = x.core

variable {x : Session}

theorem Held.only_turns (held : s.Held tokens x)
    (turns : op.Turns s.svc.state svc.state) (ne : op.opens ≠ some x.token) :
    ∀ z ∈ svc.state.sessions, z.token = x.token → z.core = x.core := by
  intro z hz named
  rcases turns.origin z hz with ⟨y, hy, eq⟩ | opened
  · exact eq.trans (held.only y hy ((Session.token_of_core eq).symm.trans named))
  · exact absurd (named ▸ opened) ne

theorem Held.present_turns (held : s.Held tokens x)
    (turns : op.Turns s.svc.state svc.state) (valid : ¬ op.Revokes s.svc.state x)
    (live : s.clock - x.createdAt ≤ sessionTtlSecs → ¬ op.Prunes x) :
    s.clock - x.createdAt ≤ sessionTtlSecs → ∃ z ∈ svc.state.sessions, z.core = x.core := by
  intro recent
  obtain ⟨y, hy, eq⟩ := held.present recent
  obtain ⟨z, hz, continued⟩ := turns.kept y hy (fun revoked => valid ((Op.revokes_core eq).mp revoked))
    fun pruned => live recent ((Op.prunes_core eq).mp pruned)
  exact ⟨z, hz, continued.trans eq⟩

theorem locked_spares (bounded : s.clock < 2 ^ 64)
    (past : now ≤ s.clock) (inOrder : x.createdAt ≤ now) (recent : s.clock - x.createdAt ≤ sessionTtlSecs) :
    ¬ (call.locked now token).Prunes x := by
  have kept : ¬ sessionTtlSecs < wrappingSub now x.createdAt := by
    rw [wrappingSub_of_le inOrder (by omega)]
    omega
  cases call <;> exact kept

theorem Held.step (distinct : Function.Injective tokens) (inv : s.Inv tokens) (held : s.Held tokens x)
    (lasts : ¬ Ends x s event) (inOrder : InOrder x event)
    (step : Step verifyPassword tokens s event t) : t.Held tokens x := by
  cases step with
  | advance later bounded =>
    refine { held with past := held.past.trans later, late := ?_, present := ?_ }
    · intro mem
      have := held.late mem
      simp only
      omega
    · intro recent
      simp only at recent
      exact held.present (by omega)
  | arrive | refuse => exact { held with }
  | @commit call now svc waits step =>
    have turns := step.turns inv.agrees
    obtain ⟨i, lt, drawn⟩ := held.used
    have ne : (call.locked now (tokens s.drawn)).opens ≠ some x.token := by
      rw [locked_opens, drawn]
      intro eq
      have : s.drawn = i := distinct (Option.some.inj eq)
      omega
    refine ⟨⟨i, Nat.lt_succ_of_lt lt, drawn⟩, held.past, held.late, held.only_turns turns ne,
      held.present_turns turns (fun revoked => lasts (by cases call <;> exact revoked)) ?_⟩
    exact locked_spares inv.bounded (inv.past _ waits) inOrder
  | validate token clientIp =>
    unfold validated
    split
    next tooOld =>
      refine { held with late := ?_ }
      intro mem
      rcases mem_cons.mp mem with rfl | old
      · obtain ⟨session, found, answer⟩ := Option.map_eq_some_iff.mp tooOld
        have named : session.token = x.token := by simpa using find?_some found
        have eq := held.only session (mem_of_find?_eq_some found) named
        rw [Session.createdAt_of_core eq, wrappingSub_of_le held.past inv.bounded] at answer
        by_contra recent
        rw [if_neg recent] at answer
        split at answer <;> cases answer
      · exact held.late old
    · exact held
  | @drop token svc found step =>
    have turns := step.turns inv.agrees
    refine ⟨held.used, held.past, fun mem => held.late (mem_of_mem_erase mem),
      held.only_turns turns nofun, held.present_turns turns nofun ?_⟩
    intro recent pruned
    have := held.late (pruned ▸ found)
    omega
  | @serve op svc served step =>
    have turns := step.turns inv.agrees
    refine ⟨held.used, held.past, held.late, held.only_turns turns ?_, held.present_turns turns lasts ?_⟩
    · rw [served_opens served]
      nofun
    · intro _ pruned
      cases op <;> first | exact served | exact pruned
  | restart step =>
    obtain ⟨-, unchanged | ⟨op, impossible, -⟩⟩ := step.effect inv.agrees
    · exact ⟨held.used, held.past, by simp, unchanged ▸ held.only, unchanged ▸ held.present⟩
    · cases impossible

theorem Held.validate_ok {clientIp : String} (bounded : s.clock < 2 ^ 64) (held : s.Held tokens x)
    (bound : x.clientIp = some clientIp) (recent : s.clock - x.createdAt ≤ sessionTtlSecs)
    (hashToken : String → String) :
    ∃ z, z.core = x.core ∧ Auth.validate hashToken s.svc.state x.token clientIp s.clock = .ok z := by
  obtain ⟨z, hz, eq⟩ := held.present recent
  obtain ⟨y, hit⟩ : ∃ y, s.svc.state.sessions.find? (·.token = x.token) = some y := by
    refine Option.isSome_iff_exists.mp (find?_isSome.mpr ⟨z, hz, ?_⟩)
    simpa using Session.token_of_core eq
  have named : y.token = x.token := by simpa using find?_some hit
  have eq := held.only y (mem_of_find?_eq_some hit) named
  refine ⟨y, eq, ?_⟩
  have fresh : ¬ sessionTtlSecs < wrappingSub s.clock y.createdAt := by
    rw [Session.createdAt_of_core eq, wrappingSub_of_le held.past bounded]
    omega
  unfold Auth.validate validateSession
  rw [hit]
  simp only [Option.map_some, Option.getD_some, if_neg fresh, Session.clientIp_of_core eq, bound]
  simp

theorem locked_opened {state next : AuthState} (plan : (call.locked now token).plan verifyPassword state = .ok next) :
    ∃ old x, next.sessions = old ++ [x] ∧ (∀ y ∈ old, y ∈ state.sessions) ∧
      x.token = token ∧ x.createdAt = now ∧ x.clientIp = some call.clientIp := by
  cases call with
  | password | webauthn =>
    obtain ⟨user, -, h⟩ := bind_ok plan
    cases h
    exact ⟨_, _, rfl, fun y hy => mem_of_mem_filter hy, rfl, rfl, rfl⟩
  | oidc =>
    obtain ⟨role, -, h⟩ := bind_ok plan
    obtain ⟨_, -, h⟩ := bind_ok h
    obtain ⟨⟨users, prior⟩, -, h⟩ := bind_ok h
    cases h
    refine ⟨_, _, rfl, fun y hy => ?_, rfl, rfl, rfl⟩
    have left := mem_of_mem_filter hy
    split at left
    · exact mem_of_mem_filter left
    · exact left

theorem held_opened (inv : s.Inv tokens) (waits : (call, now) ∈ s.waiting)
    (plan : (call.locked now (tokens s.drawn)).plan verifyPassword s.svc.state = .ok svc.state) :
    ∃ x ∈ svc.state.sessions, x.token = tokens s.drawn ∧ x.createdAt = now ∧
      x.clientIp = some call.clientIp ∧ (s.committed call now svc).Held tokens x := by
  obtain ⟨old, x, opened, before, token, created, bound⟩ := locked_opened plan
  have mem : x ∈ svc.state.sessions := opened ▸ mem_append_right _ (mem_singleton_self x)
  refine ⟨x, mem, token, created, bound, ⟨s.drawn, Nat.lt_succ_self _, token⟩,
    created ▸ inv.past _ waits, ?_, ?_, fun _ => ⟨x, mem, rfl⟩⟩
  · intro expired
    exact absurd token (inv.gone _ expired _ le_rfl)
  · intro z hz named
    change z ∈ svc.state.sessions at hz
    rw [opened] at hz
    rcases mem_append.mp hz with earlier | new
    · exact absurd (named.trans token) (inv.unused z (before z earlier) _ le_rfl)
    · rw [mem_singleton.mp new]

/-- A login's session stays valid for its term, whatever else happens, as long as no event ends it and no login that
began before it commits after it. -/
theorem session_lasts {d : Disk} {svc svc' : Service} {clock now : Nat} {earlier : List Event}
    {call : LoginCall} {temp : String} {faults : Faults} (distinct : Function.Injective tokens)
    (starts : Starts d svc) (bounded : clock < 2 ^ 64)
    (unused : ∀ x ∈ svc.state.sessions, ∀ i, x.token ≠ tokens i)
    (before : Run (Step verifyPassword tokens) { svc, clock } earlier s) (waits : (call, now) ∈ s.waiting)
    (returned : execute verifyPassword (call.locked now (tokens s.drawn)) temp faults s.svc = (.ok (), svc')) :
    ∃ x ∈ svc'.state.sessions, x.token = tokens s.drawn ∧ x.createdAt = now ∧ x.clientIp = some call.clientIp ∧
      ∀ later t, Run (fun s event t => Step verifyPassword tokens s event t ∧ ¬ Ends x s event ∧ InOrder x event)
          (s.committed call now svc') later t →
        t.clock - x.createdAt ≤ sessionTtlSecs → (∃ z ∈ t.svc.state.sessions, z.core = x.core) ∧
          ∀ hashToken, ∃ z, z.core = x.core ∧
            Auth.validate hashToken t.svc.state (tokens s.drawn) call.clientIp t.clock = .ok z := by
  have start : Inv tokens { svc, clock } :=
    ⟨starts_agrees starts, bounded, by simp, fun x hx i _ => unused x hx i, by simp⟩
  have inv : s.Inv tokens := Run.invariant start (fun _ _ _ inv step => inv.step distinct step) before
  have committed : Step verifyPassword tokens s (.commit call now) (s.committed call now svc') := by
    have called : s.svc.Step verifyPassword _ _ := .call s.svc (call.locked now (tokens s.drawn)) temp faults
    rw [returned] at called
    exact .commit waits called
  obtain ⟨x, member, token, created, bound, held⟩ := held_opened inv waits (execute_ok returned)
  refine ⟨x, member, token, created, bound, ?_⟩
  intro later t after recent
  have both : t.Inv tokens ∧ t.Held tokens x := by
    refine Run.invariant (I := fun s => s.Inv tokens ∧ s.Held tokens x)
      ⟨inv.step distinct committed, held⟩ ?_ after
    intro s event t ⟨inv, held⟩ ⟨step, lasts, inOrder⟩
    exact ⟨inv.step distinct step, held.step distinct inv lasts inOrder step⟩
  refine ⟨both.2.present recent, fun hashToken => ?_⟩
  rw [← token]
  exact both.2.validate_ok both.1.bounded bound recent hashToken

/-- Two logins: the one that arrived first is still waiting when the other one has its session. -/
def slow : LoginCall := .password "admin" "admin" "10.0.0.2"

def quick : LoginCall := .webauthn "admin" "10.0.0.3"

def bothWaiting : Clocked := { svc := booted "hash", clock := 1001, waiting := [(quick, 1001), (slow, 1000)] }

theorem bothWaiting_reached : Run (Step (fun _ _ => .ok ()) (suffixed "t")) { svc := booted "hash", clock := 1000 }
    ([] ++ [.arrive slow] ++ [.advance] ++ [.arrive quick]) bothWaiting :=
  .snoc (.snoc (.snoc (.nil _) (.arrive _ slow)) (.advance (by decide) (by decide))) (.arrive _ quick)

def quickServed : Service :=
  (execute (fun _ _ => .ok ()) (quick.locked 1001 (suffixed "t" 0)) "1" (fun _ => none) (booted "hash")).2

theorem quick_returned :
    execute (fun _ _ => .ok ()) (quick.locked 1001 (suffixed "t" bothWaiting.drawn)) "1" (fun _ => none)
      bothWaiting.svc = (.ok (), quickServed) := Prod.ext (by rfl) rfl

/-- Two logins cross: the one that began first commits last, and its clean-up takes the newer session. -/
theorem newer_session_dropped : Function.Injective (suffixed "t") ∧ Starts {} (booted "hash") ∧
      Run (Step (fun _ _ => .ok ()) (suffixed "t")) { svc := booted "hash", clock := 1000 }
        [.arrive slow, .advance, .arrive quick] bothWaiting ∧
      execute (fun _ _ => .ok ()) (quick.locked 1001 (suffixed "t" 0)) "1" (fun _ => none) bothWaiting.svc =
        (.ok (), quickServed) ∧
      quickServed.state.sessions.map (fun x => (x.token, x.createdAt)) = [("t-0", 1001)] ∧
      ∃ t, Run (Step (fun _ _ => .ok ()) (suffixed "t")) (bothWaiting.committed quick 1001 quickServed)
          [.commit slow 1000] t ∧
        t.clock = 1001 ∧ t.svc.state.sessions.map (fun x => (x.token, x.createdAt)) = [("t-1", 1000)] ∧
        Auth.validate id t.svc.state "t-0" "10.0.0.3" 1001 = .error .invalidToken :=
  ⟨suffixed_injective, starts_booted, bothWaiting_reached, quick_returned, by decide +kernel, _,
    .snoc (.nil _) (.commit (by decide +kernel) (.call _ _ "2" fun _ => none)), rfl, by decide +kernel, by rfl⟩

theorem session_lasts_past_login : ∃ x ∈ quickServed.state.sessions, x.token = "t-0" ∧ ∃ later t,
      Run (fun s event t => Step (fun _ _ => .ok ()) (suffixed "t") s event t ∧ ¬ Ends x s event ∧ InOrder x event)
        (bothWaiting.committed quick 1001 quickServed) later t ∧
      t.svc.state.sessions.map (·.token) = ["t-0", "t-1"] ∧
      ∃ z, z.core = x.core ∧ Auth.validate id t.svc.state "t-0" "10.0.0.3" t.clock = .ok z := by
  obtain ⟨x, member, token, created, -, lasts⟩ := session_lasts suffixed_injective starts_booted
    (by decide) (fun _ member => by cases member) bothWaiting_reached (mem_cons_self) quick_returned
  have arrived : Step (fun _ _ => .ok ()) (suffixed "t") (bothWaiting.committed quick 1001 quickServed)
      (.arrive quick) _ := .arrive _ quick
  have committed : Step (fun _ _ => .ok ()) (suffixed "t")
      { bothWaiting.committed quick 1001 quickServed with waiting := [(quick, 1001), (slow, 1000)] }
      (.commit quick 1001) _ := .commit (mem_cons_self) (.call _ _ "2" fun _ => none)
  have after : Run (fun s event t =>
        Step (fun _ _ => .ok ()) (suffixed "t") s event t ∧ ¬ Ends x s event ∧ InOrder x event)
      (bothWaiting.committed quick 1001 quickServed) ([] ++ [.arrive quick] ++ [.commit quick 1001]) _ :=
    .snoc (.snoc (.nil _) ⟨arrived, nofun, trivial⟩) ⟨committed, nofun, created.le⟩
  obtain ⟨-, accepted⟩ := lasts _ _ after (by rw [created]; decide +kernel)
  exact ⟨x, member, token, _, _, after, by decide +kernel, accepted id⟩

end Clocked

end NastyEngine.Auth
