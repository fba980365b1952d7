import NastyEngine.Auth.Service

/-!
`login_start` reads the credentials of a user and keeps them with the challenge. `login_finish` verifies the
assertion against what was kept and saves the counter, and its handler mints the session. Each of them takes its
locks for itself, so that any other request can come between two of them.
-/

namespace NastyEngine.Auth.Webauthn
open Lib List

def webauthnCredentialsFor (users : List User) (username : String) : List WebauthnCredential :=
  (findUser users username).elim [] (·.webauthnCredentials)

structure AuthenticationResult where
  credId : List UInt8
  counter : Nat
  deriving DecidableEq

/-- `finish_passkey_authentication` and `update_credential` of webauthn-rs, and the counter in a passkey. -/
structure Library (Response : Type) where
  finish : Response → List Passkey → Option AuthenticationResult
  update : AuthenticationResult → Passkey → Passkey
  counter : Passkey → Nat

structure Library.Documented {Response : Type} (lib : Library Response) : Prop where
  asserted : ∀ response passkeys result, lib.finish response passkeys = some result →
    ∃ p ∈ passkeys, p.credId = result.credId ∧ (0 < result.counter ∨ 0 < lib.counter p → lib.counter p < result.counter)
  updated : ∀ result p, (lib.update result p).credId = p.credId ∧ lib.counter p ≤ lib.counter (lib.update result p) ∧
    (p.credId = result.credId → result.counter ≤ lib.counter (lib.update result p))

inductive Stage where
  | read
  | pending (authId : String) (startedAt : Nat)
  | verified (result : AuthenticationResult)
  | counted (result : AuthenticationResult)
  deriving DecidableEq

structure Login where
  username : String
  passkeys : List Passkey
  stage : Stage := .read
  deriving DecidableEq

def Login.authId (l : Login) : Option String :=
  match l.stage with
  | .pending authId _ => some authId
  | .read | .verified _ | .counted _ => none

def registrationTtl : Nat := 5 * 60

def maxInFlightPerUser : Nat := 4

def Stage.recent (now : Nat) : Stage → Bool
  | .pending _ startedAt => now - startedAt < registrationTtl
  | .read | .verified _ | .counted _ => true

def pruneExpiredAuth (now : Nat) (logins : List Login) : List Login := logins.filter (·.stage.recent now)

/-- The second half of `login_start`. The entry is dropped when the user has too many. -/
def insertPending (l : Login) (authId : String) (now : Nat) (others : List Login) : List Login :=
  let pending := pruneExpiredAuth now others
  if maxInFlightPerUser ≤ pending.countP (fun o => o.authId.isSome && o.username = l.username) then pending
  else { l with stage := .pending authId now } :: pending.filter (·.authId ≠ some authId)

/-- `accepted` has the results that a session was minted for. -/
structure Logins where
  svc : Service
  logins : List Login := []
  accepted : List AuthenticationResult := []

def Logins.credentials (s : Logins) (username : String) : List WebauthnCredential :=
  webauthnCredentialsFor s.svc.state.users username

inductive Event where
  | read (username : String)
  | start (l : Login)
  | finish (l : Login)
  | count (l : Login) (temp : String) (faults : Faults)
  | mint (l : Login)
  | drop (l : Login)
  | serve (op : Op)
  | restart

def InLogin : Op → Prop
  | .updateWebauthnSignCount .. | .mintSessionForWebauthn .. => True
  | _ => False

section System
variable {Response : Type} (lib : Library Response) (verifyPassword : String → String → Except AuthError Unit)

def verify (response : Response) (l : Login) (others : List Login) : List Login :=
  match lib.finish response l.passkeys with
  | some result => { l with stage := .verified result } :: others
  | none => others

/-- The counter goes on to the next stage whether it could be saved or not. A login is dropped when it is
refused, cancelled, or finished under another name. -/
inductive Step : Logins → Event → Logins → Prop
  | read {s : Logins} {username : String} (registered : s.credentials username ≠ []) :
      Step s (.read username)
        { s with logins := { username, passkeys := (s.credentials username).map (·.passkey) } :: s.logins }
  | start {s : Logins} {l : Login} (member : l ∈ s.logins) (stage : l.stage = .read) (authId : String) (now : Nat) :
      Step s (.start l) { s with logins := insertPending l authId now (s.logins.erase l) }
  | finish {s : Logins} {l : Login} {now : Nat} (member : l ∈ pruneExpiredAuth now s.logins)
      (pending : l.authId ≠ none) (response : Response) :
      Step s (.finish l) { s with logins := verify lib response l ((pruneExpiredAuth now s.logins).erase l) }
  | count {s : Logins} {l : Login} {result : AuthenticationResult} (member : l ∈ s.logins)
      (stage : l.stage = .verified result) (temp : String) (faults : Faults) :
      Step s (.count l temp faults)
        { s with
          svc := (execute verifyPassword (.updateWebauthnSignCount l.username result.credId (lib.update result))
            temp faults s.svc).2
          logins := { l with stage := .counted result } :: s.logins.erase l }
  | mint {s : Logins} {l : Login} {result : AuthenticationResult} {svc : Service} {clientIp token : String} {now : Nat}
      (member : l ∈ s.logins) (stage : l.stage = .counted result)
      (step : s.svc.Step verifyPassword (some (.mintSessionForWebauthn l.username clientIp now token)) svc) :
      Step s (.mint l) { svc, logins := s.logins.erase l, accepted := result :: s.accepted }
  | drop (s : Logins) (l : Login) : Step s (.drop l) { s with logins := s.logins.erase l }
  | serve {s : Logins} {op : Op} {svc : Service} (step : s.svc.Step verifyPassword (some op) svc)
      (other : ¬ InLogin op) : Step s (.serve op) { s with svc }
  | restart {s : Logins} {svc : Service} (step : s.svc.Step verifyPassword none svc) :
      Step s .restart { s with svc, logins := [] }

end System

def TakesFrom (username : String) : Op → Prop
  | .removeWebauthnCredential u _ | .resetWebauthnCredentials _ u | .deleteUser _ u => u = username
  | _ => False

/-- Nothing is taken from a user, and no second login of theirs begins, while one is in flight; the counter can
be saved; and a credential is registered only under an id that is nobody's and was never accepted. -/
def Calm (s : Logins) : Event → Prop
  | .read username => ∀ l ∈ s.logins, l.username ≠ username
  | .count _ temp faults => ¬ FailsBefore faults temp s.svc.disk
  | .serve op => (∀ l ∈ s.logins, ¬ TakesFrom l.username op) ∧
    ∀ name new, op = .addWebauthnCredential name new →
      (∀ u, ∀ c ∈ s.credentials u, c.passkey.credId ≠ new.passkey.credId) ∧
        ∀ r ∈ s.accepted, r.credId ≠ new.passkey.credId
  | .start _ | .finish _ | .mint _ | .drop _ | .restart => True

section Credentials
variable {users users' : List User} {name : String}

def User.held (u : User) : String × List WebauthnCredential := (u.username, u.webauthnCredentials)

theorem credentials_of_held (eq : users'.map User.held = users.map User.held) :
    webauthnCredentialsFor users' = webauthnCredentialsFor users := by
  have read (users : List User) (username : String) :
      webauthnCredentialsFor users username = ((users.map User.held).find? (·.1 = username)).elim [] (·.2) := by
    rw [find?_map, Option.elim_map]
    rfl
  funext username
  rw [read, read, eq]

theorem credentials_append {u : User} (none : u.webauthnCredentials = []) :
    webauthnCredentialsFor (users ++ [u]) = webauthnCredentialsFor users := by
  funext username
  unfold webauthnCredentialsFor findUser
  induction users with
  | nil => grind
  | cons first rest ih => grind

theorem findUser_updateUser {f : User → User} (keeps : ∀ u, (f u).username = u.username) (username : String) :
    findUser (updateUser users name f) username =
      if username = name then (findUser users name).map f else findUser users username := by
  unfold findUser updateUser
  induction users with
  | nil => simp
  | cons u rest ih => grind [replaceF_cons]

theorem credentials_updateUser {user : User} (eq : findUser users name = some user)
    (g : User → List WebauthnCredential) (username : String) :
    webauthnCredentialsFor (updateUser users name fun u => { u with webauthnCredentials := g u }) username =
      if username = name then g user else webauthnCredentialsFor users username := by
  unfold webauthnCredentialsFor
  rw [findUser_updateUser, eq]
  · split <;> rfl
  · exact fun _ => rfl

theorem credentials_filter {username : String} : webauthnCredentialsFor (users.filter (·.username ≠ name)) username =
      if username = name then [] else webauthnCredentialsFor users username := by
  unfold webauthnCredentialsFor findUser
  induction users with
  | nil => simp
  | cons first rest ih => grind

theorem oidc_credentials {identity : OidcIdentity} {derivedRole : Option Role} {autoProvision : Bool}
    {clientIp token : String} {now : Nat} {s t : AuthState}
    (plan : loginOrProvisionOidc identity derivedRole autoProvision clientIp now token s = .ok t) :
    webauthnCredentialsFor t.users = webauthnCredentialsFor s.users := by
  obtain ⟨role, _, plan⟩ := bind_ok plan
  obtain ⟨_, _, plan⟩ := bind_ok plan
  obtain ⟨⟨users, prior⟩, resolved, plan⟩ := bind_ok plan
  cases plan
  have kept {users : List User} (eq : users.find? identity.matches = some prior) :
      webauthnCredentialsFor (s.withOidcSession identity role users prior clientIp now token).users =
        webauthnCredentialsFor users := by
    obtain ⟨before, after, rfl, replaced⟩ := replaceF_of_find eq fun _ => prior.withRole role
    have held : User.held (prior.withRole role) = User.held prior := by
      unfold User.withRole
      split <;> rfl
    refine credentials_of_held ((congrArg (List.map User.held) replaced).trans ?_)
    rw [map_append, map_cons, held, ← map_cons, ← map_append]
  unfold resolveOidcUser at resolved
  split at resolved
  next eq =>
    cases resolved
    exact kept eq
  next missing =>
    split at resolved
    · cases resolved
      exact (kept (newUser_found missing)).trans (credentials_append rfl)
    · cases resolved

theorem count_plans {s : AuthState} {c : WebauthnCredential} {credId : List UInt8}
    {update : Passkey → Passkey} (mem : c ∈ webauthnCredentialsFor s.users name) (eq : c.passkey.credId = credId) :
    ∃ t before d after, updateWebauthnSignCount name credId update s = .ok t ∧ d.passkey.credId = credId ∧
      webauthnCredentialsFor s.users name = before ++ d :: after ∧
      ∀ u, webauthnCredentialsFor t.users u = if u = name then
        before ++ { d with passkey := update d.passkey } :: after else webauthnCredentialsFor s.users u := by
  unfold webauthnCredentialsFor at mem
  cases found : findUser s.users name with
  | none =>
    rw [found] at mem
    cases mem
  | some user =>
    rw [found] at mem
    have exists_hit : (user.webauthnCredentials.find? (·.passkey.credId = credId)).isSome :=
      find?_isSome.mpr ⟨c, mem, decide_eq_true eq⟩
    obtain ⟨d, hit⟩ := Option.isSome_iff_exists.mp exists_hit
    obtain ⟨before, after, split, replaced⟩ := replaceF_of_find hit fun d => { d with passkey := update d.passkey }
    simp only [decide_eq_true_eq] at replaced
    refine ⟨{ s with
      users := updateUser s.users name
        ({ · with webauthnCredentials := before ++ { d with passkey := update d.passkey } :: after }) }, before, d, after,
      ?_, by simpa using find?_some hit, ?_, credentials_updateUser found _⟩
    · simp only [updateWebauthnSignCount, found, okOr, bind, Except.bind, hit, ← replaced]
      rfl
    · rw [webauthnCredentialsFor, found]
      exact split

def Keeps (username : String) (op : Op) (s t : AuthState) : Prop :=
  (webauthnCredentialsFor t.users username).Sublist (webauthnCredentialsFor s.users username) ∧
    (¬ TakesFrom username op → webauthnCredentialsFor t.users username = webauthnCredentialsFor s.users username)

theorem plan_credentials {verifyPassword : String → String → Except AuthError Unit} {op : Op} {s t : AuthState}
    (plan : op.plan verifyPassword s = .ok t) (ne : ¬ InLogin op)
    (adds : ∀ name new, op ≠ .addWebauthnCredential name new) (username : String) : Keeps username op s t := by
  have unchanged (eq : webauthnCredentialsFor t.users = webauthnCredentialsFor s.users) : Keeps username op s t := by
    rw [Keeps, eq]
    exact ⟨.refl _, fun _ => rfl⟩
  have taken {name : String} {kept : List WebauthnCredential} (takes : TakesFrom name op)
      (left : kept.Sublist (webauthnCredentialsFor s.users name))
      (after : webauthnCredentialsFor t.users username =
        if username = name then kept else webauthnCredentialsFor s.users username) : Keeps username op s t := by
    rw [Keeps, after]
    split
    next eq =>
      cases eq
      exact ⟨left, fun not => absurd takes not⟩
    · exact ⟨.refl _, fun _ => rfl⟩
  cases op with
  | loginOrProvisionOidc => exact unchanged (oidc_credentials plan)
  | createUser =>
    iterate 6 obtain ⟨_, _, plan⟩ := bind_ok plan
    cases plan
    exact unchanged (credentials_append rfl)
  | changePassword =>
    iterate 5 obtain ⟨_, _, plan⟩ := bind_ok plan
    cases plan
    refine unchanged (credentials_of_held (map_replaceF ?_))
    exact fun _ => rfl
  | deleteUser =>
    iterate 3 obtain ⟨_, _, plan⟩ := bind_ok plan
    cases plan
    exact taken rfl (nil_sublist _) credentials_filter
  | removeWebauthnCredential name credId =>
    obtain ⟨user, hit, plan⟩ := bind_ok plan
    obtain ⟨_, _, plan⟩ := bind_ok plan
    cases plan
    refine taken rfl ?_ (credentials_updateUser (okOr_ok hit) _ username)
    rw [webauthnCredentialsFor, okOr_ok hit]
    exact filter_sublist
  | resetWebauthnCredentials =>
    obtain ⟨_, _, plan⟩ := bind_ok plan
    obtain ⟨user, hit, plan⟩ := bind_ok plan
    cases plan
    exact taken rfl (nil_sublist _) (credentials_updateUser (okOr_ok hit) _ username)
  | addWebauthnCredential name new => exact absurd rfl (adds name new)
  | updateWebauthnSignCount | mintSessionForWebauthn => exact absurd trivial ne
  | _ =>
    refine unchanged (congrArg webauthnCredentialsFor ((?_ : Returns (fun t => t.users = s.users) _) t plan))
    repeat' first | exact returns_ok rfl | refine returns_bind fun _ => ?_

end Credentials

def Fresh (accepted : List AuthenticationResult) (result : AuthenticationResult) : Prop :=
  0 < result.counter → ∀ r ∈ accepted, r.credId = result.credId → r.counter < result.counter

section Invariant
variable {Response : Type} (lib : Library Response)

def Login.Sound (creds : List WebauthnCredential) (accepted : List AuthenticationResult) (l : Login) : Prop :=
  match l.stage with
  | .read | .pending .. => ∀ p ∈ l.passkeys, ∃ c ∈ creds, c.passkey = p
  | .verified result => ∃ c ∈ creds, c.passkey.credId = result.credId ∧
    (0 < result.counter → lib.counter c.passkey < result.counter)
  | .counted result => Fresh accepted result ∧ ∃ c ∈ creds, c.passkey.credId = result.credId ∧
    result.counter ≤ lib.counter c.passkey

/-- An id is registered once, and its counter is not behind what was accepted for it. -/
structure Vault (creds : String → List WebauthnCredential) (accepted : List AuthenticationResult) : Prop where
  distinct : ∀ u, ((creds u).map (·.passkey.credId)).Nodup
  apart : ∀ u v, ∀ c ∈ creds u, ∀ d ∈ creds v, c.passkey.credId = d.passkey.credId → u = v
  seen : ∀ r ∈ accepted, ∀ u, ∀ c ∈ creds u, c.passkey.credId = r.credId → r.counter ≤ lib.counter c.passkey

structure Flight (creds : String → List WebauthnCredential) (accepted : List AuthenticationResult)
    (logins : List Login) : Prop where
  single : (logins.map (·.username)).Nodup
  sound : ∀ l ∈ logins, l.Sound lib (creds l.username) accepted

structure Inv (s : Logins) : Prop where
  agrees : s.svc.Agrees
  vault : Vault lib s.credentials s.accepted
  flight : Flight lib s.credentials s.accepted s.logins

variable {lib} {verifyPassword : String → String → Except AuthError Unit}
  {creds creds' : String → List WebauthnCredential} {accepted : List AuthenticationResult}
  {logins logins' : List Login} {l l' : Login} {result : AuthenticationResult}

section
variable (vault : Vault lib creds accepted)
include vault

theorem Vault.sublist (fewer : ∀ u, (creds' u).Sublist (creds u)) : Vault lib creds' accepted where
  distinct u := (vault.distinct u).sublist ((fewer u).map _)
  apart u v c hc d hd := vault.apart u v c ((fewer u).subset hc) d ((fewer v).subset hd)
  seen r hr u c hc := vault.seen r hr u c ((fewer u).subset hc)

theorem Vault.add {name : String} {new : WebauthnCredential}
    (unused : ∀ u, ∀ c ∈ creds u, c.passkey.credId ≠ new.passkey.credId)
    (unseen : ∀ r ∈ accepted, r.credId ≠ new.passkey.credId)
    (after : ∀ u, creds' u = if u = name then creds name ++ [new] else creds u) : Vault lib creds' accepted := by
  obtain ⟨distinct, apart, seen⟩ := vault
  constructor
  · intro u
    grind [nodup_append]
  · grind
  · grind

theorem Vault.count {name : String} {before after : List WebauthnCredential}
    {d e : WebauthnCredential} (old : creds name = before ++ d :: after)
    (new : ∀ u, creds' u = if u = name then before ++ e :: after else creds u)
    (eq : e.passkey.credId = d.passkey.credId) (grows : lib.counter d.passkey ≤ lib.counter e.passkey) :
    Vault lib creds' accepted := by
  obtain ⟨distinct, apart, seen⟩ := vault
  have ids : ∀ u, (creds' u).map (·.passkey.credId) = (creds u).map (·.passkey.credId) := by grind
  refine ⟨fun u => ids u ▸ distinct u, ?_, ?_⟩
  · grind
  · grind

end

section
variable (flight : Flight lib creds accepted logins)
include flight

theorem Flight.sublist (fewer : logins'.Sublist logins) : Flight lib creds accepted logins' :=
  ⟨flight.single.sublist (fewer.map _), fun l mem => flight.sound l (fewer.subset mem)⟩

theorem Flight.grow (more : ∀ u, creds u ⊆ creds' u) : Flight lib creds' accepted logins := by
  refine ⟨flight.single, fun l mem => ?_⟩
  have sound := flight.sound l mem
  unfold Login.Sound at sound ⊢
  grind

theorem Flight.erased (mem : l ∈ logins) : l.username ∉ (logins.erase l).map (·.username) :=
  (nodup_cons.mp (((perm_cons_erase mem).map (·.username)).nodup_iff.mp flight.single)).1

theorem Flight.move (mem : l ∈ logins) (stage : Stage) (sound : { l with stage }.Sound lib (creds l.username) accepted) :
    Flight lib creds accepted ({ l with stage } :: logins.erase l) := by
  have rest := flight.sublist (erase_sublist (a := l))
  refine ⟨nodup_cons.mpr ⟨flight.erased mem, rest.single⟩, ?_⟩
  exact forall_mem_cons.mpr ⟨sound, rest.sound⟩

end

theorem Login.Sound.snapshot {creds : List WebauthnCredential} (sound : l.Sound lib creds accepted)
    (pending : l.authId ≠ none) : ∀ p ∈ l.passkeys, ∃ c ∈ creds, c.passkey = p := by
  unfold Login.Sound at sound
  unfold Login.authId at pending
  grind

variable {s t : Logins} {event : Event}

theorem Inv.count (documented : lib.Documented) (inv : Inv lib s) (mem : l ∈ s.logins)
    (stage : l.stage = .verified result) :
    ∃ next, updateWebauthnSignCount l.username result.credId (lib.update result) s.svc.state = .ok next ∧
      Vault lib (webauthnCredentialsFor next.users) s.accepted ∧
      Flight lib (webauthnCredentialsFor next.users) s.accepted
        ({ l with stage := .counted result } :: s.logins.erase l) := by
  have sound := inv.flight.sound l mem
  simp only [Login.Sound, stage] at sound
  obtain ⟨c, hc, eq, behind⟩ := sound
  obtain ⟨next, before, d, after, plan, named, split, counted⟩ := count_plans hc eq
  obtain ⟨sameId, grows, reaches⟩ := documented.updated result d.passkey
  have erased := inv.flight.erased mem
  have rest := inv.flight.sublist (erase_sublist (a := l))
  refine ⟨next, plan, inv.vault.count split counted sameId grows, nodup_cons.mpr ⟨erased, rest.single⟩,
    forall_mem_cons.mpr ⟨⟨?_, ?_⟩, fun l' other => ?_⟩⟩
  · intro pos r hr equal
    exact Nat.lt_of_le_of_lt (inv.vault.seen r hr l.username c hc (eq.trans equal.symm)) (behind pos)
  · refine ⟨{ d with passkey := lib.update result d.passkey }, ?_, sameId.trans named, reaches named⟩
    rw [counted, if_pos rfl]
    simp
  · have ne : l'.username ≠ l.username := fun eq => erased (eq ▸ mem_map_of_mem other)
    rw [counted, if_neg ne]
    exact rest.sound l' other

theorem Inv.mint (inv : Inv lib s) (mem : l ∈ s.logins) (stage : l.stage = .counted result) :
    Vault lib s.credentials (result :: s.accepted) ∧
      Flight lib s.credentials (result :: s.accepted) (s.logins.erase l) := by
  have sound := inv.flight.sound l mem
  simp only [Login.Sound, stage] at sound
  obtain ⟨-, c, hc, eq, le⟩ := sound
  have rest := inv.flight.sublist (erase_sublist (a := l))
  obtain ⟨distinct, apart, seen⟩ := inv.vault
  refine ⟨⟨distinct, apart, ?_⟩, rest.single, fun l' other => ?_⟩
  · intro r hr u c' hc' equal
    rcases mem_cons.mp hr with rfl | hr
    · cases apart _ _ c' hc' c hc (equal.trans eq.symm)
      rwa [inj_on_of_nodup_map (distinct _) hc' hc (equal.trans eq.symm)]
    · exact seen r hr u c' hc' equal
  · have sound := rest.sound l' other
    have name : l'.username ≠ l.username := fun eq =>
      inv.flight.erased mem (eq ▸ mem_map_of_mem other)
    unfold Login.Sound Fresh at sound ⊢
    grind

theorem Inv.serve (inv : Inv lib s) {op : Op} {next : AuthState} (plan : op.plan verifyPassword s.svc.state = .ok next)
    (ne : ¬ InLogin op) (calm : Calm s (.serve op)) :
    Vault lib (webauthnCredentialsFor next.users) s.accepted ∧
      Flight lib (webauthnCredentialsFor next.users) s.accepted s.logins := by
  obtain ⟨kept, new⟩ := calm
  by_cases adds : ∃ name new, op = .addWebauthnCredential name new
  · obtain ⟨name, added, rfl⟩ := adds
    obtain ⟨unused, unseen⟩ := new name added rfl
    obtain ⟨user, hit, plan⟩ := bind_ok plan
    cases plan
    have after := credentials_updateUser (okOr_ok hit) fun u => u.webauthnCredentials ++ [added]
    have own : s.credentials name = user.webauthnCredentials := by
      rw [Logins.credentials, webauthnCredentialsFor, okOr_ok hit]
      rfl
    rw [← own] at after
    refine ⟨inv.vault.add unused unseen after, inv.flight.grow fun u c mem => ?_⟩
    rw [after]
    split
    next eq =>
      exact mem_append_left _ (eq ▸ mem)
    · exact mem
  · have keeps := plan_credentials plan ne fun name new eq => adds ⟨name, new, eq⟩
    refine ⟨inv.vault.sublist fun u => (keeps u).1, inv.flight.single, fun l mem => ?_⟩
    rw [(keeps l.username).2 (kept l mem)]
    exact inv.flight.sound l mem

theorem Inv.step (documented : lib.Documented) (inv : Inv lib s) (step : Step lib verifyPassword s event t)
    (calm : Calm s event) : Inv lib t := by
  have fewer (l : Login) : Flight lib s.credentials s.accepted (s.logins.erase l) :=
    inv.flight.sublist erase_sublist
  cases step with
  | read registered =>
    refine ⟨inv.agrees, inv.vault, nodup_cons.mpr ⟨?_, inv.flight.single⟩, forall_mem_cons.mpr ⟨?_, inv.flight.sound⟩⟩
    · intro mem
      obtain ⟨l, inFlight, eq⟩ := mem_map.mp mem
      exact calm l inFlight eq
    · exact fun p mem => mem_map.mp mem
  | @start l mem stage authId now =>
    refine ⟨inv.agrees, inv.vault, ?_⟩
    have sound := inv.flight.sound l mem
    simp only [Login.Sound, stage] at sound
    unfold insertPending
    dsimp only
    split
    · exact (fewer l).sublist filter_sublist
    · exact (inv.flight.move mem (.pending authId now) sound).sublist ((filter_sublist.trans filter_sublist).cons_cons _)
  | @finish l now mem pending response =>
    have flight : Flight lib s.credentials s.accepted (pruneExpiredAuth now s.logins) :=
      inv.flight.sublist filter_sublist
    refine ⟨inv.agrees, inv.vault, ?_⟩
    unfold verify
    split
    next result hit =>
      obtain ⟨p, known, eq, larger⟩ := documented.asserted _ _ _ hit
      obtain ⟨c, registered, rfl⟩ := (flight.sound l mem).snapshot pending p known
      exact flight.move mem (.verified result) ⟨c, registered, eq, fun pos => larger (.inl pos)⟩
    · exact flight.sublist erase_sublist
  | @count l result mem stage temp faults =>
    obtain ⟨next, plan, vault, flight⟩ := inv.count documented mem stage
    have plan : (Op.updateWebauthnSignCount l.username result.credId (lib.update result)).plan verifyPassword
        s.svc.state = .ok next := plan
    obtain ⟨answer, disk, executed, -⟩ := execute_after plan calm
    refine ⟨(execute_state inv.agrees).1, ?_, ?_⟩
    · rw [executed]
      exact vault
    · rw [executed]
      exact flight
  | @mint l result svc _ _ _ mem stage step =>
    obtain ⟨agrees, effect⟩ := step.effect inv.agrees
    have eq : svc.state.users = s.svc.state.users := by
      rcases effect with unchanged | ⟨op, label, plan⟩
      · rw [unchanged]
      · cases label
        exact (returns_bind fun _ => returns_ok rfl : Returns (·.users = s.svc.state.users) _) _ plan
    obtain ⟨vault, flight⟩ := inv.mint mem stage
    unfold Logins.credentials at vault flight
    rw [← eq] at vault flight
    exact ⟨agrees, vault, flight⟩
  | drop l => exact ⟨inv.agrees, inv.vault, fewer l⟩
  | @serve op svc step ne =>
    obtain ⟨agrees, unchanged | ⟨op', label, plan⟩⟩ := step.effect inv.agrees
    · have eq : Logins.credentials { s with svc } = s.credentials := by
        unfold Logins.credentials
        rw [unchanged]
      exact ⟨agrees, eq ▸ inv.vault, eq ▸ inv.flight⟩
    · cases label
      obtain ⟨vault, flight⟩ := inv.serve plan ne calm
      exact ⟨agrees, vault, flight⟩
  | @restart svc step =>
    obtain ⟨agrees, unchanged | ⟨_, label, _⟩⟩ := step.effect inv.agrees
    · have vault := inv.vault
      unfold Logins.credentials at vault
      rw [← unchanged] at vault
      exact ⟨agrees, vault, nodup_nil, nofun⟩
    · cases label

theorem booted_credentials {hash username : String} : webauthnCredentialsFor (firstBoot hash).users username = [] := by
  unfold webauthnCredentialsFor findUser firstBoot
  grind

theorem Inv.start {d : Disk} {svc : Service} (installed : d.Installed) (starts : Starts d svc) : Inv lib { svc } := by
  obtain ⟨hash, booted⟩ := starts_installed installed starts
  have none : Logins.credentials { svc } = fun _ => [] := by
    funext username
    rw [Logins.credentials, booted, booted_credentials]
  refine ⟨starts_agrees starts, ?_, nodup_nil, nofun⟩
  rw [none]
  exact ⟨fun _ => nodup_nil, nofun, nofun⟩

/-- A session is minted for a credential that the user has, with a counter above all that were accepted for it. -/
theorem logins_use_live_credentials {d : Disk} {svc : Service} {events : List Event} (documented : lib.Documented)
    (installed : d.Installed) (starts : Starts d svc)
    (ran : Run (fun s event t => Step lib verifyPassword s event t ∧ Calm s event) { svc } events s)
    (minted : Step lib verifyPassword s (.mint l) t) :
    ∃ result, l.stage = .counted result ∧
      (∃ c ∈ s.credentials l.username, c.passkey.credId = result.credId) ∧ Fresh s.accepted result := by
  have inv : Inv lib s := Run.invariant (.start installed starts)
    (fun _ _ _ inv step => inv.step documented step.1 step.2) ran
  cases minted with
  | @mint _ result _ _ _ _ member stage _ =>
    have sound := inv.flight.sound l member
    simp only [Login.Sound, stage] at sound
    obtain ⟨fresh, c, registered, same, -⟩ := sound
    exact ⟨result, stage, ⟨c, registered, same⟩, fresh⟩

end Invariant

/-- An authenticator whose state is its counter, in unary. -/
def tally : Library Nat where
  finish n passkeys := passkeys.head?.bind fun p => if p.state.length < n then some ⟨p.credId, n⟩ else none
  update result p := { p with state := String.ofList (List.replicate (max p.state.length result.counter) '1') }
  counter p := p.state.length

theorem tally_documented : tally.Documented where
  asserted n passkeys result eq := by
    obtain ⟨p, first, eq⟩ := Option.bind_eq_some_iff.mp eq
    split at eq
    next larger =>
      cases eq
      exact ⟨p, mem_of_mem_head? first, rfl, fun _ => larger⟩
    · cases eq
  updated result p := by
    refine ⟨rfl, ?_, fun _ => ?_⟩ <;> simp [tally]

def key : WebauthnCredential := { label := "key", createdAt := 1, passkey := ⟨[7], ""⟩ }

def ofAdmin (stage : Stage) : Login := { username := "admin", passkeys := [key.passkey], stage }

abbrev accepts : String → String → Except AuthError Unit := fun _ _ => .ok ()

/-- A login that has begun when its credential is deleted still ends in a session. -/
theorem deleted_credential_logs_in : ∃ events s t, Run (Step tally accepts) { svc := booted "hash" } events s ∧
      Step tally accepts s (.mint (ofAdmin (.counted ⟨[7], 1⟩))) t ∧ s.credentials "admin" = [] ∧
      t.svc.state.sessions.map (·.username) = ["admin"] := by
  have first : Run (Step tally accepts) { svc := booted "hash" } [] _ := .nil _
  have added := first.snoc (.serve (.call _ (.addWebauthnCredential "admin" key) "0" fun _ => none) id)
  have started := (added.snoc (.read (show Logins.credentials _ "admin" ≠ [] by decide))).snoc
    (.start (l := ofAdmin .read) (by decide) rfl "id" 0)
  have removed := started.snoc (.serve (.call _ (.removeWebauthnCredential "admin" [7]) "0" fun _ => none) id)
  have verified := removed.snoc (.finish (show ofAdmin (.pending "id" 0) ∈ pruneExpiredAuth 0 _ by decide) (by decide) 1)
  have counted := verified.snoc (.count (l := ofAdmin (.verified ⟨[7], 1⟩)) (by decide) rfl "0" fun _ => none)
  exact ⟨_, _, _, counted, .mint (by decide) rfl (.call _ (.mintSessionForWebauthn "admin" "10.0.0.2" 7 "token") "0"
    fun _ => none), rfl, rfl⟩

theorem logins_use_live_credentials_after_boot :
    tally.Documented ∧ ∃ s : Logins, (∃ c ∈ s.credentials "admin", c.passkey.credId = [7]) ∧ Fresh s.accepted ⟨[7], 1⟩ := by
  refine ⟨tally_documented, ?_⟩
  have unused (u : String) : Logins.credentials { svc := booted "hash" } u = [] := booted_credentials
  have first : Run (fun s event t => Step tally accepts s event t ∧ Calm s event) { svc := booted "hash" } [] _ := .nil _
  have added := first.snoc ⟨.serve (.call _ (.addWebauthnCredential "admin" key) "0" fun _ => none) id,
    nofun, fun _ _ _ => ⟨by simp [unused], nofun⟩⟩
  have started := (added.snoc ⟨.read (show Logins.credentials _ "admin" ≠ [] by decide), nofun⟩).snoc
    ⟨.start (l := ofAdmin .read) (by decide) rfl "id" 0, trivial⟩
  have verified := started.snoc
    ⟨.finish (show ofAdmin (.pending "id" 0) ∈ pruneExpiredAuth 0 _ by decide) (by decide) 1, trivial⟩
  have counted := verified.snoc ⟨.count (l := ofAdmin (.verified ⟨[7], 1⟩)) (by decide) rfl "0" fun _ => none,
    by unfold Calm FailsBefore FailsWriting; decide⟩
  obtain ⟨result, stage, live⟩ := logins_use_live_credentials tally_documented (.fresh rfl) starts_booted counted
    (.mint (l := ofAdmin (.counted ⟨[7], 1⟩)) (by decide) rfl
      (.call _ (.mintSessionForWebauthn "admin" "10.0.0.2" 7 "token") "0" fun _ => none))
  cases stage
  exact ⟨_, live⟩

end NastyEngine.Auth.Webauthn
