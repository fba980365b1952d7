import NastyEngine.Auth.Login
import NastyEngine.Lib.Result
import NastyEngine.Rust.Text

/-!
Every mutator of `AuthService` takes the write lock, clones the state, works on the clone and
commits it. Each definition here is the part between the lock and the commit: it returns the clone
to be committed, or the error that ends the call. What is drawn at random and the clock reading
are arguments, as are the results of hashing a password and of looking up a principal.
-/

namespace NastyEngine.Auth
open Lib Rust

def retainLive (now : Nat) (sessions : List Session) : List Session :=
  sessions.filter fun s => wrappingSub now s.createdAt ≤ sessionTtlSecs

def User.session (user : User) (token : String) (now : Nat) (clientIp : String) (mustChangePassword : Bool) : Session :=
  { token, username := user.username, role := user.role
    filePrincipal := if user.role = .user then user.filePrincipal else none
    createdAt := now, mustChangePassword, clientIp := some clientIp }

def findUser (users : List User) (username : String) : Option User := users.find? (·.username = username)

def updateUser (users : List User) (username : String) (f : User → User) : List User :=
  users.replaceF fun u => if u.username = username then some (f u) else none

def revokeUserSessions (sessions : List Session) (username : String) : List Session :=
  sessions.filter (·.username ≠ username)

def revokeSessionsAfterPasswordChange (sessions : List Session) (target actor currentToken : String) : List Session :=
  let kept := sessions.filter fun s => s.username ≠ target ∨ (target = actor ∧ s.token = currentToken)
  if target = actor then
    kept.replaceF fun s => if s.token = currentToken then some { s with mustChangePassword := false } else none
  else kept

def login (verifyPassword : String → String → Except AuthError Unit) (call : Call) (token : String)
    (state : AuthState) : Except AuthError AuthState := do
  let user ← authenticate verifyPassword state.users call
  return state.withSession call user token

structure OidcIdentity where
  issuer : String
  subject : String
  email : Option String := none
  preferredUsername : Option String := none
  deriving DecidableEq

def OidcIdentity.matches (identity : OidcIdentity) (user : User) : Bool :=
  user.oidcSubject = some identity.subject ∧ user.oidcIssuer = some identity.issuer

def OidcIdentity.base (identity : OidcIdentity) : String :=
  let localPart := identity.email.map fun e => String.ofList (e.toList.takeWhile (· ≠ '@'))
  let base := (identity.preferredUsername.or localPart).getD identity.subject
  let base := String.ofList (trim base.toList)
  if base = "" then identity.subject else base

def suffixed (base : String) (n : Nat) : String := base ++ "-" ++ n.repr

/-- The loop over suffixes from `n` on. It finds a free name before the bound runs out, see
`firstFree_free`. -/
def firstFree (taken : List String) (base : String) : Nat → Nat → String
  | 0, n => suffixed base n
  | bound + 1, n => if suffixed base n ∈ taken then firstFree taken base bound (n + 1) else suffixed base n

def pickUsername (users : List User) (identity : OidcIdentity) : String :=
  let taken := users.map (·.username)
  if identity.base ∉ taken then identity.base else firstFree taken identity.base taken.length 2

def OidcIdentity.newUser (identity : OidcIdentity) (users : List User) (role : Role) : User :=
  { username := pickUsername users identity, role
    oidcSubject := some identity.subject, oidcIssuer := some identity.issuer }

def resolveOidcUser (identity : OidcIdentity) (role : Role) (autoProvision : Bool) (users : List User) :
    Except AuthError (List User × User) :=
  match users.find? identity.matches with
  | some user => .ok (users, user)
  | none =>
    if autoProvision then .ok (users ++ [identity.newUser users role], identity.newUser users role)
    else .error .userNotFound

def User.withRole (user : User) (role : Role) : User :=
  if user.role ≠ role then
    { user with role, filePrincipal := if role ≠ .user then none else user.filePrincipal }
  else user

def boundPrincipal (users : List User) (identity : OidcIdentity) : Option String :=
  (users.find? identity.matches).bind (·.filePrincipal)

/-- The end of an OIDC login: the role is brought up to date, which ends the other sessions if it
changed, and a session is opened. -/
def AuthState.withOidcSession (state : AuthState) (identity : OidcIdentity) (role : Role) (users : List User)
    (prior : User) (clientIp : String) (now : Nat) (token : String) : AuthState :=
  let user := prior.withRole role
  let sessions := if prior.role ≠ role then revokeUserSessions state.sessions prior.username
    else state.sessions
  { state with
    users := users.replaceF fun u => if identity.matches u then some user else none
    sessions := retainLive now sessions ++ [user.session token now clientIp false] }

def loginOrProvisionOidc (identity : OidcIdentity) (derivedRole : Option Role) (autoProvision : Bool)
    (clientIp : String) (now : Nat) (token : String) (state : AuthState) : Except AuthError AuthState := do
  let role ← okOr derivedRole .forbidden
  require (role = .user → (boundPrincipal state.users identity).any (· ≠ "") = true) .forbidden
  let (users, prior) ← resolveOidcUser identity role autoProvision state.users
  return state.withOidcSession identity role users prior clientIp now token

def mintSessionForWebauthn (username clientIp : String) (now : Nat) (token : String) (state : AuthState) :
    Except AuthError AuthState := do
  let user ← okOr (findUser state.users username) .userNotFound
  return { state with
    sessions := retainLive now state.sessions ++ [user.session token now clientIp false] }

/-- `validate` of a stored session: `none` if there is no such session, and the error of one that is
too old or comes from another address. -/
def validateSession (state : AuthState) (token clientIp : String) (now : Nat) : Option (Except AuthError Session) :=
  (state.sessions.find? (·.token = token)).map fun session =>
    if sessionTtlSecs < wrappingSub now session.createdAt then .error .tokenExpired
    else if session.clientIp.any (· ≠ clientIp) then .error .invalidToken
    else .ok session

def ApiToken.session (t : ApiToken) (token : String) : Session :=
  { token, username := t.name, role := t.role, filePrincipal := none, filesystem := t.filesystem
    owner := if t.role = .operator then some t.name else none
    createdAt := t.createdAt, mustChangePassword := false, clientIp := none }

def validateApiToken (hashToken : String → String) (state : AuthState) (token clientIp : String) (now : Nat) :
    Except AuthError Session := do
  let t ← okOr (state.apiTokens.find? (·.token = hashToken token)) .invalidToken
  require (t.expiresAt.all (now < ·) = true) .tokenExpired
  require (t.allowedIps = [] ∨ clientIp ∈ t.allowedIps) .invalidToken
  return t.session token

def validate (hashToken : String → String) (state : AuthState) (token clientIp : String) (now : Nat) :
    Except AuthError Session :=
  (validateSession state token clientIp now).getD (validateApiToken hashToken state token clientIp now)

def dropSession (token : String) (state : AuthState) : AuthState :=
  { state with sessions := state.sessions.filter (·.token ≠ token) }

structure ApiTokenRequest where
  name : String
  role : Role
  filesystem : Option String := none
  expiresInSecs : Option Nat := none
  allowedIps : List String := []
  deriving DecidableEq

def createApiToken (session : Session) (request : ApiTokenRequest) (id tokenHash : String) (createdAt : Nat)
    (state : AuthState) : Except AuthError AuthState := do
  require (session.role = .admin) .forbidden
  require (request.role ≠ .user) .forbidden
  require (request.name ∉ state.apiTokens.map (·.name) ∧ request.name ∉ state.users.map (·.username)) .userExists
  let stored : ApiToken :=
    { id, name := request.name, token := tokenHash, role := request.role, createdAt
      filesystem := request.filesystem
      expiresAt := request.expiresInSecs.map fun s => (createdAt + s) % 2 ^ 64
      allowedIps := request.allowedIps }
  return { state with apiTokens := state.apiTokens ++ [stored] }

def deleteApiToken (session : Session) (id : String) (state : AuthState) : Except AuthError AuthState := do
  require (session.role = .admin) .forbidden
  let kept := state.apiTokens.filter (·.id ≠ id)
  require (kept.length ≠ state.apiTokens.length) .userNotFound
  return { state with apiTokens := kept }

def logout (token : String) (state : AuthState) : Except AuthError AuthState := do
  let kept := state.sessions.filter (·.token ≠ token)
  require (kept.length ≠ state.sessions.length) .invalidToken
  return { state with sessions := kept }

def changePassword (session : Session) (username newPassword : String) (hashed : Except AuthError String)
    (state : AuthState) : Except AuthError AuthState := do
  require (session.clientIp ≠ none) .forbidden
  require (session.role = .admin ∨ session.username = username) .forbidden
  require (8 ≤ strLen newPassword.toList) .weakPassword
  let _ ← okOr (findUser state.users username) .userNotFound
  let hash ← hashed
  return { state with
    users := updateUser state.users username
      ({ · with passwordHash := some hash, mustChangePassword := false })
    sessions := revokeSessionsAfterPasswordChange state.sessions username session.username session.token }

def validateFilePrincipalBinding (role : Role) (filePrincipal : Option String) : Except AuthError (Option String) :=
  match role with
  | .user => do
    let trimmed := filePrincipal.map fun p => trim p.toList
    let principal ← okOr (trimmed.filter (· ≠ []))
      (.invalidFilePrincipal "Role::User requires a non-empty file_principal")
    require (strLen principal ≤ 256 ∧ principal.any isControl = false)
      (.invalidFilePrincipal "principal is too long or contains control characters")
    return some (String.ofList principal)
  | .admin | .operator | .readOnly => do
    require (filePrincipal = none) (.invalidFilePrincipal "file_principal is only valid for Role::User")
    return none

structure NewUser where
  username : String
  password : String
  role : Role
  filePrincipal : Option String := none
  deriving DecidableEq

/-- `resolved` is what the SMB service says about the principal. -/
def createUser (session : Session) (request : NewUser) (resolved : Except String Unit)
    (hashed : Except AuthError String) (state : AuthState) : Except AuthError AuthState := do
  require (session.role = .admin) .forbidden
  require (8 ≤ strLen request.password.toList) .weakPassword
  let filePrincipal ← validateFilePrincipalBinding request.role request.filePrincipal
  (if filePrincipal.isSome then resolved.mapError .invalidFilePrincipal else .ok ())
  require (request.username ∉ state.users.map (·.username) ∧ request.username ∉ state.apiTokens.map (·.name)) .userExists
  let hash ← hashed
  let user : User := { username := request.username, passwordHash := some hash, role := request.role, filePrincipal }
  return { state with users := state.users ++ [user] }

def deleteUser (session : Session) (username : String) (state : AuthState) : Except AuthError AuthState := do
  require (session.role = .admin) .forbidden
  require (session.username ≠ username) .forbidden
  let kept := state.users.filter (·.username ≠ username)
  require (kept.length ≠ state.users.length) .userNotFound
  return { state with users := kept, sessions := revokeUserSessions state.sessions username }

def addWebauthnCredential (username : String) (credential : WebauthnCredential) (state : AuthState) :
    Except AuthError AuthState := do
  let _ ← okOr (findUser state.users username) .userNotFound
  return { state with users := updateUser state.users username fun u =>
    { u with webauthnCredentials := u.webauthnCredentials ++ [credential] } }

def removeWebauthnCredential (username : String) (credId : List UInt8) (state : AuthState) :
    Except AuthError AuthState := do
  let user ← okOr (findUser state.users username) .userNotFound
  let kept := user.webauthnCredentials.filter (·.passkey.credId ≠ credId)
  require (kept.length ≠ user.webauthnCredentials.length) .notFound
  return { state with users := updateUser state.users username ({ · with webauthnCredentials := kept }) }

def resetWebauthnCredentials (actor : Session) (username : String) (state : AuthState) : Except AuthError AuthState := do
  require (actor.role = .admin) .forbidden
  let _ ← okOr (findUser state.users username) .userNotFound
  return { state with users := updateUser state.users username ({ · with webauthnCredentials := [] }) }

/-- `updated` is the credential after `update_credential` of webauthn-rs. -/
def updateWebauthnSignCount (username : String) (credId : List UInt8) (updated : Passkey → Passkey)
    (state : AuthState) : Except AuthError AuthState := do
  let user ← okOr (findUser state.users username) .userNotFound
  let _ ← okOr (user.webauthnCredentials.find? (·.passkey.credId = credId)) .notFound
  let credentials := user.webauthnCredentials.replaceF fun c =>
    if c.passkey.credId = credId then some { c with passkey := updated c.passkey } else none
  return { state with
    users := updateUser state.users username ({ · with webauthnCredentials := credentials }) }

inductive Op where
  | login (call : Call) (token : String)
  | loginOrProvisionOidc (identity : OidcIdentity) (derivedRole : Option Role) (autoProvision : Bool)
      (clientIp : String) (now : Nat) (token : String)
  | mintSessionForWebauthn (username clientIp : String) (now : Nat) (token : String)
  | dropSession (token : String)
  | createApiToken (session : Session) (request : ApiTokenRequest) (id tokenHash : String) (createdAt : Nat)
  | deleteApiToken (session : Session) (id : String)
  | logout (token : String)
  | changePassword (session : Session) (username newPassword : String) (hashed : Except AuthError String)
  | createUser (session : Session) (request : NewUser) (resolved : Except String Unit)
      (hashed : Except AuthError String)
  | deleteUser (session : Session) (username : String)
  | addWebauthnCredential (username : String) (credential : WebauthnCredential)
  | removeWebauthnCredential (username : String) (credId : List UInt8)
  | resetWebauthnCredentials (actor : Session) (username : String)
  | updateWebauthnSignCount (username : String) (credId : List UInt8) (updated : Passkey → Passkey)

def Op.plan (verifyPassword : String → String → Except AuthError Unit) : Op → AuthState → Except AuthError AuthState
  | .login call token => Auth.login verifyPassword call token
  | .loginOrProvisionOidc identity derivedRole autoProvision clientIp now token =>
    Auth.loginOrProvisionOidc identity derivedRole autoProvision clientIp now token
  | .mintSessionForWebauthn username clientIp now token =>
    Auth.mintSessionForWebauthn username clientIp now token
  | .dropSession token => fun state => .ok (Auth.dropSession token state)
  | .createApiToken session request id tokenHash createdAt =>
    Auth.createApiToken session request id tokenHash createdAt
  | .deleteApiToken session id => Auth.deleteApiToken session id
  | .logout token => Auth.logout token
  | .changePassword session username newPassword hashed =>
    Auth.changePassword session username newPassword hashed
  | .createUser session request resolved hashed => Auth.createUser session request resolved hashed
  | .deleteUser session username => Auth.deleteUser session username
  | .addWebauthnCredential username credential => Auth.addWebauthnCredential username credential
  | .removeWebauthnCredential username credId => Auth.removeWebauthnCredential username credId
  | .resetWebauthnCredentials actor username => Auth.resetWebauthnCredentials actor username
  | .updateWebauthnSignCount username credId updated => Auth.updateWebauthnSignCount username credId updated

end NastyEngine.Auth
