import Mathlib.Init

/-! What `auth.json` holds: the users, the login sessions and the API tokens. -/

namespace NastyEngine.Auth

inductive Role where
  | admin
  | readOnly
  | operator
  | user
  deriving DecidableEq

/-- The credential of webauthn-rs: its id, and the rest as the library serializes it. -/
structure Passkey where
  credId : List UInt8
  state : String
  deriving DecidableEq

structure WebauthnCredential where
  label : String
  createdAt : Nat
  passkey : Passkey
  deriving DecidableEq

structure User where
  username : String
  passwordHash : Option String := none
  role : Role
  filePrincipal : Option String := none
  mustChangePassword : Bool := false
  oidcSubject : Option String := none
  oidcIssuer : Option String := none
  webauthnCredentials : List WebauthnCredential := []
  deriving DecidableEq

structure Session where
  token : String
  username : String
  role : Role
  filePrincipal : Option String
  filesystem : Option String := none
  owner : Option String := none
  createdAt : Nat
  mustChangePassword : Bool
  clientIp : Option String
  deriving DecidableEq

/-- `token` is the SHA-256 of the token value. -/
structure ApiToken where
  id : String
  name : String
  token : String
  role : Role
  createdAt : Nat
  filesystem : Option String := none
  expiresAt : Option Nat := none
  allowedIps : List String := []
  deriving DecidableEq

structure AuthState where
  users : List User
  sessions : List Session := []
  apiTokens : List ApiToken := []
  initialized : Bool := true
  deriving DecidableEq

/-- `state` carries the text of an error about the state file. -/
inductive AuthError where
  | invalidCredentials
  | accountLocked
  | invalidToken
  | tokenExpired
  | forbidden
  | userNotFound
  | userExists
  | notFound
  | weakPassword
  | invalidFilePrincipal (message : String)
  | hashError (message : String)
  | state (message : String)
  deriving DecidableEq

end NastyEngine.Auth
