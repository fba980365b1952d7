import Mathlib.Algebra.Group.Nat.Defs
import NastyEngine.Auth.State
import NastyEngine.Lib.Window

/-!
`AuthService::login` as the steps between which other calls can run. Each step is one critical
section of the rate limiter's lock or of the lock of the auth state; the call that holds the
latter for writing keeps it from before the password check until it returns.
-/

namespace NastyEngine.Auth
open Lib

def maxFailedAttempts : Nat := 5

def lockoutWindowSecs : Nat := 15 * 60

def maxIpFailedAttempts : Nat := 20

def ipLockoutWindowSecs : Nat := 60 * 60

def sessionTtlSecs : Nat := 8 * 3600

structure RateLimitState where
  byUser : String → Option (List Nat) := fun _ => none
  byIp : String → Option (List Nat) := fun _ => none

namespace RateLimitState

def prune (rl : RateLimitState) (now : Nat) : RateLimitState :=
  let retain (window : Nat) (table : String → Option (List Nat)) (key : String) :=
    ((table key).map (recent window now)).filter (· ≠ [])
  { byUser := retain lockoutWindowSecs rl.byUser, byIp := retain ipLockoutWindowSecs rl.byIp }

def failures (window : Nat) (table : String → Option (List Nat)) (key : String) (now : Nat) : Nat :=
  ((table key).map fun v => (recent window now v).length).getD 0

def userFailures (rl : RateLimitState) : String → Nat → Nat := failures lockoutWindowSecs rl.byUser

def ipFailures (rl : RateLimitState) : String → Nat → Nat := failures ipLockoutWindowSecs rl.byIp

/-- `entry(key).or_default()`, then a push and a retain. -/
def pushEntry (window : Nat) (table : String → Option (List Nat)) (key : String) (now : Nat) :
    String → Option (List Nat) :=
  Function.update table key (some (push window now ((table key).getD [])))

def recordFailedAttempt (rl : RateLimitState) (username clientIp : String) (now : Nat) : RateLimitState :=
  { byUser := pushEntry lockoutWindowSecs rl.byUser username now
    byIp := if clientIp ≠ "unknown" then pushEntry ipLockoutWindowSecs rl.byIp clientIp now else rl.byIp }

def clearFailedAttempts (rl : RateLimitState) (username : String) : RateLimitState :=
  { rl with byUser := Function.update rl.byUser username none }

end RateLimitState

structure Call where
  username : String
  password : String
  clientIp : String
  now : Nat
  deriving DecidableEq

def isOnlyAdmin (users : List User) (username : String) : Bool :=
  match users.filter (·.role = .admin) with
  | [admin] => admin.username = username
  | _ => false

def checkIp (rl : RateLimitState) (call : Call) : Except AuthError Unit :=
  if call.clientIp ≠ "unknown" ∧ maxIpFailedAttempts ≤ rl.ipFailures call.clientIp call.now then
    .error .accountLocked
  else .ok ()

def checkUser (rl : RateLimitState) (call : Call) (onlyAdmin : Bool) : Except AuthError Unit :=
  if maxFailedAttempts ≤ rl.userFailures call.username call.now ∧ onlyAdmin = false then
    .error .accountLocked
  else .ok ()

def authenticate (verifyPassword : String → String → Except AuthError Unit) (users : List User) (call : Call) :
    Except AuthError User :=
  match users.find? (·.username = call.username) with
  | none => .error .invalidCredentials
  | some user => match user.passwordHash with
    | none => .error .invalidCredentials
    | some hash => (verifyPassword call.password hash).map fun _ => user

/-- `u64` subtraction in a release build. -/
def wrappingSub (a b : Nat) : Nat := (a + 2 ^ 64 - b) % 2 ^ 64

def AuthState.withSession (auth : AuthState) (call : Call) (user : User) (token : String) : AuthState :=
  let session : Session :=
    { token, username := user.username, role := user.role
      filePrincipal := if user.role = .user then user.filePrincipal else none
      createdAt := call.now, mustChangePassword := user.mustChangePassword, clientIp := some call.clientIp }
  { auth with sessions :=
      (auth.sessions.filter fun s => wrappingSub call.now s.createdAt ≤ sessionTtlSecs) ++ [session] }

/-- How saving the auth state ends; after the rename a failure leaves the new file in place. -/
inductive Persist where
  | saved
  | failed (message : String) (committed : Bool)
  deriving DecidableEq

def finishStateCommit (current next : AuthState) : Persist → AuthState × Except AuthError Unit
  | .saved => (next, .ok ())
  | .failed message committed => (if committed then next else current, .error (.state message))

inductive Phase where
  | started
  | ipPassed
  | roleRead (onlyAdmin : Bool)
  | admitted
  deriving DecidableEq

inductive Stage where
  | locked
  | failed (error : AuthError)
  | recorded (error : AuthError)
  | verified (user : User)
  | cleared (user : User)

inductive Event where
  | failed (call : Call)
  | succeeded (call : Call)

structure System where
  auth : AuthState
  limits : RateLimitState := {}
  waiting : Multiset (Call × Phase) := 0
  holder : Option (Call × Stage) := none
  returned : List (Call × Except AuthError String) := []
  events : List Event := []

inductive Action where
  | arrive (call : Call)
  | checkIp (call : Call)
  | readRole (call : Call)
  | checkUser (call : Call) (onlyAdmin : Bool)
  | lock (call : Call)
  | verify
  | settle
  | finish (token : String) (persist : Persist)
  | changeAuth (auth : AuthState)

namespace System

section
variable (s : System) (call : Call)

def take (phase : Phase) (next : System → System) : Option System :=
  if (call, phase) ∈ s.waiting then some (next { s with waiting := s.waiting.erase (call, phase) })
  else none

def wait (phase : Phase) : System := { s with waiting := (call, phase) ::ₘ s.waiting }

def answer (result : Except AuthError String) : System := { s with returned := (call, result) :: s.returned }

def proceed (phase : Phase) : Except AuthError Unit → System
  | .ok _ => s.wait call phase
  | .error e => s.answer call (.error e)

end

variable (verifyPassword : String → String → Except AuthError Unit)

/-- One step of one call; `none` when it is not possible. The last action stands for the other
operations on the auth state. -/
def step (s : System) : Action → Option System
  | .arrive call => some (s.wait call .started)
  | .checkIp call => s.take call .started fun s => s.proceed call .ipPassed (Auth.checkIp s.limits call)
  | .readRole call =>
    if s.holder.isNone then
      s.take call .ipPassed fun s => s.wait call (.roleRead (isOnlyAdmin s.auth.users call.username))
    else none
  | .checkUser call onlyAdmin =>
    s.take call (.roleRead onlyAdmin) fun s => s.proceed call .admitted (Auth.checkUser s.limits call onlyAdmin)
  | .lock call =>
    if s.holder.isNone then s.take call .admitted fun s => { s with holder := some (call, .locked) }
    else none
  | .verify =>
    match s.holder with
    | some (call, .locked) => match authenticate verifyPassword s.auth.users call with
      | .ok user => some { s with holder := some (call, .verified user), events := .succeeded call :: s.events }
      | .error e => some { s with holder := some (call, .failed e), events := .failed call :: s.events }
    | _ => none
  | .settle =>
    match s.holder with
    | some (call, .failed e) => some { s with
        holder := some (call, .recorded e)
        limits := s.limits.recordFailedAttempt call.username call.clientIp call.now }
    | some (call, .verified user) => some { s with
        holder := some (call, .cleared user)
        limits := s.limits.clearFailedAttempts call.username }
    | _ => none
  | .finish token persist =>
    match s.holder with
    | some (call, .recorded e) => some ({ s with holder := none }.answer call (.error e))
    | some (call, .cleared user) =>
      let (auth, result) := finishStateCommit s.auth (s.auth.withSession call user token) persist
      some ({ s with auth, holder := none }.answer call (result.map fun _ => token))
    | _ => none
  | .changeAuth auth => if s.holder.isNone then some { s with auth } else none

def run (s : System) (actions : List Action) : Option System := actions.foldlM (step verifyPassword) s

inductive Reached (Meets : System → Action → Prop) : System → Prop
  | fresh (auth : AuthState) (limits : RateLimitState) : Reached Meets { auth, limits }
  | step {s t : System} {a : Action} (reached : Reached Meets s) (meets : Meets s a)
      (stepped : s.step verifyPassword a = some t) : Reached Meets t

end System

end NastyEngine.Auth
