import NastyEngine.Auth.Login
import Mathlib.Algebra.Order.Group.Multiset

/-!
The limiter is read before the lock of the auth state is taken and written after the password check, so
calls that have passed the check are not counted yet.
-/

namespace NastyEngine.Auth
open Lib Multiset

/-- One of the two limits: what it is kept for, when it is checked and whether a successful login
clears it. -/
structure Bucket where
  window : Nat
  limit : Nat
  key : Call → String
  past : Phase → Bool
  log : RateLimitState → String → List Nat
  resets : Bool

def userBucket : Bucket :=
  { window := lockoutWindowSecs, limit := maxFailedAttempts, key := (·.username)
    past := fun phase => phase = .admitted, log := fun rl key => (rl.byUser key).getD [], resets := true }

def ipBucket : Bucket :=
  { window := ipLockoutWindowSecs, limit := maxIpFailedAttempts, key := (·.clientIp)
    past := fun phase => phase ≠ .started, log := fun rl key => (rl.byIp key).getD [], resets := false }

namespace Bucket
variable (b : Bucket) (k : String)

/-- The stamps of the failed checks for a key, since the last success where that resets the limit. -/
def failures : List Event → List Nat
  | [] => []
  | .failed call :: rest => if b.key call = k then call.now :: failures rest else failures rest
  | .succeeded call :: rest => if b.resets = true ∧ b.key call = k then [] else failures rest

def queued (waiting : Multiset (Call × Phase)) : Multiset Nat :=
  (waiting.filter fun e => b.key e.1 = k ∧ b.past e.2 = true).map (·.1.now)

def verifying : Option (Call × Stage) → Multiset Nat
  | some (call, .locked) => if b.key call = k then {call.now} else 0
  | _ => 0

def unlogged : Option (Call × Stage) → List Nat
  | some (call, .failed _) => if b.key call = k then [call.now] else []
  | _ => []

def pending (s : System) : Multiset Nat := b.queued k s.waiting + b.verifying k s.holder

def unfinished (s : System) : Nat := card (b.pending k s) + (b.unlogged k s.holder).length

/-- The call fits under the limit with the failures counted and the calls past the check, and its
clock reading is not older than a recorded one. -/
def Fits (s : System) (call : Call) : Prop :=
  (∀ t ∈ b.log s.limits k, t ≤ call.now) ∧
    (recent b.window call.now (b.log s.limits k)).length + b.unfinished k s < b.limit

structure Inv (s : System) : Prop where
  sparse : Sparse b.window b.limit (↑(b.failures k s.events) + b.pending k s)
  tracks : ∃ older, b.failures k s.events = b.unlogged k s.holder ++ older ∧ Tracks b.window (b.log s.limits k) older
  redeemed : ∀ call user, s.holder = some (call, .verified user) → b.resets = true → b.key call = k →
    b.failures k s.events = []

structure Lawful : Prop where
  wide : 0 < b.window
  record : ∀ rl call, b.log (RateLimitState.recordFailedAttempt rl call.username call.clientIp call.now) k =
    if b.key call = k then push b.window call.now (b.log rl k) else b.log rl k
  clear : ∀ rl call, b.log (RateLimitState.clearFailedAttempts rl call.username) k =
    if b.resets = true ∧ b.key call = k then [] else b.log rl k
  started : b.past .started = false
  admitted : b.past .admitted = true
  roleRead : ∀ onlyAdmin, b.past (.roleRead onlyAdmin) = true → b.past .ipPassed = true

end Bucket

open Bucket

theorem failures_eq (window : Nat) (table : String → Option (List Nat)) (key : String) (now : Nat) :
    RateLimitState.failures window table key now = (recent window now ((table key).getD [])).length := by
  unfold RateLimitState.failures
  cases table key <;> rfl

theorem getD_pushEntry (window : Nat) (table : String → Option (List Nat)) (key k : String) (now : Nat) :
    (RateLimitState.pushEntry window table key now k).getD [] =
      if key = k then push window now ((table k).getD []) else (table k).getD [] := by
  unfold RateLimitState.pushEntry
  by_cases own : key = k
  · subst own
    simp
  · rw [Function.update_of_ne (Ne.symm own), if_neg own]

theorem userBucket_lawful {username : String} : userBucket.Lawful username where
  wide := by decide
  record rl call := getD_pushEntry ..
  clear rl call := by
    by_cases own : call.username = username
    · subst own
      simp [userBucket, RateLimitState.clearFailedAttempts]
    · simp [userBucket, RateLimitState.clearFailedAttempts, own, Function.update_of_ne (Ne.symm own)]
  started := rfl
  admitted := rfl
  roleRead _ := nofun

theorem ipBucket_lawful {clientIp : String} (known : clientIp ≠ "unknown") : ipBucket.Lawful clientIp where
  wide := by decide
  record rl call := by
    by_cases skipped : call.clientIp = "unknown"
    · simp [ipBucket, RateLimitState.recordFailedAttempt, skipped, Ne.symm known]
    · have recorded : (rl.recordFailedAttempt call.username call.clientIp call.now).byIp =
          RateLimitState.pushEntry ipLockoutWindowSecs rl.byIp call.clientIp call.now := if_pos skipped
      change ((rl.recordFailedAttempt call.username call.clientIp call.now).byIp clientIp).getD [] = _
      rw [recorded]
      exact getD_pushEntry ..
  clear _ _ := rfl
  started := rfl
  admitted := rfl
  roleRead _ _ := rfl

variable {b : Bucket} {k : String} {s t : System} {verifyPassword : String → String → Except AuthError Unit}

theorem queued_cons (call : Call) (phase : Phase) (rest : Multiset (Call × Phase)) : b.queued k ((call, phase) ::ₘ rest) =
      (if b.key call = k ∧ b.past phase = true then {call.now} else 0) + b.queued k rest := by
  unfold queued
  rw [filter_cons, map_add]
  congr 1
  split <;> rfl

variable {call : Call} {phase next : Phase}

theorem queued_erase {waiting : Multiset (Call × Phase)} (mem : (call, phase) ∈ waiting) :
    b.queued k waiting = (if b.key call = k ∧ b.past phase = true then {call.now} else 0) +
      b.queued k (waiting.erase (call, phase)) := by
  rw [← queued_cons, cons_erase mem]

section
variable (inv : b.Inv k s)
include inv

theorem Bucket.Inv.keep (events : t.events = s.events)
    (log : b.log t.limits k = b.log s.limits k) (unlogged : b.unlogged k t.holder = b.unlogged k s.holder)
    (pending : b.pending k t ≤ b.pending k s)
    (verified : ∀ call user, t.holder = some (call, .verified user) → s.holder = some (call, .verified user)) :
    b.Inv k t := by
  obtain ⟨sparse, tracks, redeemed⟩ := inv
  refine ⟨?_, ?_, fun call user held => ?_⟩
  · rw [events]
    exact sparse.mono (Multiset.add_le_add_iff_left.mpr pending)
  · rw [events, unlogged, log]
    exact tracks
  · rw [events]
    exact redeemed call user (verified call user held)

theorem Bucket.Inv.few (fits : b.Fits k s call) :
    (↑(b.failures k s.events) + b.pending k s : Multiset Nat).countP (fun t => call.now - t < b.window) <
      b.limit := by
  obtain ⟨newest, fits⟩ := fits
  obtain ⟨older, split, tracks⟩ := inv.tracks
  have logged := tracks call.now newest
  have unlogged : (recent b.window call.now (b.unlogged k s.holder)).length ≤
      (b.unlogged k s.holder).length := List.length_filter_le ..
  have queue : (b.pending k s).countP (fun t => call.now - t < b.window) ≤ card (b.pending k s) :=
    countP_le_card ..
  unfold unfinished at fits
  rw [countP_add, countP_eq_recent, split, recent_append, List.length_append]
  omega

theorem Bucket.Inv.move (mem : (call, phase) ∈ s.waiting)
    (admits : b.key call = k → b.past next = true → b.past phase = true ∨ b.Fits k s call) :
    b.Inv k ({ s with waiting := s.waiting.erase (call, phase) }.wait call next) := by
  have before : b.pending k s = (if b.key call = k ∧ b.past phase = true then {call.now} else 0) +
      b.queued k (s.waiting.erase (call, phase)) + b.verifying k s.holder := by
    rw [pending, queued_erase mem]
  have after : b.pending k ({ s with waiting := s.waiting.erase (call, phase) }.wait call next) =
      (if b.key call = k ∧ b.past next = true then {call.now} else 0) +
        b.queued k (s.waiting.erase (call, phase)) + b.verifying k s.holder := by
    rw [pending, System.wait, queued_cons]
  by_cases passes : b.key call = k ∧ b.past next = true
  · by_cases passed : b.past phase = true
    · refine inv.keep rfl rfl rfl (le_of_eq ?_) fun _ _ => id
      rw [before, after, if_pos passes, if_pos ⟨passes.1, passed⟩]
    · have few := inv.few ((admits passes.1 passes.2).resolve_left passed)
      refine ⟨?_, inv.tracks, inv.redeemed⟩
      have ok : b.pending k ({ s with waiting := s.waiting.erase (call, phase) }.wait call next) =
          call.now ::ₘ b.pending k s := by
        rw [before, after, if_pos passes, if_neg fun counted => passed counted.2, zero_add, add_assoc,
          singleton_add]
      rw [ok, add_cons]
      exact inv.sparse.cons few
  · refine inv.keep rfl rfl rfl ?_ fun _ _ => id
    rw [before, after, if_neg passes, zero_add, add_assoc]
    exact le_add_left _ _

theorem Bucket.Inv.leave (mem : (call, phase) ∈ s.waiting) : b.Inv k { s with waiting := s.waiting.erase (call, phase) } := by
  refine inv.keep rfl rfl rfl ?_ fun _ _ => id
  rw [pending, pending, queued_erase mem, add_assoc]
  exact le_add_left _ _

end

theorem take_some {next : System → System} (taken : s.take call phase next = some t) :
    (call, phase) ∈ s.waiting ∧ t = next { s with waiting := s.waiting.erase (call, phase) } := by
  unfold System.take at taken
  split at taken
  next mem =>
    exact ⟨mem, (Option.some.inj taken).symm⟩
  · cases taken

theorem Bucket.Inv.proceed (inv : b.Inv k s) {check : Except AuthError Unit} (mem : (call, phase) ∈ s.waiting)
    (admits : check = .ok () → b.key call = k → b.past next = true → b.past phase = true ∨ b.Fits k s call) :
    b.Inv k ({ s with waiting := s.waiting.erase (call, phase) }.proceed call next check) := by
  cases check with
  | ok => exact inv.move mem (admits rfl)
  | error e => exact (inv.leave mem).keep rfl rfl rfl le_rfl fun _ _ => id

theorem Bucket.Inv.lock (lawful : b.Lawful k) (inv : b.Inv k s) (mem : (call, .admitted) ∈ s.waiting)
    (free : s.holder = none) :
    b.Inv k { s with waiting := s.waiting.erase (call, .admitted), holder := some (call, .locked) } := by
  refine inv.keep rfl rfl ?_ (le_of_eq ?_) fun _ _ held => by cases held
  · rw [free]
    rfl
  · rw [pending, pending, queued_erase mem, free, lawful.admitted]
    simp only [verifying, and_true, add_zero]
    exact add_comm _ _

section
variable (inv : b.Inv k s) (held : s.holder = some (call, .locked))
include inv held

theorem Bucket.Inv.locked : Sparse b.window b.limit (↑(b.failures k s.events) +
        (b.queued k s.waiting + if b.key call = k then {call.now} else 0)) ∧
      Tracks b.window (b.log s.limits k) (b.failures k s.events) := by
  obtain ⟨sparse, ⟨older, split, tracks⟩, -⟩ := inv
  rw [pending, held] at sparse
  rw [held] at split
  exact ⟨sparse, (show b.failures k s.events = older from split) ▸ tracks⟩

theorem Bucket.Inv.failed (e : AuthError) :
    b.Inv k { s with holder := some (call, .failed e), events := .failed call :: s.events } := by
  obtain ⟨sparse, tracks⟩ := inv.locked held
  refine ⟨?_, ⟨b.failures k s.events, ?_, tracks⟩, fun _ _ held => by cases held⟩
  · -- the pending stamp becomes the stamp of a failure
    simp only [pending, verifying, add_zero, failures]
    split
    next own =>
      rw [if_pos own, ← add_assoc] at sparse
      rwa [← cons_coe, cons_add, ← singleton_add, add_comm]
    next ne =>
      rwa [if_neg ne, add_zero] at sparse
  · simp only [failures, unlogged]
    split <;> rfl

theorem Bucket.Inv.succeeded (user : User) :
    b.Inv k { s with holder := some (call, .verified user), events := .succeeded call :: s.events } := by
  obtain ⟨sparse, tracks⟩ := inv.locked held
  rw [← add_assoc] at sparse
  by_cases redeems : b.resets = true ∧ b.key call = k
  · have none : b.failures k (.succeeded call :: s.events) = [] := if_pos redeems
    refine ⟨?_, ⟨[], none, tracks_nil⟩, fun _ _ _ _ _ => none⟩
    rw [none]
    simp only [pending, verifying, add_zero, coe_nil, zero_add]
    exact sparse.mono ((le_add_left _ _).trans (le_add_right _ _))
  · have eq : b.failures k (.succeeded call :: s.events) = b.failures k s.events := if_neg redeems
    refine ⟨?_, ⟨_, eq, tracks⟩, ?_⟩
    · rw [eq]
      simp only [pending, verifying, add_zero]
      exact sparse.mono (le_add_right _ _)
    · rintro other _ ⟨⟩ resets own
      exact absurd ⟨resets, own⟩ redeems

end

theorem Bucket.Inv.recorded (lawful : b.Lawful k) (inv : b.Inv k s) {e : AuthError}
    (held : s.holder = some (call, .failed e)) :
    b.Inv k { s with
      holder := some (call, .recorded e)
      limits := s.limits.recordFailedAttempt call.username call.clientIp call.now } := by
  obtain ⟨sparse, ⟨older, split, tracks⟩, -⟩ := inv
  rw [pending, held] at sparse
  rw [held] at split
  refine ⟨sparse, ⟨b.failures k s.events, rfl, ?_⟩, fun _ _ held => by cases held⟩
  rw [lawful.record]
  simp only [unlogged] at split
  split
  next own =>
    rw [split, if_pos own]
    exact tracks.push lawful.wide
  next ne =>
    rw [split, if_neg ne]
    exact tracks

theorem Bucket.Inv.cleared (lawful : b.Lawful k) (inv : b.Inv k s) {user : User}
    (held : s.holder = some (call, .verified user)) :
    b.Inv k { s with
      holder := some (call, .cleared user), limits := s.limits.clearFailedAttempts call.username } := by
  obtain ⟨sparse, ⟨older, split, tracks⟩, redeemed⟩ := inv
  rw [pending, held] at sparse
  rw [held] at split
  refine ⟨sparse, ⟨older, split, ?_⟩, fun _ _ held => by cases held⟩
  rw [lawful.clear]
  split
  next redeems =>
    have none : older = [] := split.symm.trans (redeemed call user held redeems.1 redeems.2)
    rw [none]
    exact tracks_nil
  · exact tracks

theorem Bucket.Inv.verify (inv : b.Inv k s) (stepped : s.step verifyPassword .verify = some t) : b.Inv k t := by
  simp only [System.step] at stepped
  split at stepped
  next call held =>
    split at stepped <;> cases stepped
    · exact inv.succeeded held _
    · exact inv.failed held _
  · cases stepped

theorem Bucket.Inv.settle (lawful : b.Lawful k) (inv : b.Inv k s)
    (stepped : s.step verifyPassword .settle = some t) : b.Inv k t := by
  simp only [System.step] at stepped
  split at stepped
  next held =>
    cases stepped
    exact inv.recorded lawful held
  next held =>
    cases stepped
    exact inv.cleared lawful held
  · cases stepped

theorem Bucket.Inv.release (inv : b.Inv k s) (unlogged : b.unlogged k s.holder = [])
    (verifying : b.verifying k s.holder = 0) (auth : AuthState)
    (returned : List (Call × Except AuthError String)) :
    b.Inv k { s with auth, holder := none, returned } := by
  refine inv.keep rfl rfl unlogged.symm (le_of_eq ?_) fun _ _ held => by cases held
  rw [pending, pending, verifying]
  rfl

theorem Bucket.Inv.finish (inv : b.Inv k s) {token : String} {persist : Persist}
    (stepped : s.step verifyPassword (.finish token persist) = some t) : b.Inv k t := by
  simp only [System.step] at stepped
  split at stepped
  next held =>
    cases stepped
    exact inv.release (by rw [held]; rfl) (by rw [held]; rfl) _ _
  next held =>
    cases stepped
    exact inv.release (by rw [held]; rfl) (by rw [held]; rfl) _ _
  · cases stepped

theorem Bucket.Inv.step (lawful : b.Lawful k) (inv : b.Inv k s) {a : Action}
    (ip : ∀ call, a = .checkIp call → checkIp s.limits call = .ok () → b.key call = k →
      b.past .ipPassed = true → b.Fits k s call)
    (user : ∀ call onlyAdmin, a = .checkUser call onlyAdmin → (call, .roleRead onlyAdmin) ∈ s.waiting →
      checkUser s.limits call onlyAdmin = .ok () → b.key call = k → b.past (.roleRead onlyAdmin) = false →
      b.Fits k s call)
    (stepped : s.step verifyPassword a = some t) : b.Inv k t := by
  cases a with
  | arrive call =>
    cases stepped
    refine inv.keep rfl rfl rfl (le_of_eq ?_) fun _ _ => id
    rw [pending, System.wait, queued_cons, lawful.started]
    simp [pending]
  | checkIp call =>
    simp only [System.step] at stepped
    obtain ⟨mem, rfl⟩ := take_some stepped
    exact inv.proceed mem fun passed own past => .inr (ip call rfl passed own past)
  | readRole call =>
    simp only [System.step] at stepped
    split at stepped
    · obtain ⟨mem, rfl⟩ := take_some stepped
      exact inv.move mem fun _ past => .inl (lawful.roleRead _ past)
    · cases stepped
  | checkUser call onlyAdmin =>
    simp only [System.step] at stepped
    obtain ⟨mem, rfl⟩ := take_some stepped
    refine inv.proceed mem fun passed own _ => ?_
    cases before : b.past (.roleRead onlyAdmin) with
    | true => exact .inl rfl
    | false => exact .inr (user call onlyAdmin rfl mem passed own before)
  | lock call =>
    simp only [System.step] at stepped
    split at stepped
    next free =>
      obtain ⟨mem, rfl⟩ := take_some stepped
      exact inv.lock lawful mem (Option.isNone_iff_eq_none.mp free)
    · cases stepped
  | verify => exact inv.verify stepped
  | settle => exact inv.settle lawful stepped
  | finish token persist => exact inv.finish stepped
  | changeAuth auth =>
    simp only [System.step] at stepped
    split at stepped <;> cases stepped
    exact inv.keep rfl rfl rfl le_rfl fun _ _ => id

theorem Bucket.inv_fresh {auth : AuthState} {limits : RateLimitState} : b.Inv k { auth, limits } :=
  ⟨fun _ => Nat.zero_le _, ⟨[], rfl, tracks_nil⟩, fun _ _ held => by cases held⟩

def SpacedUser (username : String) (s : System) : Action → Prop
  | .readRole call => call.username = username → isOnlyAdmin s.auth.users username = false
  | .checkUser call _ => call.username = username →
      s.limits.userFailures username call.now < maxFailedAttempts → userBucket.Fits username s call
  | _ => True

def SpacedIp (clientIp : String) (s : System) : Action → Prop
  | .checkIp call => call.clientIp = clientIp →
      s.limits.ipFailures clientIp call.now < maxIpFailedAttempts → ipBucket.Fits clientIp s call
  | _ => True

def Lockable (username : String) (s : System) : Prop :=
  ∀ call : Call, call.username = username → (call, .roleRead true) ∉ s.waiting

theorem mem_wait {e : Call × Phase}
    (mem : e ∈ ({ s with waiting := s.waiting.erase (call, phase) }.wait call next).waiting) :
    e = (call, next) ∨ e ∈ s.waiting :=
  (mem_cons.mp mem).imp_right mem_of_mem_erase

theorem mem_proceed {check : Except AuthError Unit} {e : Call × Phase}
    (mem : e ∈ ({ s with waiting := s.waiting.erase (call, phase) }.proceed call next check).waiting) :
    e = (call, next) ∨ e ∈ s.waiting := by
  cases check with
  | ok => exact mem_wait mem
  | error => exact .inr (mem_of_mem_erase mem)

theorem Lockable.step {username : String} (lockable : Lockable username s) {a : Action} (spaced : SpacedUser username s a)
    (stepped : s.step verifyPassword a = some t) : Lockable username t := by
  intro call own mem
  cases a with
  | arrive other =>
    cases stepped
    rcases mem_cons.mp mem with new | old
    · cases new
    · exact lockable call own old
  | checkIp other | checkUser other onlyAdmin =>
    simp only [System.step] at stepped
    obtain ⟨hm, rfl⟩ := take_some stepped
    rcases mem_proceed mem with new | old
    · cases new
    · exact lockable call own old
  | readRole other =>
    simp only [System.step] at stepped
    split at stepped
    · obtain ⟨hm, rfl⟩ := take_some stepped
      rcases mem_wait mem with new | old
      · obtain ⟨rfl, read⟩ := Prod.mk.inj new
        have admin := Phase.roleRead.inj read
        rw [own, spaced own] at admin
        cases admin
      · exact lockable call own old
    · cases stepped
  | lock other =>
    simp only [System.step] at stepped
    split at stepped
    · obtain ⟨hm, rfl⟩ := take_some stepped
      exact lockable call own (mem_of_mem_erase mem)
    · cases stepped
  | verify | settle | finish token persist | changeAuth auth =>
    simp only [System.step] at stepped
    repeat' split at stepped
    all_goals cases stepped
    all_goals exact lockable call own mem

theorem user_inv {username : String} (reached : s.Reached verifyPassword (SpacedUser username)) :
    userBucket.Inv username s ∧ Lockable username s := by
  induction reached with
  | fresh auth limits => exact ⟨inv_fresh, fun _ _ => notMem_zero _⟩
  | step reached spaced stepped ih =>
    obtain ⟨inv, lockable⟩ := ih
    refine ⟨inv.step userBucket_lawful ?_ ?_ stepped, lockable.step spaced stepped⟩
    · intro _ _ _ _ early
      cases early
    · rintro call onlyAdmin rfl mem passed rfl -
      refine spaced rfl ?_
      unfold checkUser at passed
      split at passed
      · cases passed
      next few =>
        cases onlyAdmin with
        | true => exact absurd mem (lockable call rfl)
        | false => exact Nat.lt_of_not_le fun many => few ⟨many, rfl⟩

theorem ip_inv {clientIp : String} (known : clientIp ≠ "unknown")
    (reached : s.Reached verifyPassword (SpacedIp clientIp)) : ipBucket.Inv clientIp s := by
  induction reached with
  | fresh auth limits => exact inv_fresh
  | step reached spaced stepped ih =>
    refine ih.step (ipBucket_lawful known) ?_ ?_ stepped
    · rintro call rfl passed rfl -
      refine spaced rfl ?_
      unfold checkIp at passed
      split at passed
      · cases passed
      next few =>
        exact Nat.lt_of_not_le fun many => few ⟨known, many⟩
    · intro _ _ _ _ _ _ late
      cases late

/-- The limits hold as long as a call that is let through fits with the calls let through before it. -/
theorem logins_throttled (s : System) : (∀ username, s.Reached verifyPassword (SpacedUser username) →
      Sparse lockoutWindowSecs maxFailedAttempts (userBucket.failures username s.events)) ∧
    ∀ clientIp, clientIp ≠ "unknown" → s.Reached verifyPassword (SpacedIp clientIp) →
      Sparse ipLockoutWindowSecs maxIpFailedAttempts (ipBucket.failures clientIp s.events) :=
  ⟨fun _ reached => (user_inv reached).1.sparse.mono (le_add_right _ _),
    fun _ known reached => (ip_inv known reached).sparse.mono (le_add_right _ _)⟩

instance (b : Bucket) (k : String) (s : System) (call : Call) : Decidable (b.Fits k s call) := by
  unfold Bucket.Fits
  infer_instance

instance (username : String) (s : System) (a : Action) : Decidable (SpacedUser username s a) := by
  cases a <;> unfold SpacedUser <;> infer_instance

def bobHash : String := "$argon2id$v=19$m=19456,t=2,p=1$c29tZXNhbHQ$YjBiJ3MgcGFzc3dvcmQgaGFzaA"

def office : AuthState :=
  { users := [{ username := "root", role := .admin },
      { username := "bob", passwordHash := some bobHash, role := .operator }] }

def verifyBob (password hash : String) : Except AuthError Unit :=
  if password = "b0b" ∧ hash = bobHash then .ok () else .error .invalidCredentials

def guess : Call := { username := "bob", password := "guess", clientIp := "10.0.0.9", now := 1000 }

def underLock (call : Call) : List Action := [.lock call, .verify, .settle, .finish "token" .saved]

def concurrent (n : Nat) (call : Call) : List Action :=
  [.arrive call, .checkIp call, .readRole call, .checkUser call false].flatMap (List.replicate n) ++
    (List.replicate n (underLock call)).flatten

def System.runMeeting (Meets : System → Action → Prop) [∀ s a, Decidable (Meets s a)] (s : System)
    (actions : List Action) : Option System :=
  actions.foldlM (fun s a => if Meets s a then s.step verifyBob a else none) s

theorem System.Reached.runMeeting {Meets : System → Action → Prop} [∀ s a, Decidable (Meets s a)]
    {actions : List Action} (reached : s.Reached verifyBob Meets)
    (ran : s.runMeeting Meets actions = some t) : t.Reached verifyBob Meets := by
  induction actions generalizing s with
  | nil =>
    cases ran
    exact reached
  | cons a rest ih =>
    rw [System.runMeeting, List.foldlM_cons] at ran
    obtain ⟨next, stepped, ran⟩ := Option.bind_eq_some_iff.mp ran
    split at stepped
    next meets =>
      exact ih (reached.step meets stepped) ran
    · cases stepped

theorem logins_throttled_sequential : ∃ s, System.runMeeting (SpacedUser "bob") { auth := office }
        (List.replicate 3 (concurrent 1 guess)).flatten = some s ∧
      userBucket.failures "bob" s.events = [1000, 1000, 1000] ∧
      Sparse lockoutWindowSecs maxFailedAttempts (userBucket.failures "bob" s.events) := by
  have ends : ((System.runMeeting (SpacedUser "bob") { auth := office }
      (List.replicate 3 (concurrent 1 guess)).flatten).map fun s => userBucket.failures "bob" s.events) =
      some [1000, 1000, 1000] := by decide
  obtain ⟨s, ran, failures⟩ := Option.map_eq_some_iff.mp ends
  exact ⟨s, ran, failures, (logins_throttled s).1 "bob" (.runMeeting (.fresh office {}) ran)⟩

theorem not_sparse_replicate {w limit n now : Nat} (wide : 0 < w) (many : limit < n) :
    ¬ Sparse w limit (List.replicate n now : List Nat) := by
  intro sparse
  have bound := sparse now
  rw [coe_countP, List.countP_replicate, if_pos (by simpa using wide)] at bound
  omega

/-- Six concurrent attempts for one user and twenty-one from one address all reach the password
check and fail, in the same second. -/
theorem logins_not_throttled : isOnlyAdmin office.users "bob" = false ∧
      (∃ s, System.run verifyBob { auth := office } (concurrent 6 guess) = some s ∧
        ¬ Sparse lockoutWindowSecs maxFailedAttempts (userBucket.failures "bob" s.events)) ∧
      ∃ s, System.run verifyBob { auth := office } (concurrent 21 guess) = some s ∧
        ¬ Sparse ipLockoutWindowSecs maxIpFailedAttempts (ipBucket.failures "10.0.0.9" s.events) := by
  have user : ((System.run verifyBob { auth := office } (concurrent 6 guess)).map fun s =>
      userBucket.failures "bob" s.events) = some (List.replicate 6 1000) := by decide
  have ip : ((System.run verifyBob { auth := office } (concurrent 21 guess)).map fun s =>
      ipBucket.failures "10.0.0.9" s.events) = some (List.replicate 21 1000) := by decide +kernel
  obtain ⟨s, ran, failures⟩ := Option.map_eq_some_iff.mp user
  obtain ⟨t, ran', failures'⟩ := Option.map_eq_some_iff.mp ip
  refine ⟨by decide, ⟨s, ran, ?_⟩, ⟨t, ran', ?_⟩⟩
  · rw [failures]
    exact not_sparse_replicate (by decide) (by decide)
  · rw [failures']
    exact not_sparse_replicate (by decide) (by decide)

end NastyEngine.Auth
