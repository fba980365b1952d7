import Mathlib.Data.List.Induction
import NastyEngine.Auth.Throttle

/-!
The limiter is saved after each change and loaded when the engine starts, so a restart is no way around
a lockout. A change is taken to be saved before the next one is made.
-/

namespace NastyEngine.Auth
open Lib

structure Limiter where
  memory : RateLimitState := {}
  disk : RateLimitState := {}

inductive LimiterEvent where
  | failed (call : Call) (saved : Bool)
  | succeeded (call : Call) (saved : Bool)
  | restarted (now : Nat)

def Limiter.save (l : Limiter) (saved : Bool) (memory : RateLimitState) : Limiter :=
  { memory, disk := if saved then memory else l.disk }

def Limiter.serve (l : Limiter) : LimiterEvent → Limiter
  | .failed call saved => l.save saved (l.memory.recordFailedAttempt call.username call.clientIp call.now)
  | .succeeded call saved =>
    if (l.memory.byUser call.username).isSome then l.save saved (l.memory.clearFailedAttempts call.username) else l
  | .restarted now => { l with memory := l.disk.prune now }

/-- The limiter of an engine that is not restarted. -/
def RateLimitState.serve (rl : RateLimitState) : LimiterEvent → RateLimitState
  | .failed call _ => rl.recordFailedAttempt call.username call.clientIp call.now
  | .succeeded call _ => rl.clearFailedAttempts call.username
  | .restarted _ => rl

def LimiterEvent.Regular (until_ : Nat) : LimiterEvent → Prop
  | .failed _ saved | .succeeded _ saved => saved = true
  | .restarted now => now ≤ until_

theorem getD_retain {w now : Nat} (entry : Option (List Nat)) :
    ((entry.map (recent w now)).filter (· ≠ [])).getD [] = recent w now (entry.getD []) := by
  cases entry with
  | none => rfl
  | some log => by_cases empty : recent w now log = [] <;> simp [empty, Option.filter_some]

/-- From the time on both count the same failures. -/
def Agree (b : Bucket) (k : String) (from_ : Nat) (rl rl' : RateLimitState) : Prop :=
  ∀ later, from_ ≤ later → recent b.window later (b.log rl k) = recent b.window later (b.log rl' k)

section
variable {b : Bucket} {k : String} {from_ : Nat} {rl rl' : RateLimitState} (lawful : b.Lawful k)
include lawful

theorem Agree.record (agree : Agree b k from_ rl rl') (call : Call) :
    Agree b k from_ (rl.recordFailedAttempt call.username call.clientIp call.now)
      (rl'.recordFailedAttempt call.username call.clientIp call.now) := by
  intro later le
  rw [lawful.record, lawful.record]
  split
  · rw [push, push, recent_max, recent_max, recent_append, recent_append, agree _ (le.trans (Nat.le_max_right ..))]
  · exact agree later le

theorem Agree.clear (agree : Agree b k from_ rl rl') (call : Call) :
    Agree b k from_ (rl.clearFailedAttempts call.username) (rl'.clearFailedAttempts call.username) := by
  intro later le
  rw [lawful.clear, lawful.clear]
  split
  · rfl
  · exact agree later le

theorem Agree.serve (prune : ∀ now rl, b.log (RateLimitState.prune rl now) k = recent b.window now (b.log rl k))
    {l : Limiter} (memory : Agree b k from_ l.memory rl) (disk : Agree b k from_ l.disk rl) {e : LimiterEvent}
    (regular : e.Regular from_) :
    Agree b k from_ (l.serve e).memory (rl.serve e) ∧ Agree b k from_ (l.serve e).disk (rl.serve e) := by
  cases e with
  | failed call saved =>
    obtain rfl : saved = true := regular
    exact ⟨memory.record lawful call, memory.record lawful call⟩
  | succeeded call saved =>
    obtain rfl : saved = true := regular
    have cleared := memory.clear lawful call
    simp only [Limiter.serve]
    split
    · exact ⟨cleared, cleared⟩
    next absent =>
      -- nothing is saved, and the file has nothing to forget
      have absent : l.memory.byUser call.username = none := by simpa using absent
      have same : l.memory.clearFailedAttempts call.username = l.memory := by
        rw [RateLimitState.clearFailedAttempts, ← absent, Function.update_eq_self]
      rw [same] at cleared
      exact ⟨cleared, fun later le => (disk later le).trans ((memory later le).symm.trans (cleared later le))⟩
  | restarted now =>
    refine ⟨fun later le => ?_, disk⟩
    rw [Limiter.serve, prune, recent_recent (Nat.le_trans regular le)]
    exact disk later le

theorem Agree.run (prune : ∀ now rl, b.log (RateLimitState.prune rl now) k = recent b.window now (b.log rl k))
    {events : List LimiterEvent} (regular : ∀ e ∈ events, e.Regular from_) :
    Agree b k from_ (events.foldl Limiter.serve {}).memory (events.foldl RateLimitState.serve {}) ∧
      Agree b k from_ (events.foldl Limiter.serve {}).disk (events.foldl RateLimitState.serve {}) := by
  induction events using List.reverseRecOn with
  | nil => exact ⟨fun _ _ => rfl, fun _ _ => rfl⟩
  | append_singleton events e ih =>
    rw [List.foldl_append, List.foldl_append]
    obtain ⟨memory, disk⟩ := ih fun e mem => regular e (List.mem_append_left _ mem)
    exact memory.serve lawful prune disk (regular e (by simp))

end

/-- Where each change is saved before the next one is made (a failed security key is saved with no lock held, so this is
not so by itself), restarts no later than the call change no answer of the limiter. -/
theorem lockout_survives_restarts (events : List LimiterEvent) (call : Call)
    (regular : ∀ e ∈ events, e.Regular call.now) :
    checkIp (events.foldl Limiter.serve {}).memory call = checkIp (events.foldl RateLimitState.serve {}) call ∧
      ∀ onlyAdmin, checkUser (events.foldl Limiter.serve {}).memory call onlyAdmin =
        checkUser (events.foldl RateLimitState.serve {}) call onlyAdmin := by
  constructor
  · by_cases known : call.clientIp = "unknown"
    · simp [checkIp, known]
    · have ip := (Agree.run (ipBucket_lawful known) (fun _ _ => getD_retain _) regular).1 call.now le_rfl
      have count := congrArg List.length ip
      rw [ipBucket, ← failures_eq, ← failures_eq] at count
      rw [checkIp, checkIp, RateLimitState.ipFailures, count]
      rfl
  · intro onlyAdmin
    have user := (Agree.run (k := call.username) userBucket_lawful (fun _ _ => getD_retain _) regular).1 call.now le_rfl
    have count := congrArg List.length user
    rw [userBucket, ← failures_eq, ← failures_eq] at count
    rw [checkUser, checkUser, RateLimitState.userFailures, count]
    rfl

def guessed : List LimiterEvent := List.replicate 5 (.failed guess true) ++ [.restarted 1060]

theorem lockout_survives_restarts_guessed :
    checkUser (guessed.foldl Limiter.serve {}).memory { guess with now := 1120 } false = .error .accountLocked := by
  rw [(lockout_survives_restarts guessed { guess with now := 1120 } (by simp [guessed, LimiterEvent.Regular])).2]
  rfl

end NastyEngine.Auth
