import NastyEngine.Auth.Operations
import NastyEngine.Lib.Proc

/-!
The state is saved by writing a temporary file, syncing it, renaming it over `auth.json` and syncing
the directory. Each of these can fail; what is then in memory follows what is on disk. A file of the
engine belongs to root and is not readable by others.
-/

namespace NastyEngine.Auth
open Lib Fallible

inductive FileKind where
  | regular
  | symlink
  | special
  deriving DecidableEq

/-- `content` is `none` while the file is not the JSON of a state. -/
structure StateFile where
  kind : FileKind := .regular
  mode : Nat := 0o600
  owner : Nat := 0
  content : Option AuthState
  deriving DecidableEq

structure Disk where
  auth : Option StateFile := none
  temps : String → Option StateFile := fun _ => none

def statePath : String := "/var/lib/nasty/auth.json"

inductive SavePoint where
  | serialize
  | createTemp
  | writeTemp
  | syncTemp
  | publish
  | removeTemp
  | openParent
  | syncParent
  deriving DecidableEq

abbrev Faults := SavePoint → Option String

structure StatePersistFailure where
  message : String
  committed : Bool
  deriving DecidableEq

namespace Disk

variable (d : Disk) (temp : String)

def put (content : Option AuthState) : Disk := { d with temps := Function.update d.temps temp (some { content }) }

def remove : Disk := { d with temps := Function.update d.temps temp none }

def rename : Disk := { d.remove temp with auth := d.temps temp }

def hardLink : Disk := { d with auth := d.temps temp }

end Disk

def stateIo (operation : String) : Fallible String Disk Unit → Fallible String Disk Unit :=
  mapError fun source => "failed to " ++ operation ++ " auth state at " ++ statePath ++ ": " ++ source

section
variable (faults : Faults)

/-- One operation on the disk; a write that fails may leave a part of the file behind. -/
def ioStep (point : SavePoint) (effect : Disk → Disk) (failed : Disk → Disk) : Fallible String Disk Unit :=
  ExceptT.mk (Proc.act fun d => match faults point with
    | some e => (.error e, failed d)
    | none => (.ok (), effect d))

def createNew (point : SavePoint) (taken : Disk → Bool) (effect : Disk → Disk) : Fallible String Disk Unit :=
  ExceptT.mk (Proc.act fun d => match faults point with
    | some e => (.error e, d)
    | none => if taken d then (.error "File exists (os error 17)", d) else (.ok (), effect d))

def writeTemp (temp : String) (state : AuthState) : Fallible String Disk Unit := do
  stateIo "create temporary file for"
    (createNew faults .createTemp (fun d => (d.temps temp).isSome) fun d => d.put temp none)
  stateIo "write temporary file for"
    (ioStep faults .writeTemp (fun d => d.put temp (some state)) fun d => d.put temp none)
  stateIo "sync temporary file for" (ioStep faults .syncTemp id id)

def publish (temp : String) (replace : Bool) : Fallible String Disk Unit :=
  if replace then stateIo "replace" (ioStep faults .publish (fun d => d.rename temp) id)
  else stateIo "create" (createNew faults .publish (fun d => d.auth.isSome) fun d => d.hardLink temp)

def afterPublish (temp : String) (replace : Bool) : Fallible String Disk Unit := do
  (if replace then pure ()
    else stateIo "remove temporary file for" (ioStep faults .removeTemp (fun d => d.remove temp) id))
  stateIo "open parent directory for" (ioStep faults .openParent id id)
  stateIo "sync parent directory for" (ioStep faults .syncParent id id)

def saveStateWithTemp (temp : String) (state : AuthState) (replace : Bool) : Fallible StatePersistFailure Disk Unit := do
  mapError (fun e => ⟨"failed to serialize auth state: " ++ e, false⟩) (ioStep faults .serialize id id)
  match ← attempt (do writeTemp faults temp state; publish faults temp replace) with
  | .error message => do
    ignoreError (ioStep faults .removeTemp (fun d => d.remove temp) id)
    throw ⟨message, false⟩
  | .ok _ => mapError (⟨·, true⟩) (afterPublish faults temp replace)

end

def Persist.of : Except StatePersistFailure Unit → Persist
  | .ok _ => .saved
  | .error failure => .failed failure.message failure.committed

structure Service where
  state : AuthState
  disk : Disk

def commitState (faults : Faults) (temp : String) (next : AuthState) (svc : Service) : Except AuthError Unit × Service :=
  let (result, disk) := run (saveStateWithTemp faults temp next true) svc.disk
  let (state, answer) := finishStateCommit svc.state next (.of result)
  (answer, { state, disk })

def execute (verifyPassword : String → String → Except AuthError Unit) (op : Op) (temp : String)
    (faults : Faults) (svc : Service) : Except AuthError Unit × Service :=
  match op.plan verifyPassword svc.state with
  | .error e => (.error e, svc)
  | .ok next => commitState faults temp next svc

def stateUnsafe (reason : String) : AuthError := .state ("unsafe auth state at " ++ statePath ++ ": " ++ reason)

def octal (n : Nat) : String := String.ofList (Nat.toDigits 8 n)

/-- `load_state_from` of a file that can be opened, inspected and read. -/
def loadStateFrom (file : Option StateFile) (expectedOwner : Option Nat) : Except AuthError (Option AuthState) :=
  match file with
  | none => .ok none
  | some f => do
    require (f.kind ≠ .symlink) (stateUnsafe "refusing to follow an auth state symlink")
    require (f.kind = .regular) (stateUnsafe "expected a regular file, not a symlink or special file")
    require (f.mode &&& 0o077 = 0)
      (stateUnsafe ("permissions " ++ octal (f.mode &&& 0o777) ++ " expose authentication secrets"))
    require (expectedOwner.all (f.owner = ·) = true)
      (stateUnsafe ("owner UID " ++ f.owner.repr ++ " does not match expected UID " ++ (expectedOwner.getD 0).repr))
    let state ← okOr f.content (.state ("auth state at " ++ statePath ++ " is corrupt"))
    return some state

def firstBoot (hash : String) : AuthState :=
  { users := [{ username := "admin", passwordHash := some hash, role := .admin, mustChangePassword := true }] }

def initializeState (faults : Faults) (temp : String) (hashed : Except AuthError String) :
    Fallible AuthError Disk AuthState := do
  let file ← read fun d => d.auth
  match ← Fallible.ofExcept (loadStateFrom file (some 0)) with
  | some state => do
    Fallible.ofExcept (require (state.initialized = true)
      (.state ("auth state at " ++ statePath ++ " exists but is not initialized")))
    return state
  | none => do
    let hash ← Fallible.ofExcept hashed
    mapError (fun failure => .state failure.message) (saveStateWithTemp faults temp (firstBoot hash) false)
    return firstBoot hash

section Save
variable {faults : Faults} {temp : String} {d : Disk}

variable {effect failed : Disk → Disk} {point : SavePoint} {d' : Disk} {u : Unit}

section
variable {Q : Except String Unit → Disk → Prop}

theorem ends_ioStep (works : faults point = none → Q (.ok ()) (effect d))
    (fails : ∀ e, faults point ≠ none → Q (.error e) (failed d)) : Ends (ioStep faults point effect failed) Q d := by
  unfold Ends ioStep
  cases fault : faults point with
  | some e => exact fails e (by simp [fault])
  | none => exact works fault

theorem ends_createNew {taken : Disk → Bool} (works : faults point = none → taken d = false → Q (.ok ()) (effect d))
    (fails : ∀ e, faults point ≠ none ∨ taken d = true → Q (.error e) d) :
    Ends (createNew faults point taken effect) Q d := by
  simp only [Ends, createNew, run_mk, Proc.run_act]
  cases fault : faults point with
  | some e => exact fails e (by simp [fault])
  | none =>
    cases free : taken d with
    | true => exact fails _ (.inr free)
    | false => exact works fault free

end

def FailsWriting (faults : Faults) (temp : String) (d : Disk) : Prop :=
  (faults .createTemp ≠ none ∨ (d.temps temp).isSome = true) ∨ faults .writeTemp ≠ none ∨ faults .syncTemp ≠ none

def FailsBefore (faults : Faults) (temp : String) (d : Disk) : Prop :=
  faults .serialize ≠ none ∨ FailsWriting faults temp d ∨ faults .publish ≠ none

def FailsAfter (faults : Faults) : Prop := faults .openParent ≠ none ∨ faults .syncParent ≠ none

theorem writeTemp_ends (faults : Faults) (temp : String) (state : AuthState) (d : Disk) :
    Ends (writeTemp faults temp state) (fun r d' => d'.auth = d.auth ∧
      (r = .ok () ∧ ¬ FailsWriting faults temp d ∧ d'.temps temp = some { content := some state } ∨
        (∃ e, r = .error e) ∧ FailsWriting faults temp d)) d := by
  refine ends_bind (ends_mapError (ends_createNew (fun created free => ?_) fun e refused => ?_))
  · refine ends_bind (ends_mapError (ends_ioStep (fun wrote => ?_) fun e broken => ?_))
    · refine ends_mapError (ends_ioStep (fun synced => ?_) fun e broken => ?_)
      · refine ⟨rfl, .inl ⟨rfl, ?_, Function.update_self ..⟩⟩
        simp [FailsWriting, created, free, wrote, synced]
      · exact ⟨rfl, .inr ⟨⟨_, rfl⟩, .inr (.inr broken)⟩⟩
    · exact ⟨rfl, .inr ⟨⟨_, rfl⟩, .inr (.inl broken)⟩⟩
  · exact ⟨rfl, .inr ⟨⟨_, rfl⟩, .inl refused⟩⟩

variable {replace : Bool}

theorem publish_ends {faults : Faults} (temp : String) (d : Disk) :
    Ends (publish faults temp replace) (fun r d' => r = .ok () ∧ faults .publish = none ∧ d'.auth = d.temps temp ∨
      (∃ e, r = .error e) ∧ d'.auth = d.auth ∧ (replace = true → faults .publish ≠ none)) d := by
  cases replace with
  | true =>
    refine ends_mapError (ends_ioStep (fun works => ?_) fun e broken => ?_)
    · exact .inl ⟨rfl, works, rfl⟩
    · exact .inr ⟨⟨_, rfl⟩, rfl, fun _ => broken⟩
  | false =>
    refine ends_mapError (ends_createNew (fun works _ => ?_) fun e _ => ?_)
    · exact .inl ⟨rfl, works, rfl⟩
    · exact .inr ⟨⟨_, rfl⟩, rfl, nofun⟩

theorem staged_ends {faults : Faults} (temp : String) {state : AuthState} (d : Disk) :
    Ends (do writeTemp faults temp state; publish faults temp replace) (fun r d' =>
      r = .ok () ∧ ¬ (FailsWriting faults temp d ∨ faults .publish ≠ none) ∧ d'.auth = some { content := some state } ∨
        (∃ e, r = .error e) ∧ d'.auth = d.auth ∧
          (replace = true → FailsWriting faults temp d ∨ faults .publish ≠ none)) d := by
  refine ends_bind (ends_mono (writeTemp_ends faults temp state d) ?_)
  rintro _ d' ⟨eq, ⟨rfl, works, written⟩ | ⟨⟨e, rfl⟩, fails⟩⟩
  · refine ends_mono (publish_ends temp d') ?_
    rintro _ d'' (⟨rfl, published, new⟩ | ⟨error, kept, broken⟩)
    · exact .inl ⟨rfl, by simp [works, published], new.trans written⟩
    · exact .inr ⟨error, kept.trans eq, fun replaces => .inr (broken replaces)⟩
  · exact .inr ⟨⟨e, rfl⟩, eq, fun _ => .inl fails⟩

theorem afterPublish_ends {faults : Faults} (temp : String) (d : Disk) :
    Ends (afterPublish faults temp replace) (fun r d' => d'.auth = d.auth ∧
      (r = .ok () ∧ ¬ FailsAfter faults ∨ (∃ e, r = .error e) ∧ (replace = true → FailsAfter faults))) d := by
  have synced {d' : Disk} (eq : d'.auth = d.auth) : Ends (do
      stateIo "open parent directory for" (ioStep faults .openParent id id)
      stateIo "sync parent directory for" (ioStep faults .syncParent id id)) (fun r d' => d'.auth = d.auth ∧
        (r = .ok () ∧ ¬ FailsAfter faults ∨ (∃ e, r = .error e) ∧ (replace = true → FailsAfter faults))) d' := by
    refine ends_bind (ends_mapError (ends_ioStep (fun opened => ?_) fun e broken => ?_))
    · refine ends_mapError (ends_ioStep (fun synced => ?_) fun e broken => ?_)
      · exact ⟨eq, .inl ⟨rfl, by simp [FailsAfter, opened, synced]⟩⟩
      · exact ⟨eq, .inr ⟨⟨_, rfl⟩, fun _ => .inr broken⟩⟩
    · exact ⟨eq, .inr ⟨⟨_, rfl⟩, fun _ => .inl broken⟩⟩
  cases replace with
  | true => exact ends_bind (synced rfl)
  | false => exact ends_bind (ends_mapError (ends_ioStep (fun _ => synced rfl) fun e _ => ⟨rfl, .inr ⟨⟨_, rfl⟩, nofun⟩⟩))

/-- A save fails before the rename and leaves the old file, or has put the new one in its place. -/
theorem save_ends (faults : Faults) (temp : String) (state : AuthState) (replace : Bool) (d : Disk) :
    Ends (saveStateWithTemp faults temp state replace) (fun r d' =>
      (∃ e, r = .error ⟨e, false⟩) ∧ d'.auth = d.auth ∧ (replace = true → FailsBefore faults temp d) ∨
        d'.auth = some { content := some state } ∧ ¬ FailsBefore faults temp d ∧
          (r = .ok () ∧ ¬ FailsAfter faults ∨ (∃ e, r = .error ⟨e, true⟩) ∧ (replace = true → FailsAfter faults))) d := by
  refine ends_bind (ends_mapError (ends_ioStep (fun serialized => ?_) fun e broken => ?_))
  · refine ends_attempt (ends_mono (staged_ends temp d) ?_)
    rintro _ d' (⟨rfl, works, new⟩ | ⟨⟨e, rfl⟩, eq, fails⟩)
    · refine ends_mapError (ends_mono (afterPublish_ends temp d') ?_)
      rintro r d'' ⟨kept, after⟩
      refine .inr ⟨kept.trans new, by simp [FailsBefore, serialized, not_or.mp works], ?_⟩
      rcases after with ⟨rfl, works⟩ | ⟨⟨e, rfl⟩, fails⟩
      · exact .inl ⟨rfl, works⟩
      · exact .inr ⟨⟨e, rfl⟩, fails⟩
    · refine ends_bind (ends_ignoreError (ends_ioStep (fun _ => ?_) fun _ _ => ?_)) <;>
        exact .inl ⟨⟨e, rfl⟩, eq, fun replaces => .inr (fails replaces)⟩
  · exact .inl ⟨⟨_, rfl⟩, rfl, fun _ => .inl broken⟩

theorem save_before (fails : FailsBefore faults temp d) (state : AuthState) :
    ∃ e d', run (saveStateWithTemp faults temp state true) d = (.error ⟨e, false⟩, d') ∧ d'.auth = d.auth := by
  obtain ⟨⟨e, failed⟩, eq, -⟩ | ⟨-, works, -⟩ := save_ends faults temp state true d
  · exact ⟨e, _, Prod.ext failed rfl, eq⟩
  · exact absurd fails works

theorem save_after (works : ¬ FailsBefore faults temp d) (state : AuthState) :
    ∃ result d', run (saveStateWithTemp faults temp state true) d = (result, d') ∧
      d'.auth = some { content := some state } ∧
      (¬ FailsAfter faults ∧ result = .ok () ∨ FailsAfter faults ∧ ∃ e, result = .error ⟨e, true⟩) := by
  obtain ⟨-, -, fails⟩ | ⟨new, -, ended⟩ := save_ends faults temp state true d
  · exact absurd (fails rfl) works
  · exact ⟨_, _, rfl, new, ended.imp And.symm fun failed => ⟨failed.2 rfl, failed.1⟩⟩

variable {J : Option StateFile → Prop} {state : AuthState}

theorem along_ioStep (before : J d.auth) (worked : J (effect d).auth) (broken : J (failed d).auth) :
    Along (fun d => J d.auth) (ioStep faults point effect failed) d := by
  refine ⟨before, ?_⟩
  cases faults point with
  | none => exact worked
  | some e => exact broken

theorem along_createNew {taken : Disk → Bool} (before : J d.auth) (worked : J (effect d).auth) :
    Along (fun d => J d.auth) (createNew faults point taken effect) d := by
  refine ⟨before, ?_⟩
  cases faults point with
  | some e => exact before
  | none =>
    change J (if taken d then (_, d) else (_, effect d)).2.auth
    split
    · exact before
    · exact worked

theorem writeTemp_along (old : J d.auth) : Along (fun d => J d.auth) (writeTemp faults temp state) d := by
  refine .seq (.mapError (along_createNew old old)) fun _ _ _ old => ?_
  refine .seq (.mapError (along_ioStep old old old)) fun _ _ _ old => ?_
  exact .mapError (along_ioStep old old old)

theorem publish_along (old : J d.auth) (new : J (d.temps temp)) :
    Along (fun d => J d.auth) (publish faults temp replace) d := by
  cases replace with
  | true => exact .mapError (along_ioStep old new old)
  | false => exact .mapError (along_createNew old new)

theorem afterPublish_along (published : J d.auth) :
    Along (fun d => J d.auth) (afterPublish faults temp replace) d := by
  have removed : Along (fun d => J d.auth) (if replace then pure ()
      else stateIo "remove temporary file for" (ioStep faults .removeTemp (fun d => d.remove temp) id)) d := by
    cases replace with
    | true => exact published
    | false => exact .mapError (along_ioStep published published published)
  refine .seq removed fun _ _ _ published => ?_
  refine .seq (.mapError (along_ioStep published published published)) fun _ _ _ published => ?_
  exact .mapError (along_ioStep published published published)

section
variable (old : J d.auth) (new : J (some { content := some state })) (replace : Bool)
include old new

theorem staged_along : Along (fun d => J d.auth) (do writeTemp faults temp state; publish faults temp replace) d := by
  refine .seq (writeTemp_along old) fun _ d' ran old => ?_
  have ended := writeTemp_ends faults temp state d
  rw [Ends, ran] at ended
  obtain ⟨-, ⟨-, -, written⟩ | ⟨⟨e, error⟩, -⟩⟩ := ended
  · exact publish_along old (written ▸ new)
  · cases error

/-- Wherever the save stops, `auth.json` is the old file or the complete new one. -/
theorem save_along : Along (fun d => J d.auth) (saveStateWithTemp faults temp state replace) d := by
  refine .seq (.mapError (along_ioStep old old old)) fun _ _ _ old => ?_
  refine .seq (.attempt (staged_along old new replace)) fun result _ _ either => ?_
  cases result with
  | error message =>
    exact .seq (.ignoreError (along_ioStep either either either)) fun _ _ _ either => either
  | ok => exact .mapError (afterPublish_along either)

end

theorem save_ok (ran : run (saveStateWithTemp faults temp state replace) d = (.ok u, d')) :
    d'.auth = some { content := some state } := by
  have ended := save_ends faults temp state replace d
  rw [Ends, ran] at ended
  obtain ⟨⟨e, error⟩, -⟩ | ⟨new, -⟩ := ended
  · cases error
  · exact new

end Save

end NastyEngine.Auth
