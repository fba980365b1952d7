import NastyEngine.Backup.Profile
import NastyEngine.Lib.Lists

/-!
The profiles are in memory and in a state file. A change is written to the file first; it is taken over
into memory when the file has been renamed into place, also if the rename could not be made durable.
An update reads the stored profile, prepares the new one without the lock, and then replaces whatever
is stored. A backup and an initialisation also work without the lock, but they record their result only
if the profile still has the definition they worked with.
-/

namespace NastyEngine.Backup
open Lib

structure Profiles where
  all : List BackupProfile
  unique : (all.map (·.id)).Nodup

namespace Profiles

def get (s : Profiles) (id : String) : Option BackupProfile := s.all.find? (·.id = id)

def modify (s : Profiles) (id : String) (f : BackupProfile → BackupProfile) (keeps : ∀ p, p.id = id → (f p).id = id) :
    Profiles where
  all := modifyKey BackupProfile.id id f s.all
  unique := by
    rw [map_modifyKey keeps]
    exact s.unique

variable {s : Profiles} {id : String} {f : BackupProfile → BackupProfile} {p : BackupProfile}

theorem id_of_get (found : s.get id = some p) : p.id = id := by simpa using List.find?_some found

end Profiles

inductive StatePersistFailure where
  | beforeRename (e : BackupError)
  | afterRename (directory error : String)
  deriving DecidableEq

def StatePersistFailure.committed : StatePersistFailure → Bool
  | .beforeRename _ => false
  | .afterRename .. => true

def StatePersistFailure.toError : StatePersistFailure → BackupError
  | .beforeRename e => e
  | .afterRename directory error => .failed ("backup profile state update was applied, but parent directory " ++
      directory ++ " could not be synced; durability is not guaranteed, check storage health: " ++ error)

abbrev Persistence := Except StatePersistFailure Unit

def persistenceCommitted : Persistence → Bool
  | .ok () => true
  | .error e => e.committed

def publishProfiles (profiles next : Profiles) (persistence : Persistence) : Profiles :=
  if persistenceCommitted persistence then next else profiles

theorem get_publishProfiles {s : Profiles} {id other : String} {f : BackupProfile → BackupProfile} {p : BackupProfile}
    (keeps : ∀ p, p.id = id → (f p).id = id) (found : s.get other = some p) {persistence : Persistence} :
    (publishProfiles s (s.modify id f keeps) persistence).get other =
      some (if other = id ∧ persistenceCommitted persistence then f p else p) := by
  unfold publishProfiles
  split
  next committed =>
    rw [Profiles.get, Profiles.modify, find?_modifyKey keeps, ← Profiles.get, found, Option.map_some,
      Profiles.id_of_get found]
    simp [committed]
  next lost =>
    simp [found, lost]

structure Pending where
  update : BackupProfile
  existing : BackupProfile
  encrypt : String → String → Except String EncryptedBlob

namespace Pending

def carried (u : Pending) : BackupProfile := carryForwardExistingSecrets u.update u.existing

def checked (u : Pending) : BackupProfile := invalidateLastRunIfDefinitionChanged u.carried u.existing

def stored (u : Pending) : BackupProfile := encryptProfileSecrets u.encrypt u.checked

theorem checked_id (u : Pending) : u.checked.id = u.update.id := by
  unfold checked invalidateLastRunIfDefinitionChanged
  split <;> rfl

end Pending

/-- The first half of `update_profile`, up to the lock. The router takes the id from the request. -/
def prepareUpdate (parseUrl : String → Option ParsedUrl) (encrypt : String → String → Except String EncryptedBlob)
    (profiles : Profiles) (request : BackupProfile) : Except BackupError Pending := do
  validateSources request.sources
  let existing ← okOr (profiles.get request.id) (.notFound request.id)
  let update := { request with target := normalizeRestUrlUserinfo parseUrl request.target }
  update.trustedCacert.elim (.ok ()) validatePemCert
  return ⟨update, existing, encrypt⟩

/-- The second half, under the lock. The answer goes out with its secrets blanked. -/
def publishUpdate (profiles : Profiles) (u : Pending) (persistence : Persistence) :
    Profiles × Except BackupError BackupProfile :=
  match profiles.get u.update.id with
  | none => (profiles, .error (.notFound u.update.id))
  | some _ =>
    let next := profiles.modify u.update.id (fun _ => u.stored) fun _ _ => u.checked_id
    (publishProfiles profiles next persistence, (persistence.mapError (·.toError)).map fun _ => u.stored)

def updateProfile (parseUrl : String → Option ParsedUrl) (encrypt : String → String → Except String EncryptedBlob)
    (profiles : Profiles) (request : BackupProfile) (persistence : Persistence) :
    Profiles × Except BackupError BackupProfile :=
  match prepareUpdate parseUrl encrypt profiles request with
  | .error e => (profiles, .error e)
  | .ok u => publishUpdate profiles u persistence

def recordRun (profiles : Profiles) (executed : BackupProfile) (result : BackupRunResult)
    (persistence : Persistence) : Profiles × Except BackupError Bool :=
  match profiles.get executed.id with
  | some current =>
    if backupDefinitionMatches current executed then
      let next := profiles.modify executed.id (fun p => { p with lastRun := some result }) fun _ same => same
      let message := if result.success then
          "backup data was written, but recording its result failed; automatic pruning was skipped"
        else "the backup failed, and recording its result also failed"
      (publishProfiles profiles next persistence,
        (persistence.mapError fun e => .failed (message ++ ": " ++ e.toError.display)).map fun _ => true)
    else (profiles, .ok false)
  | none => (profiles, .ok false)

def recordInit (profiles : Profiles) (initialized : BackupProfile) (persistence : Persistence) :
    Profiles × Except BackupError Unit :=
  match profiles.get initialized.id with
  | none => (profiles, .error (.notFound initialized.id))
  | some current =>
    if backupDefinitionMatches current initialized then
      let next := profiles.modify initialized.id (fun p => { p with repoInitialized := true }) fun _ same => same
      (publishProfiles profiles next persistence, persistence.mapError (·.toError))
    else (profiles, .error (.failed
      "profile changed during repository initialization; initialize the current target again"))

section Get
variable {s : Profiles} {id : String} {p : BackupProfile}

variable (found : s.get id = some p)
include found

theorem publishUpdate_get (u : Pending) (persistence : Persistence) : (publishUpdate s u persistence).1.get id =
      some (if id = u.update.id ∧ persistenceCommitted persistence then u.stored else p) := by
  unfold publishUpdate
  split
  next none =>
    have differs : id ≠ u.update.id := by
      rintro rfl
      cases none.symm.trans found
    simp [found, differs]
  · exact get_publishProfiles _ found

theorem recordRun_get {executed : BackupProfile} {result : BackupRunResult}
    {persistence : Persistence} :
    (recordRun s executed result persistence).1.get id = some p ∨ id = executed.id ∧
        (recordRun s executed result persistence).1.get id = some { p with lastRun := some result } := by
  unfold recordRun
  split
  · split
    · rw [get_publishProfiles _ found]
      split
      next hit =>
        exact .inr ⟨hit.1, rfl⟩
      · exact .inl rfl
    · exact .inl found
  · exact .inl found

theorem recordInit_get {initialized : BackupProfile} {persistence : Persistence} :
    (recordInit s initialized persistence).1.get id = some p ∨
      (recordInit s initialized persistence).1.get id = some { p with repoInitialized := true } := by
  unfold recordInit
  split
  · exact .inl found
  · split
    · rw [get_publishProfiles _ found]
      split
      · exact .inr rfl
      · exact .inl rfl
    · exact .inl found

end Get

end NastyEngine.Backup
