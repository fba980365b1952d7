import NastyEngine.Backup.Store
import NastyEngine.Lib.Run

/-!
Updates, backups and initialisations of repositories run at once. An update replaces the stored profile
by what it made of an older read, and takes the result of the last run from its request.
-/

namespace NastyEngine.Backup
open Lib

namespace Updates

structure State where
  profiles : Profiles
  pending : Nat → Option Pending := fun _ => none
  reads : Nat → Option BackupProfile := fun _ => none

inductive Event where
  | prepare (call : Nat) (request : BackupProfile)
  | publish (u : Pending) (persistence : Persistence)
  | read (call : Nat) (id : String)
  | recordRun (executed : BackupProfile) (result : BackupRunResult) (persistence : Persistence)
  | recordInit (initialized : BackupProfile) (persistence : Persistence)

section Steps
variable (parseUrl : String → Option ParsedUrl) (decrypt : String → EncryptedBlob → Except String String)

inductive Step : State → Event → State → Prop
  | prepare {s : State} {u : Pending} {encrypt : String → String → Except String EncryptedBlob} (call : Nat)
      (request : BackupProfile) (inverts : Inverts decrypt encrypt)
      (ok : prepareUpdate parseUrl encrypt s.profiles request = .ok u) :
      Step s (.prepare call request) { s with pending := Function.update s.pending call (some u) }
  | publish {s : State} {u : Pending} (call : Nat) (persistence : Persistence) (ready : s.pending call = some u) :
      Step s (.publish u persistence)
        { s with
          profiles := (publishUpdate s.profiles u persistence).1
          pending := Function.update s.pending call none }
  | read {s : State} {p : BackupProfile} (call : Nat) (id : String) (found : s.profiles.get id = some p) :
      Step s (.read call id) { s with reads := Function.update s.reads call (some p) }
  | recordRun {s : State} {executed : BackupProfile} (call : Nat) (result : BackupRunResult)
      (persistence : Persistence) (ready : s.reads call = some executed) :
      Step s (.recordRun executed result persistence)
        { s with profiles := (Backup.recordRun s.profiles executed result persistence).1 }
  | recordInit {s : State} {initialized : BackupProfile} (call : Nat) (persistence : Persistence)
      (ready : s.reads call = some initialized) :
      Step s (.recordInit initialized persistence)
        { s with profiles := (Backup.recordInit s.profiles initialized persistence).1 }

end Steps

/-- The update is published over the definition it has read, and unless it changes the definition, its
request has the results that are stored. -/
def UpToDate (s : State) : Event → Prop
  | .publish u persistence => persistenceCommitted persistence → ∀ p, s.profiles.get u.update.id = some p →
      backupDefinitionMatches p u.existing ∧
        (backupDefinitionMatches u.carried u.existing → u.update.lastRun = p.lastRun ∧
          u.update.repoInitialized = p.repoInitialized)
  | _ => True

def StepUpToDate (parseUrl : String → Option ParsedUrl) (decrypt : String → EncryptedBlob → Except String String)
    (s : State) (event : Event) (s' : State) : Prop :=
  Step parseUrl decrypt s event s' ∧ UpToDate s event

def Event.update? (id : String) : Event → Option Pending
  | .publish u persistence => if id = u.update.id ∧ persistenceCommitted persistence then some u else none
  | _ => none

def SuppliesTarget (u : Pending) : Prop :=
  u.update.target.secret.map (·.1) ≠ u.existing.target.secret.map (·.1) ∨ ∃ named ∈ u.update.target.secret, named.2.IsSet

section Facts
variable {parseUrl : String → Option ParsedUrl} {decrypt : String → EncryptedBlob → Except String String}
  {s s' t : State} {event : Event} {events more : List Event} {id : String} {p : BackupProfile} {u : Pending}

theorem matches_iff {p q : BackupProfile} : backupDefinitionMatches p q ↔
      p.sources = q.sources ∧ p.target = q.target ∧ p.password = q.password ∧ p.trustedCacert = q.trustedCacert := by
  simp [backupDefinitionMatches]

theorem checked_password (u : Pending) : u.checked.password = u.update.password.carry u.existing.password := by
  unfold Pending.checked invalidateLastRunIfDefinitionChanged
  split <;> rfl

theorem checked_target (u : Pending) : u.checked.target = carryForwardTarget u.update.target u.existing.target := by
  unfold Pending.checked invalidateLastRunIfDefinitionChanged
  split <;> rfl

theorem stored_results {u : Pending} (eq : backupDefinitionMatches u.carried u.existing) :
    u.stored.lastRun = u.update.lastRun ∧ u.stored.repoInitialized = u.update.repoInitialized := by
  unfold Pending.stored Pending.checked invalidateLastRunIfDefinitionChanged
  rw [if_pos eq]
  exact ⟨rfl, rfl⟩

theorem stored_target (inverts : Inverts decrypt u.encrypt) (sameId : p.id = u.update.id)
    (eq : p.target = u.existing.target) (absent : ¬ SuppliesTarget u) :
    resolveTargetSecret decrypt u.stored = resolveTargetSecret decrypt p := by
  obtain ⟨sameKind, absent⟩ := not_or.mp absent
  have carried : u.checked.target.secret = p.target.secret := by
    rw [checked_target, eq]
    exact carryForwardTarget_secret (not_not.mp sameKind) fun named mem set => absent ⟨named, mem, set⟩
  rw [Pending.stored, resolveTargetSecret_encrypt inverts, resolveTargetSecret, resolveTargetSecret, carried,
    u.checked_id, sameId]

structure Kept (decrypt : String → EncryptedBlob → Except String String) (id : String) (events : List Event)
    (p q : BackupProfile) : Prop where
  password : (∀ u ∈ events.filterMap (·.update? id), ¬ u.update.password.IsSet) →
    resolveProfilePassword decrypt q = resolveProfilePassword decrypt p
  target : (∀ u ∈ events.filterMap (·.update? id), ¬ SuppliesTarget u) →
    resolveTargetSecret decrypt q = resolveTargetSecret decrypt p
  repoInitialized : (∀ u ∈ events.filterMap (·.update? id), backupDefinitionMatches u.carried u.existing) →
    p.repoInitialized = true → q.repoInitialized = true
  lastRun : (∀ u ∈ events.filterMap (·.update? id), backupDefinitionMatches u.carried u.existing) →
    q.lastRun = p.lastRun ∨ ∃ executed result persistence,
      .recordRun executed result persistence ∈ events ∧ executed.id = id ∧ q.lastRun = some result

theorem Kept.refl {events : List Event} {p : BackupProfile} : Kept decrypt id events p p :=
  ⟨fun _ => rfl, fun _ => rfl, fun _ done => done, fun _ => .inl rfl⟩

theorem Kept.trans {q r : BackupProfile} (first : Kept decrypt id events p q) (second : Kept decrypt id more q r) :
    Kept decrypt id (events ++ more) p r := by
  have split : ∀ {P : Pending → Prop}, (∀ u ∈ (events ++ more).filterMap (·.update? id), P u) →
      (∀ u ∈ events.filterMap (·.update? id), P u) ∧ ∀ u ∈ more.filterMap (·.update? id), P u := by
    intro P all
    rw [List.filterMap_append] at all
    exact ⟨fun u mem => all u (List.mem_append_left _ mem), fun u mem => all u (List.mem_append_right _ mem)⟩
  refine ⟨?_, ?_, ?_, ?_⟩
  · intro absent
    exact (second.password (split absent).2).trans (first.password (split absent).1)
  · intro absent
    exact (second.target (split absent).2).trans (first.target (split absent).1)
  · intro same done
    exact second.repoInitialized (split same).2 (first.repoInitialized (split same).1 done)
  · intro same
    rcases second.lastRun (split same).2 with kept | ⟨executed, result, persistence, mem, found⟩
    · rw [kept]
      refine (first.lastRun (split same).1).imp_right ?_
      rintro ⟨executed, result, persistence, mem, found⟩
      exact ⟨executed, result, persistence, List.mem_append_left _ mem, found⟩
    · exact .inr ⟨executed, result, persistence, List.mem_append_right _ mem, found⟩

theorem inverts_run {start : Profiles} (run : Run (StepUpToDate parseUrl decrypt) { profiles := start } events s) :
    ∀ call u, s.pending call = some u → Inverts decrypt u.encrypt := by
  refine run.invariant (I := fun s => ∀ call u, s.pending call = some u → Inverts decrypt u.encrypt)
    (fun _ _ ready => by cases ready) ?_
  rintro s event s' before ⟨step, -⟩ call u ready
  cases step with
  | prepare call' request inverts ok =>
    dsimp only at ready
    rw [Function.update_apply] at ready
    split at ready
    · cases ready
      obtain ⟨_, -, ok⟩ := bind_ok ok
      obtain ⟨_, -, ok⟩ := bind_ok ok
      obtain ⟨_, -, ok⟩ := bind_ok ok
      cases ok
      exact inverts
    · exact before call u ready
  | publish call' =>
    dsimp only at ready
    rw [Function.update_apply] at ready
    split at ready
    · cases ready
    · exact before call u ready
  | read | recordRun | recordInit => exact before call u ready

theorem publish_kept {persistence : Persistence} (inverts : Inverts decrypt u.encrypt)
    (hit : s.profiles.get u.update.id = some p) (committed : persistenceCommitted persistence)
    (upToDate : UpToDate s (.publish u persistence)) :
    Kept decrypt u.update.id [.publish u persistence] p u.stored := by
  have sameId : p.id = u.update.id := Profiles.id_of_get hit
  obtain ⟨eq, results⟩ := upToDate committed p hit
  obtain ⟨-, target, password, -⟩ := matches_iff.mp eq
  have mem : u ∈ [Event.publish u persistence].filterMap (·.update? u.update.id) := by
    simp [Event.update?, committed]
  refine ⟨fun absent => ?_, fun absent => stored_target inverts sameId target (absent u mem), ?_, ?_⟩
  · rw [Pending.stored, resolveProfilePassword_encrypt inverts, resolveProfilePassword, resolveProfilePassword,
      checked_password, Secret.carry_of_not_set (absent u mem), u.checked_id, password, sameId]
  · intro unchanged done
    rw [(stored_results (unchanged u mem)).2, (results (unchanged u mem)).2, done]
  · intro unchanged
    rw [(stored_results (unchanged u mem)).1, (results (unchanged u mem)).1]
    exact .inl rfl

theorem step_kept (inverts : ∀ call u, s.pending call = some u → Inverts decrypt u.encrypt)
    (step : StepUpToDate parseUrl decrypt s event s') (found : s.profiles.get id = some p) :
    ∃ q, s'.profiles.get id = some q ∧ Kept decrypt id [event] p q := by
  obtain ⟨step, upToDate⟩ := step
  cases step with
  | prepare | read => exact ⟨p, found, .refl⟩
  | @publish u call persistence ready =>
    refine ⟨_, publishUpdate_get found u persistence, ?_⟩
    split
    next hit =>
      obtain ⟨rfl, committed⟩ := hit
      exact publish_kept (inverts call u ready) found committed upToDate
    · exact .refl
  | @recordRun executed call result persistence =>
    rcases recordRun_get found with kept | ⟨eq, recorded⟩
    · exact ⟨p, kept, .refl⟩
    · refine ⟨_, recorded, fun _ => rfl, fun _ => rfl, fun _ done => done, fun _ => .inr ?_⟩
      exact ⟨executed, result, persistence, List.mem_singleton.mpr rfl, eq.symm, rfl⟩
  | @recordInit initialized call persistence =>
    rcases recordInit_get found with kept | recorded
    · exact ⟨p, kept, .refl⟩
    · exact ⟨_, recorded, fun _ => rfl, fun _ => rfl, fun _ _ => rfl, fun _ => .inl rfl⟩

/-- While updates are published over what they have read, a secret changes only by an update that supplies
it, and the results of runs and of the initialisation are lost only by an update of the definition. -/
theorem updates_kept {start : Profiles} (run : Run (StepUpToDate parseUrl decrypt) { profiles := start } events s)
    (later : Run (StepUpToDate parseUrl decrypt) s more t) (found : s.profiles.get id = some p) :
    ∃ q, t.profiles.get id = some q ∧ Kept decrypt id more p q := by
  induction later with
  | nil => exact ⟨p, found, .refl⟩
  | snoc before step ih =>
    obtain ⟨q, found, kept⟩ := ih
    obtain ⟨r, found, next⟩ := step_kept (inverts_run (run.append before)) step found
    exact ⟨r, found, kept.trans next⟩

end Facts

def sealing (_ plain : String) : Except String EncryptedBlob := .ok ⟨plain⟩
def unsealing (_ : String) (blob : EncryptedBlob) : Except String String := .ok blob.data

theorem unsealing_inverts : Inverts unsealing sealing := by
  intro _ _ _ ok
  cases ok
  rfl

def docs : BackupProfile :=
  { id := "docs", name := "docs", sources := ["/data"], target := .localPath "/srv",
    password := { encrypted := some ⟨"old"⟩ } }

def stored : Profiles := ⟨[docs], by decide⟩

def rename : Pending := ⟨{ docs with name := "documents", password := {} }, docs, sealing⟩
def rotation : Pending := ⟨{ docs with password := { plain := some "new" } }, docs, sealing⟩

def completed : BackupRunResult :=
  { timestamp := "t", success := true, message := "Backup completed successfully", durationSecs := 1 }

/-- A rename that has read the profile before brings the old password back, and it drops the result of a
backup that was recorded meanwhile. -/
theorem rename_undoes : (∃ s t, Run (Step (fun _ => none) unsealing) { profiles := stored }
        [.prepare 1 rename.update, .prepare 2 rotation.update, .publish rotation (.ok ())] s ∧
      Step (fun _ => none) unsealing s (.publish rename (.ok ())) t ∧ ¬ rename.update.password.IsSet ∧
      (s.profiles.get "docs").map (resolveProfilePassword unsealing) = some (.ok "new") ∧
      (t.profiles.get "docs").map (resolveProfilePassword unsealing) = some (.ok "old")) ∧
    ∃ s t, Run (Step (fun _ => none) unsealing) { profiles := stored }
        [.prepare 1 rename.update, .read 2 "docs", .recordRun docs completed (.ok ())] s ∧
      Step (fun _ => none) unsealing s (.publish rename (.ok ())) t ∧
      backupDefinitionMatches rename.carried docs ∧
      (s.profiles.get "docs").map (·.lastRun) = some (some completed) ∧
      (t.profiles.get "docs").map (·.lastRun) = some none := by
  have run : Run (Step (fun _ => none) unsealing) { profiles := stored } [] { profiles := stored } := .nil _
  have run := run.snoc (.prepare (u := rename) 1 rename.update unsealing_inverts rfl)
  constructor
  · have run := run.snoc (.prepare (u := rotation) 2 rotation.update unsealing_inverts rfl)
    have run := run.snoc (.publish 2 (.ok ()) rfl)
    exact ⟨_, _, run, .publish 1 (.ok ()) rfl, by decide, rfl, rfl⟩
  · have run := run.snoc (.read (p := docs) 2 "docs" rfl)
    have run := run.snoc (.recordRun 2 completed (.ok ()) rfl)
    exact ⟨_, _, run, .publish 1 (.ok ()) rfl, by decide, rfl, rfl⟩

def renameLater : Pending := { rename with existing := rotation.stored }

theorem updates_kept_by_later_rename : ∃ s t p q, Run (StepUpToDate (fun _ => none) unsealing) { profiles := stored }
      [.prepare 2 rotation.update, .publish rotation (.ok ())] s ∧ s.profiles.get "docs" = some p ∧
    Run (StepUpToDate (fun _ => none) unsealing) s [.prepare 1 rename.update, .publish renameLater (.ok ())] t ∧
    t.profiles.get "docs" = some q ∧ resolveProfilePassword unsealing q = resolveProfilePassword unsealing p := by
  have run : Run (StepUpToDate (fun _ => none) unsealing) { profiles := stored } [] { profiles := stored } := .nil _
  have run := run.snoc ⟨.prepare (u := rotation) 2 rotation.update unsealing_inverts rfl, trivial⟩
  have run := run.snoc ⟨.publish (u := rotation) 2 (.ok ()) rfl, fun _ p found => by
    cases Option.some.inj found
    exact ⟨by decide, by decide⟩⟩
  obtain ⟨s, run, profiles⟩ : ∃ s : State, Run (StepUpToDate (fun _ => none) unsealing) { profiles := stored }
      [.prepare 2 rotation.update, .publish rotation (.ok ())] s ∧
      s.profiles = (publishUpdate stored rotation (.ok ())).1 := ⟨_, run, rfl⟩
  have found : s.profiles.get "docs" = some rotation.stored := by rw [profiles]; rfl
  have later : Run (StepUpToDate (fun _ => none) unsealing) s [] s := .nil s
  have later := later.snoc
    ⟨.prepare (u := renameLater) 1 rename.update unsealing_inverts (by rw [profiles]; rfl), trivial⟩
  have ready : Function.update s.pending 1 (some renameLater) 1 = some renameLater := Function.update_self ..
  have later := later.snoc ⟨.publish 1 (.ok ()) ready, fun _ p found' => by
    cases found.symm.trans found'
    exact ⟨by decide, by decide⟩⟩
  obtain ⟨q, renamed, kept⟩ := updates_kept run later found
  exact ⟨s, _, _, q, run, found, later, renamed, kept.password (by decide)⟩

end Updates

end NastyEngine.Backup
