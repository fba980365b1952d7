import NastyEngine.Backup.Endpoint

/-! Profiles are created, updated and deleted by clients, and migrated when the engine starts. -/

namespace NastyEngine.Backup
open Lib Rust List

def prepareCreate (parseUrl : String → Option ParsedUrl) (encrypt : String → String → Except String EncryptedBlob)
    (fresh : String) (request : BackupProfile) : Except BackupError BackupProfile := do
  validateSources request.sources
  let profile := { request with id := if request.id = "" then fresh else request.id }
  profile.trustedCacert.elim (.ok ()) validatePemCert
  return encryptProfileSecrets encrypt { profile with target := normalizeRestUrlUserinfo parseUrl profile.target }

namespace Profiles

def push (s : Profiles) (p : BackupProfile) (fresh : ∀ q ∈ s.all, q.id ≠ p.id) : Profiles where
  all := s.all ++ [p]
  unique := by
    rw [map_append, nodup_append]
    refine ⟨s.unique, nodup_singleton _, ?_⟩
    intro id mem id' mem' same
    obtain ⟨q, there, rfl⟩ := mem_map.mp mem
    exact fresh q there (same.trans (mem_singleton.mp mem'))

def remove (s : Profiles) (id : String) : Profiles where
  all := s.all.filter (·.id ≠ id)
  unique := s.unique.sublist (filter_sublist.map _)

def map (s : Profiles) (f : BackupProfile → BackupProfile) (keeps : ∀ p, (f p).id = p.id) : Profiles where
  all := s.all.map f
  unique := by
    rw [map_map]
    exact (map_congr_left fun p _ => keeps p) ▸ s.unique

end Profiles

def publishCreate (profiles : Profiles) (profile : BackupProfile) (persistence : Persistence) :
    Profiles × Except BackupError BackupProfile :=
  if taken : ∃ p ∈ profiles.all, p.id = profile.id ∨ p.name = profile.name then
    (profiles, .error (.alreadyExists profile.name))
  else
    let next := profiles.push profile fun p mem same => taken ⟨p, mem, .inl same⟩
    (publishProfiles profiles next persistence, (persistence.mapError (·.toError)).map fun _ => profile)

def deleteProfile (profiles : Profiles) (id : String) (persistence : Persistence) : Profiles × Except BackupError Unit :=
  match profiles.get id with
  | none => (profiles, .error (.notFound id))
  | some _ => (publishProfiles profiles (profiles.remove id) persistence, persistence.mapError (·.toError))

def encryptedTargetSet (target : BackupTarget) : Bool := target.secret.any fun named => named.2.encrypted.isSome

section
variable (parseUrl : String → Option ParsedUrl)

def normalizes : BackupTarget → Bool
  | .rest url _ _ => (parseUrl url).any fun parsed => ¬ (parsed.username = "" ∧ parsed.password = none)
  | _ => false

def migrationChanges (encrypt : String → String → Except String EncryptedBlob) (p : BackupProfile) : Bool :=
  let after := migrateProfile parseUrl encrypt p
  normalizes parseUrl p.target ||
    (p.password.encrypted.isSome, encryptedTargetSet (normalizeRestUrlUserinfo parseUrl p.target)) ≠
      (after.password.encrypted.isSome, encryptedTargetSet after.target)

def migrateSecrets (encrypt : String → String → Except String EncryptedBlob)
    (profiles : Profiles) (persistence : Persistence) : Profiles × Except BackupError Unit :=
  if profiles.all.any (migrationChanges parseUrl encrypt) then
    (publishProfiles profiles (profiles.map (migrateProfile parseUrl encrypt) fun _ => rfl) persistence,
      persistence.mapError (·.toError))
  else (profiles, .ok ())

end

namespace Catalog
open Updates (State)

inductive Event where
  | call (event : Updates.Event)
  | create (request : BackupProfile) (persistence : Persistence)
  | delete (id : String) (persistence : Persistence)
  | migrate (persistence : Persistence)

section Steps
variable (parseUrl : String → Option ParsedUrl) (decrypt : String → EncryptedBlob → Except String String)

inductive Step : State → Event → State → Prop
  | call {s s' : State} {event : Updates.Event} (step : Updates.Step parseUrl decrypt s event s') :
      Step s (.call event) s'
  | create {s : State} {encrypt : String → String → Except String EncryptedBlob} (request profile : BackupProfile)
      (fresh : String) (persistence : Persistence) (inverts : Inverts decrypt encrypt)
      (ok : prepareCreate parseUrl encrypt fresh request = .ok profile) :
      Step s (.create request persistence) { s with profiles := (publishCreate s.profiles profile persistence).1 }
  | delete {s : State} (id : String) (persistence : Persistence) :
      Step s (.delete id persistence) { s with profiles := (deleteProfile s.profiles id persistence).1 }
  | migrate {s : State} {encrypt : String → String → Except String EncryptedBlob} (persistence : Persistence)
      (inverts : Inverts decrypt encrypt) :
      Step s (.migrate persistence) { s with profiles := (migrateSecrets parseUrl encrypt s.profiles persistence).1 }

end Steps

/-- A new profile comes without results. An update keeps clear of the names of other profiles, and unless
it changes the definition, its request has no results or those that are stored for the definition it has
read. -/
def Honest (s : State) : Event → Prop
  | .create request persistence => persistenceCommitted persistence → request.lastRun = none
  | .call (.publish u persistence) => persistenceCommitted persistence →
      (∀ q ∈ s.profiles.all, q.name = u.update.name → q.id = u.update.id) ∧
      (backupDefinitionMatches u.carried u.existing → u.update.lastRun = none ∨
        ∀ p, s.profiles.get u.update.id = some p → backupDefinitionMatches p u.existing ∧ u.update.lastRun = p.lastRun)
  | _ => True

def HonestStep (parseUrl : String → Option ParsedUrl) (decrypt : String → EncryptedBlob → Except String String)
    (s : State) (event : Event) (s' : State) : Prop :=
  Step parseUrl decrypt s event s' ∧ Honest s event

def blank : BackupTarget → BackupTarget
  | .s3 endpoint bucket accessKey _ region => .s3 endpoint bucket accessKey {} region
  | .rest url username _ => .rest url username {}
  | .b2 bucket accountId _ => .b2 bucket accountId {}
  | target => target

section Facts
variable (decrypt : String → EncryptedBlob → Except String String)

structure SameDefinition (p q : BackupProfile) : Prop where
  sources : p.sources = q.sources
  target : blank p.target = blank q.target
  trustedCacert : p.trustedCacert = q.trustedCacert
  password : resolveProfilePassword decrypt p = resolveProfilePassword decrypt q
  secret : resolveTargetSecret decrypt p = resolveTargetSecret decrypt q

variable {decrypt} {parseUrl : String → Option ParsedUrl} {p q r : BackupProfile}

theorem SameDefinition.refl (p : BackupProfile) : SameDefinition decrypt p p := ⟨rfl, rfl, rfl, rfl, rfl⟩

theorem SameDefinition.trans (first : SameDefinition decrypt p q) (second : SameDefinition decrypt q r) :
    SameDefinition decrypt p r :=
  ⟨first.sources.trans second.sources, first.target.trans second.target,
    first.trustedCacert.trans second.trustedCacert, first.password.trans second.password,
    first.secret.trans second.secret⟩

theorem SameDefinition.symm (same : SameDefinition decrypt p q) : SameDefinition decrypt q p :=
  ⟨same.sources.symm, same.target.symm, same.trustedCacert.symm, same.password.symm, same.secret.symm⟩

theorem sameDefinition_of_matches (sameId : p.id = q.id) (eq : backupDefinitionMatches p q) :
    SameDefinition decrypt p q := by
  obtain ⟨sources, target, password, cacert⟩ := Updates.matches_iff.mp eq
  refine ⟨sources, congrArg blank target, cacert, ?_, ?_⟩
  · rw [resolveProfilePassword, resolveProfilePassword, password, sameId]
  · rw [resolveTargetSecret, resolveTargetSecret, target, sameId]

variable {encrypt : String → String → Except String EncryptedBlob} {persistence : Persistence}
  {q profile request : BackupProfile} {u : Pending} {result : BackupRunResult}

theorem sameDefinition_encrypt (inverts : Inverts decrypt encrypt) {p : BackupProfile} :
    SameDefinition decrypt p (encryptProfileSecrets encrypt p) := by
  have target : blank (encryptTargetSecrets encrypt p.id p.target) = blank p.target := by cases p.target <;> rfl
  exact ⟨rfl, target.symm, rfl, (resolveProfilePassword_encrypt inverts p).symm, (resolveTargetSecret_encrypt inverts p).symm⟩

structure Continues (parseUrl : String → Option ParsedUrl) (decrypt : String → EncryptedBlob → Except String String)
    (p q : BackupProfile) : Prop where
  id : q.id = p.id
  name : q.name = p.name
  lastRun : q.lastRun = p.lastRun
  normalized : p.target.Normalized parseUrl → q.target.Normalized parseUrl
  definition : p.target.Normalized parseUrl → SameDefinition decrypt p q

theorem Continues.refl {p : BackupProfile} : Continues parseUrl decrypt p p :=
  ⟨rfl, rfl, rfl, fun normalized => normalized, fun _ => .refl p⟩

theorem continues_migrateProfile (inverts : Inverts decrypt encrypt) (p : BackupProfile) :
    Continues parseUrl decrypt p (migrateProfile parseUrl encrypt p) := by
  refine ⟨rfl, rfl, rfl, ?_, ?_⟩
  · intro normalized
    show (encryptTargetSecrets encrypt p.id (normalizeRestUrlUserinfo parseUrl p.target)).Normalized parseUrl
    rw [normalize_of_normalized normalized]
    exact normalized_encrypt normalized
  · intro normalized
    rw [migrateProfile, normalize_of_normalized normalized]
    exact sameDefinition_encrypt inverts

def ContinuesAll (parseUrl : String → Option ParsedUrl) (decrypt : String → EncryptedBlob → Except String String)
    (s t : Profiles) : Prop :=
  ∀ q ∈ t.all, ∃ p ∈ s.all, Continues parseUrl decrypt p q

theorem ContinuesAll.refl {s : Profiles} : ContinuesAll parseUrl decrypt s s := fun p mem => ⟨p, mem, .refl⟩

theorem ContinuesAll.publish {s next : Profiles} (continues : ContinuesAll parseUrl decrypt s next)
    (persistence : Persistence) : ContinuesAll parseUrl decrypt s (publishProfiles s next persistence) := by
  unfold publishProfiles
  split
  · exact continues
  · exact .refl

theorem deleteProfile_continues (s : Profiles) (id : String) {persistence : Persistence} :
    ContinuesAll parseUrl decrypt s (deleteProfile s id persistence).1 := by
  unfold deleteProfile
  split
  · exact .refl
  · apply ContinuesAll.publish
    intro p mem
    exact ⟨p, (mem_filter.mp mem).1, .refl⟩

theorem migrateSecrets_continues (inverts : Inverts decrypt encrypt) (s : Profiles) {persistence : Persistence} :
    ContinuesAll parseUrl decrypt s (migrateSecrets parseUrl encrypt s persistence).1 := by
  unfold migrateSecrets
  split
  · apply ContinuesAll.publish
    intro q mem
    obtain ⟨p, hm, rfl⟩ := mem_map.mp mem
    exact ⟨p, hm, continues_migrateProfile inverts p⟩
  · exact .refl

theorem recordInit_continues (s : Profiles) (initialized : BackupProfile) (persistence : Persistence) :
    ContinuesAll parseUrl decrypt s (recordInit s initialized persistence).1 := by
  unfold recordInit
  split
  · exact .refl
  · split
    · apply ContinuesAll.publish
      intro q mem
      obtain ⟨p, hm, rfl⟩ := mem_modifyKey.mp mem
      refine ⟨p, hm, ?_⟩
      split
      · exact ⟨rfl, rfl, rfl, fun normalized => normalized, fun _ => ⟨rfl, rfl, rfl, rfl, rfl⟩⟩
      · exact .refl
    · exact .refl

theorem mem_publishProfiles {s next : Profiles} (mem : q ∈ (publishProfiles s next persistence).all) :
    q ∈ s.all ∨ persistenceCommitted persistence ∧ q ∈ next.all := by
  unfold publishProfiles at mem
  split at mem
  next committed =>
    exact .inr ⟨committed, mem⟩
  · exact .inl mem

theorem mem_publishCreate {s : Profiles} (mem : q ∈ (publishCreate s profile persistence).1.all) :
    q ∈ s.all ∨ q = profile ∧ persistenceCommitted persistence ∧
      ∀ p ∈ s.all, p.id ≠ profile.id ∧ p.name ≠ profile.name := by
  unfold publishCreate at mem
  split at mem
  · exact .inl mem
  next free =>
    rcases mem_publishProfiles mem with mem | ⟨committed, mem⟩
    · exact .inl mem
    · rcases mem_append.mp mem with mem | mem
      · exact .inl mem
      · refine .inr ⟨mem_singleton.mp mem, committed, ?_⟩
        intro p hm
        exact ⟨fun eq => free ⟨p, hm, .inl eq⟩, fun eq => free ⟨p, hm, .inr eq⟩⟩

theorem mem_publishUpdate {s : Profiles} (mem : q ∈ (publishUpdate s u persistence).1.all) :
    q ∈ s.all ∨ q = u.stored ∧ persistenceCommitted persistence ∧ ∃ p, s.get u.update.id = some p := by
  unfold publishUpdate at mem
  split at mem
  · exact .inl mem
  next p eq =>
    rcases mem_publishProfiles mem with old | ⟨committed, mem⟩
    · exact .inl old
    · obtain ⟨p', hm, rfl⟩ := mem_modifyKey.mp mem
      split
      · exact .inr ⟨rfl, committed, p, eq⟩
      · exact .inl hm

theorem mem_recordRun {s : Profiles} {executed : BackupProfile}
    (mem : q ∈ (recordRun s executed result persistence).1.all) :
    q ∈ s.all ∨ ∃ p ∈ s.all, p.id = executed.id ∧ backupDefinitionMatches p executed ∧
      q = { p with lastRun := some result } := by
  unfold recordRun at mem
  split at mem
  next current found =>
    split at mem
    next eq =>
      rcases mem_publishProfiles mem with mem | ⟨-, mem⟩
      · exact .inl mem
      · obtain ⟨p, hm, rfl⟩ := mem_modifyKey.mp mem
        split
        next hit =>
          have is : s.get executed.id = some p := by
            have := find?_key s.unique hm
            rw [hit] at this
            exact this
          cases found.symm.trans is
          exact .inr ⟨current, hm, hit, eq, rfl⟩
        · exact .inl hm
    · exact .inl mem
  · exact .inl mem

def Produced (decrypt : String → EncryptedBlob → Except String String) (events : List Event) (p : BackupProfile) : Prop :=
  ∀ result, p.lastRun = some result → ∃ executed persistence,
    .call (.recordRun executed result persistence) ∈ events ∧ executed.id = p.id ∧ SameDefinition decrypt executed p

structure Sound (parseUrl : String → Option ParsedUrl) (decrypt : String → EncryptedBlob → Except String String)
    (events : List Event) (s : State) : Prop where
  names : ∀ p ∈ s.profiles.all, ∀ q ∈ s.profiles.all, p.name = q.name → p.id = q.id
  normalized : ∀ p ∈ s.profiles.all, p.target.Normalized parseUrl
  produced : ∀ p ∈ s.profiles.all, Produced decrypt events p
  pending : ∀ call u, s.pending call = some u →
    Inverts decrypt u.encrypt ∧ u.update.target.Normalized parseUrl ∧ u.existing.id = u.update.id

variable {s s' : State} {events more : List Event} {event : Event}

theorem Produced.mono (produced : Produced decrypt events p) (more : List Event) :
    Produced decrypt (events ++ more) p := by
  intro result recorded
  obtain ⟨executed, persistence, mem, rest⟩ := produced result recorded
  exact ⟨executed, persistence, mem_append_left _ mem, rest⟩

theorem Produced.continues (produced : Produced decrypt events p) (continues : Continues parseUrl decrypt p q)
    (normalized : p.target.Normalized parseUrl) : Produced decrypt events q := by
  intro result recorded
  obtain ⟨executed, persistence, mem, sameId, same⟩ := produced result (continues.lastRun.symm.trans recorded)
  exact ⟨executed, persistence, mem, sameId.trans continues.id.symm, same.trans (continues.definition normalized)⟩

theorem Sound.moves (sound : Sound parseUrl decrypt events s) (more : List Event) (id : String)
    {N : BackupProfile → Prop}
    (origin : ∀ q ∈ s'.profiles.all, (∃ p ∈ s.profiles.all, Continues parseUrl decrypt p q) ∨ N q)
    (single : ∀ q, N q → q.id = id)
    (fits : ∀ q, N q → (∀ p ∈ s.profiles.all, p.name = q.name → p.id = q.id) ∧ q.target.Normalized parseUrl ∧
      Produced decrypt (events ++ more) q)
    (pending : ∀ call u, s'.pending call = some u →
      Inverts decrypt u.encrypt ∧ u.update.target.Normalized parseUrl ∧ u.existing.id = u.update.id) :
    Sound parseUrl decrypt (events ++ more) s' := by
  refine ⟨fun p mem q mem' eq => ?_, fun q mem => ?_, fun q mem => ?_, pending⟩
  · rcases origin p mem with ⟨p', hm, old⟩ | new <;> rcases origin q mem' with ⟨q', there', old'⟩ | new'
    · rw [old.id, old'.id]
      exact sound.names p' hm q' there' (by rw [← old.name, ← old'.name, eq])
    · rw [old.id]
      exact (fits q new').1 p' hm (old.name.symm.trans eq)
    · rw [old'.id]
      exact ((fits p new).1 q' there' (old'.name.symm.trans eq.symm)).symm
    · exact (single p new).trans (single q new').symm
  · rcases origin q mem with ⟨p, hm, old⟩ | new
    · exact old.normalized (sound.normalized p hm)
    · exact (fits q new).2.1
  · rcases origin q mem with ⟨p, hm, old⟩ | new
    · exact ((sound.produced p hm).mono more).continues old (sound.normalized p hm)
    · exact (fits q new).2.2

theorem Sound.continues (sound : Sound parseUrl decrypt events s) {more : List Event}
    (all : ContinuesAll parseUrl decrypt s.profiles s'.profiles) (pending : s'.pending = s.pending) :
    Sound parseUrl decrypt (events ++ more) s' := by
  refine sound.moves more "" (N := fun _ => False) (fun q mem => .inl (all q mem)) (fun _ => False.elim)
    (fun _ => False.elim) ?_
  rw [pending]
  exact sound.pending

theorem prepareCreate_ok {fresh : String} (bare : BareUrls parseUrl)
    (ok : prepareCreate parseUrl encrypt fresh request = .ok profile) :
    profile.lastRun = request.lastRun ∧ profile.target.Normalized parseUrl := by
  obtain ⟨_, -, ok⟩ := bind_ok ok
  obtain ⟨_, -, ok⟩ := bind_ok ok
  cases ok
  exact ⟨rfl, normalized_encrypt (normalize_normalized bare request.target)⟩

theorem create_sound (sound : Sound parseUrl decrypt events s) (honest : Honest s (.create request persistence))
    (normalized : profile.target.Normalized parseUrl) (lastRun : profile.lastRun = request.lastRun) (more : List Event) :
    Sound parseUrl decrypt (events ++ more) { s with profiles := (publishCreate s.profiles profile persistence).1 } := by
  refine sound.moves more profile.id (fun q mem => (mem_publishCreate mem).imp_left fun old => ⟨q, old, .refl⟩) ?_ ?_
    sound.pending
  · rintro _ ⟨rfl, -⟩
    rfl
  · rintro _ ⟨rfl, committed, free⟩
    refine ⟨fun p hm eq => absurd eq (free p hm).2, normalized, fun result recorded => ?_⟩
    rw [lastRun, honest committed] at recorded
    cases recorded

theorem stored_name (u : Pending) : u.stored.name = u.update.name := by
  show u.checked.name = _
  unfold Pending.checked invalidateLastRunIfDefinitionChanged
  split <;> rfl

theorem stored_normalized (normalized : u.update.target.Normalized parseUrl) : u.stored.target.Normalized parseUrl := by
  apply normalized_encrypt
  rw [Updates.checked_target]
  revert normalized
  cases u.update.target <;> cases u.existing.target <;> exact fun normalized => normalized

theorem stored_lastRun (recorded : u.stored.lastRun = some result) :
    backupDefinitionMatches u.carried u.existing ∧ u.update.lastRun = some result ∧
      u.stored = encryptProfileSecrets u.encrypt u.carried := by
  by_cases same : backupDefinitionMatches u.carried u.existing
  · have checked : u.checked = u.carried := if_pos same
    have lastRun := (Updates.stored_results same).1
    exact ⟨same, lastRun.symm.trans recorded, congrArg (encryptProfileSecrets u.encrypt) checked⟩
  · have checked : u.checked = { u.carried with lastRun := none } := if_neg same
    have lastRun : u.stored.lastRun = u.checked.lastRun := rfl
    rw [lastRun, checked] at recorded
    cases recorded

section
variable (sound : Sound parseUrl decrypt events s)
include sound

theorem stored_produced (inverts : Inverts decrypt u.encrypt) (sameId : u.existing.id = u.update.id)
    (hit : s.profiles.get u.update.id = some p) (committed : persistenceCommitted persistence)
    (honest : Honest s (.call (.publish u persistence))) : Produced decrypt events u.stored := by
  intro result recorded
  obtain ⟨eq, supplied, stored⟩ := stored_lastRun recorded
  rcases (honest committed).2 eq with none | current
  · cases none.symm.trans supplied
  · obtain ⟨sameRead, sameRun⟩ := current p hit
    have id : p.id = u.update.id := Profiles.id_of_get hit
    obtain ⟨executed, persistence, mem, executedId, ran⟩ :=
      sound.produced p (mem_of_find?_eq_some hit) result (sameRun.symm.trans supplied)
    have read : SameDefinition decrypt p u.existing := sameDefinition_of_matches (id.trans sameId.symm) sameRead
    have carried : SameDefinition decrypt u.carried u.existing := sameDefinition_of_matches sameId.symm eq
    refine ⟨executed, persistence, mem, (executedId.trans id).trans u.checked_id.symm, ?_⟩
    rw [stored]
    exact ((ran.trans read).trans carried.symm).trans (sameDefinition_encrypt inverts)

theorem publish_sound {call : Nat}
    (ready : s.pending call = some u) (honest : Honest s (.call (.publish u persistence))) (more : List Event) :
    Sound parseUrl decrypt (events ++ more)
      { s with
        profiles := (publishUpdate s.profiles u persistence).1
        pending := Function.update s.pending call none } := by
  obtain ⟨inverts, normalized, sameId⟩ := sound.pending call u ready
  have id : u.stored.id = u.update.id := u.checked_id
  refine sound.moves more u.update.id (fun q mem => (mem_publishUpdate mem).imp_left fun old => ⟨q, old, .refl⟩) ?_ ?_ ?_
  · rintro _ ⟨rfl, -⟩
    exact id
  · rintro _ ⟨rfl, committed, p, hit⟩
    refine ⟨fun q old eq => ?_, stored_normalized normalized,
      (stored_produced sound inverts sameId hit committed honest).mono more⟩
    rw [id]
    exact (honest committed).1 q old (eq.trans (stored_name u))
  · intro call' u' ready'
    dsimp only at ready'
    rw [Function.update_apply] at ready'
    split at ready'
    · cases ready'
    · exact sound.pending call' u' ready'

theorem recordRun_sound {executed : BackupProfile} :
    Sound parseUrl decrypt (events ++ [.call (.recordRun executed result persistence)])
      { s with profiles := (recordRun s.profiles executed result persistence).1 } := by
  refine sound.moves _ executed.id (fun q mem => (mem_recordRun mem).imp_left fun old => ⟨q, old, .refl⟩) ?_ ?_
    sound.pending
  · rintro _ ⟨p, -, sameId, -, rfl⟩
    exact sameId
  · rintro _ ⟨p, hm, sameId, eq, rfl⟩
    refine ⟨fun p' there' => sound.names p' there' p hm, sound.normalized p hm, fun result' recorded => ?_⟩
    cases recorded
    refine ⟨executed, persistence, mem_append_right _ (mem_singleton.mpr rfl), sameId.symm, ?_⟩
    have ran : SameDefinition decrypt p executed := sameDefinition_of_matches sameId eq
    exact ran.symm.trans ⟨rfl, rfl, rfl, rfl, rfl⟩

end

theorem prepare_pending {profiles : Profiles} (bare : BareUrls parseUrl) (inverts : Inverts decrypt encrypt)
    (ok : prepareUpdate parseUrl encrypt profiles request = .ok u) :
    Inverts decrypt u.encrypt ∧ u.update.target.Normalized parseUrl ∧ u.existing.id = u.update.id := by
  obtain ⟨_, -, ok⟩ := bind_ok ok
  obtain ⟨existing, eq, ok⟩ := bind_ok ok
  obtain ⟨_, -, ok⟩ := bind_ok ok
  cases ok
  exact ⟨inverts, normalize_normalized bare request.target, Profiles.id_of_get (okOr_ok eq)⟩

theorem step_sound (bare : BareUrls parseUrl) (sound : Sound parseUrl decrypt events s)
    (step : HonestStep parseUrl decrypt s event s') : Sound parseUrl decrypt (events ++ [event]) s' := by
  obtain ⟨step, honest⟩ := step
  cases step with
  | call step =>
    cases step with
    | prepare call request inverts ok =>
      have kept : Sound parseUrl decrypt (events ++ [.call (.prepare call request)]) s :=
        sound.continues .refl rfl
      refine ⟨kept.names, kept.normalized, kept.produced, ?_⟩
      intro call' u' ready'
      dsimp only at ready'
      rw [Function.update_apply] at ready'
      split at ready'
      · cases ready'
        exact prepare_pending bare inverts ok
      · exact sound.pending call' u' ready'
    | publish call persistence ready => exact publish_sound sound ready honest _
    | read => exact sound.continues .refl rfl
    | recordRun => exact recordRun_sound sound
    | recordInit => exact sound.continues (recordInit_continues _ _ _) rfl
  | create request profile fresh persistence inverts ok =>
    obtain ⟨lastRun, normalized⟩ := prepareCreate_ok bare ok
    exact create_sound sound honest normalized lastRun _
  | delete id persistence => exact sound.continues (deleteProfile_continues _ id) rfl
  | migrate persistence inverts => exact sound.continues (migrateSecrets_continues inverts _) rfl

def empty : Profiles := ⟨[], nodup_nil⟩

/-- While clients are honest, ids and names are those of one profile each, and the results of the last run
come from a run of the stored definition. -/
theorem catalog_sound (bare : BareUrls parseUrl) (run : Run (HonestStep parseUrl decrypt) { profiles := empty } events s) :
    (s.profiles.all.map (·.id)).Nodup ∧ (s.profiles.all.map (·.name)).Nodup ∧
      ∀ p ∈ s.profiles.all, Produced decrypt events p := by
  have sound : Sound parseUrl decrypt events s := by
    refine run.history (I := Sound parseUrl decrypt) ?_ fun _ _ _ _ before step => step_sound bare before step
    constructor <;> simp [empty]
  refine ⟨s.profiles.unique, ?_, sound.produced⟩
  have distinct : s.profiles.all.Nodup := s.profiles.unique.of_map _
  apply List.Nodup.map_on _ distinct
  intro p mem q mem' same
  exact inj_on_of_nodup_map s.profiles.unique mem mem' (sound.names p mem q mem' same)

end Facts

open Updates (docs completed sealing unsealing unsealing_inverts)

def photos : BackupProfile := { docs with id := "photos", name := "photos" }

def moved : BackupProfile := { docs with target := .localPath "/other", password := {}, lastRun := some completed }

def firstMove : Pending := ⟨moved, { docs with lastRun := some completed }, sealing⟩
def secondMove : Pending := ⟨moved, firstMove.stored, sealing⟩
def takeName : Pending := ⟨{ photos with name := "docs" }, photos, sealing⟩

/-- An update takes the name of another profile. The result of a run of the old definition comes back when
the request that has edited the definition is sent a second time. -/
theorem catalog_broken : (∃ events s, Run (Step (fun _ => none) unsealing) { profiles := empty } events s ∧
      ¬ (s.profiles.all.map (·.name)).Nodup) ∧
    ∃ events s p, Run (Step (fun _ => none) unsealing) { profiles := empty } events s ∧ p ∈ s.profiles.all ∧
      p.lastRun = some completed ∧ ∀ executed result persistence,
        .call (.recordRun executed result persistence) ∈ events → executed.target ≠ p.target := by
  have run : Run (Step (fun _ => none) unsealing) { profiles := empty } [] { profiles := empty } := .nil _
  have run := run.snoc (.create docs docs "" (.ok ()) unsealing_inverts rfl)
  constructor
  · have run := run.snoc (.create photos photos "" (.ok ()) unsealing_inverts rfl)
    have run := run.snoc (.call (.prepare (u := takeName) 1 takeName.update unsealing_inverts rfl))
    have run := run.snoc (.call (.publish 1 (.ok ()) rfl))
    exact ⟨_, _, run, by decide⟩
  · have run := run.snoc (.call (.read (p := docs) 2 "docs" rfl))
    have run := run.snoc (.call (.recordRun 2 completed (.ok ()) rfl))
    have run := run.snoc (.call (.prepare (u := firstMove) 1 moved unsealing_inverts rfl))
    have run := run.snoc (.call (.publish 1 (.ok ()) rfl))
    have run := run.snoc (.call (.prepare (u := secondMove) 1 moved unsealing_inverts rfl))
    have run := run.snoc (.call (.publish 1 (.ok ()) rfl))
    refine ⟨_, _, secondMove.stored, run, mem_singleton.mpr rfl, rfl, ?_⟩
    intro executed result persistence mem
    have is : executed = docs := by
      simp only [nil_append, cons_append, mem_cons, reduceCtorEq, Event.call.injEq,
        Updates.Event.recordRun.injEq, not_mem_nil, or_false, false_or] at mem
      exact mem.1
    rw [is]
    decide

def renamed : Pending :=
  ⟨{ docs with name := "documents", lastRun := some completed }, { docs with lastRun := some completed }, sealing⟩

theorem catalog_sound_after_rename : ∃ events s,
    Run (HonestStep (fun _ => none) unsealing) { profiles := empty } events s ∧
    (∃ p ∈ s.profiles.all, p.lastRun = some completed) ∧ (s.profiles.all.map (·.name)).Nodup ∧
    ∀ p ∈ s.profiles.all, Produced unsealing events p := by
  have bare : BareUrls fun _ => none := by
    intro _ _ found
    cases found
  have run : Run (HonestStep (fun _ => none) unsealing) { profiles := empty } [] { profiles := empty } := .nil _
  have run := run.snoc ⟨.create docs docs "" (.ok ()) unsealing_inverts rfl, fun _ => rfl⟩
  have run := run.snoc ⟨.call (.read (p := docs) 2 "docs" rfl), trivial⟩
  have run := run.snoc ⟨.call (.recordRun 2 completed (.ok ()) rfl), trivial⟩
  have run := run.snoc ⟨.call (.prepare (u := renamed) 1 renamed.update unsealing_inverts rfl), trivial⟩
  have run := run.snoc ⟨.call (.publish (u := renamed) 1 (.ok ()) rfl), fun _ => by
    refine ⟨by decide, fun _ => .inr fun p found => ?_⟩
    cases Option.some.inj found
    decide⟩
  obtain ⟨-, names, produced⟩ := catalog_sound bare run
  exact ⟨_, _, run, ⟨renamed.stored, mem_singleton.mpr rfl, rfl⟩, names, produced⟩

end Catalog

end NastyEngine.Backup
