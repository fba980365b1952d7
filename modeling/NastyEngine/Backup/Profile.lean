import NastyEngine.Lib.Result
import NastyEngine.Rust.Text
import Mathlib.Data.List.Infix

/-!
What the engine stores for each profile, and what it does to a profile before it is saved: secrets
that a request leaves out are taken from the stored profile, and plain secrets are encrypted.
-/

namespace NastyEngine.Backup
open Lib Rust

structure EncryptedBlob where
  data : String
  deriving DecidableEq

/-- The two fields every secret has: as it was supplied, and encrypted. -/
structure Secret where
  plain : Option String := none
  encrypted : Option EncryptedBlob := none
  deriving DecidableEq

def Secret.IsSet (s : Secret) : Prop := s.plain ≠ none ∨ s.encrypted ≠ none

instance (s : Secret) : Decidable s.IsSet := inferInstanceAs (Decidable (s.plain ≠ none ∨ s.encrypted ≠ none))

inductive BackupTarget where
  | localPath (path : String)
  | s3 (endpoint bucket accessKey : String) (secretKey : Secret) (region : Option String)
  | sftp (host user path : String) (port : Option UInt16)
  | rest (url : String) (username : Option String) (password : Secret)
  | b2 (bucket accountId : String) (accountKey : Secret)
  deriving DecidableEq

structure BackupRunResult where
  timestamp : String
  success : Bool
  message : String
  durationSecs : Nat
  bytesAdded : Option Nat := none
  filesNew : Option Nat := none
  filesChanged : Option Nat := none
  deriving DecidableEq

structure BackupProfile where
  id : String
  name : String
  enabled : Bool := true
  sources : List String
  target : BackupTarget
  schedule : Option String := none
  password : Secret := {}
  snapshotBefore : Bool := true
  repoInitialized : Bool := false
  lastRun : Option BackupRunResult := none
  trustedCacert : Option String := none
  deriving DecidableEq

inductive BackupError where
  | notFound (id : String)
  | alreadyExists (name : String)
  | failed (message : String)
  | io (message : String)
  deriving DecidableEq

def BackupError.display : BackupError → String
  | .notFound id => "profile not found: " ++ id
  | .alreadyExists name => "profile already exists: " ++ name
  | .failed message => "backup failed: " ++ message
  | .io message => "io error: " ++ message

def validateSources (sources : List String) : Except BackupError Unit :=
  require (sources ≠ [] ∧ ∀ source ∈ sources, trim source.toList ≠ []) (.failed "backup sources cannot be empty")

def validatePemCert (pem : String) : Except BackupError Unit := do
  let trimmed := trim pem.toList
  require (trimmed ≠ []) (.failed "trusted_cacert: empty input — leave the field unset to remove")
  require ("-----BEGIN CERTIFICATE-----".toList <:+: trimmed ∧ "-----END CERTIFICATE-----".toList <:+: trimmed)
    (.failed ("trusted_cacert: not a PEM certificate — paste the contents of a .pem / .crt file " ++
      "starting with -----BEGIN CERTIFICATE-----"))

/-- `backup_definition_matches`; the two sides are compared as JSON, which tells all values apart. -/
def backupDefinitionMatches (left right : BackupProfile) : Bool :=
  left.sources = right.sources ∧
    (left.target, left.password, left.trustedCacert) = (right.target, right.password, right.trustedCacert)

def invalidateLastRunIfDefinitionChanged (update existing : BackupProfile) : BackupProfile :=
  if backupDefinitionMatches update existing then update else { update with lastRun := none }

structure ParsedUrl where
  username : String
  password : Option String
  bare : String
  deriving DecidableEq

def decodeBytes : List UInt8 → Option (List UInt8)
  | [] => some []
  | 0x25 :: a :: b :: rest => do
    let encoded ← String.fromUTF8? ⟨#[a, b]⟩
    let byte ← fromStrRadix 16 256 encoded.toList
    return UInt8.ofNat byte :: (← decodeBytes rest)
  | 0x25 :: _ => none
  | byte :: rest => (decodeBytes rest).map (byte :: ·)

def decodeUrlUserinfo (value : String) : Option String :=
  (decodeBytes value.toUTF8.toList).bind fun bytes => String.fromUTF8? ⟨bytes.toArray⟩

def normalizeRestUrlUserinfo (parseUrl : String → Option ParsedUrl) (target : BackupTarget) : BackupTarget :=
  match target with
  | .rest url username password =>
    match parseUrl url with
    | none => target
    | some parsed =>
      if parsed.username = "" ∧ parsed.password = none then target
      else
        let username := if username.all (· = "") then decodeUrlUserinfo parsed.username else username
        let legacy := parsed.password.bind decodeUrlUserinfo
        let password := if ¬ password.IsSet ∧ legacy.isSome then { password with plain := legacy } else password
        .rest parsed.bare username password
  | _ => target

def Secret.carry (update existing : Secret) : Secret := if update.IsSet then update else existing

def carryForwardTarget (update existing : BackupTarget) : BackupTarget :=
  match update, existing with
  | .s3 endpoint bucket accessKey secret region, .s3 _ _ _ stored _ =>
    .s3 endpoint bucket accessKey (secret.carry stored) region
  | .b2 bucket accountId secret, .b2 _ _ stored => .b2 bucket accountId (secret.carry stored)
  | .rest url username secret, .rest _ _ stored => .rest url username (secret.carry stored)
  | _, _ => update

def carryForwardExistingSecrets (update existing : BackupProfile) : BackupProfile :=
  { update with
    password := update.password.carry existing.password
    target := carryForwardTarget update.target existing.target }

def Secret.encryptWith (encrypt : String → String → Except String EncryptedBlob) (name : String) (s : Secret) :
    Secret :=
  match s.encrypted, s.plain with
  | none, some plain => match encrypt name plain with
    | .ok blob => { plain := none, encrypted := some blob }
    | .error _ => s
  | _, _ => s

def profilePasswordName (id : String) : String := "nasty.backup." ++ id ++ ".password"

inductive SecretKind where
  | s3
  | b2
  | rest
  deriving DecidableEq

def SecretKind.name (id : String) : SecretKind → String
  | .s3 => "nasty.backup." ++ id ++ ".s3.secret_key"
  | .b2 => "nasty.backup." ++ id ++ ".b2.account_key"
  | .rest => "nasty.backup." ++ id ++ ".rest.password"

def encryptTargetSecrets (encrypt : String → String → Except String EncryptedBlob) (id : String) :
    BackupTarget → BackupTarget
  | .s3 endpoint bucket accessKey secret region =>
    .s3 endpoint bucket accessKey (secret.encryptWith encrypt (SecretKind.s3.name id)) region
  | .b2 bucket accountId secret => .b2 bucket accountId (secret.encryptWith encrypt (SecretKind.b2.name id))
  | .rest url username secret => .rest url username (secret.encryptWith encrypt (SecretKind.rest.name id))
  | target => target

def encryptProfileSecrets (encrypt : String → String → Except String EncryptedBlob) (p : BackupProfile) :
    BackupProfile :=
  { p with
    password := p.password.encryptWith encrypt (profilePasswordName p.id)
    target := encryptTargetSecrets encrypt p.id p.target }

section Resolve
variable (decrypt : String → EncryptedBlob → Except String String)

def resolveSecret (name : String) (s : Secret) : Except BackupError String :=
  match s.encrypted, s.plain with
  | some blob, _ => (decrypt name blob).mapError fun e => .failed ("decrypt " ++ name ++ ": " ++ e)
  | none, some plain => .ok plain
  | none, none => .error (.failed ("secret '" ++ name ++
      "' is neither encrypted nor plaintext (profile is missing required field)"))

def resolveProfilePassword (p : BackupProfile) : Except BackupError String :=
  resolveSecret decrypt (profilePasswordName p.id) p.password

def BackupTarget.secret : BackupTarget → Option (SecretKind × Secret)
  | .s3 _ _ _ secret _ => some (.s3, secret)
  | .b2 _ _ secret => some (.b2, secret)
  | .rest _ _ secret => some (.rest, secret)
  | .localPath _ | .sftp .. => none

def resolveTargetSecret (p : BackupProfile) : Option (Except BackupError String) :=
  p.target.secret.map fun (kind, secret) => resolveSecret decrypt (kind.name p.id) secret

def Inverts (encrypt : String → String → Except String EncryptedBlob) : Prop :=
  ∀ name plain blob, encrypt name plain = .ok blob → decrypt name blob = .ok plain

variable {decrypt} {encrypt : String → String → Except String EncryptedBlob}

theorem resolveSecret_encryptWith (inverts : Inverts decrypt encrypt) {name : String} {s : Secret} :
    resolveSecret decrypt name (s.encryptWith encrypt name) = resolveSecret decrypt name s := by
  obtain ⟨plain, encrypted⟩ := s
  cases encrypted with
  | some blob => rfl
  | none =>
    cases plain with
    | none => rfl
    | some plain =>
      unfold Secret.encryptWith
      dsimp only
      split
      next blob ok =>
        simp [resolveSecret, inverts name plain blob ok, Except.mapError]
      · rfl

theorem resolveProfilePassword_encrypt (inverts : Inverts decrypt encrypt) (p : BackupProfile) :
    resolveProfilePassword decrypt (encryptProfileSecrets encrypt p) = resolveProfilePassword decrypt p :=
  resolveSecret_encryptWith inverts

theorem encryptTargetSecrets_secret (id : String) {target : BackupTarget} :
    (encryptTargetSecrets encrypt id target).secret =
      target.secret.map fun (kind, secret) => (kind, secret.encryptWith encrypt (kind.name id)) := by
  cases target <;> rfl

theorem resolveTargetSecret_encrypt (inverts : Inverts decrypt encrypt) (p : BackupProfile) :
    resolveTargetSecret decrypt (encryptProfileSecrets encrypt p) = resolveTargetSecret decrypt p := by
  have secret : (encryptProfileSecrets encrypt p).target.secret = _ := encryptTargetSecrets_secret p.id
  rw [resolveTargetSecret, secret, Option.map_map]
  apply congrFun (congrArg Option.map _)
  funext named
  exact resolveSecret_encryptWith inverts

theorem Secret.carry_of_not_set {update existing : Secret} (absent : ¬ update.IsSet) : update.carry existing = existing :=
  if_neg absent

theorem carryForwardTarget_secret {update existing : BackupTarget}
    (sameKind : update.secret.map (·.1) = existing.secret.map (·.1))
    (absent : ∀ named ∈ update.secret, ¬ named.2.IsSet) :
    (carryForwardTarget update existing).secret = existing.secret := by
  cases update <;> cases existing <;>
    simp_all [BackupTarget.secret, carryForwardTarget, Secret.carry_of_not_set]

end Resolve

end NastyEngine.Backup
