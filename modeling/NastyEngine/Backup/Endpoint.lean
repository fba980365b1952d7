import NastyEngine.Backup.Redaction
import NastyEngine.Lib.Percent

/-!
The secrets of a profile are resolved, and the backend is told where the repository is. Credentials for a
REST server travel in the URL.
-/

namespace NastyEngine.Backup
open Lib Rust

def asBytes (s : String) : List UInt8 := s.toList.flatMap String.utf8EncodeChar

/-- The bytes that `url` encodes in a user name or a password. `%` is not among them. -/
def userinfoSet (b : UInt8) : Bool :=
  b ≤ 0x20 || 0x7F ≤ b || b ∈ "\"#<>?`\x7b\x7d/:;=@[\\]^|".toList.map fun c => UInt8.ofNat c.toNat

def encodeUserinfo (s : String) : String :=
  String.ofList ((percentEncode userinfoSet (asBytes s)).map fun b => Char.ofNat b.toNat)

def decoded (userinfo : String) : List UInt8 := percentDecode (asBytes userinfo)

structure UrlLibrary where
  parse : String → Option ParsedUrl
  withUserinfo : (bare user pass : String) → String

structure UrlLibrary.Lawful (lib : UrlLibrary) : Prop where
  bare : BareUrls lib.parse
  withUserinfo : ∀ {url parsed user}, lib.parse url = some parsed → parsed.HasUserinfo → user ≠ "" → ∀ pass,
    lib.parse (lib.withUserinfo parsed.bare user pass) = some
      { username := encodeUserinfo user
        password := if pass = "" then none else some (encodeUserinfo pass)
        bare := parsed.bare }

structure BackendOptions where
  repository : String
  options : List (String × String) := []
  deriving DecidableEq

structure ResolvedTargetSecrets where
  s3SecretKey : Option String := none
  b2AccountKey : Option String := none
  restPassword : Option String := none
  cacertPath : Option String := none
  deriving DecidableEq

section Resolve
variable (lib : UrlLibrary) (decrypt : String → EncryptedBlob → Except String String)
  (materializeCacert : (id : String) → List Char → Except BackupError String)

/-- The password is looked for only if there is a user name. -/
def resolveRestPassword (id : String) (username : Option String) (secret : Secret) : Except BackupError (Option String) :=
  if username.isSome then (resolveSecret decrypt (SecretKind.rest.name id) secret).map some else .ok none

def resolveSecrets (id : String) : BackupTarget → Except BackupError ResolvedTargetSecrets
  | .s3 _ _ _ secret _ => (resolveSecret decrypt (SecretKind.s3.name id) secret).map fun key => { s3SecretKey := some key }
  | .b2 _ _ secret => (resolveSecret decrypt (SecretKind.b2.name id) secret).map fun key => { b2AccountKey := some key }
  | .rest _ username secret => (resolveRestPassword decrypt id username secret).map fun pass => { restPassword := pass }
  | .localPath _ | .sftp .. => .ok {}

def resolveCacert (p : BackupProfile) : Except BackupError (Option String) :=
  ((p.trustedCacert.map fun pem => trim pem.toList).filter (· ≠ [])).elim (.ok none) fun pem =>
    (materializeCacert p.id pem).map some

def resolveRuntime (p : BackupProfile) : Except BackupError ResolvedTargetSecrets := do
  let resolved ← resolveSecrets decrypt p.id p.target
  let cacert ← resolveCacert materializeCacert p
  return { resolved with cacertPath := cacert }

def restRepository (url : String) (username password : Option String) : String :=
  match username, password with
  | some user, some pass =>
    if user ≠ "" then
      match lib.parse url with
      | some parsed => "rest:" ++ lib.withUserinfo parsed.bare user pass
      | none => "rest:" ++ url
    else "rest:" ++ url
  | _, _ => "rest:" ++ url

def entry (key : String) (value : Option String) : List (String × String) := value.toList.map (key, ·)

def toBackendOptions (resolved : ResolvedTargetSecrets) : BackupTarget → BackendOptions
  | .localPath path => { repository := path }
  | .s3 endpoint bucket accessKey _ region =>
    { repository := "opendal:s3"
      options := [("access_key_id", accessKey), ("bucket", bucket), ("endpoint", endpoint)] ++
        entry "region" region ++ entry "secret_access_key" resolved.s3SecretKey }
  | .sftp host user path port =>
    { repository := "opendal:sftp"
      options := [("endpoint", host ++ ":" ++ toString (port.getD 22)), ("root", path), ("user", user)] }
  | .rest url username _ =>
    { repository := restRepository lib url username resolved.restPassword
      options := entry "cacert" resolved.cacertPath }
  | .b2 bucket accountId _ =>
    { repository := "opendal:b2"
      options := [("account_id", accountId)] ++ entry "account_key" resolved.b2AccountKey ++ [("bucket", bucket)] }

def backendOptions (p : BackupProfile) : Except BackupError BackendOptions := do
  let resolved ← resolveRuntime decrypt materializeCacert p
  return toBackendOptions lib resolved p.target

end Resolve

def migrateProfile (parseUrl : String → Option ParsedUrl) (encrypt : String → String → Except String EncryptedBlob)
    (p : BackupProfile) : BackupProfile :=
  encryptProfileSecrets encrypt { p with target := normalizeRestUrlUserinfo parseUrl p.target }

inductive Location where
  | text (repository : String)
  | url (bare : String) (username : List UInt8) (password : Option (List UInt8))
  deriving DecidableEq

def restUrl (repository : String) : Option String :=
  if startsWith repository "rest:" then some (String.ofList (repository.toList.drop 5)) else none

def locate (lib : UrlLibrary) (repository : String) : Location :=
  match (restUrl repository).bind lib.parse with
  | none => .text repository
  | some parsed => .url parsed.bare (decoded parsed.username) (parsed.password.map decoded)

def BackendOptions.meaning (lib : UrlLibrary) (o : BackendOptions) : Location × List (String × String) :=
  (locate lib o.repository, o.options)

variable {s : String}

theorem asBytes_eq_nil : asBytes s = [] ↔ s = "" := by
  constructor
  · intro empty
    have chars : s.toList = [] := by
      cases eq : s.toList with
      | nil => rfl
      | cons c rest =>
        rw [asBytes, eq, List.flatMap_cons, List.append_eq_nil_iff] at empty
        have := String.utf8EncodeChar_ne_nil empty.1
        exact this.elim
    simpa using chars
  · rintro rfl
    rfl

theorem decoded_eq_nil : decoded s = [] ↔ s = "" := percentDecode_eq_nil.trans asBytes_eq_nil

theorem userinfoSet_safe (b : UInt8) (mem : userinfoSet b) : b ≠ 0x25 ∧ hexValue b = none := by
  have all : ∀ n : Fin 256, userinfoSet (.ofFin n) → UInt8.ofFin n ≠ 0x25 ∧ hexValue (.ofFin n) = none := by
    decide +kernel
  exact all b.toFin mem

theorem utf8EncodeChar_ofNat (b : UInt8) (ascii : b < 0x80) : String.utf8EncodeChar (Char.ofNat b.toNat) = [b] := by
  have all : ∀ n : Fin 256, UInt8.ofFin n < 0x80 →
      String.utf8EncodeChar (Char.ofNat (UInt8.ofFin n).toNat) = [UInt8.ofFin n] := by
    decide +kernel
  exact all b.toFin ascii

theorem asBytes_ascii {bytes : List UInt8} (ascii : ∀ b ∈ bytes, b < 0x80) :
    asBytes (String.ofList (bytes.map fun b => Char.ofNat b.toNat)) = bytes := by
  rw [asBytes, String.toList_ofList]
  induction bytes with
  | nil => rfl
  | cons b rest ih =>
    rw [List.map_cons, List.flatMap_cons, utf8EncodeChar_ofNat b (ascii b List.mem_cons_self),
      ih fun c mem => ascii c (List.mem_cons_of_mem b mem)]
    rfl

theorem percentEncodeByte_ascii {b : UInt8} : ∀ c ∈ percentEncodeByte userinfoSet b, c < 0x80 := by
  have all : ∀ n : Fin 256, ∀ c ∈ percentEncodeByte userinfoSet (.ofFin n), c < 0x80 := by
    decide +kernel
  exact all b.toFin

theorem decoded_encodeUserinfo (s : String) : decoded (encodeUserinfo s) = decoded s := by
  have ascii : ∀ b ∈ percentEncode userinfoSet (asBytes s), b < 0x80 := by
    intro b mem
    obtain ⟨plain, -, mem⟩ := List.mem_flatMap.mp mem
    exact percentEncodeByte_ascii b mem
  rw [decoded, encodeUserinfo, asBytes_ascii ascii, percentDecode_percentEncode userinfoSet_safe, decoded]

theorem encodeUserinfo_toList_eq_nil : (encodeUserinfo s).toList = [] ↔ s = "" := by
  rw [← decoded_eq_nil, ← decoded_encodeUserinfo, decoded_eq_nil]
  simp

theorem mem_encodeUserinfo {c : Char} (P : Char → Prop)
    (all : ∀ n : Fin 256, ∀ b ∈ percentEncodeByte userinfoSet (.ofFin n), P (Char.ofNat b.toNat))
    (mem : c ∈ (encodeUserinfo s).toList) : P c := by
  rw [encodeUserinfo, String.toList_ofList] at mem
  obtain ⟨b, encoded, rfl⟩ := List.mem_map.mp mem
  obtain ⟨plain, -, encoded⟩ := List.mem_flatMap.mp encoded
  exact all plain.toFin b encoded

section Encrypt
variable {lib : UrlLibrary} {decrypt : String → EncryptedBlob → Except String String}
  {materializeCacert : (id : String) → List Char → Except BackupError String}
  {encrypt : String → String → Except String EncryptedBlob}

theorem resolveSecrets_encrypt (inverts : Inverts decrypt encrypt) (id : String) (target : BackupTarget) :
    resolveSecrets decrypt id (encryptTargetSecrets encrypt id target) = resolveSecrets decrypt id target := by
  cases target <;>
    simp only [encryptTargetSecrets, resolveSecrets, resolveRestPassword, resolveSecret_encryptWith inverts]

theorem toBackendOptions_encrypt (id : String) (resolved : ResolvedTargetSecrets) (target : BackupTarget) :
    toBackendOptions lib resolved (encryptTargetSecrets encrypt id target) = toBackendOptions lib resolved target := by
  cases target <;> rfl

theorem backendOptions_encrypt (inverts : Inverts decrypt encrypt) (p : BackupProfile) :
    backendOptions lib decrypt materializeCacert (encryptProfileSecrets encrypt p) =
      backendOptions lib decrypt materializeCacert p := by
  have cacert : resolveCacert materializeCacert (encryptProfileSecrets encrypt p) = resolveCacert materializeCacert p := rfl
  show ((do
    let resolved ← resolveSecrets decrypt p.id (encryptTargetSecrets encrypt p.id p.target)
    let cacert ← resolveCacert materializeCacert p
    return { resolved with cacertPath := cacert }) >>= fun resolved =>
      pure (toBackendOptions lib resolved (encryptTargetSecrets encrypt p.id p.target))) = _
  simp only [resolveSecrets_encrypt inverts, toBackendOptions_encrypt]
  rfl

variable {encrypt' : String → String → Except String EncryptedBlob}

section
variable (still : ∀ name plain e, encrypt name plain = .error e → ∃ e', encrypt' name plain = .error e')
include still

theorem Secret.encryptWith_again (name : String)
    (s : Secret) : (s.encryptWith encrypt name).encryptWith encrypt' name = s.encryptWith encrypt name := by
  obtain ⟨_ | plain, _ | blob⟩ := s
  · rfl
  · rfl
  · cases outcome : encrypt name plain with
    | ok blob => simp [encryptWith, outcome]
    | error e =>
      obtain ⟨e', again⟩ := still name plain e outcome
      simp [encryptWith, outcome, again]
  · rfl

theorem encryptProfileSecrets_again (p : BackupProfile) :
    encryptProfileSecrets encrypt' (encryptProfileSecrets encrypt p) = encryptProfileSecrets encrypt p := by
  have target : encryptTargetSecrets encrypt' p.id (encryptTargetSecrets encrypt p.id p.target) =
      encryptTargetSecrets encrypt p.id p.target := by
    cases p.target <;> simp only [encryptTargetSecrets, Secret.encryptWith_again still]
  simp only [encryptProfileSecrets, Secret.encryptWith_again still, target]

end

theorem normalized_encrypt {parseUrl : String → Option ParsedUrl} {target : BackupTarget} {id : String}
    (normalized : target.Normalized parseUrl) : (encryptTargetSecrets encrypt id target).Normalized parseUrl := by
  cases target <;> exact normalized

end Encrypt

end NastyEngine.Backup
