import NastyEngine.Lib.Run
import NastyEngine.Pools.Identity
import NastyEngine.Pools.Parts

/-!
Files of keys have the name of a pool, and names are used again. The keys under a name are for the pool
that is registered under it, as long as a new pool finds none of an earlier one.
-/

namespace NastyEngine.Pools
open Lib Fallible
open Storage (FilesystemError CreateFilesystemRequest)

def Host.Stores (s : Host) (name text : String) : Prop :=
  s.keys.lookup name = some text ∨ s.sealedKeys.lookup name = some text

/-- Every member of the pool takes every key that is stored under the name. -/
def Opens (s : Host) (name uuid : String) : Prop :=
  ∀ text, s.Stores name text → ∀ device superblock, s.machine.members.lookup device = some superblock →
    superblock.uuid = uuid → superblock.passphrase = some (firstLine text)

def KeysFit (s : Host) : Prop :=
  ∀ name opts uuid, s.registered name = some opts → opts.uuid = some uuid → Opens s name uuid

/-- What is read to unlock a registered pool is its passphrase, whatever fails on the way. -/
def UnlocksRight (s : Host) : Prop :=
  ∀ name opts uuid, s.registered name = some opts → opts.uuid = some uuid → ∀ faults text,
    (run (readUnlockKey name) ⟨s, faults⟩).1 = .ok (some text) → ∀ device superblock,
    s.machine.members.lookup device = some superblock → superblock.uuid = uuid →
    superblock.passphrase = some (firstLine text)

section
variable {s t : Host} {name uuid : String}

theorem readKeyFile_stored : Stays (· = s) (readKeyFile name) (fun found _ => found = s.keys.lookup name) s := by
  refine .observed rfl ?_
  cases s.keys.lookup name with
  | none => exact .pure rfl rfl
  | some text =>
    refine .quiet (.mapError (.external (Q := fun _ _ => True) rfl rfl trivial)) rfl fun _ _ => ?_
    exact .pure rfl rfl

theorem readUnlockKey_stored (name : String) :
    Stays (· = s) (readUnlockKey name) (fun found _ => ∀ text, found = some text → s.Stores name text) s := by
  have unsealed : Stays (· = s) (unsealKeyFile name)
      (fun found _ => ∀ text, found = some text → s.sealedKeys.lookup name = some text) s := by
    refine .observed rfl ?_
    refine .quiet look_quiet rfl fun done _ => .pure rfl fun text same => ?_
    split at same
    · exact same
    · cases same
  refine .quiet unsealed rfl fun found same => ?_
  cases found with
  | some text =>
    refine .pure rfl fun other given => ?_
    cases given
    exact .inr (same text rfl)
  | none => exact .mono readKeyFile_stored fun found _ _ same text given => .inl (same.symm.trans given)

/-- Each key that is stored may be the one that is read: the plain one if the TPM does not give the sealed one. -/
theorem exists_read {text : String} (stores : s.Stores name text) :
    ∃ faults, (run (readUnlockKey name) ⟨s, faults⟩).1 = .ok (some text) := by
  rcases stores with plain | isSealed
  · have read : Clear 1 (readKeyFile name) s (some text) s := by
      have found : Clear 0 (observe fun host => host.keys.lookup name : Op _) s (some text) s := by
        rw [← plain]
        exact .observe
      refine .bind (n := 0) (m := 1) found ?_
      exact .bind (n := 1) (m := 0) (t := s) (.mapError .external) .pure
    refine ⟨[some ""], ?_⟩
    change (run (readKeyFile name) ⟨s, []⟩).1 = _
    rw [read [] (by simp)]
  · have unsealed : Clear 1 (unsealKeyFile name) s (some text) s := by
      have found : Clear 0 (observe fun host => host.sealedKeys.lookup name : Op _) s (some text) s := by
        rw [← isSealed]
        exact .observe
      refine .bind (n := 0) (m := 1) found ?_
      exact .bind (n := 1) (m := 0) (t := s) (.succeeds .external) .pure
    have read : Clear 1 (readUnlockKey name) s (some text) s := .bind (m := 0) unsealed .pure
    exact ⟨[], by rw [read [] (by simp)]⟩

theorem unlocksRight_iff : UnlocksRight s ↔ KeysFit s := by
  constructor
  · intro right name opts uuid eq known text stores
    obtain ⟨faults, read⟩ := exists_read stores
    exact right name opts uuid eq known faults text read
  · intro fit name opts uuid eq known faults text read
    have stored := (readUnlockKey_stored (s := s) name faults).2 (some text) read text rfl
    exact fit name opts uuid eq known text stored

structure Kept (s t : Host) : Prop where
  keys : t.keys = s.keys
  sealedKeys : t.sealedKeys = s.sealedKeys
  members : ∀ device superblock, t.machine.members.lookup device = some superblock →
    s.machine.members.lookup device = some superblock

theorem Kept.refl : Kept s s := ⟨rfl, rfl, fun _ _ eq => eq⟩

theorem Kept.opens (kept : Kept s t) (opens : Opens s name uuid) : Opens t name uuid := by
  intro text stores device superblock there eq
  rw [Host.Stores, kept.keys, kept.sealedKeys] at stores
  exact opens text stores device superblock (kept.members device superblock there) eq

section
variable {J : Host → Prop}

theorem forgetFs_preserves (erases : ∀ entries : FsState, Preserves J (saveFsState (entries.erase name))) :
    Preserves J (forgetFs name) := by
  refine .observed fun entries => ?_
  split
  · exact .bind (.succeeds (erases entries)) fun _ => .pure
  · exact .pure

variable (stable : ∀ t registry, J t → J { t with registry := registry })
include stable

theorem saveFsState_registry {entries : FsState} : Preserves J (saveFsState entries) :=
  fun t inv => saveFsState_stays inv (fun _ => stable t _ inv) fun _ => stable t _ inv

theorem editFsState_registry (change : FsState → FsState) : Preserves J (editFsState change) :=
  fun t inv => editFsState_stays inv (fun _ => stable t _ inv) fun _ => stable t _ inv

end

theorem kept_admits (s : Host) (name : String) :
    Admits name (fun f => ∀ t, Kept s t → Kept s (f t)) (fun p => Preserves (Kept s) p) where
  toClosed := preserves_closed
  light := fun effect light t kept =>
    ⟨(light.keys t).trans kept.keys, (light.sealedKeys t).trans kept.sealedKeys, by
      rw [light.machine t]
      exact kept.members⟩
  unmount := fun _ _ kept => { kept with }
  mount := fun _ _ _ kept => { kept with }
  wipe := fun _ _ kept => ⟨kept.keys, kept.sealedKeys, fun device superblock eq =>
    kept.members device superblock (Keyed.lookup_of_erase eq)⟩
  insert := fun _ => editFsState_registry (fun _ _ kept => { kept with }) _
  forget := forgetFs_preserves fun _ => saveFsState_registry (fun _ _ kept => { kept with })

def Host.Bare (s : Host) (name : String) : Prop := s.keys.lookup name = none ∧ s.sealedKeys.lookup name = none

theorem Host.Bare.opens (bare : s.Bare name) : Opens s name uuid := by
  rintro text (plain | isSealed)
  · cases bare.1.symm.trans plain
  · cases bare.2.symm.trans isSealed

theorem keysFit_of_actedOn (fit : KeysFit s) (tidy : s.registered name ≠ none ∨ s.Bare name ∨ t.registered name = none)
    (acted : ActedOn s name t) (kept : Kept s t) : KeysFit t := by
  intro other opts uuid eq known
  apply kept.opens
  rcases acted with idle | ⟨pool, bound, acted⟩
  · rw [registered_congr idle.registry] at eq
    exact fit other opts uuid eq known
  -- the entry is the old one, or the own one with the UUID that the old one had
  have found : s.registered other = some opts ∨ other = name ∧ uuid = pool := by
    by_cases same : other = name
    · subst same
      rcases acted.own with own | own
      · exact .inl (own ▸ eq)
      · exact .inr ⟨rfl, Option.some.inj (known.symm.trans (own opts eq))⟩
    · rcases acted.others with broken | others
      · rw [Host.registered, Registry.load, broken] at eq
        cases eq
      · exact .inl (others other same ▸ eq)
  rcases found with found | ⟨rfl, rfl⟩
  · exact fit other opts uuid found known
  rcases tidy with registered | bare | unknown
  · obtain ⟨entry, eq⟩ := Option.ne_none_iff_exists'.mp registered
    exact fit other entry uuid eq (bound entry eq)
  · exact bare.opens
  · cases unknown.symm.trans eq

theorem tpmBind_preserves {J : Host → Prop} (light : ∀ effect, Light effect → ∀ t, J t → J (effect t))
    (bound : ∀ t text, J t → t.keys.lookup name = some text →
      J { t with sealedKeys := t.sealedKeys.insert name text }) : Preserves J (tpmBind name) := by
  intro t inv
  refine .bind (get_closed preserves_closed light t inv) fun fs t inv _ => ?_
  refine .checked inv fun _ _ => .quiet look_quiet inv fun _ _ => ?_
  refine .checked inv fun _ _ => ?_
  refine .quiet readKeyFile_stored inv ?_
  rintro _ rfl
  refine .checked inv fun text stored => ?_
  have stored := okOr_ok stored
  refine .quiet (command_closed preserves_closed (fun _ eq => eq) t rfl) inv fun _ _ => ?_
  exact .mapError (.external inv (bound t text inv stored) trivial)

theorem keysFit_light (effect : Host → Host) (light : Light effect) (s : Host) (fit : KeysFit s) : KeysFit (effect s) := by
  intro name opts uuid eq known text stores device superblock member
  rw [registered_congr (light.registry s)] at eq
  rw [Host.Stores, light.keys, light.sealedKeys] at stores
  rw [light.machine] at member
  exact fit name opts uuid eq known text stores device superblock member

theorem stores_of_sealed {t : Host} {name other text key : String} (stored : t.keys.lookup name = some text)
    (stores : ({ t with sealedKeys := t.sealedKeys.insert name text } : Host).Stores other key) : t.Stores other key := by
  rcases stores with plain | isSealed
  · exact .inl plain
  · rcases Keyed.lookup_of_insert isSealed with ⟨rfl, rfl⟩ | ⟨-, before⟩
    · exact .inl stored
    · exact .inr before

theorem tpmBind_keysFit (name : String) : Preserves KeysFit (tpmBind name) :=
  tpmBind_preserves keysFit_light fun _ _ fit stored other opts uuid eq known key stores =>
    fit other opts uuid eq known key (stores_of_sealed stored stores)

theorem keysFit_of_fewer {keys sealedKeys : Keyed String String} (fit : KeysFit s)
    (fewer : ∀ name text, keys.lookup name = some text ∨ sealedKeys.lookup name = some text → s.Stores name text) :
    KeysFit { s with keys := keys, sealedKeys := sealedKeys } :=
  fun name opts uuid eq known text stores => fit name opts uuid eq known text (fewer name text stores)

theorem deleteKey_keysFit (name : String) : Preserves KeysFit (deleteKey name) := by
  refine .observed fun _ => .checked fun _ => ?_
  refine command_closed preserves_closed fun t fit => keysFit_of_fewer fit fun other text stores => ?_
  exact stores.imp_left Keyed.lookup_of_erase

theorem tpmUnbind_keysFit (name : String) : Preserves KeysFit (tpmUnbind name) := by
  refine .observed fun bound => ?_
  split
  · refine command_closed preserves_closed fun t fit => keysFit_of_fewer fit fun other text stores => ?_
    exact stores.imp_right Keyed.lookup_of_erase
  · exact .pure

theorem unknown_commands {name : String} : Commands
    (fun f => ∀ t : Host, t.registered name = none → (f t).registered name = none)
    (fun p => Preserves (fun t : Host => t.registered name = none) p) where
  toClosed := preserves_closed
  light := fun effect light t unknown => by
    rw [registered_congr (light.registry t)]
    exact unknown
  unmount := fun _ _ unknown => unknown
  mount := fun _ _ _ unknown => unknown
  wipe := fun _ _ unknown => unknown

theorem eraseEntry_unknown (state : FsState) (name : String) :
    Preserves (fun t : Host => t.registered name = none) (saveFsState (state.erase name)) :=
  fun _ unknown => saveFsState_stays unknown (fun _ => rfl) fun _ => AList.lookup_erase name state

def StoresKey (req : CreateFilesystemRequest) : Prop := req.encryption = some true ∧ req.storeKey ≠ some false

def Unused (s : Host) (uuid : String) : Prop :=
  (∀ device superblock, s.machine.members.lookup device = some superblock → superblock.uuid ≠ uuid) ∧
    ∀ name opts, s.registered name = some opts → opts.uuid ≠ some uuid

section
variable {req : CreateFilesystemRequest} {made : Made}

/-- The devices may have been formatted; nothing is stored or registered. -/
structure Begun (req : CreateFilesystemRequest) (made : Made) (s t : Host) : Prop where
  keys : t.keys = s.keys
  sealedKeys : t.sealedKeys = s.sealedKeys
  registry : t.registry = s.registry
  grown : ∀ device superblock, t.machine.members.lookup device = some superblock →
    s.machine.members.lookup device = some superblock ∨ superblock = newSuperblock req made

structure Provided (req : CreateFilesystemRequest) (made : Made) (s t : Host) : Prop where
  unknown : s.registered req.name = none
  opens : ∀ text, t.Stores req.name text → (newSuperblock req made).passphrase = some (firstLine text)
  others : ∀ other text, other ≠ req.name → t.Stores other text → s.Stores other text
  grown : ∀ device superblock, t.machine.members.lookup device = some superblock →
    s.machine.members.lookup device = some superblock ∨ superblock = newSuperblock req made

theorem prepareDevices_begun (humanBytes : String → Option Nat) :
    Preserves (Begun req made s) (prepareDevices humanBytes req made) := by
  refine prepareDevices_parts preserves_closed (fun effect light t begun => ?_) fun t begun => ?_
  · refine ⟨(light.keys t).trans begun.keys, (light.sealedKeys t).trans begun.sealedKeys,
      (light.registry t).trans begun.registry, ?_⟩
    rw [light.machine t]
    exact begun.grown
  · refine ⟨begun.keys, begun.sealedKeys, begun.registry, fun device superblock eq => ?_⟩
    change (t.machine.members.insertAll _ _).lookup device = some superblock at eq
    rw [Keyed.lookup_insertAll] at eq
    split at eq
    · cases eq
      exact .inr rfl
    · exact begun.grown device superblock eq

theorem storeNewKey_provided (begun : Begun req made s t) (unknown : s.registered req.name = none)
    (noSeal : s.sealedKeys.lookup req.name = none) (noKey : StoresKey req ∨ s.keys.lookup req.name = none)
    (given : req.encryption = some true → ∃ passphrase, req.passphrase = some passphrase) :
    Stays (fun u => Begun req made s u ∨ Provided req made s u) (storeNewKey req) (fun _ u => Provided req made s u) t := by
  have others : ∀ other text, t.Stores other text → s.Stores other text := by
    intro other text stores
    rw [Host.Stores, begun.keys, begun.sealedKeys] at stores
    exact stores
  unfold storeNewKey
  split
  next stores =>
    obtain ⟨passphrase, eq⟩ := given stores.1
    have new : (newSuperblock req made).passphrase = some (firstLine passphrase) := by
      rw [newSuperblock, if_pos stores.1, eq, Option.map_some]
    have stored : Provided req made s { t with keys := t.keys.insert req.name passphrase } := by
      refine ⟨unknown, fun text stores => ?_, fun other text ne stores => ?_, begun.grown⟩
      · rcases stores with plain | isSealed
        · rw [AList.lookup_insert] at plain
          cases plain
          exact new
        · rw [begun.sealedKeys, noSeal] at isSealed
          cases isSealed
      · apply others
        rcases stores with plain | isSealed
        · rw [AList.lookup_insert_ne ne] at plain
          exact .inl plain
        · exact .inr isSealed
    rw [eq]
    refine .quiet (fileSystem_closed preserves_closed (fun _ eq => eq) t rfl) (.inl begun) fun _ _ => ?_
    exact .mapError (.external (.inl begun) (.inr stored) stored)
  next stores =>
    have bare := noKey.resolve_left stores
    have provided : Provided req made s t := by
      refine ⟨unknown, fun text stores => ?_, fun other text _ => others other text, begun.grown⟩
      rcases others req.name text stores with plain | isSealed
      · cases bare.symm.trans plain
      · cases noSeal.symm.trans isSealed
    exact .pure (.inr provided) provided

theorem provided_admits (req : CreateFilesystemRequest) (made : Made) (s : Host) : Admits req.name
    (fun f => ∀ t, Provided req made s t → Provided req made s (f t)) (fun p => Preserves (Provided req made s) p) where
  toClosed := preserves_closed
  light := fun effect light t provided => by
    refine ⟨provided.unknown, fun text stores => ?_, fun other text ne stores => ?_, ?_⟩
    · rw [Host.Stores, light.keys, light.sealedKeys] at stores
      exact provided.opens text stores
    · rw [Host.Stores, light.keys, light.sealedKeys] at stores
      exact provided.others other text ne stores
    · rw [light.machine t]
      exact provided.grown
  unmount := fun _ _ provided => { provided with }
  mount := fun _ _ _ provided => { provided with }
  wipe := fun _ _ provided =>
    { provided with grown := fun device superblock eq =>
        provided.grown device superblock (Keyed.lookup_of_erase eq) }
  insert := fun _ => editFsState_registry (fun _ _ provided => { provided with }) _
  forget := forgetFs_preserves fun _ => saveFsState_registry (fun _ _ provided => { provided with })

theorem bindCreated_provided : Preserves (Provided req made s) (bindCreated req) := by
  unfold bindCreated
  split
  · refine .bind (.attempt (tpmBind_preserves (provided_admits req made s).light ?_)) fun result => ?_
    · intro t text provided stored
      exact ⟨provided.unknown, fun key stores => provided.opens key (stores_of_sealed stored stores),
        fun other key ne stores => provided.others other key ne (stores_of_sealed stored stores), provided.grown⟩
    · cases result with
      | ok _ => exact .pure
      | error e => exact .ofExcept _
  · exact Preserves.pure

theorem create_provides {humanBytes : String → Option Nat} {looks : Nat} (made : Made)
    (noSeal : s.sealedKeys.lookup req.name = none)
    (noKey : StoresKey req ∨ s.keys.lookup req.name = none) :
    Stays (fun t => Begun req made s t ∨ Provided req made s t) (create humanBytes looks req made) (fun _ _ => True) s := by
  have begun : Begun req made s s := ⟨rfl, rfl, rfl, fun _ _ => .inl⟩
  have prepared := Stays.and (prepareDevices_acts humanBytes req made) (prepareDevices_begun humanBytes s begun)
  refine .then prepared (fun _ inv => .inl inv.2) fun _ t inv facts => ?_
  obtain ⟨⟨unknown, formatted, given⟩, _⟩ := facts
  refine .bind (storeNewKey_provided inv.2 unknown noSeal noKey given) fun _ t _ provided => ?_
  have admits := provided_admits req made s
  have closed := admits.toClosed
  refine .weaken (I := Provided req made s) ?_ fun _ => .inr
  refine closed.bind (getFsUuid_closed closed) (fun _ => closed.checked fun uuid => ?_) t provided
  refine closed.bind (verifyDevicePathsUuid_closed closed) fun _ => ?_
  refine closed.bind (unlockCreated_closed closed admits.light req _) fun _ => ?_
  refine closed.bind (mountCreated_parts admits) fun _ => closed.bind (admits.insert _) fun _ => ?_
  refine closed.bind (invalidateListCache_closed closed admits.light) fun _ => ?_
  exact closed.bind bindCreated_provided fun _ => closed.pure _

theorem keysFit_of_created (fit : KeysFit s) (unused : Unused s made.uuid) (created : CreatedOn s req.name made.uuid t)
    (provided : Begun req made s t ∨ Provided req made s t) : KeysFit t := by
  intro other opts uuid there known text stores device superblock member eq
  have grown : s.machine.members.lookup device = some superblock ∨ superblock = newSuperblock req made := by
    rcases provided with begun | provided
    · exact begun.grown device superblock member
    · exact provided.grown device superblock member
  -- an entry that was there is of another pool than the new one
  have before : s.registered other = some opts → s.Stores other text → superblock.passphrase = some (firstLine text) := by
    intro there stores
    refine fit other opts uuid there known text stores device superblock (grown.resolve_right fun new => ?_) eq
    rw [new] at eq
    exact unused.2 other opts there (known.trans (congrArg some eq.symm))
  rcases provided with begun | provided
  · rw [registered_congr begun.registry] at there
    rw [Host.Stores, begun.keys, begun.sealedKeys] at stores
    exact before there stores
  rcases created with idle | ⟨_, acted⟩
  · rw [registered_congr idle.registry] at there
    refine before there (provided.others other text (fun own => ?_) stores)
    rw [own, provided.unknown] at there
    cases there
  by_cases own : other = req.name
  · subst own
    rcases acted.own with unchanged | bound
    · rw [unchanged, provided.unknown] at there
      cases there
    · cases known.symm.trans (bound opts there)
      have new := grown.resolve_left fun old => unused.1 device superblock old eq
      rw [new]
      exact provided.opens text stores
  · rcases acted.others with broken | others
    · rw [Host.registered, Registry.load, broken] at there
      cases there
    · rw [others other own] at there
      exact before there (provided.others other text own stores)

end

end

/-- A new pool has a new UUID and finds no key under its name, other than a plain one that it replaces. Where a
name may get an entry, it has one or no key is stored under it. -/
def Request.Tidy (s : Host) : Request → Prop
  | create req made => s.sealedKeys.lookup req.name = none ∧ (StoresKey req ∨ s.keys.lookup req.name = none) ∧
      Unused s made.uuid
  | mount name _ | unmount name | lock name => s.registered name ≠ none ∨ s.Bare name
  | updateOptions req => s.registered req.name ≠ none ∨ s.Bare req.name
  | destroy _ _ | forgetUnavailable _ _ _ | unlock _ _ | deleteKey _ | tpmBind _ | tpmUnbind _ => True

section
variable (humanBytes : String → Option Nat) (looks : Nat)

/-- The name has an entry or no key, or it has no entry in the end either. -/
def Settled (s : Host) (name : String) (t : Host) : Prop :=
  s.registered name ≠ none ∨ s.Bare name ∨ t.registered name = none

variable {s : Host}

theorem stays_settled {α : Type} {name : String} {p : Op α} (known : s.registered name ≠ none ∨ s.Bare name) :
    Stays (Settled s name) p (fun _ _ => True) s := fun _ => ⟨known.imp_right .inl, fun _ _ => trivial⟩

theorem stays_removed {α : Type} {name : String} {p : Op α}
    (preserves : Preserves (fun t : Host => t.registered name = none) p) :
    Stays (Settled s name) p (fun _ _ => True) s := by
  by_cases unknown : s.registered name = none
  · exact Stays.weaken (preserves s unknown) fun _ unknown => .inr (.inr unknown)
  · exact fun _ => ⟨.inl unknown, fun _ _ => trivial⟩

variable {request : Request}

theorem keysFit_of_kept (fit : KeysFit s) (kept : Preserves (Kept s) (serve humanBytes looks request))
    (settled : Stays (Settled s request.name) (serve humanBytes looks request) (fun _ _ => True) s) :
    Stays KeysFit (serve humanBytes looks request) (fun _ _ => True) s := by
  have all := Stays.and (.and serve_acts (kept s .refl)) settled
  refine .weaken (.mono all fun _ _ _ _ => trivial) ?_
  rintro t ⟨⟨acted, kept⟩, settled⟩
  exact keysFit_of_actedOn fit settled acted kept

theorem serve_keysFit (fit : KeysFit s) (tidy : request.Tidy s) :
    Stays KeysFit (serve humanBytes looks request) (fun _ _ => True) s := by
  have admits := kept_admits s request.name
  have closed := admits.toClosed
  have fitClosed : Closed _ (fun p => Preserves KeysFit p) := preserves_closed
  cases request with
  | create req made =>
    obtain ⟨noSeal, noKey, unused⟩ := tidy
    have all := Stays.and (create_acts humanBytes looks req made) (create_provides made noSeal noKey)
    refine .map (.weaken (.mono all fun _ _ _ _ => trivial) ?_)
    rintro t ⟨created, provided⟩
    exact keysFit_of_created fit unused created provided
  | mount name forceDegraded =>
    exact keysFit_of_kept humanBytes looks fit (closed.map (mountMaybeDegraded_parts admits)) (stays_settled tidy)
  | unmount name =>
    exact keysFit_of_kept humanBytes looks fit (closed.bind (unmount_parts admits) fun _ => closed.pure _)
      (stays_settled tidy)
  | lock name => exact keysFit_of_kept humanBytes looks fit (closed.map (lock_parts admits)) (stays_settled tidy)
  | updateOptions req =>
    exact keysFit_of_kept humanBytes looks fit (closed.map (updateOptions_parts admits)) (stays_settled tidy)
  | destroy name confirmName =>
    refine keysFit_of_kept humanBytes looks fit ?_ (stays_removed ?_)
    · exact closed.bind (destroy_parts admits.toCommands admits.forget) fun _ => closed.pure _
    · exact .bind (destroy_parts unknown_commands (forgetFs_preserves (eraseEntry_unknown · name))) fun _ => .pure
  | forgetUnavailable name expected confirmName =>
    refine keysFit_of_kept humanBytes looks fit ?_ (stays_removed ?_)
    · exact closed.bind (forgetUnavailable_parts admits.toCommands (fun _ => saveFsState_registry
        (fun _ _ kept => { kept with }))) fun _ => closed.pure _
    · exact .bind (forgetUnavailable_parts unknown_commands (eraseEntry_unknown · name)) fun _ => .pure
  | unlock name passphrase => exact fitClosed.map (unlock_closed fitClosed keysFit_light) s fit
  | deleteKey name => exact fitClosed.bind (deleteKey_keysFit name) (fun _ => fitClosed.pure _) s fit
  | tpmBind name => exact fitClosed.bind (tpmBind_keysFit name) (fun _ => fitClosed.pure _) s fit
  | tpmUnbind name => exact fitClosed.bind (tpmUnbind_keysFit name) (fun _ => fitClosed.pure _) s fit

def Serves (s : Host) (call : Request × List (Option String)) (t : Host) : Prop :=
  t = (run (serve humanBytes looks call.1) ⟨s, call.2⟩).2.state ∧ call.1.Tidy s

end

/-- What a tidy create reads when it has formatted the devices and stored its key is the passphrase of the new pool. -/
def CreateReadsOwn (humanBytes : String → Option Nat) (s : Host) : Prop :=
  ∀ req made faults u, (Request.create req made).Tidy s →
    run (prepareDevices humanBytes req made >>= fun _ => storeNewKey req) ⟨s, faults⟩ = (.ok (), u) →
    ∀ faults' text, (run (readUnlockKey req.name) ⟨u.state, faults'⟩).1 = .ok (some text) → ∀ device ∈ made.devices,
      (u.state.machine.members.lookup device).bind (·.passphrase) = some (firstLine text)

theorem createReadsOwn (humanBytes : String → Option Nat) (s : Host) : CreateReadsOwn humanBytes s := by
  rintro req made faults u ⟨noSeal, noKey, -⟩ ran faults' text read device mem
  have begun : Begun req made s s := ⟨rfl, rfl, rfl, fun _ _ => .inl⟩
  have stored : Stays (fun _ => True) (prepareDevices humanBytes req made >>= fun _ => storeNewKey req)
      (fun _ t => Provided req made s t ∧ Formatted req made s t) s := by
    have prepared := Stays.and (prepareDevices_acts humanBytes req made) (prepareDevices_begun humanBytes s begun)
    refine .then prepared (fun _ _ => trivial) fun _ t inv facts => ?_
    obtain ⟨⟨unknown, formatted, given⟩, _⟩ := facts
    have provides := storeNewKey_provided inv.2 unknown noSeal noKey given
    have kept := storeNewKey_closed preserves_closed (formatted_blind req made s).outer req t formatted
    exact .weaken (.mono (.and provides kept) fun _ _ inv post => ⟨post.1, inv.2⟩) fun _ _ => trivial
  obtain ⟨provided, formatted⟩ : Provided req made s u.state ∧ Formatted req made s u.state := by
    have post := (stored faults).2 ()
    rw [ran] at post
    exact post rfl
  rw [formatted.ready device mem]
  exact provided.opens text ((readUnlockKey_stored (s := u.state) req.name faults').2 (some text) read text rfl)

/-- In every run of tidy requests, what is read to unlock a registered pool is its passphrase, and so is what the next
create would read for its own pool. -/
theorem unlocksRight_of_tidy (humanBytes : String → Option Nat) (looks : Nat) {s t : Host}
    {calls : List (Request × List (Option String))} (start : UnlocksRight s)
    (served : Run (Serves humanBytes looks) s calls t) : UnlocksRight t ∧ CreateReadsOwn humanBytes t := by
  refine ⟨?_, createReadsOwn humanBytes t⟩
  rw [unlocksRight_iff] at start ⊢
  refine served.invariant start ?_
  rintro s ⟨request, faults⟩ _ fit ⟨rfl, tidy⟩
  exact (serve_keysFit humanBytes looks fit tidy faults).1

def encryptedTank (passphrase : String) (bindToTpm : Bool) : CreateFilesystemRequest where
  name := "tank"
  devices := [{ path := "/dev/sda" }]
  encryption := some true
  passphrase := some passphrase
  bindToTpm := some bindToTpm

def Host.after (s : Host) (request : Request) : Host := (run (serve (fun _ => none) 0 request) ⟨s, []⟩).2.state

/-- The key of the first pool is no longer sealed when it is destroyed. -/
def unboundTank : Host :=
  ((Host.after {} (.create (encryptedTank "old" true) ⟨["/dev/sda"], "7e1a"⟩)).after (.tpmUnbind "tank")).after
    (.destroy "tank" "tank")

theorem unused_unboundTank : Unused unboundTank "c04d" := by
  have members : unboundTank.machine.members.pairs = [] := by decide +kernel
  have entries : unboundTank.registry.load.pairs = [] := by decide +kernel
  constructor
  · intro device superblock there
    have mem := Keyed.mem_pairs.mpr there
    rw [members] at mem
    cases mem
  · intro name opts there
    have mem := Keyed.mem_pairs.mpr there
    rw [entries] at mem
    cases mem

theorem unlocksRight_of_reused_name :
    ((unboundTank.after (.create (encryptedTank "new" false) ⟨["/dev/sda"], "c04d"⟩)).registered "tank").bind (·.uuid) =
        some "c04d" ∧
      UnlocksRight (unboundTank.after (.create (encryptedTank "new" false) ⟨["/dev/sda"], "c04d"⟩)) := by
  have first : UnlocksRight {} := by
    intro name opts uuid there
    cases there
  have ran : Run (Serves (fun _ => none) 0) {} [] {} := .nil _
  have ran := ran.snoc (a := (Request.create (encryptedTank "old" true) ⟨["/dev/sda"], "7e1a"⟩, []))
    ⟨rfl, rfl, .inr rfl, fun _ _ there => (Option.some_ne_none _ there.symm).elim,
      fun _ _ there => (Option.some_ne_none _ there.symm).elim⟩
  have ran := ran.snoc (a := (Request.tpmUnbind "tank", [])) ⟨rfl, trivial⟩
  have ran := ran.snoc (a := (Request.destroy "tank" "tank", [])) ⟨rfl, trivial⟩
  have ran := ran.snoc (a := (Request.create (encryptedTank "new" false) ⟨["/dev/sda"], "c04d"⟩, []))
    ⟨rfl, by decide +kernel, .inl ⟨by decide, by decide⟩, unused_unboundTank⟩
  exact ⟨by decide +kernel, (unlocksRight_of_tidy (fun _ => none) 0 first ran).1⟩

def destroyedTank : Host :=
  (run (do
    let _ ← serve (fun _ => none) 0 (.create (encryptedTank "old" true) ⟨["/dev/sda"], "7e1a"⟩)
    serve (fun _ => none) 0 (.destroy "tank" "tank")) ⟨{}, []⟩).2.state

def recreated (faults : List (Option String)) : Except FilesystemError (Option Filesystem) × Faulty Host :=
  run (serve (fun _ => none) 0 (.create (encryptedTank "new" false) ⟨["/dev/sda"], "c04d"⟩)) ⟨destroyedTank, faults⟩

/-- The sealed key of the old pool is tried on the new one. If the TPM did not give it at that time, it gives it later. -/
theorem recreate_meets_old_key : (recreated []).1 = .error (.commandFailed "bcachefs unlock: incorrect passphrase") ∧
      ((recreated (List.replicate 10 none ++ [some "unseal"])).2.state.registered "tank").bind (·.uuid) = some "c04d" ∧
      (run (readUnlockKey "tank") ⟨(recreated (List.replicate 10 none ++ [some "unseal"])).2.state, []⟩).1 =
        .ok (some "old") ∧
      (recreated (List.replicate 10 none ++ [some "unseal"])).2.state.machine.members.lookup "/dev/sda" =
        some ⟨"c04d", some "new"⟩ := by
  decide +kernel

end NastyEngine.Pools
