import Mathlib.Algebra.Group.Nat.Defs
import Mathlib.Logic.Function.Basic
import NastyEngine.Lib.Proc

/-!
One JSON file per share. Every change loads a record, works on it and saves it, all while it holds
the one lock of the service, so that changes do not overlap. A save writes a temporary file and
renames it: if it fails, the record is as before.
-/

namespace NastyEngine.Guest
open Lib Fallible

inductive GuestShareError where
  | notFound (id : String)
  | notRevoked (id : String)
  | noPaths
  | tooManyPaths
  | pathNotFound (path : String)
  | pathNotInFilesystem (path : String)
  | invalidPath (path : String)
  | hash (message : String)
  | io (message : String)
  deriving DecidableEq

structure GuestShare where
  id : String
  tokenHash : String
  paths : List String
  createdBy : String
  createdAt : Int
  expiresAt : Option Int
  passwordHash : Option String
  maxDownloads : Option UInt32
  downloads : UInt32 := 0
  views : UInt32 := 0
  revoked : Bool := false
  hidden : Bool := false
  note : Option String
  deriving DecidableEq

def saturatingAdd (a b : UInt32) : UInt32 := if a.toNat + b.toNat < 2 ^ 32 then a + b else UInt32.ofNat (2 ^ 32 - 1)

def isAccessible (s : GuestShare) (now : Int) : Bool :=
  !s.revoked && s.expiresAt.all (now < ·) && s.maxDownloads.all (s.downloads < ·)

structure StateDir where
  files : String → Option GuestShare
  named : ∀ id share, files id = some share → share.id = id

namespace StateDir

def empty : StateDir := ⟨fun _ => none, nofun⟩

def put (dir : StateDir) (share : GuestShare) : StateDir where
  files := Function.update dir.files share.id (some share)
  named := by
    intro id other found
    by_cases same : id = share.id
    · subst same
      rw [Function.update_self] at found
      rw [← Option.some.inj found]
    · rw [Function.update_of_ne same] at found
      exact dir.named id other found

@[simp] theorem put_self {dir : StateDir} {share : GuestShare} : (dir.put share).files share.id = some share :=
  Function.update_self ..

theorem put_of_ne {dir : StateDir} {share : GuestShare} {id : String} (ne : id ≠ share.id) :
    (dir.put share).files id = dir.files id := Function.update_of_ne ne ..

end StateDir

structure Io where
  readable : Bool := true
  saveError : Option String := none
  deriving DecidableEq

def load (io : Io) (id : String) (dir : StateDir) : Option GuestShare := if io.readable then dir.files id else none

def save (io : Io) (share : GuestShare) : Fallible GuestShareError StateDir Unit :=
  ExceptT.mk (Proc.act fun dir => match io.saveError with
    | some e => (.error (.io e), dir)
    | none => (.ok (), dir.put share))

structure CreateGuestShareRequest where
  paths : List String
  expiresAt : Option Int := none
  password : Option String := none
  maxDownloads : Option UInt32 := none
  note : Option String := none
  deriving DecidableEq

def maxShareRoots : Nat := 32

/-- What `create` takes from outside: the file system's answer for a path, the password hasher, the
caller, the clock, and the id and the hash of the token that were drawn. -/
structure Creation where
  request : CreateGuestShareRequest
  canonicalize : String → Except GuestShareError String
  hashPassword : String → Except String String
  createdBy : String
  now : Int
  id : String
  tokenHash : String

def hashedPassword (c : Creation) : Except GuestShareError (Option String) :=
  match c.request.password with
  | some pw => if pw ≠ "" then ((c.hashPassword pw).mapError .hash).map some else .ok none
  | none => .ok none

def newShare (c : Creation) : Except GuestShareError GuestShare := do
  require (c.request.paths ≠ []) .noPaths
  require (c.request.paths.length ≤ maxShareRoots) .tooManyPaths
  let paths ← c.request.paths.mapM c.canonicalize
  let passwordHash ← hashedPassword c
  return { id := c.id, tokenHash := c.tokenHash, paths, createdBy := c.createdBy, createdAt := c.now
           expiresAt := c.request.expiresAt, passwordHash, maxDownloads := c.request.maxDownloads
           note := c.request.note }

section
variable {T : Type} (io : Io)

def create (c : Creation) : Fallible GuestShareError StateDir Unit := do
  let share ← Fallible.ofExcept (newShare c)
  save io share

def loaded (id : String) : Fallible GuestShareError StateDir GuestShare := do
  let found ← read (load io id)
  Fallible.ofExcept (okOr found (.notFound id))

def revoke (id : String) : Fallible GuestShareError StateDir GuestShare := do
  let share ← loaded io id
  if share.revoked then return share
  else do
    save io { share with revoked := true }
    return { share with revoked := true }

def remove (id : String) : Fallible GuestShareError StateDir Unit := do
  let share ← loaded io id
  Fallible.ofExcept (require (share.revoked = true) (.notRevoked id))
  if share.hidden then return ()
  else save io { share with hidden := true }

/-- `record_view` with the lock; without it the view is not counted. -/
def recordView (id : String) : Fallible GuestShareError StateDir Unit := do
  match ← read (load io id) with
  | some share => ignoreError (save io { share with views := saturatingAdd share.views 1 })
  | none => return ()

def registerDownloadHolding (id : String) (now : Int) (held : T) : Fallible GuestShareError StateDir T := do
  let share ← loaded io id
  Fallible.ofExcept (require (isAccessible share now = true) (.notFound id))
  save io { share with downloads := saturatingAdd share.downloads 1 }
  return held

def registerDownload (id : String) (now : Int) : Fallible GuestShareError StateDir Unit :=
  registerDownloadHolding io id now ()

end

inductive Event where
  | create (io : Io) (creation : Creation)
  | revoke (io : Io) (id : String)
  | remove (io : Io) (id : String)
  | view (io : Io) (id : String)
  | skipView (id : String)
  | register (io : Io) (id : String) (now : Int)

def Event.run : Event → StateDir → Except GuestShareError Unit × StateDir
  | .create io creation => Fallible.run (Guest.create io creation)
  | .revoke io id => fun dir =>
    let (answer, dir) := Fallible.run (Guest.revoke io id) dir
    (answer.map fun _ => (), dir)
  | .remove io id => Fallible.run (Guest.remove io id)
  | .view io id => Fallible.run (recordView io id)
  | .skipView _ => fun dir => (.ok (), dir)
  | .register io id now => Fallible.run (registerDownload io id now)

def Event.Fresh (dir : StateDir) : Event → Prop
  | .create _ creation => dir.files creation.id = none
  | _ => True

def Step (s : StateDir) (label : Event × Except GuestShareError Unit) (t : StateDir) : Prop :=
  label.1.Fresh s ∧ label.1.run s = (label.2, t)

inductive Effect (s : StateDir) : Event × Except GuestShareError Unit → StateDir → Prop
  | refused (event : Event) (e : GuestShareError) : Effect s (event, .error e) s
  | uncounted {event : Event} (view : (∃ io id, event = .view io id) ∨ ∃ id, event = .skipView id) :
      Effect s (event, .ok ()) s
  | created {io : Io} {c : Creation} {share : GuestShare} (built : newShare c = .ok share) :
      Effect s (.create io c, .ok ()) (s.put share)
  | again {io : Io} {share : GuestShare} (found : s.files share.id = some share)
      (revoked : share.revoked = true) : Effect s (.revoke io share.id, .ok ()) s
  | revoked {io : Io} {share : GuestShare} (found : s.files share.id = some share) :
      Effect s (.revoke io share.id, .ok ()) (s.put { share with revoked := true })
  | gone {io : Io} {share : GuestShare} (found : s.files share.id = some share)
      (revoked : share.revoked = true) : Effect s (.remove io share.id, .ok ()) s
  | removed {io : Io} {share : GuestShare} (found : s.files share.id = some share)
      (revoked : share.revoked = true) :
      Effect s (.remove io share.id, .ok ()) (s.put { share with hidden := true })
  | viewed {io : Io} {share : GuestShare} (found : s.files share.id = some share) :
      Effect s (.view io share.id, .ok ()) (s.put { share with views := saturatingAdd share.views 1 })
  | registered {io : Io} {share : GuestShare} {now : Int} (found : s.files share.id = some share)
      (accessible : isAccessible share now = true) :
      Effect s (.register io share.id now, .ok ()) (s.put { share with downloads := saturatingAdd share.downloads 1 })

section Effects
variable {s t : StateDir} {io : Io} {id : String} {r : Except GuestShareError Unit}

variable {share : GuestShare}

theorem ends_save {Q : Except GuestShareError Unit → StateDir → Prop}
    (failed : ∀ e, Q (.error (.io e)) s) (saved : Q (.ok ()) (s.put share)) : Ends (save io share) Q s := by
  unfold Ends save
  cases io.saveError with
  | some e => exact failed e
  | none => exact saved

theorem load_some (hit : load io id s = some share) : s.files share.id = some share ∧ share.id = id := by
  unfold load at hit
  split at hit
  · have eq : share.id = id := s.named id share hit
    exact ⟨by rw [eq]; exact hit, eq⟩
  · cases hit

theorem ends_loaded {α : Type} {f : GuestShare → Fallible GuestShareError StateDir α}
    {Q : Except GuestShareError α → StateDir → Prop} (missing : Q (.error (.notFound id)) s)
    (rest : ∀ share, s.files share.id = some share → share.id = id → Ends (f share) Q s) :
    Ends (loaded io id >>= f) Q s := by
  refine ends_bind (ends_read ?_)
  cases hit : load io id s with
  | none => exact missing
  | some share =>
    obtain ⟨stored, eq⟩ := load_some hit
    exact rest share stored eq

theorem create_effect (c : Creation) : Ends (create io c) (fun r t => Effect s (.create io c, r) t) s :=
  ends_ofExcept (fun e _ => .refused _ e) fun _ built => ends_save (fun _ => .refused _ _) (.created built)

theorem revoke_effect : Ends (revoke io id) (fun r t => Effect s (.revoke io id, r.map fun _ => ()) t) s := by
  refine ends_loaded (.refused _ _) fun share hit eq => ?_
  subst eq
  split
  next revoked =>
    exact .again hit revoked
  · exact ends_bind (ends_save (fun _ => .refused _ _) (.revoked hit))

theorem remove_effect : Ends (remove io id) (fun r t => Effect s (.remove io id, r) t) s := by
  refine ends_loaded (.refused _ _) fun share hit eq => ?_
  subst eq
  refine ends_ofExcept (fun e _ => .refused _ e) fun _ revoked => ?_
  have revoked := require_ok revoked
  split
  · exact .gone hit revoked
  · exact ends_save (fun _ => .refused _ _) (.removed hit revoked)

theorem view_effect : Ends (recordView io id) (fun r t => Effect s (.view io id, r) t) s := by
  refine ends_read ?_
  cases eq : load io id s with
  | none => exact .uncounted (.inl ⟨io, id, rfl⟩)
  | some share =>
    obtain ⟨stored, rfl⟩ := load_some eq
    exact ends_ignoreError (ends_save (fun _ => .uncounted (.inl ⟨io, _, rfl⟩)) (.viewed stored))

theorem register_effect (now : Int) :
    Ends (registerDownload io id now) (fun r t => Effect s (.register io id now, r) t) s := by
  refine ends_loaded (.refused _ _) fun share hit eq => ?_
  subst eq
  refine ends_ofExcept (fun e _ => .refused _ e) fun _ accessible => ?_
  exact ends_bind (ends_save (fun _ => .refused _ _) (.registered hit (require_ok accessible)))

theorem Event.effect {event : Event} (ran : event.run s = (r, t)) : Effect s (event, r) t := by
  have ended : Effect s (event, (event.run s).1) (event.run s).2 := by
    cases event with
    | create io c => exact create_effect c
    | revoke => exact revoke_effect
    | remove => exact remove_effect
    | view => exact view_effect
    | skipView id => exact .uncounted (.inr ⟨id, rfl⟩)
    | register io id now => exact register_effect now
  rw [ran] at ended
  exact ended

theorem register_works {now : Int} (eq : s.files id = some share) (accessible : isAccessible share now = true) :
    (Event.register {} id now).run s = (.ok (), s.put { share with downloads := saturatingAdd share.downloads 1 }) := by
  have ok : Fallible.run (loaded {} id) s = (.ok share, s) := by
    unfold loaded
    rw [run_bind_ok run_read, run_ofExcept, load, if_pos rfl, eq]
    rfl
  simp only [Event.run, registerDownload, registerDownloadHolding]
  rw [run_bind_ok ok, require, if_pos accessible, run_bind_ok (run_ofExcept _ s)]
  rfl

end Effects

end NastyEngine.Guest
