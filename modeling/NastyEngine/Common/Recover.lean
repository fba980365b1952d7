import NastyEngine.Common.StateDir

/-!
`load_singleton_or_recover` moves a file that it cannot parse to a name that ends in the seconds of the clock.
-/

namespace NastyEngine.Common
open Function

abbrev Files := List Char → Option (List UInt8)

def stem (name : List Char) : List Char :=
  match extension name with
  | some ending => name.take (name.length - (ending.length + 1))
  | none => name

/-- A clock before 1970 has no seconds. -/
def stamp (clock : Option Nat) : List Char := (clock.map (Nat.toDigits 10)).getD "unknown".toList

/-- `path.with_extension("<extension>.corrupt.<seconds>")` -/
def corruptName (path : List Char) (clock : Option Nat) : List Char :=
  stem path ++ '.' :: (extension path).getD "dat".toList ++ ".corrupt.".toList ++ stamp clock

def rename (source target : List Char) (files : Files) : Files :=
  update (update files source none) target (files source)

theorem corruptName_ne {path : List Char} {clock : Option Nat} : corruptName path clock ≠ path := by
  have longer : path.length < (corruptName path clock).length := by
    unfold corruptName stem
    cases extension path with
    | none => simp
    | some ending =>
      simp
      omega
  intro eq
  rw [eq] at longer
  exact Nat.lt_irrefl _ longer

structure Singleton (α : Type) extends Codec α where
  path : List Char
  default : α

inductive Access (α : Type) where
  | load (readable : Bool) (clock : Option Nat)
  | save (value : α)
  | replace (bytes : List UInt8)

namespace Singleton
variable {α : Type} (s : Singleton α)

/-- `readable` says that the file can be read if it is there; it must be text as well. -/
def loadSingletonOrRecover (readable : Bool) (clock : Option Nat) (files : Files) : α × Files :=
  match files s.path with
  | none => (s.default, files)
  | some bytes =>
    if readable && (String.fromUTF8? ⟨bytes.toArray⟩).isSome then
      match s.fromStr bytes with
      | .ok value => (value, files)
      | .error _ => (s.default, rename s.path (corruptName s.path clock) files)
    else (s.default, files)

def apply (files : Files) : Access α → Files
  | .load readable clock => (s.loadSingletonOrRecover readable clock files).2
  | .save value =>
    match s.toStringPretty value with
    | .ok json => update files s.path (some json)
    | .error _ => files
  | .replace bytes => update files s.path (some bytes)

def accesses (files : Files) (events : List (Access α)) : Files := events.foldl s.apply files

variable {s} {files : Files} {name : List Char}

theorem load_other {readable : Bool} {clock : Option Nat} (ne : name ≠ s.path)
    (apart : name ≠ corruptName s.path clock) : (s.loadSingletonOrRecover readable clock files).2 name = files name := by
  unfold loadSingletonOrRecover
  split
  · rfl
  · split_ifs
    · split
      · rfl
      · exact (update_of_ne apart _ _).trans (update_of_ne ne _ _)
    · rfl

/-- A load that moves the file moves it to a name that is free. -/
def Spares (s : Singleton α) (files : Files) : Access α → Prop
  | .load readable clock => s.apply files (.load readable clock) s.path = files s.path ∨
      files (corruptName s.path clock) = none
  | _ => True

def SparesAll (s : Singleton α) : Files → List (Access α) → Prop
  | _, [] => True
  | files, event :: rest => s.Spares files event ∧ s.SparesAll (s.apply files event) rest

theorem load_kept {readable : Bool} {clock : Option Nat}
    (same : (s.loadSingletonOrRecover readable clock files).2 s.path = files s.path) :
    (s.loadSingletonOrRecover readable clock files).2 = files := by
  unfold loadSingletonOrRecover at same ⊢
  split
  · rfl
  next bytes found =>
    simp only [found] at same
    split_ifs at same ⊢
    · split
      · rfl
      next corrupt =>
        simp only [corrupt, rename] at same
        rw [update_of_ne corruptName_ne.symm, update_self] at same
        cases same
    · rfl

theorem apply_spared {event : Access α} {bytes : List UInt8} (ne : name ≠ s.path) (kept : files name = some bytes)
    (spares : s.Spares files event) : s.apply files event name = some bytes := by
  cases event with
  | load readable clock =>
    rcases spares with same | free
    · exact (congrFun (load_kept same) name).trans kept
    · refine (load_other ne fun eq => ?_).trans kept
      rw [← eq, kept] at free
      cases free
  | replace bytes => exact (update_of_ne ne _ _).trans kept
  | save value =>
    rw [apply]
    cases s.toStringPretty value with
    | ok json => exact (update_of_ne ne _ _).trans kept
    | error => exact kept

theorem accesses_spared {events : List (Access α)} {bytes : List UInt8} (ne : name ≠ s.path)
    (kept : files name = some bytes) (spares : s.SparesAll files events) : s.accesses files events name = some bytes := by
  induction events generalizing files with
  | nil => exact kept
  | cons event rest ih => exact ih (apply_spared ne kept spares.1) spares.2

/-- A load that reads text it cannot parse returns the default and keeps the bytes, as long as later loads move the
file to names that are free. -/
theorem corrupt_bytes_kept {before after : List (Access α)} {clock : Option Nat} {bytes : List UInt8} {error : String}
    (found : s.accesses files before s.path = some bytes) (corrupt : s.fromStr bytes = .error error)
    (text : (String.fromUTF8? ⟨bytes.toArray⟩).isSome = true)
    (spares : s.SparesAll (s.accesses files (before ++ [.load true clock])) after) :
    (s.loadSingletonOrRecover true clock (s.accesses files before)).1 = s.default ∧
      ∃ name, s.accesses files (before ++ .load true clock :: after) name = some bytes := by
  have loaded : s.loadSingletonOrRecover true clock (s.accesses files before) =
      (s.default, rename s.path (corruptName s.path clock) (s.accesses files before)) := by
    simp only [loadSingletonOrRecover, found, text, corrupt, Bool.and_self, if_true]
  refine ⟨by rw [loaded], corruptName s.path clock, ?_⟩
  have moved : s.accesses files (before ++ [.load true clock]) =
      rename s.path (corruptName s.path clock) (s.accesses files before) := by
    rw [accesses, List.foldl_append]
    exact congrArg Prod.snd loaded
  have split : s.accesses files (before ++ .load true clock :: after) =
      s.accesses (s.accesses files (before ++ [.load true clock])) after := by
    rw [List.append_cons, accesses, List.foldl_append]
    rfl
  rw [split]
  refine accesses_spared corruptName_ne ?_ spares
  rw [moved]
  exact (update_self ..).trans found

def rejecting : Singleton Unit where
  toStringPretty _ := .ok []
  fromStr _ := .error "expected value"
  path := "settings.json".toList
  default := ()

theorem corrupt_bytes_kept_twice : (rejecting.loadSingletonOrRecover true (some 5) (rejecting.accesses (fun _ => none)
      [.replace [110]])).1 = () ∧ ∃ name, rejecting.accesses (fun _ => none) ([.replace [110]] ++ .load true (some 5) ::
        [.load true (some 5), .save (), .replace [111], .load true (some 6)]) name = some [110] :=
  corrupt_bytes_kept (by simp [accesses, apply]) rfl (by decide)
    ⟨.inl (by decide +kernel), trivial, trivial, .inr (by decide +kernel), trivial⟩

/-- Lost are the bytes of two loads in one second, and bytes that are not text when the default is saved. -/
theorem corrupt_bytes_overwritten : (¬∃ name, rejecting.accesses (fun _ => none)
        [.replace [110], .load true (some 5), .replace [111], .load true (some 5)] name = some [110]) ∧
      ¬∃ name, rejecting.accesses (fun _ => none) [.replace [255], .load true (some 5), .save ()] name = some [255] := by
  have first : (String.fromUTF8? ⟨#[110]⟩).isSome = true := by decide
  have second : (String.fromUTF8? ⟨#[111]⟩).isSome = true := by decide
  have third : (String.fromUTF8? ⟨#[255]⟩).isSome = false := by decide
  constructor
  · rintro ⟨name, kept⟩
    simp [accesses, apply, loadSingletonOrRecover, rejecting, first, second, rename, update_apply] at kept
    split_ifs at kept
    simp at kept
  · simp [accesses, apply, loadSingletonOrRecover, rejecting, third, update_apply]

end Singleton

end NastyEngine.Common
