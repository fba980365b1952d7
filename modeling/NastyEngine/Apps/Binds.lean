import Mathlib.Data.List.DropRight
import Mathlib.Data.List.Infix
import NastyEngine.Lib.Links
import NastyEngine.Lib.Result
import NastyEngine.Rust.Path

/-!
Which host paths an app may mount, and which may be given to another user. The first check resolves the path as far as
it is there, the second reads only its text. Both are compared with where the path leads.
-/

namespace NastyEngine.Apps
open Lib Rust
open Links (Names up canonicalize resolve Dangling Linkless)

abbrev Parts := List (List Char)

def hostRoot : Parts := [['/']]

/-- The directories with their links; `mounted` says whether a filesystem is mounted on that name below `/fs`. -/
structure Files where
  tree : Links.Tree
  mounted : List Char → Bool

structure AppVolume where
  name : String
  mountPath : String
  hostPath : String

section
variable (t : Links.Tree)

/-- The part of the path that is there, given from its end, is resolved; what is missing is left as it is. -/
def project : Names → Names → Names
  | [], missing => (canonicalize t []).getD [] ++ missing
  | name :: parent, missing =>
    -- a path that ends in `..` has no file name and is not cut any further
    if (canonicalize t (name :: parent).reverse).isSome ∨ name = up then
      (canonicalize t (name :: parent).reverse).getD (name :: parent).reverse ++ missing
    else project parent (name :: missing)

def projectedCanonicalPath (path : String) : Parts :=
  if startsWith path "/" then ['/'] :: project t (components path).tail.reverse [] else components path

def pathWithin (path : Parts) (root : String) : Bool :=
  let root := projectedCanonicalPath t root
  root ≠ hostRoot ∧ root <+: path

def appDataDir (storageBase appName : String) : String :=
  String.ofList (storageBase.toList.rdropWhile (· = '/')) ++ "/" ++ appName

def validateVolume (appDir src : String) (allowUnsafe : Bool) : Except String Unit := do
  let resolved := projectedCanonicalPath t src
  require (¬['.', '.'] <:+: src.toList) ("'" ++ src ++ "' escapes via '..'")
  require (resolved ≠ hostRoot) "host root '/' is never allowed as a bind mount"
  require (pathWithin t resolved "/var/lib/nasty" = true → pathWithin t resolved appDir = true)
    ("'" ++ src ++ "' targets engine state — not allowed even with allow_unsafe")
  require (allowUnsafe = true ∨ pathWithin t resolved appDir = true ∨ pathWithin t resolved "/appdata" = true ∨
      pathWithin t resolved "/fs" = true)
    ("'" ++ src ++ "' is outside '" ++ appDir ++ "/', '/appdata/' and '/fs/'. Set allow_unsafe to override.")

def validateSimpleVolumes (appName storageBase : String) (volumes : List AppVolume) (allowUnsafe : Bool) :
    Except String Unit :=
  volumes.forM fun v =>
    if v.hostPath = "" then .ok () else validateVolume t (appDataDir storageBase appName) v.hostPath allowUnsafe

def fsRootSegment (path : String) : Option (List Char) :=
  ((stripStart "/fs/" path).map fun rest => rest.toList.takeWhile (· ≠ '/')).filter (· ≠ [])

end

def validateChownTarget (h : Files) (path : String) : Except String Unit := do
  require (¬['.', '.'] <:+: path.toList) ("'" ++ path ++ "' contains '..'")
  require (path ≠ "/") "host root '/' is never allowed"
  require (path ≠ "/var/lib/nasty" ∧ startsWith path "/var/lib/nasty/" = false) ("'" ++ path ++ "' targets engine state")
  require (startsWith path "/" = true) ("'" ++ path ++ "' is not absolute")
  let name := String.ofList ((fsRootSegment path).getD [])
  require ((fsRootSegment path).all h.mounted = true)
    ("filesystem '" ++ name ++ "' is not mounted at /fs/" ++ name ++ " — fix the bind source path")

/-! Where a path leads, and what it has to keep away from. -/

section
variable (t : Links.Tree)

/-- What is not absolute names a volume and no path. -/
def leadsTo (path : String) : Option Parts :=
  if startsWith path "/" then (resolve t (components path).tail).map (['/'] :: ·) else some (components path)

def Within (path : Parts) (root : String) : Prop := ∃ base, leadsTo t root = some base ∧ base ≠ hostRoot ∧ base <+: path

variable (appDir : String) (path : Parts)

/-- The path is not the root and, if it is not of the app, neither in nor above the state of the engine. -/
def Confined : Prop :=
  path ≠ hostRoot ∧ (Within t path appDir ∨
    ∀ state, leadsTo t "/var/lib/nasty" = some state → ¬state <+: path ∧ ¬path <+: state)

/-- It is above the state of the engine, or a link makes that the root: neither is looked for. -/
def Unchecked : Prop :=
  ¬Within t path appDir ∧ ∃ state, leadsTo t "/var/lib/nasty" = some state ∧
    (path <+: state ∨ state = hostRoot ∧ hostRoot <+: path)

end

instance (t : Links.Tree) (path : Parts) (root : String) : Decidable (Within t path root) :=
  decidable_of_iff ((leadsTo t root).any fun base => base ≠ hostRoot ∧ base <+: path)
    (by cases eq : leadsTo t root <;> simp [Within, eq])

instance (t : Links.Tree) (appDir : String) (path : Parts) : Decidable (Confined t appDir path) :=
  decidable_of_iff (path ≠ hostRoot ∧ (Within t path appDir ∨
    (leadsTo t "/var/lib/nasty").all fun state => ¬state <+: path ∧ ¬path <+: state))
    (by cases eq : leadsTo t "/var/lib/nasty" <;> simp [Confined, eq])

/-- No part goes back, and no part is a link to something that is not there. -/
def Sound (t : Links.Tree) (path : String) : Prop := up ∉ components path ∧ ¬Dangling t (components path).tail

/-- The text of the path is that of its parts: no doubled slash, no `.` and no slash at the end. No part is a link, and
the state of the engine is not below it. -/
structure Straight (t : Links.Tree) (path : String) : Prop where
  spelled : path.toList = (components path).tail.flatMap ('/' :: ·)
  linkless : Linkless t (components path).tail
  apart : ¬components path <+: components "/var/lib/nasty"

variable {t : Links.Tree} {appDir src : String} {allowUnsafe : Bool}

theorem infix_of_mem_splitOn {part text : List Char} {sep : Char} (there : part ∈ text.splitOn sep) : part <:+: text := by
  suffices ∀ parts : List (List Char), part ∈ parts → part <:+: [sep].intercalate parts by
    simpa [List.intercalate_splitOn] using this _ there
  intro parts listed
  induction parts with
  | nil => cases listed
  | cons first rest ih =>
    cases rest with
    | nil =>
      obtain rfl := List.mem_singleton.mp listed
      simp
    | cons second rest =>
      rw [List.intercalate_cons_cons]
      rcases List.mem_cons.mp listed with rfl | later
      · rw [List.append_assoc]
        exact (List.prefix_append _ _).isInfix
      · exact (ih later).trans (List.suffix_append _ _).isInfix

theorem up_not_mem_components {path : String} (plain : ¬['.', '.'] <:+: path.toList) : up ∉ components path := by
  intro there
  refine plain (@infix_of_mem_splitOn _ _ '/' ?_)
  grind [components, up]

theorem project_eq {rev missing : Names} (plain : up ∉ rev.reverse ++ missing)
    (sound : ¬Dangling t (rev.reverse ++ missing))
    (gone : ∀ name ∈ missing.head?, canonicalize t (rev.reverse ++ [name]) = none) :
    resolve t (rev.reverse ++ missing) = some (project t rev missing) := by
  induction rev generalizing missing with
  | nil => exact Links.resolve_cut rfl gone (by simpa using plain) sound
  | cons name parent ih =>
    unfold project
    split
    next stop =>
      have ahead : name ≠ up := fun eq => plain (by simp [eq])
      obtain ⟨p, there⟩ := Option.isSome_iff_exists.mp (stop.resolve_right ahead)
      rw [Links.resolve_cut there gone (fun back => plain (List.mem_append_right _ back)) sound, there]
      rfl
    next cut =>
      rw [not_or, Option.not_isSome_iff_eq_none] at cut
      have shape : (name :: parent).reverse ++ missing = parent.reverse ++ name :: missing := by simp
      rw [shape] at plain sound ⊢
      exact ih plain sound (by simpa using cut.1)

theorem leadsTo_eq {path : String} (sound : Sound t path) : leadsTo t path = some (projectedCanonicalPath t path) := by
  unfold leadsTo projectedCanonicalPath
  split
  · have plain : up ∉ (components path).tail := fun back => sound.1 (List.mem_of_mem_tail back)
    have whole := @project_eq t (components path).tail.reverse [] (by simpa using plain) (by simpa using sound.2) (by simp)
    rw [List.reverse_reverse, List.append_nil] at whole
    rw [whole]
    rfl
  · rfl

theorem pathWithin_iff {path : Parts} {root : String} (sound : Sound t root) :
    pathWithin t path root = true ↔ Within t path root := by
  simp [pathWithin, Within, leadsTo_eq sound]

theorem validateVolume_ok : validateVolume t appDir src allowUnsafe = .ok () ↔
    let path := projectedCanonicalPath t src
    ¬['.', '.'] <:+: src.toList ∧ path ≠ hostRoot ∧
      (pathWithin t path "/var/lib/nasty" = true → pathWithin t path appDir = true) ∧
      (allowUnsafe = true ∨ pathWithin t path appDir = true ∨ pathWithin t path "/appdata" = true ∨
        pathWithin t path "/fs" = true) := by
  constructor
  · intro ok
    obtain ⟨_, plain, ok⟩ := bind_ok ok
    obtain ⟨_, below, ok⟩ := bind_ok ok
    obtain ⟨_, apart, ok⟩ := bind_ok ok
    exact ⟨require_ok plain, require_ok below, require_ok apart, require_ok ok⟩
  · rintro ⟨plain, below, apart, inv⟩
    simp only [validateVolume, require, if_pos plain, if_pos below, if_pos apart, if_pos inv]
    rfl

theorem confined_iff {path : Parts} (state : Sound t "/var/lib/nasty") : Confined t appDir path ↔ path ≠ hostRoot ∧
    (Within t path "/var/lib/nasty" → Within t path appDir) ∧ ¬Unchecked t appDir path := by
  unfold Confined Unchecked
  have within : Within t path "/var/lib/nasty" ↔ projectedCanonicalPath t "/var/lib/nasty" ≠ hostRoot ∧
      projectedCanonicalPath t "/var/lib/nasty" <+: path := by
    simp [Within, leadsTo_eq state]
  rw [within, leadsTo_eq state]
  simp only [Option.some.injEq, forall_eq', exists_eq_left']
  grind

theorem components_absolute {path : String} (absolute : startsWith path "/" = true) :
    components path = ['/'] :: (components path).tail := by
  obtain ⟨rest, text⟩ := List.isPrefixOf_iff_prefix.mp absolute
  have shape : path.toList = [] ++ '/' :: rest := text.symm
  have full : path ≠ "" := by
    rintro rfl
    cases shape
  unfold components
  rw [shape, List.splitOn, List.splitOnP_append_cons_of_forall_mem (by simp) '/' (by decide)]
  simp [full]

/-- Of a path that is spelled straight, the text says whether it is the state of the engine or below it. -/
theorem Straight.apart_state {path : String} (straight : Straight t path) (other : path ≠ "/var/lib/nasty")
    (outside : startsWith path "/var/lib/nasty/" = false) :
    ¬(components "/var/lib/nasty").tail <+: (components path).tail := by
  rintro ⟨more, parts⟩
  have text := straight.spelled
  rw [← parts, List.flatMap_append] at text
  cases more with
  | nil =>
    refine other (String.toList_inj.mp (text.trans ?_))
    decide
  | cons name more =>
    refine Bool.false_ne_true (outside.symm.trans (List.isPrefixOf_iff_prefix.mpr ⟨name ++ more.flatMap ('/' :: ·), ?_⟩))
    rw [text]
    rfl

theorem straight_confined {path : String} {h : Files} (accepted : validateChownTarget h path = .ok ())
    (straight : Straight h.tree path) (state : Linkless h.tree (components "/var/lib/nasty").tail) :
    leadsTo h.tree path = some (components path) ∧ Confined h.tree appDir (components path) := by
  obtain ⟨_, plain, accepted⟩ := bind_ok accepted
  obtain ⟨_, -, accepted⟩ := bind_ok accepted
  obtain ⟨_, outside, accepted⟩ := bind_ok accepted
  obtain ⟨_, absolute, -⟩ := bind_ok accepted
  have rooted := components_absolute (require_ok absolute)
  have ahead : up ∉ (components path).tail := fun back => up_not_mem_components (require_ok plain) (List.mem_of_mem_tail back)
  have below : (components path).tail ≠ [] := by
    intro empty
    have text := straight.spelled
    rw [empty] at text
    have begins := require_ok absolute
    rw [startsWith, text] at begins
    cases begins
  have inState : leadsTo h.tree "/var/lib/nasty" = some (components "/var/lib/nasty") := by
    rw [leadsTo, if_pos (by decide), Links.resolve_linkless (by decide) state]
    decide
  refine ⟨?_, fun root => below (congrArg List.tail root), .inr fun base eq => ?_⟩
  · rw [leadsTo, if_pos (require_ok absolute), Links.resolve_linkless ahead straight.linkless, Option.map_some, ← rooted]
  · obtain rfl := Option.some.inj (inState.symm.trans eq)
    refine ⟨fun inside => ?_, straight.apart⟩
    obtain ⟨other, foreign⟩ := require_ok outside
    refine straight.apart_state other foreign ?_
    rw [rooted] at inside
    exact (List.cons_prefix_cons.mp inside).2

/-- There are `/var/lib/nasty` and `/fs/tank`, in the latter links of the given names to the given paths. -/
def linkedFiles (links : List (String × String)) : Files where
  tree path :=
    if path.map String.ofList ∈ [["var"], ["var", "lib"], ["var", "lib", "nasty"], ["fs"], ["fs", "tank"]] then some .entry
    else (links.find? fun link => path = (components "/fs/tank").tail ++ [link.1.toList]).map fun link =>
      .link true (components link.2).tail
  mounted _ := true

theorem linkedFiles_sound {names : Names} : ¬Dangling (linkedFiles []).tree names := by
  rintro ⟨front, name, rest, p, absolute, target, -, -, -, found⟩
  simp [linkedFiles] at found

def Escapes (h : Files) (path : String) : Prop :=
  ∃ leads, leadsTo h.tree path = some leads ∧ ¬Confined h.tree "/fs/tank/apps/web" leads

end NastyEngine.Apps
