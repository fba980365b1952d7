import NastyEngine.Lib.Interleave
import NastyEngine.Pools.Parts

/-!
Operations take turns, and each that changes its entry loads the file, empties it and writes all entries
again.
-/

namespace NastyEngine.Pools
open Lib Fallible
open Storage (FilesystemError CreateFilesystemRequest)

/-- What a step of an operation on `name` does to the file. The phase is what it is about to write. -/
def Move (name : String) : Option FsState → Faulty Host → Option FsState → Faulty Host → Prop
  | none, w, none, w' => w'.state.registry = w.state.registry
  | none, w, some entries, w' => w'.state.registry = w.state.registry.truncate ∧
      ∀ other, other ≠ name → entries.lookup other = w.state.registry.load.lookup other
  | some entries, w, none, w' => w'.state.registry = w.state.registry.write entries ∨
      (∃ e rest, w.faults = some e :: rest) ∧ w'.state.registry = w.state.registry.close
  | some _, _, some _, _ => False

abbrev Framed (name : String) {ε α : Type} (p : Fallible ε (Faulty Host) α) : Prop :=
  Keeps Host.registry (Move name) none p

section
variable {name : String}

theorem framed_closed {name : String} :
    Closed (fun f : Host → Host => ∀ s, (f s).registry = s.registry) (fun p => Framed name p) :=
  keeps_closed fun _ _ eq => eq

theorem framed_outer (effect : Host → Host) (outer : Outer effect) (s : Host) : (effect s).registry = s.registry :=
  outer.registry s

theorem truncate_ne (registry : Registry) : registry.truncate ≠ registry := by
  intro eq
  have more : registry.writers + 1 = registry.writers := congrArg Registry.writers eq
  omega

theorem saveFsState_follows {seen : Registry} {entries : FsState}
    (frame : ∀ other, other ≠ name → entries.lookup other = seen.load.lookup other) :
    Follows (fun w : Faulty Host => w.state.registry) (Move name) none none seen (ExceptT.run (saveFsState entries)) := by
  have written : ∀ seen, Follows (fun w : Faulty Host => w.state.registry) (Move name) none (some entries) seen
      (ExceptT.run (Fallible.mapError FilesystemError.io
        (Fallible.externalOr (Host.onRegistry (Registry.write entries)) (Host.onRegistry Registry.close)))) := by
    rintro seen ⟨s, _ | ⟨_ | e, rest⟩⟩ _
    · exact ⟨none, .inl rfl, rfl⟩
    · exact ⟨none, .inl rfl, rfl⟩
    · exact ⟨none, .inr ⟨⟨e, rest, rfl⟩, rfl⟩, rfl⟩
  have opened : ∀ s faults, (s.registry = seen ∨ s.registry.truncate = s.registry) →
      Move name none ⟨s, faults⟩ (some entries) ⟨s.onRegistry Registry.truncate, faults.tail⟩ := by
    rintro s faults (rfl | eq)
    · exact ⟨rfl, frame⟩
    · exact absurd eq (truncate_ne _)
  rintro ⟨s, _ | ⟨_ | e, rest⟩⟩ fresh
  · exact ⟨some entries, opened s [] fresh, written _⟩
  · exact ⟨some entries, opened s (none :: rest) fresh, written _⟩
  · exact ⟨none, rfl, rfl⟩

theorem forgetFs_framed (name : String) : Framed name (forgetFs name) := by
  refine keeps_observe_then (fun _ => rfl) fun s => ?_
  split
  · refine follows_then (follows_succeeds (saveFsState_follows fun _ ne => AList.lookup_erase_ne ne)) fun _ => ?_
    exact (framed_closed).pure ()
  · exact (framed_closed).pure () _

theorem framed_admits (name : String) : Admits name (fun f => ∀ s, (f s).registry = s.registry) (fun p => Framed name p) where
  toClosed := framed_closed
  light := fun _ light => light.registry
  unmount := fun _ _ => rfl
  mount := fun _ _ _ => rfl
  wipe := fun _ _ => rfl
  insert := fun _ => keeps_observe_then (fun _ => rfl) fun _ => follows_then
    (follows_succeeds (saveFsState_follows fun _ ne => AList.lookup_insert_ne ne)) fun _ =>
      (framed_closed).pure ()
  forget := forgetFs_framed name

theorem create_framed {humanBytes : String → Option Nat} {looks : Nat} (req : CreateFilesystemRequest) (made : Made) :
    Framed req.name (create humanBytes looks req made) := by
  have admits := framed_admits req.name
  have closed := admits.toClosed
  refine closed.bind (prepareDevices_parts closed admits.light fun _ => rfl) fun _ => ?_
  refine closed.bind (storeNewKey_closed closed framed_outer req) fun _ => ?_
  refine closed.bind (getFsUuid_closed closed) fun _ => closed.checked fun uuid => ?_
  refine closed.bind (verifyDevicePathsUuid_closed closed) fun _ => ?_
  refine closed.bind (unlockCreated_closed closed admits.light req _) fun _ => ?_
  refine closed.bind (mountCreated_parts admits) fun _ => closed.bind (admits.insert _) fun _ => ?_
  refine closed.bind (invalidateListCache_closed closed admits.light) fun _ => ?_
  exact closed.bind (bindCreated_closed closed framed_outer) fun _ => closed.pure _

/-- All requests but `forget_unavailable`, which looks at the machine between its load and its save. -/
theorem serve_framed {humanBytes : String → Option Nat} {looks : Nat} {request : Request}
    (known : ∀ name expected confirmName, request ≠ .forgetUnavailable name expected confirmName) :
    Framed request.name (serve humanBytes looks request) := by
  have admits := framed_admits request.name
  have closed := admits.toClosed
  cases request with
  | create req made => exact closed.map (create_framed req made)
  | destroy name confirmName => exact closed.bind (destroy_parts admits.toCommands admits.forget) fun _ => closed.pure _
  | forgetUnavailable name expected confirmName => exact absurd rfl (known name expected confirmName)
  | mount name forceDegraded => exact closed.map (mountMaybeDegraded_parts admits)
  | unmount name => exact closed.bind (unmount_parts admits) fun _ => closed.pure _
  | unlock name passphrase => exact closed.map (unlock_closed closed admits.light)
  | lock name => exact closed.map (lock_parts admits)
  | updateOptions req => exact closed.map (updateOptions_parts admits)
  | deleteKey name => exact closed.bind (deleteKey_closed closed framed_outer name) fun _ => closed.pure _
  | tpmBind name => exact closed.bind (tpmBind_closed closed framed_outer) fun _ => closed.pure _
  | tpmUnbind name => exact closed.bind (tpmUnbind_closed closed framed_outer) fun _ => closed.pure _

end

section
variable {κ : Type} [DecidableEq κ]

abbrev Served (κ : Type) := Tasks κ (Faulty Host) Registry

abbrev file (w : Faulty Host) : Registry := w.state.registry

def accepted (humanBytes : String → Option Nat) (looks : Nat) (requests : κ → Request) (w : Faulty Host) : Served κ where
  state := w
  tasks := fun i => ⟨ExceptT.run (serve humanBytes looks (requests i)) >>= fun _ => pure (), file w⟩

def Touches (s : Served κ) (i : κ) : Prop := file (s.turn file i).state ≠ file s.state

/-- Who touches the file has seen it as it is, opens it only where it can be read, and is not stopped in a write. -/
def Orderly (s : Served κ) (i : κ) : Prop :=
  Touches s i → file s.state = (s.tasks i).seen ∧
    ((file s.state).writers < (file (s.turn file i).state).writers → (file s.state).content.readable = true) ∧
    ((file (s.turn file i).state).writers < (file s.state).writers → s.state.faults.head?.join = none)

instance (s : Served κ) (i : κ) : Decidable (Touches s i) := inferInstanceAs (Decidable (_ ≠ _))

instance (s : Served κ) (i : κ) : Decidable (Orderly s i) := inferInstanceAs (Decidable (_ → _ ∧ _ ∧ _))

def At (requests : κ → Request) (s : Served κ) (i : κ) (phase : Option FsState) : Prop :=
  Follows file (Move (requests i).name) none phase (s.tasks i).seen (s.tasks i).rest

structure Resting (requests : κ → Request) (base : FsState) (s : Served κ) : Prop where
  closed : (file s.state).writers = 0
  held : (file s.state).held = base
  outside : ∀ i, At requests s i none

structure Writing (requests : κ → Request) (base : FsState) (s : Served κ) (i : κ) (entries : FsState) : Prop where
  opened : file s.state = ⟨.broken ∅, 1⟩
  frame : ∀ other, other ≠ (requests i).name → entries.lookup other = base.lookup other
  writer : At requests s i (some entries)
  outside : ∀ j, j ≠ i → At requests s j none

def Sound (requests : κ → Request) (base : FsState) (s : Served κ) : Prop :=
  Resting requests base s ∨ ∃ i entries, Writing requests base s i entries

variable {requests : κ → Request} {base entries : FsState} {s : Served κ} {i : κ}

theorem Orderly.fresh (orderly : Orderly s i) : s.Fresh file i := fun touches => (orderly touches).1

theorem Orderly.readable (orderly : Orderly s i) (opened : file (s.turn file i).state = (file s.state).truncate) :
    (file s.state).content.readable = true := by
  refine (orderly ?_).2.1 ?_
  · rw [Touches, opened]
    exact truncate_ne _
  · rw [opened]
    exact Nat.lt_succ_self _

theorem held_of_readable {registry : Registry} (readable : registry.content.readable = true) :
    registry.held = registry.load := by
  unfold Registry.held Registry.load
  cases eq : registry.content with
  | missing => rfl
  | state entries => rfl
  | broken held =>
    rw [eq] at readable
    cases readable

variable {t : Served κ} {task : Task (Faulty Host) Registry}

section
variable (taken : t.tasks = Function.update s.tasks i task)
include taken

variable {phase : Option FsState}

theorem at_other {j : κ} (ne : j ≠ i) (there : At requests s j phase) : At requests t j phase := by
  rw [At, taken, Function.update_of_ne ne]
  exact there

theorem at_own (follows : Follows file (Move (requests i).name) none phase task.seen task.rest) :
    At requests t i phase := by
  rw [At, taken, Function.update_self]
  exact follows

theorem at_all (follows : Follows file (Move (requests i).name) none none task.seen task.rest)
    (outside : ∀ j, j ≠ i → At requests s j none) (j : κ) : At requests t j none := by
  by_cases same : j = i
  · rw [same]
    exact at_own taken follows
  · exact at_other taken same (outside j same)

end

/-- The entry may have changed only if it is the own one of a task that touches the file. -/
def Spares (requests : κ → Request) (s : Served κ) (i : κ) (base base' : FsState) : Prop :=
  ∀ other, (Touches s i → other ≠ (requests i).name) → base'.lookup other = base.lookup other

theorem Resting.turn (resting : Resting requests base s) (orderly : Orderly s i) :
    Sound requests base (s.turn file i) := by
  rcases turn_follows (resting.outside i) orderly.fresh with eq | ⟨phase, task, taken, _, move, follows⟩
  · rw [eq]
    exact .inl resting
  cases phase with
  | none =>
    have eq : file (s.turn file i).state = file s.state := move
    exact .inl ⟨eq ▸ resting.closed, eq ▸ resting.held, at_all taken follows fun j _ => resting.outside j⟩
  | some entries =>
    obtain ⟨opened, frame⟩ := move
    change file (s.turn file i).state = (file s.state).truncate at opened
    refine .inr ⟨i, entries, ?_, fun other ne => ?_, at_own taken follows, fun j ne =>
      at_other taken ne (resting.outside j)⟩
    · rw [opened, Registry.truncate, resting.closed]
    · rw [frame other ne, ← resting.held, held_of_readable (orderly.readable opened)]

theorem Writing.turn_own (writing : Writing requests base s i entries) (orderly : Orderly s i) :
    ∃ base', Sound requests base' (s.turn file i) ∧ Spares requests s i base base' := by
  rcases turn_follows writing.writer orderly.fresh with eq | ⟨phase, task, taken, _, move, follows⟩
  · rw [eq]
    exact ⟨base, .inr ⟨i, entries, writing⟩, fun _ _ => rfl⟩
  cases phase with
  | some _ => exact absurd move id
  | none =>
    have one : (file s.state).writers = 1 := by rw [writing.opened]
    have touches : (file (s.turn file i).state).writers = 0 → Touches s i := by
      intro zero eq
      rw [eq, one] at zero
      cases zero
    rcases move with written | ⟨⟨e, rest, fault⟩, cut⟩
    · change file (s.turn file i).state = (file s.state).write entries at written
      have closed : (file (s.turn file i).state).writers = 0 := by
        rw [written, Registry.write, one]
      refine ⟨entries, .inl ⟨closed, by rw [written]; rfl, at_all taken follows writing.outside⟩, fun other apart => ?_⟩
      exact writing.frame other (apart (touches closed))
    · change file (s.turn file i).state = (file s.state).close at cut
      have closed : (file (s.turn file i).state).writers = 0 := by
        rw [cut, Registry.close, one]
      have unhindered := (orderly (touches closed)).2.2 (by rw [closed, one]; exact Nat.zero_lt_one)
      rw [fault] at unhindered
      cases unhindered

theorem Writing.turn_other {j : κ} (writing : Writing requests base s j entries) (apart : i ≠ j)
    (orderly : Orderly s i) : Sound requests base (s.turn file i) := by
  rcases turn_follows (writing.outside i apart) orderly.fresh with eq | ⟨phase, task, taken, _, move, follows⟩
  · rw [eq]
    exact .inr ⟨j, entries, writing⟩
  cases phase with
  | none =>
    have eq : file (s.turn file i).state = file s.state := move
    refine .inr ⟨j, entries, eq ▸ writing.opened, writing.frame, at_other taken apart.symm writing.writer, fun k ne => ?_⟩
    by_cases own : k = i
    · rw [own]
      exact at_own taken follows
    · exact at_other taken own (writing.outside k ne)
  | some _ =>
    have readable := orderly.readable move.1
    rw [writing.opened] at readable
    cases readable

theorem turn_sound (sound : Sound requests base s) (orderly : Orderly s i) :
    ∃ base', Sound requests base' (s.turn file i) ∧ Spares requests s i base base' := by
  rcases sound with resting | ⟨j, entries, writing⟩
  · exact ⟨base, resting.turn orderly, fun _ _ => rfl⟩
  · by_cases same : i = j
    · subst same
      exact writing.turn_own orderly
    · exact ⟨base, writing.turn_other same orderly, fun _ _ => rfl⟩

omit [DecidableEq κ] in
theorem Sound.held_eq (sound : Sound requests base s) (closed : (file s.state).writers = 0) :
    (file s.state).held = base := by
  rcases sound with resting | ⟨j, entries, writing⟩
  · exact resting.held
  · rw [writing.opened] at closed
    cases closed

def ForOthers (requests : κ → Request) (name : String) (s : Served κ) (i : κ) : Prop :=
  Orderly s i ∧ (Touches s i → (requests i).name ≠ name)

instance (name : String) (s : Served κ) (i : κ) : Decidable (ForOthers requests name s i) :=
  inferInstanceAs (Decidable (_ ∧ (_ → _)))

/-- Whatever operations take turns: between two moments when nobody has the file open, the entry of a pool is kept
unless an operation on this pool touched the file. -/
theorem entry_kept_by_others (humanBytes : String → Option Nat) (looks : Nat) (requests : κ → Request)
    (known : ∀ i name expected confirmName, requests i ≠ .forgetUnavailable name expected confirmName)
    (w : Faulty Host) (start : (file w).writers = 0) (name : String) {before after : List κ} {mid last : Served κ}
    (reached : Run (Turn file Orderly) (accepted humanBytes looks requests w) before mid)
    (further : Run (Turn file (ForOthers requests name)) mid after last)
    (rested : (file mid.state).writers = 0) (rests : (file last.state).writers = 0) :
    (file last.state).held.lookup name = (file mid.state).held.lookup name := by
  have first : Sound requests (file w).held (accepted humanBytes looks requests w) :=
    .inl ⟨start, rfl, fun i => follows_bind (serve_framed (known i) _) fun _ _ => rfl⟩
  have soundMid : ∃ base, Sound requests base mid := by
    refine reached.invariant (I := fun s => ∃ base, Sound requests base s) ⟨_, first⟩ ?_
    rintro s i _ ⟨base, sound⟩ ⟨rfl, orderly⟩
    obtain ⟨base', sound', _⟩ := turn_sound sound orderly
    exact ⟨base', sound'⟩
  obtain ⟨base, sound⟩ := soundMid
  have soundLast : ∃ base', Sound requests base' last ∧ base'.lookup name = base.lookup name := by
    refine further.invariant (I := fun s => ∃ base', Sound requests base' s ∧ base'.lookup name = base.lookup name)
      ⟨base, sound, rfl⟩ ?_
    rintro s i _ ⟨base', sound', same⟩ ⟨rfl, orderly, others⟩
    obtain ⟨base'', sound'', own⟩ := turn_sound sound' orderly
    exact ⟨base'', sound'', (own name fun touches => (others touches).symm).trans same⟩
  obtain ⟨base', sound', same⟩ := soundLast
  rw [sound'.held_eq rests, sound.held_eq rested, same]

end

def twoPools : Host where
  machine := (((Machine.blank.format ["/dev/sda"] ⟨"7e1a", none⟩).format ["/dev/sdb"] ⟨"c04d", none⟩).mount
    { target := "/fs/a", source := ["/dev/sda"], pool := some "7e1a" }).mount
    { target := "/fs/b", source := ["/dev/sdb"], pool := some "c04d" }
  registry := ⟨.state (Keyed.ofPairs [("a", { uuid := some "7e1a", devices := ["/dev/sda"], mounted := some true }),
    ("b", { uuid := some "c04d", devices := ["/dev/sdb"], mounted := some true })]), 0⟩

def bothUnmounted : Bool → Request
  | false => .unmount "a"
  | true => .unmount "b"

def unmounting : Served Bool := accepted (fun _ => none) 0 bothUnmounted ⟨twoPools, []⟩

theorem entry_kept_in_turn : (file ((unmounting.turns file (List.replicate 27 false)).turns file
      (List.replicate 27 true)).state).held.lookup "a" =
    (file (unmounting.turns file (List.replicate 27 false)).state).held.lookup "a" :=
  entry_kept_by_others (fun _ => none) 0 bothUnmounted (by intro i; cases i <;> simp [bothUnmounted]) ⟨twoPools, []⟩ rfl "a"
    (run_of_schedule (by decide +kernel)) (run_of_schedule (by decide +kernel)) (by decide +kernel) (by decide +kernel)

/-- `unmount b` has loaded the file when `unmount a` runs from its start to its end; then it goes on. -/
theorem unmount_reverts_other : let mid := unmounting.turns file (List.replicate 24 true ++ List.replicate 27 false)
    let last := mid.turns file (List.replicate 3 true)
    (file mid.state).writers = 0 ∧ (file last.state).writers = 0 ∧
      ((file mid.state).held.lookup "a").map (·.mounted) = some (some false) ∧
      ((file last.state).held.lookup "a").map (·.mounted) = some (some true) := by
  decide +kernel

end NastyEngine.Pools
