import NastyEngine.Lib.Run

/-!
`StateDir::save` writes a temporary file, piece by piece, and renames it over the file of the item. The
temporary file has its name from the id, so two saves of one item write to the same file, and what one of them
renames is what the other has open.
-/

namespace NastyEngine.Common
open Lib Function List

structure Codec (α : Type) where
  toStringPretty : α → Except String (List UInt8)
  fromStr : List UInt8 → Except String α

def Codec.RoundTrips {α : Type} (codec : Codec α) : Prop :=
  ∀ item json, codec.toStringPretty item = .ok json → codec.fromStr json = .ok item

def pathOf (id : String) (tmp : Bool) : List Char :=
  if tmp then '.' :: id.toList ++ ".tmp".toList else id.toList ++ ".json".toList

def extension (name : List Char) : Option (List Char) :=
  let ending := name.reverse.takeWhile (· ≠ '.')
  if ending.length + 1 < name.length then some ending.reverse else none

theorem extension_tmp (id : String) : extension (pathOf id true) ≠ some "json".toList := by
  simp [extension, pathOf]

/-- A save that has the temporary file open and has written up to `offset`. -/
structure Writer (α : Type) where
  item : α
  json : List UInt8
  node : Nat
  offset : Nat := 0

/-- The two files of an id, which no other id has, by their inodes, and the saves in flight by their numbers. -/
structure Slot (α : Type) where
  item : Option Nat := none
  tmp : Option Nat := none
  data : Nat → List UInt8 := fun _ => []
  next : Nat := 0
  writers : Nat → Option (Writer α) := fun _ => none

namespace Slot
variable {α : Type}

section
variable (s : Slot α) (call : Nat)

/-- `File::create`: a file that is there is emptied, and stays open for whoever has it open. -/
def opened (item : α) (json : List UInt8) : Slot α :=
  let node := s.tmp.getD s.next
  { s with
    tmp := some node, data := update s.data node [], next := max s.next (node + 1)
    writers := update s.writers call (some { item, json, node }) }

def written (w : Writer α) (count : Nat) : Slot α :=
  let piece := (w.json.drop w.offset).take count
  let old := s.data w.node
  { s with
    data := update s.data w.node (old.take w.offset ++ piece ++ old.drop (w.offset + piece.length))
    writers := update s.writers call (some { w with offset := w.offset + piece.length }) }

def stopped : Slot α := { s with writers := update s.writers call none }

end

def read (s : Slot α) (tmp : Bool) : Option (List UInt8) := (if tmp then s.tmp else s.item).map s.data

end Slot

/-- `listed` is all that calls of `load_all` have read. -/
structure StateDir (α : Type) where
  slots : String → Slot α := fun _ => {}
  listed : List α := []

namespace StateDir
variable {α : Type} (codec : Codec α)

section
variable (s : StateDir α) (id : String)

def set (slot : Slot α) : StateDir α := { s with slots := update s.slots id slot }

def parsed (tmp : Bool) : Option α := ((s.slots id).read tmp).bind fun json => (codec.fromStr json).toOption

def load : Option α := s.parsed codec id false

def loadEntry (tmp : Bool) : Option α :=
  if extension (pathOf id tmp) = some "json".toList then s.parsed codec id tmp else none

end

inductive Event (α : Type) where
  | save (id : String) (call : Nat) (item : α)
  | write (id : String) (call : Nat)
  | rename (id : String) (call : Nat) (item : α)
  | stop (id : String) (call : Nat)
  | remove (id : String)
  | entry (id : String) (tmp : Bool)
  /-- The process stops; the files are as they were written. -/
  | crash

/-- A save has returned with success when it has renamed its file. One that stops has failed, or was
cancelled and has written what it writes. -/
inductive Step : StateDir α → Event α → StateDir α → Prop
  | save {s : StateDir α} {id : String} {call : Nat} {item : α} {json : List UInt8}
      (free : (s.slots id).writers call = none) (serialized : codec.toStringPretty item = .ok json) :
      Step s (.save id call item) (s.set id ((s.slots id).opened call item json))
  | write {s : StateDir α} {id : String} {call : Nat} {w : Writer α} (writes : (s.slots id).writers call = some w)
      (count : Nat) : Step s (.write id call) (s.set id ((s.slots id).written call w count))
  | rename {s : StateDir α} {id : String} {call node : Nat} {w : Writer α}
      (writes : (s.slots id).writers call = some w) (complete : w.offset = w.json.length)
      (found : (s.slots id).tmp = some node) :
      Step s (.rename id call w.item) (s.set id { (s.slots id).stopped call with item := some node, tmp := none })
  | stop (s : StateDir α) (id : String) (call : Nat) : Step s (.stop id call) (s.set id ((s.slots id).stopped call))
  | remove (s : StateDir α) (id : String) : Step s (.remove id) (s.set id { s.slots id with item := none })
  | entry (s : StateDir α) (id : String) (tmp : Bool) :
      Step s (.entry id tmp) { s with listed := (s.loadEntry codec id tmp).toList ++ s.listed }
  | crash (s : StateDir α) : Step s .crash { s with slots := fun id => { s.slots id with writers := fun _ => none } }

/-- With a slash in it an id may lead to the file of another one, as `./a` does. -/
def Named (id : String) : Prop := '/' ∉ id.toList

/-- The id is the name of a file, and no other save of the item is in flight when one begins. -/
def Alone (s : StateDir α) : Event α → Prop
  | .save id _ _ => Named id ∧ ∀ call, (s.slots id).writers call = none
  | .remove id => Named id
  | _ => True

def Given (labels : List (Event α)) (id : String) (item : α) : Prop := ∃ call, .save id call item ∈ labels

def Event.store (id : String) (stored : Option α) : Event α → Option α
  | .rename id' _ item => if id' = id then some item else stored
  | .remove id' => if id' = id then none else stored
  | _ => stored

/-- The item of the last save of the id that has returned, if it was not removed since. -/
def stored (labels : List (Event α)) (id : String) : Option α := labels.foldl (Event.store id) none

structure Writes (given : α → Prop) (s : Slot α) (call : Nat) (w : Writer α) : Prop where
  tmp : s.tmp = some w.node
  content : s.data w.node = w.json.take w.offset
  serialized : codec.toStringPretty w.item = .ok w.json
  given : given w.item
  alone : ∀ call' w', s.writers call' = some w' → call' = call

/-- The file is that of the stored item, and nobody has it open. -/
structure Sound (given : α → Prop) (stored : Option α) (s : Slot α) : Prop where
  old : ∀ node, s.item = some node ∨ s.tmp = some node → node < s.next
  apart : ∀ node, s.item = some node → s.tmp ≠ some node
  absent : s.item = none → stored = none
  whole : ∀ node, s.item = some node →
    ∃ item, stored = some item ∧ given item ∧ codec.toStringPretty item = .ok (s.data node)
  writers : ∀ call w, s.writers call = some w → Writes codec given s call w

variable {codec} {given : α → Prop} {kept : Option α} {slot : Slot α} {call : Nat} {w : Writer α}

theorem Sound.mono {given' : α → Prop} (more : ∀ item, given item → given' item)
    (sound : Sound codec given kept slot) : Sound codec given' kept slot := by
  refine { sound with whole := ?_, writers := ?_ }
  · intro node named
    obtain ⟨item, eq, given, serialized⟩ := sound.whole node named
    exact ⟨item, eq, more item given, serialized⟩
  · intro call w writes
    have holds := sound.writers call w writes
    exact { holds with given := more _ holds.given }

section
variable (sound : Sound codec given kept slot)
include sound

theorem Sound.fewer {writers : Nat → Option (Writer α)}
    (fewer : ∀ call w, writers call = some w → slot.writers call = some w) :
    Sound codec given kept { slot with writers } := by
  refine { sound with writers := ?_ }
  intro call w writes
  have holds := sound.writers call w (fewer call w writes)
  exact { holds with alone := fun call' w' writes' => holds.alone call' w' (fewer call' w' writes') }

theorem Sound.stopped (call : Nat) : Sound codec given kept (slot.stopped call) := by
  refine sound.fewer fun call' w writes => ?_
  by_cases same : call' = call
  · rw [same, update_self] at writes
    cases writes
  · rwa [update_of_ne same] at writes

theorem Sound.update {node : Nat} {new : List UInt8} (ne : slot.item ≠ some node) :
    ∀ n, slot.item = some n → ∃ item, kept = some item ∧ given item ∧
      codec.toStringPretty item = .ok (update slot.data node new n) := by
  intro n named
  obtain ⟨item, eq, given, content⟩ := sound.whole n named
  refine ⟨item, eq, given, content.trans (congrArg Except.ok (update_of_ne ?_ ..).symm)⟩
  rintro rfl
  exact ne named

theorem Sound.opened {item : α} {json : List UInt8}
    (serialized : codec.toStringPretty item = .ok json) (isGiven : given item)
    (alone : ∀ call, slot.writers call = none) : Sound codec given kept (slot.opened call item json) := by
  have ne : slot.item ≠ some (slot.tmp.getD slot.next) := by
    intro named
    cases tmp : slot.tmp with
    | none => exact Nat.ne_of_lt (sound.old _ (.inl named)) (by rw [tmp, Option.getD_none])
    | some temp => exact sound.apart _ named (by rw [tmp, Option.getD_some])
  refine ⟨?_, fun node named eq => ne (Option.some.inj eq ▸ named), sound.absent, sound.update ne, ?_⟩
  · rintro node (named | named)
    · exact Nat.lt_of_lt_of_le (sound.old node (.inl named)) (Nat.le_max_left _ _)
    · cases named
      exact Nat.le_max_right _ _
  · have only (call' : Nat) (w : Writer α) (writes : (slot.opened call item json).writers call' = some w) :
        call' = call := by
      by_contra different
      cases (alone call').symm.trans ((update_of_ne different ..).symm.trans writes)
    intro call' w writes
    cases only call' w writes
    cases (update_self ..).symm.trans writes
    exact ⟨rfl, update_self .., serialized, isGiven, only⟩

end

variable {json : List UInt8}

theorem written_content {offset count : Nat} : let piece := (json.drop offset).take count
    let old := json.take offset
    old.take offset ++ piece ++ old.drop (offset + piece.length) = json.take (offset + piece.length) := by
  intro piece old
  have ended : old.drop (offset + piece.length) = [] :=
    drop_eq_nil_iff.mpr (Nat.le_trans (length_take_le offset json) (Nat.le_add_right _ _))
  have whole : piece = (json.drop offset).take piece.length := by
    rw [length_take, ← take_eq_take_min]
  rw [ended, append_nil, take_take, Nat.min_self, take_add, ← whole]

section
variable (sound : Sound codec given kept slot) (writes : slot.writers call = some w)
include sound writes

theorem Sound.written (count : Nat) : Sound codec given kept (slot.written call w count) := by
  have own := sound.writers call w writes
  refine ⟨sound.old, sound.apart, sound.absent, sound.update fun named => sound.apart _ named own.tmp, ?_⟩
  have only (call' : Nat) (w' : Writer α) (writes' : (slot.written call w count).writers call' = some w') :
      call' = call := by
    by_contra different
    exact different (own.alone call' w' ((update_of_ne different ..).symm.trans writes'))
  intro call' w' writes'
  cases only call' w' writes'
  cases (update_self ..).symm.trans writes'
  refine ⟨own.tmp, (update_self ..).trans ?_, own.serialized, own.given, only⟩
  rw [own.content]
  exact written_content

theorem Sound.renamed {node : Nat} (complete : w.offset = w.json.length) (eq : slot.tmp = some node) :
    Sound codec given (some w.item) { slot.stopped call with item := some node, tmp := none } := by
  have own := sound.writers call w writes
  cases own.tmp.symm.trans eq
  refine ⟨?_, nofun, nofun, ?_, ?_⟩
  · rintro _ (named | named)
    · cases named
      exact sound.old _ (.inr eq)
    · cases named
  · rintro _ named
    cases named
    refine ⟨w.item, rfl, own.given, own.serialized.trans (congrArg Except.ok ?_)⟩
    exact (own.content.trans (by rw [complete, take_length])).symm
  · intro call' w' writes'
    by_cases same : call' = call
    · cases (update_self ..).symm.trans (same ▸ writes')
    · exact absurd (own.alone call' w' ((update_of_ne same ..).symm.trans writes')) same

end

structure Inv (codec : Codec α) (labels : List (Event α)) (s : StateDir α) : Prop where
  sound : ∀ id, Sound codec (Given labels id) (stored labels id) (s.slots id)
  listed : ∀ item ∈ s.listed, ∃ id, Given labels id item

variable {labels : List (Event α)} {s t : StateDir α} {event : Event α} {id : String}

theorem given_snoc {item : α} (given : Given labels id item) : Given (labels ++ [event]) id item :=
  given.imp fun _ mem => mem_append_left _ mem

theorem Inv.read (inv : Inv codec labels s) (read : (s.slots id).read false = some json) :
    ∃ item, stored labels id = some item ∧ Given labels id item ∧ codec.toStringPretty item = .ok json := by
  obtain ⟨node, named, rfl⟩ := Option.map_eq_some_iff.mp read
  exact (inv.sound id).whole node named

theorem Inv.load (roundTrips : codec.RoundTrips) (inv : Inv codec labels s) {id : String} :
    s.load codec id = stored labels id ∧ ∀ item, s.load codec id = some item → Given labels id item := by
  unfold StateDir.load parsed
  cases read : (s.slots id).read false with
  | none => exact ⟨((inv.sound id).absent (Option.map_eq_none_iff.mp read)).symm, nofun⟩
  | some json =>
    obtain ⟨item, eq, given, serialized⟩ := inv.read read
    rw [Option.bind_some, roundTrips _ _ serialized]
    refine ⟨eq.symm, fun item' hit => ?_⟩
    cases hit
    exact given

theorem Inv.step (roundTrips : codec.RoundTrips) (inv : Inv codec labels s) (step : Step codec s event t)
    (alone : Alone s event) : Inv codec (labels ++ [event]) t := by
  have listed : ∀ item ∈ s.listed, ∃ id, Given (labels ++ [event]) id item := fun item mem =>
    (inv.listed item mem).imp fun _ => given_snoc
  have sound (id : String) : Sound codec (Given (labels ++ [event]) id) (stored labels id) (s.slots id) :=
    (inv.sound id).mono fun _ => given_snoc
  have later (id : String) : stored (labels ++ [event]) id = event.store id (stored labels id) := by
    rw [stored, foldl_append]
    rfl
  -- an event of one id changes its slot, and what is stored under this id at most
  have set (id : String) {slot : Slot α} (own : Sound codec (Given (labels ++ [event]) id)
      (event.store id (stored labels id)) slot)
      (others : ∀ id' ≠ id, event.store id' (stored labels id') = stored labels id') :
      Inv codec (labels ++ [event]) (s.set id slot) := by
    refine ⟨(forall_update_iff s.slots fun id slot =>
      Sound codec (Given (labels ++ [event]) id) (stored (labels ++ [event]) id) slot).mpr ⟨?_, ?_⟩, listed⟩
    · rwa [later]
    · intro id' different
      rw [later, others id' different]
      exact sound id'
  cases step with
  | @save id _ _ _ _ serialized =>
    refine set id ((sound id).opened serialized ?_ alone.2) fun _ _ => rfl
    exact ⟨_, mem_append_right _ (mem_singleton_self _)⟩
  | @write id _ _ writes count => exact set id ((sound id).written writes count) fun _ _ => rfl
  | @rename id _ _ _ writes complete eq =>
    refine set id ?_ fun _ different => if_neg different.symm
    rw [Event.store, if_pos rfl]
    exact (sound id).renamed writes complete eq
  | stop id call => exact set id ((sound id).stopped call) fun _ _ => rfl
  | remove id =>
    refine set id ?_ fun _ different => if_neg different.symm
    rw [Event.store, if_pos rfl]
    exact ⟨fun node named => (sound id).old node (.inr (named.resolve_left nofun)), nofun, fun _ => rfl, nofun,
      fun call w writes => { (sound id).writers call w writes with }⟩
  | entry id tmp =>
    refine ⟨fun id => later id ▸ sound id, ?_⟩
    intro item mem
    rcases mem_append.mp mem with new | old
    · have new := Option.mem_toList.mp new
      unfold loadEntry at new
      cases tmp with
      | true => cases (if_neg (extension_tmp id)).symm.trans new
      | false =>
        split at new
        · exact ⟨id, given_snoc ((inv.load roundTrips).2 item new)⟩
        · cases new
    · exact listed item old
  | crash => exact ⟨fun id => later id ▸ (sound id).fewer nofun, listed⟩

/-- As long as saves of one item do not overlap: the file of an id is absent or complete, what is loaded is the item
of the last save that has returned, and `load_all` returns only what was saved. -/
theorem items_whole (roundTrips : codec.RoundTrips)
    (ran : Run (fun s event t => Step codec s event t ∧ Alone s event) ({} : StateDir α) labels s) :
    (∀ id, Named id → (∀ json, (s.slots id).read false = some json →
        ∃ item, Given labels id item ∧ codec.toStringPretty item = .ok json) ∧ s.load codec id = stored labels id) ∧
      ∀ item ∈ s.listed, ∃ id, Given labels id item := by
  have inv : Inv codec labels s := by
    refine Run.history (I := Inv codec) ⟨fun id => ⟨?_, ?_, fun _ => rfl, ?_, ?_⟩, ?_⟩
      (fun labels s event t inv step => inv.step roundTrips step.1 step.2) ran
    all_goals simp
  refine ⟨fun id _ => ⟨fun json read => ?_, (inv.load roundTrips).1⟩, inv.listed⟩
  obtain ⟨item, -, given⟩ := inv.read read
  exact ⟨item, given⟩

def plain : Codec (List UInt8) := ⟨.ok, .ok⟩

def overlapping : List (Event (List UInt8)) :=
  [.save "a" 0 [1, 2], .write "a" 0, .save "a" 1 [3], .rename "a" 0 [1, 2]]

/-- Two saves of one item share a temporary file: the first renames what the second has just truncated. -/
theorem overlapping_saves_tear : ∃ s, Run (Step plain) {} overlapping s ∧ (s.slots "a").read false = some [] ∧
    ∀ item, Given overlapping "a" item → plain.toStringPretty item ≠ .ok [] := by
  refine ⟨_, .snoc (.snoc (.snoc (.snoc (.nil _) (.save rfl rfl)) (.write rfl 2)) (.save rfl rfl))
    (.rename (w := ⟨[1, 2], [1, 2], 0, 2⟩) rfl rfl rfl), rfl, ?_⟩
  rintro item ⟨call, member⟩ same
  cases same
  simp [overlapping] at member

/-- The first save of `b` is cut off; `a` is removed in the end. -/
def inTurn : List (Event (List UInt8)) :=
  [.save "a" 0 [1, 2], .write "a" 0, .rename "a" 0 [1, 2], .save "b" 1 [3, 4], .write "b" 1, .crash,
    .save "b" 2 [5], .write "b" 2, .rename "b" 2 [5], .remove "a"]

theorem items_whole_in_turn : ∃ s, Run (fun s event t => Step plain s event t ∧ Alone s event) {} inTurn s ∧
    s.load plain "a" = none ∧ s.load plain "b" = some [5] := by
  obtain ⟨s, ran⟩ : ∃ s, Run (fun s event t => Step plain s event t ∧ Alone s event) {} inTurn s := by
    have ran : Run (fun s event t => Step plain s event t ∧ Alone s event) {} [] {} := .nil _
    have ran := ran.snoc (a := Event.save "a" 0 [1, 2]) ⟨.save rfl rfl, show '/' ∉ "a".toList by decide, fun _ => rfl⟩
    have ran := ran.snoc (a := Event.write "a" 0) ⟨.write rfl 2, trivial⟩
    have ran := ran.snoc (a := Event.rename "a" 0 [1, 2]) ⟨.rename (w := ⟨[1, 2], [1, 2], 0, 2⟩) rfl rfl rfl, trivial⟩
    have ran := ran.snoc (a := Event.save "b" 1 [3, 4]) ⟨.save rfl rfl, show '/' ∉ "b".toList by decide, fun _ => rfl⟩
    have ran := ran.snoc (a := Event.write "b" 1) ⟨.write rfl 1, trivial⟩
    have ran := ran.snoc (a := Event.crash) ⟨.crash _, trivial⟩
    have ran := ran.snoc (a := Event.save "b" 2 [5]) ⟨.save rfl rfl, show '/' ∉ "b".toList by decide, fun _ => rfl⟩
    have ran := ran.snoc (a := Event.write "b" 2) ⟨.write rfl 1, trivial⟩
    have ran := ran.snoc (a := Event.rename "b" 2 [5]) ⟨.rename (w := ⟨[5], [5], 0, 1⟩) rfl rfl rfl, trivial⟩
    exact ⟨_, ran.snoc ⟨.remove _ "a", show '/' ∉ "a".toList by decide⟩⟩
  have roundTrips : plain.RoundTrips := by
    rintro item json same
    cases same
    rfl
  obtain ⟨kept, -⟩ := items_whole roundTrips ran
  exact ⟨s, ran, (kept "a" (by unfold Named; decide)).2, (kept "b" (by unfold Named; decide)).2⟩

end StateDir

end NastyEngine.Common
