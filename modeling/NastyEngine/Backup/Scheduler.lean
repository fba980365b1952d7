import NastyEngine.Backup.Profile
import NastyEngine.Lib.Recurrence

/-!
The scheduler is polled. In each round it starts the profiles whose schedule has an occurrence between
their last attempt, or the start of the scheduler, and now. A start that is refused is tried again in
the next round. Times are in nanoseconds.
-/

namespace NastyEngine.Backup
open Lib Rust

inductive SchedulerError where
  | invalidCron (expr reason : String)
  deriving DecidableEq

/-- `fromStr` is `Schedule::from_str` of the cron library. -/
def parseCron (fromStr : String → Except String (Recurrence Int)) (expr : String) :
    Except SchedulerError (Recurrence Int) := do
  let trimmed := trim expr.toList
  let normalized ← match (splitWhitespace trimmed).length with
    | 5 => .ok ("0 " ++ String.ofList trimmed)
    | 6 | 7 => .ok (String.ofList trimmed)
    | n => .error (.invalidCron expr ("expected 5, 6, or 7 fields; got " ++ n.repr))
  (fromStr normalized).mapError (.invalidCron expr)

def shouldFire (schedule : Recurrence Int) (lastAttemptedAt now : Int) : Option Int :=
  (schedule.next lastAttemptedAt).filter (· ≤ now)

structure SchedulerTick where
  lastAttempted : String → Option Int := fun _ => none
  startedAt : Int

namespace SchedulerTick

variable (s : SchedulerTick)

def cursor (id : String) : Int := (s.lastAttempted id).getD s.startedAt

def set (id : String) (time : Int) : SchedulerTick :=
  { s with lastAttempted := Function.update s.lastAttempted id (some time) }

def retain (live : List String) : SchedulerTick :=
  { s with lastAttempted := fun id => if id ∈ live then s.lastAttempted id else none }

def retry (id : String) : SchedulerTick :=
  { s with lastAttempted := Function.update s.lastAttempted id none }

end SchedulerTick

section Evaluate
variable (fromStr : String → Except String (Recurrence Int))

def activeSchedule (p : BackupProfile) : Option (Recurrence Int) :=
  if p.enabled then
    match p.schedule with
    | some expr => if trim expr.toList = [] then none else (parseCron fromStr expr).toOption
    | none => none
  else none

/-- One iteration of the loop over the profiles. A fire is kept with the occurrence it is logged for. -/
def visit (now : Int) (acc : List (String × Int) × SchedulerTick) (p : BackupProfile) :
    List (String × Int) × SchedulerTick :=
  match activeSchedule fromStr p with
  | none => acc
  | some schedule =>
    let last := acc.2.cursor p.id
    let s := acc.2.set p.id last
    match shouldFire schedule last now with
    | some fireAt => (acc.1 ++ [(p.id, fireAt)], s.set p.id now)
    | none => (acc.1, s)

def evaluate (s : SchedulerTick) (profiles : List BackupProfile) (now : Int) : List (String × Int) × SchedulerTick :=
  profiles.foldl (visit fromStr now) ([], s.retain (profiles.map (·.id)))

structure Round where
  profiles : List BackupProfile
  now : Int
  accepts : String → Bool

def settle (accepts : String → Bool) (fires : List (String × Int)) (s : SchedulerTick) : SchedulerTick :=
  fires.foldl (fun s fire => if accepts fire.1 then s else s.retry fire.1) s

def SchedulerTick.round (s : SchedulerTick) (r : Round) : List (String × Int) × SchedulerTick :=
  let (fires, s) := evaluate fromStr s r.profiles r.now
  (fires, settle r.accepts fires s)

end Evaluate

section Facts
variable {s : SchedulerTick} {id other : String}

theorem shouldFire_eq_some {schedule : Recurrence Int} {last now fireAt : Int} :
    shouldFire schedule last now = some fireAt ↔ schedule.next last = some fireAt ∧ fireAt ≤ now := by
  simp [shouldFire, Option.filter_eq_some_iff]

def Due (schedule : Recurrence Int) (last now : Int) : Prop := ∃ t, schedule.occurs t ∧ last < t ∧ t ≤ now

theorem due_iff {schedule : Recurrence Int} {last now : Int} :
    Due schedule last now ↔ ∃ fireAt, shouldFire schedule last now = some fireAt := by
  simp only [Due, ← schedule.next_le_iff, shouldFire_eq_some]

theorem not_due_now (schedule : Recurrence Int) (now : Int) : ¬ Due schedule now now := by
  rintro ⟨t, -, after, le⟩
  omega

@[simp] theorem SchedulerTick.cursor_set (s : SchedulerTick) (id : String) (time : Int) :
    (s.set id time).cursor id = time := by
  simp [SchedulerTick.cursor, SchedulerTick.set]

theorem SchedulerTick.cursor_set_of_ne (ne : id ≠ other) (time : Int) : (s.set other time).cursor id = s.cursor id := by
  simp [SchedulerTick.cursor, SchedulerTick.set, ne]

@[simp] theorem SchedulerTick.cursor_retry (s : SchedulerTick) (id : String) : (s.retry id).cursor id = s.startedAt := by
  simp [SchedulerTick.cursor, SchedulerTick.retry]

theorem SchedulerTick.cursor_retain {live : List String} (isLive : id ∈ live) :
    (s.retain live).cursor id = s.cursor id := by
  simp [SchedulerTick.cursor, SchedulerTick.retain, isLive]

end Facts

section Visit
variable {fromStr : String → Except String (Recurrence Int)} {id : String} {schedule : Recurrence Int} {now : Int}
  {p : BackupProfile} (acc : List (String × Int) × SchedulerTick)

theorem visit_startedAt : (visit fromStr now acc p).2.startedAt = acc.2.startedAt := by
  unfold visit
  split
  · rfl
  · dsimp only
    split <;> rfl

theorem visit_of_ne (ne : id ≠ p.id) : (visit fromStr now acc p).2.cursor id = acc.2.cursor id ∧
      (id ∈ (visit fromStr now acc p).1.map (·.1) ↔ id ∈ acc.1.map (·.1)) := by
  unfold visit
  split
  · exact ⟨rfl, Iff.rfl⟩
  · dsimp only
    split
    · refine ⟨?_, by simp [ne]⟩
      rw [SchedulerTick.cursor_set_of_ne ne, SchedulerTick.cursor_set_of_ne ne]
    · exact ⟨SchedulerTick.cursor_set_of_ne ne _, Iff.rfl⟩

open Classical in
theorem visit_self (active : activeSchedule fromStr p = some schedule) : (visit fromStr now acc p).2.cursor p.id =
        (if Due schedule (acc.2.cursor p.id) now then now else acc.2.cursor p.id) ∧
      (p.id ∈ (visit fromStr now acc p).1.map (·.1) ↔ p.id ∈ acc.1.map (·.1) ∨ Due schedule (acc.2.cursor p.id) now) := by
  unfold visit
  rw [active]
  dsimp only
  split
  next fireAt fires =>
    have due : Due schedule (acc.2.cursor p.id) now := due_iff.mpr ⟨fireAt, fires⟩
    rw [if_pos due]
    exact ⟨SchedulerTick.cursor_set _ _ _, by simp [due]⟩
  next none =>
    have notDue : ¬ Due schedule (acc.2.cursor p.id) now := by
      rw [due_iff, none]
      nofun
    rw [if_neg notDue]
    exact ⟨SchedulerTick.cursor_set _ _ _, by simp [notDue]⟩

variable {profiles : List BackupProfile}

theorem foldl_startedAt :
    (profiles.foldl (visit fromStr now) acc).2.startedAt = acc.2.startedAt := by
  induction profiles generalizing acc with
  | nil => rfl
  | cons p rest ih => rw [List.foldl_cons, ih, visit_startedAt]

open Classical in
theorem foldl_one (active : ∀ p ∈ profiles, p.id = id → activeSchedule fromStr p = some schedule) :
    (profiles.foldl (visit fromStr now) acc).2.cursor id =
        (if (∃ p ∈ profiles, p.id = id) ∧ Due schedule (acc.2.cursor id) now then now else acc.2.cursor id) ∧
      (id ∈ (profiles.foldl (visit fromStr now) acc).1.map (·.1) ↔
        id ∈ acc.1.map (·.1) ∨ ((∃ p ∈ profiles, p.id = id) ∧ Due schedule (acc.2.cursor id) now)) := by
  induction profiles generalizing acc with
  | nil => simp
  | cons p rest ih =>
    rw [List.foldl_cons]
    obtain ⟨cursor, member⟩ := ih (visit fromStr now acc p) fun q hq => active q (List.mem_cons_of_mem p hq)
    rw [cursor, member]
    by_cases same : p.id = id
    · subst same
      obtain ⟨visited, fired⟩ := visit_self acc (active p List.mem_cons_self rfl)
      rw [visited, fired]
      by_cases due : Due schedule (acc.2.cursor p.id) now
      · simp [due, not_due_now]
      · simp [due]
    · obtain ⟨visited, fired⟩ := visit_of_ne acc (Ne.symm same)
      rw [visited, fired]
      simp [same]

def fireOf (fromStr : String → Except String (Recurrence Int)) (now : Int) (s : SchedulerTick) (p : BackupProfile) :
    Option (String × Int) :=
  (activeSchedule fromStr p).bind fun schedule => (shouldFire schedule (s.cursor p.id) now).map (p.id, ·)

theorem visit_fires : (visit fromStr now acc p).1 = acc.1 ++ (fireOf fromStr now acc.2 p).toList := by
  unfold visit fireOf
  cases activeSchedule fromStr p with
  | none => simp
  | some schedule =>
    dsimp only [Option.bind_some]
    cases shouldFire schedule (acc.2.cursor p.id) now <;> simp

/-- The visit of one profile does not change whether another one fires. -/
theorem fires_visited (fresh : p.id ∉ profiles.map (·.id)) :
    profiles.filterMap (fireOf fromStr now (visit fromStr now acc p).2) = profiles.filterMap (fireOf fromStr now acc.2) := by
  apply List.filterMap_congr
  intro q hq
  have ne : q.id ≠ p.id := fun eq => fresh (List.mem_map.mpr ⟨q, hq, eq⟩)
  rw [fireOf, (visit_of_ne acc ne).1, fireOf]

theorem foldl_fires (unique : (profiles.map (·.id)).Nodup) :
    (profiles.foldl (visit fromStr now) acc).1 = acc.1 ++ profiles.filterMap (fireOf fromStr now acc.2) := by
  induction profiles generalizing acc with
  | nil => simp
  | cons p rest ih =>
    obtain ⟨fresh, unique⟩ := List.nodup_cons.mp unique
    rw [List.foldl_cons, ih _ unique, fires_visited _ fresh, visit_fires, List.append_assoc]
    cases fired : fireOf fromStr now acc.2 p <;> simp [fired]

end Visit

end NastyEngine.Backup
