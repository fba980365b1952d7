import NastyEngine.Backup.Coverage

/-! The scheduler does not notice that a profile was enabled or rescheduled. -/

namespace NastyEngine.Backup
open Lib Rust

def scheduleOf (profiles : List BackupProfile) (id : String) : Option String :=
  (profiles.find? (·.id = id)).bind fun p => if p.enabled then p.schedule else none

structure Planner where
  tick : SchedulerTick
  profiles : List BackupProfile

/-- What can be seen from outside: profiles are saved, created or deleted, and a round starts some of them. -/
inductive Turn where
  | edit (profiles : List BackupProfile) (time : Int)
  | round (now : Int) (accepts : String → Bool) (fires : List (String × Int))

namespace Planner

def fires (fromStr : String → Except String (Recurrence Int)) (s : Planner) (now : Int) (accepts : String → Bool) :
    List (String × Int) :=
  (s.tick.round fromStr ⟨s.profiles, now, accepts⟩).1

inductive Step (fromStr : String → Except String (Recurrence Int)) : Planner → Turn → Planner → Prop
  | edit {s : Planner} (profiles : List BackupProfile) (time : Int) (unique : (profiles.map (·.id)).Nodup) :
      Step fromStr s (.edit profiles time) { s with profiles }
  | round {s : Planner} (now : Int) (accepts : String → Bool) :
      Step fromStr s (.round now accepts (s.fires fromStr now accepts))
        { s with tick := (s.tick.round fromStr ⟨s.profiles, now, accepts⟩).2 }

end Planner

/-- What the events so far tell: since when each profile has been enabled with its schedule, and when it was last
started. A round that does not find the profile, and a start that is refused, count as the start of the scheduler. -/
structure Ledger where
  profiles : List BackupProfile
  since : String → Int
  served : String → Int

namespace Ledger

/-- Only a schedule that differs starts anew. -/
def record (started : Int) (l : Ledger) : Turn → Ledger
  | .edit profiles time => { l with
      profiles
      since := fun id => if scheduleOf profiles id = scheduleOf l.profiles id then l.since id else time }
  | .round now accepts fires => { l with
      served := fun id =>
        if id ∉ l.profiles.map (·.id) then started
        else if id ∈ fires.map (·.1) then if accepts id then now else started
        else l.served id }

def after (started : Int) (profiles : List BackupProfile) (events : List Turn) : Ledger :=
  events.foldl (record started) ⟨profiles, fun _ => started, fun _ => started⟩

end Ledger

namespace Planner
variable {fromStr : String → Except String (Recurrence Int)} {s : Planner} {events : List Turn} {started now : Int}
  {profiles : List BackupProfile} {fire : String × Int} {id : String}

theorem fires_eq (unique : (s.profiles.map (·.id)).Nodup) {accepts : String → Bool} : s.fires fromStr now accepts =
    s.profiles.filterMap (fireOf fromStr now (s.tick.retain (s.profiles.map (·.id)))) := foldl_fires _ unique

theorem mem_fires (unique : (s.profiles.map (·.id)).Nodup) {accepts : String → Bool} :
    fire ∈ s.fires fromStr now accepts ↔ ∃ p ∈ s.profiles, fireOf fromStr now s.tick p = some fire := by
  rw [fires_eq unique, List.mem_filterMap]
  refine exists_congr fun p => and_congr_right fun mem => ?_
  rw [fireOf, SchedulerTick.cursor_retain (List.mem_map_of_mem mem), fireOf]

/-- A visit moves the cursor of the profile to now if it fires, and else no cursor. -/
theorem visit_cursor (acc : List (String × Int) × SchedulerTick) (p : BackupProfile) :
    (visit fromStr now acc p).2.cursor id =
      if id ∈ (fireOf fromStr now acc.2 p).toList.map (·.1) then now else acc.2.cursor id := by
  by_cases mine : id = p.id
  · subst mine
    unfold visit fireOf
    cases activeSchedule fromStr p with
    | none => simp
    | some schedule =>
      dsimp only [Option.bind_some]
      split
      next fires => simp [fires]
      next none => simp [none]
  · rw [(visit_of_ne acc mine).1, if_neg]
    intro mem
    obtain ⟨fire, fired, rfl⟩ := List.mem_map.mp mem
    obtain ⟨schedule, -, fired⟩ := Option.bind_eq_some_iff.mp (Option.mem_toList.mp fired)
    obtain ⟨_, -, rfl⟩ := Option.map_eq_some_iff.mp fired
    exact mine rfl

theorem foldl_cursor (acc : List (String × Int) × SchedulerTick) (unique : (profiles.map (·.id)).Nodup) :
    (profiles.foldl (visit fromStr now) acc).2.cursor id =
      if id ∈ (profiles.filterMap (fireOf fromStr now acc.2)).map (·.1) then now else acc.2.cursor id := by
  induction profiles generalizing acc with
  | nil => simp
  | cons p rest ih =>
    obtain ⟨fresh, unique⟩ := List.nodup_cons.mp unique
    rw [List.foldl_cons, ih _ unique, fires_visited _ fresh, visit_cursor]
    cases fired : fireOf fromStr now acc.2 p with
    | none =>
      rw [List.filterMap_cons_none fired]
      simp
    | some fire =>
      rw [List.filterMap_cons_some fired, List.map_cons, Option.toList_some, List.map_singleton]
      simp only [List.mem_cons, List.not_mem_nil, or_false]
      by_cases mine : id = fire.1
      · rw [if_pos mine, ite_self, if_pos (.inl mine)]
      · rw [if_neg mine]
        exact if_congr (or_iff_right mine).symm rfl rfl

theorem round_cursor (id : String) (unique : (s.profiles.map (·.id)).Nodup) (accepts : String → Bool) :
    (s.tick.round fromStr ⟨s.profiles, now, accepts⟩).2.startedAt = s.tick.startedAt ∧
      (s.tick.round fromStr ⟨s.profiles, now, accepts⟩).2.cursor id =
        if id ∉ s.profiles.map (·.id) then s.tick.startedAt
        else if id ∈ (s.fires fromStr now accepts).map (·.1) then if accepts id then now else s.tick.startedAt
        else s.tick.cursor id := by
  have start : (evaluate fromStr s.tick s.profiles now).2.startedAt = s.tick.startedAt := foldl_startedAt _
  have moved : (evaluate fromStr s.tick s.profiles now).2.cursor id =
      if id ∈ (s.fires fromStr now accepts).map (·.1) then now
      else (s.tick.retain (s.profiles.map (·.id))).cursor id := by
    rw [fires_eq unique]
    exact foldl_cursor _ unique
  obtain ⟨settledStart, settled⟩ := settle_one id accepts (s.fires fromStr now accepts)
    (evaluate fromStr s.tick s.profiles now).2
  refine ⟨settledStart.trans start, settled.trans ?_⟩
  rw [moved, start]
  by_cases live : id ∈ s.profiles.map (·.id)
  · rw [if_neg (not_not.mpr live), SchedulerTick.cursor_retain live]
    by_cases fired : id ∈ (s.fires fromStr now accepts).map (·.1)
    · cases accepts id <;> simp [fired]
    · simp [fired]
  · have absent : id ∉ (s.fires fromStr now accepts).map (·.1) := by
      intro mem
      obtain ⟨fire, started, rfl⟩ := List.mem_map.mp mem
      obtain ⟨p, listed, eq⟩ := (mem_fires unique).mp started
      obtain ⟨schedule, -, eq⟩ := Option.bind_eq_some_iff.mp eq
      obtain ⟨_, -, rfl⟩ := Option.map_eq_some_iff.mp eq
      exact live (List.mem_map_of_mem listed)
    rw [if_pos live, if_neg fun both => absent both.1, if_neg absent]
    exact congrArg (fun last : Option Int => last.getD s.tick.startedAt) (if_neg live)

/-- The scheduler knows of its past what the ledger says. -/
structure Agrees (started : Int) (l : Ledger) (s : Planner) : Prop where
  unique : (s.profiles.map (·.id)).Nodup
  profiles : s.profiles = l.profiles
  startedAt : s.tick.startedAt = started
  cursor : ∀ id, s.tick.cursor id = l.served id

theorem agrees_run (run : Run (Step fromStr) ⟨{ startedAt := started }, profiles⟩ events s)
    (unique : (profiles.map (·.id)).Nodup) : Agrees started (Ledger.after started profiles events) s := by
  refine Run.history (I := fun events s => Agrees started (Ledger.after started profiles events) s)
    ⟨unique, rfl, rfl, fun _ => rfl⟩ ?_ run
  intro events s event t agrees step
  rw [Ledger.after, List.foldl_append, ← Ledger.after]
  cases step with
  | edit _ _ unique => exact ⟨unique, rfl, agrees.startedAt, agrees.cursor⟩
  | round now accepts =>
    refine ⟨agrees.unique, agrees.profiles, ?_, fun id => ?_⟩
    · exact (round_cursor "" agrees.unique accepts).1.trans agrees.startedAt
    · rw [(round_cursor id agrees.unique accepts).2, agrees.startedAt, agrees.profiles, agrees.cursor]
      rfl

variable {p : BackupProfile} {tick : SchedulerTick}

theorem fireOf_eq_some : fireOf fromStr now tick p = some fire ↔
      fire.1 = p.id ∧ ∃ schedule, activeSchedule fromStr p = some schedule ∧
        schedule.next (tick.cursor p.id) = some fire.2 ∧ fire.2 ≤ now := by
  simp only [fireOf, Option.bind_eq_some_iff, Option.map_eq_some_iff, shouldFire_eq_some]
  constructor
  · rintro ⟨schedule, active, fireAt, first, rfl⟩
    exact ⟨rfl, schedule, active, first⟩
  · rintro ⟨eq, schedule, active, first⟩
    exact ⟨schedule, active, fire.2, first, Prod.ext eq.symm rfl⟩

theorem fireOf_since {since : Int} : (∀ fire, fireOf fromStr now tick p = some fire → since ≤ fire.2) ↔
      ∀ schedule, activeSchedule fromStr p = some schedule →
        ∀ t ≤ now, schedule.occurs t → t < since → t ≤ tick.cursor p.id := by
  constructor
  · intro later schedule active t le occurs early
    by_contra after
    obtain ⟨u, first, least⟩ := schedule.next_least occurs (not_le.mp after)
    have := later (p.id, u) (fireOf_eq_some.mpr ⟨rfl, schedule, active, first, le_trans least le⟩)
    omega
  · intro served fire fired
    obtain ⟨-, schedule, active, first, le⟩ := fireOf_eq_some.mp fired
    obtain ⟨occurs, after⟩ := schedule.next_occurs first
    by_contra early
    have := served schedule active fire.2 le occurs (not_le.mp early)
    omega

/-- In a whole run no round starts a profile for an occurrence from before it had its schedule, exactly if at every
round whatever occurred before then had been served: no later than the last start that was accepted, or than the start
of the scheduler. -/
theorem fires_since (run : Run (Step fromStr) ⟨{ startedAt := started }, profiles⟩ events s)
    (unique : (profiles.map (·.id)).Nodup) :
    (∀ before now accepts fires, before ++ [.round now accepts fires] <+: events →
        ∀ fire ∈ fires, (Ledger.after started profiles before).since fire.1 ≤ fire.2) ↔
      ∀ before now accepts fires, before ++ [.round now accepts fires] <+: events →
        ∀ p ∈ (Ledger.after started profiles before).profiles, ∀ schedule, activeSchedule fromStr p = some schedule →
          ∀ t ≤ now, schedule.occurs t → t < (Ledger.after started profiles before).since p.id →
            t ≤ (Ledger.after started profiles before).served p.id := by
  refine forall_congr' fun before => forall_congr' fun now => forall_congr' fun accepts => forall_congr' fun fires =>
    forall_congr' fun ⟨later, eq⟩ => ?_
  obtain ⟨_, reached⟩ := Run.init (eq ▸ run)
  obtain ⟨t, reached, step⟩ := Run.last reached
  have agrees := agrees_run reached unique
  generalize Ledger.after started profiles before = l at agrees
  cases step
  rw [← agrees.profiles]
  simp only [mem_fires agrees.unique, ← agrees.cursor]
  constructor
  · intro later p listed
    refine fireOf_since.mp fun fire fired => ?_
    rw [← (fireOf_eq_some.mp fired).1]
    exact later fire ⟨p, listed, fired⟩
  · rintro served fire ⟨p, listed, fired⟩
    rw [(fireOf_eq_some.mp fired).1]
    exact fireOf_since.mpr (served p listed) fire fired

def docsDisabled : Planner := ⟨{ startedAt := 3600000000000 }, [{ docsProfile with enabled := false }]⟩

/-- The profile is enabled at some time, and the next round starts it for two o'clock. -/
def enabledThenStarted (time now : Int) : List Turn :=
  [.edit [docsProfile] time, .round now (fun _ => true) [("docs", 7200000000000)]]

theorem enabledThenStarted_run (time now : Int) (fires : (Planner.mk docsDisabled.tick [docsProfile]).fires
      (fun _ => .ok hourly) now (fun _ => true) = [("docs", 7200000000000)]) :
    ∃ s, Run (Step fun _ => .ok hourly) docsDisabled (enabledThenStarted time now) s := by
  have step : Step (fun _ => .ok hourly) ⟨docsDisabled.tick, [docsProfile]⟩ _ _ := .round now fun _ => true
  rw [fires] at step
  exact ⟨_, .snoc (.snoc (.nil _) (.edit _ _ (by decide))) step⟩

/-- Enabled seven minutes past two, the profile is started a minute later for two o'clock. -/
theorem enabled_profile_catches_up :
    (∃ s, Run (Step fun _ => .ok hourly) docsDisabled (enabledThenStarted 7620000000000 7680000000000) s) ∧
      (Ledger.after 3600000000000 docsDisabled.profiles [.edit [docsProfile] 7620000000000]).since "docs" =
        7620000000000 :=
  ⟨enabledThenStarted_run _ _ (by decide +kernel), by decide +kernel⟩

/-- Enabled two minutes past one, it is started a minute past two, and nothing it missed is caught up. -/
theorem fires_since_enabled_in_time :
    ∃ s, Run (Step fun _ => .ok hourly) docsDisabled (enabledThenStarted 3720000000000 7260000000000) s ∧
      ∀ before now accepts fires, before ++ [.round now accepts fires] <+: enabledThenStarted 3720000000000 7260000000000 →
        ∀ fire ∈ fires, (Ledger.after 3600000000000 docsDisabled.profiles before).since fire.1 ≤ fire.2 := by
  obtain ⟨s, run⟩ := enabledThenStarted_run 3720000000000 7260000000000 (by decide +kernel)
  refine ⟨s, run, (fires_since run (by decide)).mpr ?_⟩
  intro before now accepts fires ⟨later, eq⟩ p listed schedule active t le occurs early
  obtain rfl : before = [.edit [docsProfile] 3720000000000] := by
    rcases before with _ | ⟨a, _ | ⟨b, rest⟩⟩ <;> simp [enabledThenStarted] at eq ⊢
    exact eq.1
  cases List.mem_singleton.mp listed
  cases active
  have early : t < 3720000000000 := early
  show t ≤ 3600000000000
  simp only [hourly] at occurs
  omega

end Planner

end NastyEngine.Backup
