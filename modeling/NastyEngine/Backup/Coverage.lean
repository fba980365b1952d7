import NastyEngine.Backup.Scheduler
import NastyEngine.Lib.Run

/-!
A start that is accepted serves every occurrence since the one before it. A start that is refused forgets
the cursor, and the next round searches again from the start of the scheduler.
-/

namespace NastyEngine.Backup
open Lib Rust List

structure Tick where
  round : Round
  fires : List (String × Int)

def Tick.Attempts (l : Tick) (id : String) : Prop := id ∈ l.fires.map (·.1)

instance (l : Tick) (id : String) : Decidable (l.Attempts id) := inferInstanceAs (Decidable (_ ∈ _))

def startsOf (id : String) (ticks : List Tick) : List Int :=
  (ticks.filter fun l => l.Attempts id ∧ l.round.accepts id).map (·.round.now)

theorem startsOf_accepted {id : String} {l : Tick} (accepted : l.Attempts id ∧ l.round.accepts id)
    (ticks : List Tick) : startsOf id (ticks ++ [l]) = startsOf id ticks ++ [l.round.now] := by
  simp [startsOf, filter_append, accepted]

theorem startsOf_refused {id : String} {l : Tick} (refused : ¬ (l.Attempts id ∧ l.round.accepts id))
    (ticks : List Tick) : startsOf id (ticks ++ [l]) = startsOf id ticks := by
  unfold startsOf
  rw [filter_append, filter_singleton, decide_eq_false refused, cond_false, append_nil]

def Stays (id expr : String) (profiles : List BackupProfile) : Prop :=
  (∃ p ∈ profiles, p.id = id) ∧ ∀ p ∈ profiles, p.id = id → p.enabled = true ∧ p.schedule = some expr

instance (id expr : String) (profiles : List BackupProfile) : Decidable (Stays id expr profiles) :=
  inferInstanceAs (Decidable (_ ∧ _))

section Rounds
variable {fromStr : String → Except String (Recurrence Int)} {id expr : String} {schedule : Recurrence Int}

theorem parseCron_nonblank (parsed : parseCron fromStr expr = .ok schedule) : trim expr.toList ≠ [] := by
  intro blank
  simp [parseCron, blank, splitWhitespace] at parsed
  cases parsed

theorem activeSchedule_of_stays {profiles : List BackupProfile} (parsed : parseCron fromStr expr = .ok schedule)
    (stays : Stays id expr profiles) {p : BackupProfile} (mem : p ∈ profiles) (eq : p.id = id) :
    activeSchedule fromStr p = some schedule := by
  obtain ⟨enabled, scheduled⟩ := stays.2 p mem eq
  simp [activeSchedule, enabled, scheduled, parseCron_nonblank parsed, parsed, Except.toOption]

open Classical in
theorem settle_one (id : String) (accepts : String → Bool) (fires : List (String × Int)) (s : SchedulerTick) :
    (settle accepts fires s).startedAt = s.startedAt ∧ (settle accepts fires s).cursor id =
        if id ∈ fires.map (·.1) ∧ accepts id = false then s.startedAt else s.cursor id := by
  unfold settle
  induction fires generalizing s with
  | nil => simp
  | cons fire rest ih =>
    rw [foldl_cons]
    obtain ⟨started, cursor⟩ := ih (if accepts fire.1 then s else s.retry fire.1)
    rw [started, cursor]
    by_cases accepted : accepts fire.1 = true
    · simp only [accepted, if_true, true_and]
      by_cases same : fire.1 = id
      · subst same
        simp [accepted]
      · simp [Ne.symm same]
    · have startedAt : (s.retry fire.1).startedAt = s.startedAt := rfl
      simp only [accepted, Bool.false_eq_true, if_false, startedAt, true_and]
      by_cases same : fire.1 = id
      · subst same
        simp [accepted]
      · simp [Ne.symm same, SchedulerTick.cursor, SchedulerTick.retry]

open Classical in
theorem evaluate_one {s : SchedulerTick} {profiles : List BackupProfile} {now : Int}
    (parsed : parseCron fromStr expr = .ok schedule) (stays : Stays id expr profiles) :
    (evaluate fromStr s profiles now).2.startedAt = s.startedAt ∧
      (id ∈ (evaluate fromStr s profiles now).1.map (·.1) ↔ Due schedule (s.cursor id) now) ∧
      (evaluate fromStr s profiles now).2.cursor id =
        if Due schedule (s.cursor id) now then now else s.cursor id := by
  have live : id ∈ profiles.map (·.id) := by
    obtain ⟨p, mem, eq⟩ := stays.1
    exact mem_map.mpr ⟨p, mem, eq⟩
  obtain ⟨cursor, fired⟩ := foldl_one ([], s.retain (profiles.map (·.id))) fun p mem eq =>
    activeSchedule_of_stays parsed stays mem eq
  rw [SchedulerTick.cursor_retain live] at cursor fired
  refine ⟨foldl_startedAt _, ?_, ?_⟩
  · exact fired.trans (by simp [stays.1])
  · exact cursor.trans (by simp [stays.1])

open Classical in
theorem round_one {s : SchedulerTick} {r : Round} (parsed : parseCron fromStr expr = .ok schedule)
    (stays : Stays id expr r.profiles) :
    (s.round fromStr r).2.startedAt = s.startedAt ∧
      (id ∈ (s.round fromStr r).1.map (·.1) ↔ Due schedule (s.cursor id) r.now) ∧
      (s.round fromStr r).2.cursor id =
        if Due schedule (s.cursor id) r.now then if r.accepts id then r.now else s.startedAt else s.cursor id := by
  obtain ⟨started, fired, cursor⟩ : _ ∧ _ ∧ (evaluate fromStr s r.profiles r.now).2.cursor id = _ :=
    evaluate_one parsed stays
  obtain ⟨settledStart, settled⟩ := settle_one id r.accepts (evaluate fromStr s r.profiles r.now).1
    (evaluate fromStr s r.profiles r.now).2
  refine ⟨settledStart.trans started, fired, settled.trans ?_⟩
  simp only [fired, cursor, started]
  by_cases due : Due schedule (s.cursor id) r.now
  · cases ok : r.accepts id <;> simp [due]
  · simp [due]

end Rounds

def SchedulerTick.Step (fromStr : String → Except String (Recurrence Int)) (s : SchedulerTick) (l : Tick)
    (s' : SchedulerTick) : Prop :=
  s.round fromStr l.round = (l.fires, s')

def lastStart (id : String) (started : Int) (ticks : List Tick) : Int := lastRound started (startsOf id ticks)

/-- What the cursor of a profile is after some rounds. Either it is the last accepted start, or the last
attempt was refused and its reason is still there. -/
structure Cursor (id : String) (schedule : Recurrence Int) (started : Int) (ticks : List Tick)
    (s : SchedulerTick) : Prop where
  startedAt : s.startedAt = started
  later : ∀ time ∈ startsOf id ticks, started ≤ time
  cursor : s.cursor id = lastStart id started ticks ∨
    s.cursor id = started ∧ ∃ l ∈ ticks, Due schedule (lastStart id started ticks) l.round.now

section Runs
variable {fromStr : String → Except String (Recurrence Int)} {id expr : String} {schedule : Recurrence Int}
  {started : Int} {ticks : List Tick} {s s' : SchedulerTick} {l : Tick}

theorem Cursor.ordered (holds : Cursor id schedule started ticks s)
    (ordered : (ticks.map (·.round.now)).Pairwise (· ≤ ·)) :
    (started :: startsOf id ticks).Pairwise (· ≤ ·) :=
  pairwise_cons.mpr ⟨holds.later, ordered.sublist (filter_sublist.map _)⟩

theorem Cursor.started_le (holds : Cursor id schedule started ticks s)
    (ordered : (ticks.map (·.round.now)).Pairwise (· ≤ ·)) : started ≤ lastStart id started ticks :=
  le_lastRound (holds.ordered ordered)

theorem Due.mono {last last' now now' : Int} (due : Due schedule last now) (before : last' ≤ last)
    (after : now ≤ now') : Due schedule last' now' := by
  obtain ⟨t, occurs, first, le⟩ := due
  exact ⟨t, occurs, lt_of_le_of_lt before first, le_trans le after⟩

theorem Cursor.due_iff (holds : Cursor id schedule started ticks s) {now : Int}
    (ordered : (ticks.map (·.round.now) ++ [now]).Pairwise (· ≤ ·)) :
    Due schedule (s.cursor id) now ↔ Due schedule (lastStart id started ticks) now := by
  rcases holds.cursor with eq | ⟨refused, earlier, mem, due⟩
  · rw [eq]
  · obtain ⟨sofar, -, before⟩ := pairwise_append.mp ordered
    have before : earlier.round.now ≤ now := before _ (mem_map_of_mem mem) now (mem_singleton.mpr rfl)
    rw [refused]
    exact iff_of_true (due.mono (holds.started_le sofar) before) (due.mono (le_refl _) before)

theorem Cursor.step (holds : Cursor id schedule started ticks s) (step : s.Step fromStr l s')
    (parsed : parseCron fromStr expr = .ok schedule) (stays : Stays id expr l.round.profiles)
    (ordered : (ticks.map (·.round.now) ++ [l.round.now]).Pairwise (· ≤ ·)) :
    Cursor id schedule started (ticks ++ [l]) s' := by
  obtain ⟨startedAt, attempts, cursor⟩ := round_one (s := s) parsed stays
  rw [step] at startedAt attempts cursor
  have due := holds.due_iff ordered
  have member : l.Attempts id ↔ Due schedule (lastStart id started ticks) l.round.now := attempts.trans due
  have startedAt : s'.startedAt = started := startedAt.trans holds.startedAt
  -- an accepted start uses its reason up, a refused one leaves it for the next round
  by_cases isDue : Due schedule (lastStart id started ticks) l.round.now
  · rw [if_pos (due.mpr isDue)] at cursor
    by_cases accepted : l.round.accepts id = true
    · have starts := startsOf_accepted ⟨member.mpr isDue, accepted⟩ ticks
      have start : started ≤ l.round.now := by
        obtain ⟨t, -, first, le⟩ := isDue
        have start := holds.started_le (pairwise_append.mp ordered).1
        omega
      refine ⟨startedAt, ?_, .inl ?_⟩
      · rw [starts]
        simpa [or_imp, forall_and, start] using holds.later
      · rw [lastStart, starts, lastRound_append, cursor, if_pos accepted]
    · have starts := startsOf_refused (fun tried => accepted tried.2) ticks
      refine ⟨startedAt, starts ▸ holds.later, .inr ⟨?_, l, by simp, ?_⟩⟩
      · rw [cursor, if_neg accepted, holds.startedAt]
      · rw [lastStart, starts]
        exact isDue
  · rw [if_neg fun h => isDue (due.mp h)] at cursor
    have starts := startsOf_refused (fun tried => isDue (member.mp tried.1)) ticks
    refine ⟨startedAt, starts ▸ holds.later, ?_⟩
    rw [cursor, lastStart, starts]
    refine holds.cursor.imp_right fun ⟨refused, earlier, mem, reason⟩ => ?_
    exact ⟨refused, earlier, mem_append_left _ mem, reason⟩

theorem cursor_run (parsed : parseCron fromStr expr = .ok schedule)
    (run : Run (SchedulerTick.Step fromStr) { startedAt := started } ticks s)
    (stays : ∀ l ∈ ticks, Stays id expr l.round.profiles)
    (ordered : (ticks.map (·.round.now)).Pairwise (· ≤ ·)) : Cursor id schedule started ticks s := by
  induction run with
  | nil => exact ⟨rfl, nofun, .inl rfl⟩
  | snoc _ step ih =>
    rw [map_append] at ordered
    refine (ih (fun l mem => stays l (mem_append_left _ mem)) ?_).step step parsed ?_ ordered
    · exact (pairwise_append.mp ordered).1
    · exact stays _ (mem_append_right _ (mem_singleton.mpr rfl))

/-- While a profile keeps its schedule, a round tries to start it exactly when something occurred since
the last start that was accepted. After the round everything that occurred has one accepted start, or
this round's start was refused, and then it is what occurred since the last one that waits. -/
theorem starts_cover (parsed : parseCron fromStr expr = .ok schedule)
    (run : Run (SchedulerTick.Step fromStr) { startedAt := started } ticks s) (step : s.Step fromStr l s')
    (stays : ∀ l' ∈ ticks ++ [l], Stays id expr l'.round.profiles)
    (ordered : ((ticks ++ [l]).map (·.round.now)).Pairwise (· ≤ ·)) :
    (l.Attempts id ↔ ∃ t, schedule.occurs t ∧ lastStart id started ticks < t ∧ t ≤ l.round.now) ∧
      (∀ t, schedule.occurs t → started < t → t ≤ l.round.now → covering t started (startsOf id (ticks ++ [l])) = 1 ∨
          l.Attempts id ∧ l.round.accepts id = false ∧ lastStart id started ticks < t) ∧
      ∀ t, covering t started (startsOf id (ticks ++ [l])) ≤ 1 := by
  have earlier : (ticks.map (·.round.now) ++ [l.round.now]).Pairwise (· ≤ ·) := by
    rwa [map_append] at ordered
  have before : Cursor id schedule started ticks s :=
    cursor_run parsed run (fun l' mem => stays l' (mem_append_left _ mem)) (pairwise_append.mp earlier).1
  have after : Cursor id schedule started (ticks ++ [l]) s' := cursor_run parsed (.snoc run step) stays ordered
  have attempts : l.Attempts id ↔ Due schedule (lastStart id started ticks) l.round.now := by
    have fired := (round_one (s := s) parsed (stays l (by simp))).2.1
    rw [step] at fired
    exact fired.trans (before.due_iff earlier)
  refine ⟨attempts, fun t occurs first le => ?_, fun t => by rw [covering_eq (after.ordered ordered)]; split <;> decide⟩
  rw [covering_eq (after.ordered ordered)]
  by_cases served : t ≤ lastRound started (startsOf id (ticks ++ [l]))
  · exact .inl (if_pos ⟨first, served⟩)
  · refine .inr ?_
    -- this round has not served it, so no start was accepted in it
    have notAccepted : ¬ (l.Attempts id ∧ l.round.accepts id) := by
      intro accepted
      rw [startsOf_accepted accepted, lastRound_append] at served
      exact served le
    rw [startsOf_refused notAccepted] at served
    have waiting : lastStart id started ticks < t := not_le.mp served
    have tried : l.Attempts id := attempts.mpr ⟨t, occurs, waiting, le⟩
    exact ⟨tried, by simpa [tried] using notAccepted, waiting⟩

end Runs

def hourly : Recurrence Int where
  occurs t := t % 3600000000000 = 0
  next t := some ((t / 3600000000000 + 1) * 3600000000000)
  next_occurs := by
    intro t u found
    cases found
    constructor <;> omega
  next_least := by
    intro t v occurs after
    exact ⟨_, rfl, by omega⟩

def docsProfile : BackupProfile :=
  { id := "docs", name := "docs", enabled := true, sources := ["/data"], target := .localPath "/srv",
    schedule := some "0 * * * *" }

def docsRound (minutes : Int) (accepted : Bool) : Round := ⟨[docsProfile], minutes * 60000000000, fun _ => accepted⟩

def docsTick (minutes : Int) (accepted : Bool) : Tick := ⟨docsRound minutes accepted, [("docs", 3600000000000)]⟩

theorem docs_refused : SchedulerTick.Step (fun _ => .ok hourly) { startedAt := 0 } (docsTick 60 false)
    (SchedulerTick.round (fun _ => .ok hourly) { startedAt := 0 } (docsRound 60 false)).2 :=
  Prod.ext (by decide +kernel) rfl

theorem docs_accepted : SchedulerTick.Step (fun _ => .ok hourly)
    (SchedulerTick.round (fun _ => .ok hourly) { startedAt := 0 } (docsRound 60 false)).2 (docsTick 61 true)
    (SchedulerTick.round (fun _ => .ok hourly)
      (SchedulerTick.round (fun _ => .ok hourly) { startedAt := 0 } (docsRound 60 false)).2 (docsRound 61 true)).2 :=
  Prod.ext (by decide +kernel) rfl

/-- A start that is refused at the full hour is tried again a minute later, where nothing has occurred since. -/
theorem refused_start_fires_again :
    (∃ s, Run (SchedulerTick.Step fun _ => .ok hourly) { startedAt := 0 } [docsTick 60 false, docsTick 61 true] s) ∧
      (docsTick 60 false).Attempts "docs" ∧ (docsTick 61 true).Attempts "docs" ∧
      ¬ ∃ t, hourly.occurs t ∧ (docsTick 60 false).round.now < t ∧ t ≤ (docsTick 61 true).round.now := by
  refine ⟨⟨_, .snoc (.snoc (.nil _) docs_refused) docs_accepted⟩, by decide, by decide, ?_⟩
  rintro ⟨t, occurs, first, le⟩
  simp only [hourly, docsTick, docsRound] at occurs first le
  omega

theorem starts_cover_after_refusal : (docsTick 61 true).Attempts "docs" ∧
      covering 3600000000000 0 (startsOf "docs" [docsTick 60 false, docsTick 61 true]) = 1 := by
  have stays : ∀ l ∈ [docsTick 60 false] ++ [docsTick 61 true], Stays "docs" "0 * * * *" l.round.profiles := by
    decide
  have parsed : parseCron (fun _ => .ok hourly) "0 * * * *" = .ok hourly := rfl
  obtain ⟨attempts, served, -⟩ := starts_cover parsed (.snoc (.nil _) docs_refused) docs_accepted stays (by decide)
  have onTheHour : hourly.occurs 3600000000000 := rfl
  have tried : (docsTick 61 true).Attempts "docs" := attempts.mpr ⟨3600000000000, onTheHour, by decide, by decide⟩
  refine ⟨tried, (served 3600000000000 onTheHour (by decide) (by decide)).resolve_right ?_⟩
  rintro ⟨-, refused, -⟩
  cases refused

end NastyEngine.Backup
