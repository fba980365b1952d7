import NastyEngine.Updates.Transaction

/-!
From the traps on, the backup and the variables say how to go back (`Safe`), so the rollback restores
everything but the version file, and but for two moments: when the marker is there and the variables do
not say so, and when it is gone and they do not say that.
-/

namespace NastyEngine.Updates
open Lib Shell List

variable {a : Answers} {s u : State}

structure Safe (s u : State) : Prop where
  trapped : u.trapped = true
  live : u.liveMutated = false → u.live = s.live
  backup : u.liveMutated = true → u.backup = s.live
  current : u.profileMutated = false → u.current = s.current
  oldGeneration : u.oldGeneration = s.current
  oldSystem : u.oldSystem = s.running
  mutated : u.profileMutated = true → u.liveMutated = true
  generations : ∀ (n : Nat) (closure : String), s.generations[n]? = some closure → u.generations[n]? = some closure

theorem rollback_keeps {detach : Bool} {u : State} :
    (rollback a detach u).version = u.version ∧ (rollback a detach u).generations = u.generations := by
  simp only [rollback, activateSystem, recover]
  repeat' split
  all_goals exact ⟨rfl, rfl⟩

theorem rollback_current (safe : Safe s u) (detach : Bool) : (rollback a detach u).current = s.current := by
  cases profile : u.profileMutated with
  | false =>
    have kept : (rollback a detach u).current = u.current := by
      simp only [rollback, profile]
      repeat' split
      all_goals simp_all
    exact kept.trans (safe.current profile)
  | true =>
    have back : (rollback a detach u).current = u.oldGeneration := by
      simp only [rollback, activateSystem, recover, profile]
      repeat' split
      all_goals simp_all
    exact back.trans safe.oldGeneration

theorem rollback_marker (detach : Bool) (u : State) :
    (rollback a detach u).marker = (u.marker && !u.markerSet && !u.profileMutated) := by
  cases profile : u.profileMutated <;> cases set : u.markerSet <;> cases live : u.liveMutated <;>
    cases eq : u.marker <;> simp [rollback, activateSystem, recover, profile, set, live, eq]

theorem rollback_live (safe : Safe s u) (detach : Bool) : (rollback a detach u).live =
    if u.profileMutated && u.markerSet && !u.marker then (a.snapshot s.running).getD s.live else s.live := by
  cases profile : u.profileMutated with
  | false =>
    cases live : u.liveMutated with
    | false =>
      rw [← safe.live live]
      cases set : u.markerSet <;> simp [rollback, profile, live, set]
    | true =>
      rw [← safe.backup live]
      cases set : u.markerSet <;> simp [rollback, profile, live, set]
  | true =>
    have live := safe.mutated profile
    rw [← safe.backup live, ← safe.oldSystem]
    cases set : u.markerSet <;> cases eq : u.marker <;>
      simp [rollback, activateSystem, recover, profile, live, set, eq]

theorem safe_restored (safe : Safe s u) {cause : Cause} : Restored s (aftermath a cause u) ↔ Clean a s u := by
  rw [aftermath, Clean, if_pos safe.trapped, if_pos safe.trapped]
  have live := rollback_live (a := a) safe (cause = .signal)
  have marker := rollback_marker (a := a) (cause = .signal) u
  constructor
  · intro restored
    refine ⟨(rollback_keeps).1.symm.trans restored.version, ?_, ?_⟩
    · intro eq
      have gone := marker.symm.trans restored.marker
      cases set : u.markerSet <;> cases profile : u.profileMutated <;> simp_all
    · intro profile set gone
      rw [profile, set, gone] at live
      exact live.symm.trans restored.live
  · rintro ⟨version, known, recovered⟩
    refine ⟨?_, rollback_current safe _, ?_, (rollback_keeps).1.trans version, ?_⟩
    · rw [live]
      split
      next lost =>
        simp only [Bool.and_eq_true, Bool.not_eq_true'] at lost
        exact recovered lost.1.1 lost.1.2 lost.2
      · rfl
    · rw [(rollback_keeps).2]
      exact safe.generations
    · rw [marker]
      cases eq : u.marker with
      | false => rfl
      | true =>
        rcases known eq with set | profile
        · simp [set]
        · simp [profile]

structure Verified (a : Answers) (u : State) : Prop where
  passed : u.verified = true
  executable : a.executable u.result = true
  built : a.snapshot u.result = some u.stage

/-- It is decided whether everything is restored in the end, and the pair was not touched before the
staged build was verified. -/
structure Settled (a : Answers) (s : State) (cause : Cause) (u : State) : Prop where
  restored : Restored s (aftermath a cause u) ↔ Clean a s u
  verified : u.live ≠ s.live → Verified a u

structure Idle (s u : State) : Prop where
  trapped : u.trapped = false
  liveMutated : u.liveMutated = false
  profileMutated : u.profileMutated = false
  live : u.live = s.live
  generations : u.generations = s.generations
  current : u.current = s.current
  running : u.running = s.running
  version : u.version = s.version

theorem Idle.settled (idle : Idle s u) (cause : Cause) : Settled a s cause u := by
  refine ⟨?_, fun changed => absurd idle.live changed⟩
  rw [aftermath, Clean, if_neg (by simp [idle.trapped]), if_neg (by simp [idle.trapped])]
  constructor
  · exact fun restored => ⟨restored.marker, fun mutated => by simp [idle.liveMutated] at mutated⟩
  · rintro ⟨unmarked, -⟩
    exact ⟨idle.live, idle.current, fun n closure known => by rwa [idle.generations], idle.version, unmarked⟩

structure Held (s u : State) : Prop extends Safe s u where
  untouched : u.liveMutated = false
  unset : u.profileMutated = false

theorem Held.settled (held : Held s u) (cause : Cause) : Settled a s cause u :=
  ⟨safe_restored held.toSafe, fun changed => absurd (held.live held.untouched) changed⟩

structure Ready (a : Answers) (s u : State) : Prop extends Safe s u where
  saved : u.backup = s.live
  verified : Verified a u

theorem Ready.settled (ready : Ready a s u) (cause : Cause) : Settled a s cause u :=
  ⟨safe_restored ready.toSafe, fun _ => ready.verified⟩

variable {c : Command} {commands : List Command}

section Segments
variable {I : State → Prop}

def Command.IsLook : Command → Prop
  | .look _ => True
  | _ => False

theorem Command.IsLook.still {t : State} (look : c.IsLook) : (step a c u = some t → u = t) ∧ (Spoiled c u t → u = t) := by
  cases c with
  | look text => exact ⟨Option.some.inj, Eq.symm⟩
  | _ => exact look.elim

/-- From a state in the first set the commands lead to the second, or they are cut off in a settled state. -/
abbrev Steps (a : Answers) (s : State) : List Command → (State → Prop) → (State → Prop) → Prop :=
  (shell a).Settles (Settled a s)

theorem settles_looks (looks : ∀ c ∈ commands, c.IsLook)
    (settled : ∀ {u}, I u → ∀ cause, Settled a s cause u) : Steps a s commands I I := by
  apply Settles.all fun u inv => settled inv .signal
  intro c mem u t inv
  obtain ⟨done, spoiled⟩ := (looks c mem).still (a := a) (u := u) (t := t)
  exact ⟨fun stepped => done stepped ▸ inv, fun failed => spoiled failed ▸ settled inv .error⟩

theorem when_looks {condition : Bool} (looks : ∀ c ∈ commands, c.IsLook) : ∀ c ∈ when condition commands, c.IsLook := by
  intro c mem
  rw [when] at mem
  split at mem
  · exact looks c mem
  · cases mem

variable {M : State → Prop}

theorem settles_one (settled : ∀ {u}, I u → ∀ cause, Settled a s cause u)
    (done : ∀ u t, I u → step a c u = some t → M t) (spoiled : ∀ u t, I u → Spoiled c u t → Settled a s .error t) :
    Steps a s [c] I M :=
  .cons (fun _ inv => settled inv .signal) done spoiled (.nil fun _ inv => inv)

variable {f : State → State}

theorem settles_test {P : State → Prop} [DecidablePred P] (tests : ∀ u, step a c u = if P u then some (f u) else none)
    (settled : ∀ {u}, I u → ∀ cause, Settled a s cause u) (done : ∀ u, I u → P u → M (f u))
    (clean : ∀ u t, Spoiled c u t → t = u := by exact fun _ _ same => same) :
    Steps a s [c] I M := by
  apply settles_one settled
  · intro u t inv stepped
    rw [tests u] at stepped
    split at stepped
    · cases stepped
      exact done u inv ‹_›
    · cases stepped
  · intro u t inv spoiled
    exact clean u t spoiled ▸ settled inv .error

theorem settles_set (steps : ∀ u, step a c u = some (f u)) (settled : ∀ {u}, I u → ∀ cause, Settled a s cause u)
    (done : ∀ u, I u → M (f u)) (clean : ∀ u t, Spoiled c u t → t = u := by exact fun _ _ same => same) :
    Steps a s [c] I M :=
  settles_test (P := fun _ => True) (fun u => (steps u).trans (if_pos trivial).symm) settled
    (fun u inv _ => done u inv) clean

end Segments

/-! #### Before the traps -/

structure Primed (s u : State) : Prop extends Idle s u where
  oldSystem : u.oldSystem = s.running
  oldGeneration : u.oldGeneration = s.current

theorem Primed.held (primed : Primed s u) : Held s { u with trapped := true } :=
  { trapped := rfl
    live := fun _ => primed.live
    backup := fun mutated => absurd (primed.liveMutated.symm.trans mutated) Bool.false_ne_true
    current := fun _ => primed.current
    oldGeneration := primed.oldGeneration
    oldSystem := primed.oldSystem
    mutated := fun mutated => absurd (primed.profileMutated.symm.trans mutated) Bool.false_ne_true
    generations := fun n closure known => by
      rw [primed.generations]
      exact known
    untouched := primed.liveMutated
    unset := primed.profileMutated }

theorem header_settles : Steps a s (header ++ [.trap true]) (Idle s) (Held s) := by
  have known : ∀ {u}, Idle s u ∧ u.oldSystem = s.running → ∀ cause, Settled a s cause u := fun known => known.1.settled
  have primed : ∀ {u}, Primed s u → ∀ cause, Settled a s cause u := fun primed => primed.toIdle.settled
  have parts : header ++ [.trap true] =
      header.take 2 ++ ([.readOldSystem] ++ ([header[3]] ++ ([.testProfileSystem] ++ ([.readOldGeneration] ++
        (header.drop 6 ++ [.trap true]))))) := rfl
  rw [parts]
  apply Settles.append (settles_looks (by simp [header, Command.IsLook]) Idle.settled)
  apply Settles.append (M := fun u => Idle s u ∧ u.oldSystem = s.running)
  · exact settles_set (fun _ => rfl) Idle.settled fun _ inv => ⟨{ inv with }, inv.running⟩
  apply Settles.append (settles_looks (by simp [header, Command.IsLook]) known)
  apply Settles.append (M := fun u => Idle s u ∧ u.oldSystem = s.running)
  · exact settles_test (fun _ => rfl) known fun _ inv _ => inv
  apply Settles.append (M := Primed s)
  · exact settles_set (fun _ => rfl) known fun _ inv =>
      { inv.1 with oldSystem := inv.2, oldGeneration := inv.1.current }
  apply Settles.append (settles_looks (by simp [header, Command.IsLook]) primed)
  exact settles_set (fun _ => rfl) primed fun _ inv => inv.held

/-! #### Up to the verified build -/

structure Saved (s u : State) : Prop extends Held s u where
  saved : u.backup = s.live

def Command.Prepares : Command → Prop
  | .look _ | .copyLive | .stageBackup _ | .writeCandidate | .updateSteps | .build => True
  | _ => False

variable {stage : Files String}

theorem Saved.of_work {result : String} (saved : Saved s u) : Saved s { u with stage, result } := { saved with }

theorem prepares_settles (prepare : ∀ c ∈ commands, c.Prepares) : Steps a s commands (Saved s) (Saved s) := by
  apply Settles.all fun u saved => saved.toHeld.settled .signal
  intro c mem u t saved
  have prepares := prepare c mem
  cases c with
  | look text => exact ⟨fun stepped => Option.some.inj stepped ▸ saved, fun same => same ▸ saved.toHeld.settled _⟩
  | copyLive | stageBackup file | writeCandidate | updateSteps =>
    refine ⟨?_, ?_⟩
    · rintro ⟨⟩
      exact saved.of_work
    · rintro ⟨stage, rfl⟩
      exact saved.of_work.toHeld.settled _
  | build =>
    refine ⟨?_, ?_⟩
    · rintro ⟨⟩
      exact saved.of_work
    · rintro ⟨result, rfl⟩
      exact saved.of_work.toHeld.settled _
  | _ => exact prepares.elim

theorem Held.of_backup {backup : Files String} (held : Held s u) : Held s { u with backup } :=
  { held with backup := fun mutated => absurd (held.untouched.symm.trans mutated) Bool.false_ne_true }

theorem backup_settles : Steps a s (staging.take 3) (Held s) (Saved s) := by
  have parts : staging.take 3 = staging.take 1 ++ ([.backup .nix] ++ [.backup .lock]) := rfl
  rw [parts]
  apply Settles.append (settles_looks (by simp [staging, Command.IsLook]) Held.settled)
  apply Settles.append (M := fun u => Held s u ∧ u.backup.nix = s.live.nix)
  · apply settles_one Held.settled
    · rintro u t inv ⟨⟩
      have nix : u.live.nix = s.live.nix := congrArg Files.nix (inv.live inv.untouched)
      exact ⟨inv.of_backup, nix⟩
    · rintro u t inv ⟨files, rfl⟩
      exact inv.of_backup.settled _
  · apply settles_one fun inv => inv.1.settled
    · rintro u t ⟨inv, nix⟩ ⟨⟩
      refine ⟨inv.of_backup, ?_⟩
      have lock := congrArg Files.lock (inv.live inv.untouched)
      show Files.mk u.backup.nix u.live.lock = s.live
      rw [nix, lock]
    · rintro u t ⟨inv, _⟩ ⟨files, rfl⟩
      exact inv.of_backup.settled _

theorem built_of_parts {files : Option (Files String)}
    (nix : files.map (·.get .nix) = some (stage.get .nix)) (lock : files.map (·.get .lock) = some (stage.get .lock)) :
    files = some stage := by
  obtain ⟨both, rfl, sameNix⟩ := Option.map_eq_some_iff.mp nix
  have sameLock : both.lock = stage.lock := Option.some.inj lock
  rw [← show Files.mk both.nix both.lock = both from rfl, show both.nix = stage.nix from sameNix, sameLock]

theorem verifying_settles : Steps a s verifying (Saved s) (Ready a s) := by
  have parts : verifying = [.testExecutable] ++ ([.compareResult .nix] ++ [.compareResult .lock]) := rfl
  rw [parts]
  apply Settles.append (M := fun u => Saved s u ∧ a.executable u.result = true)
  · exact settles_test (fun _ => rfl) (·.toHeld.settled) fun _ inv passed => ⟨inv, passed⟩
  apply Settles.append (M := fun u => (Saved s u ∧ a.executable u.result = true) ∧
    (a.snapshot u.result).map (·.get .nix) = some (u.stage.get .nix))
  · apply settles_test (fun _ => rfl) (·.1.toHeld.settled)
    exact fun u inv eq => ⟨⟨{ inv.1 with }, inv.2⟩, eq⟩
  · apply settles_test (fun _ => rfl) (·.1.1.toHeld.settled)
    rintro u ⟨⟨inv, executable⟩, nix⟩ lock
    exact { inv with verified := ⟨rfl, executable, built_of_parts nix lock⟩ }

/-! #### From the marker to the health checks -/

section
variable (a : Answers) (s u : State)

structure Touching : Prop extends Ready a s u where
  touched : u.liveMutated = true

structure Switching : Prop extends Touching a s u where
  switches : u.profileMutated = true

structure Switched : Prop extends Switching a s u where
  switched : u.generations[u.current]? = some u.result

/-- `HEALTHY` is true only after a round that found it so. -/
structure Checking : Prop extends Switched a s u where
  checked : u.healthy = true → ∃ round < 60, a.healthyAt round = true

/-- The new system is in place and has been found healthy. -/
structure Passed : Prop extends Switched a s u where
  passed : ∃ round < 60, a.healthyAt round = true

structure Closed : Prop extends Passed a s u where
  unmarked : u.marker = false

structure Compared : Prop extends Closed a s u where
  installed : u.live = u.stage

end

section
variable {live : Files String} {running : String}

/-- The way back does not lead over the marker, the health and the version. -/
theorem Ready.of_rest {marker markerSet healthy : Bool} {version : String} (ready : Ready a s u) :
    Ready a s { u with marker, markerSet, healthy, version } :=
  { ready with verified := { ready.verified with } }

theorem Touching.of_live {temp : Files (Option String)} (inv : Touching a s u) :
    Touching a s { u with live, temp, running } :=
  { inv with
    live := fun untouched => absurd (inv.touched.symm.trans untouched) Bool.false_ne_true.symm
    verified := { inv.verified with } }

theorem Switched.of_live (inv : Switched a s u) : Switched a s { u with live, running } :=
  { inv.toTouching.of_live, inv with }

theorem Switching.of_profile {more : List String} {current : Nat} (inv : Switching a s u) :
    Switching a s { u with generations := u.generations ++ more, current } :=
  { inv with
    current := fun untouched => absurd (inv.switches.symm.trans untouched) Bool.false_ne_true.symm
    generations := fun n closure known => by
      have kept := inv.generations n closure known
      obtain ⟨inv, _⟩ := List.getElem?_eq_some_iff.mp kept
      exact (getElem?_append_left inv).trans kept
    verified := { inv.verified with } }

end

theorem committing_settles : Steps a s committing (Ready a s) (Touching a s) := by
  have parts : committing = [.createMarker] ++ ([.assignMarkerSet true] ++ [.assignLiveMutated]) := rfl
  rw [parts]
  apply Settles.append (M := Ready a s)
  · apply settles_one Ready.settled
    · rintro u t inv ⟨⟩
      exact inv.of_rest
    · rintro u t inv ⟨there, rfl⟩
      exact inv.of_rest.settled _
  apply Settles.append (M := Ready a s)
  · exact settles_set (fun _ => rfl) Ready.settled fun _ inv => inv.of_rest
  exact settles_set (fun _ => rfl) Ready.settled fun _ inv => { inv with
    live := nofun, backup := fun _ => inv.saved, mutated := fun _ => rfl, verified := { inv.verified with }, touched := rfl }

theorem installPair_settles : Steps a s installPair (Touching a s) (Touching a s) := by
  apply Settles.all fun u inv => inv.toReady.settled .signal
  intro c member u t inv
  obtain ⟨file, rfl | rfl⟩ : ∃ file, c = .installNew file ∨ c = .moveNew file := by
    simp only [installPair, mem_cons, not_mem_nil, or_false] at member
    rcases member with rfl | rfl | rfl | rfl
    · exact ⟨.nix, .inl rfl⟩
    · exact ⟨.lock, .inl rfl⟩
    · exact ⟨.nix, .inr rfl⟩
    · exact ⟨.lock, .inr rfl⟩
  · refine ⟨?_, ?_⟩
    · rintro ⟨⟩
      exact inv.of_live
    · rintro ⟨files, rfl⟩
      exact inv.of_live.toReady.settled _
  · refine ⟨?_, ?_⟩
    · intro done
      simp only [shell, step] at done
      split at done
      · cases done
        exact inv.of_live
      · cases done
    · rintro ⟨files, temp, rfl⟩
      exact inv.of_live.toReady.settled _

theorem recover_eq (u : State) : recover a u = { u with live := (recover a u).live } := by
  rw [recover]
  split <;> rfl

theorem healthRound_mem {healthy : Bool} (member : c ∈ healthRound a healthy) :
    c.IsLook ∨ c = .assignHealthy true ∧ healthy = true := by
  simp only [healthRound, when, mem_append] at member
  rcases member with ((first | second) | third) | last
  · rw [mem_singleton.mp first]
    exact .inl trivial
  · split at second
    · simp only [mem_cons, not_mem_nil, or_false] at second
      rcases second with rfl | rfl <;> exact .inl trivial
    · cases second
  · simp only [mem_cons, not_mem_nil, or_false] at third
    rcases third with rfl | rfl <;> exact .inl trivial
  · split at last
    next passed => exact .inr ⟨mem_singleton.mp last, passed⟩
    · rw [mem_singleton.mp last]
      exact .inl trivial

theorem healthLoop_mem {rounds k : Nat} (mem : c ∈ healthLoop a rounds k) :
    c.IsLook ∨ c = .assignHealthy true ∧ ∃ round < k + rounds, a.healthyAt round = true := by
  induction rounds generalizing k with
  | zero => cases mem
  | succ rounds ih =>
    rcases mem_append.mp mem with first | later
    · refine (healthRound_mem first).imp_right fun ⟨eq, passed⟩ => ⟨eq, k, by omega, passed⟩
    · split at later
      · cases later
      · refine (ih later).imp_right fun ⟨eq, round, lt, passed⟩ => ⟨eq, round, by omega, passed⟩

theorem healthLoop_settles : Steps a s (healthLoop a 60 0) (Checking a s) (Checking a s) := by
  apply Settles.all fun u inv => inv.toReady.settled .signal
  intro c mem u t inv
  rcases healthLoop_mem mem with look | ⟨rfl, passed⟩
  · obtain ⟨done, spoiled⟩ := look.still (a := a) (u := u) (t := t)
    exact ⟨fun stepped => done stepped ▸ inv, fun failed => spoiled failed ▸ inv.toReady.settled _⟩
  · refine ⟨?_, ?_⟩
    · rintro ⟨⟩
      exact { inv with verified := { inv.verified with }, checked := fun _ => passed }
    · rintro rfl
      exact inv.toReady.settled _

theorem activating_settles : Steps a s (activating a) (Touching a s) (Passed a s) := by
  have parts : activating a = [.assignProfileMutated] ++ ([.setProfile] ++ ([.activate] ++ ([.assignHealthy false] ++
      (healthLoop a 60 0 ++ [.testHealthy])))) := by
    simp [activating]
  rw [parts]
  apply Settles.append (M := Switching a s)
  · apply settles_set (fun _ => rfl) (·.toReady.settled)
    intro u inv
    exact { inv with current := nofun, mutated := fun _ => inv.touched, verified := { inv.verified with }, switches := rfl }
  apply Settles.append (M := Switched a s)
  · apply settles_one (·.toReady.settled)
    · intro u t inv done
      simp only [step] at done
      split at done
      next eq =>
        cases done
        exact ⟨inv, eq⟩
      · cases done
        exact ⟨inv.of_profile, getElem?_concat_length⟩
    · rintro u t inv ⟨more, current, rfl⟩
      exact inv.of_profile.toReady.settled _
  apply Settles.append (M := Switched a s)
  · apply settles_one (·.toReady.settled)
    · rintro u t inv ⟨⟩
      rw [activateSystem, recover_eq]
      exact inv.of_live
    · rintro u t inv ⟨running, files, _, rfl⟩
      exact inv.of_live.toReady.settled _
  apply Settles.append (M := Checking a s)
  · apply settles_set (fun _ => rfl) (·.toReady.settled)
    exact fun u inv => { inv with verified := { inv.verified with }, checked := nofun }
  apply Settles.append healthLoop_settles
  exact settles_test (fun _ => rfl) (·.toReady.settled) fun _ inv healthy => { inv with passed := inv.checked healthy }

/-! #### To the end -/

theorem closing_settles : Steps a s closing (Passed a s) (Compared a s) := by
  have parts : closing = [.removeMarker] ++ ([.assignMarkerSet false] ++ ([.restartRecovery] ++
      ([.compareLive .nix] ++ [.compareLive .lock]))) := rfl
  rw [parts]
  apply Settles.append (M := Closed a s)
  · apply settles_one (·.toReady.settled)
    · rintro u t inv ⟨⟩
      exact { inv with verified := { inv.verified with }, unmarked := rfl }
    · rintro u t inv ⟨there, rfl⟩
      exact inv.toReady.of_rest.settled _
  apply Settles.append (M := Closed a s)
  · exact settles_set (fun _ => rfl) (·.toReady.settled) fun _ inv => { inv with verified := { inv.verified with } }
  apply Settles.append (M := Closed a s)
  · apply settles_one (·.toReady.settled)
    · rintro u t inv ⟨⟩
      rw [recover_eq]
      exact { inv.toSwitched.of_live, inv with }
    · rintro u t inv ⟨files, rfl⟩
      exact inv.toSwitched.of_live.toReady.settled _
  apply Settles.append (M := fun u => Closed a s u ∧ u.live.nix = u.stage.nix)
  · exact settles_test (fun _ => rfl) (·.toReady.settled) fun _ inv eq => ⟨inv, eq⟩
  · apply settles_test (fun _ => rfl) (·.1.toReady.settled)
    rintro u ⟨inv, nix⟩ lock
    refine ⟨inv, ?_⟩
    rw [← show Files.mk u.live.nix u.live.lock = u.live from rfl, nix, show u.live.lock = u.stage.lock from lock]

theorem successSteps_settles : Steps a s (successSteps a) (Compared a s) (Compared a s) := by
  apply Settles.append (settles_looks (when_looks (by simp [Command.IsLook])) (·.toReady.settled))
  cases a.newVersion with
  | none => exact .nil fun _ inv => inv
  | some text =>
    apply settles_one (·.toReady.settled)
    · rintro u t inv ⟨⟩
      exact { inv with verified := { inv.verified with } }
    · rintro u t inv ⟨version, rfl⟩
      exact inv.toReady.of_rest.settled _

structure Finished (a : Answers) (s u : State) : Prop extends Updated a u where
  trapped : u.trapped = false
  mutated : u.liveMutated = true
  generations : ∀ (n : Nat) (closure : String), s.generations[n]? = some closure → u.generations[n]? = some closure
  verified : Verified a u

theorem Finished.settled (finished : Finished a s u) (cause : Cause) : Settled a s cause u := by
  refine ⟨?_, fun _ => finished.verified⟩
  rw [aftermath, Clean, if_neg (by simp [finished.trapped]), if_neg (by simp [finished.trapped]), ← finished.live]
  constructor
  · exact fun restored => ⟨finished.marker, fun _ => ⟨restored.live, restored.current, restored.version⟩⟩
  · rintro ⟨-, unchanged⟩
    obtain ⟨live, current, version⟩ := unchanged finished.mutated
    exact ⟨live, current, finished.generations, version, finished.marker⟩

theorem trapOff_settles : Steps a s [.trap false] (Compared a s) (Finished a s) := by
  apply settles_set (fun _ => rfl) (·.toReady.settled)
  intro u inv
  exact ⟨⟨inv.installed, inv.switched, inv.verified.executable, inv.verified.built, inv.passed, inv.unmarked⟩, rfl,
    inv.touched, inv.generations, { inv.verified with }⟩

theorem Command.IsLook.prepares (look : c.IsLook) : c.Prepares := by
  cases c <;> trivial

theorem tailscaleBefore_looks (a : Answers) : ∀ c ∈ tailscaleBefore a, c.IsLook := by
  have tries : ∀ c ∈ List.replicate a.tailscaleTries (Command.look "tailscale status --json"), c.IsLook := by
    intro c mem
    rw [(mem_replicate.mp mem).2]
    trivial
  refine forall_mem_append.mpr ⟨forall_mem_append.mpr ⟨by simp [Command.IsLook], ?_⟩, by simp [Command.IsLook]⟩
  apply when_looks
  refine forall_mem_append.mpr ⟨forall_mem_append.mpr ⟨tries, by simp [Command.IsLook]⟩, ?_⟩
  exact when_looks (by simp [Command.IsLook])

theorem healthTargets_looks (a : Answers) : ∀ c ∈ healthTargets a, c.IsLook := by
  refine forall_mem_append.mpr ⟨forall_mem_append.mpr ⟨by simp [Command.IsLook], ?_⟩, ?_⟩
  · exact when_looks (by simp [Command.IsLook])
  · split
    · simp [Command.IsLook]
    · exact forall_mem_append.mpr ⟨by simp [Command.IsLook], when_looks (by simp [Command.IsLook])⟩

theorem webuiAfter_looks (a : Answers) : ∀ c ∈ webuiAfter a, c.IsLook :=
  forall_mem_append.mpr ⟨by simp [Command.IsLook], when_looks (by simp [Command.IsLook])⟩

theorem cleanup_looks (a : Answers) : ∀ c ∈ cleanup a, c.IsLook :=
  forall_mem_append.mpr ⟨when_looks (by simp [Command.IsLook]), by simp [Command.IsLook]⟩

theorem preparing_settles : Steps a s (staging ++ tailscaleBefore a ++ building a) (Held s) (Saved s) := by
  have parts : staging ++ tailscaleBefore a ++ building a =
      staging.take 3 ++ (staging.drop 3 ++ tailscaleBefore a ++ building a) := rfl
  rw [parts]
  apply Settles.append backup_settles
  apply prepares_settles
  intro c member
  simp only [mem_append] at member
  rcases member with (copied | looked) | built
  · simp only [staging, List.drop, mem_cons, not_mem_nil, or_false] at copied
    rcases copied with rfl | rfl | rfl | rfl <;> trivial
  · exact (tailscaleBefore_looks a c looked).prepares
  · rcases mem_append.mp built with spilled | rest
    · exact (when_looks (by simp [Command.IsLook]) c spilled).prepares
    · simp only [mem_cons, not_mem_nil, or_false] at rest
      rcases rest with rfl | rfl | rfl | rfl <;> trivial

theorem script_settles : Steps a s (script a) (Idle s) (Finished a s) := by
  have verified := Settles.append (preparing_settles (a := a) (s := s)) verifying_settles
  have prepared := Settles.append verified (settles_looks (healthTargets_looks a) Ready.settled)
  have touched := Settles.append (.append header_settles prepared) committing_settles
  have installed := Settles.append touched installPair_settles
  have healthy := Settles.append installed activating_settles
  have closed := Settles.append healthy closing_settles
  have asked := Settles.append closed (settles_looks (webuiAfter_looks a) (·.toReady.settled))
  have recorded := Settles.append asked successSteps_settles
  exact .append (.append recorded trapOff_settles) (settles_looks (cleanup_looks a) Finished.settled)

theorem Fresh.idle (fresh : Fresh s) : Idle s s :=
  ⟨fresh.trapped, fresh.liveMutated, fresh.profileMutated, rfl, rfl, rfl, rfl, rfl⟩

/-- **A finished transaction has the staged pair live, the profile at a closure that was verified against it,
services that a round of the health loop found healthy, and no marker. One that is cut off, wherever and by
whatever, ends in what was there before exactly if it is cut off in a clean state, and has not touched the pair
before the staged build was verified.** -/
theorem transaction_settles (a : Answers) (s : State) (fresh : Fresh s) :
    (∀ e, (shell a).run (script a) s = some e → Updated a e) ∧ ∀ cause u, (shell a).Cut (script a) s cause u →
        (Restored s (aftermath a cause u) ↔ Clean a s u) ∧ (u.live ≠ s.live → Verified a u) := by
  obtain ⟨ends, cuts⟩ := script_settles (a := a) s fresh.idle
  refine ⟨fun e ran => (ends e ran).toUpdated, ?_⟩
  intro cause u cut
  have settled := cuts cause u cut
  exact ⟨settled.restored, settled.verified⟩

def smoothUpdate : Answers where
  candidate := "nix 2"
  updatedLock := "lock 2"
  closure := "system 2"
  executable closure := closure == "system 2"
  snapshot closure := if closure = "system 2" then some ⟨"nix 2", "lock 2"⟩ else none
  tracksBranch := false
  newVersion := some "v2"
  spillover := false
  tailscaleActive := false
  tailscaleTries := 0
  tailscaleRunning := false
  expectedCommit := false
  healthFile := true
  caddyfile := false
  caddyRequired := false
  engineOk round := round == 1
  caddyOk _ := false
  previousIp _ := false
  webuiChanged := false

def firstSystem : State :=
  { live := ⟨"nix 1", "lock 1"⟩, generations := ["system 1"], current := 0, running := "system 1", version := "v1",
    marker := false }

theorem firstSystem_fresh : Fresh firstSystem := ⟨rfl, rfl, rfl, rfl, rfl⟩

def markerMade : State :=
  { firstSystem with
    stage := ⟨"nix 2", "lock 2"⟩, backup := ⟨"nix 1", "lock 1"⟩, result := "system 2", oldSystem := "system 1",
    trapped := true, verified := true, marker := true }

theorem markerMade_cut : (shell smoothUpdate).Cut (script smoothUpdate) firstSystem .signal markerMade := by
  have ran : (shell smoothUpdate).run ((script smoothUpdate).take 34) firstSystem = some markerMade := by
    decide +kernel
  have whole : script smoothUpdate =
      (script smoothUpdate).take 34 ++ .assignMarkerSet true :: (script smoothUpdate).drop 35 := by decide +kernel
  rw [whole]
  exact cut_of_run ran

theorem transaction_settles_smoothly :
    ∃ e, (shell smoothUpdate).run (script smoothUpdate) firstSystem = some e ∧ Updated smoothUpdate e := by
  obtain ⟨e, ran⟩ : ∃ e, (shell smoothUpdate).run (script smoothUpdate) firstSystem = some e :=
    Option.isSome_iff_exists.mp (by decide +kernel)
  exact ⟨e, ran, (transaction_settles smoothUpdate firstSystem firstSystem_fresh).1 e ran⟩

/-- **A signal right after the marker has been made: the rollback leaves it there.** -/
theorem transaction_leaves_marker : Fresh firstSystem ∧ firstSystem.marker = false ∧
      (shell smoothUpdate).Cut (script smoothUpdate) firstSystem .signal markerMade ∧
      (aftermath smoothUpdate .signal markerMade).marker = true ∧
      ¬ Restored firstSystem (aftermath smoothUpdate .signal markerMade) := by
  have left : (aftermath smoothUpdate .signal markerMade).marker = true := by decide
  refine ⟨firstSystem_fresh, rfl, markerMade_cut, left, ?_⟩
  intro restored
  exact absurd (left.symm.trans restored.marker) (by decide)

end NastyEngine.Updates
