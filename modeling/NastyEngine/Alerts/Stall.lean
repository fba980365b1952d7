import Mathlib.Algebra.Group.Nat.Defs
import Mathlib.Data.List.Infix
import NastyEngine.Lib.Keyed
import NastyEngine.Rust.Text

/-!
When a stall is reported, by the samples alone.
-/

namespace NastyEngine.Alerts
open Lib Rust

structure ReconcileProgress where
  keysMoved : Nat
  bytesSeen : Nat
  bytesMoved : Nat
  deriving DecidableEq

inductive ReconcileProgressSample where
  | available (progress : Option ReconcileProgress)
  | unavailable
  deriving DecidableEq

structure ReconcileTrackerEntry where
  pending : String
  progress : ReconcileProgressSample
  unchangedSince : Nat

abbrev Tracker := Keyed String ReconcileTrackerEntry

structure ReconcileSample where
  pending : Option String
  active : Bool

def reconcileStallCheckAt (fsName : String) (sample : ReconcileSample) (progress : ReconcileProgressSample)
    (now window : Nat) (tracker : Tracker) : Bool × Tracker :=
  match sample.pending.filter fun _ => !sample.active with
  | none => (false, tracker.erase fsName)
  | some fingerprint =>
    match tracker.lookup fsName with
    | none => (false, tracker.insert fsName ⟨fingerprint, progress, now⟩)
    | some previous =>
      if previous.pending ≠ fingerprint then (false, tracker.insert fsName ⟨fingerprint, progress, now⟩)
      else if progress = .unavailable then (false, tracker)
      else if previous.progress = progress then (window ≤ now - previous.unchangedSince, tracker)
      else (false, tracker.insert fsName { previous with progress, unchangedSince := now })

structure Observed where
  fsName : String
  sample : ReconcileSample
  progress : ReconcileProgressSample
  now : Nat

namespace Observed

def check (o : Observed) (window : Nat) (tracker : Tracker) : Bool × Tracker :=
  reconcileStallCheckAt o.fsName o.sample o.progress o.now window tracker

/-- The work that is pending, if the worker is not at it. -/
def waiting (o : Observed) : Option String := o.sample.pending.filter fun _ => !o.sample.active

end Observed

/-- The tracker after the samples `past`, the latest of which is the first. -/
def tracked (window : Nat) : List Observed → Tracker
  | [] => ∅
  | o :: past => (o.check window (tracked window past)).2

/-- The first sample with this reading since the work or the reading was another; samples without a reading do
not count. -/
def lastChange (past : List Observed) (work : String) (reading : Option ReconcileProgress) : Option Observed :=
  let since := past.takeWhile fun o =>
    o.waiting = some work ∧ (o.progress = .available reading ∨ o.progress = .unavailable)
  (since.filter (·.progress = .available reading)).getLast?

section
variable {o : Observed} {past : List Observed} {work : String} {reading : Option ReconcileProgress}
  {tracker : Tracker} {window : Nat}

theorem lastChange_cons : lastChange (o :: past) work reading =
    if o.waiting = some work then
      if o.progress = .available reading then some ((lastChange past work reading).getD o)
      else if o.progress = .unavailable then lastChange past work reading else none
    else none := by
  simp only [lastChange, List.takeWhile_cons]
  split_ifs <;> simp_all [List.getLast?_cons]

/-- What an entry says about the samples. -/
def Tells (entry : Option ReconcileTrackerEntry) (past : List Observed) : Prop :=
  ∀ work reading, (lastChange past work reading).map (·.now) =
    (entry.filter fun e => e.pending = work ∧ e.progress = .available reading).map (·.unchangedSince)

theorem tells_check (tells : Tells (tracker.lookup o.fsName) past) :
    Tells ((o.check window tracker).2.lookup o.fsName) (o :: past) := by
  intro work reading
  have before := tells work reading
  rw [lastChange_cons]
  unfold Observed.check reconcileStallCheckAt
  rw [← Observed.waiting]
  cases o.waiting with
  | none => simp
  | some fingerprint =>
    cases entry : tracker.lookup o.fsName with
    | none =>
      rw [entry] at before
      simp only [AList.lookup_insert, Option.some.injEq]
      split_ifs <;> simp_all [Option.filter]
    | some previous =>
      rw [entry] at before
      simp only [Option.some.injEq]
      by_cases own : fingerprint = work
      · subst own
        split_ifs <;> simp_all [Option.filter]
        -- the reading is the one of the entry
        obtain ⟨change, eq, since⟩ := before
        rw [eq]
        exact since
      · split_ifs <;> simp_all [Option.filter]

theorem lookup_check_other {name : String} (ne : name ≠ o.fsName) :
    (o.check window tracker).2.lookup name = tracker.lookup name := by
  unfold Observed.check reconcileStallCheckAt
  split
  · exact AList.lookup_erase_ne ne
  · split
    · exact AList.lookup_insert_ne ne
    · split_ifs <;> simp [AList.lookup_insert_ne ne]

theorem tells_tracked (window : Nat) (past : List Observed) (name : String) :
    Tells ((tracked window past).lookup name) (past.filter (·.fsName = name)) := by
  induction past with
  | nil => simp [tracked, Tells, lastChange]
  | cons o past ih =>
    by_cases own : o.fsName = name
    · subst own
      rw [List.filter_cons_of_pos (by simp)]
      exact tells_check ih
    · rw [List.filter_cons_of_neg (by simpa using own), tracked, lookup_check_other (Ne.symm own)]
      exact ih

theorem check_true : (o.check window tracker).1 = true ↔ ∃ reading e, o.progress = .available reading ∧
    tracker.lookup o.fsName = some e ∧ o.waiting = some e.pending ∧ e.progress = .available reading ∧
      window ≤ o.now - e.unchangedSince := by
  unfold Observed.check reconcileStallCheckAt
  rw [← Observed.waiting]
  cases o.waiting with
  | none => simp
  | some fingerprint =>
    cases tracker.lookup o.fsName with
    | none => simp
    | some e =>
      dsimp only
      cases read : o.progress with
      | unavailable => split_ifs <;> simp_all
      | available reading => split_ifs <;> simp_all [eq_comm]

/-- Of any samples of any filesystems, the last one is reported as a stall if its work has been waiting, with its
reading and no other, since a change that was seen the window ago. -/
theorem stalled_iff (o : Observed) (past : List Observed) (window : Nat) :
    (o.check window (tracked window past)).1 = true ↔ ∃ work reading change,
      o.waiting = some work ∧ o.progress = .available reading ∧
        lastChange (past.filter (·.fsName = o.fsName)) work reading = some change ∧ window ≤ o.now - change.now := by
  have tells := tells_tracked window past o.fsName
  rw [check_true]
  constructor
  · rintro ⟨reading, e, reads, entry, waits, same, long⟩
    have last := tells e.pending reading
    rw [entry, Option.filter_some_pos (by simp [same])] at last
    obtain ⟨change, found, since⟩ := Option.map_eq_some_iff.mp last
    exact ⟨e.pending, reading, change, waits, reads, found, since ▸ long⟩
  · rintro ⟨work, reading, change, waits, reads, found, long⟩
    have last := tells work reading
    rw [found, Option.map_some, eq_comm, Option.map_eq_some_iff] at last
    obtain ⟨e, kept, since⟩ := last
    obtain ⟨entry, fits⟩ := Option.filter_eq_some_iff.mp kept
    obtain ⟨rfl, same⟩ := of_decide_eq_true fits
    exact ⟨reading, e, reads, entry, waits, same, since ▸ long⟩

end
end NastyEngine.Alerts
