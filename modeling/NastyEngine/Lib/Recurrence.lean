import Mathlib.Data.List.Basic
import Mathlib.Order.Lattice

/-!
# Recurring events and the rounds that serve them

A recurrence knows the first occurrence after any moment. A server that is polled now and then serves
in each round what has occurred since the last round in which it served; the rounds then cut time into
intervals, and every moment lies in one of them at most.
-/

namespace NastyEngine.Lib
variable {τ : Type}

def lastRound (start : τ) (rounds : List τ) : τ := rounds.getLast?.getD start

theorem lastRound_cons (start round : τ) (rest : List τ) : lastRound start (round :: rest) = lastRound round rest := by
  simp [lastRound, List.getLast?_cons]

theorem lastRound_append (start round : τ) (rounds : List τ) : lastRound start (rounds ++ [round]) = round := by
  simp [lastRound]

variable [LinearOrder τ]

/-- `next t` is the earliest occurrence after `t`. -/
structure Recurrence (τ : Type) [LinearOrder τ] where
  occurs : τ → Prop
  next : τ → Option τ
  next_occurs : ∀ {t u}, next t = some u → occurs u ∧ t < u
  next_least : ∀ {t v}, occurs v → t < v → ∃ u, next t = some u ∧ u ≤ v

theorem Recurrence.next_le_iff (r : Recurrence τ) (t now : τ) :
    (∃ u, r.next t = some u ∧ u ≤ now) ↔ ∃ v, r.occurs v ∧ t < v ∧ v ≤ now := by
  constructor
  · rintro ⟨u, eq, le⟩
    obtain ⟨occurs, after⟩ := r.next_occurs eq
    exact ⟨u, occurs, after, le⟩
  · rintro ⟨v, occurs, after, le⟩
    obtain ⟨u, eq, first⟩ := r.next_least occurs after
    exact ⟨u, eq, first.trans le⟩

def intervals : τ → List τ → List (τ × τ)
  | _, [] => []
  | start, round :: rest => (start, round) :: intervals round rest

def covering (t start : τ) (rounds : List τ) : Nat := (intervals start rounds).countP fun i => i.1 < t ∧ t ≤ i.2

theorem le_lastRound {start : τ} {rounds : List τ} (ordered : (start :: rounds).Pairwise (· ≤ ·)) :
    start ≤ lastRound start rounds := by
  cases last : rounds.getLast? with
  | none => simp [lastRound, last]
  | some round =>
    rw [lastRound, last, Option.getD_some]
    exact (List.pairwise_cons.mp ordered).1 round (List.mem_of_getLast? last)

theorem covering_eq {t start : τ} {rounds : List τ} (ordered : (start :: rounds).Pairwise (· ≤ ·)) :
    covering t start rounds = if start < t ∧ t ≤ lastRound start rounds then 1 else 0 := by
  induction rounds generalizing start with
  | nil =>
    have outside : ¬ (start < t ∧ t ≤ start) := fun h => absurd (h.1.trans_le h.2) (lt_irrefl _)
    simp [covering, intervals, lastRound, outside]
  | cons round rest ih =>
    obtain ⟨before, ordered⟩ := List.pairwise_cons.mp ordered
    have first : start ≤ round := before round List.mem_cons_self
    have later : round ≤ lastRound round rest := le_lastRound ordered
    have split : covering t start (round :: rest) = covering t round rest + if start < t ∧ t ≤ round then 1 else 0 := by
      simp [covering, intervals, List.countP_cons]
    rw [split, ih ordered, lastRound_cons]
    by_cases inFirst : t ≤ round
    · have notLater : ¬ (round < t ∧ t ≤ lastRound round rest) := fun h => absurd h.1 (not_lt.mpr inFirst)
      rw [if_neg notLater, Nat.zero_add]
      simp only [inFirst, and_true, inFirst.trans later]
    · have after : round < t := not_le.mp inFirst
      simp [inFirst, after, first.trans_lt after]

end NastyEngine.Lib
