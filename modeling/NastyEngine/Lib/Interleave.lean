import NastyEngine.Lib.Faults
import NastyEngine.Lib.Run

/-!
# Tasks that take turns

Any number of processes run over one state, one step at a time. Each remembers a view of the state as its
own last step left it. `Follows` says by the steps of a process what it does to the view, provided that
no step changes a view that others have changed meanwhile.
-/

namespace NastyEngine.Lib
open Fallible
variable {σ ν γ κ α β : Type}

structure Task (σ ν : Type) where
  rest : Proc σ Unit
  seen : ν

structure Tasks (κ σ ν : Type) where
  state : σ
  tasks : κ → Task σ ν

section
variable (view : σ → ν)

def Tasks.turn [DecidableEq κ] (s : Tasks κ σ ν) (i : κ) : Tasks κ σ ν :=
  match (s.tasks i).rest with
  | .done _ => s
  | .step effect next =>
    ⟨effect s.state, Function.update s.tasks i ⟨next s.state, view (effect s.state)⟩⟩

def Tasks.turns [DecidableEq κ] : Tasks κ σ ν → List κ → Tasks κ σ ν
  | s, [] => s
  | s, i :: rest => (s.turn view i).turns rest

/-- Whoever changes the view has seen it as it is. -/
def Tasks.Fresh [DecidableEq κ] (s : Tasks κ σ ν) (i : κ) : Prop :=
  view (s.turn view i).state ≠ view s.state → view s.state = (s.tasks i).seen

/-- Each step makes a move, unless it would change a view that is not the one seen last. -/
def Follows (Move : γ → σ → γ → σ → Prop) (idle : γ) : γ → ν → Proc σ α → Prop
  | phase, _, .done _ => phase = idle
  | phase, seen, .step effect next => ∀ s, (view s = seen ∨ view (effect s) = view s) →
      ∃ phase', Move phase s phase' (effect s) ∧ Follows Move idle phase' (view (effect s)) (next s)

end

variable {view : σ → ν} {Move : γ → σ → γ → σ → Prop} {idle phase : γ} {seen : ν}

theorem follows_bind {p : Proc σ β} {f : β → Proc σ α} (first : Follows view Move idle phase seen p)
    (second : ∀ b seen, Follows view Move idle idle seen (f b)) : Follows view Move idle phase seen (p >>= f) := by
  induction p generalizing phase seen with
  | done b =>
    rw [show phase = idle from first]
    exact second b seen
  | step effect next ih =>
    intro s fresh
    obtain ⟨phase', move, rest⟩ := first s fresh
    exact ⟨phase', move, ih s rest⟩

theorem turn_follows [DecidableEq κ] {s : Tasks κ σ ν} {i : κ}
    (follows : Follows view Move idle phase (s.tasks i).seen (s.tasks i).rest) (fresh : s.Fresh view i) :
    s.turn view i = s ∨ ∃ phase' task, (s.turn view i).tasks = Function.update s.tasks i task ∧
      task.seen = view (s.turn view i).state ∧ Move phase s.state phase' (s.turn view i).state ∧
      Follows view Move idle phase' task.seen task.rest := by
  unfold Tasks.Fresh at fresh
  unfold Tasks.turn at fresh ⊢
  cases eq : (s.tasks i).rest with
  | done _ => exact .inl rfl
  | step effect next =>
    rw [eq] at follows fresh
    have seenOrKept : view s.state = (s.tasks i).seen ∨ view (effect s.state) = view s.state := by
      by_cases kept : view (effect s.state) = view s.state
      · exact .inr kept
      · exact .inl (fresh kept)
    obtain ⟨phase', move, rest⟩ := follows s.state seenOrKept
    exact .inr ⟨phase', _, rfl, rfl, move, rest⟩

section
variable {ε δ : Type} {view : σ → ν} {Move : γ → Faulty σ → γ → Faulty σ → Prop} {idle : γ}

def Keeps (view : σ → ν) (Move : γ → Faulty σ → γ → Faulty σ → Prop) (idle : γ) (p : Fallible ε (Faulty σ) α) : Prop :=
  ∀ seen, Follows (fun w : Faulty σ => view w.state) Move idle idle seen (ExceptT.run p)

theorem follows_then {p : Fallible ε (Faulty σ) β} {f : β → Fallible ε (Faulty σ) α} {phase : γ} {seen : ν}
    (first : Follows (fun w : Faulty σ => view w.state) Move idle phase seen (ExceptT.run p))
    (second : ∀ b, Keeps view Move idle (f b)) :
    Follows (fun w : Faulty σ => view w.state) Move idle phase seen (ExceptT.run (p >>= f)) := by
  refine follows_bind first fun r seen => ?_
  cases r with
  | ok b => exact second b seen
  | error e => rfl

theorem follows_succeeds {p : Fallible ε (Faulty σ) α} {phase : γ} {seen : ν}
    (part : Follows (fun w : Faulty σ => view w.state) Move idle phase seen (ExceptT.run p)) :
    Follows (fun w : Faulty σ => view w.state) Move idle phase seen
      (ExceptT.run (succeeds p : Fallible δ (Faulty σ) Bool)) := follows_bind part fun _ _ => rfl

theorem keeps_observe_then {f : σ → β} {k : β → Fallible ε (Faulty σ) α} (still : ∀ w, Move idle w idle w)
    (rest : ∀ s, Follows (fun w : Faulty σ => view w.state) Move idle idle (view s) (ExceptT.run (k (f s)))) :
    Keeps view Move idle (observe f >>= k) :=
  fun _ w _ => ⟨idle, still w, rest w.state⟩

theorem keeps_act {f : Faulty σ → α × Faulty σ} (still : ∀ w, Move idle w idle (f w).2) (seen : ν) :
    Follows (fun w : Faulty σ => view w.state) Move idle idle seen (Proc.act f) :=
  fun w _ => ⟨idle, still w, rfl⟩

theorem keeps_closed (still : ∀ w w' : Faulty σ, view w'.state = view w.state → Move idle w idle w') :
    Closed (fun f => ∀ s, view (f s) = view s) (fun p => Keeps view Move idle p) where
  idle := fun _ => rfl
  pure := fun _ _ => rfl
  bind := fun first second seen => follows_then (first seen) second
  ofExcept := fun _ _ => rfl
  observe := fun _ => keeps_act fun w => still w w rfl
  external := by
    intro f allowed
    refine keeps_act fun w => still _ _ ?_
    rcases w with ⟨s, _ | ⟨_ | e, rest⟩⟩
    · exact allowed s
    · exact allowed s
    · rfl
  assign := fun allowed => keeps_act fun w => still _ _ (allowed w.state)
  mapError := fun part seen => follows_bind (part seen) fun _ _ => rfl
  attempt := fun part seen => follows_bind (part seen) fun _ _ => rfl
  succeeds := fun part seen => follows_succeeds (part seen)

end

def Turn [DecidableEq κ] (view : σ → ν) (Allowed : Tasks κ σ ν → κ → Prop) (s : Tasks κ σ ν) (i : κ)
    (t : Tasks κ σ ν) : Prop := t = s.turn view i ∧ Allowed s i

def AllowedAlong [DecidableEq κ] (view : σ → ν) (Allowed : Tasks κ σ ν → κ → Prop) : Tasks κ σ ν → List κ → Prop
  | _, [] => True
  | s, i :: rest => Allowed s i ∧ AllowedAlong view Allowed (s.turn view i) rest

instance [DecidableEq κ] {Allowed : Tasks κ σ ν → κ → Prop} [∀ s i, Decidable (Allowed s i)] :
    ∀ (s : Tasks κ σ ν) (schedule : List κ), Decidable (AllowedAlong view Allowed s schedule)
  | _, [] => .isTrue trivial
  | s, i :: rest =>
    have : Decidable (AllowedAlong view Allowed (s.turn view i) rest) := instDecidableAllowedAlong _ rest
    inferInstanceAs (Decidable (_ ∧ _))

theorem run_of_schedule [DecidableEq κ] {Allowed : Tasks κ σ ν → κ → Prop} {s : Tasks κ σ ν} {schedule : List κ}
    (allowed : AllowedAlong view Allowed s schedule) :
    Run (Turn view Allowed) s schedule (s.turns view schedule) := by
  induction schedule generalizing s with
  | nil => exact .nil s
  | cons i rest ih => exact (Run.snoc (.nil s) ⟨rfl, allowed.1⟩).append (ih allowed.2)

end NastyEngine.Lib
