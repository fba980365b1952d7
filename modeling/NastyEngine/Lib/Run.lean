import Mathlib.Data.List.Induction

/-!
# Runs of a transition relation

A run carries the labels of its steps, in their order. An invariant is shown step by step; a
`history` invariant may also speak about the labels so far.
-/

namespace NastyEngine.Lib
variable {σ α : Type}

inductive Run (Step : σ → α → σ → Prop) : σ → List α → σ → Prop
  | nil (s : σ) : Run Step s [] s
  | snoc {s t u : σ} {labels : List α} {a : α} (run : Run Step s labels t) (step : Step t a u) :
      Run Step s (labels ++ [a]) u

namespace Run
variable {Step : σ → α → σ → Prop} {s t u : σ} {labels more : List α}

theorem history {I : List α → σ → Prop} (start : I [] s)
    (kept : ∀ labels s a t, I labels s → Step s a t → I (labels ++ [a]) t)
    (run : Run Step s labels t) : I labels t := by
  induction run with
  | nil => exact start
  | snoc _ step ih => exact kept _ _ _ _ ih step

theorem invariant {I : σ → Prop} (start : I s) (kept : ∀ s a t, I s → Step s a t → I t)
    (run : Run Step s labels t) : I t :=
  history (I := fun _ => I) start (fun _ s a t => kept s a t) run

theorem append (first : Run Step s labels t) (second : Run Step t more u) : Run Step s (labels ++ more) u := by
  induction second with
  | nil =>
    rw [List.append_nil]
    exact first
  | snoc _ step ih =>
    rw [← List.append_assoc]
    exact .snoc ih step

theorem last {a : α} (run : Run Step s (labels ++ [a]) u) : ∃ t, Run Step s labels t ∧ Step t a u := by
  generalize eq : labels ++ [a] = all at run
  cases run with
  | nil => cases labels <;> cases eq
  | snoc run step =>
    obtain ⟨rfl, same⟩ := List.append_inj' eq rfl
    cases same
    exact ⟨_, run, step⟩

theorem init (run : Run Step s (labels ++ more) u) : ∃ t, Run Step s labels t := by
  induction more using List.reverseRecOn generalizing u with
  | nil => exact ⟨u, List.append_nil labels ▸ run⟩
  | append_singleton more a ih =>
    rw [← List.append_assoc] at run
    obtain ⟨t, before, -⟩ := run.last
    exact ih before

theorem mono {Step' : σ → α → σ → Prop} (weaker : ∀ s a t, Step s a t → Step' s a t)
    (run : Run Step s labels t) : Run Step' s labels t := by
  induction run with
  | nil => exact .nil _
  | snoc _ step ih => exact .snoc ih (weaker _ _ _ step)

end Run

end NastyEngine.Lib
