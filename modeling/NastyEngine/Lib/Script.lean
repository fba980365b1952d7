import Mathlib.Data.List.Basic

/-!
# Scripts that are cut off

A script is a list of commands. A command that succeeds has one result; one that fails may leave its
targets in any state. `Cut` is where a script stops before its end: at a signal between two
commands, or at a command that fails.

`Settles J script I Q`: from a state in `I` the script ends in `Q`, and wherever it is cut off, the
state it leaves is in `J`.
-/

namespace NastyEngine.Lib
variable {κ σ : Type}

inductive Cause where
  | error
  | signal
  deriving DecidableEq

structure Shell (κ σ : Type) where
  step : κ → σ → Option σ
  Spoiled : κ → σ → σ → Prop

namespace Shell
variable (shell : Shell κ σ)

def run : List κ → σ → Option σ
  | [], s => some s
  | c :: rest, s => (shell.step c s).bind (run rest)

inductive Cut : List κ → σ → Cause → σ → Prop
  | signal {c : κ} {rest : List κ} {s : σ} : Cut (c :: rest) s .signal s
  | fails {c : κ} {rest : List κ} {s t : σ} (spoiled : shell.Spoiled c s t) : Cut (c :: rest) s .error t
  | later {c : κ} {rest : List κ} {s t u : σ} {cause : Cause} (done : shell.step c s = some t)
      (cut : Cut rest t cause u) : Cut (c :: rest) s cause u

def Settles (J : Cause → σ → Prop) (script : List κ) (I Q : σ → Prop) : Prop :=
  ∀ s, I s → (∀ t, shell.run script s = some t → Q t) ∧ ∀ cause u, shell.Cut script s cause u → J cause u

variable {shell} {J : Cause → σ → Prop} {I M Q : σ → Prop} {c : κ} {script rest : List κ}

protected theorem Settles.nil (weaker : ∀ s, I s → Q s) : shell.Settles J [] I Q := by
  intro s inv
  refine ⟨?_, ?_⟩
  · intro t ran
    cases ran
    exact weaker s inv
  · intro cause u cut
    cases cut

protected theorem Settles.cons (signal : ∀ s, I s → J .signal s) (done : ∀ s t, I s → shell.step c s = some t → M t)
    (spoiled : ∀ s t, I s → shell.Spoiled c s t → J .error t) (others : shell.Settles J rest M Q) :
    shell.Settles J (c :: rest) I Q := by
  intro s inv
  refine ⟨?_, ?_⟩
  · intro t ran
    obtain ⟨u, stepped, ran⟩ := Option.bind_eq_some_iff.mp ran
    exact (others u (done s u inv stepped)).1 t ran
  · intro cause u cut
    cases cut with
    | signal => exact signal s inv
    | fails failed => exact spoiled s u inv failed
    | later stepped cut => exact (others _ (done s _ inv stepped)).2 cause u cut

protected theorem Settles.append (first : shell.Settles J script I M) (second : shell.Settles J rest M Q) :
    shell.Settles J (script ++ rest) I Q := by
  induction script generalizing I with
  | nil =>
    intro s inv
    exact second s ((first s inv).1 s rfl)
  | cons c script ih =>
    -- What holds after `c` is what can be reached by it.
    apply Settles.cons (M := fun t => ∃ s, I s ∧ shell.step c s = some t)
    · exact fun s inv => (first s inv).2 _ _ .signal
    · exact fun s t inv done => ⟨s, inv, done⟩
    · exact fun s t inv spoiled => (first s inv).2 _ _ (.fails spoiled)
    · apply ih
      rintro t ⟨s, inv, done⟩
      refine ⟨?_, ?_⟩
      · intro u ran
        exact (first s inv).1 u (Option.bind_eq_some_iff.mpr ⟨t, done, ran⟩)
      · intro cause u cut
        exact (first s inv).2 cause u (.later done cut)

protected theorem Settles.all (signal : ∀ s, I s → J .signal s)
    (keeps : ∀ c ∈ script, ∀ s t, I s → (shell.step c s = some t → I t) ∧ (shell.Spoiled c s t → J .error t)) :
    shell.Settles J script I I := by
  induction script with
  | nil => exact Settles.nil fun _ inv => inv
  | cons c script ih =>
    apply Settles.cons signal
    · exact fun s t inv => (keeps c List.mem_cons_self s t inv).1
    · exact fun s t inv => (keeps c List.mem_cons_self s t inv).2
    · exact ih fun d mem => keeps d (List.mem_cons_of_mem _ mem)

theorem cut_of_run {before : List κ} {s t : σ} (ran : shell.run before s = some t) :
    shell.Cut (before ++ c :: rest) s .signal t := by
  induction before generalizing s with
  | nil =>
    cases ran
    exact .signal
  | cons d before ih =>
    obtain ⟨u, done, ran⟩ := Option.bind_eq_some_iff.mp ran
    exact .later done (ih ran)

end Shell

end NastyEngine.Lib
