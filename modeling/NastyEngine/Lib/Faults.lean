import NastyEngine.Lib.Proc

/-!
# Processes under arbitrary faults

A state with a script of what the coming operations on the outside world report. `Under p Q s`
says that whatever the script, the result of `p` from `s` and the state it leaves satisfy `Q`.
`Stays J p Q s` is the same with an invariant: `J` holds however `p` ends, and `Q` if it returns.
`Clear n p s a t` is about scripts whose next `n` entries are successes.
-/

namespace NastyEngine
open List

/-- Each entry of the script is an error text or a success; past its end all operations succeed. -/
structure Faulty (σ : Type) where
  state : σ
  faults : List (Option String) := []

namespace Fallible
variable {σ α β ε δ : Type}

/-- One operation on the outside world: it fails and changes nothing, or takes effect. -/
def external (effect : σ → σ) : Fallible String (Faulty σ) Unit :=
  ExceptT.mk (Proc.act fun w =>
    match w.faults with
    | some e :: rest => (.error e, { w with faults := rest })
    | none :: rest => (.ok (), ⟨effect w.state, rest⟩)
    | [] => (.ok (), ⟨effect w.state, []⟩))

/-- One operation on the outside world that leaves something behind where it fails. -/
def externalOr (effect failed : σ → σ) : Fallible String (Faulty σ) Unit :=
  ExceptT.mk (Proc.act fun w =>
    match w.faults with
    | some e :: rest => (.error e, ⟨failed w.state, rest⟩)
    | none :: rest => (.ok (), ⟨effect w.state, rest⟩)
    | [] => (.ok (), ⟨effect w.state, []⟩))

def observe (f : σ → α) : Fallible ε (Faulty σ) α := read fun w => f w.state

def assign (f : σ → σ) : Fallible ε (Faulty σ) Unit := modify fun w => { w with state := f w.state }

def Under (p : Fallible ε (Faulty σ) α) (Q : Except ε α → σ → Prop) (s : σ) : Prop :=
  ∀ faults, Q (run p ⟨s, faults⟩).1 (run p ⟨s, faults⟩).2.state

variable {Q : Except ε α → σ → Prop} {s : σ}

variable {a : α}

theorem under_pure (post : Q (.ok a) s) : Under (pure a) Q s := fun _ => post

theorem under_throw {e : ε} (post : Q (.error e) s) : Under (throw e) Q s := fun _ => post

theorem under_external {f : σ → σ} {Q : Except String Unit → σ → Prop} (ok : Q (.ok ()) (f s))
    (failed : ∀ e, Q (.error e) s) : Under (external f) Q s := by
  intro faults
  rcases faults with _ | ⟨_ | e, rest⟩
  · exact ok
  · exact ok
  · exact failed e

theorem under_assign {f : σ → σ} {Q : Except ε Unit → σ → Prop} (post : Q (.ok ()) (f s)) :
    Under (assign f) Q s := fun _ => post

variable {f : β → Fallible ε (Faulty σ) α} {q : Fallible ε (Faulty σ) β} {d : Fallible δ (Faulty σ) β}

theorem under_bind (first : Under q (fun r t => match r with
      | .ok b => Under (f b) Q t
      | .error e => Q (.error e) t) s) : Under (q >>= f) Q s := by
  intro faults
  have here := first faults
  rcases ran : run q ⟨s, faults⟩ with ⟨e | b, t⟩
  · rw [run_bind_error ran]
    rw [ran] at here
    exact here
  · rw [run_bind_ok ran]
    rw [ran] at here
    exact here t.faults

theorem under_observe {f : σ → β} {k : β → Fallible ε (Faulty σ) α} (rest : Under (k (f s)) Q s) :
    Under (observe f >>= k) Q s := under_bind fun _ => rest

variable {p : Fallible ε (Faulty σ) α}

theorem under_mapError {f : ε → δ} {Q : Except δ α → σ → Prop}
    (h : Under p (fun r t => Q (r.mapError f) t) s) : Under (mapError f p) Q s := by
  intro faults
  rw [run_mapError]
  exact h faults

theorem under_attempt {k : Except δ β → Fallible ε (Faulty σ) α}
    (h : Under d (fun r t => Under (k r) Q t) s) : Under (attempt d >>= k) Q s := by
  refine under_bind fun faults => ?_
  rw [run_attempt]
  exact h faults

theorem under_mono {R : Except ε α → σ → Prop} (h : Under p R s) (weaker : ∀ r t, R r t → Q r t) :
    Under p Q s := fun faults => weaker _ _ (h faults)

def Stays (J : σ → Prop) (p : Fallible ε (Faulty σ) α) (Q : α → σ → Prop) (s : σ) : Prop :=
  Under p (fun r t => J t ∧ ∀ a, r = .ok a → Q a t) s

def Preserves (J : σ → Prop) (p : Fallible ε (Faulty σ) α) : Prop := ∀ s, J s → Stays J p (fun _ _ => True) s

section Stays
variable {J : σ → Prop} {R : β → σ → Prop} {Q : α → σ → Prop} {s : σ}

protected theorem Stays.mono {R : α → σ → Prop} (stays : Stays J p R s) (weaker : ∀ a t, J t → R a t → Q a t) :
    Stays J p Q s :=
  under_mono stays fun _ t ended => ⟨ended.1, fun a eq => weaker a t ended.1 (ended.2 a eq)⟩

variable {I : σ → Prop}

protected theorem Stays.weaken (stays : Stays I p Q s) (weaker : ∀ t, I t → J t) : Stays J p Q s :=
  under_mono stays fun _ t ended => ⟨weaker t ended.1, ended.2⟩

protected theorem Stays.and {Q' : α → σ → Prop} (one : Stays I p Q' s)
    (two : Stays J p Q s) : Stays (fun t => I t ∧ J t) p (fun a t => Q' a t ∧ Q a t) s :=
  fun faults => ⟨⟨(one faults).1, (two faults).1⟩, fun a eq => ⟨(one faults).2 a eq, (two faults).2 a eq⟩⟩

theorem stays_ok {faults : List (Option String)} {w : Faulty σ}
    (stays : Stays J p Q s) (ran : run p ⟨s, faults⟩ = (.ok a, w)) : J w.state ∧ Q a w.state := by
  have ended := stays faults
  rw [ran] at ended
  exact ⟨ended.1, ended.2 a rfl⟩

protected theorem Stays.pure (inv : J s) (post : Q a s) : Stays J (pure a : Fallible ε (Faulty σ) α) Q s := by
  refine under_pure ⟨inv, fun b eq => ?_⟩
  cases eq
  exact post

protected theorem Stays.ofExcept {r : Except ε α} (inv : J s) (post : ∀ a, r = .ok a → Q a s) :
    Stays J (ofExcept r : Fallible ε (Faulty σ) α) Q s := fun _ => ⟨inv, post⟩

protected theorem Stays.observe {f : σ → α} (inv : J s) (post : Q (f s) s) :
    Stays J (observe f : Fallible ε (Faulty σ) α) Q s := by
  refine fun _ => ⟨inv, fun a eq => ?_⟩
  cases eq
  exact post

protected theorem Stays.then (first : Stays I q R s)
    (weaker : ∀ t, I t → J t) (rest : ∀ b t, I t → R b t → Stays J (f b) Q t) : Stays J (q >>= f) Q s := by
  refine under_bind (under_mono first ?_)
  rintro (e | b) t ⟨inv, returned⟩
  · exact ⟨weaker t inv, fun a eq => by cases eq⟩
  · exact rest b t inv (returned b rfl)

protected theorem Stays.bind (first : Stays J q R s)
    (second : ∀ b t, J t → R b t → Stays J (f b) Q t) : Stays J (q >>= f) Q s :=
  .then first (fun _ inv => inv) second

protected theorem Stays.map {f : β → α} (stays : Stays J q (fun b t => Q (f b) t) s) : Stays J (f <$> q) Q s := by
  exact .bind stays fun b t inv post => .pure inv post

protected theorem Stays.quiet (quiet : Stays (· = s) q R s)
    (inv : J s) (rest : ∀ b, R b s → Stays J (f b) Q s) : Stays J (q >>= f) Q s := by
  refine .then quiet (fun t eq => eq ▸ inv) fun b t eq found => ?_
  subst eq
  exact rest b found

protected theorem Stays.observed {g : σ → β} (inv : J s) (rest : Stays J (f (g s)) Q s) : Stays J (observe g >>= f) Q s :=
  .quiet (R := fun b _ => b = g s) (.observe rfl rfl) inv fun _ eq => eq ▸ rest

protected theorem Stays.checked {r : Except ε β} (inv : J s) (rest : ∀ b, r = .ok b → Stays J (f b) Q s) :
    Stays J (ofExcept r >>= f) Q s :=
  .quiet (R := fun b _ => r = .ok b) (.ofExcept rfl fun _ ok => ok) inv rest

protected theorem Stays.external {f : σ → σ} {Q : Unit → σ → Prop} (inv : J s) (after : J (f s)) (post : Q () (f s)) :
    Stays J (external f) Q s := by
  refine under_external ⟨after, fun _ _ => post⟩ fun e => ⟨inv, fun a eq => by cases eq⟩

protected theorem Stays.externalOr {f g : σ → σ} {Q : Unit → σ → Prop} (after : J (f s)) (failed : J (g s)) (post : Q () (f s)) :
    Stays J (externalOr f g) Q s := by
  intro faults
  rcases faults with _ | ⟨_ | e, rest⟩
  · exact ⟨after, fun _ _ => post⟩
  · exact ⟨after, fun _ _ => post⟩
  · exact ⟨failed, fun a impossible => by cases impossible⟩

protected theorem Stays.mapError {f : ε → δ} (stays : Stays J p Q s) : Stays J (mapError f p) Q s := by
  refine under_mapError (under_mono stays ?_)
  rintro (e | a) t ⟨inv, returned⟩
  · exact ⟨inv, fun a eq => by cases eq⟩
  · refine ⟨inv, fun b eq => ?_⟩
    cases eq
    exact returned a rfl

protected theorem Stays.attempt (stays : Stays J d R s) :
    Stays J (attempt d : Fallible ε (Faulty σ) _) (fun r t => ∀ b, r = .ok b → R b t) s := by
  intro faults
  rw [run_attempt]
  refine ⟨(stays faults).1, fun r eq => ?_⟩
  cases eq
  exact (stays faults).2

protected theorem Stays.succeeds (stays : Stays J d R s) :
    Stays J (succeeds d : Fallible ε (Faulty σ) Bool) (fun b t => b = true → ∃ r, R r t) s := by
  intro faults
  rw [run_succeeds]
  refine ⟨(stays faults).1, fun b eq succeeded => ?_⟩
  cases eq
  cases returned : (run d ⟨s, faults⟩).1 with
  | error e =>
    rw [returned] at succeeded
    cases succeeded
  | ok r => exact ⟨r, (stays faults).2 r returned⟩

protected theorem Preserves.bind (first : Preserves J q) (second : ∀ b, Preserves J (f b)) : Preserves J (q >>= f) :=
  fun s inv => .bind (first s inv) fun b t inv _ => second b t inv

protected theorem Preserves.pure {a : α} : Preserves J (pure a : Fallible ε (Faulty σ) α) :=
  fun _ inv => .pure inv trivial

protected theorem Preserves.ofExcept (r : Except ε α) : Preserves J (ofExcept r : Fallible ε (Faulty σ) α) :=
  fun _ inv => .ofExcept inv fun _ _ => trivial

protected theorem Preserves.observe (f : σ → α) : Preserves J (observe f : Fallible ε (Faulty σ) α) :=
  fun _ inv => .observe inv trivial

protected theorem Preserves.checked {r : Except ε β} (rest : ∀ b, Preserves J (f b)) : Preserves J (ofExcept r >>= f) :=
  .bind (.ofExcept r) rest

protected theorem Preserves.observed {g : σ → β} (rest : ∀ b, Preserves J (f b)) : Preserves J (observe g >>= f) :=
  .bind (.observe g) rest

protected theorem Preserves.external {f : σ → σ} (stable : ∀ s, J s → J (f s)) : Preserves J (external f) :=
  fun s inv => .external inv (stable s inv) trivial

protected theorem Preserves.assign {f : σ → σ} (stable : ∀ s, J s → J (f s)) :
    Preserves J (assign f : Fallible ε (Faulty σ) Unit) := fun s inv _ => ⟨stable s inv, fun _ _ => trivial⟩

protected theorem Preserves.mapError {f : ε → δ} (preserves : Preserves J p) :
    Preserves J (mapError f p) := fun s inv => .mapError (preserves s inv)

protected theorem Preserves.attempt (preserves : Preserves J d) :
    Preserves J (attempt d : Fallible ε (Faulty σ) (Except δ β)) :=
  fun s inv => .mono (.attempt (preserves s inv)) fun _ _ _ _ => trivial

protected theorem Preserves.succeeds (preserves : Preserves J d) : Preserves J (succeeds d : Fallible ε (Faulty σ) Bool) :=
  fun s inv => .mono (.succeeds (preserves s inv)) fun _ _ _ _ => trivial

end Stays

/-- A property that a program has if its parts have it, where `Allowed` says which effects may be parts. -/
structure Closed (Allowed : (σ → σ) → Prop) (K : ∀ {ε α : Type}, Fallible ε (Faulty σ) α → Prop) : Prop where
  idle : Allowed id
  pure : ∀ {ε α : Type} (a : α), K (pure a : Fallible ε (Faulty σ) α)
  bind : ∀ {ε α β : Type} {p : Fallible ε (Faulty σ) β} {f : β → Fallible ε (Faulty σ) α}, K p → (∀ b, K (f b)) →
    K (p >>= f)
  ofExcept : ∀ {ε α : Type} (r : Except ε α), K (ofExcept r : Fallible ε (Faulty σ) α)
  observe : ∀ {ε α : Type} (f : σ → α), K (observe f : Fallible ε (Faulty σ) α)
  external : ∀ {f : σ → σ}, Allowed f → K (external f)
  assign : ∀ {ε : Type} {f : σ → σ}, Allowed f → K (assign f : Fallible ε (Faulty σ) Unit)
  mapError : ∀ {ε δ α : Type} {f : ε → δ} {p : Fallible ε (Faulty σ) α}, K p → K (mapError f p)
  attempt : ∀ {ε δ α : Type} {p : Fallible δ (Faulty σ) α}, K p → K (attempt p : Fallible ε (Faulty σ) (Except δ α))
  succeeds : ∀ {ε δ α : Type} {p : Fallible δ (Faulty σ) α}, K p → K (succeeds p : Fallible ε (Faulty σ) Bool)

variable {l : List β}

namespace Closed
variable {Allowed : (σ → σ) → Prop} {K : ∀ {ε α : Type}, Fallible ε (Faulty σ) α → Prop} (closed : Closed Allowed @K)
include closed

theorem map {f : β → α} (part : K q) : K (f <$> q) := by
  exact closed.bind part fun b => closed.pure (f b)

theorem checked {r : Except ε β} (rest : ∀ b, K (f b)) : K (Fallible.ofExcept r >>= f) :=
  closed.bind (closed.ofExcept r) rest

theorem observed {g : σ → β} (rest : ∀ b, K (f b)) : K (Fallible.observe g >>= f) :=
  closed.bind (closed.observe g) rest

theorem forM {f : β → Fallible ε (Faulty σ) PUnit} (each : ∀ b ∈ l, K (f b)) : K (l.forM f) := by
  induction l with
  | nil => exact closed.pure _
  | cons b rest ih =>
    exact closed.bind (each b mem_cons_self) fun _ => ih fun b mem => each b (mem_cons_of_mem _ mem)

theorem mapM (each : ∀ b ∈ l, K (f b)) : K (l.mapM' f) := by
  induction l with
  | nil => exact closed.pure _
  | cons b rest ih =>
    refine closed.bind (each b mem_cons_self) fun _ => closed.bind ?_ fun _ => closed.pure _
    exact ih fun b mem => each b (mem_cons_of_mem _ mem)

end Closed

variable {J : σ → Prop}

theorem preserves_closed : Closed (fun f => ∀ s, J s → J (f s)) (fun p => Preserves J p) where
  idle := fun _ inv => inv
  pure := fun _ => .pure
  bind := .bind
  ofExcept := .ofExcept
  observe := .observe
  external := .external
  assign := .assign
  mapError := .mapError
  attempt := .attempt
  succeeds := .succeeds

protected theorem Preserves.forM {f : β → Fallible ε (Faulty σ) PUnit}
    (each : ∀ b ∈ l, Preserves J (f b)) : Preserves J (l.forM f) := preserves_closed.forM each

protected theorem Preserves.mapM (each : ∀ b ∈ l, Preserves J (f b)) : Preserves J (l.mapM' f) := preserves_closed.mapM each

/-- If the next `n` operations succeed, `p` makes these operations, returns `a` and leaves `t`. -/
def Clear (n : Nat) (p : Fallible ε (Faulty σ) α) (s : σ) (a : α) (t : σ) : Prop :=
  ∀ faults : List (Option String), (∀ fault ∈ faults.take n, fault = none) →
    run p ⟨s, faults⟩ = (.ok a, ⟨t, faults.drop n⟩)

section Clear
variable {s t u : σ} {a : α} {b : β} {n m : Nat}

protected theorem Clear.pure : Clear 0 (pure a : Fallible ε (Faulty σ) α) s a s := fun _ _ => rfl

protected theorem Clear.ofExcept {r : Except ε α} (ok : r = .ok a) : Clear 0 (ofExcept r : Fallible ε (Faulty σ) α) s a s := by
  intro faults _
  rw [run_ofExcept, ok]
  rfl

protected theorem Clear.observe {f : σ → α} : Clear 0 (observe f : Fallible ε (Faulty σ) α) s (f s) s := fun _ _ => rfl

protected theorem Clear.external {f : σ → σ} : Clear 1 (external f) s () (f s) := by
  intro faults clear
  rcases faults with _ | ⟨_ | e, rest⟩
  · rfl
  · rfl
  · cases clear (some e) mem_cons_self

protected theorem Clear.bind (first : Clear n q s b t) (second : Clear m (f b) t a u) : Clear (n + m) (q >>= f) s a u := by
  intro faults clear
  rw [take_add] at clear
  rw [run_bind_ok (first faults fun fault mem => clear fault (mem_append_left _ mem)),
    second _ fun fault mem => clear fault (mem_append_right _ mem), drop_drop]

protected theorem Clear.mapError {f : ε → δ} (clear : Clear n p s a t) :
    Clear n (mapError f p) s a t := fun faults none => run_mapError_ok (clear faults none)

protected theorem Clear.attempt {p : Fallible δ (Faulty σ) α} (clear : Clear n p s a t) :
    Clear n (attempt p : Fallible ε (Faulty σ) (Except δ α)) s (.ok a) t :=
  fun faults none => run_attempt_of (clear faults none)

protected theorem Clear.succeeds {p : Fallible δ (Faulty σ) α} (clear : Clear n p s a t) :
    Clear n (succeeds p : Fallible ε (Faulty σ) Bool) s true t := by
  intro faults none
  rw [run_succeeds, clear faults none]
  rfl

protected theorem Clear.mapM {g : β → α} (each : ∀ b ∈ l, Clear n (f b) s (g b) s) :
    Clear (n * l.length) (l.mapM' f) s (l.map g) s := by
  induction l with
  | nil => exact .pure
  | cons b rest ih =>
    have further := ih fun b mem => each b (mem_cons_of_mem _ mem)
    rw [length_cons, Nat.mul_succ, Nat.add_comm]
    exact .bind (each b mem_cons_self) (.bind (m := 0) further .pure)

end Clear

end Fallible

end NastyEngine
