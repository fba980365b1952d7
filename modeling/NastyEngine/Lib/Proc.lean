import NastyEngine.Lib.Result

/-!
# Sequential processes over a shared state

A `Proc σ α` is a program cut into indivisible steps. `run` executes it to the end; `cut n` is the
state left behind when the process dies after `n` steps. `Along J p s` says that `J` holds
at every point of the execution, which is what a crash can expose.
-/

namespace NastyEngine

/-- Each `step` changes the state once; what follows may depend on the state the step found. -/
inductive Proc (σ α : Type) where
  | done (value : α)
  | step (effect : σ → σ) (next : σ → Proc σ α)

namespace Proc
variable {σ α β : Type}

def bind : Proc σ α → (α → Proc σ β) → Proc σ β
  | done a, f => f a
  | step effect next, f => step effect fun s => (next s).bind f

instance : Monad (Proc σ) where
  pure := done
  bind := bind

def act (f : σ → α × σ) : Proc σ α := step (fun s => (f s).2) fun s => done (f s).1

def read (f : σ → α) : Proc σ α := act fun s => (f s, s)

def modify (f : σ → σ) : Proc σ Unit := act fun s => ((), f s)

def run : Proc σ α → σ → α × σ
  | done a, s => (a, s)
  | step effect next, s => (next s).run (effect s)

def cut : Nat → Proc σ α → σ → σ
  | 0, _, s => s
  | _ + 1, done _, s => s
  | n + 1, step effect next, s => cut n (next s) (effect s)

/-- `J` holds before every step and at the end. -/
def Along (J : σ → Prop) : Proc σ α → σ → Prop
  | done _, s => J s
  | step effect next, s => J s ∧ (next s).Along J (effect s)

@[simp] theorem run_pure (a : α) (s : σ) : (pure a : Proc σ α).run s = (a, s) := rfl

@[simp] theorem run_modify (f : σ → σ) (s : σ) : (modify f).run s = ((), f s) := rfl

@[simp] theorem run_act (f : σ → α × σ) (s : σ) : (act f).run s = f s := rfl

@[simp] theorem run_bind {p : Proc σ α} {f : α → Proc σ β} (s : σ) :
    (p >>= f).run s = (f (p.run s).1).run (p.run s).2 := by
  induction p generalizing s with
  | done a => rfl
  | step effect next ih => exact ih s (effect s)

@[simp] theorem along_pure (J : σ → Prop) (a : α) (s : σ) : (pure a : Proc σ α).Along J s ↔ J s := Iff.rfl

@[simp] theorem along_act {J : σ → Prop} {f : σ → α × σ} {s : σ} : (act f).Along J s ↔ J s ∧ J (f s).2 := Iff.rfl

@[simp] theorem along_read (J : σ → Prop) (f : σ → α) (s : σ) : (read f).Along J s ↔ J s :=
  ⟨fun h => h.1, fun h => ⟨h, h⟩⟩

@[simp] theorem along_modify (J : σ → Prop) (f : σ → σ) (s : σ) : (modify f).Along J s ↔ J s ∧ J (f s) := Iff.rfl

variable {J : σ → Prop} {p : Proc σ α} {s : σ}

protected theorem Along.bind {f : α → Proc σ β}
    (first : p.Along J s) (second : (f (p.run s).1).Along J (p.run s).2) : (p >>= f).Along J s := by
  induction p generalizing s with
  | done a => exact second
  | step effect next ih => exact ⟨first.1, ih s first.2 second⟩

theorem along_start (h : p.Along J s) : J s := by
  cases p with
  | done a => exact h
  | step effect next => exact h.1

theorem along_run (h : p.Along J s) : J (p.run s).2 := by
  induction p generalizing s with
  | done a => exact h
  | step effect next ih => exact ih s h.2

theorem along_cut (h : p.Along J s) (n : Nat) : J (cut n p s) := by
  induction p generalizing s n with
  | done a => cases n <;> exact h
  | step effect next ih =>
    cases n with
    | zero => exact h.1
    | succ n => exact ih s h.2 n

/-- Run a process on the part of the state that `get` reads and `set` writes. -/
def zoom {τ : Type} (get : τ → σ) (set : σ → τ → τ) : Proc σ α → Proc τ α
  | done a => done a
  | step effect next => step (fun t => set (effect (get t)) t) fun t => (next (get t)).zoom get set

/-- `set` writes what `get` reads and nothing else. -/
structure Lens {τ : Type} (get : τ → σ) (set : σ → τ → τ) : Prop where
  getSet : ∀ s t, get (set s t) = s
  setSet : ∀ s s' t, set s (set s' t) = set s t
  setGet : ∀ t, set (get t) t = t

variable {τ : Type} {get : τ → σ} {set : σ → τ → τ}

theorem run_zoom (lens : Lens get set) {p : Proc σ α} (t : τ) :
    (p.zoom get set).run t = ((p.run (get t)).1, set (p.run (get t)).2 t) := by
  induction p generalizing t with
  | done a => simp [zoom, run, lens.setGet]
  | step effect next ih =>
    change ((next (get t)).zoom get set).run (set (effect (get t)) t) = _
    rw [ih (get t), lens.getSet, lens.setSet]
    rfl

protected theorem Along.zoom {J : τ → Prop} (stable : ∀ s t, J t → J (set s t)) {p : Proc σ α} {t : τ} (start : J t) :
    (p.zoom get set).Along J t := by
  induction p generalizing t with
  | done a => exact start
  | step effect next ih => exact ⟨start, ih _ (stable _ _ start)⟩

end Proc

abbrev Fallible (ε σ α : Type) := ExceptT ε (Proc σ) α

namespace Fallible
variable {σ α β ε : Type}

def run (p : Fallible ε σ α) (s : σ) : Except ε α × σ := Proc.run (ExceptT.run p) s

/-- `J` holds at every point, up to the end or the first error. -/
def Along (J : σ → Prop) (p : Fallible ε σ α) (s : σ) : Prop := Proc.Along J (ExceptT.run p) s

def cut (n : Nat) (p : Fallible ε σ α) (s : σ) : σ := Proc.cut n (ExceptT.run p) s

@[simp] theorem run_pure (a : α) (s : σ) : run (pure a : Fallible ε σ α) s = (.ok a, s) := rfl

@[simp] theorem run_lift (p : Proc σ α) (s : σ) : run (liftM p : Fallible ε σ α) s = (.ok (p.run s).1, (p.run s).2) :=
  Proc.run_bind s

@[simp] theorem run_mk (p : Proc σ (Except ε α)) (s : σ) : run (ExceptT.mk p : Fallible ε σ α) s = p.run s := rfl

theorem run_bind (p : Fallible ε σ α) (f : α → Fallible ε σ β) (s : σ) : run (p >>= f) s = match run p s with
      | (.ok a, t) => run (f a) t
      | (.error e, t) => (.error e, t) := by
  change Proc.run (Proc.bind (ExceptT.run p) (ExceptT.bindCont f)) s = _
  rw [show Proc.run (Proc.bind (ExceptT.run p) (ExceptT.bindCont f)) s = _ from Proc.run_bind s]
  unfold run
  rcases Proc.run (ExceptT.run p) s with ⟨e | a, t⟩ <;> rfl

variable {a : α} {f : α → Fallible ε σ β} {s t : σ} {δ : Type} {p : Fallible ε σ α}

theorem run_bind_ok (first : run p s = (.ok a, t)) : run (p >>= f) s = run (f a) t := by
  rw [run_bind, first]

theorem run_bind_error {e : ε} (first : run p s = (.error e, t)) : run (p >>= f) s = (.error e, t) := by
  rw [run_bind, first]

theorem run_bind_cases {r : Except ε β} (h : run (p >>= f) s = (r, t)) : (∃ e, run p s = (.error e, t) ∧ r = .error e) ∨
      ∃ a u, run p s = (.ok a, u) ∧ run (f a) u = (r, t) := by
  rw [run_bind] at h
  rcases first : run p s with ⟨e | a, u⟩
  · rw [first] at h
    obtain ⟨rfl, rfl⟩ := Prod.mk.inj h
    exact .inl ⟨e, rfl, rfl⟩
  · rw [first] at h
    exact .inr ⟨a, u, rfl, h⟩

def zoom {τ : Type} (get : τ → σ) (set : σ → τ → τ) (p : Fallible ε σ α) : Fallible ε τ α :=
  ExceptT.mk (Proc.zoom get set (ExceptT.run p))

def mapError {δ : Type} (f : ε → δ) (p : Fallible ε σ α) : Fallible δ σ α :=
  ExceptT.mk (ExceptT.run p >>= fun r => pure (r.mapError f))

theorem run_mapError (f : ε → δ) (p : Fallible ε σ α) (s : σ) :
    run (mapError f p) s = ((run p s).1.mapError f, (run p s).2) := by
  exact Proc.run_bind s

theorem run_mapError_ok {f : ε → δ} (ran : run p s = (.ok a, t)) : run (mapError f p) s = (.ok a, t) := by
  rw [run_mapError, ran]
  rfl

theorem run_mapError_error {f : ε → δ} {e : ε}
    (ran : run p s = (.error e, t)) : run (mapError f p) s = (.error (f e), t) := by
  rw [run_mapError, ran]
  rfl

theorem ok_of_mapError {f : ε → δ} (ran : run (mapError f p) s = (.ok a, t)) : run p s = (.ok a, t) := by
  rcases first : run p s with ⟨e | b, u⟩
  · cases (run_mapError_error first).symm.trans ran
  · cases (run_mapError_ok first).symm.trans ran
    rfl

theorem ok_of_bind {b : β}
    (ran : run (p >>= f) s = (.ok b, t)) : ∃ a u, run p s = (.ok a, u) ∧ run (f a) u = (.ok b, t) := by
  rcases run_bind_cases ran with ⟨e, -, impossible⟩ | reached
  · cases impossible
  · exact reached

def ofExcept (r : Except ε α) : Fallible ε σ α := ExceptT.mk (pure r)

@[simp] theorem run_ofExcept (r : Except ε α) (s : σ) : run (ofExcept r : Fallible ε σ α) s = (r, s) := rfl

variable {r : Except ε α}

theorem ok_of_ofExcept_bind {b : β}
    (ran : run (ofExcept r >>= f) s = (.ok b, t)) : ∃ a, r = .ok a ∧ run (f a) s = (.ok b, t) := by
  obtain ⟨a, u, first, ran⟩ := ok_of_bind ran
  obtain ⟨eq, rfl⟩ := Prod.mk.inj first
  exact ⟨a, eq, ran⟩

def read (f : σ → α) : Fallible ε σ α := ExceptT.mk (Proc.read fun s => .ok (f s))

@[simp] theorem run_read {f : σ → α} {s : σ} : run (read f : Fallible ε σ α) s = (.ok (f s), s) := rfl

def modify (f : σ → σ) : Fallible ε σ Unit := ExceptT.mk (Proc.act fun s => (.ok (), f s))

def attempt {δ : Type} (p : Fallible ε σ α) : Fallible δ σ (Except ε α) := liftM (ExceptT.run p)

theorem run_attempt (p : Fallible ε σ α) (s : σ) :
    run (attempt p : Fallible δ σ (Except ε α)) s = (.ok (run p s).1, (run p s).2) :=
  run_lift _ _

theorem run_attempt_of (ran : run p s = (r, t)) : run (attempt p : Fallible δ σ (Except ε α)) s = (.ok r, t) := by
  rw [run_attempt, ran]

def succeeds {δ : Type} (p : Fallible ε σ α) : Fallible δ σ Bool :=
  ExceptT.mk (ExceptT.run p >>= fun r => pure (.ok r.isOk))

theorem run_succeeds (p : Fallible ε σ α) (s : σ) :
    run (succeeds p : Fallible δ σ Bool) s = (.ok (run p s).1.isOk, (run p s).2) :=
  Proc.run_bind s

def ignoreError {δ : Type} (p : Fallible ε σ α) : Fallible δ σ Unit :=
  ExceptT.mk (ExceptT.run p >>= fun _ => pure (.ok ()))

theorem run_ignoreError (p : Fallible ε σ α) (s : σ) :
    run (ignoreError p : Fallible δ σ Unit) s = (.ok (), (run p s).2) :=
  Proc.run_bind s

/-! What a process returns. -/

def Ends (p : Fallible ε σ α) (Q : Except ε α → σ → Prop) (s : σ) : Prop := Q (run p s).1 (run p s).2

section Ends
variable {Q : Except ε β → σ → Prop}

theorem ends_bind (first : Ends p (fun r t => match r with
      | .ok a => Ends (f a) Q t
      | .error e => Q (.error e) t) s) : Ends (p >>= f) Q s := by
  unfold Ends at first ⊢
  rw [run_bind]
  rcases ran : run p s with ⟨e | a, t⟩ <;> rw [ran] at first <;> exact first

theorem ends_read {g : σ → α} (rest : Ends (f (g s)) Q s) : Ends (read g >>= f) Q s := ends_bind rest

theorem ends_ofExcept (failed : ∀ e, r = .error e → Q (.error e) s) (rest : ∀ a, r = .ok a → Ends (f a) Q s) :
    Ends (ofExcept r >>= f) Q s := by
  refine ends_bind ?_
  cases r with
  | error e => exact failed e rfl
  | ok a => exact rest a rfl

theorem ends_mapError {g : ε → δ} {Q : Except δ α → σ → Prop} (ends : Ends p (fun r t => Q (r.mapError g) t) s) :
    Ends (mapError g p) Q s := by
  rw [Ends, run_mapError]
  exact ends

theorem ends_attempt {d : Fallible δ σ α} {k : Except δ α → Fallible ε σ β} (ends : Ends d (fun r t => Ends (k r) Q t) s) :
    Ends (attempt d >>= k) Q s := by
  refine ends_bind ?_
  rw [Ends, run_attempt]
  exact ends

theorem ends_ignoreError {Q : Except δ Unit → σ → Prop} (ends : Ends p (fun _ t => Q (.ok ()) t) s) :
    Ends (ignoreError p) Q s := by
  rw [Ends, run_ignoreError]
  exact ends

theorem ends_mono {Q' : Except ε β → σ → Prop} {p : Fallible ε σ β} (ends : Ends p Q' s)
    (weaker : ∀ r t, Q' r t → Q r t) : Ends p Q s := weaker _ _ ends

end Ends

/-! Which errors a process can end in. -/

def Raises (P : ε → Prop) (p : Fallible ε σ α) : Prop := ∀ s e t, run p s = (.error e, t) → P e

theorem raises_bind {P : ε → Prop} (first : Raises P p) (second : ∀ a, Raises P (f a)) : Raises P (p >>= f) := by
  intro s e t ended
  obtain ⟨e', failed, eq⟩ | ⟨a, u, _, rest⟩ := run_bind_cases ended
  · cases eq
    exact first s e t failed
  · exact second a u e t rest

theorem raises_ofOk {P : ε → Prop} (ok : ∀ s, ∃ a t, run p s = (.ok a, t)) : Raises P p := by
  intro s e t ended
  obtain ⟨a, u, ran⟩ := ok s
  rw [ran] at ended
  cases ended

theorem raises_mapError {P : δ → Prop} {f : ε → δ} (all : ∀ e, P (f e)) {p : Fallible ε σ α} :
    Raises P (mapError f p) := by
  intro s e t ended
  rw [run_mapError] at ended
  have result := (Prod.mk.inj ended).1
  cases h : (run p s).1 with
  | error e' =>
    rw [h] at result
    exact Except.error.inj result ▸ all e'
  | ok a => rw [h] at result; cases result

/-! What holds along a process. -/

@[simp] theorem along_ofExcept (J : σ → Prop) (r : Except ε α) (s : σ) :
    Along J (ofExcept r : Fallible ε σ α) s ↔ J s := Iff.rfl

@[simp] theorem along_read (J : σ → Prop) (f : σ → α) (s : σ) :
    Along J (read f : Fallible ε σ α) s ↔ J s := Proc.along_read J _ s

variable {J : σ → Prop}

protected theorem Along.lift {p : Proc σ α} (h : p.Along J s) : Along J (liftM p : Fallible ε σ α) s :=
  Proc.Along.bind h (Proc.along_run h)

protected theorem Along.bind (first : Along J p s) (second : ∀ a t, run p s = (.ok a, t) → Along J (f a) t) :
    Along J (p >>= f) s := by
  refine Proc.Along.bind first ?_
  have after : J (run p s).2 := Proc.along_run first
  change Proc.Along J (ExceptT.bindCont f (run p s).1) (run p s).2
  rcases ran : run p s with ⟨e | a, t⟩
  · rw [ran] at after
    exact after
  · exact second a t ran

theorem along_read_bind {f : σ → α} {k : α → Fallible ε σ β} (inv : J s)
    (rest : Along J (k (f s)) s) : Along J (read f >>= k) s := by
  refine .bind ((along_read J f s).mpr inv) fun a t ran => ?_
  obtain ⟨ok, rfl⟩ := Prod.mk.inj ran
  exact Except.ok.inj ok ▸ rest

theorem along_ofExcept_bind {k : α → Fallible ε σ β}
    (inv : J s) (rest : ∀ a, r = .ok a → Along J (k a) s) : Along J (ofExcept r >>= k) s := by
  refine .bind ((along_ofExcept J r s).mpr inv) fun a t ran => ?_
  obtain ⟨ok, rfl⟩ := Prod.mk.inj ran
  exact rest a ok

protected theorem Along.mapError {f : ε → δ} (h : Along J p s) : Along J (mapError f p) s :=
  Proc.Along.bind h (Proc.along_run h)

protected theorem Along.succeeds (h : Along J p s) : Along J (succeeds p : Fallible δ σ Bool) s :=
  Proc.Along.bind h (Proc.along_run h)

protected theorem Along.ignoreError (h : Along J p s) : Along J (ignoreError p : Fallible δ σ Unit) s :=
  Proc.Along.bind h (Proc.along_run h)

protected theorem Along.zoom {τ : Type} {get : τ → σ} {set : σ → τ → τ} {J : τ → Prop}
    (stable : ∀ s t, J t → J (set s t)) (p : Fallible ε σ α) {t : τ} (start : J t) :
    Along J (zoom get set p) t := Proc.Along.zoom stable start

theorem along_start (h : Along J p s) : J s := Proc.along_start h

theorem along_run (h : Along J p s) : J (run p s).2 := Proc.along_run h

protected theorem Along.seq (first : Along J p s)
    (second : ∀ a t, run p s = (.ok a, t) → J t → Along J (f a) t) : Along J (p >>= f) s := by
  refine .bind first fun a t ran => ?_
  have ended := along_run first
  rw [ran] at ended
  exact second a t ran ended

protected theorem Along.attempt (h : Along J p s) : Along J (attempt p : Fallible δ σ (Except ε α)) s := .lift h

theorem along_cut (h : Along J p s) {n : Nat} : J (cut n p s) := Proc.along_cut h n

end Fallible

end NastyEngine
