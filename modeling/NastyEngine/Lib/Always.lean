import NastyEngine.Lib.Faults

/-!
# What holds at every point, whatever fails

An operation on the outside world fails by the script, or is refused by the state it meets, or takes effect.
`Always J p Q E s` says that from `s`, under every script, `J` holds at every point of `p`, that `p` returns
with `Q` if it returns, and that `E` holds if it ends with an error.
-/

namespace NastyEngine.Fallible
variable {σ α β ε δ : Type}

/-- One operation on the outside world that the state may refuse. -/
def perform (op : σ → Except String (α × σ)) : Fallible String (Faulty σ) α :=
  let take (w : Faulty σ) (rest : List (Option String)) : Except String α × Faulty σ :=
    match op w.state with
    | .ok (a, t) => (.ok a, ⟨t, rest⟩)
    | .error e => (.error e, ⟨w.state, rest⟩)
  ExceptT.mk (Proc.act fun w =>
    match w.faults with
    | some e :: rest => (.error e, { w with faults := rest })
    | none :: rest => take w rest
    | [] => take w [])

structure Always (J : σ → Prop) (p : Fallible ε (Faulty σ) α) (Q : α → σ → Prop) (E : σ → Prop) (s : σ) : Prop where
  along : ∀ faults, Along (fun w => J w.state) p ⟨s, faults⟩
  returns : ∀ faults a w, run p ⟨s, faults⟩ = (.ok a, w) → Q a w.state
  fails : ∀ faults e w, run p ⟨s, faults⟩ = (.error e, w) → E w.state

variable {J : σ → Prop} {E F : σ → Prop} {R : β → σ → Prop} {Q : α → σ → Prop} {s : σ}

variable {p : Fallible ε (Faulty σ) α} {d : Fallible δ (Faulty σ) β}

theorem Always.point (always : Always J p Q E s) (faults : List (Option String)) (n : Nat) :
    J (cut n p ⟨s, faults⟩).state := along_cut (always.along faults)

protected theorem Always.mono {Q' : α → σ → Prop} (always : Always J p Q' F s)
    (post : ∀ a t, J t → Q' a t → Q a t) (failed : ∀ t, J t → F t → E t) : Always J p Q E s := by
  refine ⟨always.along, fun faults a w ran => ?_, fun faults e w ran => ?_⟩
  · have ended := along_run (always.along faults)
    rw [ran] at ended
    exact post a w.state ended (always.returns faults a w ran)
  · have ended := along_run (always.along faults)
    rw [ran] at ended
    exact failed w.state ended (always.fails faults e w ran)

protected theorem Always.weaken {K : σ → Prop} (always : Always K p Q E s) (weaker : ∀ t, K t → J t) : Always J p Q E s := by
  have along (q : Proc (Faulty σ) (Except ε α)) (w : Faulty σ) (held : q.Along (fun w => K w.state) w) :
      q.Along (fun w => J w.state) w := by
    induction q generalizing w with
    | done r => exact weaker w.state held
    | step effect next ih => exact ⟨weaker w.state held.1, ih w (effect w) held.2⟩
  exact ⟨fun faults => along _ _ (always.along faults), always.returns, always.fails⟩

protected theorem Always.pure {a : α} (inv : J s) (post : Q a s) : Always J (pure a : Fallible ε (Faulty σ) α) Q E s := by
  refine ⟨fun _ => inv, fun faults b w ran => ?_, fun faults e w ran => by cases ran⟩
  cases ran
  exact post

protected theorem Always.throw {e : ε} (inv : J s) (failed : E s) : Always J (throw e : Fallible ε (Faulty σ) α) Q E s := by
  refine ⟨fun _ => inv, fun faults b w ran => (by cases ran), fun faults e w ran => ?_⟩
  cases ran
  exact failed

protected theorem Always.ofExcept {r : Except ε α} (inv : J s) (post : ∀ a, r = .ok a → Q a s)
    (failed : ∀ e, r = .error e → E s) : Always J (ofExcept r : Fallible ε (Faulty σ) α) Q E s := by
  cases r with
  | ok a => exact .pure inv (post a rfl)
  | error e => exact .throw inv (failed e rfl)

protected theorem Always.observe {f : σ → α} (inv : J s) (post : Q (f s) s) :
    Always J (observe f : Fallible ε (Faulty σ) α) Q E s := by
  refine ⟨fun _ => ⟨inv, inv⟩, fun faults b w ran => ?_, fun faults e w ran => by cases ran⟩
  cases ran
  exact post

theorem run_perform {op : σ → Except String (α × σ)} {s : σ} {faults : List (Option String)} :
    (∃ a t rest, run (perform op) ⟨s, faults⟩ = (.ok a, ⟨t, rest⟩) ∧ op s = .ok (a, t)) ∨
      ∃ e rest, run (perform op) ⟨s, faults⟩ = (.error e, ⟨s, rest⟩) := by
  have served : (∃ rest, run (perform op) ⟨s, faults⟩ = run (perform op) ⟨s, none :: rest⟩) ∨
      ∃ e rest, run (perform op) ⟨s, faults⟩ = (.error e, ⟨s, rest⟩) := by
    rcases faults with _ | ⟨_ | e, rest⟩
    · exact .inl ⟨[], rfl⟩
    · exact .inl ⟨rest, rfl⟩
    · exact .inr ⟨e, rest, rfl⟩
  rcases served with ⟨rest, here⟩ | failed
  · cases eq : op s with
    | ok pair =>
      refine .inl ⟨pair.1, pair.2, rest, here.trans ?_, rfl⟩
      simp [run, perform, Proc.act, Proc.run, ExceptT.run, ExceptT.mk, eq]
    | error e =>
      refine .inr ⟨e, rest, here.trans ?_⟩
      simp [run, perform, Proc.act, Proc.run, ExceptT.run, ExceptT.mk, eq]
  · exact .inr failed

variable {op : σ → Except String (α × σ)}

protected theorem Always.perform (inv : J s) (failed : E s)
    (effect : ∀ a t, op s = .ok (a, t) → J t ∧ Q a t) : Always J (perform op) Q E s := by
  refine ⟨fun faults => ⟨inv, ?_⟩, fun faults b w returned => ?_, fun faults e w ended => ?_⟩
  · change J (run (perform op) ⟨s, faults⟩).2.state
    rcases run_perform with ⟨a, t, rest, ok, done⟩ | ⟨e, rest, error⟩
    · rw [ok]
      exact (effect a t done).1
    · rw [error]
      exact inv
  · rcases run_perform with ⟨a, t, rest, ok, done⟩ | ⟨e, rest, error⟩
    · cases ok.symm.trans returned
      exact (effect b t done).2
    · cases error.symm.trans returned
  · rcases run_perform with ⟨a, t, rest, ok, done⟩ | ⟨e', rest, error⟩
    · cases ok.symm.trans ended
    · cases error.symm.trans ended
      exact failed

theorem run_perform_served {faults : List (Option String)} (served : faults.head?.join = none) :
    run (perform op) ⟨s, faults⟩ = match op s with
      | .ok (a, t) => (.ok a, ⟨t, faults.tail⟩)
      | .error e => (.error e, ⟨s, faults.tail⟩) := by
  rcases faults with _ | ⟨_ | e, rest⟩
  · rfl
  · rfl
  · cases served

protected theorem Always.anything {p : Fallible ε (Faulty σ) α} {s : σ} :
    Always (fun _ => True) p (fun _ _ => True) (fun _ => True) s := by
  have along (q : Proc (Faulty σ) (Except ε α)) (w : Faulty σ) : q.Along (fun _ => True) w := by
    induction q generalizing w with
    | done r => exact trivial
    | step effect next ih => exact ⟨trivial, ih w (effect w)⟩
  exact ⟨fun faults => along _ _, fun _ _ _ _ => trivial, fun _ _ _ _ => trivial⟩

protected theorem Always.bind {p : Fallible ε (Faulty σ) β} {f : β → Fallible ε (Faulty σ) α} (first : Always J p R E s)
    (second : ∀ b t, J t → R b t → Always J (f b) Q E t) : Always J (p >>= f) Q E s := by
  have next (faults : List (Option String)) (b : β) (w : Faulty σ) (ran : run p ⟨s, faults⟩ = (.ok b, w)) :
      Always J (f b) Q E w.state := by
    have ended := along_run (first.along faults)
    rw [ran] at ended
    exact second b w.state ended (first.returns faults b w ran)
  refine ⟨fun faults => .bind (first.along faults) fun b w ran => (next faults b w ran).along w.faults, ?_, ?_⟩
  · intro faults a w returned
    obtain ⟨b, u, ran, rest⟩ := ok_of_bind returned
    exact (next faults b u ran).returns u.faults a w rest
  · intro faults e w ended
    rcases run_bind_cases ended with ⟨e', ran, eq⟩ | ⟨b, u, ran, rest⟩
    · exact first.fails faults e' w ran
    · exact (next faults b u ran).fails u.faults e w rest

protected theorem Always.see {f : σ → β} {k : β → Fallible ε (Faulty σ) α} (inv : J s) (rest : Always J (k (f s)) Q E s) :
    Always J (observe f >>= k) Q E s := by
  refine .bind (R := fun b t => b = f s ∧ t = s) (.observe inv ⟨rfl, rfl⟩) fun b t _ found => ?_
  obtain ⟨rfl, rfl⟩ := found
  exact rest

protected theorem Always.check {r : Except ε β} {k : β → Fallible ε (Faulty σ) α} (inv : J s) (failed : E s)
    (rest : ∀ b, r = .ok b → Always J (k b) Q E s) : Always J (ofExcept r >>= k) Q E s := by
  refine .bind (R := fun b t => r = .ok b ∧ t = s)
    (.ofExcept inv (fun b ok => ⟨ok, rfl⟩) fun _ _ => failed) fun b t _ found => ?_
  obtain ⟨ok, rfl⟩ := found
  exact rest b ok

protected theorem Always.mapError {f : ε → δ} (always : Always J p Q E s) : Always J (mapError f p) Q E s := by
  refine ⟨fun faults => .mapError (always.along faults), fun faults a w ran => ?_, fun faults e w ran => ?_⟩
  · exact always.returns faults a w (ok_of_mapError ran)
  · rw [run_mapError] at ran
    cases ended : run p ⟨s, faults⟩ with
    | mk r u =>
      rw [ended] at ran
      cases r with
      | ok a => cases ran
      | error e' =>
        cases ran
        exact always.fails faults e' u ended

def Either (R : β → σ → Prop) (F : σ → Prop) : Except δ β → σ → Prop
  | .ok b, s => R b s
  | .error _, s => F s

/-- `q` runs `p` and goes on with `g` of what came of it. -/
protected theorem Always.caught {q : Fallible ε (Faulty σ) α} (g : Except δ β → α)
    (first : Always J d R F s) (along : ∀ faults, Along (fun w => J w.state) q ⟨s, faults⟩)
    (same : ∀ w, run q w = (.ok (g (run d w).1), (run d w).2)) (returned : ∀ b t, J t → R b t → Q (g (.ok b)) t)
    (failed : ∀ e t, J t → F t → Q (g (.error e)) t) : Always J q Q E s := by
  refine ⟨along, fun faults a w ran => ?_, fun faults e w ran => ?_⟩
  · have ended := along_run (first.along faults)
    rw [same] at ran
    cases done : run d ⟨s, faults⟩ with
    | mk r u =>
      rw [done] at ran ended
      cases ran
      cases r with
      | ok b => exact returned b u.state ended (first.returns faults b u done)
      | error e => exact failed e u.state ended (first.fails faults e u done)
  · rw [same] at ran
    cases ran

protected theorem Always.attempt {k : Except δ β → Fallible ε (Faulty σ) α}
    (first : Always J d R F s) (returned : ∀ b t, J t → R b t → Always J (k (.ok b)) Q E t)
    (failed : ∀ e t, J t → F t → Always J (k (.error e)) Q E t) : Always J (attempt d >>= k) Q E s := by
  have tried : Always J (attempt d : Fallible ε (Faulty σ) (Except δ β)) (Either R F) E s :=
    .caught id first (fun faults => .attempt (first.along faults)) (run_attempt d) (fun _ _ _ found => found)
      fun _ _ _ found => found
  refine .bind tried fun r t inv found => ?_
  cases r with
  | ok b => exact returned b t inv found
  | error e => exact failed e t inv found

protected theorem Always.ignore {Q : Unit → σ → Prop} (first : Always J d R F s)
    (returned : ∀ b t, J t → R b t → Q () t) (failed : ∀ t, J t → F t → Q () t) :
    Always J (ignoreError d : Fallible ε (Faulty σ) Unit) Q E s :=
  .caught (fun _ => ()) first (fun faults => .ignoreError (first.along faults)) (run_ignoreError d) returned
    fun _ => failed

protected theorem Always.succeeds {Q : Bool → σ → Prop} (first : Always J d R F s)
    (returned : ∀ b t, J t → R b t → Q true t) (failed : ∀ t, J t → F t → Q false t) :
    Always J (succeeds d : Fallible ε (Faulty σ) Bool) Q E s :=
  .caught _ first (fun faults => .succeeds (first.along faults)) (run_succeeds d) returned fun _ => failed

def Keeps (I : σ → Prop) (p : Fallible ε (Faulty σ) α) : Prop := ∀ s, I s → Always I p (fun _ _ => True) (fun _ => True) s

section Keeps
variable {I : σ → Prop}

theorem Keeps.always (keeps : Keeps I p) (inv : I s) (weaker : ∀ t, I t → J t) : Always J p (fun _ t => I t) I s := by
  have kept := keeps s inv
  refine .weaken (K := I) ⟨kept.along, fun faults a w ran => ?_, fun faults e w ran => ?_⟩ weaker
  · have ended := along_run (kept.along faults)
    rw [ran] at ended
    exact ended
  · have ended := along_run (kept.along faults)
    rw [ran] at ended
    exact ended

theorem Keeps.reaches (keeps : Keeps I p) (inv : I s) : Always (fun _ => True) p (fun _ => I) (fun _ => True) s :=
  .mono (keeps.always inv fun _ _ => trivial) (fun _ _ _ inv => inv) fun _ _ _ => trivial

protected theorem Keeps.pure {a : α} : Keeps I (pure a : Fallible ε (Faulty σ) α) := fun _ inv => .pure inv trivial

protected theorem Keeps.throw {e : ε} : Keeps I (throw e : Fallible ε (Faulty σ) α) := fun _ inv => .throw inv trivial

protected theorem Keeps.ofExcept {r : Except ε α} : Keeps I (ofExcept r : Fallible ε (Faulty σ) α) :=
  fun _ inv => .ofExcept inv (fun _ _ => trivial) fun _ _ => trivial

protected theorem Keeps.observe {f : σ → α} : Keeps I (observe f : Fallible ε (Faulty σ) α) :=
  fun _ inv => .observe inv trivial

protected theorem Keeps.perform (stable : ∀ s a t, I s → op s = .ok (a, t) → I t) :
    Keeps I (perform op) := fun s inv => .perform inv trivial fun a t done => ⟨stable s a t inv done, trivial⟩

protected theorem Keeps.bind {p : Fallible ε (Faulty σ) β} {f : β → Fallible ε (Faulty σ) α} (first : Keeps I p)
    (second : ∀ b, Keeps I (f b)) : Keeps I (p >>= f) :=
  fun s inv => .bind (first s inv) fun b t inv _ => second b t inv

protected theorem Keeps.mapError {f : ε → δ} (keeps : Keeps I p) : Keeps I (mapError f p) :=
  fun s inv => .mapError (keeps s inv)

protected theorem Keeps.attempt {k : Except δ β → Fallible ε (Faulty σ) α} (first : Keeps I d)
    (second : ∀ r, Keeps I (k r)) : Keeps I (attempt d >>= k) :=
  fun s inv => .attempt (first s inv) (fun b t inv _ => second (.ok b) t inv) fun e t inv _ => second (.error e) t inv

protected theorem Keeps.ignore (keeps : Keeps I d) : Keeps I (ignoreError d : Fallible ε (Faulty σ) Unit) :=
  fun s inv => .ignore (keeps s inv) (fun _ _ _ _ => trivial) fun _ _ _ => trivial

protected theorem Keeps.succeeds (keeps : Keeps I d) : Keeps I (succeeds d : Fallible ε (Faulty σ) Bool) :=
  fun s inv => .succeeds (keeps s inv) (fun _ _ _ _ => trivial) fun _ _ _ => trivial

protected theorem Keeps.forM {f : β → Fallible ε (Faulty σ) PUnit} {l : List β} (each : ∀ b ∈ l, Keeps I (f b)) :
    Keeps I (l.forM f) := by
  induction l with
  | nil => exact .pure
  | cons b rest ih =>
    exact .bind (each b List.mem_cons_self) fun _ => ih fun b mem => each b (List.mem_cons_of_mem _ mem)

end Keeps

def Yields {τ : Type} (P : α → Prop) (p : Fallible ε τ α) : Prop := ∀ s a t, run p s = (.ok a, t) → P a

section Yields
variable {τ : Type} {P : α → Prop}

protected theorem Yields.pure {a : α} (holds : P a) : Yields P (pure a : Fallible ε τ α) := by
  intro s b t ran
  cases ran
  exact holds

protected theorem Yields.throw {e : ε} : Yields P (throw e : Fallible ε τ α) := by
  intro s b t ran
  cases ran

protected theorem Yields.bind {p : Fallible ε τ β} {f : β → Fallible ε τ α} (each : ∀ b, Yields P (f b)) :
    Yields P (p >>= f) := by
  intro s a t ran
  obtain ⟨b, u, -, rest⟩ := ok_of_bind ran
  exact each b u a t rest

theorem Always.yields (always : Always J p Q E s) (yields : Yields P p) : Always J p (fun a t => Q a t ∧ P a) E s :=
  ⟨always.along, fun faults a w ran => ⟨always.returns faults a w ran, yields _ a w ran⟩, always.fails⟩

end Yields

end NastyEngine.Fallible
