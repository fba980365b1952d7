import NastyEngine.Lib.Proc

/-!
# Contracts with a crash invariant

`Ensures J p Q s`: from `s` the process ends without an error, its result and final state satisfy
`Q`, and `J` holds at every point on the way, so wherever it may be cut off.
-/

namespace NastyEngine.Fallible
variable {σ α β ε δ τ : Type} {J : σ → Prop}

def Ensures (J : σ → Prop) (p : Fallible ε σ α) (Q : α → σ → Prop) (s : σ) : Prop :=
  Along J p s ∧ ∃ a t, run p s = (.ok a, t) ∧ Q a t

variable {Q : α → σ → Prop} {a : α} {s : σ}

protected theorem Ensures.pure (inv : J s) (post : Q a s) :
    Ensures J (pure a : Fallible ε σ α) Q s := ⟨inv, a, s, rfl, post⟩

protected theorem Ensures.ofOk {r : Except ε α} (ok : r = .ok a) (inv : J s) (post : Q a s) : Ensures J (ofExcept r) Q s :=
  ⟨inv, a, s, by rw [run_ofExcept, ok], post⟩

theorem ensures_read_bind {f : σ → α} {k : α → Fallible ε σ β} {R : β → σ → Prop} (inv : J s)
    (rest : Ensures J (k (f s)) R s) : Ensures J (read f >>= k) R s := ⟨along_read_bind inv rest.1, rest.2⟩

protected theorem Ensures.modify {f : σ → σ} {Q : Unit → σ → Prop} (before : J s) (after : J (f s))
    (post : Q () (f s)) : Ensures J (modify f : Fallible ε σ Unit) Q s :=
  ⟨⟨before, after⟩, (), f s, rfl, post⟩

protected theorem Ensures.lift {p : Proc σ α} (along : p.Along J s)
    (post : Q (p.run s).1 (p.run s).2) : Ensures J (liftM p : Fallible ε σ α) Q s :=
  ⟨.lift along, _, _, run_lift p s, post⟩

variable {p : Fallible ε σ α}

protected theorem Ensures.bind {f : α → Fallible ε σ β} {R : β → σ → Prop} (first : Ensures J p Q s)
    (second : ∀ a t, Q a t → Ensures J (f a) R t) : Ensures J (p >>= f) R s := by
  obtain ⟨along, a, t, ran, post⟩ := first
  obtain ⟨alongRest, b, u, ranRest, postRest⟩ := second a t post
  refine ⟨.bind along ?_, b, u, (run_bind_ok ran).trans ranRest, postRest⟩
  intro a' t' ran'
  obtain ⟨rfl, rfl⟩ := Prod.mk.inj (ran.symm.trans ran') |>.imp Except.ok.inj id
  exact alongRest

protected theorem Ensures.mono {R : α → σ → Prop} (h : Ensures J p Q s) (weaker : ∀ a t, Q a t → R a t) : Ensures J p R s := by
  obtain ⟨along, a, t, ran, post⟩ := h
  exact ⟨along, a, t, ran, weaker a t post⟩

protected theorem Ensures.mapError {f : ε → δ} (h : Ensures J p Q s) : Ensures J (mapError f p) Q s := by
  obtain ⟨along, a, t, ran, post⟩ := h
  refine ⟨.mapError along, a, t, ?_, post⟩
  rw [run_mapError, ran]
  rfl

protected theorem Ensures.ignoreError {Q : σ → Prop} (h : Ensures J p (fun _ => Q) s) :
    Ensures J (ignoreError p : Fallible δ σ Unit) (fun _ => Q) s := by
  obtain ⟨along, a, t, ran, post⟩ := h
  refine ⟨.ignoreError along, (), t, ?_, post⟩
  rw [run_ignoreError, ran]

protected theorem Ensures.succeeds {Q : σ → Prop} (h : Ensures J p (fun _ => Q) s) :
    Ensures J (succeeds p : Fallible δ σ Bool) (fun ok t => ok = true ∧ Q t) s := by
  obtain ⟨along, a, t, ran, post⟩ := h
  refine ⟨.succeeds along, true, t, ?_, rfl, post⟩
  rw [run_succeeds, ran]
  rfl

protected theorem Ensures.zoom {get : τ → σ} {set : σ → τ → τ} (lens : Proc.Lens get set) {J : τ → Prop}
    (stable : ∀ s t, J t → J (set s t)) {t : τ} (inv : J t) (ran : run p (get t) = (.ok a, s))
    {Q : α → τ → Prop} (post : Q a (set s t)) :
    Ensures J (zoom get set p) Q t := by
  refine ⟨.zoom stable p inv, a, set s t, (Proc.run_zoom lens t).trans ?_, post⟩
  rw [show (ExceptT.run p).run (get t) = _ from ran]

theorem ensures_run {t : σ} {r : Except ε α} (h : Ensures J p Q s) (ran : run p s = (r, t)) : ∃ a, r = .ok a ∧ Q a t := by
  obtain ⟨-, a, u, ran', post⟩ := h
  obtain ⟨rfl, rfl⟩ := Prod.mk.inj (ran.symm.trans ran')
  exact ⟨a, rfl, post⟩

end NastyEngine.Fallible
