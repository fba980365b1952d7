import Mathlib.Data.List.Forall2

/-!
# Results of fallible functions
-/

namespace NastyEngine.Lib
variable {ε α β : Type}

theorem bind_ok {x : Except ε α} {f : α → Except ε β} {b : β} (h : x >>= f = .ok b) : ∃ a, x = .ok a ∧ f a = .ok b := by
  cases x with
  | error e => cases h
  | ok a => exact ⟨a, rfl, h⟩

theorem map_ok {f : α → β} {x : Except ε α} {b : β} (h : x.map f = .ok b) : ∃ a, x = .ok a ∧ f a = b := by
  cases x with
  | error e => cases h
  | ok a => exact ⟨a, rfl, Except.ok.inj h⟩

/-- `ok_or`. -/
def okOr (value : Option α) (error : ε) : Except ε α :=
  match value with
  | some a => .ok a
  | none => .error error

/-- Go on if the condition holds, return the error otherwise. -/
def require (condition : Prop) [Decidable condition] (error : ε) : Except ε Unit :=
  if condition then .ok () else .error error

theorem okOr_ok {value : Option α} {error : ε} {a : α} (h : okOr value error = .ok a) : value = some a := by
  cases value with
  | none => cases h
  | some b => exact congrArg some (Except.ok.inj h)

theorem require_ok {condition : Prop} [Decidable condition] {error : ε} {u : Unit}
    (h : require condition error = .ok u) : condition := by
  unfold require at h
  split at h
  · assumption
  · cases h

theorem forM_ok {f : α → Except ε PUnit} {l : List α} {u : PUnit} (h : l.forM f = .ok u) : ∀ a ∈ l, f a = .ok () := by
  induction l with
  | nil =>
    intro a mem
    cases mem
  | cons first rest ih =>
    obtain ⟨_, here, later⟩ := bind_ok h
    intro a mem
    rcases List.mem_cons.mp mem with rfl | mem
    · exact here
    · exact ih later a mem

theorem mapM_ok {f : α → Except ε β} {l : List α} {bs : List β} :
    l.mapM f = .ok bs ↔ List.Forall₂ (fun a b => f a = .ok b) l bs := by
  induction l generalizing bs with
  | nil => exact ⟨fun h => Except.ok.inj h ▸ .nil, fun h => List.forall₂_nil_left_iff.mp h ▸ rfl⟩
  | cons a l ih =>
    rw [List.mapM_cons, List.forall₂_cons_left_iff]
    constructor
    · intro h
      obtain ⟨b, first, h⟩ := bind_ok h
      obtain ⟨rest, later, done⟩ := bind_ok h
      exact ⟨b, rest, first, ih.mp later, (Except.ok.inj done).symm⟩
    · rintro ⟨b, rest, first, later, rfl⟩
      rw [first, ih.mpr later]
      rfl

def Returns (P : α → Prop) (x : Except ε α) : Prop := ∀ a, x = .ok a → P a

theorem returns_ok {P : α → Prop} {a : α} (holds : P a) : Returns P (.ok a : Except ε α) := by
  intro b eq
  cases eq
  exact holds

theorem returns_bind {P : β → Prop} {x : Except ε α} {f : α → Except ε β} (each : ∀ a, Returns P (f a)) :
    Returns P (x >>= f) := by
  intro b h
  obtain ⟨a, -, h⟩ := bind_ok h
  exact each a b h

end NastyEngine.Lib
