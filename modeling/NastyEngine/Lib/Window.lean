import Mathlib.Data.Multiset.Filter

/-!
# Sliding windows

A log of time stamps that forgets what has left a window of fixed width, as rate limiters keep it.
`Sparse` is the bound a limiter is for; `Tracks` says that the log has forgotten nothing a later
reader would count.
-/

namespace NastyEngine.Lib

/-- No window of width `w` holds more than `limit` stamps. -/
def Sparse (w limit : Nat) (stamps : Multiset Nat) : Prop := ∀ t, stamps.countP (fun s => t ≤ s ∧ s < t + w) ≤ limit

/-- The entries that count at `now`. An entry later than `now` counts. -/
def recent (w now : Nat) (log : List Nat) : List Nat := log.filter fun s => now - s < w

def push (w now : Nat) (log : List Nat) : List Nat := recent w now (log ++ [now])

/-- A reader not older than any entry finds what still counts of the history. -/
def Tracks (w : Nat) (log history : List Nat) : Prop :=
  ∀ now, (∀ s ∈ log, s ≤ now) → (recent w now history).length ≤ (recent w now log).length

variable {w limit : Nat}

theorem Sparse.mono {stamps stamps' : Multiset Nat} (sparse : Sparse w limit stamps')
    (sub : stamps ≤ stamps') : Sparse w limit stamps :=
  fun t => (Multiset.countP_le_of_le _ sub).trans (sparse t)

theorem Sparse.cons {stamps : Multiset Nat} (sparse : Sparse w limit stamps) {now : Nat}
    (few : stamps.countP (fun s => now - s < w) < limit) : Sparse w limit (now ::ₘ stamps) := by
  intro t
  by_cases inv : t ≤ now ∧ now < t + w
  · have counted : stamps.countP (fun s => t ≤ s ∧ s < t + w) ≤ stamps.countP (fun s => now - s < w) := by
      rw [Multiset.countP_eq_card_filter, Multiset.countP_eq_card_filter]
      exact Multiset.card_le_card (Multiset.monotone_filter_right _ fun s _ => by omega)
    rw [Multiset.countP_cons_of_pos (p := fun s => t ≤ s ∧ s < t + w) _ inv]
    omega
  · rw [Multiset.countP_cons_of_neg (p := fun s => t ≤ s ∧ s < t + w) _ inv]
    exact sparse t

theorem recent_append (now : Nat) (log log' : List Nat) :
    recent w now (log ++ log') = recent w now log ++ recent w now log' := List.filter_append ..

theorem countP_eq_recent (now : Nat) (log : List Nat) :
    (log : Multiset Nat).countP (fun s => now - s < w) = (recent w now log).length := by
  rw [Multiset.coe_countP, List.countP_eq_length_filter]
  rfl

theorem tracks_nil {log : List Nat} : Tracks w log [] := fun _ _ => Nat.zero_le _

theorem recent_recent {now later : Nat} (le : now ≤ later) (log : List Nat) :
    recent w later (recent w now log) = recent w later log := by
  unfold recent
  rw [List.filter_filter]
  refine List.filter_congr fun s _ => ?_
  by_cases counts : later - s < w
  · have before : now - s < w := by omega
    simp [counts, before]
  · simp [counts]

theorem recent_max {now later : Nat} (log : List Nat) :
    recent w later (recent w now log) = recent w (max now later) log := by
  unfold recent
  rw [List.filter_filter]
  refine List.filter_congr fun s _ => ?_
  rw [← Bool.decide_and]
  exact decide_eq_decide.mpr (by omega)

theorem Tracks.push {log history : List Nat} (tracks : Tracks w log history) (wide : 0 < w) {now : Nat} :
    Tracks w (push w now log) (now :: history) := by
  intro later newest
  have mem : ∀ s ∈ log ++ [now], now - s < w → s ≤ later := fun s hm counts =>
    newest s (List.mem_filter.mpr ⟨hm, decide_eq_true counts⟩)
  have le : now ≤ later := mem now (by simp) (by omega)
  have old := tracks later fun s hm => by
    by_cases counts : now - s < w
    · exact mem s (by simp [hm]) counts
    · omega
  change (recent w later ([now] ++ history)).length ≤ (recent w later (recent w now (log ++ [now]))).length
  rw [recent_recent le, recent_append, recent_append, List.length_append, List.length_append]
  omega

end NastyEngine.Lib
