import Mathlib.Data.List.Nodup

/-!
# Finding and changing one element of a list
-/

namespace NastyEngine.Lib
open List

variable {α β : Type} {p : α → Option α}

theorem map_replaceF {f : α → β} {q : α → Prop} [DecidablePred q] {g : α → α} (same : ∀ a, f (g a) = f a)
    {xs : List α} : (xs.replaceF fun a => if q a then some (g a) else none).map f = xs.map f := by
  induction xs with
  | nil => rfl
  | cons x rest ih =>
    by_cases hit : q x
    · simp only [replaceF_cons, if_pos hit, map_cons, same]
    · simp only [replaceF_cons, if_neg hit, map_cons, ih]

theorem forall₂_replaceF {R : α → α → Prop} (same : ∀ a, R a a) (changed : ∀ a b, p a = some b → R a b)
    (xs : List α) : List.Forall₂ R xs (xs.replaceF p) := by
  have unchanged (ys : List α) : List.Forall₂ R ys ys := forall₂_same.mpr fun a _ => same a
  induction xs with
  | nil => exact .nil
  | cons x rest ih =>
    cases eq : p x with
    | none =>
      rw [replaceF_cons_of_none _ eq]
      exact .cons (same x) ih
    | some y =>
      rw [replaceF_cons_of_some _ eq]
      exact .cons (changed x y eq) (unchanged rest)

theorem forall₂_join {γ : Type} {R : α → β → Prop} {S : α → γ → Prop} {T : β → γ → Prop} {as : List α} {bs : List β}
    {cs : List γ} (join : ∀ a b c, R a b → S a c → T b c) (left : List.Forall₂ R as bs) (right : List.Forall₂ S as cs) :
    List.Forall₂ T bs cs := by
  induction left generalizing cs with
  | nil =>
    cases right
    exact .nil
  | cons first _ ih => cases right with
    | cons here later => exact .cons (join _ _ _ first here) (ih later)

variable {a : α} {q : α → Bool} {xs : List α}

theorem replaceF_of_find (eq : xs.find? q = some a) (f : α → α) : ∃ before after, xs = before ++ a :: after ∧
      xs.replaceF (fun x => if q x then some (f x) else none) = before ++ f a :: after := by
  induction xs with
  | nil => cases eq
  | cons x rest ih =>
    by_cases hit : q x = true
    · rw [find?_cons_of_pos hit] at eq
      cases eq
      exact ⟨[], rest, rfl, replaceF_cons_of_some _ (if_pos hit)⟩
    · rw [find?_cons_of_neg hit] at eq
      obtain ⟨before, after, split, replaced⟩ := ih eq
      have skipped : (if q x then some (f x) else none) = none := if_neg hit
      refine ⟨x :: before, after, congrArg (x :: ·) split, ?_⟩
      rw [replaceF_cons, skipped]
      exact congrArg (x :: ·) replaced

theorem eraseP_of_find (eq : xs.find? q = some a) :
    ∃ before after, xs = before ++ a :: after ∧ (∀ x ∈ before, q x = false) ∧ xs.eraseP q = before ++ after := by
  obtain ⟨hit, before, after, rfl, earlier⟩ := find?_eq_some_iff_append.mp eq
  have others : ∀ x ∈ before, q x = false := by simpa using earlier
  refine ⟨before, after, rfl, others, ?_⟩
  rw [eraseP_append_right _ (by simpa using others), eraseP_cons_of_pos hit]

theorem mem_eraseP_of_find (mem : a ∈ xs) (ne : xs.find? q ≠ some a) : a ∈ xs.eraseP q := by
  cases hit : xs.find? q with
  | none => rwa [eraseP_of_forall_not (find?_eq_none.mp hit)]
  | some b =>
    obtain ⟨before, after, rfl, _, erased⟩ := eraseP_of_find hit
    have different : a ≠ b := fun eq => ne (eq ▸ hit)
    rw [erased]
    rcases mem_append.mp mem with hm | hm
    · exact mem_append_left _ hm
    · exact mem_append_right _ ((mem_cons.mp hm).resolve_left different)

theorem find?_key [DecidableEq β] {key : α → β} (unique : (xs.map key).Nodup) (mem : a ∈ xs) :
    xs.find? (fun x => key x = key a) = some a := by
  cases hit : xs.find? (fun x => key x = key a) with
  | none => exact absurd (decide_eq_true rfl) (find?_eq_none.mp hit a mem)
  | some b =>
    have eq : key b = key a := by simpa using find?_some hit
    rw [inj_on_of_nodup_map unique (mem_of_find?_eq_some hit) mem eq]

section ModifyKey
variable [DecidableEq β] {key : α → β} {k : β} {f : α → α} {xs : List α}

def modifyKey (key : α → β) (k : β) (f : α → α) (xs : List α) : List α := xs.map fun x => if key x = k then f x else x

theorem mem_modifyKey {y : α} : y ∈ modifyKey key k f xs ↔ ∃ x ∈ xs, (if key x = k then f x else x) = y := by
  simp [modifyKey]

section
variable (keeps : ∀ x, key x = k → key (f x) = k)
include keeps

theorem key_modified (x : α) : key (if key x = k then f x else x) = key x := by
  split
  next hit =>
    rw [keeps x hit, hit]
  · rfl

theorem map_modifyKey : (modifyKey key k f xs).map key = xs.map key := by
  rw [modifyKey, map_map]
  exact map_congr_left fun x _ => key_modified keeps x

theorem find?_modifyKey (k' : β) : (modifyKey key k f xs).find? (key · = k') =
      (xs.find? (key · = k')).map fun x => if key x = k then f x else x := by
  rw [modifyKey, find?_map]
  congr 2
  funext x
  exact congrArg (fun j => decide (j = k')) (key_modified keeps x)

end

end ModifyKey

theorem find?_and {p : α → Bool} {l : List α} (eq : l.find? p = some a) (holds : q a = true) :
    l.find? (fun x => p x && q x) = some a := by
  obtain ⟨kind, before, after, rfl, earlier⟩ := find?_eq_some_iff_append.mp eq
  refine find?_eq_some_iff_append.mpr ⟨?_, before, after, rfl, fun b mem => ?_⟩
  · rw [kind, holds]
    rfl
  · have other := earlier b mem
    rw [Bool.not_eq_eq_eq_not, Bool.not_true] at other ⊢
    rw [other]
    rfl

theorem filter_eraseP {p : α → Bool} {l : List α} (own : ∀ a, l.find? p = some a → q a = false) :
    (l.eraseP p).filter q = l.filter q := by
  cases eq : l.find? p with
  | none => rw [eraseP_of_forall_not (find?_eq_none.mp eq)]
  | some a =>
    obtain ⟨kind, before, after, rfl, earlier⟩ := find?_eq_some_iff_append.mp eq
    have hidden : q a = false := own a eq
    rw [eraseP_append_right _ fun b mem => by simpa using earlier b mem, eraseP_cons_of_pos kind,
      filter_append, filter_append, filter_cons, hidden]
    rfl

end NastyEngine.Lib
