import Mathlib.Data.List.Infix

/-!
# Directories with symbolic links

A path is a list of names from the root. `canonicalize` is what the kernel makes of it: every link is followed, and a
part that is not there is an error. `resolve` is where the path leads once what is missing has been made.
-/

namespace NastyEngine.Lib.Links

abbrev Names := List (List Char)

inductive Node where
  /-- a directory or a file -/
  | entry
  | link (absolute : Bool) (target : Names)

/-- What there is at a path whose own directory contains no links. -/
abbrev Tree := Names → Option Node

def up : List Char := ['.', '.']

section
variable (t : Tree) (missing : Names → Names → Option Names)

/-- Walks on from `cur`; a link is left to `jump`, a part that is not there to `missing`. -/
def steps (jump : Names → Names → Option Names) : Names → Names → Option Names
  | cur, [] => some cur
  | cur, name :: rest =>
    if name = up then steps jump cur.dropLast rest
    else match t (cur ++ [name]) with
      | none => missing cur (name :: rest)
      | some .entry => steps jump (cur ++ [name]) rest
      | some (.link absolute target) => jump (if absolute then [] else cur) (target ++ rest)

/-- At most so many links are followed. -/
def follow : Nat → Names → Names → Option Names
  | 0 => steps t missing fun _ _ => none
  | n + 1 => steps t missing (follow n)

end

def maxLinks : Nat := 40

def descend (cur rest : Names) : Names := rest.foldl (fun cur name => if name = up then cur.dropLast else cur ++ [name]) cur

def canonicalize (t : Tree) (names : Names) : Option Names := follow t (fun _ _ => none) maxLinks [] names

def resolve (t : Tree) (names : Names) : Option Names := follow t (fun cur rest => some (descend cur rest)) maxLinks [] names

/-- A part of the path is a link that does not lead anywhere. -/
def Dangling (t : Tree) (names : Names) : Prop :=
  ∃ front name rest p absolute target, names = front ++ name :: rest ∧ canonicalize t front = some p ∧
    canonicalize t (front ++ [name]) = none ∧ t (p ++ [name]) = some (.link absolute target)

def Linkless (t : Tree) (names : Names) : Prop :=
  ∀ front name, front ++ [name] <+: names → ∀ absolute target, t (front ++ [name]) ≠ some (.link absolute target)

variable {t : Tree}

theorem descend_eq {cur rest : Names} (plain : up ∉ rest) : descend cur rest = cur ++ rest := by
  unfold descend
  induction rest generalizing cur with
  | nil => simp
  | cons name rest ih =>
    rw [List.mem_cons, not_or] at plain
    rw [List.foldl_cons, if_neg (Ne.symm plain.1), ih plain.2, List.append_assoc]
    rfl

theorem follow_cons (missing : Names → Names → Option Names) (n : Nat) (cur : Names) (name : List Char) (rest : Names) :
    follow t missing n cur (name :: rest) =
      if name = up then follow t missing n cur.dropLast rest
      else match t (cur ++ [name]) with
        | none => missing cur (name :: rest)
        | some .entry => follow t missing n (cur ++ [name]) rest
        | some (.link absolute target) => match n with
          | 0 => none
          | n + 1 => follow t missing n (if absolute then [] else cur) (target ++ rest) := by
  cases n <;> rfl

theorem follow_nil (missing : Names → Names → Option Names) (n : Nat) (cur : Names) :
    follow t missing n cur [] = some cur := by
  cases n <;> rfl

/-- What follows a path that is there is read from where that leads, with the links that are left. -/
theorem follow_append {n : Nat} {cur front p : Names} (there : follow t (fun _ _ => none) n cur front = some p) :
    ∃ m, ∀ missing rest, follow t missing n cur (front ++ rest) = follow t missing m p rest := by
  induction n using Nat.strongRecOn generalizing cur front with
  | ind n outer =>
    induction front generalizing cur with
    | nil =>
      rw [follow_nil] at there
      exact ⟨n, fun _ _ => by rw [Option.some.inj there]; rfl⟩
    | cons name front ih =>
      rw [follow_cons] at there
      simp only [List.cons_append, follow_cons]
      by_cases back : name = up
      · simp only [back, if_true] at there ⊢
        exact ih there
      · simp only [back, if_false] at there ⊢
        cases found : t (cur ++ [name]) with
        | none => simp only [found, reduceCtorEq] at there
        | some node =>
          cases node with
          | entry => exact ih (by simpa only [found] using there)
          | link absolute target =>
            cases n with
            | zero => simp only [found, reduceCtorEq] at there
            | succ n =>
              obtain ⟨m, continues⟩ := outer n n.lt_succ_self (by simpa only [found] using there)
              exact ⟨m, fun missing rest => by rw [← continues missing rest, List.append_assoc]⟩

theorem resolve_of_canonical {names p : Names} (there : canonicalize t names = some p) : resolve t names = some p := by
  obtain ⟨m, continues⟩ := follow_append there
  have whole := continues (fun cur rest => some (descend cur rest)) []
  rwa [List.append_nil, follow_nil] at whole

/-- Behind the last part that is there nothing is resolved, unless the next part is a link. -/
theorem resolve_missing {front p rest : Names} {name : List Char} (there : canonicalize t front = some p)
    (gone : canonicalize t (front ++ [name]) = none) (plain : up ∉ name :: rest)
    (sound : ¬Dangling t (front ++ name :: rest)) : resolve t (front ++ name :: rest) = some (p ++ name :: rest) := by
  obtain ⟨m, continues⟩ := follow_append there
  have ahead : name ≠ up := fun eq => plain (eq ▸ List.mem_cons_self)
  have next := continues (fun _ _ => none) [name]
  rw [resolve, continues, follow_cons, if_neg ahead]
  cases found : t (p ++ [name]) with
  | none => simp only [descend_eq plain]
  | some node =>
    cases node with
    | entry =>
      rw [follow_cons, if_neg ahead, found, follow_nil] at next
      cases next.symm.trans gone
    | link absolute target => exact absurd ⟨front, name, rest, p, absolute, target, rfl, there, gone, found⟩ sound

theorem resolve_cut {front p rest : Names} (there : canonicalize t front = some p)
    (gone : ∀ name ∈ rest.head?, canonicalize t (front ++ [name]) = none) (plain : up ∉ rest)
    (sound : ¬Dangling t (front ++ rest)) : resolve t (front ++ rest) = some (p ++ rest) := by
  cases rest with
  | nil => simpa using resolve_of_canonical there
  | cons name rest => exact resolve_missing there (gone name rfl) plain sound

theorem follow_linkless {n : Nat} {cur names : Names} (plain : up ∉ names)
    (linkless : ∀ front name, front ++ [name] <+: names → ∀ absolute target,
      t (cur ++ (front ++ [name])) ≠ some (.link absolute target)) :
    follow t (fun cur rest => some (descend cur rest)) n cur names = some (cur ++ names) := by
  induction names generalizing cur with
  | nil => simp [follow_nil]
  | cons name rest ih =>
    have ahead : name ≠ up := fun eq => plain (eq ▸ List.mem_cons_self)
    rw [follow_cons, if_neg ahead]
    cases found : t (cur ++ [name]) with
    | none => simp only [descend_eq plain]
    | some node =>
      cases node with
      | entry =>
        refine (ih (fun there => plain (List.mem_cons_of_mem _ there)) fun front last within => ?_).trans (by simp)
        have below := linkless (name :: front) last (by simpa using within)
        simpa using below
      | link absolute target => exact absurd found (linkless [] name (by simp) absolute target)

theorem resolve_linkless {names : Names} (plain : up ∉ names) (linkless : Linkless t names) :
    resolve t names = some names :=
  follow_linkless plain linkless

end NastyEngine.Lib.Links
