import NastyEngine.Auth.State
import Mathlib.Data.List.Nodup

/-!
What the auth state is for, apart from credentials: accounts with a name, a role and a file
principal; sessions, each a copy of the account it was opened for; and the names of the API tokens.
An operation makes at most one change to accounts or tokens and then turns sessions over.
-/

namespace NastyEngine.Auth
open List

structure Account where
  name : String
  role : Role
  principal : Option String
  deriving DecidableEq

variable {a : Account}

namespace Account

def HasPrincipal (a : Account) : Prop := ∃ p, a.principal = some p ∧ p ≠ ""

structure Bound (a : Account) : Prop where
  ofUser : a.role = .user → a.HasPrincipal
  ofOther : a.role ≠ .user → a.principal = none

def copy (a : Account) : Account := { a with principal := if a.role = .user then a.principal else none }

def reassign (a : Account) (role : Role) : Account :=
  { a with role, principal := if role ≠ .user then none else a.principal }

theorem Bound.hasPrincipal_iff (bound : a.Bound) : a.HasPrincipal ↔ a.role = .user := by
  constructor
  · rintro ⟨p, eq, -⟩
    by_contra ne
    rw [bound.ofOther ne] at eq
    cases eq
  · exact bound.ofUser

theorem Bound.copy_eq (bound : a.Bound) : a.copy = a := by
  unfold copy
  by_cases isUser : a.role = .user
  · rw [if_pos isUser]
  · rw [if_neg isUser, ← bound.ofOther isUser]

theorem bound_reassign {role : Role} (has : role = .user → a.HasPrincipal) : (a.reassign role).Bound := by
  constructor
  · intro isUser
    change role = .user at isUser
    obtain ⟨p, eq, nonempty⟩ := has isUser
    exact ⟨p, by simp [reassign, isUser, eq], nonempty⟩
  · intro ne
    change role ≠ .user at ne
    simp [reassign, ne]

end Account

structure Directory where
  accounts : List Account
  sessions : List Account
  tokens : List String
  deriving DecidableEq

def Directory.names (d : Directory) : List String := d.accounts.map (·.name)

inductive Change where
  | keep
  | enroll (account : Account)
  | provision (account : Account)
  | dismiss (name : String)
  | reassign (name : String) (role : Role)
  | issue (name : String)
  | withdraw

/-- An account is enrolled under a name that nobody has, and provisioned under one that no account
has. A change of role ends the sessions of the account. -/
inductive Amends : Directory → Change → Directory → Prop
  | keep (d : Directory) : Amends d .keep d
  | enroll {d : Directory} {a : Account} (unused : a.name ∉ d.names) (free : a.name ∉ d.tokens)
      (bound : a.Bound) : Amends d (.enroll a) { d with accounts := d.accounts ++ [a] }
  | provision {d : Directory} {a : Account} (unused : a.name ∉ d.names) (bound : a.Bound) :
      Amends d (.provision a) { d with accounts := d.accounts ++ [a] }
  | dismiss (d : Directory) (name : String) : Amends d (.dismiss name) { d with
      accounts := d.accounts.filter (·.name ≠ name), sessions := d.sessions.filter (·.name ≠ name) }
  | reassign (before after : List Account) (a : Account) (sessions : List Account) (tokens : List String)
      (role : Role) (has : role = .user → a.HasPrincipal) :
      Amends ⟨before ++ a :: after, sessions, tokens⟩ (.reassign a.name role)
        ⟨before ++ a.reassign role :: after, sessions.filter (·.name ≠ a.name), tokens⟩
  | issue {d : Directory} {name : String} (unused : name ∉ d.names) (free : name ∉ d.tokens) :
      Amends d (.issue name) { d with tokens := d.tokens ++ [name] }
  | withdraw {d : Directory} {tokens : List String} (fewer : tokens.Sublist d.tokens) :
      Amends d .withdraw { d with tokens }

structure Turnover (d d' : Directory) : Prop where
  accounts : d'.accounts = d.accounts
  tokens : d'.tokens = d.tokens
  sessions : ∀ x ∈ d'.sessions, x ∈ d.sessions ∨ ∃ a ∈ d.accounts, x = a.copy

namespace Directory

structure Consistent (d : Directory) : Prop where
  current : ∀ x ∈ d.sessions, x ∈ d.accounts
  bound : ∀ a ∈ d.accounts, a.Bound
  unique : d.names.Nodup

variable {d d' : Directory} {change : Change}

theorem Consistent.append (consistent : d.Consistent) (unused : a.name ∉ d.names)
    (bound : a.Bound) : Consistent { d with accounts := d.accounts ++ [a] } := by
  refine ⟨fun x hx => mem_append_left _ (consistent.current x hx), ?_, ?_⟩
  · intro b hb
    rcases mem_append.mp hb with old | new
    · exact consistent.bound b old
    · rw [mem_singleton.mp new]
      exact bound
  · change ((d.accounts ++ [a]).map _).Nodup
    rw [map_append, nodup_append]
    refine ⟨consistent.unique, nodup_singleton _, ?_⟩
    intro x hx y hy eq
    rw [map_singleton, mem_singleton] at hy
    exact unused (hy ▸ eq ▸ hx)

theorem Consistent.amends (consistent : d.Consistent) (amends : Amends d change d') : d'.Consistent := by
  cases amends with
  | keep => exact consistent
  | enroll unused _ bound | provision unused bound => exact consistent.append unused bound
  | dismiss =>
    refine ⟨?_, fun a ha => consistent.bound a (mem_of_mem_filter ha), consistent.unique.sublist (filter_sublist.map _)⟩
    intro x hx
    obtain ⟨old, other⟩ := mem_filter.mp hx
    exact mem_filter.mpr ⟨consistent.current x old, other⟩
  | reassign before after a sessions tokens role has =>
    refine ⟨?_, ?_, ?_⟩
    · intro x hx
      obtain ⟨old, other⟩ := mem_filter.mp hx
      have member := consistent.current x old
      simp only [mem_append, mem_cons] at member ⊢
      rcases member with left | rfl | right
      · exact .inl left
      · simp at other
      · exact .inr (.inr right)
    · intro b hb
      simp only [mem_append, mem_cons] at hb
      rcases hb with left | rfl | right
      · exact consistent.bound b (by simp [left])
      · exact Account.bound_reassign has
      · exact consistent.bound b (by simp [right])
    · have unique := consistent.unique
      simp only [names, map_append, map_cons] at unique ⊢
      exact unique
  | issue | withdraw => exact { consistent with }

theorem Consistent.turnover (consistent : d.Consistent) (turnover : Turnover d d') : d'.Consistent := by
  refine ⟨?_, ?_, ?_⟩
  · intro x hx
    rw [turnover.accounts]
    rcases turnover.sessions x hx with old | ⟨a, ha, rfl⟩
    · exact consistent.current x old
    · rw [(consistent.bound a ha).copy_eq]
      exact ha
  · rw [turnover.accounts]
    exact consistent.bound
  · rw [names, turnover.accounts]
    exact consistent.unique

def Distinct (d : Directory) : Prop := (d.names ++ d.tokens).Nodup

theorem Distinct.append (distinct : d.Distinct) (unused : a.name ∉ d.names)
    (free : a.name ∉ d.tokens) : Distinct { d with accounts := d.accounts ++ [a] } := by
  have arranged : ((d.accounts ++ [a]).map (·.name) ++ d.tokens).Perm (a.name :: (d.names ++ d.tokens)) := by
    simp only [names, map_append, map_singleton, append_assoc, singleton_append]
    exact perm_middle
  refine arranged.nodup_iff.mpr (nodup_cons.mpr ⟨?_, distinct⟩)
  simp [unused, free]

theorem Distinct.amends (distinct : d.Distinct) (amends : Amends d change d')
    (clear : ∀ a, change = .provision a → a.name ∉ d.tokens) : d'.Distinct := by
  cases amends with
  | keep => exact distinct
  | enroll unused free _ => exact distinct.append unused free
  | provision unused _ => exact distinct.append unused (clear _ rfl)
  | dismiss =>
    exact distinct.sublist ((filter_sublist.map _).append (List.Sublist.refl _))
  | reassign before after a sessions tokens role has =>
    unfold Distinct names at distinct ⊢
    simp only [map_append, map_cons] at distinct ⊢
    exact distinct
  | @issue _ name unused free =>
    change (d.names ++ (d.tokens ++ [name])).Nodup
    rw [← append_assoc, nodup_append]
    refine ⟨distinct, nodup_singleton _, ?_⟩
    intro x hx y hy eq
    rw [mem_singleton] at hy
    subst hy eq
    rcases mem_append.mp hx with used | taken
    · exact unused used
    · exact free taken
  | withdraw fewer => exact distinct.sublist ((List.Sublist.refl _).append fewer)

theorem Distinct.turnover (distinct : d.Distinct) (turnover : Turnover d d') : d'.Distinct := by
  rw [Distinct, names, turnover.accounts, turnover.tokens]
  exact distinct

def HasAdmin (d : Directory) : Prop := ∃ a ∈ d.accounts, a.role = .admin

def Spares (d : Directory) (name : String) : Prop := ∃ a ∈ d.accounts, a.role = .admin ∧ a.name ≠ name

theorem Consistent.spares (consistent : d.Consistent) (admin : d.HasAdmin) (mem : a ∈ d.accounts)
    (ne : a.role ≠ .admin) : d.Spares a.name := by
  obtain ⟨b, hb, isAdmin⟩ := admin
  refine ⟨b, hb, isAdmin, ?_⟩
  intro eq
  have eq : b = a := inj_on_of_nodup_map consistent.unique hb mem eq
  exact ne (eq ▸ isAdmin)

theorem HasAdmin.amends (admin : d.HasAdmin) (amends : Amends d change d')
    (dismissed : ∀ name, change = .dismiss name → d.Spares name)
    (lowered : ∀ name role, change = .reassign name role → role = .admin ∨ d.Spares name) :
    d'.HasAdmin := by
  obtain ⟨a, ha, isAdmin⟩ := admin
  cases amends with
  | keep | issue | withdraw => exact ⟨a, ha, isAdmin⟩
  | enroll | provision => exact ⟨a, mem_append_left _ ha, isAdmin⟩
  | dismiss =>
    obtain ⟨b, hb, isAdmin, ne⟩ := dismissed _ rfl
    exact ⟨b, mem_filter.mpr ⟨hb, by simpa using ne⟩, isAdmin⟩
  | reassign before after c sessions tokens role has =>
    rcases lowered _ _ rfl with raised | ⟨b, hb, isAdmin, ne⟩
    · exact ⟨c.reassign role, by simp, raised⟩
    · refine ⟨b, ?_, isAdmin⟩
      simp only [mem_append, mem_cons] at hb ⊢
      rcases hb with left | rfl | right
      · exact .inl left
      · exact absurd rfl ne
      · exact .inr (.inr right)

theorem HasAdmin.turnover (admin : d.HasAdmin) (turnover : Turnover d d') : d'.HasAdmin := by
  rw [HasAdmin, turnover.accounts]
  exact admin

end Directory

end NastyEngine.Auth
