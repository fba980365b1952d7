import NastyEngine.Guest.Shares
import NastyEngine.Lib.Run

/-!
The counter of a share is the number of downloads that were registered, as far as it can count. It
does not go down, and a share that was revoked or removed stays so.
-/

namespace NastyEngine.Guest
open Lib StateDir

abbrev Label := Event × Except GuestShareError Unit

def Registers (id : String) : Label → Bool
  | (.register _ id' _, .ok _) => id' = id
  | _ => false

def registrations (id : String) (labels : List Label) : Nat := labels.countP (Registers id)

def Withdraws (id : String) : Label → Bool
  | (.revoke _ id', .ok _) | (.remove _ id', .ok _) => id' = id
  | _ => false

theorem registrations_snoc (id : String) (labels : List Label) (label : Label) :
    registrations id (labels ++ [label]) = registrations id labels + if Registers id label then 1 else 0 := by
  simp [registrations, List.countP_append, List.countP_singleton]

theorem toNat_saturatingAdd (a : UInt32) : (saturatingAdd a 1).toNat = min (a.toNat + 1) (2 ^ 32 - 1) := by
  have one : (1 : UInt32).toNat = 1 := rfl
  unfold saturatingAdd
  rw [one]
  split
  next fits =>
    rw [UInt32.toNat_add, one, Nat.mod_eq_of_lt fits]
    omega
  · rw [UInt32.toNat_ofNat']
    omega

variable {now : Int} {share : GuestShare} {id : String}

theorem lt_of_accessible {m : UInt32}
    (accessible : isAccessible share now = true) (capped : share.maxDownloads = some m) :
    share.downloads.toNat < m.toNat := by
  simp only [isAccessible, capped, Option.all_some, Bool.and_eq_true, decide_eq_true_eq] at accessible
  exact UInt32.lt_iff_toNat_lt.mp accessible.2

theorem revoked_of_accessible (accessible : isAccessible share now = true) : share.revoked = false := by
  simp only [isAccessible, Bool.and_eq_true, Bool.not_eq_true'] at accessible
  exact accessible.1.1

theorem newShare_fresh {c : Creation} (built : newShare c = .ok share) : share.id = c.id ∧ share.downloads = 0 := by
  obtain ⟨_, -, built⟩ := bind_ok built
  obtain ⟨_, -, built⟩ := bind_ok built
  obtain ⟨_, -, built⟩ := bind_ok built
  obtain ⟨_, -, built⟩ := bind_ok built
  cases built
  exact ⟨rfl, rfl⟩

def Counts (n : Nat) : Option GuestShare → Prop
  | none => n = 0
  | some share => share.downloads.toNat = min n (2 ^ 32 - 1) ∧ ∀ m, share.maxDownloads = some m → n ≤ m.toNat

def Counted (labels : List Label) (s : StateDir) : Prop := ∀ id, Counts (registrations id labels) (s.files id)

variable {s t : StateDir} {labels : List Label} {label : Label}

section
variable (counted : Counted labels s)
include counted

theorem counted_same (other : ∀ id, Registers id label = false) : Counted (labels ++ [label]) s := by
  intro id
  rw [registrations_snoc, other id]
  exact counted id

theorem counted_put (other : ∀ id, id ≠ share.id → Registers id label = false)
    (counts : Counts (registrations share.id (labels ++ [label])) (some share)) :
    Counted (labels ++ [label]) (s.put share) := by
  intro id
  by_cases same : id = share.id
  · subst same
    rw [put_self]
    exact counts
  · rw [put_of_ne same, registrations_snoc, other id same]
    exact counted id

theorem counted_kept {share' : GuestShare} (eq : s.files share.id = some share) (sameId : share'.id = share.id)
    (sameCount : share'.downloads = share.downloads) (sameCap : share'.maxDownloads = share.maxDownloads)
    (other : ∀ id, Registers id label = false) : Counted (labels ++ [label]) (s.put share') := by
  refine counted_put counted (fun id _ => other id) ?_
  have counts := counted share.id
  rw [eq] at counts
  rw [registrations_snoc, other, sameId]
  exact ⟨sameCount ▸ counts.1, sameCap ▸ counts.2⟩

theorem counted_registered {io : Io} (eq : s.files share.id = some share) (accessible : isAccessible share now = true) :
    Counted (labels ++ [(.register io share.id now, .ok ())])
      (s.put { share with downloads := saturatingAdd share.downloads 1 }) := by
  refine counted_put counted (fun id ne => by simpa [Registers] using Ne.symm ne) ?_
  have counts := counted share.id
  rw [eq] at counts
  obtain ⟨count, below⟩ := counts
  have one : registrations share.id (labels ++ [(.register io share.id now, .ok ())]) =
      registrations share.id labels + 1 := by
    rw [registrations_snoc]
    simp [Registers]
  rw [one]
  refine ⟨?_, ?_⟩
  · rw [toNat_saturatingAdd, count]
    omega
  · intro m capped
    have := lt_of_accessible accessible capped
    have := below m capped
    have := m.toNat_lt
    omega

theorem Counted.step (step : Step s label t) : Counted (labels ++ [label]) t := by
  obtain ⟨event, r⟩ := label
  obtain ⟨fresh, ran⟩ := step
  cases event.effect ran with
  | refused => exact counted_same counted fun _ => by cases event <;> rfl
  | uncounted view =>
    refine counted_same counted fun id => ?_
    rcases view with ⟨_, _, rfl⟩ | ⟨_, rfl⟩ <;> rfl
  | @created io c share built =>
    obtain ⟨named, zero⟩ := newShare_fresh built
    have unused := counted c.id
    rw [show s.files c.id = none from fresh] at unused
    refine counted_put counted (fun _ _ => rfl) ?_
    rw [registrations_snoc, named, show registrations c.id labels = 0 from unused]
    exact ⟨by rw [zero]; rfl, fun m _ => Nat.zero_le _⟩
  | again | gone => exact counted_same counted fun _ => rfl
  | revoked eq | removed eq | viewed eq => exact counted_kept counted eq rfl rfl rfl fun _ => rfl
  | registered eq accessible => exact counted_registered counted eq accessible

end

theorem counted_run (ran : Run Step .empty labels t) : Counted labels t := by
  have start : Counted [] .empty := fun _ => rfl
  exact Run.history start (fun _ _ _ _ counted step => counted.step step) ran

structure Evolves (a b : GuestShare) : Prop where
  counts : a.downloads.toNat ≤ b.downloads.toNat
  revoked : a.revoked = true → b.revoked = true
  hidden : a.hidden = true → b.hidden = true

theorem Evolves.refl {a : GuestShare} : Evolves a a := ⟨Nat.le_refl _, id, id⟩

theorem Evolves.trans {a b c : GuestShare} (first : Evolves a b) (second : Evolves b c) : Evolves a c :=
  ⟨Nat.le_trans first.counts second.counts, second.revoked ∘ first.revoked, second.hidden ∘ first.hidden⟩

def Follows (s t : StateDir) : Prop :=
  ∀ id share, s.files id = some share → ∃ share', t.files id = some share' ∧ Evolves share share'

theorem Follows.refl {s : StateDir} : Follows s s := fun _ share eq => ⟨share, eq, .refl⟩

theorem Follows.trans {u : StateDir} (first : Follows s t) (second : Follows t u) : Follows s u := by
  intro id share eq
  obtain ⟨mid, eq, evolves⟩ := first id share eq
  obtain ⟨last, eq, evolves'⟩ := second id mid eq
  exact ⟨last, eq, evolves.trans evolves'⟩

theorem follows_put {share' : GuestShare} (hit : s.files share.id = some share)
    (eq : share'.id = share.id) (evolves : Evolves share share') : Follows s (s.put share') := by
  intro id other stored
  by_cases named : id = share'.id
  · subst named
    rw [eq, hit] at stored
    cases stored
    exact ⟨share', put_self, evolves⟩
  · exact ⟨other, by rw [put_of_ne named]; exact stored, .refl⟩

theorem Step.follows (step : Step s label t) : Follows s t := by
  obtain ⟨event, r⟩ := label
  obtain ⟨fresh, ran⟩ := step
  cases event.effect ran with
  | refused | uncounted | again | gone => exact .refl
  | @created io c share built =>
    intro id other stored
    have named := (newShare_fresh built).1
    have ne : id ≠ share.id := by
      intro eq
      rw [eq, named, show s.files c.id = none from fresh] at stored
      cases stored
    exact ⟨other, by rw [put_of_ne ne]; exact stored, .refl⟩
  | revoked hit => exact follows_put hit rfl ⟨Nat.le_refl _, fun _ => rfl, id⟩
  | removed hit => exact follows_put hit rfl ⟨Nat.le_refl _, id, fun _ => rfl⟩
  | viewed hit => exact follows_put hit rfl ⟨Nat.le_refl _, id, id⟩
  | @registered io share now hit =>
    refine follows_put hit rfl ⟨?_, id, id⟩
    have := share.downloads.toNat_lt
    rw [toNat_saturatingAdd]
    omega

theorem follows_run (ran : Run Step s labels t) : Follows s t :=
  Run.invariant .refl (fun _ _ _ follows step => follows.trans step.follows) ran

def IsRevoked (id : String) (s : StateDir) : Prop := ∃ share, s.files id = some share ∧ share.revoked = true

theorem IsRevoked.follows (revoked : IsRevoked id s) (follows : Follows s t) : IsRevoked id t := by
  obtain ⟨share, eq, isRevoked⟩ := revoked
  obtain ⟨share', found', evolves⟩ := follows id share eq
  exact ⟨share', found', evolves.revoked isRevoked⟩

theorem Step.withdraws (step : Step s label t) (withdraws : Withdraws id label = true) : IsRevoked id t := by
  obtain ⟨event, r⟩ := label
  obtain ⟨-, ran⟩ := step
  cases event.effect ran with
  | refused => cases event <;> cases withdraws
  | uncounted view => rcases view with ⟨_, _, rfl⟩ | ⟨_, rfl⟩ <;> cases withdraws
  | created | viewed | registered => cases withdraws
  | again eq isRevoked | gone eq isRevoked =>
    cases of_decide_eq_true withdraws
    exact ⟨_, eq, isRevoked⟩
  | @revoked io share eq =>
    cases of_decide_eq_true withdraws
    exact ⟨_, put_self, rfl⟩
  | @removed io share eq isRevoked =>
    cases of_decide_eq_true withdraws
    exact ⟨_, put_self, isRevoked⟩

theorem withdrawn_run (ran : Run Step s labels t) (withdrawn : labels.any (Withdraws id) = true) : IsRevoked id t := by
  refine Run.history (I := fun labels t => labels.any (Withdraws id) = true → IsRevoked id t) nofun ?_ ran withdrawn
  intro labels s label t ih step withdrawn
  rw [List.any_append, Bool.or_eq_true] at withdrawn
  rcases withdrawn with earlier | now
  · exact (ih earlier).follows step.follows
  · exact step.withdraws (by simpa using now)

theorem Step.refuses (revoked : IsRevoked id s) (step : Step s label t) : Registers id label = false := by
  obtain ⟨event, r⟩ := label
  obtain ⟨-, ran⟩ := step
  cases event.effect ran with
  | refused => cases event <;> rfl
  | uncounted view => rcases view with ⟨_, _, rfl⟩ | ⟨_, rfl⟩ <;> rfl
  | created | again | revoked | gone | removed | viewed => rfl
  | @registered io share now hit accessible =>
    refine decide_eq_false fun eq => ?_
    obtain ⟨other, stored, isRevoked⟩ := revoked
    rw [← eq, hit] at stored
    cases stored
    rw [revoked_of_accessible accessible] at isRevoked
    cases isRevoked

theorem refused_run (revoked : IsRevoked id s) (ran : Run Step s labels t) : registrations id labels = 0 := by
  have both : IsRevoked id t ∧ registrations id labels = 0 := by
    refine Run.history (I := fun labels t => IsRevoked id t ∧ registrations id labels = 0) ⟨revoked, rfl⟩ ?_ ran
    intro labels s label t ⟨revoked, zero⟩ step
    refine ⟨revoked.follows step.follows, ?_⟩
    rw [registrations_snoc, zero, step.refuses revoked]
    rfl
  exact both.2

/-- The counter of a share is the number of downloads registered for it, below its limit, and a share that is withdrawn
registers none. -/
theorem downloads_counted {before after : List Label} (earlier : Run Step .empty before s) (later : Run Step s after t) :
    (∀ id share, t.files id = some share → share.downloads.toNat = min (registrations id (before ++ after)) (2 ^ 32 - 1) ∧
      ∀ m, share.maxDownloads = some m →
        share.downloads.toNat = registrations id (before ++ after) ∧ share.downloads ≤ m) ∧
    (∀ id share, s.files id = some share → ∃ share', t.files id = some share' ∧
      share.downloads.toNat ≤ share'.downloads.toNat ∧ (share.revoked = true → share'.revoked = true) ∧
      (share.hidden = true → share'.hidden = true)) ∧
    ∀ id, before.any (Withdraws id) = true → registrations id after = 0 := by
  have counted : Counted (before ++ after) t := counted_run (earlier.append later)
  refine ⟨?_, ?_, fun id withdrawn => refused_run (withdrawn_run earlier withdrawn) later⟩
  · intro id share found
    have counts := counted id
    rw [found] at counts
    refine ⟨counts.1, fun m capped => ?_⟩
    have below := counts.2 m capped
    have bound := m.toNat_lt
    have exact_ : share.downloads.toNat = registrations id (before ++ after) := by
      rw [counts.1]
      omega
    exact ⟨exact_, UInt32.le_iff_toNat_le.mpr (exact_ ▸ below)⟩
  · intro id share found
    obtain ⟨share', found', evolves⟩ := follows_run later id share found
    exact ⟨share', found', evolves.counts, evolves.revoked, evolves.hidden⟩

theorem registered_often (stored : s.files id = some share)
    (isOpen : share.revoked = false ∧ share.expiresAt = none ∧ share.maxDownloads = none) (n : Nat) :
    ∃ labels t share', Run Step s labels t ∧ registrations id labels = n ∧ t.files id = some share' ∧
      share'.revoked = false ∧ share'.expiresAt = none ∧ share'.maxDownloads = none := by
  induction n with
  | zero => exact ⟨[], s, share, .nil s, rfl, stored, isOpen⟩
  | succ n ih =>
    obtain ⟨labels, t, share', ran, count, eq, revoked, expires, capped⟩ := ih
    have named : share'.id = id := t.named id share' eq
    subst named
    have accessible : isAccessible share' 0 = true := by simp [isAccessible, revoked, expires, capped]
    have step : Step t (.register {} share'.id 0, .ok ())
        (t.put { share' with downloads := saturatingAdd share'.downloads 1 }) :=
      ⟨trivial, register_works eq accessible⟩
    refine ⟨_, _, _, .snoc ran step, ?_, put_self, revoked, expires, capped⟩
    rw [registrations_snoc, count]
    simp [Registers]

def unlimited : Creation where
  request := { paths := ["/fs/tank/a"] }
  canonicalize := .ok
  hashPassword := .ok
  createdBy := "admin"
  now := 0
  id := "a"
  tokenHash := "hash"

def once : Creation := { unlimited with request := { paths := ["/fs/tank/a"], maxDownloads := some 1 } }

def served (events : List Event) : StateDir := events.foldl (fun dir event => (event.run dir).2) .empty

theorem downloads_counted_once :
    ∃ s t share, Run Step .empty [(.create {} once, .ok ()), (.register {} "a" 5, .ok ())] s ∧
      Run Step s [(.register {} "a" 6, .error (.notFound "a")), (.revoke {} "a", .ok ())] t ∧
      t.files "a" = some share ∧ share.downloads.toNat = 1 ∧ share.downloads ≤ 1 := by
  have earlier : Run Step .empty ([] ++ [(.create {} once, .ok ())] ++ [(.register {} "a" 5, .ok ())])
      (served [.create {} once, .register {} "a" 5]) :=
    .snoc (.snoc (.nil _) ⟨rfl, rfl⟩) ⟨trivial, rfl⟩
  have later : Run Step (served [.create {} once, .register {} "a" 5])
      ([] ++ [(.register {} "a" 6, .error (.notFound "a"))] ++ [(.revoke {} "a", .ok ())])
      (served [.create {} once, .register {} "a" 5, .register {} "a" 6, .revoke {} "a"]) :=
    .snoc (.snoc (.nil _) ⟨trivial, rfl⟩) ⟨trivial, rfl⟩
  obtain ⟨counted, -⟩ := downloads_counted earlier later
  obtain ⟨-, capped⟩ := counted "a" _ rfl
  exact ⟨_, _, _, earlier, later, rfl, capped 1 rfl⟩

theorem unlimited_created : ∃ s share, Run Step .empty [(.create {} unlimited, .ok ())] s ∧ s.files "a" = some share ∧
      share.revoked = false ∧ share.expiresAt = none ∧ share.maxDownloads = none :=
  ⟨_, _, .snoc (.nil _) ⟨rfl, rfl⟩, rfl, rfl, rfl, rfl⟩

/-- A share without a limit is downloaded more often than the counter can say. -/
theorem counter_full : ∃ labels t share, Run Step .empty labels t ∧ t.files "a" = some share ∧
      registrations "a" labels = 2 ^ 32 ∧ share.downloads.toNat = 2 ^ 32 - 1 := by
  obtain ⟨s, share, created, stored, isOpen⟩ := unlimited_created
  obtain ⟨labels, t, share', ran, count, found, -⟩ := registered_often stored isOpen (2 ^ 32)
  have total : registrations "a" ([(.create {} unlimited, .ok ())] ++ labels) = 2 ^ 32 := by
    rw [← count]
    simp [registrations, Registers]
  have counts := counted_run (created.append ran) "a"
  rw [found, total] at counts
  exact ⟨_, t, share', created.append ran, found, total, counts.1⟩

end NastyEngine.Guest
