import NastyEngine.Auth.Service

/-!
The operations refine changes of a directory of accounts, so what the changes keep holds in every
state the service reaches: sessions are copies of accounts as they are now, names are unique as long
as provisioning avoids the names of tokens, and an administrator is left unless the last one is
deleted by someone who is not an administrator any more, or lowered by their identity provider.
-/

namespace NastyEngine.Auth
open Lib List Service

variable {verifyPassword : String → String → Except AuthError Unit} {op : Op} {s t : AuthState} {d : Disk}
  {first svc : Service} {labels : List (Option Op)}

theorem consistent_firstBoot (hash : String) : (firstBoot hash).directory.Consistent := by
  refine ⟨fun _ mem => absurd mem not_mem_nil, ?_, nodup_singleton _⟩
  intro a mem
  rw [mem_singleton.mp mem]
  exact ⟨nofun, fun _ => rfl⟩

theorem Op.keeps_consistent (consistent : s.directory.Consistent)
    (plan : op.plan verifyPassword s = .ok t) : t.directory.Consistent := by
  obtain ⟨change, d, -, amends, turnover⟩ := Op.plan_refines plan
  exact (consistent.amends amends).turnover turnover

theorem consistent_run (installed : d.Installed) (starts : Starts d first)
    (ran : Run (Service.Step verifyPassword) first labels svc) :
    svc.Agrees ∧ svc.state.directory.Consistent := by
  obtain ⟨hash, booted⟩ := starts_installed installed starts
  refine Run.invariant (I := fun svc => svc.Agrees ∧ svc.state.directory.Consistent)
    ⟨starts_agrees starts, booted ▸ consistent_firstBoot hash⟩ ?_ ran
  intro s label t ⟨agrees, consistent⟩ step
  obtain ⟨agrees', unchanged | ⟨op, -, plan⟩⟩ := step.effect agrees
  · exact ⟨agrees', unchanged ▸ consistent⟩
  · exact ⟨agrees', Op.keeps_consistent consistent plan⟩

def HasPrincipal (filePrincipal : Option String) : Prop := ∃ p, filePrincipal = some p ∧ p ≠ ""

/-- Every session is of a user who exists, with that user's role and file principal of now, and the ones with a file
principal are those with the role `user`. -/
theorem sessions_current (installed : d.Installed) (starts : Starts d first)
    (ran : Run (Service.Step verifyPassword) first labels svc) :
    (∀ x ∈ svc.state.sessions, ∃ u ∈ svc.state.users, u.username = x.username ∧
      (∀ v ∈ svc.state.users, v.username = x.username → v = u) ∧
      x.role = u.role ∧ x.filePrincipal = u.filePrincipal) ∧
    (∀ u ∈ svc.state.users, HasPrincipal u.filePrincipal ↔ u.role = .user) ∧
    (∀ x ∈ svc.state.sessions, HasPrincipal x.filePrincipal ↔ x.role = .user) := by
  have consistent := (consistent_run installed starts ran).2
  have bound : ∀ u ∈ svc.state.users, HasPrincipal u.filePrincipal ↔ u.role = .user := fun u hu =>
    (consistent.bound u.account (mem_map_of_mem hu)).hasPrincipal_iff
  have current : ∀ x ∈ svc.state.sessions, ∃ u ∈ svc.state.users, u.account = x.account := by
    intro x hx
    exact mem_map.mp (consistent.current x.account (mem_map_of_mem hx))
  have unique : (svc.state.users.map (·.username)).Nodup := by
    rw [← AuthState.directory_names]
    exact consistent.unique
  refine ⟨?_, bound, ?_⟩
  · intro x hx
    obtain ⟨u, hu, same⟩ := current x hx
    obtain ⟨name, role, principal⟩ := Account.mk.inj same
    refine ⟨u, hu, name, ?_, role.symm, principal.symm⟩
    intro v hv sameName
    exact inj_on_of_nodup_map unique hv hu (sameName.trans name.symm)
  · intro x hx
    obtain ⟨u, hu, same⟩ := current x hx
    obtain ⟨-, role, principal⟩ := Account.mk.inj same
    rw [← role, ← principal]
    exact bound u hu

def adaLogin (role : Role) (now : Nat) (token : String) : Op :=
  .loginOrProvisionOidc { issuer := "idp", subject := "7", preferredUsername := some "ada" } (some role) true
    "10.0.0.3" now token

def roleChange : List Op := [adaLogin .admin 100 "first", adaLogin .readOnly 200 "second"]

theorem sessions_current_after_role_change : Disk.Installed {} ∧ Starts {} (booted "hash") ∧
      Run (Service.Step fun _ _ => .ok ()) (booted "hash") (roleChange.map some)
        ((booted "hash").serve (fun _ _ => .ok ()) roleChange) ∧
      ((booted "hash").serve (fun _ _ => .ok ()) roleChange).state.sessions.map (·.role) = [.readOnly] ∧
      ∀ x ∈ ((booted "hash").serve (fun _ _ => .ok ()) roleChange).state.sessions,
        HasPrincipal x.filePrincipal ↔ x.role = .user :=
  ⟨.fresh rfl, starts_booted, serve_run _ _, by decide +kernel,
    (sessions_current (.fresh rfl) starts_booted (serve_run _ _)).2.2⟩

def AvoidsTokens (s : AuthState) : Op → Prop
  | .loginOrProvisionOidc identity _ autoProvision _ _ _ =>
    autoProvision = true → s.users.find? identity.matches = none →
      pickUsername s.users identity ∉ s.apiTokens.map (·.name)
  | _ => True

theorem Op.keeps_distinct (distinct : s.directory.Distinct) (avoids : AvoidsTokens s op)
    (plan : op.plan verifyPassword s = .ok t) : t.directory.Distinct := by
  obtain ⟨change, d, causes, amends, turnover⟩ := Op.plan_refines plan
  refine (distinct.amends amends ?_).turnover turnover
  intro a provisions
  subst provisions
  cases op with
  | loginOrProvisionOidc =>
    obtain ⟨allowed, missing, named⟩ := causes
    rw [named]
    exact avoids allowed missing
  | _ => exact causes.elim

/-- User names and API token names never meet, unless the identity provider brings a token's name. -/
theorem names_distinct (installed : d.Installed) (starts : Starts d first)
    (ran : Run (Service.StepWhen verifyPassword AvoidsTokens) first labels svc) :
    (svc.state.users.map (·.username) ++ svc.state.apiTokens.map (·.name)).Nodup := by
  obtain ⟨hash, booted⟩ := starts_installed installed starts
  have distinct : first.state.directory.Distinct := by
    rw [booted]
    exact nodup_singleton _
  have reached : svc.state.directory.Distinct :=
    Service.invariant (fun _ _ _ distinct avoids planned => Op.keeps_distinct distinct avoids planned)
      (starts_agrees starts) distinct ran
  rw [← AuthState.directory_names]
  exact reached

def adminSession (mustChangePassword : Bool) : Session :=
  { token := "s1", username := "admin", role := .admin, filePrincipal := none, createdAt := 50
    mustChangePassword, clientIp := some "10.0.0.2" }

/-- After the first boot the administrator logs in, sets a password and creates an API token. -/
def setUp (tokenName : String) (role : Role) : List Op :=
  [.login ⟨"admin", "admin", "10.0.0.2", 50⟩ "s1",
    .changePassword (adminSession true) "admin" "a better one" (.ok "hash of a better one"),
    .createApiToken (adminSession false) { name := tokenName, role } "id" "hash of raw" 60]

def bob : OidcIdentity := { issuer := "idp", subject := "42", preferredUsername := some "bob" }

def bobLogin : Op := .loginOrProvisionOidc bob (some .readOnly) true "10.0.0.3" 70 "s2"

/-- The first OIDC login of a user takes the name of an API token. -/
theorem provisioned_name_taken : Disk.Installed {} ∧ Starts {} (booted "hash") ∧
      ∃ svc, Run (Service.Step fun _ _ => .ok ()) (booted "hash") ((setUp "bob" .operator ++ [bobLogin]).map some) svc ∧
        svc.state.users.map (·.username) = ["admin", "bob"] ∧
        svc.state.apiTokens.map (·.name) = ["bob"] ∧
        ¬ (svc.state.users.map (·.username) ++ svc.state.apiTokens.map (·.name)).Nodup :=
  ⟨.fresh rfl, starts_booted, _, serve_run _ _, by decide +kernel, by decide +kernel, by decide +kernel⟩

theorem names_distinct_beside_token : Disk.Installed {} ∧ Starts {} (booted "hash") ∧ ∃ labels svc,
      Run (Service.StepWhen (fun _ _ => .ok ()) AvoidsTokens) (booted "hash") labels svc ∧
      svc.state.users.map (·.username) = ["admin", "bob"] ∧
      (svc.state.users.map (·.username) ++ svc.state.apiTokens.map (·.name)).Nodup := by
  have ran : Run (Service.StepWhen (fun _ _ => .ok ()) AvoidsTokens) (booted "hash") _
      ((booted "hash").serve (fun _ _ => .ok ()) (setUp "ci" .operator)) :=
    serve_runWhen _ (by simp [setUp, AvoidsTokens])
  have avoids : AvoidsTokens ((booted "hash").serve (fun _ _ => .ok ()) (setUp "ci" .operator)).state bobLogin := by
    intro _ _
    decide +kernel
  have last := ran.snoc ⟨.call _ bobLogin "0" fun _ => none, by rintro op ⟨⟩; exact avoids⟩
  exact ⟨.fresh rfl, starts_booted, _, _, last, by decide +kernel, names_distinct (.fresh rfl) starts_booted last⟩

def AuthState.HasAdmin (s : AuthState) : Prop := ∃ u ∈ s.users, u.role = .admin

def AuthState.HasOtherAdmin (s : AuthState) (username : String) : Prop :=
  ∃ u ∈ s.users, u.role = .admin ∧ u.username ≠ username

/-- Whoever deletes a user is still logged in, or leaves another administrator; and so does an
administrator whose role is lowered by the identity provider. What is refused is not asked. -/
def SparesAdmin (s : AuthState) : Op → Prop
  | .deleteUser session username => (∃ t, deleteUser session username s = .ok t) →
    (∃ x ∈ s.sessions, x.username = session.username ∧ x.role = session.role) ∨ s.HasOtherAdmin username
  | .loginOrProvisionOidc identity derivedRole autoProvision clientIp now token =>
    (∃ t, loginOrProvisionOidc identity derivedRole autoProvision clientIp now token s = .ok t) →
      ∀ u, s.users.find? identity.matches = some u → u.role = .admin → derivedRole = some .admin ∨
        s.HasOtherAdmin u.username
  | _ => True

theorem AuthState.hasAdmin_iff (s : AuthState) : s.directory.HasAdmin ↔ s.HasAdmin := by
  simp [Directory.HasAdmin, AuthState.HasAdmin, AuthState.directory, User.account]

theorem AuthState.spares_iff (s : AuthState) {username : String} :
    s.directory.Spares username ↔ s.HasOtherAdmin username := by
  simp [Directory.Spares, AuthState.HasOtherAdmin, AuthState.directory, User.account]

theorem Op.keeps_admin (consistent : s.directory.Consistent) (admin : s.directory.HasAdmin)
    (spares : SparesAdmin s op) (plan : op.plan verifyPassword s = .ok t) : t.directory.HasAdmin := by
  obtain ⟨change, d, causes, amends, turnover⟩ := Op.plan_refines plan
  refine (admin.amends amends ?_ ?_).turnover turnover
  · intro name dismisses
    subst dismisses
    cases op with
    | deleteUser session username =>
      obtain ⟨rfl, isAdmin, ne⟩ := causes
      rcases spares ⟨t, plan⟩ with ⟨x, hx, sameName, sameRole⟩ | spares
      · exact ⟨x.account, consistent.current _ (mem_map_of_mem hx), sameRole.trans isAdmin,
          fun eq => ne (sameName.symm.trans eq)⟩
      · exact (s.spares_iff).mpr spares
    | _ => exact causes.elim
  · intro name role reassigns
    subst reassigns
    cases op with
    | loginOrProvisionOidc =>
      obtain ⟨derived, u, hit, changed, rfl⟩ := causes
      have mem : u.account ∈ s.directory.accounts := mem_map_of_mem (mem_of_find?_eq_some hit)
      by_cases isAdmin : u.role = .admin
      · rcases spares ⟨t, plan⟩ u hit isAdmin with raised | spares
        · exact .inl (Option.some.inj (derived.symm.trans raised))
        · exact .inr ((s.spares_iff).mpr spares)
      · exact .inr (consistent.spares admin mem isAdmin)
    | _ => exact causes.elim

/-- Once there is an administrator there always is one, unless a token or the identity provider removes the last. -/
theorem admin_remains {mid : Service} {earlier : List (Option Op)} (installed : d.Installed)
    (starts : Starts d first) (before : Run (Service.Step verifyPassword) first earlier mid)
    (admin : mid.state.HasAdmin) (ran : Run (Service.StepWhen verifyPassword SparesAdmin) mid labels svc) :
    svc.state.HasAdmin := by
  obtain ⟨agrees, consistent⟩ := consistent_run installed starts before
  have both : svc.state.directory.Consistent ∧ svc.state.directory.HasAdmin := by
    refine Service.invariant (I := fun s => s.directory.Consistent ∧ s.directory.HasAdmin) ?_ agrees
      ⟨consistent, mid.state.hasAdmin_iff.mpr admin⟩ ran
    intro op s t ⟨consistent, admin⟩ spares planned
    exact ⟨Op.keeps_consistent consistent planned, Op.keeps_admin consistent admin spares planned⟩
  exact svc.state.hasAdmin_iff.mp both.2

def ciSession : Session :=
  { token := "raw", username := "ci", role := .admin, filePrincipal := none, createdAt := 60
    mustChangePassword := false, clientIp := none }

def adaSession : Session :=
  { token := "first", username := "ada", role := .admin, filePrincipal := none, createdAt := 100
    mustChangePassword := false, clientIp := some "10.0.0.3" }

/-- Both ways to be left without an administrator. -/
theorem last_admin_lost : Disk.Installed {} ∧ Starts {} (booted "hash") ∧ (booted "hash").state.HasAdmin ∧
      -- an API token deletes the only user
      (∃ mid svc, Run (Service.Step fun _ _ => .ok ()) (booted "hash") ((setUp "ci" .admin).map some) mid ∧
        validate (fun token => "hash of " ++ token) mid.state "raw" "10.0.0.9" 70 = .ok ciSession ∧
        Run (Service.Step fun _ _ => .ok ()) mid [some (.deleteUser ciSession "admin")] svc ∧
        svc.state.users = []) ∧
      -- the identity provider lowers the last administrator
      ∃ mid svc, Run (Service.Step fun _ _ => .ok ()) (booted "hash") [some (adaLogin .admin 100 "first")] mid ∧
        validate (fun token => "hash of " ++ token) mid.state "first" "10.0.0.3" 150 = .ok adaSession ∧
        Run (Service.Step fun _ _ => .ok ()) mid
          [some (.deleteUser adaSession "admin"), some (adaLogin .readOnly 200 "second")] svc ∧
        svc.state.users.map (fun u => (u.username, u.role)) = [("ada", .readOnly)] :=
  ⟨.fresh rfl, starts_booted, ⟨_, mem_singleton_self _, rfl⟩,
    ⟨_, _, serve_run _ _, by rfl, serve_run _ [.deleteUser ciSession "admin"], by rfl⟩,
    ⟨_, _, serve_run _ [adaLogin .admin 100 "first"], by rfl,
      serve_run _ [.deleteUser adaSession "admin", adaLogin .readOnly 200 "second"], by decide +kernel⟩⟩

theorem admin_remains_after_handover :
    ∃ mid svc, Run (Service.Step fun _ _ => .ok ()) (booted "hash") [some (adaLogin .admin 100 "first")] mid ∧
      mid.state.HasAdmin ∧
      Run (Service.StepWhen (fun _ _ => .ok ()) SparesAdmin) mid [some (.deleteUser adaSession "admin")] svc ∧
      svc.state.users.map (·.username) = ["ada"] ∧ svc.state.HasAdmin := by
  have before : Run (Service.Step fun _ _ => .ok ()) (booted "hash") _
      ((booted "hash").serve (fun _ _ => .ok ()) [adaLogin .admin 100 "first"]) := serve_run _ _
  have admin : ((booted "hash").serve (fun _ _ => .ok ()) [adaLogin .admin 100 "first"]).state.HasAdmin :=
    ⟨_, mem_cons_self, rfl⟩
  have stored : SparesAdmin ((booted "hash").serve (fun _ _ => .ok ()) [adaLogin .admin 100 "first"]).state
      (.deleteUser adaSession "admin") := fun _ => .inl ⟨adaSession, by decide +kernel, rfl, rfl⟩
  have ran : Run (Service.StepWhen (fun _ _ => .ok ()) SparesAdmin)
      ((booted "hash").serve (fun _ _ => .ok ()) [adaLogin .admin 100 "first"])
      ([] ++ [some (.deleteUser adaSession "admin")]) _ :=
    .snoc (.nil _) ⟨.call _ (.deleteUser adaSession "admin") "0" fun _ => none, by rintro op ⟨⟩; exact stored⟩
  exact ⟨_, _, before, admin, ran, by decide +kernel, admin_remains (.fresh rfl) starts_booted before admin ran⟩

end NastyEngine.Auth
