import NastyEngine.Auth.Directory
import NastyEngine.Auth.Operations
import NastyEngine.Lib.Lists

/-! What every operation on the auth state does to the accounts, sessions and token names it holds. -/

namespace NastyEngine.Auth
open Lib Rust List

def User.account (u : User) : Account := ⟨u.username, u.role, u.filePrincipal⟩

def Session.account (x : Session) : Account := ⟨x.username, x.role, x.filePrincipal⟩

def AuthState.directory (s : AuthState) : Directory :=
  ⟨s.users.map User.account, s.sessions.map Session.account, s.apiTokens.map (·.name)⟩

theorem AuthState.directory_names (s : AuthState) : s.directory.names = s.users.map (·.username) := by
  simp only [Directory.names, directory, map_map]
  rfl

theorem suffixed_injective {base : String} : Function.Injective (suffixed base) := by
  intro m n eq
  have digits := congrArg String.toList ((String.append_right_inj _).mp eq)
  rw [Nat.toList_repr, Nat.toList_repr] at digits
  exact toDigits_inj digits

theorem firstFree_taken {taken : List String} {base : String} {bound n : Nat}
    (stuck : firstFree taken base bound n ∈ taken) :
    ∀ i ≤ bound, suffixed base (n + i) ∈ taken := by
  induction bound generalizing n with
  | zero =>
    intro i le
    rw [Nat.le_zero.mp le]
    exact stuck
  | succ bound ih =>
    unfold firstFree at stuck
    split at stuck
    next first =>
      intro i le
      cases i with
      | zero => exact first
      | succ i =>
        have next := ih stuck i (Nat.le_of_succ_le_succ le)
        rwa [show n + (i + 1) = n + 1 + i by omega]
    next free =>
      exact absurd stuck free

/-- More suffixes are tried than there are names. -/
theorem firstFree_free (taken : List String) (base : String) (n : Nat) : firstFree taken base taken.length n ∉ taken := by
  intro stuck
  have all := firstFree_taken stuck
  let tried := (List.range (taken.length + 1)).map fun i => suffixed base (n + i)
  have distinct : tried.Nodup := by
    refine List.Nodup.map ?_ nodup_range
    intro i j eq
    have := suffixed_injective eq
    omega
  have within : tried ⊆ taken := by
    intro name mem
    obtain ⟨i, hi, rfl⟩ := mem_map.mp mem
    exact all i (Nat.le_of_lt_succ (mem_range.mp hi))
  have short := (subperm_of_subset distinct within).length_le
  rw [length_map, length_range] at short
  omega

theorem pickUsername_unused (users : List User) (identity : OidcIdentity) :
    pickUsername users identity ∉ users.map (·.username) := by
  unfold pickUsername
  simp only
  split
  · assumption
  · exact firstFree_free _ _ _

def Op.Causes (s : AuthState) : Op → Change → Prop
  | .loginOrProvisionOidc identity _ autoProvision _ _ _, .provision a =>
    autoProvision = true ∧ s.users.find? identity.matches = none ∧ a.name = pickUsername s.users identity
  | .loginOrProvisionOidc identity derivedRole _ _ _ _, .reassign name role =>
    derivedRole = some role ∧ ∃ u, s.users.find? identity.matches = some u ∧ u.role ≠ role ∧ u.username = name
  | .deleteUser session username, .dismiss name =>
    name = username ∧ session.role = .admin ∧ session.username ≠ username
  | _, .provision _ | _, .reassign _ _ | _, .dismiss _ => False
  | _, _ => True

def Op.Refines (op : Op) (s t : AuthState) : Prop :=
  ∃ change d, op.Causes s change ∧ Amends s.directory change d ∧ Turnover d t.directory

variable {s t : AuthState}

theorem turnover_of {d : Directory} (accounts : t.users.map User.account = d.accounts)
    (tokens : t.apiTokens.map (·.name) = d.tokens)
    (sessions : ∀ x ∈ t.sessions, x.account ∈ d.sessions ∨ ∃ a ∈ d.accounts, x.account = a.copy) :
    Turnover d t.directory := by
  refine ⟨accounts, tokens, ?_⟩
  intro account mem
  obtain ⟨x, hx, rfl⟩ := mem_map.mp mem
  exact sessions x hx

variable {sessions : List Session} {users : List User} {x session : Session} {now : Nat} {user : User}
  {username token : String}

theorem turnover_sessions (fewer : ∀ x ∈ sessions, x.account ∈ s.sessions.map Session.account) :
    Turnover s.directory { s with sessions }.directory :=
  turnover_of rfl rfl fun x hx => .inl (fewer x hx)

theorem turnover_users (eq : users.map User.account = s.users.map User.account) :
    Turnover s.directory { s with users }.directory :=
  turnover_of eq rfl fun _ hx => .inl (mem_map_of_mem hx)

theorem mem_accounts_of_filter {keep : Session → Bool} (mem : x ∈ sessions.filter keep) :
    x.account ∈ sessions.map Session.account :=
  mem_map_of_mem (mem_of_mem_filter mem)

variable {opened : Session}

theorem mem_accounts_of_retained (mem : x ∈ retainLive now sessions ++ [opened]) :
    x.account ∈ sessions.map Session.account ∨ x = opened := by
  rcases mem_append.mp mem with old | new
  · exact .inl (mem_accounts_of_filter old)
  · exact .inr (mem_singleton.mp new)

theorem turnover_opened (mem : user ∈ s.users) (copied : opened.account = user.account.copy) :
    Turnover s.directory { s with sessions := retainLive now s.sessions ++ [opened] }.directory := by
  refine turnover_of rfl rfl fun x hx => ?_
  rcases mem_accounts_of_retained hx with old | rfl
  · exact .inl old
  · exact .inr ⟨user.account, mem_map_of_mem mem, copied⟩

theorem updateUser_accounts {f : User → User} (same : ∀ u, (f u).account = u.account) :
    (updateUser users username f).map User.account = users.map User.account := map_replaceF same

theorem refines_kept {op : Op} (causes : op.Causes s .keep) (turnover : Turnover s.directory t.directory) :
    op.Refines s t := ⟨.keep, s.directory, causes, .keep _, turnover⟩

variable {verifyPassword : String → String → Except AuthError Unit}

theorem login_refines {call : Call}
    (h : login verifyPassword call token s = .ok t) : (Op.login call token).Refines s t := by
  obtain ⟨user, authenticated, h⟩ := bind_ok h
  cases h
  have mem : user ∈ s.users := by
    unfold authenticate at authenticated
    split at authenticated
    · cases authenticated
    next eq =>
      split at authenticated
      · cases authenticated
      next hash _ =>
        cases verified : verifyPassword call.password hash with
        | error e => rw [verified] at authenticated; cases authenticated
        | ok u =>
          rw [verified] at authenticated
          cases authenticated
          exact mem_of_find?_eq_some eq
  exact refines_kept trivial (turnover_opened mem rfl)

theorem withRole_account (user : User) {role : Role} (changed : user.role ≠ role) :
    (user.withRole role).account = user.account.reassign role := by
  rw [User.withRole, if_pos changed]
  rfl

theorem boundPrincipal_has {identity : OidcIdentity} (eq : users.find? identity.matches = some user)
    (bound : (boundPrincipal users identity).any (· ≠ "") = true) : user.account.HasPrincipal := by
  unfold boundPrincipal at bound
  rw [eq, Option.bind_some] at bound
  change ∃ p, user.filePrincipal = some p ∧ p ≠ ""
  cases principal : user.filePrincipal with
  | none => rw [principal] at bound; cases bound
  | some p =>
    rw [principal] at bound
    exact ⟨p, rfl, by simpa using bound⟩

section Oidc
variable {identity : OidcIdentity} {role : Role} {clientIp token : String} {now : Nat}

theorem withRole_same (eq : user.role = role) : user.withRole role = user := by
  rw [User.withRole, if_neg (not_not.mpr eq)]

theorem oidcUser_kept (eq : users.find? identity.matches = some user) :
    users.replaceF (fun u => if identity.matches u then some user else none) = users := by
  obtain ⟨before, after, split, replaced⟩ := replaceF_of_find eq fun _ => user
  rw [replaced, ← split]

theorem withOidcSession_kept (eq : user.role = role) (hit : users.find? identity.matches = some user) :
    s.withOidcSession identity role users user clientIp now token =
      { s with users, sessions := retainLive now s.sessions ++ [user.session token now clientIp false] } := by
  unfold AuthState.withOidcSession
  simp only [withRole_same eq, oidcUser_kept hit, eq, ne_eq, not_true_eq_false, if_false]

theorem withOidcSession_reassigns {prior : User} (hit : s.users.find? identity.matches = some prior)
    (changed : prior.role ≠ role) (has : role = .user → prior.account.HasPrincipal) :
    ∃ d, Amends s.directory (.reassign prior.username role) d ∧
      Turnover d (s.withOidcSession identity role s.users prior clientIp now token).directory := by
  obtain ⟨before, after, split, replaced⟩ := replaceF_of_find hit fun _ => prior.withRole role
  have copied := withRole_account prior changed
  have amends := Amends.reassign (before.map User.account) (after.map User.account) prior.account
    (s.sessions.map Session.account) (s.apiTokens.map (·.name)) role has
  rw [← map_cons, ← map_append, ← split] at amends
  refine ⟨_, amends, turnover_of ?_ rfl fun x hx => ?_⟩
  · simp only [AuthState.withOidcSession, replaced, map_append, map_cons, copied]
  · simp only [AuthState.withOidcSession, if_pos changed] at hx
    rcases mem_accounts_of_retained hx with old | rfl
    · left
      obtain ⟨y, hy, eq⟩ := mem_map.mp old
      obtain ⟨mem, other⟩ := mem_filter.mp hy
      rw [← eq]
      exact mem_filter.mpr ⟨mem_map_of_mem mem, other⟩
    · exact .inr ⟨prior.account.reassign role, by simp, by rw [← copied]; rfl⟩

theorem newUser_found (missing : s.users.find? identity.matches = none) :
    (s.users ++ [identity.newUser s.users role]).find? identity.matches = some (identity.newUser s.users role) := by
  rw [find?_append, missing, Option.none_or, find?_cons_of_pos]
  simp [OidcIdentity.matches, OidcIdentity.newUser]

theorem withOidcSession_provisions (missing : s.users.find? identity.matches = none) (ne : role ≠ .user) :
    ∃ d, Amends s.directory (.provision (identity.newUser s.users role).account) d ∧
      Turnover d (s.withOidcSession identity role (s.users ++ [identity.newUser s.users role])
        (identity.newUser s.users role) clientIp now token).directory := by
  have unused := pickUsername_unused s.users identity
  rw [← AuthState.directory_names] at unused
  refine ⟨_, .provision unused ⟨fun isUser => absurd isUser ne, fun _ => rfl⟩, ?_⟩
  have eq : (identity.newUser s.users role).role = role := rfl
  rw [withOidcSession_kept eq (newUser_found missing)]
  refine turnover_of (by rw [map_append]; rfl) rfl fun x hx => ?_
  rcases mem_accounts_of_retained hx with old | rfl
  · exact .inl old
  · exact .inr ⟨_, mem_append_right _ (mem_singleton_self _), rfl⟩

theorem oidc_refines {derivedRole : Option Role} {autoProvision : Bool}
    (h : loginOrProvisionOidc identity derivedRole autoProvision clientIp now token s = .ok t) :
    (Op.loginOrProvisionOidc identity derivedRole autoProvision clientIp now token).Refines s t := by
  obtain ⟨role, derived, h⟩ := bind_ok h
  have derived := okOr_ok derived
  obtain ⟨_, bound, h⟩ := bind_ok h
  have bound := require_ok bound
  obtain ⟨⟨users, prior⟩, resolved, h⟩ := bind_ok h
  cases h
  unfold resolveOidcUser at resolved
  split at resolved
  next eq =>
    cases resolved
    by_cases same : prior.role = role
    · rw [withOidcSession_kept same eq]
      exact refines_kept trivial (turnover_opened (mem_of_find?_eq_some eq) rfl)
    · obtain ⟨d, amends, turnover⟩ := withOidcSession_reassigns eq same fun isUser =>
        boundPrincipal_has eq (bound isUser)
      exact ⟨.reassign prior.username role, d, ⟨derived, prior, eq, same, rfl⟩, amends, turnover⟩
  next missing =>
    split at resolved
    next provisions =>
      cases resolved
      have ne : role ≠ .user := by
        intro isUser
        have bound := bound isUser
        unfold boundPrincipal at bound
        rw [missing] at bound
        cases bound
      obtain ⟨d, amends, turnover⟩ := withOidcSession_provisions missing ne
      exact ⟨.provision _, d, ⟨provisions, missing, rfl⟩, amends, turnover⟩
    · cases resolved

end Oidc

theorem mintSessionForWebauthn_refines {clientIp : String}
    (h : mintSessionForWebauthn username clientIp now token s = .ok t) :
    (Op.mintSessionForWebauthn username clientIp now token).Refines s t := by
  obtain ⟨user, eq, h⟩ := bind_ok h
  have eq := okOr_ok eq
  cases h
  exact refines_kept trivial (turnover_opened (mem_of_find?_eq_some eq) rfl)

theorem createApiToken_refines {request : ApiTokenRequest} {id tokenHash : String}
    {createdAt : Nat} (h : createApiToken session request id tokenHash createdAt s = .ok t) :
    (Op.createApiToken session request id tokenHash createdAt).Refines s t := by
  obtain ⟨_, _, h⟩ := bind_ok h
  obtain ⟨_, _, h⟩ := bind_ok h
  obtain ⟨_, unused, h⟩ := bind_ok h
  obtain ⟨free, unused⟩ := require_ok unused
  cases h
  rw [← AuthState.directory_names] at unused
  refine ⟨.issue request.name, _, trivial, .issue unused free, turnover_of rfl ?_ fun x hx => ?_⟩
  · rw [map_append]
    rfl
  · exact .inl (mem_map_of_mem hx)

theorem deleteApiToken_refines {id : String}
    (h : deleteApiToken session id s = .ok t) : (Op.deleteApiToken session id).Refines s t := by
  obtain ⟨_, _, h⟩ := bind_ok h
  obtain ⟨_, _, h⟩ := bind_ok h
  cases h
  refine ⟨.withdraw, _, trivial, .withdraw (filter_sublist.map _), turnover_of rfl rfl fun x hx => ?_⟩
  exact .inl (mem_map_of_mem hx)

theorem logout_refines (h : logout token s = .ok t) : (Op.logout token).Refines s t := by
  obtain ⟨_, _, h⟩ := bind_ok h
  cases h
  exact refines_kept trivial (turnover_sessions fun x hx => mem_accounts_of_filter hx)

theorem map_after_password_change {A : Type} {f : Session → A}
    (lifted : ∀ x : Session, f { x with mustChangePassword := false } = f x) (sessions : List Session)
    (target actor currentToken : String) :
    (revokeSessionsAfterPasswordChange sessions target actor currentToken).map f =
      (sessions.filter fun s => s.username ≠ target ∨ (target = actor ∧ s.token = currentToken)).map f := by
  unfold revokeSessionsAfterPasswordChange
  split
  · exact map_replaceF lifted
  · rfl

variable {hashed : Except AuthError String}

theorem changePassword_refines {newPassword : String} (h : changePassword session username newPassword hashed s = .ok t) :
    (Op.changePassword session username newPassword hashed).Refines s t := by
  iterate 3 obtain ⟨_, _, h⟩ := bind_ok h
  obtain ⟨_, _, h⟩ := bind_ok h
  obtain ⟨hash, _, h⟩ := bind_ok h
  cases h
  refine refines_kept trivial (turnover_of (updateUser_accounts fun _ => rfl) rfl fun x hx => ?_)
  have kept := mem_map_of_mem (f := Session.account) hx
  rw [map_after_password_change fun _ => rfl] at kept
  exact .inl ((filter_sublist.map _).subset kept)

theorem validateFilePrincipalBinding_bound {role : Role} {requested filePrincipal : Option String}
    (h : validateFilePrincipalBinding role requested = .ok filePrincipal) (name : String) :
    Account.Bound ⟨name, role, filePrincipal⟩ := by
  cases role with
  | user =>
    obtain ⟨principal, trimmed, h⟩ := bind_ok h
    obtain ⟨-, nonempty⟩ := Option.filter_eq_some_iff.mp (okOr_ok trimmed)
    obtain ⟨_, _, h⟩ := bind_ok h
    cases h
    refine ⟨fun _ => ⟨String.ofList principal, rfl, ?_⟩, fun ne => absurd rfl ne⟩
    intro empty
    have listed := congrArg String.toList empty
    rw [String.toList_ofList] at listed
    simp [listed] at nonempty
  | admin | operator | readOnly =>
    obtain ⟨_, _, h⟩ := bind_ok h
    cases h
    exact ⟨nofun, fun _ => rfl⟩

theorem createUser_refines {request : NewUser} {resolved : Except String Unit}
    (h : createUser session request resolved hashed s = .ok t) :
    (Op.createUser session request resolved hashed).Refines s t := by
  obtain ⟨_, _, h⟩ := bind_ok h
  obtain ⟨_, _, h⟩ := bind_ok h
  obtain ⟨filePrincipal, bound, h⟩ := bind_ok h
  obtain ⟨_, _, h⟩ := bind_ok h
  obtain ⟨_, unused, h⟩ := bind_ok h
  obtain ⟨unused, free⟩ := require_ok unused
  obtain ⟨hash, _, h⟩ := bind_ok h
  cases h
  rw [← AuthState.directory_names] at unused
  refine ⟨.enroll ⟨request.username, request.role, filePrincipal⟩, _, trivial, .enroll unused free
    (validateFilePrincipalBinding_bound bound _), turnover_of ?_ rfl fun x hx => ?_⟩
  · rw [map_append]
    rfl
  · exact .inl (mem_map_of_mem hx)

theorem filter_accounts {A : Type} {account : A → Account} {name : String} {xs : List A} :
    (xs.filter fun x => (account x).name ≠ name).map account = (xs.map account).filter (·.name ≠ name) := by
  rw [filter_map]
  rfl

theorem deleteUser_refines (h : deleteUser session username s = .ok t) :
    (Op.deleteUser session username).Refines s t := by
  obtain ⟨_, isAdmin, h⟩ := bind_ok h
  obtain ⟨_, other, h⟩ := bind_ok h
  obtain ⟨_, _, h⟩ := bind_ok h
  cases h
  refine ⟨.dismiss username, _, ⟨rfl, require_ok isAdmin, require_ok other⟩, .dismiss _ _,
    turnover_of filter_accounts rfl fun x hx => ?_⟩
  have kept := mem_map_of_mem (f := Session.account) hx
  rw [revokeUserSessions, show (s.sessions.filter (·.username ≠ username)).map Session.account = _ from
    filter_accounts] at kept
  exact .inl kept

theorem Op.plan_refines {op : Op} (h : op.plan verifyPassword s = .ok t) : op.Refines s t := by
  cases op with
  | login => exact login_refines h
  | loginOrProvisionOidc => exact oidc_refines h
  | mintSessionForWebauthn => exact mintSessionForWebauthn_refines h
  | dropSession token =>
    cases h
    exact refines_kept trivial (turnover_sessions fun x hx => mem_accounts_of_filter hx)
  | createApiToken => exact createApiToken_refines h
  | deleteApiToken => exact deleteApiToken_refines h
  | logout => exact logout_refines h
  | changePassword => exact changePassword_refines h
  | createUser => exact createUser_refines h
  | deleteUser => exact deleteUser_refines h
  | addWebauthnCredential username credential =>
    obtain ⟨_, _, h⟩ := bind_ok h
    cases h
    exact refines_kept trivial (turnover_users (updateUser_accounts fun _ => rfl))
  | removeWebauthnCredential | resetWebauthnCredentials | updateWebauthnSignCount =>
    obtain ⟨_, _, h⟩ := bind_ok h
    obtain ⟨_, _, h⟩ := bind_ok h
    cases h
    exact refines_kept trivial (turnover_users (updateUser_accounts fun _ => rfl))

end NastyEngine.Auth
