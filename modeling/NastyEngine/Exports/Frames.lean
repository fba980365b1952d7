import NastyEngine.Exports.Iscsi

/-!
Most steps change the kernel's tree only. `LioBlind I` says that `I` is not about the tree; it holds at every point of such
steps, whatever fails.
-/

namespace NastyEngine.Exports
open Lib Rust Fallible

def LioBlind (I : IscsiHost → Prop) : Prop := ∀ host lio saved, I host → I { host with lio := lio, saved := saved }

variable {host : IscsiHost} {text id : String} {chap : Bool} {req : AddAclRequest} {target : IscsiTarget}

section Keeps
variable {I : IscsiHost → Prop}

theorem keeps_look : Keeps I look := .succeeds (.perform fun _ _ _ inv done => by
  cases done
  exact inv)

variable {op : Lio → Except String Lio}

theorem keeps_configfs
    (stable : ∀ host lio, I host → op host.lio = .ok lio → I { host with lio := lio }) : Keeps I (configfs text op) := by
  refine .mapError (.perform fun host u t inv done => ?_)
  obtain ⟨lio, ok, eq⟩ := map_ok done
  cases eq
  exact stable host lio inv ok

theorem configfs_tried {faults : List (Option String)} (served : faults.head?.join = none) :
    (run (ignoreError (configfs text op) : IscsiOp Unit) ⟨host, faults⟩).2.state =
      match op host.lio with
      | .ok lio => { host with lio := lio }
      | .error _ => host := by
  rw [run_ignoreError]
  unfold configfs
  rw [run_mapError, run_perform_served served]
  cases op host.lio with
  | ok lio => rfl
  | error e => rfl

variable (blind : LioBlind I)
include blind

theorem LioBlind.configfs {text : String} {op : Lio → Except String Lio} : Keeps I (configfs text op) :=
  keeps_configfs fun host lio inv _ => blind host lio host.saved inv

theorem LioBlind.tried : Keeps I (ignoreError (Exports.configfs text op) : IscsiOp Unit) :=
  .ignore blind.configfs

theorem LioBlind.saveLioConfigChecked : Keeps I saveLioConfigChecked :=
  .mapError (.perform fun host u t inv done => by
    cases done
    exact blind host host.lio host.lio inv)

theorem LioBlind.saveLioConfig : Keeps I saveLioConfig := .ignore blind.saveLioConfigChecked

omit blind in
theorem keeps_readTpg (iqn : String) (attr : TpgAttr) : Keeps I (readTpg iqn attr) :=
  .mapError (.perform fun host u t inv done => by
    obtain ⟨tpg, ok, eq⟩ := map_ok done
    cases eq
    exact inv)

omit blind in
theorem keeps_hbaIsEmpty {hba : Hba} : Keeps I (hbaIsEmpty hba) := .bind keeps_look fun _ => .observe

theorem LioBlind.removeBackstore (lun : Lun) : Keeps I (removeBackstore lun) := by
  refine .bind (.bind keeps_look fun _ => .observe) fun found => ?_
  cases found with
  | none => exact .pure
  | some hba =>
    refine .bind blind.tried fun _ => .bind blind.tried fun _ => ?_
    refine .bind keeps_hbaIsEmpty fun unused => ?_
    split
    · exact blind.tried
    · exact .pure

theorem LioBlind.removeLunDir (iqn : String) (lun : Lun) : Keeps I (removeLunDir iqn lun) :=
  .bind blind.tried fun _ => blind.tried

theorem LioBlind.makeBackstore (hba : Hba) (name control : String) : Keeps I (makeBackstore hba name control) :=
  .bind blind.configfs fun _ => .bind blind.configfs fun _ => blind.configfs

theorem LioBlind.linkLun (iqn : String) (lun : Nat) (hba : Hba) (name : String) : Keeps I (linkLun iqn lun hba name) :=
  .bind blind.configfs fun _ => blind.configfs

omit blind in
theorem keeps_undoing {α : Type} {error : IscsiError} {undo : IscsiOp Unit} {rest : IscsiOp α}
    (undone : Keeps I undo) (further : Keeps I rest) : Keeps I (undoing error text undo rest) := by
  refine .attempt undone fun r => ?_
  cases r with
  | error e => exact .throw
  | ok u => exact further

omit blind in
theorem keeps_sealChapPassword {targetId initiator : String} (plain : Option String) :
    Keeps I (sealChapPassword targetId initiator plain) := by
  unfold sealChapPassword
  split
  · exact .pure
  · exact .bind keeps_look fun _ => .bind .observe fun _ => .pure

theorem LioBlind.cleanupUnpersistedTarget (iqn : String) (portals : List Portal) :
    Keeps I (cleanupUnpersistedTarget iqn portals) :=
  .bind blind.tried fun _ =>
    .bind (.forM fun _ _ => blind.tried) fun _ =>
      .bind blind.tried fun _ => blind.tried

theorem LioBlind.orUnpersisted {α : Type} {iqn : String} {portals : List Portal} {p : IscsiOp α} (keeps : Keeps I p) :
    Keeps I (orUnpersisted iqn portals p) := by
  refine .attempt keeps fun done => ?_
  cases done with
  | error e => exact .bind (blind.cleanupUnpersistedTarget _ _) fun _ => .throw
  | ok a => exact .pure

section
variable (iqn : String)

theorem LioBlind.createTargetDirs : Keeps I (createTargetDirs iqn) := by
  refine .bind blind.configfs fun _ => .bind blind.configfs fun _ =>
    .attempt blind.configfs fun made => ?_
  cases made with
  | error e => exact .bind blind.tried fun _ => .throw
  | ok u => exact .pure

theorem LioBlind.createNp (portal : Portal) : Keeps I (createNp iqn portal) := by
  refine .bind blind.configfs fun _ => ?_
  split
  · refine .attempt blind.configfs fun flipped => ?_
    cases flipped with
    | error e => exact .bind blind.tried fun _ => .throw
    | ok u => exact .pure
  · exact .pure

theorem LioBlind.createPortals (created portals : List Portal) : Keeps I (createPortals iqn created portals) := by
  induction portals generalizing created with
  | nil => exact .pure
  | cons portal rest ih => exact .bind (blind.orUnpersisted (blind.createNp _ _)) fun _ => ih _

theorem LioBlind.opportunisticPortal (wanted : Bool) (created : List Portal) :
    Keeps I (opportunisticPortal iqn wanted created) := by
  unfold Exports.opportunisticPortal
  split
  · exact .bind (.succeeds blind.configfs) fun _ => .pure
  · exact .pure

theorem LioBlind.configureTpg (explicit : Bool) : Keeps I (configureTpg iqn explicit) :=
  .bind blind.configfs fun _ => .bind blind.configfs fun _ =>
    .bind blind.configfs fun _ => blind.configfs

end

theorem LioBlind.dismantle {target : IscsiTarget} : Keeps I (dismantle target) :=
  .bind blind.tried fun _ =>
    .bind (.forM fun _ _ => blind.tried) fun _ =>
      .bind (.forM fun _ _ => blind.removeLunDir _ _) fun _ =>
        .bind (.forM fun _ _ => blind.tried) fun _ =>
          .bind blind.tried fun _ =>
            .bind blind.tried fun _ => .forM fun _ _ => blind.removeBackstore _

end Keeps

/-- It is not about one portal group, nor about what is saved of the tree. -/
structure Ignores (iqn : String) (I : IscsiHost → Prop) : Prop where
  onTpg : ∀ text f, Keeps I (configfs text (·.onTpg iqn f))
  config : Keeps I saveLioConfigChecked

theorem LioBlind.ignores {I : IscsiHost → Prop} (blind : LioBlind I) (iqn : String) : Ignores iqn I :=
  ⟨fun _ _ => blind.configfs, blind.saveLioConfigChecked⟩

namespace Ignores
variable {iqn : String} {I : IscsiHost → Prop} (ignores : Ignores iqn I)
include ignores

theorem mkdirAcl (initiator : String) : Keeps I (mkdirAcl iqn initiator) := by
  unfold Exports.mkdirAcl
  split
  · exact .pure
  · split
    · exact .pure
    · exact ignores.onTpg _ _
  · exact .bind (ignores.onTpg _ _) fun _ => .throw

theorem configureAcl (req : AddAclRequest) (chap : Bool) : Keeps I (configureAcl iqn req chap) := by
  refine .bind ?_ fun _ => .bind (ignores.onTpg _ _) fun _ => ignores.onTpg _ _
  unfold configureChap
  split
  · exact .bind (ignores.onTpg _ _) fun _ => .bind (ignores.onTpg _ _) fun _ => ignores.onTpg _ _
  · exact .pure

theorem rollbackNewAcl (initiator : String) (generate enable : Bool) :
    Keeps I (rollbackNewAcl iqn initiator generate enable) :=
  .bind (ignores.onTpg _ _) fun _ => .bind (ignores.onTpg _ _) fun _ =>
    .bind (ignores.onTpg _ _) fun _ => ignores.onTpg _ _

theorem finishAcl {before : Before} (eq : before.target.iqn = iqn)
    (saves : ∀ acls, Keeps I (save { before.target with acls := acls })) : Keeps I (finishAcl before req chap) := by
  subst eq
  have original : Keeps I (save before.target) := saves before.target.acls
  have undone {e : IscsiError} {rest : IscsiOp IscsiTarget} (further : Keeps I rest) :
      Keeps I (undoAcl before req.initiatorIqn e rest) := keeps_undoing (ignores.rollbackNewAcl _ _ _) further
  refine .attempt (ignores.configureAcl _ _) fun configured => ?_
  cases configured with
  | error e => exact undone .throw
  | ok u =>
    refine .bind (keeps_sealChapPassword _) fun sealed => .attempt (saves _) fun saved => ?_
    cases saved with
    | error e => exact undone .throw
    | ok u =>
      refine .attempt (ignores.onTpg _ _) fun enabled => ?_
      cases enabled with
      | error e => exact keeps_undoing original (undone .throw)
      | ok u =>
        refine .attempt ignores.config fun kept => ?_
        cases kept with
        | error e =>
          exact keeps_undoing (ignores.onTpg _ _) (keeps_undoing original (undone (keeps_undoing ignores.config .throw)))
        | ok u => exact .pure

theorem addAclLoaded (eq : target.iqn = iqn)
    (saves : ∀ acls, Keeps I (save { target with acls := acls })) : Keeps I (addAclLoaded target req chap) := by
  subst eq
  refine .bind .ofExcept fun _ => .bind (keeps_readTpg _ _) fun generate =>
    .bind (keeps_readTpg _ _) fun enable => .bind (ignores.onTpg _ _) fun _ =>
      .attempt (ignores.mkdirAcl _) fun made => ?_
  cases made with
  | error e => exact keeps_undoing (ignores.onTpg _ _) .throw
  | ok u => exact ignores.finishAcl rfl saves

end Ignores

section
variable {P : IscsiTarget → Prop}

theorem yields_undoing {error : IscsiError} {undo : IscsiOp Unit} {rest : IscsiOp IscsiTarget}
    (further : Yields P rest) : Yields P (undoing error text undo rest) := by
  refine .bind fun undone => ?_
  cases undone with
  | error e => exact .throw
  | ok u => exact further

theorem yields_finishAcl {before : Before} (own : before.target.id = id) :
    Yields (fun target => target.id = id) (finishAcl before req chap) := by
  refine .bind fun configured => ?_
  cases configured with
  | error e => exact yields_undoing .throw
  | ok u =>
    refine .bind fun sealed => .bind fun saved => ?_
    cases saved with
    | error e => exact yields_undoing .throw
    | ok u =>
      refine .bind fun enabled => ?_
      cases enabled with
      | error e => exact yields_undoing (yields_undoing .throw)
      | ok u =>
        refine .bind fun kept => ?_
        cases kept with
        | error e => exact yields_undoing (yields_undoing (yields_undoing (yields_undoing .throw)))
        | ok u => exact .pure own

theorem yields_addAclLoaded (own : target.id = id) :
    Yields (fun target => target.id = id) (addAclLoaded target req chap) := by
  refine .bind fun _ => .bind fun generate => .bind fun enable => .bind fun _ =>
    .bind fun made => ?_
  cases made with
  | error e => exact yields_undoing .throw
  | ok u => exact yields_finishAcl own

end

variable {J : IscsiHost → Prop}

theorem always_save (inv : J host) (after : J (host.put target)) :
    Always J (save target) (fun _ t => t = host.put target) (fun t => t = host) host :=
  .mapError (.perform inv rfl fun u t done => by
    cases done
    exact ⟨after, rfl⟩)

theorem always_load (inv : J host) (plain : '/' ∉ id.toList) :
    Always J (load id) (fun target after => after = host ∧ host.files.lookup id = some target) (fun _ => True) host := by
  have read : Always J look (fun _ after => after = host) (fun _ => True) host :=
    .succeeds (.perform (Q := fun _ after => after = host) (E := fun after => after = host) inv rfl fun u t done => by
        cases done
        exact ⟨inv, rfl⟩) (fun _ _ _ eq => eq) fun _ _ eq => eq
  refine .bind read fun seen after inv eq => ?_
  subst eq
  refine .see inv (.ofExcept inv (fun target ok => ⟨rfl, ?_⟩) fun _ _ => trivial)
  have hit := okOr_ok ok
  cases seen with
  | false => cases hit
  | true =>
    rw [if_pos rfl, IscsiHost.stored, if_neg plain] at hit
    exact hit

end NastyEngine.Exports
