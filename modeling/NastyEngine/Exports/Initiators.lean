import NastyEngine.Exports.Frames

/-!
The group is disabled while an entry is added, so that the directories of the entries and the stored list may differ only
then. A removal that leaves no entry opens the group to everybody.
-/

namespace NastyEngine.Exports
open Lib Rust Fallible

theorem tpg?_setTpg (lio : Lio) (iqn : String) (tpg : Tpg) : (lio.setTpg iqn tpg).tpg? iqn = some tpg := by
  rw [Lio.tpg?, Lio.setTpg, AList.lookup_insert]
  rfl

variable {iqn initiator : String} {tpg : Tpg} {acls : List Acl} {entries : String → Prop} {J : IscsiHost → Prop}
  {chap : Bool} {req : AddAclRequest}

theorem tpg?_setTpg_ne {lio : Lio} {iqn' : String} (ne : iqn' ≠ iqn) :
    (lio.setTpg iqn tpg).tpg? iqn' = lio.tpg? iqn' := by
  rw [Lio.tpg?, Lio.setTpg, AList.lookup_insert_ne ne]
  rfl

theorem onTpg_ok {lio after : Lio} {f : Tpg → Except String Tpg} (done : lio.onTpg iqn f = .ok after) :
    ∃ tpg changed, lio.tpg? iqn = some tpg ∧ f tpg = .ok changed ∧ after = lio.setTpg iqn changed := by
  unfold Lio.onTpg at done
  split at done
  · cases done
  next tpg hit =>
    obtain ⟨changed, ok, eq⟩ := map_ok done
    exact ⟨tpg, changed, hit, ok, eq.symm⟩

def FileName (name : String) : Prop := aclParts name = [name.toList] ∧ name ≠ ".."

instance (name : String) : Decidable (FileName name) := inferInstanceAs (Decidable (_ ∧ _))

theorem mkdirAcl_fileName (name : FileName initiator) : mkdirAcl iqn initiator =
      configfs ("mkdir " ++ aclPath iqn initiator) (·.onTpg iqn fun tpg => .ok (tpg.mkdirAcl initiator)) := by
  have ne : initiator.toList ≠ ['.', '.'] := fun eq => name.2 (String.toList_inj.mp eq)
  unfold mkdirAcl
  rw [name.1]
  dsimp only
  rw [if_neg ne, String.ofList_toList]

theorem rmdirAcl_fileName (name : FileName initiator) :
    rmdirAcl iqn initiator = configfs ("rmdir " ++ aclPath iqn initiator) (·.onTpg iqn (·.rmdirAcl initiator)) := by
  have entry : rmdirEntry initiator = (·.rmdirAcl initiator) := by
    funext tpg
    rw [rmdirEntry, name.1]
    dsimp only
    rw [String.ofList_toList]
  rw [rmdirAcl, entry]

theorem mem_mkdirAcl {k : String} (mem : k ∈ (tpg.mkdirAcl initiator).acls) : k = initiator ∨ k ∈ tpg.acls := by
  unfold Tpg.mkdirAcl at mem
  split at mem
  · exact .inr mem
  · exact (AList.mem_insert _).mp mem

theorem rmdirAcl_ok {after : Tpg} (done : tpg.rmdirAcl initiator = .ok after) :
    after = { tpg with acls := tpg.acls.erase initiator } := by
  unfold Tpg.rmdirAcl at done
  split at done
  · cases done
    rfl
  · cases done

def Lists (acls : List Acl) (initiator : String) : Prop := ∃ acl ∈ acls, acl.initiatorIqn = initiator

/-- The target is stored with this list, it is the only one with its name, and the group is as `P` says. -/
structure Stands (id iqn : String) (acls : List Acl) (P : Tpg → Prop) (host : IscsiHost) : Prop where
  own : ∀ other target, host.files.lookup other = some target → target.id = other
  alone : ∀ other target, host.files.lookup other = some target → target.iqn = iqn → other = id
  listed : ∃ target, host.files.lookup id = some target ∧ target.iqn = iqn ∧ target.acls = acls
  group : ∀ tpg, host.lio.tpg? iqn = some tpg → P tpg

/-- An enabled group admits the initiators of the list, and others only if it was opened. -/
def Secure (acls : List Acl) (opened : Bool) (tpg : Tpg) : Prop :=
  tpg.enable = true → (∀ k ∈ tpg.acls, FileName k ∧ Lists acls k) ∧ (tpg.generateNodeAcls = true → opened = true)

def Guarded (id iqn : String) (opened : Bool) (host : IscsiHost) : Prop :=
  ∃ acls, Stands id iqn acls (Secure acls opened) host

section Stands
variable {id iqn : String} {acls : List Acl} {P Q : Tpg → Prop} {opened : Bool} {host : IscsiHost}
  {J E : IscsiHost → Prop}

section
variable (stands : Stands id iqn acls P host)
include stands

theorem Stands.mono (weaker : ∀ tpg, P tpg → Q tpg) : Stands id iqn acls Q host :=
  { stands with group := fun tpg eq => weaker tpg (stands.group tpg eq) }

theorem Stands.guarded (secure : ∀ tpg, P tpg → Secure acls opened tpg) : Guarded id iqn opened host :=
  ⟨acls, stands.mono secure⟩

theorem always_group {text : String} {f : Tpg → Except String Tpg} (inv : J host)
    (failed : E host) (after : ∀ host, Stands id iqn acls Q host → J host)
    (change : ∀ tpg changed, P tpg → f tpg = .ok changed → Q changed) :
    Always J (configfs text (·.onTpg iqn f)) (fun _ => Stands id iqn acls Q) E host := by
  refine .mapError (.perform inv failed fun u t done => ?_)
  obtain ⟨lio, served, eq⟩ := map_ok done
  obtain ⟨tpg, changed, hit, ok, rfl⟩ := onTpg_ok served
  cases eq
  have stands' : Stands id iqn acls Q { host with lio := host.lio.setTpg iqn changed } := by
    refine { stands with group := fun other found' => ?_ }
    rw [tpg?_setTpg] at found'
    cases found'
    exact change tpg changed (stands.group tpg hit) ok
  exact ⟨after _ stands', stands'⟩

end

variable {version : IscsiTarget}

theorem stands_insert (own : ∀ other target, host.files.lookup other = some target → target.id = other)
    (alone : ∀ other target, host.files.lookup other = some target → target.iqn = iqn → other = id)
    (group : ∀ tpg, host.lio.tpg? iqn = some tpg → P tpg) (named : version.iqn = iqn → version.id = id)
    (listed : ∃ target, (host.files.insert version.id version).lookup id = some target ∧ target.iqn = iqn ∧
      target.acls = acls) : Stands id iqn acls P { host with files := host.files.insert version.id version } := by
  refine ⟨fun other target hit => ?_, fun other target hit eq => ?_, listed, group⟩
  · rcases Keyed.lookup_of_insert hit with ⟨rfl, rfl⟩ | ⟨-, before⟩
    · rfl
    · exact own other target before
  · rcases Keyed.lookup_of_insert hit with ⟨rfl, rfl⟩ | ⟨-, before⟩
    · exact named eq
    · exact alone other target before eq

theorem Stands.put (stands : Stands id iqn acls P host) (plain : '/' ∉ id.toList)
    (eq : version.id = id) (named : version.iqn = iqn) : Stands id iqn version.acls P (host.put version) := by
  subst eq
  rw [IscsiHost.put, if_neg plain]
  exact stands_insert stands.own stands.alone stands.group (fun _ => rfl) ⟨version, AList.lookup_insert _, named, rfl⟩

theorem always_saveVersion {version : IscsiTarget} (stands : Stands id iqn acls P host) (plain : '/' ∉ id.toList)
    (eq : version.id = id) (named : version.iqn = iqn) (inv : J host) (failed : E host)
    (after : ∀ host, Stands id iqn version.acls P host → J host) :
    Always J (save version) (fun _ => Stands id iqn version.acls P) E host := by
  have stands' := stands.put plain eq named
  refine .mono (always_save inv (after _ stands')) (fun _ t _ done => ?_) fun t _ done => ?_
  · rw [done]
    exact stands'
  · rw [done]
    exact failed

theorem keeps_saveVersion (plain : '/' ∉ id.toList) (eq : version.id = id)
    (named : version.iqn = iqn) (listed : version.acls = acls) : Keeps (Stands id iqn acls P) (save version) := by
  refine .mapError (.perform fun host u t stands done => ?_)
  cases done
  rw [← listed]
  exact stands.put plain eq named

theorem keeps_config : Keeps (Stands id iqn acls P) saveLioConfigChecked :=
  .mapError (.perform fun host u t stands done => by
    cases done
    exact { stands with })

theorem Stands.other {iqn' : String} (ne : iqn' ≠ iqn) : Ignores iqn' (Stands id iqn acls P) := by
  refine ⟨fun text f => keeps_configfs fun host lio stands done => ?_, keeps_config⟩
  obtain ⟨tpg, changed, -, -, rfl⟩ := onTpg_ok done
  refine { stands with group := fun tpg eq => stands.group tpg ?_ }
  rw [tpg?_setTpg_ne (Ne.symm ne)] at eq
  exact eq

theorem keeps_saveOther (apart : version.id ≠ id) (ne : version.iqn ≠ iqn)
    (plain : '/' ∉ version.id.toList) : Keeps (Stands id iqn acls P) (save version) := by
  refine .mapError (.perform fun host u t stands done => ?_)
  cases done
  rw [IscsiHost.put, if_neg plain]
  apply stands_insert stands.own stands.alone stands.group fun eq => absurd eq ne
  rw [AList.lookup_insert_ne (Ne.symm apart)]
  exact stands.listed

end Stands

def Paused (entries : String → Prop) (enable : Bool) (tpg : Tpg) : Prop :=
  tpg.enable = false ∧ (enable = true → ∀ k ∈ tpg.acls, FileName k ∧ entries k)

theorem Paused.secure {enable opened : Bool} (paused : Paused entries enable tpg) : Secure acls opened tpg := by
  intro enabled
  rw [paused.1] at enabled
  cases enabled

def Shut (entries : String → Prop) (enable generate : Bool) (tpg : Tpg) : Prop :=
  Paused entries enable tpg ∧ tpg.generateNodeAcls = generate

section Adding
variable {id iqn initiator : String} {acls : List Acl} {opened generate enable : Bool} {host : IscsiHost}

theorem Stands.paused (stands : Stands id iqn acls (Paused entries enable) host) : Guarded id iqn opened host :=
  stands.guarded fun _ paused => paused.secure

theorem Stands.shut (stands : Stands id iqn acls (Shut entries enable generate) host) :
    Stands id iqn acls (Paused entries enable) host := stands.mono fun _ both => both.1

def Joined (acls : List Acl) (initiator : String) (k : String) : Prop := Lists acls k ∨ k = initiator

theorem always_rollbackNewAcl (name : FileName initiator) (closed : enable = true → generate = true → opened = true)
    (stands : Stands id iqn acls (Paused (Joined acls initiator) enable) host) :
    Always (Guarded id iqn opened) (rollbackNewAcl iqn initiator generate enable) (fun _ => Guarded id iqn opened)
      (Guarded id iqn opened) host := by
  refine .bind (always_group (Q := Paused (Joined acls initiator) enable) stands stands.paused stands.paused
    (fun _ => Stands.paused) fun tpg changed paused done => ?_) fun _ host _ stands => ?_
  · cases done
    exact ⟨rfl, paused.2⟩
  rw [rmdirAcl_fileName name]
  refine .bind (always_group (Q := Paused (Lists acls) enable) stands stands.paused stands.paused
    (fun _ => Stands.paused) fun tpg changed paused done => ?_) fun _ host _ stands => ?_
  · rw [rmdirAcl_ok done]
    refine ⟨paused.1, fun again k mem => ?_⟩
    obtain ⟨ne, mem⟩ := AList.mem_erase.mp mem
    obtain ⟨isName, listed⟩ := paused.2 again k mem
    exact ⟨isName, listed.resolve_right ne⟩
  refine .bind (always_group (Q := Shut (Lists acls) enable generate) stands stands.paused stands.paused
    (fun _ stands => stands.shut.paused) fun tpg changed paused done => ?_) fun _ host _ stands => ?_
  · cases done
    exact ⟨⟨paused.1, paused.2⟩, rfl⟩
  refine .mono (always_group (Q := Secure acls opened) stands stands.shut.paused stands.shut.paused
    (fun host stands => ⟨acls, stands⟩) fun tpg changed paused done => ?_) (fun _ t _ stands => ⟨acls, stands⟩)
    fun _ _ guarded => guarded
  cases done
  intro enabled
  exact ⟨paused.1.2 enabled, fun generated => closed enabled (paused.2.symm.trans generated)⟩

variable {error : IscsiError}

theorem always_undoing {α : Type} {E R : IscsiHost → Prop} {Q : α → IscsiHost → Prop} {text : String} {undo : IscsiOp Unit}
    {rest : IscsiOp α} (undone : Always J undo (fun _ => R) E host)
    (further : ∀ host, J host → R host → Always J rest Q E host) : Always J (undoing error text undo rest) Q E host :=
  .attempt undone (fun _ t inv reached => further t inv reached) fun _ _ inv failed => .throw inv failed

variable {before : Before}

theorem always_undoAcl {rest : IscsiOp IscsiTarget}
    {Q : IscsiTarget → IscsiHost → Prop} (eq : before.target.iqn = iqn) (name : FileName initiator)
    (closed : before.enable = true → before.generate = true → opened = true)
    (stands : Stands id iqn acls (Paused (Joined acls initiator) before.enable) host)
    (further : ∀ host, Guarded id iqn opened host → Always (Guarded id iqn opened) rest Q (Guarded id iqn opened) host) :
    Always (Guarded id iqn opened) (undoAcl before initiator error rest) Q (Guarded id iqn opened) host := by
  subst eq
  exact always_undoing (always_rollbackNewAcl name closed stands) fun host _ guarded => further host guarded

theorem always_configureAcl (stands : Stands id iqn acls (Paused entries enable) host) :
    Always (Guarded id iqn opened) (configureAcl iqn req chap)
      (fun _ => Stands id iqn acls (Shut entries enable false)) (Stands id iqn acls (Paused entries enable)) host := by
  have write (file shown : String) (f : NodeAcl → NodeAcl) (host : IscsiHost)
      (stands : Stands id iqn acls (Paused entries enable) host) :
      Always (Guarded id iqn opened) (writeAcl iqn req.initiatorIqn file shown f)
        (fun _ => Stands id iqn acls (Paused entries enable)) (Stands id iqn acls (Paused entries enable)) host := by
    refine always_group stands stands.paused stands (fun _ => Stands.paused) fun tpg changed paused done => ?_
    split at done
    · unfold Tpg.writeAcl at done
      split at done
      · cases done
        exact ⟨paused.1, fun again k mem => paused.2 again k (Keyed.mem_modify.mp mem)⟩
      · cases done
    · cases done
  have chapDone : Always (Guarded id iqn opened) (configureChap iqn req chap)
      (fun _ => Stands id iqn acls (Paused entries enable)) (Stands id iqn acls (Paused entries enable)) host := by
    unfold configureChap
    split
    · refine .bind (write _ _ _ host stands) fun _ host _ stands => ?_
      exact .bind (write _ _ _ host stands) fun _ host _ stands => write _ _ _ host stands
    · exact .pure stands.paused stands
  refine .bind chapDone fun _ host _ stands => ?_
  refine .bind (always_group (Q := Shut entries enable false) stands stands.paused stands
    (fun _ stands => stands.shut.paused) fun tpg changed paused done => ?_) fun _ host _ stands => ?_
  · cases done
    exact ⟨⟨paused.1, paused.2⟩, rfl⟩
  refine always_group stands stands.shut.paused stands.shut (fun _ stands => stands.shut.paused)
    fun tpg changed paused done => ?_
  cases done
  exact ⟨⟨paused.1.1, paused.1.2⟩, paused.2⟩

def Limited (entries : String → Prop) (enable : Bool) (tpg : Tpg) : Prop :=
  tpg.generateNodeAcls = false ∧ tpg.enable = enable ∧ (enable = true → ∀ k ∈ tpg.acls, FileName k ∧ entries k)

theorem Limited.secure (limited : Limited entries enable tpg)
    (listed : ∀ k, entries k → Lists acls k) : Secure acls opened tpg := by
  intro enabled
  refine ⟨fun k mem => ?_, fun generated => ?_⟩
  · obtain ⟨isName, entry⟩ := limited.2.2 (limited.2.1.symm.trans enabled) k mem
    exact ⟨isName, listed k entry⟩
  · rw [limited.1] at generated
    cases generated

theorem lists_append (acl : Acl) (k : String) (joined : Joined acls acl.initiatorIqn k) : Lists (acls ++ [acl]) k := by
  rcases joined with ⟨other, mem, eq⟩ | eq
  · exact ⟨other, List.mem_append_left _ mem, eq⟩
  · exact ⟨acl, List.mem_append_right _ List.mem_cons_self, eq.symm⟩

theorem always_enableAcl {acl : Acl} (plain : '/' ∉ id.toList) (own : before.target.id = id)
    (eq : before.target.iqn = iqn) (name : FileName acl.initiatorIqn)
    (closed : before.enable = true → before.generate = true → opened = true)
    (stands : Stands id iqn (before.target.acls ++ [acl])
      (Shut (Joined before.target.acls acl.initiatorIqn) before.enable false) host) :
    Always (Guarded id iqn opened)
      (enableAcl before acl.initiatorIqn { before.target with acls := before.target.acls ++ [acl] })
      (fun _ => Guarded id iqn false) (Guarded id iqn opened) host := by
  subst eq
  have live (opened : Bool) (host : IscsiHost) (stands : Stands id before.target.iqn (before.target.acls ++ [acl])
      (Limited (Joined before.target.acls acl.initiatorIqn) before.enable) host) :
      Guarded id before.target.iqn opened host := stands.guarded fun _ limited => limited.secure (lists_append acl)
  -- the entry is taken back: the target as it was, and then its group
  have back {rest : IscsiOp IscsiTarget} {error : IscsiError} (host : IscsiHost)
      (stands : Stands id before.target.iqn (before.target.acls ++ [acl])
        (Shut (Joined before.target.acls acl.initiatorIqn) before.enable false) host)
      (further : ∀ host, Guarded id before.target.iqn opened host → Always (Guarded id before.target.iqn opened) rest
        (fun _ => Guarded id before.target.iqn false) (Guarded id before.target.iqn opened) host) :
      Always (Guarded id before.target.iqn opened)
        (undoing error "; failed to restore target state with the TPG disabled: " (save before.target)
          (undoAcl before acl.initiatorIqn error rest))
        (fun _ => Guarded id before.target.iqn false) (Guarded id before.target.iqn opened) host := by
    refine always_undoing (always_saveVersion stands plain own rfl stands.shut.paused stands.shut.paused
      fun _ stands => stands.shut.paused) fun host _ stands => ?_
    exact always_undoAcl rfl name closed stands.shut further
  refine .attempt (R := fun _ => Stands id before.target.iqn (before.target.acls ++ [acl])
      (Limited (Joined before.target.acls acl.initiatorIqn) before.enable))
    (always_group stands stands.shut.paused stands (live opened) fun tpg changed paused done => ?_)
    (fun _ host inv stands => ?_) fun e host inv stands => ?_
  · cases done
    exact ⟨paused.2, rfl, paused.1.2⟩
  · refine .attempt (keeps_config.always stands (live opened)) (fun _ host inv stands => ?_) fun e host inv stands => ?_
    · exact .pure inv (live false host stands)
    · refine always_undoing (always_group stands inv inv (fun _ stands => stands.shut.paused)
        fun tpg changed limited done => ?_) fun host _ stands => back host stands fun host guarded => ?_
      · cases done
        exact ⟨⟨rfl, limited.2.2⟩, limited.1⟩
      · obtain ⟨acls, stands⟩ := guarded
        exact always_undoing (.mono (keeps_config.always stands fun _ stands => ⟨acls, stands⟩)
          (fun _ _ _ stands => stands) fun t _ stands => ⟨acls, stands⟩) fun host inv _ => .throw inv inv
  · exact back host stands fun host guarded => .throw guarded guarded

theorem always_finishAcl (plain : '/' ∉ id.toList)
    (own : before.target.id = id) (eq : before.target.iqn = iqn) (name : FileName req.initiatorIqn)
    (closed : before.enable = true → before.generate = true → opened = true)
    (stands : Stands id iqn before.target.acls (Paused (Joined before.target.acls req.initiatorIqn) before.enable) host) :
    Always (Guarded id iqn opened) (finishAcl before req chap) (fun _ => Guarded id iqn false)
      (Guarded id iqn opened) host := by
  subst eq
  refine .attempt (always_configureAcl stands) (fun _ host inv stands => ?_) fun e host inv stands => ?_
  · refine .bind (.mono ((keeps_sealChapPassword _).always stands fun _ stands => stands.shut.paused)
      (fun _ _ _ stands => stands) fun _ inv _ => inv) fun sealed host inv stands => ?_
    refine .attempt (always_saveVersion stands plain own rfl inv stands fun _ stands => stands.shut.paused)
      (fun _ host _ stands => ?_) fun e host inv stands => ?_
    · exact always_enableAcl plain own rfl name closed stands
    · exact always_undoAcl rfl name closed stands.shut fun host guarded => .throw guarded guarded
  · exact always_undoAcl rfl name closed stands fun host guarded => .throw guarded guarded

end Adding

section Requests
variable {id iqn : String} {opened : Bool} {host : IscsiHost}

theorem always_readTpg {attr : TpgAttr} (inv : J host) : Always J (readTpg iqn attr)
      (fun value t => t = host ∧ ∃ tpg, host.lio.tpg? iqn = some tpg ∧ value = tpg.get attr) J host := by
  refine .mapError (.perform inv inv fun value t done => ?_)
  obtain ⟨tpg, hit, eq⟩ := map_ok done
  cases eq
  exact ⟨inv, rfl, tpg, okOr_ok hit, rfl⟩

variable {target : IscsiTarget} {faults : List (Option String)}

theorem Guarded.stands (guarded : Guarded id iqn opened host) (hit : host.files.lookup id = some target) :
    target.id = id ∧ target.iqn = iqn ∧ Stands id iqn target.acls (Secure target.acls opened) host := by
  obtain ⟨acls, stands⟩ := guarded
  obtain ⟨stored, found', eq, rfl⟩ := stands.listed
  cases hit.symm.trans found'
  exact ⟨stands.own id target hit, eq, stands⟩

theorem always_addAclLoaded (plain : '/' ∉ id.toList)
    (name : FileName req.initiatorIqn) (guarded : Guarded id iqn opened host)
    (hit : host.files.lookup id = some target) :
    Always (Guarded id iqn opened) (addAclLoaded target req chap) (fun _ => Guarded id iqn false)
      (Guarded id iqn opened) host := by
  obtain ⟨own, eq, stands⟩ := guarded.stands hit
  subst eq
  refine .check guarded guarded fun _ _ => ?_
  refine .bind (always_readTpg guarded) fun generate after _ read => ?_
  obtain ⟨eq, tpg, isGroup, generated⟩ := read
  subst eq
  refine .bind (always_readTpg guarded) fun enable after _ read => ?_
  obtain ⟨eq, tpg', isGroup', enabled⟩ := read
  subst eq
  cases isGroup.symm.trans isGroup'
  have secure := stands.group tpg isGroup
  have closed : enable = true → generate = true → opened = true := fun on everybody =>
    (secure (enabled.symm.trans on)).2 (generated.symm.trans everybody)
  have standing : Stands id target.iqn target.acls (· = tpg) after :=
    { stands with group := fun other hit => Option.some.inj (hit.symm.trans isGroup) }
  refine .bind (always_group (Q := Shut (Lists target.acls) enable generate)
    standing guarded guarded (fun _ stands => stands.shut.paused)
    fun other changed eq done => ?_) fun _ after inv stands => ?_
  · cases done
    rw [eq]
    exact ⟨⟨rfl, fun on => (secure (enabled.symm.trans on)).1⟩, generated.symm⟩
  rw [mkdirAcl_fileName name]
  refine .attempt (always_group (Q := Paused (Joined target.acls req.initiatorIqn) enable) stands inv stands
    (fun _ => Stands.paused) fun tpg changed paused done => ?_)
    (fun _ host _ stands => always_finishAcl plain own rfl name closed stands) fun e host inv stands => ?_
  · cases done
    refine ⟨?_, fun on k mem => ?_⟩
    · unfold Tpg.mkdirAcl
      split
      · exact paused.1.1
      · exact paused.1.1
    · rcases mem_mkdirAcl mem with rfl | mem
      · exact ⟨name, .inr rfl⟩
      · obtain ⟨isName, listed⟩ := paused.1.2 on k mem
        exact ⟨isName, .inl listed⟩
  · refine always_undoing (always_group (Q := Secure target.acls opened) stands inv inv
      (fun host stands => ⟨_, stands⟩) fun tpg changed paused done => ?_) fun host inv _ => .throw inv inv
    cases done
    intro on
    exact ⟨paused.1.2 on, fun everybody => closed on (paused.2.symm.trans everybody)⟩

theorem Guarded.apart (guarded : Guarded id iqn opened host) {other : String} (ne : other ≠ id)
    (hit : host.files.lookup other = some target) : target.id = other ∧ target.iqn ≠ iqn := by
  obtain ⟨acls, stands⟩ := guarded
  exact ⟨stands.own other target hit, fun eq => ne (stands.alone other target hit eq)⟩

theorem always_addAcl_guarded (plain : '/' ∉ req.targetId.toList) (name : FileName req.initiatorIqn)
    (guarded : Guarded id iqn opened host) :
    Always (Guarded id iqn opened) (addAcl req)
      (fun target host => Guarded id iqn (if req.targetId = id then false else opened) host ∧ target.id = req.targetId)
      (Guarded id iqn opened) host := by
  refine .check guarded guarded fun chap _ => ?_
  refine .bind (.mono (always_load guarded plain) (fun _ _ _ loaded => loaded) fun t inv _ => inv)
    fun target after _ loaded => ?_
  obtain ⟨eq, hit⟩ := loaded
  subst eq
  by_cases here : req.targetId = id
  · rw [if_pos here]
    rw [here] at hit plain ⊢
    exact (always_addAclLoaded plain name guarded hit).yields (yields_addAclLoaded (guarded.stands hit).1)
  · rw [if_neg here]
    obtain ⟨own, ne⟩ := guarded.apart here hit
    obtain ⟨acls, stands⟩ := guarded
    have keeps : Keeps (Stands id iqn acls (Secure acls opened)) (addAclLoaded target req chap) := by
      refine (Stands.other ne).addAclLoaded rfl fun acls => keeps_saveOther ?_ ne ?_
      · rw [own]
        exact here
      · rw [own]
        exact plain
    refine .mono ((keeps.always stands fun _ stands => ⟨acls, stands⟩).yields (yields_addAclLoaded own))
      (fun _ _ _ reached => ⟨⟨acls, reached.1⟩, reached.2⟩) fun _ _ stands => ⟨acls, stands⟩

def Without (acls : List Acl) (initiator : String) (opened : Bool) (tpg : Tpg) : Prop :=
  tpg.enable = true → (∀ k ∈ tpg.acls, FileName k ∧ Lists acls k ∧ k ≠ initiator) ∧
    (tpg.generateNodeAcls = true → opened = true)

theorem Without.secure (without : Without acls initiator opened tpg) : Secure acls opened tpg := by
  intro on
  obtain ⟨entries, closed⟩ := without on
  exact ⟨fun k mem => ⟨(entries k mem).1, (entries k mem).2.1⟩, closed⟩

theorem Without.filtered (without : Without acls initiator opened tpg) :
    Secure (acls.filter (·.initiatorIqn ≠ initiator)) opened tpg := by
  intro on
  obtain ⟨entries, closed⟩ := without on
  refine ⟨fun k mem => ?_, closed⟩
  obtain ⟨isName, ⟨acl, listed, rfl⟩, ne⟩ := entries k mem
  exact ⟨isName, acl, List.mem_filter.mpr ⟨listed, by simpa using ne⟩, rfl⟩

theorem always_saveWithout (plain : '/' ∉ id.toList) (own : target.id = id) (eq : target.iqn = iqn)
    (stands : Stands id iqn target.acls (Without target.acls initiator
      (opened || decide (target.acls.filter (·.initiatorIqn ≠ initiator) = []))) host) :
    Always (Guarded id iqn (opened || decide (target.acls.filter (·.initiatorIqn ≠ initiator) = [])))
      (saveWithout { target with acls := target.acls.filter (·.initiatorIqn ≠ initiator) })
      (fun _ _ => True) (fun _ => True) host := by
  subst eq
  generalize reached : (opened || decide (target.acls.filter (·.initiatorIqn ≠ initiator) = [])) = opened' at stands ⊢
  have quiet (host : IscsiHost) (stands : Stands id target.iqn target.acls (Without target.acls initiator opened') host) :
      Guarded id target.iqn opened' host := stands.guarded fun _ without => without.secure
  have reopened : Always (Guarded id target.iqn opened')
      (reopen { target with acls := target.acls.filter (·.initiatorIqn ≠ initiator) })
      (fun _ => Stands id target.iqn target.acls (Without target.acls initiator opened')) (fun _ => True) host := by
    unfold reopen
    split
    next none =>
      refine always_group stands (quiet _ stands) trivial quiet fun tpg changed without done => ?_
      cases done
      intro on
      refine ⟨(without on).1, fun _ => ?_⟩
      rw [← reached, Bool.or_eq_true]
      exact .inr (decide_eq_true none)
    · exact .pure (quiet _ stands) stands
  refine .bind reopened fun _ host inv stands => ?_
  refine .bind (always_saveVersion
    (stands.mono fun _ without => without.filtered) plain own rfl inv trivial fun host stands => ⟨_, stands⟩)
    fun _ host inv stands => ?_
  refine .bind (R := fun _ _ => True) (.ignore (keeps_config.always stands fun _ stands => ⟨_, stands⟩)
    (fun _ _ _ _ => trivial) fun _ _ _ => trivial) fun _ host inv _ => .pure inv trivial

def leavesNone (host : IscsiHost) (targetId initiator : String) : Bool :=
  (host.files.lookup targetId).any fun target => target.acls.filter (·.initiatorIqn ≠ initiator) = []

variable {targetId : String}

theorem run_load_faults {w : Faulty IscsiHost}
    (ran : run (load targetId) ⟨host, faults⟩ = (.ok target, w)) : w.faults = faults.tail := by
  obtain ⟨seen, u, first, rest⟩ := ok_of_bind ran
  obtain ⟨found, v, second, rest⟩ := ok_of_bind rest
  have read : u.faults = faults.tail := by
    cases first
    rcases faults with _ | ⟨_ | e, more⟩ <;> rfl
  cases second
  obtain ⟨-, eq⟩ := Prod.mk.inj rest
  rw [← eq]
  exact read

theorem along_rmdirAcl {rest : Unit → IscsiOp IscsiTarget} (served : faults.head?.join = none) (inv : J host)
    (stands : Stands id iqn acls (Secure acls opened) host)
    (further : ∀ host, Stands id iqn acls (Without acls initiator opened) host →
      J host ∧ ∀ faults, Along (fun w => J w.state) (rest ()) ⟨host, faults⟩) :
    Along (fun w => J w.state) (ignoreError (rmdirAcl iqn initiator) >>= rest) ⟨host, faults⟩ := by
  have removed : Stands id iqn acls (Without acls initiator opened)
      (run (ignoreError (rmdirAcl iqn initiator) : IscsiOp Unit) ⟨host, faults⟩).2.state := by
    rw [rmdirAcl, configfs_tried served]
    cases done : host.lio.onTpg iqn (rmdirEntry initiator) with
    | error e =>
      refine { stands with group := fun tpg eq on => ?_ }
      obtain ⟨entries, closed⟩ := stands.group tpg eq on
      refine ⟨fun k mem => ⟨(entries k mem).1, (entries k mem).2, ?_⟩, closed⟩
      rintro rfl
      rw [Lio.onTpg, eq] at done
      dsimp only at done
      rw [rmdirEntry, (entries k mem).1.1] at done
      dsimp only at done
      rw [String.ofList_toList, Tpg.rmdirAcl, if_pos mem] at done
      cases done
    | ok lio =>
      obtain ⟨tpg, changed, eq, ok, rfl⟩ := onTpg_ok done
      refine { stands with group := fun tpg' found' on => ?_ }
      rw [tpg?_setTpg] at found'
      cases found'
      unfold rmdirEntry at ok
      split at ok
      next part single =>
        rw [rmdirAcl_ok ok] at on ⊢
        obtain ⟨entries, closed⟩ := stands.group tpg eq on
        refine ⟨fun k mem => ?_, closed⟩
        obtain ⟨ne, mem⟩ := AList.mem_erase.mp mem
        refine ⟨(entries k mem).1, (entries k mem).2, ?_⟩
        rintro rfl
        apply ne
        have parts := (entries k mem).1.1
        rw [single] at parts
        rw [(List.cons.inj parts).1, String.ofList_toList]
      · cases ok
  have along : Along (fun w => J w.state) (rmdirAcl iqn initiator) ⟨host, faults⟩ := by
    refine .mapError ⟨inv, ?_⟩
    have ended := (further _ removed).1
    exact ended
  refine .bind (.ignoreError along) fun _ w ran => ?_
  rw [ran] at removed
  exact (further _ removed).2 w.faults

theorem along_removeAcl (plain : '/' ∉ targetId.toList)
    (served : (faults[1]?).join = none) (guarded : Guarded id iqn opened host) :
    Along (fun w => Guarded id iqn (opened || (decide (targetId = id) && leavesNone host targetId initiator)) w.state)
      (removeAcl targetId initiator) ⟨host, faults⟩ := by
  have weaker (opened' : Bool) {host : IscsiHost} (guarded : Guarded id iqn opened host) :
      Guarded id iqn (opened || opened') host := by
    obtain ⟨acls, stands⟩ := guarded
    refine ⟨acls, stands.mono fun tpg secure on => ⟨(secure on).1, fun everybody => ?_⟩⟩
    rw [(secure on).2 everybody]
    rfl
  have loads : Always (fun host => Guarded id iqn (opened || _) host) (load targetId)
      (fun target t => t = host ∧ host.files.lookup targetId = some target) (fun _ => True) host :=
    always_load (weaker (decide (targetId = id) && leavesNone host targetId initiator) guarded) plain
  refine .bind (loads.along faults) fun target w ran => ?_
  obtain ⟨eq, hit⟩ := loads.returns faults target w ran
  have rest := run_load_faults ran
  obtain ⟨state, faults'⟩ := w
  subst eq
  have head : faults'.head?.join = none := by
    rw [show faults' = faults.tail from rest]
    rcases faults with _ | ⟨_, _ | ⟨_, _⟩⟩
    · rfl
    · rfl
    · exact served
  by_cases here : targetId = id
  · subst here
    obtain ⟨own, eq, stands⟩ := guarded.stands hit
    have none : leavesNone state targetId initiator = decide (target.acls.filter (·.initiatorIqn ≠ initiator) = []) := by
      rw [leavesNone, hit, Option.any_some]
    rw [decide_eq_true rfl, Bool.true_and, none]
    subst eq
    refine along_rmdirAcl head (weaker _ guarded) stands fun host without => ?_
    have without' : Stands targetId target.iqn target.acls (Without target.acls initiator
        (opened || decide (target.acls.filter (·.initiatorIqn ≠ initiator) = []))) host :=
      without.mono fun tpg held on => ⟨(held on).1, fun everybody => by rw [(held on).2 everybody]; rfl⟩
    exact ⟨without'.guarded fun _ held => held.secure, (always_saveWithout plain own rfl without').along⟩
  · obtain ⟨own, ne⟩ := guarded.apart here hit
    have guarded' := weaker (decide (targetId = id) && leavesNone state targetId initiator) guarded
    generalize (opened || (decide (targetId = id) && leavesNone state targetId initiator)) = opened' at guarded' ⊢
    obtain ⟨acls, stands⟩ := guarded'
    have ignores : Ignores target.iqn (Stands id iqn acls (Secure acls opened')) := Stands.other ne
    have keeps : Keeps (Stands id iqn acls (Secure acls opened')) (do
          ignoreError (rmdirAcl target.iqn initiator)
          saveWithout { target with acls := target.acls.filter (·.initiatorIqn ≠ initiator) }) := by
      refine .bind (.ignore (ignores.onTpg _ _)) fun _ => .bind ?_ fun _ =>
        .bind (keeps_saveOther ?_ ne ?_) fun _ => .bind (.ignore ignores.config) fun _ => .pure
      · unfold reopen
        split
        · exact ignores.onTpg _ _
        · exact .pure
      · rw [own]
        exact here
      · rw [own]
        exact plain
    exact (keeps.always stands fun _ stands => (⟨acls, stands⟩ : Guarded id iqn _ _)).along faults'

end Requests

end NastyEngine.Exports
