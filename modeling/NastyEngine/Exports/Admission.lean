import NastyEngine.Exports.Initiators
import NastyEngine.Lib.Run

/-!
A target that is made with an explicit list lets in only who is on its list, through all later changes of the list, until a
removal leaves it without entries.
-/

namespace NastyEngine.Exports
open Lib Rust Fallible

def Blank (tpg : Tpg) : Prop := tpg.acls = ∅ ∧ tpg.generateNodeAcls = false

theorem Blank.secure {tpg : Tpg} (blank : Blank tpg) {acls : List Acl} {opened : Bool} : Secure acls opened tpg := by
  intro _
  refine ⟨fun k mem => ?_, fun everybody => ?_⟩
  · rw [blank.1] at mem
    exact absurd mem (AList.notMem_empty k)
  · rw [blank.2] at everybody
    cases everybody

section Creating
variable {id iqn : String} {files : Keyed String IscsiTarget} {host : IscsiHost}

def Making (files : Keyed String IscsiTarget) (iqn : String) (host : IscsiHost) : Prop :=
  host.files = files ∧ ∀ tpg, host.lio.tpg? iqn = some tpg → Blank tpg

theorem making_onTpg {text : String} {f : Tpg → Except String Tpg}
    (change : ∀ tpg changed, Blank tpg → f tpg = .ok changed → Blank changed) :
    Keeps (Making files iqn) (configfs text (·.onTpg iqn f)) := by
  refine keeps_configfs fun host lio making done => ⟨making.1, fun tpg eq => ?_⟩
  obtain ⟨before, after, found', ok, rfl⟩ := onTpg_ok done
  rw [tpg?_setTpg] at eq
  cases eq
  exact change before _ (making.2 before found') ok

theorem making_inTpg {text : String} {f : Tpg → Tpg} (change : ∀ tpg, Blank tpg → Blank (f tpg)) :
    Keeps (Making files iqn) (configfs text fun lio => .ok (lio.inTpg iqn f)) := by
  refine keeps_configfs fun host lio making done => ⟨making.1, fun tpg eq => ?_⟩
  cases done
  rw [Lio.inTpg, tpg?_setTpg] at eq
  cases eq
  apply change
  cases there : host.lio.tpg? iqn with
  | none => exact ⟨rfl, rfl⟩
  | some tpg => exact making.2 tpg there

theorem making_mkdirNp {portal : Portal} : Keeps (Making files iqn) (mkdirNp iqn portal) := by
  refine making_inTpg fun tpg blank => ?_
  unfold Tpg.mkdirNp
  split
  · exact blank
  · exact blank

variable {portals : List Portal}

theorem always_orUnpersisted {α : Type} {p : IscsiOp α} {R : α → IscsiHost → Prop}
    (always : Always (fun _ => True) p R (fun _ => True) host) :
    Always (fun _ => True) (orUnpersisted iqn portals p) R (fun _ => True) host :=
  .attempt always (fun _ _ _ reached => .pure trivial reached) fun _ _ _ _ =>
    .bind .anything fun _ _ _ _ => .throw trivial trivial

theorem always_createTargetDirs (start : host.files = files) :
    Always (fun _ => True) (createTargetDirs iqn) (fun _ => Making files iqn) (fun _ => True) host := by
  have blind : LioBlind fun host => host.files = files := fun _ _ _ same => same
  refine .bind ((blind.configfs).reaches start) fun _ host _ same => ?_
  refine .bind (R := fun _ => Making files iqn) (.mapError (.perform trivial trivial
    fun u t done => ⟨trivial, ?_⟩)) fun _ host _ making => ?_
  · obtain ⟨lio, ok, stored⟩ := map_ok done
    cases stored
    change host.lio.mkdirTarget iqn = .ok lio at ok
    unfold Lio.mkdirTarget at ok
    split at ok
    · cases ok
    · cases ok
      refine ⟨same, fun tpg eq => ?_⟩
      rw [Lio.tpg?, AList.lookup_insert] at eq
      cases eq
  · refine .attempt ((making_inTpg fun _ blank => blank).reaches making) (fun _ _ _ making => .pure trivial making)
      fun _ host _ _ => .bind .anything fun _ _ _ _ => .throw trivial trivial

theorem making_createNp {portal : Portal} : Keeps (Making files iqn) (createNp iqn portal) := by
  refine .bind making_mkdirNp fun _ => ?_
  split
  · refine .attempt (making_onTpg fun tpg changed blank done => ?_) fun flipped => ?_
    · unfold Tpg.writeNp at done
      split at done
      · cases done
        exact blank
      · cases done
    · cases flipped with
      | ok u => exact .pure
      | error e =>
        refine .bind (.ignore (making_onTpg fun tpg changed blank done => ?_)) fun _ => .throw
        unfold Tpg.rmdirNp at done
        split at done
        · cases done
          exact blank
        · cases done
  · exact .pure

theorem always_createPortals {created : List Portal} (making : Making files iqn host) :
    Always (fun _ => True) (createPortals iqn created portals) (fun _ => Making files iqn) (fun _ => True) host := by
  induction portals generalizing created host with
  | nil => exact .pure trivial making
  | cons portal rest ih =>
    exact .bind (always_orUnpersisted ((making_createNp).reaches making)) fun _ _ _ making => ih making

theorem making_opportunisticPortal (wanted : Bool) {created : List Portal} :
    Keeps (Making files iqn) (opportunisticPortal iqn wanted created) := by
  unfold opportunisticPortal
  split
  · exact .bind (.succeeds making_mkdirNp) fun _ => .pure
  · exact .pure

theorem making_configureTpg : Keeps (Making files iqn) (configureTpg iqn true) := by
  have write (attr : TpgAttr) (value : Bool) (safe : attr = .generateNodeAcls → value = false) :
      Keeps (Making files iqn) (writeTpg iqn attr value) := by
    refine making_onTpg fun tpg changed blank done => ?_
    cases done
    cases attr with
    | authentication => exact blank
    | generateNodeAcls => exact ⟨blank.1, safe rfl⟩
    | demoModeWriteProtect => exact blank
    | enable => exact blank
  exact .bind (write _ _ (by decide)) fun _ => .bind (write _ _ (by decide)) fun _ =>
    .bind (write _ _ (by decide)) fun _ => write _ _ (by decide)

theorem always_addLun_guarded {req : AddLunRequest} (plain : '/' ∉ id.toList) (named : req.targetId = id)
    (guarded : Guarded id iqn false host) :
    Always (fun _ => True) (addLun req) (fun target host => target.id = id ∧ Guarded id iqn false host) (fun _ => True)
      host := by
  have plain' : '/' ∉ req.targetId.toList := by
    rw [named]
    exact plain
  refine .bind (always_load trivial plain') fun target after _ loaded => ?_
  obtain ⟨eq, hit⟩ := loaded
  subst eq
  rw [named] at hit
  obtain ⟨own, eq, stands⟩ := guarded.stands hit
  subst eq
  have onCore {text : String} {op : Lio → Except String Lio} (untouched : ∀ lio lio', op lio = .ok lio' →
      lio'.targets = lio.targets) :
      Keeps (Stands id target.iqn target.acls (Secure target.acls false)) (configfs text op) := by
    refine keeps_configfs fun host lio stands done => { stands with group := fun tpg hit => ?_ }
    refine stands.group tpg ?_
    rw [Lio.tpg?, untouched _ _ done] at hit
    exact hit
  have changes {lio lio' : Lio} {hba : Hba} {name : String} {f : Backstore → Backstore}
      (done : lio.onBackstore hba name f = .ok lio') : lio'.targets = lio.targets := by
    unfold Lio.onBackstore at done
    split at done
    · cases done
    · split at done
      · cases done
        rfl
      · cases done
  refine .mono (((?_ : Keeps (Stands id target.iqn target.acls (Secure target.acls false)) _).reaches stands).yields
    (P := fun result : IscsiTarget => result.id = id) ?_)
    (fun _ _ _ reached => ⟨reached.2, ⟨_, reached.1⟩⟩) fun _ _ _ => trivial
  · refine .bind .observe fun type => .bind .observe fun checked =>
      .bind .ofExcept fun _ => .bind (.bind keeps_look fun _ => .observe) fun index =>
        .bind ?_ fun _ => .bind ?_ fun _ => .bind ?_ fun _ => .bind (.ignore keeps_config) fun _ =>
          .pure
    · refine .bind (onCore fun lio lio' done => ?_) fun _ => .bind (onCore fun lio lio' done => changes done)
        fun _ => onCore fun lio lio' done => changes done
      cases done
      unfold Lio.mkdirBackstore
      dsimp only
      split
      · rfl
      · rfl
    · refine .bind (keeps_configfs fun host lio stands done => ?_) fun _ =>
        keeps_configfs fun host lio stands done => ?_
      · cases done
        refine { stands with group := fun tpg hit => ?_ }
        rw [Lio.inTpg, tpg?_setTpg] at hit
        cases hit
        have secure : Secure target.acls false ((host.lio.tpg? target.iqn).getD {}) := by
          cases there : host.lio.tpg? target.iqn with
          | none => exact Blank.secure ⟨rfl, rfl⟩
          | some tpg => exact stands.group tpg there
        unfold Tpg.mkdirLun
        split
        · exact secure
        · exact secure
      · split at done
        · obtain ⟨tpg, changed, hit, ok, rfl⟩ := onTpg_ok done
          refine { stands with group := fun tpg' found' => ?_ }
          rw [tpg?_setTpg] at found'
          cases found'
          have secure := stands.group tpg hit
          unfold Tpg.symlinkLun at ok
          split at ok
          · cases ok
          · split at ok
            · cases ok
            · cases ok
              exact secure
        · cases done
    · exact keeps_saveVersion plain own rfl rfl
  · exact .bind fun _ => .bind fun _ => .bind fun _ => .bind fun _ => .bind fun _ =>
      .bind fun _ => .bind fun _ => .bind fun _ => .pure own

theorem always_orCleanUp_guarded {p : IscsiOp IscsiTarget} {R : IscsiTarget → IscsiHost → Prop}
    (always : Always (fun _ => True) p R (fun _ => True) host) :
    Always (fun _ => True) (orCleanUp id p) R (fun _ => True) host :=
  .attempt always (fun _ _ _ reached => .pure trivial reached) fun _ _ _ _ =>
    .bind .anything fun _ _ _ _ => .throw trivial trivial

variable {entries : List AclEntry}

theorem always_firstAcls_guarded {target : IscsiTarget} (plain : '/' ∉ id.toList)
    (own : target.id = id) (names : ∀ entry ∈ entries, FileName entry.initiatorIqn)
    (guarded : Guarded id iqn false host) :
    Always (fun _ => True) (firstAcls target entries) (fun _ => Guarded id iqn false) (fun _ => True) host := by
  induction entries generalizing target host with
  | nil => exact .pure trivial guarded
  | cons entry rest ih =>
    subst own
    have added : Always (Guarded target.id iqn false) (addAcl
        { targetId := target.id, initiatorIqn := entry.initiatorIqn, userid := entry.userid, password := entry.password })
        _ (Guarded target.id iqn false) host := always_addAcl_guarded plain (names entry List.mem_cons_self) guarded
    refine Always.bind (always_orCleanUp_guarded (Always.mono (Always.weaken added fun _ _ => trivial)
      (fun _ _ _ reached => reached) fun _ _ _ => trivial)) fun result host _ reached => ?_
    obtain ⟨guarded, own⟩ := reached
    rw [if_pos rfl] at guarded
    exact ih own (fun entry mem => names entry (List.mem_cons_of_mem _ mem)) guarded

theorem always_create_guarded {uuid : List UInt8} {req : CreateTargetRequest}
    (own : ∀ id target, host.files.lookup id = some target → target.id = id)
    (isNew : ∀ id target, host.files.lookup id = some target → eqIgnoreAsciiCase target.iqn (targetIqn req.name) = false)
    (explicit : req.acls = some entries) (names : ∀ entry ∈ entries, FileName entry.initiatorIqn) :
    Always (fun _ => True) (create uuid req) (fun _ => Guarded (hyphenated uuid) (targetIqn req.name) false)
      (fun _ => True) host := by
  refine .check trivial trivial fun _ _ => .check trivial trivial fun _ _ => ?_
  refine .bind (R := fun targets after => after = host ∧ targets = host.files.pairs.map (·.2))
    (.mapError (.perform trivial trivial fun targets t done => ?_)) fun targets after _ loaded => ?_
  · cases done
    exact ⟨trivial, rfl, rfl⟩
  obtain ⟨eq, all⟩ := loaded
  subst eq all
  split
  next existing hit =>
    obtain ⟨pair, mem, rfl⟩ := List.mem_map.mp (List.mem_of_find?_eq_some hit)
    have taken := List.find?_some hit
    rw [isNew pair.1 pair.2 (Keyed.mem_pairs.mp mem)] at taken
    cases taken
  generalize iqnIs : targetIqn req.name = iqn at isNew ⊢
  have plain := hyphenated_inside uuid
  have fresh : ∀ id target, after.files.lookup id = some target → target.iqn ≠ iqn := by
    intro id target hit eq
    have differs := isNew id target hit
    rw [eq, eqIgnoreAsciiCase, beq_self_eq_true] at differs
    cases differs
  refine .see trivial (.bind (always_createTargetDirs rfl) fun _ host _ making => ?_)
  refine .bind (always_createPortals making) fun created host _ making => ?_
  refine .bind ((making_opportunisticPortal _).reaches making) fun created host _ making => ?_
  rw [explicit]
  refine .bind (always_orUnpersisted (making_configureTpg.reaches making)) fun _ host _ making => ?_
  have saved : Stands (hyphenated uuid) iqn [] Blank (host.put
      { id := hyphenated uuid, iqn := iqn, aliasName := req.aliasName, portals := created }) := by
    rw [IscsiHost.put, if_neg plain]
    rw [← making.1] at own fresh
    exact stands_insert own (fun id target hit eq => absurd eq (fresh id target hit)) making.2 (fun _ => rfl)
      ⟨_, AList.lookup_insert _, rfl, rfl⟩
  refine .bind (R := fun _ => Stands (hyphenated uuid) iqn [] Blank)
    (always_orUnpersisted (.mono (always_save trivial trivial) (fun _ t _ eq => ?_) fun _ _ _ => trivial))
    fun _ host _ stands => ?_
  · rw [eq]
    exact saved
  refine Always.bind ((Keeps.ignore keeps_config).reaches stands) fun _ host _ stands => ?_
  have guarded : Guarded (hyphenated uuid) iqn false host := stands.guarded fun _ blank => blank.secure
  refine .bind (R := fun target host => target.id = hyphenated uuid ∧ Guarded (hyphenated uuid) iqn false host) ?_
    fun target host _ reached => ?_
  · unfold firstLun
    split
    · exact .pure trivial ⟨rfl, guarded⟩
    · exact always_orCleanUp_guarded (always_addLun_guarded plain rfl guarded)
  · refine .bind (always_firstAcls_guarded plain reached.1 names reached.2) fun _ _ _ guarded => ?_
    exact .pure trivial guarded

end Creating

inductive AclCall where
  | add (req : AddAclRequest)
  | remove (targetId initiator : String)
  deriving DecidableEq

structure AclEvent where
  call : AclCall
  faults : List (Option String) := []
  deriving DecidableEq

namespace AclEvent

def program (event : AclEvent) : IscsiOp IscsiTarget :=
  match event.call with
  | .add req => addAcl req
  | .remove targetId initiator => removeAcl targetId initiator

/-- The call names a target of the state directory. An initiator that is added has the name of a directory, and the directory
of one that is removed can be removed. -/
def Proper (event : AclEvent) : Prop :=
  match event.call with
  | .add req => '/' ∉ req.targetId.toList ∧ FileName req.initiatorIqn
  | .remove targetId _ => '/' ∉ targetId.toList ∧ (event.faults[1]?).join = none

def opens (event : AclEvent) (id : String) (host : IscsiHost) : Bool :=
  match event.call with
  | .add _ => false
  | .remove targetId initiator => decide (targetId = id) && leavesNone host targetId initiator

end AclEvent

/-- A host, and whether a removal left the target without entries since the last entry was added to it. -/
structure Watched where
  host : IscsiHost
  opened : Bool := false

def Watched.after (watched : Watched) (id : String) (event : AclEvent) : Watched where
  host := (run event.program ⟨watched.host, event.faults⟩).2.state
  opened :=
    match event.call with
    | .add req => if req.targetId = id ∧ (run (addAcl req) ⟨watched.host, event.faults⟩).1.isOk then false else watched.opened
    | .remove _ _ => watched.opened || event.opens id watched.host

def AclStep (id : String) (watched : Watched) (event : AclEvent) (after : Watched) : Prop :=
  event.Proper ∧ after = watched.after id event

section
variable {id iqn : String} {watched : Watched} {event : AclEvent}

variable (proper : event.Proper) (guarded : Guarded id iqn watched.opened watched.host)
include proper guarded

theorem along_event :
    Along (fun w => Guarded id iqn (watched.opened || event.opens id watched.host) w.state) event.program
      ⟨watched.host, event.faults⟩ := by
  obtain ⟨call, faults⟩ := event
  cases call with
  | add req =>
    have always := always_addAcl_guarded proper.1 proper.2 guarded
    have along := always.along faults
    rw [← Bool.or_false watched.opened] at along
    exact along
  | remove targetId initiator => exact along_removeAcl proper.1 proper.2 guarded

theorem guarded_after : Guarded id iqn (watched.after id event).opened (watched.after id event).host := by
  have ended := along_run (along_event proper guarded)
  obtain ⟨call, faults⟩ := event
  cases call with
  | add req =>
    have always := always_addAcl_guarded proper.1 proper.2 guarded
    change Guarded id iqn (if req.targetId = id ∧ (run (addAcl req) ⟨watched.host, faults⟩).1.isOk then false
      else watched.opened) (run (addAcl req) ⟨watched.host, faults⟩).2.state
    cases done : run (addAcl req) ⟨watched.host, faults⟩ with
    | mk result w =>
      cases result with
      | error e =>
        rw [if_neg fun both => Bool.false_ne_true both.2]
        exact always.fails faults e w done
      | ok target =>
        have reached := (always.returns faults target w done).1
        by_cases here : req.targetId = id
        · rw [if_pos here] at reached
          rw [if_pos ⟨here, rfl⟩]
          exact reached
        · rw [if_neg here] at reached
          rw [if_neg fun both => here both.1]
          exact reached
  | remove targetId initiator => exact ended

end

def listed (host : IscsiHost) (id : String) : List String :=
  ((host.files.lookup id).map fun target => target.acls.map (·.initiatorIqn)).getD []

def Admitted (host : IscsiHost) (iqn initiator : String) : Prop := ∃ tpg ∈ host.lio.tpg? iqn, tpg.Admits initiator

instance (host : IscsiHost) (iqn initiator : String) : Decidable (Admitted host iqn initiator) :=
  inferInstanceAs (Decidable (∃ tpg ∈ host.lio.tpg? iqn, tpg.Admits initiator))

theorem Guarded.admitted {id iqn initiator : String} {opened : Bool} {host : IscsiHost}
    (guarded : Guarded id iqn opened host) (admitted : Admitted host iqn initiator) :
    initiator ∈ listed host id ∨ opened = true := by
  obtain ⟨acls, stands⟩ := guarded
  obtain ⟨tpg, found, on, generated | entry⟩ := admitted
  · exact .inr ((stands.group tpg found on).2 generated)
  · obtain ⟨acl, mem, eq⟩ := ((stands.group tpg found on).1 initiator entry).2
    obtain ⟨target, stored, -, rfl⟩ := stands.listed
    refine .inl ?_
    rw [listed, stored]
    exact List.mem_map.mpr ⟨acl, mem, eq⟩

/-- A target that was made with an explicit list lets in only the initiators of its list, at every point of every later
call, as long as no removal has left it without entries. -/
theorem initiators_listed {start : IscsiHost} {uuid : List UInt8} {req : CreateTargetRequest} {entries : List AclEntry}
    {faults : List (Option String)} {target : IscsiTarget} {made : Faulty IscsiHost} {events : List AclEvent}
    {watched : Watched} {event : AclEvent}
    (own : ∀ id target, start.files.lookup id = some target → target.id = id)
    (isNew : ∀ id target, start.files.lookup id = some target → eqIgnoreAsciiCase target.iqn (targetIqn req.name) = false)
    (explicit : req.acls = some entries) (names : ∀ entry ∈ entries, FileName entry.initiatorIqn)
    (created : run (create uuid req) ⟨start, faults⟩ = (.ok target, made))
    (ran : Run (AclStep (hyphenated uuid)) ⟨made.state, false⟩ events watched) (proper : event.Proper) (n : Nat)
    (initiator : String)
    (admitted : Admitted (cut n event.program ⟨watched.host, event.faults⟩).state (targetIqn req.name) initiator) :
    initiator ∈ listed (cut n event.program ⟨watched.host, event.faults⟩).state (hyphenated uuid) ∨
      watched.opened = true ∨ event.opens (hyphenated uuid) watched.host = true := by
  have begins := (always_create_guarded own isNew explicit names).returns faults target made created
  have guarded : Guarded (hyphenated uuid) (targetIqn req.name) watched.opened watched.host := by
    refine ran.invariant (I := fun watched => Guarded (hyphenated uuid) (targetIqn req.name) watched.opened watched.host)
      begins ?_
    rintro before event after guarded ⟨proper, rfl⟩
    exact guarded_after proper guarded
  rcases (along_cut (along_event proper guarded)).admitted admitted with inside | opened
  · exact .inl inside
  · exact .inr (Bool.or_eq_true _ _ ▸ opened)

def vault : CreateTargetRequest := { name := "vault", acls := some [{ initiatorIqn := "iqn.a" }] }

def vaultUuid : List UInt8 := List.replicate 16 0

def vaultMade : Except IscsiError IscsiTarget × Faulty IscsiHost := run (create vaultUuid vault) ⟨{}, []⟩

def vaultTarget : IscsiTarget :=
  { id := hyphenated vaultUuid, iqn := targetIqn "vault", portals := [{ ip := "0.0.0.0", port := 3260 }]
    acls := [{ initiatorIqn := "iqn.a" }] }

theorem vault_made : run (create vaultUuid vault) ⟨{}, []⟩ = (.ok vaultTarget, vaultMade.2) := by
  have result : vaultMade.1 = .ok vaultTarget := by decide +kernel
  exact Prod.ext result rfl

def addB : AclEvent := { call := .add { targetId := hyphenated vaultUuid, initiatorIqn := "iqn.b" } }

def vaultWatched : Watched := ⟨vaultMade.2.state, false⟩

theorem initiators_listed_added :
    Admitted (cut 100 addB.program ⟨vaultWatched.host, addB.faults⟩).state (targetIqn vault.name) "iqn.b" ∧
      "iqn.b" ∈ listed (cut 100 addB.program ⟨vaultWatched.host, addB.faults⟩).state (hyphenated vaultUuid) := by
  have admitted : Admitted (cut 100 addB.program ⟨vaultWatched.host, addB.faults⟩).state (targetIqn vault.name) "iqn.b" := by
    decide +kernel
  have proper : addB.Proper := by
    constructor
    · decide +kernel
    · decide +kernel
  have listed := initiators_listed (fun id target found => (by cases found)) (fun id target found => (by cases found)) rfl
    (by decide +kernel) vault_made (.nil vaultWatched) proper 100 "iqn.b" admitted
  refine ⟨admitted, listed.resolve_right ?_⟩
  rintro (opened | opened)
  · cases opened
  · cases opened

def removeA : AclEvent := { call := .remove (hyphenated vaultUuid) "iqn.a" }

/-- The last entry is removed, and then anybody may log in. -/
theorem vault_opens : run (create vaultUuid vault) ⟨{}, []⟩ = (.ok vaultTarget, vaultMade.2) ∧ removeA.Proper ∧
      Admitted (run removeA.program ⟨vaultMade.2.state, removeA.faults⟩).2.state (targetIqn "vault") "iqn.stranger" ∧
      "iqn.stranger" ∉ listed (run removeA.program ⟨vaultMade.2.state, removeA.faults⟩).2.state (hyphenated vaultUuid) := by
  refine ⟨vault_made, ⟨by decide +kernel, rfl⟩, by decide +kernel, by decide +kernel⟩

end NastyEngine.Exports
