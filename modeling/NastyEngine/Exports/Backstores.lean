import Mathlib.Data.Nat.Digits.Defs
import NastyEngine.Exports.Frames
import NastyEngine.Lib.Run

/-!
A backstore is called by what stands after the last colon of its target's name, and by the number of its LUN. The kernel's
backstores are found by these names alone.
-/

namespace NastyEngine.Exports
open Lib Rust Fallible List Keyed

theorem append_underscore_inj {a a' b b' : List Char} (rest : '_' ∉ b) (rest' : '_' ∉ b')
    (eq : a ++ '_' :: b = a' ++ '_' :: b') : a = a' ∧ b = b' := by
  -- read from the end, the texts are split at their first underscore
  have split {a b : List Char} (rest : '_' ∉ b) :
      splitOnce '_' (a ++ '_' :: b).reverse = some (b.reverse, a.reverse) := by
    rw [reverse_append, reverse_cons, append_assoc]
    exact splitOnce_append (fun mem => rest (mem_reverse.mp mem)) _
  have parts := (split rest).symm.trans ((congrArg (splitOnce '_' ·.reverse) eq).trans (split rest'))
  obtain ⟨ends, starts⟩ := Prod.mk.inj (Option.some.inj parts)
  exact ⟨reverse_injective starts, reverse_injective ends⟩

theorem underscore_not_mem_toDigits (n : Nat) : '_' ∉ "lun".toList ++ Nat.toDigits 10 n := by
  intro mem
  rcases mem_append.mp mem with mem | mem
  · exact absurd mem (by decide)
  · exact absurd (Nat.isDigit_of_mem_toDigits (by decide) (by decide) mem) (by decide)

variable {iqn id : String} {target : IscsiTarget} {after lio : Lio} {host : IscsiHost}

theorem backstoreName_inj {iqn' : String} {n n' : Nat} (eq : backstoreName iqn n = backstoreName iqn' n') :
    afterColon iqn = afterColon iqn' ∧ n = n' := by
  have text (iqn : String) (n : Nat) : (backstoreName iqn n).toList =
      "nasty_".toList ++ ((afterColon iqn).toList ++ '_' :: ("lun".toList ++ Nat.toDigits 10 n)) := by
    have number : (toString n).toList = Nat.toDigits 10 n := Nat.toList_repr
    rw [backstoreName, String.toList_append, String.toList_append, String.toList_append, number, append_assoc,
      append_assoc]
    rfl
  have lists := congrArg String.toList eq
  rw [text, text] at lists
  obtain ⟨start, number⟩ := append_underscore_inj (underscore_not_mem_toDigits n) (underscore_not_mem_toDigits n')
    (append_cancel_left lists)
  exact ⟨String.toList_inj.mp start, toDigits_inj (append_cancel_left number)⟩

theorem nextLunId_fresh {luns : List Lun} (small : ∀ lun ∈ luns, lun.lunId + 1 < 2 ^ 32) :
    nextLunId luns ∉ luns.map (·.lunId) := by
  rw [nextLunId]
  cases eq : (luns.map (·.lunId)).max? with
  | none =>
    rw [max?_eq_none_iff.mp eq]
    exact not_mem_nil
  | some highest =>
    obtain ⟨mem, greatest⟩ := max?_eq_some_iff.mp eq
    obtain ⟨lun, hm, rfl⟩ := mem_map.mp mem
    have number : (lun.lunId + 1) % 2 ^ 32 = lun.lunId + 1 := Nat.mod_eq_of_lt (small lun hm)
    intro taken
    have below : (lun.lunId + 1) % 2 ^ 32 ≤ lun.lunId := greatest _ taken
    omega

structure Numbered (target : IscsiTarget) : Prop where
  named : ∀ lun ∈ target.luns, lun.backstoreName = backstoreName target.iqn lun.lunId
  nodup : (target.luns.map (·.lunId)).Nodup

structure Named (files : Keyed String IscsiTarget) : Prop where
  own : ∀ id target, files.lookup id = some target → target.id = id
  numbered : ∀ id target, files.lookup id = some target → Numbered target
  apart : ∀ id target id' target', files.lookup id = some target → files.lookup id' = some target' →
    afterColon target.iqn = afterColon target'.iqn → id = id'

def Distinct (files : Keyed String IscsiTarget) : Prop :=
  (files.pairs.flatMap fun (_, target) => target.luns.map (·.backstoreName)).Nodup

instance (files : Keyed String IscsiTarget) : Decidable (Distinct files) := inferInstanceAs (Decidable (List.Nodup _))

theorem Numbered.names_nodup (numbered : Numbered target) : (target.luns.map (·.backstoreName)).Nodup := by
  have names : target.luns.map (·.backstoreName) = (target.luns.map (·.lunId)).map (backstoreName target.iqn) := by
    rw [map_map]
    exact map_congr_left fun lun mem => numbered.named lun mem
  rw [names]
  exact numbered.nodup.map fun n n' eq => (backstoreName_inj eq).2

variable {files : Keyed String IscsiTarget}

theorem Named.name_apart (named : Named files) {id' : String}
    {target' : IscsiTarget} (hit : files.lookup id = some target) (found' : files.lookup id' = some target')
    {lun lun' : Lun} (mem : lun ∈ target.luns) (mem' : lun' ∈ target'.luns)
    (eq : lun.backstoreName = lun'.backstoreName) : id = id' := by
  rw [(named.numbered id target hit).named lun mem, (named.numbered id' target' found').named lun' mem'] at eq
  exact named.apart id target id' target' hit found' (backstoreName_inj eq).1

theorem Named.distinct (named : Named files) : Distinct files := by
  rw [Distinct, nodup_flatMap]
  constructor
  · intro pair mem
    exact (named.numbered pair.1 pair.2 (mem_pairs.mp mem)).names_nodup
  · have keys : files.pairs.Pairwise fun one two => one.1 ≠ two.1 := by
      rw [Keyed.pairs, pairwise_map]
      exact pairwise_map.mp files.nodupKeys
    refine keys.imp_of_mem ?_
    intro one two mem mem' ne name hm there'
    obtain ⟨lun, isLun, rfl⟩ := mem_map.mp hm
    obtain ⟨lun', isLun', eq⟩ := mem_map.mp there'
    exact ne (named.name_apart (mem_pairs.mp mem) (mem_pairs.mp mem') isLun isLun' eq.symm)

structure Fits (files : Keyed String IscsiTarget) (target : IscsiTarget) : Prop where
  inside : '/' ∉ target.id.toList
  numbered : Numbered target
  apart : ∀ id other, files.lookup id = some other → afterColon other.iqn = afterColon target.iqn → id = target.id

section
variable {files : Keyed String IscsiTarget} {target target' : IscsiTarget}

theorem Named.fits (named : Named files) (inv : '/' ∉ id.toList) (hit : files.lookup id = some target) :
    Fits files target := by
  have own := named.own id target hit
  subst own
  exact ⟨inv, named.numbered _ target hit, fun id other there eq => named.apart id other _ target there hit eq⟩

theorem Fits.stored (fits : Fits files target) (host : IscsiHost) :
    host.put target = { host with files := host.files.insert target.id target } := if_neg fits.inside

theorem Named.insert (named : Named files) (fits : Fits files target) : Named (files.insert target.id target) := by
  refine ⟨fun id other hit => ?_, fun id other hit => ?_, fun id one id' two hit found' eq => ?_⟩
  · rcases lookup_of_insert hit with ⟨rfl, rfl⟩ | ⟨-, hit⟩
    · rfl
    · exact named.own id other hit
  · rcases lookup_of_insert hit with ⟨rfl, rfl⟩ | ⟨-, hit⟩
    · exact fits.numbered
    · exact named.numbered id other hit
  · rcases lookup_of_insert hit with ⟨rfl, rfl⟩ | ⟨-, before⟩ <;>
      rcases lookup_of_insert found' with ⟨rfl, rfl⟩ | ⟨-, before'⟩
    · rfl
    · exact (fits.apart id' two before' eq.symm).symm
    · exact fits.apart id one before eq
    · exact named.apart id one id' two before before' eq

theorem Named.erase (named : Named files) (id : String) : Named (files.erase id) :=
  ⟨fun _ _ eq => named.own _ _ (lookup_of_erase eq), fun _ _ eq => named.numbered _ _ (lookup_of_erase eq),
    fun _ _ _ _ eq found' => named.apart _ _ _ _ (lookup_of_erase eq) (lookup_of_erase found')⟩

theorem Fits.version (fits : Fits files target) (id : target'.id = target.id) (iqn : target'.iqn = target.iqn)
    (numbered : Numbered target') : Fits files target' := by
  refine ⟨?_, numbered, ?_⟩
  · rw [id]
    exact fits.inside
  · rw [id, iqn]
    exact fits.apart

theorem Fits.insert (fits : Fits files target) (id : target'.id = target.id) :
    Fits (files.insert target'.id target') target := by
  refine ⟨fits.inside, fits.numbered, fun other there hit eq => ?_⟩
  by_cases here : other = target.id
  · exact here
  · rw [id, AList.lookup_insert_ne here] at hit
    exact fits.apart other there hit eq

end

theorem named_blind : LioBlind fun host => Named host.files := fun _ _ _ named => named

def Beside (target : IscsiTarget) (host : IscsiHost) : Prop := Named host.files ∧ Fits host.files target

theorem beside_blind (target : IscsiTarget) : LioBlind (Beside target) := fun _ _ _ inv => inv

theorem keeps_save {version : IscsiTarget} (id : version.id = target.id) (iqn : version.iqn = target.iqn)
    (numbered : Numbered version) : Keeps (Beside target) (save version) :=
  .mapError (.perform fun host u t inv done => by
    have fits := inv.2.version id iqn numbered
    cases done
    rw [fits.stored]
    exact ⟨inv.1.insert fits, inv.2.insert id⟩)

abbrev KeepsNamed {α : Type} (p : IscsiOp α) (P : α → Prop) (host : IscsiHost) : Prop :=
  Always (fun host => Named host.files) p (fun a _ => P a) (fun _ => True) host

section
variable {host : IscsiHost} (named : Named host.files)
include named

theorem always_loaded {α : Type} {P : α → Prop} (plain : '/' ∉ id.toList) {rest : IscsiTarget → IscsiOp α}
    (kept : ∀ target, host.files.lookup id = some target → Numbered target → Keeps (Beside target) (rest target))
    (yields : ∀ target, target.id = id → Yields P (rest target)) :
    KeepsNamed (load id >>= rest) P host := by
  refine .bind (always_load named plain) fun target after _ loaded => ?_
  obtain ⟨eq, hit⟩ := loaded
  subst eq
  have fits := named.fits plain hit
  have always := (kept target hit fits.numbered).always ⟨named, fits⟩ fun _ inv => inv.1
  exact .mono (always.yields (yields target (named.own id target hit))) (fun _ _ _ ended => ended.2) fun _ _ _ => trivial

theorem always_addLun {req : AddLunRequest} (plain : '/' ∉ req.targetId.toList)
    (small : ∀ target, host.files.lookup req.targetId = some target → ∀ lun ∈ target.luns, lun.lunId + 1 < 2 ^ 32) :
    KeepsNamed (addLun req) (fun target => target.id = req.targetId) host := by
  refine always_loaded named plain (fun target eq numbered => ?_) fun target own => ?_
  · have blind := beside_blind target
    refine .bind .observe fun type => .bind .observe fun checked =>
      .bind .ofExcept fun _ => .bind (.bind keeps_look fun _ => .observe) fun index =>
        .bind (blind.makeBackstore _ _ _) fun _ => .bind (blind.linkLun _ _ _ _) fun _ =>
          .bind (keeps_save rfl rfl ?_) fun _ => .bind blind.saveLioConfig fun _ => .pure
    refine ⟨fun lun mem => ?_, ?_⟩
    · rcases mem_append.mp mem with mem | mem
      · exact numbered.named lun mem
      · rw [mem_singleton.mp mem]
    · rw [map_append, nodup_append']
      refine ⟨numbered.nodup, nodup_singleton _, ?_⟩
      rw [map_singleton, disjoint_singleton]
      exact nextLunId_fresh (small target eq)
  · refine .bind fun _ => .bind fun _ => .bind fun _ => .bind fun _ => .bind fun _ =>
      .bind fun _ => .bind fun _ => .bind fun _ => .pure own

theorem always_removeLun {targetId : String} {lunId : Nat} (plain : '/' ∉ targetId.toList) :
    KeepsNamed (removeLun targetId lunId) (fun _ => True) host := by
  refine always_loaded named plain (fun target eq numbered => ?_) fun target own => fun _ _ _ _ => trivial
  have blind := beside_blind target
  refine .bind .ofExcept fun lun => .bind (blind.removeLunDir _ _) fun _ =>
    .bind (blind.removeBackstore _) fun _ => .bind (keeps_save rfl rfl ?_) fun _ =>
      .bind blind.saveLioConfig fun _ => .pure
  refine ⟨fun lun mem => numbered.named lun (mem_of_mem_eraseP mem), ?_⟩
  exact numbered.nodup.sublist (List.Sublist.map _ (eraseP_sublist))

theorem always_addAcl {req : AddAclRequest} (plain : '/' ∉ req.targetId.toList) :
    KeepsNamed (addAcl req) (fun target => target.id = req.targetId) host := by
  refine .check named trivial fun enableChap _ => ?_
  refine always_loaded named plain (fun target eq numbered => ?_) fun target own => yields_addAclLoaded own
  exact ((beside_blind target).ignores _).addAclLoaded rfl fun acls => keeps_save rfl rfl ⟨numbered.named, numbered.nodup⟩

theorem always_delete (plain : '/' ∉ id.toList) : KeepsNamed (delete id) (fun _ => True) host := by
  refine .bind (always_load named plain) fun target after _ loaded => ?_
  obtain ⟨eq, hit⟩ := loaded
  subst eq
  refine (Keeps.bind named_blind.dismantle fun _ => .bind ?_ fun _ => named_blind.saveLioConfig) _ named
  refine Keeps.mapError (.perform fun host u t named done => ?_)
  cases done
  rw [IscsiHost.drop, if_neg plain]
  exact named.erase id

end

section
variable {host : IscsiHost}

theorem always_orCleanUp (plain : '/' ∉ id.toList) {p : IscsiOp IscsiTarget} {P : IscsiTarget → Prop}
    (always : KeepsNamed p P host) :
    KeepsNamed (orCleanUp id p) P host := by
  refine .attempt always (fun target after named holds => .pure named holds) fun e after named _ => ?_
  refine .bind (R := fun _ _ => True) ?_ fun error after named _ => .throw named trivial
  refine .attempt (always_delete named plain) (fun u after named _ => ?_) fun e after named _ =>
    .pure named trivial
  refine (Keeps.attempt named_blind.saveLioConfigChecked fun saved => ?_) after named
  cases saved <;> exact Keeps.pure

theorem always_firstAcls {entries : List AclEntry} (plain : '/' ∉ target.id.toList) (named : Named host.files) :
    KeepsNamed (firstAcls target entries) (fun _ => True) host := by
  induction entries generalizing target host with
  | nil => exact .pure named trivial
  | cons entry rest ih =>
    refine .bind (always_orCleanUp plain (always_addAcl named plain)) fun target after named eq => ?_
    have plain : '/' ∉ target.id.toList := by
      rw [eq]
      exact plain
    exact ih plain named

variable {uuid : List UInt8} {req : CreateTargetRequest}

theorem always_createNew (named : Named host.files)
    (apart : ∀ id target, host.files.lookup id = some target → afterColon target.iqn ≠ afterColon iqn) :
    KeepsNamed (createNew uuid iqn req) (fun _ => True) host := by
  have blind : LioBlind fun after => after.files = host.files := fun _ _ _ same => same
  have weaker : ∀ after : IscsiHost, after.files = host.files → Named after.files := fun after same => same ▸ named
  have step {α : Type} {p : IscsiOp α} {f : α → IscsiOp IscsiTarget} (keeps : Keeps (fun after => after.files = host.files) p)
      (rest : ∀ a (after : IscsiHost), after.files = host.files →
        KeepsNamed (f a) (fun _ => True) after) (after : IscsiHost)
      (same : after.files = host.files) :
      KeepsNamed (p >>= f) (fun _ => True) after :=
    .bind (.mono (keeps.always same weaker) (fun _ _ _ same => same) fun _ _ _ => trivial)
      fun a after _ same => rest a after same
  refine step .observe (fun globalIpv6 => step (blind.createTargetDirs _) fun _ =>
    step (blind.createPortals _ _ _) fun created => step (blind.opportunisticPortal _ _ _) fun created =>
      step (blind.orUnpersisted (blind.configureTpg _ _)) fun _ after same => ?_) host rfl
  set target : IscsiTarget := { id := hyphenated uuid, iqn := iqn, aliasName := req.aliasName, portals := created }
  have plain : '/' ∉ target.id.toList := hyphenated_inside uuid
  have fits : Fits after.files target := by
    refine ⟨plain, ⟨fun lun mem => (by cases mem), nodup_nil⟩, fun id other eq same' => ?_⟩
    rw [same] at eq
    exact absurd same' (apart id other eq)
  have named := weaker after same
  refine .bind (R := fun _ after => after.files.lookup target.id = some target) ?_ fun _ after named stored => ?_
  · have saved : Named (after.put target).files := by
      rw [fits.stored]
      exact named.insert fits
    refine .attempt (always_save (J := fun host => Named host.files) named saved)
      (fun u _ saved same => .pure saved ?_) fun e after named _ => ?_
    · rw [same, fits.stored]
      exact AList.lookup_insert _
    · exact .bind (named_blind.cleanupUnpersistedTarget _ _ after named) fun _ _ named _ => .throw named trivial
  · have blind : LioBlind fun after => Named after.files ∧ after.files.lookup target.id = some target :=
      fun _ _ _ inv => inv
    refine .bind (.mono (blind.saveLioConfig.always ⟨named, stored⟩ fun _ inv => inv.1)
      (fun _ _ _ inv => inv) fun _ _ _ => trivial) fun _ after _ inv => ?_
    refine .bind (R := fun target _ => target.id = hyphenated uuid) ?_ fun target after named own => ?_
    · rw [firstLun]
      cases req.devicePath with
      | none => exact .pure inv.1 rfl
      | some device =>
        refine always_orCleanUp plain (always_addLun inv.1 plain fun other eq lun mem => ?_)
        have same := Option.some.inj (inv.2.symm.trans eq)
        rw [← same] at mem
        exact absurd mem not_mem_nil
    · have plain : '/' ∉ target.id.toList := by
        rw [own]
        exact plain
      exact .bind (always_firstAcls plain named) fun _ _ named _ => .pure named trivial

theorem always_create (named : Named host.files)
    (apart : ∀ id target, host.files.lookup id = some target → eqIgnoreAsciiCase target.iqn (targetIqn req.name) = false →
      afterColon target.iqn ≠ afterColon (targetIqn req.name)) :
    KeepsNamed (create uuid req) (fun _ => True) host := by
  refine .check named trivial fun _ _ => .check named trivial fun _ _ => ?_
  refine .bind (R := fun targets after => after = host ∧ targets = host.files.pairs.map (·.2))
    (.mapError (.perform named trivial fun targets t done => ?_)) fun targets after _ loaded => ?_
  · cases done
    exact ⟨named, rfl, rfl⟩
  · obtain ⟨eq, all⟩ := loaded
    subst eq all
    split
    · exact .pure named trivial
    next absent =>
      refine always_createNew named fun id target hit => apart id target hit ?_
      have ne := find?_eq_none.mp absent target (mem_map.mpr ⟨(id, target), mem_pairs.mpr hit, rfl⟩)
      simpa using ne

end

def Spares (names : List String) (before : Lio) (host : IscsiHost) : Prop :=
  ∀ hba name, name ∉ names → host.lio.backstore? hba name = before.backstore? hba name

theorem onTpg_core {f : Tpg → Except String Tpg} (done : lio.onTpg iqn f = .ok after) : after.core = lio.core := by
  unfold Lio.onTpg at done
  split at done
  · cases done
  · obtain ⟨tpg, -, eq⟩ := map_ok done
    rw [← eq]
    rfl

theorem rmdirTpg_core (done : lio.rmdirTpg iqn = .ok after) : after.core = lio.core := by
  unfold Lio.rmdirTpg at done
  split at done
  · cases done
  · split at done
    · cases done
      rfl
    · cases done

theorem rmdirTarget_core (done : lio.rmdirTarget iqn = .ok after) : after.core = lio.core := by
  unfold Lio.rmdirTarget at done
  split at done
  · cases done
  · cases done
  · cases done
    rfl

section
variable {lio after : Lio} {hba hba' : Hba} {name name' : String}

theorem backstore?_insert {stores changed : Keyed String Backstore} (hit : lio.core.lookup hba = some stores)
    (eq : changed.lookup name' = stores.lookup name') :
    ({ lio with core := lio.core.insert hba changed } : Lio).backstore? hba' name' = lio.backstore? hba' name' := by
  by_cases here : hba' = hba
  · subst here
    rw [Lio.backstore?, Lio.backstore?, AList.lookup_insert, hit, Option.bind_some, Option.bind_some, eq]
  · rw [Lio.backstore?, Lio.backstore?, AList.lookup_insert_ne here]

theorem onBackstore_other {f : Backstore → Backstore} (ne : name' ≠ name) (done : lio.onBackstore hba name f = .ok after) :
    after.backstore? hba' name' = lio.backstore? hba' name' := by
  unfold Lio.onBackstore at done
  split at done
  · cases done
  next stores eq =>
    split at done
    · cases done
      apply backstore?_insert eq
      rw [lookup_modify, if_neg ne]
    · cases done

theorem rmdirBackstore_other (ne : name' ≠ name) (done : lio.rmdirBackstore hba name = .ok after) :
    after.backstore? hba' name' = lio.backstore? hba' name' := by
  unfold Lio.rmdirBackstore at done
  split at done
  · cases done
  next stores eq =>
    split at done
    · cases done
    · split at done
      · cases done
      · cases done
        exact backstore?_insert eq (AList.lookup_erase_ne ne)

theorem rmdirHba_backstores (done : lio.rmdirHba hba = .ok after) :
    after.backstore? hba' name' = lio.backstore? hba' name' := by
  unfold Lio.rmdirHba at done
  split at done
  · cases done
  next stores eq =>
    split at done
    next unused =>
      cases done
      by_cases here : hba' = hba
      · subst here
        have nothing : stores.lookup name' = none := by
          rw [show stores = ∅ from AList.ext unused]
          exact AList.lookup_empty name'
        rw [Lio.backstore?, Lio.backstore?, AList.lookup_erase, eq, Option.bind_some, nothing]
        rfl
      · rw [Lio.backstore?, Lio.backstore?, AList.lookup_erase_ne here]
    · cases done

end

section
variable {names : List String} {before : Lio}

theorem Spares.of_core (spares : Spares names before host)
    (eq : lio.core = host.lio.core) : Spares names before { host with lio := lio } := by
  intro hba name ne
  rw [← spares hba name ne, Lio.backstore?, Lio.backstore?, eq]

theorem spares_onTpg {text iqn : String} {f : Tpg → Except String Tpg} :
    Keeps (Spares names before) (configfs text (·.onTpg iqn f)) :=
  keeps_configfs fun _ _ spares done => spares.of_core (onTpg_core done)

theorem spares_removeLunDir (iqn : String) (lun : Lun) : Keeps (Spares names before) (removeLunDir iqn lun) :=
  .bind (.ignore spares_onTpg) fun _ => .ignore spares_onTpg

theorem spares_removeBackstore {lun : Lun} (named : lun.backstoreName ∈ names) :
    Keeps (Spares names before) (removeBackstore lun) := by
  have apart {name : String} (ne : name ∉ names) : name ≠ lun.backstoreName := fun eq => ne (eq ▸ named)
  refine .bind (.bind keeps_look fun _ => .observe) fun found => ?_
  cases found with
  | none => exact .pure
  | some hba =>
    refine .bind (.ignore (keeps_configfs fun host lio spares done hba' name ne => ?_)) fun _ =>
      .bind (.ignore (keeps_configfs fun host lio spares done hba' name ne => ?_)) fun _ =>
        .bind keeps_hbaIsEmpty fun unused => ?_
    · exact (onBackstore_other (apart ne) done).trans (spares hba' name ne)
    · exact (rmdirBackstore_other (apart ne) done).trans (spares hba' name ne)
    · split
      · refine .ignore (keeps_configfs fun host lio spares done hba' name ne => ?_)
        exact (rmdirHba_backstores done).trans (spares hba' name ne)
      · exact .pure

theorem spares_saveLioConfig : Keeps (Spares names before) saveLioConfig :=
  .ignore (.mapError (.perform fun host u t spares done => by
    cases done
    exact spares))

theorem spares_save (target : IscsiTarget) : Keeps (Spares names before) (save target) :=
  .mapError (.perform fun host u t spares done => by
    cases done
    unfold IscsiHost.put
    split
    · exact spares
    · exact spares)

theorem spares_removeState (id : String) : Keeps (Spares names before) (removeState id) :=
  .mapError (.perform fun host u t spares done => by
    cases done
    unfold IscsiHost.drop
    split
    · exact spares
    · exact spares)

theorem spares_dismantle (named : ∀ lun ∈ target.luns, lun.backstoreName ∈ names) :
    Keeps (Spares names before) (dismantle target) :=
  .bind (.ignore spares_onTpg) fun _ =>
    .bind (.forM fun _ _ => .ignore spares_onTpg) fun _ =>
      .bind (.forM fun _ _ => spares_removeLunDir _ _) fun _ =>
        .bind (.forM fun _ _ => .ignore spares_onTpg) fun _ =>
          .bind (.ignore (keeps_configfs fun _ _ spares done => spares.of_core (rmdirTpg_core done))) fun _ =>
            .bind (.ignore (keeps_configfs fun _ _ spares done => spares.of_core (rmdirTarget_core done)))
              fun _ => .forM fun lun mem => spares_removeBackstore (named lun mem)

end

section
variable {host : IscsiHost} {id : String} (plain : '/' ∉ id.toList)
include plain

def namesOf (host : IscsiHost) (id : String) : List String :=
  ((host.files.lookup id).map fun target => target.luns.map (·.backstoreName)).getD []

theorem spares_loaded {α : Type} {rest : IscsiTarget → IscsiOp α}
    (kept : ∀ target, Keeps (Spares (target.luns.map (·.backstoreName)) host.lio) (rest target)) :
    Always (Spares (namesOf host id) host.lio) (load id >>= rest) (fun _ _ => True) (fun _ => True) host := by
  have start : Spares (namesOf host id) host.lio host := fun _ _ _ => rfl
  refine .bind (always_load start plain) fun target after _ loaded => ?_
  obtain ⟨eq, hit⟩ := loaded
  subst eq
  have names : namesOf after id = target.luns.map (·.backstoreName) := by
    rw [namesOf, hit]
    rfl
  rw [names] at start ⊢
  exact kept target after start

theorem spares_delete :
    Always (Spares (namesOf host id) host.lio) (delete id) (fun _ _ => True) (fun _ => True) host := by
  refine spares_loaded plain fun target => ?_
  refine .bind (spares_dismantle fun lun mem => mem_map_of_mem mem) fun _ => ?_
  exact .bind (spares_removeState id) fun _ => spares_saveLioConfig

theorem spares_removeLun {lunId : Nat} :
    Always (Spares (namesOf host id) host.lio) (removeLun id lunId) (fun _ _ => True) (fun _ => True) host := by
  refine spares_loaded plain fun target => ?_
  intro after spares
  refine .check spares trivial fun lun eq => ?_
  have mem := mem_of_find?_eq_some (okOr_ok eq)
  refine (Keeps.bind (spares_removeLunDir _ _) fun _ => .bind (spares_removeBackstore ?_) fun _ =>
    Keeps.bind (spares_save _) fun _ => .bind spares_saveLioConfig fun _ => .pure) after spares
  exact mem_map_of_mem mem

end

inductive IscsiCall where
  | create (uuid : List UInt8) (req : CreateTargetRequest)
  | addLun (req : AddLunRequest)
  | removeLun (targetId : String) (lunId : Nat)
  | delete (id : String)

namespace IscsiCall

def program : IscsiCall → IscsiOp Unit
  | create uuid req => do
    let _ ← Exports.create uuid req
  | addLun req => do
    let _ ← Exports.addLun req
  | removeLun targetId lunId => do
    let _ ← Exports.removeLun targetId lunId
  | delete id => Exports.delete id

def removes : IscsiCall → Option String
  | create _ _ | addLun _ => none
  | removeLun targetId _ => some targetId
  | delete id => some id

/-- A new target has its own part after the last colon, requests name targets of the state directory, and the numbers of
LUNs do not start again. -/
def Proper (host : IscsiHost) : IscsiCall → Prop
  | create _ req => ∀ id target, host.files.lookup id = some target →
      eqIgnoreAsciiCase target.iqn (targetIqn req.name) = false → afterColon target.iqn ≠ afterColon (targetIqn req.name)
  | addLun req => '/' ∉ req.targetId.toList ∧ ∀ target ∈ host.files.lookup req.targetId,
      ∀ lun ∈ target.luns, lun.lunId + 1 < 2 ^ 32
  | removeLun targetId _ => '/' ∉ targetId.toList
  | delete id => '/' ∉ id.toList

instance (host : IscsiHost) (call : IscsiCall) : Decidable (call.Proper host) := by
  cases call <;> dsimp only [Proper] <;> infer_instance

end IscsiCall

structure IscsiEvent where
  call : IscsiCall
  faults : List (Option String) := []
  steps : Nat

def IscsiEvent.step (event : IscsiEvent) (host : IscsiHost) : IscsiHost :=
  (cut event.steps event.call.program ⟨host, event.faults⟩).state

def IscsiStep (host : IscsiHost) (event : IscsiEvent) (after : IscsiHost) : Prop := after = event.step host

def ProperStep (host : IscsiHost) (event : IscsiEvent) (after : IscsiHost) : Prop :=
  event.call.Proper host ∧ IscsiStep host event after

variable {event : IscsiEvent}

theorem named_step (named : Named host.files) (proper : event.call.Proper host) : Named (event.step host).files := by
  have drop {p : IscsiOp IscsiTarget} {Q : IscsiTarget → IscsiHost → Prop}
      (always : Always (fun host => Named host.files) p Q (fun _ => True) host) :
      Named (cut event.steps (p >>= fun _ => pure ()) ⟨host, event.faults⟩).state.files :=
    (Always.bind always fun _ _ named _ => .pure (Q := fun _ _ => True) named trivial).point event.faults event.steps
  obtain ⟨call, faults, steps⟩ := event
  cases call with
  | create uuid req => exact drop (always_create named proper)
  | addLun req => exact drop (always_addLun named proper.1 fun target eq => proper.2 target eq)
  | removeLun targetId lunId => exact drop (always_removeLun named proper)
  | delete id => exact (always_delete named proper).point faults steps

def Untouched (host after : IscsiHost) (id : String) : Prop :=
  ∀ other target lun hba, other ≠ id → host.files.lookup other = some target → lun ∈ target.luns →
    after.lio.backstore? hba lun.backstoreName = host.lio.backstore? hba lun.backstoreName

theorem untouched_of_spares {after : IscsiHost} (named : Named host.files)
    (spares : Spares (namesOf host id) host.lio after) : Untouched host after id := by
  intro other target lun hba ne hit mem
  refine spares hba lun.backstoreName fun taken => ?_
  cases own : host.files.lookup id with
  | none =>
    rw [namesOf, own] at taken
    cases taken
  | some target' =>
    rw [namesOf, own] at taken
    obtain ⟨lun', mem', eq⟩ := mem_map.mp taken
    exact ne (named.name_apart hit own mem mem' eq.symm)

theorem untouched_step (named : Named host.files)
    (proper : event.call.Proper host) (removes : event.call.removes = some id) : Untouched host (event.step host) id := by
  apply untouched_of_spares named
  obtain ⟨call, faults, steps⟩ := event
  cases call with
  | create uuid req => cases removes
  | addLun req => cases removes
  | removeLun targetId lunId =>
    cases removes
    exact (Always.bind (spares_removeLun proper) fun _ _ spares _ =>
      .pure (Q := fun _ _ => True) spares trivial).point faults steps
  | delete id =>
    cases removes
    exact (spares_delete proper).point faults steps

theorem named_empty : Named ∅ :=
  ⟨fun id target eq => (by cases eq), fun id target eq => (by cases eq), fun id target id' target' eq => (by cases eq)⟩

/-- In every state that proper calls lead to, the backstores of all LUNs have different names, and a removal leaves those of
the other targets as they are. -/
theorem backstores_distinct {start host : IscsiHost} {events : List IscsiEvent} (fresh : start.files = ∅)
    (run : Run ProperStep start events host) :
    Distinct host.files ∧ ∀ (event : IscsiEvent) (id : String), event.call.Proper host → event.call.removes = some id →
      Untouched host (event.step host) id := by
  have named : Named host.files := by
    refine run.invariant (I := fun host => Named host.files) ?_ ?_
    · rw [fresh]
      exact named_empty
    · rintro before event after named ⟨proper, rfl⟩
      exact named_step named proper
  exact ⟨named.distinct, fun event id proper removes => untouched_step named proper removes⟩

def withDevice (byte : UInt8) (name device : String) : IscsiEvent :=
  { call := .create (List.replicate 16 byte) { name := name, devicePath := some device }, steps := 100 }

theorem backstores_distinct_pair :
    ∃ host, Run ProperStep {} [withDevice 0 "tank:x" "/dev/loop0", withDevice 1 "tank:y" "/dev/loop1"] host ∧
      host.files.entries.length = 2 ∧ Distinct host.files := by
  have first : (withDevice 0 "tank:x" "/dev/loop0").call.Proper {} := by decide +kernel
  have second : (withDevice 1 "tank:y" "/dev/loop1").call.Proper ((withDevice 0 "tank:x" "/dev/loop0").step {}) := by
    decide +kernel
  have run : Run ProperStep {} ([] ++ [withDevice 0 "tank:x" "/dev/loop0"] ++ [withDevice 1 "tank:y" "/dev/loop1"])
      ((withDevice 1 "tank:y" "/dev/loop1").step ((withDevice 0 "tank:x" "/dev/loop0").step {})) :=
    .snoc (.snoc (.nil _) ⟨first, rfl⟩) ⟨second, rfl⟩
  exact ⟨_, run, by decide +kernel, (backstores_distinct rfl run).1⟩

/-- Two targets whose names differ only before the colon share a backstore. -/
theorem backstores_shared :
    ∃ host, Run IscsiStep {} [withDevice 0 "a:x" "/dev/loop0", withDevice 1 "b:x" "/dev/loop1"] host ∧
      ¬ Distinct host.files := by
  have run : Run IscsiStep {} ([] ++ [withDevice 0 "a:x" "/dev/loop0"] ++ [withDevice 1 "b:x" "/dev/loop1"])
      ((withDevice 1 "b:x" "/dev/loop1").step ((withDevice 0 "a:x" "/dev/loop0").step {})) :=
    .snoc (.snoc (.nil _) rfl) rfl
  exact ⟨_, run, by decide +kernel⟩

end NastyEngine.Exports
