import NastyEngine.Network.Effects

/-!
Applying renders profiles with the live MACs and the management interface, reconciling and
previewing without them. They agree when no master adopts a MAC that the first context finds.
-/

namespace NastyEngine.Network
open Lib Fallible List

variable {p : NmConnection} {link : Link} {config : NetworkConfig} {w : World}

theorem toSettingsDict_of_macBytes {q : NmConnection} (eq : q = { p with mac := q.mac })
    (bytes : q.macBytes = p.macBytes) : toSettingsDict q = toSettingsDict p := by
  have typed : typeSection q = typeSection p := by
    unfold typeSection
    rw [bytes, eq]
  have ethernet : ethernetSection q = ethernetSection p := by
    unfold ethernetSection
    rw [bytes, eq]
  unfold toSettingsDict
  rw [typed, ethernet, eq]
  rfl

theorem bridge_macBytes {stp : Bool} {delay : Option UInt8} (bridge : p.typeSpecific = .bridge stp delay) :
    ((toSettingsDict p).lookup "bridge").bind (·.lookup "mac-address") = p.macBytes.map OwnedValue.bytes := by
  unfold toSettingsDict typeSection
  cases p.macBytes <;> simp [bridge, bridgeSection, lookup_insertSome]

theorem bond_macBytes (bond : p.connType = .bond) :
    ((toSettingsDict p).lookup "802-3-ethernet").bind (·.lookup "cloned-mac-address") =
      p.macBytes.map OwnedValue.bytes := by
  rw [lookup_ethernet, ethernetSection]
  cases p.macBytes <;> cases p.mtu <;> simp [bond, lookup_insertSome]

def adoptedBytes (kind : LinkKind) (ctx : MacContext) : Option (List UInt8) := (inheritedMac kind ctx).bind macToBytes

theorem linkProfile_eq {layered : LayeredConfig} {ctx : MacContext} {link : Link} (unset : link.mac = none) :
    linkProfile layered ctx link =
      { plainProfile layered ctx link with mac := inheritedMac link.kind ctx } := by
  obtain ⟨ipv4, ipv6, plain⟩ := plainProfile_eq layered ctx link
  unfold linkProfile
  cases inheritedMac link.kind ctx <;> simp [plain, profileForLink, unset]

theorem linkProfile_dict_iff {layered : LayeredConfig} {link : Link}
    (unset : link.mac = none) (ib : ctx.infinibandIfaces = ctx'.infinibandIfaces) :
    toSettingsDict (linkProfile layered ctx link) = toSettingsDict (linkProfile layered ctx' link) ↔
      adoptedBytes link.kind ctx = adoptedBytes link.kind ctx' := by
  have here := @linkProfile_eq layered ctx link unset
  have there := @linkProfile_eq layered ctx' link unset
  have plain : plainProfile layered ctx link = plainProfile layered ctx' link := by
    simp only [plainProfile, profileForLink, connTypeOf, ib]
  rw [plain] at here
  obtain ⟨ipv4, ipv6, plain⟩ := plainProfile_eq layered ctx' link
  have bytes : (linkProfile layered ctx link).macBytes = adoptedBytes link.kind ctx := by
    rw [here]; rfl
  have bytes' : (linkProfile layered ctx' link).macBytes = adoptedBytes link.kind ctx' := by
    rw [there]; rfl
  constructor
  · intro eq
    rw [← bytes, ← bytes']
    refine Option.map_injective (fun _ _ h => OwnedValue.bytes.inj h) ?_
    cases kind : link.kind with
    | bond members mode mac =>
      have isBond : ∀ m, ({ plainProfile layered ctx' link with mac := m } : NmConnection).connType =
          .bond := by
        intro m
        simp [plain, profileForLink, connTypeOf, kind]
      have one := bond_macBytes (p := linkProfile layered ctx link) (by rw [here]; exact isBond _)
      have two := bond_macBytes (p := linkProfile layered ctx' link) (by rw [there]; exact isBond _)
      exact (eq ▸ one).symm.trans two
    | bridge members stp delay mac =>
      have isBridge : ∀ m, ({ plainProfile layered ctx' link with mac := m } : NmConnection).typeSpecific =
          .bridge stp delay := by
        intro m
        simp [plain, profileForLink, typeSpecificOf, kind]
      have one := bridge_macBytes (p := linkProfile layered ctx link) (by rw [here]; exact isBridge _)
      have two := bridge_macBytes (p := linkProfile layered ctx' link) (by rw [there]; exact isBridge _)
      exact (eq ▸ one).symm.trans two
    | physical | vlan _ _ | macvlan _ _ => rw [bytes, bytes', kind]; rfl
  · intro adopted
    refine toSettingsDict_of_macBytes ?_ (by rw [bytes, bytes', adopted])
    rw [here, there]

def presentLinks (config : NetworkConfig) (live : List LiveInterface) : List Link :=
  (toLayered config).links.filter fun l => l.kind ≠ .physical ∨ l.name ∈ live.map (·.name)

theorem toLayered_mac (mem : link ∈ (toLayered config).links) : link.mac = none := by
  rcases mem_toLayered_links.mp mem with ⟨x, hx, rfl⟩ | ⟨x, hx, rfl⟩ | ⟨x, hx, rfl⟩ |
    ⟨x, hx, rfl⟩ | ⟨x, hx, rfl⟩ | ⟨x, hx, rfl⟩ <;> rfl

theorem desiredWith_eq (config : NetworkConfig) (live : List LiveInterface) (ctx : MacContext) :
    desiredWith config live ctx = (presentLinks config live).map (linkProfile (toLayered config) ctx) := by
  unfold desiredWith retainLivePhysicalProfiles toNmProfilesWithMacs presentLinks
  rw [filter_map]
  congr 1
  refine filter_congr fun link hl => ?_
  obtain ⟨ipv4, ipv6, plain⟩ := plainProfile_eq (toLayered config) ctx link
  simp only [Function.comp_apply, linkProfile_eq (toLayered_mac hl), plain, profileForLink, connTypeOf]
  cases link.kind with
  | physical => by_cases ib : link.name ∈ ctx.infinibandIfaces <;> simp [ib]
  | bond _ _ _ | bridge _ _ _ _ | vlan _ _ | macvlan _ _ => simp

theorem desiredProfiles_link (ok : validate (toLayered config) = .ok ())
    {ctx : MacContext} (present : link ∈ presentLinks config live) :
    desiredProfiles (desiredWith config live ctx) (connectionId link.name) =
      some (toSettingsDict (linkProfile (toLayered config) ctx link)) := by
  rw [← linkProfile_id (toLayered config) ctx link]
  refine collect_of_mem ?_ (mem_map.mpr ⟨_, ?_, rfl⟩)
  · simpa [Function.comp_def] using (desired_renderable ok).unique
  · rw [desiredWith_eq]
    exact mem_map_of_mem present

theorem desired_ids (config : NetworkConfig) (live : List LiveInterface) (ctx : MacContext) :
    (desiredWith config live ctx).map (·.id) = (presentLinks config live).map fun link => connectionId link.name := by
  simp only [desiredWith_eq, map_map, Function.comp_def, linkProfile_id]

theorem computeDiff_contexts {config : NetworkConfig} (ok : validate (toLayered config) = .ok ())
    {live : List LiveInterface}
    (ib : ctx.infinibandIfaces = ctx'.infinibandIfaces) {nm : Nm}
    (store : profiles nm = desiredProfiles (desiredWith config live ctx))
    (owned : ∀ e ∈ nasty nm, e.id ∈ (desiredWith config live ctx).map (·.id)) :
    (computeDiff (desiredWith config live ctx') (nasty nm)).Empty ↔
      ∀ link ∈ presentLinks config live, adoptedBytes link.kind ctx = adoptedBytes link.kind ctx' := by
  rw [desired_ids] at owned
  rw [computeDiff_empty, desired_ids, and_iff_left owned, desiredWith_eq]
  simp only [forall_mem_map]
  refine forall₂_congr fun link present => ?_
  have mac := toLayered_mac (mem_of_mem_filter present)
  rw [linkProfile_id, ← @linkProfile_dict_iff ctx ctx' (toLayered config) link mac ib]
  have inForce := (congrFun store _).trans (desiredProfiles_link ok present)
  exact (Eq.congr_left inForce).trans Option.some_inj

theorem desiredProfiles_contexts {config : NetworkConfig}
    (ok : validate (toLayered config) = .ok ()) {live : List LiveInterface}
    (ib : ctx.infinibandIfaces = ctx'.infinibandIfaces) :
    desiredProfiles (desiredWith config live ctx) = desiredProfiles (desiredWith config live ctx') ↔
      ∀ link ∈ presentLinks config live, adoptedBytes link.kind ctx = adoptedBytes link.kind ctx' := by
  have dicts : ∀ link ∈ presentLinks config live, (toSettingsDict (linkProfile (toLayered config) ctx link) =
        toSettingsDict (linkProfile (toLayered config) ctx' link) ↔
          adoptedBytes link.kind ctx = adoptedBytes link.kind ctx') := fun link present =>
    linkProfile_dict_iff (toLayered_mac (mem_of_mem_filter present)) ib
  constructor
  · intro eq link present
    have here := congrFun eq (connectionId link.name)
    rw [desiredProfiles_link ok present, desiredProfiles_link ok present] at here
    exact (dicts link present).mp (Option.some.inj here)
  · intro agree
    unfold desiredProfiles
    simp only [desiredWith_eq, map_map]
    congr 1
    refine map_congr_left fun link present => ?_
    simp only [Function.comp_apply, linkProfile_id, (dicts link present).mpr (agree link present)]

theorem forall_adoptedBytes_iff :
    (∀ link ∈ presentLinks config live, adoptedBytes link.kind ctx = adoptedBytes link.kind ctx') ↔
      ∀ link ∈ (toLayered config).links, inheritsMemberMac link.kind = true →
        ((pickPrimaryMember link.kind ctx.mgmtIface).bind ctx.liveMacs).bind macToBytes =
          ((pickPrimaryMember link.kind ctx'.mgmtIface).bind ctx'.liveMacs).bind macToBytes := by
  have adopted : ∀ kind, adoptedBytes kind ctx = adoptedBytes kind ctx' ↔
      (inheritsMemberMac kind = true → ((pickPrimaryMember kind ctx.mgmtIface).bind ctx.liveMacs).bind macToBytes =
          ((pickPrimaryMember kind ctx'.mgmtIface).bind ctx'.liveMacs).bind macToBytes) := by
    intro kind
    unfold adoptedBytes inheritedMac
    cases inheritsMemberMac kind <;> simp
  simp only [adopted]
  constructor
  · intro agree link hl inherits
    refine agree link (mem_filter.mpr ⟨hl, ?_⟩) inherits
    cases kind : link.kind with
    | physical => rw [kind] at inherits; cases inherits
    | bond _ _ _ | bridge _ _ _ _ | vlan _ _ | macvlan _ _ => simp
  · exact fun agree link hl => agree link (mem_of_mem_filter hl)

theorem nmPreview_run (quiet : w.Quiet) : run nmPreview w = (.ok (computeDiff
      (desiredWith w.loadConfig w.live (previewContext w.live)) (nasty w.nm)), w) := by
  obtain ⟨-, _, _, linked, -, rfl⟩ := ensures_onNm (K := fun _ => True) (p := connect) (w := w) trivial
    (run_dbusCall quiet.nm)
  obtain ⟨-, _, _, listed, rfl, rfl⟩ := ensures_onNm (K := fun _ => True) (w := w) trivial
    (listNastyConnections_run quiet.nm)
  unfold nmPreview
  rw [run_bind_ok run_read, run_bind_ok linked, run_bind_ok listed]
  rfl

theorem reconcileOrphans_run (quiet : w.Quiet) (ok : validate (toLayered w.loadConfig) = .ok ()) :
    ∃ out t, run reconcileOrphans w = (.ok (some out), t) ∧ t = { w with files := t.files, nm := t.nm } ∧
      t.core = w.core ∧ Applied (desiredWith w.loadConfig w.live (previewContext w.live)) w.nm t.nm out := by
  obtain ⟨-, _, _, linked, rfl, rfl⟩ := Ensures.succeeds (δ := String) (.mono
    (ensures_onNm (K := fun _ => True) (p := connect) (w := w) trivial (run_dbusCall quiet.nm))
    fun _ _ post => post.2)
  obtain ⟨-, _, t, synced, aside⟩ := ensures_syncIbUnmanagedConf (K := fun _ => True) (w := w) quiet
    trivial w.live w.loadConfig
  have nm : t.nm = w.nm := by
    rw [aside.shape]
  obtain ⟨out, after, applied, result⟩ := applyProfiles_run (desired_renderable ok) quiet.nm
  rw [← nm] at applied
  obtain ⟨-, res, u, ran, eq, rfl⟩ := ensures_onNm (K := fun _ => True) (w := t) trivial applied
  subst eq
  refine ⟨res, { t with nm := after }, ?_, ?_, aside.core, result⟩
  · unfold reconcileOrphans
    rw [run_bind_ok run_read, run_bind_ok linked]
    simp only [if_true]
    rw [run_bind_ok synced, run_bind_ok (by rw [run_attempt, ran])]
    rfl
  · conv_lhs => rw [aside.shape]

/-- Reconciling adds, updates and deletes nothing, and the preview announces nothing. -/
def World.Converged (w : World) : Prop :=
  (∃ out t, run reconcileOrphans w = (.ok (some out), t) ∧ out.added = [] ∧ out.updated = [] ∧ out.deleted = []) ∧
  ∃ diff t, run nmPreview w = (.ok diff, t) ∧ diff.toAdd = [] ∧ diff.toUpdate = [] ∧ diff.toDelete = []

theorem converged_iff (quiet : w.Quiet) (ok : validate (toLayered w.loadConfig) = .ok ()) :
    w.Converged ↔ (computeDiff (desiredWith w.loadConfig w.live (previewContext w.live)) (nasty w.nm)).Empty := by
  obtain ⟨out, t, ran, -, -, applied⟩ := reconcileOrphans_run quiet ok
  have announced := applied.announced
  constructor
  · rintro ⟨-, diff, u, previewed, added, updated, deleted⟩
    rw [nmPreview_run quiet] at previewed
    cases previewed
    exact ⟨added, updated, deleted⟩
  · intro empty
    refine ⟨⟨out, t, ran, ?_, ?_, ?_⟩, _, w, nmPreview_run quiet, empty.toAdd, empty.toUpdate, empty.toDelete⟩
    · rw [announced.added, empty.toAdd]
    · rw [announced.updated, empty.toUpdate]
      rfl
    · rw [announced.deleted, empty.toDelete]

/-- The condition under which the contexts agree: no master that inherits a member's MAC has a
primary member with a usable live MAC. -/
def NoMacToAdopt (config : NetworkConfig) (live : List LiveInterface) (mgmtIface : Option String) : Prop :=
  ∀ link ∈ (toLayered config).links, inheritsMemberMac link.kind = true →
    ((pickPrimaryMember link.kind mgmtIface).bind (liveBy (·.mac) live)).bind macToBytes = none

instance (config : NetworkConfig) (live : List LiveInterface) (mgmtIface : Option String) :
    Decidable (NoMacToAdopt config live mgmtIface) := by
  unfold NoMacToAdopt
  infer_instance

theorem appliedTo_converged_iff {t : World} {mgmtIface : Option String}
    {out : NmApplyOutcome} (ok : validate (toLayered config) = .ok ())
    (persisted : w.files .networking = some (.config config)) (quiet : w.Quiet)
    (applied : w.AppliedTo config mgmtIface t out) :
    t.Converged ↔ NoMacToAdopt config w.live mgmtIface := by
  have live : t.live = w.live := by
    rw [applied.shape]
  have networking : t.files .networking = some (.config config) :=
    (congrArg Core.networking applied.core).trans persisted
  have loaded : t.loadConfig = config := by
    simp [World.loadConfig, networking, Contents.toConfig]
  have contexts := @computeDiff_contexts (applyContext w.live mgmtIface) (previewContext w.live)
    config ok w.live rfl t.nm applied.applied.store applied.applied.owned
  rw [converged_iff (applied.quiet quiet) (by rw [loaded]; exact ok), loaded, live, contexts, forall_adoptedBytes_iff]
  -- without live MACs nothing is adopted
  have nothing : ∀ member : Option String, (member.bind (previewContext w.live).liveMacs).bind macToBytes = none := by
    rintro (_ | _) <;> rfl
  simp only [nothing]
  rfl

/-- After a successful apply of the persisted config, reconcile and preview find nothing to do
exactly when there was no MAC to adopt: they render without the MACs the apply used. -/
theorem apply_converged_iff (w : World) (config : NetworkConfig) (mgmtIface : Option String)
    (accepted : validate (toLayered config) = .ok ())
    (persisted : w.files .networking = some (.config config)) (quiet : w.Quiet) :
    ∃ out t, run (applyConfig config mgmtIface) w = (.ok out, t) ∧
      (t.Converged ↔ NoMacToAdopt config w.live mgmtIface) := by
  obtain ⟨-, out, t, ran, applied⟩ := ensures_applyConfig (K := fun _ => True) quiet accepted mgmtIface
    trivial
  exact ⟨out, t, ran, appliedTo_converged_iff accepted persisted quiet applied⟩

def onePort (config : NetworkConfig) : World :=
  { files := fun path => if path = .networking then some (.config config) else none
    live := [{ name := "eth0", mac := "52:54:00:12:34:56" }] }

def plainPort : NetworkConfig := { interfaces := [{ name := "eth0", ipv4 := { method := .dhcp } }] }

def bridgedPort : NetworkConfig :=
  { interfaces := [{ name := "eth0" }]
    bridges := [{ name := "br0", members := ["eth0"], ipv4 := { method := .dhcp }, ipv6 := {} }] }

theorem apply_converged_plainPort :
    ∃ out t, run (applyConfig plainPort none) (onePort plainPort) = (.ok out, t) ∧ t.Converged := by
  obtain ⟨out, t, ran, converged⟩ := apply_converged_iff (onePort plainPort) plainPort none (by decide) rfl ⟨rfl, rfl⟩
  exact ⟨out, t, ran, converged.mpr (by decide)⟩

/-- A bridge over the live port inherits its MAC; right after the apply, reconcile and preview want
to take it away again. -/
theorem apply_not_converged_bridgedPort : validate (toLayered bridgedPort) = .ok () ∧
      ∃ out t, run (applyConfig bridgedPort none) (onePort bridgedPort) = (.ok out, t) ∧ ¬ t.Converged := by
  have accepted : validate (toLayered bridgedPort) = .ok () := by decide
  have quiet : (onePort bridgedPort).Quiet := ⟨rfl, rfl⟩
  obtain ⟨-, out, t, ran, applied⟩ := ensures_applyConfig (K := fun _ => True) quiet accepted none trivial
  refine ⟨accepted, out, t, ran, ?_⟩
  rw [appliedTo_converged_iff accepted rfl quiet applied]
  decide

end NastyEngine.Network
