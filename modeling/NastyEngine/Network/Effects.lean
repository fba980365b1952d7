import NastyEngine.Lib.Crash
import NastyEngine.Network.Service
import NastyEngine.Network.Store

/-!
What persisting and applying do to the two protocol files and the transaction table when file
operations and D-Bus calls succeed, and which combinations a crash can leave.
-/

namespace NastyEngine.Network
open Lib Fallible

@[ext] structure Core where
  networking : Option Contents
  pendingRevert : Option Contents
  transactions : List (String × PendingTxn)
  timers : List String

def World.core (w : World) : Core :=
  { networking := w.files .networking, pendingRevert := w.files .pendingRevert
    transactions := w.transactions, timers := w.timers }

structure World.Quiet (w : World) : Prop where
  files : w.faults = []
  nm : w.nm.faults = []

def World.written (w : World) (path : Path) (contents : Contents) : World :=
  { w with files := Function.update (Function.update w.files path (some contents)) (.tmp path) none }

section
variable (w : World)

@[simp] theorem core_put_tmp (path : Path) (contents : Option Contents) : (w.put (.tmp path) contents).core = w.core := by
  simp [World.core, World.put]

@[simp] theorem core_put_history (secs : Nat) (contents : Option Contents) :
    (w.put (.history secs) contents).core = w.core := by
  simp [World.core, World.put]

@[simp] theorem core_put_ibUnmanaged (contents : Option Contents) : (w.put .ibUnmanaged contents).core = w.core := by
  simp [World.core, World.put]

@[simp] theorem core_put_pendingRevert (contents : Option Contents) :
    (w.put .pendingRevert contents).core = { w.core with pendingRevert := contents } := by
  simp [World.core, World.put]

variable (contents : Contents)

@[simp] theorem core_written_networking :
    (w.written .networking contents).core = { w.core with networking := some contents } := by
  simp [World.core, World.written]

@[simp] theorem core_written_pendingRevert :
    (w.written .pendingRevert contents).core = { w.core with pendingRevert := some contents } := by
  simp [World.core, World.written]

@[simp] theorem core_written_layered : (w.written .layered contents).core = w.core := by
  simp [World.core, World.written]

@[simp] theorem core_written_ibUnmanaged : (w.written .ibUnmanaged contents).core = w.core := by
  simp [World.core, World.written]

end

variable {K : Core → Prop}

variable {w : World} {config : NetworkConfig}

theorem ensures_fileOp {f : World → World} (quiet : w.faults = []) (before : K w.core) (after : K (f w).core) :
    Ensures (fun v => K v.core) (fileOp f) (fun _ t => t = f w) w := by
  have ran : run (fileOp f) w = (.ok (), f w) := by simp [fileOp, quiet]
  refine ⟨(Proc.along_act).mpr ⟨before, ?_⟩, (), f w, ran, rfl⟩
  simpa [quiet] using after

theorem ensures_atomicWrite (quiet : w.faults = []) (path : Path) (contents : Contents)
    (before : K w.core) (after : K (w.written path contents).core) :
    Ensures (fun v => K v.core) (atomicWrite path contents) (fun _ t => t = w.written path contents) w := by
  have published : ((w.put (.tmp path) (some .torn)).put (.tmp path) (some contents)).publish path =
      w.written path contents := by
    have ne : path ≠ .tmp path := fun loop => by
      have := congrArg sizeOf loop
      simp at this
    unfold World.publish World.put World.written
    congr 1
    funext q
    by_cases tmp : q = .tmp path
    · simp [tmp]
    · by_cases own : q = path
      · simp [own, ne]
      · simp [tmp, own]
  refine .bind (ensures_fileOp quiet before before) fun _ t ht => ?_
  subst ht
  refine .bind (ensures_fileOp quiet before (by simpa using before)) fun _ t ht => ?_
  subst ht
  refine .bind (ensures_fileOp quiet (by simpa using before) (by simpa using before)) fun _ t ht => ?_
  subst ht
  refine .bind (ensures_fileOp quiet (by simpa using before) (by simpa using before)) fun _ t ht => ?_
  subst ht
  refine .mono (ensures_fileOp quiet (by simpa using before) ?_) ?_
  · simpa [published] using after
  · rintro _ t rfl
    exact published

structure World.Beside (w t : World) : Prop where
  shape : t = { w with files := t.files }
  core : t.core = w.core

theorem ensures_keepHistory (quiet : w.Quiet) (inv : K w.core) :
    Ensures (fun v => K v.core) keepHistory (fun _ t => w.Beside t) w := by
  refine ensures_read_bind inv ?_
  cases w.files .networking with
  | none => exact .pure inv ⟨rfl, rfl⟩
  | some contents =>
    refine .bind (ensures_fileOp quiet.files inv inv) fun _ t ht => ?_
    subst ht
    refine ensures_read_bind inv ?_
    refine .bind (ensures_fileOp quiet.files inv (by simpa using inv)) fun _ v hv => ?_
    subst hv
    refine .mono (ensures_fileOp quiet.files (by simpa using inv) (by simpa using inv)) ?_
    rintro _ _ rfl
    exact ⟨rfl, by simp⟩

theorem ensures_persistConfig (quiet : w.Quiet) (ok : validate (toLayered config) = .ok ()) (before : K w.core)
    (after : K { w.core with networking := some (.config config) }) :
    Ensures (fun v => K v.core) (persistConfig config) (fun _ t => t = { w with files := t.files } ∧
      t.core = { w.core with networking := some (.config config) }) w := by
  refine .bind (.ofOk (a := ()) (Q := fun _ t => t = w) ?_ before rfl) fun _ t ht => ?_
  · rw [checkLayered, ok]
    rfl
  subst ht
  refine .bind (.ignoreError (ensures_keepHistory quiet before)) fun _ u aside => ?_
  have quietU : u.Quiet := by
    rw [aside.shape]
    exact ⟨quiet.files, quiet.nm⟩
  have core : (u.written .networking (.config config)).core =
      { t.core with networking := some (.config config) } := by
    rw [core_written_networking, aside.core]
  refine .bind (.mapError (ensures_atomicWrite quietU.files .networking (.config config)
    (by rw [aside.core]; exact before) (by rw [core]; exact after))) fun _ v hv => ?_
  subst hv
  have copy := ensures_atomicWrite (K := K) (w := u.written .networking (.config config))
    quietU.files .layered (.layered (toLayered config)) (by rw [core]; exact after)
    (by rw [core_written_layered, core]; exact after)
  refine .mono (.ignoreError copy) ?_
  rintro _ _ rfl
  refine ⟨?_, by rw [core_written_layered, core]⟩
  conv_lhs => rw [aside.shape]
  rfl

section
variable (layered : LayeredConfig) (ctx : MacContext) (link : Link)

theorem plainProfile_eq : ∃ ipv4 ipv6, plainProfile layered ctx link =
      { profileForLink link (addrsByLink layered) (masterOf layered.links) ctx with ipv4, ipv6 } := by
  unfold plainProfile NmConnection.withDns
  dsimp only
  split <;> cases familyRoutesByDev layered link.name <;> exact ⟨_, _, rfl⟩

theorem linkProfile_id : (linkProfile layered ctx link).id = connectionId link.name := by
  obtain ⟨ipv4, ipv6, plain⟩ := plainProfile_eq layered ctx link
  unfold linkProfile
  cases inheritedMac link.kind ctx <;> simp only [plain] <;> rfl

end

theorem desired_renderable (ok : validate (toLayered config) = .ok ())
    {live : List LiveInterface} {ctx : MacContext} : Renderable (desiredWith config live ctx) := by
  have ids : (toNmProfilesWithMacs (toLayered config) ctx).map (·.id) =
      ((toLayered config).links.map (·.name)).map connectionId := by
    simp [toNmProfilesWithMacs, Function.comp_def, linkProfile_id]
  have injective : Function.Injective connectionId := by
    intro a b eq
    simpa [connectionId, String.ext_iff] using eq
  constructor
  · refine List.Nodup.sublist (List.filter_sublist.map _) ?_
    rw [ids]
    exact (validate_wellFormed ok).names.map injective
  · intro d hd
    obtain ⟨link, -, rfl⟩ := List.mem_map.mp (List.mem_of_mem_filter hd)
    rw [linkProfile_id]
    simp [Rust.startsWith, connectionId, String.toList_append]

theorem ensures_onNm {α : Type} {p : Fallible String Nm α} {a : α} {nm : Nm}
    (inv : K w.core) (ran : run p w.nm = (.ok a, nm)) :
    Ensures (fun v => K v.core) (onNm p) (fun b t => b = a ∧ t = { w with nm }) w := by
  refine .zoom (J := fun v => K v.core) ⟨?_, ?_, ?_⟩ ?_ inv ran ?_
  · exact fun _ _ => rfl
  · exact fun _ _ _ => rfl
  · exact fun _ => rfl
  · exact fun _ _ h => h
  · exact ⟨rfl, rfl⟩

theorem ensures_writeIbUnmanagedConf (quiet : w.Quiet) (inv : K w.core) (content : Option String) :
    Ensures (fun v => K v.core) (writeIbUnmanagedConf content) (fun _ t => w.Beside t) w := by
  refine ensures_read_bind inv ?_
  cases content with
  | some content =>
    simp only
    split
    · exact .pure inv ⟨rfl, rfl⟩
    · have wrote := ensures_atomicWrite (K := K) quiet.files .ibUnmanaged (.text content) inv
        (by rw [core_written_ibUnmanaged]; exact inv)
      refine .mono (.succeeds wrote) ?_
      rintro _ _ ⟨-, rfl⟩
      exact ⟨rfl, core_written_ibUnmanaged _ _⟩
  | none =>
    simp only
    split
    · exact .pure inv ⟨rfl, rfl⟩
    · have removed := ensures_fileOp (K := K) (f := fun w => w.put .ibUnmanaged none) quiet.files inv (by simpa using inv)
      refine .mono (.succeeds removed) ?_
      rintro _ _ ⟨-, rfl⟩
      exact ⟨rfl, core_put_ibUnmanaged _ _⟩

theorem ensures_syncIbUnmanagedConf (quiet : w.Quiet) (inv : K w.core)
    (live : List LiveInterface) (config : NetworkConfig) :
    Ensures (fun v => K v.core) (syncIbUnmanagedConf live config) (fun _ t => w.Beside t) w := by
  refine .bind (ensures_writeIbUnmanagedConf quiet inv _) fun changed t aside => ?_
  have insideT : K t.core := aside.core ▸ inv
  split
  · have nm : t.nm.faults = [] := by
      rw [aside.shape]
      exact quiet.nm
    refine .mono (.ignoreError (.mono (ensures_onNm insideT (run_dbusCall nm)) fun _ _ post => post.2)) ?_
    rintro _ _ rfl
    exact aside
  · exact .pure insideT aside

structure World.AppliedTo (config : NetworkConfig) (mgmtIface : Option String) (w t : World)
    (out : NmApplyOutcome) : Prop where
  shape : t = { w with files := t.files, nm := t.nm }
  core : t.core = w.core
  applied : Applied (desiredWith config w.live (applyContext w.live mgmtIface)) w.nm t.nm out

theorem ensures_applyConfig (quiet : w.Quiet) (ok : validate (toLayered config) = .ok ()) (mgmtIface : Option String)
    (inv : K w.core) :
    Ensures (fun v => K v.core) (applyConfig config mgmtIface) (fun out t => w.AppliedTo config mgmtIface t out) w := by
  refine ensures_read_bind inv ?_
  refine .bind (.mapError (ensures_onNm inv (run_dbusCall quiet.nm))) ?_
  rintro _ _ ⟨-, rfl⟩
  refine .bind (ensures_syncIbUnmanagedConf quiet inv _ _) fun _ u aside => ?_
  have nm : u.nm = w.nm := by
    rw [aside.shape]
  obtain ⟨out, after, ran, applied⟩ := applyProfiles_run (desired_renderable ok) quiet.nm
  rw [← nm] at ran
  refine .mono (ensures_onNm (aside.core ▸ inv) ran) ?_
  rintro _ _ ⟨rfl, rfl⟩
  refine ⟨?_, aside.core, applied⟩
  conv_lhs => rw [aside.shape]

theorem World.AppliedTo.quiet {mgmtIface : Option String} {t : World}
    {out : NmApplyOutcome} (h : w.AppliedTo config mgmtIface t out) (before : w.Quiet) : t.Quiet := by
  refine ⟨?_, h.applied.quiet⟩
  rw [h.shape]
  exact before.files

/-- After the settle pause the config is applied again, to the interfaces that exist then. -/
structure World.SettledTo (config : NetworkConfig) (mgmtIface : Option String) (w t : World) : Prop where
  shape : t = { w with files := t.files, nm := t.nm, live := t.live }
  core : t.core = w.core
  quiet : t.Quiet
  live : t.live = w.live ∨ t.live = w.settled
  store : profiles t.nm = desiredProfiles (desiredWith config t.live (applyContext t.live mgmtIface))
  unique : ((nasty w.nm).map (·.id)).Nodup → ((nasty t.nm).map (·.id)).Nodup

theorem ensures_applyWithVfSettle (quiet : w.Quiet) (ok : validate (toLayered config) = .ok ())
    {mgmtIface : Option String}
    {liveNames : List String} (inv : K w.core) :
    Ensures (fun v => K v.core) (applyWithVfSettle config mgmtIface liveNames)
      (fun _ t => w.SettledTo config mgmtIface t) w := by
  refine .bind (ensures_applyConfig quiet ok mgmtIface inv) fun out t first => ?_
  have insideT : K t.core := first.core ▸ inv
  have live : t.live = w.live := by
    rw [first.shape]
  dsimp only
  split
  · refine .bind (.modify insideT insideT (Q := fun _ u => u = { t with live := t.settled })
      rfl) fun _ u hu => ?_
    subst hu
    refine .mono (ensures_applyConfig (w := { t with live := t.settled })
      ⟨(first.quiet quiet).files, (first.quiet quiet).nm⟩ ok mgmtIface insideT) ?_
    intro again u second
    have settled : u.live = w.settled := by
      rw [second.shape, first.shape]
    refine ⟨?_, second.core.trans first.core, ?_, .inr settled, ?_, ?_⟩
    · conv_lhs => rw [second.shape, first.shape]
      rw [settled]
    · exact second.quiet ⟨(first.quiet quiet).files, (first.quiet quiet).nm⟩
    · have pause : t.settled = w.settled := by
        rw [first.shape]
      rw [settled, second.applied.store, ← pause]
    · exact fun unique => second.applied.unique (first.applied.unique unique)
  · refine .pure insideT ⟨?_, first.core, first.quiet quiet, .inl live, ?_,
      first.applied.unique⟩
    · conv_lhs => rw [first.shape]
      rw [live]
    · rw [live]
      exact first.applied.store

end NastyEngine.Network
