import Mathlib.Data.List.Nodup
import NastyEngine.Lib.Faults
import NastyEngine.Lib.Run

/-!
A simple app is its container, a compose app is its project directory; both keep a manifest and a route
under their name. An `Act` is a program whose commands all act on one app.
-/

namespace NastyEngine.Apps
open Lib Fallible List

inductive AppKind
  | simple
  | compose
deriving DecidableEq

@[ext, grind ext] structure App where
  kind : AppKind
  name : String
deriving DecidableEq

structure Container where
  name : String
  app : App
  running : Bool
deriving DecidableEq

inductive Place
  | projectDir
  | composeFile
  | manifest
  | route
deriving DecidableEq

structure Host where
  containers : List Container := []
  entries : List (Place × String) := []

inductive AppsError
  | appNotFound (name : String)
  | appAlreadyExists (name : String)
  | dockerFailed (reason : String)
  | commandFailed (reason : String)
  | invalidName (reason : String)

def containerName (appName : String) : String := "nasty-" ++ appName

def validateName (limit : Nat) (first other : Char → Bool) (size grammar : String) (name : String) :
    Except AppsError Unit := do
  require (name ≠ "" ∧ name.utf8ByteSize ≤ limit) (.invalidName size)
  require (name.toList.head?.any first ∧ name.toList.tail.all other) (.invalidName grammar)

def validateAppName : String → Except AppsError Unit :=
  validateName 250 Char.isAlphanum (fun c => c.isAlphanum || c ∈ ['_', '-', '.']) "name must be 1-250 bytes"
    ("existing app names must be a single component of [A-Za-z0-9._-] " ++ "starting with a letter or number")

def validateNewAppName : String → Except AppsError Unit :=
  validateName 63 (fun c => c.isLower || c.isDigit) (fun c => c.isLower || c.isDigit || c ∈ ['_', '-'])
    "name must be 1-63 bytes" "new app names must match [a-z0-9][a-z0-9_-]\x7b0,62\x7d"

namespace Host

def has (h : Host) (app : App) : Bool :=
  match app.kind with
  | .simple => h.containers.any (·.app = app)
  | .compose => h.entries.contains (.composeFile, app.name)

def view (h : Host) (app : App) : List Container × List (Place × String) :=
  (h.containers.filter (·.app = app), h.entries.filter (·.2 = app.name))

def containerExists (h : Host) (name : String) : Bool := h.containers.any (·.name = name)

def free (h : Host) (c : Container) : Bool := h.containers.all fun d => d.name ≠ c.name || d.app = c.app

end Host

/-- The containers that a command to the app reaches: a simple app's by its name, a compose app's by
its project. -/
def App.reaches (app : App) (c : Container) : Bool :=
  match app.kind with
  | .simple => c.name = containerName app.name
  | .compose => c.app = app

inductive Change (app : App)
  | idle
  | put (name : String) (running : Bool) (named : app.kind = .simple → name = containerName app.name)
  | drop (which : String → Bool)
  | run (running : Bool)
  | add (place : Place) (own : place = .composeFile → app.kind = .compose)
  | erase (place : Place)

/-- Docker makes a container, or makes it again, but refuses a name that is taken. -/
def Change.apply {app : App} (c : Change app) (h : Host) : Host :=
  match c with
  | idle => h
  | put name running _ =>
    if h.free ⟨name, app, running⟩ then
      { h with containers := h.containers.filter (·.name ≠ name) ++ [⟨name, app, running⟩] }
    else h
  | drop which => { h with containers := h.containers.filter fun c => !(app.reaches c && which c.name) }
  | run running => { h with containers := h.containers.map fun c => if app.reaches c then { c with running } else c }
  | add place _ => { h with entries := (place, app.name) :: h.entries }
  | erase place => { h with entries := h.entries.filter (· ≠ (place, app.name)) }

abbrev Op (α : Type) := Fallible AppsError (Faulty Host) α

structure Act (app : App) (α : Type) where
  prog : Op α
  within : ∀ J : Host → Prop, (∀ (c : Change app) h, J h → J (c.apply h)) → Preserves J prog

namespace Act
variable {app : App} {α : Type}

instance : Monad (Act app) where
  pure a := ⟨pure a, fun _ _ => .pure⟩
  bind p f := ⟨p.prog >>= fun a => (f a).prog, fun J stable =>
    .bind (p.within J stable) fun a => (f a).within J stable⟩

def check (r : Except AppsError α) : Act app α := ⟨Fallible.ofExcept r, fun _ _ => .ofExcept r⟩

def look (f : Host → α) : Act app α := ⟨observe f, fun _ _ => .observe f⟩

def give (wrap : String → AppsError) (c : Change app) : Act app Unit :=
  ⟨mapError wrap (external c.apply), fun _ stable => .mapError (.external (stable c))⟩

def command : Change app → Act app Unit := give .commandFailed

def docker : Change app → Act app Unit := give .dockerFailed

def attempt (p : Act app α) : Act app (Except AppsError α) :=
  ⟨Fallible.attempt p.prog, fun J stable => .attempt (p.within J stable)⟩

def ignore (p : Act app Unit) : Act app Unit := do let _ ← p.attempt

def onError (p cleanup : Act app Unit) : Act app Unit := do
  if let .error e ← p.attempt then
    cleanup.ignore
    check (.error e)

end Act

section
open Act

def saveManifest {app : App} : Act app Unit := command (.add .manifest nofun)

def ingressSet (app : App) : Act app Unit := do
  check (validateAppName app.name)
  command (.add .route nofun)
  -- the subdomain, then the port
  saveManifest.ignore
  saveManifest.ignore

def ingressRemove (app : App) : Act app Unit := do
  check (validateAppName app.name)
  command .idle
  check (require (← look (·.entries.contains (.route, app.name))) (.appNotFound app.name))
  command (.erase .route)
  saveManifest.ignore
  saveManifest.ignore

structure InstallAppRequest where
  name : String
  /-- It has a TCP port for ingress. -/
  tcpPort : Bool := true
  -- what the container does once it runs
  crashes : Bool := false
  incompatible : Bool := false

section
variable (req : InstallAppRequest)

def InstallAppRequest.app : App := ⟨.simple, req.name⟩

def installInner (requireNewName : Bool) : Act req.app Unit := do
  check (if requireNewName then validateNewAppName req.name else validateAppName req.name)
  check (require (¬ (← look (·.containerExists (containerName req.name)))) (.appAlreadyExists req.name))
  -- the network, the mounts, the image and the ports
  docker .idle
  docker (.put (containerName req.name) false fun _ => rfl)
  docker (.run true)
  if req.crashes then
    (docker (.drop fun _ => true)).ignore
    check (.error (.dockerFailed "container exited shortly after start"))
  saveManifest.ignore
  if req.tcpPort then
    if let .ok _ ← (ingressSet req.app).attempt then
      if req.incompatible then
        (ingressRemove req.app).ignore
        saveManifest.ignore

def install : Act req.app Unit := installInner req true

def update : Act req.app Unit := do
  check (validateAppName req.name)
  check (require (← look (·.containerExists (containerName req.name))) (.appNotFound req.name))
  (docker (.run false)).ignore
  (docker (.drop fun _ => true)).ignore
  installInner req false

def deploySimple : Act req.app Unit := do
  check (validateAppName req.name)
  check (validateNewAppName req.name)
  -- the image
  docker .idle
  install req
  -- the firewall
  command .idle

end

structure InstallComposeRequest where
  name : String
  containers : List String
  tcpPort : Bool := true

def InstallComposeRequest.app (req : InstallComposeRequest) : App := ⟨.compose, req.name⟩

def composeUp (req : InstallComposeRequest) (removeOrphans : Bool) : Act req.app Unit := do
  docker (.drop fun name => removeOrphans && name ∉ req.containers)
  req.containers.forM fun name => do
    check (require (← look (·.free ⟨name, req.app, true⟩)) (.dockerFailed "the container name is already in use"))
    docker (.put name true nofun)

def composeDown {app : App} : Act app Unit := do
  (← look (·.containers)).forM fun c => docker (.drop (· = c.name))

def removeDirAll {app : App} : Act app Unit := do
  command (.erase .composeFile)
  command (.erase .projectDir)

section
variable (req : InstallComposeRequest)

def refreshComposeIngressAfterDeploy (isUpdate : Bool) : Act req.app Unit := do
  if isUpdate then command .idle else saveManifest
  if req.tcpPort then ingressSet req.app else command (.erase .route)

def composeInstall : Act req.app Unit := do
  check (validateNewAppName req.name)
  check (require (¬ (← look (·.entries.contains (.projectDir, req.name)))) (.appAlreadyExists req.name))
  command (.add .projectDir nofun)
  command (.add .composeFile fun _ => rfl)
  command .idle
  onError (docker .idle) removeDirAll
  onError (composeUp req false) do
    composeDown.ignore
    removeDirAll
  (refreshComposeIngressAfterDeploy req false).ignore

def composeUpdate : Act req.app Unit := do
  check (validateAppName req.name)
  check (require (← look (·.has req.app)) (.appNotFound req.name))
  command (.add .composeFile fun _ => rfl)
  command .idle
  composeUp req true
  (refreshComposeIngressAfterDeploy req true).ignore

/-- Over the socket one request installs or updates. -/
def deployCompose : Act req.app Unit := do
  check (validateAppName req.name)
  let isUpdate ← look (·.has req.app)
  let dirExists ← look (·.entries.contains (.projectDir, req.name))
  check (require (dirExists → isUpdate) (.commandFailed "app state directory already exists without a compose file"))
  unless isUpdate do check (validateNewAppName req.name)
  command (.add .projectDir nofun)
  command (.add .composeFile fun _ => rfl)
  -- the meta file, then the environment
  command .idle
  (command .idle).ignore
  -- the check of the file, then the images
  onError (docker .idle) (unless isUpdate do removeDirAll)
  onError (docker .idle) (unless isUpdate do removeDirAll)
  onError (composeUp req isUpdate) do
    composeDown.ignore
    unless isUpdate do removeDirAll
  (refreshComposeIngressAfterDeploy req isUpdate).ignore
  -- the firewall
  command .idle

end

/-- A request that names an app looks for a compose app first. -/
def onApp (name : String) (act : (app : App) → Act app Unit) : Op Unit := do
  Fallible.ofExcept (validateAppName name)
  if ← observe (·.has ⟨.compose, name⟩) then (act ⟨.compose, name⟩).prog
  else
    Fallible.ofExcept (require (← observe (·.containerExists (containerName name))) (.appNotFound name))
    (act ⟨.simple, name⟩).prog

def removeApp (app : App) : Act app Unit :=
  match app.kind with
  | .compose => do
    composeDown
    removeDirAll.ignore
    (command (.erase .manifest)).ignore
    (ingressRemove app).ignore
  | .simple => do
    docker (.drop fun _ => true)
    (ingressRemove app).ignore
    (command (.erase .manifest)).ignore

def remove (name : String) : Op Unit := onApp name removeApp

def stop (name : String) : Op Unit := onApp name fun _ => docker (.run false)

def start (name : String) : Op Unit := onApp name fun _ => docker (.run true)

end

inductive Request
  | install (req : InstallAppRequest)
  | update (req : InstallAppRequest)
  | composeInstall (req : InstallComposeRequest)
  | composeUpdate (req : InstallComposeRequest)
  | deploySimple (req : InstallAppRequest)
  | deployCompose (req : InstallComposeRequest)
  | remove (name : String)
  | stop (name : String)
  | start (name : String)
  | ingressSet (name : String)
  | ingressRemove (name : String)

namespace Request

def target (h : Host) : Request → App
  | install req | update req | deploySimple req => req.app
  | composeInstall req | composeUpdate req | deployCompose req => req.app
  | remove name | stop name | start name | ingressSet name | ingressRemove name =>
    ⟨if h.has ⟨.compose, name⟩ then .compose else .simple, name⟩

def op : Request → Op Unit
  | install req => (Apps.install req).prog
  | update req => (Apps.update req).prog
  | composeInstall req => (Apps.composeInstall req).prog
  | composeUpdate req => (Apps.composeUpdate req).prog
  | deploySimple req => (Apps.deploySimple req).prog
  | deployCompose req => (Apps.deployCompose req).prog
  | remove name => Apps.remove name
  | stop name => Apps.stop name
  | start name => Apps.start name
  -- the kind makes no difference
  | ingressSet name => (Apps.ingressSet ⟨.simple, name⟩).prog
  | ingressRemove name => (Apps.ingressRemove ⟨.simple, name⟩).prog

def Names (name : String) : Request → Prop
  | remove other | stop other | start other | ingressSet other | ingressRemove other => other = name
  | _ => False

/-- What the request does to the app that it names. -/
def on (app : App) : Request → Act app Unit
  | remove _ => do
    Act.check (validateAppName app.name)
    removeApp app
  | stop _ => do
    Act.check (validateAppName app.name)
    Act.docker (.run false)
  | start _ => do
    Act.check (validateAppName app.name)
    Act.docker (.run true)
  | ingressSet _ => Apps.ingressSet app
  | ingressRemove _ => Apps.ingressRemove app
  | _ => pure ()

/-- No app of the other kind has the name that is to be deployed. -/
def Apart (h : Host) : Request → Prop
  | install req | update req | deploySimple req => h.has ⟨.compose, req.name⟩ = false
  | composeInstall req | composeUpdate req | deployCompose req => h.has ⟨.simple, req.name⟩ = false
  | _ => True

end Request

section
variable {J : Host → Prop} {h : Host} {name : String} {app : App}

theorem onApp_stays (act : (app : App) → Act app Unit) (inv : J h)
    (stable : ∀ (c : Change ⟨if h.has ⟨.compose, name⟩ then .compose else .simple, name⟩) t, J t → J (c.apply t)) :
    Stays J (onApp name act) (fun _ _ => True) h := by
  refine Stays.checked inv fun _ _ => ?_
  refine Stays.observed inv ?_
  split
  next eq =>
    rw [if_pos eq] at stable
    exact (act _).within J stable h inv
  next absent =>
    rw [if_neg absent] at stable
    exact Preserves.observed (fun _ => .checked fun _ => (act _).within J stable) h inv

theorem op_stays (request : Request) (inv : J h) (stable : ∀ (c : Change (request.target h)) t, J t → J (c.apply t)) :
    Stays J request.op (fun _ _ => True) h := by
  cases request with
  | install req => exact (install req).within J stable h inv
  | update req => exact (update req).within J stable h inv
  | composeInstall req => exact (composeInstall req).within J stable h inv
  | composeUpdate req => exact (composeUpdate req).within J stable h inv
  | deploySimple req => exact (deploySimple req).within J stable h inv
  | deployCompose req => exact (deployCompose req).within J stable h inv
  | remove name => exact onApp_stays removeApp inv stable
  | stop name => exact onApp_stays (fun _ => .docker (.run false)) inv stable
  | start name => exact onApp_stays (fun _ => .docker (.run true)) inv stable
  | ingressSet name => exact (ingressSet ⟨_, name⟩).within J stable h inv
  | ingressRemove name => exact (ingressRemove ⟨_, name⟩).within J stable h inv

structure Inv (h : Host) : Prop where
  distinct : (h.containers.map (·.name)).Nodup
  named : ∀ c ∈ h.containers, c.app.kind = .simple → c.name = containerName c.app.name
  unique : ∀ c ∈ h.containers, c.app.kind = .simple → (.composeFile, c.app.name) ∉ h.entries

def Alone (app : App) (h : Host) : Prop :=
  (app.kind = .simple → (.composeFile, app.name) ∉ h.entries) ∧
    (app.kind = .compose → ∀ c ∈ h.containers, c.app.kind = .simple → c.app.name ≠ app.name)

theorem Inv.containers {l : List Container} (inv : Inv h) (alone : Alone app h) (distinct : (l.map (·.name)).Nodup)
    (old : ∀ c ∈ l, (∃ d ∈ h.containers, d.name = c.name ∧ d.app = c.app) ∨
      c.app = app ∧ (app.kind = .simple → c.name = containerName app.name)) :
    Inv { h with containers := l } ∧ Alone app { h with containers := l } :=
  ⟨⟨distinct, by grind [inv.named], by grind [inv.unique, Alone]⟩, by grind [Alone]⟩

theorem Inv.entries {l : List (Place × String)} (inv : Inv h) (alone : Alone app h)
    (old : ∀ e ∈ l, e.1 = .composeFile → e ∈ h.entries ∨ e.2 = app.name ∧ app.kind = .compose) :
    Inv { h with entries := l } ∧ Alone app { h with entries := l } :=
  ⟨⟨inv.distinct, inv.named, by grind [inv.unique, Alone]⟩, by grind [Alone]⟩

theorem Inv.apply (c : Change app) (inv : Inv h ∧ Alone app h) : Inv (c.apply h) ∧ Alone app (c.apply h) := by
  cases c with
  | idle => exact inv
  | put name running named =>
    rw [Change.apply]
    split
    · refine inv.1.containers inv.2 ?_ fun c mem => ?_
      · grind [inv.1.distinct]
      · grind
    · exact inv
  | drop which =>
    refine inv.1.containers inv.2 (inv.1.distinct.sublist (filter_sublist.map _)) fun c mem => ?_
    exact .inl ⟨c, mem_of_mem_filter mem, rfl, rfl⟩
  | run running =>
    refine inv.1.containers inv.2 ?_ fun c mem => ?_
    · grind [inv.1.distinct]
    · grind
  | add | erase => exact inv.1.entries inv.2 (by grind)

def Own (app : App) (h : Host) : Prop := ∀ c ∈ h.containers, app.reaches c = true → c.app = app

theorem Own.apply (c : Change app) (own : Own app h) : Own app (c.apply h) := by
  cases c with
  | idle | add _ _ | erase _ => exact own
  | put | drop => grind [Change.apply, Own]
  | run running => grind [Change.apply, Own, App.reaches]

theorem view_apply {other : App} (c : Change app) (own : Own app h) (ne : other.name ≠ app.name) :
    (c.apply h).view other = h.view other := by
  have foreign : ∀ c ∈ h.containers, c.app = other → app.reaches c = false := by grind [Own]
  cases c with
  | idle => rfl
  | put name running named =>
    rw [Change.apply]
    split
    · have new : [(⟨name, app, running⟩ : Container)].filter (·.app = other) = [] := by grind
      refine Prod.ext ?_ rfl
      rw [Host.view, filter_append, new, append_nil, filter_filter]
      exact filter_congr (by grind [Host.free])
    · rfl
  | drop which =>
    refine Prod.ext ?_ rfl
    rw [Host.view, Change.apply, filter_filter]
    exact filter_congr (by grind)
  | run running =>
    refine Prod.ext ?_ rfl
    rw [Host.view, Change.apply, filter_map, filter_congr (q := (·.app = other)) (by grind)]
    exact (map_congr_left (g := id) (by grind)).trans (map_id _)
  | add place named => grind [Host.view, Change.apply]
  | erase place =>
    refine Prod.ext rfl ?_
    rw [Host.view, Change.apply, filter_filter]
    exact filter_congr (by grind)

theorem Inv.own (inv : Inv h) (there : h.has app = true) : Own app h := by
  intro c mem reached
  obtain ⟨kind, name⟩ := app
  cases kind with
  | compose => exact of_decide_eq_true reached
  | simple =>
    obtain ⟨d, known, eq⟩ := any_eq_true.mp there
    have named := inv.named d known
    have equal : c = d := inj_on_of_nodup_map inv.distinct mem known (by grind [App.reaches])
    grind

theorem Inv.identify (inv : Inv h) {a b : App} (one : h.has a = true) (two : h.has b = true) (eq : a.name = b.name) :
    a = b := by
  obtain ⟨kind, name⟩ := a
  obtain ⟨other, _⟩ := b
  have unique := inv.unique
  cases kind <;> cases other <;> grind [Host.has]

variable {request : Request}

theorem Inv.onApp (inv : Inv h) (there : h.has app = true) (act : (app : App) → Act app Unit)
    (faults : List (Option String)) : run (onApp app.name act) ⟨h, faults⟩ =
      run (Fallible.ofExcept (validateAppName app.name) >>= fun _ => (act app).prog) ⟨h, faults⟩ := by
  rw [Apps.onApp, run_bind, run_bind, run_ofExcept]
  cases validateAppName app.name with
  | error e => rfl
  | ok _ =>
    obtain ⟨kind, name⟩ := app
    refine (run_bind_ok rfl).trans ?_
    cases kind with
    | compose => rw [if_pos there]
    | simple =>
      have other : h.has ⟨.compose, name⟩ = false := by grind [inv.identify there]
      have found : h.containerExists (containerName name) = true := by grind [Host.containerExists, Host.has, inv.named]
      refine (congrArg (run · _) (if_neg (Bool.not_eq_true _ ▸ other))).trans ((run_bind_ok rfl).trans ?_)
      exact run_bind_ok (congrArg (·, _) (if_pos found))

theorem Inv.on (inv : Inv h) (there : h.has app = true) (names : request.Names app.name) (faults : List (Option String)) :
    run request.op ⟨h, faults⟩ = run (request.on app).prog ⟨h, faults⟩ := by
  cases request with
  | remove =>
    cases names
    exact inv.onApp there removeApp faults
  | stop =>
    cases names
    exact inv.onApp there (fun _ => .docker (.run false)) faults
  | start =>
    cases names
    exact inv.onApp there (fun _ => .docker (.run true)) faults
  | ingressSet | ingressRemove =>
    cases names
    rfl
  | _ => cases names

theorem Inv.alone (inv : Inv h) (apart : request.Apart h) : Alone (request.target h) h := by
  cases request <;> grind [Request.Apart, Request.target, InstallAppRequest.app, InstallComposeRequest.app, Alone,
    Host.has, inv.unique]

end

abbrev Label := Request × List (Option String)

def Served (h : Host) (label : Label) (t : Host) : Prop := t = (run label.1.op ⟨h, label.2⟩).2.state

theorem Inv.served {h t : Host} {label : Label} (inv : Inv h) (apart : label.1.Apart h) (served : Served h label t) :
    Inv t := by
  have stays := op_stays (J := fun t => Inv t ∧ Alone (label.1.target h) t) label.1 ⟨inv, inv.alone apart⟩
    fun c _ inside => Inv.apply c inside
  rw [served]
  exact (stays label.2).1.1

/-- Where no deployment takes a name of the other kind, names of apps are unique. A request that names
an app is then a program of commands to this app alone, and leaves every other app as it is. -/
theorem names_identify_apps {h : Host} {labels : List Label}
    (ran : Run (fun h label t => label.1.Apart h ∧ Served h label t) {} labels h) :
    (∀ a b, h.has a = true → h.has b = true → a.name = b.name → a = b) ∧
      ∀ app (request : Request) faults, h.has app = true → request.Names app.name →
        run request.op ⟨h, faults⟩ = run (request.on app).prog ⟨h, faults⟩ ∧ ∀ other, h.has other = true →
          other ≠ app → (run request.op ⟨h, faults⟩).2.state.view other = h.view other := by
  have start : Inv {} := ⟨.nil, nofun, nofun⟩
  have inv := ran.invariant start fun _ _ _ inv step => inv.served step.1 step.2
  refine ⟨fun a b => inv.identify, fun app request faults there names => ?_⟩
  have acts := inv.on there names faults
  refine ⟨acts, fun other known strange => ?_⟩
  have apart : other.name ≠ app.name := fun same => strange (inv.identify known there same)
  have stays := (request.on app).within (fun t => Own app t ∧ t.view other = h.view other) fun c t inside =>
    ⟨inside.1.apply c, (view_apply c inside.1 apart).trans inside.2⟩
  rw [acts]
  exact (stays h ⟨inv.own there, rfl⟩ faults).1.2

def installWeb : Label := (.install { name := "web" }, [])

def installStack : Label := (.composeInstall { name := "web", containers := ["web-db-1"] }, [])

/-- A compose app of the same name is installed beside the simple app, and its removal takes the simple
app's manifest and route. -/
theorem compose_takes_name : ∃ h, Run Served {} [installWeb, installStack] h ∧ h.has ⟨.simple, "web"⟩ = true ∧
      h.has ⟨.compose, "web"⟩ = true ∧
      (run (Request.remove "web").op ⟨h, []⟩).2.state.view ⟨.simple, "web"⟩ ≠ h.view ⟨.simple, "web"⟩ :=
  ⟨_, .snoc (.snoc (.nil _) rfl) rfl, by decide +kernel, by decide +kernel, by decide +kernel⟩

def deployStore : Label := (.deployCompose { name := "store", containers := ["store-db-1"] }, [])

theorem names_identify_web : ∃ h, Run Served {} [installWeb, deployStore] h ∧ h.has ⟨.simple, "web"⟩ = true ∧
      h.has ⟨.compose, "store"⟩ = true ∧
      run (Request.remove "store").op ⟨h, []⟩ = run ((Request.remove "store").on ⟨.compose, "store"⟩).prog ⟨h, []⟩ ∧
      (run (Request.remove "store").op ⟨h, []⟩).2.state.has ⟨.compose, "store"⟩ = false ∧
      (run (Request.remove "store").op ⟨h, []⟩).2.state.view ⟨.simple, "web"⟩ = h.view ⟨.simple, "web"⟩ := by
  have served := (names_identify_apps (.snoc (a := deployStore) (.snoc (a := installWeb) (.nil _) ⟨rfl, rfl⟩)
    ⟨rfl, rfl⟩)).2 ⟨.compose, "store"⟩ (.remove "store") [] (by decide +kernel) rfl
  exact ⟨_, .snoc (.snoc (.nil _) rfl) rfl, by decide +kernel, by decide +kernel, served.1, by decide +kernel,
    served.2 _ (by decide +kernel) (by decide +kernel)⟩

end NastyEngine.Apps
