import NastyEngine.Lib.Script

/-!
The script that the detached update unit runs, command by command. What its reads are answered with
decides which commands are run (`Answers`); a command that only looks, prints or sets what nothing
here depends on is a `look`. With the traps set, a failing command or a signal starts the rollback,
whose own commands succeed.
-/

namespace NastyEngine.Updates
open Lib

inductive File where
  | nix
  | lock
  deriving DecidableEq

structure Files (α : Type) where
  nix : α
  lock : α
  deriving DecidableEq

namespace Files
variable {α : Type}

def get (files : Files α) : File → α
  | .nix => files.nix
  | .lock => files.lock

def set (files : Files α) (value : α) : File → Files α
  | .nix => { files with nix := value }
  | .lock => { files with lock := value }

end Files

structure State where
  live : Files String
  temp : Files (Option String) := ⟨none, none⟩
  generations : List String
  current : Nat
  running : String
  version : String
  marker : Bool
  stage : Files String := ⟨"", ""⟩
  backup : Files String := ⟨"", ""⟩
  result : String := ""
  oldSystem : String := ""
  oldGeneration : Nat := 0
  trapped : Bool := false
  liveMutated : Bool := false
  profileMutated : Bool := false
  markerSet : Bool := false
  healthy : Bool := false
  /-- All checks of the staged build were passed. -/
  verified : Bool := false
  deriving DecidableEq

structure Fresh (s : State) : Prop where
  trapped : s.trapped = false
  liveMutated : s.liveMutated = false
  profileMutated : s.profileMutated = false
  markerSet : s.markerSet = false
  verified : s.verified = false

structure Answers where
  candidate : String
  /-- `flake.lock` after the update steps -/
  updatedLock : String
  closure : String
  executable : String → Bool
  /-- the flake files that a closure was built from, in its `/etc/nasty-system-flake` -/
  snapshot : String → Option (Files String)
  /-- The version is the revision that the lock file has. -/
  tracksBranch : Bool
  /-- the version the success steps write, if any -/
  newVersion : Option String
  spillover : Bool
  tailscaleActive : Bool
  tailscaleTries : Nat
  tailscaleRunning : Bool
  expectedCommit : Bool
  healthFile : Bool
  caddyfile : Bool
  caddyRequired : Bool
  /-- what the rounds of the health loop find: the engine's unit and answer, Caddy's, the previous address -/
  engineOk : Nat → Bool
  caddyOk : Nat → Bool
  previousIp : Nat → Bool
  webuiChanged : Bool

/-- `CADDY_OK` and `TAILSCALE_OK` stay true where the service is not required. -/
def Answers.healthyAt (a : Answers) (round : Nat) : Bool :=
  a.engineOk round && (!a.caddyRequired || a.caddyOk round) &&
    (!(a.tailscaleActive && a.tailscaleRunning) || a.previousIp round)

inductive Command where
  | look (text : String)
  | readOldSystem
  | testProfileSystem
  | readOldGeneration
  | trap (on : Bool)
  | backup (file : File)
  | copyLive
  | stageBackup (file : File)
  | writeCandidate
  | updateSteps
  | build
  | testExecutable
  | compareResult (file : File)
  | createMarker
  | assignMarkerSet (value : Bool)
  | assignLiveMutated
  | installNew (file : File)
  | moveNew (file : File)
  | assignProfileMutated
  | setProfile
  | activate
  | assignHealthy (value : Bool)
  | testHealthy
  | removeMarker
  | restartRecovery
  | compareLive (file : File)
  | writeVersion (text : String)
  deriving DecidableEq

variable (a : Answers)

/-- `recover-generation-flake`: without the marker, the live pair becomes the one of the running system. -/
def recover (s : State) : State := if s.marker then s else { s with live := (a.snapshot s.running).getD s.live }

/-- `switch-to-configuration switch` starts the recovery too. -/
def activateSystem (closure : String) (s : State) : State := recover a { s with running := closure }

def step (c : Command) (s : State) : Option State :=
  match c with
  | .look _ => some s
  | .readOldSystem => some { s with oldSystem := s.running }
  | .testProfileSystem => if s.generations[s.current]? = some s.oldSystem then some s else none
  | .readOldGeneration => some { s with oldGeneration := s.current }
  | .trap on => some { s with trapped := on }
  | .backup file => some { s with backup := s.backup.set (s.live.get file) file }
  | .copyLive => some { s with stage := s.live }
  | .stageBackup file => some { s with stage := s.stage.set (s.backup.get file) file }
  | .writeCandidate => some { s with stage := { s.stage with nix := a.candidate } }
  | .updateSteps => some { s with stage := { s.stage with lock := a.updatedLock } }
  | .build => some { s with result := a.closure }
  | .testExecutable => if a.executable s.result then some s else none
  | .compareResult file =>
    if (a.snapshot s.result).map (·.get file) = some (s.stage.get file) then some { s with verified := file = .lock }
    else none
  | .createMarker => some { s with marker := true }
  | .assignMarkerSet value => some { s with markerSet := value }
  | .assignLiveMutated => some { s with liveMutated := true }
  | .installNew file => some { s with temp := s.temp.set (some (s.stage.get file)) file }
  | .moveNew file =>
    match s.temp.get file with
    | some text => some { s with live := s.live.set text file, temp := s.temp.set none file }
    | none => none
  | .assignProfileMutated => some { s with profileMutated := true }
  | .setProfile =>
    -- The same closure again is no new generation.
    if s.generations[s.current]? = some s.result then some s
    else some { s with generations := s.generations ++ [s.result], current := s.generations.length }
  | .activate => some (activateSystem a s.result s)
  | .assignHealthy value => some { s with healthy := value }
  | .testHealthy => if s.healthy then some s else none
  | .removeMarker => some { s with marker := false }
  | .restartRecovery => some (recover a s)
  | .compareLive file => if s.live.get file = s.stage.get file then some s else none
  | .writeVersion text => some { s with version := text }

/-- What a command may leave when it fails: anything in its targets, and else nothing new. -/
def Spoiled (c : Command) (s t : State) : Prop :=
  match c with
  | .backup _ => ∃ files, t = { s with backup := files }
  | .copyLive | .stageBackup _ | .writeCandidate | .updateSteps => ∃ files, t = { s with stage := files }
  | .build => ∃ closure, t = { s with result := closure }
  | .createMarker | .removeMarker => ∃ there, t = { s with marker := there }
  | .installNew _ => ∃ files, t = { s with temp := files }
  | .moveNew _ => ∃ files temp, t = { s with live := files, temp }
  | .setProfile => ∃ more current, t = { s with generations := s.generations ++ more, current }
  | .activate => ∃ running files, (s.marker = true → files = s.live) ∧ t = { s with running, live := files }
  | .restartRecovery => ∃ files, t = { s with live := files }
  | .writeVersion _ => ∃ text, t = { s with version := text }
  | .look _ | .readOldSystem | .testProfileSystem | .readOldGeneration | .trap _ | .testExecutable
  | .compareResult _ | .assignMarkerSet _ | .assignLiveMutated | .assignProfileMutated | .assignHealthy _
  | .testHealthy | .compareLive _ => t = s

def shell : Shell Command State := ⟨step a, Spoiled⟩

def when (condition : Bool) (commands : List Command) : List Command := if condition then commands else []

def header : List Command :=
  [.look "export PATH", .look "WORK_DIR=$(mktemp -d /var/lib/nasty/update.XXXXXX)", .readOldSystem,
   .look "PROFILE_SYSTEM=$(readlink -f \"$SYSTEM_PROFILE\")", .testProfileSystem, .readOldGeneration,
   .look "test -n \"$OLD_GENERATION\"", .look "LIVE_MUTATED=false", .look "PROFILE_MUTATED=false",
   .look "MARKER_SET=false", .look "TAILSCALE_REQUIRED=false",
   .look "TRANSACTION_STARTED_AT=$(date '+%Y-%m-%d %H:%M:%S')"]

def staging : List Command :=
  [.look "install -d -m 0700 \"$STAGE\" \"$BACKUP\"", .backup .nix, .backup .lock, .copyLive, .stageBackup .nix,
   .stageBackup .lock, .writeCandidate]

/-- The connection that has to be there again after the update. -/
def tailscaleBefore : List Command :=
  [.look "_PROXY_CONF_BEFORE=$(_proxy_conf)", .look "WEBUI_BEFORE=$(grep 'nasty-webui')",
   .look "systemctl is-active --quiet nasty-tailscale.service"] ++
  when a.tailscaleActive
    (List.replicate a.tailscaleTries (.look "tailscale status --json") ++
     [.look "jq -e 'type == \"object\"'", .look "jq -e '.BackendState == \"Running\"'"] ++
     when a.tailscaleRunning [.look "TAILSCALE_IP_BEFORE=$(jq -r '.Self.TailscaleIPs[0] // empty')",
        .look "test -n \"$TAILSCALE_IP_BEFORE\"", .look "TAILSCALE_REQUIRED=true"]) ++
  [.look "echo false > webui-changed"]

def building : List Command :=
  when a.spillover [.look "mkdir -p build-dir", .look "chmod 0755 build-dir"] ++
  [.look "cd \"$STAGE\"", .updateSteps, .build, .look "RESULT=$(readlink -f \"$RESULT_LINK\")"]

def verifying : List Command := [.testExecutable, .compareResult .nix, .compareResult .lock]

def healthTargets : List Command :=
  [.look "EXPECTED_COMMIT=$(jq -r '.nodes[\"nasty\"].locked.rev // empty' \"$STAGE/flake.lock\")"] ++
  when a.expectedCommit [.look "EXPECTED_COMMIT=first 7", .look "test length -eq 7"] ++
  if a.healthFile then [.look "source \"$RESULT/etc/nasty/update-health\""]
  else [.look "ENGINE_HEALTH_URL", .look "CADDY_REQUIRED=false", .look "CADDY_HEALTH_URL="] ++
    when a.caddyfile [.look "CADDY_PORT=$(grep Caddyfile)", .look "test -n \"$CADDY_PORT\"",
      .look "CADDY_REQUIRED=true", .look "CADDY_HEALTH_URL"]

def installPair : List Command := [.installNew .nix, .installNew .lock, .moveNew .nix, .moveNew .lock]

def healthRound (healthy : Bool) : List Command :=
  [.look "ENGINE_HEALTH=$(curl -fsS \"$ENGINE_HEALTH_URL\")"] ++
  when a.caddyRequired [.look "CADDY_HEALTH=$(curl -kfsS \"$CADDY_HEALTH_URL\")",
    .look "systemctl is-active --quiet caddy.service"] ++
  [.look "tailscale_has_previous_ip", .look "systemctl is-active --quiet nasty-engine.service"] ++
  if healthy then [.assignHealthy true] else [.look "sleep 2"]

def healthLoop : Nat → Nat → List Command
  | 0, _ => []
  | rounds + 1, k => healthRound a (a.healthyAt k) ++ if a.healthyAt k then [] else healthLoop rounds (k + 1)

def committing : List Command := [.createMarker, .assignMarkerSet true, .assignLiveMutated]

def activating : List Command :=
  [.assignProfileMutated, .setProfile, .activate, .assignHealthy false] ++ healthLoop a 60 0 ++ [.testHealthy]

def closing : List Command :=
  [.removeMarker, .assignMarkerSet false, .restartRecovery, .compareLive .nix, .compareLive .lock]

def webuiAfter : List Command :=
  [.look "_PROXY_CONF_AFTER=$(_proxy_conf)", .look "WEBUI_AFTER=$(grep 'nasty-webui')"] ++
  when a.webuiChanged [.look "echo true > webui-changed"]

def successSteps : List Command :=
  when a.tracksBranch [.look "NASTY_REV=$(jq -r '.nodes[\"nasty\"].locked.rev // empty' flake.lock)",
    .look "test -n \"$NASTY_REV\""] ++
  match a.newVersion with
  | some text => [.writeVersion text]
  | none => []

def cleanup : List Command :=
  when a.spillover [.look "rm -rf build-dir/*"] ++ [.look "rm -rf \"$WORK_DIR\"", .look "rm -f -- \"$0\"",
    .look "echo \"==> Update complete!\""]

def script : List Command :=
  header ++ [.trap true] ++ (staging ++ tailscaleBefore a ++ building a ++ verifying ++ healthTargets a) ++
    committing ++ installPair ++ activating a ++ closing ++ webuiAfter a ++ successSteps a ++ [.trap false] ++
    cleanup a

/-- `rollback_transaction`; after a signal the previous system is activated by a unit of its own, which
also takes the marker away. -/
def rollback (detach : Bool) (s : State) : State :=
  let s := { s with trapped := false }
  let s := if s.profileMutated && !s.markerSet then { s with marker := true, markerSet := true } else s
  let s := if s.liveMutated then { s with live := s.backup } else s
  let s := if s.profileMutated then activateSystem a s.oldSystem { s with current := s.oldGeneration } else s
  let s := if s.markerSet || detach && s.profileMutated then { s with marker := false } else s
  { s with temp := ⟨none, none⟩ }

def aftermath (cause : Cause) (s : State) : State := if s.trapped then rollback a (cause = .signal) s else s

/-- As it was: the pair, the generation, the version, and no marker. -/
structure Restored (s e : State) : Prop where
  live : e.live = s.live
  current : e.current = s.current
  generations : ∀ (n : Nat) (closure : String), s.generations[n]? = some closure → e.generations[n]? = some closure
  version : e.version = s.version
  marker : e.marker = false

structure Updated (e : State) : Prop where
  live : e.live = e.stage
  profile : e.generations[e.current]? = some e.result
  executable : a.executable e.result = true
  built : a.snapshot e.result = some e.stage
  /-- One of the sixty rounds has found every required service healthy. -/
  healthy : ∃ round < 60, a.healthyAt round = true
  marker : e.marker = false

/-- Where a script may be cut off. With the traps set, the version is the old one, a marker is one the
variables know of, and the recovery of the old system has nothing to change or is held off by the
marker. Without them there is no marker, and the pair has not been touched; past the end of the
transaction, what was installed is what was there. -/
def Clean (s u : State) : Prop :=
  if u.trapped then
    u.version = s.version ∧ (u.marker = true → u.markerSet = true ∨ u.profileMutated = true) ∧
      (u.profileMutated = true → u.markerSet = true → u.marker = false → (a.snapshot s.running).getD s.live = s.live)
  else u.marker = false ∧
    (u.liveMutated = true → u.stage = s.live ∧ u.current = s.current ∧ u.version = s.version)

end NastyEngine.Updates
