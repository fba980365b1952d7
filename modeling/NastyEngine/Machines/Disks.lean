import NastyEngine.Lib.Lists
import NastyEngine.Volumes.Listing

/-!
A disk over a block subvolume is known by the image behind its loop device (`source`), since the
devices are numbered anew with every boot. Both directions are read off the output of `losetup`.
-/

namespace NastyEngine.Machines
open Lib Rust Volumes List

inductive VmError where
  | notFound (id : String)
  | alreadyExists (name : String)
  | alreadyRunning (name : String)
  | notRunning (name : String)
  | kvmNotAvailable
  | invalidDiskPath (message : String)
  | invalidUsbDevice (message : String)
  | invalidNetwork (message : String)
  | passthrough (message : String)
  | qemuFailed (message : String)
  | qmp (message : String)
  | io (message : String)
  deriving DecidableEq

def VmError.display : VmError → String
  | notFound id => "VM not found: " ++ id
  | alreadyExists name => "VM already exists: " ++ name
  | alreadyRunning name => "VM is already running: " ++ name
  | notRunning name => "VM is not running: " ++ name
  | kvmNotAvailable => "KVM not available: /dev/kvm not found"
  | invalidDiskPath message => "invalid disk path: " ++ message
  | invalidUsbDevice message => "invalid USB device: " ++ message
  | invalidNetwork message => "invalid network configuration: " ++ message
  | passthrough message => "PCI passthrough failed: " ++ message
  | qemuFailed message => "QEMU command failed: " ++ message
  | qmp message => "QMP error: " ++ message
  | io message => "io error: " ++ message

structure VmDisk where
  path : String
  source : Option String := none
  interface : String := "virtio"
  readonly : Bool := false
  cache : Option String := none
  aio : Option String := none
  discard : Option String := none
  iopsRd : Option Nat := none
  iopsWr : Option Nat := none
  deriving DecidableEq

structure LoopTable where
  loops : Keyed String String
  named : ∀ device file, loops.lookup device = some file →
    startsWith device "/dev/loop" = true ∧ device.toList.all (!isWhitespace ·) = true
  absolute : ∀ device file, loops.lookup device = some file →
    startsWith file "/" = true ∧ file.toList.all (!isControl ·) = true
  distinct : ∀ one two file, loops.lookup one = some file → loops.lookup two = some file → one = two

namespace LoopTable

/-- A line of `losetup --list --output NAME,BACK-FILE --noheadings`. -/
def row (width : Nat) (pair : String × String) : List Char :=
  pair.1.toList ++ ' ' :: (List.replicate (width - pair.1.length) ' ' ++ pair.2.toList)

def output (table : LoopTable) (width : Nat) : String :=
  String.ofList ((table.loops.pairs.map (row width)).flatMap (· ++ ['\n']))

end LoopTable

def parseLosetupPairs (output : String) : List (String × String) :=
  (lines output).filterMap fun line =>
    match splitWhitespace line with
    | dev :: back :: _ => some (String.ofList dev, String.ofList back)
    | _ => none

/-- None at all if `losetup` fails. -/
def losetupPairs (output : Option String) : List (String × String) := (output.map parseLosetupPairs).getD []

section
variable (pairs : List (String × String))

def backingFileForDevice (device : String) : Option String := (pairs.find? (·.1 = device)).map (·.2)

def deviceForBackingFile (backing : String) : Option String := (pairs.find? (·.2 = backing)).map (·.1)

def backfillDiskSource (disk : VmDisk) : VmDisk :=
  if disk.source = none ∧ startsWith disk.path "/dev/loop" = true then
    { disk with source := backingFileForDevice pairs disk.path }
  else disk

def backfillDiskSources (disks : List VmDisk) : List VmDisk := disks.map (backfillDiskSource pairs)

def resolveDiskPath (disk : VmDisk) : Except VmError VmDisk :=
  match disk.source with
  | none => .ok disk
  | some source => do
    let dev ← okOr (deviceForBackingFile pairs source)
      (.invalidDiskPath ("backing file " ++ source ++ " is not attached to any loop device"))
    pure { disk with path := dev }

def resolveDiskPaths (disks : List VmDisk) : Except VmError (List VmDisk) := disks.mapM (resolveDiskPath pairs)

end

section
variable {table : LoopTable} {device file : String}

variable {pair : String × String}

theorem LoopTable.printed_row {width : Nat} (hm : pair ∈ table.loops.pairs) :
    ∀ c ∈ row width pair, c ≠ '\n' ∧ c ≠ '\r' := by
  have eq := Keyed.mem_pairs.mp hm
  intro c mem
  have blank : ∀ c, isWhitespace c = false → c ≠ '\n' ∧ c ≠ '\r' := by
    intro c plain
    refine ⟨?_, ?_⟩ <;> rintro rfl <;> exact absurd plain (by decide)
  have control : ∀ c, isControl c = false → c ≠ '\n' ∧ c ≠ '\r' := by
    intro c plain
    refine ⟨?_, ?_⟩ <;> rintro rfl <;> exact absurd plain (by decide)
  rcases mem_append.mp mem with name | rest
  · have plain := all_eq_true.mp (table.named _ _ eq).2 c name
    exact blank c (by simpa using plain)
  · rcases mem_cons.mp rest with rfl | rest
    · decide
    · rcases mem_append.mp rest with pad | back
      · rw [(mem_replicate.mp pad).2]
        decide
      · have plain := all_eq_true.mp (table.absolute _ _ eq).2 c back
        exact control c (by simpa using plain)

theorem LoopTable.lines_output (table : LoopTable) (width : Nat) :
    lines (table.output width) = table.loops.pairs.map (row width) := by
  apply lines_rows
  · intro line mem
    obtain ⟨pair, hm, rfl⟩ := mem_map.mp mem
    exact fun inv => (printed_row hm _ inv).1 rfl
  · intro line mem last
    obtain ⟨pair, hm, rfl⟩ := mem_map.mp mem
    exact (printed_row hm _ (mem_of_getLast? last)).2 rfl

theorem LoopTable.splitWhitespace_row {width : Nat} (hm : pair ∈ table.loops.pairs) :
    splitWhitespace (row width pair) = pair.1.toList :: splitWhitespace pair.2.toList := by
  obtain ⟨loop, plain⟩ := table.named _ _ (Keyed.mem_pairs.mp hm)
  have full : pair.1.toList ≠ [] := by
    intro empty
    rw [startsWith, empty] at loop
    exact absurd loop (by decide)
  rw [row, splitWhitespace_word full (fun c mem => by simpa using all_eq_true.mp plain c mem) (by decide),
    splitWhitespace_blanks]

theorem shownFile_isSome (absolute : startsWith file "/" = true) : ∃ shown, shownFile file = some shown := by
  obtain ⟨rest, text⟩ := isPrefixOf_iff_prefix.mp absolute
  obtain ⟨head, tail, split⟩ := exists_cons_of_ne_nil (splitOnP_ne_nil isWhitespace rest)
  have words : splitWhitespace file.toList = ('/' :: head) :: tail.filter (· ≠ []) := by
    have slash : "/".toList ++ rest = '/' :: rest := rfl
    rw [← text, slash, splitWhitespace, splitOnP_cons_eq_if_modifyHead, if_neg (by decide), split,
      modifyHead_cons, filter_cons_of_pos (by simp)]
  rw [shownFile, words]
  exact ⟨_, rfl⟩

theorem LoopTable.parse_output (table : LoopTable) {width : Nat} : parseLosetupPairs (table.output width) =
      table.loops.pairs.filterMap fun pair => (shownFile pair.2).map (pair.1, ·) := by
  rw [parseLosetupPairs, lines_output, filterMap_map]
  apply filterMap_congr
  intro pair mem
  rw [Function.comp_apply, splitWhitespace_row mem, shownFile]
  cases splitWhitespace pair.2.toList with
  | nil => rfl
  | cons back rest => simp

end

end NastyEngine.Machines
